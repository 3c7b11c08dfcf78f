import UniversalInbox.Library.DateText
import UniversalInbox.Library.Results
import UniversalInbox.Library.TimeZones

/-! The recurrence of a calendar event is read from the lines that are given for it, and written
back as lines. The lines are parsed by another crate. -/
namespace UniversalInbox.EventRecurrence
open Calendar DateText Results

/-- `DateTime<Tz>`, an instant and the time zone it is shown in. -/
structure DateTime where
  seconds : Int
  tz : TimeZone

namespace DateTime

def epoch : DateTime := ⟨0, .utc⟩

/-- What the clock of its time zone reads. -/
def clock (t : DateTime) : Clock := Clock.ofSeconds (t.tz.toLocal t.seconds) 0 Time.noFraction_lt

/-- The instant at which a clock in UTC reads the same. -/
def readInUtc (t : DateTime) : DateTime := ⟨t.tz.toLocal t.seconds, .utc⟩

def InUtc (t : DateTime) : Prop := (t.tz.offsetAt t.seconds).seconds = 0

def FourDigits (t : DateTime) : Prop := 0 ≤ year t.clock.date ∧ year t.clock.date < 10000

end DateTime

/-- `%Y%m%dT%H%M%SZ` -/
def icalItems : List Item :=
  [.year, .month, .day, .literal 'T', .hour, .minute, .second, .literal 'Z']

/-- The clock of the time zone is read, whatever the `Z` says. -/
def icalText (t : DateTime) : String := String.ofList (format icalItems t.clock)

/-- What a line is read as. The rules are not validated yet, and a start need not be a date. -/
inductive Property (Unvalidated : Type) where
  | dtStart (start : Option DateTime)
  | rrule (rule : Unvalidated)
  | rdate (dates : List DateTime)
  | exrule
  | exdate (dates : List DateTime)

structure RRuleSet (Rule : Type) where
  start : DateTime
  rrule : List Rule
  rdate : List DateTime
  exrule : List Rule
  exdate : List DateTime

/-- The other crate: it parses a text, line by line, and displays rules. -/
structure Crate (Unvalidated Rule : Type) where
  parse : String → Except String (RRuleSet Rule)
  readLine : String → Option (Property Unvalidated)
  /-- Of several starts. -/
  startOf : List (Option DateTime) → Option DateTime
  validate : Unvalidated → DateTime → Option Rule
  display : Rule → String
  unvalidated : Rule → Unvalidated
  /-- A rule may end at a local time only if its set starts at one, for instance. -/
  allows : Rule → DateTime → Bool

section Properties
variable {Unvalidated Rule : Type}

namespace Property

def start? : Property Unvalidated → Option (Option DateTime)
  | dtStart start => some start
  | _ => none

def rrule? : Property Unvalidated → Option Unvalidated
  | rrule rule => some rule
  | _ => none

def rdates : Property Unvalidated → List DateTime
  | rdate dates => dates
  | _ => []

def exdates : Property Unvalidated → List DateTime
  | exdate dates => dates
  | _ => []

end Property

namespace Crate
variable (crate : Crate Unvalidated Rule)

/-- A rule or a date is asked for. The crate is built without its feature for `EXRULE` lines, which
are dropped. -/
def readProperties (properties : List (Property Unvalidated)) : Option (RRuleSet Rule) := do
  let start ← crate.startOf (properties.filterMap Property.start?)
  let rrule ← (properties.filterMap Property.rrule?).mapM fun rule => crate.validate rule start
  let rdate := properties.flatMap Property.rdates
  if rrule.isEmpty ∧ rdate.isEmpty then none
  else
    some
      { start := start
        rrule := rrule
        rdate := rdate
        exrule := []
        exdate := properties.flatMap Property.exdates }

def readLines (lines : List String) : Option (RRuleSet Rule) :=
  (lines.mapM crate.readLine).bind crate.readProperties

end Crate

/-- A line of a text. -/
def IsLine (text : String) : Prop :=
  text ≠ "" ∧ '\n' ∉ text.toList ∧ '\r' ∉ text.toList

/-- The crate reads a text by its lines, has four digits for a year, and reads what is printed of a
single rule or date as that rule or date. -/
structure Faithful (crate : Crate Unvalidated Rule) : Prop where
  lines {lines : List String} (hlines : ∀ line ∈ lines, IsLine line) (set : RRuleSet Rule) :
    crate.parse ("\n".intercalate lines) = .ok set ↔ crate.readLines lines = some set
  start (t : DateTime) : crate.startOf [some t] = some t
  year {line : String} {property : Property Unvalidated}
    (h : crate.readLine line = some property) :
    ∀ t ∈ property.rdates ++ property.exdates, t.FourDigits
  dtStart : crate.readLine ("DTSTART:" ++ icalText .epoch) = some (.dtStart (some .epoch))
  rdate {t : DateTime} (h : t.FourDigits) :
    crate.readLine ("RDATE:" ++ icalText t) = some (.rdate [t.readInUtc])
  exdate {t : DateTime} (h : t.FourDigits) :
    crate.readLine ("EXDATE:" ++ icalText t) = some (.exdate [t.readInUtc])
  rrule (rule : Rule) :
    crate.readLine ("RRULE:" ++ crate.display rule) = some (.rrule (crate.unvalidated rule))
  displayed (rule : Rule) : '\n' ∉ (crate.display rule).toList ∧ '\r' ∉ (crate.display rule).toList
  validated {unvalidated : Unvalidated} {start start' : DateTime} {rule : Rule}
    (h : crate.validate unvalidated start = some rule) (hstart : start'.seconds = start.seconds) :
    crate.validate (crate.unvalidated rule) start' =
      if crate.allows rule start' then some rule else none
  allowed {unvalidated : Unvalidated} {start : DateTime} {rule : Rule}
    (h : crate.validate unvalidated start = some rule) : crate.allows rule start = true

section Recurrence
variable (crate : Crate Unvalidated Rule)

def startsWith (text pattern : String) : Bool := pattern.toList.isPrefixOf text.toList

def hasDtstart (properties : List String) : Bool :=
  properties.any fun property => startsWith property "DTSTART:"

/-- `parse_rrule_set_from_ical_properties` -/
def parseRruleSet (properties : List String) : Except String (RRuleSet Rule) :=
  let icalString := if hasDtstart properties then "" else "DTSTART:" ++ icalText .epoch ++ "\n"
  (crate.parse (icalString ++ "\n".intercalate properties)).mapError fun e =>
    s!"Failed to parse iCal recurrence properties: {e}"

def deserializeRecurrence :
    Option (List String) → Except String (Option (RRuleSet Rule))
  | some strings =>
    if strings ≠ [] then (parseRruleSet crate strings).map some else .ok none
  | none => .ok none

def recurrenceStrings (set : RRuleSet Rule) : List String :=
  set.rrule.map (fun rule => "RRULE:" ++ crate.display rule) ++
    set.rdate.map (fun t => "RDATE:" ++ icalText t) ++
    set.exrule.map (fun rule => "EXRULE:" ++ crate.display rule) ++
    set.exdate.map (fun t => "EXDATE:" ++ icalText t)

def serializeRecurrence : Option (RRuleSet Rule) → Option (List String)
  | some set => some (recurrenceStrings crate set)
  | none => none

/-- Times are equal where the instants are. -/
structure Same (set other : RRuleSet Rule) : Prop where
  start : set.start.seconds = other.start.seconds
  rrule : set.rrule = other.rrule
  rdate : set.rdate.map DateTime.seconds = other.rdate.map DateTime.seconds
  exrule : set.exrule = other.exrule
  exdate : set.exdate.map DateTime.seconds = other.exdate.map DateTime.seconds

/-- What is accepted is the same when it is written and read again. -/
def Survives (strings : Option (List String)) : Prop :=
  ∀ result, deserializeRecurrence crate strings = .ok result →
    ∃ again, deserializeRecurrence crate (serializeRecurrence crate result) = .ok again ∧
      Option.Rel Same again result

/-- What is read of the lines that are written of a set without `EXRULE`s. -/
def stored (set : RRuleSet Rule) : List (Property Unvalidated) :=
  set.rrule.map (fun rule => .rrule (crate.unvalidated rule)) ++
    set.rdate.map (fun t => .rdate [t.readInUtc]) ++
    set.exdate.map (fun t => .exdate [t.readInUtc])

/-- The lines that are parsed. -/
def withStart (lines : List String) : List String :=
  if hasDtstart lines then lines else ("DTSTART:" ++ icalText .epoch) :: lines

/-- The start is the one that is put in place of a missing one, with which the rules are allowed
too, and every date reads in its time zone as it does in UTC. -/
structure Kept (properties : List (Property Unvalidated)) : Prop where
  start : ∀ start, crate.startOf (properties.filterMap Property.start?) = some start →
    start.seconds = 0
  rules : ∀ start, crate.startOf (properties.filterMap Property.start?) = some start →
    ∀ unvalidated ∈ properties.filterMap Property.rrule?,
      ∀ rule, crate.validate unvalidated start = some rule → crate.allows rule .epoch
  dates : ∀ t ∈ properties.flatMap Property.rdates ++ properties.flatMap Property.exdates, t.InUtc

end Recurrence

section Lists
variable {α β γ : Type} {f : β → Option γ} {l : List β}

theorem mapM_map_of {items : List α} {g : α → β} {h : α → γ}
    (hall : ∀ a ∈ items, f (g a) = some (h a)) :
    (items.map g).mapM f = some (items.map h) := by
  induction items with
  | nil => rfl
  | cons a items ih =>
    rw [List.map_cons, List.mapM_cons, hall a List.mem_cons_self,
      ih fun b hb => hall b (List.mem_cons_of_mem _ hb)]
    rfl

theorem flatMap_nil (items : List α) : (items.flatMap fun _ => ([] : List β)) = [] :=
  List.flatMap_eq_nil_iff.mpr fun _ _ => rfl

theorem mem_iff_of_mapM {l' : List γ} (h : l.mapM f = some l') (c : γ) :
    c ∈ l' ↔ ∃ b ∈ l, f b = some c := by
  induction l generalizing l' with
  | nil =>
    cases h
    simp
  | cons b l ih =>
    rw [List.mapM_cons] at h
    obtain ⟨c', hc', h⟩ := Option.bind_eq_some_iff.mp h
    obtain ⟨rest, hrest, h⟩ := Option.bind_eq_some_iff.mp h
    cases h
    rw [List.mem_cons, ih hrest]
    simp only [List.mem_cons, exists_eq_or_imp, hc', Option.some.injEq]
    rw [eq_comm]

theorem mapM_eq_self_iff {items : List γ} {g : γ → β} {p : γ → Bool}
    (hall : ∀ a ∈ items, f (g a) = if p a then some a else none) :
    (items.map g).mapM f = some items ↔ ∀ a ∈ items, p a = true := by
  induction items with
  | nil => simp
  | cons a items ih =>
    have hitems := ih fun b hb => hall b (List.mem_cons_of_mem _ hb)
    rw [List.map_cons, List.mapM_cons, hall a List.mem_cons_self, List.forall_mem_cons, ← hitems]
    cases p a with
    | false => simp
    | true => cases (items.map g).mapM f <;> simp

end Lists

section Reading
variable {crate : Crate Unvalidated Rule} {lines : List String} {set : RRuleSet Rule}
  {properties : List (Property Unvalidated)}

theorem isLine_append {tag value : String} (htag : IsLine tag) (hnewline : '\n' ∉ value.toList)
    (hreturn : '\r' ∉ value.toList) : IsLine (tag ++ value) := by
  refine ⟨fun h => htag.1 ?_, ?_, ?_⟩
  · exact (String.append_eq_empty_iff.mp h).1
  · rw [String.toList_append, List.mem_append]
    exact not_or.mpr ⟨htag.2.1, hnewline⟩
  · rw [String.toList_append, List.mem_append]
    exact not_or.mpr ⟨htag.2.2, hreturn⟩

theorem not_mem_icalText {c : Char} (hdigit : c.isDigit = false)
    (hc : c ≠ '-' ∧ c ≠ '+' ∧ Item.literal c ∉ icalItems) (t : DateTime) :
    c ∉ (icalText t).toList := by
  rw [icalText, String.toList_ofList]
  intro hmem
  rcases of_mem_format hmem with h | h | h | h
  · rw [hdigit] at h
    cases h
  · exact hc.1 h
  · exact hc.2.1 h
  · exact hc.2.2 h

theorem isLine_icalText {tag : String} (htag : IsLine tag) (t : DateTime) :
    IsLine (tag ++ icalText t) :=
  isLine_append htag (not_mem_icalText (by decide) (by decide) t)
    (not_mem_icalText (by decide) (by decide) t)

theorem isLine_display (hcrate : Faithful crate) {tag : String} (htag : IsLine tag) (rule : Rule) :
    IsLine (tag ++ crate.display rule) :=
  isLine_append htag (hcrate.displayed rule).1 (hcrate.displayed rule).2

theorem isLine_recurrenceStrings (hcrate : Faithful crate) (set : RRuleSet Rule) :
    ∀ line ∈ recurrenceStrings crate set, IsLine line := by
  intro line hline
  simp only [recurrenceStrings, List.mem_append, List.mem_map] at hline
  rcases hline with ((⟨rule, -, rfl⟩ | ⟨t, -, rfl⟩) | ⟨rule, -, rfl⟩) | ⟨t, -, rfl⟩
  · exact isLine_display hcrate ⟨by decide, by decide, by decide⟩ rule
  · exact isLine_icalText ⟨by decide, by decide, by decide⟩ t
  · exact isLine_display hcrate ⟨by decide, by decide, by decide⟩ rule
  · exact isLine_icalText ⟨by decide, by decide, by decide⟩ t

theorem hasDtstart_recurrenceStrings (set : RRuleSet Rule) :
    hasDtstart (recurrenceStrings crate set) = false := by
  rw [hasDtstart, List.any_eq_false]
  intro line hline
  simp only [recurrenceStrings, List.mem_append, List.mem_map] at hline
  rcases hline with ((⟨rule, -, rfl⟩ | ⟨t, -, rfl⟩) | ⟨rule, -, rfl⟩) | ⟨t, -, rfl⟩
  all_goals
    rw [startsWith, String.toList_append]
    exact Bool.false_ne_true

theorem parseRruleSet_eq_ok_iff (hcrate : Faithful crate) (hlines : ∀ line ∈ lines, IsLine line)
    (hne : lines ≠ []) :
    parseRruleSet crate lines = .ok set ↔ crate.readLines (withStart lines) = some set := by
  have hstart : ∀ line ∈ ("DTSTART:" ++ icalText .epoch) :: lines, IsLine line := by
    rintro line (_ | ⟨_, hline⟩)
    · exact isLine_icalText ⟨by decide, by decide, by decide⟩ _
    · exact hlines line hline
  unfold parseRruleSet withStart
  dsimp only
  rw [mapError_eq_ok]
  split
  · rw [String.empty_append, hcrate.lines hlines]
  · rw [← hcrate.lines hstart, String.intercalate_cons_of_ne_nil hne]

theorem mapM_readLine_recurrenceStrings (hcrate : Faithful crate) (hexrule : set.exrule = [])
    (hyear : ∀ t ∈ set.rdate ++ set.exdate, t.FourDigits) :
    (recurrenceStrings crate set).mapM crate.readLine = some (stored crate set) := by
  have hrrule : (set.rrule.map fun rule => "RRULE:" ++ crate.display rule).mapM crate.readLine =
    _ := mapM_map_of fun rule _ => hcrate.rrule rule
  have hrdate : (set.rdate.map fun t => "RDATE:" ++ icalText t).mapM crate.readLine = _ :=
    mapM_map_of fun t ht => hcrate.rdate (hyear t (List.mem_append_left _ ht))
  have hexdate : (set.exdate.map fun t => "EXDATE:" ++ icalText t).mapM crate.readLine = _ :=
    mapM_map_of fun t ht => hcrate.exdate (hyear t (List.mem_append_right _ ht))
  rw [recurrenceStrings, hexrule, List.map_nil, List.append_nil, List.mapM_append,
    List.mapM_append, hrrule, hrdate, hexdate]
  rfl

theorem start?_stored (set : RRuleSet Rule) :
    (stored crate set).filterMap Property.start? = [] := by
  simp [stored, List.filterMap_map, Function.comp_def, Property.start?]

theorem rrule?_stored (set : RRuleSet Rule) :
    (stored crate set).filterMap Property.rrule? = set.rrule.map crate.unvalidated := by
  simp [stored, List.filterMap_map, Function.comp_def, Property.rrule?]

theorem rdates_stored (set : RRuleSet Rule) :
    (stored crate set).flatMap Property.rdates = set.rdate.map DateTime.readInUtc := by
  simp only [stored, List.flatMap_append, List.flatMap_map, Property.rdates, flatMap_nil,
    List.nil_append, List.append_nil]
  exact List.map_eq_flatMap.symm

theorem exdates_stored (set : RRuleSet Rule) :
    (stored crate set).flatMap Property.exdates = set.exdate.map DateTime.readInUtc := by
  simp only [stored, List.flatMap_append, List.flatMap_map, Property.exdates, flatMap_nil,
    List.nil_append, List.append_nil]
  exact List.map_eq_flatMap.symm

/-- A set is read where a start is found, every rule is validated by it and there is a rule or a
date. -/
structure Read (crate : Crate Unvalidated Rule) (properties : List (Property Unvalidated))
    (set : RRuleSet Rule) : Prop where
  start : crate.startOf (properties.filterMap Property.start?) = some set.start
  rrule : (properties.filterMap Property.rrule?).mapM (fun rule => crate.validate rule set.start) =
    some set.rrule
  rdate : set.rdate = properties.flatMap Property.rdates
  exrule : set.exrule = []
  exdate : set.exdate = properties.flatMap Property.exdates
  generates : ¬ (set.rrule.isEmpty ∧ set.rdate.isEmpty)

theorem readProperties_eq_some_iff :
    crate.readProperties properties = some set ↔ Read crate properties set := by
  constructor
  · intro h
    obtain ⟨start, hstart, h⟩ := Option.bind_eq_some_iff.mp h
    obtain ⟨rrule, hrrule, h⟩ := Option.bind_eq_some_iff.mp h
    by_cases hempty : rrule.isEmpty ∧ (properties.flatMap Property.rdates).isEmpty
    · rw [if_pos hempty] at h
      cases h
    · rw [if_neg hempty] at h
      cases h
      exact ⟨hstart, hrrule, rfl, rfl, rfl, hempty⟩
  · rintro ⟨hstart, hrrule, hrdate, hexrule, hexdate, hgenerates⟩
    unfold Crate.readProperties
    simp only [Option.bind_eq_bind, hstart, Option.bind_some, hrrule, ← hrdate, ← hexdate]
    rw [if_neg hgenerates, ← hexrule]

/-- What is written is read with the start in place of the missing one. -/
theorem read_stored_iff (hcrate : Faithful crate) {again : RRuleSet Rule} :
    Read crate (.dtStart (some .epoch) :: stored crate set) again ↔
      again.start = .epoch ∧
        (set.rrule.map crate.unvalidated).mapM (fun rule => crate.validate rule again.start) =
          some again.rrule ∧
        again.rdate = set.rdate.map DateTime.readInUtc ∧
        again.exrule = [] ∧
        again.exdate = set.exdate.map DateTime.readInUtc ∧
        ¬ (again.rrule.isEmpty ∧ again.rdate.isEmpty) := by
  have hstart : (Property.dtStart (some .epoch) :: stored crate set).filterMap Property.start? =
      [some .epoch] := congrArg (some DateTime.epoch :: ·) (start?_stored set)
  have hrrule : (Property.dtStart (some .epoch) :: stored crate set).filterMap Property.rrule? =
      set.rrule.map crate.unvalidated := rrule?_stored set
  have hrdate : (Property.dtStart (some .epoch) :: stored crate set).flatMap Property.rdates =
      set.rdate.map DateTime.readInUtc := rdates_stored set
  have hexdate : (Property.dtStart (some .epoch) :: stored crate set).flatMap Property.exdates =
      set.exdate.map DateTime.readInUtc := exdates_stored set
  constructor
  · rintro ⟨h₁, h₂, h₃, h₄, h₅, h₆⟩
    rw [hstart, hcrate.start, Option.some.injEq] at h₁
    rw [hrrule] at h₂
    exact ⟨h₁.symm, h₂, h₃.trans hrdate, h₄, h₅.trans hexdate, h₆⟩
  · rintro ⟨h₁, h₂, h₃, h₄, h₅, h₆⟩
    refine ⟨?_, ?_, h₃.trans hrdate.symm, h₄, h₅.trans hexdate.symm, h₆⟩
    · rw [hstart, hcrate.start, h₁]
    · rw [hrrule, h₂]

theorem inUtc_iff (t : DateTime) : t.readInUtc.seconds = t.seconds ↔ t.InUtc := by
  unfold DateTime.readInUtc DateTime.InUtc TimeZone.toLocal
  dsimp only
  omega

theorem dates_eq_iff (dates : List DateTime) :
    (dates.map DateTime.readInUtc).map DateTime.seconds = dates.map DateTime.seconds ↔
      ∀ t ∈ dates, t.InUtc := by
  rw [List.map_map, List.map_inj_left]
  exact forall₂_congr fun t _ => inUtc_iff t

/-- A rule that is printed is validated again by the start in place of its own. -/
theorem mapM_validate_iff (hcrate : Faithful crate) {rules : List Rule} {start : DateTime}
    (hrules : ∀ rule ∈ rules, ∃ unvalidated, crate.validate unvalidated start = some rule)
    (hstart : start.seconds = 0) :
    (rules.map crate.unvalidated).mapM (fun rule => crate.validate rule .epoch) = some rules ↔
      ∀ rule ∈ rules, crate.allows rule .epoch = true := by
  refine mapM_eq_self_iff fun rule hrule => ?_
  obtain ⟨unvalidated, hvalid⟩ := hrules rule hrule
  exact hcrate.validated hvalid hstart.symm

/-- What a set needs to be read again as it is. -/
structure KeptSet (crate : Crate Unvalidated Rule) (set : RRuleSet Rule) : Prop where
  start : set.start.seconds = 0
  rules : ∀ rule ∈ set.rrule, crate.allows rule .epoch = true
  dates : ∀ t ∈ set.rdate ++ set.exdate, t.InUtc

theorem Read.validated (h : Read crate properties set) : ∀ rule ∈ set.rrule,
    ∃ unvalidated, crate.validate unvalidated set.start = some rule := by
  intro rule hrule
  obtain ⟨unvalidated, -, hvalid⟩ := (mem_iff_of_mapM h.rrule rule).mp hrule
  exact ⟨unvalidated, hvalid⟩

theorem reread_iff (hcrate : Faithful crate) (h : Read crate properties set) :
    (∃ again, Read crate (.dtStart (some .epoch) :: stored crate set) again ∧ Same again set) ↔
      KeptSet crate set := by
  constructor
  · rintro ⟨again, hread, hsame⟩
    obtain ⟨hstart, hrrule, hrdate, -, hexdate, -⟩ := (read_stored_iff hcrate).mp hread
    have hzero : set.start.seconds = 0 := by
      rw [← hsame.start, hstart]
      rfl
    rw [hstart, hsame.rrule] at hrrule
    refine ⟨hzero, (mapM_validate_iff hcrate h.validated hzero).mp hrrule,
      List.forall_mem_append.mpr ⟨?_, ?_⟩⟩
    · exact (dates_eq_iff _).mp (hrdate ▸ hsame.rdate)
    · exact (dates_eq_iff _).mp (hexdate ▸ hsame.exdate)
  · intro hkept
    obtain ⟨hrdate, hexdate⟩ := List.forall_mem_append.mp hkept.dates
    refine ⟨⟨.epoch, set.rrule, _, [], _⟩,
      (read_stored_iff hcrate).mpr ⟨rfl, ?_, rfl, rfl, rfl, ?_⟩,
      hkept.start.symm, rfl, (dates_eq_iff _).mpr hrdate, h.exrule.symm,
      (dates_eq_iff _).mpr hexdate⟩
    · exact (mapM_validate_iff hcrate h.validated hkept.start).mpr hkept.rules
    · rw [List.isEmpty_map]
      exact h.generates

theorem Read.recurrenceStrings_ne_nil (h : Read crate properties set) :
    recurrenceStrings crate set ≠ [] := by
  intro hnil
  simp only [recurrenceStrings, List.append_eq_nil_iff, List.map_eq_nil_iff] at hnil
  obtain ⟨⟨⟨hrrule, hrdate⟩, -⟩, -⟩ := hnil
  exact h.generates ⟨List.isEmpty_iff.mpr hrrule, List.isEmpty_iff.mpr hrdate⟩

theorem Read.rules_iff (h : Read crate properties set) (p : Rule → Prop) :
    (∀ rule ∈ set.rrule, p rule) ↔ ∀ unvalidated ∈ properties.filterMap Property.rrule?,
      ∀ rule, crate.validate unvalidated set.start = some rule → p rule := by
  simp only [mem_iff_of_mapM h.rrule]
  constructor
  · intro hall unvalidated hmem rule hrule
    exact hall rule ⟨unvalidated, hmem, hrule⟩
  · rintro hall rule ⟨unvalidated, hmem, hrule⟩
    exact hall unvalidated hmem rule hrule

theorem kept_iff (h : Read crate properties set) : Kept crate properties ↔ KeptSet crate set := by
  constructor
  · intro hkept
    refine ⟨hkept.start _ h.start, (h.rules_iff _).mpr (hkept.rules _ h.start), ?_⟩
    rw [h.rdate, h.exdate]
    exact hkept.dates
  · intro hset
    refine ⟨?_, ?_, ?_⟩
    · intro start hstart
      rw [h.start] at hstart
      cases hstart
      exact hset.start
    · intro start hstart
      rw [h.start] at hstart
      cases hstart
      exact (h.rules_iff _).mp hset.rules
    · rw [← h.rdate, ← h.exdate]
      exact hset.dates

/-- Without a start of their own the rules are as they were, and only the dates count. -/
theorem kept_iff_of_no_start (hcrate : Faithful crate)
    (hstart : properties.filterMap Property.start? = [some .epoch]) : Kept crate properties ↔
      ∀ t ∈ properties.flatMap Property.rdates ++ properties.flatMap Property.exdates, t.InUtc := by
  constructor
  · exact Kept.dates
  · intro hdates
    refine ⟨?_, ?_, hdates⟩
    · intro start h
      rw [hstart, hcrate.start] at h
      cases h
      rfl
    · intro start h unvalidated _ rule hrule
      rw [hstart, hcrate.start] at h
      cases h
      exact hcrate.allowed hrule

theorem fourDigits_of_read (hcrate : Faithful crate)
    (hlines : lines.mapM crate.readLine = some properties) (h : Read crate properties set) :
    ∀ t ∈ set.rdate ++ set.exdate, t.FourDigits := by
  rw [h.rdate, h.exdate]
  intro t ht
  have hproperty : ∃ property ∈ properties, t ∈ property.rdates ++ property.exdates := by
    simp only [List.mem_append, List.mem_flatMap] at ht ⊢
    rcases ht with ⟨property, hproperty, ht⟩ | ⟨property, hproperty, ht⟩
    · exact ⟨property, hproperty, .inl ht⟩
    · exact ⟨property, hproperty, .inr ht⟩
  obtain ⟨property, hmem, ht⟩ := hproperty
  obtain ⟨line, -, hline⟩ := (mem_iff_of_mapM hlines property).mp hmem
  exact hcrate.year hline t ht

theorem deserialize_serialize_iff (hcrate : Faithful crate)
    (hlines : lines.mapM crate.readLine = some properties) (h : Read crate properties set)
    (again : RRuleSet Rule) :
    deserializeRecurrence crate (serializeRecurrence crate (some set)) = .ok (some again) ↔
      Read crate (.dtStart (some .epoch) :: stored crate set) again := by
  have hne := h.recurrenceStrings_ne_nil
  have hread : crate.readLines (withStart (recurrenceStrings crate set)) =
      crate.readProperties (.dtStart (some .epoch) :: stored crate set) := by
    rw [withStart, hasDtstart_recurrenceStrings, if_neg Bool.false_ne_true, Crate.readLines,
      List.mapM_cons, hcrate.dtStart,
      mapM_readLine_recurrenceStrings hcrate h.exrule (fourDigits_of_read hcrate hlines h)]
    rfl
  rw [serializeRecurrence, deserializeRecurrence, if_pos hne, map_eq_ok,
    ← readProperties_eq_some_iff, ← hread,
    ← parseRruleSet_eq_ok_iff hcrate (isLine_recurrenceStrings hcrate set) hne]
  constructor
  · rintro ⟨set', hset', heq⟩
    cases heq
    exact hset'
  · intro hset'
    exact ⟨again, hset', rfl⟩

theorem survives_of_read_iff (hcrate : Faithful crate)
    (hlines : lines.mapM crate.readLine = some properties) (h : Read crate properties set) :
    (∃ again, deserializeRecurrence crate (serializeRecurrence crate (some set)) = .ok again ∧
      Option.Rel Same again (some set)) ↔ Kept crate properties := by
  rw [kept_iff h, ← reread_iff hcrate h]
  constructor
  · rintro ⟨_, hagain, ⟨hsame⟩⟩
    exact ⟨_, (deserialize_serialize_iff hcrate hlines h _).mp hagain, hsame⟩
  · rintro ⟨again, hread, hsame⟩
    exact ⟨_, (deserialize_serialize_iff hcrate hlines h again).mpr hread, .some hsame⟩

theorem deserialize_eq_ok_some_iff (hcrate : Faithful crate)
    (hlines : ∀ line ∈ lines, IsLine line) (hne : lines ≠ []) (result : Option (RRuleSet Rule)) :
    deserializeRecurrence crate (some lines) = .ok result ↔
      ∃ set, crate.readLines (withStart lines) = some set ∧ some set = result := by
  rw [deserializeRecurrence, if_pos hne, map_eq_ok]
  simp only [parseRruleSet_eq_ok_iff hcrate hlines hne]

/-- Lines of any number, with starts, rules and dates in any time zones. -/
theorem recurrence_survives_iff (hcrate : Faithful crate) (strings : Option (List String))
    (hlines : ∀ lines ∈ strings, ∀ line ∈ lines, IsLine line) :
    Survives crate strings ↔ ∀ lines ∈ strings, lines ≠ [] →
      ∀ properties, (withStart lines).mapM crate.readLine = some properties →
        (crate.readProperties properties).isSome → Kept crate properties := by
  have hnothing (h : deserializeRecurrence crate strings = .ok none) : Survives crate strings := by
    intro result hresult
    rw [h] at hresult
    cases hresult
    exact ⟨none, rfl, .none⟩
  cases strings with
  | none => exact iff_of_true (hnothing rfl) fun _ h => nomatch h
  | some lines =>
    by_cases hne : lines = []
    · subst hne
      refine iff_of_true (hnothing rfl) ?_
      rintro _ ⟨rfl⟩ hne
      exact absurd rfl hne
    · replace hlines := hlines lines rfl
      constructor
      · rintro hsurvives _ ⟨rfl⟩ - properties hproperties hread
        obtain ⟨set, hset⟩ := Option.isSome_iff_exists.mp hread
        refine (survives_of_read_iff hcrate hproperties (readProperties_eq_some_iff.mp hset)).mp ?_
        refine hsurvives _ ((deserialize_eq_ok_some_iff hcrate hlines hne _).mpr ⟨set, ?_, rfl⟩)
        rw [Crate.readLines, hproperties]
        exact hset
      · rintro hkept result hresult
        obtain ⟨set, hset, rfl⟩ := (deserialize_eq_ok_some_iff hcrate hlines hne _).mp hresult
        obtain ⟨properties, hproperties, hset⟩ := Option.bind_eq_some_iff.mp hset
        refine (survives_of_read_iff hcrate hproperties (readProperties_eq_some_iff.mp hset)).mpr ?_
        exact hkept lines rfl hne properties hproperties (Option.isSome_iff_exists.mpr ⟨set, hset⟩)

end Reading

end Properties

section Utc

/-- The text of a rule that already has its time of day. -/
def RuleText : Type := { text : String // '\n' ∉ text.toList ∧ '\r' ∉ text.toList }

def readDate (s : List Char) : Option DateTime := do
  let p ← parse icalItems s
  let clock ← p.toNaiveDatetime
  if clock.time.fraction = 0 ∧ 0 ≤ year clock.date ∧ year clock.date < 10000 then
    some ⟨clock.seconds, .utc⟩
  else none

def readUtcLine (line : String) : Option (Property String) :=
  match line.toList with
  | 'D' :: 'T' :: 'S' :: 'T' :: 'A' :: 'R' :: 'T' :: ':' :: value => some (.dtStart (readDate value))
  | 'R' :: 'R' :: 'U' :: 'L' :: 'E' :: ':' :: value => some (.rrule (String.ofList value))
  | 'R' :: 'D' :: 'A' :: 'T' :: 'E' :: ':' :: value => (readDate value).map fun t => .rdate [t]
  | 'E' :: 'X' :: 'R' :: 'U' :: 'L' :: 'E' :: ':' :: _ => some .exrule
  | 'E' :: 'X' :: 'D' :: 'A' :: 'T' :: 'E' :: ':' :: value =>
    (readDate value).map fun t => .exdate [t]
  | _ => none

def lineCrate : Crate String RuleText where
  parse _ := .error ""
  readLine := readUtcLine
  startOf starts := starts.head?.join
  validate text _ :=
    if h : '\n' ∉ text.toList ∧ '\r' ∉ text.toList then some ⟨text, h⟩ else none
  display rule := rule.val
  unvalidated rule := rule.val
  allows _ _ := true

/-- It knows no time zones. -/
def utcCrate : Crate String RuleText :=
  { lineCrate with
    parse := fun text =>
      match lineCrate.readLines ((text.toList.splitOn '\n').map String.ofList) with
      | some set => .ok set
      | none => .error "parse error" }

theorem seconds_ofClock {clock : Clock} (hfraction : clock.time.fraction = 0) :
    DateTime.clock ⟨clock.seconds, .utc⟩ = clock := by
  have hlocal : TimeZone.utc.toLocal clock.seconds = clock.seconds := Int.add_zero _
  rw [Clock.eq_iff, DateTime.clock, Clock.seconds_ofSeconds, hlocal]
  exact ⟨rfl, hfraction.symm⟩

theorem fourDigits_readDate {s : List Char} {t : DateTime} (h : readDate s = some t) :
    t.FourDigits := by
  obtain ⟨p, -, h⟩ := Option.bind_eq_some_iff.mp h
  obtain ⟨clock, -, h⟩ := Option.bind_eq_some_iff.mp h
  split at h
  · next hvalid =>
    cases h
    rw [DateTime.FourDigits, seconds_ofClock hvalid.1]
    exact hvalid.2
  · cases h

theorem readDate_icalText {t : DateTime} (h : t.FourDigits) :
    readDate (icalText t).toList = some t.readInUtc := by
  have hdate : minDay ≤ t.clock.date ∧ t.clock.date ≤ maxDay := by
    refine bounds_of_year (le_trans (by decide) h.1) ?_
    have hyear := h.2
    unfold maxYear
    omega
  have hparsed : parse icalItems (format icalItems t.clock) = some (timed t.clock) := by
    rw [icalItems, parse_format_year hdate (by decide) (.inr h), foldlM_record_filter]
    exact record_timeFields hdate
  have hread : (timed t.clock).toNaiveDatetime = some t.clock := by
    have hprinted : printed t.clock.time = t.clock.time := (printed_eq_iff _).mpr (.inl rfl)
    have htimed : Parsed.toNaiveDatetime { timed t.clock with offset := none } = _ :=
      toNaiveDatetime_timed hdate
    rw [hprinted] at htimed
    exact htimed
  rw [readDate, icalText, String.toList_ofList, hparsed]
  simp only [Option.bind_eq_bind, Option.bind_some, hread]
  rw [if_pos ⟨rfl, h⟩, DateTime.readInUtc, DateTime.clock, Clock.seconds_ofSeconds]

theorem fourDigits_readUtcLine {line : String} {property : Property String}
    (h : readUtcLine line = some property) :
    ∀ t ∈ property.rdates ++ property.exdates, t.FourDigits := by
  unfold readUtcLine at h
  split at h
  · cases h
    exact fun _ ht => nomatch ht
  · cases h
    exact fun _ ht => nomatch ht
  · obtain ⟨t, ht, rfl⟩ := Option.map_eq_some_iff.mp h
    exact List.forall_mem_singleton.mpr (fourDigits_readDate ht)
  · cases h
    exact fun _ ht => nomatch ht
  · obtain ⟨t, ht, rfl⟩ := Option.map_eq_some_iff.mp h
    exact List.forall_mem_singleton.mpr (fourDigits_readDate ht)
  · cases h

theorem parse_utcCrate {lines : List String} (hlines : ∀ line ∈ lines, IsLine line)
    (set : RRuleSet RuleText) :
    utcCrate.parse ("\n".intercalate lines) = .ok set ↔ utcCrate.readLines lines = some set := by
  have hread : lineCrate.readLines
      ((("\n".intercalate lines).toList.splitOn '\n').map String.ofList) =
        utcCrate.readLines lines := by
    cases lines with
    | nil => rfl
    | cons line rest =>
      rw [String.toList_intercalate, show ("\n" : String).toList = ['\n'] from rfl,
        List.splitOn_intercalate _ ?_ (by simp)]
      · rw [List.map_map]
        simp only [Function.comp_def, String.ofList_toList, List.map_id']
        rfl
      · simp only [List.mem_map]
        rintro _ ⟨line, hline, rfl⟩
        exact (hlines line hline).2.1
  have hparse : utcCrate.parse ("\n".intercalate lines) =
      match utcCrate.readLines lines with
      | some set => .ok set
      | none => .error "parse error" := by
    rw [← hread]
    rfl
  rw [hparse]
  cases utcCrate.readLines lines <;> simp

theorem readUtcLine_rdate {t : DateTime} (h : t.FourDigits) :
    readUtcLine ("RDATE:" ++ icalText t) = some (.rdate [t.readInUtc]) := by
  have hread : readUtcLine ("RDATE:" ++ icalText t) =
      (readDate (icalText t).toList).map fun t => .rdate [t] := by
    rw [readUtcLine, String.toList_append]
    rfl
  rw [hread, readDate_icalText h]
  rfl

theorem readUtcLine_exdate {t : DateTime} (h : t.FourDigits) :
    readUtcLine ("EXDATE:" ++ icalText t) = some (.exdate [t.readInUtc]) := by
  have hread : readUtcLine ("EXDATE:" ++ icalText t) =
      (readDate (icalText t).toList).map fun t => .exdate [t] := by
    rw [readUtcLine, String.toList_append]
    rfl
  rw [hread, readDate_icalText h]
  rfl

theorem readUtcLine_dtStart {t : DateTime} (h : t.FourDigits) :
    readUtcLine ("DTSTART:" ++ icalText t) = some (.dtStart (some t.readInUtc)) := by
  have hread : readUtcLine ("DTSTART:" ++ icalText t) =
      some (.dtStart (readDate (icalText t).toList)) := by
    rw [readUtcLine, String.toList_append]
    rfl
  rw [hread, readDate_icalText h]

theorem readUtcLine_rrule (text : String) :
    readUtcLine ("RRULE:" ++ text) = some (.rrule text) := by
  have hread : readUtcLine ("RRULE:" ++ text) = some (.rrule (String.ofList text.toList)) := by
    rw [readUtcLine, String.toList_append]
    rfl
  rw [hread, String.ofList_toList]

theorem validate_utcCrate (rule : RuleText) (start : DateTime) :
    utcCrate.validate rule.val start = some rule := dif_pos rule.property

theorem fourDigits_epoch : DateTime.epoch.FourDigits := ⟨by decide, by decide⟩

theorem faithful_utcCrate : Faithful utcCrate where
  lines := parse_utcCrate
  start _ := rfl
  year := fourDigits_readUtcLine
  dtStart := readUtcLine_dtStart fourDigits_epoch
  rdate := readUtcLine_rdate
  exdate := readUtcLine_exdate
  rrule rule := readUtcLine_rrule rule.val
  displayed rule := rule.property
  validated _ _ := validate_utcCrate _ _
  allowed _ := rfl

/-- Every day at nine. -/
def atNine : String := "FREQ=DAILY;BYHOUR=9;BYMINUTE=0;BYSECOND=0"

theorem isLine_atNine : IsLine ("RRULE:" ++ atNine) := ⟨by decide, by decide, by decide⟩

theorem forall_mem_pair {p : String → Prop} {first second : String} (hfirst : p first)
    (hsecond : p second) : ∀ line ∈ [first, second], p line :=
  List.forall_mem_cons.mpr ⟨hfirst, List.forall_mem_singleton.mpr hsecond⟩

/-- The 10th of January 2024 at nine in UTC. -/
def tenthAtNine : DateTime := ⟨1704877200, .utc⟩

theorem icalText_tenthAtNine : icalText tenthAtNine = "20240110T090000Z" := by decide

theorem fourDigits_tenthAtNine : tenthAtNine.FourDigits := ⟨by decide, by decide⟩

theorem recurrence_survives_in_utc :
    Survives utcCrate (some ["RRULE:" ++ atNine, "EXDATE:20240110T090000Z"]) := by
  rw [show "EXDATE:20240110T090000Z" = "EXDATE:" ++ icalText tenthAtNine by
    rw [icalText_tenthAtNine]; rfl]
  refine (recurrence_survives_iff faithful_utcCrate _ ?_).mpr ?_
  · rintro _ ⟨rfl⟩
    exact forall_mem_pair isLine_atNine ⟨by decide, by decide, by decide⟩
  · rintro _ ⟨rfl⟩ - properties hproperties -
    have hread : (withStart ["RRULE:" ++ atNine, "EXDATE:" ++ icalText tenthAtNine]).mapM
        utcCrate.readLine =
          some [.dtStart (some .epoch), .rrule atNine, .exdate [tenthAtNine]] := by
      rw [withStart, if_neg (by decide), List.mapM_cons, List.mapM_cons, List.mapM_cons,
        faithful_utcCrate.dtStart, faithful_utcCrate.exdate fourDigits_tenthAtNine]
      have hrule : utcCrate.readLine ("RRULE:" ++ atNine) = _ := readUtcLine_rrule atNine
      rw [hrule]
      rfl
    rw [hread] at hproperties
    cases hproperties
    refine ⟨?_, fun _ _ _ _ _ _ => rfl, ?_⟩
    · rintro _ ⟨rfl⟩
      rfl
    · exact List.forall_mem_singleton.mpr rfl

/-- A start of its own is not written, and the missing one is put in its place. -/
theorem start_lost :
    ¬ Survives utcCrate (some ["DTSTART:20240110T090000Z", "RRULE:" ++ atNine]) := by
  rw [show "DTSTART:20240110T090000Z" = "DTSTART:" ++ icalText tenthAtNine by
    rw [icalText_tenthAtNine]; rfl]
  intro hsurvives
  have hlines : ∀ line ∈ ["DTSTART:" ++ icalText tenthAtNine, "RRULE:" ++ atNine], IsLine line :=
    forall_mem_pair ⟨by decide, by decide, by decide⟩ isLine_atNine
  have hproperties : ["DTSTART:" ++ icalText tenthAtNine, "RRULE:" ++ atNine].mapM
      utcCrate.readLine = some [.dtStart (some tenthAtNine), .rrule atNine] := by
    have hstart : utcCrate.readLine ("DTSTART:" ++ icalText tenthAtNine) = _ :=
      readUtcLine_dtStart fourDigits_tenthAtNine
    have hrule : utcCrate.readLine ("RRULE:" ++ atNine) = _ := readUtcLine_rrule atNine
    rw [List.mapM_cons, List.mapM_cons, hstart, hrule]
    rfl
  have hset : utcCrate.readProperties [.dtStart (some tenthAtNine), .rrule atNine] =
      some ⟨tenthAtNine, [⟨atNine, by decide, by decide⟩], [], [], []⟩ := rfl
  have hread := readProperties_eq_some_iff.mp hset
  have hsame := hsurvives _ ((deserialize_eq_ok_some_iff faithful_utcCrate hlines (by simp) _).mpr
    ⟨_, by rw [withStart, if_pos (by decide), Crate.readLines, hproperties]; exact hset, rfl⟩)
  have hkept := (survives_of_read_iff faithful_utcCrate hproperties hread).mp hsame
  exact absurd (hkept.start _ hread.start) (by decide)

end Utc

end UniversalInbox.EventRecurrence
