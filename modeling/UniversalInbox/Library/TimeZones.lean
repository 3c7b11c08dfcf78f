import UniversalInbox.Library.Calendar
import Mathlib.Data.List.Pairwise

/-! Time zones as tables of transitions, in seconds: what the local clock shows at an instant, and
at which instants it shows a reading. -/

/-- What is looked up for a local reading that may be skipped or repeated. -/
inductive MappedLocalTime (α : Type) where
  | none
  | single (t : α)
  | ambiguous (earliest latest : α)
deriving DecidableEq, Repr

namespace MappedLocalTime
variable {α β : Type}

def earliest : MappedLocalTime α → Option α
  | none => .none
  | single t => some t
  | ambiguous t _ => some t

def single? : MappedLocalTime α → Option α
  | single t => some t
  | _ => .none

/-- Of two instants both have to be mapped. -/
def andThen (m : MappedLocalTime α) (f : α → Option β) : MappedLocalTime β :=
  match m with
  | none => none
  | single t =>
    match f t with
    | some t' => single t'
    | .none => none
  | ambiguous t u =>
    match f t, f u with
    | some t', some u' => ambiguous t' u'
    | _, _ => none

/-- Of several instants the first and the last count. -/
def ofList : List α → MappedLocalTime α
  | [] => none
  | [t] => single t
  | t :: u :: rest => ambiguous t ((u :: rest).getLast (List.cons_ne_nil _ _))

theorem earliest_andThen_single (t : α) (f : α → Option β) :
    ((single t).andThen f).earliest = f t := by
  cases h : f t <;> simp [andThen, h, earliest]

theorem earliest_andThen_ambiguous (t u : α) (f : α → Option β) :
    ((ambiguous t u).andThen f).earliest = if (f u).isSome then f t else .none := by
  cases h : f t <;> cases h' : f u <;> simp [andThen, h, h', earliest]

theorem single?_andThen_single (t : α) (f : α → Option β) :
    ((single t).andThen f).single? = f t := by
  cases h : f t <;> simp [andThen, h, single?]

theorem single?_andThen_ambiguous (t u : α) (f : α → Option β) :
    ((ambiguous t u).andThen f).single? = .none := by
  cases h : f t <;> cases h' : f u <;> simp [andThen, h, h', single?]

end MappedLocalTime

def withinBounds (lo hi t : Int) : Option Int := if lo ≤ t ∧ t ≤ hi then some t else none

/-- Below a day, either way. -/
structure UtcOffset where
  seconds : Int
  bounded : seconds.natAbs < 86400
deriving DecidableEq

/-- The offset before the first transition, and the instants from which another one is in force. -/
structure TimeZone where
  first : UtcOffset
  transitions : List (Int × UtcOffset)
  ordered : (transitions.map Prod.fst).Pairwise (· < ·)

namespace TimeZone

def offsetFrom (offset : UtcOffset) : List (Int × UtcOffset) → Int → UtcOffset
  | [], _ => offset
  | (start, next) :: rest, t => if t < start then offset else offsetFrom next rest t

def instantsFrom (offset : UtcOffset) : List (Int × UtcOffset) → Int → List Int
  | [], reading => [reading - offset.seconds]
  | (start, next) :: rest, reading =>
    [reading - offset.seconds].filter (· < start) ++
      (instantsFrom next rest reading).filter (start ≤ ·)

def offsetAt (zone : TimeZone) (t : Int) : UtcOffset := offsetFrom zone.first zone.transitions t

/-- What the local clock shows. -/
def toLocal (zone : TimeZone) (t : Int) : Int := t + (zone.offsetAt t).seconds

/-- The instants at which the local clock shows a reading, in order. -/
def instants (zone : TimeZone) (reading : Int) : List Int :=
  instantsFrom zone.first zone.transitions reading

/-- Looked up among the instants that can be represented. -/
def fromLocal (zone : TimeZone) (lo hi reading : Int) : MappedLocalTime Int :=
  (MappedLocalTime.ofList (zone.instants reading)).andThen (withinBounds lo hi)

/-- From `lo` to before `hi` the local clock never shows this second of the day: each stretch with
one offset ends before its clock comes to it. -/
def skipsFrom (offset : UtcOffset) : List (Int × UtcOffset) → Int → Int → Int → Bool
  | [], lo, hi, second => decide (hi ≤ lo + (second - (lo + offset.seconds)) % 86400)
  | (start, next) :: rest, lo, hi, second =>
    decide (min start hi ≤ lo + (second - (lo + offset.seconds)) % 86400) &&
      skipsFrom next rest (max lo start) hi second

def skips (zone : TimeZone) (lo hi second : Int) : Bool :=
  skipsFrom zone.first zone.transitions lo hi second

def utc : TimeZone where
  first := ⟨0, by decide⟩
  transitions := []
  ordered := .nil

/-- The local clock shows the reading, and only at instants that can be represented. -/
structure Shows (zone : TimeZone) (lo hi reading : Int) : Prop where
  shown : ∃ t, zone.toLocal t = reading
  represented : ∀ t, zone.toLocal t = reading → lo ≤ t ∧ t ≤ hi

section Lookup
variable {zone : TimeZone} {lo hi reading t : Int}

theorem mem_instantsFrom (offset : UtcOffset) (transitions : List (Int × UtcOffset))
    (reading t : Int) : t ∈ instantsFrom offset transitions reading ↔
      t + (offsetFrom offset transitions t).seconds = reading := by
  induction transitions generalizing offset with
  | nil =>
    unfold instantsFrom offsetFrom
    rw [List.mem_singleton]
    omega
  | cons transition rest ih =>
    obtain ⟨start, next⟩ := transition
    simp only [instantsFrom, offsetFrom, List.mem_append, List.mem_filter, List.mem_singleton,
      decide_eq_true_eq, ih]
    by_cases hbefore : t < start
    · rw [if_pos hbefore]
      omega
    · rw [if_neg hbefore]
      omega

/-- The clock of one stretch comes to a second of the day within a day. -/
theorem stretch_skips_iff {offset lo hi second : Int} (hlow : 0 ≤ second) (hhigh : second < 86400) :
    hi ≤ lo + (second - (lo + offset)) % 86400 ↔
      ∀ t, lo ≤ t → t < hi → (t + offset) % 86400 ≠ second := by
  constructor
  · intro hends t hlo hhi
    omega
  · intro hskips
    by_contra hends
    exact hskips (lo + (second - (lo + offset)) % 86400) (by omega) (by omega) (by omega)

theorem skipsFrom_iff (offset : UtcOffset) (transitions : List (Int × UtcOffset)) {lo hi second : Int}
    (hlow : 0 ≤ second) (hhigh : second < 86400) :
    skipsFrom offset transitions lo hi second = true ↔
      ∀ t, lo ≤ t → t < hi → (t + (offsetFrom offset transitions t).seconds) % 86400 ≠ second := by
  induction transitions generalizing offset lo with
  | nil => exact decide_eq_true_iff.trans (stretch_skips_iff hlow hhigh)
  | cons transition rest ih =>
    obtain ⟨start, next⟩ := transition
    rw [skipsFrom, Bool.and_eq_true, decide_eq_true_eq, stretch_skips_iff hlow hhigh, ih]
    constructor
    · rintro ⟨hbefore, hafter⟩ t hlo hhi
      unfold offsetFrom
      split
      · exact hbefore t hlo (by omega)
      · exact hafter t (by omega) hhi
    · intro hskips
      constructor
      · intro t hlo hhi
        have hoffset := hskips t hlo (by omega)
        rwa [offsetFrom, if_pos (by omega)] at hoffset
      · intro t hlo hhi
        have hoffset := hskips t (by omega) hhi
        rwa [offsetFrom, if_neg (by omega)] at hoffset

theorem skips_iff {second : Int} (hlow : 0 ≤ second) (hhigh : second < 86400) :
    zone.skips lo hi second = true ↔
      ∀ t, lo ≤ t → t < hi → zone.toLocal t % 86400 ≠ second :=
  skipsFrom_iff zone.first zone.transitions hlow hhigh

theorem mem_instants : t ∈ zone.instants reading ↔ zone.toLocal t = reading :=
  mem_instantsFrom zone.first zone.transitions reading t

theorem instantsFrom_sorted (offset : UtcOffset) (transitions : List (Int × UtcOffset))
    (reading : Int) : (instantsFrom offset transitions reading).Pairwise (· < ·) := by
  induction transitions generalizing offset with
  | nil => exact List.pairwise_singleton _ _
  | cons transition rest ih =>
    obtain ⟨start, next⟩ := transition
    unfold instantsFrom
    rw [List.pairwise_append]
    refine ⟨(List.pairwise_singleton _ _).filter _, (ih next).filter _, ?_⟩
    intro t ht u hu
    simp only [List.mem_filter, decide_eq_true_eq] at ht hu
    omega

theorem instants_sorted (zone : TimeZone) (reading : Int) :
    (zone.instants reading).Pairwise (· < ·) :=
  instantsFrom_sorted zone.first zone.transitions reading

theorem first_isLeast {later : List Int} (h : zone.instants reading = t :: later) :
    IsLeast {s | zone.toLocal s = reading} t := by
  have hsorted := zone.instants_sorted reading
  rw [h] at hsorted
  constructor
  · exact mem_instants.mp (h ▸ List.mem_cons_self)
  · intro s hs
    have hmem := mem_instants.mpr hs
    rw [h] at hmem
    rcases List.mem_cons.mp hmem with rfl | hlater
    · exact le_refl _
    · exact ((List.pairwise_cons.mp hsorted).1 s hlater).le

/-- In order, the first and the last of the instants are in bounds only if all are. -/
theorem represented_of_ends {u : Int} {rest : List Int}
    (hsorted : (t :: u :: rest).Pairwise (· < ·)) (hfirst : lo ≤ t)
    (hlast : (u :: rest).getLast (List.cons_ne_nil _ _) ≤ hi) :
    ∀ s ∈ t :: u :: rest, lo ≤ s ∧ s ≤ hi := by
  obtain ⟨hbelow, hrest⟩ := List.pairwise_cons.mp hsorted
  have hend : ∀ s ∈ u :: rest, s ≤ hi := fun s hs =>
    le_trans ((hrest.imp le_of_lt).rel_getLast hs) hlast
  intro s hs
  rcases List.mem_cons.mp hs with rfl | hs
  · have := hbelow u List.mem_cons_self
    have := hend u List.mem_cons_self
    omega
  · have := hbelow s hs
    have := hend s hs
    omega

theorem earliest_of_shows (h : zone.Shows lo hi reading) :
    ∃ t, (zone.fromLocal lo hi reading).earliest = some t ∧
      IsLeast {s | zone.toLocal s = reading} t := by
  have hin : ∀ s ∈ zone.instants reading, withinBounds lo hi s = some s := fun s hs =>
    if_pos (h.represented s (mem_instants.mp hs))
  obtain ⟨s, hs⟩ := h.shown
  rw [← mem_instants] at hs
  unfold fromLocal
  cases heq : zone.instants reading with
  | nil => simp [heq] at hs
  | cons t later =>
    refine ⟨t, ?_, first_isLeast heq⟩
    rw [heq] at hin
    have ht := hin t List.mem_cons_self
    cases later with
    | nil => rw [MappedLocalTime.ofList, MappedLocalTime.earliest_andThen_single, ht]
    | cons u rest =>
      have hlast := hin _ (List.mem_cons_of_mem _ (List.getLast_mem (List.cons_ne_nil u rest)))
      rw [MappedLocalTime.ofList, MappedLocalTime.earliest_andThen_ambiguous, ht, hlast]
      rfl

theorem earliest_of_not_shows (h : ¬ zone.Shows lo hi reading) :
    (zone.fromLocal lo hi reading).earliest = none := by
  have hsorted := zone.instants_sorted reading
  have hout : ∀ t ∈ zone.instants reading, ¬ ∀ s ∈ zone.instants reading, lo ≤ s ∧ s ≤ hi :=
    fun t ht hall => h ⟨⟨t, mem_instants.mp ht⟩, fun s hs => hall s (mem_instants.mpr hs)⟩
  unfold fromLocal
  cases heq : zone.instants reading with
  | nil => rfl
  | cons t later =>
    rw [heq] at hout hsorted
    replace hout := hout t List.mem_cons_self
    cases later with
    | nil =>
      rw [MappedLocalTime.ofList, MappedLocalTime.earliest_andThen_single]
      exact if_neg fun hin => hout (by simpa using hin)
    | cons u rest =>
      rw [MappedLocalTime.ofList, MappedLocalTime.earliest_andThen_ambiguous]
      by_cases hlast : (u :: rest).getLast (List.cons_ne_nil _ _) ≤ hi
      · have hfirst : ¬ (lo ≤ t ∧ t ≤ hi) := fun hin =>
          hout (represented_of_ends hsorted hin.1 hlast)
        rw [withinBounds, withinBounds, if_neg hfirst, ite_self]
      · have hbeyond : withinBounds lo hi ((u :: rest).getLast (List.cons_ne_nil _ _)) = none :=
          if_neg fun hin => hlast hin.2
        rw [hbeyond]
        rfl

end Lookup

end TimeZone
