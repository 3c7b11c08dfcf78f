import UniversalInbox.Library.DateText
import UniversalInbox.Library.Json
import UniversalInbox.DueDates

/-! A due date is stored as the text it is displayed as. -/
namespace UniversalInbox.DueDates
open Calendar DateText

/-- `%Y-%m-%d` -/
def dateItems : List Item := [.year, .literal '-', .month, .literal '-', .day]

/-- `%Y-%m-%dT%H:%M` -/
def minutesItems : List Item :=
  [.year, .literal '-', .month, .literal '-', .day, .literal 'T', .hour, .literal ':', .minute]

/-- `%Y-%m-%dT%H:%M:%S` -/
def secondsItems : List Item :=
  [.year, .literal '-', .month, .literal '-', .day, .literal 'T', .hour, .literal ':', .minute,
    .literal ':', .second]

/-- `%Y-%m-%dT%H:%M:%SZ` -/
def zonedItems : List Item :=
  [.year, .literal '-', .month, .literal '-', .day, .literal 'T', .hour, .literal ':', .minute,
    .literal ':', .second, .literal 'Z']

/-- The text of a date shows no time of day. -/
def midnight (date : Int) : Clock := ⟨date, Time.oClock 0 (by decide)⟩

/-- `fmt` -/
def display : DueDate → String
  | .date date => String.ofList (format dateItems (midnight date))
  | .dateTime datetime => String.ofList (format secondsItems datetime)
  | .dateTimeWithTz datetime => String.ofList (format zonedItems datetime)

/-- `from_str`, on the characters. -/
def fromChars (s : List Char) : Option DueDate :=
  match (parse dateItems s).bind Parsed.toNaiveDate with
  | some date => some (.date date)
  | none =>
    match (parse secondsItems s).bind Parsed.toNaiveDatetime with
    | some datetime => some (.dateTime datetime)
    | none =>
      match (parse minutesItems s).bind Parsed.toNaiveDatetime with
      | some datetime => some (.dateTime datetime)
      | none => (parseFromRfc3339 s).map .dateTimeWithTz

def fromStr (s : String) : Option DueDate := fromChars s.toList

/-- `due_date_format` -/
def serialize (due : DueDate) : Json := .string (display due)

def deserialize (json : Json) : Option DueDate := json.str?.bind fromStr

/-- The dates that can be represented. -/
def Representable (due : DueDate) : Prop := minDay ≤ datePart due ∧ datePart due ≤ maxDay

/-- What is parsed is what was displayed, and what is read again is what was stored. -/
structure Survives (due : DueDate) : Prop where
  parsed : fromStr (display due) = some due
  reread : deserialize (serialize due) = some due

/-- On a full second, and an instant in a year of four digits. -/
def Kept : DueDate → Prop
  | .date _ => True
  | .dateTime datetime => OnSecond datetime.time
  | .dateTimeWithTz datetime =>
    OnSecond datetime.time ∧ 0 ≤ year datetime.date ∧ year datetime.date < 10000

section Texts
variable {clock : Clock}

theorem record_date (hdate : minDay ≤ clock.date ∧ clock.date ≤ maxDay) :
    dateItems.foldlM (record clock) {} = some (dated clock) := by
  rw [foldlM_record_filter]
  exact record_dateFields hdate

theorem record_seconds (hdate : minDay ≤ clock.date ∧ clock.date ≤ maxDay) :
    secondsItems.foldlM (record clock) {} = some (timed clock) := by
  rw [foldlM_record_filter]
  exact record_timeFields hdate

theorem parse_date (hdate : minDay ≤ clock.date ∧ clock.date ≤ maxDay) :
    (parse dateItems (format dateItems clock)).bind Parsed.toNaiveDate = some clock.date := by
  rw [dateItems, parse_format (by decide) (by decide) hdate, ← dateItems, record_date hdate,
    Option.bind_some, toNaiveDate_dated hdate]

theorem parse_seconds (hdate : minDay ≤ clock.date ∧ clock.date ≤ maxDay) :
    (parse secondsItems (format secondsItems clock)).bind Parsed.toNaiveDatetime =
      some { date := clock.date, time := printed clock.time } := by
  rw [secondsItems, parse_format (by decide) (by decide) hdate, ← secondsItems,
    record_seconds hdate, Option.bind_some]
  exact toNaiveDatetime_timed hdate

theorem parse_date_of_longer (hdate : minDay ≤ clock.date ∧ clock.date ≤ maxDay) (c : Char)
    (items : List Item) :
    parse dateItems (format (dateItems ++ .literal c :: items) clock) = none :=
  parse_format_append (by decide) (by decide) hdate (List.cons_ne_nil _ _)

theorem parse_minutes_of_longer (hdate : minDay ≤ clock.date ∧ clock.date ≤ maxDay) (c : Char)
    (items : List Item) :
    parse minutesItems (format (minutesItems ++ .literal c :: items) clock) = none :=
  parse_format_append (by decide) (by decide) hdate (List.cons_ne_nil _ _)

theorem parse_seconds_of_longer (hdate : minDay ≤ clock.date ∧ clock.date ≤ maxDay) (c : Char)
    (items : List Item) :
    parse secondsItems (format (secondsItems ++ .literal c :: items) clock) = none :=
  parse_format_append (by decide) (by decide) hdate (List.cons_ne_nil _ _)

/-- A year of four digits has no sign. -/
theorem format_zoned (hyear : 0 ≤ year clock.date ∧ year clock.date < 10000) :
    format zonedItems clock =
      padded 4 (year clock.date).natAbs ++ '-' :: (padded 2 (month clock.date) ++ '-' ::
        (padded 2 (dayOfMonth clock.date) ++ 'T' :: (padded 2 clock.time.hour ++ ':' ::
          (padded 2 (clock.time.seconds / 60 % 60) ++ ':' ::
            (padded 2 (shownSecond clock.time) ++ ['Z']))))) := by
  simp [format, zonedItems, formatItem, writeYear, hyear]

theorem rfc3339Date_dated (hdate : minDay ≤ clock.date ∧ clock.date ≤ maxDay)
    (hyear : 0 ≤ year clock.date ∧ year clock.date < 10000) (rest : List Char) :
    rfc3339Date (padded 4 (year clock.date).natAbs ++ '-' :: (padded 2 (month clock.date) ++ '-' ::
      (padded 2 (dayOfMonth clock.date) ++ rest))) = some (dated clock, rest) := by
  have hmonth := month_le clock.date
  have hday := dayOfMonth_le_thirtyOne clock.date
  have habs : ((year clock.date).natAbs : Int) = year clock.date := Int.natAbs_of_nonneg hyear.1
  rw [rfc3339Date, number_padded (by decide) (by omega) (by decide) (by omega)]
  have hmonthRead (s : List Char) : number 2 2 (padded 2 (month clock.date) ++ s) = _ :=
    number_two (by omega) (le_refl _) s
  have hdayRead (s : List Char) : number 2 2 (padded 2 (dayOfMonth clock.date) ++ s) = _ :=
    number_two (by omega) (le_refl _) s
  simp [habs, setYear_year hdate, char_cons, hmonthRead, hdayRead, Parsed.setMonth, Parsed.setDay,
    setWithin_none, month_pos, month_le, dayOfMonth_pos, dayOfMonth_le_thirtyOne, dated]

theorem rfc3339Time_timed (rest : List Char) :
    rfc3339Time (dated clock) (padded 2 clock.time.hour ++ ':' ::
      (padded 2 (clock.time.seconds / 60 % 60) ++ ':' ::
        (padded 2 (shownSecond clock.time) ++ 'Z' :: rest))) = some (timed clock, 'Z' :: rest) := by
  have hhour : clock.time.hour ≤ 23 := Nat.le_of_lt_succ (hour_lt clock.time)
  have hminute : clock.time.seconds / 60 % 60 ≤ 59 := Nat.le_of_lt_succ (Nat.mod_lt _ (by decide))
  have hsecond := shownSecond_le clock.time
  have hhourRead (s : List Char) : number 2 2 (padded 2 clock.time.hour ++ s) = _ :=
    number_two (by omega) (le_refl _) s
  have hminuteRead (s : List Char) :
      number 2 2 (padded 2 (clock.time.seconds / 60 % 60) ++ s) = _ :=
    number_two (by omega) (le_refl _) s
  have hsecondRead (s : List Char) : number 2 2 (padded 2 (shownSecond clock.time) ++ s) = _ :=
    number_two (by omega) (le_refl _) s
  have hfraction (p : Parsed) : optionalNanosecond p ('Z' :: rest) = some (p, 'Z' :: rest) := rfl
  rw [rfc3339Time, hhourRead]
  simp [char_cons, hminuteRead, hsecondRead, Parsed.setHour, hhour, Parsed.setMinute, hminute,
    Parsed.setSecond, hsecond, setWithin_none, hfraction, dated, timed]

/-- An instant is read from a year of four digits. -/
theorem parseFromRfc3339_zoned (hdate : minDay ≤ clock.date ∧ clock.date ≤ maxDay)
    (hyear : 0 ≤ year clock.date ∧ year clock.date < 10000) :
    parseFromRfc3339 (format zonedItems clock) =
      some { date := clock.date, time := printed clock.time } := by
  have hread : parseRfc3339 (format zonedItems clock) =
      some ({ timed clock with offset := some 0 }, []) := by
    have hseparator (rest : List Char) : dateTimeSeparator ('T' :: rest) = some rest := rfl
    have hutc : timezoneOffset ['Z'] = some (0, []) := rfl
    rw [format_zoned hyear, parseRfc3339, rfc3339Date_dated hdate hyear]
    simp only [Option.bind_eq_bind, Option.bind_some, hseparator, rfc3339Time_timed, hutc]
    rfl
  rw [parseFromRfc3339, hread]
  exact toDatetime_utc rfl (toNaiveDatetime_timed hdate) hdate

/-- In another one there is a sign. -/
theorem parseFromRfc3339_signed (hyear : ¬ (0 ≤ year clock.date ∧ year clock.date < 10000)) :
    parseFromRfc3339 (format zonedItems clock) = none := by
  have hstops : Stops (format zonedItems clock) := by
    rintro c hc
    rw [format, zonedItems, List.flatMap_cons, formatItem, writeYear, if_neg hyear,
      List.cons_append, List.head?_cons] at hc
    cases hc
    split <;> rfl
  rw [parseFromRfc3339, parseRfc3339, rfc3339Date, number_of_stops (by decide) hstops]
  rfl

end Texts

/-- What is read of the displayed text. -/
def whole : DueDate → DueDate
  | .date date => .date date
  | .dateTime datetime => .dateTime { datetime with time := printed datetime.time }
  | .dateTimeWithTz datetime => .dateTimeWithTz { datetime with time := printed datetime.time }

/-- No instant is read from a year with a sign. -/
def Signed : DueDate → Prop
  | .dateTimeWithTz datetime => ¬ (0 ≤ year datetime.date ∧ year datetime.date < 10000)
  | _ => False

section Main
variable {due : DueDate} {s : String}

/-- The formats that come first leave something of an instant. -/
theorem fromChars_zoned {datetime : Clock}
    (h : minDay ≤ datetime.date ∧ datetime.date ≤ maxDay) :
    fromChars (format zonedItems datetime) =
      (parseFromRfc3339 (format zonedItems datetime)).map .dateTimeWithTz := by
  have hdate : parse dateItems (format zonedItems datetime) = none :=
    parse_date_of_longer h 'T' _
  have hseconds : parse secondsItems (format zonedItems datetime) = none :=
    parse_seconds_of_longer h 'Z' _
  have hminutes : parse minutesItems (format zonedItems datetime) = none :=
    parse_minutes_of_longer h ':' _
  rw [fromChars, hdate, hseconds, hminutes]
  rfl

theorem fromStr_display_of_signed (h : Representable due) (hsigned : Signed due) :
    fromStr (display due) = none := by
  cases due with
  | date date => exact hsigned.elim
  | dateTime datetime => exact hsigned.elim
  | dateTimeWithTz datetime =>
    rw [fromStr, display, String.toList_ofList, fromChars_zoned h, parseFromRfc3339_signed hsigned]
    rfl

theorem fromStr_display (h : Representable due) (hplain : ¬ Signed due) :
    fromStr (display due) = some (whole due) := by
  cases due with
  | date date =>
    have hdate : minDay ≤ (midnight date).date ∧ (midnight date).date ≤ maxDay := h
    rw [fromStr, display, String.toList_ofList, fromChars, parse_date hdate]
    rfl
  | dateTime datetime =>
    have hdate : parse dateItems (format secondsItems datetime) = none :=
      parse_date_of_longer h 'T' _
    rw [fromStr, display, String.toList_ofList, fromChars, hdate, parse_seconds h]
    rfl
  | dateTimeWithTz datetime =>
    rw [fromStr, display, String.toList_ofList, fromChars_zoned h,
      parseFromRfc3339_zoned h (not_not.mp hplain)]
    rfl

theorem clock_printed_iff (datetime : Clock) :
    { datetime with time := printed datetime.time } = datetime ↔ OnSecond datetime.time := by
  rw [← printed_eq_iff]
  constructor
  · exact congrArg Clock.time
  · intro htime
    rw [htime]

theorem kept_iff : Kept due ↔ whole due = due ∧ ¬ Signed due := by
  cases due with
  | date date => exact ⟨fun _ => ⟨rfl, id⟩, fun _ => trivial⟩
  | dateTime datetime =>
    rw [whole, DueDate.dateTime.injEq, clock_printed_iff]
    exact ⟨fun h => ⟨h, id⟩, And.left⟩
  | dateTimeWithTz datetime =>
    rw [whole, DueDate.dateTimeWithTz.injEq, clock_printed_iff, Signed, not_not]
    rfl

/-- A due date is parsed from its own text if it is on a full second and, with a time zone, in a
year of four digits. -/
theorem fromStr_display_iff (h : Representable due) :
    fromStr (display due) = some due ↔ Kept due := by
  rw [kept_iff]
  by_cases hsigned : Signed due
  · rw [fromStr_display_of_signed h hsigned]
    exact ⟨nofun, fun hkept => absurd hsigned hkept.2⟩
  · rw [fromStr_display h hsigned, Option.some.injEq]
    exact ⟨fun hwhole => ⟨hwhole, hsigned⟩, And.left⟩

theorem survives_iff (h : Representable due) : Survives due ↔ Kept due := by
  rw [← fromStr_display_iff h]
  exact ⟨Survives.parsed, fun hparsed => ⟨hparsed, hparsed⟩⟩

theorem representable_of_fromStr (h : fromStr s = some due) : Representable due := by
  unfold fromStr fromChars at h
  split at h
  · next date hdate =>
    obtain ⟨p, -, hdate⟩ := Option.bind_eq_some_iff.mp hdate
    cases h
    exact toNaiveDate_bounds hdate
  · split at h
    · next datetime hdatetime =>
      obtain ⟨p, -, hdatetime⟩ := Option.bind_eq_some_iff.mp hdatetime
      cases h
      exact toNaiveDatetime_bounds hdatetime
    · split at h
      · next datetime hdatetime =>
        obtain ⟨p, -, hdatetime⟩ := Option.bind_eq_some_iff.mp hdatetime
        cases h
        exact toNaiveDatetime_bounds hdatetime
      · obtain ⟨datetime, hdatetime, rfl⟩ := Option.map_eq_some_iff.mp h
        exact parseFromRfc3339_bounds hdatetime

/-- No fraction of a second is read without a time zone. -/
theorem onSecond_of_fromStr {datetime : Clock} (h : fromStr s = some (.dateTime datetime)) :
    OnSecond datetime.time := by
  unfold fromStr fromChars at h
  split at h
  · cases h
  · split at h
    · next hdatetime =>
      obtain ⟨p, hp, hdatetime⟩ := Option.bind_eq_some_iff.mp hdatetime
      cases h
      exact onSecond_toNaiveDatetime (nanosecond_parse hp) hdatetime
    · split at h
      · next hdatetime =>
        obtain ⟨p, hp, hdatetime⟩ := Option.bind_eq_some_iff.mp hdatetime
        cases h
        exact onSecond_toNaiveDatetime (nanosecond_parse hp) hdatetime
      · obtain ⟨datetime, -, h⟩ := Option.map_eq_some_iff.mp h
        cases h

/-- Every due date that can be represented, and every text that is accepted. -/
theorem dueDates_survive_iff (due : DueDate) :
    (Representable due → (Survives due ↔ Kept due)) ∧
      ∀ s, fromStr s = some due →
        (fromStr (display due) = some due ↔ ∀ datetime, due = .dateTimeWithTz datetime →
          OnSecond datetime.time ∧ 0 ≤ year datetime.date ∧ year datetime.date < 10000) := by
  refine ⟨survives_iff, fun s h => ?_⟩
  rw [fromStr_display_iff (representable_of_fromStr h)]
  cases due with
  | date date => exact ⟨fun _ _ => nofun, fun _ => trivial⟩
  | dateTime datetime => exact ⟨fun _ _ => nofun, fun _ => onSecond_of_fromStr h⟩
  | dateTimeWithTz datetime =>
    constructor
    · rintro hkept _ ⟨rfl⟩
      exact hkept
    · intro hkept
      exact hkept datetime rfl

/-- Nine o'clock in UTC on the 10th of January 2024, and a quarter of a second. -/
def aQuarterPast : Clock := ⟨19732, ⟨32400, 250000000, by decide, by decide⟩⟩

theorem dueDates_survive_at_nine : Survives (.dateTimeWithTz ⟨19732, Time.oClock 9 (by decide)⟩) ∧
    fromStr (display (.dateTimeWithTz ⟨19732, Time.oClock 9 (by decide)⟩)) =
      some (.dateTimeWithTz ⟨19732, Time.oClock 9 (by decide)⟩) := by
  constructor
  · exact ((dueDates_survive_iff _).1 ⟨by decide, by decide⟩).mpr ⟨.inl rfl, by decide⟩
  · refine ((dueDates_survive_iff _).2 "2024-01-10T18:00:00.000+09:00" (by decide)).mpr ?_
    rintro _ ⟨rfl⟩
    exact ⟨.inl rfl, by decide⟩

/-- The fraction is not displayed. -/
theorem fraction_lost :
    fromStr "2024-01-10T18:00:00.25+09:00" = some (.dateTimeWithTz aQuarterPast) ∧
    display (.dateTimeWithTz aQuarterPast) = "2024-01-10T09:00:00Z" ∧
    ¬ Survives (.dateTimeWithTz aQuarterPast) := by
  refine ⟨by decide, by decide, fun hsurvives => ?_⟩
  exact absurd hsurvives.parsed (by decide)

end Main

end UniversalInbox.DueDates
