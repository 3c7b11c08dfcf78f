import UniversalInbox.DueDates
import UniversalInbox.SyncBackoff

/-! Until when a notification is snoozed: the next time that the clock shows the hour of the reset.
A panic is `none`. -/
namespace UniversalInbox.SnoozeTimes
open Calendar
open DueDates (localClock firstSecond lastSecond)
open SyncBackoff (TimeDelta)

def minUtc : Clock := ⟨minDay, ⟨0, 0, by decide, Time.noFraction_lt⟩⟩

def maxUtc : Clock := ⟨maxDay, ⟨86399, 999999999, by decide, by decide⟩⟩

/-- `TimeDelta::try_days`. -/
def tryDays (days : I64) : Option TimeDelta :=
  (I64.ofInt? (days.val * 86400)).bind TimeDelta.seconds

/-- Whole seconds are added. Where they lead out of a leap second, its fraction is counted with the
second after. -/
def addTimeDelta (t : Clock) (delta : TimeDelta) : Option Clock :=
  let sum :=
    if 1000000000 ≤ t.time.fraction ∧ delta.numSeconds ≠ 0 then
      Clock.ofSeconds (t.seconds + delta.numSeconds + if delta.numSeconds < 0 then 1 else 0)
        (t.time.fraction - 1000000000) (by have := t.time.fraction_lt; omega)
    else t.withSeconds (t.seconds + delta.numSeconds)
  if minDay ≤ sum.date ∧ sum.date ≤ maxDay then some sum else none

/-- A time zone with the offset that is looked up for a local reading. What an implementation finds
for the readings around a change of the clock is its own affair. -/
structure Zone where
  table : TimeZone
  offsetFromLocal : Clock → MappedLocalTime UtcOffset

/-- `DateTime<Tz>` -/
structure ZonedTime where
  utc : Clock
  offset : UtcOffset

def ZonedTime.naiveLocal (t : ZonedTime) : Clock := t.utc.withSeconds (t.utc.seconds + t.offset.seconds)

section Fields
variable (tz : Zone)

def fromUtcDatetime (utc : Clock) : ZonedTime := ⟨utc, tz.table.offsetAt utc.seconds⟩

/-- The looked up offset is subtracted, as far as the calendar goes. -/
def fromLocalDatetime (datetime : Clock) : MappedLocalTime ZonedTime :=
  (tz.offsetFromLocal datetime).andThen fun offset =>
    (withinBounds firstSecond lastSecond (datetime.seconds - offset.seconds)).map fun s =>
      ⟨datetime.withSeconds s, offset⟩

/-- A field of the local time is replaced, and the offset is looked up anew. -/
def mapLocal (t : ZonedTime) (f : Time → Option Time) : Option ZonedTime := do
  let reading := t.naiveLocal
  let time ← f reading.time
  let t ← (fromLocalDatetime tz { reading with time := time }).single?
  if ¬ t.utc < minUtc ∧ ¬ maxUtc < t.utc then some t else none

def dayAdjustedTime (fromTime : ZonedTime) (daysOffset : I64) (resetHour : Nat) :
    Option ZonedTime :=
  if fromTime.naiveLocal.time.hour < resetHour then some fromTime
  else
    (tryDays daysOffset).bind fun days => (addTimeDelta fromTime.utc days).map (fromUtcDatetime tz)

def computeSnoozedUntil (fromTime : ZonedTime) (daysOffset : I64) (resetHour : Nat) :
    Option Clock := do
  let dayAdjustedTime ← dayAdjustedTime tz fromTime daysOffset resetHour
  let t ← mapLocal tz dayAdjustedTime (Time.withHour resetHour)
  let t ← mapLocal tz t (Time.withMinute 0)
  let t ← mapLocal tz t (Time.withSecond 0)
  let t ← mapLocal tz t (Time.withNanosecond 0)
  return t.utc

/-- The day on whose reset hour the notification is meant to come back. -/
def wakingDate (fromTime : ZonedTime) (daysOffset : I64) (resetHour : Nat) : Int :=
  let reading := fromTime.naiveLocal
  if reading.time.hour < resetHour then reading.date else reading.date + daysOffset.val

/-- No earlier instant after `fromTime` has the time of this one on the local clock. -/
def FirstAfter (fromTime : Clock) (time : Time) (t : Clock) : Prop :=
  fromTime < t ∧ ∀ s, fromTime < s → s < t → (localClock tz.table s).time ≠ time

/-- The fields that are replaced, in order. -/
def fields (resetHour : Nat) : List (Time → Option Time) :=
  [Time.withHour resetHour, Time.withMinute 0, Time.withSecond 0, Time.withNanosecond 0]

/-- One offset is looked up for the reading, and it leads to an instant that can be represented. -/
structure LookedUp (reading : Clock) (offset : UtcOffset) : Prop where
  single : tz.offsetFromLocal reading = .single offset
  represented : firstSecond ≤ reading.seconds - offset.seconds ∧
    reading.seconds - offset.seconds ≤ lastSecond ∧
      ¬ maxUtc < reading.withSeconds (reading.seconds - offset.seconds)

/-- This is so for each of the readings that come from replacing the fields one by one. -/
def EachLookedUp (date : Int) : List (Time → Option Time) → Time → Prop
  | [], _ => True
  | field :: fields, time =>
    ∃ time', field time = some time' ∧ (∃ offset, LookedUp tz ⟨date, time'⟩ offset) ∧
      EachLookedUp date fields time'

/-- The local clock at `fromTime`, or from its reset hour on as many times 24 hours later as there
are days. -/
def arrival (fromTime : ZonedTime) (daysOffset : I64) (resetHour : Nat) : Clock :=
  let reading := fromTime.naiveLocal
  if reading.time.hour < resetHour then reading
  else
    .ofSeconds (tz.table.toLocal (fromTime.utc.seconds + daysOffset.val * 86400))
      (reading.time.fraction % 1000000000) (by omega)

/-- From the reset hour on there are days to be added, and there is an instant for their sum. -/
structure Counted (fromTime : ZonedTime) (daysOffset : I64) (resetHour : Nat) : Prop where
  days : resetHour ≤ fromTime.naiveLocal.time.hour → (tryDays daysOffset).isSome
  sum : resetHour ≤ fromTime.naiveLocal.time.hour →
    firstSecond ≤ fromTime.utc.seconds + daysOffset.val * 86400 ∧
      fromTime.utc.seconds + daysOffset.val * 86400 ≤ lastSecond

section Waking
variable (fromTime : ZonedTime) (daysOffset : I64) {resetHour : Nat} (hhour : resetHour < 24)

def wakingReading : Clock := ⟨wakingDate fromTime daysOffset resetHour, .oClock resetHour hhour⟩

/-- There is the hour of the reset on the day that is meant. -/
def HourExists : Prop :=
  ∃ t, tz.table.toLocal t = (wakingReading fromTime daysOffset hhour).seconds ∧
    firstSecond ≤ t ∧ t ≤ lastSecond

/-- If there is that hour, the snooze ends with it. -/
def WakesAtResetHour : Prop :=
  HourExists tz fromTime daysOffset hhour →
    ∃ t, computeSnoozedUntil tz fromTime daysOffset resetHour = some t ∧
      localClock tz.table t = wakingReading fromTime daysOffset hhour ∧
      (daysOffset.val = 1 → FirstAfter tz fromTime.utc (.oClock resetHour hhour) t)

/-- The reset hour on the day of the arrival. -/
def arrivalHour : Clock :=
  ⟨(arrival tz fromTime daysOffset resetHour).date, .oClock resetHour hhour⟩

/-- The clocks are set such that days of 24 hours do no harm. -/
structure OrdinaryDays : Prop where
  counted : Counted fromTime daysOffset resetHour
  /-- One offset is found for each reading on the way to the hour. -/
  lookedUp : EachLookedUp tz (arrival tz fromTime daysOffset resetHour).date (fields resetHour)
    (arrival tz fromTime daysOffset resetHour).time
  /-- Where that of the hour is in force, the arrival is on the day that is meant: the one is off by
  as much as the other. -/
  inForce : ∀ offset, tz.offsetFromLocal (arrivalHour tz fromTime daysOffset hhour) =
      .single offset →
    (tz.table.offsetAt ((arrivalHour tz fromTime daysOffset hhour).seconds -
        offset.seconds)).seconds = offset.seconds +
      (wakingDate fromTime daysOffset resetHour - (arrival tz fromTime daysOffset resetHour).date) *
        86400
  /-- The hour is still to come, and each stretch with one offset until then ends before it. -/
  first : daysOffset.val = 1 → ∀ offset,
    tz.offsetFromLocal (arrivalHour tz fromTime daysOffset hhour) = .single offset →
      fromTime.utc.seconds < (arrivalHour tz fromTime daysOffset hhour).seconds - offset.seconds ∧
        tz.table.skips (fromTime.utc.seconds + 1)
          ((arrivalHour tz fromTime daysOffset hhour).seconds - offset.seconds)
          (resetHour * 3600) = true

end Waking

end Fields

section Lookup
variable {tz : Zone} {t u : ZonedTime} {reading : Clock} {field : Time → Option Time}
  {offset : UtcOffset}

theorem not_lt_minUtc {t : Clock} (h : firstSecond ≤ t.seconds) : ¬ t < minUtc := by
  rw [Clock.lt_iff]
  have hseconds : minUtc.seconds = firstSecond := rfl
  have hfraction : minUtc.time.fraction = 0 := rfl
  omega

/-- The instant at which a clock with this offset shows the reading. -/
def shownAt (reading : Clock) (offset : UtcOffset) : ZonedTime :=
  ⟨reading.withSeconds (reading.seconds - offset.seconds), offset⟩

theorem naiveLocal_shownAt : (shownAt reading offset).naiveLocal = reading := by
  refine Clock.eq_iff.mpr ⟨?_, rfl⟩
  simp [ZonedTime.naiveLocal, shownAt]

theorem single?_fromLocalDatetime : (fromLocalDatetime tz reading).single? = some u ↔
    ∃ offset, tz.offsetFromLocal reading = .single offset ∧
      firstSecond ≤ reading.seconds - offset.seconds ∧
      reading.seconds - offset.seconds ≤ lastSecond ∧ shownAt reading offset = u := by
  unfold fromLocalDatetime
  cases tz.offsetFromLocal reading with
  | none => simp [MappedLocalTime.andThen, MappedLocalTime.single?]
  | ambiguous earliest latest => simp [MappedLocalTime.single?_andThen_ambiguous]
  | single offset =>
    simp only [MappedLocalTime.single?_andThen_single, Option.map_eq_some_iff, withinBounds,
      Option.ite_none_right_eq_some, MappedLocalTime.single.injEq, shownAt]
    constructor
    · rintro ⟨_, ⟨⟨hlow, hhigh⟩, hs⟩, rfl⟩
      cases hs
      exact ⟨offset, rfl, hlow, hhigh, rfl⟩
    · rintro ⟨_, rfl, hlow, hhigh, rfl⟩
      exact ⟨_, ⟨⟨hlow, hhigh⟩, rfl⟩, rfl⟩

theorem mapLocal_eq_some_iff : mapLocal tz t field = some u ↔
    ∃ time, field t.naiveLocal.time = some time ∧
      ∃ offset, LookedUp tz ⟨t.naiveLocal.date, time⟩ offset ∧
        shownAt ⟨t.naiveLocal.date, time⟩ offset = u := by
  simp only [mapLocal, Option.bind_eq_bind, Option.bind_eq_some_iff, single?_fromLocalDatetime,
    Option.ite_none_right_eq_some, Option.some.injEq]
  constructor
  · rintro ⟨time, htime, _, ⟨offset, hsingle, hlow, hhigh, rfl⟩, ⟨-, hmax⟩, rfl⟩
    exact ⟨time, htime, offset, ⟨hsingle, hlow, hhigh, hmax⟩, rfl⟩
  · rintro ⟨time, htime, offset, hlooked, rfl⟩
    obtain ⟨hlow, hhigh, hmax⟩ := hlooked.represented
    refine ⟨time, htime, _, ⟨offset, hlooked.single, hlow, hhigh, rfl⟩, ⟨?_, hmax⟩, rfl⟩
    exact not_lt_minUtc (by rw [shownAt, Clock.seconds_withSeconds]; exact hlow)

/-- Step by step, the local reading is what the fields make of it. -/
theorem foldlM_mapLocal_eq_some (fields : List (Time → Option Time)) {t u : ZonedTime}
    (h : fields.foldlM (mapLocal tz) t = some u) :
    EachLookedUp tz t.naiveLocal.date fields t.naiveLocal.time ∧
      ∃ time, fields.foldlM (fun time field => field time) t.naiveLocal.time = some time ∧
        u.naiveLocal = ⟨t.naiveLocal.date, time⟩ := by
  induction fields generalizing t with
  | nil =>
    cases h
    exact ⟨trivial, _, rfl, rfl⟩
  | cons field fields ih =>
    rw [List.foldlM_cons, Option.bind_eq_bind, Option.bind_eq_some_iff] at h
    obtain ⟨t', ht', hrest⟩ := h
    obtain ⟨time, htime, offset, hlooked, rfl⟩ := mapLocal_eq_some_iff.mp ht'
    have hrun := ih hrest
    rw [naiveLocal_shownAt] at hrun
    refine ⟨⟨time, htime, ⟨offset, hlooked⟩, hrun.1⟩, ?_⟩
    rw [List.foldlM_cons, htime]
    exact hrun.2

/-- The last reading is shown at the offset that was looked up for it. -/
theorem lookedUp_of_foldlM (fields : List (Time → Option Time)) {t u : ZonedTime}
    (h : fields.foldlM (mapLocal tz) t = some u) (hne : fields ≠ []) :
    ∃ offset, LookedUp tz u.naiveLocal offset ∧ shownAt u.naiveLocal offset = u := by
  induction fields generalizing t with
  | nil => exact absurd rfl hne
  | cons field fields ih =>
    rw [List.foldlM_cons, Option.bind_eq_bind, Option.bind_eq_some_iff] at h
    obtain ⟨t', ht', hrest⟩ := h
    cases fields with
    | nil =>
      cases hrest
      obtain ⟨time, -, offset, hlooked, rfl⟩ := mapLocal_eq_some_iff.mp ht'
      rw [naiveLocal_shownAt]
      exact ⟨offset, hlooked, rfl⟩
    | cons next rest => exact ih hrest (List.cons_ne_nil _ _)

theorem foldlM_mapLocal_isSome (fields : List (Time → Option Time)) {t : ZonedTime}
    (h : EachLookedUp tz t.naiveLocal.date fields t.naiveLocal.time) :
    ∃ u, fields.foldlM (mapLocal tz) t = some u := by
  induction fields generalizing t with
  | nil => exact ⟨t, rfl⟩
  | cons field fields ih =>
    obtain ⟨time, htime, ⟨offset, hlooked⟩, hrest⟩ := h
    have hrun := ih (t := shownAt ⟨t.naiveLocal.date, time⟩ offset)
    rw [naiveLocal_shownAt] at hrun
    obtain ⟨u, hu⟩ := hrun hrest
    refine ⟨u, ?_⟩
    rw [List.foldlM_cons, mapLocal_eq_some_iff.mpr ⟨time, htime, offset, hlooked, rfl⟩]
    exact hu

end Lookup

section Days
variable {tz : Zone} {fromTime t : ZonedTime} {daysOffset : I64} {resetHour : Nat}

theorem withinCalendar_iff {s : Int} {fraction : Nat} {h : fraction < 2000000000} :
    minDay ≤ (Clock.ofSeconds s fraction h).date ∧ (Clock.ofSeconds s fraction h).date ≤ maxDay ↔
      firstSecond ≤ s ∧ s ≤ lastSecond := by
  unfold Clock.ofSeconds firstSecond lastSecond secondsPerDay
  dsimp only
  omega

/-- Time that is added leads out of a leap second. -/
theorem addTimeDelta_eq {t : Clock} {delta : TimeDelta} (hpos : 0 < delta.numSeconds) :
    addTimeDelta t delta =
      if firstSecond ≤ t.seconds + delta.numSeconds ∧ t.seconds + delta.numSeconds ≤ lastSecond then
        some (.ofSeconds (t.seconds + delta.numSeconds) (t.time.fraction % 1000000000) (by omega))
      else none := by
  have hfraction := t.time.fraction_lt
  unfold addTimeDelta
  by_cases hleap : 1000000000 ≤ t.time.fraction
  · have hmod : t.time.fraction % 1000000000 = t.time.fraction - 1000000000 := by omega
    simp only [hleap, ne_eq, hpos.ne', not_false_eq_true, and_self, if_true, if_neg hpos.asymm,
      add_zero, withinCalendar_iff, hmod]
  · have hmod : t.time.fraction % 1000000000 = t.time.fraction := by omega
    simp only [hleap, false_and, if_false, Clock.withSeconds, withinCalendar_iff, hmod]

theorem numSeconds_tryDays {delta : TimeDelta} (h : tryDays daysOffset = some delta) :
    delta.numSeconds = daysOffset.val * 86400 := by
  obtain ⟨n, hn, hdelta⟩ := Option.bind_eq_some_iff.mp h
  unfold I64.ofInt? at hn
  unfold TimeDelta.seconds at hdelta
  split at hn
  · cases hn
    split at hdelta
    · cases hdelta
      rfl
    · cases hdelta
  · cases hn

variable (tz) in
/-- Where the days can be counted, the fields are replaced in the reading of the arrival. -/
theorem dayAdjustedTime_of_counted (hdays : 0 < daysOffset.val)
    (h : Counted fromTime daysOffset resetHour) :
    ∃ t, dayAdjustedTime tz fromTime daysOffset resetHour = some t ∧
      t.naiveLocal = arrival tz fromTime daysOffset resetHour := by
  unfold dayAdjustedTime arrival
  by_cases hbefore : fromTime.naiveLocal.time.hour < resetHour
  · rw [if_pos hbefore, if_pos hbefore]
    exact ⟨fromTime, rfl, rfl⟩
  · rw [if_neg hbefore, if_neg hbefore]
    have hafter : resetHour ≤ fromTime.naiveLocal.time.hour := Nat.le_of_not_lt hbefore
    obtain ⟨delta, hdelta⟩ := Option.isSome_iff_exists.mp (h.days hafter)
    have hseconds := numSeconds_tryDays hdelta
    rw [hdelta, Option.bind_some, addTimeDelta_eq (by omega), hseconds, if_pos (h.sum hafter)]
    refine ⟨_, rfl, Clock.eq_iff.mpr ⟨?_, rfl⟩⟩
    simp [ZonedTime.naiveLocal, fromUtcDatetime, TimeZone.toLocal]

theorem counted_of_dayAdjustedTime (hdays : 0 < daysOffset.val)
    (h : dayAdjustedTime tz fromTime daysOffset resetHour = some t) :
    Counted fromTime daysOffset resetHour := by
  unfold dayAdjustedTime at h
  by_cases hbefore : fromTime.naiveLocal.time.hour < resetHour
  · exact ⟨fun hafter => absurd hbefore (Nat.not_lt.mpr hafter),
      fun hafter => absurd hbefore (Nat.not_lt.mpr hafter)⟩
  · rw [if_neg hbefore] at h
    obtain ⟨delta, hdelta, hsum⟩ := Option.bind_eq_some_iff.mp h
    have hseconds := numSeconds_tryDays hdelta
    rw [addTimeDelta_eq (by omega), hseconds] at hsum
    refine ⟨fun _ => by rw [hdelta]; rfl, fun _ => ?_⟩
    by_contra hout
    rw [if_neg hout] at hsum
    cases hsum

theorem firstAfter_iff {fromTime t : Clock} (hhour : resetHour < 24) (ht : t.time.fraction = 0) :
    FirstAfter tz fromTime (.oClock resetHour hhour) t ↔
      fromTime.seconds < t.seconds ∧
        tz.table.skips (fromTime.seconds + 1) t.seconds (resetHour * 3600) = true := by
  rw [TimeZone.skips_iff (by omega) (by omega)]
  have hlocal : ∀ s : Clock, (localClock tz.table s).time = .oClock resetHour hhour ↔
      tz.table.toLocal s.seconds % 86400 = resetHour * 3600 ∧ s.time.fraction = 0 := by
    intro s
    simp only [localClock, Clock.withSeconds, Clock.ofSeconds, Time.oClock, Time.mk.injEq,
      secondsPerDay]
    omega
  unfold FirstAfter
  simp only [Clock.lt_iff, ne_eq, hlocal]
  constructor
  · rintro ⟨hlater, hnone⟩
    refine ⟨by omega, fun s hlow hhigh hshown => ?_⟩
    refine hnone (.ofSeconds s 0 Time.noFraction_lt) (.inl ?_) (.inl ?_) ⟨?_, rfl⟩
    · rw [Clock.seconds_ofSeconds]
      omega
    · rw [Clock.seconds_ofSeconds]
      exact hhigh
    · rw [Clock.seconds_ofSeconds]
      exact hshown
  · rintro ⟨hlater, hnone⟩
    refine ⟨.inl hlater, fun s hlow hhigh hshown => ?_⟩
    exact hnone s.seconds (by omega) (by omega) hshown.1

end Days

section Main
variable {tz : Zone} {fromTime : ZonedTime} {daysOffset : I64} {resetHour : Nat}

/-- All fields replaced, it is the full hour. -/
theorem fields_oClock (hhour : resetHour < 24) (time : Time) :
    (fields resetHour).foldlM (fun time field => field time) time =
      some (.oClock resetHour hhour) := by
  have hseconds := time.seconds_lt
  simp only [fields, List.foldlM_cons, List.foldlM_nil, Time.withHour, Time.withMinute,
    Time.withSecond, Time.withNanosecond, dif_pos hhour, Option.bind_eq_bind, Option.bind_some]
  rw [dif_pos (by decide), Option.bind_some, dif_pos (by decide), Option.bind_some,
    dif_pos (by decide), Option.bind_some]
  unfold Time.oClock
  congr 2
  dsimp only
  omega

theorem computeSnoozedUntil_eq (tz : Zone) (fromTime : ZonedTime) (daysOffset : I64)
    (resetHour : Nat) : computeSnoozedUntil tz fromTime daysOffset resetHour =
      ((dayAdjustedTime tz fromTime daysOffset resetHour).bind
        ((fields resetHour).foldlM (mapLocal tz))).map (·.utc) := by
  unfold computeSnoozedUntil fields
  simp only [List.foldlM_cons, List.foldlM_nil, Option.bind_eq_bind, Option.pure_def,
    Option.bind_fun_some, Option.map_eq_bind, Option.bind_assoc, Function.comp_def]

/-- The snooze ends when a clock with the offset that is looked up for the hour shows it. -/
theorem computeSnoozedUntil_eq_some (hdays : 0 < daysOffset.val) (hhour : resetHour < 24)
    {t : Clock} : computeSnoozedUntil tz fromTime daysOffset resetHour = some t ↔
      Counted fromTime daysOffset resetHour ∧
        EachLookedUp tz (arrival tz fromTime daysOffset resetHour).date (fields resetHour)
          (arrival tz fromTime daysOffset resetHour).time ∧
        ∃ offset, tz.offsetFromLocal (arrivalHour tz fromTime daysOffset hhour) = .single offset ∧
          (shownAt (arrivalHour tz fromTime daysOffset hhour) offset).utc = t := by
  have hrun : ∀ {start u : ZonedTime},
      start.naiveLocal = arrival tz fromTime daysOffset resetHour →
      (fields resetHour).foldlM (mapLocal tz) start = some u →
      ∃ offset, tz.offsetFromLocal (arrivalHour tz fromTime daysOffset hhour) = .single offset ∧
        shownAt (arrivalHour tz fromTime daysOffset hhour) offset = u := by
    intro start u hstart hu
    obtain ⟨offset, hlooked, hshown⟩ := lookedUp_of_foldlM _ hu (List.cons_ne_nil _ _)
    obtain ⟨-, time, htime, hlocal⟩ := foldlM_mapLocal_eq_some _ hu
    rw [fields_oClock hhour, Option.some.injEq] at htime
    have hreading : u.naiveLocal = arrivalHour tz fromTime daysOffset hhour := by
      rw [hlocal, ← htime, hstart]
      rfl
    rw [hreading] at hlooked hshown
    exact ⟨offset, hlooked.single, hshown⟩
  rw [computeSnoozedUntil_eq, Option.map_eq_some_iff]
  constructor
  · rintro ⟨u, hbind, rfl⟩
    obtain ⟨start, hstart, hu⟩ := Option.bind_eq_some_iff.mp hbind
    have hcounted := counted_of_dayAdjustedTime hdays hstart
    obtain ⟨start', hstart', hlocal⟩ := dayAdjustedTime_of_counted tz hdays hcounted
    cases hstart.symm.trans hstart'
    obtain ⟨offset, hsingle, rfl⟩ := hrun hlocal hu
    have heach := (foldlM_mapLocal_eq_some _ hu).1
    rw [hlocal] at heach
    exact ⟨hcounted, heach, offset, hsingle, rfl⟩
  · rintro ⟨hcounted, heach, offset, hsingle, rfl⟩
    obtain ⟨start, hstart, hlocal⟩ := dayAdjustedTime_of_counted tz hdays hcounted
    rw [← hlocal] at heach
    obtain ⟨u, hu⟩ := foldlM_mapLocal_isSome _ heach
    obtain ⟨offset', hsingle', rfl⟩ := hrun hlocal hu
    cases hsingle.symm.trans hsingle'
    exact ⟨_, Option.bind_eq_some_iff.mpr ⟨start, hstart, hu⟩, rfl⟩

/-- At that instant the local clock shows the hour on the day that is meant. -/
theorem localClock_shownAt_iff (hhour : resetHour < 24) {offset : UtcOffset} :
    localClock tz.table (shownAt (arrivalHour tz fromTime daysOffset hhour) offset).utc =
        wakingReading fromTime daysOffset hhour ↔
      (tz.table.offsetAt ((arrivalHour tz fromTime daysOffset hhour).seconds -
          offset.seconds)).seconds = offset.seconds + (wakingDate fromTime daysOffset resetHour -
        (arrival tz fromTime daysOffset resetHour).date) * 86400 := by
  have hseconds : (arrivalHour tz fromTime daysOffset hhour).seconds =
      (arrival tz fromTime daysOffset resetHour).date * 86400 + (resetHour * 3600 : Nat) := rfl
  have hwaking : (wakingReading fromTime daysOffset hhour).seconds =
      wakingDate fromTime daysOffset resetHour * 86400 + (resetHour * 3600 : Nat) := rfl
  rw [Clock.eq_iff, localClock, Clock.seconds_withSeconds, Clock.fraction_withSeconds, shownAt,
    Clock.seconds_withSeconds, Clock.fraction_withSeconds, TimeZone.toLocal, hwaking]
  constructor
  · rintro ⟨hshown, -⟩
    omega
  · intro hforce
    exact ⟨by omega, rfl⟩

/-- The snooze ends as it is meant to if and only if the clocks are set such that days of 24 hours
do no harm. -/
theorem wakesAtResetHour_iff (hdays : 0 < daysOffset.val) (hhour : resetHour < 24) :
    WakesAtResetHour tz fromTime daysOffset hhour ↔
      (HourExists tz fromTime daysOffset hhour → OrdinaryDays tz fromTime daysOffset hhour) := by
  have hfirst : ∀ offset, FirstAfter tz fromTime.utc (.oClock resetHour hhour)
      (shownAt (arrivalHour tz fromTime daysOffset hhour) offset).utc ↔ _ := fun offset =>
    firstAfter_iff hhour rfl
  simp only [shownAt, Clock.seconds_withSeconds] at hfirst
  constructor
  · intro hwakes hexists
    obtain ⟨t, ht, hreading, honly⟩ := hwakes hexists
    obtain ⟨hcounted, heach, offset, hsingle, rfl⟩ :=
      (computeSnoozedUntil_eq_some hdays hhour).mp ht
    refine ⟨hcounted, heach, fun offset' hsingle' => ?_, fun hone offset' hsingle' => ?_⟩
    · cases hsingle.symm.trans hsingle'
      exact (localClock_shownAt_iff hhour).mp hreading
    · cases hsingle.symm.trans hsingle'
      exact (hfirst offset).mp (honly hone)
  · intro hordinary hexists
    obtain ⟨hcounted, heach, hforce, honly⟩ := hordinary hexists
    obtain ⟨offset, hsingle⟩ : ∃ offset,
        tz.offsetFromLocal (arrivalHour tz fromTime daysOffset hhour) = .single offset := by
      obtain ⟨start, hstart, hlocal⟩ := dayAdjustedTime_of_counted tz hdays hcounted
      rw [← hlocal] at heach
      obtain ⟨u, hu⟩ := foldlM_mapLocal_isSome _ heach
      have hsome : computeSnoozedUntil tz fromTime daysOffset resetHour = some u.utc := by
        rw [computeSnoozedUntil_eq, hstart, Option.bind_some, hu, Option.map_some]
      obtain ⟨-, -, offset, hsingle, -⟩ := (computeSnoozedUntil_eq_some hdays hhour).mp hsome
      exact ⟨offset, hsingle⟩
    refine ⟨_, (computeSnoozedUntil_eq_some hdays hhour).mpr
      ⟨hcounted, heach, offset, hsingle, rfl⟩, ?_, fun hone => ?_⟩
    · exact (localClock_shownAt_iff hhour).mpr (hforce offset hsingle)
    · exact (hfirst offset).mpr (honly hone offset hsingle)

/-- Paris in 2024, an hour ahead, and two hours from the 31st of March to the 27th of October. A
reading that is shown twice, or at neither offset, is not looked up as single. -/
def paris : Zone where
  table :=
    { first := ⟨3600, by decide⟩
      transitions :=
        [(19813 * 86400 + 3600, ⟨7200, by decide⟩), (20023 * 86400 + 3600, ⟨3600, by decide⟩)]
      ordered := by decide }
  offsetFromLocal reading :=
    if reading.seconds ≤ 19813 * 86400 + 7200 then .single ⟨3600, by decide⟩
    else if reading.seconds < 19813 * 86400 + 10800 then .none
    else if reading.seconds < 20023 * 86400 + 7200 then .single ⟨7200, by decide⟩
    else if reading.seconds ≤ 20023 * 86400 + 10800 then
      .ambiguous ⟨3600, by decide⟩ ⟨7200, by decide⟩
    else .single ⟨3600, by decide⟩

def oneDay : I64 := ⟨1, by decide⟩

theorem hour_six : 6 < 24 := by decide

/-- Noon of the 10th of January in UTC. -/
def januaryNoon : ZonedTime :=
  ⟨⟨19732, ⟨43200, 0, by decide, Time.noFraction_lt⟩⟩, ⟨3600, by decide⟩⟩

/-- Half past eleven on the evening of the 30th of March, in Paris. -/
def marchEvening : ZonedTime :=
  ⟨⟨19812, ⟨81000, 0, by decide, Time.noFraction_lt⟩⟩, ⟨3600, by decide⟩⟩

/-- Two in the afternoon of the 26th of October, in Paris. -/
def octoberAfternoon : ZonedTime :=
  ⟨⟨20022, ⟨43200, 0, by decide, Time.noFraction_lt⟩⟩, ⟨7200, by decide⟩⟩

theorem wakesAtResetHour_in_january :
    WakesAtResetHour paris januaryNoon oneDay hour_six ↔
      (HourExists paris januaryNoon oneDay hour_six →
        OrdinaryDays paris januaryNoon oneDay hour_six) :=
  wakesAtResetHour_iff (by decide) hour_six

example : computeSnoozedUntil paris januaryNoon oneDay 6 =
    some ⟨19733, ⟨18000, 0, by decide, by decide⟩⟩ := by decide

/-- The hour to which the clocks are set back is looked up as ambiguous. -/
example : computeSnoozedUntil paris octoberAfternoon oneDay 3 = none := by decide

/-- The day that follows has 23 hours, and 24 hours lead to the day after it. -/
theorem march_morning_missed :
    ¬ WakesAtResetHour paris marchEvening oneDay hour_six := by
  intro hwakes
  obtain ⟨t, ht, hreading, -⟩ := hwakes ⟨19813 * 86400 + 14400, by decide, by decide, by decide⟩
  have hlate : computeSnoozedUntil paris marchEvening oneDay 6 =
      some ⟨19814, ⟨14400, 0, by decide, by decide⟩⟩ := by decide
  rw [hlate] at ht
  cases ht
  exact absurd hreading (by decide)

end Main

end UniversalInbox.SnoozeTimes
