import UniversalInbox.Library.TimeZones

/-! A due date is upgraded to an instant by the time of day and the time zone of a configuration. -/
namespace UniversalInbox.DueDates
open Calendar

/-- `DueDate`, to the second fraction. The instant is given in UTC. -/
inductive DueDate where
  | date (date : Int)
  | dateTime (datetime : Clock)
  | dateTimeWithTz (datetime : Clock)
deriving DecidableEq

structure TaskTimeConfig where
  time : Time
  timezone : String
deriving DecidableEq

/-- The seconds of the instants that can be represented. -/
def firstSecond : Int := minDay * secondsPerDay

def lastSecond : Int := maxDay * secondsPerDay + (secondsPerDay - 1)

/-- The instant a local reading stands for: the earlier one of two, and where there is none the
reading is taken to be in UTC. -/
def toUtc (tz : TimeZone) (naive : Clock) : Clock :=
  match (tz.fromLocal firstSecond lastSecond naive.seconds).earliest with
  | some t => naive.withSeconds t
  | none => naive

def datePart : DueDate → Int
  | .date date => date
  | .dateTime datetime => datetime.date
  | .dateTimeWithTz datetime => datetime.date

section Upgrade
variable (parseTz : String → Option TimeZone)

/-- `parseTz` knows the names of the time zones. -/
def withTimeConfig (due : DueDate) (timeConfig : TaskTimeConfig) : DueDate :=
  let naive : Clock := { date := datePart due, time := timeConfig.time }
  let tz := (parseTz timeConfig.timezone).getD .utc
  .dateTimeWithTz (toUtc tz naive)

end Upgrade

def localClock (tz : TimeZone) (t : Clock) : Clock := t.withSeconds (tz.toLocal t.seconds)

/-- The day a due date falls on in a time zone. -/
def localDate (tz : TimeZone) : DueDate → Int
  | .date date => date
  | .dateTime datetime => datetime.date
  | .dateTimeWithTz datetime => (localClock tz datetime).date

/-- The zone's clock shows the reading, and is not set forward over it. -/
def Shows (tz : TimeZone) (reading : Clock) : Prop :=
  tz.Shows firstSecond lastSecond reading.seconds

/-- The configured time on the local day of the due date, for good. -/
structure KeepsLocalDay (parseTz : String → Option TimeZone) (tz : TimeZone)
    (timeConfig : TaskTimeConfig) (due : DueDate) : Prop where
  shown : Shows tz ⟨localDate tz due, timeConfig.time⟩ →
    ∃ t, withTimeConfig parseTz due timeConfig = .dateTimeWithTz t ∧
      localClock tz t = ⟨localDate tz due, timeConfig.time⟩
  again : withTimeConfig parseTz (withTimeConfig parseTz due timeConfig) timeConfig =
    withTimeConfig parseTz due timeConfig

/-- The day that is read off the due date is its local day, and the one that would be read off the
earliest instant with the configured time on it is that day again. -/
structure OneDay (tz : TimeZone) (time : Time) (due : DueDate) : Prop where
  read : Shows tz ⟨localDate tz due, time⟩ → datePart due = localDate tz due
  reread : Shows tz ⟨datePart due, time⟩ →
    ∀ t, IsLeast {s | tz.toLocal s = Clock.seconds ⟨datePart due, time⟩} t →
      t / secondsPerDay = datePart due

section Instants
variable {tz : TimeZone} {naive : Clock} {date day : Int} {time : Time} {due : DueDate}

theorem toUtc_of_shows (h : Shows tz naive) :
    ∃ t, IsLeast {s | tz.toLocal s = naive.seconds} t ∧ toUtc tz naive = naive.withSeconds t := by
  obtain ⟨t, ht, hleast⟩ := TimeZone.earliest_of_shows h
  refine ⟨t, hleast, ?_⟩
  unfold toUtc
  rw [ht]

theorem toUtc_of_not_shows (h : ¬ Shows tz naive) : toUtc tz naive = naive := by
  unfold toUtc
  rw [TimeZone.earliest_of_not_shows h]

theorem localClock_toUtc (h : Shows tz naive) : localClock tz (toUtc tz naive) = naive := by
  obtain ⟨t, hleast, ht⟩ := toUtc_of_shows h
  have hreads : tz.toLocal t = naive.seconds := hleast.1
  rw [ht, localClock, Clock.seconds_withSeconds, hreads, Clock.withSeconds_withSeconds,
    Clock.withSeconds_seconds]

/-- A clock that is less than a day off UTC shows the time of an instant only where it shows its
date too. -/
theorem date_eq_of_localClock (h : localClock tz ⟨date, time⟩ = ⟨day, time⟩) : date = day := by
  have hseconds : Clock.seconds ⟨date, time⟩ + (tz.offsetAt (Clock.seconds ⟨date, time⟩)).seconds =
      Clock.seconds ⟨day, time⟩ := by
    rw [← h, localClock, Clock.seconds_withSeconds]
    rfl
  exact Clock.date_eq_of_lt (tz.offsetAt _).bounded hseconds

theorem localDate_eq_of_localClock
    (h : localClock tz (toUtc tz ⟨datePart due, time⟩) = ⟨localDate tz due, time⟩) :
    datePart due = localDate tz due := by
  by_cases hshows : Shows tz ⟨datePart due, time⟩
  · rw [localClock_toUtc hshows] at h
    exact congrArg Clock.date h
  · rw [toUtc_of_not_shows hshows] at h
    exact date_eq_of_localClock h

/-- The date of the instant in UTC is all that a second upgrade takes from the first. -/
theorem toUtc_again_iff : toUtc tz ⟨(toUtc tz ⟨date, time⟩).date, time⟩ = toUtc tz ⟨date, time⟩ ↔
    (toUtc tz ⟨date, time⟩).date = date := by
  constructor
  · intro hagain
    by_cases hshows : Shows tz ⟨date, time⟩
    · have hlocal := localClock_toUtc hshows
      rw [← hagain] at hlocal
      by_cases hsecond : Shows tz ⟨(toUtc tz ⟨date, time⟩).date, time⟩
      · rw [localClock_toUtc hsecond] at hlocal
        exact congrArg Clock.date hlocal
      · rw [toUtc_of_not_shows hsecond] at hlocal
        exact date_eq_of_localClock hlocal
    · rw [toUtc_of_not_shows hshows]
  · intro hdate
    rw [hdate]

theorem date_toUtc_iff : (toUtc tz ⟨date, time⟩).date = date ↔
    (Shows tz ⟨date, time⟩ → ∀ t, IsLeast {s | tz.toLocal s = Clock.seconds ⟨date, time⟩} t →
      t / secondsPerDay = date) := by
  constructor
  · intro hdate hshows t hleast
    obtain ⟨t', hleast', ht'⟩ := toUtc_of_shows hshows
    rw [ht', hleast'.unique hleast] at hdate
    exact hdate
  · intro hdate
    by_cases hshows : Shows tz ⟨date, time⟩
    · obtain ⟨t, hleast, ht⟩ := toUtc_of_shows hshows
      rw [ht]
      exact hdate hshows t hleast
    · rw [toUtc_of_not_shows hshows]

theorem shown_iff :
    (Shows tz ⟨localDate tz due, time⟩ →
        localClock tz (toUtc tz ⟨datePart due, time⟩) = ⟨localDate tz due, time⟩) ↔
      (Shows tz ⟨localDate tz due, time⟩ → datePart due = localDate tz due) := by
  constructor
  · intro hclock hshows
    exact localDate_eq_of_localClock (hclock hshows)
  · intro hdate hshows
    rw [hdate hshows]
    exact localClock_toUtc hshows

end Instants

section Main
variable {parseTz : String → Option TimeZone} {tz : TimeZone} {timeConfig : TaskTimeConfig}

theorem withTimeConfig_eq (hknown : parseTz timeConfig.timezone = some tz) (due : DueDate) :
    withTimeConfig parseTz due timeConfig =
      .dateTimeWithTz (toUtc tz ⟨datePart due, timeConfig.time⟩) := by
  unfold withTimeConfig
  rw [hknown]
  rfl

/-- Where the two days are one, and only there, the upgrade keeps the local day. -/
theorem withTimeConfig_keepsLocalDay_iff (hknown : parseTz timeConfig.timezone = some tz)
    (due : DueDate) :
    KeepsLocalDay parseTz tz timeConfig due ↔ OneDay tz timeConfig.time due := by
  have hagain : withTimeConfig parseTz (withTimeConfig parseTz due timeConfig) timeConfig =
        withTimeConfig parseTz due timeConfig ↔
      toUtc tz ⟨(toUtc tz ⟨datePart due, timeConfig.time⟩).date, timeConfig.time⟩ =
        toUtc tz ⟨datePart due, timeConfig.time⟩ := by
    rw [withTimeConfig_eq hknown, withTimeConfig_eq hknown, DueDate.dateTimeWithTz.injEq]
    rfl
  constructor
  · intro hkeeps
    refine ⟨shown_iff.mp fun hshows => ?_,
      date_toUtc_iff.mp (toUtc_again_iff.mp (hagain.mp hkeeps.again))⟩
    obtain ⟨t, ht, hclock⟩ := hkeeps.shown hshows
    rw [withTimeConfig_eq hknown] at ht
    cases ht
    exact hclock
  · intro hday
    refine ⟨fun hshows => ⟨_, withTimeConfig_eq hknown due, shown_iff.mpr hday.read hshows⟩, ?_⟩
    exact hagain.mpr (toUtc_again_iff.mpr (date_toUtc_iff.mpr hday.reread))

/-- Tokyo, nine hours ahead. -/
def tokyo : TimeZone where
  first := ⟨32400, by decide⟩
  transitions := []
  ordered := TimeZone.utc.ordered

def onlyTokyo (name : String) : Option TimeZone := if name = "Asia/Tokyo" then some tokyo else none

def atSix : TaskTimeConfig := ⟨⟨64800, 0, by decide, Time.noFraction_lt⟩, "Asia/Tokyo"⟩

def atEight : TaskTimeConfig := ⟨⟨28800, 0, by decide, Time.noFraction_lt⟩, "Asia/Tokyo"⟩

theorem tokyo_toLocal (t : Int) : tokyo.toLocal t = t + 32400 := rfl

/-- Six in the evening of the 10th of January 2024 in Tokyo is on the 10th in UTC. -/
theorem withTimeConfig_keepsLocalDay_in_the_evening :
    KeepsLocalDay onlyTokyo tokyo atSix (.date 19732) := by
  refine (withTimeConfig_keepsLocalDay_iff rfl _).mpr ⟨fun _ => rfl, ?_⟩
  rintro - t ⟨ht, -⟩
  replace ht : tokyo.toLocal t = Clock.seconds ⟨19732, atSix.time⟩ := ht
  rw [tokyo_toLocal] at ht
  unfold Clock.seconds secondsPerDay at ht
  unfold secondsPerDay
  dsimp only [datePart, atSix] at ht ⊢
  omega

/-- Eight in the morning is on the 9th: applied again, the time falls on the 9th in Tokyo too. And
an instant that is on the 11th there already is put on the 10th. -/
theorem local_day_lost_in_the_morning :
    ¬ KeepsLocalDay onlyTokyo tokyo atEight (.date 19732) ∧
      ¬ KeepsLocalDay onlyTokyo tokyo atEight
        (.dateTimeWithTz ⟨19732, ⟨72000, 0, by decide, by decide⟩⟩) := by
  constructor
  · intro hkeeps
    exact absurd hkeeps.again (by decide)
  · intro hkeeps
    have hshows : Shows tokyo ⟨19733, atEight.time⟩ := by
      refine ⟨⟨19733 * 86400 + 28800 - 32400, rfl⟩, fun t ht => ?_⟩
      have hreading : Clock.seconds ⟨19733, atEight.time⟩ = 19733 * 86400 + 28800 := rfl
      rw [tokyo_toLocal, hreading] at ht
      unfold firstSecond lastSecond secondsPerDay minDay maxDay
      omega
    obtain ⟨t, ht, hclock⟩ := hkeeps.shown hshows
    cases ht
    exact absurd hclock (by decide)

end Main

end UniversalInbox.DueDates
