import UniversalInbox.Library.Calendar
import UniversalInbox.SyncBackoff
import UniversalInbox.ThirdParty

/-! The due dates that a task can be planned for by one name. A panic is `none`. -/
namespace UniversalInbox.PresetDueDates
open Calendar
open SyncBackoff (TimeDelta)

inductive PresetDueDate where
  | today
  | tomorrow
  | thisWeekend
  | nextWeek
deriving DecidableEq, Repr

/-- `a - b` of two `u32`. -/
def subU32 (overflow : Overflow) (a b : UInt32) : Option UInt32 :=
  if b ≤ a then some (a - b)
  else
    match overflow with
    | .panics => none
    | .wraps => some (a - b)

/-- `TimeDelta::try_days(days as i64).unwrap()`. -/
def tryDays (days : UInt32) : Option TimeDelta :=
  (I64.ofInt? (days.toNat * 86400)).bind TimeDelta.seconds

/-- `NaiveDate + TimeDelta`. -/
def addToDate (date : NaiveDate) (delta : TimeDelta) : Option NaiveDate :=
  let sum := date + delta.numSeconds.tdiv 86400
  if minDay ≤ sum ∧ sum ≤ maxDay then some sum else none

def daysUntilSaturday (overflow : Overflow) (weekday : Weekday) : Option UInt32 :=
  if weekday.numDaysFromMonday = 5 then some 7
  else subU32 overflow 5 weekday.numDaysFromMonday

def daysUntilNextMonday (overflow : Overflow) (weekday : Weekday) : Option UInt32 :=
  subU32 overflow 7 weekday.numDaysFromMonday

def fromPreset (overflow : Overflow) (currentDate : NaiveDate) : PresetDueDate → Option DueDate
  | .today => some (.date currentDate)
  | .tomorrow => do
    let nextDay ← addToDate currentDate (← tryDays 1)
    return .date nextDay
  | .thisWeekend => do
    let days ← daysUntilSaturday overflow (weekday currentDate)
    let nextSaturday ← addToDate currentDate (← tryDays days)
    return .date nextSaturday
  | .nextWeek => do
    let days ← daysUntilNextMonday overflow (weekday currentDate)
    let nextMonday ← addToDate currentDate (← tryDays days)
    return .date nextMonday

/-- The date that a name stands for on a day. -/
def Names (currentDate : NaiveDate) : PresetDueDate → NaiveDate → Prop
  | .today, date => date = currentDate
  | .tomorrow, date => date = currentDate + 1
  | .thisWeekend, date => IsLeast {d | currentDate < d ∧ weekday d = .sat} date
  | .nextWeek, date => IsLeast {d | currentDate < d ∧ weekday d = .mon} date

section Presets
variable {currentDate : Int} {days : UInt32}

theorem tryDays_eq (days : UInt32) :
    ∃ delta, tryDays days = some delta ∧ delta.numSeconds = days.toNat * 86400 := by
  have hdays := days.toNat_lt
  have hrange : I64.InRange (days.toNat * 86400) := by
    unfold I64.InRange
    omega
  have hbounded : ((days.toNat : Int) * 86400).natAbs ≤ SyncBackoff.maxSeconds := by
    unfold SyncBackoff.maxSeconds
    omega
  refine ⟨⟨_, hbounded⟩, ?_, rfl⟩
  unfold tryDays I64.ofInt?
  rw [dif_pos hrange, Option.bind_some]
  exact dif_pos hbounded

/-- Days are added as far as the calendar goes. -/
theorem addDays_eq (currentDate : Int) (days : UInt32) :
    (tryDays days).bind (addToDate currentDate) =
      if minDay ≤ currentDate + days.toNat ∧ currentDate + days.toNat ≤ maxDay then
        some (currentDate + days.toNat)
      else none := by
  obtain ⟨delta, hdelta, hseconds⟩ := tryDays_eq days
  rw [hdelta, Option.bind_some]
  unfold addToDate
  rw [hseconds, Int.mul_tdiv_cancel _ (by decide)]

theorem addDays_of_week (hmin : minDay ≤ currentDate) (hmax : currentDate + 7 ≤ maxDay)
    (hdays : days.toNat ≤ 7) :
    (tryDays days).bind (addToDate currentDate) = some (currentDate + days.toNat) := by
  rw [addDays_eq]
  exact if_pos ⟨by omega, by omega⟩

/-- Before Sunday the days to the next Saturday are counted right. -/
theorem daysUntilSaturday_eq (overflow : Overflow) {weekday : Weekday} (h : weekday ≠ .sun) :
    ∃ days, daysUntilSaturday overflow weekday = some days ∧ 0 < days.toNat ∧ days.toNat ≤ 7 ∧
      (weekday.numDaysFromMonday.toNat + days.toNat) % 7 = 5 := by
  cases weekday with
  | mon => exact ⟨5, rfl, by decide⟩
  | tue => exact ⟨4, rfl, by decide⟩
  | wed => exact ⟨3, rfl, by decide⟩
  | thu => exact ⟨2, rfl, by decide⟩
  | fri => exact ⟨1, rfl, by decide⟩
  | sat => exact ⟨7, rfl, by decide⟩
  | sun => exact absurd rfl h

theorem daysUntilNextMonday_eq (overflow : Overflow) (weekday : Weekday) :
    ∃ days, daysUntilNextMonday overflow weekday = some days ∧ 0 < days.toNat ∧ days.toNat ≤ 7 ∧
      (weekday.numDaysFromMonday.toNat + days.toNat) % 7 = 0 := by
  cases weekday with
  | mon => exact ⟨7, rfl, by decide⟩
  | tue => exact ⟨6, rfl, by decide⟩
  | wed => exact ⟨5, rfl, by decide⟩
  | thu => exact ⟨4, rfl, by decide⟩
  | fri => exact ⟨3, rfl, by decide⟩
  | sat => exact ⟨2, rfl, by decide⟩
  | sun => exact ⟨1, rfl, by decide⟩

theorem isLeast_of_days {w : Weekday} (hpos : 0 < days.toNat) (hweek : days.toNat ≤ 7)
    (h : ((weekday currentDate).numDaysFromMonday.toNat + days.toNat) % 7 =
      w.numDaysFromMonday.toNat) :
    IsLeast {d | currentDate < d ∧ weekday d = w} (currentDate + days.toNat) := by
  refine isLeast_next (by omega) (by omega) (weekday_eq_iff.mpr ?_)
  have hnumber := numDaysFromMonday_weekday currentDate
  omega

/-- On a Sunday the subtraction goes below zero: it panics itself, or what it wraps to is further
than the calendar goes. -/
theorem fromPreset_thisWeekend_of_sunday (overflow : Overflow) (hmin : minDay ≤ currentDate)
    (h : weekday currentDate = .sun) : fromPreset overflow currentDate .thisWeekend = none := by
  unfold fromPreset
  rw [h]
  cases overflow with
  | panics => rfl
  | wraps =>
    have hdays : daysUntilSaturday .wraps .sun = some 4294967295 := rfl
    have hsum := addDays_eq currentDate 4294967295
    rw [if_neg] at hsum
    · simp only [hdays, Option.bind_eq_bind, Option.bind_some] at hsum ⊢
      rw [← Option.bind_assoc, hsum, Option.bind_none]
    · rintro ⟨-, hmax⟩
      have hnumber : ((4294967295 : UInt32).toNat : Int) = 4294967295 := rfl
      unfold minDay at hmin
      unfold maxDay at hmax
      omega

end Presets

section Main
variable {currentDate : NaiveDate}

/-- A preset comes out as the date it names, except for the weekend on a Sunday. -/
theorem fromPreset_names_iff (overflow : Overflow) (hmin : minDay ≤ currentDate)
    (hmax : currentDate + 7 ≤ maxDay) (preset : PresetDueDate) :
    (∃ date, fromPreset overflow currentDate preset = some (.date date) ∧
        Names currentDate preset date) ↔
      ¬ (preset = .thisWeekend ∧ weekday currentDate = .sun) := by
  constructor
  · rintro ⟨date, hdate, -⟩ ⟨rfl, hsunday⟩
    rw [fromPreset_thisWeekend_of_sunday overflow hmin hsunday] at hdate
    cases hdate
  · intro hother
    cases preset with
    | today => exact ⟨currentDate, rfl, rfl⟩
    | tomorrow =>
      refine ⟨currentDate + 1, ?_, rfl⟩
      have hone : (1 : UInt32).toNat ≤ 7 := by decide
      have hsum := addDays_of_week hmin hmax hone
      simp only [fromPreset, Option.bind_eq_bind]
      rw [← Option.bind_assoc, hsum]
      rfl
    | thisWeekend =>
      obtain ⟨days, hdays, hpos, hweek, hnumber⟩ :=
        daysUntilSaturday_eq overflow fun h => hother ⟨rfl, h⟩
      refine ⟨currentDate + days.toNat, ?_, isLeast_of_days hpos hweek hnumber⟩
      simp only [fromPreset, Option.bind_eq_bind]
      rw [hdays, Option.bind_some, ← Option.bind_assoc, addDays_of_week hmin hmax hweek]
      rfl
    | nextWeek =>
      obtain ⟨days, hdays, hpos, hweek, hnumber⟩ :=
        daysUntilNextMonday_eq overflow (weekday currentDate)
      refine ⟨currentDate + days.toNat, ?_, isLeast_of_days hpos hweek hnumber⟩
      simp only [fromPreset, Option.bind_eq_bind]
      rw [hdays, Option.bind_some, ← Option.bind_assoc, addDays_of_week hmin hmax hweek]
      rfl

/-- Wednesday the 10th of January 2024. -/
theorem fromPreset_names_on_a_wednesday :
    (∃ date, fromPreset .panics 19732 .thisWeekend = some (.date date) ∧
        Names 19732 .thisWeekend date) ↔
      ¬ (PresetDueDate.thisWeekend = .thisWeekend ∧ weekday 19732 = .sun) :=
  fromPreset_names_iff .panics (by decide) (by decide) .thisWeekend

/-- Sunday the 7th of January 2024. -/
theorem no_weekend_on_a_sunday :
    fromPreset .panics 19729 .thisWeekend = none ∧
      fromPreset .wraps 19729 .thisWeekend = none :=
  ⟨fromPreset_thisWeekend_of_sunday .panics (by decide) (by decide),
    fromPreset_thisWeekend_of_sunday .wraps (by decide) (by decide)⟩

end Main

end UniversalInbox.PresetDueDates
