import Mathlib.Order.Bounds.Basic
import Mathlib.Algebra.Order.Ring.Int

/-! Days, counted from 1970-01-01, and readings of a clock, in nanoseconds from that midnight. -/
namespace Calendar

inductive Weekday where
  | mon
  | tue
  | wed
  | thu
  | fri
  | sat
  | sun
deriving DecidableEq, Repr

def Weekday.numDaysFromMonday : Weekday → UInt32
  | .mon => 0
  | .tue => 1
  | .wed => 2
  | .thu => 3
  | .fri => 4
  | .sat => 5
  | .sun => 6

/-- 1970-01-01 was a Thursday. -/
def weekday (day : Int) : Weekday :=
  match ((day + 3) % 7).toNat with
  | 0 => .mon
  | 1 => .tue
  | 2 => .wed
  | 3 => .thu
  | 4 => .fri
  | 5 => .sat
  | _ => .sun

/-- The first and the last day of the years -262143 to 262142. -/
def minDay : Int := -96465292

def maxDay : Int := 95026236

def secondsPerDay : Int := 86400

/-- A time of day. The fraction is in nanoseconds, and from 10^9 on it is that of a leap second,
which is counted with the second before it. -/
structure Time where
  seconds : Nat
  fraction : Nat
  seconds_lt : seconds < 86400
  fraction_lt : fraction < 2000000000
deriving DecidableEq

namespace Time

def hour (time : Time) : Nat := time.seconds / 3600

def withHour (hour : Nat) (time : Time) : Option Time :=
  if h : hour < 24 then
    some
      { time with
        seconds := hour * 3600 + time.seconds % 3600
        seconds_lt := by omega }
  else none

def withMinute (minute : Nat) (time : Time) : Option Time :=
  if h : minute < 60 then
    some
      { time with
        seconds := time.seconds / 3600 * 3600 + minute * 60 + time.seconds % 60
        seconds_lt := by
          have := time.seconds_lt
          omega }
  else none

def withSecond (second : Nat) (time : Time) : Option Time :=
  if h : second < 60 then
    some
      { time with
        seconds := time.seconds / 60 * 60 + second
        seconds_lt := by
          have := time.seconds_lt
          omega }
  else none

def withNanosecond (nano : Nat) (time : Time) : Option Time :=
  if h : nano < 2000000000 then some { time with fraction := nano, fraction_lt := h } else none

theorem noFraction_lt : 0 < 2000000000 := by decide

theorem leapFraction_lt : 1000000000 < 2000000000 := by decide

/-- The full hour. -/
def oClock (hour : Nat) (h : hour < 24) : Time where
  seconds := hour * 3600
  fraction := 0
  seconds_lt := by omega
  fraction_lt := noFraction_lt

end Time

/-- What a clock reads. An instant is given as what a clock in UTC reads. -/
structure Clock where
  date : Int
  time : Time
deriving DecidableEq

namespace Clock

/-- Seconds from 1970-01-01 at midnight, on the same clock. -/
def seconds (clock : Clock) : Int := clock.date * secondsPerDay + clock.time.seconds

def ofSeconds (s : Int) (fraction : Nat) (h : fraction < 2000000000) : Clock where
  date := s / secondsPerDay
  time :=
    { seconds := (s % secondsPerDay).toNat
      fraction := fraction
      seconds_lt := by
        unfold secondsPerDay
        omega
      fraction_lt := h }

/-- The same fraction of another second. -/
def withSeconds (clock : Clock) (s : Int) : Clock := ofSeconds s clock.time.fraction clock.time.fraction_lt

instance : LT Clock where
  lt a b := a.seconds < b.seconds ∨ a.seconds = b.seconds ∧ a.time.fraction < b.time.fraction

instance (a b : Clock) : Decidable (a < b) := inferInstanceAs (Decidable (_ ∨ _))

end Clock

section Weekdays
variable {day k : Int} {w : Weekday}

theorem numDaysFromMonday_weekday (day : Int) :
    ((weekday day).numDaysFromMonday.toNat : Int) = (day + 3) % 7 := by
  have hlow : 0 ≤ (day + 3) % 7 := Int.emod_nonneg _ (by decide)
  have hhigh : (day + 3) % 7 < 7 := Int.emod_lt_of_pos _ (by decide)
  obtain h | h | h | h | h | h | h : (day + 3) % 7 = 0 ∨ (day + 3) % 7 = 1 ∨ (day + 3) % 7 = 2 ∨
      (day + 3) % 7 = 3 ∨ (day + 3) % 7 = 4 ∨ (day + 3) % 7 = 5 ∨ (day + 3) % 7 = 6 := by omega
  all_goals
    unfold weekday
    rw [h]
    rfl

theorem Weekday.eq_of_numDaysFromMonday {w w' : Weekday}
    (h : w.numDaysFromMonday.toNat = w'.numDaysFromMonday.toNat) : w = w' := by
  cases w <;> cases w' <;> first | rfl | exact absurd h (by decide)

theorem weekday_eq_iff :
    weekday day = w ↔ (day + 3) % 7 = w.numDaysFromMonday.toNat := by
  rw [← numDaysFromMonday_weekday]
  constructor
  · intro h
    rw [h]
  · intro h
    exact Weekday.eq_of_numDaysFromMonday (by exact_mod_cast h)

/-- A day of the following week is the first of its weekday that comes. -/
theorem isLeast_next (hpos : 0 < k) (hweek : k ≤ 7) (hk : weekday (day + k) = w) :
    IsLeast {d | day < d ∧ weekday d = w} (day + k) := by
  refine ⟨⟨by omega, hk⟩, ?_⟩
  rintro d ⟨hlater, hd⟩
  rw [weekday_eq_iff] at hk hd
  omega

end Weekdays

section Clocks
variable {clock other : Clock}

theorem Clock.lt_iff (a b : Clock) : a < b ↔
    a.seconds < b.seconds ∨ a.seconds = b.seconds ∧ a.time.fraction < b.time.fraction := Iff.rfl

theorem Clock.seconds_div (clock : Clock) : clock.seconds / secondsPerDay = clock.date := by
  have hseconds := clock.time.seconds_lt
  unfold Clock.seconds secondsPerDay
  omega

theorem Clock.seconds_emod (clock : Clock) :
    clock.seconds % secondsPerDay = clock.time.seconds := by
  have hseconds := clock.time.seconds_lt
  unfold Clock.seconds secondsPerDay
  omega

@[simp] theorem Clock.seconds_ofSeconds (s : Int) (fraction : Nat) (h : fraction < 2000000000) :
    (Clock.ofSeconds s fraction h).seconds = s := by
  unfold Clock.seconds Clock.ofSeconds secondsPerDay
  dsimp only
  omega

@[simp] theorem Clock.seconds_withSeconds (clock : Clock) (s : Int) : (clock.withSeconds s).seconds = s :=
  Clock.seconds_ofSeconds ..

@[simp] theorem Clock.fraction_withSeconds (clock : Clock) (s : Int) :
    (clock.withSeconds s).time.fraction = clock.time.fraction := rfl

@[simp] theorem Clock.date_withSeconds (clock : Clock) (s : Int) :
    (clock.withSeconds s).date = s / secondsPerDay := rfl

theorem Clock.eq_iff : clock = other ↔
    clock.seconds = other.seconds ∧ clock.time.fraction = other.time.fraction := by
  constructor
  · rintro rfl
    exact ⟨rfl, rfl⟩
  · rintro ⟨hseconds, hfraction⟩
    have hdate : clock.date = other.date := by
      rw [← clock.seconds_div, hseconds, other.seconds_div]
    have htime : clock.time.seconds = other.time.seconds := by
      have := clock.seconds_emod
      rw [hseconds, other.seconds_emod] at this
      exact_mod_cast this.symm
    obtain ⟨date, seconds, fraction, _, _⟩ := clock
    obtain ⟨date', seconds', fraction', _, _⟩ := other
    dsimp only at hdate htime hfraction
    subst hdate htime hfraction
    rfl

@[simp] theorem Clock.withSeconds_seconds (clock : Clock) : clock.withSeconds clock.seconds = clock :=
  Clock.eq_iff.mpr ⟨Clock.seconds_withSeconds .., rfl⟩

@[simp] theorem Clock.withSeconds_withSeconds (clock : Clock) (s s' : Int) :
    (clock.withSeconds s).withSeconds s' = clock.withSeconds s' := rfl

/-- Two readings at one time of day are on one date if they are less than a day apart. -/
theorem Clock.date_eq_of_lt {date date' : Int} {time : Time} {offset : Int}
    (hoffset : offset.natAbs < 86400)
    (h : Clock.seconds ⟨date, time⟩ + offset = Clock.seconds ⟨date', time⟩) : date = date' := by
  unfold Clock.seconds secondsPerDay at h
  dsimp only at h
  omega

end Clocks

end Calendar
