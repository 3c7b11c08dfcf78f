import UniversalInbox.Library.Calendar
import Mathlib.Algebra.BigOperators.Group.List.Basic

/-! Days as years, months and days of the month, in the Gregorian calendar. -/
namespace Calendar

def isLeap (year : Int) : Bool :=
  decide (year % 4 = 0 ∧ (year % 100 ≠ 0 ∨ year % 400 = 0))

/-- The first of January. -/
def yearStart (year : Int) : Int :=
  365 * year + (year - 1) / 4 - (year - 1) / 100 + (year - 1) / 400 - 719527

/-- By the mean length of a year the day is in this year or in the next. -/
def year (day : Int) : Int :=
  if yearStart (400 * (day + 719527) / 146097 + 1) ≤ day then 400 * (day + 719527) / 146097 + 1
  else 400 * (day + 719527) / 146097

def monthLengths (leap : Bool) : List Nat :=
  [31, if leap then 29 else 28, 31, 30, 31, 30, 31, 31, 30, 31, 30, 31]

/-- In which of consecutive stretches a position is, and where in it. -/
def locate : List Nat → Nat → Nat × Nat
  | [], n => (0, n)
  | length :: lengths, n =>
    if n < length then (0, n)
    else ((locate lengths (n - length)).1 + 1, (locate lengths (n - length)).2)

/-- From 0 on. -/
def dayOfYear (day : Int) : Nat := (day - yearStart (year day)).toNat

def month (day : Int) : Nat := (locate (monthLengths (isLeap (year day))) (dayOfYear day)).1 + 1

def dayOfMonth (day : Int) : Nat :=
  (locate (monthLengths (isLeap (year day))) (dayOfYear day)).2 + 1

def minYear : Int := -262143

def maxYear : Int := 262142

def fromYmd (year : Int) (month day : Nat) : Option Int :=
  if minYear ≤ year ∧ year ≤ maxYear ∧ (1 ≤ month ∧ month ≤ 12) ∧ 1 ≤ day ∧
      day ≤ (monthLengths (isLeap year)).getD (month - 1) 0 then
    some (yearStart year + ((monthLengths (isLeap year)).take (month - 1)).sum + (day - 1))
  else none

section Stretches
variable {lengths : List Nat} {n : Nat}

theorem locate_lt (h : n < lengths.sum) : (locate lengths n).1 < lengths.length := by
  induction lengths generalizing n with
  | nil => simp at h
  | cons length lengths ih =>
    unfold locate
    rw [List.sum_cons] at h
    split
    · exact Nat.zero_lt_succ _
    · exact Nat.succ_lt_succ (ih (by omega))

theorem locate_within (h : n < lengths.sum) :
    (locate lengths n).2 < lengths.getD (locate lengths n).1 0 := by
  induction lengths generalizing n with
  | nil => simp at h
  | cons length lengths ih =>
    unfold locate
    rw [List.sum_cons] at h
    split
    · assumption
    · exact ih (by omega)

theorem sum_take_locate (lengths : List Nat) (n : Nat) :
    (lengths.take (locate lengths n).1).sum + (locate lengths n).2 = n := by
  induction lengths generalizing n with
  | nil => rw [List.take_nil, List.sum_nil, locate, Nat.zero_add]
  | cons length lengths ih =>
    unfold locate
    split
    · rw [List.take_zero, List.sum_nil, Nat.zero_add]
    · rw [List.take_succ_cons, List.sum_cons, Nat.add_assoc, ih]
      omega

theorem sum_take_add_getD_le (lengths : List Nat) (k : Nat) :
    (lengths.take k).sum + lengths.getD k 0 ≤ lengths.sum := by
  induction lengths generalizing k with
  | nil => simp
  | cons length lengths ih =>
    cases k with
    | zero => simp
    | succ k =>
      have := ih k
      rw [List.take_succ_cons, List.sum_cons, List.sum_cons, List.getD_cons_succ]
      omega

end Stretches

section Years
variable {day y : Int} {m d : Nat}

theorem sum_monthLengths (leap : Bool) : (monthLengths leap).sum = if leap then 366 else 365 := by
  cases leap <;> rfl

theorem yearStart_succ (y : Int) :
    yearStart (y + 1) = yearStart y + (monthLengths (isLeap y)).sum := by
  have hsum : ((monthLengths (isLeap y)).sum : Int) = if isLeap y = true then 366 else 365 := by
    rw [sum_monthLengths]
    split <;> rfl
  rw [hsum]
  unfold isLeap yearStart
  simp only [decide_eq_true_eq]
  split <;> omega

theorem yearStart_le (h : y ≤ day) : yearStart y ≤ yearStart day := by
  unfold yearStart
  omega

theorem year_le (day : Int) : yearStart (year day) ≤ day := by
  unfold year
  split
  · assumption
  · unfold yearStart
    omega

theorem lt_year_succ (day : Int) : day < yearStart (year day + 1) := by
  unfold year
  split
  · unfold yearStart
    omega
  · omega

theorem dayOfYear_lt (day : Int) : dayOfYear day < (monthLengths (isLeap (year day))).sum := by
  have hle := year_le day
  have hlt := lt_year_succ day
  rw [yearStart_succ] at hlt
  unfold dayOfYear
  omega

theorem month_pos (day : Int) : 1 ≤ month day := Nat.le_add_left ..

theorem month_le (day : Int) : month day ≤ 12 := by
  have hlt := locate_lt (dayOfYear_lt day)
  have hlength : (monthLengths (isLeap (year day))).length = 12 := rfl
  unfold month
  omega

theorem dayOfMonth_pos (day : Int) : 1 ≤ dayOfMonth day := Nat.le_add_left ..

theorem dayOfMonth_le (day : Int) :
    dayOfMonth day ≤ (monthLengths (isLeap (year day))).getD (month day - 1) 0 :=
  locate_within (dayOfYear_lt day)

theorem dayOfMonth_le_thirtyOne (day : Int) : dayOfMonth day ≤ 31 := by
  have hlengths : ∀ leap, ∀ length ∈ monthLengths leap, length ≤ 31 := by decide
  have hle := dayOfMonth_le day
  have hindex : month day - 1 < (monthLengths (isLeap (year day))).length :=
    locate_lt (dayOfYear_lt day)
  rw [List.getD_eq_getElem?_getD, List.getElem?_eq_getElem hindex, Option.getD_some] at hle
  exact le_trans hle (hlengths _ _ (List.getElem_mem hindex))

theorem year_bounds (hmin : minDay ≤ day) (hmax : day ≤ maxDay) :
    minYear ≤ year day ∧ year day ≤ maxYear := by
  have hle := year_le day
  have hlt := lt_year_succ day
  have hfirst : yearStart minYear = minDay := by decide
  have hend : yearStart (maxYear + 1) = maxDay + 1 := by decide
  constructor
  · by_contra hbefore
    have hstart : yearStart (year day + 1) ≤ yearStart minYear := yearStart_le (by omega)
    omega
  · by_contra hafter
    have hstart : yearStart (maxYear + 1) ≤ yearStart (year day) := yearStart_le (by omega)
    omega

theorem bounds_of_year (hmin : minYear ≤ year day) (hmax : year day ≤ maxYear) :
    minDay ≤ day ∧ day ≤ maxDay := by
  have hle := year_le day
  have hlt := lt_year_succ day
  have hfirst : yearStart minYear = minDay := by decide
  have hend : yearStart (maxYear + 1) = maxDay + 1 := by decide
  have hstart : yearStart minYear ≤ yearStart (year day) := yearStart_le hmin
  have hnext : yearStart (year day + 1) ≤ yearStart (maxYear + 1) := yearStart_le (by omega)
  omega

/-- Taken apart and put together again, a day is the same. -/
theorem fromYmd_ymd (hmin : minDay ≤ day) (hmax : day ≤ maxDay) :
    fromYmd (year day) (month day) (dayOfMonth day) = some day := by
  obtain ⟨hyear, hyear'⟩ := year_bounds hmin hmax
  have hday : (((monthLengths (isLeap (year day))).take (month day - 1)).sum +
      (dayOfMonth day - 1) : Nat) = dayOfYear day :=
    sum_take_locate (monthLengths (isLeap (year day))) (dayOfYear day)
  have hle := year_le day
  have hpos := dayOfMonth_pos day
  unfold fromYmd
  rw [if_pos ⟨hyear, hyear', ⟨month_pos day, month_le day⟩, hpos, dayOfMonth_le day⟩]
  unfold dayOfYear at hday
  congr 1
  omega

theorem fromYmd_bounds (h : fromYmd y m d = some day) : minDay ≤ day ∧ day ≤ maxDay := by
  unfold fromYmd at h
  split at h
  · next hvalid =>
    obtain ⟨hmin, hmax, ⟨hpos, hle⟩, hday, hlength⟩ := hvalid
    cases h
    have hfirst : yearStart minYear = minDay := by decide
    have hend : yearStart (maxYear + 1) = maxDay + 1 := by decide
    have hstart : yearStart minYear ≤ yearStart y := yearStart_le hmin
    have hnext : yearStart (y + 1) ≤ yearStart (maxYear + 1) := yearStart_le (by omega)
    have hwithin := sum_take_add_getD_le (monthLengths (isLeap y)) (m - 1)
    rw [yearStart_succ] at hnext
    omega
  · cases h

end Years

end Calendar
