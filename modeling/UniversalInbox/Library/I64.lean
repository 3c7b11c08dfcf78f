import Mathlib.Data.Int.Notation

/-! Signed integers of 64 bits, whose operations panic or wrap where the result does not fit. -/

/-- What becomes of a result that does not fit, as the program was compiled. -/
inductive Overflow where
  | panics
  | wraps
deriving DecidableEq, Repr

namespace I64

def InRange (n : Int) : Prop := -9223372036854775808 ≤ n ∧ n ≤ 9223372036854775807

instance (n : Int) : Decidable (InRange n) := inferInstanceAs (Decidable (_ ∧ _))

/-- The number of the range that has the same last 64 bits. -/
def wrap (n : Int) : Int :=
  (n + 9223372036854775808) % 18446744073709551616 - 9223372036854775808

theorem wrap_inRange (n : Int) : InRange (wrap n) := by
  unfold InRange wrap
  omega

end I64

structure I64 where
  val : Int
  inRange : I64.InRange val
deriving DecidableEq

namespace I64

def ofInt? (n : Int) : Option I64 := if h : InRange n then some ⟨n, h⟩ else none

/-- An operation whose exact result is given; `none` is a panic. -/
def result (overflow : Overflow) (n : Int) : Option I64 :=
  if h : InRange n then some ⟨n, h⟩
  else
    match overflow with
    | .panics => none
    | .wraps => some ⟨wrap n, wrap_inRange n⟩

def sub (overflow : Overflow) (a b : I64) : Option I64 := result overflow (a.val - b.val)

def abs (overflow : Overflow) (a : I64) : Option I64 := result overflow a.val.natAbs

/-- A number written in decimal digits, at least one of them. -/
def digits? (text : List Char) : Option Nat :=
  if text ≠ [] ∧ text.all Char.isDigit then
    some (text.foldl (fun n c => 10 * n + (c.toNat - '0'.toNat)) 0)
  else none

/-- `str::parse`: a sign may stand before the digits. -/
def parse : List Char → Option I64
  | '-' :: text => (digits? text).bind fun n => ofInt? (-n)
  | '+' :: text => (digits? text).bind fun n => ofInt? n
  | text => (digits? text).bind fun n => ofInt? n

section Distance
variable {a b : I64}

/-- `(a - b).abs()`. -/
def distance (overflow : Overflow) (a b : I64) : Option I64 :=
  (sub overflow a b).bind (abs overflow)

theorem result_of_inRange {n : Int} (h : InRange n) : result overflow n = some ⟨n, h⟩ := by
  unfold result
  rw [dif_pos h]

theorem result_panics {n : Int} (h : ¬ InRange n) : result .panics n = none := by
  unfold result
  rw [dif_neg h]

theorem result_wraps (n : Int) : ∃ r, result .wraps n = some r ∧ r.val = wrap n := by
  unfold result
  split
  · next h =>
    refine ⟨_, rfl, ?_⟩
    unfold InRange at h
    unfold wrap
    dsimp only
    omega
  · exact ⟨_, rfl, rfl⟩

/-- The distance is exact where it fits. -/
theorem distance_of_fits (overflow : Overflow) (h : (a.val - b.val).natAbs ≤ 9223372036854775807) :
    ∃ r, distance overflow a b = some r ∧ r.val = (a.val - b.val).natAbs := by
  have hsub : InRange (a.val - b.val) := by
    unfold InRange
    omega
  have habs : InRange ((a.val - b.val).natAbs : Int) := by
    unfold InRange
    omega
  refine ⟨⟨_, habs⟩, ?_, rfl⟩
  unfold distance sub
  rw [result_of_inRange hsub, Option.bind_some]
  exact result_of_inRange habs

/-- Where it does not fit, computing it panics. -/
theorem distance_panics (h : ¬ (a.val - b.val).natAbs ≤ 9223372036854775807) :
    distance .panics a b = none := by
  unfold distance sub
  by_cases hsub : InRange (a.val - b.val)
  · rw [result_of_inRange hsub, Option.bind_some]
    refine result_panics fun habs => h ?_
    unfold InRange at habs
    dsimp only at habs
    omega
  · rw [result_panics hsub, Option.bind_none]

/-- Where it does not fit, it comes out as what is left of 2^64, or as -2^63. -/
theorem distance_wraps (h : ¬ (a.val - b.val).natAbs ≤ 9223372036854775807) :
    ∃ r, distance .wraps a b = some r ∧
      r.val = if (a.val - b.val).natAbs = 9223372036854775808 then (-9223372036854775808 : Int)
        else (18446744073709551616 - (a.val - b.val).natAbs : Int) := by
  obtain ⟨difference, hsub, hdifference⟩ := result_wraps (a.val - b.val)
  obtain ⟨r, habs, hr⟩ := result_wraps difference.val.natAbs
  refine ⟨r, ?_, ?_⟩
  · unfold distance sub
    rw [hsub, Option.bind_some]
    exact habs
  · have ha := a.inRange
    have hb := b.inRange
    unfold InRange at ha hb
    rw [hr, hdifference]
    unfold wrap
    split <;> omega

end Distance

end I64
