import Mathlib.Algebra.Order.Ring.Int
import Mathlib.Tactic.Ring

/-! The integers of binary64: rounding to nearest, and arithmetic on what integers make. -/
namespace Binary64

/-- A value of binary64 that is an integer, an infinity or not a number. -/
inductive Value where
  | finite (n : ℤ)
  | infinite (negative : Bool)
  | nan
  deriving DecidableEq

/-- The nearest multiple of the unit in the last place of 53 significant bits, ties to even. -/
def roundNat (n : ℕ) : ℕ :=
  let unit := 2 ^ (n.log2 - 52)
  if unit < 2 * (n % unit) ∨ unit = 2 * (n % unit) ∧ n / unit % 2 = 1 then (n / unit + 1) * unit
  else n / unit * unit

def ofInt (n : ℤ) : Value :=
  if (roundNat n.natAbs).log2 < 1024 then .finite (n.sign * roundNat n.natAbs)
  else .infinite (decide (n < 0))

namespace Value

def neg : Value → Value
  | finite n => finite (-n)
  | infinite negative => infinite (!negative)
  | nan => nan

def add : Value → Value → Value
  | finite a, finite b => ofInt (a + b)
  | infinite negative, finite _ | finite _, infinite negative => infinite negative
  | infinite negative, infinite negative' => if negative = negative' then infinite negative else nan
  | nan, _ | _, nan => nan

def sub (x y : Value) : Value := x.add y.neg

def mul : Value → Value → Value
  | finite a, finite b => ofInt (a * b)
  | infinite negative, finite n | finite n, infinite negative =>
    if n = 0 then nan else infinite (negative != decide (n < 0))
  | infinite negative, infinite negative' => infinite (negative != negative')
  | nan, _ | _, nan => nan

/-- `2 ^ x`, where it is an integer (`x` is not negative). -/
def exp2 : Value → Value
  | finite n => if n < 1024 then finite (2 ^ n.toNat) else infinite false
  | infinite negative => if negative then finite 0 else infinite false
  | nan => nan

/-- `x <= y`; false when one of them is not a number. -/
def le : Value → Value → Bool
  | nan, _ | _, nan => false
  | finite a, finite b => decide (a ≤ b)
  | infinite true, _ | _, infinite false => true
  | finite _, infinite true | infinite false, finite _ | infinite false, infinite true => false

def lt (x y : Value) : Bool := le x y && !le y x

theorem le_finite {a b : ℤ} (h : a ≤ b) :
    ∀ {x : Value}, le x (finite a) = true → le x (finite b) = true
  | finite _, hx => decide_eq_true ((of_decide_eq_true hx).trans h)
  | infinite true, _ => rfl

theorem finite_lt {a b : ℤ} (h : a ≤ b) :
    ∀ {x : Value}, lt (finite b) x = true → lt (finite a) x = true
  | finite n, hx => by
    simp only [lt, le, Bool.and_eq_true, decide_eq_true_eq, Bool.not_eq_true',
      decide_eq_false_iff_not] at hx ⊢
    omega
  | infinite false, _ => rfl

end Value

theorem two_pow_log2_le_roundNat {n : ℕ} (h : n ≠ 0) : 2 ^ n.log2 ≤ roundNat n := by
  have hbase : 2 ^ n.log2 ≤ n / 2 ^ (n.log2 - 52) * 2 ^ (n.log2 - 52) := by
    have hunit : 2 ^ (n.log2 - 52) ∣ 2 ^ n.log2 := pow_dvd_pow 2 (Nat.sub_le _ _)
    calc 2 ^ n.log2 = 2 ^ n.log2 / 2 ^ (n.log2 - 52) * 2 ^ (n.log2 - 52) :=
          (Nat.div_mul_cancel hunit).symm
      _ ≤ n / 2 ^ (n.log2 - 52) * 2 ^ (n.log2 - 52) :=
          Nat.mul_le_mul_right _ (Nat.div_le_div_right (Nat.log2_self_le h))
  dsimp only [roundNat]
  split
  · exact hbase.trans (Nat.mul_le_mul_right _ (Nat.le_succ _))
  · exact hbase

theorem roundNat_of_lt {n : ℕ} (h : n < 2 ^ 53) : roundNat n = n := by
  have hunit : 2 ^ (n.log2 - 52) = 1 := by
    by_cases hzero : n = 0
    · subst hzero; rfl
    · have hlog := (Nat.log2_lt hzero).mpr h
      rw [Nat.sub_eq_zero_of_le (by omega), pow_zero]
  simp [roundNat, hunit, Nat.mod_one]

/-- Up to 2^53 every integer is a value of binary64. -/
theorem roundNat_of_le {n : ℕ} (h : n ≤ 2 ^ 53) : roundNat n = n := by
  rcases h.lt_or_eq with hlt | rfl
  · exact roundNat_of_lt hlt
  · decide

/-- Rounding does not cross an integer up to 2^53. -/
theorem le_roundNat {m n : ℕ} (h : m ≤ n) (hm : m ≤ 2 ^ 53) : m ≤ roundNat n := by
  rcases le_or_gt n (2 ^ 53) with hn | hn
  · rwa [roundNat_of_le hn]
  · have hzero : n ≠ 0 := by omega
    calc m ≤ 2 ^ 53 := hm
      _ ≤ 2 ^ n.log2 := Nat.pow_le_pow_right (by decide) ((Nat.le_log2 hzero).mpr hn.le)
      _ ≤ roundNat n := two_pow_log2_le_roundNat hzero

theorem ofInt_natCast (n : ℕ) :
    ofInt n = if (roundNat n).log2 < 1024 then .finite (roundNat n) else .infinite false := by
  have hsign : (n : ℤ).sign * (roundNat n : ℤ) = roundNat n := by
    rcases Nat.eq_zero_or_pos n with rfl | hpos
    · rfl
    · rw [Int.sign_eq_one_of_pos (Int.natCast_pos.mpr hpos), one_mul]
  have hpos : ¬(n : ℤ) < 0 := not_lt.mpr (Int.natCast_nonneg n)
  rw [ofInt, Int.natAbs_natCast, hsign, decide_eq_false hpos]

theorem ofInt_of_le {n : ℕ} (h : n ≤ 2 ^ 53) : ofInt n = .finite n := by
  have hlog : n.log2 < 1024 := by
    by_cases hzero : n = 0
    · subst hzero; decide
    · have hlog : n.log2 < 54 := (Nat.log2_lt hzero).mpr (h.trans_lt (by decide))
      omega
  rw [ofInt_natCast, roundNat_of_le h, if_pos hlog]

/-- A rounded natural number is at least `m`. -/
def AtLeast (m : ℕ) : Value → Prop
  | .finite n => (m : ℤ) ≤ n
  | .infinite negative => negative = false
  | .nan => False

theorem atLeast_ofInt {m n : ℕ} (h : m ≤ n) (hm : m ≤ 2 ^ 53) : AtLeast m (ofInt n) := by
  rw [ofInt_natCast]
  split
  · exact Int.ofNat_le.mpr (le_roundNat h hm)
  · rfl

theorem AtLeast.le {m : ℕ} : ∀ {x : Value}, AtLeast m x → Value.le (.finite m) x = true
  | .finite _, h => decide_eq_true h
  | .infinite _, h => by cases h; rfl

theorem AtLeast.lt {m n : ℕ} (hlt : m < n) :
    ∀ {x : Value}, AtLeast n x → Value.lt (.finite m) x = true
  | .finite x, h => by
    have h : (n : ℤ) ≤ x := h
    simp only [Value.lt, Value.le, Bool.and_eq_true, decide_eq_true_eq, Bool.not_eq_true',
      decide_eq_false_iff_not]
    omega
  | .infinite _, h => by cases h; rfl

/-- The smaller of `m` and what is at least `m`, as a comparison picks it. -/
theorem AtLeast.cap {m : ℕ} {x : Value} (h : AtLeast m x) :
    (if Value.lt (.finite m) x then .finite m else x) = .finite (m : ℤ) := by
  split
  · rfl
  · rename_i hlt
    cases x with
    | finite n =>
      have hle : (m : ℤ) ≤ n := h
      simp only [Value.lt, Value.le, decide_eq_true hle, Bool.true_and, Bool.not_eq_true',
        decide_eq_false_iff_not, not_not] at hlt
      rw [le_antisymm hlt hle]
    | infinite negative => cases h; exact absurd rfl hlt
    | nan => exact h.elim

theorem AtLeast.lt_eq_false {m : ℕ} {x : Value} (h : AtLeast m x) : Value.lt x (.finite m) = false := by
  rw [Value.lt, h.le, Bool.not_true, Bool.and_false]

theorem AtLeast.sub {m n : ℕ} (hm : m ≤ 2 ^ 53) :
    ∀ {x : Value}, AtLeast (m + n) x → AtLeast m (x.sub (.finite n))
  | .finite x, h => by
    have h : ((m + n : ℕ) : ℤ) ≤ x := h
    obtain ⟨k, rfl⟩ := Int.eq_ofNat_of_zero_le ((Int.natCast_nonneg (m + n)).trans h)
    have hn : n ≤ k := by omega
    show AtLeast m (ofInt (k + -n))
    rw [← sub_eq_add_neg, ← Nat.cast_sub hn]
    exact atLeast_ofInt (by omega) hm
  | .infinite _, h => by cases h; rfl

theorem AtLeast.add {m n : ℕ} (h : m + n ≤ 2 ^ 53) :
    ∀ {x : Value}, AtLeast m x → AtLeast (m + n) (Value.add (.finite n) x)
  | .finite x, hx => by
    obtain ⟨k, rfl⟩ := Int.eq_ofNat_of_zero_le ((Int.natCast_nonneg m).trans hx)
    have hk : m ≤ k := Int.ofNat_le.mp hx
    show AtLeast (m + n) (ofInt (n + k))
    rw [← Nat.cast_add]
    exact atLeast_ofInt (by omega) h
  | .infinite _, hx => by cases hx; rfl

theorem AtLeast.mul {a b c : ℕ} (hc : c ≤ a * b) (hpos : 0 < c) (hle : c ≤ 2 ^ 53) :
    ∀ {x y : Value}, AtLeast a x → AtLeast b y → AtLeast c (x.mul y)
  | .finite x, .finite y, hx, hy => by
    obtain ⟨m, rfl⟩ := Int.eq_ofNat_of_zero_le ((Int.natCast_nonneg a).trans hx)
    obtain ⟨n, rfl⟩ := Int.eq_ofNat_of_zero_le ((Int.natCast_nonneg b).trans hy)
    show AtLeast c (ofInt (m * n))
    rw [← Nat.cast_mul]
    exact atLeast_ofInt (hc.trans (Nat.mul_le_mul (Int.ofNat_le.mp hx) (Int.ofNat_le.mp hy))) hle
  | .infinite _, .finite y, hx, hy => by
    have hb : 0 < b := Nat.pos_of_mul_pos_left (hpos.trans_le hc)
    have hy : (b : ℤ) ≤ y := hy
    cases hx
    rw [Value.mul, if_neg (by omega), decide_eq_false (by omega)]
    rfl
  | .finite x, .infinite _, hx, hy => by
    have ha : 0 < a := Nat.pos_of_mul_pos_right (hpos.trans_le hc)
    have hx : (a : ℤ) ≤ x := hx
    cases hy
    rw [Value.mul, if_neg (by omega), decide_eq_false (by omega)]
    rfl
  | .infinite _, .infinite _, hx, hy => by cases hx; cases hy; rfl

/-- The powers of two overflow at 1024. -/
theorem AtLeast.exp2 : ∀ {x : Value}, AtLeast 1024 x → x.exp2 = .infinite false
  | .finite n, h => if_neg (not_lt.mpr h)
  | .infinite _, h => by cases h; rfl

theorem le_ofInt {m : ℕ} (hm : m ≤ 2 ^ 53) (n : ℕ) :
    Value.le (ofInt m) (ofInt n) = decide (m ≤ n) := by
  rw [ofInt_of_le hm]
  rcases le_or_gt m n with h | h
  · rw [(atLeast_ofInt h hm).le, decide_eq_true h]
  · rw [ofInt_of_le (h.le.trans hm), decide_eq_false (not_le.mpr h)]
    exact decide_eq_false (by omega)

theorem ofInt_add {m n : ℕ} (h : m + n ≤ 2 ^ 53) :
    Value.add (.finite m) (.finite n) = .finite ((m + n : ℕ) : ℤ) := by
  show ofInt ((m : ℤ) + n) = _
  rw [← Nat.cast_add, ofInt_of_le h]

theorem ofInt_sub {m n : ℕ} (h : n ≤ m) (hm : m ≤ 2 ^ 53) :
    Value.sub (.finite m) (.finite n) = .finite ((m - n : ℕ) : ℤ) := by
  show ofInt ((m : ℤ) + -n) = _
  rw [← sub_eq_add_neg, ← Nat.cast_sub h, ofInt_of_le ((Nat.sub_le m n).trans hm)]

end Binary64
