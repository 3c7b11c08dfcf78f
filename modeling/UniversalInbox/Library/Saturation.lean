import Mathlib.Order.Lattice
import Mathlib.Algebra.Order.Group.Nat

/-! Unsigned words of 64 bits, with products and shifts that stop at the largest word. -/
namespace Saturation

def maxWord : UInt64 := 18446744073709551615

def saturatingMul (a b : UInt64) : UInt64 :=
  if a.toNat * b.toNat ≤ maxWord.toNat then a * b else maxWord

/-- A shift by as many bits as the word has, or more, is none. -/
def checkedShl (word : UInt64) (bits : Nat) : Option UInt64 :=
  if bits < 64 then some (word <<< UInt64.ofNat bits) else none

section Words
variable {a b : UInt64}

theorem toNat_le_maxWord (a : UInt64) : a.toNat ≤ maxWord.toNat := Nat.le_of_lt_succ a.toNat_lt

theorem toNat_min : (min a b).toNat = min a.toNat b.toNat := by
  show (if a ≤ b then a else b).toNat = _
  split
  · next h => rw [min_eq_left (UInt64.le_iff_toNat_le.mp h)]
  · next h => rw [min_eq_right (le_of_not_ge fun hle => h (UInt64.le_iff_toNat_le.mpr hle))]

theorem toNat_saturatingMul : (saturatingMul a b).toNat = min (a.toNat * b.toNat) maxWord.toNat := by
  unfold saturatingMul
  split
  · next h =>
    rw [min_eq_left h, UInt64.toNat_mul]
    exact Nat.mod_eq_of_lt (Nat.lt_succ_of_le h)
  · next h => rw [min_eq_right (le_of_not_ge h)]

theorem toNat_checkedShl_getD (bits : Nat) :
    ((checkedShl 1 bits).getD maxWord).toNat = if bits < 64 then 2 ^ bits else maxWord.toNat := by
  unfold checkedShl
  split
  · next hbits =>
    have hword : 2 ^ bits < 2 ^ 64 := Nat.pow_lt_pow_right (by decide) hbits
    rw [Option.getD_some, UInt64.toNat_shiftLeft, UInt64.toNat_ofNat', UInt64.toNat_one,
      Nat.mod_eq_of_lt (hbits.trans (by decide)), Nat.mod_eq_of_lt hbits, Nat.one_shiftLeft,
      Nat.mod_eq_of_lt hword]
  · rfl

/-- Under a bound, a product by a power of two comes out exactly, however many bits the power has. -/
theorem toNat_min_saturatingMul (base bound : UInt64) (bits : Nat) :
    (min (saturatingMul base ((checkedShl 1 bits).getD maxWord)) bound).toNat =
      min bound.toNat (base.toNat * 2 ^ bits) := by
  have hcap : ∀ n, min (min n maxWord.toNat) bound.toNat = min bound.toNat n := fun n => by
    rw [min_assoc, min_eq_right (toNat_le_maxWord bound), min_comm]
  rw [toNat_min, toNat_saturatingMul, hcap, toNat_checkedShl_getD]
  split
  · rfl
  · next hbits =>
    rcases Nat.eq_zero_or_pos base.toNat with hzero | hpos
    · rw [hzero, Nat.zero_mul, Nat.zero_mul]
    · have hpower : maxWord.toNat ≤ 2 ^ bits :=
        Nat.le_of_lt (Nat.lt_of_lt_of_le (show maxWord.toNat < 2 ^ 64 by decide)
          (Nat.pow_le_pow_right (by decide) (not_lt.mp hbits)))
      have hbound : bound.toNat ≤ base.toNat * maxWord.toNat :=
        (toNat_le_maxWord bound).trans (Nat.le_mul_of_pos_left _ hpos)
      rw [min_eq_left hbound, min_eq_left (hbound.trans (Nat.mul_le_mul_left _ hpower))]

end Words

end Saturation
