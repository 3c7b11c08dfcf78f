import Mathlib.Data.List.Basic
import Mathlib.Tactic.IntervalCases

/-! Bytes written as hexadecimal digits, of either case. -/
namespace Hex

def digit? : Char → Option Nat
  | '0' => some 0
  | '1' => some 1
  | '2' => some 2
  | '3' => some 3
  | '4' => some 4
  | '5' => some 5
  | '6' => some 6
  | '7' => some 7
  | '8' => some 8
  | '9' => some 9
  | 'a' | 'A' => some 10
  | 'b' | 'B' => some 11
  | 'c' | 'C' => some 12
  | 'd' | 'D' => some 13
  | 'e' | 'E' => some 14
  | 'f' | 'F' => some 15
  | _ => none

/-- The bytes of a text of digits, two for each byte, the high one first. -/
def decode : List Char → Option (List UInt8)
  | [] => some []
  | [_] => none
  | high :: low :: rest =>
    match digit? high, digit? low with
    | some h, some l => (decode rest).map fun bytes => UInt8.ofNat (16 * h + l) :: bytes
    | _, _ => none

/-- The digits of bytes, in lower case. -/
def encode : List UInt8 → List Char
  | [] => []
  | byte :: rest => (byte.toNat / 16).digitChar :: (byte.toNat % 16).digitChar :: encode rest

/-- A letter that is changed is an upper-case one, 32 code points before. -/
theorem eq_or_upper_of_toLower {c d : Char} (h : c.toLower = d) :
    c = d ∨ 65 ≤ c.toNat ∧ c.toNat ≤ 90 ∧ c.toNat + 32 = d.toNat := by
  unfold Char.toLower at h
  split at h
  · next hupper =>
    refine .inr ⟨UInt32.le_iff_toNat_le.mp hupper.1, UInt32.le_iff_toNat_le.mp hupper.2, ?_⟩
    rw [← h]
    have hle : c.val.toNat ≤ 90 := UInt32.le_iff_toNat_le.mp hupper.2
    show c.val.toNat + 32 = (c.val.toNat + 32) % 2 ^ 32
    omega
  · exact .inl h

theorem toNat_digitChar {n : Nat} (hn : n < 16) :
    n.digitChar.toNat = if n < 10 then n + 48 else n + 87 := by
  revert n
  decide

theorem digit?_eq_some_iff {c : Char} {n : Nat} :
    digit? c = some n ↔ n < 16 ∧ c.toLower = n.digitChar := by
  constructor
  · intro h
    unfold digit? at h
    split at h
    all_goals first | cases h; decide | cases h
  · rintro ⟨hn, hlower⟩
    rcases eq_or_upper_of_toLower hlower with rfl | ⟨hlow, -, hsum⟩
    · revert n
      decide
    · rw [toNat_digitChar hn] at hsum
      -- no decimal digit comes from a letter
      have hletter : ¬ n < 10 := by
        intro hdigit
        rw [if_pos hdigit] at hsum
        omega
      rw [if_neg hletter] at hsum
      have hc : c = Char.ofNat (n + 55) := by
        rw [← Char.ofNat_toNat c]
        congr 1
        omega
      rw [hc]
      interval_cases n <;> rfl

theorem digitChar_inj {n m : Nat} (hn : n < 16) (hm : m < 16) (h : n.digitChar = m.digitChar) :
    n = m := by
  have hcode := congrArg Char.toNat h
  rw [toNat_digitChar hn, toNat_digitChar hm] at hcode
  split at hcode <;> split at hcode <;> omega

/-- A text of digits of either case is read as the bytes it spells in lower case. -/
theorem decode_eq_some_iff {text : List Char} {bytes : List UInt8} :
    decode text = some bytes ↔ text.map Char.toLower = encode bytes := by
  induction text using decode.induct generalizing bytes with
  | case1 =>
    cases bytes with
    | nil => exact ⟨fun _ => rfl, fun _ => rfl⟩
    | cons byte rest => exact ⟨nofun, nofun⟩
  | case2 c =>
    cases bytes with
    | nil => exact ⟨nofun, nofun⟩
    | cons byte rest => exact ⟨nofun, fun h => nomatch (List.cons.inj h).2⟩
  | case3 high low rest h l hlow hhigh ih =>
    obtain ⟨hh, hhighLower⟩ := digit?_eq_some_iff.mp hhigh
    obtain ⟨hl, hlowLower⟩ := digit?_eq_some_iff.mp hlow
    have hbyte : (UInt8.ofNat (16 * h + l)).toNat = 16 * h + l := by
      rw [UInt8.toNat_ofNat']
      omega
    rw [decode, hhigh, hlow]
    dsimp only
    rw [List.map_cons, List.map_cons, hhighLower, hlowLower, Option.map_eq_some_iff]
    constructor
    · rintro ⟨tail, htail, rfl⟩
      rw [encode, hbyte, ih.mp htail]
      congr 3 <;> omega
    · intro hencode
      cases bytes with
      | nil => cases hencode
      | cons byte tail =>
        obtain ⟨hfirst, hrest⟩ := List.cons.inj hencode
        obtain ⟨hsecond, htail⟩ := List.cons.inj hrest
        have hlt := byte.toNat_lt
        have hquotient := digitChar_inj hh (by omega) hfirst
        have hremainder := digitChar_inj hl (by omega) hsecond
        refine ⟨tail, ih.mpr htail, ?_⟩
        have hsame : UInt8.ofNat (16 * h + l) = byte := by
          rw [← UInt8.toNat_inj, hbyte]
          omega
        rw [hsame]
  | case4 high low rest hnone =>
    constructor
    · intro h
      rw [decode] at h
      split at h
      · next h' l' hhigh hlow => exact absurd hlow (hnone h' l' hhigh)
      · cases h
    · intro hencode
      cases bytes with
      | nil => cases hencode
      | cons byte tail =>
        obtain ⟨hfirst, hrest⟩ := List.cons.inj hencode
        obtain ⟨hsecond, -⟩ := List.cons.inj hrest
        have hlt := byte.toNat_lt
        exact absurd (digit?_eq_some_iff.mpr ⟨by omega, hsecond⟩)
          (hnone _ _ (digit?_eq_some_iff.mpr ⟨by omega, hfirst⟩))

end Hex
