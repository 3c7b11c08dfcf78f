import UniversalInbox.Library.Hex

/-! The hyphenated text of a UUID. -/
namespace Uuid

/-- The last digits of a number in base 16. -/
def digits : Nat → Nat → List Char
  | 0, _ => []
  | width + 1, n => digits width (n / 16) ++ [(n % 16).digitChar]

/-- Groups of 8, 4, 4, 4 and 12 digits. The first holds whatever lies above the others, so that the
text is one of any number; of a number of 128 bits it has its 8 digits. -/
def hyphenated (uuid : Nat) : List Char :=
  (Nat.toDigits 16 (uuid / 2 ^ 96)).leftpad 8 '0' ++ '-' :: digits 4 (uuid / 2 ^ 80) ++
    '-' :: digits 4 (uuid / 2 ^ 64) ++ '-' :: digits 4 (uuid / 2 ^ 48) ++ '-' :: digits 12 uuid

/-- Reads digits on from a number, and passes over all else. -/
def read (n : Nat) (text : List Char) : Nat :=
  text.foldl (fun n c => (Hex.digit? c).elim n (16 * n + ·)) n

theorem digit?_digitChar {n : Nat} (hn : n < 16) : Hex.digit? n.digitChar = some n := by
  revert n
  decide

theorem read_append (n : Nat) (a b : List Char) : read n (a ++ b) = read (read n a) b :=
  List.foldl_append

theorem read_hyphen (n : Nat) (text : List Char) : read n ('-' :: text) = read n text := rfl

theorem read_digit (n : Nat) {d : Nat} (hd : d < 16) : read n [d.digitChar] = 16 * n + d := by
  rw [read, List.foldl_cons, digit?_digitChar hd, List.foldl_nil, Option.elim_some]

theorem read_digits (n m : Nat) (width : Nat) :
    read n (digits width m) = 16 ^ width * n + m % 16 ^ width := by
  induction width generalizing m with
  | zero => rw [digits, pow_zero, Nat.mod_one, one_mul]; rfl
  | succ width ih =>
    have hlow : m % 16 ^ (width + 1) = 16 * (m / 16 % 16 ^ width) + m % 16 := by
      rw [pow_succ', Nat.mod_mul, add_comm]
    rw [digits, read_append, ih, read_digit _ (Nat.mod_lt m (by decide)), hlow, pow_succ',
      mul_add, mul_assoc, add_assoc]

theorem read_toDigits (n : Nat) : read 0 (Nat.toDigits 16 n) = n := by
  induction n using Nat.base_induction 16 (by decide) with
  | single m hm => rw [Nat.toDigits_of_lt_base hm, read_digit 0 hm, mul_zero, zero_add]
  | digit m k hk hm ih =>
    rw [← Nat.toDigits_append_toDigits (by decide) hm hk, read_append, ih,
      Nat.toDigits_of_lt_base hk, read_digit _ hk]

theorem read_leftpad (width : Nat) (text : List Char) :
    read 0 (text.leftpad width '0') = read 0 text := by
  rw [List.leftpad, read_append]
  congr 1
  induction width - text.length with
  | zero => rfl
  | succ k ih => rw [List.replicate_succ]; exact ih

theorem read_hyphenated (uuid : Nat) : read 0 (hyphenated uuid) = uuid := by
  simp only [hyphenated, List.append_assoc, List.cons_append, read_append, read_hyphen,
    read_leftpad, read_toDigits, read_digits]
  omega

theorem hyphenated_injective : Function.Injective hyphenated :=
  Function.LeftInverse.injective read_hyphenated

theorem digit_of_mem_digits {width n : Nat} {c : Char} (h : c ∈ digits width n) :
    (Hex.digit? c).isSome := by
  induction width generalizing n with
  | zero => cases h
  | succ width ih =>
    rw [digits, List.mem_append, List.mem_singleton] at h
    obtain h | rfl := h
    · exact ih h
    · rw [digit?_digitChar (Nat.mod_lt n (by decide))]
      rfl

theorem digit_of_mem_toDigits {n : Nat} {c : Char} (h : c ∈ Nat.toDigits 16 n) :
    (Hex.digit? c).isSome := by
  induction n using Nat.base_induction 16 (by decide) with
  | single m hm =>
    rw [Nat.toDigits_of_lt_base hm, List.mem_singleton] at h
    rw [h, digit?_digitChar hm]
    rfl
  | digit m k hk hm ih =>
    rw [← Nat.toDigits_append_toDigits (by decide) hm hk, List.mem_append,
      Nat.toDigits_of_lt_base hk, List.mem_singleton] at h
    obtain h | rfl := h
    · exact ih h
    · rw [digit?_digitChar hk]
      rfl

/-- The text is of digits and hyphens. -/
theorem mem_hyphenated {uuid : Nat} {c : Char} (h : c ∈ hyphenated uuid) :
    c = '-' ∨ (Hex.digit? c).isSome := by
  simp only [hyphenated, List.append_assoc, List.cons_append, List.mem_append, List.mem_cons,
    List.leftpad] at h
  obtain h | h | rfl | h | rfl | h | rfl | h | rfl | h := h
  · rw [List.eq_of_mem_replicate h]
    exact .inr rfl
  · exact .inr (digit_of_mem_toDigits h)
  · exact .inl rfl
  · exact .inr (digit_of_mem_digits h)
  · exact .inl rfl
  · exact .inr (digit_of_mem_digits h)
  · exact .inl rfl
  · exact .inr (digit_of_mem_digits h)
  · exact .inl rfl
  · exact .inr (digit_of_mem_digits h)

end Uuid
