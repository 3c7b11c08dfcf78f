import UniversalInbox.Library.Rewriting

/-! Regular expressions that are sequences of anchors, character classes and captured runs, and the
replacement of their first match. A run takes as many characters as the rest allows. -/
namespace Patterns
open Rewriting

section Definitions
variable {α : Type}

inductive Piece (α : Type) where
  | start
  | finish
  | one (p : α → Bool)
  /-- A group around a repeated class: `(p*)` or `(p+)`. -/
  | run (min : Nat) (p : α → Bool)

def literal [DecidableEq α] (text : List α) : List (Piece α) := text.map fun c => .one (· == c)

/-- The longest run first. -/
def longest {β : Type} (attempt : Nat → Option β) (min : Nat) : Nat → Option β
  | 0 => attempt min
  | extra + 1 => (attempt (min + (extra + 1))).or (longest attempt min extra)

/-- The groups of a match that begins here, and what follows it. -/
def matchHere : List (Piece α) → Bool → List α → Option (List (List α) × List α)
  | [], _, text => some ([], text)
  | .start :: pattern, atStart, text => if atStart then matchHere pattern atStart text else none
  | .finish :: pattern, atStart, text =>
    if text.isEmpty then matchHere pattern atStart text else none
  | .one p :: pattern, _, text =>
    match text with
    | [] => none
    | c :: rest => if p c then matchHere pattern false rest else none
  | .run min p :: pattern, atStart, text =>
    let size := (text.takeWhile p).length
    if min ≤ size then
      longest (fun n => (matchHere pattern (atStart && n == 0) (text.drop n)).map fun found =>
        (text.take n :: found.1, found.2)) min (size - min)
    else none

structure Match (α : Type) where
  before : List α
  groups : List (List α)
  after : List α

/-- The match that begins first. -/
def firstMatch (pattern : List (Piece α)) : Bool → List α → Option (Match α)
  | atStart, [] => (matchHere pattern atStart []).map fun found => ⟨[], found.1, found.2⟩
  | atStart, c :: text =>
    match matchHere pattern atStart (c :: text) with
    | some found => some ⟨[], found.1, found.2⟩
    | none =>
      (firstMatch pattern false text).map fun found => { found with before := c :: found.before }

/-- What is written for a match; groups are counted from one. -/
inductive Written (α : Type) where
  | text (new : List α)
  | group (n : Nat)

def expand (replacement : List (Written α)) (groups : List (List α)) : List α :=
  replacement.flatMap fun part =>
    match part with
    | .text new => new
    | .group n => groups.getD (n - 1) []

/-- `Regex::replace`: one match at most is replaced. -/
def replace (pattern : List (Piece α)) (replacement : List (Written α)) (text : List α) : List α :=
  match firstMatch pattern true text with
  | some found => found.before ++ (expand replacement found.groups ++ found.after)
  | none => text

end Definitions

section Equations
variable {α : Type} {pattern : List (Piece α)} {atStart : Bool} {text : List α} {p : α → Bool} {c : α}

theorem matchHere_nil : matchHere [] atStart text = some ([], text) := rfl

theorem matchHere_finish : matchHere (.finish :: pattern) atStart text =
    if text.isEmpty then matchHere pattern atStart text else none := rfl

theorem matchHere_one : matchHere (.one p :: pattern) atStart (c :: text) =
    if p c then matchHere pattern false text else none := rfl

theorem matchHere_group {min : Nat} : matchHere (.run min p :: pattern) atStart text =
    if min ≤ (text.takeWhile p).length then
      longest (fun n => (matchHere pattern (atStart && n == 0) (text.drop n)).map fun found =>
        (text.take n :: found.1, found.2)) min ((text.takeWhile p).length - min)
    else none := rfl

theorem firstMatch_nil : firstMatch pattern atStart [] =
    (matchHere pattern atStart []).map fun found => ⟨[], found.1, found.2⟩ := rfl

theorem firstMatch_cons : firstMatch pattern atStart (c :: text) =
    match matchHere pattern atStart (c :: text) with
    | some found => some ⟨[], found.1, found.2⟩
    | none =>
      (firstMatch pattern false text).map fun found =>
        { found with before := c :: found.before } := rfl

end Equations

section Pieces
variable {α : Type} [DecidableEq α] {pattern : List (Piece α)} {atStart : Bool} {text : List α}

theorem matchHere_literal (word text : List α) :
    matchHere (literal word ++ pattern) atStart (word ++ text) =
      matchHere pattern (atStart && word.isEmpty) text := by
  induction word generalizing atStart with
  | nil => simp [literal]
  | cons c word ih =>
    change matchHere (.one (· == c) :: (literal word ++ pattern)) atStart (c :: (word ++ text)) = _
    rw [matchHere_one, if_pos (beq_self_eq_true c), ih]
    simp

theorem matchHere_literal_of_other_start {word : List α} (h : ¬ word <+: text) :
    matchHere (literal word ++ pattern) atStart text = none := by
  induction word generalizing atStart text with
  | nil => exact absurd List.nil_prefix h
  | cons c word ih =>
    change matchHere (.one (· == c) :: (literal word ++ pattern)) atStart text = none
    cases text with
    | nil => rfl
    | cons d text =>
      rw [matchHere_one]
      by_cases hd : d = c
      · subst hd
        rw [if_pos (beq_self_eq_true d)]
        exact ih fun hprefix => h (List.cons_prefix_cons.mpr ⟨rfl, hprefix⟩)
      · exact if_neg (by simpa using hd)

theorem matchHere_word (word text : List α) :
    matchHere (literal word) atStart (word ++ text) = some ([], text) := by
  have hmatch : matchHere (literal word ++ []) atStart (word ++ text) =
      matchHere [] (atStart && word.isEmpty) text := matchHere_literal word text
  rw [List.append_nil] at hmatch
  exact hmatch

theorem matchHere_word_of_other_start {word : List α} (h : ¬ word <+: text) :
    matchHere (literal word) atStart text = none := by
  have hmatch : matchHere (literal word ++ []) atStart text = none :=
    matchHere_literal_of_other_start h
  rw [List.append_nil] at hmatch
  exact hmatch

theorem longest_of_none {β : Type} {attempt : Nat → Option β} {min extra : Nat}
    (h : ∀ n < min + extra, attempt n = none) :
    longest attempt min extra = attempt (min + extra) := by
  induction extra with
  | zero => rfl
  | succ extra ih =>
    have hshorter : longest attempt min extra = none := by
      rw [ih fun n hn => h n (by omega)]
      exact h _ (by omega)
    rw [longest, hshorter, Option.or_none]

theorem matchHere_one_of_ne {c x : α} (hc : c ≠ x) :
    matchHere (.one (· == x) :: pattern) atStart (c :: text) = none := by
  rw [matchHere_one]
  exact if_neg (by simpa using hc)

/-- Within a run no separator is found. -/
theorem matchHere_one_drop {p : α → Bool} {x : α} (hx : p x = false) {n : Nat}
    (hn : n < (text.takeWhile p).length) :
    matchHere (.one (· == x) :: pattern) atStart (text.drop n) = none := by
  have htext : text.takeWhile p ++ text.dropWhile p = text := List.takeWhile_append_dropWhile
  have hc : p (text.takeWhile p)[n] = true := List.mem_takeWhile_imp (List.getElem_mem hn)
  rw [← congrArg (List.drop n) htext, List.drop_append_of_le_length (le_of_lt hn),
    List.drop_eq_getElem_cons hn, List.cons_append]
  refine matchHere_one_of_ne ?_
  intro heq
  rw [heq, hx] at hc
  cases hc

/-- A run that a separator follows ends where the first separator stands. -/
theorem matchHere_run {min : Nat} {p : α → Bool} {x : α} (hx : p x = false) (text : List α) :
    matchHere (.run min p :: .one (· == x) :: pattern) atStart text =
      (upTo min p x text).bind fun found =>
        (matchHere pattern false found.2).map fun next => (found.1 :: next.1, next.2) := by
  have htake : text.take (text.takeWhile p).length = text.takeWhile p :=
    (List.prefix_iff_eq_take.mp (List.takeWhile_prefix p)).symm
  have hdrop : text.drop (text.takeWhile p).length = text.dropWhile p := by
    have happend := congrArg (List.drop (text.takeWhile p).length)
      (List.takeWhile_append_dropWhile (p := p) (l := text))
    rw [← happend, List.drop_left]
  rw [matchHere_group]
  unfold upTo
  by_cases hmin : min ≤ (text.takeWhile p).length
  · rw [if_pos hmin, longest_of_none, Nat.add_sub_of_le hmin, htake, hdrop]
    · cases text.dropWhile p with
      | nil => rfl
      | cons y rest =>
        dsimp only
        by_cases hy : y = x
        · subst hy
          rw [matchHere_one, if_pos (beq_self_eq_true y), if_pos ⟨rfl, hmin⟩]
          rfl
        · rw [matchHere_one_of_ne hy, if_neg fun h => hy h.1]
          rfl
    · intro n hn
      rw [Nat.add_sub_of_le hmin] at hn
      rw [matchHere_one_drop hx hn]
      rfl
  · rw [if_neg hmin]
    cases text.dropWhile p with
    | nil => rfl
    | cons y rest =>
      dsimp only
      rw [if_neg fun h => hmin h.2]
      rfl

end Pieces

section Replacing
variable {α : Type} {pattern : List (Piece α)} {replacement : List (Written α)}
  {text : List α}

theorem firstMatch_start (text : List α) : firstMatch (.start :: pattern) false text = none := by
  induction text with
  | nil => rfl
  | cons c text ih =>
    rw [firstMatch_cons, ih]
    rfl

/-- A pattern with an anchor at its start is looked for there only. -/
theorem replace_start (text : List α) :
    replace (.start :: pattern) replacement text =
      match matchHere pattern true text with
      | some found => expand replacement found.1 ++ found.2
      | none => text := by
  have hstart : matchHere (.start :: pattern) true text = matchHere pattern true text := if_pos rfl
  unfold replace
  cases text with
  | nil =>
    rw [firstMatch_nil, hstart]
    cases matchHere pattern true [] with
    | none => rfl
    | some found => rfl
  | cons c text =>
    rw [firstMatch_cons, hstart]
    cases matchHere pattern true (c :: text) with
    | none =>
      rw [firstMatch_start]
      rfl
    | some found => rfl

/-- Without anchors, a pattern is replaced from each position on as from the first. -/
theorem replace_cons (h : ∀ text, matchHere pattern true text = matchHere pattern false text)
    (c : α) (text : List α) :
    replace pattern replacement (c :: text) =
      match matchHere pattern false (c :: text) with
      | some found => expand replacement found.1 ++ found.2
      | none => c :: replace pattern replacement text := by
  have hfirst : firstMatch pattern true text = firstMatch pattern false text := by
    cases text with
    | nil => rw [firstMatch_nil, firstMatch_nil, h]
    | cons d text => rw [firstMatch_cons, firstMatch_cons, h]
  unfold replace
  rw [hfirst, firstMatch_cons, h]
  cases matchHere pattern false (c :: text) with
  | some found => rfl
  | none =>
    cases firstMatch pattern false text with
    | some found => rfl
    | none => rfl

theorem replace_nil (h : matchHere pattern true [] = none) :
    replace pattern replacement [] = [] := by
  unfold replace
  rw [firstMatch_nil, h]
  rfl

end Replacing

section Literals
variable {α : Type} [DecidableEq α] {replacement : List (Written α)} {text : List α}

theorem replace_start_literal (word text : List α) :
    replace (.start :: literal word) replacement (word ++ text) =
      expand replacement [] ++ text := by
  rw [replace_start, matchHere_word]

theorem replace_start_literal_of_other_start {word : List α} (h : ¬ word <+: text) :
    replace (.start :: literal word) replacement text = text := by
  rw [replace_start, matchHere_word_of_other_start h]

theorem matchHere_literal_finish (word : List α) (atStart : Bool) (text : List α) :
    matchHere (literal word ++ [.finish]) atStart text =
      if text = word then some ([], []) else none := by
  by_cases hprefix : word <+: text
  · obtain ⟨rest, rfl⟩ := hprefix
    rw [matchHere_literal, matchHere_finish]
    cases rest with
    | nil => simp [matchHere_nil]
    | cons c rest => simp
  · rw [matchHere_literal_of_other_start hprefix, if_neg]
    rintro rfl
    exact hprefix List.prefix_rfl

theorem firstMatch_literal_finish {word : List α} (before : List α) (atStart : Bool)
    (hword : word ≠ []) :
    firstMatch (literal word ++ [.finish]) atStart (before ++ word) = some ⟨before, [], []⟩ := by
  induction before generalizing atStart with
  | nil =>
    obtain ⟨c, word, rfl⟩ := List.exists_cons_of_ne_nil hword
    rw [List.nil_append, firstMatch_cons, matchHere_literal_finish, if_pos rfl]
  | cons c before ih =>
    have hlonger : c :: (before ++ word) ≠ word := by
      intro heq
      have hlength := congrArg List.length heq
      rw [List.length_cons, List.length_append] at hlength
      omega
    rw [List.cons_append, firstMatch_cons, matchHere_literal_finish, if_neg hlonger, ih]
    rfl

theorem firstMatch_literal_finish_of_not_suffix {word : List α} (atStart : Bool)
    (h : ¬ word <:+ text) : firstMatch (literal word ++ [.finish]) atStart text = none := by
  have hne : text ≠ word := by
    rintro rfl
    exact h List.suffix_rfl
  induction text generalizing atStart with
  | nil =>
    rw [firstMatch_nil, matchHere_literal_finish, if_neg hne]
    rfl
  | cons c text ih =>
    have htext : ¬ word <:+ text := fun hsuffix => h (hsuffix.trans (List.suffix_cons c text))
    rw [firstMatch_cons, matchHere_literal_finish, if_neg hne, ih false htext]
    · rfl
    · rintro rfl
      exact htext List.suffix_rfl

theorem replace_literal_finish {word : List α} (hword : word ≠ []) (before : List α) :
    replace (literal word ++ [.finish]) replacement (before ++ word) =
      before ++ expand replacement [] := by
  unfold replace
  rw [firstMatch_literal_finish before true hword]
  simp

theorem replace_literal_finish_of_not_suffix {word : List α} (h : ¬ word <:+ text) :
    replace (literal word ++ [.finish]) replacement text = text := by
  unfold replace
  rw [firstMatch_literal_finish_of_not_suffix true h]

end Literals

end Patterns
