import UniversalInbox.Library.Rewriting

/-! Texts from which a beginning is cut off as often as it stands there, or in which a part is
replaced wherever it is found. -/
namespace Texts
open Rewriting

section Definitions
variable {α : Type} [DecidableEq α]

def trimTimes (pattern : List α) : Nat → List α → List α
  | 0, text => text
  | n + 1, text =>
    if pattern <+: text then trimTimes pattern n (text.drop pattern.length) else text

/-- `trim_start_matches`. -/
def trimStartMatches (pattern text : List α) : List α := trimTimes pattern text.length text

/-- Some characters of a match may still have to be skipped. -/
def replaceFrom (pattern new : List α) : Nat → List α → List α
  | _, [] => []
  | skip + 1, _ :: text => replaceFrom pattern new skip text
  | 0, c :: text =>
    if pattern <+: c :: text then new ++ replaceFrom pattern new (pattern.length - 1) text
    else c :: replaceFrom pattern new 0 text

/-- `replace`, of a pattern that is not empty. -/
def replace (pattern new text : List α) : List α := replaceFrom pattern new 0 text

end Definitions

section Trimming
variable {α : Type} [DecidableEq α] {pattern text : List α}

theorem trimTimes_of_length_le (hpattern : pattern ≠ []) {n m : Nat} (hn : text.length ≤ n)
    (hm : text.length ≤ m) : trimTimes pattern n text = trimTimes pattern m text := by
  induction n generalizing text m with
  | zero =>
    have htext : text = [] := List.length_eq_zero_iff.mp (Nat.le_zero.mp hn)
    subst htext
    cases m with
    | zero => rfl
    | succ m =>
      unfold trimTimes
      rw [if_neg fun h => hpattern (List.prefix_nil.mp h)]
  | succ n ih =>
    by_cases hprefix : pattern <+: text
    · have hpos := List.length_pos_iff.mpr hpattern
      have hle := hprefix.length_le
      have hlength : (text.drop pattern.length).length = text.length - pattern.length :=
        List.length_drop
      cases m with
      | zero => omega
      | succ m =>
        unfold trimTimes
        rw [if_pos hprefix, if_pos hprefix]
        exact ih (by omega) (by omega)
    · cases m with
      | zero =>
        unfold trimTimes
        rw [if_neg hprefix]
      | succ m =>
        unfold trimTimes
        rw [if_neg hprefix, if_neg hprefix]

theorem trimStartMatches_append (hpattern : pattern ≠ []) (text : List α) :
    trimStartMatches pattern (pattern ++ text) = trimStartMatches pattern text := by
  unfold trimStartMatches
  have hpos := List.length_pos_iff.mpr hpattern
  rw [trimTimes_of_length_le hpattern (le_refl _)
    (show (pattern ++ text).length ≤ text.length + pattern.length - 1 + 1 by
      rw [List.length_append]; omega), trimTimes, if_pos (List.prefix_append ..),
    List.drop_left]
  exact trimTimes_of_length_le hpattern (by omega) (le_refl _)

theorem trimStartMatches_of_other_start (h : ¬ pattern <+: text) :
    trimStartMatches pattern text = text := by
  unfold trimStartMatches
  cases text with
  | nil => rfl
  | cons c text =>
    rw [List.length_cons, trimTimes]
    exact if_neg h

end Trimming

section Replacing
variable {α : Type} [DecidableEq α] {pattern new text : List α} {x : α}

/-- The pattern where it begins, and what stands for it. -/
def findPattern (pattern new text : List α) : Option (Found α) :=
  if pattern <+: text then some { further := pattern.length - 1, new := new } else none

theorem replaceFrom_eq_rewriteFrom (skip : Nat) (text : List α) :
    replaceFrom pattern new skip text = rewriteFrom (findPattern pattern new) skip text := by
  induction text generalizing skip with
  | nil =>
    unfold replaceFrom rewriteFrom
    rfl
  | cons c text ih =>
    cases skip with
    | zero =>
      rw [replaceFrom, rewriteFrom, findPattern]
      by_cases hfound : pattern <+: c :: text
      · rw [if_pos hfound, if_pos hfound, ih]
      · rw [if_neg hfound, if_neg hfound, ih]
    | succ skip =>
      rw [replaceFrom, rewriteFrom]
      exact ih skip

theorem replace_eq_rewrite (text : List α) :
    replace pattern new text = rewrite (findPattern pattern new) text :=
  replaceFrom_eq_rewriteFrom 0 text

@[simp] theorem replace_nil : replace pattern new [] = ([] : List α) := rfl

theorem replace_match (hpattern : pattern ≠ []) (text : List α) :
    replace pattern new (pattern ++ text) = new ++ replace pattern new text := by
  obtain ⟨c, rest, rfl⟩ := List.exists_cons_of_ne_nil hpattern
  have hfound : findPattern (c :: rest) new (c :: (rest ++ text)) =
      some { further := rest.length, new := new } :=
    if_pos (List.prefix_append (c :: rest) text)
  rw [List.cons_append, replace_eq_rewrite, rewrite_of_found hfound, List.drop_left,
    replace_eq_rewrite]

theorem replace_cons_of_not_prefix {c : α} (h : ¬ pattern <+: c :: text) :
    replace pattern new (c :: text) = c :: replace pattern new text := by
  rw [replace_eq_rewrite, rewrite_of_none (if_neg h), replace_eq_rewrite]

/-- No match begins in a part without the first character of the pattern. -/
theorem replace_append_of_not_mem {part : List α} (h : x ∉ part) (text : List α) :
    replace (x :: pattern) new (part ++ text) = part ++ replace (x :: pattern) new text := by
  rw [replace_eq_rewrite, replace_eq_rewrite]
  refine rewrite_append ?_
  intro rest hrest hsuffix
  obtain ⟨c, rest, rfl⟩ := List.exists_cons_of_ne_nil hrest
  refine if_neg ?_
  intro hstart
  rw [List.cons_append, List.cons_prefix_cons] at hstart
  exact h (hstart.1 ▸ hsuffix.subset List.mem_cons_self)

end Replacing

section Separators
variable {α : Type} {x : α} {part other : List α}

/-- What stands before a separator has no prefix beyond it. -/
theorem prefix_append_iff_of_not_mem (h : x ∉ part) (rest : List α) :
    part <+: other ++ x :: rest ↔ part <+: other := by
  induction other generalizing part with
  | nil =>
    cases part with
    | nil => simp
    | cons c part =>
      rw [List.nil_append, List.cons_prefix_cons, List.prefix_nil]
      constructor
      · rintro ⟨rfl, -⟩
        exact absurd List.mem_cons_self h
      · intro hnil
        cases hnil
  | cons d other ih =>
    cases part with
    | nil => simp
    | cons c part =>
      rw [List.cons_append, List.cons_prefix_cons, List.cons_prefix_cons,
        ih fun hmem => h (List.mem_cons_of_mem _ hmem)]

theorem append_separator_prefix_iff (hpart : x ∉ part) (hother : x ∉ other) (rest : List α) :
    part ++ [x] <+: other ++ x :: rest ↔ part = other := by
  induction part generalizing other with
  | nil =>
    cases other with
    | nil => simp
    | cons d other =>
      rw [List.nil_append, List.cons_append, List.cons_prefix_cons]
      constructor
      · rintro ⟨rfl, -⟩
        exact absurd List.mem_cons_self hother
      · intro hnil
        cases hnil
  | cons c part ih =>
    cases other with
    | nil =>
      rw [List.cons_append, List.nil_append, List.cons_prefix_cons]
      constructor
      · rintro ⟨rfl, -⟩
        exact absurd List.mem_cons_self hpart
      · intro hnil
        cases hnil
    | cons d other =>
      rw [List.cons_append, List.cons_append, List.cons_prefix_cons,
        ih (fun hmem => hpart (List.mem_cons_of_mem _ hmem))
          (fun hmem => hother (List.mem_cons_of_mem _ hmem)), List.cons.injEq]

end Separators

end Texts
