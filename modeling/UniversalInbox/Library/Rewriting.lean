import Mathlib.Data.List.Basic
import Mathlib.Data.List.Infix
import Mathlib.Data.List.TakeWhile

/-! Texts in which whatever a reader finds is rewritten, from the left and without overlaps. -/
namespace Rewriting

section Definitions
variable {α : Type}

/-- The longest run of accepted characters, if a separator follows it. -/
def upTo [DecidableEq α] (min : Nat) (p : α → Bool) (x : α) (text : List α) :
    Option (List α × List α) :=
  match text.dropWhile p with
  | [] => none
  | y :: rest =>
    if y = x ∧ min ≤ (text.takeWhile p).length then some (text.takeWhile p, rest) else none

/-- How many characters belong to what is found beside the first, and what stands for them. -/
structure Found (α : Type) where
  further : Nat
  new : List α

/-- Some characters of what was found may still have to be skipped. -/
def rewriteFrom (find : List α → Option (Found α)) : Nat → List α → List α
  | _, [] => []
  | skip + 1, _ :: text => rewriteFrom find skip text
  | 0, c :: text =>
    match find (c :: text) with
    | some found => found.new ++ rewriteFrom find found.further text
    | none => c :: rewriteFrom find 0 text

def rewrite (find : List α → Option (Found α)) (text : List α) : List α := rewriteFrom find 0 text

def findsIn (find : List α → Option (Found α)) : List α → Bool
  | [] => false
  | c :: text => (find (c :: text)).isSome || findsIn find text

/-- Two texts of which neither is a beginning of the other. -/
def Diverge (a b : List α) : Prop :=
  ∃ common x y restA restB, x ≠ y ∧ a = common ++ x :: restA ∧ b = common ++ y :: restB

end Definitions

section Separators
variable {α : Type} [DecidableEq α] {min : Nat} {p : α → Bool} {x : α} {text run rest : List α}

theorem upTo_of_eq (hx : p x = false) (hrun : ∀ c ∈ run, p c = true) (hmin : min ≤ run.length)
    (rest : List α) : upTo min p x (run ++ x :: rest) = some (run, rest) := by
  have htake : (run ++ x :: rest).takeWhile p = run := by
    rw [List.takeWhile_append_of_pos hrun, List.takeWhile_cons, hx]
    exact List.append_nil run
  have hdrop : (run ++ x :: rest).dropWhile p = x :: rest := by
    rw [List.dropWhile_append_of_pos hrun, List.dropWhile_cons, hx]
    rfl
  unfold upTo
  rw [hdrop, htake]
  exact if_pos ⟨rfl, hmin⟩

theorem eq_of_upTo (h : upTo min p x text = some (run, rest)) :
    text = run ++ x :: rest ∧ (∀ c ∈ run, p c = true) ∧ min ≤ run.length := by
  unfold upTo at h
  split at h
  · cases h
  · next y after hdrop =>
    split at h
    · next hfound =>
      obtain ⟨rfl, hmin⟩ := hfound
      cases h
      refine ⟨?_, fun c hc => List.mem_takeWhile_imp hc, hmin⟩
      rw [← hdrop, List.takeWhile_append_dropWhile]
    · cases h

/-- A run cannot end beyond the text if no separator stands there. -/
theorem upTo_append {other : List α} (h : x ∉ other) :
    upTo min p x (text ++ other) =
      (upTo min p x text).map fun found => (found.1, found.2 ++ other) := by
  unfold upTo
  cases hdrop : text.dropWhile p with
  | nil =>
    rw [List.dropWhile_append, hdrop, List.isEmpty_nil, if_pos rfl]
    cases hother : other.dropWhile p with
    | nil => rfl
    | cons y rest =>
      have hy : y ∈ other :=
        (List.dropWhile_suffix p).subset (hother ▸ List.mem_cons_self)
      rw [Option.map_none]
      refine if_neg ?_
      rintro ⟨rfl, -⟩
      exact h hy
  | cons y rest =>
    have hlength : (text.takeWhile p).length ≠ text.length := by
      intro heq
      have happend := List.takeWhile_append_dropWhile (p := p) (l := text)
      rw [hdrop] at happend
      have hsum := congrArg List.length happend
      rw [List.length_append, List.length_cons] at hsum
      omega
    rw [List.dropWhile_append, hdrop, List.takeWhile_append, if_neg hlength]
    by_cases hfound : y = x ∧ min ≤ (text.takeWhile p).length
    · simp [hfound]
    · simp [hfound]

/-- A text is split into a part before the first separator and one after each. -/
theorem exists_splitOn (x : α) (text : List α) :
    ∃ part parts, text.splitOn x = part :: parts ∧
      text = part ++ parts.flatMap (x :: ·) ∧ x ∉ part ∧ ∀ other ∈ parts, x ∉ other := by
  induction text with
  | nil => exact ⟨[], [], rfl, rfl, List.not_mem_nil, fun _ hmem => absurd hmem List.not_mem_nil⟩
  | cons c text ih =>
    obtain ⟨part, parts, hsplit, htext, hpart, hparts⟩ := ih
    by_cases hc : c = x
    · refine ⟨[], part :: parts, ?_, ?_, List.not_mem_nil, ?_⟩
      · rw [List.splitOn_cons_eq_if_modifyHead, if_pos (beq_iff_eq.mpr hc), hsplit]
      · rw [hc, List.flatMap_cons, List.nil_append, List.cons_append, ← htext]
      · exact List.forall_mem_cons.mpr ⟨hpart, hparts⟩
    · refine ⟨c :: part, parts, ?_, ?_, ?_, hparts⟩
      · rw [List.splitOn_cons_eq_if_modifyHead, if_neg (by simpa using hc), hsplit]
        rfl
      · rw [List.cons_append, ← htext]
      · rw [List.mem_cons, not_or]
        exact ⟨fun h => hc h.symm, hpart⟩

/-- Joined parts are split again, each of them by itself. -/
theorem splitOn_intercalate (x : α) {parts : List (List α)} (h : parts ≠ []) :
    ([x].intercalate parts).splitOn x = parts.flatMap fun part => part.splitOn x := by
  induction parts with
  | nil => exact absurd rfl h
  | cons part parts ih =>
    cases parts with
    | nil => simp
    | cons next parts =>
      rw [List.intercalate_cons_cons, List.append_assoc, List.singleton_append,
        List.splitOn_append_cons_self, ih (List.cons_ne_nil next parts), List.flatMap_cons]
      rfl

end Separators

section Rewriting
variable {α : Type} {find : List α → Option (Found α)} {text : List α}

theorem rewriteFrom_eq_drop (skip : Nat) (text : List α) :
    rewriteFrom find skip text = rewrite find (text.drop skip) := by
  induction text generalizing skip with
  | nil =>
    rw [List.drop_nil]
    unfold rewrite rewriteFrom
    rfl
  | cons c text ih =>
    cases skip with
    | zero => rfl
    | succ skip =>
      rw [List.drop_succ_cons]
      exact ih skip

@[simp] theorem rewrite_nil : rewrite find [] = [] := rfl

theorem rewrite_cons (c : α) (text : List α) : rewrite find (c :: text) =
    match find (c :: text) with
    | some found => found.new ++ rewriteFrom find found.further text
    | none => c :: rewriteFrom find 0 text := rfl

theorem rewrite_of_found {c : α} {found : Found α} (h : find (c :: text) = some found) :
    rewrite find (c :: text) = found.new ++ rewrite find (text.drop found.further) := by
  rw [rewrite_cons, h, ← rewriteFrom_eq_drop]

theorem rewrite_of_none {c : α} (h : find (c :: text) = none) :
    rewrite find (c :: text) = c :: rewrite find text := by
  rw [rewrite_cons, h]
  rfl

/-- Nothing begins in a part of the text. -/
theorem rewrite_append {part : List α}
    (h : ∀ rest, rest ≠ [] → rest <:+ part → find (rest ++ text) = none) :
    rewrite find (part ++ text) = part ++ rewrite find text := by
  induction part with
  | nil => rfl
  | cons c part ih =>
    have hc : find (c :: (part ++ text)) = none :=
      h (c :: part) (List.cons_ne_nil c part) List.suffix_rfl
    rw [List.cons_append, rewrite_of_none hc, List.cons_append]
    congr 1
    exact ih fun rest hrest hsuffix => h rest hrest (hsuffix.trans (List.suffix_cons c part))

theorem findsIn_eq_false_iff :
    findsIn find text = false ↔ ∀ rest, rest ≠ [] → rest <:+ text → find rest = none := by
  induction text with
  | nil =>
    constructor
    · intro _ rest hrest hsuffix
      exact absurd (List.suffix_nil.mp hsuffix) hrest
    · intro _
      rfl
  | cons c text ih =>
    rw [findsIn, Bool.or_eq_false_iff, Option.isSome_eq_false_iff, Option.isNone_iff_eq_none, ih]
    constructor
    · rintro ⟨hc, htext⟩ rest hrest hsuffix
      obtain rfl | hsuffix := List.suffix_cons_iff.mp hsuffix
      · exact hc
      · exact htext rest hrest hsuffix
    · intro h
      exact ⟨h _ (List.cons_ne_nil c text) List.suffix_rfl,
        fun rest hrest hsuffix => h rest hrest (hsuffix.trans (List.suffix_cons c text))⟩

theorem rewrite_eq_self (h : findsIn find text = false) : rewrite find text = text := by
  rw [findsIn_eq_false_iff] at h
  have hpart : rewrite find (text ++ []) = text ++ rewrite find [] := by
    refine rewrite_append ?_
    intro rest hrest hsuffix
    rw [List.append_nil]
    exact h rest hrest hsuffix
  rw [List.append_nil, rewrite_nil, List.append_nil] at hpart
  exact hpart

end Rewriting

section Divergence
variable {α : Type} {a b : List α}

theorem Diverge.ne (h : Diverge a b) : a ≠ b := by
  obtain ⟨common, x, y, restA, restB, hxy, rfl, rfl⟩ := h
  intro heq
  have hcons := List.append_cancel_left heq
  rw [List.cons.injEq] at hcons
  exact hxy hcons.1

theorem Diverge.append (h : Diverge a b) (c d : List α) : Diverge (a ++ c) (b ++ d) := by
  obtain ⟨common, x, y, restA, restB, hxy, rfl, rfl⟩ := h
  exact ⟨common, x, y, restA ++ c, restB ++ d, hxy, by simp, by simp⟩

theorem Diverge.prepend (h : Diverge a b) (part : List α) : Diverge (part ++ a) (part ++ b) := by
  obtain ⟨common, x, y, restA, restB, hxy, rfl, rfl⟩ := h
  exact ⟨part ++ common, x, y, restA, restB, hxy, by simp, by simp⟩

theorem diverge_cons {x y : α} (h : x ≠ y) (a b : List α) : Diverge (x :: a) (y :: b) :=
  ⟨[], x, y, a, b, h, rfl, rfl⟩

variable {find : List α → Option (Found α)} {text : List α}

/-- What is put begins otherwise than what it stands for. -/
theorem diverge_rewrite
    (hnew : ∀ c rest found, find (c :: rest) = some found →
      ∃ d new, found.new = d :: new ∧ c ≠ d)
    (h : findsIn find text = true) : Diverge text (rewrite find text) := by
  induction text with
  | nil => cases h
  | cons c text ih =>
    cases hfind : find (c :: text) with
    | some found =>
      obtain ⟨d, new, hfound, hne⟩ := hnew c text found hfind
      rw [rewrite_of_found hfind, hfound]
      exact diverge_cons hne ..
    | none =>
      rw [findsIn, hfind] at h
      rw [rewrite_of_none hfind]
      exact (ih h).prepend [c]

section Parts
variable {β : Type} {f g : β → List α} {Agrees : β → Prop} {separator : List α} {parts : List β}

/-- The first part that is written otherwise tells the texts apart, whatever the separator. -/
theorem diverge_intercalate (hagrees : ∀ part, Agrees part → f part = g part)
    (hdiverge : ∀ part, ¬ Agrees part → Diverge (f part) (g part))
    (h : ¬ ∀ part ∈ parts, Agrees part) :
    Diverge (separator.intercalate (parts.map f)) (separator.intercalate (parts.map g)) := by
  induction parts with
  | nil => exact absurd (fun _ hmem => absurd hmem List.not_mem_nil) h
  | cons part parts ih =>
    rw [List.forall_mem_cons] at h
    cases parts with
    | nil =>
      rw [List.map_singleton, List.map_singleton, List.intercalate_singleton,
        List.intercalate_singleton]
      exact hdiverge part fun hpart => h ⟨hpart, fun _ hmem => absurd hmem List.not_mem_nil⟩
    | cons next parts =>
      rw [List.map_cons, List.map_cons, List.map_cons, List.map_cons, List.intercalate_cons_cons,
        List.intercalate_cons_cons, ← List.map_cons, ← List.map_cons]
      by_cases hpart : Agrees part
      · rw [hagrees part hpart]
        exact (ih fun hparts => h ⟨hpart, hparts⟩).prepend _
      · exact ((hdiverge part hpart).append _ _).append _ _

theorem intercalate_eq_iff (hagrees : ∀ part, Agrees part → f part = g part)
    (hdiverge : ∀ part, ¬ Agrees part → Diverge (f part) (g part)) :
    separator.intercalate (parts.map f) = separator.intercalate (parts.map g) ↔
      ∀ part ∈ parts, Agrees part := by
  constructor
  · intro heq
    by_contra hparts
    exact (diverge_intercalate hagrees hdiverge hparts).ne heq
  · intro hparts
    rw [List.map_congr_left fun part hmem => hagrees part (hparts part hmem)]

end Parts

end Divergence

end Rewriting
