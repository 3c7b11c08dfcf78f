import Mathlib.Data.List.Nodup
import Mathlib.Order.Lattice

/-! Sorted sets: members with a score each, in the order of the scores, and of the members where the
scores are equal. -/

structure SortedSet (Member Score : Type) [LinearOrder Member] [LinearOrder Score] where
  entries : List (Member × Score)
  ordered : entries.Pairwise fun a b => a.2 < b.2 ∨ a.2 = b.2 ∧ a.1 < b.1
  nodup : (entries.map Prod.fst).Nodup

namespace SortedSet
variable {Member Score : Type} [LinearOrder Member] [LinearOrder Score]

def keep (s : SortedSet Member Score) (p : Member × Score → Bool) : SortedSet Member Score where
  entries := s.entries.filter p
  ordered := s.ordered.filter p
  nodup := s.nodup.sublist (List.filter_sublist.map _)

/-- `ZREM`. -/
def zrem (s : SortedSet Member Score) (member : Member) : SortedSet Member Score :=
  s.keep (·.1 ≠ member)

/-- `ZRANGEBYSCORE -inf max`. -/
def upTo (s : SortedSet Member Score) (max : Score) : List Member :=
  (s.entries.filter (·.2 ≤ max)).map Prod.fst

section Members
variable {s t : SortedSet Member Score} {max : Score} {members : List Member}

theorem eq_of_entries (h : s.entries = t.entries) : s = t := by
  cases s
  cases t
  cases h
  rfl

theorem keep_keep (s : SortedSet Member Score) (p q : Member × Score → Bool) :
    (s.keep p).keep q = s.keep fun entry => p entry && q entry :=
  eq_of_entries (by simp only [keep, List.filter_filter, Bool.and_comm])

theorem keep_congr {p q : Member × Score → Bool} (h : ∀ entry ∈ s.entries, p entry = q entry) :
    s.keep p = s.keep q :=
  eq_of_entries (List.filter_congr h)

theorem foldl_zrem (s : SortedSet Member Score) (members : List Member) :
    members.foldl zrem s = s.keep (·.1 ∉ members) := by
  induction members generalizing s with
  | nil => exact eq_of_entries (by simp [keep])
  | cons member members ih =>
    rw [List.foldl_cons, ih, zrem, keep_keep]
    refine keep_congr fun entry _ => ?_
    simp [not_or]

theorem upTo_nodup (s : SortedSet Member Score) (max : Score) : (s.upTo max).Nodup :=
  s.nodup.sublist (List.filter_sublist.map _)

theorem mem_upTo {member : Member} :
    member ∈ s.upTo max ↔ ∃ score ≤ max, (member, score) ∈ s.entries := by
  simp [upTo, and_comm]

/-- A member of the set is among those up to a score if its own score is. -/
theorem mem_upTo_iff_of_mem {entry : Member × Score} (h : entry ∈ s.entries) :
    entry.1 ∈ s.upTo max ↔ entry.2 ≤ max := by
  rw [mem_upTo]
  constructor
  · rintro ⟨score, hscore, hmem⟩
    have heq := List.inj_on_of_nodup_map s.nodup hmem h rfl
    rwa [← heq]
  · intro hscore
    exact ⟨entry.2, hscore, h⟩

theorem upTo_keep (p : Member → Bool) :
    (s.keep fun entry => p entry.1).upTo max = (s.upTo max).filter p := by
  simp only [upTo, keep, List.filter_map, List.filter_filter, Function.comp_def, Bool.and_comm]

theorem filter_not_mem_left {first rest : List Member} (h : (first ++ rest).Nodup) :
    (first ++ rest).filter (· ∉ first) = rest := by
  have hdisjoint := (List.nodup_append.mp h).2.2
  rw [List.filter_append, List.filter_eq_nil_iff.mpr, List.nil_append, List.filter_eq_self]
  · intro member hmember
    rw [decide_eq_true_eq]
    exact fun hfirst => hdisjoint member hfirst member hmember rfl
  · intro member hmember
    simpa using hmember

/-- The first members are removed: the others are left. -/
theorem upTo_keep_take (s : SortedSet Member Score) (max : Score) (n : Nat) :
    (s.keep (·.1 ∉ (s.upTo max).take n)).upTo max = (s.upTo max).drop n := by
  have hsplit := List.take_append_drop n (s.upTo max)
  have hleft := filter_not_mem_left (hsplit ▸ s.upTo_nodup max)
  rw [hsplit] at hleft
  rw [upTo_keep (fun member => decide (member ∉ (s.upTo max).take n))]
  exact hleft

end Members

end SortedSet
