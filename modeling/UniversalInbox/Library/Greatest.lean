import Mathlib.Order.Lattice
import UniversalInbox.Library.Table

/-! A list folded into a table that keeps, for each key, an entry of the greatest rank: the first of
them where several share it. -/

namespace Table
variable {α κ τ : Type*} [DecidableEq κ] [LinearOrder τ] {key : α → κ} (rank : α → τ)

/-- An entry, unless the one of its key has a rank as great. -/
def keepGreatest (t : Table key) (a : α) : Table key :=
  match t.find? (key a) with
  | some existing => if rank existing < rank a then t.put a else t
  | none => t.put a

def greatest (l : List α) : Table key := l.foldl (keepGreatest rank) empty

variable {rank} {t : Table key} {a b : α} {l : List α}

theorem mem_keepGreatest (h : b ∈ (t.keepGreatest rank a).rows) : b ∈ t.rows ∨ b = a := by
  have hput : b ∈ (t.put a).rows → b ∈ t.rows ∨ b = a := fun hb =>
    (mem_put.mp hb).elim .inr fun hold => .inl hold.1
  unfold keepGreatest at h
  split at h
  · split at h
    · exact hput h
    · exact .inl h
  · exact hput h

/-- The table has an entry of the key, of the rank at least. -/
def Covers (t : Table key) (rank : α → τ) (a : α) : Prop :=
  ∃ r ∈ t.rows, key r = key a ∧ rank a ≤ rank r

theorem covers_put (h : ∀ r ∈ t.rows, key r = key a → rank r ≤ rank a) (hb : t.Covers rank b) :
    (t.put a).Covers rank b := by
  obtain ⟨r, hr, hkey, hrank⟩ := hb
  by_cases hsame : key r = key a
  · exact ⟨a, mem_put.mpr (.inl rfl), hsame.symm.trans hkey, hrank.trans (h r hr hsame)⟩
  · exact ⟨r, mem_put.mpr (.inr ⟨hr, hsame⟩), hkey, hrank⟩

/-- A step covers its entry, and whatever was covered. -/
theorem covers_keepGreatest : (t.keepGreatest rank a).Covers rank a ∧
    ∀ b, t.Covers rank b → (t.keepGreatest rank a).Covers rank b := by
  have hself : (t.put a).Covers rank a := ⟨a, mem_put.mpr (.inl rfl), rfl, le_refl _⟩
  unfold keepGreatest
  cases hfind : t.find? (key a) with
  | none =>
    refine ⟨hself, fun b => covers_put fun r hr hkey => ?_⟩
    have hsome := find?_isSome.mpr ⟨r, hr, hkey⟩
    rw [hfind] at hsome
    cases hsome
  | some existing =>
    obtain ⟨hexisting, hkey⟩ := find?_eq_some.mp hfind
    dsimp only
    split
    · next hgreater =>
      refine ⟨hself, fun b => covers_put fun r hr hsame => ?_⟩
      rw [eq_of_key hr hexisting (hsame.trans hkey.symm)]
      exact hgreater.le
    · next hkept => exact ⟨⟨existing, hexisting, hkey, not_lt.mp hkept⟩, fun _ hb => hb⟩

theorem foldl_keepGreatest :
    (∀ r ∈ (l.foldl (keepGreatest rank) t).rows, r ∈ t.rows ∨ r ∈ l) ∧
      (∀ b, t.Covers rank b → (l.foldl (keepGreatest rank) t).Covers rank b) ∧
      ∀ a ∈ l, (l.foldl (keepGreatest rank) t).Covers rank a := by
  induction l generalizing t with
  | nil => exact ⟨fun _ hr => .inl hr, fun _ hb => hb, fun _ ha => (List.not_mem_nil ha).elim⟩
  | cons a rest ih =>
    obtain ⟨hmem, hcovers, hrest⟩ := @ih (t.keepGreatest rank a)
    obtain ⟨hself, hkept⟩ := @covers_keepGreatest α κ τ _ _ key rank t a
    refine ⟨fun r hr => ?_, fun b hb => hcovers b (hkept b hb), fun b hb => ?_⟩
    · rcases hmem r hr with hr | hr
      · rcases mem_keepGreatest hr with hr | rfl
        · exact .inl hr
        · exact .inr List.mem_cons_self
      · exact .inr (List.mem_cons_of_mem _ hr)
    · rcases List.mem_cons.mp hb with rfl | hb
      · exact hcovers b hself
      · exact hrest b hb

/-- The entries kept are entries of the list. -/
theorem mem_of_mem_greatest {r : α} (h : r ∈ (greatest rank l : Table key).rows) : r ∈ l := by
  have hmem := (@foldl_keepGreatest α κ τ _ _ key rank empty l).1 r h
  exact hmem.resolve_left not_mem_empty

/-- The entry that is kept for a key has the greatest rank of it. -/
theorem rank_le_of_mem_greatest {r : α} (hr : r ∈ (greatest rank l : Table key).rows) (ha : a ∈ l)
    (hkey : key a = key r) : rank a ≤ rank r := by
  have hcovers : (greatest rank l : Table key).Covers rank a :=
    (@foldl_keepGreatest α κ τ _ _ key rank empty l).2.2 a ha
  obtain ⟨r', hr', hkey', hrank⟩ := hcovers
  rwa [eq_of_key hr' hr (hkey'.trans hkey)] at hrank

end Table
