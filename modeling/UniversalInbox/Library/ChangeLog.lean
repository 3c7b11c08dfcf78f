import Mathlib.Data.List.Basic

/-! A log of keyed versions and a reader that follows it with a cursor, a length of the prefix
it has been told about. -/
namespace ChangeLog

variable {α κ : Type*} [DecidableEq κ] (key : α → κ)

/-- The version a key has at the end of the log. -/
def latest (log : List α) (k : κ) : Option α := log.reverse.find? fun x => decide (key x = k)

/-- An answer from a cursor: the current version, once, of every key that changed since, and
possibly of others. -/
structure Answers (log : List α) (cursor : Nat) (items : List α) : Prop where
  current : ∀ x ∈ items, latest key log (key x) = some x
  complete : ∀ x ∈ log.drop cursor, key x ∈ items.map key
  nodup : (items.map key).Nodup

instance [DecidableEq α] (log : List α) (cursor : Nat) (items : List α) :
    Decidable (Answers key log cursor items) :=
  decidable_of_iff
    ((∀ x ∈ items, latest key log (key x) = some x) ∧
      (∀ x ∈ log.drop cursor, key x ∈ items.map key) ∧ (items.map key).Nodup)
    ⟨fun ⟨current, complete, nodup⟩ => ⟨current, complete, nodup⟩,
      fun ⟨current, complete, nodup⟩ => ⟨current, complete, nodup⟩⟩

variable {key} {log log' items : List α} {cursor : Nat} {k : κ} {x : α}

/-- Versions of other keys do not matter. -/
theorem latest_append (h : ∀ y ∈ log', key y ≠ k) :
    latest key (log ++ log') k = latest key log k := by
  unfold latest
  rw [List.reverse_append, List.find?_append, List.find?_eq_none.mpr, Option.none_or]
  intro y hy
  simpa using h y (List.mem_reverse.mp hy)

theorem mem_of_latest (h : latest key log k = some x) : x ∈ log :=
  List.mem_reverse.mp (List.mem_of_find?_eq_some h)

/-- A current version is in the answer, or was current at the cursor already. -/
theorem Answers.covers (h : Answers key log cursor items) (hx : latest key log k = some x) :
    x ∈ items ∨ (k ∉ items.map key ∧ latest key (log.take cursor) k = some x) := by
  by_cases hk : k ∈ items.map key
  · obtain ⟨y, hy, rfl⟩ := List.mem_map.mp hk
    rw [h.current y hy] at hx
    exact .inl (Option.some.inj hx ▸ hy)
  · refine .inr ⟨hk, ?_⟩
    rw [← hx]
    conv_rhs => rw [← List.take_append_drop cursor log]
    refine (latest_append fun y hy hkey => hk ?_).symm
    exact hkey ▸ h.complete y hy

end ChangeLog
