import Mathlib.Algebra.Order.Ring.Int
import Mathlib.Data.List.Basic

/-! A stamp that only moves when it is old enough: one cell, a compare-and-stamp that is
atomic on it, and any number of competitors. -/
namespace Lease

variable {σ ι : Type*} (step : σ → ι → σ) (grants : σ → ι → List Int)

def run (s : σ) (inputs : List ι) : σ := inputs.foldl step s

/-- The stamps granted along a run, in the order they took effect. -/
def granted : σ → List ι → List Int
  | _, [] => []
  | s, i :: rest => grants s i ++ granted (step s i) rest

/-- Every input either leaves the cell alone and grants nothing, or stamps it with an instant
at least `gap` after the old stamp and grants at most that instant. -/
def Spaced (cell : σ → Option Int) (gap : Int) : Prop :=
  ∀ s i, (grants s i = [] ∧ cell (step s i) = cell s) ∨
    ∃ t, (grants s i = [] ∨ grants s i = [t]) ∧ cell (step s i) = some t ∧
      ∀ v ∈ cell s, v + gap ≤ t

variable {step grants} {cell : σ → Option Int} {gap : Int}

theorem Spaced.after_stamp (law : Spaced step grants cell gap) (hgap : 0 ≤ gap) {s : σ} {v : Int}
    (hv : cell s = some v) (inputs : List ι) : ∀ t ∈ granted step grants s inputs, v + gap ≤ t := by
  induction inputs generalizing s v with
  | nil => intro t ht; cases ht
  | cons i rest ih =>
    intro t ht
    rcases law s i with ⟨hnone, hsame⟩ | ⟨u, hgrants, hcell, hold⟩
    · rw [granted, hnone, List.nil_append] at ht
      exact ih (hsame.trans hv) t ht
    · have hvu : v + gap ≤ u := hold v hv
      rcases List.mem_append.mp ht with ht | ht
      · rcases hgrants with h | h
        · rw [h] at ht; cases ht
        · rw [h] at ht
          rw [List.mem_singleton.mp ht]
          exact hvu
      · have := ih hcell t ht
        omega

/-- Whatever the order of the competitors, two grants are at least `gap` apart. -/
theorem Spaced.granted_pairwise (law : Spaced step grants cell gap) (hgap : 0 ≤ gap) (s : σ)
    (inputs : List ι) : (granted step grants s inputs).Pairwise fun t u => t + gap ≤ u := by
  induction inputs generalizing s with
  | nil => exact List.Pairwise.nil
  | cons i rest ih =>
    rcases law s i with ⟨hnone, -⟩ | ⟨t, hgrants, hcell, -⟩
    · rw [granted, hnone, List.nil_append]
      exact ih _
    · rcases hgrants with h | h
      · rw [granted, h, List.nil_append]
        exact ih _
      · rw [granted, h, List.singleton_append]
        exact List.pairwise_cons.mpr ⟨law.after_stamp hgap hcell rest, ih _⟩

end Lease
