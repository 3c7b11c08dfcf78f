import Mathlib.Init

/-! Runs of a transition function whose inputs may be refused, properties of each step taken
along a run, and the rules that reduce them to one step. -/
namespace Transition

variable {σ ι : Type*} (step : σ → ι → Option σ)

/-- The state a run ends in; `none` when one of its inputs is refused. -/
def exec : σ → List ι → Option σ
  | s, [] => some s
  | s, i :: rest => (step s i).bind fun t => exec t rest

/-- The run is possible and each step of it, taken with `i` from `s` to `t`, satisfies `P s i t`. -/
def Along (P : σ → ι → σ → Prop) : σ → List ι → Prop
  | _, [] => True
  | s, i :: rest => ∃ t, step s i = some t ∧ P s i t ∧ Along P t rest

/-- The run is possible. -/
def Possible : σ → List ι → Prop := Along step fun _ _ _ => True

instance decidableAlong (P : σ → ι → σ → Prop) [∀ s i t, Decidable (P s i t)] :
    ∀ s inputs, Decidable (Along step P s inputs)
  | _, [] => .isTrue trivial
  | s, i :: rest =>
    match h : step s i with
    | none => .isFalse fun ⟨t, ht, _⟩ => by rw [h] at ht; cases ht
    | some t =>
      have := decidableAlong P t rest
      decidable_of_iff (P s i t ∧ Along step P t rest)
        ⟨fun hp => ⟨t, h, hp⟩, fun ⟨u, hu, hp⟩ => by rw [h] at hu; cases hu; exact hp⟩

instance : ∀ s inputs, Decidable (Possible step s inputs) :=
  fun s inputs => decidableAlong step (fun _ _ _ => True) s inputs

variable {step} {P Q : σ → ι → σ → Prop} {I : σ → Prop}

theorem exec_of_step {s t : σ} {i : ι} (h : step s i = some t) (rest : List ι) :
    exec step s (i :: rest) = exec step t rest := by
  rw [exec, h, Option.bind_some]

/-- A run is taken one step further. -/
theorem exec_concat {s t u : σ} {inputs : List ι} {i : ι} (ht : exec step s inputs = some t)
    (hu : step t i = some u) : exec step s (inputs ++ [i]) = some u := by
  induction inputs generalizing s with
  | nil =>
    cases ht
    exact exec_of_step hu []
  | cons j rest ih =>
    obtain ⟨v, hv, hrest⟩ := Option.bind_eq_some_iff.mp ht
    rw [List.cons_append, exec_of_step hv]
    exact ih hrest

theorem Along.of_invariant (hstep : ∀ s i t, I s → step s i = some t → P s i t → I t)
    (hpq : ∀ s i t, I s → step s i = some t → P s i t → Q s i t) {s : σ} {inputs : List ι}
    (hs : I s) (hrun : Along step P s inputs) : Along step Q s inputs := by
  induction inputs generalizing s with
  | nil => trivial
  | cons i rest ih =>
    obtain ⟨t, ht, hp, hrest⟩ := hrun
    exact ⟨t, ht, hpq s i t hs ht hp, ih (hstep s i t hs ht hp) hrest⟩

theorem invariant_of_exec (hstep : ∀ s i t, I s → step s i = some t → I t) {s t : σ}
    {inputs : List ι} (hs : I s) (ht : exec step s inputs = some t) : I t := by
  induction inputs generalizing s with
  | nil => cases ht; exact hs
  | cons i rest ih =>
    obtain ⟨u, hu, hrest⟩ := Option.bind_eq_some_iff.mp ht
    exact ih (hstep s i u hs hu) hrest

/-- An invariant that only the steps with a property keep holds after a run of such steps. -/
theorem invariant_of_along (hstep : ∀ s i t, I s → step s i = some t → P s i t → I t) {s t : σ}
    {inputs : List ι} (hs : I s) (hrun : Along step P s inputs) (ht : exec step s inputs = some t) :
    I t := by
  induction inputs generalizing s with
  | nil => cases ht; exact hs
  | cons i rest ih =>
    obtain ⟨u, hu, hp, hrest⟩ := hrun
    rw [exec_of_step hu] at ht
    exact ih (hstep s i u hs hu hp) hrest ht

/-- Two properties of a step that agree under an invariant agree along every possible run. -/
theorem along_iff_of_invariant (hstep : ∀ s i t, I s → step s i = some t → I t)
    (hpq : ∀ s i t, I s → step s i = some t → (P s i t ↔ Q s i t)) {s : σ} {inputs : List ι}
    (hs : I s) : Along step P s inputs ↔ Along step Q s inputs :=
  ⟨Along.of_invariant (fun s i t hs ht _ => hstep s i t hs ht)
      (fun s i t hs ht => (hpq s i t hs ht).mp) hs,
    Along.of_invariant (fun s i t hs ht _ => hstep s i t hs ht)
      (fun s i t hs ht => (hpq s i t hs ht).mpr) hs⟩

/-- Two properties of a step that agree in good states, of which the first keeps them good, agree
along every run that starts well. -/
theorem along_iff_of_kept {G : σ → Prop} (hkeep : ∀ s i t, G s → step s i = some t → P s i t → G t)
    (hpq : ∀ s i t, G s → step s i = some t → (P s i t ↔ Q s i t)) {s : σ} {inputs : List ι}
    (hs : G s) : Along step P s inputs ↔ Along step Q s inputs := by
  induction inputs generalizing s with
  | nil => exact Iff.rfl
  | cons i rest ih =>
    refine exists_congr fun t => and_congr_right fun ht => ?_
    have hiff := hpq s i t hs ht
    constructor
    · rintro ⟨hp, hrest⟩
      exact ⟨hiff.mp hp, (ih (hkeep s i t hs ht hp)).mp hrest⟩
    · rintro ⟨hq, hrest⟩
      have hp := hiff.mpr hq
      exact ⟨hp, (ih (hkeep s i t hs ht hp)).mpr hrest⟩

/-- Along a run that starts well, every state is good just in case every step keeps the good ones
so. -/
theorem along_good_iff {J G : σ → Prop} (hstep : ∀ s i t, J s → step s i = some t → J t)
    (hgood : ∀ s i t, J s → G s → step s i = some t → (G t ↔ P s i t)) {s : σ} {inputs : List ι}
    (hs : J s) (hg : G s) :
    Along step (fun _ _ t => G t) s inputs ↔ Along step P s inputs := by
  induction inputs generalizing s with
  | nil => exact Iff.rfl
  | cons i rest ih =>
    refine exists_congr fun t => and_congr_right fun ht => ?_
    have hiff := hgood s i t hs hg ht
    constructor
    · rintro ⟨hgt, hrest⟩
      exact ⟨hiff.mp hgt, (ih (hstep s i t hs ht) hgt).mp hrest⟩
    · rintro ⟨hp, hrest⟩
      exact ⟨hiff.mpr hp, (ih (hstep s i t hs ht) (hiff.mpr hp)).mpr hrest⟩

end Transition
