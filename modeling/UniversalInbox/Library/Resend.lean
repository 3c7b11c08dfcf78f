import Mathlib.Dynamics.FixedPoints.Basic

/-! Requests that are sent again as long as their answers are classified as transient. An answer
does not tell whether the request was applied where it was sent to. -/
namespace Resend
variable {σ ρ : Type*}

/-- One delivery of a request: whether it was applied, and what came back of it. -/
structure Attempt (ρ : Type*) where
  applied : Bool
  answer : ρ

/-- The attempts that a policy allows, each with what it comes to if it is made. -/
structure Attempts (ρ : Type*) where
  first : Attempt ρ
  retries : List (Attempt ρ)

/-- A policy that allows no retry. -/
def Attempts.once (attempts : Attempts ρ) : Attempts ρ := { attempts with retries := [] }

def deliver (apply : σ → σ) (s : σ) (a : Attempt ρ) : σ := if a.applied then apply s else s

def resend (transient : ρ → Bool) (apply : σ → σ) : Attempt ρ → List (Attempt ρ) → σ → σ × ρ
  | a, [], s => (deliver apply s a, a.answer)
  | a, b :: rest, s =>
    if transient a.answer then resend transient apply b rest (deliver apply s a)
    else (deliver apply s a, a.answer)

def send (transient : ρ → Bool) (apply : σ → σ) (attempts : Attempts ρ) (s : σ) : σ × ρ :=
  resend transient apply attempts.first attempts.retries s

def madeFrom (transient : ρ → Bool) : Attempt ρ → List (Attempt ρ) → List (Attempt ρ)
  | a, [] => [a]
  | a, b :: rest => if transient a.answer then a :: madeFrom transient b rest else [a]

/-- The attempts that are made. -/
def made (transient : ρ → Bool) (attempts : Attempts ρ) : List (Attempt ρ) :=
  madeFrom transient attempts.first attempts.retries

/-- No attempt that was applied is followed by another one that was. -/
def AppliedOnce (transient : ρ → Bool) (attempts : Attempts ρ) : Prop :=
  (made transient attempts).Pairwise fun a b => ¬ (a.applied = true ∧ b.applied = true)

instance (transient : ρ → Bool) (attempts : Attempts ρ) :
    Decidable (AppliedOnce transient attempts) :=
  inferInstanceAs (Decidable (List.Pairwise _ _))

section Effect
variable {transient : ρ → Bool} {apply : σ → σ} {attempts : Attempts ρ} {s : σ}

theorem foldl_deliver (l : List (Attempt ρ)) (s : σ) :
    l.foldl (deliver apply) s = apply^[l.countP (·.applied)] s := by
  induction l generalizing s with
  | nil => rfl
  | cons a l ih =>
    rw [List.foldl_cons, ih]
    cases h : a.applied with
    | true => simp [deliver, h]
    | false => simp [deliver, h]

theorem resend_fst (a : Attempt ρ) (rest : List (Attempt ρ)) (s : σ) :
    (resend transient apply a rest s).1 = (madeFrom transient a rest).foldl (deliver apply) s := by
  induction rest generalizing a s with
  | nil => rfl
  | cons b rest ih =>
    cases h : transient a.answer with
    | true => simp [resend, madeFrom, h, ih]
    | false => simp [resend, madeFrom, h]

/-- What is left behind depends on how many attempts were applied, and on nothing else. -/
theorem send_fst : (send transient apply attempts s).1 =
    apply^[(made transient attempts).countP (·.applied)] s := by
  rw [send, resend_fst, foldl_deliver]
  rfl

/-- A request that changes nothing when it is applied again is applied once, or not at all. -/
theorem send_of_idempotent (h : ∀ s, apply (apply s) = apply s) :
    (send transient apply attempts s).1 = s ∨ (send transient apply attempts s).1 = apply s := by
  rw [send_fst]
  cases (made transient attempts).countP (·.applied) with
  | zero => exact .inl rfl
  | succ n => exact .inr (Function.IsFixedPt.iterate (h s) n)

theorem countP_le_one_iff {l : List (Attempt ρ)} : l.countP (·.applied) ≤ 1 ↔
    l.Pairwise fun a b => ¬ (a.applied = true ∧ b.applied = true) := by
  induction l with
  | nil => simp
  | cons a l ih =>
    rw [List.countP_cons, List.pairwise_cons]
    cases h : a.applied with
    | false => simpa using ih
    | true =>
      have hnone : l.countP (·.applied) + 1 ≤ 1 ↔ ∀ b ∈ l, b.applied = false := by
        simp [List.countP_eq_zero]
      simp only [if_true, true_and, Bool.not_eq_true, hnone]
      refine ⟨fun hl => ⟨hl, ?_⟩, And.left⟩
      apply List.pairwise_iff_forall_sublist.mpr
      intro b c hsub
      simp [hl b (hsub.subset List.mem_cons_self)]

theorem appliedOnce_iff : AppliedOnce transient attempts ↔
    (made transient attempts).countP (·.applied) ≤ 1 := countP_le_one_iff.symm

end Effect

end Resend
