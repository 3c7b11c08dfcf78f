import Mathlib.Data.List.Basic

/-! Calls made one after the other, each of which may do nothing, succeed or fail, and what is
attempted of them: by a chain that ends at the first error, and by one that goes on. -/
namespace FailFast

section Attempted
variable {α : Type*} (due fails : α → Bool)

/-- What a chain attempts that ends at the first failure. -/
def attempted : List α → List α
  | [] => []
  | a :: rest =>
    if due a then a :: if fails a then [] else attempted rest
    else attempted rest

variable {due fails} {l : List α}

/-- Nothing due is left out just in case nothing due comes after a failure. -/
theorem attempted_all_iff (hnodup : l.Nodup) :
    (∀ a ∈ l, due a = true → a ∈ attempted due fails l) ↔
      l.Pairwise fun earlier later =>
        due earlier = true → fails earlier = true → due later = false := by
  induction l with
  | nil => simp
  | cons b rest ih =>
    obtain ⟨hnew, hrest⟩ := List.nodup_cons.mp hnodup
    rw [List.pairwise_cons, ← ih hrest, List.forall_mem_cons, attempted]
    have hne : ∀ a ∈ rest, a ≠ b := fun a ha hab => hnew (hab ▸ ha)
    by_cases hdue : due b = true
    · rw [if_pos hdue]
      by_cases hfails : fails b = true
      · rw [if_pos hfails]
        constructor
        · rintro ⟨-, hall⟩
          have hnone : ∀ a ∈ rest, due a = false := by
            intro a ha
            by_contra hda
            have hmem := hall a ha (eq_true_of_ne_false hda)
            exact hne a ha (List.mem_singleton.mp hmem)
          refine ⟨fun a ha _ _ => hnone a ha, fun a ha hda => ?_⟩
          rw [hnone a ha] at hda
          cases hda
        · rintro ⟨hafter, -⟩
          refine ⟨fun _ => List.mem_cons_self, fun a ha hda => ?_⟩
          rw [hafter a ha hdue hfails] at hda
          cases hda
      · rw [if_neg hfails]
        constructor
        · rintro ⟨-, hall⟩
          refine ⟨fun _ _ _ hf => absurd hf hfails, fun a ha hda => ?_⟩
          exact (List.mem_cons.mp (hall a ha hda)).resolve_left (hne a ha)
        · rintro ⟨-, hall⟩
          exact ⟨fun _ => List.mem_cons_self, fun a ha hda =>
            List.mem_cons_of_mem _ (hall a ha hda)⟩
    · rw [if_neg hdue]
      constructor
      · rintro ⟨-, hall⟩
        exact ⟨fun _ _ hd => absurd hd hdue, hall⟩
      · rintro ⟨-, hall⟩
        exact ⟨fun hd => absurd hd hdue, hall⟩

end Attempted

section Chains
variable {σ ε α β γ : Type}

/-- What is known of a call: a due one is recorded and fails or not, any other does nothing; and
it does not change which of the other ones are due. -/
structure Isolated (call : α → ExceptT ε (StateM σ) β) (log : σ → List γ) (mark : α → γ)
    (due : σ → α → Bool) (fails : α → Bool) : Prop where
  log_call : ∀ a s, log ((call a).run.run s).2 = log s ++ if due s a then [mark a] else []
  error_call : ∀ a s, (∃ e, ((call a).run.run s).1 = .error e) ↔ due s a = true ∧ fails a = true
  due_call : ∀ a b s, b ≠ a → due ((call a).run.run s).2 b = due s b

variable {call : α → ExceptT ε (StateM σ) β} {log : σ → List γ} {mark : α → γ}
  {due : σ → α → Bool} {fails : α → Bool} {l : List α} {s : σ}

theorem run_bind {δ : Type} (x : ExceptT ε (StateM σ) β) (f : β → ExceptT ε (StateM σ) δ) (s : σ) :
    (x >>= f).run.run s =
      match x.run.run s with
      | (.ok b, t) => (f b).run.run t
      | (.error e, t) => (.error e, t) := by
  rw [ExceptT.run_bind, StateT.run_bind]
  rcases x.run.run s with ⟨_ | _, _⟩ <;> rfl

theorem attempted_congr {due' : α → Bool} {due : α → Bool} (h : ∀ a ∈ l, due a = due' a) :
    attempted due fails l = attempted due' fails l := by
  induction l with
  | nil => rfl
  | cons b rest ih =>
    rw [List.forall_mem_cons] at h
    rw [attempted, attempted, h.1, ih h.2]

/-- The state a chain ends in: that of its first call, if this one fails. -/
theorem run_mapM_cons (a : α) :
    (((a :: l).mapM call).run.run s).2 =
      match (call a).run.run s with
      | (.ok _, t) => ((l.mapM call).run.run t).2
      | (.error _, t) => t := by
  rw [List.mapM_cons, run_bind]
  rcases (call a).run.run s with ⟨e | b, t⟩
  · rfl
  · show ((l.mapM call >>= fun bs => pure (b :: bs)).run.run t).2 = ((l.mapM call).run.run t).2
    rw [run_bind]
    rcases (l.mapM call).run.run t with ⟨_ | _, _⟩ <;> rfl

/-- A chain of calls records what `attempted` says of the state it starts in. -/
theorem Isolated.log_mapM (h : Isolated call log mark due fails) (hnodup : l.Nodup) :
    log ((l.mapM call).run.run s).2 =
      log s ++ (attempted (due s) fails l).map mark := by
  induction l generalizing s with
  | nil => exact (List.append_nil _).symm
  | cons a rest ih =>
    obtain ⟨hnew, hrest⟩ := List.nodup_cons.mp hnodup
    rw [run_mapM_cons]
    have hlog := h.log_call a s
    have herror := h.error_call a s
    have hdue : ∀ b ∈ rest, due ((call a).run.run s).2 b = due s b :=
      fun b hb => h.due_call a b s fun hab => hnew (hab ▸ hb)
    rcases hcall : (call a).run.run s with ⟨e | b, t⟩
    · rw [hcall] at hlog herror
      obtain ⟨hdueA, hfails⟩ := herror.mp ⟨e, rfl⟩
      simp only [attempted, hdueA, hfails, if_true] at hlog ⊢
      rw [hlog, List.map_singleton]
    · rw [hcall] at hlog hdue herror
      have hlater : attempted (due t) fails rest = attempted (due s) fails rest :=
        attempted_congr hdue
      show log ((rest.mapM call).run.run t).2 = _
      rw [ih hrest, hlater, hlog, attempted]
      cases hdueA : due s a with
      | false => simp
      | true =>
        have hfails : fails a = false := by
          by_contra hf
          obtain ⟨e, he⟩ := herror.mpr ⟨hdueA, eq_true_of_ne_false hf⟩
          cases he
        simp [hfails]

/-- What no call changes, a chain does not change. -/
theorem keeps_mapM {δ : Type} (view : σ → δ)
    (h : ∀ a s, view ((call a).run.run s).2 = view s) :
    view ((l.mapM call).run.run s).2 = view s := by
  induction l generalizing s with
  | nil => rfl
  | cons a rest ih =>
    rw [run_mapM_cons]
    have hcall := h a s
    rcases hrun : (call a).run.run s with ⟨e | b, t⟩
    · rwa [hrun] at hcall
    · rw [hrun] at hcall
      exact ih.trans hcall

/-- Steps of which none can fail record what each would record alone. -/
theorem log_forM {step : α → StateM σ Unit} (entries : σ → α → List γ) (hnodup : l.Nodup)
    (hlog : ∀ a s, log ((step a).run s).2 = log s ++ entries s a)
    (hframe : ∀ a b s, b ≠ a → entries ((step a).run s).2 b = entries s b) :
    log ((l.forM step).run s).2 = log s ++ l.flatMap (entries s) := by
  induction l generalizing s with
  | nil => exact (List.append_nil _).symm
  | cons a rest ih =>
    obtain ⟨hnew, hrest⟩ := List.nodup_cons.mp hnodup
    have hrun : (((a :: rest).forM step).run s).2 = ((rest.forM step).run ((step a).run s).2).2 := by
      rfl
    have hsame : rest.flatMap (entries ((step a).run s).2) = rest.flatMap (entries s) :=
      List.flatMap_congr fun b hb => hframe a b s fun hab => hnew (hab ▸ hb)
    rw [hrun, ih hrest, hsame, hlog, List.flatMap_cons, List.append_assoc]

end Chains

end FailFast
