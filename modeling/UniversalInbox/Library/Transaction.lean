import Mathlib.Init

/-! Programs that run inside of one transaction: they read and write a state, may end with an
error that leaves what they have written in place, and may run a statement that is refused, after
which nothing of the transaction can be committed. Their triples speak of a relation that every
write keeps, and of assertions that no such write makes false. -/

/-- `none` once a statement was refused. -/
def Transaction (σ ε α : Type) : Type := σ → Option (σ × Except ε α)

namespace Transaction
variable {σ ε α β : Type}

def pure (a : α) : Transaction σ ε α := fun s => some (s, .ok a)

/-- An error ends the program, and what was written stays. -/
def bind (x : Transaction σ ε α) (f : α → Transaction σ ε β) : Transaction σ ε β := fun s =>
  match x s with
  | some (t, .ok a) => f a t
  | some (t, .error e) => some (t, .error e)
  | none => none

instance : Monad (Transaction σ ε) where
  pure := pure
  bind := bind

/-- A program goes on from what its first part returned, or ends with the error of it. -/
theorem bind_eq_some {x : Transaction σ ε α} {f : α → Transaction σ ε β} {s t : σ} {r : Except ε β}
    (h : (x >>= f) s = some (t, r)) :
    (∃ u a, x s = some (u, .ok a) ∧ f a u = some (t, r)) ∨
      ∃ e, x s = some (t, .error e) ∧ r = .error e := by
  have hbind : Transaction.bind x f s = some (t, r) := h
  unfold Transaction.bind at hbind
  split at hbind
  · next u a hx => exact .inl ⟨u, a, hx, hbind⟩
  · next u e hx =>
    cases hbind
    exact .inr ⟨e, hx, rfl⟩
  · cases hbind

def get : Transaction σ ε σ := fun s => some (s, .ok s)

/-- What a call outside of the transaction comes to. -/
def answer (x : Except ε α) : Transaction σ ε α := fun s => some (s, x)

def fail (e : ε) : Transaction σ ε α := answer (.error e)

/-- A statement that no constraint refuses. -/
def modify (f : σ → σ) : Transaction σ ε Unit := fun s => some (f s, .ok ())

/-- A statement that may be refused. -/
def statement (f : σ → Except ε (σ × α)) : Transaction σ ε α := fun s =>
  match f s with
  | .ok (t, a) => some (t, .ok a)
  | .error _ => none

/-- One call after the other, up to the first error. -/
def each (f : α → Transaction σ ε β) : List α → Transaction σ ε (List β)
  | [] => pure []
  | a :: rest => do
    let b ← f a
    let bs ← each f rest
    return b :: bs

/-- The transaction is committed however the program ends. -/
def committed (x : Transaction σ ε α) (s : σ) : σ × Option α :=
  match x s with
  | some (t, .ok a) => (t, some a)
  | some (t, .error _) => (t, none)
  | none => (s, none)

/-- The transaction is committed if the program returns. -/
def committedIfOk (x : Transaction σ ε α) (s : σ) : σ × Option α :=
  match x s with
  | some (t, .ok a) => (t, some a)
  | _ => (s, none)

/-- An invariant of the states, and a relation that writes may relate them by. -/
structure Frame (σ : Type) where
  Inv : σ → Prop
  Rel : σ → σ → Prop
  refl : ∀ s, Inv s → Rel s s
  trans : ∀ s t u, Rel s t → Rel t u → Rel s u
  keeps : ∀ s t, Rel s t → Inv t

/-- An assertion that no write of the frame makes false. -/
def Frame.Stable (F : Frame σ) (P : σ → Prop) : Prop := ∀ s t, F.Rel s t → P s → P t

theorem Frame.Stable.and {F : Frame σ} {P Q : σ → Prop} (hP : F.Stable P) (hQ : F.Stable Q) :
    F.Stable fun s => P s ∧ Q s :=
  fun s t hrel h => ⟨hP s t hrel h.1, hQ s t hrel h.2⟩

/-- Where `P` holds, the program writes within the frame and what it returns satisfies `Q`. -/
def Triple (F : Frame σ) (P : σ → Prop) (x : Transaction σ ε α) (Q : α → σ → Prop) : Prop :=
  ∀ s, F.Inv s → P s → ∀ t r, x s = some (t, r) → F.Rel s t ∧ ∀ a, r = .ok a → Q a t

namespace Triple
variable {F : Frame σ} {P P' : σ → Prop} {Q Q' : α → σ → Prop} {T : β → σ → Prop}
  {x : Transaction σ ε α} {f : α → Transaction σ ε β}

theorem weaken (h : Triple F P x Q) (hpre : ∀ s, F.Inv s → P' s → P s)
    (hpost : ∀ a s, F.Inv s → Q a s → Q' a s) : Triple F P' x Q' := by
  intro s hs hP t r hrun
  obtain ⟨hrel, hQ⟩ := h s hs (hpre s hs hP) t r hrun
  exact ⟨hrel, fun a ha => hpost a t (F.keeps s t hrel) (hQ a ha)⟩

theorem pure {a : α} (h : ∀ s, F.Inv s → P s → Q a s) :
    Triple F P (Pure.pure a : Transaction σ ε α) Q := by
  intro s hs hP t r hrun
  cases hrun
  refine ⟨F.refl s hs, ?_⟩
  intro b hb
  cases hb
  exact h s hs hP

/-- What follows starts from what the first program returned. -/
theorem seq (hx : Triple F P x Q) (hf : ∀ a, Triple F (Q a) (f a) T) :
    Triple F P (x >>= f) T := by
  intro s hs hP t r hrun
  have hbind : Transaction.bind x f s = some (t, r) := hrun
  unfold Transaction.bind at hbind
  split at hbind
  · next u a hstep =>
    obtain ⟨hrel, hQ⟩ := hx s hs hP u (.ok a) hstep
    obtain ⟨hrel', hT⟩ := hf a u (F.keeps s u hrel) (hQ a rfl) t r hbind
    exact ⟨F.trans s u t hrel hrel', hT⟩
  · next u e hstep =>
    cases hbind
    exact ⟨(hx s hs hP _ _ hstep).1, fun a ha => nomatch ha⟩
  · cases hbind

/-- A stable assertion outlives any program. -/
theorem keep (hP : F.Stable P) (hx : Triple F P x Q) : Triple F P x fun a s => P s ∧ Q a s := by
  intro s hs hPs t r hrun
  obtain ⟨hrel, hQ⟩ := hx s hs hPs t r hrun
  exact ⟨hrel, fun a ha => ⟨hP s t hrel hPs, hQ a ha⟩⟩

theorem bind (hP : F.Stable P) (hx : Triple F P x Q)
    (hf : ∀ a, Triple F (fun s => P s ∧ Q a s) (f a) T) : Triple F P (x >>= f) T :=
  (hx.keep hP).seq hf

/-- What the assertion says of no state may be assumed. -/
theorem assume {p : Prop} (hp : ∀ s, F.Inv s → P s → p) (h : p → Triple F P x Q) :
    Triple F P x Q :=
  fun s hs hP => h (hp s hs hP) s hs hP

theorem answer {r : Except ε α} (h : ∀ a, r = .ok a → ∀ s, F.Inv s → P s → Q a s) :
    Triple F P (Transaction.answer r) Q := by
  intro s hs hP t r' hrun
  cases hrun
  exact ⟨F.refl s hs, fun a ha => h a ha s hs hP⟩

theorem fail {e : ε} : Triple F P (Transaction.fail e : Transaction σ ε α) Q :=
  answer fun _ ha => nomatch ha

theorem get : Triple F P (Transaction.get : Transaction σ ε σ) fun a s => a = s ∧ P s := by
  intro s hs hP t r hrun
  cases hrun
  refine ⟨F.refl s hs, ?_⟩
  intro a ha
  cases ha
  exact ⟨rfl, hP⟩

theorem modify {g : σ → σ} {Q : Unit → σ → Prop} (h : ∀ s, F.Inv s → P s → F.Rel s (g s))
    (hpost : ∀ s, F.Inv s → P s → Q () (g s)) :
    Triple F P (Transaction.modify g : Transaction σ ε Unit) Q := by
  intro s hs hP t r hrun
  cases hrun
  exact ⟨h s hs hP, fun a _ => hpost s hs hP⟩

theorem statement {g : σ → Except ε (σ × α)}
    (h : ∀ s t a, F.Inv s → P s → g s = .ok (t, a) → F.Rel s t ∧ Q a t) :
    Triple F P (Transaction.statement g) Q := by
  intro s hs hP t r hrun
  unfold Transaction.statement at hrun
  split at hrun
  · next u a hok =>
    cases hrun
    obtain ⟨hrel, hQ⟩ := h s t a hs hP hok
    refine ⟨hrel, ?_⟩
    intro b hb
    cases hb
    exact hQ
  · cases hrun

/-- Every result of a loop keeps what was proved of it when it was returned. -/
theorem each {f : α → Transaction σ ε β} {l : List α} (hP : F.Stable P)
    (hT : ∀ b, F.Stable (T b)) (h : ∀ a ∈ l, Triple F P (f a) T) :
    Triple F P (Transaction.each f l) fun bs s => ∀ b ∈ bs, T b s := by
  induction l with
  | nil => exact pure fun _ _ _ _ hb => (List.not_mem_nil hb).elim
  | cons a rest ih =>
    refine bind hP (h a List.mem_cons_self) fun b => ?_
    refine bind (hP.and (hT b))
      ((ih fun a ha => h a (List.mem_cons_of_mem _ ha)).weaken (fun _ _ hs => hs.1)
        fun _ _ _ hs => hs) fun bs => ?_
    refine pure fun s _ hs => ?_
    intro c hc
    rcases List.mem_cons.mp hc with rfl | hc
    · exact hs.1.2
    · exact hs.2 c hc

theorem committed (h : Triple F P x Q) {s : σ} (hs : F.Inv s) (hP : P s) :
    F.Rel s (x.committed s).1 ∧ ∀ a ∈ (x.committed s).2, Q a (x.committed s).1 := by
  unfold Transaction.committed
  split
  · next t a hrun =>
    obtain ⟨hrel, hQ⟩ := h s hs hP t _ hrun
    refine ⟨hrel, ?_⟩
    rintro b ⟨⟩
    exact hQ a rfl
  · next t e hrun => exact ⟨(h s hs hP t _ hrun).1, fun _ ha => nomatch ha⟩
  · exact ⟨F.refl s hs, fun _ ha => nomatch ha⟩

theorem committedIfOk (h : Triple F P x Q) {s : σ} (hs : F.Inv s) (hP : P s) :
    F.Rel s (x.committedIfOk s).1 ∧ ∀ a ∈ (x.committedIfOk s).2, Q a (x.committedIfOk s).1 := by
  unfold Transaction.committedIfOk
  split
  · next t a hrun =>
    obtain ⟨hrel, hQ⟩ := h s hs hP t _ hrun
    refine ⟨hrel, ?_⟩
    rintro b ⟨⟩
    exact hQ a rfl
  · exact ⟨F.refl s hs, fun _ ha => nomatch ha⟩

end Triple

end Transaction
