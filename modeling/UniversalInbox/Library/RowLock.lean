import UniversalInbox.Library.Table

/-! Row locks of open transactions: each holds the keys of the rows it has written, until it
ends. -/
namespace RowLock

variable {ρ κ ι : Type*} {key : ρ → κ} (locks : ρ → List ι)

/-- No key is locked by two transactions. -/
def Exclusive (sessions : Table key) : Prop :=
  ∀ x ∈ sessions.rows, ∀ y ∈ sessions.rows, ∀ k ∈ locks x, k ∈ locks y → x = y

variable [DecidableEq κ] [DecidableEq ι]

/-- A statement of the transaction `i` that needs the lock waits. -/
def heldByOther (sessions : Table key) (i : κ) (k : ι) : Bool :=
  sessions.rows.any fun x => decide (key x ≠ i) && (locks x).contains k

variable {locks} {sessions sessions' : Table key} {x y : ρ} {i : κ} {k : ι}

theorem heldByOther_eq_false :
    heldByOther locks sessions i k = false ↔
      ∀ x ∈ sessions.rows, k ∈ locks x → key x = i := by
  simp only [heldByOther, List.any_eq_false, Bool.and_eq_true, decide_eq_true_eq,
    List.contains_iff_mem, not_and]
  exact forall₂_congr fun x _ => by rw [not_imp_comm, not_not]

omit [DecidableEq ι] in
theorem exclusive_insert (h : Exclusive locks sessions)
    (hinsert : sessions.insert? x = some sessions') (hnone : locks x = []) :
    Exclusive locks sessions' := by
  obtain ⟨-, hrows⟩ := Table.insert?_eq_some.mp hinsert
  have hold : ∀ y ∈ sessions'.rows, ∀ k ∈ locks y, y ∈ sessions.rows := by
    intro y hy k hk
    rw [hrows, List.mem_append, List.mem_singleton] at hy
    rcases hy with hy | rfl
    · exact hy
    · rw [hnone] at hk
      exact absurd hk List.not_mem_nil
  intro x hx y hy k hk hk'
  exact h x (hold x hx k hk) y (hold y hy k hk') k hk hk'

omit [DecidableEq ι] in
theorem exclusive_erase (h : Exclusive locks sessions) : Exclusive locks (sessions.erase i) :=
  fun x hx y hy => h x (Table.mem_erase.mp hx).1 y (Table.mem_erase.mp hy).1

omit [DecidableEq ι] in
theorem mem_update_session {f : ρ → ρ} {e : ∀ r, key (f r) = key r} (hx : x ∈ sessions.rows) :
    y ∈ (sessions.update (fun r => decide (key r = key x)) f e).rows ↔
      y = f x ∨ y ∈ sessions.rows ∧ key y ≠ key x := by
  rw [Table.mem_update]
  constructor
  · rintro ⟨z, hz, rfl⟩
    by_cases hkey : key z = key x
    · rw [if_pos (decide_eq_true hkey), Table.eq_of_key hz hx hkey]
      exact .inl rfl
    · rw [if_neg (by simpa using hkey)]
      exact .inr ⟨hz, hkey⟩
  · rintro (rfl | ⟨hy, hkey⟩)
    · exact ⟨x, hx, if_pos (decide_eq_true rfl)⟩
    · exact ⟨y, hy, if_neg (by simpa using hkey)⟩

/-- A transaction may lock what no other one holds. -/
theorem exclusive_update (h : Exclusive locks sessions) {f : ρ → ρ} {e : ∀ r, key (f r) = key r}
    (hx : x ∈ sessions.rows)
    (hnew : ∀ k ∈ locks (f x), k ∈ locks x ∨ heldByOther locks sessions (key x) k = false) :
    Exclusive locks (sessions.update (fun r => decide (key r = key x)) f e) := by
  have hother : ∀ z ∈ sessions.rows, key z ≠ key x → ∀ k ∈ locks (f x), k ∉ locks z := by
    intro z hz hkey k hk hk'
    rcases hnew k hk with hold | hfree
    · exact hkey (congrArg key (h z hz x hx k hk' hold))
    · exact hkey (heldByOther_eq_false.mp hfree z hz hk')
  intro y hy z hz k hk hk'
  rcases (mem_update_session hx).mp hy with rfl | ⟨hy, hykey⟩ <;>
    rcases (mem_update_session hx).mp hz with rfl | ⟨hz, hzkey⟩
  · rfl
  · exact absurd hk' (hother z hz hzkey k hk)
  · exact absurd hk (hother y hy hykey k hk')
  · exact h y hy z hz k hk hk'

end RowLock
