import UniversalInbox.Library.Table

/-! One row under committed-read isolation: its committed version, and the version of the
transaction that has locked it, which the others see at its commit; and what holds of the versions
and of the open transactions while each of these keeps its rules. -/

structure LockedRow (τ α : Type*) where
  committed : α
  pending : Option (τ × α)

namespace LockedRow
variable {τ α : Type*} [DecidableEq τ]

/-- What the statements of a transaction see. -/
def view (row : LockedRow τ α) (t : τ) : α :=
  match row.pending with
  | some (u, a) => if u = t then a else row.committed
  | none => row.committed

/-- An `UPDATE` or a `SELECT … FOR UPDATE` of the transaction waits. -/
def lockedFor (row : LockedRow τ α) (t : τ) : Bool := row.pending.any fun p => decide (p.1 ≠ t)

/-- Writes the latest version of the row, once it is not locked by another transaction. -/
def write? (row : LockedRow τ α) (t : τ) (f : α → α) : Option (LockedRow τ α) :=
  if row.lockedFor t then none else some { row with pending := some (t, f (row.view t)) }

def commit (row : LockedRow τ α) (t : τ) : LockedRow τ α :=
  ⟨row.view t, row.pending.filter fun p => decide (p.1 ≠ t)⟩

def rollback (row : LockedRow τ α) (t : τ) : LockedRow τ α :=
  { row with pending := row.pending.filter fun p => decide (p.1 ≠ t) }

/-- A property of every version of the row. -/
structure Holds (P : α → Prop) (row : LockedRow τ α) : Prop where
  committed : P row.committed
  pending : ∀ p ∈ row.pending, P p.2

variable {row row' : LockedRow τ α} {t u : τ} {f : α → α} {a : α} {P : α → Prop}

theorem view_of_pending (h : row.pending = some (t, a)) : row.view t = a := by
  rw [view, h]
  exact if_pos rfl

theorem view_of_not_pending (h : ∀ a, row.pending ≠ some (t, a)) : row.view t = row.committed := by
  unfold view
  split
  · rename_i u a hp
    exact if_neg fun hu => h a (by rw [hp, hu])
  · rfl

theorem write?_eq_some :
    row.write? t f = some row' ↔
      row.lockedFor t = false ∧ row' = { row with pending := some (t, f (row.view t)) } := by
  unfold write?
  cases row.lockedFor t <;> simp [eq_comm]

theorem mem_filter_pending {p : τ × α} :
    p ∈ row.pending.filter (fun p => decide (p.1 ≠ t)) ↔ p ∈ row.pending ∧ p.1 ≠ t := by
  rw [Option.mem_filter_iff, decide_eq_true_eq]

theorem mem_commit {p : τ × α} : p ∈ (row.commit t).pending ↔ p ∈ row.pending ∧ p.1 ≠ t :=
  mem_filter_pending

theorem mem_rollback {p : τ × α} : p ∈ (row.rollback t).pending ↔ p ∈ row.pending ∧ p.1 ≠ t :=
  mem_filter_pending

theorem Holds.view (h : row.Holds P) (t : τ) : P (row.view t) := by
  by_cases hp : ∃ a, row.pending = some (t, a)
  · obtain ⟨a, ha⟩ := hp
    rw [view_of_pending ha]
    exact h.pending (t, a) ha
  · rw [view_of_not_pending (not_exists.mp hp)]
    exact h.committed

theorem Holds.write (h : row.Holds P) (hf : P (row.view t) → P (f (row.view t)))
    (hwrite : row.write? t f = some row') : row'.Holds P := by
  obtain ⟨-, rfl⟩ := write?_eq_some.mp hwrite
  refine ⟨h.committed, fun p hp => ?_⟩
  cases hp
  exact hf (h.view t)

theorem Holds.commit (h : row.Holds P) (t : τ) : (row.commit t).Holds P :=
  ⟨h.view t, fun p hp => h.pending p (mem_commit.mp hp).1⟩

theorem Holds.rollback (h : row.Holds P) (t : τ) : (row.rollback t).Holds P :=
  ⟨h.committed, fun p hp => h.pending p (mem_rollback.mp hp).1⟩

omit [DecidableEq τ] in
theorem Holds.mono {Q : α → Prop} (h : row.Holds P) (hpq : ∀ a, P a → Q a) : row.Holds Q :=
  ⟨hpq _ h.committed, fun p hp => hpq _ (h.pending p hp)⟩

/-- What is to hold of the versions of a row and of its open transactions `ρ`: of every version, of
the committed one, of a transaction with the committed version and the one it has written, and of a
transaction by itself; and which transactions have written. -/
structure Rules (α ρ : Type*) where
  version : α → Prop
  committed : α → Prop
  written : ρ → α → α → Prop
  session : ρ → Prop
  writes : ρ → Prop := fun _ => False

variable {ρ : Type*} {key : ρ → τ} {sessions sessions' : Table key} {rules rules' : Rules α ρ}
  {x y : ρ}

omit [DecidableEq τ] in
/-- What holds of a transaction by the first rules holds by the others. -/
structure Rules.LeOn (rules rules' : Rules α ρ) (x : ρ) : Prop where
  written : ∀ base a, rules.written x base a → rules'.written x base a
  session : rules.session x → rules'.session x
  writes : rules'.writes x → rules.writes x

omit [DecidableEq τ] in
theorem Rules.LeOn.refl (rules : Rules α ρ) (x : ρ) : rules.LeOn rules x :=
  ⟨fun _ _ h => h, fun h => h, fun h => h⟩

omit [DecidableEq τ] in
structure Rules.Le (rules rules' : Rules α ρ) : Prop where
  version : ∀ a, rules.version a → rules'.version a
  committed : ∀ a, rules.committed a → rules'.committed a
  on : ∀ x, rules.LeOn rules' x

/-- The row is locked by an open transaction, and all of them keep the rules. -/
structure Obeys (rules : Rules α ρ) (row : LockedRow τ α) (sessions : Table key) : Prop where
  versions : row.Holds rules.version
  committed : rules.committed row.committed
  pending : ∀ p ∈ row.pending,
    ∃ x ∈ sessions.rows, key x = p.1 ∧ rules.written x row.committed p.2
  session : ∀ x ∈ sessions.rows, rules.session x
  writers : ∀ x ∈ sessions.rows, rules.writes x → ∃ a, row.pending = some (key x, a)

omit [DecidableEq τ] in
theorem obeys_initial (hversion : rules.version a) (hcommitted : rules.committed a) :
    Obeys rules (⟨a, none⟩ : LockedRow τ α) (Table.empty : Table key) :=
  ⟨⟨hversion, fun _ hp => (nomatch hp)⟩, hcommitted, fun _ hp => (nomatch hp),
    fun _ hx => absurd hx Table.not_mem_empty, fun _ hx => absurd hx Table.not_mem_empty⟩

omit [DecidableEq τ] in
theorem Obeys.mono (h : Obeys rules row sessions) (hle : rules.Le rules') :
    Obeys rules' row sessions where
  versions := h.versions.mono hle.version
  committed := hle.committed _ h.committed
  pending p hp :=
    have ⟨x, hx, hid, hwritten⟩ := h.pending p hp
    ⟨x, hx, hid, (hle.on x).written _ _ hwritten⟩
  session x hx := (hle.on x).session (h.session x hx)
  writers x hx hwrites := h.writers x hx ((hle.on x).writes hwrites)

theorem Obeys.insert (h : Obeys rules row sessions) (hinsert : sessions.insert? x = some sessions')
    (hsession : rules.session x) (hwrites : ¬rules.writes x) : Obeys rules row sessions' := by
  obtain ⟨-, hrows⟩ := Table.insert?_eq_some.mp hinsert
  have hmem : ∀ y ∈ sessions'.rows, y ∈ sessions.rows ∨ y = x := by
    intro y hy
    rwa [hrows, List.mem_append, List.mem_singleton] at hy
  refine ⟨h.versions, h.committed, fun p hp => ?_, fun y hy => ?_, fun y hy hy' => ?_⟩
  · obtain ⟨y, hy, hid, hwritten⟩ := h.pending p hp
    exact ⟨y, hrows ▸ List.mem_append_left _ hy, hid, hwritten⟩
  · rcases hmem y hy with hy | rfl
    · exact h.session y hy
    · exact hsession
  · rcases hmem y hy with hy | rfl
    · exact h.writers y hy hy'
    · exact absurd hy' hwrites

/-- A transaction goes on without a write. -/
theorem Obeys.put (h : Obeys rules row sessions) (hx : x ∈ sessions.rows) (hkey : key y = key x)
    (hsession : rules.session y)
    (hwritten : ∀ a, rules.version a → rules.written x row.committed a →
      rules.written y row.committed a) (hwrites : rules.writes y → rules.writes x) :
    Obeys rules row (sessions.put y) := by
  refine ⟨h.versions, h.committed, fun p hp => ?_, fun z hz => ?_, fun z hz hz' => ?_⟩
  · obtain ⟨z, hz, hid, hinv⟩ := h.pending p hp
    by_cases hsame : key z = key x
    · rw [Table.eq_of_key hz hx hsame] at hid hinv
      exact ⟨y, Table.mem_put.mpr (.inl rfl), hkey.trans hid,
        hwritten p.2 (h.versions.pending p hp) hinv⟩
    · exact ⟨z, Table.mem_put.mpr (.inr ⟨hz, fun hz' => hsame (hz'.trans hkey)⟩), hid, hinv⟩
  · rcases Table.mem_put.mp hz with rfl | ⟨hz, -⟩
    · exact hsession
    · exact h.session z hz
  · rcases Table.mem_put.mp hz with rfl | ⟨hz, -⟩
    · rw [hkey]
      exact h.writers x hx (hwrites hz')
    · exact h.writers z hz hz'

theorem lockedFor_eq_false (h : row.lockedFor t = false) (hp : row.pending = some (u, a)) :
    u = t := by
  rw [lockedFor, hp, Option.any_some, decide_eq_false_iff_not, not_not] at h
  exact h

theorem Obeys.write (h : Obeys rules row sessions) (hwrite : row.write? (key x) f = some row')
    (hkey : key y = key x) (hversion : rules.version (f (row.view (key x))))
    (hwritten : rules.written y row.committed (f (row.view (key x)))) (hsession : rules.session y) :
    Obeys rules row' (sessions.put y) := by
  obtain ⟨hfree, rfl⟩ := write?_eq_some.mp hwrite
  refine ⟨⟨h.versions.committed, ?_⟩, h.committed, ?_, fun z hz => ?_, fun z hz hz' => ?_⟩
  · rintro p ⟨⟩
    exact hversion
  · rintro p ⟨⟩
    exact ⟨y, Table.mem_put.mpr (.inl rfl), hkey, hwritten⟩
  · rcases Table.mem_put.mp hz with rfl | ⟨hz, -⟩
    · exact hsession
    · exact h.session z hz
  · rcases Table.mem_put.mp hz with rfl | ⟨hz, hother⟩
    · exact ⟨_, by rw [hkey]⟩
    · obtain ⟨a, ha⟩ := h.writers z hz hz'
      exact absurd ((lockedFor_eq_false hfree ha).trans hkey.symm) hother

theorem pending_filter (hp : row.pending = some (u, a)) (hne : u ≠ t) :
    row.pending.filter (fun p => decide (p.1 ≠ t)) = some (u, a) := by
  rw [hp, Option.filter_some, if_pos (decide_eq_true hne)]

theorem Obeys.rollback (h : Obeys rules row sessions) (t : τ) :
    Obeys rules (row.rollback t) (sessions.erase t) where
  versions := h.versions.rollback t
  committed := h.committed
  pending p hp := by
    obtain ⟨hp, hid⟩ := mem_rollback.mp hp
    obtain ⟨x, hx, hkey, hwritten⟩ := h.pending p hp
    exact ⟨x, Table.mem_erase.mpr ⟨hx, hkey ▸ hid⟩, hkey, hwritten⟩
  session x hx := h.session x (Table.mem_erase.mp hx).1
  writers x hx hwrites :=
    have ⟨hx, hne⟩ := Table.mem_erase.mp hx
    have ⟨a, ha⟩ := h.writers x hx hwrites
    ⟨a, pending_filter ha hne⟩

/-- What a transaction sees is what it has written, or what is committed. -/
theorem Obeys.view (h : Obeys rules row sessions) (hx : x ∈ sessions.rows) :
    row.view (key x) = row.committed ∨ rules.written x row.committed (row.view (key x)) := by
  by_cases hp : ∃ a, row.pending = some (key x, a)
  · obtain ⟨a, ha⟩ := hp
    obtain ⟨y, hy, hid, hwritten⟩ := h.pending _ ha
    rw [Table.eq_of_key hy hx hid] at hwritten
    rw [view_of_pending ha]
    exact .inr hwritten
  · exact .inl (view_of_not_pending (not_exists.mp hp))

theorem Obeys.view_of_unwritten (h : Obeys rules row sessions) (hx : x ∈ sessions.rows)
    (hnone : ∀ base a, ¬rules.written x base a) : row.view (key x) = row.committed :=
  (h.view hx).resolve_right (hnone _ _)

theorem Obeys.written_of_writes (h : Obeys rules row sessions) (hx : x ∈ sessions.rows)
    (hwrites : rules.writes x) : rules.written x row.committed (row.view (key x)) := by
  obtain ⟨a, ha⟩ := h.writers x hx hwrites
  obtain ⟨y, hy, hid, hwritten⟩ := h.pending _ ha
  rw [Table.eq_of_key hy hx hid] at hwritten
  rw [view_of_pending ha]
  exact hwritten

/-- The commit of a transaction can change the rules, as long as it changes them for no other. -/
theorem Obeys.commit_of_le (h : Obeys rules row sessions)
    (hversion : ∀ a, rules.version a → rules'.version a) (hcommitted : rules'.committed (row.view t))
    (hothers : ∀ y ∈ sessions.rows, key y ≠ t → rules.LeOn rules' y) :
    Obeys rules' (row.commit t) (sessions.erase t) := by
  refine ⟨(h.versions.mono hversion).commit t, hcommitted, fun p hp => ?_, fun y hy => ?_,
    fun y hy hwrites => ?_⟩
  · obtain ⟨hp, hid⟩ := mem_commit.mp hp
    obtain ⟨y, hy, hkey, hwritten⟩ := h.pending p hp
    have hsame : row.view t = row.committed := view_of_not_pending fun a ha =>
      hid (congrArg Prod.fst (Option.some.inj ((Option.mem_def.mp hp).symm.trans ha)))
    have hother : key y ≠ t := hkey ▸ hid
    refine ⟨y, Table.mem_erase.mpr ⟨hy, hother⟩, hkey, ?_⟩
    show rules'.written y (row.view t) p.2
    rw [hsame]
    exact (hothers y hy hother).written _ _ hwritten
  · obtain ⟨hy, hother⟩ := Table.mem_erase.mp hy
    exact (hothers y hy hother).session (h.session y hy)
  · obtain ⟨hy, hother⟩ := Table.mem_erase.mp hy
    obtain ⟨a, ha⟩ := h.writers y hy ((hothers y hy hother).writes hwrites)
    exact ⟨a, pending_filter ha hother⟩

theorem Obeys.commit (h : Obeys rules row sessions) (hx : x ∈ sessions.rows)
    (hcommitted : ∀ a, rules.version a → rules.written x row.committed a → rules.committed a) :
    Obeys rules (row.commit (key x)) (sessions.erase (key x)) := by
  refine h.commit_of_le (fun _ h => h) ?_ fun y _ _ => .refl rules y
  rcases h.view hx with hsame | hwritten
  · rw [hsame]
    exact h.committed
  · exact hcommitted _ (h.versions.view _) hwritten

/-- Transactions whose statements so far make one change of the row: `holds` where the row is locked
for it, and `reads` is what they have read of the row since then. -/
structure Program (α ρ : Type*) where
  effect : ρ → α → α
  holds : ρ → Prop
  reads : ρ → α → Prop
  effect_of_not_holds : ∀ x, ¬holds x → ∀ a, effect x a = a
  reads_of_not_holds : ∀ x, ¬holds x → ∀ a, reads x a

namespace Program
variable {program : Program α ρ}

def toRules (program : Program α ρ) : Rules α ρ where
  version _ := True
  committed _ := True
  written x base a := a = program.effect x base ∧ program.reads x base
  session _ := True
  writes := program.holds

/-- What a transaction sees is its change of the version that is committed now. -/
theorem view (h : Obeys program.toRules row sessions) (hx : x ∈ sessions.rows) :
    row.view (key x) = program.effect x row.committed ∧ program.reads x row.committed := by
  by_cases hholds : program.holds x
  · exact h.written_of_writes hx hholds
  · rcases h.view hx with hsame | hwritten
    · rw [hsame, program.effect_of_not_holds x hholds]
      exact ⟨rfl, program.reads_of_not_holds x hholds _⟩
    · exact hwritten

theorem write (h : Obeys program.toRules row sessions) (hx : x ∈ sessions.rows)
    (hwrite : row.write? (key x) f = some row') (hkey : key y = key x)
    (heffect : ∀ a, program.effect y a = f (program.effect x a))
    (hreads : program.reads x row.committed → program.reads y row.committed) :
    Obeys program.toRules row' (sessions.put y) := by
  obtain ⟨hview, hread⟩ := view h hx
  refine h.write hwrite hkey trivial ⟨?_, hreads hread⟩ trivial
  rw [hview, heffect]

/-- A statement that leaves the row alone. -/
theorem put (h : Obeys program.toRules row sessions) (hx : x ∈ sessions.rows) (hkey : key y = key x)
    (heffect : ∀ a, program.effect y a = program.effect x a)
    (hreads : ∀ a, program.reads x a → program.reads y a)
    (hholds : program.holds y → program.holds x) :
    Obeys program.toRules row (sessions.put y) := by
  refine h.put hx hkey trivial ?_ hholds
  rintro a - ⟨rfl, hread⟩
  exact ⟨(heffect _).symm, hreads _ hread⟩

theorem insert (h : Obeys program.toRules row sessions) (hinsert : sessions.insert? x = some sessions')
    (hholds : ¬program.holds x) : Obeys program.toRules row sessions' :=
  h.insert hinsert trivial hholds

theorem commit (h : Obeys program.toRules row sessions) (t : τ) :
    Obeys program.toRules (row.commit t) (sessions.erase t) :=
  h.commit_of_le (fun _ h => h) trivial fun y _ _ => .refl program.toRules y

theorem committed_commit (h : Obeys program.toRules row sessions) (hx : x ∈ sessions.rows) :
    (row.commit (key x)).committed = program.effect x row.committed := (view h hx).1

end Program

end LockedRow
