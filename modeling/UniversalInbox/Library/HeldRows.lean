import UniversalInbox.Library.Table

/-! The rows of a table under committed-read isolation: a row that an open transaction has inserted,
locked or deleted is held by it until it ends. An insert into a unique column waits for the rows of
other transactions that could still conflict. -/

/-- Where a row stands, with the transaction that holds it. -/
inductive RowStatus (τ : Type*) where
  | committed
  | inserted (t : τ)
  | locked (t : τ)
  | deleted (t : τ)
deriving DecidableEq, Repr

def RowStatus.holder? {τ : Type*} : RowStatus τ → Option τ
  | committed => none
  | inserted t | locked t | deleted t => some t

structure HeldRow (τ α : Type*) where
  id : Nat
  value : α
  status : RowStatus τ
deriving DecidableEq, Repr

namespace HeldRow
variable {τ α : Type*} [DecidableEq τ]

omit [DecidableEq τ] in
/-- The row is there for the other transactions. -/
def isCommitted (r : HeldRow τ α) : Bool :=
  match r.status with
  | .committed | .locked _ | .deleted _ => true
  | .inserted _ => false

/-- A statement of the transaction that writes the row waits. -/
def waits (r : HeldRow τ α) (t : τ) : Bool :=
  match r.status with
  | .locked u | .deleted u => decide (u ≠ t)
  | .committed | .inserted _ => false

/-- A statement of the transaction finds the row, which it has not inserted. -/
def found (r : HeldRow τ α) (t : τ) : Bool :=
  match r.status with
  | .committed => true
  | .locked u => decide (u = t)
  | .inserted _ | .deleted _ => false

omit [DecidableEq τ] in
def hold (t : τ) (delete : Bool) (r : HeldRow τ α) : HeldRow τ α :=
  { r with status := if delete then .deleted t else .locked t }

def settle (t : τ) (r : HeldRow τ α) : HeldRow τ α :=
  if r.status.holder? = some t then { r with status := .committed } else r

@[simp] theorem settle_id (t : τ) (r : HeldRow τ α) : (r.settle t).id = r.id := by
  unfold settle
  split <;> rfl

@[simp] theorem settle_value (t : τ) (r : HeldRow τ α) : (r.settle t).value = r.value := by
  unfold settle
  split <;> rfl

theorem settle_of_ne {t : τ} {r : HeldRow τ α} (h : r.status.holder? ≠ some t) : r.settle t = r :=
  if_neg h

theorem status_settle {t : τ} {r : HeldRow τ α} {status : RowStatus τ}
    (h : (r.settle t).status = status) (hheld : status ≠ .committed) : r.status = status := by
  unfold settle at h
  split at h
  · exact absurd h.symm hheld
  · exact h

end HeldRow

abbrev HeldRows (τ α : Type*) := Table (HeldRow.id : HeldRow τ α → Nat)

namespace HeldRows
variable {τ α β : Type*} [DecidableEq τ]

/-- A `SELECT … FOR UPDATE` or a `DELETE`, once it has to wait for no row. -/
def hold? (rows : HeldRows τ α) (t : τ) (p : HeldRow τ α → Bool) (delete : Bool) :
    Option (HeldRows τ α) :=
  if rows.rows.any fun r => p r && r.waits t then none
  else some (rows.update (fun r => p r && r.found t) (HeldRow.hold t delete) fun _ => rfl)

/-- An insert waits until the transaction of a row with the same value in the unique column ends. -/
def insertWaits [DecidableEq β] (rows : HeldRows τ α) (column : α → β) (t : τ) (a : α) : Bool :=
  rows.rows.any fun r => decide (column r.value = column a) &&
    match r.status with
    | .inserted u | .deleted u => decide (u ≠ t)
    | .committed | .locked _ => false

/-- A row with the same value in the unique column is there. -/
def violates [DecidableEq β] (rows : HeldRows τ α) (column : α → β) (t : τ) (a : α) : Bool :=
  rows.rows.any fun r => decide (column r.value = column a) && decide (r.status ≠ .deleted t)

def commit (rows : HeldRows τ α) (t : τ) : HeldRows τ α :=
  (rows.filter fun r => decide (r.status ≠ .deleted t)).update (fun _ => true) (HeldRow.settle t)
    (HeldRow.settle_id t)

def rollback (rows : HeldRows τ α) (t : τ) : HeldRows τ α :=
  (rows.filter fun r => decide (r.status ≠ .inserted t)).update (fun _ => true) (HeldRow.settle t)
    (HeldRow.settle_id t)

/-- Rows with one value in the column are one row, or one of them replaces the other in an open
transaction. -/
def Unique (rows : HeldRows τ α) (column : α → β) : Prop :=
  ∀ r ∈ rows.rows, ∀ r' ∈ rows.rows, column r.value = column r'.value →
    r = r' ∨ (∃ t, r.status = .deleted t ∧ r'.status = .inserted t) ∨
      ∃ t, r.status = .inserted t ∧ r'.status = .deleted t

/-- What is held by other transactions than `t` stays as it is. -/
def Frame (t : τ) (rows rows' : HeldRows τ α) : Prop :=
  ∀ r ∈ rows.rows, ∀ u ∈ r.status.holder?, u ≠ t → r ∈ rows'.rows

variable {rows rows' : HeldRows τ α} {t u : τ} {p : HeldRow τ α → Bool} {delete : Bool}
  {column : α → β} {r r' : HeldRow τ α} {a : α} {id : Nat}

theorem hold?_eq_some (h : rows.hold? t p delete = some rows') :
    ∀ r', r' ∈ rows'.rows ↔
      ∃ r ∈ rows.rows, (if p r && r.found t then r.hold t delete else r) = r' := by
  unfold hold? at h
  split at h
  · cases h
  · cases h
    exact fun r' => Table.mem_update

/-- What a transaction leaves when it ends. -/
theorem mem_settled {Kept : HeldRow τ α → Prop} [DecidablePred Kept] :
    r' ∈ ((rows.filter fun r => decide (Kept r)).update (fun _ => true) (HeldRow.settle t)
        (HeldRow.settle_id t)).rows ↔
      ∃ r ∈ rows.rows, Kept r ∧ r.settle t = r' := by
  rw [Table.mem_update]
  constructor
  · rintro ⟨r, hr, rfl⟩
    obtain ⟨hr, hkept⟩ := List.mem_filter.mp hr
    exact ⟨r, hr, of_decide_eq_true hkept, (if_pos rfl).symm⟩
  · rintro ⟨r, hr, hkept, rfl⟩
    exact ⟨r, List.mem_filter.mpr ⟨hr, decide_eq_true hkept⟩, if_pos rfl⟩

theorem mem_commit :
    r' ∈ (rows.commit t).rows ↔ ∃ r ∈ rows.rows, r.status ≠ .deleted t ∧ r.settle t = r' :=
  mem_settled

theorem mem_rollback :
    r' ∈ (rows.rollback t).rows ↔ ∃ r ∈ rows.rows, r.status ≠ .inserted t ∧ r.settle t = r' :=
  mem_settled

theorem not_found_of_held (hheld : u ∈ r.status.holder?) (hother : u ≠ t) : r.found t = false := by
  unfold HeldRow.found
  cases hstatus : r.status with
  | committed =>
    rw [hstatus] at hheld
    cases hheld
  | locked v =>
    rw [hstatus] at hheld
    cases hheld
    exact decide_eq_false hother
  | inserted v | deleted v => rfl

theorem frame_hold (h : rows.hold? t p delete = some rows') : Frame t rows rows' := by
  intro r hr u hheld hother
  refine (hold?_eq_some h r).mpr ⟨r, hr, if_neg ?_⟩
  rw [not_found_of_held hheld hother, Bool.and_false]
  exact Bool.false_ne_true

omit [DecidableEq τ] in
theorem frame_insert (h : rows.insert? r = some rows') : Frame t rows rows' := by
  intro r' hr' _ _ _
  rw [(Table.insert?_eq_some.mp h).2]
  exact List.mem_append_left _ hr'

omit [DecidableEq τ] in
theorem holder_ne (hheld : u ∈ r.status.holder?) (hother : u ≠ t) : r.status.holder? ≠ some t :=
  fun h => hother (Option.some.inj (hheld.symm.trans h))

theorem frame_commit : Frame t rows (rows.commit t) := by
  intro r hr u hheld hother
  refine mem_commit.mpr ⟨r, hr, fun hdeleted => ?_, HeldRow.settle_of_ne (holder_ne hheld hother)⟩
  exact holder_ne hheld hother (by rw [hdeleted]; rfl)

theorem frame_rollback : Frame t rows (rows.rollback t) := by
  intro r hr u hheld hother
  refine mem_rollback.mpr ⟨r, hr, fun hinserted => ?_, HeldRow.settle_of_ne (holder_ne hheld hother)⟩
  exact holder_ne hheld hother (by rw [hinserted]; rfl)

omit [DecidableEq τ] in
theorem Unique.of_committed (h : rows.Unique column) (hr : r ∈ rows.rows) (hr' : r' ∈ rows.rows)
    (hcommitted : r.isCommitted = true) (hcommitted' : r'.isCommitted = true)
    (hsame : column r.value = column r'.value) : r = r' := by
  rcases h r hr r' hr' hsame with hsame | ⟨t, -, hinserted⟩ | ⟨t, hinserted, -⟩
  · exact hsame
  · rw [HeldRow.isCommitted, hinserted] at hcommitted'
    cases hcommitted'
  · rw [HeldRow.isCommitted, hinserted] at hcommitted
    cases hcommitted

omit [DecidableEq τ] in
theorem Unique.nodup (h : rows.Unique column) :
    ((rows.rows.filter HeldRow.isCommitted).map fun r => column r.value).Nodup := by
  refine List.Nodup.map_on (fun r hr r' hr' hsame => ?_) ((rows.nodup.of_map _).filter _)
  obtain ⟨hr, hcommitted⟩ := List.mem_filter.mp hr
  obtain ⟨hr', hcommitted'⟩ := List.mem_filter.mp hr'
  exact h.of_committed hr hr' hcommitted hcommitted' hsame

theorem hold_of_not_found {t : τ} {delete : Bool} {p : HeldRow τ α → Bool}
    (h : r.found t = false) : (if p r && r.found t then r.hold t delete else r) = r := by
  rw [h, Bool.and_false]
  rfl

theorem not_found_of_deleted (h : r.status = .deleted u) : r.found t = false := by
  rw [HeldRow.found, h]

theorem not_found_of_inserted (h : r.status = .inserted u) : r.found t = false := by
  rw [HeldRow.found, h]

theorem Unique.hold (h : rows.Unique column) (hhold : rows.hold? t p delete = some rows') :
    rows'.Unique column := by
  have hvalue : ∀ r : HeldRow τ α,
      (if p r && r.found t then r.hold t delete else r).value = r.value := by
    intro r
    split <;> rfl
  intro r₁' hr₁' r₂' hr₂' hsame
  obtain ⟨r₁, hr₁, rfl⟩ := (hold?_eq_some hhold r₁').mp hr₁'
  obtain ⟨r₂, hr₂, rfl⟩ := (hold?_eq_some hhold r₂').mp hr₂'
  rw [hvalue, hvalue] at hsame
  rcases h r₁ hr₁ r₂ hr₂ hsame with rfl | ⟨u, hdeleted, hinserted⟩ | ⟨u, hinserted, hdeleted⟩
  · exact .inl rfl
  · rw [hold_of_not_found (not_found_of_deleted hdeleted),
      hold_of_not_found (not_found_of_inserted hinserted)]
    exact .inr (.inl ⟨u, hdeleted, hinserted⟩)
  · rw [hold_of_not_found (not_found_of_deleted hdeleted),
      hold_of_not_found (not_found_of_inserted hinserted)]
    exact .inr (.inr ⟨u, hinserted, hdeleted⟩)

theorem deleted_of_not_violates [DecidableEq β] (h : rows.violates column t a = false) (hr : r ∈ rows.rows)
    (hsame : column r.value = column a) : r.status = .deleted t := by
  have hrow := List.any_eq_false.mp h r hr
  rw [decide_eq_true hsame, Bool.true_and, decide_eq_true_eq, not_not] at hrow
  exact hrow

theorem Unique.insert [DecidableEq β] (h : rows.Unique column) (hviolates : rows.violates column t a = false)
    (hinsert : rows.insert? ⟨id, a, .inserted t⟩ = some rows') : rows'.Unique column := by
  have hmem : ∀ r ∈ rows'.rows, r ∈ rows.rows ∨ r = ⟨id, a, .inserted t⟩ := by
    intro r hr
    rwa [(Table.insert?_eq_some.mp hinsert).2, List.mem_append, List.mem_singleton] at hr
  intro r₁ hr₁ r₂ hr₂ hsame
  rcases hmem r₁ hr₁ with hr₁ | rfl <;> rcases hmem r₂ hr₂ with hr₂ | rfl
  · exact h r₁ hr₁ r₂ hr₂ hsame
  · exact .inr (.inl ⟨t, deleted_of_not_violates hviolates hr₁ hsame, rfl⟩)
  · exact .inr (.inr ⟨t, rfl, deleted_of_not_violates hviolates hr₂ hsame.symm⟩)
  · exact .inl rfl

theorem settle_of_status {status : RowStatus τ} (hstatus : r.status = status)
    (hheld : status.holder? = some u) (hother : u ≠ t) : (r.settle t).status = status := by
  rw [HeldRow.settle_of_ne, hstatus]
  rw [hstatus, hheld]
  exact fun h => hother (Option.some.inj h)

/-- When a transaction ends, its deleted rows are gone, or those that it has inserted. -/
theorem Unique.settle (h : rows.Unique column) {dropped : RowStatus τ}
    (hdropped : dropped = .deleted t ∨ dropped = .inserted t)
    (hmem : ∀ r' ∈ rows'.rows, ∃ r ∈ rows.rows, r.status ≠ dropped ∧ r.settle t = r') :
    rows'.Unique column := by
  intro r₁' hr₁' r₂' hr₂' hsame
  obtain ⟨r₁, hr₁, hkept₁, rfl⟩ := hmem r₁' hr₁'
  obtain ⟨r₂, hr₂, hkept₂, rfl⟩ := hmem r₂' hr₂'
  rw [HeldRow.settle_value, HeldRow.settle_value] at hsame
  rcases h r₁ hr₁ r₂ hr₂ hsame with rfl | ⟨u, hdeleted, hinserted⟩ | ⟨u, hinserted, hdeleted⟩
  · exact .inl rfl
  · have hother : u ≠ t := by
      rintro rfl
      rcases hdropped with rfl | rfl
      · exact hkept₁ hdeleted
      · exact hkept₂ hinserted
    exact .inr (.inl ⟨u, settle_of_status hdeleted rfl hother, settle_of_status hinserted rfl hother⟩)
  · have hother : u ≠ t := by
      rintro rfl
      rcases hdropped with rfl | rfl
      · exact hkept₂ hdeleted
      · exact hkept₁ hinserted
    exact .inr (.inr ⟨u, settle_of_status hinserted rfl hother, settle_of_status hdeleted rfl hother⟩)

theorem Unique.commit (h : rows.Unique column) (t : τ) : (rows.commit t).Unique column :=
  h.settle (.inl rfl) fun _ => mem_commit.mp

theorem Unique.rollback (h : rows.Unique column) (t : τ) : (rows.rollback t).Unique column :=
  h.settle (.inr rfl) fun _ => mem_rollback.mp

theorem deleted_of_hold (h : rows.hold? t p delete = some rows') (hr : r ∈ rows'.rows)
    (hdeleted : r.status = .deleted u) : r ∈ rows.rows ∨ u = t ∧ delete = true := by
  obtain ⟨r, hold, rfl⟩ := (hold?_eq_some h r).mp hr
  by_cases hp : (p r && r.found t) = true
  · rw [if_pos hp] at hdeleted
    cases delete <;> cases hdeleted
    exact .inr ⟨rfl, rfl⟩
  · rw [if_neg hp]
    exact .inl hold

theorem committed_of_hold (h : rows.hold? t p delete = some rows')
    (hr : ∃ r ∈ rows.rows, r.isCommitted = true) : ∃ r ∈ rows'.rows, r.isCommitted = true := by
  obtain ⟨r, hr, hcommitted⟩ := hr
  refine ⟨_, (hold?_eq_some h _).mpr ⟨r, hr, rfl⟩, ?_⟩
  split
  · cases delete <;> rfl
  · exact hcommitted

/-- A row that is locked stays so or is locked now. -/
theorem locked_of_hold (h : rows.hold? t p false = some rows') (hr : r ∈ rows.rows)
    (hlocked : r.status = .locked t ∨ p r = true ∧ r.found t = true) :
    ∃ r' ∈ rows'.rows, r'.id = r.id ∧ r'.status = .locked t := by
  refine ⟨_, (hold?_eq_some h _).mpr ⟨r, hr, rfl⟩, ?_⟩
  by_cases hp : (p r && r.found t) = true
  · rw [if_pos hp]
    exact ⟨rfl, rfl⟩
  · rw [if_neg hp]
    exact ⟨rfl, hlocked.resolve_right fun h => hp (Bool.and_eq_true_iff.mpr h)⟩

theorem isCommitted_settle (h : r.isCommitted = true) : (r.settle t).isCommitted = true := by
  unfold HeldRow.settle
  split
  · rfl
  · exact h

theorem isCommitted_settle_of_holder (h : r.status.holder? = some t) :
    (r.settle t).isCommitted = true := by
  rw [HeldRow.settle, if_pos h]
  rfl

theorem deleted_of_settle (h : (r.settle t).status = .deleted u) : r.status = .deleted u ∧ u ≠ t := by
  have hstatus := HeldRow.status_settle h (fun h => nomatch h)
  refine ⟨hstatus, ?_⟩
  rintro rfl
  rw [HeldRow.settle, if_pos (by rw [hstatus]; rfl)] at h
  cases h

end HeldRows
