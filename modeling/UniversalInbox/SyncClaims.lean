import UniversalInbox.IntegrationConnection
import UniversalInbox.JobQueue
import UniversalInbox.Library.Lease
import Mathlib.Data.List.Pairwise
import Mathlib.Data.List.Perm.Subperm

/-! Claiming a sync: `claim_sync_start`, one conditional `UPDATE` of a `started_at` column, and
`claim_due_syncs`, one for the due connections of a user on a `scheduled_at` column. Each
statement is atomic on the rows it touches, which stay locked until its transaction commits;
instants are what the columns hold. The claims of a scheduling pass are followed by a job each,
pushed to the queue until Redis acknowledges it. -/
namespace UniversalInbox.SyncClaims
open JobQueue

/-- The four claim columns of a connection. -/
inductive ClaimColumn where
  | startedAt (type : IntegrationConnectionSyncType)
  | scheduledAt (type : IntegrationConnectionSyncType)
deriving DecidableEq, Repr

def ClaimColumn.type : ClaimColumn → IntegrationConnectionSyncType
  | .startedAt type | .scheduledAt type => type

def ClaimColumn.read (row : IntegrationConnectionRow) : ClaimColumn → Option DateTime
  | .startedAt type => (row.sync type).startedAt
  | .scheduledAt type => (row.sync type).scheduledAt

def ClaimColumn.write (row : IntegrationConnectionRow) (now : DateTime) :
    ClaimColumn → IntegrationConnectionRow
  | .startedAt type => row.setSync { row.sync type with startedAt := some now } type
  | .scheduledAt type => row.setSync { row.sync type with scheduledAt := some now } type

/-- `column IS NULL OR column <= synced_before`. -/
def isDue (column : Option DateTime) (syncedBefore : DateTime) : Bool :=
  column.all (· ≤ syncedBefore)

/-- The `WHERE` clause of `claim_sync_start`; without `synced_before` it asks for nothing but
the identifier. -/
def startClaims (type : IntegrationConnectionSyncType) (id : IntegrationConnectionId)
    (syncedBefore : Option DateTime) (row : IntegrationConnectionRow) : Bool :=
  row.id == id && syncedBefore.all fun t => isDue (row.sync type).startedAt t

/-- The `WHERE` clause of `claim_due_syncs`; `skipped` are the rows another transaction has
locked. -/
def dueClaims (type : IntegrationConnectionSyncType) (forUserId : UserId)
    (providerKinds : List IntegrationProviderKind) (syncedBefore : DateTime)
    (skipped : IntegrationConnectionId → Bool) (row : IntegrationConnectionRow) : Bool :=
  row.userId == forUserId && row.status == .validated && providerKinds.contains row.providerKind &&
    isDue (row.sync type).scheduledAt syncedBefore && !skipped row.id

theorem ClaimColumn.write_id (column : ClaimColumn) (now : DateTime) (row : IntegrationConnectionRow) :
    (column.write row now).id = row.id := by
  cases column <;> exact IntegrationConnectionRow.setSync_id

/-- Shared by `claim_notification_sync_start` and `claim_task_sync_start`: the new table, and
whether the claim was won. -/
def claimSyncStart (table : IntegrationConnectionTable) (type : IntegrationConnectionSyncType)
    (id : IntegrationConnectionId) (now : DateTime) (syncedBefore : Option DateTime) :
    IntegrationConnectionTable × Bool :=
  (table.update (startClaims type id syncedBefore) (ClaimColumn.write · now (.startedAt type))
      (ClaimColumn.write_id _ now),
    table.rows.any (startClaims type id syncedBefore))

def claimNotificationSyncStart (table : IntegrationConnectionTable) :=
  claimSyncStart table .notifications

def claimTaskSyncStart (table : IntegrationConnectionTable) := claimSyncStart table .tasks

/-- Shared by `claim_due_notification_syncs` and `claim_due_task_syncs`: the new table, and the
claimed connections. -/
def claimDueSyncs (table : IntegrationConnectionTable) (type : IntegrationConnectionSyncType)
    (forUserId : UserId) (providerKinds : List IntegrationProviderKind)
    (now syncedBefore : DateTime) (skipped : IntegrationConnectionId → Bool) :
    IntegrationConnectionTable × List (IntegrationConnectionId × IntegrationProviderKind) :=
  if providerKinds.isEmpty then (table, [])
  else
    let claims := dueClaims type forUserId providerKinds syncedBefore skipped
    (table.update claims (ClaimColumn.write · now (.scheduledAt type)) (ClaimColumn.write_id _ now),
      (table.rows.filter claims).map fun row => (row.id, row.providerKind))

/-- `NotificationSyncSourceKind::value_variants` and `TaskSyncSourceKind::value_variants`, as
provider kinds. -/
def syncSourceKinds : IntegrationConnectionSyncType → List IntegrationProviderKind
  | .notifications => [.github, .linear, .googleMail, .googleDrive, .slack, .todoist, .tickTick]
  | .tasks => [.todoist, .tickTick, .linear]

/-- `TimeDelta::try_minutes`. -/
def minutes (n : Int) : Int := n * 60 * 1000000000

/-- The clock of a caller: `synced_before` is computed from a first reading, the stamp from a
second one. -/
structure Clock where
  readAt : DateTime
  now : DateTime
  ordered : readAt ≤ now

/-- A claim of `claim_due_syncs`, and what its `SyncNotifications` or `SyncTasks` job is for. -/
structure DueSync where
  type : IntegrationConnectionSyncType
  connectionId : IntegrationConnectionId
  source : IntegrationProviderKind
  userId : UserId
  claimedAt : DateTime
deriving DecidableEq, Repr

abbrev PassId := Nat

/-- A run of `schedule_due_syncs`: the claims whose jobs it has not pushed yet, and how often it
has tried the first of them. -/
structure Pass where
  id : PassId
  pending : List DueSync
  attempts : Nat
deriving DecidableEq, Repr

/-- A job in the queue, with the claim it was pushed for. -/
structure QueuedSync where
  claim : DueSync
  enqueuedAt : DateTime
deriving DecidableEq, Repr

/-- `claimed` are the claims of the passes so far. -/
structure State where
  table : IntegrationConnectionTable
  claimed : List DueSync
  passes : Table Pass.id
  queue : List QueuedSync

def initial (table : IntegrationConnectionTable) : State := ⟨table, [], Table.empty, []⟩

/-- One statement of an interleaving. `push` is one attempt of a pass to push the next of its
jobs; `other` is any statement that leaves the claim columns of every row alone. -/
inductive Statement where
  | claimSyncStart (type : IntegrationConnectionSyncType) (id : IntegrationConnectionId)
      (clock : Clock)
  | claimDueSyncs (pass : PassId) (type : IntegrationConnectionSyncType) (forUserId : UserId)
      (now : DateTime) (skipped : IntegrationConnectionId → Bool)
  | push (pass : PassId) (attempt : PushAttempt) (now : DateTime)
  | other (write : IntegrationConnectionRow → IntegrationConnectionRow)
      (keepsId : ∀ row, (write row).id = row.id)
      (keepsColumns : ∀ row (column : ClaimColumn), column.read (write row) = column.read row)

/-- The minimum sync intervals of the configuration, in minutes. -/
structure MinSyncIntervals where
  notifications : Int
  tasks : Int

def MinSyncIntervals.of (intervals : MinSyncIntervals) : IntegrationConnectionSyncType → Int
  | .notifications => intervals.notifications
  | .tasks => intervals.tasks

/-- `synced_before` of a sync that is not forced. -/
def startSyncedBefore (interval : Int) (readAt : DateTime) : Option DateTime :=
  if interval ≠ 0 then some (readAt - minutes interval) else none

def State.pass (s : State) (id : PassId) : Pass := (s.passes.find? id).getD ⟨id, [], 0⟩

/-- The claims that one `claim_due_syncs` of a pass wins. -/
def dueSyncs (intervals : MinSyncIntervals) (table : IntegrationConnectionTable)
    (type : IntegrationConnectionSyncType) (forUserId : UserId) (now : DateTime)
    (skipped : IntegrationConnectionId → Bool) : List DueSync :=
  (claimDueSyncs table type forUserId (syncSourceKinds type) now
      (now - minutes (intervals.of type)) skipped).2.map fun (connectionId, source) =>
    { type, connectionId, source, userId := forUserId, claimedAt := now }

/-- An acknowledged job is followed by the next one of the pass; the last retry that fails ends the
pass. -/
def Pass.afterAttempt (pass : Pass) (attempt : PushAttempt) : Pass :=
  if attempt = .acknowledged then { pass with pending := pass.pending.tail, attempts := 0 }
  else if pass.attempts + 1 < maxAttempts then { pass with attempts := pass.attempts + 1 }
  else { pass with pending := [], attempts := 0 }

/-- One attempt of `push_sync_notifications_job` or `push_sync_tasks_job`. -/
def pushSyncJob (s : State) (id : PassId) (attempt : PushAttempt) (now : DateTime) : State :=
  match (s.pass id).pending with
  | [] => s
  | claim :: _ =>
    { s with
      passes := s.passes.put ((s.pass id).afterAttempt attempt)
      queue := if attempt.stored then s.queue ++ [⟨claim, now⟩] else s.queue }

def step (intervals : MinSyncIntervals) (s : State) : Statement → State
  | .claimSyncStart type id clock =>
    { s with
      table := (claimSyncStart s.table type id clock.now
        (startSyncedBefore (intervals.of type) clock.readAt)).1 }
  | .claimDueSyncs id type forUserId now skipped =>
    let claims := dueSyncs intervals s.table type forUserId now skipped
    { s with
      table := (claimDueSyncs s.table type forUserId (syncSourceKinds type) now
        (now - minutes (intervals.of type)) skipped).1
      claimed := s.claimed ++ claims
      passes := s.passes.put ⟨id, (s.pass id).pending ++ claims, (s.pass id).attempts⟩ }
  | .push id attempt now => pushSyncJob s id attempt now
  | .other write keepsId _ => { s with table := s.table.update (fun _ => true) write keepsId }

/-- The instants at which a statement wins the claim of `column` on a connection. -/
def claims (intervals : MinSyncIntervals) (column : ClaimColumn) (id : IntegrationConnectionId)
    (s : State) : Statement → List DateTime
  | .claimSyncStart type id' clock =>
    if column = .startedAt type ∧ id = id' ∧
        (claimSyncStart s.table type id' clock.now
          (startSyncedBefore (intervals.of type) clock.readAt)).2 = true then [clock.now]
    else []
  | .claimDueSyncs _ type forUserId now skipped =>
    if column = .scheduledAt type ∧
        id ∈ ((claimDueSyncs s.table type forUserId (syncSourceKinds type) now
          (now - minutes (intervals.of type)) skipped).2.map (·.1)) then [now]
    else []
  | .push _ _ _ | .other _ _ _ => []

/-- The jobs in the queue for the syncs of one type of a connection. -/
def jobsOf (s : State) (type : IntegrationConnectionSyncType) (id : IntegrationConnectionId) :
    List QueuedSync :=
  s.queue.filter fun job => job.claim.type = type ∧ job.claim.connectionId = id

def columnOf (table : IntegrationConnectionTable) (id : IntegrationConnectionId)
    (column : ClaimColumn) : Option DateTime := (table.find? id).bind column.read

/-- The column a statement may write. -/
def Statement.column : Statement → Option ClaimColumn
  | .claimSyncStart type _ _ => some (.startedAt type)
  | .claimDueSyncs _ type _ _ _ => some (.scheduledAt type)
  | .push _ _ _ | .other _ _ _ => none

section Columns
variable {column column' : ClaimColumn} {row : IntegrationConnectionRow} {now : DateTime}
  {table : IntegrationConnectionTable} {id : IntegrationConnectionId}

theorem read_write_self : column.read (column.write row now) = some now := by
  cases column <;> simp [ClaimColumn.read, ClaimColumn.write]

theorem read_write_of_ne (h : column ≠ column') : column.read (column'.write row now) = column.read row := by
  cases column with
  | startedAt type =>
    cases column' with
    | startedAt type' =>
      have hne : type ≠ type' := fun e => h (by rw [e])
      simp only [ClaimColumn.read, ClaimColumn.write, IntegrationConnectionRow.sync_setSync_of_ne hne]
    | scheduledAt type' => cases type <;> cases type' <;> rfl
  | scheduledAt type =>
    cases column' with
    | startedAt type' => cases type <;> cases type' <;> rfl
    | scheduledAt type' =>
      have hne : type ≠ type' := fun e => h (by rw [e])
      simp only [ClaimColumn.read, ClaimColumn.write, IntegrationConnectionRow.sync_setSync_of_ne hne]

theorem columnOf_update {p : IntegrationConnectionRow → Bool}
    {f : IntegrationConnectionRow → IntegrationConnectionRow} {hf : ∀ r, (f r).id = r.id} :
    columnOf (table.update p f hf) id column =
      (table.find? id).bind fun r => column.read (if p r then f r else r) := by
  unfold columnOf
  rw [Table.find?_update]
  cases table.find? id <;> rfl

/-- A write that leaves the claim columns of every row alone. -/
theorem columnOf_other {write : IntegrationConnectionRow → IntegrationConnectionRow}
    (keepsId : ∀ row, (write row).id = row.id)
    (keepsColumns : ∀ row (column : ClaimColumn), column.read (write row) = column.read row) :
    columnOf (table.update (fun _ => true) write keepsId) id column = columnOf table id column := by
  rw [columnOf_update]
  unfold columnOf
  cases table.find? id with
  | none => rfl
  | some row => simpa using keepsColumns row column

theorem table_pushSyncJob {s : State} {pass : PassId} {attempt : PushAttempt} {now : DateTime} :
    (pushSyncJob s pass attempt now).table = s.table := by
  unfold pushSyncJob
  split
  · rfl
  · rfl

/-- What a conditional stamp does to a column of a connection. -/
theorem columnOf_stamp {p : IntegrationConnectionRow → Bool} :
    columnOf (table.update p (ClaimColumn.write · now column') (ClaimColumn.write_id _ now)) id column =
      if column = column' ∧ (table.find? id).any p = true then some now
      else columnOf table id column := by
  rw [columnOf_update]
  unfold columnOf
  cases table.find? id with
  | none => simp
  | some r =>
    by_cases hcolumn : column = column'
    · subst hcolumn
      cases hp : p r <;> simp [hp, read_write_self]
    · cases hp : p r <;> simp [hp, hcolumn, read_write_of_ne]

end Columns

section Spacing
variable {intervals : MinSyncIntervals} {column : ClaimColumn} {id : IntegrationConnectionId}
  {table : IntegrationConnectionTable}

theorem startClaims_id {type : IntegrationConnectionSyncType} {id : IntegrationConnectionId}
    {syncedBefore : Option DateTime} {row : IntegrationConnectionRow}
    (h : startClaims type id syncedBefore row = true) : row.id = id := by
  simp only [startClaims, Bool.and_eq_true, beq_iff_eq] at h
  exact h.1

/-- The row a non-forced claim wins was stamped at least an interval before. -/
theorem startClaims_old {type : IntegrationConnectionSyncType} {id' : IntegrationConnectionId}
    {clock : Clock} {row : IntegrationConnectionRow} (hpos : 0 < intervals.of type)
    (h : startClaims type id' (startSyncedBefore (intervals.of type) clock.readAt) row = true) :
    ∀ v ∈ (row.sync type).startedAt, v + minutes (intervals.of type) ≤ clock.now := by
  intro v hv
  have hne : intervals.of type ≠ 0 := by omega
  simp only [startClaims, startSyncedBefore, hne, ne_eq, not_false_eq_true, if_true,
    Option.all_some, isDue, Bool.and_eq_true] at h
  rw [hv] at h
  have hle : v ≤ clock.readAt - minutes (intervals.of type) := by simpa using h.2
  exact le_trans (Int.add_le_of_le_sub_right hle) clock.ordered

theorem dueClaims_old {type : IntegrationConnectionSyncType} {forUserId : UserId}
    {kinds : List IntegrationProviderKind} {now : DateTime}
    {skipped : IntegrationConnectionId → Bool} {row : IntegrationConnectionRow}
    (h : dueClaims type forUserId kinds (now - minutes (intervals.of type)) skipped row = true) :
    ∀ v ∈ (row.sync type).scheduledAt, v + minutes (intervals.of type) ≤ now := by
  intro v hv
  simp only [dueClaims, isDue, Bool.and_eq_true] at h
  have hdue := h.1.2
  rw [hv] at hdue
  have hle : v ≤ now - minutes (intervals.of type) := by simpa using hdue
  exact Int.add_le_of_le_sub_right hle

theorem claimSyncStart_won {type : IntegrationConnectionSyncType} {id' : IntegrationConnectionId}
    {now : DateTime} {syncedBefore : Option DateTime} :
    (claimSyncStart table type id' now syncedBefore).2 =
      (table.find? id').any (startClaims type id' syncedBefore) :=
  Table.any_eq_find?_any fun _ => startClaims_id

theorem claimDueSyncs_eq (type : IntegrationConnectionSyncType) (forUserId : UserId)
    (now syncedBefore : DateTime) (skipped : IntegrationConnectionId → Bool) :
    claimDueSyncs table type forUserId (syncSourceKinds type) now syncedBefore skipped =
      (table.update (dueClaims type forUserId (syncSourceKinds type) syncedBefore skipped)
          (ClaimColumn.write · now (.scheduledAt type)) (ClaimColumn.write_id _ now),
        (table.rows.filter
          (dueClaims type forUserId (syncSourceKinds type) syncedBefore skipped)).map
            fun row => (row.id, row.providerKind)) := by
  have hkinds : (syncSourceKinds type).isEmpty = false := by cases type <;> rfl
  simp only [claimDueSyncs, hkinds, Bool.false_eq_true, if_false]

theorem claimDueSyncs_won {type : IntegrationConnectionSyncType} {forUserId : UserId}
    {now syncedBefore : DateTime} {skipped : IntegrationConnectionId → Bool} :
    id ∈ (claimDueSyncs table type forUserId (syncSourceKinds type) now syncedBefore skipped).2.map
        (·.1) ↔
      (table.find? id).any (dueClaims type forUserId (syncSourceKinds type) syncedBefore skipped) =
        true := by
  rw [claimDueSyncs_eq, List.map_map]
  exact Table.mem_map_filter

theorem claimSyncStart_won_iff {type : IntegrationConnectionSyncType}
    {id' : IntegrationConnectionId} {now : DateTime} {syncedBefore : Option DateTime} :
    id = id' ∧ (claimSyncStart table type id' now syncedBefore).2 = true ↔
      (table.find? id).any (startClaims type id' syncedBefore) = true := by
  rw [claimSyncStart_won]
  constructor
  · rintro ⟨rfl, hwon⟩
    exact hwon
  · intro hwon
    obtain ⟨row, hrow, hclaims⟩ := Option.any_eq_true _ _ |>.mp hwon
    have hid : id = id' := (Table.find?_eq_some.mp hrow).2.symm.trans (startClaims_id hclaims)
    exact ⟨hid, hid ▸ hwon⟩

/-- A conditional stamp of rows that were stamped at least `gap` before, granted where the row
of the connection was one of them. -/
theorem stamp_spaced {column' : ClaimColumn} {p : IntegrationConnectionRow → Bool}
    {now : DateTime} {gap : Int} {granted : List DateTime}
    (hold : column = column' → ∀ row, p row = true → ∀ v ∈ column'.read row, v + gap ≤ now)
    (hgranted : granted =
      if column = column' ∧ (table.find? id).any p = true then [now] else []) :
    (granted = [] ∧ columnOf (table.update p (ClaimColumn.write · now column')
      (ClaimColumn.write_id _ now)) id column = columnOf table id column) ∨
    ∃ t, (granted = [] ∨ granted = [t]) ∧ columnOf (table.update p
      (ClaimColumn.write · now column') (ClaimColumn.write_id _ now)) id column = some t ∧
      ∀ v ∈ columnOf table id column, v + gap ≤ t := by
  rw [columnOf_stamp]
  by_cases hwon : column = column' ∧ (table.find? id).any p = true
  · rw [if_pos hwon] at hgranted ⊢
    obtain ⟨rfl, hany⟩ := hwon
    refine .inr ⟨now, .inr hgranted, rfl, ?_⟩
    obtain ⟨row, hrow, hp⟩ := Option.any_eq_true _ _ |>.mp hany
    intro v hv
    simp only [columnOf, hrow, Option.bind_some] at hv
    exact hold rfl row hp v hv
  · rw [if_neg hwon] at hgranted ⊢
    exact .inl ⟨hgranted, rfl⟩

/-- One statement either leaves a claim column of a connection alone, or stamps it an interval
or more after the previous stamp. -/
theorem claims_spaced (hpos : 0 < intervals.of column.type) :
    Lease.Spaced (step intervals) (claims intervals column id) (columnOf ·.table id column)
      (minutes (intervals.of column.type)) := by
  intro s statement
  cases statement with
  | claimSyncStart type id' clock =>
    simp only [claims, claimSyncStart_won_iff]
    refine stamp_spaced ?_ rfl
    rintro rfl row hwon
    exact startClaims_old hpos hwon
  | claimDueSyncs pass type forUserId now skipped =>
    simp only [step, claims, claimDueSyncs_won]
    rw [claimDueSyncs_eq]
    refine stamp_spaced ?_ rfl
    rintro rfl row hwon
    exact dueClaims_old hwon
  | push pass attempt now => exact .inl ⟨rfl, by simp only [step, table_pushSyncJob]⟩
  | other write keepsId keepsColumns =>
    exact .inl ⟨rfl, columnOf_other keepsId keepsColumns⟩

theorem claims_pairwise (intervals : MinSyncIntervals) (column : ClaimColumn)
    (id : IntegrationConnectionId) (s : State) (statements : List Statement) :
    (Lease.granted (step intervals) (claims intervals column id) s statements).Pairwise
      fun earlier later => minutes (intervals.of column.type) ≤ |later - earlier| := by
  by_cases hpos : 0 < intervals.of column.type
  · have hgap : 0 ≤ minutes (intervals.of column.type) := by unfold minutes; omega
    refine ((claims_spaced hpos).granted_pairwise hgap s statements).imp fun h => ?_
    exact le_trans (by omega) (le_abs_self _)
  · have hgap : minutes (intervals.of column.type) ≤ 0 := by unfold minutes; omega
    exact List.pairwise_of_forall fun _ _ => le_trans hgap (abs_nonneg _)

/-- A statement writes no claim column but its own. -/
theorem columnOf_step_of_ne {s : State} (statement : Statement)
    (h : statement.column ≠ some column) :
    columnOf (step intervals s statement).table id column = columnOf s.table id column := by
  cases statement with
  | claimSyncStart type id' clock =>
    have hne : column ≠ .startedAt type := fun e => h (by rw [e]; rfl)
    simp only [step, claimSyncStart, columnOf_stamp, hne, false_and, if_false]
  | claimDueSyncs pass type forUserId now skipped =>
    have hne : column ≠ .scheduledAt type := fun e => h (by rw [e]; rfl)
    simp only [step, claimDueSyncs_eq, columnOf_stamp, hne, false_and, if_false]
  | push pass attempt now => simp only [step, table_pushSyncJob]
  | other write keepsId keepsColumns => exact columnOf_other keepsId keepsColumns

end Spacing

section Jobs
variable {intervals : MinSyncIntervals} {s : State} {type : IntegrationConnectionSyncType}
  {id : IntegrationConnectionId}

/-- When the passes have won the claims of a connection and a type. -/
def claimedAt (s : State) (type : IntegrationConnectionSyncType) (id : IntegrationConnectionId) :
    List DateTime :=
  (s.claimed.filter fun claim => claim.type = type ∧ claim.connectionId = id).map (·.claimedAt)

/-- A pass claims a connection at most once for a type. -/
theorem claimedAt_dueSyncs {pass : PassId} {type' : IntegrationConnectionSyncType}
    {forUserId : UserId} {now : DateTime} {skipped : IntegrationConnectionId → Bool} :
    ((dueSyncs intervals s.table type' forUserId now skipped).filter
        fun claim => claim.type = type ∧ claim.connectionId = id).map (·.claimedAt) =
      claims intervals (.scheduledAt type) id s
        (.claimDueSyncs pass type' forUserId now skipped) := by
  simp only [claims, claimDueSyncs_won, ClaimColumn.scheduledAt.injEq]
  simp only [dueSyncs, claimDueSyncs_eq, List.map_map, List.filter_map, Function.comp_def,
    List.filter_filter]
  by_cases htype : type' = type
  · subst htype
    simp only [true_and, ← List.filter_filter]
    rw [List.filter_comm, Table.filter_key_eq s.table id]
    cases s.table.find? id with
    | none => rfl
    | some row =>
      cases hdue : dueClaims type' forUserId (syncSourceKinds type')
          (now - minutes (intervals.of type')) skipped row with
      | true => simp [hdue]
      | false => simp [hdue]
  · simp [htype, Ne.symm htype]

theorem claimedAt_step (statement : Statement) :
    claimedAt (step intervals s statement) type id =
      claimedAt s type id ++ claims intervals (.scheduledAt type) id s statement := by
  cases statement with
  | claimSyncStart type' id' clock =>
    simp [claimedAt, step, claims]
  | claimDueSyncs pass type' forUserId now skipped =>
    rw [← claimedAt_dueSyncs]
    simp only [claimedAt, step, List.filter_append, List.map_append]
  | push pass attempt now =>
    have hclaimed : (pushSyncJob s pass attempt now).claimed = s.claimed := by
      unfold pushSyncJob
      split
      · rfl
      · rfl
    simp only [claimedAt, step, hclaimed, claims, List.append_nil]
  | other write keepsId keepsColumns => exact (List.append_nil _).symm

theorem claimedAt_run (s : State) (statements : List Statement) :
    claimedAt (Lease.run (step intervals) s statements) type id = claimedAt s type id ++
      Lease.granted (step intervals) (claims intervals (.scheduledAt type) id) s statements := by
  induction statements generalizing s with
  | nil => exact (List.append_nil _).symm
  | cons statement rest ih =>
    rw [Lease.granted, ← List.append_assoc, ← claimedAt_step]
    exact ih _

/-- The claims whose jobs are still to be pushed. -/
def pendingClaims (s : State) : List DueSync := s.passes.rows.flatMap (·.pending)

theorem perm_pendingClaims (s : State) (pass : PassId) :
    (pendingClaims s).Perm
      ((s.passes.erase pass).rows.flatMap (·.pending) ++ (s.pass pass).pending) := by
  unfold pendingClaims State.pass
  cases hfind : s.passes.find? pass with
  | none =>
    rw [Table.rows_erase_of_none hfind]
    simp
  | some found =>
    obtain ⟨hmem, rfl⟩ := Table.find?_eq_some.mp hfind
    refine ((Table.perm_erase hmem).flatMap_right _).trans ?_
    rw [List.flatMap_cons]
    exact List.perm_append_comm

theorem pendingClaims_put (s : State) (pass : Pass) :
    (s.passes.put pass).rows.flatMap (·.pending) =
      (s.passes.erase pass.id).rows.flatMap (·.pending) ++ pass.pending := by
  simp [Table.put]

/-- Every job in the queue, and every one still to be pushed, stems from a claim. -/
structure Sourced (s : State) : Prop where
  queue : ∀ job ∈ s.queue, job.claim ∈ s.claimed
  pending : ∀ claim ∈ pendingClaims s, claim ∈ s.claimed

theorem pass_id (s : State) (pass : PassId) : (s.pass pass).id = pass := by
  unfold State.pass
  cases hfind : s.passes.find? pass with
  | none => rfl
  | some found => exact (Table.find?_eq_some.mp hfind).2

theorem afterAttempt_id {pass : Pass} {attempt : PushAttempt} :
    (pass.afterAttempt attempt).id = pass.id := by
  unfold Pass.afterAttempt
  split
  · rfl
  · split
    · rfl
    · rfl

theorem afterAttempt_pending {pass : Pass} {attempt : PushAttempt} :
    (pass.afterAttempt attempt).pending.Sublist pass.pending := by
  unfold Pass.afterAttempt
  split
  · exact List.tail_sublist _
  · split
    · exact List.Sublist.refl _
    · exact List.nil_sublist _

/-- An attempt leaves the other passes as they are. -/
theorem pendingClaims_afterAttempt (s : State) (pass : PassId) (attempt : PushAttempt) :
    (s.passes.put ((s.pass pass).afterAttempt attempt)).rows.flatMap (·.pending) =
      (s.passes.erase pass).rows.flatMap (·.pending) ++
        ((s.pass pass).afterAttempt attempt).pending := by
  rw [pendingClaims_put, afterAttempt_id, pass_id]

theorem Sourced.push (h : Sourced s) {pass : PassId} {attempt : PushAttempt} {now : DateTime} :
    Sourced (pushSyncJob s pass attempt now) := by
  have hall : ∀ claim ∈ (s.pass pass).pending, claim ∈ s.claimed := fun claim hclaim =>
    h.pending claim ((perm_pendingClaims s pass).mem_iff.mpr (List.mem_append_right _ hclaim))
  have hothers : ∀ claim ∈ (s.passes.erase pass).rows.flatMap (·.pending), claim ∈ s.claimed :=
    fun claim hclaim =>
      h.pending claim ((perm_pendingClaims s pass).mem_iff.mpr (List.mem_append_left _ hclaim))
  unfold pushSyncJob
  split
  · exact h
  · next claim rest hpending =>
    constructor
    · intro job hjob
      cases hstored : attempt.stored with
      | true =>
        simp only [hstored, if_true, List.mem_append, List.mem_singleton] at hjob
        rcases hjob with hold | rfl
        · exact h.queue job hold
        · exact hall claim (hpending ▸ List.mem_cons_self)
      | false =>
        simp only [hstored, Bool.false_eq_true, if_false] at hjob
        exact h.queue job hjob
    · intro other hother
      unfold pendingClaims at hother
      rw [pendingClaims_afterAttempt] at hother
      rcases List.mem_append.mp hother with hrest | hlater
      · exact hothers other hrest
      · exact hall other (afterAttempt_pending.subset hlater)

theorem Sourced.step (h : Sourced s) (statement : Statement) :
    Sourced (step intervals s statement) := by
  cases statement with
  | claimSyncStart type' id' clock => exact ⟨h.queue, h.pending⟩
  | claimDueSyncs pass type' forUserId now skipped =>
    constructor
    · exact fun job hjob => List.mem_append_left _ (h.queue job hjob)
    · intro claim hclaim
      simp only [SyncClaims.step, pendingClaims, pendingClaims_put, List.mem_append] at hclaim ⊢
      rcases hclaim with hother | hold | hnew
      · exact .inl (h.pending claim
          ((perm_pendingClaims s pass).mem_iff.mpr (List.mem_append_left _ hother)))
      · exact .inl (h.pending claim
          ((perm_pendingClaims s pass).mem_iff.mpr (List.mem_append_right _ hold)))
      · exact .inr hnew
  | push pass attempt now => exact h.push
  | other write keepsId keepsColumns => exact ⟨h.queue, h.pending⟩

/-- No claim has two jobs, in the queue or still to be pushed. -/
def PushedOnce (s : State) : Prop :=
  (s.queue.map (·.claim) ++ pendingClaims s).Subperm s.claimed

/-- An attempt whose reply comes back moves the next job of a pass into the queue, or leaves it
where it is. -/
theorem PushedOnce.push (h : PushedOnce s) {pass : PassId} {attempt : PushAttempt} {now : DateTime}
    (hreply : attempt ≠ .unacknowledged) : PushedOnce (pushSyncJob s pass attempt now) := by
  have hperm := perm_pendingClaims s pass
  unfold pushSyncJob
  split
  · exact h
  · next claim rest hpending =>
    refine List.Subperm.trans ?_ h
    unfold pendingClaims at hperm ⊢
    rw [pendingClaims_afterAttempt]
    cases attempt with
    | unacknowledged => exact absurd rfl hreply
    | acknowledged =>
      have htail : ((s.pass pass).afterAttempt .acknowledged).pending = rest := by
        rw [Pass.afterAttempt, if_pos rfl, hpending, List.tail_cons]
      rw [hpending] at hperm
      rw [htail, PushAttempt.stored, if_pos rfl, List.map_append, List.append_assoc]
      exact ((List.perm_middle.symm.trans hperm.symm).append_left _).subperm
    | lost =>
      rw [PushAttempt.stored, if_neg Bool.false_ne_true]
      refine List.Subperm.trans ?_ (hperm.symm.append_left _).subperm
      exact ((afterAttempt_pending.append_left _).append_left _).subperm

theorem PushedOnce.step (h : PushedOnce s) {statement : Statement}
    (hreply : ∀ pass now, statement ≠ .push pass .unacknowledged now) :
    PushedOnce (step intervals s statement) := by
  cases statement with
  | claimSyncStart type' id' clock => exact h
  | claimDueSyncs pass type' forUserId now skipped =>
    simp only [PushedOnce, SyncClaims.step, pendingClaims, pendingClaims_put]
    rw [← List.append_assoc, ← List.append_assoc]
    refine List.Subperm.append ?_ (List.Subperm.refl _)
    rw [List.append_assoc]
    exact ((perm_pendingClaims s pass).symm.append_left _).subperm.trans h
  | push pass attempt now => exact h.push fun hlost => hreply pass now (hlost ▸ rfl)
  | other write keepsId keepsColumns => exact h

theorem sourced_run (statements : List Statement) (h : Sourced s) :
    Sourced (Lease.run (step intervals) s statements) := by
  induction statements generalizing s with
  | nil => exact h
  | cons statement rest ih => exact ih (h.step statement)

/-- The reply to every push comes back. -/
def RepliesKept (statements : List Statement) : Prop :=
  ∀ statement ∈ statements, ∀ pass now, statement ≠ .push pass .unacknowledged now

theorem pushedOnce_run {statements : List Statement} (hreplies : RepliesKept statements)
    (h : PushedOnce s) : PushedOnce (Lease.run (step intervals) s statements) := by
  induction statements generalizing s with
  | nil => exact h
  | cons statement rest ih =>
    obtain ⟨hreply, hrest⟩ := List.forall_mem_cons.mp hreplies
    exact ih hrest (h.step hreply)

end Jobs

/-- The instants are as far apart as the minimum interval asks for. -/
def Apart (interval : Int) (earlier later : DateTime) : Prop :=
  minutes interval ≤ |later - earlier|

instance (interval : Int) (earlier later : DateTime) : Decidable (Apart interval earlier later) :=
  inferInstanceAs (Decidable (_ ≤ _))

theorem Apart.symm {interval : Int} {earlier later : DateTime} (h : Apart interval earlier later) :
    Apart interval later earlier := by
  unfold Apart at h ⊢
  rwa [abs_sub_comm]

/-- The claims of a column, and the jobs of a type, of one connection: claims are an interval apart,
and so are the claims of two jobs that do not stem from the same one. There is no second job of a
claim as long as the reply to every push comes back. -/
structure Exclusive (intervals : MinSyncIntervals) (table : IntegrationConnectionTable)
    (statements : List Statement) (id : IntegrationConnectionId) : Prop where
  claims : ∀ column : ClaimColumn,
    (Lease.granted (step intervals) (claims intervals column id) (initial table)
      statements).Pairwise (Apart (intervals.of column.type))
  sourced : ∀ type, ∀ job ∈ jobsOf (Lease.run (step intervals) (initial table) statements) type id,
    job.claim.claimedAt ∈ Lease.granted (step intervals)
      (SyncClaims.claims intervals (.scheduledAt type) id) (initial table) statements
  jobs : ∀ type, ∀ job ∈ jobsOf (Lease.run (step intervals) (initial table) statements) type id,
    ∀ other ∈ jobsOf (Lease.run (step intervals) (initial table) statements) type id,
      job.claim = other.claim ∨
        Apart (intervals.of type) job.claim.claimedAt other.claim.claimedAt
  once : RepliesKept statements → ∀ type,
    (jobsOf (Lease.run (step intervals) (initial table) statements) type id).Pairwise
      fun job other => Apart (intervals.of type) job.claim.claimedAt other.claim.claimedAt

section Main
variable {intervals : MinSyncIntervals} {table : IntegrationConnectionTable}
  {statements : List Statement} {s : State} {type : IntegrationConnectionSyncType}
  {id : IntegrationConnectionId}

/-- The claims of the passes on one connection, for one type. -/
def claimedOf (s : State) (type : IntegrationConnectionSyncType) (id : IntegrationConnectionId) :
    List DueSync :=
  s.claimed.filter fun claim => claim.type = type ∧ claim.connectionId = id

theorem claim_mem_claimedOf (h : Sourced s) {job : QueuedSync} (hjob : job ∈ jobsOf s type id) :
    job.claim ∈ claimedOf s type id := by
  obtain ⟨hqueue, hof⟩ := List.mem_filter.mp hjob
  exact List.mem_filter.mpr ⟨h.queue job hqueue, hof⟩

/-- The claims of the passes are those granted on the `scheduled_at` column. -/
theorem claimedAt_run_initial :
    claimedAt (Lease.run (step intervals) (initial table) statements) type id =
      Lease.granted (step intervals) (claims intervals (.scheduledAt type) id) (initial table)
        statements :=
  claimedAt_run (initial table) statements

theorem claimedOf_pairwise (intervals : MinSyncIntervals) (table : IntegrationConnectionTable)
    (statements : List Statement) (type : IntegrationConnectionSyncType)
    (id : IntegrationConnectionId) :
    (claimedOf (Lease.run (step intervals) (initial table) statements) type id).Pairwise
      fun claim other => Apart (intervals.of type) claim.claimedAt other.claimedAt := by
  have hpairwise := claims_pairwise intervals (.scheduledAt type) id (initial table) statements
  rw [← claimedAt_run_initial, claimedAt, List.pairwise_map] at hpairwise
  exact hpairwise

theorem jobsOf_pairwise (h : PushedOnce s) {interval : Int}
    (hclaims : (claimedOf s type id).Pairwise
      fun claim other => Apart interval claim.claimedAt other.claimedAt) :
    (jobsOf s type id).Pairwise
      fun job other => Apart interval job.claim.claimedAt other.claim.claimedAt := by
  have hqueue : (s.queue.map (·.claim)).Subperm s.claimed :=
    (List.sublist_append_left _ _).subperm.trans h
  have hjobs : ((jobsOf s type id).map (·.claim)).Subperm (claimedOf s type id) := by
    unfold jobsOf claimedOf
    have hfilter := hqueue.filter fun claim => claim.type = type ∧ claim.connectionId = id
    rw [List.filter_map] at hfilter
    exact hfilter
  obtain ⟨claims, hperm, hsub⟩ := hjobs
  have hpairwise := (hperm.pairwise_iff fun h => Apart.symm h).mp (hclaims.sublist hsub)
  rw [List.pairwise_map] at hpairwise
  exact hpairwise

end Main

/-- For any interleaving, of any number of passes and their pushes: claims and jobs exclude each
other, and in every state reached no statement touches the other claim columns, those of the other
sync type among them. -/
theorem claims_exclusive (intervals : MinSyncIntervals) (table : IntegrationConnectionTable)
    (statements : List Statement) (id : IntegrationConnectionId) :
    Exclusive intervals table statements id ∧
    ∀ statement column, Statement.column statement ≠ some column →
      columnOf (step intervals (Lease.run (step intervals) (initial table) statements)
          statement).table id column =
        columnOf (Lease.run (step intervals) (initial table) statements).table id column := by
  have hsourced : Sourced (Lease.run (step intervals) (initial table) statements) :=
    sourced_run statements
      ⟨fun _ h => (List.not_mem_nil h).elim, fun _ h => (List.not_mem_nil h).elim⟩
  refine ⟨{ claims := ?_, sourced := ?_, jobs := ?_, once := ?_ }, ?_⟩
  · exact fun column => claims_pairwise intervals column id (initial table) statements
  · intro type job hjob
    rw [← claimedAt_run_initial]
    exact List.mem_map_of_mem (claim_mem_claimedOf hsourced hjob)
  · intro type job hjob other hother
    by_cases hsame : job.claim = other.claim
    · exact .inl hsame
    · have hsymm : Std.Symm fun claim other : DueSync =>
          Apart (intervals.of type) claim.claimedAt other.claimedAt := ⟨fun _ _ h => h.symm⟩
      exact .inr ((claimedOf_pairwise intervals table statements type id).forall
        (claim_mem_claimedOf hsourced hjob) (claim_mem_claimedOf hsourced hother) hsame)
  · intro hreplies type
    refine jobsOf_pairwise (pushedOnce_run hreplies ?_)
      (claimedOf_pairwise intervals table statements type id)
    exact List.nil_subperm
  · intro statement column hcolumn
    exact columnOf_step_of_ne statement hcolumn

def neverSynced : SyncColumns :=
  { scheduledAt := none, startedAt := none, completedAt := none, failedAt := none,
    failureMessage := none, failures := 0, firstFailedAt := none }

def dueConnection : IntegrationConnectionRow :=
  { id := ⟨1⟩, userId := ⟨1⟩, providerKind := .github, providerUserId := none, status := .validated,
    failureMessage := none, notificationsSync := neverSynced, tasksSync := neverSynced,
    config := .github true, registeredOauthScopes := [] }

/-- Redis takes the job of a pass, its reply is lost, and the job is pushed again ten milliseconds
later. -/
def lostReply : List Statement :=
  [.claimDueSyncs 1 .notifications ⟨1⟩ 0 fun _ => false, .push 1 .unacknowledged 1000000,
    .push 1 .acknowledged 11000000]

/-- Two jobs in the queue within ten milliseconds, where the minimum interval is five minutes. -/
theorem lostReply_not_apart :
    ¬ (jobsOf (Lease.run (step ⟨5, 5⟩) (initial ⟨[dueConnection], by decide⟩) lostReply)
        .notifications ⟨1⟩).Pairwise fun job other => Apart 5 job.enqueuedAt other.enqueuedAt := by
  decide

end UniversalInbox.SyncClaims
