import UniversalInbox.ConnectionStatus
import UniversalInbox.SyncClaims

/-! What the sync of notifications and the sync of tasks share. Both run in three transactions: the
first one finds the connection and claims the start, the second one fetches and saves, and the last
one records how that went. -/
namespace UniversalInbox.SyncServices
open ConnectionStatus SyncClaims

/-- `IntegrationProviderKind` as its `Display` writes it. -/
def displayProviderKind : IntegrationProviderKind → String
  | .github => "Github"
  | .linear => "Linear"
  | .googleCalendar => "GoogleCalendar"
  | .googleDrive => "GoogleDrive"
  | .googleMail => "GoogleMail"
  | .notion => "Notion"
  | .slack => "Slack"
  | .todoist => "Todoist"
  | .tickTick => "TickTick"
  | .api => "API"

def displaySyncType : IntegrationConnectionSyncType → String
  | .notifications => "notifications"
  | .tasks => "tasks"

/-- The settings of the application that decide which syncs are due. -/
structure SyncSettings where
  minSyncIntervals : MinSyncIntervals
  syncBackoffBaseDelayInSeconds : UInt64
  syncBackoffMaxDelayInSeconds : UInt64
  syncFailureWindowInHours : Int

/-- As `config/default.toml` has them. -/
def defaultSettings : SyncSettings :=
  { minSyncIntervals := ⟨5, 5⟩, syncBackoffBaseDelayInSeconds := 120,
    syncBackoffMaxDelayInSeconds := 3600, syncFailureWindowInHours := 48 }

/-- The connections, at most one of a user and a provider by the unique index of the table, and the
flag of a configuration that enables the sync of tasks. -/
structure Connections where
  table : IntegrationConnectionTable
  onePerProvider : (table.rows.map fun row => (row.userId, row.providerKind)).Nodup
  syncTasksEnabled : IntegrationConnectionId → Bool

/-- An assignment that leaves the keys of a connection alone. -/
structure KeepsKeys (f : IntegrationConnectionRow → IntegrationConnectionRow) : Prop where
  id : ∀ row, (f row).id = row.id
  userId : ∀ row, (f row).userId = row.userId
  providerKind : ∀ row, (f row).providerKind = row.providerKind

theorem KeepsKeys.ite {p : IntegrationConnectionRow → Bool}
    {f : IntegrationConnectionRow → IntegrationConnectionRow} (hf : KeepsKeys f) :
    KeepsKeys fun row => if p row then f row else row := by
  refine ⟨fun row => ?_, fun row => ?_, fun row => ?_⟩
  · by_cases hp : p row = true <;> simp [hp, hf.id]
  · by_cases hp : p row = true <;> simp [hp, hf.userId]
  · by_cases hp : p row = true <;> simp [hp, hf.providerKind]

theorem KeepsKeys.refl : KeepsKeys fun row => row := ⟨fun _ => rfl, fun _ => rfl, fun _ => rfl⟩

def Connections.update (connections : Connections) (p : IntegrationConnectionRow → Bool)
    (f : IntegrationConnectionRow → IntegrationConnectionRow) (hf : KeepsKeys f) : Connections where
  table := connections.table.update p f hf.id
  onePerProvider := by
    rw [Table.map_rows_update fun row => Prod.ext (hf.userId row) (hf.providerKind row)]
    exact connections.onePerProvider
  syncTasksEnabled := connections.syncTasksEnabled

/-- `sync_backoff_delay`, in seconds, for settings with which it does not panic. -/
def syncBackoffDelay (failures : Nat) (baseDelaySeconds maxDelaySeconds : UInt64) : Int :=
  if failures = 0 then 0
  else
    let exponent := failures - 1
    let factor := if exponent < 64 then 2 ^ exponent else 2 ^ 64 - 1
    let delaySecs := min (min (baseDelaySeconds.toNat * factor) (2 ^ 64 - 1)) maxDelaySeconds.toNat
    Int.bmod delaySecs (2 ^ 64)

def isSyncInBackoff (settings : SyncSettings) (columns : SyncColumns) (now : DateTime) : Bool :=
  if columns.failures = 0 then false
  else columns.failedAt.any fun failedAt =>
    now < failedAt + syncBackoffDelay columns.failures settings.syncBackoffBaseDelayInSeconds
      settings.syncBackoffMaxDelayInSeconds * 1000000000

/-- `is_sync_notifications_enabled` or `is_sync_tasks_enabled`. -/
def isSyncEnabled (connections : Connections) (row : IntegrationConnectionRow) :
    IntegrationConnectionSyncType → Bool
  | .notifications => row.config.isSyncNotificationsEnabled
  | .tasks =>
    match row.config with
    | .todoist | .tickTick | .linear _ => connections.syncTasksEnabled row.id
    | _ => false

/-- The readings of the clock by a sync: for the connections it looks at, for their backoff, for the
claim, the stamp of the claim, and the start and the stamp of the transaction that records the
outcome. -/
structure SyncInstants where
  dueAt : DateTime
  backoffAt : DateTime
  readAt : DateTime
  claimedAt : DateTime
  startedAt : DateTime
  endedAt : DateTime
  ordered : dueAt ≤ readAt
deriving DecidableEq

/-- What a sync is asked for. -/
structure SyncRequest where
  type : IntegrationConnectionSyncType
  kind : IntegrationProviderKind
  userId : UserId
deriving DecidableEq, Repr

/-- A forced sync asks for no interval. -/
def minSyncInterval (settings : SyncSettings) (type : IntegrationConnectionSyncType)
    (forceSync : Bool) : Int :=
  if forceSync then 0 else settings.minSyncIntervals.of type

def selectsToSync (request : SyncRequest) (syncedBefore : Option DateTime)
    (row : IntegrationConnectionRow) : Bool :=
  row.userId == request.userId && row.providerKind == request.kind &&
    syncedBefore.all (isDue (row.sync request.type).startedAt) && row.status == .validated

def getIntegrationConnectionToSync (settings : SyncSettings) (connections : Connections)
    (request : SyncRequest) (forceSync : Bool) (instants : SyncInstants) :
    Option IntegrationConnectionRow :=
  let syncedBefore :=
    startSyncedBefore (minSyncInterval settings request.type forceSync) instants.dueAt
  (connections.table.rows.find? (selectsToSync request syncedBefore)).filter fun row =>
    !isSyncInBackoff settings (row.sync request.type) instants.backoffAt

theorem keepsKeys_claim (now : DateTime) (type : IntegrationConnectionSyncType) :
    KeepsKeys (ClaimColumn.write · now (.startedAt type)) where
  id := ClaimColumn.write_id _ now
  userId _ := IntegrationConnectionRow.setSync_userId
  providerKind _ := IntegrationConnectionRow.setSync_providerKind

theorem keepsKeys_setSyncStatus (windowInHours : Int) (now utcNow : DateTime)
    (update : IntegrationConnectionSyncStatusUpdate) :
    KeepsKeys (setSyncStatus windowInHours now utcNow · update) where
  id := setSyncStatus_id _ _ _ update
  userId _ := by cases update <;> exact IntegrationConnectionRow.setSync_userId
  providerKind _ := by cases update <;> exact IntegrationConnectionRow.setSync_providerKind

/-- `claim_notification_sync_start` or `claim_task_sync_start`, with whether the claim was won. -/
def claimStart (connections : Connections) (type : IntegrationConnectionSyncType)
    (id : IntegrationConnectionId) (now : DateTime) (syncedBefore : Option DateTime) :
    Connections × Bool :=
  (connections.update (startClaims type id syncedBefore) (ClaimColumn.write · now (.startedAt type))
      (keepsKeys_claim now type),
    (claimSyncStart connections.table type id now syncedBefore).2)

/-- The first transaction: the connections it leaves, and whether there is something to sync. A
sync without a connection, of a disabled one, or of one that is synced already, is skipped. -/
def claimSync (settings : SyncSettings) (connections : Connections) (request : SyncRequest)
    (forceSync : Bool) (instants : SyncInstants) : Connections × Bool :=
  match getIntegrationConnectionToSync settings connections request forceSync instants with
  | none => (connections, false)
  | some connection =>
    if !isSyncEnabled connections connection request.type then (connections, false)
    else
      claimStart connections request.type connection.id instants.claimedAt
        (startSyncedBefore (minSyncInterval settings request.type forceSync) instants.readAt)

def failureMessage (request : SyncRequest) : String :=
  "Failed to fetch " ++ displaySyncType request.type ++ " from " ++ displayProviderKind request.kind

/-- The last transaction, on the rows of the user and the provider. -/
def recordSyncStatus (settings : SyncSettings) (connections : Connections) (request : SyncRequest)
    (instants : SyncInstants) (update : IntegrationConnectionSyncStatusUpdate) : Connections :=
  connections.update (selectsConnection (some request.userId) (some request.kind))
    (setSyncStatus settings.syncFailureWindowInHours instants.startedAt instants.endedAt · update)
    (keepsKeys_setSyncStatus _ _ _ update)

def completeSyncStatus (settings : SyncSettings) (connections : Connections) (request : SyncRequest)
    (instants : SyncInstants) : Connections :=
  recordSyncStatus settings connections request instants (.completed request.type)

def errorSyncStatus (settings : SyncSettings) (connections : Connections) (request : SyncRequest)
    (instants : SyncInstants) : Connections :=
  recordSyncStatus settings connections request instants
    (.failed request.type (failureMessage request))

section Connections
variable {settings : SyncSettings} {connections : Connections} {request : SyncRequest}
  {forceSync : Bool} {instants : SyncInstants}

theorem eq_of_provider {row row' : IntegrationConnectionRow} (hrow : row ∈ connections.table.rows)
    (hrow' : row' ∈ connections.table.rows) (huser : row.userId = row'.userId)
    (hkind : row.providerKind = row'.providerKind) : row = row' :=
  List.inj_on_of_nodup_map connections.onePerProvider hrow hrow' (Prod.ext huser hkind)

/-- The connection of the user to the provider is validated, due, not backing off and enabled. -/
def dueRow (settings : SyncSettings) (connections : Connections) (request : SyncRequest)
    (forceSync : Bool) (instants : SyncInstants) (row : IntegrationConnectionRow) : Bool :=
  selectsToSync request
      (startSyncedBefore (minSyncInterval settings request.type forceSync) instants.dueAt) row &&
    !isSyncInBackoff settings (row.sync request.type) instants.backoffAt &&
    isSyncEnabled connections row request.type

theorem selectsToSync_provider {syncedBefore : Option DateTime} {row : IntegrationConnectionRow}
    (h : selectsToSync request syncedBefore row = true) :
    row.userId = request.userId ∧ row.providerKind = request.kind := by
  simp only [selectsToSync, Bool.and_eq_true, beq_iff_eq] at h
  exact h.1.1

/-- What was due at an instant is still due later. -/
theorem startClaims_of_selected {interval : Int} {row : IntegrationConnectionRow}
    (h : selectsToSync request (startSyncedBefore interval instants.dueAt) row = true) :
    startClaims request.type row.id (startSyncedBefore interval instants.readAt) row = true := by
  simp only [selectsToSync, Bool.and_eq_true] at h
  have hdue := h.1.2
  simp only [startClaims, beq_self_eq_true, Bool.true_and]
  unfold startSyncedBefore at hdue ⊢
  split at hdue
  · next hinterval =>
    rw [if_pos hinterval]
    simp only [Option.all_some, isDue] at hdue ⊢
    cases hstarted : (row.sync request.type).startedAt with
    | none => rfl
    | some started =>
      rw [hstarted] at hdue
      have hle : started ≤ instants.dueAt - minutes interval := by simpa using hdue
      simpa using hle.trans (Int.sub_le_sub_right instants.ordered _)
  · next hinterval =>
    rw [if_neg hinterval]
    rfl

theorem find?_selectsToSync {syncedBefore : Option DateTime} {row : IntegrationConnectionRow}
    (hrow : row ∈ connections.table.rows) (h : selectsToSync request syncedBefore row = true) :
    connections.table.rows.find? (selectsToSync request syncedBefore) = some row := by
  obtain ⟨found, hfound⟩ := Option.isSome_iff_exists.mp (List.find?_isSome.mpr ⟨row, hrow, h⟩)
  obtain ⟨huser, hkind⟩ := selectsToSync_provider (List.find?_some hfound)
  obtain ⟨huser', hkind'⟩ := selectsToSync_provider h
  rw [hfound, eq_of_provider (List.mem_of_find?_eq_some hfound) hrow (huser.trans huser'.symm)
    (hkind.trans hkind'.symm)]

/-- A due connection is found, and the claim of its start is won. -/
theorem claimSync_of_due {row : IntegrationConnectionRow} (hrow : row ∈ connections.table.rows)
    (hdue : dueRow settings connections request forceSync instants row = true) :
    claimSync settings connections request forceSync instants =
      (connections.update
        (startClaims request.type row.id
          (startSyncedBefore (minSyncInterval settings request.type forceSync) instants.readAt))
        (ClaimColumn.write · instants.claimedAt (.startedAt request.type))
        (keepsKeys_claim _ _), true) := by
  simp only [dueRow, Bool.and_eq_true, Bool.not_eq_true'] at hdue
  obtain ⟨⟨hselects, hbackoff⟩, henabled⟩ := hdue
  have hwon : (claimSyncStart connections.table request.type row.id instants.claimedAt
      (startSyncedBefore (minSyncInterval settings request.type forceSync) instants.readAt)).2 =
        true := by
    rw [claimSyncStart_won, Table.find?_eq_some.mpr ⟨hrow, rfl⟩]
    exact startClaims_of_selected hselects
  unfold claimSync getIntegrationConnectionToSync
  simp only [find?_selectsToSync hrow hselects, Option.filter_some, hbackoff, Bool.not_false,
    if_true, henabled, Bool.not_true, Bool.false_eq_true, if_false, claimStart, hwon]

theorem claimSync_of_not_due (h : ∀ row ∈ connections.table.rows,
      dueRow settings connections request forceSync instants row = false) :
    claimSync settings connections request forceSync instants = (connections, false) := by
  unfold claimSync
  split
  · rfl
  · next row hrow =>
    unfold getIntegrationConnectionToSync at hrow
    obtain ⟨hfound, hbackoff⟩ := Option.filter_eq_some_iff.mp hrow
    have hdue := h row (List.mem_of_find?_eq_some hfound)
    simp only [dueRow, List.find?_some hfound, hbackoff, Bool.true_and] at hdue
    rw [hdue]
    rfl

/-- Whether a sync of the connection goes ahead. -/
def isDueSync (settings : SyncSettings) (connections : Connections) (request : SyncRequest)
    (forceSync : Bool) (instants : SyncInstants) : Bool :=
  connections.table.rows.any (dueRow settings connections request forceSync instants)

theorem claimSync_snd : (claimSync settings connections request forceSync instants).2 =
    isDueSync settings connections request forceSync instants := by
  cases hdue : isDueSync settings connections request forceSync instants with
  | true =>
    obtain ⟨row, hrow, hdue⟩ := List.any_eq_true.mp hdue
    rw [claimSync_of_due hrow hdue]
  | false =>
    rw [claimSync_of_not_due fun row hrow => by simpa using List.any_eq_false.mp hdue row hrow]

/-- Writes to connections of others leave alone which syncs are due. -/
theorem isDueSync_update {p : IntegrationConnectionRow → Bool}
    {f : IntegrationConnectionRow → IntegrationConnectionRow} (hf : KeepsKeys f)
    (h : ∀ row ∈ connections.table.rows, p row = true →
      ¬ (row.userId = request.userId ∧ row.providerKind = request.kind)) :
    isDueSync settings (connections.update p f hf) request forceSync instants =
      isDueSync settings connections request forceSync instants := by
  have hother : ∀ row : IntegrationConnectionRow,
      ¬ (row.userId = request.userId ∧ row.providerKind = request.kind) →
        dueRow settings connections request forceSync instants row = false := by
    intro row hrow
    by_contra hdue
    simp only [dueRow, Bool.not_eq_false, Bool.and_eq_true] at hdue
    exact hrow (selectsToSync_provider hdue.1.1)
  have hsame : ∀ row : IntegrationConnectionRow,
      dueRow settings (connections.update p f hf) request forceSync instants row =
        dueRow settings connections request forceSync instants row := fun _ => rfl
  unfold isDueSync
  rw [Bool.eq_iff_iff, List.any_eq_true, List.any_eq_true]
  constructor
  · rintro ⟨row', hrow', hdue⟩
    obtain ⟨row, hrow, rfl⟩ := (Table.mem_update (e := hf.id)).mp hrow'
    by_cases hp : p row = true
    · have hkeys := h row hrow hp
      rw [if_pos hp, hsame, hother (f row) (by rwa [hf.userId, hf.providerKind])] at hdue
      cases hdue
    · rw [if_neg hp, hsame] at hdue
      exact ⟨row, hrow, hdue⟩
  · rintro ⟨row, hrow, hdue⟩
    by_cases hp : p row = true
    · rw [hother row (h row hrow hp)] at hdue
      cases hdue
    · refine ⟨row, (Table.mem_update (e := hf.id)).mpr ⟨row, hrow, if_neg hp⟩, ?_⟩
      rwa [hsame]

/-- A claim writes to the connection of its own request. -/
theorem isDueSync_claimSync {request' : SyncRequest} {forceSync' : Bool} {instants' : SyncInstants}
    (h : ¬ (request'.userId = request.userId ∧ request'.kind = request.kind)) :
    isDueSync settings (claimSync settings connections request forceSync instants).1 request'
        forceSync' instants' =
      isDueSync settings connections request' forceSync' instants' := by
  by_cases hdue : ∃ row ∈ connections.table.rows,
      dueRow settings connections request forceSync instants row = true
  · obtain ⟨row, hrow, hdue⟩ := hdue
    rw [claimSync_of_due hrow hdue]
    simp only [dueRow, Bool.and_eq_true] at hdue
    obtain ⟨huser, hkind⟩ := selectsToSync_provider hdue.1.1
    refine isDueSync_update (keepsKeys_claim _ _) fun row' hrow' hclaims hkeys => h ?_
    rw [Table.eq_of_key hrow' hrow (startClaims_id hclaims)] at hkeys
    exact ⟨hkeys.1.symm.trans huser, hkeys.2.symm.trans hkind⟩
  · rw [claimSync_of_not_due fun row hrow => by simpa using fun hd => hdue ⟨row, hrow, hd⟩]

theorem isDueSync_recordSyncStatus {request' : SyncRequest} {forceSync' : Bool}
    {instants' : SyncInstants} {update : IntegrationConnectionSyncStatusUpdate}
    (h : ¬ (request'.userId = request.userId ∧ request'.kind = request.kind)) :
    isDueSync settings (recordSyncStatus settings connections request instants update) request'
        forceSync' instants' =
      isDueSync settings connections request' forceSync' instants' := by
  refine isDueSync_update (keepsKeys_setSyncStatus _ _ _ update) fun row hrow hselects hkeys => h ?_
  simp only [selectsConnection, Option.all_some, Bool.and_eq_true, beq_iff_eq] at hselects
  exact ⟨hkeys.1.symm.trans hselects.2, hkeys.2.symm.trans hselects.1⟩

end Connections

end UniversalInbox.SyncServices
