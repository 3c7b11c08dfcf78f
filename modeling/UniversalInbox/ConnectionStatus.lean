import UniversalInbox.IntegrationConnection
import UniversalInbox.Library.Transition

/-! The status of a connection under every order of its writers. Status is written by the OAuth
callback, the outcomes of syncs and token refreshes, a token read that finds an expired token
without a refresh token, and the user's disconnect. Each `UPDATE` holds its row until its
transaction commits, so it is one step here; what a writer had read before is a separate step. -/
namespace UniversalInbox.ConnectionStatus
open Transition

def tooManySyncFailuresErrorMessage : String :=
  "♻️ Synchronization has been failing for too long. Please try to reconnect the integration. If the issue keeps happening, please contact our support."

def oauthInvalidGrantErrorMessage : String :=
  "🔌 Authorization has expired or been revoked. Please reconnect this integration."

def oauthMissingRefreshTokenErrorMessage : String :=
  "🔌 Authorization is missing a refresh token. Please reconnect this integration."

inductive IntegrationConnectionSyncStatusUpdate where
  | scheduled (type : IntegrationConnectionSyncType)
  | completed (type : IntegrationConnectionSyncType)
  | failed (type : IntegrationConnectionSyncType) (failureMessage : String)
deriving DecidableEq, Repr

def hours (n : Int) : Int := n * 3600 * 1000000000

/-- `first_failed_at IS NOT NULL AND now() - first_failed_at > interval '… hours'`. -/
def exceedsFailureWindow (windowInHours : Int) (now : DateTime) (firstFailedAt : Option DateTime) :
    Bool := firstFailedAt.any fun first => hours windowInHours < now - first

/-- The `SET` list of `update_integration_connection_sync_status`: `now` is the start of the
transaction (`now()` in SQL), `utcNow` the clock of the caller. Nothing looks at the status the
row has. -/
def setSyncStatus (windowInHours : Int) (now utcNow : DateTime) (row : IntegrationConnectionRow) :
    IntegrationConnectionSyncStatusUpdate → IntegrationConnectionRow
  | .scheduled type => row.setSync { row.sync type with scheduledAt := some utcNow } type
  | .completed type =>
    row.setSync
      { row.sync type with
        completedAt := some utcNow
        failures := 0
        failureMessage := none
        failedAt := none
        firstFailedAt := none } type
  | .failed type failureMessage =>
    let exceeded := exceedsFailureWindow windowInHours now (row.sync type).firstFailedAt
    { row.setSync
        { row.sync type with
          failedAt := some utcNow
          failures := (row.sync type).failures + 1
          failureMessage := some failureMessage
          firstFailedAt := (row.sync type).firstFailedAt.or (some now) } type with
      status := if exceeded then .failing else row.status
      failureMessage :=
        if exceeded then some tooManySyncFailuresErrorMessage else row.failureMessage }

theorem setSyncStatus_id (windowInHours : Int) (now utcNow : DateTime)
    (update : IntegrationConnectionSyncStatusUpdate) (row : IntegrationConnectionRow) :
    (setSyncStatus windowInHours now utcNow row update).id = row.id := by
  cases update <;> exact IntegrationConnectionRow.setSync_id

def selectsConnection (userId : Option UserId) (providerKind : Option IntegrationProviderKind)
    (row : IntegrationConnectionRow) : Bool :=
  providerKind.all (row.providerKind == ·) && userId.all (row.userId == ·)

def updateIntegrationConnectionSyncStatus (table : IntegrationConnectionTable)
    (userId : Option UserId) (providerKind : Option IntegrationProviderKind)
    (update : IntegrationConnectionSyncStatusUpdate) (windowInHours : Int) (now utcNow : DateTime) :
    IntegrationConnectionTable :=
  table.update (selectsConnection userId providerKind)
    (setSyncStatus windowInHours now utcNow · update) (setSyncStatus_id _ _ _ update)

def ownedBy (id : IntegrationConnectionId) (forUserId : UserId) (row : IntegrationConnectionRow) :
    Bool := row.id == id && row.userId == forUserId

def setStatus (newStatus : IntegrationConnectionStatus) (failureMessage : Option String)
    (registeredOauthScopes : Option (List String)) (row : IntegrationConnectionRow) :
    IntegrationConnectionRow :=
  { row with
    status := newStatus
    failureMessage
    registeredOauthScopes := registeredOauthScopes.getD row.registeredOauthScopes }

theorem setStatus_id (newStatus : IntegrationConnectionStatus) (failureMessage : Option String)
    (scopes : Option (List String)) (row : IntegrationConnectionRow) :
    (setStatus newStatus failureMessage scopes row).id = row.id := rfl

/-- The `UPDATE` of `update_integration_connection_status`; it too ignores the stored status. -/
def updateIntegrationConnectionStatus (table : IntegrationConnectionTable)
    (id : IntegrationConnectionId) (newStatus : IntegrationConnectionStatus)
    (failureMessage : Option String) (registeredOauthScopes : Option (List String))
    (forUserId : UserId) : IntegrationConnectionTable :=
  table.update (ownedBy id forUserId)
    (setStatus newStatus failureMessage registeredOauthScopes) (setStatus_id _ _ _)

/-- What is recorded about a connection, latest first: only the proofs read it. -/
inductive Event where
  | validated (instant : DateTime)
  | failed (type : IntegrationConnectionSyncType) (instant : DateTime)
  | succeeded (type : IntegrationConnectionSyncType)
deriving DecidableEq, Repr

/-- A sync that has claimed its start and not recorded its outcome. -/
structure RunningSync where
  type : IntegrationConnectionSyncType
  providerKind : IntegrationProviderKind
  userId : UserId
deriving DecidableEq, Repr

structure State where
  table : IntegrationConnectionTable
  clock : DateTime
  /-- Pending authorizations in Redis, by connection. -/
  oauthStates : List IntegrationConnectionId
  /-- Callbacks that have found their connection in `Created` and not written yet. -/
  callbacks : List (IntegrationConnectionId × UserId)
  syncs : List RunningSync
  /-- Stored credentials. -/
  credentials : List IntegrationConnectionId
  /-- Credentials locked by a token refresh (`FOR UPDATE OF oc SKIP LOCKED`). -/
  refreshing : List IntegrationConnectionId
  /-- Token reads that have found a validated connection with an expired token and no refresh
  token, and not written yet. -/
  tokenReads : List (IntegrationConnectionId × UserId)
  history : IntegrationConnectionId → List Event

inductive Input where
  | create (row : IntegrationConnectionRow)
  | startOauthAuthorization (id : IntegrationConnectionId) (userId : UserId)
  | readCallback (id : IntegrationConnectionId) (userId : UserId)
  | rejectCallback (id : IntegrationConnectionId)
  | writeCallback (id : IntegrationConnectionId) (userId : UserId) (scopes : List String)
      (instant : DateTime)
  | startSync (sync : RunningSync)
  | completeSync (sync : RunningSync) (startedAt instant : DateTime)
  | failSync (sync : RunningSync) (message : String) (startedAt instant : DateTime)
  | startRefresh (id : IntegrationConnectionId)
  | endRefresh (id : IntegrationConnectionId) (userId : UserId) (invalidGrant : Bool)
  | readToken (id : IntegrationConnectionId) (userId : UserId)
  | failToken (id : IntegrationConnectionId) (userId : UserId)
  | disconnect (id : IntegrationConnectionId) (userId : UserId)
deriving DecidableEq

def hasStatus (table : IntegrationConnectionTable) (id : IntegrationConnectionId)
    (status : IntegrationConnectionStatus) : Bool := (table.find? id).any (·.status == status)

def record (table : IntegrationConnectionTable) (p : IntegrationConnectionRow → Bool) (event : Event)
    (history : IntegrationConnectionId → List Event) : IntegrationConnectionId → List Event :=
  fun id => if (table.find? id).any p then event :: history id else history id

/-- A connection as `IntegrationConnection::new` makes it. -/
def IsNew (row : IntegrationConnectionRow) : Prop :=
  row.failureMessage = none ∧
    row.notificationsSync = ⟨none, none, none, none, none, 0, none⟩ ∧
    row.tasksSync = ⟨none, none, none, none, none, 0, none⟩

instance (row : IntegrationConnectionRow) : Decidable (IsNew row) :=
  inferInstanceAs (Decidable (_ ∧ _ ∧ _))

def step (windowInHours : Int) (s : State) : Input → Option State
  | .create row =>
    if IsNew row ∧ s.table.rows.all fun r =>
        !(r.userId == row.userId && r.providerKind == row.providerKind) then
      (s.table.insert? row).map fun table => { s with table }
    else none
  | .startOauthAuthorization id userId =>
    if (s.table.find? id).any fun row => row.userId == userId && row.status == .created then
      some { s with oauthStates := id :: s.oauthStates }
    else none
  | .readCallback id userId =>
    if id ∈ s.oauthStates ∧
        (s.table.find? id).any fun row => row.userId == userId && row.status == .created then
      some { s with oauthStates := s.oauthStates.erase id, callbacks := (id, userId) :: s.callbacks }
    else none
  | .rejectCallback id =>
    if id ∈ s.oauthStates then some { s with oauthStates := s.oauthStates.erase id } else none
  | .writeCallback id userId scopes instant =>
    if (id, userId) ∈ s.callbacks ∧ id ∉ s.refreshing ∧ s.clock ≤ instant then
      some { s with
        table := updateIntegrationConnectionStatus s.table id .validated none (some scopes) userId
        clock := instant
        callbacks := s.callbacks.erase (id, userId)
        credentials := id :: s.credentials.erase id
        history := record s.table (ownedBy id userId) (.validated instant) s.history }
    else none
  | .startSync sync =>
    if s.table.rows.any fun row =>
        selectsConnection (some sync.userId) (some sync.providerKind) row &&
          row.status == .validated then
      some { s with syncs := sync :: s.syncs }
    else none
  | .completeSync sync startedAt instant =>
    if sync ∈ s.syncs ∧ startedAt ≤ instant ∧ s.clock ≤ instant then
      some { s with
        table := updateIntegrationConnectionSyncStatus s.table (some sync.userId)
          (some sync.providerKind) (.completed sync.type) windowInHours startedAt instant
        clock := instant
        syncs := s.syncs.erase sync
        history := record s.table (selectsConnection (some sync.userId) (some sync.providerKind))
          (.succeeded sync.type) s.history }
    else none
  | .failSync sync message startedAt instant =>
    if sync ∈ s.syncs ∧ startedAt ≤ instant ∧ s.clock ≤ instant then
      some { s with
        table := updateIntegrationConnectionSyncStatus s.table (some sync.userId)
          (some sync.providerKind) (.failed sync.type message) windowInHours startedAt instant
        clock := instant
        syncs := s.syncs.erase sync
        history := record s.table (selectsConnection (some sync.userId) (some sync.providerKind))
          (.failed sync.type startedAt) s.history }
    else none
  | .startRefresh id =>
    if id ∈ s.credentials ∧ id ∉ s.refreshing ∧ hasStatus s.table id .validated then
      some { s with refreshing := id :: s.refreshing }
    else none
  | .endRefresh id userId invalidGrant =>
    if id ∈ s.refreshing then
      some { s with
        table :=
          if invalidGrant then
            updateIntegrationConnectionStatus s.table id .failing
              (some oauthInvalidGrantErrorMessage) none userId
          else s.table
        refreshing := s.refreshing.erase id }
    else none
  | .readToken id userId =>
    if id ∈ s.credentials ∧
        (s.table.find? id).any fun row => row.userId == userId && row.status == .validated then
      some { s with tokenReads := (id, userId) :: s.tokenReads }
    else none
  | .failToken id userId =>
    if (id, userId) ∈ s.tokenReads then
      some { s with
        table := updateIntegrationConnectionStatus s.table id .failing
          (some oauthMissingRefreshTokenErrorMessage) none userId
        tokenReads := s.tokenReads.erase (id, userId) }
    else none
  | .disconnect id userId =>
    if id ∉ s.refreshing ∧ (s.table.find? id).any (·.userId == userId) then
      some { s with
        table := updateIntegrationConnectionStatus s.table id .created none none userId
        credentials := s.credentials.erase id }
    else none

def initial (clock : DateTime) : State :=
  { table := Table.empty, clock, oauthStates := [], callbacks := [], syncs := [],
    credentials := [], refreshing := [], tokenReads := [], history := fun _ => [] }

inductive Actor where
  | user
  | oauthCallback
  | system
deriving DecidableEq, Repr

def actor : Input → Actor
  | .writeCallback _ _ _ _ => .oauthCallback
  | .disconnect _ _ => .user
  | _ => .system

/-- The status machine: what each actor may do to a status. -/
def Allowed (who : Actor) (old new : IntegrationConnectionStatus) : Prop :=
  old = new ∨ (who = .oauthCallback ∧ old = .created ∧ new = .validated) ∨
    (who = .system ∧ (old = .validated ∧ new = .failing ∨ old = .failing ∧ new = .validated)) ∨
    (who = .user ∧ new = .created)

instance (who : Actor) (old new : IntegrationConnectionStatus) : Decidable (Allowed who old new) :=
  inferInstanceAs (Decidable (_ ∨ _))

/-- Every connection present before and after a step made an allowed transition. -/
def TransitionsAllowed (s : State) (i : Input) (t : State) : Prop :=
  ∀ row ∈ s.table.rows, ∀ row' ∈ t.table.rows, row'.id = row.id →
    Allowed (actor i) row.status row'.status

instance (s : State) (i : Input) (t : State) : Decidable (TransitionsAllowed s i t) :=
  inferInstanceAs (Decidable (∀ _ ∈ _, _))

/-- What the unguarded statements need to find: a failure that exceeds its window, or a read
that finds no usable token, a connection that is not back in `Created`; a callback, one that
has not gone to `Failing` since it was read. -/
def StatusGuard (windowInHours : Int) (s : State) : Input → Prop
  | .failSync sync _ startedAt _ => ∀ row ∈ s.table.rows,
      selectsConnection (some sync.userId) (some sync.providerKind) row = true →
      exceedsFailureWindow windowInHours startedAt (row.sync sync.type).firstFailedAt = true →
      row.status ≠ .created
  | .failToken id userId => ∀ row ∈ s.table.rows, ownedBy id userId row = true →
      row.status ≠ .created
  | .writeCallback id userId _ _ => ∀ row ∈ s.table.rows, ownedBy id userId row = true →
      row.status ≠ .failing
  | _ => True

section StatusMachine
variable {windowInHours : Int} {s t : State} {i : Input}

theorem allowed_refl (who : Actor) (status : IntegrationConnectionStatus) :
    Allowed who status status := .inl rfl

theorem allowed_failing_iff {old : IntegrationConnectionStatus} :
    Allowed .system old .failing ↔ old ≠ .created := by cases old <;> decide

theorem allowed_validated_iff {old : IntegrationConnectionStatus} :
    Allowed .oauthCallback old .validated ↔ old ≠ .failing := by cases old <;> decide

theorem transitionsAllowed_of_table_eq (h : t.table = s.table) : TransitionsAllowed s i t := by
  intro row hrow row' hrow' hid
  rw [h] at hrow'
  rw [Table.eq_of_key hrow' hrow hid]
  exact allowed_refl _ _

/-- An `UPDATE` of the status of some connections, read row by row. -/
theorem transitionsAllowed_update {p : IntegrationConnectionRow → Bool}
    {f : IntegrationConnectionRow → IntegrationConnectionRow} (hf : ∀ r, (f r).id = r.id)
    (h : t.table = s.table.update p f hf) :
    TransitionsAllowed s i t ↔
      ∀ row ∈ s.table.rows, p row = true → Allowed (actor i) row.status (f row).status := by
  have hrows := Table.forall_update (t := s.table) (p := p) (e := hf)
    (R := fun row row' => Allowed (actor i) row.status row'.status)
  unfold TransitionsAllowed
  rw [h, hrows]
  apply forall₂_congr
  intro row _
  cases hp : p row with
  | false => simp [allowed_refl]
  | true => simp

theorem transitionsAllowed_updateStatus {id : IntegrationConnectionId} {userId : UserId}
    {new : IntegrationConnectionStatus} {message : Option String} {scopes : Option (List String)}
    (h : t.table = updateIntegrationConnectionStatus s.table id new message scopes userId) :
    TransitionsAllowed s i t ↔
      ∀ row ∈ s.table.rows, ownedBy id userId row = true → Allowed (actor i) row.status new :=
  transitionsAllowed_update (setStatus_id new message scopes) h

theorem transitionsAllowed_updateSyncStatus {sync : RunningSync}
    {update : IntegrationConnectionSyncStatusUpdate} {now utcNow : DateTime}
    (h : t.table = updateIntegrationConnectionSyncStatus s.table (some sync.userId)
      (some sync.providerKind) update windowInHours now utcNow) :
    TransitionsAllowed s i t ↔
      ∀ row ∈ s.table.rows,
        selectsConnection (some sync.userId) (some sync.providerKind) row = true →
        Allowed (actor i) row.status (setSyncStatus windowInHours now utcNow row update).status :=
  transitionsAllowed_update (setSyncStatus_id windowInHours now utcNow update) h

/-- What a step can do to what the results below read; the other components only decide
which steps come next. -/
inductive Effect (windowInHours : Int) (s t : State) : Input → Prop
  | created {row} : IsNew row → s.table.insert? row = some t.table →
      t.refreshing = s.refreshing → t.clock = s.clock → t.history = s.history →
      Effect windowInHours s t (.create row)
  | quiet {input} : t.table = s.table →
      (∀ id ∈ t.refreshing, id ∈ s.refreshing ∨ hasStatus s.table id .validated = true) →
      t.clock = s.clock → t.history = s.history → StatusGuard windowInHours s input →
      Effect windowInHours s t input
  | validated {id userId scopes instant} :
      t.table = updateIntegrationConnectionStatus s.table id .validated none (some scopes) userId →
      t.refreshing = s.refreshing → s.clock ≤ instant → t.clock = instant →
      t.history = record s.table (ownedBy id userId) (.validated instant) s.history →
      Effect windowInHours s t (.writeCallback id userId scopes instant)
  | completed {sync startedAt instant} :
      t.table = updateIntegrationConnectionSyncStatus s.table (some sync.userId)
        (some sync.providerKind) (.completed sync.type) windowInHours startedAt instant →
      t.refreshing = s.refreshing → s.clock ≤ instant → t.clock = instant →
      t.history = record s.table
        (selectsConnection (some sync.userId) (some sync.providerKind)) (.succeeded sync.type)
        s.history →
      Effect windowInHours s t (.completeSync sync startedAt instant)
  | failed {sync message startedAt instant} :
      t.table = updateIntegrationConnectionSyncStatus s.table (some sync.userId)
        (some sync.providerKind) (.failed sync.type message) windowInHours startedAt instant →
      t.refreshing = s.refreshing → s.clock ≤ instant → t.clock = instant → startedAt ≤ instant →
      t.history = record s.table
        (selectsConnection (some sync.userId) (some sync.providerKind))
        (.failed sync.type startedAt) s.history →
      Effect windowInHours s t (.failSync sync message startedAt instant)
  | invalidGrant {id userId} : id ∈ s.refreshing →
      t.table = updateIntegrationConnectionStatus s.table id .failing
        (some oauthInvalidGrantErrorMessage) none userId →
      t.refreshing = s.refreshing.erase id → t.clock = s.clock → t.history = s.history →
      Effect windowInHours s t (.endRefresh id userId true)
  | tokenFailed {id userId} :
      t.table = updateIntegrationConnectionStatus s.table id .failing
        (some oauthMissingRefreshTokenErrorMessage) none userId →
      t.refreshing = s.refreshing → t.clock = s.clock → t.history = s.history →
      Effect windowInHours s t (.failToken id userId)
  | disconnected {id userId} : id ∉ s.refreshing →
      t.table = updateIntegrationConnectionStatus s.table id .created none none userId →
      t.refreshing = s.refreshing → t.clock = s.clock → t.history = s.history →
      Effect windowInHours s t (.disconnect id userId)

theorem step_effect (hstep : step windowInHours s i = some t) : Effect windowInHours s t i := by
  cases i with
  | create row =>
    simp only [step, Option.ite_none_right_eq_some, Option.map_eq_some_iff] at hstep
    obtain ⟨⟨hnew, -⟩, table, hinsert, rfl⟩ := hstep
    exact .created hnew hinsert rfl rfl rfl
  | writeCallback id userId scopes instant =>
    simp only [step, Option.ite_none_right_eq_some, Option.some.injEq] at hstep
    obtain ⟨⟨-, -, hclock⟩, rfl⟩ := hstep
    exact .validated rfl rfl hclock rfl rfl
  | completeSync sync startedAt instant =>
    simp only [step, Option.ite_none_right_eq_some, Option.some.injEq] at hstep
    obtain ⟨⟨-, -, hclock⟩, rfl⟩ := hstep
    exact .completed rfl rfl hclock rfl rfl
  | failSync sync message startedAt instant =>
    simp only [step, Option.ite_none_right_eq_some, Option.some.injEq] at hstep
    obtain ⟨⟨-, hstarted, hclock⟩, rfl⟩ := hstep
    exact .failed rfl rfl hclock rfl hstarted rfl
  | startRefresh id =>
    simp only [step, Option.ite_none_right_eq_some, Option.some.injEq] at hstep
    obtain ⟨⟨-, -, hvalidated⟩, rfl⟩ := hstep
    refine .quiet rfl (fun id' hid' => ?_) rfl rfl trivial
    rcases List.mem_cons.mp hid' with rfl | hid'
    · exact .inr hvalidated
    · exact .inl hid'
  | endRefresh id userId invalidGrant =>
    simp only [step, Option.ite_none_right_eq_some, Option.some.injEq] at hstep
    obtain ⟨hid, rfl⟩ := hstep
    cases invalidGrant with
    | false => exact .quiet rfl (fun _ hid' => .inl (List.mem_of_mem_erase hid')) rfl rfl trivial
    | true => exact .invalidGrant hid rfl rfl rfl rfl
  | failToken id userId =>
    simp only [step, Option.ite_none_right_eq_some, Option.some.injEq] at hstep
    obtain ⟨-, rfl⟩ := hstep
    exact .tokenFailed rfl rfl rfl rfl
  | disconnect id userId =>
    simp only [step, Option.ite_none_right_eq_some, Option.some.injEq] at hstep
    obtain ⟨⟨hfree, -⟩, rfl⟩ := hstep
    exact .disconnected hfree rfl rfl rfl rfl
  | startOauthAuthorization _ _ | readCallback _ _ | rejectCallback _ | startSync _
  | readToken _ _ =>
    simp only [step, Option.ite_none_right_eq_some, Option.some.injEq] at hstep
    obtain ⟨-, rfl⟩ := hstep
    exact .quiet rfl (fun _ hid => .inl hid) rfl rfl trivial

/-- A credential under refresh belongs to a connection nobody can disconnect meanwhile. -/
def RefreshingConnected (s : State) : Prop :=
  ∀ id ∈ s.refreshing, ∃ row, s.table.find? id = some row ∧ row.status ≠ .created

theorem setSyncStatus_status {now utcNow : DateTime} {row : IntegrationConnectionRow}
    {update : IntegrationConnectionSyncStatusUpdate} (h : row.status ≠ .created) :
    (setSyncStatus windowInHours now utcNow row update).status ≠ .created := by
  cases update with
  | scheduled type => simpa [setSyncStatus] using h
  | completed type => simpa [setSyncStatus] using h
  | failed type message =>
    simp only [setSyncStatus]
    split
    · decide
    · exact h

theorem refreshingConnected_update {p : IntegrationConnectionRow → Bool}
    {f : IntegrationConnectionRow → IntegrationConnectionRow} (hf : ∀ r, (f r).id = r.id)
    (h : RefreshingConnected s) (htable : t.table = s.table.update p f hf)
    (hsub : ∀ id ∈ t.refreshing, id ∈ s.refreshing)
    (hstatus : ∀ row, row.id ∈ t.refreshing → row.status ≠ .created → p row = true →
      (f row).status ≠ .created) : RefreshingConnected t := by
  intro id hid
  obtain ⟨row, hrow, hne⟩ := h id (hsub id hid)
  refine ⟨if p row then f row else row, by rw [htable, Table.find?_update, hrow]; rfl, ?_⟩
  by_cases hp : p row = true
  · rw [if_pos hp]
    have hrowid := (Table.find?_eq_some.mp hrow).2
    exact hstatus row (hrowid ▸ hid) hne hp
  · rw [if_neg hp]
    exact hne

theorem refreshingConnected_step (h : RefreshingConnected s) (hstep : step windowInHours s i = some t) :
    RefreshingConnected t := by
  cases step_effect hstep with
  | created _ hinsert hrefreshing =>
    intro id hid
    rw [hrefreshing] at hid
    obtain ⟨row, hrow, hne⟩ := h id hid
    exact ⟨row, Table.find?_of_insert hinsert hrow, hne⟩
  | quiet htable hrefreshing =>
    intro id hid
    rw [htable]
    rcases hrefreshing id hid with hold | hvalidated
    · exact h id hold
    · obtain ⟨row, hrow, hstatus⟩ := (Option.any_eq_true _ _).mp hvalidated
      exact ⟨row, hrow, by rw [beq_iff_eq.mp hstatus]; decide⟩
  | validated htable hrefreshing =>
    exact refreshingConnected_update (setStatus_id _ _ _) h htable
      (fun _ hid => hrefreshing ▸ hid) fun _ _ _ _ => by simp [setStatus]
  | completed htable hrefreshing =>
    exact refreshingConnected_update (setSyncStatus_id _ _ _ _) h htable
      (fun _ hid => hrefreshing ▸ hid) fun _ _ hne _ => setSyncStatus_status hne
  | failed htable hrefreshing =>
    exact refreshingConnected_update (setSyncStatus_id _ _ _ _) h htable
      (fun _ hid => hrefreshing ▸ hid) fun _ _ hne _ => setSyncStatus_status hne
  | invalidGrant _ htable hrefreshing =>
    exact refreshingConnected_update (setStatus_id _ _ _) h htable
      (fun _ hid => List.mem_of_mem_erase (hrefreshing ▸ hid)) fun _ _ _ _ => by simp [setStatus]
  | tokenFailed htable hrefreshing =>
    exact refreshingConnected_update (setStatus_id _ _ _) h htable
      (fun _ hid => hrefreshing ▸ hid) fun _ _ _ _ => by simp [setStatus]
  | disconnected hfree htable hrefreshing =>
    refine refreshingConnected_update (setStatus_id _ _ _) h htable
      (fun _ hid => hrefreshing ▸ hid) fun row hid _ hp => ?_
    simp only [ownedBy, Bool.and_eq_true, beq_iff_eq] at hp
    exact absurd (hp.1 ▸ hrefreshing ▸ hid) hfree

theorem failed_allowed_iff {now utcNow : DateTime} {row : IntegrationConnectionRow}
    {type : IntegrationConnectionSyncType} {message : String} :
    Allowed .system row.status
        (setSyncStatus windowInHours now utcNow row (.failed type message)).status ↔
      (exceedsFailureWindow windowInHours now (row.sync type).firstFailedAt = true →
        row.status ≠ .created) := by
  cases h : exceedsFailureWindow windowInHours now (row.sync type).firstFailedAt with
  | false => simp [setSyncStatus, h, allowed_refl]
  | true => simpa [setSyncStatus, h] using allowed_failing_iff

/-- One step: every connection makes an allowed transition exactly when the statement finds
what its guard asks for. -/
theorem transitionsAllowed_iff (h : RefreshingConnected s) (hstep : step windowInHours s i = some t) :
    TransitionsAllowed s i t ↔ StatusGuard windowInHours s i := by
  cases step_effect hstep with
  | @created row _ hinsert _ =>
    refine iff_of_true ?_ trivial
    intro old hold new hnew hid
    have hfound := Table.find?_of_insert hinsert (Table.find?_eq_some.mpr ⟨hold, rfl⟩)
    rw [Table.eq_of_key hnew (Table.find?_eq_some.mp hfound).1 hid]
    exact allowed_refl _ _
  | quiet htable _ _ _ hguard => exact iff_of_true (transitionsAllowed_of_table_eq htable) hguard
  | validated htable =>
    rw [transitionsAllowed_updateStatus htable]
    exact forall₃_congr fun _ _ _ => allowed_validated_iff
  | completed htable =>
    rw [transitionsAllowed_updateSyncStatus htable]
    exact iff_of_true (fun row _ _ => by simpa [setSyncStatus] using allowed_refl _ _) trivial
  | failed htable =>
    rw [transitionsAllowed_updateSyncStatus htable]
    exact forall₃_congr fun _ _ _ => failed_allowed_iff
  | @invalidGrant id userId hrefreshing htable _ =>
    rw [transitionsAllowed_updateStatus htable]
    refine iff_of_true (fun row hrow hp => allowed_failing_iff.mpr ?_) trivial
    obtain ⟨locked, hlocked, hne⟩ := h id hrefreshing
    simp only [ownedBy, Bool.and_eq_true, beq_iff_eq] at hp
    have hfind := Table.find?_eq_some.mpr ⟨hrow, hp.1⟩
    rw [hlocked] at hfind
    exact Option.some.inj hfind ▸ hne
  | tokenFailed htable =>
    rw [transitionsAllowed_updateStatus htable]
    exact forall₃_congr fun _ _ _ => allowed_failing_iff
  | disconnected _ htable =>
    rw [transitionsAllowed_updateStatus htable]
    exact iff_of_true (fun row _ _ => .inr (.inr (.inr ⟨rfl, rfl⟩))) trivial

end StatusMachine

/-- From no connection at all, a run keeps to the status machine exactly when each of its
writers finds what its guard asks for. No guard concerns token refreshes: the credential they
lock keeps the user's disconnect out. -/
theorem status_machine_iff (windowInHours : Int) (clock : DateTime) (inputs : List Input) :
    Along (step windowInHours) TransitionsAllowed (initial clock) inputs ↔
      Along (step windowInHours) (fun s i _ => StatusGuard windowInHours s i) (initial clock)
        inputs :=
  along_iff_of_invariant (I := RefreshingConnected)
    (fun _ _ _ h hstep => refreshingConnected_step h hstep)
    (fun _ _ _ h hstep => transitionsAllowed_iff h hstep)
    (fun _ hid => nomatch hid)

def githubConnection : IntegrationConnectionRow :=
  { id := ⟨1⟩, userId := ⟨1⟩, providerKind := .github, providerUserId := none, status := .created,
    failureMessage := none, notificationsSync := ⟨none, none, none, none, none, 0, none⟩,
    tasksSync := ⟨none, none, none, none, none, 0, none⟩, config := .github true,
    registeredOauthScopes := [] }

def githubSync : RunningSync :=
  { type := .notifications, providerKind := .github, userId := ⟨1⟩ }

/-- A sync that began before the user disconnected fails after it, a day after the first
failure. -/
def lateFailure : List Input :=
  [.create githubConnection, .startOauthAuthorization ⟨1⟩ ⟨1⟩, .readCallback ⟨1⟩ ⟨1⟩,
    .writeCallback ⟨1⟩ ⟨1⟩ [] 0, .startSync githubSync, .failSync githubSync "" 1 1,
    .startSync githubSync, .disconnect ⟨1⟩ ⟨1⟩, .failSync githubSync "" (hours 25) (hours 25)]

theorem lateFailure_leaves_created :
    Possible (step 24) (initial 0) lateFailure ∧
      ¬ Along (step 24) TransitionsAllowed (initial 0) lateFailure := by
  decide

end UniversalInbox.ConnectionStatus
