import UniversalInbox.Database
import UniversalInbox.Library.ReadCommitted
import UniversalInbox.Library.Transition

/-! Syncs of what a provider has in full, among other transactions. The items are fetched first and
stored one after the other; the tasks or notifications of the kind whose items were not fetched are
then taken for stale and retired. -/
namespace UniversalInbox.StalePass
open ReadCommitted Transition

inductive ThirdPartyItemSourceKind where
  | todoist
  | tickTick
  | slackReaction
  | slackThread
  | linearIssue
  | linearNotification
  | githubNotification
  | googleMailThread
  | googleCalendarEvent
  | googleDriveComment
  | webPage
deriving DecidableEq, Repr

/-- `TaskSourceKind::try_from`. -/
def taskSourceKind : ThirdPartyItemSourceKind → Option TaskSourceKind
  | .todoist => some .todoist
  | .tickTick => some .tickTick
  | .linearIssue => some .linear
  | .slackReaction => some .slack
  | _ => none

/-- `NotificationSourceKind::try_from`. -/
def notificationSourceKind : ThirdPartyItemSourceKind → Option NotificationSourceKind
  | .todoist => some .todoist
  | .tickTick => some .tickTick
  | .githubNotification => some .github
  | .linearNotification => some .linear
  | .googleMailThread => some .googleMail
  | .googleDriveComment => some .googleDrive
  | .slackReaction | .slackThread => some .slack
  | .webPage => some .api
  | .linearIssue | .googleCalendarEvent => none

/-- The services that fetch items; Linear is one for its tasks and one for its notifications. -/
inductive ThirdPartyItemSourceService where
  | todoist
  | tickTick
  | slack
  | linearTasks
  | linearNotifications
  | github
  | googleMail
  | googleDrive
  | api
deriving DecidableEq, Repr

namespace ThirdPartyItemSourceService

def getThirdPartyItemSourceKind : ThirdPartyItemSourceService → ThirdPartyItemSourceKind
  | .todoist => .todoist
  | .tickTick => .tickTick
  | .slack => .slackThread
  | .linearTasks => .linearIssue
  | .linearNotifications => .linearNotification
  | .github => .githubNotification
  | .googleMail => .googleMailThread
  | .googleDrive => .googleDriveComment
  | .api => .webPage

def isSyncIncremental : ThirdPartyItemSourceService → Bool
  | .todoist | .slack | .googleDrive => true
  | .tickTick | .linearTasks | .linearNotifications | .github | .googleMail | .api => false

/-- The kinds of the items it fetches; a mail with an invitation is fetched as an event, and
nothing is fetched from the API. -/
def fetches : ThirdPartyItemSourceService → ThirdPartyItemKind → Bool
  | .todoist, kind => kind == .todoistItem
  | .tickTick, kind => kind == .tickTickItem
  | .slack, kind => kind == .slackThread
  | .linearTasks, kind => kind == .linearIssue
  | .linearNotifications, kind => kind == .linearNotification
  | .github, kind => kind == .githubNotification
  | .googleMail, kind => kind == .googleMailThread || kind == .googleCalendarEvent
  | .googleDrive, kind => kind == .googleDriveComment
  | .api, _ => false

end ThirdPartyItemSourceService

/-- What identifies an item at its provider. -/
structure Source where
  sourceId : String
  kind : ThirdPartyItemKind
  integrationConnectionId : IntegrationConnectionId
deriving DecidableEq, Repr

def source (row : ThirdPartyItemRow) : Source :=
  ⟨row.sourceId, row.data.kind, row.integrationConnectionId⟩

/-- A row of one of the three tables. -/
inductive Row where
  | thirdPartyItem (row : ThirdPartyItemRow)
  | task (row : TaskRow)
  | notification (row : NotificationRow)
deriving DecidableEq

/-- Primary keys. -/
inductive RowId where
  | thirdPartyItem (id : ThirdPartyItemId)
  | task (id : TaskId)
  | notification (id : NotificationId)
deriving DecidableEq

/-- Unique constraints: an item is stored once, and has one task. -/
inductive RowKey where
  | thirdPartyItem (source : Source)
  | task (sourceItemId : ThirdPartyItemId)
  | notification (id : NotificationId)
deriving DecidableEq

namespace Row

def id : Row → RowId
  | .thirdPartyItem row => .thirdPartyItem row.id
  | .task row => .task row.id
  | .notification row => .notification row.id

def key : Row → RowKey
  | .thirdPartyItem row => .thirdPartyItem (source row)
  | .task row => .task row.sourceItemId
  | .notification row => .notification row.id

def sourceItemId : Row → Option ThirdPartyItemId
  | .thirdPartyItem _ => none
  | .task row => some row.sourceItemId
  | .notification row => some row.sourceItemId

/-- What no statement writes again: all but the status of a task or notification. -/
def frame : Row → Row
  | .thirdPartyItem row => .thirdPartyItem row
  | .task row => .task { row with status := .active }
  | .notification row => .notification { row with status := .unread }

def isRetired : Row → Bool
  | .thirdPartyItem _ => false
  | .task row => row.status != .active
  | .notification row => row.status == .deleted

def item? : Row → Option ThirdPartyItemRow
  | .thirdPartyItem row => some row
  | _ => none

def task? : Row → Option TaskRow
  | .task row => some row
  | _ => none

def notification? : Row → Option NotificationRow
  | .notification row => some row
  | _ => none

def setTaskStatus (status : TaskStatus) : Row → Row
  | .task row => .task { row with status }
  | row => row

def setNotificationStatus (status : NotificationStatus) : Row → Row
  | .notification row => .notification { row with status }
  | row => row

@[simp] theorem id_frame (r : Row) : r.frame.id = r.id := by cases r <;> rfl

@[simp] theorem key_frame (r : Row) : r.frame.key = r.key := by cases r <;> rfl

@[simp] theorem sourceItemId_frame (r : Row) : r.frame.sourceItemId = r.sourceItemId := by
  cases r <;> rfl

@[simp] theorem frame_setTaskStatus (status : TaskStatus) (r : Row) :
    (r.setTaskStatus status).frame = r.frame := by cases r <;> rfl

@[simp] theorem frame_setNotificationStatus (status : NotificationStatus) (r : Row) :
    (r.setNotificationStatus status).frame = r.frame := by cases r <;> rfl

theorem frame_eq_thirdPartyItem {r : Row} {row : ThirdPartyItemRow} :
    r.frame = .thirdPartyItem row ↔ r = .thirdPartyItem row := by
  cases r <;> simp [frame]

end Row

def items (rows : List Row) : List ThirdPartyItemRow := rows.filterMap Row.item?
def tasks (rows : List Row) : List TaskRow := rows.filterMap Row.task?
def notifications (rows : List Row) : List NotificationRow := rows.filterMap Row.notification?

/-- An item that is stored is updated: nothing that is read here changes. -/
def createOrUpdateThirdPartyItem (rows : List Row) (row : ThirdPartyItemRow) :
    Option (Write Row) × ThirdPartyItemId :=
  match (items rows).find? fun r => source r == source row && r.userId == row.userId with
  | some existing => (none, existing.id)
  | none => (some (.insert (.thirdPartyItem row)), row.id)

def getStaleTaskSourceThirdPartyItems (rows : List Row)
    (activeTaskSourceThirdPartyItemIds : List ThirdPartyItemId) (taskSourceKind : TaskSourceKind)
    (userId : UserId) : List ThirdPartyItemId :=
  ((items rows).filter fun item =>
    !activeTaskSourceThirdPartyItemIds.contains item.id &&
      ((tasks rows).any fun task =>
        task.sourceItemId == item.id && task.kind == taskSourceKind && task.status == .active) &&
      item.userId == userId).map (·.id)

def isReadOrUnread (status : NotificationStatus) : Bool := status == .read || status == .unread

def isStaleNotification (activeSourceThirdPartyItemIds : List ThirdPartyItemId)
    (kind : NotificationSourceKind) (userId : UserId) (row : NotificationRow) : Bool :=
  !activeSourceThirdPartyItemIds.contains row.sourceItemId && row.kind == kind &&
    isReadOrUnread row.status && row.userId == userId

/-- The notifications that `update_stale_notifications_status_from_source_ids` updates. -/
def staleNotifications (rows : List Row) (activeSourceThirdPartyItemIds : List ThirdPartyItemId)
    (kind : NotificationSourceKind) (userId : UserId) : List NotificationId :=
  ((notifications rows).filter fun row =>
    ((items rows).any fun sourceItem => row.sourceItemId == sourceItem.id) &&
      isStaleNotification activeSourceThirdPartyItemIds kind userId row).map (·.id)

/-- Where a sync is: items left to store; stale items left to mark as done, and those marked;
stale notifications left to delete; marked items left to convert. -/
inductive Phase where
  | upserting (rest : List Source) (upserted : List ThirdPartyItemId)
  | marking (stale marked : List ThirdPartyItemId)
  | deleting (stale : List NotificationId)
  | converting (marked : List ThirdPartyItemId)

/-- A sync under way; `before` names the rows that were committed when the provider was asked. -/
structure SyncJob where
  service : ThirdPartyItemSourceService
  userId : UserId
  integrationConnectionId : IntegrationConnectionId
  fetched : List Source
  before : List RowId
  phase : Phase

abbrev TransactionId := Nat

/-- The transaction of a sync, or of a request. -/
abbrev Session := ReadCommitted.Session TransactionId Row (Option SyncJob)

/-- `upstream` is what the providers have. -/
structure State where
  store : Store TransactionId Row (Option SyncJob)
  upstream : List Source

/-- Providers gain and lose items. Any transaction may store an item, create a task or a
notification of a stored item and change the status of one, a sync when it converts what it has
stored; the others are the steps of a sync. A transaction may end at any point. -/
inductive Input where
  | appear (source : Source)
  | disappear (source : Source)
  | begin (id : TransactionId)
  | upsertItem (id : TransactionId) (row : ThirdPartyItemRow)
  | createTask (id : TransactionId) (row : TaskRow)
  | createNotification (id : TransactionId) (row : NotificationRow)
  | patchTask (id : TransactionId) (taskId : TaskId) (status : TaskStatus)
  | patchNotification (id : TransactionId) (notificationId : NotificationId)
      (status : NotificationStatus)
  | fetch (id : TransactionId) (service : ThirdPartyItemSourceService) (userId : UserId)
      (integrationConnectionId : IntegrationConnectionId)
  | upsertFetched (id : TransactionId) (row : ThirdPartyItemRow)
  | findStale (id : TransactionId)
  | markAsDone (id : TransactionId)
  | deleteStale (id : TransactionId)
  | convertMarked (id : TransactionId)
  | commit (id : TransactionId)
  | rollback (id : TransactionId)

/-- The transaction may create tasks and notifications. -/
def isConverting (session : Session) : Bool :=
  session.memory.all fun job => match job.phase with
    | .converting _ => true
    | _ => false

/-- An insert waits for, or is refused by, a row with its primary key or its unique key; an update
waits for the other transactions that have written its row. -/
def executable (s : State) (id : TransactionId) : Option (Write Row) → Bool
  | none => true
  | some (.insert row) => !(s.store.claimedKeys Row.id).contains row.id &&
      !(s.store.claimedKeys Row.key).contains row.key
  | some (.update p f) => !s.store.blocked id (.update p f)

def execute (s : State) (session : Session) (write : Option (Write Row))
    (memory : Option SyncJob) : Option State :=
  if executable s session.id write then
    some { s with store := s.store.run session.id write memory }
  else none

/-- The query for what is stale, of a sync that has stored `upserted`. -/
def findStale (rows : List Row) (job : SyncJob) (upserted : List ThirdPartyItemId) :
    Option Phase :=
  if job.service.isSyncIncremental then some (.converting [])
  else match taskSourceKind job.service.getThirdPartyItemSourceKind with
    | some kind =>
      some (.marking (getStaleTaskSourceThirdPartyItems rows upserted kind job.userId) [])
    | none =>
      (notificationSourceKind job.service.getThirdPartyItemSourceKind).map fun kind =>
        .deleting (staleNotifications rows upserted kind job.userId)

/-- The `UPDATE` looks again at a row it has waited for. -/
def deleteNotification (rows : List Row) (id : NotificationId) : Option (Write Row) :=
  if (notifications rows).any fun row => row.id == id && isReadOrUnread row.status then
    some (.update (fun r => decide (r.id = .notification id)) (Row.setNotificationStatus .deleted))
  else none

/-- A marked item is converted to a task that is done. -/
def completeTask (id : ThirdPartyItemId) : Write Row :=
  .update (fun r => decide (r.key = .task id)) (Row.setTaskStatus .done)

def stepSession (s : State) (session : Session) : Input → Option State
  | .upsertItem _ row =>
    execute s session (createOrUpdateThirdPartyItem (s.store.visible session) row).1 session.memory
  | .createTask _ row =>
    if isConverting session &&
        ((items (s.store.visible session)).any fun item => item.id == row.sourceItemId) then
      execute s session (some (.insert (.task row))) session.memory
    else none
  | .createNotification _ row =>
    if isConverting session &&
        ((items (s.store.visible session)).any fun item => item.id == row.sourceItemId) then
      execute s session (some (.insert (.notification row))) session.memory
    else none
  | .patchTask _ taskId status =>
    if isConverting session then
      execute s session (some (.update (fun r => decide (r.id = .task taskId))
        (Row.setTaskStatus status))) session.memory
    else none
  | .patchNotification _ notificationId status =>
    if isConverting session then
      execute s session (some (.update (fun r => decide (r.id = .notification notificationId))
        (Row.setNotificationStatus status))) session.memory
    else none
  | .upsertFetched _ row =>
    session.memory.bind fun job =>
      match job.phase with
      | .upserting (fetched :: rest) upserted =>
        if source row = fetched ∧ row.userId = job.userId then
          let (write, id) := createOrUpdateThirdPartyItem (s.store.visible session) row
          execute s session write (some { job with phase := .upserting rest (upserted ++ [id]) })
        else none
      | _ => none
  | .findStale _ =>
    session.memory.bind fun job =>
      match job.phase with
      | .upserting [] upserted =>
        (findStale (s.store.visible session) job upserted).bind fun phase =>
          execute s session none (some { job with phase })
      | _ => none
  | .markAsDone _ =>
    session.memory.bind fun job =>
      match job.phase with
      | .marking (item :: stale) marked =>
        execute s session none (some { job with phase := .marking stale (marked ++ [item]) })
      | .marking [] marked => execute s session none (some { job with phase := .converting marked })
      | _ => none
  | .deleteStale _ =>
    session.memory.bind fun job =>
      match job.phase with
      | .deleting (id :: stale) =>
        execute s session (deleteNotification (s.store.visible session) id)
          (some { job with phase := .deleting stale })
      | .deleting [] => execute s session none (some { job with phase := .converting [] })
      | _ => none
  | .convertMarked _ =>
    session.memory.bind fun job =>
      match job.phase with
      | .converting (item :: marked) =>
        execute s session (some (completeTask item)) (some { job with phase := .converting marked })
      | _ => none
  | .commit _ => some { s with store := s.store.commit session }
  | .rollback id => some { s with store := s.store.rollback id }
  | .appear _ | .disappear _ | .begin _ | .fetch _ _ _ _ => none

def Input.session? : Input → Option TransactionId
  | .upsertItem id _ | .createTask id _ | .createNotification id _ | .patchTask id _ _
  | .patchNotification id _ _ | .upsertFetched id _ | .findStale id | .markAsDone id
  | .deleteStale id | .convertMarked id | .commit id | .rollback id => some id
  | .appear _ | .disappear _ | .begin _ | .fetch _ _ _ _ => none

def step (s : State) (i : Input) : Option State :=
  match i with
  | .appear source => some { s with upstream := source :: s.upstream }
  | .disappear source => some { s with upstream := s.upstream.filter (· ≠ source) }
  | .begin id => (s.store.begin id none).map fun store => { s with store }
  | .fetch id service userId integrationConnectionId =>
    let fetched := s.upstream.filter fun source =>
      service.fetches source.kind && source.integrationConnectionId == integrationConnectionId
    (s.store.begin id (some
      { service
        userId
        integrationConnectionId
        fetched
        before := s.store.committed.map Row.id
        phase := .upserting fetched [] })).map fun store => { s with store }
  | i => (i.session?.bind s.store.sessions.find?).bind fun session => stepSession s session i

/-- The steps that retire what the stale pass has found. -/
def Input.retiring : Input → Option TransactionId
  | .deleteStale id | .convertMarked id => some id
  | _ => none

def StillUpstream (s : State) (rows : List Row) (r : Row) : Prop :=
  ∃ item ∈ items rows, r.sourceItemId = some item.id ∧ source item ∈ s.upstream

instance (s : State) (rows : List Row) (r : Row) : Decidable (StillUpstream s rows r) :=
  inferInstanceAs (Decidable (∃ _ ∈ _, _))

/-- No row that goes from `rows` to `rows'` retired is newer than the fetch and still upstream. -/
def SparesNewRows (s : State) (job : SyncJob) (rows rows' : List Row) : Prop :=
  ∀ r ∈ rows, ∀ r' ∈ rows', r'.id = r.id → r.isRetired = false → r'.isRetired = true →
    r.id ∉ job.before → ¬ StillUpstream s rows r

instance (s : State) (job : SyncJob) (rows rows' : List Row) :
    Decidable (SparesNewRows s job rows rows') :=
  inferInstanceAs (Decidable (∀ _ ∈ _, ∀ _ ∈ _, _))

/-- No task or notification that the stale pass retires was created after the provider was asked
and is still there. -/
def SparesNew (s : State) (i : Input) (t : State) : Prop :=
  ∀ id ∈ i.retiring, ∀ session ∈ s.store.sessions.find? id, ∀ job ∈ session.memory,
    ∀ session' ∈ t.store.sessions.find? id,
      SparesNewRows s job (s.store.visible session) (t.store.visible session')

instance (s : State) (i : Input) (t : State) : Decidable (SparesNew s i t) :=
  inferInstanceAs (Decidable (∀ _ ∈ _, ∀ _ ∈ _, ∀ _ ∈ _, ∀ _ ∈ _, _))

namespace SyncJob

/-- The row, a task or notification of the item, is one that the stale pass looks for. -/
def looksFor (job : SyncJob) (item : ThirdPartyItemRow) : Row → Bool
  | .thirdPartyItem _ => false
  | .task row =>
    taskSourceKind job.service.getThirdPartyItemSourceKind == some row.kind &&
      item.userId == job.userId
  | .notification row =>
    taskSourceKind job.service.getThirdPartyItemSourceKind == none &&
      notificationSourceKind job.service.getThirdPartyItemSourceKind == some row.kind &&
      row.userId == job.userId

/-- The provider has been asked, and what is stale is yet to be found. -/
def isFetching (job : SyncJob) : Bool :=
  !job.service.isSyncIncremental && match job.phase with
    | .upserting _ _ => true
    | _ => false

@[simp] theorem looksFor_frame (job : SyncJob) (item : ThirdPartyItemRow) (r : Row) :
    job.looksFor item r.frame = job.looksFor item r := by cases r <;> rfl

end SyncJob

/-- Of the rows the stale pass looks for, the new ones are of items the sync has fetched. -/
def FetchedNewRows (committed rows : List Row) (job : SyncJob) : Prop :=
  ∀ r ∈ rows, r.id ∉ committed.map Row.id → ∀ item ∈ items rows, r.sourceItemId = some item.id →
    job.looksFor item r = true → source item ∈ job.fetched

instance (committed rows : List Row) (job : SyncJob) :
    Decidable (FetchedNewRows committed rows job) :=
  inferInstanceAs (Decidable (∀ _ ∈ _, _ → ∀ _ ∈ _, _))

/-- While a sync is between its fetch and its stale pass, no other transaction commits a new task
or notification of the kind and user whose item the sync has not fetched. -/
def SnapshotGuard (s : State) : Input → Prop
  | .commit id => ∀ session ∈ s.store.sessions.find? id, ∀ other ∈ s.store.sessions.rows,
      other.id ≠ id → ∀ job ∈ other.memory, job.isFetching = true →
        FetchedNewRows s.store.committed (s.store.visible session) job
  | _ => True

instance (s : State) : ∀ i, Decidable (SnapshotGuard s i)
  | .commit _ => inferInstanceAs (Decidable (∀ _ ∈ _, ∀ _ ∈ _, _ → ∀ _ ∈ _, _ → _))
  | .appear _ | .disappear _ | .begin _ | .upsertItem _ _ | .createTask _ _
  | .createNotification _ _ | .patchTask _ _ _ | .patchNotification _ _ _ | .fetch _ _ _ _
  | .upsertFetched _ _ | .findStale _ | .markAsDone _ | .deleteStale _ | .convertMarked _
  | .rollback _ => .isTrue trivial

/-- The item of the row is stored. -/
def Stored (rows : List Row) (r : Row) : Prop :=
  ∀ id ∈ r.sourceItemId, ∃ item ∈ items rows, item.id = id

/-- Every row of the first list is in the second, but for its status. -/
def Grows (rows rows' : List Row) : Prop := ∀ f ∈ rows.map Row.frame, f ∈ rows'.map Row.frame

/-- Of the rows the stale pass looks for, those that are not older than the fetch are of fetched
items. -/
def Known (committed : List Row) (job : SyncJob) : Prop :=
  ∀ r ∈ committed, ∀ item ∈ items committed, r.sourceItemId = some item.id →
    job.looksFor item r = true → r.id ∈ job.before ∨ source item ∈ job.fetched

/-- A sync that stores what it has fetched. -/
structure Fetching (committed visible : List Row) (job : SyncJob) (rest : List Source)
    (upserted : List ThirdPartyItemId) : Prop where
  upserted : ∀ fetched ∈ job.fetched, fetched ∈ rest ∨
    ∃ item ∈ items visible, source item = fetched ∧ item.id ∈ upserted
  nothingCreated : ∀ r ∈ visible, r.sourceItemId = none ∨ r.frame ∈ committed.map Row.frame
  known : job.service.isSyncIncremental = false → Known committed job

/-- The task of the item was there when the provider was asked. -/
def Listed (committed : List Row) (job : SyncJob) (id : ThirdPartyItemId) : Prop :=
  ∃ r ∈ committed, r.key = .task id ∧ r.id ∈ job.before

def JobInv (committed visible : List Row) (job : SyncJob) : Prop :=
  match job.phase with
  | .upserting rest upserted => Fetching committed visible job rest upserted
  | .marking stale marked => ∀ id ∈ stale ++ marked, Listed committed job id
  | .deleting stale => ∀ id ∈ stale, RowId.notification id ∈ job.before
  | .converting marked => ∀ id ∈ marked, Listed committed job id

structure Inv (s : State) : Prop where
  keeps : ∀ x ∈ s.store.sessions.rows, ∀ w ∈ x.writes, w.Keeps Row.frame
  ids : s.store.Distinct Row.id
  keys : s.store.Distinct Row.key
  committed : ∀ r ∈ s.store.committed, Stored s.store.committed r
  visible : ∀ x ∈ s.store.sessions.rows, ∀ r ∈ s.store.visible x, Stored (s.store.visible x) r
  jobs : ∀ x ∈ s.store.sessions.rows, ∀ job ∈ x.memory,
    JobInv s.store.committed (s.store.visible x) job

section Rows
variable {rows rows' : List Row} {r : Row} {item : ThirdPartyItemRow} {job : SyncJob}

/-- Rows of a table, read off the rows of all tables. -/
theorem mem_filterMap_iff {α : Type} {read : Row → Option α} {toRow : α → Row}
    (hread : ∀ r a, read r = some a ↔ r = toRow a) (a : α) :
    a ∈ rows.filterMap read ↔ toRow a ∈ rows := by
  rw [List.mem_filterMap]
  constructor
  · rintro ⟨r, hr, ha⟩
    exact (hread r a).mp ha ▸ hr
  · exact fun h => ⟨_, h, (hread _ a).mpr rfl⟩

theorem mem_items : item ∈ items rows ↔ .thirdPartyItem item ∈ rows := by
  refine mem_filterMap_iff ?_ item
  intro r item
  cases r <;> simp [Row.item?]

theorem mem_tasks {row : TaskRow} : row ∈ tasks rows ↔ .task row ∈ rows := by
  refine mem_filterMap_iff ?_ row
  intro r row
  cases r <;> simp [Row.task?]

theorem mem_notifications {row : NotificationRow} :
    row ∈ notifications rows ↔ .notification row ∈ rows := by
  refine mem_filterMap_iff ?_ row
  intro r row
  cases r <;> simp [Row.notification?]

theorem mem_items_frame : item ∈ items rows ↔ .thirdPartyItem item ∈ rows.map Row.frame := by
  rw [mem_items, List.mem_map]
  constructor
  · exact fun h => ⟨_, h, rfl⟩
  · rintro ⟨r, hr, hframe⟩
    rw [Row.frame_eq_thirdPartyItem] at hframe
    exact hframe ▸ hr

theorem Grows.items (h : Grows rows rows') (hitem : item ∈ items rows) : item ∈ StalePass.items rows' :=
  mem_items_frame.mpr (h _ (mem_items_frame.mp hitem))

theorem Grows.mem (h : Grows rows rows') (hr : r ∈ rows) : ∃ r' ∈ rows', r'.frame = r.frame :=
  List.mem_map.mp (h _ (List.mem_map_of_mem hr))

theorem Stored.mono (h : Stored rows r) (hgrows : Grows rows rows') : Stored rows' r :=
  fun id hid => (h id hid).imp fun _ ⟨hitem, hsame⟩ => ⟨hgrows.items hitem, hsame⟩

theorem stored_congr {r' : Row} (h : r'.frame = r.frame) : Stored rows r' ↔ Stored rows r := by
  unfold Stored
  rw [← Row.sourceItemId_frame r', h, Row.sourceItemId_frame]

theorem Listed.mono {id : ThirdPartyItemId} (h : Listed rows job id) (hgrows : Grows rows rows') :
    Listed rows' job id := by
  obtain ⟨r, hr, hkey, hbefore⟩ := h
  obtain ⟨r', hr', hframe⟩ := hgrows.mem hr
  refine ⟨r', hr', ?_, ?_⟩
  · rw [← Row.key_frame, hframe, Row.key_frame, hkey]
  · rwa [← Row.id_frame, hframe, Row.id_frame]

/-- Whatever is read off the frame of a row is kept with it. -/
theorem keeps_of_frame {β : Type} {column : Row → β} (hcolumn : ∀ r, column r.frame = column r)
    {w : Write Row} (h : w.Keeps Row.frame) : w.Keeps column := by
  cases w with
  | insert r => trivial
  | update p f =>
    intro r
    rw [← hcolumn (f r), h r, hcolumn]

theorem keeps_id {w : Write Row} (h : w.Keeps Row.frame) : w.Keeps Row.id :=
  keeps_of_frame Row.id_frame h

theorem keeps_key {w : Write Row} (h : w.Keeps Row.frame) : w.Keeps Row.key :=
  keeps_of_frame Row.key_frame h

theorem grows_foldl {writes : List (Write Row)} (h : ∀ w ∈ writes, w.Keeps Row.frame) :
    Grows rows (writes.foldl Write.apply rows) := by
  intro f hf
  rw [map_key_foldl h]
  exact List.mem_append_left _ hf

end Rows

section Store
variable {s : State} {x y : Session} {r r' : Row}

theorem grows_visible (h : Inv s) (hx : x ∈ s.store.sessions.rows) :
    Grows s.store.committed (s.store.visible x) := grows_foldl (h.keeps x hx)

theorem eq_of_id (h : Inv s) (hx : x ∈ s.store.sessions.rows) (hr : r ∈ s.store.visible x)
    (hr' : r' ∈ s.store.visible x) (hid : r.id = r'.id) : r = r' :=
  List.inj_on_of_nodup_map (h.ids.commit hx).committed hr hr' hid

theorem eq_of_key (h : Inv s) (hx : x ∈ s.store.sessions.rows) (hr : r ∈ s.store.visible x)
    (hr' : r' ∈ s.store.visible x) (hkey : r.key = r'.key) : r = r' :=
  List.inj_on_of_nodup_map (h.keys.commit hx).committed hr hr' hkey

/-- A row that a transaction sees and whose identifier is committed is a committed one, but for its
status. -/
theorem mem_committed_of_id (h : Inv s) (hx : x ∈ s.store.sessions.rows)
    (hr : r ∈ s.store.visible x) (hid : r.id ∈ s.store.committed.map Row.id) :
    ∃ r₀ ∈ s.store.committed, r₀.frame = r.frame := by
  obtain ⟨r₀, hr₀, hsame⟩ := List.mem_map.mp hid
  obtain ⟨r₁, hr₁, hframe⟩ := (grows_visible h hx).mem hr₀
  have hid₁ : r₁.id = r.id := by
    rw [← Row.id_frame r₁, hframe, Row.id_frame, hsame]
  exact ⟨r₀, hr₀, by rw [← hframe, eq_of_id h hx hr₁ hr hid₁]⟩

end Store

section Run
variable {s t : State} {x : Session} {job : SyncJob} {id : TransactionId}

theorem fresh_of_executable {write : Option (Write Row)} (h : executable s id write = true) :
    (∀ w ∈ write, ∀ k ∈ w.insertedKey? Row.id, k ∉ s.store.claimedKeys Row.id) ∧
      ∀ w ∈ write, ∀ k ∈ w.insertedKey? Row.key, k ∉ s.store.claimedKeys Row.key := by
  cases write with
  | none => exact ⟨fun _ hw => (nomatch hw), fun _ hw => (nomatch hw)⟩
  | some w =>
    cases w with
    | insert r =>
      simp only [executable, Bool.and_eq_true, Bool.not_eq_true', List.contains_eq_mem,
        decide_eq_false_iff_not] at h
      constructor
      · rintro w hw k hk
        cases hw
        cases hk
        exact h.1
      · rintro w hw k hk
        cases hw
        cases hk
        exact h.2
    | update p f =>
      constructor
      · rintro w hw k hk
        cases hw
        cases hk
      · rintro w hw k hk
        cases hw
        cases hk

/-- A statement that keeps what it does not insert, of a transaction whose sync goes on. -/
theorem Inv.run (h : Inv s) (hx : x ∈ s.store.sessions.rows) {write : Option (Write Row)}
    {memory : Option SyncJob} (hkeeps : ∀ w ∈ write, w.Keeps Row.frame)
    (hexecutable : executable s x.id write = true)
    (hstored : ∀ r, write = some (.insert r) → Stored (s.store.visible x) r)
    (hjobs : ∀ job ∈ memory, JobInv s.store.committed
      (write.toList.foldl Write.apply (s.store.visible x)) job) :
    Inv { s with store := s.store.run x.id write memory } := by
  obtain ⟨hid, hkey⟩ := fresh_of_executable hexecutable
  have hkeeps' : ∀ w ∈ write.toList, w.Keeps Row.frame :=
    fun w hw => hkeeps w (Option.mem_toList.mp hw)
  constructor
  · intro y hy w hw
    rcases (Store.mem_run hx).mp hy with rfl | ⟨hold, -⟩
    · rcases List.mem_append.mp hw with hold | hnew
      · exact h.keeps x hx w hold
      · exact hkeeps' w hnew
    · exact h.keeps y hold w hw
  · exact h.ids.run hx (fun w hw => keeps_id (hkeeps w hw)) hid
  · exact h.keys.run hx (fun w hw => keeps_key (hkeeps w hw)) hkey
  · exact h.committed
  · intro y hy r hr
    rcases (Store.mem_run hx).mp hy with rfl | ⟨hold, -⟩
    · rw [Store.visible_run] at hr ⊢
      have hgrows : Grows (s.store.visible x) (write.toList.foldl Write.apply (s.store.visible x)) :=
        grows_foldl hkeeps'
      have hframe := List.mem_map_of_mem (f := Row.frame) hr
      rw [map_key_foldl hkeeps'] at hframe
      rcases List.mem_append.mp hframe with hseen | hinserted
      · obtain ⟨r₀, hr₀, hsame⟩ := List.mem_map.mp hseen
        exact (stored_congr hsame).mp ((h.visible x hx r₀ hr₀).mono hgrows)
      · obtain ⟨w, hw, hinsert⟩ := List.mem_filterMap.mp hinserted
        cases w with
        | insert r₀ =>
          have hsame : r₀.frame = r.frame := Option.some.inj hinsert
          exact (stored_congr hsame).mp ((hstored r₀ (Option.mem_toList.mp hw)).mono hgrows)
        | update p f => cases hinsert
    · exact h.visible y hold r hr
  · intro y hy job hjob
    rcases (Store.mem_run hx).mp hy with rfl | ⟨hold, -⟩
    · rw [Store.visible_run]
      exact hjobs job hjob
    · exact h.jobs y hold job hjob

/-- A new transaction has written nothing. -/
theorem Inv.begin (h : Inv s) {memory : Option SyncJob}
    {store : Store TransactionId Row (Option SyncJob)} (hbegin : s.store.begin id memory = some store)
    (hjobs : ∀ job ∈ memory, JobInv s.store.committed s.store.committed job) :
    Inv { s with store } := by
  have hids := h.ids.begin hbegin
  have hkeys := h.keys.begin hbegin
  obtain ⟨sessions, hinsert, rfl⟩ := Option.map_eq_some_iff.mp hbegin
  obtain ⟨-, hrows⟩ := Table.insert?_eq_some.mp hinsert
  have hmem : ∀ y ∈ sessions.rows, y ∈ s.store.sessions.rows ∨ y = ⟨id, [], memory⟩ := by
    intro y hy
    rw [hrows, List.mem_append, List.mem_singleton] at hy
    exact hy
  refine ⟨?_, hids, hkeys, h.committed, ?_, ?_⟩
  · intro y hy
    rcases hmem y hy with hold | rfl
    · exact h.keeps y hold
    · exact fun _ hw => (List.not_mem_nil hw).elim
  · intro y hy
    rcases hmem y hy with hold | rfl
    · exact h.visible y hold
    · exact h.committed
  · intro y hy
    rcases hmem y hy with hold | rfl
    · exact h.jobs y hold
    · exact hjobs

theorem Inv.rollback (h : Inv s) (hx : x ∈ s.store.sessions.rows) :
    Inv { s with store := s.store.rollback x.id } := by
  have hmem : ∀ y ∈ (s.store.sessions.erase x.id).rows, y ∈ s.store.sessions.rows :=
    fun y hy => (Table.mem_erase.mp hy).1
  exact ⟨fun y hy => h.keeps y (hmem y hy), h.ids.erase hx, h.keys.erase hx, h.committed,
    fun y hy => h.visible y (hmem y hy), fun y hy => h.jobs y (hmem y hy)⟩

/-- What a sync under way knows, when what is committed and what it sees grow. -/
theorem JobInv.mono {committed committed' visible visible' : List Row}
    (h : JobInv committed visible job) (hcommitted : Grows committed committed')
    (hvisible : Grows visible visible')
    (hnew : ∀ r ∈ visible', r.sourceItemId = none ∨ r.frame ∈ visible.map Row.frame ∨
      r.frame ∈ committed'.map Row.frame)
    (hknown : job.isFetching = true → Known committed job → Known committed' job) :
    JobInv committed' visible' job := by
  unfold JobInv at h ⊢
  split
  · next rest upserted hphase =>
    rw [hphase] at h
    refine ⟨fun fetched hfetched => ?_, fun r hr => ?_, fun hfull => ?_⟩
    · exact (h.upserted fetched hfetched).imp_right fun ⟨item, hitem, hsame⟩ =>
        ⟨item, hvisible.items hitem, hsame⟩
    · rcases hnew r hr with hnone | hold | hdone
      · exact .inl hnone
      · obtain ⟨r₀, hr₀, hframe⟩ := List.mem_map.mp hold
        rw [← Row.sourceItemId_frame, ← hframe, Row.sourceItemId_frame]
        exact (h.nothingCreated r₀ hr₀).imp_right (hcommitted _)
      · exact .inr hdone
    · refine hknown ?_ (h.known hfull)
      unfold SyncJob.isFetching
      rw [hfull, hphase]
      rfl
  · next stale marked hphase =>
    rw [hphase] at h
    exact fun id hid => (h id hid).mono hcommitted
  · next stale hphase =>
    rw [hphase] at h
    exact h
  · next marked hphase =>
    rw [hphase] at h
    exact fun id hid => (h id hid).mono hcommitted

/-- What a transaction commits under the guard. -/
theorem known_commit (h : Inv s) (hx : x ∈ s.store.sessions.rows)
    (hknown : Known s.store.committed job)
    (hguard : FetchedNewRows s.store.committed (s.store.visible x) job) :
    Known (s.store.visible x) job := by
  intro r hr item hitem hsource hlooks
  by_cases hid : r.id ∈ s.store.committed.map Row.id
  · -- The item of a committed row is the one it had.
    obtain ⟨r₀, hr₀, hframe⟩ := mem_committed_of_id h hx hr hid
    have hsource₀ : r₀.sourceItemId = some item.id := by
      rw [← Row.sourceItemId_frame, hframe, Row.sourceItemId_frame, hsource]
    obtain ⟨item₀, hitem₀, hsame⟩ := h.committed r₀ hr₀ item.id hsource₀
    have hitem₁ := mem_items.mp ((grows_visible h hx).items hitem₀)
    have heq : item₀ = item := by
      have hrow := eq_of_id h hx hitem₁ (mem_items.mp hitem)
        (show (Row.thirdPartyItem item₀).id = (Row.thirdPartyItem item).id by
          rw [Row.id, Row.id, hsame])
      exact Row.thirdPartyItem.inj hrow
    rw [← heq] at hsource₀ hlooks ⊢
    have hlooks₀ : job.looksFor item₀ r₀ = true := by
      rw [← SyncJob.looksFor_frame, hframe, SyncJob.looksFor_frame, hlooks]
    refine (hknown r₀ hr₀ item₀ hitem₀ hsource₀ hlooks₀).imp_left fun hbefore => ?_
    rwa [← Row.id_frame, ← hframe, Row.id_frame]
  · exact .inr (hguard r hr hid item hitem hsource hlooks)

theorem Inv.commit (h : Inv s) (hx : x ∈ s.store.sessions.rows)
    (hguard : ∀ y ∈ s.store.sessions.rows, y.id ≠ x.id → ∀ job ∈ y.memory, job.isFetching = true →
      FetchedNewRows s.store.committed (s.store.visible x) job) :
    Inv { s with store := s.store.commit x } := by
  have hmem : ∀ y ∈ (s.store.sessions.erase x.id).rows, y ∈ s.store.sessions.rows ∧ y.id ≠ x.id :=
    fun y hy => Table.mem_erase.mp hy
  -- What another transaction sees: what is now committed and what it has inserted.
  have hvisible : ∀ y ∈ s.store.sessions.rows, ∀ f,
      f ∈ ((s.store.commit x).visible y).map Row.frame ↔
        f ∈ (s.store.visible x).map Row.frame ∨ f ∈ insertedKeys Row.frame y.writes := by
    intro y hy f
    have hframes : ((s.store.commit x).visible y).map Row.frame =
        (s.store.visible x).map Row.frame ++ insertedKeys Row.frame y.writes :=
      map_key_foldl (h.keeps y hy)
    rw [hframes, List.mem_append]
  have hseen : ∀ y ∈ s.store.sessions.rows, ∀ f, f ∈ (s.store.visible y).map Row.frame ↔
      f ∈ s.store.committed.map Row.frame ∨ f ∈ insertedKeys Row.frame y.writes := by
    intro y hy f
    have hframes : (s.store.visible y).map Row.frame =
        s.store.committed.map Row.frame ++ insertedKeys Row.frame y.writes :=
      map_key_foldl (h.keeps y hy)
    rw [hframes, List.mem_append]
  have hgrowsOther : ∀ y ∈ s.store.sessions.rows,
      Grows (s.store.visible y) ((s.store.commit x).visible y) :=
    fun y hy f hf => (hvisible y hy f).mpr
      (((hseen y hy f).mp hf).imp_left (grows_visible h hx f))
  have hgrowsDone : ∀ y ∈ s.store.sessions.rows,
      Grows (s.store.visible x) ((s.store.commit x).visible y) :=
    fun y hy f hf => (hvisible y hy f).mpr (.inl hf)
  have hnew : ∀ y ∈ s.store.sessions.rows, ∀ r ∈ (s.store.commit x).visible y,
      r.frame ∈ (s.store.visible y).map Row.frame ∨ r.frame ∈ (s.store.visible x).map Row.frame := by
    intro y hy r hr
    rcases (hvisible y hy _).mp (List.mem_map_of_mem hr) with hdone | hown
    · exact .inr hdone
    · exact .inl ((hseen y hy _).mpr (.inr hown))
  refine ⟨fun y hy => h.keeps y (hmem y hy).1, h.ids.commit hx, h.keys.commit hx, h.visible x hx,
    ?_, ?_⟩
  · intro y hy r hr
    rcases hnew y (hmem y hy).1 r hr with hold | hdone
    · obtain ⟨r₀, hr₀, hframe⟩ := List.mem_map.mp hold
      exact (stored_congr hframe).mp
        ((h.visible y (hmem y hy).1 r₀ hr₀).mono (hgrowsOther y (hmem y hy).1))
    · obtain ⟨r₀, hr₀, hframe⟩ := List.mem_map.mp hdone
      exact (stored_congr hframe).mp ((h.visible x hx r₀ hr₀).mono (hgrowsDone y (hmem y hy).1))
  · intro y hy job hjob
    obtain ⟨hold, hother⟩ := hmem y hy
    exact (h.jobs y hold job hjob).mono (grows_visible h hx) (hgrowsOther y hold)
      (fun r hr => .inr (hnew y hold r hr))
      fun hfetching hknown => known_commit h hx hknown (hguard y hold hother job hjob hfetching)

/-- An upsert inserts the item at most, and the item is stored under the identifier it returns. -/
theorem createOrUpdateThirdPartyItem_spec (rows : List Row) (row : ThirdPartyItemRow) :
    (∀ w ∈ (createOrUpdateThirdPartyItem rows row).1, w = .insert (.thirdPartyItem row)) ∧
      ∃ item ∈ items ((createOrUpdateThirdPartyItem rows row).1.toList.foldl Write.apply rows),
        source item = source row ∧ item.id = (createOrUpdateThirdPartyItem rows row).2 := by
  unfold createOrUpdateThirdPartyItem
  split
  · next existing hfind =>
    have hsame := List.find?_some hfind
    rw [Bool.and_eq_true, beq_iff_eq] at hsame
    exact ⟨fun _ hw => (nomatch hw), existing, List.mem_of_find?_eq_some hfind, hsame.1, rfl⟩
  · refine ⟨fun _ hw => (Option.mem_some.mp hw).symm, row, mem_items.mpr ?_, rfl, rfl⟩
    exact List.mem_append_right _ (List.mem_singleton_self _)

/-- A sync that stores an item still has created nothing. -/
theorem JobInv.upsert {committed visible : List Row} (h : JobInv committed visible job)
    {write : Option (Write Row)} {row : ThirdPartyItemRow}
    (hwrite : ∀ w ∈ write, w = .insert (.thirdPartyItem row)) :
    JobInv committed (write.toList.foldl Write.apply visible) job := by
  have hkeeps : ∀ w ∈ write.toList, w.Keeps Row.frame := by
    intro w hw
    rw [hwrite w (Option.mem_toList.mp hw)]
    trivial
  refine h.mono (fun _ hf => hf) (grows_foldl hkeeps) (fun r hr => ?_) fun _ hknown => hknown
  have hframe := List.mem_map_of_mem (f := Row.frame) hr
  rw [map_key_foldl hkeeps] at hframe
  rcases List.mem_append.mp hframe with hold | hinserted
  · exact .inr (.inl hold)
  · obtain ⟨w, hw, hinsert⟩ := List.mem_filterMap.mp hinserted
    rw [hwrite w (Option.mem_toList.mp hw)] at hinsert
    left
    rw [← Row.sourceItemId_frame, ← Option.some.inj hinsert]
    rfl

theorem JobInv.upsertFetched {committed visible : List Row} {fetched : Source} {rest : List Source}
    {upserted : List ThirdPartyItemId} (h : JobInv committed visible job)
    (hphase : job.phase = .upserting (fetched :: rest) upserted) {itemId : ThirdPartyItemId}
    (hstored : ∃ item ∈ items visible, source item = fetched ∧ item.id = itemId) :
    JobInv committed visible { job with phase := .upserting rest (upserted ++ [itemId]) } := by
  unfold JobInv at h
  rw [hphase] at h
  refine ⟨fun other hother => ?_, h.nothingCreated, h.known⟩
  rcases h.upserted other hother with hleft | ⟨item, hitem, hsame, hdone⟩
  · rcases List.mem_cons.mp hleft with rfl | hrest
    · obtain ⟨item, hitem, hsame, hid⟩ := hstored
      exact .inr ⟨item, hitem, hsame, List.mem_append_right _ (List.mem_singleton.mpr hid)⟩
    · exact .inl hrest
  · exact .inr ⟨item, hitem, hsame, List.mem_append_left _ hdone⟩

/-- What the stale pass takes for stale was there when the provider was asked: the items of the
others have all been fetched and stored. -/
theorem older_of_stale (h : Inv s) (hx : x ∈ s.store.sessions.rows) {upserted : List ThirdPartyItemId}
    (hfetching : Fetching s.store.committed (s.store.visible x) job [] upserted)
    (hfull : job.service.isSyncIncremental = false) {r : Row} {item : ThirdPartyItemRow}
    (hr : r ∈ s.store.visible x) (hitem : item ∈ items (s.store.visible x))
    (hsource : r.sourceItemId = some item.id) (hlooks : job.looksFor item r = true)
    (hexcluded : item.id ∉ upserted) : r.id ∈ job.before := by
  have hcommitted : r.frame ∈ s.store.committed.map Row.frame := by
    refine (hfetching.nothingCreated r hr).resolve_left ?_
    rw [hsource]
    exact Option.some_ne_none _
  obtain ⟨r₀, hr₀, hframe⟩ := List.mem_map.mp hcommitted
  have hsource₀ : r₀.sourceItemId = some item.id := by
    rw [← Row.sourceItemId_frame, hframe, Row.sourceItemId_frame, hsource]
  have hlooks₀ : job.looksFor item r₀ = true := by
    rw [← SyncJob.looksFor_frame, hframe, SyncJob.looksFor_frame, hlooks]
  obtain ⟨item₀, hitem₀, hsame⟩ := h.committed r₀ hr₀ item.id hsource₀
  have heq : item₀ = item := Row.thirdPartyItem.inj (eq_of_id h hx
    (mem_items.mp ((grows_visible h hx).items hitem₀)) (mem_items.mp hitem)
    (show (Row.thirdPartyItem item₀).id = (Row.thirdPartyItem item).id by
      rw [Row.id, Row.id, hsame]))
  rw [heq] at hitem₀
  rcases hfetching.known hfull r₀ hr₀ item hitem₀ hsource₀ hlooks₀ with hbefore | hfetched
  · rwa [← Row.id_frame, ← hframe, Row.id_frame]
  · rcases hfetching.upserted _ hfetched with hnone | ⟨other, hother, hkey, hdone⟩
    · exact (List.not_mem_nil hnone).elim
    · have hsame : other = item := Row.thirdPartyItem.inj (eq_of_key h hx (mem_items.mp hother)
        (mem_items.mp hitem)
        (show (Row.thirdPartyItem other).key = (Row.thirdPartyItem item).key by
          rw [Row.key, Row.key, hkey]))
      exact absurd (hsame ▸ hdone) hexcluded

theorem listed_of_stale (h : Inv s) (hx : x ∈ s.store.sessions.rows)
    {upserted : List ThirdPartyItemId} {kind : TaskSourceKind}
    (hfetching : Fetching s.store.committed (s.store.visible x) job [] upserted)
    (hfull : job.service.isSyncIncremental = false)
    (hkind : taskSourceKind job.service.getThirdPartyItemSourceKind = some kind)
    {itemId : ThirdPartyItemId}
    (hstale : itemId ∈
      getStaleTaskSourceThirdPartyItems (s.store.visible x) upserted kind job.userId) :
    Listed s.store.committed job itemId := by
  obtain ⟨item, hitem, rfl⟩ := List.mem_map.mp hstale
  obtain ⟨hitem, hmatch⟩ := List.mem_filter.mp hitem
  simp only [Bool.and_eq_true, Bool.not_eq_true', List.contains_eq_mem, decide_eq_false_iff_not,
    List.any_eq_true, beq_iff_eq] at hmatch
  obtain ⟨⟨hexcluded, task, htask, ⟨hsource, htaskKind⟩, -⟩, huser⟩ := hmatch
  have hr := mem_tasks.mp htask
  have hsource' : (Row.task task).sourceItemId = some item.id := congrArg some hsource
  have hlooks : job.looksFor item (.task task) = true := by
    simp [SyncJob.looksFor, hkind, htaskKind, huser]
  have hbefore := older_of_stale h hx hfetching hfull hr hitem hsource' hlooks hexcluded
  obtain hnone | hcommitted := hfetching.nothingCreated _ hr
  · cases hnone
  · obtain ⟨r₀, hr₀, hframe⟩ := List.mem_map.mp hcommitted
    refine ⟨r₀, hr₀, ?_, ?_⟩
    · rw [← Row.key_frame, hframe, Row.key_frame, Row.key, hsource]
    · rwa [← Row.id_frame, hframe, Row.id_frame]

theorem older_of_staleNotification (h : Inv s) (hx : x ∈ s.store.sessions.rows)
    {upserted : List ThirdPartyItemId} {kind : NotificationSourceKind}
    (hfetching : Fetching s.store.committed (s.store.visible x) job [] upserted)
    (hfull : job.service.isSyncIncremental = false)
    (hnoTask : taskSourceKind job.service.getThirdPartyItemSourceKind = none)
    (hkind : notificationSourceKind job.service.getThirdPartyItemSourceKind = some kind)
    {notificationId : NotificationId}
    (hstale : notificationId ∈ staleNotifications (s.store.visible x) upserted kind job.userId) :
    RowId.notification notificationId ∈ job.before := by
  obtain ⟨row, hrow, rfl⟩ := List.mem_map.mp hstale
  obtain ⟨hrow, hmatch⟩ := List.mem_filter.mp hrow
  simp only [isStaleNotification, Bool.and_eq_true, Bool.not_eq_true', List.contains_eq_mem,
    decide_eq_false_iff_not, List.any_eq_true, beq_iff_eq] at hmatch
  obtain ⟨⟨item, hitem, hsource⟩, ⟨⟨hexcluded, hrowKind⟩, -⟩, huser⟩ := hmatch
  have hlooks : job.looksFor item (.notification row) = true := by
    simp [SyncJob.looksFor, hnoTask, hkind, hrowKind, huser]
  exact older_of_stale h hx hfetching hfull (mem_notifications.mp hrow) hitem
    (congrArg some hsource) hlooks (hsource ▸ hexcluded)

theorem jobInv_findStale (h : Inv s) (hx : x ∈ s.store.sessions.rows)
    {upserted : List ThirdPartyItemId} {phase : Phase}
    (hfetching : Fetching s.store.committed (s.store.visible x) job [] upserted)
    (hphase : findStale (s.store.visible x) job upserted = some phase) :
    JobInv s.store.committed (s.store.visible x) { job with phase } := by
  unfold findStale at hphase
  split at hphase
  · cases hphase
    exact fun _ hid => (List.not_mem_nil hid).elim
  · next hincremental =>
    have hfull : job.service.isSyncIncremental = false := Bool.eq_false_iff.mpr hincremental
    split at hphase
    · next kind hkind =>
      cases hphase
      intro id hid
      rw [List.append_nil] at hid
      exact listed_of_stale h hx hfetching hfull hkind hid
    · next hnoTask =>
      obtain ⟨kind, hkind, rfl⟩ := Option.map_eq_some_iff.mp hphase
      exact fun id hid => older_of_staleNotification h hx hfetching hfull hnoTask hkind hid

theorem execute_eq_some {write : Option (Write Row)} {memory : Option SyncJob} :
    execute s x write memory = some t ↔
      executable s x.id write = true ∧ { s with store := s.store.run x.id write memory } = t := by
  unfold execute
  rw [Option.ite_none_right_eq_some, Option.some.injEq]

/-- Once it converts, a sync knows nothing of what its transaction sees. -/
theorem JobInv.of_isConverting {committed visible visible' : List Row}
    (h : JobInv committed visible job) (hjob : job ∈ x.memory) (hconverting : isConverting x = true) :
    JobInv committed visible' job := by
  unfold isConverting at hconverting
  rw [Option.mem_def.mp hjob, Option.all_some] at hconverting
  unfold JobInv at h ⊢
  split at hconverting
  · next marked hphase =>
    rw [hphase] at h ⊢
    exact h
  · cases hconverting

/-- A request, or a sync that converts, changes a status or adds a task or notification of a stored
item. -/
theorem Inv.convert (h : Inv s) (hx : x ∈ s.store.sessions.rows) {w : Write Row}
    (hstep : execute s x (some w) x.memory = some t) (hconverting : isConverting x = true)
    (hkeeps : w.Keeps Row.frame) (hstored : ∀ r, w = .insert r → Stored (s.store.visible x) r) :
    Inv t := by
  obtain ⟨hexecutable, rfl⟩ := execute_eq_some.mp hstep
  refine h.run hx (fun w' hw => ?_) hexecutable (fun r hr => hstored r (Option.some.inj hr))
    fun job hjob => (h.jobs x hx job hjob).of_isConverting hjob hconverting
  cases hw
  exact hkeeps

theorem stored_of_any {rows : List Row} {r : Row} {itemId : ThirdPartyItemId}
    (hsource : r.sourceItemId = some itemId)
    (hany : ((items rows).any fun item => item.id == itemId) = true) : Stored rows r := by
  intro id hid
  rw [hsource, Option.mem_some] at hid
  obtain ⟨item, hitem, hsame⟩ := List.any_eq_true.mp hany
  exact ⟨item, hitem, (beq_iff_eq.mp hsame).trans hid⟩

theorem keeps_deleteNotification {rows : List Row} {notificationId : NotificationId} :
    ∀ w ∈ deleteNotification rows notificationId, w.Keeps Row.frame := by
  intro w hw
  unfold deleteNotification at hw
  split at hw
  · cases hw
    exact Row.frame_setNotificationStatus .deleted
  · cases hw

/-- A step of a sync that updates statuses at most and goes on to another phase. -/
theorem Inv.advance (h : Inv s) (hx : x ∈ s.store.sessions.rows) {write : Option (Write Row)}
    (hstep : execute s x write (some job) = some t) (hkeeps : ∀ w ∈ write, w.Keeps Row.frame)
    (hinsert : ∀ r, write ≠ some (.insert r))
    (hjob : JobInv s.store.committed (write.toList.foldl Write.apply (s.store.visible x)) job) :
    Inv t := by
  obtain ⟨hexecutable, rfl⟩ := execute_eq_some.mp hstep
  refine h.run hx hkeeps hexecutable (fun r hr => absurd hr (hinsert r)) fun job' hjob' => ?_
  cases hjob'
  exact hjob

/-- A step that stores an item, whatever the job is then. -/
theorem Inv.store (h : Inv s) (hx : x ∈ s.store.sessions.rows) {row : ThirdPartyItemRow}
    {memory : Option SyncJob}
    (hstep : execute s x (createOrUpdateThirdPartyItem (s.store.visible x) row).1 memory = some t)
    (hjobs : ∀ job ∈ memory, JobInv s.store.committed
      ((createOrUpdateThirdPartyItem (s.store.visible x) row).1.toList.foldl Write.apply
        (s.store.visible x)) job) : Inv t := by
  obtain ⟨hwrite, -⟩ := createOrUpdateThirdPartyItem_spec (s.store.visible x) row
  obtain ⟨hexecutable, rfl⟩ := execute_eq_some.mp hstep
  refine h.run hx (fun w hw => ?_) hexecutable (fun r hr => ?_) hjobs
  · rw [hwrite w hw]
    trivial
  · cases hwrite _ hr
    exact fun id hid => nomatch hid

theorem inv_stepSession {i : Input} (h : Inv s) (hx : x ∈ s.store.sessions.rows)
    (hid : i.session? = some x.id) (hstep : stepSession s x i = some t)
    (hguard : ∀ y ∈ s.store.sessions.rows, y.id ≠ x.id → ∀ job ∈ y.memory, job.isFetching = true →
      i = .commit x.id → FetchedNewRows s.store.committed (s.store.visible x) job) : Inv t := by
  cases i with
  | upsertItem id row =>
    obtain ⟨hwrite, -⟩ := createOrUpdateThirdPartyItem_spec (s.store.visible x) row
    exact h.store hx hstep fun job hjob => (h.jobs x hx job hjob).upsert hwrite
  | createTask id row =>
    simp only [stepSession, Option.ite_none_right_eq_some, Bool.and_eq_true] at hstep
    obtain ⟨⟨hconverting, hany⟩, hexecute⟩ := hstep
    refine h.convert hx hexecute hconverting trivial fun r hr => ?_
    cases hr
    exact stored_of_any rfl hany
  | createNotification id row =>
    simp only [stepSession, Option.ite_none_right_eq_some, Bool.and_eq_true] at hstep
    obtain ⟨⟨hconverting, hany⟩, hexecute⟩ := hstep
    refine h.convert hx hexecute hconverting trivial fun r hr => ?_
    cases hr
    exact stored_of_any rfl hany
  | patchTask id taskId status =>
    simp only [stepSession, Option.ite_none_right_eq_some] at hstep
    exact h.convert hx hstep.2 hstep.1 (Row.frame_setTaskStatus status) fun _ hr => nomatch hr
  | patchNotification id notificationId status =>
    simp only [stepSession, Option.ite_none_right_eq_some] at hstep
    exact h.convert hx hstep.2 hstep.1 (Row.frame_setNotificationStatus status)
      fun _ hr => nomatch hr
  | upsertFetched id row =>
    obtain ⟨job, hjob, hthen⟩ := Option.bind_eq_some_iff.mp hstep
    split at hthen
    · next fetched rest upserted hphase =>
      simp only [Option.ite_none_right_eq_some] at hthen
      obtain ⟨⟨hsource, -⟩, hexecute⟩ := hthen
      obtain ⟨hwrite, item, hitem, hsame, hitemId⟩ :=
        createOrUpdateThirdPartyItem_spec (s.store.visible x) row
      refine h.store hx hexecute fun job' hjob' => ?_
      cases hjob'
      exact ((h.jobs x hx job hjob).upsert hwrite).upsertFetched hphase
        ⟨item, hitem, hsame.trans hsource, hitemId⟩
    · cases hthen
  | findStale id =>
    obtain ⟨job, hjob, hthen⟩ := Option.bind_eq_some_iff.mp hstep
    have hinv := h.jobs x hx job hjob
    split at hthen
    · next upserted hphase =>
      obtain ⟨phase, hfind, hexecute⟩ := Option.bind_eq_some_iff.mp hthen
      unfold JobInv at hinv
      rw [hphase] at hinv
      exact h.advance hx hexecute (fun _ hw => nomatch hw) (fun _ hr => nomatch hr)
        (jobInv_findStale h hx hinv hfind)
    · cases hthen
  | markAsDone id =>
    obtain ⟨job, hjob, hthen⟩ := Option.bind_eq_some_iff.mp hstep
    have hinv := h.jobs x hx job hjob
    unfold JobInv at hinv
    split at hthen
    · next item stale marked hphase =>
      rw [hphase] at hinv
      refine h.advance hx hthen (fun _ hw => nomatch hw) (fun _ hr => nomatch hr) ?_
      intro id hid
      refine hinv id ?_
      grind
    · next marked hphase =>
      rw [hphase] at hinv
      exact h.advance hx hthen (fun _ hw => nomatch hw) (fun _ hr => nomatch hr) hinv
    · cases hthen
  | deleteStale id =>
    obtain ⟨job, hjob, hthen⟩ := Option.bind_eq_some_iff.mp hstep
    have hinv := h.jobs x hx job hjob
    unfold JobInv at hinv
    split at hthen
    · next notificationId stale hphase =>
      rw [hphase] at hinv
      refine h.advance hx hthen keeps_deleteNotification (fun r hr => ?_) ?_
      · unfold deleteNotification at hr
        split at hr
        · cases hr
        · cases hr
      · exact fun id hid => hinv id (List.mem_cons_of_mem _ hid)
    · refine h.advance hx hthen (fun _ hw => nomatch hw) (fun _ hr => nomatch hr) ?_
      exact fun id hid => (List.not_mem_nil hid).elim
    · cases hthen
  | convertMarked id =>
    obtain ⟨job, hjob, hthen⟩ := Option.bind_eq_some_iff.mp hstep
    have hinv := h.jobs x hx job hjob
    unfold JobInv at hinv
    split at hthen
    · next item marked hphase =>
      rw [hphase] at hinv
      refine h.advance hx hthen (fun w hw => ?_) (fun _ hr => nomatch hr) ?_
      · cases hw
        exact Row.frame_setTaskStatus .done
      · exact fun id hid => hinv id (List.mem_cons_of_mem _ hid)
    · cases hthen
  | commit id =>
    cases hid
    cases hstep
    exact h.commit hx fun y hy hother job hjob hfetching =>
      hguard y hy hother job hjob hfetching rfl
  | rollback id =>
    cases hid
    cases hstep
    exact h.rollback hx
  | appear _ | disappear _ | begin _ | fetch _ _ _ _ => cases hstep

theorem inv_step {i : Input} (h : Inv s) (hstep : step s i = some t) (hguard : SnapshotGuard s i) :
    Inv t := by
  have hsession : (i.session?.bind s.store.sessions.find?).bind (stepSession s · i) = some t →
      Inv t := by
    intro hstep
    obtain ⟨x, hfind, hstep⟩ := Option.bind_eq_some_iff.mp hstep
    obtain ⟨id, hid, hfind⟩ := Option.bind_eq_some_iff.mp hfind
    obtain ⟨hx, rfl⟩ := Table.find?_eq_some.mp hfind
    refine inv_stepSession h hx hid hstep fun y hy hother job hjob hfetching hcommit => ?_
    subst hcommit
    exact hguard x hfind y hy hother job hjob hfetching
  cases i with
  | appear source =>
    cases hstep
    exact ⟨h.keeps, h.ids, h.keys, h.committed, h.visible, h.jobs⟩
  | disappear source =>
    cases hstep
    exact ⟨h.keeps, h.ids, h.keys, h.committed, h.visible, h.jobs⟩
  | begin id =>
    obtain ⟨store, hbegin, rfl⟩ := Option.map_eq_some_iff.mp hstep
    exact h.begin hbegin fun _ hjob => nomatch hjob
  | fetch id service userId integrationConnectionId =>
    obtain ⟨store, hbegin, rfl⟩ := Option.map_eq_some_iff.mp hstep
    refine h.begin hbegin fun job hjob => ?_
    cases hjob
    refine ⟨fun _ hfetched => .inl hfetched, fun r hr => .inr (List.mem_map_of_mem hr), ?_⟩
    exact fun _ r hr _ _ _ _ => .inl (List.mem_map_of_mem hr)
  | upsertItem _ _ | createTask _ _ | createNotification _ _ | patchTask _ _ _
  | patchNotification _ _ _ | upsertFetched _ _ | findStale _ | markAsDone _ | deleteStale _
  | convertMarked _ | commit _ | rollback _ => exact hsession hstep

/-- A row that a statement retires is one it updates. -/
theorem updated_of_retired (h : Inv s) (hx : x ∈ s.store.sessions.rows) {r r' : Row}
    {p : Row → Bool} {f : Row → Row} (hf : ∀ r, (f r).frame = r.frame) (hr : r ∈ s.store.visible x)
    (hr' : r' ∈ Write.apply (s.store.visible x) (.update p f)) (hid : r'.id = r.id)
    (hactive : r.isRetired = false) (hretired : r'.isRetired = true) : p r = true := by
  obtain ⟨r₀, hr₀, rfl⟩ := List.mem_map.mp hr'
  have hsame : r₀ = r := by
    refine eq_of_id h hx hr₀ hr ?_
    rw [← hid]
    split
    · rw [← Row.id_frame (f r₀), hf, Row.id_frame]
    · rfl
  subst hsame
  by_contra hp
  rw [if_neg hp, hactive] at hretired
  cases hretired

theorem visible_execute {write : Option (Write Row)} {memory : Option SyncJob} {y : Session}
    (hx : x ∈ s.store.sessions.rows) (hstep : execute s x write memory = some t)
    (hy : t.store.sessions.find? x.id = some y) :
    t.store.visible y = write.toList.foldl Write.apply (s.store.visible x) := by
  obtain ⟨-, rfl⟩ := execute_eq_some.mp hstep
  obtain ⟨hmem, hid⟩ := Table.find?_eq_some.mp hy
  rcases (Store.mem_run hx).mp hmem with rfl | ⟨-, hother⟩
  · exact Store.visible_run
  · exact absurd hid hother

/-- What a step of the stale pass retires was there when the provider was asked. -/
theorem older_of_retired (h : Inv s) (hx : x ∈ s.store.sessions.rows) (hjob : job ∈ x.memory)
    {i : Input} (hi : i.retiring = some x.id) (hstep : stepSession s x i = some t) {y : Session}
    (hy : t.store.sessions.find? x.id = some y) {r r' : Row} (hr : r ∈ s.store.visible x)
    (hr' : r' ∈ t.store.visible y) (hid : r'.id = r.id) (hactive : r.isRetired = false)
    (hretired : r'.isRetired = true) : r.id ∈ job.before := by
  have hinv := h.jobs x hx job hjob
  have hsame : ∀ {memory : Option SyncJob}, execute s x none memory = some t → False := by
    intro memory hexecute
    rw [visible_execute hx hexecute hy] at hr'
    rw [← eq_of_id h hx hr' hr hid, hretired] at hactive
    cases hactive
  unfold JobInv at hinv
  cases i with
  | deleteStale id =>
    obtain ⟨job', hjob', hthen⟩ := Option.bind_eq_some_iff.mp hstep
    obtain rfl : job' = job := Option.some.inj (hjob'.symm.trans hjob)
    split at hthen
    · next notificationId stale hphase =>
      rw [hphase] at hinv
      cases hwrite : deleteNotification (s.store.visible x) notificationId with
      | none =>
        rw [hwrite] at hthen
        exact (hsame hthen).elim
      | some w =>
        rw [visible_execute hx hthen hy, hwrite] at hr'
        unfold deleteNotification at hwrite
        split at hwrite
        · cases hwrite
          have hupdated := updated_of_retired h hx (Row.frame_setNotificationStatus .deleted) hr hr'
            hid hactive hretired
          rw [of_decide_eq_true hupdated]
          exact hinv notificationId List.mem_cons_self
        · cases hwrite
    · exact (hsame hthen).elim
    · cases hthen
  | convertMarked id =>
    obtain ⟨job', hjob', hthen⟩ := Option.bind_eq_some_iff.mp hstep
    obtain rfl : job' = job := Option.some.inj (hjob'.symm.trans hjob)
    split at hthen
    · next item marked hphase =>
      rw [hphase] at hinv
      rw [visible_execute hx hthen hy] at hr'
      have hupdated := updated_of_retired h hx (Row.frame_setTaskStatus .done) hr hr' hid hactive
        hretired
      -- An item has one task, so the row is the one that was there.
      obtain ⟨r₀, hr₀, hkey, hbefore⟩ := hinv item List.mem_cons_self
      obtain ⟨r₁, hr₁, hframe⟩ := (grows_visible h hx).mem hr₀
      have hkey₁ : r₁.key = r.key := by
        rw [← Row.key_frame, hframe, Row.key_frame, hkey, of_decide_eq_true hupdated]
      rwa [← eq_of_key h hx hr₁ hr hkey₁, ← Row.id_frame, hframe, Row.id_frame]
    · cases hthen
  | appear _ | disappear _ | begin _ | fetch _ _ _ _ | upsertItem _ _ | createTask _ _
  | createNotification _ _ | patchTask _ _ _ | patchNotification _ _ _ | upsertFetched _ _
  | findStale _ | markAsDone _ | commit _ | rollback _ => cases hi

theorem Inv.sparesNew {i : Input} (h : Inv s) (hstep : step s i = some t) : SparesNew s i t := by
  intro id hid x hfind job hjob y hy r hr r' hr' hsame hactive hretired hnew
  obtain ⟨hx, rfl⟩ := Table.find?_eq_some.mp hfind
  have hsession : stepSession s x i = some t := by
    cases i with
    | deleteStale id | convertMarked id =>
      cases hid
      obtain ⟨x', hbind, hthen⟩ := Option.bind_eq_some_iff.mp hstep
      rw [← Option.some.inj (hbind.symm.trans hfind)]
      exact hthen
    | appear _ | disappear _ | begin _ | fetch _ _ _ _ | upsertItem _ _ | createTask _ _
    | createNotification _ _ | patchTask _ _ _ | patchNotification _ _ _ | upsertFetched _ _
    | findStale _ | markAsDone _ | commit _ | rollback _ => cases hid
  exact absurd (older_of_retired h hx hjob hid hsession hy hr hr' hsame hactive hretired) hnew

end Run

/-- What is stored before the first transaction, under the constraints of the schema. -/
structure Inbox where
  rows : List Row
  ids : (rows.map Row.id).Nodup
  keys : (rows.map Row.key).Nodup
  stored : ∀ r ∈ rows, Stored rows r

def initial (inbox : Inbox) (upstream : List Source) : State := ⟨⟨inbox.rows, Table.empty⟩, upstream⟩

theorem inv_initial (inbox : Inbox) (upstream : List Source) : Inv (initial inbox upstream) where
  keeps _ hx := (Table.not_mem_empty hx).elim
  ids := ⟨fun _ hx => (Table.not_mem_empty hx).elim, by
    rw [show (initial inbox upstream).store.claimedKeys Row.id = inbox.rows.map Row.id from
      List.append_nil _]
    exact inbox.ids⟩
  keys := ⟨fun _ hx => (Table.not_mem_empty hx).elim, by
    rw [show (initial inbox upstream).store.claimedKeys Row.key = inbox.rows.map Row.key from
      List.append_nil _]
    exact inbox.keys⟩
  committed := inbox.stored
  visible _ hx := (Table.not_mem_empty hx).elim
  jobs _ hx := (Table.not_mem_empty hx).elim

/-- In every interleaving whose commits meet the guard, no stale pass retires what is newer than
its fetch and still upstream. -/
theorem sparesNew_of_guard (inbox : Inbox) (upstream : List Source) (inputs : List Input)
    (hrun : Along step (fun s i _ => SnapshotGuard s i) (initial inbox upstream) inputs) :
    Along step SparesNew (initial inbox upstream) inputs :=
  hrun.of_invariant (I := Inv) (fun _ _ _ h hstep hguard => inv_step h hstep hguard)
    (fun _ _ _ h hstep _ => h.sparesNew hstep) (inv_initial inbox upstream)

def tickTickRow (sourceId : String) (uuid : Nat) : ThirdPartyItemRow where
  id := ⟨uuid⟩
  sourceId
  data := .tickTickItem sourceId
  createdAt := 0
  updatedAt := 0
  userId := ⟨1⟩
  integrationConnectionId := ⟨1⟩
  sourceItemId := none

def tickTickTask (item : ThirdPartyItemRow) (uuid : Nat) : TaskRow where
  id := ⟨uuid⟩
  title := item.sourceId
  body := ""
  status := .active
  completedAt := none
  priority := .p4
  dueAt := none
  tags := []
  parentId := none
  project := "Inbox"
  isRecurring := false
  createdAt := 0
  updatedAt := 0
  kind := .tickTick
  sourceItemId := item.id
  sinkItemId := none
  userId := item.userId

/-- The task of the item `a`, which is no longer at the provider. -/
def completedTask : Inbox where
  rows := [.thirdPartyItem (tickTickRow "a" 1), .task (tickTickTask (tickTickRow "a" 1) 1)]
  ids := by decide
  keys := by decide
  stored := by
    intro r hr id hid
    refine ⟨tickTickRow "a" 1, mem_items.mpr List.mem_cons_self, ?_⟩
    rcases List.mem_cons.mp hr with rfl | hr
    · cases hid
    · rw [List.mem_singleton.mp hr] at hid
      exact Option.some.inj hid

/-- A sync, the transaction 0, of one fetched item, and a request that creates a task before or
after the sync looks for what is stale. -/
def syncRun (before after : List Input) : List Input :=
  [.fetch 0 .tickTick ⟨1⟩ ⟨1⟩, .upsertFetched 0 (tickTickRow "b" 2)] ++ before ++
  [.findStale 0] ++ after

/-- `create_task_from_notification`: the task is created at the provider, then stored. -/
def createTaskFromNotification : List Input :=
  [.begin 1, .appear (source (tickTickRow "c" 3)), .upsertItem 1 (tickTickRow "c" 3),
    .createTask 1 (tickTickTask (tickTickRow "c" 3) 3), .commit 1]

theorem lateTask_spared :
    Along step SparesNew (initial completedTask [source (tickTickRow "b" 2)])
      (syncRun [] (createTaskFromNotification ++ [.markAsDone 0, .markAsDone 0, .convertMarked 0,
        .createTask 0 (tickTickTask (tickTickRow "b" 2) 2), .commit 0])) :=
  sparesNew_of_guard completedTask [source (tickTickRow "b" 2)] _ (by decide +kernel)

/-- The task created while the sync was fetching is marked as done, though its item is still at
the provider. -/
theorem earlyTask_retired :
    Possible step (initial completedTask [source (tickTickRow "b" 2)])
        (syncRun createTaskFromNotification [.markAsDone 0, .markAsDone 0, .markAsDone 0,
          .convertMarked 0, .convertMarked 0, .commit 0]) ∧
      ¬ Along step SparesNew (initial completedTask [source (tickTickRow "b" 2)])
        (syncRun createTaskFromNotification [.markAsDone 0, .markAsDone 0, .markAsDone 0,
          .convertMarked 0, .convertMarked 0, .commit 0]) := by
  decide +kernel

end UniversalInbox.StalePass
