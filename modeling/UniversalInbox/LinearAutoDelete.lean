import UniversalInbox.Library.CommitOrder
import UniversalInbox.NotificationConversion
import UniversalInbox.StalePass
import UniversalInbox.ThirdPartyItemUpsert

/-! The notifications of a Linear issue are deleted when the issue is synchronized as a task, and
when they are synchronized after it. Each sync does its half in a transaction of its own, over what
the other has committed. -/
namespace UniversalInbox.LinearAutoDelete
open NotificationConversion NotificationUpsert ReadCommitted Transition
open StalePass (Row RowId RowKey isReadOrUnread items mem_items mem_notifications mem_tasks
  notifications tasks)
open TaskUpsert (requestedTask)

structure LinearSyncTaskConfig where
  enabled : Bool
  autoDeleteNotifications : Bool
deriving DecidableEq, Repr

def LinearSyncTaskConfig.isAutoDeleteNotificationsOnTaskSyncEnabled
    (config : LinearSyncTaskConfig) : Bool := config.enabled && config.autoDeleteNotifications

/-- A sync that stores the task of an issue, and one that stores a notification of the same issue.
Each item is what its sync has fetched; `intoTask` is the conversion of the issue. -/
structure Syncs where
  codec : Codec
  userId : UserId
  config : LinearSyncTaskConfig
  issue : ThirdPartyItem
  intoTask : ThirdPartyItem → CreateOrUpdateTaskRequest
  notification : ThirdPartyItem
  content : String
  stamp : NotificationStamp
  issue_kind : issue.data.kind = .linearIssue
  notification_data : notification.data = .linearNotification content
  same_issue : (codec.linear content).getIssueId = some issue.sourceId

section Statements
variable (rows : List Row)

/-- An item joined with its source item. -/
def joinItem (row : ThirdPartyItemRow) : ThirdPartyItem :=
  row.intoThirdPartyItem (row.sourceItemId.bind fun id =>
    ((items rows).find? (·.id == id)).map (·.intoThirdPartyItem none))

def joinTask (row : TaskRow) : Option Task :=
  let item := fun id => ((items rows).find? (·.id == id)).map (·.intoThirdPartyItem none)
  (item row.sourceItemId).map fun sourceItem => row.intoTask sourceItem (row.sinkItemId.bind item)

def onItem (f : ThirdPartyItemRow → ThirdPartyItemRow) : Row → Row
  | .thirdPartyItem row => .thirdPartyItem (f row)
  | r => r

def onTask (f : TaskRow → TaskRow) : Row → Row
  | .task row => .task (f row)
  | r => r

def onNotification (f : NotificationRow → NotificationRow) : Row → Row
  | .notification row => .notification (f row)
  | r => r

/-- A statement on the table of notifications. -/
def writeNotification : Write NotificationRow → Write Row
  | .insert row => .insert (.notification row)
  | .update p f => .update (fun r => r.notification?.any p) (onNotification f)

/-- The statement of the upsert that writes, if any, and the item it returns. -/
def createOrUpdateThirdPartyItem (item : ThirdPartyItem) : Option (Write Row) × ThirdPartyItem :=
  match (items rows).find? (ThirdPartyItemUpsert.itemMatches item) with
  | some row =>
    if (joinItem rows row).eq item then (none, joinItem rows row)
    else
      (some (.update (fun r => decide (r.id = .thirdPartyItem row.id))
          (onItem (ThirdPartyItemUpsert.updateRow item))),
        { joinItem rows row with data := item.data, updatedAt := item.updatedAt })
  | none => (some (.insert (.thirdPartyItem (ThirdPartyItemUpsert.insertRow item))), item)

def itemMatches (id : ThirdPartyItemId) (item : ThirdPartyItem) : Bool :=
  id == item.id && (items rows).any fun row => row.id == id && row.data.kind == item.kind

/-- The task may be known by its source item or by its sink item. -/
def taskMatches (request : CreateOrUpdateTaskRequest) (row : TaskRow) : Bool :=
  (itemMatches rows row.sourceItemId request.sourceItem ||
      row.sinkItemId.any fun id => itemMatches rows id request.sourceItem) &&
    row.userId == request.userId

def createOrUpdateTask (request : CreateOrUpdateTaskRequest) : Option (Write Row) :=
  match ((tasks rows).find? (taskMatches rows request)).bind (joinTask rows) with
  | some existing =>
    if existing == requestedTask request existing then none
    else some (.update (fun r => decide (r.id = .task existing.id))
      (onTask (TaskUpsert.updateRow request)))
  | none => some (.insert (.task (TaskUpsert.insertRow request)))

/-- The issue of a Linear notification, by its source item. -/
def issueOf (codec : Codec) : ThirdPartyItemData → Option String
  | .linearNotification content => (codec.linear content).getIssueId
  | _ => none

/-- A Linear notification of the issue that is in the inbox of the user. -/
def isInInbox (codec : Codec) (linearIssueId : String) (userId : UserId) (row : NotificationRow) :
    Bool :=
  row.kind == .linear && isReadOrUnread row.status && row.userId == userId &&
    (items rows).any fun item =>
      item.id == row.sourceItemId && issueOf codec item.data == some linearIssueId

/-- The rows that `delete_notifications_for_linear_issue_id` updates. -/
def linearIssueNotifications (codec : Codec) (linearIssueId : String) (userId : UserId) :
    List NotificationId :=
  ((notifications rows).filter (isInInbox rows codec linearIssueId userId)).map (·.id)

def deleteNotifications (ids : List NotificationId) : Write Row :=
  .update (fun r => r.notification?.any fun row => ids.contains row.id)
    (Row.setNotificationStatus .deleted)

/-- The items of `find_third_party_items_for_source_id`. -/
def findThirdPartyItemsForSourceId (sourceId : String) (userId : UserId) :
    List ThirdPartyItemRow :=
  (items rows).filter fun item =>
    item.sourceId == sourceId && item.data.kind == .linearIssue && item.userId == userId

def getTaskForSourceItemId (sourceItemId : ThirdPartyItemId) (userId : UserId) : Option TaskRow :=
  (tasks rows).find? fun task => task.sourceItemId == sourceItemId && task.userId == userId

end Statements

/-- What a task sync is about to do. -/
inductive TaskProgress where
  | storingItem
  | storingTask (item : ThirdPartyItem)
  | deletingNotifications
  | finished

/-- What a notification sync is about to do; it reads the stored notification before it writes it,
and the task of one item of the issue after another. -/
inductive NotificationProgress where
  | storingItem
  | selecting (item : ThirdPartyItem)
  | writing (request : UpsertRequest) (existing : Option Notification)
  | findingItems (id : NotificationId)
  | gettingTasks (id : NotificationId) (items : List ThirdPartyItemId)
  | deleting (id : NotificationId)
  | finished (id : NotificationId)

inductive Progress where
  | tasks (progress : TaskProgress)
  | notifications (progress : NotificationProgress)

inductive Party where
  | tasks
  | notifications
deriving DecidableEq, Repr

abbrev Session := ReadCommitted.Session Party Row Progress

abbrev State := Store Party Row Progress

namespace Syncs
variable (syncs : Syncs) (rows : List Row)

def linearIssueId : String := syncs.issue.sourceId

/-- The notification that is saved of the item. -/
def request (item : ThirdPartyItem) : UpsertRequest :=
  (linearIntoNotification syncs.stamp (syncs.codec.linear syncs.content)).request syncs.stamp.id item
    syncs.userId

def taskStatement : TaskProgress → Option (Write Row) × TaskProgress
  | .storingItem =>
    let (write, item) := createOrUpdateThirdPartyItem rows syncs.issue
    (write, .storingTask item)
  | .storingTask item => (createOrUpdateTask rows (syncs.intoTask item), .deletingNotifications)
  | .deletingNotifications =>
    if syncs.config.isAutoDeleteNotificationsOnTaskSyncEnabled then
      (some (deleteNotifications
        (linearIssueNotifications rows syncs.codec syncs.linearIssueId syncs.userId)), .finished)
    else (none, .finished)
  | .finished => (none, .finished)

def notificationStatement :
    NotificationProgress → Option (Write Row) × NotificationProgress
  | .storingItem =>
    let (write, item) := createOrUpdateThirdPartyItem rows syncs.notification
    (write, .selecting item)
  | .selecting item =>
    let existing := (notifications rows).find? fun row =>
      decide (sourceKey row = (syncs.request item).key)
    (none, .writing (syncs.request item) (existing.map (intoNotification · item)))
  | .writing request existing =>
    let (write, upserted) := createOrUpdateNotification existing request
    (write.map writeNotification,
      if syncs.config.isAutoDeleteNotificationsOnTaskSyncEnabled then
        .findingItems upserted.value.id
      else .finished upserted.value.id)
  | .findingItems id =>
    match (syncs.codec.linear syncs.content).getIssueId with
    | some linearIssueId =>
      (none, .gettingTasks id
        ((findThirdPartyItemsForSourceId rows linearIssueId syncs.userId).map (·.id)))
    | none => (none, .finished id)
  | .gettingTasks id (item :: rest) =>
    if (getTaskForSourceItemId rows item syncs.userId).any (·.status != .deleted) then
      (none, .deleting id)
    else (none, .gettingTasks id rest)
  | .gettingTasks id [] => (none, .finished id)
  | .deleting id => (some (deleteNotifications [id]), .finished id)
  | .finished id => (none, .finished id)

/-- The next statement of a transaction, and where it leaves it; none is left before its commit. -/
def statement : Progress → Option (Option (Write Row) × Progress)
  | .tasks .finished | .notifications (.finished _) => none
  | .tasks progress => some ((syncs.taskStatement rows progress).map id .tasks)
  | .notifications progress =>
    some ((syncs.notificationStatement rows progress).map id .notifications)

end Syncs

/-- An insert waits for, or is refused by, a row with its primary key or its unique key; an update
waits for the other transaction when that has written its row. -/
def executable (s : State) (id : Party) : Write Row → Bool
  | .insert row => !(s.claimedKeys Row.id).contains row.id &&
      !(s.claimedKeys Row.key).contains row.key
  | .update p f => !s.blocked id (.update p f)

/-- The next statement of one of the two transactions, or its commit. -/
def step (syncs : Syncs) (s : State) (party : Party) : Option State :=
  (s.sessions.find? party).bind fun session =>
    match syncs.statement (s.visible session) session.memory with
    | none => some (s.commit session)
    | some (write, memory) =>
      if write.all (executable s session.id) then some (s.run session.id write memory) else none

/-- The constraints of the schema that the two syncs rely on. -/
structure Constraints (rows : List Row) : Prop where
  ids : (rows.map Row.id).Nodup
  keys : (rows.map Row.key).Nodup
  notification_source : ∀ row ∈ notifications rows, ∃ item ∈ items rows, item.id = row.sourceItemId

/-- Both transactions have begun. -/
def begun (rows : List Row) : State where
  committed := rows
  sessions :=
    ⟨[⟨.tasks, [], .tasks .storingItem⟩, ⟨.notifications, [], .notifications .storingItem⟩],
      by decide⟩

namespace Syncs
variable (syncs : Syncs) (rows : List Row)

/-- The item has a task of the user that is not deleted. -/
def isLive (item : ThirdPartyItemId) : Bool :=
  (tasks rows).any fun task =>
    task.sourceItemId == item && task.userId == syncs.userId && task.status != .deleted

/-- The issue has a task that is not deleted. -/
def hasTask : Bool :=
  (findThirdPartyItemsForSourceId rows syncs.linearIssueId syncs.userId).any
    fun item => syncs.isLive rows item.id

/-- The notifications of the issue that are unread or read. -/
def inbox : List NotificationId :=
  linearIssueNotifications rows syncs.codec syncs.linearIssueId syncs.userId

/-- No unread or read notification of the issue remains while its task is not deleted. -/
def Settled : Prop := syncs.hasTask rows = true → syncs.inbox rows = []

instance : Decidable (syncs.Settled rows) := inferInstanceAs (Decidable (_ → _))

end Syncs

namespace Progress

def tasks? : Progress → Option TaskProgress
  | .tasks progress => some progress
  | .notifications _ => none

def notifications? : Progress → Option NotificationProgress
  | .notifications progress => some progress
  | .tasks _ => none

end Progress

namespace NotificationProgress

/-- The notification that the sync has stored, or is about to. -/
def stored? : NotificationProgress → Option NotificationId
  | .storingItem | .selecting _ => none
  | .writing request existing => some (createOrUpdateNotification existing request).2.value.id
  | .findingItems id | .gettingTasks id _ | .deleting id | .finished id => some id

/-- The sync has yet to look for the task of the issue, or is to find it. -/
def finds (syncs : Syncs) (rows : List Row) : NotificationProgress → Bool
  | .gettingTasks _ items => items.any (syncs.isLive rows)
  | .finished _ => false
  | .storingItem | .selecting _ | .writing _ _ | .findingItems _ | .deleting _ => true

end NotificationProgress

def bothCommitted (s : State) : Bool := s.sessions.rows.isEmpty

/-- The task sync has deleted the notifications of the issue, and has not committed. -/
def deleteIsPending (s : State) : Bool :=
  s.sessions.rows.any fun x => match x.memory with
    | .tasks .finished => true
    | _ => false

/-- The delete sees the notification that the other sync has stored, or that sync is to find the
task. -/
def DeleteSees (syncs : Syncs) (s : State) (session : Session) : Prop :=
  syncs.hasTask s.merged = true → ∀ other ∈ s.sessions.rows,
    ∀ progress ∈ other.memory.notifications?, ∀ id ∈ progress.stored?, id ∈ syncs.inbox s.merged →
      id ∈ syncs.inbox (s.visible session) ∨ progress.finds syncs s.merged = true

/-- The item, if it is stored, is of a notification of the issue. -/
def SameIssue (syncs : Syncs) (rows : List Row) : Prop :=
  ∀ item ∈ items rows, ThirdPartyItemUpsert.itemMatches syncs.notification item = true →
    issueOf syncs.codec item.data = some syncs.linearIssueId

/-- An item of the issue that the sync sees has the task. -/
def ItemsSeen (syncs : Syncs) (s : State) (session : Session) (id : NotificationId) : Prop :=
  syncs.hasTask s.merged = true → id ∈ syncs.inbox s.merged →
    (findThirdPartyItemsForSourceId (s.visible session) syncs.linearIssueId syncs.userId).any
      (fun item => syncs.isLive s.merged item.id) = true

/-- The sync sees the task of the item, or that of an item it has still to look at. -/
def TaskSeen (syncs : Syncs) (s : State) (session : Session) (id : NotificationId)
    (item : ThirdPartyItemId) (rest : List ThirdPartyItemId) : Prop :=
  syncs.isLive s.merged item = true → id ∈ syncs.inbox s.merged →
    syncs.isLive (s.visible session) item = true ∨ rest.any (syncs.isLive s.merged) = true

/-- What the sync is about to run sees what the other has stored, committed or not, where its check
is the last of the two: the delete of the task sync, and the look for the task once that delete has
run. The notification is not stored with another issue. -/
def Sees (syncs : Syncs) (s : State) (session : Session) : Progress → Prop
  | .tasks .deletingNotifications => DeleteSees syncs s session
  | .notifications .storingItem => SameIssue syncs (s.visible session)
  | .notifications (.findingItems id) => deleteIsPending s = true → ItemsSeen syncs s session id
  | .notifications (.gettingTasks id (item :: rest)) =>
    deleteIsPending s = true → TaskSeen syncs s session id item rest
  | _ => True

def Guard (syncs : Syncs) (s : State) (party : Party) : Prop :=
  ∀ session ∈ s.sessions.find? party, Sees syncs s session session.memory

instance (syncs : Syncs) (s : State) (session : Session) :
    ∀ progress, Decidable (Sees syncs s session progress)
  | .tasks .deletingNotifications => inferInstanceAs (Decidable (_ → ∀ _ ∈ _, ∀ _ ∈ _, ∀ _ ∈ _, _ → _ ∨ _))
  | .notifications .storingItem => inferInstanceAs (Decidable (∀ _ ∈ _, _ → _))
  | .notifications (.findingItems _) => inferInstanceAs (Decidable (_ → _ → _ → _))
  | .notifications (.gettingTasks _ (_ :: _)) => inferInstanceAs (Decidable (_ → _ → _ → _ ∨ _))
  | .tasks .storingItem | .tasks (.storingTask _) | .tasks .finished | .notifications (.selecting _)
  | .notifications (.writing _ _) | .notifications (.gettingTasks _ []) | .notifications (.deleting _)
  | .notifications (.finished _) => .isTrue trivial

instance (syncs : Syncs) (s : State) (party : Party) : Decidable (Guard syncs s party) :=
  inferInstanceAs (Decidable (∀ _ ∈ _, Sees _ _ _ _))

section Rows
variable {syncs : Syncs} {rows rows' : List Row} {r : Row} {id : NotificationId}

theorem mem_update {p : Row → Bool} {f : Row → Row} :
    r ∈ (Write.update p f).apply rows ↔ ∃ r₀ ∈ rows, (if p r₀ = true then f r₀ else r₀) = r :=
  List.mem_map

/-- A notification in the inbox, with the item that tells its issue. -/
theorem mem_inbox : id ∈ syncs.inbox rows ↔
    ∃ row, .notification row ∈ rows ∧ row.id = id ∧ row.kind = .linear ∧
      isReadOrUnread row.status = true ∧ row.userId = syncs.userId ∧
      ∃ item, .thirdPartyItem item ∈ rows ∧ item.id = row.sourceItemId ∧
        issueOf syncs.codec item.data = some syncs.linearIssueId := by
  unfold Syncs.inbox linearIssueNotifications isInInbox
  simp only [List.mem_map, List.mem_filter, mem_notifications, Bool.and_eq_true, beq_iff_eq,
    List.any_eq_true, mem_items]
  constructor
  · rintro ⟨row, ⟨hrow, ⟨⟨hkind, hstatus⟩, howned⟩, hitem⟩, hid⟩
    exact ⟨row, hrow, hid, hkind, hstatus, howned, hitem⟩
  · rintro ⟨row, hrow, hid, hkind, hstatus, howned, hitem⟩
    exact ⟨row, ⟨hrow, ⟨⟨hkind, hstatus⟩, howned⟩, hitem⟩, hid⟩

/-- The notification was in the inbox before, when its row and its item were there. -/
theorem mem_inbox_of (h : id ∈ syncs.inbox rows')
    (hnotification : ∀ row, .notification row ∈ rows' → row.id = id →
      isReadOrUnread row.status = true → .notification row ∈ rows)
    (hitem : ∀ item row, .thirdPartyItem item ∈ rows' → .notification row ∈ rows' →
      item.id = row.sourceItemId → issueOf syncs.codec item.data = some syncs.linearIssueId →
        ∃ old, .thirdPartyItem old ∈ rows ∧ old.id = item.id ∧
          issueOf syncs.codec old.data = some syncs.linearIssueId) :
    id ∈ syncs.inbox rows := by
  obtain ⟨row, hrow, hid, hkind, hstatus, howned, item, hmem, hsource, hissue⟩ := mem_inbox.mp h
  obtain ⟨old, hold, hsame, hissue'⟩ := hitem item row hmem hrow hsource hissue
  exact mem_inbox.mpr ⟨row, hnotification row hrow hid hstatus, hid, hkind, hstatus, howned, old,
    hold, hsame.trans hsource, hissue'⟩

theorem inbox_mono (h : ∀ r ∈ rows, r ∈ rows') (hid : id ∈ syncs.inbox rows) :
    id ∈ syncs.inbox rows' :=
  mem_inbox_of hid (fun _ hrow _ _ => h _ hrow) fun item _ hitem _ _ hissue =>
    ⟨item, h _ hitem, rfl, hissue⟩

theorem isLive_iff {item : ThirdPartyItemId} : syncs.isLive rows item = true ↔
    ∃ task, .task task ∈ rows ∧ task.sourceItemId = item ∧ task.userId = syncs.userId ∧
      task.status ≠ .deleted := by
  unfold Syncs.isLive
  simp only [List.any_eq_true, mem_tasks, Bool.and_eq_true, beq_iff_eq, bne_iff_ne, and_assoc]

theorem isLive_mono {item : ThirdPartyItemId}
    (h : ∀ task, .task task ∈ rows → .task task ∈ rows') (hlive : syncs.isLive rows item = true) :
    syncs.isLive rows' item = true := by
  obtain ⟨task, htask, hrest⟩ := isLive_iff.mp hlive
  exact isLive_iff.mpr ⟨task, h task htask, hrest⟩

theorem isLive_congr {item : ThirdPartyItemId}
    (h : ∀ task, .task task ∈ rows ↔ .task task ∈ rows') :
    syncs.isLive rows item = syncs.isLive rows' item :=
  Bool.eq_iff_iff.mpr ⟨isLive_mono fun task => (h task).mp, isLive_mono fun task => (h task).mpr⟩

theorem mem_issueItems {item : ThirdPartyItemRow} {sourceId : String} {userId : UserId} :
    item ∈ findThirdPartyItemsForSourceId rows sourceId userId ↔
      .thirdPartyItem item ∈ rows ∧ item.sourceId = sourceId ∧ item.data.kind = .linearIssue ∧
        item.userId = userId := by
  unfold findThirdPartyItemsForSourceId
  simp only [List.mem_filter, mem_items, Bool.and_eq_true, beq_iff_eq, and_assoc]

theorem hasTask_iff : syncs.hasTask rows = true ↔
    ∃ item ∈ findThirdPartyItemsForSourceId rows syncs.linearIssueId syncs.userId,
      syncs.isLive rows item.id = true := List.any_eq_true

theorem hasTask_mono
    (hitems : ∀ item, .thirdPartyItem item ∈ rows → item.data.kind = .linearIssue →
      .thirdPartyItem item ∈ rows')
    (htasks : ∀ task, .task task ∈ rows → .task task ∈ rows') (h : syncs.hasTask rows = true) :
    syncs.hasTask rows' = true := by
  obtain ⟨item, hitem, hlive⟩ := hasTask_iff.mp h
  obtain ⟨hmem, hsource, hkind, howned⟩ := mem_issueItems.mp hitem
  exact hasTask_iff.mpr ⟨item, mem_issueItems.mpr ⟨hitems item hmem hkind, hsource, hkind, howned⟩,
    isLive_mono htasks hlive⟩

theorem inbox_perm (h : rows.Perm rows') : id ∈ syncs.inbox rows ↔ id ∈ syncs.inbox rows' :=
  ⟨inbox_mono fun _ => h.mem_iff.mp, inbox_mono fun _ => h.mem_iff.mpr⟩

theorem isLive_perm (h : rows.Perm rows') {item : ThirdPartyItemId} :
    syncs.isLive rows item = syncs.isLive rows' item := isLive_congr fun _ => h.mem_iff

theorem hasTask_perm (h : rows.Perm rows') : syncs.hasTask rows = syncs.hasTask rows' :=
  Bool.eq_iff_iff.mpr
    ⟨hasTask_mono (fun _ hitem _ => h.mem_iff.mp hitem) fun _ => h.mem_iff.mp,
      hasTask_mono (fun _ hitem _ => h.mem_iff.mpr hitem) fun _ => h.mem_iff.mpr⟩

/-- Only a Linear notification is of an issue. -/
theorem kind_of_issueOf {codec : Codec} {data : ThirdPartyItemData} {issue : String}
    (h : issueOf codec data = some issue) : data.kind = .linearNotification := by
  cases data with
  | linearNotification content => rfl
  | _ => cases h

end Rows

/-- What is unique of a row besides its identifier: a task has its source item for its own. -/
def taskKey : Row → ThirdPartyItemId ⊕ RowId
  | .task row => .inl row.sourceItemId
  | r => .inr r.id

/-- A write of a sync that sees `rows`. -/
structure Sound (rows : List Row) (w : Write Row) : Prop where
  byKey : w.ByKey Row.id
  keeps : w.Keeps taskKey
  seen : ∀ k ∈ w.touched Row.id, k ∈ (w.apply rows).map Row.id

/-- The upsert of an item, by a sync that sees `rows`. -/
structure ItemWrite (rows : List Row) (item : ThirdPartyItem) (w : Write Row) : Prop where
  sound : Sound rows w
  touched : ∀ k ∈ w.touched Row.id,
    (∃ row, .thirdPartyItem row ∈ rows ∧ ThirdPartyItemUpsert.itemMatches item row = true ∧
      k = .thirdPartyItem row.id) ∨
    k = .thirdPartyItem item.id ∧
      w = .insert (.thirdPartyItem (ThirdPartyItemUpsert.insertRow item))
  written : ∀ rows' row, .thirdPartyItem row ∈ w.apply rows' →
    .thirdPartyItem row ∈ rows' ∨ row.data = item.data

/-- A write of one task. -/
structure TaskWrite (rows : List Row) (w : Write Row) : Prop where
  sound : Sound rows w
  touched : ∀ k ∈ w.touched Row.id, ∃ id, k = .task id

/-- A write of the notifications that `ids` names. -/
structure NotificationWrite (rows : List Row) (ids : List NotificationId) (w : Write Row) :
    Prop where
  sound : Sound rows w
  touched : ∀ k ∈ w.touched Row.id, ∃ id ∈ ids, k = .notification id

section Writes
variable {rows : List Row} {w : Write Row} {item : ThirdPartyItem} {p : Row → Bool} {f : Row → Row}

theorem sound_insert (r : Row) : Sound rows (.insert r) where
  byKey := ⟨trivial, fun _ _ _ => rfl⟩
  keeps := trivial
  seen k hk := by
    rw [show k = r.id from hk]
    exact List.mem_map_of_mem (List.mem_append_right _ (List.mem_singleton_self r))

theorem sound_update (hid : ∀ r, (f r).id = r.id) (hkey : ∀ r, taskKey (f r) = taskKey r)
    (hp : ∀ r r', r.id = r'.id → p r = p r') (hseen : ∀ r, p r = true → r.id ∈ rows.map Row.id) :
    Sound rows (.update p f) where
  byKey := ⟨hid, hp⟩
  keeps := hkey
  seen k hk := by
    obtain ⟨r, rfl, hr⟩ := hk
    rw [show (Write.apply rows (.update p f)).map Row.id = rows.map Row.id from
      Table.map_map_ite hid]
    exact hseen r hr

theorem mem_keys_of_sound (h : Sound rows w) {rows' : List Row} {k : RowId}
    (hk : k ∈ rows'.map Row.id) : k ∈ (w.apply rows').map Row.id := by
  cases w with
  | insert row => exact List.map_append ▸ List.mem_append_left _ hk
  | update p f =>
    rwa [show (Write.apply rows' (.update p f)).map Row.id = rows'.map Row.id from
      Table.map_map_ite h.byKey.keeps]

theorem itemWrite (h : (createOrUpdateThirdPartyItem rows item).1 = some w) :
    ItemWrite rows item w := by
  unfold createOrUpdateThirdPartyItem at h
  split at h
  · next row hfind =>
    have hrow := mem_items.mp (List.mem_of_find?_eq_some hfind)
    have hmatches := List.find?_some hfind
    split at h
    · cases h
    · cases h
      refine ⟨sound_update (fun r => ?_) (fun r => ?_) (fun r r' hid => by rw [hid]) fun r hr => ?_,
        fun k hk => .inl ⟨row, hrow, hmatches, ?_⟩, fun rows' row' hmem => ?_⟩
      · cases r <;> rfl
      · cases r <;> rfl
      · rw [of_decide_eq_true hr]
        exact List.mem_map_of_mem (f := Row.id) hrow
      · obtain ⟨r, rfl, hr⟩ := hk
        exact of_decide_eq_true hr
      · obtain ⟨r, hr, hnew⟩ := mem_update.mp hmem
        split at hnew
        · cases r with
          | thirdPartyItem old =>
            cases hnew
            exact .inr rfl
          | task old => cases hnew
          | notification old => cases hnew
        · exact .inl (hnew ▸ hr)
  · cases h
    refine ⟨sound_insert _, fun k hk => .inr ⟨hk, rfl⟩, fun rows' row' hmem => ?_⟩
    refine (List.mem_append.mp hmem).imp_right fun hlast => ?_
    cases List.mem_singleton.mp hlast
    rfl

theorem taskWrite {request : CreateOrUpdateTaskRequest}
    (h : createOrUpdateTask rows request = some w) : TaskWrite rows w := by
  unfold createOrUpdateTask at h
  split at h
  · next existing hfind =>
    obtain ⟨row, hrow, hjoin⟩ := Option.bind_eq_some_iff.mp hfind
    obtain ⟨source, -, rfl⟩ := Option.map_eq_some_iff.mp hjoin
    have hmem := mem_tasks.mp (List.mem_of_find?_eq_some hrow)
    split at h
    · cases h
    · cases h
      refine ⟨sound_update (fun r => ?_) (fun r => ?_) (fun r r' hid => by rw [hid]) fun r hr => ?_,
        fun k hk => ⟨row.id, ?_⟩⟩
      · cases r <;> rfl
      · cases r <;> rfl
      · rw [of_decide_eq_true hr]
        exact List.mem_map_of_mem (f := Row.id) hmem
      · obtain ⟨r, rfl, hr⟩ := hk
        exact of_decide_eq_true hr
  · cases h
    exact ⟨sound_insert _, fun k hk => ⟨_, hk⟩⟩

theorem notificationWrite_delete {ids : List NotificationId}
    (hids : ∀ id ∈ ids, .notification id ∈ rows.map Row.id) :
    NotificationWrite rows ids (deleteNotifications ids) := by
  have hnamed : ∀ r : Row, (r.notification?.any fun row => ids.contains row.id) = true →
      ∃ id ∈ ids, r.id = .notification id := by
    intro r hr
    cases r with
    | notification row => exact ⟨row.id, by simpa [Row.notification?] using hr, rfl⟩
    | thirdPartyItem row => cases hr
    | task row => cases hr
  refine ⟨sound_update (fun r => ?_) (fun r => ?_) (fun r r' hid => ?_) fun r hr => ?_,
    fun k hk => ?_⟩
  · cases r <;> rfl
  · cases r <;> rfl
  · cases r <;> cases r' <;> simp_all [Row.id, Row.notification?]
  · obtain ⟨id, hid, hsame⟩ := hnamed r hr
    exact hsame ▸ hids id hid
  · obtain ⟨r, rfl, hr⟩ := hk
    exact hnamed r hr

theorem notificationWrite_upsert {request : UpsertRequest} {existing : Option Notification}
    {write : Write NotificationRow}
    (h : (createOrUpdateNotification existing request).1 = some write)
    (hexisting : ∀ n ∈ existing, .notification n.id ∈ rows.map Row.id) :
    NotificationWrite rows [(createOrUpdateNotification existing request).2.value.id]
      (writeNotification write) := by
  unfold createOrUpdateNotification at h ⊢
  cases existing with
  | none =>
    cases h
    exact ⟨sound_insert _, fun k hk => ⟨_, List.mem_singleton_self _, hk⟩⟩
  | some n =>
    simp only at h ⊢
    split at h
    · cases h
    · next hdiffers =>
      cases h
      rw [if_neg hdiffers]
      have hnamed : ∀ r : Row, (r.notification?.any fun row => row.id == n.id) = true →
          r.id = .notification n.id := by
        intro r hr
        cases r with
        | notification row =>
          have hid : row.id = n.id := by simpa [Row.notification?] using hr
          exact congrArg RowId.notification hid
        | thirdPartyItem row => cases hr
        | task row => cases hr
      refine ⟨sound_update (fun r => ?_) (fun r => ?_) (fun r r' hid => ?_) fun r hr => ?_,
        fun k hk => ⟨n.id, List.mem_singleton_self _, ?_⟩⟩
      · cases r <;> rfl
      · cases r <;> rfl
      · cases r <;> cases r' <;> simp_all [Row.id, Row.notification?]
      · exact hnamed r hr ▸ hexisting n rfl
      · obtain ⟨r, rfl, hr⟩ := hk
        exact hnamed r hr

/-- The source item of each notification is stored. -/
def SourcesStored (rows : List Row) : Prop :=
  ∀ row, .notification row ∈ rows → .thirdPartyItem row.sourceItemId ∈ rows.map Row.id

section Effects
variable {syncs : Syncs} {id : NotificationId} {ids : List NotificationId} {rows' : List Row}

theorem ItemWrite.notification_iff (h : ItemWrite rows item w) {row : NotificationRow} :
    .notification row ∈ w.apply rows' ↔ .notification row ∈ rows' := by
  refine h.sound.byKey.mem_apply fun htouched => ?_
  rcases h.touched _ htouched with ⟨_, _, _, hk⟩ | ⟨hk, _⟩ <;> cases hk

theorem ItemWrite.task_iff (h : ItemWrite rows item w) {row : TaskRow} :
    .task row ∈ w.apply rows' ↔ .task row ∈ rows' := by
  refine h.sound.byKey.mem_apply fun htouched => ?_
  rcases h.touched _ htouched with ⟨_, _, _, hk⟩ | ⟨hk, _⟩ <;> cases hk

theorem TaskWrite.notification_iff (h : TaskWrite rows w) {row : NotificationRow} :
    .notification row ∈ w.apply rows' ↔ .notification row ∈ rows' := by
  refine h.sound.byKey.mem_apply fun htouched => ?_
  obtain ⟨_, hk⟩ := h.touched _ htouched
  cases hk

theorem TaskWrite.item_iff (h : TaskWrite rows w) {row : ThirdPartyItemRow} :
    .thirdPartyItem row ∈ w.apply rows' ↔ .thirdPartyItem row ∈ rows' := by
  refine h.sound.byKey.mem_apply fun htouched => ?_
  obtain ⟨_, hk⟩ := h.touched _ htouched
  cases hk

theorem NotificationWrite.task_iff (h : NotificationWrite rows ids w) {row : TaskRow} :
    .task row ∈ w.apply rows' ↔ .task row ∈ rows' := by
  refine h.sound.byKey.mem_apply fun htouched => ?_
  obtain ⟨_, -, hk⟩ := h.touched _ htouched
  cases hk

theorem NotificationWrite.item_iff (h : NotificationWrite rows ids w) {row : ThirdPartyItemRow} :
    .thirdPartyItem row ∈ w.apply rows' ↔ .thirdPartyItem row ∈ rows' := by
  refine h.sound.byKey.mem_apply fun htouched => ?_
  obtain ⟨_, -, hk⟩ := h.touched _ htouched
  cases hk

theorem NotificationWrite.notification_iff (h : NotificationWrite rows ids w)
    {row : NotificationRow} (hid : row.id ∉ ids) :
    .notification row ∈ w.apply rows' ↔ .notification row ∈ rows' := by
  refine h.sound.byKey.mem_apply fun htouched => ?_
  obtain ⟨id, hmem, hk⟩ := h.touched _ htouched
  cases hk
  exact hid hmem

theorem NotificationWrite.hasTask (h : NotificationWrite rows ids w) :
    syncs.hasTask (w.apply rows') = syncs.hasTask rows' :=
  Bool.eq_iff_iff.mpr
    ⟨hasTask_mono (fun _ hitem _ => h.item_iff.mp hitem) fun _ => h.task_iff.mp,
      hasTask_mono (fun _ hitem _ => h.item_iff.mpr hitem) fun _ => h.task_iff.mpr⟩

/-- Only the notifications it names enter the inbox. -/
theorem NotificationWrite.inbox (h : NotificationWrite rows ids w)
    (hid : id ∈ syncs.inbox (w.apply rows')) : id ∈ ids ∨ id ∈ syncs.inbox rows' := by
  by_cases hmem : id ∈ ids
  · exact .inl hmem
  · refine .inr (mem_inbox_of hid (fun row hrow hsame _ => ?_) fun item row hitem _ _ hissue => ?_)
    · exact (h.notification_iff (hsame ▸ hmem)).mp hrow
    · exact ⟨item, h.item_iff.mp hitem, rfl, hissue⟩

/-- A delete takes the notifications it names from the inbox. -/
theorem inbox_delete (h : id ∈ syncs.inbox ((deleteNotifications ids).apply rows')) : id ∉ ids := by
  intro hmem
  obtain ⟨row, hrow, rfl, -, hstatus, -⟩ := mem_inbox.mp h
  obtain ⟨old, hold, hnew⟩ := mem_update.mp hrow
  cases old with
  | notification old =>
    split at hnew
    · cases hnew
      cases hstatus
    · next hnot =>
      cases hnew
      exact hnot (by simpa [Row.notification?] using hmem)
  | thirdPartyItem old => split at hnew <;> cases hnew
  | task old => split at hnew <;> cases hnew

theorem TaskWrite.inbox_iff (h : TaskWrite rows w) :
    id ∈ syncs.inbox (w.apply rows') ↔ id ∈ syncs.inbox rows' :=
  ⟨fun hid => mem_inbox_of hid (fun _ hrow _ _ => h.notification_iff.mp hrow)
      fun item _ hitem _ _ hissue => ⟨item, h.item_iff.mp hitem, rfl, hissue⟩,
    fun hid => mem_inbox_of hid (fun _ hrow _ _ => h.notification_iff.mpr hrow)
      fun item _ hitem _ _ hissue => ⟨item, h.item_iff.mpr hitem, rfl, hissue⟩⟩

/-- Storing the issue takes no notification into the inbox. -/
theorem ItemWrite.inbox_issue (h : ItemWrite rows syncs.issue w)
    (hid : id ∈ syncs.inbox (w.apply rows')) : id ∈ syncs.inbox rows' := by
  refine mem_inbox_of hid (fun _ hrow _ _ => h.notification_iff.mp hrow)
    fun item _ hitem _ _ hissue => ?_
  rcases h.written rows' item hitem with hold | hdata
  · exact ⟨item, hold, rfl, hissue⟩
  · have hkind := kind_of_issueOf hissue
    rw [hdata, syncs.issue_kind] at hkind
    cases hkind

/-- A notification's item is not the one that storing the issue writes. -/
theorem ItemWrite.untouched_issue (h : ItemWrite rows syncs.issue w)
    (hnodup : (rows.map Row.id).Nodup) {row : ThirdPartyItemRow} (hrow : .thirdPartyItem row ∈ rows)
    (hkind : row.data.kind = .linearNotification) :
    .thirdPartyItem row ∈ w.apply rows ∧
      ∀ p f, w = .update p f → .thirdPartyItem row.id ∉ w.touched Row.id := by
  have huntouched : ∀ p f, w = .update p f → .thirdPartyItem row.id ∉ w.touched Row.id := by
    rintro p f hw htouched
    rcases h.touched _ htouched with ⟨old, hold, hmatches, hk⟩ | ⟨-, hinsert⟩
    · have hsame := Row.thirdPartyItem.inj (List.inj_on_of_nodup_map hnodup hold hrow hk.symm)
      simp only [ThirdPartyItemUpsert.itemMatches, Bool.and_eq_true, beq_iff_eq] at hmatches
      have hissue : old.data.kind = .linearIssue := hmatches.1.1.2.trans syncs.issue_kind
      rw [hsame, hkind] at hissue
      cases hissue
    · rw [hw] at hinsert
      cases hinsert
  refine ⟨?_, huntouched⟩
  cases w with
  | insert r => exact List.mem_append_left _ hrow
  | update p f =>
    have hid : (Row.thirdPartyItem row).id ∉ (Write.update p f).touched Row.id :=
      huntouched p f rfl
    exact (h.sound.byKey.mem_apply hid).mpr hrow

end Effects

end Writes

end UniversalInbox.LinearAutoDelete
