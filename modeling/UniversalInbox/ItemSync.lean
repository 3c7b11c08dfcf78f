import UniversalInbox.InboxNotifications
import UniversalInbox.LinearAutoDelete

/-! The items of a user on their way into the inbox: what syncs and requests make of them, and the
tasks and notifications they return. -/
namespace UniversalInbox.ItemSync
open JobQueue NotificationPatching PeerService TaskUpsert
open BulkPatch (ProcessNotificationSideEffects patchRow)
open FilteredPatch (updateNotificationsByFilter)
open FullTaskSync (MarkTimes ThirdPartyItemScan getStaleTaskSourceThirdPartyItems markedAsDone
  modifiedValue)
open InboxNotifications (IntegrationProvider Reads TaskCreationResult deleteAndLinkPatch isModified
  saveModifiedTask)
open NotificationConversion (NotificationContent)
open NotificationSync (deleteStaleNotificationsStatusFromSourceIds hasSyncedTask
  restoreSetAsideNotifications)
open NotificationUpsert (joinedNotification upsertNotification)
open Propagation (resolveSinkProviderKind)
open StalePass (ThirdPartyItemSourceService isReadOrUnread notificationSourceKind taskSourceKind)
open TaskPatching (Tx)

/-- An item as the services make it: of the user whose account they read, with the items it
nests. -/
structure UserItem (userId : UserId) where
  item : ThirdPartyItem
  user : ∀ identity ∈ item.identities, identity.userId = userId

/-- What making a task of an item is answered, and what it takes from the clock and the settings.
A new item at a provider is one of the user it is created for. -/
structure TaskAnswers where
  connected : Bool
  provider : IntegrationProvider
  conversion : Except UniversalInboxError CreateOrUpdateTaskRequest
  sinkProviderKindHint : Option IntegrationProviderKind
  defaultTaskManagerProviderKind : Option IntegrationProviderKind
  peer : PeerAnswers
  accessToken : Bool
  createTask : (userId : UserId) → Except UniversalInboxError (UserItem userId)
  sink : SideEffectAnswers
  autoDeleteNotificationsOnTaskSync : Bool
  stamp : NotificationConversion.NotificationStamp

/-- And making a notification of it. -/
structure NotificationAnswers where
  conversion : Except UniversalInboxError NotificationContent
  notificationId : NotificationId
  autoDeleteNotificationsOnTaskSync : Bool

/-- What the services work with besides the tables. -/
structure Context where
  environment : Environment
  reads : Reads
  itemScan : (db : Database) → ThirdPartyItemScan db
  tickTick : String → FullTaskSync.TickTickItem
  codec : NotificationConversion.Codec
  payloads : FullTaskSync.Codec
  marks : ThirdPartyItemId → MarkTimes
  tasks : ThirdPartyItem → TaskAnswers
  notifications : ThirdPartyItem → NotificationAnswers

section Items

def upsertItem (item : ThirdPartyItem) : Tx (UpsertStatus ThirdPartyItem) :=
  Transaction.statement fun db => ThirdPartyItemService.createOrUpdateThirdPartyItem db item

variable (c : Context) (userId : UserId)

/-- `delete_notifications_for_linear_issue_id`. -/
def deleteNotificationsForLinearIssue (linearIssueId : String) (db : Database) : Database :=
  updateNotifications db
    (fun row => row.kind == .linear && isReadOrUnread row.status && row.userId == userId &&
      db.thirdPartyItems.rows.any fun item => item.id == row.sourceItemId &&
        LinearAutoDelete.issueOf c.codec item.data == some linearIssueId)
    (patchRow deletedPatch) (assignable_patchRow db deletedPatch)

/-- The stale items that a full sync of tasks marks as done, or the stale notifications that one of
notifications deletes. -/
def retireStale (service : ThirdPartyItemSourceService) (items : List ThirdPartyItem) :
    Tx (List ThirdPartyItem) :=
  let kind := service.getThirdPartyItemSourceKind
  match taskSourceKind kind, notificationSourceKind kind with
  | some taskKind, _ => do
    let db ← Transaction.get
    let stale := getStaleTaskSourceThirdPartyItems db (c.itemScan db) (items.map (·.id)) taskKind
      userId
    let marked ← Transaction.each
      (fun item => upsertItem (markedAsDone c.payloads (c.marks item.id) item)) stale
    return items ++ marked.filterMap modifiedValue
  | none, some notificationKind => do
    Transaction.modify fun db => deleteStaleNotificationsStatusFromSourceIds db (items.map (·.id))
      notificationKind userId
    return items
  | none, none => Transaction.fail (.unexpected
      "Cannot mark stale third party items as done, neither a TaskSource nor a NotificationSource")

/-- Nothing is fetched for test accounts. -/
def syncItems (service : ThirdPartyItemSourceService)
    (fetched : Except UniversalInboxError (List (UserItem userId))) : Tx (List ThirdPartyItem) :=
  if c.environment.isTesting then return []
  else do
    let items ← Transaction.answer fetched
    let upserted ← Transaction.each (fun item => upsertItem item.item) items
    let values := upserted.map (·.value)
    if service.isSyncIncremental then return values
    else retireStale c userId service values

end Items

section Tasks
variable (c : Context)

/-- `patch_task` of the sink alone. -/
def sinkPatch (sink : ThirdPartyItemId) : TaskPatch :=
  { status := none, projectName := none, dueAt := none, priority := none, body := none,
    title := none, sinkItemId := some sink }

/-- Returns the task with the sink it has now. -/
def createSinkItemFromTaskWithService (answers : TaskAnswers) (task : Task)
    (overwriteExistingSinkItem : Bool) : Tx Task :=
  if !answers.accessToken then
    Transaction.fail (.unexpected "Cannot create a sink item without an access token")
  else if task.sinkItem.isSome && !overwriteExistingSinkItem then return task
  else do
    let sinkThirdPartyItem ← Transaction.answer (answers.createTask task.userId)
    let upserted ← upsertItem sinkThirdPartyItem.item
    let _ ← TaskPatching.patchTask c.environment task.id (sinkPatch upserted.value.id) answers.sink
      task.userId
    return { task with sinkItem := some upserted.value }

def createSinkItemFromTask (answers : TaskAnswers) (task : Task) (overwriteExistingSinkItem : Bool)
    (taskProviderKind : IntegrationProviderKind) : Tx Task :=
  match taskProviderKind with
  | .todoist | .tickTick =>
    createSinkItemFromTaskWithService c answers task overwriteExistingSinkItem
  | _ => Transaction.fail (.unsupportedAction "Sink item creation is not supported")

/-- The update of `peer`, an item of the updated task. -/
def updatePeer (answers : TaskAnswers) (newTask oldTask : Task) (peer : ThirdPartyItem)
    (sinkProviderKind : IntegrationProviderKind) : Tx (UpsertStatus Task) :=
  match (applyTaskThirdPartyItemSideEffect c.environment.isTesting (taskPatch newTask oldTask)
      peer.kind answers.peer (fieldsOf oldTask)).2 with
  | .error (.itemNotFound message) =>
    if newTask.kind == .todoist || newTask.kind == .tickTick then
      Transaction.fail (.itemNotFound message)
    else do
      let task ← createSinkItemFromTask c answers newTask true sinkProviderKind
      return .updated task oldTask
  | .error error => Transaction.fail error
  | .ok () => return .updated newTask oldTask

/-- Returns what was upserted, with a sink that was created for it. -/
def applySyncedTaskSideEffect (answers : TaskAnswers) (item : ThirdPartyItem)
    (upsertTask : UpsertStatus Task) : Tx (UpsertStatus Task) :=
  let sinkProviderKind := resolveSinkProviderKind answers.sinkProviderKindHint
    answers.defaultTaskManagerProviderKind
  match upsertTask with
  | .created task =>
    if task.kind == .todoist || task.kind == .tickTick then return .created task
    else do
      let task ← createSinkItemFromTask c answers task false sinkProviderKind
      return .created task
  | .updated newTask oldTask =>
    match newTask.sinkItem with
    | none =>
      if newTask.kind == .todoist || newTask.kind == .tickTick then return .updated newTask oldTask
      else do
        let task ← createSinkItemFromTask c answers newTask false sinkProviderKind
        return .updated task oldTask
    | some taskSinkItem =>
      if newTask.sourceItem.id == taskSinkItem.id then return .updated newTask oldTask
      else if newTask.sourceItem.id == item.id then
        updatePeer c answers newTask oldTask taskSinkItem sinkProviderKind
      else if taskSinkItem.id == item.id then
        updatePeer c answers newTask oldTask newTask.sourceItem sinkProviderKind
      else Transaction.fail (.unexpected
        s!"Task {newTask.id.uuid} has no source or sink item matching the synced third party item {item.id.uuid}")
  | .untouched task => return .untouched task

/-- The side effects of a task that was created or updated. -/
def applyModifiedTaskSideEffect (answers : TaskAnswers) (item : ThirdPartyItem)
    (upsertTask : UpsertStatus Task) : Tx (UpsertStatus Task) :=
  if isModified upsertTask then applySyncedTaskSideEffect c answers item upsertTask
  else return upsertTask

variable (userId : UserId)

/-- Every conversion is of the item it is called with, for the user; an item of a task manager is
its own sink. -/
def thirdPartyItemIntoTask (item : ThirdPartyItem) (answers : TaskAnswers) :
    Except UniversalInboxError CreateOrUpdateTaskRequest :=
  answers.conversion.map fun request =>
    { request with sourceItem := item, sinkItem := request.sinkItem.map fun _ => item, userId }

def syncThirdPartyItemAsTask (item : ThirdPartyItem) (answers : TaskAnswers) :
    Tx (UpsertStatus Task) := do
  let request ← Transaction.answer (thirdPartyItemIntoTask userId item answers)
  let upserted ← Transaction.statement fun db => createOrUpdateTask db (c.reads.tasks db) request
  let upsertTask ← applyModifiedTaskSideEffect c answers item upserted
  if item.kind == .linearIssue && answers.autoDeleteNotificationsOnTaskSync then do
    Transaction.modify (deleteNotificationsForLinearIssue c userId item.sourceId)
    return upsertTask
  else return upsertTask

/-- What saving the task as a notification needs of the answers. -/
def savedItem (item : ThirdPartyItem) (answers : TaskAnswers) : InboxNotifications.SyncedItem :=
  { synced :=
      { item
        connected := answers.connected
        request := thirdPartyItemIntoTask userId item answers
        sinkProviderKindHint := answers.sinkProviderKindHint
        defaultTaskManagerProviderKind := answers.defaultTaskManagerProviderKind
        peer := answers.peer
        sink := ⟨answers.accessToken, (answers.createTask userId).map (·.item), .ok ()⟩
        afterSideEffect := .ok () }
    provider := answers.provider
    userId
    stamp := answers.stamp
    reads := c.reads
    isTesting := c.environment.isTesting }

def createTaskFromThirdPartyItem (item : ThirdPartyItem) : Tx TaskCreationResult :=
  let answers := c.tasks item
  if !answers.connected then
    Transaction.fail (.unexpected s!"No validated integration found for user {userId.uuid}, cannot create third party item")
  else do
    let upsertTask ← syncThirdPartyItemAsTask c userId item answers
    saveModifiedTask c.tickTick (savedItem c userId item answers) upsertTask

def fetchAndUpsertThirdPartyTasks (service : ThirdPartyItemSourceService)
    (fetched : Except UniversalInboxError (List (UserItem userId))) :
    Tx (List TaskCreationResult) := do
  let items ← syncItems c userId service fetched
  Transaction.each (createTaskFromThirdPartyItem c userId) items

end Tasks

section Notifications
variable (c : Context) (userId : UserId)

/-- Whether the notification of an item is deleted as soon as it is saved. -/
def autoDeletes (db : Database) (item : ThirdPartyItem) (answers : NotificationAnswers) : Bool :=
  answers.autoDeleteNotificationsOnTaskSync &&
    (LinearAutoDelete.issueOf c.codec item.data).any (hasSyncedTask db userId)

def createNotificationFromThirdPartyItem (item : ThirdPartyItem) : Tx Notification := do
  let answers := c.notifications item
  let content ← Transaction.answer answers.conversion
  let upserted ← Transaction.statement fun db => upsertNotification db (c.reads.notifications db)
    (content.request answers.notificationId item userId)
  let notification := upserted.value
  let db ← Transaction.get
  if autoDeletes c userId db item answers then do
    let _ ← Transaction.statement fun db => updateNotification db notification.id deletedPatch userId
    return { notification with status := .deleted }
  else return notification

def fetchAndUpsertThirdPartyNotifications (service : ThirdPartyItemSourceService)
    (fetched : Except UniversalInboxError (List (UserItem userId))) : Tx (List Notification) := do
  let items ← syncItems c userId service fetched
  Transaction.each (createNotificationFromThirdPartyItem c userId) items

end Notifications

/-! The requests of a user that reach the same functions. -/

section Requests
variable (c : Context) (userId : UserId)

structure ThirdPartyItemCreationResult where
  thirdPartyItem : ThirdPartyItem
  task : Option Task
  notification : Option Notification

/-- The provider that a task item must come from, as the error names it. -/
def taskItemProvider : ThirdPartyItemKind → Option String
  | .todoistItem => some "Todoist"
  | .tickTickItem => some "TickTick"
  | .slackReaction => some "Slack"
  | .linearIssue => some "Linear"
  | _ => none

/-- `item` is what the data of the request becomes for the user and their connection. -/
def createTaskItem (item : UserItem userId) : Tx ThirdPartyItemCreationResult :=
  match taskItemProvider item.item.kind with
  | some providerKind =>
    if !(c.tasks item.item).connected then
      Transaction.fail (.unsupportedAction
        s!"No validated {providerKind} integration connection found for user {userId.uuid}")
    else do
      let upserted ← upsertItem item.item
      let creation ← createTaskFromThirdPartyItem c userId upserted.value
      return ⟨upserted.value, some creation.task, creation.notifications.head?⟩
  | none => Transaction.fail (.unsupportedAction
      s!"Cannot create a task item from a third party item of kind {item.item.kind.display}")

def createNotificationItem (item : UserItem userId) : Tx ThirdPartyItemCreationResult :=
  match item.item.kind with
  | .webPage => do
    let upserted ← upsertItem item.item
    let notification ← createNotificationFromThirdPartyItem c userId upserted.value
    return ⟨upserted.value, none, some notification⟩
  | kind => Transaction.fail (.unsupportedAction
      s!"Cannot create a notification item from a third party item of kind {kind.display}")

/-- The reaction of an event becomes a task when it is new or has changed. -/
def saveTaskFromEvent (fetched : Except UniversalInboxError (Option (UserItem userId))) :
    Tx (Option Task) := do
  match ← Transaction.answer fetched with
  | none => return none
  | some item => do
    let upserted ← upsertItem item.item
    match modifiedValue upserted with
    | none => return none
    | some thirdPartyItem =>
      match thirdPartyItem.kind with
      | .slackReaction => do
        let creation ← createTaskFromThirdPartyItem c userId thirdPartyItem
        return some creation.task
      | _ => return none

/-- And so do reactions and threads become notifications. -/
def saveNotificationFromEvent (fetched : Except UniversalInboxError (Option (UserItem userId))) :
    Tx (Option Notification) := do
  match ← Transaction.answer fetched with
  | none => return none
  | some item => do
    let upserted ← upsertItem item.item
    match modifiedValue upserted with
    | none => return none
    | some thirdPartyItem =>
      match thirdPartyItem.kind with
      | .slackReaction | .slackThread => do
        let notification ← createNotificationFromThirdPartyItem c userId thirdPartyItem
        return some notification
      | _ => return none

/-- Only the owner of a notification reads it. -/
def getNotification (notificationId : NotificationId) : Tx (Option Notification) := fun db =>
  match (db.notifications.find? notificationId).bind (joinedNotification db) with
  | none => some (db, .ok none)
  | some notification =>
    if notification.userId ≠ userId then
      some (db, .error (.forbidden
        s!"Only the owner of the notification {notificationId.uuid} can access it"))
    else some (db, .ok (some notification))

/-- A function that is not a `Tx`. The transaction of a request that fails is rolled back, so that
what it had written by then does not matter. -/
def patchNotification (notificationId : NotificationId) (patch : NotificationPatch)
    (applyTaskSideEffects applySideEffects : Bool) : Tx (UpdateStatus Notification) :=
  Transaction.statement fun db => NotificationPatching.patchNotification c.environment db
    notificationId patch applyTaskSideEffects applySideEffects userId

/-- `push` is what the attempts to push a job come to. -/
def patchNotificationsBulk (push : ProcessNotificationSideEffects → List PushAttempt)
    (status : List NotificationStatus) (fromSources : List NotificationSourceKind)
    (patch : NotificationPatch) : Tx (List Notification) := do
  let updatedNotifications ← Transaction.statement fun db =>
    .ok (updateNotificationsByFilter db status fromSources patch userId)
  if updatedNotifications.all fun notification =>
      (retrySpawn (push ⟨notification.id, patch, userId⟩)).2 then
    return updatedNotifications
  else Transaction.fail (.unexpected "Failed to enqueue job to process notification side effects")

/-- Not a `Tx` either. -/
def patchNotificationsByIds (push : ProcessNotificationSideEffects → List PushAttempt)
    (patches : List (NotificationId × NotificationPatch)) : Tx (List Notification) :=
  Transaction.statement fun db =>
    (PatchAgreement.patchNotificationsByIds push db patches userId).map fun patched =>
      (patched.db, patched.notifications)

/-- `resolved` is how finding the provider, its connection and the defaults of the task ends, and
`created` what the provider answers. -/
def createTaskFromNotification (notificationId : NotificationId)
    (resolved : Except UniversalInboxError Unit)
    (created : (userId : UserId) → Except UniversalInboxError (UserItem userId)) :
    Tx (Option (Notification × Task)) := do
  match ← getNotification userId notificationId with
  | none => Transaction.fail (.unexpected
      s!"Cannot create task from unknown notification {notificationId.uuid}")
  | some notification => do
    Transaction.answer resolved
    let thirdPartyItem ← Transaction.answer (created notification.userId)
    let upserted ← upsertItem thirdPartyItem.item
    let creation ← createTaskFromThirdPartyItem c notification.userId upserted.value
    let updated ← patchNotification c userId notificationId (deleteAndLinkPatch creation.task.id)
      false true
    match updated with
    | ⟨true, some notification⟩ => return some (notification, creation.task)
    | _ => return none

/-- `answered` is the event with the answer of the user. -/
def updateInvitationFromNotification (notificationId : NotificationId)
    (answered : Except UniversalInboxError String) : Tx (UpdateStatus Notification) := do
  match ← getNotification userId notificationId with
  | none => return ⟨false, none⟩
  | some notification =>
    if notification.kind ≠ .googleCalendar then
      Transaction.fail (.unsupportedAction
        s!"Cannot update invitation from notification {notificationId.uuid}, expected GoogleCalendar notification")
    else do
      let event ← Transaction.answer answered
      let _ ← upsertItem { notification.sourceItem with data := .googleCalendarEvent event }
      patchNotification c userId notificationId deletedPatch true true

/-- The job that a bulk patch leaves for each notification. -/
def handleProcessNotificationSideEffects (notificationId : NotificationId)
    (patch : NotificationPatch) : Tx Unit := do
  match ← getNotification userId notificationId with
  | none => Transaction.fail (.itemNotFound
      s!"Notification with ID {notificationId.uuid} not found for user {userId.uuid}")
  | some notification =>
    Transaction.statement fun db =>
      (applyNotificationSideEffects c.environment db notification patch true userId).map fun db' =>
        (db', ())

end Requests

end UniversalInbox.ItemSync
