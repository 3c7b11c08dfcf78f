import UniversalInbox.FullTaskConvergence
import UniversalInbox.NotificationSync

/-! The reactions that Slack reports on a message. An event that is queued is handled by a job of
its own, in a transaction that is rolled back when the job fails; what is stored of the message is
what the last handled event says. -/
namespace UniversalInbox.ReactionEvents
open FullTaskSync (modifiedValue upsertedAs_of_upsert)
open NotificationConversion NotificationUpsert
open Propagation hiding State
open TaskUpsert
open TodoistSync (wholeSeconds todoistInboxProject)

inductive SlackReactionState where
  | reactionAdded
  | reactionRemoved
deriving DecidableEq, Repr

/-- `renderedTitle` and `renderedContent` are what formatting the message gives. -/
structure SlackMessageDetails where
  url : String
  ts : String
  channelId : String
  renderedTitle : String
  renderedContent : String
deriving DecidableEq, Repr

structure SlackFileDetails where
  id : String
  url : String
  renderedTitle : String
  renderedContent : String
deriving DecidableEq, Repr

inductive SlackReactionItem where
  | slackMessage (message : SlackMessageDetails)
  | slackFile (file : SlackFileDetails)
deriving DecidableEq, Repr

namespace SlackReactionItem

def id : SlackReactionItem → String
  | .slackMessage message => message.ts
  | .slackFile file => file.id

def renderTitle : SlackReactionItem → String
  | .slackMessage message => message.renderedTitle
  | .slackFile file => file.renderedTitle

def renderContent : SlackReactionItem → String
  | .slackMessage message => message.renderedContent
  | .slackFile file => file.renderedContent

def getHtmlUrl : SlackReactionItem → String
  | .slackMessage message => message.url
  | .slackFile file => file.url

end SlackReactionItem

structure SlackReaction where
  name : String
  state : SlackReactionState
  createdAt : DateTime
  item : SlackReactionItem
deriving DecidableEq, Repr

def SlackReaction.renderTaskTitle (reaction : SlackReaction) : String :=
  s!"[{reaction.item.renderTitle}]({reaction.item.getHtmlUrl})"

/-- The serialized content of a reaction. -/
structure ReactionCodec where
  decode : String → SlackReaction
  encode : SlackReaction → String
  state_decode_encode : ∀ reaction, (decode (encode reaction)).state = reaction.state

/-- Where a reaction is, as its event says. -/
inductive SlackReactionsItem where
  | message (ts : String) (channel : Option String)
  | file
deriving DecidableEq, Repr

/-- A `reaction_added` or `reaction_removed` event; `eventTs` is counted in microseconds. -/
structure SlackReactionEvent where
  state : SlackReactionState
  user : String
  reaction : String
  itemUser : Option String
  item : SlackReactionsItem
  eventTs : Nat
deriving DecidableEq, Repr

structure TaskCreationConfig where
  projectName : Option String
  dueAt : Option DueDate
  priority : TaskPriority
  taskManagerProviderKind : Option IntegrationProviderKind

inductive SlackSyncType where
  | asNotifications
  | asTasks
deriving DecidableEq, Repr

structure SlackReactionConfig where
  syncEnabled : Bool
  reactionName : String
  syncType : SlackSyncType
deriving DecidableEq, Repr

structure SlackConnection where
  userId : UserId
  reactionConfig : SlackReactionConfig
deriving DecidableEq, Repr

/-- What none of the jobs writes. `connection` is found by the identifier of the user at Slack,
`accessToken` by the user. -/
structure Setting where
  codec : ReactionCodec
  connection : String → Option SlackConnection
  accessToken : UserId → Option IntegrationConnectionId
  isTesting : UserId → Bool
  graphemes : String → List String
  toDateTime : Nat → Option DateTime
  notifications : (db : Database) → NotificationScan db
  tasks : (db : Database) → TaskScan db

/-- What Slack answers about the message it is asked for. -/
structure FetchedMessage where
  url : String
  renderedTitle : String
  renderedContent : String

/-- What a job is answered, the identifiers it draws and what it reads of the clock. The defaults
of the task are computed from the connection. -/
structure Answers where
  now : DateTime
  message : Except UniversalInboxError FetchedMessage
  itemId : ThirdPartyItemId
  stamp : NotificationStamp
  taskId : TaskId
  connected : Bool
  taskCreationConfig : Option TaskCreationConfig
  defaultTaskManagerProviderKind : Option IntegrationProviderKind
  peer : PeerService.PeerAnswers
  sink : SinkAnswers
  afterSideEffect : Except UniversalInboxError Unit

structure Job where
  event : SlackReactionEvent
  answers : Answers

def notificationStatus : SlackReactionState → NotificationStatus
  | .reactionAdded => .unread
  | .reactionRemoved => .deleted

def taskStatus : SlackReactionState → TaskStatus
  | .reactionAdded => .active
  | .reactionRemoved => .done

namespace Setting
variable (setting : Setting)

/-- The webhook queues the events of the configured reaction. -/
def isQueued (event : SlackReactionEvent) : Bool :=
  (setting.connection event.user).any fun connection =>
    connection.reactionConfig.syncEnabled &&
      connection.reactionConfig.reactionName == event.reaction

def truncateWithEllipse (s : String) (len : Nat) (ellipse : String) : String :=
  if (setting.graphemes s).length ≤ len then s
  else String.join ((setting.graphemes s).take len ++ setting.graphemes ellipse)

def intoThirdPartyItem (reaction : SlackReaction) (answers : Answers) (userId : UserId)
    (connection : IntegrationConnectionId) : ThirdPartyItem :=
  { id := answers.itemId
    sourceId := reaction.item.id
    data := .slackReaction (setting.codec.encode reaction)
    createdAt := wholeSeconds answers.now
    updatedAt := wholeSeconds answers.now
    userId
    integrationConnectionId := connection
    sourceItem := none }

def fetchItemFromSlackReaction (event : SlackReactionEvent) (answers : Answers) (userId : UserId) :
    Except UniversalInboxError (Option ThirdPartyItem) :=
  match setting.accessToken userId with
  | none => .error (.unexpected "Cannot fetch Slack notification details without an access token")
  | some connection =>
    match event.item with
    | .message ts (some channelId) =>
      match answers.message with
      | .error error => .error error
      | .ok fetched =>
        let reaction : SlackReaction :=
          { name := event.reaction
            state := event.state
            createdAt := (setting.toDateTime event.eventTs).getD answers.now
            item := .slackMessage
              { url := fetched.url
                ts
                channelId
                renderedTitle := fetched.renderedTitle
                renderedContent := fetched.renderedContent } }
        .ok (some (setting.intoThirdPartyItem reaction answers userId connection))
    | .message _ none | .file => .ok none

/-- An event that does not name the user of the item is not supported. -/
def fetchItemFromEvent (event : SlackReactionEvent) (answers : Answers) (userId : UserId) :
    Except UniversalInboxError (Option ThirdPartyItem) :=
  match event.itemUser with
  | some _ => setting.fetchItemFromSlackReaction event answers userId
  | none => .ok none

def thirdPartyItemIntoNotification (source : SlackReaction) (stamp : NotificationStamp) :
    NotificationContent :=
  convertedNow stamp .slack source.item.renderTitle (notificationStatus source.state) none

/-- The title, the due date and the project are seeded, and never asserted. -/
def thirdPartyItemIntoTask (source : SlackReaction) (item : ThirdPartyItem) (answers : Answers)
    (userId : UserId) : Except UniversalInboxError CreateOrUpdateTaskRequest :=
  match answers.taskCreationConfig with
  | none => .error (.unexpected "Cannot build a Slack task without a task creation")
  | some config =>
    .ok
      { id := answers.taskId
        title := ⟨source.renderTaskTitle, none⟩
        body := setting.truncateWithEllipse source.item.renderContent 16300 "..."
        status := taskStatus source.state
        completedAt := if taskStatus source.state = .done then some answers.now else none
        priority := config.priority
        dueAt := ⟨config.dueAt, none⟩
        tags := []
        parentId := none
        project := ⟨config.projectName.getD todoistInboxProject, none⟩
        isRecurring := false
        createdAt := source.createdAt
        updatedAt := source.createdAt
        kind := .slack
        sourceItem := item
        sinkItem := none
        userId }

def syncedItem (item : ThirdPartyItem) (source : SlackReaction) (answers : Answers)
    (userId : UserId) : SyncedItem :=
  { item
    connected := answers.connected
    request := setting.thirdPartyItemIntoTask source item answers userId
    sinkProviderKindHint := answers.taskCreationConfig.bind (·.taskManagerProviderKind)
    defaultTaskManagerProviderKind := answers.defaultTaskManagerProviderKind
    peer := answers.peer
    sink := answers.sink
    afterSideEffect := answers.afterSideEffect }

/-- What is made of an item that was written; an item that is up to date is left alone. -/
def saveFromItem (s : Propagation.State) (syncType : SlackSyncType) (item : ThirdPartyItem)
    (answers : Answers) (userId : UserId) : Outcome :=
  match item.data, syncType with
  | .slackReaction content, .asNotifications =>
    let request :=
      (thirdPartyItemIntoNotification (setting.codec.decode content) answers.stamp).request
        answers.stamp.id item userId
    match upsertNotification s.db (setting.notifications s.db) request with
    | .ok (db, _) => some ({ s with db }, .ok ())
    | .error _ => none
  | .slackReaction content, .asTasks =>
    createTaskFromThirdPartyItem setting.tasks userId (setting.isTesting userId) s
      (setting.syncedItem item (setting.codec.decode content) answers userId)
  | _, _ => some (s, .ok ())

/-- `save_notification_from_event` and `save_task_from_event`. -/
def saveFromEvent (s : Propagation.State) (syncType : SlackSyncType) (job : Job) (userId : UserId) :
    Outcome :=
  match setting.fetchItemFromEvent job.event job.answers userId with
  | .error error => some (s, .error error)
  | .ok none => some (s, .ok ())
  | .ok (some item) =>
    match ThirdPartyItemService.createOrUpdateThirdPartyItem s.db item with
    | .error _ => none
    | .ok (db, upserted) =>
      match modifiedValue upserted with
      | none => some ({ s with db }, .ok ())
      | some item => setting.saveFromItem { s with db } syncType item job.answers userId

def handleSlackReactionPushEvent (s : Propagation.State) (job : Job) : Outcome :=
  match setting.connection job.event.user with
  | none => some (s, .ok ())
  | some connection =>
    if connection.reactionConfig.syncEnabled then
      setting.saveFromEvent s connection.reactionConfig.syncType job connection.userId
    else some (s, .ok ())

end Setting

/-- The event names a message and its user: an item is fetched for it. -/
def SlackReactionEvent.isOnMessage (event : SlackReactionEvent) : Bool :=
  event.itemUser.isSome &&
    match event.item with
    | .message _ channel => channel.isSome
    | .file => false

/-- `processed` are the events that were handled, in the order they were. -/
structure State where
  inbox : Propagation.State
  processed : List SlackReactionEvent

/-- A job that fails is rolled back, but for what the providers have done. -/
def process (setting : Setting) (s : State) (job : Job) : State :=
  if setting.isQueued job.event then
    match setting.handleSlackReactionPushEvent s.inbox job with
    | some (inbox, .ok ()) =>
      { inbox
        processed := s.processed ++ if job.event.isOnMessage then [job.event] else [] }
    | some (inbox, .error _) => { s with inbox := { s.inbox with upstream := inbox.upstream } }
    | none => s
  else s

def run (setting : Setting) (s : State) (jobs : List Job) : State := jobs.foldl (process setting) s

section Shown
variable (codec : ReactionCodec) (db : Database) (identity : ItemIdentity)

/-- The stored item of a message, with what it says of the reaction. -/
def StoredAs (state : SlackReactionState) (item : ThirdPartyItemRow) : Prop :=
  item ∈ db.thirdPartyItems.rows ∧ item.identity = identity ∧
    ∃ content, item.data = .slackReaction content ∧ (codec.decode content).state = state

def notificationKey (item : ThirdPartyItemId) (userId : UserId) : SourceKey := ⟨item, .slack, userId⟩

/-- An item has one notification, of that status. -/
def OneNotification (item : ThirdPartyItemId) (userId : UserId) (status : NotificationStatus) : Prop :=
  ∃ row ∈ db.notifications.rows, sourceKey row = notificationKey item userId ∧ row.status = status ∧
    ∀ row' ∈ db.notifications.rows, sourceKey row' = notificationKey item userId → row' = row

/-- An item has one task, of that status. -/
def OneTask (item : ThirdPartyItemId) (userId : UserId) (status : TaskStatus) : Prop :=
  ∃ row ∈ db.tasks.rows, row.sourceItemId = item ∧ row.userId = userId ∧ row.status = status ∧
    ∀ row' ∈ db.tasks.rows, Linked item row' → row' = row

/-- What is made of an item has the status that an event gives it. -/
def HasStatus (syncType : SlackSyncType) (item : ThirdPartyItemId) (userId : UserId)
    (state : SlackReactionState) : Prop :=
  match syncType with
  | .asNotifications => OneNotification db item userId (notificationStatus state)
  | .asTasks => OneTask db item userId (taskStatus state)

/-- The notification or the task of a message has the status that an event gives it. -/
def FinalStatus (syncType : SlackSyncType) (state : SlackReactionState) : Prop :=
  ∃ item ∈ db.thirdPartyItems.rows, item.identity = identity ∧
    HasStatus db syncType item.id identity.userId state

/-- So has the stored item. -/
def ShownAs (syncType : SlackSyncType) (state : SlackReactionState) : Prop :=
  ∃ item, StoredAs codec db identity state item ∧
    HasStatus db syncType item.id identity.userId state

/-- Nothing is stored of the message. -/
def Unknown : Prop := ∀ item ∈ db.thirdPartyItems.rows, item.identity ≠ identity

/-- What is stored of a message, by the event that was handled last. -/
def Reflects (syncType : SlackSyncType) : Option SlackReactionState → Prop
  | some state => ShownAs codec db identity syncType state
  | none => Unknown db identity

end Shown

section Items
variable {db db' : Database} {item : ThirdPartyItem} {status : UpsertStatus ThirdPartyItem}

/-- An item that is up to date says what the event says. -/
theorem upToDate_of_upsert (hleaf : item.sourceItem = none)
    (h : ThirdPartyItemService.createOrUpdateThirdPartyItem db item = .ok (db', status))
    (huntouched : modifiedValue status = none) :
    db' = db ∧ ∃ row ∈ db.thirdPartyItems.rows, row.identity = item.identity ∧ row.data = item.data := by
  rw [ThirdPartyItemUpsert.service_leaf hleaf] at h
  rcases ThirdPartyItemUpsert.createOrUpdateThirdPartyItem_cases h with
    ⟨row, hrow, hmatch, heq, rfl, rfl⟩ | ⟨row, hrow, hmatch, heq, hconstraints, rfl, rfl⟩ |
    ⟨hnew, items, hinsert, hconstraints, rfl, rfl⟩
  · exact ⟨rfl, row, hrow, ThirdPartyItemUpsert.itemMatches_iff_identity.mp hmatch,
      ThirdPartyItem.data_eq heq⟩
  · cases huntouched
  · cases huntouched

theorem value_of_modified {value : ThirdPartyItem} (h : modifiedValue status = some value) :
    status.value = value := by
  cases status with
  | created new => exact Option.some.inj h
  | updated new old => exact Option.some.inj h
  | untouched value => cases h

end Items

section Notifications
variable {db db' : Database} {scan : NotificationScan db} {request : UpsertRequest}
  {status : UpsertStatus Notification}

/-- An upsert leaves one notification where there was one at most. -/
theorem oneNotification_of_upsert {item : ThirdPartyItemId} {userId : UserId}
    (hkey : request.key = notificationKey item userId)
    (hone : ∀ row ∈ db.notifications.rows, ∀ row' ∈ db.notifications.rows,
      sourceKey row = notificationKey item userId → sourceKey row' = notificationKey item userId →
        row = row')
    (h : upsertNotification db scan request = .ok (db', status)) :
    OneNotification db' item userId request.notification.status ∧
      db'.thirdPartyItems = db.thirdPartyItems := by
  rw [← hkey] at hone
  unfold OneNotification
  rw [← hkey]
  cases hread : scan.existing request with
  | some row =>
    obtain ⟨hrow, hrowKey⟩ := existing_eq_some hread
    obtain ⟨after, afterStatus, hafter, -, hitems, -, hrows⟩ :=
      NotificationSync.upsertNotification_stored hread
    obtain ⟨rfl, -⟩ := Prod.mk.inj (Except.ok.inj (hafter.symm.trans h))
    refine ⟨⟨if SameContent request row then row else NotificationUpsert.updateRow request row, ?_, ?_, ?_,
      ?_⟩, hitems⟩
    · rw [hrows]
      exact List.mem_map.mpr ⟨row, hrow, if_pos rfl⟩
    · split
      · exact hrowKey
      · exact hrowKey
    · split
      · next hsame => exact hsame.2.1
      · rfl
    · intro row' hrow' hkey'
      rw [hrows] at hrow'
      obtain ⟨old, hold, rfl⟩ := List.mem_map.mp hrow'
      by_cases hsame : old = row
      · rw [if_pos hsame, hsame]
      · rw [if_neg hsame] at hkey'
        exact absurd (hone old hold row hrow hkey' hrowKey) hsame
  | none =>
    obtain ⟨hitems, -, hrows⟩ := NotificationSync.upsertNotification_new hread h
    refine ⟨⟨NotificationUpsert.insertRow request.notification, ?_, ?_, rfl, ?_⟩, hitems⟩
    · rw [hrows]
      exact List.mem_append_right _ (List.mem_singleton_self _)
    · simp [sourceKey, NotificationUpsert.insertRow, UpsertRequest.key, request.kind_eq]
    · intro row' hrow' hkey'
      rw [hrows] at hrow'
      rcases List.mem_append.mp hrow' with hold | hnew
      · have hnone := List.find?_eq_none.mp hread row' (scan.perm.mem_iff.mpr hold)
        rw [hkey'] at hnone
        exact absurd (beq_self_eq_true _) hnone
      · exact List.mem_singleton.mp hnew

end Notifications

section Tasks
variable {db db' : Database} {request : CreateOrUpdateTaskRequest} {id : ThirdPartyItemId}
  {userId : UserId}

/-- What the creation of a sink, if there is one, leaves of the database. -/
def SinkOnly (db db' : Database) : Prop :=
  db' = db ∨ ∃ s t task item, SinkCreated s t task item ∧ s.db = db ∧ t.db = db'

theorem sinkOnly_of_create {s t : Propagation.State} {task : Task} {overwrite : Bool}
    {kind : IntegrationProviderKind} {answers : SinkAnswers}
    {result : Except UniversalInboxError Unit}
    (h : createSinkItemFromTask s task overwrite kind answers = some (t, result)) :
    SinkOnly s.db t.db := by
  rcases createSinkItemFromTask_cases h with ⟨rfl, -⟩ | ⟨-, item, -, hcreated⟩
  · exact .inl rfl
  · exact .inr ⟨s, t, task, item, hcreated, rfl, rfl⟩

theorem sinkOnly_of_updatePeer {isTesting : Bool} {s t : Propagation.State} {newTask oldTask : Task}
    {peer : ThirdPartyItem} {kind : IntegrationProviderKind} {x : SyncedItem}
    (h : updatePeer isTesting s newTask oldTask peer kind x = some (t, .ok ())) :
    SinkOnly s.db t.db := by
  rcases FullTaskSync.updatePeer_ok h with hsame | ⟨-, -, upstream, hcreate⟩
  · exact .inl hsame
  · exact @sinkOnly_of_create { s with upstream } t _ _ _ _ _ hcreate

theorem sinkOnly_of_sideEffect {isTesting : Bool} {s t : Propagation.State} {x : SyncedItem}
    {upsertTask : UpsertStatus Task} {kind : IntegrationProviderKind}
    (h : applySyncedTaskSideEffect isTesting s x upsertTask kind = some (t, .ok ())) :
    SinkOnly s.db t.db := by
  unfold applySyncedTaskSideEffect at h
  cases upsertTask with
  | created task =>
    dsimp only at h
    split at h
    · cases h
      exact .inl rfl
    · exact sinkOnly_of_create h
  | updated newTask oldTask =>
    dsimp only at h
    split at h
    · split at h
      · cases h
        exact .inl rfl
      · exact sinkOnly_of_create h
    · split at h
      · cases h
        exact .inl rfl
      · split at h
        · exact sinkOnly_of_updatePeer h
        · split at h
          · exact sinkOnly_of_updatePeer h
          · cases h
  | untouched task =>
    cases h
    exact .inl rfl

theorem SinkOnly.items (h : SinkOnly db db') {item : ThirdPartyItemRow}
    (hitem : item ∈ db.thirdPartyItems.rows) : item ∈ db'.thirdPartyItems.rows := by
  rcases h with rfl | ⟨s, t, task, sink, hcreated, rfl, rfl⟩
  · exact hitem
  · exact (hcreated.items item).mpr (.inl hitem)

/-- A sink does not change what a task says. -/
theorem SinkOnly.oneTask {status : TaskStatus} (h : SinkOnly db db')
    (hknown : (db.thirdPartyItems.find? id).isSome) (hone : OneTask db id userId status) :
    OneTask db' id userId status := by
  rcases h with rfl | ⟨s, t, task, sink, hcreated, rfl, rfl⟩
  · exact hone
  · obtain ⟨row, hrow, hsource, huser, hstatus, honly⟩ := hone
    have hne : id ≠ sink.id := by
      rintro rfl
      rw [hcreated.fresh] at hknown
      cases hknown
    refine ⟨_, (hcreated.tasks _).mpr ⟨row, hrow, rfl⟩, ?_, ?_, ?_, ?_⟩
    · split <;> exact hsource
    · split <;> exact huser
    · split <;> exact hstatus
    · intro row' hrow' hlinked
      obtain ⟨old, hold, rfl⟩ := (hcreated.tasks row').mp hrow'
      rw [honly old hold (linked_of_linkSink hne hlinked)]

/-- An upsert leaves one task where the tasks of the item have it for their source. -/
theorem oneTask_of_upsert {scan : TaskScan db} {status : UpsertStatus Task}
    (hsource : ∀ row ∈ db.tasks.rows, Linked request.sourceItem.id row →
      row.sourceItemId = request.sourceItem.id)
    (h : createOrUpdateTask db scan request = .ok (db', status)) :
    OneTask db' request.sourceItem.id request.userId request.status ∧
      db'.thirdPartyItems = db.thirdPartyItems := by
  have hup := createOrUpdateTask_upserted h
  have hsources : ∀ row ∈ db'.tasks.rows, Linked request.sourceItem.id row →
      row.sourceItemId = request.sourceItem.id := by
    intro row hrow hlinked
    rcases hup.rows row hrow with ⟨old, hold, -, holdSource, holdSink⟩ | ⟨rfl, -⟩
    · unfold Linked at hlinked
      rw [holdSource, holdSink] at hlinked
      exact holdSource.trans (hsource old hold hlinked)
    · rfl
  obtain ⟨row, hrow, hlinked, hholds⟩ := hup.stored
  refine ⟨⟨row, hrow, hsources row hrow hlinked, hholds.userId, hholds.status, ?_⟩, hup.items⟩
  intro row' hrow' hlinked'
  apply db'.task_source_unique row' hrow' row hrow
  rw [hsources row' hrow' hlinked', hsources row hrow hlinked]

end Tasks

section Process
variable {setting : Setting} {identity : ItemIdentity} {syncType : SlackSyncType} {job : Job}
  {state : SlackReactionState} {shown : Option SlackReactionState}

/-- Converting the item of a reaction writes its task, and then at most a sink of the task. -/
theorem upsert_of_createTask {s t : Propagation.State} {item : ThirdPartyItem} {answers : Answers}
    {reaction : SlackReaction} {userId : UserId}
    (h : createTaskFromThirdPartyItem setting.tasks userId (setting.isTesting userId) s
      (setting.syncedItem item reaction answers userId) = some (t, .ok ())) :
    ∃ request db upsertTask, request.sourceItem = item ∧ request.userId = userId ∧
      request.status = taskStatus reaction.state ∧
      createOrUpdateTask s.db (setting.tasks s.db) request = .ok (db, upsertTask) ∧
      SinkOnly db t.db := by
  unfold createTaskFromThirdPartyItem syncThirdPartyItemAsTask at h
  split at h
  · cases h
  · split at h
    · cases h
    · next request hrequest =>
      split at h
      · cases h
      · next db upsertTask hupsert =>
        have hof : request.sourceItem = item ∧ request.userId = userId ∧
            request.status = taskStatus reaction.state := by
          dsimp only [Setting.syncedItem, Setting.thirdPartyItemIntoTask] at hrequest
          split at hrequest
          · cases hrequest
          · obtain rfl := Except.ok.inj hrequest
            exact ⟨rfl, rfl, rfl⟩
        refine ⟨request, db, upsertTask, hof.1, hof.2.1, hof.2.2, hupsert, ?_⟩
        split at h
        · next s' heffect =>
          obtain ⟨rfl, -⟩ := Prod.mk.inj (Option.some.inj h)
          exact sinkOnly_of_sideEffect heffect
        · next hother => exact absurd h (hother t)

/-- What is written of a new item, or of an item that says something else now, shows what it says. -/
theorem shownAs_of_save {s t : Propagation.State} {item : ThirdPartyItem} {answers : Answers}
    {stored : ThirdPartyItemRow} (hstored : StoredAs setting.codec s.db identity state stored)
    (hid : stored.id = item.id) (hdata : stored.data = item.data)
    (hnotification : ∀ row ∈ s.db.notifications.rows, ∀ row' ∈ s.db.notifications.rows,
      sourceKey row = notificationKey item.id identity.userId →
        sourceKey row' = notificationKey item.id identity.userId → syncType = .asNotifications →
          row = row')
    (htask : ∀ row ∈ s.db.tasks.rows, Linked item.id row → syncType = .asTasks →
      row.sourceItemId = item.id)
    (h : setting.saveFromItem s syncType item answers identity.userId = some (t, .ok ())) :
    ShownAs setting.codec t.db identity syncType state := by
  obtain ⟨hmem, hidentity, content, hcontent, hstate⟩ := hstored
  have hitemData : item.data = .slackReaction content := hdata.symm.trans hcontent
  unfold Setting.saveFromItem at h
  rw [hitemData] at h
  cases syncType with
  | asNotifications =>
    dsimp only at h
    split at h
    · next db status hupsert =>
      obtain ⟨rfl, -⟩ := Prod.mk.inj (Option.some.inj h)
      have hsaved : OneNotification db item.id identity.userId
          (notificationStatus (setting.codec.decode content).state) ∧
            db.thirdPartyItems = s.db.thirdPartyItems :=
        oneNotification_of_upsert rfl (fun row hrow row' hrow' hkey hkey' =>
          hnotification row hrow row' hrow' hkey hkey' rfl) hupsert
      obtain ⟨hone, hitems⟩ := hsaved
      refine ⟨stored, ⟨hitems ▸ hmem, hidentity, content, hcontent, hstate⟩, ?_⟩
      rw [hid, ← hstate]
      exact hone
    · cases h
  | asTasks =>
    dsimp only at h
    obtain ⟨request, db, upsertTask, hsourceItem, huser, hstatus, hupsert, hsink⟩ :=
      upsert_of_createTask h
    obtain ⟨hone, hitems⟩ := oneTask_of_upsert
      (fun row hrow hlinked => hsourceItem ▸ htask row hrow (hsourceItem ▸ hlinked) rfl) hupsert
    rw [hsourceItem, huser, hstatus, hstate] at hone
    have hmemDb : stored ∈ db.thirdPartyItems.rows := hitems ▸ hmem
    refine ⟨stored, ⟨hsink.items hmemDb, hidentity, content, hcontent, hstate⟩, ?_⟩
    rw [hid]
    exact hsink.oneTask (by rw [Table.find?_eq_some.mpr ⟨hmemDb, hid⟩]; rfl) hone

/-- The item that an event is fetched with. -/
structure FetchedFor (setting : Setting) (event : SlackReactionEvent) (identity : ItemIdentity)
    (item : ThirdPartyItem) : Prop where
  leaf : item.sourceItem = none
  identity : item.identity = identity
  data : ∃ content, item.data = .slackReaction content ∧
    (setting.codec.decode content).state = event.state

/-- What is fetched for an event on the message. -/
theorem fetchItemFromEvent_cases {event : SlackReactionEvent} {answers : Answers} {userId : UserId}
    {ts channel : String} {connection : IntegrationConnectionId} {fetched : Option ThirdPartyItem}
    (hitem : event.item = .message ts (some channel))
    (htoken : setting.accessToken userId = some connection)
    (h : setting.fetchItemFromEvent event answers userId = .ok fetched) :
    (fetched = none ∧ event.isOnMessage = false) ∨
      ∃ item, fetched = some item ∧ event.isOnMessage = true ∧
        FetchedFor setting event ⟨ts, .slackReaction, userId, connection⟩ item := by
  unfold Setting.fetchItemFromEvent Setting.fetchItemFromSlackReaction at h
  unfold SlackReactionEvent.isOnMessage
  rw [hitem] at h ⊢
  cases huser : event.itemUser with
  | none =>
    rw [huser] at h
    cases h
    exact .inl ⟨rfl, rfl⟩
  | some itemUser =>
    rw [huser, htoken] at h
    dsimp only at h
    split at h
    · cases h
    · next message hmessage =>
      cases h
      exact .inr ⟨_, rfl, rfl, rfl, rfl, _, rfl, setting.codec.state_decode_encode _⟩

/-- An item that is up to date is shown as its event says already. -/
theorem shownAs_of_upToDate {db db' : Database} {item : ThirdPartyItem}
    {status : UpsertStatus ThirdPartyItem} (hfetched : FetchedFor setting job.event identity item)
    (hreflects : Reflects setting.codec db identity syncType shown)
    (h : ThirdPartyItemService.createOrUpdateThirdPartyItem db item = .ok (db', status))
    (huntouched : modifiedValue status = none) :
    ShownAs setting.codec db' identity syncType job.event.state := by
  obtain ⟨rfl, row, hrow, hrowIdentity, hrowData⟩ := upToDate_of_upsert hfetched.leaf h huntouched
  rw [hfetched.identity] at hrowIdentity
  cases shown with
  | none => exact absurd hrowIdentity (hreflects row hrow)
  | some state =>
    obtain ⟨found, ⟨hfound, hfoundIdentity, content, hcontent, hstate⟩, -⟩ := id hreflects
    obtain ⟨eventContent, heventContent, heventState⟩ := hfetched.data
    have hsame := ThirdPartyItemUpsert.eq_of_identity hfound hrow
      (hfoundIdentity.trans hrowIdentity.symm)
    rw [hsame, hrowData, heventContent] at hcontent
    obtain rfl := ThirdPartyItemData.slackReaction.inj hcontent
    rw [← heventState, hstate]
    exact hreflects

/-- The row that an upsert has written of the item of an event. -/
theorem storedAs_of_modified {db db' : Database} {item : ThirdPartyItem}
    {status : UpsertStatus ThirdPartyItem} (hfetched : FetchedFor setting job.event identity item)
    (h : ThirdPartyItemService.createOrUpdateThirdPartyItem db item = .ok (db', status)) :
    ∃ stored, StoredAs setting.codec db' identity job.event.state stored ∧
      stored.id = status.value.id ∧ stored.data = status.value.data := by
  obtain ⟨hup, -, -⟩ := upsertedAs_of_upsert hfetched.leaf h
  obtain ⟨row, hrow, hcolumns, -⟩ := hup.stored
  obtain ⟨content, hcontent, hstate⟩ := hfetched.data
  refine ⟨row, ⟨hrow, ?_, content, ?_, hstate⟩, hcolumns.id, hcolumns.data⟩
  · rw [hcolumns.identity, hup.identity, hfetched.identity]
  · rw [hcolumns.data, hup.data, hcontent]

/-- The identifier of a message that is not known yet is that of no row. -/
theorem unknown_value {db db' : Database} {item : ThirdPartyItem}
    {status : UpsertStatus ThirdPartyItem} (hfetched : FetchedFor setting job.event identity item)
    (hunknown : Unknown db identity)
    (h : ThirdPartyItemService.createOrUpdateThirdPartyItem db item = .ok (db', status)) :
    db.thirdPartyItems.find? status.value.id = none := by
  apply (upsertedAs_of_upsert hfetched.leaf h).1.fresh
  intro row hrow
  rw [hfetched.identity]
  exact hunknown row hrow

/-- The identifier of a message that is known is that of its row. -/
theorem known_value {db db' : Database} {item : ThirdPartyItem} {row : ThirdPartyItemRow}
    {status : UpsertStatus ThirdPartyItem} (hfetched : FetchedFor setting job.event identity item)
    (hstored : StoredAs setting.codec db identity state row)
    (h : ThirdPartyItemService.createOrUpdateThirdPartyItem db item = .ok (db', status)) :
    status.value.id = row.id := by
  apply (upsertedAs_of_upsert hfetched.leaf h).1.id row hstored.1
  rw [hfetched.identity]
  exact hstored.2.1

/-- An item that was written is shown as its event says. -/
theorem shownAs_of_modified {s t : Propagation.State} {db : Database} {item : ThirdPartyItem}
    {status : UpsertStatus ThirdPartyItem} (hfetched : FetchedFor setting job.event identity item)
    (hreflects : Reflects setting.codec s.db identity syncType shown)
    (hupsert : ThirdPartyItemService.createOrUpdateThirdPartyItem s.db item = .ok (db, status))
    (h : setting.saveFromItem { s with db } syncType status.value job.answers identity.userId =
      some (t, .ok ())) :
    ShownAs setting.codec t.db identity syncType job.event.state := by
  obtain ⟨stored, hstored, hid, hdata⟩ := storedAs_of_modified hfetched hupsert
  have hnotifications : db.notifications = s.db.notifications :=
    (NotificationSync.itemsStored_of_service hupsert).notifications
  have htasks : db.tasks = s.db.tasks := (NotificationSync.itemsStored_of_service hupsert).tasks
  refine shownAs_of_save (s := { s with db }) hstored hid hdata ?_ ?_ h
  · intro row hrow row' hrow' hkey hkey' hsync
    have hold : row ∈ s.db.notifications.rows := hnotifications ▸ hrow
    have hold' : row' ∈ s.db.notifications.rows := hnotifications ▸ hrow'
    cases shown with
    | none =>
      have hknown := s.db.notification_source row hold
      rw [show row.sourceItemId = status.value.id from congrArg SourceKey.sourceItemId hkey,
        unknown_value hfetched hreflects hupsert] at hknown
      cases hknown
    | some state =>
      subst hsync
      obtain ⟨found, hfound, _, _, _, _, honly⟩ := hreflects
      rw [known_value hfetched hfound hupsert] at hkey hkey'
      exact (honly row hold hkey).trans (honly row' hold' hkey').symm
  · intro row hrow hlinked hsync
    have hold : row ∈ s.db.tasks.rows := htasks ▸ hrow
    cases shown with
    | none =>
      have hknown := linked_known hold hlinked
      rw [unknown_value hfetched hreflects hupsert] at hknown
      cases hknown
    | some state =>
      subst hsync
      obtain ⟨found, hfound, task, _, hsource, _, _, honly⟩ := hreflects
      rw [known_value hfetched hfound hupsert] at hlinked ⊢
      rw [honly row hold hlinked, hsource]

/-- The item of an event is stored, and what is stored of it says what the event says. -/
theorem reflects_of_saveFromEvent {s t : Propagation.State} {ts channel : String} {userId : UserId}
    {connection : IntegrationConnectionId}
    (hitem : job.event.item = .message ts (some channel))
    (htoken : setting.accessToken userId = some connection)
    (hreflects : Reflects setting.codec s.db ⟨ts, .slackReaction, userId, connection⟩ syncType shown)
    (h : setting.saveFromEvent s syncType job userId = some (t, .ok ())) :
    Reflects setting.codec t.db ⟨ts, .slackReaction, userId, connection⟩ syncType
      (if job.event.isOnMessage then some job.event.state else shown) := by
  unfold Setting.saveFromEvent at h
  split at h
  · cases h
  · next hfetch =>
    cases h
    rcases fetchItemFromEvent_cases hitem htoken hfetch with ⟨-, hnot⟩ | ⟨item, hsome, -⟩
    · rw [hnot]
      exact hreflects
    · cases hsome
  · next item hfetch =>
    rcases fetchItemFromEvent_cases hitem htoken hfetch with ⟨hnone, -⟩ | ⟨_, hsome, hon, hfetched⟩
    · cases hnone
    · cases hsome
      rw [hon, if_pos rfl]
      split at h
      · cases h
      · next db upserted hupsert =>
        split at h
        · next huntouched =>
          obtain ⟨rfl, -⟩ := Prod.mk.inj (Option.some.inj h)
          exact shownAs_of_upToDate hfetched hreflects hupsert huntouched
        · next value hmodified =>
          obtain rfl := value_of_modified hmodified
          exact shownAs_of_modified hfetched hreflects hupsert h

/-- The jobs of the events of one user on one message. -/
def OnMessage (user ts channel : String) (jobs : List Job) : Prop :=
  ∀ job ∈ jobs, job.event.user = user ∧ job.event.item = .message ts (some channel)

instance (user ts channel : String) (jobs : List Job) : Decidable (OnMessage user ts channel jobs) :=
  inferInstanceAs (Decidable (∀ job ∈ jobs, _ ∧ _))

/-- The reaction as the event says that was handled last. -/
def State.last (s : State) : Option SlackReactionState := s.processed.getLast?.map (·.state)

section Run
variable {user ts channel : String} {slack : SlackConnection}
  {connection : IntegrationConnectionId} {s : State}

theorem reflects_process (hslack : setting.connection user = some slack)
    (htoken : setting.accessToken slack.userId = some connection)
    (hjob : job.event.user = user ∧ job.event.item = .message ts (some channel))
    (hreflects : Reflects setting.codec s.inbox.db
      ⟨ts, .slackReaction, slack.userId, connection⟩ slack.reactionConfig.syncType s.last) :
    Reflects setting.codec (process setting s job).inbox.db
      ⟨ts, .slackReaction, slack.userId, connection⟩ slack.reactionConfig.syncType
      (process setting s job).last := by
  unfold process
  split
  · next hqueued =>
    unfold Setting.isQueued at hqueued
    rw [hjob.1, hslack, Option.any_some, Bool.and_eq_true] at hqueued
    split
    · next inbox hhandled =>
      unfold Setting.handleSlackReactionPushEvent at hhandled
      simp only [hjob.1, hslack, hqueued.1, if_true] at hhandled
      have hsaved := reflects_of_saveFromEvent hjob.2 htoken hreflects hhandled
      unfold State.last
      cases hon : job.event.isOnMessage with
      | true => simpa [hon] using hsaved
      | false => simpa [hon, State.last] using hsaved
    · exact hreflects
    · exact hreflects
  · exact hreflects

/-- What is stored of a message is what the event says that was handled last. -/
theorem reflects_run (hslack : setting.connection user = some slack)
    (htoken : setting.accessToken slack.userId = some connection) {jobs : List Job}
    (hjobs : OnMessage user ts channel jobs)
    (hreflects : Reflects setting.codec s.inbox.db
      ⟨ts, .slackReaction, slack.userId, connection⟩ slack.reactionConfig.syncType s.last) :
    Reflects setting.codec (run setting s jobs).inbox.db
      ⟨ts, .slackReaction, slack.userId, connection⟩ slack.reactionConfig.syncType
      (run setting s jobs).last := by
  induction jobs generalizing s with
  | nil => exact hreflects
  | cons job rest ih =>
    apply ih
    · intro job' hmem
      exact hjobs job' (List.mem_cons_of_mem _ hmem)
    · exact reflects_process hslack htoken (hjobs job List.mem_cons_self) hreflects

/-- A message has one status. -/
theorem finalStatus_inj {db : Database} {state state' : SlackReactionState}
    (h : FinalStatus db identity syncType state) (h' : FinalStatus db identity syncType state') :
    state = state' := by
  obtain ⟨item, hitem, hidentity, hstatus⟩ := h
  obtain ⟨item', hitem', hidentity', hstatus'⟩ := h'
  rw [ThirdPartyItemUpsert.eq_of_identity hitem hitem' (hidentity.trans hidentity'.symm)] at hstatus
  cases syncType with
  | asNotifications =>
    obtain ⟨row, hrow, hkey, hrowStatus, -⟩ := hstatus
    obtain ⟨row', -, -, hrowStatus', honly⟩ := hstatus'
    rw [honly row hrow hkey, hrowStatus'] at hrowStatus
    revert hrowStatus
    cases state <;> cases state' <;> decide
  | asTasks =>
    obtain ⟨row, hrow, hsource, -, hrowStatus, -⟩ := hstatus
    obtain ⟨row', -, -, -, hrowStatus', honly⟩ := hstatus'
    rw [honly row hrow (.inl hsource), hrowStatus'] at hrowStatus
    revert hrowStatus
    cases state <;> cases state' <;> decide

theorem ShownAs.finalStatus {db : Database}
    (h : ShownAs setting.codec db identity syncType state) :
    FinalStatus db identity syncType state := by
  obtain ⟨item, ⟨hitem, hidentity, -⟩, hstatus⟩ := h
  exact ⟨item, hitem, hidentity, hstatus⟩

end Run

end Process

/-- The event with the greatest timestamp. -/
def IsLatest (events : List SlackReactionEvent) (latest : SlackReactionEvent) : Prop :=
  latest ∈ events ∧ ∀ event ∈ events, event.eventTs ≤ latest.eventTs

/-- The order in which the events were handled does not matter: the latest one decides. -/
def LatestDecides (s : State) (identity : ItemIdentity) (syncType : SlackSyncType) : Prop :=
  ∀ latest, IsLatest s.processed latest → FinalStatus s.inbox.db identity syncType latest.state

/-- However the events of a user on a message are delivered, retried and repeated, the notification
or the task ends with the status that the event gives it which was handled last; the latest event
decides if and only if it says the same. -/
theorem lastHandled_decides (setting : Setting) (user ts channel : String) (slack : SlackConnection)
    (connection : IntegrationConnectionId) (inbox : Propagation.State) (jobs : List Job)
    (hslack : setting.connection user = some slack)
    (htoken : setting.accessToken slack.userId = some connection)
    (hunknown : Unknown inbox.db ⟨ts, .slackReaction, slack.userId, connection⟩)
    (hjobs : OnMessage user ts channel jobs) :
    ∀ last, (run setting ⟨inbox, []⟩ jobs).processed.getLast? = some last →
      FinalStatus (run setting ⟨inbox, []⟩ jobs).inbox.db
        ⟨ts, .slackReaction, slack.userId, connection⟩ slack.reactionConfig.syncType last.state ∧
      (LatestDecides (run setting ⟨inbox, []⟩ jobs)
          ⟨ts, .slackReaction, slack.userId, connection⟩ slack.reactionConfig.syncType ↔
        ∀ latest, IsLatest (run setting ⟨inbox, []⟩ jobs).processed latest →
          latest.state = last.state) := by
  intro last hlast
  have hreflects := @reflects_run setting user ts channel slack connection ⟨inbox, []⟩ hslack htoken
    jobs hjobs hunknown
  unfold State.last at hreflects
  rw [hlast] at hreflects
  have hfinal := ShownAs.finalStatus hreflects
  refine ⟨hfinal, forall_congr' fun latest => imp_congr_right fun _ => ⟨?_, ?_⟩⟩
  · intro hlatest
    exact finalStatus_inj hlatest hfinal
  · intro hsame
    rw [hsame]
    exact hfinal

section Eyes

def eyesEvent (state : SlackReactionState) : SlackReactionEvent :=
  { state, user := "U1", reaction := "eyes", itemUser := some "U2",
    item := .message "1732535291.911209" (some "C1")
    eventTs := match state with
      | .reactionAdded => 1732535300000000
      | .reactionRemoved => 1732535310000000 }

def eyesReaction (state : SlackReactionState) : SlackReaction :=
  { name := "eyes", state, createdAt := (eyesEvent state).eventTs * 1000
    item := .slackMessage
      { url := "https://slack.com/m", ts := "1732535291.911209", channelId := "C1",
        renderedTitle := "Hello", renderedContent := "Hello" } }

def eyesCodec : ReactionCodec where
  decode content :=
    eyesReaction (if content = "ReactionRemoved" then .reactionRemoved else .reactionAdded)
  encode reaction :=
    match reaction.state with
    | .reactionAdded => "ReactionAdded"
    | .reactionRemoved => "ReactionRemoved"
  state_decode_encode reaction := by
    cases hstate : reaction.state <;> rfl

def eyesConnection (syncType : SlackSyncType) : SlackConnection := ⟨⟨1⟩, ⟨true, "eyes", syncType⟩⟩

def eyesSetting (syncType : SlackSyncType) : Setting where
  codec := eyesCodec
  connection user := if user = "U1" then some (eyesConnection syncType) else none
  accessToken userId := if userId = ⟨1⟩ then some ⟨1⟩ else none
  isTesting _ := false
  graphemes s := s.toList.map fun c => String.ofList [c]
  toDateTime ts := some (ts * 1000)
  notifications := NotificationScan.insertionOrder
  tasks := TodoistSync.insertionOrder

def eyesJob (state : SlackReactionState) (id : Nat) : Job where
  event := eyesEvent state
  answers :=
    { now := 1732535320000000000
      message := .ok ⟨"https://slack.com/m", "Hello", "Hello"⟩
      itemId := ⟨id⟩
      stamp := ⟨⟨id⟩, 1732535320000000000, 1732535320000000000⟩
      taskId := ⟨id⟩
      connected := true
      taskCreationConfig := some ⟨none, none, .p4, none⟩
      defaultTaskManagerProviderKind := none
      peer := answeredBy todoistOk
      sink := ⟨true, .ok { sinkItem with id := ⟨id + 1⟩ }, .ok ()⟩
      afterSideEffect := .ok () }

def eyesInbox : Propagation.State := initial fun _ => issueFields .active

/-- Added, removed and delivered in this order, the removal twice, the reaction leaves its task
done. -/
theorem removedLast_done :
    FinalStatus (run (eyesSetting .asTasks) ⟨eyesInbox, []⟩
        [eyesJob .reactionAdded 1, eyesJob .reactionRemoved 3, eyesJob .reactionRemoved 5]).inbox.db
      ⟨"1732535291.911209", .slackReaction, ⟨1⟩, ⟨1⟩⟩ .asTasks .reactionRemoved :=
  (lastHandled_decides (eyesSetting .asTasks) "U1" "1732535291.911209" "C1"
    (eyesConnection .asTasks) ⟨1⟩ eyesInbox
    [eyesJob .reactionAdded 1, eyesJob .reactionRemoved 3, eyesJob .reactionRemoved 5] rfl rfl
    (fun _ h => (Table.not_mem_empty h).elim) (by decide) (eyesEvent .reactionRemoved)
    (by decide)).1

/-- The removal is handled before the addition, which is older: the notification stays unread and
the task active. -/
theorem olderAddition_decides :
    ¬ LatestDecides (run (eyesSetting .asNotifications) ⟨eyesInbox, []⟩
        [eyesJob .reactionRemoved 1, eyesJob .reactionAdded 3])
      ⟨"1732535291.911209", .slackReaction, ⟨1⟩, ⟨1⟩⟩ .asNotifications ∧
    ¬ LatestDecides (run (eyesSetting .asTasks) ⟨eyesInbox, []⟩
        [eyesJob .reactionRemoved 1, eyesJob .reactionAdded 3])
      ⟨"1732535291.911209", .slackReaction, ⟨1⟩, ⟨1⟩⟩ .asTasks := by
  suffices h : ∀ syncType, ¬ LatestDecides (run (eyesSetting syncType) ⟨eyesInbox, []⟩
      [eyesJob .reactionRemoved 1, eyesJob .reactionAdded 3])
      ⟨"1732535291.911209", .slackReaction, ⟨1⟩, ⟨1⟩⟩ syncType from ⟨h _, h _⟩
  intro syncType hdecides
  have hremoved := hdecides (eyesEvent .reactionRemoved)
    (by cases syncType <;> exact ⟨by decide, by decide⟩)
  have hshown := @reflects_run (eyesSetting syncType) "U1" "1732535291.911209" "C1"
    (eyesConnection syncType) ⟨1⟩ ⟨eyesInbox, []⟩ rfl rfl
    [eyesJob .reactionRemoved 1, eyesJob .reactionAdded 3] (by decide)
    (fun _ h => (Table.not_mem_empty h).elim)
  have hlast : (run (eyesSetting syncType) ⟨eyesInbox, []⟩
      [eyesJob .reactionRemoved 1, eyesJob .reactionAdded 3]).last = some .reactionAdded := by
    cases syncType <;> decide
  rw [hlast] at hshown
  cases finalStatus_inj hremoved (ShownAs.finalStatus hshown)

end Eyes

end UniversalInbox.ReactionEvents
