import UniversalInbox.LinearAutoDelete
import UniversalInbox.NotificationPatching

/-! The subscription to a Slack thread, kept twice: by the status of the notification and by a flag
in the stored thread. Message events, Slack syncs, the patches of the user and the side effects of
bulk patches each read and write it in transactions of their own. -/
namespace UniversalInbox.SlackSubscription
open BulkPatch (NotificationUpdateSelector patchRow)
open LinearAutoDelete (joinItem onItem onNotification writeNotification)
open NotificationConversion NotificationUpsert ReadCommitted Transition
open NotificationPatching (isUpdated owns updateNotificationRow)
open StalePass (Row RowId items notifications)
open TodoistSync (wholeSeconds)

/-- The serialized content of a thread. -/
structure ThreadCodec where
  decode : String → SlackThread
  encode : SlackThread → String
  subscribed_decode_encode : ∀ thread, (decode (encode thread)).subscribed = thread.subscribed

structure SlackMessageConfig where
  syncEnabled : Bool
  is2WaySync : Bool
deriving DecidableEq, Repr

structure SlackConnection where
  userId : UserId
  messageConfig : SlackMessageConfig
deriving DecidableEq, Repr

/-- What none of the jobs writes. `accessToken` is the connection of the user whose token the calls
to Slack are made with. -/
structure Setting where
  codec : ThreadCodec
  isTesting : UserId → Bool
  connection : IntegrationConnectionId → Option SlackConnection
  accessToken : UserId → Option IntegrationConnectionId

/-- What Slack returns of a thread; `subscribed` is absent where its first message has none. -/
structure FetchedThread where
  id : ThirdPartyItemId
  createdAt : DateTime
  updatedAt : DateTime
  thread : SlackThread
  subscribed : Option Bool

def SlackThread.sourceId (thread : SlackThread) : String := (thread.messages.head thread.nonempty).ts

def SlackThread.markAsRead (thread : SlackThread) : SlackThread :=
  { thread with lastRead := some (thread.messages.getLast thread.nonempty).ts }

def SlackThread.unsubscribe (thread : SlackThread) : SlackThread :=
  { thread with subscribed := false }

def FetchedThread.slackThread (fetched : FetchedThread) : SlackThread :=
  { fetched.thread with subscribed := fetched.subscribed.getD true }

/-- What identifies the item of a thread. -/
structure ThreadSource where
  sourceId : String
  userId : UserId
  integrationConnectionId : IntegrationConnectionId
deriving DecidableEq, Repr

def itemSource (item : ThirdPartyItem) : ThreadSource :=
  ⟨item.sourceId, item.userId, item.integrationConnectionId⟩

def rowSource (row : ThirdPartyItemRow) : ThreadSource :=
  ⟨row.sourceId, row.userId, row.integrationConnectionId⟩

/-- A notification of a thread, and its item. -/
structure ThreadNotification where
  notification : NotificationId
  item : ThirdPartyItemId
  source : ThreadSource
deriving DecidableEq, Repr

structure SideEffectsJob where
  notificationId : NotificationId
  patch : NotificationPatch
  userId : UserId
deriving DecidableEq, Repr

/-- Who calls `create_or_update_third_party_item`. -/
inductive Caller where
  | event
  | sync
  | sideEffect
deriving DecidableEq, Repr

/-- What a transaction has still to do: a statement, a call to Slack, or a choice between them. -/
inductive Operation where
  | handleEventIfEnabled (connection : IntegrationConnectionId) (existing : Option ThirdPartyItem)
  | findThirdPartyItems (threadTs : String) (handled : List IntegrationConnectionId)
  | fetchItemFromEvent (userId : UserId) (existing : Option ThirdPartyItem)
  | findUnreadThreads (userId : UserId)
  | fetchThread (userId : UserId)
  | selectItem (caller : Caller) (item : ThirdPartyItem)
  | writeItem (caller : Caller) (existing : Option ThirdPartyItem) (item : ThirdPartyItem)
  | selectNotification (item : ThirdPartyItem)
  | writeNotification (request : UpsertRequest) (existing : Option Notification)
  | updateNotification (id : NotificationId) (patch : NotificationPatch) (userId : UserId)
  | updateNotifications (selector : NotificationUpdateSelector) (patch : NotificationPatch)
      (userId : UserId)
  | getNotification (job : SideEffectsJob)
  | applySideEffects (patch : NotificationPatch) (kind : NotificationSourceKind)
      (item : ThirdPartyItem) (userId : UserId)

/-- What an operation is told: by Slack, or by a `SELECT` of notifications that may match several. -/
inductive Answer where
  | none
  | thread (fetched : Option FetchedThread)
  | notification (stamp : NotificationStamp) (existing : Option NotificationRow)

/-- What an operation does: the write, what comes next, and what comes after all the rest. `ended`
and `began` are the notifications the user changes, and those of them that are left. -/
structure Outcome where
  write : Option (Write Row) := none
  next : List Operation := []
  later : List Operation := []
  queued : List SideEffectsJob := []
  ended : List NotificationId := []
  began : List ThreadNotification := []

namespace Setting
variable (setting : Setting)

def intoThirdPartyItem (fetched : FetchedThread) (thread : SlackThread) (userId : UserId)
    (connection : IntegrationConnectionId) : ThirdPartyItem :=
  { id := fetched.id
    sourceId := SlackThread.sourceId thread
    data := .slackThread (setting.codec.encode thread)
    createdAt := wholeSeconds fetched.createdAt
    updatedAt := wholeSeconds fetched.updatedAt
    userId
    integrationConnectionId := connection
    sourceItem := none }

/-- The item is a thread that the user has left. -/
def isUnsubscribed (item : ThirdPartyItem) : Bool :=
  match item.data with
  | .slackThread content => !(setting.codec.decode content).subscribed
  | _ => false

/-- The existing item is given where 2-way sync is disabled: a thread that was left stays so. -/
def keepSubscription (existing : Option ThirdPartyItem) (thread : SlackThread) : SlackThread :=
  if existing.any setting.isUnsubscribed then SlackThread.unsubscribe thread else thread

/-- A thread as the side effects of a patch store it. -/
def withThread (item : ThirdPartyItem) (f : SlackThread → SlackThread) : Option ThirdPartyItem :=
  match item.data with
  | .slackThread content =>
    some { item with data := .slackThread (setting.codec.encode (f (setting.codec.decode content))) }
  | _ => none

section Statements
variable (rows : List Row)

def findItem (id : ThirdPartyItemId) : Option ThirdPartyItem :=
  ((items rows).find? (·.id == id)).map (joinItem rows)

/-- `find_third_party_items_for_source_id`, of any user. -/
def findThirdPartyItemsForSourceId (sourceId : String) : List ThirdPartyItem :=
  ((items rows).filter fun item => item.sourceId == sourceId && item.data.kind == .slackThread).map
    (joinItem rows)

/-- One item for each of its unread notifications. -/
def findThirdPartyItemsWithActiveNotification (userId : UserId) : List ThirdPartyItem :=
  (items rows).flatMap fun item =>
    if item.userId == userId && item.data.kind == .slackThread then
      ((notifications rows).filter fun row =>
        row.sourceItemId == item.id && row.status == .unread).map fun _ => joinItem rows item
    else []

/-- The notifications of threads whose connection has 2-way sync disabled. -/
def oneWayThreads (ids : List NotificationId) : List ThreadNotification :=
  ((notifications rows).filter fun row => ids.contains row.id).filterMap fun row =>
    ((items rows).find? (·.id == row.sourceItemId)).bind fun item =>
      if item.data.kind = .slackThread ∧
          ((setting.connection item.integrationConnectionId).any
            (!·.messageConfig.is2WaySync)) = true then
        some ⟨row.id, item.id, rowSource item⟩
      else none

/-- The `UPDATE` of the notifications that a patch of the user selects. -/
def updateSelected (ids : List NotificationId) (f : NotificationRow → NotificationRow) : Write Row :=
  .update (fun r => r.notification?.any fun row => ids.contains row.id) (onNotification f)

def patched (ids : List NotificationId) (patch : NotificationPatch)
    (f : NotificationRow → NotificationRow) : Outcome :=
  { write := some (updateSelected ids f)
    ended := if patch.status.isSome then ids else []
    began := if patch.status = some .unsubscribed then setting.oneWayThreads rows ids else [] }

def matchingItem (item : ThirdPartyItem) : Option ThirdPartyItem :=
  ((items rows).find? (ThirdPartyItemUpsert.itemMatches item)).map (joinItem rows)

/-- The call once its `SELECT` has answered: the statement it still runs and what it returns. -/
def createOrUpdateThirdPartyItem (existing : Option ThirdPartyItem) (item : ThirdPartyItem) :
    Option (Write Row) × TaskUpsert.UpsertStatus ThirdPartyItem :=
  match existing with
  | some existing =>
    if existing.eq item then (none, .untouched existing)
    else
      (some (.update (fun r => decide (r.id = .thirdPartyItem existing.id))
          (onItem (ThirdPartyItemUpsert.updateRow item))),
        .updated { existing with data := item.data, updatedAt := item.updatedAt } existing)
  | none => (some (.insert (.thirdPartyItem (ThirdPartyItemUpsert.insertRow item))), .created item)

/-- A sync saves the notifications of its items once it has stored them all, a message event only
where the item has changed. -/
def afterItem (caller : Caller) (status : TaskUpsert.UpsertStatus ThirdPartyItem) :
    List Operation × List Operation :=
  match caller, status with
  | .sync, status => ([], [.selectNotification status.value])
  | .event, .untouched _ => ([], [])
  | .event, status => ([.selectNotification status.value], [])
  | .sideEffect, _ => ([], [])

/-- An answer of the `SELECT` of a notification. -/
def answers (key : SourceKey) : Option NotificationRow → Bool
  | some row => (notifications rows).contains row && decide (sourceKey row = key)
  | none => (notifications rows).all fun row => decide (sourceKey row ≠ key)

/-- What is left of a patch once its row is written: nothing for test accounts. -/
def sideEffects (patch : NotificationPatch) (kind : NotificationSourceKind) (item : ThirdPartyItem)
    (userId : UserId) : List Operation :=
  if setting.isTesting userId then []
  else if kind = .slack then
    match patch.status with
    | some .deleted =>
      ((setting.withThread item SlackThread.markAsRead).map (.selectItem .sideEffect)).toList
    | some .unsubscribed =>
      ((setting.withThread item SlackThread.unsubscribe).map (.selectItem .sideEffect)).toList
    | _ => []
  else []

end Statements

/-- An operation; `none` where it fails, or where it is told something else. -/
def execute (rows : List Row) : Operation → Answer → Option Outcome
  | .handleEventIfEnabled id existing, .none =>
    match setting.connection id with
    | some connection =>
      some {
        next :=
          if connection.messageConfig.syncEnabled then
            [.fetchItemFromEvent connection.userId
              (if connection.messageConfig.is2WaySync then none else existing)]
          else [] }
    | none => some {}
  | .findThirdPartyItems threadTs handled, .none =>
    some {
      next := ((findThirdPartyItemsForSourceId rows threadTs).filter fun item =>
        !handled.contains item.integrationConnectionId).map fun item =>
          .handleEventIfEnabled item.integrationConnectionId (some item) }
  | .fetchItemFromEvent userId existing, .thread fetched =>
    (setting.accessToken userId).map fun connection =>
      { next := (fetched.map fun fetched => .selectItem .event (setting.intoThirdPartyItem fetched
          (setting.keepSubscription existing fetched.slackThread) userId connection)).toList }
  | .findUnreadThreads userId, .none =>
    some {
      next :=
        if setting.isTesting userId then []
        else (findThirdPartyItemsWithActiveNotification rows userId).map fun _ =>
          .fetchThread userId }
  | .fetchThread userId, .thread fetched =>
    (setting.accessToken userId).map fun connection =>
      { later := (fetched.map fun fetched => .selectItem .sync
          (setting.intoThirdPartyItem fetched fetched.slackThread userId connection)).toList }
  | .selectItem caller item, .none =>
    some { next := [.writeItem caller (matchingItem rows item) item] }
  | .writeItem caller existing item, .none =>
    let (write, status) := createOrUpdateThirdPartyItem existing item
    let (next, later) := afterItem caller status
    some { write, next, later }
  | .selectNotification item, .notification stamp existing =>
    match item.data with
    | .slackThread content =>
      let request := (slackIntoNotification stamp (setting.codec.decode content)).request stamp.id
        item item.userId
      if answers rows request.key existing then
        some { next := [.writeNotification request (existing.map fun row =>
          intoNotification row ((findItem rows row.sourceItemId).getD item))] }
      else none
    | _ => none
  | .writeNotification request existing, .none =>
    some { write := (createOrUpdateNotification existing request).1.map writeNotification }
  | .updateNotification id patch userId, .none =>
    if patch.isDefault then none
    else
      let selected := (notifications rows).filter (owns id userId)
      some { setting.patched rows (selected.map (·.id)) patch (updateNotificationRow patch) with
        next := (selected.filter (isUpdated patch)).flatMap fun row =>
          ((findItem rows row.sourceItemId).map fun item =>
            .applySideEffects patch row.kind item userId).toList }
  | .updateNotifications selector patch userId, .none =>
    if patch.status.isNone && patch.snoozedUntil.isNone then some {}
    else
      let ids := ((notifications rows).filter (selector.selects userId ·)).map (·.id)
      some { setting.patched rows ids patch (patchRow patch) with
        queued := ids.map fun id => ⟨id, patch, userId⟩ }
  | .getNotification job, .none =>
    ((notifications rows).find? (owns job.notificationId job.userId)).bind fun row =>
      (findItem rows row.sourceItemId).map fun item =>
        { next := [.applySideEffects job.patch row.kind item job.userId] }
  | .applySideEffects patch kind item userId, .none =>
    some { next := setting.sideEffects patch kind item userId }
  | _, _ => none

end Setting

/-- A transaction between two operations. -/
structure Memory where
  operations : List Operation
  ended : List NotificationId
  began : List ThreadNotification

abbrev JobId := Nat

abbrev Session := ReadCommitted.Session JobId Row Memory

/-- `unsubscribed` are the threads that the user has left last, whose messages have not mentioned
the user since. -/
structure State where
  store : Store JobId Row Memory
  queue : List SideEffectsJob
  unsubscribed : List ThreadNotification

/-- `receive` starts the job of a message event: the connections of the users it mentions, and its
timestamps. A job of the queue may run again. -/
inductive Input where
  | receive (id : JobId) (mentioned : List IntegrationConnectionId) (threadTs : Option String)
      (ts : String)
  | sync (id : JobId) (userId : UserId)
  | patch (id : JobId) (notificationId : NotificationId) (patch : NotificationPatch)
      (userId : UserId)
  | patchBulk (id : JobId) (selector : NotificationUpdateSelector) (patch : NotificationPatch)
      (userId : UserId)
  | process (id : JobId) (job : SideEffectsJob)
  | run (id : JobId) (answer : Answer)
  | commit (id : JobId)
  | abort (id : JobId)

def eventOperations (mentioned : List IntegrationConnectionId) (threadTs : Option String) :
    List Operation :=
  mentioned.map (.handleEventIfEnabled · none) ++
    (threadTs.map (.findThirdPartyItems · mentioned)).toList

/-- The message mentions the user of the thread. -/
def ThreadNotification.isMentioned (mentioned : List IntegrationConnectionId) (rootTs : String)
    (thread : ThreadNotification) : Bool :=
  mentioned.contains thread.source.integrationConnectionId && thread.source.sourceId == rootTs

def Setting.isSyncNotificationsEnabled (setting : Setting) (userId : UserId) : Bool :=
  ((setting.accessToken userId).bind setting.connection).any (·.messageConfig.syncEnabled)

namespace State
variable (s : State)

def begin (id : JobId) (operations : List Operation) : Option State :=
  (s.store.begin id ⟨operations, [], []⟩).map fun store => { s with store }

def session (id : JobId) : Option Session := s.store.sessions.find? id

def executable (id : JobId) : Write Row → Bool
  | .insert row => !(s.store.claimedKeys Row.id).contains row.id
  | .update p f => !s.store.blocked id (.update p f)

/-- What the transaction has still to do once an operation is done. -/
def after (session : Session) (rest : List Operation) (outcome : Outcome) : State :=
  { s with
    store := s.store.run session.id outcome.write
      ⟨outcome.next ++ rest ++ outcome.later, session.memory.ended ++ outcome.ended,
        session.memory.began ++ outcome.began⟩
    queue := s.queue ++ outcome.queued }

def commit (session : Session) : State :=
  { s with
    store := s.store.commit session
    unsubscribed := s.unsubscribed.filter (!session.memory.ended.contains ·.notification) ++
      session.memory.began }

end State

def step (setting : Setting) (s : State) : Input → Option State
  | .receive id mentioned threadTs ts =>
    (s.begin id (eventOperations mentioned threadTs)).map fun t =>
      { t with unsubscribed :=
          s.unsubscribed.filter (!·.isMentioned mentioned (threadTs.getD ts)) }
  | .sync id userId =>
    if setting.isSyncNotificationsEnabled userId then s.begin id [.findUnreadThreads userId] else none
  | .patch id notificationId patch userId =>
    s.begin id [.updateNotification notificationId patch userId]
  | .patchBulk id selector patch userId => s.begin id [.updateNotifications selector patch userId]
  | .process id job => if s.queue.contains job then s.begin id [.getNotification job] else none
  | .run id answer =>
    (s.session id).bind fun session =>
      match session.memory.operations with
      | operation :: rest =>
        (setting.execute (s.store.visible session) operation answer).bind fun outcome =>
          if outcome.write.all (s.executable id) then some (s.after session rest outcome) else none
      | [] => none
  | .commit id =>
    (s.session id).bind fun session =>
      if session.memory.operations.isEmpty then some (s.commit session) else none
  | .abort id => (s.session id).map fun session => { s with store := s.store.rollback session.id }

/-- Nothing is open yet. -/
def initial (rows : List Row) : State := ⟨⟨rows, Table.empty⟩, [], []⟩

/-- The notifications of the threads that the user has left are unsubscribed. -/
def Sticks (s : State) : Prop :=
  ∀ thread ∈ s.unsubscribed, ∀ row ∈ notifications s.store.committed,
    row.id = thread.notification → row.status = .unsubscribed

instance (s : State) : Decidable (Sticks s) :=
  inferInstanceAs (Decidable (∀ _ ∈ _, ∀ _ ∈ _, _ → _))

namespace Operation
variable (setting : Setting) (thread : ThreadNotification)

/-- The operation makes no notification of the thread of what it holds that is not unsubscribed. -/
def Settled : Operation → Prop
  | .selectItem caller item =>
    caller ≠ .sideEffect → itemSource item = thread.source → setting.isUnsubscribed item = true
  | .writeItem caller existing item =>
    caller ≠ .sideEffect → (∃ e ∈ existing, e.id = thread.item) → setting.isUnsubscribed item = true
  | .selectNotification item => item.id = thread.item → setting.isUnsubscribed item = true
  | .writeNotification request existing =>
    (∃ e ∈ existing, e.id = thread.notification) → request.notification.status = .unsubscribed
  | _ => True

instance : ∀ operation, Decidable (Settled setting thread operation)
  | .selectItem _ _ => inferInstanceAs (Decidable (_ → _ → _))
  | .writeItem _ _ _ => inferInstanceAs (Decidable (_ → _ → _))
  | .selectNotification _ => inferInstanceAs (Decidable (_ → _))
  | .writeNotification _ _ => inferInstanceAs (Decidable (_ → _))
  | .handleEventIfEnabled _ _ | .findThirdPartyItems _ _ | .fetchItemFromEvent _ _
  | .findUnreadThreads _ | .fetchThread _ | .updateNotification _ _ _ | .updateNotifications _ _ _
  | .getNotification _ | .applySideEffects _ _ _ _ => inferInstanceAs (Decidable True)

end Operation

end UniversalInbox.SlackSubscription
