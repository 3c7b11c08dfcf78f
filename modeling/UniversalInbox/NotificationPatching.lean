import UniversalInbox.BulkPatch
import UniversalInbox.Library.Results
import UniversalInbox.NotificationStore
import UniversalInbox.PeerService
import UniversalInbox.ThirdPartyItemUpsert

/-! Patching one notification. Its row is written first, then the side effects of the patch are
applied in the same transaction: calls to the source of the notification, and writes to its
third party item, to its task and to the other notifications of that task. -/
namespace UniversalInbox.NotificationPatching
open PeerService
open Results (bind_eq_ok map_eq_ok)
open NotificationUpsert (joinedNotification)
open BulkPatch (patchRow)
open ThirdPartyItemUpsert (createOrUpdateThirdPartyItem)

structure UpdateStatus (α : Type) where
  updated : Bool
  result : Option α

/-- An assignment of notification columns that no constraint can refuse. -/
structure Assignable (db : Database) (f : NotificationRow → NotificationRow) : Prop where
  id : ∀ r, (f r).id = r.id
  userId : ∀ r, (f r).userId = r.userId
  sourceItemId : ∀ r, (f r).sourceItemId = r.sourceItemId
  updatedAt : ∀ r, (f r).updatedAt = r.updatedAt
  taskId : ∀ r ∈ db.notifications.rows, ∀ i ∈ (f r).taskId, (db.tasks.find? i).isSome

/-- `UPDATE notification … WHERE p`. -/
def updateNotifications (db : Database) (p : NotificationRow → Bool)
    (f : NotificationRow → NotificationRow) (h : Assignable db f) : Database :=
  { db with
    notifications := db.notifications.update p f h.id
    notification_source := by
      intro r hr
      obtain ⟨row, hrow, rfl⟩ := Table.mem_update.mp hr
      split
      · rw [h.sourceItemId]
        exact db.notification_source row hrow
      · exact db.notification_source row hrow
    notification_task := by
      intro r hr
      obtain ⟨row, hrow, rfl⟩ := Table.mem_update.mp hr
      split
      · exact h.taskId row hrow
      · exact db.notification_task row hrow
    notification_updatedAt := by
      intro r hr
      obtain ⟨row, hrow, rfl⟩ := Table.mem_update.mp hr
      split
      · rw [h.updatedAt]
        exact db.notification_updatedAt row hrow
      · exact db.notification_updatedAt row hrow }

theorem assignable_patchRow (db : Database) (patch : NotificationPatch) :
    Assignable db (patchRow patch) :=
  ⟨fun _ => rfl, fun _ => rfl, fun _ => rfl, fun _ => rfl, db.notification_task⟩

/-- The `SET` list of a single notification, the task included. -/
def updateNotificationRow (patch : NotificationPatch) (row : NotificationRow) : NotificationRow :=
  { patchRow patch row with taskId := patch.taskId.or row.taskId }

/-- The foreign key of the task. -/
def TaskKnown (db : Database) (patch : NotificationPatch) : Prop :=
  ∀ i ∈ patch.taskId, (db.tasks.find? i).isSome

instance (db : Database) (patch : NotificationPatch) : Decidable (TaskKnown db patch) :=
  inferInstanceAs (Decidable (∀ i ∈ patch.taskId, (db.tasks.find? i).isSome))

theorem assignable_updateNotificationRow {db : Database} {patch : NotificationPatch}
    (h : TaskKnown db patch) : Assignable db (updateNotificationRow patch) where
  id _ := rfl
  userId _ := rfl
  sourceItemId _ := rfl
  updatedAt _ := rfl
  taskId := by
    intro r hr i hi
    rcases Option.or_eq_some_iff.mp hi with hpatch | ⟨-, hrow⟩
    · exact h i hpatch
    · exact db.notification_task r hr i hrow

/-- `is_updated`, read from the row before the update. -/
def isUpdated (patch : NotificationPatch) (row : NotificationRow) : Bool :=
  patch.status.any (· != row.status) ||
    patch.snoozedUntil.any (fun t => row.snoozedUntil != some (pgTimestamp t)) ||
    patch.taskId.any (fun i => row.taskId != some i)

def owns (id : NotificationId) (userId : UserId) (row : NotificationRow) : Bool :=
  row.id == id && row.userId == userId

def updateNotification (db : Database) (notificationId : NotificationId)
    (patch : NotificationPatch) (userId : UserId) :
    Except UniversalInboxError (Database × UpdateStatus Notification) :=
  if patch.isDefault then
    .error (.invalidInputData
      s!"Missing `status` field value to update notification {notificationId.uuid}")
  else if h : TaskKnown db patch then
    let db' := updateNotifications db (owns notificationId userId) (updateNotificationRow patch)
      (assignable_updateNotificationRow h)
    .ok (db',
      match (db.notifications.find? notificationId).filter (·.userId == userId) with
      | some row =>
        ⟨isUpdated patch row, joinedNotification db' (updateNotificationRow patch row)⟩
      | none => ⟨false, none⟩)
  else .error (.databaseError
    s!"Failed to update notification {notificationId.uuid} from storage")

/-- The `SET` list of the two columns that patching a notification writes in a task. -/
def updateTaskRow (now : DateTime) (patch : TaskPatch) (row : TaskRow) : TaskRow :=
  { row with
    status := patch.status.getD row.status
    completedAt := if patch.status = some .done then some (pgTimestamp now) else row.completedAt
    body := patch.body.getD row.body }

theorem updateTaskRow_id (now : DateTime) (patch : TaskPatch) (row : TaskRow) :
    (updateTaskRow now patch row).id = row.id := rfl

def taskIsUpdated (patch : TaskPatch) (row : TaskRow) : Bool :=
  patch.status.any (· != row.status) || patch.body.any (· != row.body)

def writeTask (db : Database) (now : DateTime) (taskId : TaskId) (patch : TaskPatch)
    (userId : UserId) : Database :=
  { db with
    tasks := db.tasks.update (fun r => r.id == taskId && r.userId == userId)
      (updateTaskRow now patch) (updateTaskRow_id now patch)
    task_source := by
      intro r hr
      obtain ⟨row, hrow, rfl⟩ := Table.mem_update.mp hr
      split <;> exact db.task_source row hrow
    task_sink := by
      intro r hr
      obtain ⟨row, hrow, rfl⟩ := Table.mem_update.mp hr
      split <;> exact db.task_sink row hrow
    task_parent := by
      intro r hr i hi
      rw [Table.find?_isSome_update]
      obtain ⟨row, hrow, rfl⟩ := Table.mem_update.mp hr
      split at hi <;> exact db.task_parent row hrow i hi
    task_source_unique := by
      intro r hr r' hr' hsame
      obtain ⟨row, hrow, rfl⟩ := Table.mem_update.mp hr
      obtain ⟨row', hrow', rfl⟩ := Table.mem_update.mp hr'
      have : row = row' := db.task_source_unique row hrow row' hrow' (by
        split at hsame <;> split at hsame <;> exact hsame)
      rw [this]
    task_sink_unique := by
      intro r hr r' hr' i hi hsame
      obtain ⟨row, hrow, rfl⟩ := Table.mem_update.mp hr
      obtain ⟨row', hrow', rfl⟩ := Table.mem_update.mp hr'
      have : row = row' := db.task_sink_unique row hrow row' hrow' i
        (by split at hi <;> exact hi) (by split at hsame <;> exact hsame)
      rw [this]
    notification_task := by
      intro r hr i hi
      rw [Table.find?_isSome_update]
      exact db.notification_task r hr i hi }

def updateTask (db : Database) (now : DateTime) (taskId : TaskId) (patch : TaskPatch)
    (userId : UserId) : Database × UpdateStatus Task :=
  let db' := writeTask db now taskId patch userId
  (db',
    match (db.tasks.find? taskId).filter (·.userId == userId) with
    | some row => ⟨taskIsUpdated patch row, db'.getTask taskId⟩
    | none => ⟨false, none⟩)

def deletedPatch : NotificationPatch := { status := some .deleted, snoozedUntil := none, taskId := none }

/-- `update_notifications_for_task`, of every kind and of any user. -/
def updateNotificationsForTask (db : Database) (taskId : TaskId) (patch : NotificationPatch) :
    Database :=
  updateNotifications db (·.taskId == some taskId) (patchRow patch) (assignable_patchRow db patch)

/-- What the providers answer while one notification is patched: the access token and the calls
of its source, those of the Google Mail thread behind a Google Calendar event, and those of the
two items of its task. -/
structure SideEffectAnswers where
  source : Except UniversalInboxError Unit
  nestedSource : Except UniversalInboxError Unit
  taskSource : TaskPatch → PeerAnswers
  taskSink : TaskPatch → PeerAnswers

/-- What the patches of a user find outside of the tables. The content of a Slack thread is not
read here, only what marking it as read or leaving it makes of it. -/
structure Environment where
  isTesting : Bool
  now : DateTime
  htmlUrl : Notification → String
  markThreadAsRead : String → String
  unsubscribeThread : String → String
  answers : NotificationId → SideEffectAnswers

section Service
variable (env : Environment)

/-- The source item first, then the sink item if it is another one. -/
def applyTaskSideEffects (patch : TaskPatch) (task : Task) (answers : SideEffectAnswers) :
    Except UniversalInboxError Unit :=
  let sideEffect (item : ThirdPartyItem) (answers : PeerAnswers) :=
    (applyTaskThirdPartyItemSideEffect env.isTesting patch item.kind answers (fieldsOf task)).2
  do
    sideEffect task.sourceItem (answers.taskSource patch)
    match task.sinkItem.filter (·.id != task.sourceItem.id) with
    | some sinkItem => sideEffect sinkItem (answers.taskSink patch)
    | none => .ok ()

def patchTask (db : Database) (taskId : TaskId) (patch : TaskPatch) (answers : SideEffectAnswers)
    (userId : UserId) : Except UniversalInboxError (Database × UpdateStatus Task) :=
  let (db', updatedTask) := updateTask db env.now taskId patch userId
  let db'' :=
    if updatedTask.result.any (fun task => task.kind == .todoist || task.kind == .tickTick) &&
        patch.status.isSome then
      updateNotificationsForTask db' taskId deletedPatch
    else db'
  match updatedTask with
  | ⟨true, some task⟩ =>
    (applyTaskSideEffects env patch task answers).map fun _ => (db'', updatedTask)
  | ⟨false, none⟩ =>
    if (db.tasks.find? taskId).isSome then
      .error (.forbidden s!"Only the owner of the task {taskId.uuid} can patch it")
    else .ok (db'', updatedTask)
  | _ => .ok (db'', updatedTask)

def deleteTaskPatch : TaskPatch :=
  { status := some .deleted, projectName := none, dueAt := none, priority := none, body := none,
    title := none, sinkItemId := none }

def linkTaskPatch (task : Task) (notification : Notification) : TaskPatch :=
  { status := none, projectName := none, dueAt := none, priority := none,
    body := some s!"{task.body}\n- [{notification.title}]({env.htmlUrl notification})"
    title := none, sinkItemId := none }

def linkNotificationWithTask (db : Database) (notification : Notification) (taskId : TaskId)
    (userId : UserId) : Except UniversalInboxError Database :=
  match db.getTask taskId with
  | none => .error (.unexpected
      s!"Cannot link notification {notification.id.uuid} with unknown task {taskId.uuid}")
  | some task =>
    if task.userId ≠ userId then
      .error (.forbidden s!"Only the owner of the task {taskId.uuid} can access it")
    else do
      let (db', updatedTask) ← patchTask env db taskId (linkTaskPatch env task notification)
        (env.answers notification.id) userId
      match updatedTask.result with
      | some _ => .ok db'
      | none => .error (.unexpected
          s!"Cannot update task {taskId.uuid} body while linking notification {notification.id.uuid} to it")

/-- The implementations of `ThirdPartyNotificationSourceService`; Slack has two. -/
inductive NotificationSourceService where
  | github
  | linear
  | googleCalendar
  | googleDrive
  | googleMail
  | slackReaction
  | slackThread
deriving DecidableEq, Repr

/-- A call that reaches the provider is answered, the others do nothing. -/
def NotificationSourceService.deleteNotificationFromSource (service : NotificationSourceService)
    (answer : Except UniversalInboxError Unit) : Except UniversalInboxError Unit :=
  match service with
  | .googleCalendar | .googleDrive => .ok ()
  | .github | .linear | .googleMail | .slackReaction | .slackThread => answer

def NotificationSourceService.unsubscribeNotificationFromSource
    (service : NotificationSourceService) (answer : Except UniversalInboxError Unit) :
    Except UniversalInboxError Unit :=
  match service with
  | .googleDrive => .ok ()
  | .github | .linear | .googleCalendar | .googleMail | .slackReaction | .slackThread => answer

def NotificationSourceService.snoozeNotificationFromSource (service : NotificationSourceService)
    (answer : Except UniversalInboxError Unit) : Except UniversalInboxError Unit :=
  match service with
  | .linear => answer
  | .github | .googleCalendar | .googleDrive | .googleMail | .slackReaction | .slackThread => .ok ()

/-- A Slack thread is stored anew with `content`, any other item is left alone. -/
def updateSlackThread (db : Database) (item : ThirdPartyItem) (content : String → String) :
    Except UniversalInboxError Database :=
  match item.data with
  | .slackThread thread =>
    (createOrUpdateThirdPartyItem db { item with data := .slackThread (content thread) }).map (·.1)
  | _ => .ok db

def applyUpdatedNotificationSideEffect (db : Database) (service : NotificationSourceService)
    (patch : NotificationPatch) (item : ThirdPartyItem) (answer : Except UniversalInboxError Unit) :
    Except UniversalInboxError Database :=
  match patch.status with
  | some .deleted => do
    let db' ← updateSlackThread db item env.markThreadAsRead
    service.deleteNotificationFromSource answer
    return db'
  | some .unsubscribed => do
    let db' ← updateSlackThread db item env.unsubscribeThread
    service.unsubscribeNotificationFromSource answer
    return db'
  | some .unread | some .read | none =>
    if patch.snoozedUntil.isSome then
      (service.snoozeNotificationFromSource answer).map fun _ => db
    else .ok db

/-- The thread that a Google Calendar event comes from. -/
def applyGoogleMailThreadSideEffect (db : Database) (patch : NotificationPatch)
    (item : ThirdPartyItem) (answer : Except UniversalInboxError Unit) :
    Except UniversalInboxError Database :=
  match item.sourceItem.filter (·.kind == .googleMailThread) with
  | some thread => applyUpdatedNotificationSideEffect env db .googleMail patch thread answer
  | none => .ok db

/-- A notification of a task manager has no source but its task. -/
def applyTaskManagerSideEffects (db : Database) (notification : Notification)
    (patch : NotificationPatch) (applyTaskSideEffects : Bool) (userId : UserId) :
    Except UniversalInboxError Database :=
  if patch.status = some .deleted then
    match notification.taskId with
    | some taskId =>
      if applyTaskSideEffects then
        (patchTask env db taskId deleteTaskPatch (env.answers notification.id) userId).map (·.1)
      else .ok db
    | none => .error (.unexpected
        s!"{notification.kind.display} notification {notification.id.uuid} is expected to be linked to a task")
  -- Other actions than delete or snoozing are not supported.
  else if patch.snoozedUntil.isNone then
    .error (.unsupportedAction
      s!"Cannot update the status of {notification.kind.display} notification {notification.id.uuid}, update task's project")
  else .ok db

/-- The side effects at the source of the notification. -/
def applySourceSideEffects (db : Database) (notification : Notification)
    (patch : NotificationPatch) (applyTaskSideEffects : Bool) (userId : UserId) :
    Except UniversalInboxError Database :=
  let answers := env.answers notification.id
  let item := notification.sourceItem
  match notification.kind with
  | .github => applyUpdatedNotificationSideEffect env db .github patch item answers.source
  | .linear => applyUpdatedNotificationSideEffect env db .linear patch item answers.source
  | .googleCalendar => do
    let db' ← applyGoogleMailThreadSideEffect env db patch item answers.nestedSource
    applyUpdatedNotificationSideEffect env db' .googleCalendar patch item answers.source
  | .googleDrive => applyUpdatedNotificationSideEffect env db .googleDrive patch item answers.source
  | .googleMail => applyUpdatedNotificationSideEffect env db .googleMail patch item answers.source
  | .slack =>
    match item.data with
    | .slackReaction _ =>
      applyUpdatedNotificationSideEffect env db .slackReaction patch item answers.source
    | .slackThread _ =>
      applyUpdatedNotificationSideEffect env db .slackThread patch item answers.source
    | _ => .error (.unexpected
        s!"Unsupported Slack notification data type for third party item {item.id.uuid}")
  | .todoist | .tickTick =>
    applyTaskManagerSideEffects env db notification patch applyTaskSideEffects userId
  | .api => .ok db

/-- None for test accounts. -/
def applyNotificationSideEffects (db : Database) (notification : Notification)
    (patch : NotificationPatch) (applyTaskSideEffects : Bool) (userId : UserId) :
    Except UniversalInboxError Database :=
  if env.isTesting then .ok db
  else do
    let db' ← applySourceSideEffects env db notification patch applyTaskSideEffects userId
    match patch.taskId with
    | some taskId =>
      if applyTaskSideEffects then linkNotificationWithTask env db' notification taskId userId
      else .ok db'
    | none => .ok db'

/-- Side effects are applied for a row that has changed, and for no other. -/
def patchNotification (db : Database) (notificationId : NotificationId) (patch : NotificationPatch)
    (applyTaskSideEffects applySideEffects : Bool) (userId : UserId) :
    Except UniversalInboxError (Database × UpdateStatus Notification) := do
  let (db', updatedNotification) ← updateNotification db notificationId patch userId
  if !applySideEffects then .ok (db', updatedNotification)
  else
    match updatedNotification with
    | ⟨true, some notification⟩ =>
      (applyNotificationSideEffects env db' notification patch applyTaskSideEffects userId).map
        fun db'' => (db'', updatedNotification)
    | ⟨false, none⟩ =>
      if (db'.notifications.find? notificationId).isSome then
        .error (.forbidden
          s!"Only the owner of the notification {notificationId.uuid} can patch it")
      else .ok (db', updatedNotification)
    | _ => .ok (db', updatedNotification)

end Service

/-- The notifications there are, with their owners; no patch changes them. -/
def owners (db : Database) : List (NotificationId × UserId) :=
  db.notifications.rows.map fun r => (r.id, r.userId)

section Owners
variable {env : Environment} {db db' : Database} {userId : UserId} {notification : Notification}
  {patch : NotificationPatch}

theorem owners_updateNotifications {p : NotificationRow → Bool}
    {f : NotificationRow → NotificationRow} {h : Assignable db f} :
    owners (updateNotifications db p f h) = owners db :=
  Table.map_map_ite fun r => by rw [h.id, h.userId]

theorem notifications_createOrUpdateThirdPartyItem {item : ThirdPartyItem}
    {status : TaskUpsert.UpsertStatus ThirdPartyItem}
    (h : createOrUpdateThirdPartyItem db item = .ok (db', status)) :
    db'.notifications = db.notifications := by
  rcases ThirdPartyItemUpsert.createOrUpdateThirdPartyItem_cases h with ⟨_, _, _, _, rfl, _⟩ |
    ⟨_, _, _, _, _, rfl, _⟩ | ⟨_, _, _, _, rfl, _⟩ <;> rfl

theorem notifications_updateSlackThread {item : ThirdPartyItem} {content : String → String}
    (h : updateSlackThread db item content = .ok db') : db'.notifications = db.notifications := by
  unfold updateSlackThread at h
  split at h
  · obtain ⟨⟨db'', status⟩, hupsert, rfl⟩ := map_eq_ok.mp h
    exact notifications_createOrUpdateThirdPartyItem hupsert
  · cases h
    rfl

/-- A source is told about a patch without a word in the notifications. -/
theorem notifications_applyUpdatedNotificationSideEffect {service : NotificationSourceService}
    {item : ThirdPartyItem} {answer : Except UniversalInboxError Unit}
    (h : applyUpdatedNotificationSideEffect env db service patch item answer = .ok db') :
    db'.notifications = db.notifications := by
  unfold applyUpdatedNotificationSideEffect at h
  split at h
  · obtain ⟨db'', hthread, hcall⟩ := bind_eq_ok.mp h
    obtain ⟨_, -, hreturn⟩ := bind_eq_ok.mp hcall
    cases hreturn
    exact notifications_updateSlackThread hthread
  · obtain ⟨db'', hthread, hcall⟩ := bind_eq_ok.mp h
    obtain ⟨_, -, hreturn⟩ := bind_eq_ok.mp hcall
    cases hreturn
    exact notifications_updateSlackThread hthread
  all_goals
    split at h
    · obtain ⟨_, -, hdb⟩ := map_eq_ok.mp h
      rw [hdb]
    · cases h
      rfl

section Columns
variable {α : Type} {column : NotificationRow → α}

/-- What the deletion of notifications does not write, no change of a task does. -/
theorem map_patchTask (hcolumn : ∀ r, column (patchRow deletedPatch r) = column r)
    {taskId : TaskId} {patch : TaskPatch} {answers : SideEffectAnswers} {status : UpdateStatus Task}
    (h : patchTask env db taskId patch answers userId = .ok (db', status)) :
    db'.notifications.rows.map column = db.notifications.rows.map column := by
  have hwritten : ∀ updated : Bool,
      (if updated then
          updateNotificationsForTask (writeTask db env.now taskId patch userId) taskId deletedPatch
        else writeTask db env.now taskId patch userId).notifications.rows.map column =
      db.notifications.rows.map column := by
    intro updated
    cases updated with
    | false => rfl
    | true => exact Table.map_map_ite hcolumn
  unfold patchTask updateTask at h
  simp only at h
  split at h
  · obtain ⟨_, -, hreturn⟩ := map_eq_ok.mp h
    cases hreturn
    exact hwritten _
  · split at h
    · cases h
    · cases h
      exact hwritten _
  · cases h
    exact hwritten _

theorem map_linkNotificationWithTask (hcolumn : ∀ r, column (patchRow deletedPatch r) = column r)
    {taskId : TaskId}
    (h : linkNotificationWithTask env db notification taskId userId = .ok db') :
    db'.notifications.rows.map column = db.notifications.rows.map column := by
  unfold linkNotificationWithTask at h
  split at h
  · cases h
  · split at h
    · cases h
    · obtain ⟨⟨db'', status⟩, hpatch, hreturn⟩ := bind_eq_ok.mp h
      dsimp only at hreturn
      split at hreturn
      · cases hreturn
        exact map_patchTask hcolumn hpatch
      · cases hreturn

theorem map_applyTaskManagerSideEffects
    (hcolumn : ∀ r, column (patchRow deletedPatch r) = column r) {applyTaskSideEffects : Bool}
    (h : applyTaskManagerSideEffects env db notification patch applyTaskSideEffects userId =
      .ok db') :
    db'.notifications.rows.map column = db.notifications.rows.map column := by
  unfold applyTaskManagerSideEffects at h
  split at h
  · split at h
    · split at h
      · obtain ⟨⟨db'', status⟩, hpatch, rfl⟩ := map_eq_ok.mp h
        exact map_patchTask hcolumn hpatch
      · cases h
        rfl
    · cases h
  · split at h
    · cases h
    · cases h
      rfl

theorem map_applySourceSideEffects (hcolumn : ∀ r, column (patchRow deletedPatch r) = column r)
    {applyTaskSideEffects : Bool}
    (h : applySourceSideEffects env db notification patch applyTaskSideEffects userId = .ok db') :
    db'.notifications.rows.map column = db.notifications.rows.map column := by
  have hsource : ∀ {db db' : Database} {service item answer},
      applyUpdatedNotificationSideEffect env db service patch item answer = .ok db' →
        db'.notifications.rows.map column = db.notifications.rows.map column := by
    intro db db' service item answer h
    rw [notifications_applyUpdatedNotificationSideEffect h]
  unfold applySourceSideEffects at h
  simp only at h
  split at h
  · exact hsource h
  · exact hsource h
  · obtain ⟨db'', hthread, hevent⟩ := bind_eq_ok.mp h
    rw [hsource hevent]
    unfold applyGoogleMailThreadSideEffect at hthread
    split at hthread
    · exact hsource hthread
    · cases hthread
      rfl
  · exact hsource h
  · exact hsource h
  · split at h
    · exact hsource h
    · exact hsource h
    · cases h
  · exact map_applyTaskManagerSideEffects hcolumn h
  · exact map_applyTaskManagerSideEffects hcolumn h
  · cases h
    rfl

/-- The side effects of a patch write no column of a notification that its deletion does not. -/
theorem map_applyNotificationSideEffects
    (hcolumn : ∀ r, column (patchRow deletedPatch r) = column r) {applyTaskSideEffects : Bool}
    (h : applyNotificationSideEffects env db notification patch applyTaskSideEffects userId =
      .ok db') :
    db'.notifications.rows.map column = db.notifications.rows.map column := by
  unfold applyNotificationSideEffects at h
  split at h
  · cases h
    rfl
  · obtain ⟨db'', hsource, hlink⟩ := bind_eq_ok.mp h
    rw [← map_applySourceSideEffects hcolumn hsource]
    split at hlink
    · split at hlink
      · exact map_linkNotificationWithTask hcolumn hlink
      · cases hlink
        rfl
    · cases hlink
      rfl

end Columns

theorem owners_applyNotificationSideEffects {applyTaskSideEffects : Bool}
    (h : applyNotificationSideEffects env db notification patch applyTaskSideEffects userId =
      .ok db') : owners db' = owners db :=
  map_applyNotificationSideEffects (fun _ => rfl) h

/-- What a patch can do to a notification: nothing, a write that changes no value, or a write
followed by its side effects. -/
theorem patchNotification_cases {id : NotificationId} {status : UpdateStatus Notification}
    (h : patchNotification env db id patch true true userId = .ok (db', status)) :
    ∃ db'', updateNotification db id patch userId = .ok (db'', status) ∧
      ((status.updated = true ∧ ∃ n, status.result = some n ∧
          applyNotificationSideEffects env db'' n patch true userId = .ok db') ∨
        ((status.updated = false ∨ status.result = none) ∧ db' = db'')) := by
  obtain ⟨⟨db'', updated⟩, hupdate, hthen⟩ := bind_eq_ok.mp h
  simp only [Bool.not_true, Bool.false_eq_true, if_false] at hthen
  obtain ⟨updated, result⟩ := updated
  cases updated with
  | true =>
    cases result with
    | some n =>
      obtain ⟨_, hside, hreturn⟩ := map_eq_ok.mp hthen
      cases hreturn
      exact ⟨db'', hupdate, .inl ⟨rfl, n, rfl, hside⟩⟩
    | none =>
      cases hthen
      exact ⟨_, hupdate, .inr ⟨.inr rfl, rfl⟩⟩
  | false =>
    cases result with
    | some n =>
      cases hthen
      exact ⟨_, hupdate, .inr ⟨.inl rfl, rfl⟩⟩
    | none =>
      dsimp only at hthen
      split at hthen
      · cases hthen
      · cases hthen
        exact ⟨_, hupdate, .inr ⟨.inl rfl, rfl⟩⟩

end Owners

end UniversalInbox.NotificationPatching
