import UniversalInbox.Library.Table
import UniversalInbox.Notification

/-! The tables behind third party items, tasks and notifications, with the joins that
turn a row into the value the services see. -/
namespace UniversalInbox

structure ThirdPartyItemRow where
  id : ThirdPartyItemId
  sourceId : String
  data : ThirdPartyItemData
  createdAt : DateTime
  updatedAt : DateTime
  userId : UserId
  integrationConnectionId : IntegrationConnectionId
  sourceItemId : Option ThirdPartyItemId
deriving DecidableEq, Repr

structure TaskRow where
  id : TaskId
  title : String
  body : String
  status : TaskStatus
  completedAt : Option DateTime
  priority : TaskPriority
  dueAt : Option DueDate
  tags : List String
  parentId : Option TaskId
  project : String
  isRecurring : Bool
  createdAt : DateTime
  updatedAt : DateTime
  kind : TaskSourceKind
  sourceItemId : ThirdPartyItemId
  sinkItemId : Option ThirdPartyItemId
  userId : UserId
deriving DecidableEq, Repr

structure NotificationRow where
  id : NotificationId
  title : String
  status : NotificationStatus
  createdAt : DateTime
  updatedAt : DateTime
  lastReadAt : Option DateTime
  snoozedUntil : Option DateTime
  setAsideAt : Option DateTime
  userId : UserId
  taskId : Option TaskId
  kind : NotificationSourceKind
  sourceItemId : ThirdPartyItemId
deriving DecidableEq, Repr

/-- The constraints of `third_party_item`: a source item is a row of the table, and a source, kind
and connection have one row. -/
structure ThirdPartyItemConstraints (items : Table ThirdPartyItemRow.id) : Prop where
  source : ∀ r ∈ items.rows, ∀ i ∈ r.sourceItemId, (items.find? i).isSome
  unique : ∀ r ∈ items.rows, ∀ r' ∈ items.rows, r.sourceId = r'.sourceId →
    r.data.kind = r'.data.kind → r.integrationConnectionId = r'.integrationConnectionId →
      r.id = r'.id

instance (items : Table ThirdPartyItemRow.id) : Decidable (ThirdPartyItemConstraints items) :=
  decidable_of_iff
    ((∀ r ∈ items.rows, ∀ i ∈ r.sourceItemId, (items.find? i).isSome) ∧
      ∀ r ∈ items.rows, ∀ r' ∈ items.rows, r.sourceId = r'.sourceId →
        r.data.kind = r'.data.kind → r.integrationConnectionId = r'.integrationConnectionId →
          r.id = r'.id)
    ⟨fun ⟨source, unique⟩ => ⟨source, unique⟩, fun ⟨source, unique⟩ => ⟨source, unique⟩⟩

/-- The constraints are those of the schema: foreign keys, one row per third party source, one
task per source item and per sink item, and a `TIMESTAMP` column that holds whole microseconds. -/
structure Database where
  thirdPartyItems : Table ThirdPartyItemRow.id
  tasks : Table TaskRow.id
  notifications : Table NotificationRow.id
  item_constraints : ThirdPartyItemConstraints thirdPartyItems
  task_source : ∀ r ∈ tasks.rows, (thirdPartyItems.find? r.sourceItemId).isSome
  task_sink : ∀ r ∈ tasks.rows, ∀ i ∈ r.sinkItemId, (thirdPartyItems.find? i).isSome
  task_parent : ∀ r ∈ tasks.rows, ∀ i ∈ r.parentId, (tasks.find? i).isSome
  task_source_unique : ∀ r ∈ tasks.rows, ∀ r' ∈ tasks.rows,
    r.sourceItemId = r'.sourceItemId → r = r'
  task_sink_unique : ∀ r ∈ tasks.rows, ∀ r' ∈ tasks.rows, ∀ i ∈ r.sinkItemId,
    r'.sinkItemId = some i → r = r'
  notification_source : ∀ r ∈ notifications.rows, (thirdPartyItems.find? r.sourceItemId).isSome
  notification_task : ∀ r ∈ notifications.rows, ∀ i ∈ r.taskId, (tasks.find? i).isSome
  notification_updatedAt : ∀ r ∈ notifications.rows, pgTimestamp r.updatedAt = r.updatedAt

/-- A row whose nested item, if any, was joined once. -/
def ThirdPartyItemRow.intoThirdPartyItem (row : ThirdPartyItemRow)
    (sourceItem : Option ThirdPartyItem) : ThirdPartyItem :=
  { id := row.id
    sourceId := row.sourceId
    data := row.data
    createdAt := row.createdAt
    updatedAt := row.updatedAt
    userId := row.userId
    integrationConnectionId := row.integrationConnectionId
    sourceItem }

def TaskRow.intoTask (row : TaskRow) (sourceItem : ThirdPartyItem)
    (sinkItem : Option ThirdPartyItem) : Task :=
  { id := row.id
    title := row.title
    body := row.body
    status := row.status
    completedAt := row.completedAt
    priority := row.priority
    dueAt := row.dueAt
    tags := row.tags
    parentId := row.parentId
    project := row.project
    isRecurring := row.isRecurring
    createdAt := row.createdAt
    updatedAt := row.updatedAt
    kind := row.kind
    sourceItem
    sinkItem
    userId := row.userId }

def NotificationRow.intoNotificationWithTask (row : NotificationRow) (sourceItem : ThirdPartyItem)
    (task : Option Task) : NotificationWithTask :=
  { id := row.id
    title := row.title
    status := row.status
    createdAt := row.createdAt
    updatedAt := row.updatedAt
    lastReadAt := row.lastReadAt
    snoozedUntil := row.snoozedUntil
    userId := row.userId
    task
    kind := row.kind
    sourceItem }

namespace Database

def empty : Database where
  thirdPartyItems := Table.empty
  tasks := Table.empty
  notifications := Table.empty
  item_constraints :=
    ⟨fun _ h => (Table.not_mem_empty h).elim, fun _ h => (Table.not_mem_empty h).elim⟩
  task_source := fun _ h => (Table.not_mem_empty h).elim
  task_sink := fun _ h => (Table.not_mem_empty h).elim
  task_parent := fun _ h => (Table.not_mem_empty h).elim
  task_source_unique := fun _ h => (Table.not_mem_empty h).elim
  task_sink_unique := fun _ h => (Table.not_mem_empty h).elim
  notification_source := fun _ h => (Table.not_mem_empty h).elim
  notification_task := fun _ h => (Table.not_mem_empty h).elim
  notification_updatedAt := fun _ h => (Table.not_mem_empty h).elim

/-- An item joined without its own source item, as task queries read it. -/
def flatItem (db : Database) (id : ThirdPartyItemId) : Option ThirdPartyItem :=
  (db.thirdPartyItems.find? id).map (·.intoThirdPartyItem none)

/-- An item joined with its source item, one level deep. -/
def nestedItem (db : Database) (id : ThirdPartyItemId) : Option ThirdPartyItem :=
  (db.thirdPartyItems.find? id).map fun row =>
    row.intoThirdPartyItem (row.sourceItemId.bind db.flatItem)

/-- `task INNER JOIN source_item LEFT JOIN sink_item`. -/
def joinTask (db : Database) (row : TaskRow) : Option Task :=
  (db.flatItem row.sourceItemId).map fun sourceItem =>
    row.intoTask sourceItem (row.sinkItemId.bind db.flatItem)

def getTask (db : Database) (id : TaskId) : Option Task := (db.tasks.find? id).bind db.joinTask

/-- `notification INNER JOIN source_item LEFT JOIN task`, with the nested items. -/
def joinNotification (db : Database) (row : NotificationRow) : Option NotificationWithTask :=
  (db.nestedItem row.sourceItemId).map fun sourceItem =>
    row.intoNotificationWithTask sourceItem (row.taskId.bind db.getTask)

variable {db : Database}

theorem flatItem_isSome {id : ThirdPartyItemId} (h : (db.thirdPartyItems.find? id).isSome) :
    (db.flatItem id).isSome := by
  unfold flatItem
  rwa [Option.isSome_map]

theorem flatItem_id {id : ThirdPartyItemId} {item : ThirdPartyItem}
    (h : db.flatItem id = some item) : item.id = id := by
  obtain ⟨row, hrow, rfl⟩ := Option.map_eq_some_iff.mp h
  exact (Table.find?_eq_some.mp hrow).2

/-- The foreign key makes the inner join keep every notification. -/
theorem joinNotification_isSome {row : NotificationRow} (h : row ∈ db.notifications.rows) :
    (db.joinNotification row).isSome := by
  unfold joinNotification nestedItem
  rw [Option.isSome_map, Option.isSome_map]
  exact db.notification_source row h

theorem joinTask_isSome {row : TaskRow} (h : row ∈ db.tasks.rows) : (db.joinTask row).isSome := by
  unfold joinTask
  rw [Option.isSome_map]
  exact flatItem_isSome (db.task_source row h)

theorem joinNotification_id {row : NotificationRow} {n : NotificationWithTask}
    (h : db.joinNotification row = some n) : n.id = row.id ∧ n.updatedAt = row.updatedAt := by
  obtain ⟨item, _, rfl⟩ := Option.map_eq_some_iff.mp h
  exact ⟨rfl, rfl⟩

end Database

end UniversalInbox
