import UniversalInbox.Library.Transaction
import UniversalInbox.NotificationPatching

/-! `patch_task` with every column a patch can name. The row is written first, then the
notifications of the task, and the side effects at the providers of its two items come last. -/
namespace UniversalInbox.TaskPatching
open NotificationPatching PeerService
open BulkPatch (patchRow)
open NotificationUpsert (joinedNotification)

/-- A function of the services that takes an `executor`. -/
abbrev Tx (α : Type) : Type := Transaction Database UniversalInboxError α

/-- `*patch == Default::default()`. -/
def isDefault (patch : TaskPatch) : Bool :=
  patch == { status := none, projectName := none, dueAt := none, priority := none, body := none,
             title := none, sinkItemId := none }

/-- The `SET` list. -/
def updateTaskRow (now : DateTime) (patch : TaskPatch) (row : TaskRow) : TaskRow :=
  { row with
    status := patch.status.getD row.status
    completedAt := if patch.status = some .done then some (pgTimestamp now) else row.completedAt
    project := patch.projectName.getD row.project
    dueAt := patch.dueAt.getD row.dueAt
    priority := patch.priority.getD row.priority
    body := patch.body.getD row.body
    title := patch.title.getD row.title
    sinkItemId := patch.sinkItemId.or row.sinkItemId }

theorem updateTaskRow_id (now : DateTime) (patch : TaskPatch) (row : TaskRow) :
    (updateTaskRow now patch row).id = row.id := rfl

def ownsTask (taskId : TaskId) (userId : UserId) (row : TaskRow) : Bool :=
  row.id == taskId && row.userId == userId

/-- The foreign key and the unique index of the sink, checked when a row is written. -/
structure SinkAssignable (db : Database) (taskId : TaskId) (userId : UserId) (patch : TaskPatch) :
    Prop where
  known : ∀ row ∈ db.tasks.rows, ownsTask taskId userId row = true → ∀ sink ∈ patch.sinkItemId,
    (db.thirdPartyItems.find? sink).isSome
  unique : ∀ row ∈ db.tasks.rows, ownsTask taskId userId row = true → ∀ sink ∈ patch.sinkItemId,
    ∀ other ∈ db.tasks.rows, other.sinkItemId = some sink → other = row

instance (db : Database) (taskId : TaskId) (userId : UserId) (patch : TaskPatch) :
    Decidable (SinkAssignable db taskId userId patch) :=
  decidable_of_iff
    ((∀ row ∈ db.tasks.rows, ownsTask taskId userId row = true → ∀ sink ∈ patch.sinkItemId,
        (db.thirdPartyItems.find? sink).isSome) ∧
      ∀ row ∈ db.tasks.rows, ownsTask taskId userId row = true → ∀ sink ∈ patch.sinkItemId,
        ∀ other ∈ db.tasks.rows, other.sinkItemId = some sink → other = row)
    ⟨fun ⟨known, unique⟩ => ⟨known, unique⟩, fun ⟨known, unique⟩ => ⟨known, unique⟩⟩

theorem eq_of_ownsTask {db : Database} {taskId : TaskId} {userId : UserId} {row row' : TaskRow}
    (hrow : row ∈ db.tasks.rows) (hrow' : row' ∈ db.tasks.rows)
    (h : ownsTask taskId userId row = true) (h' : ownsTask taskId userId row' = true) :
    row = row' := by
  simp only [ownsTask, Bool.and_eq_true, beq_iff_eq] at h h'
  exact Table.eq_of_key hrow hrow' (h.1.trans h'.1.symm)

/-- `UPDATE task … WHERE task.id AND task.user_id`. -/
def writeTask (db : Database) (now : DateTime) (taskId : TaskId) (patch : TaskPatch)
    (userId : UserId) (h : SinkAssignable db taskId userId patch) : Database :=
  { db with
    tasks := db.tasks.update (ownsTask taskId userId) (updateTaskRow now patch)
      (updateTaskRow_id now patch)
    task_source := by
      intro r hr
      obtain ⟨row, hrow, rfl⟩ := Table.mem_update.mp hr
      split <;> exact db.task_source row hrow
    task_sink := by
      intro r hr i hi
      obtain ⟨row, hrow, rfl⟩ := Table.mem_update.mp hr
      split at hi
      · next howns =>
        rcases Option.or_eq_some_iff.mp hi with hsink | ⟨-, hsink⟩
        · exact h.known row hrow howns i hsink
        · exact db.task_sink row hrow i hsink
      · exact db.task_sink row hrow i hi
    task_parent := by
      intro r hr i hi
      rw [Table.find?_isSome_update]
      obtain ⟨row, hrow, rfl⟩ := Table.mem_update.mp hr
      split at hi <;> exact db.task_parent row hrow i hi
    task_source_unique := by
      intro r hr r' hr' hsame
      obtain ⟨row, hrow, rfl⟩ := Table.mem_update.mp hr
      obtain ⟨row', hrow', rfl⟩ := Table.mem_update.mp hr'
      have : row = row' := db.task_source_unique row hrow row' hrow' (by
        split at hsame <;> split at hsame <;> exact hsame)
      rw [this]
    task_sink_unique := by
      intro r hr r' hr' i hi hsame
      obtain ⟨row, hrow, rfl⟩ := Table.mem_update.mp hr
      obtain ⟨row', hrow', rfl⟩ := Table.mem_update.mp hr'
      have hrows : row = row' := by
        split at hi <;> split at hsame
        · next howns howns' => exact eq_of_ownsTask hrow hrow' howns howns'
        · next howns _ =>
          rcases Option.or_eq_some_iff.mp hi with hsink | ⟨-, hsink⟩
          · exact (h.unique row hrow howns i hsink row' hrow' hsame).symm
          · exact db.task_sink_unique row hrow row' hrow' i hsink hsame
        · next _ howns =>
          rcases Option.or_eq_some_iff.mp hsame with hsink | ⟨-, hsink⟩
          · exact h.unique row' hrow' howns i hsink row hrow hi
          · exact db.task_sink_unique row hrow row' hrow' i hi hsink
        · exact db.task_sink_unique row hrow row' hrow' i hi hsame
      rw [hrows]
    notification_task := by
      intro r hr i hi
      rw [Table.find?_isSome_update]
      exact db.notification_task r hr i hi }

/-- What a due date is displayed as: whole seconds. -/
def displayed : DueDate → DueDate
  | .date date => .date date
  | .dateTime datetime => .dateTime (datetime - datetime % 1000000000)
  | .dateTimeWithTz datetime => .dateTimeWithTz (datetime - datetime % 1000000000)

/-- The JSON of the column always is a value; its content is null where there is no due date. -/
def dueAtDiffers (stored : Option DueDate) : Option DueDate → Option Bool
  | some due => stored.map (· != displayed due)
  | none => some true

/-- `OR`, with null as `none`. -/
def orNull : Option Bool → Option Bool → Option Bool
  | some true, _ => some true
  | _, some true => some true
  | some false, some false => some false
  | _, _ => none

theorem orNull_some (a b : Bool) : orNull (some a) (some b) = some (a || b) := by
  cases a <;> cases b <;> rfl

/-- `is_updated`, read from the row before the update. -/
def isUpdated (patch : TaskPatch) (row : TaskRow) : Option Bool :=
  [patch.status.map fun status => some (row.status != status),
    patch.projectName.map fun project => some (row.project != project),
    patch.sinkItemId.map fun sink => some (row.sinkItemId != some sink),
    patch.dueAt.map (dueAtDiffers row.dueAt),
    patch.priority.map fun priority => some (row.priority != priority),
    patch.body.map fun body => some (row.body != body),
    patch.title.map fun title => some (row.title != title)].reduceOption.foldl orNull (some false)

/-- `RETURNING`: the columns as they are written, the items as they were joined before. -/
def returning (db : Database) (now : DateTime) (patch : TaskPatch) (row : TaskRow) : Option Task :=
  (db.flatItem row.sourceItemId).map fun sourceItem =>
    (updateTaskRow now patch row).intoTask sourceItem (row.sinkItemId.bind db.flatItem)

/-- A null `is_updated` cannot be decoded, once the row is written. -/
def updateTask (now : DateTime) (taskId : TaskId) (patch : TaskPatch) (userId : UserId) :
    Tx (UpdateStatus Task) := fun db =>
  if isDefault patch then
    some (db, .error (.invalidInputData
      s!"Missing `status` field value to update task {taskId.uuid}"))
  else if h : SinkAssignable db taskId userId patch then
    some (writeTask db now taskId patch userId h,
      match (db.tasks.find? taskId).filter (·.userId == userId) with
      | some row =>
        match isUpdated patch row with
        | some updated => .ok ⟨updated, returning db now patch row⟩
        | none => .error (.databaseError s!"Failed to update task {taskId.uuid} from storage")
      | none => .ok ⟨false, none⟩)
  else none

def ofTask (taskId : TaskId) (notificationKind : Option NotificationSourceKind)
    (row : NotificationRow) : Bool :=
  row.taskId == some taskId && notificationKind.all (· == row.kind)

/-- The notifications of the task, whoever owns them; the task of the patch is not written. -/
def updateNotificationsForTask (taskId : TaskId) (notificationKind : Option NotificationSourceKind)
    (patch : NotificationPatch) : Tx (List (UpdateStatus Notification)) := fun db =>
  if patch.isDefault then
    some (db, .error (.invalidInputData
      s!"Missing `status` field value to update notifications for task {taskId.uuid}"))
  else
    let db' := updateNotifications db (ofTask taskId notificationKind) (patchRow patch)
      (assignable_patchRow db patch)
    some (db', .ok ((db.notifications.rows.filter (ofTask taskId notificationKind)).map fun row =>
      ⟨NotificationPatching.isUpdated { patch with taskId := none } row,
        joinedNotification db' (patchRow patch row)⟩))

section Service
variable (env : Environment)

/-- Changing the status of a task of a task manager deletes its notifications. -/
def deleteNotifications (taskId : TaskId) (patch : TaskPatch) (task : Option Task) : Tx Unit :=
  if task.any (fun task => task.kind == .todoist || task.kind == .tickTick) &&
      patch.status.isSome then do
    let _ ← updateNotificationsForTask taskId none deletedPatch
    return ()
  else return ()

def patchTask (taskId : TaskId) (patch : TaskPatch) (answers : SideEffectAnswers)
    (userId : UserId) : Tx (UpdateStatus Task) := do
  let updatedTask ← updateTask env.now taskId patch userId
  deleteNotifications taskId patch updatedTask.result
  match updatedTask with
  | ⟨true, some task⟩ =>
    Transaction.answer (applyTaskSideEffects env patch task answers)
    return updatedTask
  | ⟨false, none⟩ =>
    let db ← Transaction.get
    if (db.tasks.find? taskId).isSome then
      Transaction.fail (.forbidden s!"Only the owner of the task {taskId.uuid} can patch it")
    else return updatedTask
  | _ => return updatedTask

end Service

end UniversalInbox.TaskPatching
