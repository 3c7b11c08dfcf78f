import UniversalInbox.Database

/-! Creating or updating a task from a synchronized item. An integration asserts only the
fields it owns; what it declines keeps the stored value. -/
namespace UniversalInbox.TaskUpsert

inductive UpsertStatus (α : Type) where
  | created (new : α)
  | updated (new old : α)
  | untouched (value : α)

/-- The task the caller gets back. -/
def UpsertStatus.value {α : Type} : UpsertStatus α → α
  | .created new => new
  | .updated new _ => new
  | .untouched value => value

/-- The order in which Postgres reads the task table; `fetch_optional` keeps the first row. -/
structure TaskScan (db : Database) where
  rows : List TaskRow
  perm : rows.Perm db.tasks.rows

/-- `item.id = … AND item.kind::TEXT = …` on a joined item. -/
def itemMatches (db : Database) (id : ThirdPartyItemId) (item : ThirdPartyItem) : Bool :=
  id == item.id && (db.thirdPartyItems.find? id).any fun row => row.data.kind == item.kind

/-- The task may be known by its source item or by its sink item. -/
def taskMatches (db : Database) (request : CreateOrUpdateTaskRequest) (row : TaskRow) : Bool :=
  (itemMatches db row.sourceItemId request.sourceItem ||
      row.sinkItemId.any fun id => itemMatches db id request.sourceItem) &&
    row.userId == request.userId

def findExistingTask (db : Database) (scan : TaskScan db) (request : CreateOrUpdateTaskRequest) :
    Option Task :=
  (scan.rows.find? (taskMatches db request)).bind db.joinTask

/-- What the request asks for once the declined fields are read from the stored task. -/
def requestedTask (request : CreateOrUpdateTaskRequest) (existing : Task) : Task :=
  { request.intoTask with
    title := request.title.valueOr existing.title
    dueAt := request.dueAt.valueOr existing.dueAt
    project := request.project.valueOr existing.project }

/-- The task of an `UPDATE`, as it is returned. -/
def updatedTask (request : CreateOrUpdateTaskRequest) (existing : Task) : Task :=
  { requestedTask request existing with
    id := existing.id
    kind := existing.kind
    createdAt := existing.createdAt
    sourceItem := existing.sourceItem
    sinkItem := existing.sinkItem }

/-- The `UPDATE`: declined columns are not in its `SET` list. -/
def updateRow (request : CreateOrUpdateTaskRequest) (row : TaskRow) : TaskRow :=
  { row with
    title := if request.title.hasValue then request.title.intoValue else row.title
    body := request.body
    status := request.status
    completedAt := request.completedAt.map pgTimestamp
    priority := request.priority
    dueAt := if request.dueAt.hasValue then request.dueAt.intoValue else row.dueAt
    tags := request.tags
    parentId := request.parentId
    project := if request.project.hasValue then request.project.intoValue else row.project
    isRecurring := request.isRecurring
    updatedAt := pgTimestamp request.updatedAt }

theorem updateRow_id (request : CreateOrUpdateTaskRequest) (row : TaskRow) :
    (updateRow request row).id = row.id := rfl

def insertRow (request : CreateOrUpdateTaskRequest) : TaskRow :=
  { id := request.id
    title := request.title.intoValue
    body := request.body
    status := request.status
    completedAt := request.completedAt.map pgTimestamp
    priority := request.priority
    dueAt := request.dueAt.intoValue
    tags := request.tags
    parentId := request.parentId
    project := request.project.intoValue
    isRecurring := request.isRecurring
    createdAt := pgTimestamp request.createdAt
    updatedAt := pgTimestamp request.updatedAt
    kind := request.kind
    sourceItemId := request.sourceItem.id
    sinkItemId := request.sinkItem.map (·.id)
    userId := request.userId }

/-- `parent_id REFERENCES task(id)`. -/
def ParentKnown (db : Database) (request : CreateOrUpdateTaskRequest) : Prop :=
  ∀ i ∈ request.parentId, (db.tasks.find? i).isSome

instance (db : Database) (request : CreateOrUpdateTaskRequest) : Decidable (ParentKnown db request) :=
  inferInstanceAs (Decidable (∀ i ∈ request.parentId, (db.tasks.find? i).isSome))

/-- The statement's effect on the tables; its constraints hold because neither item nor owner
is written. -/
def applyUpdate (db : Database) (id : TaskId) (request : CreateOrUpdateTaskRequest)
    (hparent : ParentKnown db request) : Database :=
  { db with
    tasks := db.tasks.update (·.id == id) (updateRow request) (updateRow_id request)
    task_source := by
      intro r hr
      obtain ⟨row, hrow, rfl⟩ := Table.mem_update.mp hr
      split <;> exact db.task_source row hrow
    task_sink := by
      intro r hr
      obtain ⟨row, hrow, rfl⟩ := Table.mem_update.mp hr
      split <;> exact db.task_sink row hrow
    task_parent := by
      intro r hr i hi
      rw [Table.find?_isSome_update]
      obtain ⟨row, hrow, rfl⟩ := Table.mem_update.mp hr
      split at hi
      · exact hparent i hi
      · exact db.task_parent row hrow i hi
    task_source_unique := by
      intro r hr r' hr' h
      obtain ⟨row, hrow, rfl⟩ := Table.mem_update.mp hr
      obtain ⟨row', hrow', rfl⟩ := Table.mem_update.mp hr'
      have : row = row' := db.task_source_unique row hrow row' hrow' (by
        split at h <;> split at h <;> exact h)
      rw [this]
    task_sink_unique := by
      intro r hr r' hr' i hi h
      obtain ⟨row, hrow, rfl⟩ := Table.mem_update.mp hr
      obtain ⟨row', hrow', rfl⟩ := Table.mem_update.mp hr'
      have : row = row' := db.task_sink_unique row hrow row' hrow' i
        (by split at hi <;> exact hi) (by split at h <;> exact h)
      rw [this]
    notification_task := by
      intro r hr i hi
      rw [Table.find?_isSome_update]
      exact db.notification_task r hr i hi }

/-- The constraints an inserted task meets besides its fresh primary key. -/
structure Insertable (db : Database) (row : TaskRow) : Prop where
  source : (db.thirdPartyItems.find? row.sourceItemId).isSome
  sink : ∀ i ∈ row.sinkItemId, (db.thirdPartyItems.find? i).isSome
  parent : ∀ i ∈ row.parentId, i = row.id ∨ (db.tasks.find? i).isSome
  sourceUnique : ∀ r ∈ db.tasks.rows, r.sourceItemId ≠ row.sourceItemId
  sinkUnique : ∀ r ∈ db.tasks.rows, ∀ i ∈ row.sinkItemId, r.sinkItemId ≠ some i

instance (db : Database) (row : TaskRow) : Decidable (Insertable db row) :=
  decidable_of_iff
    ((db.thirdPartyItems.find? row.sourceItemId).isSome ∧
      (∀ i ∈ row.sinkItemId, (db.thirdPartyItems.find? i).isSome) ∧
      (∀ i ∈ row.parentId, i = row.id ∨ (db.tasks.find? i).isSome) ∧
      (∀ r ∈ db.tasks.rows, r.sourceItemId ≠ row.sourceItemId) ∧
      ∀ r ∈ db.tasks.rows, ∀ i ∈ row.sinkItemId, r.sinkItemId ≠ some i)
    ⟨fun ⟨a, b, c, d, e⟩ => ⟨a, b, c, d, e⟩, fun ⟨a, b, c, d, e⟩ => ⟨a, b, c, d, e⟩⟩

def applyInsert (db : Database) (row : TaskRow) (tasks : Table TaskRow.id)
    (h : db.tasks.insert? row = some tasks) (hrow : Insertable db row) : Database :=
  have hmem : ∀ r, r ∈ tasks.rows ↔ r ∈ db.tasks.rows ∨ r = row := by
    intro r
    rw [(Table.insert?_eq_some.mp h).2, List.mem_append, List.mem_singleton]
  { db with
    tasks
    task_source := by
      intro r hr
      rcases (hmem r).mp hr with hr | rfl
      · exact db.task_source r hr
      · exact hrow.source
    task_sink := by
      intro r hr
      rcases (hmem r).mp hr with hr | rfl
      · exact db.task_sink r hr
      · exact hrow.sink
    task_parent := by
      intro r hr i hi
      rcases (hmem r).mp hr with hr | rfl
      · exact Table.find?_isSome_insert h (db.task_parent r hr i hi)
      · rcases hrow.parent i hi with rfl | hknown
        · rw [Table.find?_insert h, if_pos rfl]; rfl
        · exact Table.find?_isSome_insert h hknown
    task_source_unique := by
      intro r hr r' hr' hsame
      rcases (hmem r).mp hr with hr | rfl <;> rcases (hmem r').mp hr' with hr' | rfl
      · exact db.task_source_unique r hr r' hr' hsame
      · exact absurd hsame (hrow.sourceUnique r hr)
      · exact absurd hsame.symm (hrow.sourceUnique r' hr')
      · rfl
    task_sink_unique := by
      intro r hr r' hr' i hi hsame
      rcases (hmem r).mp hr with hr | rfl <;> rcases (hmem r').mp hr' with hr' | rfl
      · exact db.task_sink_unique r hr r' hr' i hi hsame
      · exact absurd hi (hrow.sinkUnique r hr i hsame)
      · exact absurd hsame (hrow.sinkUnique r' hr' i hi)
      · rfl
    notification_task := by
      intro r hr i hi
      exact Table.find?_isSome_insert h (db.notification_task r hr i hi) }

def createOrUpdateTask (db : Database) (scan : TaskScan db) (request : CreateOrUpdateTaskRequest) :
    Except UniversalInboxError (Database × UpsertStatus Task) :=
  match findExistingTask db scan request with
  | some existing =>
    if existing == requestedTask request existing then .ok (db, .untouched existing)
    else if hparent : ParentKnown db request then
      .ok (applyUpdate db existing.id request hparent,
        .updated (updatedTask request existing) existing)
    else .error (.databaseError 
        s!"Failed to update task {existing.id.uuid} from storage")
  | none =>
    match h : db.tasks.insert? (insertRow request) with
    | none => .error (.databaseError
        s!"Failed to update task with source ID {request.sourceItem.sourceId} from storage")
    | some tasks =>
      if hrow : Insertable db (insertRow request) then
        .ok (applyInsert db (insertRow request) tasks h hrow, .created request.intoTask)
      else .error (.databaseError
        s!"Failed to update task with source ID {request.sourceItem.sourceId} from storage")

/-- What the columns keep of a task: its two instants at their resolution. -/
def stored (task : Task) : Task :=
  { task with
    completedAt := task.completedAt.map pgTimestamp
    updatedAt := pgTimestamp task.updatedAt }

/-- A declinable field after the upsert: the stored value when the request declines it, the
request's value when it provides one. -/
def Resolved {α : Type} (field : DefaultValue α) (before after : α) : Prop :=
  (field.value = none → after = before) ∧ ∀ v, field.value = some v → after = v

section Upsert
variable {db db' : Database} {scan : TaskScan db} {request : CreateOrUpdateTaskRequest}
  {existing : Task} {status : UpsertStatus Task}

theorem resolved_valueOr {α : Type} (field : DefaultValue α) (before : α) :
    Resolved field before (field.valueOr before) := by
  constructor
  · intro h; simp [DefaultValue.valueOr, h]
  · intro v h; simp [DefaultValue.valueOr, h]

theorem resolved_of_eq {α : Type} {field : DefaultValue α} {before after : α}
    (h : after = field.valueOr before) : Resolved field before after := by
  subst h
  exact resolved_valueOr field before

/-- The two ways the source resolves a field, in the statement and in the returned task, agree. -/
theorem written_eq_valueOr {α : Type} (field : DefaultValue α) (before : α) :
    (if field.hasValue then field.intoValue else before) = field.valueOr before := by
  unfold DefaultValue.hasValue DefaultValue.intoValue DefaultValue.valueOr
  cases field.value <;> rfl

theorem joinTask_eq_some {row : TaskRow} {task : Task} (h : db.joinTask row = some task) :
    ∃ item, db.flatItem row.sourceItemId = some item ∧
      task = row.intoTask item (row.sinkItemId.bind db.flatItem) := by
  obtain ⟨item, hitem, rfl⟩ := Option.map_eq_some_iff.mp h
  exact ⟨item, hitem, rfl⟩

/-- An existing task is a stored row joined with its items. -/
theorem findExistingTask_row (h : findExistingTask db scan request = some existing) :
    ∃ row ∈ db.tasks.rows, taskMatches db request row = true ∧ db.joinTask row = some existing := by
  obtain ⟨row, hrow, hjoin⟩ := Option.bind_eq_some_iff.mp h
  exact ⟨row, scan.perm.mem_iff.mp (List.mem_of_find?_eq_some hrow), List.find?_some hrow, hjoin⟩

theorem findExistingTask_userId (h : findExistingTask db scan request = some existing) :
    existing.userId = request.userId := by
  obtain ⟨row, -, hmatch, hjoin⟩ := findExistingTask_row h
  obtain ⟨item, -, rfl⟩ := joinTask_eq_some hjoin
  simp only [taskMatches, Bool.and_eq_true, beq_iff_eq] at hmatch
  exact hmatch.2

theorem getTask_of_row {row : TaskRow} {task : Task} (hrow : row ∈ db.tasks.rows)
    (h : db.joinTask row = some task) : db.getTask task.id = some task := by
  obtain ⟨item, hitem, rfl⟩ := joinTask_eq_some h
  have hfind : db.tasks.find? (row.intoTask item (row.sinkItemId.bind db.flatItem)).id = some row :=
    Table.find?_eq_some.mpr ⟨hrow, rfl⟩
  unfold Database.getTask
  rw [hfind]
  exact h

/-- What an upsert of a stored task can do: nothing, when the request asks for what is there,
or one `UPDATE` of that task. -/
theorem createOrUpdateTask_cases (hfound : findExistingTask db scan request = some existing)
    (h : createOrUpdateTask db scan request = .ok (db', status)) :
    (db' = db ∧ status = .untouched existing ∧ existing.eq (requestedTask request existing) = true) ∨
    ∃ hparent : ParentKnown db request,
      db' = applyUpdate db existing.id request hparent ∧
      status = .updated (updatedTask request existing) existing := by
  unfold createOrUpdateTask at h
  simp only [hfound] at h
  split at h
  · next hsame =>
    cases h
    exact .inl ⟨rfl, rfl, hsame⟩
  · split at h
    · next hparent =>
      cases h
      exact .inr ⟨hparent, rfl, rfl⟩
    · cases h

/-- What an upsert of a task that is not stored can do: one `INSERT`. -/
theorem createOrUpdateTask_new (hnew : findExistingTask db scan request = none)
    (h : createOrUpdateTask db scan request = .ok (db', status)) :
    ∃ tasks, ∃ hinsert : db.tasks.insert? (insertRow request) = some tasks,
      ∃ hrow : Insertable db (insertRow request),
        db' = applyInsert db (insertRow request) tasks hinsert hrow ∧
          status = .created request.intoTask := by
  unfold createOrUpdateTask at h
  simp only [hnew] at h
  split at h
  · cases h
  · next tasks hinsert =>
    split at h
    · next hrow =>
      cases h
      exact ⟨tasks, hinsert, hrow, rfl, rfl⟩
    · cases h

/-- The only refusal is an unknown parent. -/
theorem createOrUpdateTask_ok (hfound : findExistingTask db scan request = some existing)
    (hparent : ParentKnown db request) :
    ∃ db' status, createOrUpdateTask db scan request = .ok (db', status) := by
  unfold createOrUpdateTask
  simp only [hfound, hparent, dif_pos]
  split
  · exact ⟨_, _, rfl⟩
  · exact ⟨_, _, rfl⟩

/-- Reading the updated row back, field by field what the caller was given. -/
theorem getTask_applyUpdate {row : TaskRow} (hrow : row ∈ db.tasks.rows)
    (hjoin : db.joinTask row = some existing) (huser : existing.userId = request.userId)
    (hparent : ParentKnown db request) :
    (applyUpdate db existing.id request hparent).getTask existing.id =
      some (stored (updatedTask request existing)) := by
  obtain ⟨item, hitem, rfl⟩ := joinTask_eq_some hjoin
  have hfind : (applyUpdate db row.id request hparent).tasks.find? row.id =
      some (updateRow request row) := by
    unfold applyUpdate
    rw [Table.find?_update, Table.find?_eq_some.mpr ⟨hrow, rfl⟩]
    simp
  have hflat : (applyUpdate db row.id request hparent).flatItem = db.flatItem := rfl
  unfold Database.getTask Database.joinTask
  simp only [TaskRow.intoTask, hfind, Option.bind_some, hflat]
  simp only [updateRow, hitem, Option.map_some, written_eq_valueOr]
  simp only [TaskRow.intoTask, stored, updatedTask, requestedTask,
    CreateOrUpdateTaskRequest.intoTask] at huser ⊢
  rw [huser]

theorem eq_iff (t u : Task) :
    t.eq u = true ↔ t.title = u.title ∧ t.body = u.body ∧ t.status = u.status ∧
      t.priority = u.priority ∧ t.dueAt = u.dueAt ∧ t.tags = u.tags ∧ t.parentId = u.parentId ∧
      t.project = u.project ∧ t.isRecurring = u.isRecurring ∧ t.kind = u.kind ∧
      t.sourceItem.id = u.sourceItem.id ∧ t.sinkItem.map (·.id) = u.sinkItem.map (·.id) ∧
      t.userId = u.userId := by
  simp only [Task.eq, Bool.and_eq_true, beq_iff_eq, and_assoc]

theorem eq_refl (t : Task) : t.eq t = true := by simp [Task.eq]

theorem eq_stored (t : Task) : t.eq (stored t) = true := by simp [Task.eq, stored]

/-- The fields every integration asserts, compared by the upsert. -/
def AssertedFields (request : CreateOrUpdateTaskRequest) (task : Task) : Prop :=
  task.body = request.body ∧ task.status = request.status ∧ task.priority = request.priority ∧
    task.tags = request.tags ∧ task.parentId = request.parentId ∧
    task.isRecurring = request.isRecurring

/-- Nothing had to be written: the stored task already is what the request resolves to. -/
theorem resolved_of_untouched (h : existing.eq (requestedTask request existing) = true) :
    AssertedFields request existing ∧ Resolved request.title existing.title existing.title ∧
      Resolved request.dueAt existing.dueAt existing.dueAt ∧
      Resolved request.project existing.project existing.project := by
  obtain ⟨htitle, hbody, hstatus, hpriority, hdue, htags, hparent, hproject, hrecurring, -⟩ :=
    (eq_iff _ _).mp h
  exact ⟨⟨hbody, hstatus, hpriority, htags, hparent, hrecurring⟩, resolved_of_eq htitle,
    resolved_of_eq hdue, resolved_of_eq hproject⟩

/-- A created task too is what a re-read finds; its items are compared by identifier. -/
theorem createOrUpdateTask_created (hnew : findExistingTask db scan request = none)
    (hok : createOrUpdateTask db scan request = .ok (db', status)) :
    status = .created request.intoTask ∧
      ∃ reread, db'.getTask request.id = some reread ∧ request.intoTask.eq reread = true := by
  obtain ⟨tasks, hinsert, hrow, rfl, rfl⟩ := createOrUpdateTask_new hnew hok
  refine ⟨rfl, ?_⟩
  obtain ⟨item, hitem⟩ := Option.isSome_iff_exists.mp (Database.flatItem_isSome hrow.source)
  have hfind : tasks.find? request.id = some (insertRow request) := by
    rw [Table.find?_insert hinsert]; exact if_pos rfl
  refine ⟨(insertRow request).intoTask item ((insertRow request).sinkItemId.bind db.flatItem),
    ?_, ?_⟩
  · unfold Database.getTask Database.joinTask
    show ((tasks.find? request.id).bind fun row => (db.flatItem row.sourceItemId).map _) = _
    rw [hfind, Option.bind_some, hitem]
    rfl
  · rw [eq_iff]
    refine ⟨rfl, rfl, rfl, rfl, rfl, rfl, rfl, rfl, rfl, rfl, ?_, ?_, rfl⟩
    · obtain ⟨itemRow, hitemRow, rfl⟩ := Option.map_eq_some_iff.mp hitem
      exact (Table.find?_eq_some.mp hitemRow).2.symm
    · cases hsink : request.sinkItem with
      | none => simp [CreateOrUpdateTaskRequest.intoTask, insertRow, TaskRow.intoTask, hsink]
      | some sink =>
        have hknown := hrow.sink sink.id (by simp [insertRow, hsink])
        obtain ⟨sinkRow, hsinkRow⟩ := Option.isSome_iff_exists.mp hknown
        have hid := (Table.find?_eq_some.mp hsinkRow).2
        simp [CreateOrUpdateTaskRequest.intoTask, insertRow, TaskRow.intoTask, hsink,
          Database.flatItem, hsinkRow, ThirdPartyItemRow.intoThirdPartyItem, hid]

/-- Whether the task is known by its source item or by its sink item: what the caller is given
is what the row now holds, up to the resolution of the two timestamp columns; a declined field
keeps its stored value and a provided one takes the request's. -/
theorem createOrUpdateTask_returns_stored
    (hfound : findExistingTask db scan request = some existing)
    (hok : createOrUpdateTask db scan request = .ok (db', status)) :
    ∃ reread, db'.getTask status.value.id = some reread ∧
      status.value.eq reread = true ∧
      (reread = status.value ∨ reread = stored status.value) ∧
      reread.id = existing.id ∧
      AssertedFields request reread ∧
      Resolved request.title existing.title reread.title ∧
      Resolved request.dueAt existing.dueAt reread.dueAt ∧
      Resolved request.project existing.project reread.project := by
  obtain ⟨row, hrow, -, hjoin⟩ := findExistingTask_row hfound
  rcases createOrUpdateTask_cases hfound hok with ⟨rfl, rfl, hsame⟩ | ⟨hparent, rfl, rfl⟩
  · obtain ⟨hasserted, htitle, hdue, hproject⟩ := resolved_of_untouched hsame
    exact ⟨existing, getTask_of_row hrow hjoin, eq_refl _, .inl rfl, rfl, hasserted, htitle, hdue,
      hproject⟩
  · refine ⟨_, getTask_applyUpdate hrow hjoin (findExistingTask_userId hfound) hparent,
      eq_stored _, .inr rfl, rfl, ⟨rfl, rfl, rfl, rfl, rfl, rfl⟩, ?_, ?_, ?_⟩
    · exact resolved_valueOr request.title existing.title
    · exact resolved_valueOr request.dueAt existing.dueAt
    · exact resolved_valueOr request.project existing.project

/-- The task of a source or sink item. -/
def Linked (id : ThirdPartyItemId) (row : TaskRow) : Prop :=
  row.sourceItemId = id ∨ row.sinkItemId = some id

/-- A row that holds what the request asserts or provides. -/
structure Holds (request : CreateOrUpdateTaskRequest) (row : TaskRow) : Prop where
  body : row.body = request.body
  status : row.status = request.status
  priority : row.priority = request.priority
  tags : row.tags = request.tags
  parentId : row.parentId = request.parentId
  isRecurring : row.isRecurring = request.isRecurring
  title : ∀ v, request.title.value = some v → row.title = v
  dueAt : ∀ v, request.dueAt.value = some v → row.dueAt = v
  project : ∀ v, request.project.value = some v → row.project = v
  userId : row.userId = request.userId

/-- What an upsert does to the task rows: one row of the source item holds the request, every
row that is not of that item is as it was, and no row changes its items. -/
structure UpsertedTask (db db' : Database) (request : CreateOrUpdateTaskRequest) : Prop where
  items : db'.thirdPartyItems = db.thirdPartyItems
  stored : ∃ row ∈ db'.tasks.rows, Linked request.sourceItem.id row ∧ Holds request row
  others : ∀ row, ¬ Linked request.sourceItem.id row →
    (row ∈ db.tasks.rows ↔ row ∈ db'.tasks.rows)
  rows : ∀ row ∈ db'.tasks.rows,
    (∃ old ∈ db.tasks.rows, row.id = old.id ∧ row.sourceItemId = old.sourceItemId ∧
      row.sinkItemId = old.sinkItemId) ∨
      (row = insertRow request ∧ ∀ old ∈ db.tasks.rows, taskMatches db request old = false)

theorem linked_of_taskMatches {row : TaskRow} (h : taskMatches db request row = true) :
    Linked request.sourceItem.id row := by
  simp only [taskMatches, itemMatches, Bool.and_eq_true, Bool.or_eq_true, Option.any_eq_true,
    beq_iff_eq] at h
  rcases h.1 with hsource | ⟨i, hsink, hid⟩
  · exact .inl hsource.1
  · exact .inr (hid.1 ▸ hsink)

theorem holds_updateRow (request : CreateOrUpdateTaskRequest) {row : TaskRow}
    (huser : row.userId = request.userId) : Holds request (updateRow request row) where
  body := rfl
  status := rfl
  priority := rfl
  tags := rfl
  parentId := rfl
  isRecurring := rfl
  title v hv := (written_eq_valueOr request.title row.title).trans
    ((resolved_valueOr request.title row.title).2 v hv)
  dueAt v hv := (written_eq_valueOr request.dueAt row.dueAt).trans
    ((resolved_valueOr request.dueAt row.dueAt).2 v hv)
  project v hv := (written_eq_valueOr request.project row.project).trans
    ((resolved_valueOr request.project row.project).2 v hv)
  userId := huser

theorem holds_insertRow (request : CreateOrUpdateTaskRequest) : Holds request (insertRow request) where
  body := rfl
  status := rfl
  priority := rfl
  tags := rfl
  parentId := rfl
  isRecurring := rfl
  title v hv := by simp [insertRow, DefaultValue.intoValue, hv]
  dueAt v hv := by simp [insertRow, DefaultValue.intoValue, hv]
  project v hv := by simp [insertRow, DefaultValue.intoValue, hv]
  userId := rfl

theorem findExistingTask_eq_none (h : findExistingTask db scan request = none) :
    ∀ row ∈ db.tasks.rows, taskMatches db request row = false := by
  intro row hrow
  unfold findExistingTask at h
  cases hfind : scan.rows.find? (taskMatches db request) with
  | none => simpa using List.find?_eq_none.mp hfind row (scan.perm.mem_iff.mpr hrow)
  | some found =>
    have hjoin := Database.joinTask_isSome
      (scan.perm.mem_iff.mp (List.mem_of_find?_eq_some hfind))
    rw [hfind, Option.bind_some] at h
    rw [h] at hjoin
    cases hjoin

/-- The update of the row that matched. -/
theorem upserted_update {row : TaskRow} (hrow : row ∈ db.tasks.rows)
    (hlinked : Linked request.sourceItem.id row) (huser : row.userId = request.userId)
    (hparent : ParentKnown db request) :
    UpsertedTask db (applyUpdate db row.id request hparent) request := by
  have hmem : ∀ r, r ∈ (applyUpdate db row.id request hparent).tasks.rows ↔
      ∃ old ∈ db.tasks.rows, (if old.id == row.id then updateRow request old else old) = r :=
    fun r => Table.mem_update (e := updateRow_id request)
  refine ⟨rfl, ⟨updateRow request row, ?_, hlinked, holds_updateRow request huser⟩, ?_, ?_⟩
  · exact (hmem _).mpr ⟨row, hrow, if_pos (beq_self_eq_true _)⟩
  · intro r hne
    constructor
    · intro hr
      refine (hmem _).mpr ⟨r, hr, if_neg fun hid => hne ?_⟩
      rw [Table.eq_of_key hr hrow (beq_iff_eq.mp hid)]
      exact hlinked
    · intro hr
      obtain ⟨old, hold, rfl⟩ := (hmem r).mp hr
      split at hne
      · next hid =>
        rw [Table.eq_of_key hold hrow (beq_iff_eq.mp hid)] at hne
        exact absurd hlinked hne
      · next hid => rwa [if_neg hid]
  · intro r hr
    obtain ⟨old, hold, rfl⟩ := (hmem r).mp hr
    refine .inl ⟨old, hold, ?_⟩
    split <;> exact ⟨rfl, rfl, rfl⟩

/-- The insertion of a row when none matched. -/
theorem upserted_insert (hitems : db'.thirdPartyItems = db.thirdPartyItems)
    (hrows : db'.tasks.rows = db.tasks.rows ++ [insertRow request])
    (hnone : ∀ row ∈ db.tasks.rows, taskMatches db request row = false) :
    UpsertedTask db db' request := by
  refine ⟨hitems, ⟨insertRow request, ?_, .inl rfl, holds_insertRow request⟩, ?_, ?_⟩
  · rw [hrows]
    exact List.mem_append_right _ (List.mem_singleton_self _)
  · intro r hne
    rw [hrows, List.mem_append, List.mem_singleton]
    refine ⟨.inl, ?_⟩
    rintro (hold | rfl)
    · exact hold
    · exact absurd (.inl rfl) hne
  · intro r hr
    rw [hrows] at hr
    rcases List.mem_append.mp hr with hold | hnew
    · exact .inl ⟨r, hold, rfl, rfl, rfl⟩
    · exact .inr ⟨List.mem_singleton.mp hnew, hnone⟩

theorem createOrUpdateTask_upserted (h : createOrUpdateTask db scan request = .ok (db', status)) :
    UpsertedTask db db' request := by
  cases hfound : findExistingTask db scan request with
  | some existing =>
    obtain ⟨row, hrow, hmatch, hjoin⟩ := findExistingTask_row hfound
    have hlinked := linked_of_taskMatches hmatch
    have huser := findExistingTask_userId hfound
    obtain ⟨item, -, rfl⟩ := joinTask_eq_some hjoin
    rcases createOrUpdateTask_cases hfound h with ⟨rfl, rfl, hsame⟩ | ⟨hparent, rfl, rfl⟩
    · obtain ⟨⟨hbody, hstatus, hpriority, htags, hpar, hrec⟩, htitle, hdue, hproject⟩ :=
        resolved_of_untouched hsame
      exact ⟨rfl, ⟨row, hrow, hlinked, hbody, hstatus, hpriority, htags, hpar, hrec, htitle.2,
        hdue.2, hproject.2, huser⟩, fun _ _ => Iff.rfl, fun r hr => .inl ⟨r, hr, rfl, rfl, rfl⟩⟩
    · exact upserted_update hrow hlinked huser hparent
  | none =>
    obtain ⟨tasks, hinsert, hrow, rfl, rfl⟩ := createOrUpdateTask_new hfound h
    exact upserted_insert rfl (Table.insert?_eq_some.mp hinsert).2
      (findExistingTask_eq_none hfound)

/-- What each status says of the rows. -/
theorem createOrUpdateTask_status (h : createOrUpdateTask db scan request = .ok (db', status)) :
    (db' = db ∧ ∃ task, status = .untouched task) ∨
    (∃ row ∈ db.tasks.rows, Linked request.sourceItem.id row ∧
      updateRow request row ∈ db'.tasks.rows ∧ ∃ oldTask, db.joinTask row = some oldTask ∧
        status = .updated (updatedTask request oldTask) oldTask) ∨
    ((∀ row ∈ db.tasks.rows, taskMatches db request row = false) ∧
      insertRow request ∈ db'.tasks.rows ∧ status = .created request.intoTask) := by
  cases hfound : findExistingTask db scan request with
  | some existing =>
    rcases createOrUpdateTask_cases hfound h with ⟨rfl, rfl, -⟩ | ⟨hparent, rfl, rfl⟩
    · exact .inl ⟨rfl, existing, rfl⟩
    · obtain ⟨row, hrow, hmatch, hjoin⟩ := findExistingTask_row hfound
      refine .inr (.inl ⟨row, hrow, linked_of_taskMatches hmatch, ?_, existing, hjoin, rfl⟩)
      obtain ⟨item, -, rfl⟩ := joinTask_eq_some hjoin
      exact (Table.mem_update (e := updateRow_id request)).mpr
        ⟨row, hrow, if_pos (beq_self_eq_true _)⟩
  | none =>
    obtain ⟨tasks, hinsert, hrow, rfl, rfl⟩ := createOrUpdateTask_new hfound h
    refine .inr (.inr ⟨findExistingTask_eq_none hfound, ?_, rfl⟩)
    show insertRow request ∈ tasks.rows
    rw [(Table.insert?_eq_some.mp hinsert).2]
    exact List.mem_append_right _ (List.mem_singleton_self _)

end Upsert

section RenamedIssue

def issueItem : ThirdPartyItemRow :=
  { id := ⟨1⟩, sourceId := "LIN-1", data := .linearIssue "", createdAt := 0, updatedAt := 0,
    userId := ⟨0⟩, integrationConnectionId := ⟨0⟩, sourceItemId := none }

/-- A Linear issue's task, renamed by its user. -/
def renamedTask : TaskRow :=
  { id := ⟨1⟩, title := "my words", body := "", status := .active, completedAt := none,
    priority := .p4, dueAt := none, tags := [], parentId := none, project := "Inbox",
    isRecurring := false, createdAt := postgresEpoch, updatedAt := postgresEpoch, kind := .linear,
    sourceItemId := ⟨1⟩, sinkItemId := none, userId := ⟨0⟩ }

def issueDatabase : Database where
  thirdPartyItems := ⟨[issueItem], List.nodup_singleton _⟩
  tasks := ⟨[renamedTask], List.nodup_singleton _⟩
  notifications := Table.empty
  item_constraints := by decide
  task_source := by intro r hr; rw [List.mem_singleton.mp hr]; rfl
  task_sink := by intro r hr i hi; rw [List.mem_singleton.mp hr] at hi; cases hi
  task_parent := by intro r hr i hi; rw [List.mem_singleton.mp hr] at hi; cases hi
  task_source_unique := by
    intro r hr r' hr' _
    rw [List.mem_singleton.mp hr, List.mem_singleton.mp hr']
  task_sink_unique := by intro r hr r' hr' i hi; rw [List.mem_singleton.mp hr] at hi; cases hi
  notification_source := fun _ h => (Table.not_mem_empty h).elim
  notification_task := fun _ h => (Table.not_mem_empty h).elim
  notification_updatedAt := Database.empty.notification_updatedAt

/-- The issue is completed upstream; its integration does not own the title. -/
def completedRequest : CreateOrUpdateTaskRequest :=
  { id := ⟨2⟩, title := ⟨"Issue title", none⟩, body := "", status := .done,
    completedAt := some postgresEpoch, priority := .p4, dueAt := ⟨none, none⟩, tags := [],
    parentId := none, project := ⟨"Inbox", none⟩, isRecurring := false, createdAt := 0,
    updatedAt := postgresEpoch, kind := .linear, sourceItem := issueItem.intoThirdPartyItem none,
    sinkItem := none, userId := ⟨0⟩ }

theorem returns_stored_renamed :
    ∃ db' status,
      createOrUpdateTask issueDatabase ⟨[renamedTask], .refl _⟩ completedRequest =
        .ok (db', status) ∧
      ∃ reread, db'.getTask status.value.id = some reread ∧ status.value.eq reread = true ∧
        AssertedFields completedRequest reread ∧
        Resolved completedRequest.title "my words" reread.title := by
  refine ⟨_, _, rfl, ?_⟩
  obtain ⟨reread, hread, heq, -, -, hasserted, htitle, -⟩ :=
    @createOrUpdateTask_returns_stored issueDatabase _ ⟨[renamedTask], .refl _⟩ completedRequest _ _
      rfl rfl
  exact ⟨reread, hread, heq, hasserted, htitle⟩

end RenamedIssue

end UniversalInbox.TaskUpsert
