import UniversalInbox.TaskUpsert

/-! Applying one task request twice. The equality that decides whether a stored task needs
writing compares the kind and the two items of the task, which no `UPDATE` of it writes. -/
namespace UniversalInbox.TaskUpsert

variable {db db' : Database} {scan : TaskScan db} {request : CreateOrUpdateTaskRequest}
  {status : UpsertStatus Task} {row : TaskRow}

/-- The row has the kind and the items that the request names. -/
def SameItems (request : CreateOrUpdateTaskRequest) (row : TaskRow) : Prop :=
  row.kind = request.kind ∧ row.sourceItemId = request.sourceItem.id ∧
    row.sinkItemId = request.sinkItem.map (·.id)

instance (request : CreateOrUpdateTaskRequest) (row : TaskRow) :
    Decidable (SameItems request row) := inferInstanceAs (Decidable (_ ∧ _))

/-- Another upsert of the request has nothing to write, whichever row it reads first. -/
def Settled (db : Database) (request : CreateOrUpdateTaskRequest) : Prop :=
  ∀ scan : TaskScan db, ∃ task, createOrUpdateTask db scan request = .ok (db, .untouched task)

/-- A joined task has the items of its row. -/
theorem joinTask_items (hrow : row ∈ db.tasks.rows) {task : Task}
    (h : db.joinTask row = some task) :
    task.sourceItem.id = row.sourceItemId ∧ task.sinkItem.map (·.id) = row.sinkItemId := by
  obtain ⟨item, hitem, rfl⟩ := joinTask_eq_some h
  refine ⟨Database.flatItem_id hitem, ?_⟩
  show (row.sinkItemId.bind db.flatItem).map (·.id) = row.sinkItemId
  cases hsink : row.sinkItemId with
  | none => rfl
  | some id =>
    obtain ⟨sink, hflat⟩ :=
      Option.isSome_iff_exists.mp (Database.flatItem_isSome (db.task_sink row hrow id hsink))
    rw [Option.bind_some, hflat, Option.map_some, Database.flatItem_id hflat]

theorem eq_valueOr_iff {α : Type} {field : DefaultValue α} {before : α} :
    before = field.valueOr before ↔ ∀ v, field.value = some v → before = v := by
  constructor
  · intro h
    exact (resolved_of_eq h).2
  · intro h
    unfold DefaultValue.valueOr
    cases hvalue : field.value with
    | none => rfl
    | some v => exact h v hvalue

/-- The equality, read on the row: it holds the request, and has its kind and items. -/
theorem eq_requestedTask_iff (hrow : row ∈ db.tasks.rows) {task : Task}
    (hjoin : db.joinTask row = some task) :
    task.eq (requestedTask request task) = true ↔ Holds request row ∧ SameItems request row := by
  obtain ⟨hsource, hsink⟩ := joinTask_items hrow hjoin
  obtain ⟨item, -, rfl⟩ := joinTask_eq_some hjoin
  rw [eq_iff, hsource, hsink]
  constructor
  · rintro ⟨htitle, hbody, hstatus, hpriority, hdue, htags, hparent, hproject, hrecurring, hkind,
      hsource, hsink, huser⟩
    exact ⟨⟨hbody, hstatus, hpriority, htags, hparent, hrecurring, eq_valueOr_iff.mp htitle,
      eq_valueOr_iff.mp hdue, eq_valueOr_iff.mp hproject, huser⟩, hkind, hsource, hsink⟩
  · rintro ⟨h, hkind, hsource, hsink⟩
    exact ⟨eq_valueOr_iff.mpr h.title, h.body, h.status, h.priority, eq_valueOr_iff.mpr h.dueAt,
      h.tags, h.parentId, eq_valueOr_iff.mpr h.project, h.isRecurring, hkind, hsource, hsink,
      h.userId⟩

/-- The order that reads a given row first. -/
def scanFrom (row : TaskRow) (hrow : row ∈ db.tasks.rows) : TaskScan db :=
  ⟨row :: db.tasks.rows.erase row, (List.perm_cons_erase hrow).symm⟩

theorem findExistingTask_scanFrom (hrow : row ∈ db.tasks.rows)
    (hmatch : taskMatches db request row = true) :
    findExistingTask db (scanFrom row hrow) request = db.joinTask row := by
  unfold findExistingTask scanFrom
  rw [List.find?_cons_of_pos hmatch, Option.bind_some]

theorem createOrUpdateTask_of_eq {existing : Task}
    (hfound : findExistingTask db scan request = some existing)
    (heq : existing.eq (requestedTask request existing) = true) :
    createOrUpdateTask db scan request = .ok (db, .untouched existing) := by
  unfold createOrUpdateTask
  simp only [hfound]
  exact if_pos heq

/-- A request is settled when there is a task of its item, and every such task holds it. -/
theorem settled_iff :
    Settled db request ↔ (∃ row ∈ db.tasks.rows, taskMatches db request row = true) ∧
      ∀ row ∈ db.tasks.rows, taskMatches db request row = true →
        Holds request row ∧ SameItems request row := by
  constructor
  · intro h
    constructor
    · obtain ⟨task, htask⟩ := h ⟨db.tasks.rows, .refl _⟩
      cases hfound : findExistingTask db ⟨db.tasks.rows, .refl _⟩ request with
      | none => cases (createOrUpdateTask_created hfound htask).1
      | some existing =>
        obtain ⟨row, hrow, hmatch, -⟩ := findExistingTask_row hfound
        exact ⟨row, hrow, hmatch⟩
    · intro row hrow hmatch
      obtain ⟨task, htask⟩ := h (scanFrom row hrow)
      obtain ⟨existing, hjoin⟩ := Option.isSome_iff_exists.mp (Database.joinTask_isSome hrow)
      have hfound := (findExistingTask_scanFrom hrow hmatch).trans hjoin
      rcases createOrUpdateTask_cases hfound htask with ⟨-, -, heq⟩ | ⟨-, -, hstatus⟩
      · exact (eq_requestedTask_iff hrow hjoin).mp heq
      · cases hstatus
  · rintro ⟨⟨row, hrow, hmatch⟩, hall⟩ scan
    cases hfound : findExistingTask db scan request with
    | none =>
      have hnone := findExistingTask_eq_none hfound row hrow
      rw [hmatch] at hnone
      cases hnone
    | some existing =>
      obtain ⟨found, hfoundRow, hfoundMatch, hjoin⟩ := findExistingTask_row hfound
      have heq := (eq_requestedTask_iff hfoundRow hjoin).mpr (hall found hfoundRow hfoundMatch)
      exact ⟨existing, createOrUpdateTask_of_eq hfound heq⟩

theorem itemMatches_of_taskMatches (hmatch : taskMatches db request row = true) :
    itemMatches db request.sourceItem.id request.sourceItem = true := by
  simp only [taskMatches, Bool.and_eq_true, Bool.or_eq_true, Option.any_eq_true] at hmatch
  rcases hmatch.1 with hsource | ⟨id, -, hsink⟩
  · have hid := hsource
    simp only [itemMatches, Bool.and_eq_true, beq_iff_eq] at hid
    rw [hid.1] at hsource
    exact hsource
  · have hid := hsink
    simp only [itemMatches, Bool.and_eq_true, beq_iff_eq] at hid
    rw [hid.1] at hsink
    exact hsink

/-- The item is stored with the kind the request gives it, and every stored task of it has the
kind and the items the request names. -/
def RequestNamesItems (db : Database) (request : CreateOrUpdateTaskRequest) : Prop :=
  itemMatches db request.sourceItem.id request.sourceItem = true ∧
    ∀ row ∈ db.tasks.rows, taskMatches db request row = true → SameItems request row

instance (db : Database) (request : CreateOrUpdateTaskRequest) :
    Decidable (RequestNamesItems db request) := inferInstanceAs (Decidable (_ ∧ ∀ _ ∈ _, _))

/-- Then there is at most one such task. -/
theorem RequestNamesItems.unique (h : RequestNamesItems db request) {row' : TaskRow}
    (hrow : row ∈ db.tasks.rows) (hmatch : taskMatches db request row = true)
    (hrow' : row' ∈ db.tasks.rows) (hmatch' : taskMatches db request row' = true) : row = row' :=
  db.task_source_unique row hrow row' hrow'
    ((h.2 row hrow hmatch).2.1.trans (h.2 row' hrow' hmatch').2.1.symm)

/-- A settled request names the items of the one task it settles. -/
theorem requestNamesItems_of_settled (h : Settled db request) : RequestNamesItems db request := by
  obtain ⟨⟨row, -, hmatch⟩, hall⟩ := settled_iff.mp h
  exact ⟨itemMatches_of_taskMatches hmatch, fun row hrow hmatch => (hall row hrow hmatch).2⟩

theorem settled_untouched {existing : Task}
    (hfound : findExistingTask db scan request = some existing)
    (heq : existing.eq (requestedTask request existing) = true) :
    Settled db request ↔ RequestNamesItems db request := by
  refine ⟨requestNamesItems_of_settled, fun h => ?_⟩
  obtain ⟨row, hrow, hmatch, hjoin⟩ := findExistingTask_row hfound
  refine settled_iff.mpr ⟨⟨row, hrow, hmatch⟩, ?_⟩
  intro row' hrow' hmatch'
  rw [← h.unique hrow hmatch hrow' hmatch']
  exact (eq_requestedTask_iff hrow hjoin).mp heq

/-- Neither whether a task is of the item nor its items depend on what the update writes. -/
theorem settled_applyUpdate (hparent : ParentKnown db request) (hrow : row ∈ db.tasks.rows)
    (hmatch : taskMatches db request row = true) (huser : row.userId = request.userId) :
    Settled (applyUpdate db row.id request hparent) request ↔ RequestNamesItems db request := by
  have hmem : ∀ r, r ∈ (applyUpdate db row.id request hparent).tasks.rows ↔
      ∃ old ∈ db.tasks.rows, (if old.id == row.id then updateRow request old else old) = r :=
    fun r => Table.mem_update (e := updateRow_id request)
  have hsame : ∀ old, taskMatches (applyUpdate db row.id request hparent) request
      (if old.id == row.id then updateRow request old else old) = taskMatches db request old ∧
      (SameItems request (if old.id == row.id then updateRow request old else old) ↔
        SameItems request old) := by
    intro old
    split <;> exact ⟨rfl, Iff.rfl⟩
  constructor
  · intro h
    obtain ⟨hitem, hall⟩ := requestNamesItems_of_settled h
    refine ⟨hitem, fun old hold hmatch => ?_⟩
    exact (hsame old).2.mp (hall _ ((hmem _).mpr ⟨old, hold, rfl⟩) ((hsame old).1.trans hmatch))
  · intro h
    refine settled_iff.mpr ⟨⟨_, (hmem _).mpr ⟨row, hrow, rfl⟩, (hsame row).1.trans hmatch⟩, ?_⟩
    intro r hr hmatch'
    obtain ⟨old, hold, rfl⟩ := (hmem r).mp hr
    rw [(hsame old).1] at hmatch'
    refine ⟨?_, (hsame old).2.mpr (h.2 old hold hmatch')⟩
    rw [h.unique hold hmatch' hrow hmatch, if_pos (beq_self_eq_true _)]
    exact holds_updateRow request huser

theorem settled_applyInsert {tasks : Table TaskRow.id}
    (hfresh : db.tasks.insert? (insertRow request) = some tasks)
    (hrow : Insertable db (insertRow request))
    (hnone : ∀ row ∈ db.tasks.rows, taskMatches db request row = false) :
    Settled (applyInsert db (insertRow request) tasks hfresh hrow) request ↔
      RequestNamesItems db request := by
  have hmem : ∀ r, r ∈ (applyInsert db (insertRow request) tasks hfresh hrow).tasks.rows ↔
      r ∈ db.tasks.rows ∨ r = insertRow request := by
    intro r
    show r ∈ tasks.rows ↔ _
    rw [(Table.insert?_eq_some.mp hfresh).2, List.mem_append, List.mem_singleton]
  constructor
  · intro h
    refine ⟨(requestNamesItems_of_settled h).1, fun row hrow hmatch => ?_⟩
    rw [hnone row hrow] at hmatch
    cases hmatch
  · rintro ⟨hitem, -⟩
    have hnew : taskMatches (applyInsert db (insertRow request) tasks hfresh hrow) request
        (insertRow request) = true := by
      simp only [taskMatches, Bool.and_eq_true, Bool.or_eq_true]
      exact ⟨.inl hitem, beq_self_eq_true _⟩
    refine settled_iff.mpr ⟨⟨_, (hmem _).mpr (.inr rfl), hnew⟩, ?_⟩
    intro r hr hmatch
    rcases (hmem r).mp hr with hold | rfl
    · have hfalse := hnone r hold
      rw [show taskMatches db request r = true from hmatch] at hfalse
      cases hfalse
    · exact ⟨holds_insertRow request, rfl, rfl, rfl⟩

/-- After an upsert, the same request again finds nothing to write if and only if it names the
items of the task: a request that finds the task by its sink does not, nor one of a source that
leaves out a sink the task has. -/
theorem untouched_again_iff (hok : createOrUpdateTask db scan request = .ok (db', status)) :
    (∀ scan' : TaskScan db', ∃ task,
      createOrUpdateTask db' scan' request = .ok (db', .untouched task)) ↔
      RequestNamesItems db request := by
  cases hfound : findExistingTask db scan request with
  | some existing =>
    rcases createOrUpdateTask_cases hfound hok with ⟨rfl, -, heq⟩ | ⟨hparent, rfl, -⟩
    · exact settled_untouched hfound heq
    · obtain ⟨row, hrow, hmatch, hjoin⟩ := findExistingTask_row hfound
      have huser := findExistingTask_userId hfound
      obtain ⟨item, -, rfl⟩ := joinTask_eq_some hjoin
      exact settled_applyUpdate hparent hrow hmatch huser
  | none =>
    obtain ⟨tasks, hinsert, hrow, rfl, rfl⟩ := createOrUpdateTask_new hfound hok
    exact settled_applyInsert hinsert hrow (findExistingTask_eq_none hfound)

/-- The completed issue, synchronized twice while its task has no sink. -/
theorem completedIssue_untouched_again : ∃ db' status,
    createOrUpdateTask issueDatabase ⟨[renamedTask], .refl _⟩ completedRequest =
      .ok (db', status) ∧
    ∀ scan' : TaskScan db', ∃ task,
      createOrUpdateTask db' scan' completedRequest = .ok (db', .untouched task) :=
  ⟨_, _, rfl, (@untouched_again_iff issueDatabase _ ⟨[renamedTask], .refl _⟩ completedRequest _
    rfl).mpr (by decide)⟩

def sinkItemRow : ThirdPartyItemRow :=
  { id := ⟨2⟩, sourceId := "TT-1", data := .tickTickItem "", createdAt := 0, updatedAt := 0,
    userId := ⟨0⟩, integrationConnectionId := ⟨1⟩, sourceItemId := none }

/-- The task of the issue once the task manager has it. -/
def linkedTask : TaskRow := { renamedTask with sinkItemId := some ⟨2⟩ }

def linkedDatabase : Database where
  thirdPartyItems := ⟨[issueItem, sinkItemRow], by decide⟩
  tasks := ⟨[linkedTask], List.nodup_singleton _⟩
  notifications := Table.empty
  item_constraints := by decide
  task_source := by decide
  task_sink := by decide
  task_parent := by decide
  task_source_unique := by decide
  task_sink_unique := by decide
  notification_source := fun _ h => (Table.not_mem_empty h).elim
  notification_task := fun _ h => (Table.not_mem_empty h).elim
  notification_updatedAt := Database.empty.notification_updatedAt

/-- The same request on the linked task: written again each time. -/
theorem linkedIssue_updated_again : ∃ db' status,
    createOrUpdateTask linkedDatabase ⟨[linkedTask], .refl _⟩ completedRequest =
      .ok (db', status) ∧
    ¬ ∀ scan' : TaskScan db', ∃ task,
      createOrUpdateTask db' scan' completedRequest = .ok (db', .untouched task) := by
  refine ⟨_, _, rfl, fun h => ?_⟩
  obtain ⟨task, htask⟩ := h ⟨_, .refl _⟩
  have hstatus : some false = some true := congrArg (fun result => result.toOption.map fun pair =>
    match pair.2 with
    | .untouched _ => true
    | _ => false) htask
  cases hstatus

end UniversalInbox.TaskUpsert
