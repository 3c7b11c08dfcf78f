import UniversalInbox.PeerService
import UniversalInbox.TodoistSync

/-! The propagation of what a sync changed in a task to the other item of the task. The task row
is written first, the provider of the other item is called next, and the transaction is committed
however that call ends. -/
namespace UniversalInbox.Propagation
open Transition TaskUpsert PeerService
open ThirdPartyItemUpsert (createOrUpdateThirdPartyItem findExistingItem)

/-- `upstream` is what the providers have of an item, under the identifier of the row that
stores it; `edited` are the items changed there since a sync last wrote their task. -/
structure State where
  db : Database
  upstream : ThirdPartyItemId → TaskFields
  edited : List ThirdPartyItemId

/-- How a function of the sync ends; `none` when a statement is refused, for it is the providers
that may fail here, not the database. -/
abbrev Outcome := Option (State × Except UniversalInboxError Unit)

structure SinkAnswers where
  accessToken : Bool
  createTask : Except UniversalInboxError ThirdPartyItem
  sideEffect : Except UniversalInboxError Unit

/-- One item of a sync, with the answers to the calls it may need. -/
structure SyncedItem where
  item : ThirdPartyItem
  connected : Bool
  request : Except UniversalInboxError CreateOrUpdateTaskRequest
  sinkProviderKindHint : Option IntegrationProviderKind
  defaultTaskManagerProviderKind : Option IntegrationProviderKind
  peer : PeerAnswers
  sink : SinkAnswers
  afterSideEffect : Except UniversalInboxError Unit

def resolveSinkProviderKind (explicitHint preference : Option IntegrationProviderKind) :
    IntegrationProviderKind := explicitHint.getD (preference.getD .todoist)

/-- A task creation has no status: the new item is active. -/
def createdFields (task : Task) : TaskFields := { fieldsOf task with status := .active }

def linkSink (sink : ThirdPartyItemId) (row : TaskRow) : TaskRow := { row with sinkItemId := some sink }

theorem linkSink_id (sink : ThirdPartyItemId) (row : TaskRow) : (linkSink sink row).id = row.id := rfl

/-- The constraints of the column. -/
structure SinkLinkable (db : Database) (id : TaskId) (sink : ThirdPartyItemId) : Prop where
  known : (db.thirdPartyItems.find? sink).isSome
  unique : ∀ r ∈ db.tasks.rows, r.sinkItemId = some sink → r.id = id

instance (db : Database) (id : TaskId) (sink : ThirdPartyItemId) : Decidable (SinkLinkable db id sink) :=
  decidable_of_iff
    ((db.thirdPartyItems.find? sink).isSome ∧ ∀ r ∈ db.tasks.rows, r.sinkItemId = some sink → r.id = id)
    ⟨fun ⟨known, unique⟩ => ⟨known, unique⟩, fun ⟨known, unique⟩ => ⟨known, unique⟩⟩

/-- `patch_task` with a `sink_item_id` alone. -/
def patchSinkItem (db : Database) (id : TaskId) (userId : UserId) (sink : ThirdPartyItemId)
    (h : SinkLinkable db id sink) : Database :=
  { db with
    tasks := db.tasks.update (fun r => r.id == id && r.userId == userId) (linkSink sink)
      (linkSink_id sink)
    task_source := by
      intro r hr
      obtain ⟨row, hrow, rfl⟩ := Table.mem_update.mp hr
      split <;> exact db.task_source row hrow
    task_sink := by
      intro r hr i hi
      obtain ⟨row, hrow, rfl⟩ := Table.mem_update.mp hr
      split at hi
      · cases hi
        exact h.known
      · exact db.task_sink row hrow i hi
    task_parent := by
      intro r hr i hi
      rw [Table.find?_isSome_update]
      obtain ⟨row, hrow, rfl⟩ := Table.mem_update.mp hr
      split at hi <;> exact db.task_parent row hrow i hi
    task_source_unique := by
      intro r hr r' hr' hsame
      obtain ⟨row, hrow, rfl⟩ := Table.mem_update.mp hr
      obtain ⟨row', hrow', rfl⟩ := Table.mem_update.mp hr'
      have : row = row' := db.task_source_unique row hrow row' hrow' (by
        split at hsame <;> split at hsame <;> exact hsame)
      rw [this]
    task_sink_unique := by
      intro r hr r' hr' i hi hsame
      obtain ⟨row, hrow, rfl⟩ := Table.mem_update.mp hr
      obtain ⟨row', hrow', rfl⟩ := Table.mem_update.mp hr'
      have hid : row = row' := by
        split at hi <;> split at hsame
        · next hset hset' =>
          simp only [Bool.and_eq_true, beq_iff_eq] at hset hset'
          exact Table.eq_of_key hrow hrow' (hset.1.trans hset'.1.symm)
        · next hset _ =>
          cases hi
          simp only [Bool.and_eq_true, beq_iff_eq] at hset
          exact Table.eq_of_key hrow hrow' (hset.1.trans (h.unique row' hrow' hsame).symm)
        · next _ hset =>
          cases hsame
          simp only [Bool.and_eq_true, beq_iff_eq] at hset
          exact Table.eq_of_key hrow hrow' ((h.unique row hrow hi).trans hset.1.symm)
        · exact db.task_sink_unique row hrow row' hrow' i hi hsame
      rw [hid]
    notification_task := by
      intro r hr i hi
      rw [Table.find?_isSome_update]
      exact db.notification_task r hr i hi }

/-- `create_task` answers with an item that is new at its provider. -/
def createSinkItemFromTaskWithService (s : State) (task : Task) (overwriteExistingSinkItem : Bool)
    (kind : ThirdPartyItemKind) (answers : SinkAnswers) : Outcome :=
  if !answers.accessToken then
    some (s, .error (.unexpected "Cannot create a sink item without an access token"))
  else if task.sinkItem.isSome && !overwriteExistingSinkItem then some (s, .ok ())
  else
    match answers.createTask with
    | .error error => some (s, .error error)
    | .ok item =>
      if item.kind = kind ∧ (findExistingItem s.db item).isNone = true then
        match createOrUpdateThirdPartyItem s.db item with
        | .error _ => none
        | .ok (db, status) =>
          if h : SinkLinkable db task.id status.value.id then
            some
              ({ db := patchSinkItem db task.id task.userId status.value.id h
                 upstream := Function.update s.upstream status.value.id (createdFields task)
                 edited := s.edited.filter (· ≠ status.value.id) },
                answers.sideEffect)
          else none
      else none

def createSinkItemFromTask (s : State) (task : Task) (overwriteExistingSinkItem : Bool)
    (taskProviderKind : IntegrationProviderKind) (answers : SinkAnswers) : Outcome :=
  match taskProviderKind with
  | .todoist =>
    createSinkItemFromTaskWithService s task overwriteExistingSinkItem .todoistItem answers
  | .tickTick =>
    createSinkItemFromTaskWithService s task overwriteExistingSinkItem .tickTickItem answers
  | _ => some (s, .error (.unsupportedAction "Sink item creation is not supported"))

section Sync
variable (scan : (db : Database) → TaskScan db) (userId : UserId) (isTesting : Bool)

/-- The update of `peer`, an item of the updated task. A task of a synchronized source gets a new
sink when its own is not found. -/
def updatePeer (s : State) (newTask oldTask : Task) (peer : ThirdPartyItem)
    (sinkProviderKind : IntegrationProviderKind) (x : SyncedItem) : Outcome :=
  match applyTaskThirdPartyItemSideEffect isTesting (taskPatch newTask oldTask) peer.kind x.peer
      (s.upstream peer.id) with
  | (u, result) =>
    let s' := { s with upstream := Function.update s.upstream peer.id u }
    match result with
    | .error (.itemNotFound message) =>
      if newTask.kind == .todoist || newTask.kind == .tickTick then
        some (s', .error (.itemNotFound message))
      else createSinkItemFromTask s' newTask true sinkProviderKind x.sink
    | result => some (s', result)

def applySyncedTaskSideEffect (s : State) (x : SyncedItem) (upsertTask : UpsertStatus Task)
    (sinkProviderKind : IntegrationProviderKind) : Outcome :=
  match upsertTask with
  | .created task =>
    if task.kind == .todoist || task.kind == .tickTick then some (s, .ok ())
    else createSinkItemFromTask s task false sinkProviderKind x.sink
  | .updated newTask oldTask =>
    match newTask.sinkItem with
    | none =>
      if newTask.kind == .todoist || newTask.kind == .tickTick then some (s, .ok ())
      else createSinkItemFromTask s newTask false sinkProviderKind x.sink
    | some taskSinkItem =>
      if newTask.sourceItem.id == taskSinkItem.id then some (s, .ok ())
      else if newTask.sourceItem.id == x.item.id then
        updatePeer isTesting s newTask oldTask taskSinkItem sinkProviderKind x
      else if taskSinkItem.id == x.item.id then
        updatePeer isTesting s newTask oldTask newTask.sourceItem sinkProviderKind x
      else some (s, .error (.unexpected
        s!"Task {newTask.id.uuid} has no source or sink item matching the synced third party item {x.item.id.uuid}"))
  | .untouched _ => some (s, .ok ())

/-- The request is what the item converts to; once its task is written, the item has no change
left to store. -/
def syncThirdPartyItemAsTask (s : State) (x : SyncedItem) : Outcome :=
  match x.request with
  | .error error => some (s, .error error)
  | .ok request =>
    match createOrUpdateTask s.db (scan s.db) request with
    | .error _ => none
    | .ok (db, upsertTask) =>
      match applySyncedTaskSideEffect isTesting
          { s with db, edited := s.edited.filter (· ≠ x.item.id) } x upsertTask
          (resolveSinkProviderKind x.sinkProviderKindHint x.defaultTaskManagerProviderKind) with
      | some (s', .ok ()) => some (s', x.afterSideEffect)
      | outcome => outcome

def createTaskFromThirdPartyItem (s : State) (x : SyncedItem) : Outcome :=
  if !x.connected then
    some (s, .error (.unexpected s!"No validated integration found for user {userId.uuid}, cannot create third party item"))
  else syncThirdPartyItemAsTask scan isTesting s x

def taskSourceKind : ThirdPartyItemKind → Option TaskSourceKind
  | .todoistItem => some .todoist
  | .tickTickItem => some .tickTick
  | .slackReaction => some .slack
  | .linearIssue => some .linear
  | _ => none

/-- What the conversion of an item asserts of its task: a task manager owns every field, the
others at least the status. -/
def Asserts (kind : ThirdPartyItemKind) (request : CreateOrUpdateTaskRequest) (u : TaskFields) :
    Prop :=
  match kind with
  | .todoistItem | .tickTickItem =>
    request.status = u.status ∧ request.title.value = some u.title ∧ request.body = u.body ∧
      request.priority = u.priority ∧ request.dueAt.value = some u.dueAt ∧
      request.project.value = some u.project
  | .linearIssue => request.status = u.status
  | .slackReaction => u.status = .active ↔ request.status = .active
  | _ => False

instance (request : CreateOrUpdateTaskRequest) (u : TaskFields) :
    ∀ kind, Decidable (Asserts kind request u)
  | .todoistItem | .tickTickItem => inferInstanceAs (Decidable (_ ∧ _))
  | .linearIssue => inferInstanceAs (Decidable (_ = _))
  | .slackReaction => inferInstanceAs (Decidable (_ ↔ _))
  | .slackThread | .linearNotification | .githubNotification | .googleMailThread
  | .googleCalendarEvent | .googleDriveComment | .webPage => .isFalse not_false

/-- The request is the conversion of a stored item as its provider has it. -/
structure Converted (s : State) (item : ThirdPartyItem) (request : CreateOrUpdateTaskRequest) :
    Prop where
  stored : (s.db.thirdPartyItems.find? item.id).map (·.data.kind) = some item.kind
  source : request.sourceItem.id = item.id
  sourceKind : request.sourceItem.kind = item.kind
  sink : ∀ sink ∈ request.sinkItem, sink.id = item.id
  user : request.userId = userId
  kind : taskSourceKind item.kind = some request.kind
  asserts : Asserts item.kind request (s.upstream item.id)

instance (s : State) (item : ThirdPartyItem) (request : CreateOrUpdateTaskRequest) :
    Decidable (Converted userId s item request) :=
  decidable_of_iff
    ((s.db.thirdPartyItems.find? item.id).map (·.data.kind) = some item.kind ∧
      request.sourceItem.id = item.id ∧ request.sourceItem.kind = item.kind ∧
      (∀ sink ∈ request.sinkItem, sink.id = item.id) ∧ request.userId = userId ∧
      taskSourceKind item.kind = some request.kind ∧
      Asserts item.kind request (s.upstream item.id))
    ⟨fun ⟨a, b, c, d, e, f, g⟩ => ⟨a, b, c, d, e, f, g⟩,
      fun ⟨a, b, c, d, e, f, g⟩ => ⟨a, b, c, d, e, f, g⟩⟩

def syncItem (s : State) (x : SyncedItem) : Outcome :=
  if ∀ request ∈ x.request.toOption, Converted userId s x.item request then
    createTaskFromThirdPartyItem scan userId isTesting s x
  else none

/-- The loop over the items ends at the first error, and what it has done is committed. -/
def syncThirdPartyTasks (s : State) : List SyncedItem → Outcome
  | [] => some (s, .ok ())
  | x :: rest =>
    match syncItem scan userId isTesting s x with
    | some (s', .ok ()) => syncThirdPartyTasks s' rest
    | outcome => outcome

/-- `edit` is a change made at a provider, `store` the upsert of an item, `sync` one item of a
sync. -/
inductive Input where
  | edit (id : ThirdPartyItemId) (fields : TaskFields)
  | store (item : ThirdPartyItem)
  | sync (x : SyncedItem)

def step (s : State) : Input → Option State
  | .edit id fields =>
    some { s with upstream := Function.update s.upstream id fields, edited := id :: s.edited }
  | .store item =>
    match createOrUpdateThirdPartyItem s.db item with
    | .ok (db, _) => some { s with db }
    | .error _ => none
  | .sync x => (syncItem scan userId isTesting s x).map (·.1)

/-- A sync is a run of its items up to the first error. -/
theorem exec_of_syncThirdPartyTasks {s t : State} {items : List SyncedItem}
    {result : Except UniversalInboxError Unit}
    (h : syncThirdPartyTasks scan userId isTesting s items = some (t, result)) :
    ∃ processed, processed <+: items ∧
      exec (step scan userId isTesting) s (processed.map .sync) = some t := by
  induction items generalizing s with
  | nil =>
    cases h
    exact ⟨[], List.nil_prefix, rfl⟩
  | cons x rest ih =>
    rw [syncThirdPartyTasks] at h
    split at h
    · next s' hitem =>
      obtain ⟨processed, hprefix, hexec⟩ := ih h
      refine ⟨x :: processed, List.cons_prefix_cons.mpr ⟨rfl, hprefix⟩, ?_⟩
      rw [List.map_cons, exec, step, hitem, Option.map_some, Option.bind_some]
      exact hexec
    · next hitem =>
      refine ⟨[x], List.cons_prefix_cons.mpr ⟨rfl, List.nil_prefix⟩, ?_⟩
      rw [List.map_cons, exec, step, h]
      rfl

end Sync

def rowFields (row : TaskRow) : TaskFields :=
  { status := row.status
    title := row.title
    body := row.body
    priority := row.priority
    dueAt := row.dueAt
    project := row.project }

instance (id : ThirdPartyItemId) (row : TaskRow) : Decidable (Linked id row) :=
  inferInstanceAs (Decidable (_ ∨ _))

/-- A task and its items agree on what is propagated to them, but for the items changed at their
provider since. -/
def Agreement (s : State) : Prop :=
  ∀ row ∈ s.db.tasks.rows, ∀ item ∈ s.db.thirdPartyItems.rows,
    Linked item.id row → item.id ∉ s.edited →
      Agrees item.data.kind (rowFields row) (s.upstream item.id)

instance (s : State) : Decidable (Agreement s) :=
  inferInstanceAs (Decidable (∀ _ ∈ _, ∀ _ ∈ _, _ → _ → _))

structure Inv (userId : UserId) (s : State) : Prop where
  agreement : Agreement s
  links : ∀ row ∈ s.db.tasks.rows, ∀ row' ∈ s.db.tasks.rows, ∀ id,
    Linked id row → Linked id row' → row = row'
  users : ∀ row ∈ s.db.tasks.rows, row.userId = userId

section Guard
variable (isTesting : Bool) (upstream : ThirdPartyItemId → TaskFields) (x : SyncedItem)
  (request : CreateOrUpdateTaskRequest) (row : TaskRow) (peer : ThirdPartyItemRow)

/-- Every call to the provider of the other item succeeds; TickTick has none that uncompletes a
task. -/
def PeerSucceeds : Prop :=
  x.peer.Succeed peer.data.kind ∧
    (peer.data.kind = .tickTickItem → request.status = .active → row.status = .active)

/-- The other item is to be deleted, and nothing else, and is gone already. -/
structure DeletesGone : Prop where
  kind : peer.data.kind = .todoistItem
  status : request.status = .deleted
  gone : (upstream peer.id).status = .deleted
  accessToken : x.peer.todoist.accessToken = true
  delete : x.peer.todoist.status.NotFound
  project : x.peer.todoist.project.isOk = true
  update : x.peer.todoist.update.AllOk

/-- The other item is gone and is replaced by a new sink. -/
structure ReplacesGone : Prop where
  kind : peer.data.kind = .todoistItem
  source : row.sourceItemId = x.item.id
  taskKind : row.kind ≠ .todoist ∧ row.kind ≠ .tickTick
  status : request.status = .active
  accessToken : x.peer.todoist.accessToken = true
  delete : x.peer.todoist.status.NotFound
  project : x.peer.todoist.project.isOk = true
  update : x.peer.todoist.update.NotFound
  provider : (resolveSinkProviderKind x.sinkProviderKindHint
    x.defaultTaskManagerProviderKind).isTaskService = true
  sinkAccessToken : x.sink.accessToken = true
  created : x.sink.createTask.isOk = true

instance : Decidable (PeerSucceeds x request row peer) := inferInstanceAs (Decidable (_ ∧ _))

instance : Decidable (DeletesGone upstream x request peer) :=
  decidable_of_iff
    (peer.data.kind = .todoistItem ∧ request.status = .deleted ∧
      (upstream peer.id).status = .deleted ∧ x.peer.todoist.accessToken = true ∧
      x.peer.todoist.status.NotFound ∧ x.peer.todoist.project.isOk = true ∧
      x.peer.todoist.update.AllOk)
    ⟨fun ⟨a, b, c, d, e, f, g⟩ => ⟨a, b, c, d, e, f, g⟩,
      fun ⟨a, b, c, d, e, f, g⟩ => ⟨a, b, c, d, e, f, g⟩⟩

instance : Decidable (ReplacesGone x request row peer) :=
  decidable_of_iff
    (peer.data.kind = .todoistItem ∧ row.sourceItemId = x.item.id ∧
      (row.kind ≠ .todoist ∧ row.kind ≠ .tickTick) ∧ request.status = .active ∧
      x.peer.todoist.accessToken = true ∧ x.peer.todoist.status.NotFound ∧
      x.peer.todoist.project.isOk = true ∧ x.peer.todoist.update.NotFound ∧
      (resolveSinkProviderKind x.sinkProviderKindHint
        x.defaultTaskManagerProviderKind).isTaskService = true ∧
      x.sink.accessToken = true ∧ x.sink.createTask.isOk = true)
    ⟨fun ⟨a, b, c, d, e, f, g, h, i, j, k⟩ => ⟨a, b, c, d, e, f, g, h, i, j, k⟩,
      fun ⟨a, b, c, d, e, f, g, h, i, j, k⟩ => ⟨a, b, c, d, e, f, g, h, i, j, k⟩⟩

/-- Side effects are not skipped, and the other item follows the task. -/
def PeerGuard : Prop :=
  isTesting = false ∧
    (PeerSucceeds x request row peer ∨ DeletesGone upstream x request peer ∨
      ReplacesGone x request row peer)

instance : Decidable (PeerGuard isTesting upstream x request row peer) :=
  inferInstanceAs (Decidable (_ ∧ _))

/-- A sink is only created for an active task, and the calls for the other item of a task
succeed. -/
def ItemGuard (s : State) : Prop :=
  x.connected = true → ∀ request ∈ x.request.toOption,
    (x.sink.createTask.isOk = true → request.status = .active) ∧
    ∀ row ∈ s.db.tasks.rows, Linked x.item.id row →
      ∀ peer ∈ s.db.thirdPartyItems.rows, Linked peer.id row → peer.id ≠ x.item.id →
        PeerGuard isTesting s.upstream x request row peer

instance (s : State) : Decidable (ItemGuard isTesting x s) :=
  inferInstanceAs (Decidable (_ → ∀ _ ∈ _, _ ∧ ∀ _ ∈ _, _ → ∀ _ ∈ _, _ → _ → _))

def SyncGuard (s : State) : Input → Prop
  | .sync x => ItemGuard isTesting x s
  | _ => True

instance (s : State) : ∀ i, Decidable (SyncGuard isTesting s i)
  | .sync x => inferInstanceAs (Decidable (ItemGuard isTesting x s))
  | .edit _ _ | .store _ => .isTrue trivial

end Guard

section Propagated
variable (scan : (db : Database) → TaskScan db) (userId : UserId) (isTesting : Bool)

/-- The item is synchronized without an error. -/
def completes (s : State) : Input → Bool
  | .sync x => (syncItem scan userId isTesting s x).any fun outcome => outcome.2.isOk
  | _ => false

/-- Whatever failed before, tasks and items agree once a sync completes. -/
def Propagated (s : State) (i : Input) (t : State) : Prop :=
  completes scan userId isTesting s i = true → Agreement t

instance (s : State) (i : Input) (t : State) :
    Decidable (Propagated scan userId isTesting s i t) := inferInstanceAs (Decidable (_ → _))

end Propagated

section Step
variable {scan : (db : Database) → TaskScan db} {userId : UserId} {isTesting : Bool} {s t : State}

theorem Agrees.refl (kind : ThirdPartyItemKind) (task : TaskFields) : Agrees kind task task := by
  cases kind <;> first | rfl | trivial

theorem linked_known {db : Database} {row : TaskRow} {id : ThirdPartyItemId}
    (hrow : row ∈ db.tasks.rows) (h : Linked id row) : (db.thirdPartyItems.find? id).isSome := by
  rcases h with rfl | hsink
  · exact db.task_source row hrow
  · exact db.task_sink row hrow id hsink

/-- What a conversion asserts, a row that holds the request has. -/
theorem agrees_of_asserts {kind : ThirdPartyItemKind} {request : CreateOrUpdateTaskRequest}
    {u : TaskFields} {row : TaskRow} (h : Asserts kind request u) (hholds : Holds request row) :
    Agrees kind (rowFields row) u := by
  have hall : (request.status = u.status ∧ request.title.value = some u.title ∧
      request.body = u.body ∧ request.priority = u.priority ∧
      request.dueAt.value = some u.dueAt ∧ request.project.value = some u.project) →
        u = rowFields row := by
    rintro ⟨hstatus, htitle, hbody, hpriority, hdue, hproject⟩
    unfold rowFields
    rw [hholds.status, hholds.title _ htitle, hholds.body, hholds.priority, hholds.dueAt _ hdue,
      hholds.project _ hproject, hstatus, hbody, hpriority]
  cases kind with
  | todoistItem | tickTickItem => exact hall h
  | linearIssue => exact (hholds.status.trans h).symm
  | slackReaction =>
    show u.status = .active ↔ row.status = .active
    rw [hholds.status]
    exact h
  | slackThread | linearNotification | githubNotification | googleMailThread
  | googleCalendarEvent | googleDriveComment | webPage => exact h.elim

theorem inv_edit (h : Inv userId s) (id : ThirdPartyItemId) (fields : TaskFields) :
    Inv userId
      { s with upstream := Function.update s.upstream id fields, edited := id :: s.edited } := by
  refine ⟨fun row hrow item hitem hlinked hnot => ?_, h.links, h.users⟩
  rw [List.mem_cons, not_or] at hnot
  show Agrees _ _ (Function.update s.upstream id fields item.id)
  rw [Function.update_of_ne hnot.1]
  exact h.agreement row hrow item hitem hlinked hnot.2

theorem inv_store {item : ThirdPartyItem} {db : Database} {status : UpsertStatus ThirdPartyItem}
    (h : Inv userId s) (hstore : createOrUpdateThirdPartyItem s.db item = .ok (db, status)) :
    Inv userId { s with db } := by
  have hup := ThirdPartyItemUpsert.createOrUpdateThirdPartyItem_upserted hstore
  refine ⟨fun row hrow item' hitem' hlinked hnot => ?_, ?_, ?_⟩
  · have hrow' : row ∈ s.db.tasks.rows := hup.tasks ▸ hrow
    rcases hup.rows item' hitem' with ⟨old, hold, hid, hkind⟩ | hfresh
    · show Agrees item'.data.kind (rowFields row) (s.upstream item'.id)
      rw [← hkind, ← hid]
      exact h.agreement row hrow' old hold (hid ▸ hlinked) (hid ▸ hnot)
    · have hknown := linked_known hrow' hlinked
      rw [hfresh] at hknown
      cases hknown
  · show ∀ row ∈ db.tasks.rows, ∀ row' ∈ db.tasks.rows, _
    rw [hup.tasks]
    exact h.links
  · show ∀ row ∈ db.tasks.rows, _
    rw [hup.tasks]
    exact h.users

/-- An item whose agreement is not known counts as changed until it is. -/
theorem inv_settle {id : ThirdPartyItemId} {u : TaskFields}
    (h : Inv userId { s with edited := id :: s.edited })
    (hagrees : ∀ row ∈ s.db.tasks.rows, ∀ item ∈ s.db.thirdPartyItems.rows, item.id = id →
      Linked id row → id ∉ s.edited → Agrees item.data.kind (rowFields row) u) :
    Inv userId { s with upstream := Function.update s.upstream id u } := by
  refine ⟨fun row hrow item hitem hlinked hnot => ?_, h.links, h.users⟩
  show Agrees _ _ (Function.update s.upstream id u item.id)
  by_cases hid : item.id = id
  · rw [hid, Function.update_self]
    exact hagrees row hrow item hitem hid (hid ▸ hlinked) (hid ▸ hnot)
  · rw [Function.update_of_ne hid]
    exact h.agreement row hrow item hitem hlinked fun hmem => (List.mem_cons.mp hmem).elim hid hnot

theorem stored_kind {item : ThirdPartyItem} {request : CreateOrUpdateTaskRequest}
    {row : ThirdPartyItemRow} (hconverted : Converted userId s item request)
    (hrow : row ∈ s.db.thirdPartyItems.rows) (hid : row.id = item.id) :
    row.data.kind = item.kind := by
  have hstored := hconverted.stored
  rw [Table.find?_eq_some.mpr ⟨hrow, hid⟩] at hstored
  exact Option.some.inj hstored

theorem taskMatches_of_linked {item : ThirdPartyItem} {request : CreateOrUpdateTaskRequest}
    {row : TaskRow} (h : Inv userId s) (hconverted : Converted userId s item request)
    (hrow : row ∈ s.db.tasks.rows) (hlinked : Linked item.id row) :
    taskMatches s.db request row = true := by
  have hitem : itemMatches s.db item.id request.sourceItem = true := by
    obtain ⟨stored, hfind, hkind⟩ := Option.map_eq_some_iff.mp hconverted.stored
    simp [itemMatches, hconverted.source, hconverted.sourceKind, hfind, hkind]
  simp only [taskMatches, Bool.and_eq_true, Bool.or_eq_true, beq_iff_eq]
  refine ⟨?_, (h.users row hrow).trans hconverted.user.symm⟩
  rcases hlinked with hsource | hsink
  · exact .inl (hsource ▸ hitem)
  · exact .inr (by rw [hsink]; exact hitem)

theorem insertRow_linked {item : ThirdPartyItem} {request : CreateOrUpdateTaskRequest}
    {id : ThirdPartyItemId} (hconverted : Converted userId s item request)
    (h : Linked id (insertRow request)) : id = item.id := by
  rcases h with hsource | hlinked
  · exact hsource.symm.trans hconverted.source
  · obtain ⟨sink, hsink, rfl⟩ := Option.map_eq_some_iff.mp hlinked
    exact hconverted.sink sink hsink

/-- A written row is linked as the row it comes from, or it is new and so are its links. -/
theorem upserted_origin {item : ThirdPartyItem} {request : CreateOrUpdateTaskRequest}
    {db : Database} (h : Inv userId s) (hconverted : Converted userId s item request)
    (hup : UpsertedTask s.db db request) :
    ∀ row ∈ db.tasks.rows,
      (∃ old ∈ s.db.tasks.rows, row.id = old.id ∧ ∀ id, Linked id row ↔ Linked id old) ∨
        (row = insertRow request ∧ ∀ old ∈ s.db.tasks.rows, ¬ Linked item.id old) := by
  intro row hrow
  rcases hup.rows row hrow with ⟨old, hold, hid, hsource, hsink⟩ | ⟨rfl, hnone⟩
  · refine .inl ⟨old, hold, hid, fun id => ?_⟩
    unfold Linked
    rw [hsource, hsink]
  · refine .inr ⟨rfl, fun old hold hlinked => ?_⟩
    have hmatch := taskMatches_of_linked h hconverted hold hlinked
    rw [hnone old hold] at hmatch
    cases hmatch

/-- The writing of a task leaves every item with one task. -/
theorem upserted_links {item : ThirdPartyItem} {request : CreateOrUpdateTaskRequest}
    {db : Database} (h : Inv userId s) (hconverted : Converted userId s item request)
    (hup : UpsertedTask s.db db request) :
    ∀ row ∈ db.tasks.rows, ∀ row' ∈ db.tasks.rows, ∀ id,
      Linked id row → Linked id row' → row = row' := by
  intro row hrow row' hrow' id hlinked hlinked'
  rcases upserted_origin h hconverted hup row hrow with ⟨old, hold, hid, hsame⟩ | ⟨rfl, hnone⟩ <;>
    rcases upserted_origin h hconverted hup row' hrow' with
      ⟨old', hold', hid', hsame'⟩ | ⟨rfl, hnone'⟩
  · have holds := h.links old hold old' hold' id ((hsame id).mp hlinked) ((hsame' id).mp hlinked')
    exact Table.eq_of_key hrow hrow' (hid.trans (holds ▸ hid'.symm))
  · rw [insertRow_linked hconverted hlinked'] at hlinked
    exact absurd ((hsame item.id).mp hlinked) (hnone' old hold)
  · rw [insertRow_linked hconverted hlinked] at hlinked'
    exact absurd ((hsame' item.id).mp hlinked') (hnone old' hold')
  · rfl

/-- After the writing of its task the synchronized item agrees with it; the other item of that
task is in `peers`. -/
theorem inv_write {item : ThirdPartyItem} {request : CreateOrUpdateTaskRequest} {db : Database}
    {peers : List ThirdPartyItemId} (h : Inv userId s)
    (hconverted : Converted userId s item request) (hup : UpsertedTask s.db db request)
    (hpeers : ∀ row ∈ s.db.tasks.rows, Linked item.id row → ∀ id, Linked id row →
      id = item.id ∨ id ∈ peers) :
    Inv userId { s with db, edited := peers ++ s.edited.filter (· ≠ item.id) } := by
  have hlinks := upserted_links h hconverted hup
  obtain ⟨written, hwritten, hlinkedWritten, hholds⟩ := hup.stored
  rw [hconverted.source] at hlinkedWritten
  -- a row of the item is the written one, any other row is as it was
  have hrows : ∀ row ∈ db.tasks.rows, row = written ∨ (row ∈ s.db.tasks.rows ∧ ¬ Linked item.id row) := by
    intro row hrow
    by_cases hlinked : Linked item.id row
    · exact .inl (hlinks row hrow written hwritten item.id hlinked hlinkedWritten)
    · exact .inr ⟨(hup.others row (by rwa [hconverted.source])).mpr hrow, hlinked⟩
  refine ⟨fun row hrow other hother hlinked hnot => ?_, hlinks, fun row hrow => ?_⟩
  · rw [List.mem_append, not_or] at hnot
    have hstored : other ∈ s.db.thirdPartyItems.rows := hup.items ▸ hother
    rcases hrows row hrow with rfl | ⟨hold, hne⟩
    · have hid : other.id = item.id := by
        rcases upserted_origin h hconverted hup row hrow with ⟨old, hold, -, hsame⟩ | ⟨rfl, -⟩
        · exact (hpeers old hold ((hsame item.id).mp hlinkedWritten) other.id
            ((hsame other.id).mp hlinked)).resolve_right hnot.1
        · exact insertRow_linked hconverted hlinked
      rw [stored_kind hconverted hstored hid, hid]
      exact agrees_of_asserts hconverted.asserts hholds
    · refine h.agreement row hold other hstored hlinked fun hmem => hnot.2 ?_
      refine List.mem_filter.mpr ⟨hmem, decide_eq_true fun hid => hne ?_⟩
      exact hid ▸ hlinked
  · rcases hrows row hrow with rfl | ⟨hold, -⟩
    · exact hholds.userId.trans hconverted.user
    · exact h.users row hold

/-- A task that already holds the request. -/
theorem inv_untouched {item : ThirdPartyItem} {request : CreateOrUpdateTaskRequest}
    (h : Inv userId s) (hconverted : Converted userId s item request)
    (hup : UpsertedTask s.db s.db request) :
    Inv userId { s with edited := s.edited.filter (· ≠ item.id) } := by
  refine ⟨fun row hrow other hother hlinked hnot => ?_, h.links, h.users⟩
  by_cases hid : other.id = item.id
  · obtain ⟨written, hwritten, hlinkedWritten, hholds⟩ := hup.stored
    rw [hconverted.source] at hlinkedWritten
    rw [h.links row hrow written hwritten item.id (hid ▸ hlinked) hlinkedWritten,
      stored_kind hconverted hother hid, hid]
    exact agrees_of_asserts hconverted.asserts hholds
  · exact h.agreement row hrow other hother hlinked fun hmem =>
      hnot (List.mem_filter.mpr ⟨hmem, decide_eq_true hid⟩)

/-- What the creation of a sink item leaves. -/
structure SinkCreated (s t : State) (task : Task) (item : ThirdPartyItem) : Prop where
  fresh : s.db.thirdPartyItems.find? item.id = none
  upstream : t.upstream = Function.update s.upstream item.id (createdFields task)
  edited : t.edited = s.edited.filter (· ≠ item.id)
  items : ∀ row, row ∈ t.db.thirdPartyItems.rows ↔
    row ∈ s.db.thirdPartyItems.rows ∨ row = ThirdPartyItemUpsert.insertRow item
  tasks : ∀ row, row ∈ t.db.tasks.rows ↔ ∃ old ∈ s.db.tasks.rows,
    (if old.id == task.id && old.userId == task.userId then linkSink item.id old else old) = row

theorem createSinkItemFromTaskWithService_cases {task : Task} {overwrite : Bool}
    {kind : ThirdPartyItemKind} {answers : SinkAnswers} {result : Except UniversalInboxError Unit}
    (h : createSinkItemFromTaskWithService s task overwrite kind answers = some (t, result)) :
    (t = s ∧ (answers.accessToken = true → answers.createTask.isOk = true →
      task.sinkItem.isSome = true ∧ overwrite = false) ∧
        (result.isOk = true → task.sinkItem.isSome = true)) ∨
      answers.createTask.isOk = true ∧ ∃ item, item.kind = kind ∧ SinkCreated s t task item := by
  unfold createSinkItemFromTaskWithService at h
  split at h
  · next htoken =>
    cases h
    exact .inl ⟨rfl, fun h => (by rw [h] at htoken; cases htoken), fun hok => by cases hok⟩
  · split at h
    · next hsink =>
      cases h
      simp only [Bool.and_eq_true, Bool.not_eq_true'] at hsink
      exact .inl ⟨rfl, fun _ _ => hsink, fun _ => hsink.1⟩
    · split at h
      · next hcreate =>
        cases h
        exact .inl ⟨rfl, fun _ hok => (by rw [hcreate] at hok; cases hok), fun hok => by cases hok⟩
      · next item hcreate =>
        split at h
        · next hnew =>
          split at h
          · cases h
          · next db status hupsert =>
            split at h
            · next hlinkable =>
              cases h
              obtain ⟨rfl, hfresh, hitems, htasks⟩ :=
                ThirdPartyItemUpsert.createOrUpdateThirdPartyItem_created
                  (Option.isNone_iff_eq_none.mp hnew.2) hupsert
              refine .inr ⟨by rw [hcreate]; rfl, item, hnew.1, hfresh, rfl, rfl, hitems,
                fun row => ?_⟩
              rw [← htasks]
              exact Table.mem_update (e := linkSink_id item.id)
            · cases h
        · cases h

section SinkCreated
variable {task : Task} {item : ThirdPartyItem}

/-- No task had the new item. -/
theorem SinkCreated.not_linked (h : SinkCreated s t task item) {row : TaskRow}
    (hrow : row ∈ s.db.tasks.rows) : ¬ Linked item.id row := by
  intro hlinked
  have hknown := linked_known hrow hlinked
  rw [h.fresh] at hknown
  cases hknown

/-- The other items of a task were its items before. -/
theorem linked_of_linkSink {row : TaskRow} {id : ThirdPartyItemId} (hne : id ≠ item.id)
    (hlinked : Linked id
      (if row.id == task.id && row.userId == task.userId then linkSink item.id row else row)) :
    Linked id row := by
  split at hlinked
  · exact hlinked.imp_right fun hsink => absurd (Option.some.inj hsink).symm hne
  · exact hlinked

/-- The new item is linked to the task only. -/
theorem SinkCreated.linked_new (h : SinkCreated s t task item) {row : TaskRow}
    (hrow : row ∈ s.db.tasks.rows)
    (hlinked : Linked item.id
      (if row.id == task.id && row.userId == task.userId then linkSink item.id row else row)) :
    row.id = task.id := by
  split at hlinked
  · next hset =>
    simp only [Bool.and_eq_true, beq_iff_eq] at hset
    exact hset.1
  · exact absurd hlinked (h.not_linked hrow)

theorem SinkCreated.links (h : SinkCreated s t task item)
    (hlinks : ∀ row ∈ s.db.tasks.rows, ∀ row' ∈ s.db.tasks.rows, ∀ id,
      Linked id row → Linked id row' → row = row') :
    ∀ row ∈ t.db.tasks.rows, ∀ row' ∈ t.db.tasks.rows, ∀ id,
      Linked id row → Linked id row' → row = row' := by
  intro row' hrow' row'' hrow'' id hlinked hlinked'
  obtain ⟨old, hold, rfl⟩ := (h.tasks row').mp hrow'
  obtain ⟨old', hold', rfl⟩ := (h.tasks row'').mp hrow''
  suffices old = old' by rw [this]
  by_cases hid : id = item.id
  · rw [hid] at hlinked hlinked'
    apply Table.eq_of_key hold hold'
    exact (h.linked_new hold hlinked).trans (h.linked_new hold' hlinked').symm
  · exact hlinks old hold old' hold' id (linked_of_linkSink hid hlinked)
      (linked_of_linkSink hid hlinked')

/-- A new sink of an active task agrees with it. -/
theorem inv_sinkCreated {row : TaskRow} {peers : List ThirdPartyItemId}
    (h : Inv userId { s with edited := peers ++ s.edited })
    (hcreated : SinkCreated s t task item) (hrow : row ∈ s.db.tasks.rows) (hid : row.id = task.id)
    (hfields : fieldsOf task = rowFields row) (hactive : row.status = .active) :
    Inv userId { t with edited := peers ++ t.edited } := by
  have hcreatedFields : createdFields task = rowFields row := by
    unfold createdFields
    rw [hfields, ← hactive]
    rfl
  refine ⟨?_, hcreated.links h.links, ?_⟩
  · intro row' hrow' other hother hlinked hnot
    obtain ⟨old, hold, rfl⟩ := (hcreated.tasks row').mp hrow'
    have hkeeps : rowFields (if old.id == task.id && old.userId == task.userId then
        linkSink item.id old else old) = rowFields old := by
      split <;> rfl
    show Agrees _ (rowFields _) (t.upstream other.id)
    rw [hkeeps, hcreated.upstream]
    by_cases hnew : other.id = item.id
    · rw [hnew] at hlinked ⊢
      have hold' := Table.eq_of_key hold hrow ((hcreated.linked_new hold hlinked).trans hid.symm)
      rw [Function.update_self, hcreatedFields, hold']
      exact Agrees.refl _ _
    · have hstored : other ∈ s.db.thirdPartyItems.rows :=
        ((hcreated.items other).mp hother).resolve_right fun heq => hnew (by rw [heq]; rfl)
      rw [Function.update_of_ne hnew]
      apply h.agreement old hold other hstored (linked_of_linkSink hnew hlinked)
      intro hmem
      apply hnot
      rw [hcreated.edited]
      rcases List.mem_append.mp hmem with hpeer | hedited
      · exact List.mem_append_left _ hpeer
      · exact List.mem_append_right _ (List.mem_filter.mpr ⟨hedited, decide_eq_true hnew⟩)
  · intro row' hrow'
    obtain ⟨old, hold, rfl⟩ := (hcreated.tasks row').mp hrow'
    split <;> exact h.users old hold

/-- The sink that a new one replaces has no task any more. -/
theorem sinkCreated_replaces {row : TaskRow} {sink : ThirdPartyItemId}
    (hlinks : ∀ row ∈ s.db.tasks.rows, ∀ row' ∈ s.db.tasks.rows, ∀ id,
      Linked id row → Linked id row' → row = row')
    (hcreated : SinkCreated s t task item) (hrow : row ∈ s.db.tasks.rows) (hid : row.id = task.id)
    (huser : row.userId = task.userId) (hsink : row.sinkItemId = some sink)
    (hsource : row.sourceItemId ≠ sink) : ∀ row' ∈ t.db.tasks.rows, ¬ Linked sink row' := by
  intro row' hrow' hlinked
  have hne : sink ≠ item.id := by
    rintro rfl
    exact hcreated.not_linked hrow (.inr hsink)
  obtain ⟨old, hold, rfl⟩ := (hcreated.tasks row').mp hrow'
  have hold' : old = row :=
    hlinks old hold row hrow sink (linked_of_linkSink hne hlinked) (.inr hsink)
  rw [hold', if_pos (by simp [hid, huser])] at hlinked
  exact hlinked.elim hsource fun h => hne (Option.some.inj h).symm

end SinkCreated

theorem inv_forget {id : ThirdPartyItemId} (h : Inv userId { s with edited := id :: s.edited })
    (hnone : ∀ row ∈ s.db.tasks.rows, ¬ Linked id row) : Inv userId s := by
  refine ⟨fun row hrow item hitem hlinked hnot => ?_, h.links, h.users⟩
  refine h.agreement row hrow item hitem hlinked fun hmem => ?_
  rcases List.mem_cons.mp hmem with rfl | hmem
  · exact hnone row hrow hlinked
  · exact hnot hmem

/-- A joined task and its row. -/
structure Joined (db : Database) (row : TaskRow) (task : Task) : Prop where
  id : task.id = row.id
  userId : task.userId = row.userId
  kind : task.kind = row.kind
  fields : fieldsOf task = rowFields row
  source : ∃ item ∈ db.thirdPartyItems.rows, item.id = row.sourceItemId ∧
    task.sourceItem = item.intoThirdPartyItem none
  sink : (row.sinkItemId = none ∧ task.sinkItem = none) ∨
    ∃ item ∈ db.thirdPartyItems.rows, row.sinkItemId = some item.id ∧
      task.sinkItem = some (item.intoThirdPartyItem none)

theorem joined_of_joinTask {db : Database} {row : TaskRow} {task : Task}
    (hrow : row ∈ db.tasks.rows) (h : db.joinTask row = some task) : Joined db row task := by
  obtain ⟨item, hitem, rfl⟩ := joinTask_eq_some h
  obtain ⟨source, hmem, hid, rfl⟩ := Table.find?_map_eq_some.mp hitem
  refine ⟨rfl, rfl, rfl, rfl, ⟨source, hmem, hid, rfl⟩, ?_⟩
  cases hsink : row.sinkItemId with
  | none => exact .inl ⟨rfl, by simp [TaskRow.intoTask]⟩
  | some sinkId =>
    obtain ⟨sink, hfind⟩ := Option.isSome_iff_exists.mp (db.task_sink row hrow sinkId hsink)
    obtain ⟨hsinkMem, rfl⟩ := Table.find?_eq_some.mp hfind
    exact .inr ⟨sink, hsinkMem, rfl, by simp [TaskRow.intoTask, Database.flatItem, hfind]⟩

/-- The updated task, against the row that was written. -/
theorem joined_updatedTask {db : Database} {request : CreateOrUpdateTaskRequest} {row : TaskRow}
    {oldTask : Task} (h : Joined s.db row oldTask) (hitems : db.thirdPartyItems = s.db.thirdPartyItems)
    (huser : row.userId = request.userId) :
    Joined db (updateRow request row) (updatedTask request oldTask) := by
  refine ⟨h.id, huser.symm, h.kind, ?_, ?_, ?_⟩
  · have hold := h.fields
    simp only [fieldsOf, rowFields, TaskFields.mk.injEq] at hold
    obtain ⟨-, htitle, -, -, hdue, hproject⟩ := hold
    simp only [fieldsOf, rowFields, updateRow, written_eq_valueOr, updatedTask, requestedTask,
      CreateOrUpdateTaskRequest.intoTask, htitle, hdue, hproject]
  · rw [hitems]
    exact h.source
  · rw [hitems]
    exact h.sink

theorem createSinkItemFromTask_cases {task : Task} {overwrite : Bool}
    {kind : IntegrationProviderKind} {answers : SinkAnswers}
    {result : Except UniversalInboxError Unit}
    (h : createSinkItemFromTask s task overwrite kind answers = some (t, result)) :
    (t = s ∧ (kind.isTaskService = true → answers.accessToken = true →
      answers.createTask.isOk = true → task.sinkItem.isSome = true ∧ overwrite = false) ∧
        (result.isOk = true → task.sinkItem.isSome = true)) ∨
      answers.createTask.isOk = true ∧ ∃ item,
        (item.kind = .todoistItem ∨ item.kind = .tickTickItem) ∧ SinkCreated s t task item := by
  unfold createSinkItemFromTask at h
  split at h
  · rcases createSinkItemFromTaskWithService_cases h with ⟨hsame, hno, hok⟩ | ⟨hok, item, hkind, hsink⟩
    · exact .inl ⟨hsame, fun _ => hno, hok⟩
    · exact .inr ⟨hok, item, .inl hkind, hsink⟩
  · rcases createSinkItemFromTaskWithService_cases h with ⟨hsame, hno, hok⟩ | ⟨hok, item, hkind, hsink⟩
    · exact .inl ⟨hsame, fun _ => hno, hok⟩
    · exact .inr ⟨hok, item, .inr hkind, hsink⟩
  · next hTodoist hTickTick =>
    cases h
    refine .inl ⟨rfl, fun hkind => ?_, fun hok => by cases hok⟩
    simp only [IntegrationProviderKind.isTaskService, Bool.or_eq_true, beq_iff_eq] at hkind
    exact absurd hkind (not_or.mpr ⟨hTodoist, hTickTick⟩)

/-- A sink created, or not, for a task that has none. -/
theorem inv_createSink {task : Task} {kind : IntegrationProviderKind} {answers : SinkAnswers}
    {result : Except UniversalInboxError Unit} {row : TaskRow} (h : Inv userId s)
    (hcreate : createSinkItemFromTask s task false kind answers = some (t, result))
    (hrow : row ∈ s.db.tasks.rows) (hid : row.id = task.id) (hfields : fieldsOf task = rowFields row)
    (hactive : answers.createTask.isOk = true → row.status = .active) : Inv userId t := by
  rcases createSinkItemFromTask_cases hcreate with ⟨rfl, -⟩ | ⟨hok, item, -, hcreated⟩
  · exact h
  · exact @inv_sinkCreated userId s t task item row [] h hcreated hrow hid hfields (hactive hok)

theorem taskPatch_status {newTask oldTask : Task} {status : TaskStatus}
    (h : status ∈ (taskPatch newTask oldTask).status) :
    status = newTask.status ∧ newTask.status ≠ oldTask.status := by
  simp only [taskPatch, Option.mem_def, Option.ite_none_right_eq_some, bne_iff_ne, ne_eq,
    Option.some.injEq] at h
  exact ⟨h.2.symm, h.1⟩

/-- The call for the other item under the guard: it leaves the item agreeing with the updated
task, or finds no item to update. -/
theorem call_of_guard {x : SyncedItem} {request : CreateOrUpdateTaskRequest} {row : TaskRow}
    {peer : ThirdPartyItemRow} {newTask oldTask : Task} {upstream : ThirdPartyItemId → TaskFields}
    (hnewStatus : newTask.status = request.status) (holdStatus : oldTask.status = row.status)
    (hguard : PeerSucceeds x request row peer ∨ DeletesGone upstream x request peer ∨
      ReplacesGone x request row peer) :
    (∃ u, applyTaskThirdPartyItemSideEffect false (taskPatch newTask oldTask) peer.data.kind x.peer
        (upstream peer.id) = (u, .ok ()) ∧
      (Agrees peer.data.kind (fieldsOf oldTask) (upstream peer.id) →
        Agrees peer.data.kind (fieldsOf newTask) u)) ∨
    (ReplacesGone x request row peer ∧
      ∃ message, applyTaskThirdPartyItemSideEffect false (taskPatch newTask oldTask) peer.data.kind
        x.peer (upstream peer.id) = (upstream peer.id, .error (.itemNotFound message))) := by
  have hstatus : ∀ status ∈ (taskPatch newTask oldTask).status, status = request.status :=
    fun status hmem => (taskPatch_status hmem).1.trans hnewStatus
  have hpatched : ∀ {u}, Agrees .todoistItem (fieldsOf oldTask) u →
      Agrees .todoistItem (fieldsOf newTask) ((taskPatch newTask oldTask).apply u) := by
    intro u hold
    exact (congrArg (taskPatch newTask oldTask).apply hold).trans (taskPatch_apply newTask oldTask)
  rcases hguard with ⟨hsucceed, huncomplete⟩ | hgone | hgone
  · have hactive : peer.data.kind = .tickTickItem →
        (taskPatch newTask oldTask).status ≠ some .active := by
      intro htick hpatch
      have hrequest := (hstatus _ hpatch).symm
      refine (taskPatch_status hpatch).2 ?_
      rw [hnewStatus, hrequest, holdStatus]
      exact (huncomplete htick hrequest).symm
    obtain ⟨u, hcall, hkeeps⟩ := @agrees_of_succeed (upstream peer.id) (fieldsOf oldTask)
      (taskPatch newTask oldTask) x.peer peer.data.kind hsucceed hactive
    rw [taskPatch_apply] at hkeeps
    exact .inl ⟨u, hcall, hkeeps⟩
  · rw [hgone.kind]
    exact .inl ⟨_, todoist_deleteGone hgone.accessToken hgone.delete hgone.project hgone.update
      (fun status hmem => (hstatus status hmem).trans hgone.status) hgone.gone, hpatched⟩
  · rcases @todoist_notFound (upstream peer.id) x.peer.todoist (taskPatch newTask oldTask)
      hgone.accessToken hgone.delete hgone.project hgone.update
      (fun status hmem => (hstatus status hmem).trans hgone.status) with
      ⟨hnothing, hcall⟩ | hcall
    · rw [hgone.kind]
      refine .inl ⟨upstream peer.id, hcall, fun hold => ?_⟩
      rw [← hnothing]
      exact hpatched hold
    · refine .inr ⟨hgone, ?_⟩
      rw [hgone.kind]
      exact hcall

/-- The replacement of a sink that is gone. -/
theorem inv_replaceSink {x : SyncedItem} {row : TaskRow} {peer : ThirdPartyItemRow} {newTask : Task}
    {kind : IntegrationProviderKind} {result : Except UniversalInboxError Unit}
    (h : Inv userId { s with edited := peer.id :: s.edited }) (hrow : row ∈ s.db.tasks.rows)
    (hlinked : Linked peer.id row) (hother : row.sourceItemId ≠ peer.id)
    (hnew : Joined s.db row newTask) (hactive : row.status = .active)
    (hprovider : kind.isTaskService = true) (htoken : x.sink.accessToken = true)
    (hcreated : x.sink.createTask.isOk = true)
    (hcreate : createSinkItemFromTask s newTask true kind x.sink = some (t, result)) :
    Inv userId t := by
  rcases createSinkItemFromTask_cases hcreate with ⟨-, hno, -⟩ | ⟨-, item, -, hsink⟩
  · cases (hno hprovider htoken hcreated).2
  · have hinv := @inv_sinkCreated userId s t newTask item row [peer.id] h hsink hrow hnew.id.symm
      hnew.fields hactive
    exact inv_forget hinv (@sinkCreated_replaces s t newTask item row peer.id h.links hsink hrow
      hnew.id.symm hnew.userId.symm (hlinked.resolve_left hother) hother)

/-- The update of the other item of a task whose row is written. -/
theorem inv_updatePeer {x : SyncedItem} {request : CreateOrUpdateTaskRequest}
    {row row' : TaskRow} {peer : ThirdPartyItemRow} {newTask oldTask : Task}
    {result : Except UniversalInboxError Unit}
    (h : Inv userId { s with edited := peer.id :: s.edited })
    (hpeer : peer ∈ s.db.thirdPartyItems.rows) (hrow : row' ∈ s.db.tasks.rows)
    (hlinked : Linked peer.id row') (hne : peer.id ≠ x.item.id)
    (hnew : Joined s.db row' newTask) (hnewStatus : newTask.status = request.status)
    (holdStatus : oldTask.status = row.status) (hsource : row'.sourceItemId = row.sourceItemId)
    (hkind : newTask.kind = row.kind)
    (hagrees : peer.id ∉ s.edited → Agrees peer.data.kind (fieldsOf oldTask) (s.upstream peer.id))
    (hguard : PeerGuard isTesting s.upstream x request row peer)
    (hupdate : updatePeer isTesting s newTask oldTask (peer.intoThirdPartyItem none)
      (resolveSinkProviderKind x.sinkProviderKindHint x.defaultTaskManagerProviderKind) x =
        some (t, result)) : Inv userId t := by
  obtain ⟨rfl, hcalls⟩ := hguard
  unfold updatePeer at hupdate
  rw [show (peer.intoThirdPartyItem none).kind = peer.data.kind from rfl,
    show (peer.intoThirdPartyItem none).id = peer.id from rfl] at hupdate
  rcases call_of_guard hnewStatus holdStatus hcalls with
    ⟨u, hcall, hkeeps⟩ | ⟨hgone, message, hcall⟩
  · rw [hcall] at hupdate
    cases hupdate
    refine inv_settle h fun row'' hrow'' item hitem hid hlinked'' hnot => ?_
    rw [h.links row'' hrow'' row' hrow peer.id hlinked'' hlinked,
      Table.eq_of_key hitem hpeer hid, ← hnew.fields]
    exact hkeeps (hagrees hnot)
  · rw [hcall] at hupdate
    simp only [Function.update_eq_self] at hupdate
    rw [if_neg (by simp [hkind, hgone.taskKind])] at hupdate
    have hother : row'.sourceItemId ≠ peer.id := fun hsame =>
      hne (hsame.symm.trans (hsource.trans hgone.source))
    have hactive : row'.status = .active :=
      (congrArg TaskFields.status hnew.fields).symm.trans (hnewStatus.trans hgone.status)
    exact inv_replaceSink h hrow hlinked hother hnew hactive hgone.provider hgone.sinkAccessToken
      hgone.created hupdate

/-- The synced item of an updated task is its only one, and it may get a sink, or its other item
is called. -/
theorem applySyncedTaskSideEffect_updated {x : SyncedItem} {row : TaskRow} {newTask oldTask : Task}
    {kind : IntegrationProviderKind} {result : Except UniversalInboxError Unit}
    (hjoined : Joined s.db row newTask) (hlinked : Linked x.item.id row)
    (h : applySyncedTaskSideEffect isTesting s x (.updated newTask oldTask) kind =
      some (t, result)) :
    ((∀ id, Linked id row → id = x.item.id) ∧
      (t = s ∨ createSinkItemFromTask s newTask false kind x.sink = some (t, result))) ∨
    ∃ peer ∈ s.db.thirdPartyItems.rows, Linked peer.id row ∧ peer.id ≠ x.item.id ∧
      (∀ id, Linked id row → id = x.item.id ∨ id = peer.id) ∧
      updatePeer isTesting s newTask oldTask (peer.intoThirdPartyItem none) kind x =
        some (t, result) := by
  unfold applySyncedTaskSideEffect at h
  obtain ⟨source, hsource, hsourceId, hsourceItem⟩ := hjoined.source
  rcases hjoined.sink with ⟨hnoSink, hnoSinkItem⟩ | ⟨sink, hsink, hsinkId, hsinkItem⟩
  · have hsourceOnly : ∀ id, Linked id row → row.sourceItemId = id := by
      intro id hid
      exact hid.resolve_right (by rw [hnoSink]; exact nofun)
    refine .inl ⟨fun id hid => (hsourceOnly id hid).symm.trans (hsourceOnly _ hlinked), ?_⟩
    simp only [hnoSinkItem] at h
    split at h
    · cases h
      exact .inl rfl
    · exact .inr h
  · have hboth : ∀ id, Linked id row → id = source.id ∨ id = sink.id := by
      rintro id (hid | hid)
      · exact .inl (hid.symm.trans hsourceId.symm)
      · rw [hsinkId] at hid
        exact .inr (Option.some.inj hid).symm
    simp only [hsinkItem, hsourceItem] at h
    split at h
    · next hself =>
      cases h
      have hself : source.id = sink.id := beq_iff_eq.mp hself
      have hsinkOnly : ∀ id, Linked id row → id = sink.id := by
        intro id hid
        exact (hboth id hid).elim (·.trans hself) fun hsame => hsame
      exact .inl ⟨fun id hid => (hsinkOnly id hid).trans (hsinkOnly _ hlinked).symm, .inl rfl⟩
    · next hself =>
      have hself : source.id ≠ sink.id := fun hsame => hself (beq_iff_eq.mpr hsame)
      split at h
      · next hsynced =>
        have hsynced : source.id = x.item.id := beq_iff_eq.mp hsynced
        exact .inr ⟨sink, hsink, .inr hsinkId, fun hsame => hself (hsynced.trans hsame.symm),
          fun id hid => (hboth id hid).imp_left (·.trans hsynced), h⟩
      · next hnotSource =>
        split at h
        · next hsynced =>
          have hsynced : sink.id = x.item.id := beq_iff_eq.mp hsynced
          exact .inr ⟨source, hsource, .inl hsourceId.symm,
            fun hsame => hself (hsame.trans hsynced.symm),
            fun id hid => (hboth id hid).symm.imp_left (·.trans hsynced), h⟩
        · next hnotSink =>
          rcases hboth _ hlinked with hsame | hsame
          · exact absurd (beq_iff_eq.mpr hsame.symm) hnotSource
          · exact absurd (beq_iff_eq.mpr hsame.symm) hnotSink

/-- The side effect of a task that was updated. -/
theorem inv_updated {x : SyncedItem} {request : CreateOrUpdateTaskRequest} {db : Database}
    {row : TaskRow} {oldTask : Task} {result : Except UniversalInboxError Unit}
    (h : Inv userId s) (hconverted : Converted userId s x.item request)
    (hup : UpsertedTask s.db db request) (hrow : row ∈ s.db.tasks.rows)
    (hlinked : Linked x.item.id row) (hwritten : updateRow request row ∈ db.tasks.rows)
    (hold : Joined s.db row oldTask)
    (hactive : x.sink.createTask.isOk = true → request.status = .active)
    (hguard : ∀ peer ∈ s.db.thirdPartyItems.rows, Linked peer.id row → peer.id ≠ x.item.id →
      PeerGuard isTesting s.upstream x request row peer)
    (heffect : applySyncedTaskSideEffect isTesting
      { s with db, edited := s.edited.filter (· ≠ x.item.id) } x
      (.updated (updatedTask request oldTask) oldTask)
      (resolveSinkProviderKind x.sinkProviderKindHint x.defaultTaskManagerProviderKind) =
        some (t, result)) : Inv userId t := by
  have huser : row.userId = request.userId := (h.users row hrow).trans hconverted.user.symm
  have hnew : Joined db (updateRow request row) (updatedTask request oldTask) :=
    joined_updatedTask hold hup.items huser
  have honly : ∀ row' ∈ s.db.tasks.rows, Linked x.item.id row' → row' = row :=
    fun row' hrow' hlinked' => h.links row' hrow' row hrow x.item.id hlinked' hlinked
  rcases applySyncedTaskSideEffect_updated
      (s := { s with db, edited := s.edited.filter (· ≠ x.item.id) }) hnew hlinked heffect with
    ⟨hall, hcreate⟩ | ⟨peer, hpeer, hpeerLinked, hne, hall, hupdate⟩
  · have hinv := @inv_write userId s x.item request db [] h hconverted hup
      fun row' hrow' hlinked' id hid => .inl (hall id (honly row' hrow' hlinked' ▸ hid))
    rcases hcreate with rfl | hcreate
    · exact hinv
    · exact inv_createSink hinv hcreate hwritten hnew.id.symm hnew.fields hactive
  · have hpeer' : peer ∈ s.db.thirdPartyItems.rows := hup.items ▸ hpeer
    have hinv := @inv_write userId s x.item request db [peer.id] h hconverted hup
      fun row' hrow' hlinked' id hid =>
        (hall id (honly row' hrow' hlinked' ▸ hid)).imp_right List.mem_singleton.mpr
    refine inv_updatePeer
      (s := { s with db, edited := s.edited.filter (· ≠ x.item.id) }) hinv hpeer hwritten
      hpeerLinked hne hnew rfl (congrArg TaskFields.status hold.fields) rfl hold.kind (fun hnot => ?_)
      (hguard peer hpeer' hpeerLinked hne) hupdate
    rw [hold.fields]
    apply h.agreement row hrow peer hpeer' hpeerLinked
    intro hmem
    exact hnot (List.mem_filter.mpr ⟨hmem, decide_eq_true hne⟩)

/-- The side effect of a task that was written, under the guard. -/
theorem inv_sideEffect {x : SyncedItem} {request : CreateOrUpdateTaskRequest} {db : Database}
    {upsertTask : UpsertStatus Task} {result : Except UniversalInboxError Unit}
    (h : Inv userId s) (hconverted : Converted userId s x.item request)
    (hactive : x.sink.createTask.isOk = true → request.status = .active)
    (hguard : ∀ row ∈ s.db.tasks.rows, Linked x.item.id row →
      ∀ peer ∈ s.db.thirdPartyItems.rows, Linked peer.id row → peer.id ≠ x.item.id →
        PeerGuard isTesting s.upstream x request row peer)
    (hupsert : createOrUpdateTask s.db (scan s.db) request = .ok (db, upsertTask))
    (heffect : applySyncedTaskSideEffect isTesting
      { s with db, edited := s.edited.filter (· ≠ x.item.id) } x upsertTask
      (resolveSinkProviderKind x.sinkProviderKindHint x.defaultTaskManagerProviderKind) =
        some (t, result)) : Inv userId t := by
  have hup := createOrUpdateTask_upserted hupsert
  rcases createOrUpdateTask_status hupsert with
    ⟨rfl, task, rfl⟩ | ⟨row, hrow, hlinked, hwritten, oldTask, hjoin, rfl⟩ | ⟨hnone, hwritten, rfl⟩
  · cases heffect
    exact inv_untouched h hconverted hup
  · rw [hconverted.source] at hlinked
    exact inv_updated h hconverted hup hrow hlinked hwritten (joined_of_joinTask hrow hjoin) hactive
      (hguard row hrow hlinked) heffect
  · have hinv := @inv_write userId s x.item request db [] h hconverted hup
      fun row hrow hlinked => by
        have hmatch := taskMatches_of_linked h hconverted hrow hlinked
        rw [hnone row hrow] at hmatch
        cases hmatch
    unfold applySyncedTaskSideEffect at heffect
    dsimp only at heffect
    split at heffect
    · cases heffect
      exact hinv
    · exact inv_createSink hinv heffect hwritten rfl rfl hactive

theorem inv_sync {x : SyncedItem} {result : Except UniversalInboxError Unit} (h : Inv userId s)
    (hsync : syncItem scan userId isTesting s x = some (t, result))
    (hguard : ItemGuard isTesting x s) : Inv userId t := by
  unfold syncItem createTaskFromThirdPartyItem syncThirdPartyItemAsTask at hsync
  split at hsync
  · next hconverted =>
    split at hsync
    · cases hsync
      exact h
    · next hconnected =>
      split at hsync
      · cases hsync
        exact h
      · next request hrequest =>
        have hmem : request ∈ x.request.toOption := by
          rw [hrequest]
          rfl
        obtain ⟨hactive, hpeers⟩ := hguard (by simpa using hconnected) request hmem
        split at hsync
        · cases hsync
        · next db upsertTask hupsert =>
          split at hsync
          · next s' heffect =>
            cases hsync
            exact inv_sideEffect h (hconverted request hmem) hactive hpeers hupsert heffect
          · next heffect =>
            exact inv_sideEffect h (hconverted request hmem) hactive hpeers hupsert hsync
  · cases hsync

theorem inv_step {i : Input} (h : Inv userId s) (hstep : step scan userId isTesting s i = some t)
    (hguard : SyncGuard isTesting s i) : Inv userId t := by
  cases i with
  | edit id fields =>
    cases hstep
    exact inv_edit h id fields
  | store item =>
    simp only [step] at hstep
    split at hstep
    · next hstore =>
      cases hstep
      exact inv_store h hstore
    · cases hstep
  | sync x =>
    obtain ⟨⟨t', result⟩, hsync, rfl⟩ := Option.map_eq_some_iff.mp hstep
    exact inv_sync h hsync hguard

end Step

def initial (upstream : ThirdPartyItemId → TaskFields) : State :=
  ⟨Database.empty, upstream, []⟩

/-- The conversion of a Todoist item asserts every field. -/
theorem asserts_buildTaskWithProjectName (id : TaskId) (source : TodoistItem) (projectName : String)
    (item : ThirdPartyItem) (userId : UserId) :
    Asserts .todoistItem
      (TodoistSync.buildTaskWithProjectName id source projectName item userId)
      { status := TodoistSync.taskStatus source
        title := source.content
        body := source.description
        priority := TodoistSync.taskPriority source.priority
        dueAt := source.due.map (·.date)
        project := projectName } :=
  ⟨rfl, rfl, rfl, rfl, rfl, rfl⟩

section CompletedIssue

def issueItem : ThirdPartyItem :=
  { id := ⟨1⟩, sourceId := "LIN-1", data := .linearIssue "", createdAt := 0, updatedAt := 0,
    userId := ⟨1⟩, integrationConnectionId := ⟨1⟩, sourceItem := none }

def sinkItem : ThirdPartyItem :=
  { id := ⟨2⟩, sourceId := "a", data := .todoistItem (TodoistSync.todoistItem "a" "Issue"),
    createdAt := 0, updatedAt := 0, userId := ⟨1⟩, integrationConnectionId := ⟨2⟩,
    sourceItem := none }

def issueFields (status : TaskStatus) : TaskFields :=
  { status, title := "Issue", body := "", priority := .p4, dueAt := none, project := "Inbox" }

def issueRequest (status : TaskStatus) : CreateOrUpdateTaskRequest :=
  { id := ⟨1⟩, title := ⟨"Issue", none⟩, body := "", status, completedAt := none,
    priority := .p4, dueAt := ⟨none, none⟩, tags := [], parentId := none,
    project := ⟨"Inbox", none⟩, isRecurring := false, createdAt := 0, updatedAt := 0,
    kind := .linear, sourceItem := issueItem, sinkItem := none, userId := ⟨1⟩ }

def todoistOk : TodoistAnswer := ⟨true, [], false⟩

/-- The request is not executed, and is not answered. -/
def todoistDown : TodoistAnswer := ⟨false, [.error 503], false⟩

def answeredBy (status : TodoistAnswer) : PeerAnswers :=
  { todoist := ⟨true, status, .ok (), todoistOk⟩
    tickTick := ⟨true, .ok, .ok (), .ok⟩
    linear := .ok
    slack := ⟨true, .ok, none⟩ }

def issueSync (status : TaskStatus) (created : Except UniversalInboxError ThirdPartyItem)
    (answer : TodoistAnswer) : SyncedItem :=
  { item := issueItem
    connected := true
    request := .ok (issueRequest status)
    sinkProviderKindHint := none
    defaultTaskManagerProviderKind := none
    peer := answeredBy answer
    sink := ⟨true, created, .ok ()⟩
    afterSideEffect := .ok () }

/-- An issue gets a task and a Todoist item, and is completed. Its sync calls Todoist, which
answers `answer`, and the same sync comes again. -/
def completedIssueRun (answer : TodoistAnswer) : List Input :=
  [.edit ⟨1⟩ (issueFields .active), .store issueItem,
    .sync (issueSync .active (.ok sinkItem) todoistOk),
    .edit ⟨1⟩ (issueFields .done),
    .sync (issueSync .done (.error (.unexpected "")) answer),
    .sync (issueSync .done (.error (.unexpected "")) todoistOk)]

end CompletedIssue

end UniversalInbox.Propagation
