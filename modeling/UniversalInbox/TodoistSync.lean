import UniversalInbox.ThirdPartyItemUpsert
import UniversalInbox.Library.ChangeLog
import UniversalInbox.Library.Transition

/-! The incremental sync of Todoist tasks. The provider is a log of changes and its sync token a
position in it. The transaction of a sync stores the new token first, then the items, then one
task after the other; a call to a provider that fails ends it early, and what it has written is
committed all the same. -/
namespace UniversalInbox.TodoistSync
open Transition TaskUpsert
open ThirdPartyItemUpsert (createOrUpdateThirdPartyItem createOrUpdateThirdPartyItem_upserted)

structure TodoistLabelDefinition where
  name : String
  color : TodoistColor
  isDeleted : Bool
deriving DecidableEq, Repr

/-- The map a later definition of a name overrides. -/
def buildLabelColorIndex (labels : List TodoistLabelDefinition) : List (String × TodoistColor) :=
  (labels.filter (!·.isDeleted)).reverse.map fun label => (label.name, label.color)

def hydrateItemLabelColors (index : List (String × TodoistColor)) (item : TodoistItem) :
    TodoistItem :=
  { item with
    labels := item.labels.map fun label =>
      { label with color := (index.lookup label.name).getD label.color } }

/-- The item as the Sync API returns it: label colours come from elsewhere. -/
def withoutColors (item : TodoistItem) : TodoistItem :=
  { item with labels := item.labels.map fun label => .fromName label.name }

theorem withoutColors_hydrate (index : List (String × TodoistColor)) (item : TodoistItem) :
    withoutColors (hydrateItemLabelColors index item) = withoutColors item := by
  simp [withoutColors, hydrateItemLabelColors, Function.comp_def]

/-- The owner of the synchronized items. -/
structure Account where
  userId : UserId
  integrationConnectionId : IntegrationConnectionId
deriving DecidableEq, Repr

/-- The fresh identifier and the two clock readings of a converted item. -/
structure Stamp where
  id : ThirdPartyItemId
  createdAt : DateTime
  updatedAt : DateTime
deriving DecidableEq, Repr

/-- `with_nanosecond(0)`. -/
def wholeSeconds (t : DateTime) : DateTime := t - t % 1000000000

def intoThirdPartyItem (account : Account) (stamp : Stamp) (item : TodoistItem) : ThirdPartyItem :=
  { id := stamp.id
    sourceId := item.id
    data := .todoistItem item
    createdAt := wholeSeconds stamp.createdAt
    updatedAt := wholeSeconds stamp.updatedAt
    userId := account.userId
    integrationConnectionId := account.integrationConnectionId
    sourceItem := none }

/-- Todoist counts its priorities the other way. -/
def taskPriority : TodoistItemPriority → TaskPriority
  | .p1 => .p4
  | .p2 => .p3
  | .p3 => .p2
  | .p4 => .p1

def taskStatus (source : TodoistItem) : TaskStatus :=
  if source.checked then .done else if source.isDeleted then .deleted else .active

def todoistInboxProject : String := "Inbox"

def buildTaskWithProjectName (id : TaskId) (source : TodoistItem) (projectName : String)
    (sourceThirdPartyItem : ThirdPartyItem) (userId : UserId) : CreateOrUpdateTaskRequest :=
  { id
    title := { defaultValue := source.content, value := some source.content }
    body := source.description
    status := taskStatus source
    completedAt := source.completedAt
    priority := taskPriority source.priority
    dueAt := { defaultValue := none, value := some (source.due.map (·.date)) }
    tags := source.labels.map (·.name)
    parentId := none
    project := { defaultValue := todoistInboxProject, value := some projectName }
    isRecurring := (source.due.map (·.isRecurring)).getD false
    createdAt := source.addedAt
    updatedAt := sourceThirdPartyItem.updatedAt
    kind := .todoist
    sourceItem := sourceThirdPartyItem
    sinkItem := some sourceThirdPartyItem
    userId }

structure TodoistProject where
  id : String
  name : String
deriving DecidableEq, Repr

/-- What the calls made for one item come to: whether the connection is still validated with a
usable token, the projects, and everything that follows the upsert of the task. -/
structure TaskAnswers where
  connected : Bool
  projects : Except UniversalInboxError (List TodoistProject)
  taskId : TaskId
  afterUpsert : Except UniversalInboxError Unit

/-- How a sync ends early: a failed call leaves the transaction usable, a failed statement makes
Postgres roll it back at its `COMMIT`. -/
inductive Interruption where
  | failed (error : UniversalInboxError) (db : Database)
  | aborted

section Sync
variable (scan : (db : Database) → TaskScan db) (account : Account)

def thirdPartyItemIntoTask (source : TodoistItem) (item : ThirdPartyItem) (answers : TaskAnswers) :
    Except UniversalInboxError CreateOrUpdateTaskRequest :=
  answers.projects.map fun projects =>
    buildTaskWithProjectName answers.taskId source
      (((projects.find? (·.id == source.projectId)).map (·.name)).getD "No project") item
      account.userId

/-- One item of the loop over the tasks. Only a task that was modified has side effects. -/
def createTaskFromThirdPartyItem (db : Database) (item : ThirdPartyItem) (answers : TaskAnswers) :
    Except Interruption Database :=
  if !answers.connected then
    .error (.failed (.unexpected s!"No validated Todoist integration found for user {account.userId.uuid}, cannot create third party item") db)
  else
    match item.data with
    | .todoistItem source =>
      match thirdPartyItemIntoTask account source item answers with
      | .error error => .error (.failed error db)
      | .ok request =>
        match createOrUpdateTask db (scan db) request with
        | .error _ => .error .aborted
        | .ok (db', .untouched _) => .ok db'
        | .ok (db', _) =>
          match answers.afterUpsert with
          | .ok () => .ok db'
          | .error error => .error (.failed error db')
    | _ => .error (.failed
        (.unexpected s!"Unexpected third party item kind for third party item {item.id.uuid}") db)

def createTasks (db : Database) : List (ThirdPartyItem × TaskAnswers) → Except Interruption Database
  | [] => .ok db
  | (item, answers) :: rest =>
    match createTaskFromThirdPartyItem scan account db item answers with
    | .error interruption => .error interruption
    | .ok db' => createTasks db' rest

/-- `sync_items`, for an incremental source. -/
def syncItems (db : Database) :
    List ThirdPartyItem → Except UniversalInboxError (Database × List ThirdPartyItem)
  | [] => .ok (db, [])
  | item :: rest =>
    match createOrUpdateThirdPartyItem db item with
    | .error error => .error error
    | .ok (db', status) =>
      match syncItems db' rest with
      | .error error => .error error
      | .ok (db'', items) => .ok (db'', status.value :: items)

structure SyncedItem where
  item : TodoistItem
  stamp : Stamp
  answers : TaskAnswers

/-- A sync whose items response was received: its items, the label definitions when they could
be fetched, and whether the final `COMMIT` succeeds. -/
structure AnsweredSync where
  items : Option (List SyncedItem)
  labels : Option (List TodoistLabelDefinition)
  commits : Bool

/-- What follows the storing of the token in the sync transaction. -/
def upsertThirdPartyTasks (db : Database) (sync : AnsweredSync) : Except Interruption Database :=
  match sync.items with
  | none => .error (.failed (.unexpected "Todoist response should include `items`") db)
  | some items =>
    let index := (sync.labels.map buildLabelColorIndex).getD []
    match syncItems db (items.map fun x =>
        intoThirdPartyItem account x.stamp (hydrateItemLabelColors index x.item)) with
    | .error _ => .error .aborted
    | .ok (db', values) => createTasks scan account db' (values.zip (items.map (·.answers)))

/-- The log of the provider, what is stored, and the position of the stored sync token. -/
structure State where
  log : List TodoistItem
  db : Database
  itemsSyncToken : Option Nat

/-- `change` is a change of an item at the provider, `unanswered` a sync that fails before it
has a response. -/
inductive Input where
  | change (item : TodoistItem)
  | unanswered
  | sync (sync : AnsweredSync)

/-- Where the response starts; without a token it is a full sync. -/
def cursor (s : State) : Nat := s.itemsSyncToken.getD 0

def Answered (s : State) (sync : AnsweredSync) : Prop :=
  ∀ items ∈ sync.items, ChangeLog.Answers TodoistItem.id s.log (cursor s) (items.map (·.item))

instance (s : State) (sync : AnsweredSync) : Decidable (Answered s sync) :=
  inferInstanceAs (Decidable (∀ _ ∈ _, _))

/-- The token that comes with a response is the end of the log. -/
def step (s : State) : Input → Option State
  | .change item => some { s with log := s.log ++ [item] }
  | .unanswered => some s
  | .sync sync =>
    if Answered s sync then
      if sync.commits then
        match upsertThirdPartyTasks scan account s.db sync with
        | .ok db | .error (.failed _ db) => some { s with db, itemsSyncToken := some s.log.length }
        | .error .aborted => some s
      else some s
    else none

end Sync

def initial : State := ⟨[], Database.empty, none⟩

def HoldsItem (item : TodoistItem) : ThirdPartyItemData → Prop
  | .todoistItem stored => withoutColors stored = withoutColors item
  | _ => False

instance (item : TodoistItem) : ∀ data, Decidable (HoldsItem item data)
  | .todoistItem _ => inferInstanceAs (Decidable (_ = _))
  | .tickTickItem _ | .slackReaction _ | .slackThread _ | .linearIssue _ | .linearNotification _
  | .githubNotification _ | .googleMailThread _ | .googleCalendarEvent _ | .googleDriveComment _
  | .webPage _ => .isFalse not_false

def StoresItem (account : Account) (item : TodoistItem) (row : ThirdPartyItemRow) : Prop :=
  row.sourceId = item.id ∧ row.userId = account.userId ∧
    row.integrationConnectionId = account.integrationConnectionId ∧ HoldsItem item row.data

instance (account : Account) (item : TodoistItem) (row : ThirdPartyItemRow) :
    Decidable (StoresItem account item row) := inferInstanceAs (Decidable (_ ∧ _))

/-- The row shows the item as a task. -/
structure Shows (item : TodoistItem) (row : TaskRow) : Prop where
  title : row.title = item.content
  body : row.body = item.description
  status : row.status = taskStatus item
  priority : row.priority = taskPriority item.priority
  dueAt : row.dueAt = item.due.map (·.date)
  tags : row.tags = item.labels.map (·.name)
  isRecurring : row.isRecurring = (item.due.map (·.isRecurring)).getD false

instance (item : TodoistItem) (row : TaskRow) : Decidable (Shows item row) :=
  decidable_of_iff
    (row.title = item.content ∧ row.body = item.description ∧ row.status = taskStatus item ∧
      row.priority = taskPriority item.priority ∧ row.dueAt = item.due.map (·.date) ∧
      row.tags = item.labels.map (·.name) ∧
      row.isRecurring = (item.due.map (·.isRecurring)).getD false)
    ⟨fun ⟨a, b, c, d, e, f, g⟩ => ⟨a, b, c, d, e, f, g⟩,
      fun ⟨a, b, c, d, e, f, g⟩ => ⟨a, b, c, d, e, f, g⟩⟩

/-- The task of the item stored under `id` shows the item. -/
def TaskStored (account : Account) (db : Database) (item : TodoistItem) (id : ThirdPartyItemId) :
    Prop :=
  ∃ row ∈ db.tasks.rows, (row.sourceItemId = id ∨ row.sinkItemId = some id) ∧
    row.userId = account.userId ∧ Shows item row

instance (account : Account) (db : Database) (item : TodoistItem) (id : ThirdPartyItemId) :
    Decidable (TaskStored account db item id) := inferInstanceAs (Decidable (∃ _ ∈ _, _))

def Reflected (account : Account) (db : Database) (item : TodoistItem) : Prop :=
  ∃ row ∈ db.thirdPartyItems.rows, StoresItem account item row ∧ TaskStored account db item row.id

instance (account : Account) (db : Database) (item : TodoistItem) :
    Decidable (Reflected account db item) := inferInstanceAs (Decidable (∃ _ ∈ _, _))

/-- Whatever response the stored token came with, everything it and the responses before it
reported is stored: of each item the version current when that token was given out. -/
def NoItemLost (account : Account) (s : State) : Prop :=
  ∀ token ∈ s.itemsSyncToken, ∀ item ∈ s.log.take token,
    ChangeLog.latest TodoistItem.id (s.log.take token) item.id = some item →
      Reflected account s.db item

instance (account : Account) (s : State) : Decidable (NoItemLost account s) :=
  inferInstanceAs (Decidable (∀ _ ∈ _, _))

/-- Once the response was received, no call fails before the task of the last item is stored,
and the response has the items there are; unless the transaction does not commit. -/
def SyncGuard (s : State) : Input → Prop
  | .sync sync => sync.commits = true →
      (sync.items = none → s.log.drop (cursor s) = []) ∧
      ∀ items ∈ sync.items,
        (∀ x ∈ items, x.answers.connected = true ∧ x.answers.projects.isOk = true) ∧
          ∀ x ∈ items.dropLast, x.answers.afterUpsert.isOk = true
  | _ => True

instance (s : State) : ∀ i, Decidable (SyncGuard s i)
  | .sync _ => inferInstanceAs (Decidable (_ → _ ∧ ∀ _ ∈ _, _))
  | .change _ | .unanswered => .isTrue trivial

/-- A task of a Todoist item has it as source and as sink. -/
def SelfLinked (db : Database) : Prop :=
  ∀ row ∈ db.tasks.rows, row.sinkItemId = some row.sourceItemId

structure Inv (account : Account) (s : State) : Prop where
  reflected : NoItemLost account s
  token : ∀ token ∈ s.itemsSyncToken, token ≤ s.log.length
  selfLinked : SelfLinked s.db

section Run
variable {scan : (db : Database) → TaskScan db} {account : Account} {db db' : Database}

/-- What the loop over the items leaves: each item is in a row of its own, with the identifier
the loop over the tasks is given, and the rows of other sources are as they were. -/
theorem syncItems_spec {items values : List ThirdPartyItem}
    (hnodup : (items.map (·.sourceId)).Nodup) (h : syncItems db items = .ok (db', values)) :
    db'.tasks = db.tasks ∧
      (∀ row ∈ db.thirdPartyItems.rows, row.sourceId ∉ items.map (·.sourceId) →
        row ∈ db'.thirdPartyItems.rows) ∧
      List.Forall₂ (fun item value => value.data = item.data ∧ ∃ row ∈ db'.thirdPartyItems.rows,
        row.id = value.id ∧ ThirdPartyItemUpsert.itemMatches item row = true ∧
          row.data = item.data) items values := by
  induction items generalizing db values with
  | nil =>
    cases h
    exact ⟨rfl, fun _ hr _ => hr, .nil⟩
  | cons item rest ih =>
    obtain ⟨hitem, hrest⟩ := List.nodup_cons.mp hnodup
    simp only [syncItems] at h
    split at h
    · cases h
    · next mid status hupsert =>
      split at h
      · cases h
      · next last values hsync =>
        cases h
        have hup := createOrUpdateThirdPartyItem_upserted hupsert
        obtain ⟨htasks, hothers, hall⟩ := ih hrest hsync
        refine ⟨htasks.trans hup.tasks, fun row hrow hne => ?_, .cons ⟨hup.data, ?_⟩ hall⟩
        · rw [List.map_cons, List.mem_cons, not_or] at hne
          exact hothers row (hup.others row hrow hne.1) hne.2
        · obtain ⟨row, hrow, hid, hmatch, hdata⟩ := hup.stored
          refine ⟨row, hothers row hrow ?_, hid, hmatch, hdata⟩
          simp only [ThirdPartyItemUpsert.itemMatches, Bool.and_eq_true, beq_iff_eq] at hmatch
          rw [hmatch.1.1.1]
          exact hitem

theorem shows_of_holds {source : TodoistItem} {row : TaskRow} {id : TaskId} {projectName : String}
    {item : ThirdPartyItem} {userId : UserId}
    (h : Holds (buildTaskWithProjectName id source projectName item userId) row) :
    Shows source row :=
  ⟨h.title _ rfl, h.body, h.status, h.priority, h.dueAt _ rfl, h.tags, h.isRecurring⟩

/-- What the transaction of a sync commits. -/
def committed : Except Interruption Database → Option Database
  | .ok db | .error (.failed _ db) => some db
  | .error .aborted => none

/-- One item of the loop over the tasks, from its converted source on: its task is stored, and
an error after that is one of the calls that follow. -/
theorem createTask_cases (scan : (db : Database) → TaskScan db) (account : Account)
    (db : Database) {item : ThirdPartyItem} {answers : TaskAnswers} {source : TodoistItem}
    (hdata : item.data = .todoistItem source) (hconnected : answers.connected = true)
    (hprojects : answers.projects.isOk = true) :
    createTaskFromThirdPartyItem scan account db item answers = .error .aborted ∨
      ∃ db' projectName, UpsertedTask db db'
          (buildTaskWithProjectName answers.taskId source projectName item account.userId) ∧
        committed (createTaskFromThirdPartyItem scan account db item answers) = some db' ∧
        (answers.afterUpsert.isOk = true →
          createTaskFromThirdPartyItem scan account db item answers = .ok db') := by
  unfold createTaskFromThirdPartyItem thirdPartyItemIntoTask
  cases hp : answers.projects with
  | error error => rw [hp] at hprojects; cases hprojects
  | ok projects =>
    simp only [hconnected, hdata, Except.map, Bool.not_true, Bool.false_eq_true, if_false]
    split
    · exact .inl rfl
    · next hupsert =>
      exact .inr ⟨_, _, createOrUpdateTask_upserted hupsert, rfl, fun _ => rfl⟩
    · next hupsert =>
      refine .inr ⟨_, _, createOrUpdateTask_upserted hupsert, ?_⟩
      cases answers.afterUpsert with
      | ok _ => exact ⟨rfl, fun _ => rfl⟩
      | error error => exact ⟨rfl, fun h => nomatch h⟩

theorem selfLinked_upserted {request : CreateOrUpdateTaskRequest}
    (hsink : request.sinkItem = some request.sourceItem) (h : UpsertedTask db db' request)
    (hlinks : SelfLinked db) : SelfLinked db' := by
  intro row hrow
  rcases h.rows row hrow with ⟨old, hold, -, hsource, hsame⟩ | ⟨rfl, -⟩
  · rw [hsame, hsource]
    exact hlinks old hold
  · simp [insertRow, hsink]

theorem SelfLinked.linked_iff (h : SelfLinked db) {row : TaskRow} (hrow : row ∈ db.tasks.rows)
    {id : ThirdPartyItemId} : Linked id row ↔ row.sourceItemId = id := by
  unfold Linked
  rw [h row hrow, Option.some.injEq, or_self]

/-- Writing the task of an item keeps the tasks of the other items. -/
theorem task_written {mid : Database} {item : ThirdPartyItem} {source : TodoistItem} {id : TaskId}
    {projectName : String} (hlinks : SelfLinked db)
    (hup : UpsertedTask db mid
      (buildTaskWithProjectName id source projectName item account.userId)) :
    SelfLinked mid ∧
      (∀ row ∈ db.tasks.rows, row.sourceItemId ≠ item.id → row ∈ mid.tasks.rows) ∧
      ∃ row ∈ mid.tasks.rows, row.sourceItemId = item.id ∧ row.userId = account.userId ∧
        Shows source row := by
  have hlinks' := selfLinked_upserted rfl hup hlinks
  refine ⟨hlinks', ?_, ?_⟩
  · intro row hrow hne
    exact (hup.others row fun hl => hne ((hlinks.linked_iff hrow).mp hl)).mp hrow
  · obtain ⟨row, hrow, hlinked, hholds⟩ := hup.stored
    exact ⟨row, hrow, (hlinks'.linked_iff hrow).mp hlinked, hholds.userId, shows_of_holds hholds⟩

/-- What the loop over the tasks leaves, when it gets to store the task of the last item. -/
theorem createTasks_spec {pairs : List (ThirdPartyItem × TaskAnswers)} (hlinks : SelfLinked db)
    (hids : (pairs.map (·.1.id)).Nodup)
    (hconverted : ∀ p ∈ pairs, (∃ source, p.1.data = .todoistItem source) ∧
      p.2.connected = true ∧ p.2.projects.isOk = true)
    (hafter : ∀ p ∈ pairs.dropLast, p.2.afterUpsert.isOk = true)
    (h : committed (createTasks scan account db pairs) = some db') :
    db'.thirdPartyItems = db.thirdPartyItems ∧ SelfLinked db' ∧
      (∀ row ∈ db.tasks.rows, (∀ p ∈ pairs, row.sourceItemId ≠ p.1.id) → row ∈ db'.tasks.rows) ∧
      ∀ p ∈ pairs, ∀ source, p.1.data = .todoistItem source →
        TaskStored account db' source p.1.id := by
  induction pairs generalizing db with
  | nil =>
    cases h
    exact ⟨rfl, hlinks, fun _ hr _ => hr, fun _ hp => (List.not_mem_nil hp).elim⟩
  | cons p rest ih =>
    obtain ⟨item, answers⟩ := p
    obtain ⟨hid, hrestIds⟩ := List.nodup_cons.mp hids
    obtain ⟨⟨⟨source, hdata⟩, hconnected, hprojects⟩, hrestConverted⟩ :=
      List.forall_mem_cons.mp hconverted
    unfold createTasks at h
    rcases createTask_cases scan account db hdata hconnected hprojects with
      habort | ⟨mid, projectName, hup, hcommitted, hok⟩
    · rw [habort] at h
      cases h
    · obtain ⟨hlinks', hframe, row, hrow, hsource, huser, hshows⟩ := task_written hlinks hup
      cases hcases : createTaskFromThirdPartyItem scan account db item answers with
      | error interruption =>
        -- only the calls after the last task may fail
        have hrestNil : rest = [] := by
          by_contra hne
          have hafterOk := hafter (item, answers) (by
            rw [List.dropLast_cons_of_ne_nil hne]; exact List.mem_cons_self)
          rw [hok hafterOk] at hcases
          cases hcases
        subst hrestNil
        simp only [hcases] at h hcommitted
        rw [h] at hcommitted
        cases hcommitted
        refine ⟨hup.items, hlinks', fun r hr hne => hframe r hr (hne _ List.mem_cons_self), ?_⟩
        intro p hp source' hdata'
        rw [List.mem_singleton.mp hp] at hdata' ⊢
        rw [hdata] at hdata'
        cases hdata'
        exact ⟨row, hrow, .inl hsource, huser, hshows⟩
      | ok db1 =>
        simp only [hcases] at h hcommitted
        cases hcommitted
        obtain ⟨hitems, hselves, hothers, hstored⟩ := ih hlinks' hrestIds hrestConverted
          (fun p hp => hafter p (by
            cases rest with
            | nil => exact (List.not_mem_nil hp).elim
            | cons q qs => exact List.mem_cons_of_mem _ hp)) h
        refine ⟨hitems.trans hup.items, hselves, fun r hr hne => ?_, fun p hp source' hdata' => ?_⟩
        · exact hothers r (hframe r hr (hne _ List.mem_cons_self))
            fun p hp => hne p (List.mem_cons_of_mem _ hp)
        · rcases List.mem_cons.mp hp with rfl | hp
          · rw [hdata] at hdata'
            cases hdata'
            refine ⟨row, hothers row hrow fun q hq hsame => hid ?_, .inl hsource, huser, hshows⟩
            exact List.mem_map.mpr ⟨q, hq, hsame.symm.trans hsource⟩
          · exact hstored p hp source' hdata'

theorem exists_left_of_forall₂ {α β : Type} {R : α → β → Prop} {l : List α} {l' : List β}
    (h : List.Forall₂ R l l') : ∀ b ∈ l', ∃ a ∈ l, R a b := by
  induction h with
  | nil => exact fun _ hb => (List.not_mem_nil hb).elim
  | @cons a b l l' hab _ ih =>
    intro c hc
    rcases List.mem_cons.mp hc with rfl | hc
    · exact ⟨a, List.mem_cons_self, hab⟩
    · obtain ⟨a', ha', hr⟩ := ih c hc
      exact ⟨a', List.mem_cons_of_mem _ ha', hr⟩

/-- An item and its value after the loop over the items. -/
def Converted (account : Account) (db : Database) (x : SyncedItem) (value : ThirdPartyItem) :
    Prop :=
  ∃ source, value.data = .todoistItem source ∧ withoutColors source = withoutColors x.item ∧
    ∃ row ∈ db.thirdPartyItems.rows, row.id = value.id ∧ row.data = value.data ∧
      row.sourceId = x.item.id ∧ row.userId = account.userId ∧
      row.integrationConnectionId = account.integrationConnectionId

theorem forall₂_zip_answers {R : SyncedItem → ThirdPartyItem → Prop} {items : List SyncedItem}
    {values : List ThirdPartyItem} (h : List.Forall₂ R items values) :
    List.Forall₂ (fun x p => R x p.1 ∧ p.2 = x.answers) items
      (values.zip (items.map (·.answers))) := by
  induction h with
  | nil => exact .nil
  | cons hab _ ih => exact .cons ⟨hab, rfl⟩ ih

/-- Distinct sources are stored under distinct identifiers. -/
theorem nodup_ids {items : List SyncedItem} {pairs : List (ThirdPartyItem × TaskAnswers)}
    (hnodup : (items.map (·.item.id)).Nodup)
    (h : List.Forall₂ (fun x p => Converted account db x p.1 ∧ p.2 = x.answers) items pairs) :
    (pairs.map (·.1.id)).Nodup := by
  have hsource : (pairs.map (·.1.id)).map (fun id => (db.thirdPartyItems.find? id).map (·.sourceId)) =
      (items.map (·.item.id)).map some := by
    induction h with
    | nil => rfl
    | cons hab _ ih =>
      obtain ⟨⟨source, -, -, row, hrow, hid, -, hsame, -⟩, -⟩ := hab
      rw [List.map_cons, List.map_cons, List.map_cons, List.map_cons,
        ih (List.nodup_cons.mp hnodup).2, Table.find?_eq_some.mpr ⟨hrow, hid⟩]
      rw [Option.map_some, hsame]
  have hmapped := hnodup.map (Option.some_injective String)
  rw [← hsource] at hmapped
  exact hmapped.of_map _

theorem shows_of_withoutColors {item item' : TodoistItem} {row : TaskRow}
    (h : withoutColors item = withoutColors item') (hshows : Shows item row) : Shows item' row := by
  obtain ⟨id, parentId, projectId, syncId, sectionId, content, description, labels, _⟩ := item
  have hnames : labels.map (·.name) = item'.labels.map (·.name) := by
    have hlabels := congrArg (fun i => i.labels.map (·.name)) h
    simpa [withoutColors, TodoistLabel.fromName, Function.comp_def] using hlabels
  simp only [withoutColors, TodoistItem.mk.injEq] at h
  obtain ⟨_, _, _, _, _, hcontent, hdescription, -, _, _, hpriority, hchecked, hdeleted, _, _, _,
    hdue, _⟩ := h
  constructor
  · exact hshows.title.trans hcontent
  · exact hshows.body.trans hdescription
  · rw [hshows.status]
    simp only [taskStatus, hchecked, hdeleted]
  · rw [hshows.priority]
    simp only [hpriority]
  · rw [hshows.dueAt]
    simp only [hdue]
  · exact hshows.tags.trans hnames
  · rw [hshows.isRecurring]
    simp only [hdue]

theorem holdsItem_of_eq {item source : TodoistItem} {data : ThirdPartyItemData}
    (hdata : data = .todoistItem source) (h : withoutColors source = withoutColors item) :
    HoldsItem item data := by
  rw [hdata]
  exact h

/-- What the loop over the items leaves of the items of a sync. -/
theorem syncItems_converted {items : List SyncedItem} {values : List ThirdPartyItem}
    {index : List (String × TodoistColor)} (hnodup : (items.map (·.item.id)).Nodup)
    (h : syncItems db (items.map fun x =>
      intoThirdPartyItem account x.stamp (hydrateItemLabelColors index x.item)) =
        .ok (db', values)) :
    db'.tasks = db.tasks ∧
      (∀ row ∈ db.thirdPartyItems.rows, row.sourceId ∉ items.map (·.item.id) →
        row ∈ db'.thirdPartyItems.rows) ∧
      List.Forall₂ (Converted account db') items values := by
  have hids : ((items.map fun x => intoThirdPartyItem account x.stamp
      (hydrateItemLabelColors index x.item)).map (·.sourceId)) = items.map (·.item.id) := by
    rw [List.map_map]
    rfl
  obtain ⟨htasks, hothers, hall⟩ := syncItems_spec (hids ▸ hnodup) h
  refine ⟨htasks, hids ▸ hothers, (List.forall₂_map_left_iff.mp hall).imp ?_⟩
  rintro x value ⟨hdata, row, hrow, hid, hmatch, hrowData⟩
  simp only [ThirdPartyItemUpsert.itemMatches, intoThirdPartyItem, Bool.and_eq_true,
    beq_iff_eq] at hmatch
  exact ⟨_, hdata, withoutColors_hydrate index x.item, row, hrow, hid,
    hrowData.trans hdata.symm, hmatch.1.1.1, hmatch.1.2, hmatch.2⟩

/-- An item of the sync is reflected once its task is stored. -/
theorem reflected_of_converted {x : SyncedItem} {value : ThirdPartyItem}
    (hconverted : Converted account db x value) (hrows : db'.thirdPartyItems = db.thirdPartyItems)
    (hstored : ∀ source, value.data = .todoistItem source →
      TaskStored account db' source value.id) : Reflected account db' x.item := by
  obtain ⟨source, hdata, hcolors, row, hrow, hid, hrowData, hsame, huser, hconn⟩ := hconverted
  obtain ⟨task, htask, hlinked, htaskUser, hshows⟩ := hstored source hdata
  exact ⟨row, hrows ▸ hrow,
    ⟨hsame, huser, hconn, holdsItem_of_eq (hrowData.trans hdata) hcolors⟩,
    task, htask, hid ▸ hlinked, htaskUser, shows_of_withoutColors hcolors hshows⟩

/-- A sync whose calls are answered up to the last task stores every item it was given, and
loses none it was not. -/
theorem upsertThirdPartyTasks_spec {sync : AnsweredSync} {items : List SyncedItem}
    (hitems : sync.items = some items) (hnodup : (items.map (·.item.id)).Nodup)
    (hlinks : SelfLinked db)
    (hanswers : ∀ x ∈ items, x.answers.connected = true ∧ x.answers.projects.isOk = true)
    (hafter : ∀ x ∈ items.dropLast, x.answers.afterUpsert.isOk = true)
    (h : committed (upsertThirdPartyTasks scan account db sync) = some db') :
    SelfLinked db' ∧ (∀ x ∈ items, Reflected account db' x.item) ∧
      ∀ item, item.id ∉ items.map (·.item.id) → Reflected account db item →
        Reflected account db' item := by
  unfold upsertThirdPartyTasks at h
  simp only [hitems] at h
  split at h
  · cases h
  · next mid values hsync =>
    obtain ⟨htasks, hothers, hconverted⟩ := syncItems_converted hnodup hsync
    have hpairs := forall₂_zip_answers hconverted
    have hleft := exists_left_of_forall₂ hpairs
    generalize values.zip (items.map (·.answers)) = pairs at h hpairs hleft
    have hlinksMid : SelfLinked mid := fun row hrow => hlinks row (htasks ▸ hrow)
    obtain ⟨hrows, hlinks', hframe, hstored⟩ := createTasks_spec hlinksMid
      (nodup_ids hnodup hpairs)
      (fun p hp => by
        obtain ⟨x, hx, ⟨source, hdata, -⟩, hp2⟩ := hleft p hp
        exact ⟨⟨source, hdata⟩, hp2 ▸ hanswers x hx⟩)
      (fun p hp => by
        rw [List.dropLast_eq_take, ← hpairs.length_eq] at hp
        obtain ⟨x, hx, -, hp2⟩ := exists_left_of_forall₂ (List.forall₂_take _ hpairs) p hp
        rw [← List.dropLast_eq_take] at hx
        exact hp2 ▸ hafter x hx) h
    refine ⟨hlinks', ?_, ?_⟩
    · intro x hx
      obtain ⟨p, hp, hvalue, -⟩ := exists_left_of_forall₂ hpairs.flip x hx
      exact reflected_of_converted hvalue hrows (hstored p hp)
    · rintro item hnot ⟨row, hrow, hstores, task, htask, hlinked, hrest⟩
      have hrowMid : row ∈ mid.thirdPartyItems.rows :=
        hothers row hrow (by rw [hstores.1]; exact hnot)
      refine ⟨row, hrows ▸ hrowMid, hstores, task, hframe task (htasks ▸ htask) ?_, hlinked, hrest⟩
      intro p hp hsame
      obtain ⟨x, hx, ⟨source, -, -, row', hrow', hid', -, hsource, -⟩, -⟩ := hleft p hp
      -- the task would be of an item of the sync, stored in another row
      have htaskSource : task.sourceItemId = row.id := (hlinks.linked_iff htask).mp hlinked
      have hrowEq : row = row' := Table.eq_of_key hrowMid hrow'
        (htaskSource.symm.trans (hsame.trans hid'.symm))
      apply hnot
      rw [← hstores.1, hrowEq, hsource]
      exact List.mem_map_of_mem hx

section Step
variable {s t : State}

theorem inv_change {item : TodoistItem} (h : Inv account s) :
    Inv account { s with log := s.log ++ [item] } := by
  refine ⟨?_, ?_, h.selfLinked⟩
  · intro token htoken
    simp only [List.take_append_of_le_length (h.token token htoken)]
    exact h.reflected token htoken
  · intro token htoken
    rw [List.length_append]
    exact Nat.le_add_right_of_le (h.token token htoken)

/-- A response without items, when none were due. -/
theorem inv_unreported (h : Inv account s) (hmissing : s.log.drop (cursor s) = []) :
    Inv account { s with itemsSyncToken := some s.log.length } := by
  have hcursor : s.log.take (cursor s) = s.log := by
    conv_rhs => rw [← List.take_append_drop (cursor s) s.log, hmissing, List.append_nil]
  refine ⟨?_, ?_, h.selfLinked⟩
  · intro token htoken
    cases htoken
    simp only [List.take_length]
    cases htoken : s.itemsSyncToken with
    | none =>
      have hempty : s.log = [] := by simpa [cursor, htoken] using hcursor.symm
      intro item hitem
      rw [hempty] at hitem
      exact (List.not_mem_nil hitem).elim
    | some token =>
      have htake : s.log.take token = s.log := by simpa [cursor, htoken] using hcursor
      exact htake ▸ h.reflected token htoken
  · intro token htoken
    cases htoken
    exact le_rfl

/-- A response whose items were stored: the version of an item that is current now is either in
the response, or was current when the stored token was given out. -/
theorem inv_reported {db : Database} {items : List SyncedItem} (h : Inv account s)
    (hresponse : ChangeLog.Answers TodoistItem.id s.log (cursor s) (items.map (·.item)))
    (hlinks : SelfLinked db) (hstored : ∀ x ∈ items, Reflected account db x.item)
    (hkept : ∀ item, item.id ∉ items.map (·.item.id) → Reflected account s.db item →
      Reflected account db item) :
    Inv account { s with db, itemsSyncToken := some s.log.length } := by
  refine ⟨?_, ?_, hlinks⟩
  · intro token htoken item _ hlatest
    cases htoken
    simp only [List.take_length] at hlatest
    rcases hresponse.covers hlatest with hin | ⟨hnot, hold⟩
    · obtain ⟨x, hx, rfl⟩ := List.mem_map.mp hin
      exact hstored x hx
    · rw [List.map_map] at hnot
      apply hkept item hnot
      cases htoken : s.itemsSyncToken with
      | none =>
        simp only [cursor, htoken, Option.getD_none, List.take_zero] at hold
        cases hold
      | some token =>
        simp only [cursor, htoken, Option.getD_some] at hold
        exact h.reflected token htoken item (ChangeLog.mem_of_latest hold) hold
  · intro token htoken
    cases htoken
    exact le_rfl

/-- What a sync under the guard commits. -/
theorem inv_committed {sync : AnsweredSync} {db : Database} (h : Inv account s)
    (hanswered : Answered s sync) (hcommits : sync.commits = true)
    (hguard : SyncGuard s (.sync sync))
    (hdb : committed (upsertThirdPartyTasks scan account s.db sync) = some db) :
    Inv account { s with db, itemsSyncToken := some s.log.length } := by
  obtain ⟨hmissing, hcalls⟩ := hguard hcommits
  cases hitems : sync.items with
  | none =>
    have hdone : s.db = db := by
      simpa [upsertThirdPartyTasks, hitems, committed] using hdb
    rw [← hdone]
    exact inv_unreported h (hmissing hitems)
  | some items =>
    obtain ⟨hanswers, hafter⟩ := hcalls items hitems
    have hresponse := hanswered items hitems
    have hnodup : (items.map (·.item.id)).Nodup := by
      have hn := hresponse.nodup
      rwa [List.map_map] at hn
    obtain ⟨hlinks, hstored, hkept⟩ :=
      upsertThirdPartyTasks_spec hitems hnodup h.selfLinked hanswers hafter hdb
    exact inv_reported h hresponse hlinks hstored hkept

theorem inv_step {i : Input} (h : Inv account s) (hstep : step scan account s i = some t)
    (hguard : SyncGuard s i) : Inv account t := by
  cases i with
  | change item =>
    cases hstep
    exact inv_change h
  | unanswered =>
    cases hstep
    exact h
  | sync sync =>
    simp only [step, Option.ite_none_right_eq_some] at hstep
    obtain ⟨hanswered, hthen⟩ := hstep
    by_cases hcommits : sync.commits = true
    · rw [if_pos hcommits] at hthen
      split at hthen
      · next db hdb =>
        cases hthen
        exact @inv_committed scan account s _ _ h hanswered hcommits hguard (by rw [hdb]; rfl)
      · next error db hdb =>
        cases hthen
        exact @inv_committed scan account s _ _ h hanswered hcommits hguard (by rw [hdb]; rfl)
      · cases hthen
        exact h
    · rw [if_neg hcommits] at hthen
      cases hthen
      exact h

end Step

end Run

/-- In every run whose syncs meet the guard, no item is lost. -/
theorem noItemLost_of_guard (scan : (db : Database) → TaskScan db) (account : Account)
    (inputs : List Input)
    (hrun : Along (step scan account) (fun s i _ => SyncGuard s i) initial inputs) :
    Along (step scan account) (fun _ _ t => NoItemLost account t) initial inputs :=
  hrun.of_invariant (I := Inv account) (fun _ _ _ h hstep hguard => inv_step h hstep hguard)
    (fun _ _ _ h hstep hguard => (inv_step h hstep hguard).reflected)
    ⟨fun _ htoken => (nomatch htoken), fun _ htoken => (nomatch htoken),
      fun _ hrow => (Table.not_mem_empty hrow).elim⟩

def account1 : Account := ⟨⟨1⟩, ⟨1⟩⟩

/-- Postgres reads the tasks in the order they were written. -/
def insertionOrder (db : Database) : TaskScan db := ⟨db.tasks.rows, .refl _⟩

def todoistItem (id content : String) : TodoistItem :=
  { id, parentId := none, projectId := "1111", syncId := none, sectionId := none, content,
    description := "", labels := [.fromName "Food"], childOrder := 0, dayOrder := none,
    priority := .p1, checked := false, isDeleted := false, collapsed := false,
    completedAt := none, addedAt := 0, due := none, userId := "22", addedByUid := none,
    assignedByUid := none, responsibleUid := none }

abbrev ProjectsAnswer := Except UniversalInboxError (List TodoistProject)

def fetchedProjects : ProjectsAnswer := .ok [⟨"1111", "Project1"⟩]

def syncedItem (id : Nat) (item : TodoistItem) (projects : ProjectsAnswer) : SyncedItem :=
  ⟨item, ⟨⟨id⟩, 0, 0⟩, ⟨true, projects, ⟨id⟩, .ok ()⟩⟩

/-- Two items are created, synchronized together, and the first one is changed afterwards. The
projects are first asked for when the first item is converted. -/
def twoItemsRun (firstProjects : ProjectsAnswer) : List Input :=
  [.change (todoistItem "a" "Buy milk"), .change (todoistItem "b" "Buy bread"),
    .sync ⟨some [syncedItem 1 (todoistItem "a" "Buy milk") firstProjects,
      syncedItem 2 (todoistItem "b" "Buy bread") fetchedProjects], some [⟨"Food", .red, false⟩], true⟩,
    .change (todoistItem "a" "Buy oat milk"),
    .sync ⟨some [syncedItem 3 (todoistItem "a" "Buy oat milk") fetchedProjects], none, true⟩]

theorem twoItems_noItemLost :
    Along (step insertionOrder account1) (fun _ _ t => NoItemLost account1 t) initial
      (twoItemsRun fetchedProjects) :=
  noItemLost_of_guard insertionOrder account1 (twoItemsRun fetchedProjects) (by decide +kernel)

/-- The task of the second item is missing after the first sync, and still after the second one,
which no call fails. -/
theorem failedProjects_lose_item :
    Possible (step insertionOrder account1) initial (twoItemsRun (.error (.unexpected "502"))) ∧
      ¬ Along (step insertionOrder account1) (fun _ _ t => NoItemLost account1 t) initial
        (twoItemsRun (.error (.unexpected "502"))) ∧
      ∀ s ∈ exec (step insertionOrder account1) initial (twoItemsRun (.error (.unexpected "502"))),
        s.itemsSyncToken = some s.log.length ∧
          ¬ Reflected account1 s.db (todoistItem "b" "Buy bread") := by
  decide +kernel

end UniversalInbox.TodoistSync
