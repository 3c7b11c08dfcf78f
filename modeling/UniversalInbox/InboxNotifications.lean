import UniversalInbox.FullTaskSync
import UniversalInbox.NotificationConversion
import UniversalInbox.SetAsideRoundTrip
import UniversalInbox.TaskPatching

/-! Notifications of the tasks that are in the inbox of their task manager. Whether such a task has
one already is read from a page of the inbox, which leaves out what is set aside. -/
namespace UniversalInbox.InboxNotifications
open Transition TaskUpsert NotificationPatching NotificationListing NotificationConversion
open BulkPatch (patchRow)
open FullTaskSync (TickTickItem tickTickInboxProject)
open NotificationUpsert (NotificationScan SourceKey UpsertRequest sourceKey upsertNotification)
open Propagation (Converted applySyncedTaskSideEffect resolveSinkProviderKind)
open PeerService (TaskFields TaskPatch)
open SetAsideRoundTrip (ConnectionUpdate reconcileSetAsideNotifications restoreSetAsideNotifications)
open TaskPatching (Tx)
open ThirdPartyItemUpsert (createOrUpdateThirdPartyItem findExistingItem)
open TodoistSync (todoistInboxProject)
open Results (bind_eq_ok map_eq_ok)

/-- The services whose tasks are saved as notifications. -/
inductive TaskManagerService where
  | todoist
  | tickTick
deriving DecidableEq, Repr

def TaskManagerService.getNotificationSourceKind : TaskManagerService → NotificationSourceKind
  | .todoist => .todoist
  | .tickTick => .tickTick

/-- By the integration provider of an item. -/
def taskManagerService : ThirdPartyItemKind → Option TaskManagerService
  | .todoistItem => some .todoist
  | .tickTickItem => some .tickTick
  | _ => none

/-- As much of the provider of a connection as is read here. -/
inductive IntegrationProvider where
  | todoist (createNotificationFromInboxTask : Bool)
  | tickTick (createNotificationFromInboxTask : Bool)
  | other
deriving DecidableEq, Repr

def IntegrationProvider.shouldCreateNotificationFromInboxTask : IntegrationProvider → Bool
  | .todoist enabled | .tickTick enabled => enabled
  | .other => false

def isInInbox (task : Task) : Bool :=
  match task.kind with
  | .todoist => task.project == todoistInboxProject
  | .tickTick => task.project == tickTickInboxProject
  | .slack | .linear =>
    match task.sinkItem.map ThirdPartyItem.kind with
    | some .todoistItem => task.project == todoistInboxProject
    | some .tickTickItem => task.project == tickTickInboxProject
    | _ => false

def isModified {α : Type} : UpsertStatus α → Bool
  | .created _ | .updated _ _ => true
  | .untouched _ => false

/-- The arguments of the listing, which is of the first page. -/
def taskFilters (taskId : TaskId) (userId : UserId) : Filters :=
  { status := []
    includeSnoozedNotifications := true
    onlySnoozedNotifications := false
    taskId := some taskId
    orderBy := .updatedAtAsc
    fromSources := []
    userId }

/-- The orders in which a step reads the tables. -/
structure Reads where
  tasks : (db : Database) → TaskScan db
  listing : (db : Database) → Snapshot db
  notifications : (db : Database) → NotificationScan db

/-- One item of a sync, with what converting and saving it needs. -/
structure SyncedItem where
  synced : Propagation.SyncedItem
  provider : IntegrationProvider
  userId : UserId
  stamp : NotificationStamp
  reads : Reads
  isTesting : Bool

structure TaskCreationResult where
  task : Task
  notifications : List Notification

section Save
variable (tickTick : String → TickTickItem)

def todoistIntoNotification (stamp : NotificationStamp) (source : TodoistItem) :
    NotificationContent :=
  convertedNow stamp .todoist source.content
    (if source.checked || source.isDeleted then .deleted else .unread) none

def tickTickIntoNotification (stamp : NotificationStamp) (source : TickTickItem) :
    NotificationContent :=
  convertedNow stamp .tickTick source.title
    (if source.status = .completed then .deleted else .unread) none

def thirdPartyItemIntoNotification (stamp : NotificationStamp) (service : TaskManagerService)
    (data : ThirdPartyItemData) : Option NotificationContent :=
  match service, data with
  | .todoist, .todoistItem source => some (todoistIntoNotification stamp source)
  | .tickTick, .tickTickItem content => some (tickTickIntoNotification stamp (tickTick content))
  | _, _ => none

def saveRequest (content : NotificationContent) (id : NotificationId) (item : ThirdPartyItem)
    (taskId : Option TaskId) (userId : UserId) : UpsertRequest :=
  { content.request id item userId with
    notification := { (content.request id item userId).notification with taskId }
    kind_eq := rfl }

def saveThirdPartyItemAsNotification (x : SyncedItem) (service : TaskManagerService)
    (taskId : Option TaskId) : Tx (UpsertStatus Notification) :=
  match thirdPartyItemIntoNotification tickTick x.stamp service x.synced.item.data with
  | none => Transaction.fail (.unexpected
      s!"Unexpected third party item kind {x.synced.item.kind.display}")
  | some content => Transaction.statement fun db =>
      upsertNotification db (x.reads.notifications db)
        (saveRequest content x.stamp.id x.synced.item taskId x.userId)

/-- The notification that is returned of those a task had, the last one. -/
def lastUpdated (updated : List (UpdateStatus Notification)) :
    Except UniversalInboxError (Option (UpsertStatus Notification)) :=
  match updated.getLast? with
  | none => .ok none
  | some ⟨_, none⟩ => .error (.unexpected "Expected a notification from the UpdateStatus")
  | some ⟨true, some notification⟩ => .ok (some (.updated notification notification))
  | some ⟨false, some notification⟩ => .ok (some (.untouched notification))

def listNotifications (x : SyncedItem) (taskId : TaskId) : Tx (List NotificationWithTask) :=
  Transaction.statement fun db =>
    (fetchAllNotifications db defaultPageSize (taskFilters taskId x.userId) none
      (x.reads.listing db)).map fun page => (db, page.content)

/-- An inbox task is saved as a notification unless all of those that are listed are of other
sources. -/
def saveTaskAsNotification (x : SyncedItem) (service : TaskManagerService) (task : Task) :
    Tx (Option (UpsertStatus Notification)) := do
  let existingNotifications ← listNotifications x task.id
  if isInInbox task then
    let taskHasANotificationFromTheSameSource :=
      existingNotifications.any (·.kind == service.getNotificationSourceKind)
    if !x.provider.shouldCreateNotificationFromInboxTask then return none
    else if !existingNotifications.isEmpty && !taskHasANotificationFromTheSameSource then return none
    else do
      let saved ← saveThirdPartyItemAsNotification tickTick x service (some task.id)
      return some saved
  else do
    let updated ← TaskPatching.updateNotificationsForTask task.id
      (some service.getNotificationSourceKind) deletedPatch
    Transaction.answer (lastUpdated updated)

/-- As the propagation does it, with what the upsert of the task returned. -/
def syncThirdPartyItemAsTask (s : Propagation.State) (x : SyncedItem) :
    Option (Propagation.State × Except UniversalInboxError (UpsertStatus Task)) :=
  match x.synced.request with
  | .error error => some (s, .error error)
  | .ok request =>
    match createOrUpdateTask s.db (x.reads.tasks s.db) request with
    | .error _ => none
    | .ok (db, upsertTask) =>
      (applySyncedTaskSideEffect x.isTesting
        { s with db, edited := s.edited.filter (· ≠ x.synced.item.id) } x.synced upsertTask
        (resolveSinkProviderKind x.synced.sinkProviderKindHint
          x.synced.defaultTaskManagerProviderKind)).map
        fun (s', result) => (s', result.map fun _ => upsertTask)

/-- A task that is modified is saved as a notification if its item is one of a task manager. -/
def saveModifiedTask (x : SyncedItem) (upsertTask : UpsertStatus Task) : Tx TaskCreationResult :=
  let task := upsertTask.value
  if !isModified upsertTask then return ⟨task, []⟩
  else
    match taskManagerService x.synced.item.kind with
    | none => return ⟨task, []⟩
    | some service => do
      let saved ← saveTaskAsNotification tickTick x service task
      return ⟨task, (saved.map (·.value)).toList⟩

def createTaskFromThirdPartyItem (s : Propagation.State) (x : SyncedItem) :
    Option (Propagation.State × Except UniversalInboxError TaskCreationResult) :=
  if !x.synced.connected then
    some (s, .error (.unexpected s!"No validated integration found for user {x.userId.uuid}, cannot create third party item"))
  else
    match syncThirdPartyItemAsTask s x with
    | none => none
    | some (s', .error error) => some (s', .error error)
    | some (s', .ok upsertTask) =>
      (saveModifiedTask tickTick x upsertTask s'.db).map fun (db, result) =>
        ({ s' with db }, result)

/-- `create_task_from_notification`, with the answer of the provider of the task. `resolved` is how
finding the provider, its connection and the defaults of the task ends; `x` is the new item. -/
structure TaskCreation where
  notificationId : NotificationId
  userId : UserId
  resolved : Except UniversalInboxError Unit
  fields : TaskFields
  x : SyncedItem
  environment : Environment
  applyNotificationSideEffects : Bool

/-- The new item, once it is stored. -/
def TaskCreation.stored (c : TaskCreation) (item : ThirdPartyItem) : SyncedItem :=
  { c.x with synced := { c.x.synced with item } }

/-- `create_task` answers with an item that is new at its provider. -/
def createTaskFromNotificationWithService (s : Propagation.State) (c : TaskCreation) :
    Option (Propagation.State × Except UniversalInboxError TaskCreationResult) :=
  if (findExistingItem s.db c.x.synced.item).isNone then
    match createOrUpdateThirdPartyItem s.db c.x.synced.item with
    | .error _ => none
    | .ok (db, upsertItem) =>
      let s' : Propagation.State :=
        { s with db, upstream := Function.update s.upstream upsertItem.value.id c.fields }
      if ∀ request ∈ c.x.synced.request.toOption,
          Converted c.x.userId s' upsertItem.value request then
        createTaskFromThirdPartyItem tickTick s' (c.stored upsertItem.value)
      else none
  else none

def deleteAndLinkPatch (taskId : TaskId) : NotificationPatch :=
  { status := some .deleted, snoozedUntil := none, taskId := some taskId }

/-- The transaction is committed if the function returns. -/
def createTaskFromNotification (s : Propagation.State) (c : TaskCreation) : Propagation.State :=
  match s.db.notifications.find? c.notificationId with
  | none => s
  | some row =>
    if row.userId ≠ c.userId then s
    else
      match c.resolved, createTaskFromNotificationWithService tickTick s c with
      | .ok (), some (s', .ok result) =>
        match patchNotification c.environment s'.db c.notificationId
            (deleteAndLinkPatch result.task.id) false c.applyNotificationSideEffects c.userId with
        | .ok (db, _) => { s' with db }
        | .error _ => s
      | _, _ => s

end Save

/-- `linked` tells that a user has linked a notification with a task. -/
structure State where
  inbox : Propagation.State
  linked : Bool

/-- `edit` is a change made at a provider; `store` the upsert of an item and `sync` its task;
`saveNotification` the upsert of the notification of any other item; `bulk` any update of several
notifications, be they selected by identifier, by filter, as stale or by their Linear issue. -/
inductive Input where
  | edit (id : ThirdPartyItemId) (fields : TaskFields)
  | store (item : ThirdPartyItem)
  | sync (x : SyncedItem)
  | saveNotification (content : NotificationContent) (id : NotificationId) (item : ThirdPartyItem)
      (userId : UserId) (scan : (db : Database) → NotificationScan db)
  | updateConnection (connection : IntegrationConnectionRow) (update : ConnectionUpdate)
      (now : DateTime)
  | restore (connection : IntegrationConnectionRow)
  | bulk (p : NotificationRow → Bool) (patch : NotificationPatch)
  | patchNotification (environment : Environment) (id : NotificationId) (patch : NotificationPatch)
      (applyTaskSideEffects applySideEffects : Bool) (userId : UserId)
  | patchTask (environment : Environment) (id : TaskId) (patch : TaskPatch)
      (answers : SideEffectAnswers) (userId : UserId)
  | createTask (c : TaskCreation)

def State.withDatabase (s : State) (db : Database) : State :=
  { s with inbox := { s.inbox with db } }

section Step
variable (tickTick : String → TickTickItem)

/-- What an error leaves of a sync is committed, what it leaves of a request is not. -/
def step (s : State) : Input → Option State
  | .edit id fields => some { s with inbox := { s.inbox with
      upstream := Function.update s.inbox.upstream id fields
      edited := id :: s.inbox.edited } }
  | .store item =>
    match createOrUpdateThirdPartyItem s.inbox.db item with
    | .ok (db, _) => some (s.withDatabase db)
    | .error _ => none
  | .sync x =>
    if ∀ request ∈ x.synced.request.toOption, Converted x.userId s.inbox x.synced.item request then
      (createTaskFromThirdPartyItem tickTick s.inbox x).map fun (inbox, _) => { s with inbox }
    else none
  | .saveNotification content id item userId scan =>
    match upsertNotification s.inbox.db (scan s.inbox.db) (saveRequest content id item none userId) with
    | .ok (db, _) => some (s.withDatabase db)
    | .error _ => none
  | .updateConnection connection update now =>
    some (s.withDatabase (reconcileSetAsideNotifications s.inbox.db (update.apply connection) now))
  | .restore connection =>
    some (s.withDatabase (restoreSetAsideNotifications s.inbox.db connection))
  | .bulk p patch =>
    some (s.withDatabase
      (updateNotifications s.inbox.db p (patchRow patch) (assignable_patchRow s.inbox.db patch)))
  | .patchNotification environment id patch applyTaskSideEffects applySideEffects userId =>
    match patchNotification environment s.inbox.db id patch applyTaskSideEffects applySideEffects
        userId with
    | .ok (db, _) => some { s.withDatabase db with linked := s.linked || patch.taskId.isSome }
    | .error _ => some s
  | .patchTask environment id patch answers userId =>
    some (s.withDatabase
      ((TaskPatching.patchTask environment id patch answers userId).committedIfOk s.inbox.db).1)
  | .createTask c => some { s with inbox := createTaskFromNotification tickTick s.inbox c }

end Step

/-- No notification that is new has a task that had a notification already. -/
def NeverCreatesSecond (before after : Database) : Prop :=
  ∀ row ∈ after.notifications.rows, before.notifications.find? row.id = none →
    ∀ i ∈ row.taskId, ∀ r ∈ before.notifications.rows, r.taskId ≠ some i

def OnePerTask (db : Database) : Prop :=
  ∀ r ∈ db.notifications.rows, ∀ r' ∈ db.notifications.rows, ∀ i ∈ r.taskId,
    r'.taskId = some i → r.id = r'.id

instance (before after : Database) : Decidable (NeverCreatesSecond before after) :=
  inferInstanceAs (Decidable (∀ _ ∈ _, _ → ∀ _ ∈ _, ∀ _ ∈ _, _ ≠ _))

instance (db : Database) : Decidable (OnePerTask db) :=
  inferInstanceAs (Decidable (∀ _ ∈ _, ∀ _ ∈ _, ∀ _ ∈ _, _ → _))

/-- What a step is to guarantee. -/
def OneNotification (s : State) (_ : Input) (t : State) : Prop :=
  NeverCreatesSecond s.inbox.db t.inbox.db ∧ (t.linked = false → OnePerTask t.inbox.db)

instance (s t : State) (i : Input) : Decidable (OneNotification s i t) :=
  inferInstanceAs (Decidable (_ ∧ (_ → _)))

/-- The notifications of a task that a listing may return. -/
def isListed (taskId : TaskId) (userId : UserId) (row : NotificationRow) : Bool :=
  row.taskId == some taskId && row.userId == userId && row.setAsideAt.isNone

/-- The item asks for a notification: its connection wants them of the tasks in the inbox, and its
task is there. -/
def asksForNotification (x : SyncedItem) : Bool :=
  x.provider.shouldCreateNotificationFromInboxTask &&
    x.synced.request.toOption.any fun request => request.project.value == some todoistInboxProject

/-- A task that has notifications has one of the item, or one that is listed, and then none of the
source of the item is. -/
def TaskGuard (db : Database) (x : SyncedItem) (service : TaskManagerService) (task : TaskRow) :
    Prop :=
  (∃ row ∈ db.notifications.rows, row.taskId = some task.id) →
    (∃ row ∈ db.notifications.rows,
      sourceKey row = ⟨x.synced.item.id, service.getNotificationSourceKind, x.userId⟩) ∨
    ((∃ row ∈ db.notifications.rows, isListed task.id x.userId row = true) ∧
      ∀ row ∈ db.notifications.rows, isListed task.id x.userId row = true →
        row.kind ≠ service.getNotificationSourceKind)

instance (db : Database) (x : SyncedItem) (service : TaskManagerService) (task : TaskRow) :
    Decidable (TaskGuard db x service task) :=
  inferInstanceAs (Decidable (_ → _ ∨ (_ ∧ ∀ _ ∈ _, _ → _ ≠ _)))

def InboxGuard (s : State) : Input → Prop
  | .sync x => asksForNotification x = true → ∀ service ∈ taskManagerService x.synced.item.kind,
      ∀ task ∈ s.inbox.db.tasks.rows, Linked x.synced.item.id task →
        TaskGuard s.inbox.db x service task
  | .createTask c => asksForNotification c.x = false
  | _ => True

instance (s : State) : ∀ i, Decidable (InboxGuard s i)
  | .sync _ => inferInstanceAs (Decidable (_ → ∀ _ ∈ _, ∀ _ ∈ _, _ → _))
  | .createTask _ => inferInstanceAs (Decidable (_ = false))
  | .edit _ _ | .store _ | .saveNotification _ _ _ _ _ | .updateConnection _ _ _ | .restore _
  | .bulk _ _ | .patchNotification _ _ _ _ _ _ | .patchTask _ _ _ _ _ => .isTrue trivial

/-- The notifications there are, with their tasks. -/
def links (db : Database) : List (NotificationId × Option TaskId) :=
  db.notifications.rows.map fun r => (r.id, r.taskId)

/-- What a step can do to the links: nothing, add a notification, or link one with a task that has
none. -/
inductive LinksStep (before after : List (NotificationId × Option TaskId)) : Prop where
  | same (h : after = before)
  | insert (id : NotificationId) (task : Option TaskId) (h : after = before ++ [(id, task)])
      (free : ∀ i ∈ task, ∀ l ∈ before, l.2 ≠ some i)
  | relink (id : NotificationId) (task : TaskId) (ids : after.map (·.1) = before.map (·.1))
      (mem : ∀ l ∈ after, l ∈ before ∨ l = (id, some task)) (free : ∀ l ∈ before, l.2 ≠ some task)

section Links
variable {db db' : Database}

theorem mem_links {l : NotificationId × Option TaskId} :
    l ∈ links db ↔ ∃ row ∈ db.notifications.rows, (row.id, row.taskId) = l := List.mem_map

theorem links_congr (h : db'.notifications = db.notifications) : links db' = links db := by
  unfold links
  rw [h]

/-- Nothing is new where the identifiers are the same. -/
theorem neverCreatesSecond_of_ids (h : (links db').map (·.1) = (links db).map (·.1)) :
    NeverCreatesSecond db db' := by
  intro row hrow hnew
  have hmem : row.id ∈ (links db').map (·.1) :=
    List.mem_map_of_mem (mem_links.mpr ⟨row, hrow, rfl⟩)
  rw [h] at hmem
  obtain ⟨l, hl, hid⟩ := List.mem_map.mp hmem
  obtain ⟨old, hold, rfl⟩ := mem_links.mp hl
  have hsome : (db.notifications.find? row.id).isSome := Table.find?_isSome.mpr ⟨old, hold, hid⟩
  rw [hnew] at hsome
  cases hsome

theorem LinksStep.neverCreatesSecond (h : LinksStep (links db) (links db')) :
    NeverCreatesSecond db db' := by
  cases h with
  | same h => exact neverCreatesSecond_of_ids (by rw [h])
  | insert id task h free =>
    intro row hrow hnew i hi r hr
    have hmem : (row.id, row.taskId) ∈ links db' := mem_links.mpr ⟨row, hrow, rfl⟩
    rw [h, List.mem_append, List.mem_singleton] at hmem
    rcases hmem with hold | hadded
    · obtain ⟨old, hold, hsame⟩ := mem_links.mp hold
      have hsome : (db.notifications.find? row.id).isSome :=
        Table.find?_isSome.mpr ⟨old, hold, congrArg Prod.fst hsame⟩
      rw [hnew] at hsome
      cases hsome
    · cases hadded
      exact free i hi _ (mem_links.mpr ⟨r, hr, rfl⟩)
  | relink id task ids mem free => exact neverCreatesSecond_of_ids ids

theorem onePerTask_iff : OnePerTask db ↔
    ∀ l ∈ links db, ∀ l' ∈ links db, ∀ i ∈ l.2, l'.2 = some i → l.1 = l'.1 := by
  constructor
  · intro h l hl l' hl' i hi hi'
    obtain ⟨r, hr, rfl⟩ := mem_links.mp hl
    obtain ⟨r', hr', rfl⟩ := mem_links.mp hl'
    exact h r hr r' hr' i hi hi'
  · intro h r hr r' hr' i hi hi'
    exact h _ (mem_links.mpr ⟨r, hr, rfl⟩) _ (mem_links.mpr ⟨r', hr', rfl⟩) i hi hi'

theorem LinksStep.onePerTask (h : LinksStep (links db) (links db')) (hone : OnePerTask db) :
    OnePerTask db' := by
  rw [onePerTask_iff] at hone ⊢
  cases h with
  | same h => rwa [h]
  | insert id task h free =>
    intro l hl l' hl' i hi hi'
    rw [h, List.mem_append, List.mem_singleton] at hl hl'
    rcases hl with hl | rfl <;> rcases hl' with hl' | rfl
    · exact hone l hl l' hl' i hi hi'
    · exact absurd hi (free i hi' l hl)
    · exact absurd hi' (free i hi l' hl')
    · rfl
  | relink id task ids mem free =>
    intro l hl l' hl' i hi hi'
    rcases mem l hl with hl | rfl <;> rcases mem l' hl' with hl' | rfl
    · exact hone l hl l' hl' i hi hi'
    · cases hi'
      exact absurd hi (free l hl)
    · cases hi
      exact absurd hi' (free l' hl')
    · rfl

/-- A task that no notification can have: it is not stored. -/
theorem free_of_unknown {id : TaskId} (h : db.tasks.find? id = none) :
    ∀ l ∈ links db, l.2 ≠ some id := by
  intro l hl hid
  obtain ⟨row, hrow, rfl⟩ := mem_links.mp hl
  have hsome := db.notification_task row hrow id hid
  rw [h] at hsome
  cases hsome

theorem links_updateNotifications {p : NotificationRow → Bool}
    {f : NotificationRow → NotificationRow} {h : Assignable db f}
    (hf : ∀ r, (f r).taskId = r.taskId) : links (updateNotifications db p f h) = links db :=
  Table.map_map_ite fun r => by rw [h.id, hf]

end Links

section Upsert
variable {db db' : Database} {scan : NotificationScan db} {request : UpsertRequest}
  {status : UpsertStatus Notification}

/-- An upsert that inserts has found no notification of the key. -/
theorem links_upsertNotification (h : upsertNotification db scan request = .ok (db', status)) :
    links db' = links db ∨
    (links db' = links db ++ [(request.notification.id, request.notification.taskId)] ∧
      ∀ row ∈ db.notifications.rows, sourceKey row ≠ request.key) := by
  cases hexisting : (scan.existing request).bind (NotificationUpsert.joinedNotification db) with
  | some existing =>
    unfold upsertNotification at h
    simp only [hexisting] at h
    split at h
    · cases h
      exact .inl rfl
    · cases h
      exact .inl (Table.map_map_ite fun _ => rfl)
  | none =>
    obtain ⟨notifications, hinsert, hkeys, rfl, -⟩ :=
      NotificationUpsert.upsertNotification_inserts hexisting h
    refine .inr ⟨?_, ?_⟩
    · show notifications.rows.map _ = _
      rw [(Table.insert?_eq_some.mp hinsert).2, List.map_append]
      rfl
    · intro row hrow hkey
      cases hfound : scan.existing request with
      | none =>
        have hnot := List.find?_eq_none.mp hfound row (scan.perm.mem_iff.mpr hrow)
        exact hnot (beq_iff_eq.mpr hkey)
      | some found =>
        obtain ⟨_, -, -, hjoin⟩ := NotificationUpsert.joinedNotification_of_mem
          (NotificationUpsert.existing_eq_some hfound).1
        rw [hfound, Option.bind_some, hjoin] at hexisting
        cases hexisting

end Upsert

section Patches
variable {env : Environment} {db db' : Database} {id : NotificationId} {patch : NotificationPatch}
  {userId : UserId} {applyTaskSideEffects applySideEffects : Bool}
  {status : UpdateStatus Notification}

/-- A patch writes the task of one notification, or of none. -/
theorem links_updateNotification (h : updateNotification db id patch userId = .ok (db', status)) :
    links db' = db.notifications.rows.map fun r =>
      (r.id, if owns id userId r then patch.taskId.or r.taskId else r.taskId) := by
  unfold updateNotification at h
  split at h
  · cases h
  · split at h
    · cases h
      show ((db.notifications.rows.map _).map _) = _
      rw [List.map_map]
      apply List.map_congr_left
      intro r _
      show ((if owns id userId r then _ else r).id, (if owns id userId r then _ else r).taskId) = _
      split <;> rfl
    · cases h

/-- Its side effects write no task. -/
theorem links_patchNotification
    (h : patchNotification env db id patch applyTaskSideEffects applySideEffects userId =
      .ok (db', status)) :
    links db' = db.notifications.rows.map fun r =>
      (r.id, if owns id userId r then patch.taskId.or r.taskId else r.taskId) := by
  obtain ⟨⟨db'', updated⟩, hupdate, hthen⟩ := bind_eq_ok.mp h
  rw [← links_updateNotification hupdate]
  dsimp only at hthen
  split at hthen
  · cases hthen
    rfl
  · split at hthen
    · obtain ⟨_, hside, hreturn⟩ := map_eq_ok.mp hthen
      cases hreturn
      exact map_applyNotificationSideEffects (fun _ => rfl) hside
    · split at hthen
      · cases hthen
      · cases hthen
        rfl
    · cases hthen
      rfl

theorem ids_patchNotification
    (h : patchNotification env db id patch applyTaskSideEffects applySideEffects userId =
      .ok (db', status)) : (links db').map (·.1) = (links db).map (·.1) := by
  rw [links_patchNotification h]
  simp only [links, List.map_map, Function.comp_def]

theorem links_patchNotification_of_none (hnone : patch.taskId = none)
    (h : patchNotification env db id patch applyTaskSideEffects applySideEffects userId =
      .ok (db', status)) : links db' = links db := by
  rw [links_patchNotification h]
  simp only [hnone, Option.none_or, ite_self, links]

theorem relink_of_patchNotification {taskId : TaskId} (htask : patch.taskId = some taskId)
    (hfree : ∀ l ∈ links db, l.2 ≠ some taskId)
    (h : patchNotification env db id patch applyTaskSideEffects applySideEffects userId =
      .ok (db', status)) : LinksStep (links db) (links db') := by
  refine .relink id taskId (ids_patchNotification h) ?_ hfree
  intro l hl
  rw [links_patchNotification h] at hl
  obtain ⟨r, hr, rfl⟩ := List.mem_map.mp hl
  split
  · next howns =>
    simp only [owns, Bool.and_eq_true, beq_iff_eq] at howns
    rw [htask, Option.some_or, howns.1]
    exact .inr rfl
  · exact .inl (mem_links.mpr ⟨r, hr, rfl⟩)

/-- What a program keeps that writes no task of a notification. -/
def keepsLinks : Transaction.Frame Database where
  Inv _ := True
  Rel db db' := links db' = links db
  refl _ _ := rfl
  trans _ _ _ h h' := h'.trans h
  keeps _ _ _ := trivial

theorem keepsLinks_patchTask {taskId : TaskId} {patch : TaskPatch} {answers : SideEffectAnswers} :
    Transaction.Triple keepsLinks (fun _ => True)
      (TaskPatching.patchTask env taskId patch answers userId) fun _ _ => True := by
  have hdelete : ∀ task, Transaction.Triple keepsLinks (fun _ => True)
      (TaskPatching.deleteNotifications taskId patch task) fun _ _ => True := by
    intro task
    unfold TaskPatching.deleteNotifications
    split
    · refine Transaction.Triple.seq (Q := fun _ _ => True) ?_ fun _ =>
        Transaction.Triple.pure fun _ _ _ => trivial
      intro db _ _ db' r hrun
      unfold TaskPatching.updateNotificationsForTask at hrun
      split at hrun
      · cases hrun
        exact ⟨rfl, fun _ _ => trivial⟩
      · cases hrun
        exact ⟨links_updateNotifications fun _ => rfl, fun _ _ => trivial⟩
    · exact Transaction.Triple.pure fun _ _ _ => trivial
  unfold TaskPatching.patchTask
  refine Transaction.Triple.seq (Q := fun _ _ => True) ?_ fun updated => ?_
  · intro db _ _ db' r hrun
    unfold TaskPatching.updateTask at hrun
    split at hrun
    · cases hrun
      exact ⟨rfl, fun _ _ => trivial⟩
    · split at hrun
      · cases hrun
        exact ⟨rfl, fun _ _ => trivial⟩
      · cases hrun
  · refine Transaction.Triple.seq (hdelete _) fun _ => ?_
    split
    · exact Transaction.Triple.seq (Q := fun _ _ => True)
        (Transaction.Triple.answer fun _ _ _ _ _ => trivial) fun _ =>
          Transaction.Triple.pure fun _ _ _ => trivial
    · refine Transaction.Triple.seq Transaction.Triple.get fun db => ?_
      split
      · exact Transaction.Triple.fail
      · exact Transaction.Triple.pure fun _ _ _ => trivial
    · exact Transaction.Triple.pure fun _ _ _ => trivial

end Patches

section Save
variable {tickTick : String → TickTickItem} {x : SyncedItem} {service : TaskManagerService}
  {db db' : Database} {taskId : TaskId}

theorem addFilters_taskFilters (now : DateTime) (userId : UserId) (row : NotificationRow) :
    addFilters (taskFilters taskId userId) now none row = isListed taskId userId row := by
  cases hset : row.setAsideAt <;>
    simp [addFilters, taskFilters, snoozeFilter, tokenFilter, isListed, hset, Bool.and_comm]

/-- The first page is made of listed notifications, and empty only if there are none. -/
theorem listNotifications_spec {r : Except UniversalInboxError (List NotificationWithTask)}
    (h : listNotifications x taskId db = some (db', r)) :
    db' = db ∧ ∃ listed, r = .ok listed ∧
      (∀ n ∈ listed, ∃ row ∈ db.notifications.rows,
        isListed taskId x.userId row = true ∧ row.kind = n.kind) ∧
      (listed = [] → ∀ row ∈ db.notifications.rows, isListed taskId x.userId row = false) := by
  let rows := ((x.reads.listing db).scan.filter (isListed taskId x.userId)).filterMap
    db.joinNotification
  have hrun : listNotifications x taskId db =
      some (db, .ok ((orderByUpdatedAt false rows).take defaultPageSize)) := by
    have hfilter : ∀ now, addFilters (taskFilters taskId x.userId) now none =
        isListed taskId x.userId := fun now => funext (addFilters_taskFilters now x.userId)
    simp only [listNotifications, Transaction.statement, fetchAllNotifications, hfilter]
    rfl
  rw [hrun] at h
  cases h
  have hperm : (orderByUpdatedAt false rows).Perm rows := List.perm_insertionSort _ rows
  refine ⟨rfl, _, rfl, ?_, ?_⟩
  · intro n hn
    have hmem : n ∈ rows := hperm.mem_iff.mp (List.mem_of_mem_take hn)
    obtain ⟨row, hrow, hjoin⟩ := List.mem_filterMap.mp hmem
    obtain ⟨hscan, hlisted⟩ := List.mem_filter.mp hrow
    obtain ⟨item, -, rfl⟩ := Option.map_eq_some_iff.mp hjoin
    exact ⟨row, (x.reads.listing db).scan_perm.mem_iff.mp hscan, hlisted, rfl⟩
  · intro hnil row hrow
    rw [List.take_eq_nil_iff] at hnil
    have hempty : rows = [] := by
      rcases hnil with hzero | hnil
      · cases hzero
      · exact List.nil_perm.mp (hnil ▸ hperm)
    by_contra hlisted
    obtain ⟨n, hn⟩ := Option.isSome_iff_exists.mp (Database.joinNotification_isSome hrow)
    have hmem : n ∈ rows := List.mem_filterMap.mpr ⟨row, List.mem_filter.mpr
      ⟨(x.reads.listing db).scan_perm.mem_iff.mpr hrow, by simpa using hlisted⟩, hn⟩
    rw [hempty] at hmem
    cases hmem

/-- A notification was inserted for an inbox task: its connection wants it, the item had none, and
what is listed of the task is nothing, or something of the same source. -/
structure Inserted (x : SyncedItem) (service : TaskManagerService) (task : Task)
    (db db' : Database) : Prop where
  links : links db' = links db ++ [(x.stamp.id, some task.id)]
  inbox : isInInbox task = true
  provider : x.provider.shouldCreateNotificationFromInboxTask = true
  key : ∀ row ∈ db.notifications.rows,
    sourceKey row ≠ ⟨x.synced.item.id, service.getNotificationSourceKind, x.userId⟩
  listed : (∀ row ∈ db.notifications.rows, isListed task.id x.userId row = false) ∨
    ∃ row ∈ db.notifications.rows, isListed task.id x.userId row = true ∧
      row.kind = service.getNotificationSourceKind

theorem kind_thirdPartyItemIntoNotification {stamp : NotificationStamp}
    {data : ThirdPartyItemData} {content : NotificationContent}
    (h : thirdPartyItemIntoNotification tickTick stamp service data = some content) :
    content.kind = service.getNotificationSourceKind := by
  unfold thirdPartyItemIntoNotification at h
  split at h <;> cases h <;> rfl

theorem saveThirdPartyItemAsNotification_spec {task : Option TaskId}
    {r : Except UniversalInboxError (UpsertStatus Notification)}
    (h : saveThirdPartyItemAsNotification tickTick x service task db = some (db', r)) :
    links db' = links db ∨
    (links db' = links db ++ [(x.stamp.id, task)] ∧ ∀ row ∈ db.notifications.rows,
      sourceKey row ≠ ⟨x.synced.item.id, service.getNotificationSourceKind, x.userId⟩) := by
  unfold saveThirdPartyItemAsNotification at h
  cases hcontent : thirdPartyItemIntoNotification tickTick x.stamp service x.synced.item.data with
  | none =>
    rw [hcontent] at h
    cases h
    exact .inl rfl
  | some content =>
    rw [hcontent] at h
    dsimp only [Transaction.statement] at h
    split at h
    · next t status hupsert =>
      cases h
      rw [← kind_thirdPartyItemIntoNotification hcontent]
      exact links_upsertNotification hupsert
    · cases h

theorem saveTaskAsNotification_spec {task : Task}
    {r : Except UniversalInboxError (Option (UpsertStatus Notification))}
    (h : saveTaskAsNotification tickTick x service task db = some (db', r)) :
    links db' = links db ∨ Inserted x service task db db' := by
  unfold saveTaskAsNotification at h
  rcases Transaction.bind_eq_some h with ⟨u, listed, hlist, hrest⟩ | ⟨error, hlist, -⟩
  · obtain ⟨rfl, _, heq, hmem, hnil⟩ := listNotifications_spec hlist
    cases heq
    split at hrest
    · next hinbox =>
      split at hrest
      · cases hrest
        exact .inl rfl
      · next hprovider =>
        dsimp only at hrest
        split at hrest
        · cases hrest
          exact .inl rfl
        · next hexisting =>
          have hsave : links db' = links u ∨ (links db' = links u ++ [(x.stamp.id, some task.id)] ∧
              ∀ row ∈ u.notifications.rows, sourceKey row ≠
                ⟨x.synced.item.id, service.getNotificationSourceKind, x.userId⟩) := by
            rcases Transaction.bind_eq_some hrest with ⟨v, saved, hsave, hreturn⟩ | ⟨error, hsave, -⟩
            · cases hreturn
              exact saveThirdPartyItemAsNotification_spec hsave
            · exact saveThirdPartyItemAsNotification_spec hsave
          rcases hsave with hsame | ⟨hlinks, hkey⟩
          · exact .inl hsame
          · refine .inr ⟨hlinks, hinbox, by simpa using hprovider, hkey, ?_⟩
            simp only [Bool.and_eq_true, Bool.not_eq_true', not_and, Bool.not_eq_false] at hexisting
            cases hcase : listed.isEmpty with
            | true => exact .inl (hnil (List.isEmpty_iff.mp hcase))
            | false =>
              obtain ⟨n, hn, hkind⟩ := List.any_eq_true.mp (hexisting hcase)
              obtain ⟨row, hrow, hlisted, hsame⟩ := hmem n hn
              exact .inr ⟨row, hrow, hlisted, hsame.trans (beq_iff_eq.mp hkind)⟩
    · left
      rcases Transaction.bind_eq_some hrest with ⟨v, updated, hupdate, hreturn⟩ | ⟨error, hupdate, -⟩
      · cases hreturn
        unfold TaskPatching.updateNotificationsForTask at hupdate
        split at hupdate
        · cases hupdate
        · cases hupdate
          exact links_updateNotifications fun _ => rfl
      · unfold TaskPatching.updateNotificationsForTask at hupdate
        split at hupdate
        · cases hupdate
          rfl
        · cases hupdate
  · obtain ⟨rfl, _, heq, -⟩ := listNotifications_spec hlist
    cases heq

end Save

section TaskUpsert
variable {db db' : Database} {scan : TaskScan db} {request : CreateOrUpdateTaskRequest}
  {status : UpsertStatus Task}

theorem notifications_createOrUpdateTask
    (h : createOrUpdateTask db scan request = .ok (db', status)) :
    db'.notifications = db.notifications := by
  cases hfound : findExistingTask db scan request with
  | some existing =>
    rcases createOrUpdateTask_cases hfound h with ⟨rfl, -, -⟩ | ⟨hparent, rfl, -⟩
    · rfl
    · rfl
  | none =>
    obtain ⟨tasks, hinsert, hrow, rfl, -⟩ := createOrUpdateTask_new hfound h
    rfl

/-- The task of an upsert is one of the item, or new. -/
theorem known_of_createOrUpdateTask
    (h : createOrUpdateTask db scan request = .ok (db', status)) :
    (∃ row ∈ db.tasks.rows, row.id = status.value.id ∧ Linked request.sourceItem.id row) ∨
      db.tasks.find? status.value.id = none := by
  cases hfound : findExistingTask db scan request with
  | some existing =>
    obtain ⟨row, hrow, hmatch, hjoin⟩ := findExistingTask_row hfound
    obtain ⟨item, -, rfl⟩ := joinTask_eq_some hjoin
    refine .inl ⟨row, hrow, ?_, linked_of_taskMatches hmatch⟩
    rcases createOrUpdateTask_cases hfound h with ⟨-, rfl, -⟩ | ⟨-, -, rfl⟩ <;> rfl
  | none =>
    right
    obtain ⟨tasks, hinsert, -, -, rfl⟩ := createOrUpdateTask_new hfound h
    exact Table.find?_eq_none_of_insert hinsert

/-- A modified task has the project its item asserts. -/
theorem project_of_createOrUpdateTask {project : String}
    (h : createOrUpdateTask db scan request = .ok (db', status)) (hmodified : isModified status = true)
    (hproject : request.project.value = some project) : status.value.project = project := by
  rcases createOrUpdateTask_status h with ⟨-, task, rfl⟩ | ⟨_, _, _, _, oldTask, _, rfl⟩ | ⟨_, _, rfl⟩
  · cases hmodified
  · show request.project.valueOr oldTask.project = project
    rw [DefaultValue.valueOr, hproject, Option.getD_some]
  · show request.project.intoValue = project
    rw [DefaultValue.intoValue, hproject, Option.getD_some]

theorem project_of_isInInbox {task : Task} (h : isInInbox task = true) :
    task.project = todoistInboxProject := by
  unfold isInInbox at h
  split at h
  · exact beq_iff_eq.mp h
  · exact beq_iff_eq.mp h
  all_goals
    split at h
    · exact beq_iff_eq.mp h
    · exact beq_iff_eq.mp h
    · cases h

end TaskUpsert

section TaskSync
variable {tickTick : String → TickTickItem} {s s' : Propagation.State} {x : SyncedItem}

theorem notifications_createSinkItemFromTask {task : Task} {overwrite : Bool}
    {kind : IntegrationProviderKind} {answers : Propagation.SinkAnswers}
    {r : Except UniversalInboxError Unit}
    (h : Propagation.createSinkItemFromTask s task overwrite kind answers = some (s', r)) :
    s'.db.notifications = s.db.notifications := by
  have hservice : ∀ itemKind, Propagation.createSinkItemFromTaskWithService s task overwrite itemKind
      answers = some (s', r) → s'.db.notifications = s.db.notifications := by
    intro itemKind h
    unfold Propagation.createSinkItemFromTaskWithService at h
    split at h
    · cases h
      rfl
    · split at h
      · cases h
        rfl
      · split at h
        · cases h
          rfl
        · split at h
          · split at h
            · cases h
            · next hupsert =>
              split at h
              · cases h
                have hkept := notifications_createOrUpdateThirdPartyItem hupsert
                exact hkept
              · cases h
          · cases h
  unfold Propagation.createSinkItemFromTask at h
  split at h
  · exact hservice _ h
  · exact hservice _ h
  · cases h
    rfl

/-- Telling the other item of a task what changed leaves the notifications alone. -/
theorem notifications_applySyncedTaskSideEffect {isTesting : Bool} {synced : Propagation.SyncedItem}
    {upsertTask : UpsertStatus Task} {kind : IntegrationProviderKind}
    {r : Except UniversalInboxError Unit}
    (h : applySyncedTaskSideEffect isTesting s synced upsertTask kind = some (s', r)) :
    s'.db.notifications = s.db.notifications := by
  have hpeer : ∀ newTask oldTask peer, Propagation.updatePeer isTesting s newTask oldTask peer kind
      synced = some (s', r) → s'.db.notifications = s.db.notifications := by
    intro newTask oldTask peer h
    unfold Propagation.updatePeer at h
    dsimp only at h
    split at h
    · split at h
      · cases h
        rfl
      · have hkept := notifications_createSinkItemFromTask h
        exact hkept
    · cases h
      rfl
  unfold applySyncedTaskSideEffect at h
  split at h
  · split at h
    · cases h
      rfl
    · exact notifications_createSinkItemFromTask h
  · split at h
    · split at h
      · cases h
        rfl
      · exact notifications_createSinkItemFromTask h
    · split at h
      · cases h
        rfl
      · split at h
        · exact hpeer _ _ _ h
        · split at h
          · exact hpeer _ _ _ h
          · cases h
            rfl
  · cases h
    rfl

theorem syncThirdPartyItemAsTask_spec {r : Except UniversalInboxError (UpsertStatus Task)}
    (h : syncThirdPartyItemAsTask s x = some (s', r)) :
    s'.db.notifications = s.db.notifications ∧ ∀ upsertTask, r = .ok upsertTask →
      ∃ request db, x.synced.request = .ok request ∧
        createOrUpdateTask s.db (x.reads.tasks s.db) request = .ok (db, upsertTask) := by
  unfold syncThirdPartyItemAsTask at h
  split at h
  · cases h
    refine ⟨rfl, fun upsertTask hok => ?_⟩
    cases hok
  · next request hrequest =>
    split at h
    · cases h
    · next db upsertTask hupsert =>
      obtain ⟨⟨t, result⟩, hside, hreturn⟩ := Option.map_eq_some_iff.mp h
      cases hreturn
      refine ⟨(notifications_applySyncedTaskSideEffect hside).trans
        (notifications_createOrUpdateTask hupsert), fun status hok => ?_⟩
      obtain ⟨_, -, rfl⟩ := map_eq_ok.mp hok
      exact ⟨request, db, hrequest, hupsert⟩

/-- The propagation is this sync, but for what it returns. -/
theorem propagation_syncThirdPartyItemAsTask :
    Propagation.syncThirdPartyItemAsTask x.reads.tasks x.isTesting s x.synced =
      (syncThirdPartyItemAsTask s x).map fun (s', r) =>
        (s', r.bind fun _ => x.synced.afterSideEffect) := by
  unfold Propagation.syncThirdPartyItemAsTask syncThirdPartyItemAsTask
  cases x.synced.request with
  | error error => rfl
  | ok request =>
    dsimp only
    cases createOrUpdateTask s.db (x.reads.tasks s.db) request with
    | error error => rfl
    | ok upserted =>
      obtain ⟨db, upsertTask⟩ := upserted
      dsimp only
      split
      · next hside =>
        rw [hside]
        rfl
      · next outcome hnot =>
        cases hside : applySyncedTaskSideEffect x.isTesting
            { s with db, edited := s.edited.filter (· ≠ x.synced.item.id) } x.synced upsertTask
            (resolveSinkProviderKind x.synced.sinkProviderKindHint
              x.synced.defaultTaskManagerProviderKind) with
        | none => rfl
        | some outcome =>
          obtain ⟨t, result⟩ := outcome
          cases result with
          | error error => rfl
          | ok _ => exact absurd hside (hnot t)

/-- What is saved of a modified task of a task manager. -/
theorem saveModifiedTask_spec {db db' : Database} {upsertTask : UpsertStatus Task}
    {r : Except UniversalInboxError TaskCreationResult}
    (h : saveModifiedTask tickTick x upsertTask db = some (db', r)) :
    (links db' = links db ∨ ∃ service, isModified upsertTask = true ∧
      taskManagerService x.synced.item.kind = some service ∧
      Inserted x service upsertTask.value db db') ∧
      ∀ result, r = .ok result → result.task = upsertTask.value := by
  unfold saveModifiedTask at h
  split at h
  · cases h
    refine ⟨.inl rfl, fun result hok => ?_⟩
    cases hok
    rfl
  · next hmodified =>
    cases hservice : taskManagerService x.synced.item.kind with
    | none =>
      rw [hservice] at h
      cases h
      refine ⟨.inl rfl, fun result hok => ?_⟩
      cases hok
      rfl
    | some service =>
      rw [hservice] at h
      have hlinks : ∀ r, saveTaskAsNotification tickTick x service upsertTask.value db =
          some (db', r) → links db' = links db ∨ ∃ service', isModified upsertTask = true ∧
            some service = some service' ∧ Inserted x service' upsertTask.value db db' := by
        intro r hrun
        rcases saveTaskAsNotification_spec hrun with hkept | hinserted
        · exact .inl hkept
        · exact .inr ⟨service, by simpa using hmodified, rfl, hinserted⟩
      rcases Transaction.bind_eq_some h with ⟨u, saved, hrun, hreturn⟩ | ⟨error, hrun, rfl⟩
      · cases hreturn
        refine ⟨hlinks _ hrun, fun result hok => ?_⟩
        cases hok
        rfl
      · refine ⟨hlinks _ hrun, fun result hok => ?_⟩
        cases hok

/-- A modified task of a task manager was saved, and it is the task of the item. -/
structure Saved (x : SyncedItem) (s s' : Propagation.State) : Prop where
  saved : ∃ request db upsertTask service, x.synced.request = .ok request ∧
    createOrUpdateTask s.db (x.reads.tasks s.db) request = .ok (db, upsertTask) ∧
    isModified upsertTask = true ∧ taskManagerService x.synced.item.kind = some service ∧
    Inserted x service upsertTask.value s.db s'.db

theorem createTaskFromThirdPartyItem_spec {r : Except UniversalInboxError TaskCreationResult}
    (h : createTaskFromThirdPartyItem tickTick s x = some (s', r)) :
    (links s'.db = links s.db ∨ Saved x s s') ∧ ∀ result, r = .ok result →
      ∃ request db upsertTask, x.synced.request = .ok request ∧
        createOrUpdateTask s.db (x.reads.tasks s.db) request = .ok (db, upsertTask) ∧
        result.task = upsertTask.value := by
  unfold createTaskFromThirdPartyItem at h
  split at h
  · cases h
    refine ⟨.inl rfl, fun result hok => ?_⟩
    cases hok
  · split at h
    · cases h
    · next hsync =>
      cases h
      refine ⟨.inl (links_congr (syncThirdPartyItemAsTask_spec hsync).1), fun result hok => ?_⟩
      cases hok
    · next t upsertTask hsync =>
      obtain ⟨hsame, hupserted⟩ := syncThirdPartyItemAsTask_spec hsync
      obtain ⟨request, db, hrequest, hupsert⟩ := hupserted upsertTask rfl
      obtain ⟨⟨db', result⟩, hsave, hreturn⟩ := Option.map_eq_some_iff.mp h
      cases hreturn
      obtain ⟨hlinks, htask⟩ := saveModifiedTask_spec hsave
      refine ⟨?_, fun result hok => ⟨request, db, upsertTask, hrequest, hupsert, htask result hok⟩⟩
      rcases hlinks with hkept | ⟨service, hmodified, hservice, hinserted⟩
      · exact .inl (hkept.trans (links_congr hsame))
      · obtain ⟨hadded, hinbox, hprovider, hkey, hlisted⟩ := hinserted
        rw [hsame] at hkey hlisted
        rw [links_congr hsame] at hadded
        exact .inr ⟨request, db, upsertTask, service, hrequest, hupsert, hmodified, hservice, hadded,
          hinbox, hprovider, hkey, hlisted⟩

end TaskSync

section Steps
variable {tickTick : String → TickTickItem}

def ConvertedItem (s : Propagation.State) (x : SyncedItem) : Prop :=
  ∀ request ∈ x.synced.request.toOption, Converted x.userId s x.synced.item request

/-- What is saved was asked for. -/
theorem asksForNotification_of_saved {s s' : Propagation.State} {x : SyncedItem}
    (hconverted : ConvertedItem s x) (h : Saved x s s') : asksForNotification x = true := by
  obtain ⟨request, db, upsertTask, service, hrequest, hupsert, hmodified, hservice, hinserted⟩ :=
    h.saved
  have hasserts := (hconverted request (by rw [hrequest]; rfl)).asserts
  have hproject : request.project.value = some (s.upstream x.synced.item.id).project := by
    cases hkind : x.synced.item.kind <;> rw [hkind] at hasserts hservice <;>
      first | exact hasserts.2.2.2.2.2 | cases hservice
  have hinbox : (s.upstream x.synced.item.id).project = todoistInboxProject :=
    (project_of_createOrUpdateTask hupsert hmodified hproject).symm.trans
      (project_of_isInInbox hinserted.inbox)
  simp [asksForNotification, hinserted.provider, hrequest, Except.toOption, hproject, hinbox]

/-- Under the guard, a notification is saved for a task that has none. -/
theorem linksStep_sync {s : State} {inbox : Propagation.State} {x : SyncedItem}
    {r : Except UniversalInboxError TaskCreationResult} (hconverted : ConvertedItem s.inbox x)
    (hguard : InboxGuard s (.sync x))
    (h : createTaskFromThirdPartyItem tickTick s.inbox x = some (inbox, r)) :
    LinksStep (links s.inbox.db) (links inbox.db) := by
  rcases (createTaskFromThirdPartyItem_spec h).1 with hsame | hsaved
  · exact .same hsame
  · have hasks := asksForNotification_of_saved hconverted hsaved
    obtain ⟨request, db, upsertTask, service, hrequest, hupsert, -, hservice, hinserted⟩ :=
      hsaved.saved
    refine .insert _ _ hinserted.links ?_
    intro i hi
    cases hi
    rcases known_of_createOrUpdateTask hupsert with ⟨task, htask, hid, hlinked⟩ | hunknown
    · rw [(hconverted request (by rw [hrequest]; rfl)).source] at hlinked
      rintro l hl hlink
      obtain ⟨row, hrow, rfl⟩ := mem_links.mp hl
      rcases hguard hasks service hservice task htask hlinked ⟨row, hrow, by rw [hid]; exact hlink⟩ with
        ⟨stored, hstored, hkey⟩ | ⟨⟨found, hfound, hlisted⟩, hothers⟩
      · exact hinserted.key stored hstored hkey
      · rw [hid] at hlisted hothers
        rcases hinserted.listed with hnone | ⟨same, hsame, hsameListed, hkind⟩
        · rw [hnone found hfound] at hlisted
          cases hlisted
        · exact hothers same hsame hsameListed hkind
    · exact free_of_unknown hunknown

/-- A new item has no task yet. -/
theorem not_linked_of_new {db db' : Database} {item : ThirdPartyItem}
    {upsertItem : UpsertStatus ThirdPartyItem} (hnew : findExistingItem db item = none)
    (h : createOrUpdateThirdPartyItem db item = .ok (db', upsertItem)) :
    ∀ task ∈ db'.tasks.rows, ¬ Linked upsertItem.value.id task := by
  obtain ⟨rfl, hfresh, -, htasks⟩ :=
    ThirdPartyItemUpsert.createOrUpdateThirdPartyItem_created hnew h
  rw [htasks]
  rintro task htask (hsource | hsink)
  · have hsome := db.task_source task htask
    rw [hsource, UpsertStatus.value, hfresh] at hsome
    cases hsome
  · have hsome := db.task_sink task htask _ hsink
    rw [UpsertStatus.value, hfresh] at hsome
    cases hsome

/-- The task that is created for a notification has none yet, and under the guard it gets no other
one. -/
theorem createTaskFromNotificationWithService_spec {s s' : Propagation.State} {c : TaskCreation}
    {result : TaskCreationResult} (hguard : asksForNotification c.x = false)
    (h : createTaskFromNotificationWithService tickTick s c = some (s', .ok result)) :
    links s'.db = links s.db ∧ ∀ l ∈ links s.db, l.2 ≠ some result.task.id := by
  unfold createTaskFromNotificationWithService at h
  split at h
  · next hnew =>
    split at h
    · cases h
    · next db upsertItem hitem =>
      dsimp only at h
      split at h
      · next hconverted =>
        obtain ⟨hlinks, hresult⟩ := createTaskFromThirdPartyItem_spec h
        have hsame : links db = links s.db :=
          links_congr (notifications_createOrUpdateThirdPartyItem hitem)
        constructor
        · rcases hlinks with hkept | hsaved
          · exact hkept.trans hsame
          · have hasks : asksForNotification c.x = true :=
              asksForNotification_of_saved (x := c.stored upsertItem.value) hconverted hsaved
            rw [hguard] at hasks
            cases hasks
        · obtain ⟨request, db', upsertTask, (hrequest : c.x.synced.request = .ok request),
            hupsert, htask⟩ := hresult result rfl
          rw [← hsame, htask]
          rcases known_of_createOrUpdateTask hupsert with ⟨task, hmem, -, hlinked⟩ | hunknown
          · rw [(hconverted request (by rw [hrequest]; rfl)).source] at hlinked
            exact absurd hlinked
              (not_linked_of_new (Option.isNone_iff_eq_none.mp hnew) hitem task hmem)
          · exact free_of_unknown hunknown
      · cases h
  · cases h

theorem linksStep_createTask {s : Propagation.State} {c : TaskCreation}
    (hguard : asksForNotification c.x = false) :
    LinksStep (links s.db) (links (createTaskFromNotification tickTick s c).db) := by
  unfold createTaskFromNotification
  split
  · exact .same rfl
  · split
    · exact .same rfl
    · split
      · next s' result hcreate =>
        obtain ⟨hlinks, hfree⟩ := createTaskFromNotificationWithService_spec hguard hcreate
        split
        · next db status hpatch =>
          rw [← hlinks] at hfree ⊢
          exact relink_of_patchNotification rfl hfree hpatch
        · exact .same rfl
      · exact .same rfl

/-- What every step does to the links; a patch that links a notification may do anything to them
but add one. -/
theorem linksStep_of_step {s t : State} {i : Input} (hguard : InboxGuard s i)
    (h : step tickTick s i = some t) :
    (LinksStep (links s.inbox.db) (links t.inbox.db) ∧ t.linked = s.linked) ∨
      ((links t.inbox.db).map (·.1) = (links s.inbox.db).map (·.1) ∧ t.linked = true) := by
  cases i with
  | edit id fields =>
    cases h
    exact .inl ⟨.same rfl, rfl⟩
  | store item =>
    simp only [step] at h
    split at h
    · next db status hupsert =>
      cases h
      exact .inl ⟨.same (links_congr (notifications_createOrUpdateThirdPartyItem hupsert)), rfl⟩
    · cases h
  | sync x =>
    simp only [step] at h
    split at h
    · next hconverted =>
      obtain ⟨⟨inbox, result⟩, hrun, rfl⟩ := Option.map_eq_some_iff.mp h
      exact .inl ⟨linksStep_sync hconverted hguard hrun, rfl⟩
    · cases h
  | saveNotification content id item userId scan =>
    simp only [step] at h
    split at h
    · next db status hupsert =>
      cases h
      rcases links_upsertNotification hupsert with hsame | ⟨hadded, -⟩
      · exact .inl ⟨.same hsame, rfl⟩
      · refine .inl ⟨.insert _ _ hadded fun i hi => ?_, rfl⟩
        cases hi
    · cases h
  | updateConnection connection update now =>
    cases h
    refine .inl ⟨.same ?_, rfl⟩
    show links (reconcileSetAsideNotifications _ _ _) = _
    unfold reconcileSetAsideNotifications
    split
    · split
      · rfl
      · exact links_updateNotifications fun _ => rfl
    · rfl
  | restore connection =>
    cases h
    refine .inl ⟨.same ?_, rfl⟩
    show links (restoreSetAsideNotifications _ _) = _
    unfold restoreSetAsideNotifications
    split
    · rfl
    · exact links_updateNotifications fun _ => rfl
  | bulk p patch =>
    cases h
    exact .inl ⟨.same (links_updateNotifications (h := assignable_patchRow _ patch) fun _ => rfl),
      rfl⟩
  | patchNotification environment id patch applyTaskSideEffects applySideEffects userId =>
    simp only [step] at h
    split at h
    · next db status hpatch =>
      cases h
      cases htask : patch.taskId with
      | none =>
        exact .inl ⟨.same (links_patchNotification_of_none htask hpatch), Bool.or_false _⟩
      | some taskId =>
        exact .inr ⟨ids_patchNotification hpatch, Bool.or_true _⟩
    · cases h
      exact .inl ⟨.same rfl, rfl⟩
  | patchTask environment id patch answers userId =>
    cases h
    exact .inl ⟨.same (keepsLinks_patchTask.committedIfOk trivial trivial).1, rfl⟩
  | createTask c =>
    cases h
    exact .inl ⟨linksStep_createTask hguard, rfl⟩

def Settled (s : State) : Prop := s.linked = false → OnePerTask s.inbox.db

theorem oneNotification_of_step {s t : State} {i : Input} (h : Settled s)
    (hstep : step tickTick s i = some t) (hguard : InboxGuard s i) : OneNotification s i t := by
  rcases linksStep_of_step hguard hstep with ⟨hlinks, hlinked⟩ | ⟨hids, hlinked⟩
  · exact ⟨hlinks.neverCreatesSecond, fun hnot => hlinks.onePerTask (h (hlinked ▸ hnot))⟩
  · refine ⟨neverCreatesSecond_of_ids hids, fun hnot => ?_⟩
    rw [hlinked] at hnot
    cases hnot

end Steps

/-- No task, no notification, and nothing linked yet. -/
def initial (upstream : ThirdPartyItemId → TaskFields) : State :=
  ⟨⟨Database.empty, upstream, []⟩, false⟩

/-- Along a run in which every item that asks for a notification of a task is synchronized where
the task has none, or one of the item, or a listed one and none of the source of the item, and in
which no task of the inbox is created from a notification, no step gives a task a second
notification, and a task has one at most until a user links one. -/
theorem oneNotification_of_guard (tickTick : String → TickTickItem)
    (upstream : ThirdPartyItemId → TaskFields) (inputs : List Input)
    (h : Along (step tickTick) (fun s i _ => InboxGuard s i) (initial upstream) inputs) :
    Along (step tickTick) OneNotification (initial upstream) inputs := by
  refine Along.of_invariant (I := Settled) ?_ ?_ ?_ h
  · intro s i t hs hstep hguard
    exact (oneNotification_of_step hs hstep hguard).2
  · intro s i t hs hstep hguard
    exact oneNotification_of_step hs hstep hguard
  · intro _ r hr
    exact (Table.not_mem_empty hr).elim

section LinearTask

def insertionOrder : Reads :=
  { tasks := TodoistSync.insertionOrder
    listing := NotificationListing.storedOrder
    notifications := NotificationScan.insertionOrder }

def linearItem : ThirdPartyItem :=
  { id := ⟨1⟩, sourceId := "notification", data := .linearNotification "", createdAt := 0,
    updatedAt := 0, userId := ⟨1⟩, integrationConnectionId := ⟨1⟩, sourceItem := none }

/-- The task of the notification, in its first project and then in another. -/
def todoistItem (projectId : String) : ThirdPartyItem :=
  { id := ⟨2⟩, sourceId := "task",
    data := .todoistItem { TodoistSync.todoistItem "task" "Review" with projectId }
    createdAt := 0, updatedAt := 0, userId := ⟨1⟩, integrationConnectionId := ⟨2⟩,
    sourceItem := none }

def todoistFields (project : String) : TaskFields :=
  { status := .active, title := "Review", body := "", priority := .p4, dueAt := none, project }

def todoistSync (projectId project : String) : SyncedItem :=
  { synced :=
      { item := todoistItem projectId
        connected := true
        request := .ok (TodoistSync.buildTaskWithProjectName ⟨1⟩
          { TodoistSync.todoistItem "task" "Review" with projectId } project
          (todoistItem projectId) ⟨1⟩)
        sinkProviderKindHint := none
        defaultTaskManagerProviderKind := none
        peer := Propagation.answeredBy Propagation.todoistOk
        sink := ⟨true, .error (.unexpected ""), .ok ()⟩
        afterSideEffect := .ok () }
    provider := .todoist true
    userId := ⟨1⟩
    stamp := ⟨⟨2⟩, 0, 0⟩
    reads := insertionOrder
    isTesting := false }

def testAccount : Environment :=
  { isTesting := true, now := 0, htmlUrl := fun _ => "", markThreadAsRead := id,
    unsubscribeThread := id,
    answers := fun _ => ⟨.ok (), .ok (), fun _ => Propagation.answeredBy Propagation.todoistOk,
      fun _ => Propagation.answeredBy Propagation.todoistOk⟩ }

/-- A task is created in a project from a Linear notification, `meanwhile` is done, and the task is
moved to the inbox of Todoist. -/
def linearTaskRun (meanwhile : List Input) : List Input :=
  [.store linearItem,
    .saveNotification (convertedNow ⟨⟨1⟩, 0, 0⟩ .linear "Review" .unread none) ⟨1⟩ linearItem ⟨1⟩
      insertionOrder.notifications,
    .createTask ⟨⟨1⟩, ⟨1⟩, .ok (), todoistFields "Work", todoistSync "work" "Work", testAccount, true⟩]
  ++ meanwhile ++
  [.edit ⟨2⟩ (todoistFields "Inbox"), .store (todoistItem "inbox"),
    .sync (todoistSync "inbox" "Inbox")]

def tickTickItem : String → TickTickItem := fun _ =>
  { projectId := "", title := "", content := none, dueDate := none, repeat_ := none,
    priority := .none, status := .normal, completedTime := none, tags := none, createdTime := none }

theorem movedTask_oneNotification :
    Along (step tickTickItem) OneNotification (initial fun _ => todoistFields "Work")
      (linearTaskRun []) :=
  oneNotification_of_guard tickTickItem (fun _ => todoistFields "Work") (linearTaskRun [])
    (by decide)

/-- With Linear muted in between, the Linear notification is set aside and the task gets another. -/
theorem mutedLinear_second :
    Possible (step tickTickItem) (initial fun _ => todoistFields "Work")
        (linearTaskRun [.updateConnection SetAsideRoundTrip.linearConnection
          (.setConfig (.linear false)) 0]) ∧
      ¬ Along (step tickTickItem) OneNotification (initial fun _ => todoistFields "Work")
        (linearTaskRun [.updateConnection SetAsideRoundTrip.linearConnection
          (.setConfig (.linear false)) 0]) := by
  decide

end LinearTask

end UniversalInbox.InboxNotifications
