import UniversalInbox.Library.OwnedRows
import UniversalInbox.TaskPatching
import UniversalInbox.ThirdPartyItemNesting

/-! Who owns the rows. A row names the rows of its owner only, and what is done for a user leaves
the rows of the others as they are. -/
namespace UniversalInbox.Ownership
open TaskPatching
open NotificationPatching (Assignable UpdateStatus updateNotifications assignable_patchRow)
open PeerService (TaskPatch)
open BulkPatch (patchRow)
open NotificationUpsert (joinedNotification intoNotification NotificationScan upsertNotification
  UpsertRequest)
open TaskUpsert (TaskScan UpsertStatus createOrUpdateTask)

/-- The owner of an item. -/
def itemOwner (db : Database) (id : ThirdPartyItemId) : Option UserId :=
  db.thirdPartyItems.ownerOf ThirdPartyItemRow.userId id

/-- The owner of a task. -/
def taskOwner (db : Database) (id : TaskId) : Option UserId :=
  db.tasks.ownerOf TaskRow.userId id

/-- Every row names rows of its own user. -/
structure Owned (db : Database) : Prop where
  itemSource : ∀ r ∈ db.thirdPartyItems.rows, ∀ i ∈ r.sourceItemId, itemOwner db i = some r.userId
  taskSource : ∀ r ∈ db.tasks.rows, itemOwner db r.sourceItemId = some r.userId
  taskSink : ∀ r ∈ db.tasks.rows, ∀ i ∈ r.sinkItemId, itemOwner db i = some r.userId
  notificationSource : ∀ r ∈ db.notifications.rows, itemOwner db r.sourceItemId = some r.userId
  notificationTask : ∀ r ∈ db.notifications.rows, ∀ i ∈ r.taskId, taskOwner db i = some r.userId

/-- The rows of the other users are what they were. -/
structure OthersKept (userId : UserId) (db db' : Database) : Prop where
  items : Table.others ThirdPartyItemRow.userId userId db'.thirdPartyItems.rows =
    Table.others ThirdPartyItemRow.userId userId db.thirdPartyItems.rows
  tasks : Table.others TaskRow.userId userId db'.tasks.rows =
    Table.others TaskRow.userId userId db.tasks.rows
  notifications : Table.others NotificationRow.userId userId db'.notifications.rows =
    Table.others NotificationRow.userId userId db.notifications.rows

/-- What a function leaves that works for a user. -/
structure Isolated (userId : UserId) (db db' : Database) : Prop where
  owned : Owned db'
  others : OthersKept userId db db'
  itemOwner : ∀ i v, itemOwner db i = some v → itemOwner db' i = some v
  taskOwner : ∀ i v, taskOwner db i = some v → taskOwner db' i = some v

section Isolated
variable {userId : UserId} {db between db' : Database}

theorem OthersKept.refl (db : Database) : OthersKept userId db db := ⟨rfl, rfl, rfl⟩

theorem OthersKept.trans (h : OthersKept userId db between) (h' : OthersKept userId between db') :
    OthersKept userId db db' :=
  ⟨h'.items.trans h.items, h'.tasks.trans h.tasks, h'.notifications.trans h.notifications⟩

theorem Isolated.refl (h : Owned db) : Isolated userId db db :=
  ⟨h, .refl db, fun _ _ hi => hi, fun _ _ hi => hi⟩

theorem Isolated.trans (h : Isolated userId db between) (h' : Isolated userId between db') :
    Isolated userId db db' where
  owned := h'.owned
  others := h.others.trans h'.others
  itemOwner i v hi := h'.itemOwner i v (h.itemOwner i v hi)
  taskOwner i v hi := h'.taskOwner i v (h.taskOwner i v hi)

/-- The frame of what is done for a user. -/
def isolation (userId : UserId) : Transaction.Frame Database where
  Inv := Owned
  Rel := Isolated userId
  refl _ h := .refl h
  trans _ _ _ h h' := h.trans h'
  keeps _ _ h := h.owned

end Isolated

/-! Values that are handed to a user, or written for them. -/

/-- An item of the user, with the items it nests. -/
def OfUser (userId : UserId) (item : ThirdPartyItem) : Prop :=
  ∀ identity ∈ item.identities, identity.userId = userId

/-- A stored item of the user, with the items it nests. -/
inductive OwnItem (userId : UserId) (db : Database) : ThirdPartyItem → Prop
  | intro (item : ThirdPartyItem) (user : item.userId = userId)
      (id : itemOwner db item.id = some userId)
      (source : ∀ source ∈ item.sourceItem, OwnItem userId db source) : OwnItem userId db item

structure OwnTask (userId : UserId) (db : Database) (task : Task) : Prop where
  user : task.userId = userId
  id : taskOwner db task.id = some userId
  sourceItem : OwnItem userId db task.sourceItem
  sinkItem : ∀ sink ∈ task.sinkItem, OwnItem userId db sink

structure OwnNotification (userId : UserId) (db : Database) (notification : Notification) :
    Prop where
  user : notification.userId = userId
  sourceItem : OwnItem userId db notification.sourceItem
  taskId : ∀ i ∈ notification.taskId, taskOwner db i = some userId

section Values
variable {userId : UserId} {db db' : Database} {item : ThirdPartyItem} {task : Task}
  {notification : Notification}

theorem OwnItem.user (h : OwnItem userId db item) : item.userId = userId := by
  cases h
  assumption

theorem OwnItem.id (h : OwnItem userId db item) : itemOwner db item.id = some userId := by
  cases h
  assumption

theorem OwnItem.source (h : OwnItem userId db item) :
    ∀ source ∈ item.sourceItem, OwnItem userId db source := by
  cases h
  assumption

theorem OwnItem.later (h : OwnItem userId db item) (hkept : Isolated userId db db') :
    OwnItem userId db' item := by
  induction h with
  | intro item user id _ ih => exact .intro item user (hkept.itemOwner _ _ id) ih

theorem OwnTask.later (h : OwnTask userId db task) (hkept : Isolated userId db db') :
    OwnTask userId db' task :=
  ⟨h.user, hkept.taskOwner _ _ h.id, h.sourceItem.later hkept,
    fun s hs => (h.sinkItem s hs).later hkept⟩

theorem OwnNotification.later (h : OwnNotification userId db notification)
    (hkept : Isolated userId db db') : OwnNotification userId db' notification :=
  ⟨h.user, h.sourceItem.later hkept, fun i hi => hkept.taskOwner _ _ (h.taskId i hi)⟩

theorem ofUser_iff : OfUser userId item ↔
    item.userId = userId ∧ ∀ source ∈ item.sourceItem, OfUser userId source := by
  unfold OfUser
  cases hsource : item.sourceItem with
  | none =>
    rw [ThirdPartyItemUpsert.identities_leaf hsource]
    simp [ThirdPartyItem.identity]
  | some source =>
    rw [ThirdPartyItemUpsert.identities_of_source hsource]
    simp [ThirdPartyItem.identity]

/-! Reading rows of the user. -/

theorem ownItem_flatItem {id : ThirdPartyItemId} (hid : itemOwner db id = some userId)
    (hread : db.flatItem id = some item) : OwnItem userId db item := by
  obtain ⟨row, hrow, hkey, huser⟩ := Table.ownerOf_eq_some.mp hid
  unfold Database.flatItem at hread
  rw [Table.find?_eq_some.mpr ⟨hrow, hkey⟩] at hread
  cases hread
  refine .intro _ huser ?_ fun _ hs => nomatch hs
  show itemOwner db row.id = some userId
  rw [hkey, hid]

theorem ownItem_joinItem (h : Owned db) {row : ThirdPartyItemRow}
    (hrow : row ∈ db.thirdPartyItems.rows) (huser : row.userId = userId) :
    OwnItem userId db (ThirdPartyItemUpsert.joinItem db row) := by
  refine .intro _ huser (Table.ownerOf_eq_some.mpr ⟨row, hrow, rfl, huser⟩) ?_
  intro source hs
  obtain ⟨id, hid, hread⟩ := Option.bind_eq_some_iff.mp hs
  refine ownItem_flatItem ?_ hread
  rw [h.itemSource row hrow id hid, huser]

theorem ownItem_nestedItem (h : Owned db) {id : ThirdPartyItemId}
    (hid : itemOwner db id = some userId) (hread : db.nestedItem id = some item) :
    OwnItem userId db item := by
  obtain ⟨row, hrow, rfl, huser⟩ := Table.ownerOf_eq_some.mp hid
  rw [ThirdPartyItemUpsert.nestedItem_of_mem hrow] at hread
  cases hread
  exact ownItem_joinItem h hrow huser

theorem ownTask_joinTask (h : Owned db) {row : TaskRow} (hrow : row ∈ db.tasks.rows)
    (huser : row.userId = userId) (hread : db.joinTask row = some task) :
    OwnTask userId db task := by
  obtain ⟨sourceItem, hsource, rfl⟩ := TaskUpsert.joinTask_eq_some hread
  refine ⟨huser, Table.ownerOf_eq_some.mpr ⟨row, hrow, rfl, huser⟩, ?_, ?_⟩
  · refine ownItem_flatItem ?_ hsource
    rw [h.taskSource row hrow, huser]
  · intro sink hsink
    obtain ⟨id, hid, hread⟩ := Option.bind_eq_some_iff.mp hsink
    refine ownItem_flatItem ?_ hread
    rw [h.taskSink row hrow id hid, huser]

theorem ownNotification_joined (h : Owned db) {row : NotificationRow}
    (hrow : row ∈ db.notifications.rows) (huser : row.userId = userId)
    (hread : joinedNotification db row = some notification) :
    OwnNotification userId db notification := by
  obtain ⟨sourceItem, hsource, rfl⟩ := Option.map_eq_some_iff.mp hread
  refine ⟨huser, ownItem_nestedItem h ?_ hsource, ?_⟩
  · rw [h.notificationSource row hrow, huser]
  · intro i hi
    rw [h.notificationTask row hrow i hi, huser]

end Values

/-! What the statements leave, one table at a time. -/

section Statements
variable {userId : UserId} {db db' : Database}

/-- A statement that writes the notifications only. -/
theorem isolated_notifications (h : Owned db) (hitems : db'.thirdPartyItems = db.thirdPartyItems)
    (htasks : db'.tasks = db.tasks)
    (hothers : Table.others NotificationRow.userId userId db'.notifications.rows =
      Table.others NotificationRow.userId userId db.notifications.rows)
    (hrows : ∀ r ∈ db'.notifications.rows, itemOwner db r.sourceItemId = some r.userId ∧
      ∀ i ∈ r.taskId, taskOwner db i = some r.userId) : Isolated userId db db' := by
  have hitemOwner : itemOwner db' = itemOwner db := by
    unfold itemOwner
    rw [hitems]
  have htaskOwner : taskOwner db' = taskOwner db := by
    unfold taskOwner
    rw [htasks]
  refine ⟨⟨?_, ?_, ?_, ?_, ?_⟩, ⟨by rw [hitems], by rw [htasks], hothers⟩, ?_, ?_⟩
  · rw [hitemOwner, hitems]
    exact h.itemSource
  · rw [hitemOwner, htasks]
    exact h.taskSource
  · rw [hitemOwner, htasks]
    exact h.taskSink
  · rw [hitemOwner]
    exact fun r hr => (hrows r hr).1
  · rw [htaskOwner]
    exact fun r hr => (hrows r hr).2
  · rw [hitemOwner]
    exact fun _ _ hi => hi
  · rw [htaskOwner]
    exact fun _ _ hi => hi

/-- A statement that writes the tasks only. -/
theorem isolated_tasks (h : Owned db) (hitems : db'.thirdPartyItems = db.thirdPartyItems)
    (hnotifications : db'.notifications = db.notifications)
    (hothers : Table.others TaskRow.userId userId db'.tasks.rows =
      Table.others TaskRow.userId userId db.tasks.rows)
    (howner : ∀ i v, taskOwner db i = some v → taskOwner db' i = some v)
    (hrows : ∀ r ∈ db'.tasks.rows, itemOwner db r.sourceItemId = some r.userId ∧
      ∀ i ∈ r.sinkItemId, itemOwner db i = some r.userId) : Isolated userId db db' := by
  have hitemOwner : itemOwner db' = itemOwner db := by
    unfold itemOwner
    rw [hitems]
  refine ⟨⟨?_, ?_, ?_, ?_, ?_⟩, ⟨by rw [hitems], hothers, by rw [hnotifications]⟩, ?_, howner⟩
  · rw [hitemOwner, hitems]
    exact h.itemSource
  · rw [hitemOwner]
    exact fun r hr => (hrows r hr).1
  · rw [hitemOwner]
    exact fun r hr => (hrows r hr).2
  · rw [hitemOwner, hnotifications]
    exact h.notificationSource
  · rw [hnotifications]
    exact fun r hr i hi => howner i _ (h.notificationTask r hr i hi)
  · rw [hitemOwner]
    exact fun _ _ hi => hi

/-- A statement that writes the items only. -/
theorem isolated_items (h : Owned db) (htasks : db'.tasks = db.tasks)
    (hnotifications : db'.notifications = db.notifications)
    (hothers : Table.others ThirdPartyItemRow.userId userId db'.thirdPartyItems.rows =
      Table.others ThirdPartyItemRow.userId userId db.thirdPartyItems.rows)
    (howner : ∀ i v, itemOwner db i = some v → itemOwner db' i = some v)
    (hrows : ∀ r ∈ db'.thirdPartyItems.rows, ∀ i ∈ r.sourceItemId,
      itemOwner db i = some r.userId) : Isolated userId db db' := by
  have htaskOwner : taskOwner db' = taskOwner db := by
    unfold taskOwner
    rw [htasks]
  refine ⟨⟨?_, ?_, ?_, ?_, ?_⟩, ⟨hothers, by rw [htasks], by rw [hnotifications]⟩, howner, ?_⟩
  · exact fun r hr i hi => howner i _ (hrows r hr i hi)
  · rw [htasks]
    exact fun r hr => howner _ _ (h.taskSource r hr)
  · rw [htasks]
    exact fun r hr i hi => howner i _ (h.taskSink r hr i hi)
  · rw [hnotifications]
    exact fun r hr => howner _ _ (h.notificationSource r hr)
  · rw [htaskOwner, hnotifications]
    exact h.notificationTask
  · rw [htaskOwner]
    exact fun _ _ hi => hi

theorem mem_updateNotifications {p : NotificationRow → Bool} {f : NotificationRow → NotificationRow}
    {hf : Assignable db f} {r : NotificationRow} :
    r ∈ (updateNotifications db p f hf).notifications.rows ↔
      ∃ row ∈ db.notifications.rows, (if p row then f row else row) = r :=
  Table.mem_update (e := hf.id)

theorem isolated_updateNotifications (h : Owned db) {p : NotificationRow → Bool}
    {f : NotificationRow → NotificationRow} {hf : Assignable db f}
    (hp : ∀ r ∈ db.notifications.rows, p r = true → r.userId = userId)
    (htask : ∀ r ∈ db.notifications.rows, p r = true → ∀ i ∈ (f r).taskId,
      taskOwner db i = some userId) :
    Isolated userId db (updateNotifications db p f hf) := by
  refine isolated_notifications h rfl rfl (Table.others_map_ite hp hf.userId) ?_
  intro r hr
  obtain ⟨row, hrow, rfl⟩ := mem_updateNotifications.mp hr
  split
  · next hpr =>
    rw [hf.sourceItemId, hf.userId]
    refine ⟨h.notificationSource row hrow, fun i hi => ?_⟩
    rw [htask row hrow hpr i hi, hp row hrow hpr]
  · exact ⟨h.notificationSource row hrow, h.notificationTask row hrow⟩

theorem isolated_patchRow (h : Owned db) {p : NotificationRow → Bool} {patch : NotificationPatch}
    (hp : ∀ r ∈ db.notifications.rows, p r = true → r.userId = userId) :
    Isolated userId db
      (updateNotifications db p (patchRow patch) (assignable_patchRow db patch)) := by
  refine isolated_updateNotifications h hp fun r hr hpr i hi => ?_
  rw [h.notificationTask r hr i hi, hp r hr hpr]

theorem isolated_writeTask (h : Owned db) {now : DateTime} {taskId : TaskId} {patch : TaskPatch}
    {hsink : SinkAssignable db taskId userId patch}
    (hown : ∀ row ∈ db.tasks.rows, ownsTask taskId userId row = true → ∀ sink ∈ patch.sinkItemId,
      itemOwner db sink = some userId) :
    Isolated userId db (writeTask db now taskId patch userId hsink) := by
  have huser : ∀ row : TaskRow, ownsTask taskId userId row = true → row.userId = userId := by
    intro row howns
    simp only [ownsTask, Bool.and_eq_true, beq_iff_eq] at howns
    exact howns.2
  have howner : ∀ i, taskOwner (writeTask db now taskId patch userId hsink) i = taskOwner db i :=
    fun i => Table.ownerOf_update (e := updateTaskRow_id now patch) fun _ => rfl
  refine isolated_tasks h rfl rfl (Table.others_map_ite (fun r _ => huser r) fun _ => rfl)
    (fun i v hi => (howner i).trans hi) ?_
  intro r hr
  obtain ⟨row, hrow, rfl⟩ := (Table.mem_update (e := updateTaskRow_id now patch)).mp hr
  split
  · next howns =>
    refine ⟨h.taskSource row hrow, fun i hi => ?_⟩
    rcases Option.or_eq_some_iff.mp hi with hpatch | ⟨-, hkept⟩
    · exact (hown row hrow howns i hpatch).trans (congrArg some (huser row howns).symm)
    · exact h.taskSink row hrow i hkept
  · exact ⟨h.taskSource row hrow, h.taskSink row hrow⟩

end Statements

/-! The upserts. -/

section Upserts
variable {userId : UserId} {db db' : Database} {item : ThirdPartyItem}
  {status : UpsertStatus ThirdPartyItem}

/-- One upsert of an item whose source item, if any, is stored already. -/
theorem upsert_item (h : Owned db) (huser : item.userId = userId)
    (hsource : ∀ source ∈ item.sourceItem, OwnItem userId db source)
    (hok : ThirdPartyItemUpsert.createOrUpdateThirdPartyItem db item = .ok (db', status)) :
    Isolated userId db db' ∧ OwnItem userId db' status.value := by
  rcases ThirdPartyItemUpsert.createOrUpdateThirdPartyItem_cases hok with
    ⟨row, hrow, hmatch, -, rfl, rfl⟩ | ⟨row, hrow, hmatch, -, hconstraints, rfl, rfl⟩ |
    ⟨-, items, hinsert, hconstraints, rfl, rfl⟩
  · have hown := (ThirdPartyItemUpsert.itemMatches_iff.mp hmatch).2.2.1.trans huser
    exact ⟨.refl h, ownItem_joinItem h hrow hown⟩
  · have hown := (ThirdPartyItemUpsert.itemMatches_iff.mp hmatch).2.2.1.trans huser
    have hselected : ∀ r ∈ db.thirdPartyItems.rows, (r.id == row.id) = true →
        r.userId = userId := by
      intro r hr hid
      rw [Table.eq_of_key hr hrow (beq_iff_eq.mp hid)]
      exact hown
    have hkept : Isolated userId db
        (ThirdPartyItemUpsert.applyUpdate db row.id item hconstraints) := by
      refine isolated_items h rfl rfl (Table.others_map_ite hselected fun _ => rfl)
        (fun i v hi => (Table.ownerOf_update (e := ThirdPartyItemUpsert.updateRow_id item)
          fun _ => rfl).trans hi) ?_
      intro r hr i hi
      obtain ⟨old, hold, rfl⟩ := ThirdPartyItemUpsert.mem_applyUpdate.mp hr
      split at hi
      · next hid =>
        obtain ⟨source, hs, rfl⟩ := Option.map_eq_some_iff.mp hi
        rw [if_pos hid, (hsource source hs).id]
        exact congrArg some (hselected old hold hid).symm
      · next hid =>
        rw [if_neg hid]
        exact h.itemSource old hold i hi
    have hold := (ownItem_joinItem h hrow hown).later hkept
    exact ⟨hkept, .intro _ hold.user hold.id hold.source⟩
  · have hkept : Isolated userId db
        (ThirdPartyItemUpsert.applyInsert db item items hinsert hconstraints) := by
      refine isolated_items h rfl rfl ?_ (fun i v hi => Table.ownerOf_of_insert hinsert hi) ?_
      · show Table.others _ userId items.rows = _
        rw [(Table.insert?_eq_some.mp hinsert).2]
        exact Table.others_append huser
      · intro r hr i hi
        rcases ThirdPartyItemUpsert.mem_applyInsert.mp hr with hold | rfl
        · exact h.itemSource r hold i hi
        · obtain ⟨source, hs, rfl⟩ := Option.map_eq_some_iff.mp hi
          rw [(hsource source hs).id]
          exact congrArg some huser.symm
    refine ⟨hkept, .intro _ huser ?_ fun s hs => (hsource s hs).later hkept⟩
    exact (Table.ownerOf_inserted hinsert).trans (congrArg some huser)

/-- The items that an item nests are stored first, from the innermost. -/
theorem upsert_nested (h : Owned db) (hitem : OfUser userId item)
    (hok : ThirdPartyItemService.createOrUpdateThirdPartyItem db item = .ok (db', status)) :
    Isolated userId db db' ∧ OwnItem userId db' status.value := by
  induction item using ThirdPartyItemUpsert.nested_induction generalizing db' status with
  | leaf item hsource =>
    rw [ThirdPartyItemUpsert.service_leaf hsource] at hok
    exact upsert_item h (ofUser_iff.mp hitem).1 (fun s hs => nomatch hsource.symm.trans hs) hok
  | nested item source hsource ih =>
    obtain ⟨between, sourceStatus, hbetween, hlast⟩ :=
      ThirdPartyItemUpsert.service_cases hsource hok
    obtain ⟨huser, hnested⟩ := ofUser_iff.mp hitem
    obtain ⟨hkept, hown⟩ := ih (hnested source hsource) hbetween
    have hlater : Isolated userId between db' ∧ OwnItem userId db' status.value := by
      refine upsert_item hkept.owned ?_ ?_ hlast
      · exact huser
      · rintro s ⟨⟩
        exact hown
    exact ⟨hkept.trans hlater.1, hlater.2⟩

theorem upsert_task (h : Owned db) {scan : TaskScan db} {request : CreateOrUpdateTaskRequest}
    {status : UpsertStatus Task} (huser : request.userId = userId)
    (hsource : OwnItem userId db request.sourceItem)
    (hsink : ∀ sink ∈ request.sinkItem, OwnItem userId db sink)
    (hok : createOrUpdateTask db scan request = .ok (db', status)) :
    Isolated userId db db' ∧ OwnTask userId db' status.value := by
  cases hfound : TaskUpsert.findExistingTask db scan request with
  | some existing =>
    obtain ⟨row, hrow, -, hjoin⟩ := TaskUpsert.findExistingTask_row hfound
    have hexisting : existing.userId = userId :=
      (TaskUpsert.findExistingTask_userId hfound).trans huser
    obtain ⟨item, -, rfl⟩ := TaskUpsert.joinTask_eq_some hjoin
    have hown := ownTask_joinTask h hrow hexisting hjoin
    rcases TaskUpsert.createOrUpdateTask_cases hfound hok with ⟨rfl, rfl, -⟩ | ⟨hparent, rfl, rfl⟩
    · exact ⟨.refl h, hown⟩
    · have hkept : Isolated userId db (TaskUpsert.applyUpdate db row.id request hparent) := by
        refine isolated_tasks h rfl rfl (Table.others_map_ite ?_ fun _ => rfl)
          (fun i v hi => (Table.ownerOf_update (e := TaskUpsert.updateRow_id request)
            fun _ => rfl).trans hi) ?_
        · intro r hr hid
          rw [Table.eq_of_key hr hrow (beq_iff_eq.mp hid)]
          exact hexisting
        · intro r hr
          obtain ⟨old, hold, rfl⟩ :=
            (Table.mem_update (e := TaskUpsert.updateRow_id request)).mp hr
          split <;> exact ⟨h.taskSource old hold, h.taskSink old hold⟩
      have hlater := hown.later hkept
      exact ⟨hkept, huser, hlater.id, hlater.sourceItem, hlater.sinkItem⟩
  | none =>
    obtain ⟨tasks, hinsert, hrow, rfl, rfl⟩ := TaskUpsert.createOrUpdateTask_new hfound hok
    have hrows : ∀ r, r ∈ tasks.rows ↔
        r ∈ db.tasks.rows ∨ r = TaskUpsert.insertRow request := by
      intro r
      rw [(Table.insert?_eq_some.mp hinsert).2, List.mem_append, List.mem_singleton]
    have hkept : Isolated userId db
        (TaskUpsert.applyInsert db (TaskUpsert.insertRow request) tasks hinsert hrow) := by
      refine isolated_tasks h rfl rfl ?_ (fun i v hi => Table.ownerOf_of_insert hinsert hi) ?_
      · show Table.others _ userId tasks.rows = _
        rw [(Table.insert?_eq_some.mp hinsert).2]
        exact Table.others_append huser
      · intro r hr
        rcases (hrows r).mp hr with hold | rfl
        · exact ⟨h.taskSource r hold, h.taskSink r hold⟩
        · refine ⟨hsource.id.trans (congrArg some huser.symm), fun i hi => ?_⟩
          obtain ⟨sink, hs, rfl⟩ := Option.map_eq_some_iff.mp hi
          exact (hsink sink hs).id.trans (congrArg some huser.symm)
    refine ⟨hkept, huser, ?_, hsource.later hkept, fun s hs => (hsink s hs).later hkept⟩
    exact (Table.ownerOf_inserted hinsert).trans (congrArg some huser)

theorem upsert_notification (h : Owned db) {scan : NotificationScan db} {request : UpsertRequest}
    {status : UpsertStatus Notification}
    (hown : OwnNotification userId db request.notification)
    (hok : upsertNotification db scan request = .ok (db', status)) :
    Isolated userId db db' ∧ OwnNotification userId db' status.value := by
  cases hexisting : (scan.existing request).bind (NotificationUpsert.joinedNotification db) with
  | some existing =>
    obtain ⟨row, hread, hjoin⟩ := Option.bind_eq_some_iff.mp hexisting
    obtain ⟨hrow, hkey⟩ := NotificationUpsert.existing_eq_some hread
    have huser : row.userId = userId :=
      (congrArg NotificationUpsert.SourceKey.userId hkey).trans hown.user
    have hstored := ownNotification_joined h hrow huser hjoin
    obtain ⟨item, -, rfl⟩ := Option.map_eq_some_iff.mp hjoin
    unfold upsertNotification NotificationUpsert.createOrUpdateNotification at hok
    simp only [hexisting] at hok
    split at hok
    · cases hok
      exact ⟨.refl h, hstored⟩
    · cases hok
      have hkept : Isolated userId db (NotificationUpsert.applyUpdate db row.id request) := by
        refine isolated_notifications h rfl rfl (Table.others_map_ite ?_ fun _ => rfl) ?_
        · intro r hr hid
          rw [Table.eq_of_key hr hrow (beq_iff_eq.mp hid)]
          exact huser
        · intro r hr
          obtain ⟨old, hold, rfl⟩ :=
            (Table.mem_update (e := NotificationUpsert.updateRow_id request)).mp hr
          split <;> exact ⟨h.notificationSource old hold, h.notificationTask old hold⟩
      have hlater := hstored.later hkept
      exact ⟨hkept, hlater.user, hlater.sourceItem, hlater.taskId⟩
  | none =>
    obtain ⟨notifications, hinsert, hkeys, rfl, rfl⟩ :=
      NotificationUpsert.upsertNotification_inserts hexisting hok
    have hkept : Isolated userId db (NotificationUpsert.applyInsert db request.notification
        notifications hinsert hkeys) := by
      refine isolated_notifications h rfl rfl ?_ ?_
      · show Table.others _ userId notifications.rows = _
        rw [(Table.insert?_eq_some.mp hinsert).2]
        exact Table.others_append hown.user
      · intro r hr
        replace hr : r ∈ notifications.rows := hr
        rw [(Table.insert?_eq_some.mp hinsert).2, List.mem_append, List.mem_singleton] at hr
        rcases hr with hold | rfl
        · exact ⟨h.notificationSource r hold, h.notificationTask r hold⟩
        · refine ⟨hown.sourceItem.id.trans (congrArg some hown.user.symm), fun i hi => ?_⟩
          exact (hown.taskId i hi).trans (congrArg some hown.user.symm)
    exact ⟨hkept, hown.later hkept⟩

end Upserts

end UniversalInbox.Ownership
