import Mathlib.Data.List.ReduceOption
import UniversalInbox.Ownership
import UniversalInbox.PatchAgreement

/-! Patches work for their user alone. The notifications of a task are written by the task, not
by the user, and are the user's as long as they are linked to tasks of their owner. -/
namespace UniversalInbox.Ownership
open TaskPatching
open NotificationPatching (Assignable UpdateStatus Environment SideEffectAnswers updateNotifications
  assignable_patchRow deletedPatch updateNotification updateNotificationRow)
open PeerService (TaskPatch)
open Results (bind_eq_ok map_eq_ok)
open BulkPatch (patchRow)
open NotificationUpsert (joinedNotification)
open Transaction (Triple)

section TaskTriples
variable {userId : UserId} {taskId : TaskId} {patch : TaskPatch}

/-- A sink that a patch gives to a task of the user is an item of the user. -/
def OwnSink (userId : UserId) (taskId : TaskId) (patch : TaskPatch) (db : Database) : Prop :=
  ∀ row ∈ db.tasks.rows, ownsTask taskId userId row = true → ∀ sink ∈ patch.sinkItemId,
    itemOwner db sink = some userId

/-- An answer about a task, for its owner. -/
def OwnAnswer (userId : UserId) (taskId : TaskId) (status : UpdateStatus Task) (db : Database) :
    Prop :=
  ∀ task ∈ status.result, OwnTask userId db task ∧ task.id = taskId

theorem stable_ownAnswer (status : UpdateStatus Task) :
    (isolation userId).Stable (OwnAnswer userId taskId status) :=
  fun _ _ hkept h task htask => ⟨(h task htask).1.later hkept, (h task htask).2⟩

theorem triple_updateTask {now : DateTime} :
    Triple (isolation userId) (OwnSink userId taskId patch)
      (updateTask now taskId patch userId) (OwnAnswer userId taskId) := by
  intro db h hsink t r hrun
  unfold updateTask at hrun
  split at hrun
  · cases hrun
    exact ⟨.refl h, fun _ ha => nomatch ha⟩
  · split at hrun
    · next hassignable =>
      have hkept : Isolated userId db (writeTask db now taskId patch userId hassignable) :=
        isolated_writeTask h hsink
      cases hrun
      refine ⟨hkept, ?_⟩
      intro status hstatus
      split at hstatus
      · next row hfind =>
        obtain ⟨hrow, huser⟩ := Option.filter_eq_some_iff.mp hfind
        obtain ⟨hmem, hid⟩ := Table.find?_eq_some.mp hrow
        replace huser : row.userId = userId := beq_iff_eq.mp huser
        split at hstatus
        · cases hstatus
          intro task htask
          obtain ⟨sourceItem, hsource, rfl⟩ := Option.map_eq_some_iff.mp htask
          refine ⟨⟨huser, ?_, ?_, ?_⟩, hid⟩
          · exact hkept.taskOwner _ _ (Table.ownerOf_eq_some.mpr ⟨row, hmem, rfl, huser⟩)
          · refine (ownItem_flatItem ?_ hsource).later hkept
            rw [h.taskSource row hmem, huser]
          · intro sink hs
            obtain ⟨i, hi, hread⟩ := Option.bind_eq_some_iff.mp hs
            refine (ownItem_flatItem ?_ hread).later hkept
            rw [h.taskSink row hmem i hi, huser]
        · cases hstatus
      · cases hstatus
        exact fun _ htask => nomatch htask
    · cases hrun

/-- The notifications of a task of the user are notifications of the user. -/
theorem user_of_ofTask {db : Database} (h : Owned db) (htask : taskOwner db taskId = some userId)
    {kind : Option NotificationSourceKind} {row : NotificationRow}
    (hrow : row ∈ db.notifications.rows) (hof : ofTask taskId kind row = true) :
    row.userId = userId := by
  simp only [ofTask, Bool.and_eq_true, beq_iff_eq] at hof
  have howner := h.notificationTask row hrow taskId hof.1
  exact Option.some.inj (howner.symm.trans htask)

theorem triple_updateNotificationsForTask {kind : Option NotificationSourceKind}
    {patch : NotificationPatch} :
    Triple (isolation userId) (fun db => taskOwner db taskId = some userId)
      (updateNotificationsForTask taskId kind patch)
      fun statuses db => ∀ status ∈ statuses, ∀ notification ∈ status.result,
        OwnNotification userId db notification := by
  intro db h htask t r hrun
  unfold updateNotificationsForTask at hrun
  split at hrun
  · cases hrun
    refine ⟨.refl h, ?_⟩
    rintro _ ⟨⟩
  · have hkept : Isolated userId db (updateNotifications db (ofTask taskId kind) (patchRow patch)
        (assignable_patchRow db patch)) :=
      isolated_patchRow h fun row hrow hof => user_of_ofTask h htask hrow hof
    cases hrun
    refine ⟨hkept, ?_⟩
    rintro statuses ⟨⟩ status hstatus notification hread
    obtain ⟨row, hrow, rfl⟩ := List.mem_map.mp hstatus
    obtain ⟨hmem, hof⟩ := List.mem_filter.mp hrow
    have huser : row.userId = userId := user_of_ofTask h htask hmem hof
    have hwritten : patchRow patch row ∈ (updateNotifications db (ofTask taskId kind)
        (patchRow patch) (assignable_patchRow db patch)).notifications.rows :=
      mem_updateNotifications.mpr ⟨row, hmem, if_pos hof⟩
    exact ownNotification_joined hkept.owned hwritten huser hread

theorem triple_deleteNotifications {task : Option Task} :
    Triple (isolation userId)
      (fun db => ∀ t ∈ task, OwnTask userId db t ∧ t.id = taskId)
      (deleteNotifications taskId patch task) fun _ _ => True := by
  unfold deleteNotifications
  split
  · next hcond =>
    cases htask : task with
    | none => simp [htask] at hcond
    | some t =>
      refine Triple.seq (Q := fun _ _ => True) ?_ fun _ => Triple.pure fun _ _ _ => trivial
      refine triple_updateNotificationsForTask.weaken ?_ fun _ _ _ _ => trivial
      intro db _ hown
      obtain ⟨htask, hid⟩ := hown t rfl
      rw [← hid]
      exact htask.id
  · exact Triple.pure fun _ _ _ => trivial

/-- `patch_task`, for the user it is called for. -/
theorem triple_patchTask {env : Environment} {answers : SideEffectAnswers} :
    Triple (isolation userId) (OwnSink userId taskId patch)
      (patchTask env taskId patch answers userId) (OwnAnswer userId taskId) := by
  unfold patchTask
  refine triple_updateTask.seq fun status => ?_
  refine Triple.bind (stable_ownAnswer status) triple_deleteNotifications fun _ => ?_
  split
  · refine Triple.bind ((stable_ownAnswer _).and fun _ _ _ h => h)
      (Triple.answer fun _ _ _ _ _ => trivial) fun _ => ?_
    exact Triple.pure fun _ _ h => h.1.1
  · refine Triple.bind ((stable_ownAnswer _).and fun _ _ _ h => h) Triple.get fun db => ?_
    split
    · exact Triple.fail
    · exact Triple.pure fun _ _ h => h.1.1
  · exact Triple.pure fun _ _ h => h.1

end TaskTriples

/-! The two columns of a task that patching a notification writes. -/

section StatusAndBody
variable {userId : UserId} {taskId : TaskId} {patch : TaskPatch} {env : Environment}
  {db db' : Database} {answers : SideEffectAnswers} {status : UpdateStatus Task}

/-- A patch of the status or of the body, and of nothing else. -/
structure StatusOrBody (patch : TaskPatch) : Prop where
  projectName : patch.projectName = none
  dueAt : patch.dueAt = none
  priority : patch.priority = none
  title : patch.title = none
  sinkItemId : patch.sinkItemId = none
  writes : isDefault patch = false

theorem statusOrBody_deleteTaskPatch : StatusOrBody NotificationPatching.deleteTaskPatch :=
  ⟨rfl, rfl, rfl, rfl, rfl, rfl⟩

theorem statusOrBody_linkTaskPatch {task : Task} {notification : Notification} :
    StatusOrBody (NotificationPatching.linkTaskPatch env task notification) :=
  ⟨rfl, rfl, rfl, rfl, rfl, rfl⟩

theorem sinkAssignable_of_none (h : patch.sinkItemId = none) :
    SinkAssignable db taskId userId patch := by
  constructor
  · intro _ _ _ sink hsink
    rw [h] at hsink
    cases hsink
  · intro _ _ _ sink hsink
    rw [h] at hsink
    cases hsink

theorem updateTaskRow_eq (h : StatusOrBody patch) (now : DateTime) (row : TaskRow) :
    updateTaskRow now patch row = NotificationPatching.updateTaskRow now patch row := by
  unfold updateTaskRow NotificationPatching.updateTaskRow
  rw [h.projectName, h.dueAt, h.priority, h.title, h.sinkItemId]
  rfl

theorem writeTask_eq (h : StatusOrBody patch) {now : DateTime}
    {hsink : SinkAssignable db taskId userId patch} :
    writeTask db now taskId patch userId hsink =
      NotificationPatching.writeTask db now taskId patch userId := by
  have htasks : db.tasks.update (ownsTask taskId userId) (updateTaskRow now patch)
      (updateTaskRow_id now patch) =
      db.tasks.update (fun r => r.id == taskId && r.userId == userId)
        (NotificationPatching.updateTaskRow now patch)
        (NotificationPatching.updateTaskRow_id now patch) := by
    unfold Table.update
    simp only [updateTaskRow_eq h, ownsTask]
  unfold writeTask NotificationPatching.writeTask
  simp only [htasks]

theorem isUpdated_eq (h : StatusOrBody patch) (row : TaskRow) :
    isUpdated patch row = some (NotificationPatching.taskIsUpdated patch row) := by
  unfold isUpdated NotificationPatching.taskIsUpdated
  rw [h.projectName, h.dueAt, h.priority, h.title, h.sinkItemId]
  cases patch.status <;> cases patch.body <;>
    simp [List.reduceOption_cons_of_some, List.reduceOption_cons_of_none, List.reduceOption_nil,
      orNull_some, bne_comm (a := row.status), bne_comm (a := row.body)]

/-- The notifications of a task, of every kind. -/
theorem updateNotificationsForTask_eq :
    updateNotificationsForTask taskId none deletedPatch db =
      some (NotificationPatching.updateNotificationsForTask db taskId deletedPatch,
        .ok ((db.notifications.rows.filter (ofTask taskId none)).map fun row =>
          ⟨NotificationPatching.isUpdated deletedPatch row,
            joinedNotification (NotificationPatching.updateNotificationsForTask db taskId
              deletedPatch) (patchRow deletedPatch row)⟩)) := by
  have hwhere : ofTask taskId none = fun row => row.taskId == some taskId :=
    funext fun row => Bool.and_true _
  unfold updateNotificationsForTask NotificationPatching.updateNotificationsForTask
  rw [if_neg (by decide)]
  simp only [hwhere]
  rfl

theorem returning_eq (h : StatusOrBody patch) {now : DateTime} {row : TaskRow}
    (hrow : db.tasks.find? taskId = some row) (huser : row.userId = userId) :
    (NotificationPatching.writeTask db now taskId patch userId).getTask taskId =
      returning db now patch row := by
  have hid : row.id = taskId := (Table.find?_eq_some.mp hrow).2
  have hfind : (NotificationPatching.writeTask db now taskId patch userId).tasks.find? taskId =
      some (NotificationPatching.updateTaskRow now patch row) := by
    unfold NotificationPatching.writeTask
    rw [Table.find?_update, hrow, Option.map_some, if_pos (by simp [hid, huser])]
  unfold Database.getTask returning
  rw [hfind, Option.bind_some, updateTaskRow_eq h]
  rfl

theorem updateTask_eq (h : StatusOrBody patch) {now : DateTime} :
    updateTask now taskId patch userId db =
      some ((NotificationPatching.updateTask db now taskId patch userId).1,
        .ok (NotificationPatching.updateTask db now taskId patch userId).2) := by
  unfold updateTask NotificationPatching.updateTask
  rw [if_neg (by simp [h.writes]), dif_pos (sinkAssignable_of_none h.sinkItemId), writeTask_eq h]
  cases hfind : (db.tasks.find? taskId).filter (·.userId == userId) with
  | none => rfl
  | some row =>
    obtain ⟨hrow, huser⟩ := Option.filter_eq_some_iff.mp hfind
    simp only [isUpdated_eq h, returning_eq h hrow (beq_iff_eq.mp huser)]

theorem deleteNotifications_eq (task : Option Task) :
    deleteNotifications taskId patch task db =
      some (if task.any (fun task => task.kind == .todoist || task.kind == .tickTick) &&
          patch.status.isSome then
          NotificationPatching.updateNotificationsForTask db taskId deletedPatch
        else db, .ok ()) := by
  unfold deleteNotifications
  split
  · show Transaction.bind _ _ db = _
    unfold Transaction.bind
    rw [updateNotificationsForTask_eq]
    rfl
  · rfl

/-- The other model of `patch_task` is this one, where it applies. -/
theorem patchTask_eq (h : StatusOrBody patch)
    (hok : NotificationPatching.patchTask env db taskId patch answers userId =
      .ok (db', status)) :
    patchTask env taskId patch answers userId db = some (db', .ok status) := by
  unfold NotificationPatching.patchTask at hok
  unfold patchTask
  show Transaction.bind _ _ db = _
  unfold Transaction.bind
  rw [updateTask_eq h]
  have hknown : ((NotificationPatching.updateTask db env.now taskId patch userId).1.tasks.find?
      taskId).isSome = (db.tasks.find? taskId).isSome :=
    Table.find?_isSome_update (e := NotificationPatching.updateTaskRow_id env.now patch)
  generalize NotificationPatching.updateTask db env.now taskId patch userId = updated
    at hok hknown ⊢
  obtain ⟨written, updatedTask⟩ := updated
  simp only at hok hknown ⊢
  show Transaction.bind _ _ written = _
  unfold Transaction.bind
  rw [deleteNotifications_eq]
  obtain ⟨_ | _, _ | task⟩ := updatedTask
  · simp only [Option.any_none, Bool.false_and, Bool.false_eq_true, if_false] at hok ⊢
    show Transaction.bind _ _ written = _
    unfold Transaction.bind Transaction.get
    simp only [hknown]
    split at hok
    · cases hok
    · next hnone =>
      rw [if_neg hnone]
      cases hok
      rfl
  · cases hok
    rfl
  · cases hok
    rfl
  · obtain ⟨_, heffects, hreturn⟩ := map_eq_ok.mp hok
    cases hreturn
    show Transaction.bind _ _ _ = _
    unfold Transaction.bind Transaction.answer
    rw [heffects]
    rfl

/-- A patch of the status or of the body works for its user alone. -/
theorem isolated_patchTask (h : Owned db) (hpatch : StatusOrBody patch)
    (hok : NotificationPatching.patchTask env db taskId patch answers userId =
      .ok (db', status)) : Isolated userId db db' := by
  refine (triple_patchTask db h ?_ db' _ (patchTask_eq hpatch hok)).1
  intro _ _ _ sink hsink
  rw [hpatch.sinkItemId] at hsink
  cases hsink

end StatusAndBody

/-! The side effects of patching a notification. -/

section SideEffects
variable {userId : UserId} {env : Environment} {db db' : Database} {item : ThirdPartyItem}
  {notification : Notification} {patch : NotificationPatch} {taskId : TaskId}

/-- Telling a source about a patch stores its item anew at most. -/
theorem applyUpdatedNotificationSideEffect_cases
    {service : NotificationPatching.NotificationSourceService}
    {answer : Except UniversalInboxError Unit}
    (hok : NotificationPatching.applyUpdatedNotificationSideEffect env db service patch item
      answer = .ok db') :
    db' = db ∨ ∃ data status, ThirdPartyItemUpsert.createOrUpdateThirdPartyItem db
      { item with data } = .ok (db', status) := by
  have hthread : ∀ {content : String → String} {written : Database},
      NotificationPatching.updateSlackThread db item content = .ok written →
        written = db ∨ ∃ data status, ThirdPartyItemUpsert.createOrUpdateThirdPartyItem db
          { item with data } = .ok (written, status) := by
    intro content written h
    unfold NotificationPatching.updateSlackThread at h
    split at h
    · obtain ⟨⟨db'', status⟩, hupsert, rfl⟩ := map_eq_ok.mp h
      exact .inr ⟨_, status, hupsert⟩
    · cases h
      exact .inl rfl
  unfold NotificationPatching.applyUpdatedNotificationSideEffect at hok
  split at hok
  · obtain ⟨written, hwritten, hcall⟩ := bind_eq_ok.mp hok
    obtain ⟨_, -, hreturn⟩ := bind_eq_ok.mp hcall
    cases hreturn
    exact hthread hwritten
  · obtain ⟨written, hwritten, hcall⟩ := bind_eq_ok.mp hok
    obtain ⟨_, -, hreturn⟩ := bind_eq_ok.mp hcall
    cases hreturn
    exact hthread hwritten
  all_goals
    split at hok
    · obtain ⟨_, -, hdb⟩ := map_eq_ok.mp hok
      exact .inl hdb.symm
    · cases hok
      exact .inl rfl

/-- What the side effects at the source are made of: items stored anew, and a patch of the task
of a task manager. -/
theorem applySourceSideEffects_induct {R : Database → Database → Prop}
    {applyTaskSideEffects : Bool} (hrefl : ∀ db, R db db)
    (htrans : ∀ {db between db'}, R db between → R between db' → R db db')
    (hitem : ∀ {db db' item data status},
      (item = notification.sourceItem ∨ notification.sourceItem.sourceItem = some item) →
        ThirdPartyItemUpsert.createOrUpdateThirdPartyItem db { item with data } =
          .ok (db', status) → R db db')
    (htask : ∀ {db db' taskId answers status},
      NotificationPatching.patchTask env db taskId NotificationPatching.deleteTaskPatch answers
        userId = .ok (db', status) → R db db')
    (hok : NotificationPatching.applySourceSideEffects env db notification patch
      applyTaskSideEffects userId = .ok db') : R db db' := by
  have hsource : ∀ {db db' service item answer},
      (item = notification.sourceItem ∨ notification.sourceItem.sourceItem = some item) →
        NotificationPatching.applyUpdatedNotificationSideEffect env db service patch item answer =
          .ok db' → R db db' := by
    intro db db' service item answer hof h
    rcases applyUpdatedNotificationSideEffect_cases h with rfl | ⟨data, status, hupsert⟩
    · exact hrefl _
    · exact hitem hof hupsert
  have hmanager : ∀ {db db' : Database}, NotificationPatching.applyTaskManagerSideEffects env db
      notification patch applyTaskSideEffects userId = .ok db' → R db db' := by
    intro db db' h
    unfold NotificationPatching.applyTaskManagerSideEffects at h
    split at h
    · split at h
      · split at h
        · obtain ⟨⟨db'', status⟩, hpatch, rfl⟩ := map_eq_ok.mp h
          exact htask hpatch
        · cases h
          exact hrefl _
      · cases h
    · split at h
      · cases h
      · cases h
        exact hrefl _
  unfold NotificationPatching.applySourceSideEffects at hok
  simp only at hok
  split at hok
  · exact hsource (.inl rfl) hok
  · exact hsource (.inl rfl) hok
  · obtain ⟨between, hthread, hevent⟩ := bind_eq_ok.mp hok
    refine htrans ?_ (hsource (.inl rfl) hevent)
    unfold NotificationPatching.applyGoogleMailThreadSideEffect at hthread
    split at hthread
    · next thread hof => exact hsource (.inr (Option.filter_eq_some_iff.mp hof).1) hthread
    · cases hthread
      exact hrefl _
  · exact hsource (.inl rfl) hok
  · exact hsource (.inl rfl) hok
  · split at hok
    · exact hsource (.inl rfl) hok
    · exact hsource (.inl rfl) hok
    · cases hok
  · exact hmanager hok
  · exact hmanager hok
  · cases hok
    exact hrefl _

theorem isolated_applySourceSideEffects {applyTaskSideEffects : Bool} (h : Owned db)
    (hown : OwnItem userId db notification.sourceItem)
    (hok : NotificationPatching.applySourceSideEffects env db notification patch
      applyTaskSideEffects userId = .ok db') : Isolated userId db db' := by
  refine applySourceSideEffects_induct (R := fun db db' => Owned db →
    OwnItem userId db notification.sourceItem → Isolated userId db db') ?_ ?_ ?_ ?_ hok h hown
  · exact fun _ h _ => .refl h
  · intro _ _ _ hfirst hthen h hown
    have hkept := hfirst h hown
    exact hkept.trans (hthen hkept.owned (hown.later hkept))
  · intro db _ item data status hof hupsert h hown
    have hitem : OwnItem userId db item := by
      rcases hof with rfl | hnested
      · exact hown
      · exact hown.source item hnested
    refine (upsert_item h ?_ ?_ hupsert).1
    · exact hitem.user
    · exact hitem.source
  · exact fun hpatch h _ => isolated_patchTask h statusOrBody_deleteTaskPatch hpatch

theorem taskOwner_patchTask {patch : TaskPatch} {answers : SideEffectAnswers}
    {status : UpdateStatus Task}
    (hok : NotificationPatching.patchTask env db taskId patch answers userId =
      .ok (db', status)) : taskOwner db' = taskOwner db := by
  have hwritten : ∀ updated : Bool,
      taskOwner (if updated then
          NotificationPatching.updateNotificationsForTask
            (NotificationPatching.writeTask db env.now taskId patch userId) taskId deletedPatch
        else NotificationPatching.writeTask db env.now taskId patch userId) = taskOwner db := by
    intro updated
    cases updated <;>
      exact funext fun _ => Table.ownerOf_update
        (e := NotificationPatching.updateTaskRow_id env.now patch) fun _ => rfl
  unfold NotificationPatching.patchTask NotificationPatching.updateTask at hok
  simp only at hok
  split at hok
  · obtain ⟨_, -, hreturn⟩ := map_eq_ok.mp hok
    cases hreturn
    exact hwritten _
  · split at hok
    · cases hok
    · cases hok
      exact hwritten _
  · cases hok
    exact hwritten _

theorem taskOwner_of_getTask {task : Task} (htask : db.getTask taskId = some task)
    (huser : task.userId = userId) : taskOwner db taskId = some userId := by
  obtain ⟨row, hfind, hjoin⟩ := Option.bind_eq_some_iff.mp htask
  obtain ⟨item, -, rfl⟩ := TaskUpsert.joinTask_eq_some hjoin
  obtain ⟨hrow, hid⟩ := Table.find?_eq_some.mp hfind
  exact Table.ownerOf_eq_some.mpr ⟨row, hrow, hid, huser⟩

/-- No side effect makes a task change hands. -/
theorem taskOwner_applySourceSideEffects {applyTaskSideEffects : Bool}
    (hok : NotificationPatching.applySourceSideEffects env db notification patch
      applyTaskSideEffects userId = .ok db') : taskOwner db' = taskOwner db := by
  refine applySourceSideEffects_induct (R := fun db db' => taskOwner db' = taskOwner db)
    (fun _ => rfl) (fun hfirst hthen => hthen.trans hfirst) ?_ ?_ hok
  · intro _ _ _ _ _ _ hupsert
    unfold taskOwner
    rw [(ThirdPartyItemUpsert.createOrUpdateThirdPartyItem_upserted hupsert).tasks]
  · exact taskOwner_patchTask

theorem isolated_linkNotificationWithTask (h : Owned db)
    (hok : NotificationPatching.linkNotificationWithTask env db notification taskId userId =
      .ok db') : Isolated userId db db' := by
  unfold NotificationPatching.linkNotificationWithTask at hok
  split at hok
  · cases hok
  · split at hok
    · cases hok
    · obtain ⟨⟨written, status⟩, hpatch, hreturn⟩ := bind_eq_ok.mp hok
      dsimp only at hreturn
      split at hreturn
      · cases hreturn
        exact isolated_patchTask h statusOrBody_linkTaskPatch hpatch
      · cases hreturn

/-- Only the owner of a task gets a notification linked to it. -/
theorem taskOwner_of_link
    (hok : NotificationPatching.linkNotificationWithTask env db notification taskId userId =
      .ok db') : taskOwner db taskId = some userId := by
  unfold NotificationPatching.linkNotificationWithTask at hok
  split at hok
  · cases hok
  · next task htask =>
    split at hok
    · cases hok
    · next huser => exact taskOwner_of_getTask htask (not_not.mp huser)

theorem isolated_applyNotificationSideEffects {applyTaskSideEffects : Bool} (h : Owned db)
    (hown : OwnItem userId db notification.sourceItem)
    (hok : NotificationPatching.applyNotificationSideEffects env db notification patch
      applyTaskSideEffects userId = .ok db') : Isolated userId db db' := by
  unfold NotificationPatching.applyNotificationSideEffects at hok
  split at hok
  · cases hok
    exact .refl h
  · obtain ⟨between, hsource, hlink⟩ := bind_eq_ok.mp hok
    have hkept := isolated_applySourceSideEffects h hown hsource
    split at hlink
    · split at hlink
      · exact hkept.trans (isolated_linkNotificationWithTask hkept.owned hlink)
      · cases hlink
        exact hkept
    · cases hlink
      exact hkept

/-- The side effects of a link succeed for the owner of the task alone. -/
theorem taskOwner_of_applyNotificationSideEffects (htesting : env.isTesting = false)
    (htask : patch.taskId = some taskId)
    (hok : NotificationPatching.applyNotificationSideEffects env db notification patch true
      userId = .ok db') : taskOwner db taskId = some userId := by
  unfold NotificationPatching.applyNotificationSideEffects at hok
  rw [htesting, if_neg Bool.false_ne_true] at hok
  obtain ⟨between, hsource, hlink⟩ := bind_eq_ok.mp hok
  rw [htask] at hlink
  rw [← taskOwner_applySourceSideEffects hsource]
  exact taskOwner_of_link hlink

end SideEffects

/-! Patching one notification. -/

section PatchNotification
variable {userId : UserId} {env : Environment} {db db' : Database} {id : NotificationId}
  {patch : NotificationPatch} {status : UpdateStatus Notification}

/-- The task that a patch links a notification of the user to is a task of the user. -/
def OwnLink (userId : UserId) (id : NotificationId) (patch : NotificationPatch) (db : Database) :
    Prop :=
  ∀ row ∈ db.notifications.rows, NotificationPatching.owns id userId row = true →
    ∀ i ∈ patch.taskId, taskOwner db i = some userId

theorem isolated_updateNotification (h : Owned db) (hlink : OwnLink userId id patch db)
    (hok : updateNotification db id patch userId = .ok (db', status)) :
    Isolated userId db db' ∧
      ∀ notification ∈ status.result, OwnNotification userId db' notification := by
  unfold updateNotification at hok
  split at hok
  · cases hok
  · split at hok
    · next hknown =>
      have hkept : Isolated userId db (updateNotifications db (NotificationPatching.owns id userId)
          (updateNotificationRow patch)
          (NotificationPatching.assignable_updateNotificationRow hknown)) := by
        refine isolated_updateNotifications h ?_ ?_
        · intro r _ howns
          simp only [NotificationPatching.owns, Bool.and_eq_true, beq_iff_eq] at howns
          exact howns.2
        · intro r hr howns i hi
          rcases Option.or_eq_some_iff.mp hi with hpatch | ⟨-, hrow⟩
          · exact hlink r hr howns i hpatch
          · simp only [NotificationPatching.owns, Bool.and_eq_true, beq_iff_eq] at howns
            rw [h.notificationTask r hr i hrow, howns.2]
      cases hok
      refine ⟨hkept, ?_⟩
      intro notification hread
      split at hread
      · next row hfind =>
        obtain ⟨hfound, huser⟩ := Option.filter_eq_some_iff.mp hfind
        obtain ⟨hrow, hid⟩ := Table.find?_eq_some.mp hfound
        replace huser : (updateNotificationRow patch row).userId = userId := beq_iff_eq.mp huser
        refine ownNotification_joined hkept.owned ?_ huser hread
        refine mem_updateNotifications.mpr ⟨row, hrow, if_pos ?_⟩
        unfold NotificationPatching.owns
        rw [hid, beq_self_eq_true, Bool.true_and]
        exact beq_iff_eq.mpr huser
      · cases hread
    · cases hok

/-- A patch of one notification whose task is the user's own. -/
theorem isolated_patchNotification {applyTaskSideEffects applySideEffects : Bool} (h : Owned db)
    (hlink : OwnLink userId id patch db)
    (hok : NotificationPatching.patchNotification env db id patch applyTaskSideEffects
      applySideEffects userId = .ok (db', status)) :
    Isolated userId db db' ∧
      ∀ notification ∈ status.result, OwnNotification userId db' notification := by
  obtain ⟨⟨written, updated⟩, hupdate, hthen⟩ := bind_eq_ok.mp hok
  obtain ⟨hkept, hown⟩ := isolated_updateNotification h hlink hupdate
  dsimp only at hthen
  split at hthen
  · cases hthen
    exact ⟨hkept, hown⟩
  · split at hthen
    · next notification =>
      obtain ⟨after, hside, hreturn⟩ := map_eq_ok.mp hthen
      cases hreturn
      have hlater := isolated_applyNotificationSideEffects hkept.owned
        (hown notification rfl).sourceItem hside
      exact ⟨hkept.trans hlater, fun n hn => (hown n hn).later hlater⟩
    · split at hthen
      · cases hthen
      · cases hthen
        exact ⟨hkept, hown⟩
    · cases hthen
      exact ⟨hkept, hown⟩

/-- A link that is not the user's own is refused, but for a test account: there the task must be
the user's by itself. -/
theorem ownLink_of_patchNotification (h : Owned db)
    (htesting : env.isTesting = true → ∀ row ∈ db.notifications.rows,
      NotificationPatching.owns id userId row = true → ∀ i ∈ patch.taskId,
        ∀ task ∈ db.tasks.rows, task.id = i → task.userId = userId)
    (hok : NotificationPatching.patchNotification env db id patch true true userId =
      .ok (db', status)) : OwnLink userId id patch db := by
  intro row hrow howns i hi
  obtain ⟨written, hupdate, hthen⟩ := NotificationPatching.patchNotification_cases hok
  unfold updateNotification at hupdate
  split at hupdate
  · cases hupdate
  · split at hupdate
    · next hknown =>
      cases htest : env.isTesting with
      | true =>
        obtain ⟨task, htask, hid⟩ := Table.find?_isSome.mp (hknown i hi)
        exact Table.ownerOf_eq_some.mpr ⟨task, htask, hid, htesting htest row hrow howns i hi task
          htask hid⟩
      | false =>
        simp only [NotificationPatching.owns, Bool.and_eq_true, beq_iff_eq] at howns
        by_cases hsame : row.taskId = some i
        · rw [h.notificationTask row hrow i hsame, howns.2]
        · have hfind : (db.notifications.find? id).filter (·.userId == userId) = some row :=
            Option.filter_eq_some_iff.mpr
              ⟨Table.find?_eq_some.mpr ⟨hrow, howns.1⟩, beq_iff_eq.mpr howns.2⟩
          rw [hfind] at hupdate
          cases hupdate
          have hupdated : NotificationPatching.isUpdated patch row = true := by
            unfold NotificationPatching.isUpdated
            rw [hi]
            simp [hsame]
          rcases hthen with ⟨-, n, -, hside⟩ | ⟨hnot, -⟩
          · have howner := taskOwner_of_applyNotificationSideEffects htest hi hside
            exact howner
          · rcases hnot with hnot | hnot
            · exact absurd (hupdated.symm.trans hnot) (by decide)
            · obtain ⟨item, hitem, -⟩ := NotificationUpsert.joinedNotification_of_mem hrow
              replace hnot : (db.nestedItem row.sourceItemId).map
                  (NotificationUpsert.intoNotification (updateNotificationRow patch row)) = none :=
                hnot
              rw [hitem] at hnot
              cases hnot
    · cases hupdate

end PatchNotification

end UniversalInbox.Ownership
