import UniversalInbox.ItemSync
import UniversalInbox.PatchIsolation

/-! Syncs work for their user alone. What a service fetches for a user is the user's, and so is all
that is stored, linked and returned because of it. -/
namespace UniversalInbox.Ownership
open ItemSync
open FullTaskSync (markedAsDone modifiedValue getStaleTaskSourceThirdPartyItems)
open InboxNotifications (TaskCreationResult isModified)
open NotificationPatching (UpdateStatus assignable_patchRow deletedPatch)
open TaskUpsert (UpsertStatus)
open Transaction (Triple)

section Stable
variable {userId : UserId}

theorem stable_ownItem (item : ThirdPartyItem) :
    (isolation userId).Stable fun db => OwnItem userId db item :=
  fun _ _ hkept h => h.later hkept

theorem stable_ownTask (task : Task) : (isolation userId).Stable fun db => OwnTask userId db task :=
  fun _ _ hkept h => h.later hkept

theorem stable_ownNotification (notification : Notification) :
    (isolation userId).Stable fun db => OwnNotification userId db notification :=
  fun _ _ hkept h => h.later hkept

theorem OwnItem.ofUser {db : Database} {item : ThirdPartyItem} (h : OwnItem userId db item) :
    OfUser userId item := by
  induction h with
  | intro item user _ _ ih => exact ofUser_iff.mpr ⟨user, ih⟩

end Stable

section Items
variable {c : Context} {userId : UserId} {item : ThirdPartyItem}
  {service : StalePass.ThirdPartyItemSourceService} {P : Database → Prop}

theorem triple_upsertItem (hitem : OfUser userId item) :
    Triple (isolation userId) P (upsertItem item) fun status db =>
      OwnItem userId db status.value :=
  Triple.statement fun _ _ _ h _ hok => upsert_nested h hitem hok

/-- Marking an item as done keeps its user and the items it nests. -/
theorem ofUser_markedAsDone {codec : FullTaskSync.Codec} {times : FullTaskSync.MarkTimes}
    (h : OfUser userId item) : OfUser userId (markedAsDone codec times item) := by
  obtain ⟨huser, hsource⟩ := ofUser_iff.mp h
  unfold markedAsDone
  split
  · refine ofUser_iff.mpr ⟨?_, ?_⟩
    · exact huser
    · exact hsource
  · exact h

theorem ownItem_modifiedValue {db : Database} {statuses : List (UpsertStatus ThirdPartyItem)}
    (h : ∀ status ∈ statuses, OwnItem userId db status.value) :
    ∀ item ∈ statuses.filterMap modifiedValue, OwnItem userId db item := by
  intro item hitem
  obtain ⟨status, hstatus, hvalue⟩ := List.mem_filterMap.mp hitem
  have hown := h status hstatus
  cases status <;> cases hvalue <;> exact hown

/-- The stale items are those of the user. -/
theorem ownItem_stale {db : Database} (h : Owned db) {scan : FullTaskSync.ThirdPartyItemScan db}
    {ids : List ThirdPartyItemId} {kind : TaskSourceKind} :
    ∀ item ∈ getStaleTaskSourceThirdPartyItems db scan ids kind userId, OwnItem userId db item := by
  intro item hitem
  obtain ⟨row, hrow, rfl⟩ := List.mem_map.mp hitem
  obtain ⟨hmem, hstale⟩ := List.mem_filter.mp hrow
  simp only [Bool.and_eq_true, beq_iff_eq] at hstale
  exact ownItem_joinItem h (scan.perm.mem_iff.mp hmem) hstale.2

theorem stable_ownItems (items : List ThirdPartyItem) :
    (isolation userId).Stable fun db => ∀ item ∈ items, OwnItem userId db item :=
  fun _ _ hkept h item hitem => (h item hitem).later hkept

theorem isolated_deleteStale {db : Database} (h : Owned db) {ids : List ThirdPartyItemId}
    {kind : NotificationSourceKind} : Isolated userId db
      (NotificationSync.deleteStaleNotificationsStatusFromSourceIds db ids kind userId) := by
  refine isolated_patchRow h fun row _ hstale => ?_
  simp only [StalePass.isStaleNotification, Bool.and_eq_true, beq_iff_eq] at hstale
  exact hstale.2

theorem triple_retireStale {items : List ThirdPartyItem} :
    Triple (isolation userId) (fun db => ∀ item ∈ items, OwnItem userId db item)
      (retireStale c userId service items) fun values db =>
        ∀ item ∈ values, OwnItem userId db item := by
  unfold retireStale
  dsimp only
  split
  · refine Triple.get.seq fun db => ?_
    refine Triple.assume (p := Owned db) (fun s h hdb => hdb.1 ▸ h) fun hdb => ?_
    refine Triple.weaken (P := fun s => ∀ item ∈ items, OwnItem userId s item) ?_
      (fun _ h => And.right) fun _ _ _ h => h
    refine Triple.bind (stable_ownItems items)
      (Triple.each (stable_ownItems items) (fun status => stable_ownItem status.value)
        fun item hitem => triple_upsertItem (ofUser_markedAsDone (ownItem_stale hdb item hitem).ofUser))
      fun statuses => ?_
    refine Triple.pure fun s _ h item hitem => ?_
    rcases List.mem_append.mp hitem with hold | hmarked
    · exact h.1 item hold
    · exact ownItem_modifiedValue h.2 item hmarked
  · refine Triple.bind (Q := fun _ _ => True) (stable_ownItems items)
      (Triple.modify (fun s h _ => isolated_deleteStale h) fun _ _ _ => trivial) fun _ => ?_
    exact Triple.pure fun _ _ h => h.1
  · exact Triple.fail

theorem triple_syncItems {fetched : Except UniversalInboxError (List (UserItem userId))} :
    Triple (isolation userId) P (syncItems c userId service fetched) fun values db =>
      ∀ item ∈ values, OwnItem userId db item := by
  unfold syncItems
  split
  · exact Triple.pure fun _ _ _ item hitem => (List.not_mem_nil hitem).elim
  · refine Triple.seq (Q := fun _ _ => True) (Triple.answer fun _ _ _ _ _ => trivial) fun items => ?_
    refine Triple.seq (Triple.each (T := fun status db => OwnItem userId db status.value)
      (fun _ _ _ h => h) (fun status => stable_ownItem status.value)
      fun item _ => triple_upsertItem item.user) fun statuses => ?_
    have hvalues : ∀ s, (∀ status ∈ statuses, OwnItem userId s status.value) →
        ∀ item ∈ statuses.map (·.value), OwnItem userId s item := by
      intro s h item hitem
      obtain ⟨status, hstatus, rfl⟩ := List.mem_map.mp hitem
      exact h status hstatus
    split
    · exact Triple.pure fun s _ h => hvalues s h
    · exact triple_retireStale.weaken (fun s _ h => hvalues s h) fun _ _ _ h => h

end Items

/-! The task of an item, with its sink. -/

section Tasks
variable {c : Context} {userId : UserId} {item : ThirdPartyItem} {answers : TaskAnswers}
  {task newTask oldTask : Task} {kind : IntegrationProviderKind}

theorem triple_createSinkItemFromTaskWithService {overwriteExistingSinkItem : Bool} :
    Triple (isolation userId) (fun db => OwnTask userId db task)
      (createSinkItemFromTaskWithService c answers task overwriteExistingSinkItem)
      fun task' db => OwnTask userId db task' := by
  refine Triple.assume (p := task.userId = userId) (fun _ _ h => h.user) fun huser => ?_
  subst huser
  unfold createSinkItemFromTaskWithService
  split
  · exact Triple.fail
  · split
    · exact Triple.pure fun _ _ h => h
    · refine Triple.bind (Q := fun _ _ => True) (stable_ownTask task)
        (Triple.answer fun _ _ _ _ _ => trivial) fun sink => ?_
      refine Triple.bind ((stable_ownTask task).and fun _ _ _ h => h)
        (triple_upsertItem sink.user) fun upserted => ?_
      refine Triple.bind (((stable_ownTask task).and fun _ _ _ h => h).and
        (stable_ownItem upserted.value)) (triple_patchTask.weaken ?_ fun _ _ _ h => h) fun _ => ?_
      · intro s _ h row _ _ i hi
        cases hi
        exact h.2.id
      · refine Triple.pure fun s _ h => ⟨h.1.1.1.user, h.1.1.1.id, h.1.1.1.sourceItem, ?_⟩
        rintro _ ⟨⟩
        exact h.1.2

theorem triple_createSinkItemFromTask {overwriteExistingSinkItem : Bool} :
    Triple (isolation userId) (fun db => OwnTask userId db task)
      (createSinkItemFromTask c answers task overwriteExistingSinkItem kind)
      fun task' db => OwnTask userId db task' := by
  unfold createSinkItemFromTask
  split
  · exact triple_createSinkItemFromTaskWithService
  · exact triple_createSinkItemFromTaskWithService
  · exact Triple.fail

theorem triple_updatePeer {peer : ThirdPartyItem} :
    Triple (isolation userId) (fun db => OwnTask userId db newTask)
      (updatePeer c answers newTask oldTask peer kind)
      fun status db => OwnTask userId db status.value := by
  unfold updatePeer
  split
  · split
    · exact Triple.fail
    · exact triple_createSinkItemFromTask.seq fun _ => Triple.pure fun _ _ h => h
  · exact Triple.fail
  · exact Triple.pure fun _ _ h => h

theorem triple_applySyncedTaskSideEffect {upsertTask : UpsertStatus Task} :
    Triple (isolation userId) (fun db => OwnTask userId db upsertTask.value)
      (applySyncedTaskSideEffect c answers item upsertTask)
      fun status db => OwnTask userId db status.value := by
  unfold applySyncedTaskSideEffect
  dsimp only
  cases upsertTask with
  | created task =>
    dsimp only
    split
    · exact Triple.pure fun _ _ h => h
    · exact triple_createSinkItemFromTask.seq fun _ => Triple.pure fun _ _ h => h
  | updated newTask oldTask =>
    dsimp only
    split
    · split
      · exact Triple.pure fun _ _ h => h
      · exact triple_createSinkItemFromTask.seq fun _ => Triple.pure fun _ _ h => h
    · split
      · exact Triple.pure fun _ _ h => h
      · split
        · exact triple_updatePeer
        · split
          · exact triple_updatePeer
          · exact Triple.fail
  | untouched task => exact Triple.pure fun _ _ h => h

theorem triple_applyModifiedTaskSideEffect {upsertTask : UpsertStatus Task} :
    Triple (isolation userId) (fun db => OwnTask userId db upsertTask.value)
      (applyModifiedTaskSideEffect c answers item upsertTask)
      fun status db => OwnTask userId db status.value := by
  unfold applyModifiedTaskSideEffect
  split
  · exact triple_applySyncedTaskSideEffect
  · exact Triple.pure fun _ _ h => h

theorem isolated_deleteNotificationsForLinearIssue {db : Database} (h : Owned db)
    {linearIssueId : String} :
    Isolated userId db (deleteNotificationsForLinearIssue c userId linearIssueId db) := by
  refine isolated_patchRow h fun row _ hinbox => ?_
  simp only [Bool.and_eq_true, beq_iff_eq] at hinbox
  exact hinbox.1.2

theorem triple_syncThirdPartyItemAsTask :
    Triple (isolation userId) (fun db => OwnItem userId db item)
      (syncThirdPartyItemAsTask c userId item answers)
      fun status db => OwnTask userId db status.value := by
  unfold syncThirdPartyItemAsTask
  refine Triple.bind (Q := fun request _ => request.userId = userId ∧ request.sourceItem = item ∧
    ∀ sink ∈ request.sinkItem, sink = item) (stable_ownItem item) (Triple.answer ?_) fun request => ?_
  · intro request hrequest _ _ _
    obtain ⟨conversion, -, rfl⟩ := Results.map_eq_ok.mp hrequest
    refine ⟨rfl, rfl, fun sink hsink => ?_⟩
    obtain ⟨_, -, rfl⟩ := Option.map_eq_some_iff.mp hsink
    rfl
  · refine Triple.seq (Q := fun upserted db => OwnTask userId db upserted.value)
      (Triple.statement ?_) fun upserted => ?_
    · rintro s t status h ⟨hitem, huser, hsource, hsink⟩ hok
      refine upsert_task h huser ?_ (fun sink hs => ?_) hok
      · rw [hsource]
        exact hitem
      · rw [hsink sink hs]
        exact hitem
    · refine triple_applyModifiedTaskSideEffect.seq fun status => ?_
      split
      · refine Triple.bind (Q := fun _ _ => True) (stable_ownTask status.value)
          (Triple.modify (fun _ h _ => isolated_deleteNotificationsForLinearIssue h)
            fun _ _ _ => trivial) fun _ => ?_
        exact Triple.pure fun _ _ h => h.1
      · exact Triple.pure fun _ _ h => h

end Tasks

/-! The notification of a task of a task manager. -/

section Saved
variable {tickTick : String → FullTaskSync.TickTickItem} {userId : UserId}
  {x : InboxNotifications.SyncedItem} {service : InboxNotifications.TaskManagerService}
  {task : Task}

/-- What was saved or updated of a notification. -/
def OwnSaved (userId : UserId) (saved : Option (UpsertStatus Notification)) (db : Database) : Prop :=
  ∀ status ∈ saved, OwnNotification userId db status.value

theorem triple_saveThirdPartyItemAsNotification (hx : x.userId = userId) {taskId : TaskId} :
    Triple (isolation userId)
      (fun db => OwnItem userId db x.synced.item ∧ taskOwner db taskId = some userId)
      (InboxNotifications.saveThirdPartyItemAsNotification tickTick x service (some taskId))
      fun status db => OwnNotification userId db status.value := by
  unfold InboxNotifications.saveThirdPartyItemAsNotification
  split
  · exact Triple.fail
  · refine Triple.statement fun s t status h hown hok => ?_
    refine upsert_notification h ⟨hx, hown.1, ?_⟩ hok
    rintro _ ⟨⟩
    exact hown.2

theorem ownSaved_lastUpdated {db : Database} {updated : List (UpdateStatus Notification)}
    {saved : Option (UpsertStatus Notification)}
    (h : ∀ status ∈ updated, ∀ notification ∈ status.result, OwnNotification userId db notification)
    (hok : InboxNotifications.lastUpdated updated = .ok saved) : OwnSaved userId saved db := by
  unfold InboxNotifications.lastUpdated at hok
  split at hok
  · cases hok
    exact fun _ hstatus => nomatch hstatus
  · cases hok
  · next notification hlast =>
    cases hok
    rintro _ ⟨⟩
    exact h _ (List.mem_of_getLast? hlast) notification rfl
  · next notification hlast =>
    cases hok
    rintro _ ⟨⟩
    exact h _ (List.mem_of_getLast? hlast) notification rfl

theorem triple_saveTaskAsNotification (hx : x.userId = userId) :
    Triple (isolation userId)
      (fun db => OwnItem userId db x.synced.item ∧ taskOwner db task.id = some userId)
      (InboxNotifications.saveTaskAsNotification tickTick x service task)
      (OwnSaved userId) := by
  have hstable : (isolation userId).Stable fun db =>
      OwnItem userId db x.synced.item ∧ taskOwner db task.id = some userId :=
    (stable_ownItem _).and fun _ _ hkept h => hkept.taskOwner _ _ h
  have hnone : ∀ db, OwnSaved userId none db := fun _ _ hstatus => nomatch hstatus
  unfold InboxNotifications.saveTaskAsNotification
  refine Triple.bind (Q := fun _ _ => True) hstable (Triple.statement ?_) fun existing => ?_
  · intro s t content h _ hok
    obtain ⟨page, -, hreturn⟩ := Results.map_eq_ok.mp hok
    cases hreturn
    exact ⟨.refl h, trivial⟩
  · dsimp only
    split
    · split
      · exact Triple.pure fun s _ _ => hnone s
      · split
        · exact Triple.pure fun s _ _ => hnone s
        · refine Triple.seq ((triple_saveThirdPartyItemAsNotification hx).weaken
            (fun _ _ h => h.1) fun _ _ _ h => h) fun saved => ?_
          refine Triple.pure fun s _ h => ?_
          rintro _ ⟨⟩
          exact h
    · refine Triple.seq (triple_updateNotificationsForTask.weaken (fun _ _ h => h.1.2)
        fun _ _ _ h => h) fun updated => ?_
      exact Triple.answer fun saved hsaved _ _ h => ownSaved_lastUpdated h hsaved

/-- A task that is returned, with its notifications. -/
structure OwnCreation (userId : UserId) (result : TaskCreationResult) (db : Database) : Prop where
  task : OwnTask userId db result.task
  notifications : ∀ notification ∈ result.notifications, OwnNotification userId db notification

theorem stable_ownCreation (result : TaskCreationResult) :
    (isolation userId).Stable (OwnCreation userId result) :=
  fun _ _ hkept h => ⟨h.task.later hkept, fun n hn => (h.notifications n hn).later hkept⟩

theorem triple_saveModifiedTask (hx : x.userId = userId) {upsertTask : UpsertStatus Task} :
    Triple (isolation userId)
      (fun db => OwnItem userId db x.synced.item ∧ OwnTask userId db upsertTask.value)
      (InboxNotifications.saveModifiedTask tickTick x upsertTask) (OwnCreation userId) := by
  have halone : ∀ s, OwnTask userId s upsertTask.value →
      OwnCreation userId ⟨upsertTask.value, []⟩ s :=
    fun _ h => ⟨h, fun _ hn => (List.not_mem_nil hn).elim⟩
  unfold InboxNotifications.saveModifiedTask
  dsimp only
  split
  · exact Triple.pure fun s _ h => halone s h.2
  · split
    · exact Triple.pure fun s _ h => halone s h.2
    · refine Triple.bind ((stable_ownItem _).and (stable_ownTask _))
        ((triple_saveTaskAsNotification hx).weaken (fun _ _ h => ⟨h.1, h.2.id⟩) fun _ _ _ h => h)
        fun saved => ?_
      refine Triple.pure fun s _ h => ⟨h.1.2, fun n hn => ?_⟩
      obtain ⟨status, hstatus, rfl⟩ := Option.map_eq_some_iff.mp (Option.mem_toList.mp hn)
      exact h.2 status hstatus

end Saved

/-! The functions that syncs and requests call for each item. -/

section Services
variable {c : Context} {userId : UserId} {item : ThirdPartyItem}
  {service : StalePass.ThirdPartyItemSourceService} {P : Database → Prop}

theorem triple_createTaskFromThirdPartyItem :
    Triple (isolation userId) (fun db => OwnItem userId db item)
      (createTaskFromThirdPartyItem c userId item) (OwnCreation userId) := by
  unfold createTaskFromThirdPartyItem
  dsimp only
  split
  · exact Triple.fail
  · refine Triple.bind (stable_ownItem item) triple_syncThirdPartyItemAsTask fun upsertTask => ?_
    exact triple_saveModifiedTask (x := savedItem c userId item (c.tasks item)) rfl

/-- A sync of tasks, for the user it is called for. -/
theorem triple_fetchAndUpsertThirdPartyTasks
    {fetched : Except UniversalInboxError (List (UserItem userId))} :
    Triple (isolation userId) P (fetchAndUpsertThirdPartyTasks c userId service fetched)
      fun results db => ∀ result ∈ results, OwnCreation userId result db := by
  unfold fetchAndUpsertThirdPartyTasks
  refine triple_syncItems.seq fun items => ?_
  exact Triple.each (stable_ownItems items) stable_ownCreation fun item hitem =>
    triple_createTaskFromThirdPartyItem.weaken (fun _ _ h => h item hitem) fun _ _ _ h => h

/-- A patch that names no task. -/
theorem ownLink_deletedPatch {db : Database} {id : NotificationId} :
    OwnLink userId id deletedPatch db :=
  fun _ _ _ _ hi => nomatch hi

theorem triple_createNotificationFromThirdPartyItem :
    Triple (isolation userId) (fun db => OwnItem userId db item)
      (createNotificationFromThirdPartyItem c userId item)
      fun notification db => OwnNotification userId db notification := by
  unfold createNotificationFromThirdPartyItem
  dsimp only
  refine Triple.bind (Q := fun _ _ => True) (stable_ownItem item)
    (Triple.answer fun _ _ _ _ _ => trivial) fun content => ?_
  refine Triple.seq (Q := fun upserted db => OwnNotification userId db upserted.value)
    (Triple.statement ?_) fun upserted => ?_
  · intro s t status h hown hok
    refine upsert_notification h ⟨rfl, hown.1, ?_⟩ hok
    rintro _ ⟨⟩
  · refine Triple.get.seq fun db => ?_
    refine Triple.weaken (P := fun s => OwnNotification userId s upserted.value) ?_
      (fun _ _ h => h.2) fun _ _ _ h => h
    split
    · refine Triple.bind (Q := fun _ _ => True) (stable_ownNotification upserted.value)
        (Triple.statement ?_) fun _ => ?_
      · intro s t status h _ hok
        exact ⟨(isolated_updateNotification h ownLink_deletedPatch hok).1, trivial⟩
      · exact Triple.pure fun _ _ h => ⟨h.1.user, h.1.sourceItem, h.1.taskId⟩
    · exact Triple.pure fun _ _ h => h

/-- A sync of notifications, for the user it is called for. -/
theorem triple_fetchAndUpsertThirdPartyNotifications
    {fetched : Except UniversalInboxError (List (UserItem userId))} :
    Triple (isolation userId) P (fetchAndUpsertThirdPartyNotifications c userId service fetched)
      fun notifications db => ∀ notification ∈ notifications,
        OwnNotification userId db notification := by
  unfold fetchAndUpsertThirdPartyNotifications
  refine triple_syncItems.seq fun items => ?_
  exact Triple.each (stable_ownItems items) stable_ownNotification fun item hitem =>
    triple_createNotificationFromThirdPartyItem.weaken (fun _ _ h => h item hitem) fun _ _ _ h => h

end Services

end UniversalInbox.Ownership
