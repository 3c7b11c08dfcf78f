import UniversalInbox.FullTaskResync
import UniversalInbox.Library.Transition
import UniversalInbox.NotificationResync
import UniversalInbox.SyncIsolation

/-! Requests, jobs and syncs of any users, in any order: each works for its user alone, as long as
a patch names nothing of another user where nobody checks it. -/
namespace UniversalInbox.Ownership
open ItemSync
open BulkPatch (NotificationUpdateSelector ProcessNotificationSideEffects patchRow)
open FilteredPatch (updateNotificationsByFilter)
open FullTaskSync (modifiedValue)
open InboxNotifications (TaskCreationResult deleteAndLinkPatch)
open NotificationPatching (SideEffectAnswers UpdateStatus assignable_patchRow deletedPatch
  updateNotifications)
open NotificationUpsert (joinedNotification)
open JobQueue (PushAttempt)
open PatchAgreement (BulkPatched patchGroups updateNotificationsByIds)
open PeerService (TaskPatch)
open Results (map_eq_ok)
open StalePass (ThirdPartyItemSourceService)
open TaskPatching (SinkAssignable Tx ownsTask)
open TaskUpsert (UpsertStatus)
open Transaction (Triple)
open Transition (Along Possible)

section Requests
variable {c : Context} {userId : UserId} {item : UserItem userId} {id : NotificationId}
  {patch : NotificationPatch} {P : Database → Prop}

/-- What is returned of an item, of its task and of its notification. -/
structure OwnItemCreation (userId : UserId) (result : ThirdPartyItemCreationResult)
    (db : Database) : Prop where
  thirdPartyItem : OwnItem userId db result.thirdPartyItem
  task : ∀ task ∈ result.task, OwnTask userId db task
  notification : ∀ notification ∈ result.notification, OwnNotification userId db notification

theorem triple_createTaskItem :
    Triple (isolation userId) P (createTaskItem c userId item) (OwnItemCreation userId) := by
  unfold createTaskItem
  split
  · split
    · exact Triple.fail
    · refine (triple_upsertItem item.user).seq fun upserted => ?_
      refine Triple.bind (stable_ownItem upserted.value) triple_createTaskFromThirdPartyItem
        fun creation => ?_
      refine Triple.pure fun s _ h => ⟨h.1, ?_, ?_⟩
      · rintro _ ⟨⟩
        exact h.2.task
      · exact fun n hn => h.2.notifications n (List.mem_of_head? hn)
  · exact Triple.fail

theorem triple_createNotificationItem :
    Triple (isolation userId) P (createNotificationItem c userId item)
      (OwnItemCreation userId) := by
  unfold createNotificationItem
  split
  · refine (triple_upsertItem item.user).seq fun upserted => ?_
    refine Triple.bind (stable_ownItem upserted.value) triple_createNotificationFromThirdPartyItem
      fun notification => ?_
    refine Triple.pure fun s _ h => ⟨h.1, ?_, ?_⟩
    · rintro _ ⟨⟩
    · rintro _ ⟨⟩
      exact h.2
  · exact Triple.fail

theorem ownItem_modifiedValue_of_upserted {db : Database} {upserted : UpsertStatus ThirdPartyItem}
    (h : OwnItem userId db upserted.value) {modified : ThirdPartyItem}
    (hmodified : modifiedValue upserted = some modified) : OwnItem userId db modified := by
  cases upserted <;> cases hmodified <;> exact h

theorem triple_saveTaskFromEvent
    {fetched : Except UniversalInboxError (Option (UserItem userId))} :
    Triple (isolation userId) P (saveTaskFromEvent c userId fetched) fun result db =>
      ∀ task ∈ result, OwnTask userId db task := by
  unfold saveTaskFromEvent
  refine Triple.seq (Q := fun _ _ => True) (Triple.answer fun _ _ _ _ _ => trivial) fun found => ?_
  cases found with
  | none => exact Triple.pure fun _ _ _ _ htask => nomatch htask
  | some item =>
    refine (triple_upsertItem item.user).seq fun upserted => ?_
    split
    · exact Triple.pure fun _ _ _ _ htask => nomatch htask
    · next modified hmodified =>
      split
      · refine Triple.seq (triple_createTaskFromThirdPartyItem.weaken
          (fun _ _ h => ownItem_modifiedValue_of_upserted h hmodified) fun _ _ _ h => h)
          fun creation => ?_
        refine Triple.pure fun s _ h => ?_
        rintro _ ⟨⟩
        exact h.task
      · exact Triple.pure fun _ _ _ _ htask => nomatch htask

theorem triple_saveNotificationFromEvent
    {fetched : Except UniversalInboxError (Option (UserItem userId))} :
    Triple (isolation userId) P (saveNotificationFromEvent c userId fetched) fun result db =>
      ∀ notification ∈ result, OwnNotification userId db notification := by
  unfold saveNotificationFromEvent
  refine Triple.seq (Q := fun _ _ => True) (Triple.answer fun _ _ _ _ _ => trivial) fun found => ?_
  cases found with
  | none => exact Triple.pure fun _ _ _ _ hn => nomatch hn
  | some item =>
    refine (triple_upsertItem item.user).seq fun upserted => ?_
    split
    · exact Triple.pure fun _ _ _ _ hn => nomatch hn
    · next modified hmodified =>
      have hcreate : Triple (isolation userId) (fun db => OwnItem userId db upserted.value)
          (do
            let notification ← createNotificationFromThirdPartyItem c userId modified
            return some notification)
          fun result db => ∀ notification ∈ result, OwnNotification userId db notification := by
        refine Triple.seq (triple_createNotificationFromThirdPartyItem.weaken
          (fun _ _ h => ownItem_modifiedValue_of_upserted h hmodified) fun _ _ _ h => h)
          fun notification => ?_
        refine Triple.pure fun s _ h => ?_
        rintro _ ⟨⟩
        exact h
      split
      · exact hcreate
      · exact hcreate
      · exact Triple.pure fun _ _ _ _ hn => nomatch hn

theorem triple_getNotification :
    Triple (isolation userId) P (getNotification userId id) fun found db =>
      ∀ notification ∈ found, OwnNotification userId db notification := by
  intro db h _ t r hrun
  unfold getNotification at hrun
  split at hrun
  · cases hrun
    refine ⟨.refl h, ?_⟩
    rintro _ ⟨⟩ _ ⟨⟩
  · next notification hfound =>
    split at hrun
    · cases hrun
      exact ⟨.refl h, fun _ ha => nomatch ha⟩
    · next huser =>
      cases hrun
      refine ⟨.refl h, ?_⟩
      rintro _ ⟨⟩ _ ⟨⟩
      obtain ⟨row, hrow, hread⟩ := Option.bind_eq_some_iff.mp hfound
      have hrowUser : row.userId = userId := by
        obtain ⟨source, -, rfl⟩ := Option.map_eq_some_iff.mp hread
        exact not_not.mp huser
      exact ownNotification_joined h (Table.find?_eq_some.mp hrow).1 hrowUser hread

theorem triple_patchNotification {applyTaskSideEffects applySideEffects : Bool} :
    Triple (isolation userId) (OwnLink userId id patch)
      (patchNotification c userId id patch applyTaskSideEffects applySideEffects)
      fun status db => ∀ notification ∈ status.result, OwnNotification userId db notification :=
  Triple.statement fun _ _ _ h hlink hok => isolated_patchNotification h hlink hok

/-- A task is created from a notification for the owner of both. -/
theorem triple_createTaskFromNotification {resolved : Except UniversalInboxError Unit}
    {created : (userId : UserId) → Except UniversalInboxError (UserItem userId)} :
    Triple (isolation userId) P (createTaskFromNotification c userId id resolved created)
      fun result db => ∀ r ∈ result, OwnNotification userId db r.1 ∧ OwnTask userId db r.2 := by
  unfold createTaskFromNotification
  refine triple_getNotification.seq fun found => ?_
  cases found with
  | none => exact Triple.fail
  | some notification =>
    refine Triple.assume (p := notification.userId = userId) (fun _ _ h => (h _ rfl).user)
      fun huser => ?_
    subst huser
    refine Triple.seq (Q := fun _ _ => True) (Triple.answer fun _ _ _ _ _ => trivial) fun _ => ?_
    refine Triple.seq (Q := fun _ _ => True) (Triple.answer fun _ _ _ _ _ => trivial)
      fun thirdPartyItem => ?_
    refine (triple_upsertItem thirdPartyItem.user).seq fun upserted => ?_
    refine triple_createTaskFromThirdPartyItem.seq fun creation => ?_
    refine Triple.bind (stable_ownCreation creation) (triple_patchNotification.weaken ?_
      fun _ _ _ h => h) fun updated => ?_
    · intro s _ h row _ _ i hi
      cases hi
      exact h.task.id
    · split
      · refine Triple.pure fun s _ h => ?_
        rintro _ ⟨⟩
        exact ⟨h.2 _ rfl, h.1.task⟩
      · refine Triple.pure fun s _ _ => ?_
        rintro _ ⟨⟩

theorem triple_updateInvitationFromNotification
    {answered : Except UniversalInboxError String} :
    Triple (isolation userId) P (updateInvitationFromNotification c userId id answered)
      fun status db => ∀ notification ∈ status.result, OwnNotification userId db notification := by
  unfold updateInvitationFromNotification
  refine triple_getNotification.seq fun found => ?_
  cases found with
  | none =>
    refine Triple.pure fun s _ _ => ?_
    rintro _ ⟨⟩
  | some notification =>
    dsimp only
    split
    · exact Triple.fail
    · refine Triple.bind (Q := fun _ _ => True)
        (fun _ _ hkept h n hn => (h n hn).later hkept) (Triple.answer fun _ _ _ _ _ => trivial)
        fun event => ?_
      refine Triple.assume (p := OfUser userId notification.sourceItem)
        (fun _ _ h => (h.1 _ rfl).sourceItem.ofUser) fun hitem => ?_
      refine (triple_upsertItem ?_).seq fun _ => ?_
      · obtain ⟨huser, hsource⟩ := ofUser_iff.mp hitem
        exact ofUser_iff.mpr ⟨huser, hsource⟩
      · exact triple_patchNotification.weaken (fun _ _ _ => ownLink_deletedPatch) fun _ _ _ h => h

theorem triple_handleProcessNotificationSideEffects :
    Triple (isolation userId) P (handleProcessNotificationSideEffects c userId id patch)
      fun _ _ => True := by
  unfold handleProcessNotificationSideEffects
  refine triple_getNotification.seq fun found => ?_
  cases found with
  | none => exact Triple.fail
  | some notification =>
    refine Triple.statement fun s t _ h hown hok => ⟨?_, trivial⟩
    obtain ⟨db', heffects, hreturn⟩ := map_eq_ok.mp hok
    cases hreturn
    exact isolated_applyNotificationSideEffects h (hown _ rfl).sourceItem heffects

end Requests

/-! The statements that write many notifications at once. -/

section Bulk
variable {userId : UserId} {db db' : Database} {patch : NotificationPatch}
  {push : ProcessNotificationSideEffects → List PushAttempt} {P : Database → Prop}

theorem user_of_selects {selector : NotificationUpdateSelector} {row : NotificationRow}
    (h : selector.selects userId row = true) : row.userId = userId := by
  cases selector <;>
    simp only [NotificationUpdateSelector.selects, Bool.and_eq_true, beq_iff_eq] at h
  · exact h.1.1.1
  · exact h.1

theorem isolated_updateNotificationsByFilter (h : Owned db) (status : List NotificationStatus)
    (fromSources : List NotificationSourceKind) (patch : NotificationPatch) (userId : UserId) :
    Isolated userId db (updateNotificationsByFilter db status fromSources patch userId).1 ∧
      ∀ notification ∈ (updateNotificationsByFilter db status fromSources patch userId).2,
        OwnNotification userId
          (updateNotificationsByFilter db status fromSources patch userId).1 notification := by
  unfold updateNotificationsByFilter
  split
  · exact ⟨.refl h, fun _ hn => (List.not_mem_nil hn).elim⟩
  · have hkept : Isolated userId db (updateNotifications db
        (fun row => (NotificationUpdateSelector.filter status fromSources).selects userId row)
        (patchRow patch) (assignable_patchRow db patch)) :=
      isolated_patchRow h fun row _ hselects => user_of_selects hselects
    refine ⟨hkept, fun notification hn => ?_⟩
    obtain ⟨row, hrow, hread⟩ := List.mem_filterMap.mp hn
    obtain ⟨hmem, hselects⟩ := List.mem_filter.mp hrow
    have hwritten : patchRow patch row ∈ (updateNotifications db
        (fun row => (NotificationUpdateSelector.filter status fromSources).selects userId row)
        (patchRow patch) (assignable_patchRow db patch)).notifications.rows :=
      mem_updateNotifications.mpr ⟨row, hmem, if_pos hselects⟩
    have huser : row.userId = userId := user_of_selects hselects
    exact ownNotification_joined hkept.owned hwritten huser hread

theorem isolated_updateNotificationsByIds (h : Owned db) (ids : List NotificationId)
    (patch : NotificationPatch) (userId : UserId) :
    Isolated userId db (updateNotificationsByIds db ids patch userId).1 ∧
      ∀ notification ∈ (updateNotificationsByIds db ids patch userId).2,
        OwnNotification userId (updateNotificationsByIds db ids patch userId).1 notification := by
  unfold updateNotificationsByIds
  split
  · exact ⟨.refl h, fun _ hn => (List.not_mem_nil hn).elim⟩
  · have hkept : Isolated userId db (updateNotifications db
        (fun row => (NotificationUpdateSelector.ids ids).selects userId row) (patchRow patch)
        (assignable_patchRow db patch)) :=
      isolated_patchRow h fun row _ hselects => user_of_selects hselects
    refine ⟨hkept, fun notification hn => ?_⟩
    obtain ⟨row, hrow, hread⟩ := List.mem_filterMap.mp hn
    obtain ⟨hmem, hselects⟩ := List.mem_filter.mp hrow
    exact ownNotification_joined hkept.owned hmem (user_of_selects hselects) hread

/-- One group of patches after the other. -/
theorem isolated_patchGroups {groups : List (NotificationPatch × List NotificationId)}
    {before after : BulkPatched} (h : Owned before.db)
    (hown : ∀ notification ∈ before.notifications, OwnNotification userId before.db notification)
    (hok : patchGroups push userId groups before = .ok after) :
    Isolated userId before.db after.db ∧
      ∀ notification ∈ after.notifications, OwnNotification userId after.db notification := by
  induction groups generalizing before with
  | nil =>
    cases hok
    exact ⟨.refl h, hown⟩
  | cons group rest ih =>
    obtain ⟨patch, ids⟩ := group
    obtain ⟨hkept, hreturned⟩ := isolated_updateNotificationsByIds h ids patch userId
    unfold patchGroups at hok
    dsimp only at hok
    split at hok
    · have hboth : ∀ notification ∈ before.notifications ++
          (updateNotificationsByIds before.db ids patch userId).2, OwnNotification userId
            (updateNotificationsByIds before.db ids patch userId).1 notification := by
        intro notification hn
        rcases List.mem_append.mp hn with hbefore | hnow
        · exact (hown notification hbefore).later hkept
        · exact hreturned notification hnow
      obtain ⟨hlater, hafter⟩ := ih hkept.owned hboth hok
      exact ⟨hkept.trans hlater, hafter⟩
    · cases hok

theorem triple_patchNotificationsBulk {status : List NotificationStatus}
    {fromSources : List NotificationSourceKind} :
    Triple (isolation userId) P (patchNotificationsBulk userId push status fromSources patch)
      fun notifications db => ∀ notification ∈ notifications,
        OwnNotification userId db notification := by
  unfold patchNotificationsBulk
  refine Triple.seq (Q := fun notifications db => ∀ notification ∈ notifications,
    OwnNotification userId db notification) (Triple.statement ?_) fun notifications => ?_
  · intro s t notifications h _ hok
    have hwritten := isolated_updateNotificationsByFilter h status fromSources patch userId
    rw [Except.ok.inj hok] at hwritten
    exact hwritten
  · split
    · exact Triple.pure fun _ _ h => h
    · exact Triple.fail

theorem triple_patchNotificationsByIds {patches : List (NotificationId × NotificationPatch)} :
    Triple (isolation userId) P (ItemSync.patchNotificationsByIds userId push patches)
      fun notifications db => ∀ notification ∈ notifications,
        OwnNotification userId db notification := by
  refine Triple.statement fun s t notifications h _ hok => ?_
  obtain ⟨patched, hpatched, hreturn⟩ := map_eq_ok.mp hok
  cases hreturn
  refine isolated_patchGroups ?_ ?_ hpatched
  · exact h
  · exact fun _ hn => (List.not_mem_nil hn).elim

/-- Setting notifications aside, and taking them back. -/
theorem isolated_setAsideNotifications (h : Owned db) {kind : NotificationSourceKind}
    {now : DateTime} :
    Isolated userId db (SetAsideRoundTrip.setAsideNotifications db kind userId now) := by
  refine isolated_updateNotifications h (fun row _ hrow => ?_) fun row hrow hset i hi => ?_
  · simp only [Bool.and_eq_true, beq_iff_eq] at hrow
    exact hrow.1.2
  · simp only [Bool.and_eq_true, beq_iff_eq] at hset
    rw [h.notificationTask row hrow i hi, hset.1.2]

theorem isolated_restoreSetAsideNotifications (h : Owned db) {kind : NotificationSourceKind} :
    Isolated userId db (NotificationSync.restoreSetAsideNotifications userId db kind) := by
  refine isolated_updateNotifications h (fun row _ hrow => ?_) fun row hrow hset i hi => ?_
  · simp only [Bool.and_eq_true, beq_iff_eq] at hrow
    exact hrow.1.2
  · simp only [Bool.and_eq_true, beq_iff_eq] at hset
    rw [h.notificationTask row hrow i hi, hset.1.2]

theorem isolated_restoredKinds (h : Owned db) {kinds : List NotificationSourceKind} :
    Isolated userId db
      (kinds.foldl (NotificationSync.restoreSetAsideNotifications userId) db) := by
  induction kinds generalizing db with
  | nil => exact .refl h
  | cons kind rest ih =>
    have hkept : Isolated userId db (NotificationSync.restoreSetAsideNotifications userId db kind) :=
      isolated_restoreSetAsideNotifications h
    exact hkept.trans (ih hkept.owned)

end Bulk

/-! The operations, one transaction after the other. -/

inductive Operation (userId : UserId) where
  | patchNotification (notificationId : NotificationId) (patch : NotificationPatch)
  | patchNotificationsBulk (push : ProcessNotificationSideEffects → List PushAttempt)
      (status : List NotificationStatus) (fromSources : List NotificationSourceKind)
      (patch : NotificationPatch)
  | patchNotificationsByIds (push : ProcessNotificationSideEffects → List PushAttempt)
      (patches : List (NotificationId × NotificationPatch))
  | processNotificationSideEffects (notificationId : NotificationId) (patch : NotificationPatch)
  | updateInvitationFromNotification (notificationId : NotificationId)
      (answered : Except UniversalInboxError String)
  | createTaskFromNotification (notificationId : NotificationId)
      (resolved : Except UniversalInboxError Unit)
      (created : (userId : UserId) → Except UniversalInboxError (UserItem userId))
  | patchTask (taskId : TaskId) (patch : TaskPatch) (answers : SideEffectAnswers)
  | createTaskItem (item : UserItem userId)
  | createNotificationItem (item : UserItem userId)
  | saveTaskFromEvent (fetched : Except UniversalInboxError (Option (UserItem userId)))
  | saveNotificationFromEvent (fetched : Except UniversalInboxError (Option (UserItem userId)))
  | syncTasks (service : ThirdPartyItemSourceService)
      (fetched : Except UniversalInboxError (List (UserItem userId)))
  | syncNotifications (service : ThirdPartyItemSourceService)
      (fetched : Except UniversalInboxError (List (UserItem userId)))
      (restoredKinds : List NotificationSourceKind)
  | setAsideNotifications (kind : NotificationSourceKind)

/-- What an operation returns. -/
structure Response where
  thirdPartyItems : List ThirdPartyItem
  tasks : List Task
  notifications : List Notification

def Response.ofCreation (result : ThirdPartyItemCreationResult) : Response :=
  ⟨[result.thirdPartyItem], result.task.toList, result.notification.toList⟩

def Response.ofNotifications (notifications : List Notification) : Response :=
  ⟨[], [], notifications⟩

def Response.ofTasks (tasks : List Task) : Response := ⟨[], tasks, []⟩

section Run
variable (c : Context) {userId : UserId}

def runOperation : Operation userId → Tx Response
  | .patchNotification notificationId patch => do
    let status ← patchNotification c userId notificationId patch true true
    return .ofNotifications status.result.toList
  | .patchNotificationsBulk push status fromSources patch => do
    let notifications ← patchNotificationsBulk userId push status fromSources patch
    return .ofNotifications notifications
  | .patchNotificationsByIds push patches => do
    let notifications ← patchNotificationsByIds userId push patches
    return .ofNotifications notifications
  | .processNotificationSideEffects notificationId patch => do
    handleProcessNotificationSideEffects c userId notificationId patch
    return .ofNotifications []
  | .updateInvitationFromNotification notificationId answered => do
    let status ← updateInvitationFromNotification c userId notificationId answered
    return .ofNotifications status.result.toList
  | .createTaskFromNotification notificationId resolved created => do
    let result ← createTaskFromNotification c userId notificationId resolved created
    return ⟨[], (result.map Prod.snd).toList, (result.map Prod.fst).toList⟩
  | .patchTask taskId patch answers => do
    let status ← TaskPatching.patchTask c.environment taskId patch answers userId
    return .ofTasks status.result.toList
  | .createTaskItem item => do
    let result ← createTaskItem c userId item
    return .ofCreation result
  | .createNotificationItem item => do
    let result ← createNotificationItem c userId item
    return .ofCreation result
  | .saveTaskFromEvent fetched => do
    let task ← saveTaskFromEvent c userId fetched
    return .ofTasks task.toList
  | .saveNotificationFromEvent fetched => do
    let notification ← saveNotificationFromEvent c userId fetched
    return .ofNotifications notification.toList
  | .syncTasks service fetched => do
    let results ← fetchAndUpsertThirdPartyTasks c userId service fetched
    return ⟨[], results.map (·.task), results.flatMap (·.notifications)⟩
  | .syncNotifications service fetched restoredKinds => do
    let notifications ← fetchAndUpsertThirdPartyNotifications c userId service fetched
    Transaction.modify fun db =>
      restoredKinds.foldl (NotificationSync.restoreSetAsideNotifications userId) db
    return .ofNotifications notifications
  | .setAsideNotifications kind => do
    Transaction.modify fun db =>
      SetAsideRoundTrip.setAsideNotifications db kind userId c.environment.now
    return .ofNotifications []

/-- The transaction of a sync that fails is committed with what the sync has written by then. -/
def Operation.isSync : Operation userId → Bool
  | .syncTasks _ _ | .syncNotifications _ _ _ => true
  | _ => false

/-- Nobody checks that a task is of the user when a test account links a notification to it, nor
that an item is when it becomes the sink of a task of the user. -/
def Operation.NamesOwn (db : Database) : Operation userId → Prop
  | .patchNotification notificationId patch =>
    c.environment.isTesting = true → ∀ row ∈ db.notifications.rows,
      NotificationPatching.owns notificationId userId row = true → ∀ taskId ∈ patch.taskId,
        ∀ task ∈ db.tasks.rows, task.id = taskId → task.userId = userId
  | .patchTask taskId patch _ =>
    ∀ row ∈ db.tasks.rows, ownsTask taskId userId row = true → ∀ sink ∈ patch.sinkItemId,
      ∀ item ∈ db.thirdPartyItems.rows, item.id = sink → item.userId = userId
  | _ => True

instance (db : Database) : ∀ operation : Operation userId, Decidable (operation.NamesOwn c db)
  | .patchNotification _ _ => inferInstanceAs (Decidable (_ = true → ∀ _ ∈ _, _))
  | .patchTask _ _ _ => inferInstanceAs (Decidable (∀ _ ∈ _, _))
  | .patchNotificationsBulk _ _ _ _ | .patchNotificationsByIds _ _
  | .processNotificationSideEffects _ _ | .updateInvitationFromNotification _ _
  | .createTaskFromNotification _ _ _ | .createTaskItem _ | .createNotificationItem _
  | .saveTaskFromEvent _ | .saveNotificationFromEvent _ | .syncTasks _ _
  | .syncNotifications _ _ _ | .setAsideNotifications _ => .isTrue trivial

end Run

/-- An operation, the user it is done for and what the services work with meanwhile. -/
structure Input where
  userId : UserId
  context : Context
  operation : Operation userId

/-- The tables, and what the last operation returned. -/
structure State where
  db : Database
  response : Option Response

def initial : State := ⟨.empty, none⟩

def step (s : State) (i : Input) : Option State :=
  let program := runOperation i.context i.operation
  let (db, response) :=
    if i.operation.isSync then program.committed s.db else program.committedIfOk s.db
  some ⟨db, response⟩

/-- A task, and a notification, whose data is all of the user. -/
structure TaskOfUser (userId : UserId) (task : Task) : Prop where
  user : task.userId = userId
  sourceItem : OfUser userId task.sourceItem
  sinkItem : ∀ sink ∈ task.sinkItem, OfUser userId sink

structure NotificationOfUser (userId : UserId) (notification : Notification) : Prop where
  user : notification.userId = userId
  sourceItem : OfUser userId notification.sourceItem

structure Response.OfUser (userId : UserId) (response : Response) : Prop where
  thirdPartyItems : ∀ item ∈ response.thirdPartyItems, Ownership.OfUser userId item
  tasks : ∀ task ∈ response.tasks, TaskOfUser userId task
  notifications : ∀ notification ∈ response.notifications, NotificationOfUser userId notification

/-- The task of a notification is a task of its user. -/
def LinksOwned (db : Database) : Prop :=
  ∀ row ∈ db.notifications.rows, ∀ taskId ∈ row.taskId, taskOwner db taskId = some row.userId

/-- Notifications stay with tasks of their users, and what is done for a user neither changes a row
of another one nor returns their data. -/
structure OwnerIsolated (s : State) (i : Input) (t : State) : Prop where
  links : LinksOwned t.db
  others : OthersKept i.userId s.db t.db
  response : ∀ response ∈ t.response, response.OfUser i.userId

section Decidable
variable (userId : UserId)

instance (item : ThirdPartyItem) : Decidable (OfUser userId item) :=
  inferInstanceAs (Decidable (∀ _ ∈ _, _))

instance (task : Task) : Decidable (TaskOfUser userId task) :=
  decidable_of_iff
    (task.userId = userId ∧ OfUser userId task.sourceItem ∧
      ∀ sink ∈ task.sinkItem, OfUser userId sink)
    ⟨fun ⟨user, source, sink⟩ => ⟨user, source, sink⟩,
      fun ⟨user, source, sink⟩ => ⟨user, source, sink⟩⟩

instance (notification : Notification) : Decidable (NotificationOfUser userId notification) :=
  decidable_of_iff (notification.userId = userId ∧ OfUser userId notification.sourceItem)
    ⟨fun ⟨user, source⟩ => ⟨user, source⟩, fun ⟨user, source⟩ => ⟨user, source⟩⟩

instance (response : Response) : Decidable (response.OfUser userId) :=
  decidable_of_iff
    ((∀ item ∈ response.thirdPartyItems, OfUser userId item) ∧
      (∀ task ∈ response.tasks, TaskOfUser userId task) ∧
      ∀ notification ∈ response.notifications, NotificationOfUser userId notification)
    ⟨fun ⟨items, tasks, notifications⟩ => ⟨items, tasks, notifications⟩,
      fun ⟨items, tasks, notifications⟩ => ⟨items, tasks, notifications⟩⟩

instance (db : Database) : Decidable (LinksOwned db) := inferInstanceAs (Decidable (∀ _ ∈ _, _))

instance (db db' : Database) : Decidable (OthersKept userId db db') :=
  decidable_of_iff
    (Table.others ThirdPartyItemRow.userId userId db'.thirdPartyItems.rows =
        Table.others ThirdPartyItemRow.userId userId db.thirdPartyItems.rows ∧
      Table.others TaskRow.userId userId db'.tasks.rows =
        Table.others TaskRow.userId userId db.tasks.rows ∧
      Table.others NotificationRow.userId userId db'.notifications.rows =
        Table.others NotificationRow.userId userId db.notifications.rows)
    ⟨fun ⟨items, tasks, notifications⟩ => ⟨items, tasks, notifications⟩,
      fun ⟨items, tasks, notifications⟩ => ⟨items, tasks, notifications⟩⟩

instance (s : State) (i : Input) (t : State) : Decidable (OwnerIsolated s i t) :=
  decidable_of_iff
    (LinksOwned t.db ∧ OthersKept i.userId s.db t.db ∧
      ∀ response ∈ t.response, response.OfUser i.userId)
    ⟨fun ⟨links, others, response⟩ => ⟨links, others, response⟩,
      fun ⟨links, others, response⟩ => ⟨links, others, response⟩⟩

end Decidable

section Isolation
variable {c : Context} {userId : UserId}

/-- What is returned is stored, for the user. -/
structure OwnResponse (userId : UserId) (response : Response) (db : Database) : Prop where
  thirdPartyItems : ∀ item ∈ response.thirdPartyItems, OwnItem userId db item
  tasks : ∀ task ∈ response.tasks, OwnTask userId db task
  notifications : ∀ notification ∈ response.notifications, OwnNotification userId db notification

theorem OwnResponse.ofUser {response : Response} {db : Database}
    (h : OwnResponse userId response db) : response.OfUser userId where
  thirdPartyItems item hitem := (h.thirdPartyItems item hitem).ofUser
  tasks task htask := by
    have hown := h.tasks task htask
    exact ⟨hown.user, hown.sourceItem.ofUser, fun sink hsink => (hown.sinkItem sink hsink).ofUser⟩
  notifications notification hn := by
    have hown := h.notifications notification hn
    exact ⟨hown.user, hown.sourceItem.ofUser⟩

theorem ownResponse_notifications {notifications : List Notification} {db : Database}
    (h : ∀ notification ∈ notifications, OwnNotification userId db notification) :
    OwnResponse userId (.ofNotifications notifications) db where
  thirdPartyItems _ hitem := (List.not_mem_nil hitem).elim
  tasks _ htask := (List.not_mem_nil htask).elim
  notifications := h

theorem ownResponse_tasks {tasks : List Task} {db : Database}
    (h : ∀ task ∈ tasks, OwnTask userId db task) : OwnResponse userId (.ofTasks tasks) db where
  thirdPartyItems _ hitem := (List.not_mem_nil hitem).elim
  tasks := h
  notifications _ hn := (List.not_mem_nil hn).elim

theorem ownResponse_creation {result : ThirdPartyItemCreationResult} {db : Database}
    (h : OwnItemCreation userId result db) : OwnResponse userId (.ofCreation result) db where
  thirdPartyItems item hitem := by
    rw [List.mem_singleton.mp hitem]
    exact h.thirdPartyItem
  tasks task htask := h.task task (Option.mem_toList.mp htask)
  notifications notification hn := h.notification notification (Option.mem_toList.mp hn)

theorem triple_patchNotificationRequest {id : NotificationId} {patch : NotificationPatch} :
    Triple (isolation userId)
      (fun db => Operation.NamesOwn c db (.patchNotification id patch : Operation userId))
      (patchNotification c userId id patch true true)
      fun status db => ∀ notification ∈ status.result, OwnNotification userId db notification :=
  Triple.statement fun _ _ _ h hnames hok =>
    isolated_patchNotification h (ownLink_of_patchNotification h hnames hok) hok

/-- The foreign key of the sink asks for some item, which is the user's if all such are. -/
theorem ownSink_of_updateTask {taskId : TaskId} {patch : TaskPatch} {answers : SideEffectAnswers}
    {now : DateTime} {db : Database} {result : Database × Except UniversalInboxError (UpdateStatus Task)}
    (hnames : Operation.NamesOwn c db (.patchTask taskId patch answers : Operation userId))
    (hrun : TaskPatching.updateTask now taskId patch userId db = some result) :
    OwnSink userId taskId patch db := by
  intro row hrow howns sink hsink
  unfold TaskPatching.updateTask at hrun
  split at hrun
  · next hdefault =>
    rw [beq_iff_eq.mp hdefault] at hsink
    cases hsink
  · split at hrun
    · next hassignable =>
      obtain ⟨item, hfind⟩ :=
        Option.isSome_iff_exists.mp (hassignable.known row hrow howns sink hsink)
      obtain ⟨hitem, hid⟩ := Table.find?_eq_some.mp hfind
      have huser := hnames row hrow howns sink hsink item hitem hid
      exact Table.ownerOf_eq_some.mpr ⟨item, hitem, hid, huser⟩
    · cases hrun

theorem triple_patchTaskRequest {taskId : TaskId} {patch : TaskPatch}
    {answers : SideEffectAnswers} :
    Triple (isolation userId)
      (fun db => Operation.NamesOwn c db (.patchTask taskId patch answers : Operation userId))
      (TaskPatching.patchTask c.environment taskId patch answers userId)
      (OwnAnswer userId taskId) := by
  intro s hs hnames t r hrun
  refine triple_patchTask s hs ?_ t r hrun
  rcases Transaction.bind_eq_some hrun with ⟨_, _, hupdate, -⟩ | ⟨_, hupdate, -⟩
  · exact ownSink_of_updateTask hnames hupdate
  · exact ownSink_of_updateTask hnames hupdate

/-- Every operation works for its user alone. -/
theorem triple_runOperation (operation : Operation userId) :
    Triple (isolation userId) (fun db => operation.NamesOwn c db) (runOperation c operation)
      (OwnResponse userId) := by
  have hstatus : ∀ {status : UpdateStatus Notification} {db : Database},
      (∀ notification ∈ status.result, OwnNotification userId db notification) →
        OwnResponse userId (.ofNotifications status.result.toList) db :=
    fun h => ownResponse_notifications fun n hn => h n (Option.mem_toList.mp hn)
  cases operation with
  | patchNotification id patch =>
    exact triple_patchNotificationRequest.seq fun _ => Triple.pure fun _ _ h => hstatus h
  | patchNotificationsBulk push status fromSources patch =>
    exact triple_patchNotificationsBulk.seq fun _ =>
      Triple.pure fun _ _ h => ownResponse_notifications h
  | patchNotificationsByIds push patches =>
    exact triple_patchNotificationsByIds.seq fun _ =>
      Triple.pure fun _ _ h => ownResponse_notifications h
  | processNotificationSideEffects id patch =>
    exact triple_handleProcessNotificationSideEffects.seq fun _ =>
      Triple.pure fun _ _ _ => ownResponse_notifications fun _ hn => (List.not_mem_nil hn).elim
  | updateInvitationFromNotification id answered =>
    exact triple_updateInvitationFromNotification.seq fun _ => Triple.pure fun _ _ h => hstatus h
  | createTaskFromNotification id resolved created =>
    refine triple_createTaskFromNotification.seq fun result => Triple.pure fun s _ h => ?_
    refine ⟨fun _ hitem => (List.not_mem_nil hitem).elim, fun task htask => ?_, fun n hn => ?_⟩
    · obtain ⟨r, hr, rfl⟩ := Option.map_eq_some_iff.mp (Option.mem_toList.mp htask)
      exact (h r hr).2
    · obtain ⟨r, hr, rfl⟩ := Option.map_eq_some_iff.mp (Option.mem_toList.mp hn)
      exact (h r hr).1
  | patchTask taskId patch answers =>
    refine triple_patchTaskRequest.seq fun status => Triple.pure fun s _ h => ?_
    exact ownResponse_tasks fun task htask => (h task (Option.mem_toList.mp htask)).1
  | createTaskItem item =>
    exact triple_createTaskItem.seq fun _ => Triple.pure fun _ _ h => ownResponse_creation h
  | createNotificationItem item =>
    exact triple_createNotificationItem.seq fun _ => Triple.pure fun _ _ h => ownResponse_creation h
  | saveTaskFromEvent fetched =>
    refine triple_saveTaskFromEvent.seq fun result => Triple.pure fun s _ h => ?_
    exact ownResponse_tasks fun task htask => h task (Option.mem_toList.mp htask)
  | saveNotificationFromEvent fetched =>
    refine triple_saveNotificationFromEvent.seq fun result => Triple.pure fun s _ h => ?_
    exact ownResponse_notifications fun n hn => h n (Option.mem_toList.mp hn)
  | syncTasks service fetched =>
    refine triple_fetchAndUpsertThirdPartyTasks.seq fun results => Triple.pure fun s _ h => ?_
    refine ⟨fun _ hitem => (List.not_mem_nil hitem).elim, fun task htask => ?_, fun n hn => ?_⟩
    · obtain ⟨result, hresult, rfl⟩ := List.mem_map.mp htask
      exact (h result hresult).task
    · obtain ⟨result, hresult, hmem⟩ := List.mem_flatMap.mp hn
      exact (h result hresult).notifications n hmem
  | syncNotifications service fetched restoredKinds =>
    refine triple_fetchAndUpsertThirdPartyNotifications.seq fun notifications => ?_
    refine Triple.bind (Q := fun _ _ => True)
      (fun _ _ hkept h n hn => (h n hn).later hkept)
      (Triple.modify (fun _ h _ => isolated_restoredKinds h) fun _ _ _ => trivial) fun _ => ?_
    exact Triple.pure fun _ _ h => ownResponse_notifications h.1
  | setAsideNotifications kind =>
    refine Triple.seq (Q := fun _ _ => True)
      (Triple.modify (fun _ h _ => isolated_setAsideNotifications h) fun _ _ _ => trivial)
      fun _ => ?_
    exact Triple.pure fun _ _ _ => ownResponse_notifications fun _ hn => (List.not_mem_nil hn).elim

/-- The step of an operation that names nothing of another user. -/
theorem step_isolated {s t : State} {i : Input} (h : Owned s.db)
    (hnames : i.operation.NamesOwn i.context s.db) (hstep : step s i = some t) :
    Isolated i.userId s.db t.db ∧
      ∀ response ∈ t.response, OwnResponse i.userId response t.db := by
  have hrun := triple_runOperation (c := i.context) i.operation
  unfold step at hstep
  cases hsync : i.operation.isSync <;> simp only [hsync] at hstep <;> cases hstep
  · exact hrun.committedIfOk h hnames
  · exact hrun.committed h hnames

theorem owned_initial : Owned initial.db where
  itemSource _ hr := (Table.not_mem_empty hr).elim
  taskSource _ hr := (Table.not_mem_empty hr).elim
  taskSink _ hr := (Table.not_mem_empty hr).elim
  notificationSource _ hr := (Table.not_mem_empty hr).elim
  notificationTask _ hr := (Table.not_mem_empty hr).elim

/-- Whatever the operations and their users, in whatever order. -/
theorem ownerIsolated_of_namesOwn (inputs : List Input)
    (h : Along step (fun s i _ => i.operation.NamesOwn i.context s.db) initial inputs) :
    Along step OwnerIsolated initial inputs := by
  refine Along.of_invariant (I := fun s => Owned s.db) ?_ ?_ owned_initial h
  · intro s i t howned hstep hnames
    exact (step_isolated howned hnames hstep).1.owned
  · intro s i t howned hstep hnames
    obtain ⟨hkept, hresponse⟩ := step_isolated howned hnames hstep
    refine ⟨?_, hkept.others, fun response hr => (hresponse response hr).ofUser⟩
    exact hkept.owned.notificationTask

end Isolation

/-! Runs of two users. -/

section Runs

def itemOf (userId : UserId) (id : ThirdPartyItemId) (data : ThirdPartyItemData) :
    UserItem userId where
  item :=
    { id, sourceId := "source", data, createdAt := 0, updatedAt := 0, userId
      integrationConnectionId := ⟨userId.uuid⟩, sourceItem := none }
  user := ofUser_iff.mpr ⟨rfl, fun _ hsource => nomatch hsource⟩

def sourceTask : TodoistItem := TodoistSync.todoistItem "source" "Review"

def answersOk : SideEffectAnswers :=
  { source := .ok ()
    nestedSource := .ok ()
    taskSource := fun _ => Propagation.answeredBy Propagation.todoistOk
    taskSink := fun _ => Propagation.answeredBy Propagation.todoistOk }

/-- Rows get the numbers of their items, and every call succeeds. -/
def context (isTesting : Bool) : Context where
  environment := { InboxNotifications.testAccount with isTesting }
  reads := InboxNotifications.insertionOrder
  itemScan := (FullTaskSync.issueSetting isTesting).itemScan
  tickTick := InboxNotifications.tickTickItem
  codec := NotificationResync.sampleCodec
  payloads := FullTaskSync.instantCodec
  marks _ := ⟨0, 0⟩
  tasks item :=
    { connected := true
      provider := .todoist true
      conversion := .ok (TodoistSync.buildTaskWithProjectName ⟨item.id.uuid⟩ sourceTask "Work" item
        item.userId)
      sinkProviderKindHint := none
      defaultTaskManagerProviderKind := none
      peer := Propagation.answeredBy Propagation.todoistOk
      accessToken := true
      createTask _ := .error (.unexpected "")
      sink := answersOk
      autoDeleteNotificationsOnTaskSync := false
      stamp := ⟨⟨item.id.uuid⟩, 0, 0⟩ }
  notifications item :=
    { conversion := .ok (NotificationConversion.convertedNow ⟨⟨item.id.uuid⟩, 0, 0⟩ .api "Page"
        .unread none)
      notificationId := ⟨item.id.uuid⟩
      autoDeleteNotificationsOnTaskSync := false }

/-- A user links a notification of theirs to the task of some user. -/
def linkRun (isTesting : Bool) (owner : UserId) : List Input :=
  [⟨owner, context isTesting, .createTaskItem (itemOf owner ⟨1⟩ (.todoistItem sourceTask))⟩,
    ⟨⟨1⟩, context isTesting, .createNotificationItem (itemOf ⟨1⟩ ⟨2⟩ (.webPage "Page"))⟩,
    ⟨⟨1⟩, context isTesting, .patchNotification ⟨2⟩
      { status := none, snoozedUntil := none, taskId := some ⟨1⟩ }⟩]

/-- A user gives the item of some user to a task of theirs as its sink, and then edits the task. -/
def sinkRun (owner : UserId) : List Input :=
  [⟨owner, context false, .saveNotificationFromEvent
      (.ok (some (itemOf owner ⟨2⟩ (.slackReaction "Reaction"))))⟩,
    ⟨⟨1⟩, context false, .createTaskItem (itemOf ⟨1⟩ ⟨1⟩ (.todoistItem sourceTask))⟩,
    ⟨⟨1⟩, context false, .patchTask ⟨1⟩ (sinkPatch ⟨2⟩) answersOk⟩,
    ⟨⟨1⟩, context false, .patchTask ⟨1⟩ { sinkPatch ⟨2⟩ with title := some "Reviewed" } answersOk⟩]

theorem ownRuns_ownerIsolated :
    Along step OwnerIsolated initial (linkRun true ⟨1⟩ ++
      [⟨⟨2⟩, context false, .createNotificationItem (itemOf ⟨2⟩ ⟨3⟩ (.webPage "Page"))⟩,
        ⟨⟨1⟩, context false,
          .patchNotificationsBulk (fun _ => [.acknowledged]) [] [] deletedPatch⟩]) :=
  ownerIsolated_of_namesOwn _ (by decide)

/-- The notification of a test account is linked to the task of another user, and the task of any
account comes back with the item of another user. -/
theorem namedOther_not_isolated :
    (∃ t, Transition.exec step initial (linkRun true ⟨2⟩) = some t ∧ ¬ LinksOwned t.db) ∧
      (∃ t, Transition.exec step initial (sinkRun ⟨2⟩) = some t ∧
        ∃ response ∈ t.response, ¬ response.OfUser ⟨1⟩) ∧
      ¬ Along step OwnerIsolated initial (linkRun true ⟨2⟩) ∧
      ¬ Along step OwnerIsolated initial (sinkRun ⟨2⟩) := by
  refine ⟨⟨_, rfl, ?_⟩, ⟨_, rfl, _, rfl, ?_⟩, ?_, ?_⟩ <;> decide

end Runs

end UniversalInbox.Ownership
