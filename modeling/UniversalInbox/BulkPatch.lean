import UniversalInbox.Database
import UniversalInbox.JobQueue
import UniversalInbox.Library.ReadCommitted
import UniversalInbox.Library.Transition

/-! Patching notifications in bulk: one `UPDATE` for each group of a request, and one job for
each updated notification, pushed to Redis while the transaction of the request is still open.
A worker takes jobs whenever it likes. -/
namespace UniversalInbox.BulkPatch
open JobQueue ReadCommitted Transition

inductive NotificationUpdateSelector where
  | filter (status : List NotificationStatus) (fromSources : List NotificationSourceKind)
  | ids (notificationIds : List NotificationId)
deriving DecidableEq, Repr

/-- The `WHERE` clause. An empty list filters nothing; only a selection by identifier reaches
the notifications that are set aside. -/
def NotificationUpdateSelector.selects (userId : UserId) (row : NotificationRow) :
    NotificationUpdateSelector → Bool
  | .filter status fromSources =>
    row.userId == userId && (status.isEmpty || status.contains row.status) &&
      (fromSources.isEmpty || fromSources.contains row.kind) && row.setAsideAt.isNone
  | .ids notificationIds => row.userId == userId && notificationIds.contains row.id

/-- The `SET` list; the task is not writable in bulk. -/
def patchRow (patch : NotificationPatch) (row : NotificationRow) : NotificationRow :=
  { row with
    status := patch.status.getD row.status
    snoozedUntil := (patch.snoozedUntil.map pgTimestamp).or row.snoozedUntil }

/-- The `UPDATE` of a group; a patch that sets nothing runs no statement. -/
def updateNotificationsWithSelector (selector : NotificationUpdateSelector)
    (patch : NotificationPatch) (userId : UserId) : Option (Write NotificationRow) :=
  if patch.status.isNone && patch.snoozedUntil.isNone then none
  else some (.update (selector.selects userId ·) (patchRow patch))

/-- The rows `RETURNING` gives back, by identifier. -/
def returning (rows : List NotificationRow) : Option (Write NotificationRow) → List NotificationId
  | some (.update p _) => (rows.filter p).map (·.id)
  | _ => []

structure ProcessNotificationSideEffects where
  notificationId : NotificationId
  patch : NotificationPatch
  userId : UserId
deriving DecidableEq, Repr

abbrev Group := NotificationUpdateSelector × NotificationPatch

def addToGroup (notificationId : NotificationId) (patch : NotificationPatch) :
    List (NotificationPatch × List NotificationId) → List (NotificationPatch × List NotificationId)
  | [] => [(patch, [notificationId])]
  | (groupPatch, notificationIds) :: rest =>
    if groupPatch = patch then (groupPatch, notificationIds ++ [notificationId]) :: rest
    else (groupPatch, notificationIds) :: addToGroup notificationId patch rest

def groupPatches (patches : List (NotificationId × NotificationPatch)) :
    List (NotificationPatch × List NotificationId) :=
  patches.foldl (fun groups entry => addToGroup entry.1 entry.2 groups) []

theorem mem_addToGroup {notificationId id : NotificationId} {patch p : NotificationPatch}
    {groups : List (NotificationPatch × List NotificationId)} :
    (∃ ids, (p, ids) ∈ addToGroup notificationId patch groups ∧ id ∈ ids) ↔
      (∃ ids, (p, ids) ∈ groups ∧ id ∈ ids) ∨ (p = patch ∧ id = notificationId) := by
  induction groups with
  | nil => simp [addToGroup]
  | cons group rest ih =>
    obtain ⟨groupPatch, notificationIds⟩ := group
    unfold addToGroup
    by_cases hpatch : groupPatch = patch
    · subst hpatch
      simp only [if_true, List.mem_cons, Prod.mk.injEq]
      grind
    · simp only [if_neg hpatch, List.mem_cons, Prod.mk.injEq]
      grind

/-- Grouping loses no entry and makes none up. -/
theorem mem_groupPatches {patches : List (NotificationId × NotificationPatch)}
    {id : NotificationId} {patch : NotificationPatch} :
    (∃ ids, (patch, ids) ∈ groupPatches patches ∧ id ∈ ids) ↔ (id, patch) ∈ patches := by
  have hfold : ∀ groups : List (NotificationPatch × List NotificationId),
      (∃ ids, (patch, ids) ∈ patches.foldl (fun groups entry => addToGroup entry.1 entry.2 groups)
          groups ∧ id ∈ ids) ↔
        (∃ ids, (patch, ids) ∈ groups ∧ id ∈ ids) ∨ (id, patch) ∈ patches := by
    induction patches with
    | nil => simp
    | cons entry rest ih =>
      intro groups
      rw [List.foldl_cons, ih, mem_addToGroup, List.mem_cons, or_assoc, Prod.ext_iff]
      grind
  simpa [groupPatches] using hfold []

/-- A request: `patch_notifications_bulk` updates one group, `patch_notifications_by_ids` one
for each distinct patch. -/
inductive PatchRequest where
  | patchNotificationsBulk (status : List NotificationStatus)
      (fromSources : List NotificationSourceKind) (patch : NotificationPatch)
  | patchNotificationsByIds (patches : List (NotificationId × NotificationPatch))
deriving DecidableEq, Repr

def PatchRequest.groups : PatchRequest → List Group
  | .patchNotificationsBulk status fromSources patch => [(.filter status fromSources, patch)]
  | .patchNotificationsByIds patches =>
    (groupPatches patches).map fun (patch, notificationIds) => (.ids notificationIds, patch)

abbrev RequestId := Nat

/-- What a request has left to do: its groups, and the jobs of the current one. -/
structure Progress where
  userId : UserId
  groups : List Group
  pushes : List ProcessNotificationSideEffects
deriving DecidableEq, Repr

structure QueuedJob where
  request : RequestId
  job : ProcessNotificationSideEffects
deriving DecidableEq, Repr

/-- `handle_process_notification_side_effects`, up to the call of the notification's service:
the notification and the patch it applies. -/
def handleProcessNotificationSideEffects (rows : List NotificationRow)
    (job : ProcessNotificationSideEffects) :
    Except UniversalInboxError (NotificationRow × NotificationPatch) :=
  match rows.find? (·.id == job.notificationId) with
  | none =>
    .error (.itemNotFound s!"Notification with ID {job.notificationId.uuid} not found for user {job.userId.uuid}")
  | some row =>
    if row.userId ≠ job.userId then
      .error (.forbidden s!"Only the owner of the notification {job.notificationId.uuid} can access it")
    else .ok (row, job.patch)

structure Execution where
  job : QueuedJob
  result : Except UniversalInboxError (NotificationRow × NotificationPatch)

structure Outcome where
  request : RequestId
  ok : Bool
deriving DecidableEq, Repr

structure State where
  store : Store RequestId NotificationRow Progress
  queue : List QueuedJob
  executed : List Execution
  /-- What the requests that are over have returned. -/
  outcomes : Table Outcome.request

/-- `returned` is the order in which Postgres returns the updated rows. `fail` is an `UPDATE` or
a `COMMIT` that fails, which rolls the transaction back; `other` a transaction of another part of
the program. A worker may leave the job it takes in the queue, to be taken again. -/
inductive Input where
  | begin (id : RequestId) (userId : UserId) (request : PatchRequest)
  | update (id : RequestId) (returned : List NotificationId)
  | push (id : RequestId) (attempts : List PushAttempt)
  | fail (id : RequestId)
  | commit (id : RequestId)
  | work (job : QueuedJob) (redelivered : Bool)
  | other (id : RequestId) (write : Write NotificationRow)

def executable (s : State) (id : RequestId) (write : Option (Write NotificationRow)) : Bool :=
  write.all fun w => !s.store.blocked id w

/-- The handler returns an error and drops its transaction. -/
def failed (s : State) (id : RequestId) : Option State :=
  (s.outcomes.insert? ⟨id, false⟩).map fun outcomes =>
    { s with store := s.store.rollback id, outcomes }

def step (s : State) : Input → Option State
  | .begin id userId request =>
    if (s.outcomes.find? id).isNone then
      (s.store.begin id ⟨userId, request.groups, []⟩).map fun store => { s with store }
    else none
  | .update id returned =>
    (s.store.sessions.find? id).bind fun session =>
      match session.memory with
      | ⟨userId, (selector, patch) :: rest, []⟩ =>
        let write := updateNotificationsWithSelector selector patch userId
        if executable s id write ∧ returned.Perm (returning (s.store.visible session) write) then
          some { s with
            store := s.store.run id write
              ⟨userId, rest, returned.map fun notificationId => ⟨notificationId, patch, userId⟩⟩ }
        else none
      | _ => none
  | .push id attempts =>
    (s.store.sessions.find? id).bind fun session =>
      match session.memory with
      | ⟨userId, groups, job :: rest⟩ =>
        if attempts.length = maxAttempts then
          let queue := s.queue ++ List.replicate (retrySpawn attempts).1 ⟨id, job⟩
          if (retrySpawn attempts).2 then
            some { s with queue, store := s.store.run id none ⟨userId, groups, rest⟩ }
          else failed { s with queue } id
        else none
      | _ => none
  | .fail id =>
    (s.store.sessions.find? id).bind fun session =>
      if session.memory.pushes = [] then failed s id else none
  | .commit id =>
    (s.store.sessions.find? id).bind fun session =>
      if session.memory.groups = [] ∧ session.memory.pushes = [] then
        (s.outcomes.insert? ⟨id, true⟩).map fun outcomes =>
          { s with store := s.store.commit session, outcomes }
      else none
  | .work job redelivered =>
    if job ∈ s.queue then
      some { s with
        queue := if redelivered then s.queue else s.queue.erase job
        executed := ⟨job, handleProcessNotificationSideEffects s.store.committed job.job⟩ ::
          s.executed }
    else none
  | .other id write =>
    if (s.store.sessions.find? id).isNone ∧ !s.store.blocked id write then
      some { s with store := { s.store with committed := write.apply s.store.committed } }
    else none

def initial (rows : List NotificationRow) : State := ⟨⟨rows, Table.empty⟩, [], [], Table.empty⟩

/-- Which steps may change a committed row. -/
def MayChangeRows (t : State) : Input → Prop
  | .commit id => t.outcomes.find? id = some ⟨id, true⟩
  | .other _ _ => True
  | _ => False

instance (t : State) : ∀ i, Decidable (MayChangeRows t i)
  | .commit _ => inferInstanceAs (Decidable (_ = _))
  | .other _ _ => .isTrue trivial
  | .begin _ _ _ | .update _ _ | .push _ _ | .fail _ | .work _ _ => .isFalse not_false

/-- No request that returned an error changed a row or had a job executed, and no job was
executed before its request had committed. -/
structure NoTrace (s : State) (i : Input) (t : State) : Prop where
  rows : t.store.committed ≠ s.store.committed → MayChangeRows t i
  failed : ∀ outcome ∈ t.outcomes.rows, outcome.ok = false →
    ∀ e ∈ t.executed, e.job.request ≠ outcome.request
  committed : ∀ e ∈ t.executed, t.outcomes.find? e.job.request = some ⟨e.job.request, true⟩

instance (s : State) (i : Input) (t : State) : Decidable (NoTrace s i t) :=
  decidable_of_iff
    ((t.store.committed ≠ s.store.committed → MayChangeRows t i) ∧
      (∀ outcome ∈ t.outcomes.rows, outcome.ok = false →
        ∀ e ∈ t.executed, e.job.request ≠ outcome.request) ∧
      ∀ e ∈ t.executed, t.outcomes.find? e.job.request = some ⟨e.job.request, true⟩)
    ⟨fun ⟨rows, failed, committed⟩ => ⟨rows, failed, committed⟩,
      fun ⟨rows, failed, committed⟩ => ⟨rows, failed, committed⟩⟩

/-- A request fails only while none of its jobs has reached the queue, and a worker takes a job
only when the transaction of its request is over. -/
def PatchGuard (s : State) : Input → Prop
  | .push id attempts => (retrySpawn attempts).2 = false →
      (retrySpawn attempts).1 = 0 ∧ ∀ job ∈ s.queue, job.request ≠ id
  | .fail id => ∀ job ∈ s.queue, job.request ≠ id
  | .work job _ => (s.store.sessions.find? job.request).isNone
  | _ => True

instance (s : State) : ∀ i, Decidable (PatchGuard s i)
  | .push _ attempts =>
    inferInstanceAs (Decidable ((retrySpawn attempts).2 = false → _))
  | .fail _ => inferInstanceAs (Decidable (∀ _ ∈ _, _))
  | .work _ _ => inferInstanceAs (Decidable (_ = true))
  | .begin _ _ _ | .update _ _ | .commit _ | .other _ _ => .isTrue trivial

/-- A job in the queue belongs to an open or to a committed request, an executed one to a
committed one. -/
structure Inv (s : State) : Prop where
  queued : ∀ job ∈ s.queue, (s.store.sessions.find? job.request).isSome ∨
    s.outcomes.find? job.request = some ⟨job.request, true⟩
  executed : ∀ e ∈ s.executed, s.outcomes.find? e.job.request = some ⟨e.job.request, true⟩

section Run
variable {s t : State} {id : RequestId}

/-- A step that ends no request and only queues jobs of open ones. -/
theorem Inv.extend (h : Inv s)
    (hsessions : ∀ id, (s.store.sessions.find? id).isSome → (t.store.sessions.find? id).isSome)
    (hqueue : ∀ job ∈ t.queue, job ∈ s.queue ∨ (t.store.sessions.find? job.request).isSome)
    (hexecuted : t.executed = s.executed) (houtcomes : t.outcomes = s.outcomes) : Inv t := by
  constructor
  · intro job hjob
    rw [houtcomes]
    rcases hqueue job hjob with hold | hopen
    · exact (h.queued job hold).imp_left (hsessions _)
    · exact .inl hopen
  · rw [hexecuted, houtcomes]
    exact h.executed

/-- A request without jobs in the queue ends with an error. -/
theorem Inv.failed (h : Inv s) (hqueue : ∀ job ∈ s.queue, job.request ≠ id)
    (ht : failed s id = some t) : Inv t := by
  obtain ⟨outcomes, hinsert, rfl⟩ := Option.map_eq_some_iff.mp ht
  constructor
  · intro job hjob
    refine (h.queued job hjob).imp (fun hopen => ?_) (Table.find?_of_insert hinsert)
    rw [Store.rollback, Table.find?_erase, if_neg (hqueue job hjob)]
    exact hopen
  · intro e he
    exact Table.find?_of_insert hinsert (h.executed e he)

/-- A push that fails delivers no copy of its job, so the queue is as it was. -/
theorem inv_push {attempts : List PushAttempt} (h : Inv s)
    (hstep : step s (.push id attempts) = some t) (hguard : PatchGuard s (.push id attempts)) :
    Inv t := by
  obtain ⟨session, hfind, hthen⟩ := Option.bind_eq_some_iff.mp hstep
  split at hthen
  · next userId groups job rest hmemory =>
    simp only [Option.ite_none_right_eq_some] at hthen
    obtain ⟨-, hthen⟩ := hthen
    by_cases hok : (retrySpawn attempts).2 = true
    · rw [if_pos hok] at hthen
      cases hthen
      refine h.extend (fun _ hid => Store.find?_run_isSome.trans hid) ?_ rfl rfl
      intro job hjob
      rcases List.mem_append.mp hjob with hold | hnew
      · exact .inl hold
      · right
        rw [List.eq_of_mem_replicate hnew, Store.find?_run_isSome, hfind]
        rfl
    · rw [if_neg hok] at hthen
      obtain ⟨hnone, hqueue⟩ := hguard (Bool.eq_false_iff.mpr hok)
      rw [hnone, List.replicate_zero, List.append_nil] at hthen
      exact h.failed hqueue hthen
  · cases hthen

/-- The jobs of the committed request stay in the queue, as jobs of a committed one. -/
theorem inv_commit (h : Inv s) (hstep : step s (.commit id) = some t) : Inv t := by
  obtain ⟨session, hfind, hthen⟩ := Option.bind_eq_some_iff.mp hstep
  simp only [Option.ite_none_right_eq_some] at hthen
  obtain ⟨outcomes, hinsert, rfl⟩ := Option.map_eq_some_iff.mp hthen.2
  obtain ⟨-, rfl⟩ := Table.find?_eq_some.mp hfind
  constructor
  · intro job hjob
    by_cases hid : job.request = session.id
    · right
      rw [hid, Table.find?_insert hinsert, if_pos rfl]
    · refine (h.queued job hjob).imp (fun hopen => ?_) (Table.find?_of_insert hinsert)
      rw [Store.commit, Table.find?_erase, if_neg hid]
      exact hopen
  · intro e he
    exact Table.find?_of_insert hinsert (h.executed e he)

/-- The worker takes a job of a committed request: that of an open one is not in its reach. -/
theorem inv_work {job : QueuedJob} {redelivered : Bool} (h : Inv s)
    (hstep : step s (.work job redelivered) = some t)
    (hguard : (s.store.sessions.find? job.request).isNone) : Inv t := by
  simp only [step, Option.ite_none_right_eq_some, Option.some.injEq] at hstep
  obtain ⟨hjob, rfl⟩ := hstep
  constructor
  · intro job' hjob'
    apply h.queued job'
    cases redelivered with
    | true => exact hjob'
    | false => exact List.mem_of_mem_erase hjob'
  · intro e he
    rcases List.mem_cons.mp he with rfl | hold
    · apply (h.queued job hjob).resolve_left
      intro hopen
      rw [Option.isNone_iff_eq_none.mp hguard] at hopen
      cases hopen
    · exact h.executed e hold

theorem inv_step {i : Input} (h : Inv s) (hstep : step s i = some t) (hguard : PatchGuard s i) :
    Inv t := by
  cases i with
  | begin id userId request =>
    simp only [step, Option.ite_none_right_eq_some] at hstep
    obtain ⟨-, hbegin⟩ := hstep
    obtain ⟨store, hstore, rfl⟩ := Option.map_eq_some_iff.mp hbegin
    obtain ⟨sessions, hinsert, rfl⟩ := Option.map_eq_some_iff.mp hstore
    exact h.extend (fun _ => Table.find?_isSome_insert hinsert) (fun _ => .inl) rfl rfl
  | update id returned =>
    obtain ⟨session, hfind, hthen⟩ := Option.bind_eq_some_iff.mp hstep
    split at hthen
    · simp only [Option.ite_none_right_eq_some, Option.some.injEq] at hthen
      obtain ⟨-, rfl⟩ := hthen
      exact h.extend (fun _ hid => Store.find?_run_isSome.trans hid) (fun _ => .inl) rfl rfl
    · cases hthen
  | push id attempts => exact inv_push h hstep hguard
  | fail id =>
    obtain ⟨session, -, hthen⟩ := Option.bind_eq_some_iff.mp hstep
    simp only [Option.ite_none_right_eq_some] at hthen
    exact h.failed hguard hthen.2
  | commit id => exact inv_commit h hstep
  | work job redelivered => exact inv_work h hstep hguard
  | other id write =>
    simp only [step, Option.ite_none_right_eq_some, Option.some.injEq] at hstep
    obtain ⟨-, rfl⟩ := hstep
    exact h.extend (fun _ hid => hid) (fun _ => .inl) rfl rfl

/-- Rows change when a request commits, and at no other step of a request. -/
theorem mayChangeRows_of_ne {i : Input} (hstep : step s i = some t)
    (hne : t.store.committed ≠ s.store.committed) : MayChangeRows t i := by
  cases i with
  | begin id userId request =>
    simp only [step, Option.ite_none_right_eq_some] at hstep
    obtain ⟨store, hstore, rfl⟩ := Option.map_eq_some_iff.mp hstep.2
    obtain ⟨sessions, -, rfl⟩ := Option.map_eq_some_iff.mp hstore
    exact hne rfl
  | update id returned =>
    obtain ⟨session, -, hthen⟩ := Option.bind_eq_some_iff.mp hstep
    split at hthen
    · simp only [Option.ite_none_right_eq_some, Option.some.injEq] at hthen
      obtain ⟨-, rfl⟩ := hthen
      exact hne rfl
    · cases hthen
  | push id attempts =>
    obtain ⟨session, -, hthen⟩ := Option.bind_eq_some_iff.mp hstep
    split at hthen
    · simp only [Option.ite_none_right_eq_some] at hthen
      obtain ⟨-, hthen⟩ := hthen
      split at hthen
      · cases hthen
        exact hne rfl
      · obtain ⟨outcomes, -, rfl⟩ := Option.map_eq_some_iff.mp hthen
        exact hne rfl
    · cases hthen
  | fail id =>
    obtain ⟨session, -, hthen⟩ := Option.bind_eq_some_iff.mp hstep
    simp only [Option.ite_none_right_eq_some] at hthen
    obtain ⟨outcomes, -, rfl⟩ := Option.map_eq_some_iff.mp hthen.2
    exact hne rfl
  | commit id =>
    obtain ⟨session, -, hthen⟩ := Option.bind_eq_some_iff.mp hstep
    simp only [Option.ite_none_right_eq_some] at hthen
    obtain ⟨outcomes, hinsert, rfl⟩ := Option.map_eq_some_iff.mp hthen.2
    exact (Table.find?_insert hinsert).trans (if_pos rfl)
  | work job redelivered =>
    simp only [step, Option.ite_none_right_eq_some, Option.some.injEq] at hstep
    obtain ⟨-, rfl⟩ := hstep
    exact hne rfl
  | other id write => trivial

theorem Inv.noTrace (h : Inv t) {i : Input} (hstep : step s i = some t) : NoTrace s i t where
  rows := mayChangeRows_of_ne hstep
  failed := by
    intro outcome houtcome hfailed e he hrequest
    have hcommitted := h.executed e he
    rw [hrequest, Table.find?_eq_some.mpr ⟨houtcome, rfl⟩] at hcommitted
    rw [Option.some.inj hcommitted] at hfailed
    cases hfailed
  committed := h.executed

end Run

/-- In every run whose steps meet the guard, a failed request leaves no trace, and no job runs
before its request has committed. -/
theorem noTrace_of_guard (rows : List NotificationRow) (inputs : List Input)
    (hrun : Along step (fun s i _ => PatchGuard s i) (initial rows) inputs) :
    Along step NoTrace (initial rows) inputs :=
  hrun.of_invariant (I := Inv) (fun _ _ _ h hstep hguard => inv_step h hstep hguard)
    (fun _ _ _ h hstep hguard => (inv_step h hstep hguard).noTrace hstep)
    ⟨fun _ hjob => (List.not_mem_nil hjob).elim, fun _ he => (List.not_mem_nil he).elim⟩

def unreadNotification (id : Nat) : NotificationRow :=
  { id := ⟨id⟩, title := "", status := .unread, createdAt := 0, updatedAt := 0, lastReadAt := none,
    snoozedUntil := none, setAsideAt := none, userId := ⟨1⟩, taskId := none, kind := .github,
    sourceItemId := ⟨id⟩ }

def markAsRead : NotificationPatch := { status := some .read, snoozedUntil := none, taskId := none }

def markAsReadJob (id : Nat) : QueuedJob :=
  { request := 1, job := ⟨⟨id⟩, markAsRead, ⟨1⟩⟩ }

/-- Marking all as read, the worker waiting for the commit. -/
def patientWorker : List Input :=
  [.begin 1 ⟨1⟩ (.patchNotificationsBulk [] [] markAsRead), .update 1 [⟨1⟩],
    .push 1 (.lost :: List.replicate 10 .acknowledged), .commit 1, .work (markAsReadJob 1) false]

theorem patientWorker_noTrace :
    Along step NoTrace (initial [unreadNotification 1]) patientWorker :=
  noTrace_of_guard [unreadNotification 1] patientWorker (by decide)

/-- Marking two notifications as read, when Redis goes away after the first job: the request
fails, and the job it has pushed is executed. -/
def secondPushFails : List Input :=
  [.begin 1 ⟨1⟩ (.patchNotificationsBulk [] [] markAsRead), .update 1 [⟨1⟩, ⟨2⟩],
    .push 1 (List.replicate 11 .acknowledged), .push 1 (List.replicate 11 .lost),
    .work (markAsReadJob 1) false]

theorem secondPushFails_leaves_trace :
    Possible step (initial [unreadNotification 1, unreadNotification 2]) secondPushFails ∧
      ¬ Along step NoTrace (initial [unreadNotification 1, unreadNotification 2])
        secondPushFails := by
  decide

end UniversalInbox.BulkPatch
