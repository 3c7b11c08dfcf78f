import UniversalInbox.SyncServices
import UniversalInbox.Library.Transition

/-! What `is_syncing` says of a connection against the sync jobs there are for it. A schedule stamps
connections and commits before its jobs are pushed to the queue; a job is a list of syncs, each of
which is skipped, or claims its start and then completes or fails. -/
namespace UniversalInbox.SyncingStatus
open ConnectionStatus SyncClaims SyncServices Transition

/-- `is_syncing_notifications` and `is_syncing_tasks`. -/
def isSyncing (row : IntegrationConnectionRow) (type : IntegrationConnectionSyncType) : Bool :=
  if !row.isConnected then false
  else
    match (row.sync type).scheduledAt with
    | none => false
    | some scheduledAt =>
      match (row.sync type).completedAt with
      | none => true
      | some completedAt => completedAt < scheduledAt

/-- `SyncNotificationsJob` and `SyncTasksJob`; the source as the provider it stands for. -/
structure Job where
  type : IntegrationConnectionSyncType
  source : Option IntegrationProviderKind
  userId : Option UserId
deriving DecidableEq, Repr

/-- The sources of `sync_all_notifications` and `sync_all_tasks`, in their order. -/
def syncOrder : IntegrationConnectionSyncType → List IntegrationProviderKind
  | .notifications => [.github, .linear, .googleDrive, .googleMail, .slack, .todoist, .tickTick]
  | .tasks => [.todoist, .linear, .tickTick]

def Job.kinds (job : Job) : List IntegrationProviderKind :=
  job.source.elim (syncOrder job.type) fun kind => [kind]

/-- The job is one for the connection of the user to the provider. -/
def Job.covers (job : Job) (type : IntegrationConnectionSyncType) (kind : IntegrationProviderKind)
    (userId : UserId) : Bool :=
  job.type == type && job.kinds.contains kind && job.userId.all (userId == ·)

/-- A job taken from the queue, or a request that syncs by itself: what is left to sync of which
users. -/
structure RunningJob where
  type : IntegrationConnectionSyncType
  forceSync : Bool
  todo : List (IntegrationProviderKind × UserId)
  /-- The first sync left has claimed its start. -/
  claimed : Bool
deriving DecidableEq, Repr

def RunningJob.covers (job : RunningJob) (type : IntegrationConnectionSyncType)
    (kind : IntegrationProviderKind) (userId : UserId) : Bool :=
  job.type == type && job.todo.contains (kind, userId)

/-- Todoist and TickTick notifications are synced by the sync of their tasks. -/
def RunningJob.request (job : RunningJob) (target : IntegrationProviderKind × UserId) : SyncRequest :=
  { type := if target.1.isTaskService then .tasks else job.type, kind := target.1, userId := target.2 }

/-- A job for all users fetches them. -/
def Job.start (job : Job) (users : List UserId) (forceSync : Bool) : RunningJob where
  type := job.type
  forceSync := forceSync
  todo := (job.userId.elim users fun userId => [userId]).flatMap fun userId =>
    job.kinds.map fun kind => (kind, userId)
  claimed := false

/-- The first sync left is over. -/
def RunningJob.next (job : RunningJob) : RunningJob :=
  { job with todo := job.todo.tail, claimed := false }

def sameUser (target other : IntegrationProviderKind × UserId) : Bool := other.2 == target.2

/-- The error of a sync ends the syncs of its user. -/
def RunningJob.giveUp (job : RunningJob) (target : IntegrationProviderKind × UserId) : RunningJob :=
  { job with todo := job.todo.dropWhile (sameUser target), claimed := false }

/-- Jobs that are about to be pushed, request by request, those that are queued, and those that
run. -/
structure Work where
  requests : List (List Job)
  queue : List Job
  running : List RunningJob

namespace Work

/-- There is a job of the type for the connection of the user to the provider. -/
def pending (work : Work) (type : IntegrationConnectionSyncType) (kind : IntegrationProviderKind)
    (userId : UserId) : Bool :=
  work.requests.any (fun jobs => jobs.any (·.covers type kind userId)) ||
    work.queue.any (·.covers type kind userId) || work.running.any (·.covers type kind userId)

def addRequest (work : Work) (jobs : List Job) : Work :=
  { work with requests := jobs :: work.requests }

def dropRequest (work : Work) (jobs : List Job) : Work :=
  { work with requests := work.requests.erase jobs }

def addQueued (work : Work) (job : Job) : Work := { work with queue := work.queue ++ [job] }

def dropQueued (work : Work) (job : Job) : Work := { work with queue := work.queue.erase job }

def dropRunning (work : Work) (job : RunningJob) : Work :=
  { work with running := work.running.erase job }

def addRunning (work : Work) (job : RunningJob) : Work :=
  { work with running := job :: work.running }

end Work

structure State where
  connections : Connections
  clock : DateTime
  work : Work

inductive Input where
  | create (row : IntegrationConnectionRow)
  /-- The OAuth callback, a disconnection, or whatever else writes a status. -/
  | setStatus (id : IntegrationConnectionId) (status : IntegrationConnectionStatus)
  | configure (id : IntegrationConnectionId) (config : IntegrationConnectionConfig)
      (syncTasksEnabled : Bool)
  | schedule (job : Job) (instant : DateTime)
  | scheduleDue (userId : UserId) (instant : DateTime)
      (skipped : IntegrationConnectionSyncType → IntegrationConnectionId → Bool)
  | push (job : Job) (rest : List Job)
  | pushFails (jobs : List Job)
  | startJob (job : Job) (users : List UserId)
  /-- A sync asked for by a request that waits for it, or from the command line. -/
  | syncNow (job : Job) (users : List UserId) (forceSync : Bool)
  | skip (job : RunningJob) (instants : SyncInstants)
  | claim (job : RunningJob) (instants : SyncInstants)
  | complete (job : RunningJob) (instants : SyncInstants)
  | fail (job : RunningJob) (instants : SyncInstants)

theorem keepsKeys_status (status : IntegrationConnectionStatus) :
    KeepsKeys fun row => { row with status } :=
  ⟨fun _ => rfl, fun _ => rfl, fun _ => rfl⟩

theorem keepsKeys_config (config : IntegrationConnectionConfig) :
    KeepsKeys fun row => { row with config } :=
  ⟨fun _ => rfl, fun _ => rfl, fun _ => rfl⟩

theorem keepsKeys_scheduled (now : DateTime) (type : IntegrationConnectionSyncType) :
    KeepsKeys (ClaimColumn.write · now (.scheduledAt type)) where
  id := ClaimColumn.write_id _ now
  userId _ := IntegrationConnectionRow.setSync_userId
  providerKind _ := IntegrationConnectionRow.setSync_providerKind

theorem nodup_providers_insert {connections : Connections} {row : IntegrationConnectionRow}
    {table : IntegrationConnectionTable} (hinsert : connections.table.insert? row = some table)
    (hnew : ∀ other ∈ connections.table.rows,
      ¬ (other.userId = row.userId ∧ other.providerKind = row.providerKind)) :
    (table.rows.map fun row => (row.userId, row.providerKind)).Nodup := by
  rw [(Table.insert?_eq_some.mp hinsert).2, List.map_append]
  refine List.nodup_append.mpr ⟨connections.onePerProvider, List.nodup_singleton _, ?_⟩
  intro keys hkeys keys' hkeys' hsame
  obtain ⟨other, hother, rfl⟩ := List.mem_map.mp hkeys
  rw [List.map_singleton, List.mem_singleton] at hkeys'
  rw [hkeys', Prod.mk.injEq] at hsame
  exact hnew other hother hsame

/-- `INSERT`, which the unique index refuses to a second connection of a user to a provider. -/
def insert? (connections : Connections) (row : IntegrationConnectionRow) : Option Connections :=
  if hnew : ∀ other ∈ connections.table.rows,
      ¬ (other.userId = row.userId ∧ other.providerKind = row.providerKind) then
    match hinsert : connections.table.insert? row with
    | none => none
    | some table =>
      some { connections with table, onePerProvider := nodup_providers_insert hinsert hnew }
  else none

/-- `schedule_notifications_sync_status` and `schedule_tasks_sync_status`: every connection the job
may be for, validated or not. -/
def scheduleSyncStatus (settings : SyncSettings) (connections : Connections) (job : Job)
    (instant : DateTime) : Connections :=
  connections.update (selectsConnection job.userId job.source)
    (setSyncStatus settings.syncFailureWindowInHours instant instant · (.scheduled job.type))
    (keepsKeys_setSyncStatus _ _ _ _)

/-- The due connections of a user, with a job for each. -/
def claimDue (settings : SyncSettings) (connections : Connections)
    (type : IntegrationConnectionSyncType) (userId : UserId) (now : DateTime)
    (skipped : IntegrationConnectionId → Bool) : Connections × List Job :=
  let claims := dueClaims type userId (syncSourceKinds type)
    (now - minutes (settings.minSyncIntervals.of type)) skipped
  (connections.update claims (ClaimColumn.write · now (.scheduledAt type))
      (keepsKeys_scheduled now type),
    (connections.table.rows.filter claims).map fun row => ⟨type, some row.providerKind, some userId⟩)

/-- `schedule_due_syncs`, in one transaction. -/
def scheduleDueSyncs (settings : SyncSettings) (connections : Connections) (userId : UserId)
    (now : DateTime) (skipped : IntegrationConnectionSyncType → IntegrationConnectionId → Bool) :
    Connections × List Job :=
  let notifications := claimDue settings connections .notifications userId now (skipped .notifications)
  let tasks := claimDue settings notifications.1 .tasks userId now (skipped .tasks)
  (tasks.1, notifications.2 ++ tasks.2)

/-- `fetch_all_users` finds every owner of a connection, and no user twice. -/
def FetchesUsers (connections : Connections) (users : List UserId) : Prop :=
  users.Nodup ∧ ∀ row ∈ connections.table.rows, row.userId ∈ users

instance (connections : Connections) (users : List UserId) :
    Decidable (FetchesUsers connections users) := inferInstanceAs (Decidable (_ ∧ _))

/-- The sources of a job are those its type can sync. -/
def Job.IsValid (job : Job) : Prop := ∀ kind ∈ job.source, kind ∈ syncSourceKinds job.type

instance (job : Job) : Decidable job.IsValid := inferInstanceAs (Decidable (∀ _ ∈ _, _))

def step (settings : SyncSettings) (s : State) : Input → Option State
  | .create row =>
    if IsNew row ∧ row.status = .created then
      (insert? s.connections row).map fun connections => { s with connections }
    else none
  | .setStatus id status =>
    some { s with
      connections := s.connections.update (·.id == id) ({ · with status }) (keepsKeys_status status) }
  | .configure id config syncTasksEnabled =>
    let connections :=
      s.connections.update (·.id == id) ({ · with config }) (keepsKeys_config config)
    some { s with
      connections :=
        { connections with
          syncTasksEnabled := fun id' =>
            if id' = id then syncTasksEnabled else connections.syncTasksEnabled id' } }
  | .schedule job instant =>
    if job.IsValid ∧ s.clock ≤ instant then
      some
        { connections := scheduleSyncStatus settings s.connections job instant
          clock := instant
          work := s.work.addRequest [job] }
    else none
  | .scheduleDue userId instant skipped =>
    if s.clock ≤ instant then
      let due := scheduleDueSyncs settings s.connections userId instant skipped
      some { connections := due.1, clock := instant, work := s.work.addRequest due.2 }
    else none
  | .push job rest =>
    if job :: rest ∈ s.work.requests then
      some { s with work := ((s.work.dropRequest (job :: rest)).addRequest rest).addQueued job }
    else none
  | .pushFails jobs =>
    if jobs ∈ s.work.requests then some { s with work := s.work.dropRequest jobs } else none
  | .startJob job users =>
    if job ∈ s.work.queue ∧ (job.userId = none → FetchesUsers s.connections users) then
      some { s with work := (s.work.dropQueued job).addRunning (job.start users false) }
    else none
  | .syncNow job users forceSync =>
    if job.IsValid ∧ (job.userId = none → FetchesUsers s.connections users) then
      some { s with work := s.work.addRunning (job.start users forceSync) }
    else none
  | .skip job instants =>
    match job.todo with
    | [] => none
    | target :: _ =>
      if job ∈ s.work.running ∧ job.claimed = false ∧
          (claimSync settings s.connections (job.request target) job.forceSync instants).2 = false then
        some { s with work := (s.work.dropRunning job).addRunning job.next }
      else none
  | .claim job instants =>
    match job.todo with
    | [] => none
    | target :: _ =>
      let claim := claimSync settings s.connections (job.request target) job.forceSync instants
      if job ∈ s.work.running ∧ job.claimed = false ∧ claim.2 = true then
        some { s with
          connections := claim.1
          work := (s.work.dropRunning job).addRunning { job with claimed := true } }
      else none
  | .complete job instants =>
    match job.todo with
    | [] => none
    | target :: _ =>
      if job ∈ s.work.running ∧ job.claimed = true ∧ s.clock ≤ instants.endedAt then
        some
          { connections := completeSyncStatus settings s.connections (job.request target) instants
            clock := instants.endedAt
            work := (s.work.dropRunning job).addRunning job.next }
      else none
  | .fail job instants =>
    match job.todo with
    | [] => none
    | target :: _ =>
      if job ∈ s.work.running ∧ job.claimed = true ∧ s.clock ≤ instants.endedAt then
        some
          { connections := errorSyncStatus settings s.connections (job.request target) instants
            clock := instants.endedAt
            work := (s.work.dropRunning job).addRunning (job.giveUp target) }
      else none

def initial (clock : DateTime) : State where
  connections := ⟨Table.empty, List.nodup_nil, fun _ => false⟩
  clock := clock
  work := ⟨[], [], []⟩

/-- A connection without a job of a type is not syncing that type. -/
def Truthful (s : State) : Prop :=
  ∀ row ∈ s.connections.table.rows, ∀ type,
    s.work.pending type row.providerKind row.userId = false → isSyncing row type = false

instance (s : State) : Decidable (Truthful s) := inferInstanceAs (Decidable (∀ _ ∈ _, _))

/-- The last schedule has not been followed by a completion. -/
def Outstanding (columns : SyncColumns) : Prop :=
  ∃ scheduledAt ∈ columns.scheduledAt, ∀ completedAt ∈ columns.completedAt, completedAt < scheduledAt

/-- No validated connection with a schedule that is not followed by a completion is left without a
job when it is released by one. -/
def NoneStranded (s : State)
    (released : IntegrationConnectionSyncType → IntegrationConnectionRow → Prop) (left : Work) :
    Prop :=
  ∀ row ∈ s.connections.table.rows, ∀ type, released type row → row.status = .validated →
    Outstanding (row.sync type) → left.pending type row.providerKind row.userId = true

/-- A failure that takes the connection to `Failing`. -/
def FailsConnection (settings : SyncSettings) (request : SyncRequest) (instants : SyncInstants)
    (row : IntegrationConnectionRow) : Prop :=
  selectsConnection (some request.userId) (some request.kind) row = true ∧
    exceedsFailureWindow settings.syncFailureWindowInHours instants.startedAt
      (row.sync request.type).firstFailedAt = true

/-- What has to hold where a schedule stamps a connection, or a connection is validated, and where
a job is over that has not completed a sync of its own type. -/
def Guard (settings : SyncSettings) (s : State) : Input → Prop
  | .setStatus id status =>
    status = .validated → ∀ row ∈ s.connections.table.rows, row.id = id → ∀ type,
      Outstanding (row.sync type) → s.work.pending type row.providerKind row.userId = true
  | .schedule job instant =>
    ∀ row ∈ s.connections.table.rows, selectsConnection job.userId job.source row = true →
      row.status = .validated →
      (∀ completedAt ∈ (row.sync job.type).completedAt, completedAt < instant) →
        job.covers job.type row.providerKind row.userId = true ∨
          s.work.pending job.type row.providerKind row.userId = true
  | .pushFails jobs =>
    NoneStranded s
      (fun type row => ∃ job ∈ jobs, job.covers type row.providerKind row.userId = true)
      (s.work.dropRequest jobs)
  | .skip job _ =>
    NoneStranded s
      (fun type row => type = job.type ∧ (row.providerKind, row.userId) ∈ job.todo.head?)
      ((s.work.dropRunning job).addRunning job.next)
  | .complete job _ =>
    NoneStranded s
      (fun type row => type = job.type ∧ (row.providerKind, row.userId) ∈ job.todo.head? ∧
        (job.request (row.providerKind, row.userId)).type ≠ job.type)
      ((s.work.dropRunning job).addRunning job.next)
  | .fail job instants =>
    ∀ target ∈ job.todo.head?,
      NoneStranded s
        (fun type row => type = job.type ∧
          (row.providerKind, row.userId) ∈ job.todo.takeWhile (sameUser target) ∧
          ¬ FailsConnection settings (job.request target) instants row)
        ((s.work.dropRunning job).addRunning (job.giveUp target))
  | _ => True

section Columns
variable {row row' : IntegrationConnectionRow} {type : IntegrationConnectionSyncType}

theorem isSyncing_iff :
    isSyncing row type = true ↔ row.status = .validated ∧ Outstanding (row.sync type) := by
  unfold isSyncing IntegrationConnectionRow.isConnected Outstanding
  cases hstatus : row.status with
  | created => simp
  | failing => simp
  | validated =>
    cases (row.sync type).scheduledAt with
    | none => simp
    | some scheduledAt =>
      cases (row.sync type).completedAt with
      | none => simp
      | some completedAt => simp

theorem isSyncing_congr (hstatus : row'.status = row.status)
    (hscheduled : (row'.sync type).scheduledAt = (row.sync type).scheduledAt)
    (hcompleted : (row'.sync type).completedAt = (row.sync type).completedAt) :
    isSyncing row' type = isSyncing row type := by
  unfold isSyncing IntegrationConnectionRow.isConnected
  rw [hstatus, hscheduled, hcompleted]

/-- A completion answers the schedules before it. -/
theorem isSyncing_completed {windowInHours now utcNow : Int}
    (h : ∀ scheduledAt ∈ (row.sync type).scheduledAt, scheduledAt ≤ utcNow) :
    isSyncing (setSyncStatus windowInHours now utcNow row (.completed type)) type = false := by
  by_contra hsyncing
  obtain ⟨-, scheduledAt, hscheduled, hlater⟩ :=
    isSyncing_iff.mp (eq_true_of_ne_false hsyncing)
  simp only [setSyncStatus, IntegrationConnectionRow.sync_setSync_self] at hscheduled hlater
  have hle := h scheduledAt hscheduled
  exact absurd (hlater utcNow rfl) (not_lt.mpr hle)

theorem isSyncing_completed_of_ne {windowInHours now utcNow : Int}
    {type' : IntegrationConnectionSyncType} (hne : type ≠ type') :
    isSyncing (setSyncStatus windowInHours now utcNow row (.completed type')) type =
      isSyncing row type := by
  refine isSyncing_congr IntegrationConnectionRow.setSync_status ?_ ?_
  · rw [setSyncStatus, IntegrationConnectionRow.sync_setSync_of_ne hne]
  · rw [setSyncStatus, IntegrationConnectionRow.sync_setSync_of_ne hne]

/-- A failure writes neither column, but may take the connection to `Failing`. -/
theorem isSyncing_failed {windowInHours now utcNow : Int} {type' : IntegrationConnectionSyncType}
    {message : String} :
    isSyncing (setSyncStatus windowInHours now utcNow row (.failed type' message)) type =
      (!exceedsFailureWindow windowInHours now (row.sync type').firstFailedAt &&
        isSyncing row type) := by
  cases hexceeded : exceedsFailureWindow windowInHours now (row.sync type').firstFailedAt with
  | true =>
    unfold isSyncing IntegrationConnectionRow.isConnected
    simp [setSyncStatus, hexceeded]
  | false =>
    rw [Bool.not_false, Bool.true_and]
    refine isSyncing_congr ?_ ?_ ?_
    · simp [setSyncStatus, hexceeded]
    · cases type' <;> cases type <;> rfl
    · cases type' <;> cases type <;> rfl

end Columns

section Pending
variable {work : Work} {type : IntegrationConnectionSyncType} {kind : IntegrationProviderKind}
  {userId : UserId}

theorem pending_addRequest (jobs : List Job) :
    (work.addRequest jobs).pending type kind userId =
      (jobs.any (·.covers type kind userId) || work.pending type kind userId) := by
  simp only [Work.pending, Work.addRequest, List.any_cons, Bool.or_assoc]

theorem pending_dropRequest {jobs : List Job} (h : jobs ∈ work.requests) :
    work.pending type kind userId =
      (jobs.any (·.covers type kind userId) || (work.dropRequest jobs).pending type kind userId) := by
  have hperm := (List.perm_cons_erase h).any_eq (f := fun jobs => jobs.any (·.covers type kind userId))
  simp only [Work.pending, Work.dropRequest, hperm, List.any_cons, Bool.or_assoc]

theorem pending_addQueued (job : Job) :
    (work.addQueued job).pending type kind userId =
      (job.covers type kind userId || work.pending type kind userId) := by
  simp only [Work.pending, Work.addQueued, List.any_append, List.any_cons, List.any_nil, Bool.or_false]
  ac_rfl

theorem pending_dropQueued {job : Job} (h : job ∈ work.queue) :
    work.pending type kind userId =
      (job.covers type kind userId || (work.dropQueued job).pending type kind userId) := by
  have hperm := (List.perm_cons_erase h).any_eq (f := fun job : Job => job.covers type kind userId)
  simp only [Work.pending, Work.dropQueued, hperm, List.any_cons]
  ac_rfl

theorem pending_addRunning (job : RunningJob) :
    (work.addRunning job).pending type kind userId =
      (job.covers type kind userId || work.pending type kind userId) := by
  simp only [Work.pending, Work.addRunning, List.any_cons]
  ac_rfl

theorem pending_dropRunning {job : RunningJob} (h : job ∈ work.running) :
    work.pending type kind userId =
      (job.covers type kind userId || (work.dropRunning job).pending type kind userId) := by
  have hperm := (List.perm_cons_erase h).any_eq
    (f := fun job : RunningJob => job.covers type kind userId)
  simp only [Work.pending, Work.dropRunning, hperm, List.any_cons]
  ac_rfl

/-- A job that starts is for the connections it was for in the queue, as far as their users are
fetched. -/
theorem covers_start {job : Job} {users : List UserId} {forceSync : Bool}
    (h : job.userId = none → userId ∈ users) :
    (job.start users forceSync).covers type kind userId = job.covers type kind userId := by
  rw [Bool.eq_iff_iff]
  simp only [RunningJob.covers, Job.covers, Job.start, Bool.and_eq_true, beq_iff_eq,
    List.contains_iff_mem, List.mem_flatMap, List.mem_map, Prod.mk.injEq]
  cases huser : job.userId with
  | none => simp [h huser]
  | some owner =>
    simp only [Option.elim, Option.all_some, beq_iff_eq, List.mem_singleton]
    constructor
    · rintro ⟨htype, owner', rfl, kind', hkind', rfl, rfl⟩
      exact ⟨⟨htype, hkind'⟩, rfl⟩
    · rintro ⟨⟨htype, hkind⟩, rfl⟩
      exact ⟨htype, userId, rfl, kind, hkind, rfl, rfl⟩

theorem covers_iff {job : RunningJob} :
    job.covers type kind userId = true ↔ type = job.type ∧ (kind, userId) ∈ job.todo := by
  rw [RunningJob.covers, Bool.and_eq_true, beq_iff_eq, List.contains_iff_mem, eq_comm]

/-- What is left of a running job keeps the connections it does not release. -/
theorem pending_replace {job job' : RunningJob} (hjob : job ∈ work.running)
    (h : work.pending type kind userId = true)
    (hleft : job.covers type kind userId = true → job'.covers type kind userId = true) :
    ((work.dropRunning job).addRunning job').pending type kind userId = true := by
  rw [pending_dropRunning hjob, Bool.or_eq_true] at h
  rw [pending_addRunning, Bool.or_eq_true]
  exact h.imp_left hleft

theorem covers_next {job : RunningJob} {target : IntegrationProviderKind × UserId}
    {rest : List (IntegrationProviderKind × UserId)} (htodo : job.todo = target :: rest)
    (hother : ¬ (type = job.type ∧ (kind, userId) = target))
    (h : job.covers type kind userId = true) : job.next.covers type kind userId = true := by
  obtain ⟨htype, hmem⟩ := covers_iff.mp h
  rw [htodo, List.mem_cons] at hmem
  have hrest := hmem.resolve_left fun heq => hother ⟨htype, heq⟩
  exact covers_iff.mpr ⟨htype, by rwa [RunningJob.next, htodo, List.tail_cons]⟩

theorem covers_giveUp {job : RunningJob} {target : IntegrationProviderKind × UserId}
    (hother : ¬ (type = job.type ∧ (kind, userId) ∈ job.todo.takeWhile (sameUser target)))
    (h : job.covers type kind userId = true) :
    (job.giveUp target).covers type kind userId = true := by
  obtain ⟨htype, hmem⟩ := covers_iff.mp h
  rw [← List.takeWhile_append_dropWhile (p := sameUser target) (l := job.todo),
    List.mem_append] at hmem
  exact covers_iff.mpr ⟨htype, hmem.resolve_left fun htake => hother ⟨htype, htake⟩⟩

end Pending

section Steps
variable {settings : SyncSettings} {s t : State} {g : IntegrationConnectionRow → IntegrationConnectionRow}

theorem truthful_iff : Truthful s ↔ ∀ row ∈ s.connections.table.rows, ∀ type,
    isSyncing row type = true → s.work.pending type row.providerKind row.userId = true := by
  refine forall₂_congr fun row _ => forall_congr' fun type => ?_
  cases s.work.pending type row.providerKind row.userId <;>
    cases isSyncing row type <;> simp

/-- After an assignment to the rows, truth is read from the rows before. -/
theorem truthful_map_iff (hg : KeepsKeys g)
    (hrows : t.connections.table.rows = s.connections.table.rows.map g) :
    Truthful t ↔ ∀ row ∈ s.connections.table.rows, ∀ type,
      isSyncing (g row) type = true →
        t.work.pending type row.providerKind row.userId = true := by
  rw [truthful_iff, hrows, List.forall_mem_map]
  refine forall₂_congr fun row _ => ?_
  rw [hg.providerKind, hg.userId]

/-- A step that takes a job away, and makes no connection sync, is as good as it strands none. -/
theorem truthful_iff_noneStranded
    {released : IntegrationConnectionSyncType → IntegrationConnectionRow → Prop}
    (hs : Truthful s) (hg : KeepsKeys g)
    (hrows : t.connections.table.rows = s.connections.table.rows.map g)
    (hold : ∀ row ∈ s.connections.table.rows, ∀ type,
      isSyncing (g row) type = true → isSyncing row type = true)
    (hreleased : ∀ row ∈ s.connections.table.rows, ∀ type, released type row →
      isSyncing (g row) type = isSyncing row type)
    (hleft : ∀ row ∈ s.connections.table.rows, ∀ type, ¬ released type row →
      isSyncing (g row) type = true →
      s.work.pending type row.providerKind row.userId = true →
        t.work.pending type row.providerKind row.userId = true) :
    Truthful t ↔ NoneStranded s released t.work := by
  rw [truthful_map_iff hg hrows]
  constructor
  · intro h row hrow type hrel hvalidated houtstanding
    refine h row hrow type ?_
    rw [hreleased row hrow type hrel]
    exact isSyncing_iff.mpr ⟨hvalidated, houtstanding⟩
  · intro h row hrow type hsyncing
    have hbefore := hold row hrow type hsyncing
    by_cases hrel : released type row
    · obtain ⟨hvalidated, houtstanding⟩ := isSyncing_iff.mp hbefore
      exact h row hrow type hrel hvalidated houtstanding
    · exact hleft row hrow type hrel hsyncing (truthful_iff.mp hs row hrow type hbefore)

/-- The same, where the rows stay as they are. -/
theorem truthful_iff_noneStranded_of_rows
    {released : IntegrationConnectionSyncType → IntegrationConnectionRow → Prop}
    (hs : Truthful s) (hrows : t.connections = s.connections)
    (hleft : ∀ row ∈ s.connections.table.rows, ∀ type, ¬ released type row →
      s.work.pending type row.providerKind row.userId = true →
        t.work.pending type row.providerKind row.userId = true) :
    Truthful t ↔ NoneStranded s released t.work :=
  truthful_iff_noneStranded hs KeepsKeys.refl (by rw [hrows, List.map_id'])
    (fun _ _ _ h => h) (fun _ _ _ _ => rfl) fun row hrow type hrel _ => hleft row hrow type hrel

/-- A step that writes neither the status nor the stamps of a connection, and takes no job away. -/
theorem truthful_of_quiet (hs : Truthful s) (hg : KeepsKeys g)
    (hrows : t.connections.table.rows = s.connections.table.rows.map g)
    (hquiet : ∀ row type, isSyncing (g row) type = isSyncing row type)
    (hleft : ∀ row ∈ s.connections.table.rows, ∀ type,
      s.work.pending type row.providerKind row.userId = true →
        t.work.pending type row.providerKind row.userId = true) : Truthful t := by
  rw [truthful_map_iff hg hrows]
  intro row hrow type hsyncing
  rw [hquiet] at hsyncing
  exact hleft row hrow type (truthful_iff.mp hs row hrow type hsyncing)

/-- No connection was scheduled later than the instant. -/
def ScheduledBy (connections : Connections) (instant : DateTime) : Prop :=
  ∀ row ∈ connections.table.rows, ∀ type, ∀ scheduledAt ∈ (row.sync type).scheduledAt,
    scheduledAt ≤ instant

def StampsPast (s : State) : Prop := ScheduledBy s.connections s.clock

theorem rows_insert {connections connections' : Connections} {row : IntegrationConnectionRow}
    (hinsert : insert? connections row = some connections') :
    connections'.table.rows = connections.table.rows ++ [row] := by
  unfold insert? at hinsert
  split at hinsert
  · split at hinsert
    · cases hinsert
    · next table htable =>
      rw [← Option.some.inj hinsert]
      exact (Table.insert?_eq_some.mp htable).2
  · cases hinsert

theorem truthful_create {row : IntegrationConnectionRow} (hs : Truthful s)
    (hcreated : row.status = .created)
    (hinsert : insert? s.connections row = some t.connections) (hwork : t.work = s.work) :
    Truthful t := by
  rw [truthful_iff, rows_insert hinsert, hwork]
  intro row' hrow' type hsyncing
  rcases List.mem_append.mp hrow' with hold | hnew
  · exact truthful_iff.mp hs row' hold type hsyncing
  · rw [List.mem_singleton.mp hnew] at hsyncing
    have hvalidated := (isSyncing_iff.mp hsyncing).1
    rw [hcreated] at hvalidated
    cases hvalidated

theorem truthful_setStatus_iff {id : IntegrationConnectionId} {status : IntegrationConnectionStatus}
    (hs : Truthful s)
    (ht : t = { s with
      connections := s.connections.update (·.id == id) ({ · with status })
        (keepsKeys_status status) }) :
    Truthful t ↔ Guard settings s (.setStatus id status) := by
  subst ht
  rw [truthful_map_iff (keepsKeys_status status).ite rfl]
  constructor
  · intro h hstatus row hrow hid type houtstanding
    refine h row hrow type (isSyncing_iff.mpr ?_)
    rw [if_pos (by simpa using hid)]
    exact ⟨hstatus, by cases type <;> exact houtstanding⟩
  · intro h row hrow type hsyncing
    by_cases hid : row.id = id
    · rw [if_pos (by simpa using hid)] at hsyncing
      obtain ⟨hstatus, houtstanding⟩ := isSyncing_iff.mp hsyncing
      exact h hstatus row hrow hid type (by cases type <;> exact houtstanding)
    · rw [if_neg (by simpa using hid)] at hsyncing
      exact truthful_iff.mp hs row hrow type hsyncing

/-- What a schedule makes of a connection it stamps. -/
theorem isSyncing_scheduled {row : IntegrationConnectionRow} {windowInHours : Int}
    {now instant : DateTime} {type type' : IntegrationConnectionSyncType} :
    isSyncing (setSyncStatus windowInHours now instant row (.scheduled type')) type = true ↔
      if type = type' then row.status = .validated ∧
        ∀ completedAt ∈ (row.sync type').completedAt, completedAt < instant
      else isSyncing row type = true := by
  by_cases htype : type = type'
  · subst htype
    rw [if_pos rfl, isSyncing_iff]
    simp [setSyncStatus, Outstanding]
  · rw [if_neg htype, isSyncing_congr]
    · exact IntegrationConnectionRow.setSync_status
    · rw [setSyncStatus, IntegrationConnectionRow.sync_setSync_of_ne htype]
    · rw [setSyncStatus, IntegrationConnectionRow.sync_setSync_of_ne htype]

theorem truthful_schedule_iff {job : Job} {instant : DateTime} (hs : Truthful s)
    (ht : t =
      { connections := scheduleSyncStatus settings s.connections job instant
        clock := instant
        work := s.work.addRequest [job] }) :
    Truthful t ↔ Guard settings s (.schedule job instant) := by
  subst ht
  rw [truthful_map_iff (keepsKeys_setSyncStatus _ _ _ _).ite rfl]
  simp only [pending_addRequest, List.any_cons, List.any_nil, Bool.or_false, Bool.or_eq_true]
  constructor
  · intro h row hrow hselected hvalidated hcompleted
    refine h row hrow job.type ?_
    rw [if_pos hselected, isSyncing_scheduled, if_pos rfl]
    exact ⟨hvalidated, hcompleted⟩
  · intro h row hrow type hsyncing
    by_cases hselected : selectsConnection job.userId job.source row = true
    · rw [if_pos hselected, isSyncing_scheduled] at hsyncing
      split at hsyncing
      · next htype =>
        rw [htype]
        exact h row hrow hselected hsyncing.1 hsyncing.2
      · exact .inr (truthful_iff.mp hs row hrow type hsyncing)
    · rw [if_neg hselected] at hsyncing
      exact .inr (truthful_iff.mp hs row hrow type hsyncing)

/-- Of a running job whose first sync is over without a write to the connections. -/
theorem truthful_skip_iff {job : RunningJob} {instants : SyncInstants} (hs : Truthful s)
    {target : IntegrationProviderKind × UserId} {rest : List (IntegrationProviderKind × UserId)}
    (htodo : job.todo = target :: rest) (hjob : job ∈ s.work.running)
    (ht : t = { s with work := (s.work.dropRunning job).addRunning job.next }) :
    Truthful t ↔ Guard settings s (.skip job instants) := by
  subst ht
  refine truthful_iff_noneStranded_of_rows hs rfl fun row _ type hrel hpending => ?_
  refine pending_replace hjob hpending (covers_next htodo fun hother => hrel ?_)
  rw [htodo]
  exact ⟨hother.1, congrArg some hother.2.symm⟩

theorem truthful_pushFails_iff {jobs : List Job} (hs : Truthful s) (hjobs : jobs ∈ s.work.requests)
    (ht : t = { s with work := s.work.dropRequest jobs }) :
    Truthful t ↔ Guard settings s (.pushFails jobs) := by
  subst ht
  refine truthful_iff_noneStranded_of_rows hs rfl fun row _ type hrel hpending => ?_
  rw [pending_dropRequest hjobs, Bool.or_eq_true, List.any_eq_true] at hpending
  exact hpending.resolve_left hrel

/-- The connection a sync is of, and no other, is the one its outcome is recorded on. -/
theorem selects_iff {request : SyncRequest} {row : IntegrationConnectionRow} :
    selectsConnection (some request.userId) (some request.kind) row = true ↔
      (row.providerKind, row.userId) = (request.kind, request.userId) := by
  simp only [selectsConnection, Option.all_some, Bool.and_eq_true, beq_iff_eq, Prod.mk.injEq]

theorem truthful_complete_iff {job : RunningJob} {instants : SyncInstants} (hs : Truthful s)
    (hpast : StampsPast s) {target : IntegrationProviderKind × UserId}
    {rest : List (IntegrationProviderKind × UserId)} (htodo : job.todo = target :: rest)
    (hjob : job ∈ s.work.running) (hclock : s.clock ≤ instants.endedAt)
    (ht : t =
      { connections := completeSyncStatus settings s.connections (job.request target) instants
        clock := instants.endedAt
        work := (s.work.dropRunning job).addRunning job.next }) :
    Truthful t ↔ Guard settings s (.complete job instants) := by
  subst ht
  have hother : ∀ (row : IntegrationConnectionRow) (type : IntegrationConnectionSyncType),
      type ≠ (job.request target).type →
      isSyncing (if selectsConnection (some (job.request target).userId)
          (some (job.request target).kind) row then
        setSyncStatus settings.syncFailureWindowInHours instants.startedAt instants.endedAt row
          (.completed (job.request target).type) else row) type = isSyncing row type := by
    intro row type hne
    split
    · exact isSyncing_completed_of_ne hne
    · rfl
  have hanswered : ∀ row ∈ s.connections.table.rows,
      selectsConnection (some (job.request target).userId) (some (job.request target).kind) row =
        true →
      isSyncing (setSyncStatus settings.syncFailureWindowInHours instants.startedAt instants.endedAt
        row (.completed (job.request target).type)) (job.request target).type = false :=
    fun row hrow _ => isSyncing_completed fun scheduledAt hscheduled =>
      (hpast row hrow _ scheduledAt hscheduled).trans hclock
  refine truthful_iff_noneStranded hs (keepsKeys_setSyncStatus _ _ _ _).ite rfl ?_ ?_ ?_
  · intro row hrow type hsyncing
    by_cases htype : type = (job.request target).type
    · subst htype
      split at hsyncing
      · next hselected =>
        rw [hanswered row hrow hselected] at hsyncing
        cases hsyncing
      · exact hsyncing
    · rwa [hother row type htype] at hsyncing
  · rintro row hrow type ⟨rfl, hhead, hne⟩
    rw [htodo] at hhead
    cases hhead
    exact hother row _ hne.symm
  · intro row hrow type hrel hsyncing hpending
    refine pending_replace hjob hpending (covers_next htodo ?_)
    rintro ⟨htype, htarget⟩
    have hselected : selectsConnection (some (job.request target).userId)
        (some (job.request target).kind) row = true := selects_iff.mpr htarget
    rw [if_pos hselected] at hsyncing
    have hsame : (job.request target).type = type := by
      by_contra hne
      refine hrel ⟨htype, by rw [htodo]; exact congrArg some htarget.symm, ?_⟩
      rw [htarget, ← htype]
      exact hne
    rw [← hsame, hanswered row hrow hselected] at hsyncing
    cases hsyncing

theorem truthful_fail_iff {job : RunningJob} {instants : SyncInstants} (hs : Truthful s)
    {target : IntegrationProviderKind × UserId} {rest : List (IntegrationProviderKind × UserId)}
    (htodo : job.todo = target :: rest) (hjob : job ∈ s.work.running)
    (ht : t =
      { connections := errorSyncStatus settings s.connections (job.request target) instants
        clock := instants.endedAt
        work := (s.work.dropRunning job).addRunning (job.giveUp target) }) :
    Truthful t ↔ Guard settings s (.fail job instants) := by
  subst ht
  have hguard : Guard settings s (.fail job instants) ↔
      NoneStranded s
        (fun type row => type = job.type ∧
          (row.providerKind, row.userId) ∈ job.todo.takeWhile (sameUser target) ∧
          ¬ FailsConnection settings (job.request target) instants row)
        ((s.work.dropRunning job).addRunning (job.giveUp target)) := by
    simp only [Guard, htodo, List.head?_cons, Option.mem_def, Option.some.injEq, forall_eq']
  rw [hguard]
  have hfailed : ∀ (row : IntegrationConnectionRow) (type : IntegrationConnectionSyncType),
      isSyncing (if selectsConnection (some (job.request target).userId)
          (some (job.request target).kind) row then
        setSyncStatus settings.syncFailureWindowInHours instants.startedAt instants.endedAt row
          (.failed (job.request target).type (failureMessage (job.request target))) else row) type =
        true ↔
      ¬ FailsConnection settings (job.request target) instants row ∧ isSyncing row type = true := by
    intro row type
    by_cases hselected : selectsConnection (some (job.request target).userId)
        (some (job.request target).kind) row = true
    · rw [if_pos hselected, isSyncing_failed]
      simp [FailsConnection, hselected]
    · rw [if_neg hselected]
      simp [FailsConnection, hselected]
  refine truthful_iff_noneStranded hs (keepsKeys_setSyncStatus _ _ _ _).ite rfl ?_ ?_ ?_
  · intro row _ type hsyncing
    exact ((hfailed row type).mp hsyncing).2
  · rintro row _ type ⟨-, -, hkept⟩
    rw [Bool.eq_iff_iff]
    exact (hfailed row type).trans ⟨fun h => h.2, fun h => ⟨hkept, h⟩⟩
  · intro row _ type hrel hsyncing hpending
    refine pending_replace hjob hpending (covers_giveUp ?_)
    rintro ⟨htype, htake⟩
    exact hrel ⟨htype, htake, ((hfailed row type).mp hsyncing).1⟩

theorem truthful_push {job : Job} {rest : List Job} (hs : Truthful s)
    (hrequest : job :: rest ∈ s.work.requests)
    (ht : t =
      { s with work := ((s.work.dropRequest (job :: rest)).addRequest rest).addQueued job }) :
    Truthful t := by
  subst ht
  refine truthful_of_quiet hs KeepsKeys.refl (List.map_id' _).symm (fun _ _ => rfl)
    fun row _ type hpending => ?_
  rw [pending_dropRequest hrequest, List.any_cons, Bool.or_assoc] at hpending
  rwa [pending_addQueued, pending_addRequest]

theorem truthful_startJob {job : Job} {users : List UserId} (hs : Truthful s)
    (hjob : job ∈ s.work.queue) (husers : job.userId = none → FetchesUsers s.connections users)
    (ht : t = { s with work := (s.work.dropQueued job).addRunning (job.start users false) }) :
    Truthful t := by
  subst ht
  refine truthful_of_quiet hs KeepsKeys.refl (List.map_id' _).symm (fun _ _ => rfl)
    fun row hrow type hpending => ?_
  rw [pending_dropQueued hjob] at hpending
  rwa [pending_addRunning, covers_start fun hall => (husers hall).2 row hrow]

theorem truthful_syncNow {job : Job} {users : List UserId} {forceSync : Bool} (hs : Truthful s)
    (ht : t = { s with work := s.work.addRunning (job.start users forceSync) }) : Truthful t := by
  subst ht
  refine truthful_of_quiet hs KeepsKeys.refl (List.map_id' _).symm (fun _ _ => rfl)
    fun row hrow type hpending => ?_
  rw [pending_addRunning, hpending, Bool.or_true]

theorem truthful_configure {id : IntegrationConnectionId} {config : IntegrationConnectionConfig}
    (hs : Truthful s)
    (hrows : t.connections.table =
      (s.connections.update (·.id == id) ({ · with config }) (keepsKeys_config config)).table)
    (hwork : t.work = s.work) : Truthful t := by
  refine truthful_of_quiet hs (keepsKeys_config config).ite (congrArg Table.rows hrows)
    (fun row type => ?_) fun row _ type hpending => hwork ▸ hpending
  split
  · cases type <;> rfl
  · rfl

/-- The start of a sync is stamped on a column that `is_syncing` does not read. -/
theorem isSyncing_started {row : IntegrationConnectionRow} {now : DateTime}
    {type type' : IntegrationConnectionSyncType} :
    isSyncing (ClaimColumn.write row now (.startedAt type')) type = isSyncing row type := by
  refine isSyncing_congr IntegrationConnectionRow.setSync_status ?_ ?_
  · cases type <;> cases type' <;> rfl
  · cases type <;> cases type' <;> rfl

theorem truthful_claim {job : RunningJob} {instants : SyncInstants}
    {target : IntegrationProviderKind × UserId} (hs : Truthful s) (hjob : job ∈ s.work.running)
    (ht : t = { s with
      connections :=
        (claimSync settings s.connections (job.request target) job.forceSync instants).1
      work := (s.work.dropRunning job).addRunning { job with claimed := true } }) :
    Truthful t := by
  subst ht
  have hpending : ∀ row : IntegrationConnectionRow, ∀ type,
      s.work.pending type row.providerKind row.userId = true →
      ((s.work.dropRunning job).addRunning { job with claimed := true }).pending type
        row.providerKind row.userId = true := fun row type h => pending_replace hjob h fun hc => hc
  by_cases hdue : ∃ row ∈ s.connections.table.rows,
      dueRow settings s.connections (job.request target) job.forceSync instants row = true
  · obtain ⟨row, hrow, hdue⟩ := hdue
    refine truthful_of_quiet hs (keepsKeys_claim instants.claimedAt (job.request target).type).ite
      (congrArg (fun claim : Connections × Bool => claim.1.table.rows)
        (claimSync_of_due hrow hdue)) (fun row type => ?_) fun row _ type => hpending row type
    split
    · exact isSyncing_started
    · rfl
  · have hnone : claimSync settings s.connections (job.request target) job.forceSync instants =
        (s.connections, false) :=
      claimSync_of_not_due fun row hrow => by simpa using fun hd => hdue ⟨row, hrow, hd⟩
    refine truthful_of_quiet hs KeepsKeys.refl ?_ (fun _ _ => rfl) fun row _ type => hpending row type
    rw [hnone, List.map_id']

theorem isSyncing_scheduled_of_ne {row : IntegrationConnectionRow} {now : DateTime}
    {type type' : IntegrationConnectionSyncType} (hne : type ≠ type') :
    isSyncing (ClaimColumn.write row now (.scheduledAt type')) type = isSyncing row type := by
  refine isSyncing_congr IntegrationConnectionRow.setSync_status ?_ ?_
  · rw [ClaimColumn.write, IntegrationConnectionRow.sync_setSync_of_ne hne]
  · rw [ClaimColumn.write, IntegrationConnectionRow.sync_setSync_of_ne hne]

/-- The connections stamped as due are those there is a job for. -/
theorem claimDue_pending {connections : Connections} {type : IntegrationConnectionSyncType}
    {userId : UserId} {now : DateTime} {skipped : IntegrationConnectionId → Bool}
    (pending : IntegrationConnectionSyncType → IntegrationProviderKind → UserId → Prop)
    (hbefore : ∀ row ∈ connections.table.rows, ∀ type, isSyncing row type = true →
      pending type row.providerKind row.userId)
    (hjobs : ∀ job ∈ (claimDue settings connections type userId now skipped).2, ∀ type kind userId,
      job.covers type kind userId = true → pending type kind userId) :
    ∀ row ∈ (claimDue settings connections type userId now skipped).1.table.rows, ∀ type,
      isSyncing row type = true → pending type row.providerKind row.userId := by
  intro row' hrow' type' hsyncing
  have hkeys := keepsKeys_scheduled now type
  obtain ⟨row, hrow, rfl⟩ := (Table.mem_update (e := hkeys.id)).mp hrow'
  split at hsyncing
  · next hclaimed =>
    rw [if_pos hclaimed, hkeys.providerKind, hkeys.userId]
    by_cases htype : type' = type
    · subst htype
      refine hjobs _ (List.mem_map_of_mem (List.mem_filter.mpr ⟨hrow, hclaimed⟩)) _ _ _ ?_
      have huser : row.userId = userId := by
        simp only [dueClaims, Bool.and_eq_true, beq_iff_eq] at hclaimed
        exact hclaimed.1.1.1.1
      simp [Job.covers, Job.kinds, huser]
    · rw [isSyncing_scheduled_of_ne htype] at hsyncing
      exact hbefore row hrow type' hsyncing
  · next hclaimed =>
    rw [if_neg hclaimed]
    exact hbefore row hrow type' hsyncing

theorem truthful_scheduleDue {userId : UserId} {instant : DateTime}
    {skipped : IntegrationConnectionSyncType → IntegrationConnectionId → Bool} (hs : Truthful s)
    (ht : t =
      { connections := (scheduleDueSyncs settings s.connections userId instant skipped).1
        clock := instant
        work := s.work.addRequest
          (scheduleDueSyncs settings s.connections userId instant skipped).2 }) :
    Truthful t := by
  subst ht
  rw [truthful_iff]
  have hjobs : ∀ job ∈ (scheduleDueSyncs settings s.connections userId instant skipped).2,
      ∀ type kind userId', job.covers type kind userId' = true →
        (s.work.addRequest (scheduleDueSyncs settings s.connections userId instant skipped).2).pending
          type kind userId' = true := by
    intro job hjob type kind userId' hcovers
    rw [pending_addRequest, Bool.or_eq_true, List.any_eq_true]
    exact .inl ⟨job, hjob, hcovers⟩
  let pending : IntegrationConnectionSyncType → IntegrationProviderKind → UserId → Prop :=
    fun type kind userId' =>
      (s.work.addRequest (scheduleDueSyncs settings s.connections userId instant skipped).2).pending
        type kind userId' = true
  have hbefore : ∀ row ∈ s.connections.table.rows, ∀ type, isSyncing row type = true →
      pending type row.providerKind row.userId := by
    intro row hrow type hsyncing
    show (s.work.addRequest _).pending _ _ _ = true
    rw [pending_addRequest, truthful_iff.mp hs row hrow type hsyncing, Bool.or_true]
  have hnotifications := claimDue_pending pending hbefore
    fun job hjob => hjobs job (List.mem_append_left _ hjob)
  exact claimDue_pending pending hnotifications
    fun job hjob => hjobs job (List.mem_append_right _ hjob)

/-- An assignment that stamps schedules with the clock only. -/
theorem stampsPast_map (h : StampsPast s) (hclock : s.clock ≤ t.clock)
    (hrows : t.connections.table.rows = s.connections.table.rows.map g)
    (hg : ∀ row type, ∀ scheduledAt ∈ ((g row).sync type).scheduledAt,
      scheduledAt ∈ (row.sync type).scheduledAt ∨ scheduledAt = t.clock) : StampsPast t := by
  intro row' hrow' type scheduledAt hscheduled
  rw [hrows] at hrow'
  obtain ⟨row, hrow, rfl⟩ := List.mem_map.mp hrow'
  rcases hg row type scheduledAt hscheduled with hold | hnew
  · exact (h row hrow type scheduledAt hold).trans hclock
  · exact le_of_eq hnew

/-- An assignment that leaves the schedules. -/
theorem stampsPast_of_kept (h : StampsPast s) (hclock : s.clock ≤ t.clock)
    {p : IntegrationConnectionRow → Bool} {f : IntegrationConnectionRow → IntegrationConnectionRow}
    (hf : KeepsKeys f) (hrows : t.connections.table = (s.connections.update p f hf).table)
    (hkept : ∀ row type, ((f row).sync type).scheduledAt = (row.sync type).scheduledAt) :
    StampsPast t := by
  refine stampsPast_map h hclock (congrArg Table.rows hrows) fun row type scheduledAt hmem => .inl ?_
  split at hmem
  · rwa [hkept] at hmem
  · exact hmem

theorem stampsPast_of_rows (h : StampsPast s) (hclock : s.clock ≤ t.clock)
    (hrows : t.connections = s.connections) : StampsPast t :=
  stampsPast_map h hclock (by rw [hrows, List.map_id']) fun _ _ _ hmem => .inl hmem

theorem scheduledAt_completed {row : IntegrationConnectionRow} {windowInHours now utcNow : Int}
    {type type' : IntegrationConnectionSyncType} :
    ((setSyncStatus windowInHours now utcNow row (.completed type')).sync type).scheduledAt =
      (row.sync type).scheduledAt := by cases type <;> cases type' <;> rfl

theorem scheduledAt_failed {row : IntegrationConnectionRow} {windowInHours now utcNow : Int}
    {type type' : IntegrationConnectionSyncType} {message : String} :
    ((setSyncStatus windowInHours now utcNow row (.failed type' message)).sync type).scheduledAt =
      (row.sync type).scheduledAt := by cases type <;> cases type' <;> rfl

theorem scheduledAt_stamped {row : IntegrationConnectionRow} {now : DateTime}
    {type type' : IntegrationConnectionSyncType} {scheduledAt : DateTime}
    (h : scheduledAt ∈ ((ClaimColumn.write row now (.scheduledAt type')).sync type).scheduledAt) :
    scheduledAt ∈ (row.sync type).scheduledAt ∨ scheduledAt = now := by
  by_cases htype : type = type'
  · subst htype
    rw [ClaimColumn.write, IntegrationConnectionRow.sync_setSync_self] at h
    cases h
    exact .inr rfl
  · rw [ClaimColumn.write, IntegrationConnectionRow.sync_setSync_of_ne htype] at h
    exact .inl h

theorem stampsPast_create {row : IntegrationConnectionRow} (h : StampsPast s) (hnew : IsNew row)
    (hinsert : insert? s.connections row = some t.connections) (hclock : t.clock = s.clock) :
    StampsPast t := by
  intro row' hrow' type scheduledAt hscheduled
  rw [rows_insert hinsert] at hrow'
  rw [hclock]
  rcases List.mem_append.mp hrow' with hold | hlast
  · exact h row' hold type scheduledAt hscheduled
  · rw [List.mem_singleton.mp hlast] at hscheduled
    obtain ⟨-, hnotifications, htasks⟩ := hnew
    cases type with
    | notifications =>
      rw [IntegrationConnectionRow.sync, hnotifications] at hscheduled
      cases hscheduled
    | tasks =>
      rw [IntegrationConnectionRow.sync, htasks] at hscheduled
      cases hscheduled

theorem stampsPast_claim {request : SyncRequest} {forceSync : Bool} {instants : SyncInstants}
    (h : StampsPast s) (hclock : s.clock ≤ t.clock)
    (hclaim : t.connections = (claimSync settings s.connections request forceSync instants).1) :
    StampsPast t := by
  by_cases hdue : ∃ row ∈ s.connections.table.rows,
      dueRow settings s.connections request forceSync instants row = true
  · obtain ⟨row, hrow, hdue⟩ := hdue
    rw [claimSync_of_due hrow hdue] at hclaim
    refine stampsPast_of_kept h hclock (keepsKeys_claim _ _) (congrArg Connections.table hclaim)
      fun row type => ?_
    cases type <;> cases request.type <;> rfl
  · rw [claimSync_of_not_due fun row hrow => by simpa using fun hd => hdue ⟨row, hrow, hd⟩] at hclaim
    exact stampsPast_of_rows h hclock hclaim

theorem scheduledBy_claimDue {connections : Connections} {clock now : DateTime}
    {type : IntegrationConnectionSyncType} {userId : UserId}
    {skipped : IntegrationConnectionId → Bool} (h : ScheduledBy connections clock)
    (hclock : clock ≤ now) :
    ScheduledBy (claimDue settings connections type userId now skipped).1 now := by
  intro row' hrow' type' scheduledAt hscheduled
  obtain ⟨row, hrow, rfl⟩ := (Table.mem_update (e := (keepsKeys_scheduled now type).id)).mp hrow'
  have hold := fun hmem => (h row hrow type' scheduledAt hmem).trans hclock
  split at hscheduled
  · exact (scheduledAt_stamped hscheduled).elim hold le_of_eq
  · exact hold hscheduled

/-- What a step leaves of the stamps, and of the truth of `is_syncing`. -/
theorem step_spec {i : Input} (h : StampsPast s) (hstep : step settings s i = some t) :
    StampsPast t ∧ (Truthful s → (Truthful t ↔ Guard settings s i)) := by
  cases i with
  | create row =>
    simp only [step, Option.ite_none_right_eq_some, Option.map_eq_some_iff] at hstep
    obtain ⟨⟨hnew, hcreated⟩, connections, hinsert, rfl⟩ := hstep
    exact ⟨stampsPast_create h hnew hinsert rfl,
      fun hs => iff_of_true (truthful_create hs hcreated hinsert rfl) trivial⟩
  | setStatus id status =>
    cases hstep
    exact ⟨stampsPast_of_kept h le_rfl (keepsKeys_status status) rfl
        fun row type => by cases type <;> rfl,
      fun hs => truthful_setStatus_iff hs rfl⟩
  | configure id config syncTasksEnabled =>
    cases hstep
    exact ⟨stampsPast_of_kept h le_rfl (keepsKeys_config config) rfl
        fun row type => by cases type <;> rfl,
      fun hs => iff_of_true (truthful_configure hs rfl rfl) trivial⟩
  | schedule job instant =>
    simp only [step, Option.ite_none_right_eq_some, Option.some.injEq] at hstep
    obtain ⟨⟨-, hclock⟩, rfl⟩ := hstep
    refine ⟨stampsPast_map h hclock rfl fun row type scheduledAt hmem => ?_,
      fun hs => truthful_schedule_iff hs rfl⟩
    split at hmem
    · exact scheduledAt_stamped hmem
    · exact .inl hmem
  | scheduleDue userId instant skipped =>
    simp only [step, Option.ite_none_right_eq_some, Option.some.injEq] at hstep
    obtain ⟨hclock, rfl⟩ := hstep
    exact ⟨scheduledBy_claimDue (scheduledBy_claimDue h hclock) le_rfl,
      fun hs => iff_of_true (truthful_scheduleDue hs rfl) trivial⟩
  | push job rest =>
    simp only [step, Option.ite_none_right_eq_some, Option.some.injEq] at hstep
    obtain ⟨hrequest, rfl⟩ := hstep
    exact ⟨stampsPast_of_rows h le_rfl rfl,
      fun hs => iff_of_true (truthful_push hs hrequest rfl) trivial⟩
  | pushFails jobs =>
    simp only [step, Option.ite_none_right_eq_some, Option.some.injEq] at hstep
    obtain ⟨hjobs, rfl⟩ := hstep
    exact ⟨stampsPast_of_rows h le_rfl rfl, fun hs => truthful_pushFails_iff hs hjobs rfl⟩
  | startJob job users =>
    simp only [step, Option.ite_none_right_eq_some, Option.some.injEq] at hstep
    obtain ⟨⟨hjob, husers⟩, rfl⟩ := hstep
    exact ⟨stampsPast_of_rows h le_rfl rfl,
      fun hs => iff_of_true (truthful_startJob hs hjob husers rfl) trivial⟩
  | syncNow job users forceSync =>
    simp only [step, Option.ite_none_right_eq_some, Option.some.injEq] at hstep
    obtain ⟨-, rfl⟩ := hstep
    exact ⟨stampsPast_of_rows h le_rfl rfl,
      fun hs => iff_of_true (truthful_syncNow hs rfl) trivial⟩
  | skip job instants =>
    simp only [step] at hstep
    split at hstep
    · cases hstep
    · next target rest htodo =>
      simp only [Option.ite_none_right_eq_some, Option.some.injEq] at hstep
      obtain ⟨⟨hjob, -, -⟩, rfl⟩ := hstep
      exact ⟨stampsPast_of_rows h le_rfl rfl, fun hs => truthful_skip_iff hs htodo hjob rfl⟩
  | claim job instants =>
    simp only [step] at hstep
    split at hstep
    · cases hstep
    · next target rest htodo =>
      simp only [Option.ite_none_right_eq_some, Option.some.injEq] at hstep
      obtain ⟨⟨hjob, -, -⟩, rfl⟩ := hstep
      exact ⟨stampsPast_claim h le_rfl rfl,
        fun hs => iff_of_true (truthful_claim hs hjob rfl) trivial⟩
  | complete job instants =>
    simp only [step] at hstep
    split at hstep
    · cases hstep
    · next target rest htodo =>
      simp only [Option.ite_none_right_eq_some, Option.some.injEq] at hstep
      obtain ⟨⟨hjob, -, hclock⟩, rfl⟩ := hstep
      exact ⟨stampsPast_of_kept h hclock (keepsKeys_setSyncStatus _ _ _ _) rfl
          fun _ _ => scheduledAt_completed,
        fun hs => truthful_complete_iff hs h htodo hjob hclock rfl⟩
  | fail job instants =>
    simp only [step] at hstep
    split at hstep
    · cases hstep
    · next target rest htodo =>
      simp only [Option.ite_none_right_eq_some, Option.some.injEq] at hstep
      obtain ⟨⟨hjob, -, hclock⟩, rfl⟩ := hstep
      exact ⟨stampsPast_of_kept h hclock (keepsKeys_setSyncStatus _ _ _ _) rfl
          fun _ _ => scheduledAt_failed,
        fun hs => truthful_fail_iff hs htodo hjob rfl⟩

end Steps

/-- `is_syncing` stays truthful along a run just in case each of its steps meets the guard. -/
theorem truthful_iff_guard (settings : SyncSettings) (clock : DateTime) (inputs : List Input) :
    Along (step settings) (fun _ _ t => Truthful t) (initial clock) inputs ↔
      Along (step settings) (fun s i _ => Guard settings s i) (initial clock) inputs :=
  along_good_iff (J := StampsPast) (G := Truthful) (fun _ _ _ h hstep => (step_spec h hstep).1)
    (fun _ _ _ h hs hstep => (step_spec h hstep).2 hs)
    (fun _ hrow => (List.not_mem_nil hrow).elim) fun _ hrow => (List.not_mem_nil hrow).elim

def exampleJob (kind : IntegrationProviderKind) : Job := ⟨.notifications, some kind, some ⟨1⟩⟩

def exampleRunning (kind : IntegrationProviderKind) (claimed : Bool) : RunningJob :=
  ⟨.notifications, false, [(kind, ⟨1⟩)], claimed⟩

/-- The notifications of a connection are synced, by a job that is given the outcome. -/
def syncedOnce (config : IntegrationConnectionConfig)
    (outcome : RunningJob → SyncInstants → Input) : List Input :=
  let instants : SyncInstants := ⟨2, 2, 2, 2, 3, 3, le_refl _⟩
  [.create { githubConnection with providerKind := config.kind, config }, .configure ⟨1⟩ config true,
    .setStatus ⟨1⟩ .validated, .schedule (exampleJob config.kind) 1, .push (exampleJob config.kind) [],
    .startJob (exampleJob config.kind) [], .claim (exampleRunning config.kind false) instants,
    outcome (exampleRunning config.kind true) instants]

/-- GitHub stays syncing after a sync that fails, and Todoist after one that succeeds. -/
theorem syncedOnce_stays_syncing :
    (Possible (step defaultSettings) (initial 0) (syncedOnce (.github true) .fail) ∧
      ¬ Along (step defaultSettings) (fun _ _ t => Truthful t) (initial 0)
        (syncedOnce (.github true) .fail)) ∧
    (Possible (step defaultSettings) (initial 0) (syncedOnce .todoist .complete) ∧
      ¬ Along (step defaultSettings) (fun _ _ t => Truthful t) (initial 0)
        (syncedOnce .todoist .complete)) := by
  decide

example : Along (step defaultSettings) (fun _ _ t => Truthful t) (initial 0)
    (syncedOnce (.github true) .complete) := by decide

end UniversalInbox.SyncingStatus
