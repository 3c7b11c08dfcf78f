import UniversalInbox.Library.FailFast
import UniversalInbox.SyncServices

/-! The syncs of all the sources of a user, and of all the users. The sources of a user are synced
one after the other up to the first error; the users one after the other whatever comes of each. -/
namespace UniversalInbox.SourceIsolation
open SyncServices

inductive TaskSyncSourceKind where
  | todoist
  | tickTick
  | linear
deriving DecidableEq, Repr

inductive NotificationSyncSourceKind where
  | github
  | linear
  | googleMail
  | googleDrive
  | slack
  | todoist
  | tickTick
deriving DecidableEq, Repr

def TaskSyncSourceKind.providerKind : TaskSyncSourceKind → IntegrationProviderKind
  | .todoist => .todoist
  | .tickTick => .tickTick
  | .linear => .linear

/-- The error a failed sync answers with, once its status is recorded. -/
inductive SyncError where
  | recoverable (source : UniversalInboxError)
deriving DecidableEq, Repr

/-- One sync as its clock and its provider have it: `fetched` is what fetching and saving the items
comes to, if it comes to that. -/
structure SourceRun (α : Type) where
  instants : SyncInstants
  fetched : Except UniversalInboxError (List α)

/-- The syncs of the sources of a user, in notifications `ν` and tasks `τ`. -/
structure SourceRuns (ν τ : Type) where
  notifications : IntegrationProviderKind → SourceRun ν
  tasks : IntegrationProviderKind → SourceRun τ

structure SyncState where
  connections : Connections
  /-- The syncs that have reached their provider, the latest last: only the statements read it. -/
  attempts : List SyncRequest

abbrev SyncM := ExceptT SyncError (StateM SyncState)

/-- Shared by `sync_third_party_notifications` and `sync_third_party_tasks`. -/
def syncThirdParty {α : Type} (settings : SyncSettings) (request : SyncRequest) (forceSync : Bool)
    (run : SourceRun α) : SyncM (List α) := fun s =>
  let claim := claimSync settings s.connections request forceSync run.instants
  if !claim.2 then (.ok [], { s with connections := claim.1 })
  else
    match run.fetched with
    | .error e =>
      (.error (.recoverable e),
        { connections := errorSyncStatus settings claim.1 request run.instants
          attempts := s.attempts ++ [request] })
    | .ok results =>
      (.ok results,
        { connections := completeSyncStatus settings claim.1 request run.instants
          attempts := s.attempts ++ [request] })

section Services
variable {ν τ : Type} (settings : SyncSettings) (userId : UserId) (forceSync : Bool)
  (runs : SourceRuns ν τ)

def syncTasksWithTransaction (source : TaskSyncSourceKind) : SyncM (List τ) :=
  syncThirdParty settings ⟨.tasks, source.providerKind, userId⟩ forceSync
    (runs.tasks source.providerKind)

def syncThirdPartyNotifications (kind : IntegrationProviderKind) : SyncM (List ν) :=
  syncThirdParty settings ⟨.notifications, kind, userId⟩ forceSync (runs.notifications kind)

/-- Todoist and TickTick notifications are left by the sync of their tasks, and not listed. -/
def syncNotificationsWithTransaction : NotificationSyncSourceKind → SyncM (List ν)
  | .github => syncThirdPartyNotifications settings userId forceSync runs .github
  | .linear => syncThirdPartyNotifications settings userId forceSync runs .linear
  | .googleDrive => syncThirdPartyNotifications settings userId forceSync runs .googleDrive
  | .googleMail => syncThirdPartyNotifications settings userId forceSync runs .googleMail
  | .slack => syncThirdPartyNotifications settings userId forceSync runs .slack
  | .todoist => do
    let _ ← syncTasksWithTransaction settings userId forceSync runs .todoist
    return []
  | .tickTick => do
    let _ ← syncTasksWithTransaction settings userId forceSync runs .tickTick
    return []

def syncAllNotifications : SyncM (List ν) := do
  let notificationsFromGithub ←
    syncNotificationsWithTransaction settings userId forceSync runs .github
  let notificationsFromLinear ←
    syncNotificationsWithTransaction settings userId forceSync runs .linear
  let notificationsFromGoogleDrive ←
    syncNotificationsWithTransaction settings userId forceSync runs .googleDrive
  let notificationsFromGoogleMail ←
    syncNotificationsWithTransaction settings userId forceSync runs .googleMail
  let notificationsFromSlack ←
    syncNotificationsWithTransaction settings userId forceSync runs .slack
  let notificationsFromTodoist ←
    syncNotificationsWithTransaction settings userId forceSync runs .todoist
  let notificationsFromTicktick ←
    syncNotificationsWithTransaction settings userId forceSync runs .tickTick
  return notificationsFromGithub ++ notificationsFromLinear ++ notificationsFromGoogleDrive ++
    notificationsFromGoogleMail ++ notificationsFromSlack ++ notificationsFromTodoist ++
    notificationsFromTicktick

/-- An error is logged, and the sync is over for this user. -/
def syncNotificationsForUser (source : Option NotificationSyncSourceKind) :
    StateM SyncState Unit := fun s =>
  let result := match source with
    | some source => syncNotificationsWithTransaction settings userId forceSync runs source
    | none => syncAllNotifications settings userId forceSync runs
  ((), (result.run.run s).2)

end Services

/-- `users` are the identifiers of the users, in the order of `fetch_all_users`. -/
def syncNotificationsForAllUsers {ν τ : Type} (settings : SyncSettings)
    (users : { ids : List UserId // ids.Nodup }) (source : Option NotificationSyncSourceKind)
    (forceSync : Bool) (runs : UserId → SourceRuns ν τ) : StateM SyncState Unit :=
  users.val.forM fun userId => syncNotificationsForUser settings userId forceSync (runs userId) source

namespace NotificationSyncSourceKind

/-- What a sync of the source is a sync of. -/
def request (userId : UserId) : NotificationSyncSourceKind → SyncRequest
  | .github => ⟨.notifications, .github, userId⟩
  | .linear => ⟨.notifications, .linear, userId⟩
  | .googleDrive => ⟨.notifications, .googleDrive, userId⟩
  | .googleMail => ⟨.notifications, .googleMail, userId⟩
  | .slack => ⟨.notifications, .slack, userId⟩
  | .todoist => ⟨.tasks, .todoist, userId⟩
  | .tickTick => ⟨.tasks, .tickTick, userId⟩

/-- In the order they are synced. -/
def all : List NotificationSyncSourceKind :=
  [.github, .linear, .googleDrive, .googleMail, .slack, .todoist, .tickTick]

theorem nodup_all : all.Nodup := by decide

theorem kind_injective {userId userId' : UserId} {source source' : NotificationSyncSourceKind}
    (h : (source.request userId).kind = (source'.request userId').kind) : source = source' := by
  cases source <;> cases source' <;> first | rfl | cases h

theorem request_userId (userId : UserId) (source : NotificationSyncSourceKind) :
    (source.request userId).userId = userId := by cases source <;> rfl

end NotificationSyncSourceKind

section Runs
variable {ν τ : Type} (runs : SourceRuns ν τ)

def SourceRuns.instants (request : SyncRequest) : SyncInstants :=
  match request.type with
  | .notifications => (runs.notifications request.kind).instants
  | .tasks => (runs.tasks request.kind).instants

/-- The provider fails, or saving what it returns. -/
def SourceRuns.fails (request : SyncRequest) : Bool :=
  match request.type with
  | .notifications => !(runs.notifications request.kind).fetched.isOk
  | .tasks => !(runs.tasks request.kind).fetched.isOk

/-- The source is connected and due. -/
def isDueSource (settings : SyncSettings) (userId : UserId) (forceSync : Bool)
    (connections : Connections) (source : NotificationSyncSourceKind) : Bool :=
  isDueSync settings connections (source.request userId) forceSync
    (runs.instants (source.request userId))

end Runs

section Isolation
variable {ν τ α : Type} {settings : SyncSettings} {userId : UserId} {forceSync : Bool}
  {runs : SourceRuns ν τ} {s : SyncState}

/-- What one sync leaves, read from whether it is due. -/
theorem run_syncThirdParty (request : SyncRequest) (run : SourceRun α) :
    let due := isDueSync settings s.connections request forceSync run.instants
    let result := (syncThirdParty settings request forceSync run).run.run s
    result.2.attempts = s.attempts ++ (if due then [request] else []) ∧
      ((∃ e, result.1 = .error e) ↔ due = true ∧ run.fetched.isOk = false) := by
  simp only [syncThirdParty, ExceptT.run, StateT.run, claimSync_snd]
  cases isDueSync settings s.connections request forceSync run.instants with
  | false => simp
  | true =>
    cases run.fetched with
    | error e => simp [Except.isOk, Except.toBool]
    | ok results => simp [Except.isOk, Except.toBool]

/-- A sync leaves the connections of other users, and those to other providers, as due as they
were. -/
theorem isDueSync_syncThirdParty {request request' : SyncRequest} {run : SourceRun α}
    {forceSync' : Bool} {instants' : SyncInstants}
    (h : ¬ (request'.userId = request.userId ∧ request'.kind = request.kind)) :
    isDueSync settings ((syncThirdParty settings request forceSync run).run.run s).2.connections
        request' forceSync' instants' =
      isDueSync settings s.connections request' forceSync' instants' := by
  have hclaim : isDueSync settings
      (claimSync settings s.connections request forceSync run.instants).1 request' forceSync'
        instants' = isDueSync settings s.connections request' forceSync' instants' :=
    isDueSync_claimSync h
  simp only [syncThirdParty, ExceptT.run, StateT.run]
  split
  · exact hclaim
  · split
    · exact (isDueSync_recordSyncStatus h).trans hclaim
    · exact (isDueSync_recordSyncStatus h).trans hclaim

/-- The syncs of Todoist and TickTick keep no result, and are what they delegate to. -/
theorem run_syncTasks_discarded (source : TaskSyncSourceKind) :
    let tasks := (syncTasksWithTransaction settings userId forceSync runs source).run.run s
    let result : Except SyncError (List ν) × SyncState :=
      (do
        let _ ← syncTasksWithTransaction settings userId forceSync runs source
        return ([] : List ν) : SyncM (List ν)).run.run s
    result.2 = tasks.2 ∧ ((∃ e, result.1 = .error e) ↔ ∃ e, tasks.1 = .error e) := by
  simp only [FailFast.run_bind]
  rcases (syncTasksWithTransaction settings userId forceSync runs source).run.run s with
    ⟨_ | _, _⟩
  · simp
  · refine ⟨rfl, ?_⟩
    simp

theorem run_syncNotifications (s : SyncState) (settings : SyncSettings) (userId : UserId)
    (forceSync : Bool) (runs : SourceRuns ν τ) (source : NotificationSyncSourceKind) :
    ∃ (α : Type) (run : SourceRun α),
      run.instants = runs.instants (source.request userId) ∧
      (!run.fetched.isOk) = runs.fails (source.request userId) ∧
      let result :=
        (syncNotificationsWithTransaction settings userId forceSync runs source).run.run s
      let sync := (syncThirdParty settings (source.request userId) forceSync run).run.run s
      result.2 = sync.2 ∧ ((∃ e, result.1 = .error e) ↔ ∃ e, sync.1 = .error e) := by
  cases source with
  | github => exact ⟨ν, runs.notifications .github, rfl, rfl, rfl, Iff.rfl⟩
  | linear => exact ⟨ν, runs.notifications .linear, rfl, rfl, rfl, Iff.rfl⟩
  | googleDrive => exact ⟨ν, runs.notifications .googleDrive, rfl, rfl, rfl, Iff.rfl⟩
  | googleMail => exact ⟨ν, runs.notifications .googleMail, rfl, rfl, rfl, Iff.rfl⟩
  | slack => exact ⟨ν, runs.notifications .slack, rfl, rfl, rfl, Iff.rfl⟩
  | todoist => exact ⟨τ, runs.tasks .todoist, rfl, rfl, run_syncTasks_discarded .todoist⟩
  | tickTick => exact ⟨τ, runs.tasks .tickTick, rfl, rfl, run_syncTasks_discarded .tickTick⟩

/-- The sources of one user are synced apart from one another. -/
theorem isolated_sources :
    FailFast.Isolated (syncNotificationsWithTransaction settings userId forceSync runs)
      SyncState.attempts (NotificationSyncSourceKind.request userId)
      (fun s => isDueSource runs settings userId forceSync s.connections)
      (fun source => runs.fails (source.request userId)) where
  log_call source s := by
    obtain ⟨α, run, hinstants, -, hstate, -⟩ := run_syncNotifications s settings userId
      forceSync runs source
    rw [hstate, (run_syncThirdParty _ run).1, hinstants]
    rfl
  error_call source s := by
    obtain ⟨α, run, hinstants, hfails, -, herror⟩ := run_syncNotifications s settings userId
      forceSync runs source
    rw [herror, (run_syncThirdParty _ run).2, hinstants, ← hfails, Bool.not_eq_true']
    rfl
  due_call source source' s hne := by
    obtain ⟨α, run, -, -, hstate, -⟩ := run_syncNotifications s settings userId
      forceSync runs source
    rw [hstate]
    exact isDueSync_syncThirdParty fun h => hne (NotificationSyncSourceKind.kind_injective h.2)

theorem syncAllNotifications_eq :
    syncAllNotifications settings userId forceSync runs =
      (do
        let notifications ← NotificationSyncSourceKind.all.mapM
          (syncNotificationsWithTransaction settings userId forceSync runs)
        return notifications.flatten) := by
  simp [syncAllNotifications, NotificationSyncSourceKind.all, List.append_assoc]

/-- A sync of all the sources ends in the state the chain of their syncs ends in. -/
theorem run_syncAllNotifications :
    ((syncAllNotifications settings userId forceSync runs).run.run s).2 =
      ((NotificationSyncSourceKind.all.mapM
        (syncNotificationsWithTransaction settings userId forceSync runs)).run.run s).2 := by
  rw [syncAllNotifications_eq, FailFast.run_bind]
  rcases (NotificationSyncSourceKind.all.mapM
    (syncNotificationsWithTransaction settings userId forceSync runs)).run.run s with ⟨_ | _, _⟩ <;>
    rfl

/-- The sources a sync is asked for. -/
def requestedSources (source : Option NotificationSyncSourceKind) : List NotificationSyncSourceKind :=
  source.elim NotificationSyncSourceKind.all fun source => [source]

theorem nodup_requestedSources (source : Option NotificationSyncSourceKind) :
    (requestedSources source).Nodup := by
  cases source with
  | none => exact NotificationSyncSourceKind.nodup_all
  | some source => exact List.nodup_singleton source

/-- Where one source is asked for, its sync is a chain of one. -/
theorem run_syncNotificationsForUser (source : Option NotificationSyncSourceKind) :
    ((syncNotificationsForUser settings userId forceSync runs source).run s).2 =
      (((requestedSources source).mapM
        (syncNotificationsWithTransaction settings userId forceSync runs)).run.run s).2 := by
  cases source with
  | none => exact run_syncAllNotifications
  | some source =>
    show ((syncNotificationsWithTransaction settings userId forceSync runs source).run.run s).2 = _
    simp only [requestedSources, Option.elim, List.mapM_cons, List.mapM_nil, FailFast.run_bind]
    rcases (syncNotificationsWithTransaction settings userId forceSync runs source).run.run s with
      ⟨_ | _, _⟩ <;> rfl

/-- The syncs that a chain of the requested sources of a user attempts. -/
def attemptedSyncs (settings : SyncSettings) (userId : UserId) (forceSync : Bool)
    (runs : SourceRuns ν τ) (source : Option NotificationSyncSourceKind) (connections : Connections) :
    List SyncRequest :=
  (FailFast.attempted (isDueSource runs settings userId forceSync connections)
    (fun source => runs.fails (source.request userId)) (requestedSources source)).map
      (NotificationSyncSourceKind.request userId)

theorem attempts_syncNotificationsForUser (source : Option NotificationSyncSourceKind) :
    ((syncNotificationsForUser settings userId forceSync runs source).run s).2.attempts =
      s.attempts ++ attemptedSyncs settings userId forceSync runs source s.connections := by
  rw [run_syncNotificationsForUser]
  exact isolated_sources.log_mapM (nodup_requestedSources source)

/-- The syncs of a user leave what is due of another user. -/
theorem attemptedSyncs_other {userId' : UserId} {runs' : SourceRuns ν τ}
    {source source' : Option NotificationSyncSourceKind} (hne : userId' ≠ userId) :
    attemptedSyncs settings userId' forceSync runs' source'
        ((syncNotificationsForUser settings userId forceSync runs source).run s).2.connections =
      attemptedSyncs settings userId' forceSync runs' source' s.connections := by
  unfold attemptedSyncs
  congr 1
  refine FailFast.attempted_congr fun wanted _ => ?_
  rw [run_syncNotificationsForUser]
  refine FailFast.keeps_mapM
    (fun s : SyncState => isDueSource runs' settings userId' forceSync s.connections wanted) ?_
  intro synced s
  obtain ⟨α, run, -, -, hstate, -⟩ :=
    run_syncNotifications s settings userId forceSync runs synced
  rw [hstate]
  refine isDueSync_syncThirdParty fun h => hne ?_
  rw [NotificationSyncSourceKind.request_userId, NotificationSyncSourceKind.request_userId] at h
  exact h.1

theorem attempts_syncNotificationsForAllUsers (users : { ids : List UserId // ids.Nodup })
    (source : Option NotificationSyncSourceKind) (runs : UserId → SourceRuns ν τ) :
    ((syncNotificationsForAllUsers settings users source forceSync runs).run s).2.attempts =
      s.attempts ++ users.val.flatMap fun userId =>
        attemptedSyncs settings userId forceSync (runs userId) source s.connections :=
  FailFast.log_forM
    (fun (s : SyncState) userId =>
      attemptedSyncs settings userId forceSync (runs userId) source s.connections)
    users.property (fun _ _ => attempts_syncNotificationsForUser source)
    fun _ _ _ hne => attemptedSyncs_other hne

/-- Every connected and due source among the requested ones is attempted. -/
def AttemptsDue (settings : SyncSettings) (userId : UserId) (forceSync : Bool)
    (runs : SourceRuns ν τ) (source : Option NotificationSyncSourceKind) (connections : Connections)
    (attempts : List SyncRequest) : Prop :=
  ∀ wanted ∈ requestedSources source,
    isDueSource runs settings userId forceSync connections wanted = true →
      wanted.request userId ∈ attempts

instance (settings : SyncSettings) (userId : UserId) (forceSync : Bool) (runs : SourceRuns ν τ)
    (source : Option NotificationSyncSourceKind) (connections : Connections)
    (attempts : List SyncRequest) :
    Decidable (AttemptsDue settings userId forceSync runs source connections attempts) :=
  inferInstanceAs (Decidable (∀ _ ∈ _, _))

/-- No connected and due source whose sync fails comes before another connected and due one. -/
def NoneAfterFailure (settings : SyncSettings) (userId : UserId) (forceSync : Bool)
    (runs : SourceRuns ν τ) (source : Option NotificationSyncSourceKind) (connections : Connections) :
    Prop :=
  (requestedSources source).Pairwise fun earlier later =>
    isDueSource runs settings userId forceSync connections earlier = true →
      runs.fails (earlier.request userId) = true →
        isDueSource runs settings userId forceSync connections later = false

theorem attemptsDue_attemptedSyncs (source : Option NotificationSyncSourceKind)
    (connections : Connections) :
    AttemptsDue settings userId forceSync runs source connections
        (attemptedSyncs settings userId forceSync runs source connections) ↔
      NoneAfterFailure settings userId forceSync runs source connections := by
  unfold NoneAfterFailure
  rw [← FailFast.attempted_all_iff (nodup_requestedSources source)]
  refine forall₂_congr fun wanted _ => imp_congr_right fun _ => ?_
  unfold attemptedSyncs
  rw [List.mem_map]
  constructor
  · rintro ⟨attempted, hmem, hrequest⟩
    rwa [← NotificationSyncSourceKind.kind_injective (congrArg SyncRequest.kind hrequest)]
  · intro hmem
    exact ⟨wanted, hmem, rfl⟩

/-- Among the attempts for all users, those for one user are its own. -/
theorem attemptsDue_flatMap {runs : UserId → SourceRuns ν τ} {users : List UserId}
    (source : Option NotificationSyncSourceKind) (connections : Connections) (hmem : userId ∈ users) :
    AttemptsDue settings userId forceSync (runs userId) source connections
        (users.flatMap fun userId =>
          attemptedSyncs settings userId forceSync (runs userId) source connections) ↔
      NoneAfterFailure settings userId forceSync (runs userId) source connections := by
  rw [← attemptsDue_attemptedSyncs]
  refine forall₂_congr fun wanted _ => imp_congr_right fun _ => ?_
  rw [List.mem_flatMap]
  constructor
  · rintro ⟨userId', -, hattempted⟩
    have hown : userId' = userId := by
      obtain ⟨_, -, hrequest⟩ := List.mem_map.mp hattempted
      have hsame := congrArg SyncRequest.userId hrequest
      rwa [NotificationSyncSourceKind.request_userId, NotificationSyncSourceKind.request_userId]
        at hsame
    rwa [hown] at hattempted
  · intro hattempted
    exact ⟨userId, hmem, hattempted⟩

end Isolation

/-- Whatever comes of each sync: all the connected and due sources of a user are attempted just in
case none of them comes after one that fails; and those of every user just in case this is so for
each user, whatever comes of the others. -/
theorem attempts_all_iff {ν τ : Type} (settings : SyncSettings) (forceSync : Bool)
    (connections : Connections) :
    (∀ (userId : UserId) (runs : SourceRuns ν τ),
      AttemptsDue settings userId forceSync runs none connections
          ((syncAllNotifications settings userId forceSync runs).run.run ⟨connections, []⟩).2.attempts ↔
        NoneAfterFailure settings userId forceSync runs none connections) ∧
    ∀ (users : { ids : List UserId // ids.Nodup }) (source : Option NotificationSyncSourceKind)
      (runs : UserId → SourceRuns ν τ),
      (∀ userId ∈ users.val,
        AttemptsDue settings userId forceSync (runs userId) source connections
          ((syncNotificationsForAllUsers settings users source forceSync runs).run
            ⟨connections, []⟩).2.attempts) ↔
        ∀ userId ∈ users.val,
          NoneAfterFailure settings userId forceSync (runs userId) source connections := by
  constructor
  · intro userId runs
    have hattempts : ((syncAllNotifications settings userId forceSync runs).run.run
        ⟨connections, []⟩).2.attempts =
          attemptedSyncs settings userId forceSync runs none connections :=
      attempts_syncNotificationsForUser none
    rw [hattempts]
    exact attemptsDue_attemptedSyncs none connections
  · intro users source runs
    rw [attempts_syncNotificationsForAllUsers]
    exact forall₂_congr fun userId hmem => attemptsDue_flatMap source connections hmem

def validatedConnection (id : Nat) (config : IntegrationConnectionConfig) : IntegrationConnectionRow :=
  { id := ⟨id⟩, userId := ⟨1⟩, providerKind := config.kind, providerUserId := none,
    status := .validated, failureMessage := none,
    notificationsSync := ⟨none, none, none, none, none, 0, none⟩,
    tasksSync := ⟨none, none, none, none, none, 0, none⟩, config, registeredOauthScopes := [] }

def githubAndSlack : Connections where
  table := ⟨[validatedConnection 1 (.github true), validatedConnection 2 (.slack true)], by decide⟩
  onePerProvider := by decide
  syncTasksEnabled _ := false

/-- GitHub does not answer, and the other providers have nothing new. -/
def githubDown : SourceRuns NotificationId TaskId where
  notifications
    | .github => ⟨⟨0, 0, 0, 0, 0, 1, le_refl _⟩, .error (.unexpected "Bad Gateway")⟩
    | _ => ⟨⟨1, 1, 1, 1, 1, 1, le_refl _⟩, .ok []⟩
  tasks _ := ⟨⟨1, 1, 1, 1, 1, 1, le_refl _⟩, .ok []⟩

/-- Slack is connected and due, and not synced. -/
theorem githubDown_leaves_slack :
    ¬ AttemptsDue defaultSettings ⟨1⟩ false githubDown none githubAndSlack
        ((syncAllNotifications defaultSettings ⟨1⟩ false githubDown).run.run
          ⟨githubAndSlack, []⟩).2.attempts ∧
      ¬ AttemptsDue defaultSettings ⟨1⟩ false githubDown none githubAndSlack
        ((syncNotificationsForAllUsers defaultSettings ⟨[⟨1⟩], by decide⟩ none false
          fun _ => githubDown).run ⟨githubAndSlack, []⟩).2.attempts := by decide

end UniversalInbox.SourceIsolation
