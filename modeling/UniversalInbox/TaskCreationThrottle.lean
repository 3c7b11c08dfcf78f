import UniversalInbox.InboxNotifications
import UniversalInbox.SyncBackoff
import UniversalInbox.UpstreamTaskCreation

/-! A user creates a task from a notification. The connection to the task manager is looked up the
way the syncs do it, so that the failures of the syncs of tasks decide whether there is one. -/
namespace UniversalInbox.TaskCreationThrottle
open InboxNotifications (TaskCreationResult)
open Results (bind_eq_error mapError_eq_ok)
open SyncBackoff
open SyncServices (Connections SyncRequest SyncSettings displayProviderKind selectsToSync)
open ThirdPartyItemUpsert (createOrUpdateThirdPartyItem createOrUpdateThirdPartyItem_upserted)
open TodoistSync (Account Stamp wholeSeconds)
open UpstreamTaskCreation (TaskCreation)

/-- `get_integration_provider_kind` of an item. -/
def getIntegrationProviderKind : ThirdPartyItemKind → IntegrationProviderKind
  | .todoistItem => .todoist
  | .tickTickItem => .tickTick
  | .slackReaction | .slackThread => .slack
  | .linearIssue | .linearNotification => .linear
  | .githubNotification => .github
  | .googleMailThread => .googleMail
  | .googleCalendarEvent => .googleCalendar
  | .googleDriveComment => .googleDrive
  | .webPage => .api

/-- The service of a task manager, with the tasks it has as `α`. -/
structure ThirdPartyTaskService (kind : IntegrationProviderKind) (α : Type) where
  createTask : TaskCreation → UserId → Except UniversalInboxError α
  intoThirdPartyItem : α → UserId → IntegrationConnectionId → ThirdPartyItem
  provider : ∀ task userId id,
    getIntegrationProviderKind (intoThirdPartyItem task userId id).data.kind = kind

section Services
variable (stamp : Stamp)

def todoistService (createTask : TaskCreation → UserId → Except UniversalInboxError TodoistItem) :
    ThirdPartyTaskService .todoist TodoistItem where
  createTask := createTask
  intoThirdPartyItem task userId integrationConnectionId :=
    TodoistSync.intoThirdPartyItem ⟨userId, integrationConnectionId⟩ stamp task
  provider _ _ _ := rfl

/-- A task of TickTick, which is stored as its serialized text. -/
structure TickTickTask where
  id : String
  content : String
deriving DecidableEq, Repr

def TickTickTask.intoThirdPartyItem (account : Account) (task : TickTickTask) : ThirdPartyItem :=
  { id := stamp.id
    sourceId := task.id
    data := .tickTickItem task.content
    createdAt := wholeSeconds stamp.createdAt
    updatedAt := wholeSeconds stamp.updatedAt
    userId := account.userId
    integrationConnectionId := account.integrationConnectionId
    sourceItem := none }

def tickTickService
    (createTask : TaskCreation → UserId → Except UniversalInboxError TickTickTask) :
    ThirdPartyTaskService .tickTick TickTickTask where
  createTask := createTask
  intoThirdPartyItem task userId integrationConnectionId :=
    task.intoThirdPartyItem stamp ⟨userId, integrationConnectionId⟩
  provider _ _ _ := rfl

end Services

/-- The errors of a creation, by where they are raised; `called` are those of the calls it makes. -/
inductive TaskCreationError where
  | unsupportedAction (kind : IntegrationProviderKind)
  | noValidatedIntegration (kind : IntegrationProviderKind) (userId : UserId) (id : NotificationId)
  | noValidatedIntegrationOfItem (kind : IntegrationProviderKind) (userId : UserId)
  | noTask (kind : IntegrationProviderKind) (sourceId : String)
  | called (error : UniversalInboxError)
deriving DecidableEq, Repr

def TaskCreationError.toError : TaskCreationError → UniversalInboxError
  | .unsupportedAction kind => .unsupportedAction
      s!"Task creation from notification is not supported for {displayProviderKind kind}"
  | .noValidatedIntegration kind userId id => .unexpected
      s!"No validated {displayProviderKind kind} integration found for user {userId.uuid}, cannot create a task from the notification {id.uuid}"
  | .noValidatedIntegrationOfItem kind userId => .unexpected
      s!"No validated {displayProviderKind kind} integration found for user {userId.uuid}, cannot create third party item"
  | .noTask kind sourceId => .unexpected
      s!"A task should have been created from the {displayProviderKind kind} task {sourceId}"
  | .called error => error

/-- No validated integration is found. -/
def TaskCreationError.isNoValidatedIntegration : TaskCreationError → Bool
  | .noValidatedIntegration _ _ _ | .noValidatedIntegrationOfItem _ _ => true
  | _ => false

/-- A validated connection, whatever its syncs: without an interval the type does not matter. -/
def getValidatedIntegrationConnectionPerKind (connections : Connections)
    (kind : IntegrationProviderKind) (userId : UserId) : Option IntegrationConnectionRow :=
  connections.table.rows.find? (selectsToSync ⟨.tasks, kind, userId⟩ none)

/-- What a creation finds. `syncAsTask` is what becomes of the item once its connection is known. -/
structure Environment where
  settings : SyncSettings
  connections : Connections
  db : Database
  dueAt : DateTime
  backoffAt : DateTime
  htmlUrl : Notification → String
  syncAsTask : Database → ThirdPartyItem → IntegrationConnectionRow → UserId →
    Except UniversalInboxError (Option TaskCreationResult)

section Creation
variable (env : Environment)

def createTaskFromThirdPartyItem (db : Database) (thirdPartyItem : ThirdPartyItem)
    (userId : UserId) : Except TaskCreationError (Option TaskCreationResult) :=
  let kind := getIntegrationProviderKind thirdPartyItem.data.kind
  match getValidatedIntegrationConnectionPerKind env.connections kind userId with
  | none => .error (.noValidatedIntegrationOfItem kind userId)
  | some integrationConnection =>
    (env.syncAsTask db thirdPartyItem integrationConnection userId).mapError .called

/-- The steps once there is a connection. -/
def createTaskWithConnection {kind : IntegrationProviderKind} {α : Type}
    (service : ThirdPartyTaskService kind α) (taskCreation : TaskCreation)
    (notification : Notification) (integrationConnection : IntegrationConnectionRow) :
    Except TaskCreationError Task := do
  let body := s!"- [{notification.title}]({env.htmlUrl notification})"
  let thirdPartyTask ← (service.createTask { taskCreation with body := some body }
    notification.userId).mapError .called
  let thirdPartyItem :=
    service.intoThirdPartyItem thirdPartyTask notification.userId integrationConnection.id
  let (db, upsertItem) ← (createOrUpdateThirdPartyItem env.db thirdPartyItem).mapError .called
  match ← createTaskFromThirdPartyItem env db upsertItem.value notification.userId with
  | some result => return result.task
  | none => .error (.noTask kind upsertItem.value.sourceId)

/-- A panic is `none`. -/
def createTaskFromNotificationWithService {kind : IntegrationProviderKind} {α : Type}
    (service : ThirdPartyTaskService kind α) (taskCreation : TaskCreation)
    (notification : Notification) : Option (Except TaskCreationError Task) := do
  match ← getIntegrationConnectionToSync env.settings env.connections
      ⟨.tasks, kind, notification.userId⟩ 0 env.dueAt env.backoffAt with
  | none => return .error (.noValidatedIntegration kind notification.userId notification.id)
  | some integrationConnection =>
    return createTaskWithConnection env service taskCreation notification integrationConnection

variable {α β : Type} (todoistService : ThirdPartyTaskService .todoist α)
  (tickTickService : ThirdPartyTaskService .tickTick β)

def createTaskFromNotification (taskCreation : TaskCreation) (notification : Notification)
    (taskProviderKind : IntegrationProviderKind) : Option (Except TaskCreationError Task) :=
  match taskProviderKind with
  | .todoist =>
    createTaskFromNotificationWithService env todoistService taskCreation notification
  | .tickTick =>
    createTaskFromNotificationWithService env tickTickService taskCreation notification
  | kind => some (.error (.unsupportedAction kind))

end Creation

/-- The refusal is that of the calls whose connection is an answer. -/
theorem createTaskWithService_refuses {ε σ : Type} {call : UpstreamTaskCreation.Call ε}
    {task : TaskCreation} {notification : Notification} {kind : IntegrationProviderKind}
    {createTask : TaskCreation → σ → σ × Except UniversalInboxError ThirdPartyItemData} {s : σ}
    (h : call.connectionToSync kind = .ok false) :
    UpstreamTaskCreation.createTaskWithService call task notification kind createTask s =
      (s, .error (TaskCreationError.noValidatedIntegration kind notification.userId
        notification.id).toError) := by
  unfold UpstreamTaskCreation.createTaskWithService
  rw [h]
  rfl

/-- The user has a validated connection to the provider. -/
structure Validated (connections : Connections) (kind : IntegrationProviderKind) (userId : UserId)
    (row : IntegrationConnectionRow) : Prop where
  mem : row ∈ connections.table.rows
  userId : row.userId = userId
  providerKind : row.providerKind = kind
  status : row.status = .validated

/-- The call does not fail for want of a validated integration. -/
def NotThrottled (result : Option (Except TaskCreationError Task)) : Prop :=
  ∀ error, result = some (.error error) → error.isNoValidatedIntegration = false

section Validated
variable {env : Environment} {kind : IntegrationProviderKind} {α : Type}
  {service : ThirdPartyTaskService kind α} {taskCreation : TaskCreation}
  {notification : Notification} {row : IntegrationConnectionRow} {userId : UserId}

theorem find?_of_validated (h : Validated env.connections kind userId row) :
    env.connections.table.rows.find? (selectsToSync ⟨.tasks, kind, userId⟩ none) = some row := by
  refine SyncServices.find?_selectsToSync h.mem ?_
  unfold selectsToSync
  rw [h.userId, h.providerKind, h.status]
  simp only [beq_self_eq_true, Option.all_none, Bool.and_self]

/-- Without an interval, the backoff alone decides what is found. -/
theorem getIntegrationConnectionToSync_of_validated
    (h : Validated env.connections kind userId row) :
    getIntegrationConnectionToSync env.settings env.connections ⟨.tasks, kind, userId⟩ 0 env.dueAt
        env.backoffAt =
      (inBackoff env.settings row .tasks env.backoffAt).map fun inBackoff =>
        if inBackoff then none else some row := by
  unfold getIntegrationConnectionToSync
  dsimp only
  rw [SyncClaims.startSyncedBefore, if_neg (by decide), find?_of_validated h]
  dsimp only
  cases inBackoff env.settings row .tasks env.backoffAt <;> rfl

/-- The other lookup finds the connection, in backoff or not. -/
theorem createTaskFromThirdPartyItem_of_validated {db : Database} {item : ThirdPartyItem}
    {error : TaskCreationError} (h : Validated env.connections kind userId row)
    (hkind : getIntegrationProviderKind item.data.kind = kind)
    (herror : createTaskFromThirdPartyItem env db item userId = .error error) :
    error.isNoValidatedIntegration = false := by
  unfold createTaskFromThirdPartyItem getValidatedIntegrationConnectionPerKind at herror
  dsimp only at herror
  rw [hkind, find?_of_validated h] at herror
  dsimp only at herror
  cases hsync : env.syncAsTask db item row userId with
  | error error' =>
    rw [hsync] at herror
    cases herror
    rfl
  | ok result =>
    rw [hsync] at herror
    cases herror

theorem isNoValidatedIntegration_called {τ : Type} {x : Except UniversalInboxError τ}
    {error : TaskCreationError} (h : x.mapError .called = .error error) :
    error.isNoValidatedIntegration = false := by
  cases x with
  | error e => cases h; rfl
  | ok a => cases h

theorem createTaskWithConnection_of_validated {error : TaskCreationError}
    (h : Validated env.connections kind notification.userId row)
    (herror : createTaskWithConnection env service taskCreation notification row = .error error) :
    error.isNoValidatedIntegration = false := by
  unfold createTaskWithConnection at herror
  rcases bind_eq_error.mp herror with hcreate | ⟨thirdPartyTask, -, hrest⟩
  · exact isNoValidatedIntegration_called hcreate
  · rcases bind_eq_error.mp hrest with hstore | ⟨⟨db, upsertItem⟩, hstore, hthen⟩
    · exact isNoValidatedIntegration_called hstore
    · have hdata := (createOrUpdateThirdPartyItem_upserted (mapError_eq_ok.mp hstore)).data
      rcases bind_eq_error.mp hthen with htask | ⟨result, -, hreturn⟩
      · refine createTaskFromThirdPartyItem_of_validated h ?_ htask
        rw [hdata]
        exact service.provider _ _ _
      · cases result with
        | none => cases hreturn; rfl
        | some result => cases hreturn

theorem withService_iff (h : Validated env.connections kind notification.userId row) :
    NotThrottled (createTaskFromNotificationWithService env service taskCreation notification) ↔
      inBackoff env.settings row .tasks env.backoffAt ≠ some true := by
  unfold createTaskFromNotificationWithService
  rw [getIntegrationConnectionToSync_of_validated h]
  cases inBackoff env.settings row .tasks env.backoffAt with
  | none => exact ⟨fun _ => nofun, fun _ _ => nofun⟩
  | some backsOff =>
    cases backsOff with
    | true =>
      exact ⟨fun hnever => absurd (hnever _ rfl) Bool.noConfusion,
        fun hnot => absurd rfl hnot⟩
    | false =>
      refine ⟨fun _ => nofun, fun _ error herror => ?_⟩
      exact createTaskWithConnection_of_validated h (Option.some.inj herror)

end Validated

/-- With a validated connection to a task manager, a task is created from a notification, or fails
to be for another reason, just in case the syncs of tasks are not in backoff. -/
theorem notThrottled_iff (env : Environment) {α β : Type}
    (todoistService : ThirdPartyTaskService .todoist α)
    (tickTickService : ThirdPartyTaskService .tickTick β) (taskCreation : TaskCreation)
    (notification : Notification) (taskProviderKind : IntegrationProviderKind)
    (row : IntegrationConnectionRow)
    (hprovider : taskProviderKind = .todoist ∨ taskProviderKind = .tickTick)
    (hvalidated : Validated env.connections taskProviderKind notification.userId row) :
    NotThrottled (createTaskFromNotification env todoistService tickTickService taskCreation
        notification taskProviderKind) ↔
      inBackoff env.settings row .tasks env.backoffAt ≠ some true := by
  rcases hprovider with rfl | rfl
  · exact withService_iff hvalidated
  · exact withService_iff hvalidated

section Failure

/-- A TickTick connection that is validated, whose last sync of tasks failed if any did. -/
def tickTickConnection (failures : Nat) (failedAt : Option DateTime) : IntegrationConnectionRow :=
  { id := ⟨1⟩, userId := ⟨1⟩, providerKind := .tickTick, providerUserId := none,
    status := .validated, failureMessage := none,
    notificationsSync := ⟨none, none, none, none, none, 0, none⟩
    tasksSync := ⟨none, none, none, failedAt, none, failures, failedAt⟩
    config := .tickTick, registeredOauthScopes := [] }

def tickTickEnvironment (failures : Nat) (failedAt : Option DateTime) : Environment :=
  { settings := SyncServices.defaultSettings
    connections := ⟨⟨[tickTickConnection failures failedAt], List.nodup_singleton _⟩,
      List.nodup_singleton _, fun _ => true⟩
    db := Database.empty
    dueAt := 0
    backoffAt := 0
    htmlUrl := fun _ => ""
    syncAsTask := fun _ _ _ _ => .ok none }

def sampleStamp : Stamp := ⟨⟨2⟩, 0, 0⟩

/-- Todoist is out of reach, and TickTick creates a task. -/
def outOfReach : ThirdPartyTaskService .todoist TodoistItem :=
  todoistService sampleStamp fun _ _ => .error (.unexpected "Failed to create Todoist task")

def withinReach : ThirdPartyTaskService .tickTick TickTickTask :=
  tickTickService sampleStamp fun creation _ => .ok ⟨"42", creation.title⟩

theorem validated_tickTickConnection (failures : Nat) (failedAt : Option DateTime) :
    Validated (tickTickEnvironment failures failedAt).connections .tickTick ⟨1⟩
      (tickTickConnection failures failedAt) :=
  ⟨List.mem_singleton_self _, rfl, rfl, rfl⟩

def reviewCreation : TaskCreation := ⟨"Review", none, none, none, .p4, some .tickTick, none⟩

/-- No sync has failed yet. -/
theorem connectionWithoutFailures_notThrottled :
    NotThrottled (createTaskFromNotification (tickTickEnvironment 0 none) outOfReach withinReach
      reviewCreation UpstreamTaskCreation.reviewNotification .tickTick) :=
  (notThrottled_iff (tickTickEnvironment 0 none) outOfReach withinReach reviewCreation
    UpstreamTaskCreation.reviewNotification .tickTick (tickTickConnection 0 none)
    (.inr rfl) (validated_tickTickConnection 0 none)).mpr (by decide +kernel)

/-- A sync has just failed, and the user is told that there is no validated integration. -/
theorem connectionAfterFailure_throttled :
    Validated (tickTickEnvironment 1 (some 0)).connections .tickTick ⟨1⟩
        (tickTickConnection 1 (some 0)) ∧
      ¬ NotThrottled (createTaskFromNotification (tickTickEnvironment 1 (some 0))
        outOfReach withinReach reviewCreation UpstreamTaskCreation.reviewNotification .tickTick) := by
  refine ⟨validated_tickTickConnection 1 (some 0), fun hnever => ?_⟩
  have hbackoff : inBackoff SyncServices.defaultSettings (tickTickConnection 1 (some 0)) .tasks 0 =
      some true := by decide +kernel
  exact (withService_iff (validated_tickTickConnection 1 (some 0))).mp hnever hbackoff

end Failure

end UniversalInbox.TaskCreationThrottle
