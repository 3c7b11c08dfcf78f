import UniversalInbox.FullTaskSync
import UniversalInbox.GoogleDrive
import UniversalInbox.Library.Resend
import UniversalInbox.SyncServices

/-! The task that a call to `create_task_from_notification` creates at its task manager. The request
is posted through a client that sends it again on transient failures; Todoist knows a command it has
executed by its identifier, TickTick is posted the task and nothing else. -/
namespace UniversalInbox.UpstreamTaskCreation
open FullTaskSync (TickTickItemPriority)
open GoogleDrive (textContains)
open PeerService (TodoistCommandStatus commandResult)
open Resend (Attempts AppliedOnce made)
open SyncServices (displayProviderKind)

inductive Retryable where
  | transient
  | fatal
deriving DecidableEq, Repr

/-- `body` is none when it cannot be read to its end. -/
structure Response where
  status : Nat
  contentType : Option String
  body : Option String
deriving DecidableEq, Repr

inductive ApiClientError where
  | networkError (status : Option Nat)
  | rateLimitError (message : String)
  | middlewareError
  | jsonParsingError (input : String)
  | nonJsonResponse (status : Nat) (contentType bodyPreview : String)
deriving DecidableEq, Repr

/-- What the retry library makes of an answer by default, `ε` being its errors. -/
structure RetryDefaults (ε : Type) where
  onRequestSuccess : Response → Option Retryable
  onRequestFailure : ε → Option Retryable

def isRateLimitResponse (response : Response) : Bool := response.status == 429

/-- `maxRetryDuration` is in seconds. -/
structure ApiClient (ε : Type) where
  defaults : RetryDefaults ε
  maxRetryDuration : Nat

section Client
variable {ε σ : Type} (client : ApiClient ε)

/-- `RateLimitRetryableStrategy`. -/
def handle : Except ε Response → Option Retryable
  | .ok success =>
    if isRateLimitResponse success then some .transient else client.defaults.onRequestSuccess success
  | .error error => client.defaults.onRequestFailure error

def isTransient (answer : Except ε Response) : Bool := handle client answer == some .transient

/-- The middleware is there when it may retry at all; what it may do is `attempts`. -/
def allowed (attempts : Attempts (Except ε Response)) : Attempts (Except ε Response) :=
  if client.maxRetryDuration > 0 then attempts else attempts.once

structure JsonBody where
  status : Nat
  contentType : Option String
  body : String

def handleResponse : Except ε Response → Except ApiClientError JsonBody
  | .error _ => .error .middlewareError
  | .ok response =>
    if isRateLimitResponse response then .error (.rateLimitError "Too many requests")
    else if 400 ≤ response.status ∧ response.status < 600 then
      .error (.networkError (some response.status))
    else
      match response.body with
      | none => .error (.networkError none)
      | some body => .ok ⟨response.status, response.contentType, body⟩

/-- Without a content type, the first character that is not blank tells. -/
def looksLikeJson (json : JsonBody) : Bool :=
  match json.contentType with
  | some contentType => textContains contentType "json"
  | none => (json.body.toList.dropWhile isWhitespace).head?.any fun c => c == '\x7b' || c == '['

def parseJson {α : Type} (decode : String → Option α) (json : JsonBody) : Except ApiClientError α :=
  if !looksLikeJson json then
    .error (.nonJsonResponse json.status (json.contentType.getD "<missing>")
      (String.ofList (json.body.toList.take 200)))
  else
    match decode json.body with
    | some a => .ok a
    | none => .error (.jsonParsingError json.body)

/-- `apply` is what the request does where it is applied. -/
def post {α : Type} (decode : String → Option α) (apply : σ → σ)
    (attempts : Attempts (Except ε Response)) (s : σ) : σ × Except ApiClientError α :=
  let (s', answer) := Resend.send (isTransient client) apply (allowed client attempts) s
  (s', (handleResponse answer).bind (parseJson decode))

end Client

structure TaskTimeConfig where
  time : Nat
  durationMinutes : Option Nat
  timezone : String
deriving DecidableEq, Repr

structure TaskCreation where
  title : String
  body : Option String
  projectName : Option String
  dueAt : Option DueDate
  priority : TaskPriority
  taskProviderKind : Option IntegrationProviderKind
  timeConfig : Option TaskTimeConfig
deriving DecidableEq, Repr

structure TodoistSyncCommandItemAddArgs where
  content : String
  description : Option String
  projectId : Option String
  due : Option TodoistItemDue
  priority : TodoistItemPriority
  durationMinutes : Option Nat
deriving DecidableEq, Repr

/-- The one command that creates a task. -/
structure ItemAdd where
  uuid : Nat
  tempId : Nat
  args : TodoistSyncCommandItemAddArgs
deriving DecidableEq, Repr

/-- The dates are kept, not their texts. -/
structure TickTickCreateTaskRequest where
  title : String
  content : Option String
  projectId : Option String
  startDate : Option DueDate
  dueDate : Option DueDate
  allDay : Option Bool
  timeZone : Option String
  priority : TickTickItemPriority
deriving DecidableEq, Repr

/-- The task managers, of which `σ` is the state. A command of Todoist is executed once, whatever it
is sent with; a task posted to TickTick is a new one. -/
structure TaskManagers (σ : Type) where
  tasks : σ → Nat
  itemAdd : ItemAdd → σ → σ
  createTask : TickTickCreateTaskRequest → σ → σ
  tasks_itemAdd : ∀ command s, tasks (itemAdd command s) ≤ tasks s + 1
  itemAdd_again : ∀ command command' s, command.uuid = command'.uuid →
    itemAdd command' (itemAdd command s) = itemAdd command s
  tasks_createTask : ∀ request s, tasks (createTask request s) = tasks s + 1

structure TodoistSyncStatusResponse where
  syncStatus : List TodoistCommandStatus
  tempIdMapping : List String

/-- How the payloads of the responses are read. -/
structure Codec where
  todoistSync : String → Option TodoistSyncStatusResponse
  tickTickItem : String → Option String

/-- What a creation at Todoist is answered besides the creation itself: the access token, the
project, and the task that is read back. -/
structure TodoistCalls (ε : Type) where
  accessToken : Bool
  getOrCreateProject : String → Except UniversalInboxError String
  uuid : Nat
  tempId : Nat
  attempts : Attempts (Except ε Response)
  fetchTask : String → Except UniversalInboxError (Option TodoistItem)

structure TickTickCalls (ε : Type) where
  accessToken : Bool
  getOrCreateProject : String → Except UniversalInboxError String
  attempts : Attempts (Except ε Response)

def todoistPriority : TaskPriority → TodoistItemPriority
  | .p1 => .p4
  | .p2 => .p3
  | .p3 => .p2
  | .p4 => .p1

def tickTickItemPriority : TaskPriority → TickTickItemPriority
  | .p1 => .high
  | .p2 => .medium
  | .p3 => .low
  | .p4 => .none

def todoistDue (task : TaskCreation) : Option TodoistItemDue :=
  task.dueAt.map fun dueAt =>
    { string := ""
      date := dueAt
      isRecurring := false
      timezone :=
        match dueAt, task.timeConfig with
        | .dateTimeWithTz _, some timeConfig => some timeConfig.timezone
        | _, _ => none
      lang := "en" }

def itemAddArgs (task : TaskCreation) (projectId : Option String) : TodoistSyncCommandItemAddArgs :=
  { content := task.title
    description := task.body
    projectId
    due := todoistDue task
    priority := todoistPriority task.priority
    durationMinutes := task.timeConfig.bind (·.durationMinutes) }

/-- A duration is a range of dates. -/
def tickTickDates (task : TaskCreation) : Option DueDate × Option DueDate :=
  match task.dueAt, task.timeConfig.bind (·.durationMinutes) with
  | some (.dateTimeWithTz datetime), some minutes =>
    (some (.dateTimeWithTz datetime), some (.dateTimeWithTz (datetime + minutes * 60000000000)))
  | dueAt, _ => (none, dueAt)

def tickTickCreateTaskRequest (task : TaskCreation) (projectId : Option String) :
    TickTickCreateTaskRequest :=
  { title := task.title
    content := task.body
    projectId
    startDate := (tickTickDates task).1
    dueDate := (tickTickDates task).2
    allDay := task.dueAt.map fun due =>
      match due with
      | .date _ => true
      | .dateTime _ | .dateTimeWithTz _ => false
    timeZone :=
      match task.dueAt, task.timeConfig with
      | some (.dateTimeWithTz _), some timeConfig => some timeConfig.timezone
      | _, _ => none
    priority := tickTickItemPriority task.priority }

/-- The project is asked for when the creation names one. -/
def projectId (task : TaskCreation) (getOrCreateProject : String → Except UniversalInboxError String) :
    Except UniversalInboxError (Option String) :=
  match task.projectName with
  | some projectName => (getOrCreateProject projectName).map some
  | none => .ok none

/-- The provider configuration of a connection, as far as tasks get their defaults from it.
`defaultDueAt` is the date that a preset stands for on the day of the call. -/
structure TaskManagerConfig where
  defaultProject : Option String
  defaultDueAt : Option DueDate
  defaultPriority : Option TaskPriority
  defaultTimeConfig : Option TaskTimeConfig

inductive IntegrationProvider where
  | todoist (config : TaskManagerConfig)
  | tickTick (config : TaskManagerConfig)
  | other

/-- A call, with what it finds. `withTimeConfig` is the computation with time zones. -/
structure Call (ε : Type) where
  notificationId : NotificationId
  userId : UserId
  taskCreation : Option TaskCreation
  getNotification : Except UniversalInboxError (Option Notification)
  htmlUrl : Notification → String
  defaultTaskManagerProviderKind : Except UniversalInboxError (Option IntegrationProviderKind)
  validatedConnection :
    IntegrationProviderKind → Except UniversalInboxError (Option IntegrationProvider)
  withTimeConfig : DueDate → TaskTimeConfig → DueDate
  connectionToSync : IntegrationProviderKind → Except UniversalInboxError Bool
  todoist : TodoistCalls ε
  tickTick : TickTickCalls ε

section Creation
variable {ε σ : Type} (client : ApiClient ε) (codec : Codec) (managers : TaskManagers σ)

/-- Only the first status of the response is looked at. -/
def sendSyncCommands (command : ItemAdd) (attempts : Attempts (Except ε Response)) (s : σ) :
    σ × Except UniversalInboxError TodoistSyncStatusResponse :=
  match post client codec.todoistSync (managers.itemAdd command) attempts s with
  | (s', .error _) => (s', .error (.unexpected
      "Failed to fetch response from Todoist API while sending commands"))
  | (s', .ok response) =>
    match response.syncStatus.head? with
    | some status => (s', (commandResult status).map fun _ => response)
    | none => (s', .error (.unexpected
        "Failed to parse response from Todoist API while sending commands"))

def createTodoistTask (calls : TodoistCalls ε) (task : TaskCreation) (s : σ) :
    σ × Except UniversalInboxError TodoistItem :=
  if !calls.accessToken then
    (s, .error (.unexpected "Cannot create a Todoist task without an access token"))
  else
    match projectId task calls.getOrCreateProject with
    | .error error => (s, .error error)
    | .ok projectId =>
      match sendSyncCommands client codec managers
          ⟨calls.uuid, calls.tempId, itemAddArgs task projectId⟩ calls.attempts s with
      | (s', .error error) => (s', .error error)
      | (s', .ok syncResult) =>
        (s',
          match syncResult.tempIdMapping.head? with
          | none => .error (.unexpected "Cannot find newly created task's ID")
          | some id =>
            match calls.fetchTask id with
            | .error error => .error error
            | .ok none => .error (.unexpected "Failed to find newly created task on Todoist")
            | .ok (some item) => .ok item)

def createTickTickTask (request : TickTickCreateTaskRequest)
    (attempts : Attempts (Except ε Response)) (s : σ) : σ × Except UniversalInboxError String :=
  let (s', result) := post client codec.tickTickItem (managers.createTask request) attempts s
  (s', result.mapError fun _ => .unexpected "Failed to create TickTick task")

/-- The task of a creation at TickTick, in the serialization it is stored in. -/
def createTickTick (calls : TickTickCalls ε) (task : TaskCreation) (s : σ) :
    σ × Except UniversalInboxError String :=
  if !calls.accessToken then
    (s, .error (.unexpected "Cannot create a TickTick task without an access token"))
  else
    match projectId task calls.getOrCreateProject with
    | .error error => (s, .error error)
    | .ok projectId =>
      createTickTickTask client codec managers (tickTickCreateTaskRequest task projectId)
        calls.attempts s

/-- The body of the task is a link to the notification. -/
def withLink (call : Call ε) (task : TaskCreation) (notification : Notification) : TaskCreation :=
  { task with body := some s!"- [{notification.title}]({call.htmlUrl notification})" }

/-- `create_task_from_notification_with_service`, up to the item that is stored next: nothing after
that calls a task manager. -/
def createTaskWithService (call : Call ε) (task : TaskCreation) (notification : Notification)
    (kind : IntegrationProviderKind)
    (createTask : TaskCreation → σ → σ × Except UniversalInboxError ThirdPartyItemData) (s : σ) :
    σ × Except UniversalInboxError ThirdPartyItemData :=
  match call.connectionToSync kind with
  | .error error => (s, .error error)
  | .ok false => (s, .error (.unexpected s!"No validated {displayProviderKind kind} integration found for user {notification.userId.uuid}, cannot create a task from the notification {notification.id.uuid}"))
  | .ok true => createTask (withLink call task notification) s

def createTaskOf (call : Call ε) (task : TaskCreation) (notification : Notification)
    (kind : IntegrationProviderKind) (s : σ) : σ × Except UniversalInboxError ThirdPartyItemData :=
  match kind with
  | .todoist =>
    createTaskWithService call task notification .todoist (fun task s =>
      let (s', result) := createTodoistTask client codec managers call.todoist task s
      (s', result.map .todoistItem)) s
  | .tickTick =>
    createTaskWithService call task notification .tickTick (fun task s =>
      let (s', result) := createTickTick client codec managers call.tickTick task s
      (s', result.map .tickTickItem)) s
  | kind => (s, .error (.unsupportedAction
      s!"Task creation from notification is not supported for {displayProviderKind kind}"))

/-- The explicit kind, the preference of the user, or Todoist. -/
def resolvedProviderKind (call : Call ε) : Except UniversalInboxError IntegrationProviderKind :=
  match call.taskCreation.bind (·.taskProviderKind) with
  | some kind => .ok kind
  | none => call.defaultTaskManagerProviderKind.map (·.getD .todoist)

def defaultTaskCreation (call : Call ε) (notification : Notification)
    (kind : IntegrationProviderKind) : Except UniversalInboxError TaskCreation := do
  match ← call.validatedConnection kind with
  | none => .error (.unexpected s!"Cannot create task from notification {call.notificationId.uuid} as no {displayProviderKind kind} integration is connected for user {call.userId.uuid}")
  | some .other => .error (.unexpected s!"Cannot create task from notification {call.notificationId.uuid}: unsupported provider {displayProviderKind kind}")
  | some (.todoist config) | some (.tickTick config) =>
    return {
      title := notification.title
      body := none
      projectName := config.defaultProject
      dueAt := config.defaultDueAt.map fun due =>
        match config.defaultTimeConfig with
        | some timeConfig => call.withTimeConfig due timeConfig
        | none => due
      priority := config.defaultPriority.getD .p4
      taskProviderKind := some kind
      timeConfig := config.defaultTimeConfig }

/-- What `create_task_from_notification` asks the task service for. -/
def resolve (call : Call ε) :
    Except UniversalInboxError (TaskCreation × Notification × IntegrationProviderKind) := do
  match ← call.getNotification with
  | none => .error (.unexpected
      s!"Cannot create task from unknown notification {call.notificationId.uuid}")
  | some notification =>
    let kind ← resolvedProviderKind call
    match call.taskCreation with
    | some taskCreation => return (taskCreation, notification, kind)
    | none =>
      let taskCreation ← defaultTaskCreation call notification kind
      return (taskCreation, notification, kind)

def createTaskFromNotification (call : Call ε) (s : σ) :
    σ × Except UniversalInboxError ThirdPartyItemData :=
  match resolve call with
  | .error error => (s, .error error)
  | .ok (task, notification, kind) =>
    createTaskOf client codec managers call task notification kind s

end Creation

/-- A request that creates a task is posted to TickTick. -/
def postsToTickTick {ε : Type} (call : Call ε) : Bool :=
  match resolve call with
  | .ok (task, _, .tickTick) =>
    (call.connectionToSync .tickTick).toOption.getD false && call.tickTick.accessToken &&
      (projectId task call.tickTick.getOrCreateProject).isOk
  | _ => false

section Counting
variable {ε σ : Type} {client : ApiClient ε} {codec : Codec} {managers : TaskManagers σ}
  {call : Call ε}

/-- The command is executed once, whatever the answers are. -/
theorem tasks_sendSyncCommands (command : ItemAdd) (attempts : Attempts (Except ε Response)) (s : σ) :
    managers.tasks (sendSyncCommands client codec managers command attempts s).1 ≤
      managers.tasks s + 1 := by
  have hpost : (sendSyncCommands client codec managers command attempts s).1 =
      (Resend.send (isTransient client) (managers.itemAdd command) (allowed client attempts) s).1 := by
    unfold sendSyncCommands post
    dsimp only
    split
    · next hpost => exact (congrArg Prod.fst hpost).symm
    · next hpost => split <;> exact (congrArg Prod.fst hpost).symm
  have honce := @Resend.send_of_idempotent σ _ (isTransient client) (managers.itemAdd command)
    (allowed client attempts) s fun s => managers.itemAdd_again command command s rfl
  rw [hpost]
  rcases honce with hsame | honce
  · rw [hsame]
    exact Nat.le_succ _
  · rw [honce]
    exact managers.tasks_itemAdd command s

theorem tasks_createTodoistTask (calls : TodoistCalls ε) (task : TaskCreation) (s : σ) :
    managers.tasks (createTodoistTask client codec managers calls task s).1 ≤
      managers.tasks s + 1 := by
  unfold createTodoistTask
  split
  · exact Nat.le_succ _
  · split
    · exact Nat.le_succ _
    · next projectId hproject =>
      have hsend := @tasks_sendSyncCommands ε σ client codec managers
        ⟨calls.uuid, calls.tempId, itemAddArgs task projectId⟩ calls.attempts s
      split
      · next hresult => rwa [hresult] at hsend
      · next hresult => rwa [hresult] at hsend

theorem tasks_iterate_createTask (request : TickTickCreateTaskRequest) (n : ℕ) (s : σ) :
    managers.tasks ((managers.createTask request)^[n] s) = managers.tasks s + n := by
  induction n generalizing s with
  | zero => rfl
  | succ n ih =>
    rw [Function.iterate_succ_apply, ih, managers.tasks_createTask]
    omega

/-- A posted task is created as often as it is applied. -/
theorem tasks_createTickTickTask (request : TickTickCreateTaskRequest)
    (attempts : Attempts (Except ε Response)) (s : σ) :
    managers.tasks (createTickTickTask client codec managers request attempts s).1 =
      managers.tasks s + (made (isTransient client) (allowed client attempts)).countP (·.applied) := by
  unfold createTickTickTask post
  dsimp only
  rw [Resend.send_fst, tasks_iterate_createTask]

theorem createTickTick_iff (task : TaskCreation) (s : σ) :
    managers.tasks (createTickTick client codec managers call.tickTick task s).1 ≤
        managers.tasks s + 1 ↔
      (call.tickTick.accessToken && (projectId task call.tickTick.getOrCreateProject).isOk) = true →
        AppliedOnce (isTransient client) (allowed client call.tickTick.attempts) := by
  unfold createTickTick
  cases htoken : call.tickTick.accessToken with
  | false => simp
  | true =>
    cases hproject : projectId task call.tickTick.getOrCreateProject with
    | error error => simp [Except.isOk, Except.toBool]
    | ok projectId =>
      simp only [Bool.not_true, Bool.false_eq_true, if_false, Except.isOk, Except.toBool,
        Bool.and_self, forall_const]
      rw [tasks_createTickTickTask, Resend.appliedOnce_iff]
      omega

end Counting

/-- One call creates at most one task at the task managers, whatever the transient failures of its
requests are, if and only if it posts no task to TickTick or no attempt to post it that was applied
is followed by another one that is. -/
theorem createsAtMostOne_iff {ε σ : Type} (client : ApiClient ε) (codec : Codec)
    (managers : TaskManagers σ) (call : Call ε) (s : σ) :
    managers.tasks (createTaskFromNotification client codec managers call s).1 ≤
        managers.tasks s + 1 ↔
      (postsToTickTick call = true →
        AppliedOnce (isTransient client) (allowed client call.tickTick.attempts)) := by
  unfold createTaskFromNotification postsToTickTick
  cases hresolve : resolve call with
  | error error => simp
  | ok resolved =>
    obtain ⟨task, notification, kind⟩ := resolved
    cases kind with
    | todoist =>
      refine iff_of_true ?_ fun h => absurd h Bool.false_ne_true
      show managers.tasks (createTaskWithService call task notification .todoist _ s).1 ≤ _
      unfold createTaskWithService
      split
      · exact Nat.le_succ _
      · exact Nat.le_succ _
      · exact tasks_createTodoistTask call.todoist (withLink call task notification) s
    | tickTick =>
      show managers.tasks (createTaskWithService call task notification .tickTick _ s).1 ≤ _ ↔ _
      unfold createTaskWithService
      cases hconnection : call.connectionToSync .tickTick with
      | error error => simp [Except.toOption]
      | ok found =>
        cases found with
        | false => simp [Except.toOption]
        | true =>
          simp only [Except.toOption, Option.getD_some, Bool.true_and]
          exact createTickTick_iff (withLink call task notification) s
    | _ => simp [createTaskOf]

section Maintenance

/-- The task managers as lists of what they were asked to create. -/
structure Tasks where
  commands : List ItemAdd
  posted : List TickTickCreateTaskRequest
deriving DecidableEq

def taskManagers : TaskManagers Tasks where
  tasks s := s.commands.length + s.posted.length
  itemAdd command s :=
    if s.commands.any (·.uuid == command.uuid) then s
    else { s with commands := command :: s.commands }
  createTask request s := { s with posted := request :: s.posted }
  tasks_itemAdd command s := by
    split
    · omega
    · simp only [List.length_cons]
      omega
  itemAdd_again command command' s h := by
    split
    · next hknown => rw [← h, if_pos hknown]
    · simp [h]
  tasks_createTask request s := by
    simp only [List.length_cons]
    omega

/-- Server errors, timeouts of requests and too many requests are transient. -/
def retryDefaults : RetryDefaults Unit where
  onRequestSuccess response :=
    if (500 ≤ response.status && response.status < 600) || response.status == 408 ||
        response.status == 429 then some .transient
    else if response.status < 300 then none
    else some .fatal
  onRequestFailure _ := some .transient

def retrying : ApiClient Unit := ⟨retryDefaults, 30⟩

def plainCodec : Codec := ⟨fun _ => none, some⟩

def created : Except Unit Response := .ok ⟨200, some "application/json", some "task"⟩

def badGateway : Except Unit Response := .ok ⟨502, some "text/html", some ""⟩

def reviewNotification : Notification :=
  { id := ⟨1⟩, title := "Review", status := .unread, createdAt := 0, updatedAt := 0,
    lastReadAt := none, snoozedUntil := none, userId := ⟨1⟩, taskId := none, kind := .linear,
    sourceItem := ⟨⟨1⟩, "1", .linearNotification "", 0, 0, ⟨1⟩, ⟨1⟩, none⟩ }

/-- A task is to be created at TickTick. The first attempt is answered by a gateway, and may have
been applied. -/
def tickTickCall (applied : Bool) : Call Unit :=
  { notificationId := ⟨1⟩
    userId := ⟨1⟩
    taskCreation := some ⟨"Review", none, none, none, .p4, some .tickTick, none⟩
    getNotification := .ok (some reviewNotification)
    htmlUrl := fun _ => ""
    defaultTaskManagerProviderKind := .ok none
    validatedConnection := fun _ => .ok none
    withTimeConfig := fun due _ => due
    connectionToSync := fun _ => .ok true
    todoist := ⟨true, .ok, 1, 2, ⟨⟨true, created⟩, []⟩, fun _ => .ok none⟩
    tickTick := ⟨true, .ok, ⟨⟨applied, badGateway⟩, [⟨true, created⟩]⟩⟩ }

/-- The task is created, and once the gateway is back it is created again. -/
theorem appliedBehindGateway_createdTwice :
    ¬ taskManagers.tasks (createTaskFromNotification retrying plainCodec taskManagers
        (tickTickCall true) ⟨[], []⟩).1 ≤ taskManagers.tasks ⟨[], []⟩ + 1 := by
  decide

/-- A first attempt that was not applied does no harm. -/
example : (createTaskFromNotification retrying plainCodec taskManagers (tickTickCall false)
    ⟨[], []⟩).1.posted.length = 1 := by decide

end Maintenance

end UniversalInbox.UpstreamTaskCreation
