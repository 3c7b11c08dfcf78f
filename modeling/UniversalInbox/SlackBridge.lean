import Mathlib.Data.List.Sort
import UniversalInbox.Core
import UniversalInbox.Library.Table

/-! The actions the browser extension carries out on Slack for a user: created by the service,
polled and reported by the extension, retried a bounded number of times. Each request is one
transaction, and its `UPDATE` locks the row it reads; `now` is the start of the transaction,
`utcNow` the clock of the process. -/
namespace UniversalInbox.SlackBridge

structure SlackBridgePendingActionId where
  uuid : Nat
deriving DecidableEq, Repr

inductive SlackBridgeActionType where
  | markAsRead
  | unsubscribe
deriving DecidableEq, Repr

inductive SlackBridgeActionStatus where
  | pending
  | completed
  | failed
  | permanentlyFailed
deriving DecidableEq, Repr

structure SlackBridgePendingAction where
  id : SlackBridgePendingActionId
  userId : UserId
  notificationId : Option NotificationId
  actionType : SlackBridgeActionType
  slackTeamId : String
  slackChannelId : String
  slackThreadTs : String
  slackLastMessageTs : String
  status : SlackBridgeActionStatus
  failureMessage : Option String
  retryCount : Nat
  createdAt : DateTime
  updatedAt : DateTime
  completedAt : Option DateTime
deriving DecidableEq, Repr

abbrev ActionTable := Table SlackBridgePendingAction.id

def maxRetries : Nat := 5

def backoffBaseDelaySeconds : Nat := 30

def backoffMaxDelaySeconds : Nat := 600

def seconds (n : Nat) : Int := n * 1000000000

section Repository

/-- The `INSERT` names neither the failure columns nor `completed_at`: they take the defaults of
the table, whatever the action says. -/
def insertedAction (action : SlackBridgePendingAction) : SlackBridgePendingAction :=
  { action with
    failureMessage := none
    retryCount := 0
    completedAt := none }

def insertPendingAction (actions : ActionTable) (action : SlackBridgePendingAction) :
    Option ActionTable := actions.insert? (insertedAction action)

/-- `LEAST(base * POWER(2, GREATEST(retry_count - 1, 0)), max)`; natural subtraction stops at
zero as `GREATEST` does. -/
def backoffDelay (retryCount : Nat) : Int :=
  seconds (min (backoffBaseDelaySeconds * 2 ^ (retryCount - 1)) backoffMaxDelaySeconds)

def isActionable (userId : UserId) (now : DateTime) (row : SlackBridgePendingAction) : Bool :=
  row.userId == userId &&
    (row.status == .pending && row.retryCount == 0 ||
      row.status == .failed && decide (row.updatedAt + backoffDelay row.retryCount < now))

/-- `ORDER BY created_at ASC`, with ties in storage order. -/
def getActionableActions (actions : ActionTable) (userId : UserId) (now : DateTime) :
    List SlackBridgePendingAction :=
  (actions.rows.filter (isActionable userId now)).mergeSort
    fun a b => decide (a.createdAt ≤ b.createdAt)

/-- `id = … AND user_id = … AND status IN ('Pending', 'Failed')`. -/
def isReportable (actionId : SlackBridgePendingActionId) (userId : UserId)
    (row : SlackBridgePendingAction) : Bool :=
  row.id == actionId && row.userId == userId && (row.status == .pending || row.status == .failed)

def completed (now : DateTime) (row : SlackBridgePendingAction) : SlackBridgePendingAction :=
  { row with
    status := .completed
    completedAt := some now
    updatedAt := now }

def failed (error : String) (now : DateTime) (row : SlackBridgePendingAction) :
    SlackBridgePendingAction :=
  { row with
    status := if maxRetries ≤ row.retryCount + 1 then .permanentlyFailed else .failed
    failureMessage := some error
    retryCount := row.retryCount + 1
    updatedAt := now }

/-- An `UPDATE … RETURNING *` of one reportable action. -/
def markAction (actions : ActionTable) (actionId : SlackBridgePendingActionId) (userId : UserId)
    (write : SlackBridgePendingAction → SlackBridgePendingAction)
    (keepsId : ∀ row, (write row).id = row.id) : ActionTable × Option SlackBridgePendingAction :=
  (actions.update (isReportable actionId userId) write keepsId,
    (actions.rows.find? (isReportable actionId userId)).map write)

def markActionCompleted (actions : ActionTable) (actionId : SlackBridgePendingActionId)
    (userId : UserId) (now : DateTime) : ActionTable × Option SlackBridgePendingAction :=
  markAction actions actionId userId (completed now) fun _ => rfl

def markActionFailed (actions : ActionTable) (actionId : SlackBridgePendingActionId)
    (userId : UserId) (error : String) (now : DateTime) :
    ActionTable × Option SlackBridgePendingAction :=
  markAction actions actionId userId (failed error now) fun _ => rfl

/-- The pending and the failed actions of a user, and the last completion. -/
def countActions (actions : ActionTable) (userId : UserId) : Nat × Nat × Option DateTime :=
  let rows := actions.rows.filter fun row => row.userId == userId
  (rows.countP (·.status == .pending), rows.countP (·.status == .failed),
    ((rows.filter (·.status == .completed)).filterMap (·.completedAt)).max?)

end Repository

section Service

/-- What a caller says of the action it creates. -/
structure ActionRequest where
  notificationId : Option NotificationId
  actionType : SlackBridgeActionType
  slackTeamId : String
  slackChannelId : String
  slackThreadTs : String
  slackLastMessageTs : String
deriving DecidableEq, Repr

def newPendingAction (id : SlackBridgePendingActionId) (userId : UserId) (request : ActionRequest)
    (createdAt updatedAt : DateTime) : SlackBridgePendingAction :=
  { id, userId
    notificationId := request.notificationId
    actionType := request.actionType
    slackTeamId := request.slackTeamId
    slackChannelId := request.slackChannelId
    slackThreadTs := request.slackThreadTs
    slackLastMessageTs := request.slackLastMessageTs
    status := .pending
    failureMessage := none
    retryCount := 0
    createdAt, updatedAt
    completedAt := none }

/-- `create_pending_action` of the service; `none` when the identifier is taken. -/
def createPendingAction (actions : ActionTable) (id : SlackBridgePendingActionId) (userId : UserId)
    (request : ActionRequest) (createdAt updatedAt : DateTime) : Option ActionTable :=
  insertPendingAction actions (newPendingAction id userId request createdAt updatedAt)

structure SlackExtensionCredential where
  teamId : String
  userId : String
deriving DecidableEq, Repr

structure SlackContext where
  teamId : String
  extensionCredentials : List SlackExtensionCredential
  lastExtensionHeartbeatAt : Option DateTime
deriving DecidableEq, Repr

/-- What the bridge reads of the validated Slack connection of a user. -/
structure SlackConnection where
  providerUserId : Option String
  context : Option SlackContext
deriving DecidableEq, Repr

def extensionHeartbeatTimeoutSeconds : Nat := 120

/-- The poll of the extension: its heartbeat and credentials are kept in the context of the
connection, where there is one. -/
def getActionableActionsForExtension (actions : ActionTable) (connection : Option SlackConnection)
    (userId : UserId) (credentials : List SlackExtensionCredential) (now utcNow : DateTime) :
    Option SlackConnection × List SlackBridgePendingAction :=
  (connection.map fun c =>
      { c with
        context := c.context.map fun context =>
          { context with
            extensionCredentials := credentials
            lastExtensionHeartbeatAt := some utcNow } },
    getActionableActions actions userId now)

structure SlackBridgeStatus where
  extensionConnected : Bool
  teamIdMatch : Bool
  userIdMatch : Bool
  pendingActionsCount : Nat
  failedActionsCount : Nat
  lastCompletedAt : Option DateTime
deriving DecidableEq, Repr

def getBridgeStatus (actions : ActionTable) (connection : Option SlackConnection) (userId : UserId)
    (utcNow : DateTime) : SlackBridgeStatus :=
  let context := connection.bind (·.context)
  let credential := context.bind fun c => c.extensionCredentials.find? (·.teamId == c.teamId)
  let counts := countActions actions userId
  { extensionConnected := (context.bind (·.lastExtensionHeartbeatAt)).any fun heartbeat =>
      utcNow - heartbeat < seconds extensionHeartbeatTimeoutSeconds
    teamIdMatch := credential.isSome
    userIdMatch := credential.any fun c => connection.any (·.providerUserId == some c.userId)
    pendingActionsCount := counts.1
    failedActionsCount := counts.2.1
    lastCompletedAt := counts.2.2 }

end Service

inductive Request where
  | createPendingAction (id : SlackBridgePendingActionId) (request : ActionRequest)
      (createdAt updatedAt : DateTime)
  | completeAction (actionId : SlackBridgePendingActionId) (now : DateTime)
  | failAction (actionId : SlackBridgePendingActionId) (error : String) (now : DateTime)
deriving DecidableEq, Repr

/-- A request, and the user it is made for: the owner of the notification of a creation, the
authenticated user of a report. -/
structure Input where
  userId : UserId
  request : Request
deriving DecidableEq, Repr

/-- A creation that fails is rolled back. -/
def step (actions : ActionTable) (input : Input) : ActionTable :=
  match input.request with
  | .createPendingAction id request createdAt updatedAt =>
    (createPendingAction actions id input.userId request createdAt updatedAt).getD actions
  | .completeAction actionId now => (markActionCompleted actions actionId input.userId now).1
  | .failAction actionId error now => (markActionFailed actions actionId input.userId error now).1

def run (actions : ActionTable) (inputs : List Input) : ActionTable := inputs.foldl step actions

def SlackBridgeActionStatus.isTerminal (status : SlackBridgeActionStatus) : Bool :=
  status == .completed || status == .permanentlyFailed

/-- The statuses a retry count goes with. -/
def Phase (row : SlackBridgePendingAction) : Prop :=
  match row.status with
  | .pending => row.retryCount = 0
  | .failed => 1 ≤ row.retryCount ∧ row.retryCount < maxRetries
  | .permanentlyFailed => row.retryCount = maxRetries
  | .completed => True

/-- Every action is in a phase of the machine, and the open ones are polled from some instant
on. -/
structure Retried (actions : ActionTable) : Prop where
  phase : ∀ row ∈ actions.rows, Phase row
  polled : ∀ row ∈ actions.rows, row.status.isTerminal = false →
    ∃ instant, ∀ now, instant < now → row ∈ getActionableActions actions row.userId now

/-- What a request may do to the actions there are: change an open one of its user. -/
def Governed (actions : ActionTable) (input : Input) (actions' : ActionTable) : Prop :=
  ∀ row ∈ actions.rows, ∃ row' ∈ actions'.rows, row'.id = row.id ∧
    (row' ≠ row → row.status.isTerminal = false ∧ input.userId = row.userId)

section Machine
variable {actions : ActionTable} {row : SlackBridgePendingAction} {input : Input}
variable {userId : UserId} {now : DateTime}

theorem mem_getActionableActions :
    row ∈ getActionableActions actions userId now ↔
      row ∈ actions.rows ∧ isActionable userId now row = true := by
  rw [getActionableActions, List.mem_mergeSort, List.mem_filter]

theorem isReportable_iff {actionId : SlackBridgePendingActionId} :
    isReportable actionId userId row = true ↔
      row.id = actionId ∧ row.userId = userId ∧ row.status.isTerminal = false := by
  cases h : row.status <;>
    simp [isReportable, SlackBridgeActionStatus.isTerminal, h]

theorem phase_newPendingAction {id : SlackBridgePendingActionId} {request : ActionRequest}
    {createdAt updatedAt : DateTime} :
    Phase (insertedAction (newPendingAction id userId request createdAt updatedAt)) := by
  simp [Phase, insertedAction, newPendingAction]

theorem phase_completed : Phase (completed now row) := by
  simp [Phase, completed]

theorem retryCount_lt_of_open (h : Phase row) (hopen : row.status.isTerminal = false) :
    row.retryCount < maxRetries := by
  cases hstatus : row.status with
  | pending =>
    simp only [Phase, hstatus] at h
    simp [h, maxRetries]
  | failed =>
    simp only [Phase, hstatus] at h
    exact h.2
  | completed => simp [SlackBridgeActionStatus.isTerminal, hstatus] at hopen
  | permanentlyFailed => simp [SlackBridgeActionStatus.isTerminal, hstatus] at hopen

/-- A failure report moves an open action one retry on, and closes it at the last one. -/
theorem phase_failed {error : String} (h : Phase row) (hopen : row.status.isTerminal = false) :
    Phase (failed error now row) := by
  have hlt := retryCount_lt_of_open h hopen
  by_cases hlast : maxRetries ≤ row.retryCount + 1
  · simp only [Phase, failed, if_pos hlast]
    omega
  · simp only [Phase, failed, if_neg hlast]
    omega

theorem backoffDelay_le (retryCount : Nat) :
    backoffDelay retryCount ≤ seconds backoffMaxDelaySeconds := by
  have hmin := Nat.min_le_right (backoffBaseDelaySeconds * 2 ^ (retryCount - 1))
    backoffMaxDelaySeconds
  simp only [backoffDelay, seconds]
  omega

/-- An open action is due at the latest when the longest delay has passed since it was last
touched. -/
theorem isActionable_of_open (h : Phase row) (hopen : row.status.isTerminal = false)
    (hnow : row.updatedAt + seconds backoffMaxDelaySeconds < now) :
    isActionable row.userId now row = true := by
  cases hstatus : row.status with
  | pending =>
    simp only [Phase, hstatus] at h
    simp [isActionable, hstatus, h]
  | failed =>
    have hdue : row.updatedAt + backoffDelay row.retryCount < now :=
      lt_of_le_of_lt (Int.add_le_add_left (backoffDelay_le row.retryCount) _) hnow
    simp [isActionable, hstatus, hdue]
  | completed => simp [SlackBridgeActionStatus.isTerminal, hstatus] at hopen
  | permanentlyFailed => simp [SlackBridgeActionStatus.isTerminal, hstatus] at hopen

theorem retried_of_phase (h : ∀ row ∈ actions.rows, Phase row) : Retried actions := by
  refine ⟨h, fun row hrow hopen => ?_⟩
  refine ⟨row.updatedAt + seconds backoffMaxDelaySeconds, fun now hnow => ?_⟩
  exact mem_getActionableActions.mpr ⟨hrow, isActionable_of_open (h row hrow) hopen hnow⟩

/-- The counts shown to a user are zero exactly when the extension has nothing left to poll, now or
later. -/
theorem counts_eq_zero_iff (h : ∀ row ∈ actions.rows, Phase row)
    (connection : Option SlackConnection) (utcNow : DateTime) :
    ((getBridgeStatus actions connection userId utcNow).pendingActionsCount = 0 ∧
        (getBridgeStatus actions connection userId utcNow).failedActionsCount = 0) ↔
      ∀ now, getActionableActions actions userId now = [] := by
  simp only [getBridgeStatus, countActions, List.countP_eq_zero, List.mem_filter, beq_iff_eq]
  constructor
  · rintro ⟨hpending, hfailed⟩ now
    refine List.eq_nil_iff_forall_not_mem.mpr fun row hrow => ?_
    obtain ⟨hmem, hactionable⟩ := mem_getActionableActions.mp hrow
    simp only [isActionable, Bool.and_eq_true, Bool.or_eq_true, beq_iff_eq] at hactionable
    obtain ⟨howner, ⟨hstatus, -⟩ | ⟨hstatus, -⟩⟩ := hactionable
    · exact hpending row ⟨hmem, howner⟩ hstatus
    · exact hfailed row ⟨hmem, howner⟩ hstatus
  · intro hnone
    have hclosed : ∀ row, row ∈ actions.rows → row.userId = userId →
        row.status.isTerminal ≠ false := by
      rintro row hrow rfl hopen
      obtain ⟨instant, hpolled⟩ := (retried_of_phase h).polled row hrow hopen
      have hlater := hpolled (instant + 1) (Int.lt_succ instant)
      rw [hnone] at hlater
      cases hlater
    refine ⟨fun row hrow hstatus => ?_, fun row hrow hstatus => ?_⟩
    · exact hclosed row hrow.1 hrow.2 (by rw [hstatus]; rfl)
    · exact hclosed row hrow.1 hrow.2 (by rw [hstatus]; rfl)

/-- A poll shows the extension as connected for two minutes, to a user whose Slack connection has
a context. -/
theorem extensionConnected_after_poll (connection : Option SlackConnection)
    (credentials : List SlackExtensionCredential) (polledAt utcNow : DateTime) :
    (getBridgeStatus actions
        (getActionableActionsForExtension actions connection userId credentials now polledAt).1
        userId utcNow).extensionConnected = true ↔
      (connection.bind (·.context)).isSome ∧
        utcNow - polledAt < seconds extensionHeartbeatTimeoutSeconds := by
  cases connection with
  | none => simp [getBridgeStatus, getActionableActionsForExtension]
  | some c =>
    cases hcontext : c.context <;>
      simp [getBridgeStatus, getActionableActionsForExtension, hcontext]

theorem phase_markAction {actionId : SlackBridgePendingActionId}
    {write : SlackBridgePendingAction → SlackBridgePendingAction}
    {keepsId : ∀ row, (write row).id = row.id}
    (hwrite : ∀ row, Phase row → row.status.isTerminal = false → Phase (write row))
    (h : ∀ row ∈ actions.rows, Phase row) :
    ∀ row ∈ (markAction actions actionId userId write keepsId).1.rows, Phase row := by
  intro row' hrow'
  obtain ⟨row, hrow, rfl⟩ := (Table.mem_update (e := keepsId)).mp hrow'
  by_cases hreport : isReportable actionId userId row = true
  · rw [if_pos hreport]
    exact hwrite row (h row hrow) (isReportable_iff.mp hreport).2.2
  · rw [if_neg hreport]
    exact h row hrow

theorem phase_step (h : ∀ row ∈ actions.rows, Phase row) :
    ∀ row ∈ (step actions input).rows, Phase row := by
  obtain ⟨userId, request⟩ := input
  cases request with
  | createPendingAction id request createdAt updatedAt =>
    simp only [step]
    cases hcreate : createPendingAction actions id userId request createdAt updatedAt with
    | none => exact h
    | some actions' =>
      intro row hrow
      rw [Option.getD_some, (Table.insert?_eq_some.mp hcreate).2] at hrow
      rcases List.mem_append.mp hrow with hold | hnew
      · exact h row hold
      · rw [List.mem_singleton.mp hnew]
        exact phase_newPendingAction
  | completeAction actionId now => exact phase_markAction (fun _ _ _ => phase_completed) h
  | failAction actionId error now =>
    exact phase_markAction (fun _ hphase hopen => phase_failed hphase hopen) h

theorem phase_run (inputs : List Input) (h : ∀ row ∈ actions.rows, Phase row) :
    ∀ row ∈ (run actions inputs).rows, Phase row := by
  induction inputs generalizing actions with
  | nil => exact h
  | cons input rest ih => exact ih (phase_step h)

theorem governed_markAction {actionId : SlackBridgePendingActionId}
    {write : SlackBridgePendingAction → SlackBridgePendingAction}
    {keepsId : ∀ row, (write row).id = row.id} (huser : input.userId = userId) :
    Governed actions input (markAction actions actionId userId write keepsId).1 := by
  intro row hrow
  refine ⟨_, (Table.mem_update (e := keepsId)).mpr ⟨row, hrow, rfl⟩, ?_⟩
  by_cases hreport : isReportable actionId userId row = true
  · rw [if_pos hreport]
    obtain ⟨-, howner, hopen⟩ := isReportable_iff.mp hreport
    exact ⟨keepsId row, fun _ => ⟨hopen, huser.trans howner.symm⟩⟩
  · rw [if_neg hreport]
    exact ⟨rfl, fun hne => absurd rfl hne⟩

theorem governed_step : Governed actions input (step actions input) := by
  obtain ⟨userId, request⟩ := input
  cases request with
  | createPendingAction id request createdAt updatedAt =>
    intro row hrow
    refine ⟨row, ?_, rfl, fun hne => absurd rfl hne⟩
    simp only [step]
    cases hcreate : createPendingAction actions id userId request createdAt updatedAt with
    | none => exact hrow
    | some actions' =>
      rw [Option.getD_some, (Table.insert?_eq_some.mp hcreate).2]
      exact List.mem_append_left _ hrow
  | completeAction actionId now => exact governed_markAction rfl
  | failAction actionId error now => exact governed_markAction rfl

theorem terminal_step (hrow : row ∈ actions.rows) (hterminal : row.status.isTerminal = true) :
    row ∈ (step actions input).rows := by
  have hgoverned : Governed actions input (step actions input) := governed_step
  obtain ⟨row', hrow', -, hchanged⟩ := hgoverned row hrow
  by_cases hsame : row' = row
  · rw [← hsame]
    exact hrow'
  · have hopen := (hchanged hsame).1
    rw [hterminal] at hopen
    cases hopen

/-- A terminal action is as it was after any number of requests. -/
theorem terminal_run (inputs : List Input) (hrow : row ∈ actions.rows)
    (hterminal : row.status.isTerminal = true) : row ∈ (run actions inputs).rows := by
  induction inputs generalizing actions with
  | nil => exact hrow
  | cons input rest ih => exact ih (terminal_step hrow hterminal)

end Machine

/-- After any requests of any users, every action is in a phase of the machine and, while open,
is polled from some instant on; no later requests touch a terminal one, and the next one changes
none of another user. -/
theorem boundedRetry (inputs : List Input) :
    Retried (run Table.empty inputs) ∧
      (∀ row ∈ (run Table.empty inputs).rows, row.status.isTerminal = true →
        ∀ later, row ∈ (run (run Table.empty inputs) later).rows) ∧
      ∀ input, Governed (run Table.empty inputs) input (step (run Table.empty inputs) input) := by
  have hempty : ∀ row ∈ (Table.empty : ActionTable).rows, Phase row := by
    intro row hrow
    exact absurd hrow Table.not_mem_empty
  refine ⟨retried_of_phase (phase_run inputs hempty), ?_, fun _ => governed_step⟩
  intro row hrow hterminal later
  exact terminal_run later hrow hterminal

end UniversalInbox.SlackBridge
