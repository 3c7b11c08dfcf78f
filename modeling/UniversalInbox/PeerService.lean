import UniversalInbox.Task

/-! What the inbox does at a provider for the item of an updated task. Each service has its own
calls; what they are answered is an input, and a call that fails may have been executed. -/
namespace UniversalInbox.PeerService

/-- The propagated fields of a task, or those of an item as its provider has it. -/
structure TaskFields where
  status : TaskStatus
  title : String
  body : String
  priority : TaskPriority
  dueAt : Option DueDate
  project : String
deriving DecidableEq, Repr

def fieldsOf (task : Task) : TaskFields :=
  { status := task.status
    title := task.title
    body := task.body
    priority := task.priority
    dueAt := task.dueAt
    project := task.project }

structure TaskPatch where
  status : Option TaskStatus
  projectName : Option String
  dueAt : Option (Option DueDate)
  priority : Option TaskPriority
  body : Option String
  title : Option String
  sinkItemId : Option ThirdPartyItemId
deriving DecidableEq, Repr

/-- What an update changed. -/
def taskPatch (newTask oldTask : Task) : TaskPatch :=
  { status := if newTask.status != oldTask.status then some newTask.status else none
    projectName := if newTask.project != oldTask.project then some newTask.project else none
    dueAt := if newTask.dueAt != oldTask.dueAt then some newTask.dueAt else none
    priority := if newTask.priority != oldTask.priority then some newTask.priority else none
    body := if newTask.body != oldTask.body then some newTask.body else none
    title := if newTask.title != oldTask.title then some newTask.title else none
    sinkItemId := none }

/-- The item at its provider after a call, and what the call returns. -/
abbrev Call := TaskFields → TaskFields × Except UniversalInboxError Unit

def Call.ok : Call := fun u => (u, .ok ())

def Call.fail (error : UniversalInboxError) : Call := fun u => (u, .error error)

/-- `?`: the second call is made when the first one succeeds. -/
def Call.andThen (first next : Call) : Call := fun u =>
  match first u with
  | (u', .ok ()) => next u'
  | (u', .error error) => (u', .error error)

/-- The answer to one call: a failed one may have been executed all the same. -/
inductive CallAnswer where
  | ok
  | failed (executed : Bool) (error : UniversalInboxError)
deriving DecidableEq, Repr

def CallAnswer.call (answer : CallAnswer) (effect : TaskFields → TaskFields) : Call := fun u =>
  match answer with
  | .ok => (effect u, .ok ())
  | .failed executed error => (if executed then effect u else u, .error error)

inductive TodoistCommandStatus where
  | ok
  | error (errorCode : Int)
deriving DecidableEq, Repr

inductive TodoistSyncCommand where
  | itemDelete
  | itemComplete
  | itemUncomplete
  | itemMove (project : String)
  | itemUpdate (due : Option (Option DueDate)) (priority : Option TaskPriority)
      (description content : Option String)

def TodoistSyncCommand.execute : TodoistSyncCommand → TaskFields → TaskFields
  | .itemDelete, u => { u with status := .deleted }
  | .itemComplete, u => { u with status := .done }
  | .itemUncomplete, u => { u with status := .active }
  | .itemMove project, u => { u with project }
  | .itemUpdate due priority description content, u =>
    { u with
      dueAt := due.getD u.dueAt
      priority := priority.getD u.priority
      body := description.getD u.body
      title := content.getD u.title }

/-- The statuses of the commands of a request in their order, `ok` where none is listed;
`lastFirst` is the order of the map the client keeps them in, and `received` whether it gets a
response at all. -/
structure TodoistAnswer where
  received : Bool
  statuses : List TodoistCommandStatus
  lastFirst : Bool
deriving DecidableEq, Repr

def commandResult : TodoistCommandStatus → Except UniversalInboxError Unit
  | .ok => .ok ()
  | .error errorCode =>
    if errorCode == 22 then .error (.itemNotFound "Todoist item not found while sending commands")
    else .error (.unexpected "Unexpected error while sending commands")

def executeCommands : List TodoistCommandStatus → List TodoistSyncCommand → TaskFields → TaskFields
  | _, [], u => u
  | statuses, command :: rest, u =>
    executeCommands statuses.tail rest
      (if statuses.headD .ok = .ok then command.execute u else u)

/-- Only the first status of the response is looked at. -/
def sendSyncCommands (commands : List TodoistSyncCommand) (answer : TodoistAnswer) : Call := fun u =>
  (executeCommands answer.statuses commands u,
    if answer.received then
      commandResult (answer.statuses.getD (if answer.lastFirst then commands.length - 1 else 0) .ok)
    else
      .error (.unexpected "Failed to fetch response from Todoist API while sending commands"))

/-- `ThirdPartyTaskService`, as far as an updated task uses it. -/
structure ThirdPartyTaskService where
  deleteTask : Call
  completeTask : Call
  uncompleteTask : Call
  updateTask : TaskPatch → Call

/-- Called when the patch names a project; a project that does not exist is created. -/
def getOrCreateProject (projectName : Option String) (answer : Except UniversalInboxError Unit) :
    Call := fun u => (u, if projectName.isSome then answer else .ok ())

structure TodoistAnswers where
  accessToken : Bool
  status : TodoistAnswer
  project : Except UniversalInboxError Unit
  update : TodoistAnswer

def todoistUpdateCommands (patch : TaskPatch) : List TodoistSyncCommand :=
  (match patch.projectName with
    | some project => [.itemMove project]
    | none => []) ++
  (if patch.priority.isSome || patch.dueAt.isSome || patch.body.isSome || patch.title.isSome then
      [.itemUpdate patch.dueAt patch.priority patch.body patch.title]
    else [])

def todoistService (answers : TodoistAnswers) : ThirdPartyTaskService where
  deleteTask :=
    if answers.accessToken then sendSyncCommands [.itemDelete] answers.status
    else Call.fail (.unexpected "Cannot delete a Todoist task without an access token")
  completeTask :=
    if answers.accessToken then sendSyncCommands [.itemComplete] answers.status
    else Call.fail (.unexpected "Cannot complete a Todoist task without an access token")
  uncompleteTask :=
    if answers.accessToken then sendSyncCommands [.itemUncomplete] answers.status
    else Call.fail (.unexpected "Cannot complete a Todoist task without an access token")
  updateTask patch :=
    if !answers.accessToken then
      Call.fail (.unexpected "Cannot update a Todoist task without an access token")
    else
      (getOrCreateProject patch.projectName answers.project).andThen
        (if (todoistUpdateCommands patch).isEmpty then Call.ok
          else sendSyncCommands (todoistUpdateCommands patch) answers.update)

structure TickTickAnswers where
  accessToken : Bool
  status : CallAnswer
  project : Except UniversalInboxError Unit
  update : CallAnswer

def tickTickService (answers : TickTickAnswers) : ThirdPartyTaskService where
  deleteTask :=
    if answers.accessToken then answers.status.call fun u => { u with status := .deleted }
    else Call.fail (.unexpected "Cannot delete a TickTick task without an access token")
  completeTask :=
    if answers.accessToken then answers.status.call fun u => { u with status := .done }
    else Call.fail (.unexpected "Cannot complete a TickTick task without an access token")
  uncompleteTask :=
    Call.fail (.unsupportedAction "TickTick API does not support uncompleting a task")
  updateTask patch :=
    if patch.title.isNone && patch.body.isNone && patch.priority.isNone && patch.dueAt.isNone &&
        patch.projectName.isNone then
      Call.ok
    else if !answers.accessToken then
      Call.fail (.unexpected "Cannot update a TickTick task without an access token")
    else
      (getOrCreateProject patch.projectName answers.project).andThen
        (answers.update.call fun u =>
          { u with
            project := patch.projectName.getD u.project
            title := patch.title.getD u.title
            body := patch.body.getD u.body
            dueAt := patch.dueAt.getD u.dueAt
            priority := patch.priority.getD u.priority })

/-- The access token, the state of the issue and the call come to one answer. -/
def linearService (answer : CallAnswer) : ThirdPartyTaskService where
  deleteTask := answer.call fun u => { u with status := .deleted }
  completeTask := answer.call fun u => { u with status := .done }
  uncompleteTask := answer.call fun u => { u with status := .active }
  updateTask _ := Call.ok

/-- A reaction on something else than a message has no identifiers to call Slack with. -/
structure SlackAnswers where
  onMessage : Bool
  reaction : CallAnswer
  completionReaction : Option CallAnswer

def SlackAnswers.call (answers : SlackAnswers) (answer : CallAnswer)
    (effect : TaskFields → TaskFields) : Call :=
  if answers.onMessage then answer.call effect else Call.ok

def SlackAnswers.completionCall (answers : SlackAnswers) : Call :=
  match answers.completionReaction with
  | some answer => answers.call answer id
  | none => Call.ok

def slackService (answers : SlackAnswers) : ThirdPartyTaskService where
  deleteTask :=
    (answers.call answers.reaction fun u => { u with status := .done }).andThen
      answers.completionCall
  completeTask :=
    (answers.call answers.reaction fun u => { u with status := .done }).andThen
      answers.completionCall
  uncompleteTask :=
    answers.completionCall.andThen
      (answers.call answers.reaction fun u => { u with status := .active })
  updateTask _ := Call.ok

/-- An item that cannot be found needs no deletion. -/
def Call.ignoreNotFound (call : Call) : Call := fun u =>
  match call u with
  | (u', .error (.itemNotFound _)) => (u', .ok ())
  | outcome => outcome

def ThirdPartyTaskService.applyStatus (service : ThirdPartyTaskService) : Option TaskStatus → Call
  | some .deleted => service.deleteTask.ignoreNotFound
  | some .done => service.completeTask
  | some .active => service.uncompleteTask
  | none => Call.ok

def applyUpdatedTaskSideEffect (service : ThirdPartyTaskService) (patch : TaskPatch) : Call :=
  (service.applyStatus patch.status).andThen (service.updateTask patch)

structure PeerAnswers where
  todoist : TodoistAnswers
  tickTick : TickTickAnswers
  linear : CallAnswer
  slack : SlackAnswers

def applyTaskThirdPartyItemSideEffect (isTesting : Bool) (patch : TaskPatch)
    (kind : ThirdPartyItemKind) (answers : PeerAnswers) : Call :=
  if isTesting then Call.ok
  else
    match kind with
    | .todoistItem => applyUpdatedTaskSideEffect (todoistService answers.todoist) patch
    | .tickTickItem => applyUpdatedTaskSideEffect (tickTickService answers.tickTick) patch
    | .linearIssue => applyUpdatedTaskSideEffect (linearService answers.linear) patch
    | .slackReaction => applyUpdatedTaskSideEffect (slackService answers.slack) patch
    | _ => Call.fail
        (.unexpected "Cannot apply task side effect for third party item source kind")

/-- All that a patch asks for. -/
def TaskPatch.apply (patch : TaskPatch) (u : TaskFields) : TaskFields :=
  { status := patch.status.getD u.status
    title := patch.title.getD u.title
    body := patch.body.getD u.body
    priority := patch.priority.getD u.priority
    dueAt := patch.dueAt.getD u.dueAt
    project := patch.projectName.getD u.project }

def TodoistAnswer.AllOk (answer : TodoistAnswer) : Prop :=
  answer.received = true ∧ ∀ status ∈ answer.statuses, status = .ok

instance (answer : TodoistAnswer) : Decidable answer.AllOk := inferInstanceAs (Decidable (_ ∧ _))

/-- The answer of a provider that does not find the item, to a request of two commands at most. -/
def TodoistAnswer.NotFound (answer : TodoistAnswer) : Prop :=
  answer.received = true ∧ answer.statuses = [.error 22, .error 22]

instance (answer : TodoistAnswer) : Decidable answer.NotFound :=
  inferInstanceAs (Decidable (_ ∧ _))

/-- The services that keep every field of a task, the one that keeps its status, and the one
that knows whether it is active. -/
def Agrees (kind : ThirdPartyItemKind) (task u : TaskFields) : Prop :=
  match kind with
  | .todoistItem | .tickTickItem => u = task
  | .linearIssue => u.status = task.status
  | .slackReaction => u.status = .active ↔ task.status = .active
  | _ => True

instance (task u : TaskFields) : ∀ kind, Decidable (Agrees kind task u)
  | .todoistItem | .tickTickItem => inferInstanceAs (Decidable (u = task))
  | .linearIssue => inferInstanceAs (Decidable (_ = _))
  | .slackReaction => inferInstanceAs (Decidable (_ ↔ _))
  | .slackThread | .linearNotification | .githubNotification | .googleMailThread
  | .googleCalendarEvent | .googleDriveComment | .webPage => .isTrue trivial

section Todoist
variable {first next : Call} {u v : TaskFields} {commands : List TodoistSyncCommand}
  {answer : TodoistAnswer} {answers : TodoistAnswers} {patch : TaskPatch}

theorem andThen_of_ok (h : first u = (v, .ok ())) : first.andThen next u = next v := by
  unfold Call.andThen
  rw [h]

theorem andThen_of_error {error : UniversalInboxError} (h : first u = (v, .error error)) :
    first.andThen next u = (v, .error error) := by
  unfold Call.andThen
  rw [h]

theorem ignoreNotFound_of_ok (h : first u = (v, .ok ())) : first.ignoreNotFound u = (v, .ok ()) := by
  unfold Call.ignoreNotFound
  rw [h]

theorem ignoreNotFound_of_notFound {message : String}
    (h : first u = (v, .error (.itemNotFound message))) :
    first.ignoreNotFound u = (v, .ok ()) := by
  unfold Call.ignoreNotFound
  rw [h]

theorem getOrCreateProject_ok {projectName : Option String} {project : Except UniversalInboxError Unit}
    (h : project.isOk = true) : getOrCreateProject projectName project u = (u, .ok ()) := by
  cases project with
  | error _ => cases h
  | ok _ =>
    unfold getOrCreateProject
    split <;> rfl

theorem executeCommands_ok {statuses : List TodoistCommandStatus} (h : ∀ status ∈ statuses, status = .ok) :
    executeCommands statuses commands u = commands.foldl (fun u command => command.execute u) u := by
  induction commands generalizing statuses u with
  | nil => rfl
  | cons command rest ih =>
    have hhead : statuses.headD .ok = .ok := by
      cases statuses with
      | nil => rfl
      | cons status _ => exact h status List.mem_cons_self
    rw [executeCommands, if_pos hhead, List.foldl_cons]
    exact ih fun status hmem => h status (List.mem_of_mem_tail hmem)

theorem sendSyncCommands_allOk (h : answer.AllOk) :
    sendSyncCommands commands answer u =
      (commands.foldl (fun u command => command.execute u) u, .ok ()) := by
  have hfirst : ∀ k, answer.statuses.getD k .ok = .ok := by
    intro k
    rw [List.getD_eq_getElem?_getD]
    cases hk : answer.statuses[k]? with
    | none => rfl
    | some status => exact h.2 status (List.mem_of_getElem? hk)
  unfold sendSyncCommands
  rw [executeCommands_ok h.2, if_pos h.1, hfirst]
  rfl

theorem sendSyncCommands_notFound (h : answer.NotFound) (hne : commands ≠ [])
    (hlen : commands.length ≤ 2) :
    ∃ message, sendSyncCommands commands answer u = (u, .error (.itemNotFound message)) := by
  obtain ⟨received, statuses, lastFirst⟩ := answer
  obtain ⟨rfl, rfl⟩ := h
  cases commands with
  | nil => exact absurd rfl hne
  | cons first rest =>
    cases rest with
    | nil => cases lastFirst <;> exact ⟨_, rfl⟩
    | cons second rest =>
      have hrest : rest = [] := by simpa using hlen
      subst hrest
      cases lastFirst <;> exact ⟨_, rfl⟩

theorem todoistUpdateCommands_length : (todoistUpdateCommands patch).length ≤ 2 := by
  unfold todoistUpdateCommands
  cases patch.projectName <;> simp only [List.nil_append, List.length_append] <;> split <;> simp

/-- The commands of an update ask for everything but the status. -/
theorem foldl_todoistUpdateCommands :
    (todoistUpdateCommands patch).foldl (fun u command => command.execute u) u =
      { patch.apply u with status := u.status } := by
  obtain ⟨status, projectName, dueAt, priority, body, title, sinkItemId⟩ := patch
  unfold todoistUpdateCommands
  rw [List.foldl_append]
  have hupdate : ∀ v : TaskFields,
      (if priority.isSome || dueAt.isSome || body.isSome || title.isSome then
        [TodoistSyncCommand.itemUpdate dueAt priority body title] else []).foldl
          (fun u command => command.execute u) v =
        (TodoistSyncCommand.itemUpdate dueAt priority body title).execute v := by
    intro v
    split
    · rfl
    · next hnone =>
      simp only [Bool.or_eq_true, Option.isSome_iff_ne_none, not_or, not_not] at hnone
      obtain ⟨⟨⟨rfl, rfl⟩, rfl⟩, rfl⟩ := hnone
      rfl
  rw [hupdate]
  cases projectName <;> rfl

structure TodoistAnswers.Succeed (answers : TodoistAnswers) : Prop where
  accessToken : answers.accessToken = true
  status : answers.status.AllOk
  project : answers.project.isOk = true
  update : answers.update.AllOk

instance (answers : TodoistAnswers) : Decidable answers.Succeed :=
  decidable_of_iff
    (answers.accessToken = true ∧ answers.status.AllOk ∧ answers.project.isOk = true ∧
      answers.update.AllOk)
    ⟨fun ⟨a, b, c, d⟩ => ⟨a, b, c, d⟩, fun ⟨a, b, c, d⟩ => ⟨a, b, c, d⟩⟩

theorem todoist_updateTask (htoken : answers.accessToken = true)
    (hproject : answers.project.isOk = true) (hupdate : answers.update.AllOk) :
    (todoistService answers).updateTask patch u = ({ patch.apply u with status := u.status }, .ok ()) := by
  unfold todoistService
  simp only [htoken, Bool.not_true, Bool.false_eq_true, if_false]
  rw [andThen_of_ok (getOrCreateProject_ok hproject), ← foldl_todoistUpdateCommands]
  split
  · next hempty => rw [List.isEmpty_iff.mp hempty]; rfl
  · exact sendSyncCommands_allOk hupdate

theorem todoist_applyStatus (htoken : answers.accessToken = true) (hstatus : answers.status.AllOk)
    (status : Option TaskStatus) :
    (todoistService answers).applyStatus status u = ({ u with status := status.getD u.status }, .ok ()) := by
  unfold ThirdPartyTaskService.applyStatus todoistService
  simp only [htoken, if_true]
  match status with
  | none => rfl
  | some .deleted => exact ignoreNotFound_of_ok (sendSyncCommands_allOk hstatus)
  | some .done => exact sendSyncCommands_allOk hstatus
  | some .active => exact sendSyncCommands_allOk hstatus

theorem todoist_succeed (h : answers.Succeed) :
    applyUpdatedTaskSideEffect (todoistService answers) patch u = (patch.apply u, .ok ()) := by
  unfold applyUpdatedTaskSideEffect
  rw [andThen_of_ok (todoist_applyStatus h.accessToken h.status patch.status),
    todoist_updateTask h.accessToken h.project h.update]
  rfl

/-- The deletion of an item that is gone already. -/
theorem todoist_deleteGone (htoken : answers.accessToken = true) (hstatus : answers.status.NotFound)
    (hproject : answers.project.isOk = true) (hupdate : answers.update.AllOk)
    (hdeleted : ∀ status ∈ patch.status, status = .deleted) (hgone : u.status = .deleted) :
    applyUpdatedTaskSideEffect (todoistService answers) patch u = (patch.apply u, .ok ()) := by
  have happlied : patch.status.getD u.status = u.status := by
    cases hs : patch.status with
    | none => rfl
    | some status => exact (hdeleted status hs).trans hgone.symm
  have hfirst : (todoistService answers).applyStatus patch.status u = (u, .ok ()) := by
    cases hs : patch.status with
    | none => rfl
    | some status =>
      rw [hdeleted status hs]
      obtain ⟨message, hsend⟩ := sendSyncCommands_notFound (u := u) hstatus
        (List.cons_ne_nil TodoistSyncCommand.itemDelete []) (by decide)
      refine @ignoreNotFound_of_notFound _ u u message ?_
      unfold todoistService
      simp only [htoken, if_true]
      exact hsend
  unfold applyUpdatedTaskSideEffect
  rw [andThen_of_ok hfirst, todoist_updateTask htoken hproject hupdate, ← happlied]
  rfl

/-- An item that is gone and is not to be deleted: either there is nothing to ask for, or it is
not found. -/
theorem todoist_notFound (htoken : answers.accessToken = true) (hstatus : answers.status.NotFound)
    (hproject : answers.project.isOk = true) (hupdate : answers.update.NotFound)
    (hactive : ∀ status ∈ patch.status, status = .active) :
    (patch.apply u = u ∧
        applyUpdatedTaskSideEffect (todoistService answers) patch u = (u, .ok ())) ∨
      ∃ message, applyUpdatedTaskSideEffect (todoistService answers) patch u =
        (u, .error (.itemNotFound message)) := by
  unfold applyUpdatedTaskSideEffect
  cases hs : patch.status with
  | some status =>
    obtain ⟨message, hsend⟩ := sendSyncCommands_notFound (u := u) hstatus
      (List.cons_ne_nil TodoistSyncCommand.itemUncomplete []) (by decide)
    refine .inr ⟨message, andThen_of_error ?_⟩
    rw [hactive status hs]
    unfold ThirdPartyTaskService.applyStatus todoistService
    simp only [htoken, if_true]
    exact hsend
  | none =>
    rw [andThen_of_ok (v := u) rfl]
    unfold todoistService
    simp only [htoken, Bool.not_true, Bool.false_eq_true, if_false]
    rw [andThen_of_ok (getOrCreateProject_ok hproject)]
    by_cases hempty : todoistUpdateCommands patch = []
    · have hfold := @foldl_todoistUpdateCommands u patch
      rw [hempty, List.foldl_nil] at hfold
      rw [hempty]
      refine .inl ⟨?_, rfl⟩
      conv_rhs => rw [hfold]
      unfold TaskPatch.apply
      rw [hs]
      rfl
    · rw [if_neg (by rwa [List.isEmpty_iff])]
      exact .inr (sendSyncCommands_notFound hupdate hempty todoistUpdateCommands_length)

end Todoist

section Services
variable {u task : TaskFields} {patch : TaskPatch}

structure TickTickAnswers.Succeed (answers : TickTickAnswers) : Prop where
  accessToken : answers.accessToken = true
  status : answers.status = .ok
  project : answers.project.isOk = true
  update : answers.update = .ok

instance (answers : TickTickAnswers) : Decidable answers.Succeed :=
  decidable_of_iff
    (answers.accessToken = true ∧ answers.status = .ok ∧ answers.project.isOk = true ∧
      answers.update = .ok)
    ⟨fun ⟨a, b, c, d⟩ => ⟨a, b, c, d⟩, fun ⟨a, b, c, d⟩ => ⟨a, b, c, d⟩⟩

theorem tickTick_updateTask {answers : TickTickAnswers} (h : answers.Succeed) :
    (tickTickService answers).updateTask patch u = ({ patch.apply u with status := u.status }, .ok ()) := by
  unfold tickTickService
  simp only [h.accessToken, Bool.not_true, Bool.false_eq_true, if_false]
  split
  · next hnone =>
    obtain ⟨status, projectName, dueAt, priority, body, title, sinkItemId⟩ := patch
    simp only [Bool.and_eq_true, Option.isNone_iff_eq_none] at hnone
    obtain ⟨⟨⟨⟨rfl, rfl⟩, rfl⟩, rfl⟩, rfl⟩ := hnone
    rfl
  · rw [andThen_of_ok (getOrCreateProject_ok h.project), h.update]
    rfl

/-- TickTick has no call that uncompletes a task. -/
theorem tickTick_succeed {answers : TickTickAnswers} (h : answers.Succeed)
    (hstatus : patch.status ≠ some .active) :
    applyUpdatedTaskSideEffect (tickTickService answers) patch u = (patch.apply u, .ok ()) := by
  have hfirst : (tickTickService answers).applyStatus patch.status u =
      ({ u with status := patch.status.getD u.status }, .ok ()) := by
    unfold ThirdPartyTaskService.applyStatus tickTickService
    simp only [h.accessToken, if_true, h.status]
    cases hs : patch.status with
    | none => rfl
    | some status =>
      cases status with
      | active => exact absurd hs hstatus
      | done => rfl
      | deleted => rfl
  unfold applyUpdatedTaskSideEffect
  rw [andThen_of_ok hfirst, tickTick_updateTask h]
  rfl

theorem linear_succeed :
    applyUpdatedTaskSideEffect (linearService .ok) patch u =
      ({ u with status := patch.status.getD u.status }, .ok ()) := by
  unfold applyUpdatedTaskSideEffect ThirdPartyTaskService.applyStatus linearService
  cases patch.status with
  | none => rfl
  | some status => cases status <;> rfl

structure SlackAnswers.Succeed (answers : SlackAnswers) : Prop where
  onMessage : answers.onMessage = true
  reaction : answers.reaction = .ok
  completionReaction : ∀ answer ∈ answers.completionReaction, answer = .ok

instance (answers : SlackAnswers) : Decidable answers.Succeed :=
  decidable_of_iff
    (answers.onMessage = true ∧ answers.reaction = .ok ∧
      ∀ answer ∈ answers.completionReaction, answer = .ok)
    ⟨fun ⟨a, b, c⟩ => ⟨a, b, c⟩, fun ⟨a, b, c⟩ => ⟨a, b, c⟩⟩

/-- A removed reaction stands for a task that is done. -/
def reactionStatus : TaskStatus → TaskStatus
  | .active => .active
  | .done | .deleted => .done

theorem slack_succeed {answers : SlackAnswers} (h : answers.Succeed) :
    applyUpdatedTaskSideEffect (slackService answers) patch u =
      ({ u with status := (patch.status.map reactionStatus).getD u.status }, .ok ()) := by
  have hcompletion : answers.completionCall = Call.ok := by
    unfold SlackAnswers.completionCall SlackAnswers.call
    cases hc : answers.completionReaction with
    | none => rfl
    | some answer =>
      rw [h.completionReaction answer hc, h.onMessage]
      rfl
  unfold applyUpdatedTaskSideEffect ThirdPartyTaskService.applyStatus slackService
  rw [hcompletion]
  unfold SlackAnswers.call
  simp only [h.onMessage, if_true, h.reaction]
  cases patch.status with
  | none => rfl
  | some status => cases status <;> rfl

/-- Every call to the service of the item succeeds. -/
def PeerAnswers.Succeed (answers : PeerAnswers) : ThirdPartyItemKind → Prop
  | .todoistItem => answers.todoist.Succeed
  | .tickTickItem => answers.tickTick.Succeed
  | .linearIssue => answers.linear = .ok
  | .slackReaction => answers.slack.Succeed
  | _ => False

instance (answers : PeerAnswers) : ∀ kind, Decidable (answers.Succeed kind)
  | .todoistItem => inferInstanceAs (Decidable answers.todoist.Succeed)
  | .tickTickItem => inferInstanceAs (Decidable answers.tickTick.Succeed)
  | .linearIssue => inferInstanceAs (Decidable (answers.linear = .ok))
  | .slackReaction => inferInstanceAs (Decidable answers.slack.Succeed)
  | .slackThread | .linearNotification | .githubNotification | .googleMailThread
  | .googleCalendarEvent | .googleDriveComment | .webPage => .isFalse not_false

theorem taskPatch_apply (newTask oldTask : Task) :
    (taskPatch newTask oldTask).apply (fieldsOf oldTask) = fieldsOf newTask := by
  have hfield : ∀ {α : Type} [BEq α] [LawfulBEq α] (new old : α),
      (if new != old then some new else none).getD old = new := by
    intro α _ _ new old
    by_cases h : new = old <;> simp [h]
  unfold TaskPatch.apply taskPatch fieldsOf
  simp only [hfield]

/-- An item that agrees with a task agrees with the patched task once the calls succeeded. -/
theorem agrees_of_succeed {answers : PeerAnswers} {kind : ThirdPartyItemKind}
    (h : answers.Succeed kind)
    (huncomplete : kind = .tickTickItem → patch.status ≠ some .active) :
    ∃ v, applyTaskThirdPartyItemSideEffect false patch kind answers u = (v, .ok ()) ∧
      (Agrees kind task u → Agrees kind (patch.apply task) v) := by
  unfold applyTaskThirdPartyItemSideEffect
  simp only [Bool.false_eq_true, if_false]
  cases kind with
  | todoistItem => exact ⟨_, todoist_succeed h, congrArg patch.apply⟩
  | tickTickItem => exact ⟨_, tickTick_succeed h (huncomplete rfl), congrArg patch.apply⟩
  | linearIssue =>
    rw [show answers.linear = .ok from h]
    exact ⟨_, linear_succeed, fun hagrees => congrArg patch.status.getD hagrees⟩
  | slackReaction =>
    refine ⟨_, slack_succeed h, fun hagrees => ?_⟩
    show (patch.status.map reactionStatus).getD u.status = .active ↔
      patch.status.getD task.status = .active
    match patch.status with
    | none => exact hagrees
    | some .active => exact Iff.rfl
    | some .done => simp [reactionStatus]
    | some .deleted => simp [reactionStatus]
  | slackThread | linearNotification | githubNotification | googleMailThread
  | googleCalendarEvent | googleDriveComment | webPage => exact h.elim

end Services

end UniversalInbox.PeerService
