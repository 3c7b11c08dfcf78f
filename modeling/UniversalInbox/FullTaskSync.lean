import UniversalInbox.Propagation
import UniversalInbox.StalePass
import UniversalInbox.ThirdPartyItemNesting

/-! The sync of the tasks of a source that fetches everything it has. What it does not fetch anymore
and still has an active task is marked as done where it is stored, and converted to a task again
with what was fetched. -/
namespace UniversalInbox.FullTaskSync
open TaskUpsert
open Propagation (State Outcome createTaskFromThirdPartyItem taskSourceKind)
open StalePass (ThirdPartyItemSourceService)

/-- The services that synchronize tasks, and not incrementally. -/
inductive FullTaskSource where
  | tickTick
  | linear
deriving DecidableEq, Repr

namespace FullTaskSource

def service : FullTaskSource → ThirdPartyItemSourceService
  | .tickTick => .tickTick
  | .linear => .linearTasks

def itemKind : FullTaskSource → ThirdPartyItemKind
  | .tickTick => .tickTickItem
  | .linear => .linearIssue

def getTaskSourceKind : FullTaskSource → TaskSourceKind
  | .tickTick => .tickTick
  | .linear => .linear

/-- Both are full, and what they do not fetch anymore are tasks of their kind. -/
theorem service_spec (source : FullTaskSource) :
    source.service.isSyncIncremental = false ∧
      StalePass.taskSourceKind source.service.getThirdPartyItemSourceKind =
        some source.getTaskSourceKind ∧
      taskSourceKind source.itemKind = some source.getTaskSourceKind := by
  cases source <;> exact ⟨rfl, rfl, rfl⟩

end FullTaskSource

inductive TickTickTaskStatus where
  | normal
  | completed
deriving DecidableEq, Repr

inductive TickTickItemPriority where
  | none
  | low
  | medium
  | high
deriving DecidableEq, Repr

structure TickTickItem where
  projectId : String
  title : String
  content : Option String
  dueDate : Option DateTime
  repeat_ : Option String
  priority : TickTickItemPriority
  status : TickTickTaskStatus
  completedTime : Option DateTime
  tags : Option (List String)
  createdTime : Option DateTime
deriving DecidableEq, Repr

structure TickTickProject where
  id : String
  name : String
deriving DecidableEq, Repr

inductive LinearIssuePriority where
  | noPriority
  | urgent
  | high
  | normal
  | low
deriving DecidableEq, Repr

inductive LinearWorkflowStateType where
  | triage
  | backlog
  | unstarted
  | started
  | completed
  | canceled
  | duplicate
deriving DecidableEq, Repr

structure LinearIssue where
  createdAt : DateTime
  updatedAt : DateTime
  completedAt : Option DateTime
  dueDate : Option NaiveDate
  title : String
  url : String
  priority : LinearIssuePriority
  stateType : LinearWorkflowStateType
  labels : List String
  description : Option String
deriving DecidableEq, Repr

def TickTickItem.complete (now : DateTime) (item : TickTickItem) : TickTickItem :=
  { item with status := .completed, completedTime := some now }

def LinearIssue.complete (now : DateTime) (issue : LinearIssue) : LinearIssue :=
  { issue with stateType := .completed, completedAt := some now }

/-- How payloads are read and rewritten; rewriting one keeps the fields that are not read here. -/
structure Codec where
  tickTick : String → TickTickItem
  linear : String → LinearIssue
  completeTickTick : DateTime → String → String
  completeLinear : DateTime → String → String
  removeSlackReaction : String → String
  readSlackThread : String → String
  tickTick_complete : ∀ now content,
    tickTick (completeTickTick now content) = (tickTick content).complete now
  linear_complete : ∀ now content,
    linear (completeLinear now content) = (linear content).complete now

/-- What `marked_as_done` reads from the clock. -/
structure MarkTimes where
  completedAt : DateTime
  updatedAt : DateTime
deriving DecidableEq, Repr

section MarkedAsDone
variable (codec : Codec) (times : MarkTimes)

def markData : ThirdPartyItemData → Option ThirdPartyItemData
  | .todoistItem item =>
    some (.todoistItem { item with checked := true, completedAt := some times.completedAt })
  | .tickTickItem content => some (.tickTickItem (codec.completeTickTick times.completedAt content))
  | .slackReaction content => some (.slackReaction (codec.removeSlackReaction content))
  | .slackThread content => some (.slackThread (codec.readSlackThread content))
  | .linearIssue content => some (.linearIssue (codec.completeLinear times.completedAt content))
  | .linearNotification _ | .githubNotification _ | .googleMailThread _ | .googleCalendarEvent _
  | .googleDriveComment _ | .webPage _ => none

def markedAsDone (item : ThirdPartyItem) : ThirdPartyItem :=
  match markData codec times item.data with
  | some data => { item with data, updatedAt := TodoistSync.wholeSeconds times.updatedAt }
  | none => item

end MarkedAsDone

def tickTickPriority : TickTickItemPriority → TaskPriority
  | .high => .p1
  | .medium => .p2
  | .low => .p3
  | .none => .p4

def linearPriority : LinearIssuePriority → TaskPriority
  | .noPriority => .p4
  | .urgent => .p1
  | .high => .p2
  | .normal => .p3
  | .low => .p4

def tickTickStatus (source : TickTickItem) : TaskStatus :=
  if source.status = .completed then .done else .active

def LinearWorkflowStateType.taskStatus : LinearWorkflowStateType → TaskStatus
  | .triage | .backlog | .unstarted | .started => .active
  | .completed => .done
  | .canceled | .duplicate => .deleted

structure TaskCreationConfig where
  projectName : Option String
  dueAt : Option DueDate
  taskManagerProviderKind : Option IntegrationProviderKind

def tickTickInboxProject : String := "Inbox"

/-- The inbox is not one of the listed projects. -/
def tickTickProjectName (projects : List TickTickProject) (source : TickTickItem) : String :=
  if "inbox".toList.isPrefixOf source.projectId.toList then tickTickInboxProject
  else ((projects.find? (·.id == source.projectId)).map (·.name)).getD "No project"

def buildTaskWithProjectName (id : TaskId) (now : DateTime) (source : TickTickItem)
    (projectName : String) (item : ThirdPartyItem) (userId : UserId) : CreateOrUpdateTaskRequest :=
  { id
    title := ⟨source.title, some source.title⟩
    body := source.content.getD ""
    status := tickTickStatus source
    completedAt := source.completedTime
    priority := tickTickPriority source.priority
    dueAt := ⟨none, some (source.dueDate.map .dateTimeWithTz)⟩
    tags := source.tags.getD []
    parentId := none
    project := ⟨tickTickInboxProject, some projectName⟩
    isRecurring := source.repeat_.isSome
    createdAt := source.createdTime.getD (TodoistSync.wholeSeconds now)
    updatedAt := item.updatedAt
    kind := .tickTick
    sourceItem := item
    sinkItem := some item
    userId }

def LinearIssue.renderTaskTitle (issue : LinearIssue) : String := s!"[{issue.title}]({issue.url})"

/-- The title and the project are seeded, and never asserted. -/
def linearTaskRequest (id : TaskId) (source : LinearIssue) (item : ThirdPartyItem)
    (config : TaskCreationConfig) (userId : UserId) : CreateOrUpdateTaskRequest :=
  { id
    title := ⟨source.renderTaskTitle, none⟩
    body := source.description.getD ""
    status := source.stateType.taskStatus
    completedAt := source.completedAt
    priority := linearPriority source.priority
    dueAt := ⟨config.dueAt, source.dueDate.map fun dueDate => some (.date dueDate)⟩
    tags := source.labels
    parentId := none
    project := ⟨config.projectName.getD TodoistSync.todoistInboxProject, none⟩
    isRecurring := false
    createdAt := source.createdAt
    updatedAt := source.updatedAt
    kind := .linear
    sourceItem := item
    sinkItem := none
    userId }

/-- What a sync of a source fetches: its items, each once, under one connection of the user, and
the projects that their tasks are in. -/
structure Fetch where
  source : FullTaskSource
  userId : UserId
  integrationConnectionId : IntegrationConnectionId
  items : List ThirdPartyItem
  projects : List TickTickProject
  kind : ∀ item ∈ items, item.kind = source.itemKind
  user : ∀ item ∈ items, item.userId = userId
  connection : ∀ item ∈ items, item.integrationConnectionId = integrationConnectionId
  leaf : ∀ item ∈ items, item.sourceItem = none
  distinct : (items.map (·.sourceId)).Nodup

/-- What the conversion of one item is answered, and what it takes from the clock and the settings.
Only Todoist answers that an item is not found. -/
structure Answers where
  taskId : TaskId
  now : DateTime
  connected : Bool
  taskCreationConfig : Option TaskCreationConfig
  fetchProjects : Except UniversalInboxError Unit
  defaultTaskManagerProviderKind : Option IntegrationProviderKind
  peer : PeerService.PeerAnswers
  sink : Propagation.SinkAnswers
  afterSideEffect : Except UniversalInboxError Unit
  linear_found : ∀ executed message, peer.linear ≠ .failed executed (.itemNotFound message)
  slack_found : ∀ executed message, peer.slack.reaction ≠ .failed executed (.itemNotFound message) ∧
    peer.slack.completionReaction ≠ some (.failed executed (.itemNotFound message))

/-- The order in which Postgres reads the items. -/
structure ThirdPartyItemScan (db : Database) where
  rows : List ThirdPartyItemRow
  perm : rows.Perm db.thirdPartyItems.rows

/-- What a sync meets besides the items it fetches. -/
structure Setting where
  codec : Codec
  scan : (db : Database) → TaskScan db
  itemScan : (db : Database) → ThirdPartyItemScan db
  isTesting : Bool
  marks : ThirdPartyItemId → MarkTimes
  answers : ThirdPartyItemId → Answers

section Sync
variable (setting : Setting) (fetch : Fetch)

def thirdPartyItemIntoTask (item : ThirdPartyItem) (answers : Answers) :
    Except UniversalInboxError CreateOrUpdateTaskRequest :=
  match fetch.source, item.data with
  | .tickTick, .tickTickItem content =>
    let source := setting.codec.tickTick content
    match answers.fetchProjects with
    | .error error => .error error
    | .ok () => .ok (buildTaskWithProjectName answers.taskId answers.now source
        (tickTickProjectName fetch.projects source) item fetch.userId)
  | .linear, .linearIssue content =>
    match answers.taskCreationConfig with
    | none => .error (.unexpected "Cannot build a Linear task without a task creation")
    | some config => .ok (linearTaskRequest answers.taskId (setting.codec.linear content) item config
        fetch.userId)
  | _, _ => .error (.unexpected s!"Unexpected third party item kind {item.kind.display}")

def syncedItem (item : ThirdPartyItem) : Propagation.SyncedItem :=
  let answers := setting.answers item.id
  { item
    connected := answers.connected
    request := thirdPartyItemIntoTask setting fetch item answers
    sinkProviderKindHint := answers.taskCreationConfig.bind (·.taskManagerProviderKind)
    defaultTaskManagerProviderKind := answers.defaultTaskManagerProviderKind
    peer := answers.peer
    sink := answers.sink
    afterSideEffect := answers.afterSideEffect }

/-- The upserts of some items, each with the status it ends with. -/
def upsertItems (db : Database) :
    List ThirdPartyItem → Except UniversalInboxError (Database × List (UpsertStatus ThirdPartyItem))
  | [] => .ok (db, [])
  | item :: rest => do
    let (db', upserted) ← ThirdPartyItemService.createOrUpdateThirdPartyItem db item
    let (db'', statuses) ← upsertItems db' rest
    return (db'', upserted :: statuses)

/-- The items are joined with their task, of which there is at most one. -/
def getStaleTaskSourceThirdPartyItems (db : Database) (scan : ThirdPartyItemScan db)
    (activeTaskSourceThirdPartyItemIds : List ThirdPartyItemId) (kind : TaskSourceKind)
    (userId : UserId) : List ThirdPartyItem :=
  (scan.rows.filter fun item =>
    !activeTaskSourceThirdPartyItemIds.contains item.id &&
      (db.tasks.rows.any fun task =>
        task.sourceItemId == item.id && task.kind == kind && task.status == .active) &&
      item.userId == userId).map (ThirdPartyItemUpsert.joinItem db)

/-- `modified_value`. -/
def modifiedValue : UpsertStatus ThirdPartyItem → Option ThirdPartyItem
  | .created new => some new
  | .updated new _ => some new
  | .untouched _ => none

/-- Nothing is fetched for test accounts. -/
def syncItems (db : Database) : Except UniversalInboxError (Database × List ThirdPartyItem) :=
  if setting.isTesting then .ok (db, [])
  else do
    let (db', statuses) ← upsertItems db fetch.items
    let values := statuses.map (·.value)
    let stale := getStaleTaskSourceThirdPartyItems db' (setting.itemScan db')
      (values.map (·.id)) fetch.source.getTaskSourceKind fetch.userId
    let (db'', marked) ← upsertItems db'
      (stale.map fun item => markedAsDone setting.codec (setting.marks item.id) item)
    return (db'', values ++ marked.filterMap modifiedValue)

/-- The loop over the items ends at the first error, and what it has done is committed. -/
def createTasks (s : State) : List ThirdPartyItem → Outcome
  | [] => some (s, .ok ())
  | item :: rest =>
    match createTaskFromThirdPartyItem setting.scan fetch.userId setting.isTesting s
        (syncedItem setting fetch item) with
    | some (s', .ok ()) => createTasks s' rest
    | outcome => outcome

/-- A sync that fetches. -/
def syncThirdPartyTasks (s : State) : Outcome :=
  match syncItems setting fetch s.db with
  | .error _ => none
  | .ok (db, values) => createTasks setting fetch { s with db } values

end Sync

/-- The status of the task that an item is converted to. -/
def taskStatus (codec : Codec) : ThirdPartyItemData → Option TaskStatus
  | .tickTickItem content => some (tickTickStatus (codec.tickTick content))
  | .linearIssue content => some (codec.linear content).stateType.taskStatus
  | _ => none

/-- When an item was completed, for what its payload says. -/
def completedAt (codec : Codec) : ThirdPartyItemData → Option DateTime
  | .tickTickItem content => (codec.tickTick content).completedTime
  | .linearIssue content => (codec.linear content).completedAt
  | _ => none

end UniversalInbox.FullTaskSync
