import UniversalInbox.ThirdParty

/-! Tasks, the requests that create or update them, and the values an integration may
decline to own. -/
namespace UniversalInbox

structure DefaultValue (α : Type) where
  defaultValue : α
  value : Option α
deriving DecidableEq, Repr

namespace DefaultValue
variable {α : Type}

def hasValue (v : DefaultValue α) : Bool := v.value.isSome

def intoValue (v : DefaultValue α) : α := v.value.getD v.defaultValue

/-- Falls back to the stored value, not to the seed. -/
def valueOr (v : DefaultValue α) (fallback : α) : α := v.value.getD fallback

end DefaultValue

inductive TaskStatus where
  | active
  | done
  | deleted
deriving DecidableEq, Repr

inductive TaskPriority where
  | p1
  | p2
  | p3
  | p4
deriving DecidableEq, Repr

inductive TaskSourceKind where
  | todoist
  | tickTick
  | slack
  | linear
deriving DecidableEq, Repr

structure Task where
  id : TaskId
  title : String
  body : String
  status : TaskStatus
  completedAt : Option DateTime
  priority : TaskPriority
  dueAt : Option DueDate
  tags : List String
  parentId : Option TaskId
  project : String
  isRecurring : Bool
  createdAt : DateTime
  updatedAt : DateTime
  kind : TaskSourceKind
  sourceItem : ThirdPartyItem
  sinkItem : Option ThirdPartyItem
  userId : UserId
deriving Repr

/-- `PartialEq for Task`: the identifier and the three timestamps are not compared, the
items only by identifier. -/
def Task.eq (self other : Task) : Bool :=
  self.title == other.title && self.body == other.body && self.status == other.status &&
    self.priority == other.priority && self.dueAt == other.dueAt && self.tags == other.tags &&
    self.parentId == other.parentId && self.project == other.project &&
    self.isRecurring == other.isRecurring && self.kind == other.kind &&
    self.sourceItem.id == other.sourceItem.id &&
    self.sinkItem.map (·.id) == other.sinkItem.map (·.id) && self.userId == other.userId

instance : BEq Task := ⟨Task.eq⟩

structure CreateOrUpdateTaskRequest where
  id : TaskId
  title : DefaultValue String
  body : String
  status : TaskStatus
  completedAt : Option DateTime
  priority : TaskPriority
  dueAt : DefaultValue (Option DueDate)
  tags : List String
  parentId : Option TaskId
  project : DefaultValue String
  isRecurring : Bool
  createdAt : DateTime
  updatedAt : DateTime
  kind : TaskSourceKind
  sourceItem : ThirdPartyItem
  sinkItem : Option ThirdPartyItem
  userId : UserId
deriving Repr

/-- `From<CreateOrUpdateTaskRequest> for Task`, used when nothing is stored yet. -/
def CreateOrUpdateTaskRequest.intoTask (request : CreateOrUpdateTaskRequest) : Task :=
  { id := request.id
    title := request.title.intoValue
    body := request.body
    status := request.status
    completedAt := request.completedAt
    priority := request.priority
    dueAt := request.dueAt.intoValue
    tags := request.tags
    parentId := request.parentId
    project := request.project.intoValue
    isRecurring := request.isRecurring
    createdAt := request.createdAt
    updatedAt := request.updatedAt
    kind := request.kind
    sourceItem := request.sourceItem
    sinkItem := request.sinkItem
    userId := request.userId }

end UniversalInbox
