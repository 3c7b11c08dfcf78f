import UniversalInbox.Core

/-! Items as the providers describe them and as the inbox stores them. -/
namespace UniversalInbox

inductive DueDate where
  | date (date : NaiveDate)
  | dateTime (datetime : NaiveDateTime)
  | dateTimeWithTz (datetime : DateTime)
deriving DecidableEq, Repr

inductive TodoistItemPriority where
  | p1
  | p2
  | p3
  | p4
deriving DecidableEq, Repr

inductive TodoistColor where
  | berryRed | red | orange | yellow | oliveGreen | limeGreen | green | mintGreen | teal | skyBlue
  | lightBlue | blue | grape | violet | lavender | magenta | salmon | charcoal | grey | taupe
  | unknown
deriving DecidableEq, Repr

structure TodoistLabel where
  name : String
  color : TodoistColor
deriving DecidableEq, Repr

/-- A label named by the Sync API, before its colour is known. -/
def TodoistLabel.fromName (name : String) : TodoistLabel := { name, color := .charcoal }

structure TodoistItemDue where
  string : String
  date : DueDate
  isRecurring : Bool
  timezone : Option String
  lang : String
deriving DecidableEq, Repr

structure TodoistItem where
  id : String
  parentId : Option String
  projectId : String
  syncId : Option String
  sectionId : Option String
  content : String
  description : String
  labels : List TodoistLabel
  childOrder : Int
  dayOrder : Option Int
  priority : TodoistItemPriority
  checked : Bool
  isDeleted : Bool
  collapsed : Bool
  completedAt : Option DateTime
  addedAt : DateTime
  due : Option TodoistItemDue
  userId : String
  addedByUid : Option String
  assignedByUid : Option String
  responsibleUid : Option String
deriving DecidableEq, Repr

/-- The variants other than Todoist's keep their serialized content, which is all that
comparing and storing them needs. -/
inductive ThirdPartyItemData where
  | todoistItem (item : TodoistItem)
  | tickTickItem (content : String)
  | slackReaction (content : String)
  | slackThread (content : String)
  | linearIssue (content : String)
  | linearNotification (content : String)
  | githubNotification (content : String)
  | googleMailThread (content : String)
  | googleCalendarEvent (content : String)
  | googleDriveComment (content : String)
  | webPage (content : String)
deriving DecidableEq, Repr

inductive ThirdPartyItemKind where
  | todoistItem
  | tickTickItem
  | slackReaction
  | slackThread
  | linearIssue
  | linearNotification
  | githubNotification
  | googleMailThread
  | googleCalendarEvent
  | googleDriveComment
  | webPage
deriving DecidableEq, Repr

def ThirdPartyItemKind.display : ThirdPartyItemKind → String
  | .todoistItem => "TodoistItem"
  | .tickTickItem => "TickTickItem"
  | .slackReaction => "SlackReaction"
  | .slackThread => "SlackThread"
  | .linearIssue => "LinearIssue"
  | .linearNotification => "LinearNotification"
  | .githubNotification => "GithubNotification"
  | .googleMailThread => "GoogleMailThread"
  | .googleCalendarEvent => "GoogleCalendarEvent"
  | .googleDriveComment => "GoogleDriveComment"
  | .webPage => "WebPage"

def ThirdPartyItemData.kind : ThirdPartyItemData → ThirdPartyItemKind
  | .todoistItem _ => .todoistItem
  | .tickTickItem _ => .tickTickItem
  | .slackReaction _ => .slackReaction
  | .slackThread _ => .slackThread
  | .linearIssue _ => .linearIssue
  | .linearNotification _ => .linearNotification
  | .githubNotification _ => .githubNotification
  | .googleMailThread _ => .googleMailThread
  | .googleCalendarEvent _ => .googleCalendarEvent
  | .googleDriveComment _ => .googleDriveComment
  | .webPage _ => .webPage

structure ThirdPartyItem where
  id : ThirdPartyItemId
  sourceId : String
  data : ThirdPartyItemData
  createdAt : DateTime
  updatedAt : DateTime
  userId : UserId
  integrationConnectionId : IntegrationConnectionId
  sourceItem : Option ThirdPartyItem
deriving Repr

def ThirdPartyItem.kind (item : ThirdPartyItem) : ThirdPartyItemKind := item.data.kind

end UniversalInbox
