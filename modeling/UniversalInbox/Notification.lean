import UniversalInbox.Task

/-! Notifications as the services see them. -/
namespace UniversalInbox

inductive NotificationStatus where
  | unread
  | read
  | deleted
  | unsubscribed
deriving DecidableEq, Repr

inductive NotificationSourceKind where
  | github
  | todoist
  | tickTick
  | linear
  | googleMail
  | googleCalendar
  | googleDrive
  | slack
  | api
deriving DecidableEq, Repr

def NotificationSourceKind.display : NotificationSourceKind → String
  | .github => "Github"
  | .todoist => "Todoist"
  | .tickTick => "TickTick"
  | .linear => "Linear"
  | .googleMail => "GoogleMail"
  | .googleCalendar => "GoogleCalendar"
  | .googleDrive => "GoogleDrive"
  | .slack => "Slack"
  | .api => "API"

structure Notification where
  id : NotificationId
  title : String
  status : NotificationStatus
  createdAt : DateTime
  updatedAt : DateTime
  lastReadAt : Option DateTime
  snoozedUntil : Option DateTime
  userId : UserId
  taskId : Option TaskId
  kind : NotificationSourceKind
  sourceItem : ThirdPartyItem
deriving Repr

/-- `PartialEq for Notification`: neither the identifier nor the timestamps other than
`last_read_at` are compared. -/
def Notification.eq (self other : Notification) : Bool :=
  self.title == other.title && self.status == other.status &&
    self.lastReadAt == other.lastReadAt && self.userId == other.userId &&
    self.taskId == other.taskId && self.kind == other.kind &&
    self.sourceItem.id == other.sourceItem.id

instance : BEq Notification := ⟨Notification.eq⟩

structure NotificationWithTask where
  id : NotificationId
  title : String
  status : NotificationStatus
  createdAt : DateTime
  updatedAt : DateTime
  lastReadAt : Option DateTime
  snoozedUntil : Option DateTime
  userId : UserId
  task : Option Task
  kind : NotificationSourceKind
  sourceItem : ThirdPartyItem
deriving Repr

structure NotificationPatch where
  status : Option NotificationStatus
  snoozedUntil : Option DateTime
  taskId : Option TaskId
deriving DecidableEq, Repr

/-- `*patch == Default::default()`. -/
def NotificationPatch.isDefault (patch : NotificationPatch) : Bool :=
  patch.status.isNone && patch.snoozedUntil.isNone && patch.taskId.isNone

end UniversalInbox
