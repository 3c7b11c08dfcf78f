import UniversalInbox.GoogleDrive
import UniversalInbox.NotificationUpsert
import UniversalInbox.TodoistSync

/-! What each source makes of its items: the notification that a sync saves. -/
namespace UniversalInbox.NotificationConversion
open GoogleDrive NotificationUpsert
open TodoistSync (wholeSeconds)

structure GithubNotification where
  title : String
  unread : Bool
  lastReadAt : Option DateTime
deriving DecidableEq, Repr

structure LinearIssue where
  id : String
  title : String
deriving DecidableEq, Repr

inductive LinearNotification where
  | issueNotification (readAt snoozedUntilAt : Option DateTime) (issue : LinearIssue)
  | projectNotification (readAt snoozedUntilAt : Option DateTime) (projectName : String)
deriving DecidableEq, Repr

def LinearNotification.getIssueId : LinearNotification → Option String
  | .issueNotification _ _ issue => some issue.id
  | .projectNotification _ _ _ => none

/-- A payload and the parts it nests; headers are read of the outermost one only. -/
structure GoogleMailMessagePayload where
  mimeType : String
  attachmentId : Option String
  parts : List GoogleMailMessagePayload

structure GoogleMailMessage where
  id : String
  internalDate : DateTime
  labelIds : Option (List String)
  headers : List (String × String)
  payload : GoogleMailMessagePayload

def GoogleMailMessage.getHeader (message : GoogleMailMessage) (name : String) : Option String :=
  message.headers.lookup name

def GoogleMailMessage.isTaggedWith (message : GoogleMailMessage) (labelId : String) : Bool :=
  message.labelIds.any (·.contains labelId)

/-- A thread has a message. -/
structure GoogleMailThread where
  messages : List GoogleMailMessage
  userEmailAddress : String
  nonempty : messages ≠ []

namespace GoogleMailThread

def isTaggedWith (thread : GoogleMailThread) (labelId : String) : Bool :=
  thread.messages.any (·.isTaggedWith labelId)

def isLastMessageFromUser (thread : GoogleMailThread) : Bool :=
  ((thread.messages.getLast thread.nonempty).getHeader "From").any
    (textContains · thread.userEmailAddress)

/-- The date of the message before the first unread one, or of the last one. -/
def lastReadAt (thread : GoogleMailThread) : Option DateTime :=
  match thread.messages.findIdx? (·.isTaggedWith "UNREAD") with
  | some 0 => none
  | some (i + 1) => thread.messages[i]?.map (·.internalDate)
  | none => some (thread.messages.getLast thread.nonempty).internalDate

end GoogleMailThread

inductive GoogleCalendarEventAttendeeResponseStatus where
  | accepted
  | tentative
  | declined
  | needsAction
deriving DecidableEq, Repr

structure GoogleCalendarEventAttendee where
  self : Option Bool
  responseStatus : GoogleCalendarEventAttendeeResponseStatus
deriving DecidableEq, Repr

structure GoogleCalendarEvent where
  summary : String
  attendees : List GoogleCalendarEventAttendee
deriving DecidableEq, Repr

structure SlackMessage where
  ts : String
  senderUser : Option String
deriving DecidableEq, Repr

/-- `renderedTitle` is what formatting the first unread message gives. -/
structure SlackThread where
  renderedTitle : String
  messages : List SlackMessage
  subscribed : Bool
  lastRead : Option String
  userSlackId : Option String
  nonempty : messages ≠ []

def SlackThread.isLastMessageFromUser (thread : SlackThread) : Bool :=
  thread.userSlackId.any fun userSlackId =>
    (thread.messages.getLast thread.nonempty).senderUser == some userSlackId

/-- The identifier and the two clock readings of a converted notification. -/
structure NotificationStamp where
  id : NotificationId
  createdAt : DateTime
  updatedAt : DateTime
deriving DecidableEq, Repr

/-- What a conversion gives, but for what it takes from the item; the task is always none. -/
structure NotificationContent where
  title : String
  status : NotificationStatus
  createdAt : DateTime
  updatedAt : DateTime
  lastReadAt : Option DateTime
  snoozedUntil : Option DateTime
  kind : NotificationSourceKind
  updateSnoozedUntil : Bool
deriving DecidableEq, Repr

section Conversions
variable (stamp : NotificationStamp)

/-- Most conversions are dated when they are made, and only Linear snoozes. -/
def convertedNow (kind : NotificationSourceKind) (title : String) (status : NotificationStatus)
    (lastReadAt : Option DateTime) : NotificationContent :=
  { title
    status
    createdAt := wholeSeconds stamp.createdAt
    updatedAt := wholeSeconds stamp.updatedAt
    lastReadAt
    snoozedUntil := none
    kind
    updateSnoozedUntil := false }

def githubIntoNotification (source : GithubNotification) : NotificationContent :=
  convertedNow stamp .github source.title (if source.unread then .unread else .read)
    source.lastReadAt

def linearIntoNotification (source : LinearNotification) : NotificationContent :=
  match source with
  | .issueNotification readAt snoozedUntilAt issue =>
    { convertedNow stamp .linear issue.title (if readAt.isSome then .read else .unread) readAt with
      snoozedUntil := snoozedUntilAt
      updateSnoozedUntil := true }
  | .projectNotification readAt snoozedUntilAt projectName =>
    { convertedNow stamp .linear projectName (if readAt.isSome then .read else .unread) readAt with
      snoozedUntil := snoozedUntilAt
      updateSnoozedUntil := true }

def googleMailIntoNotification (source : GoogleMailThread) : NotificationContent :=
  let title := ((source.messages.head source.nonempty).getHeader "Subject").getD "No subject"
  let status : NotificationStatus :=
    if !source.isTaggedWith "INBOX" then .unsubscribed
    else if source.isTaggedWith "UNREAD" then
      if source.isLastMessageFromUser then .deleted else .unread
    else .read
  convertedNow stamp .googleMail title status source.lastReadAt

def googleCalendarIntoNotification (source : GoogleCalendarEvent) : NotificationContent :=
  let userResponseStatus : Option GoogleCalendarEventAttendeeResponseStatus :=
    source.attendees.findSome? fun attendee =>
      if attendee.self.getD false then some attendee.responseStatus else none
  let status : NotificationStatus :=
    match userResponseStatus with
    | some .accepted | some .declined => .read
    | some .tentative | some .needsAction | none => .unread
  convertedNow stamp .googleCalendar source.summary status none

/-- Dated by the comment. -/
def googleDriveIntoNotification (source : GoogleDriveComment) : NotificationContent :=
  { title := s!"Comment by {source.author.displayName} on {source.fileName}"
    status := intoStatus source
    createdAt := source.createdTime
    updatedAt := source.modifiedTime
    lastReadAt := none
    snoozedUntil := none
    kind := .googleDrive
    updateSnoozedUntil := false }

def slackIntoNotification (source : SlackThread) : NotificationContent :=
  let status : NotificationStatus :=
    if !source.subscribed then .unsubscribed
    else if source.isLastMessageFromUser then .deleted
    else if source.lastRead == some (source.messages.getLast source.nonempty).ts then .deleted
    else .unread
  convertedNow stamp .slack source.renderedTitle status none

/-- What the serialized content of an item holds. -/
structure Codec where
  github : String → GithubNotification
  linear : String → LinearNotification
  googleMail : String → GoogleMailThread
  googleCalendar : String → GoogleCalendarEvent
  googleDrive : String → GoogleDriveComment
  slack : String → SlackThread

/-- The conversion of an item, of the kinds that notification syncs fetch. -/
def thirdPartyItemIntoNotification (codec : Codec) : ThirdPartyItemData → Option NotificationContent
  | .githubNotification content => some (githubIntoNotification stamp (codec.github content))
  | .linearNotification content => some (linearIntoNotification stamp (codec.linear content))
  | .googleMailThread content => some (googleMailIntoNotification stamp (codec.googleMail content))
  | .googleCalendarEvent content =>
    some (googleCalendarIntoNotification stamp (codec.googleCalendar content))
  | .googleDriveComment content => some (googleDriveIntoNotification (codec.googleDrive content))
  | .slackThread content => some (slackIntoNotification stamp (codec.slack content))
  | .todoistItem _ | .tickTickItem _ | .slackReaction _ | .linearIssue _ | .webPage _ => none

end Conversions

/-- The notification that is saved of an item. -/
def NotificationContent.request (content : NotificationContent) (id : NotificationId)
    (sourceItem : ThirdPartyItem) (userId : UserId) : UpsertRequest :=
  { notification :=
      { id
        title := content.title
        status := content.status
        createdAt := content.createdAt
        updatedAt := content.updatedAt
        lastReadAt := content.lastReadAt
        snoozedUntil := content.snoozedUntil
        userId
        taskId := none
        kind := content.kind
        sourceItem }
    kind := content.kind
    updateSnoozedUntil := content.updateSnoozedUntil
    kind_eq := rfl }

/-- Two conversions of one content differ in their dates at most. -/
structure SameConversion (content other : NotificationContent) : Prop where
  title : content.title = other.title
  status : content.status = other.status
  lastReadAt : content.lastReadAt = other.lastReadAt
  snoozedUntil : content.snoozedUntil = other.snoozedUntil
  kind : content.kind = other.kind
  updateSnoozedUntil : content.updateSnoozedUntil = other.updateSnoozedUntil

theorem sameConversion_of_data {stamp stamp' : NotificationStamp} {codec : Codec}
    {data : ThirdPartyItemData} {content : NotificationContent}
    (h : thirdPartyItemIntoNotification stamp codec data = some content) :
    ∃ other, thirdPartyItemIntoNotification stamp' codec data = some other ∧
      SameConversion content other := by
  cases data with
  | githubNotification source =>
    cases h
    exact ⟨_, rfl, rfl, rfl, rfl, rfl, rfl, rfl⟩
  | linearNotification source =>
    cases h
    refine ⟨_, rfl, ?_⟩
    unfold linearIntoNotification
    cases codec.linear source <;> exact ⟨rfl, rfl, rfl, rfl, rfl, rfl⟩
  | googleMailThread source =>
    cases h
    exact ⟨_, rfl, rfl, rfl, rfl, rfl, rfl, rfl⟩
  | googleCalendarEvent source =>
    cases h
    exact ⟨_, rfl, rfl, rfl, rfl, rfl, rfl, rfl⟩
  | googleDriveComment source =>
    cases h
    exact ⟨_, rfl, rfl, rfl, rfl, rfl, rfl, rfl⟩
  | slackThread source =>
    cases h
    exact ⟨_, rfl, rfl, rfl, rfl, rfl, rfl, rfl⟩
  | todoistItem _ | tickTickItem _ | slackReaction _ | linearIssue _ | webPage _ => cases h

end UniversalInbox.NotificationConversion
