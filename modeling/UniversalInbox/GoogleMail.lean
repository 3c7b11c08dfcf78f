import Mathlib.Data.List.DropRight
import UniversalInbox.Library.Results
import UniversalInbox.NotificationConversion

/-! Gmail threads: what a sync makes of those the user has unsubscribed from, the calendar events it
derives from invitations, and of every thread the notification. -/
namespace UniversalInbox.GoogleMail
open GoogleDrive (textContains)
open NotificationConversion (GoogleMailMessagePayload GoogleMailMessage GoogleCalendarEvent
  NotificationContent NotificationStamp convertedNow googleCalendarIntoNotification)
open Results (bind_eq_ok)

/-- A thread as Gmail returns it, with any number of messages. -/
structure GoogleMailThread where
  id : String
  userEmailAddress : String
  messages : List GoogleMailMessage

inductive MessageSelection where
  | first
  | last
deriving DecidableEq, Repr

def inboxLabel : String := "INBOX"

def unreadLabel : String := "UNREAD"

namespace GoogleMailThread
variable (thread : GoogleMailThread)

/-- The message at an index; `none` is a panic, as it is in the functions below. -/
def selected : MessageSelection → Option GoogleMailMessage
  | .first => thread.messages[0]?
  | .last => if thread.messages.length = 0 then none else thread.messages[thread.messages.length - 1]?

def getMessageHeader (selection : MessageSelection) (headerName : String) :
    Option (Option String) :=
  (thread.selected selection).map (·.getHeader headerName)

def isTaggedWith (labelId : String) (selection : Option MessageSelection) : Option Bool :=
  match selection with
  | some selection => (thread.selected selection).map (·.isTaggedWith labelId)
  | none => some (thread.messages.any (·.isTaggedWith labelId))

def removeLabels (labelsToRemove : List String) : GoogleMailThread :=
  { thread with
    messages := thread.messages.map fun message =>
      { message with
        labelIds := message.labelIds.map (·.filter fun label => !labelsToRemove.contains label) } }

def isLastMessageFromUser : Bool :=
  ((thread.messages.getLast?.bind (·.getHeader "From")).map
    (textContains · thread.userEmailAddress)).getD false

def firstUnreadMessageIndex : Option Nat :=
  thread.messages.findIdx? (·.isTaggedWith unreadLabel)

def lastReadAt : Option (Option DateTime) :=
  match thread.firstUnreadMessageIndex with
  | some i =>
    if i > 0 then (thread.messages[i - 1]?).map fun message => some message.internalDate
    else some none
  | none => (thread.selected .last).map fun message => some message.internalDate

/-- `third_party_item_into_notification`. -/
def intoNotification (stamp : NotificationStamp) : Option NotificationContent := do
  let title ← thread.getMessageHeader .first "Subject"
  let lastReadAt ← thread.lastReadAt
  let threadIsArchived := !(← thread.isTaggedWith inboxLabel none)
  let status : NotificationStatus ←
    if threadIsArchived then pure .unsubscribed
    else do
      let threadIsUnread ← thread.isTaggedWith unreadLabel none
      pure (if threadIsUnread then
        if thread.isLastMessageFromUser then .deleted else .unread
      else .read)
  return convertedNow stamp .googleMail (title.getD "No subject") status lastReadAt

end GoogleMailThread

/-- A call that changes the labels of a thread upstream. -/
structure ModifyThread where
  threadId : String
  labelsToAdd : List String
  labelsToRemove : List String
deriving DecidableEq, Repr

structure FetchedThread where
  thread : GoogleMailThread
  modified : Option ModifyThread

/-! A thread that starts with an invitation stands for the event of the invitation. -/

mutual

/-- The first in the tree of parts. -/
def findAttachmentIdForMimeType (mimeType : String) : GoogleMailMessagePayload → Option String
  | ⟨type, attachmentId, parts⟩ =>
    (if type = mimeType then attachmentId else none).or
      (findAttachmentIdForMimeTypeIn mimeType parts)

def findAttachmentIdForMimeTypeIn (mimeType : String) :
    List GoogleMailMessagePayload → Option String
  | [] => none
  | part :: parts =>
    (findAttachmentIdForMimeType mimeType part).or (findAttachmentIdForMimeTypeIn mimeType parts)

end

structure VcalProperty where
  name : String
  value : Option String

/-- The properties of its events. -/
structure Vcalendar where
  events : List (List VcalProperty)

/-- The connection that an access token belongs to. -/
inductive CalendarConnection where
  | googleCalendar (syncEventDetailsEnabled : Bool)
  | other (id : IntegrationConnectionId)

/-- How the calls that are made for an invitation are answered. -/
structure InvitationCalls where
  findAccessToken : Except UniversalInboxError (Option CalendarConnection)
  getAttachment : String → String → Except UniversalInboxError (Option String)
  decodeBase64 : String → Except UniversalInboxError String
  parseVcalendar : String → Except UniversalInboxError (Option Vcalendar)
  getEvent : String → Except UniversalInboxError GoogleCalendarEvent

/-- `derive_third_party_item_from_google_mail_invitation`. -/
def deriveFromInvitation (calls : InvitationCalls) (userId : UserId)
    (messageId attachmentId : String) : Except UniversalInboxError (Option GoogleCalendarEvent) := do
  match ← calls.findAccessToken with
  | none => throw (.unexpected
      s!"Cannot find Google Calendar access token for user `{userId.uuid}`")
  | some (.other id) => throw (.unexpected
      s!"Integration connection `{id.uuid}` provider is not a Google Calendar integration connection")
  | some (.googleCalendar false) => return none
  | some (.googleCalendar true) =>
    let some data ← calls.getAttachment messageId attachmentId | throw (.unexpected
      s!"No `body` found in Google Mail attachement for message `{messageId}`")
    let some vcal ← calls.parseVcalendar (← calls.decodeBase64 data) | throw (.unexpected
      "Failed to find VCalendar")
    let some vcalEvent := vcal.events.head? | throw (.unexpected "Failed to parse VCal events")
    let some uid := vcalEvent.findSome? fun property =>
        if property.name = "UID" then property.value else none
      | throw (.unexpected "Failed to parse VCal events")
    return some (← calls.getEvent uid)

/-- `derive_third_party_item_from_google_mail_thread`: what fails is only logged. -/
def deriveFromThread (calls : InvitationCalls) (userId : UserId) (thread : GoogleMailThread) :
    Option GoogleCalendarEvent :=
  match thread.messages.head? with
  | none => none
  | some message =>
    match findAttachmentIdForMimeType "text/calendar" message.payload with
    | none => none
    | some attachmentId =>
      (deriveFromInvitation calls userId message.id attachmentId).toOption.join

/-- The item of a thread, or the item of an event, whose source item is that of the thread. -/
structure FetchedItem extends FetchedThread where
  event : Option GoogleCalendarEvent

/-- Of an event the conversion of Google Calendar is used. -/
def FetchedItem.intoNotification (stamp : NotificationStamp) (item : FetchedItem) :
    Option NotificationContent :=
  match item.event with
  | some event => some (googleCalendarIntoNotification stamp event)
  | none => item.thread.intoNotification stamp

section Fetch
variable (syncedLabelId : String)

def hasDirectlyAddressedMessages (thread : GoogleMailThread) (i : Nat) : Bool :=
  (thread.messages.drop i).any fun message =>
    message.headers.any fun (name, value) =>
      name == "To" && textContains value thread.userEmailAddress

/-- The labels are removed here, and are to be removed upstream. -/
def cleared (thread : GoogleMailThread) : FetchedThread :=
  ⟨thread.removeLabels [inboxLabel, syncedLabelId],
    some ⟨thread.id, [], [inboxLabel, syncedLabelId]⟩⟩

/-- The loop of `fetch_items` for one thread, up to the call. -/
def clearLabels (existingStatus : Option NotificationStatus) (thread : GoogleMailThread) :
    FetchedThread :=
  if existingStatus = some .unsubscribed then
    match thread.firstUnreadMessageIndex with
    | some i =>
      if hasDirectlyAddressedMessages thread i then ⟨thread, none⟩ else cleared syncedLabelId thread
    | none => cleared syncedLabelId thread
  else ⟨thread, none⟩

/-- `modifyThread` is how Gmail answers, and the existing notification is found by the thread. -/
def fetchItems (modifyThread : ModifyThread → Except UniversalInboxError Unit)
    (invitationCalls : String → InvitationCalls) (userId : UserId)
    (existingStatus : String → Option NotificationStatus) :
    List GoogleMailThread → Except UniversalInboxError (List FetchedItem)
  | [] => return []
  | thread :: rest => do
    let fetched := clearLabels syncedLabelId (existingStatus thread.id) thread
    fetched.modified.forM modifyThread
    let event := deriveFromThread (invitationCalls thread.id) userId fetched.thread
    let others ← fetchItems modifyThread invitationCalls userId existingStatus rest
    return { fetched with event } :: others

end Fetch

namespace GoogleMailThread

/-- The messages before the first unread one. -/
def readMessages (thread : GoogleMailThread) : List GoogleMailMessage :=
  thread.messages.takeWhile fun message => !message.isTaggedWith unreadLabel

/-- The thread is converted, dated by the last message before the first unread one. -/
def Converts (thread : GoogleMailThread) (stamp : NotificationStamp) : Prop :=
  ∃ content, thread.intoNotification stamp = some content ∧
    content.lastReadAt = thread.readMessages.getLast?.map (·.internalDate)

section Conversion
variable {thread : GoogleMailThread} {stamp : NotificationStamp}

theorem selected_of_ne_nil (hmessages : thread.messages ≠ []) :
    thread.selected .first = some (thread.messages.head hmessages) ∧
      thread.selected .last = some (thread.messages.getLast hmessages) := by
  have hlength : thread.messages.length ≠ 0 := mt List.length_eq_zero_iff.mp hmessages
  constructor
  · unfold selected
    rw [← List.head?_eq_getElem?, List.head?_eq_some_head hmessages]
  · unfold selected
    dsimp only
    rw [if_neg hlength, ← List.getLast?_eq_getElem?, List.getLast?_eq_some_getLast hmessages]

/-- A thread with a message, as the syncs of the other modules have it. -/
def nonempty (thread : GoogleMailThread) (hmessages : thread.messages ≠ []) :
    NotificationConversion.GoogleMailThread :=
  ⟨thread.messages, thread.userEmailAddress, hmessages⟩

theorem lastReadAt_nonempty (hmessages : thread.messages ≠ []) :
    thread.lastReadAt = some (thread.nonempty hmessages).lastReadAt := by
  have hunread : "UNREAD" = unreadLabel := rfl
  unfold lastReadAt firstUnreadMessageIndex NotificationConversion.GoogleMailThread.lastReadAt
  dsimp only [nonempty]
  rw [hunread]
  cases hindex : thread.messages.findIdx? (·.isTaggedWith unreadLabel) with
  | none =>
    dsimp only
    rw [(selected_of_ne_nil hmessages).2]
    rfl
  | some i =>
    obtain ⟨hlength, -⟩ := List.findIdx?_eq_some_iff_findIdx_eq.mp hindex
    cases i with
    | zero => rfl
    | succ j =>
      dsimp only
      rw [if_pos (Nat.succ_pos j), Nat.add_sub_cancel,
        List.getElem?_eq_getElem (Nat.lt_of_succ_lt hlength)]
      rfl

theorem lastReadAt_readMessages (hmessages : thread.messages ≠ []) :
    (thread.nonempty hmessages).lastReadAt =
      thread.readMessages.getLast?.map (·.internalDate) := by
  have hunread : "UNREAD" = unreadLabel := rfl
  unfold NotificationConversion.GoogleMailThread.lastReadAt readMessages
  dsimp only [nonempty]
  rw [hunread, List.takeWhile_eq_take_findIdx_not]
  simp only [Bool.not_not]
  cases hindex : thread.messages.findIdx? (·.isTaggedWith unreadLabel) with
  | none =>
    rw [List.findIdx?_eq_none_iff_findIdx_eq.mp hindex, List.take_length,
      List.getLast?_eq_some_getLast hmessages]
    rfl
  | some i =>
    obtain ⟨hlength, hfind⟩ := List.findIdx?_eq_some_iff_findIdx_eq.mp hindex
    rw [hfind, List.getLast?_take]
    cases i with
    | zero => rfl
    | succ j =>
      dsimp only
      rw [if_neg (Nat.succ_ne_zero j), Nat.add_sub_cancel,
        List.getElem?_eq_getElem (Nat.lt_of_succ_lt hlength)]
      rfl

theorem isLastMessageFromUser_nonempty (hmessages : thread.messages ≠ []) :
    thread.isLastMessageFromUser = (thread.nonempty hmessages).isLastMessageFromUser := by
  unfold isLastMessageFromUser NotificationConversion.GoogleMailThread.isLastMessageFromUser
  rw [List.getLast?_eq_some_getLast hmessages, Option.bind_some]
  show _ = ((thread.messages.getLast hmessages).getHeader "From").any _
  cases (thread.messages.getLast hmessages).getHeader "From" <;> rfl

/-- The status of a converted thread. -/
def status (thread : GoogleMailThread) : NotificationStatus :=
  if !thread.messages.any (·.isTaggedWith inboxLabel) then .unsubscribed
  else if thread.messages.any (·.isTaggedWith unreadLabel) then
    if thread.isLastMessageFromUser then .deleted else .unread
  else .read

theorem intoNotification_eq {title : Option String} {lastReadAt : Option DateTime}
    (htitle : thread.getMessageHeader .first "Subject" = some title)
    (hlast : thread.lastReadAt = some lastReadAt) :
    thread.intoNotification stamp = some (convertedNow stamp .googleMail
      (title.getD "No subject") thread.status lastReadAt) := by
  unfold intoNotification isTaggedWith status
  rw [htitle, hlast]
  cases thread.messages.any (·.isTaggedWith inboxLabel) with
  | false => rfl
  | true => rfl

theorem getMessageHeader_first (hmessages : thread.messages ≠ []) (headerName : String) :
    thread.getMessageHeader .first headerName =
      some ((thread.messages.head hmessages).getHeader headerName) := by
  unfold getMessageHeader
  rw [(selected_of_ne_nil hmessages).1, Option.map_some]

/-- The subject is read off the first message, whether there is one or not. -/
theorem intoNotification_of_empty (hempty : thread.messages = []) :
    thread.intoNotification stamp = none := by
  have hpanics : thread.getMessageHeader .first "Subject" = none := by
    unfold getMessageHeader selected
    rw [hempty]
    rfl
  unfold intoNotification
  rw [hpanics]
  rfl

theorem intoNotification_nonempty (hmessages : thread.messages ≠ []) :
    thread.intoNotification stamp = some (NotificationConversion.googleMailIntoNotification stamp
      (thread.nonempty hmessages)) := by
  rw [intoNotification_eq (getMessageHeader_first hmessages _) (lastReadAt_nonempty hmessages)]
  unfold status
  rw [isLastMessageFromUser_nonempty hmessages]
  rfl

theorem status_of_intoNotification {content : NotificationContent}
    (hcontent : thread.intoNotification stamp = some content) : content.status = thread.status := by
  by_cases hempty : thread.messages = []
  · rw [intoNotification_of_empty hempty] at hcontent
    cases hcontent
  · rw [intoNotification_eq (getMessageHeader_first hempty _) (lastReadAt_nonempty hempty)]
      at hcontent
    cases hcontent
    rfl

/-- Whatever its messages, labels and headers. -/
theorem converts_iff (thread : GoogleMailThread) (stamp : NotificationStamp) :
    thread.Converts stamp ↔ thread.messages ≠ [] := by
  constructor
  · rintro ⟨content, hcontent, -⟩ hempty
    rw [intoNotification_of_empty hempty] at hcontent
    cases hcontent
  · intro hmessages
    exact ⟨_, intoNotification_nonempty hmessages, lastReadAt_readMessages hmessages⟩

/-- A thread without messages. -/
theorem emptyThread_not_converts :
    ¬ Converts ⟨"thread", "user@example.com", []⟩ ⟨⟨1⟩, 0, 0⟩ := by
  rintro ⟨content, hcontent, -⟩
  cases hcontent

end Conversion

end GoogleMailThread

/-! Whom a message is addressed to: the addresses of its `To` headers. -/

/-- The texts between the commas that stand outside quotes. -/
def mailboxes (quoted : Bool) : List Char → List (List Char)
  | [] => [[]]
  | c :: rest =>
    let later := mailboxes (if c = '"' then !quoted else quoted) rest
    if c = ',' ∧ quoted = false then [] :: later else (c :: later.headD []) :: later.tail

/-- What stands in angle brackets, or the whole text where there are none. -/
def address (mailbox : List Char) : List Char :=
  (((mailbox.rtakeWhile (· ≠ '<')).takeWhile (· ≠ '>')).dropWhile isWhitespace).rdropWhile
    isWhitespace

def addresses (value : String) : List String :=
  (mailboxes false value.toList).map fun mailbox => String.ofList (address mailbox)

def sameAddress (address other : String) : Bool :=
  address.toList.map Char.toLower == other.toList.map Char.toLower

namespace GoogleMailThread
variable (thread : GoogleMailThread)

/-- The messages from the first unread one on. -/
def unreadMessages : List GoogleMailMessage :=
  thread.messages.dropWhile fun message => !message.isTaggedWith unreadLabel

/-- Some `To` header from the first unread message on is as asked. -/
def Addressed (asked : String → Prop) : Prop :=
  ∃ message ∈ thread.unreadMessages, ∃ value, ("To", value) ∈ message.headers ∧ asked value

/-- The user is among the addressees, in letters of either case. -/
def AddressedToUser : Prop :=
  thread.Addressed fun value => ∃ address ∈ addresses value,
    sameAddress address thread.userEmailAddress = true

/-- The user is among the addressees, as the address is spelled. -/
def AddressedAsSpelled : Prop :=
  thread.Addressed fun value => thread.userEmailAddress ∈ addresses value

/-- The text of the address occurs, in letters of either case, be it within another address. -/
def Mentioned : Prop :=
  thread.Addressed fun value =>
    thread.userEmailAddress.toList.map Char.toLower <:+: value.toList.map Char.toLower

end GoogleMailThread

section Addresses
variable {quoted : Bool} {text mailbox : List Char} {value : String}

theorem prefix_of_headD_mailboxes : (mailboxes quoted text).headD [] <+: text := by
  induction text generalizing quoted with
  | nil => exact List.nil_prefix
  | cons c rest ih =>
    rw [mailboxes]
    split
    · exact List.nil_prefix
    · exact List.cons_prefix_cons.mpr ⟨rfl, ih⟩

theorem infix_of_mailbox (hmailbox : mailbox ∈ mailboxes quoted text) : mailbox <:+: text := by
  induction text generalizing quoted with
  | nil => exact List.mem_singleton.mp hmailbox ▸ List.infix_rfl
  | cons c rest ih =>
    rw [mailboxes] at hmailbox
    split at hmailbox
    · rcases List.mem_cons.mp hmailbox with rfl | hlater
      · exact List.nil_infix
      · exact (ih hlater).trans (List.suffix_cons c rest).isInfix
    · rcases List.mem_cons.mp hmailbox with rfl | hlater
      · exact (List.cons_prefix_cons.mpr ⟨rfl, prefix_of_headD_mailboxes⟩).isInfix
      · exact (ih (List.mem_of_mem_tail hlater)).trans (List.suffix_cons c rest).isInfix

theorem infix_of_address (mailbox : List Char) : address mailbox <:+: mailbox :=
  (List.rdropWhile_prefix _ _).isInfix.trans <| (List.dropWhile_suffix _).isInfix.trans <|
    (List.takeWhile_prefix _).isInfix.trans (List.rtakeWhile_suffix _ _).isInfix

/-- An address of a header is found in its text. -/
theorem contains_of_mem_addresses {address : String} (haddress : address ∈ addresses value) :
    textContains value address = true := by
  obtain ⟨mailbox, hmailbox, rfl⟩ := List.mem_map.mp haddress
  unfold textContains
  rw [decide_eq_true_eq, String.toList_ofList]
  exact (infix_of_address mailbox).trans (infix_of_mailbox hmailbox)

end Addresses

section Unsubscribed
variable {syncedLabelId : String} {thread : GoogleMailThread} {stamp : NotificationStamp}

open GoogleMailThread

theorem addressed_imp {asked asked' : String → Prop} (himp : ∀ value, asked value → asked' value)
    (h : thread.Addressed asked) : thread.Addressed asked' := by
  obtain ⟨message, hmessage, value, hvalue, hasked⟩ := h
  exact ⟨message, hmessage, value, hvalue, himp value hasked⟩

/-- What `fetch_items` looks for: the text of the address, as it is spelled. -/
theorem hasDirectlyAddressedMessages_iff {i : Nat}
    (hindex : thread.firstUnreadMessageIndex = some i) :
    hasDirectlyAddressedMessages thread i = true ↔
      thread.Addressed (textContains · thread.userEmailAddress = true) := by
  obtain ⟨-, hfind⟩ := List.findIdx?_eq_some_iff_findIdx_eq.mp hindex
  have hunread : thread.unreadMessages = thread.messages.drop i := by
    unfold unreadMessages
    rw [List.dropWhile_eq_drop_findIdx_not]
    simp only [Bool.not_not]
    rw [hfind]
  unfold hasDirectlyAddressedMessages Addressed
  rw [hunread]
  simp only [List.any_eq_true, Bool.and_eq_true, beq_iff_eq, Prod.exists]
  constructor
  · rintro ⟨message, hmessage, name, value, hheader, rfl, hcontains⟩
    exact ⟨message, hmessage, value, hheader, hcontains⟩
  · rintro ⟨message, hmessage, value, hheader, hcontains⟩
    exact ⟨message, hmessage, "To", value, hheader, rfl, hcontains⟩

theorem unreadMessages_of_none (hindex : thread.firstUnreadMessageIndex = none) :
    thread.unreadMessages = [] := by
  refine List.dropWhile_eq_nil_iff.mpr fun message hmessage => ?_
  rw [List.findIdx?_eq_none_iff.mp hindex message hmessage]
  rfl

theorem clearLabels_of_contains
    (hcontains : thread.Addressed (textContains · thread.userEmailAddress = true)) :
    clearLabels syncedLabelId (some .unsubscribed) thread = ⟨thread, none⟩ := by
  unfold clearLabels
  rw [if_pos rfl]
  cases hindex : thread.firstUnreadMessageIndex with
  | none =>
    obtain ⟨message, hmessage, -⟩ := hcontains
    rw [unreadMessages_of_none hindex] at hmessage
    cases hmessage
  | some i =>
    dsimp only
    rw [if_pos ((hasDirectlyAddressedMessages_iff hindex).mpr hcontains)]

theorem clearLabels_of_not_contains
    (hcontains : ¬ thread.Addressed (textContains · thread.userEmailAddress = true)) :
    clearLabels syncedLabelId (some .unsubscribed) thread = cleared syncedLabelId thread := by
  unfold clearLabels
  rw [if_pos rfl]
  cases hindex : thread.firstUnreadMessageIndex with
  | none => rfl
  | some i =>
    dsimp only
    rw [if_neg (mt (hasDirectlyAddressedMessages_iff hindex).mp hcontains)]

/-- A label that is removed is on no message. -/
theorem isTaggedWith_removeLabels {label : String} {labels : List String} (hlabel : label ∈ labels) :
    (thread.removeLabels labels).messages.any (·.isTaggedWith label) = false := by
  refine List.any_eq_false.mpr fun message hmessage => ?_
  obtain ⟨original, -, rfl⟩ := List.mem_map.mp hmessage
  unfold GoogleMailMessage.isTaggedWith
  cases original.labelIds with
  | none => exact Bool.false_ne_true
  | some labelIds =>
    rw [Option.map_some, Option.any_some, List.contains_iff_mem, List.mem_filter]
    rintro ⟨-, hkept⟩
    rw [List.contains_iff_mem.mpr hlabel] at hkept
    cases hkept

theorem status_eq_unsubscribed_iff :
    thread.status = .unsubscribed ↔
      thread.messages.any (·.isTaggedWith inboxLabel) = false := by
  unfold status
  cases thread.messages.any (·.isTaggedWith inboxLabel) with
  | false => exact ⟨fun _ => rfl, fun _ => rfl⟩
  | true =>
    refine ⟨fun h => ?_, nofun⟩
    rw [if_neg (by decide)] at h
    split at h
    · split at h <;> cases h
    · cases h

end Unsubscribed

/-- A thread comes back from `Unsubscribed` just in case it is addressed to the user, whole address
by whole address; if not, it loses its labels here and upstream. -/
structure OnlyAddressedComesBack (syncedLabelId : String) (thread : GoogleMailThread)
    (fetched : FetchedItem) (stamp : NotificationStamp) : Prop where
  comesBack : (∃ content, fetched.intoNotification stamp = some content ∧
    content.status ≠ .unsubscribed) ↔ thread.AddressedToUser
  cleared : ¬ thread.AddressedToUser → fetched.toFetchedThread = cleared syncedLabelId thread

/-- What becomes of an unsubscribed thread. Where it is addressed to the user it keeps its labels,
and is unsubscribed only if it is archived; where the address occurs in no header it loses them. A
thread that starts with an invitation is no notification of its own, that of its event is read or
unread. -/
structure AddressedComesBack (syncedLabelId : String)
    (modifyThread : ModifyThread → Except UniversalInboxError Unit) (calls : InvitationCalls)
    (userId : UserId) (thread : GoogleMailThread) (fetched : FetchedItem)
    (stamp : NotificationStamp) : Prop where
  addressed : thread.AddressedAsSpelled → fetched.toFetchedThread = ⟨thread, none⟩ ∧
    (fetched.event = none → ∀ content, fetched.intoNotification stamp = some content →
      (content.status ≠ .unsubscribed ↔
        thread.messages.any (·.isTaggedWith inboxLabel) = true))
  unmentioned : ¬ thread.Mentioned → fetched.toFetchedThread = cleared syncedLabelId thread ∧
    modifyThread ⟨thread.id, [], [inboxLabel, syncedLabelId]⟩ = .ok () ∧
    (fetched.event = none → ∀ content, fetched.intoNotification stamp = some content →
      content.status = .unsubscribed)
  event : fetched.event = deriveFromThread calls userId thread
  invited : ∀ event ∈ fetched.event, ∃ content, fetched.intoNotification stamp = some content ∧
    content.kind = .googleCalendar ∧ (content.status = .read ∨ content.status = .unread)

section Sync
variable {syncedLabelId : String} {modifyThread : ModifyThread → Except UniversalInboxError Unit}
  {invitationCalls : String → InvitationCalls} {calls : InvitationCalls} {userId : UserId}
  {existingStatus : String → Option NotificationStatus} {thread : GoogleMailThread}
  {threads : List GoogleMailThread} {fetched : List FetchedItem} {item : FetchedItem}
  {stamp : NotificationStamp}

open GoogleMailThread

/-- The payload and the identifier of a message are no labels. -/
theorem deriveFromThread_removeLabels (labels : List String) :
    deriveFromThread calls userId (thread.removeLabels labels) =
      deriveFromThread calls userId thread := by
  unfold deriveFromThread removeLabels
  dsimp only
  rw [List.head?_map]
  cases thread.messages.head? with
  | none => rfl
  | some message => rfl

theorem deriveFromThread_clearLabels (status : Option NotificationStatus) :
    deriveFromThread calls userId (clearLabels syncedLabelId status thread).thread =
      deriveFromThread calls userId thread := by
  unfold clearLabels
  split
  · split
    · split
      · rfl
      · exact deriveFromThread_removeLabels _
    · exact deriveFromThread_removeLabels _
  · rfl

/-- A sync that ends well has handled each thread, and Gmail has accepted each of its calls. -/
theorem fetchItems_ok (hok : fetchItems syncedLabelId modifyThread invitationCalls userId
    existingStatus threads = .ok fetched) :
    List.Forall₂ (fun thread item =>
      item.toFetchedThread = clearLabels syncedLabelId (existingStatus thread.id) thread ∧
        item.event = deriveFromThread (invitationCalls thread.id) userId thread ∧
        ∀ call ∈ item.modified, modifyThread call = .ok ()) threads fetched := by
  induction threads generalizing fetched with
  | nil =>
    cases hok
    exact .nil
  | cons thread rest ih =>
    unfold fetchItems at hok
    obtain ⟨⟨⟩, hcall, hothers⟩ := bind_eq_ok.mp hok
    obtain ⟨others, hrest, hfetched⟩ := bind_eq_ok.mp hothers
    cases hfetched
    refine .cons ⟨rfl, deriveFromThread_clearLabels _, fun call hmodified => ?_⟩ (ih hrest)
    rw [Option.mem_def] at hmodified
    rw [hmodified] at hcall
    exact hcall

/-- The user's answer to an invitation never unsubscribes. -/
theorem status_googleCalendarIntoNotification (event : GoogleCalendarEvent) :
    (googleCalendarIntoNotification stamp event).status = .read ∨
      (googleCalendarIntoNotification stamp event).status = .unread := by
  unfold googleCalendarIntoNotification convertedNow
  dsimp only
  split
  · exact .inl rfl
  · exact .inl rfl
  · exact .inr rfl
  · exact .inr rfl
  · exact .inr rfl

theorem intoNotification_of_event_eq_none (hevent : item.event = none) :
    item.intoNotification stamp = item.thread.intoNotification stamp := by
  unfold FetchedItem.intoNotification
  rw [hevent]

theorem addressedComesBack_of_cleared
    (hitem : item.toFetchedThread = clearLabels syncedLabelId (some .unsubscribed) thread)
    (hevent : item.event = deriveFromThread calls userId thread)
    (hcalls : ∀ call ∈ item.modified, modifyThread call = .ok ()) :
    AddressedComesBack syncedLabelId modifyThread calls userId thread item stamp where
  addressed haddressed := by
    have hcontains : thread.Addressed (textContains · thread.userEmailAddress = true) :=
      addressed_imp (fun _ => contains_of_mem_addresses) haddressed
    rw [clearLabels_of_contains hcontains] at hitem
    refine ⟨hitem, fun hnone content hcontent => ?_⟩
    rw [intoNotification_of_event_eq_none hnone, hitem] at hcontent
    rw [status_of_intoNotification hcontent, ne_eq, status_eq_unsubscribed_iff,
      Bool.not_eq_false]
  unmentioned hunmentioned := by
    have hcontains : ¬ thread.Addressed (textContains · thread.userEmailAddress = true) :=
      fun h => hunmentioned (addressed_imp
        (fun _ hvalue => (of_decide_eq_true hvalue).map Char.toLower) h)
    rw [clearLabels_of_not_contains hcontains] at hitem
    rw [hitem] at hcalls
    refine ⟨hitem, hcalls _ rfl, fun hnone content hcontent => ?_⟩
    rw [intoNotification_of_event_eq_none hnone, hitem] at hcontent
    rw [status_of_intoNotification hcontent, status_eq_unsubscribed_iff]
    exact isTaggedWith_removeLabels List.mem_cons_self
  event := hevent
  invited event hsome := by
    refine ⟨googleCalendarIntoNotification stamp event, ?_, rfl,
      status_googleCalendarIntoNotification event⟩
    unfold FetchedItem.intoNotification
    rw [Option.mem_def.mp hsome]

/-- Every thread of a sync whose notification is unsubscribed. -/
theorem addressedComesBack_of_sync (syncedLabelId : String)
    (modifyThread : ModifyThread → Except UniversalInboxError Unit)
    (invitationCalls : String → InvitationCalls) (userId : UserId)
    (existingStatus : String → Option NotificationStatus) (threads : List GoogleMailThread)
    (fetched : List FetchedItem) (stamp : NotificationStamp)
    (hok : fetchItems syncedLabelId modifyThread invitationCalls userId existingStatus threads =
      .ok fetched) :
    List.Forall₂ (fun thread item => existingStatus thread.id = some .unsubscribed →
      AddressedComesBack syncedLabelId modifyThread (invitationCalls thread.id) userId thread item
        stamp) threads fetched := by
  refine (fetchItems_ok hok).imp ?_
  rintro thread item ⟨hitem, hevent, hcalls⟩ hunsubscribed
  rw [hunsubscribed] at hitem
  exact addressedComesBack_of_cleared hitem hevent hcalls

end Sync

/-- A thread of one unread message. -/
def unreadThread (recipient : String) (labels : List String)
    (parts : List GoogleMailMessagePayload) : GoogleMailThread :=
  ⟨"thread", "user@example.com", [{
    id := "message"
    internalDate := 0
    labelIds := some (unreadLabel :: labels)
    headers := [("To", recipient)]
    payload := ⟨"multipart/mixed", none, parts⟩ }]⟩

/-- The calendar holds one event, to which the user has not answered. -/
def weeklyCalls : InvitationCalls where
  findAccessToken := .ok (some (.googleCalendar true))
  getAttachment _ _ := .ok (some "QkVHSU4=")
  decodeBase64 _ := .ok "BEGIN"
  parseVcalendar _ := .ok (some ⟨[[⟨"UID", some "weekly"⟩]]⟩)
  getEvent _ := .ok ⟨"Weekly", [⟨some true, .needsAction⟩]⟩

def invitation : List GoogleMailMessagePayload := [⟨"text/html", none, []⟩,
  ⟨"text/calendar", some "attachment", []⟩]

/-- A thread for the user, one for a list and an invitation, all of them in the inbox. -/
theorem inboxThreads_addressedComesBack :
    List.Forall₂ (fun thread item => some NotificationStatus.unsubscribed = some .unsubscribed →
        AddressedComesBack "Label_1" (fun _ => .ok ()) weeklyCalls ⟨1⟩ thread item ⟨⟨1⟩, 0, 0⟩)
      [unreadThread "User <user@example.com>" ["INBOX", "Label_1"] [],
        unreadThread "list@example.com" ["INBOX", "Label_1"] [],
        unreadThread "user@example.com" ["INBOX", "Label_1"] invitation]
      [⟨⟨unreadThread "User <user@example.com>" ["INBOX", "Label_1"] [], none⟩, none⟩,
        ⟨⟨unreadThread "list@example.com" [] [], some ⟨"thread", [], ["INBOX", "Label_1"]⟩⟩, none⟩,
        ⟨⟨unreadThread "user@example.com" ["INBOX", "Label_1"] invitation, none⟩,
          some ⟨"Weekly", [⟨some true, .needsAction⟩]⟩⟩] :=
  addressedComesBack_of_sync "Label_1" (fun _ => .ok ()) (fun _ => weeklyCalls) ⟨1⟩
    (fun _ => some .unsubscribed) _ _ _ rfl

/-- The user has archived a thread that is addressed to them: it keeps its labels, and the
notification is unsubscribed. -/
theorem archivedThread_not_comesBack :
    let thread := unreadThread "User <user@example.com>" ["Label_1"] []
    fetchItems "Label_1" (fun _ => .ok ()) (fun _ => weeklyCalls) ⟨1⟩ (fun _ => some .unsubscribed)
        [thread] = .ok [⟨⟨thread, none⟩, none⟩] ∧
      ¬ OnlyAddressedComesBack "Label_1" thread ⟨⟨thread, none⟩, none⟩ ⟨⟨1⟩, 0, 0⟩ := by
  refine ⟨rfl, fun honly => ?_⟩
  have haddressed : (unreadThread "User <user@example.com>" ["Label_1"] []).AddressedToUser :=
    ⟨_, List.mem_cons_self, _, List.mem_cons_self, "user@example.com", by decide +kernel,
      by decide +kernel⟩
  obtain ⟨content, hcontent, hstatus⟩ := honly.comesBack.mpr haddressed
  exact hstatus (GoogleMailThread.status_of_intoNotification hcontent)

end UniversalInbox.GoogleMail
