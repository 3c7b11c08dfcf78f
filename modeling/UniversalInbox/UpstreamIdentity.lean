import UniversalInbox.ReactionEvents
import UniversalInbox.SlackSubscription

/-! What an object of a provider is known by here. The identifier is computed from its payload, by
kind; with the kind, the user and the connection it is the key of every upsert. -/
namespace UniversalInbox.UpstreamIdentity
open GoogleDrive (GoogleDriveComment)
open NotificationConversion (SlackThread)
open NotificationUpsert ReactionEvents TaskUpsert
open ThirdPartyItemUpsert (createOrUpdateThirdPartyItem storedItem storedItem_eq_some saved_of_upsert)
open TodoistSync (Account Stamp wholeSeconds)

structure WebPage where
  url : String
  title : String
  timestamp : DateTime
  source : String
  favicon : Option String
deriving DecidableEq, Repr

/-- What a provider returns of an object; `content` is the rest of the payload, which no identifier
is computed from. -/
inductive Payload where
  | todoistItem (item : TodoistItem)
  | tickTickItem (id content : String)
  | slackReaction (reaction : SlackReaction)
  | slackThread (channelId : String) (thread : SlackThread)
  | linearIssue (id content : String)
  | linearNotification (id content : String)
  | githubNotification (id content : String)
  | googleMailThread (id content : String)
  | googleCalendarEvent (id content : String)
  | googleDriveComment (comment : GoogleDriveComment)
  | webPage (page : WebPage)

/-- What the provider knows the object by: a message by its channel and its timestamp, a comment by
its file and its identifier. -/
inductive UpstreamObject where
  | todoistItem (id : String)
  | tickTickItem (id : String)
  | slackMessage (channelId ts : String)
  | slackFile (id : String)
  | slackThread (channelId ts : String)
  | linearIssue (id : String)
  | linearNotification (id : String)
  | githubNotification (id : String)
  | googleMailThread (id : String)
  | googleCalendarEvent (id : String)
  | googleDriveComment (fileId commentId : String)
  | webPage (url : String)
deriving DecidableEq, Repr

/-- The hash of an URL by the default hasher, which is not specified, and how payloads are
serialized. -/
structure Encoding where
  hash : String → UInt64
  content : Payload → String

/-- The hash in hexadecimal. -/
def WebPage.sourceId (hash : String → UInt64) (page : WebPage) : String :=
  String.ofList (Nat.toDigits 16 (hash page.url).toNat)

namespace Payload

def upstream : Payload → UpstreamObject
  | .todoistItem item => .todoistItem item.id
  | .tickTickItem id _ => .tickTickItem id
  | .slackReaction reaction =>
    match reaction.item with
    | .slackMessage message => .slackMessage message.channelId message.ts
    | .slackFile file => .slackFile file.id
  | .slackThread channelId thread =>
    .slackThread channelId (thread.messages.head thread.nonempty).ts
  | .linearIssue id _ => .linearIssue id
  | .linearNotification id _ => .linearNotification id
  | .githubNotification id _ => .githubNotification id
  | .googleMailThread id _ => .googleMailThread id
  | .googleCalendarEvent id _ => .googleCalendarEvent id
  | .googleDriveComment comment => .googleDriveComment comment.fileId comment.id
  | .webPage page => .webPage page.url

section Source
variable (encoding : Encoding)

def sourceId : Payload → String
  | .todoistItem item => item.id
  | .slackReaction reaction => reaction.item.id
  | .slackThread _ thread => SlackSubscription.SlackThread.sourceId thread
  | .googleDriveComment comment => comment.sourceId
  | .webPage page => page.sourceId encoding.hash
  | .tickTickItem id _ | .linearIssue id _ | .linearNotification id _ | .githubNotification id _
  | .googleMailThread id _ | .googleCalendarEvent id _ => id

def data (payload : Payload) : ThirdPartyItemData :=
  match payload with
  | .todoistItem item => .todoistItem item
  | .tickTickItem _ _ => .tickTickItem (encoding.content payload)
  | .slackReaction _ => .slackReaction (encoding.content payload)
  | .slackThread _ _ => .slackThread (encoding.content payload)
  | .linearIssue _ _ => .linearIssue (encoding.content payload)
  | .linearNotification _ _ => .linearNotification (encoding.content payload)
  | .githubNotification _ _ => .githubNotification (encoding.content payload)
  | .googleMailThread _ _ => .googleMailThread (encoding.content payload)
  | .googleCalendarEvent _ _ => .googleCalendarEvent (encoding.content payload)
  | .googleDriveComment _ => .googleDriveComment (encoding.content payload)
  | .webPage _ => .webPage (encoding.content payload)

/-- A comment is dated to the nanosecond. -/
def dated (payload : Payload) (now : DateTime) : DateTime :=
  match payload with
  | .googleDriveComment _ => now
  | _ => wholeSeconds now

def intoThirdPartyItem (payload : Payload) (account : Account) (stamp : Stamp) : ThirdPartyItem :=
  { id := stamp.id
    sourceId := payload.sourceId encoding
    data := payload.data encoding
    createdAt := payload.dated stamp.createdAt
    updatedAt := payload.dated stamp.updatedAt
    userId := account.userId
    integrationConnectionId := account.integrationConnectionId
    sourceItem := none }

end Source

def kind : Payload → ThirdPartyItemKind
  | .todoistItem _ => .todoistItem
  | .tickTickItem _ _ => .tickTickItem
  | .slackReaction _ => .slackReaction
  | .slackThread _ _ => .slackThread
  | .linearIssue _ _ => .linearIssue
  | .linearNotification _ _ => .linearNotification
  | .githubNotification _ _ => .githubNotification
  | .googleMailThread _ _ => .googleMailThread
  | .googleCalendarEvent _ _ => .googleCalendarEvent
  | .googleDriveComment _ => .googleDriveComment
  | .webPage _ => .webPage

end Payload

/-- What an object is looked for by. -/
def Payload.identity (encoding : Encoding) (payload : Payload) (account : Account) : ItemIdentity :=
  ⟨payload.sourceId encoding, payload.kind, account.userId, account.integrationConnectionId⟩

/-- Two objects of a kind that the identifiers tell apart: the channel of a message is not in its
identifier, nor the URL of a page but its hash. -/
def ToldApart (hash : String → UInt64) : UpstreamObject → UpstreamObject → Prop
  | .slackMessage _ ts, .slackMessage _ ts' => ts ≠ ts'
  | .slackMessage _ ts, .slackFile id => ts ≠ id
  | .slackFile id, .slackMessage _ ts => id ≠ ts
  | .slackThread _ ts, .slackThread _ ts' => ts ≠ ts'
  | .webPage url, .webPage url' => hash url ≠ hash url'
  | _, _ => True

/-- The identifier of a Drive file has no `#`. -/
def FileIdentified : Payload → Prop
  | .googleDriveComment comment => '#' ∉ comment.fileId.toList
  | _ => True

instance : ∀ payload, Decidable (FileIdentified payload)
  | .googleDriveComment comment => inferInstanceAs (Decidable ('#' ∉ comment.fileId.toList))
  | .todoistItem _ | .tickTickItem _ _ | .slackReaction _ | .slackThread _ _ | .linearIssue _ _
  | .linearNotification _ _ | .githubNotification _ _ | .googleMailThread _ _
  | .googleCalendarEvent _ _ | .webPage _ => .isTrue trivial

/-- Storing `other` leaves the item of `payload`, and what is then made of the item of `other` is
no notification and no task of it. -/
def NeverOverwritten (encoding : Encoding) (account : Account) (payload other : Payload) : Prop :=
  ∀ (db db' : Database) (stamp : Stamp) (status : UpsertStatus ThirdPartyItem),
    createOrUpdateThirdPartyItem db (other.intoThirdPartyItem encoding account stamp) =
        .ok (db', status) →
      ∀ row ∈ db.thirdPartyItems.rows, row.identity = payload.identity encoding account →
        row ∈ db'.thirdPartyItems.rows ∧ row.id ≠ status.value.id ∧
        (∀ (scan : NotificationScan db') (request : UpsertRequest) (db'' : Database)
            (saved : UpsertStatus Notification), request.notification.sourceItem = status.value →
          upsertNotification db' scan request = .ok (db'', saved) →
            ∀ notification ∈ db'.notifications.rows, notification.sourceItemId = row.id →
              notification ∈ db''.notifications.rows) ∧
        (∀ (scan : TaskScan db') (request : CreateOrUpdateTaskRequest) (db'' : Database)
            (saved : UpsertStatus Task), request.sourceItem = status.value →
          createOrUpdateTask db' scan request = .ok (db'', saved) →
            ∀ task ∈ db'.tasks.rows, ¬ Linked status.value.id task → task ∈ db''.tasks.rows)

section Identifiers

theorem digitChar_inj : ∀ m < 16, ∀ n < 16, Nat.digitChar m = Nat.digitChar n → m = n := by decide

/-- Hexadecimal digits determine the number. -/
theorem toDigits_inj {m n : Nat} (h : Nat.toDigits 16 m = Nat.toDigits 16 n) : m = n := by
  induction m using Nat.strongRecOn generalizing n with
  | ind m ih =>
    rw [Nat.toDigits_eq_if (by decide), Nat.toDigits_eq_if (n := n) (by decide)] at h
    split at h
    · next hm =>
      split at h
      · next hn => exact digitChar_inj m hm n hn (List.singleton_inj.mp h)
      · next hn =>
        have hlength := congrArg List.length h
        rw [List.length_singleton, List.length_append, List.length_singleton] at hlength
        have hpos : 0 < (Nat.toDigits 16 (n / 16)).length := Nat.length_toDigits_pos
        omega
    · next hm =>
      split at h
      · next hn =>
        have hlength := congrArg List.length h
        rw [List.length_singleton, List.length_append, List.length_singleton] at hlength
        have hpos : 0 < (Nat.toDigits 16 (m / 16)).length := Nat.length_toDigits_pos
        omega
      · next hn =>
        obtain ⟨hinit, hlast⟩ := List.append_inj' h rfl
        have hdiv := ih (m / 16) (by omega) hinit
        have hmod := digitChar_inj (m % 16) (by omega) (n % 16) (by omega)
          (List.singleton_inj.mp hlast)
        omega

theorem webPage_sourceId_inj {hash : String → UInt64} {page page' : WebPage}
    (h : page.sourceId hash = page'.sourceId hash) : hash page.url = hash page'.url := by
  unfold WebPage.sourceId at h
  exact UInt64.toNat_inj.mp (toDigits_inj (String.ofList_injective h))

/-- What precedes the first `#` is the file, what follows it the comment. -/
theorem comment_sourceId_inj {comment comment' : GoogleDriveComment}
    (hfile : '#' ∉ comment.fileId.toList) (hfile' : '#' ∉ comment'.fileId.toList)
    (h : comment.sourceId = comment'.sourceId) :
    comment.fileId = comment'.fileId ∧ comment.id = comment'.id := by
  have hlist := congrArg String.toList h
  have htoList : ∀ c : GoogleDriveComment,
      c.sourceId.toList = c.fileId.toList ++ '#' :: c.id.toList := by
    intro c
    simp only [GoogleDriveComment.sourceId, String.toList_append, List.append_assoc]
    rfl
  rw [htoList, htoList] at hlist
  have htake : ∀ c : GoogleDriveComment, '#' ∉ c.fileId.toList →
      (c.fileId.toList ++ '#' :: c.id.toList).takeWhile (· ≠ '#') = c.fileId.toList := by
    intro c hc
    rw [List.takeWhile_append_of_pos, List.takeWhile_cons_of_neg (by simp), List.append_nil]
    intro d hd
    exact decide_eq_true fun heq => hc (heq ▸ hd)
  have hsame : comment.fileId.toList = comment'.fileId.toList := by
    rw [← htake comment hfile, hlist, htake comment' hfile']
  rw [hsame] at hlist
  refine ⟨String.toList_injective hsame, String.toList_injective ?_⟩
  exact List.cons_injective (List.append_cancel_left hlist)

end Identifiers

section Overwrites
variable {encoding : Encoding} {account : Account} {payload other : Payload}

/-- The identifiers of two objects of a kind differ just in case they tell them apart. -/
theorem sourceId_ne_iff (hkind : payload.kind = other.kind) (hne : payload.upstream ≠ other.upstream)
    (hfile : FileIdentified payload) (hfile' : FileIdentified other) :
    payload.sourceId encoding ≠ other.sourceId encoding ↔
      ToldApart encoding.hash payload.upstream other.upstream := by
  cases payload <;> cases other <;> try cases hkind
  case slackReaction.slackReaction reaction reaction' =>
    obtain ⟨_, _, _, item⟩ := reaction
    obtain ⟨_, _, _, item'⟩ := reaction'
    cases item with
    | slackMessage message =>
      cases item' with
      | slackMessage message' => exact Iff.rfl
      | slackFile file' => exact Iff.rfl
    | slackFile file =>
      cases item' with
      | slackMessage message' => exact Iff.rfl
      | slackFile file' => exact iff_of_true (fun h => hne (congrArg UpstreamObject.slackFile h)) trivial
  case slackThread.slackThread => exact Iff.rfl
  case webPage.webPage page page' =>
    refine not_congr ⟨webPage_sourceId_inj, fun hsame => ?_⟩
    show String.ofList _ = String.ofList _
    rw [hsame]
  case googleDriveComment.googleDriveComment comment comment' =>
    refine iff_of_true (fun h => hne ?_) trivial
    obtain ⟨hsame, hid⟩ := comment_sourceId_inj hfile hfile' h
    exact congrArg₂ UpstreamObject.googleDriveComment hsame hid
  -- the identifier of the others is that of their provider
  case todoistItem.todoistItem =>
    exact iff_of_true (fun h => hne (congrArg UpstreamObject.todoistItem h)) trivial
  case tickTickItem.tickTickItem =>
    exact iff_of_true (fun h => hne (congrArg UpstreamObject.tickTickItem h)) trivial
  case linearIssue.linearIssue =>
    exact iff_of_true (fun h => hne (congrArg UpstreamObject.linearIssue h)) trivial
  case linearNotification.linearNotification =>
    exact iff_of_true (fun h => hne (congrArg UpstreamObject.linearNotification h)) trivial
  case githubNotification.githubNotification =>
    exact iff_of_true (fun h => hne (congrArg UpstreamObject.githubNotification h)) trivial
  case googleMailThread.googleMailThread =>
    exact iff_of_true (fun h => hne (congrArg UpstreamObject.googleMailThread h)) trivial
  case googleCalendarEvent.googleCalendarEvent =>
    exact iff_of_true (fun h => hne (congrArg UpstreamObject.googleCalendarEvent h)) trivial

theorem identity_intoThirdPartyItem (stamp : Stamp) :
    (payload.intoThirdPartyItem encoding account stamp).identity =
      payload.identity encoding account := by
  cases payload <;> rfl

/-- An upsert of a notification leaves those of other items. -/
theorem mem_of_upsertNotification {db db' : Database} {scan : NotificationScan db}
    {request : UpsertRequest} {saved : UpsertStatus Notification}
    (h : upsertNotification db scan request = .ok (db', saved)) {row : NotificationRow}
    (hrow : row ∈ db.notifications.rows)
    (hne : row.sourceItemId ≠ request.notification.sourceItem.id) : row ∈ db'.notifications.rows := by
  cases hread : scan.existing request with
  | some found =>
    obtain ⟨after, status, hafter, -, -, -, hrows⟩ := NotificationSync.upsertNotification_stored hread
    obtain ⟨rfl, -⟩ := Prod.mk.inj (Except.ok.inj (hafter.symm.trans h))
    rw [hrows]
    refine List.mem_map.mpr ⟨row, hrow, if_neg ?_⟩
    rintro rfl
    exact hne (congrArg SourceKey.sourceItemId (existing_eq_some hread).2)
  | none =>
    rw [(NotificationSync.upsertNotification_new hread h).2.2]
    exact List.mem_append_left _ hrow

/-- Different identifiers keep everything that is stored of two objects apart. -/
theorem neverOverwritten_of_sourceId
    (h : payload.sourceId encoding ≠ other.sourceId encoding) :
    NeverOverwritten encoding account payload other := by
  intro db db' stamp status hupsert row hrow hidentity
  have hsaved := saved_of_upsert hupsert
  rw [identity_intoThirdPartyItem] at hsaved
  have hne : row.identity ≠ other.identity encoding account := by
    rw [hidentity]
    exact fun heq => h (congrArg ItemIdentity.sourceId heq)
  have hid : row.id ≠ status.value.id := by
    cases hstored : storedItem db (other.intoThirdPartyItem encoding account stamp) with
    | none =>
      have hfresh := hsaved.fresh hstored
      intro hsame
      rw [← hsame, Table.find?_eq_some.mpr ⟨hrow, rfl⟩] at hfresh
      cases hfresh
    | some found =>
      obtain ⟨hfound, hfoundIdentity⟩ := storedItem_eq_some.mp hstored
      rw [hsaved.id found hstored]
      intro hsame
      rw [Table.eq_of_key hrow hfound hsame, hfoundIdentity, identity_intoThirdPartyItem] at hne
      exact hne rfl
  refine ⟨(hsaved.others row fun hmem => hne (List.mem_singleton.mp hmem)).mpr hrow, hid, ?_, ?_⟩
  · intro scan request db'' saved hsource hok notification hnotification hitem
    apply mem_of_upsertNotification hok hnotification
    rw [hsource, hitem]
    exact hid
  · intro scan request db'' saved hsource hok task htask hlinked
    apply ((createOrUpdateTask_upserted hok).others task ?_).mp htask
    rw [hsource]
    exact hlinked

end Overwrites

/-- Two objects of a kind that one connection reaches have different identifiers, and neither is
ever stored over the other, if and only if they are not two Slack messages or threads of the same
timestamp, nor two pages whose URLs have the same hash. -/
theorem identity_injective_iff (encoding : Encoding) (account : Account) (payload other : Payload)
    (hkind : payload.kind = other.kind) (hne : payload.upstream ≠ other.upstream)
    (hfile : FileIdentified payload) (hfile' : FileIdentified other) :
    (payload.sourceId encoding ≠ other.sourceId encoding ∧
        NeverOverwritten encoding account payload other ∧
        NeverOverwritten encoding account other payload) ↔
      ToldApart encoding.hash payload.upstream other.upstream := by
  rw [← sourceId_ne_iff hkind hne hfile hfile']
  refine ⟨fun h => h.1, fun h => ⟨h, ?_, ?_⟩⟩
  · exact neverOverwritten_of_sourceId h
  · exact neverOverwritten_of_sourceId h.symm

section Channels

/-- A reaction on the message of that timestamp in a channel. -/
def channelReaction (channelId : String) : Payload :=
  .slackReaction
    { name := "eyes", state := .reactionAdded, createdAt := 0
      item := .slackMessage
        { url := "https://slack.com/" ++ channelId, ts := "1732535291.911209", channelId,
          renderedTitle := "In " ++ channelId, renderedContent := "In " ++ channelId } }

/-- The content of a reaction is its rendering here. -/
def renderedEncoding : Encoding where
  hash url := UInt64.ofNat url.length
  content
    | .slackReaction reaction => reaction.item.renderContent
    | _ => ""

def channelAccount : Account := ⟨⟨1⟩, ⟨1⟩⟩

/-- The comments of a file are counted from one. -/
def firstComment (fileId : String) : Payload :=
  .googleDriveComment
    { id := "1", fileId, fileName := "Notes", fileMimeType := "text/plain", content := "Hello",
      htmlContent := none, quotedFileContent := none, author := ⟨"Ada", none, none⟩, createdTime := 0,
      modifiedTime := 0, resolved := none, replies := [], userEmailAddress := none,
      userDisplayName := none }

theorem firstComments_distinct :
    (firstComment "f1").sourceId renderedEncoding ≠ (firstComment "f2").sourceId renderedEncoding ∧
      NeverOverwritten renderedEncoding channelAccount (firstComment "f1") (firstComment "f2") ∧
      NeverOverwritten renderedEncoding channelAccount (firstComment "f2") (firstComment "f1") :=
  (identity_injective_iff renderedEncoding channelAccount (firstComment "f1") (firstComment "f2")
    rfl (by decide) (by decide) (by decide)).mpr trivial

/-- The item of the message in the first channel is stored. -/
def channelDatabase : Database :=
  match createOrUpdateThirdPartyItem Database.empty
    ((channelReaction "C1").intoThirdPartyItem renderedEncoding channelAccount ⟨⟨1⟩, 0, 0⟩) with
  | .ok (db, _) => db
  | .error _ => .empty

/-- Two messages of one timestamp in two channels have one identifier: the reaction on the second is
stored over that on the first. -/
theorem channels_collide :
    (channelReaction "C1").kind = (channelReaction "C2").kind ∧
      (channelReaction "C1").upstream ≠ (channelReaction "C2").upstream ∧
      (channelReaction "C1").sourceId renderedEncoding =
        (channelReaction "C2").sourceId renderedEncoding ∧
      ¬ NeverOverwritten renderedEncoding channelAccount (channelReaction "C1")
        (channelReaction "C2") := by
  refine ⟨rfl, by decide, rfl, fun h => ?_⟩
  have hkept := (h channelDatabase _ ⟨⟨2⟩, 0, 0⟩ _ rfl
    (ThirdPartyItemUpsert.insertRow
      ((channelReaction "C1").intoThirdPartyItem renderedEncoding channelAccount ⟨⟨1⟩, 0, 0⟩))
    (by decide) rfl).1
  revert hkept
  decide

end Channels

end UniversalInbox.UpstreamIdentity
