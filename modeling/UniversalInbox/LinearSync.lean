import UniversalInbox.FullNotificationSync
import UniversalInbox.Library.Greatest

/-! The notifications of Linear: of several of one issue, the sync keeps the one that was updated
last. They are stored under the identifier of the notification, so another of the same issue is
another item. -/
namespace UniversalInbox.LinearSync
open NotificationConversion NotificationSync NotificationUpsert
open FullNotificationSync (OnePerKey Returned phases_of_sync upsertItems_data)
open StalePass (isReadOrUnread)
open ThirdPartyItemUpsert (storedItem storedItem_eq_some)
open TodoistSync (wholeSeconds)

/-- A notification that Linear returned: what identifies and dates it, and its serialized content. -/
structure FetchedNotification where
  id : String
  updatedAt : DateTime
  content : String
deriving DecidableEq, Repr

def FetchedNotification.issueId (codec : Codec) (notification : FetchedNotification) :
    Option String := (codec.linear notification.content).getIssueId

/-- The two collections of the loop; the first is a hash map. -/
structure Deduplication where
  issueNotifications : Table (Prod.fst : String × FetchedNotification → String)
  projectNotifications : List FetchedNotification

/-- The body of the loop. -/
def Deduplication.keep (codec : Codec) (s : Deduplication) (notification : FetchedNotification) :
    Deduplication :=
  match notification.issueId codec with
  | some issue =>
    { s with issueNotifications :=
        s.issueNotifications.keepGreatest (·.2.updatedAt) (issue, notification) }
  | none => { s with projectNotifications := s.projectNotifications ++ [notification] }

def deduplicate (codec : Codec) (all : List FetchedNotification) : Deduplication :=
  all.foldl (Deduplication.keep codec) ⟨Table.empty, []⟩

/-- The values of the hash map, in whatever order it iterates. -/
structure IntoValues (s : Deduplication) where
  values : List FetchedNotification
  perm : values.Perm (s.issueNotifications.rows.map Prod.snd)

/-- The identifier and the dates an item is made with, and those its notification is. -/
structure ItemStamp where
  id : ThirdPartyItemId
  createdAt : DateTime
  updatedAt : DateTime
  notification : NotificationStamp

def FetchedNotification.intoThirdPartyItem (notification : FetchedNotification) (userId : UserId)
    (integrationConnectionId : IntegrationConnectionId) (stamp : ItemStamp) : ThirdPartyItem :=
  { id := stamp.id
    sourceId := notification.id
    data := .linearNotification notification.content
    createdAt := wholeSeconds stamp.createdAt
    updatedAt := wholeSeconds stamp.updatedAt
    userId
    integrationConnectionId
    sourceItem := none }

/-- `fetch_items`, once Linear has answered. -/
def fetchItems (codec : Codec) (all : List FetchedNotification)
    (intoValues : IntoValues (deduplicate codec all)) (userId : UserId)
    (integrationConnectionId : IntegrationConnectionId) (stamps : Nat → ItemStamp) : Fetch where
  source := .linear
  userId
  items := (intoValues.values ++ (deduplicate codec all).projectNotifications).mapIdx
    fun i notification =>
      { item := notification.intoThirdPartyItem userId integrationConnectionId (stamps i)
        stamp := (stamps i).notification }
  nested := by
    intro x hx
    obtain ⟨i, hi, rfl⟩ := List.mem_mapIdx.mp hx
    exact List.nodup_singleton _
  fetched := by
    intro x hx identity hidentity
    obtain ⟨i, hi, rfl⟩ := List.mem_mapIdx.mp hx
    rw [List.mem_singleton.mp hidentity]
    rfl

/-- The issue of a stored notification, by its source item. -/
def issueOf (codec : Codec) (db : Database) (row : NotificationRow) : Option String :=
  (db.thirdPartyItems.find? row.sourceItemId).bind fun item =>
    match item.data with
    | .linearNotification content => (codec.linear content).getIssueId
    | _ => none

/-- A Linear notification of the user that is in the inbox, of an issue. -/
structure Visible (codec : Codec) (db : Database) (userId : UserId) (issue : String)
    (row : NotificationRow) : Prop where
  kind : row.kind = .linear
  owned : row.userId = userId
  status : isReadOrUnread row.status = true
  issue : issueOf codec db row = some issue

/-- The source item of a stored notification is what Linear returned. -/
def StemsFrom (db : Database) (row : NotificationRow) (notification : FetchedNotification) : Prop :=
  ∃ item, db.thirdPartyItems.find? row.sourceItemId = some item ∧
    item.sourceId = notification.id ∧ item.data = .linearNotification notification.content

/-- No two notifications of one source item. -/
def OnePerSourceItem (db : Database) : Prop :=
  ∀ row ∈ db.notifications.rows, ∀ other ∈ db.notifications.rows,
    row.sourceItemId = other.sourceItemId → row = other

section Fetch
variable {codec : Codec} {all : List FetchedNotification} {notification : FetchedNotification}

/-- The loop keeps the last updated notification of each issue, and every other notification. -/
theorem foldl_keep (s : Deduplication) :
    all.foldl (Deduplication.keep codec) s =
      ⟨(all.filterMap fun n => (n.issueId codec).map (·, n)).foldl
          (Table.keepGreatest (·.2.updatedAt)) s.issueNotifications,
        s.projectNotifications ++ all.filter fun n => (n.issueId codec).isNone⟩ := by
  induction all generalizing s with
  | nil => rw [List.filter_nil, List.append_nil]; rfl
  | cons n rest ih =>
    rw [List.foldl_cons, ih]
    cases hissue : n.issueId codec with
    | some issue => simp [Deduplication.keep, hissue]
    | none => simp [Deduplication.keep, hissue]

theorem issueNotifications_deduplicate :
    (deduplicate codec all).issueNotifications =
      Table.greatest (·.2.updatedAt) (all.filterMap fun n => (n.issueId codec).map (·, n)) :=
  congrArg Deduplication.issueNotifications (foldl_keep _)

theorem mem_issueEntries {issue : String} :
    (issue, notification) ∈ all.filterMap (fun n => (n.issueId codec).map (·, n)) ↔
      notification ∈ all ∧ notification.issueId codec = some issue := by
  rw [List.mem_filterMap]
  constructor
  · rintro ⟨n, hn, hentry⟩
    obtain ⟨found, hfound, hpair⟩ := Option.map_eq_some_iff.mp hentry
    cases hpair
    exact ⟨hn, hfound⟩
  · rintro ⟨hn, hissue⟩
    exact ⟨notification, hn, by rw [hissue]; rfl⟩

/-- What is fetched of an issue: the entry of the hash map. -/
theorem entry_of_fetched {intoValues : IntoValues (deduplicate codec all)} {issue : String}
    (hmem : notification ∈ intoValues.values ++ (deduplicate codec all).projectNotifications)
    (hissue : notification.issueId codec = some issue) :
    (issue, notification) ∈ (deduplicate codec all).issueNotifications.rows := by
  rcases List.mem_append.mp hmem with hvalue | hproject
  · obtain ⟨⟨key, n⟩, hentry, rfl⟩ := List.mem_map.mp (intoValues.perm.mem_iff.mp hvalue)
    rw [issueNotifications_deduplicate] at hentry ⊢
    have hkey := (mem_issueEntries.mp (Table.mem_of_mem_greatest hentry)).2
    rwa [Option.some.inj (hissue.symm.trans hkey)]
  · rw [show (deduplicate codec all).projectNotifications =
      [] ++ all.filter fun n => (n.issueId codec).isNone
      from congrArg Deduplication.projectNotifications (foldl_keep _), List.nil_append] at hproject
    have hnone := (List.mem_filter.mp hproject).2
    rw [hissue] at hnone
    cases hnone

/-- It is one of those that Linear returned of the issue, and none was updated later. -/
theorem greatest_of_entry {issue : String}
    (h : (issue, notification) ∈ (deduplicate codec all).issueNotifications.rows) :
    notification ∈ all ∧ notification.issueId codec = some issue ∧
      ∀ other ∈ all, other.issueId codec = some issue → other.updatedAt ≤ notification.updatedAt := by
  rw [issueNotifications_deduplicate] at h
  obtain ⟨hmem, hissue⟩ := mem_issueEntries.mp (Table.mem_of_mem_greatest h)
  refine ⟨hmem, hissue, fun other hother hsame => ?_⟩
  exact @Table.rank_le_of_mem_greatest _ String DateTime _ _ Prod.fst (·.2.updatedAt) (issue, other) _
    (issue, notification) h (mem_issueEntries.mpr ⟨hother, hsame⟩) rfl

end Fetch

section Sync
variable {setting : Setting} {order : ∀ db : Database, NotificationScan db} {db db' : Database}
  {all : List FetchedNotification} {intoValues : IntoValues (deduplicate setting.codec all)}
  {userId : UserId} {integrationConnectionId : IntegrationConnectionId} {stamps : Nat → ItemStamp}
  {issue : String} {row : NotificationRow}

/-- The source item of a notification that is left in the inbox holds a fetched one. -/
theorem fetched_of_visible (htesting : setting.isTesting = false)
    (hsync : syncThirdPartyNotifications setting order db
      (fetchItems setting.codec all intoValues userId integrationConnectionId stamps) = .ok db')
    (hvisible : Visible setting.codec db' userId issue row) (hrow : row ∈ db'.notifications.rows) :
    ∃ notification item, (issue, notification) ∈ (deduplicate setting.codec all).issueNotifications.rows ∧
      db'.thirdPartyItems.find? row.sourceItemId = some item ∧
      item.data = .linearNotification notification.content ∧
      item.identity = ⟨notification.id, .linearNotification, userId, integrationConnectionId⟩ := by
  obtain ⟨stored, synced, saved, values, h⟩ := phases_of_sync htesting rfl hsync
  obtain ⟨x, hx, item, hitem, hid⟩ := h.inbox hrow hvisible.kind hvisible.owned hvisible.status
  have hleaf : ∀ y ∈ (fetchItems setting.codec all intoValues userId integrationConnectionId
      stamps).items, y.item.sourceItem = none := by
    intro y hy
    obtain ⟨i, hi, rfl⟩ := List.mem_mapIdx.mp hy
    rfl
  obtain ⟨y, hy, hidentity, found, hfound, hdata⟩ := upsertItems_data hleaf h.upserted x hx
  rw [← storedItem_congr h.items_eq, hitem] at hfound
  obtain rfl := Option.some.inj hfound
  obtain ⟨hmem, hitemIdentity⟩ := storedItem_eq_some.mp hitem
  have hfind : db'.thirdPartyItems.find? row.sourceItemId = some item :=
    Table.find?_eq_some.mpr ⟨hmem, hid⟩
  obtain ⟨i, hi, rfl⟩ := List.mem_mapIdx.mp hy
  refine ⟨_, item, entry_of_fetched (List.getElem_mem hi) ?_, hfind, hdata,
    hitemIdentity.trans hidentity.symm⟩
  have hissue := hvisible.issue
  unfold issueOf at hissue
  rw [hfind, Option.bind_some, hdata] at hissue
  exact hissue

/-- Right after a sync there is at most one Linear notification of an issue in the inbox, and it is
one that Linear updated last. -/
theorem one_visible_per_issue (setting : Setting) (order : ∀ db : Database, NotificationScan db)
    (db db' : Database) (all : List FetchedNotification)
    (intoValues : IntoValues (deduplicate setting.codec all)) (userId : UserId)
    (integrationConnectionId : IntegrationConnectionId) (stamps : Nat → ItemStamp)
    (hunique : OnePerSourceItem db) (htesting : setting.isTesting = false)
    (hsync : syncThirdPartyNotifications setting order db
      (fetchItems setting.codec all intoValues userId integrationConnectionId stamps) = .ok db') :
    ∀ issue, ∀ row ∈ db'.notifications.rows, Visible setting.codec db' userId issue row →
      (∀ other ∈ db'.notifications.rows, Visible setting.codec db' userId issue other →
        other = row) ∧
      ∃ notification ∈ all, notification.issueId setting.codec = some issue ∧
        StemsFrom db' row notification ∧
        ∀ n ∈ all, n.issueId setting.codec = some issue → n.updatedAt ≤ notification.updatedAt := by
  intro issue row hrow hvisible
  obtain ⟨notification, item, hentry, hitem, hdata, hidentity⟩ :=
    fetched_of_visible htesting hsync hvisible hrow
  obtain ⟨hmem, hissue, hgreatest⟩ := greatest_of_entry hentry
  refine ⟨fun other hother hotherVisible => ?_, notification, hmem, hissue,
    ⟨item, hitem, congrArg ItemIdentity.sourceId hidentity, hdata⟩, hgreatest⟩
  obtain ⟨notification', item', hentry', hitem', -, hidentity'⟩ :=
    fetched_of_visible htesting hsync hotherVisible hother
  -- One entry for each issue, one item for each entry, one notification for each item.
  have hsame : (issue, notification') = (issue, notification) := Table.eq_of_key hentry' hentry rfl
  rw [(Prod.mk.injEq ..).mp hsame |>.2] at hidentity'
  obtain ⟨hstored, hid⟩ := Table.find?_eq_some.mp hitem
  obtain ⟨hstored', hid'⟩ := Table.find?_eq_some.mp hitem'
  have hsameItem : item' = item :=
    ThirdPartyItemUpsert.eq_of_identity hstored' hstored (hidentity'.trans hidentity.symm)
  obtain ⟨stored, synced, saved, values, h⟩ := phases_of_sync htesting rfl hsync
  have hunique' : OnePerKey db' := h.onePerKey fun r hr r' hr' hkey =>
    hunique r hr r' hr' (congrArg SourceKey.sourceItemId hkey)
  refine hunique' other hother row hrow ?_
  unfold sourceKey
  rw [hotherVisible.kind, hvisible.kind, hotherVisible.owned, hvisible.owned, ← hid, ← hid', hsameItem]

end Sync

/-- Two notifications of one issue, the later one first, and one of a project. -/
def issueCodec : Codec :=
  { NotificationResync.sampleCodec with
    linear := fun content =>
      if content = "project" then .projectNotification none none content
      else .issueNotification none none ⟨"LIN-1", content⟩ }

def issueSetting : Setting := { NotificationResync.sampleSetting with codec := issueCodec }

def twoOfOneIssue : List FetchedNotification :=
  [⟨"1", 2000, "commented"⟩, ⟨"2", 1000, "assigned"⟩, ⟨"3", 3000, "project"⟩]

def inTurn (i : Nat) : ItemStamp := ⟨⟨i + 7⟩, 0, 0, ⟨⟨i + 7⟩, 0, 0⟩⟩

def commentedLast : IntoValues (deduplicate issueCodec twoOfOneIssue) where
  values := [⟨"1", 2000, "commented"⟩]
  perm := by decide

theorem commented_visible : ∃ db',
    syncThirdPartyNotifications issueSetting (NotificationResync.readFirst ⟨3⟩) linearDatabase
      (fetchItems issueCodec twoOfOneIssue commentedLast ⟨1⟩ ⟨1⟩ inTurn) = .ok db' ∧
    ∀ issue, ∀ row ∈ db'.notifications.rows, Visible issueCodec db' ⟨1⟩ issue row →
      (∀ other ∈ db'.notifications.rows, Visible issueCodec db' ⟨1⟩ issue other → other = row) ∧
      ∃ notification ∈ twoOfOneIssue, notification.issueId issueCodec = some issue ∧
        StemsFrom db' row notification ∧
        ∀ n ∈ twoOfOneIssue, n.issueId issueCodec = some issue →
          n.updatedAt ≤ notification.updatedAt :=
  ⟨_, rfl, one_visible_per_issue issueSetting (NotificationResync.readFirst ⟨3⟩) linearDatabase _
    twoOfOneIssue commentedLast ⟨1⟩ ⟨1⟩ inTurn (by unfold OnePerSourceItem; decide) rfl rfl⟩

end UniversalInbox.LinearSync
