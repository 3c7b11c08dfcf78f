import UniversalInbox.NotificationConversion
import UniversalInbox.NotificationPatching
import UniversalInbox.SetAside
import UniversalInbox.StalePass
import UniversalInbox.ThirdPartyItemNesting

/-! The sync of the notifications of one source. Whether it has changed or not, every fetched item
is stored, converted and saved as a notification again. -/
namespace UniversalInbox.NotificationSync
open NotificationConversion NotificationPatching NotificationUpsert
open BulkPatch (patchRow)
open StalePass (ThirdPartyItemSourceService isStaleNotification taskSourceKind notificationSourceKind)
open ThirdPartyItemUpsert (nested_induction storedItem saved_of_service service_cases service_leaf)
open Results (bind_eq_ok)

/-- The sources with a sync of their own; notifications of Todoist and TickTick are made by the
sync of their tasks. -/
inductive NotificationSyncSourceKind where
  | github
  | linear
  | googleDrive
  | googleMail
  | slack
deriving DecidableEq, Repr

namespace NotificationSyncSourceKind

def service : NotificationSyncSourceKind → ThirdPartyItemSourceService
  | .github => .github
  | .linear => .linearNotifications
  | .googleDrive => .googleDrive
  | .googleMail => .googleMail
  | .slack => .slack

def getNotificationSourceKind : NotificationSyncSourceKind → NotificationSourceKind
  | .github => .github
  | .linear => .linear
  | .googleDrive => .googleDrive
  | .googleMail => .googleMail
  | .slack => .slack

/-- What a sync does not fetch anymore are notifications, never tasks. -/
theorem notificationSourceKind_service (source : NotificationSyncSourceKind) :
    taskSourceKind source.service.getThirdPartyItemSourceKind = none ∧
      notificationSourceKind source.service.getThirdPartyItemSourceKind =
        some source.getNotificationSourceKind := by
  cases source <;> exact ⟨rfl, rfl⟩

end NotificationSyncSourceKind

/-- A fetched item, with what converting it takes from the clock. -/
structure SyncedItem where
  item : ThirdPartyItem
  stamp : NotificationStamp

/-- What a sync finds apart from the items: whether there is a validated Linear connection that
deletes notifications when their task is synced, and the kinds of the notifications it restores. -/
structure Setting where
  codec : Codec
  isTesting : Bool
  autoDeleteNotificationsOnTaskSync : Bool
  restoredKinds : List NotificationSourceKind

/-- An item that nests others is not one of them, and a service fetches items of its kinds. -/
structure Fetch where
  source : NotificationSyncSourceKind
  userId : UserId
  items : List SyncedItem
  nested : ∀ x ∈ items, x.item.identities.Nodup
  fetched : ∀ x ∈ items, ∀ identity ∈ x.item.identities, source.service.fetches identity.kind = true

section Sync
variable (setting : Setting) (order : ∀ db : Database, NotificationScan db)

/-- The items in the order they were fetched in, each under the value its upsert returned. -/
def upsertItems (db : Database) :
    List SyncedItem → Except UniversalInboxError (Database × List SyncedItem)
  | [] => .ok (db, [])
  | x :: rest => do
    let (db', upserted) ← ThirdPartyItemService.createOrUpdateThirdPartyItem db x.item
    let (db'', values) ← upsertItems db' rest
    return (db'', { x with item := upserted.value } :: values)

def deleteStaleNotificationsStatusFromSourceIds (db : Database)
    (activeSourceThirdPartyItemIds : List ThirdPartyItemId) (kind : NotificationSourceKind)
    (userId : UserId) : Database :=
  updateNotifications db (isStaleNotification activeSourceThirdPartyItemIds kind userId)
    (patchRow deletedPatch) (assignable_patchRow db deletedPatch)

/-- Nothing is fetched for test accounts. -/
def syncItems (db : Database) (fetch : Fetch) :
    Except UniversalInboxError (Database × List SyncedItem) :=
  if setting.isTesting then .ok (db, [])
  else do
    let (db', values) ← upsertItems db fetch.items
    if fetch.source.service.isSyncIncremental then return (db', values)
    else return (deleteStaleNotificationsStatusFromSourceIds db' (values.map (·.item.id))
      fetch.source.getNotificationSourceKind fetch.userId, values)

/-- A task of the user that is not deleted, of a Linear issue that is an item of the user. -/
def hasSyncedTask (db : Database) (userId : UserId) (linearIssueId : String) : Bool :=
  db.thirdPartyItems.rows.any fun item =>
    item.sourceId == linearIssueId && item.data.kind == .linearIssue && item.userId == userId &&
      db.tasks.rows.any fun task =>
        task.sourceItemId == item.id && task.userId == userId && task.status != .deleted

/-- Whether the notification of an item is deleted as soon as it is saved. -/
def autoDeletes (db : Database) (data : ThirdPartyItemData) (userId : UserId) : Bool :=
  match data with
  | .linearNotification content =>
    setting.autoDeleteNotificationsOnTaskSync &&
      (setting.codec.linear content).getIssueId.any (hasSyncedTask db userId)
  | _ => false

/-- The conversion of an item by the service it came from, or by that of Google Calendar. -/
def convert (source : NotificationSyncSourceKind) (x : SyncedItem) : Option NotificationContent :=
  if source.service.fetches x.item.kind || x.item.kind == .googleCalendarEvent then
    thirdPartyItemIntoNotification x.stamp setting.codec x.item.data
  else none

def createNotificationFromThirdPartyItem (db : Database) (source : NotificationSyncSourceKind)
    (userId : UserId) (x : SyncedItem) : Except UniversalInboxError Database :=
  match convert setting source x with
  | none => .error (.unexpected
      s!"Unexpected third party item kind {x.item.kind.display} for {source.getNotificationSourceKind.display}")
  | some content => do
    let (db', upserted) ← upsertNotification db (order db) (content.request x.stamp.id x.item userId)
    if autoDeletes setting db' x.item.data userId then
      let (db'', _) ← updateNotification db' upserted.value.id deletedPatch userId
      return db''
    else return db'

def createNotifications (source : NotificationSyncSourceKind) (userId : UserId) (db : Database) :
    List SyncedItem → Except UniversalInboxError Database
  | [] => .ok db
  | x :: rest => do
    let db' ← createNotificationFromThirdPartyItem setting order db source userId x
    createNotifications source userId db' rest

/-- `update_set_aside_at` with no instant. -/
def restoreSetAsideNotifications (userId : UserId) (db : Database) (kind : NotificationSourceKind) :
    Database :=
  updateNotifications db
    (fun row => row.kind == kind && row.userId == userId && row.setAsideAt.isSome)
    (fun row => { row with setAsideAt := none })
    ⟨fun _ => rfl, fun _ => rfl, fun _ => rfl, fun _ => rfl, db.notification_task⟩

/-- A sync that fetches, and completes. -/
def syncThirdPartyNotifications (db : Database) (fetch : Fetch) :
    Except UniversalInboxError Database := do
  let (db', values) ← syncItems setting db fetch
  let db'' ← createNotifications setting order fetch.source fetch.userId db' values
  return setting.restoredKinds.foldl (restoreSetAsideNotifications fetch.userId) db''

end Sync

/-- A patch of the row of one notification. -/
structure UserAction where
  notificationId : NotificationId
  patch : NotificationPatch
  userId : UserId

/-- A refused patch is rolled back. -/
def applyAction (db : Database) (action : UserAction) : Database :=
  match updateNotification db action.notificationId action.patch action.userId with
  | .ok (db', _) => db'
  | .error _ => db

def applyActions (db : Database) (actions : List UserAction) : Database :=
  actions.foldl applyAction db

section Items
variable {db db' : Database} {item other : ThirdPartyItem} {row : ThirdPartyItemRow}
  {status : TaskUpsert.UpsertStatus ThirdPartyItem}

/-- What storing items leaves of the tables: the tasks, the notifications, and the identifier of
each item that was stored. -/
structure ItemsStored (db db' : Database) : Prop where
  notifications : db'.notifications = db.notifications
  tasks : db'.tasks = db.tasks
  stored : ∀ item row, storedItem db item = some row →
    ∃ row', storedItem db' item = some row' ∧ row'.id = row.id

theorem ItemsStored.refl (db : Database) : ItemsStored db db :=
  ⟨rfl, rfl, fun _ row hstored => ⟨row, hstored, rfl⟩⟩

theorem ItemsStored.trans {between : Database} (h : ItemsStored db between)
    (h' : ItemsStored between db') : ItemsStored db db' where
  notifications := h'.notifications.trans h.notifications
  tasks := h'.tasks.trans h.tasks
  stored item row hstored := by
    obtain ⟨row', hrow', hid⟩ := h.stored item row hstored
    obtain ⟨row'', hrow'', hid'⟩ := h'.stored item row' hrow'
    exact ⟨row'', hrow'', hid'.trans hid⟩

theorem itemsStored_of_upsert
    (h : ThirdPartyItemUpsert.createOrUpdateThirdPartyItem db item = .ok (db', status)) :
    ItemsStored db db' := by
  refine ⟨notifications_createOrUpdateThirdPartyItem h,
    (ThirdPartyItemUpsert.createOrUpdateThirdPartyItem_upserted h).tasks, fun other row hstored => ?_⟩
  obtain ⟨hrow, hidentity⟩ := ThirdPartyItemUpsert.storedItem_eq_some.mp hstored
  rcases ThirdPartyItemUpsert.createOrUpdateThirdPartyItem_cases h with
    ⟨found, hfound, hmatch, heq, rfl, rfl⟩ | ⟨found, hfound, hmatch, heq, hconstraints, rfl, rfl⟩ |
    ⟨hnew, items, hinsert, hconstraints, rfl, rfl⟩
  · exact ⟨row, hstored, rfl⟩
  · refine ⟨_, ThirdPartyItemUpsert.storedItem_eq_some.mpr
      ⟨ThirdPartyItemUpsert.mem_applyUpdate.mpr ⟨row, hrow, rfl⟩, ?_⟩, ?_⟩
    · split
      · next hid =>
        rw [← hidentity, Table.eq_of_key hrow hfound (beq_iff_eq.mp hid)]
        exact (ThirdPartyItemUpsert.itemMatches_iff_identity.mp
          (ThirdPartyItemUpsert.itemMatches_updateRow hmatch)).trans
          (ThirdPartyItemUpsert.itemMatches_iff_identity.mp hmatch).symm
      · exact hidentity
    · split <;> rfl
  · exact ⟨row, ThirdPartyItemUpsert.storedItem_eq_some.mpr
      ⟨ThirdPartyItemUpsert.mem_applyInsert.mpr (.inl hrow), hidentity⟩, rfl⟩

/-- The items that an item nests are stored before it. -/
theorem itemsStored_of_service
    (h : ThirdPartyItemService.createOrUpdateThirdPartyItem db item = .ok (db', status)) :
    ItemsStored db db' := by
  induction item using nested_induction generalizing db' status with
  | leaf item hsource =>
    rw [service_leaf hsource] at h
    exact itemsStored_of_upsert h
  | nested item source hsource ih =>
    obtain ⟨between, sourceStatus, hbetween, hlast⟩ := service_cases hsource h
    exact (ih hbetween).trans (itemsStored_of_upsert hlast)

theorem data_of_service
    (h : ThirdPartyItemService.createOrUpdateThirdPartyItem db item = .ok (db', status)) :
    status.value.data = item.data := by
  cases hsource : item.sourceItem with
  | none =>
    rw [service_leaf hsource] at h
    exact (ThirdPartyItemUpsert.createOrUpdateThirdPartyItem_upserted h).data
  | some source =>
    obtain ⟨between, sourceStatus, -, hlast⟩ := service_cases hsource h
    exact (ThirdPartyItemUpsert.createOrUpdateThirdPartyItem_upserted hlast).data

/-- The value an upsert returns is that of the row of the item. -/
structure ValueOf (db : Database) (x value : SyncedItem) : Prop where
  stamp : value.stamp = x.stamp
  data : value.item.data = x.item.data
  stored : ∃ row, storedItem db x.item = some row ∧ value.item.id = row.id

theorem ValueOf.later {x value : SyncedItem} (h : ValueOf db x value) (hstored : ItemsStored db db') :
    ValueOf db' x value := by
  obtain ⟨row, hrow, hid⟩ := h.stored
  obtain ⟨row', hrow', hid'⟩ := hstored.stored x.item row hrow
  exact ⟨h.stamp, h.data, row', hrow', hid.trans hid'.symm⟩

theorem valueOf_service {x : SyncedItem} (hnested : x.item.identities.Nodup)
    (h : ThirdPartyItemService.createOrUpdateThirdPartyItem db x.item = .ok (db', status)) :
    ValueOf db' x { x with item := status.value } := by
  have hsaved := saved_of_service hnested h
  obtain ⟨row, hrow, hcolumns⟩ := hsaved.stored
  exact ⟨rfl, data_of_service h, row, ThirdPartyItemUpsert.storedItem_eq_some.mpr
    ⟨hrow, hcolumns.identity.trans hsaved.identity⟩, hcolumns.id.symm⟩

/-- Storing the fetched items: their values, and nothing else that a conversion reads. -/
theorem upsertItems_stored {items values : List SyncedItem}
    (hnested : ∀ x ∈ items, x.item.identities.Nodup) (h : upsertItems db items = .ok (db', values)) :
    ItemsStored db db' ∧ List.Forall₂ (ValueOf db') items values ∧
      ∀ row : ThirdPartyItemRow, (∀ x ∈ items, row.identity ∉ x.item.identities) →
        (row ∈ db'.thirdPartyItems.rows ↔ row ∈ db.thirdPartyItems.rows) := by
  induction items generalizing db values with
  | nil =>
    cases h
    exact ⟨.refl _, .nil, fun _ _ => Iff.rfl⟩
  | cons x rest ih =>
    obtain ⟨⟨between, upserted⟩, hupsert, hrest⟩ := bind_eq_ok.mp h
    obtain ⟨⟨db'', restValues⟩, hvalues, hreturn⟩ := bind_eq_ok.mp hrest
    cases hreturn
    have hx := hnested x List.mem_cons_self
    obtain ⟨hstored, hall, hothers⟩ :=
      ih (fun y hy => hnested y (List.mem_cons_of_mem _ hy)) hvalues
    refine ⟨(itemsStored_of_service hupsert).trans hstored,
      .cons ((valueOf_service hx hupsert).later hstored) hall, fun row hrow => ?_⟩
    refine (hothers row fun y hy => hrow y (List.mem_cons_of_mem _ hy)).trans ?_
    exact (saved_of_service hx hupsert).others row (hrow x List.mem_cons_self)

/-- The value of a known item has its identifier. -/
theorem ValueOf.known {stored : Database} {x value : SyncedItem} (h : ValueOf stored x value)
    (hstored : ItemsStored db stored) {row : ThirdPartyItemRow}
    (hrow : storedItem db x.item = some row) : value.item.id = row.id := by
  obtain ⟨found, hfound, hid⟩ := h.stored
  obtain ⟨later, hlater, hsame⟩ := hstored.stored x.item row hrow
  obtain rfl := Option.some.inj (hfound.symm.trans hlater)
  exact hid.trans hsame

end Items

/-- The keys of the stored notifications. -/
def keys (db : Database) : List SourceKey := db.notifications.rows.map sourceKey

section Store
variable {setting : Setting} {userId : UserId} {db db' : Database} {request : UpsertRequest}
  {row : NotificationRow}

theorem mem_keys {key : SourceKey} :
    key ∈ keys db ↔ ∃ row ∈ db.notifications.rows, sourceKey row = key := List.mem_map

theorem keys_updateNotifications {p : NotificationRow → Bool}
    {f : NotificationRow → NotificationRow} {h : Assignable db f}
    (hf : ∀ r, sourceKey (f r) = sourceKey r) : keys (updateNotifications db p f h) = keys db :=
  Table.map_map_ite hf

theorem existing_isSome {scan : NotificationScan db} (h : request.key ∈ keys db) :
    (scan.existing request).isSome := by
  obtain ⟨row, hrow, hkey⟩ := mem_keys.mp h
  unfold NotificationScan.existing
  rw [List.find?_isSome]
  exact ⟨row, scan.perm.mem_iff.mpr hrow, by rw [hkey]; exact beq_self_eq_true _⟩

/-- One row changed by its identifier is one row changed. -/
theorem map_row (hrow : row ∈ db.notifications.rows) {f : NotificationRow → NotificationRow} :
    (db.notifications.rows.map fun r => if (r.id == row.id) = true then f r else r) =
      db.notifications.rows.map fun r => if r = row then f r else r := by
  apply List.map_congr_left
  intro r hr
  by_cases hsame : r = row
  · rw [if_pos hsame, if_pos (by rw [hsame]; exact beq_self_eq_true _)]
  · rw [if_neg hsame, if_neg fun hid => hsame (Table.eq_of_key hr hrow (beq_iff_eq.mp hid))]

/-- The upsert of a stored notification. -/
theorem upsertNotification_stored {scan : NotificationScan db}
    (hread : scan.existing request = some row) :
    ∃ db' status, upsertNotification db scan request = .ok (db', status) ∧ status.value.id = row.id ∧
      db'.thirdPartyItems = db.thirdPartyItems ∧ db'.tasks = db.tasks ∧
      db'.notifications.rows = db.notifications.rows.map fun r =>
        if r = row then (if SameContent request r then r else updateRow request r) else r := by
  obtain ⟨hrow, hkey⟩ := existing_eq_some hread
  obtain ⟨item, -, hitem, hjoin⟩ := joinedNotification_of_mem hrow
  have hexisting : (scan.existing request).bind (joinedNotification db) =
      some (intoNotification row item) := by rw [hread, Option.bind_some, hjoin]
  unfold upsertNotification createOrUpdateNotification
  simp only [hexisting]
  by_cases heq : (intoNotification row item == request.notification) = true
  · have hsame := (intoNotification_eq_iff hkey hitem).mp heq
    simp only [if_pos heq]
    refine ⟨_, _, rfl, rfl, rfl, rfl, ?_⟩
    refine (List.map_id'' (fun r => ?_) _).symm
    split
    · next hr => rw [hr, if_pos hsame]
    · rfl
  · have hdiffers := mt (intoNotification_eq_iff hkey hitem).mpr heq
    simp only [if_neg heq]
    refine ⟨_, _, rfl, rfl, rfl, rfl, (map_row hrow).trans ?_⟩
    apply List.map_congr_left
    intro r _
    split
    · next hr => rw [hr, if_neg hdiffers]
    · rfl

/-- The upsert of a notification that is not. -/
theorem upsertNotification_new {scan : NotificationScan db}
    {status : TaskUpsert.UpsertStatus Notification} (hread : scan.existing request = none)
    (h : upsertNotification db scan request = .ok (db', status)) :
    db'.thirdPartyItems = db.thirdPartyItems ∧ db'.tasks = db.tasks ∧
      db'.notifications.rows = db.notifications.rows ++ [insertRow request.notification] := by
  have hexisting : (scan.existing request).bind (joinedNotification db) = none := by
    rw [hread, Option.bind_none]
  obtain ⟨notifications, hinsert, hkeys, rfl, -⟩ := upsertNotification_inserts hexisting h
  exact ⟨rfl, rfl, (Table.insert?_eq_some.mp hinsert).2⟩

theorem taskKnown_deletedPatch (db : Database) : TaskKnown db deletedPatch := fun _ h => nomatch h

/-- A notification of the user, deleted. -/
def deleteNotification (db : Database) (id : NotificationId) (userId : UserId) : Database :=
  updateNotifications db (owns id userId) (updateNotificationRow deletedPatch)
    (assignable_updateNotificationRow (taskKnown_deletedPatch db))

/-- Deleting a notification is never refused. -/
theorem updateNotification_deleted (db : Database) (id : NotificationId) (userId : UserId) :
    ∃ status, updateNotification db id deletedPatch userId =
      .ok (deleteNotification db id userId, status) := by
  unfold updateNotification
  rw [if_neg (by decide), dif_pos (taskKnown_deletedPatch db)]
  exact ⟨_, rfl⟩

/-- Deleting the row that was just written, and no other. -/
theorem rows_deleteNotification (hrow : row ∈ db.notifications.rows) (huser : row.userId = userId)
    {f : NotificationRow → NotificationRow} (hid : ∀ r, (f r).id = r.id)
    (hsame : ∀ r, (f r).userId = r.userId)
    (hrows : db'.notifications.rows = db.notifications.rows.map fun r => if r = row then f r else r) :
    (deleteNotification db' row.id userId).notifications.rows =
      db.notifications.rows.map fun r => if r = row then { f r with status := .deleted } else r := by
  show (db'.notifications.rows.map _) = _
  rw [hrows, List.map_map]
  apply List.map_congr_left
  intro r hr
  rw [Function.comp_apply]
  by_cases hother : r = row
  · have howns : owns row.id userId (f r) = true := by
      simp [owns, hid, hsame, hother, huser]
    rw [if_pos hother, if_pos hother, if_pos howns]
    rfl
  · have howns : ¬ owns row.id userId r = true := by
      unfold owns
      simp only [Bool.and_eq_true, beq_iff_eq]
      exact fun h => hother (Table.eq_of_key hr hrow h.1)
    rw [if_neg hother, if_neg hother, if_neg howns]

theorem hasSyncedTask_congr {linearIssueId : String}
    (hitems : ∀ row : ThirdPartyItemRow, row.data.kind = .linearIssue →
      (row ∈ db'.thirdPartyItems.rows ↔ row ∈ db.thirdPartyItems.rows))
    (htasks : db'.tasks = db.tasks) :
    hasSyncedTask db' userId linearIssueId = hasSyncedTask db userId linearIssueId := by
  unfold hasSyncedTask
  rw [htasks, Bool.eq_iff_iff, List.any_eq_true, List.any_eq_true]
  refine exists_congr fun row => and_congr_left fun hrow => hitems row ?_
  simp only [Bool.and_eq_true, beq_iff_eq] at hrow
  exact hrow.1.1.2

theorem autoDeletes_congr {data : ThirdPartyItemData}
    (hitems : ∀ row : ThirdPartyItemRow, row.data.kind = .linearIssue →
      (row ∈ db'.thirdPartyItems.rows ↔ row ∈ db.thirdPartyItems.rows))
    (htasks : db'.tasks = db.tasks) :
    autoDeletes setting db' data userId = autoDeletes setting db data userId := by
  have hsynced : hasSyncedTask db' userId = hasSyncedTask db userId :=
    funext fun linearIssueId => hasSyncedTask_congr hitems htasks
  unfold autoDeletes
  rw [hsynced]

/-- The statements of saving an item: an upsert, then the deletion of what it wrote. -/
theorem createNotification_iff {order : ∀ db : Database, NotificationScan db}
    {source : NotificationSyncSourceKind} {x : SyncedItem} {content : NotificationContent}
    (hconvert : convert setting source x = some content) :
    createNotificationFromThirdPartyItem setting order db source userId x = .ok db' ↔
      ∃ between status, upsertNotification db (order db)
          (content.request x.stamp.id x.item userId) = .ok (between, status) ∧
        db' = if autoDeletes setting between x.item.data userId then
          deleteNotification between status.value.id userId else between := by
  unfold createNotificationFromThirdPartyItem
  simp only [hconvert]
  rw [bind_eq_ok, Prod.exists]
  refine exists_congr fun between => exists_congr fun status => and_congr_right fun _ => ?_
  dsimp only
  obtain ⟨updated, hdelete⟩ := updateNotification_deleted between status.value.id userId
  split
  · constructor
    · intro h
      obtain ⟨deleted, hdeleted, hreturn⟩ := bind_eq_ok.mp h
      cases hdelete.symm.trans hdeleted
      exact (Except.ok.inj hreturn).symm
    · rintro rfl
      exact bind_eq_ok.mpr ⟨_, hdelete, rfl⟩
  · exact ⟨fun h => (Except.ok.inj h).symm, fun h => congrArg Except.ok h.symm⟩

end Store

section SetAside
variable {setting : Setting} {userId : UserId} {db : Database} {kind : NotificationSourceKind}
  {kinds : List NotificationSourceKind}

/-- What restoring some kinds makes of a row. -/
def restoreRow (kinds : List NotificationSourceKind) (userId : UserId) (row : NotificationRow) :
    NotificationRow :=
  if row.kind ∈ kinds ∧ row.userId = userId then { row with setAsideAt := none } else row

theorem restoreRow_cons {row : NotificationRow} :
    restoreRow kinds userId
        (if (row.kind == kind && row.userId == userId && row.setAsideAt.isSome) = true then
          { row with setAsideAt := none } else row) = restoreRow (kind :: kinds) userId row := by
  obtain ⟨id, title, status, createdAt, updatedAt, lastReadAt, snoozedUntil, setAsideAt, user, taskId,
    rowKind, sourceItemId⟩ := row
  unfold restoreRow
  cases setAsideAt <;> by_cases hkind : rowKind = kind <;> by_cases huser : user = userId <;>
    simp [hkind, huser]

/-- Restoring one kind after the other. -/
theorem rows_foldl_restoreSetAside :
    (kinds.foldl (restoreSetAsideNotifications userId) db).notifications.rows =
      db.notifications.rows.map (restoreRow kinds userId) := by
  induction kinds generalizing db with
  | nil =>
    refine (List.map_id'' (fun row => if_neg ?_) _).symm
    exact fun h => (List.not_mem_nil h.1).elim
  | cons kind rest ih =>
    rw [List.foldl_cons, ih]
    refine (List.map_map ..).trans (List.map_congr_left fun row _ => ?_)
    exact restoreRow_cons

/-- A row with nothing to restore. -/
def Restored (kinds : List NotificationSourceKind) (userId : UserId) (row : NotificationRow) : Prop :=
  row.kind ∈ kinds → row.userId = userId → row.setAsideAt = none

theorem restored_restoreRow {row : NotificationRow} :
    Restored kinds userId (restoreRow kinds userId row) := by
  intro hkind huser
  unfold restoreRow at hkind huser ⊢
  split
  · rfl
  · next hother =>
    rw [if_neg hother] at hkind huser
    exact absurd ⟨hkind, huser⟩ hother

theorem Restored.restoreRow_eq {row : NotificationRow} (h : Restored kinds userId row) :
    restoreRow kinds userId row = row := by
  unfold restoreRow
  split
  · next hmatch => rw [← h hmatch.1 hmatch.2]
  · rfl

theorem rows_foldl_restored (h : ∀ row ∈ db.notifications.rows, Restored kinds userId row) :
    (kinds.foldl (restoreSetAsideNotifications userId) db).notifications.rows =
      db.notifications.rows := by
  rw [rows_foldl_restoreSetAside]
  exact (List.map_congr_left fun row hrow => (h row hrow).restoreRow_eq).trans (List.map_id'' (fun _ => rfl) _)

theorem foldl_restoreSetAside_keeps :
    (kinds.foldl (restoreSetAsideNotifications userId) db).thirdPartyItems = db.thirdPartyItems ∧
      keys (kinds.foldl (restoreSetAsideNotifications userId) db) = keys db := by
  constructor
  · induction kinds generalizing db with
    | nil => rfl
    | cons kind rest ih => exact ih
  · unfold keys
    rw [rows_foldl_restoreSetAside]
    exact Table.map_map_ite fun _ => rfl

end SetAside

section Actions
variable {db : Database} {kinds : List NotificationSourceKind} {userId : UserId}

/-- What no action of a user writes. -/
structure ActedOn (db db' : Database) : Prop where
  thirdPartyItems : db'.thirdPartyItems = db.thirdPartyItems
  keys : keys db' = keys db
  restored : ∀ kinds userId, (∀ row ∈ db.notifications.rows, Restored kinds userId row) →
    ∀ row ∈ db'.notifications.rows, Restored kinds userId row

theorem actedOn_applyAction (db : Database) (action : UserAction) :
    ActedOn db (applyAction db action) := by
  unfold applyAction updateNotification
  split
  · next db' status hupdate =>
    split at hupdate
    · cases hupdate
    · split at hupdate
      · cases hupdate
        refine ⟨rfl, keys_updateNotifications fun _ => rfl, fun kinds userId h row hrow => ?_⟩
        obtain ⟨old, hold, rfl⟩ := List.mem_map.mp hrow
        have hrestored := h old hold
        split <;> exact hrestored
      · cases hupdate
  · exact ⟨rfl, rfl, fun _ _ h => h⟩

theorem actedOn_applyActions (db : Database) (actions : List UserAction) :
    ActedOn db (applyActions db actions) := by
  induction actions generalizing db with
  | nil => exact ⟨rfl, rfl, fun _ _ h => h⟩
  | cons action rest ih =>
    have haction := actedOn_applyAction db action
    have hrest := ih (applyAction db action)
    exact ⟨hrest.thirdPartyItems.trans haction.thirdPartyItems, hrest.keys.trans haction.keys,
      fun kinds userId h => hrest.restored kinds userId (haction.restored kinds userId h)⟩

end Actions

section Sync
variable {setting : Setting} {order : ∀ db : Database, NotificationScan db} {db db' : Database}
  {fetch : Fetch} {values : List SyncedItem}

theorem storedItem_congr {item : ThirdPartyItem} (h : db'.thirdPartyItems = db.thirdPartyItems) :
    storedItem db' item = storedItem db item := by
  unfold storedItem
  rw [h]

theorem convert_congr {source : NotificationSyncSourceKind} {x y : SyncedItem}
    (hdata : x.item.data = y.item.data) (hstamp : x.stamp = y.stamp) :
    convert setting source x = convert setting source y := by
  unfold convert ThirdPartyItem.kind
  rw [hdata, hstamp]

/-- Whether an item converts, and to which kind, does not depend on the clock. -/
theorem convert_kind {source : NotificationSyncSourceKind} {x y : SyncedItem}
    {content : NotificationContent} (hdata : x.item.data = y.item.data)
    (h : convert setting source x = some content) :
    ∃ other, convert setting source y = some other ∧ other.kind = content.kind := by
  unfold convert ThirdPartyItem.kind at h ⊢
  split at h
  · next hfetches =>
    rw [← hdata, if_pos hfetches]
    obtain ⟨other, hother, hsame⟩ := @sameConversion_of_data x.stamp y.stamp _ _ _ h
    exact ⟨other, hother, hsame.kind.symm⟩
  · cases h

/-- The items of a sync are stored, then what is stale is deleted. -/
theorem syncItems_ok (htesting : setting.isTesting = false)
    (h : syncItems setting db fetch = .ok (db', values)) :
    ∃ stored, upsertItems db fetch.items = .ok (stored, values) ∧
      db'.thirdPartyItems = stored.thirdPartyItems ∧ db'.tasks = stored.tasks ∧
      keys db' = keys stored ∧
      db'.notifications.rows =
        if fetch.source.service.isSyncIncremental then stored.notifications.rows
        else stored.notifications.rows.map fun row =>
          if isStaleNotification (values.map (·.item.id)) fetch.source.getNotificationSourceKind
              fetch.userId row then patchRow deletedPatch row
          else row := by
  unfold syncItems at h
  rw [htesting, if_neg Bool.false_ne_true] at h
  obtain ⟨⟨stored, upserted⟩, hupsert, hthen⟩ := bind_eq_ok.mp h
  dsimp only at hthen
  split at hthen
  · next hincremental =>
    cases hthen
    exact ⟨_, hupsert, rfl, rfl, rfl, (if_pos hincremental).symm⟩
  · next hfull =>
    cases hthen
    exact ⟨_, hupsert, rfl, rfl, keys_updateNotifications fun _ => rfl, (if_neg hfull).symm⟩

end Sync

end UniversalInbox.NotificationSync
