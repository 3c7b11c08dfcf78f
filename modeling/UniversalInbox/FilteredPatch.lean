import UniversalInbox.NotificationListing
import UniversalInbox.PatchAgreement

/-! Patching every notification that matches a filter: the filter mode of `bulk_act_notifications`,
and "Delete all" of the web interface beside the list it is shown with. -/
namespace UniversalInbox.FilteredPatch
open NotificationPatching NotificationListing
open BulkPatch (patchRow NotificationUpdateSelector)
open NotificationUpsert (joinedNotification joinedNotification_of_mem)
open PatchAgreement (ToolCallError NotificationActionEntry joinedNotification_id)

/-- `update_notifications`: the rows that the filter selects are written and returned. -/
def updateNotificationsByFilter (db : Database) (status : List NotificationStatus)
    (fromSources : List NotificationSourceKind) (patch : NotificationPatch) (userId : UserId) :
    Database × List Notification :=
  if patch.status.isNone && patch.snoozedUntil.isNone then (db, [])
  else
    let selects := fun row =>
      (NotificationUpdateSelector.filter status fromSources).selects userId row
    let db' := updateNotifications db selects (patchRow patch) (assignable_patchRow db patch)
    (db', (db.notifications.rows.filter selects).filterMap fun row =>
      joinedNotification db' (patchRow patch row))

inductive BulkNotificationAction where
  | markRead
  | delete
  | unsubscribe
deriving DecidableEq, Repr

def bulkNotificationPatch : BulkNotificationAction → NotificationPatch
  | .markRead => { status := some .read, snoozedUntil := none, taskId := none }
  | .delete => { status := some .deleted, snoozedUntil := none, taskId := none }
  | .unsubscribe => { status := some .unsubscribed, snoozedUntil := none, taskId := none }

/-- An omitted list of the filter mode is empty. -/
inductive BulkActNotificationsArgs where
  | filter (statuses : List NotificationStatus) (sources : List NotificationSourceKind)
      (action : BulkNotificationAction)
  | list (notifications : List NotificationActionEntry)

inductive BulkActSelection where
  | filter (statusFilters : List NotificationStatus) (sourceFilters : List NotificationSourceKind)
      (patch : NotificationPatch)
  | list (patches : List (NotificationId × NotificationPatch))

def allNotificationStatuses : List NotificationStatus := [.unread, .read, .deleted, .unsubscribed]

def allNotificationSources : List NotificationSourceKind :=
  [.github, .todoist, .linear, .googleMail, .googleCalendar, .googleDrive, .slack, .api]

def bulkActSelection : BulkActNotificationsArgs → Except ToolCallError BulkActSelection
  | .filter statuses sources action =>
    .ok (.filter (if statuses.isEmpty then allNotificationStatuses else statuses)
      (if sources.isEmpty then allNotificationSources else sources) (bulkNotificationPatch action))
  | .list notifications => (PatchAgreement.bulkActSelection notifications).map .list

/-- `bulk_act_notifications`, where every job it makes can be queued. -/
def bulkActNotifications (db : Database) (args : BulkActNotificationsArgs) (userId : UserId) :
    Except ToolCallError (Except UniversalInboxError (Database × List Notification)) :=
  (bulkActSelection args).map fun
    | .filter statusFilters sourceFilters patch =>
      .ok (updateNotificationsByFilter db statusFilters sourceFilters patch userId)
    | .list patches =>
      (PatchAgreement.patchNotificationsByIds (fun _ => [.acknowledged]) db patches userId).map
        fun patched => (patched.db, patched.notifications)

inductive NotificationSection where
  | inbox
  | snoozed
  | deleted
deriving DecidableEq, Repr

/-- The query parameters of a listing, as the route decodes them. -/
structure ListNotificationRequest where
  status : Option (List NotificationStatus)
  includeSnoozedNotifications : Option Bool
  onlySnoozedNotifications : Option Bool
  taskId : Option TaskId
  orderBy : Option NotificationListOrder
  sources : Option (List NotificationSourceKind)
  pageToken : Option PageToken

def sectionListParameters : NotificationSection → ListNotificationRequest
  | .inbox => ⟨some [.unread, .read], none, none, none, none, none, none⟩
  | .snoozed => ⟨some [.unread, .read], none, some true, none, none, none, none⟩
  | .deleted => ⟨some [.deleted], some true, none, none, none, none, none⟩

/-- The filters of the web interface: the sources selected, in the order of their names. -/
structure NotificationFilters where
  selected : List NotificationSourceKind
  sortBy : NotificationListOrder
  currentPageToken : PageToken

/-- The list of filters of `list_notifications`. -/
def ListNotificationRequest.filters (request : ListNotificationRequest) (userId : UserId) :
    Filters where
  status := request.status.getD []
  includeSnoozedNotifications := request.includeSnoozedNotifications.getD false
  onlySnoozedNotifications := request.onlySnoozedNotifications.getD false
  taskId := request.taskId
  orderBy := request.orderBy.getD .updatedAtAsc
  fromSources := request.sources.getD []
  userId

def listNotifications (db : Database) (request : ListNotificationRequest) (userId : UserId)
    (snap : Snapshot db) : Except UniversalInboxError (Page NotificationWithTask) :=
  fetchAllNotifications db defaultPageSize (request.filters userId) request.pageToken snap

/-- The list that the web interface asks for; no source selected is an empty parameter. -/
def refreshNotifications (db : Database) (current : NotificationSection)
    (filters : NotificationFilters) (userId : UserId) (snap : Snapshot db) :
    Except UniversalInboxError (Page NotificationWithTask) :=
  listNotifications db
    { sectionListParameters current with
      orderBy := some filters.sortBy
      sources := some filters.selected
      pageToken := some filters.currentPageToken } userId snap

/-- The request that "Delete all" sends, as `patch_notifications` runs it. -/
def deleteAllNotifications (db : Database) (filters : NotificationFilters) (userId : UserId) :
    Database :=
  (updateNotificationsByFilter db [.unread, .read] filters.selected
    deletedPatch userId).1

section Filter
variable {db : Database} {status : List NotificationStatus}
  {fromSources : List NotificationSourceKind} {patch : NotificationPatch} {userId : UserId}
  {row : NotificationRow}

/-- The notifications that the filter of an update names, an empty list standing for no restriction. -/
structure Matches (status : List NotificationStatus) (fromSources : List NotificationSourceKind)
    (userId : UserId) (row : NotificationRow) : Prop where
  owned : row.userId = userId
  inInbox : row.setAsideAt = none
  status : status = [] ∨ row.status ∈ status
  source : fromSources = [] ∨ row.kind ∈ fromSources

theorem selects_filter_iff :
    (NotificationUpdateSelector.filter status fromSources).selects userId row = true ↔
      Matches status fromSources userId row := by
  simp only [NotificationUpdateSelector.selects, Bool.and_eq_true, Bool.or_eq_true, beq_iff_eq,
    List.isEmpty_iff, List.contains_iff_mem, Option.isNone_iff_eq_none]
  constructor
  · rintro ⟨⟨⟨howned, hstatus⟩, hsource⟩, hinbox⟩
    exact ⟨howned, hinbox, hstatus, hsource⟩
  · rintro ⟨howned, hinbox, hstatus, hsource⟩
    exact ⟨⟨⟨howned, hstatus⟩, hsource⟩, hinbox⟩

theorem filterMap_ids {f : NotificationRow → Option Notification} {rows : List NotificationRow}
    (h : ∀ row ∈ rows, ∃ n, f row = some n ∧ n.id = row.id) :
    (rows.filterMap f).map (·.id) = rows.map (·.id) := by
  induction rows with
  | nil => rfl
  | cons row rest ih =>
    obtain ⟨n, hn, hid⟩ := h row List.mem_cons_self
    rw [List.filterMap_cons_some hn, List.map_cons, List.map_cons, hid,
      ih fun r hr => h r (List.mem_cons_of_mem _ hr)]

/-- The update returns every notification it selects, and no other. -/
theorem updateNotificationsByFilter_ids
    (hwrites : (patch.status.isNone && patch.snoozedUntil.isNone) = false) :
    (updateNotificationsByFilter db status fromSources patch userId).2.map (·.id) =
      (db.notifications.rows.filter fun row =>
        (NotificationUpdateSelector.filter status fromSources).selects userId row).map (·.id) := by
  rw [updateNotificationsByFilter, if_neg (by rw [hwrites]; exact Bool.false_ne_true)]
  refine filterMap_ids fun row hrow => ?_
  obtain ⟨hmem, hselects⟩ := List.mem_filter.mp hrow
  have hwritten : patchRow patch row ∈ (updateNotifications db
      (fun row => (NotificationUpdateSelector.filter status fromSources).selects userId row)
      (patchRow patch) (assignable_patchRow db patch)).notifications.rows :=
    List.mem_map.mpr ⟨row, hmem, if_pos hselects⟩
  obtain ⟨item, -, -, hjoin⟩ := joinedNotification_of_mem hwritten
  exact ⟨_, hjoin, rfl⟩

/-- Two filters that agree on the stored notifications make one update. -/
theorem updateNotificationsByFilter_congr {status' : List NotificationStatus}
    {fromSources' : List NotificationSourceKind} (h : ∀ row ∈ db.notifications.rows,
      (Matches status fromSources userId row ↔ Matches status' fromSources' userId row)) :
    updateNotificationsByFilter db status fromSources patch userId =
      updateNotificationsByFilter db status' fromSources' patch userId := by
  have hselects : ∀ row ∈ db.notifications.rows,
      (NotificationUpdateSelector.filter status fromSources).selects userId row =
        (NotificationUpdateSelector.filter status' fromSources').selects userId row := by
    intro row hrow
    rw [Bool.eq_iff_iff, selects_filter_iff, selects_filter_iff, h row hrow]
  have hupdate : updateNotifications db
        (fun row => (NotificationUpdateSelector.filter status fromSources).selects userId row)
        (patchRow patch) (assignable_patchRow db patch) =
      updateNotifications db
        (fun row => (NotificationUpdateSelector.filter status' fromSources').selects userId row)
        (patchRow patch) (assignable_patchRow db patch) := by
    unfold updateNotifications
    congr 1
    exact Table.update_congr hselects
  unfold updateNotificationsByFilter
  dsimp only
  rw [hupdate, List.filter_congr hselects]

/-- Of the notifications that an update without a restriction on the sources writes, the tool's list
of sources misses those of TickTick. -/
theorem matches_expanded_iff :
    Matches (if status.isEmpty then allNotificationStatuses else status)
        (if fromSources.isEmpty then allNotificationSources else fromSources) userId row ↔
      Matches status fromSources userId row ∧ (fromSources = [] → row.kind ≠ .tickTick) := by
  have hstatuses : row.status ∈ allNotificationStatuses := by
    cases row.status <;> decide
  have hsources : row.kind ∈ allNotificationSources ↔ row.kind ≠ .tickTick := by
    cases row.kind <;> decide
  constructor
  · rintro ⟨howned, hinbox, hstatus, hsource⟩
    refine ⟨⟨howned, hinbox, ?_, ?_⟩, ?_⟩
    · cases status with
      | nil => exact .inl rfl
      | cons _ _ => exact hstatus
    · cases fromSources with
      | nil => exact .inl rfl
      | cons _ _ => exact hsource
    · rintro rfl
      exact hsources.mp (hsource.resolve_left (List.cons_ne_nil _ _))
  · rintro ⟨⟨howned, hinbox, hstatus, hsource⟩, htickTick⟩
    refine ⟨howned, hinbox, ?_, ?_⟩
    · cases status with
      | nil => exact .inr hstatuses
      | cons _ _ => exact hstatus
    · cases fromSources with
      | nil => exact .inr (hsources.mpr (htickTick rfl))
      | cons _ _ => exact hsource

theorem bulkNotificationPatch_writes (action : BulkNotificationAction) :
    ((bulkNotificationPatch action).status.isNone &&
      (bulkNotificationPatch action).snoozedUntil.isNone) = false := by
  cases action <;> rfl

theorem mem_updateNotificationsByFilter_ids {id : NotificationId}
    (hwrites : (patch.status.isNone && patch.snoozedUntil.isNone) = false) :
    id ∈ (updateNotificationsByFilter db status fromSources patch userId).2.map (·.id) ↔
      ∃ row ∈ db.notifications.rows, row.id = id ∧ Matches status fromSources userId row := by
  rw [updateNotificationsByFilter_ids hwrites, List.mem_map]
  constructor
  · rintro ⟨row, hrow, rfl⟩
    obtain ⟨hmem, hselects⟩ := List.mem_filter.mp hrow
    exact ⟨row, hmem, rfl, selects_filter_iff.mp hselects⟩
  · rintro ⟨row, hrow, rfl, hmatches⟩
    exact ⟨row, List.mem_filter.mpr ⟨hrow, selects_filter_iff.mpr hmatches⟩, rfl⟩

/-- The filter mode of the tool does what the repository's update does with the same lists, an empty
one standing for no restriction, just in case no notification of TickTick is missed: where the
sources are omitted, none that the user has in the inbox matches the statuses. -/
theorem bulkActNotifications_unrestricted_iff (db : Database) (statuses : List NotificationStatus)
    (sources : List NotificationSourceKind) (action : BulkNotificationAction) (userId : UserId) :
    bulkActNotifications db (.filter statuses sources action) userId =
        .ok (.ok (updateNotificationsByFilter db statuses sources (bulkNotificationPatch action)
          userId)) ↔
      (sources = [] → ∀ row ∈ db.notifications.rows, row.kind = .tickTick →
        ¬(row.userId = userId ∧ row.setAsideAt = none ∧
          (statuses = [] ∨ row.status ∈ statuses))) := by
  have htool : bulkActNotifications db (.filter statuses sources action) userId =
      .ok (.ok (updateNotificationsByFilter db
        (if statuses.isEmpty then allNotificationStatuses else statuses)
        (if sources.isEmpty then allNotificationSources else sources)
        (bulkNotificationPatch action) userId)) := rfl
  rw [htool, Except.ok.injEq, Except.ok.injEq]
  constructor
  · rintro heq hsources row hrow hkind ⟨howned, hinbox, hstatus⟩
    have hmem : row.id ∈ (updateNotificationsByFilter db statuses sources
        (bulkNotificationPatch action) userId).2.map (·.id) :=
      (mem_updateNotificationsByFilter_ids (bulkNotificationPatch_writes action)).mpr
        ⟨row, hrow, rfl, howned, hinbox, hstatus, .inl hsources⟩
    rw [← heq, mem_updateNotificationsByFilter_ids (bulkNotificationPatch_writes action)] at hmem
    obtain ⟨row', hrow', hid, hmatches⟩ := hmem
    obtain rfl := Table.eq_of_key hrow' hrow hid
    exact (matches_expanded_iff.mp hmatches).2 hsources hkind
  · intro hnone
    refine updateNotificationsByFilter_congr fun row hrow => ?_
    rw [matches_expanded_iff]
    refine ⟨And.left, fun hmatches => ⟨hmatches, fun hsources hkind => ?_⟩⟩
    exact hnone hsources row hrow hkind ⟨hmatches.owned, hmatches.inInbox, hmatches.status⟩

end Filter

section List
variable {db : Database} {userId : UserId} {current : NotificationSection}
  {filters : NotificationFilters} {snap : Snapshot db} {row : NotificationRow}

/-- The filters of a section of the web interface. -/
def sectionFilters (current : NotificationSection) (filters : NotificationFilters)
    (userId : UserId) : Filters :=
  ListNotificationRequest.filters { sectionListParameters current with
    orderBy := some filters.sortBy
    sources := some filters.selected } userId

/-- What tells a section from another, for a notification of the user in the inbox and of the
selected sources. -/
def NotificationSection.shows (now : DateTime) (row : NotificationRow) :
    NotificationSection → Prop
  | .inbox => row.status ∈ [NotificationStatus.unread, .read] ∧
      ∀ wake ∈ row.snoozedUntil, wake ≤ pgTimestamp now
  | .snoozed => row.status ∈ [NotificationStatus.unread, .read] ∧
      ∃ wake ∈ row.snoozedUntil, pgTimestamp now < wake
  | .deleted => row.status = .deleted

theorem snoozeFilter_none {f : Filters} {now : DateTime} (honly : f.onlySnoozedNotifications = false)
    (hinclude : f.includeSnoozedNotifications = false) :
    snoozeFilter f now row = true ↔ ∀ wake ∈ row.snoozedUntil, wake ≤ pgTimestamp now := by
  rw [snoozeFilter, honly, hinclude]
  simp [Option.all_eq_true]

theorem snoozeFilter_only {f : Filters} {now : DateTime} (honly : f.onlySnoozedNotifications = true) :
    snoozeFilter f now row = true ↔ ∃ wake ∈ row.snoozedUntil, pgTimestamp now < wake := by
  rw [snoozeFilter, honly]
  simp [Option.any_eq_true]

theorem addFilters_section {now : DateTime} :
    addFilters (sectionFilters current filters userId) now none row = true ↔
      Matches [] filters.selected userId row ∧ current.shows now row := by
  have hbase : addFilters (sectionFilters current filters userId) now none row = true ↔
      row.status ∈ (sectionFilters current filters userId).status ∧
        Matches [] filters.selected userId row ∧
          snoozeFilter (sectionFilters current filters userId) now row = true := by
    have hsome : (sectionFilters current filters userId).status ≠ [] := by
      cases current <;> exact List.cons_ne_nil _ _
    have htask : (sectionFilters current filters userId).taskId = none := by cases current <;> rfl
    have huser : (sectionFilters current filters userId).userId = userId := rfl
    have hsources : (sectionFilters current filters userId).fromSources = filters.selected := rfl
    simp only [addFilters, htask, huser, hsources, tokenFilter, Option.all_none, Bool.and_true,
      Bool.and_eq_true, Bool.or_eq_true, beq_iff_eq, List.isEmpty_iff, List.contains_iff_mem,
      Option.isNone_iff_eq_none]
    constructor
    · rintro ⟨⟨⟨⟨hstatus, howned⟩, hinbox⟩, hsnooze⟩, hsource⟩
      exact ⟨hstatus.resolve_left hsome, ⟨howned, hinbox, .inl rfl, hsource⟩, hsnooze⟩
    · rintro ⟨hstatus, ⟨howned, hinbox, -, hsource⟩, hsnooze⟩
      exact ⟨⟨⟨⟨.inr hstatus, howned⟩, hinbox⟩, hsnooze⟩, hsource⟩
  rw [hbase]
  cases current with
  | inbox =>
    rw [snoozeFilter_none rfl rfl]
    exact and_left_comm
  | snoozed =>
    rw [snoozeFilter_only rfl]
    exact and_left_comm
  | deleted =>
    show row.status ∈ [NotificationStatus.deleted] ∧ _ ∧ true = true ↔ _ ∧ row.status = .deleted
    rw [List.mem_singleton, and_iff_left rfl, and_comm]

/-- The listing that the pages of a section are cut from. -/
def sectionListing (current : NotificationSection) (filters : NotificationFilters) (userId : UserId)
    (snap : Snapshot db) : List NotificationWithTask :=
  orderByUpdatedAt (descending filters.sortBy false)
    ((snap.scan.filter (addFilters (sectionFilters current filters userId) snap.listNow none)).filterMap
      db.joinNotification)

theorem mem_sectionListing {id : NotificationId} :
    (∃ n ∈ sectionListing current filters userId snap, n.id = id) ↔ ∃ row ∈ db.notifications.rows,
      row.id = id ∧ Matches [] filters.selected userId row ∧ current.shows snap.listNow row := by
  have hperm := (orderByUpdatedAt_isListing (f := sectionFilters current filters userId)
    ((snap.scan.filter (addFilters (sectionFilters current filters userId) snap.listNow none)).filterMap
      db.joinNotification)).1
  constructor
  · rintro ⟨n, hn, rfl⟩
    obtain ⟨row, hrow, hjoin⟩ := List.mem_filterMap.mp (hperm.mem_iff.mp hn)
    obtain ⟨hscan, hfilter⟩ := List.mem_filter.mp hrow
    exact ⟨row, snap.scan_perm.mem_iff.mp hscan, (Database.joinNotification_id hjoin).1.symm,
      addFilters_section.mp hfilter⟩
  · rintro ⟨row, hrow, rfl, hshown⟩
    obtain ⟨n, hjoin⟩ := Option.isSome_iff_exists.mp (Database.joinNotification_isSome hrow)
    refine ⟨n, hperm.mem_iff.mpr (List.mem_filterMap.mpr ⟨row, ?_, hjoin⟩),
      (Database.joinNotification_id hjoin).1⟩
    exact List.mem_filter.mpr ⟨snap.scan_perm.mem_iff.mpr hrow, addFilters_section.mpr hshown⟩

/-- A page of the web interface is the part of the listing at its offset. -/
theorem refreshNotifications_content {offset : ℕ} {page : Page NotificationWithTask}
    (h : refreshNotifications db current { filters with currentPageToken := .offset offset } userId
      snap = .ok page) :
    page.content = ((sectionListing current filters userId snap).drop (asI64 offset).toNat).take
      defaultPageSize := by
  have h : fetchAllNotifications db defaultPageSize (sectionFilters current filters userId)
      (some (.offset offset)) snap = .ok page := h
  have hoffset := (fetchAllNotifications_ok h).1
  rw [fetchAllNotifications, if_neg (not_lt.mpr hoffset)] at h
  cases h
  rfl

theorem refreshNotifications_ok (current : NotificationSection) (filters : NotificationFilters)
    (userId : UserId) (snap : Snapshot db) {offset : ℕ} (hoffset : 0 ≤ asI64 offset) :
    ∃ page, refreshNotifications db current { filters with currentPageToken := .offset offset } userId
      snap = .ok page := by
  have hnonneg : ¬offsetOf (some (.offset offset)) < 0 := not_lt.mpr hoffset
  show ∃ page, fetchAllNotifications db defaultPageSize (sectionFilters current filters userId)
    (some (.offset offset)) snap = .ok page
  rw [fetchAllNotifications, if_neg hnonneg]
  exact ⟨_, rfl⟩

/-- A notification is on one of the pages of the section, all read at one instant. -/
def Listed (db : Database) (current : NotificationSection) (filters : NotificationFilters)
    (userId : UserId) (snap : Snapshot db) (id : NotificationId) : Prop :=
  ∃ number page, refreshNotifications db current
      { filters with currentPageToken := .offset (number * defaultPageSize) } userId snap = .ok page ∧
    ∃ n ∈ page.content, n.id = id

theorem listed_iff {id : NotificationId} (hrows : db.notifications.rows.length < 2 ^ 63) :
    Listed db current filters userId snap id ↔ ∃ row ∈ db.notifications.rows, row.id = id ∧
      Matches [] filters.selected userId row ∧ current.shows snap.listNow row := by
  rw [← mem_sectionListing]
  constructor
  · rintro ⟨number, page, hpage, n, hn, rfl⟩
    rw [refreshNotifications_content hpage] at hn
    exact ⟨n, List.mem_of_mem_drop (List.mem_of_mem_take hn), rfl⟩
  · rintro ⟨n, hn, rfl⟩
    obtain ⟨i, hi, hget⟩ := List.mem_iff_getElem.mp hn
    have hlength : (sectionListing current filters userId snap).length ≤
        db.notifications.rows.length := by
      have hperm := (orderByUpdatedAt_isListing (f := sectionFilters current filters userId)
        ((snap.scan.filter (addFilters (sectionFilters current filters userId)
          snap.listNow none)).filterMap db.joinNotification)).1
      calc (sectionListing current filters userId snap).length = _ := hperm.length_eq
        _ ≤ _ := List.length_filterMap_le _ _
        _ ≤ snap.scan.length := List.length_filter_le _ _
        _ = _ := snap.scan_perm.length_eq
    have hle : i / defaultPageSize * defaultPageSize ≤ i := Nat.div_mul_le_self i defaultPageSize
    have hcast : asI64 (i / defaultPageSize * defaultPageSize) =
        (i / defaultPageSize * defaultPageSize : ℕ) := by
      rw [asI64, Nat.mod_eq_of_lt (by omega)]
      exact if_pos (by omega)
    obtain ⟨page, hpage⟩ :=
      refreshNotifications_ok current filters userId snap (hcast ▸ Int.natCast_nonneg _)
    refine ⟨_, page, hpage, n, ?_, rfl⟩
    have hmod : i % defaultPageSize < defaultPageSize := Nat.mod_lt i (by decide)
    have hsum := Nat.div_add_mod' i defaultPageSize
    rw [refreshNotifications_content hpage, hcast, Int.toNat_natCast, List.mem_iff_getElem]
    refine ⟨i % defaultPageSize, ?_, ?_⟩
    · rw [List.length_take, List.length_drop]
      omega
    · rw [List.getElem_take, List.getElem_drop, ← hget]
      congr 1

/-- "Delete all" changes the notification. -/
def Deletes (db : Database) (filters : NotificationFilters) (userId : UserId)
    (id : NotificationId) : Prop :=
  (deleteAllNotifications db filters userId).notifications.find? id ≠ db.notifications.find? id

theorem deletes_iff {id : NotificationId} :
    Deletes db filters userId id ↔ ∃ row ∈ db.notifications.rows, row.id = id ∧
      Matches [] filters.selected userId row ∧ row.status ∈ [NotificationStatus.unread, .read] := by
  have hfind : (deleteAllNotifications db filters userId).notifications.find? id =
      (db.notifications.find? id).map fun row =>
        if (NotificationUpdateSelector.filter [.unread, .read] filters.selected).selects userId row
        then patchRow deletedPatch row else row :=
    Table.find?_update (e := (assignable_patchRow db deletedPatch).id)
  rw [Deletes, hfind]
  constructor
  · intro hchanged
    cases hrow : db.notifications.find? id with
    | none => rw [hrow] at hchanged; exact absurd rfl hchanged
    | some row =>
      rw [hrow, Option.map_some] at hchanged
      obtain ⟨hmem, hid⟩ := Table.find?_eq_some.mp hrow
      split at hchanged
      · rename_i hselects
        obtain ⟨howned, hinbox, hstatus, hsource⟩ := selects_filter_iff.mp hselects
        exact ⟨row, hmem, hid, ⟨howned, hinbox, .inl rfl, hsource⟩,
          hstatus.resolve_left (List.cons_ne_nil _ _)⟩
      · exact absurd rfl hchanged
  · rintro ⟨row, hmem, rfl, hmatches, hstatus⟩
    have hselects : (NotificationUpdateSelector.filter [.unread, .read] filters.selected).selects
        userId row = true := selects_filter_iff.mpr
      ⟨hmatches.owned, hmatches.inInbox, .inr hstatus, hmatches.source⟩
    rw [Table.find?_eq_some.mpr ⟨hmem, rfl⟩, Option.map_some, if_pos hselects]
    intro hsame
    have hdeleted : row.status = .deleted := congrArg NotificationRow.status (Option.some.inj hsame).symm
    rw [hdeleted] at hstatus
    exact absurd hstatus (by decide)

/-- What a notification of the user in the inbox and of the selected sources has to be like, so that
"Delete all" in the section treats it as the section shows it. -/
def NotificationSection.SweptAsShown (now : DateTime) (row : NotificationRow) :
    NotificationSection → Prop
  | .inbox => row.status ∈ [NotificationStatus.unread, .read] →
      ∀ wake ∈ row.snoozedUntil, wake ≤ pgTimestamp now
  | .snoozed => row.status ∈ [NotificationStatus.unread, .read] →
      ∃ wake ∈ row.snoozedUntil, pgTimestamp now < wake
  | .deleted => row.status = .unsubscribed

theorem sweptAsShown_iff {now : DateTime} :
    current.SweptAsShown now row ↔
      (row.status ∈ [NotificationStatus.unread, .read] ↔ current.shows now row) := by
  cases current with
  | inbox => exact iff_self_and.symm
  | snoozed => exact iff_self_and.symm
  | deleted =>
    show row.status = .unsubscribed ↔ (row.status ∈ _ ↔ row.status = .deleted)
    cases row.status <;> decide

/-- "Delete all" changes exactly the notifications that the pages of the section show at that
instant, just in case no notification of the user in the inbox, of the selected sources, is swept
otherwise than it is shown. -/
theorem deleteAllNotifications_matches_iff (db : Database)
    (hrows : db.notifications.rows.length < 2 ^ 63) (current : NotificationSection)
    (filters : NotificationFilters) (userId : UserId) (snap : Snapshot db) :
    (∀ id, Deletes db filters userId id ↔ Listed db current filters userId snap id) ↔
      ∀ row ∈ db.notifications.rows, Matches [] filters.selected userId row →
        current.SweptAsShown snap.listNow row := by
  simp only [deletes_iff, listed_iff hrows, sweptAsShown_iff]
  constructor
  · intro hsame row hrow hmatches
    constructor
    · intro hstatus
      obtain ⟨row', hrow', hid, -, hshown⟩ := (hsame row.id).mp ⟨row, hrow, rfl, hmatches, hstatus⟩
      rwa [← Table.eq_of_key hrow' hrow hid]
    · intro hshown
      obtain ⟨row', hrow', hid, -, hstatus⟩ := (hsame row.id).mpr ⟨row, hrow, rfl, hmatches, hshown⟩
      rwa [← Table.eq_of_key hrow' hrow hid]
  · intro hswept id
    refine exists_congr fun row => and_congr_right fun hrow => and_congr_right fun _ =>
      and_congr_right fun hmatches => hswept row hrow hmatches

end List

/-- One unread notification of the user 0. -/
def singleDatabase (kind : NotificationSourceKind) (snoozedUntil : Option DateTime) : Database where
  __ := tiedDatabase 1
  notifications := ⟨[{ tiedNotification 0 with kind, snoozedUntil }], List.nodup_singleton _⟩
  notification_source := fun r hr => by rw [List.mem_singleton.mp hr]; rfl
  notification_task := fun r hr i hi => by rw [List.mem_singleton.mp hr] at hi; cases hi
  notification_updatedAt := fun r hr => by
    rw [List.mem_singleton.mp hr]
    show pgTimestamp postgresEpoch = postgresEpoch
    decide

/-- An agent marks everything as read, and the notification of a TickTick task stays unread. -/
theorem bulkActNotifications_misses_tickTick :
    ¬(bulkActNotifications (singleDatabase .tickTick none) (.filter [] [] .markRead) ⟨0⟩ =
      .ok (.ok (updateNotificationsByFilter (singleDatabase .tickTick none) [] []
        (bulkNotificationPatch .markRead) ⟨0⟩))) := by
  intro h
  have hlength := congrArg (fun acted => acted.toOption.bind fun updated =>
    updated.toOption.map fun updated => updated.2.length) h
  exact absurd hlength (by decide)

def allSources : NotificationFilters := ⟨[], .updatedAtAsc, .offset 0⟩

/-- Nothing is snoozed: the notification of the inbox is deleted as it is shown. -/
theorem deleteAllNotifications_matches_inbox :
    Deletes (singleDatabase .github none) allSources ⟨0⟩ ⟨0⟩ ∧
      Listed (singleDatabase .github none) .inbox allSources ⟨0⟩ (storedOrder _) ⟨0⟩ := by
  have hdeletes : Deletes (singleDatabase .github none) allSources ⟨0⟩ ⟨0⟩ := by
    unfold Deletes
    decide
  have hsame := (deleteAllNotifications_matches_iff (singleDatabase .github none) (by decide) .inbox
    allSources ⟨0⟩ (storedOrder _)).mpr fun row hrow _ _ wake hwake => by
      rw [List.mem_singleton.mp hrow] at hwake
      cases hwake
  exact ⟨hdeletes, (hsame ⟨0⟩).mp hdeletes⟩

/-- A notification that is still snoozed is not shown in the inbox, and deleted with it. -/
theorem deleteAllNotifications_deletes_snoozed :
    ¬∀ id, Deletes (singleDatabase .github (some (postgresEpoch + 1))) allSources ⟨0⟩ id ↔
      Listed (singleDatabase .github (some (postgresEpoch + 1))) .inbox allSources ⟨0⟩
        (storedOrder _) id := by
  intro hsame
  have hdeletes : Deletes (singleDatabase .github (some (postgresEpoch + 1))) allSources ⟨0⟩ ⟨0⟩ := by
    unfold Deletes
    decide
  obtain ⟨row, hrow, -, -, -, hawake⟩ := (listed_iff (by decide)).mp ((hsame ⟨0⟩).mp hdeletes)
  rw [List.mem_singleton.mp hrow] at hawake
  exact absurd (hawake _ rfl) (by decide)

end UniversalInbox.FilteredPatch
