import UniversalInbox.FilteredPatch
import UniversalInbox.NotificationSync

/-! What setting notifications aside and restoring them leaves of them. In between, the connection
may be muted or disconnected again, full syncs may retire what they do not find anymore, and the
inbox may be listed and patched with filters. -/
namespace UniversalInbox.SetAsideRoundTrip
open NotificationPatching NotificationListing
open BulkPatch (patchRow NotificationUpdateSelector)
open ConnectionStatus (setStatus)
open FilteredPatch (updateNotificationsByFilter)
open NotificationSync (deleteStaleNotificationsStatusFromSourceIds)
open SetAside (notificationSourceKind restorableKind)
open StalePass (isStaleNotification isReadOrUnread)

/-- `update_set_aside_at` with an instant. -/
def setAsideNotifications (db : Database) (kind : NotificationSourceKind) (userId : UserId)
    (now : DateTime) : Database :=
  updateNotifications db
    (fun row => row.kind == kind && row.userId == userId && row.setAsideAt.isNone)
    (fun row => { row with setAsideAt := some (pgTimestamp now) })
    ⟨fun _ => rfl, fun _ => rfl, fun _ => rfl, fun _ => rfl, db.notification_task⟩

def reconcileSetAsideNotifications (db : Database) (connection : IntegrationConnectionRow)
    (now : DateTime) : Database :=
  if connection.shouldSetAsideNotifications then
    match notificationSourceKind connection.config with
    | none => db
    | some kind => setAsideNotifications db kind connection.userId now
  else db

def restoreSetAsideNotifications (db : Database) (connection : IntegrationConnectionRow) :
    Database :=
  match restorableKind connection with
  | none => db
  | some kind => NotificationSync.restoreSetAsideNotifications connection.userId db kind

/-- What the user does to a connection before it is reconciled. -/
inductive ConnectionUpdate where
  | setConfig (config : IntegrationConnectionConfig)
  | disconnect

def ConnectionUpdate.apply : ConnectionUpdate → IntegrationConnectionRow → IntegrationConnectionRow
  | .setConfig config => SetAside.setConfig config
  | .disconnect => setStatus .created none none

/-- What may happen to notifications until they are restored. -/
inductive Operation where
  | updateConnection (connection : IntegrationConnectionRow) (update : ConnectionUpdate)
      (now : DateTime)
  | deleteStale (activeSourceThirdPartyItemIds : List ThirdPartyItemId)
      (kind : NotificationSourceKind) (userId : UserId)
  | updateNotifications (status : List NotificationStatus)
      (fromSources : List NotificationSourceKind) (patch : NotificationPatch) (userId : UserId)
  | listNotifications (request : FilteredPatch.ListNotificationRequest) (userId : UserId)

def Operation.apply (db : Database) : Operation → Database
  | .updateConnection connection update now =>
    reconcileSetAsideNotifications db (update.apply connection) now
  | .deleteStale activeSourceThirdPartyItemIds kind userId =>
    deleteStaleNotificationsStatusFromSourceIds db activeSourceThirdPartyItemIds kind userId
  | .updateNotifications status fromSources patch userId =>
    (updateNotificationsByFilter db status fromSources patch userId).1
  | .listNotifications _ _ => db

def run (db : Database) (operations : List Operation) : Database :=
  operations.foldl Operation.apply db

/-- The stale passes that delete a notification. -/
def Operation.retires (row : NotificationRow) : Operation → Bool
  | .deleteStale activeSourceThirdPartyItemIds kind userId =>
    isStaleNotification activeSourceThirdPartyItemIds kind userId row
  | _ => false

/-- A notification as it was before some operations, but for its deletion and where it is. -/
def outcome (operations : List Operation) (setAsideAt : Option DateTime) (row : NotificationRow) :
    NotificationRow :=
  { row with
    status := if operations.any (·.retires row) then .deleted else row.status
    setAsideAt }

/-- No list shows the notification or counts it. -/
def InNoList (db : Database) (id : NotificationId) : Prop :=
  ∀ (pageSize : Nat) (f : Filters) (pageToken : Option PageToken) (snap : Snapshot db)
    (page : Page NotificationWithTask), fetchAllNotifications db pageSize f pageToken snap = .ok page →
      (∀ n ∈ page.content, n.id ≠ id) ∧
      page.total = ((snap.scan.filter (·.id != id)).filter (addFilters f snap.countNow none)).length

/-- No filter of a bulk update reaches the notification. -/
def InNoFilteredUpdate (db : Database) (row : NotificationRow) : Prop :=
  ∀ (status : List NotificationStatus) (fromSources : List NotificationSourceKind)
    (patch : NotificationPatch) (userId : UserId),
      row ∈ (updateNotificationsByFilter db status fromSources patch userId).1.notifications.rows ∧
      ∀ n ∈ (updateNotificationsByFilter db status fromSources patch userId).2, n.id ≠ row.id

section Statements
variable {db : Database} {row : NotificationRow} {kind : NotificationSourceKind} {userId : UserId}
  {now : DateTime} {connection : IntegrationConnectionRow}

theorem rows_setAsideNotifications :
    (setAsideNotifications db kind userId now).notifications.rows =
      SetAside.updateSetAsideAt db.notifications.rows kind userId (some (pgTimestamp now)) := by
  apply List.map_congr_left
  intro row _
  cases hrow : row.setAsideAt <;> simp [hrow]

/-- On the rows, the reconciliation is the one of the model of the connections. -/
theorem rows_reconcile :
    (reconcileSetAsideNotifications db connection now).notifications.rows =
      SetAside.reconcileSetAsideNotifications db.notifications.rows connection (pgTimestamp now) := by
  unfold reconcileSetAsideNotifications SetAside.reconcileSetAsideNotifications
  split
  · cases notificationSourceKind connection.config with
    | none => rfl
    | some kind => exact rows_setAsideNotifications
  · rfl

/-- A disconnected connection feeds nothing. -/
theorem shouldSetAside_disconnect (h : connection.config.canRestoreSetAsideNotifications = true) :
    (ConnectionUpdate.disconnect.apply connection).shouldSetAsideNotifications = true := by
  refine Bool.and_eq_true_iff.mpr ⟨h, ?_⟩
  rfl

/-- An `UPDATE` leaves a row that it does not select. -/
theorem mem_updateNotifications {p : NotificationRow → Bool} {f : NotificationRow → NotificationRow}
    {h : Assignable db f} (hrow : row ∈ db.notifications.rows) (hp : p row = false) :
    row ∈ (updateNotifications db p f h).notifications.rows :=
  List.mem_map.mpr ⟨row, hrow, if_neg (Bool.eq_false_iff.mp hp)⟩

theorem mem_setAside_visible (hrow : row ∈ db.notifications.rows) (hkind : row.kind = kind)
    (huser : row.userId = userId) :
    { row with setAsideAt := some (row.setAsideAt.getD (pgTimestamp now)) } ∈
      (setAsideNotifications db kind userId now).notifications.rows := by
  cases hhidden : row.setAsideAt with
  | none =>
    refine List.mem_map.mpr ⟨row, hrow, ?_⟩
    rw [if_pos (by simp [hkind, huser, hhidden]), Option.getD_none]
  | some t =>
    rw [Option.getD_some, ← hhidden]
    exact mem_updateNotifications hrow (by simp [hhidden])

theorem mem_reconcile_hidden {t : DateTime} (hrow : row ∈ db.notifications.rows)
    (hhidden : row.setAsideAt = some t) :
    row ∈ (reconcileSetAsideNotifications db connection now).notifications.rows := by
  unfold reconcileSetAsideNotifications
  split
  · split
    · exact hrow
    · exact mem_updateNotifications hrow (by simp [hhidden])
  · exact hrow

theorem mem_restore {t : DateTime} (hrow : row ∈ db.notifications.rows)
    (hhidden : row.setAsideAt = some t) (hkind : restorableKind connection = some row.kind)
    (huser : connection.userId = row.userId) :
    { row with setAsideAt := none } ∈
      (restoreSetAsideNotifications db connection).notifications.rows := by
  unfold restoreSetAsideNotifications
  rw [hkind]
  exact List.mem_map.mpr ⟨row, hrow, if_pos (by simp [huser, hhidden])⟩

end Statements

section Hidden
variable {db : Database} {row : NotificationRow} {t : DateTime}

/-- A filter selects the visible notifications only. -/
theorem selects_hidden {status : List NotificationStatus} {fromSources : List NotificationSourceKind}
    {userId : UserId} (hhidden : row.setAsideAt = some t) :
    (NotificationUpdateSelector.filter status fromSources).selects userId row = false := by
  simp [NotificationUpdateSelector.selects, hhidden]

theorem addFilters_hidden {f : Filters} {now : DateTime} {token : Option PageToken}
    (hhidden : row.setAsideAt = some t) : addFilters f now token row = false := by
  simp [addFilters, hhidden]

theorem inNoFilteredUpdate_of_hidden (hrow : row ∈ db.notifications.rows)
    (hhidden : row.setAsideAt = some t) : InNoFilteredUpdate db row := by
  intro status fromSources patch userId
  unfold updateNotificationsByFilter
  split
  · exact ⟨hrow, fun n hn => (List.not_mem_nil hn).elim⟩
  · refine ⟨mem_updateNotifications (h := assignable_patchRow db patch) hrow
      (selects_hidden hhidden), fun n hn hid => ?_⟩
    obtain ⟨other, hother, hjoin⟩ := List.mem_filterMap.mp hn
    obtain ⟨hmem, hselects⟩ := List.mem_filter.mp hother
    have hsame : other = row :=
      Table.eq_of_key hmem hrow ((PatchAgreement.joinedNotification_id hjoin).symm.trans hid)
    rw [hsame, selects_hidden hhidden] at hselects
    exact Bool.false_ne_true hselects

/-- Of the rows that a listing reads, the ones that match are among the others. -/
theorem inNoList_of_hidden (hrow : row ∈ db.notifications.rows) (hhidden : row.setAsideAt = some t) :
    InNoList db row.id := by
  intro pageSize f pageToken snap page hpage
  have hother : ∀ other ∈ snap.scan, ∀ now token, addFilters f now token other = true →
      other.id ≠ row.id := by
    intro other hmem now token hmatches hid
    rw [Table.eq_of_key (snap.scan_perm.mem_iff.mp hmem) hrow hid, addFilters_hidden hhidden]
      at hmatches
    exact Bool.false_ne_true hmatches
  unfold fetchAllNotifications at hpage
  dsimp only at hpage
  split at hpage
  · cases hpage
  · cases hpage
    refine ⟨fun n hn => ?_, ?_⟩
    · have hsorted : n ∈ (snap.scan.filter (addFilters f snap.listNow pageToken)).filterMap
          db.joinNotification := by
        have hrecords := List.mem_of_mem_drop (List.mem_of_mem_take
          (show n ∈ List.take _ _ by split at hn <;> simpa using hn))
        unfold orderByUpdatedAt at hrecords
        split at hrecords <;> exact (List.perm_insertionSort _ _).mem_iff.mp hrecords
      obtain ⟨other, hfiltered, hjoin⟩ := List.mem_filterMap.mp hsorted
      obtain ⟨hmem, hmatches⟩ := List.mem_filter.mp hfiltered
      rw [(Database.joinNotification_id hjoin).1]
      exact hother other hmem _ _ hmatches
    · rw [List.filter_filter]
      refine congrArg List.length (List.filter_congr fun other hmem => ?_)
      cases hmatches : addFilters f snap.countNow none other with
      | false => rfl
      | true => simpa using hother other hmem _ _ hmatches

end Hidden

section Run
variable {db : Database} {row : NotificationRow} {t : DateTime}

theorem thirdPartyItems_apply (operation : Operation) :
    (operation.apply db).thirdPartyItems = db.thirdPartyItems := by
  cases operation with
  | updateConnection connection update now =>
    simp only [Operation.apply, reconcileSetAsideNotifications]
    split
    · split <;> rfl
    · rfl
  | deleteStale ids kind userId => rfl
  | updateNotifications status fromSources patch userId =>
    simp only [Operation.apply, updateNotificationsByFilter]
    split <;> rfl
  | listNotifications request userId => rfl

theorem thirdPartyItems_run (operations : List Operation) :
    (run db operations).thirdPartyItems = db.thirdPartyItems := by
  induction operations generalizing db with
  | nil => rfl
  | cons operation rest ih => exact ih.trans (thirdPartyItems_apply operation)

/-- A notification that is set aside stays as it is, but for a stale pass that deletes it. -/
theorem mem_apply (operation : Operation) (hrow : row ∈ db.notifications.rows)
    (hhidden : row.setAsideAt = some t) :
    (if operation.retires row then { row with status := .deleted } else row) ∈
      (operation.apply db).notifications.rows := by
  cases operation with
  | updateConnection connection update now => exact mem_reconcile_hidden hrow hhidden
  | deleteStale ids kind userId =>
    exact List.mem_map.mpr ⟨row, hrow, rfl⟩
  | updateNotifications status fromSources patch userId =>
    exact (inNoFilteredUpdate_of_hidden hrow hhidden status fromSources patch userId).1
  | listNotifications request userId => exact hrow

theorem outcome_cons (operation : Operation) (rest : List Operation) {setAsideAt : Option DateTime} :
    outcome rest setAsideAt (if operation.retires row then { row with status := .deleted } else row) =
      outcome (operation :: rest) setAsideAt row := by
  unfold outcome
  rw [List.any_cons]
  cases operation.retires row with
  | false => rfl
  | true => rw [if_pos rfl, Bool.true_or, if_pos rfl, ite_self]

theorem mem_run (operations : List Operation) (hrow : row ∈ db.notifications.rows)
    (hhidden : row.setAsideAt = some t) :
    outcome operations (some t) row ∈ (run db operations).notifications.rows := by
  induction operations generalizing db row with
  | nil =>
    have hsame : outcome [] (some t) row = row := by
      unfold outcome
      rw [← hhidden]
      rfl
    rwa [hsame]
  | cons operation rest ih =>
    rw [← outcome_cons]
    refine ih (mem_apply operation hrow hhidden) ?_
    split <;> exact hhidden

end Run

/-- The notifications of a connection that is muted or disconnected, whatever the later operations
are: they are set aside since then, or since before, out of every list, every count and every
filtered update, and unchanged but for the stale passes that delete them. A connection that feeds
the inbox again restores them so. -/
theorem setAside_round_trip (db : Database) (connection : IntegrationConnectionRow)
    (update : ConnectionUpdate) (now : DateTime) (kind : NotificationSourceKind)
    (operations : List Operation)
    (hsetAside : (update.apply connection).shouldSetAsideNotifications = true)
    (hkind : notificationSourceKind (update.apply connection).config = some kind)
    (row : NotificationRow) (hrow : row ∈ db.notifications.rows) (hrowKind : row.kind = kind)
    (hrowUser : row.userId = connection.userId) :
    let hidden := run db (.updateConnection connection update now :: operations)
    let setAsideAt := some (row.setAsideAt.getD (pgTimestamp now))
    hidden.thirdPartyItems = db.thirdPartyItems ∧
      outcome operations setAsideAt row ∈ hidden.notifications.rows ∧
      InNoList hidden row.id ∧
      InNoFilteredUpdate hidden (outcome operations setAsideAt row) ∧
      ∀ feeding : IntegrationConnectionRow, feeding.userId = connection.userId →
        restorableKind feeding = some kind →
        outcome operations none row ∈
          (restoreSetAsideNotifications hidden feeding).notifications.rows := by
  intro hidden setAsideAt
  have huser : (update.apply connection).userId = connection.userId := by cases update <;> rfl
  have hreconciled : { row with setAsideAt } ∈ (Operation.apply db
      (.updateConnection connection update now)).notifications.rows := by
    simp only [Operation.apply, reconcileSetAsideNotifications, if_pos hsetAside, hkind]
    exact mem_setAside_visible hrow hrowKind (hrowUser.trans huser.symm)
  have hrun : outcome operations setAsideAt { row with setAsideAt } ∈ hidden.notifications.rows :=
    mem_run operations hreconciled rfl
  have hhidden : outcome operations setAsideAt row ∈ hidden.notifications.rows := hrun
  have hinNoList : InNoList hidden (outcome operations setAsideAt row).id :=
    inNoList_of_hidden hhidden rfl
  refine ⟨thirdPartyItems_run _, hhidden, hinNoList,
    inNoFilteredUpdate_of_hidden hhidden rfl, fun feeding hsame hfeeds => ?_⟩
  refine mem_restore hhidden rfl ?_ (hsame.trans hrowUser.symm)
  exact hfeeds.trans (congrArg some hrowKind.symm)

def linearConnection : IntegrationConnectionRow :=
  { id := ⟨1⟩, userId := ⟨1⟩, providerKind := .linear, providerUserId := none, status := .validated,
    failureMessage := none, notificationsSync := ⟨none, none, none, none, none, 0, none⟩,
    tasksSync := ⟨none, none, none, none, none, 0, none⟩, config := .linear true,
    registeredOauthScopes := [] }

/-- Muted after the connection was disconnected; everything in the inbox deleted; a full sync that
still finds the item. -/
def whileDisconnected : List Operation :=
  [.updateConnection linearConnection (.setConfig (.linear false)) 1000,
    .updateNotifications [.unread, .read] [] deletedPatch ⟨1⟩, .deleteStale [⟨1⟩] .linear ⟨1⟩]

theorem linear_comes_back :
    NotificationUpsert.linearRow ∈ (restoreSetAsideNotifications
      (run NotificationUpsert.linearDatabase
        (.updateConnection linearConnection .disconnect 0 :: whileDisconnected))
      linearConnection).notifications.rows :=
  (setAside_round_trip NotificationUpsert.linearDatabase linearConnection .disconnect 0 .linear
    whileDisconnected (shouldSetAside_disconnect rfl) rfl NotificationUpsert.linearRow
    List.mem_cons_self rfl rfl).2.2.2.2 linearConnection rfl rfl

end UniversalInbox.SetAsideRoundTrip
