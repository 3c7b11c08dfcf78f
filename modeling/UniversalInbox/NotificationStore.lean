import UniversalInbox.NotificationUpsert

/-! `create_or_update_notification` on the tables, and what it leaves of a stored notification. -/
namespace UniversalInbox.NotificationUpsert
open TaskUpsert

/-- A notification joined with its source item, as the upsert reads it. -/
def joinedNotification (db : Database) (row : NotificationRow) : Option Notification :=
  (db.nestedItem row.sourceItemId).map (intoNotification row)

def getNotification (db : Database) (id : NotificationId) : Option Notification :=
  (db.notifications.find? id).bind (joinedNotification db)

/-- The order in which a `SELECT` reads the notifications; nothing fixes it. -/
structure NotificationScan (db : Database) where
  rows : List NotificationRow
  perm : rows.Perm db.notifications.rows

theorem notifications_perm (db : Database) : db.notifications.rows.Perm db.notifications.rows :=
  .refl _

/-- Postgres reads the notifications in the order they were written. -/
def NotificationScan.insertionOrder (db : Database) : NotificationScan db :=
  ⟨db.notifications.rows, notifications_perm db⟩

/-- The row of the key that the `SELECT` reads first. -/
def NotificationScan.existing {db : Database} (scan : NotificationScan db)
    (request : UpsertRequest) : Option NotificationRow :=
  scan.rows.find? fun row => sourceKey row == request.key

theorem updateRow_id (request : UpsertRequest) (row : NotificationRow) :
    (updateRow request row).id = row.id := rfl

/-- `UPDATE notification … WHERE id`. -/
def applyUpdate (db : Database) (id : NotificationId) (request : UpsertRequest) : Database :=
  { db with
    notifications :=
      db.notifications.update (·.id == id) (updateRow request) (updateRow_id request)
    notification_source := by
      intro r hr
      obtain ⟨old, hold, rfl⟩ := (Table.mem_update (e := updateRow_id request)).mp hr
      split <;> exact db.notification_source old hold
    notification_task := by
      intro r hr
      obtain ⟨old, hold, rfl⟩ := (Table.mem_update (e := updateRow_id request)).mp hr
      split <;> exact db.notification_task old hold
    notification_updatedAt := by
      intro r hr
      obtain ⟨old, hold, rfl⟩ := (Table.mem_update (e := updateRow_id request)).mp hr
      split
      · exact pgTimestamp_pgTimestamp _
      · exact db.notification_updatedAt old hold }

/-- The foreign keys of a notification to insert. -/
structure Insertable (db : Database) (notification : Notification) : Prop where
  source : (db.thirdPartyItems.find? notification.sourceItem.id).isSome
  task : ∀ id ∈ notification.taskId, (db.tasks.find? id).isSome

instance (db : Database) (notification : Notification) : Decidable (Insertable db notification) :=
  decidable_of_iff ((db.thirdPartyItems.find? notification.sourceItem.id).isSome ∧
    ∀ id ∈ notification.taskId, (db.tasks.find? id).isSome)
    ⟨fun ⟨source, task⟩ => ⟨source, task⟩, fun ⟨source, task⟩ => ⟨source, task⟩⟩

def applyInsert (db : Database) (notification : Notification)
    (notifications : Table NotificationRow.id)
    (h : db.notifications.insert? (insertRow notification) = some notifications)
    (hkeys : Insertable db notification) : Database :=
  have hmem : ∀ r, r ∈ notifications.rows ↔
      r ∈ db.notifications.rows ∨ r = insertRow notification := by
    intro r
    rw [(Table.insert?_eq_some.mp h).2, List.mem_append, List.mem_singleton]
  { db with
    notifications
    notification_source := by
      intro r hr
      rcases (hmem r).mp hr with hr | rfl
      · exact db.notification_source r hr
      · exact hkeys.source
    notification_task := by
      intro r hr
      rcases (hmem r).mp hr with hr | rfl
      · exact db.notification_task r hr
      · exact hkeys.task
    notification_updatedAt := by
      intro r hr
      rcases (hmem r).mp hr with hr | rfl
      · exact db.notification_updatedAt r hr
      · exact pgTimestamp_pgTimestamp _ }

/-- Both statements of the upsert, run one after the other. -/
def upsertNotification (db : Database) (scan : NotificationScan db) (request : UpsertRequest) :
    Except UniversalInboxError (Database × UpsertStatus Notification) :=
  let existing := (scan.existing request).bind (joinedNotification db)
  let status := (createOrUpdateNotification existing request).2
  match existing with
  | some existing =>
    if existing == request.notification then .ok (db, status)
    else .ok (applyUpdate db existing.id request, status)
  | none =>
    match h : db.notifications.insert? (insertRow request.notification) with
    | none => .error (.databaseError
        s!"Failed to update notification with source ID {request.notification.sourceItem.sourceId} from storage")
    | some notifications =>
      if hkeys : Insertable db request.notification then
        .ok (applyInsert db request.notification notifications h hkeys, status)
      else .error (.databaseError
        s!"Failed to update notification with source ID {request.notification.sourceItem.sourceId} from storage")

section Upsert
variable {db db' : Database} {scan : NotificationScan db} {request : UpsertRequest}
  {row : NotificationRow} {status : UpsertStatus Notification}

theorem existing_eq_some (h : scan.existing request = some row) :
    row ∈ db.notifications.rows ∧ sourceKey row = request.key :=
  ⟨scan.perm.mem_iff.mp (List.mem_of_find?_eq_some h), by simpa using List.find?_some h⟩

/-- The foreign key makes the join keep the row. -/
theorem joinedNotification_of_mem (hrow : row ∈ db.notifications.rows) :
    ∃ item, db.nestedItem row.sourceItemId = some item ∧ item.id = row.sourceItemId ∧
      joinedNotification db row = some (intoNotification row item) := by
  obtain ⟨itemRow, hfind⟩ := Option.isSome_iff_exists.mp (db.notification_source row hrow)
  refine ⟨itemRow.intoThirdPartyItem (itemRow.sourceItemId.bind db.flatItem), ?_,
    (Table.find?_eq_some.mp hfind).2, ?_⟩
  · unfold Database.nestedItem
    rw [hfind, Option.map_some]
  · unfold joinedNotification Database.nestedItem
    rw [hfind, Option.map_some, Option.map_some]

/-- What an upsert of a notification that is not stored can do: one `INSERT`. -/
theorem upsertNotification_inserts
    (hnew : (scan.existing request).bind (joinedNotification db) = none)
    (h : upsertNotification db scan request = .ok (db', status)) :
    ∃ notifications,
      ∃ hinsert : db.notifications.insert? (insertRow request.notification) = some notifications,
        ∃ hkeys : Insertable db request.notification,
          db' = applyInsert db request.notification notifications hinsert hkeys ∧
            status = .created request.notification := by
  unfold upsertNotification at h
  simp only [hnew] at h
  split at h
  · cases h
  · next notifications hinsert =>
    split at h
    · next hkeys =>
      cases h
      exact ⟨notifications, hinsert, hkeys, rfl, rfl⟩
    · cases h

theorem getNotification_of_mem (hrow : row ∈ db.notifications.rows) :
    getNotification db row.id = joinedNotification db row := by
  unfold getNotification
  rw [Table.find?_eq_some.mpr ⟨hrow, rfl⟩, Option.bind_some]

/-- The fields of the equality that the `WHERE` clause leaves open. -/
def SameContent (request : UpsertRequest) (row : NotificationRow) : Prop :=
  row.title = request.notification.title ∧ row.status = request.notification.status ∧
    row.lastReadAt = request.notification.lastReadAt ∧ row.taskId = request.notification.taskId

instance (request : UpsertRequest) (row : NotificationRow) :
    Decidable (SameContent request row) := inferInstanceAs (Decidable (_ ∧ _))

theorem intoNotification_eq_iff {item : ThirdPartyItem} (hkey : sourceKey row = request.key)
    (hitem : item.id = row.sourceItemId) :
    (intoNotification row item == request.notification) = true ↔ SameContent request row := by
  simp only [sourceKey, UpsertRequest.key, SourceKey.mk.injEq] at hkey
  show (intoNotification row item).eq request.notification = true ↔ _
  simp only [Notification.eq, intoNotification, hitem, hkey, request.kind_eq, Bool.and_eq_true,
    beq_iff_eq, beq_self_eq_true, and_true, SameContent, and_assoc]

/-- The columns that no upsert of a stored notification writes. -/
structure Kept (row after : NotificationRow) : Prop where
  id : after.id = row.id
  kind : after.kind = row.kind
  createdAt : after.createdAt = row.createdAt
  userId : after.userId = row.userId
  taskId : after.taskId = row.taskId
  sourceItemId : after.sourceItemId = row.sourceItemId
  setAsideAt : after.setAsideAt = row.setAsideAt

/-- What the columns keep of a notification: its instants at their resolution. -/
def storedNotification (notification : Notification) : Notification :=
  { notification with
    createdAt := pgTimestamp notification.createdAt
    updatedAt := pgTimestamp notification.updatedAt
    lastReadAt := notification.lastReadAt.map pgTimestamp
    snoozedUntil := notification.snoozedUntil.map pgTimestamp }

theorem map_pgTimestamp_map (t : Option DateTime) :
    (t.map pgTimestamp).map pgTimestamp = t.map pgTimestamp := by
  rw [Option.map_map, show pgTimestamp ∘ pgTimestamp = pgTimestamp from funext pgTimestamp_pgTimestamp]

/-- An upsert of a stored notification that honours its flag, keeps what it does not write and
returns what is stored. -/
structure Honours (request : UpsertRequest) (row : NotificationRow) (db : Database)
    (value : Notification) : Prop where
  stored : ∃ after, db.notifications.find? row.id = some after ∧ Kept row after ∧
    after.snoozedUntil = if request.updateSnoozedUntil then
      request.notification.snoozedUntil.map pgTimestamp else row.snoozedUntil
  id : value.id = row.id
  reread : (getNotification db value.id).map storedNotification = some (storedNotification value)

/-- The flag asks for nothing that the equality hides. -/
def SnoozeCompared (request : UpsertRequest) (row : NotificationRow) : Prop :=
  request.updateSnoozedUntil = true → SameContent request row →
    row.snoozedUntil = request.notification.snoozedUntil.map pgTimestamp

theorem honours_untouched {item : ThirdPartyItem} (hrow : row ∈ db.notifications.rows)
    (hjoin : joinedNotification db row = some (intoNotification row item))
    (hsame : SameContent request row) :
    Honours request row db (intoNotification row item) ↔ SnoozeCompared request row := by
  have hfind : db.notifications.find? row.id = some row := Table.find?_eq_some.mpr ⟨hrow, rfl⟩
  constructor
  · rintro ⟨⟨after, hafter, -, hsnoozed⟩, -, -⟩ hflag -
    rw [hfind, Option.some_inj] at hafter
    rw [hafter, hsnoozed, if_pos hflag]
  · intro h
    refine ⟨⟨row, hfind, ⟨rfl, rfl, rfl, rfl, rfl, rfl, rfl⟩, ?_⟩, rfl, ?_⟩
    · split
      · next hflag => exact h hflag hsame
      · rfl
    · show (getNotification db row.id).map _ = _
      rw [getNotification_of_mem hrow, hjoin, Option.map_some]

theorem mem_applyUpdate {id : NotificationId} {after : NotificationRow} :
    after ∈ (applyUpdate db id request).notifications.rows ↔
      ∃ old ∈ db.notifications.rows,
        (if old.id == id then updateRow request old else old) = after :=
  Table.mem_update (e := updateRow_id request)

theorem honours_updated {item : ThirdPartyItem} (hrow : row ∈ db.notifications.rows)
    (hjoin : joinedNotification db row = some (intoNotification row item))
    (hdiffers : ¬ (intoNotification row item == request.notification) = true) :
    Honours request row (applyUpdate db row.id request)
      (createOrUpdateNotification (some (intoNotification row item)) request).2.value := by
  have hafter : updateRow request row ∈ (applyUpdate db row.id request).notifications.rows :=
    mem_applyUpdate.mpr ⟨row, hrow, if_pos (beq_self_eq_true _)⟩
  have hvalue : (createOrUpdateNotification (some (intoNotification row item)) request).2.value =
      { request.notification with
        id := row.id
        kind := row.kind
        createdAt := row.createdAt
        sourceItem := item
        userId := row.userId
        taskId := row.taskId
        snoozedUntil :=
          if request.updateSnoozedUntil then request.notification.snoozedUntil
          else row.snoozedUntil } := by
    unfold createOrUpdateNotification
    simp only [if_neg hdiffers]
    rfl
  rw [hvalue]
  refine ⟨⟨updateRow request row, Table.find?_eq_some.mpr ⟨hafter, rfl⟩,
    ⟨rfl, rfl, rfl, rfl, rfl, rfl, rfl⟩, rfl⟩, rfl, ?_⟩
  show (getNotification (applyUpdate db row.id request) (updateRow request row).id).map _ = _
  obtain ⟨found, hfound, hsame⟩ := Option.map_eq_some_iff.mp hjoin
  have hitem : found = item := congrArg Notification.sourceItem hsame
  rw [getNotification_of_mem hafter, joinedNotification,
    show (applyUpdate db row.id request).nestedItem (updateRow request row).sourceItemId =
      some item from hitem ▸ hfound]
  simp only [Option.map_some, intoNotification, updateRow, storedNotification,
    pgTimestamp_pgTimestamp, map_pgTimestamp_map]
  split <;> simp only [map_pgTimestamp_map]

/-- Upserting a stored notification honours the snooze flag, keeps its identifier, kind, creation,
owner and task and returns what is stored, if and only if a snooze it is to write does not come
with an otherwise equal notification. -/
theorem honours_iff (hread : scan.existing request = some row) :
    ∃ db' status, upsertNotification db scan request = .ok (db', status) ∧
      (Honours request row db' status.value ↔ SnoozeCompared request row) := by
  obtain ⟨hrow, hkey⟩ := existing_eq_some hread
  obtain ⟨item, -, hitem, hjoin⟩ := joinedNotification_of_mem hrow
  have hexisting : (scan.existing request).bind (joinedNotification db) =
      some (intoNotification row item) := by rw [hread, Option.bind_some, hjoin]
  unfold upsertNotification
  simp only [hexisting]
  by_cases heq : (intoNotification row item == request.notification) = true
  · rw [if_pos heq]
    refine ⟨_, _, rfl, ?_⟩
    have hvalue : (createOrUpdateNotification (some (intoNotification row item)) request).2.value =
        intoNotification row item := by
      unfold createOrUpdateNotification
      simp only [if_pos heq]
      rfl
    rw [hvalue]
    exact honours_untouched hrow hjoin ((intoNotification_eq_iff hkey hitem).mp heq)
  · rw [if_neg heq]
    refine ⟨_, _, rfl, iff_of_true (honours_updated hrow hjoin heq) ?_⟩
    exact fun _ hsame => absurd ((intoNotification_eq_iff hkey hitem).mpr hsame) heq

end Upsert

def linearItemRow : ThirdPartyItemRow :=
  { id := ⟨1⟩, sourceId := "1", data := .linearNotification "", createdAt := 0, updatedAt := 0,
    userId := ⟨1⟩, integrationConnectionId := ⟨1⟩, sourceItemId := none }

/-- What a sync makes of the Linear notification: Linear is the one source that snoozes. -/
def linearRequest (title : String) (snoozedUntil : Option DateTime) : UpsertRequest :=
  { notification :=
      { id := ⟨7⟩, title, status := .unread, createdAt := 0, updatedAt := 0, lastReadAt := none,
        snoozedUntil, userId := ⟨1⟩, taskId := none, kind := .linear,
        sourceItem := linearItemRow.intoThirdPartyItem none }
    kind := .linear
    updateSnoozedUntil := true
    kind_eq := rfl }

def linearRow : NotificationRow := { insertRow (linearRequest "a" none).notification with id := ⟨3⟩ }

def linearDatabase : Database where
  thirdPartyItems := ⟨[linearItemRow], List.nodup_singleton _⟩
  tasks := Table.empty
  notifications := ⟨[linearRow], List.nodup_singleton _⟩
  item_constraints := by decide
  task_source := fun _ h => (Table.not_mem_empty h).elim
  task_sink := fun _ h => (Table.not_mem_empty h).elim
  task_parent := Database.empty.task_parent
  task_source_unique := Database.empty.task_source_unique
  task_sink_unique := Database.empty.task_sink_unique
  notification_source := by decide
  notification_task := by decide
  notification_updatedAt := by decide

/-- Renamed and snoozed at once, the stored notification takes the snooze. -/
theorem renamedLinear_honours : ∃ db' status,
    upsertNotification linearDatabase ⟨[linearRow], .refl _⟩
      (linearRequest "b" (some 1000000000)) = .ok (db', status) ∧
    Honours (linearRequest "b" (some 1000000000)) linearRow db' status.value := by
  obtain ⟨db', status, hok, hiff⟩ := @honours_iff linearDatabase ⟨[linearRow], .refl _⟩
    (linearRequest "b" (some 1000000000)) linearRow rfl
  exact ⟨db', status, hok, hiff.mpr fun _ hsame => absurd hsame (by decide)⟩

/-- Snoozed in Linear and otherwise unchanged, it does not. -/
theorem snoozedLinear_not_honours : ∃ db' status,
    upsertNotification linearDatabase ⟨[linearRow], .refl _⟩
      (linearRequest "a" (some 1000000000)) = .ok (db', status) ∧
    ¬ Honours (linearRequest "a" (some 1000000000)) linearRow db' status.value := by
  refine ⟨_, _, rfl, ?_⟩
  rintro ⟨⟨after, hafter, -, hsnoozed⟩, -, -⟩
  cases hafter
  revert hsnoozed
  decide

end UniversalInbox.NotificationUpsert
