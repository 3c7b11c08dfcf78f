import UniversalInbox.NotificationResync

/-! What a sync that fetches all the notifications of a source leaves of them: those of what it
fetched, as it saved them, and none of the others in the inbox. -/
namespace UniversalInbox.FullNotificationSync
open NotificationConversion NotificationPatching NotificationSync NotificationUpsert
open NotificationResync (savingOf createNotification_stored)
open BulkPatch (patchRow)
open StalePass (isStaleNotification isReadOrUnread)
open ThirdPartyItemUpsert (storedItem saved_of_service)
open TodoistSync (exists_left_of_forall₂)
open Results (bind_eq_ok)

/-- A notification as a sync saves it of an item. -/
def SavedAs (setting : Setting) (db : Database) (source : NotificationSyncSourceKind)
    (userId : UserId) (x : SyncedItem) (row : NotificationRow) : Prop :=
  ∃ content, convert setting source x = some content ∧
    sourceKey row = (savingOf setting db userId x content).key userId ∧
    row.status = (savingOf setting db userId x content).savedStatus

/-- No two notifications of one source item, kind and user. -/
def OnePerKey (db : Database) : Prop :=
  ∀ row ∈ db.notifications.rows, ∀ other ∈ db.notifications.rows,
    sourceKey row = sourceKey other → row = other

section Creation
variable {setting : Setting} {order : ∀ db : Database, NotificationScan db}
  {source : NotificationSyncSourceKind} {userId : UserId} {db db' : Database}
  {request : UpsertRequest} {row : NotificationRow} {x : SyncedItem}

theorem savedAs_congr (hitems : db'.thirdPartyItems = db.thirdPartyItems)
    (htasks : db'.tasks = db.tasks) :
    SavedAs setting db' source userId x row ↔ SavedAs setting db source userId x row := by
  have hsaving : savingOf setting db' userId x = savingOf setting db userId x := by
    funext content
    unfold savingOf
    rw [autoDeletes_congr (fun _ _ => by rw [hitems]) htasks]
  unfold SavedAs
  rw [hsaving]

/-- A notification that is new is returned as it was asked for. -/
theorem upsertNotification_new_id {scan : NotificationScan db}
    {status : TaskUpsert.UpsertStatus Notification} (hread : scan.existing request = none)
    (h : upsertNotification db scan request = .ok (db', status)) :
    status.value.id = request.notification.id ∧
      db.notifications.find? request.notification.id = none := by
  have hexisting : (scan.existing request).bind (joinedNotification db) = none := by
    rw [hread, Option.bind_none]
  obtain ⟨notifications, hinsert, -, -, rfl⟩ := upsertNotification_inserts hexisting h
  exact ⟨rfl, Table.find?_eq_none_of_insert hinsert⟩

/-- One notification is saved, and every other row is as it was. -/
structure Saved (setting : Setting) (source : NotificationSyncSourceKind) (userId : UserId)
    (x : SyncedItem) (db db' : Database) (saved : NotificationRow) : Prop where
  thirdPartyItems : db'.thirdPartyItems = db.thirdPartyItems
  tasks : db'.tasks = db.tasks
  savedAs : SavedAs setting db source userId x saved
  mem_iff : ∀ row, row ∈ db'.notifications.rows ↔
    row = saved ∨ (row ∈ db.notifications.rows ∧ row.id ≠ saved.id)
  replaced : (∃ old ∈ db.notifications.rows, old.id = saved.id ∧ sourceKey old = sourceKey saved) ∨
    ∀ old ∈ db.notifications.rows, old.id ≠ saved.id ∧ sourceKey old ≠ sourceKey saved

theorem saved_of_stored {content : NotificationContent} (hconvert : convert setting source x = some content)
    (hread : (order db).existing (content.request x.stamp.id x.item userId) = some row)
    (h : createNotificationFromThirdPartyItem setting order db source userId x = .ok db') :
    Saved setting source userId x db db' ((savingOf setting db userId x content).resave row) := by
  obtain ⟨hrow, hkey⟩ := existing_eq_some hread
  obtain ⟨stored, hstored, hitems, htasks, hrows⟩ := createNotification_stored hconvert hread
  obtain rfl : db' = stored := Except.ok.inj (h.symm.trans hstored)
  have hsavedKey : sourceKey ((savingOf setting db userId x content).resave row) = sourceKey row :=
    NotificationResync.Saving.resave_key
  have hsavedId : ((savingOf setting db userId x content).resave row).id = row.id :=
    NotificationResync.Saving.resave_id
  refine ⟨hitems, htasks, ⟨content, hconvert, hsavedKey.trans hkey,
    NotificationResync.Saving.resave_status⟩, fun r => ?_, .inl ⟨row, hrow, hsavedId.symm, hsavedKey.symm⟩⟩
  rw [hrows, List.mem_map, hsavedId]
  constructor
  · rintro ⟨old, hold, rfl⟩
    split
    · next hsame => exact .inl (by rw [hsame])
    · next hother => exact .inr ⟨hold, fun hid => hother (Table.eq_of_key hold hrow hid)⟩
  · rintro (rfl | ⟨hr, hid⟩)
    · exact ⟨row, hrow, if_pos rfl⟩
    · exact ⟨r, hr, if_neg fun hsame => hid (by rw [hsame])⟩

/-- Deleting the row that was just inserted, and no other. -/
theorem mem_deleteInserted {between : Database} {inserted : NotificationRow}
    (hrows : between.notifications.rows = db.notifications.rows ++ [inserted])
    (huser : inserted.userId = userId) (hids : ∀ old ∈ db.notifications.rows, old.id ≠ inserted.id) :
    row ∈ (deleteNotification between inserted.id userId).notifications.rows ↔
      row = { inserted with status := .deleted } ∨
        (row ∈ db.notifications.rows ∧ row.id ≠ inserted.id) := by
  have howns : owns inserted.id userId inserted = true := by simp [owns, huser]
  have hothers : ∀ old ∈ db.notifications.rows, ¬ owns inserted.id userId old = true := by
    intro old hold
    simp [owns, hids old hold]
  refine List.mem_map.trans ?_
  rw [hrows]
  constructor
  · rintro ⟨old, hold, rfl⟩
    rcases List.mem_append.mp hold with hold | hold
    · rw [if_neg (hothers old hold)]
      exact .inr ⟨hold, hids old hold⟩
    · rw [List.mem_singleton.mp hold, if_pos howns]
      exact .inl rfl
  · rintro (rfl | ⟨hrow, -⟩)
    · exact ⟨inserted, List.mem_append_right _ (List.mem_singleton.mpr rfl), if_pos howns⟩
    · exact ⟨row, List.mem_append_left _ hrow, if_neg (hothers row hrow)⟩

theorem saved_of_new {content : NotificationContent} (hconvert : convert setting source x = some content)
    (hread : (order db).existing (content.request x.stamp.id x.item userId) = none)
    (h : createNotificationFromThirdPartyItem setting order db source userId x = .ok db') :
    ∃ saved, Saved setting source userId x db db' saved := by
  obtain ⟨between, status, hupsert, hdb⟩ := (createNotification_iff hconvert).mp h
  obtain ⟨hid, hfree⟩ := upsertNotification_new_id hread hupsert
  obtain ⟨hitems, htasks, hrows⟩ := upsertNotification_new hread hupsert
  have hdeletes : autoDeletes setting between x.item.data userId =
      (savingOf setting db userId x content).deletes :=
    autoDeletes_congr (fun _ _ => by rw [hitems]) htasks
  have hkey : ∀ old ∈ db.notifications.rows,
      sourceKey old ≠ (savingOf setting db userId x content).key userId := by
    intro old hold hsame
    have hsome := @existing_isSome db (content.request x.stamp.id x.item userId) (order db)
      (mem_keys.mpr ⟨old, hold, hsame⟩)
    rw [hread] at hsome
    cases hsome
  have hids : ∀ old ∈ db.notifications.rows, old.id ≠ x.stamp.id := by
    intro old hold hsame
    have hsome := Table.find?_isSome.mpr ⟨old, hold, hsame⟩
    rw [show db.notifications.find? x.stamp.id = none from hfree] at hsome
    cases hsome
  rw [hdeletes, hid] at hdb
  let inserted := insertRow (content.request x.stamp.id x.item userId).notification
  cases hauto : (savingOf setting db userId x content).deletes with
  | false =>
    rw [hauto, if_neg Bool.false_ne_true] at hdb
    subst hdb
    refine ⟨inserted, hitems, htasks, ⟨content, hconvert, rfl, ?_⟩, fun r => ?_, ?_⟩
    · unfold NotificationResync.Saving.savedStatus
      rw [hauto]
      rfl
    · rw [hrows, List.mem_append, List.mem_singleton, or_comm]
      exact or_congr_right ⟨fun hr => ⟨hr, hids r hr⟩, And.left⟩
    · exact .inr fun old hold => ⟨hids old hold, hkey old hold⟩
  | true =>
    rw [hauto, if_pos rfl] at hdb
    subst hdb
    refine ⟨{ inserted with status := .deleted }, hitems, htasks, ⟨content, hconvert, rfl, ?_⟩,
      fun r => ?_, ?_⟩
    · unfold NotificationResync.Saving.savedStatus
      rw [hauto]
      rfl
    · exact mem_deleteInserted hrows rfl hids
    · exact .inr fun old hold => ⟨hids old hold, hkey old hold⟩

theorem createNotification_saved
    (h : createNotificationFromThirdPartyItem setting order db source userId x = .ok db') :
    ∃ saved, Saved setting source userId x db db' saved := by
  cases hconvert : convert setting source x with
  | none =>
    unfold createNotificationFromThirdPartyItem at h
    simp only [hconvert] at h
    cases h
  | some content =>
    cases hread : (order db).existing (content.request x.stamp.id x.item userId) with
    | some row => exact ⟨_, saved_of_stored hconvert hread h⟩
    | none => exact saved_of_new hconvert hread h

theorem Saved.onePerKey {saved : NotificationRow} (h : Saved setting source userId x db db' saved)
    (hunique : OnePerKey db) : OnePerKey db' := by
  have hother : ∀ old ∈ db.notifications.rows, old.id ≠ saved.id → sourceKey old ≠ sourceKey saved := by
    intro old hold hid hkey
    rcases h.replaced with ⟨found, hfound, hsame, hfoundKey⟩ | hnew
    · exact hid (hunique old hold found hfound (hkey.trans hfoundKey.symm) ▸ hsame)
    · exact (hnew old hold).2 hkey
  intro row hrow other hotherRow hkey
  rcases (h.mem_iff row).mp hrow with rfl | ⟨hold, hid⟩ <;>
    rcases (h.mem_iff other).mp hotherRow with rfl | ⟨hotherOld, hotherId⟩
  · rfl
  · exact absurd hkey.symm (hother other hotherOld hotherId)
  · exact absurd hkey (hother row hold hid)
  · exact hunique row hold other hotherOld hkey

/-- A row that was stored is as it was, or is the one that is saved. -/
theorem Saved.kept {saved : NotificationRow} (h : Saved setting source userId x db db' saved)
    (hrow : row ∈ db.notifications.rows) :
    row ∈ db'.notifications.rows ∨
      (saved ∈ db'.notifications.rows ∧ sourceKey saved = sourceKey row) := by
  by_cases hid : row.id = saved.id
  · refine .inr ⟨(h.mem_iff saved).mpr (.inl rfl), ?_⟩
    rcases h.replaced with ⟨found, hfound, hsame, hfoundKey⟩ | hnew
    · rw [← hfoundKey, Table.eq_of_key hrow hfound (hid.trans hsame.symm)]
    · exact absurd hid (hnew row hrow).1
  · exact .inl ((h.mem_iff row).mpr (.inr ⟨hrow, hid⟩))

/-- What saving the items of a sync leaves: some rows are as they were, and the others were saved
of an item. -/
structure AllSaved (setting : Setting) (source : NotificationSyncSourceKind) (userId : UserId)
    (values : List SyncedItem) (db db' : Database) : Prop where
  thirdPartyItems : db'.thirdPartyItems = db.thirdPartyItems
  tasks : db'.tasks = db.tasks
  rows : ∀ row ∈ db'.notifications.rows, row ∈ db.notifications.rows ∨
    ∃ x ∈ values, SavedAs setting db source userId x row
  kept : ∀ row ∈ db.notifications.rows, row ∈ db'.notifications.rows ∨
    ∃ after ∈ db'.notifications.rows, sourceKey after = sourceKey row ∧
      ∃ x ∈ values, SavedAs setting db source userId x after
  saved : ∀ x ∈ values, ∃ row ∈ db'.notifications.rows,
    (∃ content, convert setting source x = some content ∧
      sourceKey row = ⟨x.item.id, content.kind, userId⟩) ∧
    ∃ y ∈ values, SavedAs setting db source userId y row
  onePerKey : OnePerKey db → OnePerKey db'

theorem createNotifications_saved {values : List SyncedItem}
    (h : createNotifications setting order source userId db values = .ok db') :
    AllSaved setting source userId values db db' := by
  induction values generalizing db with
  | nil =>
    cases h
    exact ⟨rfl, rfl, fun _ hrow => .inl hrow, fun _ hrow => .inl hrow,
      fun _ hx => (List.not_mem_nil hx).elim, fun hunique => hunique⟩
  | cons x rest ih =>
    obtain ⟨between, hcreate, hrest⟩ := bind_eq_ok.mp h
    obtain ⟨saved, hsaved⟩ := createNotification_saved hcreate
    have hall := ih hrest
    have hsame : ∀ y row, SavedAs setting between source userId y row ↔
        SavedAs setting db source userId y row :=
      fun y row => savedAs_congr hsaved.thirdPartyItems hsaved.tasks
    -- What the rest of the items make of a row that the first one left.
    have hlater : ∀ row ∈ between.notifications.rows, row ∈ db'.notifications.rows ∨
        ∃ after ∈ db'.notifications.rows, sourceKey after = sourceKey row ∧
          ∃ y ∈ x :: rest, SavedAs setting db source userId y after := by
      intro row hrow
      rcases hall.kept row hrow with hkept | ⟨after, hafter, hkey, y, hy, hsavedAs⟩
      · exact .inl hkept
      · exact .inr ⟨after, hafter, hkey, y, List.mem_cons_of_mem _ hy, (hsame y after).mp hsavedAs⟩
    have hfirst : ∃ after ∈ db'.notifications.rows, sourceKey after = sourceKey saved ∧
        ∃ y ∈ x :: rest, SavedAs setting db source userId y after := by
      rcases hlater saved ((hsaved.mem_iff saved).mpr (.inl rfl)) with hkept | hafter
      · exact ⟨saved, hkept, rfl, x, List.mem_cons_self, hsaved.savedAs⟩
      · exact hafter
    refine ⟨hall.thirdPartyItems.trans hsaved.thirdPartyItems, hall.tasks.trans hsaved.tasks, ?_, ?_, ?_,
      fun hunique => hall.onePerKey (hsaved.onePerKey hunique)⟩
    · intro row hrow
      rcases hall.rows row hrow with hold | ⟨y, hy, hsavedAs⟩
      · rcases (hsaved.mem_iff row).mp hold with rfl | ⟨hold, -⟩
        · exact .inr ⟨x, List.mem_cons_self, hsaved.savedAs⟩
        · exact .inl hold
      · exact .inr ⟨y, List.mem_cons_of_mem _ hy, (hsame y row).mp hsavedAs⟩
    · intro row hrow
      rcases hsaved.kept hrow with hkept | ⟨-, hkey⟩
      · exact hlater row hkept
      · obtain ⟨after, hafter, hafterKey, hy⟩ := hfirst
        exact .inr ⟨after, hafter, hafterKey.trans hkey, hy⟩
    · intro y hy
      rcases List.mem_cons.mp hy with rfl | hy
      · obtain ⟨after, hafter, hafterKey, hsavedAs⟩ := hfirst
        obtain ⟨content, hconvert, hkey, -⟩ := hsaved.savedAs
        exact ⟨after, hafter, ⟨content, hconvert, hafterKey.trans hkey⟩, hsavedAs⟩
      · obtain ⟨row, hrow, hcontent, z, hz, hsavedAs⟩ := hall.saved y hy
        exact ⟨row, hrow, hcontent, z, List.mem_cons_of_mem _ hz, (hsame z row).mp hsavedAs⟩

/-- Rows changed by a function that leaves their keys alone. -/
theorem OnePerKey.map {f : NotificationRow → NotificationRow} (h : OnePerKey db)
    (hf : ∀ row, sourceKey (f row) = sourceKey row)
    (hrows : db'.notifications.rows = db.notifications.rows.map f) : OnePerKey db' := by
  intro row hrow other hother hkey
  rw [hrows] at hrow hother
  obtain ⟨old, hold, rfl⟩ := List.mem_map.mp hrow
  obtain ⟨old', hold', rfl⟩ := List.mem_map.mp hother
  rw [hf, hf] at hkey
  rw [h old hold old' hold' hkey]

end Creation

section Items
variable {db db' : Database} {items values : List SyncedItem}

/-- Items that nest no other: the row of each holds what was fetched last under its identity. -/
theorem upsertItems_data (hleaf : ∀ x ∈ items, x.item.sourceItem = none)
    (h : upsertItems db items = .ok (db', values)) : ∀ x ∈ items, ∃ y ∈ items,
      y.item.identity = x.item.identity ∧
        ∃ row, storedItem db' x.item = some row ∧ row.data = y.item.data := by
  have hidentities : ∀ x ∈ items, x.item.identities = [x.item.identity] := fun x hx =>
    ThirdPartyItemUpsert.identities_leaf (hleaf x hx)
  have hnested : ∀ x ∈ items, x.item.identities.Nodup := fun x hx => by
    rw [hidentities x hx]
    exact List.nodup_singleton _
  induction items generalizing db values with
  | nil => exact fun _ hx => (List.not_mem_nil hx).elim
  | cons x rest ih =>
    obtain ⟨⟨between, upserted⟩, hupsert, hrest⟩ := bind_eq_ok.mp h
    obtain ⟨⟨stored, restValues⟩, hvalues, hreturn⟩ := bind_eq_ok.mp hrest
    cases hreturn
    have hlater := ih (fun y hy => hleaf y (List.mem_cons_of_mem _ hy)) hvalues
      (fun y hy => hidentities y (List.mem_cons_of_mem _ hy))
      (fun y hy => hnested y (List.mem_cons_of_mem _ hy))
    have hothers := (upsertItems_stored
      (fun y hy => hnested y (List.mem_cons_of_mem _ hy)) hvalues).2.2
    intro z hz
    by_cases hagain : ∃ y ∈ rest, y.item.identity = z.item.identity
    · obtain ⟨y, hy, hsame⟩ := hagain
      obtain ⟨w, hw, hidentity, row, hrow, hdata⟩ := hlater y hy
      refine ⟨w, List.mem_cons_of_mem _ hw, hidentity.trans hsame, row, ?_, hdata⟩
      obtain ⟨hmem, hrowIdentity⟩ := ThirdPartyItemUpsert.storedItem_eq_some.mp hrow
      exact ThirdPartyItemUpsert.storedItem_eq_some.mpr ⟨hmem, hrowIdentity.trans hsame⟩
    · rcases List.mem_cons.mp hz with rfl | hz
      · have hsaved := saved_of_service (hnested z List.mem_cons_self) hupsert
        obtain ⟨row, hrow, hcolumns⟩ := hsaved.stored
        have hidentity : row.identity = z.item.identity := hcolumns.identity.trans hsaved.identity
        refine ⟨z, List.mem_cons_self, rfl, row, ThirdPartyItemUpsert.storedItem_eq_some.mpr
          ⟨(hothers row fun y hy hmem => hagain ⟨y, hy, ?_⟩).mpr hrow, hidentity⟩,
          hcolumns.data.trans (data_of_service hupsert)⟩
        rw [hidentities y (List.mem_cons_of_mem _ hy), List.mem_singleton] at hmem
        exact hmem.symm.trans hidentity
      · exact absurd ⟨z, hz, rfl⟩ hagain

end Items

/-- A source item that the sync stored of what it fetched. -/
def Returned (db : Database) (fetch : Fetch) (id : ThirdPartyItemId) : Prop :=
  ∃ x ∈ fetch.items, ∃ item, storedItem db x.item = some item ∧ item.id = id

/-- What a sync of all the notifications of a source leaves: of those of its kind, the ones in the
inbox are of items that it returned, and the others that were in the inbox are deleted; every item
that it returned has a notification, with the status that it was saved with. -/
structure Reconciled (setting : Setting) (fetch : Fetch) (db db' : Database) : Prop where
  inbox : ∀ row ∈ db'.notifications.rows, row.kind = fetch.source.getNotificationSourceKind →
    row.userId = fetch.userId → isReadOrUnread row.status = true → Returned db' fetch row.sourceItemId
  retired : ∀ row ∈ db.notifications.rows, row.kind = fetch.source.getNotificationSourceKind →
    row.userId = fetch.userId → ¬ Returned db' fetch row.sourceItemId →
      restoreRow setting.restoredKinds fetch.userId
        { row with status := if isReadOrUnread row.status then .deleted else row.status } ∈
        db'.notifications.rows
  saved : ∀ x ∈ fetch.items, ∃ item, storedItem db' x.item = some item ∧
    ∃ row ∈ db'.notifications.rows,
      (∃ content, convert setting fetch.source x = some content ∧
        sourceKey row = ⟨item.id, content.kind, fetch.userId⟩) ∧
      ∃ y ∈ fetch.items, storedItem db' y.item = some item ∧
        ∃ content, convert setting fetch.source y = some content ∧
          row.status =
            if autoDeletes setting db' y.item.data fetch.userId then .deleted else content.status

/-- The notifications that a source makes: those of its kind and, if they are of mails, those of the
calendar events that were derived from a thread. -/
def OriginatesFrom (db : Database) (fetch : Fetch) (row : NotificationRow) : Prop :=
  row.userId = fetch.userId ∧
    (row.kind = fetch.source.getNotificationSourceKind ∨
      (fetch.source = .googleMail ∧ row.kind = .googleCalendar ∧
        ∃ item thread, db.thirdPartyItems.find? row.sourceItemId = some item ∧
          item.sourceItemId.bind db.thirdPartyItems.find? = some thread ∧
          thread.data.kind = .googleMailThread))

/-- The item was returned, or the thread it was derived from was. -/
def ReturnedOrDerived (db : Database) (fetch : Fetch) (id : ThirdPartyItemId) : Prop :=
  Returned db fetch id ∨
    ∃ item thread, db.thirdPartyItems.find? id = some item ∧ item.sourceItemId = some thread ∧
      Returned db fetch thread

/-- After a sync, the notifications of the source that are in the inbox are exactly those of what it
returned, and the others are deleted. -/
def StalePassExact (db : Database) (fetch : Fetch) : Prop :=
  ∀ row ∈ db.notifications.rows, OriginatesFrom db fetch row →
    (isReadOrUnread row.status = true ↔ ReturnedOrDerived db fetch row.sourceItemId) ∧
      (¬ ReturnedOrDerived db fetch row.sourceItemId → row.status = .deleted)

section Sync
variable {setting : Setting} {order : ∀ db : Database, NotificationScan db} {db db' : Database}
  {fetch : Fetch} {kinds : List NotificationSourceKind} {userId : UserId} {row : NotificationRow}

@[simp] theorem restoreRow_status : (restoreRow kinds userId row).status = row.status := by
  unfold restoreRow
  split <;> rfl

@[simp] theorem restoreRow_sourceKey : sourceKey (restoreRow kinds userId row) = sourceKey row := by
  unfold restoreRow
  split <;> rfl

/-- The parts of a sync that fetches everything. -/
structure Phases (setting : Setting) (fetch : Fetch) (db stored synced saved db' : Database)
    (values : List SyncedItem) : Prop where
  upserted : upsertItems db fetch.items = .ok (stored, values)
  synced_items : synced.thirdPartyItems = stored.thirdPartyItems
  synced_tasks : synced.tasks = stored.tasks
  synced_rows : synced.notifications.rows = db.notifications.rows.map fun row =>
    if isStaleNotification (values.map (·.item.id)) fetch.source.getNotificationSourceKind
        fetch.userId row then patchRow deletedPatch row
    else row
  allSaved : AllSaved setting fetch.source fetch.userId values synced saved
  items : db'.thirdPartyItems = saved.thirdPartyItems
  tasks : db'.tasks = saved.tasks
  rows : db'.notifications.rows =
    saved.notifications.rows.map (restoreRow setting.restoredKinds fetch.userId)

theorem tasks_foldl_restoreSetAside :
    (kinds.foldl (restoreSetAsideNotifications userId) db).tasks = db.tasks := by
  induction kinds generalizing db with
  | nil => rfl
  | cons kind rest ih => exact ih

theorem phases_of_sync (htesting : setting.isTesting = false)
    (hfull : fetch.source.service.isSyncIncremental = false)
    (h : syncThirdPartyNotifications setting order db fetch = .ok db') :
    ∃ stored synced saved values, Phases setting fetch db stored synced saved db' values := by
  unfold syncThirdPartyNotifications at h
  obtain ⟨⟨synced, values⟩, hsync, hthen⟩ := bind_eq_ok.mp h
  obtain ⟨saved, hcreate, hreturn⟩ := bind_eq_ok.mp hthen
  cases hreturn
  obtain ⟨stored, hupsert, hitems, htasks, -, hrows⟩ := syncItems_ok htesting hsync
  rw [hfull, if_neg Bool.false_ne_true, (upsertItems_stored fetch.nested hupsert).1.notifications]
    at hrows
  exact ⟨stored, synced, saved, values, hupsert, hitems, htasks, hrows,
    createNotifications_saved hcreate, foldl_restoreSetAside_keeps.1, tasks_foldl_restoreSetAside,
    rows_foldl_restoreSetAside⟩

namespace Phases
variable {stored synced saved : Database} {values : List SyncedItem}
  (h : Phases setting fetch db stored synced saved db' values)
include h

theorem items_eq : db'.thirdPartyItems = stored.thirdPartyItems :=
  h.items.trans (h.allSaved.thirdPartyItems.trans h.synced_items)

theorem tasks_eq : db'.tasks = synced.tasks := h.tasks.trans h.allSaved.tasks

/-- The values of the fetched items, as they are found afterwards. -/
theorem values_stored : List.Forall₂ (ValueOf db') fetch.items values := by
  refine (upsertItems_stored fetch.nested h.upserted).2.1.imp fun x value hvalue => ?_
  refine ⟨hvalue.stamp, hvalue.data, ?_⟩
  rw [storedItem_congr h.items_eq]
  exact hvalue.stored

theorem returned_iff {id : ThirdPartyItemId} :
    Returned db' fetch id ↔ id ∈ values.map (·.item.id) := by
  rw [List.mem_map]
  constructor
  · rintro ⟨x, hx, item, hitem, rfl⟩
    obtain ⟨value, hmem, hvalue⟩ := exists_left_of_forall₂ h.values_stored.flip x hx
    obtain ⟨found, hfound, hid⟩ := hvalue.stored
    obtain rfl := Option.some.inj (hitem.symm.trans hfound)
    exact ⟨value, hmem, hid⟩
  · rintro ⟨value, hmem, rfl⟩
    obtain ⟨x, hx, hvalue⟩ := exists_left_of_forall₂ h.values_stored value hmem
    obtain ⟨found, hfound, hid⟩ := hvalue.stored
    exact ⟨x, hx, found, hfound, hid.symm⟩

/-- The value of an item is saved as the item is converted. -/
theorem savedAs_value {x value : SyncedItem} (hvalue : ValueOf db' x value)
    (hsaved : SavedAs setting synced fetch.source fetch.userId value row) :
    ∃ item content, storedItem db' x.item = some item ∧
      convert setting fetch.source x = some content ∧
      sourceKey row = ⟨item.id, content.kind, fetch.userId⟩ ∧
      row.status =
        if autoDeletes setting db' x.item.data fetch.userId then .deleted else content.status := by
  obtain ⟨content, hconvert, hkey, hstatus⟩ := hsaved
  obtain ⟨item, hitem, hid⟩ := hvalue.stored
  have hdeletes : autoDeletes setting synced value.item.data fetch.userId =
      autoDeletes setting db' x.item.data fetch.userId := by
    rw [hvalue.data]
    refine autoDeletes_congr (fun _ _ => ?_) h.tasks_eq.symm
    rw [h.items, h.allSaved.thirdPartyItems]
  rw [convert_congr hvalue.data hvalue.stamp] at hconvert
  refine ⟨item, content, hitem, hconvert, ?_, ?_⟩
  · rw [hkey, ← hid]
    rfl
  · rw [hstatus, ← hdeletes]
    rfl

/-- What the stale pass leaves of a row that was stored. -/
theorem mem_synced : row ∈ synced.notifications.rows ↔ ∃ old ∈ db.notifications.rows,
    (if isStaleNotification (values.map (·.item.id)) fetch.source.getNotificationSourceKind
        fetch.userId old then patchRow deletedPatch old
    else old) = row := by
  rw [h.synced_rows, List.mem_map]

/-- A notification of the source that is in the inbox is of an item that was fetched: the stale pass
left it, or it was saved since. -/
theorem inbox (hrow : row ∈ db'.notifications.rows)
    (hkind : row.kind = fetch.source.getNotificationSourceKind) (huser : row.userId = fetch.userId)
    (hstatus : isReadOrUnread row.status = true) : Returned db' fetch row.sourceItemId := by
  rw [h.returned_iff]
  rw [h.rows] at hrow
  obtain ⟨before, hbefore, rfl⟩ := List.mem_map.mp hrow
  have hkey : sourceKey (restoreRow setting.restoredKinds fetch.userId before) = sourceKey before :=
    restoreRow_sourceKey
  have hbeforeKind : before.kind = fetch.source.getNotificationSourceKind :=
    (congrArg SourceKey.kind hkey).symm.trans hkind
  have hbeforeUser : before.userId = fetch.userId :=
    (congrArg SourceKey.userId hkey).symm.trans huser
  rw [restoreRow_status] at hstatus
  rw [show (restoreRow setting.restoredKinds fetch.userId before).sourceItemId = before.sourceItemId
    from congrArg SourceKey.sourceItemId hkey]
  rcases h.allSaved.rows before hbefore with hsynced | ⟨value, hvalue, content, -, hsavedKey, -⟩
  · obtain ⟨old, hold, rfl⟩ := h.mem_synced.mp hsynced
    split at hstatus
    · cases hstatus
    · next hfresh =>
      rw [if_neg hfresh] at hbeforeKind hbeforeUser ⊢
      refine Classical.byContradiction fun hother => hfresh ?_
      simp only [isStaleNotification, Bool.and_eq_true, Bool.not_eq_true', beq_iff_eq,
        List.contains_eq_mem, decide_eq_false_iff_not]
      exact ⟨⟨⟨hother, hbeforeKind⟩, hstatus⟩, hbeforeUser⟩
  · rw [show before.sourceItemId = value.item.id from congrArg SourceKey.sourceItemId hsavedKey]
    exact List.mem_map_of_mem hvalue

/-- A notification of the source whose item was not fetched. -/
theorem retired (hrow : row ∈ db.notifications.rows)
    (hkind : row.kind = fetch.source.getNotificationSourceKind) (huser : row.userId = fetch.userId)
    (hother : ¬ Returned db' fetch row.sourceItemId) :
    restoreRow setting.restoredKinds fetch.userId
      { row with status := if isReadOrUnread row.status then .deleted else row.status } ∈
      db'.notifications.rows := by
  rw [h.returned_iff] at hother
  have hstale : isStaleNotification (values.map (·.item.id)) fetch.source.getNotificationSourceKind
      fetch.userId row = isReadOrUnread row.status := by
    simp [isStaleNotification, hother, hkind, huser]
  have hsynced : { row with status := if isReadOrUnread row.status then .deleted else row.status } ∈
      synced.notifications.rows := by
    refine h.mem_synced.mpr ⟨row, hrow, ?_⟩
    rw [hstale]
    split <;> rfl
  rw [h.rows]
  refine List.mem_map_of_mem ((h.allSaved.kept _ hsynced).resolve_right ?_)
  rintro ⟨after, -, hkey, value, hvalue, content, -, hsavedKey, -⟩
  refine hother (List.mem_map.mpr ⟨value, hvalue, ?_⟩)
  exact congrArg SourceKey.sourceItemId (hsavedKey.symm.trans hkey)

theorem onePerKey (hunique : OnePerKey db) : OnePerKey db' := by
  have hsynced : OnePerKey synced :=
    hunique.map (fun row => by split <;> rfl) h.synced_rows
  exact (h.allSaved.onePerKey hsynced).map (fun _ => restoreRow_sourceKey) h.rows

theorem saved_of_fetched {x : SyncedItem} (hx : x ∈ fetch.items) :
    ∃ item, storedItem db' x.item = some item ∧ ∃ row ∈ db'.notifications.rows,
      (∃ content, convert setting fetch.source x = some content ∧
        sourceKey row = ⟨item.id, content.kind, fetch.userId⟩) ∧
      ∃ y ∈ fetch.items, storedItem db' y.item = some item ∧
        ∃ content, convert setting fetch.source y = some content ∧
          row.status =
            if autoDeletes setting db' y.item.data fetch.userId then .deleted else content.status := by
  obtain ⟨value, hmem, hvalue⟩ := exists_left_of_forall₂ h.values_stored.flip x hx
  obtain ⟨item, hitem, hid⟩ := hvalue.stored
  obtain ⟨row, hrow, ⟨content, hconvert, hkey⟩, other, hother, hsavedAs⟩ := h.allSaved.saved value hmem
  obtain ⟨y, hy, hof⟩ := exists_left_of_forall₂ h.values_stored other hother
  obtain ⟨found, saving, hfound, hsaving, hfoundKey, hstatus⟩ := h.savedAs_value hof hsavedAs
  -- The last value of the key is one of the same item.
  have hsame : found = item := by
    refine Table.eq_of_key (ThirdPartyItemUpsert.storedItem_eq_some.mp hfound).1
      (ThirdPartyItemUpsert.storedItem_eq_some.mp hitem).1 ?_
    rw [← hid]
    exact congrArg SourceKey.sourceItemId (hfoundKey.symm.trans hkey)
  subst hsame
  refine ⟨found, hitem, restoreRow setting.restoredKinds fetch.userId row, ?_,
    ⟨content, (convert_congr hvalue.data hvalue.stamp).symm.trans hconvert, ?_⟩,
    y, hy, hfound, saving, hsaving, ?_⟩
  · rw [h.rows]
    exact List.mem_map_of_mem hrow
  · rw [restoreRow_sourceKey, hkey, hid]
  · rw [restoreRow_status, hstatus]

end Phases

/-- A sync of all the notifications of a source, but for test accounts, leaves of those of its kind
in the inbox the ones that it returned. -/
theorem full_sync_reconciles (setting : Setting) (order : ∀ db : Database, NotificationScan db)
    (db db' : Database) (fetch : Fetch) (htesting : setting.isTesting = false)
    (hfull : fetch.source.service.isSyncIncremental = false)
    (hsync : syncThirdPartyNotifications setting order db fetch = .ok db') :
    Reconciled setting fetch db db' := by
  obtain ⟨stored, synced, saved, values, h⟩ := phases_of_sync htesting hfull hsync
  exact ⟨fun row => h.inbox, fun row => h.retired, fun x => h.saved_of_fetched⟩

end Sync

open NotificationResync (sampleSetting readFirst githubFetch syncGithub patchGithub)

def githubItem (id : Nat) (sourceId title : String) : ThirdPartyItemRow :=
  { id := ⟨id⟩, sourceId, data := .githubNotification title, createdAt := 0, updatedAt := 0
    userId := ⟨0⟩, integrationConnectionId := ⟨1⟩, sourceItemId := none }

def githubNotification (id : Nat) (title : String) (status : NotificationStatus) :
    NotificationRow :=
  { id := ⟨id⟩, title, status, createdAt := 0, updatedAt := 0, lastReadAt := none
    snoozedUntil := none, userId := ⟨0⟩, taskId := none, kind := .github, sourceItemId := ⟨id⟩
    setAsideAt := none }

/-- One notification that GitHub still returns, and three that it does not return anymore. -/
def githubDatabase : Database where
  thirdPartyItems := ⟨[githubItem 1 "1" "Fix", githubItem 2 "2" "Release", githubItem 3 "3" "Typo",
    githubItem 4 "4" "Chatter"], by decide⟩
  tasks := Table.empty
  notifications := ⟨[githubNotification 1 "Fix" .read, githubNotification 2 "Release" .unread,
    githubNotification 3 "Typo" .read, githubNotification 4 "Chatter" .unsubscribed], by decide⟩
  item_constraints := by decide
  task_source := fun _ h => (Table.not_mem_empty h).elim
  task_sink := fun _ h => (Table.not_mem_empty h).elim
  task_parent := Database.empty.task_parent
  task_source_unique := Database.empty.task_source_unique
  task_sink_unique := Database.empty.task_sink_unique
  notification_source := by decide
  notification_task := by decide
  notification_updatedAt := by decide

/-- What is returned is unread again; of what is not, the unread and the read notification are
deleted, and the unsubscribed one stays. -/
theorem github_reconciled : ∃ db', syncGithub githubDatabase 9 = .ok db' ∧
    Reconciled sampleSetting (githubFetch 9) githubDatabase db' ∧
    db'.notifications.rows.map (·.status) = [.unread, .deleted, .deleted, .unsubscribed] :=
  ⟨_, rfl, full_sync_reconciles sampleSetting (readFirst ⟨2⟩) githubDatabase _ (githubFetch 9)
    rfl rfl rfl, by decide +kernel⟩

/-- GitHub has no notification anymore. -/
def noneFetched : Fetch where
  source := .github
  userId := ⟨0⟩
  items := []
  nested := fun _ h => (List.not_mem_nil h).elim
  fetched := fun _ h => (List.not_mem_nil h).elim

def unsubscribeGithub : UserAction :=
  patchGithub { status := some .unsubscribed, snoozedUntil := none, taskId := none }

/-- The user unsubscribed from a notification that GitHub does not return anymore: the stale pass
leaves it as the user chose. -/
theorem unsubscribedGithub_not_deleted : ∃ db₁ db', syncGithub TaskUpsert.issueDatabase 2 = .ok db₁ ∧
    syncThirdPartyNotifications sampleSetting (readFirst ⟨2⟩) (applyActions db₁ [unsubscribeGithub])
      noneFetched = .ok db' ∧
    ¬ StalePassExact db' noneFetched := by
  refine ⟨_, _, rfl, rfl, fun hexact => ?_⟩
  have hnone : ∀ db id, ¬ ReturnedOrDerived db noneFetched id := by
    rintro db id (⟨x, hx, -⟩ | ⟨-, -, -, -, x, hx, -⟩) <;> exact (List.not_mem_nil hx).elim
  have hstatus := (hexact _ (List.mem_cons_self) ⟨rfl, .inl rfl⟩).2 (hnone _ _)
  revert hstatus
  decide

end UniversalInbox.FullNotificationSync
