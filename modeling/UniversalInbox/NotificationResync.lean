import UniversalInbox.NotificationSync

/-! Two syncs of one source in a row. What the second writes of a notification does not depend on
what the first wrote, but on what the provider says and on what the row holds. -/
namespace UniversalInbox.NotificationResync
open NotificationConversion NotificationPatching NotificationSync NotificationUpsert
open BulkPatch (patchRow)
open StalePass (isStaleNotification)
open ThirdPartyItemUpsert (storedItem)
open TodoistSync (exists_left_of_forall₂)
open Results (bind_eq_ok)

/-- What a sync saves of an item: the content of its notification, and whether it deletes it. -/
structure Saving where
  sourceItemId : ThirdPartyItemId
  content : NotificationContent
  deletes : Bool

/-- What the user chose for a notification. -/
structure KeepsChoices (row after : NotificationRow) : Prop where
  status : after.status = row.status
  snoozedUntil : after.snoozedUntil = row.snoozedUntil
  taskId : after.taskId = row.taskId

instance (row after : NotificationRow) : Decidable (KeepsChoices row after) :=
  decidable_of_iff (after.status = row.status ∧ after.snoozedUntil = row.snoozedUntil ∧
    after.taskId = row.taskId)
    ⟨fun ⟨status, snoozedUntil, taskId⟩ => ⟨status, snoozedUntil, taskId⟩,
      fun ⟨status, snoozedUntil, taskId⟩ => ⟨status, snoozedUntil, taskId⟩⟩

theorem KeepsChoices.refl (row : NotificationRow) : KeepsChoices row row := ⟨rfl, rfl, rfl⟩

theorem KeepsChoices.trans {row between after : NotificationRow} (h : KeepsChoices row between)
    (h' : KeepsChoices between after) : KeepsChoices row after :=
  ⟨h'.status.trans h.status, h'.snoozedUntil.trans h.snoozedUntil, h'.taskId.trans h.taskId⟩

namespace Saving
variable {saving other : Saving} {userId : UserId} {row : NotificationRow}

def key (saving : Saving) (userId : UserId) : SourceKey :=
  ⟨saving.sourceItemId, saving.content.kind, userId⟩

/-- The equality finds nothing to write. -/
def Matches (saving : Saving) (row : NotificationRow) : Prop :=
  row.title = saving.content.title ∧ row.status = saving.content.status ∧
    row.lastReadAt = saving.content.lastReadAt ∧ row.taskId = none

instance (saving : Saving) (row : NotificationRow) : Decidable (saving.Matches row) :=
  inferInstanceAs (Decidable (_ ∧ _))

/-- A stored row once it is saved again. -/
def resave (saving : Saving) (row : NotificationRow) : NotificationRow :=
  let saved :=
    if saving.Matches row then row
    else
      { row with
        title := saving.content.title
        status := saving.content.status
        updatedAt := pgTimestamp saving.content.updatedAt
        lastReadAt := saving.content.lastReadAt.map pgTimestamp
        snoozedUntil :=
          if saving.content.updateSnoozedUntil then saving.content.snoozedUntil.map pgTimestamp
          else row.snoozedUntil }
  if saving.deletes then { saved with status := .deleted } else saved

def savedStatus (saving : Saving) : NotificationStatus :=
  if saving.deletes then .deleted else saving.content.status

/-- The choices of the user are those of the provider. -/
structure ChoicesAgree (saving : Saving) (row : NotificationRow) : Prop where
  status : row.status = saving.savedStatus
  snoozedUntil : saving.content.updateSnoozedUntil = true → ¬ saving.Matches row →
    row.snoozedUntil = saving.content.snoozedUntil.map pgTimestamp

instance (saving : Saving) (row : NotificationRow) : Decidable (saving.ChoicesAgree row) :=
  decidable_of_iff (row.status = saving.savedStatus ∧
    (saving.content.updateSnoozedUntil = true → ¬ saving.Matches row →
      row.snoozedUntil = saving.content.snoozedUntil.map pgTimestamp))
    ⟨fun ⟨status, snoozedUntil⟩ => ⟨status, snoozedUntil⟩,
      fun ⟨status, snoozedUntil⟩ => ⟨status, snoozedUntil⟩⟩

/-- Nothing else is left to write. -/
def ColumnsAgree (saving : Saving) (row : NotificationRow) : Prop :=
  saving.Matches row ∨ (row.title = saving.content.title ∧
    row.lastReadAt = saving.content.lastReadAt.map pgTimestamp ∧
    row.updatedAt = pgTimestamp saving.content.updatedAt)

/-- The columns that it never writes. -/
theorem resave_frame :
    saving.resave row =
      { row with
        title := (saving.resave row).title
        status := (saving.resave row).status
        updatedAt := (saving.resave row).updatedAt
        lastReadAt := (saving.resave row).lastReadAt
        snoozedUntil := (saving.resave row).snoozedUntil } := by
  unfold resave
  dsimp only
  split <;> split <;> rfl

theorem resave_id : (saving.resave row).id = row.id := congrArg (·.id) resave_frame

theorem resave_key : sourceKey (saving.resave row) = sourceKey row := by
  rw [resave_frame]
  rfl

theorem resave_setAsideAt : (saving.resave row).setAsideAt = row.setAsideAt :=
  congrArg (·.setAsideAt) resave_frame

theorem resave_taskId : (saving.resave row).taskId = row.taskId := congrArg (·.taskId) resave_frame

theorem resave_status : (saving.resave row).status = saving.savedStatus := by
  unfold resave savedStatus
  dsimp only
  split
  · rfl
  · split
    · next hmatches => exact hmatches.2.1
    · rfl

theorem resave_snoozedUntil_of_matches (h : saving.Matches row) :
    (saving.resave row).snoozedUntil = row.snoozedUntil := by
  unfold resave
  simp only [if_pos h]
  split <;> rfl

theorem resave_snoozedUntil (h : ¬ saving.Matches row) :
    (saving.resave row).snoozedUntil =
      if saving.content.updateSnoozedUntil then saving.content.snoozedUntil.map pgTimestamp
      else row.snoozedUntil := by
  unfold resave
  simp only [if_neg h]
  split <;> rfl

/-- Saving a row again keeps the choices of the user if and only if they are the provider's. -/
theorem keepsChoices_resave : KeepsChoices row (saving.resave row) ↔ saving.ChoicesAgree row := by
  constructor
  · intro h
    refine ⟨h.status.symm.trans resave_status, fun hflag hdiffers => ?_⟩
    rw [← h.snoozedUntil, resave_snoozedUntil hdiffers, if_pos hflag]
  · intro h
    refine ⟨resave_status.trans h.status.symm, ?_, resave_taskId⟩
    by_cases hmatches : saving.Matches row
    · exact resave_snoozedUntil_of_matches hmatches
    · rw [resave_snoozedUntil hmatches]
      split
      · next hflag => exact (h.snoozedUntil hflag hmatches).symm
      · rfl

theorem resave_of_matches (h : saving.Matches row) (hstatus : row.status = saving.savedStatus) :
    saving.resave row = row := by
  unfold savedStatus at hstatus
  unfold resave
  simp only [if_pos h]
  split
  · next hdeletes =>
    rw [if_pos hdeletes] at hstatus
    rw [← hstatus]
  · rfl

/-- The columns that saving a row again writes, when the equality finds a difference. -/
theorem resave_columns (h : ¬ saving.Matches row) :
    (saving.resave row).title = saving.content.title ∧
      (saving.resave row).lastReadAt = saving.content.lastReadAt.map pgTimestamp ∧
      (saving.resave row).updatedAt = pgTimestamp saving.content.updatedAt := by
  unfold resave
  simp only [if_neg h]
  split <;> exact ⟨rfl, rfl, rfl⟩

/-- It leaves the row alone if and only if there is nothing else to write either. -/
theorem resave_eq_self :
    saving.resave row = row ↔ saving.ChoicesAgree row ∧ saving.ColumnsAgree row := by
  constructor
  · intro h
    refine ⟨keepsChoices_resave.mp (by rw [h]; exact .refl row), ?_⟩
    by_cases hmatches : saving.Matches row
    · exact .inl hmatches
    · have hcolumns := resave_columns hmatches
      rw [h] at hcolumns
      exact .inr hcolumns
  · rintro ⟨hchoices, hcolumns⟩
    have hkeeps := keepsChoices_resave.mpr hchoices
    by_cases hmatches : saving.Matches row
    · exact resave_of_matches hmatches hchoices.status
    · obtain ⟨htitle, hlastReadAt, hupdatedAt⟩ := hcolumns.resolve_left hmatches
      obtain ⟨htitle', hlastReadAt', hupdatedAt'⟩ := resave_columns hmatches
      rw [resave_frame, hkeeps.status, hkeeps.snoozedUntil, htitle', hlastReadAt', hupdatedAt',
        ← htitle, ← hlastReadAt, ← hupdatedAt]

/-- Two fetches of one item that save it alike, but for the dates. -/
structure Alike (saving other : Saving) : Prop where
  content : SameConversion saving.content other.content
  deletes : saving.deletes = other.deletes

theorem Alike.matches_iff (h : saving.Alike other) : saving.Matches row ↔ other.Matches row := by
  unfold Matches
  rw [h.content.title, h.content.status, h.content.lastReadAt]

/-- What was in agreement still is once an item saved alike has been. -/
theorem ChoicesAgree.resave (h : saving.ChoicesAgree row) (halike : saving.Alike other) :
    other.ChoicesAgree (saving.resave row) := by
  have hstatus : saving.savedStatus = other.savedStatus := by
    unfold savedStatus
    rw [halike.content.status, halike.deletes]
  refine ⟨resave_status.trans hstatus, fun hflag hdiffers => ?_⟩
  by_cases hmatches : saving.Matches row
  · rw [resave_of_matches hmatches h.status] at hdiffers
    exact absurd (halike.matches_iff.mp hmatches) hdiffers
  · rw [resave_snoozedUntil hmatches, halike.content.updateSnoozedUntil, if_pos hflag,
      halike.content.snoozedUntil]

end Saving

/-- Each saving in turn is saved over a row of its key: over the row `first`, if it has the key. -/
inductive Resaved (userId : UserId) (first : Option NotificationId) :
    List Saving → List NotificationRow → List NotificationRow → Prop where
  | nil (rows : List NotificationRow) : Resaved userId first [] rows rows
  | cons {saving : Saving} {rest : List Saving} {rows rows' : List NotificationRow}
      {row : NotificationRow} (hrow : row ∈ rows) (hkey : sourceKey row = saving.key userId)
      (hfirst : ∀ r ∈ rows, first = some r.id → sourceKey r = saving.key userId → row = r)
      (hrest : Resaved userId first rest
        (rows.map fun r => if r = row then saving.resave r else r) rows') :
      Resaved userId first (saving :: rest) rows rows'

namespace Resaved
variable {userId : UserId} {first : Option NotificationId} {savings : List Saving}
  {rows rows' : List NotificationRow} {row : NotificationRow}

theorem forall_mem {P : NotificationRow → Prop} (h : Resaved userId first savings rows rows')
    (hsave : ∀ saving row, P row → P (Saving.resave saving row)) (hrows : ∀ r ∈ rows, P r) :
    ∀ r ∈ rows', P r := by
  induction h with
  | nil rows => exact hrows
  | cons hrow hkey hfirst hrest ih =>
    refine ih fun r hr => ?_
    obtain ⟨old, hold, rfl⟩ := List.mem_map.mp hr
    split
    · exact hsave _ _ (hrows old hold)
    · exact hrows old hold

theorem rows_eq (h : Resaved userId first savings rows rows')
    (hsame : ∀ saving ∈ savings, ∀ r ∈ rows, sourceKey r = saving.key userId →
      saving.resave r = r) : rows' = rows := by
  induction h with
  | nil rows => rfl
  | @cons saving rest rows rows' row hrow hkey hfirst hrest ih =>
    have hrows : (rows.map fun r => if r = row then saving.resave r else r) = rows := by
      refine List.map_id'' (fun r => ?_) rows
      split
      · next hr =>
        rw [hr]
        exact hsame saving List.mem_cons_self row hrow hkey
      · rfl
    rw [hrows] at ih
    exact ih fun saving hsaving => hsame saving (List.mem_cons_of_mem _ hsaving)

/-- Where the provider agrees with the choices of the user, they are kept. -/
theorem keepsChoices (h : Resaved userId first savings rows rows') (hrow : row ∈ rows)
    (hagree : ∀ saving ∈ savings, sourceKey row = saving.key userId → saving.ChoicesAgree row)
    (halike : savings.Pairwise fun saving other =>
      saving.key userId = other.key userId → saving.Alike other) :
    ∃ after ∈ rows', after.id = row.id ∧ KeepsChoices row after := by
  induction h generalizing row with
  | nil rows => exact ⟨row, hrow, rfl, .refl row⟩
  | @cons saving rest rows rows' picked hpicked hkey hfirst hrest ih =>
    obtain ⟨hhead, htail⟩ := List.pairwise_cons.mp halike
    have hmem : (if row = picked then saving.resave row else row) ∈
        rows.map fun r => if r = picked then saving.resave r else r := List.mem_map_of_mem hrow
    split at hmem
    -- The other fetches of its item are saved alike, so they still agree with the row.
    · next hsame =>
      have hsaved := hagree saving List.mem_cons_self (hsame ▸ hkey)
      obtain ⟨after, hafter, hid, hkeeps⟩ := ih hmem (fun other hother hotherKey => by
        rw [Saving.resave_key] at hotherKey
        refine hsaved.resave (hhead other hother ?_)
        rw [← hkey, ← hsame, hotherKey]) htail
      exact ⟨after, hafter, hid.trans Saving.resave_id,
        (Saving.keepsChoices_resave.mpr hsaved).trans hkeeps⟩
    · exact ih hmem (fun other hother => hagree other (List.mem_cons_of_mem _ hother)) htail

/-- A row of no fetched item is left alone. -/
theorem mem_of_unfetched (h : Resaved userId first savings rows rows') (hrow : row ∈ rows)
    (hunfetched : ∀ saving ∈ savings, sourceKey row ≠ saving.key userId) : row ∈ rows' := by
  induction h with
  | nil rows => exact hrow
  | @cons saving rest rows rows' picked hpicked hkey hfirst hrest ih =>
    refine ih (List.mem_map.mpr ⟨row, hrow, if_neg fun hsame => ?_⟩)
      fun other hother => hunfetched other (List.mem_cons_of_mem _ hother)
    exact hunfetched saving List.mem_cons_self (hsame ▸ hkey)

/-- The row that is read first is saved again, once if its item is fetched once. -/
theorem resave_mem {saving : Saving} (h : Resaved userId (some row.id) savings rows rows')
    (hrow : row ∈ rows) (hdistinct : (savings.map (·.key userId)).Nodup) (hsaving : saving ∈ savings)
    (hkey : sourceKey row = saving.key userId) : saving.resave row ∈ rows' := by
  induction h with
  | nil rows => cases hsaving
  | @cons head rest rows rows' picked hpicked hpickedKey hread hrest ih =>
    obtain ⟨hnew, hrestDistinct⟩ := List.nodup_cons.mp hdistinct
    rcases List.mem_cons.mp hsaving with rfl | hsaving
    · obtain rfl := hread row hrow rfl hkey
      refine hrest.mem_of_unfetched (List.mem_map.mpr ⟨picked, hrow, if_pos rfl⟩) ?_
      intro other hother hsame
      rw [Saving.resave_key, hkey] at hsame
      exact hnew (List.mem_map.mpr ⟨other, hother, hsame.symm⟩)
    · refine ih (List.mem_map.mpr ⟨row, hrow, if_neg fun hsame => ?_⟩) hrestDistinct hsaving
      refine hnew (List.mem_map.mpr ⟨saving, hsaving, ?_⟩)
      rw [← hkey, hsame, hpickedKey]

end Resaved

section Creation
variable {setting : Setting} {order : ∀ db : Database, NotificationScan db}
  {source : NotificationSyncSourceKind} {userId : UserId} {db db' : Database}
  {request : UpsertRequest} {row : NotificationRow} {x : SyncedItem} {content : NotificationContent}

/-- What the sync saves of the value of an item. -/
def savingOf (setting : Setting) (db : Database) (userId : UserId) (x : SyncedItem)
    (content : NotificationContent) : Saving :=
  ⟨x.item.id, content, autoDeletes setting db x.item.data userId⟩

/-- A notification that is stored is saved again. -/
theorem createNotification_stored (hconvert : convert setting source x = some content)
    (hread : (order db).existing (content.request x.stamp.id x.item userId) = some row) :
    ∃ db', createNotificationFromThirdPartyItem setting order db source userId x = .ok db' ∧
      db'.thirdPartyItems = db.thirdPartyItems ∧ db'.tasks = db.tasks ∧
      db'.notifications.rows = db.notifications.rows.map fun r =>
        if r = row then (savingOf setting db userId x content).resave r else r := by
  obtain ⟨hrow, hkey⟩ := existing_eq_some hread
  obtain ⟨between, status, hupsert, hid, hitems, htasks, hrows⟩ := upsertNotification_stored hread
  have hdeletes : autoDeletes setting between x.item.data userId =
      (savingOf setting db userId x content).deletes :=
    autoDeletes_congr (fun _ _ => by rw [hitems]) htasks
  refine ⟨_, (createNotification_iff hconvert).mpr ⟨between, status, hupsert, rfl⟩, ?_⟩
  rw [hdeletes, hid]
  cases hauto : (savingOf setting db userId x content).deletes with
  | true =>
    refine ⟨hitems, htasks, ?_⟩
    have huser : row.userId = userId := congrArg SourceKey.userId hkey
    rw [if_pos rfl, rows_deleteNotification hrow huser (fun r => by split <;> rfl)
      (fun r => by split <;> rfl) hrows]
    refine List.map_congr_left fun r _ => ?_
    unfold Saving.resave
    rw [hauto]
    rfl
  | false =>
    refine ⟨hitems, htasks, ?_⟩
    rw [if_neg Bool.false_ne_true, hrows]
    refine List.map_congr_left fun r _ => ?_
    unfold Saving.resave
    rw [hauto]
    rfl

/-- Whatever was stored, a saved item leaves a notification of its key, and every key there was. -/
theorem createNotification_keys
    (h : createNotificationFromThirdPartyItem setting order db source userId x = .ok db') :
    db'.thirdPartyItems = db.thirdPartyItems ∧ (∀ key ∈ keys db, key ∈ keys db') ∧
      ∃ content, convert setting source x = some content ∧
        (savingOf setting db userId x content).key userId ∈ keys db' := by
  cases hconvert : convert setting source x with
  | none =>
    unfold createNotificationFromThirdPartyItem at h
    simp only [hconvert] at h
    cases h
  | some content =>
    cases hread : (order db).existing (content.request x.stamp.id x.item userId) with
    | some row =>
      obtain ⟨hrow, hkey⟩ := existing_eq_some hread
      obtain ⟨saved, hsaved, hitems, -, hrows⟩ := createNotification_stored hconvert hread
      obtain rfl : db' = saved := Except.ok.inj (h.symm.trans hsaved)
      have hkeys : keys db' = keys db := by
        unfold keys
        rw [hrows]
        exact Table.map_map_ite fun _ => Saving.resave_key
      rw [hkeys]
      exact ⟨hitems, fun _ h => h, content, rfl, mem_keys.mpr ⟨row, hrow, hkey⟩⟩
    | none =>
      obtain ⟨between, status, hupsert, hdb⟩ := (createNotification_iff hconvert).mp h
      obtain ⟨hitems, -, hrows⟩ := upsertNotification_new hread hupsert
      have hkeys : keys between =
          keys db ++ [(savingOf setting db userId x content).key userId] := by
        unfold keys
        rw [hrows, List.map_append, List.map_singleton, sourceKey_insertRow]
        rfl
      have hsaved : db'.thirdPartyItems = between.thirdPartyItems ∧ keys db' = keys between := by
        rw [hdb]
        split
        · exact ⟨rfl, keys_updateNotifications fun _ => rfl⟩
        · exact ⟨rfl, rfl⟩
      rw [hsaved.1, hsaved.2, hitems, hkeys]
      exact ⟨rfl, fun _ h => List.mem_append_left _ h, content, rfl,
        List.mem_append_right _ (List.mem_singleton.mpr rfl)⟩

/-- After a sync, each of its items has a notification. -/
theorem createNotifications_keys {values : List SyncedItem}
    (h : createNotifications setting order source userId db values = .ok db') :
    db'.thirdPartyItems = db.thirdPartyItems ∧ (∀ key ∈ keys db, key ∈ keys db') ∧
      ∀ x ∈ values, ∃ content, convert setting source x = some content ∧
        (savingOf setting db userId x content).key userId ∈ keys db' := by
  induction values generalizing db with
  | nil =>
    cases h
    exact ⟨rfl, fun _ h => h, fun _ h => (List.not_mem_nil h).elim⟩
  | cons x rest ih =>
    obtain ⟨between, hcreate, hrest⟩ := bind_eq_ok.mp h
    obtain ⟨hitems, hkeys, content, hconvert, hkey⟩ := createNotification_keys hcreate
    obtain ⟨hrestItems, hrestKeys, hvalues⟩ := ih hrest
    refine ⟨hrestItems.trans hitems, fun key hkey => hrestKeys key (hkeys key hkey), ?_⟩
    intro y hy
    rcases List.mem_cons.mp hy with rfl | hy
    · exact ⟨content, hconvert, hrestKeys _ hkey⟩
    · exact hvalues y hy

/-- The order that reads one row first. -/
def readFirst (id : NotificationId) (db : Database) : NotificationScan db where
  rows :=
    db.notifications.rows.filter (·.id == id) ++ db.notifications.rows.filter (!·.id == id)
  perm := List.filter_append_perm _ _

theorem existing_readFirst (hrow : row ∈ db.notifications.rows) (hkey : sourceKey row = request.key) :
    (readFirst row.id db).existing request = some row := by
  have hsome : ((db.notifications.rows.filter (·.id == row.id)).find?
      fun r => sourceKey r == request.key).isSome :=
    List.find?_isSome.mpr
      ⟨row, List.mem_filter.mpr ⟨hrow, beq_self_eq_true _⟩, by rw [hkey, beq_self_eq_true]⟩
  obtain ⟨found, hfound⟩ := Option.isSome_iff_exists.mp hsome
  obtain ⟨hmem, hid⟩ := List.mem_filter.mp (List.mem_of_find?_eq_some hfound)
  obtain rfl := Table.eq_of_key hmem hrow (eq_of_beq hid)
  unfold NotificationScan.existing readFirst
  rw [List.find?_append, hfound]
  rfl

/-- A sync of items that all have a notification saves each again, in every order. -/
theorem createNotifications_resaved {first : Option NotificationId} {values : List SyncedItem}
    (hfirst : ∀ id, first = some id → order = readFirst id)
    (hvalues : ∀ x ∈ values, ∃ content, convert setting source x = some content ∧
      (savingOf setting db userId x content).key userId ∈ keys db) :
    ∃ db', createNotifications setting order source userId db values = .ok db' ∧
      Resaved userId first
        (values.filterMap fun x => (convert setting source x).map (savingOf setting db userId x))
        db.notifications.rows db'.notifications.rows := by
  induction values generalizing db with
  | nil => exact ⟨db, rfl, .nil _⟩
  | cons x rest ih =>
    obtain ⟨content, hconvert, hkey⟩ := hvalues x List.mem_cons_self
    obtain ⟨row, hread⟩ := Option.isSome_iff_exists.mp
      (@existing_isSome db (content.request x.stamp.id x.item userId) (order db) hkey)
    obtain ⟨hrow, hrowKey⟩ := existing_eq_some hread
    obtain ⟨between, hcreate, hitems, htasks, hrows⟩ := createNotification_stored hconvert hread
    have hsaving : savingOf setting between userId = savingOf setting db userId := by
      funext y content
      unfold savingOf
      rw [autoDeletes_congr (fun _ _ => by rw [hitems]) htasks]
    have hkeys : ∀ key ∈ keys db, key ∈ keys between := (createNotification_keys hcreate).2.1
    obtain ⟨db', hrest, hresaved⟩ := @ih between fun y hy => by
      obtain ⟨other, hother, hotherKey⟩ := hvalues y (List.mem_cons_of_mem _ hy)
      rw [hsaving]
      exact ⟨other, hother, hkeys _ hotherKey⟩
    refine ⟨db', bind_eq_ok.mpr ⟨between, hcreate, hrest⟩, ?_⟩
    rw [List.filterMap_cons_some (by rw [hconvert]; rfl)]
    refine .cons hrow hrowKey ?_ ?_
    · intro r hr hid hsame
      have hreads := @existing_readFirst db (content.request x.stamp.id x.item userId) r hr hsame
      rw [hfirst r.id hid, hreads] at hread
      exact (Option.some.inj hread).symm
    · rw [hsaving, hrows] at hresaved
      exact hresaved

end Creation

/-- What the sync saves of the items it fetches, once all are stored. -/
def savings (setting : Setting) (db : Database) (fetch : Fetch) : List Saving :=
  if setting.isTesting then []
  else fetch.items.filterMap fun x => (storedItem db x.item).bind fun row =>
    (convert setting fetch.source x).map fun content =>
      ⟨row.id, content, autoDeletes setting db x.item.data fetch.userId⟩

/-- The same items from upstream, whatever identifiers and dates they were given. What is asked of
Slack and Google Drive, and how it is read, depends on the rows that are stored, so that two syncs of
theirs can fetch different items from an upstream that stays the same. -/
structure SameUpstream (first second : Fetch) : Prop where
  source : first.source = second.source
  userId : first.userId = second.userId
  items : List.Forall₂ (fun x y : SyncedItem => x.item.eq y.item = true) first.items second.items

/-- No news, no change. -/
structure NoNews (actions : List UserAction) (db db' : Database) : Prop where
  choices : ∀ row ∈ db.notifications.rows, ∃ after ∈ db'.notifications.rows,
    after.id = row.id ∧ KeepsChoices row after
  rows : actions = [] → db'.notifications.rows = db.notifications.rows

instance (actions : List UserAction) (db db' : Database) : Decidable (NoNews actions db db') :=
  match actions with
  | [] => decidable_of_iff
      ((∀ row ∈ db.notifications.rows, ∃ after ∈ db'.notifications.rows,
        after.id = row.id ∧ KeepsChoices row after) ∧
        db'.notifications.rows = db.notifications.rows)
      ⟨fun ⟨choices, rows⟩ => ⟨choices, fun _ => rows⟩, fun h => ⟨h.choices, h.rows rfl⟩⟩
  | _ :: _ => decidable_of_iff
      (∀ row ∈ db.notifications.rows, ∃ after ∈ db'.notifications.rows,
        after.id = row.id ∧ KeepsChoices row after)
      ⟨fun choices => ⟨choices, fun h => nomatch h⟩, fun h => h.choices⟩

/-- What the provider says of the fetched items is what the rows hold. -/
structure Agrees (setting : Setting) (actions : List UserAction) (db : Database) (fetch : Fetch) :
    Prop where
  choices : ∀ saving ∈ savings setting db fetch, ∀ row ∈ db.notifications.rows,
    sourceKey row = saving.key fetch.userId → saving.ChoicesAgree row
  columns : actions = [] → ∀ saving ∈ savings setting db fetch, ∀ row ∈ db.notifications.rows,
    sourceKey row = saving.key fetch.userId → saving.ColumnsAgree row
  fetched : setting.isTesting = false → fetch.source.service.isSyncIncremental = false →
    ∀ row ∈ db.notifications.rows,
      isStaleNotification ((savings setting db fetch).map (·.sourceItemId))
        fetch.source.getNotificationSourceKind fetch.userId row = false
  alike : (savings setting db fetch).Pairwise fun saving other =>
    saving.key fetch.userId = other.key fetch.userId → saving.Alike other

section Resync
variable {setting : Setting} {order : ∀ db : Database, NotificationScan db} {db db' : Database}
  {fetch : Fetch} {values : List SyncedItem}

/-- The item is stored, and has a notification. -/
def Known (setting : Setting) (db : Database) (fetch : Fetch) (x : SyncedItem) : Prop :=
  ∃ row content, storedItem db x.item = some row ∧ convert setting fetch.source x = some content ∧
    ⟨row.id, content.kind, fetch.userId⟩ ∈ keys db

/-- After a sync, its items are known, and what it restores is restored. -/
theorem known_of_sync (htesting : setting.isTesting = false)
    (h : syncThirdPartyNotifications setting order db fetch = .ok db') :
    ∀ x ∈ fetch.items, Known setting db' fetch x := by
  obtain ⟨⟨between, values⟩, hsync, hthen⟩ := bind_eq_ok.mp h
  obtain ⟨created, hcreate, hreturn⟩ := bind_eq_ok.mp hthen
  cases hreturn
  obtain ⟨stored, hupsert, hbetween, -⟩ := syncItems_ok htesting hsync
  obtain ⟨-, hvalues, -⟩ := upsertItems_stored fetch.nested hupsert
  obtain ⟨hcreated, -, hkeys⟩ := createNotifications_keys hcreate
  obtain ⟨hitems, hrestored⟩ := @foldl_restoreSetAside_keeps fetch.userId created setting.restoredKinds
  intro x hx
  obtain ⟨value, hvalue, hof⟩ := exists_left_of_forall₂ hvalues.flip x hx
  obtain ⟨row, hrow, hid⟩ := hof.stored
  obtain ⟨content, hconvert, hkey⟩ := hkeys value hvalue
  refine ⟨row, content, ?_, (convert_congr hof.data hof.stamp).symm.trans hconvert, ?_⟩
  · exact (storedItem_congr (hitems.trans (hcreated.trans hbetween))).trans hrow
  · rw [hrestored, ← hid]
    exact hkey

theorem restored_of_sync (h : syncThirdPartyNotifications setting order db fetch = .ok db') :
    ∀ row ∈ db'.notifications.rows, Restored setting.restoredKinds fetch.userId row := by
  obtain ⟨⟨between, values⟩, -, hthen⟩ := bind_eq_ok.mp h
  obtain ⟨created, -, hreturn⟩ := bind_eq_ok.mp hthen
  cases hreturn
  rw [rows_foldl_restoreSetAside]
  intro row hrow
  obtain ⟨old, -, rfl⟩ := List.mem_map.mp hrow
  exact restored_restoreRow

/-- The rows once those of the items that are not fetched anymore are deleted. -/
def retiredRows (setting : Setting) (db : Database) (fetch : Fetch) : List NotificationRow :=
  if setting.isTesting || fetch.source.service.isSyncIncremental then db.notifications.rows
  else db.notifications.rows.map fun row =>
    if isStaleNotification ((savings setting db fetch).map (·.sourceItemId))
        fetch.source.getNotificationSourceKind fetch.userId row then patchRow deletedPatch row
    else row

theorem restored_retiredRows {kinds : List NotificationSourceKind} {userId : UserId}
    (h : ∀ row ∈ db.notifications.rows, Restored kinds userId row) :
    ∀ row ∈ retiredRows setting db fetch, Restored kinds userId row := by
  intro row hrow
  unfold retiredRows at hrow
  split at hrow
  · exact h row hrow
  · obtain ⟨old, hold, rfl⟩ := List.mem_map.mp hrow
    have hrestored := h old hold
    split <;> exact hrestored

theorem restored_resave {kinds : List NotificationSourceKind} {userId : UserId}
    {row : NotificationRow} {saving : Saving} (h : Restored kinds userId row) :
    Restored kinds userId (saving.resave row) := by
  have hkey := @Saving.resave_key saving row
  simp only [sourceKey, SourceKey.mk.injEq] at hkey
  unfold Restored
  rw [hkey.2.1, hkey.2.2, Saving.resave_setAsideAt]
  exact h

/-- What is saved of the values is what was to be saved of the items. -/
theorem savings_values {stored between : Database} {items : List SyncedItem}
    (hvalues : List.Forall₂ (ValueOf stored) items values) (hstored : ItemsStored db stored)
    (hauto : ∀ data, autoDeletes setting between data fetch.userId =
      autoDeletes setting db data fetch.userId)
    (hknown : ∀ x ∈ items, Known setting db fetch x) :
    (values.filterMap fun value => (convert setting fetch.source value).map
        (savingOf setting between fetch.userId value)) =
      (items.filterMap fun x => (storedItem db x.item).bind fun row =>
        (convert setting fetch.source x).map fun content =>
          ⟨row.id, content, autoDeletes setting db x.item.data fetch.userId⟩) ∧
    (items.filterMap fun x => (storedItem db x.item).bind fun row =>
        (convert setting fetch.source x).map fun content =>
          (⟨row.id, content, autoDeletes setting db x.item.data fetch.userId⟩ : Saving)).map
        (·.sourceItemId) = values.map (·.item.id) := by
  induction hvalues with
  | nil => exact ⟨rfl, rfl⟩
  | @cons x value items values hof hrest ih =>
    obtain ⟨ih, ihIds⟩ := ih fun y hy => hknown y (List.mem_cons_of_mem _ hy)
    obtain ⟨row, content, hrow, hconvert, -⟩ := hknown x List.mem_cons_self
    have hvalue := (convert_congr hof.data hof.stamp).trans hconvert
    have hid := hof.known hstored hrow
    constructor
    · rw [List.filterMap_cons_some (by rw [hvalue]; rfl),
        List.filterMap_cons_some (by rw [hrow, Option.bind_some, hconvert]; rfl), ih]
      unfold savingOf
      rw [hid, hof.data, hauto]
    · rw [List.filterMap_cons_some (by rw [hrow, Option.bind_some, hconvert]; rfl), List.map_cons,
        List.map_cons, ihIds, hid]

/-- Storing the fetched items changes nothing that decides whether a notification is deleted. -/
theorem autoDeletes_syncItems (htesting : setting.isTesting = false)
    (hsync : syncItems setting db fetch = .ok (db', values)) (data : ThirdPartyItemData) :
    autoDeletes setting db' data fetch.userId = autoDeletes setting db data fetch.userId := by
  obtain ⟨stored, hupsert, hitems, htasks, -⟩ := syncItems_ok htesting hsync
  obtain ⟨hstored, -, hothers⟩ := upsertItems_stored fetch.nested hupsert
  refine autoDeletes_congr (fun row hlinear => ?_) (htasks.trans hstored.tasks)
  rw [hitems]
  -- No source of notifications fetches Linear issues.
  refine hothers row fun x hx hmem => ?_
  have hfetched := fetch.fetched x hx _ hmem
  rw [show row.identity.kind = .linearIssue from hlinear] at hfetched
  revert hfetched
  cases fetch.source <;> decide

/-- The first half of a sync of known items: what it has left to save, and the rows that it saves
them over. -/
theorem syncItems_known (htesting : setting.isTesting = false)
    (hknown : ∀ x ∈ fetch.items, Known setting db fetch x)
    (hsync : syncItems setting db fetch = .ok (db', values)) :
    (values.filterMap fun value => (convert setting fetch.source value).map
        (savingOf setting db' fetch.userId value)) = savings setting db fetch ∧
      db'.notifications.rows = retiredRows setting db fetch ∧
      ∀ value ∈ values, ∃ content, convert setting fetch.source value = some content ∧
        (savingOf setting db' fetch.userId value content).key fetch.userId ∈ keys db' := by
  obtain ⟨stored, hupsert, -, -, hkeys, hrows⟩ := syncItems_ok htesting hsync
  obtain ⟨hstored, hvalues, -⟩ := upsertItems_stored fetch.nested hupsert
  obtain ⟨hsavings, hids⟩ :=
    savings_values hvalues hstored (autoDeletes_syncItems htesting hsync) hknown
  have hall : (values.filterMap fun value => (convert setting fetch.source value).map
      (savingOf setting db' fetch.userId value)) = savings setting db fetch := by
    unfold savings
    rw [hsavings, htesting, if_neg Bool.false_ne_true]
  rw [← hsavings, hall] at hids
  have hkeysDb : keys db' = keys db :=
    hkeys.trans (congrArg (fun t => t.rows.map sourceKey) hstored.notifications)
  refine ⟨hall, ?_, fun value hvalue => ?_⟩
  · unfold retiredRows
    rw [hrows, hstored.notifications, htesting, Bool.false_or, hids]
  · obtain ⟨x, hx, hof⟩ := exists_left_of_forall₂ hvalues value hvalue
    obtain ⟨row, content, hrow, hconvert, hkey⟩ := hknown x hx
    refine ⟨content, (convert_congr hof.data hof.stamp).trans hconvert, ?_⟩
    rw [hkeysDb, Saving.key, savingOf, hof.known hstored hrow]
    exact hkey

/-- A sync of known items, with nothing to restore, retires what is stale and saves each item again;
whichever order its statements read in. -/
theorem sync_resaved {order' : ∀ db : Database, NotificationScan db} {first : Option NotificationId}
    (hknown : setting.isTesting = false → ∀ x ∈ fetch.items, Known setting db fetch x)
    (hrestored : ∀ row ∈ db.notifications.rows, Restored setting.restoredKinds fetch.userId row)
    (hok : syncThirdPartyNotifications setting order' db fetch = .ok db')
    (hfirst : ∀ id, first = some id → order = readFirst id) :
    ∃ after, syncThirdPartyNotifications setting order db fetch = .ok after ∧
      Resaved fetch.userId first (savings setting db fetch) (retiredRows setting db fetch)
        after.notifications.rows := by
  obtain ⟨⟨between, values⟩, hsync, -⟩ := bind_eq_ok.mp hok
  cases htesting : setting.isTesting with
  | true =>
    have hnothing : syncItems setting db fetch = .ok (db, []) := if_pos htesting
    refine ⟨_, bind_eq_ok.mpr ⟨(db, []), hnothing, bind_eq_ok.mpr ⟨db, rfl, rfl⟩⟩, ?_⟩
    rw [rows_foldl_restored hrestored, show savings setting db fetch = [] from if_pos htesting,
      show retiredRows setting db fetch = db.notifications.rows from
        if_pos (by rw [htesting, Bool.true_or])]
    exact .nil _
  | false =>
    obtain ⟨hsavings, hretired, hvalues⟩ := syncItems_known htesting (hknown htesting) hsync
    obtain ⟨created, hcreate, hresaved⟩ := createNotifications_resaved hfirst hvalues
    rw [hsavings, hretired] at hresaved
    have hcreated : ∀ row ∈ created.notifications.rows,
        Restored setting.restoredKinds fetch.userId row :=
      hresaved.forall_mem (fun _ _ h => restored_resave h) (restored_retiredRows hrestored)
    refine ⟨_, bind_eq_ok.mpr ⟨(between, values), hsync, bind_eq_ok.mpr ⟨created, hcreate, rfl⟩⟩, ?_⟩
    rw [rows_foldl_restored hcreated]
    exact hresaved

theorem retiredRows_eq
    (h : setting.isTesting = false → fetch.source.service.isSyncIncremental = false →
      ∀ row ∈ db.notifications.rows,
        isStaleNotification ((savings setting db fetch).map (·.sourceItemId))
          fetch.source.getNotificationSourceKind fetch.userId row = false) :
    retiredRows setting db fetch = db.notifications.rows := by
  unfold retiredRows
  split
  · rfl
  · next hfull =>
    rw [Bool.not_eq_true, Bool.or_eq_false_iff] at hfull
    refine (List.map_congr_left fun row hrow => ?_).trans (List.map_id'' (fun _ => rfl) _)
    rw [h hfull.1 hfull.2 row hrow, if_neg Bool.false_ne_true]

/-- Where all agrees, a sync brings no news. -/
theorem noNews_of_agrees {actions : List UserAction} {first : Option NotificationId}
    (h : Agrees setting actions db fetch)
    (hresaved : Resaved fetch.userId first (savings setting db fetch) (retiredRows setting db fetch)
      db'.notifications.rows) : NoNews actions db db' := by
  rw [retiredRows_eq h.fetched] at hresaved
  constructor
  · intro row hrow
    exact hresaved.keepsChoices hrow
      (fun saving hsaving hkey => h.choices saving hsaving row hrow hkey) h.alike
  · intro hnone
    refine hresaved.rows_eq fun saving hsaving row hrow hkey => ?_
    exact Saving.resave_eq_self.mpr
      ⟨h.choices saving hsaving row hrow hkey, h.columns hnone saving hsaving row hrow hkey⟩

/-- The row of an identifier keeps the choices. -/
theorem NoNews.keepsChoices {actions : List UserAction} (h : NoNews actions db db')
    {row after : NotificationRow} (hrow : row ∈ db.notifications.rows)
    (hafter : after ∈ db'.notifications.rows) (hid : after.id = row.id) : KeepsChoices row after := by
  obtain ⟨found, hfound, hsame, hkeeps⟩ := h.choices row hrow
  rw [Table.eq_of_key hafter hfound (hid.trans hsame.symm)]
  exact hkeeps

/-- A sync that brings no news finds nothing that is stale. -/
theorem fetched_of_noNews {actions : List UserAction} {first : Option NotificationId}
    (hresaved : Resaved fetch.userId first (savings setting db fetch) (retiredRows setting db fetch)
      db'.notifications.rows) (h : NoNews actions db db') (htesting : setting.isTesting = false)
    (hfull : fetch.source.service.isSyncIncremental = false) :
    ∀ row ∈ db.notifications.rows,
      isStaleNotification ((savings setting db fetch).map (·.sourceItemId))
        fetch.source.getNotificationSourceKind fetch.userId row = false := by
  intro row hrow
  by_contra hstale
  rw [Bool.not_eq_false] at hstale
  have hretired : patchRow deletedPatch row ∈ retiredRows setting db fetch := by
    unfold retiredRows
    rw [htesting, hfull, Bool.or_false, if_neg Bool.false_ne_true]
    exact List.mem_map.mpr ⟨row, hrow, if_pos hstale⟩
  simp only [isStaleNotification, Bool.and_eq_true, Bool.not_eq_true', List.contains_eq_mem,
    decide_eq_false_iff_not, beq_iff_eq] at hstale
  obtain ⟨⟨⟨hunfetched, -⟩, hactive⟩, -⟩ := hstale
  have hafter := hresaved.mem_of_unfetched hretired fun saving hsaving hkey =>
    hunfetched (List.mem_map.mpr ⟨saving, hsaving, (congrArg SourceKey.sourceItemId hkey).symm⟩)
  have hstatus : NotificationStatus.deleted = row.status := (h.keepsChoices hrow hafter rfl).status
  rw [← hstatus] at hactive
  cases hactive

/-- No two items fetched, no two keys. -/
theorem distinct_keys (h : (fetch.items.map (·.item.identity)).Nodup) :
    ((savings setting db fetch).map (·.key fetch.userId)).Nodup := by
  unfold savings
  split
  · exact List.nodup_nil
  · refine List.pairwise_map.mpr (List.pairwise_filterMap.mpr ((List.pairwise_map.mp h).imp ?_))
    intro x y hdistinct saving hsaving other hother hkey
    obtain ⟨row, hrow, hcontent⟩ := Option.bind_eq_some_iff.mp hsaving
    obtain ⟨row', hrow', hcontent'⟩ := Option.bind_eq_some_iff.mp hother
    obtain ⟨content, -, rfl⟩ := Option.map_eq_some_iff.mp hcontent
    obtain ⟨content', -, rfl⟩ := Option.map_eq_some_iff.mp hcontent'
    obtain ⟨hmem, hidentity⟩ := ThirdPartyItemUpsert.storedItem_eq_some.mp hrow
    obtain ⟨hmem', hidentity'⟩ := ThirdPartyItemUpsert.storedItem_eq_some.mp hrow'
    have hsame : row = row' := Table.eq_of_key hmem hmem' (congrArg SourceKey.sourceItemId hkey)
    exact hdistinct (hidentity.symm.trans (by rw [hsame]; exact hidentity'))

/-- An item that was known is, when it comes again. -/
theorem Known.again {first second : Fetch} {x y : SyncedItem} (h : Known setting db first x)
    (hacted : ActedOn db db') (hsame : SameUpstream first second) (heq : x.item.eq y.item = true) :
    Known setting db' second y := by
  obtain ⟨row, content, hrow, hconvert, hkey⟩ := h
  obtain ⟨other, hother, hkind⟩ := convert_kind (ThirdPartyItem.data_eq heq) hconvert
  refine ⟨row, other, ?_, by rw [← hsame.source]; exact hother, ?_⟩
  · rw [storedItem_congr hacted.thirdPartyItems]
    obtain ⟨hmem, hidentity⟩ := ThirdPartyItemUpsert.storedItem_eq_some.mp hrow
    exact ThirdPartyItemUpsert.storedItem_eq_some.mpr
      ⟨hmem, hidentity.trans (ThirdPartyItemUpsert.identity_eq heq)⟩
  · rw [hacted.keys, hkind, ← hsame.userId]
    exact hkey

/-- Whatever order they read in, the syncs that follow `actions` bring no news. -/
def NeverNews (setting : Setting) (actions : List UserAction) (db : Database) (fetch : Fetch) : Prop :=
  ∀ order db', syncThirdPartyNotifications setting order db fetch = .ok db' → NoNews actions db db'

/-- Each row is saved again by the sync that reads it first. -/
theorem agrees_of_neverNews {actions : List UserAction}
    (hknown : setting.isTesting = false → ∀ x ∈ fetch.items, Known setting db fetch x)
    (hrestored : ∀ row ∈ db.notifications.rows, Restored setting.restoredKinds fetch.userId row)
    (hok : syncThirdPartyNotifications setting order db fetch = .ok db')
    (hdistinct : ((savings setting db fetch).map (·.key fetch.userId)).Nodup)
    (h : NeverNews setting actions db fetch) : Agrees setting actions db fetch := by
  have hfetched : setting.isTesting = false → fetch.source.service.isSyncIncremental = false →
      ∀ row ∈ db.notifications.rows,
        isStaleNotification ((savings setting db fetch).map (·.sourceItemId))
          fetch.source.getNotificationSourceKind fetch.userId row = false := by
    obtain ⟨after, hafter, hresaved⟩ :=
      @sync_resaved setting order _ _ fetch order none hknown hrestored hok fun _ h => nomatch h
    exact fetched_of_noNews hresaved (h order after hafter)
  have hsaved : ∀ saving ∈ savings setting db fetch, ∀ row ∈ db.notifications.rows,
      sourceKey row = saving.key fetch.userId →
        ∃ after, NoNews actions db after ∧ saving.resave row ∈ after.notifications.rows := by
    intro saving hsaving row hrow hkey
    obtain ⟨after, hafter, hresaved⟩ := @sync_resaved setting (readFirst row.id) _ _ fetch order
      (some row.id) hknown hrestored hok fun id hid => by cases hid; rfl
    rw [retiredRows_eq hfetched] at hresaved
    exact ⟨after, h _ after hafter, hresaved.resave_mem hrow hdistinct hsaving hkey⟩
  refine ⟨fun saving hsaving row hrow hkey => ?_, fun hnone saving hsaving row hrow hkey => ?_,
    hfetched, ?_⟩
  · obtain ⟨after, hnews, hmem⟩ := hsaved saving hsaving row hrow hkey
    exact Saving.keepsChoices_resave.mp (hnews.keepsChoices hrow hmem Saving.resave_id)
  · obtain ⟨after, hnews, hmem⟩ := hsaved saving hsaving row hrow hkey
    rw [hnews.rows hnone] at hmem
    exact (Saving.resave_eq_self.mp (Table.eq_of_key hmem hrow Saving.resave_id)).2
  · exact (List.pairwise_map.mp hdistinct).imp fun hdiffers hkey => absurd hkey hdiffers

end Resync

/-- After a sync and some patches, a sync of the same items brings no news if what the provider says
of them is what the rows hold, and only if, when each item is fetched once. -/
theorem neverNews_iff {setting : Setting} {order order' : ∀ db : Database, NotificationScan db}
    {first second : Fetch} {db db₁ db₃ : Database} (hsame : SameUpstream first second)
    (hfirst : syncThirdPartyNotifications setting order db first = .ok db₁)
    (actions : List UserAction)
    (hsecond : syncThirdPartyNotifications setting order' (applyActions db₁ actions) second =
      .ok db₃) :
    (Agrees setting actions (applyActions db₁ actions) second →
      NeverNews setting actions (applyActions db₁ actions) second) ∧
    ((second.items.map (·.item.identity)).Nodup →
      NeverNews setting actions (applyActions db₁ actions) second →
        Agrees setting actions (applyActions db₁ actions) second) := by
  have hacted := actedOn_applyActions db₁ actions
  have hknown : setting.isTesting = false → ∀ y ∈ second.items,
      Known setting (applyActions db₁ actions) second y := by
    intro htesting y hy
    obtain ⟨x, hx, heq⟩ := exists_left_of_forall₂ hsame.items y hy
    exact (known_of_sync htesting hfirst x hx).again hacted hsame heq
  have hrestored : ∀ row ∈ (applyActions db₁ actions).notifications.rows,
      Restored setting.restoredKinds second.userId row := by
    rw [← hsame.userId]
    exact hacted.restored _ _ (restored_of_sync hfirst)
  constructor
  · intro hagrees scan after hafter
    obtain ⟨after', hafter', hresaved⟩ :=
      @sync_resaved setting scan _ _ second scan none hknown hrestored hafter fun _ h => nomatch h
    obtain rfl := Except.ok.inj (hafter.symm.trans hafter')
    exact noNews_of_agrees hagrees hresaved
  · intro hdistinct hnever
    exact agrees_of_neverNews hknown hrestored hsecond (distinct_keys hdistinct) hnever

def sampleCodec : Codec where
  github content := { title := content, unread := true, lastReadAt := none }
  linear content := .projectNotification none none content
  googleMail content :=
    { messages := [⟨"", 0, none, [], ⟨"text/plain", none, []⟩⟩]
      userEmailAddress := content
      nonempty := List.cons_ne_nil _ _ }
  googleCalendar content := { summary := content, attendees := [] }
  googleDrive content :=
    { id := content, fileId := "", fileName := "", fileMimeType := "", content := ""
      htmlContent := none, quotedFileContent := none, author := ⟨"", none, none⟩, createdTime := 0
      modifiedTime := 0, resolved := none, replies := [], userEmailAddress := none
      userDisplayName := none }
  slack content :=
    { renderedTitle := content
      messages := [⟨"", none⟩]
      subscribed := true
      lastRead := none
      userSlackId := none
      nonempty := List.cons_ne_nil _ _ }

def sampleSetting : Setting where
  codec := sampleCodec
  isTesting := false
  autoDeleteNotificationsOnTaskSync := false
  restoredKinds := [.github]

/-- A sync of one unread GitHub notification, some seconds after the epoch. -/
def githubFetch (seconds : Nat) : Fetch where
  source := .github
  userId := ⟨0⟩
  items :=
    [{ item :=
        { id := ⟨seconds⟩, sourceId := "1", data := .githubNotification "Fix", createdAt := 0,
          updatedAt := 0, userId := ⟨0⟩, integrationConnectionId := ⟨1⟩, sourceItem := none }
       stamp := ⟨⟨seconds⟩, seconds * 1000000000, seconds * 1000000000⟩ }]
  nested := by
    intro x hx
    rw [List.mem_singleton.mp hx]
    exact List.nodup_singleton _
  fetched := by
    intro x hx identity hidentity
    rw [List.mem_singleton.mp hx] at hidentity
    rw [List.mem_singleton.mp hidentity]
    rfl

theorem sameUpstream_github (seconds seconds' : Nat) :
    SameUpstream (githubFetch seconds) (githubFetch seconds') :=
  ⟨rfl, rfl, .cons rfl .nil⟩

def syncGithub (db : Database) (seconds : Nat) : Except UniversalInboxError Database :=
  syncThirdPartyNotifications sampleSetting (readFirst ⟨2⟩) db (githubFetch seconds)

/-- A patch of the notification that the first sync creates. -/
def patchGithub (patch : NotificationPatch) : UserAction := ⟨⟨2⟩, patch, ⟨0⟩⟩

/-- Snoozed until one minute after the epoch; GitHub does not know of it. -/
def snoozeGithub : UserAction :=
  patchGithub { status := none, snoozedUntil := some 60000000000, taskId := none }

theorem snoozedGithub_neverNews : ∃ db₁ db₃, syncGithub TaskUpsert.issueDatabase 2 = .ok db₁ ∧
    syncGithub (applyActions db₁ [snoozeGithub]) 3 = .ok db₃ ∧
    NeverNews sampleSetting [snoozeGithub] (applyActions db₁ [snoozeGithub]) (githubFetch 3) := by
  have hiff := @neverNews_iff sampleSetting (readFirst ⟨2⟩) (readFirst ⟨2⟩) (githubFetch 2) (githubFetch 3)
    TaskUpsert.issueDatabase _ _ (sameUpstream_github 2 3) rfl [snoozeGithub] rfl
  refine ⟨_, _, rfl, rfl, hiff.1 ⟨?_, ?_, ?_, ?_⟩⟩
  · decide +kernel
  · exact fun h => nomatch h
  · decide +kernel
  · exact List.pairwise_singleton _ _

/-- Marking a notification as read is not told to GitHub either. -/
def readGithub : UserAction :=
  patchGithub { status := some .read, snoozedUntil := none, taskId := none }

def linkGithub : UserAction :=
  patchGithub { status := none, snoozedUntil := none, taskId := some ⟨1⟩ }

/-- Read, the notification is unread again after the next sync; linked to a task, it is updated by
every sync. -/
theorem readGithub_unread :
    (∃ db₁ db₃, syncGithub TaskUpsert.issueDatabase 2 = .ok db₁ ∧
      syncGithub (applyActions db₁ [readGithub]) 3 = .ok db₃ ∧
      ¬ NoNews [readGithub] (applyActions db₁ [readGithub]) db₃) ∧
    ∃ db₁ db₂ db₃, syncGithub TaskUpsert.issueDatabase 2 = .ok db₁ ∧
      syncGithub (applyActions db₁ [linkGithub]) 3 = .ok db₂ ∧ syncGithub db₂ 4 = .ok db₃ ∧
      ¬ NoNews [] db₂ db₃ := by
  refine ⟨⟨_, _, rfl, rfl, ?_⟩, _, _, _, rfl, rfl, rfl, ?_⟩
  · decide +kernel
  · decide +kernel

end UniversalInbox.NotificationResync
