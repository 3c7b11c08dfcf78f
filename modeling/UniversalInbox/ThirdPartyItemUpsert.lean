import UniversalInbox.TaskUpsert

/-! Creating or updating a third party item: known by its source, kind, owner and connection,
and written only when something of it changed. -/
namespace UniversalInbox

mutual

/-- `PartialEq for ThirdPartyItem`: neither the identifier nor the timestamps are compared. -/
def ThirdPartyItem.eq : ThirdPartyItem → ThirdPartyItem → Bool
  | ⟨_, sourceId, data, _, _, userId, integrationConnectionId, sourceItem⟩, other =>
    sourceId == other.sourceId && data == other.data && userId == other.userId &&
      integrationConnectionId == other.integrationConnectionId &&
      eqSourceItem sourceItem other.sourceItem

def eqSourceItem : Option ThirdPartyItem → Option ThirdPartyItem → Bool
  | none, none => true
  | some item, some other => item.eq other
  | _, _ => false

end

theorem ThirdPartyItem.data_eq {item other : ThirdPartyItem} (h : item.eq other = true) :
    item.data = other.data := by
  obtain ⟨id, sourceId, data, createdAt, updatedAt, userId, integrationConnectionId, sourceItem⟩ :=
    item
  simp only [ThirdPartyItem.eq, Bool.and_eq_true, beq_iff_eq] at h
  exact h.1.1.1.2

namespace ThirdPartyItemUpsert
open TaskUpsert

/-- The `WHERE` clause of the `SELECT`. -/
def itemMatches (item : ThirdPartyItem) (row : ThirdPartyItemRow) : Bool :=
  row.sourceId == item.sourceId && row.data.kind == item.kind && row.userId == item.userId &&
    row.integrationConnectionId == item.integrationConnectionId

def findExistingItem (db : Database) (item : ThirdPartyItem) : Option ThirdPartyItem :=
  (db.thirdPartyItems.rows.find? (itemMatches item)).map fun row =>
    row.intoThirdPartyItem (row.sourceItemId.bind db.flatItem)

def updateRow (item : ThirdPartyItem) (row : ThirdPartyItemRow) : ThirdPartyItemRow :=
  { row with
    data := item.data
    updatedAt := pgTimestamp item.updatedAt
    sourceItemId := item.sourceItem.map (·.id) }

theorem updateRow_id (item : ThirdPartyItem) (row : ThirdPartyItemRow) :
    (updateRow item row).id = row.id := rfl

def insertRow (item : ThirdPartyItem) : ThirdPartyItemRow :=
  { id := item.id
    sourceId := item.sourceId
    data := item.data
    createdAt := pgTimestamp item.createdAt
    updatedAt := pgTimestamp item.updatedAt
    userId := item.userId
    integrationConnectionId := item.integrationConnectionId
    sourceItemId := item.sourceItem.map (·.id) }

/-- The items once an `UPDATE` by identifier has run. -/
def updateItems (db : Database) (id : ThirdPartyItemId) (item : ThirdPartyItem) :
    Table ThirdPartyItemRow.id :=
  db.thirdPartyItems.update (·.id == id) (updateRow item) (updateRow_id item)

def applyUpdate (db : Database) (id : ThirdPartyItemId) (item : ThirdPartyItem)
    (hconstraints : ThirdPartyItemConstraints (updateItems db id item)) : Database :=
  have hsome : ∀ i, (db.thirdPartyItems.find? i).isSome →
      ((updateItems db id item).find? i).isSome := fun _ h => Table.find?_isSome_update.trans h
  { db with
    thirdPartyItems := updateItems db id item
    item_constraints := hconstraints
    task_source := fun r hr => hsome _ (db.task_source r hr)
    task_sink := fun r hr i hi => hsome i (db.task_sink r hr i hi)
    notification_source := fun r hr => hsome _ (db.notification_source r hr) }

def applyInsert (db : Database) (item : ThirdPartyItem) (items : Table ThirdPartyItemRow.id)
    (h : db.thirdPartyItems.insert? (insertRow item) = some items)
    (hconstraints : ThirdPartyItemConstraints items) : Database :=
  { db with
    thirdPartyItems := items
    item_constraints := hconstraints
    task_source := fun r hr => Table.find?_isSome_insert h (db.task_source r hr)
    task_sink := fun r hr i hi => Table.find?_isSome_insert h (db.task_sink r hr i hi)
    notification_source := fun r hr => Table.find?_isSome_insert h (db.notification_source r hr) }

def createOrUpdateThirdPartyItem (db : Database) (item : ThirdPartyItem) :
    Except UniversalInboxError (Database × UpsertStatus ThirdPartyItem) :=
  match findExistingItem db item with
  | some existing =>
    if existing.eq item then .ok (db, .untouched existing)
    else if hconstraints : ThirdPartyItemConstraints (updateItems db existing.id item) then
      .ok (applyUpdate db existing.id item hconstraints,
        .updated { existing with data := item.data, updatedAt := item.updatedAt } existing)
    else .error (.databaseError s!"Failed to update third_party_item {existing.id.uuid} from storage")
  | none =>
    match h : db.thirdPartyItems.insert? (insertRow item) with
    | none => .error (.unexpected
        s!"Failed to update third_party_item with source ID {item.sourceId} from storage")
    | some items =>
      if hconstraints : ThirdPartyItemConstraints items then
        .ok (applyInsert db item items h hconstraints, .created item)
      else .error (.unexpected
        s!"Failed to update third_party_item with source ID {item.sourceId} from storage")

section Upsert
variable {db db' : Database} {item : ThirdPartyItem} {status : UpsertStatus ThirdPartyItem}

/-- What an upsert does to the items: the row it returns holds the new data, every row of
another source is as it was, no row changes its kind, and the tasks are as they were. -/
structure Upserted (db db' : Database) (item value : ThirdPartyItem) : Prop where
  stored : ∃ row ∈ db'.thirdPartyItems.rows, row.id = value.id ∧ itemMatches item row = true ∧
    row.data = item.data
  data : value.data = item.data
  others : ∀ row ∈ db.thirdPartyItems.rows, row.sourceId ≠ item.sourceId →
    row ∈ db'.thirdPartyItems.rows
  rows : ∀ row ∈ db'.thirdPartyItems.rows,
    (∃ old ∈ db.thirdPartyItems.rows, old.id = row.id ∧ old.data.kind = row.data.kind) ∨
      db.thirdPartyItems.find? row.id = none
  tasks : db'.tasks = db.tasks

/-- A stored row as an upsert reads it, joined with its source item. -/
def joinItem (db : Database) (row : ThirdPartyItemRow) : ThirdPartyItem :=
  row.intoThirdPartyItem (row.sourceItemId.bind db.flatItem)

theorem findExistingItem_eq_none (h : findExistingItem db item = none) :
    ∀ row ∈ db.thirdPartyItems.rows, itemMatches item row = false := fun row hrow =>
  Bool.eq_false_iff.mpr (List.find?_eq_none.mp (Option.map_eq_none_iff.mp h) row hrow)

/-- What becomes of an item that is not stored yet: its `INSERT` meets a row of its identifier, or
the constraints decide. -/
theorem createOrUpdateThirdPartyItem_of_taken (hnew : findExistingItem db item = none)
    (htaken : db.thirdPartyItems.insert? (insertRow item) = none) :
    createOrUpdateThirdPartyItem db item = .error (.unexpected
      s!"Failed to update third_party_item with source ID {item.sourceId} from storage") := by
  unfold createOrUpdateThirdPartyItem
  simp only [hnew]
  split
  · rfl
  · next hinsert => cases htaken.symm.trans hinsert

theorem createOrUpdateThirdPartyItem_of_fresh (hnew : findExistingItem db item = none)
    {items : Table ThirdPartyItemRow.id}
    (hinsert : db.thirdPartyItems.insert? (insertRow item) = some items) :
    createOrUpdateThirdPartyItem db item =
      if hconstraints : ThirdPartyItemConstraints items then
        .ok (applyInsert db item items hinsert hconstraints, .created item)
      else .error (.unexpected
        s!"Failed to update third_party_item with source ID {item.sourceId} from storage") := by
  unfold createOrUpdateThirdPartyItem
  simp only [hnew]
  split
  · next htaken => cases htaken.symm.trans hinsert
  · next hinsert' =>
    cases hinsert.symm.trans hinsert'
    rfl

/-- What an upsert can do: nothing, one `UPDATE` of the row it found, or one `INSERT`. -/
theorem createOrUpdateThirdPartyItem_cases
    (h : createOrUpdateThirdPartyItem db item = .ok (db', status)) :
    (∃ row ∈ db.thirdPartyItems.rows, itemMatches item row = true ∧
      (joinItem db row).eq item = true ∧ db' = db ∧ status = .untouched (joinItem db row)) ∨
    (∃ row ∈ db.thirdPartyItems.rows, itemMatches item row = true ∧
      (joinItem db row).eq item = false ∧
      ∃ hconstraints : ThirdPartyItemConstraints (updateItems db row.id item),
        db' = applyUpdate db row.id item hconstraints ∧
        status = .updated { joinItem db row with data := item.data, updatedAt := item.updatedAt }
          (joinItem db row)) ∨
    (findExistingItem db item = none ∧
      ∃ (items : Table ThirdPartyItemRow.id)
        (hinsert : db.thirdPartyItems.insert? (insertRow item) = some items)
        (hconstraints : ThirdPartyItemConstraints items),
        db' = applyInsert db item items hinsert hconstraints ∧ status = .created item) := by
  unfold createOrUpdateThirdPartyItem at h
  cases hfound : findExistingItem db item with
  | some existing =>
    simp only [hfound] at h
    obtain ⟨row, hfind, rfl⟩ := Option.map_eq_some_iff.mp hfound
    have hrow := List.mem_of_find?_eq_some hfind
    have hmatch := List.find?_some hfind
    split at h
    · next heq =>
      cases h
      exact .inl ⟨row, hrow, hmatch, heq, rfl, rfl⟩
    · next heq =>
      split at h
      · next hconstraints =>
        cases h
        exact .inr (.inl ⟨row, hrow, hmatch, Bool.eq_false_iff.mpr heq, hconstraints, rfl, rfl⟩)
      · cases h
  | none =>
    simp only [hfound] at h
    split at h
    · cases h
    · next items hinsert =>
      split at h
      · next hconstraints =>
        cases h
        exact .inr (.inr ⟨rfl, items, hinsert, hconstraints, rfl, rfl⟩)
      · cases h

theorem mem_applyUpdate {id : ThirdPartyItemId} {row : ThirdPartyItemRow}
    {hconstraints : ThirdPartyItemConstraints (updateItems db id item)} :
    row ∈ (applyUpdate db id item hconstraints).thirdPartyItems.rows ↔
      ∃ old ∈ db.thirdPartyItems.rows, (if old.id == id then updateRow item old else old) = row :=
  Table.mem_update (e := updateRow_id item)

theorem mem_applyInsert {items : Table ThirdPartyItemRow.id} {row : ThirdPartyItemRow}
    {hinsert : db.thirdPartyItems.insert? (insertRow item) = some items}
    {hconstraints : ThirdPartyItemConstraints items} :
    row ∈ (applyInsert db item items hinsert hconstraints).thirdPartyItems.rows ↔
      row ∈ db.thirdPartyItems.rows ∨ row = insertRow item := by
  show row ∈ items.rows ↔ _
  rw [(Table.insert?_eq_some.mp hinsert).2, List.mem_append, List.mem_singleton]

theorem itemMatches_iff {row : ThirdPartyItemRow} :
    itemMatches item row = true ↔ row.sourceId = item.sourceId ∧ row.data.kind = item.kind ∧
      row.userId = item.userId ∧ row.integrationConnectionId = item.integrationConnectionId := by
  simp only [itemMatches, Bool.and_eq_true, beq_iff_eq, and_assoc]

theorem itemMatches_insertRow : itemMatches item (insertRow item) = true :=
  itemMatches_iff.mpr ⟨rfl, rfl, rfl, rfl⟩

theorem itemMatches_updateRow {row : ThirdPartyItemRow} (h : itemMatches item row = true) :
    itemMatches item (updateRow item row) = true := by
  obtain ⟨hsource, -, huser, hconnection⟩ := itemMatches_iff.mp h
  exact itemMatches_iff.mpr ⟨hsource, rfl, huser, hconnection⟩

/-- An item that is not known yet gets a row and an identifier of its own. -/
theorem createOrUpdateThirdPartyItem_created (hnew : findExistingItem db item = none)
    (h : createOrUpdateThirdPartyItem db item = .ok (db', status)) :
    status = .created item ∧ db.thirdPartyItems.find? item.id = none ∧
      (∀ row, row ∈ db'.thirdPartyItems.rows ↔
        row ∈ db.thirdPartyItems.rows ∨ row = insertRow item) ∧ db'.tasks = db.tasks := by
  rcases createOrUpdateThirdPartyItem_cases h with ⟨row, hrow, hmatch, -⟩ | ⟨row, hrow, hmatch, -⟩ |
    ⟨-, items, hinsert, hconstraints, rfl, rfl⟩
  · cases hmatch.symm.trans (findExistingItem_eq_none hnew row hrow)
  · cases hmatch.symm.trans (findExistingItem_eq_none hnew row hrow)
  · exact ⟨rfl, Table.find?_eq_none_of_insert hinsert, fun row => mem_applyInsert, rfl⟩

theorem createOrUpdateThirdPartyItem_upserted
    (h : createOrUpdateThirdPartyItem db item = .ok (db', status)) :
    Upserted db db' item status.value := by
  rcases createOrUpdateThirdPartyItem_cases h with ⟨row, hrow, hmatch, heq, rfl, rfl⟩ |
    ⟨row, hrow, hmatch, -, hconstraints, rfl, rfl⟩ | ⟨-, items, hinsert, hconstraints, rfl, rfl⟩
  · exact ⟨⟨row, hrow, rfl, hmatch, ThirdPartyItem.data_eq heq⟩, ThirdPartyItem.data_eq heq,
      fun _ hr _ => hr, fun r hr => .inl ⟨r, hr, rfl, rfl⟩, rfl⟩
  · obtain ⟨hsource, hkind, -⟩ := itemMatches_iff.mp hmatch
    refine ⟨⟨updateRow item row, mem_applyUpdate.mpr ⟨row, hrow, if_pos (beq_self_eq_true _)⟩, rfl,
      itemMatches_updateRow hmatch, rfl⟩, rfl, fun r hr hne => ?_, fun r hr => .inl ?_, rfl⟩
    · refine mem_applyUpdate.mpr ⟨r, hr, if_neg fun hid => hne ?_⟩
      rw [Table.eq_of_key hr hrow (beq_iff_eq.mp hid)]
      exact hsource
    · obtain ⟨old, hold, rfl⟩ := mem_applyUpdate.mp hr
      refine ⟨old, hold, ?_⟩
      split
      · next hid =>
        rw [Table.eq_of_key hold hrow (beq_iff_eq.mp hid)]
        exact ⟨rfl, hkind⟩
      · exact ⟨rfl, rfl⟩
  · refine ⟨⟨insertRow item, mem_applyInsert.mpr (.inr rfl), rfl, itemMatches_insertRow, rfl⟩, rfl,
      fun row hrow _ => mem_applyInsert.mpr (.inl hrow), fun row hrow => ?_, rfl⟩
    rcases mem_applyInsert.mp hrow with hold | rfl
    · exact .inl ⟨row, hold, rfl, rfl⟩
    · exact .inr (Table.find?_eq_none_of_insert hinsert)

end Upsert

end ThirdPartyItemUpsert

end UniversalInbox
