import UniversalInbox.ThirdPartyItemNesting

/-! Reading an upserted item back. The payload of an item is kept as JSON, and the value an upsert
returns is put together from the row it found and from the request, and not from the statement that
writes the row. -/
namespace UniversalInbox

open TaskUpsert (UpsertStatus)

mutual

/-- What the columns keep of an item: its instants, and those of its source item, at their
resolution. -/
def ThirdPartyItem.stored : ThirdPartyItem → ThirdPartyItem
  | ⟨id, sourceId, data, createdAt, updatedAt, userId, integrationConnectionId, sourceItem⟩ =>
    ⟨id, sourceId, data, pgTimestamp createdAt, pgTimestamp updatedAt, userId,
      integrationConnectionId, storedSourceItem sourceItem⟩

def storedSourceItem : Option ThirdPartyItem → Option ThirdPartyItem
  | none => none
  | some item => some item.stored

end

namespace ThirdPartyItemReread
open ThirdPartyItemUpsert hiding createOrUpdateThirdPartyItem

/-- What a payload is read back as from the JSON that is written of it, if that can be read. Its tag
is read as it is. -/
structure DataColumn where
  reread : ThirdPartyItemData → Option ThirdPartyItemData
  kind {data data' : ThirdPartyItemData} (h : reread data = some data') : data'.kind = data.kind

namespace DataColumn
variable (column : DataColumn)

def Keeps (data : ThirdPartyItemData) : Prop := column.reread data = some data

/-- An item as its row is read. A payload that cannot be read stands for itself. -/
def written (item : ThirdPartyItem) : ThirdPartyItem :=
  { item with data := (column.reread item.data).getD item.data }

/-- The rows that cannot be read once a payload is written to one of them. -/
def mark (unreadable : List ThirdPartyItemId) (id : ThirdPartyItemId) (data : ThirdPartyItemData) :
    List ThirdPartyItemId :=
  let others := unreadable.filter (· ≠ id)
  if (column.reread data).isSome then others else id :: others

end DataColumn

/-- Each row holds what is read of its JSON; of one whose JSON cannot be read only the kind
counts. -/
structure ItemStore where
  db : Database
  unreadable : List ThirdPartyItemId

namespace ItemStore
variable (s : ItemStore)

/-- A row is read with its source item or not at all. -/
def Reads (row : ThirdPartyItemRow) : Prop :=
  row.id ∉ s.unreadable ∧ ∀ id ∈ row.sourceItemId, id ∉ s.unreadable

instance (row : ThirdPartyItemRow) : Decidable (s.Reads row) := inferInstanceAs (Decidable (_ ∧ _))

def readItem (row : ThirdPartyItemRow) : Option ThirdPartyItem :=
  if s.Reads row then some (joinItem s.db row) else none

def flatItem (id : ThirdPartyItemId) : Option ThirdPartyItem :=
  if id ∈ s.unreadable then none else s.db.flatItem id

def readById (id : ThirdPartyItemId) : Option ThirdPartyItem :=
  (s.db.thirdPartyItems.find? id).bind s.readItem

end ItemStore

section Upsert
variable (column : DataColumn)

/-- The row that is found is compared as it is read, and what is returned carries the payload of the
request. -/
def createOrUpdateThirdPartyItem (s : ItemStore) (item : ThirdPartyItem) :
    Except UniversalInboxError (ItemStore × UpsertStatus ThirdPartyItem) :=
  match (storedItem s.db item).map s.readItem with
  | some none => .error (.databaseError
      s!"Failed to search for third_party_item with source ID {item.sourceId} from storage")
  | some (some existing) =>
    if existing.eq item then .ok (s, .untouched existing)
    else if hconstraints :
        ThirdPartyItemConstraints (updateItems s.db existing.id (column.written item)) then
      .ok ({ db := applyUpdate s.db existing.id (column.written item) hconstraints
             unreadable := column.mark s.unreadable existing.id item.data },
        .updated { existing with data := item.data, updatedAt := item.updatedAt } existing)
    else .error (.databaseError s!"Failed to update third_party_item {existing.id.uuid} from storage")
  | none =>
    match h : s.db.thirdPartyItems.insert? (insertRow (column.written item)) with
    | none => .error (.unexpected
        s!"Failed to update third_party_item with source ID {item.sourceId} from storage")
    | some items =>
      if hconstraints : ThirdPartyItemConstraints items then
        .ok ({ db := applyInsert s.db (column.written item) items h hconstraints
               unreadable := column.mark s.unreadable item.id item.data }, .created item)
      else .error (.unexpected
        s!"Failed to update third_party_item with source ID {item.sourceId} from storage")

/-- `ThirdPartyItemService::create_or_update_third_party_item`. -/
def Service.createOrUpdateThirdPartyItem (s : ItemStore) :
    ThirdPartyItem → Except UniversalInboxError (ItemStore × UpsertStatus ThirdPartyItem)
  | ⟨id, sourceId, data, createdAt, updatedAt, userId, integrationConnectionId, some source⟩ =>
    match createOrUpdateThirdPartyItem s source with
    | .error error => .error error
    | .ok (s', status) =>
      ThirdPartyItemReread.createOrUpdateThirdPartyItem column s'
        { id, sourceId, data, createdAt, updatedAt, userId, integrationConnectionId,
          sourceItem := some status.value }
  | item => ThirdPartyItemReread.createOrUpdateThirdPartyItem column s item

/-- The payload reads back, or the stored item equals the request. -/
def KeepsData (s : ItemStore) (item : ThirdPartyItem) : Prop :=
  column.Keeps item.data ∨
    ∃ row, storedItem s.db item = some row ∧ (joinItem s.db row).eq item = true

/-- The source item the returned value should name is the one the written row names. -/
def KeepsSource (s : ItemStore) (item : ThirdPartyItem) : Prop :=
  match storedItem s.db item with
  | some row =>
    (joinItem s.db row).eq item = true ∨
      (row.sourceItemId = item.sourceItem.map (·.id) ∧
        (row.sourceItemId = some row.id →
          row.data = item.data ∧ pgTimestamp row.updatedAt = pgTimestamp item.updatedAt))
  | none =>
    storedSourceItem (item.sourceItem.bind fun source =>
      if source.id = item.id then some ((insertRow item).intoThirdPartyItem none)
      else s.flatItem source.id) = storedSourceItem item.sourceItem

/-- The stored row has the payload and names the source item, which names none. -/
def Unchanged (db : Database) (item : ThirdPartyItem) : Prop :=
  ∃ row, storedItem db item = some row ∧ row.data = item.data ∧
    match item.sourceItem with
    | none => row.sourceItemId = none
    | some source => ∃ stored, storedItem db source = some stored ∧ stored.sourceItemId = none ∧
        row.sourceItemId = some stored.id

/-- The payload reads back, or the item and the items it nests are as they are stored. -/
def PayloadKept (db : Database) : ThirdPartyItem → Prop
  | item@⟨_, _, data, _, _, _, _, some source⟩ =>
    column.Keeps data ∨ (Unchanged db item ∧ PayloadKept db source)
  | item => column.Keeps item.data ∨ Unchanged db item

/-- The source item of the stored row is the stored row of the item's own source item; an item that
is new has a source item that names no other and has its payload kept. -/
def ReusesSource (db : Database) (item : ThirdPartyItem) : Prop :=
  match item.sourceItem, storedItem db item with
  | none, some row => row.sourceItemId = none
  | none, none => True
  | some source, some row =>
    ∃ stored, storedItem db source = some stored ∧ row.sourceItemId = some stored.id
  | some source, none => ¬ NamesSource db source ∧ PayloadKept column db source

end Upsert

/-- Reading the row of a returned value gives that value, at the resolution of the columns. -/
def ReadsBack (s : ItemStore) (value : ThirdPartyItem) : Prop :=
  (s.readById value.id).map ThirdPartyItem.stored = some value.stored

variable {column : DataColumn} {s s' : ItemStore} {db : Database} {item value : ThirdPartyItem}
  {row : ThirdPartyItemRow} {status : UpsertStatus ThirdPartyItem}

section Column

theorem identity_written : (column.written item).identity = item.identity := by
  unfold DataColumn.written ThirdPartyItem.identity ThirdPartyItem.kind
  cases h : column.reread item.data with
  | none => rfl
  | some data =>
    simp only [Option.getD_some, ItemIdentity.mk.injEq, true_and, and_true]
    exact column.kind h

theorem DataColumn.Keeps.written_eq (h : column.Keeps item.data) : column.written item = item := by
  obtain ⟨id, sourceId, data, createdAt, updatedAt, userId, connection, sourceItem⟩ := item
  unfold DataColumn.written
  rw [show column.reread data = some data from h]
  rfl

theorem DataColumn.Keeps.written_data (h : column.Keeps item.data) :
    (column.written item).data = item.data := by rw [h.written_eq]

theorem not_mem_mark_iff {unreadable : List ThirdPartyItemId} {id id' : ThirdPartyItemId}
    {data : ThirdPartyItemData} :
    id' ∉ column.mark unreadable id data ↔
      (id' = id → (column.reread data).isSome) ∧ (id' ≠ id → id' ∉ unreadable) := by
  unfold DataColumn.mark
  by_cases hid : id' = id
  · subst hid
    cases (column.reread data).isSome <;> simp
  · cases (column.reread data).isSome <;> simp [hid]

theorem DataColumn.Keeps.not_mem_mark {data : ThirdPartyItemData}
    {unreadable : List ThirdPartyItemId} {id id' : ThirdPartyItemId} (h : column.Keeps data)
    (hother : id' ≠ id → id' ∉ unreadable) : id' ∉ column.mark unreadable id data := by
  refine not_mem_mark_iff.mpr ⟨fun _ => ?_, hother⟩
  rw [show column.reread data = some data from h]
  rfl

/-- What is written can be read, and as it was given, where the payload reads back. -/
theorem keeps_iff {unreadable : List ThirdPartyItemId} {id : ThirdPartyItemId} :
    (column.written item).data = item.data ∧ id ∉ column.mark unreadable id item.data ↔
      column.Keeps item.data := by
  unfold DataColumn.written DataColumn.Keeps
  rw [not_mem_mark_iff]
  cases column.reread item.data with
  | none => simp
  | some data => simp

end Column

section Reading

theorem stored_eq_iff {item other : ThirdPartyItem} :
    item.stored = other.stored ↔ item.id = other.id ∧ item.sourceId = other.sourceId ∧
      item.data = other.data ∧ pgTimestamp item.createdAt = pgTimestamp other.createdAt ∧
      pgTimestamp item.updatedAt = pgTimestamp other.updatedAt ∧ item.userId = other.userId ∧
      item.integrationConnectionId = other.integrationConnectionId ∧
      storedSourceItem item.sourceItem = storedSourceItem other.sourceItem := by
  obtain ⟨_, _, _, _, _, _, _, _⟩ := item
  obtain ⟨_, _, _, _, _, _, _, _⟩ := other
  simp only [ThirdPartyItem.stored, ThirdPartyItem.mk.injEq]

theorem storedSourceItem_eq_none {source : Option ThirdPartyItem} :
    storedSourceItem source = none ↔ source = none := by
  cases source with
  | none => exact iff_of_true rfl rfl
  | some _ => exact iff_of_false (Option.some_ne_none _) (Option.some_ne_none _)

/-- The columns are those of the value, whose payload and source item decide whether it reads
back. -/
theorem readsBack_iff (hrow : row ∈ s.db.thirdPartyItems.rows)
    (hcolumns : HoldsColumns row { value with data := row.data }) :
    ReadsBack s value ↔ s.Reads row ∧ row.data = value.data ∧
      storedSourceItem (row.sourceItemId.bind s.db.flatItem) =
        storedSourceItem value.sourceItem := by
  have hid : row.id = value.id := hcolumns.id
  have hfind : s.readById value.id = s.readItem row := by
    unfold ItemStore.readById
    rw [← hid, Table.find?_eq_some.mpr ⟨hrow, rfl⟩, Option.bind_some]
  unfold ReadsBack ItemStore.readItem at *
  rw [hfind]
  by_cases hreads : s.Reads row
  · rw [if_pos hreads, Option.map_some, Option.some_inj, stored_eq_iff]
    constructor
    · rintro ⟨-, -, hdata, -, -, -, -, hsource⟩
      exact ⟨hreads, hdata, hsource⟩
    · rintro ⟨-, hdata, hsource⟩
      exact ⟨hid, hcolumns.sourceId, hdata, hcolumns.createdAt, hcolumns.updatedAt,
        hcolumns.userId, hcolumns.integrationConnectionId, hsource⟩
  · rw [if_neg hreads]
    exact iff_of_false nofun fun h => hreads h.1

/-- Read flat, a row is the value when it has its payload and the value has no source item. -/
theorem flatItem_iff (hrow : row ∈ s.db.thirdPartyItems.rows)
    (hcolumns : HoldsColumns row { value with data := row.data }) :
    storedSourceItem (s.flatItem value.id) = storedSourceItem (some value) ↔
      value.sourceItem = none ∧ row.data = value.data ∧ row.id ∉ s.unreadable := by
  have hid : row.id = value.id := hcolumns.id
  unfold ItemStore.flatItem
  rw [← hid, flatItem_of_mem hrow]
  by_cases hmem : row.id ∈ s.unreadable
  · rw [if_pos hmem]
    exact iff_of_false nofun fun h => h.2.2 hmem
  · rw [if_neg hmem, storedSourceItem, storedSourceItem, Option.some_inj, stored_eq_iff]
    constructor
    · rintro ⟨-, -, hdata, -, -, -, -, hsource⟩
      exact ⟨storedSourceItem_eq_none.mp hsource.symm, hdata, hmem⟩
    · rintro ⟨hsource, hdata, -⟩
      exact ⟨hid, hcolumns.sourceId, hdata, hcolumns.createdAt, hcolumns.updatedAt,
        hcolumns.userId, hcolumns.integrationConnectionId, by rw [hsource]; rfl⟩

theorem flatItem_applyUpdate {id : ThirdPartyItemId}
    {hconstraints : ThirdPartyItemConstraints (updateItems db row.id item)}
    (hrow : row ∈ db.thirdPartyItems.rows) :
    (applyUpdate db row.id item hconstraints).flatItem id =
      if id = row.id then some ((updateRow item row).intoThirdPartyItem none)
      else db.flatItem id := by
  split
  · next hid =>
    have hmem : updateRow item row ∈
        (applyUpdate db row.id item hconstraints).thirdPartyItems.rows :=
      mem_applyUpdate.mpr ⟨row, hrow, if_pos (beq_self_eq_true _)⟩
    rw [hid]
    exact flatItem_of_mem hmem
  · next hid =>
    unfold Database.flatItem applyUpdate updateItems
    rw [Table.find?_update]
    cases hfind : db.thirdPartyItems.find? id with
    | none => rfl
    | some other =>
      have hother : other.id = id := (Table.find?_eq_some.mp hfind).2
      rw [Option.map_some, if_neg]
      rw [hother, beq_iff_eq]
      exact hid

theorem flatItem_applyInsert {id : ThirdPartyItemId} {items : Table ThirdPartyItemRow.id}
    {hinsert : db.thirdPartyItems.insert? (insertRow item) = some items}
    {hconstraints : ThirdPartyItemConstraints items} :
    (applyInsert db item items hinsert hconstraints).flatItem id =
      if id = item.id then some ((insertRow item).intoThirdPartyItem none)
      else db.flatItem id := by
  unfold Database.flatItem applyInsert
  rw [Table.find?_insert hinsert]
  by_cases hid : id = item.id
  · rw [if_pos hid, if_pos (show (insertRow item).id = id from hid.symm), Option.map_some]
  · rw [if_neg hid, if_neg fun h : (insertRow item).id = id => hid h.symm]

/-- The source item the row has now is the one it had. -/
theorem storedSource_applyUpdate_iff {id : Option ThirdPartyItemId}
    {hconstraints : ThirdPartyItemConstraints (updateItems db row.id item)}
    (hrow : row ∈ db.thirdPartyItems.rows) (hid : id = item.sourceItem.map (·.id)) :
    storedSourceItem (id.bind (applyUpdate db row.id item hconstraints).flatItem) =
        storedSourceItem (row.sourceItemId.bind db.flatItem) ↔
      row.sourceItemId = id ∧ (row.sourceItemId = some row.id →
        row.data = item.data ∧ pgTimestamp row.updatedAt = pgTimestamp item.updatedAt) := by
  have hupdated : updateRow item row ∈
      (applyUpdate db row.id item hconstraints).thirdPartyItems.rows :=
    mem_applyUpdate.mpr ⟨row, hrow, if_pos (beq_self_eq_true _)⟩
  have hsame := sourceItem_eq_none hupdated
  rw [show (updateRow item row).sourceItemId = id from hid.symm] at hsame
  cases hold : row.sourceItemId with
  | none =>
    rw [Option.bind_none, storedSourceItem, storedSourceItem_eq_none, hsame, eq_comm]
    exact ⟨fun h => ⟨h, fun h' => by cases h'⟩, fun h => h.1⟩
  | some j =>
    obtain ⟨source, hsource⟩ := Option.isSome_iff_exists.mp
      (db.item_constraints.source row hrow j hold)
    obtain ⟨hmem, rfl⟩ := Table.find?_eq_some.mp hsource
    rw [Option.bind_some, flatItem_of_mem hmem]
    cases id with
    | none => exact iff_of_false (fun h => by cases h) (fun h => by cases h.1)
    | some i =>
      rw [Option.bind_some, flatItem_applyUpdate hrow, Option.some_inj]
      split
      · next hself =>
        subst hself
        rw [storedSourceItem, storedSourceItem, Option.some_inj, stored_eq_iff]
        constructor
        · rintro ⟨hids, -, hdata, -, hupdatedAt, -⟩
          obtain rfl := Table.eq_of_key hrow hmem hids
          exact ⟨rfl, fun _ => ⟨hdata.symm,
            hupdatedAt.symm.trans (pgTimestamp_pgTimestamp _)⟩⟩
        · rintro ⟨hids, hkeeps⟩
          obtain rfl := Table.eq_of_key hrow hmem hids.symm
          obtain ⟨hdata, hupdatedAt⟩ := hkeeps rfl
          exact ⟨rfl, rfl, hdata.symm, rfl, (pgTimestamp_pgTimestamp _).trans hupdatedAt.symm,
            rfl, rfl, rfl⟩
      · next hother =>
        constructor
        · intro h
          cases hflat : db.flatItem i with
          | none => rw [hflat] at h; cases h
          | some found =>
            rw [hflat, storedSourceItem, storedSourceItem, Option.some_inj, stored_eq_iff] at h
            have hi := Database.flatItem_id hflat
            refine ⟨h.1.symm.trans hi, fun hself => absurd ?_ hother⟩
            exact hi.symm.trans (h.1.trans (Option.some_inj.mp hself))
        · rintro ⟨rfl, -⟩
          rw [flatItem_of_mem hmem]

end Reading

section Statement

/-- What an upsert can do: nothing, one `UPDATE` of the row it found and read, or one `INSERT`. -/
theorem createOrUpdateThirdPartyItem_cases
    (h : createOrUpdateThirdPartyItem column s item = .ok (s', status)) :
    (∃ row, storedItem s.db item = some row ∧ s.Reads row ∧ (joinItem s.db row).eq item = true ∧
      s' = s ∧ status = .untouched (joinItem s.db row)) ∨
    (∃ row, storedItem s.db item = some row ∧ s.Reads row ∧ (joinItem s.db row).eq item = false ∧
      ∃ hconstraints : ThirdPartyItemConstraints (updateItems s.db row.id (column.written item)),
        s' = ⟨applyUpdate s.db row.id (column.written item) hconstraints,
          column.mark s.unreadable row.id item.data⟩ ∧
        status = .updated { joinItem s.db row with data := item.data, updatedAt := item.updatedAt }
          (joinItem s.db row)) ∨
    (storedItem s.db item = none ∧
      ∃ (items : Table ThirdPartyItemRow.id)
        (hinsert : s.db.thirdPartyItems.insert? (insertRow (column.written item)) = some items)
        (hconstraints : ThirdPartyItemConstraints items),
        s' = ⟨applyInsert s.db (column.written item) items hinsert hconstraints,
          column.mark s.unreadable item.id item.data⟩ ∧ status = .created item) := by
  unfold createOrUpdateThirdPartyItem at h
  cases hstored : storedItem s.db item with
  | some row =>
    simp only [hstored, Option.map_some, ItemStore.readItem] at h
    by_cases hreads : s.Reads row
    · simp only [if_pos hreads] at h
      split at h
      · next heq =>
        cases h
        exact .inl ⟨row, rfl, hreads, heq, rfl, rfl⟩
      · next heq =>
        split at h
        · next hconstraints =>
          cases h
          exact .inr (.inl ⟨row, rfl, hreads, Bool.eq_false_iff.mpr heq, hconstraints, rfl, rfl⟩)
        · cases h
    · simp only [if_neg hreads] at h
      cases h
  | none =>
    simp only [hstored, Option.map_none] at h
    split at h
    · cases h
    · next items hinsert =>
      split at h
      · next hconstraints =>
        cases h
        exact .inr (.inr ⟨rfl, items, hinsert, hconstraints, rfl, rfl⟩)
      · cases h

theorem reads_of_ok (h : createOrUpdateThirdPartyItem column s item = .ok (s', status))
    (hstored : storedItem s.db item = some row) : s.Reads row := by
  rcases createOrUpdateThirdPartyItem_cases h with ⟨row', hrow', hreads, -⟩ |
    ⟨row', hrow', hreads, -⟩ | ⟨hnone, -⟩
  · cases hrow'.symm.trans hstored
    exact hreads
  · cases hrow'.symm.trans hstored
    exact hreads
  · cases hnone.symm.trans hstored

theorem fresh_of_ok (h : createOrUpdateThirdPartyItem column s item = .ok (s', status))
    (hnone : storedItem s.db item = none) : s.db.thirdPartyItems.find? item.id = none := by
  rcases createOrUpdateThirdPartyItem_cases h with ⟨row, hrow, -⟩ | ⟨row, hrow, -⟩ |
    ⟨-, items, hinsert, -⟩
  · cases hnone.symm.trans hrow
  · cases hnone.symm.trans hrow
  · exact Table.find?_eq_none_of_insert hinsert

theorem storedItem_written (h : storedItem s.db item = some row) :
    storedItem s.db (column.written item) = some row :=
  (storedItem_congr identity_written).trans h

theorem createOrUpdateThirdPartyItem_of_taken (hnew : storedItem s.db item = none)
    (htaken : s.db.thirdPartyItems.insert? (insertRow (column.written item)) = none) :
    createOrUpdateThirdPartyItem column s item = .error (.unexpected
      s!"Failed to update third_party_item with source ID {item.sourceId} from storage") := by
  unfold createOrUpdateThirdPartyItem
  simp only [hnew, Option.map_none]
  split
  · rfl
  · next hinsert => cases htaken.symm.trans hinsert

theorem createOrUpdateThirdPartyItem_of_fresh (hnew : storedItem s.db item = none)
    {items : Table ThirdPartyItemRow.id}
    (hinsert : s.db.thirdPartyItems.insert? (insertRow (column.written item)) = some items) :
    createOrUpdateThirdPartyItem column s item =
      if hconstraints : ThirdPartyItemConstraints items then
        .ok (⟨applyInsert s.db (column.written item) items hinsert hconstraints,
          column.mark s.unreadable item.id item.data⟩, .created item)
      else .error (.unexpected
        s!"Failed to update third_party_item with source ID {item.sourceId} from storage") := by
  unfold createOrUpdateThirdPartyItem
  simp only [hnew, Option.map_none]
  split
  · next htaken => cases htaken.symm.trans hinsert
  · next hinsert' =>
    cases hinsert.symm.trans hinsert'
    rfl

/-- Where every payload reads back, this is the upsert of typed rows. -/
theorem createOrUpdateThirdPartyItem_eq (hkeeps : column.Keeps item.data) :
    createOrUpdateThirdPartyItem column ⟨db, []⟩ item =
      (ThirdPartyItemUpsert.createOrUpdateThirdPartyItem db item).map fun result =>
        (⟨result.1, []⟩, result.2) := by
  have hmark (id : ThirdPartyItemId) : column.mark [] id item.data = [] := by
    unfold DataColumn.mark
    rw [show column.reread item.data = some item.data from hkeeps]
    rfl
  cases hstored : storedItem db item with
  | some row =>
    have hread : ItemStore.readItem ⟨db, []⟩ row = some (joinItem db row) :=
      if_pos ⟨List.not_mem_nil, fun _ _ => List.not_mem_nil⟩
    have hfound : findExistingItem db item = some (joinItem db row) :=
      congrArg (Option.map (joinItem db)) hstored
    unfold createOrUpdateThirdPartyItem ThirdPartyItemUpsert.createOrUpdateThirdPartyItem
    simp only [hstored, hfound, Option.map_some, hread, hmark, hkeeps.written_eq]
    split
    · rfl
    · split <;> rfl
  | none =>
    have hnew : findExistingItem db item = none :=
      congrArg (Option.map (joinItem db)) hstored
    obtain htaken | ⟨items, hinsert⟩ :=
      (db.thirdPartyItems.insert? (insertRow item)).eq_none_or_eq_some
    · rw [ThirdPartyItemUpsert.createOrUpdateThirdPartyItem_of_taken hnew htaken,
        createOrUpdateThirdPartyItem_of_taken hstored (hkeeps.written_eq.symm ▸ htaken)]
      rfl
    · rw [ThirdPartyItemUpsert.createOrUpdateThirdPartyItem_of_fresh hnew hinsert,
        createOrUpdateThirdPartyItem_of_fresh hstored (hkeeps.written_eq.symm ▸ hinsert)]
      simp only [hmark, hkeeps.written_eq]
      split <;> rfl

/-- What an upsert leaves: a row with the columns of the value it returned, which has its payload
where that is kept. -/
structure Written (s s' : ItemStore) (item value : ThirdPartyItem) (written : List ItemIdentity)
    (kept : Prop) : Prop where
  placed : ∃ row, Placed s.db s'.db item row written ∧
    HoldsColumns row { value with data := row.data } ∧
    (row.data = value.data ∧ row.id ∉ s'.unreadable ↔ kept)
  data : value.data = item.data
  source : value.sourceItem ≠ none ↔ NamesSource s.db item

theorem placed_written {db db' : Database} {written : List ItemIdentity}
    (h : Placed db db' (column.written item) row written) : Placed db db' item row written where
  mem := h.mem
  identity := h.identity.trans identity_written
  id := fun old hold => h.id old ((storedItem_congr identity_written).trans hold)
  fresh := fun hnone => h.fresh ((storedItem_congr identity_written).trans hnone)
  others := h.others
  keeps := h.keeps

theorem written_of_upsert (h : createOrUpdateThirdPartyItem column s item = .ok (s', status)) :
    Written s s' item status.value [item.identity] (KeepsData column s item) := by
  rcases createOrUpdateThirdPartyItem_cases h with ⟨row, hstored, hreads, heq, rfl, rfl⟩ |
    ⟨row, hstored, hreads, heq, hconstraints, rfl, rfl⟩ |
    ⟨hstored, items, hinsert, hconstraints, rfl, rfl⟩
  · refine ⟨⟨row, placed_of_stored hstored, holdsColumns_joinItem, ?_⟩, ThirdPartyItem.data_eq heq,
      namesSource_of_mem hstored⟩
    exact iff_of_true ⟨rfl, hreads.1⟩ (.inr ⟨row, hstored, heq⟩)
  · have hplaced : Placed s.db (applyUpdate s.db row.id (column.written item) hconstraints) item
        (updateRow (column.written item) row) [(column.written item).identity] :=
      placed_written (placed_applyUpdate (storedItem_written hstored))
    rw [identity_written] at hplaced
    refine ⟨⟨_, hplaced, ⟨rfl, rfl, rfl, rfl, pgTimestamp_pgTimestamp _, rfl, rfl⟩,
      keeps_iff.trans (or_iff_left ?_).symm⟩, rfl, namesSource_of_mem hstored⟩
    rintro ⟨row', hrow', heq'⟩
    cases hrow'.symm.trans hstored
    cases heq.symm.trans heq'
  · have hplaced : Placed s.db (applyInsert s.db (column.written item) items hinsert hconstraints)
        item (insertRow (column.written item)) [(column.written item).identity] :=
      placed_written (placed_applyInsert ((storedItem_congr identity_written).trans hstored))
    rw [identity_written] at hplaced
    refine ⟨⟨_, hplaced, ⟨rfl, rfl, rfl, pgTimestamp_pgTimestamp _, pgTimestamp_pgTimestamp _, rfl,
      rfl⟩, keeps_iff.trans (or_iff_left ?_).symm⟩, rfl, ?_⟩
    · rintro ⟨row', hrow', -⟩
      cases hrow'.symm.trans hstored
    · unfold NamesSource
      rw [hstored]
      exact Iff.rfl

/-- Unless the stored item equals the request, only the payload of the request counts. -/
theorem keepsData_iff
    (h : ∀ row, storedItem s.db item = some row → (joinItem s.db row).eq item = false) :
    KeepsData column s item ↔ column.Keeps item.data := by
  refine or_iff_left ?_
  rintro ⟨row, hrow, heq⟩
  cases (h row hrow).symm.trans heq

theorem keepsSource_of_stored (hstored : storedItem s.db item = some row)
    (heq : (joinItem s.db row).eq item = false) :
    KeepsSource s item ↔ row.sourceItemId = item.sourceItem.map (·.id) ∧
      (row.sourceItemId = some row.id →
        row.data = item.data ∧ pgTimestamp row.updatedAt = pgTimestamp item.updatedAt) := by
  unfold KeepsSource
  rw [hstored]
  refine or_iff_right ?_
  rw [heq]
  exact Bool.false_ne_true

theorem readsBack_updated
    {hconstraints : ThirdPartyItemConstraints (updateItems s.db row.id (column.written item))}
    (hstored : storedItem s.db item = some row) (hreads : s.Reads row)
    (heq : (joinItem s.db row).eq item = false) :
    ReadsBack ⟨applyUpdate s.db row.id (column.written item) hconstraints,
        column.mark s.unreadable row.id item.data⟩
      { joinItem s.db row with data := item.data, updatedAt := item.updatedAt } ↔
      column.Keeps item.data ∧ KeepsSource s item := by
  obtain ⟨hrow, -⟩ := storedItem_eq_some.mp hstored
  have hupdated : updateRow (column.written item) row ∈
      (applyUpdate s.db row.id (column.written item) hconstraints).thirdPartyItems.rows :=
    mem_applyUpdate.mpr ⟨row, hrow, if_pos (beq_self_eq_true _)⟩
  have hsource : storedSourceItem ((item.sourceItem.map (·.id)).bind
        (applyUpdate s.db row.id (column.written item) hconstraints).flatItem) = _ ↔ _ :=
    storedSource_applyUpdate_iff hrow rfl
  rw [keepsSource_of_stored hstored heq, readsBack_iff hupdated
    ⟨rfl, rfl, rfl, rfl, pgTimestamp_pgTimestamp _, rfl, rfl⟩]
  constructor
  · rintro ⟨hreads', hdata, hsame⟩
    have hkeeps : column.Keeps item.data := keeps_iff.mp ⟨hdata, hreads'.1⟩
    refine ⟨hkeeps, ?_⟩
    have hids := hsource.mp hsame
    rwa [hkeeps.written_eq] at hids
  · rintro ⟨hkeeps, hids, hself⟩
    refine ⟨⟨hkeeps.not_mem_mark fun h => absurd rfl h, fun id hid => ?_⟩, ?_, ?_⟩
    · exact hkeeps.not_mem_mark fun _ => hreads.2 id (hids.trans hid)
    · exact hkeeps.written_data
    · refine hsource.mpr ?_
      rw [hkeeps.written_eq]
      exact ⟨hids, hself⟩

theorem readsBack_created {items : Table ThirdPartyItemRow.id}
    {hinsert : s.db.thirdPartyItems.insert? (insertRow (column.written item)) = some items}
    {hconstraints : ThirdPartyItemConstraints items} (hstored : storedItem s.db item = none) :
    ReadsBack ⟨applyInsert s.db (column.written item) items hinsert hconstraints,
        column.mark s.unreadable item.id item.data⟩ item ↔
      column.Keeps item.data ∧ KeepsSource s item := by
  have hinserted : insertRow (column.written item) ∈
      (applyInsert s.db (column.written item) items hinsert hconstraints).thirdPartyItems.rows :=
    mem_applyInsert.mpr (.inr rfl)
  have hflat (source : ThirdPartyItem) :
      (applyInsert s.db (column.written item) items hinsert hconstraints).flatItem source.id =
        if source.id = item.id then some ((insertRow (column.written item)).intoThirdPartyItem none)
        else s.db.flatItem source.id := flatItem_applyInsert
  rw [readsBack_iff hinserted
    ⟨rfl, rfl, rfl, pgTimestamp_pgTimestamp _, pgTimestamp_pgTimestamp _, rfl, rfl⟩]
  unfold KeepsSource
  rw [hstored]
  dsimp only
  by_cases hkeeps : column.Keeps item.data
  · have hown : item.id ∉ column.mark s.unreadable item.id item.data :=
      hkeeps.not_mem_mark fun h => absurd rfl h
    have hid : (insertRow (column.written item)).sourceItemId = item.sourceItem.map (·.id) := rfl
    unfold ItemStore.Reads
    rw [hid]
    cases hsource : item.sourceItem with
    | none =>
      have hnone : ∀ id ∈ (none : Option ThirdPartyItem).map (·.id),
          id ∉ column.mark s.unreadable item.id item.data := fun _ h => absurd h (Option.not_mem_none _)
      exact iff_of_true ⟨⟨hown, hnone⟩, hkeeps.written_data, rfl⟩ ⟨hkeeps, rfl⟩
    | some source =>
      have hreads : source.id ∉ column.mark s.unreadable item.id item.data ↔
          (source.id ≠ item.id → source.id ∉ s.unreadable) :=
        ⟨fun h => (not_mem_mark_iff.mp h).2, hkeeps.not_mem_mark⟩
      simp only [Option.map_some, Option.mem_some_iff, forall_eq', Option.bind_some, hflat, hreads]
      rw [hkeeps.written_eq]
      unfold ItemStore.flatItem
      by_cases hself : source.id = item.id
      · simp only [if_pos hself]
        exact ⟨fun h => ⟨hkeeps, h.2.2⟩, fun h => ⟨⟨hown, fun hne => absurd hself hne⟩, rfl, h.2⟩⟩
      · simp only [if_neg hself]
        by_cases hmem : source.id ∈ s.unreadable
        · rw [if_pos hmem]
          exact iff_of_false (fun h => h.1.2 hself hmem) fun h => Option.some_ne_none _ h.2.symm
        · rw [if_neg hmem]
          exact ⟨fun h => ⟨hkeeps, h.2.2⟩, fun h => ⟨⟨hown, fun _ => hmem⟩, rfl, h.2⟩⟩
  · refine iff_of_false ?_ fun h => hkeeps h.1
    rintro ⟨hreads, hdata, -⟩
    exact hkeeps (keeps_iff.mp ⟨hdata, hreads.1⟩)

theorem readsBack_of_upsert (h : createOrUpdateThirdPartyItem column s item = .ok (s', status)) :
    ReadsBack s' status.value ↔ KeepsData column s item ∧ KeepsSource s item := by
  rcases createOrUpdateThirdPartyItem_cases h with ⟨row, hstored, hreads, heq, rfl, rfl⟩ |
    ⟨row, hstored, hreads, heq, hconstraints, rfl, rfl⟩ |
    ⟨hstored, items, hinsert, hconstraints, rfl, rfl⟩
  · refine iff_of_true ?_ ⟨.inr ⟨row, hstored, heq⟩, ?_⟩
    · exact (readsBack_iff (storedItem_eq_some.mp hstored).1 holdsColumns_joinItem).mpr
        ⟨hreads, rfl, rfl⟩
    · unfold KeepsSource
      rw [hstored]
      exact .inl heq
  · rw [keepsData_iff]
    · exact readsBack_updated hstored hreads heq
    · intro row' hrow'
      cases hrow'.symm.trans hstored
      exact heq
  · rw [keepsData_iff]
    · exact readsBack_created hstored
    · intro row' hrow'
      cases hrow'.symm.trans hstored

end Statement

section Service

theorem service_leaf (hsource : item.sourceItem = none) :
    Service.createOrUpdateThirdPartyItem column s item =
      createOrUpdateThirdPartyItem column s item := by
  obtain ⟨id, sourceId, data, createdAt, updatedAt, userId, connection, sourceItem⟩ := item
  obtain rfl : sourceItem = none := hsource
  rfl

theorem service_cases {source : ThirdPartyItem} (hsource : item.sourceItem = some source)
    (h : Service.createOrUpdateThirdPartyItem column s item = .ok (s', status)) :
    ∃ between sourceStatus,
      Service.createOrUpdateThirdPartyItem column s source = .ok (between, sourceStatus) ∧
      createOrUpdateThirdPartyItem column between
        { item with sourceItem := some sourceStatus.value } = .ok (s', status) := by
  obtain ⟨id, sourceId, data, createdAt, updatedAt, userId, connection, sourceItem⟩ := item
  obtain rfl : sourceItem = some source := hsource
  rw [Service.createOrUpdateThirdPartyItem] at h
  split at h
  · cases h
  · next between sourceStatus hbetween => exact ⟨between, sourceStatus, hbetween, h⟩

theorem payloadKept_leaf (hsource : item.sourceItem = none) :
    PayloadKept column db item ↔ column.Keeps item.data ∨ ∃ row, storedItem db item = some row ∧
      row.data = item.data ∧ row.sourceItemId = none := by
  obtain ⟨id, sourceId, data, createdAt, updatedAt, userId, connection, sourceItem⟩ := item
  obtain rfl : sourceItem = none := hsource
  exact Iff.rfl

theorem payloadKept_nested {source : ThirdPartyItem} (hsource : item.sourceItem = some source) :
    PayloadKept column db item ↔ column.Keeps item.data ∨ ((∃ row, storedItem db item = some row ∧
      row.data = item.data ∧ ∃ stored, storedItem db source = some stored ∧
        stored.sourceItemId = none ∧ row.sourceItemId = some stored.id) ∧
      PayloadKept column db source) := by
  obtain ⟨id, sourceId, data, createdAt, updatedAt, userId, connection, sourceItem⟩ := item
  obtain rfl : sourceItem = some source := hsource
  exact Iff.rfl

theorem eq_iff_of_stored (hstored : storedItem db item = some row) :
    (joinItem db row).eq item = true ↔
      row.data = item.data ∧
        eqSourceItem (row.sourceItemId.bind db.flatItem) item.sourceItem = true := by
  have hidentity := (storedItem_eq_some.mp hstored).2
  simp only [ThirdPartyItemRow.identity, ThirdPartyItem.identity, ItemIdentity.mk.injEq]
    at hidentity
  obtain ⟨hsourceId, -, huser, hconnection⟩ := hidentity
  simp only [joinItem, ThirdPartyItemRow.intoThirdPartyItem, ThirdPartyItem.eq, Bool.and_eq_true,
    beq_iff_eq, hsourceId, huser, hconnection, true_and, and_true]

theorem eqSourceItem_none_iff (hrow : row ∈ db.thirdPartyItems.rows) :
    eqSourceItem (row.sourceItemId.bind db.flatItem) none = true ↔ row.sourceItemId = none := by
  rw [← sourceItem_eq_none hrow]
  constructor
  · exact eqSourceItem_none
  · intro hnone
    rw [hnone]
    rfl

/-- The equality finds the same source item only in the row of the value, with its payload. -/
theorem eqSourceItem_some_iff {other : ThirdPartyItemRow}
    (hrow : row ∈ db.thirdPartyItems.rows)
    (hcolumns : HoldsColumns row { value with data := row.data })
    (hidentity : row.identity = value.identity) :
    eqSourceItem (other.sourceItemId.bind db.flatItem) (some value) = true ↔
      other.sourceItemId = some value.id ∧ row.data = value.data ∧ value.sourceItem = none := by
  have hid : row.id = value.id := hcolumns.id
  constructor
  · intro heq
    obtain ⟨found, hfound, hsame⟩ := eqSourceItem_some heq
    obtain ⟨id, hother, hflat⟩ := Option.bind_eq_some_iff.mp hfound
    obtain ⟨foundRow, hmem, rfl, rfl⟩ := Table.find?_map_eq_some.mp hflat
    have hsameIdentity : foundRow.identity = value.identity := identity_eq hsame
    obtain rfl := eq_of_identity hmem hrow (hsameIdentity.trans hidentity.symm)
    refine ⟨hother.trans (congrArg some hid), ThirdPartyItem.data_eq hsame, ?_⟩
    have hnested := sourceItem_eq hsame
    cases hsource : value.sourceItem with
    | none => rfl
    | some nested =>
      rw [hsource] at hnested
      cases hnested
  · rintro ⟨hother, hdata, hsource⟩
    rw [hother, Option.bind_some, ← hid, flatItem_of_mem hrow, eqSourceItem]
    simp only [ThirdPartyItemRow.identity, ThirdPartyItem.identity, ItemIdentity.mk.injEq]
      at hidentity
    obtain ⟨hsourceId, -, huser, hconnection⟩ := hidentity
    simp only [ThirdPartyItemRow.intoThirdPartyItem, ThirdPartyItem.eq, Bool.and_eq_true,
      beq_iff_eq, hsourceId, huser, hconnection, hdata, hsource, true_and]
    rfl

theorem keepsData_leaf (hsource : item.sourceItem = none) :
    KeepsData column s item ↔ PayloadKept column s.db item := by
  rw [payloadKept_leaf hsource]
  refine or_congr_right (exists_congr fun row => and_congr_right fun hstored => ?_)
  rw [eq_iff_of_stored hstored, hsource, eqSourceItem_none_iff (storedItem_eq_some.mp hstored).1]

theorem keepsSource_leaf (hsource : item.sourceItem = none) :
    KeepsSource s item ↔ ReusesSource column s.db item := by
  unfold KeepsSource ReusesSource
  rw [hsource]
  cases hstored : storedItem s.db item with
  | none => exact iff_of_true rfl trivial
  | some row =>
    constructor
    · rintro (heq | ⟨hnone, -⟩)
      · have hsame := ((eq_iff_of_stored hstored).mp heq).2
        rw [hsource] at hsame
        exact (eqSourceItem_none_iff (storedItem_eq_some.mp hstored).1).mp hsame
      · exact hnone
    · intro hnone
      exact .inr ⟨hnone, fun hself => by rw [hnone] at hself; cases hself⟩

theorem Written.identity {written : List ItemIdentity} {kept : Prop}
    (h : Written s s' item value written kept) : value.identity = item.identity := by
  obtain ⟨row, hplaced, hcolumns, -⟩ := h.placed
  have hidentity := hplaced.identity
  simp only [ThirdPartyItemRow.identity, ThirdPartyItem.identity, ItemIdentity.mk.injEq]
    at hidentity ⊢
  obtain ⟨hsourceId, -, huser, hconnection⟩ := hidentity
  exact ⟨hcolumns.sourceId.symm.trans hsourceId, congrArg ThirdPartyItemData.kind h.data,
    hcolumns.userId.symm.trans huser, hcolumns.integrationConnectionId.symm.trans hconnection⟩

/-- The row of another item names the row of a saved item if and only if it named it before. -/
theorem sourceItemId_iff {written : List ItemIdentity} {between : Database}
    {source : ThirdPartyItem} {sourceRow : ThirdPartyItemRow}
    (h : Placed db between source sourceRow written) (hrow : row ∈ db.thirdPartyItems.rows) :
    row.sourceItemId = some sourceRow.id ↔
      ∃ stored, storedItem db source = some stored ∧ row.sourceItemId = some stored.id := by
  constructor
  · intro hid
    cases hstored : storedItem db source with
    | some stored => exact ⟨stored, rfl, hid.trans (congrArg some (h.id stored hstored))⟩
    | none =>
      have hknown := db.item_constraints.source row hrow sourceRow.id hid
      rw [h.fresh hstored] at hknown
      cases hknown
  · rintro ⟨stored, hstored, hid⟩
    exact hid.trans (congrArg some (h.id stored hstored).symm)

variable {between : ItemStore} {source sourceValue : ThirdPartyItem}

theorem keepsData_nested (hsource : item.sourceItem = some source)
    (hdistinct : item.identities.Nodup)
    (h : Written s between source sourceValue source.identities (PayloadKept column s.db source))
    (hreads : ∀ row, storedItem between.db item = some row → between.Reads row) :
    KeepsData column between { item with sourceItem := some sourceValue } ↔
      PayloadKept column s.db item := by
  rw [identities_of_source hsource] at hdistinct
  obtain ⟨sourceRow, hplaced, hcolumns, hkept⟩ := h.placed
  have hid : sourceRow.id = sourceValue.id := hcolumns.id
  have hstored : storedItem between.db item = storedItem s.db item :=
    hplaced.storedItem_eq (List.nodup_cons.mp hdistinct).1
  have heq {row : ThirdPartyItemRow} (hrow : storedItem between.db item = some row) :
      (joinItem between.db row).eq { item with sourceItem := some sourceValue } = true ↔
        row.data = item.data ∧ row.sourceItemId = some sourceValue.id ∧
          sourceRow.data = sourceValue.data ∧ sourceValue.sourceItem = none := by
    rw [eq_iff_of_stored (show storedItem between.db { item with sourceItem := _ } = _ from hrow),
      eqSourceItem_some_iff hplaced.mem hcolumns (hplaced.identity.trans h.identity.symm)]
  rw [payloadKept_nested hsource]
  refine or_congr_right ?_
  constructor
  · rintro ⟨row, hrow, hsame⟩
    obtain ⟨hdata, hnames, hsourceData, hnone⟩ := (heq hrow).mp hsame
    have hrow' : storedItem s.db item = some row := hstored.symm.trans hrow
    rw [← hid] at hnames
    obtain ⟨stored, hfound, hnames'⟩ :=
      (sourceItemId_iff hplaced (storedItem_eq_some.mp hrow').1).mp hnames
    refine ⟨⟨row, hrow', hdata, stored, hfound, ?_, hnames'⟩,
      hkept.mp ⟨hsourceData, (hreads row hrow).2 _ hnames⟩⟩
    by_contra hnamed
    refine absurd hnone (h.source.mpr ?_)
    unfold NamesSource
    rw [hfound]
    exact hnamed
  · rintro ⟨⟨row, hrow, hdata, stored, hfound, hnone, hnames⟩, hkeptSource⟩
    have hrow' : storedItem between.db item = some row := hstored.trans hrow
    have hnames' := (sourceItemId_iff hplaced (storedItem_eq_some.mp hrow).1).mpr
      ⟨stored, hfound, hnames⟩
    refine ⟨row, hrow', (heq hrow').mpr
      ⟨hdata, hnames'.trans (congrArg some hid), (hkept.mpr hkeptSource).1, ?_⟩⟩
    by_contra hnamed
    have hnamesSource := h.source.mp hnamed
    unfold NamesSource at hnamesSource
    rw [hfound] at hnamesSource
    exact hnamesSource hnone

theorem keepsSource_nested (hsource : item.sourceItem = some source)
    (hdistinct : item.identities.Nodup)
    (h : Written s between source sourceValue source.identities (PayloadKept column s.db source))
    (hfresh : storedItem between.db item = none →
      between.db.thirdPartyItems.find? item.id = none) :
    KeepsSource between { item with sourceItem := some sourceValue } ↔
      ReusesSource column s.db item := by
  rw [identities_of_source hsource] at hdistinct
  have hnotMem := (List.nodup_cons.mp hdistinct).1
  obtain ⟨sourceRow, hplaced, hcolumns, hkept⟩ := h.placed
  have hid : sourceRow.id = sourceValue.id := hcolumns.id
  have hstored : storedItem between.db item = storedItem s.db item := hplaced.storedItem_eq hnotMem
  unfold KeepsSource ReusesSource
  rw [show storedItem between.db { item with sourceItem := some sourceValue } =
    storedItem s.db item from hstored, hsource]
  cases hfound : storedItem s.db item with
  | some row =>
    have hrow' : storedItem between.db item = some row := hstored.trans hfound
    refine Iff.trans ?_ (sourceItemId_iff hplaced (storedItem_eq_some.mp hfound).1)
    rw [hid]
    constructor
    · rintro (heq | ⟨hnames, -⟩)
      · exact ((eqSourceItem_some_iff hplaced.mem hcolumns
          (hplaced.identity.trans h.identity.symm)).mp (sourceItem_eq heq)).1
      · exact hnames
    · intro hnames
      refine .inr ⟨hnames, fun hself => absurd ?_ hnotMem⟩
      have hids : sourceRow.id = row.id := hid.trans (Option.some.inj (hnames.symm.trans hself))
      obtain ⟨hrow, hrowIdentity⟩ := storedItem_eq_some.mp hrow'
      rw [← hrowIdentity, ← Table.eq_of_key hplaced.mem hrow hids, hplaced.identity]
      cases hnested : source.sourceItem with
      | none => rw [identities_leaf hnested]; exact List.mem_cons_self
      | some _ => rw [identities_of_source hnested]; exact List.mem_cons_self
  | none =>
    have hother : sourceValue.id ≠ item.id := by
      intro hids
      have hnone := hfresh (hstored.trans hfound)
      rw [← hids, ← hid, Table.find?_eq_some.mpr ⟨hplaced.mem, rfl⟩] at hnone
      cases hnone
    show storedSourceItem (if sourceValue.id = item.id then _ else _) = _ ↔ _
    rw [if_neg hother]
    refine (flatItem_iff hplaced.mem hcolumns).trans (and_congr ?_ hkept)
    exact (not_iff_comm.mp h.source).symm

/-- The upsert of the outer item, after that of the item it nests. -/
theorem Written.nest (hsource : item.sourceItem = some source) (hdistinct : item.identities.Nodup)
    {kept keptSource : Prop}
    (hbetween : Written s between source sourceValue source.identities keptSource)
    (h : Written between s' { item with sourceItem := some sourceValue } value [item.identity]
      kept) : Written s s' item value item.identities kept := by
  obtain ⟨sourceRow, hsourceRow, -⟩ := hbetween.placed
  obtain ⟨row, hrow, hcolumns, hkept⟩ := h.placed
  refine ⟨⟨row, hsourceRow.nest hsource hdistinct hrow, hcolumns, hkept⟩, h.data,
    h.source.trans ?_⟩
  rw [identities_of_source hsource] at hdistinct
  exact namesSource_between hsource (hsourceRow.storedItem_eq (List.nodup_cons.mp hdistinct).1)

theorem nodup_of_source (hsource : item.sourceItem = some source)
    (hdistinct : item.identities.Nodup) : source.identities.Nodup := by
  rw [identities_of_source hsource] at hdistinct
  exact (List.nodup_cons.mp hdistinct).2

theorem written_of_service (hdistinct : item.identities.Nodup)
    (h : Service.createOrUpdateThirdPartyItem column s item = .ok (s', status)) :
    Written s s' item status.value item.identities (PayloadKept column s.db item) := by
  induction item using nested_induction generalizing s' status with
  | leaf item hsource =>
    rw [service_leaf hsource] at h
    rw [identities_leaf hsource, ← propext (keepsData_leaf hsource)]
    exact written_of_upsert h
  | nested item source hsource ih =>
    obtain ⟨between, sourceStatus, hbetween, hlast⟩ := service_cases hsource h
    have hsaved := ih (nodup_of_source hsource hdistinct) hbetween
    have hkept := keepsData_nested hsource hdistinct hsaved fun _ hrow => reads_of_ok hlast hrow
    rw [← propext hkept]
    exact hsaved.nest hsource hdistinct (written_of_upsert hlast)

theorem readsBack_of_service (hdistinct : item.identities.Nodup)
    (h : Service.createOrUpdateThirdPartyItem column s item = .ok (s', status)) :
    ReadsBack s' status.value ↔ PayloadKept column s.db item ∧ ReusesSource column s.db item := by
  cases hsource : item.sourceItem with
  | none =>
    rw [service_leaf hsource] at h
    rw [readsBack_of_upsert h, keepsData_leaf hsource, keepsSource_leaf hsource]
  | some source =>
    obtain ⟨between, sourceStatus, hbetween, hlast⟩ := service_cases hsource h
    have hsaved := written_of_service (nodup_of_source hsource hdistinct) hbetween
    rw [readsBack_of_upsert hlast,
      keepsData_nested hsource hdistinct hsaved fun _ hrow => reads_of_ok hlast hrow,
      keepsSource_nested hsource hdistinct hsaved]
    intro hnone
    have hfresh := fresh_of_ok hlast hnone
    exact hfresh

end Service

/-- What an upsert returns is what its row holds, source item included, if and only if the payload
reads back from its JSON, or is not written, and the source item of the value it starts from is the
one it writes: for one statement, and for an item saved with the items it nests, whose identities all
differ (an event and the thread it came in). -/
theorem upserted_readsBack_iff (column : DataColumn) (s : ItemStore) (item : ThirdPartyItem) :
    (∀ s' status, createOrUpdateThirdPartyItem column s item = .ok (s', status) →
      (ReadsBack s' status.value ↔ KeepsData column s item ∧ KeepsSource s item)) ∧
    (item.identities.Nodup → ∀ s' status,
      Service.createOrUpdateThirdPartyItem column s item = .ok (s', status) →
        (ReadsBack s' status.value ↔
          PayloadKept column s.db item ∧ ReusesSource column s.db item)) :=
  ⟨fun _ _ h => readsBack_of_upsert h, fun hdistinct _ _ h => readsBack_of_service hdistinct h⟩

section Events

/-- The due date of a Todoist item is written without the fraction of its second. -/
def dueColumn : DataColumn where
  reread
    | .todoistItem item =>
      some (.todoistItem { item with due := item.due.map fun due =>
        { due with date := match due.date with
            | .date date => .date date
            | .dateTime datetime => .dateTime (datetime - datetime % 1000000000)
            | .dateTimeWithTz datetime => .dateTimeWithTz (datetime - datetime % 1000000000) } })
    | data => some data
  kind h := by
    split at h
    · cases h
      rfl
    · cases h
      rfl

def threadItem (id : Nat) (thread : String) : ThirdPartyItem :=
  { id := ⟨id⟩, sourceId := thread, data := .googleMailThread thread, createdAt := 0, updatedAt := 0,
    userId := ⟨0⟩, integrationConnectionId := ⟨0⟩, sourceItem := none }

/-- An event and the thread its invitation came in. -/
def eventItem (content : String) (thread : ThirdPartyItem) : ThirdPartyItem :=
  { id := ⟨9⟩, sourceId := "event", data := .googleCalendarEvent content, createdAt := 0,
    updatedAt := 0, userId := ⟨0⟩, integrationConnectionId := ⟨1⟩, sourceItem := some thread }

/-- The event is stored under the first of two threads. -/
def eventDatabase : Database where
  thirdPartyItems := ⟨[insertRow (threadItem 1 "invitation"), insertRow (threadItem 2 "reschedule"),
    insertRow (eventItem "10:00" (threadItem 1 "invitation"))], by decide⟩
  tasks := Table.empty
  notifications := Table.empty
  item_constraints := by decide
  task_source := fun _ h => (Table.not_mem_empty h).elim
  task_sink := fun _ h => (Table.not_mem_empty h).elim
  task_parent := Database.empty.task_parent
  task_source_unique := Database.empty.task_source_unique
  task_sink_unique := Database.empty.task_sink_unique
  notification_source := fun _ h => (Table.not_mem_empty h).elim
  notification_task := Database.empty.notification_task
  notification_updatedAt := Database.empty.notification_updatedAt

/-- The event moved, the thread did not. -/
theorem movedEvent_readsBack :
    (∃ s' status, createOrUpdateThirdPartyItem dueColumn ⟨eventDatabase, []⟩
      (eventItem "11:00" (threadItem 1 "invitation")) = .ok (s', status) ∧
        ReadsBack s' status.value) ∧
    ∃ s' status, Service.createOrUpdateThirdPartyItem dueColumn ⟨eventDatabase, []⟩
      (eventItem "11:00" (threadItem 1 "invitation")) = .ok (s', status) ∧
        ReadsBack s' status.value := by
  have hboth := upserted_readsBack_iff dueColumn ⟨eventDatabase, []⟩
    (eventItem "11:00" (threadItem 1 "invitation"))
  refine ⟨⟨_, _, rfl, (hboth.1 _ _ rfl).mpr ⟨.inl rfl, ?_⟩⟩,
    ⟨_, _, rfl, (hboth.2 (by decide) _ _ rfl).mpr ⟨.inl rfl, ?_⟩⟩⟩
  · exact .inr ⟨rfl, fun h => by cases h⟩
  · exact ⟨_, rfl, rfl⟩

/-- The event came in another thread: the row names it, the returned value still the first. -/
theorem rescheduledEvent_not_readsBack :
    (∃ s' status, createOrUpdateThirdPartyItem dueColumn ⟨eventDatabase, []⟩
      (eventItem "11:00" (threadItem 2 "reschedule")) = .ok (s', status) ∧
        ¬ ReadsBack s' status.value) ∧
    ∃ s' status, Service.createOrUpdateThirdPartyItem dueColumn ⟨eventDatabase, []⟩
      (eventItem "11:00" (threadItem 2 "reschedule")) = .ok (s', status) ∧
        ¬ ReadsBack s' status.value := by
  refine ⟨⟨_, _, rfl, fun h => ?_⟩, ⟨_, _, rfl, fun h => ?_⟩⟩
  · have hsource := congrArg (fun item => (item.bind (·.sourceItem)).map (·.id)) h
    cases hsource
  · have hsource := congrArg (fun item => (item.bind (·.sourceItem)).map (·.id)) h
    cases hsource

def dueItem (date : DueDate) : ThirdPartyItem :=
  { id := ⟨7⟩, sourceId := "todo", createdAt := 0, updatedAt := 0, userId := ⟨0⟩
    integrationConnectionId := ⟨0⟩, sourceItem := none
    data := .todoistItem
      { id := "todo", parentId := none, projectId := "inbox", syncId := none, sectionId := none
        content := "Call back", description := "", labels := [], childOrder := 0, dayOrder := none
        priority := .p1, checked := false, isDeleted := false, collapsed := false
        completedAt := none, addedAt := 0, userId := "me", addedByUid := none
        assignedByUid := none, responsibleUid := none
        due := some
          { string := "", date, isRecurring := false, timezone := none, lang := "en" } } }

/-- The row of a new item is due a quarter of a second before the returned value. -/
theorem fractionalDue_not_readsBack :
    ∃ s' status, createOrUpdateThirdPartyItem dueColumn ⟨Database.empty, []⟩
      (dueItem (.dateTimeWithTz 1704877200250000000)) = .ok (s', status) ∧
        ¬ ReadsBack s' status.value := by
  refine ⟨_, _, rfl, fun h => ?_⟩
  have hdata := congrArg (Option.map (·.data)) h
  exact absurd hdata (by decide)

end Events

end ThirdPartyItemReread

end UniversalInbox
