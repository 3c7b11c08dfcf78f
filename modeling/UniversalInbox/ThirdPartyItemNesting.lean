import UniversalInbox.ThirdPartyItemUpsert

/-! Upserting an item and the items it nests, from the innermost. -/
namespace UniversalInbox

open TaskUpsert (UpsertStatus)

/-- `ThirdPartyItemService::create_or_update_third_party_item`: the source items first, from the
innermost, each under the value its own upsert returned. -/
def ThirdPartyItemService.createOrUpdateThirdPartyItem (db : Database) :
    ThirdPartyItem → Except UniversalInboxError (Database × UpsertStatus ThirdPartyItem)
  | ⟨id, sourceId, data, createdAt, updatedAt, userId, integrationConnectionId, some source⟩ =>
    match createOrUpdateThirdPartyItem db source with
    | .error error => .error error
    | .ok (db', status) =>
      ThirdPartyItemUpsert.createOrUpdateThirdPartyItem db'
        { id, sourceId, data, createdAt, updatedAt, userId, integrationConnectionId,
          sourceItem := some status.value }
  | item => ThirdPartyItemUpsert.createOrUpdateThirdPartyItem db item

/-- What an item is known by. -/
structure ItemIdentity where
  sourceId : String
  kind : ThirdPartyItemKind
  userId : UserId
  integrationConnectionId : IntegrationConnectionId
deriving DecidableEq

def ThirdPartyItem.identity (item : ThirdPartyItem) : ItemIdentity :=
  { sourceId := item.sourceId
    kind := item.kind
    userId := item.userId
    integrationConnectionId := item.integrationConnectionId }

def ThirdPartyItemRow.identity (row : ThirdPartyItemRow) : ItemIdentity :=
  { sourceId := row.sourceId
    kind := row.data.kind
    userId := row.userId
    integrationConnectionId := row.integrationConnectionId }

/-- The identities of an item and of the items it nests. -/
def ThirdPartyItem.identities : ThirdPartyItem → List ItemIdentity
  | item@⟨_, _, _, _, _, _, _, some source⟩ => item.identity :: source.identities
  | item => [item.identity]

namespace ThirdPartyItemUpsert

variable {db db' : Database} {item value : ThirdPartyItem} {row : ThirdPartyItemRow}
  {status : UpsertStatus ThirdPartyItem}

/-- The row of an item, if it is stored. -/
def storedItem (db : Database) (item : ThirdPartyItem) : Option ThirdPartyItemRow :=
  db.thirdPartyItems.rows.find? (itemMatches item)

theorem itemMatches_iff_identity : itemMatches item row = true ↔ row.identity = item.identity := by
  rw [itemMatches_iff, ThirdPartyItemRow.identity, ThirdPartyItem.identity, ItemIdentity.mk.injEq]

theorem eq_of_identity {row' : ThirdPartyItemRow} (hrow : row ∈ db.thirdPartyItems.rows)
    (hrow' : row' ∈ db.thirdPartyItems.rows) (h : row.identity = row'.identity) : row = row' := by
  simp only [ThirdPartyItemRow.identity, ItemIdentity.mk.injEq] at h
  exact Table.eq_of_key hrow hrow'
    (db.item_constraints.unique row hrow row' hrow' h.1 h.2.1 h.2.2.2)

theorem storedItem_eq_some :
    storedItem db item = some row ↔
      row ∈ db.thirdPartyItems.rows ∧ row.identity = item.identity := by
  constructor
  · intro h
    exact ⟨List.mem_of_find?_eq_some h, itemMatches_iff_identity.mp (List.find?_some h)⟩
  · rintro ⟨hrow, hidentity⟩
    cases hfind : storedItem db item with
    | none =>
      exact absurd (itemMatches_iff_identity.mpr hidentity)
        (List.find?_eq_none.mp hfind row hrow)
    | some found =>
      have hfound := itemMatches_iff_identity.mp (List.find?_some hfind)
      rw [eq_of_identity (List.mem_of_find?_eq_some hfind) hrow (hfound.trans hidentity.symm)]

theorem flatItem_of_mem (hrow : row ∈ db.thirdPartyItems.rows) :
    db.flatItem row.id = some (row.intoThirdPartyItem none) := by
  unfold Database.flatItem
  rw [Table.find?_eq_some.mpr ⟨hrow, rfl⟩, Option.map_some]

theorem nestedItem_of_mem (hrow : row ∈ db.thirdPartyItems.rows) :
    db.nestedItem row.id = some (joinItem db row) := by
  unfold Database.nestedItem
  rw [Table.find?_eq_some.mpr ⟨hrow, rfl⟩, Option.map_some]
  rfl

/-- The foreign key makes the join keep a source item. -/
theorem sourceItem_eq_none (hrow : row ∈ db.thirdPartyItems.rows) :
    row.sourceItemId.bind db.flatItem = none ↔ row.sourceItemId = none := by
  cases hsource : row.sourceItemId with
  | none => exact iff_of_true rfl rfl
  | some id =>
    obtain ⟨source, hflat⟩ := Option.isSome_iff_exists.mp
      (Database.flatItem_isSome (db.item_constraints.source row hrow id hsource))
    rw [Option.bind_some, hflat]
    exact iff_of_false (Option.some_ne_none _) (Option.some_ne_none _)

/-- The columns of a row hold a value, its source item apart. -/
structure HoldsColumns (row : ThirdPartyItemRow) (value : ThirdPartyItem) : Prop where
  id : row.id = value.id
  sourceId : row.sourceId = value.sourceId
  data : row.data = value.data
  createdAt : pgTimestamp row.createdAt = pgTimestamp value.createdAt
  updatedAt : pgTimestamp row.updatedAt = pgTimestamp value.updatedAt
  userId : row.userId = value.userId
  integrationConnectionId : row.integrationConnectionId = value.integrationConnectionId

theorem HoldsColumns.identity (h : HoldsColumns row value) : row.identity = value.identity := by
  unfold ThirdPartyItemRow.identity ThirdPartyItem.identity ThirdPartyItem.kind
  rw [h.sourceId, h.data, h.userId, h.integrationConnectionId]

theorem holdsColumns_joinItem : HoldsColumns row (joinItem db row) :=
  ⟨rfl, rfl, rfl, rfl, rfl, rfl, rfl⟩

theorem holdsColumns_updateRow : HoldsColumns (updateRow item row)
    { joinItem db row with data := item.data, updatedAt := item.updatedAt } :=
  ⟨rfl, rfl, rfl, rfl, pgTimestamp_pgTimestamp _, rfl, rfl⟩

theorem holdsColumns_insertRow : HoldsColumns (insertRow item) item :=
  ⟨rfl, rfl, rfl, pgTimestamp_pgTimestamp _, pgTimestamp_pgTimestamp _, rfl, rfl⟩

theorem storedItem_eq_none_of_new (h : findExistingItem db item = none) :
    storedItem db item = none := Option.map_eq_none_iff.mp h

/-- The stored row of an item, or the item itself when it is not stored, names a source item. -/
def NamesSource (db : Database) (item : ThirdPartyItem) : Prop :=
  match storedItem db item with
  | some row => row.sourceItemId ≠ none
  | none => item.sourceItem ≠ none

/-- What an upsert of an item and of the items it nests leaves of the table: a row of its own, the
rows of other identities, and every identifier that was taken. -/
structure Placed (db db' : Database) (item : ThirdPartyItem) (row : ThirdPartyItemRow)
    (written : List ItemIdentity) : Prop where
  mem : row ∈ db'.thirdPartyItems.rows
  identity : row.identity = item.identity
  id : ∀ old, storedItem db item = some old → row.id = old.id
  fresh : storedItem db item = none → db.thirdPartyItems.find? row.id = none
  others : ∀ other : ThirdPartyItemRow, other.identity ∉ written →
    (other ∈ db'.thirdPartyItems.rows ↔ other ∈ db.thirdPartyItems.rows)
  keeps : ∀ id, (db.thirdPartyItems.find? id).isSome → (db'.thirdPartyItems.find? id).isSome

/-- With a row of its own that holds the value which is returned. -/
structure Saved (db db' : Database) (item value : ThirdPartyItem) (written : List ItemIdentity) :
    Prop where
  placed : ∃ row, Placed db db' item row written ∧ HoldsColumns row value
  source : value.sourceItem ≠ none ↔ NamesSource db item

namespace Saved
variable {written : List ItemIdentity}

theorem stored (h : Saved db db' item value written) :
    ∃ row ∈ db'.thirdPartyItems.rows, HoldsColumns row value := by
  obtain ⟨row, hplaced, hcolumns⟩ := h.placed
  exact ⟨row, hplaced.mem, hcolumns⟩

theorem identity (h : Saved db db' item value written) : value.identity = item.identity := by
  obtain ⟨row, hplaced, hcolumns⟩ := h.placed
  exact hcolumns.identity.symm.trans hplaced.identity

theorem id (h : Saved db db' item value written) (row : ThirdPartyItemRow)
    (hrow : storedItem db item = some row) : value.id = row.id := by
  obtain ⟨row', hplaced, hcolumns⟩ := h.placed
  exact hcolumns.id.symm.trans (hplaced.id row hrow)

theorem fresh (h : Saved db db' item value written) (hnone : storedItem db item = none) :
    db.thirdPartyItems.find? value.id = none := by
  obtain ⟨row, hplaced, hcolumns⟩ := h.placed
  rw [← hcolumns.id]
  exact hplaced.fresh hnone

theorem others (h : Saved db db' item value written) (row : ThirdPartyItemRow)
    (hrow : row.identity ∉ written) :
    row ∈ db'.thirdPartyItems.rows ↔ row ∈ db.thirdPartyItems.rows := by
  obtain ⟨row', hplaced, -⟩ := h.placed
  exact hplaced.others row hrow

theorem keeps (h : Saved db db' item value written) (id : ThirdPartyItemId)
    (hid : (db.thirdPartyItems.find? id).isSome) : (db'.thirdPartyItems.find? id).isSome := by
  obtain ⟨row, hplaced, -⟩ := h.placed
  exact hplaced.keeps id hid

end Saved

theorem namesSource_of_mem (hstored : storedItem db item = some row) :
    row.sourceItemId.bind db.flatItem ≠ none ↔ NamesSource db item := by
  unfold NamesSource
  rw [hstored]
  exact not_congr (sourceItem_eq_none (storedItem_eq_some.mp hstored).1)

theorem mem_applyUpdate_others {hconstraints : ThirdPartyItemConstraints (updateItems db row.id item)}
    (hrow : row ∈ db.thirdPartyItems.rows) (hmatch : itemMatches item row = true)
    {other : ThirdPartyItemRow} (hother : other.identity ≠ item.identity) :
    other ∈ (applyUpdate db row.id item hconstraints).thirdPartyItems.rows ↔
      other ∈ db.thirdPartyItems.rows := by
  rw [mem_applyUpdate]
  constructor
  · rintro ⟨old, hold, rfl⟩
    split at hother
    · next hid =>
      rw [Table.eq_of_key hold hrow (beq_iff_eq.mp hid)] at hother
      exact absurd (itemMatches_iff_identity.mp (itemMatches_updateRow hmatch)) hother
    · next hid => rwa [if_neg hid]
  · intro hold
    refine ⟨other, hold, if_neg fun hid => hother ?_⟩
    rw [Table.eq_of_key hold hrow (beq_iff_eq.mp hid)]
    exact itemMatches_iff_identity.mp hmatch

/-- Items of one identity have one row. -/
theorem storedItem_congr {other : ThirdPartyItem} (h : item.identity = other.identity) :
    storedItem db item = storedItem db other := by
  apply Option.ext
  intro row
  rw [storedItem_eq_some, storedItem_eq_some, h]

theorem placed_of_stored (h : storedItem db item = some row) :
    Placed db db item row [item.identity] where
  mem := (storedItem_eq_some.mp h).1
  identity := (storedItem_eq_some.mp h).2
  id := fun _ hold => congrArg (·.id) (Option.some.inj (h.symm.trans hold))
  fresh := fun hnone => absurd (h.symm.trans hnone) (Option.some_ne_none _)
  others := fun _ _ => Iff.rfl
  keeps := fun _ hid => hid

theorem placed_applyUpdate {hconstraints : ThirdPartyItemConstraints (updateItems db row.id item)}
    (h : storedItem db item = some row) :
    Placed db (applyUpdate db row.id item hconstraints) item (updateRow item row)
      [item.identity] := by
  obtain ⟨hrow, hidentity⟩ := storedItem_eq_some.mp h
  have hmatch : itemMatches item row = true := itemMatches_iff_identity.mpr hidentity
  exact {
    mem := mem_applyUpdate.mpr ⟨row, hrow, if_pos (beq_self_eq_true _)⟩
    identity := itemMatches_iff_identity.mp (itemMatches_updateRow hmatch)
    id := fun _ hold => congrArg (·.id) (Option.some.inj (h.symm.trans hold))
    fresh := fun hnone => absurd (h.symm.trans hnone) (Option.some_ne_none _)
    others := fun _ hother =>
      mem_applyUpdate_others hrow hmatch fun heq => hother (List.mem_singleton.mpr heq)
    keeps := fun _ hid => (Table.find?_isSome_update (e := updateRow_id item)).trans hid }

theorem placed_applyInsert {items : Table ThirdPartyItemRow.id}
    {hinsert : db.thirdPartyItems.insert? (insertRow item) = some items}
    {hconstraints : ThirdPartyItemConstraints items} (h : storedItem db item = none) :
    Placed db (applyInsert db item items hinsert hconstraints) item (insertRow item)
      [item.identity] := by
  refine {
    mem := mem_applyInsert.mpr (.inr rfl)
    identity := rfl
    id := fun old hold => absurd (h.symm.trans hold) (Option.some_ne_none _).symm
    fresh := fun _ => Table.find?_eq_none_of_insert hinsert
    others := fun other hother => ?_
    keeps := fun _ hid => Table.find?_isSome_insert hinsert hid }
  rw [mem_applyInsert, or_iff_left]
  rintro rfl
  exact hother (List.mem_singleton.mpr rfl)

theorem saved_of_upsert (h : createOrUpdateThirdPartyItem db item = .ok (db', status)) :
    Saved db db' item status.value [item.identity] := by
  rcases createOrUpdateThirdPartyItem_cases h with ⟨row, hrow, hmatch, heq, rfl, rfl⟩ |
    ⟨row, hrow, hmatch, heq, hconstraints, rfl, rfl⟩ |
    ⟨hnew, items, hinsert, hconstraints, rfl, rfl⟩
  · have hstored := storedItem_eq_some.mpr ⟨hrow, itemMatches_iff_identity.mp hmatch⟩
    exact ⟨⟨row, placed_of_stored hstored, holdsColumns_joinItem⟩, namesSource_of_mem hstored⟩
  · have hstored := storedItem_eq_some.mpr ⟨hrow, itemMatches_iff_identity.mp hmatch⟩
    exact ⟨⟨_, placed_applyUpdate hstored, holdsColumns_updateRow⟩, namesSource_of_mem hstored⟩
  · have hstored := storedItem_eq_none_of_new hnew
    refine ⟨⟨_, placed_applyInsert hstored, holdsColumns_insertRow⟩, ?_⟩
    unfold NamesSource
    rw [hstored]
    exact Iff.rfl

/-- Rows of other identities are found as before. -/
theorem Placed.storedItem_eq {other : ThirdPartyItem} {written : List ItemIdentity}
    (h : Placed db db' item row written) (hother : other.identity ∉ written) :
    storedItem db' other = storedItem db other := by
  apply Option.ext
  intro found
  rw [storedItem_eq_some, storedItem_eq_some]
  refine and_congr_left fun hidentity => h.others found ?_
  rwa [hidentity]

theorem Saved.storedItem_eq {other : ThirdPartyItem} {written : List ItemIdentity}
    (h : Saved db db' item value written) (hother : other.identity ∉ written) :
    storedItem db' other = storedItem db other := by
  obtain ⟨row, hplaced, -⟩ := h.placed
  exact hplaced.storedItem_eq hother

/-- An item that nests another is upserted under the value the other's upsert returned. -/
theorem service_cases {source : ThirdPartyItem} (hsource : item.sourceItem = some source)
    (h : ThirdPartyItemService.createOrUpdateThirdPartyItem db item = .ok (db', status)) :
    ∃ between sourceStatus,
      ThirdPartyItemService.createOrUpdateThirdPartyItem db source = .ok (between, sourceStatus) ∧
      createOrUpdateThirdPartyItem between { item with sourceItem := some sourceStatus.value } =
        .ok (db', status) := by
  obtain ⟨id, sourceId, data, createdAt, updatedAt, userId, connection, sourceItem⟩ := item
  obtain rfl : sourceItem = some source := hsource
  rw [ThirdPartyItemService.createOrUpdateThirdPartyItem] at h
  split at h
  · cases h
  · next between sourceStatus hbetween => exact ⟨between, sourceStatus, hbetween, h⟩

theorem service_leaf (hsource : item.sourceItem = none) :
    ThirdPartyItemService.createOrUpdateThirdPartyItem db item =
      createOrUpdateThirdPartyItem db item := by
  obtain ⟨id, sourceId, data, createdAt, updatedAt, userId, connection, sourceItem⟩ := item
  obtain rfl : sourceItem = none := hsource
  rfl

/-- Along the items that an item nests. -/
@[elab_as_elim]
theorem nested_induction {P : ThirdPartyItem → Prop}
    (leaf : ∀ item, item.sourceItem = none → P item)
    (nested : ∀ item source, item.sourceItem = some source → P source → P item)
    (item : ThirdPartyItem) : P item := by
  induction item using ThirdPartyItem.identities.induct with
  | case1 id sourceId data createdAt updatedAt userId connection source ih =>
    exact nested _ source rfl ih
  | case2 item hleaf =>
    apply leaf
    obtain ⟨id, sourceId, data, createdAt, updatedAt, userId, connection, sourceItem⟩ := item
    cases sourceItem with
    | none => rfl
    | some source => exact (hleaf _ _ _ _ _ _ _ source rfl).elim

theorem identities_of_source {source : ThirdPartyItem} (hsource : item.sourceItem = some source) :
    item.identities = item.identity :: source.identities := by
  obtain ⟨id, sourceId, data, createdAt, updatedAt, userId, connection, sourceItem⟩ := item
  obtain rfl : sourceItem = some source := hsource
  rfl

theorem identities_leaf (hsource : item.sourceItem = none) : item.identities = [item.identity] := by
  obtain ⟨id, sourceId, data, createdAt, updatedAt, userId, connection, sourceItem⟩ := item
  obtain rfl : sourceItem = none := hsource
  rfl

/-- The upsert of the outer item, after that of the item it nests. -/
theorem Placed.nest {between : Database} {source : ThirdPartyItem} {sourceRow : ThirdPartyItemRow}
    {nested : Option ThirdPartyItem} (hsource : item.sourceItem = some source)
    (hdistinct : item.identities.Nodup)
    (hbetween : Placed db between source sourceRow source.identities)
    (h : Placed between db' { item with sourceItem := nested } row [item.identity]) :
    Placed db db' item row item.identities := by
  rw [identities_of_source hsource] at hdistinct ⊢
  have hstored : storedItem between item = storedItem db item :=
    hbetween.storedItem_eq (List.nodup_cons.mp hdistinct).1
  refine {
    mem := h.mem
    identity := h.identity
    id := fun old hold => h.id old (hstored.trans hold)
    fresh := fun hnone => ?_
    others := fun other hother => ?_
    keeps := fun id hid => h.keeps id (hbetween.keeps id hid) }
  · have hfresh := h.fresh (hstored.trans hnone)
    exact Option.not_isSome_iff_eq_none.mp fun hsome =>
      Option.not_isSome_iff_eq_none.mpr hfresh (hbetween.keeps _ hsome)
  · obtain ⟨hne, hnested⟩ := not_or.mp fun hor => hother (List.mem_cons.mpr hor)
    exact (h.others other fun hmem => hne (List.mem_singleton.mp hmem)).trans
      (hbetween.others other hnested)

/-- An item names a source item before its own is saved where it does so after. -/
theorem namesSource_between {between : Database} {source sourceValue : ThirdPartyItem}
    (hsource : item.sourceItem = some source)
    (hstored : storedItem between item = storedItem db item) :
    NamesSource between { item with sourceItem := some sourceValue } ↔ NamesSource db item := by
  unfold NamesSource
  rw [show storedItem between { item with sourceItem := some sourceValue } = storedItem db item
    from hstored, hsource]
  cases storedItem db item with
  | some row => exact Iff.rfl
  | none => exact iff_of_true (Option.some_ne_none _) (Option.some_ne_none _)

theorem Saved.nest {between : Database} {source sourceValue : ThirdPartyItem}
    (hsource : item.sourceItem = some source) (hdistinct : item.identities.Nodup)
    (hbetween : Saved db between source sourceValue source.identities)
    (h : Saved between db' { item with sourceItem := some sourceValue } value [item.identity]) :
    Saved db db' item value item.identities := by
  obtain ⟨sourceRow, hsourceRow, -⟩ := hbetween.placed
  obtain ⟨row, hrow, hcolumns⟩ := h.placed
  refine ⟨⟨row, hsourceRow.nest hsource hdistinct hrow, hcolumns⟩, h.source.trans ?_⟩
  rw [identities_of_source hsource] at hdistinct
  exact namesSource_between hsource (hbetween.storedItem_eq (List.nodup_cons.mp hdistinct).1)

theorem saved_of_service (hdistinct : item.identities.Nodup)
    (h : ThirdPartyItemService.createOrUpdateThirdPartyItem db item = .ok (db', status)) :
    Saved db db' item status.value item.identities := by
  induction item using nested_induction generalizing db' status with
  | leaf item hsource =>
    rw [service_leaf hsource] at h
    rw [identities_leaf hsource]
    exact saved_of_upsert h
  | nested item source hsource ih =>
    obtain ⟨between, sourceStatus, hbetween, hlast⟩ := service_cases hsource h
    have hnested : source.identities.Nodup := by
      rw [identities_of_source hsource] at hdistinct
      exact (List.nodup_cons.mp hdistinct).2
    exact (ih hnested hbetween).nest hsource hdistinct (saved_of_upsert hlast)

theorem eqSourceItem_none {source : Option ThirdPartyItem} (h : eqSourceItem source none = true) :
    source = none := by
  cases source with
  | none => rfl
  | some _ => cases h

theorem eqSourceItem_some {source : Option ThirdPartyItem} {other : ThirdPartyItem}
    (h : eqSourceItem source (some other) = true) :
    ∃ item, source = some item ∧ item.eq other = true := by
  cases source with
  | none => cases h
  | some item => exact ⟨item, rfl, h⟩

theorem identity_eq {item other : ThirdPartyItem} (h : item.eq other = true) :
    item.identity = other.identity := by
  have hdata := ThirdPartyItem.data_eq h
  obtain ⟨id, sourceId, data, createdAt, updatedAt, userId, connection, sourceItem⟩ := item
  simp only [ThirdPartyItem.eq, Bool.and_eq_true, beq_iff_eq] at h
  obtain ⟨⟨⟨⟨hsourceId, -⟩, huser⟩, hconnection⟩, -⟩ := h
  simp only [ThirdPartyItem.identity, ThirdPartyItem.kind, ItemIdentity.mk.injEq]
  exact ⟨hsourceId, congrArg _ hdata, huser, hconnection⟩

theorem sourceItem_eq {item other : ThirdPartyItem} (h : item.eq other = true) :
    eqSourceItem item.sourceItem other.sourceItem = true := by
  obtain ⟨id, sourceId, data, createdAt, updatedAt, userId, connection, sourceItem⟩ := item
  simp only [ThirdPartyItem.eq, Bool.and_eq_true, beq_iff_eq] at h
  exact h.2

end ThirdPartyItemUpsert

end UniversalInbox
