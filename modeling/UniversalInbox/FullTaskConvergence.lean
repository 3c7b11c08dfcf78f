import UniversalInbox.NotificationPatching
import UniversalInbox.TaskSettling

/-! A sync of all the tasks of a source leaves the active ones of its kind to be those of the active
items that it fetched, and has nothing to do when it fetches the same items again. -/
namespace UniversalInbox.FullTaskSync
open TaskUpsert
open Propagation
open Results (bind_eq_ok)
open TodoistSync (exists_left_of_forall₂)
open ThirdPartyItemUpsert (storedItem storedItem_eq_some joinItem HoldsColumns eq_of_identity
  saved_of_service service_leaf identities_leaf createOrUpdateThirdPartyItem_cases
  itemMatches_iff_identity)

section Items
variable {db db' : Database} {item : ThirdPartyItem} {items : List ThirdPartyItem}
  {status : UpsertStatus ThirdPartyItem} {statuses : List (UpsertStatus ThirdPartyItem)}

/-- What the upsert of an item that nests no other leaves of it, and returns. -/
structure UpsertedAs (db db' : Database) (item : ThirdPartyItem)
    (status : UpsertStatus ThirdPartyItem) : Prop where
  stored : ∃ row ∈ db'.thirdPartyItems.rows, HoldsColumns row status.value ∧ row.sourceItemId = none
  identity : status.value.identity = item.identity
  data : status.value.data = item.data
  id : ∀ row ∈ db.thirdPartyItems.rows, row.identity = item.identity → status.value.id = row.id
  fresh : (∀ row ∈ db.thirdPartyItems.rows, row.identity ≠ item.identity) →
    db.thirdPartyItems.find? status.value.id = none
  modified : ∀ row ∈ db.thirdPartyItems.rows, row.identity = item.identity → row.data ≠ item.data →
    modifiedValue status = some status.value

theorem sourceItemId_of_eq {row : ThirdPartyItemRow} (hrow : row ∈ db.thirdPartyItems.rows)
    (hleaf : item.sourceItem = none) (heq : (joinItem db row).eq item = true) :
    row.sourceItemId = none := by
  have hsource := ThirdPartyItemUpsert.sourceItem_eq heq
  rw [hleaf] at hsource
  exact (ThirdPartyItemUpsert.sourceItem_eq_none hrow).mp
    (ThirdPartyItemUpsert.eqSourceItem_none hsource)

theorem upsertedAs_of_upsert (hleaf : item.sourceItem = none)
    (h : ThirdPartyItemService.createOrUpdateThirdPartyItem db item = .ok (db', status)) :
    UpsertedAs db db' item status ∧ db'.tasks = db.tasks ∧ ∀ row : ThirdPartyItemRow,
      row.identity ≠ item.identity →
        (row ∈ db'.thirdPartyItems.rows ↔ row ∈ db.thirdPartyItems.rows) := by
  have hsaved := saved_of_service (by rw [identities_leaf hleaf]; exact List.nodup_singleton _) h
  rw [identities_leaf hleaf] at hsaved
  rw [service_leaf hleaf] at h
  have hup := ThirdPartyItemUpsert.createOrUpdateThirdPartyItem_upserted h
  refine ⟨⟨?_, hsaved.identity, hup.data,
    fun row hrow hsame => hsaved.id row (storedItem_eq_some.mpr ⟨hrow, hsame⟩), fun hnone => ?_, ?_⟩,
    hup.tasks, fun row hother => hsaved.others row fun hmem => hother (List.mem_singleton.mp hmem)⟩
  · obtain ⟨row, hrow, hcolumns⟩ := hsaved.stored
    refine ⟨row, hrow, hcolumns, ?_⟩
    rcases createOrUpdateThirdPartyItem_cases h with ⟨found, hfound, -, heq, rfl, rfl⟩ |
      ⟨found, hfound, -, -, hconstraints, rfl, rfl⟩ | ⟨-, items, hinsert, hconstraints, rfl, rfl⟩
    · rw [Table.eq_of_key hrow hfound hcolumns.id]
      exact sourceItemId_of_eq hfound hleaf heq
    · have hwritten : ThirdPartyItemUpsert.updateRow item found ∈
          (ThirdPartyItemUpsert.applyUpdate db found.id item hconstraints).thirdPartyItems.rows :=
        ThirdPartyItemUpsert.mem_applyUpdate.mpr ⟨found, hfound, if_pos (beq_self_eq_true _)⟩
      rw [Table.eq_of_key hrow hwritten hcolumns.id]
      show item.sourceItem.map _ = none
      rw [hleaf, Option.map_none]
    · have hwritten : ThirdPartyItemUpsert.insertRow item ∈
          (ThirdPartyItemUpsert.applyInsert db item items hinsert hconstraints).thirdPartyItems.rows :=
        ThirdPartyItemUpsert.mem_applyInsert.mpr (.inr rfl)
      rw [Table.eq_of_key hrow hwritten hcolumns.id]
      show item.sourceItem.map _ = none
      rw [hleaf, Option.map_none]
  · refine hsaved.fresh ?_
    cases hstored : storedItem db item with
    | none => rfl
    | some row =>
      obtain ⟨hrow, hsame⟩ := storedItem_eq_some.mp hstored
      exact absurd hsame (hnone row hrow)
  · intro row hrow hsame hdata
    rcases createOrUpdateThirdPartyItem_cases h with ⟨found, hfound, hmatch, heq, rfl, rfl⟩ |
      ⟨found, hfound, -, -, hconstraints, rfl, rfl⟩ | ⟨-, items, hinsert, hconstraints, rfl, rfl⟩
    · have hfoundRow := eq_of_identity hrow hfound
        (hsame.trans (itemMatches_iff_identity.mp hmatch).symm)
      rw [hfoundRow] at hdata
      exact absurd (ThirdPartyItem.data_eq heq) hdata
    · rfl
    · rfl

/-- The upserts of items of different identities. -/
theorem upsertItems_spec (hleaf : ∀ item ∈ items, item.sourceItem = none)
    (hdistinct : (items.map (·.identity)).Nodup)
    (h : upsertItems db items = .ok (db', statuses)) :
    db'.tasks = db.tasks ∧ List.Forall₂ (UpsertedAs db db') items statuses ∧
      (∀ row : ThirdPartyItemRow, row.identity ∉ items.map (·.identity) →
        (row ∈ db'.thirdPartyItems.rows ↔ row ∈ db.thirdPartyItems.rows)) ∧
      ∀ id, (db.thirdPartyItems.find? id).isSome → (db'.thirdPartyItems.find? id).isSome := by
  induction items generalizing db statuses with
  | nil =>
    cases h
    exact ⟨rfl, .nil, fun _ _ => Iff.rfl, fun _ h => h⟩
  | cons item rest ih =>
    obtain ⟨⟨between, upserted⟩, hupsert, hrest⟩ := bind_eq_ok.mp h
    obtain ⟨⟨last, restStatuses⟩, hstatuses, hreturn⟩ := bind_eq_ok.mp hrest
    cases hreturn
    obtain ⟨hnotMem, hrestDistinct⟩ := List.nodup_cons.mp hdistinct
    have hitem := hleaf item List.mem_cons_self
    obtain ⟨hfirst, htasks, hothers⟩ := upsertedAs_of_upsert hitem hupsert
    have hkeeps := (saved_of_service
      (by rw [identities_leaf hitem]; exact List.nodup_singleton _) hupsert).keeps
    obtain ⟨hlastTasks, hall, hlastOthers, hlastKeeps⟩ :=
      ih (fun y hy => hleaf y (List.mem_cons_of_mem _ hy)) hrestDistinct hstatuses
    have hne : ∀ y ∈ rest, y.identity ≠ item.identity := fun y hy hsame =>
      hnotMem (List.mem_map.mpr ⟨y, hy, hsame⟩)
    refine ⟨hlastTasks.trans htasks, .cons ?_ ?_, fun row hrow => ?_,
      fun id hid => hlastKeeps id (hkeeps id hid)⟩
    · obtain ⟨row, hrow, hcolumns, hsource⟩ := hfirst.stored
      have hidentity : row.identity = item.identity := hcolumns.identity.trans hfirst.identity
      exact { hfirst with
        stored := ⟨row, (hlastOthers row (hidentity ▸ hnotMem)).mpr hrow, hcolumns, hsource⟩ }
    · refine List.Forall₂.imp ?_ ((List.forall₂_and_left _ _).mpr ⟨hne, hall⟩)
      rintro y status ⟨hother, hy⟩
      have hmem : ∀ row : ThirdPartyItemRow, row.identity = y.identity →
          (row ∈ between.thirdPartyItems.rows ↔ row ∈ db.thirdPartyItems.rows) :=
        fun row hsame => hothers row (hsame ▸ hother)
      refine ⟨hy.stored, hy.identity, hy.data,
        fun row hrow hsame => hy.id row ((hmem row hsame).mpr hrow) hsame, fun hnone => ?_,
        fun row hrow hsame => hy.modified row ((hmem row hsame).mpr hrow) hsame⟩
      have hfresh := hy.fresh fun row hrow hsame => hnone row ((hmem row hsame).mp hrow) hsame
      cases hfind : db.thirdPartyItems.find? status.value.id with
      | none => rfl
      | some row =>
        have hknown := hkeeps status.value.id (by rw [hfind]; rfl)
        rw [hfresh] at hknown
        cases hknown
    · rw [List.map_cons, List.mem_cons, not_or] at hrow
      exact (hlastOthers row hrow.2).trans (hothers row hrow.1)

/-- What storing items leaves of them: every row under its identifier, the rows of the others, and
the identifiers of the new ones. -/
structure ItemsUpserted (db db' : Database) : Prop where
  tasks : db'.tasks = db.tasks
  known : ∀ row ∈ db.thirdPartyItems.rows, ∃ row' ∈ db'.thirdPartyItems.rows, row'.id = row.id ∧
    row'.identity = row.identity
  origin : ∀ row' ∈ db'.thirdPartyItems.rows,
    ((∃ row ∈ db.thirdPartyItems.rows, row.id = row'.id ∧ row.identity = row'.identity ∧
      (row'.sourceItemId = none ∨ row' = row)) ∨
      (db.thirdPartyItems.find? row'.id = none ∧ row'.sourceItemId = none))

theorem itemsUpserted (hleaf : ∀ item ∈ items, item.sourceItem = none)
    (hdistinct : (items.map (·.identity)).Nodup)
    (h : upsertItems db items = .ok (db', statuses)) : ItemsUpserted db db' := by
  obtain ⟨htasks, hall, hothers, -⟩ := upsertItems_spec hleaf hdistinct h
  refine ⟨htasks, fun row hrow => ?_, fun row' hrow' => ?_⟩
  · by_cases hmem : row.identity ∈ items.map (·.identity)
    · obtain ⟨item, hitem, hsame⟩ := List.mem_map.mp hmem
      obtain ⟨status, -, hstatus⟩ := exists_left_of_forall₂ hall.flip item hitem
      obtain ⟨row', hrow', hcolumns, -⟩ := hstatus.stored
      exact ⟨row', hrow', hcolumns.id.trans (hstatus.id row hrow hsame.symm),
        hcolumns.identity.trans (hstatus.identity.trans hsame)⟩
    · exact ⟨row, (hothers row hmem).mpr hrow, rfl, rfl⟩
  · by_cases hmem : row'.identity ∈ items.map (·.identity)
    · obtain ⟨item, hitem, hsame⟩ := List.mem_map.mp hmem
      obtain ⟨status, -, hstatus⟩ := exists_left_of_forall₂ hall.flip item hitem
      obtain ⟨found, hfound, hcolumns, hsource⟩ := hstatus.stored
      have hrowFound : row' = found := eq_of_identity hrow' hfound
        (hsame.symm.trans (hcolumns.identity.trans hstatus.identity).symm)
      rw [← hrowFound] at hsource hcolumns
      by_cases hold : ∃ row ∈ db.thirdPartyItems.rows, row.identity = item.identity
      · obtain ⟨row, hrow, hidentity⟩ := hold
        exact .inl ⟨row, hrow, (hcolumns.id.trans (hstatus.id row hrow hidentity)).symm,
          hidentity.trans hsame, .inl hsource⟩
      · refine .inr ⟨?_, hsource⟩
        rw [hcolumns.id]
        exact hstatus.fresh fun row hrow hidentity => hold ⟨row, hrow, hidentity⟩
    · exact .inl ⟨row', (hothers row' hmem).mp hrow', rfl, rfl, .inr rfl⟩

end Items

section Links
variable {source : FullTaskSource} {userId : UserId} {db db' : Database} {row : ThirdPartyItemRow}

theorem mem_ownItems_identity : row ∈ ownItems source userId db ↔ row ∈ db.thirdPartyItems.rows ∧
    row.identity.kind = source.itemKind ∧ row.identity.userId = userId := mem_ownItems

/-- An item of the source had its identifier, or no task is of it. -/
theorem ItemsUpserted.own (h : ItemsUpserted db db') (hrow : row ∈ ownItems source userId db') :
    (∃ old ∈ ownItems source userId db, old.id = row.id) ∨
      ∀ task ∈ db.tasks.rows, ¬ Linked row.id task := by
  obtain ⟨hmem, hkind, huser⟩ := mem_ownItems_identity.mp hrow
  rcases h.origin row hmem with ⟨old, hold, hid, hidentity, -⟩ | ⟨hfresh, -⟩
  · exact .inl ⟨old, mem_ownItems_identity.mpr ⟨hold, by rw [hidentity]; exact hkind,
      by rw [hidentity]; exact huser⟩, hid⟩
  · refine .inr fun task htask hlinked => ?_
    have hknown := linked_known htask hlinked
    rw [hfresh] at hknown
    cases hknown

/-- Storing items leaves the links as they should be. -/
theorem ItemsUpserted.wellLinked (h : ItemsUpserted db db') (hlinked : WellLinked source userId db) :
    WellLinked source userId db' where
  leaf row hrow := by
    obtain ⟨hmem, hkind, huser⟩ := mem_ownItems_identity.mp hrow
    rcases h.origin row hmem with ⟨old, hold, -, hidentity, hsource | rfl⟩ | ⟨-, hsource⟩
    · exact hsource
    · exact hlinked.leaf row (mem_ownItems_identity.mpr ⟨hold, hkind, huser⟩)
    · exact hsource
  oneTask row hrow task htask task' htask' hl hl' := by
    rw [h.tasks] at htask htask'
    rcases h.own hrow with ⟨old, hold, hid⟩ | hnone
    · exact hlinked.oneTask old hold task htask task' htask' (hid ▸ hl) (hid ▸ hl')
    · exact absurd hl (hnone task htask)
  oneItem row hrow row' hrow' task htask hl hl' := by
    rw [h.tasks] at htask
    rcases h.own hrow with ⟨old, hold, hid⟩ | hnone
    · rcases h.own hrow' with ⟨old', hold', hid'⟩ | hnone'
      · rw [← hid, ← hid']
        exact hlinked.oneItem old hold old' hold' task htask (hid ▸ hl) (hid' ▸ hl')
      · exact absurd hl' (hnone' task htask)
    · exact absurd hl (hnone task htask)
  owner row hrow task htask hl := by
    rw [h.tasks] at htask
    rcases h.own hrow with ⟨old, hold, hid⟩ | hnone
    · exact hlinked.owner old hold task htask (hid ▸ hl)
    · exact absurd hl (hnone task htask)
  source task htask := by
    rw [h.tasks] at htask
    obtain ⟨item, hitem, hid, huser, hkind⟩ := hlinked.source task htask
    obtain ⟨item', hitem', hid', hidentity⟩ := h.known item hitem
    refine ⟨item', hitem', hid'.trans hid, ?_, ?_⟩
    · exact (congrArg ItemIdentity.userId hidentity).trans huser
    · rw [show item'.data.kind = item.data.kind from congrArg ItemIdentity.kind hidentity]
      exact hkind

end Links

section Tasks
variable {setting : Setting} {fetch : Fetch} {s t : State} {values : List ThirdPartyItem}

/-- The request that an item of the source is converted to. -/
theorem requestOf_convert {item : ThirdPartyItem} {answers : Answers}
    {request : CreateOrUpdateTaskRequest}
    (h : thirdPartyItemIntoTask setting fetch item answers = .ok request) :
    RequestOf fetch.source fetch.userId item request ∧
      taskStatus setting.codec item.data = some request.status := by
  unfold thirdPartyItemIntoTask at h
  split at h
  · next content hsource hdata =>
    dsimp only at h
    split at h
    · cases h
    · cases h
      rw [hdata, hsource]
      exact ⟨⟨rfl, fun sink hsink => (Option.some.inj hsink).symm, rfl, rfl, rfl⟩, rfl⟩
  · next content hsource hdata =>
    split at h
    · cases h
    · cases h
      rw [hdata, hsource]
      exact ⟨⟨rfl, fun sink hsink => (by cases hsink), rfl, rfl, rfl⟩, rfl⟩
  · cases h

/-- A value of the sync is an item of the source under the identifier of its row. -/
def OfOwnItem (fetch : Fetch) (db : Database) (value : ThirdPartyItem) : Prop :=
  value.kind = fetch.source.itemKind ∧
    ∃ stored ∈ ownItems fetch.source fetch.userId db, stored.id = value.id

/-- What the conversion of the values leaves: a settled row for each, and the other tasks. -/
structure TasksCreated (setting : Setting) (fetch : Fetch) (db db' : Database)
    (values : List ThirdPartyItem) : Prop where
  linked : WellLinked fetch.source fetch.userId db'
  own : ∀ item, item ∈ ownItems fetch.source fetch.userId db' ↔
    item ∈ ownItems fetch.source fetch.userId db
  kept : ∀ item ∈ db.thirdPartyItems.rows, item ∈ db'.thirdPartyItems.rows
  settled : ∀ value ∈ values, ∃ request,
    thirdPartyItemIntoTask setting fetch value (setting.answers value.id) = .ok request ∧
      ∃ row ∈ db'.tasks.rows, Linked value.id row ∧ SettledBy request row
  others : ∀ row, (∀ value ∈ values, ¬ Linked value.id row) →
    (row ∈ db'.tasks.rows ↔ row ∈ db.tasks.rows)
  keeps : ∀ value ∈ values, ∀ row ∈ db.tasks.rows, Linked value.id row →
    ∃ row' ∈ db'.tasks.rows, Linked value.id row' ∧ row'.id = row.id

theorem createTasks_created (hlinked : WellLinked fetch.source fetch.userId s.db)
    (hown : ∀ value ∈ values, OfOwnItem fetch s.db value) (hdistinct : (values.map (·.id)).Nodup)
    (h : createTasks setting fetch s values = some (t, .ok ())) :
    TasksCreated setting fetch s.db t.db values := by
  induction values generalizing s with
  | nil =>
    cases h
    exact ⟨hlinked, fun _ => Iff.rfl, fun _ h => h, nofun, fun _ _ => Iff.rfl, nofun⟩
  | cons value rest ih =>
    obtain ⟨hnotMem, hrestDistinct⟩ := List.nodup_cons.mp hdistinct
    obtain ⟨hkind, stored, hstored, hid⟩ := hown value List.mem_cons_self
    rw [createTasks] at h
    split at h
    · next s' hfirst =>
      obtain ⟨request, hconvert, written, hwritten, hsettled⟩ :=
        createTaskFromThirdPartyItem_settled (setting.answers value.id) rfl hlinked hstored hid hkind
          (fun _ hconvert => (requestOf_convert hconvert).1) hfirst
      have hrest := ih (hwritten.wellLinked hlinked) (fun other hother => by
        obtain ⟨hotherKind, found, hfound, hfoundId⟩ := hown other (List.mem_cons_of_mem _ hother)
        exact ⟨hotherKind, found, hwritten.ownItems_iff.mpr hfound, hfoundId⟩) hrestDistinct h
      -- a task of this item is of no later one
      have hapart : ∀ other ∈ rest, ∀ row, Linked other.id row →
          row = written ∨ (row ∈ s.db.tasks.rows ∧ Linked value.id row) → False := by
        intro other hother row hl hcase
        obtain ⟨-, found, hfound, hfoundId⟩ := hown other (List.mem_cons_of_mem _ hother)
        refine hnotMem (List.mem_map.mpr ⟨other, hother, ?_⟩)
        rcases hcase with rfl | ⟨hrow, hl'⟩
        · exact hfoundId.symm.trans (hwritten.other found hfound (hfoundId ▸ hl))
        · have hsame := hlinked.oneItem found hfound stored hstored row hrow (hfoundId ▸ hl)
            (hid ▸ hl')
          exact hfoundId.symm.trans (hsame.trans hid)
      have hstays : written ∈ t.db.tasks.rows :=
        (hrest.others written fun other hother hl => hapart other hother written hl (.inl rfl)).mpr
          hwritten.mem
      refine ⟨hrest.linked, fun item => (hrest.own item).trans hwritten.ownItems_iff,
        fun item hitem => hrest.kept item (hwritten.kept item hitem), ?_, fun row hrow => ?_, ?_⟩
      · rintro other (_ | ⟨_, hother⟩)
        · exact ⟨request, hconvert, written, hstays, hwritten.linked, hsettled⟩
        · exact hrest.settled other hother
      · have hne := hrow value List.mem_cons_self
        refine (hrest.others row fun other hother => hrow other (List.mem_cons_of_mem _ hother)).trans
          ((hwritten.tasks row).trans ?_)
        constructor
        · rintro (rfl | ⟨hold, -⟩)
          · exact absurd hwritten.linked hne
          · exact hold
        · exact fun hold => .inr ⟨hold, hne⟩
      · rintro other (_ | ⟨_, hother⟩) row hrow hl
        · exact ⟨written, hstays, hwritten.linked, hwritten.keeps row hrow hl⟩
        · refine hrest.keeps other hother row ((hwritten.tasks row).mpr (.inr ⟨hrow, fun hl' => ?_⟩)) hl
          exact hapart other hother row hl (.inr ⟨hrow, hl'⟩)
    · next hother => exact absurd h (hother t)

end Tasks

section Items
variable {setting : Setting} {fetch : Fetch} {db db' : Database} {values : List ThirdPartyItem}

/-- Marking an item of the source keeps what it is known by, and completes its payload. -/
theorem markedAsDone_spec {source : FullTaskSource} {codec : Codec} {times : MarkTimes}
    {item : ThirdPartyItem} (hkind : item.kind = source.itemKind) :
    (markedAsDone codec times item).identity = item.identity ∧
      (markedAsDone codec times item).sourceItem = item.sourceItem ∧
      taskStatus codec (markedAsDone codec times item).data = some .done ∧
      completedAt codec (markedAsDone codec times item).data = some times.completedAt := by
  obtain ⟨id, sourceId, data, createdAt, updatedAt, userId, connection, sourceItem⟩ := item
  cases source with
  | tickTick =>
    cases data <;> cases hkind
    next content =>
      refine ⟨rfl, rfl, ?_, ?_⟩
      · show some (tickTickStatus (codec.tickTick (codec.completeTickTick _ _))) = _
        rw [codec.tickTick_complete]
        rfl
      · show (codec.tickTick (codec.completeTickTick _ _)).completedTime = _
        rw [codec.tickTick_complete]
        rfl
  | linear =>
    cases data <;> cases hkind
    next content =>
      refine ⟨rfl, rfl, ?_, ?_⟩
      · show some (codec.linear (codec.completeLinear _ _)).stateType.taskStatus = _
        rw [codec.linear_complete]
        rfl
      · show (codec.linear (codec.completeLinear _ _)).completedAt = _
        rw [codec.linear_complete]
        rfl

theorem nodup_identities (fetch : Fetch) : (fetch.items.map (·.identity)).Nodup := by
  have hsources : ((fetch.items.map (·.identity)).map (·.sourceId)).Nodup := by
    rw [List.map_map]
    exact fetch.distinct
  exact hsources.of_map

/-- An item of the source that the sync did not fetch, and that has an active task. -/
def IsStale (fetch : Fetch) (db : Database) (row : ThirdPartyItemRow) : Prop :=
  row ∈ ownItems fetch.source fetch.userId db ∧
    (∀ item ∈ fetch.items, row.identity ≠ item.identity) ∧
    ∃ task ∈ db.tasks.rows, task.sourceItemId = row.id ∧ task.status = .active

/-- The payload of a row once its item is marked as done. -/
def markedRow (setting : Setting) (row : ThirdPartyItemRow) : ThirdPartyItem :=
  markedAsDone setting.codec (setting.marks row.id) (row.intoThirdPartyItem none)

/-- What storing the fetched items and marking the stale ones leaves: a value for each of them, and
for no other, under the identifier of its row. -/
structure Synced (setting : Setting) (fetch : Fetch) (db db' : Database)
    (values : List ThirdPartyItem) : Prop where
  tasks : db'.tasks = db.tasks
  linked : WellLinked fetch.source fetch.userId db'
  known : ∀ row ∈ db.thirdPartyItems.rows, ∃ row' ∈ db'.thirdPartyItems.rows, row'.id = row.id ∧
    row'.identity = row.identity
  distinct : (values.map (·.id)).Nodup
  fetched : ∀ item ∈ fetch.items, ∃ value ∈ values,
    value.identity = item.identity ∧ value.data = item.data
  marked : ∀ row, IsStale fetch db row → ∃ value ∈ values, value.id = row.id ∧
    value.data = (markedRow setting row).data
  origin : ∀ value ∈ values,
    (∃ row ∈ db'.thirdPartyItems.rows, HoldsColumns row value ∧ row.sourceItemId = none) ∧
      ((∃ item ∈ fetch.items, value.identity = item.identity ∧ value.data = item.data) ∨
        ∃ row, IsStale fetch db row ∧ value.id = row.id ∧ value.identity = row.identity ∧
          value.data = (markedRow setting row).data)

/-- The items that the query finds stale, once the fetched ones are stored. -/
theorem mem_stale {stored : Database} {scan : ThirdPartyItemScan stored}
    {statuses : List (UpsertStatus ThirdPartyItem)}
    (hlinked : WellLinked fetch.source fetch.userId db)
    (htasks : stored.tasks = db.tasks)
    (hall : List.Forall₂ (UpsertedAs db stored) fetch.items statuses)
    (hothers : ∀ row : ThirdPartyItemRow, row.identity ∉ fetch.items.map (·.identity) →
      (row ∈ stored.thirdPartyItems.rows ↔ row ∈ db.thirdPartyItems.rows))
    {row : ThirdPartyItemRow} :
    row ∈ (scan.rows.filter fun item =>
      !((statuses.map (·.value)).map (·.id)).contains item.id &&
        (stored.tasks.rows.any fun task => task.sourceItemId == item.id &&
          task.kind == fetch.source.getTaskSourceKind && task.status == .active) &&
        item.userId == fetch.userId) ↔ IsStale fetch db row := by
  have hmap : ∀ {row : ThirdPartyItemRow}, (∀ item ∈ fetch.items, row.identity ≠ item.identity) ↔
      row.identity ∉ fetch.items.map (·.identity) := by
    intro row
    simp only [List.mem_map, not_exists, not_and]
    exact forall₂_congr fun item _ => ⟨fun h h' => h h'.symm, fun h h' => h h'.symm⟩
  have hfetched : row ∈ stored.thirdPartyItems.rows →
      (row.id ∈ (statuses.map (·.value)).map (·.id) ↔ ∃ item ∈ fetch.items,
        row.identity = item.identity) := by
    intro hrow
    rw [List.map_map, List.mem_map]
    constructor
    · rintro ⟨status, hstatus, hid⟩
      obtain ⟨item, hitem, hvalue⟩ := exists_left_of_forall₂ hall status hstatus
      obtain ⟨found, hfound, hcolumns, -⟩ := hvalue.stored
      refine ⟨item, hitem, ?_⟩
      rw [Table.eq_of_key hrow hfound (hid.symm.trans hcolumns.id.symm)]
      exact hcolumns.identity.trans hvalue.identity
    · rintro ⟨item, hitem, hidentity⟩
      obtain ⟨status, hstatus, hvalue⟩ := exists_left_of_forall₂ hall.flip item hitem
      obtain ⟨found, hfound, hcolumns, -⟩ := hvalue.stored
      refine ⟨status, hstatus, ?_⟩
      rw [eq_of_identity hrow hfound (hidentity.trans
        (hcolumns.identity.trans hvalue.identity).symm)]
      exact hcolumns.id.symm
  rw [List.mem_filter, scan.perm.mem_iff, Bool.and_eq_true, Bool.and_eq_true, Bool.not_eq_true',
    beq_iff_eq, htasks]
  simp only [List.any_eq_true, Bool.and_eq_true, beq_iff_eq, and_assoc]
  constructor
  · rintro ⟨hrow, hnot, ⟨task, htask, hsource, hkind, hactive⟩, huser⟩
    have hnotFetched : ∀ item ∈ fetch.items, row.identity ≠ item.identity := by
      intro item hitem hidentity
      rw [List.contains_iff_mem.mpr ((hfetched hrow).mpr ⟨item, hitem, hidentity⟩)] at hnot
      cases hnot
    have hold := (hothers row (hmap.mp hnotFetched)).mp hrow
    obtain ⟨item, hitem, hid, -, hitemKind⟩ := hlinked.source task htask
    rw [Table.eq_of_key hitem hold (hid.trans hsource), hkind] at hitemKind
    exact ⟨mem_ownItems.mpr ⟨hold, kind_eq_iff.mp hitemKind, huser⟩, hnotFetched, task, htask,
      hsource, hactive⟩
  · rintro ⟨hown, hnotFetched, task, htask, hsource, hactive⟩
    obtain ⟨hold, -, huser⟩ := mem_ownItems.mp hown
    have hrow := (hothers row (hmap.mp hnotFetched)).mpr hold
    refine ⟨hrow, ?_, ⟨task, htask, hsource, hlinked.kind_of_source hown htask hsource, hactive⟩,
      huser⟩
    refine Bool.eq_false_iff.mpr fun hcontains => ?_
    obtain ⟨item, hitem, hidentity⟩ := (hfetched hrow).mp (List.contains_iff_mem.mp hcontains)
    exact hnotFetched item hitem hidentity

theorem joinItem_leaf {row : ThirdPartyItemRow} (h : row.sourceItemId = none) :
    joinItem db row = row.intoThirdPartyItem none := by
  unfold joinItem
  rw [h, Option.bind_none]

/-- What the upserts of some items return, the identities and the payloads of these. -/
theorem values_of_upserts {items : List ThirdPartyItem}
    {statuses : List (UpsertStatus ThirdPartyItem)}
    (hall : List.Forall₂ (UpsertedAs db db') items statuses) :
    (statuses.map (·.value)).map (·.identity) = items.map (·.identity) := by
  rw [List.map_map, ← List.forall₂_eq_eq_eq, List.forall₂_map_left_iff, List.forall₂_map_right_iff]
  exact hall.flip.imp fun status item h => h.identity

theorem filterMap_modifiedValue {statuses : List (UpsertStatus ThirdPartyItem)}
    (h : ∀ status ∈ statuses, modifiedValue status = some status.value) :
    statuses.filterMap modifiedValue = statuses.map (·.value) := by
  rw [← List.filterMap_eq_map]
  exact List.filterMap_congr h

/-- What the two loops over the items do: the fetched items are stored, and then the stale rows are
marked. -/
structure Loops (setting : Setting) (fetch : Fetch) (db stored db' : Database)
    (rows : List ThirdPartyItemRow) (statuses marks : List (UpsertStatus ThirdPartyItem)) :
    Prop where
  upserted : ItemsUpserted db stored
  fetched : List.Forall₂ (UpsertedAs db stored) fetch.items statuses
  stale : ∀ row, row ∈ rows ↔ IsStale fetch db row
  distinct : rows.Nodup
  stays : ∀ row ∈ rows, row ∈ stored.thirdPartyItems.rows
  leaf : ∀ row ∈ rows, row.sourceItemId = none
  marking : upsertItems stored (rows.map (markedRow setting)) = .ok (db', marks)

theorem loops_of_syncItems (htesting : setting.isTesting = false)
    (hlinked : WellLinked fetch.source fetch.userId db)
    (h : syncItems setting fetch db = .ok (db', values)) :
    ∃ stored rows statuses marks, Loops setting fetch db stored db' rows statuses marks ∧
      values = statuses.map (·.value) ++ marks.filterMap modifiedValue := by
  unfold syncItems at h
  rw [if_neg (by rw [htesting]; exact Bool.false_ne_true)] at h
  obtain ⟨⟨stored, statuses⟩, hfetch, h⟩ := bind_eq_ok.mp h
  obtain ⟨⟨marked, marks⟩, hmark, h⟩ := bind_eq_ok.mp h
  cases h
  have hdistinct := nodup_identities fetch
  obtain ⟨htasks, hall, hothers, -⟩ := upsertItems_spec fetch.leaf hdistinct hfetch
  have hupserted := itemsUpserted fetch.leaf hdistinct hfetch
  have hlinkedStored := hupserted.wellLinked hlinked
  have hmem : ∀ row, _ ↔ IsStale fetch db row := fun row =>
    @mem_stale fetch db stored (setting.itemScan stored) statuses hlinked htasks hall hothers row
  unfold getStaleTaskSourceThirdPartyItems at hmark
  rw [List.map_map] at hmark
  generalize hrows : (setting.itemScan stored).rows.filter _ = rows at hmark
  rw [hrows] at hmem
  have hstays : ∀ row ∈ rows, row ∈ stored.thirdPartyItems.rows := by
    intro row hrow
    rw [← hrows] at hrow
    exact (setting.itemScan stored).perm.mem_iff.mp (List.mem_filter.mp hrow).1
  have hleaf : ∀ row ∈ rows, row.sourceItemId = none := by
    intro row hrow
    obtain ⟨-, hkind, huser⟩ := mem_ownItems.mp ((hmem row).mp hrow).1
    exact hlinkedStored.leaf row (mem_ownItems.mpr ⟨hstays row hrow, hkind, huser⟩)
  have hmarked : rows.map ((fun item => markedAsDone setting.codec (setting.marks item.id) item) ∘
      joinItem stored) = rows.map (markedRow setting) := by
    refine List.map_congr_left fun row hrow => ?_
    rw [Function.comp_apply, joinItem_leaf (hleaf row hrow)]
    rfl
  rw [hmarked] at hmark
  have hnodup : rows.Nodup := by
    rw [← hrows]
    exact ((setting.itemScan stored).perm.nodup_iff.mpr
      (stored.thirdPartyItems.nodup.of_map _)).filter _
  exact ⟨stored, rows, statuses, marks, ⟨hupserted, hall, hmem, hnodup, hstays, hleaf, hmark⟩, rfl⟩

section Loops
variable {stored : Database} {rows : List ThirdPartyItemRow}
  {statuses marks : List (UpsertStatus ThirdPartyItem)}
  (hloops : Loops setting fetch db stored db' rows statuses marks)
include hloops

theorem Loops.markedRow_spec {row : ThirdPartyItemRow} (hrow : row ∈ rows) :
    (markedRow setting row).identity = row.identity ∧
      completedAt setting.codec (markedRow setting row).data =
        some (setting.marks row.id).completedAt := by
  have hown := ((hloops.stale row).mp hrow).1
  obtain ⟨hidentity, -, -, hcompleted⟩ := @markedAsDone_spec fetch.source setting.codec
    (setting.marks row.id) (row.intoThirdPartyItem none) (mem_ownItems.mp hown).2.1
  exact ⟨hidentity, hcompleted⟩

theorem Loops.markedRow_leaf : ∀ item ∈ rows.map (markedRow setting), item.sourceItem = none := by
  intro item hitem
  obtain ⟨row, hrow, rfl⟩ := List.mem_map.mp hitem
  have hown := ((hloops.stale row).mp hrow).1
  exact (@markedAsDone_spec fetch.source setting.codec (setting.marks row.id)
    (row.intoThirdPartyItem none) (mem_ownItems.mp hown).2.1).2.1

theorem Loops.markedRow_identities :
    (rows.map (markedRow setting)).map (·.identity) = rows.map (·.identity) := by
  rw [List.map_map]
  exact List.map_congr_left fun row hrow => (hloops.markedRow_spec hrow).1

theorem Loops.markedRow_distinct : ((rows.map (markedRow setting)).map (·.identity)).Nodup := by
  rw [hloops.markedRow_identities]
  exact hloops.distinct.map_on fun row hrow row' hrow' =>
    eq_of_identity (hloops.stays row hrow) (hloops.stays row' hrow')

theorem Loops.marked : List.Forall₂ (UpsertedAs stored db') (rows.map (markedRow setting)) marks :=
  (upsertItems_spec hloops.markedRow_leaf hloops.markedRow_distinct hloops.marking).2.1

theorem Loops.markedUpserted : ItemsUpserted stored db' :=
  itemsUpserted hloops.markedRow_leaf hloops.markedRow_distinct hloops.marking

/-- A stale row was not fetched. -/
theorem Loops.not_fetched {row : ThirdPartyItemRow} (hrow : row ∈ rows) {item : ThirdPartyItem}
    (hitem : item ∈ fetch.items) : row.identity ≠ item.identity :=
  ((hloops.stale row).mp hrow).2.1 item hitem

/-- A mark changes the payload as long as the clock does. -/
theorem Loops.modified
    (hclock : ∀ row, IsStale fetch db row →
      completedAt setting.codec row.data ≠ some (setting.marks row.id).completedAt) :
    ∀ status ∈ marks, modifiedValue status = some status.value := by
  intro status hstatus
  obtain ⟨item, hitem, hvalue⟩ := exists_left_of_forall₂ hloops.marked status hstatus
  obtain ⟨row, hrow, rfl⟩ := List.mem_map.mp hitem
  obtain ⟨hidentity, hcompleted⟩ := hloops.markedRow_spec hrow
  refine hvalue.modified row (hloops.stays row hrow) hidentity.symm fun hdata => ?_
  refine hclock row ((hloops.stale row).mp hrow) ?_
  rw [hdata]
  exact hcompleted

theorem Loops.origin_fetched : ∀ status ∈ statuses,
    (∃ row ∈ db'.thirdPartyItems.rows, HoldsColumns row status.value ∧ row.sourceItemId = none) ∧
      ∃ item ∈ fetch.items, status.value.identity = item.identity ∧
        status.value.data = item.data := by
  intro status hstatus
  obtain ⟨item, hitem, hvalue⟩ := exists_left_of_forall₂ hloops.fetched status hstatus
  obtain ⟨row, hrow, hcolumns, hsource⟩ := hvalue.stored
  obtain ⟨-, -, hothers, -⟩ :=
    upsertItems_spec hloops.markedRow_leaf hloops.markedRow_distinct hloops.marking
  have hunmarked : row.identity ∉ (rows.map (markedRow setting)).map (·.identity) := by
    rw [hloops.markedRow_identities, List.mem_map]
    rintro ⟨row', hrow', hidentity⟩
    exact hloops.not_fetched hrow' hitem
      (hidentity.trans (hcolumns.identity.trans hvalue.identity))
  exact ⟨⟨row, (hothers row hunmarked).mpr hrow, hcolumns, hsource⟩, item, hitem, hvalue.identity,
    hvalue.data⟩

theorem Loops.origin_marked : ∀ status ∈ marks,
    (∃ row ∈ db'.thirdPartyItems.rows, HoldsColumns row status.value ∧ row.sourceItemId = none) ∧
      ∃ row, IsStale fetch db row ∧ status.value.id = row.id ∧
        status.value.identity = row.identity ∧ status.value.data = (markedRow setting row).data := by
  intro status hstatus
  obtain ⟨item, hitem, hvalue⟩ := exists_left_of_forall₂ hloops.marked status hstatus
  obtain ⟨row, hrow, rfl⟩ := List.mem_map.mp hitem
  have hidentity := (hloops.markedRow_spec hrow).1
  exact ⟨hvalue.stored, row, (hloops.stale row).mp hrow,
    hvalue.id row (hloops.stays row hrow) hidentity.symm, hvalue.identity.trans hidentity,
    hvalue.data⟩

theorem Loops.origin : ∀ value ∈ statuses.map (·.value) ++ marks.map (·.value),
    (∃ row ∈ db'.thirdPartyItems.rows, HoldsColumns row value ∧ row.sourceItemId = none) ∧
      ((∃ item ∈ fetch.items, value.identity = item.identity ∧ value.data = item.data) ∨
        ∃ row, IsStale fetch db row ∧ value.id = row.id ∧ value.identity = row.identity ∧
          value.data = (markedRow setting row).data) := by
  intro value hvalue
  rcases List.mem_append.mp hvalue with hfetched | hmarked
  · obtain ⟨status, hstatus, rfl⟩ := List.mem_map.mp hfetched
    obtain ⟨hstored, hitem⟩ := hloops.origin_fetched status hstatus
    exact ⟨hstored, .inl hitem⟩
  · obtain ⟨status, hstatus, rfl⟩ := List.mem_map.mp hmarked
    obtain ⟨hstored, hrow⟩ := hloops.origin_marked status hstatus
    exact ⟨hstored, .inr hrow⟩

/-- An identifier is that of one row, which has one identity. -/
theorem Loops.nodup_ids : ((statuses.map (·.value) ++ marks.map (·.value)).map (·.id)).Nodup := by
  have hidentities : ((statuses.map (·.value) ++ marks.map (·.value)).map (·.identity)).Nodup := by
    rw [List.map_append, values_of_upserts hloops.fetched, values_of_upserts hloops.marked]
    refine List.nodup_append.mpr ⟨nodup_identities fetch, hloops.markedRow_distinct, ?_⟩
    rintro identity hfetched identity' hmarked rfl
    rw [hloops.markedRow_identities] at hmarked
    obtain ⟨item, hitem, rfl⟩ := List.mem_map.mp hfetched
    obtain ⟨row, hrow, hsame⟩ := List.mem_map.mp hmarked
    exact hloops.not_fetched hrow hitem hsame
  refine hidentities.of_map.map_on fun value hvalue value' hvalue' hid => ?_
  obtain ⟨row, hrow, hcolumns, -⟩ := (hloops.origin value hvalue).1
  obtain ⟨row', hrow', hcolumns', -⟩ := (hloops.origin value' hvalue').1
  have hrowEq : row = row' := Table.eq_of_key hrow hrow'
    (hcolumns.id.trans (hid.trans hcolumns'.id.symm))
  rw [← hrowEq] at hcolumns'
  exact List.inj_on_of_nodup_map hidentities hvalue hvalue'
    (hcolumns.identity.symm.trans hcolumns'.identity)

end Loops

/-- The two loops over the items. -/
theorem synced_of_syncItems (htesting : setting.isTesting = false)
    (hlinked : WellLinked fetch.source fetch.userId db)
    (hclock : ∀ row, IsStale fetch db row →
      completedAt setting.codec row.data ≠ some (setting.marks row.id).completedAt)
    (h : syncItems setting fetch db = .ok (db', values)) :
    Synced setting fetch db db' values := by
  obtain ⟨stored, rows, statuses, marks, hloops, rfl⟩ := loops_of_syncItems htesting hlinked h
  rw [filterMap_modifiedValue (hloops.modified hclock)]
  have hmarkUpserted := hloops.markedUpserted
  refine ⟨hmarkUpserted.tasks.trans hloops.upserted.tasks,
    hmarkUpserted.wellLinked (hloops.upserted.wellLinked hlinked), fun row hrow => ?_,
    hloops.nodup_ids, fun item hitem => ?_, fun row hstale => ?_, hloops.origin⟩
  · obtain ⟨row', hrow', hid, hidentity⟩ := hloops.upserted.known row hrow
    obtain ⟨row'', hrow'', hid', hidentity'⟩ := hmarkUpserted.known row' hrow'
    exact ⟨row'', hrow'', hid'.trans hid, hidentity'.trans hidentity⟩
  · obtain ⟨status, hstatus, hup⟩ := exists_left_of_forall₂ hloops.fetched.flip item hitem
    exact ⟨status.value, List.mem_append_left _ (List.mem_map_of_mem hstatus), hup.identity, hup.data⟩
  · have hrow := (hloops.stale row).mpr hstale
    obtain ⟨status, hstatus, hup⟩ := exists_left_of_forall₂ hloops.marked.flip (markedRow setting row)
      (List.mem_map_of_mem hrow)
    exact ⟨status.value, List.mem_append_right _ (List.mem_map_of_mem hstatus),
      hup.id row (hloops.stays row hrow) (hloops.markedRow_spec hrow).1.symm, hup.data⟩

end Items

/-- The sync fetched the item that is stored under an identifier. -/
def Returned (db : Database) (fetch : Fetch) (id : ThirdPartyItemId) : Prop :=
  ∃ item ∈ fetch.items, ∃ row, storedItem db item = some row ∧ row.id = id

/-- And that item is converted to an active task. -/
def ReturnedActive (codec : Codec) (db : Database) (fetch : Fetch) (id : ThirdPartyItemId) : Prop :=
  ∃ item ∈ fetch.items, (∃ row, storedItem db item = some row ∧ row.id = id) ∧
    taskStatus codec item.data = some .active

/-- What a sync of all the tasks of a source leaves of those of its kind: the active ones are of the
active items that it fetched, those that were active and whose item it did not fetch are done and
their items are marked, and the others whose item it did not fetch are as they were. -/
structure Converged (setting : Setting) (fetch : Fetch) (db db' : Database) : Prop where
  active : ∀ row ∈ db'.tasks.rows, row.kind = fetch.source.getTaskSourceKind →
    row.userId = fetch.userId →
      (row.status = .active ↔ ReturnedActive setting.codec db' fetch row.sourceItemId)
  retired : ∀ row ∈ db.tasks.rows, row.kind = fetch.source.getTaskSourceKind →
    row.userId = fetch.userId → ¬ Returned db' fetch row.sourceItemId → row.status = .active →
      (∃ row' ∈ db'.tasks.rows, row'.id = row.id ∧ row'.status = .done) ∧
      ∃ item ∈ db.thirdPartyItems.rows, item.id = row.sourceItemId ∧
        ∃ item' ∈ db'.thirdPartyItems.rows, item'.id = item.id ∧
          item'.data = (markedRow setting item).data
  left : ∀ row ∈ db.tasks.rows, row.kind = fetch.source.getTaskSourceKind →
    row.userId = fetch.userId → ¬ Returned db' fetch row.sourceItemId → row.status ≠ .active →
      row ∈ db'.tasks.rows

section Converged
variable {setting : Setting} {fetch : Fetch} {db stored db' : Database} {values : List ThirdPartyItem}
  {value : ThirdPartyItem} {row : TaskRow}

/-- The source item of a task of the source. -/
theorem WellLinked.source_own (h : WellLinked fetch.source fetch.userId db)
    (hrow : row ∈ db.tasks.rows) (hkind : row.kind = fetch.source.getTaskSourceKind)
    (huser : row.userId = fetch.userId) :
    ∃ item ∈ ownItems fetch.source fetch.userId db, item.id = row.sourceItemId := by
  obtain ⟨item, hitem, hid, hitemUser, hitemKind⟩ := h.source row hrow
  rw [hkind] at hitemKind
  exact ⟨item, mem_ownItems.mpr ⟨hitem, kind_eq_iff.mp hitemKind, hitemUser.trans huser⟩, hid⟩

theorem Synced.ofOwn (h : Synced setting fetch db stored values) (hvalue : value ∈ values) :
    ∃ item ∈ ownItems fetch.source fetch.userId stored, HoldsColumns item value ∧
      item.sourceItemId = none := by
  obtain ⟨⟨item, hitem, hcolumns, hsource⟩, horigin⟩ := h.origin value hvalue
  have hown : value.identity.kind = fetch.source.itemKind ∧ value.identity.userId = fetch.userId := by
    rcases horigin with ⟨fetched, hfetched, hidentity, -⟩ | ⟨old, hold, -, hidentity, -⟩
    · rw [hidentity]
      exact ⟨fetch.kind fetched hfetched, fetch.user fetched hfetched⟩
    · rw [hidentity]
      exact (mem_ownItems.mp hold.1).2
  rw [← hcolumns.identity] at hown
  exact ⟨item, mem_ownItems.mpr ⟨hitem, hown⟩, hcolumns, hsource⟩

/-- The value of a row that was known has its identifier. -/
theorem Synced.value_id (h : Synced setting fetch db stored values) (hvalue : value ∈ values)
    {item : ThirdPartyItemRow} (hitem : item ∈ db.thirdPartyItems.rows)
    (hidentity : value.identity = item.identity) : value.id = item.id := by
  obtain ⟨found, hfound, hcolumns, -⟩ := (h.origin value hvalue).1
  obtain ⟨known, hknown, hid, hsame⟩ := h.known item hitem
  rw [← hid, ← eq_of_identity hfound hknown (hcolumns.identity.trans (hidentity.trans hsame.symm))]
  exact hcolumns.id.symm

/-- The status of the task of a marked item. -/
theorem taskStatus_marked {item : ThirdPartyItemRow} (hstale : IsStale fetch db item) :
    taskStatus setting.codec (markedRow setting item).data = some .done :=
  (@markedAsDone_spec fetch.source setting.codec (setting.marks item.id) (item.intoThirdPartyItem none)
    (mem_ownItems.mp hstale.1).2.1).2.2.1

section Created
variable (hs : Synced setting fetch db stored values)
  (ht : TasksCreated setting fetch stored db' values)
include hs ht

theorem returned_iff {id : ThirdPartyItemId} {item : ThirdPartyItem} (hitem : item ∈ fetch.items) :
    (∃ row, storedItem db' item = some row ∧ row.id = id) ↔
      ∃ value ∈ values, value.identity = item.identity ∧ value.data = item.data ∧ value.id = id := by
  obtain ⟨value, hvalue, hidentity, hdata⟩ := hs.fetched item hitem
  obtain ⟨found, hfound, hcolumns, -⟩ := (hs.origin value hvalue).1
  have hrow : storedItem db' item = some found :=
    storedItem_eq_some.mpr ⟨ht.kept found hfound, hcolumns.identity.trans hidentity⟩
  constructor
  · rintro ⟨row, hstored, rfl⟩
    rw [hrow] at hstored
    cases hstored
    exact ⟨value, hvalue, hidentity, hdata, hcolumns.id.symm⟩
  · rintro ⟨other, hother, hsame, -, rfl⟩
    obtain ⟨otherRow, hotherRow, hotherColumns, -⟩ := (hs.origin other hother).1
    refine ⟨found, hrow, ?_⟩
    rw [eq_of_identity hfound hotherRow (hcolumns.identity.trans (hidentity.trans
      (hsame.symm.trans hotherColumns.identity.symm)))]
    exact hotherColumns.id

/-- The task of a value has the status that it is converted to. -/
theorem status_of_value (hvalue : value ∈ values) (hrow : row ∈ db'.tasks.rows)
    (hlinked : Linked value.id row) : taskStatus setting.codec value.data = some row.status := by
  obtain ⟨request, hconvert, written, hwritten, hwrittenLinked, hsettled⟩ := ht.settled value hvalue
  obtain ⟨item, hitem, hcolumns, -⟩ := hs.ofOwn hvalue
  have hsame : row = written := ht.linked.oneTask item ((ht.own item).mpr hitem) row hrow written
    hwritten (hcolumns.id ▸ hlinked) (hcolumns.id ▸ hwrittenLinked)
  rw [hsame, hsettled.holds.status]
  exact (requestOf_convert hconvert).2

/-- A task of the source is of a value if and only if its source item is. -/
theorem linked_value_iff (hvalue : value ∈ values) {item : ThirdPartyItemRow}
    (hitem : item ∈ ownItems fetch.source fetch.userId db') (hrow : row ∈ db'.tasks.rows)
    (hid : item.id = row.sourceItemId) : Linked value.id row ↔ value.id = item.id := by
  obtain ⟨found, hfound, hcolumns, -⟩ := hs.ofOwn hvalue
  constructor
  · intro hlinked
    rw [← hcolumns.id]
    exact ht.linked.oneItem found ((ht.own found).mpr hfound) item hitem row hrow
      (hcolumns.id ▸ hlinked) (.inl hid.symm)
  · intro hsame
    exact .inl (hid.symm.trans hsame.symm)

/-- Before the sync, an active task whose source item has no value is stale, and then it has one. -/
theorem value_of_active (hlinked : WellLinked fetch.source fetch.userId db)
    (hrow : row ∈ db.tasks.rows) (hkind : row.kind = fetch.source.getTaskSourceKind)
    (huser : row.userId = fetch.userId) (hactive : row.status = .active) :
    ∃ value ∈ values, value.id = row.sourceItemId ∧
      (Returned db' fetch row.sourceItemId ∨ ∃ item, IsStale fetch db item ∧
        item.id = row.sourceItemId ∧ value.data = (markedRow setting item).data) := by
  obtain ⟨item, hitem, hid⟩ := hlinked.source_own hrow hkind huser
  by_cases hfetched : ∃ fetched ∈ fetch.items, item.identity = fetched.identity
  · obtain ⟨fetched, hmem, hidentity⟩ := hfetched
    obtain ⟨value, hvalue, hsame, hdata⟩ := hs.fetched fetched hmem
    have hvalueId : value.id = row.sourceItemId :=
      (hs.value_id hvalue (mem_ownItems.mp hitem).1 (hsame.trans hidentity.symm)).trans hid
    exact ⟨value, hvalue, hvalueId, .inl ⟨fetched, hmem,
      (returned_iff hs ht hmem).mpr ⟨value, hvalue, hsame, hdata, hvalueId⟩⟩⟩
  · have hstale : IsStale fetch db item :=
      ⟨hitem, fun fetched hmem hidentity => hfetched ⟨fetched, hmem, hidentity⟩, row, hrow, hid.symm,
        hactive⟩
    obtain ⟨value, hvalue, hvalueId, hdata⟩ := hs.marked item hstale
    exact ⟨value, hvalue, hvalueId.trans hid, .inr ⟨item, hstale, hid, hdata⟩⟩

/-- An item that was not fetched and has a value is stale. -/
theorem stale_of_value (hvalue : value ∈ values) (hnot : ¬ Returned db' fetch value.id) :
    ∃ item, IsStale fetch db item ∧ value.id = item.id ∧
      value.data = (markedRow setting item).data := by
  rcases (hs.origin value hvalue).2 with ⟨item, hitem, hidentity, hdata⟩ | ⟨item, hstale, hid, -, hdata⟩
  · exact absurd ⟨item, hitem, (returned_iff hs ht hitem).mpr ⟨value, hvalue, hidentity, hdata, rfl⟩⟩
      hnot
  · exact ⟨item, hstale, hid, hdata⟩

/-- The active tasks of the source. -/
theorem active_iff (hlinked : WellLinked fetch.source fetch.userId db) (hrow : row ∈ db'.tasks.rows)
    (hkind : row.kind = fetch.source.getTaskSourceKind) (huser : row.userId = fetch.userId) :
    row.status = .active ↔ ReturnedActive setting.codec db' fetch row.sourceItemId := by
  obtain ⟨item, hitem, hid⟩ := ht.linked.source_own hrow hkind huser
  have hvalueOf : ReturnedActive setting.codec db' fetch row.sourceItemId ↔
      ∃ value ∈ values, value.id = item.id ∧
        (∃ fetched ∈ fetch.items, value.identity = fetched.identity ∧ value.data = fetched.data) ∧
          taskStatus setting.codec value.data = some .active := by
    constructor
    · rintro ⟨fetched, hfetched, hstored, hstatus⟩
      obtain ⟨value, hvalue, hidentity, hdata, hvalueId⟩ := (returned_iff hs ht hfetched).mp hstored
      exact ⟨value, hvalue, hvalueId.trans hid.symm, ⟨fetched, hfetched, hidentity, hdata⟩,
        hdata ▸ hstatus⟩
    · rintro ⟨value, hvalue, hvalueId, ⟨fetched, hfetched, hidentity, hdata⟩, hstatus⟩
      exact ⟨fetched, hfetched, (returned_iff hs ht hfetched).mpr
        ⟨value, hvalue, hidentity, hdata, hvalueId.trans hid⟩, hdata ▸ hstatus⟩
  rw [hvalueOf]
  constructor
  · intro hactive
    by_cases hvalue : ∃ value ∈ values, value.id = item.id
    · obtain ⟨value, hvalue, hvalueId⟩ := hvalue
      have hstatus := status_of_value hs ht hvalue hrow
        ((linked_value_iff hs ht hvalue hitem hrow hid).mpr hvalueId)
      rw [hactive] at hstatus
      refine ⟨value, hvalue, hvalueId, ?_, hstatus⟩
      rcases (hs.origin value hvalue).2 with hfetched | ⟨old, hstale, -, -, hdata⟩
      · exact hfetched
      · rw [hdata, taskStatus_marked hstale] at hstatus
        cases hstatus
    · -- a task that no value is of is as it was, and not active
      have hold : row ∈ db.tasks.rows := by
        rw [← hs.tasks]
        refine (ht.others row fun value hmem hlinked => hvalue ⟨value, hmem, ?_⟩).mp hrow
        exact (linked_value_iff hs ht hmem hitem hrow hid).mp hlinked
      obtain ⟨value, hmem, hvalueId, -⟩ := value_of_active hs ht hlinked hold hkind huser hactive
      exact absurd ⟨value, hmem, hvalueId.trans hid.symm⟩ hvalue
  · rintro ⟨value, hvalue, hvalueId, -, hstatus⟩
    have hrowStatus := status_of_value hs ht hvalue hrow
      ((linked_value_iff hs ht hvalue hitem hrow hid).mpr hvalueId)
    rw [hstatus] at hrowStatus
    exact (Option.some.inj hrowStatus).symm

theorem converged (hlinked : WellLinked fetch.source fetch.userId db) :
    Converged setting fetch db db' where
  active row hrow hkind huser := active_iff hs ht hlinked hrow hkind huser
  retired row hrow hkind huser hnot hactive := by
    obtain ⟨value, hvalue, hvalueId, hreturned | ⟨item, hstale, hid, hdata⟩⟩ :=
      value_of_active hs ht hlinked hrow hkind huser hactive
    · exact absurd hreturned hnot
    · obtain ⟨row', hrow', hlinked', hsame⟩ := ht.keeps value hvalue row (by rwa [hs.tasks])
        (.inl hvalueId.symm)
      have hstatus := status_of_value hs ht hvalue hrow' hlinked'
      rw [hdata, taskStatus_marked hstale] at hstatus
      obtain ⟨found, hfound, hcolumns, -⟩ := (hs.origin value hvalue).1
      exact ⟨⟨row', hrow', hsame, (Option.some.inj hstatus).symm⟩, item,
        (mem_ownItems.mp hstale.1).1, hid, found, ht.kept found hfound,
        hcolumns.id.trans (hvalueId.trans hid.symm), hcolumns.data.trans hdata⟩
  left row hrow hkind huser hnot hactive := by
    refine (ht.others row fun value hvalue hl => ?_).mpr (by rwa [hs.tasks])
    obtain ⟨item, hitem, hid⟩ := hlinked.source_own hrow hkind huser
    obtain ⟨known, hknown, hknownId, hidentity⟩ := hs.known item (mem_ownItems.mp hitem).1
    have hknownOwn : known ∈ ownItems fetch.source fetch.userId stored := by
      obtain ⟨-, hown⟩ := mem_ownItems_identity.mp hitem
      exact mem_ownItems_identity.mpr ⟨hknown, by rwa [hidentity]⟩
    obtain ⟨found, hfound, hcolumns, -⟩ := hs.ofOwn hvalue
    have hvalueId : value.id = row.sourceItemId := by
      have hone := hs.linked.oneItem found hfound known hknownOwn row (by rwa [hs.tasks])
        (hcolumns.id ▸ hl) (.inl (hid.symm.trans hknownId.symm))
      exact hcolumns.id.symm.trans (hone.trans (hknownId.trans hid))
    obtain ⟨old, ⟨-, -, task, htask, hsource, htaskActive⟩, holdId, -⟩ :=
      stale_of_value hs ht hvalue (hvalueId ▸ hnot)
    have hsame := db.task_source_unique row hrow task htask
      (hvalueId.symm.trans (holdId.trans hsource.symm))
    exact hactive (hsame ▸ htaskActive)

end Created

end Converged

end UniversalInbox.FullTaskSync
