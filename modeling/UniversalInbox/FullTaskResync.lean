import UniversalInbox.FullTaskConvergence

/-! The same sync once more. What it fetches is stored as it is, nothing is stale, and every task
holds what its item is converted to. -/
namespace UniversalInbox.FullTaskSync
open TaskUpsert
open Propagation
open TodoistSync (exists_left_of_forall₂)
open ThirdPartyItemUpsert (storedItem storedItem_eq_some joinItem HoldsColumns eq_of_identity
  service_leaf findExistingItem createOrUpdateThirdPartyItem)

/-- A sync that fetches the same items, each under an identifier and instants of its own. -/
structure SameSync (setting : Setting) (fetch : Fetch) (setting' : Setting) (fetch' : Fetch) :
    Prop where
  codec : setting'.codec = setting.codec
  isTesting : setting'.isTesting = setting.isTesting
  source : fetch'.source = fetch.source
  userId : fetch'.userId = fetch.userId
  projects : fetch'.projects = fetch.projects
  again : ∀ item ∈ fetch.items, ∃ item' ∈ fetch'.items, item'.identity = item.identity ∧
    item'.data = item.data
  only : ∀ item' ∈ fetch'.items, ∃ item ∈ fetch.items, item'.identity = item.identity ∧
    item'.data = item.data

section Request
variable {setting setting' : Setting} {fetch fetch' : Fetch} {request request' : CreateOrUpdateTaskRequest}
  {row : TaskRow} {item item' : ThirdPartyItem} {answers answers' : Answers}

/-- What two requests write alike. -/
structure SameRequest (request request' : CreateOrUpdateTaskRequest) : Prop where
  title : request'.title.value = request.title.value
  body : request'.body = request.body
  status : request'.status = request.status
  completedAt : request'.completedAt = request.completedAt
  priority : request'.priority = request.priority
  dueAt : request'.dueAt.value = request.dueAt.value
  tags : request'.tags = request.tags
  parentId : request'.parentId = request.parentId
  project : request'.project.value = request.project.value
  isRecurring : request'.isRecurring = request.isRecurring
  updatedAt : pgTimestamp request'.updatedAt = pgTimestamp request.updatedAt
  kind : request'.kind = request.kind
  sourceItem : request'.sourceItem.id = request.sourceItem.id
  sinkItem : request'.sinkItem.map (·.id) = request.sinkItem.map (·.id)
  userId : request'.userId = request.userId

theorem SameRequest.updateRow (h : SameRequest request request') :
    updateRow request' row = updateRow request row := by
  unfold TaskUpsert.updateRow
  simp only [written_eq_valueOr, DefaultValue.valueOr, h.title, h.body, h.status, h.completedAt,
    h.priority, h.dueAt, h.tags, h.parentId, h.project, h.isRecurring, h.updatedAt]

/-- Then a row is settled by both. -/
theorem SameRequest.settledBy (h : SameRequest request request') (hsettled : SettledBy request row) :
    SettledBy request' row := by
  obtain ⟨hholds, hsettled⟩ := hsettled
  refine ⟨?_, hsettled.imp ?_ ?_⟩
  · exact ⟨hholds.body.trans h.body.symm, hholds.status.trans h.status.symm,
      hholds.priority.trans h.priority.symm, hholds.tags.trans h.tags.symm,
      hholds.parentId.trans h.parentId.symm, hholds.isRecurring.trans h.isRecurring.symm,
      fun v hv => hholds.title v (h.title ▸ hv), fun v hv => hholds.dueAt v (h.dueAt ▸ hv),
      fun v hv => hholds.project v (h.project ▸ hv), hholds.userId.trans h.userId.symm⟩
  · rintro ⟨hkind, hsource, hsink⟩
    exact ⟨hkind.trans h.kind.symm, hsource.trans h.sourceItem.symm, hsink.trans h.sinkItem.symm⟩
  · rintro ⟨hupdate, hsink⟩
    exact ⟨h.updateRow.trans hupdate, hsink⟩

/-- The same payload under the same identifier is converted to the same. -/
theorem sameRequest_of_convert (hsame : SameSync setting fetch setting' fetch')
    (hid : item'.id = item.id) (hdata : item'.data = item.data)
    (hupdatedAt : pgTimestamp item'.updatedAt = pgTimestamp item.updatedAt)
    (h : thirdPartyItemIntoTask setting fetch item answers = .ok request)
    (h' : thirdPartyItemIntoTask setting' fetch' item' answers' = .ok request') :
    SameRequest request request' := by
  unfold thirdPartyItemIntoTask at h h'
  rw [hsame.source, hdata, hsame.codec, hsame.projects, hsame.userId] at h'
  split at h
  · next content hsource hcontent =>
    simp only [hsource, hcontent] at h'
    dsimp only at h
    split at h
    · cases h
    · split at h'
      · cases h'
      · cases h
        cases h'
        exact ⟨rfl, rfl, rfl, rfl, rfl, rfl, rfl, rfl, rfl, rfl, hupdatedAt, rfl, hid,
          congrArg some hid, rfl⟩
  · next content hsource hcontent =>
    simp only [hsource, hcontent] at h'
    split at h
    · cases h
    · split at h'
      · cases h'
      · cases h
        cases h'
        exact ⟨rfl, rfl, rfl, rfl, rfl, rfl, rfl, rfl, rfl, rfl, rfl, rfl, hid, rfl, rfl⟩
  · cases h

end Request

section Again
variable {setting setting' : Setting} {fetch fetch' : Fetch} {db : Database}
  {items values : List ThirdPartyItem}

/-- Items that are stored as they are fetched. -/
def StoredAlike (db : Database) (item : ThirdPartyItem) (row : ThirdPartyItemRow) : Prop :=
  row ∈ db.thirdPartyItems.rows ∧ row.identity = item.identity ∧ row.data = item.data ∧
    row.sourceItemId = none

theorem upsertItem_again {item : ThirdPartyItem} {row : ThirdPartyItemRow}
    (hleaf : item.sourceItem = none) (h : StoredAlike db item row) :
    ThirdPartyItemService.createOrUpdateThirdPartyItem db item =
      .ok (db, .untouched (row.intoThirdPartyItem none)) := by
  obtain ⟨hrow, hidentity, hdata, hsource⟩ := h
  have hfound : findExistingItem db item = some (row.intoThirdPartyItem none) := by
    show (storedItem db item).map (joinItem db) = _
    rw [storedItem_eq_some.mpr ⟨hrow, hidentity⟩, Option.map_some, joinItem_leaf hsource]
  have heq : (row.intoThirdPartyItem none).eq item = true := by
    simp only [ThirdPartyItemRow.identity, ThirdPartyItem.identity, ItemIdentity.mk.injEq] at hidentity
    obtain ⟨hsourceId, -, huser, hconnection⟩ := hidentity
    unfold ThirdPartyItemRow.intoThirdPartyItem
    rw [ThirdPartyItem.eq, hleaf, hsourceId, hdata, huser, hconnection]
    simp only [beq_self_eq_true, Bool.and_self, Bool.true_and]
    rfl
  rw [service_leaf hleaf]
  unfold createOrUpdateThirdPartyItem
  simp only [hfound]
  exact if_pos heq

theorem upsertItems_again (hleaf : ∀ item ∈ items, item.sourceItem = none)
    (h : ∀ item ∈ items, ∃ row, StoredAlike db item row) :
    ∃ statuses, upsertItems db items = .ok (db, statuses) ∧
      List.Forall₂ (fun item status => ∃ row, StoredAlike db item row ∧
        status = .untouched (row.intoThirdPartyItem none)) items statuses := by
  induction items with
  | nil => exact ⟨[], rfl, .nil⟩
  | cons item rest ih =>
    obtain ⟨row, hrow⟩ := h item List.mem_cons_self
    obtain ⟨statuses, hrest, hall⟩ := ih (fun y hy => hleaf y (List.mem_cons_of_mem _ hy))
      fun y hy => h y (List.mem_cons_of_mem _ hy)
    refine ⟨.untouched (row.intoThirdPartyItem none) :: statuses, ?_, .cons ⟨row, hrow, rfl⟩ hall⟩
    unfold upsertItems
    rw [upsertItem_again (hleaf item List.mem_cons_self) hrow]
    show (upsertItems db rest >>= _) = _
    rw [hrest]
    rfl

/-- The conversions of items whose tasks are settled. -/
theorem createTasks_again {s t : State} {result : Except UniversalInboxError Unit}
    (hlinked : WellLinked fetch.source fetch.userId s.db)
    (hown : ∀ value ∈ values, OfOwnItem fetch s.db value)
    (hsettled : ∀ value ∈ values, ∃ row ∈ s.db.tasks.rows, Linked value.id row ∧
      ∀ answers request, thirdPartyItemIntoTask setting fetch value answers = .ok request →
        SettledBy request row)
    (h : createTasks setting fetch s values = some (t, result)) :
    t.db = s.db ∧ t.upstream = s.upstream := by
  induction values generalizing s with
  | nil =>
    cases h
    exact ⟨rfl, rfl⟩
  | cons value rest ih =>
    obtain ⟨hkind, stored, hstored, hid⟩ := hown value List.mem_cons_self
    obtain ⟨row, hrow, hl, hsettledRow⟩ := hsettled value List.mem_cons_self
    have hone : ∀ {s' outcome}, createTaskFromThirdPartyItem setting.scan fetch.userId
        setting.isTesting s (syncedItem setting fetch value) = some (s', outcome) →
          s'.db = s.db ∧ s'.upstream = s.upstream := fun hfirst =>
      createTaskFromThirdPartyItem_again (x := syncedItem setting fetch value) hlinked hstored hid
        hkind (fun _ hconvert => (requestOf_convert hconvert).1) hrow hl
        (fun request hconvert => hsettledRow _ request hconvert) hfirst
    rw [createTasks] at h
    split at h
    · next s' hfirst =>
      obtain ⟨hdb, hupstream⟩ := hone hfirst
      obtain ⟨hdb', hupstream'⟩ := ih (s := s') (by rwa [hdb])
        (fun y hy => by rw [hdb]; exact hown y (List.mem_cons_of_mem _ hy))
        (fun y hy => by rw [hdb]; exact hsettled y (List.mem_cons_of_mem _ hy)) h
      exact ⟨hdb'.trans hdb, hupstream'.trans hupstream⟩
    · exact hone h

/-- No item of the source has an active task and was not fetched. -/
theorem stale_eq_nil {statuses : List (UpsertStatus ThirdPartyItem)} {scan : ThirdPartyItemScan db}
    (hlinked : WellLinked fetch.source fetch.userId db)
    (hall : List.Forall₂ (fun item status => ∃ row, StoredAlike db item row ∧
      status = .untouched (row.intoThirdPartyItem none)) fetch.items statuses)
    (hactive : ∀ row ∈ db.tasks.rows, row.kind = fetch.source.getTaskSourceKind →
      row.userId = fetch.userId → row.status = .active → Returned db fetch row.sourceItemId) :
    getStaleTaskSourceThirdPartyItems db scan ((statuses.map (·.value)).map (·.id))
      fetch.source.getTaskSourceKind fetch.userId = [] := by
  unfold getStaleTaskSourceThirdPartyItems
  rw [List.map_eq_nil_iff, List.filter_eq_nil_iff]
  intro row hrow hstale
  simp only [Bool.and_eq_true, Bool.not_eq_true', List.any_eq_true, beq_iff_eq] at hstale
  obtain ⟨⟨hnot, task, htask, ⟨hsource, hkind⟩, htaskActive⟩, huser⟩ := hstale
  have hrow := scan.perm.mem_iff.mp hrow
  have htaskUser : task.userId = fetch.userId := by
    obtain ⟨item, hitem, hid, hitemUser, -⟩ := hlinked.source task htask
    rw [← hitemUser, Table.eq_of_key hitem hrow (hid.trans hsource)]
    exact huser
  obtain ⟨item, hitem, found, hfound, hid⟩ := hactive task htask hkind htaskUser htaskActive
  obtain ⟨hfoundRow, hfoundIdentity⟩ := storedItem_eq_some.mp hfound
  obtain ⟨status, hstatus, alike, ⟨halike, hidentity, -, -⟩, rfl⟩ :=
    exists_left_of_forall₂ hall.flip item hitem
  refine absurd (List.contains_iff_mem.mpr ?_) (Bool.eq_false_iff.mp hnot)
  rw [List.map_map, List.mem_map]
  refine ⟨_, hstatus, ?_⟩
  show alike.id = row.id
  rw [eq_of_identity halike hfoundRow (hidentity.trans hfoundIdentity.symm), hid, hsource]

end Again

section Resync
variable {setting setting' : Setting} {fetch fetch' : Fetch} {db stored : Database}
  {values : List ThirdPartyItem} {s t : State}

/-- What the first sync fetched is stored, and its task is settled. -/
theorem settled_of_fetched (hs : Synced setting fetch db stored values)
    (ht : TasksCreated setting fetch stored s.db values)
    (hsame : SameSync setting fetch setting' fetch') {item' : ThirdPartyItem}
    (hitem' : item' ∈ fetch'.items) : ∃ row, StoredAlike s.db item' row ∧
      row ∈ ownItems fetch.source fetch.userId s.db ∧ ∃ task ∈ s.db.tasks.rows, Linked row.id task ∧
        ∀ answers request, thirdPartyItemIntoTask setting' fetch' (row.intoThirdPartyItem none)
          answers = .ok request → SettledBy request task := by
  obtain ⟨item, hitem, hidentity, hdata⟩ := hsame.only item' hitem'
  obtain ⟨value, hvalue, hvalueIdentity, hvalueData⟩ := hs.fetched item hitem
  obtain ⟨row, hrow, hcolumns, hsource⟩ := hs.ofOwn hvalue
  obtain ⟨request, hconvert, task, htask, hl, hsettled⟩ := ht.settled value hvalue
  refine ⟨row, ⟨ht.kept row (mem_ownItems.mp hrow).1, hcolumns.identity.trans
    (hvalueIdentity.trans hidentity.symm), hcolumns.data.trans (hvalueData.trans hdata.symm),
    hsource⟩, (ht.own row).mpr hrow, task, htask, hcolumns.id ▸ hl, fun answers request' hagain => ?_⟩
  have hid : (row.intoThirdPartyItem none).id = value.id := hcolumns.id
  exact (sameRequest_of_convert hsame hid hcolumns.data hcolumns.updatedAt hconvert
    hagain).settledBy hsettled

/-- The second sync. -/
theorem sync_again {result : Except UniversalInboxError Unit} (htesting : setting.isTesting = false)
    (hs : Synced setting fetch db stored values)
    (ht : TasksCreated setting fetch stored s.db values) (hconverged : Converged setting fetch db s.db)
    (hsame : SameSync setting fetch setting' fetch')
    (h : syncThirdPartyTasks setting' fetch' s = some (t, result)) :
    t.db = s.db ∧ t.upstream = s.upstream := by
  have hlinked : WellLinked fetch'.source fetch'.userId s.db := by
    rw [hsame.source, hsame.userId]
    exact ht.linked
  have hstored : ∀ item' ∈ fetch'.items, ∃ row, StoredAlike s.db item' row := fun item' hitem' => by
    obtain ⟨row, halike, -⟩ := settled_of_fetched hs ht hsame hitem'
    exact ⟨row, halike⟩
  obtain ⟨statuses, hupserts, hall⟩ := upsertItems_again fetch'.leaf hstored
  have hstale : getStaleTaskSourceThirdPartyItems s.db (setting'.itemScan s.db)
      ((statuses.map (·.value)).map (·.id)) fetch'.source.getTaskSourceKind fetch'.userId = [] := by
    refine stale_eq_nil hlinked hall fun row hrow hkind huser hactive => ?_
    rw [hsame.source] at hkind
    rw [hsame.userId] at huser
    obtain ⟨item, hitem, ⟨found, hfound, hid⟩, -⟩ :=
      (hconverged.active row hrow hkind huser).mp hactive
    obtain ⟨item', hitem', hidentity, -⟩ := hsame.again item hitem
    obtain ⟨hfoundRow, hfoundIdentity⟩ := storedItem_eq_some.mp hfound
    exact ⟨item', hitem', found,
      storedItem_eq_some.mpr ⟨hfoundRow, hfoundIdentity.trans hidentity.symm⟩, hid⟩
  have hitems : syncItems setting' fetch' s.db = .ok (s.db, statuses.map (·.value)) := by
    unfold syncItems
    rw [if_neg (by rw [hsame.isTesting, htesting]; exact Bool.false_ne_true), hupserts]
    show (upsertItems s.db ((getStaleTaskSourceThirdPartyItems _ _ _ _ _).map _) >>= _) = _
    rw [hstale]
    show Except.ok (s.db, statuses.map (·.value) ++ []) = _
    rw [List.append_nil]
  unfold syncThirdPartyTasks at h
  simp only [hitems] at h
  have hvalue : ∀ value ∈ statuses.map (·.value), ∃ item' ∈ fetch'.items, ∃ row,
      StoredAlike s.db item' row ∧ value = row.intoThirdPartyItem none := by
    intro value hvalue
    obtain ⟨status, hstatus, rfl⟩ := List.mem_map.mp hvalue
    obtain ⟨item', hitem', row, halike, rfl⟩ := exists_left_of_forall₂ hall status hstatus
    exact ⟨item', hitem', row, halike, rfl⟩
  refine createTasks_again (s := s) hlinked (fun value hmem => ?_) (fun value hmem => ?_) h
  · obtain ⟨item', hitem', row, halike, rfl⟩ := hvalue value hmem
    obtain ⟨row', halike', hown, -⟩ := settled_of_fetched hs ht hsame hitem'
    have hrow : row = row' :=
      eq_of_identity halike.1 halike'.1 (halike.2.1.trans halike'.2.1.symm)
    rw [← hrow] at hown
    refine ⟨?_, row, ?_, rfl⟩
    · rw [hsame.source]
      exact (mem_ownItems.mp hown).2.1
    · rw [hsame.source, hsame.userId]
      exact hown
  · obtain ⟨item', hitem', row, halike, rfl⟩ := hvalue value hmem
    obtain ⟨row', halike', -, task, htask, hl, hsettled⟩ := settled_of_fetched hs ht hsame hitem'
    have hrow : row = row' :=
      eq_of_identity halike.1 halike'.1 (halike.2.1.trans halike'.2.1.symm)
    rw [← hrow] at hl hsettled
    exact ⟨task, htask, hl, hsettled⟩

end Resync

/-- A successful sync of all the tasks of a source converges, and a sync that fetches the same again,
however it ends, changes no row and nothing at a provider. The items of the source are linked as the
inbox links them, and no stale item says it was completed at the instant it is marked at. -/
theorem full_task_sync_converges (setting : Setting) (fetch : Fetch) (s t : State)
    (htesting : setting.isTesting = false) (hlinked : WellLinked fetch.source fetch.userId s.db)
    (hclock : ∀ row, IsStale fetch s.db row →
      completedAt setting.codec row.data ≠ some (setting.marks row.id).completedAt)
    (hsync : syncThirdPartyTasks setting fetch s = some (t, .ok ())) :
    WellLinked fetch.source fetch.userId t.db ∧ Converged setting fetch s.db t.db ∧
      ∀ setting' fetch' t' result, SameSync setting fetch setting' fetch' →
        syncThirdPartyTasks setting' fetch' t = some (t', result) →
          t'.db = t.db ∧ t'.upstream = t.upstream := by
  unfold syncThirdPartyTasks at hsync
  split at hsync
  · cases hsync
  · next stored values hitems =>
    have hs := synced_of_syncItems htesting hlinked hclock hitems
    have hown : ∀ value ∈ values, OfOwnItem fetch stored value := by
      intro value hvalue
      obtain ⟨item, hitem, hcolumns, -⟩ := hs.ofOwn hvalue
      refine ⟨?_, item, hitem, hcolumns.id⟩
      exact (congrArg ThirdPartyItemData.kind hcolumns.data).symm.trans (mem_ownItems.mp hitem).2.1
    have ht : TasksCreated setting fetch stored t.db values :=
      @createTasks_created setting fetch { s with db := stored } t values hs.linked hown hs.distinct
        hsync
    have hconverged := converged hs ht hlinked
    exact ⟨ht.linked, hconverged, fun setting' fetch' t' result hsame hagain =>
      sync_again htesting hs ht hconverged hsame hagain⟩

section Issues

/-- An issue is open until its payload is the instant it was completed at. -/
def writtenInstant (content : String) : Option DateTime :=
  match content.toList with
  | '+' :: rest => some rest.length
  | '-' :: rest => some (-rest.length)
  | _ => none

def writeInstant (instant : DateTime) : String :=
  String.ofList ((if 0 ≤ instant then '+' else '-') :: List.replicate instant.natAbs 'i')

theorem writtenInstant_writeInstant (instant : DateTime) :
    writtenInstant (writeInstant instant) = some instant := by
  unfold writtenInstant writeInstant
  rw [String.toList_ofList]
  by_cases hpos : 0 ≤ instant
  · rw [if_pos hpos]
    show some ((List.replicate instant.natAbs 'i').length : DateTime) = _
    rw [List.length_replicate, Int.natAbs_of_nonneg hpos]
  · rw [if_neg hpos]
    show some (-((List.replicate instant.natAbs 'i').length : DateTime)) = _
    rw [List.length_replicate, Int.ofNat_natAbs_of_nonpos (le_of_lt (not_le.mp hpos)), neg_neg]

def readIssue (content : String) : LinearIssue :=
  { createdAt := 0, updatedAt := 0, completedAt := writtenInstant content, dueDate := none,
    title := "Issue", url := "https://linear.app/issue", priority := .noPriority,
    stateType := if (writtenInstant content).isSome then .completed else .started, labels := [],
    description := none }

def readTickTickItem (content : String) : TickTickItem :=
  { projectId := "inbox1", title := "Task", content := none, dueDate := none, repeat_ := none,
    priority := .none, status := if (writtenInstant content).isSome then .completed else .normal,
    completedTime := writtenInstant content, tags := none, createdTime := none }

def instantCodec : Codec where
  tickTick := readTickTickItem
  linear := readIssue
  completeTickTick now _ := writeInstant now
  completeLinear now _ := writeInstant now
  removeSlackReaction content := content
  readSlackThread content := content
  tickTick_complete now content := by
    unfold readTickTickItem TickTickItem.complete
    rw [writtenInstant_writeInstant]
    rfl
  linear_complete now content := by
    unfold readIssue LinearIssue.complete
    rw [writtenInstant_writeInstant]
    rfl

def issueRow (id : Nat) (sourceId : String) : ThirdPartyItemRow :=
  { id := ⟨id⟩, sourceId, data := .linearIssue "", createdAt := postgresEpoch,
    updatedAt := postgresEpoch, userId := ⟨1⟩, integrationConnectionId := ⟨1⟩, sourceItemId := none }

def issueTask (id source : Nat) (sink : Option Nat) (status : TaskStatus) : TaskRow :=
  { id := ⟨id⟩, title := "Issue", body := "", status, completedAt := none, priority := .p4,
    dueAt := none, tags := [], parentId := none, project := "Inbox", isRecurring := false,
    createdAt := postgresEpoch, updatedAt := postgresEpoch, kind := .linear,
    sourceItemId := ⟨source⟩, sinkItemId := sink.map ThirdPartyItemId.mk, userId := ⟨1⟩ }

/-- Two issues and a task of each; the task of the second one may have the first one as its sink. -/
def issueState (first second : TaskStatus) (sink : Option Nat)
    (hsink : sink = none ∨ sink = some 1) : State where
  db :=
    { thirdPartyItems := ⟨[issueRow 1 "LIN-1", issueRow 2 "LIN-2"], by decide⟩
      tasks := ⟨[issueTask 2 2 sink second, issueTask 1 1 none first],
        show ([⟨2⟩, ⟨1⟩] : List TaskId).Nodup by decide⟩
      notifications := Table.empty
      item_constraints := by decide
      task_source := by cases first <;> cases second <;> rcases hsink with rfl | rfl <;> decide
      task_sink := by cases first <;> cases second <;> rcases hsink with rfl | rfl <;> decide
      task_parent := by cases first <;> cases second <;> rcases hsink with rfl | rfl <;> decide
      task_source_unique := by
        cases first <;> cases second <;> rcases hsink with rfl | rfl <;> decide
      task_sink_unique := by
        cases first <;> cases second <;> rcases hsink with rfl | rfl <;> decide
      notification_source := fun _ h => (Table.not_mem_empty h).elim
      notification_task := fun _ h => (Table.not_mem_empty h).elim
      notification_updatedAt := Database.empty.notification_updatedAt }
  upstream := fun _ => issueFields .active
  edited := []

/-- Each item that is converted gets a new Todoist item as its sink. -/
def todoistSink (id : ThirdPartyItemId) : Answers where
  taskId := ⟨10 + id.uuid⟩
  now := 0
  connected := true
  taskCreationConfig := some ⟨none, none, none⟩
  fetchProjects := .ok ()
  defaultTaskManagerProviderKind := none
  peer := answeredBy todoistOk
  sink := ⟨true, .ok { sinkItem with id := ⟨10 + id.uuid⟩, sourceId := writeInstant id.uuid },
    .ok ()⟩
  afterSideEffect := .ok ()
  linear_found _ _ := nofun
  slack_found _ _ := ⟨nofun, nofun⟩

def issueSetting (isTesting : Bool) : Setting where
  codec := instantCodec
  scan := TodoistSync.insertionOrder
  itemScan db := ⟨db.thirdPartyItems.rows, .refl _⟩
  isTesting := isTesting
  marks _ := ⟨3, 0⟩
  answers := todoistSink

def fetchedIssues (items : List ThirdPartyItem) (h : items = [] ∨ items = [Propagation.issueItem]) : Fetch where
  source := .linear
  userId := ⟨1⟩
  integrationConnectionId := ⟨1⟩
  items
  projects := []
  kind := by rcases h with rfl | rfl <;> decide
  user := by rcases h with rfl | rfl <;> decide
  connection := by rcases h with rfl | rfl <;> decide
  leaf := by rcases h with rfl | rfl <;> simp [Propagation.issueItem]
  distinct := by rcases h with rfl | rfl <;> decide

theorem openIssues : ∀ row ∈ [issueRow 1 "LIN-1", issueRow 2 "LIN-2"],
    completedAt instantCodec row.data = none := by decide

/-- The first issue is fetched, and its task was done; the second one is not, and its task is active. -/
theorem twoIssues_converge : ∃ t,
    syncThirdPartyTasks (issueSetting false) (fetchedIssues [Propagation.issueItem] (.inr rfl))
      (issueState .done .active none (.inl rfl)) = some (t, .ok ()) ∧
    WellLinked .linear ⟨1⟩ t.db ∧
    Converged (issueSetting false) (fetchedIssues [Propagation.issueItem] (.inr rfl))
      (issueState .done .active none (.inl rfl)).db t.db ∧
    ∀ setting' fetch' t' result,
      SameSync (issueSetting false) (fetchedIssues [Propagation.issueItem] (.inr rfl)) setting' fetch' →
        syncThirdPartyTasks setting' fetch' t = some (t', result) →
          t'.db = t.db ∧ t'.upstream = t.upstream := by
  refine ⟨_, rfl, full_task_sync_converges (issueSetting false)
    (fetchedIssues [Propagation.issueItem] (.inr rfl)) (issueState .done .active none (.inl rfl)) _
    rfl (by decide) ?_ rfl⟩
  intro row hstale
  have hopen : completedAt (issueSetting false).codec row.data = none :=
    openIssues row (mem_ownItems.mp hstale.1).1
  rw [hopen]
  exact nofun

/-- The tasks whose item was not fetched are done. -/
def AbsentAreDone (fetch : Fetch) (db db' : Database) : Prop :=
  ∀ row ∈ db.tasks.rows, row.kind = fetch.source.getTaskSourceKind → row.userId = fetch.userId →
    ¬ Returned db' fetch row.sourceItemId →
      ∃ row' ∈ db'.tasks.rows, row'.id = row.id ∧ row'.status = .done

/-- The active tasks are those of the active items that were fetched. -/
def ActiveAreReturned (codec : Codec) (fetch : Fetch) (db' : Database) : Prop :=
  ∀ row ∈ db'.tasks.rows, row.kind = fetch.source.getTaskSourceKind → row.userId = fetch.userId →
    (row.status = .active ↔ ReturnedActive codec db' fetch row.sourceItemId)

/-- A deleted task stays deleted and its issue is not marked, a test account fetches nothing and
keeps its active tasks, and an issue that is also the sink of another task is synchronized with
that one. -/
theorem absentIssues_not_done :
    (∃ t, syncThirdPartyTasks (issueSetting false) (fetchedIssues [] (.inl rfl))
        (issueState .deleted .deleted none (.inl rfl)) = some (t, .ok ()) ∧
      ¬ AbsentAreDone (fetchedIssues [] (.inl rfl))
        (issueState .deleted .deleted none (.inl rfl)).db t.db) ∧
    (∃ t, syncThirdPartyTasks (issueSetting true) (fetchedIssues [] (.inl rfl))
        (issueState .active .active none (.inl rfl)) = some (t, .ok ()) ∧
      ¬ ActiveAreReturned instantCodec (fetchedIssues [] (.inl rfl)) t.db) ∧
    ∃ t, syncThirdPartyTasks (issueSetting false)
        (fetchedIssues [Propagation.issueItem] (.inr rfl))
        (issueState .done .active (some 1) (.inr rfl)) = some (t, .ok ()) ∧
      ¬ ActiveAreReturned instantCodec (fetchedIssues [Propagation.issueItem] (.inr rfl)) t.db := by
  refine ⟨⟨_, rfl, fun h => ?_⟩, ⟨_, rfl, fun h => ?_⟩, _, rfl, fun h => ?_⟩
  · have hdone := h (issueTask 2 2 none .deleted) (by decide) rfl rfl (by rintro ⟨_, ⟨⟩, _⟩)
    revert hdone
    decide
  · obtain ⟨item, hitem, -⟩ := (h (issueTask 2 2 none .active) (by decide) rfl rfl).mp rfl
    cases hitem
  · have hactive := (h (issueTask 1 1 none .done) (by decide) rfl rfl).mpr
      ⟨Propagation.issueItem, List.mem_cons_self, ⟨_, rfl, rfl⟩, rfl⟩
    cases hactive

end Issues

end UniversalInbox.FullTaskSync
