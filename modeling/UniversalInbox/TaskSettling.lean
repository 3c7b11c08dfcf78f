import UniversalInbox.FullTaskSync
import UniversalInbox.TaskResync

/-! What the sync of one item does to its task, in a database that links every item of the source
to one task. The row that is left holds the request, and the same request changes nothing in it. -/
namespace UniversalInbox.FullTaskSync
open TaskUpsert
open Propagation

section Links
variable (source : FullTaskSource) (userId : UserId)

/-- The items of the user that are of the kind of the source. -/
def ownItems (db : Database) : List ThirdPartyItemRow :=
  db.thirdPartyItems.rows.filter fun item =>
    item.data.kind == source.itemKind && item.userId == userId

/-- How the inbox links the items of a source: they nest no other, each is of one task at most and
a task is of one of them at most, and a task is of the owner and of the kind of its source item. -/
structure WellLinked (db : Database) : Prop where
  leaf : ∀ item ∈ ownItems source userId db, item.sourceItemId = none
  oneTask : ∀ item ∈ ownItems source userId db, ∀ row ∈ db.tasks.rows, ∀ row' ∈ db.tasks.rows,
    Linked item.id row → Linked item.id row' → row = row'
  oneItem : ∀ item ∈ ownItems source userId db, ∀ item' ∈ ownItems source userId db,
    ∀ row ∈ db.tasks.rows, Linked item.id row → Linked item'.id row → item.id = item'.id
  owner : ∀ item ∈ ownItems source userId db, ∀ row ∈ db.tasks.rows, Linked item.id row →
    row.userId = userId
  source : ∀ row ∈ db.tasks.rows, ∃ item ∈ db.thirdPartyItems.rows, item.id = row.sourceItemId ∧
    item.userId = row.userId ∧ taskSourceKind item.data.kind = some row.kind

instance (db : Database) : Decidable (WellLinked source userId db) :=
  decidable_of_iff
    ((∀ item ∈ ownItems source userId db, item.sourceItemId = none) ∧
      (∀ item ∈ ownItems source userId db, ∀ row ∈ db.tasks.rows, ∀ row' ∈ db.tasks.rows,
        Linked item.id row → Linked item.id row' → row = row') ∧
      (∀ item ∈ ownItems source userId db, ∀ item' ∈ ownItems source userId db,
        ∀ row ∈ db.tasks.rows, Linked item.id row → Linked item'.id row → item.id = item'.id) ∧
      (∀ item ∈ ownItems source userId db, ∀ row ∈ db.tasks.rows, Linked item.id row →
        row.userId = userId) ∧
      ∀ row ∈ db.tasks.rows, ∃ item ∈ db.thirdPartyItems.rows, item.id = row.sourceItemId ∧
        item.userId = row.userId ∧ taskSourceKind item.data.kind = some row.kind)
    ⟨fun ⟨a, b, c, d, e⟩ => ⟨a, b, c, d, e⟩, fun ⟨a, b, c, d, e⟩ => ⟨a, b, c, d, e⟩⟩

/-- What a write of the task of an item leaves: the row that is of the item now, the other tasks as
they were, and maybe an item of another kind. -/
structure Written (db db' : Database) (id : ThirdPartyItemId) (written : TaskRow) : Prop where
  items : ∀ item ∈ db'.thirdPartyItems.rows,
    item ∈ db.thirdPartyItems.rows ∨ item.data.kind ≠ source.itemKind
  kept : ∀ item ∈ db.thirdPartyItems.rows, item ∈ db'.thirdPartyItems.rows
  tasks : ∀ row, row ∈ db'.tasks.rows ↔
    row = written ∨ (row ∈ db.tasks.rows ∧ ¬ Linked id row)
  linked : Linked id written
  keeps : ∀ row ∈ db.tasks.rows, Linked id row → written.id = row.id
  other : ∀ item ∈ ownItems source userId db, Linked item.id written → item.id = id
  user : written.userId = userId
  source : ∃ item ∈ db.thirdPartyItems.rows, item.id = written.sourceItemId ∧
    item.userId = written.userId ∧ taskSourceKind item.data.kind = some written.kind

/-- The request of an item of the source. -/
structure RequestOf (item : ThirdPartyItem) (request : CreateOrUpdateTaskRequest) : Prop where
  sourceItem : request.sourceItem = item
  sinkItem : ∀ sink ∈ request.sinkItem, sink = item
  kind : request.kind = source.getTaskSourceKind
  user : request.userId = userId
  parent : request.parentId = none

end Links

/-- A service that items are only created at by their user, or by the inbox. -/
def isTaskManager (kind : TaskSourceKind) : Bool := kind == .todoist || kind == .tickTick

/-- A row that the request changes no more: it names the items of the row, or the row is what it
writes and needs no sink. -/
structure SettledBy (request : CreateOrUpdateTaskRequest) (row : TaskRow) : Prop where
  holds : Holds request row
  settled : SameItems request row ∨
    (updateRow request row = row ∧ (row.sinkItemId.isSome = true ∨ isTaskManager row.kind = true))

section Rows
variable {source : FullTaskSource} {userId : UserId} {db db' : Database}
  {item : ThirdPartyItem} {stored : ThirdPartyItemRow} {request : CreateOrUpdateTaskRequest}
  {row written : TaskRow} {id : ThirdPartyItemId}

theorem mem_ownItems : stored ∈ ownItems source userId db ↔ stored ∈ db.thirdPartyItems.rows ∧
    stored.data.kind = source.itemKind ∧ stored.userId = userId := by
  unfold ownItems
  rw [List.mem_filter, Bool.and_eq_true, beq_iff_eq, beq_iff_eq]

/-- The kind of an item tells the source of its task. -/
theorem kind_eq_iff {kind : ThirdPartyItemKind} :
    taskSourceKind kind = some source.getTaskSourceKind ↔ kind = source.itemKind := by
  cases source <;> cases kind <;> decide

theorem Written.ownItems_iff (h : Written source userId db db' id written) :
    stored ∈ ownItems source userId db' ↔ stored ∈ ownItems source userId db := by
  rw [mem_ownItems, mem_ownItems]
  refine and_congr_left fun hown => ⟨fun hmem => ?_, h.kept stored⟩
  exact (h.items stored hmem).resolve_right (not_not_intro hown.1)

theorem Written.mem (h : Written source userId db db' id written) : written ∈ db'.tasks.rows :=
  (h.tasks written).mpr (.inl rfl)

/-- The links stay as they should be. -/
theorem Written.wellLinked (h : Written source userId db db' id written)
    (hlinked : WellLinked source userId db) : WellLinked source userId db' where
  leaf item hitem := hlinked.leaf item (h.ownItems_iff.mp hitem)
  oneTask item hitem row hrow row' hrow' hl hl' := by
    have hown := h.ownItems_iff.mp hitem
    rcases (h.tasks row).mp hrow with rfl | ⟨hold, hne⟩ <;>
      rcases (h.tasks row').mp hrow' with rfl | ⟨hold', hne'⟩
    · rfl
    · exact absurd (h.other item hown hl ▸ hl') hne'
    · exact absurd (h.other item hown hl' ▸ hl) hne
    · exact hlinked.oneTask item hown row hold row' hold' hl hl'
  oneItem item hitem item' hitem' row hrow hl hl' := by
    have hown := h.ownItems_iff.mp hitem
    have hown' := h.ownItems_iff.mp hitem'
    rcases (h.tasks row).mp hrow with rfl | ⟨hold, -⟩
    · exact (h.other item hown hl).trans (h.other item' hown' hl').symm
    · exact hlinked.oneItem item hown item' hown' row hold hl hl'
  owner item hitem row hrow hl := by
    rcases (h.tasks row).mp hrow with rfl | ⟨hold, -⟩
    · exact h.user
    · exact hlinked.owner item (h.ownItems_iff.mp hitem) row hold hl
  source row hrow := by
    rcases (h.tasks row).mp hrow with rfl | ⟨hold, -⟩
    · obtain ⟨item, hitem, hsource⟩ := h.source
      exact ⟨item, h.kept item hitem, hsource⟩
    · obtain ⟨item, hitem, hsource⟩ := hlinked.source row hold
      exact ⟨item, h.kept item hitem, hsource⟩

/-- A task whose source item is of the source is of its kind. -/
theorem WellLinked.kind_of_source (h : WellLinked source userId db)
    (hstored : stored ∈ ownItems source userId db) (hrow : row ∈ db.tasks.rows)
    (hsource : row.sourceItemId = stored.id) : row.kind = source.getTaskSourceKind := by
  obtain ⟨item, hitem, hid, -, hkind⟩ := h.source row hrow
  obtain ⟨hmem, hown, -⟩ := mem_ownItems.mp hstored
  rw [Table.eq_of_key hitem hmem (hid.trans hsource), hown, source.service_spec.2.2] at hkind
  exact (Option.some.inj hkind).symm

/-- Every task of an item of the source is found by it. -/
theorem taskMatches_of_own (h : WellLinked source userId db)
    (hstored : stored ∈ ownItems source userId db) (hid : stored.id = item.id)
    (hkind : item.kind = source.itemKind) (hrequest : RequestOf source userId item request)
    (hrow : row ∈ db.tasks.rows) (hlinked : Linked item.id row) :
    taskMatches db request row = true := by
  obtain ⟨hmem, hown, -⟩ := mem_ownItems.mp hstored
  have hitem : itemMatches db item.id request.sourceItem = true := by
    unfold itemMatches
    rw [hrequest.sourceItem, ← hid, Table.find?_eq_some.mpr ⟨hmem, rfl⟩, Option.any_some, hown,
      hkind]
    simp
  have huser : row.userId = request.userId :=
    (h.owner stored hstored row hrow (hid ▸ hlinked)).trans hrequest.user.symm
  simp only [taskMatches, Bool.and_eq_true, Bool.or_eq_true, beq_iff_eq]
  refine ⟨?_, huser⟩
  rcases hlinked with hsource | hsink
  · exact .inl (hsource ▸ hitem)
  · exact .inr (by rw [hsink]; exact hitem)

/-- A row that the request has written is what it writes. -/
theorem updateRow_updateRow : updateRow request (updateRow request row) = updateRow request row := by
  unfold updateRow
  simp only [written_eq_valueOr, TaskRow.mk.injEq, true_and, and_true]
  refine ⟨?_, ?_, ?_⟩
  · cases h : request.title.value <;> simp [DefaultValue.valueOr, h]
  · cases h : request.dueAt.value <;> simp [DefaultValue.valueOr, h]
  · cases h : request.project.value <;> simp [DefaultValue.valueOr, h]

theorem updateRow_insertRow : updateRow request (insertRow request) = insertRow request := by
  unfold updateRow insertRow
  simp only [ite_self]

/-- A new sink is not what the request writes. -/
theorem updateRow_linkSink (sink : ThirdPartyItemId) (h : updateRow request row = row) :
    updateRow request (linkSink sink row) = linkSink sink row :=
  congrArg (linkSink sink) h

theorem holds_linkSink (sink : ThirdPartyItemId) (h : Holds request row) :
    Holds request (linkSink sink row) :=
  ⟨h.body, h.status, h.priority, h.tags, h.parentId, h.isRecurring, h.title, h.dueAt, h.project,
    h.userId⟩

/-- The row of the item before its task is written: the only one that is linked to it. -/
theorem written_of_row (h : WellLinked source userId db)
    (hstored : stored ∈ ownItems source userId db) (hrow : row ∈ db.tasks.rows)
    (hlinked : Linked stored.id row) {f : TaskRow → TaskRow}
    (hsame : (f row).id = row.id ∧ (f row).sourceItemId = row.sourceItemId ∧
      (f row).sinkItemId = row.sinkItemId ∧ (f row).userId = row.userId ∧ (f row).kind = row.kind)
    (hitems : db'.thirdPartyItems = db.thirdPartyItems)
    (htasks : ∀ r, r ∈ db'.tasks.rows ↔
      ∃ old ∈ db.tasks.rows, (if old.id == row.id then f old else old) = r) :
    Written source userId db db' stored.id (f row) := by
  obtain ⟨hid, hsource, hsink, huser, hkind⟩ := hsame
  have hlinks : ∀ id, Linked id (f row) ↔ Linked id row := fun id => by
    unfold Linked
    rw [hsource, hsink]
  refine ⟨fun item hitem => .inl (hitems ▸ hitem), fun item hitem => hitems ▸ hitem, fun r => ?_,
    (hlinks _).mpr hlinked, fun r hr hl => ?_, fun item hitem hl => ?_, ?_, ?_⟩
  · rw [htasks]
    constructor
    · rintro ⟨old, hold, rfl⟩
      split
      · next hsame => exact .inl (by rw [Table.eq_of_key hold hrow (beq_iff_eq.mp hsame)])
      · next hother =>
        refine .inr ⟨hold, fun hl => hother (beq_iff_eq.mpr ?_)⟩
        rw [h.oneTask stored hstored old hold row hrow hl hlinked]
    · rintro (rfl | ⟨hold, hne⟩)
      · exact ⟨row, hrow, if_pos (beq_self_eq_true _)⟩
      · refine ⟨r, hold, if_neg fun hsame => hne ?_⟩
        rw [Table.eq_of_key hold hrow (beq_iff_eq.mp hsame)]
        exact hlinked
  · rw [hid, h.oneTask stored hstored r hr row hrow hl hlinked]
  · exact h.oneItem item hitem stored hstored row hrow ((hlinks _).mp hl) hlinked
  · exact huser.trans (h.owner stored hstored row hrow hlinked)
  · rw [hsource, huser, hkind]
    exact h.source row hrow

/-- The inserted row of an item that had no task. -/
theorem written_of_insert (hstored : stored ∈ ownItems source userId db) (hid : stored.id = item.id)
    (hrequest : RequestOf source userId item request)
    (hnone : ∀ row ∈ db.tasks.rows, ¬ Linked stored.id row)
    (hitems : db'.thirdPartyItems = db.thirdPartyItems)
    (htasks : db'.tasks.rows = db.tasks.rows ++ [insertRow request]) :
    Written source userId db db' stored.id (insertRow request) := by
  have hsource : (insertRow request).sourceItemId = stored.id := by
    rw [hid, ← hrequest.sourceItem]
    rfl
  obtain ⟨hmem, hkind, huser⟩ := mem_ownItems.mp hstored
  refine ⟨fun item hitem => .inl (hitems ▸ hitem), fun item hitem => hitems ▸ hitem, fun r => ?_,
    .inl hsource, fun r hr hl => absurd hl (hnone r hr), fun other hother hl => ?_, hrequest.user,
    stored, hmem, hsource.symm, huser.trans hrequest.user.symm, ?_⟩
  · rw [htasks, List.mem_append, List.mem_singleton, or_comm]
    exact or_congr_right ⟨fun hr => ⟨hr, hnone r hr⟩, And.left⟩
  · rcases hl with hl | hl
    · exact hl.symm.trans hsource
    · obtain ⟨sink, hsink, hsinkId⟩ := Option.map_eq_some_iff.mp hl
      rw [hid, ← hsinkId, hrequest.sinkItem sink hsink]
  · show taskSourceKind stored.data.kind = some request.kind
    rw [hkind, source.service_spec.2.2, hrequest.kind]

/-- What the upsert of a task does to the row of its item. -/
theorem createOrUpdateTask_written {scan : TaskScan db} {status : UpsertStatus Task}
    (h : WellLinked source userId db) (hstored : stored ∈ ownItems source userId db)
    (hid : stored.id = item.id) (hkind : item.kind = source.itemKind)
    (hrequest : RequestOf source userId item request)
    (hok : createOrUpdateTask db scan request = .ok (db', status)) :
    ∃ written, Written source userId db db' stored.id written ∧ Holds request written ∧
      ((SameItems request written ∧ db' = db ∧ ∃ task, status = .untouched task) ∨
        (updateRow request written = written ∧ ∃ row ∈ db.tasks.rows, Linked stored.id row ∧
          written = updateRow request row ∧ ∃ oldTask, db.joinTask row = some oldTask ∧
            status = .updated (updatedTask request oldTask) oldTask) ∨
        (updateRow request written = written ∧ written = insertRow request ∧
          status = .created request.intoTask)) := by
  have hlinkedOf : ∀ {row}, taskMatches db request row = true → Linked stored.id row := by
    intro row hmatch
    have hlinked := linked_of_taskMatches hmatch
    rwa [hrequest.sourceItem, ← hid] at hlinked
  cases hfound : findExistingTask db scan request with
  | some existing =>
    obtain ⟨row, hrow, hmatch, hjoin⟩ := findExistingTask_row hfound
    have huser := findExistingTask_userId hfound
    rcases createOrUpdateTask_cases hfound hok with ⟨rfl, rfl, hsame⟩ | ⟨hparent, rfl, rfl⟩
    · obtain ⟨hholds, hitems⟩ := (eq_requestedTask_iff hrow hjoin).mp hsame
      have hwritten : Written source userId db' db' stored.id row :=
        written_of_row (f := id) h hstored hrow (hlinkedOf hmatch) ⟨rfl, rfl, rfl, rfl, rfl⟩ rfl
          fun r => by simp
      exact ⟨row, hwritten, hholds, .inl ⟨hitems, rfl, existing, rfl⟩⟩
    · have hrowUser : row.userId = request.userId := by
        obtain ⟨source, -, rfl⟩ := joinTask_eq_some hjoin
        exact huser
      have hexisting : existing.id = row.id := by
        obtain ⟨source, -, rfl⟩ := joinTask_eq_some hjoin
        rfl
      have hwritten : Written source userId db (applyUpdate db existing.id request hparent)
          stored.id (updateRow request row) :=
        written_of_row (f := updateRow request) h hstored hrow (hlinkedOf hmatch)
          ⟨rfl, rfl, rfl, rfl, rfl⟩ rfl fun r => by
            rw [← hexisting]
            exact Table.mem_update (e := updateRow_id request)
      exact ⟨updateRow request row, hwritten, holds_updateRow request hrowUser,
        .inr (.inl ⟨updateRow_updateRow, row, hrow, hlinkedOf hmatch, rfl, existing, hjoin, rfl⟩)⟩
  | none =>
    have hnone := findExistingTask_eq_none hfound
    have hnoTask : ∀ row ∈ db.tasks.rows, ¬ Linked stored.id row := fun row hrow hlinked => by
      have hmatch := taskMatches_of_own h hstored hid hkind hrequest hrow (hid ▸ hlinked)
      rw [hnone row hrow] at hmatch
      cases hmatch
    obtain ⟨tasks, hinsert, hrow, rfl, rfl⟩ := createOrUpdateTask_new hfound hok
    exact ⟨insertRow request, written_of_insert hstored hid hrequest hnoTask rfl
      (Table.insert?_eq_some.mp hinsert).2, holds_insertRow request,
      .inr (.inr ⟨updateRow_insertRow, rfl, rfl⟩)⟩

end Rows

section Calls
open PeerService
variable {first next call : Call}

/-- A call that never answers that the item is not found. -/
def Finds (call : Call) : Prop := ∀ u v message, call u ≠ (v, .error (.itemNotFound message))

theorem finds_ok : Finds Call.ok := fun _ _ _ h => by cases h

theorem Finds.andThen (hfirst : Finds first) (hnext : Finds next) : Finds (first.andThen next) := by
  intro u v message h
  unfold Call.andThen at h
  split at h
  · exact hnext _ _ _ h
  · next hfailed =>
    cases h
    exact hfirst _ _ _ hfailed

theorem finds_ignoreNotFound : Finds call.ignoreNotFound := by
  intro u v message h
  unfold Call.ignoreNotFound at h
  split at h
  · cases h
  · next hother => exact hother _ _ h

theorem finds_call {answer : CallAnswer} {effect : TaskFields → TaskFields}
    (h : ∀ executed message, answer ≠ .failed executed (.itemNotFound message)) :
    Finds (answer.call effect) := by
  intro u v message hcall
  unfold CallAnswer.call at hcall
  split at hcall
  · cases hcall
  · next executed error =>
    cases hcall
    exact h executed message rfl

theorem finds_slackCall {answers : SlackAnswers} {answer : CallAnswer}
    {effect : TaskFields → TaskFields}
    (h : ∀ executed message, answer ≠ .failed executed (.itemNotFound message)) :
    Finds (answers.call answer effect) := by
  unfold SlackAnswers.call
  split
  · exact finds_call h
  · exact finds_ok

theorem finds_completionCall {answers : SlackAnswers} (h : ∀ executed message,
    answers.completionReaction ≠ some (.failed executed (.itemNotFound message))) :
    Finds answers.completionCall := by
  unfold SlackAnswers.completionCall
  split
  · next answer hanswer =>
    exact finds_slackCall fun executed message hfailed =>
      h executed message (by rw [hanswer, hfailed])
  · exact finds_ok

/-- The source item of a task that is not of a task manager is always found. -/
theorem finds_source (answers : Answers) (isTesting : Bool) (patch : TaskPatch)
    {kind : ThirdPartyItemKind} {taskKind : TaskSourceKind}
    (hkind : taskSourceKind kind = some taskKind) (hmanager : isTaskManager taskKind = false) :
    Finds (applyTaskThirdPartyItemSideEffect isTesting patch kind answers.peer) := by
  have hreaction : Finds (answers.peer.slack.call answers.peer.slack.reaction
      fun u => { u with status := .done }) :=
    finds_slackCall fun executed message => (answers.slack_found executed message).1
  have hunreaction : Finds (answers.peer.slack.call answers.peer.slack.reaction
      fun u => { u with status := .active }) :=
    finds_slackCall fun executed message => (answers.slack_found executed message).1
  have hcompletion := finds_completionCall fun executed message =>
    (answers.slack_found executed message).2
  unfold applyTaskThirdPartyItemSideEffect
  split
  · exact finds_ok
  · cases kind with
    | todoistItem | tickTickItem =>
      cases hkind
      cases hmanager
    | linearIssue =>
      refine Finds.andThen ?_ finds_ok
      cases patch.status with
      | none => exact finds_ok
      | some status =>
        cases status with
        | active | done => exact finds_call answers.linear_found
        | deleted => exact finds_ignoreNotFound
    | slackReaction =>
      refine Finds.andThen ?_ finds_ok
      cases patch.status with
      | none => exact finds_ok
      | some status =>
        cases status with
        | active => exact hcompletion.andThen hunreaction
        | done => exact hreaction.andThen hcompletion
        | deleted => exact finds_ignoreNotFound
    | slackThread | linearNotification | githubNotification | googleMailThread
    | googleCalendarEvent | googleDriveComment | webPage => cases hkind

end Calls

section Settle
variable {source : FullTaskSource} {userId : UserId} {s mid t : State} {x : SyncedItem}
  {stored : ThirdPartyItemRow} {request : CreateOrUpdateTaskRequest} {written : TaskRow}
  {id : ThirdPartyItemId} {task : Task}

/-- The sink that a written task gets. -/
theorem Written.sink {item : ThirdPartyItem} (h : Written source userId s.db mid.db id written)
    (hsink : SinkCreated mid t task item) (hid : task.id = written.id)
    (huser : task.userId = written.userId) (hsource : written.sourceItemId = id)
    (hkind : item.kind ≠ source.itemKind) :
    Written source userId s.db t.db id (linkSink item.id written) := by
  refine ⟨fun other hother => ?_, fun other hother => ?_, fun r => ?_, .inl hsource, h.keeps,
    fun other hother hl => ?_, h.user, h.source⟩
  · rcases (hsink.items other).mp hother with hmem | rfl
    · exact h.items other hmem
    · exact .inr hkind
  · exact (hsink.items other).mpr (.inl (h.kept other hother))
  · rw [hsink.tasks]
    constructor
    · rintro ⟨old, hold, rfl⟩
      split
      · next hset =>
        simp only [Bool.and_eq_true, beq_iff_eq] at hset
        exact .inl (by rw [Table.eq_of_key hold h.mem (hset.1.trans hid)])
      · next hset =>
        refine ((h.tasks old).mp hold).imp_left fun hsame => absurd ?_ hset
        simp [hsame, hid, huser]
    · rintro (rfl | ⟨hold, hne⟩)
      · exact ⟨written, h.mem, by simp [hid, huser]⟩
      · have hmem := (h.tasks r).mpr (.inr ⟨hold, hne⟩)
        refine ⟨r, hmem, if_neg fun hset => hne ?_⟩
        simp only [Bool.and_eq_true, beq_iff_eq] at hset
        rw [Table.eq_of_key hmem h.mem (hset.1.trans hid)]
        exact h.linked
  · rcases hl with hl | hl
    · exact h.other other hother (.inl hl)
    · have hfresh := hsink.fresh
      rw [Option.some.inj hl, Table.find?_eq_some.mpr
        ⟨h.kept other (mem_ownItems.mp hother).1, rfl⟩] at hfresh
      cases hfresh

/-- What is created for a task of the source is never an item of the source. -/
theorem sinkKind_ne {kind : ThirdPartyItemKind} (hmanager : isTaskManager source.getTaskSourceKind = false)
    (hkind : kind = .todoistItem ∨ kind = .tickTickItem) : kind ≠ source.itemKind := by
  cases source with
  | tickTick => cases hmanager
  | linear =>
    rintro rfl
    rcases hkind with hkind | hkind <;> cases hkind

/-- A written row that is not settled yet gets a sink, and is. -/
theorem settled_of_sink {overwrite : Bool} {provider : IntegrationProviderKind}
    {answers : SinkAnswers} (h : Written source userId s.db mid.db id written)
    (hholds : Holds request written) (hupdate : updateRow request written = written)
    (hid : task.id = written.id) (huser : task.userId = written.userId)
    (hsource : written.sourceItemId = id) (hkind : written.kind = source.getTaskSourceKind)
    (hmanager : isTaskManager written.kind = false)
    (hsink : task.sinkItem.isSome = true → written.sinkItemId.isSome = true)
    (hok : createSinkItemFromTask mid task overwrite provider answers = some (t, .ok ())) :
    ∃ written, Written source userId s.db t.db id written ∧ SettledBy request written := by
  rcases createSinkItemFromTask_cases hok with ⟨rfl, -, hsome⟩ | ⟨-, item, hitem, hcreated⟩
  · exact ⟨written, h, hholds, .inr ⟨hupdate, .inl (hsink (hsome rfl))⟩⟩
  · have hother := sinkKind_ne (hkind ▸ hmanager) hitem
    exact ⟨linkSink item.id written, h.sink hcreated hid huser hsource hother,
      holds_linkSink item.id hholds, .inr ⟨updateRow_linkSink item.id hupdate, .inl rfl⟩⟩

/-- A successful call for the other item leaves the database, or the item is not found and replaced
by a new sink. -/
theorem updatePeer_ok {isTesting : Bool} {newTask oldTask : Task} {peer : ThirdPartyItem}
    {kind : IntegrationProviderKind}
    (h : updatePeer isTesting s newTask oldTask peer kind x = some (t, .ok ())) :
    t.db = s.db ∨
      (isTaskManager newTask.kind = false ∧ ¬ Finds (PeerService.applyTaskThirdPartyItemSideEffect
        isTesting (PeerService.taskPatch newTask oldTask) peer.kind x.peer) ∧
        ∃ upstream, createSinkItemFromTask { s with upstream } newTask true kind x.sink =
          some (t, .ok ())) := by
  unfold updatePeer at h
  split at h
  next u result hcall =>
  split at h
  · next message =>
    split at h
    · cases h
    · next hmanager =>
      refine .inr ⟨Bool.eq_false_iff.mpr hmanager, fun hfinds => hfinds _ _ _ hcall, _, h⟩
  · cases h
    exact .inl rfl

/-- The side effect of a task that was updated. -/
theorem settled_of_updated {isTesting : Bool} {newTask oldTask : Task}
    {kind : IntegrationProviderKind} (answers : Answers) (hpeer : x.peer = answers.peer)
    (h : Written source userId s.db mid.db x.item.id written)
    (hlinked : WellLinked source userId mid.db) (hstored : stored ∈ ownItems source userId mid.db)
    (hid : stored.id = x.item.id) (hholds : Holds request written)
    (hupdate : updateRow request written = written) (hjoined : Joined mid.db written newTask)
    (hok : applySyncedTaskSideEffect isTesting mid x (.updated newTask oldTask) kind =
      some (t, .ok ())) :
    ∃ written, Written source userId s.db t.db x.item.id written ∧ SettledBy request written := by
  obtain ⟨sourceItem, hsourceMem, hsourceId, hsourceItem⟩ := hjoined.source
  have hkind : written.sourceItemId = x.item.id → written.kind = source.getTaskSourceKind :=
    fun hsource => hlinked.kind_of_source hstored h.mem (hsource.trans hid.symm)
  unfold applySyncedTaskSideEffect at hok
  rcases hjoined.sink with ⟨hnoSink, hnoSinkItem⟩ | ⟨sink, hsink, hsinkId, hsinkItem⟩
  · have hsource : written.sourceItemId = x.item.id :=
      h.linked.resolve_right (by rw [hnoSink]; exact nofun)
    simp only [hnoSinkItem] at hok
    split at hok
    · next hmanager =>
      cases hok
      rw [hjoined.kind] at hmanager
      exact ⟨written, h, hholds, .inr ⟨hupdate, .inr hmanager⟩⟩
    · next hmanager =>
      rw [hjoined.kind] at hmanager
      refine settled_of_sink h hholds hupdate hjoined.id hjoined.userId hsource (hkind hsource)
        (Bool.eq_false_iff.mpr hmanager) (fun hsome => ?_) hok
      rw [hnoSinkItem] at hsome
      cases hsome
  · have hsome : written.sinkItemId.isSome = true := by rw [hsinkId]; rfl
    have hsettled : SettledBy request written := ⟨hholds, .inr ⟨hupdate, .inl hsome⟩⟩
    simp only [hsinkItem, hsourceItem] at hok
    split at hok
    · cases hok
      exact ⟨written, h, hsettled⟩
    · split at hok
      · next hsynced =>
        rcases updatePeer_ok hok with hsame | ⟨hmanager, -, upstream, hcreate⟩
        · exact ⟨written, hsame ▸ h, hsettled⟩
        · have hsource : written.sourceItemId = x.item.id :=
            hsourceId.symm.trans (beq_iff_eq.mp hsynced)
          rw [hjoined.kind] at hmanager
          exact @settled_of_sink source userId s { mid with upstream } t request written x.item.id
            newTask true kind x.sink h hholds hupdate hjoined.id hjoined.userId hsource
            (hkind hsource) hmanager (fun _ => hsome) hcreate
      · split at hok
        · rcases updatePeer_ok hok with hsame | ⟨hmanager, hfinds, -⟩
          · exact ⟨written, hsame ▸ h, hsettled⟩
          · -- only Todoist does not find an item, and the source item is not one of Todoist
            obtain ⟨item, hitem, hitemId, -, hitemKind⟩ := hlinked.source written h.mem
            rw [Table.eq_of_key hitem hsourceMem (hitemId.trans hsourceId.symm)] at hitemKind
            rw [hjoined.kind] at hmanager
            rw [hpeer] at hfinds
            exact absurd (finds_source answers isTesting _ hitemKind hmanager) hfinds
        · cases hok

/-- What a successful sync of one item leaves: a row of the item that is settled. -/
theorem createTaskFromThirdPartyItem_settled {scan : (db : Database) → TaskScan db}
    {isTesting : Bool} (answers : Answers) (hpeer : x.peer = answers.peer)
    (hlinked : WellLinked source userId s.db) (hstored : stored ∈ ownItems source userId s.db)
    (hid : stored.id = x.item.id) (hkind : x.item.kind = source.itemKind)
    (hrequest : ∀ request, x.request = .ok request → RequestOf source userId x.item request)
    (hok : createTaskFromThirdPartyItem scan userId isTesting s x = some (t, .ok ())) :
    ∃ request, x.request = .ok request ∧ ∃ written,
      Written source userId s.db t.db x.item.id written ∧ SettledBy request written := by
  unfold createTaskFromThirdPartyItem syncThirdPartyItemAsTask at hok
  split at hok
  · cases hok
  · split at hok
    · cases hok
    · next request hconvert =>
      refine ⟨request, hconvert, ?_⟩
      have hof := hrequest request hconvert
      split at hok
      · cases hok
      · next db upsertTask hupsert =>
        obtain ⟨written, hwritten, hholds, hcases⟩ :=
          createOrUpdateTask_written hlinked hstored hid hkind hof hupsert
        rw [hid] at hwritten
        have heffect : ∃ s', applySyncedTaskSideEffect isTesting
            { s with db, edited := s.edited.filter (· ≠ x.item.id) } x upsertTask
            (resolveSinkProviderKind x.sinkProviderKindHint x.defaultTaskManagerProviderKind) =
              some (s', .ok ()) ∧ s'.db = t.db := by
          split at hok
          · next s' heffect =>
            obtain ⟨rfl, -⟩ := Prod.mk.inj (Option.some.inj hok)
            exact ⟨s', heffect, rfl⟩
          · next hother => exact absurd hok (hother t)
        obtain ⟨s', heffect, hdb⟩ := heffect
        rw [← hdb]
        rcases hcases with ⟨hitems, rfl, task, rfl⟩ |
          ⟨hupdate, row, hrow, -, rfl, oldTask, hjoin, rfl⟩ | ⟨hupdate, rfl, rfl⟩
        · cases heffect
          exact ⟨written, hwritten, hholds, .inl hitems⟩
        · have hjoined : Joined db (updateRow request row) (updatedTask request oldTask) :=
            @joined_updatedTask s db request row oldTask (joined_of_joinTask hrow hjoin)
              (createOrUpdateTask_upserted hupsert).items
              (hwritten.user.trans hof.user.symm)
          have hmid : Written source userId s.db
              ({ s with db, edited := s.edited.filter (· ≠ x.item.id) } : State).db x.item.id
              (updateRow request row) := hwritten
          exact settled_of_updated answers hpeer hmid
            (hwritten.wellLinked hlinked) (hwritten.ownItems_iff.mpr hstored) hid hholds hupdate
            hjoined heffect
        · unfold applySyncedTaskSideEffect at heffect
          dsimp only at heffect
          have hrow : (insertRow request).kind = source.getTaskSourceKind := hof.kind
          split at heffect
          · next hmanager =>
            cases heffect
            exact ⟨insertRow request, hwritten, hholds, .inr ⟨hupdate, .inr hmanager⟩⟩
          · next hmanager =>
            exact @settled_of_sink source userId s
              { s with db, edited := s.edited.filter (· ≠ x.item.id) } s' request
              (insertRow request) x.item.id request.intoTask false _ x.sink hwritten hholds hupdate
              rfl rfl (by rw [← hof.sourceItem]; rfl) hrow (Bool.eq_false_iff.mpr hmanager)
              (fun hsome => by
                show (request.sinkItem.map (·.id)).isSome = true
                rwa [Option.isSome_map]) heffect

/-- An update that writes what is there. -/
theorem applyUpdate_self {db : Database} {row : TaskRow} {hparent : ParentKnown db request}
    (hrow : row ∈ db.tasks.rows) (h : updateRow request row = row) :
    applyUpdate db row.id request hparent = db := by
  have htasks : db.tasks.update (·.id == row.id) (updateRow request) (updateRow_id request) =
      db.tasks := by
    have hrows : (db.tasks.rows.map fun r =>
        if (r.id == row.id) = true then updateRow request r else r) = db.tasks.rows := by
      refine (List.map_congr_left fun r hr => ?_).trans (List.map_id _)
      split
      · next hid => rw [Table.eq_of_key hr hrow (beq_iff_eq.mp hid), h, id]
      · rfl
    unfold Table.update
    simp only [hrows]
  unfold applyUpdate
  cases db
  simp only [Database.mk.injEq, true_and, and_true]
  exact htasks

/-- Nothing is asked for, and nothing is done. -/
theorem nothingToPatch {isTesting : Bool} {newTask oldTask : Task}
    (h : PeerService.fieldsOf newTask = PeerService.fieldsOf oldTask) (kind : ThirdPartyItemKind)
    (answers : PeerService.PeerAnswers) (u : PeerService.TaskFields) :
    ∃ result, PeerService.applyTaskThirdPartyItemSideEffect isTesting
      (PeerService.taskPatch newTask oldTask) kind answers u = (u, result) ∧
        ∀ message, result ≠ .error (.itemNotFound message) := by
  have hpatch : PeerService.taskPatch newTask oldTask = ⟨none, none, none, none, none, none, none⟩ := by
    simp only [PeerService.fieldsOf, PeerService.TaskFields.mk.injEq] at h
    simp [PeerService.taskPatch, h]
  rw [hpatch]
  unfold PeerService.applyTaskThirdPartyItemSideEffect
  split
  · exact ⟨_, rfl, fun _ hfound => by cases hfound⟩
  · cases kind with
    | todoistItem =>
      show ∃ result, (PeerService.todoistService answers.todoist).updateTask _ u = _ ∧ _
      unfold PeerService.todoistService
      dsimp only
      split <;> exact ⟨_, rfl, fun _ hfound => by cases hfound⟩
    | tickTickItem | linearIssue | slackReaction | slackThread | linearNotification
    | githubNotification | googleMailThread | googleCalendarEvent | googleDriveComment | webPage =>
      exact ⟨_, rfl, fun _ hfound => by cases hfound⟩

theorem updatePeer_again {isTesting : Bool} {newTask oldTask : Task} {peer : ThirdPartyItem}
    {kind : IntegrationProviderKind} {result : Except UniversalInboxError Unit}
    (hfields : PeerService.fieldsOf newTask = PeerService.fieldsOf oldTask)
    (h : updatePeer isTesting s newTask oldTask peer kind x = some (t, result)) :
    t.db = s.db ∧ t.upstream = s.upstream := by
  obtain ⟨answer, hcall, hfound⟩ :=
    @nothingToPatch isTesting newTask oldTask hfields peer.kind x.peer (s.upstream peer.id)
  unfold updatePeer at h
  rw [hcall] at h
  dsimp only at h
  split at h
  · next message => exact absurd rfl (hfound message)
  · cases h
    exact ⟨rfl, Function.update_eq_self _ _⟩

/-- The side effect of an update that changed nothing. -/
theorem sideEffect_again {isTesting : Bool} {newTask oldTask : Task}
    {kind : IntegrationProviderKind} {result : Except UniversalInboxError Unit}
    (hfields : PeerService.fieldsOf newTask = PeerService.fieldsOf oldTask)
    (hsink : newTask.sinkItem.isSome = true ∨ isTaskManager newTask.kind = true)
    (h : applySyncedTaskSideEffect isTesting s x (.updated newTask oldTask) kind =
      some (t, result)) : t.db = s.db ∧ t.upstream = s.upstream := by
  unfold applySyncedTaskSideEffect at h
  dsimp only at h
  split at h
  · next hnone =>
    have hmanager : isTaskManager newTask.kind = true :=
      hsink.resolve_left (by rw [hnone]; exact Bool.false_ne_true)
    unfold isTaskManager at hmanager
    rw [if_pos hmanager] at h
    cases h
    exact ⟨rfl, rfl⟩
  · split at h
    · cases h
      exact ⟨rfl, rfl⟩
    · split at h
      · exact updatePeer_again hfields h
      · split at h
        · exact updatePeer_again hfields h
        · cases h
          exact ⟨rfl, rfl⟩

/-- The task of an item, found by a request for it. -/
theorem findExistingTask_own {db : Database} {scan : TaskScan db} {item : ThirdPartyItem}
    {row : TaskRow} (hlinked : WellLinked source userId db)
    (hstored : stored ∈ ownItems source userId db) (hid : stored.id = item.id)
    (hkind : item.kind = source.itemKind) (hrequest : RequestOf source userId item request)
    (hrow : row ∈ db.tasks.rows) (hl : Linked item.id row) :
    ∃ existing, findExistingTask db scan request = some existing ∧ db.joinTask row = some existing := by
  cases hfound : findExistingTask db scan request with
  | none =>
    have hnone := findExistingTask_eq_none hfound row hrow
    rw [taskMatches_of_own hlinked hstored hid hkind hrequest hrow hl] at hnone
    cases hnone
  | some existing =>
    obtain ⟨found, hfoundRow, hmatch, hjoin⟩ := findExistingTask_row hfound
    have hfoundLinked := linked_of_taskMatches hmatch
    rw [hrequest.sourceItem, ← hid] at hfoundLinked
    rw [hlinked.oneTask stored hstored row hrow found hfoundRow (hid ▸ hl) hfoundLinked]
    exact ⟨existing, rfl, hjoin⟩

/-- Once its task is settled, the sync of an item changes no row and nothing at a provider, however
it ends. -/
theorem createTaskFromThirdPartyItem_again {scan : (db : Database) → TaskScan db}
    {isTesting : Bool} {row : TaskRow} {result : Except UniversalInboxError Unit}
    (hlinked : WellLinked source userId s.db) (hstored : stored ∈ ownItems source userId s.db)
    (hid : stored.id = x.item.id) (hkind : x.item.kind = source.itemKind)
    (hrequest : ∀ request, x.request = .ok request → RequestOf source userId x.item request)
    (hrow : row ∈ s.db.tasks.rows) (hl : Linked x.item.id row)
    (hsettled : ∀ request, x.request = .ok request → SettledBy request row)
    (h : createTaskFromThirdPartyItem scan userId isTesting s x = some (t, result)) :
    t.db = s.db ∧ t.upstream = s.upstream := by
  unfold createTaskFromThirdPartyItem syncThirdPartyItemAsTask at h
  split at h
  · cases h
    exact ⟨rfl, rfl⟩
  · split at h
    · cases h
      exact ⟨rfl, rfl⟩
    · next request hconvert =>
      have hof := hrequest request hconvert
      obtain ⟨hholds, hsettled⟩ := hsettled request hconvert
      obtain ⟨existing, hfound, hjoin⟩ : ∃ existing,
          findExistingTask s.db (scan s.db) request = some existing ∧
            s.db.joinTask row = some existing :=
        findExistingTask_own hlinked hstored hid hkind hof hrow hl
      have heffect : ∀ db upsertTask,
          createOrUpdateTask s.db (scan s.db) request = .ok (db, upsertTask) → db = s.db ∧
            ∀ mid s' kind outcome, applySyncedTaskSideEffect isTesting mid x upsertTask kind =
              some (s', outcome) → s'.db = mid.db ∧ s'.upstream = mid.upstream := by
        intro db upsertTask hupsert
        have huntouched : ∀ task mid s' kind outcome,
            applySyncedTaskSideEffect isTesting mid x (.untouched task) kind = some (s', outcome) →
              s'.db = mid.db ∧ s'.upstream = mid.upstream := by
          intro task mid s' kind outcome heffect
          cases heffect
          exact ⟨rfl, rfl⟩
        rcases createOrUpdateTask_cases hfound hupsert with ⟨rfl, rfl, -⟩ | ⟨hparent, rfl, rfl⟩
        · exact ⟨rfl, huntouched existing⟩
        · rcases hsettled with hsame | ⟨hupdate, hsink⟩
          · have heq := (eq_requestedTask_iff hrow hjoin).mpr ⟨hholds, hsame⟩
            rw [createOrUpdateTask_of_eq hfound heq] at hupsert
            cases congrArg Prod.snd (Except.ok.inj hupsert)
          · have hold : Joined s.db row existing := joined_of_joinTask hrow hjoin
            have hnew := @joined_updatedTask s s.db request row existing hold rfl hholds.userId
            rw [hupdate] at hnew
            have hself : applyUpdate s.db existing.id request hparent = s.db := by
              simp only [hold.id]
              exact applyUpdate_self hrow hupdate
            refine ⟨hself, fun mid s' kind outcome heffect => ?_⟩
            refine sideEffect_again (hnew.fields.trans hold.fields.symm) ?_ heffect
            rw [hnew.kind]
            refine hsink.imp_left fun hsome => ?_
            rcases hnew.sink with ⟨hnone, -⟩ | ⟨sink, -, -, hsink⟩
            · rw [hnone] at hsome
              cases hsome
            · rw [hsink]
              rfl
      split at h
      · cases h
      · next db upsertTask hupsert =>
        obtain ⟨rfl, hkeeps⟩ := heffect db upsertTask hupsert
        split at h
        · next s' hside =>
          obtain ⟨rfl, -⟩ := Prod.mk.inj (Option.some.inj h)
          exact @hkeeps { s with edited := s.edited.filter (· ≠ x.item.id) } _ _ _ hside
        · exact @hkeeps { s with edited := s.edited.filter (· ≠ x.item.id) } _ _ _ h

end Settle

end UniversalInbox.FullTaskSync
