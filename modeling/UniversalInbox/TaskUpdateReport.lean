import Mathlib.Data.List.ReduceOption
import UniversalInbox.TaskPatching
import UniversalInbox.TaskUpsert

/-! What `update_task` reports of a patch: its flag is a disjunction in SQL, one comparison for each
column the patch names, and a comparison with null is neither true nor false. -/
namespace UniversalInbox.TaskUpdateReport
open TaskPatching PeerService

section ThreeValued
variable {a b c : Option Bool}

theorem orNull_false (a : Option Bool) : orNull a (some false) = a := by
  cases a with
  | none => rfl
  | some x => cases x <;> rfl

theorem orNull_assoc : orNull (orNull a b) c = orNull a (orNull b c) := by
  rcases a with _ | _ | _ <;> rcases b with _ | _ | _ <;> rcases c with _ | _ | _ <;> rfl

theorem orNull_comm : orNull a b = orNull b a := by
  rcases a with _ | _ | _ <;> rcases b with _ | _ | _ <;> rfl

/-- A disjunct that may be null can be left for the end. -/
theorem orNull_last (x y : Bool) : orNull (orNull (some x) a) (some y) = orNull (some (x || y)) a := by
  rw [orNull_assoc, orNull_comm (a := a), ← orNull_assoc, orNull_some]

/-- A true disjunct hides a null one. -/
theorem orNull_eq_some_iff {x : Bool} {d : Option Bool} {y : Bool} :
    orNull (some x) d = some y ↔ x = true ∧ y = true ∨ x = false ∧ d = some y := by
  rcases d with _ | _ | _ <;> cases x <;> cases y <;> simp [orNull]

/-- A column the patch does not name compares as if it were equal. -/
theorem foldl_orNull_reduceOption (terms : List (Option (Option Bool))) (acc : Option Bool) :
    terms.reduceOption.foldl orNull acc =
      (terms.map (·.getD (some false))).foldl orNull acc := by
  induction terms generalizing acc with
  | nil => rfl
  | cons term rest ih =>
    cases term with
    | none => simpa [List.reduceOption_cons_of_none, orNull_false] using ih acc
    | some value => simpa [List.reduceOption_cons_of_some] using ih (orNull acc value)

end ThreeValued

/-- The columns a patch can name. -/
inductive Column where
  | status
  | project
  | dueAt
  | priority
  | body
  | title
  | sinkItem
deriving DecidableEq, Repr

inductive ColumnValue where
  | status (status : TaskStatus)
  | text (text : String)
  | dueAt (dueAt : Option DueDate)
  | priority (priority : TaskPriority)
  | item (id : Option ThirdPartyItemId)
deriving DecidableEq, Repr

def Column.stored (row : TaskRow) : Column → ColumnValue
  | .status => .status row.status
  | .project => .text row.project
  | .dueAt => .dueAt row.dueAt
  | .priority => .priority row.priority
  | .body => .text row.body
  | .title => .text row.title
  | .sinkItem => .item row.sinkItemId

def Column.patched (patch : TaskPatch) : Column → Option ColumnValue
  | .status => patch.status.map .status
  | .project => patch.projectName.map .text
  | .dueAt => patch.dueAt.map .dueAt
  | .priority => patch.priority.map .priority
  | .body => patch.body.map .text
  | .title => patch.title.map .text
  | .sinkItem => patch.sinkItemId.map fun id => .item (some id)

/-- The patch names the column with a value other than the stored one. -/
def Column.Changes (patch : TaskPatch) (row : TaskRow) (column : Column) : Prop :=
  ∃ value ∈ column.patched patch, value ≠ column.stored row

instance (patch : TaskPatch) (row : TaskRow) (column : Column) :
    Decidable (column.Changes patch row) :=
  decidable_of_iff (((column.patched patch).any (· ≠ column.stored row)) = true) (by
    simp [Column.Changes, Option.any_eq_true])

/-- Some column other than the due date changes. -/
def othersChange (patch : TaskPatch) (row : TaskRow) : Bool :=
  patch.status.any (row.status != ·) || patch.projectName.any (row.project != ·) ||
    patch.sinkItemId.any (row.sinkItemId != some ·) || patch.priority.any (row.priority != ·) ||
    patch.body.any (row.body != ·) || patch.title.any (row.title != ·)

/-- The flag, with the due date apart. -/
theorem isUpdated_eq (patch : TaskPatch) (row : TaskRow) :
    isUpdated patch row = orNull (some (othersChange patch row))
      ((patch.dueAt.map (dueAtDiffers row.dueAt)).getD (some false)) := by
  have hterm {α : Type} (o : Option α) (differs : α → Bool) :
      (o.map fun x => some (differs x)).getD (some false) = some (o.any differs) := by
    cases o <;> rfl
  rw [isUpdated, foldl_orNull_reduceOption]
  simp only [List.map_cons, List.map_nil, List.foldl_cons, List.foldl_nil, hterm,
    orNull_some, orNull_last, Bool.false_or]
  rfl

/-- The comparison of the due dates says what it should. The stored JSON is never a null of SQL;
its text is null where there is no due date, and a new due date is compared as it is displayed,
in whole seconds. -/
def DueAtDecided (patched : Option (Option DueDate)) (stored : Option DueDate) : Prop :=
  match patched, stored with
  | none, _ => True
  | some none, stored => stored.isSome = true
  | some (some _), none => False
  | some (some due), some stored => displayed due = due ∨ stored ≠ due ∧ stored ≠ displayed due

/-- Another column changes, or the due dates are compared as they should be. -/
def Comparable (patch : TaskPatch) (row : TaskRow) : Prop :=
  othersChange patch row = true ∨ DueAtDecided patch.dueAt row.dueAt

/-- The columns no patch can name, the completion apart. -/
def unpatched (row : TaskRow) :=
  (row.id, row.tags, row.parentId, row.isRecurring, row.createdAt, row.updatedAt, row.kind,
    row.sourceItemId, row.userId)

/-- Each column the patch names has its value and the others are as they were. The time of the
completion goes with a status `Done`. -/
structure WritesExactly (now : DateTime) (patch : TaskPatch) (row : TaskRow) (db db' : Database) :
    Prop where
  written : ∃ row', db'.tasks.find? row.id = some row' ∧
    (∀ column : Column, column.stored row' = (column.patched patch).getD (column.stored row)) ∧
    row'.completedAt = (if patch.status = some .done then some (pgTimestamp now)
      else row.completedAt) ∧
    unpatched row' = unpatched row
  otherTasks : ∀ id, id ≠ row.id → db'.tasks.find? id = db.tasks.find? id
  items : db'.thirdPartyItems = db.thirdPartyItems
  notifications : db'.notifications = db.notifications

/-- The update succeeds on the row of its owner, writes the columns the patch names, and reports a
change exactly when one of them has another value than the stored one. -/
def ReportsExactly (now : DateTime) (db : Database) (row : TaskRow) (patch : TaskPatch) : Prop :=
  ∃ db' updated task,
    updateTask now row.id patch row.userId db = some (db', .ok ⟨updated, some task⟩) ∧
      WritesExactly now patch row db db' ∧
      (updated = true ↔ ∃ column : Column, column.Changes patch row)

section Report
variable {now : DateTime} {db : Database} {row : TaskRow} {patch : TaskPatch}

theorem any_bne_iff {α : Type} [DecidableEq α] {patched : Option α} {stored : α}
    {wrap : α → ColumnValue} (hwrap : ∀ x y, wrap x = wrap y ↔ x = y) :
    patched.any (stored != ·) = true ↔ ∃ value ∈ patched.map wrap, value ≠ wrap stored := by
  cases patched with
  | none => simp
  | some x =>
    simp only [Option.any_some, bne_iff_ne, Option.map_some, Option.mem_some_iff,
      exists_eq_left', ne_eq, hwrap]
    exact not_congr eq_comm

theorem othersChange_iff :
    othersChange patch row = true ↔
      Column.status.Changes patch row ∨ Column.project.Changes patch row ∨
        Column.sinkItem.Changes patch row ∨ Column.priority.Changes patch row ∨
        Column.body.Changes patch row ∨ Column.title.Changes patch row := by
  have hsink : patch.sinkItemId.any (row.sinkItemId != some ·) = true ↔
      Column.sinkItem.Changes patch row := by
    cases hpatch : patch.sinkItemId with
    | none => simp [Column.Changes, Column.patched, hpatch]
    | some id =>
      simp only [Column.Changes, Column.patched, Column.stored, hpatch, Option.any_some,
        bne_iff_ne, Option.map_some, Option.mem_some_iff, exists_eq_left', ne_eq,
        ColumnValue.item.injEq]
      exact not_congr eq_comm
  simp only [othersChange, Bool.or_eq_true, or_assoc]
  refine or_congr (any_bne_iff fun _ _ => by simp) (or_congr (any_bne_iff fun _ _ => by simp)
    (or_congr hsink (or_congr (any_bne_iff fun _ _ => by simp)
      (or_congr (any_bne_iff fun _ _ => by simp) (any_bne_iff fun _ _ => by simp)))))

theorem changes_iff :
    (∃ column : Column, column.Changes patch row) ↔
      othersChange patch row = true ∨ Column.dueAt.Changes patch row := by
  rw [othersChange_iff]
  constructor
  · rintro ⟨column, hchanges⟩
    cases column <;> simp only [hchanges, true_or, or_true]
  · rintro ((h | h | h | h | h | h) | h) <;> exact ⟨_, h⟩

theorem dueAt_changes_iff :
    Column.dueAt.Changes patch row ↔ ∃ due ∈ patch.dueAt, due ≠ row.dueAt := by
  cases hpatch : patch.dueAt <;> simp [Column.Changes, Column.patched, Column.stored, hpatch]

theorem dueAt_reports_iff (patched : Option (Option DueDate)) (stored : Option DueDate) :
    (∃ updated, (patched.map (dueAtDiffers stored)).getD (some false) = some updated ∧
        (updated = true ↔ ∃ due ∈ patched, due ≠ stored)) ↔ DueAtDecided patched stored := by
  cases patched with
  | none => simp [DueAtDecided]
  | some due =>
    cases due with
    | none => cases stored <;> simp [DueAtDecided, dueAtDiffers]
    | some due =>
      cases stored with
      | none => simp [DueAtDecided, dueAtDiffers]
      | some stored =>
        simp only [DueAtDecided, dueAtDiffers, Option.map_some, Option.getD_some,
          Option.some.injEq, exists_eq_left', bne_iff_ne, Option.mem_some_iff, ne_eq]
        by_cases hwhole : displayed due = due
        · simp [hwhole, eq_comm]
        · by_cases hsame : stored = due
          · subst hsame
            simp [hwhole, Ne.symm hwhole]
          · simp [hwhole, hsame, Ne.symm hsame]

/-- The flag says whether a column changes exactly when the columns are comparable. -/
theorem isUpdated_reports_iff :
    (∃ updated, isUpdated patch row = some updated ∧
        (updated = true ↔ ∃ column : Column, column.Changes patch row)) ↔
      Comparable patch row := by
  rw [isUpdated_eq, changes_iff, Comparable]
  cases hothers : othersChange patch row with
  | true =>
    refine iff_of_true ⟨true, ?_, iff_of_true rfl (.inl rfl)⟩ (.inl rfl)
    exact orNull_eq_some_iff.mpr (.inl ⟨rfl, rfl⟩)
  | false =>
    rw [orNull_comm, orNull_false, dueAt_changes_iff]
    simpa only [Bool.false_eq_true, false_or] using dueAt_reports_iff patch.dueAt row.dueAt

theorem stored_updateTaskRow (column : Column) :
    column.stored (updateTaskRow now patch row) =
      (column.patched patch).getD (column.stored row) := by
  cases column with
  | sinkItem => cases h : patch.sinkItemId <;> simp [Column.stored, Column.patched, updateTaskRow, h]
  | status => cases h : patch.status <;> simp [Column.stored, Column.patched, updateTaskRow, h]
  | project => cases h : patch.projectName <;> simp [Column.stored, Column.patched, updateTaskRow, h]
  | dueAt => cases h : patch.dueAt <;> simp [Column.stored, Column.patched, updateTaskRow, h]
  | priority => cases h : patch.priority <;> simp [Column.stored, Column.patched, updateTaskRow, h]
  | body => cases h : patch.body <;> simp [Column.stored, Column.patched, updateTaskRow, h]
  | title => cases h : patch.title <;> simp [Column.stored, Column.patched, updateTaskRow, h]

theorem ownsTask_self : ownsTask row.id row.userId row = true := by
  simp [ownsTask]

theorem writesExactly_writeTask (hrow : row ∈ db.tasks.rows)
    (hsink : SinkAssignable db row.id row.userId patch) :
    WritesExactly now patch row db (writeTask db now row.id patch row.userId hsink) := by
  have hfind : db.tasks.find? row.id = some row := Table.find?_eq_some.mpr ⟨hrow, rfl⟩
  refine ⟨⟨updateTaskRow now patch row, ?_, stored_updateTaskRow, rfl, rfl⟩, ?_, rfl, rfl⟩
  · simp only [writeTask, Table.find?_update, hfind, Option.map_some, ownsTask_self, if_true]
  · intro id hid
    simp only [writeTask, Table.find?_update]
    cases hother : db.tasks.find? id with
    | none => rfl
    | some other =>
      have hunowned : ownsTask row.id row.userId other = false := by
        simp [ownsTask, (Table.find?_eq_some.mp hother).2, hid]
      simp [hunowned]

/-- For a patch that names a column, and a sink the constraints of the table allow, the update
reports what it changed exactly when the columns are comparable. -/
theorem reportsExactly_iff (hrow : row ∈ db.tasks.rows) (hpatch : isDefault patch = false)
    (hsink : SinkAssignable db row.id row.userId patch) :
    ReportsExactly now db row patch ↔ Comparable patch row := by
  have hfind : (db.tasks.find? row.id).filter (·.userId == row.userId) = some row := by
    rw [Table.find?_eq_some.mpr ⟨hrow, rfl⟩]
    simp [Option.filter]
  obtain ⟨source, hsource⟩ := Option.isSome_iff_exists.mp
    (Database.flatItem_isSome (db.task_source row hrow))
  have hreturning : ∃ task, returning db now patch row = some task := by
    rw [returning, hsource]
    exact ⟨_, rfl⟩
  obtain ⟨task, htask⟩ := hreturning
  have hanswer (flag : Option Bool) (hflag : isUpdated patch row = flag) :
      ∃ answer, updateTask now row.id patch row.userId db =
          some (writeTask db now row.id patch row.userId hsink, answer) ∧
        ∀ status, answer = .ok status ↔ flag.map (⟨·, some task⟩) = some status := by
    unfold updateTask
    rw [if_neg (by simp [hpatch]), dif_pos hsink, hfind]
    refine ⟨_, rfl, fun status => ?_⟩
    simp only [hflag, htask]
    cases flag <;> simp
  obtain ⟨answer, hrun, hok⟩ := hanswer _ rfl
  rw [← isUpdated_reports_iff, ReportsExactly, hrun]
  constructor
  · rintro ⟨db', updated, task', hsame, -, hreport⟩
    obtain ⟨flag, hflag, hstatus⟩ :=
      Option.map_eq_some_iff.mp ((hok _).mp (Prod.mk.inj (Option.some.inj hsame)).2)
    cases hstatus
    exact ⟨_, hflag, hreport⟩
  · rintro ⟨updated, hflag, hreport⟩
    refine ⟨_, updated, task, ?_, writesExactly_writeTask hrow hsink, hreport⟩
    rw [(hok ⟨updated, some task⟩).mpr (by rw [hflag, Option.map_some])]

end Report

/-- A new due date, and nothing else. -/
def planned (dueAt : Option DueDate) : TaskPatch :=
  { status := none, projectName := none, dueAt := some dueAt, priority := none, body := none,
    title := none, sinkItemId := none }

theorem reportsExactly_renamed :
    ReportsExactly 0 TaskUpsert.issueDatabase TaskUpsert.renamedTask
        { planned (some (.date 19000)) with title := some "Issue title" } ↔
      Comparable { planned (some (.date 19000)) with title := some "Issue title" }
        TaskUpsert.renamedTask :=
  reportsExactly_iff List.mem_cons_self (by decide) (by decide)

/-- A task without a due date: setting one cannot be reported, clearing it is reported as a
change. -/
theorem undated_misreported :
    ¬ ReportsExactly 0 TaskUpsert.issueDatabase TaskUpsert.renamedTask
        (planned (some (.date 19000))) ∧
      ¬ ReportsExactly 0 TaskUpsert.issueDatabase TaskUpsert.renamedTask (planned none) := by
  constructor
  · rintro ⟨db', updated, task, hrun, -, -⟩
    have hfails : (updateTask 0 TaskUpsert.renamedTask.id (planned (some (.date 19000)))
        TaskUpsert.renamedTask.userId TaskUpsert.issueDatabase).map (·.2.isOk) = some false := by
      decide
    rw [hrun] at hfails
    cases hfails
  · rintro ⟨db', updated, task, hrun, -, hreport⟩
    have hupdated : (updateTask 0 TaskUpsert.renamedTask.id (planned none)
        TaskUpsert.renamedTask.userId TaskUpsert.issueDatabase).map
          (fun r => r.2.toOption.map (·.updated)) = some (some true) := by
      decide
    rw [hrun] at hupdated
    cases hupdated
    obtain ⟨column, value, hvalue, hne⟩ := hreport.mp rfl
    cases column with
    | dueAt =>
      cases hvalue
      exact hne rfl
    | _ => cases hvalue

end UniversalInbox.TaskUpdateReport
