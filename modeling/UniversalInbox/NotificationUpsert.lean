import UniversalInbox.TaskUpsert
import UniversalInbox.Library.ReadCommitted
import UniversalInbox.Library.Transition

/-! `create_or_update_notification` called from concurrent transactions: a `SELECT` by source
item, kind and user, then an `UPDATE` by identifier or an `INSERT`. No index makes the three
columns unique. -/
namespace UniversalInbox.NotificationUpsert
open ReadCommitted Transition TaskUpsert

/-- Each source service gives its notifications the kind it asks for. -/
structure UpsertRequest where
  notification : Notification
  kind : NotificationSourceKind
  updateSnoozedUntil : Bool
  kind_eq : notification.kind = kind

/-- What is to be unique, by the claim of the upsert. -/
structure SourceKey where
  sourceItemId : ThirdPartyItemId
  kind : NotificationSourceKind
  userId : UserId
deriving DecidableEq, Repr

def sourceKey (row : NotificationRow) : SourceKey := ⟨row.sourceItemId, row.kind, row.userId⟩

/-- The `WHERE` clause of the `SELECT`. -/
def UpsertRequest.key (request : UpsertRequest) : SourceKey :=
  ⟨request.notification.sourceItem.id, request.kind, request.notification.userId⟩

def intoNotification (row : NotificationRow) (sourceItem : ThirdPartyItem) : Notification :=
  { id := row.id
    title := row.title
    status := row.status
    createdAt := row.createdAt
    updatedAt := row.updatedAt
    lastReadAt := row.lastReadAt
    snoozedUntil := row.snoozedUntil
    userId := row.userId
    taskId := row.taskId
    kind := row.kind
    sourceItem }

/-- The `SET` list of the `UPDATE`; neither the task nor the set-aside mark is in it. -/
def updateRow (request : UpsertRequest) (row : NotificationRow) : NotificationRow :=
  { row with
    title := request.notification.title
    status := request.notification.status
    updatedAt := pgTimestamp request.notification.updatedAt
    lastReadAt := request.notification.lastReadAt.map pgTimestamp
    snoozedUntil :=
      if request.updateSnoozedUntil then request.notification.snoozedUntil.map pgTimestamp
      else row.snoozedUntil }

/-- `set_aside_at` is not in the column list, so the row starts visible. -/
def insertRow (notification : Notification) : NotificationRow :=
  { id := notification.id
    title := notification.title
    status := notification.status
    createdAt := pgTimestamp notification.createdAt
    updatedAt := pgTimestamp notification.updatedAt
    lastReadAt := notification.lastReadAt.map pgTimestamp
    snoozedUntil := notification.snoozedUntil.map pgTimestamp
    setAsideAt := none
    userId := notification.userId
    taskId := notification.taskId
    kind := notification.kind
    sourceItemId := notification.sourceItem.id }

/-- The call once its `SELECT` has answered: the statement it still runs and what it returns. -/
def createOrUpdateNotification (existing : Option Notification) (request : UpsertRequest) :
    Option (Write NotificationRow) × UpsertStatus Notification :=
  match existing with
  | some existing =>
    if existing == request.notification then (none, .untouched existing)
    else
      (some (.update (fun row => row.id == existing.id) (updateRow request)),
        .updated
          { request.notification with
            id := existing.id
            kind := existing.kind
            createdAt := existing.createdAt
            sourceItem := existing.sourceItem
            userId := existing.userId
            taskId := existing.taskId
            snoozedUntil :=
              if request.updateSnoozedUntil then request.notification.snoozedUntil
              else existing.snoozedUntil }
          existing)
  | none =>
    (some (.insert (insertRow request.notification)), .created request.notification)

abbrev TransactionId := Nat

/-- A call between its two statements: the request, and the row its `SELECT` returned. -/
structure Call where
  request : UpsertRequest
  existing : Option Notification

abbrev State := Store TransactionId NotificationRow (Option Call)

/-- The statements of concurrent transactions. `existing` is the row that a `SELECT` reads
first, where several match; `other` is any other `UPDATE` of notifications: none of them writes
the identifier or the three columns. -/
inductive Statement where
  | begin (id : TransactionId)
  | select (id : TransactionId) (request : UpsertRequest) (existing : Option NotificationRow)
      (sourceItem : ThirdPartyItem)
  | write (id : TransactionId)
  | other (id : TransactionId) (p : NotificationRow → Bool) (f : NotificationRow → NotificationRow)
      (keepsId : ∀ row, (f row).id = row.id) (keepsKey : ∀ row, sourceKey (f row) = sourceKey row)
  | commit (id : TransactionId)
  | rollback (id : TransactionId)

/-- `existing` is an answer of the `SELECT` to the transaction. -/
def Answers (s : State) (session : Session TransactionId NotificationRow (Option Call))
    (key : SourceKey) : Option NotificationRow → Prop
  | some row => row ∈ s.visible session ∧ sourceKey row = key
  | none => ∀ row ∈ s.visible session, sourceKey row ≠ key

instance (s : State) (session : Session TransactionId NotificationRow (Option Call))
    (key : SourceKey) : ∀ existing, Decidable (Answers s session key existing)
  | some _ => inferInstanceAs (Decidable (_ ∧ _))
  | none => inferInstanceAs (Decidable (∀ _ ∈ _, _))

/-- The primary key of an inserted row is a fresh UUID; an update of a row another transaction
has written waits. -/
def executable (s : State) (id : TransactionId) : Option (Write NotificationRow) → Bool
  | none => true
  | some (.insert row) => !(s.claimedKeys NotificationRow.id).contains row.id
  | some (.update p f) => !s.blocked id (.update p f)

def step (s : State) : Statement → Option State
  | .begin id => s.begin id none
  | .select id request existing sourceItem =>
    (s.sessions.find? id).bind fun session =>
      if session.memory.isNone ∧ Answers s session request.key existing ∧
          existing.all (·.sourceItemId == sourceItem.id) then
        some (s.run id none (some ⟨request, existing.map (intoNotification · sourceItem)⟩))
      else none
  | .write id =>
    (s.sessions.find? id).bind fun session => session.memory.bind fun call =>
      let write := (createOrUpdateNotification call.existing call.request).1
      if executable s id write then some (s.run id write none) else none
  | .other id p f _ _ =>
    (s.sessions.find? id).bind fun session =>
      if session.memory.isNone ∧ !s.blocked id (.update p f) then
        some (s.run id (some (.update p f)) none)
      else none
  | .commit id =>
    (s.sessions.find? id).bind fun session =>
      if session.memory.isNone then some (s.commit session) else none
  | .rollback id => (s.sessions.find? id).map fun session => s.rollback session.id

def initial : State := ⟨[], Table.empty⟩

def OnePerSourceItem (s : State) : Prop := (s.committed.map sourceKey).Nodup

instance (s : State) : Decidable (OnePerSourceItem s) :=
  inferInstanceAs (Decidable (List.Nodup _))

/-- A call that inserts finds no row for its key that another transaction has inserted, be it
committed since the `SELECT` of the call or still uncommitted. -/
def UpsertGuard (s : State) : Statement → Prop
  | .write id => ∀ session ∈ s.sessions.rows, session.id = id → ∀ call ∈ session.memory,
      call.existing = none →
        (∀ row ∈ s.committed, sourceKey row ≠ call.request.key) ∧
          ∀ other ∈ s.sessions.rows, other.id ≠ id →
            call.request.key ∉ insertedKeys sourceKey other.writes
  | _ => True

instance (s : State) (i : Statement) : Decidable (UpsertGuard s i) :=
  match i with
  | .write _ => inferInstanceAs (Decidable (∀ _ ∈ _, _))
  | .begin _ | .select _ _ _ _ | .other _ _ _ _ _ | .commit _ | .rollback _ => .isTrue trivial

theorem sourceKey_insertRow (request : UpsertRequest) :
    sourceKey (insertRow request.notification) = request.key := by
  unfold sourceKey insertRow UpsertRequest.key
  rw [request.kind_eq]

theorem sourceKey_updateRow (request : UpsertRequest) (row : NotificationRow) :
    sourceKey (updateRow request row) = sourceKey row := rfl

/-- Distinct keys, and no call about to insert a row its own transaction has inserted. -/
structure Inv (s : State) : Prop where
  distinct : s.Distinct sourceKey
  unclaimed : ∀ session ∈ s.sessions.rows, ∀ call ∈ session.memory, call.existing = none →
    call.request.key ∉ insertedKeys sourceKey session.writes

section Run
variable {s t : State} {session : Session TransactionId NotificationRow (Option Call)}

/-- A statement of one transaction leaves the calls of the others alone. -/
theorem Inv.run (h : Inv s) (hsession : session ∈ s.sessions.rows)
    {write : Option (Write NotificationRow)} {memory : Option Call}
    (hkeeps : ∀ w ∈ write, w.Keeps sourceKey)
    (hfresh : ∀ w ∈ write, ∀ k ∈ w.insertedKey? sourceKey, k ∉ s.claimedKeys sourceKey)
    (hmemory : ∀ call ∈ memory, call.existing = none →
      call.request.key ∉ insertedKeys sourceKey (session.writes ++ write.toList)) :
    Inv (s.run session.id write memory) := by
  refine ⟨h.distinct.run hsession hkeeps hfresh, fun x hx call hcall hnone => ?_⟩
  rcases (Store.mem_run hsession).mp hx with rfl | ⟨hx, -⟩
  · exact hmemory call hcall hnone
  · exact h.unclaimed x hx call hcall hnone

theorem Inv.ended (h : Inv s) (ht : t.Distinct sourceKey)
    (hsessions : t.sessions = s.sessions.erase session.id) : Inv t :=
  ⟨ht, fun x hx => h.unclaimed x (Table.mem_erase.mp (hsessions ▸ hx)).1⟩

theorem keeps_createOrUpdateNotification {existing : Option Notification} {request : UpsertRequest} :
    ∀ w ∈ (createOrUpdateNotification existing request).1, w.Keeps sourceKey := by
  intro w hw
  unfold createOrUpdateNotification at hw
  split at hw
  · split at hw
    · cases hw
    · cases hw
      exact sourceKey_updateRow request
  · cases hw
    trivial

/-- Only a call that found nothing inserts, and it inserts its own key. -/
theorem insertedKey?_createOrUpdateNotification {existing : Option Notification}
    {request : UpsertRequest} :
    ∀ w ∈ (createOrUpdateNotification existing request).1, ∀ k ∈ w.insertedKey? sourceKey,
      existing = none ∧ k = request.key := by
  intro w hw k hk
  unfold createOrUpdateNotification at hw
  split at hw
  · split at hw
    · cases hw
    · cases hw
      cases hk
  · cases hw
    cases hk
    exact ⟨rfl, sourceKey_insertRow request⟩

theorem inv_begin {id : TransactionId} (h : Inv s) (hstep : s.begin id none = some t) : Inv t := by
  refine ⟨h.distinct.begin hstep, ?_⟩
  obtain ⟨sessions, hinsert, rfl⟩ := Option.map_eq_some_iff.mp hstep
  obtain ⟨-, hrows⟩ := Table.insert?_eq_some.mp hinsert
  intro x hx call hcall
  simp only [hrows, List.mem_append, List.mem_singleton] at hx
  rcases hx with hx | rfl
  · exact h.unclaimed x hx call hcall
  · cases hcall

/-- What the transaction has inserted is among the rows its own `SELECT` reads. -/
theorem inserted_visible (h : s.Distinct sourceKey) (hsession : session ∈ s.sessions.rows)
    {k : SourceKey} (hmem : k ∈ insertedKeys sourceKey session.writes) :
    ∃ row ∈ s.visible session, sourceKey row = k := by
  apply List.mem_map.mp
  unfold Store.visible
  rw [map_key_foldl (h.keeps session hsession)]
  exact List.mem_append_right _ hmem

/-- Under the guard, a call inserts a key no transaction has. -/
theorem unclaimed_of_guard {call : Call} (h : Inv s) (hsession : session ∈ s.sessions.rows)
    (hcall : call ∈ session.memory) (hnone : call.existing = none)
    (hguard : UpsertGuard s (.write session.id)) : call.request.key ∉ s.claimedKeys sourceKey := by
  intro hmem
  obtain ⟨hcommitted, hothers⟩ := hguard session hsession rfl call hcall hnone
  rcases List.mem_append.mp hmem with hmem | hmem
  · obtain ⟨row, hrow, hkey⟩ := List.mem_map.mp hmem
    exact hcommitted row hrow hkey
  · obtain ⟨other, hother, hkey⟩ := List.mem_flatMap.mp hmem
    by_cases hid : other.id = session.id
    · rw [Table.eq_of_key hother hsession hid] at hkey
      exact h.unclaimed session hsession call hcall hnone hkey
    · exact hothers other hother hid hkey

theorem inv_step {i : Statement} (h : Inv s) (hstep : step s i = some t) (hguard : UpsertGuard s i) :
    Inv t := by
  cases i with
  | begin id => exact inv_begin h hstep
  | select id request existing sourceItem =>
    obtain ⟨session, hsession, rfl, hthen⟩ := Table.find?_bind_eq_some.mp hstep
    simp only [Option.ite_none_right_eq_some, Option.some.injEq] at hthen
    obtain ⟨⟨-, hanswer, -⟩, rfl⟩ := hthen
    refine h.run hsession (fun _ hw => nomatch hw) (fun _ hw => nomatch hw) ?_
    rintro call hcall hnone hmem
    cases hcall
    have hexisting : existing = none := Option.map_eq_none_iff.mp hnone
    subst hexisting
    rw [Option.toList_none, List.append_nil] at hmem
    obtain ⟨row, hrow, hkey⟩ := inserted_visible h.distinct hsession hmem
    exact hanswer row hrow hkey
  | write id =>
    obtain ⟨session, hsession, rfl, hbind⟩ := Table.find?_bind_eq_some.mp hstep
    obtain ⟨call, hcall, hthen⟩ := Option.bind_eq_some_iff.mp hbind
    simp only [Option.ite_none_right_eq_some, Option.some.injEq] at hthen
    obtain ⟨-, rfl⟩ := hthen
    refine h.run hsession keeps_createOrUpdateNotification ?_ (fun _ hcall => nomatch hcall)
    intro w hw k hk
    obtain ⟨hnone, rfl⟩ := insertedKey?_createOrUpdateNotification w hw k hk
    exact unclaimed_of_guard h hsession hcall hnone hguard
  | other id p f keepsId keepsKey =>
    obtain ⟨session, hsession, rfl, hthen⟩ := Table.find?_bind_eq_some.mp hstep
    simp only [Option.ite_none_right_eq_some, Option.some.injEq] at hthen
    obtain ⟨-, rfl⟩ := hthen
    refine h.run hsession ?_ ?_ (fun _ hcall => nomatch hcall)
    · intro w hw
      cases hw
      exact keepsKey
    · intro w hw k hk
      cases hw
      cases hk
  | commit id =>
    obtain ⟨session, hsession, rfl, hthen⟩ := Table.find?_bind_eq_some.mp hstep
    simp only [Option.ite_none_right_eq_some, Option.some.injEq] at hthen
    obtain ⟨-, rfl⟩ := hthen
    exact h.ended (h.distinct.commit hsession) rfl
  | rollback id =>
    obtain ⟨session, hsession, rfl, rfl⟩ := Table.find?_map_eq_some.mp hstep
    exact h.ended (h.distinct.erase hsession) rfl

end Run

/-- In every order of their statements in which each inserting call meets the guard, concurrent
calls leave at most one notification for a source item, kind and user. -/
theorem one_per_sourceItem_of_guard (statements : List Statement)
    (hrun : Along step (fun s i _ => UpsertGuard s i) initial statements) :
    Along step (fun _ _ t => OnePerSourceItem t) initial statements :=
  hrun.of_invariant (I := Inv) (fun _ _ _ h hstep hguard => inv_step h hstep hguard)
    (fun _ _ _ h hstep hguard => (inv_step h hstep hguard).distinct.committed)
    ⟨⟨fun _ hx => (List.not_mem_nil hx).elim, List.nodup_nil⟩,
      fun _ hx => (List.not_mem_nil hx).elim⟩

def githubItem : ThirdPartyItem :=
  { id := ⟨1⟩, sourceId := "1", data := .githubNotification "", createdAt := 0, updatedAt := 0,
    userId := ⟨1⟩, integrationConnectionId := ⟨1⟩, sourceItem := none }

/-- The notification a sync makes of the item, under a fresh identifier each time. -/
def githubRequest (id : Nat) (title : String) : UpsertRequest :=
  { notification :=
      { id := ⟨id⟩, title, status := .unread, createdAt := 0, updatedAt := 0, lastReadAt := none,
        snoozedUntil := none, userId := ⟨1⟩, taskId := none, kind := .github,
        sourceItem := githubItem }
    kind := .github
    updateSnoozedUntil := false
    kind_eq := rfl }

/-- Two syncs one after the other: the second updates what the first inserted. -/
def successiveSyncs : List Statement :=
  [.begin 1, .select 1 (githubRequest 1 "a") none githubItem, .write 1, .commit 1,
    .begin 2,
    .select 2 (githubRequest 2 "b") (some (insertRow (githubRequest 1 "a").notification)) githubItem,
    .write 2, .commit 2]

theorem successiveSyncs_one_per_sourceItem :
    Along step (fun _ _ t => OnePerSourceItem t) initial successiveSyncs :=
  one_per_sourceItem_of_guard successiveSyncs (by decide)

/-- Two syncs that overlap: neither sees the row the other inserts. -/
def overlappingSyncs : List Statement :=
  [.begin 1, .begin 2, .select 1 (githubRequest 1 "a") none githubItem,
    .select 2 (githubRequest 2 "a") none githubItem, .write 1, .write 2, .commit 1, .commit 2]

theorem overlappingSyncs_duplicate :
    Possible step initial overlappingSyncs ∧
      ¬ Along step (fun _ _ t => OnePerSourceItem t) initial overlappingSyncs := by
  decide

end UniversalInbox.NotificationUpsert
