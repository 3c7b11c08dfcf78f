import UniversalInbox.ConnectionStatus

/-! How long a connection may fail after an authorization. The first failure of a streak is
stored with the connection and cleared by a success only: an authorization neither clears it nor
is compared with it. -/
namespace UniversalInbox.FailureWindow
open Transition ConnectionStatus

/-- The latest validation recorded in a history. -/
def lastValidation : List Event → Option DateTime
  | [] => none
  | .validated instant :: _ => some instant
  | _ :: rest => lastValidation rest

/-- The first failure of a sync type recorded since the latest validation and the latest success
of that type. -/
def streakStart (type : IntegrationConnectionSyncType) : List Event → Option DateTime
  | [] => none
  | .validated _ :: _ => none
  | .succeeded type' :: rest => if type' = type then none else streakStart type rest
  | .failed type' instant :: rest =>
    if type' = type then (streakStart type rest).or (some instant) else streakStart type rest

/-- A sync failure that takes a validated connection to `Failing` closes a streak of failures of
its type, unbroken by a success, that began after the validation and lasted the whole window. -/
def FreshWindow (windowInHours : Int) (s : State) (i : Input) (t : State) : Prop :=
  match i with
  | .failSync sync _ startedAt _ =>
    ∀ row ∈ s.table.rows, ∀ row' ∈ t.table.rows, row'.id = row.id →
      row.status ≠ .failing → row'.status = .failing →
      ∀ validatedAt ∈ lastValidation (s.history row.id),
        ∃ first ∈ streakStart sync.type (s.history row.id),
          validatedAt ≤ first ∧ hours windowInHours ≤ startedAt - first
  | _ => True

instance (windowInHours : Int) (s : State) (i : Input) (t : State) :
    Decidable (FreshWindow windowInHours s i t) :=
  match i with
  | .failSync _ _ _ _ => inferInstanceAs (Decidable (∀ _ ∈ _, _))
  | .create _ | .startOauthAuthorization _ _ | .readCallback _ _ | .rejectCallback _
  | .writeCallback _ _ _ _ | .startSync _ | .completeSync _ _ _ | .startRefresh _
  | .endRefresh _ _ _ | .readToken _ _ | .failToken _ _ | .disconnect _ _ => .isTrue trivial

/-- When a failure exceeds the window of the stored first failure, that one was recorded after
the latest validation. -/
def WindowGuard (windowInHours : Int) (s : State) : Input → Prop
  | .failSync sync _ startedAt _ => ∀ row ∈ s.table.rows,
      selectsConnection (some sync.userId) (some sync.providerKind) row = true →
      row.status ≠ .failing →
      exceedsFailureWindow windowInHours startedAt (row.sync sync.type).firstFailedAt = true →
      ∀ validatedAt ∈ lastValidation (s.history row.id),
        ∀ first ∈ (row.sync sync.type).firstFailedAt, validatedAt < first
  | _ => True

instance (windowInHours : Int) (s : State) (i : Input) : Decidable (WindowGuard windowInHours s i) :=
  match i with
  | .failSync _ _ _ _ => inferInstanceAs (Decidable (∀ _ ∈ _, _))
  | .create _ | .startOauthAuthorization _ _ | .readCallback _ _ | .rejectCallback _
  | .writeCallback _ _ _ _ | .startSync _ | .completeSync _ _ _ | .startRefresh _
  | .endRefresh _ _ _ | .readToken _ _ | .failToken _ _ | .disconnect _ _ => .isTrue trivial

/-- What the stored first failures say about the history of their connection. -/
def StreakInv (clock : DateTime) (history : List Event) (row : IntegrationConnectionRow) : Prop :=
  ∀ type, ((row.sync type).firstFailedAt = none → streakStart type history = none) ∧
    ∀ first ∈ (row.sync type).firstFailedAt, first ≤ clock ∧
      ∀ validatedAt ∈ lastValidation history, validatedAt < first →
        streakStart type history = some first

def Inv (s : State) : Prop :=
  (∀ row ∈ s.table.rows, StreakInv s.clock (s.history row.id) row) ∧
    ∀ id, s.table.find? id = none → s.history id = []

section Streaks
variable {clock instant : DateTime} {history : List Event} {row row' : IntegrationConnectionRow}

theorem StreakInv.later (h : StreakInv clock history row) (hle : clock ≤ instant) :
    StreakInv instant history row := fun type =>
  ⟨(h type).1, fun first hfirst => ⟨le_trans ((h type).2 first hfirst).1 hle,
    ((h type).2 first hfirst).2⟩⟩

theorem StreakInv.of_sync_eq (h : StreakInv clock history row) (hsync : ∀ type, row'.sync type = row.sync type) :
    StreakInv clock history row' := fun type => by
  rw [hsync type]
  exact h type

theorem StreakInv.of_new (h : IsNew row) : StreakInv clock [] row := by
  obtain ⟨-, hnotifications, htasks⟩ := h
  intro type
  cases type with
  | notifications => simp [IntegrationConnectionRow.sync, hnotifications, streakStart]
  | tasks => simp [IntegrationConnectionRow.sync, htasks, streakStart]

/-- The validation is not before any stored failure, so it starts the history afresh without
promising anything about them. -/
theorem StreakInv.validated (h : StreakInv clock history row) (hle : clock ≤ instant) :
    StreakInv instant (.validated instant :: history) row := by
  intro type
  refine ⟨fun _ => rfl, fun first hfirst => ?_⟩
  have hfirst' := le_trans ((h type).2 first hfirst).1 hle
  refine ⟨hfirst', fun validatedAt hvalidated hlt => ?_⟩
  cases hvalidated
  exact absurd (lt_of_lt_of_le hlt hfirst') (lt_irrefl _)

theorem sync_setSyncStatus_of_ne {windowInHours now utcNow : Int}
    {type type' : IntegrationConnectionSyncType} (hne : type' ≠ type) (message : String) :
    (setSyncStatus windowInHours now utcNow row (.failed type message)).sync type' = row.sync type' ∧
      (setSyncStatus windowInHours now utcNow row (.completed type)).sync type' = row.sync type' := by
  cases type <;> cases type' <;> first | exact absurd rfl hne | exact ⟨rfl, rfl⟩

theorem StreakInv.completed (h : StreakInv clock history row) {windowInHours now utcNow : Int}
    (type : IntegrationConnectionSyncType) :
    StreakInv clock (.succeeded type :: history)
      (setSyncStatus windowInHours now utcNow row (.completed type)) := by
  intro type'
  by_cases htype : type' = type
  · subst htype
    simp [setSyncStatus, streakStart]
  · rw [(sync_setSyncStatus_of_ne htype "").2]
    simpa [streakStart, lastValidation, Ne.symm htype] using h type'

theorem StreakInv.failed (h : StreakInv clock history row) {windowInHours now utcNow : Int}
    (type : IntegrationConnectionSyncType) (message : String) (hnow : now ≤ clock) :
    StreakInv clock (.failed type now :: history)
      (setSyncStatus windowInHours now utcNow row (.failed type message)) := by
  intro type'
  by_cases htype : type' = type
  · subst htype
    have hsync : ((setSyncStatus windowInHours now utcNow row (.failed type' message)).sync
        type').firstFailedAt = (row.sync type').firstFailedAt.or (some now) := by
      cases type' <;> rfl
    rw [hsync]
    obtain ⟨hnone, hsome⟩ := h type'
    cases hfirst : (row.sync type').firstFailedAt with
    | none => simp [streakStart, hnone hfirst, hnow]
    | some first =>
      obtain ⟨hclock, hstreak⟩ := hsome first hfirst
      refine ⟨by simp, fun first' hfirst' => ?_⟩
      cases hfirst'
      refine ⟨hclock, fun validatedAt hvalidated hlt => ?_⟩
      simp [streakStart, hstreak validatedAt hvalidated hlt]
  · rw [(sync_setSyncStatus_of_ne htype message).1]
    simpa [streakStart, lastValidation, Ne.symm htype] using h type'

end Streaks

section Run
variable {windowInHours : Int} {s t : State} {i : Input}

theorem record_of_mem {table : IntegrationConnectionTable} {p : IntegrationConnectionRow → Bool}
    {event : Event} {history : IntegrationConnectionId → List Event} {row : IntegrationConnectionRow}
    (hrow : row ∈ table.rows) :
    record table p event history row.id =
      if p row then event :: history row.id else history row.id := by
  unfold record
  rw [Table.find?_eq_some.mpr ⟨hrow, rfl⟩]
  rfl

/-- An `UPDATE` that records an event about the rows it writes. -/
theorem inv_update {p : IntegrationConnectionRow → Bool}
    {f : IntegrationConnectionRow → IntegrationConnectionRow} (hf : ∀ r, (f r).id = r.id)
    {event : Event} (h : Inv s) (htable : t.table = s.table.update p f hf)
    (hclock : s.clock ≤ t.clock) (hhistory : t.history = record s.table p event s.history)
    (hwritten : ∀ row ∈ s.table.rows, StreakInv s.clock (s.history row.id) row →
      StreakInv t.clock (event :: s.history row.id) (f row)) : Inv t := by
  constructor
  · intro row' hrow'
    rw [htable] at hrow'
    obtain ⟨row, hrow, rfl⟩ := Table.mem_update.mp hrow'
    have hold := h.1 row hrow
    by_cases hp : p row = true
    · rw [if_pos hp, hf, hhistory, record_of_mem hrow, if_pos hp]
      exact hwritten row hrow hold
    · rw [if_neg hp, hhistory, record_of_mem hrow, if_neg hp]
      exact hold.later hclock
  · intro id hid
    rw [htable, Table.find?_update, Option.map_eq_none_iff] at hid
    rw [hhistory]
    unfold record
    rw [hid]
    exact h.2 id hid

theorem inv_updateStatus {id : IntegrationConnectionId} {userId : UserId}
    {new : IntegrationConnectionStatus} {message : Option String} {scopes : Option (List String)}
    (h : Inv s)
    (htable : t.table = updateIntegrationConnectionStatus s.table id new message scopes userId)
    (hclock : t.clock = s.clock) (hhistory : t.history = s.history) : Inv t := by
  constructor
  · intro row' hrow'
    rw [htable] at hrow'
    obtain ⟨row, hrow, rfl⟩ := Table.mem_update.mp hrow'
    have hold := h.1 row hrow
    rw [hclock, hhistory]
    by_cases hp : ownedBy id userId row = true
    · rw [if_pos hp]
      exact hold.of_sync_eq fun type => by cases type <;> rfl
    · rw [if_neg hp]
      exact hold
  · intro id' hid
    rw [htable] at hid
    unfold updateIntegrationConnectionStatus at hid
    rw [Table.find?_update, Option.map_eq_none_iff] at hid
    rw [hhistory]
    exact h.2 id' hid

/-- A new connection has no history. -/
theorem inv_created {row : IntegrationConnectionRow} (h : Inv s) (hnew : IsNew row)
    (hinsert : s.table.insert? row = some t.table) (hclock : t.clock = s.clock)
    (hhistory : t.history = s.history) : Inv t := by
  obtain ⟨-, hrows⟩ := Table.insert?_eq_some.mp hinsert
  constructor
  · intro row' hrow'
    rw [hrows] at hrow'
    rw [hclock, hhistory]
    rcases List.mem_append.mp hrow' with hold | hnew'
    · exact h.1 row' hold
    · rw [List.mem_singleton.mp hnew', h.2 row.id (Table.find?_eq_none_of_insert hinsert)]
      exact StreakInv.of_new hnew
  · intro id hid
    rw [hhistory]
    apply h.2
    rw [Table.find?_insert hinsert] at hid
    split at hid
    · cases hid
    · exact hid

theorem inv_step (h : Inv s) (hstep : step windowInHours s i = some t) : Inv t := by
  cases step_effect hstep with
  | created hnew hinsert _ hclock hhistory => exact inv_created h hnew hinsert hclock hhistory
  | quiet htable _ hclock hhistory =>
    refine ⟨fun row hrow => ?_, fun id hid => ?_⟩
    · rw [hclock, hhistory]
      exact h.1 row (htable ▸ hrow)
    · rw [hhistory]
      exact h.2 id (htable ▸ hid)
  | validated htable _ hle hclock hhistory =>
    refine inv_update (setStatus_id _ _ _) h htable (hclock ▸ hle) hhistory
      fun row _ hold => ?_
    rw [hclock]
    exact (hold.validated hle).of_sync_eq fun type => by cases type <;> rfl
  | completed htable _ hle hclock hhistory =>
    refine inv_update (setSyncStatus_id _ _ _ _) h htable (hclock ▸ hle) hhistory
      fun row _ hold => ?_
    rw [hclock]
    exact (hold.later hle).completed _
  | failed htable _ hle hclock hstarted hhistory =>
    refine inv_update (setSyncStatus_id _ _ _ _) h htable (hclock ▸ hle) hhistory
      fun row _ hold => ?_
    rw [hclock]
    exact (hold.later hle).failed _ _ hstarted
  | invalidGrant _ htable _ hclock hhistory => exact inv_updateStatus h htable hclock hhistory
  | tokenFailed htable _ hclock hhistory => exact inv_updateStatus h htable hclock hhistory
  | disconnected _ htable _ hclock hhistory => exact inv_updateStatus h htable hclock hhistory

theorem exceedsFailureWindow_iff {now : DateTime} {firstFailedAt : Option DateTime} :
    exceedsFailureWindow windowInHours now firstFailedAt = true ↔
      ∃ first, firstFailedAt = some first ∧ hours windowInHours < now - first := by
  simp [exceedsFailureWindow, Option.any_eq_true]

/-- The only way a sync failure takes a connection to `Failing`. -/
theorem failing_of_failed {sync : RunningSync} {message : String} {now utcNow : DateTime}
    {row row' : IntegrationConnectionRow} (hrow : row ∈ s.table.rows)
    (hrow' : row' ∈ (updateIntegrationConnectionSyncStatus s.table (some sync.userId)
      (some sync.providerKind) (.failed sync.type message) windowInHours now utcNow).rows)
    (hid : row'.id = row.id) (hne : row.status ≠ .failing) (hfailing : row'.status = .failing) :
    selectsConnection (some sync.userId) (some sync.providerKind) row = true ∧
      exceedsFailureWindow windowInHours now (row.sync sync.type).firstFailedAt = true := by
  revert row'
  have hrows := Table.forall_update (t := s.table)
    (p := selectsConnection (some sync.userId) (some sync.providerKind))
    (e := setSyncStatus_id windowInHours now utcNow (.failed sync.type message))
    (R := fun row row' => row.status ≠ .failing → row'.status = .failing →
      selectsConnection (some sync.userId) (some sync.providerKind) row = true ∧
        exceedsFailureWindow windowInHours now (row.sync sync.type).firstFailedAt = true)
  intro row' hrow' hid hfailing
  refine hrows.mpr ?_ row hrow row' hrow' hid hne hfailing
  intro row _ hne hfailing
  by_cases hp : selectsConnection (some sync.userId) (some sync.providerKind) row = true
  · rw [if_pos hp] at hfailing
    refine ⟨hp, ?_⟩
    by_contra hwindow
    simp only [setSyncStatus, hwindow, if_false] at hfailing
    exact hne hfailing
  · rw [if_neg hp] at hfailing
    exact absurd hfailing hne

theorem freshWindow_of_guard (h : Inv s) (hstep : step windowInHours s i = some t)
    (hguard : WindowGuard windowInHours s i) : FreshWindow windowInHours s i t := by
  cases i with
  | failSync sync message startedAt instant =>
    simp only [step, Option.ite_none_right_eq_some, Option.some.injEq] at hstep
    obtain ⟨-, rfl⟩ := hstep
    intro row hrow row' hrow' hid hne hfailing validatedAt hvalidated
    obtain ⟨hselected, hwindow⟩ := failing_of_failed hrow hrow' hid hne hfailing
    obtain ⟨first, hfirst, hexceeded⟩ := exceedsFailureWindow_iff.mp hwindow
    have hlt := hguard row hrow hselected hne hwindow validatedAt hvalidated first hfirst
    have hstreak := ((h.1 row hrow sync.type).2 first hfirst).2 validatedAt hvalidated hlt
    exact ⟨first, hstreak, le_of_lt hlt, le_of_lt hexceeded⟩
  | _ => trivial

end Run

/-- In every run whose sync failures meet the guard, an authorization has the whole window to
itself. -/
theorem fresh_window_of_guard (windowInHours : Int) (clock : DateTime) (inputs : List Input)
    (hrun : Along (step windowInHours) (fun s i _ => WindowGuard windowInHours s i)
      (initial clock) inputs) :
    Along (step windowInHours) (FreshWindow windowInHours) (initial clock) inputs :=
  hrun.of_invariant (I := Inv) (fun _ _ _ h hstep _ => inv_step h hstep)
    (fun _ _ _ h hstep hguard => freshWindow_of_guard h hstep hguard)
    ⟨fun _ hrow => (List.not_mem_nil hrow).elim, fun _ _ => rfl⟩

/-- A connection that fails from the start goes to `Failing` once the window has passed. -/
def failingStreak : List Input :=
  [.create githubConnection, .startOauthAuthorization ⟨1⟩ ⟨1⟩, .readCallback ⟨1⟩ ⟨1⟩,
    .writeCallback ⟨1⟩ ⟨1⟩ [] 0, .startSync githubSync, .failSync githubSync "" 1 1,
    .startSync githubSync, .failSync githubSync "" (hours 25) (hours 25)]

theorem failingStreak_fresh :
    Along (step 24) (FreshWindow 24) (initial 0) failingStreak :=
  fresh_window_of_guard 24 0 failingStreak (by decide)

/-- The streak of a connection its user reconnects: one failure before, one right after. -/
def reconnectedStreak : List Input :=
  [.create githubConnection, .startOauthAuthorization ⟨1⟩ ⟨1⟩, .readCallback ⟨1⟩ ⟨1⟩,
    .writeCallback ⟨1⟩ ⟨1⟩ [] 0, .startSync githubSync, .failSync githubSync "" 1 1,
    .disconnect ⟨1⟩ ⟨1⟩, .startOauthAuthorization ⟨1⟩ ⟨1⟩, .readCallback ⟨1⟩ ⟨1⟩,
    .writeCallback ⟨1⟩ ⟨1⟩ [] (hours 25), .startSync githubSync,
    .failSync githubSync "" (hours 25 + 1) (hours 25 + 1)]

theorem reconnectedStreak_fails_at_once :
    Possible (step 24) (initial 0) reconnectedStreak ∧
      ¬ Along (step 24) (FreshWindow 24) (initial 0) reconnectedStreak := by decide

end UniversalInbox.FailureWindow
