import UniversalInbox.FailureWindow
import UniversalInbox.SyncClaims

/-! The failure columns of a connection, under every order of the statements that write its row.
`first_failed_at` is stamped by the database with the start of the transaction, `last_failed_at`
by the process with its own clock when it builds the statement. The two readings are inputs here
and nothing relates them: another transaction may start after the process has read its clock and
record its failure first, and the clocks of two machines may differ. -/
namespace UniversalInbox.FailureBookkeeping
open Transition ConnectionStatus SyncClaims

inductive Statement where
  | create (row : IntegrationConnectionRow)
  | updateIntegrationConnectionSyncStatus (userId : Option UserId)
      (providerKind : Option IntegrationProviderKind)
      (syncUpdate : IntegrationConnectionSyncStatusUpdate) (now utcNow : DateTime)
  | updateIntegrationConnectionStatus (id : IntegrationConnectionId)
      (newStatus : IntegrationConnectionStatus) (failureMessage : Option String)
      (registeredOauthScopes : Option (List String)) (forUserId : UserId)
  | claimSyncStart (type : IntegrationConnectionSyncType) (id : IntegrationConnectionId)
      (now : DateTime) (syncedBefore : Option DateTime)
  | claimDueSyncs (type : IntegrationConnectionSyncType) (forUserId : UserId)
      (providerKinds : List IntegrationProviderKind) (now syncedBefore : DateTime)
      (skipped : IntegrationConnectionId → Bool)

def step (windowInHours : Int) (table : IntegrationConnectionTable) :
    Statement → Option IntegrationConnectionTable
  | .create row =>
    if IsNew row ∧ table.rows.all fun r =>
        !(r.userId == row.userId && r.providerKind == row.providerKind) then
      table.insert? row
    else none
  | .updateIntegrationConnectionSyncStatus userId providerKind syncUpdate now utcNow =>
    some (ConnectionStatus.updateIntegrationConnectionSyncStatus table userId providerKind
      syncUpdate windowInHours now utcNow)
  | .updateIntegrationConnectionStatus id newStatus failureMessage scopes forUserId =>
    some (ConnectionStatus.updateIntegrationConnectionStatus table id newStatus failureMessage
      scopes forUserId)
  | .claimSyncStart type id now syncedBefore =>
    some (SyncClaims.claimSyncStart table type id now syncedBefore).1
  | .claimDueSyncs type forUserId providerKinds now syncedBefore skipped =>
    some (SyncClaims.claimDueSyncs table type forUserId providerKinds now syncedBefore skipped).1

/-- The counter counts the failures since the last success, and the three other columns describe
them. -/
structure Counted (columns : SyncColumns) : Prop where
  firstFailedAt : 0 < columns.failures ↔ columns.firstFailedAt.isSome
  failedAt : 0 < columns.failures ↔ columns.failedAt.isSome
  failureMessage : 0 < columns.failures ↔ columns.failureMessage.isSome

instance (columns : SyncColumns) : Decidable (Counted columns) :=
  decidable_of_iff
    ((0 < columns.failures ↔ columns.firstFailedAt.isSome) ∧
      (0 < columns.failures ↔ columns.failedAt.isSome) ∧
      (0 < columns.failures ↔ columns.failureMessage.isSome))
    ⟨fun h => ⟨h.1, h.2.1, h.2.2⟩, fun h => ⟨h.1, h.2, h.3⟩⟩

/-- `first_failed_at <= last_failed_at`. -/
def Ordered (columns : SyncColumns) : Prop :=
  ∀ first ∈ columns.firstFailedAt, ∀ last ∈ columns.failedAt, first ≤ last

instance (columns : SyncColumns) : Decidable (Ordered columns) :=
  inferInstanceAs (Decidable (∀ _ ∈ _, _))

/-- A property of the columns of both sync types of every connection. -/
def EverySync (P : SyncColumns → Prop) (table : IntegrationConnectionTable) : Prop :=
  ∀ row ∈ table.rows, ∀ type, P (row.sync type)

instance (P : SyncColumns → Prop) [DecidablePred P] (table : IntegrationConnectionTable) :
    Decidable (EverySync P table) :=
  inferInstanceAs (Decidable (∀ row ∈ table.rows, ∀ type, P (row.sync type)))

/-- The sync type whose outcome a statement records. -/
def outcome : Statement → Option IntegrationConnectionSyncType
  | .updateIntegrationConnectionSyncStatus _ _ (.completed type) _ _
  | .updateIntegrationConnectionSyncStatus _ _ (.failed type _) _ _ => some type
  | _ => none

/-- The columns of the other sync type are left alone by an outcome. -/
def OtherTypeKept (s : IntegrationConnectionTable) (i : Statement)
    (t : IntegrationConnectionTable) : Prop :=
  ∀ type ∈ outcome i, ∀ row ∈ s.rows, ∀ row' ∈ t.rows, row'.id = row.id →
    ∀ type', type' ≠ type → row'.sync type' = row.sync type'

instance (s : IntegrationConnectionTable) (i : Statement) (t : IntegrationConnectionTable) :
    Decidable (OtherTypeKept s i t) :=
  inferInstanceAs (Decidable (∀ type ∈ outcome i, ∀ row ∈ s.rows, ∀ row' ∈ t.rows,
    row'.id = row.id → ∀ type', type' ≠ type → row'.sync type' = row.sync type'))

/-- A step after which the books of both sync types are in order, and which touched one sync
type at most if it recorded an outcome. -/
def WellKept (s : IntegrationConnectionTable) (i : Statement) (t : IntegrationConnectionTable) :
    Prop :=
  EverySync (fun columns => Counted columns ∧ Ordered columns) t ∧ OtherTypeKept s i t

instance (s : IntegrationConnectionTable) (i : Statement) (t : IntegrationConnectionTable) :
    Decidable (WellKept s i t) := inferInstanceAs (Decidable (_ ∧ _))

/-- The clock of a process that records a failure is not behind the first failure stored, or
behind the start of its transaction where none is. -/
def ClockGuard (table : IntegrationConnectionTable) : Statement → Prop
  | .updateIntegrationConnectionSyncStatus userId providerKind (.failed type _) now utcNow =>
    ∀ row ∈ table.rows, selectsConnection userId providerKind row = true →
      (row.sync type).firstFailedAt.getD now ≤ utcNow
  | _ => True

section Columns
variable {windowInHours : Int} {now utcNow : DateTime} {row : IntegrationConnectionRow}
variable {type type' : IntegrationConnectionSyncType} {message : String}
variable {columns columns' : SyncColumns}

/-- The columns both properties read. -/
def failureColumns (columns : SyncColumns) :
    Option DateTime × Option String × Nat × Option DateTime :=
  (columns.failedAt, columns.failureMessage, columns.failures, columns.firstFailedAt)

/-- A property of the failure columns alone. -/
def ReadsFailures (P : SyncColumns → Prop) : Prop :=
  ∀ columns columns', failureColumns columns' = failureColumns columns → P columns → P columns'

theorem readsFailures_counted : ReadsFailures Counted := by
  intro columns columns' h hcounted
  simp only [failureColumns, Prod.mk.injEq] at h
  obtain ⟨hlast, hmessage, hfailures, hfirst⟩ := h
  constructor
  · rw [hfailures, hfirst]
    exact hcounted.firstFailedAt
  · rw [hfailures, hlast]
    exact hcounted.failedAt
  · rw [hfailures, hmessage]
    exact hcounted.failureMessage

theorem readsFailures_ordered : ReadsFailures Ordered := by
  intro columns columns' h hordered
  simp only [failureColumns, Prod.mk.injEq] at h
  simp only [Ordered, h.1, h.2.2.2]
  exact hordered

theorem failureColumns_setSync (h : failureColumns columns = failureColumns (row.sync type)) :
    failureColumns ((row.setSync columns type).sync type') = failureColumns (row.sync type') := by
  by_cases htype : type' = type
  · subst htype
    simpa using h
  · rw [IntegrationConnectionRow.sync_setSync_of_ne htype]

theorem failureColumns_scheduled :
    failureColumns ((setSyncStatus windowInHours now utcNow row (.scheduled type)).sync type') =
      failureColumns (row.sync type') :=
  failureColumns_setSync rfl

theorem failureColumns_claim {column : ClaimColumn} :
    failureColumns ((column.write row now).sync type) = failureColumns (row.sync type) := by
  cases column <;> exact failureColumns_setSync rfl

theorem failureColumns_completed :
    failureColumns ((setSyncStatus windowInHours now utcNow row (.completed type)).sync type) =
      (none, none, 0, none) := by
  cases type <;> rfl

theorem failureColumns_failed :
    failureColumns ((setSyncStatus windowInHours now utcNow row (.failed type message)).sync type) =
      (some utcNow, some message, (row.sync type).failures + 1,
        (row.sync type).firstFailedAt.or (some now)) := by
  cases type <;> rfl

theorem counted_none (h : failureColumns columns = (none, none, 0, none)) : Counted columns := by
  simp only [failureColumns, Prod.mk.injEq] at h
  obtain ⟨hlast, hmessage, hfailures, hfirst⟩ := h
  constructor <;> simp [hlast, hmessage, hfailures, hfirst]

theorem ordered_none (h : failureColumns columns = (none, none, 0, none)) : Ordered columns := by
  simp only [failureColumns, Prod.mk.injEq] at h
  simp [Ordered, h.1]

theorem counted_failure {failures : Nat} {first : Option DateTime}
    (h : failureColumns columns = (some utcNow, some message, failures + 1, first.or (some now))) :
    Counted columns := by
  simp only [failureColumns, Prod.mk.injEq] at h
  obtain ⟨hlast, hmessage, hfailures, hfirst⟩ := h
  constructor <;> simp [hlast, hmessage, hfailures, hfirst]

/-- A failure leaves its two instants in order exactly when the process's clock is not behind the
first one, be it stored before or stamped now. -/
theorem ordered_failure_iff {failures : Nat} {first : Option DateTime}
    (h : failureColumns columns = (some utcNow, some message, failures + 1, first.or (some now))) :
    Ordered columns ↔ first.getD now ≤ utcNow := by
  simp only [failureColumns, Prod.mk.injEq] at h
  simp only [Ordered, h.1, h.2.2.2]
  cases first <;> simp

theorem counted_setSyncStatus {syncUpdate : IntegrationConnectionSyncStatusUpdate}
    (h : ∀ type, Counted (row.sync type)) :
    ∀ type, Counted ((setSyncStatus windowInHours now utcNow row syncUpdate).sync type) := by
  intro type'
  cases syncUpdate with
  | scheduled type => exact readsFailures_counted _ _ failureColumns_scheduled (h type')
  | completed type =>
    by_cases htype : type' = type
    · subst htype
      exact counted_none failureColumns_completed
    · rw [(FailureWindow.sync_setSyncStatus_of_ne htype "").2]
      exact h type'
  | failed type message =>
    by_cases htype : type' = type
    · subst htype
      exact counted_failure failureColumns_failed
    · rw [(FailureWindow.sync_setSyncStatus_of_ne htype message).1]
      exact h type'

theorem ordered_completed (h : ∀ type, Ordered (row.sync type)) :
    ∀ type', Ordered ((setSyncStatus windowInHours now utcNow row (.completed type)).sync type') := by
  intro type'
  by_cases htype : type' = type
  · subst htype
    exact ordered_none failureColumns_completed
  · rw [(FailureWindow.sync_setSyncStatus_of_ne htype "").2]
    exact h type'

theorem ordered_failed_iff (h : ∀ type, Ordered (row.sync type)) :
    (∀ type', Ordered
        ((setSyncStatus windowInHours now utcNow row (.failed type message)).sync type')) ↔
      (row.sync type).firstFailedAt.getD now ≤ utcNow := by
  constructor
  · intro hordered
    exact (ordered_failure_iff failureColumns_failed).mp (hordered type)
  · intro hclock type'
    by_cases htype : type' = type
    · subst htype
      exact (ordered_failure_iff failureColumns_failed).mpr hclock
    · rw [(FailureWindow.sync_setSyncStatus_of_ne htype message).1]
      exact h type'

theorem counted_of_new (h : IsNew row) (type : IntegrationConnectionSyncType) :
    Counted (row.sync type) := by
  apply counted_none
  cases type with
  | notifications => simp [IntegrationConnectionRow.sync, h.2.1, failureColumns]
  | tasks => simp [IntegrationConnectionRow.sync, h.2.2, failureColumns]

theorem ordered_of_new (h : IsNew row) (type : IntegrationConnectionSyncType) :
    Ordered (row.sync type) := by
  apply ordered_none
  cases type with
  | notifications => simp [IntegrationConnectionRow.sync, h.2.1, failureColumns]
  | tasks => simp [IntegrationConnectionRow.sync, h.2.2, failureColumns]

end Columns

section Steps
variable {windowInHours : Int} {s t : IntegrationConnectionTable} {i : Statement}
variable {P : SyncColumns → Prop}

theorem everySync_update {p : IntegrationConnectionRow → Bool}
    {f : IntegrationConnectionRow → IntegrationConnectionRow} {e : ∀ r, (f r).id = r.id}
    (h : EverySync P s) :
    EverySync P (s.update p f e) ↔
      ∀ row ∈ s.rows, p row = true → ∀ type, P ((f row).sync type) := by
  constructor
  · intro hupdated row hrow hp type
    exact hupdated (f row) (Table.mem_update.mpr ⟨row, hrow, if_pos hp⟩) type
  · intro hupdated row' hrow' type
    obtain ⟨row, hrow, rfl⟩ := Table.mem_update.mp hrow'
    by_cases hp : p row = true
    · rw [if_pos hp]
      exact hupdated row hrow hp type
    · rw [if_neg hp]
      exact h row hrow type

theorem everySync_insert {row : IntegrationConnectionRow} (h : EverySync P s)
    (hrow : ∀ type, P (row.sync type)) (hinsert : s.insert? row = some t) : EverySync P t := by
  intro row' hrow' type
  obtain ⟨-, hrows⟩ := Table.insert?_eq_some.mp hinsert
  rw [hrows] at hrow'
  rcases List.mem_append.mp hrow' with hold | hnew
  · exact h row' hold type
  · rw [List.mem_singleton.mp hnew]
    exact hrow type

/-- Any statement that records no outcome keeps a property of the failure columns. -/
theorem everySync_quiet (hreads : ReadsFailures P) {p : IntegrationConnectionRow → Bool}
    {f : IntegrationConnectionRow → IntegrationConnectionRow} {e : ∀ r, (f r).id = r.id}
    (hf : ∀ row type, failureColumns ((f row).sync type) = failureColumns (row.sync type))
    (h : EverySync P s) : EverySync P (s.update p f e) :=
  (everySync_update h).mpr fun row hrow _ type => hreads _ _ (hf row type) (h row hrow type)

/-- Outcomes and creations apart, no statement of the service touches the failure columns. -/
theorem everySync_step (hreads : ReadsFailures P) (h : EverySync P s)
    (hnew : ∀ row type, IsNew row → P (row.sync type)) (houtcome : outcome i = none)
    (hstep : step windowInHours s i = some t) : EverySync P t := by
  cases i with
  | create row =>
    simp only [step, Option.ite_none_right_eq_some] at hstep
    exact everySync_insert h (fun type => hnew row type hstep.1.1) hstep.2
  | updateIntegrationConnectionSyncStatus userId providerKind syncUpdate now utcNow =>
    cases syncUpdate with
    | scheduled type =>
      cases hstep
      exact everySync_quiet hreads (fun _ _ => failureColumns_scheduled) h
    | completed type => cases houtcome
    | failed type message => cases houtcome
  | updateIntegrationConnectionStatus id newStatus failureMessage scopes forUserId =>
    cases hstep
    exact everySync_quiet hreads (fun _ type => by cases type <;> rfl) h
  | claimSyncStart type id now syncedBefore =>
    cases hstep
    exact everySync_quiet (e := ClaimColumn.write_id _ now) hreads (fun _ _ => failureColumns_claim) h
  | claimDueSyncs type forUserId providerKinds now syncedBefore skipped =>
    cases hstep
    unfold claimDueSyncs
    split
    · exact h
    · exact everySync_quiet (e := ClaimColumn.write_id _ now) hreads
        (fun _ _ => failureColumns_claim) h

theorem counted_step (h : EverySync Counted s) (hstep : step windowInHours s i = some t) :
    EverySync Counted t := by
  by_cases houtcome : outcome i = none
  · exact everySync_step readsFailures_counted h (fun _ type hnew => counted_of_new hnew type)
      houtcome hstep
  · cases i with
    | updateIntegrationConnectionSyncStatus userId providerKind syncUpdate now utcNow =>
      cases hstep
      exact (everySync_update h).mpr fun row hrow _ => counted_setSyncStatus (h row hrow)
    | _ => exact absurd rfl houtcome

/-- One step keeps the instants in order exactly when the clocks of a recorded failure are. -/
theorem ordered_step_iff (h : EverySync Ordered s) (hstep : step windowInHours s i = some t) :
    EverySync Ordered t ↔ ClockGuard s i := by
  by_cases houtcome : outcome i = none
  · refine iff_of_true (everySync_step readsFailures_ordered h
      (fun _ type hnew => ordered_of_new hnew type) houtcome hstep) ?_
    cases i with
    | updateIntegrationConnectionSyncStatus userId providerKind syncUpdate now utcNow =>
      cases syncUpdate with
      | failed type message => cases houtcome
      | _ => trivial
    | _ => trivial
  · cases i with
    | updateIntegrationConnectionSyncStatus userId providerKind syncUpdate now utcNow =>
      cases hstep
      rw [ConnectionStatus.updateIntegrationConnectionSyncStatus, everySync_update h]
      cases syncUpdate with
      | scheduled type => exact absurd rfl houtcome
      | completed type =>
        exact iff_of_true (fun row hrow _ => ordered_completed (h row hrow)) trivial
      | failed type message =>
        exact forall₃_congr fun row hrow _ => ordered_failed_iff (h row hrow)
    | _ => exact absurd rfl houtcome

theorem otherTypeKept_step (hstep : step windowInHours s i = some t) : OtherTypeKept s i t := by
  intro type htype
  cases i with
  | updateIntegrationConnectionSyncStatus userId providerKind syncUpdate now utcNow =>
    cases hstep
    refine Table.forall_update.mpr fun row _ type' hne => ?_
    by_cases hp : selectsConnection userId providerKind row = true
    · rw [if_pos hp]
      cases syncUpdate with
      | scheduled _ => cases htype
      | completed _ =>
        cases htype
        exact (FailureWindow.sync_setSyncStatus_of_ne hne "").2
      | failed _ message =>
        cases htype
        exact (FailureWindow.sync_setSyncStatus_of_ne hne message).1
    · rw [if_neg hp]
  | _ => cases htype

end Steps

/-- From no connection at all, a run keeps its books exactly when no failure is recorded by a
process whose clock is behind the first failure. The counter and the message never disagree with
the instants, and no outcome ever touches the other sync type: only the order of the two instants
needs the condition. -/
theorem wellKept_iff (windowInHours : Int) (statements : List Statement) :
    Along (step windowInHours) WellKept Table.empty statements ↔
      Along (step windowInHours) (fun s i _ => ClockGuard s i) Table.empty statements := by
  have hempty (P : SyncColumns → Prop) : EverySync P Table.empty := by
    intro row hrow
    exact absurd hrow Table.not_mem_empty
  have hordered : Along (step windowInHours) (fun _ _ t => EverySync Ordered t) Table.empty
      statements ↔
        Along (step windowInHours) (fun s i _ => ClockGuard s i) Table.empty statements := by
    refine along_good_iff (J := fun _ => True) ?_ ?_ trivial (hempty Ordered)
    · intros
      trivial
    · intro _ _ _ _ h hstep
      exact ordered_step_iff h hstep
  rw [← hordered]
  refine along_iff_of_invariant (I := EverySync Counted) (fun _ _ _ => counted_step) ?_
    (hempty Counted)
  intro s i t h hstep
  constructor
  · rintro ⟨hkept, -⟩ row hrow type
    exact (hkept row hrow type).2
  · intro ht
    have hcounted := counted_step h hstep
    exact ⟨fun row hrow type => ⟨hcounted row hrow type, ht row hrow type⟩,
      otherTypeKept_step hstep⟩

/-- A process reads its clock to report a failure. Before its statement runs, another transaction
starts and reports one too. -/
def overtakenFailure : List Statement :=
  [.create githubConnection,
    .updateIntegrationConnectionSyncStatus (some ⟨1⟩) (some .github) (.failed .notifications "")
      2 3,
    .updateIntegrationConnectionSyncStatus (some ⟨1⟩) (some .github) (.failed .notifications "")
      0 1]

theorem overtakenFailure_out_of_order :
    Possible (step 24) Table.empty overtakenFailure ∧
      ¬ Along (step 24) WellKept Table.empty overtakenFailure := by
  decide

end UniversalInbox.FailureBookkeeping
