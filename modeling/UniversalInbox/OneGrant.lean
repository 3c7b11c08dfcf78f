import UniversalInbox.Library.LockedRow
import UniversalInbox.Library.Transition
import UniversalInbox.CredentialStatements

/-! One connection and its credential under the statements of OAuth callbacks, token refreshes and
disconnects, in any order. -/
namespace UniversalInbox.OAuthCredential.OneGrant
open LockedRow Transition

inductive Phase where
  | exchanged
  | listing (expiringBefore : DateTime) (providerKind : Option IntegrationProviderKind)
  | locked
  | writing (remaining : List Statement)

/-- `done` are the statements that have found a row. -/
structure Session where
  id : Nat
  operation : Operation
  phase : Phase
  done : List Statement

/-- `validations` counts the callbacks since the last disconnect; `late` are those that have
arrived after another one, and `overtaken` those that had read the connection before. -/
structure State where
  connection : LockedRow Nat Connection
  credential : LockedRow Nat (Option Credential)
  sessions : Table Session.id
  begun : Nat
  used : List OAuthState
  validations : Nat
  late : List OAuthState
  overtaken : List OAuthState

/-- One input a statement, but for the arrival of a callback with all that is before its first. -/
inductive Input where
  | callback (grant : OAuthState) (answer : ProviderAnswer)
  | check (id : Nat)
  | refresh (expiringBefore : DateTime) (providerKind : Option IntegrationProviderKind)
  | list (id : Nat)
  | answer (id : Nat) (answer : ProviderAnswer)
  | disconnect (forUserId : UserId)
  | execute (id : Nat)
  | commit (id : Nat)
  | rollback (id : Nat)

namespace State

def begin (s : State) (operation : Operation) (phase : Phase) : Option State :=
  (s.sessions.insert? ⟨s.begun, operation, phase, []⟩).map fun sessions =>
    { s with sessions, begun := s.begun + 1 }

def advance (s : State) (x : Session) (phase : Phase) : State :=
  { s with sessions := s.sessions.put { x with phase } }

def drop (s : State) (id : Nat) : State :=
  { s with
    connection := s.connection.rollback id
    credential := s.credential.rollback id
    sessions := s.sessions.erase id }

/-- A statement that finds a row waits for its lock. -/
def write? (s : State) (x : Session) (statement : Statement) (remaining : List Statement) :
    Option State :=
  let sessions := s.sessions.put
    { x with phase := .writing remaining, done := x.done ++ [statement] }
  if statement.writesConnection then
    (s.connection.write? x.id statement.onConnection).map fun connection =>
      { s with connection, sessions }
  else
    (s.credential.write? x.id statement.onCredential).map fun credential =>
      { s with credential, sessions }

def execute (s : State) (x : Session) (statement : Statement) (remaining : List Statement) :
    Option State :=
  match statement, s.credential.committed with
  | .delete, none => some (s.advance x (.writing remaining))
  | _, _ => s.write? x statement remaining

/-- The callbacks that have read the connection. -/
def checked (s : State) : List OAuthState :=
  s.sessions.rows.filterMap fun x =>
    match x.operation, x.phase with
    | .callback p, .writing _ => some p.grant
    | _, _ => none

def commit (s : State) (x : Session) : State :=
  let s := { s with
    connection := s.connection.commit x.id
    credential := s.credential.commit x.id
    sessions := s.sessions.erase x.id }
  match x.operation with
  | .callback _ => { s with validations := s.validations + 1, overtaken := s.checked }
  | .refresh _ => s
  | .disconnect => { s with validations := 0, late := [], overtaken := [] }

end State

def step (config : Config) (s : State) : Input → Option State
  | .callback grant answer =>
    if s.used.contains grant then none
    else
      let s := { s with
        used := grant :: s.used
        late := if s.validations = 0 then s.late else grant :: s.late }
      match prepare config grant answer with
      | none => some s
      | some p => s.begin (.callback p) .exchanged
  | .check id =>
    (s.sessions.find? id).bind fun x =>
      match x.operation, x.phase with
      | .callback p, .exchanged =>
        if s.connection.committed.status = .created then
          some (s.advance x (.writing p.statements))
        else some (s.drop id)
      | _, _ => none
  | .refresh expiringBefore providerKind =>
    s.begin (.refresh none) (.listing expiringBefore providerKind)
  | .list id =>
    (s.sessions.find? id).bind fun x =>
      match x.phase with
      | .listing expiringBefore providerKind =>
        match expiring config s.connection.committed s.credential.committed expiringBefore
            providerKind with
        | none => some (s.advance x (.writing []))
        | some refreshToken =>
          match s.credential.write? id fun row => row with
          -- a row that another transaction has locked is skipped
          | none => some (s.advance x (.writing []))
          | some credential =>
            some { s with
              credential
              sessions := s.sessions.put
                { x with operation := .refresh (some refreshToken), phase := .locked } }
      | _ => none
  | .answer id answer =>
    (s.sessions.find? id).bind fun x =>
      match x.operation, x.phase with
      | .refresh (some refreshToken), .locked =>
        match refreshStatements config s.connection.committed.userId refreshToken answer with
        | none => some (s.drop id)
        | some statements => some (s.advance x (.writing statements))
      | _, _ => none
  | .disconnect forUserId =>
    if s.connection.committed.userId = forUserId then
      s.begin .disconnect (.writing disconnectStatements)
    else some s
  | .execute id =>
    (s.sessions.find? id).bind fun x =>
      match x.phase with
      | .writing (statement :: remaining) => s.execute x statement remaining
      | _ => none
  | .commit id =>
    (s.sessions.find? id).bind fun x =>
      match x.phase with
      | .writing [] => some (s.commit x)
      | _ => none
  | .rollback id => (s.sessions.find? id).map fun _ => s.drop id

/-- A connection that has just been created. -/
def initial (userId : UserId) : State where
  connection := ⟨⟨userId, .created, none, none, none, none⟩, none⟩
  credential := ⟨none, none⟩
  sessions := Table.empty
  begun := 0
  used := []
  validations := 0
  late := []
  overtaken := []

def State.grants (s : State) : List OAuthState :=
  OneGrant.grants s.connection.committed s.credential.committed

/-- All that is stored comes from one authorization, one callback has validated the connection since
the last disconnect, and those that have arrived after it have no part in what is stored or to be
stored. -/
structure Good (s : State) : Prop where
  oneGrant : ∀ g ∈ s.grants, ∀ g' ∈ s.grants, g = g'
  once : s.validations ≤ 1
  late : ∀ g ∈ s.late, g ∉ s.grants ∧ g ∉ s.checked

/-- No callback has committed since this one has read the connection, but for a disconnect after it,
and what its response does not have is not stored. -/
structure Supersedes (s : State) (p : Prepared) : Prop where
  current : p.grant ∉ s.overtaken
  refreshToken : p.encryptedRefreshToken = none →
    s.credential.committed.bind Credential.encryptedRefreshToken = none
  providerUserId : p.providerUserId = none → s.connection.committed.providerUserId = none
  context : p.providerContext = none → s.connection.committed.context = none

def CommitGuard (s : State) : Input → Prop
  | .commit id => ∀ x ∈ s.sessions.find? id,
      match x.operation with
      | .callback p => Supersedes s p
      | .refresh _ | .disconnect => True
  | _ => True

theorem foldl_of_id {α β : Type*} {f : β → α → β} {l : List α} (h : ∀ a ∈ l, ∀ b, f b a = b)
    (b : β) : l.foldl f b = b := by
  induction l generalizing b with
  | nil => rfl
  | cons a rest ih =>
    rw [List.foldl_cons, h a List.mem_cons_self]
    exact ih (fun a ha => h a (List.mem_cons_of_mem _ ha)) b

def connectionProgram : Program Connection Session where
  effect x := runConnection x.done
  holds x := ∃ statement ∈ x.done, statement.writesConnection = true
  reads _ _ := True
  effect_of_not_holds x hholds :=
    foldl_of_id fun statement hstatement _ => onConnection_of_writesConnection (by
      by_contra hwrites
      exact hholds ⟨statement, hstatement, by simpa using hwrites⟩)
  reads_of_not_holds _ _ _ := trivial

/-- A refresh has read the token of the row that it has locked. -/
def credentialProgram : Program (Option Credential) Session where
  effect x := runCredential x.done
  holds x := (∃ statement ∈ x.done, statement.writesConnection = false) ∨
    ∃ refreshToken, x.operation = .refresh (some refreshToken)
  reads x c := ∀ refreshToken, x.operation = .refresh (some refreshToken) →
    c.bind Credential.encryptedRefreshToken = some refreshToken
  effect_of_not_holds x hholds :=
    foldl_of_id fun statement hstatement _ => onCredential_of_writesConnection (by
      by_contra hwrites
      exact hholds (.inl ⟨statement, hstatement, by simpa using hwrites⟩))
  reads_of_not_holds x hholds _ refreshToken h := absurd (.inr ⟨refreshToken, h⟩) hholds

def Session.Scripted (x : Session) : Prop :=
  match x.phase with
  | .exchanged => x.done = [] ∧ ∃ p, x.operation = .callback p
  | .listing _ _ => x.done = [] ∧ x.operation = .refresh none
  | .locked => x.done = [] ∧ ∃ refreshToken, x.operation = .refresh (some refreshToken)
  | .writing remaining => x.operation.Allows (x.done ++ remaining)

structure Inv (s : State) : Prop where
  connection : Obeys connectionProgram.toRules s.connection s.sessions
  credential : Obeys credentialProgram.toRules s.credential s.sessions
  scripts : ∀ x ∈ s.sessions.rows, x.Scripted
  stored : ∀ g ∈ s.grants, g ∈ s.used
  fresh : ∀ x ∈ s.sessions.rows, ∀ p, x.operation = .callback p → p.grant ∈ s.used ∧
    p.grant ∉ s.grants
  distinct : ∀ x ∈ s.sessions.rows, ∀ y ∈ s.sessions.rows, ∀ p q, x.operation = .callback p →
    y.operation = .callback q → p.grant = q.grant → x = y
  validated : s.validations ≠ 0 → s.connection.committed.status ≠ .created
  idle : s.validations = 0 → s.late = [] ∧ s.overtaken = []
  late : ∀ g ∈ s.late, g ∈ s.used ∧ g ∉ s.grants ∧ g ∉ s.checked
  overtaken : s.validations ≠ 0 → ∀ g ∈ s.checked, g ∈ s.overtaken

section Run
variable {config : Config} {s t : State} {x y : Session} {g : OAuthState} {p : Prepared}
  {statement : Statement} {remaining : List Statement}

theorem mem_checked : g ∈ s.checked ↔ ∃ x ∈ s.sessions.rows, ∃ p remaining,
    x.operation = .callback p ∧ x.phase = .writing remaining ∧ p.grant = g := by
  unfold State.checked
  rw [List.mem_filterMap]
  refine exists_congr fun x => and_congr_right fun _ => ?_
  constructor
  · intro h
    split at h
    next p remaining hoperation hphase =>
      cases h
      exact ⟨p, remaining, hoperation, hphase, rfl⟩
    · cases h
  · rintro ⟨p, remaining, hoperation, hphase, rfl⟩
    rw [hoperation, hphase]

/-- A transaction goes on, and a callback does so past its check only where none has committed. -/
theorem Inv.put (h : Inv s) (hx : x ∈ s.sessions.rows) (hid : y.id = x.id)
    {connection : LockedRow Nat Connection} {credential : LockedRow Nat (Option Credential)}
    (hconnection : Obeys connectionProgram.toRules connection (s.sessions.put y))
    (hcredential : Obeys credentialProgram.toRules credential (s.sessions.put y))
    (hsame : connection.committed = s.connection.committed)
    (hsame' : credential.committed = s.credential.committed) (hscripted : y.Scripted)
    (hoperation : ∀ p, y.operation = .callback p → x.operation = .callback p ∧
      ((∃ remaining, x.phase = .writing remaining) ∨ y.phase = .exchanged ∨ s.validations = 0)) :
    Inv { s with connection, credential, sessions := s.sessions.put y } := by
  have hmem : ∀ z ∈ (s.sessions.put y).rows, z = y ∨ z ∈ s.sessions.rows ∧ z.id ≠ x.id := by
    intro z hz
    rw [← hid]
    exact Table.mem_put.mp hz
  have hgrants : grants connection.committed credential.committed = s.grants := by
    rw [hsame, hsame']
    rfl
  have hchecked : s.validations ≠ 0 →
      ∀ g ∈ ({ s with connection, credential, sessions := s.sessions.put y } : State).checked,
        g ∈ s.checked := by
    intro hvalidations g hg
    obtain ⟨z, hz, p, remaining, hcallback, hphase, rfl⟩ := mem_checked.mp hg
    rcases hmem z hz with rfl | ⟨hz, -⟩
    · obtain ⟨hcallback, ⟨remaining', hwriting⟩ | hexchanged | hnone⟩ := hoperation p hcallback
      · exact mem_checked.mpr ⟨x, hx, p, remaining', hcallback, hwriting, rfl⟩
      · rw [hexchanged] at hphase
        cases hphase
      · exact absurd hnone hvalidations
    · exact mem_checked.mpr ⟨z, hz, p, remaining, hcallback, hphase, rfl⟩
  refine
    { connection := hconnection
      credential := hcredential
      scripts := fun z hz => ?_
      stored := fun g hg => h.stored g (hgrants ▸ hg)
      fresh := fun z hz p hcallback => ?_
      distinct := fun z hz z' hz' p q hp hq hgrant => ?_
      validated := fun hvalidations => hsame ▸ h.validated hvalidations
      idle := h.idle
      late := fun g hg => ?_
      overtaken := fun hvalidations g hg => h.overtaken hvalidations g (hchecked hvalidations g hg) }
  · rcases hmem z hz with rfl | ⟨hz, -⟩
    · exact hscripted
    · exact h.scripts z hz
  · show _ ∧ _ ∉ grants connection.committed credential.committed
    rw [hgrants]
    rcases hmem z hz with rfl | ⟨hz, -⟩
    · exact h.fresh x hx p (hoperation p hcallback).1
    · exact h.fresh z hz p hcallback
  · rcases hmem z hz with rfl | ⟨hold, hne⟩ <;> rcases hmem z' hz' with rfl | ⟨hold', hne'⟩
    · rfl
    · exact absurd (h.distinct x hx z' hold' p q (hoperation p hp).1 hq hgrant ▸ rfl) hne'
    · exact absurd (h.distinct z hold x hx p q hp (hoperation q hq).1 hgrant ▸ rfl) hne
    · exact h.distinct z hold z' hold' p q hp hq hgrant
  · have hvalidations : s.validations ≠ 0 := by
      intro hnone
      rw [(h.idle hnone).1] at hg
      cases hg
    obtain ⟨hused, hnew, hnot⟩ := h.late g hg
    refine ⟨hused, ?_, fun hg' => hnot (hchecked hvalidations g hg')⟩
    show g ∉ grants connection.committed credential.committed
    rwa [hgrants]

theorem Inv.advance (h : Inv s) (hx : x ∈ s.sessions.rows) {phase : Phase}
    (hscripted : Session.Scripted { x with phase })
    (hchecked : ∀ p, x.operation = .callback p →
      (∃ remaining, x.phase = .writing remaining) ∨ phase = .exchanged ∨ s.validations = 0) :
    Inv (s.advance x phase) :=
  h.put (y := { x with phase }) hx rfl
    (Program.put h.connection hx rfl (fun _ => rfl) (fun _ h => h) fun h => h)
    (Program.put h.credential hx rfl (fun _ => rfl) (fun _ h => h) fun h => h)
    rfl rfl hscripted fun p hp => ⟨hp, hchecked p hp⟩

theorem checked_erase {connection : LockedRow Nat Connection}
    {credential : LockedRow Nat (Option Credential)} {id : Nat}
    (hg : g ∈ ({ s with connection, credential, sessions := s.sessions.erase id } : State).checked) :
    g ∈ s.checked := by
  obtain ⟨z, hz, hrest⟩ := mem_checked.mp hg
  exact mem_checked.mpr ⟨z, (Table.mem_erase.mp hz).1, hrest⟩

theorem Inv.drop (h : Inv s) (id : Nat) : Inv (s.drop id) where
  connection := h.connection.rollback id
  credential := h.credential.rollback id
  scripts x hx := h.scripts x (Table.mem_erase.mp hx).1
  stored := h.stored
  fresh x hx := h.fresh x (Table.mem_erase.mp hx).1
  distinct x hx y hy := h.distinct x (Table.mem_erase.mp hx).1 y (Table.mem_erase.mp hy).1
  validated := h.validated
  idle := h.idle
  late g hg :=
    have ⟨hused, hnew, hnot⟩ := h.late g hg
    ⟨hused, hnew, fun hg' => hnot (checked_erase hg')⟩
  overtaken hvalidations g hg := h.overtaken hvalidations g (checked_erase hg)

/-- A transaction begins; a callback does so with a state that has not been used. -/
theorem Inv.begin {operation : Operation} {phase : Phase} (h : Inv s)
    (hscripted : Session.Scripted ⟨s.begun, operation, phase, []⟩)
    (hrefresh : ∀ refreshToken, operation ≠ .refresh (some refreshToken))
    (hcallback : ∀ p, operation = .callback p → phase = .exchanged ∧ p.grant ∈ s.used ∧
      p.grant ∉ s.grants ∧
      ∀ x ∈ s.sessions.rows, ∀ q, x.operation = .callback q → q.grant ≠ p.grant)
    (hbegin : s.begin operation phase = some t) : Inv t := by
  obtain ⟨sessions, hinsert, rfl⟩ := Option.map_eq_some_iff.mp hbegin
  have hmem : ∀ z ∈ sessions.rows, z ∈ s.sessions.rows ∨ z = ⟨s.begun, operation, phase, []⟩ := by
    intro z hz
    rwa [(Table.insert?_eq_some.mp hinsert).2, List.mem_append, List.mem_singleton] at hz
  have hchecked : ∀ g ∈ ({ s with sessions, begun := s.begun + 1 } : State).checked,
      g ∈ s.checked := by
    intro g hg
    obtain ⟨z, hz, p, remaining, hoperation, hphase, rfl⟩ := mem_checked.mp hg
    rcases hmem z hz with hz | rfl
    · exact mem_checked.mpr ⟨z, hz, p, remaining, hoperation, hphase, rfl⟩
    · rw [show phase = _ from (hcallback p hoperation).1] at hphase
      cases hphase
  refine
    { connection := Program.insert h.connection hinsert fun ⟨_, h, _⟩ => (nomatch h)
      credential := Program.insert h.credential hinsert ?_
      scripts := fun z hz => ?_
      stored := h.stored
      fresh := fun z hz p hp => ?_
      distinct := fun z hz z' hz' p q hp hq hgrant => ?_
      validated := h.validated
      idle := h.idle
      late := fun g hg =>
        have ⟨hused, hnew, hnot⟩ := h.late g hg
        ⟨hused, hnew, fun hg' => hnot (hchecked g hg')⟩
      overtaken := fun hvalidations g hg => h.overtaken hvalidations g (hchecked g hg) }
  · rintro (⟨_, h, _⟩ | ⟨refreshToken, h⟩)
    · cases h
    · exact hrefresh refreshToken h
  · rcases hmem z hz with hz | rfl
    · exact h.scripts z hz
    · exact hscripted
  · rcases hmem z hz with hz | rfl
    · exact h.fresh z hz p hp
    · exact ⟨(hcallback p hp).2.1, (hcallback p hp).2.2.1⟩
  · rcases hmem z hz with hz | rfl <;> rcases hmem z' hz' with hz' | rfl
    · exact h.distinct z hz z' hz' p q hp hq hgrant
    · exact absurd hgrant ((hcallback q hq).2.2.2 z hz p hp)
    · exact absurd hgrant.symm ((hcallback p hp).2.2.2 z' hz' q hq)
    · rfl

theorem inv_write (h : Inv s) (hx : x ∈ s.sessions.rows)
    (hphase : x.phase = .writing (statement :: remaining))
    (hwrite : s.write? x statement remaining = some t) : Inv t := by
  have hscripted : Session.Scripted
      { x with phase := .writing remaining, done := x.done ++ [statement] } := by
    have hold := h.scripts x hx
    rw [Session.Scripted, hphase] at hold
    show x.operation.Allows (x.done ++ [statement] ++ remaining)
    rwa [List.append_assoc, List.singleton_append]
  have hoperation : ∀ p, x.operation = .callback p → x.operation = .callback p ∧
      ((∃ remaining, x.phase = .writing remaining) ∨ Phase.writing remaining = .exchanged ∨
        s.validations = 0) := fun p hp => ⟨hp, .inl ⟨_, hphase⟩⟩
  unfold State.write? at hwrite
  simp only at hwrite
  by_cases hwrites : statement.writesConnection = true
  · rw [if_pos hwrites] at hwrite
    obtain ⟨connection, hconnection, rfl⟩ := Option.map_eq_some_iff.mp hwrite
    have hsame : connection.committed = s.connection.committed := by
      rw [(write?_eq_some.mp hconnection).2]
    refine h.put (y := { x with phase := .writing remaining, done := x.done ++ [statement] }) hx rfl
      ?_ ?_ hsame rfl hscripted hoperation
    · exact Program.write h.connection hx hconnection rfl
        (fun a => by simp [connectionProgram, runConnection]) fun _ => trivial
    · refine Program.put h.credential hx rfl (fun a => ?_) (fun _ h => h) ?_
      · simp [credentialProgram, runCredential, onCredential_of_writesConnection hwrites]
      · rintro (⟨other, hother, hwrites'⟩ | hlocked)
        · rcases List.mem_append.mp hother with hother | hother
          · exact .inl ⟨other, hother, hwrites'⟩
          · rw [List.mem_singleton.mp hother, hwrites] at hwrites'
            cases hwrites'
        · exact .inr hlocked
  · rw [if_neg hwrites] at hwrite
    rw [Bool.not_eq_true] at hwrites
    obtain ⟨credential, hcredential, rfl⟩ := Option.map_eq_some_iff.mp hwrite
    have hsame : credential.committed = s.credential.committed := by
      rw [(write?_eq_some.mp hcredential).2]
    refine h.put (y := { x with phase := .writing remaining, done := x.done ++ [statement] }) hx rfl
      ?_ ?_ rfl hsame hscripted hoperation
    · refine Program.put h.connection hx rfl (fun a => ?_) (fun _ h => h) ?_
      · simp [connectionProgram, runConnection, onConnection_of_writesConnection hwrites]
      · rintro ⟨other, hother, hwrites'⟩
        rcases List.mem_append.mp hother with hother | hother
        · exact ⟨other, hother, hwrites'⟩
        · rw [List.mem_singleton.mp hother, hwrites] at hwrites'
          cases hwrites'
    · exact Program.write h.credential hx hcredential rfl
        (fun a => by simp [credentialProgram, runCredential]) fun h => h

theorem inv_execute (h : Inv s) (hx : x ∈ s.sessions.rows)
    (hphase : x.phase = .writing (statement :: remaining))
    (hexecute : s.execute x statement remaining = some t) : Inv t := by
  unfold State.execute at hexecute
  split at hexecute
  · -- the only transaction with a DELETE is a disconnect, which has it first
    cases hexecute
    refine h.advance hx ?_ fun p _ => .inl ⟨_, hphase⟩
    have hold := h.scripts x hx
    rw [Session.Scripted, hphase] at hold
    exact hold.skip
  · exact inv_write h hx hphase hexecute

/-- The rows after the commit of a transaction. -/
theorem Inv.committed (h : Inv s) (hx : x ∈ s.sessions.rows) :
    (s.connection.commit x.id).committed = runConnection x.done s.connection.committed ∧
      (s.credential.commit x.id).committed = runCredential x.done s.credential.committed :=
  ⟨Program.committed_commit h.connection hx, Program.committed_commit h.credential hx⟩

theorem Inv.allows (h : Inv s) (hx : x ∈ s.sessions.rows) (hphase : x.phase = .writing []) :
    x.operation.Allows x.done := by
  have hscripted := h.scripts x hx
  rw [Session.Scripted, hphase] at hscripted
  simpa using hscripted

/-- What a commit leaves stored was so before, or is of the callback that commits. -/
theorem Inv.grants_commit (h : Inv s) (hx : x ∈ s.sessions.rows) (hphase : x.phase = .writing [])
    (hg : g ∈ grants (s.connection.commit x.id).committed (s.credential.commit x.id).committed) :
    g ∈ s.grants ∨ ∃ p, x.operation = .callback p ∧ g = p.grant := by
  rw [(h.committed hx).1, (h.committed hx).2] at hg
  have hallows := h.allows hx hphase
  rcases mem_grants_run hg with hold | ⟨statement, hstatement, hg⟩
  · exact .inl hold
  · cases hoperation : x.operation with
    | callback p =>
      rw [hoperation] at hallows
      rw [show x.done = p.statements from hallows] at hstatement
      exact .inr ⟨p, rfl, Prepared.grants_statements hstatement hg⟩
    | refresh refreshToken =>
      rw [hoperation] at hallows
      cases refreshToken with
      | none =>
        rw [show x.done = [] from hallows] at hstatement
        cases hstatement
      | some refreshToken =>
        -- the token that has been refreshed is still there
        have hreads := (Program.view h.credential hx).2 refreshToken hoperation
        obtain ⟨c, hc, htoken⟩ := Option.bind_eq_some_iff.mp hreads
        left
        rw [(hallows statement hstatement).1 g hg, State.grants, grants, hc]
        refine List.mem_append_left _ (List.mem_cons_of_mem _ ?_)
        rw [htoken]
        exact List.mem_singleton.mpr rfl
    | disconnect =>
      rw [hoperation] at hallows
      rcases hallows with hdone | hdone <;> rw [hdone] at hstatement <;>
        simp [disconnectStatements] at hstatement
      · rcases hstatement with rfl | rfl <;> cases hg
      · rw [hstatement] at hg
        cases hg

/-- A transaction that commits leaves a state whose count and lists are as they are given. -/
theorem Inv.afterCommit (h : Inv s) (hx : x ∈ s.sessions.rows) (hphase : x.phase = .writing [])
    {validations : Nat} {late overtaken : List OAuthState}
    (hvalidated : validations ≠ 0 → (s.connection.commit x.id).committed.status ≠ .created)
    (hidle : validations = 0 → late = [] ∧ overtaken = []) (hsubset : ∀ g ∈ late, g ∈ s.late)
    (hovertaken : validations ≠ 0 → ∀ y ∈ (s.sessions.erase x.id).rows, ∀ q remaining,
      y.operation = .callback q → y.phase = .writing remaining → q.grant ∈ overtaken) :
    Inv { s with
      connection := s.connection.commit x.id
      credential := s.credential.commit x.id
      sessions := s.sessions.erase x.id
      validations, late, overtaken } := by
  have hgrants := fun g hg => h.grants_commit (g := g) hx hphase hg
  have hsub : ∀ y ∈ (s.sessions.erase x.id).rows, y ∈ s.sessions.rows ∧ y ≠ x := by
    intro y hy
    obtain ⟨hy, hne⟩ := Table.mem_erase.mp hy
    exact ⟨hy, fun hyx => hne (congrArg Session.id hyx)⟩
  have hown : ∀ p, x.operation = .callback p → p.grant ∈ s.checked ∧ p.grant ∈ s.used := by
    intro p hp
    exact ⟨mem_checked.mpr ⟨x, hx, p, [], hp, hphase, rfl⟩, (h.fresh x hx p hp).1⟩
  refine
    { connection := Program.commit h.connection x.id
      credential := Program.commit h.credential x.id
      scripts := fun y hy => h.scripts y (hsub y hy).1
      stored := fun g hg => ?_
      fresh := fun y hy q hq => ?_
      distinct := fun y hy z hz => h.distinct y (hsub y hy).1 z (hsub z hz).1
      validated := hvalidated
      idle := hidle
      late := fun g hg => ?_
      overtaken := fun hvalidations g hg => ?_ }
  · rcases hgrants g hg with hold | ⟨p, hp, rfl⟩
    · exact h.stored g hold
    · exact (hown p hp).2
  · obtain ⟨hy, hne⟩ := hsub y hy
    refine ⟨(h.fresh y hy q hq).1, fun hg => ?_⟩
    rcases hgrants _ hg with hold | ⟨p, hp, hsame⟩
    · exact (h.fresh y hy q hq).2 hold
    · exact hne (h.distinct y hy x hx q p hq hp hsame)
  · obtain ⟨hused, hnew, hnot⟩ := h.late g (hsubset g hg)
    refine ⟨hused, fun hg' => ?_, fun hg' => hnot ?_⟩
    · rcases hgrants g hg' with hold | ⟨p, hp, rfl⟩
      · exact hnew hold
      · exact hnot (hown p hp).1
    · obtain ⟨y, hy, hrest⟩ := mem_checked.mp hg'
      exact mem_checked.mpr ⟨y, (hsub y hy).1, hrest⟩
  · obtain ⟨y, hy, q, remaining, hq, hwriting, rfl⟩ := mem_checked.mp hg
    exact hovertaken hvalidations y hy q remaining hq hwriting

theorem inv_commit (h : Inv s) (hx : x ∈ s.sessions.rows) (hphase : x.phase = .writing []) :
    Inv (s.commit x) := by
  have hstatus := (h.committed hx).1
  have hallows := h.allows hx hphase
  have hothers : ∀ y ∈ (s.sessions.erase x.id).rows, ∀ q remaining, y.operation = .callback q →
      y.phase = .writing remaining → q.grant ∈ s.checked := by
    intro y hy q remaining hq hwriting
    exact mem_checked.mpr ⟨y, (Table.mem_erase.mp hy).1, q, remaining, hq, hwriting, rfl⟩
  unfold State.commit
  cases hoperation : x.operation with
  | callback p =>
    rw [hoperation] at hallows
    refine h.afterCommit hx hphase (fun _ => ?_) (fun h => absurd h (Nat.succ_ne_zero _))
      (fun _ h => h) ?_
    · rw [hstatus, show x.done = p.statements from hallows, Prepared.runConnection]
      exact fun h => (nomatch h)
    · intro _ y hy q remaining hq hwriting
      exact mem_checked.mpr ⟨y, hy, q, remaining, hq, hwriting, rfl⟩
  | refresh refreshToken =>
    rw [hoperation] at hallows
    refine h.afterCommit hx hphase (fun hvalidations => ?_) h.idle (fun _ h => h) ?_
    · have hold := h.validated hvalidations
      rw [hstatus]
      cases refreshToken with
      | none =>
        rw [show x.done = [] from hallows]
        exact hold
      | some refreshToken =>
        exact status_run (fun statement hstatement => (hallows statement hstatement).2) hold
    · intro hvalidations y hy q remaining hq hwriting
      exact h.overtaken hvalidations _ (hothers y hy q remaining hq hwriting)
  | disconnect =>
    exact h.afterCommit hx hphase (fun h => absurd rfl h) (fun _ => ⟨rfl, rfl⟩)
      (fun _ h => (nomatch h)) fun h => absurd rfl h

/-- A state is used. -/
theorem Inv.arrive (h : Inv s) (hnew : g ∉ s.used) :
    Inv { s with
      used := g :: s.used
      late := if s.validations = 0 then s.late else g :: s.late } where
  connection := h.connection
  credential := h.credential
  scripts := h.scripts
  stored g hg := List.mem_cons_of_mem _ (h.stored g hg)
  fresh x hx p hp :=
    have ⟨hused, hnot⟩ := h.fresh x hx p hp
    ⟨List.mem_cons_of_mem _ hused, hnot⟩
  distinct := h.distinct
  validated := h.validated
  idle hnone := by
    rw [if_pos hnone]
    exact h.idle hnone
  late g' hg' := by
    have hold : g' ∈ s.late → g' ∈ g :: s.used ∧ g' ∉ s.grants ∧ g' ∉ s.checked := fun hlate =>
      have ⟨hused, hnot⟩ := h.late g' hlate
      ⟨List.mem_cons_of_mem _ hused, hnot⟩
    split at hg'
    · exact hold hg'
    · rcases List.mem_cons.mp hg' with rfl | hg'
      · refine ⟨List.mem_cons_self, fun hg => hnew (h.stored _ hg), fun hg => hnew ?_⟩
        obtain ⟨x, hx, p, -, hp, -, rfl⟩ := mem_checked.mp hg
        exact (h.fresh x hx p hp).1
      · exact hold hg'
  overtaken := h.overtaken

theorem inv_lock (h : Inv s) (hx : x ∈ s.sessions.rows) (hdone : x.done = [])
    {refreshToken : Granted Bytes} {credential : LockedRow Nat (Option Credential)}
    (hexpiring : s.credential.committed.bind Credential.encryptedRefreshToken = some refreshToken)
    (hlock : s.credential.write? x.id (fun row => row) = some credential) :
    Inv { s with
      credential
      sessions := s.sessions.put
        { x with operation := .refresh (some refreshToken), phase := .locked } } := by
  refine h.put (y := { x with operation := .refresh (some refreshToken), phase := .locked }) hx rfl
    ?_ ?_ rfl ?_ ?_ fun _ h => by cases h
  · exact Program.put h.connection hx rfl (fun _ => rfl) (fun _ h => h) fun h => h
  · refine Program.write h.credential hx hlock rfl (fun _ => rfl) fun _ => ?_
    rintro _ ⟨⟩
    exact hexpiring
  · rw [(write?_eq_some.mp hlock).2]
  · exact ⟨hdone, refreshToken, rfl⟩

theorem inv_callback {grant : OAuthState} {answer : ProviderAnswer} (h : Inv s)
    (hstep : step config s (.callback grant answer) = some t) : Inv t := by
  simp only [step] at hstep
  split at hstep
  · cases hstep
  next hunused =>
    have hnew : grant ∉ s.used := by simpa using hunused
    have harrived := h.arrive hnew
    split at hstep
    · cases hstep
      exact harrived
    next p hprepared =>
      have hgrant := prepare_grant hprepared
      refine harrived.begin ?_ (fun _ h => by cases h) ?_ hstep
      · exact ⟨rfl, p, rfl⟩
      · rintro _ ⟨⟩
        refine ⟨rfl, ?_, ?_, fun x hx q hq hsame => ?_⟩
        · rw [hgrant]
          exact List.mem_cons_self
        · rw [hgrant]
          exact fun hg => hnew (h.stored _ hg)
        · rw [hgrant] at hsame
          exact hnew (hsame ▸ (h.fresh x hx q hq).1)

theorem inv_check {id : Nat} (h : Inv s) (hstep : step config s (.check id) = some t) : Inv t := by
  obtain ⟨x, hx, rfl, hnext⟩ := Table.find?_bind_eq_some.mp hstep
  split at hnext
  next p hoperation hphase =>
    have hdone := h.scripts x hx
    rw [Session.Scripted, hphase] at hdone
    split at hnext
    next hcreated =>
      cases hnext
      refine h.advance hx ?_ fun _ _ => .inr (.inr ?_)
      · show x.operation.Allows (x.done ++ p.statements)
        rw [hoperation, hdone.1]
        exact rfl
      · by_contra hvalidations
        exact h.validated hvalidations hcreated
    · cases hnext
      exact h.drop _
  · cases hnext

theorem inv_list {id : Nat} (h : Inv s) (hstep : step config s (.list id) = some t) : Inv t := by
  obtain ⟨x, hx, rfl, hnext⟩ := Table.find?_bind_eq_some.mp hstep
  split at hnext
  next expiringBefore providerKind hphase =>
    have hscripted := h.scripts x hx
    rw [Session.Scripted, hphase] at hscripted
    obtain ⟨hdone, hoperation⟩ := hscripted
    have hskip : Inv (s.advance x (.writing [])) := by
      refine h.advance hx ?_ fun p hp => ?_
      · show x.operation.Allows (x.done ++ [])
        rw [hoperation, hdone]
        exact rfl
      · rw [hoperation] at hp
        cases hp
    split at hnext
    · cases hnext
      exact hskip
    next refreshToken hexpiring =>
      split at hnext
      · cases hnext
        exact hskip
      next credential hlock =>
        cases hnext
        exact inv_lock h hx hdone (expiring_eq_some hexpiring) hlock
  · cases hnext

theorem inv_answer {id : Nat} {answer : ProviderAnswer} (h : Inv s)
    (hstep : step config s (.answer id answer) = some t) : Inv t := by
  obtain ⟨x, hx, rfl, hnext⟩ := Table.find?_bind_eq_some.mp hstep
  split at hnext
  next refreshToken hoperation hphase =>
    have hdone := h.scripts x hx
    rw [Session.Scripted, hphase] at hdone
    split at hnext
    · cases hnext
      exact h.drop _
    next statements hstatements =>
      cases hnext
      refine h.advance hx ?_ fun p hp => ?_
      · show x.operation.Allows (x.done ++ statements)
        rw [hoperation, hdone.1]
        exact refreshStatements_allowed hstatements
      · rw [hoperation] at hp
        cases hp
  · cases hnext

theorem inv_step {i : Input} (h : Inv s) (hstep : step config s i = some t) : Inv t := by
  cases i with
  | callback grant answer => exact inv_callback h hstep
  | check id => exact inv_check h hstep
  | refresh expiringBefore providerKind =>
    refine h.begin ?_ (fun _ h => by cases h) (fun _ h => by cases h) hstep
    exact ⟨rfl, rfl⟩
  | list id => exact inv_list h hstep
  | answer id answer => exact inv_answer h hstep
  | disconnect forUserId =>
    simp only [step] at hstep
    split at hstep
    · refine h.begin ?_ (fun _ h => by cases h) (fun _ h => by cases h) hstep
      exact .inl rfl
    · cases hstep
      exact h
  | execute id =>
    obtain ⟨x, hx, rfl, hnext⟩ := Table.find?_bind_eq_some.mp hstep
    split at hnext
    next statement remaining hphase => exact inv_execute h hx hphase hnext
    · cases hnext
  | commit id =>
    obtain ⟨x, hx, rfl, hnext⟩ := Table.find?_bind_eq_some.mp hstep
    split at hnext
    next hphase =>
      cases hnext
      exact inv_commit h hx hphase
    · cases hnext
  | rollback id =>
    obtain ⟨x, -, rfl⟩ := Option.map_eq_some_iff.mp hstep
    exact h.drop id

theorem grants_commit_eq : (s.commit x).grants =
    grants (s.connection.commit x.id).committed (s.credential.commit x.id).committed := by
  unfold State.commit
  cases x.operation <;> rfl

/-- After the commit of a callback. -/
theorem grants_commit_iff (h : Inv s) (hx : x ∈ s.sessions.rows) (hphase : x.phase = .writing [])
    (hoperation : x.operation = .callback p) :
    (∀ g ∈ (s.commit x).grants, ∀ g' ∈ (s.commit x).grants, g = g') ↔
      (p.encryptedRefreshToken = none →
        s.credential.committed.bind Credential.encryptedRefreshToken = none) ∧
      (p.providerUserId = none → s.connection.committed.providerUserId = none) ∧
      (p.providerContext = none → s.connection.committed.context = none) := by
  have hallows := h.allows hx hphase
  rw [hoperation] at hallows
  have hnew : p.grant ∉ s.grants := (h.fresh x hx p hoperation).2
  have hgrants : (s.commit x).grants = grants (runConnection x.done s.connection.committed)
      (runCredential x.done s.credential.committed) := by
    rw [grants_commit_eq, (h.committed hx).1, (h.committed hx).2]
  rw [hgrants, show x.done = p.statements from hallows, Prepared.runConnection,
    Prepared.runCredential]
  have hrefresh : ∀ v ∈ s.credential.committed.bind Credential.encryptedRefreshToken,
      v.grant ≠ p.grant := by
    rintro v hv hsame
    obtain ⟨c, hc, htoken⟩ := Option.bind_eq_some_iff.mp hv
    refine hnew (List.mem_append_left _ ?_)
    rw [hc, ← hsame]
    refine List.mem_cons_of_mem _ ?_
    rw [htoken]
    exact List.mem_singleton.mpr rfl
  have hproviderUserId : ∀ v ∈ s.connection.committed.providerUserId, v.grant ≠ p.grant := by
    intro v hv hsame
    refine hnew (List.mem_append_right _ ?_)
    simp [Connection.grants, Option.mem_def.mp hv, hsame]
  have hcontext : ∀ v ∈ s.connection.committed.context, v.grant ≠ p.grant := by
    intro v hv hsame
    refine hnew (List.mem_append_right _ ?_)
    simp [Connection.grants, Option.mem_def.mp hv, hsame]
  rw [← or_granted hrefresh, ← or_granted hproviderUserId, ← or_granted hcontext]
  constructor
  · intro hall
    have hown := fun g hg => hall g hg p.grant (mem_grants_some.mpr (.inl rfl))
    exact ⟨fun v hv => hown _ (mem_grants_some.mpr (.inr (.inl ⟨v, hv, rfl⟩))),
      fun v hv => hown _ (mem_grants_some.mpr (.inr (.inr (.inl ⟨v, hv, rfl⟩)))),
      fun v hv => hown _ (mem_grants_some.mpr (.inr (.inr (.inr (.inl ⟨v, hv, rfl⟩)))))⟩
  · rintro ⟨htoken, hid, hdescribed⟩
    suffices hown : ∀ g ∈ _, g = p.grant from
      fun g hg g' hg' => (hown g hg).trans (hown g' hg').symm
    intro g hg
    rcases mem_grants_some.mp hg with
      rfl | ⟨v, hv, rfl⟩ | ⟨v, hv, rfl⟩ | ⟨v, hv, rfl⟩ | ⟨v, hv, rfl⟩
    · rfl
    · exact htoken v hv
    · exact hid v hv
    · exact hdescribed v hv
    · cases hv
      rfl

theorem Inv.good_of_sub (h : Inv t) (hgood : Good s) (hgrants : ∀ g ∈ t.grants, g ∈ s.grants)
    (hvalidations : t.validations ≤ s.validations) : Good t where
  oneGrant g hg g' hg' := hgood.oneGrant g (hgrants g hg) g' (hgrants g' hg')
  once := hvalidations.trans hgood.once
  late g hg := (h.late g hg).2

theorem good_commit_iff (h : Inv s) (hx : x ∈ s.sessions.rows) (hphase : x.phase = .writing [])
    (hoperation : x.operation = .callback p) : Good (s.commit x) ↔
      Supersedes s p := by
  have hgrants := grants_commit_iff h hx hphase hoperation
  have hvalidations : (s.commit x).validations = s.validations + 1 := by
    unfold State.commit
    rw [hoperation]
  have hchecked : p.grant ∈ s.checked := mem_checked.mpr ⟨x, hx, p, [], hoperation, hphase, rfl⟩
  constructor
  · intro hafter
    obtain ⟨hrefresh, hid, hcontext⟩ := hgrants.mp hafter.oneGrant
    refine ⟨fun hovertaken => ?_, hrefresh, hid, hcontext⟩
    have honce := hafter.once
    have hnone : s.validations = 0 := by omega
    rw [(h.idle hnone).2] at hovertaken
    cases hovertaken
  · intro hsupersedes
    have hnone : s.validations = 0 := by
      by_contra hsome
      exact hsupersedes.current (h.overtaken hsome _ hchecked)
    exact
      { oneGrant := hgrants.mpr
          ⟨hsupersedes.refreshToken, hsupersedes.providerUserId, hsupersedes.context⟩
        once := by omega
        late := fun g hg => ((inv_commit h hx hphase).late g hg).2 }

/-- What is stored, and the count of the callbacks. -/
def SameStored (s t : State) : Prop := t.grants = s.grants ∧ t.validations = s.validations

theorem sameStored_write (h : s.write? x statement remaining = some t) : SameStored s t := by
  unfold State.write? at h
  simp only at h
  split at h
  · obtain ⟨connection, hconnection, rfl⟩ := Option.map_eq_some_iff.mp h
    rw [(write?_eq_some.mp hconnection).2]
    exact ⟨rfl, rfl⟩
  · obtain ⟨credential, hcredential, rfl⟩ := Option.map_eq_some_iff.mp h
    rw [(write?_eq_some.mp hcredential).2]
    exact ⟨rfl, rfl⟩

theorem sameStored_begin {operation : Operation} {phase : Phase}
    (h : s.begin operation phase = some t) : SameStored s t := by
  obtain ⟨sessions, -, rfl⟩ := Option.map_eq_some_iff.mp h
  exact ⟨rfl, rfl⟩

/-- Nothing but a commit changes what is stored. -/
theorem sameStored_step {i : Input} (hcommit : ∀ id, i ≠ .commit id)
    (hstep : step config s i = some t) : SameStored s t := by
  cases i with
  | callback grant answer =>
    simp only [step] at hstep
    split at hstep
    · cases hstep
    · split at hstep
      · cases hstep
        exact ⟨rfl, rfl⟩
      · obtain ⟨sessions, -, rfl⟩ := Option.map_eq_some_iff.mp hstep
        exact ⟨rfl, rfl⟩
  | check id =>
    obtain ⟨x, hfind, hnext⟩ := Option.bind_eq_some_iff.mp hstep
    split at hnext
    · split at hnext <;> cases hnext <;> exact ⟨rfl, rfl⟩
    · cases hnext
  | refresh expiringBefore providerKind => exact sameStored_begin hstep
  | list id =>
    obtain ⟨x, hfind, hnext⟩ := Option.bind_eq_some_iff.mp hstep
    split at hnext
    · split at hnext
      · cases hnext
        exact ⟨rfl, rfl⟩
      · split at hnext
        · cases hnext
          exact ⟨rfl, rfl⟩
        next credential hlock =>
          cases hnext
          rw [(write?_eq_some.mp hlock).2]
          exact ⟨rfl, rfl⟩
    · cases hnext
  | answer id answer =>
    obtain ⟨x, hfind, hnext⟩ := Option.bind_eq_some_iff.mp hstep
    split at hnext
    · split at hnext <;> cases hnext <;> exact ⟨rfl, rfl⟩
    · cases hnext
  | disconnect forUserId =>
    simp only [step] at hstep
    split at hstep
    · exact sameStored_begin hstep
    · cases hstep
      exact ⟨rfl, rfl⟩
  | execute id =>
    obtain ⟨x, hfind, hnext⟩ := Option.bind_eq_some_iff.mp hstep
    split at hnext
    · unfold State.execute at hnext
      split at hnext
      · cases hnext
        exact ⟨rfl, rfl⟩
      · exact sameStored_write hnext
    · cases hnext
  | commit id => exact absurd rfl (hcommit id)
  | rollback id =>
    obtain ⟨x, -, rfl⟩ := Option.map_eq_some_iff.mp hstep
    exact ⟨rfl, rfl⟩

/-- Only the commit of a callback can go wrong. -/
theorem good_step (h : Inv s) (hgood : Good s) {i : Input} (hstep : step config s i = some t) :
    Good t ↔ CommitGuard s i := by
  have hinv := inv_step h hstep
  have hother : (∀ id, i ≠ .commit id) → Good t := by
    intro hcommit
    obtain ⟨hgrants, hvalidations⟩ := sameStored_step hcommit hstep
    exact hinv.good_of_sub hgood (fun g hg => hgrants ▸ hg) hvalidations.le
  cases i with
  | commit id =>
    obtain ⟨x, hfind, hnext⟩ := Option.bind_eq_some_iff.mp hstep
    obtain ⟨hx, rfl⟩ := Table.find?_eq_some.mp hfind
    split at hnext
    next hphase =>
      cases hnext
      have hguard : CommitGuard s (.commit x.id) ↔
          match x.operation with
          | .callback p => Supersedes s p
          | .refresh _ | .disconnect => True := by
        constructor
        · exact fun hguard => hguard x hfind
        · intro hown y hy
          cases hfind.symm.trans hy
          exact hown
      rw [hguard]
      cases hoperation : x.operation with
      | callback p => exact good_commit_iff h hx hphase hoperation
      | refresh refreshToken | disconnect =>
        refine iff_of_true (hinv.good_of_sub hgood (fun g hg => ?_) ?_) trivial
        · rw [grants_commit_eq] at hg
          rcases h.grants_commit hx hphase hg with hold | ⟨p, hp, -⟩
          · exact hold
          · rw [hoperation] at hp
            cases hp
        · simp [State.commit, hoperation]
    · cases hnext
  | _ => exact iff_of_true (hother fun id h => by cases h) trivial

end Run

/-- In every run, the claims of one authorization on the connection are kept as long as every
callback that commits supersedes what is there. -/
theorem good_iff_guard (config : Config) (userId : UserId) (inputs : List Input) :
    Along (step config) (fun _ _ t => Good t) (initial userId) inputs ↔
      Along (step config) (fun s i _ => CommitGuard s i) (initial userId) inputs := by
  have hinv : Inv (initial userId) :=
    { connection := obeys_initial trivial trivial
      credential := obeys_initial trivial trivial
      scripts := fun _ hx => absurd hx Table.not_mem_empty
      stored := fun _ hg => (nomatch hg)
      fresh := fun _ hx => absurd hx Table.not_mem_empty
      distinct := fun _ hx => absurd hx Table.not_mem_empty
      validated := fun h => absurd rfl h
      idle := fun _ => ⟨rfl, rfl⟩
      late := fun _ hg => (nomatch hg)
      overtaken := fun h => absurd rfl h }
  have hgood : Good (initial userId) :=
    ⟨fun _ hg => (nomatch hg), Nat.zero_le 1, fun _ hg => (nomatch hg)⟩
  exact along_good_iff (fun s i t h hstep => inv_step h hstep)
    (fun s i t h hgood hstep => good_step h hgood hstep) hinv hgood
instance (s : State) : Decidable (Good s) :=
  decidable_of_iff
    ((∀ g ∈ s.grants, ∀ g' ∈ s.grants, g = g') ∧ s.validations ≤ 1 ∧
      ∀ g ∈ s.late, g ∉ s.grants ∧ g ∉ s.checked)
    ⟨fun ⟨oneGrant, once, late⟩ => ⟨oneGrant, once, late⟩,
      fun ⟨oneGrant, once, late⟩ => ⟨oneGrant, once, late⟩⟩

def slackConfig : Config := ⟨⟨latin1Cipher, fun _ => true⟩, ⟨1⟩, .slack⟩

/-- What Slack answers to the exchange of a code, for a user in a team. -/
def slackAnswer (authedUser : List (String × Json)) : ProviderAnswer where
  http := .answered 200 "OK"
    { text := ""
      json := some (.object
        [("ok", .bool true), ("team", .object [("id", .string "T01")]),
          ("authed_user", .object authedUser)])
      serdeError := "" }
  accessNonce := some zeroNonce
  refreshNonce := some zeroNonce
  now := 0

def firstAnswer : ProviderAnswer :=
  slackAnswer [("id", .string "U01"), ("access_token", .string "xoxp-1"),
    ("refresh_token", .string "xoxe-1")]

def secondAnswer : ProviderAnswer :=
  slackAnswer [("id", .string "U02"), ("access_token", .string "xoxp-2")]

def anonymousAnswer : ProviderAnswer := slackAnswer [("access_token", .string "xoxp-3")]

def writes (id statements : Nat) : List Input :=
  List.replicate statements (.execute id) ++ [.commit id]

/-- Two callbacks find the connection in `Created`; the second validates it once more, with its
access token and the refresh token of the first. -/
def concurrentCallbacks : List Input :=
  [.callback ⟨"a"⟩ firstAnswer, .callback ⟨"b"⟩ secondAnswer, .check 0, .check 1] ++ writes 0 4 ++
    writes 1 4

/-- One after the other, with a disconnect between them that leaves the user of the first. -/
def reconnection : List Input :=
  [.callback ⟨"a"⟩ firstAnswer, .check 0] ++ writes 0 4 ++ [.disconnect ⟨7⟩] ++ writes 1 2 ++
    [.callback ⟨"b"⟩ anonymousAnswer, .check 2] ++ writes 2 3

theorem callbacks_mix_grants :
    (Possible (step slackConfig) (initial ⟨7⟩) concurrentCallbacks ∧
      ¬Along (step slackConfig) (fun _ _ t => Good t) (initial ⟨7⟩) concurrentCallbacks) ∧
    Possible (step slackConfig) (initial ⟨7⟩) reconnection ∧
      ¬Along (step slackConfig) (fun _ _ t => Good t) (initial ⟨7⟩) reconnection := by
  decide +kernel

end UniversalInbox.OAuthCredential.OneGrant
