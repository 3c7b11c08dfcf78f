import UniversalInbox.Library.LockedRow
import UniversalInbox.Library.Transition
import UniversalInbox.Library.Table
import UniversalInbox.User

/-! The password reset token of an account, and the statements of the requests that issue, use and
discard it and of those that change the address, in any order. -/
namespace UniversalInbox.User.PasswordReset
open Transition

/-- The last three are the statements of the other services on the two rows, whatever these have
checked before. -/
inductive Operation where
  | sendPasswordResetEmail (emailAddress : EmailAddress)
  | resetPassword (token : PasswordResetToken) (newPasswordHash : String)
  | setPassword (newPasswordHash : String)
  | createUserAuth (passwordHash : String)
  | deleteUserAuth
  | updateUserProfile (patch : UserPatch)
deriving DecidableEq, Repr

/-- Where a request stands. `issuing`, `updatingPassword` and `removing` are after the snapshot of
their statement, with the row that it has found; `issued`, `changed` and `removed` are before the
commit. -/
inductive Phase where
  | requesting (emailAddress : EmailAddress)
  | drawing (emailAddress : EmailAddress)
  | issuing (token : PasswordResetToken) (user : UserRow) (authId : Nat)
  | mailing (token : PasswordResetToken) (user : UserRow)
  | issued (token : PasswordResetToken)
  | changing (token : Option PasswordResetToken) (newPasswordHash : String)
  | updatingPassword (token : Option PasswordResetToken) (newPasswordHash : String) (authId : Nat)
  | changed (token : Option PasswordResetToken)
  | creating (passwordHash : String)
  | deleting
  | removing (authId : Nat)
  | removed
  | patching (patch : UserPatch)
  | finished
deriving DecidableEq, Repr

structure Request where
  id : Nat
  phase : Phase
deriving DecidableEq, Repr

/-- What has happened to the password and its token. -/
inductive Event where
  | issued (token : PasswordResetToken)
  | changed (token : Option PasswordResetToken)
  | removed
deriving DecidableEq, Repr

/-- The requests that have drawn a token, the committed events, the newest first, the addresses to
which tokens were mailed, and the address that the request of a token has read. -/
structure Records where
  drawn : List (Nat × PasswordResetToken)
  log : List Event
  mailed : List (PasswordResetToken × EmailAddress)
  read : List (PasswordResetToken × Option EmailAddress)

/-- The row of the user, that of its local authentication method and the open requests; the records
are kept for the statements only. -/
structure State where
  user : LockedRow Nat UserRow
  auth : LockedRow Nat (Option LocalUserAuthRow)
  requests : Table Request.id
  begun : Nat
  records : Records
  refusals : List (Nat × UniversalInboxError)

/-- One input a statement; `beginUpdate` takes its snapshot, with the token that is drawn before,
and `write` has the lock of the row. -/
inductive Input where
  | begin (operation : Operation)
  | readUser (id : Nat)
  | beginUpdate (id : Nat) (token : PasswordResetToken)
  | write (id : Nat) (now : DateTime)
  | mail (id : Nat)
  | commit (id : Nat)
  | abort (id : Nat)
deriving DecidableEq, Repr

def Operation.phase : Operation → Phase
  | sendPasswordResetEmail emailAddress => .requesting emailAddress
  | resetPassword token newPasswordHash => .changing (some token) newPasswordHash
  | setPassword newPasswordHash => .changing none newPasswordHash
  | createUserAuth passwordHash => .creating passwordHash
  | deleteUserAuth => .deleting
  | updateUserProfile patch => .patching patch

/-- The events of a transaction that can commit. -/
def Phase.events? : Phase → Option (List Event)
  | issued token => some [.issued token]
  | changed token => some [.changed token]
  | removed => some [.removed]
  | finished => some []
  | _ => none

namespace Records

def draw (records : Records) (id : Nat) (token : PasswordResetToken)
    (email : Option EmailAddress) : Records :=
  { records with drawn := (id, token) :: records.drawn, read := (token, email) :: records.read }

def mail (records : Records) (token : PasswordResetToken) (email : EmailAddress) : Records :=
  { records with mailed := (token, email) :: records.mailed }

def happen (records : Records) (events : List Event) : Records :=
  { records with log := events ++ records.log }

end Records

namespace State

def advance (s : State) (x : Request) (phase : Phase) : State :=
  { s with requests := s.requests.put { x with phase } }

def commit (s : State) (id : Nat) (events : List Event) : State :=
  { s with
    user := s.user.commit id
    auth := s.auth.commit id
    requests := s.requests.erase id
    records := s.records.happen events }

/-- The transaction of the request ends without effect. -/
def drop (s : State) (id : Nat) : State :=
  { s with
    user := s.user.rollback id
    auth := s.auth.rollback id
    requests := s.requests.erase id }

def refuse (s : State) (id : Nat) (error : UniversalInboxError) : State :=
  { s.drop id with refusals := (id, error) :: s.refusals }

end State

def passwordNotUpdated (userId : UserId) : Option PasswordResetToken → UniversalInboxError
  | some _ => .invalidInputData s!"Invalid password reset token for user {userId.uuid}"
  | none => .invalidInputData s!"Failed to set password for user {userId.uuid}: no Local auth found"

/-- The condition of `update_password` on the token, when it is called with one. -/
def hasToken (token : Option PasswordResetToken) (auth : LocalUserAuthRow) : Bool :=
  token.all fun token => decide (auth.passwordResetToken = some token)

/-- A statement on the row that its snapshot has found: once no other transaction has the lock, its
condition is checked on the latest version. -/
def writeAuth (s : State) (x : Request) (condition : LocalUserAuthRow → Bool)
    (assign : LocalUserAuthRow → Option LocalUserAuthRow) (found : Phase) (missing : State) :
    Option State :=
  match (s.auth.view x.id).filter condition with
  | some auth =>
    (s.auth.write? x.id fun _ => assign auth).map fun written =>
      { s.advance x found with auth := written }
  | none => if s.auth.lockedFor x.id then none else some missing

def step (userId : UserId) (s : State) : Input → Option State
  | .begin operation =>
    (s.requests.insert? ⟨s.begun, operation.phase⟩).map fun requests =>
      { s with requests, begun := s.begun + 1 }
  | .readUser id =>
    (s.requests.find? id).bind fun x =>
      match x.phase with
      | .requesting emailAddress =>
        let user := s.user.view id
        some (s.advance x (if user.email = some emailAddress ∧ user.isTesting then .finished
          else .drawing emailAddress))
      | _ => none
  | .beginUpdate id token =>
    (s.requests.find? id).bind fun x =>
      match x.phase with
      | .drawing emailAddress =>
        let user := s.user.view id
        if s.records.drawn.any fun p => p.2 = token then none
        else if user.email = some emailAddress then
          match s.auth.view id with
          | some auth =>
            some { s.advance x (.issuing token user auth.id) with
              records := s.records.draw id token user.email }
          | none => some (s.advance x .finished)
        -- no row: the address is that of another account or of none
        else some (s.advance x .finished)
      | .changing token newPasswordHash =>
        match (s.auth.view id).filter (hasToken token) with
        | some auth => some (s.advance x (.updatingPassword token newPasswordHash auth.id))
        | none => some (s.refuse id (passwordNotUpdated userId token))
      | .deleting =>
        match s.auth.view id with
        | some auth => some (s.advance x (.removing auth.id))
        | none => some (s.advance x .finished)
      | _ => none
  | .write id now =>
    (s.requests.find? id).bind fun x =>
      match x.phase with
      | .issuing token user authId =>
        writeAuth s x (fun auth => auth.id = authId)
          (fun auth => some (updatePasswordResetParameters (some now) (some token) auth))
          (.mailing token user) (s.advance x .finished)
      | .updatingPassword token newPasswordHash authId =>
        writeAuth s x (fun auth => auth.id = authId && hasToken token auth)
          (fun auth => some (updatePassword newPasswordHash now auth)) (.changed token)
          (s.refuse id (passwordNotUpdated userId token))
      | .removing authId =>
        writeAuth s x (fun auth => auth.id = authId) (fun _ => none) .removed
          (s.advance x .finished)
      | .creating passwordHash =>
        if s.auth.lockedFor id then none
        else if (s.auth.view id).isSome then some (s.refuse id (authNotCreated userId))
        else
          -- the request tells the new row from those before it
          (s.auth.write? id fun _ => some (createLocalUserAuth (id + 1) passwordHash)).map
            fun auth => { s.advance x (.changed none) with auth }
      | .patching patch =>
        if patch.isEmpty then some (s.advance x .finished)
        else
          (s.user.write? id (updateUserProfile patch now)).map fun user =>
            { s.advance x .finished with user }
      | _ => none
  | .mail id =>
    (s.requests.find? id).bind fun x =>
      match x.phase with
      | .mailing token user =>
        match user.email with
        | some email =>
          some { s.advance x (.issued token) with records := s.records.mail token email }
        | none => some (s.refuse id (noAddress userId))
      | _ => none
  | .commit id =>
    (s.requests.find? id).bind fun x => x.phase.events?.map fun events => s.commit id events
  | .abort id => (s.requests.find? id).map fun _ => s.drop id

/-- An account without a reset token, with a password or without. -/
def initial (user : UserRow) (passwordHash : Option String) : State where
  user := ⟨user, none⟩
  auth := ⟨passwordHash.map (createLocalUserAuth 0), none⟩
  requests := Table.empty
  begun := 0
  records := ⟨[], [], [], []⟩
  refusals := []

/-- The token of a reset that succeeds with this step. -/
def State.resets (s : State) : Input → Option PasswordResetToken
  | .commit id =>
    (s.requests.find? id).bind fun x =>
      match x.phase with
      | .changed token => token
      | _ => none
  | _ => none

def Event.issuedToken : Event → Option PasswordResetToken
  | issued token => some token
  | changed _ | removed => none

/-- The token that an event is about. -/
def Event.token : Event → Option PasswordResetToken
  | issued token => some token
  | changed token => token
  | removed => none

def Event.changesPassword : Event → Bool
  | changed _ => true
  | issued _ | removed => false

/-- The token is the latest one, has not been used, and was issued after the last change of the
password. -/
structure Current (log : List Event) (token : PasswordResetToken) : Prop where
  latest : log.findSome? Event.issuedToken = some token
  unused : .changed (some token) ∉ log
  afterChanges : log.find? (fun e => e.changesPassword || decide (e = .issued token)) =
    some (.issued token)

/-- The token was mailed to the address that the account has. -/
def MailedToCurrent (s : State) (token : PasswordResetToken) : Prop :=
  ∃ p ∈ s.records.mailed, p.1 = token ∧ s.user.committed.email = some p.2

/-- The token was mailed to the address that the account had when the request of the token has read
it. -/
def MailedAsRead (records : Records) (token : PasswordResetToken) : Prop :=
  ∃ p ∈ records.mailed, p.1 = token ∧ (token, some p.2) ∈ records.read


/-- A token that is stored is the last thing that has happened. -/
def TokenInv (records : Records) (row : Option LocalUserAuthRow) : Prop :=
  ∀ auth ∈ row, ∀ token ∈ auth.passwordResetToken, MailedAsRead records token ∧
    ∃ earlier, records.log = .issued token :: earlier ∧ ∀ e ∈ earlier, e.token ≠ some token

def NoToken (row : Option LocalUserAuthRow) : Prop := ∀ auth ∈ row, auth.passwordResetToken = none

/-- The version of a transaction over the committed one, by where its request stands. -/
def WrittenInv (committed row : Option LocalUserAuthRow) : Phase → Prop
  | .mailing token _ | .issued token => ∀ auth ∈ row, auth.passwordResetToken = some token
  | .changed token =>
    NoToken row ∧ ∀ used ∈ token, ∃ auth ∈ committed, auth.passwordResetToken = some used
  | .removed => NoToken row
  | _ => False

/-- The request has drawn a token with which nothing has happened. -/
structure Fresh (records : Records) (id : Nat) (token : PasswordResetToken) : Prop where
  drawn : (id, token) ∈ records.drawn
  unlogged : ∀ e ∈ records.log, e.token ≠ some token

def RequestInv (records : Records) (id : Nat) : Phase → Prop
  | .issuing token user _ | .mailing token user =>
    Fresh records id token ∧ (token, user.email) ∈ records.read
  | .issued token => Fresh records id token ∧ MailedAsRead records token
  | _ => True

def Phase.writes : Phase → Prop
  | mailing _ _ | issued _ | changed _ | removed => True
  | _ => False

def rules (records : Records) : LockedRow.Rules (Option LocalUserAuthRow) Request where
  version _ := True
  committed := TokenInv records
  written x committed row := WrittenInv committed row x.phase
  session x := RequestInv records x.id x.phase
  writes x := x.phase.writes

structure RecordsInv (records : Records) : Prop where
  drawnOnce : ∀ p ∈ records.drawn, ∀ q ∈ records.drawn, p.2 = q.2 → p.1 = q.1
  logged : ∀ e ∈ records.log, ∀ token ∈ e.token, ∃ id, (id, token) ∈ records.drawn

structure Inv (s : State) : Prop where
  obeys : LockedRow.Obeys (rules s.records) s.auth s.requests
  records : RecordsInv s.records

section Run
variable {userId : UserId} {s t : State} {x : Request} {phase old : Phase}
  {records records' : Records} {token : PasswordResetToken}

/-- Nothing has happened and the records of mails and reads have grown. -/
structure Grows (records records' : Records) : Prop where
  drawn : ∀ p ∈ records.drawn, p ∈ records'.drawn
  log : records'.log = records.log
  mailed : ∀ p ∈ records.mailed, p ∈ records'.mailed
  read : ∀ p ∈ records.read, p ∈ records'.read

theorem MailedAsRead.mono (h : MailedAsRead records token)
    (hmailed : ∀ p ∈ records.mailed, p ∈ records'.mailed)
    (hread : ∀ p ∈ records.read, p ∈ records'.read) : MailedAsRead records' token :=
  have ⟨p, hp, htoken, hemail⟩ := h
  ⟨p, hmailed p hp, htoken, hread _ hemail⟩

theorem Fresh.mono {id : Nat} (h : Fresh records id token) (hgrows : Grows records records') :
    Fresh records' id token :=
  ⟨hgrows.drawn _ h.drawn, hgrows.log ▸ h.unlogged⟩

theorem RequestInv.mono {id : Nat} (h : RequestInv records id phase)
    (hgrows : Grows records records') : RequestInv records' id phase := by
  cases phase with
  | issuing _ _ _ | mailing _ _ => exact ⟨h.1.mono hgrows, hgrows.read _ h.2⟩
  | issued _ => exact ⟨h.1.mono hgrows, h.2.mono hgrows.mailed hgrows.read⟩
  | _ => trivial

theorem rules_le (hgrows : Grows records records') : (rules records).Le (rules records') where
  version _ h := h
  committed _ h auth hauth token htoken :=
    have ⟨hmailed, hlog⟩ := h auth hauth token htoken
    ⟨hmailed.mono hgrows.mailed hgrows.read, hgrows.log ▸ hlog⟩
  on _ := ⟨fun _ _ h => h, fun h => h.mono hgrows, id⟩

theorem Inv.grow (h : Inv s) (hgrows : Grows s.records records) (hrecords : RecordsInv records) :
    Inv { s with records } :=
  ⟨h.obeys.mono (rules_le hgrows), hrecords⟩

theorem Inv.requestInv (h : Inv s) (hx : x ∈ s.requests.rows) (hphase : x.phase = phase) :
    RequestInv s.records x.id phase := by
  rw [← hphase]
  exact h.obeys.session x hx

/-- A request goes on without a write. -/
theorem Inv.advance (h : Inv s) (hx : x ∈ s.requests.rows) (hold : x.phase = old)
    (hphase : RequestInv s.records x.id phase)
    (hwritten : ∀ committed row, WrittenInv committed row old → WrittenInv committed row phase)
    (hwrites : phase.writes → old.writes) : Inv (s.advance x phase) := by
  subst hold
  exact ⟨h.obeys.put (y := (⟨x.id, phase⟩ : Request)) hx rfl hphase
    (fun row _ hinv => hwritten _ row hinv) hwrites, h.records⟩

theorem Inv.drop (h : Inv s) (id : Nat) : Inv (s.drop id) :=
  ⟨h.obeys.rollback id, h.records⟩

theorem Inv.refuse (h : Inv s) (id : Nat) (error : UniversalInboxError) : Inv (s.refuse id error) :=
  ⟨h.obeys.rollback id, h.records⟩

theorem Inv.write (h : Inv s) {f : Option LocalUserAuthRow → Option LocalUserAuthRow}
    {written : LockedRow Nat (Option LocalUserAuthRow)}
    (hwrite : s.auth.write? x.id f = some written)
    (hwritten : WrittenInv s.auth.committed (f (s.auth.view x.id)) phase)
    (hphase : RequestInv s.records x.id phase) : Inv { s.advance x phase with auth := written } where
  obeys := h.obeys.write (y := (⟨x.id, phase⟩ : Request)) hwrite rfl trivial hwritten hphase
  records := h.records

theorem inv_of_writeAuth (h : Inv s) {condition : LocalUserAuthRow → Bool}
    {assign : LocalUserAuthRow → Option LocalUserAuthRow} {missing : State}
    (hstep : writeAuth s x condition assign phase missing = some t) (hmissing : Inv missing)
    (hphase : RequestInv s.records x.id phase)
    (hwritten : ∀ auth, s.auth.view x.id = some auth → condition auth = true →
      WrittenInv s.auth.committed (assign auth) phase) : Inv t := by
  unfold writeAuth at hstep
  split at hstep
  · rename_i auth hfound
    obtain ⟨hview, hcondition⟩ := Option.filter_eq_some_iff.mp hfound
    obtain ⟨written, hwrite, rfl⟩ := Option.map_eq_some_iff.mp hstep
    exact h.write hwrite (hwritten auth hview hcondition) hphase
  · split at hstep <;> cases hstep
    exact hmissing

/-- The request has drawn the token of the event, or something has happened with it before. -/
def Event.Known (records : Records) (id : Nat) (e : Event) : Prop :=
  ∀ token ∈ e.token, (id, token) ∈ records.drawn ∨ ∃ e' ∈ records.log, e'.token = some token

/-- What has happened by a commit is news to no other request. -/
theorem leOn_happen (hrecords : RecordsInv records) {events : List Event} {y : Request}
    (hknown : ∀ e ∈ events, e.Known records x.id) (hother : y.id ≠ x.id) :
    (rules records).LeOn (rules (records.happen events)) y := by
  have hfresh : ∀ token, Fresh records y.id token → Fresh (records.happen events) y.id token := by
    intro token h
    refine ⟨h.drawn, fun e he htoken => ?_⟩
    rcases List.mem_append.mp he with he | he
    · rcases hknown e he token htoken with hdrawn | ⟨e', he', htoken'⟩
      · exact hother (hrecords.drawnOnce _ h.drawn _ hdrawn rfl)
      · exact h.unlogged e' he' htoken'
    · exact h.unlogged e he htoken
  refine ⟨fun _ _ h => h, fun h => ?_, id⟩
  have h : RequestInv records y.id y.phase := h
  show RequestInv (records.happen events) y.id y.phase
  cases hphase : y.phase <;> rw [hphase] at h
  case issuing | mailing => exact ⟨hfresh _ h.1, h.2⟩
  case issued => exact ⟨hfresh _ h.1, h.2⟩
  all_goals trivial

theorem recordsInv_happen (h : RecordsInv records) {events : List Event} {id : Nat}
    (hknown : ∀ e ∈ events, e.Known records id) : RecordsInv (records.happen events) where
  drawnOnce := h.drawnOnce
  logged e he token htoken := by
    rcases List.mem_append.mp he with he | he
    · rcases hknown e he token htoken with hdrawn | ⟨e', he', htoken'⟩
      · exact ⟨id, hdrawn⟩
      · exact h.logged e' he' token htoken'
    · exact h.logged e he token htoken

theorem Inv.commit (h : Inv s) {events : List Event}
    (hknown : ∀ e ∈ events, e.Known s.records x.id)
    (htoken : TokenInv (s.records.happen events) (s.auth.view x.id)) : Inv (s.commit x.id events) where
  obeys := h.obeys.commit_of_le (fun _ h => h) htoken fun _ _ hother =>
    leOn_happen h.records hknown hother
  records := recordsInv_happen h.records hknown

theorem tokenInv_of_noToken {row : Option LocalUserAuthRow} (h : NoToken row) :
    TokenInv records row := by
  intro auth hauth token htoken
  rw [h auth hauth] at htoken
  cases htoken

theorem Inv.written (h : Inv s) (hx : x ∈ s.requests.rows) (hphase : x.phase = phase)
    (hwrites : phase.writes) : WrittenInv s.auth.committed (s.auth.view x.id) phase := by
  subst hphase
  exact h.obeys.written_of_writes hx hwrites

theorem Inv.view_eq (h : Inv s) (hx : x ∈ s.requests.rows) (hphase : x.phase = phase)
    (hunwritten : ∀ committed row, ¬WrittenInv committed row phase) :
    s.auth.view x.id = s.auth.committed := by
  subst hphase
  exact h.obeys.view_of_unwritten hx hunwritten

theorem inv_commit (h : Inv s) (hx : x ∈ s.requests.rows) {events : List Event}
    (hevents : x.phase.events? = some events) : Inv (s.commit x.id events) := by
  cases hphase : x.phase <;> rw [hphase] at hevents <;> cases hevents
  case issued token =>
    obtain ⟨hfresh, hmailed⟩ := h.requestInv hx hphase
    refine h.commit (fun e he used hused => ?_) fun auth hauth used hused => ?_
    · cases List.mem_singleton.mp he
      cases hused
      exact .inl hfresh.drawn
    · cases (h.written hx hphase trivial auth hauth).symm.trans hused
      exact ⟨hmailed, s.records.log, rfl, hfresh.unlogged⟩
  case changed token =>
    obtain ⟨hnone, hcommitted⟩ := h.written hx hphase trivial
    refine h.commit (fun e he used hused => ?_) (tokenInv_of_noToken hnone)
    cases List.mem_singleton.mp he
    obtain ⟨auth, hauth, htoken⟩ := hcommitted used hused
    obtain ⟨-, earlier, hlog, -⟩ := h.obeys.committed auth hauth used htoken
    exact .inr ⟨.issued used, hlog ▸ List.mem_cons_self, rfl⟩
  case removed =>
    refine h.commit (fun e he used hused => ?_) (tokenInv_of_noToken (h.written hx hphase trivial))
    cases List.mem_singleton.mp he
    cases hused
  case finished =>
    refine h.commit (fun e he => absurd he List.not_mem_nil) ?_
    rw [h.view_eq hx hphase fun _ _ h => h]
    exact h.obeys.committed

theorem grows_draw (records : Records) (id : Nat) (token : PasswordResetToken)
    (email : Option EmailAddress) : Grows records (records.draw id token email) :=
  ⟨fun _ h => List.mem_cons_of_mem _ h, rfl, fun _ h => h, fun _ h => List.mem_cons_of_mem _ h⟩

theorem grows_mail (records : Records) (token : PasswordResetToken) (email : EmailAddress) :
    Grows records (records.mail token email) :=
  ⟨fun _ h => h, rfl, fun _ h => List.mem_cons_of_mem _ h, fun _ h => h⟩

theorem recordsInv_draw (h : RecordsInv records) {id : Nat} {email : Option EmailAddress}
    (hnew : ∀ p ∈ records.drawn, p.2 ≠ token) : RecordsInv (records.draw id token email) where
  drawnOnce p hp q hq hsame := by
    rcases List.mem_cons.mp hp with rfl | hp <;> rcases List.mem_cons.mp hq with rfl | hq
    · rfl
    · exact absurd hsame.symm (hnew q hq)
    · exact absurd hsame (hnew p hp)
    · exact h.drawnOnce p hp q hq hsame
  logged e he used hused :=
    have ⟨id, hid⟩ := h.logged e he used hused
    ⟨id, List.mem_cons_of_mem _ hid⟩

theorem fresh_draw (h : RecordsInv records) {id : Nat} {email : Option EmailAddress}
    (hnew : ∀ p ∈ records.drawn, p.2 ≠ token) : Fresh (records.draw id token email) id token where
  drawn := List.mem_cons_self
  unlogged e he htoken :=
    have ⟨_, hid⟩ := h.logged e he token htoken
    hnew _ hid rfl

theorem requestInv_of_operation {id : Nat} (operation : Operation) :
    RequestInv records id operation.phase := by
  cases operation <;> trivial

theorem not_writes_of_operation (operation : Operation) : ¬operation.phase.writes := by
  cases operation <;> exact id

theorem inv_write {id : Nat} {now : DateTime} (h : Inv s)
    (hstep : step userId s (.write id now) = some t) : Inv t := by
  obtain ⟨x, hmem, rfl, hx⟩ := Table.find?_bind_eq_some.mp hstep
  split at hx <;> rename_i hphase
  · rename_i token user authId
    have hread : RequestInv s.records x.id (.issuing token user authId) := h.requestInv hmem hphase
    refine inv_of_writeAuth h hx (h.advance hmem hphase trivial (fun _ _ h => h) id) hread
      fun auth _ _ => ?_
    rintro _ ⟨⟩
    rfl
  · rename_i token newPasswordHash authId
    have hview := h.view_eq hmem hphase fun _ _ h => h
    refine inv_of_writeAuth h hx (h.refuse _ _) trivial fun auth hauth hcondition => ⟨?_, ?_⟩
    · rintro _ ⟨⟩
      rfl
    · rintro used ⟨⟩
      have htoken := (Bool.and_eq_true_iff.mp hcondition).2
      exact ⟨auth, hview ▸ hauth, of_decide_eq_true htoken⟩
  · exact inv_of_writeAuth h hx (h.advance hmem hphase trivial (fun _ _ h => h) id) trivial fun _ _ _ _ hnone => by
      cases hnone
  · split at hx
    · cases hx
    · split at hx
      · cases hx
        exact h.refuse _ _
      · obtain ⟨written, hwrite, rfl⟩ := Option.map_eq_some_iff.mp hx
        refine h.write hwrite ⟨?_, fun _ hnone => by cases hnone⟩ trivial
        rintro _ ⟨⟩
        rfl
  · split at hx
    · cases hx
      exact h.advance hmem hphase trivial (fun _ _ h => h) id
    · obtain ⟨written, -, rfl⟩ := Option.map_eq_some_iff.mp hx
      have hput : Inv (s.advance x .finished) := h.advance hmem hphase trivial (fun _ _ h => h) id
      exact ⟨hput.obeys, hput.records⟩
  · cases hx

theorem inv_step {i : Input} (h : Inv s) (hstep : step userId s i = some t) : Inv t := by
  cases i with
  | begin operation =>
    obtain ⟨requests, hinsert, rfl⟩ := Option.map_eq_some_iff.mp hstep
    exact ⟨h.obeys.insert hinsert (requestInv_of_operation operation)
      (not_writes_of_operation operation), h.records⟩
  | readUser id =>
    obtain ⟨x, hmem, rfl, hx⟩ := Table.find?_bind_eq_some.mp hstep
    split at hx <;> rename_i hphase <;> cases hx
    split <;> exact h.advance hmem hphase trivial (fun _ _ h => h) id
  | beginUpdate id token =>
    obtain ⟨x, hmem, rfl, hx⟩ := Table.find?_bind_eq_some.mp hstep
    split at hx <;> rename_i hphase
    · dsimp only at hx
      split at hx
      · cases hx
      · rename_i hdrawn
        have hnew : ∀ p ∈ s.records.drawn, p.2 ≠ token := fun p hp hsame =>
          hdrawn (List.any_eq_true.mpr ⟨p, hp, decide_eq_true hsame⟩)
        split at hx
        · split at hx <;> cases hx
          · have hdraw := h.grow (grows_draw s.records x.id token (s.user.view x.id).email)
              (recordsInv_draw h.records hnew)
            exact hdraw.advance hmem hphase ⟨fresh_draw h.records hnew, List.mem_cons_self⟩
              (fun _ _ h => h) id
          · exact h.advance hmem hphase trivial (fun _ _ h => h) id
        · cases hx
          exact h.advance hmem hphase trivial (fun _ _ h => h) id
    · split at hx <;> cases hx
      · exact h.advance hmem hphase trivial (fun _ _ h => h) id
      · exact h.refuse _ _
    · split at hx <;> cases hx <;> exact h.advance hmem hphase trivial (fun _ _ h => h) id
    · cases hx
  | write id now => exact inv_write h hstep
  | mail id =>
    obtain ⟨x, hmem, rfl, hx⟩ := Table.find?_bind_eq_some.mp hstep
    split at hx <;> rename_i hphase
    · rename_i token user
      split at hx <;> rename_i hemail <;> cases hx
      · rename_i email
        obtain ⟨hfresh, hread⟩ := h.requestInv hmem hphase
        rw [hemail] at hread
        have hmail := h.grow (grows_mail s.records token email)
          ⟨h.records.drawnOnce, h.records.logged⟩
        exact hmail.advance hmem hphase
          ⟨hfresh.mono (grows_mail s.records token email), (token, email), List.mem_cons_self, rfl, hread⟩
          (fun _ _ h => h) id
      · exact h.refuse _ _
    · cases hx
  | commit id =>
    obtain ⟨x, hmem, rfl, hx⟩ := Table.find?_bind_eq_some.mp hstep
    obtain ⟨events, hevents, rfl⟩ := Option.map_eq_some_iff.mp hx
    exact inv_commit h hmem hevents
  | abort id =>
    obtain ⟨x, -, rfl⟩ := Option.map_eq_some_iff.mp hstep
    exact h.drop id

theorem inv_initial (user : UserRow) (passwordHash : Option String) :
    Inv (initial user passwordHash) := by
  refine ⟨LockedRow.obeys_initial trivial (tokenInv_of_noToken fun auth hauth => ?_),
    fun _ h => (nomatch h), fun _ h => (nomatch h)⟩
  obtain ⟨hash, -, rfl⟩ := Option.map_eq_some_iff.mp hauth
  rfl

theorem current_of_log {earlier : List Event} (hunused : ∀ e ∈ earlier, e.token ≠ some token) :
    Current (.issued token :: earlier) token where
  latest := List.findSome?_cons_of_isSome rfl
  unused h := by
    rcases List.mem_cons.mp h with h | h
    · cases h
    · exact hunused _ h rfl
  afterChanges := List.find?_cons_of_pos (decide_eq_true rfl)

/-- A reset that succeeds finds its token in the committed row. -/
theorem current_of_resets {i : Input} (h : Inv s) (hresets : s.resets i = some token) :
    Current s.records.log token ∧ MailedAsRead s.records token := by
  cases i with
  | commit id =>
    obtain ⟨x, hmem, rfl, hx⟩ := Table.find?_bind_eq_some.mp hresets
    split at hx <;> rename_i hphase
    · subst hx
      obtain ⟨auth, hauth, htoken⟩ := (h.written hmem hphase trivial).2 token rfl
      obtain ⟨hmailed, earlier, hlog, hunused⟩ := h.obeys.committed auth hauth token htoken
      rw [hlog]
      exact ⟨current_of_log hunused, hmailed⟩
    · cases hx
  | begin _ | readUser _ | beginUpdate _ _ | write _ _ | mail _ | abort _ => cases hresets

/-- In every order of the statements of any requests: a reset succeeds only with the latest token,
unused and issued after the last change of the password, that was mailed to the address that the
account had when the request of the token read it. -/
theorem resets_current (userId : UserId) (user : UserRow) (passwordHash : Option String)
    (inputs : List Input) (hrun : Possible (step userId) (initial user passwordHash) inputs) :
    Along (step userId) (fun s i _ => ∀ token ∈ s.resets i,
      Current s.records.log token ∧ MailedAsRead s.records token)
      (initial user passwordHash) inputs := by
  have hinv : ∀ s i t, Inv s → step userId s i = some t → True → Inv t :=
    fun _ _ _ h hstep _ => inv_step h hstep
  exact hrun.of_invariant hinv (fun s i t h _ _ token htoken => current_of_resets h htoken)
    (inv_initial user passwordHash)

end Run

instance (log : List Event) (token : PasswordResetToken) : Decidable (Current log token) :=
  decidable_of_iff
    (log.findSome? Event.issuedToken = some token ∧ .changed (some token) ∉ log ∧
      log.find? (fun e => e.changesPassword || decide (e = .issued token)) = some (.issued token))
    ⟨fun ⟨h, h', h''⟩ => ⟨h, h', h''⟩, fun ⟨h, h', h''⟩ => ⟨h, h', h''⟩⟩

instance (s : State) (token : PasswordResetToken) : Decidable (MailedToCurrent s token) :=
  inferInstanceAs (Decidable (∃ p ∈ _, _))

def sampleUser : UserRow := createUser none none (some "john@doe.name") false 0

/-- The request 0: a token is mailed to the address of the account. -/
def requestRun : List Input :=
  [.begin (.sendPasswordResetEmail "john@doe.name"), .readUser 0, .beginUpdate 0 ⟨7⟩, .write 0 1,
    .mail 0, .commit 0]

theorem requestRun_reset :
    Along (step ⟨1⟩) (fun s i _ => ∀ token ∈ s.resets i,
      Current s.records.log token ∧ MailedAsRead s.records token) (initial sampleUser (some "hash"))
      (requestRun ++ [.begin (.resetPassword ⟨7⟩ "new hash"), .beginUpdate 1 ⟨0⟩, .write 1 2,
        .commit 1]) :=
  resets_current ⟨1⟩ sampleUser (some "hash") _ (by decide +kernel)

/-- The address is changed before the token is used. -/
def changedAddressRun : List Input :=
  requestRun ++ [.begin (.updateUserProfile { email := some "new@email.name" }), .write 1 2, .commit 1,
    .begin (.resetPassword ⟨7⟩ "new hash"), .beginUpdate 2 ⟨0⟩, .write 2 3, .commit 2]

/-- A token that was mailed to the former address of the account still resets its password. -/
theorem changedAddress_resets :
    Possible (step ⟨1⟩) (initial sampleUser (some "hash")) changedAddressRun ∧
      ¬Along (step ⟨1⟩) (fun s i _ => ∀ token ∈ s.resets i,
        Current s.records.log token ∧ MailedToCurrent s token) (initial sampleUser (some "hash"))
        changedAddressRun := by
  decide +kernel

end UniversalInbox.User.PasswordReset
