import UniversalInbox.Library.LockedRow
import UniversalInbox.Library.Transition
import UniversalInbox.Library.Table
import UniversalInbox.User

/-! The email address of a user, its validation, and the statements of the requests that write
them, in any order. -/
namespace UniversalInbox.User.EmailValidation
open Transition

inductive Operation where
  | patchUser (patch : UserPatch)
  | sendVerificationEmail
  | verifyEmail (token : EmailValidationToken)
  | linkOidc (kind : UserAuthKind) (oidcEmail : EmailAddress)
deriving DecidableEq, Repr

/-- Where a request stands. `permitted` is before the `UPDATE` of the profile, by `patch_user` or
to link an authentication method; `updatingProfile` and `updatingToken` are after the snapshot of
their `UPDATE`; `mailing` has the row that `UPDATE` has returned, `validating` the one whose token
matched; the request commits when `finished` or `linked`. -/
inductive Phase where
  | patching (patch : UserPatch)
  | linking (kind : UserAuthKind) (oidcEmail : EmailAddress)
  | reading (kind : UserAuthKind) (oidcEmail : EmailAddress)
  | permitted (patch : UserPatch) (kind : Option UserAuthKind)
  | updatingProfile (patch : UserPatch) (kind : Option UserAuthKind) (snapshot : UserRow)
  | sending
  | drawing
  | updatingToken (token : EmailValidationToken) (snapshot : UserRow)
  | mailing (token : EmailValidationToken) (user : UserRow)
  | verifying (token : EmailValidationToken)
  | validating (token : EmailValidationToken) (read : UserRow)
  | insertingAuth (kind : UserAuthKind)
  | linked (kind : UserAuthKind)
  | finished
deriving DecidableEq, Repr

structure Request where
  id : Nat
  phase : Phase
deriving DecidableEq, Repr

/-- The tokens drawn, those presented, and the addresses to which they were mailed. -/
structure Records where
  drawn : List EmailValidationToken
  presented : List EmailValidationToken
  mailed : List (EmailValidationToken × EmailAddress)

/-- The row of the user, the kinds of its committed authentication methods and the open requests;
the records are kept for the statements only. -/
structure State where
  row : LockedRow Nat UserRow
  kinds : List UserAuthKind
  requests : Table Request.id
  begun : Nat
  records : Records
  refusals : List (Nat × UniversalInboxError)

/-- One input a statement; `beginUpdate` takes its snapshot, with the token that an `UPDATE` of the
validation columns writes, and `write` has the lock of the row. -/
inductive Input where
  | begin (operation : Operation)
  | readAuths (id : Nat)
  | readUser (id : Nat)
  | beginUpdate (id : Nat) (token : EmailValidationToken)
  | write (id : Nat) (now : DateTime)
  | mail (id : Nat)
  | insertAuth (id : Nat)
  | commit (id : Nat)
  | abort (id : Nat)
deriving DecidableEq, Repr

def Operation.phase : Operation → Phase
  | patchUser patch => .patching patch
  | sendVerificationEmail => .sending
  | verifyEmail token => .verifying token
  | linkOidc kind oidcEmail => .linking kind oidcEmail

namespace Records

def present (records : Records) : Operation → Records
  | .verifyEmail token => { records with presented := token :: records.presented }
  | .patchUser _ | .sendVerificationEmail | .linkOidc _ _ => records

def draw (records : Records) (token : EmailValidationToken) : Records :=
  { records with drawn := token :: records.drawn }

def mail (records : Records) (token : EmailValidationToken) (email : EmailAddress) : Records :=
  { records with mailed := (token, email) :: records.mailed }

end Records

namespace State

def advance (s : State) (x : Request) (phase : Phase) : State :=
  { s with requests := s.requests.put { x with phase } }

/-- The transaction of the request ends without effect. -/
def drop (s : State) (id : Nat) : State :=
  { s with row := s.row.rollback id, requests := s.requests.erase id }

def refuse (s : State) (id : Nat) (error : UniversalInboxError) : State :=
  { s.drop id with refusals := (id, error) :: s.refusals }

end State

/-- The email domain blacklist, where an address is about to be written. -/
def blacklisted (service : UserService) (patch : UserPatch) : Option UniversalInboxError :=
  (patch.email.bind service.rejectionMessage).map .forbidden

def emailLockedByOidc : UniversalInboxError :=
  .invalidInputData "Email cannot be changed while an OIDC authentication method is linked"

def emailMismatch (oidcEmail currentEmail : EmailAddress) : UniversalInboxError :=
  .invalidInputData
    s!"The email from the OIDC account ({oidcEmail}) does not match your current email ({currentEmail})"

def invalidToken (userId : UserId) : UniversalInboxError :=
  .invalidInputData s!"Invalid email validation token for user {userId.uuid}"

/-- `patch_user` up to its `UPDATE`, with the authentication methods it has read. -/
def patchUser (service : UserService) (kinds : List UserAuthKind) (patch : UserPatch) :
    Except UniversalInboxError Phase :=
  if patch.email.isSome && kinds.any UserAuthKind.isOidc then .error emailLockedByOidc
  else
    match blacklisted service patch with
    | some error => .error error
    | none => .ok (if patch.isEmpty then .finished else .permitted patch none)

/-- `link_oidc_auth_method` up to its read of the user. -/
def linkOidc (userId : UserId) (kinds : List UserAuthKind) (kind : UserAuthKind)
    (oidcEmail : EmailAddress) : Except UniversalInboxError Phase :=
  if !kind.isOidc then .error (cannotLink kind)
  else if kinds.contains kind then .error (.alreadyExists userId.uuid)
  else .ok (.reading kind oidcEmail)

/-- `link_oidc_auth_method` from its read of the user on. -/
def linkWith (service : UserService) (user : UserRow) (kind : UserAuthKind)
    (oidcEmail : EmailAddress) : Except UniversalInboxError Phase :=
  match user.email with
  | some currentEmail =>
    if currentEmail ≠ oidcEmail then .error (emailMismatch oidcEmail currentEmail)
    else .ok (.insertingAuth kind)
  | none =>
    let patch : UserPatch := { email := some oidcEmail }
    match blacklisted service patch with
    | some error => .error error
    | none => .ok (.permitted patch (some kind))

def verifyEmail (userId : UserId) (user : UserRow) (token : EmailValidationToken) :
    Except UniversalInboxError Phase :=
  if user.emailValidationToken = some token then .ok (.validating token user)
  else .error (invalidToken userId)

/-- After the `UPDATE` of the profile: the authentication method is inserted, or the verification
email is sent if the address was in the patch and the row is reported as updated. -/
def afterProfile (patch : UserPatch) (snapshot : UserRow) : Option UserAuthKind → Phase
  | some kind => .insertingAuth kind
  | none => if patch.email.isSome && profileUpdated patch snapshot then .sending else .finished

def resume (s : State) (x : Request) : Except UniversalInboxError Phase → State
  | .ok phase => s.advance x phase
  | .error error => s.refuse x.id error

def step (service : UserService) (userId : UserId) (s : State) : Input → Option State
  | .begin operation =>
    (s.requests.insert? ⟨s.begun, operation.phase⟩).map fun requests =>
      { s with requests, begun := s.begun + 1, records := s.records.present operation }
  | .readAuths id =>
    (s.requests.find? id).bind fun x =>
      match x.phase with
      | .patching patch => some (resume s x (patchUser service s.kinds patch))
      | .linking kind oidcEmail => some (resume s x (linkOidc userId s.kinds kind oidcEmail))
      | _ => none
  | .readUser id =>
    (s.requests.find? id).bind fun x =>
      match x.phase with
      | .reading kind oidcEmail =>
        some (resume s x (linkWith service (s.row.view id) kind oidcEmail))
      | .sending => some (s.advance x (if (s.row.view id).isTesting then .finished else .drawing))
      | .verifying token => some (resume s x (verifyEmail userId (s.row.view id) token))
      | _ => none
  | .beginUpdate id token =>
    (s.requests.find? id).bind fun x =>
      match x.phase with
      | .permitted patch kind => some (s.advance x (.updatingProfile patch kind (s.row.view id)))
      | .drawing =>
        if token ∈ s.records.drawn then none
        else
          some { s.advance x (.updatingToken token (s.row.view id)) with
            records := s.records.draw token }
      | _ => none
  | .write id now =>
    (s.requests.find? id).bind fun x =>
      match x.phase with
      | .updatingProfile patch kind snapshot =>
        (s.row.write? id (updateUserProfile patch now)).map fun row =>
          { s.advance x (afterProfile patch snapshot kind) with row }
      | .updatingToken token snapshot =>
        (s.row.write? id (updateEmailValidationParameters none (some now) (some token))).map fun row =>
          { s.advance x (if emailValidationParametersUpdated none (some now) (some token) snapshot
              then .mailing token (row.view id) else .finished) with row }
      | .validating _ _ =>
        (s.row.write? id (updateEmailValidationParameters (some now) none none)).map fun row =>
          { s.advance x .finished with row }
      | _ => none
  | .mail id =>
    (s.requests.find? id).bind fun x =>
      match x.phase with
      | .mailing token user =>
        match user.email with
        | some email =>
          some { s.advance x .finished with records := s.records.mail token email }
        | none => some (s.refuse id (noAddress userId))
      | _ => none
  | .insertAuth id =>
    (s.requests.find? id).bind fun x =>
      match x.phase with
      | .insertingAuth kind =>
        if s.requests.rows.any fun y => y.phase = .linked kind then none
        else if s.kinds.contains kind then some (s.refuse id (authNotCreated userId))
        else some (s.advance x (.linked kind))
      | _ => none
  | .commit id =>
    (s.requests.find? id).bind fun x =>
      match x.phase with
      | .finished => some { s with row := s.row.commit id, requests := s.requests.erase id }
      | .linked kind =>
        some { s with row := s.row.commit id, requests := s.requests.erase id, kinds := kind :: s.kinds }
      | _ => none
  | .abort id => (s.requests.find? id).map fun _ => s.drop id

/-- A user as it was created, with its authentication methods. -/
def initial (firstName lastName : Option String) (email : Option EmailAddress) (isTesting : Bool)
    (now : DateTime) (kinds : List UserAuthKind) : State :=
  ⟨⟨createUser firstName lastName email isTesting now, none⟩, kinds, Table.empty, 0, ⟨[], [], []⟩,
    []⟩

/-- The date of a row is the user's doing: a token was presented that had been mailed to the address
of the row. -/
def DateEarned (records : Records) (row : UserRow) : Prop :=
  row.emailValidatedAt.isSome →
    ∃ email ∈ row.email, ∃ token ∈ records.presented, (token, email) ∈ records.mailed

/-- The stored date is truthful, and a step that leaves the address alone does not clear it. -/
structure Truthful (s t : State) : Prop where
  earned : DateEarned t.records t.row.committed
  kept : t.row.committed.email = s.row.committed.email →
    s.row.committed.emailValidatedAt.isSome → t.row.committed.emailValidatedAt.isSome

/-- An `UPDATE` of the profile clears the date of no address that stays, and leaves no token behind
with a new one unless a verification email follows; the address has not changed since a token was
read when the date is written. -/
def WriteGuard (row : UserRow) : Phase → Prop
  | .updatingProfile patch kind snapshot => ∀ email ∈ patch.email,
      if row.email = some email then row.emailValidatedAt = none
      else row.emailValidationToken = none ∨ kind = none ∧ profileUpdated patch snapshot = true
  | .validating _ read => row.email = read.email
  | _ => True

/-- Each `UPDATE` meets its guard on the row as it finds it. -/
def AddressGuard (s : State) : Input → Prop
  | .write id _ => ∀ x ∈ s.requests.rows, x.id = id → WriteGuard (s.row.view id) x.phase
  | _ => True

/-- The stored token was mailed to the stored address. -/
def TokenMailed (records : Records) (row : UserRow) : Prop :=
  ∀ token ∈ row.emailValidationToken, ∃ email ∈ row.email, (token, email) ∈ records.mailed

/-- What holds of every version of the row; a test account has no token. -/
structure RowInv (isTesting : Bool) (records : Records) (row : UserRow) : Prop where
  earned : DateEarned records row
  testing : row.isTesting = isTesting
  token : ∀ token ∈ row.emailValidationToken, isTesting = false ∧ token ∈ records.drawn

/-- A version of the row that keeps the date of its address. -/
def Keeps (committed row : UserRow) : Prop :=
  row.email = committed.email → committed.emailValidatedAt.isSome → row.emailValidatedAt.isSome

/-- The version of a transaction, by where its request stands. -/
def PendingInv (records : Records) (row : UserRow) : Phase → Prop
  | .sending | .drawing | .updatingToken _ _ => True
  | .mailing token user => row = user ∧ row.emailValidationToken = some token
  | .insertingAuth _ | .linked _ | .finished => TokenMailed records row
  | _ => False

/-- What a request has read. -/
def PhaseInv (isTesting : Bool) (records : Records) : Phase → Prop
  | .drawing => isTesting = false
  | .updatingToken token snapshot =>
    isTesting = false ∧ token ∈ records.drawn ∧ snapshot.emailValidationToken ≠ some token
  | .verifying token => token ∈ records.presented
  | .validating token read =>
    token ∈ records.presented ∧ ∃ email ∈ read.email, (token, email) ∈ records.mailed
  | _ => True

def rules (isTesting : Bool) (records : Records) : LockedRow.Rules UserRow Request where
  version := RowInv isTesting records
  committed := TokenMailed records
  written x committed row := Keeps committed row ∧ PendingInv records row x.phase
  session x := PhaseInv isTesting records x.phase

def Inv (isTesting : Bool) (s : State) : Prop :=
  LockedRow.Obeys (rules isTesting s.records) s.row s.requests

section Run
variable {service : UserService} {userId : UserId} {isTesting : Bool} {s t : State} {x : Request}
  {phase : Phase} {row : UserRow} {records records' : Records}

/-- The records only grow. -/
structure Grows (records records' : Records) : Prop where
  drawn : ∀ token ∈ records.drawn, token ∈ records'.drawn
  presented : ∀ token ∈ records.presented, token ∈ records'.presented
  mailed : ∀ p ∈ records.mailed, p ∈ records'.mailed

theorem TokenMailed.mono (h : TokenMailed records row) (hgrows : Grows records records') :
    TokenMailed records' row :=
  fun token htoken =>
    have ⟨email, hemail, hmailed⟩ := h token htoken
    ⟨email, hemail, hgrows.mailed _ hmailed⟩

theorem RowInv.mono (h : RowInv isTesting records row) (hgrows : Grows records records') :
    RowInv isTesting records' row where
  earned hdate :=
    have ⟨email, hemail, token, htoken, hmailed⟩ := h.earned hdate
    ⟨email, hemail, token, hgrows.presented _ htoken, hgrows.mailed _ hmailed⟩
  testing := h.testing
  token token htoken := ⟨(h.token token htoken).1, hgrows.drawn _ (h.token token htoken).2⟩

theorem PendingInv.mono (h : PendingInv records row phase) (hgrows : Grows records records') :
    PendingInv records' row phase := by
  cases phase with
  | insertingAuth _ | linked _ | finished => exact TokenMailed.mono h hgrows
  | _ => exact h

theorem PhaseInv.mono (h : PhaseInv isTesting records phase) (hgrows : Grows records records') :
    PhaseInv isTesting records' phase := by
  cases phase with
  | updatingToken _ _ => exact ⟨h.1, hgrows.drawn _ h.2.1, h.2.2⟩
  | verifying _ => exact hgrows.presented _ h
  | validating _ _ =>
    obtain ⟨hpresented, email, hemail, hmailed⟩ := h
    exact ⟨hgrows.presented _ hpresented, email, hemail, hgrows.mailed _ hmailed⟩
  | _ => exact h

theorem rules_le (hgrows : Grows records records') :
    (rules isTesting records).Le (rules isTesting records') where
  version _ h := h.mono hgrows
  committed _ h := h.mono hgrows
  on _ := ⟨fun _ _ h => ⟨h.1, h.2.mono hgrows⟩, fun h => h.mono hgrows, id⟩

theorem Grows.present (records : Records) (operation : Operation) :
    Grows records (records.present operation) := by
  cases operation with
  | verifyEmail token => exact ⟨fun _ h => h, fun _ h => List.mem_cons_of_mem _ h, fun _ h => h⟩
  | patchUser _ | sendVerificationEmail | linkOidc _ _ => exact ⟨fun _ h => h, fun _ h => h, fun _ h => h⟩

theorem Grows.draw (records : Records) (token : EmailValidationToken) :
    Grows records (records.draw token) :=
  ⟨fun _ h => List.mem_cons_of_mem _ h, fun _ h => h, fun _ h => h⟩

theorem Grows.mail (records : Records) (token : EmailValidationToken) (email : EmailAddress) :
    Grows records (records.mail token email) :=
  ⟨fun _ h => h, fun _ h => h, fun _ h => List.mem_cons_of_mem _ h⟩

theorem phaseInv_of_operation (operation : Operation) :
    PhaseInv isTesting (records.present operation) operation.phase := by
  cases operation with
  | verifyEmail token => exact List.mem_cons_self
  | patchUser _ | sendVerificationEmail | linkOidc _ _ => trivial

theorem Inv.phaseInv (h : Inv isTesting s) (hx : x ∈ s.requests.rows) (hphase : x.phase = phase) :
    PhaseInv isTesting s.records phase := by
  rw [← hphase]
  exact h.session x hx

/-- A request that has written nothing sees the committed row. -/
theorem Inv.view_eq (h : Inv isTesting s) (hx : x ∈ s.requests.rows) (hphase : x.phase = phase)
    (hunwritten : ∀ row, ¬PendingInv s.records row phase) : s.row.view x.id = s.row.committed :=
  LockedRow.Obeys.view_of_unwritten h hx fun _ row hinv =>
    hunwritten row (by rw [← hphase]; exact hinv.2)

theorem Inv.advance {old : Phase} (h : Inv isTesting s) (hx : x ∈ s.requests.rows)
    (hold : x.phase = old) (hphase : PhaseInv isTesting s.records phase)
    (hpending : ∀ row, RowInv isTesting s.records row → PendingInv s.records row old →
      PendingInv s.records row phase) :
    Inv isTesting (s.advance x phase) :=
  LockedRow.Obeys.put (y := (⟨x.id, phase⟩ : Request)) h hx rfl hphase
    (fun row hrow hinv => ⟨hinv.1, hpending row hrow (by rw [← hold]; exact hinv.2)⟩) id

/-- A request that has written nothing goes on. -/
theorem Inv.resume {old : Phase} (h : Inv isTesting s) (hx : x ∈ s.requests.rows)
    (hold : x.phase = old) (hunwritten : ∀ row, ¬PendingInv s.records row old)
    {result : Except UniversalInboxError Phase}
    (hphase : ∀ phase, result = .ok phase → PhaseInv isTesting s.records phase) :
    Inv isTesting (resume s x result) := by
  cases result with
  | ok phase => exact h.advance hx hold (hphase phase rfl) fun row _ hinv => absurd hinv (hunwritten row)
  | error error => exact LockedRow.Obeys.rollback h x.id

theorem Inv.write (h : Inv isTesting s) {f : UserRow → UserRow} {written : LockedRow Nat UserRow}
    (hwrite : s.row.write? x.id f = some written)
    (hrow : RowInv isTesting s.records (f (s.row.view x.id)))
    (hkeeps : Keeps s.row.committed (f (s.row.view x.id)))
    (hpending : PendingInv s.records (f (s.row.view x.id)) phase)
    (hphase : PhaseInv isTesting s.records phase) :
    Inv isTesting { s.advance x phase with row := written } :=
  LockedRow.Obeys.write (y := (⟨x.id, phase⟩ : Request)) h hwrite rfl hrow ⟨hkeeps, hpending⟩ hphase

/-- What a request commits has its token mailed. -/
theorem Inv.commit {old : Phase} (h : Inv isTesting s) (hx : x ∈ s.requests.rows)
    (hold : x.phase = old)
    (hmailed : ∀ row, PendingInv s.records row old → TokenMailed s.records row) :
    LockedRow.Obeys (rules isTesting s.records) (s.row.commit x.id) (s.requests.erase x.id) :=
  LockedRow.Obeys.commit h hx fun row _ hinv => hmailed row (by rw [← hold]; exact hinv.2)

theorem phaseInv_patchUser {kinds : List UserAuthKind} {patch : UserPatch}
    (h : patchUser service kinds patch = .ok phase) : PhaseInv isTesting records phase := by
  unfold patchUser at h
  split at h
  · cases h
  · split at h
    · cases h
    · cases h
      split <;> trivial

theorem phaseInv_linkOidc {kinds : List UserAuthKind} {kind : UserAuthKind}
    {oidcEmail : EmailAddress} (h : linkOidc userId kinds kind oidcEmail = .ok phase) :
    PhaseInv isTesting records phase := by
  unfold linkOidc at h
  split at h
  · cases h
  · split at h <;> cases h
    trivial

theorem phaseInv_linkWith {user : UserRow} {kind : UserAuthKind} {oidcEmail : EmailAddress}
    (h : linkWith service user kind oidcEmail = .ok phase) : PhaseInv isTesting records phase := by
  unfold linkWith at h
  split at h
  · split at h <;> cases h
    trivial
  · dsimp only at h
    split at h <;> cases h
    trivial

theorem phaseInv_verifyEmail {user : UserRow} {token : EmailValidationToken}
    (hpresented : token ∈ records.presented) (huser : TokenMailed records user)
    (h : verifyEmail userId user token = .ok phase) : PhaseInv isTesting records phase := by
  unfold verifyEmail at h
  split at h
  · rename_i htoken
    cases h
    exact ⟨hpresented, huser token htoken⟩
  · cases h

/-- The profile as the guard lets it be written. -/
theorem rowInv_updateUserProfile {patch : UserPatch} {now : DateTime}
    (h : RowInv isTesting records row) : RowInv isTesting records (updateUserProfile patch now row) where
  earned hdate := by
    cases hemail : patch.email with
    | none =>
      simp only [updateUserProfile, hemail, Option.isSome_none, Bool.false_eq_true, if_false,
        Option.none_or] at hdate ⊢
      exact h.earned hdate
    | some email =>
      simp only [updateUserProfile, hemail, Option.isSome_some, if_true, Option.isSome_none,
        Bool.false_eq_true] at hdate
  testing := h.testing
  token := h.token

theorem keeps_updateUserProfile {patch : UserPatch} {kind : Option UserAuthKind} {now : DateTime}
    {snapshot : UserRow} (hguard : WriteGuard row (.updatingProfile patch kind snapshot)) :
    Keeps row (updateUserProfile patch now row) := by
  intro hsame hdate
  cases hemail : patch.email with
  | none =>
    simp only [updateUserProfile, hemail, Option.isSome_none, Bool.false_eq_true, if_false]
    exact hdate
  | some email =>
    simp only [updateUserProfile, hemail, Option.some_or] at hsame
    have hnone := hguard email hemail
    rw [if_pos hsame.symm] at hnone
    rw [hnone] at hdate
    cases hdate

theorem pendingInv_afterProfile {patch : UserPatch} {kind : Option UserAuthKind} {now : DateTime}
    {snapshot : UserRow} (hmailed : TokenMailed records row)
    (hguard : WriteGuard row (.updatingProfile patch kind snapshot)) :
    PendingInv records (updateUserProfile patch now row) (afterProfile patch snapshot kind) := by
  have htoken : afterProfile patch snapshot kind ≠ .sending →
      TokenMailed records (updateUserProfile patch now row) := by
    intro hphase
    cases hemail : patch.email with
    | none =>
      intro token htoken
      simp only [updateUserProfile, hemail, Option.none_or] at htoken ⊢
      exact hmailed token htoken
    | some email =>
      have hnew := hguard email hemail
      by_cases hsame : row.email = some email
      · intro token htoken
        simp only [updateUserProfile, hemail, Option.some_or]
        exact hsame ▸ hmailed token htoken
      · rw [if_neg hsame] at hnew
        rcases hnew with hnone | ⟨rfl, hupdated⟩
        · intro token htoken
          rw [Option.mem_def.mp (show token ∈ row.emailValidationToken from htoken)] at hnone
          cases hnone
        · exact absurd (if_pos (by rw [hemail, hupdated]; rfl)) hphase
  cases kind with
  | some kind => exact htoken (fun h => nomatch h)
  | none =>
    by_cases hsending : (patch.email.isSome && profileUpdated patch snapshot) = true
    · rw [afterProfile, if_pos hsending]
      trivial
    · have hphase : afterProfile patch snapshot none = .finished := if_neg hsending
      rw [hphase]
      exact htoken (by rw [hphase]; exact fun h => nomatch h)

/-- What a request that validates has read was mailed to the address that is still there. -/
theorem rowInv_validate {now : DateTime} {token : EmailValidationToken} {read : UserRow}
    (h : RowInv isTesting records row) (hphase : PhaseInv isTesting records (.validating token read))
    (hguard : WriteGuard row (.validating token read)) :
    RowInv isTesting records (updateEmailValidationParameters (some now) none none row) where
  earned _ :=
    have ⟨hpresented, email, hemail, hmailed⟩ := hphase
    ⟨email, hguard.symm ▸ hemail, token, hpresented, hmailed⟩
  testing := h.testing
  token := h.token

theorem rowInv_drawToken {now : DateTime} {token : EmailValidationToken} {snapshot : UserRow}
    (h : RowInv isTesting records row)
    (hphase : PhaseInv isTesting records (.updatingToken token snapshot)) :
    RowInv isTesting records (updateEmailValidationParameters none (some now) (some token) row) where
  earned := h.earned
  testing := h.testing
  token _ htoken := by
    cases htoken
    exact ⟨hphase.1, hphase.2.1⟩

theorem updated_of_drawn {now : DateTime} {token : EmailValidationToken} {snapshot : UserRow}
    (h : snapshot.emailValidationToken ≠ some token) :
    emailValidationParametersUpdated none (some now) (some token) snapshot = true := by
  have htoken : differs (some token) snapshot.emailValidationToken = true := decide_eq_true h
  rw [emailValidationParametersUpdated, htoken, Bool.or_true]

theorem phaseInv_afterProfile {patch : UserPatch} {snapshot : UserRow} {kind : Option UserAuthKind} :
    PhaseInv isTesting records (afterProfile patch snapshot kind) := by
  cases kind with
  | some kind => trivial
  | none =>
    rw [afterProfile]
    split <;> trivial

theorem keeps_updateEmailValidationParameters {committed : UserRow}
    {emailValidatedAt emailValidationSentAt : Option DateTime}
    {emailValidationToken : Option EmailValidationToken} (h : Keeps committed row) :
    Keeps committed (updateEmailValidationParameters emailValidatedAt emailValidationSentAt
      emailValidationToken row) := by
  intro hsame hdate
  cases emailValidatedAt with
  | none => exact h hsame hdate
  | some date => rfl

theorem Inv.keeps_view (h : Inv isTesting s) (hx : x ∈ s.requests.rows) :
    Keeps s.row.committed (s.row.view x.id) := by
  rcases LockedRow.Obeys.view h hx with hsame | ⟨hkeeps, -⟩
  · rw [hsame]
    exact fun _ hdate => hdate
  · exact hkeeps

theorem inv_readUser {id : Nat} (h : Inv isTesting s)
    (hstep : step service userId s (.readUser id) = some t) : Inv isTesting t := by
  obtain ⟨x, hmem, rfl, hx⟩ := Table.find?_bind_eq_some.mp hstep
  split at hx <;> rename_i hphase <;> cases hx
  · exact h.resume hmem hphase (fun _ h => h) fun _ => phaseInv_linkWith
  · have hview := h.versions.view x.id
    by_cases htesting : (s.row.view x.id).isTesting = true
    · rw [if_pos htesting]
      refine h.advance hmem hphase trivial fun row hrow _ token htoken => ?_
      have hfalse := (hrow.token token htoken).1
      rw [← hview.testing, htesting] at hfalse
      cases hfalse
    · rw [if_neg htesting]
      refine h.advance hmem hphase ?_ fun _ _ _ => trivial
      exact hview.testing ▸ Bool.eq_false_iff.mpr htesting
  · have hview := h.view_eq hmem hphase fun _ h => h
    exact h.resume hmem hphase (fun _ h => h) fun _ =>
      phaseInv_verifyEmail (h.phaseInv hmem hphase) (hview ▸ h.committed)

theorem inv_beginUpdate {id : Nat} {token : EmailValidationToken} (h : Inv isTesting s)
    (hstep : step service userId s (.beginUpdate id token) = some t) : Inv isTesting t := by
  obtain ⟨x, hmem, rfl, hx⟩ := Table.find?_bind_eq_some.mp hstep
  split at hx <;> rename_i hphase
  · cases hx
    exact h.advance hmem hphase trivial fun _ _ hinv => (hinv : False).elim
  · split at hx <;> cases hx
    rename_i hnew
    have hview := h.versions.view x.id
    have hsnapshot : (s.row.view x.id).emailValidationToken ≠ some token := fun htoken =>
      hnew (hview.token token htoken).2
    have hdrawn : Inv isTesting { s with records := s.records.draw token } :=
      LockedRow.Obeys.mono h (rules_le (.draw s.records token))
    exact hdrawn.advance hmem hphase ⟨h.phaseInv hmem hphase, List.mem_cons_self, hsnapshot⟩
      fun _ _ _ => trivial
  · cases hx

theorem inv_write {id : Nat} {now : DateTime} (h : Inv isTesting s)
    (hguard : AddressGuard s (.write id now))
    (hstep : step service userId s (.write id now) = some t) : Inv isTesting t := by
  obtain ⟨x, hmem, rfl, hx⟩ := Table.find?_bind_eq_some.mp hstep
  have hwriteGuard := hguard x hmem rfl
  have hversion := h.versions.view x.id
  split at hx <;> rename_i hphase
  · rename_i patch kind snapshot
    obtain ⟨written, hwrite, rfl⟩ := Option.map_eq_some_iff.mp hx
    rw [hphase] at hwriteGuard
    have hview := h.view_eq hmem hphase fun _ h => h
    rw [hview] at hwriteGuard hversion
    refine h.write hwrite ?_ ?_ ?_ phaseInv_afterProfile <;> rw [hview]
    · exact rowInv_updateUserProfile hversion
    · exact keeps_updateUserProfile hwriteGuard
    · exact pendingInv_afterProfile h.committed hwriteGuard
  · rename_i token snapshot
    obtain ⟨written, hwrite, rfl⟩ := Option.map_eq_some_iff.mp hx
    have hread := h.phaseInv hmem hphase
    have hwritten : written.view x.id =
        updateEmailValidationParameters none (some now) (some token) (s.row.view x.id) := by
      obtain ⟨-, rfl⟩ := LockedRow.write?_eq_some.mp hwrite
      exact LockedRow.view_of_pending rfl
    rw [if_pos (updated_of_drawn hread.2.2)]
    exact h.write hwrite (rowInv_drawToken hversion hread)
      (keeps_updateEmailValidationParameters (h.keeps_view hmem)) ⟨hwritten.symm, rfl⟩ trivial
  · rename_i token read
    obtain ⟨written, hwrite, rfl⟩ := Option.map_eq_some_iff.mp hx
    rw [hphase] at hwriteGuard
    have hview := h.view_eq hmem hphase fun _ h => h
    refine h.write hwrite (rowInv_validate hversion (h.phaseInv hmem hphase) hwriteGuard)
      (keeps_updateEmailValidationParameters (h.keeps_view hmem)) ?_ trivial
    rw [hview]
    exact h.committed
  · cases hx

theorem inv_mail {id : Nat} (h : Inv isTesting s)
    (hstep : step service userId s (.mail id) = some t) : Inv isTesting t := by
  obtain ⟨x, hmem, rfl, hx⟩ := Table.find?_bind_eq_some.mp hstep
  split at hx <;> rename_i hphase
  · rename_i token user
    split at hx <;> rename_i hemail <;> cases hx
    · rename_i email
      have hmailed : Inv isTesting { s with records := s.records.mail token email } :=
        LockedRow.Obeys.mono h (rules_le (.mail s.records token email))
      refine hmailed.advance hmem hphase trivial fun row _ hinv token' htoken => ?_
      obtain ⟨rfl, htoken'⟩ := hinv
      cases htoken'.symm.trans htoken
      exact ⟨email, hemail, List.mem_cons_self⟩
    · exact LockedRow.Obeys.rollback h x.id
  · cases hx

theorem inv_step {i : Input} (h : Inv isTesting s) (hguard : AddressGuard s i)
    (hstep : step service userId s i = some t) : Inv isTesting t := by
  cases i with
  | begin operation =>
    obtain ⟨requests, hinsert, rfl⟩ := Option.map_eq_some_iff.mp hstep
    exact (LockedRow.Obeys.mono h (rules_le (.present s.records operation))).insert hinsert
      (phaseInv_of_operation operation) id
  | readAuths id =>
    obtain ⟨x, hmem, rfl, hx⟩ := Table.find?_bind_eq_some.mp hstep
    split at hx <;> rename_i hphase <;> cases hx
    · exact h.resume hmem hphase (fun _ h => h) fun _ => phaseInv_patchUser
    · exact h.resume hmem hphase (fun _ h => h) fun _ => phaseInv_linkOidc
  | readUser id => exact inv_readUser h hstep
  | beginUpdate id token => exact inv_beginUpdate h hstep
  | write id now => exact inv_write h hguard hstep
  | mail id => exact inv_mail h hstep
  | insertAuth id =>
    obtain ⟨x, hmem, rfl, hx⟩ := Table.find?_bind_eq_some.mp hstep
    split at hx <;> rename_i hphase
    · split at hx
      · cases hx
      · split at hx <;> cases hx
        · exact LockedRow.Obeys.rollback h x.id
        · exact h.advance hmem hphase trivial fun _ _ hinv => hinv
    · cases hx
  | commit id =>
    obtain ⟨x, hmem, rfl, hx⟩ := Table.find?_bind_eq_some.mp hstep
    split at hx <;> rename_i hphase <;> cases hx
    · exact h.commit hmem hphase fun _ hinv => hinv
    · exact h.commit hmem hphase fun _ hinv => hinv
  | abort id =>
    obtain ⟨x, -, rfl⟩ := Option.map_eq_some_iff.mp hstep
    exact LockedRow.Obeys.rollback h id

theorem committed_resume {result : Except UniversalInboxError Phase} :
    (resume s x result).row.committed = s.row.committed := by
  cases result <;> rfl

theorem committed_write {f : UserRow → UserRow} {written : LockedRow Nat UserRow} {id : Nat}
    (hwrite : s.row.write? id f = some written) : written.committed = s.row.committed := by
  obtain ⟨-, rfl⟩ := LockedRow.write?_eq_some.mp hwrite
  rfl

/-- Only a commit changes what is committed. -/
theorem committed_of_step {i : Input} (hstep : step service userId s i = some t) :
    t.row.committed = s.row.committed ∨
      ∃ x ∈ s.requests.rows, t.row.committed = s.row.view x.id := by
  cases i with
  | begin operation =>
    obtain ⟨requests, -, rfl⟩ := Option.map_eq_some_iff.mp hstep
    exact .inl rfl
  | readAuths id | readUser id =>
    obtain ⟨x, -, hx⟩ := Option.bind_eq_some_iff.mp hstep
    split at hx <;> cases hx
    all_goals first | exact .inl rfl | exact .inl committed_resume
  | beginUpdate id token =>
    obtain ⟨x, -, hx⟩ := Option.bind_eq_some_iff.mp hstep
    split at hx
    · cases hx
      exact .inl rfl
    · split at hx <;> cases hx
      exact .inl rfl
    · cases hx
  | write id now =>
    obtain ⟨x, -, hx⟩ := Option.bind_eq_some_iff.mp hstep
    split at hx
    · obtain ⟨written, hwrite, rfl⟩ := Option.map_eq_some_iff.mp hx
      exact .inl (committed_write hwrite)
    · obtain ⟨written, hwrite, rfl⟩ := Option.map_eq_some_iff.mp hx
      exact .inl (committed_write hwrite)
    · obtain ⟨written, hwrite, rfl⟩ := Option.map_eq_some_iff.mp hx
      exact .inl (committed_write hwrite)
    · cases hx
  | mail id =>
    obtain ⟨x, -, hx⟩ := Option.bind_eq_some_iff.mp hstep
    split at hx
    · split at hx <;> cases hx <;> exact .inl rfl
    · cases hx
  | insertAuth id =>
    obtain ⟨x, -, hx⟩ := Option.bind_eq_some_iff.mp hstep
    split at hx
    · split at hx
      · cases hx
      · split at hx <;> cases hx <;> exact .inl rfl
    · cases hx
  | commit id =>
    obtain ⟨x, hmem, rfl, hx⟩ := Table.find?_bind_eq_some.mp hstep
    split at hx <;> cases hx
    · exact .inr ⟨x, hmem, rfl⟩
    · exact .inr ⟨x, hmem, rfl⟩
  | abort id =>
    obtain ⟨x, -, rfl⟩ := Option.map_eq_some_iff.mp hstep
    exact .inl rfl

theorem kept_of_step {i : Input} (h : Inv isTesting s)
    (hstep : step service userId s i = some t) : Keeps s.row.committed t.row.committed := by
  rcases committed_of_step hstep with hsame | ⟨x, hx, hview⟩
  · rw [hsame]
    exact fun _ hdate => hdate
  · rw [hview]
    exact h.keeps_view hx

theorem inv_initial (firstName lastName : Option String) (email : Option EmailAddress)
    (isTesting : Bool) (now : DateTime) (kinds : List UserAuthKind) :
    Inv isTesting (initial firstName lastName email isTesting now kinds) :=
  LockedRow.obeys_initial
    ⟨fun hdate => (nomatch hdate), rfl, fun _ htoken => (nomatch htoken)⟩
    fun _ htoken => (nomatch htoken)

/-- In every order of the statements of any requests: while each `UPDATE` meets its guard, the date
of validation is there only for an address to which a presented token was mailed, and what leaves
the address alone does not clear it. -/
theorem truthful_of_guard (service : UserService) (userId : UserId)
    (firstName lastName : Option String) (email : Option EmailAddress) (isTesting : Bool)
    (now : DateTime) (kinds : List UserAuthKind) (inputs : List Input)
    (hrun : Along (step service userId) (fun s i _ => AddressGuard s i)
      (initial firstName lastName email isTesting now kinds) inputs) :
    Along (step service userId) (fun s _ t => Truthful s t)
      (initial firstName lastName email isTesting now kinds) inputs := by
  have hinv : ∀ s i t, Inv isTesting s → step service userId s i = some t → AddressGuard s i →
      Inv isTesting t := fun _ _ _ h hstep hguard => inv_step h hguard hstep
  refine hrun.of_invariant hinv (fun s i t h hstep hguard => ?_)
    (inv_initial firstName lastName email isTesting now kinds)
  exact ⟨(hinv s i t h hstep hguard).versions.committed.earned, kept_of_step h hstep⟩

end Run

instance (row : UserRow) : ∀ phase, Decidable (WriteGuard row phase)
  | .updatingProfile patch kind snapshot =>
    inferInstanceAs (Decidable (∀ email ∈ patch.email,
      if row.email = some email then row.emailValidatedAt = none
      else row.emailValidationToken = none ∨ kind = none ∧ profileUpdated patch snapshot = true))
  | .validating _ _ => inferInstanceAs (Decidable (_ = _))
  | .patching _ | .linking _ _ | .reading _ _ | .permitted _ _ | .sending | .drawing
  | .updatingToken _ _ | .mailing _ _ | .verifying _ | .insertingAuth _ | .linked _ | .finished =>
    .isTrue trivial

instance (s : State) : ∀ i, Decidable (AddressGuard s i)
  | .write _ _ => inferInstanceAs (Decidable (∀ _ ∈ _, _ → _))
  | .begin _ | .readAuths _ | .readUser _ | .beginUpdate _ _ | .mail _ | .insertAuth _ | .commit _
  | .abort _ => .isTrue trivial

instance (records : Records) (row : UserRow) : Decidable (DateEarned records row) :=
  inferInstanceAs (Decidable (_ → _))

instance (s t : State) : Decidable (Truthful s t) :=
  decidable_of_iff
    (DateEarned t.records t.row.committed ∧
      (t.row.committed.email = s.row.committed.email →
        s.row.committed.emailValidatedAt.isSome → t.row.committed.emailValidatedAt.isSome))
    ⟨fun ⟨h, h'⟩ => ⟨h, h'⟩, fun ⟨h, h'⟩ => ⟨h, h'⟩⟩

/-- The user of the runs below; no domain is blacklisted. -/
def sampleInitial : State :=
  initial none none (some "john@doe.name") false 0 [.localAuth]

/-- The requests 0 and 1: a verification email is sent and its token presented. -/
def validationRun : List Input :=
  [.begin .sendVerificationEmail, .readUser 0, .beginUpdate 0 ⟨7⟩, .write 0 1, .mail 0, .commit 0,
    .begin (.verifyEmail ⟨7⟩), .readUser 1, .write 1 2, .commit 1]

/-- The request 2: the address is patched, with a verification email when it changes. -/
def patchRun (email : EmailAddress) : List Input :=
  [.begin (.patchUser { email := some email }), .readAuths 2, .beginUpdate 2 ⟨0⟩, .write 2 3]

theorem changedAddress_truthful :
    Along (step ⟨fun _ => none⟩ ⟨1⟩) (fun s _ t => Truthful s t) sampleInitial
      (validationRun ++ patchRun "new@email.name" ++
        [.readUser 2, .beginUpdate 2 ⟨8⟩, .write 2 4, .mail 2, .commit 2]) :=
  truthful_of_guard ⟨fun _ => none⟩ ⟨1⟩ none none (some "john@doe.name") false 0 [.localAuth] _
    (by decide +kernel)

/-- The address is patched between the read of the token and the write of the date. -/
def lateValidationRun : List Input :=
  [.begin .sendVerificationEmail, .readUser 0, .beginUpdate 0 ⟨7⟩, .write 0 1, .mail 0, .commit 0,
    .begin (.verifyEmail ⟨7⟩), .readUser 1] ++ patchRun "new@email.name" ++
    [.readUser 2, .beginUpdate 2 ⟨8⟩, .write 2 4, .mail 2, .commit 2, .write 1 5, .commit 1]

/-- A patch with the address that is there clears its date, and the date of an address can come from
a token mailed to another. -/
theorem sameAddress_cleared :
    (Possible (step ⟨fun _ => none⟩ ⟨1⟩) sampleInitial
        (validationRun ++ patchRun "john@doe.name" ++ [.commit 2]) ∧
      ¬Along (step ⟨fun _ => none⟩ ⟨1⟩) (fun s _ t => Truthful s t) sampleInitial
        (validationRun ++ patchRun "john@doe.name" ++ [.commit 2])) ∧
      Possible (step ⟨fun _ => none⟩ ⟨1⟩) sampleInitial lateValidationRun ∧
        ¬Along (step ⟨fun _ => none⟩ ⟨1⟩) (fun s _ t => Truthful s t) sampleInitial
          lateValidationRun := by
  decide +kernel

end UniversalInbox.User.EmailValidation
