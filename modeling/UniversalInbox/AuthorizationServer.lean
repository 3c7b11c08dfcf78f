import UniversalInbox.AuthorizationCodes
import UniversalInbox.RefreshTokens

/-! The OAuth2 server as a whole: the authorize, consent, token and revoke requests of any users and
clients, whose statements interleave over the consents, the codes and the refresh tokens. -/
namespace UniversalInbox.OAuth2.AuthorizationServer
open Transition

def authCodeExpirySecs : Int := 60

def pendingConsentTtlSecs : Int := 300

/-- `str::split_whitespace`. -/
def splitWhitespace (text : String) : List String :=
  ((text.toList.splitOnP isWhitespace).filter (!·.isEmpty)).map String.ofList

def consentCoversScope (storedScope : String) (requestedScope : Option String) : Bool :=
  (splitWhitespace (requestedScope.getD "")).all (splitWhitespace storedScope).contains

/-- A row of `oauth2_user_consent`. -/
structure OAuth2UserConsent where
  userId : UserId
  clientId : String
  scope : String
deriving DecidableEq, Repr

/-- The primary key of a consent. -/
def OAuth2UserConsent.pair (consent : OAuth2UserConsent) : UserId × String :=
  (consent.userId, consent.clientId)

/-- What an authorization request asks for; a pending consent keeps all of it. -/
structure AuthorizationRequest where
  clientId : String
  redirectUri : String
  scope : Option String
  state : Option String
  codeChallenge : String
  codeChallengeMethod : String
  resource : Option String
deriving DecidableEq, Repr

structure AuthorizeParams extends AuthorizationRequest where
  responseType : String
deriving DecidableEq, Repr

structure PendingConsentRequest extends AuthorizationRequest where
  requestId : String
  csrfToken : String
  userId : UserId
  expiresAt : DateTime
deriving DecidableEq, Repr

inductive OAuth2ConsentDecision where
  | allow
  | deny
deriving DecidableEq, Repr

structure OAuth2ConsentSubmission where
  requestId : String
  csrfToken : String
  decision : OAuth2ConsentDecision
deriving DecidableEq, Repr

/-- `redirect_uri_matches_registered`: the URIs registered for a client, and the requested one. -/
abbrev RedirectUriMatches := List String → String → Bool

/-- The client is known and the redirection registered; `client` is what `resolve_client` finds. -/
def checkClient (redirectUriMatches : RedirectUriMatches) (client : Option (List String))
    (request : AuthorizationRequest) : Except UniversalInboxError Unit :=
  match client with
  | none => .error (.invalidInputData s!"Unknown client_id: {request.clientId}")
  | some redirectUris =>
    if redirectUriMatches redirectUris request.redirectUri then .ok ()
    else .error (.invalidInputData s!"Invalid redirect_uri: {request.redirectUri}")

/-- The row `create_authorization_code` inserts, with the code it has drawn. -/
def createAuthorizationCode (redirectUriMatches : RedirectUriMatches)
    (client : Option (List String)) (userId : UserId) (request : AuthorizationRequest)
    (code : String) (now : DateTime) : Except UniversalInboxError OAuth2AuthorizationCode :=
  if request.codeChallengeMethod ≠ "S256" then
    .error (.invalidInputData "Only S256 code_challenge_method is supported")
  else do
    checkClient redirectUriMatches client request
    return {
      code
      clientId := request.clientId
      userId
      redirectUri := request.redirectUri
      scope := request.scope
      codeChallenge := request.codeChallenge
      resource := request.resource
      expiresAt := pgTimestamp (now + authCodeExpirySecs * nanosecondsPerSecond) }

def readPendingConsent (session : Option PendingConsentRequest) (requestId : String)
    (userId : UserId) (now : DateTime) : Except UniversalInboxError PendingConsentRequest :=
  match session with
  | none => .error (.forbidden "No pending OAuth2 consent request")
  | some pending =>
    if pending.requestId ≠ requestId ∨ pending.userId ≠ userId then
      .error (.forbidden "Invalid OAuth2 consent request")
    else if pending.expiresAt < now then
      .error (.forbidden "OAuth2 consent request has expired")
    else .ok pending

/-- The checks of `consent_post`, up to the decision. -/
def checkSubmission (session : Option PendingConsentRequest) (submission : OAuth2ConsentSubmission)
    (userId : UserId) (now : DateTime) : Except UniversalInboxError PendingConsentRequest := do
  let pending ← readPendingConsent session submission.requestId userId now
  if pending.csrfToken ≠ submission.csrfToken then
    .error (.forbidden "Invalid OAuth2 consent request")
  else return pending

abbrev RequestId := Nat

/-- Where an `authorize` (before it reads the consent, with a consent that covers it) or an allowed
`consent_post` (before the upsert of the consent, after it) is; either may have inserted a code. -/
inductive GrantPhase where
  | authorizing
  | covered
  | allowed
  | consented
  | coded (code : OAuth2AuthorizationCode)
deriving DecidableEq, Repr

/-- An open request that is to end with a code; `approval` tells a `consent_post`. -/
structure Grant where
  id : RequestId
  userId : UserId
  request : AuthorizationRequest
  approval : Bool
  phase : GrantPhase
deriving DecidableEq, Repr

def Grant.pair (grant : Grant) : UserId × String := (grant.userId, grant.request.clientId)

/-- The consent that `consent_post` records. -/
def Grant.consent (grant : Grant) : OAuth2UserConsent :=
  ⟨grant.userId, grant.request.clientId, grant.request.scope.getD ""⟩

/-- It has upserted the row of its consent, and not committed it. -/
def Grant.locksConsent (grant : Grant) : Bool :=
  grant.approval && match grant.phase with
    | .consented | .coded _ => true
    | _ => false

/-- Where a revocation is: before the `DELETE` of the consent; after it, having deleted a row or
not; with the matches of its `UPDATE`; and with the tokens it has revoked. -/
inductive RevocationPhase where
  | started
  | consentDeleted (found : Bool)
  | matching (found : Bool) (tokenHashes : List String)
  | revoked (found : Bool) (tokenHashes : List String)
deriving DecidableEq, Repr

def RevocationPhase.found : RevocationPhase → Bool
  | .started => false
  | .consentDeleted found => found
  | .matching found _ => found
  | .revoked found _ => found

def RevocationPhase.locks : RevocationPhase → List String
  | .revoked _ tokenHashes => tokenHashes
  | _ => []

/-- An open `revoke_client_authorization`; `startedAt` is what `now()` is in its transaction. -/
structure Revocation where
  id : RequestId
  userId : UserId
  clientId : String
  startedAt : DateTime
  phase : RevocationPhase
deriving DecidableEq, Repr

def Revocation.pair (revocation : Revocation) : UserId × String :=
  (revocation.userId, revocation.clientId)

/-- The committed rows are `consents`, `exchanging.codes` and the tokens, which both token grants
have in their states. `pendings` are the pending consents handed out: the session is a cookie, so
any of them may come back. `approvals` are the consents that users have given, each as it was
committed; `withdrawn` the pairs of a committed revocation that no consent has followed. -/
structure State where
  clock : DateTime
  consents : Table OAuth2UserConsent.pair
  exchanging : AuthorizationCodes.State
  refreshing : RefreshTokens.State
  grants : Table Grant.id
  revocations : Table Revocation.id
  pendings : List PendingConsentRequest
  approvals : List OAuth2UserConsent
  withdrawn : List (UserId × String)
  refusals : List AuthorizationCodes.Refusal

/-- What is drawn for a pending consent. -/
structure PendingDraw where
  requestId : String
  csrfToken : String
deriving DecidableEq, Repr

/-- The statements of `authorize` and of `consent_post`. -/
inductive GrantInput where
  | authorize (id : RequestId) (userId : UserId) (params : AuthorizeParams)
  | readConsent (id : RequestId) (client : Option (List String)) (draw : PendingDraw)
      (now : DateTime)
  | consent (id : RequestId) (userId : UserId) (session : Option PendingConsentRequest)
      (submission : OAuth2ConsentSubmission) (now : DateTime)
  | upsertConsent (id : RequestId)
  | createCode (id : RequestId) (client : Option (List String)) (code : String) (now : DateTime)
  | commit (id : RequestId)
  | abort (id : RequestId)
deriving DecidableEq, Repr

/-- The statements of `revoke_client_authorization`. -/
inductive RevocationInput where
  | begin (id : RequestId) (userId : UserId) (clientId : String) (now : DateTime)
  | deleteConsent (id : RequestId)
  | matchTokens (id : RequestId)
  | claimTokens (id : RequestId)
  | commit (id : RequestId)
  | abort (id : RequestId)
deriving DecidableEq, Repr

inductive Input where
  | grant (input : GrantInput)
  | revocation (input : RevocationInput)
  | exchange (input : AuthorizationCodes.Input)
  | refresh (input : RefreshTokens.Input)
deriving DecidableEq, Repr

/-- The instant at which `Utc::now()` is read and then compared with an expiry. -/
def Input.now? : Input → Option DateTime
  | .grant (.readConsent _ _ _ now) => some now
  | .grant (.consent _ _ _ _ now) => some now
  | .grant (.createCode _ _ _ now) => some now
  | .exchange (.check _ now) => some now
  | _ => none

def setGrantPhase (phase : GrantPhase) (grant : Grant) : Grant := { grant with phase }

theorem setGrantPhase_id (phase : GrantPhase) (grant : Grant) :
    (setGrantPhase phase grant).id = grant.id := rfl

def setRevocationPhase (phase : RevocationPhase) (revocation : Revocation) : Revocation :=
  { revocation with phase }

theorem setRevocationPhase_id (phase : RevocationPhase) (revocation : Revocation) :
    (setRevocationPhase phase revocation).id = revocation.id := rfl

namespace State

def tokens (s : State) : Table OAuth2RefreshToken.tokenHash := s.refreshing.tokens

def advanceGrant (s : State) (id : RequestId) (phase : GrantPhase) : State :=
  { s with
    grants :=
      s.grants.update (fun x => decide (x.id = id)) (setGrantPhase phase) (setGrantPhase_id phase) }

def closeGrant (s : State) (id : RequestId) : State := { s with grants := s.grants.erase id }

def refuse (s : State) (id : RequestId) (error : UniversalInboxError) : State :=
  { s with refusals := ⟨id, error⟩ :: s.refusals }

def advanceRevocation (s : State) (id : RequestId) (phase : RevocationPhase) : State :=
  { s with
    revocations :=
      s.revocations.update (fun x => decide (x.id = id)) (setRevocationPhase phase)
        (setRevocationPhase_id phase) }

def closeRevocation (s : State) (id : RequestId) : State :=
  { s with revocations := s.revocations.erase id }

/-- Another transaction has written the consent of the pair and is still open. -/
def consentLocked (s : State) (pair : UserId × String) : Bool :=
  s.grants.rows.any (fun x => x.locksConsent && x.pair == pair) ||
    s.revocations.rows.any fun x => x.phase.found && x.pair == pair

/-- A revocation other than `id` has revoked the token and is still open. -/
def revoking (s : State) (id : Option RequestId) (tokenHash : String) : Bool :=
  s.revocations.rows.any fun x => decide (some x.id ≠ id) && x.phase.locks.contains tokenHash

def rotating (s : State) (tokenHash : String) : Bool :=
  s.refreshing.requests.rows.any fun x => x.locks.contains tokenHash

/-- The statement needs a row that a revocation has locked. -/
def refreshWaits (service : OAuth2Service) (s : State) : RefreshTokens.Input → Bool
  | .claim id =>
    (s.refreshing.requests.find? id).any fun x => s.revoking none (service.hashToken x.refreshToken)
  | .claimFamily id =>
    (s.refreshing.requests.find? id).any fun x =>
      match x.phase with
      | .matchingFamily _ _ tokenHashes => tokenHashes.any (s.revoking none)
      | _ => false
  | _ => false

/-- Both token grants see the tokens that are committed. -/
def setTokens (s : State) (tokens : Table OAuth2RefreshToken.tokenHash) : State :=
  { s with
    exchanging := { s.exchanging with tokens }
    refreshing := { s.refreshing with tokens } }

end State

/-- The `WHERE` clause of `revoke_all_refresh_tokens_for_client`. -/
def authorizedBy (pair : UserId × String) (token : OAuth2RefreshToken) : Bool :=
  token.family == pair && token.revokedAt.isNone

section Requests
variable (service : OAuth2Service) (redirectUriMatches : RedirectUriMatches)

def stepGrant (s : State) : GrantInput → Option State
  | .authorize id userId params =>
    if params.responseType ≠ "code" then
      some (s.refuse id (.invalidInputData "Only response_type=code is supported"))
    else
      (s.grants.insert? ⟨id, userId, params.toAuthorizationRequest, false, .authorizing⟩).map
        fun grants => { s with grants }
  | .readConsent id client draw now =>
    (s.grants.find? id).bind fun x =>
      match x.phase with
      | .authorizing =>
        match checkClient redirectUriMatches client x.request with
        | .error error => some ((s.closeGrant id).refuse id error)
        | .ok () =>
          if (s.consents.find? x.pair).any fun c => consentCoversScope c.scope x.request.scope then
            some (s.advanceGrant id .covered)
          else
            let pending : PendingConsentRequest :=
              { x.request with
                requestId := draw.requestId
                csrfToken := draw.csrfToken
                userId := x.userId
                expiresAt := now + pendingConsentTtlSecs * nanosecondsPerSecond }
            some { s.closeGrant id with pendings := pending :: s.pendings }
      | _ => none
  | .consent id userId session submission now =>
    if session.all s.pendings.contains then
      match checkSubmission session submission userId now with
      | .error error => some (s.refuse id error)
      | .ok pending =>
        match submission.decision with
        | .deny => some s
        | .allow =>
          (s.grants.insert? ⟨id, userId, pending.toAuthorizationRequest, true, .allowed⟩).map
            fun grants => { s with grants }
    else none
  | .upsertConsent id =>
    (s.grants.find? id).bind fun x =>
      match x.phase with
      | .allowed => if s.consentLocked x.pair then none else some (s.advanceGrant id .consented)
      | _ => none
  | .createCode id client code now =>
    (s.grants.find? id).bind fun x =>
      if x.phase = .covered ∨ x.phase = .consented then
        match createAuthorizationCode redirectUriMatches client x.userId x.request code now with
        | .error error => some ((s.closeGrant id).refuse id error)
        | .ok row => some (s.advanceGrant id (.coded row))
      else none
  | .commit id =>
    (s.grants.find? id).bind fun x =>
      match x.phase with
      | .coded code =>
        (AuthorizationCodes.step service s.exchanging (.authorize code)).map fun exchanging =>
          if x.approval then
            { s.closeGrant id with
              exchanging
              consents := s.consents.put x.consent
              approvals := x.consent :: s.approvals
              withdrawn := s.withdrawn.filter (· ≠ x.pair) }
          else { s.closeGrant id with exchanging }
      | _ => none
  | .abort id => (s.grants.find? id).map fun x => s.closeGrant x.id

def stepRevocation (s : State) : RevocationInput → Option State
  | .begin id userId clientId now =>
    (s.revocations.insert? ⟨id, userId, clientId, now, .started⟩).map fun revocations =>
      { s with revocations }
  | .deleteConsent id =>
    (s.revocations.find? id).bind fun x =>
      match x.phase with
      | .started =>
        let found := (s.consents.find? x.pair).isSome
        if found && s.consentLocked x.pair then none
        else some (s.advanceRevocation id (.consentDeleted found))
      | _ => none
  | .matchTokens id =>
    (s.revocations.find? id).bind fun x =>
      match x.phase with
      | .consentDeleted found =>
        some (s.advanceRevocation id
          (.matching found ((s.tokens.rows.filter (authorizedBy x.pair)).map (·.tokenHash))))
      | _ => none
  | .claimTokens id =>
    (s.revocations.find? id).bind fun x =>
      match x.phase with
      | .matching found tokenHashes =>
        if tokenHashes.any fun h => s.rotating h || s.revoking (some id) h then none
        else
          some (s.advanceRevocation id (.revoked found
            (tokenHashes.filter fun h => (s.tokens.find? h).any (authorizedBy x.pair))))
      | _ => none
  | .commit id =>
    (s.revocations.find? id).bind fun x =>
      match x.phase with
      | .revoked found tokenHashes =>
        some { (s.closeRevocation id).setTokens
            (RefreshTokens.State.revoke s.tokens tokenHashes x.startedAt) with
          consents := if found then s.consents.erase x.pair else s.consents
          withdrawn := x.pair :: s.withdrawn }
      | _ => none
  | .abort id => (s.revocations.find? id).map fun x => s.closeRevocation x.id

/-- Codes are created by grants alone. -/
def stepExchange (s : State) : AuthorizationCodes.Input → Option State
  | .authorize _ => none
  | input =>
    (AuthorizationCodes.step service s.exchanging input).map fun exchanging =>
      { s with exchanging, refreshing := { s.refreshing with tokens := exchanging.tokens } }

def stepRefresh (s : State) (input : RefreshTokens.Input) : Option State :=
  if s.refreshWaits service input then none
  else
    (RefreshTokens.step service s.refreshing input).map fun refreshing =>
      { s with refreshing, exchanging := { s.exchanging with tokens := refreshing.tokens } }

def perform (s : State) : Input → Option State
  | .grant input => stepGrant service redirectUriMatches s input
  | .revocation input => stepRevocation s input
  | .exchange input => stepExchange service s input
  | .refresh input => stepRefresh service s input

/-- The clock does not run backwards. -/
def step (s : State) (i : Input) : Option State :=
  if i.now?.all (s.clock ≤ ·) then
    perform service redirectUriMatches { s with clock := i.now?.getD s.clock } i
  else none

end Requests

/-- Any rows may be stored when the requests begin. -/
def initial (clock : DateTime) (consents : Table OAuth2UserConsent.pair)
    (codes : Table OAuth2AuthorizationCode.code) (tokens : Table OAuth2RefreshToken.tokenHash) :
    State :=
  ⟨clock, consents, AuthorizationCodes.initial codes tokens, RefreshTokens.initial tokens,
    Table.empty, Table.empty, [], [], [], []⟩

/-- What a request that is to end with a code can do, but to end with one. -/
inductive GrantAdvances (redirectUriMatches : RedirectUriMatches) (s : State) (x : Grant) :
    GrantPhase → Prop
  | covered {consent : OAuth2UserConsent} : x.phase = .authorizing → consent ∈ s.consents.rows →
      consent.pair = x.pair → consentCoversScope consent.scope x.request.scope = true →
      GrantAdvances redirectUriMatches s x .covered
  | consented : x.phase = .allowed → GrantAdvances redirectUriMatches s x .consented
  | coded {client : Option (List String)} {code : String} {now : DateTime}
      {row : OAuth2AuthorizationCode} : x.phase = .covered ∨ x.phase = .consented →
      createAuthorizationCode redirectUriMatches client x.userId x.request code now = .ok row →
      GrantAdvances redirectUriMatches s x (.coded row)

inductive GrantEffect (service : OAuth2Service) (redirectUriMatches : RedirectUriMatches)
    (s : State) : GrantInput → State → Prop
  | begin {i : GrantInput} {x : Grant} {grants : Table Grant.id} :
      x.approval = true ∧ x.phase = .allowed ∨ x.approval = false ∧ x.phase = .authorizing →
      s.grants.insert? x = some grants →
      GrantEffect service redirectUriMatches s i { s with grants }
  | advance {i : GrantInput} {x : Grant} {phase : GrantPhase} : x ∈ s.grants.rows →
      GrantAdvances redirectUriMatches s x phase →
      GrantEffect service redirectUriMatches s i (s.advanceGrant x.id phase)
  | commit {x : Grant} {code : OAuth2AuthorizationCode}
      {codes : Table OAuth2AuthorizationCode.code} : x ∈ s.grants.rows →
      x.phase = .coded code → x.approval = false → s.exchanging.codes.insert? code = some codes →
      GrantEffect service redirectUriMatches s (.commit x.id)
        { s.closeGrant x.id with
          exchanging := { s.exchanging with codes, created := code :: s.exchanging.created } }
  | approve {x : Grant} {code : OAuth2AuthorizationCode}
      {codes : Table OAuth2AuthorizationCode.code} : x ∈ s.grants.rows →
      x.phase = .coded code → x.approval = true → s.exchanging.codes.insert? code = some codes →
      GrantEffect service redirectUriMatches s (.commit x.id)
        { s.closeGrant x.id with
          exchanging := { s.exchanging with codes, created := code :: s.exchanging.created }
          consents := s.consents.put x.consent
          approvals := x.consent :: s.approvals
          withdrawn := s.withdrawn.filter (· ≠ x.pair) }
  | close {i : GrantInput} {x : Grant} (pendings : List PendingConsentRequest)
      (refusals : List AuthorizationCodes.Refusal) : x ∈ s.grants.rows →
      GrantEffect service redirectUriMatches s i { s.closeGrant x.id with pendings, refusals }
  | refuse {i : GrantInput} (refusals : List AuthorizationCodes.Refusal) :
      GrantEffect service redirectUriMatches s i { s with refusals }

/-- A revocation keeps to its own row until it commits. -/
inductive RevocationEffect (s : State) : RevocationInput → State → Prop
  | running {i : RevocationInput} (revocations : Table Revocation.id) :
      RevocationEffect s i { s with revocations }
  | commit {x : Revocation} {found : Bool} {tokenHashes : List String} :
      x ∈ s.revocations.rows → x.phase = .revoked found tokenHashes →
      RevocationEffect s (.commit x.id)
        { (s.closeRevocation x.id).setTokens
            (RefreshTokens.State.revoke s.tokens tokenHashes x.startedAt) with
          consents := if found then s.consents.erase x.pair else s.consents
          withdrawn := x.pair :: s.withdrawn }

section Effects
variable {service : OAuth2Service} {redirectUriMatches : RedirectUriMatches} {s t : State}

theorem grantEffect_of_step {i : GrantInput}
    (h : stepGrant service redirectUriMatches s i = some t) :
    GrantEffect service redirectUriMatches s i t := by
  cases i with
  | authorize id userId params =>
    simp only [stepGrant] at h
    split at h
    · cases h
      exact .refuse _
    · obtain ⟨grants, hinsert, rfl⟩ := Option.map_eq_some_iff.mp h
      exact .begin (.inr ⟨rfl, rfl⟩) hinsert
  | readConsent id client draw now =>
    obtain ⟨x, hx, rfl, hthen⟩ := Table.find?_bind_eq_some.mp h
    split at hthen
    · next hphase =>
      split at hthen
      · cases hthen
        exact .close _ _ hx
      · split at hthen
        · next hcovers =>
          cases hthen
          obtain ⟨consent, hconsent, hscope⟩ := (Option.any_eq_true _ _).mp hcovers
          obtain ⟨hmem, hpair⟩ := Table.find?_eq_some.mp hconsent
          exact .advance hx (.covered hphase hmem hpair hscope)
        · cases hthen
          exact .close _ _ hx
    · cases hthen
  | consent id userId session submission now =>
    simp only [stepGrant] at h
    split at h
    · split at h
      · cases h
        exact .refuse _
      · split at h
        · cases h
          exact .refuse _
        · obtain ⟨grants, hinsert, rfl⟩ := Option.map_eq_some_iff.mp h
          exact .begin (.inl ⟨rfl, rfl⟩) hinsert
    · cases h
  | upsertConsent id =>
    obtain ⟨x, hx, rfl, hthen⟩ := Table.find?_bind_eq_some.mp h
    split at hthen
    · next hphase =>
      split at hthen
      · cases hthen
      · cases hthen
        exact .advance hx (.consented hphase)
    · cases hthen
  | createCode id client code now =>
    obtain ⟨x, hx, rfl, hthen⟩ := Table.find?_bind_eq_some.mp h
    split at hthen
    · next hphase =>
      split at hthen
      · cases hthen
        exact .close _ _ hx
      · next row hrow =>
        cases hthen
        exact .advance hx (.coded hphase hrow)
    · cases hthen
  | commit id =>
    obtain ⟨x, hx, rfl, hthen⟩ := Table.find?_bind_eq_some.mp h
    split at hthen
    · next code hphase =>
      obtain ⟨exchanging, hauthorize, rfl⟩ := Option.map_eq_some_iff.mp hthen
      simp only [AuthorizationCodes.step, Option.ite_none_left_eq_some] at hauthorize
      obtain ⟨codes, hinsert, rfl⟩ := Option.map_eq_some_iff.mp hauthorize.2
      split
      · next happroval => exact .approve hx hphase happroval hinsert
      · next happroval => exact .commit hx hphase (Bool.eq_false_iff.mpr happroval) hinsert
    · cases hthen
  | abort id =>
    obtain ⟨x, hfind, rfl⟩ := Option.map_eq_some_iff.mp h
    exact .close _ _ (Table.find?_eq_some.mp hfind).1

theorem revocationEffect_of_step {i : RevocationInput} (h : stepRevocation s i = some t) :
    RevocationEffect s i t := by
  cases i with
  | begin id userId clientId now =>
    obtain ⟨revocations, -, rfl⟩ := Option.map_eq_some_iff.mp h
    exact .running revocations
  | deleteConsent id =>
    obtain ⟨x, -, hthen⟩ := Option.bind_eq_some_iff.mp h
    split at hthen
    · simp only [Option.ite_none_left_eq_some, Option.some.injEq] at hthen
      obtain ⟨-, rfl⟩ := hthen
      exact .running _
    · cases hthen
  | matchTokens id =>
    obtain ⟨x, -, hthen⟩ := Option.bind_eq_some_iff.mp h
    split at hthen
    · cases hthen
      exact .running _
    · cases hthen
  | claimTokens id =>
    obtain ⟨x, -, hthen⟩ := Option.bind_eq_some_iff.mp h
    split at hthen
    · simp only [Option.ite_none_left_eq_some, Option.some.injEq] at hthen
      obtain ⟨-, rfl⟩ := hthen
      exact .running _
    · cases hthen
  | commit id =>
    obtain ⟨x, hx, rfl, hthen⟩ := Table.find?_bind_eq_some.mp h
    split at hthen
    · next hphase =>
      cases hthen
      exact .commit hx hphase
    · cases hthen
  | abort id =>
    obtain ⟨x, -, rfl⟩ := Option.map_eq_some_iff.mp h
    exact .running _

/-- An approval that is committed is recorded, and lifts the revocation of its pair. -/
theorem approved_of_commit {x : Grant} (hx : x ∈ s.grants.rows) (happroval : x.approval = true)
    (h : perform service redirectUriMatches s (.grant (.commit x.id)) = some t) :
    t.approvals = x.consent :: s.approvals ∧ t.withdrawn = s.withdrawn.filter (· ≠ x.pair) := by
  obtain ⟨y, hy, hid, hthen⟩ := Table.find?_bind_eq_some.mp h
  obtain rfl := Table.eq_of_key hy hx hid
  split at hthen
  · obtain ⟨exchanging, -, rfl⟩ := Option.map_eq_some_iff.mp hthen
    rw [if_pos happroval]
    exact ⟨rfl, rfl⟩
  · cases hthen

theorem exchange_of_step {i : AuthorizationCodes.Input} (h : stepExchange service s i = some t) :
    ∃ exchanging, AuthorizationCodes.step service s.exchanging i = some exchanging ∧
      t = { s with exchanging, refreshing := { s.refreshing with tokens := exchanging.tokens } } := by
  cases i with
  | authorize code => cases h
  | _ =>
    obtain ⟨exchanging, hexchange, rfl⟩ := Option.map_eq_some_iff.mp h
    exact ⟨exchanging, hexchange, rfl⟩

theorem refresh_of_step {i : RefreshTokens.Input} (h : stepRefresh service s i = some t) :
    ∃ refreshing, RefreshTokens.step service s.refreshing i = some refreshing ∧
      t = { s with refreshing, exchanging := { s.exchanging with tokens := refreshing.tokens } } := by
  simp only [stepRefresh, Option.ite_none_left_eq_some] at h
  obtain ⟨refreshing, hrefresh, rfl⟩ := Option.map_eq_some_iff.mp h.2
  exact ⟨refreshing, hrefresh, rfl⟩

theorem step_eq_some {i : Input} (h : step service redirectUriMatches s i = some t) :
    s.clock ≤ i.now?.getD s.clock ∧
      perform service redirectUriMatches { s with clock := i.now?.getD s.clock } i = some t := by
  simp only [step, Option.ite_none_right_eq_some] at h
  obtain ⟨hlater, hperform⟩ := h
  refine ⟨?_, hperform⟩
  cases hnow : i.now? with
  | none => exact le_refl _
  | some now =>
    rw [hnow] at hlater
    exact of_decide_eq_true hlater

theorem now_le {i : Input} : ∀ now ∈ i.now?, i.now?.getD s.clock ≤ now := by
  intro now hnow
  rw [hnow, Option.getD_some]

/-- The code is of the user and of what was asked. -/
structure CodeOf (userId : UserId) (request : AuthorizationRequest) (code : OAuth2AuthorizationCode) :
    Prop where
  userId : code.userId = userId
  clientId : code.clientId = request.clientId
  scope : code.scope = request.scope

theorem codeOf_create {client : Option (List String)} {userId : UserId}
    {request : AuthorizationRequest} {code : String} {now : DateTime} {row : OAuth2AuthorizationCode}
    (h : createAuthorizationCode redirectUriMatches client userId request code now = .ok row) :
    CodeOf userId request row := by
  unfold createAuthorizationCode at h
  split at h
  · cases h
  · cases hcheck : checkClient redirectUriMatches client request with
    | error error => rw [hcheck] at h; cases h
    | ok _ => rw [hcheck] at h; cases h; exact ⟨rfl, rfl, rfl⟩

end Effects

/-- The token is for the user, the client and the scope. -/
structure TokenOf (userId : UserId) (clientId : String) (scope : Option String)
    (token : OAuth2RefreshToken) : Prop where
  userId : token.userId = userId
  clientId : token.clientId = clientId
  scope : token.scope = scope

/-- The tokens of one answer are, both of them. -/
structure MintedFor (userId : UserId) (clientId : String) (scope : Option String)
    (token : OAuth2RefreshToken) (response : TokenResponse) : Prop where
  refreshToken : TokenOf userId clientId scope token
  accessToken : response.accessToken.sub = userId ∧ response.accessToken.clientId = clientId ∧
    response.accessToken.scope = scope.getD ""

/-- What may hold authority on its way from a consent to a token: stored consents, requests that a
consent covered, codes, codes that passed the checks, tokens, and tokens being rotated. -/
structure Flow where
  consent : OAuth2UserConsent → Prop
  covered : UserId → AuthorizationRequest → Prop
  code : OAuth2AuthorizationCode → Prop
  checked : OAuth2AuthorizationCode → Prop
  token : OAuth2RefreshToken → Prop
  claimed : OAuth2RefreshToken → Prop

/-- No statement takes authority out of the flow, at an instant or later. -/
structure Flow.Closed (flow : Flow) (clock : DateTime) : Prop where
  covers : ∀ consent request, flow.consent consent → consent.clientId = request.clientId →
    consentCoversScope consent.scope request.scope = true → flow.covered consent.userId request
  issues : ∀ userId request code, flow.covered userId request → CodeOf userId request code →
    flow.code code
  checks : ∀ code, flow.code code → clock ≤ code.expiresAt → flow.checked code
  exchanges : ∀ code token, flow.checked code →
    TokenOf code.userId code.clientId code.scope token → flow.token token
  claims : ∀ token, flow.token token → token.revokedAt = none → flow.claimed token
  rotates : ∀ parent child, flow.claimed parent →
    TokenOf parent.userId parent.clientId parent.scope child → flow.token child
  revokes : ∀ token now, flow.token token → flow.token (token.revoke now)

structure ExchangesWithin (flow : Flow) (s : AuthorizationCodes.State) : Prop where
  codes : ∀ code ∈ s.codes.rows, flow.code code
  deleted : ∀ x ∈ s.requests.rows, ∀ code ∈ x.phase.deleted?, flow.code code
  checked : ∀ x ∈ s.requests.rows, ∀ checked ∈ x.phase.checked?,
    flow.checked checked.1 ∧ checked.1.clientId = x.clientId
  minted : ∀ x ∈ s.requests.rows, ∀ code now token response,
    x.phase = .minted code now token response →
      MintedFor code.userId code.clientId code.scope token response

structure RefreshesWithin (flow : Flow) (s : RefreshTokens.State) : Prop where
  claimed : ∀ x ∈ s.requests.rows, ∀ token ∈ x.phase.claimed?,
    flow.claimed token ∧ token.clientId = x.clientId
  minted : ∀ x ∈ s.requests.rows, ∀ token child response,
    x.phase = .minted token child response →
      MintedFor token.userId token.clientId token.scope child response

structure GrantsWithin (flow : Flow) (grants : Table Grant.id) : Prop where
  covered : ∀ x ∈ grants.rows, x.approval = false → x.phase ≠ .authorizing →
    flow.covered x.userId x.request
  coded : ∀ x ∈ grants.rows, ∀ code, x.phase = .coded code → CodeOf x.userId x.request code

def TokensWithin (flow : Flow) (tokens : Table OAuth2RefreshToken.tokenHash) : Prop :=
  ∀ token ∈ tokens.rows, flow.token token

/-- What is in one flow is in the other. -/
structure Flow.Le (flow flow' : Flow) : Prop where
  consent : ∀ consent, flow.consent consent → flow'.consent consent
  covered : ∀ userId request, flow.covered userId request → flow'.covered userId request
  code : ∀ code, flow.code code → flow'.code code
  checked : ∀ code, flow.checked code → flow'.checked code
  token : ∀ token, flow.token token → flow'.token token
  claimed : ∀ token, flow.claimed token → flow'.claimed token

/-- All authority in the state is in the flow, but for the approvals that are not committed. -/
structure Within (flow : Flow) (s : State) : Prop where
  shared : s.exchanging.tokens = s.tokens
  consents : ∀ consent ∈ s.consents.rows, flow.consent consent
  tokens : TokensWithin flow s.tokens
  grants : GrantsWithin flow s.grants
  exchanging : ExchangesWithin flow s.exchanging
  refreshing : RefreshesWithin flow s.refreshing

section Flow
variable {service : OAuth2Service} {redirectUriMatches : RedirectUriMatches} {flow : Flow}
  {clock : DateTime} {s t : State}

theorem TokensWithin.insert {tokens tokens' : Table OAuth2RefreshToken.tokenHash}
    {token : OAuth2RefreshToken} (h : TokensWithin flow tokens) (htoken : flow.token token)
    (hinsert : tokens.insert? token = some tokens') : TokensWithin flow tokens' := by
  intro other hother
  rw [(Table.insert?_eq_some.mp hinsert).2, List.mem_append, List.mem_singleton] at hother
  rcases hother with hother | rfl
  · exact h other hother
  · exact htoken

theorem TokensWithin.revoke {tokens : Table OAuth2RefreshToken.tokenHash}
    (hclosed : flow.Closed clock) (h : TokensWithin flow tokens) (tokenHashes : List String)
    (now : DateTime) : TokensWithin flow (RefreshTokens.State.revoke tokens tokenHashes now) := by
  intro other hother
  obtain ⟨token, htoken, rfl⟩ :=
    (Table.mem_update (e := OAuth2RefreshToken.revoke_tokenHash now)).mp hother
  split
  · exact hclosed.revokes token now (h token htoken)
  · exact h token htoken

/-- An exchange: a code is checked before its tokens are minted, and they are its own. -/
theorem exchangesWithin_step {e e' : AuthorizationCodes.State} {i : AuthorizationCodes.Input}
    (hclosed : flow.Closed clock) (h : ExchangesWithin flow e) (htokens : TokensWithin flow e.tokens)
    (hstep : AuthorizationCodes.step service e i = some e') (hi : ∀ code, i ≠ .authorize code)
    (hnow : ∀ id now, i = .check id now → clock ≤ now) :
    ExchangesWithin flow e' ∧ TokensWithin flow e'.tokens := by
  have hpast := AuthorizationCodes.past_of_step hstep hi
  cases AuthorizationCodes.effect_of_step hstep with
  | authorize => exact absurd hpast.created (List.cons_ne_self _ _)
  | @begin x requests hphase hinsert =>
    have hmem : ∀ y ∈ requests.rows, y ∈ e.requests.rows ∨ y.phase = .started := by
      intro y hy
      rw [(Table.insert?_eq_some.mp hinsert).2, List.mem_append, List.mem_singleton] at hy
      rcases hy with hy | rfl
      · exact .inl hy
      · exact .inr hphase
    refine ⟨⟨h.codes, fun y hy code hcode => ?_, fun y hy checked hin => ?_,
      fun y hy code now token response hminted => ?_⟩, htokens⟩
    · rcases hmem y hy with hy | hy
      · exact h.deleted y hy code hcode
      · rw [hy] at hcode
        cases hcode
    · rcases hmem y hy with hy | hy
      · exact h.checked y hy checked hin
      · rw [hy] at hin
        cases hin
    · rcases hmem y hy with hy | hy
      · exact h.minted y hy code now token response hminted
      · cases hy.symm.trans hminted
  | @advance x phase hx hadvances =>
    refine ⟨⟨h.codes, fun y hy code hcode => ?_, fun y hy checked hin => ?_,
      fun y hy code now token response hminted => ?_⟩, htokens⟩
    · rcases (AuthorizationCodes.mem_advance hx).mp hy with rfl | ⟨hy, -⟩
      · obtain hcode : code ∈ phase.deleted? := hcode
        cases hadvances with
        | deleting => cases hcode
        | deleted _ _ _ hfind =>
          cases hcode
          exact h.codes code (Table.find?_eq_some.mp hfind).1
        | checked hphase => exact h.deleted x hx code (by rw [hphase]; exact hcode)
        | minted draw hphase => exact h.deleted x hx code (by rw [hphase]; exact hcode)
      · exact h.deleted y hy code hcode
    · rcases (AuthorizationCodes.mem_advance hx).mp hy with rfl | ⟨hold, -⟩
      · have hnew := hpast.checked _ hy checked hin
        obtain hin : checked ∈ phase.checked? := hin
        cases hadvances with
        | deleting => cases hin
        | deleted => cases hin
        | @checked code now hphase hcheck =>
          cases hin
          obtain ⟨hunexpired, hclient, -, -⟩ := AuthorizationCodes.checkCode_ok hcheck
          refine ⟨?_, hclient⟩
          rcases hnew with ⟨z, hz, hold⟩ | ⟨id, rfl⟩
          · exact (h.checked z hz (code, now) hold).1
          · exact hclosed.checks code (h.deleted x hx code (by rw [hphase]; rfl))
              ((hnow id now rfl).trans hunexpired)
        | minted draw hphase => exact h.checked x hx checked (by rw [hphase]; exact hin)
      · exact h.checked y hold checked hin
    · rcases (AuthorizationCodes.mem_advance hx).mp hy with rfl | ⟨hy, -⟩
      · obtain rfl : phase = .minted code now token response := hminted
        cases hadvances with
        | minted draw hphase =>
          have hclient := (h.checked x hx (code, now) (by rw [hphase]; rfl)).2.symm
          exact ⟨⟨rfl, hclient, rfl⟩, rfl, hclient, rfl⟩
      · exact h.minted y hy code now token response hminted
  | @commit x code now token response tokens hx hphase hinsert =>
    have hchecked := (h.checked x hx (code, now) (by rw [hphase]; rfl)).1
    have htoken := h.minted x hx code now token response hphase
    refine ⟨⟨fun other hother => h.codes other (Table.mem_erase.mp hother).1,
      fun y hy => h.deleted y (Table.mem_erase.mp hy).1,
      fun y hy => h.checked y (Table.mem_erase.mp hy).1,
      fun y hy => h.minted y (Table.mem_erase.mp hy).1⟩,
      htokens.insert (hclosed.exchanges code token hchecked htoken.refreshToken) hinsert⟩
  | close refusals hx =>
    exact ⟨⟨h.codes, fun y hy => h.deleted y (Table.mem_erase.mp hy).1,
      fun y hy => h.checked y (Table.mem_erase.mp hy).1,
      fun y hy => h.minted y (Table.mem_erase.mp hy).1⟩, htokens⟩

/-- A rotation: only an active token is claimed, and the new one is for the same pair and scope. -/
theorem refreshesWithin_step {r r' : RefreshTokens.State} {i : RefreshTokens.Input}
    (hclosed : flow.Closed clock) (h : RefreshesWithin flow r) (htokens : TokensWithin flow r.tokens)
    (hstep : RefreshTokens.step service r i = some r') :
    RefreshesWithin flow r' ∧ TokensWithin flow r'.tokens := by
  cases RefreshTokens.effect_of_step hstep with
  | @begin _ x requests hphase hid hinsert =>
    have hmem : ∀ y ∈ requests.rows, y ∈ r.requests.rows ∨ y.phase = .started := by
      intro y hy
      rw [(Table.insert?_eq_some.mp hinsert).2, List.mem_append, List.mem_singleton] at hy
      rcases hy with hy | rfl
      · exact .inl hy
      · exact .inr hphase
    refine ⟨⟨fun y hy token hclaimed => ?_, fun y hy token child response hminted => ?_⟩, htokens⟩
    · rcases hmem y hy with hy | hy
      · exact h.claimed y hy token hclaimed
      · rw [hy] at hclaimed
        cases hclaimed
    · rcases hmem y hy with hy | hy
      · exact h.minted y hy token child response hminted
      · cases hy.symm.trans hminted
  | @advance _ x phase hx hadvances =>
    refine ⟨⟨fun y hy token hclaimed => ?_, fun y hy token child response hminted => ?_⟩, htokens⟩
    · rcases (RefreshTokens.mem_advance hx).mp hy with rfl | ⟨hy, -⟩
      · obtain hclaimed : token ∈ phase.claimed? := hclaimed
        cases hadvances with
        | updating => cases hclaimed
        | refused => cases hclaimed
        | claimed _ _ _ hfind hactive =>
          cases hclaimed
          obtain ⟨hclient, hnone, -⟩ := OAuth2RefreshToken.isActive_iff.mp hactive
          exact ⟨hclosed.claims token (htokens token (Table.find?_eq_some.mp hfind).1) hnone, hclient⟩
        | minted draw hphase => exact h.claimed x hx token (by rw [hphase]; exact hclaimed)
        | reuse => cases hclaimed
        | matchingFamily => cases hclaimed
        | revokedFamily => cases hclaimed
      · exact h.claimed y hy token hclaimed
    · rcases (RefreshTokens.mem_advance hx).mp hy with rfl | ⟨hy, -⟩
      · obtain rfl : phase = .minted token child response := hminted
        cases hadvances with
        | minted draw hphase =>
          have hclient := (h.claimed x hx token (by rw [hphase]; rfl)).2.symm
          exact ⟨⟨rfl, hclient, rfl⟩, rfl, hclient, rfl⟩
      · exact h.minted y hy token child response hminted
  | @commit x token child response tokens hx hphase hinsert =>
    have hclaimed := (h.claimed x hx token (by rw [hphase]; rfl)).1
    have hchild := h.minted x hx token child response hphase
    exact ⟨⟨fun y hy => h.claimed y (Table.mem_erase.mp hy).1,
      fun y hy => h.minted y (Table.mem_erase.mp hy).1⟩,
      (htokens.revoke hclosed _ _).insert (hclosed.rotates token child hclaimed hchild.refreshToken)
        hinsert⟩
  | commitFamily hx hphase =>
    exact ⟨⟨fun y hy => h.claimed y (Table.mem_erase.mp hy).1,
      fun y hy => h.minted y (Table.mem_erase.mp hy).1⟩, htokens.revoke hclosed _ _⟩
  | close refusals hx =>
    exact ⟨⟨fun y hy => h.claimed y (Table.mem_erase.mp hy).1,
      fun y hy => h.minted y (Table.mem_erase.mp hy).1⟩, htokens⟩

theorem mem_advanceGrant {x y : Grant} {phase : GrantPhase} (hx : x ∈ s.grants.rows) :
    y ∈ (s.advanceGrant x.id phase).grants.rows ↔
      y = setGrantPhase phase x ∨ y ∈ s.grants.rows ∧ y.id ≠ x.id :=
  RowLock.mem_update_session (e := setGrantPhase_id phase) hx

theorem GrantsWithin.erase {grants : Table Grant.id} (h : GrantsWithin flow grants)
    (id : RequestId) : GrantsWithin flow (grants.erase id) :=
  ⟨fun x hx => h.covered x (Table.mem_erase.mp hx).1, fun x hx => h.coded x (Table.mem_erase.mp hx).1⟩

theorem GrantsWithin.advance (hclosed : flow.Closed clock) (h : GrantsWithin flow s.grants)
    (hconsents : ∀ consent ∈ s.consents.rows, flow.consent consent) {x : Grant}
    (hx : x ∈ s.grants.rows) {phase : GrantPhase}
    (hadvances : GrantAdvances redirectUriMatches s x phase) :
    GrantsWithin flow (s.advanceGrant x.id phase).grants := by
  constructor
  · intro y hy happroval hphase
    rcases (mem_advanceGrant hx).mp hy with rfl | ⟨hy, -⟩
    · cases hadvances with
      | @covered consent hauthorizing hconsent hpair hcovers =>
        obtain ⟨huser, hclient⟩ := Prod.mk.inj hpair
        have hcovered := hclosed.covers consent x.request (hconsents consent hconsent) hclient hcovers
        rwa [huser] at hcovered
      | consented hallowed => exact h.covered x hx happroval (by rw [hallowed]; nofun)
      | coded hread hcreate =>
        exact h.covered x hx happroval (by rcases hread with hread | hread <;> rw [hread] <;> nofun)
    · exact h.covered y hy happroval hphase
  · intro y hy code hcoded
    rcases (mem_advanceGrant hx).mp hy with rfl | ⟨hy, -⟩
    · obtain rfl : phase = .coded code := hcoded
      cases hadvances with
      | coded hread hcreate => exact codeOf_create hcreate
    · exact h.coded y hy code hcoded

/-- A code is committed: it is of a request that a consent covered, or that was just approved. -/
theorem ExchangesWithin.authorize {e : AuthorizationCodes.State} (h : ExchangesWithin flow e)
    {code : OAuth2AuthorizationCode} {codes : Table OAuth2AuthorizationCode.code}
    (hcode : flow.code code) (hinsert : e.codes.insert? code = some codes) :
    ExchangesWithin flow { e with codes, created := code :: e.created } := by
  refine ⟨fun other hother => ?_, h.deleted, h.checked, h.minted⟩
  rw [(Table.insert?_eq_some.mp hinsert).2, List.mem_append, List.mem_singleton] at hother
  rcases hother with hother | rfl
  · exact h.codes other hother
  · exact hcode

/-- What is approved has to be in the flow; all else follows from what is there. -/
theorem Within.grant {i : GrantInput} (hclosed : flow.Closed clock) (h : Within flow s)
    (hstep : stepGrant service redirectUriMatches s i = some t)
    (happroved : ∀ x ∈ s.grants.rows, x.approval = true → i = .commit x.id →
      flow.consent x.consent ∧ ∀ code, CodeOf x.userId x.request code → flow.code code) :
    Within flow t := by
  cases grantEffect_of_step hstep with
  | @begin _ x grants hphase hinsert =>
    have hmem : ∀ y ∈ grants.rows, y ∈ s.grants.rows ∨ y = x := by
      intro y hy
      rwa [(Table.insert?_eq_some.mp hinsert).2, List.mem_append, List.mem_singleton] at hy
    refine ⟨h.shared, h.consents, h.tokens, ⟨fun y hy happroval hauthorizing => ?_,
      fun y hy code hcoded => ?_⟩, h.exchanging, h.refreshing⟩
    · rcases hmem y hy with hy | rfl
      · exact h.grants.covered y hy happroval hauthorizing
      · rcases hphase with ⟨hyes, -⟩ | ⟨-, hphase⟩
        · rw [happroval] at hyes
          cases hyes
        · exact absurd hphase hauthorizing
    · rcases hmem y hy with hy | rfl
      · exact h.grants.coded y hy code hcoded
      · rcases hphase with ⟨-, hphase⟩ | ⟨-, hphase⟩ <;> cases hphase.symm.trans hcoded
  | advance hx hadvances =>
    exact ⟨h.shared, h.consents, h.tokens, h.grants.advance hclosed h.consents hx hadvances,
      h.exchanging, h.refreshing⟩
  | @commit x code codes hx hphase happroval hinsert =>
    have hcovered := h.grants.covered x hx happroval (by rw [hphase]; nofun)
    have hcode := hclosed.issues _ _ code hcovered (h.grants.coded x hx code hphase)
    exact ⟨h.shared, h.consents, h.tokens, h.grants.erase x.id,
      h.exchanging.authorize hcode hinsert, h.refreshing⟩
  | @approve x code codes hx hphase happroval hinsert =>
    obtain ⟨hconsent, hcodes⟩ := happroved x hx happroval rfl
    refine ⟨h.shared, fun consent hmem => ?_, h.tokens, h.grants.erase x.id,
      h.exchanging.authorize (hcodes code (h.grants.coded x hx code hphase)) hinsert, h.refreshing⟩
    rcases Table.mem_put.mp hmem with rfl | ⟨hmem, -⟩
    · exact hconsent
    · exact h.consents consent hmem
  | @close _ x pendings refusals hx =>
    exact ⟨h.shared, h.consents, h.tokens, h.grants.erase x.id, h.exchanging, h.refreshing⟩
  | refuse refusals =>
    exact ⟨h.shared, h.consents, h.tokens, h.grants, h.exchanging, h.refreshing⟩

theorem Within.revocation {i : RevocationInput} (hclosed : flow.Closed clock) (h : Within flow s)
    (hstep : stepRevocation s i = some t) : Within flow t := by
  cases revocationEffect_of_step hstep with
  | running revocations =>
    exact ⟨h.shared, h.consents, h.tokens, h.grants, h.exchanging, h.refreshing⟩
  | commit hx hphase =>
    refine ⟨rfl, fun consent hconsent => ?_, h.tokens.revoke hclosed _ _, h.grants,
      ⟨h.exchanging.codes, h.exchanging.deleted, h.exchanging.checked, h.exchanging.minted⟩,
      ⟨h.refreshing.claimed, h.refreshing.minted⟩⟩
    split at hconsent
    · exact h.consents consent (Table.mem_erase.mp hconsent).1
    · exact h.consents consent hconsent

theorem Within.exchange {i : AuthorizationCodes.Input} (hclosed : flow.Closed clock)
    (h : Within flow s) (hstep : stepExchange service s i = some t)
    (hnow : ∀ id now, i = .check id now → clock ≤ now) : Within flow t := by
  have hi : ∀ code, i ≠ .authorize code := by
    rintro code rfl
    cases hstep
  obtain ⟨exchanging, hexchange, rfl⟩ := exchange_of_step hstep
  have htokens : TokensWithin flow s.exchanging.tokens := by
    rw [h.shared]
    exact h.tokens
  obtain ⟨hexchanging, htokens⟩ :=
    exchangesWithin_step hclosed h.exchanging htokens hexchange hi hnow
  exact ⟨rfl, h.consents, htokens, h.grants, hexchanging,
    ⟨h.refreshing.claimed, h.refreshing.minted⟩⟩

theorem Within.refresh {i : RefreshTokens.Input} (hclosed : flow.Closed clock)
    (h : Within flow s) (hstep : stepRefresh service s i = some t) : Within flow t := by
  obtain ⟨refreshing, hrefresh, rfl⟩ := refresh_of_step hstep
  obtain ⟨hrefreshing, htokens⟩ := refreshesWithin_step hclosed h.refreshing h.tokens hrefresh
  exact ⟨rfl, h.consents, htokens, h.grants,
    ⟨h.exchanging.codes, h.exchanging.deleted, h.exchanging.checked, h.exchanging.minted⟩,
    hrefreshing⟩

theorem Within.mono {flow' : Flow} (hle : flow.Le flow') (h : Within flow s) : Within flow' s where
  shared := h.shared
  consents := fun consent hconsent => hle.consent consent (h.consents consent hconsent)
  tokens := fun token htoken => hle.token token (h.tokens token htoken)
  grants := ⟨fun x hx happroval hphase => hle.covered _ _ (h.grants.covered x hx happroval hphase),
    h.grants.coded⟩
  exchanging := ⟨fun code hcode => hle.code code (h.exchanging.codes code hcode),
    fun x hx code hcode => hle.code code (h.exchanging.deleted x hx code hcode),
    fun x hx checked hchecked => (h.exchanging.checked x hx checked hchecked).imp_left
      (hle.checked checked.1), h.exchanging.minted⟩
  refreshing := ⟨fun x hx token htoken => (h.refreshing.claimed x hx token htoken).imp_left
      (hle.claimed token), h.refreshing.minted⟩

/-- Nothing but what is approved comes into a flow. -/
theorem Within.performed {i : Input} (hclosed : flow.Closed clock) (h : Within flow s)
    (hstep : perform service redirectUriMatches s i = some t)
    (hnow : ∀ now ∈ i.now?, clock ≤ now)
    (happroved : ∀ x ∈ s.grants.rows, x.approval = true → i = .grant (.commit x.id) →
      flow.consent x.consent ∧ ∀ code, CodeOf x.userId x.request code → flow.code code) :
    Within flow t := by
  cases i with
  | grant input =>
    exact h.grant hclosed hstep fun x hx happroval hcommit =>
      happroved x hx happroval (congrArg Input.grant hcommit)
  | revocation input => exact h.revocation hclosed hstep
  | exchange input =>
    refine h.exchange hclosed hstep fun id now hcheck => hnow now ?_
    rw [hcheck]
    rfl
  | refresh input => exact h.refresh hclosed hstep

/-- An exchange that is committed is of a checked code. -/
theorem Within.exchanged {i : Input} {e : AuthorizationCodes.Exchange} (h : Within flow s)
    (hstep : perform service redirectUriMatches s i = some t)
    (he : t.exchanging.exchanges = e :: s.exchanging.exchanges) :
    flow.checked e.code ∧
      MintedFor e.code.userId e.code.clientId e.code.scope e.token e.response := by
  cases i with
  | grant input =>
    cases grantEffect_of_step hstep with
    | _ => exact absurd he.symm (List.cons_ne_self _ _)
  | revocation input =>
    cases revocationEffect_of_step hstep with
    | _ => exact absurd he.symm (List.cons_ne_self _ _)
  | exchange input =>
    obtain ⟨exchanging, hexchange, hthen⟩ := exchange_of_step hstep
    obtain rfl := hthen
    cases AuthorizationCodes.effect_of_step hexchange with
    | @commit x code now token response tokens hx hphase hinsert =>
      obtain rfl := (List.cons.inj he).1
      exact ⟨(h.exchanging.checked x hx (code, now) (by rw [hphase]; rfl)).1,
        h.exchanging.minted x hx code now token response hphase⟩
    | _ => exact absurd he.symm (List.cons_ne_self _ _)
  | refresh input =>
    obtain ⟨refreshing, -, rfl⟩ := refresh_of_step hstep
    exact absurd he.symm (List.cons_ne_self _ _)

/-- A rotation that is committed is of a claimed token. -/
theorem Within.rotated {i : Input} {r : RefreshTokens.Rotation} (h : Within flow s)
    (hstep : perform service redirectUriMatches s i = some t)
    (hr : t.refreshing.rotations = r :: s.refreshing.rotations) :
    flow.claimed r.parent ∧
      MintedFor r.parent.userId r.parent.clientId r.parent.scope r.child r.response := by
  cases i with
  | grant input =>
    cases grantEffect_of_step hstep with
    | _ => exact absurd hr.symm (List.cons_ne_self _ _)
  | revocation input =>
    cases revocationEffect_of_step hstep with
    | _ => exact absurd hr.symm (List.cons_ne_self _ _)
  | exchange input =>
    obtain ⟨exchanging, -, rfl⟩ := exchange_of_step hstep
    exact absurd hr.symm (List.cons_ne_self _ _)
  | refresh input =>
    obtain ⟨refreshing, hrefresh, rfl⟩ := refresh_of_step hstep
    cases RefreshTokens.effect_of_step hrefresh with
    | @commit x token child response tokens hx hphase hinsert =>
      obtain rfl := (List.cons.inj hr).1
      exact ⟨(h.refreshing.claimed x hx token (by rw [hphase]; rfl)).1,
        h.refreshing.minted x hx token child response hphase⟩
    | _ => exact absurd hr.symm (List.cons_ne_self _ _)

end Flow

/-- The user has at some time approved the scope for the client. -/
def Approved (approvals : List OAuth2UserConsent) (userId : UserId) (clientId scope : String) :
    Prop :=
  ∃ approval ∈ approvals, approval.pair = (userId, clientId) ∧
    scope ∈ splitWhitespace approval.scope

def Confined (approvals : List OAuth2UserConsent) (userId : UserId) (clientId : String)
    (scope : Option String) : Prop :=
  ∀ token ∈ splitWhitespace (scope.getD ""), Approved approvals userId clientId token

/-- Every code and every refresh token is for scopes that its user has approved for its client. -/
structure ScopesConfined (s : State) : Prop where
  codes : ∀ code ∈ s.exchanging.codes.rows,
    Confined s.approvals code.userId code.clientId code.scope
  tokens : ∀ token ∈ s.tokens.rows,
    Confined s.approvals token.userId token.clientId token.scope

/-- The flow of approved scopes. -/
def scopeFlow (approvals : List OAuth2UserConsent) : Flow where
  consent consent := Confined approvals consent.userId consent.clientId (some consent.scope)
  covered userId request := Confined approvals userId request.clientId request.scope
  code code := Confined approvals code.userId code.clientId code.scope
  checked code := Confined approvals code.userId code.clientId code.scope
  token token := Confined approvals token.userId token.clientId token.scope
  claimed token := Confined approvals token.userId token.clientId token.scope

section Scopes
variable {service : OAuth2Service} {redirectUriMatches : RedirectUriMatches} {s t : State}
  {approvals approvals' : List OAuth2UserConsent}

theorem Confined.mono (hsubset : approvals ⊆ approvals') {userId : UserId} {clientId : String}
    {scope : Option String} (h : Confined approvals userId clientId scope) :
    Confined approvals' userId clientId scope := by
  intro token htoken
  obtain ⟨approval, happroval, hpair, hscope⟩ := h token htoken
  exact ⟨approval, hsubset happroval, hpair, hscope⟩

theorem scopeFlow_le (hsubset : approvals ⊆ approvals') :
    (scopeFlow approvals).Le (scopeFlow approvals') :=
  ⟨fun _ => .mono hsubset, fun _ _ => .mono hsubset, fun _ => .mono hsubset,
    fun _ => .mono hsubset, fun _ => .mono hsubset, fun _ => .mono hsubset⟩

theorem scopeFlow_closed (approvals : List OAuth2UserConsent) (clock : DateTime) :
    (scopeFlow approvals).Closed clock where
  covers consent request hconsent hclient hcovers := by
    intro token htoken
    have hstored := List.all_eq_true.mp hcovers token htoken
    show Approved approvals consent.userId request.clientId token
    rw [← hclient]
    exact hconsent token (List.contains_iff_mem.mp hstored)
  issues userId request code hcovered hcode := by
    show Confined approvals code.userId code.clientId code.scope
    rw [hcode.userId, hcode.clientId, hcode.scope]
    exact hcovered
  checks code hcode _ := hcode
  exchanges code token hchecked htoken := by
    show Confined approvals token.userId token.clientId token.scope
    rw [htoken.userId, htoken.clientId, htoken.scope]
    exact hchecked
  claims token htoken _ := htoken
  rotates parent child hclaimed hchild := by
    show Confined approvals child.userId child.clientId child.scope
    rw [hchild.userId, hchild.clientId, hchild.scope]
    exact hclaimed
  revokes token now htoken := htoken

theorem approvals_subset {i : Input} (h : perform service redirectUriMatches s i = some t) :
    s.approvals ⊆ t.approvals := by
  cases i with
  | grant input =>
    cases grantEffect_of_step h with
    | approve => exact List.subset_cons_self _ _
    | _ => exact List.Subset.refl _
  | revocation input =>
    cases revocationEffect_of_step h with
    | _ => exact List.Subset.refl _
  | exchange input =>
    obtain ⟨exchanging, -, rfl⟩ := exchange_of_step h
    exact List.Subset.refl _
  | refresh input =>
    obtain ⟨refreshing, -, rfl⟩ := refresh_of_step h
    exact List.Subset.refl _

theorem withinScopes_step {i : Input} (h : Within (scopeFlow s.approvals) s)
    (hstep : step service redirectUriMatches s i = some t) : Within (scopeFlow t.approvals) t := by
  obtain ⟨-, hperform⟩ := step_eq_some hstep
  have hclock : Within (scopeFlow s.approvals) { s with clock := i.now?.getD s.clock } :=
    ⟨h.shared, h.consents, h.tokens, h.grants, h.exchanging, h.refreshing⟩
  refine (hclock.mono (scopeFlow_le (approvals_subset hperform))).performed
    (scopeFlow_closed _ (i.now?.getD s.clock)) hperform (now_le (s := s)) ?_
  rintro x hx happroval rfl
  obtain ⟨hrecorded, -⟩ := approved_of_commit hx happroval hperform
  have happroved : Confined t.approvals x.userId x.request.clientId x.request.scope := by
    intro token htoken
    exact ⟨x.consent, by rw [hrecorded]; exact List.mem_cons_self, rfl, htoken⟩
  refine ⟨happroved, fun code hcode => ?_⟩
  show Confined t.approvals code.userId code.clientId code.scope
  rw [hcode.userId, hcode.clientId, hcode.scope]
  exact happroved

theorem within_initial {flow : Flow} {clock : DateTime} {consents : Table OAuth2UserConsent.pair}
    {codes : Table OAuth2AuthorizationCode.code} {tokens : Table OAuth2RefreshToken.tokenHash}
    (hconsents : ∀ consent ∈ consents.rows, flow.consent consent)
    (hcodes : ∀ code ∈ codes.rows, flow.code code) (htokens : TokensWithin flow tokens) :
    Within flow (initial clock consents codes tokens) where
  shared := rfl
  consents := hconsents
  tokens := htokens
  grants := ⟨fun _ hx => absurd hx Table.not_mem_empty, fun _ hx => absurd hx Table.not_mem_empty⟩
  exchanging := ⟨hcodes, fun _ hx => absurd hx Table.not_mem_empty,
    fun _ hx => absurd hx Table.not_mem_empty, fun _ hx => absurd hx Table.not_mem_empty⟩
  refreshing := ⟨fun _ hx => absurd hx Table.not_mem_empty,
    fun _ hx => absurd hx Table.not_mem_empty⟩

/-- In every order of the statements of any requests, whatever is exchanged and rotated, no code and
no token is for a scope that its user has not approved for its client. -/
theorem scopes_confined (service : OAuth2Service) (redirectUriMatches : RedirectUriMatches)
    (clock : DateTime) (inputs : List Input)
    (hrun : Possible (step service redirectUriMatches)
      (initial clock Table.empty Table.empty Table.empty) inputs) :
    Along (step service redirectUriMatches) (fun _ _ t => ScopesConfined t)
      (initial clock Table.empty Table.empty Table.empty) inputs :=
  hrun.of_invariant (I := fun s => Within (scopeFlow s.approvals) s)
    (fun _ _ _ h hstep _ => withinScopes_step h hstep)
    (fun _ _ _ h hstep _ =>
      have hwithin := withinScopes_step h hstep
      ⟨hwithin.exchanging.codes, hwithin.tokens⟩)
    (within_initial (fun _ hconsent => absurd hconsent Table.not_mem_empty)
      (fun _ hcode => absurd hcode Table.not_mem_empty)
      (fun _ htoken => absurd htoken Table.not_mem_empty))

end Scopes

/-- The digests of the verifier and of the refresh tokens of the runs below. -/
def sampleDigest : String → String
  | "verifier" => "iMnq5o6zALKXGivsnlom_0F5_WYda32GHkxlV7mq7hQ"
  | "parent" => "5HEllos7cQSfvEgC0eQKceoTWd7Pq6z3CzRYgDfU_ww"
  | "child" => "3cnmaRlCVM7wGaKdNhmiwWWS5dUuGoHpiwG9UjGRSaM"
  | other => other

def sampleService : OAuth2Service := { hashToken := sampleDigest, resourceUrl := "https://inbox/mcp" }

def sampleStep : State → Input → Option State :=
  step sampleService fun registered requested => registered.contains requested

def sampleRequest (scope : String) : AuthorizationRequest :=
  { clientId := "client", redirectUri := "https://client/cb", scope := some scope, state := none,
    codeChallenge := sampleDigest "verifier", codeChallengeMethod := "S256", resource := none }

def sampleParams (scope : String) : AuthorizeParams :=
  { sampleRequest scope with responseType := "code" }

def samplePending (scope : String) : PendingConsentRequest :=
  { sampleRequest scope with
    requestId := "request", csrfToken := "csrf", userId := ⟨0⟩, expiresAt := 300000000010 }

def sampleClient : Option (List String) := some ["https://client/cb"]

def sampleDraw (refreshToken : String) : Draw :=
  { refreshToken, jti := 0, accessNow := 30, refreshNow := 30 }

/-- The user is asked for a consent, allows it, and a code is committed with it. -/
def consentRun (scope : String) : List Input :=
  [.grant (.authorize 0 ⟨0⟩ (sampleParams scope)),
    .grant (.readConsent 0 sampleClient ⟨"request", "csrf"⟩ 10),
    .grant (.consent 1 ⟨0⟩ (some (samplePending scope)) ⟨"request", "csrf", .allow⟩ 20),
    .grant (.upsertConsent 1), .grant (.createCode 1 sampleClient "code" 20), .grant (.commit 1)]

def exchangeRun : List Input :=
  [.exchange (.begin 0 "code" "client" "https://client/cb" "verifier"), .exchange (.delete 0),
    .exchange (.claim 0), .exchange (.check 0 30), .exchange (.mint 0 (sampleDraw "parent")),
    .exchange (.commit 0)]

def rotationRun : List Input :=
  [.refresh (.begin "parent" "client" 40), .refresh (.revokeIfActive 0), .refresh (.claim 0),
    .refresh (.mint 0 (sampleDraw "child")), .refresh (.commit 0)]

/-- A code for one of the scopes that were approved, without a new consent. -/
def coveredRun : List Input :=
  [.grant (.authorize 2 ⟨0⟩ (sampleParams "read")),
    .grant (.readConsent 2 sampleClient ⟨"other", "csrf"⟩ 50),
    .grant (.createCode 2 sampleClient "narrow" 50), .grant (.commit 2)]

theorem approvedScopes_confined :
    Along sampleStep (fun _ _ t => ScopesConfined t)
      (initial 0 Table.empty Table.empty Table.empty)
      (consentRun "read write" ++ exchangeRun ++ rotationRun ++ coveredRun) :=
  scopes_confined sampleService _ 0 _ (by decide +kernel)

end UniversalInbox.OAuth2.AuthorizationServer
