import UniversalInbox.Library.Table
import UniversalInbox.Library.Transition
import UniversalInbox.User

/-! Sign-in and linking with an OpenID Connect provider: the session cookie between the two
requests of a flow, and the accounts and identities that come of it. -/
namespace UniversalInbox.Oidc
open Transition User

/-- The session cookie, as far as these routes read and write it: `jwt` is the subject of its
token. -/
structure Session where
  csrfToken : Option String := none
  nonce : Option String := none
  authorizationUrl : Option String := none
  linkingUserId : Option UserId := none
  jwt : Option UserId := none
  userAuthKind : Option UserAuthKind := none
deriving DecidableEq, Repr

def Session.signIn (session : Session) (userId : UserId) (kind : UserAuthKind) : Session :=
  { session with jwt := some userId, userAuthKind := some kind }

/-- What `build_auth_url` draws. -/
structure AuthUrl where
  authorizationUrl : String
  csrfToken : String
  nonce : String
deriving DecidableEq, Repr

structure IdToken where
  subject : String
  text : String
deriving DecidableEq, Repr

structure OpenIdConnectUserAuth where
  authUserId : String
  userId : UserId
  kind : UserAuthKind
  authIdToken : String
deriving DecidableEq, Repr

structure Account where
  id : UserId
  email : Option EmailAddress
deriving DecidableEq, Repr

/-- A CSRF token and a nonce that were drawn, with the user whose request to link drew them. -/
structure Flow where
  csrfToken : String
  nonce : String
  startedBy : Option UserId
deriving DecidableEq, Repr

/-- Where an identity is presented: in a callback, with the CSRF token and the nonce that it passed,
or with an access token, by a caller who links. -/
inductive Source where
  | callback (csrfToken nonce : String)
  | accessToken (caller : Option UserId)
deriving DecidableEq, Repr

/-- A request that is about to write: a link, or the creation of an account. -/
structure Pending where
  id : Nat
  session : Session
  source : Source
  linking : Option UserId
  kind : UserAuthKind
  authUserId : String
  authIdToken : String
  email : Option EmailAddress
deriving DecidableEq, Repr

/-- What an identity was good for: `linking` has the user it was linked to. -/
structure Effect where
  source : Source
  linking : Option UserId
  userId : UserId
  authUserId : String
deriving DecidableEq, Repr

/-- `issued` has the cookies that were ever set, `flows` and `presented` all there ever were; the
latter has what an identity is good for once its request comes to its `COMMIT`, and `effects` what of
it was committed. -/
structure State where
  issued : List Session
  users : Table Account.id
  auths : Table OpenIdConnectUserAuth.authUserId
  pending : Table Pending.id
  begun : Nat
  flows : List Flow
  presented : List Effect
  effects : List Effect
  refusals : List Refusal

/-- What the provider makes of the code of a callback depends on the nonce it is checked against; of
an access token it tells the identity; `email` is its answer about the user, and `committed` how the
`COMMIT` of a request ends that finds the identity. A request that is about to write can fail, at its
`COMMIT` (`failCommit`) or before (`fail`), or go without an answer. The last four are requests to
other routes. -/
inductive Input where
  | authorizeSession (session : Session) (draw : Except Refusal AuthUrl)
  | authorizeLinkOidc (session : Session) (caller : UserId) (draw : Except Refusal AuthUrl)
  | authenticatedSession (session : Session) (state : String)
      (exchange : String → Except Refusal IdToken) (email : Except Refusal EmailAddress)
      (committed : Bool)
  | authenticateSession (session : Session) (idToken : Except Refusal IdToken)
      (email : Except Refusal EmailAddress) (committed : Bool)
  | linkOidcPkceSession (session : Session) (caller : UserId) (idToken : Except Refusal IdToken)
      (email : Except Refusal EmailAddress)
  | write (id : Nat) (newUser : UserId)
  | failCommit (id : Nat) (newUser : UserId)
  | fail (id : Nat) (refusal : Refusal)
  | abandon (id : Nat)
  | createUser (userId : UserId) (email : Option EmailAddress)
  | patchEmail (userId : UserId) (email : EmailAddress)
  | removeAuthMethod (userId : UserId) (kind : UserAuthKind)
  | deleteUser (userId : UserId)

def missingUrl : Refusal :=
  .error (.unexpected "Failed to remove the OIDC authorization URL from the session")

def missingKey (key : String) : Refusal := .error (.unexpected s!"Missing `{key}` session key")

def noSuchUser (userId : UserId) : Refusal :=
  .error (.itemNotFound s!"User {userId.uuid} not found")

def otherEmail (oidcEmail currentEmail : EmailAddress) : Refusal :=
  .error (.invalidInputData s!"The email from the OIDC account ({oidcEmail}) does not match your current email ({currentEmail})")

def notCommitted (linking : Option UserId) : Refusal :=
  .error (.unexpected (if linking.isSome then "Failed to commit while linking OIDC auth method"
    else "Failed to commit while authenticating user"))

namespace State
variable (service : UserService) (s : State)

def holds (session : Session) : Bool := decide (session = {}) || s.issued.contains session

def issue (session : Session) : State := { s with issued := session :: s.issued }

def refuse (session : Session) (refusal : Refusal) : State :=
  { s with issued := session :: s.issued, refusals := refusal :: s.refusals }

/-- Draws no URL where the session has one. -/
def buildOidcAuthorizationResponse (session : Session) (startedBy : Option UserId)
    (draw : Except Refusal AuthUrl) : State :=
  match session.authorizationUrl, draw with
  | some _, _ => s.issue session
  | none, .error refusal => s.refuse session refusal
  | none, .ok url =>
    { s with flows := ⟨url.csrfToken, url.nonce, startedBy⟩ :: s.flows }.issue
      { session with
        csrfToken := some url.csrfToken
        nonce := some url.nonce
        authorizationUrl := some url.authorizationUrl }

def authorizeSession (session : Session) (draw : Except Refusal AuthUrl) : State :=
  s.buildOidcAuthorizationResponse
    { session with linkingUserId := none, authorizationUrl := none } none draw

def authorizeLinkOidc (session : Session) (caller : UserId) (draw : Except Refusal AuthUrl) :
    State :=
  s.buildOidcAuthorizationResponse
    { session with linkingUserId := some caller, authorizationUrl := none } (some caller) draw

def beginWrite (session : Session) (source : Source) (linking : Option UserId)
    (kind : UserAuthKind) (idToken : IdToken) (email : Option EmailAddress) : State :=
  { s with
    pending := s.pending.put
      ⟨s.begun, session, source, linking, kind, idToken.subject, idToken.text, email⟩
    begun := s.begun + 1 }

def rejected (email : EmailAddress) : Option Refusal :=
  (service.rejectionMessage email).map fun message => .error (.forbidden message)

/-- `link_oidc_auth_method`, up to its writes: the email is written where the user has none. -/
def linkOidcAuthMethod (session : Session) (source : Source) (userId : UserId) (kind : UserAuthKind)
    (idToken : IdToken) (oidcEmail : EmailAddress) : State :=
  if s.auths.rows.any fun row => decide (row.userId = userId ∧ row.kind = kind) then
    s.refuse session (.error (.alreadyExists userId.uuid))
  else
    match s.users.find? userId with
    | none => s.refuse session (noSuchUser userId)
    | some ⟨_, some currentEmail⟩ =>
      if currentEmail ≠ oidcEmail then s.refuse session (otherEmail oidcEmail currentEmail)
      else s.beginWrite session source (some userId) kind idToken none
    | some ⟨_, none⟩ =>
      match rejected service oidcEmail with
      | some refusal => s.refuse session refusal
      | none => s.beginWrite session source (some userId) kind idToken (some oidcEmail)

/-- Another row has the ID token. -/
def tokenTaken (authUserId authIdToken : String) : Bool :=
  s.auths.rows.any fun row => decide (row.authIdToken = authIdToken ∧ row.authUserId ≠ authUserId)

/-- `authenticate_and_create_user_if_not_exists`, up to the creation of the user. The cookie is set
before the `COMMIT`. -/
def authenticateAndCreateUserIfNotExists (session : Session) (source : Source)
    (kind : UserAuthKind) (idToken : IdToken) (email : Except Refusal EmailAddress)
    (committed : Bool) : State :=
  match s.auths.find? idToken.subject with
  | some row =>
    if s.tokenTaken idToken.subject idToken.text then
      s.refuse session (.error (.databaseError
        s!"Failed to update user with auth ID {idToken.subject} from storage"))
    else
      let e : Effect := ⟨source, none, row.userId, idToken.subject⟩
      let signedIn := session.signIn row.userId kind
      if committed then
        { s with
          auths := s.auths.put { row with authIdToken := idToken.text }
          presented := e :: s.presented
          effects := e :: s.effects }.issue signedIn
      else { s with presented := e :: s.presented }.refuse signedIn (notCommitted none)
  | none =>
    match email with
    | .error refusal => s.refuse session refusal
    | .ok email =>
      match rejected service email with
      | some refusal => s.refuse session refusal
      | none => s.beginWrite session source none kind idToken (some email)

/-- The URL is removed whatever comes after; the linking user once the CSRF token has passed. -/
def authenticatedSession (session : Session) (state : String)
    (exchange : String → Except Refusal IdToken) (email : Except Refusal EmailAddress)
    (committed : Bool) : State :=
  if session.authorizationUrl.isNone then s.refuse session missingUrl
  else
    let session := { session with authorizationUrl := none }
    match session.csrfToken with
    | none => s.refuse session (missingKey "oidc_csrf_token")
    | some csrfToken =>
      if state ≠ csrfToken then s.refuse session (.unauthorized "Invalid CSRF token")
      else
        match session.nonce with
        | none => s.refuse session (missingKey "oidc_nonce")
        | some nonce =>
          let rest := { session with linkingUserId := none }
          match session.linkingUserId, exchange nonce with
          | _, .error refusal => s.refuse rest refusal
          | some userId, .ok idToken =>
            match email with
            | .error refusal => s.refuse rest refusal
            | .ok oidcEmail =>
              s.linkOidcAuthMethod service rest (.callback csrfToken nonce) userId
                .oidcGoogleAuthorizationCode idToken oidcEmail
          | none, .ok idToken =>
            s.authenticateAndCreateUserIfNotExists service rest (.callback csrfToken nonce)
              .oidcGoogleAuthorizationCode idToken email committed

def authenticateSession (session : Session) (idToken : Except Refusal IdToken)
    (email : Except Refusal EmailAddress) (committed : Bool) : State :=
  match idToken with
  | .error refusal => s.refuse session refusal
  | .ok idToken =>
    s.authenticateAndCreateUserIfNotExists service session (.accessToken none)
      .oidcAuthorizationCodePKCE idToken email committed

def linkOidcPkceSession (session : Session) (caller : UserId) (idToken : Except Refusal IdToken)
    (email : Except Refusal EmailAddress) : State :=
  match idToken, email with
  | .error refusal, _ | .ok _, .error refusal => s.refuse session refusal
  | .ok idToken, .ok oidcEmail =>
    s.linkOidcAuthMethod service session (.accessToken (some caller)) caller
      .oidcAuthorizationCodePKCE idToken oidcEmail

def emailTaken (userId : UserId) (email : Option EmailAddress) : Bool :=
  email.any fun email =>
    s.users.rows.any fun account => decide (account.email = some email ∧ account.id ≠ userId)

/-- `create_user_auth`: refers to a user that is there, and is the only row with the identity, with
the ID token, and of its kind for the user. -/
def createUserAuth (p : Pending) (userId : UserId) : Except Refusal State :=
  if (s.users.find? userId).isNone || (s.auths.find? p.authUserId).isSome ||
      s.tokenTaken p.authUserId p.authIdToken ||
      s.auths.rows.any fun row => decide (row.userId = userId ∧ row.kind = p.kind) then
    .error (.error (authNotCreated userId))
  else .ok { s with auths := s.auths.put ⟨p.authUserId, userId, p.kind, p.authIdToken⟩ }

def writeLink (p : Pending) (userId : UserId) : Except Refusal State :=
  if s.emailTaken userId p.email then .error (.error (.alreadyExists userId.uuid))
  else
    { s with
      users := s.users.update (fun account => decide (account.id = userId))
        (fun account => { account with email := p.email.or account.email }) fun _ => rfl
      }.createUserAuth p userId

def writeUser (p : Pending) (newUser : UserId) : Except Refusal State :=
  if (s.users.find? newUser).isSome || s.emailTaken newUser p.email then
    .error (.error (.alreadyExists newUser.uuid))
  else { s with users := s.users.put ⟨newUser, p.email⟩ }.createUserAuth p newUser

/-- What the transaction of a request writes. -/
def written (p : Pending) (newUser : UserId) : Except Refusal State :=
  p.linking.elim (s.writeUser p newUser) (s.writeLink p)

/-- What the identity of a request is good for. -/
def effectOf (p : Pending) (newUser : UserId) : Effect :=
  ⟨p.source, p.linking, p.linking.getD newUser, p.authUserId⟩

/-- The cookie that a request sets before its `COMMIT`: a link signs nobody in. -/
def sessionOf (p : Pending) (newUser : UserId) : Session :=
  if p.linking.isSome then p.session else p.session.signIn newUser p.kind

def write (p : Pending) (newUser : UserId) : State :=
  let s := { s with pending := s.pending.erase p.id }
  match s.written p newUser with
  | .error refusal => s.refuse p.session refusal
  | .ok t =>
    { t with
      presented := effectOf p newUser :: t.presented
      effects := effectOf p newUser :: t.effects }.issue (sessionOf p newUser)

/-- What is written is rolled back. -/
def failCommit (p : Pending) (newUser : UserId) : Option State :=
  let s := { s with pending := s.pending.erase p.id }
  match s.written p newUser with
  | .error _ => none
  | .ok _ =>
    some ({ s with presented := effectOf p newUser :: s.presented }.refuse (sessionOf p newUser)
      (notCommitted p.linking))

end State

def initial : State := ⟨[], Table.empty, Table.empty, Table.empty, 0, [], [], [], []⟩

def step (service : UserService) (s : State) : Input → Option State
  | .authorizeSession session draw =>
    if s.holds session then some (s.authorizeSession session draw) else none
  | .authorizeLinkOidc session caller draw =>
    if s.holds session then some (s.authorizeLinkOidc session caller draw) else none
  | .authenticatedSession session state exchange email committed =>
    if s.holds session then
      some (s.authenticatedSession service session state exchange email committed)
    else none
  | .authenticateSession session idToken email committed =>
    if s.holds session then some (s.authenticateSession service session idToken email committed)
    else none
  | .linkOidcPkceSession session caller idToken email =>
    if s.holds session then some (s.linkOidcPkceSession service session caller idToken email)
    else none
  | .write id newUser => (s.pending.find? id).map fun p => s.write p newUser
  | .failCommit id newUser => (s.pending.find? id).bind fun p => s.failCommit p newUser
  | .fail id refusal =>
    (s.pending.find? id).map fun p =>
      { s with pending := s.pending.erase id }.refuse p.session refusal
  | .abandon id => some { s with pending := s.pending.erase id }
  | .createUser userId email =>
    some (if (s.users.find? userId).isSome || s.emailTaken userId email then s
      else { s with users := s.users.put ⟨userId, email⟩ })
  | .patchEmail userId email =>
    some (if s.emailTaken userId (some email) then s
      else { s with
        users := s.users.update (fun account => decide (account.id = userId))
          (fun account => { account with email := some email }) fun _ => rfl })
  | .removeAuthMethod userId kind =>
    some { s with
      auths := s.auths.filter fun row => !decide (row.userId = userId ∧ row.kind = kind) }
  | .deleteUser userId =>
    some { s with
      users := s.users.erase userId
      auths := s.auths.filter fun row => decide (row.userId ≠ userId) }

section Soundness
variable {service : UserService} {s t : State} {session : Session}

/-- A session that has a URL has the CSRF token and the nonce of one flow, and is linking if and
only if a request to link started it, for the user of that request. -/
def Drawn (flows : List Flow) (session : Session) : Prop :=
  session.authorizationUrl.isSome → ∃ flow ∈ flows, session.csrfToken = some flow.csrfToken ∧
    session.nonce = some flow.nonce ∧ session.linkingUserId = flow.startedBy

def SignedIn (presented : List Effect) (session : Session) : Prop :=
  ∀ userId, session.jwt = some userId → ∃ e ∈ presented, e.linking = none ∧ e.userId = userId

/-- An identity of a callback is linked to the user that started the flow, and to none where a
sign-in did. -/
def Sourced (flows : List Flow) (source : Source) (linking : Option UserId) : Prop :=
  match source with
  | .callback csrfToken nonce =>
    ∃ flow ∈ flows, flow.csrfToken = csrfToken ∧ flow.nonce = nonce ∧ flow.startedBy = linking
  | .accessToken caller => linking = caller

structure Sound (s : State) : Prop where
  issued : ∀ session ∈ s.issued, Drawn s.flows session ∧ SignedIn s.presented session
  pending : ∀ p ∈ s.pending.rows, Sourced s.flows p.source p.linking ∧
    Drawn s.flows p.session ∧ SignedIn s.presented p.session
  presented : ∀ e ∈ s.presented, Sourced s.flows e.source e.linking ∧
    ∀ userId, e.linking = some userId → e.userId = userId
  effects : s.effects ⊆ s.presented
  rows : ∀ row ∈ s.auths.rows, ∃ e ∈ s.effects,
    e.userId = row.userId ∧ e.authUserId = row.authUserId

theorem Drawn.mono {flows flows' : List Flow} (h : Drawn flows session) (hsub : flows ⊆ flows') :
    Drawn flows' session := by
  intro hurl
  obtain ⟨flow, hflow, hof⟩ := h hurl
  exact ⟨flow, hsub hflow, hof⟩

theorem Sourced.mono {flows flows' : List Flow} {source : Source} {linking : Option UserId}
    (h : Sourced flows source linking) (hsub : flows ⊆ flows') : Sourced flows' source linking := by
  cases source with
  | callback csrfToken nonce =>
    obtain ⟨flow, hflow, hof⟩ := h
    exact ⟨flow, hsub hflow, hof⟩
  | accessToken caller => exact h

theorem SignedIn.mono {presented presented' : List Effect} (h : SignedIn presented session)
    (hsub : presented ⊆ presented') : SignedIn presented' session := by
  intro userId hjwt
  obtain ⟨e, he, hof⟩ := h userId hjwt
  exact ⟨e, hsub he, hof⟩

/-- A session without a URL. -/
theorem Drawn.of_none {flows : List Flow} (h : session.authorizationUrl = none) :
    Drawn flows session := by
  intro hurl
  rw [h] at hurl
  cases hurl

theorem Sound.initial : Sound initial where
  issued _ h := (List.not_mem_nil h).elim
  pending _ h := (List.not_mem_nil h).elim
  presented _ h := (List.not_mem_nil h).elim
  effects := List.Subset.refl _
  rows _ h := (List.not_mem_nil h).elim

theorem Sound.holds (h : Sound s) (hholds : s.holds session = true) :
    Drawn s.flows session ∧ SignedIn s.presented session := by
  rcases Bool.or_eq_true_iff.mp hholds with hempty | hmem
  · rw [of_decide_eq_true hempty]
    exact ⟨.of_none rfl, nofun⟩
  · exact h.issued session (List.contains_iff_mem.mp hmem)

theorem Sound.issue (h : Sound s) (hdrawn : Drawn s.flows session)
    (hsigned : SignedIn s.presented session) : Sound (s.issue session) :=
  { h with issued := List.forall_mem_cons.mpr ⟨⟨hdrawn, hsigned⟩, h.issued⟩ }

theorem Sound.refuse (h : Sound s) (hdrawn : Drawn s.flows session)
    (hsigned : SignedIn s.presented session) (refusal : Refusal) :
    Sound (s.refuse session refusal) :=
  { h with issued := List.forall_mem_cons.mpr ⟨⟨hdrawn, hsigned⟩, h.issued⟩ }

/-- A flow that is drawn is noted, and changes nothing else. -/
theorem Sound.draw (h : Sound s) (flow : Flow) : Sound { s with flows := flow :: s.flows } := by
  have hsub : s.flows ⊆ flow :: s.flows := List.subset_cons_self _ _
  constructor
  · intro session hsession
    obtain ⟨hdrawn, hsigned⟩ := h.issued session hsession
    exact ⟨hdrawn.mono hsub, hsigned⟩
  · intro p hp
    obtain ⟨hsourced, hdrawn, hsigned⟩ := h.pending p hp
    exact ⟨hsourced.mono hsub, hdrawn.mono hsub, hsigned⟩
  · intro e he
    obtain ⟨hsourced, hlinked⟩ := h.presented e he
    exact ⟨hsourced.mono hsub, hlinked⟩
  · exact h.effects
  · exact h.rows

/-- The session that is handed over has no URL, so that the branch that keeps one is not taken. -/
theorem Sound.build (h : Sound s) (hnone : session.authorizationUrl = none)
    (hsigned : SignedIn s.presented session) {startedBy : Option UserId}
    (hlinking : session.linkingUserId = startedBy) (draw : Except Refusal AuthUrl) :
    Sound (s.buildOidcAuthorizationResponse session startedBy draw) := by
  unfold State.buildOidcAuthorizationResponse
  split
  · next hsome =>
    rw [hnone] at hsome
    cases hsome
  · exact h.refuse (.of_none hnone) hsigned _
  · next url hurl =>
    refine (h.draw ⟨url.csrfToken, url.nonce, startedBy⟩).issue ?_ hsigned
    intro _
    exact ⟨_, List.mem_cons_self, rfl, rfl, hlinking⟩

theorem Sound.beginWrite (h : Sound s) (hdrawn : Drawn s.flows session)
    (hsigned : SignedIn s.presented session) {source : Source} {linking : Option UserId}
    (hsourced : Sourced s.flows source linking) (kind : UserAuthKind) (idToken : IdToken)
    (email : Option EmailAddress) :
    Sound (s.beginWrite session source linking kind idToken email) :=
  { h with
    pending := by
      intro p hp
      rcases Table.mem_put.mp hp with rfl | ⟨hp, -⟩
      · exact ⟨hsourced, hdrawn, hsigned⟩
      · exact h.pending p hp }

theorem Sound.linkOidcAuthMethod (h : Sound s) (hdrawn : Drawn s.flows session)
    (hsigned : SignedIn s.presented session) {source : Source} {userId : UserId}
    (hsourced : Sourced s.flows source (some userId)) (kind : UserAuthKind) (idToken : IdToken)
    (oidcEmail : EmailAddress) :
    Sound (s.linkOidcAuthMethod service session source userId kind idToken oidcEmail) := by
  unfold State.linkOidcAuthMethod
  split
  · exact h.refuse hdrawn hsigned _
  · split
    · exact h.refuse hdrawn hsigned _
    · split
      · exact h.refuse hdrawn hsigned _
      · exact h.beginWrite hdrawn hsigned hsourced kind idToken none
    · split
      · exact h.refuse hdrawn hsigned _
      · exact h.beginWrite hdrawn hsigned hsourced kind idToken (some oidcEmail)

/-- What an identity is good for is noted. -/
theorem Sound.present (h : Sound s) {e : Effect} (hsourced : Sourced s.flows e.source e.linking)
    (hlinked : ∀ userId, e.linking = some userId → e.userId = userId) :
    Sound { s with presented := e :: s.presented } := by
  have hsub : s.presented ⊆ e :: s.presented := List.subset_cons_self _ _
  constructor
  · intro session hsession
    obtain ⟨hdrawn, hsigned⟩ := h.issued session hsession
    exact ⟨hdrawn, hsigned.mono hsub⟩
  · intro p hp
    obtain ⟨hsource, hdrawn, hsigned⟩ := h.pending p hp
    exact ⟨hsource, hdrawn, hsigned.mono hsub⟩
  · exact List.forall_mem_cons.mpr ⟨⟨hsourced, hlinked⟩, h.presented⟩
  · exact fun _ he => hsub (h.effects he)
  · exact h.rows

/-- It is committed, with the row that it leaves. -/
theorem Sound.commit (h : Sound s) {e : Effect} (hpresented : e ∈ s.presented)
    {a : OpenIdConnectUserAuth} (huser : e.userId = a.userId)
    (hidentity : e.authUserId = a.authUserId) :
    Sound { s with auths := s.auths.put a, effects := e :: s.effects } :=
  { h with
    effects := List.cons_subset.mpr ⟨hpresented, h.effects⟩
    rows := by
      intro r hr
      rcases Table.mem_put.mp hr with rfl | ⟨hr, -⟩
      · exact ⟨e, List.mem_cons_self, huser, hidentity⟩
      · obtain ⟨e', he', hof⟩ := h.rows r hr
        exact ⟨e', List.mem_cons_of_mem _ he', hof⟩ }

theorem signedIn_signIn {presented : List Effect} {userId : UserId} {e : Effect}
    (he : e ∈ presented) (hlinking : e.linking = none) (huser : e.userId = userId)
    (kind : UserAuthKind) : SignedIn presented (session.signIn userId kind) := by
  intro userId' hjwt
  cases hjwt
  exact ⟨e, he, hlinking, huser⟩

theorem Sound.authenticate (h : Sound s) (hdrawn : Drawn s.flows session)
    (hsigned : SignedIn s.presented session) {source : Source}
    (hsourced : Sourced s.flows source none) (kind : UserAuthKind) (idToken : IdToken)
    (email : Except Refusal EmailAddress) (committed : Bool) :
    Sound (s.authenticateAndCreateUserIfNotExists service session source kind idToken email
      committed) := by
  unfold State.authenticateAndCreateUserIfNotExists
  split
  · next row hrow =>
    split
    · exact h.refuse hdrawn hsigned _
    · have hkey : idToken.subject = row.authUserId := (Table.find?_eq_some.mp hrow).2.symm
      have hpresent := h.present (e := ⟨source, none, row.userId, idToken.subject⟩) hsourced nofun
      have hsignedIn : SignedIn (⟨source, none, row.userId, idToken.subject⟩ :: s.presented)
          (session.signIn row.userId kind) := signedIn_signIn List.mem_cons_self rfl rfl kind
      have hdrawnIn : Drawn s.flows (session.signIn row.userId kind) := hdrawn
      dsimp only
      split
      · have hcommit := hpresent.commit List.mem_cons_self
          (a := { row with authIdToken := idToken.text }) rfl hkey
        exact hcommit.issue hdrawnIn hsignedIn
      · exact hpresent.refuse hdrawnIn hsignedIn _
  · split
    · exact h.refuse hdrawn hsigned _
    · split
      · exact h.refuse hdrawn hsigned _
      · exact h.beginWrite hdrawn hsigned hsourced kind idToken _

theorem Sound.authenticatedSession (h : Sound s) (hdrawn : Drawn s.flows session)
    (hsigned : SignedIn s.presented session) (state : String)
    (exchange : String → Except Refusal IdToken) (email : Except Refusal EmailAddress)
    (committed : Bool) :
    Sound (s.authenticatedSession service session state exchange email committed) := by
  unfold State.authenticatedSession
  split
  · exact h.refuse hdrawn hsigned _
  · next hurl =>
    obtain ⟨flow, hflow, hcsrf, hnonce, hlinking⟩ :=
      hdrawn (Option.isSome_iff_ne_none.mpr fun hnone => hurl (Option.isNone_iff_eq_none.mpr hnone))
    dsimp only
    -- no session that is left has a URL
    have hrest : ∀ csrfToken nonce linkingUserId, Drawn s.flows
        { session with csrfToken, nonce, authorizationUrl := none, linkingUserId } :=
      fun _ _ _ => .of_none rfl
    rw [hcsrf, hnonce]
    dsimp only
    split
    · exact h.refuse (hrest _ _ _) hsigned _
    · split
      · exact h.refuse (hrest _ _ _) hsigned _
      · next userId idToken huser hexchange =>
        have hsourced : Sourced s.flows (.callback flow.csrfToken flow.nonce) (some userId) :=
          ⟨flow, hflow, rfl, rfl, hlinking.symm.trans huser⟩
        split
        · exact h.refuse (hrest _ _ _) hsigned _
        · exact h.linkOidcAuthMethod (hrest _ _ _) hsigned hsourced _ _ _
      · next idToken huser hexchange =>
        have hsourced : Sourced s.flows (.callback flow.csrfToken flow.nonce) none :=
          ⟨flow, hflow, rfl, rfl, hlinking.symm.trans huser⟩
        exact h.authenticate (hrest _ _ _) hsigned hsourced _ _ _ _

/-- What the transaction of a request leaves, where it succeeds. -/
def Writes (s t : State) (p : Pending) (userId : UserId) : Prop :=
  t.issued = s.issued ∧ t.pending = s.pending ∧ t.flows = s.flows ∧ t.presented = s.presented ∧
    t.effects = s.effects ∧ t.auths = s.auths.put ⟨p.authUserId, userId, p.kind, p.authIdToken⟩ ∧
    s.auths.find? p.authUserId = none

theorem writes_createUserAuth {p : Pending} {userId : UserId} {users : Table Account.id}
    (h : { s with users }.createUserAuth p userId = .ok t) : Writes s t p userId := by
  unfold State.createUserAuth at h
  split at h
  · cases h
  · next hfree =>
    cases h
    have hnone : s.auths.find? p.authUserId = none := by
      by_contra hsome
      exact hfree (by simp [Option.isSome_iff_ne_none.mpr hsome])
    exact ⟨rfl, rfl, rfl, rfl, rfl, rfl, hnone⟩

theorem writes_writeLink {p : Pending} {userId : UserId} (h : s.writeLink p userId = .ok t) :
    Writes s t p userId := by
  unfold State.writeLink at h
  split at h
  · cases h
  · exact writes_createUserAuth h

theorem writes_writeUser {p : Pending} {newUser : UserId} (h : s.writeUser p newUser = .ok t) :
    Writes s t p newUser := by
  unfold State.writeUser at h
  split at h
  · cases h
  · exact writes_createUserAuth h

theorem writes_written {p : Pending} {newUser : UserId} (h : s.written p newUser = .ok t) :
    Writes s t p (p.linking.getD newUser) := by
  unfold State.written at h
  cases hlinking : p.linking with
  | none =>
    rw [hlinking] at h
    exact writes_writeUser h
  | some userId =>
    rw [hlinking] at h
    exact writes_writeLink h

theorem Sound.less (h : Sound s) {pending : Table Pending.id}
    (hpending : pending.rows ⊆ s.pending.rows) (users : Table Account.id)
    {auths : Table OpenIdConnectUserAuth.authUserId} (hauths : auths.rows ⊆ s.auths.rows) :
    Sound { s with pending, users, auths } :=
  { h with
    pending := fun p hp => h.pending p (hpending hp)
    rows := fun row hrow => h.rows row (hauths hrow) }

theorem Sound.drop (h : Sound s) (id : Nat) : Sound { s with pending := s.pending.erase id } :=
  h.less (fun _ hp => (Table.mem_erase.mp hp).1) s.users (List.Subset.refl _)

/-- A request that comes to its `COMMIT` has an identity of its own flow, and its cookie. -/
theorem Sound.presentOf (h : Sound s) {p : Pending} (hp : p ∈ s.pending.rows) (newUser : UserId) :
    Sound { s with
      pending := s.pending.erase p.id
      presented := State.effectOf p newUser :: s.presented } ∧
      Drawn s.flows (State.sessionOf p newUser) ∧
      SignedIn (State.effectOf p newUser :: s.presented) (State.sessionOf p newUser) := by
  obtain ⟨hsourced, hdrawn, hsigned⟩ := h.pending p hp
  refine ⟨(h.drop p.id).present (e := State.effectOf p newUser) hsourced ?_, ?_, ?_⟩
  · intro userId hlinking
    unfold State.effectOf at hlinking ⊢
    dsimp only at hlinking ⊢
    rw [hlinking]
    rfl
  · unfold State.sessionOf
    split
    · exact hdrawn
    · exact hdrawn
  · unfold State.sessionOf
    split
    · exact hsigned.mono (List.subset_cons_self _ _)
    · next hnone =>
      have hlinking : p.linking = none := Option.not_isSome_iff_eq_none.mp hnone
      refine signedIn_signIn List.mem_cons_self hlinking ?_ p.kind
      unfold State.effectOf
      dsimp only
      rw [hlinking]
      rfl

theorem Sound.write (h : Sound s) {p : Pending} (hp : p ∈ s.pending.rows) (newUser : UserId) :
    Sound (s.write p newUser) := by
  obtain ⟨hsourced, hdrawn, hsigned⟩ := h.pending p hp
  unfold State.write
  dsimp only
  split
  · exact (h.drop p.id).refuse hdrawn hsigned _
  · next t ht =>
    obtain ⟨hissued, hpending, hflows, hpresented, heffects, hauths, -⟩ := writes_written ht
    obtain ⟨hpresent, hdrawnOf, hsignedOf⟩ := h.presentOf hp newUser
    have hcommit := hpresent.commit List.mem_cons_self
      (a := ⟨p.authUserId, p.linking.getD newUser, p.kind, p.authIdToken⟩) rfl rfl
    have hsound : Sound { t with
        presented := State.effectOf p newUser :: t.presented
        effects := State.effectOf p newUser :: t.effects } := by
      constructor
      · rw [hissued, hflows, hpresented]
        exact hcommit.issued
      · rw [hpending, hflows, hpresented]
        exact hcommit.pending
      · rw [hflows, hpresented]
        exact hcommit.presented
      · rw [heffects, hpresented]
        exact hcommit.effects
      · rw [hauths, heffects]
        exact hcommit.rows
    refine hsound.issue ?_ ?_
    · rw [hflows]
      exact hdrawnOf
    · rw [hpresented]
      exact hsignedOf

theorem Sound.failCommit (h : Sound s) {p : Pending} (hp : p ∈ s.pending.rows) {newUser : UserId}
    (ht : s.failCommit p newUser = some t) : Sound t := by
  obtain ⟨hpresent, hdrawn, hsigned⟩ := h.presentOf hp newUser
  unfold State.failCommit at ht
  dsimp only at ht
  split at ht
  · cases ht
  · cases ht
    exact hpresent.refuse hdrawn hsigned _

theorem Sound.step (h : Sound s) {input : Input} (ht : step service s input = some t) :
    Sound t := by
  cases input with
  | authorizeSession session draw =>
    obtain ⟨hholds, hsome⟩ := Option.ite_none_right_eq_some.mp ht
    have hsigned : SignedIn s.presented
        { session with linkingUserId := none, authorizationUrl := none } := (h.holds hholds).2
    exact Option.some.inj hsome ▸ h.build rfl hsigned rfl draw
  | authorizeLinkOidc session caller draw =>
    obtain ⟨hholds, hsome⟩ := Option.ite_none_right_eq_some.mp ht
    have hsigned : SignedIn s.presented
        { session with linkingUserId := some caller, authorizationUrl := none } := (h.holds hholds).2
    exact Option.some.inj hsome ▸ h.build rfl hsigned rfl draw
  | authenticatedSession session state exchange email committed =>
    obtain ⟨hholds, hsome⟩ := Option.ite_none_right_eq_some.mp ht
    obtain ⟨hdrawn, hsigned⟩ := h.holds hholds
    exact Option.some.inj hsome ▸
      h.authenticatedSession hdrawn hsigned state exchange email committed
  | authenticateSession session idToken email committed =>
    obtain ⟨hholds, hsome⟩ := Option.ite_none_right_eq_some.mp ht
    obtain ⟨hdrawn, hsigned⟩ := h.holds hholds
    cases hsome
    unfold State.authenticateSession
    split
    · exact h.refuse hdrawn hsigned _
    · have hsourced : Sourced s.flows (.accessToken none) none := rfl
      exact h.authenticate hdrawn hsigned hsourced _ _ _ _
  | linkOidcPkceSession session caller idToken email =>
    obtain ⟨hholds, hsome⟩ := Option.ite_none_right_eq_some.mp ht
    obtain ⟨hdrawn, hsigned⟩ := h.holds hholds
    cases hsome
    unfold State.linkOidcPkceSession
    split
    · exact h.refuse hdrawn hsigned _
    · exact h.refuse hdrawn hsigned _
    · have hsourced : Sourced s.flows (.accessToken (some caller)) (some caller) := rfl
      exact h.linkOidcAuthMethod hdrawn hsigned hsourced _ _ _
  | write id newUser =>
    obtain ⟨p, hp, rfl⟩ := Option.map_eq_some_iff.mp ht
    exact h.write (Table.find?_eq_some.mp hp).1 newUser
  | failCommit id newUser =>
    obtain ⟨p, hp, hfail⟩ := Option.bind_eq_some_iff.mp ht
    exact h.failCommit (Table.find?_eq_some.mp hp).1 hfail
  | fail id refusal =>
    obtain ⟨p, hp, rfl⟩ := Option.map_eq_some_iff.mp ht
    obtain ⟨-, hdrawn, hsigned⟩ := h.pending p (Table.find?_eq_some.mp hp).1
    exact (h.drop id).refuse hdrawn hsigned _
  | abandon id =>
    cases ht
    exact h.drop id
  | createUser userId email =>
    cases ht
    split
    · exact h
    · exact h.less (List.Subset.refl _) _ (List.Subset.refl _)
  | patchEmail userId email =>
    cases ht
    split
    · exact h
    · exact h.less (List.Subset.refl _) _ (List.Subset.refl _)
  | removeAuthMethod userId kind =>
    cases ht
    exact h.less (List.Subset.refl _) s.users List.filter_sublist.subset
  | deleteUser userId =>
    cases ht
    exact h.less (List.Subset.refl _) _ List.filter_sublist.subset

theorem sound_of_exec {inputs : List Input} (h : exec (step service) initial inputs = some s) :
    Sound s :=
  invariant_of_exec (fun _ _ _ hs ht => hs.step ht) Sound.initial h

/-- Whichever of the cookies that were set a client presents, in whichever order, and whatever fails:
a callback links its identity to a user exactly where a request of that user to link drew its CSRF
token and its nonce, and signs nobody in then; no other cookie signs a user in than that of a request
with an identity; and an identity is some user's for such a request only, one that was committed. -/
theorem identities_presented {inputs : List Input}
    (h : exec (step service) initial inputs = some s) :
    (∀ e ∈ s.presented, Sourced s.flows e.source e.linking ∧
      ∀ userId, e.linking = some userId → e.userId = userId) ∧
    s.effects ⊆ s.presented ∧
    (∀ session ∈ s.issued, SignedIn s.presented session) ∧
    (∀ row ∈ s.auths.rows, ∃ e ∈ s.effects,
      e.userId = row.userId ∧ e.authUserId = row.authUserId) := by
  have hsound := sound_of_exec h
  exact ⟨hsound.presented, hsound.effects,
    fun session hsession => (hsound.issued session hsession).2, hsound.rows⟩

/-- Nobody is rejected. -/
def sampleService : UserService := ⟨fun _ => none⟩

/-- The code of a callback stands for an identity. -/
def sampleExchange (subject : String) (nonce : String) : Except Refusal IdToken :=
  .ok ⟨subject, nonce⟩

/-- A user who has an address links, signs in with what is linked, and once more, where the `COMMIT`
fails. -/
def sampleInputs : List Input :=
  [.createUser ⟨1⟩ (some "jane@example.com"),
    .authorizeLinkOidc {} ⟨1⟩ (.ok ⟨"url1", "csrf1", "nonce1"⟩),
    .authenticatedSession
      { csrfToken := some "csrf1", nonce := some "nonce1", authorizationUrl := some "url1",
        linkingUserId := some ⟨1⟩ } "csrf1" (sampleExchange "jane") (.ok "jane@example.com") true,
    .write 0 ⟨2⟩,
    .authorizeSession {} (.ok ⟨"url2", "csrf2", "nonce2"⟩),
    .authenticatedSession
      { csrfToken := some "csrf2", nonce := some "nonce2", authorizationUrl := some "url2" }
      "csrf2" (sampleExchange "jane") (.ok "jane@example.com") true,
    .authenticateSession {} (.ok ⟨"jane", "token"⟩) (.ok "jane@example.com") false]

theorem identities_presented_sample :
    ∃ s, exec (step sampleService) initial sampleInputs = some s ∧
      s.presented = [⟨.accessToken none, none, ⟨1⟩, "jane"⟩,
        ⟨.callback "csrf2" "nonce2", none, ⟨1⟩, "jane"⟩,
        ⟨.callback "csrf1" "nonce1", some ⟨1⟩, ⟨1⟩, "jane"⟩] ∧
      ∀ e ∈ s.presented, Sourced s.flows e.source e.linking ∧
        ∀ userId, e.linking = some userId → e.userId = userId := by
  have hrun : (exec (step sampleService) initial sampleInputs).map State.presented =
      some [⟨.accessToken none, none, ⟨1⟩, "jane"⟩,
        ⟨.callback "csrf2" "nonce2", none, ⟨1⟩, "jane"⟩,
        ⟨.callback "csrf1" "nonce1", some ⟨1⟩, ⟨1⟩, "jane"⟩] := by decide
  obtain ⟨s, hs, hpresented⟩ := Option.map_eq_some_iff.mp hrun
  exact ⟨s, hs, hpresented, (identities_presented hs).1⟩

/-- The identity, and the kind for the user, are free. -/
def Free (s : State) (p : Pending) (userId : UserId) : Prop :=
  s.auths.find? p.authUserId = none ∧ ∀ row ∈ s.auths.rows, ¬(row.userId = userId ∧ row.kind = p.kind)

/-- `UPDATE "user" SET email`, where there is one to set. -/
def setEmail (users : Table Account.id) (userId : UserId) (email : Option EmailAddress) :
    Table Account.id :=
  users.update (fun account => decide (account.id = userId))
    (fun account => { account with email := email.or account.email }) fun _ => rfl

/-- All that a step can do to the accounts and the identities. -/
inductive Change (s : State) : Input → State → Prop where
  | same {input t} (husers : t.users = s.users) (hauths : t.auths = s.auths)
      (heffects : t.effects = s.effects) : Change s input t
  | refreshed {input t} (source : Source) (row : OpenIdConnectUserAuth) (authIdToken : String)
      (hrow : row ∈ s.auths.rows) (husers : t.users = s.users)
      (hauths : t.auths = s.auths.put { row with authIdToken })
      (heffects : t.effects = ⟨source, none, row.userId, row.authUserId⟩ :: s.effects) :
      Change s input t
  | linked {id newUser t} (p : Pending) (userId : UserId) (hp : s.pending.find? id = some p)
      (hlinking : p.linking = some userId) (hemail : s.emailTaken userId p.email = false)
      (huser : (s.users.find? userId).isSome) (hfree : Free s p userId)
      (husers : t.users = setEmail s.users userId p.email)
      (hauths : t.auths = s.auths.put ⟨p.authUserId, userId, p.kind, p.authIdToken⟩)
      (heffects : t.effects = ⟨p.source, p.linking, userId, p.authUserId⟩ :: s.effects) :
      Change s (.write id newUser) t
  | created {id newUser t} (p : Pending) (hp : s.pending.find? id = some p)
      (hlinking : p.linking = none) (hemail : s.emailTaken newUser p.email = false)
      (huser : s.users.find? newUser = none) (hfree : Free s p newUser)
      (husers : t.users = s.users.put ⟨newUser, p.email⟩)
      (hauths : t.auths = s.auths.put ⟨p.authUserId, newUser, p.kind, p.authIdToken⟩)
      (heffects : t.effects = ⟨p.source, p.linking, newUser, p.authUserId⟩ :: s.effects) :
      Change s (.write id newUser) t
  | registered {userId email t} (huser : s.users.find? userId = none)
      (hemail : s.emailTaken userId email = false) (husers : t.users = s.users.put ⟨userId, email⟩)
      (hauths : t.auths = s.auths) (heffects : t.effects = s.effects) :
      Change s (.createUser userId email) t
  | patched {userId email t} (hemail : s.emailTaken userId (some email) = false)
      (husers : t.users = setEmail s.users userId (some email)) (hauths : t.auths = s.auths)
      (heffects : t.effects = s.effects) : Change s (.patchEmail userId email) t
  | removed {userId kind t} (husers : t.users = s.users)
      (hauths : t.auths =
        s.auths.filter fun row => !decide (row.userId = userId ∧ row.kind = kind))
      (heffects : t.effects = s.effects) : Change s (.removeAuthMethod userId kind) t
  | deleted {userId t} (husers : t.users = s.users.erase userId)
      (hauths : t.auths = s.auths.filter fun row => decide (row.userId ≠ userId))
      (heffects : t.effects = s.effects) : Change s (.deleteUser userId) t

theorem Change.refl {input : Input} : Change s input s := .same rfl rfl rfl

theorem change_link {source : Source} {userId : UserId} {kind : UserAuthKind} {idToken : IdToken}
    {oidcEmail : EmailAddress} {input : Input} :
    Change s input (s.linkOidcAuthMethod service session source userId kind idToken oidcEmail) := by
  unfold State.linkOidcAuthMethod
  split
  · exact .same rfl rfl rfl
  · split
    · exact .same rfl rfl rfl
    · split <;> exact .same rfl rfl rfl
    · split <;> exact .same rfl rfl rfl

theorem change_authenticate {source : Source} {kind : UserAuthKind} {idToken : IdToken}
    {email : Except Refusal EmailAddress} {committed : Bool} {input : Input} :
    Change s input
      (s.authenticateAndCreateUserIfNotExists service session source kind idToken email
        committed) := by
  unfold State.authenticateAndCreateUserIfNotExists
  split
  · next row hrow =>
    obtain ⟨hmem, hkey⟩ := Table.find?_eq_some.mp hrow
    split
    · exact .same rfl rfl rfl
    · dsimp only
      split
      · exact .refreshed source row idToken.text hmem rfl rfl (by rw [hkey]; rfl)
      · exact .same rfl rfl rfl
  · split
    · exact .same rfl rfl rfl
    · split <;> exact .same rfl rfl rfl

theorem change_build {startedBy : Option UserId} {draw : Except Refusal AuthUrl} {input : Input} :
    Change s input (s.buildOidcAuthorizationResponse session startedBy draw) := by
  unfold State.buildOidcAuthorizationResponse
  split <;> exact .same rfl rfl rfl

theorem free_of_createUserAuth {p : Pending} {userId : UserId} {users : Table Account.id}
    (h : { s with users }.createUserAuth p userId = .ok t) :
    (users.find? userId).isSome ∧ Free s p userId ∧ t.users = users := by
  unfold State.createUserAuth at h
  split at h
  · cases h
  · next hnot =>
    cases h
    simp only [Bool.or_eq_true, not_or, Option.isNone_iff_eq_none, Bool.not_eq_true,
      Option.isSome_eq_false_iff, List.any_eq_false, decide_eq_true_eq] at hnot
    obtain ⟨⟨⟨huser, hidentity⟩, -⟩, hkind⟩ := hnot
    exact ⟨Option.isSome_iff_ne_none.mpr huser, ⟨hidentity, hkind⟩, rfl⟩

theorem effectOf_eq {p : Pending} {newUser userId : UserId} (h : p.linking.getD newUser = userId) :
    State.effectOf p newUser = ⟨p.source, p.linking, userId, p.authUserId⟩ := by
  subst h
  rfl

theorem change_write {id : Nat} {p : Pending} (hp : s.pending.find? id = some p)
    (newUser : UserId) : Change s (.write id newUser) (s.write p newUser) := by
  unfold State.write
  dsimp only
  split
  · exact .same rfl rfl rfl
  · next t ht =>
    obtain ⟨-, -, -, -, heffects, hauths, -⟩ := writes_written ht
    unfold State.written at ht
    cases hlinking : p.linking with
    | none =>
      rw [hlinking] at ht hauths
      simp only [Option.elim_none] at ht
      unfold State.writeUser at ht
      split at ht
      · cases ht
      · next hnew =>
        simp only [Bool.or_eq_true, not_or, Bool.not_eq_true, Option.isSome_eq_false_iff,
          Option.isNone_iff_eq_none] at hnew
        obtain ⟨-, hfree, husers⟩ := free_of_createUserAuth ht
        refine .created p hp hlinking hnew.2 hnew.1 hfree husers hauths ?_
        rw [← effectOf_eq (by rw [hlinking]; rfl)]
        exact congrArg _ heffects
    | some userId =>
      rw [hlinking] at ht hauths
      simp only [Option.elim_some] at ht
      unfold State.writeLink at ht
      split at ht
      · cases ht
      · next hemail =>
        obtain ⟨huser, hfree, husers⟩ := free_of_createUserAuth ht
        rw [Table.find?_isSome_update] at huser
        refine .linked p userId hp hlinking (Bool.not_eq_true _ ▸ hemail) huser hfree husers hauths ?_
        rw [← effectOf_eq (by rw [hlinking]; rfl)]
        exact congrArg _ heffects

theorem step_change {input : Input} (ht : step service s input = some t) : Change s input t := by
  cases input with
  | authorizeSession session draw | authorizeLinkOidc session caller draw =>
    obtain ⟨-, hsome⟩ := Option.ite_none_right_eq_some.mp ht
    exact Option.some.inj hsome ▸ change_build
  | authenticatedSession session state exchange email committed =>
    obtain ⟨-, hsome⟩ := Option.ite_none_right_eq_some.mp ht
    cases hsome
    unfold State.authenticatedSession
    dsimp only
    split
    · exact .same rfl rfl rfl
    · split
      · exact .same rfl rfl rfl
      · split
        · exact .same rfl rfl rfl
        · split
          · exact .same rfl rfl rfl
          · split
            · exact .same rfl rfl rfl
            · split
              · exact .same rfl rfl rfl
              · exact change_link
            · exact change_authenticate
  | authenticateSession session idToken email committed =>
    obtain ⟨-, hsome⟩ := Option.ite_none_right_eq_some.mp ht
    cases hsome
    unfold State.authenticateSession
    split
    · exact .same rfl rfl rfl
    · exact change_authenticate
  | linkOidcPkceSession session caller idToken email =>
    obtain ⟨-, hsome⟩ := Option.ite_none_right_eq_some.mp ht
    cases hsome
    unfold State.linkOidcPkceSession
    split
    · exact .same rfl rfl rfl
    · exact .same rfl rfl rfl
    · exact change_link
  | write id newUser =>
    obtain ⟨p, hp, rfl⟩ := Option.map_eq_some_iff.mp ht
    exact change_write hp newUser
  | failCommit id newUser =>
    obtain ⟨p, -, hfail⟩ := Option.bind_eq_some_iff.mp ht
    unfold State.failCommit at hfail
    dsimp only at hfail
    split at hfail
    · cases hfail
    · cases hfail
      exact .same rfl rfl rfl
  | fail id refusal =>
    obtain ⟨p, -, rfl⟩ := Option.map_eq_some_iff.mp ht
    exact .same rfl rfl rfl
  | abandon id =>
    cases ht
    exact .same rfl rfl rfl
  | createUser userId email =>
    cases ht
    split
    · exact .refl
    · next hfree =>
      simp only [Bool.or_eq_true, not_or, Bool.not_eq_true, Option.isSome_eq_false_iff,
        Option.isNone_iff_eq_none] at hfree
      exact .registered hfree.1 hfree.2 rfl rfl rfl
  | patchEmail userId email =>
    cases ht
    split
    · exact .refl
    · next hfree => exact .patched (Bool.not_eq_true _ ▸ hfree) rfl rfl rfl
  | removeAuthMethod userId kind =>
    cases ht
    exact .removed rfl rfl rfl
  | deleteUser userId =>
    cases ht
    exact .deleted rfl rfl rfl

/-- Every identity has its user, no user two of one kind, and no two users have one address. -/
structure Consistent (s : State) : Prop where
  owner : ∀ row ∈ s.auths.rows, (s.users.find? row.userId).isSome
  kind : ∀ row ∈ s.auths.rows, ∀ row' ∈ s.auths.rows,
    row.userId = row'.userId → row.kind = row'.kind → row = row'
  email : ∀ a ∈ s.users.rows, ∀ b ∈ s.users.rows, a.email.isSome → a.email = b.email → a = b

theorem Consistent.initial : Consistent initial where
  owner _ h := (List.not_mem_nil h).elim
  kind _ h := (List.not_mem_nil h).elim
  email _ h := (List.not_mem_nil h).elim

theorem find?_setEmail {users : Table Account.id} {userId u : UserId} {email : Option EmailAddress} :
    ((setEmail users userId email).find? u).isSome = (users.find? u).isSome :=
  Table.find?_isSome_update

/-- An address that no other user has can be set. -/
theorem Consistent.email_setEmail (h : Consistent s) {userId : UserId}
    {email : Option EmailAddress} (hfree : s.emailTaken userId email = false) :
    ∀ a ∈ (setEmail s.users userId email).rows, ∀ b ∈ (setEmail s.users userId email).rows,
      a.email.isSome → a.email = b.email → a = b := by
  -- another user's address is not the one that is set
  have hother : ∀ b ∈ s.users.rows, b.id ≠ userId → ∀ e, email = some e → b.email ≠ some e := by
    intro b hb hid e he hsame
    rw [State.emailTaken, he, Option.any_some, List.any_eq_false] at hfree
    exact hfree b hb (decide_eq_true ⟨hsame, hid⟩)
  intro a ha b hb hsome hsame
  obtain ⟨a', ha', rfl⟩ := Table.mem_update.mp ha
  obtain ⟨b', hb', rfl⟩ := Table.mem_update.mp hb
  simp only [decide_eq_true_eq] at hsome hsame ⊢
  by_cases hau : a'.id = userId <;> by_cases hbu : b'.id = userId
  · have hid : a' = b' := Table.eq_of_key ha' hb' (hau.trans hbu.symm)
    rw [hid]
  · rw [if_pos hau, if_neg hbu] at hsame ⊢
    rw [if_pos hau] at hsome
    cases hemail : email with
    | some e =>
      rw [hemail] at hsame
      exact absurd hsame.symm (hother b' hb' hbu e hemail)
    | none =>
      rw [hemail, Option.none_or] at hsame hsome
      exact absurd (h.email a' ha' b' hb' hsome hsame ▸ hau) hbu
  · rw [if_neg hau, if_pos hbu] at hsame ⊢
    rw [if_neg hau] at hsome
    cases hemail : email with
    | some e =>
      rw [hemail] at hsame
      exact absurd hsame (hother a' ha' hau e hemail)
    | none =>
      rw [hemail, Option.none_or] at hsame
      exact absurd ((h.email a' ha' b' hb' hsome hsame).symm ▸ hbu) hau
  · rw [if_neg hau, if_neg hbu] at hsame ⊢
    rw [if_neg hau] at hsome
    exact h.email a' ha' b' hb' hsome hsame

theorem Consistent.email_put (h : Consistent s) {userId : UserId} {email : Option EmailAddress}
    (hfree : s.emailTaken userId email = false) :
    ∀ a ∈ (s.users.put ⟨userId, email⟩).rows, ∀ b ∈ (s.users.put ⟨userId, email⟩).rows,
      a.email.isSome → a.email = b.email → a = b := by
  have hother : ∀ b ∈ s.users.rows, b.id ≠ userId → email.isSome → b.email ≠ email := by
    intro b hb hid hsome hsame
    obtain ⟨e, he⟩ := Option.isSome_iff_exists.mp hsome
    rw [State.emailTaken, he, Option.any_some, List.any_eq_false] at hfree
    exact hfree b hb (decide_eq_true ⟨hsame.trans he, hid⟩)
  intro a ha b hb hsome hsame
  rcases Table.mem_put.mp ha with rfl | ⟨ha, hau⟩ <;> rcases Table.mem_put.mp hb with rfl | ⟨hb, hbu⟩
  · rfl
  · exact absurd hsame.symm (hother b hb hbu hsome)
  · exact absurd hsame (hother a ha hau ((congrArg Option.isSome hsame).symm.trans hsome))
  · exact h.email a ha b hb hsome hsame

/-- A row of a kind that its user has none of. -/
theorem Consistent.kind_put (h : Consistent s) {p : Pending} {userId : UserId}
    (hfree : Free s p userId) {row : OpenIdConnectUserAuth} (huser : row.userId = userId)
    (hkind : row.kind = p.kind) :
    ∀ r ∈ (s.auths.put row).rows, ∀ r' ∈ (s.auths.put row).rows,
      r.userId = r'.userId → r.kind = r'.kind → r = r' := by
  intro r hr r' hr' hsame hsameKind
  rcases Table.mem_put.mp hr with hnew | ⟨hold, -⟩ <;>
    rcases Table.mem_put.mp hr' with hnew' | ⟨hold', -⟩
  · rw [hnew, hnew']
  · subst hnew
    exact absurd ⟨hsame.symm.trans huser, hsameKind.symm.trans hkind⟩ (hfree.2 r' hold')
  · subst hnew'
    exact absurd ⟨hsame.trans huser, hsameKind.trans hkind⟩ (hfree.2 r hold)
  · exact h.kind r hold r' hold' hsame hsameKind

theorem Consistent.of_change (h : Consistent s) {input : Input} (hc : Change s input t) :
    Consistent t := by
  cases hc with
  | same husers hauths =>
    constructor
    · rw [husers, hauths]
      exact h.owner
    · rw [hauths]
      exact h.kind
    · rw [husers]
      exact h.email
  | refreshed source row authIdToken hrow husers hauths =>
    -- the row keeps its user and its kind
    have hback : ∀ r ∈ (s.auths.put { row with authIdToken }).rows, ∃ old ∈ s.auths.rows,
        old.userId = r.userId ∧ old.kind = r.kind ∧ old.authUserId = r.authUserId := by
      intro r hr
      rcases Table.mem_put.mp hr with rfl | ⟨hr, -⟩
      · exact ⟨row, hrow, rfl, rfl, rfl⟩
      · exact ⟨r, hr, rfl, rfl, rfl⟩
    constructor
    · rw [husers, hauths]
      intro r hr
      obtain ⟨old, hold, huser, -⟩ := hback r hr
      exact huser ▸ h.owner old hold
    · rw [hauths]
      intro r hr r' hr' hsame hsameKind
      obtain ⟨old, hold, huser, hkind, hkey⟩ := hback r hr
      obtain ⟨old', hold', huser', hkind', hkey'⟩ := hback r' hr'
      have hrow := h.kind old hold old' hold' ((huser.trans hsame).trans huser'.symm)
        ((hkind.trans hsameKind).trans hkind'.symm)
      exact Table.eq_of_key hr hr' (hkey.symm.trans (hrow ▸ hkey'))
    · rw [husers]
      exact h.email
  | linked p userId hp hlinking hemail huser hfree husers hauths =>
    constructor
    · rw [husers, hauths]
      intro r hr
      rw [find?_setEmail]
      rcases Table.mem_put.mp hr with rfl | ⟨hr, -⟩
      · exact huser
      · exact h.owner r hr
    · rw [hauths]
      exact h.kind_put hfree rfl rfl
    · rw [husers]
      exact h.email_setEmail hemail
  | created p hp hlinking hemail huser hfree husers hauths =>
    constructor
    · rw [husers, hauths]
      intro r hr
      rw [Table.find?_put]
      split
      · rfl
      · next hother =>
        rcases Table.mem_put.mp hr with rfl | ⟨hr, -⟩
        · exact absurd rfl hother
        · exact h.owner r hr
    · rw [hauths]
      exact h.kind_put hfree rfl rfl
    · rw [husers]
      exact h.email_put hemail
  | registered huser hemail husers hauths =>
    constructor
    · rw [husers, hauths]
      intro r hr
      rw [Table.find?_put]
      split
      · rfl
      · exact h.owner r hr
    · rw [hauths]
      exact h.kind
    · rw [husers]
      exact h.email_put hemail
  | patched hemail husers hauths =>
    constructor
    · rw [husers, hauths]
      intro r hr
      rw [find?_setEmail]
      exact h.owner r hr
    · rw [hauths]
      exact h.kind
    · rw [husers]
      exact h.email_setEmail hemail
  | removed husers hauths =>
    constructor
    · rw [husers, hauths]
      exact fun r hr => h.owner r (List.mem_filter.mp hr).1
    · rw [hauths]
      exact fun r hr r' hr' => h.kind r (List.mem_filter.mp hr).1 r' (List.mem_filter.mp hr').1
    · rw [husers]
      exact h.email
  | deleted husers hauths =>
    constructor
    · rw [husers, hauths]
      intro r hr
      obtain ⟨hmem, hother⟩ := List.mem_filter.mp hr
      rw [Table.find?_erase, if_neg (of_decide_eq_true hother)]
      exact h.owner r hmem
    · rw [hauths]
      exact fun r hr r' hr' => h.kind r (List.mem_filter.mp hr).1 r' (List.mem_filter.mp hr').1
    · rw [husers]
      intro a ha b hb
      exact h.email a (Table.mem_erase.mp ha).1 b (Table.mem_erase.mp hb).1

/-- What no step does but the one that is named: an identity stays with its user, the effect of an
identity is on the user that has it, who is new where nobody had it and nobody links it, and an
address that is set is replaced by its user, or by a link that found none. -/
structure Guarded (s : State) (input : Input) (t : State) : Prop where
  identity : ∀ authUserId old, s.auths.find? authUserId = some old →
    (∃ row, t.auths.find? authUserId = some row ∧ row.userId = old.userId ∧ row.kind = old.kind) ∨
      input = .removeAuthMethod old.userId old.kind ∨ input = .deleteUser old.userId
  effect : t.effects = s.effects ∨ ∃ e row, t.effects = e :: s.effects ∧
    t.auths.find? e.authUserId = some row ∧ row.userId = e.userId ∧
    (s.auths.find? e.authUserId = none → e.linking = none → s.users.find? e.userId = none)
  email : ∀ userId old email, s.users.find? userId = some old → old.email = some email →
    (∃ account, t.users.find? userId = some account ∧ account.email = some email) ∨
      input = .deleteUser userId ∨ (∃ other, input = .patchEmail userId other) ∨
      ∃ id newUser p, input = .write id newUser ∧ s.pending.find? id = some p ∧
        p.linking = some userId ∧ p.email.isSome

/-- A row put under an identity of its own leaves those that are there with their users. -/
theorem identity_put {row old : OpenIdConnectUserAuth} {authUserId : String}
    (hold : s.auths.find? authUserId = some old)
    (hkeep : row.authUserId = authUserId → row.userId = old.userId ∧ row.kind = old.kind) :
    ∃ r, (s.auths.put row).find? authUserId = some r ∧ r.userId = old.userId ∧
      r.kind = old.kind := by
  rw [Table.find?_put]
  split
  · next hkey => exact ⟨row, rfl, hkeep hkey.symm⟩
  · exact ⟨old, hold, rfl, rfl⟩

theorem email_setEmail {users : Table Account.id} {userId u : UserId} {old : Account}
    {email : Option EmailAddress} {e : EmailAddress} (hold : users.find? u = some old)
    (he : old.email = some e) (hkeep : u = userId → email = none) :
    ∃ account, (setEmail users userId email).find? u = some account ∧ account.email = some e := by
  have hid : old.id = u := (Table.find?_eq_some.mp hold).2
  unfold setEmail
  rw [Table.find?_update, hold, Option.map_some]
  refine ⟨_, rfl, ?_⟩
  split
  · next huser =>
    rw [hkeep (hid.symm.trans (of_decide_eq_true huser)), Option.none_or]
    exact he
  · exact he

theorem Guarded.of_change {input : Input} (hc : Change s input t) : Guarded s input t := by
  have hkeptAuths : t.auths = s.auths → ∀ authUserId old, s.auths.find? authUserId = some old →
      ∃ row, t.auths.find? authUserId = some row ∧ row.userId = old.userId ∧
        row.kind = old.kind := by
    intro hauths authUserId old hold
    exact ⟨old, by rw [hauths]; exact hold, rfl, rfl⟩
  have hkeptUsers : t.users = s.users → ∀ userId old email, s.users.find? userId = some old →
      old.email = some email →
      ∃ account, t.users.find? userId = some account ∧ account.email = some email := by
    intro husers userId old email hold hemail
    exact ⟨old, by rw [husers]; exact hold, hemail⟩
  cases hc with
  | same husers hauths heffects =>
    exact ⟨fun a old hold => .inl (hkeptAuths hauths a old hold), .inl heffects,
      fun u old email hold hemail => .inl (hkeptUsers husers u old email hold hemail)⟩
  | refreshed source row authIdToken hrow husers hauths heffects =>
    refine ⟨?_, ?_, fun u old email hold hemail => .inl (hkeptUsers husers u old email hold hemail)⟩
    · intro authUserId old hold
      rw [hauths]
      refine .inl (identity_put hold ?_)
      intro hkey
      have hsame : row = old :=
        Table.eq_of_key hrow (Table.find?_eq_some.mp hold).1
          (hkey.trans (Table.find?_eq_some.mp hold).2.symm)
      subst hsame
      exact ⟨rfl, rfl⟩
    · refine .inr ⟨_, { row with authIdToken }, heffects, ?_, rfl, ?_⟩
      · rw [hauths]
        exact Table.find?_put.trans (if_pos rfl)
      · intro hnone
        rw [Table.find?_eq_some.mpr ⟨hrow, rfl⟩] at hnone
        cases hnone
  | linked p userId hp hlinking hfreeEmail huser hfree husers hauths heffects =>
    refine ⟨?_, ?_, ?_⟩
    · intro authUserId old hold
      rw [hauths]
      refine .inl (identity_put hold ?_)
      rintro rfl
      rw [hfree.1] at hold
      cases hold
    · refine .inr ⟨_, ⟨p.authUserId, userId, p.kind, p.authIdToken⟩, heffects, ?_, rfl, ?_⟩
      · rw [hauths]
        exact Table.find?_put.trans (if_pos rfl)
      · intro _ hnone
        rw [hlinking] at hnone
        cases hnone
    · intro u old email hold hemail
      by_cases hset : u = userId ∧ p.email.isSome
      · obtain ⟨rfl, hsome⟩ := hset
        exact .inr (.inr (.inr ⟨_, _, p, rfl, hp, hlinking, hsome⟩))
      · rw [husers]
        refine .inl (email_setEmail hold hemail ?_)
        intro huser
        exact Option.not_isSome_iff_eq_none.mp fun hsome => hset ⟨huser, hsome⟩
  | created p hp hlinking hfreeEmail huser hfree husers hauths heffects =>
    refine ⟨?_, ?_, ?_⟩
    · intro authUserId old hold
      rw [hauths]
      refine .inl (identity_put hold ?_)
      rintro rfl
      rw [hfree.1] at hold
      cases hold
    · refine .inr ⟨_, ⟨p.authUserId, _, p.kind, p.authIdToken⟩, heffects, ?_, rfl, ?_⟩
      · rw [hauths]
        exact Table.find?_put.trans (if_pos rfl)
      · exact fun _ _ => huser
    · intro u old email hold hemail
      rw [husers]
      refine .inl ⟨old, ?_, hemail⟩
      rw [Table.find?_put, if_neg, hold]
      rintro rfl
      rw [huser] at hold
      cases hold
  | registered huser hfreeEmail husers hauths heffects =>
    refine ⟨fun a old hold => .inl (hkeptAuths hauths a old hold), .inl heffects, ?_⟩
    intro u old email hold hemail
    rw [husers]
    refine .inl ⟨old, ?_, hemail⟩
    rw [Table.find?_put, if_neg, hold]
    rintro rfl
    rw [huser] at hold
    cases hold
  | @patched userId other _ hfreeEmail husers hauths heffects =>
    refine ⟨fun a old hold => .inl (hkeptAuths hauths a old hold), .inl heffects, ?_⟩
    intro u old email hold hemail
    by_cases hu : u = userId
    · exact .inr (.inr (.inl ⟨other, by rw [hu]⟩))
    · rw [husers]
      exact .inl (email_setEmail hold hemail fun h => absurd h hu)
  | @removed userId kind _ husers hauths heffects =>
    refine ⟨?_, .inl heffects, fun u old email hold hemail =>
      .inl (hkeptUsers husers u old email hold hemail)⟩
    intro authUserId old hold
    obtain ⟨hmem, hkey⟩ := Table.find?_eq_some.mp hold
    by_cases hof : old.userId = userId ∧ old.kind = kind
    · obtain ⟨rfl, rfl⟩ := hof
      exact .inr (.inl rfl)
    · rw [hauths]
      have hkept : (s.auths.filter fun row =>
          !decide (row.userId = userId ∧ row.kind = kind)).find? authUserId = some old :=
        Table.find?_eq_some.mpr ⟨List.mem_filter.mpr ⟨hmem, by rw [decide_eq_false hof]; rfl⟩, hkey⟩
      exact .inl ⟨old, hkept, rfl, rfl⟩
  | @deleted userId _ husers hauths heffects =>
    refine ⟨?_, .inl heffects, ?_⟩
    · intro authUserId old hold
      obtain ⟨hmem, hkey⟩ := Table.find?_eq_some.mp hold
      by_cases hof : old.userId = userId
      · exact .inr (.inr (by rw [hof]))
      · rw [hauths]
        have hkept : (s.auths.filter fun row => decide (row.userId ≠ userId)).find? authUserId =
            some old :=
          Table.find?_eq_some.mpr ⟨List.mem_filter.mpr ⟨hmem, decide_eq_true hof⟩, hkey⟩
        exact .inl ⟨old, hkept, rfl, rfl⟩
    · intro u old email hold hemail
      by_cases hu : u = userId
      · exact .inr (.inl (by rw [hu]))
      · rw [husers, Table.find?_erase, if_neg hu]
        exact .inl ⟨old, hold, hemail⟩

/-- No sign-in, whatever address its identity has, reaches an account that the identity was not
linked to or created with; and none of it leaves two users with one address. -/
theorem accounts_guarded {inputs : List Input} (h : Possible (step service) initial inputs) :
    Along (step service) (fun s input t => Guarded s input t ∧ Consistent t) initial inputs :=
  Along.of_invariant (I := Consistent)
    (fun _ _ _ hs ht _ => hs.of_change (step_change ht))
    (fun _ _ _ hs ht _ => ⟨.of_change (step_change ht), hs.of_change (step_change ht)⟩)
    Consistent.initial h

theorem accounts_guarded_sample :
    Possible (step sampleService) initial sampleInputs ∧
      Along (step sampleService) (fun s input t => Guarded s input t ∧ Consistent t) initial
        sampleInputs := by
  have hrun : Possible (step sampleService) initial sampleInputs := by decide
  exact ⟨hrun, accounts_guarded hrun⟩

end Soundness

end UniversalInbox.Oidc
