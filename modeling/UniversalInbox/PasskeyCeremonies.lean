import UniversalInbox.Library.OneTime
import UniversalInbox.Library.Results
import UniversalInbox.Library.Transition
import UniversalInbox.User

/-! The passkey ceremonies: what their start keeps in the session cookie and in Redis, what their
finish takes back from both, and the accounts that come of it. -/
namespace UniversalInbox.Passkey
open Results Transition User

/-- The state of `start_passkey_registration` in the WebAuthn library. -/
structure PasskeyRegistration where
  userUniqueId : UserId
  userName : String
  challenge : Nat
deriving DecidableEq, Repr

/-- The state of `start_passkey_authentication` in the WebAuthn library. -/
structure PasskeyAuthentication (Passkey : Type) where
  allowed : List Passkey
  challenge : Nat
deriving DecidableEq, Repr

/-- The WebAuthn library, over its passkeys, the payloads of the finish requests and what a verified
payload tells. `updateCredential` has the passkey that is changed, if it is. A payload is verified
against one of the passkeys that its challenge allows. -/
structure Webauthn (Passkey Credential AuthenticationResult : Type) where
  finishPasskeyRegistration : Credential → PasskeyRegistration → Option Passkey
  finishPasskeyAuthentication :
    Credential → PasskeyAuthentication Passkey → Option AuthenticationResult
  updateCredential : Passkey → AuthenticationResult → Option Passkey
  allowed_ne_nil : ∀ credential state result,
    finishPasskeyAuthentication credential state = some result → state.allowed ≠ []

inductive Ceremony where
  | passkeyRegistration
  | passkeyAuthentication
  | addPasskeyRegistration
deriving DecidableEq, Repr

def Ceremony.sessionKey : Ceremony → String
  | passkeyRegistration => "passkey-registration-state"
  | passkeyAuthentication => "passkey-authentication-state"
  | addPasskeyRegistration => "add-passkey-registration-state"

def Ceremony.redisKey (c : Ceremony) (userId : UserId) : String :=
  c.sessionKey ++ "::" ++ userIdText userId

/-- The session cookie, as far as these routes read and write it: `jwt` is the subject of its
token. -/
structure Session where
  passkeyRegistration : Option (String × UserId) := none
  passkeyAuthentication : Option UserId := none
  addPasskeyRegistration : Option (String × UserId) := none
  jwt : Option UserId := none
  userAuthKind : Option UserAuthKind := none
deriving DecidableEq, Repr

def Session.remove (session : Session) : Ceremony → Session
  | .passkeyRegistration => { session with passkeyRegistration := none }
  | .passkeyAuthentication => { session with passkeyAuthentication := none }
  | .addPasskeyRegistration => { session with addPasskeyRegistration := none }

def Session.signIn (session : Session) (userId : UserId) : Session :=
  { session with jwt := some userId, userAuthKind := some .passkey }

inductive CeremonyState (Passkey : Type) where
  | registration (state : PasskeyRegistration)
  | authentication (state : PasskeyAuthentication Passkey)
deriving DecidableEq, Repr

structure NonceBound (Passkey : Type) where
  nonce : String
  state : CeremonyState Passkey
deriving DecidableEq, Repr

/-- A blob with the key that it is stored under. -/
structure Stored (Passkey : Type) where
  ceremony : Ceremony
  userId : UserId
  bound : NonceBound Passkey
deriving DecidableEq, Repr

def Stored.key {Passkey : Type} (stored : Stored Passkey) : String :=
  stored.ceremony.redisKey stored.userId

structure PasskeyUserAuth (Passkey : Type) where
  userId : UserId
  username : String
  passkey : Passkey
deriving DecidableEq, Repr

inductive Outcome (Passkey AuthenticationResult : Type) where
  | registered (username : String) (passkey : Passkey)
  | added (username : String) (passkey : Passkey)
  | authenticated (result : AuthenticationResult)
deriving DecidableEq, Repr

/-- A finish request whose payload is verified. -/
structure Finish (Passkey Credential AuthenticationResult : Type) where
  session : Session
  caller : Option UserId
  nonce : String
  credential : Credential
  outcome : Outcome Passkey AuthenticationResult
deriving DecidableEq, Repr

/-- A start request that is about to store its state. -/
structure Starting (Passkey : Type) where
  id : Nat
  stored : Stored Passkey
  session : Session
deriving DecidableEq, Repr

/-- What a start request draws: the nonce, the challenge and, where no account is found, a user. -/
structure Draw where
  userId : UserId
  nonce : String
  challenge : Nat
deriving DecidableEq, Repr

variable {Passkey Credential AuthenticationResult : Type}

/-- `issued` has the cookies that were ever set, `states` the blobs in Redis and the finish requests
that have fetched one, `found` the passkeys that these have read, and `history` every row ever
written to `passkeys`. -/
structure State (Passkey Credential AuthenticationResult : Type) where
  issued : List Session
  states : OneTime (@Stored.key Passkey) (Finish Passkey Credential AuthenticationResult)
  found : List (Nat × Passkey)
  starting : Table (@Starting.id Passkey)
  users : List UserId
  passkeys : Table (@PasskeyUserAuth.userId Passkey)
  begun : Nat
  history : List (PasskeyUserAuth Passkey)
  refusals : List Refusal

/-- `readUserAuth`, `write` and `failCommit` have the number of the state that a finish request has
fetched. A request that is to store a state, or has fetched one, can fail at any statement, which is
answered with the cookie as far as it has come, or go without an answer. The last three are requests
to other routes. -/
inductive Input (Credential : Type) where
  | startPasskeyRegistration (session : Session) (username : String) (draw : Draw)
  | startPasskeyAuthentication (session : Session) (username : String) (draw : Draw)
  | startAddPasskeyRegistration (session : Session) (caller : UserId) (username : String)
      (draw : Draw)
  | store (id : Nat)
  | finishPasskeyRegistration (session : Session) (nonce : String) (credential : Credential)
  | finishPasskeyAuthentication (session : Session) (nonce : String) (credential : Credential)
  | finishAddPasskeyRegistration (session : Session) (caller : UserId) (nonce : String)
      (credential : Credential)
  | readUserAuth (serial : Nat)
  | write (serial : Nat)
  | failCommit (serial : Nat)
  | failStart (id : Nat) (refusal : Refusal)
  | failFinish (serial : Nat) (refusal : Refusal)
  | abandonStart (id : Nat)
  | abandonFinish (serial : Nat)
  | createUser (userId : UserId)
  | deleteUser (userId : UserId)
  | removePasskey (userId : UserId)
deriving DecidableEq, Repr

def Ceremony.stateName : Ceremony → String
  | passkeyRegistration => "Passkey registration state"
  | passkeyAuthentication => "Passkey authentication state"
  | addPasskeyRegistration => "add Passkey registration state"

def Ceremony.finishing : Ceremony → String
  | passkeyRegistration => "finishing Passkey registration"
  | passkeyAuthentication => "finishing Passkey authentication"
  | addPasskeyRegistration => "finishing add Passkey registration"

def notCommitted (c : Ceremony) : Refusal :=
  .error (.unexpected s!"Failed to commit while {c.finishing}")

def notInSession (c : Ceremony) : Refusal :=
  .error (.unexpected s!"Unable to find {c.stateName} in session")

def notFetched : Ceremony → Refusal
  | .passkeyAuthentication =>
    .error (.unexpected "Failed to fetch Passkey authentication state in Redis")
  | c => .error (.unexpected s!"Failed to fetch {c.stateName} from Redis")

def notParsed : Ceremony → Refusal
  | .passkeyAuthentication => .error (.unexpected "Failed to load Passkey authentication state")
  | c => .error (.unexpected s!"Failed to parse {c.stateName}")

def verifyPasskeyNonce (expected provided : String) : Except Refusal Unit :=
  if expected = provided then .ok () else .error (.unauthorized "Passkey nonce mismatch")

/-- What both registrations make of the blob. -/
def verifyRegistration (webauthn : Webauthn Passkey Credential AuthenticationResult)
    (c : Ceremony) (username nonce : String) (credential : Credential)
    (bound : NonceBound Passkey) : Except Refusal Passkey :=
  match bound.state with
  | .authentication _ => .error (notParsed c)
  | .registration state => do
    verifyPasskeyNonce bound.nonce nonce
    match webauthn.finishPasskeyRegistration credential state with
    | none => .error (.error (.unexpected s!"Failed to finish Passkey registration for {username}"))
    | some passkey => .ok passkey

def verifyAuthentication (webauthn : Webauthn Passkey Credential AuthenticationResult)
    (userId : UserId) (nonce : String) (credential : Credential) (bound : NonceBound Passkey) :
    Except Refusal AuthenticationResult :=
  match bound.state with
  | .registration _ => .error (notParsed .passkeyAuthentication)
  | .authentication state => do
    verifyPasskeyNonce bound.nonce nonce
    match webauthn.finishPasskeyAuthentication credential state with
    | none =>
      .error (.error (.unexpected
        s!"Failed to finish Passkey authentication for user {userIdText userId}"))
    | some result => .ok result

/-- The two types of JSON values. -/
inductive JsonType where
  | json
  | jsonb
deriving DecidableEq, Repr

/-- The operator `!=` is there for `jsonb` only. -/
def JsonType.comparable : JsonType → JsonType → Bool
  | jsonb, jsonb => true
  | _, _ => false

/-- `ADD COLUMN passkey JSON` -/
def passkeyColumn : JsonType := .json

/-- The type that `sqlx::types::Json` is bound with. -/
def passkeyParameter : JsonType := .jsonb

namespace State
variable (s : State Passkey Credential AuthenticationResult)

/-- A cookie that a client can present: its signature shows that it was set here. -/
def holds (session : Session) : Bool := decide (session = {}) || s.issued.contains session

def refuse (session : Session) (refusal : Refusal) : State Passkey Credential AuthenticationResult :=
  { s with issued := session :: s.issued, refusals := refusal :: s.refusals }

def beginStart (stored : Stored Passkey) (session : Session) :
    State Passkey Credential AuthenticationResult :=
  { s with starting := s.starting.put ⟨s.begun, stored, session⟩, begun := s.begun + 1 }

def writeRow (row : PasskeyUserAuth Passkey) : State Passkey Credential AuthenticationResult :=
  { s with passkeys := s.passkeys.put row, history := row :: s.history }

def getUserAuthByUsername (username : String) : Option (PasskeyUserAuth Passkey) :=
  s.passkeys.rows.find? fun row => decide (row.username = username)

def startPasskeyRegistration (session : Session) (username : String) (draw : Draw) :
    State Passkey Credential AuthenticationResult :=
  s.beginStart ⟨.passkeyRegistration, draw.userId,
      ⟨draw.nonce, .registration ⟨draw.userId, username, draw.challenge⟩⟩⟩
    { session with passkeyRegistration := some (username, draw.userId) }

/-- An unknown name starts a ceremony of a user that nobody is, with nothing allowed. -/
def startPasskeyAuthentication (session : Session) (username : String) (draw : Draw) :
    State Passkey Credential AuthenticationResult :=
  let found := s.getUserAuthByUsername username
  let userId := found.elim draw.userId PasskeyUserAuth.userId
  let allowed := found.elim [] fun row => [row.passkey]
  s.beginStart ⟨.passkeyAuthentication, userId,
      ⟨draw.nonce, .authentication ⟨allowed, draw.challenge⟩⟩⟩
    { session with passkeyAuthentication := some userId }

def startAddPasskeyRegistration (session : Session) (caller : UserId) (username : String)
    (draw : Draw) : State Passkey Credential AuthenticationResult :=
  let refused (id : Nat) := s.refuse (session.remove .addPasskeyRegistration)
    (.error (.alreadyExists id))
  if (s.passkeys.find? caller).isSome then refused caller.uuid
  else
    match (s.getUserAuthByUsername username).filter fun row => decide (row.userId ≠ caller) with
    | some row => refused row.userId.uuid
    | none =>
      s.beginStart ⟨.addPasskeyRegistration, caller,
          ⟨draw.nonce, .registration ⟨caller, username, draw.challenge⟩⟩⟩
        { session with addPasskeyRegistration := some (username, caller) }

/-- `GETDEL` and what the handler makes of the blob. -/
def finish (c : Ceremony) (userId : UserId) (session : Session) (caller : Option UserId)
    (nonce : String) (credential : Credential)
    (verify : NonceBound Passkey → Except Refusal (Outcome Passkey AuthenticationResult)) :
    State Passkey Credential AuthenticationResult :=
  match s.states.slots.find? (c.redisKey userId) with
  | none => s.refuse session (notFetched c)
  | some ticket =>
    match verify ticket.content.bound with
    | .error refusal =>
      { s with states := s.states.discard (c.redisKey userId) }.refuse session refusal
    | .ok outcome =>
      { s with
        states := s.states.take (c.redisKey userId) ⟨session, caller, nonce, credential, outcome⟩ }

variable (webauthn : Webauthn Passkey Credential AuthenticationResult)

def finishPasskeyRegistration (session : Session) (nonce : String) (credential : Credential) :
    State Passkey Credential AuthenticationResult :=
  match session.passkeyRegistration with
  | none => s.refuse session (notInSession .passkeyRegistration)
  | some (username, userId) =>
    s.finish .passkeyRegistration userId (session.remove .passkeyRegistration) none nonce credential
      fun bound =>
        (verifyRegistration webauthn .passkeyRegistration username nonce credential bound).map
          (.registered username)

def finishPasskeyAuthentication (session : Session) (nonce : String) (credential : Credential) :
    State Passkey Credential AuthenticationResult :=
  match session.passkeyAuthentication with
  | none => s.refuse session (notInSession .passkeyAuthentication)
  | some userId =>
    s.finish .passkeyAuthentication userId (session.remove .passkeyAuthentication) none nonce
      credential fun bound =>
        (verifyAuthentication webauthn userId nonce credential bound).map .authenticated

/-- The session's user is checked before anything is removed. -/
def finishAddPasskeyRegistration (session : Session) (caller : UserId) (nonce : String)
    (credential : Credential) : State Passkey Credential AuthenticationResult :=
  match session.addPasskeyRegistration with
  | none => s.refuse session (notInSession .addPasskeyRegistration)
  | some (username, sessionUserId) =>
    if sessionUserId ≠ caller then
      s.refuse session
        (.unauthorized "Session user ID does not match authenticated user ID")
    else
      s.finish .addPasskeyRegistration caller (session.remove .addPasskeyRegistration) (some caller)
        nonce credential fun bound =>
          (verifyRegistration webauthn .addPasskeyRegistration username nonce credential bound).map
            (.added username)

def createUserAuth (row : PasskeyUserAuth Passkey) :
    Except Refusal (State Passkey Credential AuthenticationResult) :=
  if s.passkeys.rows.any fun r => decide (r.username = row.username) then
    .error (.conflict "This username is already taken. Please choose a different one.")
  else if (s.passkeys.find? row.userId).isSome then .error (.error (authNotCreated row.userId))
  else .ok (s.writeRow row)

/-- `create_user`, with the row of its passkey. -/
def createUser (row : PasskeyUserAuth Passkey) :
    Except Refusal (State Passkey Credential AuthenticationResult) :=
  if s.users.contains row.userId then .error (.error (.alreadyExists row.userId.uuid))
  else { s with users := row.userId :: s.users }.createUserAuth row

/-- The row refers to a user that is there. -/
def addUserAuth (row : PasskeyUserAuth Passkey) :
    Except Refusal (State Passkey Credential AuthenticationResult) :=
  if s.users.contains row.userId then s.createUserAuth row
  else .error (.error (authNotCreated row.userId))

/-- The statement also tells whether the passkey differs from that of the request. It is not run where
the two cannot be compared. -/
def updatePasskey (userId : UserId) (passkey : Passkey) :
    Except Refusal (State Passkey Credential AuthenticationResult) :=
  if passkeyColumn.comparable passkeyParameter then
    .ok ((s.passkeys.find? userId).elim s fun row => s.writeRow { row with passkey })
  else .error (.error (.databaseError
    s!"Failed to update user {userIdText userId}'s passkey from storage"))

/-- `finish_passkey_authentication` past the reading of the passkey. -/
def authenticate (userId : UserId) (passkey : Passkey) (result : AuthenticationResult) :
    Except Refusal (State Passkey Credential AuthenticationResult) :=
  if s.users.contains userId then
    match webauthn.updateCredential passkey result with
    | some passkey => s.updatePasskey userId passkey
    | none => .ok s
  else .error (.error (.itemNotFound s!"No user {userIdText userId} found"))

/-- A finish request is answered with an error. -/
def failFinish (x : Taken (Stored Passkey) (Finish Passkey Credential AuthenticationResult))
    (refusal : Refusal) : State Passkey Credential AuthenticationResult :=
  { s with states := s.states.drop x.ticket.serial }.refuse x.use.session refusal

/-- The end of a finish request, by what its transaction wrote. -/
def settle (x : Taken (Stored Passkey) (Finish Passkey Credential AuthenticationResult))
    (written : Except Refusal (State Passkey Credential AuthenticationResult)) (session : Session) :
    State Passkey Credential AuthenticationResult :=
  match written with
  | .error refusal => s.failFinish x refusal
  | .ok t => { t with states := t.states.complete x.ticket.serial, issued := session :: t.issued }

/-- `get_user_auth` of an authentication that is verified; the row is not locked. -/
def readUserAuth (x : Taken (Stored Passkey) (Finish Passkey Credential AuthenticationResult)) :
    Option (State Passkey Credential AuthenticationResult) :=
  let userId := x.ticket.content.userId
  match x.use.outcome with
  | .authenticated _ =>
    some (match s.passkeys.find? userId with
      | some row => { s with found := (x.ticket.serial, row.passkey) :: s.found }
      | none => s.failFinish x
          (.error (.itemNotFound s!"No passkey auth found for user {userIdText userId}")))
  | _ => none

/-- What the transaction of a finish request writes, and the cookie it leads to. -/
def written (x : Taken (Stored Passkey) (Finish Passkey Credential AuthenticationResult)) :
    Option (Except Refusal (State Passkey Credential AuthenticationResult) × Session) :=
  let userId := x.ticket.content.userId
  match x.use.outcome with
  | .registered username passkey =>
    some (s.createUser ⟨userId, username, passkey⟩, x.use.session.signIn userId)
  | .added username passkey => some (s.addUserAuth ⟨userId, username, passkey⟩, x.use.session)
  | .authenticated result =>
    (s.found.lookup x.ticket.serial).map fun passkey =>
      (s.authenticate webauthn userId passkey result, x.use.session.signIn userId)

def write (x : Taken (Stored Passkey) (Finish Passkey Credential AuthenticationResult)) :
    Option (State Passkey Credential AuthenticationResult) :=
  (s.written webauthn x).map fun w => s.settle x w.1 w.2

/-- What is written is rolled back, but the cookie is set by then. -/
def failCommit (x : Taken (Stored Passkey) (Finish Passkey Credential AuthenticationResult)) :
    Option (State Passkey Credential AuthenticationResult) :=
  (s.written webauthn x).bind fun w =>
    match w.1 with
    | .ok _ =>
      some { s.settle x (.ok s) w.2 with
        refusals := notCommitted x.ticket.content.ceremony :: s.refusals }
    | .error _ => none

end State

def initial : State Passkey Credential AuthenticationResult :=
  ⟨[], OneTime.empty, [], Table.empty, [], Table.empty, 0, [], []⟩

def step (webauthn : Webauthn Passkey Credential AuthenticationResult)
    (s : State Passkey Credential AuthenticationResult) :
    Input Credential → Option (State Passkey Credential AuthenticationResult)
  | .startPasskeyRegistration session username draw =>
    if s.holds session then some (s.startPasskeyRegistration session username draw) else none
  | .startPasskeyAuthentication session username draw =>
    if s.holds session then some (s.startPasskeyAuthentication session username draw) else none
  | .startAddPasskeyRegistration session caller username draw =>
    if s.holds session then some (s.startAddPasskeyRegistration session caller username draw)
    else none
  | .store id =>
    (s.starting.find? id).map fun x =>
      { s with
        starting := s.starting.erase id
        states := s.states.put x.stored
        issued := x.session :: s.issued }
  | .finishPasskeyRegistration session nonce credential =>
    if s.holds session then some (s.finishPasskeyRegistration webauthn session nonce credential)
    else none
  | .finishPasskeyAuthentication session nonce credential =>
    if s.holds session then some (s.finishPasskeyAuthentication webauthn session nonce credential)
    else none
  | .finishAddPasskeyRegistration session caller nonce credential =>
    if s.holds session then
      some (s.finishAddPasskeyRegistration webauthn session caller nonce credential)
    else none
  | .readUserAuth serial => (s.states.taken.find? serial).bind s.readUserAuth
  | .write serial => (s.states.taken.find? serial).bind (s.write webauthn)
  | .failCommit serial => (s.states.taken.find? serial).bind (s.failCommit webauthn)
  | .failStart id refusal =>
    (s.starting.find? id).map fun x =>
      { s with starting := s.starting.erase id }.refuse x.session refusal
  | .failFinish serial refusal =>
    (s.states.taken.find? serial).map fun x => s.failFinish x refusal
  | .abandonStart id => some { s with starting := s.starting.erase id }
  | .abandonFinish serial => some { s with states := s.states.drop serial }
  | .createUser userId =>
    some (if s.users.contains userId then s else { s with users := userId :: s.users })
  | .deleteUser userId =>
    some { s with
      users := s.users.filter fun id => decide (id ≠ userId)
      passkeys := s.passkeys.erase userId }
  | .removePasskey userId => some { s with passkeys := s.passkeys.erase userId }

/-- The blobs of the three ceremonies, and those of two users, have keys of their own. -/
theorem redisKey_inj {c c' : Ceremony} {u u' : UserId} (h : c.redisKey u = c'.redisKey u') :
    c = c' ∧ u = u' := by
  have htext : c.sessionKey.toList ++ ("::".toList ++ Uuid.hyphenated u.uuid) =
      c'.sessionKey.toList ++ ("::".toList ++ Uuid.hyphenated u'.uuid) := by
    have htoList := congrArg String.toList h
    simpa only [Ceremony.redisKey, userIdText, String.toList_append, String.toList_ofList,
      List.append_assoc] using htoList
  -- nine characters tell the ceremonies apart
  have hlength : ∀ c : Ceremony, 9 ≤ c.sessionKey.toList.length := by
    intro c
    cases c <;> decide
  have htake := congrArg (List.take 9) htext
  rw [List.take_append_of_le_length (hlength c), List.take_append_of_le_length (hlength c')] at htake
  have hsame : c = c' := by
    cases c <;> cases c' <;> first | rfl | exact absurd htake (by decide)
  subst hsame
  have huuid := Uuid.hyphenated_injective (List.append_cancel_left (List.append_cancel_left htext))
  exact ⟨rfl, congrArg UserId.mk huuid⟩

section Soundness
variable {webauthn : Webauthn Passkey Credential AuthenticationResult}
  {s : State Passkey Credential AuthenticationResult}

/-- What the state of a start is about: the user that it creates or adds to, or passkeys that were
written for the user that it authenticates. -/
def Started (history : List (PasskeyUserAuth Passkey)) (stored : Stored Passkey) : Prop :=
  match stored.bound.state with
  | .registration state => state.userUniqueId = stored.userId
  | .authentication state =>
    ∀ passkey ∈ state.allowed, ∃ row ∈ history, row.userId = stored.userId ∧ row.passkey = passkey

/-- The finish request has brought the nonce of the state that it took, and a payload that verifies
against it; and it is of the ceremony, and for the user, of that state. -/
def Verified (webauthn : Webauthn Passkey Credential AuthenticationResult)
    (x : Taken (Stored Passkey) (Finish Passkey Credential AuthenticationResult)) : Prop :=
  x.ticket.content.bound.nonce = x.use.nonce ∧
    match x.use.outcome with
    | .registered _ passkey =>
      x.ticket.content.ceremony = .passkeyRegistration ∧
        ∃ state, x.ticket.content.bound.state = .registration state ∧
          webauthn.finishPasskeyRegistration x.use.credential state = some passkey
    | .added _ passkey =>
      x.ticket.content.ceremony = .addPasskeyRegistration ∧
        x.use.caller = some x.ticket.content.userId ∧
        ∃ state, x.ticket.content.bound.state = .registration state ∧
          webauthn.finishPasskeyRegistration x.use.credential state = some passkey
    | .authenticated result =>
      x.ticket.content.ceremony = .passkeyAuthentication ∧
        ∃ state, x.ticket.content.bound.state = .authentication state ∧
          webauthn.finishPasskeyAuthentication x.use.credential state = some result

/-- The finish request signs a user in. -/
def SignsIn (x : Taken (Stored Passkey) (Finish Passkey Credential AuthenticationResult))
    (userId : UserId) : Prop :=
  x.ticket.content.userId = userId ∧ ∀ username passkey, x.use.outcome ≠ .added username passkey

/-- The finish request gives a user its passkey. -/
def Registers (x : Taken (Stored Passkey) (Finish Passkey Credential AuthenticationResult))
    (userId : UserId) (username : String) : Prop :=
  x.ticket.content.userId = userId ∧
    ∃ passkey, x.use.outcome = .registered username passkey ∨ x.use.outcome = .added username passkey

def SignedIn (completed : List (Taken (Stored Passkey) (Finish Passkey Credential AuthenticationResult)))
    (session : Session) : Prop :=
  ∀ userId, session.jwt = some userId → ∃ x ∈ completed, SignsIn x userId

structure Sound (webauthn : Webauthn Passkey Credential AuthenticationResult)
    (s : State Passkey Credential AuthenticationResult) : Prop where
  starting : ∀ x ∈ s.starting.rows,
    Started s.history x.stored ∧ SignedIn s.states.completed x.session
  states : ∀ t ∈ s.states.issued, Started s.history t.content
  taken : ∀ x ∈ s.states.taken.rows, Verified webauthn x ∧ SignedIn s.states.completed x.use.session
  completed : ∀ x ∈ s.states.completed, Verified webauthn x
  rows : ∀ row ∈ s.passkeys.rows, row ∈ s.history
  history : ∀ row ∈ s.history, ∃ x ∈ s.states.completed, Registers x row.userId row.username
  issued : ∀ session ∈ s.issued, SignedIn s.states.completed session

theorem Started.mono {history history' : List (PasskeyUserAuth Passkey)} {stored : Stored Passkey}
    (h : Started history stored) (hsub : history ⊆ history') : Started history' stored := by
  unfold Started at h ⊢
  split at h
  · exact h
  · intro passkey hpasskey
    obtain ⟨row, hrow, hof⟩ := h passkey hpasskey
    exact ⟨row, hsub hrow, hof⟩

theorem SignedIn.mono
    {completed completed' : List (Taken (Stored Passkey) (Finish Passkey Credential AuthenticationResult))}
    {session : Session} (h : SignedIn completed session) (hsub : completed ⊆ completed') :
    SignedIn completed' session := by
  intro userId hjwt
  obtain ⟨x, hx, hsigns⟩ := h userId hjwt
  exact ⟨x, hsub hx, hsigns⟩

theorem verifyPasskeyNonce_bind {α : Type} {expected provided : String} {next : Except Refusal α}
    {a : α} : (verifyPasskeyNonce expected provided >>= fun _ => next) = .ok a ↔
      expected = provided ∧ next = .ok a := by
  unfold verifyPasskeyNonce
  by_cases h : expected = provided
  · rw [if_pos h]
    exact ⟨fun hnext => ⟨h, hnext⟩, And.right⟩
  · rw [if_neg h]
    exact ⟨nofun, fun hnext => absurd hnext.1 h⟩

theorem verifyRegistration_eq_ok {c : Ceremony} {username nonce : String} {credential : Credential}
    {bound : NonceBound Passkey} {passkey : Passkey}
    (h : verifyRegistration webauthn c username nonce credential bound = .ok passkey) :
    bound.nonce = nonce ∧ ∃ state, bound.state = .registration state ∧
      webauthn.finishPasskeyRegistration credential state = some passkey := by
  unfold verifyRegistration at h
  split at h
  · cases h
  · next state hstate =>
    obtain ⟨hnonce, hfinish⟩ := verifyPasskeyNonce_bind.mp h
    split at hfinish
    · cases hfinish
    · next passkey' hpasskey =>
      cases hfinish
      exact ⟨hnonce, state, hstate, hpasskey⟩

theorem verifyAuthentication_eq_ok {userId : UserId} {nonce : String} {credential : Credential}
    {bound : NonceBound Passkey} {result : AuthenticationResult}
    (h : verifyAuthentication webauthn userId nonce credential bound = .ok result) :
    bound.nonce = nonce ∧ ∃ state, bound.state = .authentication state ∧
      webauthn.finishPasskeyAuthentication credential state = some result := by
  unfold verifyAuthentication at h
  split at h
  · cases h
  · next state hstate =>
    obtain ⟨hnonce, hfinish⟩ := verifyPasskeyNonce_bind.mp h
    split at hfinish
    · cases hfinish
    · next result' hresult =>
      cases hfinish
      exact ⟨hnonce, state, hstate, hresult⟩

theorem Sound.initial : Sound webauthn initial where
  starting _ hx := (List.not_mem_nil hx).elim
  states _ ht := (List.not_mem_nil ht).elim
  taken _ hx := (List.not_mem_nil hx).elim
  completed _ hx := (List.not_mem_nil hx).elim
  rows _ hrow := (List.not_mem_nil hrow).elim
  history _ hrow := (List.not_mem_nil hrow).elim
  issued _ hsession := (List.not_mem_nil hsession).elim

theorem Sound.refuse (h : Sound webauthn s) {session : Session}
    (hsession : SignedIn s.states.completed session) (refusal : Refusal) :
    Sound webauthn (s.refuse session refusal) :=
  { h with issued := List.forall_mem_cons.mpr ⟨hsession, h.issued⟩ }

theorem Sound.holds (h : Sound webauthn s) {session : Session} (hholds : s.holds session = true) :
    SignedIn s.states.completed session := by
  rcases Bool.or_eq_true_iff.mp hholds with hempty | hmem
  · rw [of_decide_eq_true hempty]
    exact nofun
  · exact h.issued session (List.contains_iff_mem.mp hmem)

theorem Sound.beginStart (h : Sound webauthn s) {stored : Stored Passkey} {session : Session}
    (hstored : Started s.history stored) (hsession : SignedIn s.states.completed session) :
    Sound webauthn (s.beginStart stored session) :=
  { h with
    starting := by
      intro x hx
      rcases Table.mem_put.mp hx with rfl | ⟨hx, -⟩
      · exact ⟨hstored, hsession⟩
      · exact h.starting x hx }

/-- A slot that is emptied, a use that is dropped and rows that are deleted leave all as it is. -/
theorem Sound.less (h : Sound webauthn s) {t : State Passkey Credential AuthenticationResult}
    (hstarting : t.starting.rows ⊆ s.starting.rows) (hissued : t.states.issued = s.states.issued)
    (htaken : t.states.taken.rows ⊆ s.states.taken.rows)
    (hcompleted : t.states.completed = s.states.completed)
    (hrows : t.passkeys.rows ⊆ s.passkeys.rows) (hhistory : t.history = s.history)
    (hsessions : t.issued = s.issued) : Sound webauthn t := by
  constructor
  · rw [hhistory, hcompleted]
    exact fun x hx => h.starting x (hstarting hx)
  · rw [hhistory, hissued]
    exact h.states
  · rw [hcompleted]
    exact fun x hx => h.taken x (htaken hx)
  · rw [hcompleted]
    exact h.completed
  · rw [hhistory]
    exact fun row hrow => h.rows row (hrows hrow)
  · rw [hhistory, hcompleted]
    exact h.history
  · rw [hsessions, hcompleted]
    exact h.issued

theorem Sound.dropStart (h : Sound webauthn s) (id : Nat) :
    Sound webauthn { s with starting := s.starting.erase id } :=
  h.less (fun _ hx => (Table.mem_erase.mp hx).1) rfl (fun _ hx => hx) rfl (fun _ hx => hx) rfl rfl

theorem Sound.dropUse (h : Sound webauthn s) (serial : Nat) :
    Sound webauthn { s with states := s.states.drop serial } :=
  h.less (fun _ hx => hx) rfl (fun _ hx => (Table.mem_erase.mp hx).1) rfl (fun _ hx => hx) rfl rfl

theorem Sound.store (h : Sound webauthn s) {x : Starting Passkey} (hx : x ∈ s.starting.rows) :
    Sound webauthn
      { s with
        starting := s.starting.erase x.id
        states := s.states.put x.stored
        issued := x.session :: s.issued } :=
  { h with
    starting := fun y hy => h.starting y (Table.mem_erase.mp hy).1
    states := List.forall_mem_cons.mpr ⟨(h.starting x hx).1, h.states⟩
    issued := List.forall_mem_cons.mpr ⟨(h.starting x hx).2, h.issued⟩ }

theorem Sound.finish (h : Sound webauthn s) {c : Ceremony} {userId : UserId} {session : Session}
    {caller : Option UserId} {nonce : String} {credential : Credential}
    {verify : NonceBound Passkey → Except Refusal (Outcome Passkey AuthenticationResult)}
    (hsession : SignedIn s.states.completed session)
    (hverify : ∀ (t : Ticket (Stored Passkey)) outcome, t.content.ceremony = c →
      t.content.userId = userId → verify t.content.bound = .ok outcome →
      Verified webauthn ⟨t, ⟨session, caller, nonce, credential, outcome⟩⟩) :
    Sound webauthn (s.finish c userId session caller nonce credential verify) := by
  unfold State.finish
  split
  · exact h.refuse hsession _
  · next t ht =>
    split
    · have hless : Sound webauthn { s with states := s.states.discard (c.redisKey userId) } :=
        h.less (fun _ hx => hx) rfl (fun _ hx => hx) rfl (fun _ hx => hx) rfl rfl
      exact hless.refuse hsession _
    · next outcome hok =>
      obtain ⟨hissued, -, htaken, hcompleted⟩ := OneTime.take_of_find
        (u := (⟨session, caller, nonce, credential, outcome⟩ :
          Finish Passkey Credential AuthenticationResult)) ht
      obtain ⟨hc, hu⟩ := redisKey_inj (Table.find?_eq_some.mp ht).2
      constructor
      · rw [hcompleted]
        exact h.starting
      · rw [hissued]
        exact h.states
      · rw [hcompleted, htaken]
        intro x hx
        rcases Table.mem_put.mp hx with rfl | ⟨hx, -⟩
        · exact ⟨hverify t outcome hc hu hok, hsession⟩
        · exact h.taken x hx
      · rw [hcompleted]
        exact h.completed
      · exact h.rows
      · rw [hcompleted]
        exact h.history
      · rw [hcompleted]
        exact h.issued

/-- What the transaction of a finish request `x` does to the rows, where it succeeds. -/
def Writes (s t : State Passkey Credential AuthenticationResult)
    (x : Taken (Stored Passkey) (Finish Passkey Credential AuthenticationResult)) : Prop :=
  t.issued = s.issued ∧ t.states = s.states ∧ t.starting = s.starting ∧
    ((t.passkeys = s.passkeys ∧ t.history = s.history) ∨
      ∃ row, t.passkeys = s.passkeys.put row ∧ t.history = row :: s.history ∧
        Registers x row.userId row.username)

theorem Sound.complete (h : Sound webauthn s) {t : State Passkey Credential AuthenticationResult}
    {x : Taken (Stored Passkey) (Finish Passkey Credential AuthenticationResult)} {session : Session}
    (hx : x ∈ s.states.taken.rows) (hwrites : Writes s t x)
    (hsession : SignedIn (x :: s.states.completed) session) :
    Sound webauthn
      { t with states := t.states.complete x.ticket.serial, issued := session :: t.issued } := by
  obtain ⟨hsessions, hstates, hstarting, hrows⟩ := hwrites
  obtain ⟨hissued, -, htaken, hcompleted⟩ :=
    OneTime.complete_of_find (Table.find?_eq_some.mpr ⟨hx, rfl⟩)
  have hmore : s.states.completed ⊆ x :: s.states.completed := List.subset_cons_self _ _
  have hhistory : s.history ⊆ t.history := by
    rcases hrows with ⟨-, hsame⟩ | ⟨row, -, hcons, -⟩
    · rw [hsame]
      exact List.Subset.refl _
    · rw [hcons]
      exact List.subset_cons_self _ _
  rw [hstates]
  constructor
  · rw [hcompleted]
    dsimp only
    rw [hstarting]
    intro y hy
    obtain ⟨hstarted, hsigned⟩ := h.starting y hy
    exact ⟨hstarted.mono hhistory, hsigned.mono hmore⟩
  · rw [hissued]
    exact fun ticket hticket => (h.states ticket hticket).mono hhistory
  · rw [hcompleted, htaken]
    intro y hy
    obtain ⟨hverified, hsigned⟩ := h.taken y (Table.mem_erase.mp hy).1
    exact ⟨hverified, hsigned.mono hmore⟩
  · rw [hcompleted]
    exact List.forall_mem_cons.mpr ⟨(h.taken x hx).1, h.completed⟩
  · dsimp only
    rcases hrows with ⟨hsame, hsame'⟩ | ⟨row, hput, hcons, -⟩
    · rw [hsame, hsame']
      exact h.rows
    · rw [hput, hcons]
      intro r hr
      rcases Table.mem_put.mp hr with rfl | ⟨hr, -⟩
      · exact List.mem_cons_self
      · exact List.mem_cons_of_mem _ (h.rows r hr)
  · rw [hcompleted]
    dsimp only
    have hold : ∀ row ∈ s.history, ∃ y ∈ x :: s.states.completed,
        Registers y row.userId row.username := by
      intro row hrow
      obtain ⟨y, hy, hregisters⟩ := h.history row hrow
      exact ⟨y, hmore hy, hregisters⟩
    rcases hrows with ⟨-, hsame⟩ | ⟨row, -, hcons, hof⟩
    · rw [hsame]
      exact hold
    · rw [hcons]
      exact List.forall_mem_cons.mpr ⟨⟨x, List.mem_cons_self, hof⟩, hold⟩
  · rw [hcompleted]
    dsimp only
    rw [hsessions]
    exact List.forall_mem_cons.mpr ⟨hsession, fun y hy => (h.issued y hy).mono hmore⟩

theorem writes_createUserAuth {t : State Passkey Credential AuthenticationResult}
    {x : Taken (Stored Passkey) (Finish Passkey Credential AuthenticationResult)}
    {row : PasskeyUserAuth Passkey} (hof : Registers x row.userId row.username)
    (h : s.createUserAuth row = .ok t) : Writes s t x := by
  unfold State.createUserAuth at h
  split at h
  · cases h
  · split at h
    · cases h
    · cases h
      exact ⟨rfl, rfl, rfl, .inr ⟨row, rfl, rfl, hof⟩⟩

theorem writes_createUser {t : State Passkey Credential AuthenticationResult}
    {x : Taken (Stored Passkey) (Finish Passkey Credential AuthenticationResult)}
    {row : PasskeyUserAuth Passkey} (hof : Registers x row.userId row.username)
    (h : s.createUser row = .ok t) : Writes s t x := by
  unfold State.createUser at h
  split at h
  · cases h
  · exact writes_createUserAuth (s := { s with users := row.userId :: s.users }) hof h

theorem writes_addUserAuth {t : State Passkey Credential AuthenticationResult}
    {x : Taken (Stored Passkey) (Finish Passkey Credential AuthenticationResult)}
    {row : PasskeyUserAuth Passkey} (hof : Registers x row.userId row.username)
    (h : s.addUserAuth row = .ok t) : Writes s t x := by
  unfold State.addUserAuth at h
  split at h
  · exact writes_createUserAuth hof h
  · cases h

/-- A passkey of the column and one of a request are never compared. -/
theorem updatePasskey_eq (userId : UserId) (passkey : Passkey) :
    s.updatePasskey userId passkey = .error (.error (.databaseError
      s!"Failed to update user {userIdText userId}'s passkey from storage")) := rfl

/-- So the rows are those that were there, and the library has left the passkey as it is. -/
theorem authenticate_eq_ok {t : State Passkey Credential AuthenticationResult} {userId : UserId}
    {passkey : Passkey} {result : AuthenticationResult}
    (h : s.authenticate webauthn userId passkey result = .ok t) :
    t = s ∧ webauthn.updateCredential passkey result = none := by
  unfold State.authenticate at h
  split at h
  · split at h
    · rw [updatePasskey_eq] at h
      cases h
    · next hnone =>
      cases h
      exact ⟨rfl, hnone⟩
  · cases h

/-- The transaction writes what its request registers, if anything, and the cookie it leads to signs
in the user of the request or nobody new. -/
theorem written_spec {x : Taken (Stored Passkey) (Finish Passkey Credential AuthenticationResult)}
    {w : Except Refusal (State Passkey Credential AuthenticationResult) × Session}
    (h : s.written webauthn x = some w) : (∀ t, w.1 = .ok t → Writes s t x) ∧
      (w.2 = x.use.session ∨ (w.2 = x.use.session.signIn x.ticket.content.userId ∧
        SignsIn x x.ticket.content.userId)) := by
  unfold State.written at h
  cases hout : x.use.outcome with
  | registered username passkey =>
    rw [hout] at h
    cases h
    have hof : Registers x x.ticket.content.userId username := ⟨rfl, passkey, .inl hout⟩
    exact ⟨fun t ht => writes_createUser hof ht, .inr ⟨rfl, rfl, by rw [hout]; exact nofun⟩⟩
  | added username passkey =>
    rw [hout] at h
    cases h
    have hof : Registers x x.ticket.content.userId username := ⟨rfl, passkey, .inr hout⟩
    exact ⟨fun t ht => writes_addUserAuth hof ht, .inl rfl⟩
  | authenticated result =>
    rw [hout] at h
    obtain ⟨passkey, -, rfl⟩ := Option.map_eq_some_iff.mp h
    refine ⟨fun t ht => ?_, .inr ⟨rfl, rfl, by rw [hout]; exact nofun⟩⟩
    obtain ⟨rfl, -⟩ := authenticate_eq_ok ht
    exact ⟨rfl, rfl, rfl, .inl ⟨rfl, rfl⟩⟩

theorem Sound.failFinish (h : Sound webauthn s)
    {x : Taken (Stored Passkey) (Finish Passkey Credential AuthenticationResult)}
    (hx : x ∈ s.states.taken.rows) (refusal : Refusal) :
    Sound webauthn (s.failFinish x refusal) :=
  (h.dropUse x.ticket.serial).refuse (h.taken x hx).2 refusal

theorem Sound.readUserAuth (h : Sound webauthn s)
    {x : Taken (Stored Passkey) (Finish Passkey Credential AuthenticationResult)}
    {t : State Passkey Credential AuthenticationResult} (hx : x ∈ s.states.taken.rows)
    (ht : s.readUserAuth x = some t) : Sound webauthn t := by
  unfold State.readUserAuth at ht
  split at ht
  · cases ht
    split
    · exact h.less (fun _ hy => hy) rfl (fun _ hy => hy) rfl (fun _ hy => hy) rfl rfl
    · exact h.failFinish hx _
  · cases ht

theorem Sound.settle (h : Sound webauthn s)
    {x : Taken (Stored Passkey) (Finish Passkey Credential AuthenticationResult)}
    (hx : x ∈ s.states.taken.rows)
    {written : Except Refusal (State Passkey Credential AuthenticationResult)} {session : Session}
    (hwritten : ∀ t, written = .ok t → Writes s t x)
    (hsession : SignedIn (x :: s.states.completed) session) :
    Sound webauthn (s.settle x written session) := by
  cases written with
  | error refusal => exact h.failFinish hx refusal
  | ok t => exact h.complete hx (hwritten t rfl) hsession

theorem signedIn_signIn
    {x : Taken (Stored Passkey) (Finish Passkey Credential AuthenticationResult)}
    (hsigns : SignsIn x x.ticket.content.userId)
    (completed : List (Taken (Stored Passkey) (Finish Passkey Credential AuthenticationResult)))
    (session : Session) : SignedIn (x :: completed) (session.signIn x.ticket.content.userId) := by
  intro userId hjwt
  cases hjwt
  exact ⟨x, List.mem_cons_self, hsigns⟩

theorem signedIn_of_written
    {x : Taken (Stored Passkey) (Finish Passkey Credential AuthenticationResult)} {session : Session}
    (h : Sound webauthn s) (hx : x ∈ s.states.taken.rows)
    (hsession : session = x.use.session ∨ (session = x.use.session.signIn x.ticket.content.userId ∧
      SignsIn x x.ticket.content.userId)) : SignedIn (x :: s.states.completed) session := by
  rcases hsession with rfl | ⟨rfl, hsigns⟩
  · exact (h.taken x hx).2.mono (List.subset_cons_self _ _)
  · exact signedIn_signIn hsigns _ _

theorem Sound.write (h : Sound webauthn s)
    {x : Taken (Stored Passkey) (Finish Passkey Credential AuthenticationResult)}
    {t : State Passkey Credential AuthenticationResult} (hx : x ∈ s.states.taken.rows)
    (ht : s.write webauthn x = some t) : Sound webauthn t := by
  obtain ⟨w, hw, rfl⟩ := Option.map_eq_some_iff.mp ht
  obtain ⟨hwrites, hsession⟩ := written_spec hw
  exact h.settle hx hwrites (signedIn_of_written h hx hsession)

/-- What a request that comes to a `COMMIT` which fails leaves. -/
theorem failCommit_eq_some
    {x : Taken (Stored Passkey) (Finish Passkey Credential AuthenticationResult)}
    {t : State Passkey Credential AuthenticationResult} (ht : s.failCommit webauthn x = some t) :
    ∃ w, s.written webauthn x = some w ∧ t = { s.settle x (.ok s) w.2 with
      refusals := notCommitted x.ticket.content.ceremony :: s.refusals } := by
  obtain ⟨w, hw, hok⟩ := Option.bind_eq_some_iff.mp ht
  split at hok
  · cases hok
    exact ⟨w, hw, rfl⟩
  · cases hok

theorem Sound.failCommit (h : Sound webauthn s)
    {x : Taken (Stored Passkey) (Finish Passkey Credential AuthenticationResult)}
    {t : State Passkey Credential AuthenticationResult} (hx : x ∈ s.states.taken.rows)
    (ht : s.failCommit webauthn x = some t) : Sound webauthn t := by
  obtain ⟨w, hw, rfl⟩ := failCommit_eq_some ht
  obtain ⟨-, hsession⟩ := written_spec hw
  have hsettled : Sound webauthn (s.settle x (.ok s) w.2) := by
    refine h.settle hx ?_ (signedIn_of_written h hx hsession)
    rintro _ ⟨⟩
    exact ⟨rfl, rfl, rfl, .inl ⟨rfl, rfl⟩⟩
  exact { hsettled with }

theorem Sound.startPasskeyRegistration (h : Sound webauthn s) {session : Session}
    (hsession : SignedIn s.states.completed session) (username : String) (draw : Draw) :
    Sound webauthn (s.startPasskeyRegistration session username draw) :=
  h.beginStart rfl hsession

theorem Sound.startPasskeyAuthentication (h : Sound webauthn s) {session : Session}
    (hsession : SignedIn s.states.completed session) (username : String) (draw : Draw) :
    Sound webauthn (s.startPasskeyAuthentication session username draw) := by
  refine h.beginStart ?_ hsession
  intro passkey hpasskey
  cases hfound : s.getUserAuthByUsername username with
  | none =>
    rw [hfound] at hpasskey
    exact (List.not_mem_nil hpasskey).elim
  | some row =>
    rw [hfound] at hpasskey
    exact ⟨row, h.rows row (List.mem_of_find?_eq_some hfound), rfl,
      (List.mem_singleton.mp hpasskey).symm⟩

theorem Sound.startAddPasskeyRegistration (h : Sound webauthn s) {session : Session}
    (hsession : SignedIn s.states.completed session) (caller : UserId) (username : String)
    (draw : Draw) :
    Sound webauthn (s.startAddPasskeyRegistration session caller username draw) := by
  have hremoved : SignedIn s.states.completed (session.remove .addPasskeyRegistration) := hsession
  unfold State.startAddPasskeyRegistration
  dsimp only
  split
  · exact h.refuse hremoved _
  · split
    · exact h.refuse hremoved _
    · exact h.beginStart rfl hsession

theorem Sound.finishPasskeyRegistration (h : Sound webauthn s) {session : Session}
    (hsession : SignedIn s.states.completed session) (nonce : String) (credential : Credential) :
    Sound webauthn (s.finishPasskeyRegistration webauthn session nonce credential) := by
  unfold State.finishPasskeyRegistration
  split
  · exact h.refuse hsession _
  · refine h.finish hsession ?_
    intro t outcome hc hu hok
    obtain ⟨passkey, hverify, rfl⟩ := map_eq_ok.mp hok
    obtain ⟨hnonce, hstate⟩ := verifyRegistration_eq_ok hverify
    exact ⟨hnonce, hc, hstate⟩

theorem Sound.finishPasskeyAuthentication (h : Sound webauthn s) {session : Session}
    (hsession : SignedIn s.states.completed session) (nonce : String) (credential : Credential) :
    Sound webauthn (s.finishPasskeyAuthentication webauthn session nonce credential) := by
  unfold State.finishPasskeyAuthentication
  split
  · exact h.refuse hsession _
  · refine h.finish hsession ?_
    intro t outcome hc hu hok
    obtain ⟨result, hverify, rfl⟩ := map_eq_ok.mp hok
    obtain ⟨hnonce, hstate⟩ := verifyAuthentication_eq_ok hverify
    exact ⟨hnonce, hc, hstate⟩

theorem Sound.finishAddPasskeyRegistration (h : Sound webauthn s) {session : Session}
    (hsession : SignedIn s.states.completed session) (caller : UserId) (nonce : String)
    (credential : Credential) :
    Sound webauthn (s.finishAddPasskeyRegistration webauthn session caller nonce credential) := by
  unfold State.finishAddPasskeyRegistration
  split
  · exact h.refuse hsession _
  · split
    · exact h.refuse hsession _
    · refine h.finish hsession ?_
      intro t outcome hc hu hok
      obtain ⟨passkey, hverify, rfl⟩ := map_eq_ok.mp hok
      obtain ⟨hnonce, hstate⟩ := verifyRegistration_eq_ok hverify
      exact ⟨hnonce, hc, congrArg some hu.symm, hstate⟩

theorem Sound.step (h : Sound webauthn s) {input : Input Credential}
    {t : State Passkey Credential AuthenticationResult} (ht : step webauthn s input = some t) :
    Sound webauthn t := by
  cases input with
  | startPasskeyRegistration session username draw =>
    obtain ⟨hholds, hsome⟩ := Option.ite_none_right_eq_some.mp ht
    exact Option.some.inj hsome ▸ h.startPasskeyRegistration (h.holds hholds) username draw
  | startPasskeyAuthentication session username draw =>
    obtain ⟨hholds, hsome⟩ := Option.ite_none_right_eq_some.mp ht
    exact Option.some.inj hsome ▸ h.startPasskeyAuthentication (h.holds hholds) username draw
  | startAddPasskeyRegistration session caller username draw =>
    obtain ⟨hholds, hsome⟩ := Option.ite_none_right_eq_some.mp ht
    exact Option.some.inj hsome ▸
      h.startAddPasskeyRegistration (h.holds hholds) caller username draw
  | store id =>
    obtain ⟨x, hx, rfl⟩ := Option.map_eq_some_iff.mp ht
    obtain ⟨hmem, rfl⟩ := Table.find?_eq_some.mp hx
    exact h.store hmem
  | finishPasskeyRegistration session nonce credential =>
    obtain ⟨hholds, hsome⟩ := Option.ite_none_right_eq_some.mp ht
    exact Option.some.inj hsome ▸ h.finishPasskeyRegistration (h.holds hholds) nonce credential
  | finishPasskeyAuthentication session nonce credential =>
    obtain ⟨hholds, hsome⟩ := Option.ite_none_right_eq_some.mp ht
    exact Option.some.inj hsome ▸ h.finishPasskeyAuthentication (h.holds hholds) nonce credential
  | finishAddPasskeyRegistration session caller nonce credential =>
    obtain ⟨hholds, hsome⟩ := Option.ite_none_right_eq_some.mp ht
    exact Option.some.inj hsome ▸
      h.finishAddPasskeyRegistration (h.holds hholds) caller nonce credential
  | readUserAuth serial =>
    obtain ⟨x, hx, hread⟩ := Option.bind_eq_some_iff.mp ht
    exact h.readUserAuth (Table.find?_eq_some.mp hx).1 hread
  | write serial =>
    obtain ⟨x, hx, hwrite⟩ := Option.bind_eq_some_iff.mp ht
    exact h.write (Table.find?_eq_some.mp hx).1 hwrite
  | failCommit serial =>
    obtain ⟨x, hx, hfail⟩ := Option.bind_eq_some_iff.mp ht
    exact h.failCommit (Table.find?_eq_some.mp hx).1 hfail
  | failStart id refusal =>
    obtain ⟨x, hx, rfl⟩ := Option.map_eq_some_iff.mp ht
    exact (h.dropStart id).refuse (h.starting x (Table.find?_eq_some.mp hx).1).2 refusal
  | failFinish serial refusal =>
    obtain ⟨x, hx, rfl⟩ := Option.map_eq_some_iff.mp ht
    exact h.failFinish (Table.find?_eq_some.mp hx).1 _
  | abandonStart id =>
    cases ht
    exact h.dropStart id
  | abandonFinish serial =>
    cases ht
    exact h.dropUse serial
  | createUser userId =>
    cases ht
    split
    · exact h
    · exact h.less (fun _ hx => hx) rfl (fun _ hx => hx) rfl (fun _ hx => hx) rfl rfl
  | deleteUser userId | removePasskey userId =>
    cases ht
    exact h.less (fun _ hx => hx) rfl (fun _ hx => hx) rfl
      (fun _ hx => (Table.mem_erase.mp hx).1) rfl rfl

theorem sound_of_exec {inputs : List (Input Credential)}
    (h : exec (step webauthn) initial inputs = some s) : Sound webauthn s :=
  invariant_of_exec (fun _ _ _ hs ht => hs.step ht) Sound.initial h

/-- However the requests of any clients interleave, and whichever of the cookies that were set they
present: a challenge completes at most one request, which brought its nonce and a payload verified
against it; who signs in does so with a payload verified against passkeys that were written for that
user; the cookies that sign a user in, and the rows, come of such requests. -/
theorem completed_once_and_verified {inputs : List (Input Credential)}
    (h : exec (step webauthn) initial inputs = some s) :
    (s.states.completed.map fun x => x.ticket.serial).Nodup ∧
      (∀ x ∈ s.states.completed, x.ticket ∈ s.states.issued ∧ Verified webauthn x ∧
        ∀ state, x.ticket.content.bound.state = .authentication state →
          state.allowed ≠ [] ∧ ∀ passkey ∈ state.allowed,
            ∃ row ∈ s.history, row.userId = x.ticket.content.userId ∧ row.passkey = passkey) ∧
      (∀ session ∈ s.issued, SignedIn s.states.completed session) ∧
      (∀ row ∈ s.passkeys.rows, ∃ x ∈ s.states.completed, Registers x row.userId row.username) := by
  have hsound := sound_of_exec h
  refine ⟨s.states.nodup_completed, ?_, hsound.issued,
    fun row hrow => hsound.history row (hsound.rows row hrow)⟩
  intro x hx
  have hissued := s.states.mem_issued_of_completed hx
  refine ⟨hissued, hsound.completed x hx, ?_⟩
  intro state hstate
  obtain ⟨-, houtcome⟩ := hsound.completed x hx
  have hstarted := hsound.states _ hissued
  unfold Started at hstarted
  rw [hstate] at hstarted houtcome
  refine ⟨?_, hstarted⟩
  split at houtcome
  · obtain ⟨-, registration, hregistration, -⟩ := houtcome
    cases hregistration
  · obtain ⟨-, -, registration, hregistration, -⟩ := houtcome
    cases hregistration
  · obtain ⟨-, authentication, hauthentication, hfinish⟩ := houtcome
    cases hauthentication
    exact webauthn.allowed_ne_nil _ _ _ hfinish

/-- A passkey that answers with itself, to any challenge that allows it. -/
def samplePlatform : Webauthn Nat Nat Nat where
  finishPasskeyRegistration credential _ := some credential
  finishPasskeyAuthentication credential state :=
    if credential ∈ state.allowed then some credential else none
  updateCredential _ _ := none
  allowed_ne_nil credential state result h := by
    obtain ⟨hmem, -⟩ := Option.ite_none_right_eq_some.mp h
    exact List.ne_nil_of_mem hmem

/-- A registration and a sign-in, and the cookie of the sign-in presented once more. -/
def sampleInputs : List (Input Nat) :=
  [.startPasskeyRegistration {} "alice" ⟨⟨7⟩, "first", 1⟩, .store 0,
    .finishPasskeyRegistration { passkeyRegistration := some ("alice", ⟨7⟩) } "first" 5, .write 0,
    .startPasskeyAuthentication {} "alice" ⟨⟨9⟩, "second", 2⟩, .store 1,
    .finishPasskeyAuthentication { passkeyAuthentication := some ⟨7⟩ } "second" 5,
    .readUserAuth 1, .write 1,
    .finishPasskeyAuthentication { passkeyAuthentication := some ⟨7⟩ } "second" 5]

theorem completed_once_and_verified_sample :
    ∃ s, exec (step samplePlatform) initial sampleInputs = some s ∧
      s.states.completed.length = 2 ∧
      (s.states.completed.map fun x => x.ticket.serial).Nodup := by
  have hrun : ((exec (step samplePlatform) initial sampleInputs).map fun s =>
      s.states.completed.length) = some 2 := by decide
  obtain ⟨s, hs, hlength⟩ := Option.map_eq_some_iff.mp hrun
  exact ⟨s, hs, hlength, (completed_once_and_verified hs).1⟩

theorem passkeys_readUserAuth
    {x : Taken (Stored Passkey) (Finish Passkey Credential AuthenticationResult)}
    {t : State Passkey Credential AuthenticationResult} (ht : s.readUserAuth x = some t) :
    t.passkeys = s.passkeys := by
  unfold State.readUserAuth at ht
  split at ht
  · cases ht
    split <;> rfl
  · cases ht

theorem passkeys_finish {c : Ceremony} {userId : UserId} {session : Session}
    {caller : Option UserId} {nonce : String} {credential : Credential}
    {verify : NonceBound Passkey → Except Refusal (Outcome Passkey AuthenticationResult)} :
    (s.finish c userId session caller nonce credential verify).passkeys = s.passkeys := by
  unfold State.finish
  split
  · rfl
  · split <;> rfl

/-- A request that is not at its transaction, and is not to one of the routes that delete, leaves
the rows. -/
theorem passkeys_step {input : Input Credential}
    {t : State Passkey Credential AuthenticationResult} (ht : step webauthn s input = some t)
    (hwrite : ∀ serial, input ≠ .write serial) (hdelete : ∀ userId, input ≠ .deleteUser userId)
    (hremove : ∀ userId, input ≠ .removePasskey userId) : t.passkeys = s.passkeys := by
  cases input with
  | startPasskeyRegistration session username draw
  | startPasskeyAuthentication session username draw =>
    obtain ⟨-, hsome⟩ := Option.ite_none_right_eq_some.mp ht
    cases hsome
    rfl
  | startAddPasskeyRegistration session caller username draw =>
    obtain ⟨-, hsome⟩ := Option.ite_none_right_eq_some.mp ht
    cases hsome
    unfold State.startAddPasskeyRegistration
    dsimp only
    split
    · rfl
    · split <;> rfl
  | store id =>
    obtain ⟨x, -, rfl⟩ := Option.map_eq_some_iff.mp ht
    rfl
  | finishPasskeyRegistration session nonce credential =>
    obtain ⟨-, hsome⟩ := Option.ite_none_right_eq_some.mp ht
    cases hsome
    unfold State.finishPasskeyRegistration
    split
    · rfl
    · exact passkeys_finish
  | finishPasskeyAuthentication session nonce credential =>
    obtain ⟨-, hsome⟩ := Option.ite_none_right_eq_some.mp ht
    cases hsome
    unfold State.finishPasskeyAuthentication
    split
    · rfl
    · exact passkeys_finish
  | finishAddPasskeyRegistration session caller nonce credential =>
    obtain ⟨-, hsome⟩ := Option.ite_none_right_eq_some.mp ht
    cases hsome
    unfold State.finishAddPasskeyRegistration
    split
    · rfl
    · split
      · rfl
      · exact passkeys_finish
  | readUserAuth serial =>
    obtain ⟨x, -, hread⟩ := Option.bind_eq_some_iff.mp ht
    exact passkeys_readUserAuth hread
  | write serial => exact absurd rfl (hwrite serial)
  | failCommit serial =>
    obtain ⟨x, -, hfail⟩ := Option.bind_eq_some_iff.mp ht
    obtain ⟨w, -, rfl⟩ := failCommit_eq_some hfail
    rfl
  | failStart id refusal | failFinish serial refusal =>
    obtain ⟨x, -, rfl⟩ := Option.map_eq_some_iff.mp ht
    rfl
  | abandonStart id | abandonFinish serial =>
    cases ht
    rfl
  | createUser userId =>
    cases ht
    split <;> rfl
  | deleteUser userId => exact absurd rfl (hdelete userId)
  | removePasskey userId => exact absurd rfl (hremove userId)

/-- What a finish request `x` may make of the row of its user: it gives the user it creates, or its
caller, a passkey where there is none. A sign-in changes none. -/
def Permits (s : State Passkey Credential AuthenticationResult)
    (x : Taken (Stored Passkey) (Finish Passkey Credential AuthenticationResult))
    (row : Option (PasskeyUserAuth Passkey)) : Prop :=
  let userId := x.ticket.content.userId
  match x.use.outcome with
  | .registered username passkey =>
    userId ∉ s.users ∧ s.passkeys.find? userId = none ∧ row = some ⟨userId, username, passkey⟩
  | .added username passkey =>
    x.use.caller = some userId ∧ s.passkeys.find? userId = none ∧
      row = some ⟨userId, username, passkey⟩
  | .authenticated _ => False

/-- A passkey changes at the hands of a request that may change it, and a sign-in is refused where
the library has changed the passkey that it has read. -/
structure PasskeysGuarded (webauthn : Webauthn Passkey Credential AuthenticationResult)
    (s : State Passkey Credential AuthenticationResult) (input : Input Credential)
    (t : State Passkey Credential AuthenticationResult) : Prop where
  changed : ∀ userId, t.passkeys.find? userId ≠ s.passkeys.find? userId →
    input = .deleteUser userId ∨ input = .removePasskey userId ∨
      ∃ serial x, input = .write serial ∧ s.states.taken.find? serial = some x ∧
        x.ticket.content.userId = userId ∧ Permits s x (t.passkeys.find? userId)
  refused : ∀ serial x result passkey, input = .write serial →
    s.states.taken.find? serial = some x → x.use.outcome = .authenticated result →
    s.found.lookup serial = some passkey → webauthn.updateCredential passkey result ≠ none →
      ∃ refusal, t = s.failFinish x refusal

/-- The table with the row, its user's only one. -/
theorem createUserAuth_eq_ok {row : PasskeyUserAuth Passkey}
    {t : State Passkey Credential AuthenticationResult} (h : s.createUserAuth row = .ok t) :
    s.passkeys.find? row.userId = none ∧ t.passkeys = s.passkeys.put row := by
  unfold State.createUserAuth at h
  split at h
  · cases h
  · split at h
    · cases h
    · next hnone =>
      cases h
      exact ⟨Option.not_isSome_iff_eq_none.mp hnone, rfl⟩

theorem find?_put_ne {a : PasskeyUserAuth Passkey} {userId : UserId}
    (h : (s.passkeys.put a).find? userId ≠ s.passkeys.find? userId) :
    userId = a.userId ∧ (s.passkeys.put a).find? userId = some a := by
  rw [Table.find?_put] at h ⊢
  split at h
  · next huser => exact ⟨huser, if_pos huser⟩
  · exact absurd rfl h

theorem find?_erase_ne {deleted userId : UserId}
    (h : (s.passkeys.erase deleted).find? userId ≠ s.passkeys.find? userId) : userId = deleted := by
  by_contra hother
  exact h (Table.find?_erase.trans (if_neg hother))

theorem passkeys_settle
    {x : Taken (Stored Passkey) (Finish Passkey Credential AuthenticationResult)}
    {written : Except Refusal (State Passkey Credential AuthenticationResult)} {session : Session} :
    (s.settle x written session).passkeys = s.passkeys ∨
      ∃ t, written = .ok t ∧ (s.settle x written session).passkeys = t.passkeys := by
  cases written with
  | error refusal => exact .inl rfl
  | ok t => exact .inr ⟨t, rfl, rfl⟩

theorem permits_write (h : Sound webauthn s)
    {x : Taken (Stored Passkey) (Finish Passkey Credential AuthenticationResult)}
    {t : State Passkey Credential AuthenticationResult} (hx : x ∈ s.states.taken.rows)
    (ht : s.write webauthn x = some t) {userId : UserId}
    (hne : t.passkeys.find? userId ≠ s.passkeys.find? userId) :
    x.ticket.content.userId = userId ∧ Permits s x (t.passkeys.find? userId) := by
  obtain ⟨-, hverified⟩ := (h.taken x hx).1
  obtain ⟨w, hw, rfl⟩ := Option.map_eq_some_iff.mp ht
  rcases passkeys_settle (s := s) (x := x) with hsame | ⟨t, hok, hpasskeys⟩
  · rw [hsame] at hne
    exact absurd rfl hne
  · rw [hpasskeys] at hne ⊢
    unfold State.written at hw
    unfold Permits
    cases hout : x.use.outcome with
    | registered username passkey =>
      rw [hout] at hw
      cases hw
      unfold State.createUser at hok
      split at hok
      · cases hok
      · next hnew =>
        obtain ⟨hnone, hput⟩ :=
          createUserAuth_eq_ok (s := { s with users := x.ticket.content.userId :: s.users }) hok
        rw [hput] at hne ⊢
        obtain ⟨rfl, hrow⟩ := find?_put_ne hne
        exact ⟨rfl, fun hmem => hnew (List.contains_iff_mem.mpr hmem), hnone, hrow⟩
    | added username passkey =>
      rw [hout] at hw hverified
      cases hw
      unfold State.addUserAuth at hok
      split at hok
      · obtain ⟨hnone, hput⟩ := createUserAuth_eq_ok hok
        rw [hput] at hne ⊢
        obtain ⟨rfl, hrow⟩ := find?_put_ne hne
        exact ⟨rfl, hverified.2.1, hnone, hrow⟩
      · cases hok
    | authenticated result =>
      rw [hout] at hw
      obtain ⟨passkey, -, rfl⟩ := Option.map_eq_some_iff.mp hw
      obtain ⟨rfl, -⟩ := authenticate_eq_ok hok
      exact absurd rfl hne

/-- The passkey that the library has changed cannot be written. -/
theorem refused_write
    {x : Taken (Stored Passkey) (Finish Passkey Credential AuthenticationResult)}
    {t : State Passkey Credential AuthenticationResult} {result : AuthenticationResult}
    {passkey : Passkey} (hout : x.use.outcome = .authenticated result)
    (hfound : s.found.lookup x.ticket.serial = some passkey)
    (hchanged : webauthn.updateCredential passkey result ≠ none)
    (ht : s.write webauthn x = some t) : ∃ refusal, t = s.failFinish x refusal := by
  obtain ⟨w, hw, rfl⟩ := Option.map_eq_some_iff.mp ht
  unfold State.written at hw
  rw [hout] at hw
  obtain ⟨passkey', hfound', rfl⟩ := Option.map_eq_some_iff.mp hw
  have hsame : passkey' = passkey := Option.some.inj (hfound'.symm.trans hfound)
  subst hsame
  dsimp only
  cases hwritten : s.authenticate webauthn x.ticket.content.userId passkey' result with
  | error refusal => exact ⟨refusal, rfl⟩
  | ok u => exact absurd (authenticate_eq_ok hwritten).2 hchanged

theorem passkeysGuarded_step (h : Sound webauthn s) {input : Input Credential}
    {t : State Passkey Credential AuthenticationResult} (ht : step webauthn s input = some t) :
    PasskeysGuarded webauthn s input t := by
  constructor
  · intro userId hne
    by_cases hwrite : ∃ serial, input = .write serial
    · obtain ⟨serial, rfl⟩ := hwrite
      obtain ⟨x, hx, hwrite⟩ := Option.bind_eq_some_iff.mp ht
      obtain ⟨huser, hpermits⟩ := permits_write h (Table.find?_eq_some.mp hx).1 hwrite hne
      exact .inr (.inr ⟨serial, x, rfl, hx, huser, hpermits⟩)
    by_cases hdelete : ∃ userId, input = .deleteUser userId
    · obtain ⟨deleted, rfl⟩ := hdelete
      cases ht
      exact .inl (by rw [find?_erase_ne hne])
    by_cases hremove : ∃ userId, input = .removePasskey userId
    · obtain ⟨removed, rfl⟩ := hremove
      cases ht
      exact .inr (.inl (by rw [find?_erase_ne hne]))
    · have hsame := passkeys_step ht (fun serial hi => hwrite ⟨serial, hi⟩)
        (fun userId hi => hdelete ⟨userId, hi⟩) (fun userId hi => hremove ⟨userId, hi⟩)
      rw [hsame] at hne
      exact absurd rfl hne
  · rintro serial x result passkey rfl hx hout hfound hchanged
    obtain ⟨x', hx', hwrite⟩ := Option.bind_eq_some_iff.mp ht
    have hsame : x' = x := Option.some.inj (hx'.symm.trans hx)
    subst hsame
    rw [← (Table.find?_eq_some.mp hx).2] at hfound
    exact refused_write hout hfound hchanged hwrite

/-- No registration touches an account that is there, no addition one that is not its caller's, no
request replaces a passkey, and none signs in where one would have to be replaced, whatever the
other requests do meanwhile. -/
theorem passkeys_guarded {inputs : List (Input Credential)}
    (h : Possible (step webauthn) initial inputs) :
    Along (step webauthn) (PasskeysGuarded webauthn) initial inputs :=
  Along.of_invariant (I := Sound webauthn) (fun _ _ _ hs ht _ => hs.step ht)
    (fun _ _ _ hs ht _ => passkeysGuarded_step hs ht) Sound.initial h

theorem passkeys_guarded_sample :
    Possible (step samplePlatform) initial sampleInputs ∧
      Along (step samplePlatform) (PasskeysGuarded samplePlatform) initial sampleInputs := by
  have hrun : Possible (step samplePlatform) initial sampleInputs := by decide
  exact ⟨hrun, passkeys_guarded hrun⟩

/-- The Redis key that a step sets or takes. -/
def touched (s : State Passkey Credential AuthenticationResult) : Input Credential → Option String
  | .store id => (s.starting.find? id).map fun x => x.stored.key
  | .finishPasskeyRegistration session _ _ =>
    session.passkeyRegistration.map fun p => Ceremony.passkeyRegistration.redisKey p.2
  | .finishPasskeyAuthentication session _ _ =>
    session.passkeyAuthentication.map Ceremony.passkeyAuthentication.redisKey
  | .finishAddPasskeyRegistration session caller _ _ =>
    (session.addPasskeyRegistration.filter fun p => decide (p.2 = caller)).map fun _ =>
      Ceremony.addPasskeyRegistration.redisKey caller
  | _ => none

/-- What a step that sets or takes a key leaves under it: nothing, or a state that was not there. -/
def Renewed (s t : State Passkey Credential AuthenticationResult) (key : String) : Prop :=
  t.states.slots.find? key = none ∨ ∃ stored, t.states.slots.find? key = some (s.states.next stored)

/-- What a step does to a key. -/
structure Slot (s t : State Passkey Credential AuthenticationResult) (touches : Option String)
    (key : String) : Prop where
  issued : s.states.issued.length ≤ t.states.issued.length
  touched : touches = some key → Renewed s t key
  untouched : touches ≠ some key → t.states.slots.find? key = s.states.slots.find? key

theorem Slot.same {t : State Passkey Credential AuthenticationResult} {key : String}
    (h : t.states = s.states) : Slot s t none key := by
  refine ⟨?_, nofun, fun _ => ?_⟩
  · rw [h]
  · rw [h]

theorem slot_finish {c : Ceremony} {userId : UserId} {session : Session}
    {caller : Option UserId} {nonce : String} {credential : Credential}
    {verify : NonceBound Passkey → Except Refusal (Outcome Passkey AuthenticationResult)}
    (key : String) :
    Slot s (s.finish c userId session caller nonce credential verify) (some (c.redisKey userId))
      key := by
  -- whatever the handler makes of the blob, its slot is empty
  have hslots : (s.finish c userId session caller nonce credential verify).states.issued =
        s.states.issued ∧
      ∀ k, (s.finish c userId session caller nonce credential verify).states.slots.find? k =
        if k = c.redisKey userId then none else s.states.slots.find? k := by
    unfold State.finish
    split
    · next hnone =>
      refine ⟨rfl, fun k => ?_⟩
      split
      · next hk => exact hk ▸ hnone
      · rfl
    · next ticket hticket =>
      split
      · exact ⟨rfl, fun k => Table.find?_erase⟩
      · next outcome hok =>
        obtain ⟨hissued, hslots, -, -⟩ := OneTime.take_of_find
          (u := (⟨session, caller, nonce, credential, outcome⟩ :
            Finish Passkey Credential AuthenticationResult)) hticket
        refine ⟨hissued, fun k => ?_⟩
        dsimp only
        rw [hslots]
        exact Table.find?_erase
  obtain ⟨hissued, hfind⟩ := hslots
  refine ⟨(congrArg List.length hissued).ge, ?_, ?_⟩
  · rintro ⟨⟩
    exact .inl ((hfind _).trans (if_pos rfl))
  · intro hother
    exact (hfind key).trans (if_neg fun hkey => hother (congrArg some hkey.symm))

theorem states_settle
    {x : Taken (Stored Passkey) (Finish Passkey Credential AuthenticationResult)}
    {written : Except Refusal (State Passkey Credential AuthenticationResult)} {session : Session}
    (hx : x ∈ s.states.taken.rows) (hwritten : ∀ t, written = .ok t → t.states = s.states) :
    (s.settle x written session).states.issued = s.states.issued ∧
      (s.settle x written session).states.slots = s.states.slots := by
  cases written with
  | error refusal => exact ⟨rfl, rfl⟩
  | ok t =>
    obtain ⟨hissued, hslots, -, -⟩ :=
      OneTime.complete_of_find (Table.find?_eq_some.mpr ⟨hx, rfl⟩)
    have hstates := hwritten t rfl
    unfold State.settle
    dsimp only
    rw [hstates]
    exact ⟨hissued, hslots⟩

theorem Slot.of_states {t : State Passkey Credential AuthenticationResult} {key : String}
    (h : t.states.issued = s.states.issued ∧ t.states.slots = s.states.slots) :
    Slot s t none key :=
  ⟨(congrArg List.length h.1).ge, nofun, fun _ => by rw [h.2]⟩

theorem slot_step {input : Input Credential} {t : State Passkey Credential AuthenticationResult}
    (ht : step webauthn s input = some t) (key : String) : Slot s t (touched s input) key := by
  cases input with
  | startPasskeyRegistration session username draw
  | startPasskeyAuthentication session username draw =>
    obtain ⟨-, hsome⟩ := Option.ite_none_right_eq_some.mp ht
    cases hsome
    exact .same rfl
  | startAddPasskeyRegistration session caller username draw =>
    obtain ⟨-, hsome⟩ := Option.ite_none_right_eq_some.mp ht
    cases hsome
    unfold State.startAddPasskeyRegistration
    dsimp only
    split
    · exact .same rfl
    · split <;> exact .same rfl
  | store id =>
    obtain ⟨x, hx, rfl⟩ := Option.map_eq_some_iff.mp ht
    have hfind : (s.states.put x.stored).slots.find? key =
        if key = x.stored.key then some (s.states.next x.stored) else s.states.slots.find? key :=
      Table.find?_put
    rw [touched, hx]
    refine ⟨Nat.le_succ _, ?_, ?_⟩
    · rintro ⟨⟩
      exact .inr ⟨x.stored, hfind.trans (if_pos rfl)⟩
    · intro hother
      exact hfind.trans (if_neg fun hkey => hother (congrArg some hkey.symm))
  | finishPasskeyRegistration session nonce credential =>
    obtain ⟨-, hsome⟩ := Option.ite_none_right_eq_some.mp ht
    cases hsome
    unfold State.finishPasskeyRegistration
    split
    · next hnone =>
      rw [touched, hnone]
      exact .same rfl
    · next hsession =>
      rw [touched, hsession]
      exact slot_finish key
  | finishPasskeyAuthentication session nonce credential =>
    obtain ⟨-, hsome⟩ := Option.ite_none_right_eq_some.mp ht
    cases hsome
    unfold State.finishPasskeyAuthentication
    split
    · next hnone =>
      rw [touched, hnone]
      exact .same rfl
    · next hsession =>
      rw [touched, hsession]
      exact slot_finish key
  | finishAddPasskeyRegistration session caller nonce credential =>
    obtain ⟨-, hsome⟩ := Option.ite_none_right_eq_some.mp ht
    cases hsome
    unfold State.finishAddPasskeyRegistration
    split
    · next hnone =>
      rw [touched, hnone]
      exact .same rfl
    · next hsession =>
      rw [touched, hsession]
      split
      · next hcaller =>
        rw [Option.filter_some, if_neg (by simpa using hcaller)]
        exact .same rfl
      · next hcaller =>
        rw [Option.filter_some, if_pos (by simpa using hcaller)]
        exact slot_finish key
  | readUserAuth serial =>
    obtain ⟨x, -, hread⟩ := Option.bind_eq_some_iff.mp ht
    unfold State.readUserAuth at hread
    split at hread
    · cases hread
      split
      · exact .same rfl
      · exact .of_states ⟨rfl, rfl⟩
    · cases hread
  | write serial =>
    obtain ⟨x, hx, hwrite⟩ := Option.bind_eq_some_iff.mp ht
    obtain ⟨w, hw, rfl⟩ := Option.map_eq_some_iff.mp hwrite
    have hstates : ∀ u, w.1 = .ok u → u.states = s.states :=
      fun u hu => ((written_spec hw).1 u hu).2.1
    exact .of_states (states_settle (Table.find?_eq_some.mp hx).1 hstates)
  | failCommit serial =>
    obtain ⟨x, hx, hfail⟩ := Option.bind_eq_some_iff.mp ht
    obtain ⟨w, -, rfl⟩ := failCommit_eq_some hfail
    have hstates : ∀ u, (Except.ok s : Except Refusal _) = .ok u → u.states = s.states := by
      rintro _ ⟨⟩
      rfl
    exact .of_states (states_settle (Table.find?_eq_some.mp hx).1 hstates)
  | failStart id refusal =>
    obtain ⟨x, -, rfl⟩ := Option.map_eq_some_iff.mp ht
    exact .same rfl
  | failFinish serial refusal =>
    obtain ⟨x, -, rfl⟩ := Option.map_eq_some_iff.mp ht
    exact .of_states ⟨rfl, rfl⟩
  | abandonStart id | deleteUser userId | removePasskey userId =>
    cases ht
    exact .same rfl
  | abandonFinish serial =>
    cases ht
    exact .of_states ⟨rfl, rfl⟩
  | createUser userId =>
    cases ht
    split <;> exact .same rfl

/-- A state that has left its key does not come back to it. -/
theorem gone_of_exec {key : String} {ticket : Ticket (Stored Passkey)}
    {t : State Passkey Credential AuthenticationResult} {inputs : List (Input Credential)}
    (hold : ticket.serial < s.states.issued.length)
    (hgone : s.states.slots.find? key ≠ some ticket)
    (ht : exec (step webauthn) s inputs = some t) : t.states.slots.find? key ≠ some ticket := by
  induction inputs generalizing s with
  | nil => cases ht; exact hgone
  | cons input rest ih =>
    obtain ⟨u, hu, hrest⟩ := Option.bind_eq_some_iff.mp ht
    have hslot := slot_step hu key
    refine ih (Nat.lt_of_lt_of_le hold hslot.issued) ?_ hrest
    by_cases htouched : touched s input = some key
    · rcases hslot.touched htouched with hnone | ⟨stored, hnew⟩
      · rw [hnone]
        exact nofun
      · rw [hnew]
        rintro ⟨⟩
        exact Nat.lt_irrefl _ hold
    · rw [hslot.untouched htouched]
      exact hgone

/-- The state of a ceremony can be taken for as long as no other start of its ceremony for its user
is stored and no finish of it for its user comes: then it is lost, and no time limit ends it. -/
theorem takeable_iff_untouched {inputs : List (Input Credential)} {key : String}
    {ticket : Ticket (Stored Passkey)} {t : State Passkey Credential AuthenticationResult}
    (hticket : s.states.slots.find? key = some ticket)
    (ht : exec (step webauthn) s inputs = some t) :
    t.states.slots.find? key = some ticket ↔
      Along (step webauthn) (fun s input _ => touched s input ≠ some key) s inputs := by
  have hold := s.states.lt_of_mem_issued
    (s.states.mem_issued_of_slot (Table.find?_eq_some.mp hticket).1)
  induction inputs generalizing s with
  | nil =>
    cases ht
    exact ⟨fun _ => trivial, fun _ => hticket⟩
  | cons input rest ih =>
    obtain ⟨u, hu, hrest⟩ := Option.bind_eq_some_iff.mp ht
    have hslot := slot_step hu key
    have hold' := Nat.lt_of_lt_of_le hold hslot.issued
    by_cases htouched : touched s input = some key
    · constructor
      · intro hkept
        refine absurd hkept (gone_of_exec hold' ?_ hrest)
        rcases hslot.touched htouched with hnone | ⟨stored, hnew⟩
        · rw [hnone]
          exact nofun
        · rw [hnew]
          rintro ⟨⟩
          exact Nat.lt_irrefl _ hold
      · rintro ⟨-, -, hun, -⟩
        exact absurd htouched hun
    · have hkept : u.states.slots.find? key = some ticket :=
        (hslot.untouched htouched).trans hticket
      refine (ih hkept hrest hold').trans ⟨fun hrun => ⟨u, hu, htouched, hrun⟩, ?_⟩
      rintro ⟨v, hv, -, hrun⟩
      rw [hu] at hv
      cases hv
      exact hrun

/-- A second start for the name takes the place of the first. -/
def sampleRestart : List (Input Nat) :=
  [.startPasskeyAuthentication {} "alice" ⟨⟨9⟩, "third", 3⟩, .store 2]

theorem takeable_iff_untouched_sample :
    ∃ (s t : State Nat Nat Nat) (ticket : Ticket (Stored Nat)),
      exec (step samplePlatform) initial (sampleInputs.take 6) = some s ∧
      exec (step samplePlatform) s sampleRestart = some t ∧
      (t.states.slots.find? (Ceremony.passkeyAuthentication.redisKey ⟨7⟩) = some ticket ↔
        Along (step samplePlatform) (fun s input _ =>
          touched s input ≠ some (Ceremony.passkeyAuthentication.redisKey ⟨7⟩)) s sampleRestart) := by
  have hrun : ((exec (step samplePlatform) initial (sampleInputs.take 6)).any fun s =>
      (s.states.slots.find? (Ceremony.passkeyAuthentication.redisKey ⟨7⟩)).isSome &&
        (exec (step samplePlatform) s sampleRestart).isSome) = true := by decide
  obtain ⟨s, hs, hboth⟩ := (Option.any_eq_true _ _).mp hrun
  obtain ⟨hticket, hrestart⟩ := Bool.and_eq_true_iff.mp hboth
  obtain ⟨ticket, hticket⟩ := Option.isSome_iff_exists.mp hticket
  obtain ⟨t, ht⟩ := Option.isSome_iff_exists.mp hrestart
  exact ⟨s, t, ticket, hs, ht, takeable_iff_untouched hticket ht⟩

end Soundness

end UniversalInbox.Passkey
