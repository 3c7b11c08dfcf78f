import UniversalInbox.OAuth2
import UniversalInbox.Library.RowLock
import UniversalInbox.Library.Transition

/-! `exchange_code` requests whose statements interleave. The `DELETE` of a code locks its row; the
checks come after it, and a request that fails one of them is rolled back. -/
namespace UniversalInbox.OAuth2.AuthorizationCodes
open Transition RowLock

abbrev RequestId := Nat

/-- Where a request is: before the `DELETE`; waiting for the row it matched; with the code it has
deleted; with that code checked, at the instant `now`; with the refresh token inserted as well. -/
inductive Phase where
  | started
  | deleting
  | deleted (code : OAuth2AuthorizationCode)
  | checked (code : OAuth2AuthorizationCode) (now : DateTime)
  | minted (code : OAuth2AuthorizationCode) (now : DateTime) (token : OAuth2RefreshToken)
      (response : TokenResponse)
deriving DecidableEq, Repr

def Phase.deleted? : Phase → Option OAuth2AuthorizationCode
  | .deleted code => some code
  | .checked code _ => some code
  | .minted code _ _ _ => some code
  | _ => none

def Phase.inserted? : Phase → Option OAuth2RefreshToken
  | .minted _ _ token _ => some token
  | _ => none

structure Request where
  id : RequestId
  code : String
  clientId : String
  redirectUri : String
  codeVerifier : String
  phase : Phase
deriving DecidableEq, Repr

def Request.locks (request : Request) : List String :=
  (request.phase.deleted?.map (·.code)).toList

/-- An exchange that was committed. -/
structure Exchange where
  request : Request
  code : OAuth2AuthorizationCode
  checkedAt : DateTime
  token : OAuth2RefreshToken
  response : TokenResponse
deriving DecidableEq, Repr

structure Refusal where
  request : RequestId
  error : UniversalInboxError
deriving DecidableEq, Repr

/-- The committed codes and refresh tokens, the open requests, every code as it was created, and
what the requests that are over have come to. -/
structure State where
  codes : Table OAuth2AuthorizationCode.code
  tokens : Table OAuth2RefreshToken.tokenHash
  requests : Table Request.id
  created : List OAuth2AuthorizationCode
  exchanges : List Exchange
  refusals : List Refusal

/-- `authorize` is a consent that commits a new code, drawn at random; `abort` is a request that
ends any other way. -/
inductive Input where
  | authorize (code : OAuth2AuthorizationCode)
  | begin (id : RequestId) (code clientId redirectUri codeVerifier : String)
  | delete (id : RequestId)
  | claim (id : RequestId)
  | check (id : RequestId) (now : DateTime)
  | mint (id : RequestId) (draw : Draw)
  | commit (id : RequestId)
  | abort (id : RequestId)
deriving DecidableEq, Repr

def invalidCode : UniversalInboxError := .invalidInputData "Invalid or expired authorization code"

/-- The checks of `exchange_code` on the code it has deleted, in their order. -/
def checkCode (service : OAuth2Service) (request : Request) (code : OAuth2AuthorizationCode)
    (now : DateTime) : Except UniversalInboxError Unit :=
  if code.expiresAt < now then .error (.invalidInputData "Authorization code has expired")
  else if code.clientId ≠ request.clientId then .error (.invalidInputData "client_id mismatch")
  else if code.redirectUri ≠ request.redirectUri then
    .error (.invalidInputData "redirect_uri mismatch")
  else verifyPkce service request.codeVerifier code.codeChallenge

def setPhase (phase : Phase) (request : Request) : Request := { request with phase }

theorem setPhase_id (phase : Phase) (request : Request) :
    (setPhase phase request).id = request.id := rfl

namespace State

def advance (s : State) (id : RequestId) (phase : Phase) : State :=
  { s with
    requests :=
      s.requests.update (fun x => decide (x.id = id)) (setPhase phase) (setPhase_id phase) }

def close (s : State) (id : RequestId) : State := { s with requests := s.requests.erase id }

/-- The error is returned and the transaction rolled back. -/
def refuse (s : State) (id : RequestId) (error : UniversalInboxError) : State :=
  { s.close id with refusals := ⟨id, error⟩ :: s.refusals }

def locked (s : State) (id : RequestId) (code : String) : Bool :=
  heldByOther Request.locks s.requests id code

def inserting (s : State) (tokenHash : String) : Bool :=
  s.requests.rows.any fun x => x.phase.inserted?.any (·.tokenHash == tokenHash)

end State

def step (service : OAuth2Service) (s : State) : Input → Option State
  | .authorize code =>
    if code.code ∈ s.created.map (·.code) then none
    else (s.codes.insert? code).map fun codes => { s with codes, created := code :: s.created }
  | .begin id code clientId redirectUri codeVerifier =>
    (s.requests.insert? ⟨id, code, clientId, redirectUri, codeVerifier, .started⟩).map fun requests =>
      { s with requests }
  | .delete id =>
    (s.requests.find? id).bind fun x =>
      match x.phase with
      | .started =>
        some (if (s.codes.find? x.code).isSome then s.advance id .deleting
          else s.refuse id invalidCode)
      | _ => none
  | .claim id =>
    (s.requests.find? id).bind fun x =>
      match x.phase with
      | .deleting =>
        if s.locked id x.code then none
        else
          match s.codes.find? x.code with
          | some code => some (s.advance id (.deleted code))
          | none => some (s.refuse id invalidCode)
      | _ => none
  | .check id now =>
    (s.requests.find? id).bind fun x =>
      match x.phase with
      | .deleted code =>
        match checkCode service x code now with
        | .ok () => some (s.advance id (.checked code now))
        | .error error => some (s.refuse id error)
      | _ => none
  | .mint id draw =>
    (s.requests.find? id).bind fun x =>
      match x.phase with
      | .checked code now =>
        let token := newRefreshToken service draw x.clientId code.userId code.scope code.resource
        if (s.tokens.find? token.tokenHash).isNone ∧ !s.inserting token.tokenHash then
          some (s.advance id (.minted code now token
            (tokenResponse service draw x.clientId code.userId code.scope code.resource)))
        else none
      | _ => none
  | .commit id =>
    (s.requests.find? id).bind fun x =>
      match x.phase with
      | .minted code now token response =>
        (s.tokens.insert? token).map fun tokens =>
          { s.close id with
            codes := s.codes.erase code.code
            tokens
            exchanges := ⟨x, code, now, token, response⟩ :: s.exchanges }
      | _ => none
  | .abort id => (s.requests.find? id).map fun x => s.close x.id

/-- Any codes and tokens may be stored when the requests begin. -/
def initial (codes : Table OAuth2AuthorizationCode.code)
    (tokens : Table OAuth2RefreshToken.tokenHash) : State :=
  ⟨codes, tokens, Table.empty, codes.rows, [], []⟩

theorem checkCode_ok {service : OAuth2Service} {request : Request} {code : OAuth2AuthorizationCode}
    {now : DateTime} (h : checkCode service request code now = .ok ()) :
    now ≤ code.expiresAt ∧ code.clientId = request.clientId ∧
      code.redirectUri = request.redirectUri ∧
      service.hashToken request.codeVerifier = code.codeChallenge := by
  unfold checkCode verifyPkce at h
  split at h
  · cases h
  · next hexpired =>
    split at h
    · cases h
    · next hclient =>
      split at h
      · cases h
      · next hredirect =>
        split at h
        · cases h
        · next hpkce =>
          exact ⟨not_lt.mp hexpired, not_not.mp hclient, not_not.mp hredirect, not_not.mp hpkce⟩

/-- A code that passed the checks for the request, at the instant `now`. -/
structure Granted (service : OAuth2Service) (request : Request) (code : OAuth2AuthorizationCode)
    (now : DateTime) : Prop where
  presented : code.code = request.code
  unexpired : now ≤ code.expiresAt
  clientId : code.clientId = request.clientId
  redirectUri : code.redirectUri = request.redirectUri
  codeVerifier : service.hashToken request.codeVerifier = code.codeChallenge

/-- The two tokens carry the user, the scope and the resource of the code; without a resource the
access token is for the service's own. -/
structure Carries (service : OAuth2Service) (code : OAuth2AuthorizationCode)
    (token : OAuth2RefreshToken) (response : TokenResponse) : Prop where
  refreshToken : token.userId = code.userId ∧ token.scope = code.scope ∧
    token.resource = code.resource ∧ token.clientId = code.clientId
  returned : token.tokenHash = service.hashToken response.refreshToken
  accessToken : response.accessToken.sub = code.userId ∧
    response.accessToken.scope = code.scope.getD "" ∧
    response.accessToken.aud = code.resource.getD service.resourceUrl ∧
    response.accessToken.clientId = code.clientId
  scope : response.scope = code.scope.getD ""

/-- The next phase of a request whose statement leaves the committed rows alone. -/
inductive Advances (service : OAuth2Service) (s : State) (x : Request) : Phase → Prop
  | deleting : x.phase = .started → Advances service s x .deleting
  | deleted {code : OAuth2AuthorizationCode} : x.phase = .deleting →
      s.locked x.id code.code = false → code.code = x.code →
      s.codes.find? code.code = some code → Advances service s x (.deleted code)
  | checked {code : OAuth2AuthorizationCode} {now : DateTime} : x.phase = .deleted code →
      checkCode service x code now = .ok () → Advances service s x (.checked code now)
  | minted {code : OAuth2AuthorizationCode} {now : DateTime} (draw : Draw) :
      x.phase = .checked code now →
      Advances service s x (.minted code now
        (newRefreshToken service draw x.clientId code.userId code.scope code.resource)
        (tokenResponse service draw x.clientId code.userId code.scope code.resource))

/-- What a step can do. -/
inductive Effect (service : OAuth2Service) (s : State) : State → Prop
  | authorize {code : OAuth2AuthorizationCode} {codes : Table OAuth2AuthorizationCode.code} :
      code.code ∉ s.created.map (·.code) → s.codes.insert? code = some codes →
      Effect service s { s with codes, created := code :: s.created }
  | begin {x : Request} {requests : Table Request.id} : x.phase = .started →
      s.requests.insert? x = some requests → Effect service s { s with requests }
  | advance {x : Request} {phase : Phase} : x ∈ s.requests.rows → Advances service s x phase →
      Effect service s (s.advance x.id phase)
  | commit {x : Request} {code : OAuth2AuthorizationCode} {now : DateTime}
      {token : OAuth2RefreshToken} {response : TokenResponse}
      {tokens : Table OAuth2RefreshToken.tokenHash} : x ∈ s.requests.rows →
      x.phase = .minted code now token response → s.tokens.insert? token = some tokens →
      Effect service s { s.close x.id with
        codes := s.codes.erase code.code
        tokens
        exchanges := ⟨x, code, now, token, response⟩ :: s.exchanges }
  | close {x : Request} (refusals : List Refusal) : x ∈ s.requests.rows →
      Effect service s { s.close x.id with refusals }

section Run
variable {service : OAuth2Service} {s t : State} {i : Input} {x y : Request}

theorem effect_of_step (h : step service s i = some t) : Effect service s t := by
  cases i with
  | authorize code =>
    simp only [step] at h
    split at h
    · cases h
    · next hnew =>
      obtain ⟨codes, hinsert, rfl⟩ := Option.map_eq_some_iff.mp h
      exact .authorize hnew hinsert
  | begin id code clientId redirectUri codeVerifier =>
    obtain ⟨requests, hinsert, rfl⟩ := Option.map_eq_some_iff.mp h
    exact .begin rfl hinsert
  | delete id =>
    obtain ⟨x, hx, rfl, hthen⟩ := Table.find?_bind_eq_some.mp h
    split at hthen
    · next hphase =>
      cases hthen
      split
      · exact .advance hx (.deleting hphase)
      · exact .close _ hx
    · cases hthen
  | claim id =>
    obtain ⟨x, hx, rfl, hthen⟩ := Table.find?_bind_eq_some.mp h
    split at hthen
    · next hphase =>
      split at hthen
      · cases hthen
      · next hfree =>
        split at hthen
        · next code hcode =>
          cases hthen
          have hsame := (Table.find?_eq_some.mp hcode).2
          exact .advance hx (.deleted hphase (by rw [hsame]; exact Bool.eq_false_iff.mpr hfree)
            hsame (by rw [hsame]; exact hcode))
        · cases hthen
          exact .close _ hx
    · cases hthen
  | check id now =>
    obtain ⟨x, hx, rfl, hthen⟩ := Table.find?_bind_eq_some.mp h
    split at hthen
    · next hphase =>
      split at hthen
      · next hcheck =>
        cases hthen
        exact .advance hx (.checked hphase hcheck)
      · cases hthen
        exact .close _ hx
    · cases hthen
  | mint id draw =>
    obtain ⟨x, hx, rfl, hthen⟩ := Table.find?_bind_eq_some.mp h
    split at hthen
    · next hphase =>
      simp only [Option.ite_none_right_eq_some, Option.some.injEq] at hthen
      obtain ⟨-, rfl⟩ := hthen
      exact .advance hx (.minted draw hphase)
    · cases hthen
  | commit id =>
    obtain ⟨x, hx, rfl, hthen⟩ := Table.find?_bind_eq_some.mp h
    split at hthen
    · next hphase =>
      obtain ⟨tokens, hinsert, rfl⟩ := Option.map_eq_some_iff.mp hthen
      exact .commit hx hphase hinsert
    · cases hthen
  | abort id =>
    obtain ⟨x, hfind, rfl⟩ := Option.map_eq_some_iff.mp h
    exact .close _ (Table.find?_eq_some.mp hfind).1

/-- The code and the instant of the checks. -/
def Phase.checked? : Phase → Option (OAuth2AuthorizationCode × DateTime)
  | .checked code now => some (code, now)
  | .minted code now _ _ => some (code, now)
  | _ => none

/-- Only a consent creates codes, and only the checks let a request past them. -/
structure Past (s t : State) (i : Input) : Prop where
  created : t.created = s.created
  checked : ∀ y ∈ t.requests.rows, ∀ checked ∈ y.phase.checked?,
    (∃ x ∈ s.requests.rows, checked ∈ x.phase.checked?) ∨ ∃ id, i = .check id checked.2

theorem past_advance {id : RequestId} {phase : Phase} (hchecked : ∀ checked ∈ phase.checked?,
    (∃ x ∈ s.requests.rows, checked ∈ x.phase.checked?) ∨ ∃ id, i = .check id checked.2) :
    Past s (s.advance id phase) i := by
  refine ⟨rfl, fun y hy checked hin => ?_⟩
  obtain ⟨x, hx, rfl⟩ := (Table.mem_update (e := setPhase_id phase)).mp hy
  split at hin
  · exact hchecked checked hin
  · exact .inl ⟨x, hx, hin⟩

theorem past_close {id : RequestId} {codes : Table OAuth2AuthorizationCode.code}
    {tokens : Table OAuth2RefreshToken.tokenHash} {exchanges : List Exchange}
    {refusals : List Refusal} :
    Past s { s.close id with codes, tokens, exchanges, refusals } i :=
  ⟨rfl, fun y hy _ hin => .inl ⟨y, (Table.mem_erase.mp hy).1, hin⟩⟩

theorem past_of_step (h : step service s i = some t) (hi : ∀ code, i ≠ .authorize code) :
    Past s t i := by
  cases i with
  | authorize code => exact absurd rfl (hi code)
  | begin id code clientId redirectUri codeVerifier =>
    obtain ⟨requests, hinsert, rfl⟩ := Option.map_eq_some_iff.mp h
    refine ⟨rfl, fun y hy checked hin => ?_⟩
    rw [(Table.insert?_eq_some.mp hinsert).2, List.mem_append, List.mem_singleton] at hy
    rcases hy with hy | rfl
    · exact .inl ⟨y, hy, hin⟩
    · cases hin
  | delete id =>
    obtain ⟨x, -, hthen⟩ := Option.bind_eq_some_iff.mp h
    split at hthen
    · cases hthen
      split
      · exact past_advance fun _ hin => by cases hin
      · exact past_close
    · cases hthen
  | claim id =>
    obtain ⟨x, -, hthen⟩ := Option.bind_eq_some_iff.mp h
    split at hthen
    · split at hthen
      · cases hthen
      · split at hthen
        · cases hthen
          exact past_advance fun _ hin => by cases hin
        · cases hthen
          exact past_close
    · cases hthen
  | check id now =>
    obtain ⟨x, -, hthen⟩ := Option.bind_eq_some_iff.mp h
    split at hthen
    · split at hthen
      · cases hthen
        refine past_advance fun _ hin => ?_
        cases hin
        exact .inr ⟨id, rfl⟩
      · cases hthen
        exact past_close
    · cases hthen
  | mint id draw =>
    obtain ⟨x, hfind, hthen⟩ := Option.bind_eq_some_iff.mp h
    split at hthen
    · next hphase =>
      simp only [Option.ite_none_right_eq_some, Option.some.injEq] at hthen
      obtain ⟨-, rfl⟩ := hthen
      refine past_advance fun _ hin => ?_
      cases hin
      exact .inl ⟨x, (Table.find?_eq_some.mp hfind).1, by rw [hphase]; rfl⟩
    · cases hthen
  | commit id =>
    obtain ⟨x, -, hthen⟩ := Option.bind_eq_some_iff.mp h
    split at hthen
    · obtain ⟨tokens, -, rfl⟩ := Option.map_eq_some_iff.mp hthen
      exact past_close
    · cases hthen
  | abort id =>
    obtain ⟨x, -, rfl⟩ := Option.map_eq_some_iff.mp h
    exact past_close

/-- A committed exchange: of a code as it was created, which is gone. -/
structure Exchanged (service : OAuth2Service) (s : State) (e : Exchange) : Prop where
  granted : Granted service e.request e.code e.checkedAt
  carries : Carries service e.code e.token e.response
  created : e.code ∈ s.created
  gone : s.codes.find? e.code.code = none

structure Inv (service : OAuth2Service) (s : State) : Prop where
  exclusive : Exclusive Request.locks s.requests
  held : ∀ x ∈ s.requests.rows, ∀ code ∈ x.phase.deleted?,
    code.code = x.code ∧ s.codes.find? code.code = some code
  granted : ∀ x ∈ s.requests.rows, ∀ checked ∈ x.phase.checked?,
    Granted service x checked.1 checked.2
  carries : ∀ x ∈ s.requests.rows, ∀ code now token response,
    x.phase = .minted code now token response → Carries service code token response
  created : ∀ code ∈ s.codes.rows, code ∈ s.created
  exchanged : ∀ e ∈ s.exchanges, Exchanged service s e
  once : (s.exchanges.map (·.code.code)).Nodup

theorem mem_locks {k : String} : k ∈ x.locks ↔ ∃ code ∈ x.phase.deleted?, code.code = k := by
  unfold Request.locks
  rw [Option.mem_toList, Option.map_eq_some_iff]
  rfl

theorem mem_advance {phase : Phase} (hx : x ∈ s.requests.rows) :
    y ∈ (s.advance x.id phase).requests.rows ↔
      y = setPhase phase x ∨ y ∈ s.requests.rows ∧ y.id ≠ x.id :=
  mem_update_session (e := setPhase_id phase) hx

theorem Granted.setPhase {code : OAuth2AuthorizationCode} {now : DateTime}
    (h : Granted service x code now) (phase : Phase) :
    Granted service (setPhase phase x) code now :=
  ⟨h.presented, h.unexpired, h.clientId, h.redirectUri, h.codeVerifier⟩

theorem carries_minted {draw : Draw} {clientId : String} {code : OAuth2AuthorizationCode}
    (hclient : code.clientId = clientId) :
    Carries service code (newRefreshToken service draw clientId code.userId code.scope code.resource)
      (tokenResponse service draw clientId code.userId code.scope code.resource) :=
  ⟨⟨rfl, rfl, rfl, hclient.symm⟩, rfl, ⟨rfl, rfl, rfl, hclient.symm⟩, rfl⟩

/-- A request that advances: what it locks is stored, and it advances only past its checks. -/
theorem Inv.advances (h : Inv service s) (hx : x ∈ s.requests.rows) {phase : Phase}
    (hadvances : Advances service s x phase) : Inv service (s.advance x.id phase) := by
  have hfree : ∀ code ∈ phase.deleted?, (code ∈ x.phase.deleted? ∨ s.locked x.id code.code = false) ∧
      code.code = x.code ∧ s.codes.find? code.code = some code := by
    intro code hcode
    cases hadvances with
    | deleting => cases hcode
    | deleted hphase hunlocked hsame hfind =>
      cases hcode
      exact ⟨.inr hunlocked, hsame, hfind⟩
    | checked hphase =>
      cases hcode
      have hdeleted : code ∈ x.phase.deleted? := by rw [hphase]; rfl
      exact ⟨.inl hdeleted, h.held x hx code hdeleted⟩
    | minted draw hphase =>
      cases hcode
      have hdeleted : code ∈ x.phase.deleted? := by rw [hphase]; rfl
      exact ⟨.inl hdeleted, h.held x hx code hdeleted⟩
  have hgranted : ∀ checked ∈ phase.checked?, Granted service x checked.1 checked.2 := by
    intro checked hchecked
    cases hadvances with
    | deleting => cases hchecked
    | deleted => cases hchecked
    | @checked code now hphase hcheck =>
      cases hchecked
      obtain ⟨hunexpired, hclient, hredirect, hverifier⟩ := checkCode_ok hcheck
      exact ⟨(h.held x hx code (by rw [hphase]; rfl)).1, hunexpired, hclient, hredirect, hverifier⟩
    | @minted code now draw hphase =>
      cases hchecked
      exact h.granted x hx (code, now) (by rw [hphase]; rfl)
  refine ⟨exclusive_update (e := setPhase_id phase) h.exclusive hx fun k hk => ?_,
    fun y hy => ?_, fun y hy => ?_, fun y hy => ?_, h.created,
    fun e he => ⟨(h.exchanged e he).granted, (h.exchanged e he).carries,
      (h.exchanged e he).created, (h.exchanged e he).gone⟩, h.once⟩
  · obtain ⟨code, hcode, rfl⟩ := mem_locks.mp hk
    exact (hfree code hcode).1.imp_left fun hold => mem_locks.mpr ⟨code, hold, rfl⟩
  · rcases (mem_advance hx).mp hy with rfl | ⟨hy, -⟩
    · exact fun code hcode => (hfree code hcode).2
    · exact h.held y hy
  · rcases (mem_advance hx).mp hy with rfl | ⟨hy, -⟩
    · exact fun checked hchecked => (hgranted checked hchecked).setPhase phase
    · exact h.granted y hy
  · rcases (mem_advance hx).mp hy with rfl | ⟨hy, -⟩
    · intro code now token response hminted
      obtain rfl : phase = .minted code now token response := hminted
      cases hadvances with
      | minted draw hphase =>
        exact carries_minted (h.granted x hx (code, now) (by rw [hphase]; rfl)).clientId
    · exact h.carries y hy

/-- The end of a request: what the others hold is still stored. -/
theorem Inv.close (h : Inv service s) (hx : x ∈ s.requests.rows)
    {codes : Table OAuth2AuthorizationCode.code} {tokens : Table OAuth2RefreshToken.tokenHash}
    {exchanges : List Exchange} {refusals : List Refusal}
    (hframe : ∀ code, code.code ∉ x.locks → s.codes.find? code.code = some code →
      codes.find? code.code = some code)
    (hcreated : ∀ code ∈ codes.rows, code ∈ s.created)
    (hexchanged : ∀ e ∈ exchanges, Exchanged service { s with codes } e)
    (honce : (exchanges.map (·.code.code)).Nodup) :
    Inv service { s.close x.id with codes, tokens, exchanges, refusals } := by
  have hother : ∀ y ∈ s.requests.rows, y.id ≠ x.id → ∀ k ∈ y.locks, k ∉ x.locks :=
    fun y hy hid k hk hk' => hid (congrArg Request.id (h.exclusive y hy x hx k hk hk'))
  refine ⟨exclusive_erase h.exclusive, fun y hy code hcode => ?_,
    fun y hy => h.granted y (Table.mem_erase.mp hy).1,
    fun y hy => h.carries y (Table.mem_erase.mp hy).1, hcreated,
    fun e he => ⟨(hexchanged e he).granted, (hexchanged e he).carries, (hexchanged e he).created,
      (hexchanged e he).gone⟩, honce⟩
  obtain ⟨hy, hid⟩ := Table.mem_erase.mp hy
  obtain ⟨hsame, hfind⟩ := h.held y hy code hcode
  exact ⟨hsame, hframe code (hother y hy hid _ (mem_locks.mpr ⟨code, hcode, rfl⟩)) hfind⟩

theorem Inv.commit (h : Inv service s) (hx : x ∈ s.requests.rows) {code : OAuth2AuthorizationCode}
    {now : DateTime} {token : OAuth2RefreshToken} {response : TokenResponse}
    {tokens : Table OAuth2RefreshToken.tokenHash}
    (hphase : x.phase = .minted code now token response) :
    Inv service { s.close x.id with
      codes := s.codes.erase code.code
      tokens
      exchanges := ⟨x, code, now, token, response⟩ :: s.exchanges } := by
  have hdeleted : code ∈ x.phase.deleted? := by rw [hphase]; rfl
  have hfind := (h.held x hx code hdeleted).2
  have hgone : ∀ k, s.codes.find? k = none → (s.codes.erase code.code).find? k = none := by
    intro k hk
    rw [Table.find?_erase, hk, ite_self]
  refine h.close hx (fun other hother hstored => ?_)
    (fun other hother => h.created other (Table.mem_erase.mp hother).1) (fun e he => ?_) ?_
  · rw [Table.find?_erase, if_neg, hstored]
    rintro hsame
    exact hother (mem_locks.mpr ⟨code, hdeleted, hsame.symm⟩)
  · rcases List.mem_cons.mp he with rfl | he
    · refine ⟨h.granted x hx (code, now) (by rw [hphase]; rfl),
        h.carries x hx code now token response hphase,
        h.created code (Table.find?_eq_some.mp hfind).1, ?_⟩
      rw [Table.find?_erase]
      exact if_pos rfl
    · obtain ⟨hgranted, hcarries, hcreated, hnone⟩ := h.exchanged e he
      exact ⟨hgranted, hcarries, hcreated, hgone _ hnone⟩
  · refine List.nodup_cons.mpr ⟨fun hin => ?_, h.once⟩
    obtain ⟨e, he, hsame⟩ := List.mem_map.mp hin
    have hnone := (h.exchanged e he).gone
    rw [hsame, hfind] at hnone
    cases hnone

/-- A code drawn at random was never created before, so it brings no exchanged code back. -/
theorem Inv.authorize (h : Inv service s) {code : OAuth2AuthorizationCode}
    {codes : Table OAuth2AuthorizationCode.code} (hnew : code.code ∉ s.created.map (·.code))
    (hinsert : s.codes.insert? code = some codes) :
    Inv service { s with codes, created := code :: s.created } := by
  refine ⟨h.exclusive, fun x hx held hheld => ?_, h.granted, h.carries, fun other hother => ?_,
    fun e he => ?_, h.once⟩
  · obtain ⟨hsame, hfind⟩ := h.held x hx held hheld
    exact ⟨hsame, Table.find?_of_insert hinsert hfind⟩
  · rw [(Table.insert?_eq_some.mp hinsert).2, List.mem_append, List.mem_singleton] at hother
    rcases hother with hother | rfl
    · exact List.mem_cons_of_mem _ (h.created other hother)
    · exact List.mem_cons_self
  · obtain ⟨hgranted, hcarries, hcreated, hnone⟩ := h.exchanged e he
    refine ⟨hgranted, hcarries, List.mem_cons_of_mem _ hcreated, ?_⟩
    show codes.find? e.code.code = none
    rw [Table.find?_insert hinsert, if_neg, hnone]
    intro hsame
    exact hnew (List.mem_map.mpr ⟨e.code, hcreated, hsame.symm⟩)

theorem inv_step (h : Inv service s) (hstep : step service s i = some t) : Inv service t := by
  cases effect_of_step hstep with
  | authorize hnew hinsert => exact h.authorize hnew hinsert
  | @begin x requests hphase hinsert =>
    have hmem : ∀ y ∈ requests.rows, y ∈ s.requests.rows ∨ y = x := by
      intro y hy
      rwa [(Table.insert?_eq_some.mp hinsert).2, List.mem_append, List.mem_singleton] at hy
    have hlocks : x.locks = [] := by unfold Request.locks; rw [hphase]; rfl
    refine ⟨exclusive_insert h.exclusive hinsert hlocks, fun y hy code hcode => ?_,
      fun y hy checked hchecked => ?_, fun y hy code now token response hminted => ?_, h.created,
      fun e he => ⟨(h.exchanged e he).granted, (h.exchanged e he).carries,
        (h.exchanged e he).created, (h.exchanged e he).gone⟩, h.once⟩
    · rcases hmem y hy with hy | rfl
      · exact h.held y hy code hcode
      · rw [hphase] at hcode
        cases hcode
    · rcases hmem y hy with hy | rfl
      · exact h.granted y hy checked hchecked
      · rw [hphase] at hchecked
        cases hchecked
    · rcases hmem y hy with hy | rfl
      · exact h.carries y hy code now token response hminted
      · cases hphase.symm.trans hminted
  | advance hx hadvances => exact h.advances hx hadvances
  | commit hx hphase hinsert => exact h.commit hx hphase
  | close refusals hx =>
    exact h.close hx (fun _ _ hfind => hfind) h.created h.exchanged h.once

theorem inv_initial (codes : Table OAuth2AuthorizationCode.code)
    (tokens : Table OAuth2RefreshToken.tokenHash) : Inv service (initial codes tokens) :=
  ⟨fun _ hx => absurd hx Table.not_mem_empty, fun _ hx => absurd hx Table.not_mem_empty,
    fun _ hx => absurd hx Table.not_mem_empty, fun _ hx => absurd hx Table.not_mem_empty,
    fun _ hcode => hcode, fun _ he => absurd he List.not_mem_nil, List.nodup_nil⟩

/-- No code is exchanged twice; each exchange is of a code as it was created, which the request
presented before it expired, from its client, for its redirection and with its verifier, and
mints tokens of its user, scope and resource. -/
structure SingleUse (service : OAuth2Service) (s : State) : Prop where
  once : (s.exchanges.map (·.code.code)).Nodup
  created : ∀ e ∈ s.exchanges, e.code ∈ s.created
  granted : ∀ e ∈ s.exchanges, Granted service e.request e.code e.checkedAt
  carries : ∀ e ∈ s.exchanges, Carries service e.code e.token e.response

theorem Inv.singleUse (h : Inv service s) : SingleUse service s :=
  ⟨h.once, fun e he => (h.exchanged e he).created, fun e he => (h.exchanged e he).granted,
    fun e he => (h.exchanged e he).carries⟩

/-- In every order of the statements of any requests, an authorization code is exchanged at most
once, and only by a request that meets every binding of the code. -/
theorem exchange_single_use (service : OAuth2Service) (codes : Table OAuth2AuthorizationCode.code)
    (tokens : Table OAuth2RefreshToken.tokenHash) (inputs : List Input)
    (hrun : Possible (step service) (initial codes tokens) inputs) :
    Along (step service) (fun _ _ t => SingleUse service t) (initial codes tokens) inputs :=
  hrun.of_invariant (I := Inv service) (fun _ _ _ h hstep _ => inv_step h hstep)
    (fun _ _ _ h hstep _ => (inv_step h hstep).singleUse) (inv_initial codes tokens)

end Run

/-- The digests of the two verifiers and of the refresh token of the run below. -/
def sampleDigest : String → String
  | "verifier" => "iMnq5o6zALKXGivsnlom_0F5_WYda32GHkxlV7mq7hQ"
  | "wrong" => "iBCtWB5Z8rw5KLJhcHpxMI9-E56wSCA2bcTVwY2YAiU"
  | "child" => "3cnmaRlCVM7wGaKdNhmiwWWS5dUuGoHpiwG9UjGRSaM"
  | other => other

def sampleService : OAuth2Service := { hashToken := sampleDigest, resourceUrl := "https://inbox/mcp" }

def sampleCode : OAuth2AuthorizationCode :=
  { code := "code", clientId := "client", userId := ⟨0⟩, redirectUri := "https://client/cb",
    scope := some "read", codeChallenge := sampleDigest "verifier", resource := none,
    expiresAt := 60 }

/-- Three requests for one code: the first has the wrong verifier and is rolled back, the second
is granted, and the third, which waited for it, finds the code gone. -/
def competingRequests : List Input :=
  [.authorize sampleCode, .begin 0 "code" "client" "https://client/cb" "wrong", .delete 0,
    .begin 1 "code" "client" "https://client/cb" "verifier", .delete 1,
    .begin 2 "code" "client" "https://client/cb" "verifier", .delete 2, .claim 0, .check 0 10,
    .claim 1, .check 1 12,
    .mint 1 { refreshToken := "child", jti := 0, accessNow := 12, refreshNow := 12 }, .commit 1,
    .claim 2]

theorem competingRequests_single_use :
    Along (step sampleService) (fun _ _ t => SingleUse sampleService t)
      (initial Table.empty Table.empty) competingRequests :=
  exchange_single_use sampleService Table.empty Table.empty competingRequests (by decide)

end UniversalInbox.OAuth2.AuthorizationCodes
