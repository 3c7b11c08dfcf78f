import UniversalInbox.User
import Mathlib.Data.List.DropRight

/-! The way of a request through the middlewares to a handler: the token it is authenticated by, and
which handlers a token with an audience, or one from the session cookie, can reach. -/
namespace UniversalInbox.Pipeline
open User

/-- `utils::jwt::Claims`: the subject is a text, and tokens other than OAuth2 access tokens have no
audience. -/
structure Claims where
  exp : Nat
  iat : Nat
  sub : String
  jti : String
  aud : Option String
  scope : Option String
  clientId : Option String
deriving DecidableEq, Repr

structure Authenticated where
  jwt : String
  claims : Claims
deriving DecidableEq, Repr

inductive Method where
  | get
  | post
  | other (name : String)
deriving DecidableEq, Repr

/-- A header, where it is set: `none` inside when `to_str` fails on it. -/
abbrev Header := Option (Option String)

/-- What the middlewares read of a request: its raw path, and the token of its session cookie. -/
structure Request where
  method : Method
  path : List Char
  origin : Header := none
  authorization : Header := none
  mcpSessionId : Header := none
  mcpProtocolVersion : Header := none
  sessionJwt : Option String := none
deriving DecidableEq, Repr

/-- The scopes of the API, in the order of their registration. -/
inductive ApiScope where
  | auth
  | integrationConnections
  | oauth
  | oauth2
  | notifications
  | tasks
  | users
  | hooks
  | thirdParty
  | slackBridge
  | mcp
deriving DecidableEq, Repr

def ApiScope.path : ApiScope → List Char
  | auth => "/auth".toList
  | integrationConnections => "/integration-connections".toList
  | oauth => "/oauth".toList
  | oauth2 => "/oauth2".toList
  | notifications => "/notifications".toList
  | tasks => "/tasks".toList
  | users => "/users".toList
  | hooks => "/hooks".toList
  | thirdParty => "/third_party".toList
  | slackBridge => "/slack-bridge".toList
  | mcp => "/mcp".toList

def apiScopes : List ApiScope :=
  [.auth, .integrationConnections, .oauth, .oauth2, .notifications, .tasks, .users, .hooks,
    .thirdParty, .slackBridge, .mcp]

/-- `api none` is what the API scope answers where none of its scopes matches. -/
inductive Handler where
  | ping
  | frontConfig
  | oauthCallback
  | protectedResourceMetadata
  | authorizationServerMetadata
  | api (scope : Option ApiScope)
  | staticFiles
deriving DecidableEq, Repr

/-- The settings and what stands for code outside: `requote` is the router's decoding of a path,
which keeps what is before the first percent sign, `decode` the check of a token at the time of the
request, `parseUserId` the reading of a UUID, and `limited` the state of the rate limiter. -/
structure Server where
  apiPath : List Char
  apiPath_plain : '%' ∉ apiPath
  apiPath_slash : apiPath.getLast? = some '/'
  requote : List Char → List Char
  requote_append : ∀ plain rest, '%' ∉ plain → requote (plain ++ rest) = plain ++ requote rest
  decode : String → Except String Claims
  parseUserId : String → Option UserId
  parseUserId_text : ∀ userId, parseUserId (userIdText userId) = some userId
  limited : UserId → Bool
  resourceUrl : String
  allowedOrigins : List String

/-- `ResourceDef::prefix`: matches whole segments, and leaves what follows them. -/
def matchScope (scope path : List Char) : Option (List Char) :=
  (path.dropPrefix? scope).filter fun rest => rest.isEmpty || rest.head? == some '/'

namespace Server
variable (server : Server)

def scopePath : List Char := server.apiPath.rdropWhile (· == '/')

/-- The fixed routes are for `GET`; the guard of a route is that of its resource, so that other
methods are not refused but pass it by. -/
def fixedRoute (method : Method) (path : List Char) : Option Handler :=
  if method ≠ .get then none
  else if path = "/ping".toList then some .ping
  else if path = "/api/front_config".toList then some .frontConfig
  else if path = "/api/oauth/callback".toList then some .oauthCallback
  else if path = "/.well-known/oauth-protected-resource".toList ∨
      path = "/.well-known/oauth-protected-resource".toList ++ server.apiPath ++ "mcp".toList then
    some .protectedResourceMetadata
  else if path = "/.well-known/oauth-authorization-server".toList then
    some .authorizationServerMetadata
  else none

/-- The fixed routes come before the API scope, and the static files after it. -/
def resolve (method : Method) (raw : List Char) : Handler :=
  let path := server.requote raw
  match server.fixedRoute method path with
  | some handler => handler
  | none =>
    match matchScope server.scopePath path with
    | none => .staticFiles
    | some rest => .api (apiScopes.find? fun scope => (matchScope scope.path rest).isSome)

end Server

/-- `extract_bearer_jwt`. -/
def extractBearerJwt (authorization : Header) : Option String :=
  authorization.bind fun header => header.bind fun text =>
    (text.toList.dropPrefix? "Bearer ".toList).map String.ofList

def extractJwt (request : Request) : Option String :=
  (extractBearerJwt request.authorization).or request.sessionJwt

inductive Outcome where
  | refused (status : Nat) (body : String)
  | reached (handler : Handler) (request : Request) (authenticated : Option Authenticated)
deriving DecidableEq, Repr

def supportedProtocolVersions : List String :=
  ["2025-06-18", "2025-03-26", "2024-11-05", "2025-11-25"]

namespace Server
variable (server : Server)

/-- `AuthenticateMiddleware`: a request with no token passes without claims. -/
def authenticate (request : Request) : Except String (Option Authenticated) :=
  match extractJwt request with
  | none => .ok none
  | some jwt =>
    match server.decode jwt with
    | .ok claims => .ok (some ⟨jwt, claims⟩)
    | .error error => .error s!"Invalid session: {error}"

/-- `RejectAudiencedTokens`: the exemption is read off the raw path. -/
def rejectsAudience (request : Request) (authenticated : Option Authenticated) : Bool :=
  !(server.apiPath ++ "mcp".toList).isPrefixOf request.path &&
    authenticated.any fun a => a.claims.aud.isSome

/-- `RequireAuthenticated`, around the MCP handler. -/
def requireAuthenticated (request : Request) (authenticated : Option Authenticated) : Outcome :=
  if request.origin.any fun origin => !server.allowedOrigins.contains (origin.getD "") then
    .refused 403 ""
  else if request.method = .get ∧ request.mcpSessionId = none then
    .refused 400 "Bad Request: Mcp-Session-Id header is required for GET requests"
  else
    match (request.mcpProtocolVersion.join).filter fun v => !supportedProtocolVersions.contains v with
    | some version => .refused 400 s!"Bad Request: Unsupported MCP-Protocol-Version: {version}"
    | none =>
      match authenticated with
      | none => .refused 401 ""
      | some a =>
        if request.authorization.isNone then .refused 401 ""
        else if a.claims.aud.any fun aud => decide (aud ≠ server.resourceUrl) then .refused 403 ""
        else if (server.parseUserId a.claims.sub).any server.limited then .refused 429 ""
        else .reached (.api (some .mcp)) { request with authorization := none } (some a)

/-- `user_id_from_context`: the user that a tool acts for. -/
def userIdFromContext (authenticated : Option Authenticated) : Except String UserId :=
  match authenticated with
  | none => .error "Missing authenticated user"
  | some a =>
    match server.parseUserId a.claims.sub with
    | none => .error "Invalid authenticated user"
    | some userId => .ok userId

def audienceMessage : String := "OAuth2 audience-scoped tokens cannot be used on this endpoint"

def process (request : Request) : Outcome :=
  match server.authenticate request with
  | .error message => .refused 401 message
  | .ok authenticated =>
    match server.resolve request.method request.path with
    | .api scope =>
      if server.rejectsAudience request authenticated then .refused 401 audienceMessage
      else if scope = some .mcp then server.requireAuthenticated request authenticated
      else .reached (.api scope) request authenticated
    | handler => .reached handler request authenticated

end Server

section Routing
variable {server : Server}

theorem matchScope_eq_some {scope path rest : List Char} (h : matchScope scope path = some rest) :
    path = scope ++ rest := by
  obtain ⟨hdrop, -⟩ := Option.filter_eq_some_iff.mp h
  obtain ⟨scope', rfl, heq⟩ := List.dropPrefix?_eq_some_iff.mp hdrop
  rw [eq_of_beq heq]

theorem apiPath_eq (server : Server) :
    ∃ slashes, server.apiPath = server.scopePath ++ '/' :: slashes ∧ ∀ c ∈ slashes, c = '/' := by
  have hsplit := List.rdropWhile_append_rtakeWhile (p := (· == '/')) (l := server.apiPath)
  have hall : ∀ c ∈ server.apiPath.rtakeWhile (· == '/'), c = '/' :=
    fun c hc => beq_iff_eq.mp (List.mem_rtakeWhile_imp (p := (· == '/')) hc)
  cases hslashes : server.apiPath.rtakeWhile (· == '/') with
  | nil =>
    obtain ⟨front, hfront⟩ := List.getLast?_eq_some_iff.mp server.apiPath_slash
    have hnot := List.rtakeWhile_eq_nil_iff.mp hslashes (by simp [hfront])
    simp [hfront] at hnot
  | cons c slashes =>
    rw [hslashes] at hsplit hall
    obtain rfl := hall c List.mem_cons_self
    exact ⟨slashes, hsplit.symm, fun d hd => hall d (List.mem_cons_of_mem _ hd)⟩

/-- The second character tells the scope of MCP from the others. -/
theorem path_second (scope : ApiScope) (hscope : scope ≠ .mcp) :
    ∃ c tail, scope.path = '/' :: c :: tail ∧ c ≠ '/' ∧ c ≠ 'm' := by
  cases scope with
  | auth => exact ⟨'a', "uth".toList, rfl, by decide, by decide⟩
  | integrationConnections =>
    exact ⟨'i', "ntegration-connections".toList, rfl, by decide, by decide⟩
  | oauth => exact ⟨'o', "auth".toList, rfl, by decide, by decide⟩
  | oauth2 => exact ⟨'o', "auth2".toList, rfl, by decide, by decide⟩
  | notifications => exact ⟨'n', "otifications".toList, rfl, by decide, by decide⟩
  | tasks => exact ⟨'t', "asks".toList, rfl, by decide, by decide⟩
  | users => exact ⟨'u', "sers".toList, rfl, by decide, by decide⟩
  | hooks => exact ⟨'h', "ooks".toList, rfl, by decide, by decide⟩
  | thirdParty => exact ⟨'t', "hird_party".toList, rfl, by decide, by decide⟩
  | slackBridge => exact ⟨'s', "lack-bridge".toList, rfl, by decide, by decide⟩
  | mcp => exact absurd rfl hscope

theorem scope_of_second {scope : ApiScope} {c : Char} {rest : List Char}
    (hmatch : (matchScope scope.path ('/' :: c :: rest)).isSome) (hc : c = '/' ∨ c = 'm') :
    scope = .mcp := by
  by_contra hscope
  obtain ⟨tail, htail⟩ := Option.isSome_iff_exists.mp hmatch
  obtain ⟨d, path, hpath, hslash, hm⟩ := path_second scope hscope
  have hcons := matchScope_eq_some htail
  rw [hpath] at hcons
  obtain rfl := (List.cons.inj (List.cons.inj hcons).2).1
  exact hc.elim hslash hm

theorem fixedRoute_ne_api {method : Method} {path : List Char} {scope : Option ApiScope} :
    server.fixedRoute method path ≠ some (.api scope) := by
  unfold Server.fixedRoute
  split_ifs <;> exact nofun

theorem scope_of_resolve {method : Method} {raw : List Char} {scope : Option ApiScope}
    (h : server.resolve method raw = .api scope) :
    ∃ rest, matchScope server.scopePath (server.requote raw) = some rest ∧
      scope = apiScopes.find? fun scope => (matchScope scope.path rest).isSome := by
  unfold Server.resolve at h
  dsimp only at h
  split at h
  · next handler hfixed => exact absurd (h ▸ hfixed) fixedRoute_ne_api
  · split at h
    · cases h
    · next rest hmatch => exact ⟨rest, hmatch, (Handler.api.inj h).symm⟩

/-- The raw paths that the guard exempts are routed to MCP or to nothing. -/
theorem scope_of_exempt {method : Method} {raw : List Char} {scope : ApiScope}
    (hexempt : (server.apiPath ++ "mcp".toList).isPrefixOf raw)
    (h : server.resolve method raw = .api (some scope)) : scope = .mcp := by
  obtain ⟨rest, hmatch, hscope⟩ := scope_of_resolve h
  obtain ⟨tail, rfl⟩ := List.isPrefixOf_iff_prefix.mp hexempt
  obtain ⟨slashes, hslashes, hall⟩ := apiPath_eq server
  have hplain : '%' ∉ server.apiPath ++ "mcp".toList := by
    rw [List.mem_append, not_or]
    exact ⟨server.apiPath_plain, by decide⟩
  have hpath := matchScope_eq_some hmatch
  rw [server.requote_append _ _ hplain, hslashes, List.append_assoc, List.append_assoc] at hpath
  obtain rfl := List.append_cancel_left hpath
  have hfound := List.find?_some hscope.symm
  cases slashes with
  | nil => exact scope_of_second hfound (.inr rfl)
  | cons c slashes => exact scope_of_second hfound (.inl (hall c List.mem_cons_self))

end Routing

section Admission
variable {server : Server} {request request' : Request}
  {authenticated authenticated' : Option Authenticated}

/-- The checks of `RequireAuthenticated`, on a request with claims. The header need not hold the
token: where it has no bearer token, the one of the session cookie was taken. -/
structure Passes (server : Server) (request : Request) (claims : Claims) : Prop where
  origin : ∀ origin ∈ request.origin, origin.getD "" ∈ server.allowedOrigins
  session : request.method = .get → request.mcpSessionId ≠ none
  version : ∀ version ∈ request.mcpProtocolVersion.join, version ∈ supportedProtocolVersions
  header : request.authorization ≠ none
  audience : ∀ aud ∈ claims.aud, aud = server.resourceUrl
  budget : ∀ user ∈ server.parseUserId claims.sub, server.limited user = false

theorem passes_of_reached {handler : Handler}
    (h : server.requireAuthenticated request authenticated =
      .reached handler request' authenticated') :
    ∃ a, authenticated = some a ∧ authenticated' = some a ∧ Passes server request a.claims ∧
      handler = .api (some .mcp) ∧ request' = { request with authorization := none } := by
  unfold Server.requireAuthenticated at h
  split at h
  · cases h
  rename_i horigin
  split at h
  · cases h
  rename_i hsession
  split at h
  · cases h
  rename_i hversion
  split at h
  · cases h
  rename_i a
  split at h
  · cases h
  rename_i hheader
  split at h
  · cases h
  rename_i haudience
  split at h
  · cases h
  rename_i hbudget
  cases h
  refine ⟨a, rfl, rfl, ⟨?_, ?_, ?_, ?_, ?_, ?_⟩, rfl, rfl⟩
  · intro origin horigin'
    by_contra hnot
    exact horigin ((Option.any_eq_true _ _).mpr ⟨origin, horigin', by simpa using hnot⟩)
  · exact fun hget hnone => hsession ⟨hget, hnone⟩
  · intro version hversion'
    have hnot := Option.filter_eq_none_iff.mp hversion version hversion'
    simpa using hnot
  · exact fun hnone => hheader (Option.isNone_iff_eq_none.mpr hnone)
  · intro aud haud
    by_contra hnot
    exact haudience ((Option.any_eq_true _ _).mpr ⟨aud, haud, decide_eq_true hnot⟩)
  · intro user huser
    by_contra hnot
    exact hbudget ((Option.any_eq_true _ _).mpr ⟨user, huser, Bool.eq_true_of_not_eq_false hnot⟩)

/-- What holds of a request that an API handler is given. -/
structure Admitted (server : Server) (request : Request) (scope : Option ApiScope)
    (authenticated : Option Authenticated) : Prop where
  routed : server.resolve request.method request.path = .api scope
  authentic : server.authenticate request = .ok authenticated
  exempt : ∀ a ∈ authenticated, a.claims.aud.isSome →
    (server.apiPath ++ "mcp".toList).isPrefixOf request.path
  passes : scope = some .mcp → ∃ a, authenticated = some a ∧ Passes server request a.claims

theorem admitted_of_reached {scope : Option ApiScope}
    (h : server.process request = .reached (.api scope) request' authenticated) :
    Admitted server request scope authenticated := by
  unfold Server.process at h
  split at h
  · cases h
  rename_i authenticated' hauthentic
  split at h
  · rename_i scope' hrouted
    split at h
    · cases h
    rename_i hguard
    have hexempt : ∀ a ∈ authenticated', a.claims.aud.isSome →
        (server.apiPath ++ "mcp".toList).isPrefixOf request.path := by
      intro a ha haud
      by_contra hnot
      refine hguard ?_
      rw [Server.rejectsAudience, Bool.eq_false_of_not_eq_true hnot, Bool.not_false,
        Bool.true_and]
      exact (Option.any_eq_true _ _).mpr ⟨a, ha, haud⟩
    split at h
    · rename_i hmcp
      obtain ⟨a, rfl, rfl, hpasses, hscope, -⟩ := passes_of_reached h
      obtain rfl := Handler.api.inj hscope
      rw [hmcp] at hrouted
      exact ⟨hrouted, hauthentic, hexempt, fun _ => ⟨a, rfl, hpasses⟩⟩
    · rename_i hmcp
      cases h
      exact ⟨hrouted, hauthentic, hexempt, fun hscope => absurd hscope hmcp⟩
  · rename_i hnot
    exact absurd (Outcome.reached.inj h).1 (hnot scope)

/-- A token with an audience reaches no API handler but MCP, and that one only when it is the
audience. -/
theorem Admitted.audience {scope : ApiScope} {aud : String}
    (h : Admitted server request (some scope) (some a)) (haud : a.claims.aud = some aud) :
    scope = .mcp ∧ aud = server.resourceUrl := by
  obtain rfl := scope_of_exempt (h.exempt a rfl (by rw [haud]; rfl)) h.routed
  obtain ⟨b, hb, hpasses⟩ := h.passes rfl
  obtain rfl := Option.some.inj hb
  exact ⟨rfl, hpasses.audience aud haud⟩

end Admission

end UniversalInbox.Pipeline
