import UniversalInbox.AuthorizationServer
import UniversalInbox.RequestPipeline

/-! What an access token of the OAuth2 server is good for: the requests that carry one, along every
run of the server that mints it. -/
namespace UniversalInbox.Pipeline
open OAuth2 (OAuth2Service)
open OAuth2.AuthorizationServer Transition User

/-- The claims as `create_access_token` signs them. -/
def accessClaims (claims : OAuth2.Claims) : Claims where
  exp := (claims.exp % 2 ^ 64).toNat
  iat := (claims.iat % 2 ^ 64).toNat
  sub := userIdText claims.sub
  jti := String.ofList (Uuid.hyphenated claims.jti)
  aud := some claims.aud
  scope := some claims.scope
  clientId := some claims.clientId

/-- The access tokens that were returned so far. -/
inductive Minted (s : State) : OAuth2.Claims → Prop
  | exchange {e : OAuth2.AuthorizationCodes.Exchange} : e ∈ s.exchanging.exchanges →
      Minted s e.response.accessToken
  | rotation {r : OAuth2.RefreshTokens.Rotation} : r ∈ s.refreshing.rotations →
      Minted s r.response.accessToken

/-- The user has approved the client, and each of the scopes for it. -/
structure Delegated (approvals : List OAuth2UserConsent) (userId : UserId) (clientId : String)
    (scope : Option String) : Prop where
  client : (userId, clientId) ∈ approvals.map OAuth2UserConsent.pair
  scopes : Confined approvals userId clientId scope

/-- The flow of delegations. -/
def delegationFlow (approvals : List OAuth2UserConsent) : Flow where
  consent consent := Delegated approvals consent.userId consent.clientId (some consent.scope)
  covered userId request := Delegated approvals userId request.clientId request.scope
  code code := Delegated approvals code.userId code.clientId code.scope
  checked code := Delegated approvals code.userId code.clientId code.scope
  token token := Delegated approvals token.userId token.clientId token.scope
  claimed token := Delegated approvals token.userId token.clientId token.scope

section Delegations
variable {service : OAuth2Service} {redirectUriMatches : RedirectUriMatches} {s t : State}
  {approvals approvals' : List OAuth2UserConsent}

theorem Delegated.mono (hsubset : approvals ⊆ approvals') {userId : UserId} {clientId : String}
    {scope : Option String} (h : Delegated approvals userId clientId scope) :
    Delegated approvals' userId clientId scope :=
  ⟨List.map_subset _ hsubset h.client, h.scopes.mono hsubset⟩

theorem delegationFlow_le (hsubset : approvals ⊆ approvals') :
    (delegationFlow approvals).Le (delegationFlow approvals') :=
  ⟨fun _ => .mono hsubset, fun _ _ => .mono hsubset, fun _ => .mono hsubset,
    fun _ => .mono hsubset, fun _ => .mono hsubset, fun _ => .mono hsubset⟩

theorem delegationFlow_closed (approvals : List OAuth2UserConsent) (clock : DateTime) :
    (delegationFlow approvals).Closed clock where
  covers consent request hconsent hclient hcovers := by
    refine ⟨?_, (scopeFlow_closed approvals clock).covers consent request hconsent.scopes hclient
      hcovers⟩
    rw [← hclient]
    exact hconsent.client
  issues userId request code hcovered hcode := by
    show Delegated approvals code.userId code.clientId code.scope
    rw [hcode.userId, hcode.clientId, hcode.scope]
    exact hcovered
  checks code hcode _ := hcode
  exchanges code token hchecked htoken := by
    show Delegated approvals token.userId token.clientId token.scope
    rw [htoken.userId, htoken.clientId, htoken.scope]
    exact hchecked
  claims token htoken _ := htoken
  rotates parent child hclaimed hchild := by
    show Delegated approvals child.userId child.clientId child.scope
    rw [hchild.userId, hchild.clientId, hchild.scope]
    exact hclaimed
  revokes token now htoken := htoken

theorem withinDelegations_step {i : Input} (h : Within (delegationFlow s.approvals) s)
    (hstep : step service redirectUriMatches s i = some t) :
    Within (delegationFlow t.approvals) t := by
  obtain ⟨-, hperform⟩ := step_eq_some hstep
  have hclock : Within (delegationFlow s.approvals) { s with clock := i.now?.getD s.clock } :=
    ⟨h.shared, h.consents, h.tokens, h.grants, h.exchanging, h.refreshing⟩
  refine (hclock.mono (delegationFlow_le (approvals_subset hperform))).performed
    (delegationFlow_closed _ (i.now?.getD s.clock)) hperform (now_le (s := s)) ?_
  rintro x hx happroval rfl
  obtain ⟨hrecorded, -⟩ := approved_of_commit hx happroval hperform
  have hmem : x.consent ∈ t.approvals := by rw [hrecorded]; exact List.mem_cons_self
  have happroved : Delegated t.approvals x.userId x.request.clientId x.request.scope :=
    ⟨List.mem_map.mpr ⟨x.consent, hmem, rfl⟩, fun token htoken => ⟨x.consent, hmem, rfl, htoken⟩⟩
  refine ⟨⟨happroved.client, happroved.scopes⟩, fun code hcode => ?_⟩
  show Delegated t.approvals code.userId code.clientId code.scope
  rw [hcode.userId, hcode.clientId, hcode.scope]
  exact happroved

/-- The access tokens that a step returns are the one it commits and those of before. -/
theorem minted_of_step {i : Input} (hstep : step service redirectUriMatches s i = some t)
    {claims : OAuth2.Claims} (hminted : Minted t claims) :
    Minted s claims ∨
      (∃ e, t.exchanging.exchanges = e :: s.exchanging.exchanges ∧
        e.response.accessToken = claims) ∨
      ∃ r, t.refreshing.rotations = r :: s.refreshing.rotations ∧
        r.response.accessToken = claims := by
  obtain ⟨-, hperform⟩ := step_eq_some hstep
  have hkept (hexchanges : t.exchanging.exchanges = s.exchanging.exchanges)
      (hrotations : t.refreshing.rotations = s.refreshing.rotations) : Minted s claims := by
    cases hminted with
    | exchange he => exact .exchange (hexchanges ▸ he)
    | rotation hr => exact .rotation (hrotations ▸ hr)
  cases i with
  | grant input =>
    refine .inl ?_
    cases grantEffect_of_step hperform with
    | _ => exact hkept rfl rfl
  | revocation input =>
    refine .inl ?_
    cases revocationEffect_of_step hperform with
    | _ => exact hkept rfl rfl
  | exchange input =>
    obtain ⟨exchanging, hexchange, rfl⟩ := exchange_of_step hperform
    cases OAuth2.AuthorizationCodes.effect_of_step hexchange with
    | commit =>
      cases hminted with
      | exchange he =>
        obtain rfl | he := List.mem_cons.mp he
        · exact .inr (.inl ⟨_, rfl, rfl⟩)
        · exact .inl (.exchange he)
      | rotation hr => exact .inl (.rotation hr)
    | _ => exact .inl (hkept rfl rfl)
  | refresh input =>
    obtain ⟨refreshing, hrefresh, rfl⟩ := refresh_of_step hperform
    cases OAuth2.RefreshTokens.effect_of_step hrefresh with
    | commit =>
      cases hminted with
      | exchange he => exact .inl (.exchange he)
      | rotation hr =>
        obtain rfl | hr := List.mem_cons.mp hr
        · exact .inr (.inr ⟨_, rfl, rfl⟩)
        · exact .inl (.rotation hr)
    | _ => exact .inl (hkept rfl rfl)

/-- What is kept along a run: the authority is delegated, and so is that of every token returned. -/
structure MintsDelegated (s : State) : Prop where
  within : Within (delegationFlow s.approvals) s
  minted : ∀ claims, Minted s claims →
    Delegated s.approvals claims.sub claims.clientId (some claims.scope)

theorem mintsDelegated_step {i : Input} (h : MintsDelegated s)
    (hstep : step service redirectUriMatches s i = some t) : MintsDelegated t := by
  have hwithin := withinDelegations_step h.within hstep
  obtain ⟨-, hperform⟩ := step_eq_some hstep
  have hclock : Within (delegationFlow s.approvals) { s with clock := i.now?.getD s.clock } :=
    ⟨h.within.shared, h.within.consents, h.within.tokens, h.within.grants, h.within.exchanging,
      h.within.refreshing⟩
  have hlater := hclock.mono (delegationFlow_le (approvals_subset hperform))
  refine ⟨hwithin, fun claims hminted => ?_⟩
  obtain hold | ⟨e, he, rfl⟩ | ⟨r, hr, rfl⟩ := minted_of_step hstep hminted
  · exact (h.minted claims hold).mono (approvals_subset hperform)
  · obtain ⟨hchecked, hfor⟩ := hlater.exchanged hperform he
    obtain ⟨hsub, hclient, hscope⟩ := hfor.accessToken
    rw [hsub, hclient, hscope]
    exact ⟨hchecked.client, hchecked.scopes⟩
  · obtain ⟨hclaimed, hfor⟩ := hlater.rotated hperform hr
    obtain ⟨hsub, hclient, hscope⟩ := hfor.accessToken
    rw [hsub, hclient, hscope]
    exact ⟨hclaimed.client, hclaimed.scopes⟩

end Delegations

/-- A request that carries an access token of the OAuth2 server reaches the tools of MCP or no API
handler at all; it reaches them only where they are its audience, and they then act for a user who
has approved the client, and each of the scopes, on the consent page. -/
def ActsDelegated (server : Server) (s : State) : Prop :=
  ∀ claims, Minted s claims → ∀ request request' scope (a : Authenticated),
    a.claims = accessClaims claims →
    server.process request = .reached (.api (some scope)) request' (some a) →
      scope = .mcp ∧ claims.aud = server.resourceUrl ∧
        server.userIdFromContext (some a) = .ok claims.sub ∧
        Delegated s.approvals claims.sub claims.clientId (some claims.scope)

theorem MintsDelegated.acts {s : State} (h : MintsDelegated s) (server : Server) :
    ActsDelegated server s := by
  intro claims hminted request request' scope a hclaims hreached
  have haud : a.claims.aud = some claims.aud := by rw [hclaims]; rfl
  obtain ⟨hscope, haudience⟩ := (admitted_of_reached hreached).audience haud
  refine ⟨hscope, haudience, ?_, h.minted claims hminted⟩
  have hparse : server.parseUserId a.claims.sub = some claims.sub := by
    rw [hclaims]
    exact server.parseUserId_text claims.sub
  simp only [Server.userIdFromContext, hparse]

/-- In every order of the statements of any OAuth2 requests, whatever requests carry the tokens
that were returned. -/
theorem tokens_act_delegated (server : Server) (service : OAuth2Service)
    (redirectUriMatches : RedirectUriMatches) (clock : DateTime) (inputs : List Input)
    (hrun : Possible (step service redirectUriMatches)
      (initial clock Table.empty Table.empty Table.empty) inputs) :
    Along (step service redirectUriMatches) (fun _ _ t => ActsDelegated server t)
      (initial clock Table.empty Table.empty Table.empty) inputs :=
  hrun.of_invariant (I := MintsDelegated) (fun _ _ _ h hstep _ => mintsDelegated_step h hstep)
    (fun _ _ _ h hstep _ => (mintsDelegated_step h hstep).acts server)
    ⟨within_initial (fun _ hconsent => absurd hconsent Table.not_mem_empty)
      (fun _ hcode => absurd hcode Table.not_mem_empty)
      (fun _ htoken => absurd htoken Table.not_mem_empty), by
      rintro claims (he | hr)
      · exact (List.not_mem_nil he).elim
      · exact (List.not_mem_nil hr).elim⟩

def sampleClaims : OAuth2.Claims :=
  OAuth2.createAccessToken (sampleDraw "parent") ⟨0⟩ "read write" "client" "https://inbox/mcp"

/-- It knows the access token of the run below. -/
def sampleServer : Server where
  apiPath := "/api/".toList
  apiPath_plain := by decide
  apiPath_slash := rfl
  requote path := path
  requote_append _ _ _ := rfl
  decode token := if token = "access" then .ok (accessClaims sampleClaims) else .error "InvalidToken"
  parseUserId text := some ⟨Uuid.read 0 text.toList⟩
  parseUserId_text userId := by
    rw [userIdText, String.toList_ofList, Uuid.read_hyphenated]
  limited _ := false
  resourceUrl := "https://inbox/mcp"
  allowedOrigins := ["https://inbox"]

theorem sampleTokens_act_delegated :
    Along sampleStep (fun _ _ t => ActsDelegated sampleServer t)
      (initial 0 Table.empty Table.empty Table.empty)
      (consentRun "read write" ++ exchangeRun ++ rotationRun) :=
  tokens_act_delegated sampleServer sampleService _ 0 _ (by decide +kernel)

def bearing (path : String) : Request :=
  { method := .post, path := path.toList, authorization := some (some "Bearer access") }

/-- A bearer of the token has the tools, and is refused the tasks. -/
example :
    sampleServer.process (bearing "/api/mcp") =
        .reached (.api (some .mcp)) { bearing "/api/mcp" with authorization := none }
          (some ⟨"access", accessClaims sampleClaims⟩) ∧
      sampleServer.process (bearing "/api/tasks") = .refused 401 Server.audienceMessage := by
  decide +kernel

end UniversalInbox.Pipeline
