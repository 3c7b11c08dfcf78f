import UniversalInbox.ConnectionStatus
import UniversalInbox.OAuthCredential

/-! The statements by which OAuth callbacks, token refreshes and disconnects change a connection and
its credential. Each stored value goes with the authorization that it comes from. -/
namespace UniversalInbox.OAuthCredential.OneGrant
open OAuthTokens ConnectionStatus

/-- The state of an authorization: it is drawn at random, and deleted from Redis as it is read. -/
structure OAuthState where
  value : String
deriving DecidableEq, Repr

/-- `grant` is only there for the proofs. -/
structure Granted (α : Type) where
  value : α
  grant : OAuthState

structure Credential where
  encryptedAccessToken : Granted Bytes
  encryptedRefreshToken : Option (Granted Bytes)
  accessTokenExpiresAt : Option DateTime
  rawTokenResponse : Json
  createdAt : DateTime
  updatedAt : DateTime

/-- The columns of the connection that these operations read or write; it has been created without
scopes. -/
structure Connection where
  userId : UserId
  status : IntegrationConnectionStatus
  failureMessage : Option String
  providerUserId : Option (Granted String)
  context : Option (Granted String)
  registeredOauthScopes : Option (Granted (List String))

/-- The parameters of `store_oauth_credential`. -/
structure NewCredential where
  encryptedAccessToken : Granted Bytes
  encryptedRefreshToken : Option (Granted Bytes)
  accessTokenExpiresAt : Option DateTime
  rawTokenResponse : Json
  now : DateTime

def NewCredential.upsert (new : NewCredential) (old : Option Credential) : Credential where
  encryptedAccessToken := new.encryptedAccessToken
  encryptedRefreshToken :=
    new.encryptedRefreshToken.or (old.bind Credential.encryptedRefreshToken)
  accessTokenExpiresAt := new.accessTokenExpiresAt.map pgTimestamp
  rawTokenResponse := new.rawTokenResponse
  createdAt := old.elim (pgTimestamp new.now) Credential.createdAt
  updatedAt := pgTimestamp new.now

def Credential.stored (id : IntegrationConnectionId) (c : Credential) : StoredOAuthCredential where
  integrationConnectionId := id
  encryptedAccessToken := c.encryptedAccessToken.value
  encryptedRefreshToken := c.encryptedRefreshToken.map Granted.value
  accessTokenExpiresAt := c.accessTokenExpiresAt
  rawTokenResponse := c.rawTokenResponse
  createdAt := c.createdAt
  updatedAt := c.updatedAt

/-- But for the authorizations, the upsert is that of the table. -/
theorem find?_storeOauthCredential {credentials : OAuthCredentialTable}
    {id : IntegrationConnectionId} {old : Option Credential}
    (hold : credentials.find? id = old.map (Credential.stored id)) (new : NewCredential) :
    (storeOauthCredential credentials id new.encryptedAccessToken.value
      (new.encryptedRefreshToken.map Granted.value) new.accessTokenExpiresAt new.rawTokenResponse
      new.now).find? id = some ((new.upsert old).stored id) := by
  unfold storeOauthCredential
  rw [Table.find?_put, if_pos rfl, hold]
  cases old <;> cases hrefresh : new.encryptedRefreshToken <;>
    simp [NewCredential.upsert, Credential.stored, hrefresh]

inductive Statement where
  | store (new : NewCredential)
  | delete
  | setProviderUserId (providerUserId : Granted String)
  | setContext (context : Granted String)
  | setStatus (status : IntegrationConnectionStatus) (failureMessage : Option String)
      (registeredOauthScopes : Option (Granted (List String)))

namespace Statement

def onConnection : Statement → Connection → Connection
  | store _, row | delete, row => row
  | setProviderUserId providerUserId, row => { row with providerUserId := some providerUserId }
  | setContext context, row => { row with context := some context }
  | setStatus status failureMessage scopes, row =>
    { row with
      status
      failureMessage
      registeredOauthScopes := scopes.or row.registeredOauthScopes }

def onCredential : Statement → Option Credential → Option Credential
  | store new, row => some (new.upsert row)
  | delete, _ => none
  | setProviderUserId _, row | setContext _, row | setStatus _ _ _, row => row

def writesConnection : Statement → Bool
  | store _ | delete => false
  | setProviderUserId _ | setContext _ | setStatus _ _ _ => true

end Statement

structure Config where
  service : Service
  id : IntegrationConnectionId
  providerKind : IntegrationProviderKind

/-- What a callback has made of its response when it reads the connection. -/
structure Prepared where
  grant : OAuthState
  encryptedAccessToken : Bytes
  encryptedRefreshToken : Option Bytes
  accessTokenExpiresAt : Option DateTime
  rawTokenResponse : Json
  registeredScopes : List String
  providerUserId : Option String
  providerContext : Option String
  now : DateTime

/-- `complete_oauth_callback` up to its read of the connection; `none` when it ends before. -/
def prepare (config : Config) (grant : OAuthState) (answer : ProviderAnswer) : Option Prepared :=
  if config.service.configured config.providerKind then
    match exchangeCodeForToken config.providerKind answer.http with
    | .error _ => none
    | .ok response => do
      let tokens ← encryptResponse config.service answer config.id response
      let accessTokenExpiresAt ← expiresAt answer.now response
      let rawResponse ← asSafeTokenResponse response
      some
        { grant
          encryptedAccessToken := tokens.1
          encryptedRefreshToken := tokens.2
          accessTokenExpiresAt
          rawTokenResponse := sanitizeRawResponse config.providerKind rawResponse
          registeredScopes := extractRegisteredScopes config.providerKind rawResponse
          providerUserId := extractProviderUserId config.providerKind rawResponse
          providerContext := extractProviderContext config.providerKind rawResponse
          now := answer.now }
  else none

def Prepared.newCredential (p : Prepared) : NewCredential where
  encryptedAccessToken := ⟨p.encryptedAccessToken, p.grant⟩
  encryptedRefreshToken := p.encryptedRefreshToken.map (⟨·, p.grant⟩)
  accessTokenExpiresAt := p.accessTokenExpiresAt
  rawTokenResponse := p.rawTokenResponse
  now := p.now

/-- The statements of a callback that has found its connection in `Created`. -/
def Prepared.statements (p : Prepared) : List Statement :=
  [.store p.newCredential] ++
    (p.providerUserId.map fun id => Statement.setProviderUserId ⟨id, p.grant⟩).toList ++
    (p.providerContext.map fun context => Statement.setContext ⟨context, p.grant⟩).toList ++
    [.setStatus .validated none (some ⟨p.registeredScopes, p.grant⟩)]

def disconnectStatements : List Statement := [.delete, .setStatus .created none none]

/-- What `refresh_expiring_tokens` makes of the answer for the connection; `none` for a panic. -/
def refreshStatements (config : Config) (userId : UserId) (refreshToken : Granted Bytes)
    (answer : ProviderAnswer) : Option (List Statement) :=
  match called config.service answer
      ⟨config.id, userId, refreshToken.value, config.providerKind⟩ with
  | none => some []
  | some (.error (.oauth2InvalidGrant _)) =>
    some [.setStatus .failing (some oauthInvalidGrantErrorMessage) none]
  | some (.error _) => some []
  | some (.ok response) =>
    match encryptResponse config.service answer config.id response with
    | none => some []
    | some tokens =>
      (expiresAt answer.now response).map fun accessTokenExpiresAt =>
        [.store
          { encryptedAccessToken := ⟨tokens.1, refreshToken.grant⟩
            encryptedRefreshToken := tokens.2.map (⟨·, refreshToken.grant⟩)
            accessTokenExpiresAt
            rawTokenResponse := refreshRawResponse response
            now := answer.now }]

/-- `refresh` has the token of the row that it has locked. -/
inductive Operation where
  | callback (p : Prepared)
  | refresh (refreshToken : Option (Granted Bytes))
  | disconnect

/-- The refresh token of the row that the query of a refresh selects. -/
def expiring (config : Config) (connection : Connection) (credential : Option Credential)
    (expiringBefore : DateTime) (providerKind : Option IntegrationProviderKind) :
    Option (Granted Bytes) := do
  let oc ← credential
  let encryptedRefreshToken ← oc.encryptedRefreshToken
  let accessTokenExpiresAt ← oc.accessTokenExpiresAt
  if accessTokenExpiresAt < expiringBefore ∧ connection.status = .validated ∧
      providerKind.all (· = config.providerKind) then
    some encryptedRefreshToken
  else none

def runConnection (script : List Statement) (c : Connection) : Connection :=
  script.foldl (fun c statement => statement.onConnection c) c

def runCredential (script : List Statement) (c : Option Credential) : Option Credential :=
  script.foldl (fun c statement => statement.onCredential c) c

def Connection.grants (c : Connection) : List OAuthState :=
  (c.providerUserId.map Granted.grant).toList ++ (c.context.map Granted.grant).toList ++
    (c.registeredOauthScopes.map Granted.grant).toList

def Credential.grants (c : Credential) : List OAuthState :=
  c.encryptedAccessToken.grant :: (c.encryptedRefreshToken.map Granted.grant).toList

/-- The authorizations that what is stored comes from. -/
def grants (connection : Connection) (credential : Option Credential) : List OAuthState :=
  credential.elim [] Credential.grants ++ connection.grants

def Statement.grants : Statement → List OAuthState
  | store new => new.encryptedAccessToken.grant ::
      (new.encryptedRefreshToken.map Granted.grant).toList
  | delete => []
  | setProviderUserId providerUserId => [providerUserId.grant]
  | setContext context => [context.grant]
  | setStatus _ _ scopes => (scopes.map Granted.grant).toList

/-- The statements that a transaction can have for what it does. -/
def Operation.Allows : Operation → List Statement → Prop
  | callback p, script => script = p.statements
  | refresh none, script => script = []
  | refresh (some refreshToken), script =>
    ∀ statement ∈ script, (∀ g ∈ statement.grants, g = refreshToken.grant) ∧
      ∀ c : Connection, (statement.onConnection c).status = c.status ∨
        (statement.onConnection c).status = .failing
  | disconnect, script => script = disconnectStatements ∨ script = [.setStatus .created none none]

section
variable {config : Config} {statement : Statement} {g : OAuthState} {p : Prepared}
  {script remaining : List Statement}

theorem onConnection_of_writesConnection {statement : Statement} {c : Connection}
    (h : statement.writesConnection = false) : statement.onConnection c = c := by
  cases statement <;> first | rfl | cases h

theorem onCredential_of_writesConnection {statement : Statement} {c : Option Credential}
    (h : statement.writesConnection = true) : statement.onCredential c = c := by
  cases statement <;> first | rfl | cases h

theorem Statement.mem_grants_onConnection {c : Connection}
    (h : g ∈ (statement.onConnection c).grants) : g ∈ c.grants ∨ g ∈ statement.grants := by
  cases statement with
  | store new | delete => exact .inl h
  | setProviderUserId providerUserId | setContext context =>
    simp [Statement.onConnection, Connection.grants, Statement.grants] at h ⊢
    grind
  | setStatus status failureMessage scopes =>
    cases scopes with
    | none => exact .inl h
    | some scopes =>
      simp [Statement.onConnection, Connection.grants, Statement.grants] at h ⊢
      grind

theorem Statement.mem_grants_onCredential {c : Option Credential}
    (h : g ∈ (statement.onCredential c).elim [] Credential.grants) :
    g ∈ c.elim [] Credential.grants ∨ g ∈ statement.grants := by
  cases statement with
  | store new =>
    cases hrefresh : new.encryptedRefreshToken with
    | some refreshToken =>
      simp [Statement.onCredential, NewCredential.upsert, Credential.grants, Statement.grants,
        hrefresh] at h ⊢
      grind
    | none =>
      cases c with
      | none =>
        simp [Statement.onCredential, NewCredential.upsert, Credential.grants, Statement.grants,
          hrefresh] at h ⊢
        exact h
      | some c =>
        simp [Statement.onCredential, NewCredential.upsert, Credential.grants, Statement.grants,
          hrefresh] at h ⊢
        grind
  | delete => cases h
  | setProviderUserId _ | setContext _ | setStatus _ _ _ => exact .inl h

/-- What is stored after some statements was so before, or is what they have. -/
theorem mem_grants_run {c : Connection} {c' : Option Credential}
    (h : g ∈ grants (runConnection script c) (runCredential script c')) :
    g ∈ grants c c' ∨ ∃ statement ∈ script, g ∈ statement.grants := by
  induction script generalizing c c' with
  | nil => exact .inl h
  | cons statement rest ih =>
    rcases ih h with hold | ⟨later, hlater, hg⟩
    · rcases List.mem_append.mp hold with hcredential | hconnection
      · rcases statement.mem_grants_onCredential hcredential with hold | hnew
        · exact .inl (List.mem_append_left _ hold)
        · exact .inr ⟨statement, List.mem_cons_self, hnew⟩
      · rcases statement.mem_grants_onConnection hconnection with hold | hnew
        · exact .inl (List.mem_append_right _ hold)
        · exact .inr ⟨statement, List.mem_cons_self, hnew⟩
    · exact .inr ⟨later, List.mem_cons_of_mem _ hlater, hg⟩

theorem Prepared.grants_statements (hstatement : statement ∈ p.statements)
    (hg : g ∈ statement.grants) : g = p.grant := by
  unfold Prepared.statements at hstatement
  rw [List.mem_append, List.mem_append, List.mem_append, List.mem_singleton, List.mem_singleton,
    Option.mem_toList, Option.mem_toList, Option.map_eq_some_iff, Option.map_eq_some_iff] at hstatement
  rcases hstatement with ((rfl | ⟨_, -, rfl⟩) | ⟨_, -, rfl⟩) | rfl
  · simp [Statement.grants, Prepared.newCredential] at hg
    rcases hg with hg | ⟨-, hg⟩
    · exact hg
    · exact hg.symm
  all_goals simpa [Statement.grants] using hg

theorem Prepared.runConnection (p : Prepared) (c : Connection) :
    runConnection p.statements c =
      { c with
        status := .validated
        failureMessage := none
        providerUserId := (p.providerUserId.map (⟨·, p.grant⟩)).or c.providerUserId
        context := (p.providerContext.map (⟨·, p.grant⟩)).or c.context
        registeredOauthScopes := some ⟨p.registeredScopes, p.grant⟩ } := by
  rw [Prepared.statements]
  cases p.providerUserId <;> cases p.providerContext <;> rfl

theorem Prepared.runCredential (p : Prepared) (c : Option Credential) :
    runCredential p.statements c = some (p.newCredential.upsert c) := by
  rw [Prepared.statements]
  cases p.providerUserId <;> cases p.providerContext <;> rfl

theorem status_run {c : Connection}
    (h : ∀ statement ∈ script, ∀ c : Connection,
      (statement.onConnection c).status = c.status ∨ (statement.onConnection c).status = .failing)
    (hc : c.status ≠ .created) :
    (runConnection script c).status ≠ .created := by
  induction script generalizing c with
  | nil => exact hc
  | cons statement rest ih =>
    refine ih (fun statement hstatement => h statement (List.mem_cons_of_mem _ hstatement)) ?_
    rcases h statement List.mem_cons_self c with hsame | hfailing
    · rwa [hsame]
    · rw [hfailing]
      exact fun h => (nomatch h)

/-- Only a disconnect can have found no row to delete. -/
theorem Operation.Allows.skip {operation : Operation} {done : List Statement}
    (h : operation.Allows (done ++ .delete :: remaining)) :
    operation.Allows (done ++ remaining) := by
  have hmem : Statement.delete ∈ done ++ .delete :: remaining :=
    List.mem_append_right _ List.mem_cons_self
  cases operation with
  | callback p =>
    rw [show done ++ .delete :: remaining = p.statements from h] at hmem
    simp [Prepared.statements] at hmem
  | refresh refreshToken =>
    cases refreshToken with
    | none =>
      rw [show done ++ .delete :: remaining = [] from h] at hmem
      cases hmem
    | some refreshToken =>
      intro statement hstatement
      refine h statement ?_
      rcases List.mem_append.mp hstatement with hdone | hremaining
      · exact List.mem_append_left _ hdone
      · exact List.mem_append_right _ (List.mem_cons_of_mem _ hremaining)
  | disconnect =>
    rcases h with h | h
    · cases done with
      | nil =>
        cases h
        exact .inr rfl
      | cons first done =>
        have hrest : done ++ .delete :: remaining = [.setStatus .created none none] :=
          (List.cons.inj h).2
        have hmem : Statement.delete ∈ done ++ .delete :: remaining :=
          List.mem_append_right _ List.mem_cons_self
        rw [hrest] at hmem
        simp at hmem
    · rw [h] at hmem
      simp at hmem

theorem refreshStatements_allowed {userId : UserId} {refreshToken : Granted Bytes}
    {answer : ProviderAnswer} {statements : List Statement}
    (h : refreshStatements config userId refreshToken answer = some statements) :
    (Operation.refresh (some refreshToken)).Allows statements := by
  have hnone : (Operation.refresh (some refreshToken)).Allows [] := fun _ h => (nomatch h)
  unfold refreshStatements at h
  split at h
  · cases h
    exact hnone
  · cases h
    intro statement hstatement
    rw [List.mem_singleton.mp hstatement]
    exact ⟨fun _ hg => (nomatch hg), fun _ => .inr rfl⟩
  · cases h
    exact hnone
  · split at h
    · cases h
      exact hnone
    · obtain ⟨accessTokenExpiresAt, -, rfl⟩ := Option.map_eq_some_iff.mp h
      intro statement hstatement
      rw [List.mem_singleton.mp hstatement]
      refine ⟨fun g hg => ?_, fun _ => .inl rfl⟩
      simp [Statement.grants] at hg
      rcases hg with hg | ⟨-, hg⟩
      · exact hg
      · exact hg.symm

theorem expiring_eq_some {connection : Connection} {credential : Option Credential}
    {expiringBefore : DateTime} {providerKind : Option IntegrationProviderKind}
    {refreshToken : Granted Bytes}
    (h : expiring config connection credential expiringBefore providerKind = some refreshToken) :
    credential.bind Credential.encryptedRefreshToken = some refreshToken := by
  obtain ⟨oc, rfl, h⟩ := Option.bind_eq_some_iff.mp h
  obtain ⟨encryptedRefreshToken, htoken, h⟩ := Option.bind_eq_some_iff.mp h
  obtain ⟨accessTokenExpiresAt, -, h⟩ := Option.bind_eq_some_iff.mp h
  split at h
  · cases h
    exact htoken
  · cases h

theorem prepare_grant {grant : OAuthState} {answer : ProviderAnswer}
    (h : prepare config grant answer = some p) : p.grant = grant := by
  unfold prepare at h
  split at h
  · split at h
    · cases h
    · obtain ⟨tokens, -, h⟩ := Option.bind_eq_some_iff.mp h
      obtain ⟨accessTokenExpiresAt, -, h⟩ := Option.bind_eq_some_iff.mp h
      obtain ⟨rawResponse, -, h⟩ := Option.bind_eq_some_iff.mp h
      cases h
      rfl
  · cases h

/-- A column keeps its old value where the callback has none, and with it the old authorization. -/
theorem or_granted {α : Type} {new : Option α} {old : Option (Granted α)}
    (hold : ∀ v ∈ old, v.grant ≠ g) :
    (∀ v ∈ (new.map (Granted.mk · g)).or old, v.grant = g) ↔ (new = none → old = none) := by
  cases new with
  | some value =>
    constructor
    · rintro - ⟨⟩
    · rintro - v ⟨⟩
      rfl
  | none =>
    cases old with
    | none => exact ⟨fun _ _ => rfl, fun _ _ h => (nomatch h)⟩
    | some v =>
      constructor
      · intro h
        exact absurd (h v rfl) (hold v rfl)
      · intro h
        cases h rfl

theorem mem_grants_some {connection : Connection} {credential : Credential} :
    g ∈ grants connection (some credential) ↔
      g = credential.encryptedAccessToken.grant ∨
      (∃ v ∈ credential.encryptedRefreshToken, v.grant = g) ∨
      (∃ v ∈ connection.providerUserId, v.grant = g) ∨ (∃ v ∈ connection.context, v.grant = g) ∨
      ∃ v ∈ connection.registeredOauthScopes, v.grant = g := by
  simp [grants, Credential.grants, Connection.grants]

end

end UniversalInbox.OAuthCredential.OneGrant
