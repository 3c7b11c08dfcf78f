import UniversalInbox.IntegrationConnection
import UniversalInbox.OAuthTokens

/-! Stored OAuth credentials: the encryption of their tokens, the statements of their repository and
the requests for tokens. -/
namespace UniversalInbox.OAuthCredential
open OAuthTokens Json

abbrev Bytes := List UInt8

def nonceLen : Nat := 12

/-- `AES_256_GCM.tag_len()`. -/
def tagLen : Nat := 16

structure TokenNonce where
  bytes : Bytes
  length : bytes.length = nonceLen

/-- AES-256-GCM with the key of the service. -/
structure TokenCipher where
  sealToken : TokenNonce → Bytes → String → Option Bytes
  openToken : TokenNonce → Bytes → Bytes → Option String
  tagged : ∀ nonce aad plaintext sealed, sealToken nonce aad plaintext = some sealed →
    tagLen ≤ sealed.length
  opens : ∀ nonce aad plaintext sealed, sealToken nonce aad plaintext = some sealed →
    openToken nonce aad sealed = some plaintext

/-- The nonce is put before the ciphertext; there is none when the random generator fails. -/
def encryptToken (cipher : TokenCipher) (nonce : Option TokenNonce) (aadContext : Bytes)
    (plaintext : String) : Option Bytes :=
  nonce.bind fun nonce => (cipher.sealToken nonce aadContext plaintext).map (nonce.bytes ++ ·)

def decryptToken (cipher : TokenCipher) (aadContext ciphertext : Bytes) : Option String :=
  if h : nonceLen + tagLen ≤ ciphertext.length then
    cipher.openToken ⟨ciphertext.take nonceLen, List.length_take_of_le (by omega)⟩ aadContext
      (ciphertext.drop nonceLen)
  else none

theorem decryptToken_of_encryptToken {cipher : TokenCipher} {nonce : Option TokenNonce}
    {aadContext ciphertext : Bytes} {plaintext : String}
    (h : encryptToken cipher nonce aadContext plaintext = some ciphertext) :
    decryptToken cipher aadContext ciphertext = some plaintext := by
  obtain ⟨nonce, rfl, h⟩ := Option.bind_eq_some_iff.mp h
  obtain ⟨sealed, hsealed, rfl⟩ := Option.map_eq_some_iff.mp h
  have hlen : nonceLen + tagLen ≤ (nonce.bytes ++ sealed).length := by
    have := cipher.tagged _ _ _ _ hsealed
    have := nonce.length
    rw [List.length_append]
    omega
  unfold decryptToken
  rw [dif_pos hlen]
  have htake : (nonce.bytes ++ sealed).take nonceLen = nonce.bytes := by
    rw [← nonce.length, List.take_left]
  have hdrop : (nonce.bytes ++ sealed).drop nonceLen = sealed := by
    rw [← nonce.length, List.drop_left]
  simp only [htake, hdrop]
  exact cipher.opens _ _ _ _ hsealed

/-- `Uuid::as_bytes`. -/
def asBytes (id : IntegrationConnectionId) : Bytes :=
  (List.range 16).map fun i => UInt8.ofNat (id.uuid >>> (8 * (15 - i)))

structure StoredOAuthCredential where
  integrationConnectionId : IntegrationConnectionId
  encryptedAccessToken : Bytes
  encryptedRefreshToken : Option Bytes
  accessTokenExpiresAt : Option DateTime
  rawTokenResponse : Json
  createdAt : DateTime
  updatedAt : DateTime

abbrev OAuthCredentialTable := Table StoredOAuthCredential.integrationConnectionId

/-- An upsert that keeps the refresh token where it is given none. -/
def storeOauthCredential (credentials : OAuthCredentialTable) (id : IntegrationConnectionId)
    (encryptedAccessToken : Bytes) (encryptedRefreshToken : Option Bytes)
    (accessTokenExpiresAt : Option DateTime) (rawTokenResponse : Json) (now : DateTime) :
    OAuthCredentialTable :=
  let old := credentials.find? id
  credentials.put
    { integrationConnectionId := id
      encryptedAccessToken
      encryptedRefreshToken :=
        encryptedRefreshToken.or (old.bind StoredOAuthCredential.encryptedRefreshToken)
      accessTokenExpiresAt := accessTokenExpiresAt.map pgTimestamp
      rawTokenResponse
      createdAt := old.elim (pgTimestamp now) StoredOAuthCredential.createdAt
      updatedAt := pgTimestamp now }

structure ExpiringOAuthCredential where
  integrationConnectionId : IntegrationConnectionId
  userId : UserId
  encryptedRefreshToken : Bytes
  providerKind : IntegrationProviderKind
deriving DecidableEq

/-- `FOR UPDATE OF oc SKIP LOCKED`: the rows that others have locked are left out. -/
def listExpiringCredentials (credentials : OAuthCredentialTable)
    (connections : IntegrationConnectionTable) (locked : IntegrationConnectionId → Bool)
    (expiringBefore : DateTime) (providerKind : Option IntegrationProviderKind) :
    List ExpiringOAuthCredential :=
  credentials.rows.filterMap fun oc => do
    let ic ← connections.find? oc.integrationConnectionId
    let encryptedRefreshToken ← oc.encryptedRefreshToken
    let accessTokenExpiresAt ← oc.accessTokenExpiresAt
    if accessTokenExpiresAt < expiringBefore ∧ ic.status = .validated ∧
        providerKind.all (· = ic.providerKind) ∧ !locked oc.integrationConnectionId then
      some ⟨oc.integrationConnectionId, ic.userId, encryptedRefreshToken, ic.providerKind⟩
    else none

theorem nodup_listExpiringCredentials {credentials : OAuthCredentialTable}
    {connections : IntegrationConnectionTable} {locked : IntegrationConnectionId → Bool}
    {expiringBefore : DateTime} {providerKind : Option IntegrationProviderKind} :
    ((listExpiringCredentials credentials connections locked expiringBefore providerKind).map
      ExpiringOAuthCredential.integrationConnectionId).Nodup := by
  refine credentials.nodup_filterMap fun oc credential h => ?_
  obtain ⟨ic, -, h⟩ := Option.bind_eq_some_iff.mp h
  obtain ⟨encryptedRefreshToken, -, h⟩ := Option.bind_eq_some_iff.mp h
  obtain ⟨accessTokenExpiresAt, -, h⟩ := Option.bind_eq_some_iff.mp h
  split at h
  · cases h
    rfl
  · cases h

/-- What comes of the request to the token endpoint. -/
inductive HttpAnswer where
  | unsent
  | unread
  | answered (status : Nat) (reason : String) (body : ResponseBody)

/-- `OAuth2ErrorBody`. -/
def readErrorBody : Json → Option (String × Option String)
  | .object entries =>
    if repeats ["error", "error_description"] entries then none
    else do
      let error ← (last? "error" entries).bind str?
      let errorDescription ← optionalField str? (last? "error_description" entries)
      pure (error, errorDescription)
  | _ => none

def exchangeCodeForToken (kind : IntegrationProviderKind) :
    HttpAnswer → Except UniversalInboxError OAuthTokenResponse
  | .unsent => .error (.unexpected "Failed to exchange authorization code for token")
  | .unread => .error (.unexpected "Failed to read token exchange response body")
  | .answered status reason body =>
    if 200 ≤ status ∧ status < 300 then parseTokenResponse kind body
    else
      .error (.unexpected s!"Token exchange failed with status {status} {reason}: {body.text}")

def refreshAccessToken (kind : IntegrationProviderKind) :
    HttpAnswer → Except UniversalInboxError OAuthTokenResponse
  | .unsent => .error (.unexpected "Failed to refresh access token")
  | .unread => .error (.unexpected "Failed to read token refresh response body")
  | .answered status reason body =>
    if 200 ≤ status ∧ status < 300 then parseTokenResponse kind body
    else
      match if status = 400 then body.json.bind readErrorBody else none with
      | some ("invalid_grant", errorDescription) =>
        .error (.oauth2InvalidGrant (errorDescription.getD ""))
      | _ =>
        .error (.unexpected s!"Token refresh failed with status {status} {reason}: {body.text}")

/-- `DateTime::<Utc>::MIN_UTC` and `MAX_UTC`. -/
def minUtc : DateTime := -8334601228800 * 1000000000

def maxUtc : DateTime := 8210266876800 * 1000000000 - 1

/-- `expires_at`: an instant out of range panics, a duration out of range is no instant. -/
def expiresAt (now : DateTime) (response : OAuthTokenResponse) : Option (Option DateTime) :=
  match response.expiresIn with
  | none => some none
  | some seconds =>
    if seconds.natAbs ≤ (2 ^ 63 - 1) / 1000 then
      let instant := now + seconds * 1000000000
      if minUtc ≤ instant ∧ instant ≤ maxUtc then some (some instant) else none
    else some none

structure Service where
  cipher : TokenCipher
  configured : IntegrationProviderKind → Bool

/-- What a request to a provider meets with: the answer, the nonces for the tokens that it has, and
the time. -/
structure ProviderAnswer where
  http : HttpAnswer
  accessNonce : Option TokenNonce
  refreshNonce : Option TokenNonce
  now : DateTime

/-- The answer to the call, which is made for a configured provider with a readable token. -/
def called (service : Service) (answer : ProviderAnswer) (credential : ExpiringOAuthCredential) :
    Option (Except UniversalInboxError OAuthTokenResponse) :=
  if service.configured credential.providerKind then
    (decryptToken service.cipher (asBytes credential.integrationConnectionId)
      credential.encryptedRefreshToken).map fun _ =>
        refreshAccessToken credential.providerKind answer.http
  else none

def encryptResponse (service : Service) (answer : ProviderAnswer) (id : IntegrationConnectionId)
    (response : OAuthTokenResponse) : Option (Bytes × Option Bytes) :=
  (encryptToken service.cipher answer.accessNonce (asBytes id) response.accessToken).bind
    fun accessToken =>
      match response.refreshToken with
      | none => some (accessToken, none)
      | some refreshToken =>
        (encryptToken service.cipher answer.refreshNonce (asBytes id) refreshToken).map
          fun refreshToken => (accessToken, some refreshToken)

theorem latin1_eq {text : List Char} (h : text.all (·.toNat < 256) = true) :
    text.map (fun c => Char.ofNat (UInt8.ofNat c.toNat).toNat) = text := by
  conv_rhs => rw [← List.map_id text]
  refine List.map_congr_left fun c hc => ?_
  have hlt : c.toNat < 256 := by simpa using List.all_eq_true.mp h c hc
  rw [UInt8.toNat_ofNat', Nat.mod_eq_of_lt hlt, Char.ofNat_toNat, id]

/-- The text of Latin-1 after an empty tag. -/
def latin1Cipher : TokenCipher where
  sealToken _ _ plaintext :=
    if plaintext.toList.all (·.toNat < 256) then
      some (List.replicate tagLen 0 ++ plaintext.toList.map fun c => UInt8.ofNat c.toNat)
    else none
  openToken _ _ sealed :=
    some (String.ofList ((sealed.drop tagLen).map fun byte => Char.ofNat byte.toNat))
  tagged := by
    intro _ _ plaintext sealed h
    split at h
    · cases h
      simp
    · cases h
  opens := by
    intro _ _ plaintext sealed h
    split at h
    next hlatin =>
      cases h
      rw [List.drop_left' List.length_replicate, List.map_map]
      exact congrArg some ((congrArg String.ofList (latin1_eq hlatin)).trans String.ofList_toList)
    · cases h

def zeroNonce : TokenNonce := ⟨List.replicate nonceLen 0, rfl⟩

end UniversalInbox.OAuthCredential
