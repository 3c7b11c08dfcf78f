import UniversalInbox.Core

/-! The tokens of the OAuth2 server and how they are minted. -/
namespace UniversalInbox.OAuth2

def accessTokenExpirySecs : Int := 3600

def refreshTokenExpiryDays : Int := 30

def nanosecondsPerSecond : Int := 1000000000

structure OAuth2AuthorizationCode where
  code : String
  clientId : String
  userId : UserId
  redirectUri : String
  scope : Option String
  codeChallenge : String
  resource : Option String
  expiresAt : DateTime
deriving DecidableEq, Repr

/-- A row of `oauth2_refresh_token`, known by its unique hash. -/
structure OAuth2RefreshToken where
  tokenHash : String
  clientId : String
  userId : UserId
  scope : Option String
  resource : Option String
  expiresAt : Option DateTime
  revokedAt : Option DateTime
deriving DecidableEq, Repr

/-- What an access token says; the token is these claims, signed. -/
structure Claims where
  iat : Int
  exp : Int
  sub : UserId
  jti : Nat
  aud : String
  scope : String
  clientId : String
deriving DecidableEq, Repr

structure TokenResponse where
  accessToken : Claims
  tokenType : String
  expiresIn : Int
  refreshToken : String
  scope : String
deriving DecidableEq, Repr

/-- The service: the digest it stores of a token (`hash_token`, also the PKCE challenge of a code
verifier) and the audience of a token without a resource. -/
structure OAuth2Service where
  hashToken : String → String
  resourceUrl : String

/-- What minting draws: the random refresh token and token identifier, and the clock as it is
read for each of the two tokens. -/
structure Draw where
  refreshToken : String
  jti : Nat
  accessNow : DateTime
  refreshNow : DateTime
deriving DecidableEq, Repr

def createAccessToken (draw : Draw) (userId : UserId) (scope clientId resource : String) : Claims :=
  { iat := draw.accessNow / nanosecondsPerSecond
    exp := (draw.accessNow + accessTokenExpirySecs * nanosecondsPerSecond) / nanosecondsPerSecond
    sub := userId
    jti := draw.jti
    aud := resource
    scope
    clientId }

/-- The row `create_refresh_token` inserts. -/
def newRefreshToken (service : OAuth2Service) (draw : Draw) (clientId : String) (userId : UserId)
    (scope resource : Option String) : OAuth2RefreshToken :=
  { tokenHash := service.hashToken draw.refreshToken
    clientId
    userId
    scope
    resource
    expiresAt :=
      some (pgTimestamp (draw.refreshNow + refreshTokenExpiryDays * 86400 * nanosecondsPerSecond))
    revokedAt := none }

/-- The answer to a request that minted tokens. -/
def tokenResponse (service : OAuth2Service) (draw : Draw) (clientId : String) (userId : UserId)
    (scope resource : Option String) : TokenResponse :=
  { accessToken := createAccessToken draw userId (scope.getD "") clientId
      (resource.getD service.resourceUrl)
    tokenType := "Bearer"
    expiresIn := accessTokenExpirySecs
    refreshToken := draw.refreshToken
    scope := scope.getD "" }

def verifyPkce (service : OAuth2Service) (codeVerifier codeChallenge : String) :
    Except UniversalInboxError Unit :=
  if service.hashToken codeVerifier ≠ codeChallenge then
    .error (.invalidInputData "PKCE verification failed")
  else .ok ()

/-- The condition of `revoke_refresh_token_if_active` on the row with the hash; `now()` is the
start of the transaction. -/
def OAuth2RefreshToken.isActive (clientId : String) (now : DateTime) (token : OAuth2RefreshToken) :
    Bool :=
  token.clientId == clientId && token.revokedAt.isNone && token.expiresAt.all (decide <| now < ·)

def OAuth2RefreshToken.revoke (now : DateTime) (token : OAuth2RefreshToken) : OAuth2RefreshToken :=
  { token with revokedAt := some now }

theorem OAuth2RefreshToken.revoke_tokenHash (now : DateTime) (token : OAuth2RefreshToken) :
    (token.revoke now).tokenHash = token.tokenHash := rfl

/-- The family of a token: its client and its user. -/
def OAuth2RefreshToken.family (token : OAuth2RefreshToken) : UserId × String :=
  (token.userId, token.clientId)

theorem OAuth2RefreshToken.isActive_iff {clientId : String} {now : DateTime}
    {token : OAuth2RefreshToken} :
    token.isActive clientId now = true ↔ token.clientId = clientId ∧ token.revokedAt = none ∧
      ∀ expiresAt ∈ token.expiresAt, now < expiresAt := by
  simp only [OAuth2RefreshToken.isActive, Bool.and_eq_true, beq_iff_eq, Option.isNone_iff_eq_none,
    Option.all_eq_true, decide_eq_true_eq, and_assoc, Option.mem_def]

end UniversalInbox.OAuth2
