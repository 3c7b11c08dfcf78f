import UniversalInbox.Library.Json
import UniversalInbox.Core

/-! The token responses of the OAuth providers: how each is read, and what is made of it. -/
namespace UniversalInbox.OAuthTokens
open Json

/-- A body, as JSON where it is; `serdeError` is the text for what cannot be read of it. -/
structure ResponseBody where
  text : String
  json : Option Json
  serdeError : String

structure OAuthTokenResponse where
  accessToken : String
  refreshToken : Option String
  tokenType : Option String
  expiresIn : Option Int
  extra : Json

def tokenKeys : List String := ["access_token", "refresh_token", "id_token"]

def responseFields : List String := ["access_token", "refresh_token", "token_type", "expires_in"]

/-- A field that is written twice is an error where it is read into a struct. -/
def repeats (fields : List String) (entries : List (String × Json)) : Bool :=
  fields.any fun field => decide (1 < (entries.filter fun entry => entry.1 = field).length)

/-- A field of type `Option`. -/
def optionalField {α : Type} (decode : Json → Option α) : Option Json → Option (Option α)
  | none | some .null => some none
  | some json => (decode json).map some

/-- The derived reading: `extra` has the keys that are no field. -/
def readTokenResponse : Json → Option OAuthTokenResponse
  | .object entries =>
    if repeats responseFields entries then none
    else do
      let accessToken ← (last? "access_token" entries).bind str?
      let refreshToken ← optionalField str? (last? "refresh_token" entries)
      let tokenType ← optionalField str? (last? "token_type" entries)
      let expiresIn ← optionalField i64? (last? "expires_in" entries)
      let extra := .object (entries.filter fun entry => !responseFields.contains entry.1)
      pure ⟨accessToken, refreshToken, tokenType, expiresIn, extra⟩
  | _ => none

def fromJsonSerdeError (body : ResponseBody) : UniversalInboxError :=
  .unexpected s!"{body.serdeError}: {body.text}"

/-- `SlackOAuth2Provider::parse_token_response`, from the JSON on. -/
def readSlackTokenResponse (text : String) (raw : Json) :
    Except UniversalInboxError OAuthTokenResponse :=
  if (raw.get? "ok").bind bool? ≠ some true then
    let errMsg := ((raw.get? "error").bind str?).getD "unknown error"
    .error (.unexpected s!"Slack token exchange failed: {errMsg} (body: {text})")
  else
    match ((raw.at? ["authed_user", "access_token"]).bind str?).or
        ((raw.get? "access_token").bind str?) with
    | none => .error (.unexpected s!"Slack token response missing access_token (body: {text})")
    | some accessToken =>
      .ok
        { accessToken
          refreshToken := ((raw.at? ["authed_user", "refresh_token"]).bind str?).or
            ((raw.get? "refresh_token").bind str?)
          tokenType := (raw.get? "token_type").bind str?
          expiresIn := ((raw.at? ["authed_user", "expires_in"]).bind i64?).or
            ((raw.get? "expires_in").bind i64?)
          extra := raw }

def parseTokenResponse (kind : IntegrationProviderKind) (body : ResponseBody) :
    Except UniversalInboxError OAuthTokenResponse :=
  match body.json with
  | none => .error (fromJsonSerdeError body)
  | some raw =>
    match kind with
    | .slack => readSlackTokenResponse body.text raw
    | _ =>
      match readTokenResponse raw with
      | none => .error (fromJsonSerdeError body)
      | some response => .ok response

/-- `to_value` of `as_safe_token_response`: only an object and null can be flattened. -/
def asSafeTokenResponse (response : OAuthTokenResponse) : Option Json :=
  let fields :=
    [("token_type", response.tokenType.elim .null .string),
      ("expires_in", response.expiresIn.elim .null .integer)]
  match response.extra with
  | .object entries => some (.object (fields ++ entries))
  | .null => some (.object fields)
  | _ => none

def sanitizeRawResponse (kind : IntegrationProviderKind) (raw : Json) : Json :=
  match kind with
  | .slack => (raw.removeKeys tokenKeys).modifyKey "authed_user" (removeKeys tokenKeys)
  | _ => raw.removeKeys tokenKeys

/-- `str::split`. -/
def split (separator : Char) (text : String) : List String :=
  (text.toList.splitOn separator).map String.ofList

/-- `str::trim`. -/
def trim (text : String) : String :=
  String.ofList (((text.toList.dropWhile isWhitespace).reverse.dropWhile isWhitespace).reverse)

def extractRegisteredScopes (kind : IntegrationProviderKind) (raw : Json) : List String :=
  match kind with
  | .slack =>
    (split ',' (((raw.at? ["authed_user", "scope"]).bind str?).getD "")).filter (· ≠ "")
  | .googleCalendar | .googleDrive | .googleMail | .tickTick =>
    (split ' ' (((raw.get? "scope").bind str?).getD "")).filter (· ≠ "")
  | .github =>
    ((split ',' (((raw.get? "scope").bind str?).getD "")).filter (· ≠ "")).map trim
  | .linear =>
    match (raw.get? "scope").bind array?, (raw.get? "scope").bind str? with
    | some scopes, _ => scopes.filterMap str?
    | none, some scope => (split ',' scope).map trim
    | none, none => []
  | .todoist | .notion | .api => []

def extractProviderUserId (kind : IntegrationProviderKind) (raw : Json) : Option String :=
  match kind with
  | .slack => (raw.at? ["authed_user", "id"]).bind str?
  | _ => none

/-- The team of the Slack context, which has nothing else at first. -/
def extractProviderContext (kind : IntegrationProviderKind) (raw : Json) : Option String :=
  match kind with
  | .slack => (raw.at? ["team", "id"]).bind str?
  | _ => none

/-- The JSON that `complete_oauth_callback` stores of a response. -/
def callbackRawResponse (kind : IntegrationProviderKind) (response : OAuthTokenResponse) :
    Except UniversalInboxError Json :=
  match asSafeTokenResponse response with
  | some raw => .ok (sanitizeRawResponse kind raw)
  | none => .error (.unexpected "Failed to serialize token response to Value")

/-- The JSON that `refresh_expiring_tokens` stores of a response. -/
def refreshRawResponse (response : OAuthTokenResponse) : Json :=
  (asSafeTokenResponse response).getD .null

end UniversalInbox.OAuthTokens
