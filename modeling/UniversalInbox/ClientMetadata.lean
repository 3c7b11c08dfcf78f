import UniversalInbox.Cimd
import UniversalInbox.Library.I64
import UniversalInbox.Library.Results
import UniversalInbox.Library.Transition
import UniversalInbox.Library.Uuid
import UniversalInbox.RedirectUris
import Mathlib.Data.List.DropRight

/-! How a client is resolved: the one that was registered, or, where the identifier is a URL, the
one of the metadata document there, which is fetched, validated and kept for a while. The
transactions of the requests that resolve clients interleave. -/
namespace UniversalInbox.OAuth2.ClientMetadata
open Cimd RedirectUris Transition

structure CimdSettings where
  maxBodyBytes : Nat
  minTtlSecs : Nat
  maxTtlSecs : Nat
  defaultTtlSecs : Nat
deriving DecidableEq, Repr

structure ClientMetadataDocument where
  clientId : String
  clientName : Option String
  redirectUris : List String
  tokenEndpointAuthMethod : Option String
deriving DecidableEq, Repr

/-- A response: its status and how that is displayed, the headers that are texts, and the chunks of
its body as they come. -/
structure Response where
  status : Nat
  statusText : String
  contentType : Option String
  cacheControl : Option String
  body : List (Except String (List UInt8))

/-- The network at the time of a fetch: the name service, and what the client that is pinned to an
address gets from a URL. -/
structure World where
  resolver : Resolver
  get : SocketAddr → Url → Except String Response

/-- The parsers: of URLs, of documents, and of the keys of the object that a text is. The text of a
UUID has no scheme. -/
structure Platform where
  parse : Parse
  parseDocument : List UInt8 → Except String ClientMetadataDocument
  topLevelKeys : List UInt8 → Option (List String)
  parse_uuid : ∀ uuid, ∃ error, parse (String.ofList (Uuid.hyphenated uuid)) = .error error

/-- The lifetime is `none` where `clamp` panics. -/
structure FetchedClientMetadata where
  document : ClientMetadataDocument
  ttl : Option Nat
deriving DecidableEq, Repr

def trim (text : List Char) : List Char :=
  (text.dropWhile Char.isWhitespace).rdropWhile Char.isWhitespace

/-- `str::parse::<u64>`. -/
def parseU64 (text : List Char) : Option Nat :=
  let digits := if text.head? = some '+' then text.tail else text
  (I64.digits? digits).filter (· < 2 ^ 64)

def parseCacheMaxAge (cacheControl : Option String) : Option Nat :=
  cacheControl.bind fun header =>
    (header.toList.splitOn ',').findSome? fun directive =>
      ((trim directive).dropPrefix? "max-age=".toList).bind fun value => parseU64 (trim value)

def clampTtl (cacheMaxAge : Option Nat) (settings : CimdSettings) : Option Nat :=
  let raw := cacheMaxAge.getD settings.defaultTtlSecs
  if settings.minTtlSecs ≤ settings.maxTtlSecs then
    some (min settings.maxTtlSecs (max settings.minTtlSecs raw))
  else none

/-- `TimeDelta::from_std`, in nanoseconds. -/
def ttlDelta (ttl : Nat) : Int :=
  if ttl ≤ 9223372036854775 then ttl * nanosecondsPerSecond else 3600 * nanosecondsPerSecond

def readCapped (cap : Nat) :
    List UInt8 → List (Except String (List UInt8)) → Except UniversalInboxError (List UInt8)
  | buf, [] => .ok buf
  | _, .error err :: _ => .error (.invalidInputData s!"CIMD response body stream error: {err}")
  | buf, .ok chunk :: rest =>
    if buf.length + chunk.length > cap then
      .error (.invalidInputData s!"CIMD document exceeds {cap}-byte size cap")
    else readCapped cap (buf ++ chunk) rest

def forbiddenMethods : List String :=
  ["client_secret_basic", "client_secret_post", "client_secret_jwt"]

def forbiddenFields : List String := ["client_secret", "client_secret_expires_at"]

def isJson (contentType : String) : Bool :=
  ((contentType.toList.splitOn ';').head?.any fun essence =>
    (trim essence).map Char.toLower = "application/json".toList)

section Fetch
variable (platform : Platform)

def isCimdClientId (clientId : String) : Bool :=
  match platform.parse clientId with
  | .error _ => false
  | .ok url => url.scheme == "https" && url.path != "/" && url.path != ""

def ClientMetadataDocument.validate (document : ClientMetadataDocument) (expected : String) :
    Except UniversalInboxError Unit :=
  if document.clientId ≠ expected then
    .error (.invalidInputData
      s!"CIMD document client_id ({document.clientId}) does not match metadata URL ({expected})")
  else if document.redirectUris.isEmpty then
    .error (.invalidInputData "CIMD document must declare at least one redirect_uri")
  else do
    document.redirectUris.forM (validateRedirectUri platform.parse)
    match document.tokenEndpointAuthMethod.filter forbiddenMethods.contains with
    | some method =>
      throw (.invalidInputData (s!"CIMD document uses forbidden token_endpoint_auth_method " ++
        s!"'{method}' (CIMD is for public clients only)"))
    | none => return ()

/-- What is checked of the body. -/
def readBody (url : String) (body : List UInt8) :
    Except UniversalInboxError ClientMetadataDocument :=
  match platform.parseDocument body with
  | .error err => .error (.invalidInputData s!"CIMD document at {url} is not valid JSON: {err}")
  | .ok document =>
    match forbiddenFields.find? fun field =>
        (platform.topLevelKeys body).any (·.contains field) with
    | some field =>
      .error (.invalidInputData (s!"CIMD document at {url} contains forbidden field '{field}' " ++
        "(symmetric client credentials are not allowed)"))
    | none => (document.validate platform url).map fun _ => document

/-- What is checked of the response, and read from it. -/
def readDocument (settings : CimdSettings) (url : String) (response : Response) :
    Except UniversalInboxError FetchedClientMetadata :=
  if response.status ≠ 200 then
    .error (.invalidInputData
      s!"CIMD fetch of {url} returned HTTP {response.statusText}, expected 200")
  else
    match response.contentType.filter (!isJson ·) with
    | some contentType =>
      .error (.invalidInputData
        s!"CIMD document at {url} has non-JSON content-type '{contentType}'")
    | none => do
      let body ← readCapped settings.maxBodyBytes [] response.body
      let document ← readBody platform url body
      return ⟨document, clampTtl (parseCacheMaxAge response.cacheControl) settings⟩

def fetchAndValidate (settings : CimdSettings) (world : World) (url : String) :
    Except UniversalInboxError FetchedClientMetadata :=
  match platform.parse url with
  | .error err => .error (.invalidInputData s!"Invalid CIMD URL {url}: {err}")
  | .ok parsedUrl =>
    if parsedUrl.scheme ≠ "https" then
      .error (.invalidInputData s!"CIMD URL must be https://, got {url}")
    else
      match parsedUrl.host with
      | none => .error (.invalidInputData s!"CIMD URL has no host: {url}")
      | some host => do
        let safeAddr ← resolveSafe world.resolver host (parsedUrl.port.getD 443)
        match world.get safeAddr parsedUrl with
        | .error err =>
          throw (.invalidInputData s!"Failed to fetch CIMD document at {url}: {err}")
        | .ok response => readDocument platform settings url response

end Fetch

/-- A row of `oauth2_client_metadata_cache`. -/
structure CachedClientMetadata where
  clientId : String
  document : ClientMetadataDocument
  expiresAt : DateTime
deriving DecidableEq, Repr

/-- A row of `oauth2_client`. -/
structure OAuth2Client where
  clientId : String
  clientName : Option String
  redirectUris : List String
deriving DecidableEq, Repr

abbrev TransactionId := Nat

/-- Where `resolve_client` is in a transaction: not in it; about to fetch, with the clock as it was
read after the cache; with a fetched document and its expiry, before the upsert of the cache; with
the document, before the upsert of the client. -/
inductive Phase where
  | idle
  | fetching (now : DateTime)
  | fetched (now : DateTime) (document : ClientMetadataDocument) (expiresAt : DateTime)
  | loaded (now : DateTime) (document : ClientMetadataDocument)
deriving DecidableEq, Repr

/-- A transaction of a request that resolves one client, as often as it likes, with the rows it has
written. They are locked until it ends, and only it sees them. -/
structure Resolution where
  id : TransactionId
  clientId : String
  cacheWrite : Option CachedClientMetadata
  clientWrite : Option OAuth2Client
  phase : Phase
deriving DecidableEq, Repr

/-- A document that was fetched, with the clock of before the fetch. -/
structure Fetch where
  url : String
  now : DateTime
  document : ClientMetadataDocument
  ttl : Nat
deriving DecidableEq, Repr

/-- What is stored of the expiry. -/
def Fetch.expiresAt (fetch : Fetch) : DateTime := pgTimestamp (fetch.now + ttlDelta fetch.ttl)

/-- A client that was resolved at an instant. -/
structure Resolved where
  clientId : String
  now : DateTime
  client : Option OAuth2Client
deriving DecidableEq, Repr

/-- The committed rows and the open transactions; then what was fetched, registered and resolved. -/
structure State where
  clock : DateTime
  cache : Table CachedClientMetadata.clientId
  clients : Table OAuth2Client.clientId
  transactions : Table Resolution.id
  fetches : List Fetch
  registered : List OAuth2Client
  resolved : List Resolved

/-- `abort` is a request that fails, or goes away. -/
inductive Input where
  | register (uuid : Nat) (clientName : Option String) (redirectUris : List String)
  | begin (id : TransactionId) (clientId : String)
  | select (id : TransactionId) (now : DateTime)
  | fetch (id : TransactionId) (world : World)
  | upsertCache (id : TransactionId)
  | upsertClient (id : TransactionId)
  | commit (id : TransactionId)
  | abort (id : TransactionId)

def initial (clock : DateTime) : State :=
  ⟨clock, Table.empty, Table.empty, Table.empty, [], [], []⟩

namespace State
variable (s : State)

def advance (x : Resolution) (phase : Phase) : State :=
  { s with transactions := s.transactions.put { x with phase } }

def close (x : Resolution) : State := { s with transactions := s.transactions.erase x.id }

/-- Another transaction has written the row of the client, and not ended. -/
def locked {ρ : Type} (write : Resolution → Option ρ) (x : Resolution) : Bool :=
  s.transactions.rows.any fun y =>
    decide (y.id ≠ x.id ∧ y.clientId = x.clientId) && (write y).isSome

end State

section Steps
variable (platform : Platform) (settings : CimdSettings)

/-- `register_client`, whose transaction has one statement. -/
def registerClient (s : State) (client : OAuth2Client) : Option State :=
  match validateRedirectUris platform.parse client.redirectUris with
  | .error _ => none
  | .ok () =>
    (s.clients.insert? client).map fun clients =>
      { s with clients, registered := client :: s.registered }

/-- The start of `resolve_client`. -/
def selectClient (s : State) (x : Resolution) (now : DateTime) : State :=
  if isCimdClientId platform x.clientId then
    match (x.cacheWrite.or (s.cache.find? x.clientId)).filter fun row => now < row.expiresAt with
    | some row => s.advance x (.loaded now row.document)
    | none => s.advance x (.fetching now)
  else { s with resolved := ⟨x.clientId, now, s.clients.find? x.clientId⟩ :: s.resolved }

def step (s : State) : Input → Option State
  | .register uuid clientName redirectUris =>
    registerClient platform s ⟨String.ofList (Uuid.hyphenated uuid), clientName, redirectUris⟩
  | .begin id clientId =>
    (s.transactions.insert? ⟨id, clientId, none, none, .idle⟩).map fun transactions =>
      { s with transactions }
  | .select id now =>
    if s.clock ≤ now then
      (s.transactions.find? id).bind fun x =>
        match x.phase with
        | .idle => some (selectClient platform { s with clock := now } x now)
        | _ => none
    else none
  | .fetch id world =>
    (s.transactions.find? id).bind fun x =>
      match x.phase with
      | .fetching now =>
        match fetchAndValidate platform settings world x.clientId with
        | .error _ | .ok ⟨_, none⟩ => some (s.close x)
        | .ok ⟨document, some ttl⟩ =>
          let fetch : Fetch := ⟨x.clientId, now, document, ttl⟩
          some <| { s with fetches := fetch :: s.fetches }.advance x
            (.fetched now document fetch.expiresAt)
      | _ => none
  | .upsertCache id =>
    (s.transactions.find? id).bind fun x =>
      match x.phase with
      | .fetched now document expiresAt =>
        if s.locked Resolution.cacheWrite x then none
        else some { s with
          transactions := s.transactions.put { x with
            cacheWrite := some ⟨x.clientId, document, expiresAt⟩, phase := .loaded now document } }
      | _ => none
  | .upsertClient id =>
    (s.transactions.find? id).bind fun x =>
      match x.phase with
      | .loaded now document =>
        if s.locked Resolution.clientWrite x then none
        else
          let client : OAuth2Client := ⟨x.clientId, document.clientName, document.redirectUris⟩
          some { s with
            transactions := s.transactions.put { x with clientWrite := some client, phase := .idle }
            resolved := ⟨x.clientId, now, some client⟩ :: s.resolved }
      | _ => none
  | .commit id =>
    (s.transactions.find? id).bind fun x =>
      match x.phase with
      | .idle =>
        some { s.close x with
          cache := x.cacheWrite.elim s.cache s.cache.put
          clients := x.clientWrite.elim s.clients s.clients.put }
      | _ => none
  | .abort id => (s.transactions.find? id).map s.close

end Steps

section Acceptance
variable {platform : Platform} {settings : CimdSettings}

/-- What is asked of a document at a URL. -/
structure Valid (platform : Platform) (document : ClientMetadataDocument) (url : String) : Prop where
  clientId : document.clientId = url
  redirectUris : document.redirectUris ≠ []
  validated : ∀ uri ∈ document.redirectUris, validateRedirectUri platform.parse uri = .ok ()
  method : ∀ method ∈ document.tokenEndpointAuthMethod, method ∉ forbiddenMethods

/-- The response has the document, in chunks of any size. -/
structure Delivers (platform : Platform) (settings : CimdSettings) (response : Response)
    (document : ClientMetadataDocument) : Prop where
  status : response.status = 200
  contentType : ∀ contentType ∈ response.contentType, isJson contentType = true
  body : ∃ chunks : List (List UInt8), response.body = chunks.map Except.ok ∧
    chunks.flatten.length ≤ settings.maxBodyBytes ∧
    platform.parseDocument chunks.flatten = .ok document ∧
    ∀ keys ∈ platform.topLevelKeys chunks.flatten, ∀ field ∈ forbiddenFields, field ∉ keys

/-- A public address of the host of the URL delivers the document. -/
def Serves (platform : Platform) (settings : CimdSettings) (world : World) (url : String)
    (document : ClientMetadataDocument) : Prop :=
  ∃ parsedUrl host addrs addr response, platform.parse url = .ok parsedUrl ∧
    parsedUrl.scheme = "https" ∧ parsedUrl.host = some host ∧
    world.resolver.isIpLiteral host = false ∧
    world.resolver.lookupHost host (parsedUrl.port.getD 443) = .ok addrs ∧
    addrs.head? = some addr ∧ (∀ resolved ∈ addrs, isSafePublicIp resolved.ip = true) ∧
    world.get addr parsedUrl = .ok response ∧ Delivers platform settings response document

theorem readCapped_eq_ok {cap : Nat} {buf body : List UInt8}
    {stream : List (Except String (List UInt8))} (hbuf : buf.length ≤ cap)
    (h : readCapped cap buf stream = .ok body) :
    ∃ chunks : List (List UInt8), stream = chunks.map Except.ok ∧ body = buf ++ chunks.flatten ∧
      body.length ≤ cap := by
  induction stream generalizing buf with
  | nil =>
    cases h
    exact ⟨[], rfl, (List.append_nil _).symm, hbuf⟩
  | cons item rest ih =>
    cases item with
    | error err => cases h
    | ok chunk =>
      unfold readCapped at h
      split at h
      · cases h
      · next hfits =>
        rw [Nat.not_lt, ← List.length_append] at hfits
        obtain ⟨chunks, rfl, hbody, hlength⟩ := ih hfits h
        refine ⟨chunk :: chunks, rfl, ?_, hlength⟩
        rw [hbody, List.flatten_cons, List.append_assoc]

theorem valid_of_validate {document : ClientMetadataDocument} {url : String}
    (h : document.validate platform url = .ok ()) : Valid platform document url := by
  unfold ClientMetadataDocument.validate at h
  split at h
  · cases h
  next hclientId =>
  split at h
  · cases h
  next hsome =>
  cases huris : document.redirectUris.forM (validateRedirectUri platform.parse) with
  | error error =>
    rw [huris] at h
    cases h
  | ok _ =>
    rw [huris] at h
    have hvalidate : validateRedirectUris platform.parse document.redirectUris = .ok () := by
      rw [validateRedirectUris, if_neg hsome, huris]
    have hvalidated := validateRedirectUris_ok hvalidate
    refine ⟨Decidable.not_not.mp hclientId, by simpa using hsome, hvalidated,
      fun method hmethod hforbidden => ?_⟩
    have hfilter : document.tokenEndpointAuthMethod.filter forbiddenMethods.contains =
        some method :=
      Option.filter_eq_some_iff.mpr ⟨hmethod, List.contains_iff_mem.mpr hforbidden⟩
    simp only [hfilter] at h
    cases h

theorem valid_of_readBody {url : String} {body : List UInt8} {document : ClientMetadataDocument}
    (h : readBody platform url body = .ok document) :
    Valid platform document url ∧ platform.parseDocument body = .ok document ∧
      ∀ keys ∈ platform.topLevelKeys body, ∀ field ∈ forbiddenFields, field ∉ keys := by
  unfold readBody at h
  split at h
  · cases h
  next parsed hparsed =>
  split at h
  · cases h
  next hnone =>
  obtain ⟨_, hvalid, rfl⟩ := Results.map_eq_ok.mp h
  refine ⟨valid_of_validate hvalid, hparsed, fun keys hkeys field hfield hmem => ?_⟩
  refine List.find?_eq_none.mp hnone field hfield ((Option.any_eq_true _ _).mpr ⟨keys, hkeys, ?_⟩)
  exact List.contains_iff_mem.mpr hmem

theorem delivers_of_read {url : String} {response : Response} {fetched : FetchedClientMetadata}
    (h : readDocument platform settings url response = .ok fetched) :
    Delivers platform settings response fetched.document ∧
      Valid platform fetched.document url ∧
      fetched.ttl = clampTtl (parseCacheMaxAge response.cacheControl) settings := by
  unfold readDocument at h
  split at h
  · cases h
  next hstatus =>
  split at h
  · cases h
  next hcontentType =>
  obtain ⟨body, hread, h⟩ := Results.bind_eq_ok.mp h
  obtain ⟨document, hdocument, h⟩ := Results.bind_eq_ok.mp h
  cases h
  obtain ⟨hvalid, hparsed, hkeys⟩ := valid_of_readBody hdocument
  obtain ⟨chunks, hstream, rfl, hlength⟩ := readCapped_eq_ok (Nat.zero_le _) hread
  refine ⟨⟨Decidable.not_not.mp hstatus, fun contentType hmem => ?_,
    chunks, hstream, hlength, hparsed, hkeys⟩, hvalid, rfl⟩
  simpa using Option.filter_eq_none_iff.mp hcontentType contentType hmem

theorem serves_of_fetch {world : World} {url : String} {fetched : FetchedClientMetadata}
    (h : fetchAndValidate platform settings world url = .ok fetched) :
    Serves platform settings world url fetched.document ∧ Valid platform fetched.document url ∧
      ∃ maxAge, fetched.ttl = clampTtl maxAge settings := by
  unfold fetchAndValidate at h
  split at h
  · cases h
  next parsedUrl hparsed =>
  split at h
  · cases h
  next hscheme =>
  split at h
  · cases h
  next host hhost =>
  obtain ⟨addr, hresolved, h⟩ := Results.bind_eq_ok.mp h
  split at h
  · cases h
  next response hresponse =>
  obtain ⟨hliteral, addrs, hlookup, hhead, hsafe⟩ := resolveSafe_eq_ok_iff.mp hresolved
  obtain ⟨hdelivers, hvalid, httl⟩ := delivers_of_read h
  exact ⟨⟨parsedUrl, host, addrs, addr, response, hparsed, Decidable.not_not.mp hscheme, hhost,
    hliteral, hlookup, hhead, hsafe, hresponse, hdelivers⟩, hvalid, _, httl⟩

theorem clampTtl_le {maxAge : Option Nat} {ttl : Nat} (h : clampTtl maxAge settings = some ttl) :
    settings.minTtlSecs ≤ ttl ∧ ttl ≤ settings.maxTtlSecs := by
  unfold clampTtl at h
  split at h
  · next hle =>
    cases h
    exact ⟨le_min hle (le_max_left _ _), min_le_left _ _⟩
  · cases h

end Acceptance

/-- The document was served at its URL, when it was fetched, and is valid. -/
structure Genuine (platform : Platform) (settings : CimdSettings) (fetch : Fetch) : Prop where
  served : ∃ world, Serves platform settings world fetch.url fetch.document
  valid : Valid platform fetch.document fetch.url
  ttl : settings.minTtlSecs ≤ fetch.ttl ∧ fetch.ttl ≤ settings.maxTtlSecs

/-- The document was fetched at the instant, or is not expired then. -/
def Fetch.Current (fetch : Fetch) (now : DateTime) : Prop :=
  fetch.now = now ∨ fetch.now ≤ now ∧ now < fetch.expiresAt

/-- The row is what was made of a document of its URL. -/
structure MadeOf (fetch : Fetch) (client : OAuth2Client) : Prop where
  clientId : fetch.url = client.clientId
  clientName : fetch.document.clientName = client.clientName
  redirectUris : fetch.document.redirectUris = client.redirectUris

section Provenance
variable (platform : Platform) (fetches : List Fetch)

/-- A row of the cache is of a document of its URL. -/
def Kept (row : CachedClientMetadata) : Prop :=
  ∃ fetch ∈ fetches, fetch.url = row.clientId ∧ fetch.document = row.document ∧
    fetch.expiresAt = row.expiresAt

/-- A client with a URL is that of a document, and any other is as it was registered. -/
def Rightful (registered : List OAuth2Client) (client : OAuth2Client) : Prop :=
  if isCimdClientId platform client.clientId then ∃ fetch ∈ fetches, MadeOf fetch client
  else client ∈ registered

/-- What a transaction has in hand. -/
def InHand (clock : DateTime) (x : Resolution) : Prop :=
  match x.phase with
  | .idle => True
  | .fetching now => isCimdClientId platform x.clientId = true ∧ now ≤ clock
  | .fetched now document expiresAt => isCimdClientId platform x.clientId = true ∧
      ∃ fetch ∈ fetches, fetch.url = x.clientId ∧ fetch.now = now ∧ fetch.document = document ∧
        fetch.expiresAt = expiresAt
  | .loaded now document => isCimdClientId platform x.clientId = true ∧
      ∃ fetch ∈ fetches, fetch.url = x.clientId ∧ fetch.document = document ∧ fetch.Current now

/-- What a transaction has, and what it has written. -/
structure Honest (clock : DateTime) (x : Resolution) : Prop where
  hand : InHand platform fetches clock x
  cache : ∀ row ∈ x.cacheWrite, row.clientId = x.clientId ∧ Kept fetches row
  client : ∀ client ∈ x.clientWrite, isCimdClientId platform client.clientId = true ∧
    ∃ fetch ∈ fetches, MadeOf fetch client

/-- A client with a URL was resolved to that of a document that was current then, and any other to
the registered one, if there is. -/
def Answered (registered : List OAuth2Client) (r : Resolved) : Prop :=
  if isCimdClientId platform r.clientId then
    ∃ fetch ∈ fetches, fetch.Current r.now ∧ fetch.url = r.clientId ∧
      ∃ client, r.client = some client ∧ MadeOf fetch client
  else ∀ client, r.client = some client → client.clientId = r.clientId ∧ client ∈ registered

variable {platform fetches} {fetches' : List Fetch}

theorem Kept.mono {row : CachedClientMetadata} (h : Kept fetches row) (hsub : fetches ⊆ fetches') :
    Kept fetches' row := by
  obtain ⟨fetch, hmem, hof⟩ := h
  exact ⟨fetch, hsub hmem, hof⟩

theorem Rightful.mono {registered registered' : List OAuth2Client} {client : OAuth2Client}
    (h : Rightful platform fetches registered client) (hsub : fetches ⊆ fetches')
    (hregistered : registered ⊆ registered') :
    Rightful platform fetches' registered' client := by
  unfold Rightful at h ⊢
  by_cases hcimd : isCimdClientId platform client.clientId = true
  · rw [if_pos hcimd] at h ⊢
    obtain ⟨fetch, hmem, hof⟩ := h
    exact ⟨fetch, hsub hmem, hof⟩
  · rw [if_neg hcimd] at h ⊢
    exact hregistered h

theorem Answered.mono {registered registered' : List OAuth2Client} {r : Resolved}
    (h : Answered platform fetches registered r) (hsub : fetches ⊆ fetches')
    (hregistered : registered ⊆ registered') :
    Answered platform fetches' registered' r := by
  unfold Answered at h ⊢
  by_cases hcimd : isCimdClientId platform r.clientId = true
  · rw [if_pos hcimd] at h ⊢
    obtain ⟨fetch, hmem, hof⟩ := h
    exact ⟨fetch, hsub hmem, hof⟩
  · rw [if_neg hcimd] at h ⊢
    exact fun client hclient => ⟨(h client hclient).1, hregistered (h client hclient).2⟩

theorem InHand.mono {clock clock' : DateTime} {x : Resolution}
    (h : InHand platform fetches clock x) (hsub : fetches ⊆ fetches') (hclock : clock ≤ clock') :
    InHand platform fetches' clock' x := by
  unfold InHand at h ⊢
  split at h
  · trivial
  · exact ⟨h.1, h.2.trans hclock⟩
  · obtain ⟨hcimd, fetch, hmem, hof⟩ := h
    exact ⟨hcimd, fetch, hsub hmem, hof⟩
  · obtain ⟨hcimd, fetch, hmem, hof⟩ := h
    exact ⟨hcimd, fetch, hsub hmem, hof⟩

theorem Honest.mono {clock clock' : DateTime} {x : Resolution}
    (h : Honest platform fetches clock x) (hsub : fetches ⊆ fetches') (hclock : clock ≤ clock') :
    Honest platform fetches' clock' x := by
  refine ⟨h.hand.mono hsub hclock, fun row hrow => ?_, fun client hclient => ?_⟩
  · exact ⟨(h.cache row hrow).1, (h.cache row hrow).2.mono hsub⟩
  · obtain ⟨hcimd, fetch, hmem, hof⟩ := h.client client hclient
    exact ⟨hcimd, fetch, hsub hmem, hof⟩

end Provenance

structure Sound (platform : Platform) (settings : CimdSettings) (s : State) : Prop where
  fetches : ∀ fetch ∈ s.fetches, Genuine platform settings fetch ∧ fetch.now ≤ s.clock
  cache : ∀ row ∈ s.cache.rows, Kept s.fetches row
  clients : ∀ client ∈ s.clients.rows, Rightful platform s.fetches s.registered client
  transactions : ∀ x ∈ s.transactions.rows, Honest platform s.fetches s.clock x
  resolved : ∀ r ∈ s.resolved, Answered platform s.fetches s.registered r
  registered : ∀ client ∈ s.registered, isCimdClientId platform client.clientId = false ∧
    (∀ uri ∈ client.redirectUris, validateRedirectUri platform.parse uri = .ok ()) ∧
    s.clients.find? client.clientId = some client

section Runs
variable {platform : Platform} {settings : CimdSettings} {s t : State} {x : Resolution}

theorem Sound.initial (clock : DateTime) :
    Sound platform settings (initial clock) where
  fetches _ h := (List.not_mem_nil h).elim
  cache _ h := absurd h Table.not_mem_empty
  clients _ h := absurd h Table.not_mem_empty
  transactions _ h := absurd h Table.not_mem_empty
  resolved _ h := (List.not_mem_nil h).elim
  registered _ h := (List.not_mem_nil h).elim

theorem not_cimd_uuid (uuid : Nat) :
    isCimdClientId platform (String.ofList (Uuid.hyphenated uuid)) = false := by
  obtain ⟨error, herror⟩ := platform.parse_uuid uuid
  unfold isCimdClientId
  rw [herror]

theorem Sound.clocked (h : Sound platform settings s) {now : DateTime} (hnow : s.clock ≤ now) :
    Sound platform settings { s with clock := now } where
  fetches fetch hfetch := ⟨(h.fetches fetch hfetch).1, (h.fetches fetch hfetch).2.trans hnow⟩
  cache := h.cache
  clients := h.clients
  transactions x hx := (h.transactions x hx).mono (List.Subset.refl _) hnow
  resolved := h.resolved
  registered := h.registered

/-- One transaction may differ, and something more be resolved. -/
theorem Sound.put (h : Sound platform settings s) (hx : Honest platform s.fetches s.clock x)
    {resolved : List Resolved}
    (hresolved : ∀ r ∈ resolved, Answered platform s.fetches s.registered r) :
    Sound platform settings { s with transactions := s.transactions.put x, resolved } where
  fetches := h.fetches
  cache := h.cache
  clients := h.clients
  transactions y hy := by
    obtain rfl | ⟨hy, -⟩ := Table.mem_put.mp hy
    · exact hx
    · exact h.transactions y hy
  resolved := hresolved
  registered := h.registered

theorem Sound.close (h : Sound platform settings s) (x : Resolution) :
    Sound platform settings (s.close x) where
  fetches := h.fetches
  cache := h.cache
  clients := h.clients
  transactions y hy := h.transactions y (Table.mem_erase.mp hy).1
  resolved := h.resolved
  registered := h.registered

theorem Sound.register (h : Sound platform settings s) {client : OAuth2Client}
    (hcimd : isCimdClientId platform client.clientId = false)
    (ht : registerClient platform s client = some t) : Sound platform settings t := by
  unfold registerClient at ht
  split at ht
  · cases ht
  next _ hvalid =>
  obtain ⟨clients, hinsert, rfl⟩ := Option.map_eq_some_iff.mp ht
  have hsub : s.registered ⊆ client :: s.registered := List.subset_cons_self _ _
  refine ⟨h.fetches, h.cache, fun c hc => ?_, h.transactions,
    fun r hr => (h.resolved r hr).mono (List.Subset.refl _) hsub,
    List.forall_mem_cons.mpr ⟨⟨hcimd, validateRedirectUris_ok hvalid, ?_⟩, fun c hc => ?_⟩⟩
  · obtain ⟨-, hrows⟩ := Table.insert?_eq_some.mp hinsert
    obtain hc | hc := List.mem_append.mp (hrows ▸ hc)
    · exact (h.clients c hc).mono (List.Subset.refl _) hsub
    · obtain rfl := List.mem_singleton.mp hc
      rw [Rightful, if_neg (by rw [hcimd]; exact Bool.false_ne_true)]
      exact List.mem_cons_self
  · rw [Table.find?_insert hinsert, if_pos rfl]
  · obtain ⟨hnot, huris, hfound⟩ := h.registered c hc
    exact ⟨hnot, huris, Table.find?_of_insert hinsert hfound⟩

theorem Sound.select (h : Sound platform settings s) (hx : x ∈ s.transactions.rows)
    {now : DateTime} (hnow : now = s.clock) :
    Sound platform settings (selectClient platform s x now) := by
  have hhonest := h.transactions x hx
  unfold selectClient
  split
  · next hcimd =>
    split
    · next row hrow =>
      obtain ⟨hfound, hfresh⟩ := Option.filter_eq_some_iff.mp hrow
      have hkept : row.clientId = x.clientId ∧ Kept s.fetches row := by
        obtain hwritten | ⟨-, hcached⟩ := Option.or_eq_some_iff.mp hfound
        · exact hhonest.cache row hwritten
        · obtain ⟨hmem, hid⟩ := Table.find?_eq_some.mp hcached
          exact ⟨hid, h.cache row hmem⟩
      obtain ⟨hid, fetch, hfetch, hurl, hdocument, hexpires⟩ := hkept
      refine h.put (x := { x with phase := .loaded now row.document }) ⟨⟨hcimd, fetch, hfetch, hurl.trans hid, hdocument, .inr ⟨?_, ?_⟩⟩,
        hhonest.cache, hhonest.client⟩ h.resolved
      · rw [hnow]
        exact (h.fetches fetch hfetch).2
      · rw [hexpires]
        exact of_decide_eq_true hfresh
    · exact h.put (x := { x with phase := .fetching now })
        ⟨⟨hcimd, hnow.le⟩, hhonest.cache, hhonest.client⟩ h.resolved
  · next hcimd =>
    refine ⟨h.fetches, h.cache, h.clients, h.transactions,
      List.forall_mem_cons.mpr ⟨?_, h.resolved⟩, h.registered⟩
    rw [Answered, if_neg hcimd]
    intro client hclient
    obtain ⟨hmem, hid⟩ := Table.find?_eq_some.mp hclient
    have hrightful := h.clients client hmem
    rw [Rightful, hid, if_neg hcimd] at hrightful
    exact ⟨hid, hrightful⟩

theorem Sound.fetch (h : Sound platform settings s) (hx : x ∈ s.transactions.rows)
    {now : DateTime} (hphase : x.phase = .fetching now) {world : World}
    {document : ClientMetadataDocument} {ttl : Nat}
    (hfetched : fetchAndValidate platform settings world x.clientId = .ok ⟨document, some ttl⟩) :
    let fetch : Fetch := ⟨x.clientId, now, document, ttl⟩
    Sound platform settings ({ s with fetches := fetch :: s.fetches }.advance x
      (.fetched now document fetch.expiresAt)) := by
  intro fetch
  obtain ⟨hserves, hvalid, maxAge, httl⟩ := serves_of_fetch hfetched
  have hhonest := h.transactions x hx
  have hhand := hhonest.hand
  rw [InHand, hphase] at hhand
  have hsub : s.fetches ⊆ fetch :: s.fetches := List.subset_cons_self _ _
  have hnew : Genuine platform settings fetch ∧ fetch.now ≤ s.clock :=
    ⟨⟨⟨world, hserves⟩, hvalid, clampTtl_le httl.symm⟩, hhand.2⟩
  have hmore : Sound platform settings { s with fetches := fetch :: s.fetches } :=
    ⟨List.forall_mem_cons.mpr ⟨hnew, h.fetches⟩, fun row hrow => (h.cache row hrow).mono hsub,
      fun c hc => (h.clients c hc).mono hsub (List.Subset.refl _),
      fun y hy => (h.transactions y hy).mono hsub le_rfl,
      fun r hr => (h.resolved r hr).mono hsub (List.Subset.refl _), h.registered⟩
  have hlater : Honest platform (fetch :: s.fetches) s.clock x := hhonest.mono hsub le_rfl
  exact hmore.put (x := { x with phase := .fetched now document fetch.expiresAt })
    ⟨⟨hhand.1, fetch, List.mem_cons_self, rfl, rfl, rfl, rfl⟩, hlater.cache, hlater.client⟩
    hmore.resolved

theorem Sound.upsertCache (h : Sound platform settings s) (hx : x ∈ s.transactions.rows)
    {now expiresAt : DateTime} {document : ClientMetadataDocument}
    (hphase : x.phase = .fetched now document expiresAt) :
    Sound platform settings { s with
      transactions := s.transactions.put { x with
        cacheWrite := some ⟨x.clientId, document, expiresAt⟩, phase := .loaded now document } } := by
  have hhonest := h.transactions x hx
  have hhand := hhonest.hand
  rw [InHand, hphase] at hhand
  obtain ⟨hcimd, fetch, hfetch, hurl, hnow, hdocument, hexpires⟩ := hhand
  refine h.put (x := { x with
    cacheWrite := some ⟨x.clientId, document, expiresAt⟩, phase := .loaded now document })
    ⟨⟨hcimd, fetch, hfetch, hurl, hdocument, .inl hnow⟩, fun row hrow => ?_, hhonest.client⟩
    h.resolved
  obtain rfl := Option.some.inj (Option.mem_def.mp hrow)
  exact ⟨rfl, fetch, hfetch, hurl, hdocument, hexpires⟩

theorem Sound.upsertClient (h : Sound platform settings s) (hx : x ∈ s.transactions.rows)
    {now : DateTime} {document : ClientMetadataDocument} (hphase : x.phase = .loaded now document) :
    let client : OAuth2Client := ⟨x.clientId, document.clientName, document.redirectUris⟩
    Sound platform settings { s with
      transactions := s.transactions.put { x with clientWrite := some client, phase := .idle }
      resolved := ⟨x.clientId, now, some client⟩ :: s.resolved } := by
  intro client
  have hhonest := h.transactions x hx
  have hhand := hhonest.hand
  rw [InHand, hphase] at hhand
  obtain ⟨hcimd, fetch, hfetch, hurl, hdocument, hcurrent⟩ := hhand
  have hmade : MadeOf fetch client :=
    ⟨hurl, congrArg ClientMetadataDocument.clientName hdocument,
      congrArg ClientMetadataDocument.redirectUris hdocument⟩
  refine h.put (x := { x with clientWrite := some client, phase := .idle })
    ⟨trivial, hhonest.cache, fun c hc => ?_⟩ (List.forall_mem_cons.mpr ⟨?_, h.resolved⟩)
  · obtain rfl := Option.some.inj (Option.mem_def.mp hc)
    exact ⟨hcimd, fetch, hfetch, hmade⟩
  · rw [Answered, if_pos hcimd]
    exact ⟨fetch, hfetch, hcurrent, hurl, client, rfl, hmade⟩

/-- What a transaction has written is committed: a row of the cache, and the client of a URL. -/
theorem Sound.commit (h : Sound platform settings s) (hx : x ∈ s.transactions.rows) :
    Sound platform settings { s.close x with
      cache := x.cacheWrite.elim s.cache s.cache.put
      clients := x.clientWrite.elim s.clients s.clients.put } := by
  obtain ⟨-, hcache, hclient⟩ := h.transactions x hx
  have hclosed := h.close x
  refine ⟨h.fetches, fun row hrow => ?_, fun c hc => ?_, hclosed.transactions, h.resolved,
    fun c hc => ?_⟩
  · cases hwrite : x.cacheWrite with
    | none =>
      rw [hwrite] at hrow
      exact h.cache row hrow
    | some written =>
      rw [hwrite] at hrow
      obtain rfl | ⟨hrow, -⟩ := Table.mem_put.mp hrow
      · exact (hcache row hwrite).2
      · exact h.cache row hrow
  · cases hwrite : x.clientWrite with
    | none =>
      rw [hwrite] at hc
      exact h.clients c hc
    | some written =>
      rw [hwrite] at hc
      obtain rfl | ⟨hc, -⟩ := Table.mem_put.mp hc
      · obtain ⟨hcimd, hmade⟩ := hclient c hwrite
        rw [Rightful, if_pos hcimd]
        exact hmade
      · exact h.clients c hc
  · obtain ⟨hnot, huris, hfound⟩ := h.registered c hc
    refine ⟨hnot, huris, ?_⟩
    cases hwrite : x.clientWrite with
    | none => exact hfound
    | some written =>
      obtain ⟨hcimd, -⟩ := hclient written hwrite
      have hne : c.clientId ≠ written.clientId := by
        intro hsame
        rw [hsame, hcimd] at hnot
        cases hnot
      exact (Table.find?_put.trans (if_neg hne)).trans hfound

theorem Sound.step (h : Sound platform settings s) {i : Input}
    (ht : step platform settings s i = some t) : Sound platform settings t := by
  cases i with
  | register uuid clientName redirectUris =>
    have hregister : registerClient platform s
        ⟨String.ofList (Uuid.hyphenated uuid), clientName, redirectUris⟩ = some t := ht
    refine h.register ?_ hregister
    exact not_cimd_uuid uuid
  | begin id clientId =>
    obtain ⟨transactions, hinsert, rfl⟩ := Option.map_eq_some_iff.mp ht
    obtain ⟨-, hrows⟩ := Table.insert?_eq_some.mp hinsert
    refine ⟨h.fetches, h.cache, h.clients, fun x hx => ?_, h.resolved, h.registered⟩
    obtain hx | hx := List.mem_append.mp (hrows ▸ hx)
    · exact h.transactions x hx
    · obtain rfl := List.mem_singleton.mp hx
      exact ⟨trivial, nofun, nofun⟩
  | select id now =>
    simp only [ClientMetadata.step, Option.ite_none_right_eq_some] at ht
    obtain ⟨hclock, ht⟩ := ht
    obtain ⟨x, hx, rfl, hthen⟩ := Table.find?_bind_eq_some.mp ht
    split at hthen
    · cases hthen
      exact (h.clocked hclock).select hx rfl
    · cases hthen
  | fetch id world =>
    obtain ⟨x, hx, rfl, hthen⟩ := Table.find?_bind_eq_some.mp ht
    split at hthen
    · next now hphase =>
      split at hthen
      · cases hthen; exact h.close x
      · cases hthen; exact h.close x
      · next document ttl hfetched => cases hthen; exact h.fetch hx hphase hfetched
    · cases hthen
  | upsertCache id =>
    obtain ⟨x, hx, rfl, hthen⟩ := Table.find?_bind_eq_some.mp ht
    split at hthen
    · next now document expiresAt hphase =>
      simp only [Option.ite_none_left_eq_some] at hthen
      cases hthen.2
      exact h.upsertCache hx hphase
    · cases hthen
  | upsertClient id =>
    obtain ⟨x, hx, rfl, hthen⟩ := Table.find?_bind_eq_some.mp ht
    split at hthen
    · next now document hphase =>
      simp only [Option.ite_none_left_eq_some] at hthen
      cases hthen.2
      exact h.upsertClient hx hphase
    · cases hthen
  | commit id =>
    obtain ⟨x, hx, rfl, hthen⟩ := Table.find?_bind_eq_some.mp ht
    split at hthen
    · cases hthen
      exact h.commit hx
    · cases hthen
  | abort id =>
    obtain ⟨x, -, rfl⟩ := Option.map_eq_some_iff.mp ht
    exact h.close x

end Runs

/-- Of a client that was resolved, its redirections are those of a document that its URL served from
a public address, at most the longest lifetime before; or those it was registered with. -/
structure ClientsRightful (platform : Platform) (settings : CimdSettings) (s : State) : Prop where
  documents : ∀ r ∈ s.resolved, isCimdClientId platform r.clientId = true →
    ∃ fetch ∈ s.fetches, Genuine platform settings fetch ∧ fetch.Current r.now ∧
      fetch.url = r.clientId ∧ ∃ client, r.client = some client ∧ MadeOf fetch client
  registrations : ∀ r ∈ s.resolved, isCimdClientId platform r.clientId = false →
    ∀ client, r.client = some client → client.clientId = r.clientId ∧ client ∈ s.registered
  validated : ∀ r ∈ s.resolved, ∀ client, r.client = some client →
    ∀ uri ∈ client.redirectUris, validateRedirectUri platform.parse uri = .ok ()
  unchanged : ∀ client ∈ s.registered, s.clients.find? client.clientId = some client

/-- However the transactions interleave, whatever is served at the URLs and when. -/
theorem clients_rightful {platform : Platform} {settings : CimdSettings} {clock : DateTime}
    {inputs : List Input} {s : State}
    (h : exec (step platform settings) (initial clock) inputs = some s) :
    ClientsRightful platform settings s := by
  have hsound : Sound platform settings s :=
    invariant_of_exec (fun _ _ _ hs ht => hs.step ht) (.initial clock) h
  have hdocuments (r : Resolved) (hr : r ∈ s.resolved)
      (hcimd : isCimdClientId platform r.clientId = true) :
      ∃ fetch ∈ s.fetches, Genuine platform settings fetch ∧ fetch.Current r.now ∧
        fetch.url = r.clientId ∧ ∃ client, r.client = some client ∧ MadeOf fetch client := by
    have hanswered := hsound.resolved r hr
    rw [Answered, if_pos hcimd] at hanswered
    obtain ⟨fetch, hfetch, hof⟩ := hanswered
    exact ⟨fetch, hfetch, (hsound.fetches fetch hfetch).1, hof⟩
  have hregistrations (r : Resolved) (hr : r ∈ s.resolved)
      (hcimd : isCimdClientId platform r.clientId = false) (client : OAuth2Client)
      (hclient : r.client = some client) :
      client.clientId = r.clientId ∧ client ∈ s.registered := by
    have hanswered := hsound.resolved r hr
    rw [Answered, if_neg (by rw [hcimd]; exact Bool.false_ne_true)] at hanswered
    exact hanswered client hclient
  refine ⟨hdocuments, hregistrations, fun r hr client hclient => ?_,
    fun client hclient => (hsound.registered client hclient).2.2⟩
  cases hcimd : isCimdClientId platform r.clientId with
  | false => exact (hsound.registered client (hregistrations r hr hcimd client hclient).2).2.1
  | true =>
    obtain ⟨fetch, -, hgenuine, -, -, client', hclient', hmade⟩ := hdocuments r hr hcimd
    obtain rfl := Option.some.inj (hclient'.symm.trans hclient)
    rw [← hmade.redirectUris]
    exact hgenuine.valid.validated

def sampleDocument (redirectUri : String) : ClientMetadataDocument :=
  ⟨"https://client/doc", some "Client", [redirectUri], none⟩

/-- The body has the length of the redirection. -/
def samplePlatform : Platform where
  parse uri :=
    if '-' ∈ uri.toList then .error "relative URL without a base"
    else .ok ⟨"https", "", none, some "client", none, "/doc", none, none⟩
  parseDocument body :=
    .ok (sampleDocument (if body.length = 1 then "https://client/a" else "https://client/b"))
  topLevelKeys _ := none
  parse_uuid uuid := ⟨_, if_pos (by simp [Uuid.hyphenated])⟩

def sampleSettings : CimdSettings := ⟨5120, 60, 86400, 3600⟩

def sampleWorld (body : List UInt8) : World where
  resolver := ⟨fun _ _ => .ok [⟨.v4 ⟨1, 1, 1, 1⟩, 443⟩], fun _ => false, fun _ => ""⟩
  get _ _ := .ok ⟨200, "200 OK", some "application/json", some "no-cache, max-age=1", [.ok body]⟩

/-- The document changes, and the one that was fetched is kept for a minute. -/
def sampleRun : List Input :=
  [.register 7 none ["https://client/c"], .begin 0 "https://client/doc", .select 0 0,
    .fetch 0 (sampleWorld [1]), .upsertCache 0, .upsertClient 0, .commit 0,
    .begin 1 "https://client/doc", .select 1 59000000000, .upsertClient 1, .select 1 60000000000,
    .fetch 1 (sampleWorld [1, 2]), .upsertCache 1, .upsertClient 1, .commit 1]

theorem clients_rightful_sample :
    ∃ s, exec (step samplePlatform sampleSettings) (initial 0) sampleRun = some s ∧
      s.resolved.map (fun r => r.client.map (·.redirectUris)) =
        [some ["https://client/b"], some ["https://client/a"], some ["https://client/a"]] ∧
      ClientsRightful samplePlatform sampleSettings s := by
  have hrun : (exec (step samplePlatform sampleSettings) (initial 0) sampleRun).map (fun s =>
      s.resolved.map fun r => r.client.map (·.redirectUris)) =
        some [some ["https://client/b"], some ["https://client/a"], some ["https://client/a"]] := by
    decide +kernel
  obtain ⟨s, hs, hresolved⟩ := Option.map_eq_some_iff.mp hrun
  exact ⟨s, hs, hresolved, clients_rightful hs⟩

end UniversalInbox.OAuth2.ClientMetadata
