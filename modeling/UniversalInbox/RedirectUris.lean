import UniversalInbox.AuthorizationServer

/-! Where an authorization may be sent: the URIs a client registers, and the loopback ones that may
differ from them in the port. -/
namespace UniversalInbox.OAuth2.RedirectUris
open OAuth2 OAuth2.AuthorizationServer

/-- What parsing makes of a URI. -/
structure Url where
  scheme : String
  username : String
  password : Option String
  host : Option String
  port : Option UInt16
  path : String
  query : Option String
  fragment : Option String
deriving DecidableEq, Repr

/-- `Url::parse`. -/
abbrev Parse := String → Except String Url

def isLoopbackHost (host : Option String) : Bool :=
  host == some "localhost" || host == some "127.0.0.1" || host == some "[::1]" ||
    host == some "::1"

def Url.isLoopback (url : Url) : Bool := url.scheme == "http" && isLoopbackHost url.host

section Functions
variable (parse : Parse)

def validateRedirectUri (uri : String) : Except UniversalInboxError Unit :=
  match parse uri with
  | .error error => .error (.invalidInputData s!"Invalid redirect_uri {uri}: {error}")
  | .ok url =>
    if url.scheme = "https" then .ok ()
    else if url.scheme = "http" then
      if isLoopbackHost url.host then .ok ()
      else .error (.invalidInputData s!"http redirect_uri must be loopback: {uri}")
    else .error (.invalidInputData s!"Unsupported redirect_uri scheme '{url.scheme}': {uri}")

def redirectUriMatchesRegistered : RedirectUriMatches := fun registered requested =>
  if registered.contains requested then true
  else
    match parse requested with
    | .error _ => false
    | .ok requestedUrl =>
      if requestedUrl.scheme ≠ "http" ∨ ¬ isLoopbackHost requestedUrl.host then false
      else
        registered.any fun candidate =>
          match parse candidate with
          | .error _ => false
          | .ok candidateUrl =>
            candidateUrl.scheme == "http" && candidateUrl.host == requestedUrl.host &&
              candidateUrl.path == requestedUrl.path && candidateUrl.query == requestedUrl.query

/-- What `register_client` and a metadata document ask of the URIs of a client. -/
def validateRedirectUris (redirectUris : List String) : Except UniversalInboxError Unit :=
  if redirectUris.isEmpty then
    .error (.invalidInputData "redirect_uris must contain at least one URI")
  else redirectUris.forM (validateRedirectUri parse)

end Functions

/-- Two `http` URIs of one loopback host that ask for the same thing there. -/
structure SameLoopback (registered requested : Url) : Prop where
  registered_scheme : registered.scheme = "http"
  requested_scheme : requested.scheme = "http"
  loopback : isLoopbackHost requested.host = true
  host : registered.host = requested.host
  path : registered.path = requested.path
  query : registered.query = requested.query

/-- A registered URI, or a loopback one that agrees with it on everything but the port. -/
def ExactUpToPort (parse : Parse) (registered : List String) (requested : String) : Prop :=
  requested ∈ registered ∨
    ∃ candidate ∈ registered, ∃ candidateUrl requestedUrl,
      parse candidate = .ok candidateUrl ∧ parse requested = .ok requestedUrl ∧
        requestedUrl.isLoopback = true ∧
          requestedUrl = { candidateUrl with port := requestedUrl.port }

section Matching
variable {parse : Parse} {registered : List String} {requested uri : String}

theorem isLoopback_iff {url : Url} :
    url.isLoopback = true ↔ url.scheme = "http" ∧ isLoopbackHost url.host = true := by
  unfold Url.isLoopback
  rw [Bool.and_eq_true, beq_iff_eq]

/-- What the matcher accepts. -/
theorem redirectUriMatches_iff :
    redirectUriMatchesRegistered parse registered requested = true ↔
      requested ∈ registered ∨
        ∃ candidate ∈ registered, ∃ candidateUrl requestedUrl,
          parse candidate = .ok candidateUrl ∧ parse requested = .ok requestedUrl ∧
            SameLoopback candidateUrl requestedUrl := by
  unfold redirectUriMatchesRegistered
  by_cases hexact : requested ∈ registered
  · rw [if_pos (List.contains_iff_mem.mpr hexact)]
    exact ⟨fun _ => .inl hexact, fun _ => rfl⟩
  rw [if_neg (mt List.contains_iff_mem.mp hexact)]
  cases hrequested : parse requested with
  | error error =>
    refine ⟨nofun, ?_⟩
    rintro (h | ⟨_, _, _, _, _, h, _⟩)
    · exact absurd h hexact
    · cases h
  | ok requestedUrl =>
    dsimp only
    split
    · next hother =>
      refine ⟨nofun, ?_⟩
      rintro (h | ⟨_, _, _, _, _, h, hsame⟩)
      · exact absurd h hexact
      · cases h
        exact (hother.elim (absurd hsame.requested_scheme) (absurd hsame.loopback))
    · next hloopback =>
      obtain ⟨hscheme, hhost⟩ := not_or.mp hloopback
      rw [List.any_eq_true]
      constructor
      · rintro ⟨candidate, hcandidate, hmatch⟩
        refine .inr ⟨candidate, hcandidate, ?_⟩
        cases hparse : parse candidate with
        | error error =>
          rw [hparse] at hmatch
          cases hmatch
        | ok candidateUrl =>
          rw [hparse] at hmatch
          simp only [Bool.and_eq_true, beq_iff_eq] at hmatch
          obtain ⟨⟨⟨hscheme', hhost'⟩, hpath⟩, hquery⟩ := hmatch
          exact ⟨candidateUrl, requestedUrl, rfl, rfl, hscheme', not_not.mp hscheme,
            not_not.mp hhost, hhost', hpath, hquery⟩
      · rintro (h | ⟨candidate, hcandidate, candidateUrl, _, hparse, hsome, hsame⟩)
        · exact absurd h hexact
        · cases hsome
          refine ⟨candidate, hcandidate, ?_⟩
          rw [hparse]
          simp only [Bool.and_eq_true, beq_iff_eq]
          exact ⟨⟨⟨hsame.registered_scheme, hsame.host⟩, hsame.path⟩, hsame.query⟩

/-- Nothing but a registered URI is accepted, or one of the loopback host of a registered URI with
its path and its query. -/
theorem registered_or_sameLoopback (parse : Parse) (registered : List String) (requested : String)
    (hmatches : redirectUriMatchesRegistered parse registered requested = true) :
    requested ∈ registered ∨
      ∃ candidate ∈ registered, ∃ candidateUrl requestedUrl,
        parse candidate = .ok candidateUrl ∧ parse requested = .ok requestedUrl ∧
          SameLoopback candidateUrl requestedUrl :=
  redirectUriMatches_iff.mp hmatches

/-- How the URIs below are parsed. -/
def parseLocalhost : Parse := fun uri =>
  if uri = "http://localhost:8080/callback" then
    .ok ⟨"http", "", none, some "localhost", some 8080, "/callback", none, none⟩
  else if uri = "http://localhost:56010/callback" then
    .ok ⟨"http", "", none, some "localhost", some 56010, "/callback", none, none⟩
  else if uri = "http://user@localhost:56010/callback#fragment" then
    .ok ⟨"http", "user", none, some "localhost", some 56010, "/callback", none, some "fragment"⟩
  else .error "relative URL without a base"

theorem ephemeralPort_sameLoopback :
    "http://localhost:56010/callback" ∈ ["http://localhost:8080/callback"] ∨
      ∃ candidate ∈ ["http://localhost:8080/callback"], ∃ candidateUrl requestedUrl,
        parseLocalhost candidate = .ok candidateUrl ∧
          parseLocalhost "http://localhost:56010/callback" = .ok requestedUrl ∧
            SameLoopback candidateUrl requestedUrl :=
  registered_or_sameLoopback parseLocalhost _ _ (by decide)

/-- A user and a fragment that nobody registered. -/
theorem user_not_exactUpToPort :
    redirectUriMatchesRegistered parseLocalhost ["http://localhost:8080/callback"]
        "http://user@localhost:56010/callback#fragment" = true ∧
      ¬ ExactUpToPort parseLocalhost ["http://localhost:8080/callback"]
        "http://user@localhost:56010/callback#fragment" := by
  refine ⟨by decide, ?_⟩
  rintro (h | ⟨candidate, hcandidate, candidateUrl, requestedUrl, hparse, hrequested, -, hport⟩)
  · revert h
    decide
  · obtain rfl := List.mem_singleton.mp hcandidate
    cases hparse
    cases hrequested
    exact absurd (congrArg Url.username hport) (by decide)

/-- A loopback URI whose port alone differs is always accepted. -/
theorem matches_of_exactUpToPort (h : ExactUpToPort parse registered requested) :
    redirectUriMatchesRegistered parse registered requested = true := by
  refine redirectUriMatches_iff.mpr (h.imp_right ?_)
  rintro ⟨candidate, hcandidate, candidateUrl, requestedUrl, hparse, hrequested, hloopback, hport⟩
  obtain ⟨hscheme, hhost⟩ := isLoopback_iff.mp hloopback
  exact ⟨candidate, hcandidate, candidateUrl, requestedUrl, hparse, hrequested,
    (congrArg Url.scheme hport).symm.trans hscheme, hscheme, hhost,
    (congrArg Url.host hport).symm, (congrArg Url.path hport).symm,
    (congrArg Url.query hport).symm⟩

/-- What may be registered. -/
theorem validateRedirectUri_iff :
    validateRedirectUri parse uri = .ok () ↔
      ∃ url, parse uri = .ok url ∧ (url.scheme = "https" ∨ url.isLoopback = true) := by
  unfold validateRedirectUri
  cases hparse : parse uri with
  | error error => exact ⟨nofun, nofun⟩
  | ok url =>
    dsimp only
    simp only [Except.ok.injEq, exists_eq_left', isLoopback_iff]
    by_cases hhttps : url.scheme = "https"
    · rw [if_pos hhttps]
      exact ⟨fun _ => .inl hhttps, fun _ => rfl⟩
    rw [if_neg hhttps]
    by_cases hhttp : url.scheme = "http"
    · rw [if_pos hhttp]
      by_cases hloopback : isLoopbackHost url.host = true
      · rw [if_pos hloopback]
        exact ⟨fun _ => .inr ⟨hhttp, hloopback⟩, fun _ => rfl⟩
      · rw [if_neg hloopback]
        exact ⟨nofun, fun h => absurd (h.resolve_left hhttps).2 hloopback⟩
    · rw [if_neg hhttp]
      exact ⟨nofun, fun h => absurd (h.resolve_left hhttps).1 hhttp⟩

theorem validateRedirectUris_ok {redirectUris : List String}
    (h : validateRedirectUris parse redirectUris = .ok ()) :
    ∀ uri ∈ redirectUris, validateRedirectUri parse uri = .ok () := by
  unfold validateRedirectUris at h
  split at h
  · cases h
  · clear * - h
    induction redirectUris with
    | nil => exact nofun
    | cons uri rest ih =>
      replace h : (validateRedirectUri parse uri >>= fun _ =>
        rest.forM (validateRedirectUri parse)) = .ok () := h
      cases huri : validateRedirectUri parse uri with
      | error error =>
        rw [huri] at h
        cases h
      | ok _ =>
        rw [huri] at h
        exact List.forall_mem_cons.mpr ⟨huri, ih h⟩

/-- The freedom of the port lets in nothing that could not be registered. -/
theorem validate_of_matches
    (hregistered : ∀ uri ∈ registered, validateRedirectUri parse uri = .ok ())
    (hmatches : redirectUriMatchesRegistered parse registered requested = true) :
    validateRedirectUri parse requested = .ok () := by
  rcases redirectUriMatches_iff.mp hmatches with hexact | ⟨_, _, _, requestedUrl, _, hparse, hsame⟩
  · exact hregistered requested hexact
  · exact validateRedirectUri_iff.mpr ⟨requestedUrl, hparse,
      .inr (isLoopback_iff.mpr ⟨hsame.requested_scheme, hsame.loopback⟩)⟩

/-- A code is only made for a redirection over `https`, or to a loopback host. -/
theorem validate_of_createAuthorizationCode {userId : UserId} {request : AuthorizationRequest}
    {code : String} {now : DateTime} {row : OAuth2AuthorizationCode}
    (hregistered : validateRedirectUris parse registered = .ok ())
    (hcode : createAuthorizationCode (redirectUriMatchesRegistered parse) (some registered) userId
      request code now = .ok row) :
    validateRedirectUri parse row.redirectUri = .ok () := by
  unfold createAuthorizationCode checkClient at hcode
  split at hcode
  · cases hcode
  · dsimp only at hcode
    split at hcode
    · next hmatches =>
      cases hcode
      exact validate_of_matches (validateRedirectUris_ok hregistered) hmatches
    · cases hcode

end Matching

end UniversalInbox.OAuth2.RedirectUris
