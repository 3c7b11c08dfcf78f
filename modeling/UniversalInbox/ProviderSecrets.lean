import UniversalInbox.Library.Table
import UniversalInbox.Library.Transition
import UniversalInbox.OAuthTokens

/-! The tokens of the providers in what is stored of their responses, over any OAuth callbacks and
token refreshes. -/
namespace UniversalInbox.OAuthTokens.ProviderSecrets
open Transition Json

/-- Where the response of a provider has its tokens. -/
def tokenPaths : IntegrationProviderKind → List (List String)
  | .slack => tokenKeys.map ([·]) ++ tokenKeys.map (["authed_user", ·])
  | _ => tokenKeys.map ([·])

def tokensIn (kind : IntegrationProviderKind) (json : Json) : List String :=
  (tokenPaths kind).filterMap fun path => (json.at? path).bind str?

structure Credential where
  connection : IntegrationConnectionId
  rawTokenResponse : Json

/-- The stored responses, and the tokens that the providers have returned. -/
structure State where
  credentials : Table Credential.connection
  returned : List String

/-- What a provider answers to a callback or a refresh; it is `stored` unless anything else of the
request fails. -/
inductive Input where
  | callback (connection : IntegrationConnectionId) (body : ResponseBody) (stored : Bool)
  | refresh (connection : IntegrationConnectionId) (body : ResponseBody) (stored : Bool)
  | disconnect (connection : IntegrationConnectionId)

namespace State

def receive (s : State) (kind : IntegrationProviderKind) (body : ResponseBody) : State :=
  { s with returned := (body.json.elim [] (tokensIn kind)) ++ s.returned }

def store (s : State) (connection : IntegrationConnectionId) (raw : Json) : State :=
  { s with credentials := s.credentials.put ⟨connection, raw⟩ }

end State

def callbackStores (kind : IntegrationProviderKind) (body : ResponseBody) :
    Except UniversalInboxError Json :=
  (parseTokenResponse kind body).bind (callbackRawResponse kind)

def refreshStores (kind : IntegrationProviderKind) (body : ResponseBody) :
    Except UniversalInboxError Json :=
  (parseTokenResponse kind body).map refreshRawResponse

def storeIf (s : State) (connection : IntegrationConnectionId) (stored : Bool) :
    Except UniversalInboxError Json → State
  | .ok raw => if stored then s.store connection raw else s
  | .error _ => s

def step (kindOf : IntegrationConnectionId → IntegrationProviderKind) (s : State) :
    Input → Option State
  | .callback connection body stored =>
    let kind := kindOf connection
    some (storeIf (s.receive kind body) connection stored (callbackStores kind body))
  | .refresh connection body stored =>
    let kind := kindOf connection
    some (storeIf (s.receive kind body) connection stored (refreshStores kind body))
  | .disconnect connection => some { s with credentials := s.credentials.erase connection }

def initial : State := ⟨Table.empty, []⟩

/-- No stored response has a returned token where its provider has tokens. -/
def Clean (kindOf : IntegrationConnectionId → IntegrationProviderKind) (s : State) : Prop :=
  ∀ c ∈ s.credentials.rows, ∀ token ∈ tokensIn (kindOf c.connection) c.rawTokenResponse,
    token ∉ s.returned

/-- A refresh response that is stored is not Slack's and has no id token. -/
def RefreshGuard (kindOf : IntegrationConnectionId → IntegrationProviderKind) : Input → Prop
  | .refresh connection body stored =>
    stored = true → (parseTokenResponse (kindOf connection) body).isOk = true →
      kindOf connection ≠ .slack ∧ ((body.json.bind (get? "id_token")).bind str?) = none
  | .callback _ _ _ | .disconnect _ => True

section Run
variable {kindOf : IntegrationConnectionId → IntegrationProviderKind} {kind : IntegrationProviderKind}
  {s t : State} {body : ResponseBody} {response : OAuthTokenResponse} {raw : Json}
  {entries : List (String × Json)} {key : String} {connection : IntegrationConnectionId}
  {stored : Bool}

theorem tokenPaths_of_ne (h : kind ≠ .slack) : tokenPaths kind = tokenKeys.map ([·]) := by
  cases kind <;> first | rfl | exact absurd rfl h

theorem tokensIn_of_ne (h : kind ≠ .slack) :
    tokensIn kind raw = tokenKeys.filterMap fun key => (raw.get? key).bind str? := by
  rw [tokensIn, tokenPaths_of_ne h, List.filterMap_map]
  congr 1
  funext key
  rw [Function.comp_apply, at?_singleton]

theorem tokensIn_sanitizeRawResponse : tokensIn kind (sanitizeRawResponse kind raw) = [] := by
  by_cases hslack : kind = .slack
  · subst hslack
    have hauthed : ∀ key ∈ tokenKeys, ((sanitizeRawResponse .slack raw).at? ["authed_user", key]) = none := by
      intro key hkey
      cases h : (raw.removeKeys tokenKeys).get? "authed_user" with
      | none => simp [sanitizeRawResponse, at?, h]
      | some authed => simp [sanitizeRawResponse, at?, h, hkey]
    have htop : ∀ key ∈ tokenKeys, ((sanitizeRawResponse .slack raw).at? [key]) = none := by
      intro key hkey
      rw [at?_singleton]
      simp [sanitizeRawResponse, hkey]
    refine List.filterMap_eq_nil_iff.mpr fun path hpath => ?_
    rcases List.mem_append.mp hpath with hpath | hpath
    · obtain ⟨key, hkey, rfl⟩ := List.mem_map.mp hpath
      rw [htop key hkey]
      rfl
    · obtain ⟨key, hkey, rfl⟩ := List.mem_map.mp hpath
      rw [hauthed key hkey]
      rfl
  · rw [tokensIn_of_ne hslack]
    refine List.filterMap_eq_nil_iff.mpr fun key hkey => ?_
    have hraw : sanitizeRawResponse kind raw = raw.removeKeys tokenKeys := by
      cases kind <;> first | rfl | exact absurd rfl hslack
    rw [hraw, get?_removeKeys, if_pos hkey]
    rfl

theorem tokensIn_of_callback (h : callbackStores kind body = .ok raw) : tokensIn kind raw = [] := by
  unfold callbackStores at h
  cases hparse : parseTokenResponse kind body with
  | error error => rw [hparse] at h; cases h
  | ok response =>
    rw [hparse] at h
    change callbackRawResponse kind response = .ok raw at h
    unfold callbackRawResponse at h
    split at h <;> cases h
    exact tokensIn_sanitizeRawResponse

/-- Besides the two fields that are written out, the stored response has what `extra` has. -/
theorem get?_refreshRawResponse (hextra : response.extra = .object entries)
    (hkey : key ≠ "token_type") (hkey' : key ≠ "expires_in") :
    (refreshRawResponse response).get? key = (Json.object entries).get? key := by
  rw [refreshRawResponse, asSafeTokenResponse, hextra]
  simp [get?, last?, Ne.symm hkey, Ne.symm hkey']

theorem readTokenResponse_extra (h : readTokenResponse raw = some response) :
    ∃ entries, raw = .object entries ∧
      response.extra = .object (entries.filter fun entry => !responseFields.contains entry.1) := by
  cases raw with
  | object entries =>
    simp only [readTokenResponse] at h
    split at h
    · cases h
    · obtain ⟨accessToken, -, h⟩ := Option.bind_eq_some_iff.mp h
      obtain ⟨refreshToken, -, h⟩ := Option.bind_eq_some_iff.mp h
      obtain ⟨tokenType, -, h⟩ := Option.bind_eq_some_iff.mp h
      obtain ⟨expiresIn, -, h⟩ := Option.bind_eq_some_iff.mp h
      cases h
      exact ⟨entries, rfl, rfl⟩
  | _ => cases h

/-- Of the tokens of a standard response, a refresh stores the id token. -/
theorem tokensIn_refresh (hkind : kind ≠ .slack) (h : readTokenResponse raw = some response) :
    tokensIn kind (refreshRawResponse response) = ((raw.get? "id_token").bind str?).toList := by
  obtain ⟨entries, rfl, hextra⟩ := readTokenResponse_extra h
  have hget : ∀ key ∈ tokenKeys, (refreshRawResponse response).get? key =
      if key ∈ responseFields then none else last? key entries := by
    intro key hkey
    rw [get?_refreshRawResponse hextra (by rintro rfl; revert hkey; decide)
      (by rintro rfl; revert hkey; decide)]
    simp only [get?]
    rw [last?_filter (p := fun key => !responseFields.contains key)]
    by_cases hfield : key ∈ responseFields <;> simp [hfield]
  have haccess := hget "access_token" (by decide)
  have hrefresh := hget "refresh_token" (by decide)
  have hid := hget "id_token" (by decide)
  rw [if_pos (by decide)] at haccess hrefresh
  rw [if_neg (by decide)] at hid
  rw [tokensIn_of_ne hkind]
  simp only [tokenKeys, List.filterMap_cons, haccess, hrefresh, hid, Option.bind_none,
    List.filterMap_nil]
  show _ = ((last? "id_token" entries).bind str?).toList
  cases (last? "id_token" entries).bind str? <;> rfl

theorem object_of_ok {text : String} (h : readSlackTokenResponse text raw = .ok response) :
    ∃ entries, raw = .object entries ∧ response.extra = raw ∧
      ((raw.at? ["authed_user", "access_token"]).bind str?).or
        ((raw.get? "access_token").bind str?) ≠ none := by
  unfold readSlackTokenResponse at h
  split at h
  · cases h
  · rename_i hok
    split at h <;> rename_i htoken <;> cases h
    cases raw with
    | object entries => exact ⟨entries, rfl, rfl, by rw [htoken]; exact Option.some_ne_none _⟩
    | _ => exact absurd (fun h => nomatch h) hok

/-- Of a Slack response a refresh stores every token. -/
theorem tokensIn_slackRefresh {text : String} (h : readSlackTokenResponse text raw = .ok response) :
    tokensIn .slack (refreshRawResponse response) = tokensIn .slack raw ∧ tokensIn .slack raw ≠ [] := by
  obtain ⟨entries, rfl, hextra, htoken⟩ := object_of_ok h
  have hat : ∀ path ∈ tokenPaths .slack,
      (refreshRawResponse response).at? path = (Json.object entries).at? path := by
    have hget : ∀ key, key ≠ "token_type" → key ≠ "expires_in" → ∀ path,
        (refreshRawResponse response).at? (key :: path) = (Json.object entries).at? (key :: path) :=
      fun key hkey hkey' path => by simp only [at?, get?_refreshRawResponse hextra hkey hkey']
    simp only [tokenPaths, tokenKeys, List.map_cons, List.map_nil, List.cons_append, List.nil_append,
      List.forall_mem_cons, List.not_mem_nil, false_implies, implies_true, and_true]
    exact ⟨hget _ (by decide) (by decide) _, hget _ (by decide) (by decide) _,
      hget _ (by decide) (by decide) _, hget _ (by decide) (by decide) _,
      hget _ (by decide) (by decide) _, hget _ (by decide) (by decide) _⟩
  refine ⟨List.filterMap_congr fun path hpath => by rw [hat path hpath], fun hnone => htoken ?_⟩
  have hall := List.filterMap_eq_nil_iff.mp hnone
  rw [hall ["authed_user", "access_token"] (by decide), ← at?_singleton,
    hall ["access_token"] (by decide)]
  rfl

theorem parse_slack {raw : Json} (h : parseTokenResponse .slack body = .ok response)
    (hjson : body.json = some raw) : readSlackTokenResponse body.text raw = .ok response := by
  rw [parseTokenResponse, hjson] at h
  exact h

theorem parse_standard {raw : Json} (hkind : kind ≠ .slack)
    (h : parseTokenResponse kind body = .ok response) (hjson : body.json = some raw) :
    readTokenResponse raw = some response := by
  rw [parseTokenResponse, hjson] at h
  cases kind with
  | slack => exact absurd rfl hkind
  | _ =>
    dsimp only at h
    split at h <;> cases h
    assumption

theorem json_of_parse (h : parseTokenResponse kind body = .ok response) :
    ∃ raw, body.json = some raw := by
  unfold parseTokenResponse at h
  cases hjson : body.json with
  | none => rw [hjson] at h; cases h
  | some raw => exact ⟨raw, rfl⟩

/-- What a refresh stores has no token just in case the guard allows it, and no other tokens than
the provider has returned. -/
theorem tokensIn_of_refresh (h : refreshStores kind body = .ok raw) :
    (tokensIn kind raw = [] ↔ kind ≠ .slack ∧ (body.json.bind (get? "id_token")).bind str? = none) ∧
      ∀ token ∈ tokensIn kind raw, token ∈ body.json.elim [] (tokensIn kind) := by
  unfold refreshStores at h
  cases hparse : parseTokenResponse kind body with
  | error error => rw [hparse] at h; cases h
  | ok response =>
    rw [hparse] at h
    cases h
    obtain ⟨json, hjson⟩ := json_of_parse hparse
    rw [hjson]
    by_cases hkind : kind = .slack
    · subst hkind
      obtain ⟨hsame, hsome⟩ := tokensIn_slackRefresh (parse_slack hparse hjson)
      rw [hsame]
      exact ⟨iff_of_false hsome fun h => h.1 rfl, fun token htoken => htoken⟩
    · rw [tokensIn_refresh hkind (parse_standard hkind hparse hjson)]
      refine ⟨⟨fun hnone => ⟨hkind, Option.toList_eq_nil_iff.mp hnone⟩,
        fun h => Option.toList_eq_nil_iff.mpr h.2⟩, fun token htoken => ?_⟩
      show token ∈ tokensIn kind json
      rw [tokensIn_of_ne hkind]
      exact List.mem_filterMap.mpr ⟨"id_token", by decide, Option.mem_toList.mp htoken⟩

/-- Every stored token is one that a provider has returned. -/
def Inv (kindOf : IntegrationConnectionId → IntegrationProviderKind) (s : State) : Prop :=
  ∀ c ∈ s.credentials.rows, ∀ token ∈ tokensIn (kindOf c.connection) c.rawTokenResponse,
    token ∈ s.returned

theorem Inv.receive (h : Inv kindOf s) (kind : IntegrationProviderKind) (body : ResponseBody) :
    Inv kindOf (s.receive kind body) :=
  fun c hc token htoken => List.mem_append_right _ (h c hc token htoken)

theorem Inv.store (h : Inv kindOf s)
    (hraw : ∀ token ∈ tokensIn (kindOf connection) raw, token ∈ s.returned) :
    Inv kindOf (s.store connection raw) := by
  intro c hc
  rcases Table.mem_put.mp hc with rfl | ⟨hc, -⟩
  · exact hraw
  · exact h c hc

theorem inv_step {i : Input} (h : Inv kindOf s) (hstep : step kindOf s i = some t) :
    Inv kindOf t := by
  cases i with
  | callback connection body stored =>
    cases hstep
    have hreceive := h.receive (kindOf connection) body
    cases hraw : callbackStores (kindOf connection) body with
    | error error => exact hreceive
    | ok raw =>
      cases stored with
      | false => exact hreceive
      | true =>
        refine hreceive.store fun token htoken => ?_
        rw [tokensIn_of_callback hraw] at htoken
        cases htoken
  | refresh connection body stored =>
    cases hstep
    have hreceive := h.receive (kindOf connection) body
    cases hraw : refreshStores (kindOf connection) body with
    | error error => exact hreceive
    | ok raw =>
      cases stored with
      | false => exact hreceive
      | true =>
        exact hreceive.store fun token htoken =>
          List.mem_append_left _ ((tokensIn_of_refresh hraw).2 token htoken)
  | disconnect connection =>
    cases hstep
    exact fun c hc => h c (Table.mem_erase.mp hc).1

/-- The stored responses have no tokens at all. -/
theorem clean_iff (h : Inv kindOf s) :
    Clean kindOf s ↔ ∀ c ∈ s.credentials.rows, tokensIn (kindOf c.connection) c.rawTokenResponse = [] := by
  constructor
  · intro hclean c hc
    exact List.eq_nil_iff_forall_not_mem.mpr fun token htoken =>
      hclean c hc token htoken (h c hc token htoken)
  · intro hnone c hc token htoken
    rw [hnone c hc] at htoken
    cases htoken

theorem clean_store (hs : ∀ c ∈ s.credentials.rows,
      tokensIn (kindOf c.connection) c.rawTokenResponse = []) :
    (∀ c ∈ (s.store connection raw).credentials.rows,
      tokensIn (kindOf c.connection) c.rawTokenResponse = []) ↔
        tokensIn (kindOf connection) raw = [] := by
  constructor
  · intro h
    exact h ⟨connection, raw⟩ (Table.mem_put.mpr (.inl rfl))
  · intro hraw c hc
    rcases Table.mem_put.mp hc with rfl | ⟨hc, -⟩
    · exact hraw
    · exact hs c hc

theorem clean_step {i : Input} (h : Inv kindOf s) (hclean : Clean kindOf s)
    (hstep : step kindOf s i = some t) : Clean kindOf t ↔ RefreshGuard kindOf i := by
  rw [clean_iff (inv_step h hstep)]
  have hs := (clean_iff h).mp hclean
  cases i with
  | callback connection body stored =>
    cases hstep
    refine iff_of_true ?_ trivial
    cases hraw : callbackStores (kindOf connection) body with
    | error error => exact hs
    | ok raw =>
      cases stored with
      | false => exact hs
      | true => exact (clean_store (s := s.receive _ body) hs).mpr (tokensIn_of_callback hraw)
  | refresh connection body stored =>
    cases hstep
    cases hparse : parseTokenResponse (kindOf connection) body with
    | error error =>
      have hraw : refreshStores (kindOf connection) body = .error error := by
        rw [refreshStores, hparse]
        rfl
      rw [hraw]
      refine iff_of_true hs fun _ hok => ?_
      rw [hparse] at hok
      cases hok
    | ok response =>
      have hraw : refreshStores (kindOf connection) body = .ok (refreshRawResponse response) := by
        rw [refreshStores, hparse]
        rfl
      rw [hraw]
      cases stored with
      | false => exact iff_of_true hs fun hstored => (nomatch hstored)
      | true =>
        refine (clean_store (s := s.receive _ body) hs).trans ((tokensIn_of_refresh hraw).1.trans ?_)
        exact ⟨fun h _ _ => h, fun h => h rfl (by rw [hparse]; rfl)⟩
  | disconnect connection =>
    cases hstep
    exact iff_of_true (fun c hc => hs c (Table.mem_erase.mp hc).1) trivial

/-- Over any callbacks, refreshes and disconnects: no stored response ever has a token of its
provider just in case no stored refresh response is Slack's or has an id token. -/
theorem clean_iff_guard (kindOf : IntegrationConnectionId → IntegrationProviderKind)
    (inputs : List Input) :
    Along (step kindOf) (fun _ _ t => Clean kindOf t) initial inputs ↔
      Along (step kindOf) (fun _ i _ => RefreshGuard kindOf i) initial inputs := by
  have hinv : Inv kindOf initial := fun c hc => absurd hc Table.not_mem_empty
  have hclean : Clean kindOf initial := fun c hc => absurd hc Table.not_mem_empty
  exact along_good_iff (fun s i t h hstep => inv_step h hstep)
    (fun s i t h hgood hstep => clean_step h hgood hstep) hinv hclean

end Run

instance (kindOf : IntegrationConnectionId → IntegrationProviderKind) (s : State) :
    Decidable (Clean kindOf s) :=
  inferInstanceAs (Decidable (∀ c ∈ _, ∀ token ∈ _, _))

/-- A response of Google with an id token. -/
def googleBody : ResponseBody where
  text := "\x7b\"access_token\":\"ya29\",\"expires_in\":3599,\"id_token\":\"eyJ\"\x7d"
  json := some (.object [("access_token", .string "ya29"), ("expires_in", .integer 3599),
    ("id_token", .string "eyJ")])
  serdeError := ""

/-- A response of Slack with the token of a user. -/
def slackBody : ResponseBody where
  text := "\x7b\"ok\":true,\"authed_user\":\x7b\"access_token\":\"xoxe.xoxp\"\x7d\x7d"
  json := some (.object [("ok", .bool true),
    ("authed_user", .object [("access_token", .string "xoxe.xoxp")])])
  serdeError := ""

/-- The refreshes of a Google and of a Slack connection store tokens, their callbacks do not. -/
theorem refreshes_store_tokens :
    (Along (step fun _ => .googleMail) (fun _ _ t => Clean (fun _ => .googleMail) t) initial
        [.callback ⟨1⟩ googleBody true] ∧
      ¬Along (step fun _ => .googleMail) (fun _ _ t => Clean (fun _ => .googleMail) t) initial
        [.callback ⟨1⟩ googleBody true, .refresh ⟨1⟩ googleBody true]) ∧
    Along (step fun _ => .slack) (fun _ _ t => Clean (fun _ => .slack) t) initial
        [.callback ⟨1⟩ slackBody true] ∧
      ¬Along (step fun _ => .slack) (fun _ _ t => Clean (fun _ => .slack) t) initial
        [.callback ⟨1⟩ slackBody true, .refresh ⟨1⟩ slackBody true] := by
  decide +kernel

end UniversalInbox.OAuthTokens.ProviderSecrets
