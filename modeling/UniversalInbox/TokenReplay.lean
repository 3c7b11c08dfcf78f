import UniversalInbox.RefreshTokens

/-! One `refresh_token` request on its own: what it does to the rows of the table. -/
namespace UniversalInbox.OAuth2.TokenReplay
open RefreshTokens Transition

abbrev Tokens := Table OAuth2RefreshToken.tokenHash

/-- What a request presents and draws, and `now()` in its transaction and in the one that revokes
a family. -/
structure Presented where
  refreshToken : String
  clientId : String
  draw : Draw
  now : DateTime
  familyNow : DateTime
deriving DecidableEq, Repr

def revokeRefreshTokenIfActive (tokens : Tokens) (tokenHash clientId : String) (now : DateTime) :
    Tokens × Option OAuth2RefreshToken :=
  match tokens.find? tokenHash with
  | some token =>
    if token.isActive clientId now then
      (State.revoke tokens [tokenHash] now, some (token.revoke now))
    else (tokens, none)
  | none => (tokens, none)

def revokeAllRefreshTokensForClient (tokens : Tokens) (existing : OAuth2RefreshToken)
    (now : DateTime) : Tokens :=
  tokens.update (inFamily existing) (OAuth2RefreshToken.revoke now)
    (OAuth2RefreshToken.revoke_tokenHash now)

section Request
variable (service : OAuth2Service) (tokens : Tokens) (presented : Presented)

/-- An error aborts the transaction of the request, but not the one of the family. -/
def refreshToken : Tokens × Except UniversalInboxError TokenResponse :=
  match revokeRefreshTokenIfActive tokens (service.hashToken presented.refreshToken)
      presented.clientId presented.now with
  | (revoked, some token) =>
    match revoked.insert? (newRefreshToken service presented.draw presented.clientId token.userId
        token.scope token.resource) with
    | some inserted =>
      (inserted, .ok (tokenResponse service presented.draw presented.clientId token.userId
        token.scope token.resource))
    | none =>
      (tokens, .error (.databaseError "Failed to insert OAuth2 refresh token into storage"))
  | (_, none) =>
    match tokens.find? (service.hashToken presented.refreshToken) with
    | some existing =>
      (revokeAllRefreshTokensForClient tokens existing presented.familyNow,
        .error invalidRefreshToken)
    | none => (tokens, .error invalidRefreshToken)

end Request

/-- A token other than the presented one is revoked that was not. -/
def RevokesOthers (before after : Tokens) (tokenHash : String) : Prop :=
  ∃ other ∈ before.rows, other.tokenHash ≠ tokenHash ∧ other.revokedAt = none ∧
    ∃ row, after.find? other.tokenHash = some row ∧ row.revokedAt ≠ none

/-- Other tokens are revoked just in case the presented one was already. -/
def OnlyReplayRevokes (service : OAuth2Service) (tokens : Tokens) (presented : Presented) : Prop :=
  RevokesOthers tokens (refreshToken service tokens presented).1
      (service.hashToken presented.refreshToken) ↔
    ∃ row ∈ tokens.rows, row.tokenHash = service.hashToken presented.refreshToken ∧
      row.revokedAt ≠ none

/-- The token was consumed, or it belongs to a different client. -/
def Replayed (clientId : String) (row : OAuth2RefreshToken) : Prop :=
  row.revokedAt ≠ none ∨ row.clientId ≠ clientId

/-- The token has expired, and nothing else is wrong with it. -/
def Lapsed (clientId : String) (now : DateTime) (row : OAuth2RefreshToken) : Prop :=
  row.clientId = clientId ∧ row.revokedAt = none ∧ ∃ expiresAt ∈ row.expiresAt, expiresAt ≤ now

/-- What a request does, case by case of the row of its token: none, an active one, or one that was
replayed. -/
structure RevokesFamilyOfReplay (service : OAuth2Service) (tokens : Tokens) (presented : Presented) :
    Prop where
  unknown : tokens.find? (service.hashToken presented.refreshToken) = none →
    refreshToken service tokens presented = (tokens, .error invalidRefreshToken)
  active : ∀ row, tokens.find? (service.hashToken presented.refreshToken) = some row →
    row.isActive presented.clientId presented.now = true →
      ∀ other ∈ tokens.rows, other ≠ row →
        (refreshToken service tokens presented).1.find? other.tokenHash = some other
  replayed : ∀ row, tokens.find? (service.hashToken presented.refreshToken) = some row →
    Replayed presented.clientId row →
      (refreshToken service tokens presented).2 = .error invalidRefreshToken ∧
        ∀ tokenHash, (refreshToken service tokens presented).1.find? tokenHash =
          (tokens.find? tokenHash).map fun other =>
            if other.family = row.family ∧ other.revokedAt = none then
              other.revoke presented.familyNow
            else other
  others : (∀ row, tokens.find? (service.hashToken presented.refreshToken) = some row →
      ¬ Lapsed presented.clientId presented.now row) →
    RevokesOthers tokens (refreshToken service tokens presented).1
        (service.hashToken presented.refreshToken) →
      ∃ row, tokens.find? (service.hashToken presented.refreshToken) = some row ∧
        Replayed presented.clientId row

section Frame
variable {service : OAuth2Service} {tokens : Tokens} {presented : Presented}
  {row : OAuth2RefreshToken} {clientId : String} {now : DateTime}

theorem inFamily_iff {other : OAuth2RefreshToken} :
    inFamily row other = true ↔ other.family = row.family ∧ other.revokedAt = none := by
  unfold inFamily OAuth2RefreshToken.family
  simp only [Bool.and_eq_true, beq_iff_eq, Option.isNone_iff_eq_none, Prod.mk.injEq]

/-- A row that is not active was replayed or has lapsed. -/
theorem replayed_or_lapsed (hinactive : row.isActive clientId now = false) :
    Replayed clientId row ∨ Lapsed clientId now row := by
  by_contra h
  obtain ⟨hreplayed, hlapsed⟩ := not_or.mp h
  obtain ⟨hrevoked, hclient⟩ := not_or.mp hreplayed
  refine Bool.eq_false_iff.mp hinactive (OAuth2RefreshToken.isActive_iff.mpr
    ⟨not_not.mp hclient, not_not.mp hrevoked, fun expiresAt hexpires => ?_⟩)
  by_contra hpast
  exact hlapsed ⟨not_not.mp hclient, not_not.mp hrevoked, expiresAt, hexpires, not_lt.mp hpast⟩

theorem Replayed.not_active (h : Replayed clientId row) : row.isActive clientId now = false := by
  refine Bool.eq_false_iff.mpr fun hactive => ?_
  obtain ⟨hclient, hrevoked, -⟩ := OAuth2RefreshToken.isActive_iff.mp hactive
  exact h.elim (absurd hrevoked) (absurd hclient)

/-! The branches of a request. -/

theorem refreshToken_of_unknown
    (hnone : tokens.find? (service.hashToken presented.refreshToken) = none) :
    refreshToken service tokens presented = (tokens, .error invalidRefreshToken) := by
  unfold refreshToken revokeRefreshTokenIfActive
  rw [hnone]

theorem refreshToken_of_inactive
    (hfind : tokens.find? (service.hashToken presented.refreshToken) = some row)
    (hinactive : row.isActive presented.clientId presented.now = false) :
    refreshToken service tokens presented =
      (revokeAllRefreshTokensForClient tokens row presented.familyNow,
        .error invalidRefreshToken) := by
  unfold refreshToken revokeRefreshTokenIfActive
  rw [hfind]
  dsimp only
  rw [hinactive, if_neg Bool.false_ne_true]

/-- The rows an active token leaves alone: all of them but its own. -/
theorem find?_of_active
    (hfind : tokens.find? (service.hashToken presented.refreshToken) = some row)
    (hactive : row.isActive presented.clientId presented.now = true) {other : OAuth2RefreshToken}
    (hother : other ∈ tokens.rows) (hne : other ≠ row) :
    (refreshToken service tokens presented).1.find? other.tokenHash = some other := by
  obtain ⟨hrow, hhash⟩ := Table.find?_eq_some.mp hfind
  have hstored : tokens.find? other.tokenHash = some other :=
    Table.find?_eq_some.mpr ⟨hother, rfl⟩
  have hkept : (State.revoke tokens [service.hashToken presented.refreshToken]
      presented.now).find? other.tokenHash = some other := by
    rw [find?_revoke_of_not_mem, hstored]
    intro hmem
    exact hne (Table.eq_of_key hother hrow ((List.mem_singleton.mp hmem).trans hhash.symm))
  unfold refreshToken revokeRefreshTokenIfActive
  rw [hfind]
  dsimp only
  rw [hactive, if_pos rfl]
  dsimp only
  split
  · next inserted hinsert => exact Table.find?_of_insert hinsert hkept
  · exact hstored

theorem find?_revokeAll {existing : OAuth2RefreshToken} {tokenHash : String} :
    (revokeAllRefreshTokensForClient tokens existing now).find? tokenHash =
      (tokens.find? tokenHash).map fun other =>
        if other.family = existing.family ∧ other.revokedAt = none then other.revoke now
        else other := by
  unfold revokeAllRefreshTokensForClient
  rw [Table.find?_update]
  congr 1
  funext other
  simp only [inFamily_iff]

/-- Whatever is stored and presented. -/
theorem revokesFamilyOfReplay (service : OAuth2Service) (tokens : Tokens) (presented : Presented) :
    RevokesFamilyOfReplay service tokens presented where
  unknown := refreshToken_of_unknown
  active row hfind hactive other hother hne := find?_of_active hfind hactive hother hne
  replayed row hfind hreplayed := by
    rw [refreshToken_of_inactive hfind hreplayed.not_active]
    exact ⟨rfl, fun tokenHash => find?_revokeAll⟩
  others hlapsed hrevokes := by
    obtain ⟨other, hother, hne, hnone, after, hafter, hrevoked⟩ := hrevokes
    cases hfind : tokens.find? (service.hashToken presented.refreshToken) with
    | none =>
      rw [refreshToken_of_unknown hfind, Table.find?_eq_some.mpr ⟨hother, rfl⟩] at hafter
      exact absurd (Option.some.inj hafter ▸ hnone) hrevoked
    | some row =>
      refine ⟨row, rfl, ?_⟩
      cases hactive : row.isActive presented.clientId presented.now with
      | true =>
        have hdifferent : other ≠ row := fun h => hne (h ▸ (Table.find?_eq_some.mp hfind).2)
        rw [find?_of_active hfind hactive hother hdifferent] at hafter
        exact absurd (Option.some.inj hafter ▸ hnone) hrevoked
      | false => exact (replayed_or_lapsed hactive).resolve_right (hlapsed row hfind)

end Frame

/-- Two valid tokens, of which the client of neither presents one. -/
def validTokens : Tokens := ⟨[sampleToken "ancestor" none, sampleToken "parent" none], by decide⟩

def byOtherClient : Presented :=
  { refreshToken := "parent", clientId := "other", draw := sampleDraw, now := 10, familyNow := 11 }

theorem byOtherClient_not_onlyReplayRevokes :
    ¬ OnlyReplayRevokes sampleService validTokens byOtherClient := by
  intro h
  have hrevokes : RevokesOthers validTokens (refreshToken sampleService validTokens byOtherClient).1
      (sampleService.hashToken byOtherClient.refreshToken) :=
    ⟨sampleToken "ancestor" none, by decide, by decide, rfl, sampleToken "ancestor" (some 11),
      by decide, by decide⟩
  obtain ⟨row, hrow, -, hrevoked⟩ := h.mp hrevokes
  revert row
  decide

/-! A request that runs alone is a run of the interleaved statements. -/

section Machine
variable {service : OAuth2Service} {tokens : Tokens} {presented : Presented}
  {row : OAuth2RefreshToken}

def request (presented : Presented) (phase : Phase) : Request :=
  ⟨0, presented.refreshToken, presented.clientId, presented.now, phase⟩

def alone (tokens : Tokens) (presented : Presented) (phase : Phase) : State :=
  ⟨tokens, ⟨[request presented phase], List.nodup_singleton _⟩, 1, [], [], []⟩

theorem step_begin :
    step service (initial tokens) (.begin presented.refreshToken presented.clientId presented.now) =
      some (alone tokens presented .started) := rfl

theorem step_revokeIfActive (service : OAuth2Service) (tokens : Tokens) (presented : Presented) :
    step service (alone tokens presented .started) (.revokeIfActive 0) =
      some (alone tokens presented
        (if (tokens.find? (service.hashToken presented.refreshToken)).any
            (·.isActive presented.clientId presented.now) then .updating else .refused)) := rfl

theorem step_claim
    (hfind : tokens.find? (service.hashToken presented.refreshToken) = some row)
    (hactive : row.isActive presented.clientId presented.now = true) :
    step service (alone tokens presented .updating) (.claim 0) =
      some (alone tokens presented (.claimed row)) := by
  show (match tokens.find? (service.hashToken presented.refreshToken) with
    | some token => some (alone tokens presented
        (if token.isActive presented.clientId presented.now then .claimed token else .refused))
    | none => some (alone tokens presented .refused)) = _
  rw [hfind]
  dsimp only
  rw [if_pos hactive]

theorem step_lookUp
    (hfind : tokens.find? (service.hashToken presented.refreshToken) = some row) :
    step service (alone tokens presented .refused) (.lookUp 0) =
      some (alone tokens presented (.reuse row)) := by
  show (match tokens.find? (service.hashToken presented.refreshToken) with
    | some existing => some (alone tokens presented (.reuse existing))
    | none => some _) = _
  rw [hfind]

theorem step_lookUp_unknown
    (hnone : tokens.find? (service.hashToken presented.refreshToken) = none) :
    step service (alone tokens presented .refused) (.lookUp 0) =
      some ⟨tokens, Table.empty, 1, [], [], [⟨0, invalidRefreshToken⟩]⟩ := by
  show (match tokens.find? (service.hashToken presented.refreshToken) with
    | some existing => some (alone tokens presented (.reuse existing))
    | none => some _) = _
  rw [hnone]
  rfl

theorem step_mint {inserted : Tokens}
    (hinsert : (State.revoke tokens [row.tokenHash] presented.now).insert?
      (newRefreshToken service presented.draw presented.clientId row.userId row.scope
        row.resource) = some inserted) :
    step service (alone tokens presented (.claimed row)) (.mint 0 presented.draw) =
      some (alone tokens presented (.minted row
        (newRefreshToken service presented.draw presented.clientId row.userId row.scope
          row.resource)
        (tokenResponse service presented.draw presented.clientId row.userId row.scope
          row.resource))) := by
  have hnone := Table.find?_eq_none_of_insert hinsert
  have hnew : (tokens.find? (newRefreshToken service presented.draw presented.clientId row.userId
      row.scope row.resource).tokenHash).isNone = true := by
    unfold State.revoke at hnone
    rw [Table.find?_update, Option.map_eq_none_iff] at hnone
    rw [hnone]
    rfl
  exact if_pos ⟨hnew, rfl⟩

theorem step_commit {child : OAuth2RefreshToken} {response : TokenResponse} {inserted : Tokens}
    (hinsert : (State.revoke tokens [row.tokenHash] presented.now).insert? child = some inserted) :
    step service (alone tokens presented (.minted row child response)) (.commit 0) =
      some ⟨inserted, Table.empty, 1,
        [⟨0, presented.refreshToken, presented.clientId, presented.now, row, child, response⟩],
        [], []⟩ := by
  show ((State.revoke tokens [row.tokenHash] presented.now).insert? child).map _ = _
  rw [hinsert]
  rfl

/-- The rows the `UPDATE` of the family matches and then revokes, when nobody else is there. -/
def familyHashes (tokens : Tokens) (row : OAuth2RefreshToken) : List String :=
  ((tokens.rows.filter (inFamily row)).map (·.tokenHash)).filter fun tokenHash =>
    (tokens.find? tokenHash).any (inFamily row)

theorem step_revokeFamily :
    step service (alone tokens presented (.reuse row)) (.revokeFamily 0 presented.familyNow) =
      some (alone tokens presented (.matchingFamily row presented.familyNow
        ((tokens.rows.filter (inFamily row)).map (·.tokenHash)))) := rfl

theorem step_claimFamily :
    step service (alone tokens presented (.matchingFamily row presented.familyNow
        ((tokens.rows.filter (inFamily row)).map (·.tokenHash)))) (.claimFamily 0) =
      some (alone tokens presented
        (.revokedFamily row presented.familyNow (familyHashes tokens row))) := by
  have hfree : ((tokens.rows.filter (inFamily row)).map (·.tokenHash)).any
      ((alone tokens presented (.matchingFamily row presented.familyNow
        ((tokens.rows.filter (inFamily row)).map (·.tokenHash)))).locked 0) = false :=
    List.any_eq_false.mpr fun _ _ => Bool.false_ne_true
  exact if_neg (Bool.eq_false_iff.mp hfree)

theorem step_commitFamily (service : OAuth2Service) (tokens : Tokens) (presented : Presented)
    (row : OAuth2RefreshToken) (tokenHashes : List String) :
    step service (alone tokens presented (.revokedFamily row presented.familyNow tokenHashes))
        (.commitFamily 0) =
      some ⟨State.revoke tokens tokenHashes presented.familyNow, Table.empty, 1, [],
        [⟨0, row, 1, invalidRefreshToken⟩], []⟩ := rfl

theorem revoke_familyHashes {now : DateTime} :
    State.revoke tokens (familyHashes tokens row) now =
      revokeAllRefreshTokensForClient tokens row now := by
  refine Table.update_congr fun other hother => ?_
  have hstored : tokens.find? other.tokenHash = some other :=
    Table.find?_eq_some.mpr ⟨hother, rfl⟩
  unfold familyHashes
  rw [Bool.eq_iff_iff, List.contains_iff_mem, List.mem_filter, Table.mem_map_filter, hstored,
    Option.any_some, and_self]

/-- The statements of the request, run alone from the given tokens, leave these others. -/
def Leaves (service : OAuth2Service) (tokens : Tokens) (presented : Presented) (after : Tokens) :
    Prop :=
  ∃ inputs t, exec (step service) (initial tokens)
      (.begin presented.refreshToken presented.clientId presented.now :: inputs) = some t ∧
    t.requests.rows = [] ∧ t.tokens = after

theorem leaves_of_unknown
    (hnone : tokens.find? (service.hashToken presented.refreshToken) = none) :
    Leaves service tokens presented tokens := by
  have hrefused := step_revokeIfActive service tokens presented
  rw [hnone, Option.any_none, if_neg Bool.false_ne_true] at hrefused
  have hrun := exec_of_step (step_lookUp_unknown hnone) []
  rw [← exec_of_step hrefused, ← exec_of_step step_begin] at hrun
  exact ⟨_, _, hrun, rfl, rfl⟩

theorem leaves_of_inactive
    (hfind : tokens.find? (service.hashToken presented.refreshToken) = some row)
    (hinactive : row.isActive presented.clientId presented.now = false) :
    Leaves service tokens presented
      (revokeAllRefreshTokensForClient tokens row presented.familyNow) := by
  have hrefused := step_revokeIfActive service tokens presented
  rw [hfind, Option.any_some, hinactive, if_neg Bool.false_ne_true] at hrefused
  have hrun := exec_of_step
    (step_commitFamily service tokens presented row (familyHashes tokens row)) []
  rw [← exec_of_step step_claimFamily, ← exec_of_step step_revokeFamily,
    ← exec_of_step (step_lookUp hfind), ← exec_of_step hrefused, ← exec_of_step step_begin] at hrun
  exact ⟨_, _, hrun, rfl, revoke_familyHashes⟩

theorem leaves_of_active {inserted : Tokens}
    (hfind : tokens.find? (service.hashToken presented.refreshToken) = some row)
    (hactive : row.isActive presented.clientId presented.now = true)
    (hinsert : (State.revoke tokens [row.tokenHash] presented.now).insert?
      (newRefreshToken service presented.draw presented.clientId row.userId row.scope
        row.resource) = some inserted) :
    Leaves service tokens presented inserted := by
  have hupdate := step_revokeIfActive service tokens presented
  rw [hfind, Option.any_some, hactive, if_pos rfl] at hupdate
  have hrun := (exec_of_step (step_mint hinsert) _).trans (exec_of_step (step_commit hinsert) [])
  rw [← exec_of_step (step_claim hfind hactive), ← exec_of_step hupdate,
    ← exec_of_step step_begin] at hrun
  exact ⟨_, _, hrun, rfl, rfl⟩

/-- A request whose new token is refused is aborted. -/
theorem leaves_of_aborted : Leaves service tokens presented tokens :=
  ⟨[.abort 0], ⟨tokens, Table.empty, 1, [], [], []⟩, exec_of_step step_begin _, rfl, rfl⟩

/-- What `refreshToken` leaves is what a run of the statements leaves. -/
theorem leaves_refreshToken (service : OAuth2Service) (tokens : Tokens) (presented : Presented) :
    Leaves service tokens presented (refreshToken service tokens presented).1 := by
  cases hfind : tokens.find? (service.hashToken presented.refreshToken) with
  | none =>
    rw [refreshToken_of_unknown hfind]
    exact leaves_of_unknown hfind
  | some row =>
    cases hactive : row.isActive presented.clientId presented.now with
    | false =>
      rw [refreshToken_of_inactive hfind hactive]
      exact leaves_of_inactive hfind hactive
    | true =>
      have hhash := (Table.find?_eq_some.mp hfind).2
      unfold refreshToken revokeRefreshTokenIfActive
      rw [hfind]
      dsimp only
      rw [hactive, if_pos rfl, ← hhash]
      dsimp only
      split
      · next inserted hinsert => exact leaves_of_active hfind hactive hinsert
      · exact leaves_of_aborted

end Machine

end UniversalInbox.OAuth2.TokenReplay
