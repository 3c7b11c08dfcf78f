import UniversalInbox.OAuth2
import UniversalInbox.Library.RowLock
import UniversalInbox.Library.Transition

/-! `refresh_token` requests whose statements interleave. Each statement reads what is committed
when it starts; an `UPDATE` waits for the rows it matched that others have locked, and looks again
at each of them, but at no other row, once it has the lock. -/
namespace UniversalInbox.OAuth2.RefreshTokens
open Transition RowLock

abbrev RequestId := Nat

/-- Where a request is: before the conditional `UPDATE`; waiting for the row it matched; with the
row it has revoked, as that row was; with the new token inserted as well; without a row; with the
row that its second look by hash alone found; with the matches of the `UPDATE` of the family, in a
transaction begun at `now`; and with those it has revoked. -/
inductive Phase where
  | started
  | updating
  | claimed (token : OAuth2RefreshToken)
  | minted (token child : OAuth2RefreshToken) (response : TokenResponse)
  | refused
  | reuse (existing : OAuth2RefreshToken)
  | matchingFamily (existing : OAuth2RefreshToken) (now : DateTime) (tokenHashes : List String)
  | revokedFamily (existing : OAuth2RefreshToken) (now : DateTime) (tokenHashes : List String)
deriving DecidableEq, Repr

/-- The rows the request has written and not committed. -/
def Phase.locks : Phase → List String
  | .claimed token => [token.tokenHash]
  | .minted token _ _ => [token.tokenHash]
  | .revokedFamily _ _ tokenHashes => tokenHashes
  | _ => []

/-- The new row only its own transaction sees. -/
def Phase.inserted? : Phase → Option OAuth2RefreshToken
  | .minted _ child _ => some child
  | _ => none

/-- An open request; `startedAt` is what `now()` is in its transaction. -/
structure Request where
  id : RequestId
  refreshToken : String
  clientId : String
  startedAt : DateTime
  phase : Phase
deriving DecidableEq, Repr

def Request.locks (request : Request) : List String := request.phase.locks

/-- A rotation that was committed: the token it was of, as it was when it was revoked, and the
token it minted. -/
structure Rotation where
  request : RequestId
  refreshToken : String
  clientId : String
  revokedAt : DateTime
  parent : OAuth2RefreshToken
  child : OAuth2RefreshToken
  response : TokenResponse
deriving DecidableEq, Repr

/-- A request that found its token consumed and has revoked the family; every request below
`begun` had begun by then. -/
structure Detection where
  request : RequestId
  existing : OAuth2RefreshToken
  begun : RequestId
  error : UniversalInboxError
deriving DecidableEq, Repr

structure Refusal where
  request : RequestId
  error : UniversalInboxError
deriving DecidableEq, Repr

/-- The committed tokens, the open requests, and what the requests that are over have come to. -/
structure State where
  tokens : Table OAuth2RefreshToken.tokenHash
  requests : Table Request.id
  begun : RequestId
  rotations : List Rotation
  detections : List Detection
  refusals : List Refusal

/-- `now` is the start of the transaction of a request, or of the one that revokes the family.
`abort` is a request that ends any other way: a statement that fails, a client that is gone. -/
inductive Input where
  | begin (refreshToken clientId : String) (now : DateTime)
  | revokeIfActive (id : RequestId)
  | claim (id : RequestId)
  | mint (id : RequestId) (draw : Draw)
  | commit (id : RequestId)
  | lookUp (id : RequestId)
  | revokeFamily (id : RequestId) (now : DateTime)
  | claimFamily (id : RequestId)
  | commitFamily (id : RequestId)
  | abort (id : RequestId)
deriving DecidableEq, Repr

def invalidRefreshToken : UniversalInboxError := .invalidInputData "Invalid refresh token"

def setPhase (phase : Phase) (request : Request) : Request := { request with phase }

theorem setPhase_id (phase : Phase) (request : Request) :
    (setPhase phase request).id = request.id := rfl

namespace State

def advance (s : State) (id : RequestId) (phase : Phase) : State :=
  { s with
    requests :=
      s.requests.update (fun x => decide (x.id = id)) (setPhase phase) (setPhase_id phase) }

def close (s : State) (id : RequestId) : State := { s with requests := s.requests.erase id }

def locked (s : State) (id : RequestId) (tokenHash : String) : Bool :=
  heldByOther Request.locks s.requests id tokenHash

/-- Another transaction has inserted a token with this hash. -/
def inserting (s : State) (tokenHash : String) : Bool :=
  s.requests.rows.any fun x => x.phase.inserted?.any (·.tokenHash == tokenHash)

def revoke (tokens : Table OAuth2RefreshToken.tokenHash) (tokenHashes : List String)
    (now : DateTime) : Table OAuth2RefreshToken.tokenHash :=
  tokens.update (fun token => tokenHashes.contains token.tokenHash)
    (OAuth2RefreshToken.revoke now) (OAuth2RefreshToken.revoke_tokenHash now)

end State

/-- The `WHERE` clause of `revoke_all_refresh_tokens_for_client`. -/
def inFamily (existing token : OAuth2RefreshToken) : Bool :=
  token.userId == existing.userId && token.clientId == existing.clientId && token.revokedAt.isNone

def step (service : OAuth2Service) (s : State) : Input → Option State
  | .begin refreshToken clientId now =>
    (s.requests.insert? ⟨s.begun, refreshToken, clientId, now, .started⟩).map fun requests =>
      { s with requests, begun := s.begun + 1 }
  | .revokeIfActive id =>
    (s.requests.find? id).bind fun x =>
      match x.phase with
      | .started =>
        let token := s.tokens.find? (service.hashToken x.refreshToken)
        some (s.advance id
          (if token.any (·.isActive x.clientId x.startedAt) then .updating else .refused))
      | _ => none
  | .claim id =>
    (s.requests.find? id).bind fun x =>
      match x.phase with
      | .updating =>
        if s.locked id (service.hashToken x.refreshToken) then none
        else
          match s.tokens.find? (service.hashToken x.refreshToken) with
          | some token =>
            some (s.advance id
              (if token.isActive x.clientId x.startedAt then .claimed token else .refused))
          | none => some (s.advance id .refused)
      | _ => none
  | .mint id draw =>
    (s.requests.find? id).bind fun x =>
      match x.phase with
      | .claimed token =>
        let child :=
          newRefreshToken service draw x.clientId token.userId token.scope token.resource
        if (s.tokens.find? child.tokenHash).isNone ∧ !s.inserting child.tokenHash then
          some (s.advance id (.minted token child
            (tokenResponse service draw x.clientId token.userId token.scope token.resource)))
        else none
      | _ => none
  | .commit id =>
    (s.requests.find? id).bind fun x =>
      match x.phase with
      | .minted token child response =>
        ((State.revoke s.tokens [token.tokenHash] x.startedAt).insert? child).map fun tokens =>
          { s.close id with
            tokens
            rotations := ⟨id, x.refreshToken, x.clientId, x.startedAt, token, child, response⟩ ::
              s.rotations }
      | _ => none
  | .lookUp id =>
    (s.requests.find? id).bind fun x =>
      match x.phase with
      | .refused =>
        match s.tokens.find? (service.hashToken x.refreshToken) with
        | some existing => some (s.advance id (.reuse existing))
        | none =>
          some { s.close id with refusals := ⟨id, invalidRefreshToken⟩ :: s.refusals }
      | _ => none
  | .revokeFamily id now =>
    (s.requests.find? id).bind fun x =>
      match x.phase with
      | .reuse existing =>
        some (s.advance id (.matchingFamily existing now
          ((s.tokens.rows.filter (inFamily existing)).map (·.tokenHash))))
      | _ => none
  | .claimFamily id =>
    (s.requests.find? id).bind fun x =>
      match x.phase with
      | .matchingFamily existing now tokenHashes =>
        if tokenHashes.any (s.locked id) then none
        else
          some (s.advance id (.revokedFamily existing now
            (tokenHashes.filter fun h => (s.tokens.find? h).any (inFamily existing))))
      | _ => none
  | .commitFamily id =>
    (s.requests.find? id).bind fun x =>
      match x.phase with
      | .revokedFamily existing now tokenHashes =>
        some { s.close id with
          tokens := State.revoke s.tokens tokenHashes now
          detections := ⟨id, existing, s.begun, invalidRefreshToken⟩ :: s.detections }
      | _ => none
  | .abort id => (s.requests.find? id).map fun x => s.close x.id

/-- Any tokens may be stored when the requests begin. -/
def initial (tokens : Table OAuth2RefreshToken.tokenHash) : State :=
  ⟨tokens, Table.empty, 0, [], [], []⟩

/-- The next phase of a request whose statement leaves the committed tokens alone. -/
inductive Advances (service : OAuth2Service) (s : State) (x : Request) : Phase → Prop
  | updating : x.phase = .started → Advances service s x .updating
  | refused : x.phase = .started ∨ x.phase = .updating → Advances service s x .refused
  | claimed {token : OAuth2RefreshToken} : x.phase = .updating →
      s.locked x.id token.tokenHash = false → token.tokenHash = service.hashToken x.refreshToken →
      s.tokens.find? token.tokenHash = some token → token.isActive x.clientId x.startedAt = true →
      Advances service s x (.claimed token)
  | minted {token : OAuth2RefreshToken} (draw : Draw) : x.phase = .claimed token →
      Advances service s x (.minted token
        (newRefreshToken service draw x.clientId token.userId token.scope token.resource)
        (tokenResponse service draw x.clientId token.userId token.scope token.resource))
  | reuse {existing : OAuth2RefreshToken} : x.phase = .refused →
      s.tokens.find? existing.tokenHash = some existing → Advances service s x (.reuse existing)
  | matchingFamily {existing : OAuth2RefreshToken} (now : DateTime) : x.phase = .reuse existing →
      Advances service s x (.matchingFamily existing now
        ((s.tokens.rows.filter (inFamily existing)).map (·.tokenHash)))
  | revokedFamily {existing : OAuth2RefreshToken} {now : DateTime} {tokenHashes : List String} :
      x.phase = .matchingFamily existing now tokenHashes →
      (∀ h ∈ tokenHashes, s.locked x.id h = false) →
      Advances service s x (.revokedFamily existing now
        (tokenHashes.filter fun h => (s.tokens.find? h).any (inFamily existing)))

/-- What a step can do. -/
inductive Effect (service : OAuth2Service) (s : State) : Input → State → Prop
  | begin {i : Input} {x : Request} {requests : Table Request.id} : x.phase = .started →
      x.id = s.begun → s.requests.insert? x = some requests →
      Effect service s i { s with requests, begun := s.begun + 1 }
  | advance {i : Input} {x : Request} {phase : Phase} : x ∈ s.requests.rows →
      Advances service s x phase → Effect service s i (s.advance x.id phase)
  | commit {x : Request} {token child : OAuth2RefreshToken} {response : TokenResponse}
      {tokens : Table OAuth2RefreshToken.tokenHash} : x ∈ s.requests.rows →
      x.phase = .minted token child response →
      (State.revoke s.tokens [token.tokenHash] x.startedAt).insert? child = some tokens →
      Effect service s (.commit x.id)
        { s.close x.id with
          tokens
          rotations := ⟨x.id, x.refreshToken, x.clientId, x.startedAt, token, child, response⟩ ::
            s.rotations }
  | commitFamily {i : Input} {x : Request} {existing : OAuth2RefreshToken} {now : DateTime}
      {tokenHashes : List String} : x ∈ s.requests.rows →
      x.phase = .revokedFamily existing now tokenHashes →
      Effect service s i
        { s.close x.id with
          tokens := State.revoke s.tokens tokenHashes now
          detections := ⟨x.id, existing, s.begun, invalidRefreshToken⟩ :: s.detections }
  | close {i : Input} {x : Request} (refusals : List Refusal) : x ∈ s.requests.rows →
      Effect service s i { s.close x.id with refusals }

section Run
variable {service : OAuth2Service} {s t : State} {i : Input} {x y : Request}

theorem effect_of_step (h : step service s i = some t) : Effect service s i t := by
  cases i with
  | begin refreshToken clientId now =>
    obtain ⟨requests, hinsert, rfl⟩ := Option.map_eq_some_iff.mp h
    exact .begin rfl rfl hinsert
  | revokeIfActive id =>
    obtain ⟨x, hx, rfl, hthen⟩ := Table.find?_bind_eq_some.mp h
    split at hthen
    · next hphase =>
      cases hthen
      split
      · exact .advance hx (.updating hphase)
      · exact .advance hx (.refused (.inl hphase))
    · cases hthen
  | claim id =>
    obtain ⟨x, hx, rfl, hthen⟩ := Table.find?_bind_eq_some.mp h
    split at hthen
    · next hphase =>
      split at hthen
      · cases hthen
      · next hfree =>
        split at hthen
        · next token htoken =>
          cases hthen
          have hhash := (Table.find?_eq_some.mp htoken).2
          split
          · next hactive =>
            exact .advance hx (.claimed hphase (by rw [hhash]; exact Bool.eq_false_iff.mpr hfree)
              hhash (by rw [hhash]; exact htoken) hactive)
          · exact .advance hx (.refused (.inr hphase))
        · cases hthen
          exact .advance hx (.refused (.inr hphase))
    · cases hthen
  | mint id draw =>
    obtain ⟨x, hx, rfl, hthen⟩ := Table.find?_bind_eq_some.mp h
    split at hthen
    · next hphase =>
      simp only [Option.ite_none_right_eq_some, Option.some.injEq] at hthen
      obtain ⟨-, rfl⟩ := hthen
      exact .advance hx (.minted draw hphase)
    · cases hthen
  | commit id =>
    obtain ⟨x, hx, rfl, hthen⟩ := Table.find?_bind_eq_some.mp h
    split at hthen
    · next hphase =>
      obtain ⟨tokens, hinsert, rfl⟩ := Option.map_eq_some_iff.mp hthen
      exact .commit hx hphase hinsert
    · cases hthen
  | lookUp id =>
    obtain ⟨x, hx, rfl, hthen⟩ := Table.find?_bind_eq_some.mp h
    split at hthen
    · next hphase =>
      split at hthen
      · next existing hexisting =>
        cases hthen
        have hhash := (Table.find?_eq_some.mp hexisting).2
        exact .advance hx (.reuse hphase (by rw [hhash]; exact hexisting))
      · cases hthen
        exact .close _ hx
    · cases hthen
  | revokeFamily id now =>
    obtain ⟨x, hx, rfl, hthen⟩ := Table.find?_bind_eq_some.mp h
    split at hthen
    · next hphase =>
      cases hthen
      exact .advance hx (.matchingFamily now hphase)
    · cases hthen
  | claimFamily id =>
    obtain ⟨x, hx, rfl, hthen⟩ := Table.find?_bind_eq_some.mp h
    split at hthen
    · next hphase =>
      split at hthen
      · cases hthen
      · next hfree =>
        cases hthen
        refine .advance hx (.revokedFamily hphase fun h hh => Bool.eq_false_iff.mpr fun hlocked => ?_)
        exact hfree (List.any_eq_true.mpr ⟨h, hh, hlocked⟩)
    · cases hthen
  | commitFamily id =>
    obtain ⟨x, hx, rfl, hthen⟩ := Table.find?_bind_eq_some.mp h
    split at hthen
    · next hphase =>
      cases hthen
      exact .commitFamily hx hphase
    · cases hthen
  | abort id =>
    obtain ⟨x, hfind, rfl⟩ := Option.map_eq_some_iff.mp h
    exact .close _ (Table.find?_eq_some.mp hfind).1

/-- The token whose revocation the request has written. -/
def Phase.claimed? : Phase → Option OAuth2RefreshToken
  | .claimed token => some token
  | .minted token _ _ => some token
  | _ => none

/-- What a rotation was of: the presented token, of the presenting client, neither revoked nor
expired when it was revoked; it is stored as revoked at that instant. -/
structure Rotated (service : OAuth2Service) (s : State) (r : Rotation) : Prop where
  presented : r.parent.tokenHash = service.hashToken r.refreshToken
  active : r.parent.isActive r.clientId r.revokedAt = true
  stored : s.tokens.find? r.parent.tokenHash = some (r.parent.revoke r.revokedAt)

/-- Locks exclude each other and the rows under them are not revoked; a claimed token is the
presented one, active and as the table still has it. -/
structure Inv (service : OAuth2Service) (s : State) : Prop where
  exclusive : Exclusive Request.locks s.requests
  held : ∀ x ∈ s.requests.rows, ∀ h ∈ x.locks, ∃ token, s.tokens.find? h = some token ∧
    token.revokedAt = none
  claimed : ∀ x ∈ s.requests.rows, ∀ token ∈ x.phase.claimed?,
    token.tokenHash = service.hashToken x.refreshToken ∧
      s.tokens.find? token.tokenHash = some token ∧ token.isActive x.clientId x.startedAt = true
  rotated : ∀ r ∈ s.rotations, Rotated service s r
  once : (s.rotations.map (·.parent.tokenHash)).Nodup

theorem find?_revoke {tokens : Table OAuth2RefreshToken.tokenHash} {tokenHashes : List String}
    {now : DateTime} {h : String} :
    (State.revoke tokens tokenHashes now).find? h =
      if h ∈ tokenHashes then (tokens.find? h).map (OAuth2RefreshToken.revoke now)
      else tokens.find? h := by
  unfold State.revoke
  rw [Table.find?_update]
  cases hfind : tokens.find? h with
  | none => split <;> rfl
  | some token =>
    rw [Option.map_some, Option.map_some, (Table.find?_eq_some.mp hfind).2]
    split
    · next hmem => rw [if_pos (List.contains_iff_mem.mp hmem)]
    · next hmem => rw [if_neg fun hin => hmem (List.contains_iff_mem.mpr hin)]

theorem locks_of_claimed {phase : Phase} {token : OAuth2RefreshToken}
    (h : token ∈ phase.claimed?) : token.tokenHash ∈ phase.locks := by
  cases phase <;> first | cases h; exact List.mem_singleton.mpr rfl | cases h

theorem mem_advance {phase : Phase} (hx : x ∈ s.requests.rows) :
    y ∈ (s.advance x.id phase).requests.rows ↔
      y = setPhase phase x ∨ y ∈ s.requests.rows ∧ y.id ≠ x.id :=
  mem_update_session (e := setPhase_id phase) hx

/-- A request that advances: it locks what is free and not revoked, and claims what is active. -/
theorem Inv.advance (h : Inv service s) (hx : x ∈ s.requests.rows) {phase : Phase}
    (hfree : ∀ k ∈ phase.locks, k ∈ x.locks ∨ s.locked x.id k = false)
    (hheld : ∀ k ∈ phase.locks, ∃ token, s.tokens.find? k = some token ∧ token.revokedAt = none)
    (hclaimed : ∀ token ∈ phase.claimed?, token.tokenHash = service.hashToken x.refreshToken ∧
      s.tokens.find? token.tokenHash = some token ∧ token.isActive x.clientId x.startedAt = true) :
    Inv service (s.advance x.id phase) := by
  refine ⟨exclusive_update (e := setPhase_id phase) h.exclusive hx hfree, fun y hy => ?_,
    fun y hy => ?_, fun r hr => ⟨(h.rotated r hr).presented, (h.rotated r hr).active,
      (h.rotated r hr).stored⟩, h.once⟩
  · rcases (mem_advance hx).mp hy with rfl | ⟨hy, -⟩
    · exact hheld
    · exact h.held y hy
  · rcases (mem_advance hx).mp hy with rfl | ⟨hy, -⟩
    · exact hclaimed
    · exact h.claimed y hy

/-- Nothing but the locks and the claim of the request is asked of a phase that has none. -/
theorem Inv.advance_unlocked (h : Inv service s) (hx : x ∈ s.requests.rows) {phase : Phase}
    (hlocks : phase.locks = []) (hclaimed : phase.claimed? = none) :
    Inv service (s.advance x.id phase) := by
  refine h.advance hx ?_ ?_ ?_
  · rw [hlocks]
    exact fun _ hk => absurd hk List.not_mem_nil
  · rw [hlocks]
    exact fun _ hk => absurd hk List.not_mem_nil
  · rw [hclaimed]
    exact fun _ hk => by cases hk

theorem isActive_revokedAt {token : OAuth2RefreshToken} {clientId : String} {now : DateTime}
    (h : token.isActive clientId now = true) : token.revokedAt = none :=
  (OAuth2RefreshToken.isActive_iff.mp h).2.1

theorem inFamily_revokedAt {existing token : OAuth2RefreshToken}
    (h : inFamily existing token = true) : token.revokedAt = none := by
  simp only [inFamily, Bool.and_eq_true, Option.isNone_iff_eq_none] at h
  exact h.2

theorem Inv.advances (h : Inv service s) (hx : x ∈ s.requests.rows) {phase : Phase}
    (hadvances : Advances service s x phase) : Inv service (s.advance x.id phase) := by
  cases hadvances with
  | updating hphase => exact h.advance_unlocked hx rfl rfl
  | refused hphase => exact h.advance_unlocked hx rfl rfl
  | @claimed token hphase hfree hhash hfind hactive =>
    refine h.advance hx (fun k hk => .inr ?_) (fun k hk => ?_) (fun token' htoken' => ?_)
    · rwa [List.mem_singleton.mp hk]
    · rw [List.mem_singleton.mp hk]
      exact ⟨token, hfind, isActive_revokedAt hactive⟩
    · cases htoken'
      exact ⟨hhash, hfind, hactive⟩
  | @minted token draw hphase =>
    have hmem : token ∈ x.phase.claimed? := by rw [hphase]; rfl
    refine h.advance hx (fun k hk => .inl ?_) (fun k hk => h.held x hx k ?_)
      (fun token' htoken' => ?_)
    · rw [List.mem_singleton.mp hk]
      exact locks_of_claimed hmem
    · rw [List.mem_singleton.mp hk]
      exact locks_of_claimed hmem
    · cases htoken'
      exact h.claimed x hx token hmem
  | reuse hphase hfind => exact h.advance_unlocked hx rfl rfl
  | matchingFamily now hphase => exact h.advance_unlocked hx rfl rfl
  | revokedFamily hphase hfree =>
    refine h.advance hx (fun k hk => .inr (hfree k (List.mem_filter.mp hk).1)) (fun k hk => ?_)
      (fun _ htoken => by cases htoken)
    obtain ⟨token, htoken, hin⟩ := (Option.any_eq_true _ _).mp (List.mem_filter.mp hk).2
    exact ⟨token, htoken, inFamily_revokedAt hin⟩

/-- The end of a request that writes the tokens it holds: what the others hold is as it was. -/
theorem Inv.close (h : Inv service s) (hx : x ∈ s.requests.rows)
    {tokens : Table OAuth2RefreshToken.tokenHash} {rotations : List Rotation}
    {detections : List Detection} {refusals : List Refusal}
    (hframe : ∀ k token, k ∉ x.locks → s.tokens.find? k = some token →
      tokens.find? k = some token)
    (hrotated : ∀ r ∈ rotations, Rotated service { s with tokens } r)
    (honce : (rotations.map (·.parent.tokenHash)).Nodup) :
    Inv service { s.close x.id with tokens, rotations, detections, refusals } := by
  have hother : ∀ y ∈ s.requests.rows, y.id ≠ x.id → ∀ k ∈ y.locks, k ∉ x.locks :=
    fun y hy hid k hk hk' => hid (congrArg Request.id (h.exclusive y hy x hx k hk hk'))
  refine ⟨exclusive_erase h.exclusive, fun y hy k hk => ?_, fun y hy token htoken => ?_,
    fun r hr => ⟨(hrotated r hr).presented, (hrotated r hr).active, (hrotated r hr).stored⟩, honce⟩
  · obtain ⟨hy, hid⟩ := Table.mem_erase.mp hy
    obtain ⟨token, htoken, hnone⟩ := h.held y hy k hk
    exact ⟨token, hframe k token (hother y hy hid k hk) htoken, hnone⟩
  · obtain ⟨hy, hid⟩ := Table.mem_erase.mp hy
    obtain ⟨hhash, hfind, hactive⟩ := h.claimed y hy token htoken
    exact ⟨hhash, hframe _ token (hother y hy hid _ (locks_of_claimed htoken)) hfind, hactive⟩

theorem find?_revoke_of_not_mem {tokens : Table OAuth2RefreshToken.tokenHash}
    {tokenHashes : List String} {now : DateTime} {h : String} (hmem : h ∉ tokenHashes) :
    (State.revoke tokens tokenHashes now).find? h = tokens.find? h := by
  rw [find?_revoke, if_neg hmem]

/-- A revoked token is under no lock. -/
theorem Inv.not_locked (h : Inv service s) (hx : x ∈ s.requests.rows) {k : String}
    {token : OAuth2RefreshToken} (hfind : s.tokens.find? k = some token)
    (hrevoked : token.revokedAt ≠ none) : k ∉ x.locks := by
  intro hk
  obtain ⟨held, hheld, hnone⟩ := h.held x hx k hk
  rw [hfind, Option.some_inj] at hheld
  exact hrevoked (hheld ▸ hnone)

theorem Inv.commit (h : Inv service s) (hx : x ∈ s.requests.rows)
    {token child : OAuth2RefreshToken} {response : TokenResponse}
    {tokens : Table OAuth2RefreshToken.tokenHash} (hphase : x.phase = .minted token child response)
    (hinsert : (State.revoke s.tokens [token.tokenHash] x.startedAt).insert? child = some tokens) :
    Inv service { s.close x.id with
      tokens
      rotations := ⟨x.id, x.refreshToken, x.clientId, x.startedAt, token, child, response⟩ ::
        s.rotations } := by
  have hlocks : x.locks = [token.tokenHash] := by unfold Request.locks; rw [hphase]; rfl
  have hmem : token.tokenHash ∈ x.locks := by rw [hlocks]; exact List.mem_singleton.mpr rfl
  obtain ⟨hhash, hfind, hactive⟩ := h.claimed x hx token (by rw [hphase]; rfl)
  have hframe : ∀ k stored, k ∉ x.locks → s.tokens.find? k = some stored →
      tokens.find? k = some stored := by
    intro k stored hk hstored
    refine Table.find?_of_insert hinsert ?_
    rwa [find?_revoke_of_not_mem (hlocks ▸ hk)]
  refine h.close hx hframe (fun r hr => ?_) ?_
  · rcases List.mem_cons.mp hr with rfl | hr
    · refine ⟨hhash, hactive, Table.find?_of_insert hinsert ?_⟩
      rw [find?_revoke, if_pos (List.mem_singleton.mpr rfl), hfind, Option.map_some]
    · obtain ⟨hpresented, hwas, hstored⟩ := h.rotated r hr
      exact ⟨hpresented, hwas, hframe _ _ (h.not_locked hx hstored (Option.some_ne_none _)) hstored⟩
  · refine List.nodup_cons.mpr ⟨fun hin => ?_, h.once⟩
    obtain ⟨r, hr, hparent⟩ := List.mem_map.mp hin
    have hstored := (h.rotated r hr).stored
    rw [hparent] at hstored
    exact h.not_locked hx hstored (Option.some_ne_none _) hmem

theorem Inv.commitFamily (h : Inv service s) (hx : x ∈ s.requests.rows)
    {existing : OAuth2RefreshToken} {now : DateTime} {tokenHashes : List String}
    (hphase : x.phase = .revokedFamily existing now tokenHashes) {detections : List Detection} :
    Inv service { s.close x.id with
      tokens := State.revoke s.tokens tokenHashes now
      detections } := by
  have hlocks : x.locks = tokenHashes := by unfold Request.locks; rw [hphase]; rfl
  have hframe : ∀ k stored, k ∉ x.locks → s.tokens.find? k = some stored →
      (State.revoke s.tokens tokenHashes now).find? k = some stored := by
    intro k stored hk hstored
    rwa [find?_revoke_of_not_mem (hlocks ▸ hk)]
  refine h.close hx hframe (fun r hr => ?_) h.once
  obtain ⟨hpresented, hwas, hstored⟩ := h.rotated r hr
  exact ⟨hpresented, hwas, hframe _ _ (h.not_locked hx hstored (Option.some_ne_none _)) hstored⟩

theorem inv_step (h : Inv service s) (hstep : step service s i = some t) : Inv service t := by
  cases effect_of_step hstep with
  | @begin _ x requests hphase hid hinsert =>
    have hlocks : x.locks = [] := by unfold Request.locks; rw [hphase]; rfl
    have hmem : ∀ y ∈ requests.rows, y ∈ s.requests.rows ∨ y = x := by
      intro y hy
      rwa [(Table.insert?_eq_some.mp hinsert).2, List.mem_append, List.mem_singleton] at hy
    refine ⟨exclusive_insert h.exclusive hinsert hlocks, fun y hy => ?_, fun y hy => ?_,
      fun r hr => ⟨(h.rotated r hr).presented, (h.rotated r hr).active, (h.rotated r hr).stored⟩,
      h.once⟩
    · rcases hmem y hy with hy | rfl
      · exact h.held y hy
      · rw [hlocks]
        exact fun _ hk => absurd hk List.not_mem_nil
    · rcases hmem y hy with hy | rfl
      · exact h.claimed y hy
      · rw [hphase]
        exact fun _ hk => by cases hk
  | advance hx hadvances => exact h.advances hx hadvances
  | commit hx hphase hinsert => exact h.commit hx hphase hinsert
  | commitFamily hx hphase => exact h.commitFamily hx hphase
  | close refusals hx => exact h.close hx (fun _ _ _ hfind => hfind) h.rotated h.once

theorem inv_initial (tokens : Table OAuth2RefreshToken.tokenHash) : Inv service (initial tokens) :=
  ⟨fun _ hx => absurd hx Table.not_mem_empty, fun _ hx => absurd hx Table.not_mem_empty,
    fun _ hx => absurd hx Table.not_mem_empty, fun _ hr => absurd hr List.not_mem_nil,
    List.nodup_nil⟩

/-- No token is the parent of two rotations; each was of the presented token, of the presenting
client, neither expired nor revoked at the instant that its revocation bears. -/
structure SingleUse (service : OAuth2Service) (s : State) : Prop where
  once : (s.rotations.map (·.parent.tokenHash)).Nodup
  rotated : ∀ r ∈ s.rotations, Rotated service s r

/-- The step that commits a rotation finds its parent as every other transaction still sees it. -/
def RotatesStored (s t : State) : Prop :=
  ∀ r ∈ t.rotations, r ∉ s.rotations → s.tokens.find? r.parent.tokenHash = some r.parent

theorem rotatesStored_of_step (h : Inv service s) (hstep : step service s i = some t) :
    RotatesStored s t := by
  intro r hr hnew
  cases effect_of_step hstep with
  | begin => exact absurd hr hnew
  | advance => exact absurd hr hnew
  | @commit x token child response tokens hx hphase hinsert =>
    rcases List.mem_cons.mp hr with rfl | hr
    · exact (h.claimed x hx token (by rw [hphase]; rfl)).2.1
    · exact absurd hr hnew
  | commitFamily => exact absurd hr hnew
  | close => exact absurd hr hnew

/-- In every order of the statements of any requests, a refresh token is rotated at most once, and
only while it is active and of the client that presents it. -/
theorem refresh_single_use (service : OAuth2Service) (tokens : Table OAuth2RefreshToken.tokenHash)
    (inputs : List Input) (hrun : Possible (step service) (initial tokens) inputs) :
    Along (step service) (fun s _ t => SingleUse service t ∧ RotatesStored s t) (initial tokens)
      inputs :=
  hrun.of_invariant (I := Inv service) (fun _ _ _ h hstep _ => inv_step h hstep)
    (fun _ _ _ h hstep _ => ⟨⟨(inv_step h hstep).once, (inv_step h hstep).rotated⟩,
      rotatesStored_of_step h hstep⟩)
    (inv_initial tokens)

/-- The token whose family the request is revoking: its `UPDATE` has started. -/
def Phase.revoking? : Phase → Option (OAuth2RefreshToken × List String)
  | .matchingFamily existing _ tokenHashes => some (existing, tokenHashes)
  | .revokedFamily existing _ tokenHashes => some (existing, tokenHashes)
  | _ => none

def Revoked (s : State) (tokenHash : String) : Prop :=
  ∀ token ∈ s.tokens.find? tokenHash, token.revokedAt ≠ none

instance (s : State) (tokenHash : String) : Decidable (Revoked s tokenHash) :=
  inferInstanceAs (Decidable (∀ _ ∈ _, _))

/-- A token of the chain that rotations have made from another. -/
inductive Descends (rotations : List Rotation) (ancestor : String) : String → Prop
  | child (r : Rotation) : r ∈ rotations → r.parent.tokenHash = ancestor →
      Descends rotations ancestor r.child.tokenHash
  | trans (r : Rotation) : r ∈ rotations → Descends rotations ancestor r.parent.tokenHash →
      Descends rotations ancestor r.child.tokenHash

/-- After each detected reuse, every token of the family that a request begun before it has minted
is revoked. -/
def MintedRevoked (s : State) : Prop :=
  ∀ d ∈ s.detections, ∀ r ∈ s.rotations, r.request < d.begun →
    r.child.family = d.existing.family → Revoked s r.child.tokenHash

instance (s : State) : Decidable (MintedRevoked s) :=
  inferInstanceAs (Decidable (∀ _ ∈ _, ∀ _ ∈ _, _ → _ → _))

/-- So is every token of the chain of the replayed one. -/
structure ReuseKillsFamily (s : State) : Prop where
  minted : MintedRevoked s
  chain : ∀ d ∈ s.detections, ∀ tokenHash,
    Descends s.rotations d.existing.tokenHash tokenHash → Revoked s tokenHash

/-- No rotation of a family is committed between the start of the `UPDATE` that revokes the family
and the end of its transaction. -/
def CommitGuard (s : State) : Input → Prop
  | .commit id => ∀ x ∈ s.requests.rows, x.id = id → ∀ token ∈ x.phase.claimed?,
      ∀ y ∈ s.requests.rows, ∀ revoking ∈ y.phase.revoking?, revoking.1.family ≠ token.family
  | _ => True

instance (s : State) : ∀ i, Decidable (CommitGuard s i)
  | .commit _ => inferInstanceAs (Decidable (∀ _ ∈ _, _ → ∀ _ ∈ _, ∀ _ ∈ _, ∀ _ ∈ _, _))
  | .begin _ _ _ | .revokeIfActive _ | .claim _ | .mint _ _ | .lookUp _ | .revokeFamily _ _
  | .claimFamily _ | .commitFamily _ | .abort _ => .isTrue trivial

/-- A token of the family is stored. -/
def Stored (tokens : Table OAuth2RefreshToken.tokenHash) (token : OAuth2RefreshToken) : Prop :=
  ∃ stored, tokens.find? token.tokenHash = some stored ∧ stored.family = token.family

/-- The family of a reuse that was detected is dead; a running revocation matches what is alive of
its family. -/
structure FamilyInv (service : OAuth2Service) (s : State) : Prop where
  inv : Inv service s
  minted : ∀ x ∈ s.requests.rows, ∀ token child response,
    x.phase = .minted token child response → child.family = token.family
  children : ∀ r ∈ s.rotations, r.child.family = r.parent.family ∧ Stored s.tokens r.child
  reuse : ∀ x ∈ s.requests.rows, ∀ existing, x.phase = .reuse existing → Stored s.tokens existing
  matched : ∀ x ∈ s.requests.rows, ∀ revoking ∈ x.phase.revoking?, Stored s.tokens revoking.1 ∧
    ∀ token ∈ s.tokens.rows, inFamily revoking.1 token = true → token.tokenHash ∈ revoking.2
  dead : ∀ d ∈ s.detections, Stored s.tokens d.existing ∧
    ∀ token ∈ s.tokens.rows, token.family = d.existing.family → token.revokedAt ≠ none

theorem inFamily_iff {existing token : OAuth2RefreshToken} :
    inFamily existing token = true ↔ token.family = existing.family ∧ token.revokedAt = none := by
  simp only [inFamily, OAuth2RefreshToken.family, Bool.and_eq_true, beq_iff_eq,
    Option.isNone_iff_eq_none, Prod.mk.injEq]

/-- A chain stays in the family of its first token. -/
theorem FamilyInv.stored_of_descends (h : FamilyInv service s) {ancestor : OAuth2RefreshToken}
    (hstored : Stored s.tokens ancestor) {tokenHash : String}
    (hdescends : Descends s.rotations ancestor.tokenHash tokenHash) :
    ∃ stored, s.tokens.find? tokenHash = some stored ∧ stored.family = ancestor.family := by
  have hchild : ∀ r ∈ s.rotations, (∃ stored, s.tokens.find? r.parent.tokenHash = some stored ∧
      stored.family = ancestor.family) → ∃ stored, s.tokens.find? r.child.tokenHash = some stored ∧
      stored.family = ancestor.family := by
    rintro r hr ⟨parent, hparent, hfamily⟩
    have hsame := (h.inv.rotated r hr).stored
    rw [hparent, Option.some_inj] at hsame
    obtain ⟨hchildFamily, child, hfind, hstoredFamily⟩ := h.children r hr
    refine ⟨child, hfind, hstoredFamily.trans (hchildFamily.trans ?_)⟩
    rw [← hfamily, hsame]
    rfl
  induction hdescends with
  | child r hr hancestor => exact hchild r hr (hancestor ▸ hstored)
  | trans r hr _ ih => exact hchild r hr ih

theorem FamilyInv.reuse_kills_family (h : FamilyInv service s) : ReuseKillsFamily s := by
  constructor
  · intro d hd r hr _ hfamily token htoken
    obtain ⟨-, stored, hfind, hstoredFamily⟩ := h.children r hr
    obtain rfl : token = stored := Option.some.inj (htoken.symm.trans hfind)
    exact (h.dead d hd).2 token (Table.find?_eq_some.mp hfind).1 (hstoredFamily.trans hfamily)
  · intro d hd tokenHash hdescends token htoken
    obtain ⟨hstored, hdead⟩ := h.dead d hd
    obtain ⟨stored, hfind, hfamily⟩ := h.stored_of_descends hstored hdescends
    obtain rfl : token = stored := Option.some.inj (htoken.symm.trans hfind)
    exact hdead token (Table.find?_eq_some.mp hfind).1 hfamily

theorem Stored.revoke {tokens : Table OAuth2RefreshToken.tokenHash} {token : OAuth2RefreshToken}
    (h : Stored tokens token) {tokenHashes : List String} {now : DateTime} :
    Stored (State.revoke tokens tokenHashes now) token := by
  obtain ⟨stored, hfind, hfamily⟩ := h
  unfold Stored
  rw [find?_revoke, hfind]
  split
  · exact ⟨stored.revoke now, rfl, hfamily⟩
  · exact ⟨stored, rfl, hfamily⟩

/-- Revoking only takes away from what is alive. -/
theorem mem_revoke {tokens : Table OAuth2RefreshToken.tokenHash} {tokenHashes : List String}
    {now : DateTime} {token : OAuth2RefreshToken}
    (h : token ∈ (State.revoke tokens tokenHashes now).rows) (hnone : token.revokedAt = none) :
    token ∈ tokens.rows ∧ token.tokenHash ∉ tokenHashes := by
  obtain ⟨old, hold, rfl⟩ :=
    (Table.mem_update (e := OAuth2RefreshToken.revoke_tokenHash now)).mp h
  split at hnone
  · cases hnone
  · next hmem =>
    rw [if_neg hmem]
    exact ⟨hold, fun hin => hmem (List.contains_iff_mem.mpr hin)⟩

theorem FamilyInv.advances (h : FamilyInv service s) (hx : x ∈ s.requests.rows) {phase : Phase}
    (hadvances : Advances service s x phase) : FamilyInv service (s.advance x.id phase) := by
  refine ⟨h.inv.advances hx hadvances, fun y hy token child response hphase => ?_, h.children,
    fun y hy existing hphase => ?_, fun y hy revoking hrevoking => ?_, h.dead⟩
  · rcases (mem_advance hx).mp hy with rfl | ⟨hy, -⟩
    · obtain rfl : phase = .minted token child response := hphase
      cases hadvances with
      | minted draw hclaimed =>
        obtain ⟨-, -, hactive⟩ := h.inv.claimed x hx token (by rw [hclaimed]; rfl)
        show (token.userId, x.clientId) = (token.userId, token.clientId)
        rw [(OAuth2RefreshToken.isActive_iff.mp hactive).1]
    · exact h.minted y hy token child response hphase
  · rcases (mem_advance hx).mp hy with rfl | ⟨hy, -⟩
    · obtain rfl : phase = .reuse existing := hphase
      cases hadvances with
      | reuse hrefused hfind => exact ⟨existing, hfind, rfl⟩
    · exact h.reuse y hy existing hphase
  · rcases (mem_advance hx).mp hy with rfl | ⟨hy, -⟩
    · obtain hrevoking : phase.revoking? = some revoking := hrevoking
      cases hadvances with
      | matchingFamily now hreuse =>
        cases hrevoking
        refine ⟨h.reuse x hx _ hreuse, fun token htoken hin => ?_⟩
        exact List.mem_map.mpr ⟨token, List.mem_filter.mpr ⟨htoken, hin⟩, rfl⟩
      | revokedFamily hmatching hfree =>
        cases hrevoking
        obtain ⟨hstored, hmatched⟩ := h.matched x hx (_, _) (by rw [hmatching]; rfl)
        refine ⟨hstored, fun token htoken hin => ?_⟩
        refine List.mem_filter.mpr ⟨hmatched token htoken hin, ?_⟩
        have hfind : s.tokens.find? token.tokenHash = some token :=
          Table.find?_eq_some.mpr ⟨htoken, rfl⟩
        rw [hfind]
        exact hin
      | updating => cases hrevoking
      | refused => cases hrevoking
      | claimed => cases hrevoking
      | minted => cases hrevoking
      | reuse => cases hrevoking
    · exact h.matched y hy revoking hrevoking

/-- The end of a request, as far as the tokens it has written allow. -/
theorem FamilyInv.close (h : FamilyInv service s)
    {tokens : Table OAuth2RefreshToken.tokenHash} {rotations : List Rotation}
    {detections : List Detection} {refusals : List Refusal}
    (hinv : Inv service { s.close x.id with tokens, rotations, detections, refusals })
    (hstored : ∀ token, Stored s.tokens token → Stored tokens token)
    (hchildren : ∀ r ∈ rotations, r.child.family = r.parent.family ∧ Stored tokens r.child)
    (hmatched : ∀ y ∈ s.requests.rows, ∀ revoking ∈ y.phase.revoking?, ∀ token ∈ tokens.rows,
      inFamily revoking.1 token = true → token.tokenHash ∈ revoking.2)
    (hdead : ∀ d ∈ detections, Stored tokens d.existing ∧
      ∀ token ∈ tokens.rows, token.family = d.existing.family → token.revokedAt ≠ none) :
    FamilyInv service { s.close x.id with tokens, rotations, detections, refusals } := by
  refine ⟨hinv, fun y hy => h.minted y (Table.mem_erase.mp hy).1, hchildren,
    fun y hy existing hphase => hstored _ (h.reuse y (Table.mem_erase.mp hy).1 existing hphase),
    fun y hy revoking hrevoking => ?_, hdead⟩
  obtain ⟨hy, -⟩ := Table.mem_erase.mp hy
  exact ⟨hstored _ (h.matched y hy revoking hrevoking).1, hmatched y hy revoking hrevoking⟩

theorem FamilyInv.commit (h : FamilyInv service s) (hx : x ∈ s.requests.rows)
    {token child : OAuth2RefreshToken} {response : TokenResponse}
    {tokens : Table OAuth2RefreshToken.tokenHash} (hphase : x.phase = .minted token child response)
    (hinsert : (State.revoke s.tokens [token.tokenHash] x.startedAt).insert? child = some tokens)
    (hguard : CommitGuard s (.commit x.id)) :
    FamilyInv service { s.close x.id with
      tokens
      rotations := ⟨x.id, x.refreshToken, x.clientId, x.startedAt, token, child, response⟩ ::
        s.rotations } := by
  have hclaimed : token ∈ x.phase.claimed? := by rw [hphase]; rfl
  have hfamily : child.family = token.family := h.minted x hx token child response hphase
  obtain ⟨-, hfind, hactive⟩ := h.inv.claimed x hx token hclaimed
  have hmem : ∀ r ∈ tokens.rows, r.revokedAt = none → r ∈ s.tokens.rows ∨ r = child := by
    intro r hr hnone
    rw [(Table.insert?_eq_some.mp hinsert).2, List.mem_append, List.mem_singleton] at hr
    exact hr.imp_left fun hr => (mem_revoke hr hnone).1
  have hstored : ∀ r, Stored s.tokens r → Stored tokens r := by
    intro r hr
    have hrevoked : Stored (State.revoke s.tokens [token.tokenHash] x.startedAt) r := hr.revoke
    obtain ⟨stored, hstored, hsame⟩ := hrevoked
    exact ⟨stored, Table.find?_of_insert hinsert hstored, hsame⟩
  refine h.close (h.inv.commit hx hphase hinsert) hstored (fun r hr => ?_)
    (fun y hy revoking hrevoking r hr hin => ?_) (fun d hd => ⟨hstored _ (h.dead d hd).1, ?_⟩)
  · rcases List.mem_cons.mp hr with rfl | hr
    · refine ⟨hfamily, child, ?_, rfl⟩
      rw [Table.find?_insert hinsert]
      exact if_pos rfl
    · exact ⟨(h.children r hr).1, hstored _ (h.children r hr).2⟩
  · obtain ⟨hsame, hnone⟩ := inFamily_iff.mp hin
    rcases hmem r hr hnone with hr | rfl
    · exact (h.matched y hy revoking hrevoking).2 r hr hin
    · exact absurd (hsame.symm.trans hfamily) (hguard x hx rfl token hclaimed y hy revoking hrevoking)
  · intro r hr hsame hnone
    rcases hmem r hr hnone with hr | rfl
    · exact (h.dead d hd).2 r hr hsame hnone
    · exact (h.dead d hd).2 token (Table.find?_eq_some.mp hfind).1 (hfamily.symm.trans hsame)
        (isActive_revokedAt hactive)

theorem FamilyInv.commitFamily (h : FamilyInv service s) (hx : x ∈ s.requests.rows)
    {existing : OAuth2RefreshToken} {now : DateTime} {tokenHashes : List String}
    (hphase : x.phase = .revokedFamily existing now tokenHashes) (error : UniversalInboxError) :
    FamilyInv service { s.close x.id with
      tokens := State.revoke s.tokens tokenHashes now
      detections := ⟨x.id, existing, s.begun, error⟩ :: s.detections } := by
  obtain ⟨hexisting, hmatched⟩ := h.matched x hx (existing, tokenHashes) (by rw [hphase]; rfl)
  refine h.close (h.inv.commitFamily hx hphase) (fun _ hr => hr.revoke)
    (fun r hr => ⟨(h.children r hr).1, (h.children r hr).2.revoke⟩)
    (fun y hy revoking hrevoking r hr hin => ?_) (fun d hd => ?_)
  · have hold := (mem_revoke hr (inFamily_revokedAt hin)).1
    exact (h.matched y hy revoking hrevoking).2 r hold hin
  · rcases List.mem_cons.mp hd with rfl | hd
    · refine ⟨hexisting.revoke, fun r hr hsame hnone => ?_⟩
      obtain ⟨hold, hnot⟩ := mem_revoke hr hnone
      exact hnot (hmatched r hold (inFamily_iff.mpr ⟨hsame, hnone⟩))
    · refine ⟨(h.dead d hd).1.revoke, fun r hr hsame hnone => ?_⟩
      exact (h.dead d hd).2 r (mem_revoke hr hnone).1 hsame hnone

theorem familyInv_step (h : FamilyInv service s) (hstep : step service s i = some t)
    (hguard : CommitGuard s i) : FamilyInv service t := by
  have hinv := inv_step h.inv hstep
  cases effect_of_step hstep with
  | @begin _ x requests hphase hid hinsert =>
    have hmem : ∀ y ∈ requests.rows, y ∈ s.requests.rows ∨ y = x := by
      intro y hy
      rwa [(Table.insert?_eq_some.mp hinsert).2, List.mem_append, List.mem_singleton] at hy
    refine ⟨hinv, fun y hy token child response hminted => ?_, h.children,
      fun y hy existing hreuse => ?_, fun y hy revoking hrevoking => ?_, h.dead⟩
    · rcases hmem y hy with hy | rfl
      · exact h.minted y hy token child response hminted
      · cases hphase.symm.trans hminted
    · rcases hmem y hy with hy | rfl
      · exact h.reuse y hy existing hreuse
      · cases hphase.symm.trans hreuse
    · rcases hmem y hy with hy | rfl
      · exact h.matched y hy revoking hrevoking
      · rw [hphase] at hrevoking
        cases hrevoking
  | advance hx hadvances => exact h.advances hx hadvances
  | commit hx hphase hinsert => exact h.commit hx hphase hinsert hguard
  | commitFamily hx hphase => exact h.commitFamily hx hphase _
  | close refusals hx =>
    exact h.close hinv (fun _ hr => hr) h.children
      (fun y hy revoking hrevoking => (h.matched y hy revoking hrevoking).2) h.dead

theorem familyInv_initial (tokens : Table OAuth2RefreshToken.tokenHash) :
    FamilyInv service (initial tokens) :=
  ⟨inv_initial tokens, fun _ hx => absurd hx Table.not_mem_empty,
    fun _ hr => absurd hr List.not_mem_nil, fun _ hx => absurd hx Table.not_mem_empty,
    fun _ hx => absurd hx Table.not_mem_empty, fun _ hd => absurd hd List.not_mem_nil⟩

/-- In every run in which no rotation of a family is committed while the family is being revoked,
a detected reuse leaves nothing of the family that can still be rotated. -/
theorem reuse_kills_family_of_guard (service : OAuth2Service)
    (tokens : Table OAuth2RefreshToken.tokenHash) (inputs : List Input)
    (hrun : Along (step service) (fun s i _ => CommitGuard s i) (initial tokens) inputs) :
    Along (step service) (fun _ _ t => ReuseKillsFamily t) (initial tokens) inputs :=
  hrun.of_invariant (I := FamilyInv service)
    (fun _ _ _ h hstep hguard => familyInv_step h hstep hguard)
    (fun _ _ _ h hstep hguard => (familyInv_step h hstep hguard).reuse_kills_family)
    (familyInv_initial tokens)

end Run

/-- The digests of the three tokens of the runs below. -/
def sampleDigest : String → String
  | "ancestor" => "1JAVE3j1_Jm7qSN-WUwlFBTfC1pw0Sl8w8X5itXgxeo"
  | "parent" => "5HEllos7cQSfvEgC0eQKceoTWd7Pq6z3CzRYgDfU_ww"
  | "child" => "3cnmaRlCVM7wGaKdNhmiwWWS5dUuGoHpiwG9UjGRSaM"
  | other => other

def sampleService : OAuth2Service := { hashToken := sampleDigest, resourceUrl := "https://inbox/mcp" }

def sampleToken (refreshToken : String) (revokedAt : Option DateTime) : OAuth2RefreshToken :=
  { tokenHash := sampleDigest refreshToken, clientId := "client", userId := ⟨0⟩, scope := none,
    resource := none, expiresAt := some 1000, revokedAt }

def sampleDraw : Draw := { refreshToken := "child", jti := 0, accessNow := 20, refreshNow := 20 }

/-- The parent was rotated from the ancestor before. -/
def sampleTokens : Table OAuth2RefreshToken.tokenHash :=
  ⟨[sampleToken "ancestor" (some 5), sampleToken "parent" none], by decide⟩

/-- Two requests with one token: the second waits for the row, and loses it. -/
def racingRequests : List Input :=
  [.begin "parent" "client" 10, .begin "parent" "client" 11, .revokeIfActive 0, .revokeIfActive 1,
    .claim 0, .mint 0 sampleDraw, .commit 0, .claim 1, .lookUp 1, .revokeFamily 1 30,
    .claimFamily 1, .commitFamily 1]

theorem racingRequests_single_use :
    Along (step sampleService) (fun s _ t => SingleUse sampleService t ∧ RotatesStored s t)
      (initial sampleTokens) racingRequests :=
  refresh_single_use sampleService sampleTokens racingRequests (by decide)

theorem racingRequests_kill_family :
    Along (step sampleService) (fun _ _ t => ReuseKillsFamily t) (initial sampleTokens)
      racingRequests :=
  reuse_kills_family_of_guard sampleService sampleTokens racingRequests (by decide)

/-- The ancestor is replayed while the parent is being rotated: the `UPDATE` of the family starts
before the new token is committed, waits for the parent, and does not look for other rows. -/
def replayDuringRotation : List Input :=
  [.begin "parent" "client" 10, .revokeIfActive 0, .claim 0, .begin "ancestor" "client" 11,
    .revokeIfActive 1, .lookUp 1, .mint 0 sampleDraw, .revokeFamily 1 12, .commit 0,
    .claimFamily 1, .commitFamily 1]

theorem replayDuringRotation_child_survives :
    Possible (step sampleService) (initial sampleTokens) replayDuringRotation ∧
      ¬ Along (step sampleService) (fun _ _ t => ReuseKillsFamily t) (initial sampleTokens)
        replayDuringRotation := by
  refine ⟨by decide, fun h => ?_⟩
  have hminted : Along (step sampleService) (fun _ _ t => MintedRevoked t) (initial sampleTokens)
      replayDuringRotation :=
    h.of_invariant (I := fun _ => True) (fun _ _ _ _ _ _ => trivial)
      (fun _ _ _ _ _ hkills => hkills.minted) trivial
  revert hminted
  decide

end UniversalInbox.OAuth2.RefreshTokens
