import UniversalInbox.AuthorizationServer

/-! What is left of a client's authorization when its revocation commits. -/
namespace UniversalInbox.OAuth2.AuthorizationServer
open Transition

def codePair (code : OAuth2AuthorizationCode) : UserId × String := (code.userId, code.clientId)

/-- The pair for which the tokens of an answer are. -/
def responsePair (response : TokenResponse) : UserId × String :=
  (response.accessToken.sub, response.accessToken.clientId)

/-- A step in which the token endpoint issues tokens, it issues none for a pair whose authorization
is withdrawn. -/
structure RespectsWithdrawal (s t : State) : Prop where
  exchanges : ∀ e, t.exchanging.exchanges = e :: s.exchanging.exchanges →
    e.token.family ∉ s.withdrawn ∧ responsePair e.response ∉ s.withdrawn
  rotations : ∀ r, t.refreshing.rotations = r :: s.refreshing.rotations →
    r.child.family ∉ s.withdrawn ∧ responsePair r.response ∉ s.withdrawn

instance decidableForallAdded {α : Type*} [DecidableEq α] (P : α → Prop) [DecidablePred P]
    (old : List α) : ∀ new : List α, Decidable (∀ x, new = x :: old → P x)
  | [] => .isTrue fun _ h => by cases h
  | x :: rest =>
    decidable_of_iff (rest = old → P x)
      ⟨fun h y hy => (List.cons.inj hy).1 ▸ h (List.cons.inj hy).2, fun h hrest => h x (by rw [hrest])⟩

instance (s t : State) : Decidable (RespectsWithdrawal s t) :=
  decidable_of_iff
    ((∀ e, t.exchanging.exchanges = e :: s.exchanging.exchanges →
        e.token.family ∉ s.withdrawn ∧ responsePair e.response ∉ s.withdrawn) ∧
      ∀ r, t.refreshing.rotations = r :: s.refreshing.rotations →
        r.child.family ∉ s.withdrawn ∧ responsePair r.response ∉ s.withdrawn)
    ⟨fun ⟨h, h'⟩ => ⟨h, h'⟩, fun ⟨h, h'⟩ => ⟨h, h'⟩⟩

/-- Nothing of the pair outlives the revocation: the consent and the active tokens are those it has
found, no code is stored that has not expired, and no other transaction has read the consent, taken
a code or claimed a token of the pair. -/
structure Complete (s : State) (x : Revocation) : Prop where
  consents : (s.consents.find? x.pair).isSome → x.phase.found = true
  tokens : ∀ token ∈ s.tokens.rows, authorizedBy x.pair token = true →
    token.tokenHash ∈ x.phase.locks
  codes : ∀ code ∈ s.exchanging.codes.rows, codePair code = x.pair → code.expiresAt < s.clock
  exchanging : ∀ y ∈ s.exchanging.requests.rows, ∀ code ∈ y.phase.deleted?,
    codePair code = x.pair → y.phase = .deleted code ∧ code.expiresAt < s.clock
  refreshing : ∀ y ∈ s.refreshing.requests.rows, ∀ token ∈ y.phase.claimed?, token.family ≠ x.pair
  grants : ∀ y ∈ s.grants.rows, y.approval = false → y.phase ≠ .authorizing → y.pair ≠ x.pair

/-- A revocation commits when nothing of its pair outlives it. -/
def RevocationGuard (s : State) : Input → Prop
  | .revocation (.commit id) => ∀ x ∈ s.revocations.rows, x.id = id → Complete s x
  | _ => True

instance (s : State) (x : Revocation) : Decidable (Complete s x) :=
  decidable_of_iff
    (((s.consents.find? x.pair).isSome → x.phase.found = true) ∧
      (∀ token ∈ s.tokens.rows, authorizedBy x.pair token = true →
        token.tokenHash ∈ x.phase.locks) ∧
      (∀ code ∈ s.exchanging.codes.rows, codePair code = x.pair → code.expiresAt < s.clock) ∧
      (∀ y ∈ s.exchanging.requests.rows, ∀ code ∈ y.phase.deleted?,
        codePair code = x.pair → y.phase = .deleted code ∧ code.expiresAt < s.clock) ∧
      (∀ y ∈ s.refreshing.requests.rows, ∀ token ∈ y.phase.claimed?, token.family ≠ x.pair) ∧
      ∀ y ∈ s.grants.rows, y.approval = false → y.phase ≠ .authorizing → y.pair ≠ x.pair)
    ⟨fun ⟨h₁, h₂, h₃, h₄, h₅, h₆⟩ => ⟨h₁, h₂, h₃, h₄, h₅, h₆⟩,
      fun ⟨h₁, h₂, h₃, h₄, h₅, h₆⟩ => ⟨h₁, h₂, h₃, h₄, h₅, h₆⟩⟩

instance (s : State) : ∀ i, Decidable (RevocationGuard s i)
  | .revocation (.commit _) => inferInstanceAs (Decidable (∀ _ ∈ _, _ → _))
  | .revocation (.begin _ _ _ _) | .revocation (.deleteConsent _) | .revocation (.matchTokens _)
  | .revocation (.claimTokens _) | .revocation (.abort _) | .grant _ | .exchange _ | .refresh _ =>
    .isTrue trivial

/-- The flow of what is not of the pair; expired codes and revoked tokens of the pair may stay. -/
def flowWithout (pair : UserId × String) (clock : DateTime) : Flow where
  consent consent := consent.pair ≠ pair
  covered userId request := (userId, request.clientId) ≠ pair
  code code := codePair code = pair → code.expiresAt < clock
  checked code := codePair code ≠ pair
  token token := token.family = pair → token.revokedAt ≠ none
  claimed token := token.family ≠ pair

/-- The flow of anything. -/
def anyFlow : Flow where
  consent _ := True
  covered _ _ := True
  code _ := True
  checked _ := True
  token _ := True
  claimed _ := True

section Run
variable {service : OAuth2Service} {redirectUriMatches : RedirectUriMatches} {s t : State}
  {pair : UserId × String} {clock clock' : DateTime}

theorem anyFlow_closed (clock : DateTime) : anyFlow.Closed clock :=
  ⟨fun _ _ _ _ _ => trivial, fun _ _ _ _ _ => trivial, fun _ _ _ => trivial,
    fun _ _ _ _ => trivial, fun _ _ _ => trivial, fun _ _ _ _ => trivial, fun _ _ _ => trivial⟩

theorem family_eq {userId : UserId} {clientId : String} {scope : Option String}
    {token : OAuth2RefreshToken} (h : TokenOf userId clientId scope token) :
    token.family = (userId, clientId) := Prod.ext h.userId h.clientId

theorem flowWithout_closed (pair : UserId × String) (clock : DateTime) :
    (flowWithout pair clock).Closed clock where
  covers consent request hconsent hclient _ := by
    show (consent.userId, request.clientId) ≠ pair
    rw [← hclient]
    exact hconsent
  issues userId request code hcovered hcode hpair := by
    refine absurd hpair ?_
    rw [codePair, hcode.userId, hcode.clientId]
    exact hcovered
  checks code hcode hunexpired hpair := absurd (hcode hpair) (not_lt.mpr hunexpired)
  exchanges code token hchecked htoken hfamily := absurd ((family_eq htoken).symm.trans hfamily) hchecked
  claims token htoken hnone hfamily := htoken hfamily hnone
  rotates parent child hclaimed hchild hfamily :=
    absurd ((family_eq hchild).symm.trans hfamily) hclaimed
  revokes token now _ _ := Option.some_ne_none _

theorem flowWithout_le (hlater : clock ≤ clock') :
    (flowWithout pair clock).Le (flowWithout pair clock') :=
  ⟨fun _ h => h, fun _ _ h => h, fun _ h hpair => (h hpair).trans_le hlater, fun _ h => h,
    fun _ h => h, fun _ h => h⟩

/-- Nothing that is alive is of a pair whose authorization is withdrawn. -/
structure WithdrawalInv (s : State) : Prop where
  any : Within anyFlow s
  without : ∀ pair ∈ s.withdrawn, Within (flowWithout pair s.clock) s

theorem WithdrawalInv.respects {i : Input} (h : WithdrawalInv s)
    (hstep : perform service redirectUriMatches s i = some t) : RespectsWithdrawal s t := by
  constructor
  · intro e he
    have hminted := (h.any.exchanged hstep he).2
    have hpair : codePair e.code ∉ s.withdrawn := fun hin =>
      ((h.without _ hin).exchanged hstep he).1 rfl
    have hresponse : responsePair e.response = codePair e.code :=
      Prod.ext hminted.accessToken.1 hminted.accessToken.2.1
    rw [family_eq hminted.refreshToken, hresponse]
    exact ⟨hpair, hpair⟩
  · intro r hr
    have hminted := (h.any.rotated hstep hr).2
    have hpair : r.parent.family ∉ s.withdrawn := fun hin =>
      ((h.without _ hin).rotated hstep hr).1 rfl
    have hresponse : responsePair r.response = r.parent.family :=
      Prod.ext hminted.accessToken.1 hminted.accessToken.2.1
    rw [family_eq hminted.refreshToken, hresponse]
    exact ⟨hpair, hpair⟩

/-- What a complete revocation leaves is not of its pair. -/
theorem Complete.within {x : Revocation} (hany : Within anyFlow s) (hcomplete : Complete s x)
    {found : Bool} {tokenHashes : List String} (hphase : x.phase = .revoked found tokenHashes) :
    Within (flowWithout x.pair s.clock)
      { (s.closeRevocation x.id).setTokens
          (RefreshTokens.State.revoke s.tokens tokenHashes x.startedAt) with
        consents := if found then s.consents.erase x.pair else s.consents
        withdrawn := x.pair :: s.withdrawn } where
  shared := rfl
  consents := by
    intro consent hconsent hpair
    cases hfound : found with
    | true =>
      rw [if_pos hfound] at hconsent
      exact (Table.mem_erase.mp hconsent).2 hpair
    | false =>
      rw [if_neg (by rw [hfound]; exact Bool.false_ne_true)] at hconsent
      have hsome := hcomplete.consents (Table.find?_isSome.mpr ⟨consent, hconsent, hpair⟩)
      rw [hphase] at hsome
      exact absurd (hfound.symm.trans hsome) Bool.false_ne_true
  tokens := by
    intro token htoken hfamily hnone
    obtain ⟨hold, hnot⟩ := RefreshTokens.mem_revoke htoken hnone
    refine hnot ?_
    have hlocked := hcomplete.tokens token hold (by
      rw [authorizedBy, hfamily, hnone, beq_self_eq_true]
      rfl)
    rwa [hphase] at hlocked
  grants := ⟨fun y hy happroval hauthorizing => hcomplete.grants y hy happroval hauthorizing,
    hany.grants.coded⟩
  exchanging := by
    refine ⟨hcomplete.codes, fun y hy code hcode hpair => (hcomplete.exchanging y hy code hcode hpair).2,
      fun y hy checked hchecked => ⟨fun hpair => ?_, (hany.exchanging.checked y hy checked hchecked).2⟩,
      hany.exchanging.minted⟩
    have hdeleted : checked.1 ∈ y.phase.deleted? := by
      revert hchecked
      cases y.phase <;> intro hchecked <;> cases hchecked <;> rfl
    rw [(hcomplete.exchanging y hy checked.1 hdeleted hpair).1] at hchecked
    cases hchecked
  refreshing := ⟨fun y hy token htoken => ⟨hcomplete.refreshing y hy token htoken,
    (hany.refreshing.claimed y hy token htoken).2⟩, hany.refreshing.minted⟩

/-- How a pair comes to be withdrawn, and stays so. -/
theorem withdrawn_of_perform {i : Input} (h : perform service redirectUriMatches s i = some t)
    (hpair : pair ∈ t.withdrawn) :
    (pair ∈ s.withdrawn ∧ ∀ x ∈ s.grants.rows, x.approval = true → i = .grant (.commit x.id) →
      x.pair ≠ pair) ∨
    ∃ x ∈ s.revocations.rows, ∃ found tokenHashes, x.phase = .revoked found tokenHashes ∧
      i = .revocation (.commit x.id) ∧ x.pair = pair ∧
      t = { (s.closeRevocation x.id).setTokens
          (RefreshTokens.State.revoke s.tokens tokenHashes x.startedAt) with
        consents := if found then s.consents.erase x.pair else s.consents
        withdrawn := x.pair :: s.withdrawn } := by
  cases i with
  | grant input =>
    refine .inl ⟨?_, fun x hx happroval hcommit hsame => ?_⟩
    · cases grantEffect_of_step h with
      | approve => exact (List.mem_filter.mp hpair).1
      | _ => exact hpair
    · obtain rfl : input = .commit x.id := Input.grant.inj hcommit
      rw [(approved_of_commit hx happroval h).2] at hpair
      exact of_decide_eq_true (List.mem_filter.mp hpair).2 hsame.symm
  | revocation input =>
    cases revocationEffect_of_step h with
    | running => exact .inl ⟨hpair, fun _ _ _ hcommit => by cases hcommit⟩
    | @commit x found tokenHashes hx hphase =>
      rcases List.mem_cons.mp hpair with rfl | hpair
      · exact .inr ⟨x, hx, found, tokenHashes, hphase, rfl, rfl, rfl⟩
      · exact .inl ⟨hpair, fun _ _ _ hcommit => by cases hcommit⟩
  | exchange input =>
    obtain ⟨exchanging, -, rfl⟩ := exchange_of_step h
    exact .inl ⟨hpair, fun _ _ _ hcommit => by cases hcommit⟩
  | refresh input =>
    obtain ⟨refreshing, -, rfl⟩ := refresh_of_step h
    exact .inl ⟨hpair, fun _ _ _ hcommit => by cases hcommit⟩

theorem clock_of_perform {i : Input} (h : perform service redirectUriMatches s i = some t) :
    t.clock = s.clock := by
  cases i with
  | grant input => cases grantEffect_of_step h with | _ => rfl
  | revocation input => cases revocationEffect_of_step h with | _ => rfl
  | exchange input =>
    obtain ⟨exchanging, -, rfl⟩ := exchange_of_step h
    rfl
  | refresh input =>
    obtain ⟨refreshing, -, rfl⟩ := refresh_of_step h
    rfl

theorem WithdrawalInv.tick (h : WithdrawalInv s) {now : DateTime} (hlater : s.clock ≤ now) :
    WithdrawalInv { s with clock := now } := by
  refine ⟨⟨h.any.shared, h.any.consents, h.any.tokens, h.any.grants, h.any.exchanging,
    h.any.refreshing⟩, fun pair hpair => ?_⟩
  have hwithout := (h.without pair hpair).mono (flowWithout_le hlater)
  exact ⟨hwithout.shared, hwithout.consents, hwithout.tokens, hwithout.grants, hwithout.exchanging,
    hwithout.refreshing⟩

theorem WithdrawalInv.performed {i : Input} (h : WithdrawalInv s)
    (hstep : perform service redirectUriMatches s i = some t) (hread : ∀ now ∈ i.now?, s.clock ≤ now)
    (hguard : RevocationGuard s i) : WithdrawalInv t := by
  refine ⟨h.any.performed (anyFlow_closed s.clock) hstep hread
    fun _ _ _ _ => ⟨trivial, fun _ _ => trivial⟩, fun pair hpair => ?_⟩
  rw [clock_of_perform hstep]
  rcases withdrawn_of_perform hstep hpair with
    ⟨hold, hother⟩ | ⟨x, hx, found, tokenHashes, hphase, rfl, rfl, rfl⟩
  · refine (h.without pair hold).performed (flowWithout_closed pair s.clock) hstep hread
      fun x hx happroval hcommit => ⟨hother x hx happroval hcommit, fun code hcode hsame => ?_⟩
    refine absurd ?_ (hother x hx happroval hcommit)
    rw [Grant.pair, ← hcode.userId, ← hcode.clientId]
    exact hsame
  · exact Complete.within h.any (hguard x hx rfl) hphase

theorem withdrawalInv_step {i : Input} (h : WithdrawalInv s)
    (hstep : step service redirectUriMatches s i = some t) (hguard : RevocationGuard s i) :
    WithdrawalInv t ∧ RespectsWithdrawal s t := by
  obtain ⟨hlater, hperform⟩ := step_eq_some hstep
  have htick := h.tick hlater
  have hrespects := htick.respects hperform
  refine ⟨htick.performed hperform (now_le (s := s)) ?_, hrespects.exchanges, hrespects.rotations⟩
  -- a revocation commits without reading the clock
  cases i with
  | revocation input =>
    cases input with
    | commit id => exact hguard
    | _ => trivial
  | _ => trivial

theorem withdrawalInv_initial (clock : DateTime) (consents : Table OAuth2UserConsent.pair)
    (codes : Table OAuth2AuthorizationCode.code) (tokens : Table OAuth2RefreshToken.tokenHash) :
    WithdrawalInv (initial clock consents codes tokens) :=
  ⟨within_initial (fun _ _ => trivial) (fun _ _ => trivial) (fun _ _ => trivial),
    fun _ hpair => absurd hpair List.not_mem_nil⟩

/-- In every run in which nothing of a pair outlives its revocation, no request can make the token
endpoint issue a token for the pair before the user consents again. -/
theorem revocation_complete_of_guard (service : OAuth2Service)
    (redirectUriMatches : RedirectUriMatches) (clock : DateTime)
    (consents : Table OAuth2UserConsent.pair) (codes : Table OAuth2AuthorizationCode.code)
    (tokens : Table OAuth2RefreshToken.tokenHash) (inputs : List Input)
    (hrun : Along (step service redirectUriMatches) (fun s i _ => RevocationGuard s i)
      (initial clock consents codes tokens) inputs) :
    Along (step service redirectUriMatches) (fun s _ t => RespectsWithdrawal s t)
      (initial clock consents codes tokens) inputs :=
  hrun.of_invariant (I := WithdrawalInv)
    (fun _ _ _ h hstep hguard => (withdrawalInv_step h hstep hguard).1)
    (fun _ _ _ h hstep hguard => (withdrawalInv_step h hstep hguard).2)
    (withdrawalInv_initial clock consents codes tokens)

end Run

def revocationRun : List Input :=
  [.revocation (.begin 0 ⟨0⟩ "client" 60), .revocation (.deleteConsent 0),
    .revocation (.matchTokens 0), .revocation (.claimTokens 0), .revocation (.commit 0)]

/-- The code was exchanged and the token rotated before the revocation; the client then presents
the new token, and is refused. -/
theorem exchangedCode_revoked :
    Along sampleStep (fun s _ t => RespectsWithdrawal s t)
      (initial 0 Table.empty Table.empty Table.empty)
      (consentRun "read" ++ exchangeRun ++ rotationRun ++ revocationRun ++
        [.refresh (.begin "child" "client" 70), .refresh (.revokeIfActive 1)]) :=
  revocation_complete_of_guard sampleService _ 0 _ _ _ _ (by decide +kernel)

/-- The user revokes the client before it exchanges its code: the code still buys tokens. -/
theorem outstandingCode_exchanged :
    Possible sampleStep (initial 0 Table.empty Table.empty Table.empty)
        (consentRun "read" ++ revocationRun ++ exchangeRun) ∧
      ¬ Along sampleStep (fun s _ t => RespectsWithdrawal s t)
        (initial 0 Table.empty Table.empty Table.empty)
        (consentRun "read" ++ revocationRun ++ exchangeRun) := by
  decide +kernel

end UniversalInbox.OAuth2.AuthorizationServer
