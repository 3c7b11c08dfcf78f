import UniversalInbox.Library.OneTime
import UniversalInbox.OneGrant
import UniversalInbox.User

/-! The authorizations of connections: a user begins one with a state that Redis keeps for ten
minutes, and the provider sends a browser back with that state and a code. The transactions of
each connection are those of `OneGrant`, which takes for granted that no two callbacks have one
state. -/
namespace UniversalInbox.OAuthCredential.Authorization
open Transition OneGrant

/-- `OAUTH_STATE_TTL_SECONDS`. -/
def oauthStateTtl : Int := 600 * 1000000000

structure OAuthStateData where
  integrationConnectionId : IntegrationConnectionId
  pkceVerifier : Option String
  providerKind : IntegrationProviderKind
deriving DecidableEq, Repr

/-- An authorization that the URL of its provider has been built for. -/
structure Begun where
  state : String
  data : OAuthStateData
  userId : UserId
deriving DecidableEq, Repr

/-- The entry of Redis. -/
structure StoredState where
  begun : Begun
  storedAt : DateTime
deriving DecidableEq, Repr

/-- What of the form of `exchange_code_for_token` depends on the callback. -/
structure TokenRequest where
  state : String
  code : String
  codeVerifier : Option String
  providerKind : IntegrationProviderKind
  sentAt : DateTime
deriving DecidableEq, Repr

/-- A row, and the transactions on its other columns. -/
structure IntegrationConnection where
  id : IntegrationConnectionId
  userId : UserId
  providerKind : IntegrationProviderKind
  transactions : OneGrant.State

abbrev IntegrationConnections := Table IntegrationConnection.id

structure Platform where
  service : Service
  supportsPkce : IntegrationProviderKind → Bool

/-- `taken` has the states whose entry a callback has deleted. -/
structure State where
  clock : DateTime
  connections : IntegrationConnections
  drawn : List String
  pending : Table Begun.state
  states : OneTime (fun v : StoredState => v.begun.state) TokenRequest
  taken : List String

structure OAuthCallbackQuery where
  code : Option String
  state : Option String
  error : Option String
deriving DecidableEq, Repr

/-- A command to Redis may have been applied where its answer is lost. -/
inductive RedisOutcome where
  | answered
  | unanswered (applied : Bool)
deriving DecidableEq, Repr

def RedisOutcome.applied : RedisOutcome → Bool
  | answered => true
  | unanswered applied => applied

inductive Input where
  | tick (elapsed : Nat)
  | create (id : IntegrationConnectionId) (userId : UserId) (providerKind : IntegrationProviderKind)
  | authorize (userId : UserId) (id : IntegrationConnectionId) (state verifier : String)
  | setState (state : String) (outcome : RedisOutcome)
  | callback (query : OAuthCallbackQuery) (outcome : RedisOutcome) (answer : ProviderAnswer)
  | transaction (id : IntegrationConnectionId) (input : OneGrant.Input)

def idText (id : IntegrationConnectionId) : String := String.ofList (Uuid.hyphenated id.uuid)

/-- The kind as `{:?}` writes it. -/
def debugKind : IntegrationProviderKind → String
  | .github => "Github"
  | .linear => "Linear"
  | .googleCalendar => "GoogleCalendar"
  | .googleDrive => "GoogleDrive"
  | .googleMail => "GoogleMail"
  | .notion => "Notion"
  | .slack => "Slack"
  | .todoist => "Todoist"
  | .tickTick => "TickTick"
  | .api => "API"

/-- `start_oauth_authorization` up to its command to Redis. -/
def startOauthAuthorization (platform : Platform) (connections : IntegrationConnections)
    (id : IntegrationConnectionId) (userId : UserId) (state verifier : String) :
    Except UniversalInboxError Begun :=
  match connections.find? id with
  | none => .error (.itemNotFound s!"Integration connection {idText id} not found")
  | some c =>
    if c.userId ≠ userId then
      .error (.forbidden
        s!"Integration connection {idText id} does not belong to user {User.userIdText userId}")
    else if c.transactions.connection.committed.status ≠ .created then
      .error (.unsupportedAction s!"Integration connection {idText id} is not in Created status")
    else if platform.service.configured c.providerKind then
      .ok
        { state
          data :=
            { integrationConnectionId := id
              pkceVerifier := if platform.supportsPkce c.providerKind then some verifier else none
              providerKind := c.providerKind }
          userId }
    else
      .error (.unsupportedAction s!"No OAuth2 provider configured for {debugKind c.providerKind}")

/-- What a callback begins on the connection of its state. -/
def receive (config : Config) (s : OneGrant.State) (grant : OAuthState) (answer : ProviderAnswer) :
    Option OneGrant.State :=
  let s := { s with
    used := grant :: s.used
    late := if s.validations = 0 then s.late else grant :: s.late }
  match prepare config grant answer with
  | none => some s
  | some p => s.begin (.callback p) .exchanged

def IntegrationConnection.config (platform : Platform) (c : IntegrationConnection) : Config :=
  ⟨platform.service, c.id, c.providerKind⟩

namespace State

/-- `GETDEL` finds an entry that has not expired. -/
def live (s : State) (state : String) : Option (Ticket StoredState) :=
  (s.states.slots.find? state).filter fun t => s.clock < t.content.storedAt + oauthStateTtl

def forget (s : State) (state : String) : State :=
  { s with
    states := s.states.discard state
    taken := (s.states.slots.find? state).elim s.taken fun _ => state :: s.taken }

/-- The entry is used for a request to the token endpoint. -/
def exchange (s : State) (ticket : Ticket StoredState) (request : TokenRequest) : State :=
  { s with
    states := (s.states.take request.state request).complete ticket.serial
    taken := request.state :: s.taken }

end State

/-- `complete_oauth_callback` up to its read of the connection. -/
def completeOauthCallback (platform : Platform) (s : State) (code state : String)
    (outcome : RedisOutcome) (answer : ProviderAnswer) : Option State :=
  match outcome, s.live state with
  | .unanswered false, _ => some s
  | .unanswered true, _ | .answered, none => some (s.forget state)
  | .answered, some ticket =>
    let data := ticket.content.begun.data
    if platform.service.configured data.providerKind then
      let s := s.exchange ticket ⟨state, code, data.pkceVerifier, data.providerKind, s.clock⟩
      match s.connections.find? data.integrationConnectionId with
      | none => some s
      | some c =>
        (receive ⟨platform.service, data.integrationConnectionId, data.providerKind⟩ c.transactions
          ⟨state⟩ answer).map fun transactions =>
            { s with connections := s.connections.put { c with transactions } }
    else some (s.forget state)

def isCallback : OneGrant.Input → Bool
  | .callback _ _ => true
  | _ => false

def step (platform : Platform) (s : State) : Input → Option State
  | .tick elapsed => some { s with clock := s.clock + elapsed }
  | .create id userId providerKind =>
    (s.connections.insert? ⟨id, userId, providerKind, initial userId⟩).map fun connections =>
      { s with connections }
  | .authorize userId id state verifier =>
    -- the state is drawn at random
    if s.drawn.contains state then none
    else
      let s := { s with drawn := state :: s.drawn }
      match startOauthAuthorization platform s.connections id userId state verifier with
      | .error _ => some s
      | .ok begun => some { s with pending := s.pending.put begun }
  | .setState state outcome =>
    (s.pending.find? state).map fun begun =>
      let s := { s with pending := s.pending.erase state }
      if outcome.applied then { s with states := s.states.put ⟨begun, s.clock⟩ } else s
  | .callback query outcome answer =>
    match query.error, query.code, query.state with
    | none, some code, some state => completeOauthCallback platform s code state outcome answer
    | _, _, _ => some s
  | .transaction id input =>
    if isCallback input then none
    else
      (s.connections.find? id).bind fun c =>
        (OneGrant.step (c.config platform) c.transactions input).map fun transactions =>
          { s with connections := s.connections.put { c with transactions } }

def empty (clock : DateTime) : State where
  clock
  connections := Table.empty
  drawn := []
  pending := Table.empty
  states := OneTime.empty
  taken := []

/-- The request is made with the entry that its state has, before it expires. -/
structure Exchanged (x : Taken StoredState TokenRequest) : Prop where
  state : x.use.state = x.ticket.content.begun.state
  codeVerifier : x.use.codeVerifier = x.ticket.content.begun.data.pkceVerifier
  providerKind : x.use.providerKind = x.ticket.content.begun.data.providerKind
  since : x.ticket.content.storedAt ≤ x.use.sentAt
  before : x.use.sentAt < x.ticket.content.storedAt + oauthStateTtl

/-- An authorization is of a connection of the user who has begun it. -/
def Owned (connections : IntegrationConnections) (b : Begun) : Prop :=
  ∃ c ∈ connections.rows, c.id = b.data.integrationConnectionId ∧ c.userId = b.userId ∧
    c.providerKind = b.data.providerKind

/-- The states of the requests made for a connection, the last one first. -/
def State.exchanges (s : State) (id : IntegrationConnectionId) : List OAuthState :=
  (s.states.completed.filter fun x =>
    x.ticket.content.begun.data.integrationConnectionId = id).map fun x => ⟨x.use.state⟩

/-- The transactions of the connection are a run of `OneGrant`, with one callback for each request
made for it. -/
def Runs (platform : Platform) (s : State) (c : IntegrationConnection) : Prop :=
  c.transactions.used = s.exchanges c.id ∧
    ∃ inputs, exec (OneGrant.step (c.config platform)) (initial c.userId) inputs =
      some c.transactions

structure Sound (s : State) : Prop where
  pending : ∀ b ∈ s.pending.rows, b.state ∈ s.drawn ∧ Owned s.connections b ∧
    ∀ t ∈ s.states.issued, t.content.begun.state ≠ b.state
  issued : ∀ t ∈ s.states.issued, t.content.begun.state ∈ s.drawn ∧
    Owned s.connections t.content.begun ∧ t.content.storedAt ≤ s.clock
  distinct : (s.states.issued.map fun t => t.content.begun.state).Nodup
  exchanged : ∀ x ∈ s.states.completed, Exchanged x ∧ x.use.state ∈ s.taken
  taken : ∀ state ∈ s.taken, ∃ t ∈ s.states.issued, t.content.begun.state = state
  slots : ∀ t ∈ s.states.issued, t ∈ s.states.slots.rows ↔ t.content.begun.state ∉ s.taken

structure Inv (platform : Platform) (s : State) : Prop extends Sound s where
  runs : ∀ c ∈ s.connections.rows, Runs platform s c

section Transactions
variable {config : Config} {s t : OneGrant.State}

theorem inv_initial (userId : UserId) : OneGrant.Inv (initial userId) where
  connection := LockedRow.obeys_initial trivial trivial
  credential := LockedRow.obeys_initial trivial trivial
  scripts _ hx := absurd hx Table.not_mem_empty
  stored _ hg := absurd hg List.not_mem_nil
  fresh _ hx := absurd hx Table.not_mem_empty
  distinct _ hx := absurd hx Table.not_mem_empty
  validated h := absurd rfl h
  idle _ := ⟨rfl, rfl⟩
  late _ hg := absurd hg List.not_mem_nil
  overtaken h := absurd rfl h

theorem used_begin {operation : Operation} {phase : Phase} (ht : s.begin operation phase = some t) :
    t.used = s.used := by
  obtain ⟨sessions, -, rfl⟩ := Option.map_eq_some_iff.mp ht
  rfl

theorem used_write {x : Session} {statement : Statement} {remaining : List Statement}
    (ht : s.write? x statement remaining = some t) : t.used = s.used := by
  unfold State.write? at ht
  split at ht <;> obtain ⟨row, -, rfl⟩ := Option.map_eq_some_iff.mp ht <;> rfl

theorem used_commit (x : Session) : (s.commit x).used = s.used := by
  unfold State.commit
  cases x.operation <;> rfl

/-- Only a callback uses a state. -/
theorem used_step {i : OneGrant.Input} (hother : isCallback i = false)
    (ht : OneGrant.step config s i = some t) : t.used = s.used := by
  cases i with
  | callback grant answer => cases hother
  | check id =>
    obtain ⟨x, -, -, ht⟩ := Table.find?_bind_eq_some.mp ht
    split at ht
    · split at ht <;> cases ht <;> rfl
    · cases ht
  | refresh expiringBefore providerKind => exact used_begin ht
  | list id =>
    obtain ⟨x, -, -, ht⟩ := Table.find?_bind_eq_some.mp ht
    split at ht
    · split at ht
      · cases ht
        rfl
      · split at ht <;> cases ht <;> rfl
    · cases ht
  | answer id answer =>
    obtain ⟨x, -, -, ht⟩ := Table.find?_bind_eq_some.mp ht
    split at ht
    · split at ht <;> cases ht <;> rfl
    · cases ht
  | disconnect forUserId =>
    rw [OneGrant.step] at ht
    split at ht
    · exact used_begin ht
    · cases ht
      rfl
  | execute id =>
    obtain ⟨x, -, -, ht⟩ := Table.find?_bind_eq_some.mp ht
    split at ht
    · unfold State.execute at ht
      split at ht
      · cases ht
        rfl
      · exact used_write ht
    · cases ht
  | commit id =>
    obtain ⟨x, -, -, ht⟩ := Table.find?_bind_eq_some.mp ht
    split at ht
    · cases ht
      exact used_commit x
    · cases ht
  | rollback id =>
    obtain ⟨x, -, rfl⟩ := Option.map_eq_some_iff.mp ht
    rfl

/-- A callback with a new state is a step of `OneGrant`. -/
theorem step_of_receive {grant : OAuthState} {answer : ProviderAnswer} (hnew : grant ∉ s.used)
    (ht : receive config s grant answer = some t) :
    OneGrant.step config s (.callback grant answer) = some t := by
  rw [OneGrant.step, if_neg (by simpa using hnew)]
  exact ht

theorem used_receive {grant : OAuthState} {answer : ProviderAnswer}
    (ht : receive config s grant answer = some t) : t.used = grant :: s.used := by
  unfold receive at ht
  cases hprepared : prepare config grant answer with
  | none =>
    rw [hprepared] at ht
    cases ht
    rfl
  | some p =>
    rw [hprepared] at ht
    exact used_begin ht

end Transactions

section Run
variable {platform : Platform} {s t : State} {c c' : IntegrationConnection} {b : Begun}
  {connections : IntegrationConnections} {ticket : Ticket StoredState} {request : TokenRequest}
  {state : String}

theorem Owned.put (h : Owned connections b) (hc : c ∈ connections.rows)
    (transactions : OneGrant.State) : Owned (connections.put { c with transactions }) b := by
  obtain ⟨d, hd, hid, howner⟩ := h
  by_cases hsame : d.id = c.id
  · obtain rfl := Table.eq_of_key hd hc hsame
    exact ⟨_, Table.mem_put.mpr (.inl rfl), hid, howner⟩
  · exact ⟨d, Table.mem_put.mpr (.inr ⟨hd, hsame⟩), hid, howner⟩

theorem Owned.insert {connections' : IntegrationConnections} (h : Owned connections b)
    (hinsert : connections.insert? c = some connections') : Owned connections' b := by
  obtain ⟨d, hd, howner⟩ := h
  obtain ⟨-, hrows⟩ := Table.insert?_eq_some.mp hinsert
  exact ⟨d, hrows ▸ List.mem_append_left _ hd, howner⟩

theorem owned_of_start {id : IntegrationConnectionId} {userId : UserId} {verifier : String}
    (h : startOauthAuthorization platform s.connections id userId state verifier = .ok b) :
    b.state = state ∧ Owned s.connections b := by
  unfold startOauthAuthorization at h
  split at h
  · cases h
  next c hfind =>
  obtain ⟨hc, rfl⟩ := Table.find?_eq_some.mp hfind
  split at h
  · cases h
  next howner =>
  split at h
  · cases h
  split at h
  · cases h
    exact ⟨rfl, c, hc, rfl, not_not.mp howner, rfl⟩
  · cases h

theorem live_eq_some : s.live state = some ticket ↔
    ticket ∈ s.states.slots.rows ∧ ticket.content.begun.state = state ∧
      s.clock < ticket.content.storedAt + oauthStateTtl := by
  unfold State.live
  rw [Option.filter_eq_some_iff, Table.find?_eq_some, decide_eq_true_eq, and_assoc]

theorem Sound.tick (h : Sound s) (elapsed : Nat) :
    Sound { s with clock := s.clock + elapsed } where
  pending := h.pending
  issued t ht :=
    have ⟨hdrawn, howned, hstored⟩ := h.issued t ht
    ⟨hdrawn, howned, hstored.trans (le_add_of_nonneg_right (Int.natCast_nonneg elapsed))⟩
  distinct := h.distinct
  exchanged := h.exchanged
  taken := h.taken
  slots := h.slots

theorem Sound.manage (h : Sound s)
    (howned : ∀ b : Begun, Owned s.connections b → Owned connections b) :
    Sound { s with connections } where
  pending b hb :=
    have ⟨hdrawn, hold, hnew⟩ := h.pending b hb
    ⟨hdrawn, howned b hold, hnew⟩
  issued t ht :=
    have ⟨hdrawn, hold, hstored⟩ := h.issued t ht
    ⟨hdrawn, howned _ hold, hstored⟩
  distinct := h.distinct
  exchanged := h.exchanged
  taken := h.taken
  slots := h.slots

theorem Sound.draw (h : Sound s) (state : String) :
    Sound { s with drawn := state :: s.drawn } where
  pending b hb :=
    have ⟨hdrawn, hold⟩ := h.pending b hb
    ⟨List.mem_cons_of_mem _ hdrawn, hold⟩
  issued t ht :=
    have ⟨hdrawn, hold⟩ := h.issued t ht
    ⟨List.mem_cons_of_mem _ hdrawn, hold⟩
  distinct := h.distinct
  exchanged := h.exchanged
  taken := h.taken
  slots := h.slots

theorem Sound.begin (h : Sound s) (hnew : b.state ∉ s.drawn) (howned : Owned s.connections b) :
    Sound { s with drawn := b.state :: s.drawn, pending := s.pending.put b } where
  pending b' hb' := by
    obtain rfl | ⟨hb', -⟩ := Table.mem_put.mp hb'
    · refine ⟨List.mem_cons_self, howned, fun t ht hstate => hnew ?_⟩
      exact hstate ▸ (h.issued t ht).1
    · exact (h.draw b.state).pending b' hb'
  issued := (h.draw b.state).issued
  distinct := h.distinct
  exchanged := h.exchanged
  taken := h.taken
  slots := h.slots

theorem Sound.erase (h : Sound s) (state : String) :
    Sound { s with pending := s.pending.erase state } where
  pending b hb := h.pending b (Table.mem_erase.mp hb).1
  issued := h.issued
  distinct := h.distinct
  exchanged := h.exchanged
  taken := h.taken
  slots := h.slots

theorem Sound.store (h : Sound s) (hb : b ∈ s.pending.rows) :
    Sound { s with
      pending := s.pending.erase b.state
      states := s.states.put ⟨b, s.clock⟩ } := by
  obtain ⟨hdrawn, howned, hnew⟩ := h.pending b hb
  have hfresh : b.state ∉ s.taken := fun htaken =>
    have ⟨t, ht, hstate⟩ := h.taken _ htaken
    hnew t ht hstate
  constructor
  · intro b' hb'
    obtain ⟨hb', hne⟩ := Table.mem_erase.mp hb'
    obtain ⟨hdrawn', howned', hnew'⟩ := h.pending b' hb'
    exact ⟨hdrawn', howned', List.forall_mem_cons.mpr ⟨fun hstate => hne hstate.symm, hnew'⟩⟩
  · exact List.forall_mem_cons.mpr ⟨⟨hdrawn, howned, le_refl _⟩, h.issued⟩
  · refine List.nodup_cons.mpr ⟨fun hmem => ?_, h.distinct⟩
    obtain ⟨t, ht, hstate⟩ := List.mem_map.mp hmem
    exact hnew t ht hstate
  · exact h.exchanged
  · intro state hstate
    obtain ⟨t, ht, rfl⟩ := h.taken state hstate
    exact ⟨t, List.mem_cons_of_mem _ ht, rfl⟩
  · refine List.forall_mem_cons.mpr ⟨⟨fun _ => hfresh, fun _ => Table.mem_put.mpr (.inl rfl)⟩, ?_⟩
    intro t ht
    rw [← h.slots t ht]
    refine Table.mem_put.trans ⟨?_, fun hmem => .inr ⟨hmem, hnew t ht⟩⟩
    rintro (rfl | ⟨hmem, -⟩)
    · exact absurd rfl (hnew _ ht)
    · exact hmem

theorem Sound.forget (h : Sound s) (state : String) : Sound (s.forget state) := by
  have htaken : ∀ state', state' ∈ (s.forget state).taken ↔ state' ∈ s.taken ∨
      state' = state ∧ ∃ t ∈ s.states.slots.rows, t.content.begun.state = state := by
    intro state'
    rw [← Table.find?_isSome]
    unfold State.forget
    cases s.states.slots.find? state <;> simp [or_comm]
  refine ⟨h.pending, h.issued, h.distinct, fun x hx => ?_, fun state' hstate => ?_, fun t ht => ?_⟩
  · obtain ⟨hexchanged, hmem⟩ := h.exchanged x hx
    exact ⟨hexchanged, (htaken _).mpr (.inl hmem)⟩
  · obtain hstate | ⟨rfl, t, ht, rfl⟩ := (htaken state').mp hstate
    · exact h.taken state' hstate
    · exact ⟨t, s.states.mem_issued_of_slot ht, rfl⟩
  · rw [htaken, not_or, ← h.slots t ht]
    refine Table.mem_erase.trans (and_congr_right fun hmem => ?_)
    exact ⟨fun hne hstate => hne hstate.1, fun hnot hsame => hnot ⟨hsame, t, hmem, hsame⟩⟩

theorem states_exchange (hlive : s.live request.state = some ticket) :
    (s.exchange ticket request).states.issued = s.states.issued ∧
      (s.exchange ticket request).states.slots = s.states.slots.erase request.state ∧
      (s.exchange ticket request).states.completed = ⟨ticket, request⟩ :: s.states.completed :=
  have ⟨hslot, hstate, _⟩ := live_eq_some.mp hlive
  OneTime.complete_take (Table.find?_eq_some.mpr ⟨hslot, hstate⟩)

theorem Sound.exchange (h : Sound s) (hlive : s.live request.state = some ticket)
    (hverifier : request.codeVerifier = ticket.content.begun.data.pkceVerifier)
    (hkind : request.providerKind = ticket.content.begun.data.providerKind)
    (hsent : request.sentAt = s.clock) : Sound (s.exchange ticket request) := by
  obtain ⟨hslot, hstate, hbefore⟩ := live_eq_some.mp hlive
  obtain ⟨hissued, hslots, hcompleted⟩ := states_exchange hlive
  have hticket : ticket ∈ s.states.issued := s.states.mem_issued_of_slot hslot
  constructor
  · rw [hissued]
    exact h.pending
  · rw [hissued]
    exact h.issued
  · rw [hissued]
    exact h.distinct
  · rw [hcompleted]
    refine List.forall_mem_cons.mpr ⟨⟨⟨hstate.symm, hverifier, hkind, ?_, ?_⟩, List.mem_cons_self⟩,
      fun x hx => ?_⟩
    · exact hsent ▸ (h.issued ticket hticket).2.2
    · exact hsent ▸ hbefore
    · obtain ⟨hexchanged, hmem⟩ := h.exchanged x hx
      exact ⟨hexchanged, List.mem_cons_of_mem _ hmem⟩
  · rw [hissued]
    exact List.forall_mem_cons.mpr ⟨⟨ticket, hticket, hstate⟩, h.taken⟩
  · rw [hissued, hslots]
    intro t ht
    rw [Table.mem_erase, h.slots t ht, and_comm]
    exact not_or.symm.trans (not_congr List.mem_cons.symm)

theorem exchanges_exchange (hlive : s.live request.state = some ticket)
    (id : IntegrationConnectionId) : (s.exchange ticket request).exchanges id =
      if ticket.content.begun.data.integrationConnectionId = id then
        ⟨request.state⟩ :: s.exchanges id
      else s.exchanges id := by
  obtain ⟨-, -, hcompleted⟩ := states_exchange hlive
  unfold State.exchanges
  rw [hcompleted, List.filter_cons]
  split
  next h =>
    rw [if_pos (by simpa using h)]
    rfl
  next h => rw [if_neg (by simpa using h)]

/-- A state that is still to be taken has been of no callback. -/
theorem Sound.not_mem_exchanges (h : Sound s) (hlive : s.live state = some ticket)
    (id : IntegrationConnectionId) : ⟨state⟩ ∉ s.exchanges id := by
  obtain ⟨hslot, rfl, -⟩ := live_eq_some.mp hlive
  intro hmem
  obtain ⟨x, hx, hstate⟩ := List.mem_map.mp hmem
  have htaken := (h.exchanged x (List.mem_of_mem_filter hx)).2
  rw [show x.use.state = _ from congrArg OAuthState.value hstate] at htaken
  exact (h.slots ticket (s.states.mem_issued_of_slot hslot)).mp hslot htaken

/-- Requests are only made for connections that there are. -/
theorem Sound.exchanges_of_none (h : Sound s) {id : IntegrationConnectionId}
    (hnone : s.connections.find? id = none) : s.exchanges id = [] := by
  unfold State.exchanges
  rw [List.map_eq_nil_iff, List.filter_eq_nil_iff]
  intro x hx hid
  obtain ⟨c, hc, hcid, -⟩ := (h.issued x.ticket (s.states.mem_issued_of_completed hx)).2.1
  have hfind : s.connections.find? id = some c :=
    Table.find?_eq_some.mpr ⟨hc, hcid.trans (by simpa using hid)⟩
  rw [hnone] at hfind
  cases hfind

theorem Runs.advance (h : Runs platform s c) {i : OneGrant.Input} {transactions : OneGrant.State}
    (ht : OneGrant.step (c.config platform) c.transactions i = some transactions)
    (hused : transactions.used = t.exchanges c.id) : Runs platform t { c with transactions } := by
  obtain ⟨-, inputs, hinputs⟩ := h
  exact ⟨hused, inputs ++ [i], exec_concat hinputs ht⟩

theorem Runs.of_exchanges (h : Runs platform s c) (heq : t.exchanges c.id = s.exchanges c.id) :
    Runs platform t c := ⟨h.1.trans heq.symm, h.2⟩

/-- A callback with a live state finds the connection of its state, as it was when that began. -/
theorem Inv.complete (h : Inv platform s) {code : String} {outcome : RedisOutcome}
    {answer : ProviderAnswer}
    (ht : completeOauthCallback platform s code state outcome answer = some t) :
    Inv platform t := by
  have hforget : Inv platform (s.forget state) :=
    ⟨h.toSound.forget state, fun c hc => (h.runs c hc).of_exchanges rfl⟩
  unfold completeOauthCallback at ht
  split at ht
  · cases ht
    exact h
  · cases ht
    exact hforget
  · cases ht
    exact hforget
  next ticket hlive =>
  dsimp only at ht
  split at ht
  case isFalse => cases ht; exact hforget
  let request : TokenRequest := ⟨state, code, ticket.content.begun.data.pkceVerifier,
    ticket.content.begun.data.providerKind, s.clock⟩
  have hsound : Sound (s.exchange ticket request) := h.toSound.exchange hlive rfl rfl rfl
  obtain ⟨hslot, -, -⟩ := live_eq_some.mp hlive
  obtain ⟨c, hc, hid, -, hkind⟩ :=
    (h.issued ticket (s.states.mem_issued_of_slot hslot)).2.1
  have hfind : (s.exchange ticket request).connections.find?
      ticket.content.begun.data.integrationConnectionId = some c :=
    Table.find?_eq_some.mpr ⟨hc, hid⟩
  rw [hfind] at ht
  obtain ⟨transactions, hreceive, rfl⟩ := Option.map_eq_some_iff.mp ht
  rw [← hid, ← hkind] at hreceive
  obtain ⟨hused, -⟩ := h.runs c hc
  have hexchanges : ∀ id, (s.exchange ticket request).exchanges id = _ := exchanges_exchange hlive
  refine ⟨hsound.manage fun b hb => hb.put hc transactions, fun d hd => ?_⟩
  obtain rfl | ⟨hd, hne⟩ := Table.mem_put.mp hd
  · refine (h.runs c hc).advance (step_of_receive ?_ hreceive) ?_
    · rw [hused]
      exact h.toSound.not_mem_exchanges hlive c.id
    · rw [used_receive hreceive, hused]
      exact ((hexchanges c.id).trans (if_pos hid.symm)).symm
  · refine (h.runs d hd).of_exchanges ((hexchanges d.id).trans (if_neg ?_))
    exact fun hsame => hne (hsame.symm.trans hid.symm)

theorem inv_step {i : Input} (h : Inv platform s) (ht : step platform s i = some t) :
    Inv platform t := by
  cases i with
  | tick elapsed =>
    cases ht
    exact ⟨h.toSound.tick elapsed, fun c hc => (h.runs c hc).of_exchanges rfl⟩
  | create id userId providerKind =>
    obtain ⟨connections, hinsert, rfl⟩ := Option.map_eq_some_iff.mp ht
    obtain ⟨hnew, hrows⟩ := Table.insert?_eq_some.mp hinsert
    refine ⟨h.toSound.manage fun b hb => hb.insert hinsert, fun c hc => ?_⟩
    obtain hc | hc := List.mem_append.mp (hrows ▸ hc)
    · exact (h.runs c hc).of_exchanges rfl
    · obtain rfl := List.mem_singleton.mp hc
      refine ⟨?_, [], rfl⟩
      exact (h.toSound.exchanges_of_none (Table.find?_eq_none_of_insert hinsert)).symm
  | authorize userId id state verifier =>
    rw [step] at ht
    split at ht
    · cases ht
    next hdrawn =>
    have hnew : state ∉ s.drawn := by simpa using hdrawn
    dsimp only at ht
    split at ht
    · cases ht
      exact ⟨h.toSound.draw state, fun c hc => (h.runs c hc).of_exchanges rfl⟩
    next b hstart =>
      cases ht
      obtain ⟨rfl, howned⟩ := owned_of_start hstart
      exact ⟨h.toSound.begin hnew howned, fun c hc => (h.runs c hc).of_exchanges rfl⟩
  | setState state outcome =>
    obtain ⟨b, hfind, rfl⟩ := Option.map_eq_some_iff.mp ht
    obtain ⟨hb, rfl⟩ := Table.find?_eq_some.mp hfind
    dsimp only
    split
    · exact ⟨h.toSound.store hb, fun c hc => (h.runs c hc).of_exchanges rfl⟩
    · exact ⟨h.toSound.erase b.state, fun c hc => (h.runs c hc).of_exchanges rfl⟩
  | callback query outcome answer =>
    rw [step] at ht
    split at ht
    · exact h.complete ht
    · cases ht
      exact h
  | transaction id input =>
    rw [step] at ht
    split at ht
    · cases ht
    next hother =>
    obtain ⟨c, hc, rfl, hmap⟩ := Table.find?_bind_eq_some.mp ht
    obtain ⟨transactions, hstep, rfl⟩ := Option.map_eq_some_iff.mp hmap
    refine ⟨h.toSound.manage fun b hb => hb.put hc transactions, fun d hd => ?_⟩
    obtain rfl | ⟨hd, -⟩ := Table.mem_put.mp hd
    · refine (h.runs c hc).advance hstep ?_
      exact (used_step (by simpa using hother) hstep).trans (h.runs c hc).1
    · exact (h.runs d hd).of_exchanges rfl

theorem inv_empty (clock : DateTime) : Inv platform (empty clock) where
  pending _ hb := absurd hb Table.not_mem_empty
  issued _ ht := absurd ht List.not_mem_nil
  distinct := List.nodup_nil
  exchanged _ hx := absurd hx List.not_mem_nil
  taken _ hstate := absurd hstate List.not_mem_nil
  slots _ ht := absurd ht List.not_mem_nil
  runs _ hc := absurd hc Table.not_mem_empty

/-- Every request to a token endpoint is made once for an authorization, in time and with what that
was begun with, and what callbacks and refreshes have stored with a connection, its tokens, scopes,
provider user and context, comes from such requests, of its own user. -/
structure Bound (platform : Platform) (s : State) : Prop where
  once : (s.states.completed.map fun x => x.use.state).Nodup
  exchanged : ∀ x ∈ s.states.completed, Exchanged x ∧ Owned s.connections x.ticket.content.begun
  runs : ∀ c ∈ s.connections.rows, Runs platform s c
  stored : ∀ c ∈ s.connections.rows, ∀ g ∈ c.transactions.grants, ∃ x ∈ s.states.completed,
    x.use.state = g.value ∧ x.ticket.content.begun.data.integrationConnectionId = c.id ∧
      x.ticket.content.begun.userId = c.userId

theorem Inv.once (h : Inv platform s) : (s.states.completed.map fun x => x.use.state).Nodup := by
  have hsame : (s.states.completed.map fun x => x.use.state) =
      s.states.completed.map fun x => x.ticket.content.begun.state :=
    List.map_congr_left fun x hx => (h.exchanged x hx).1.state
  rw [hsame]
  exact s.states.nodup_completed_map h.distinct

theorem Inv.stored (h : Inv platform s) (hc : c ∈ s.connections.rows) {g : OAuthState}
    (hg : g ∈ c.transactions.grants) : ∃ x ∈ s.states.completed,
      x.use.state = g.value ∧ x.ticket.content.begun.data.integrationConnectionId = c.id ∧
        x.ticket.content.begun.userId = c.userId := by
  obtain ⟨hused, inputs, hinputs⟩ := h.runs c hc
  have hrun : OneGrant.Inv c.transactions :=
    invariant_of_exec (fun _ _ _ h ht => OneGrant.inv_step h ht) (inv_initial c.userId) hinputs
  have hmem := hrun.stored g hg
  rw [hused] at hmem
  obtain ⟨x, hfiltered, rfl⟩ := List.mem_map.mp hmem
  obtain ⟨hx, hid⟩ := List.mem_filter.mp hfiltered
  rw [decide_eq_true_eq] at hid
  obtain ⟨d, hd, hdid, howner, -⟩ := (h.issued x.ticket (s.states.mem_issued_of_completed hx)).2.1
  obtain rfl := Table.eq_of_key hd hc (hdid.trans hid)
  exact ⟨x, hx, rfl, hid, howner.symm⟩

/-- A callback makes a request exactly when it has a code, and a state stored less than ten minutes
before whose entry no callback has deleted; nothing else makes one. -/
def RequestExact (platform : Platform) (s : State) (i : Input) (t : State) : Prop :=
  match i with
  | .callback query outcome _ =>
    (∃ x, t.states.completed = x :: s.states.completed) ↔
      query.error = none ∧ query.code.isSome ∧ outcome = .answered ∧
        ∃ state ∈ query.state, state ∉ s.taken ∧ ∃ u ∈ s.states.issued,
          u.content.begun.state = state ∧ s.clock < u.content.storedAt + oauthStateTtl ∧
            platform.service.configured u.content.begun.data.providerKind = true
  | _ => t.states.completed = s.states.completed

theorem Sound.live_iff (h : Sound s) : s.live state = some ticket ↔
    state ∉ s.taken ∧ ticket ∈ s.states.issued ∧ ticket.content.begun.state = state ∧
      s.clock < ticket.content.storedAt + oauthStateTtl := by
  rw [live_eq_some]
  constructor
  · rintro ⟨hslot, rfl, hbefore⟩
    have hissued := s.states.mem_issued_of_slot hslot
    exact ⟨(h.slots ticket hissued).mp hslot, hissued, rfl, hbefore⟩
  · rintro ⟨hnot, hissued, rfl, hbefore⟩
    exact ⟨(h.slots ticket hissued).mpr hnot, rfl, hbefore⟩

/-- The requests that the callback of a live state makes. -/
theorem completed_completeOauthCallback {code : String} {outcome : RedisOutcome}
    {answer : ProviderAnswer}
    (ht : completeOauthCallback platform s code state outcome answer = some t) :
    (∃ x, t.states.completed = x :: s.states.completed) ↔ outcome = .answered ∧
      ∃ u, s.live state = some u ∧
        platform.service.configured u.content.begun.data.providerKind = true := by
  have hno : ¬∃ x, s.states.completed = x :: s.states.completed := fun ⟨x, hx⟩ =>
    absurd (congrArg List.length hx) (by simp)
  unfold completeOauthCallback at ht
  split at ht
  · cases ht
    exact iff_of_false hno fun h => by cases h.1
  · cases ht
    exact iff_of_false hno fun h => by cases h.1
  next hnone =>
    cases ht
    refine iff_of_false hno ?_
    rintro ⟨-, u, hu, -⟩
    rw [hnone] at hu
    cases hu
  next ticket hlive =>
  dsimp only at ht
  split at ht
  next hconfigured =>
    let request : TokenRequest := ⟨state, code, ticket.content.begun.data.pkceVerifier,
      ticket.content.begun.data.providerKind, s.clock⟩
    have hcompleted : (s.exchange ticket request).states.completed = _ := (states_exchange hlive).2.2
    refine iff_of_true ⟨⟨ticket, request⟩, ?_⟩ ⟨rfl, ticket, hlive, hconfigured⟩
    split at ht
    · cases ht
      exact hcompleted
    · obtain ⟨transactions, -, rfl⟩ := Option.map_eq_some_iff.mp ht
      exact hcompleted
  next hunconfigured =>
    cases ht
    refine iff_of_false hno ?_
    rintro ⟨-, u, hu, hconfigured⟩
    rw [hlive] at hu
    cases hu
    exact hunconfigured hconfigured

theorem Inv.requestExact {i : Input} (h : Inv platform s) (ht : step platform s i = some t) :
    RequestExact platform s i t := by
  cases i with
  | tick elapsed =>
    cases ht
    rfl
  | create id userId providerKind =>
    obtain ⟨connections, -, rfl⟩ := Option.map_eq_some_iff.mp ht
    rfl
  | authorize userId id state verifier =>
    rw [step] at ht
    split at ht
    · cases ht
    dsimp only at ht
    split at ht <;> cases ht <;> rfl
  | setState state outcome =>
    obtain ⟨b, -, rfl⟩ := Option.map_eq_some_iff.mp ht
    unfold RequestExact
    dsimp only
    split <;> rfl
  | callback query outcome answer =>
    rw [step] at ht
    unfold RequestExact
    dsimp only
    split at ht
    next code state herror hcode hstate =>
      rw [completed_completeOauthCallback ht, herror, hcode, hstate]
      simp only [Option.isSome_some, true_and, Option.mem_some_iff, exists_eq_left',
        h.toSound.live_iff]
      refine and_congr_right fun _ => ?_
      constructor
      · rintro ⟨u, ⟨hnot, hissued, hu, hbefore⟩, hconfigured⟩
        exact ⟨hnot, u, hissued, hu, hbefore, hconfigured⟩
      · rintro ⟨hnot, u, hissued, hu, hbefore, hconfigured⟩
        exact ⟨u, ⟨hnot, hissued, hu, hbefore⟩, hconfigured⟩
    next hincomplete =>
      cases ht
      refine iff_of_false (fun ⟨x, hx⟩ => absurd (congrArg List.length hx) (by simp)) ?_
      rintro ⟨herror, hcode, -, state, hstate, -⟩
      obtain ⟨code, hcode⟩ := Option.isSome_iff_exists.mp hcode
      exact hincomplete code state herror hcode hstate
  | transaction id input =>
    rw [step] at ht
    split at ht
    · cases ht
    obtain ⟨c, -, -, hmap⟩ := Table.find?_bind_eq_some.mp ht
    obtain ⟨transactions, -, rfl⟩ := Option.map_eq_some_iff.mp hmap
    rfl

/-- In every run, whoever's browser brings the callbacks. -/
theorem authorizations_bound {clock : DateTime} {inputs : List Input}
    (hrun : exec (step platform) (empty clock) inputs = some s) : Bound platform s := by
  have h : Inv platform s := invariant_of_exec (fun _ _ _ h ht => inv_step h ht) (inv_empty clock) hrun
  exact
    { once := h.once
      exchanged := fun x hx => ⟨(h.exchanged x hx).1,
        (h.issued x.ticket (s.states.mem_issued_of_completed hx)).2.1⟩
      runs := h.runs
      stored := fun c hc g hg => h.stored hc hg }

theorem requests_exact {clock : DateTime} {inputs : List Input}
    (hrun : Possible (step platform) (empty clock) inputs) :
    Along (step platform) (RequestExact platform) (empty clock) inputs :=
  hrun.of_invariant (fun _ _ _ h ht _ => inv_step h ht) (fun _ _ _ h ht _ => h.requestExact ht)
    (inv_empty clock)

end Run

def samplePlatform : Platform := ⟨⟨latin1Cipher, fun _ => true⟩, fun _ => true⟩

/-- A user authorizes a connection to Slack; the callback comes twice, and once more for an
authorization that has been begun too early. -/
def sampleInputs : List Input :=
  [.create ⟨1⟩ ⟨7⟩ .slack, .authorize ⟨7⟩ ⟨1⟩ "early" "v0", .setState "early" .answered,
    .tick (600 * 1000000000), .authorize ⟨7⟩ ⟨1⟩ "state" "v1", .setState "state" .answered,
    .callback ⟨some "code", some "early", none⟩ .answered firstAnswer,
    .callback ⟨some "code", some "state", none⟩ .answered firstAnswer,
    .callback ⟨some "code", some "state", none⟩ .answered secondAnswer,
    .transaction ⟨1⟩ (.check 0)] ++ (writes 0 4).map (.transaction ⟨1⟩)

theorem sampleInputs_bound :
    ∃ s, exec (step samplePlatform) (empty 0) sampleInputs = some s ∧ Bound samplePlatform s ∧
      (s.states.completed.map fun x => (x.use.state, x.use.codeVerifier)) =
        [("state", some "v1")] ∧
      (s.connections.rows.map fun c => decide (⟨"state"⟩ ∈ c.transactions.grants)) = [true] := by
  have hrun : (exec (step samplePlatform) (empty 0) sampleInputs).any (fun s =>
      (s.states.completed.map fun x => (x.use.state, x.use.codeVerifier)) =
          [("state", some "v1")] ∧
        (s.connections.rows.map fun c => decide (⟨"state"⟩ ∈ c.transactions.grants)) = [true]) =
      true := by decide +kernel
  obtain ⟨s, hs, hstate⟩ := (Option.any_eq_true _ _).mp hrun
  exact ⟨s, hs, authorizations_bound hs, of_decide_eq_true hstate⟩

theorem sampleInputs_exact :
    Along (step samplePlatform) (RequestExact samplePlatform) (empty 0) sampleInputs :=
  requests_exact (by decide +kernel)

end UniversalInbox.OAuthCredential.Authorization
