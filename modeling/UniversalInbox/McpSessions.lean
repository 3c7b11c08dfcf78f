import UniversalInbox.Library.SingleFlight
import UniversalInbox.Library.Transition

/-! The sessions of MCP over several pods: each has its own in memory, and what the `initialize` of
a session brought is stored for all of them, so that a request that meets a pod without its session
has the handshake replayed there. -/
namespace UniversalInbox.McpSessions
open Transition SingleFlight

abbrev PodId := Nat

abbrev SessionId := String

abbrev RequestId := Nat

inductive RestoreOutcome where
  | restored
  | alreadyPresent
  | notSupported
deriving DecidableEq, Repr

/-- The session manager of a pod, which is not in the repository: it knows of a session from when it
is created or restored until it is closed. -/
structure SessionManager (Sessions : Type) where
  new : Sessions
  hasSession : Sessions → SessionId → Bool
  createSession : Sessions → SessionId → Sessions
  restoreSession : Sessions → SessionId → RestoreOutcome × Sessions
  closeSession : Sessions → SessionId → Sessions
  hasSession_new : ∀ id, hasSession new id = false
  hasSession_create : ∀ sessions id other,
    hasSession (createSession sessions id) other = (decide (other = id) || hasSession sessions other)
  restore_present : ∀ sessions id, hasSession sessions id = true →
    restoreSession sessions id = (.alreadyPresent, sessions)
  restore_absent : ∀ sessions id, hasSession sessions id = false →
    restoreSession sessions id = (.notSupported, sessions) ∨
      ((restoreSession sessions id).1 = .restored ∧ ∀ other,
        hasSession (restoreSession sessions id).2 other =
          (decide (other = id) || hasSession sessions other))
  hasSession_close : ∀ sessions id other,
    hasSession (closeSession sessions id) other = (!decide (other = id) && hasSession sessions other)

section Model
variable {Params Sessions : Type}

/-- `SessionState`, under its key. -/
structure Stored (Params : Type) where
  sessionId : SessionId
  initializeParams : Params

/-- A session as it was created; without parameters where the first message was not `initialize`. -/
structure Created (Params : Type) where
  sessionId : SessionId
  initializeParams : Option Params

/-- A request without a session, once the message is known for an `initialize`: `initialized` when
the handshake is over. -/
structure Creation (Params : Type) where
  sessionId : SessionId
  pod : PodId
  initializeParams : Params
  initialized : Bool

/-- Where a request with a session is: its pod has not got the session; it waits for the restore of
another; it holds the entry of `pending_restores`, before the load, with the state loaded, and with
the session restored; the session is there. -/
inductive Phase (Params : Type) where
  | missing
  | waiting (leader : RequestId)
  | registered
  | loaded (initializeParams : Params)
  | restored (initializeParams : Params)
  | ready

def Phase.restoring : Phase Params → Bool
  | registered | loaded _ | restored _ => true
  | missing | waiting _ | ready => false

def Phase.params? : Phase Params → Option Params
  | loaded params | restored params => some params
  | _ => none

/-- `seen` counts the events of the session managers at its `has_session`. -/
structure Request (Params : Type) where
  id : RequestId
  pod : PodId
  sessionId : SessionId
  seen : Nat
  phase : Phase Params

def Request.key (request : Request Params) : PodId × SessionId := (request.pod, request.sessionId)

inductive Outcome where
  | served
  | notFound
  | internalServerError (error : String)
deriving DecidableEq, Repr

/-- `awaited` is the request whose restore was waited for. -/
structure Answer where
  request : RequestId
  pod : PodId
  sessionId : SessionId
  awaited : Option RequestId
  outcome : Outcome
deriving DecidableEq, Repr

/-- What happened to a session of a pod: created, restored by a request, or closed. -/
inductive Event where
  | opened (key : PodId × SessionId) (restorer : Option RequestId)
  | closed (key : PodId × SessionId)
deriving DecidableEq, Repr

def Event.key : Event → PodId × SessionId
  | opened key _ => key
  | closed key => key

def Event.isOpened : Event → Bool
  | opened _ _ => true
  | closed _ => false

structure Restore (Params : Type) where
  request : RequestId
  pod : PodId
  sessionId : SessionId
  initializeParams : Params

/-- `flights` is `pending_restores` of all pods. What follows `begun` is what the requests have come
to, newest first. -/
structure State (Params Sessions : Type) where
  pods : PodId → Sessions
  store : Table (Stored.sessionId : Stored Params → SessionId)
  flights : Flights (PodId × SessionId)
  requests : Table (Request.id : Request Params → RequestId)
  creations : Table (Creation.sessionId : Creation Params → SessionId)
  begun : RequestId
  created : Table (Created.sessionId : Created Params → SessionId)
  restores : List (Restore Params)
  events : List Event
  answers : List Answer

/-- `close` is the end of a session's worker, or the first statement of a DELETE; `delete` is the
second, or the expiry of the stored state. A request is cancelled when its client goes away. What
the session manager answers otherwise is given: `failed` is its error. -/
inductive Input (Params : Type) where
  | create (pod : PodId) (sessionId : SessionId) (initializeParams : Option Params)
  | initializeSession (sessionId : SessionId) (failed : Bool)
  | persist (sessionId : SessionId) (failed : Bool)
  | arrive (pod : PodId) (sessionId : SessionId)
  | tryRestore (id : RequestId)
  | wake (id : RequestId)
  | load (id : RequestId) (failed : Option String)
  | restoreSession (id : RequestId)
  | handshake (id : RequestId) (failed : Option String)
  | dispatch (id : RequestId) (failed : Option String)
  | cancel (id : RequestId)
  | reap (pod : PodId) (sessionId : SessionId)
  | close (pod : PodId) (sessionId : SessionId)
  | delete (sessionId : SessionId)

def alreadyPresentMessage : String :=
  "restore_session returned AlreadyPresent unexpectedly; session manager might have modified the session store outside of the restore_session API"

def initial (manager : SessionManager Sessions) : State Params Sessions :=
  ⟨fun _ => manager.new, Table.empty, Flights.empty, Table.empty, Table.empty, 0, Table.empty, [],
    [], []⟩

namespace State
variable (s : State Params Sessions)

def setPod (pod : PodId) (sessions : Sessions) : State Params Sessions :=
  { s with pods := Function.update s.pods pod sessions }

def advance (x : Request Params) (phase : Phase Params) : State Params Sessions :=
  { s with requests := s.requests.put { x with phase } }

/-- `PendingRestoreGuard::drop`, where the request holds one. -/
def release (x : Request Params) (value : Bool) : State Params Sessions :=
  { s with
    flights := if x.phase.restoring then s.flights.finish x.key x.id value else s.flights }

def leave (x : Request Params) : State Params Sessions :=
  { s.release x false with requests := s.requests.erase x.id }

def answer (x : Request Params) (awaited : Option RequestId) (outcome : Outcome) :
    State Params Sessions :=
  { s.leave x with answers := ⟨x.id, x.pod, x.sessionId, awaited, outcome⟩ :: s.answers }

end State

/-- The statements of `handle_post`, `handle_get`, `handle_delete` and `try_restore_from_store`. -/
def step (manager : SessionManager Sessions) (s : State Params Sessions) :
    Input Params → Option (State Params Sessions)
  | .create pod sessionId initializeParams =>
    (s.created.insert? ⟨sessionId, initializeParams⟩).map fun created =>
      { s.setPod pod (manager.createSession (s.pods pod) sessionId) with
        created
        events := .opened (pod, sessionId) none :: s.events
        -- any other message is answered 422, with the session left as it is
        creations :=
          initializeParams.elim s.creations fun params =>
            s.creations.put ⟨sessionId, pod, params, false⟩ }
  | .initializeSession sessionId failed =>
    (s.creations.find? sessionId).bind fun c =>
      if c.initialized then none
      else if failed then some { s with creations := s.creations.erase sessionId }
      else some { s with creations := s.creations.put { c with initialized := true } }
  | .persist sessionId failed =>
    (s.creations.find? sessionId).bind fun c =>
      if c.initialized then
        some { s with
          creations := s.creations.erase sessionId
          store := if failed then s.store else s.store.put ⟨sessionId, c.initializeParams⟩ }
      else none
  | .arrive pod sessionId =>
    some { s with
      begun := s.begun + 1
      requests := s.requests.put
        { id := s.begun, pod, sessionId, seen := s.events.length
          phase := if manager.hasSession (s.pods pod) sessionId then .ready else .missing } }
  | .tryRestore id =>
    (s.requests.find? id).bind fun x =>
      match x.phase with
      | .missing =>
        let entered := s.flights.enter x.key x.id
        some <| { s with flights := entered.1 }.advance x (entered.2.elim .registered .waiting)
      | _ => none
  | .wake id =>
    (s.requests.find? id).bind fun x =>
      match x.phase with
      | .waiting leader =>
        (s.flights.results.find? leader).map fun result =>
          if result.value then s.advance x .ready else s.answer x (some leader) .notFound
      | _ => none
  | .load id failed =>
    (s.requests.find? id).bind fun x =>
      match x.phase with
      | .registered =>
        match failed with
        | some error => some (s.answer x none (.internalServerError error))
        | none =>
          match s.store.find? x.sessionId with
          | none => some (s.answer x none .notFound)
          | some stored => some (s.advance x (.loaded stored.initializeParams))
      | _ => none
  | .restoreSession id =>
    (s.requests.find? id).bind fun x =>
      match x.phase with
      | .loaded params =>
        match manager.restoreSession (s.pods x.pod) x.sessionId with
        | (.restored, sessions) =>
          some <| { s.setPod x.pod sessions with
            restores := ⟨x.id, x.pod, x.sessionId, params⟩ :: s.restores
            events := .opened x.key (some x.id) :: s.events }.advance x (.restored params)
        | (.alreadyPresent, _) =>
          some (s.answer x none (.internalServerError alreadyPresentMessage))
        | (.notSupported, _) => some (s.answer x none .notFound)
      | _ => none
  | .handshake id failed =>
    (s.requests.find? id).bind fun x =>
      match x.phase with
      | .restored _ =>
        match failed with
        | some error => some (s.answer x none (.internalServerError error))
        | none => some ((s.release x true).advance x .ready)
      | _ => none
  | .dispatch id failed =>
    (s.requests.find? id).bind fun x =>
      match x.phase, failed with
      | .ready, some error => some (s.answer x none (.internalServerError error))
      | .ready, none =>
        if manager.hasSession (s.pods x.pod) x.sessionId then some (s.answer x none .served)
        else none
      | _, _ => none
  | .cancel id => (s.requests.find? id).map s.leave
  | .reap pod sessionId =>
    if (pod, sessionId) ∈ s.flights.removals then
      some { s with flights := s.flights.remove (pod, sessionId) }
    else none
  | .close pod sessionId =>
    some { s.setPod pod (manager.closeSession (s.pods pod) sessionId) with
      events := .closed (pod, sessionId) :: s.events }
  | .delete sessionId => some { s with store := s.store.erase sessionId }

/-- The newest event of a session decides whether its pod has it. -/
def live (events : List Event) (key : PodId × SessionId) : Bool :=
  (events.find? fun e => decide (e.key = key)).any Event.isOpened

/-- The session was created with these parameters. -/
def State.CreatedWith (s : State Params Sessions) (sessionId : SessionId) (params : Params) : Prop :=
  ⟨sessionId, some params⟩ ∈ s.created.rows

/-- Whoever has restored a session has told, or is still at the handshake. -/
def Restored (flights : Flights (PodId × SessionId))
    (requests : Table (Request.id : Request Params → RequestId)) (key : PodId × SessionId)
    (restorer : RequestId) : Prop :=
  (flights.results.find? restorer).isSome ∨
    ∃ x ∈ requests.rows, x.id = restorer ∧ x.key = key ∧ ∃ params, x.phase = .restored params

/-- A request is answered what became of the restore that it waited for, and served only where the
session is. -/
structure Answers (manager : SessionManager Sessions) (s : State Params Sessions)
    (x : Request Params) (a : Answer) : Prop where
  told : ∀ leader, a.awaited = some leader → a.outcome = .notFound ∧
    x.phase = .waiting leader ∧ s.flights.results.find? leader = some ⟨leader, false⟩
  served : a.outcome = .served → manager.hasSession (s.pods a.pod) a.sessionId = true

/-- What a step does to the state. -/
inductive Effect (manager : SessionManager Sessions) (s : State Params Sessions) :
    Input Params → State Params Sessions → Prop
  | create {pod : PodId} {sessionId : SessionId} {initializeParams : Option Params}
      {created : Table (Created.sessionId : Created Params → SessionId)}
      {creations : Table (Creation.sessionId : Creation Params → SessionId)} :
      s.created.insert? ⟨sessionId, initializeParams⟩ = some created →
      (∀ c ∈ creations.rows, c ∈ s.creations.rows ∨
        c.sessionId = sessionId ∧ initializeParams = some c.initializeParams) →
      Effect manager s (.create pod sessionId initializeParams)
        { s.setPod pod (manager.createSession (s.pods pod) sessionId) with
          created
          creations
          events := .opened (pod, sessionId) none :: s.events }
  | keep {i : Input Params} (creations : Table (Creation.sessionId : Creation Params → SessionId))
      (store : Table (Stored.sessionId : Stored Params → SessionId)) :
      (∀ c ∈ creations.rows, ∃ c' ∈ s.creations.rows,
        c'.sessionId = c.sessionId ∧ c'.initializeParams = c.initializeParams) →
      (∀ c ∈ store.rows, c ∈ s.store.rows ∨ ∃ c' ∈ s.creations.rows,
        c'.sessionId = c.sessionId ∧ c'.initializeParams = c.initializeParams) →
      Effect manager s i { s with creations, store }
  | arrive (pod : PodId) (sessionId : SessionId) :
      Effect manager s (.arrive pod sessionId)
        { s with
          begun := s.begun + 1
          requests := s.requests.put
            { id := s.begun, pod, sessionId, seen := s.events.length
              phase := if manager.hasSession (s.pods pod) sessionId then .ready else .missing } }
  | follow {x : Request Params} {leader : RequestId} : x ∈ s.requests.rows → x.phase = .missing →
      s.flights.Awaits x.key leader →
      Effect manager s (.tryRestore x.id) (s.advance x (.waiting leader))
  | lead {x : Request Params} {flights : Flights (PodId × SessionId)} : x ∈ s.requests.rows →
      x.phase = .missing → s.flights.enter x.key x.id = (flights, none) →
      Effect manager s (.tryRestore x.id) ({ s with flights }.advance x .registered)
  | found {x : Request Params} {leader : RequestId} : x ∈ s.requests.rows →
      x.phase = .waiting leader → s.flights.results.find? leader = some ⟨leader, true⟩ →
      Effect manager s (.wake x.id) (s.advance x .ready)
  | load {x : Request Params} {stored : Stored Params} : x ∈ s.requests.rows →
      x.phase = .registered → stored ∈ s.store.rows → stored.sessionId = x.sessionId →
      Effect manager s (.load x.id none) (s.advance x (.loaded stored.initializeParams))
  | restore {x : Request Params} {params : Params} {sessions : Sessions} : x ∈ s.requests.rows →
      x.phase = .loaded params →
      manager.restoreSession (s.pods x.pod) x.sessionId = (.restored, sessions) →
      Effect manager s (.restoreSession x.id)
        ({ s.setPod x.pod sessions with
          restores := ⟨x.id, x.pod, x.sessionId, params⟩ :: s.restores
          events := .opened x.key (some x.id) :: s.events }.advance x (.restored params))
  | complete {x : Request Params} {params : Params} : x ∈ s.requests.rows →
      x.phase = .restored params →
      Effect manager s (.handshake x.id none) ((s.release x true).advance x .ready)
  | leave {i : Input Params} {x : Request Params} (answers : List Answer) : x ∈ s.requests.rows →
      (answers = s.answers ∨ ∃ a, answers = a :: s.answers ∧ Answers manager s x a) →
      Effect manager s i { s.leave x with answers }
  | remove {pod : PodId} {sessionId : SessionId} : (pod, sessionId) ∈ s.flights.removals →
      Effect manager s (.reap pod sessionId)
        { s with flights := s.flights.remove (pod, sessionId) }
  | close (pod : PodId) (sessionId : SessionId) :
      Effect manager s (.close pod sessionId)
        { s.setPod pod (manager.closeSession (s.pods pod) sessionId) with
          events := .closed (pod, sessionId) :: s.events }

section Effects
variable {manager : SessionManager Sessions} {s t : State Params Sessions} {x : Request Params}

theorem Effect.answer {i : Input Params} (hx : x ∈ s.requests.rows) {outcome : Outcome}
    (hserved : outcome = .served → manager.hasSession (s.pods x.pod) x.sessionId = true) :
    Effect manager s i (s.answer x none outcome) :=
  .leave _ hx (.inr ⟨_, rfl, ⟨(fun _ h => by cases h), hserved⟩⟩)

theorem effect_of_step {i : Input Params} (h : step manager s i = some t) :
    Effect manager s i t := by
  cases i with
  | create pod sessionId initializeParams =>
    obtain ⟨created, hinsert, rfl⟩ := Option.map_eq_some_iff.mp h
    refine .create hinsert fun c hc => ?_
    cases initializeParams with
    | none => exact .inl hc
    | some params =>
      obtain rfl | ⟨hc, -⟩ := Table.mem_put.mp hc
      · exact .inr ⟨rfl, rfl⟩
      · exact .inl hc
  | initializeSession sessionId failed =>
    obtain ⟨c, hc, rfl, hthen⟩ := Table.find?_bind_eq_some.mp h
    split at hthen
    · cases hthen
    split at hthen
    · cases hthen
      exact .keep _ s.store (fun c' hc' => ⟨c', (Table.mem_erase.mp hc').1, rfl, rfl⟩)
        fun _ h => .inl h
    · cases hthen
      refine .keep _ s.store (fun c' hc' => ?_) fun _ h => .inl h
      obtain rfl | ⟨hc', -⟩ := Table.mem_put.mp hc'
      · exact ⟨c, hc, rfl, rfl⟩
      · exact ⟨c', hc', rfl, rfl⟩
  | persist sessionId failed =>
    obtain ⟨c, hc, rfl, hthen⟩ := Table.find?_bind_eq_some.mp h
    split at hthen
    · cases hthen
      refine .keep _ _ (fun c' hc' => ⟨c', (Table.mem_erase.mp hc').1, rfl, rfl⟩) fun c' hc' => ?_
      split at hc'
      · exact .inl hc'
      · obtain rfl | ⟨hc', -⟩ := Table.mem_put.mp hc'
        · exact .inr ⟨c, hc, rfl, rfl⟩
        · exact .inl hc'
    · cases hthen
  | arrive pod sessionId =>
    cases h
    exact .arrive pod sessionId
  | tryRestore id =>
    obtain ⟨x, hx, rfl, hthen⟩ := Table.find?_bind_eq_some.mp h
    split at hthen
    · next hphase =>
      cases hentered : s.flights.enter x.key x.id with
      | mk flights waits =>
        simp only [hentered, Option.some.injEq] at hthen
        subst hthen
        cases waits with
        | none => exact .lead hx hphase hentered
        | some leader =>
          obtain ⟨rfl, hawaits⟩ := Flights.enter_eq_some hentered
          exact .follow hx hphase hawaits
    · cases hthen
  | wake id =>
    obtain ⟨x, hx, rfl, hthen⟩ := Table.find?_bind_eq_some.mp h
    split at hthen
    · next leader hphase =>
      obtain ⟨⟨leader', value⟩, hresult, rfl⟩ := Option.map_eq_some_iff.mp hthen
      obtain rfl : leader' = leader := (Table.find?_eq_some.mp hresult).2
      cases value with
      | true => exact .found hx hphase hresult
      | false =>
        refine .leave _ hx (.inr ⟨_, rfl, ⟨fun leader hleader => ?_, nofun⟩⟩)
        cases hleader
        exact ⟨rfl, hphase, hresult⟩
    · cases hthen
  | load id failed =>
    obtain ⟨x, hx, rfl, hthen⟩ := Table.find?_bind_eq_some.mp h
    split at hthen
    · next hphase =>
      cases failed with
      | some error => cases hthen; exact .answer hx nofun
      | none =>
        cases hstored : s.store.find? x.sessionId with
        | none => rw [hstored] at hthen; cases hthen; exact .answer hx nofun
        | some stored =>
          rw [hstored] at hthen
          cases hthen
          obtain ⟨hmem, hid⟩ := Table.find?_eq_some.mp hstored
          exact .load hx hphase hmem hid
    · cases hthen
  | restoreSession id =>
    obtain ⟨x, hx, rfl, hthen⟩ := Table.find?_bind_eq_some.mp h
    split at hthen
    · next params hphase =>
      split at hthen
      · next sessions hrestored => cases hthen; exact .restore hx hphase hrestored
      · cases hthen; exact .answer hx nofun
      · cases hthen; exact .answer hx nofun
    · cases hthen
  | handshake id failed =>
    obtain ⟨x, hx, rfl, hthen⟩ := Table.find?_bind_eq_some.mp h
    split at hthen
    · next params hphase =>
      cases failed with
      | some error => cases hthen; exact .answer hx nofun
      | none => cases hthen; exact .complete hx hphase
    · cases hthen
  | dispatch id failed =>
    obtain ⟨x, hx, rfl, hthen⟩ := Table.find?_bind_eq_some.mp h
    split at hthen
    · cases hthen; exact .answer hx nofun
    · split at hthen
      · next hhas => cases hthen; exact .answer hx fun _ => hhas
      · cases hthen
    · cases hthen
  | cancel id =>
    obtain ⟨x, hx, rfl⟩ := Option.map_eq_some_iff.mp h
    exact .leave s.answers (Table.find?_eq_some.mp hx).1 (.inl rfl)
  | reap pod sessionId =>
    simp only [step, Option.ite_none_right_eq_some] at h
    obtain ⟨hmem, hthen⟩ := h
    cases hthen
    exact .remove hmem
  | close pod sessionId =>
    cases h
    exact .close pod sessionId
  | delete sessionId =>
    cases h
    exact .keep s.creations _ (fun c hc => ⟨c, hc, rfl, rfl⟩)
      fun c hc => .inl (Table.mem_erase.mp hc).1

end Effects

/-- The entries of `pending_restores` and the requests that hold them agree, and every request that
waits has somebody to wait for. -/
structure Coordinated (flights : Flights (PodId × SessionId))
    (requests : Table (Request.id : Request Params → RequestId)) (begun : RequestId) : Prop where
  sound : flights.Sound
  numbered : ∀ x ∈ requests.rows, x.id < begun
  told : ∀ r ∈ flights.results.rows, r.leader < begun
  untold : ∀ x ∈ requests.rows, x.phase = .missing → flights.results.find? x.id = none
  leads : ∀ x ∈ requests.rows, x.phase.restoring = true → flights.Leads x.key x.id
  leaders : ∀ key leader, flights.Leads key leader →
    ∃ x ∈ requests.rows, x.id = leader ∧ x.key = key ∧ x.phase.restoring = true
  awaits : ∀ x ∈ requests.rows, ∀ leader, x.phase = .waiting leader → flights.Awaits x.key leader

section Coordination
variable {flights flights' : Flights (PodId × SessionId)}
  {requests : Table (Request.id : Request Params → RequestId)} {begun : RequestId}
  {x y : Request Params} {phase : Phase Params}

theorem Coordinated.initial : Coordinated Flights.empty
    (Table.empty : Table (Request.id : Request Params → RequestId)) 0 where
  sound := .empty
  numbered _ h := absurd h Table.not_mem_empty
  told _ h := absurd h Table.not_mem_empty
  untold _ h := absurd h Table.not_mem_empty
  leads _ h := absurd h Table.not_mem_empty
  leaders _ _ h := absurd h Flights.not_leads_empty
  awaits _ h := absurd h Table.not_mem_empty

theorem mem_put_phase (hy : y ∈ (requests.put { x with phase }).rows) :
    y = { x with phase } ∨ y ∈ requests.rows ∧ y.id ≠ x.id :=
  Table.mem_put.mp hy

/-- A request goes on, and holds the entry if it held it before. -/
theorem Coordinated.advance (h : Coordinated flights requests begun) (hx : x ∈ requests.rows)
    (hsame : phase.restoring = x.phase.restoring) (hmoved : phase ≠ .missing)
    (hawaits : ∀ leader, phase = .waiting leader → flights.Awaits x.key leader) :
    Coordinated flights (requests.put { x with phase }) begun where
  sound := h.sound
  told := h.told
  numbered y hy := by
    obtain rfl | ⟨hy, -⟩ := mem_put_phase hy
    · exact h.numbered x hx
    · exact h.numbered y hy
  untold y hy hphase := by
    obtain rfl | ⟨hy, -⟩ := mem_put_phase hy
    · exact absurd hphase hmoved
    · exact h.untold y hy hphase
  leads y hy hrestoring := by
    obtain rfl | ⟨hy, -⟩ := mem_put_phase hy
    · exact h.leads x hx (hsame ▸ hrestoring)
    · exact h.leads y hy hrestoring
  leaders key leader hleads := by
    obtain ⟨y, hy, rfl, hkey, hrestoring⟩ := h.leaders key leader hleads
    by_cases hid : y.id = x.id
    · obtain rfl := Table.eq_of_key hy hx hid
      exact ⟨{ y with phase }, Table.mem_put.mpr (.inl rfl), rfl, hkey, hsame.trans hrestoring⟩
    · exact ⟨y, Table.mem_put.mpr (.inr ⟨hy, hid⟩), rfl, hkey, hrestoring⟩
  awaits y hy leader hphase := by
    obtain rfl | ⟨hy, -⟩ := mem_put_phase hy
    · exact hawaits leader hphase
    · exact h.awaits y hy leader hphase

/-- A request finds no entry, and enters its own. -/
theorem Coordinated.lead (h : Coordinated flights requests begun) (hx : x ∈ requests.rows)
    (hphase : x.phase = .missing) (hentered : flights.enter x.key x.id = (flights', none)) :
    Coordinated flights' (requests.put { x with phase := .registered }) begun := by
  have hflights := Flights.enter_eq_none hentered
  have hresults : flights'.results = flights.results := by rw [hflights.2]
  have hleads (key : PodId × SessionId) (leader : Nat) : flights'.Leads key leader ↔
      flights.Leads key leader ∨
        key = x.key ∧ leader = x.id ∧ flights.results.find? x.id = none :=
    Flights.leads_enter hentered
  constructor
  · have hsound := h.sound.enter x.key x.id
    rwa [hentered] at hsound
  · intro y hy
    obtain rfl | ⟨hy, -⟩ := mem_put_phase hy
    · exact h.numbered x hx
    · exact h.numbered y hy
  · rw [hresults]
    exact h.told
  · rw [hresults]
    intro y hy hmissing
    obtain rfl | ⟨hy, -⟩ := mem_put_phase hy
    · cases hmissing
    · exact h.untold y hy hmissing
  · intro y hy hrestoring
    obtain rfl | ⟨hy, -⟩ := mem_put_phase hy
    · exact (hleads _ _).mpr (.inr ⟨rfl, rfl, h.untold x hx hphase⟩)
    · exact (hleads _ _).mpr (.inl (h.leads y hy hrestoring))
  · intro key leader hleads'
    obtain hold | ⟨rfl, rfl, -⟩ := (hleads key leader).mp hleads'
    · obtain ⟨y, hy, rfl, hkey, hrestoring⟩ := h.leaders key leader hold
      refine ⟨y, Table.mem_put.mpr (.inr ⟨hy, fun hid => ?_⟩), rfl, hkey, hrestoring⟩
      obtain rfl := Table.eq_of_key hy hx hid
      rw [hphase] at hrestoring
      cases hrestoring
    · exact ⟨_, Table.mem_put.mpr (.inl rfl), rfl, rfl, rfl⟩
  · intro y hy leader hwaiting
    obtain rfl | ⟨hy, -⟩ := mem_put_phase hy
    · cases hwaiting
    · have hawaits := (h.awaits y hy leader hwaiting).enter x.key x.id
      rwa [hentered] at hawaits

/-- The other requests are those of before. -/
structure Others (requests requests' : Table (Request.id : Request Params → RequestId))
    (x : Request Params) : Prop where
  kept : ∀ y ∈ requests.rows, y.id ≠ x.id → y ∈ requests'.rows
  old : ∀ y ∈ requests'.rows, y ∈ requests.rows ∧ y.id ≠ x.id ∨ y = { x with phase := .ready }

theorem others_erase : Others requests (requests.erase x.id) x :=
  ⟨fun _ hy hid => Table.mem_erase.mpr ⟨hy, hid⟩, fun _ hy => .inl (Table.mem_erase.mp hy)⟩

theorem others_put : Others requests (requests.put { x with phase := .ready }) x :=
  ⟨fun _ hy hid => Table.mem_put.mpr (.inr ⟨hy, hid⟩), fun _ hy => (mem_put_phase hy).symm⟩

variable {requests' : Table (Request.id : Request Params → RequestId)}

/-- A request is over with its restore, or gives it up. -/
theorem Coordinated.finish (h : Coordinated flights requests begun) (hx : x ∈ requests.rows)
    (hrestoring : x.phase.restoring = true) (value : Bool) (hothers : Others requests requests' x) :
    Coordinated (flights.finish x.key x.id value) requests' begun := by
  have hready {y : Request Params} (hy : y ∈ requests'.rows) (hphase : y.phase ≠ .ready) :
      y ∈ requests.rows ∧ y.id ≠ x.id :=
    (hothers.old y hy).resolve_right fun hsame => hphase (congrArg Request.phase hsame)
  constructor
  · exact h.sound.finish (h.leads x hx hrestoring)
  · intro y hy
    obtain ⟨hy, -⟩ | rfl := hothers.old y hy
    · exact h.numbered y hy
    · exact h.numbered x hx
  · intro r hr
    obtain rfl | ⟨hr, -⟩ := Table.mem_put.mp hr
    · exact h.numbered x hx
    · exact h.told r hr
  · intro y hy hphase
    obtain ⟨hy, hid⟩ := hready hy (by simp [hphase])
    rw [Flights.finish, Table.find?_put, if_neg hid]
    exact h.untold y hy hphase
  · intro y hy hphase
    obtain ⟨hy, hid⟩ := hready hy (fun hready => by rw [hready] at hphase; cases hphase)
    exact Flights.leads_finish.mpr ⟨h.leads y hy hphase, hid⟩
  · intro key leader hleads
    obtain ⟨hleads, hid⟩ := Flights.leads_finish.mp hleads
    obtain ⟨y, hy, rfl, hkey, hphase⟩ := h.leaders key leader hleads
    exact ⟨y, hothers.kept y hy hid, rfl, hkey, hphase⟩
  · intro y hy leader hphase
    obtain ⟨hy, -⟩ := hready hy (by simp [hphase])
    exact (h.awaits y hy leader hphase).finish

/-- A request without an entry ends. -/
theorem Coordinated.erase (h : Coordinated flights requests begun) (hx : x ∈ requests.rows)
    (hrestoring : x.phase.restoring = false) : Coordinated flights (requests.erase x.id) begun where
  sound := h.sound
  told := h.told
  numbered y hy := h.numbered y (Table.mem_erase.mp hy).1
  untold y hy := h.untold y (Table.mem_erase.mp hy).1
  leads y hy := h.leads y (Table.mem_erase.mp hy).1
  leaders key leader hleads := by
    obtain ⟨y, hy, rfl, hkey, hphase⟩ := h.leaders key leader hleads
    refine ⟨y, Table.mem_erase.mpr ⟨hy, fun hid => ?_⟩, rfl, hkey, hphase⟩
    obtain rfl := Table.eq_of_key hy hx hid
    rw [hrestoring] at hphase
    cases hphase
  awaits y hy := h.awaits y (Table.mem_erase.mp hy).1

theorem Coordinated.arrive (h : Coordinated flights requests begun) (hid : x.id = begun)
    (hphase : x.phase = .ready ∨ x.phase = .missing) :
    Coordinated flights (requests.put x) (begun + 1) := by
  have hnot : x.phase.restoring = false ∧ ∀ leader, x.phase ≠ .waiting leader := by
    obtain hready | hmissing := hphase
    · rw [hready]; exact ⟨rfl, nofun⟩
    · rw [hmissing]; exact ⟨rfl, nofun⟩
  have hold {y : Request Params} (hy : y ∈ requests.rows) : y ∈ (requests.put x).rows :=
    Table.mem_put.mpr (.inr ⟨hy, Nat.ne_of_lt (hid ▸ h.numbered y hy)⟩)
  constructor
  · exact h.sound
  · intro y hy
    obtain rfl | ⟨hy, -⟩ := Table.mem_put.mp hy
    · rw [hid]
      exact Nat.lt_succ_self _
    · exact Nat.lt_succ_of_lt (h.numbered y hy)
  · exact fun r hr => Nat.lt_succ_of_lt (h.told r hr)
  · intro y hy hmissing
    obtain rfl | ⟨hy, -⟩ := Table.mem_put.mp hy
    · cases hresult : flights.results.find? y.id with
      | none => rfl
      | some r =>
        obtain ⟨hr, hleader⟩ := Table.find?_eq_some.mp hresult
        exact absurd (hleader.trans hid) (Nat.ne_of_lt (h.told r hr))
    · exact h.untold y hy hmissing
  · intro y hy hrestoring
    obtain rfl | ⟨hy, -⟩ := Table.mem_put.mp hy
    · rw [hnot.1] at hrestoring
      cases hrestoring
    · exact h.leads y hy hrestoring
  · intro key leader hleads
    obtain ⟨y, hy, hof⟩ := h.leaders key leader hleads
    exact ⟨y, hold hy, hof⟩
  · intro y hy leader hwaiting
    obtain rfl | ⟨hy, -⟩ := Table.mem_put.mp hy
    · exact absurd hwaiting (hnot.2 leader)
    · exact h.awaits y hy leader hwaiting

theorem Coordinated.remove (h : Coordinated flights requests begun) {key : PodId × SessionId}
    (hkey : key ∈ flights.removals) : Coordinated (flights.remove key) requests begun where
  sound := h.sound.remove
  numbered := h.numbered
  told := h.told
  untold := h.untold
  leads y hy hrestoring := (Flights.leads_remove h.sound hkey).mpr (h.leads y hy hrestoring)
  leaders k leader hleads := h.leaders k leader ((Flights.leads_remove h.sound hkey).mp hleads)
  awaits y hy leader hphase := (h.awaits y hy leader hphase).remove h.sound hkey

theorem Effect.coordinated {manager : SessionManager Sessions} {s t : State Params Sessions}
    {i : Input Params} (heffect : Effect manager s i t)
    (h : Coordinated s.flights s.requests s.begun) :
    Coordinated t.flights t.requests t.begun := by
  cases heffect with
  | create | keep | close => exact h
  | arrive pod sessionId =>
    refine h.arrive rfl ?_
    dsimp only
    split
    · exact .inl rfl
    · exact .inr rfl
  | follow hx hphase hawaits =>
    refine h.advance hx (by rw [hphase]; rfl) nofun fun leader hleader => ?_
    cases hleader
    exact hawaits
  | lead hx hphase hentered => exact h.lead hx hphase hentered
  | found hx hphase _ => exact h.advance hx (by rw [hphase]; rfl) nofun nofun
  | load hx hphase _ _ => exact h.advance hx (by rw [hphase]; rfl) nofun nofun
  | restore hx hphase _ => exact h.advance hx (by rw [hphase]; rfl) nofun nofun
  | @complete x _ hx hphase =>
    have hrestoring : x.phase.restoring = true := by rw [hphase]; rfl
    show Coordinated (if x.phase.restoring then _ else _) _ _
    rw [if_pos hrestoring]
    exact h.finish hx hrestoring true others_put
  | @leave _ x _ hx _ =>
    show Coordinated (if x.phase.restoring then _ else _) _ _
    split
    · next hrestoring => exact h.finish hx hrestoring false others_erase
    · next hnot => exact h.erase hx (Bool.eq_false_iff.mpr hnot)
  | remove hkey => exact h.remove hkey

end Coordination

/-- Every handshake that is replayed, or may be, is that of the session's own `initialize`; and who
has waited for a restore was told what became of it. -/
structure Faithful (s : State Params Sessions) : Prop where
  creations : ∀ c ∈ s.creations.rows, s.CreatedWith c.sessionId c.initializeParams
  stored : ∀ c ∈ s.store.rows, s.CreatedWith c.sessionId c.initializeParams
  loaded : ∀ x ∈ s.requests.rows, ∀ params ∈ x.phase.params?, s.CreatedWith x.sessionId params
  restores : ∀ r ∈ s.restores, s.CreatedWith r.sessionId r.initializeParams
  restored : ∀ x ∈ s.requests.rows, ∀ params, x.phase = .restored params →
    ∃ r ∈ s.restores, r.request = x.id
  agreed : ∀ r ∈ s.flights.results.rows, r.value = true →
    ∃ restore ∈ s.restores, restore.request = r.leader
  answers : ∀ a ∈ s.answers, ∀ leader, a.awaited = some leader →
    a.outcome = .notFound ∧ s.flights.results.find? leader = some ⟨leader, false⟩

section Faithfulness
variable {manager : SessionManager Sessions} {s t : State Params Sessions} {x : Request Params}
  {value : Bool} {r : Result}

theorem Faithful.initial : Faithful (initial manager : State Params Sessions) where
  creations _ h := absurd h Table.not_mem_empty
  stored _ h := absurd h Table.not_mem_empty
  loaded _ h := absurd h Table.not_mem_empty
  restores _ h := (List.not_mem_nil h).elim
  restored _ h := absurd h Table.not_mem_empty
  agreed _ h := absurd h Table.not_mem_empty
  answers _ h := (List.not_mem_nil h).elim

theorem mem_release (hr : r ∈ (s.release x value).flights.results.rows) :
    r = ⟨x.id, value⟩ ∨ r ∈ s.flights.results.rows := by
  unfold State.release at hr
  dsimp only at hr
  split at hr
  · exact (Table.mem_put.mp hr).imp id And.left
  · exact .inr hr

/-- What was told stays told. -/
theorem find?_release (h : Coordinated s.flights s.requests s.begun) (hx : x ∈ s.requests.rows)
    {leader : RequestId} (hr : s.flights.results.find? leader = some r) :
    (s.release x value).flights.results.find? leader = some r := by
  unfold State.release
  dsimp only
  split
  · next hrestoring =>
    have hne : leader ≠ x.id := by
      rintro rfl
      rw [(h.leads x hx hrestoring).2] at hr
      cases hr
    rw [Flights.finish, Table.find?_put, if_neg hne]
    exact hr
  · exact hr

/-- One request may differ. -/
theorem Faithful.requests (h : Faithful s) {y : Request Params}
    {requests : Table (Request.id : Request Params → RequestId)}
    {flights : Flights (PodId × SessionId)} {begun : RequestId}
    (hloaded : ∀ params ∈ y.phase.params?, s.CreatedWith y.sessionId params)
    (hrestored : ∀ params, y.phase = .restored params → ∃ r ∈ s.restores, r.request = y.id)
    (hrequests : ∀ z ∈ requests.rows, z = y ∨ z ∈ s.requests.rows)
    (hresults : flights.results = s.flights.results) :
    Faithful { s with requests, flights, begun } where
  creations := h.creations
  stored := h.stored
  loaded z hz := by
    obtain rfl | hz := hrequests z hz
    · exact hloaded
    · exact h.loaded z hz
  restores := h.restores
  restored z hz := by
    obtain rfl | hz := hrequests z hz
    · exact hrestored
    · exact h.restored z hz
  agreed r hr := h.agreed r (hresults ▸ hr)
  answers a ha leader hleader := by
    dsimp only
    rw [hresults]
    exact h.answers a ha leader hleader

theorem Faithful.advance (h : Faithful s) {phase : Phase Params}
    (hloaded : ∀ params ∈ phase.params?, s.CreatedWith x.sessionId params)
    (hrestored : ∀ params, phase = .restored params → ∃ r ∈ s.restores, r.request = x.id) :
    Faithful (s.advance x phase) :=
  h.requests (y := { x with phase }) hloaded hrestored
    (fun _ hz => (Table.mem_put.mp hz).imp id And.left) rfl

/-- A request that is over with a restore, or ends, tells what became of it. -/
theorem Faithful.release (h : Faithful s) (hc : Coordinated s.flights s.requests s.begun)
    (hx : x ∈ s.requests.rows) {requests : Table (Request.id : Request Params → RequestId)}
    {answers : List Answer}
    (htold : value = true → ∃ restore ∈ s.restores, restore.request = x.id)
    (hrequests : ∀ z ∈ requests.rows, z.phase = .ready ∨ z ∈ s.requests.rows)
    (hanswers : ∀ a ∈ answers, a ∈ s.answers ∨ ∀ leader, a.awaited = some leader →
      a.outcome = .notFound ∧ s.flights.results.find? leader = some ⟨leader, false⟩) :
    Faithful { s.release x value with requests, answers } where
  creations := h.creations
  stored := h.stored
  loaded z hz params hparams := by
    obtain hready | hz := hrequests z hz
    · rw [hready] at hparams
      cases hparams
    · exact h.loaded z hz params hparams
  restores := h.restores
  restored z hz params hphase := by
    obtain hready | hz := hrequests z hz
    · rw [hready] at hphase
      cases hphase
    · exact h.restored z hz params hphase
  agreed r hr hvalue := by
    obtain rfl | hr := mem_release hr
    · exact htold hvalue
    · exact h.agreed r hr hvalue
  answers a ha leader hleader := by
    have hof : a.outcome = .notFound ∧
        s.flights.results.find? leader = some ⟨leader, false⟩ := by
      obtain ha | hnew := hanswers a ha
      · exact h.answers a ha leader hleader
      · exact hnew leader hleader
    exact ⟨hof.1, find?_release hc hx hof.2⟩

theorem Effect.faithful {i : Input Params} (heffect : Effect manager s i t)
    (hc : Coordinated s.flights s.requests s.begun) (h : Faithful s) : Faithful t := by
  cases heffect with
  | @create _ _ _ created _ hinsert hcreations =>
    obtain ⟨-, hrows⟩ := Table.insert?_eq_some.mp hinsert
    have hold {sessionId : SessionId} {params : Params} (hcreated : s.CreatedWith sessionId params) :
        ⟨sessionId, some params⟩ ∈ created.rows :=
      hrows ▸ List.mem_append_left _ hcreated
    refine ⟨fun c hmem => ?_, fun c hmem => hold (h.stored c hmem),
      fun x hx params hparams => hold (h.loaded x hx params hparams),
      fun r hr => hold (h.restores r hr), h.restored, h.agreed, h.answers⟩
    obtain hmem | ⟨rfl, rfl⟩ := hcreations c hmem
    · exact hold (h.creations c hmem)
    · show ⟨_, _⟩ ∈ created.rows
      rw [hrows]
      exact List.mem_append_right _ List.mem_cons_self
  | keep creations store hcreations hstore =>
    refine ⟨fun c hmem => ?_, fun c hmem => ?_, h.loaded, h.restores, h.restored, h.agreed,
      h.answers⟩
    · obtain ⟨c', hc', hid, hparams⟩ := hcreations c hmem
      rw [← hid, ← hparams]
      exact h.creations c' hc'
    · obtain hmem | ⟨c', hc', hid, hparams⟩ := hstore c hmem
      · exact h.stored c hmem
      · rw [← hid, ← hparams]
        exact h.creations c' hc'
  | arrive pod sessionId =>
    refine h.requests ?_ ?_ (fun _ hz => (Table.mem_put.mp hz).imp id And.left) rfl
    · intro params hparams
      dsimp only at hparams
      split at hparams <;> cases hparams
    · intro params hphase
      dsimp only at hphase
      split at hphase <;> cases hphase
  | follow hx hphase hawaits => exact h.advance nofun nofun
  | @lead x _ hx hphase hentered =>
    have hresults := congrArg (fun entered => entered.1.results) hentered
    rw [Flights.results_enter] at hresults
    exact h.requests (y := { x with phase := .registered }) nofun nofun
      (fun _ hz => (Table.mem_put.mp hz).imp id And.left) hresults.symm
  | found hx hphase _ => exact h.advance nofun nofun
  | @load x stored hx hphase hmem hid =>
    refine h.advance (fun params hparams => ?_) nofun
    cases hparams
    rw [← hid]
    exact h.stored stored hmem
  | @restore x params sessions hx hphase _ =>
    have hcreated := h.loaded x hx params (by rw [hphase]; rfl)
    refine ⟨h.creations, h.stored, ?_, List.forall_mem_cons.mpr ⟨hcreated, h.restores⟩, ?_, ?_,
      h.answers⟩
    · intro z hz params' hparams'
      obtain rfl | ⟨hz, -⟩ := Table.mem_put.mp hz
      · cases hparams'
        exact hcreated
      · exact h.loaded z hz params' hparams'
    · intro z hz params' hphase'
      obtain rfl | ⟨hz, -⟩ := Table.mem_put.mp hz
      · exact ⟨_, List.mem_cons_self, rfl⟩
      · obtain ⟨r, hr, hof⟩ := h.restored z hz params' hphase'
        exact ⟨r, List.mem_cons_of_mem _ hr, hof⟩
    · intro r hr hvalue
      obtain ⟨restore, hrestore, hof⟩ := h.agreed r hr hvalue
      exact ⟨restore, List.mem_cons_of_mem _ hrestore, hof⟩
  | @complete x params hx hphase =>
    exact h.release hc hx (fun _ => h.restored x hx params hphase)
      (fun z hz => (Table.mem_put.mp hz).imp (congrArg Request.phase) And.left)
      fun a ha => .inl ha
  | @leave _ x answers hx hanswers =>
    refine h.release hc hx nofun (fun z hz => .inr (Table.mem_erase.mp hz).1) fun a ha => ?_
    obtain rfl | ⟨a', rfl, hnew⟩ := hanswers
    · exact .inl ha
    · obtain rfl | ha := List.mem_cons.mp ha
      · refine .inr fun leader hleader => ?_
        obtain ⟨houtcome, -, hresult⟩ := hnew.told leader hleader
        exact ⟨houtcome, hresult⟩
      · exact .inl ha
  | remove hkey =>
    exact ⟨h.creations, h.stored, h.loaded, h.restores, h.restored, h.agreed, h.answers⟩
  | close =>
    exact ⟨h.creations, h.stored, h.loaded, h.restores, h.restored, h.agreed, h.answers⟩

end Faithfulness

/-- The events are what the pods have come to, and no session was there when a request missed it. -/
structure Tracked (manager : SessionManager Sessions) (s : State Params Sessions) : Prop where
  live : ∀ key : PodId × SessionId, manager.hasSession (s.pods key.1) key.2 = live s.events key
  seen : ∀ x ∈ s.requests.rows, x.seen ≤ s.events.length
  missed : ∀ x ∈ s.requests.rows, x.phase ≠ .ready →
    McpSessions.live (s.events.drop (s.events.length - x.seen)) x.key = false
  opened : ∀ key restorer, .opened key (some restorer) ∈ s.events →
    Restored s.flights s.requests key restorer

section Tracking
variable {manager : SessionManager Sessions} {s t : State Params Sessions} {x : Request Params}
  {key : PodId × SessionId} {restorer : RequestId} {e : Event} {events : List Event}

theorem Tracked.initial : Tracked manager (initial manager : State Params Sessions) where
  live key := manager.hasSession_new key.2
  seen _ h := absurd h Table.not_mem_empty
  missed _ h := absurd h Table.not_mem_empty
  opened _ _ h := (List.not_mem_nil h).elim

theorem live_cons : live (e :: events) key = if e.key = key then e.isOpened else live events key := by
  unfold live
  rw [List.find?_cons]
  by_cases hkey : e.key = key
  · rw [decide_eq_true hkey, if_pos hkey, Option.any_some]
  · rw [decide_eq_false hkey, if_neg hkey]

theorem drop_cons_seen {seen : Nat} (h : seen ≤ events.length) :
    (e :: events).drop ((e :: events).length - seen) = events.drop (events.length - seen) := by
  rw [List.length_cons, Nat.succ_sub h, List.drop_succ_cons]

/-- The session manager of the event's pod, and no other, has changed. -/
theorem live_setPod (h : ∀ key : PodId × SessionId,
      manager.hasSession (s.pods key.1) key.2 = live s.events key) {sessions : Sessions}
    (hsession : ∀ id, manager.hasSession sessions id =
      if id = e.key.2 then e.isOpened else manager.hasSession (s.pods e.key.1) id)
    (key : PodId × SessionId) :
    manager.hasSession ((s.setPod e.key.1 sessions).pods key.1) key.2 =
      live (e :: s.events) key := by
  obtain ⟨pod, id⟩ := key
  rw [live_cons]
  show manager.hasSession (Function.update s.pods e.key.1 sessions pod) id = _
  by_cases hpod : pod = e.key.1
  · subst hpod
    rw [Function.update_self, hsession id]
    by_cases hid : id = e.key.2
    · rw [if_pos hid, if_pos (by rw [hid])]
    · rw [if_neg hid, if_neg fun hkey => hid (congrArg Prod.snd hkey).symm]
      exact h (e.key.1, id)
  · rw [Function.update_of_ne hpod, if_neg fun hkey => hpod (congrArg Prod.fst hkey).symm]
    exact h (pod, id)

theorem hasSession_opened {sessions sessions' : Sessions} {id : SessionId}
    (h : ∀ other, manager.hasSession sessions' other =
      (decide (other = id) || manager.hasSession sessions other)) (other : SessionId) :
    manager.hasSession sessions' other =
      if other = id then true else manager.hasSession sessions other := by
  rw [h other]
  by_cases hid : other = id
  · rw [decide_eq_true hid, if_pos hid, Bool.true_or]
  · rw [decide_eq_false hid, if_neg hid, Bool.false_or]

theorem hasSession_restored {sessions sessions' : Sessions} {id : SessionId}
    (h : manager.restoreSession sessions id = (.restored, sessions')) :
    manager.hasSession sessions id = false ∧ ∀ other, manager.hasSession sessions' other =
      (decide (other = id) || manager.hasSession sessions other) := by
  cases hhas : manager.hasSession sessions id with
  | true =>
    rw [manager.restore_present sessions id hhas] at h
    cases h
  | false =>
    obtain hnot | ⟨-, hopened⟩ := manager.restore_absent sessions id hhas
    · rw [hnot] at h
      cases h
    · rw [h] at hopened
      exact ⟨rfl, hopened⟩

variable {flights flights' : Flights (PodId × SessionId)}
  {requests requests' : Table (Request.id : Request Params → RequestId)}

theorem Restored.mono (h : Restored flights requests key restorer)
    (hresults : ∀ leader, (flights.results.find? leader).isSome →
      (flights'.results.find? leader).isSome)
    (hrequests : ∀ y ∈ requests.rows, (∃ params, y.phase = .restored params) →
      y ∈ requests'.rows ∨ (flights'.results.find? y.id).isSome) :
    Restored flights' requests' key restorer := by
  obtain hresult | ⟨y, hy, rfl, hkey, hphase⟩ := h
  · exact .inl (hresults _ hresult)
  · obtain hy | htold := hrequests y hy hphase
    · exact .inr ⟨y, hy, rfl, hkey, hphase⟩
    · exact .inl htold

/-- A request that is not at the handshake goes on. -/
theorem mem_put_restored {y : Request Params} {phase : Phase Params} (hx : x ∈ requests.rows)
    (hnot : ∀ params, x.phase ≠ .restored params) (hy : y ∈ requests.rows)
    (hphase : ∃ params, y.phase = .restored params) :
    y ∈ (requests.put { x with phase }).rows := by
  refine Table.mem_put.mpr (.inr ⟨hy, fun hid => ?_⟩)
  obtain rfl := Table.eq_of_key hy hx hid
  obtain ⟨params, hphase⟩ := hphase
  exact hnot params hphase

/-- The sessions stay as they are. -/
theorem Tracked.advance (h : Tracked manager s) (hx : x ∈ s.requests.rows) {phase : Phase Params}
    (hnot : ∀ params, x.phase ≠ .restored params) (hready : x.phase ≠ .ready)
    (hresults : flights'.results = s.flights.results) :
    Tracked manager ({ s with flights := flights' }.advance x phase) where
  live := h.live
  seen y hy := by
    obtain rfl | ⟨hy, -⟩ := mem_put_phase hy
    · exact h.seen x hx
    · exact h.seen y hy
  missed y hy hphase := by
    obtain rfl | ⟨hy, -⟩ := mem_put_phase hy
    · exact h.missed x hx hready
    · exact h.missed y hy hphase
  opened key restorer hmem :=
    (h.opened key restorer hmem).mono (fun leader hresult => by rw [State.advance, hresults]; exact hresult)
      fun _ hy hphase => .inl (mem_put_restored hx hnot hy hphase)

/-- A session manager has changed, and no request. -/
theorem Tracked.event (h : Tracked manager s) {pods : PodId → Sessions}
    (hlive : ∀ key : PodId × SessionId,
      manager.hasSession (pods key.1) key.2 = McpSessions.live (e :: s.events) key)
    (hopened : ∀ key restorer, e = .opened key (some restorer) →
      Restored s.flights s.requests key restorer)
    (creations : Table (Creation.sessionId : Creation Params → SessionId))
    (created : Table (Created.sessionId : Created Params → SessionId))
    (restores : List (Restore Params)) :
    Tracked manager { s with pods, creations, created, restores, events := e :: s.events } where
  live := hlive
  seen x hx := Nat.le_succ_of_le (h.seen x hx)
  missed x hx hphase := by
    dsimp only
    rw [drop_cons_seen (h.seen x hx)]
    exact h.missed x hx hphase
  opened key restorer hmem := by
    obtain hnew | hmem := List.mem_cons.mp hmem
    · exact hopened key restorer hnew.symm
    · exact h.opened key restorer hmem

/-- A request is over with its restore, or ends. -/
theorem Tracked.release (h : Tracked manager s) (hx : x ∈ s.requests.rows) {value : Bool}
    (hothers : Others s.requests requests x) (answers : List Answer) :
    Tracked manager { s.release x value with requests, answers } where
  live := h.live
  seen y hy := by
    obtain ⟨hy, -⟩ | rfl := hothers.old y hy
    · exact h.seen y hy
    · exact h.seen x hx
  missed y hy hphase := by
    obtain ⟨hy, -⟩ | rfl := hothers.old y hy
    · exact h.missed y hy hphase
    · exact absurd rfl hphase
  opened key restorer hmem := by
    refine (h.opened key restorer hmem).mono (fun leader hresult => ?_) fun y hy hphase => ?_
    · show ((if x.phase.restoring then _ else _ : Flights _).results.find? leader).isSome
      split
      · exact Flights.isSome_finish.mpr (.inr hresult)
      · exact hresult
    · by_cases hid : y.id = x.id
      · obtain rfl := Table.eq_of_key hy hx hid
        obtain ⟨params, hphase⟩ := hphase
        refine .inr ?_
        show ((if y.phase.restoring then _ else _ : Flights _).results.find? y.id).isSome
        rw [if_pos (by rw [hphase]; rfl)]
        exact Flights.isSome_finish.mpr (.inl rfl)
      · exact .inl (hothers.kept y hy hid)

theorem Effect.tracked {i : Input Params} (heffect : Effect manager s i t)
    (hc : Coordinated s.flights s.requests s.begun) (h : Tracked manager s) :
    Tracked manager t := by
  cases heffect with
  | @create pod sessionId =>
    refine h.event (e := .opened (pod, sessionId) none) (live_setPod h.live fun id => ?_)
      (fun _ _ hnew => by cases hnew) _ _ _
    exact hasSession_opened (manager.hasSession_create _ _) id
  | keep creations store hcreations hstore => exact ⟨h.live, h.seen, h.missed, h.opened⟩
  | arrive pod sessionId =>
    refine ⟨h.live, fun x hx => ?_, fun x hx hphase => ?_, fun key restorer hmem => ?_⟩
    · obtain rfl | ⟨hx, -⟩ := Table.mem_put.mp hx
      · exact Nat.le_refl _
      · exact h.seen x hx
    · obtain rfl | ⟨hx, -⟩ := Table.mem_put.mp hx
      · dsimp only at hphase ⊢
        rw [Nat.sub_self, List.drop_zero]
        cases hhas : manager.hasSession (s.pods pod) sessionId with
        | true => rw [hhas] at hphase; exact absurd rfl hphase
        | false => exact (h.live (pod, sessionId)).symm.trans hhas
      · exact h.missed x hx hphase
    · refine (h.opened key restorer hmem).mono (fun _ hresult => hresult) fun y hy _ => ?_
      exact .inl (Table.mem_put.mpr (.inr ⟨hy, Nat.ne_of_lt (hc.numbered y hy)⟩))
  | follow hx hphase hawaits =>
    exact h.advance hx (by rw [hphase]; nofun) (by rw [hphase]; nofun) rfl
  | lead hx hphase hentered =>
    have hresults := congrArg (fun entered => entered.1.results) hentered
    rw [Flights.results_enter] at hresults
    exact h.advance hx (by rw [hphase]; nofun) (by rw [hphase]; nofun) hresults.symm
  | found hx hphase _ => exact h.advance hx (by rw [hphase]; nofun) (by rw [hphase]; nofun) rfl
  | load hx hphase _ _ => exact h.advance hx (by rw [hphase]; nofun) (by rw [hphase]; nofun) rfl
  | @restore x params sessions hx hphase hrestored =>
    have hadvanced : Tracked manager (s.advance x (.restored params)) :=
      h.advance hx (by rw [hphase]; nofun) (by rw [hphase]; nofun) rfl
    refine hadvanced.event (e := .opened x.key (some x.id))
      (live_setPod h.live fun id => hasSession_opened (hasSession_restored hrestored).2 id)
      (fun key restorer hnew => ?_) _ _ _
    cases hnew
    exact .inr ⟨_, Table.mem_put.mpr (.inl rfl), rfl, rfl, params, rfl⟩
  | complete hx hphase => exact h.release hx others_put _
  | leave answers hx hanswers => exact h.release hx others_erase _
  | remove hkey => exact ⟨h.live, h.seen, h.missed, h.opened⟩
  | close pod sessionId =>
    refine h.event (e := .closed (pod, sessionId)) (live_setPod h.live fun id => ?_)
      (fun _ _ hnew => by cases hnew) _ _ _
    show _ = if id = sessionId then false else manager.hasSession (s.pods pod) id
    rw [manager.hasSession_close]
    by_cases hid : id = sessionId
    · rw [decide_eq_true hid, if_pos hid, Bool.not_true, Bool.false_and]
    · rw [decide_eq_false hid, if_neg hid, Bool.not_false, Bool.true_and]

end Tracking

section Runs
variable {manager : SessionManager Sessions} {s t : State Params Sessions}

structure Sound (manager : SessionManager Sessions) (s : State Params Sessions) : Prop where
  coordinated : Coordinated s.flights s.requests s.begun
  faithful : Faithful s
  tracked : Tracked manager s

theorem Sound.initial : Sound manager (initial manager : State Params Sessions) :=
  ⟨.initial, .initial, .initial⟩

theorem Sound.step (h : Sound manager s) {i : Input Params} (ht : step manager s i = some t) :
    Sound manager t :=
  have heffect := effect_of_step ht
  ⟨heffect.coordinated h.coordinated, heffect.faithful h.coordinated h.faithful,
    heffect.tracked h.coordinated h.tracked⟩

theorem sound_of_exec {inputs : List (Input Params)}
    (h : exec (step manager) (McpSessions.initial manager) inputs = some s) : Sound manager s :=
  invariant_of_exec (fun _ _ _ hs ht => hs.step ht) Sound.initial h

/-- At most one request is at the restore of a session on a pod, and a request that waits has its
result or will have that of a request that is at it. What is replayed is the session's own
`initialize`, who has told a success has restored the session, and who was told is answered so. -/
structure Serialized (s : State Params Sessions) : Prop where
  exclusive : ∀ x ∈ s.requests.rows, ∀ y ∈ s.requests.rows, x.phase.restoring = true →
    y.phase.restoring = true → x.key = y.key → x = y
  awaited : ∀ x ∈ s.requests.rows, ∀ leader, x.phase = .waiting leader →
    (s.flights.results.find? leader).isSome ∨
      ∃ y ∈ s.requests.rows, y.id = leader ∧ y.key = x.key ∧ y.phase.restoring = true
  replayed : ∀ r ∈ s.restores, s.CreatedWith r.sessionId r.initializeParams
  agreed : ∀ r ∈ s.flights.results.rows, r.value = true →
    ∃ restore ∈ s.restores, restore.request = r.leader
  answers : ∀ a ∈ s.answers, ∀ leader, a.awaited = some leader →
    a.outcome = .notFound ∧ s.flights.results.find? leader = some ⟨leader, false⟩

/-- In every order of the statements, on every pod, whoever is cancelled and whatever fails. -/
theorem restores_serialized {inputs : List (Input Params)}
    (h : exec (step manager) (McpSessions.initial manager) inputs = some s) : Serialized s := by
  obtain ⟨hc, hf, -⟩ := sound_of_exec h
  refine ⟨fun x hx y hy hxr hyr hkey => ?_, fun x hx leader hwaiting => ?_, hf.restores, hf.agreed,
    hf.answers⟩
  · have hleads := hc.leads y hy hyr
    rw [← hkey] at hleads
    exact Table.eq_of_key hx hy ((hc.leads x hx hxr).unique hleads)
  · obtain htold | hleads := hc.awaits x hx leader hwaiting
    · exact .inl htold
    · exact .inr (hc.leaders _ _ hleads)

theorem live_append (front : List Event) {back : List Event} {key : PodId × SessionId}
    (hback : live back key = false) : live (front ++ back) key = true ↔
      ∃ restorer, front.find? (fun e => decide (e.key = key)) = some (.opened key restorer) := by
  unfold live at hback ⊢
  rw [List.find?_append]
  cases hfind : front.find? fun e => decide (e.key = key) with
  | none =>
    rw [Option.none_or, hback]
    exact ⟨nofun, nofun⟩
  | some e =>
    have hkey : e.key = key := by simpa using List.find?_some hfind
    subst hkey
    rw [Option.some_or, Option.any_some]
    cases e with
    | opened key restorer => exact ⟨fun _ => ⟨restorer, rfl⟩, fun _ => rfl⟩
    | closed key => exact ⟨nofun, nofun⟩

/-- Since its `has_session`, the session was put in the memory of the request's pod, and not closed
again: by a restore that was over when the request entered, or with its creation. -/
def Reappeared (s : State Params Sessions) (x : Request Params) : Prop :=
  ∃ restorer, (s.events.take (s.events.length - x.seen)).find? (fun e => decide (e.key = x.key)) =
      some (.opened x.key restorer) ∧
    ∀ q ∈ restorer, q ≠ x.id ∧ (s.flights.results.find? q).isSome

theorem Sound.reappeared_iff (h : Sound manager s) {x : Request Params} (hx : x ∈ s.requests.rows)
    {params : Params} (hphase : x.phase = .loaded params) :
    manager.hasSession (s.pods x.pod) x.sessionId = true ↔ Reappeared s x := by
  obtain ⟨hc, -, ht⟩ := h
  have hmissed := ht.missed x hx (by rw [hphase]; nofun)
  have hsplit := live_append (s.events.take (s.events.length - x.seen)) hmissed
  rw [List.take_append_drop] at hsplit
  rw [show manager.hasSession (s.pods x.pod) x.sessionId = live s.events x.key from ht.live x.key,
    hsplit]
  refine exists_congr fun restorer => (and_iff_left_of_imp fun hfind q hq => ?_).symm
  obtain rfl := Option.mem_def.mp hq
  obtain htold | ⟨y, hy, hid, hkey, params', hrestored⟩ :=
    ht.opened x.key q (List.mem_of_mem_take (List.mem_of_find?_eq_some hfind))
  · refine ⟨?_, htold⟩
    rintro rfl
    rw [(hc.leads x hx (by rw [hphase]; rfl)).2] at htold
    cases htold
  -- two requests would be at the restore
  · have hleads := hc.leads y hy (by rw [hrestored]; rfl)
    rw [hkey] at hleads
    obtain rfl := Table.eq_of_key hy hx (hleads.unique (hc.leads x hx (by rw [hphase]; rfl)))
    rw [hphase] at hrestored
    cases hrestored

/-- The answer of a request whose session `restore_session` found in place. -/
def alreadyPresent (x : Request Params) : Answer :=
  ⟨x.id, x.pod, x.sessionId, none, .internalServerError alreadyPresentMessage⟩

/-- What the code calls impossible happens to a request exactly when it loses a race. -/
def AlreadyPresentExact (s : State Params Sessions) (i : Input Params)
    (t : State Params Sessions) : Prop :=
  ∀ x ∈ s.requests.rows, i = .restoreSession x.id →
    (t.answers = alreadyPresent x :: s.answers ↔ Reappeared s x)

theorem Sound.alreadyPresentExact (h : Sound manager s) {i : Input Params}
    (ht : McpSessions.step manager s i = some t) : AlreadyPresentExact s i t := by
  rintro x hx rfl
  obtain ⟨y, hy, hid, hthen⟩ := Table.find?_bind_eq_some.mp ht
  obtain rfl := Table.eq_of_key hy hx hid
  split at hthen
  · next params hphase =>
    rw [← h.reappeared_iff hx hphase]
    cases hhas : manager.hasSession (s.pods y.pod) y.sessionId with
    | true =>
      rw [manager.restore_present _ _ hhas] at hthen
      cases hthen
      exact ⟨fun _ => rfl, fun _ => rfl⟩
    | false =>
      refine ⟨fun hanswers => ?_, nofun⟩
      obtain hnot | ⟨hrestored, -⟩ := manager.restore_absent _ _ hhas
      · rw [hnot] at hthen
        cases hthen
        cases hanswers
      · split at hthen
        · cases hthen
          exact absurd hanswers.symm (List.cons_ne_self _ _)
        · next hpresent => rw [hpresent] at hrestored; cases hrestored
        · next hpresent => rw [hpresent] at hrestored; cases hrestored
  · cases hthen

/-- In every order of the statements. -/
theorem alreadyPresent_exact {inputs : List (Input Params)}
    (h : Possible (step manager) (McpSessions.initial manager) inputs) :
    Along (step manager) (fun s i t => AlreadyPresentExact s i t) (McpSessions.initial manager)
      inputs :=
  Along.of_invariant (I := Sound manager) (fun _ _ _ hs ht _ => hs.step ht)
    (fun _ _ _ hs ht _ => hs.alreadyPresentExact ht) Sound.initial h

/-- Nothing is stored of the session, nor about to be, and no request has its state loaded: so after
a DELETE, or when the stored state has expired. -/
structure Gone (s : State Params Sessions) (sessionId : SessionId) : Prop where
  created : ∃ c ∈ s.created.rows, c.sessionId = sessionId
  stored : ∀ c ∈ s.store.rows, c.sessionId ≠ sessionId
  creations : ∀ c ∈ s.creations.rows, c.sessionId ≠ sessionId
  loaded : ∀ x ∈ s.requests.rows, x.sessionId = sessionId → ∀ params, x.phase ≠ .loaded params

/-- No pod has the session again, and none serves it but those that had it. -/
structure Dwindles (manager : SessionManager Sessions) (sessionId : SessionId)
    (s t : State Params Sessions) : Prop where
  gone : Gone t sessionId
  pods : ∀ pod, manager.hasSession (t.pods pod) sessionId = true →
    manager.hasSession (s.pods pod) sessionId = true
  answers : ∀ a ∈ t.answers, a ∈ s.answers ∨
    (a.sessionId = sessionId → a.outcome = .served →
      manager.hasSession (s.pods a.pod) sessionId = true)

section Gone
variable {sessionId : SessionId} {x : Request Params}

theorem Dwindles.refl (h : Gone s sessionId) : Dwindles manager sessionId s s :=
  ⟨h, fun _ hhas => hhas, fun _ ha => .inl ha⟩

theorem Dwindles.trans {u : State Params Sessions} (h : Dwindles manager sessionId s t)
    (h' : Dwindles manager sessionId t u) : Dwindles manager sessionId s u := by
  refine ⟨h'.gone, fun pod hhas => h.pods pod (h'.pods pod hhas), fun a ha => ?_⟩
  obtain ha | hserved := h'.answers a ha
  · exact h.answers a ha
  · exact .inr fun hid houtcome => h.pods a.pod (hserved hid houtcome)

/-- The session manager of a pod gains another session, or loses one. -/
theorem hasSession_setPod {pod pod' : PodId} {sessions : Sessions}
    (hsessions : manager.hasSession sessions sessionId = true →
      manager.hasSession (s.pods pod) sessionId = true)
    (h : manager.hasSession ((s.setPod pod sessions).pods pod') sessionId = true) :
    manager.hasSession (s.pods pod') sessionId = true := by
  unfold State.setPod at h
  dsimp only at h
  by_cases hpod : pod' = pod
  · subst hpod
    rw [Function.update_self] at h
    exact hsessions h
  · rwa [Function.update_of_ne hpod] at h

theorem Gone.advance (h : Gone s sessionId) {y : Request Params} (hy : y ∈ (s.requests.put x).rows)
    (hx : x.sessionId = sessionId → ∀ params, x.phase ≠ .loaded params)
    (hid : y.sessionId = sessionId) (params : Params) : y.phase ≠ .loaded params := by
  obtain rfl | ⟨hy, -⟩ := Table.mem_put.mp hy
  · exact hx hid params
  · exact h.loaded y hy hid params

theorem Effect.dwindles {i : Input Params} (heffect : Effect manager s i t)
    (h : Gone s sessionId) : Dwindles manager sessionId s t := by
  cases heffect with
  | @create pod other _ created _ hinsert hcreations =>
    obtain ⟨hnew, hrows⟩ := Table.insert?_eq_some.mp hinsert
    have hne : sessionId ≠ other := by
      obtain ⟨c, hc, hid⟩ := h.created
      rintro rfl
      exact hnew (List.mem_map.mpr ⟨c, hc, hid⟩)
    refine ⟨⟨?_, h.stored, fun c hc hid => ?_, h.loaded⟩,
      fun _ => hasSession_setPod fun hhas => ?_, fun _ ha => .inl ha⟩
    · obtain ⟨c, hc, hid⟩ := h.created
      refine ⟨c, ?_, hid⟩
      show c ∈ created.rows
      rw [hrows]
      exact List.mem_append_left _ hc
    · obtain hc | ⟨hother, -⟩ := hcreations c hc
      · exact h.creations c hc hid
      · exact hne (hid.symm.trans hother)
    · rwa [manager.hasSession_create, decide_eq_false hne, Bool.false_or] at hhas
  | keep creations store hcreations hstore =>
    refine ⟨⟨h.created, fun c hc => ?_, fun c hc => ?_, h.loaded⟩, fun _ hhas => hhas,
      fun _ ha => .inl ha⟩
    · obtain hc | ⟨c', hc', hid, -⟩ := hstore c hc
      · exact h.stored c hc
      · rw [← hid]
        exact h.creations c' hc'
    · obtain ⟨c', hc', hid, -⟩ := hcreations c hc
      rw [← hid]
      exact h.creations c' hc'
  | arrive pod other =>
    refine ⟨⟨h.created, h.stored, h.creations, fun y hy => h.advance hy fun _ params => ?_⟩,
      fun _ hhas => hhas, fun _ ha => .inl ha⟩
    dsimp only
    split <;> nofun
  | follow hx hphase _ =>
    exact ⟨⟨h.created, h.stored, h.creations, fun y hy => h.advance hy nofun⟩,
      fun _ hhas => hhas, fun _ ha => .inl ha⟩
  | lead hx hphase _ =>
    exact ⟨⟨h.created, h.stored, h.creations, fun y hy => h.advance hy nofun⟩,
      fun _ hhas => hhas, fun _ ha => .inl ha⟩
  | found hx hphase _ =>
    exact ⟨⟨h.created, h.stored, h.creations, fun y hy => h.advance hy nofun⟩,
      fun _ hhas => hhas, fun _ ha => .inl ha⟩
  | @load x stored hx hphase hmem hid =>
    refine ⟨⟨h.created, h.stored, h.creations, fun y hy => h.advance hy fun hsame => ?_⟩,
      fun _ hhas => hhas, fun _ ha => .inl ha⟩
    exact absurd (hid.trans hsame) (h.stored stored hmem)
  | @restore x params sessions hx hphase hrestored =>
    refine ⟨⟨h.created, h.stored, h.creations, fun y hy => h.advance hy nofun⟩,
      fun _ => hasSession_setPod fun hhas => ?_, fun _ ha => .inl ha⟩
    have hne : sessionId ≠ x.sessionId := fun hsame => h.loaded x hx hsame.symm params hphase
    rwa [(hasSession_restored hrestored).2, decide_eq_false hne, Bool.false_or] at hhas
  | complete hx hphase =>
    exact ⟨⟨h.created, h.stored, h.creations, fun y hy => h.advance hy nofun⟩,
      fun _ hhas => hhas, fun _ ha => .inl ha⟩
  | leave answers hx hanswers =>
    refine ⟨⟨h.created, h.stored, h.creations,
      fun y hy => h.loaded y (Table.mem_erase.mp hy).1⟩, fun _ hhas => hhas, fun a ha => ?_⟩
    obtain rfl | ⟨new, rfl, hnew⟩ := hanswers
    · exact .inl ha
    · obtain rfl | ha := List.mem_cons.mp ha
      · refine .inr ?_
        rintro rfl houtcome
        exact hnew.served houtcome
      · exact .inl ha
  | remove hkey =>
    exact ⟨⟨h.created, h.stored, h.creations, h.loaded⟩, fun _ hhas => hhas, fun _ ha => .inl ha⟩
  | close pod other =>
    refine ⟨⟨h.created, h.stored, h.creations, h.loaded⟩,
      fun _ => hasSession_setPod fun hhas => ?_, fun _ ha => .inl ha⟩
    rw [manager.hasSession_close] at hhas
    exact (Bool.and_eq_true_iff.mp hhas).2

end Gone

/-- Once a session is gone from the store it does not come back, whatever requests for it still
come, on whichever pod. -/
theorem gone_dwindles {sessionId : SessionId} {inputs : List (Input Params)}
    (hgone : Gone s sessionId) (h : exec (step manager) s inputs = some t) :
    Dwindles manager sessionId s t :=
  invariant_of_exec (I := Dwindles manager sessionId s)
    (fun _ _ _ hs ht => hs.trans ((effect_of_step ht).dwindles hs.gone)) (.refl hgone) h

end Runs

end Model

/-- A session manager that keeps a list. -/
def sampleManager : SessionManager (List SessionId) where
  new := []
  hasSession sessions id := sessions.contains id
  createSession sessions id := id :: sessions
  restoreSession sessions id :=
    if sessions.contains id then (.alreadyPresent, sessions) else (.restored, id :: sessions)
  closeSession sessions id := sessions.filter (· ≠ id)
  hasSession_new _ := rfl
  hasSession_create sessions id other := by
    rw [List.contains_cons, beq_eq_decide]
  restore_present sessions id h := if_pos h
  restore_absent sessions id h := by
    rw [if_neg (by rw [h]; exact Bool.false_ne_true)]
    exact .inr ⟨rfl, fun other => by rw [List.contains_cons, beq_eq_decide]⟩
  hasSession_close sessions id other := by
    by_cases hid : other = id <;> simp [List.contains_eq_mem, hid]

/-- Three requests come to the second pod before it has the session: one restores it, one waits for
that, and one has been slow to enter. -/
def sampleRun : List (Input Nat) :=
  [.create 0 "session" (some 5), .initializeSession "session" false, .persist "session" false,
    .arrive 1 "session", .arrive 1 "session", .arrive 1 "session", .tryRestore 0, .tryRestore 1,
    .load 0 none, .restoreSession 0, .handshake 0 none, .wake 1, .dispatch 0 none,
    .dispatch 1 none, .reap 1 "session", .tryRestore 2, .load 2 none, .restoreSession 2]

theorem restores_serialized_sample :
    ∃ s, exec (step sampleManager) (initial sampleManager) sampleRun = some s ∧
      s.restores.length = 1 ∧ Serialized s := by
  have hrun : ((exec (step sampleManager) (initial sampleManager) sampleRun).map fun s =>
      s.restores.length) = some 1 := by decide +kernel
  obtain ⟨s, hs, hlength⟩ := Option.map_eq_some_iff.mp hrun
  exact ⟨s, hs, hlength, restores_serialized hs⟩

theorem alreadyPresent_exact_sample :
    ((exec (step sampleManager) (initial sampleManager) sampleRun).map fun s =>
        s.answers.map (·.outcome)) =
      some [.internalServerError alreadyPresentMessage, .served, .served] ∧
    Along (step sampleManager) (fun s i t => AlreadyPresentExact s i t) (initial sampleManager)
      sampleRun :=
  ⟨by decide +kernel, alreadyPresent_exact (by decide)⟩

/-- The session is deleted on its pod, and the other has it still. -/
def sampleDeletion : List (Input Nat) :=
  sampleRun ++ [.reap 1 "session", .close 0 "session", .delete "session"]

def sampleAfter : List (Input Nat) :=
  [.arrive 0 "session", .tryRestore 3, .load 3 none, .arrive 1 "session", .dispatch 4 none]

theorem gone_dwindles_sample :
    ∃ s t, exec (step sampleManager) (initial sampleManager) sampleDeletion = some s ∧
      exec (step sampleManager) s sampleAfter = some t ∧
      (t.answers.take 2).map (·.outcome) = [.served, .notFound] ∧
      Dwindles sampleManager "session" s t := by
  have hrun : (exec (step sampleManager) (initial sampleManager) sampleDeletion).any (fun s =>
      s.created.rows.map (·.sessionId) = ["session"] ∧ s.store.rows.map (·.sessionId) = [] ∧
        s.creations.rows.map (·.sessionId) = [] ∧ s.requests.rows.map (·.id) = [] ∧
        (exec (step sampleManager) s sampleAfter).any fun t =>
          (t.answers.take 2).map (·.outcome) = [.served, .notFound]) = true := by decide +kernel
  obtain ⟨s, hs, hstate⟩ := (Option.any_eq_true _ _).mp hrun
  obtain ⟨hcreated, hstore, hcreations, hrequests, hafter⟩ := of_decide_eq_true hstate
  obtain ⟨t, ht, hanswers⟩ := (Option.any_eq_true _ _).mp hafter
  have hgone : Gone s "session" := by
    refine ⟨?_, ?_, ?_, ?_⟩
    · exact List.mem_map.mp (hcreated ▸ List.mem_cons_self)
    · rw [List.map_eq_nil_iff.mp hstore]
      exact fun _ h => (List.not_mem_nil h).elim
    · rw [List.map_eq_nil_iff.mp hcreations]
      exact fun _ h => (List.not_mem_nil h).elim
    · rw [List.map_eq_nil_iff.mp hrequests]
      exact fun _ h => (List.not_mem_nil h).elim
  exact ⟨s, t, hs, ht, of_decide_eq_true hanswers, gone_dwindles hgone ht⟩

end UniversalInbox.McpSessions
