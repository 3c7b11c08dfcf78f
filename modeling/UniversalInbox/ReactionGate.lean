import UniversalInbox.Library.CachedCalls
import UniversalInbox.ReactionEvents
import UniversalInbox.SyncServices

/-! The webhook's decision on a reaction at Slack: it queues the event or discards it by what a
cache, which no change of a connection clears, says of the connection of the reacting user. -/
namespace UniversalInbox.ReactionGate

open CachedCalls Transition
open ReactionEvents (SlackReactionConfig SlackReactionEvent)
open SyncServices (displayProviderKind)

inductive Config where
  | slack (reactionConfig : SlackReactionConfig)
  | other
deriving DecidableEq, Repr

structure Connection where
  id : IntegrationConnectionId
  providerKind : IntegrationProviderKind
  providerUserId : Option String
  status : IntegrationConnectionStatus
  config : Config
deriving DecidableEq, Repr

def isSelected (user : String) (connection : Connection) : Bool :=
  connection.providerUserId == some user && connection.providerKind == .slack &&
    connection.status == .validated

/-- `get_integration_connection_per_provider_user_id` takes the first row and names no order. -/
def readings (connections : List Connection) (user : String) : List (Option Config) :=
  match connections.filter (isSelected user) with
  | [] => [none]
  | rows => rows.map fun connection => some connection.config

def isQueued (config : Option Config) (reaction : String) : Bool :=
  match config with
  | some (.slack reactionConfig) =>
    reactionConfig.syncEnabled && reactionConfig.reactionName == reaction
  | _ => false

def ttl : Int := 6 * 60 * 60 * 1000000000

def redisKey (cacheNamespace user : String) : String :=
  cacheNamespace ++ "slack:is_known_provider_user_id" ++ (displayProviderKind .slack ++ user)

def policy (cacheNamespace : String) : Policy SlackReactionEvent String where
  key event := redisKey cacheNamespace event.user
  ttl _ := ttl
  refresh _ := false
  refresh_congr _ _ _ := rfl

structure State where
  cache : CachedCalls.State SlackReactionEvent String (Option Config)
  connections : List Connection

/-- The connections may be written at any moment, by anyone. -/
inductive Input where
  | write (connections : List Connection)
  | cache (input : CachedCalls.Input SlackReactionEvent String (Option Config))

/-- A lookup reads the connections as they are then. -/
def reads (s : State) : CachedCalls.Input SlackReactionEvent String (Option Config) → Bool
  | .fetch id (some config) => s.cache.calls.rows.all fun x =>
    x.id != id || decide (config ∈ readings s.connections x.argument.user)
  | _ => true

def step (cacheNamespace : String) (s : State) : Input → Option State
  | .write connections => some { s with connections }
  | .cache input =>
    if reads s input then
      (CachedCalls.step (policy cacheNamespace) s.cache input).map fun cache => { s with cache }
    else none

def initial (clock : Int) (connections : List Connection) : State :=
  ⟨CachedCalls.initial clock, connections⟩

def storesWithin (delay : Int) (s : State) : Input → Bool
  | .cache (.store id _ _) => s.cache.calls.rows.all fun x =>
    x.id != id || x.fetched.all fun f => decide (s.cache.clock ≤ f.time + delay)
  | _ => true

/-- After an instant every connection that may be read asks for the reaction, or none does; and no
request takes longer than the delay from its lookup to its decision. -/
def SettledAfter (since delay : Int) (user reaction : String) (asked : Bool) (s : State)
    (i : Input) : Prop :=
  (since < s.cache.clock → ∀ config ∈ readings s.connections user,
    isQueued config reaction = asked) ∧ storesWithin delay s i = true

instance (since delay : Int) (user reaction : String) (asked : Bool) (s : State) (i : Input) :
    Decidable (SettledAfter since delay user reaction asked s i) :=
  inferInstanceAs (Decidable (_ ∧ _))

section Run
variable {cacheNamespace user reaction : String} {since delay clock : Int} {asked : Bool}
  {s t : State} {i : Input}

theorem redisKey_inj {user' : String}
    (h : redisKey cacheNamespace user = redisKey cacheNamespace user') : user = user' := by
  have htext := congrArg String.toList h
  simp only [redisKey, String.toList_append, List.append_cancel_left_eq] at htext
  exact String.toList_inj.mp htext

/-- What a lookup after the instant has read of the user. -/
def ReadSettled (since : Int) (user reaction : String) (asked : Bool)
    (f : Fetch SlackReactionEvent (Option Config)) : Prop :=
  since < f.time → f.argument.user = user → isQueued f.value reaction = asked

structure Inv (cacheNamespace : String) (since delay : Int) (user reaction : String) (asked : Bool)
    (s : State) : Prop where
  sound : Sound (policy cacheNamespace) s.cache
  recent : Recent (ReadSettled since user reaction asked) delay s.cache

theorem prompt_of_settled {input : CachedCalls.Input SlackReactionEvent String (Option Config)}
    (h : SettledAfter since delay user reaction asked s (.cache input))
    (hreads : reads s input = true) :
    Prompt (ReadSettled since user reaction asked) delay s.cache input where
  fetched := by
    rintro id config rfl x hx hid hsince hsame
    have hread := List.all_eq_true.mp hreads x hx
    rw [hid, bne_self_eq_false, Bool.false_or, decide_eq_true_eq] at hread
    exact h.1 hsince config (hsame ▸ hread)
  stored := by
    rintro id stored told rfl x hx hid f hf
    have hstores := List.all_eq_true.mp h.2 x hx
    rw [hid, bne_self_eq_false, Bool.false_or, hf, Option.all_some] at hstores
    exact of_decide_eq_true hstores

theorem inv_step (h : Inv cacheNamespace since delay user reaction asked s)
    (ht : step cacheNamespace s i = some t) (hp : SettledAfter since delay user reaction asked s i) :
    Inv cacheNamespace since delay user reaction asked t := by
  cases i with
  | write connections =>
    cases ht
    exact ⟨h.sound, h.recent⟩
  | cache input =>
    rw [step] at ht
    split at ht
    next hreads =>
      obtain ⟨cache, hcache, rfl⟩ := Option.map_eq_some_iff.mp ht
      exact ⟨sound_step h.sound hcache, h.recent.step hcache (prompt_of_settled hp hreads)⟩
    next => cases ht

/-- The decisions follow the connections: six hours and one request after they have settled whether
a user's reaction is asked for, every decision on it is theirs. -/
theorem decisions_settle {connections : List Connection} {inputs : List Input}
    (hrun : Along (step cacheNamespace)
      (fun s i _ => SettledAfter since delay user reaction asked s i)
      (initial clock connections) inputs)
    (hend : exec (step cacheNamespace) (initial clock connections) inputs = some s) :
    ∀ x ∈ s.cache.answers, x.argument.user = user → x.argument.reaction = reaction →
      since + delay + ttl ≤ x.time → isQueued x.fetch.value x.argument.reaction = asked := by
  have hinv : Inv cacheNamespace since delay user reaction asked s :=
    invariant_of_along (fun _ _ _ h ht hp => inv_step h ht hp)
      ⟨sound_initial clock, recent_initial clock⟩ hrun hend
  intro x hx huser hreaction hlate
  have hsince := lt_fetch_time hinv.sound hinv.recent hx rfl (show 0 < ttl by decide) hlate
  have hsame := redisKey_inj (hinv.sound.answers x hx).key
  rw [hreaction]
  exact (hinv.recent.answers x hx).1 hsince (hsame.trans huser)

end Run

def watchedConnection (syncEnabled : Bool) : Connection :=
  ⟨⟨1⟩, .slack, some "U1", .validated, .slack ⟨syncEnabled, "eyes", .asTasks⟩⟩

def watchedEvent : SlackReactionEvent :=
  ⟨.reactionAdded, "U1", "eyes", none, .message "1732535291.911209" (some "C1"), 1732535300000000⟩

/-- The reaction is switched off once it is cached, and queued for six hours more. -/
def switchedOff : List Input :=
  [.cache (.call watchedEvent true), .cache (.fetch 0 (some (some (watchedConnection true).config))),
    .cache (.store 0 true true), .write [watchedConnection false],
    .cache (.tick 3600000000000), .cache (.call watchedEvent true),
    .cache (.tick 18000000000000), .cache (.call watchedEvent true),
    .cache (.fetch 1 (some (some (watchedConnection false).config))), .cache (.store 1 true true)]

theorem switchedOff_settles :
    ∃ s, exec (step "inbox:") (initial 0 [watchedConnection true]) switchedOff = some s ∧
      (s.cache.answers.map fun x => (x.time, isQueued x.fetch.value x.argument.reaction)) =
        [(21600000000000, false), (3600000000000, true), (0, true)] ∧
      ∀ x ∈ s.cache.answers, x.argument.user = "U1" → x.argument.reaction = "eyes" →
        0 + 0 + ttl ≤ x.time → isQueued x.fetch.value x.argument.reaction = false := by
  have hend : (exec (step "inbox:") (initial 0 [watchedConnection true]) switchedOff).any (fun s =>
      (s.cache.answers.map fun x => (x.time, isQueued x.fetch.value x.argument.reaction)) =
        [(21600000000000, false), (3600000000000, true), (0, true)]) = true := by
    decide +kernel
  obtain ⟨s, hs, hanswers⟩ := (Option.any_eq_true _ _).mp hend
  have hrun : Along (step "inbox:") (fun s i _ => SettledAfter 0 0 "U1" "eyes" false s i)
      (initial 0 [watchedConnection true]) switchedOff := by
    decide +kernel
  exact ⟨s, hs, of_decide_eq_true hanswers, decisions_settle hrun hs⟩

end UniversalInbox.ReactionGate
