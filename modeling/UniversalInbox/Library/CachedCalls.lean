import UniversalInbox.Library.Table
import UniversalInbox.Library.Transition
import Mathlib.Algebra.Order.Ring.Int

/-! Calls that are answered from a cache which all callers share: a call without an entry fetches
its value and stores it under its key for a time. The cache may lose an entry at any moment. -/
namespace CachedCalls
open Transition

/-- What a call has fetched, and when. -/
structure Fetch (α ρ : Type*) where
  argument : α
  value : ρ
  time : Int
deriving DecidableEq, Repr

structure Entry (α κ ρ : Type*) where
  key : κ
  fetch : Fetch α ρ
  storedAt : Int
  expiresAt : Int
deriving DecidableEq, Repr

/-- A call that has not found an entry. -/
structure Call (α ρ : Type*) where
  id : Nat
  argument : α
  fetched : Option (Fetch α ρ)
deriving DecidableEq, Repr

/-- `cachedSince` for one from the cache. -/
structure Answer (α ρ : Type*) where
  argument : α
  fetch : Fetch α ρ
  time : Int
  cachedSince : Option Int
deriving DecidableEq, Repr

/-- How calls are kept; `refresh` for those that prolong the entry they find. -/
structure Policy (α κ : Type*) where
  key : α → κ
  ttl : α → Int
  refresh : α → Bool
  refresh_congr : ∀ a b, key a = key b → refresh a = refresh b

structure State (α κ ρ : Type*) where
  clock : Int
  entries : Table (Entry.key : Entry α κ ρ → κ)
  calls : Table (Call.id : Call α ρ → Nat)
  begun : Nat
  answers : List (Answer α ρ)

/-- The cache may not be read, the fetch may fail, and the entry may be stored or not, whatever the
caller is told of that. -/
inductive Input (α κ ρ : Type*) where
  | tick (elapsed : Nat)
  | call (argument : α) (readable : Bool)
  | fetch (id : Nat) (value : Option ρ)
  | store (id : Nat) (stored told : Bool)
  | evict (key : κ)

variable {α κ ρ : Type*} [DecidableEq κ] (policy : Policy α κ)

def State.live (s : State α κ ρ) (argument : α) : Option (Entry α κ ρ) :=
  (s.entries.find? (policy.key argument)).filter fun e => s.clock < e.expiresAt

def State.hit (s : State α κ ρ) (argument : α) (e : Entry α κ ρ) : State α κ ρ :=
  { s with
    entries :=
      if policy.refresh argument then
        s.entries.put { e with expiresAt := s.clock + policy.ttl argument }
      else s.entries
    answers := ⟨argument, e.fetch, s.clock, some e.storedAt⟩ :: s.answers }

def State.finish (s : State α κ ρ) (x : Call α ρ) (f : Fetch α ρ) (stored told : Bool) :
    State α κ ρ :=
  { s with
    entries :=
      if stored then
        s.entries.put ⟨policy.key x.argument, f, s.clock, s.clock + policy.ttl x.argument⟩
      else s.entries
    calls := s.calls.erase x.id
    answers := if told then ⟨x.argument, f, s.clock, none⟩ :: s.answers else s.answers }

def step (s : State α κ ρ) : Input α κ ρ → Option (State α κ ρ)
  | .tick elapsed => some { s with clock := s.clock + elapsed }
  | .call argument readable =>
    if readable then
      match s.live policy argument with
      | some e => some (s.hit policy argument e)
      | none =>
        (s.calls.insert? ⟨s.begun, argument, none⟩).map fun calls =>
          { s with calls, begun := s.begun + 1 }
    else some s
  | .fetch id value =>
    (s.calls.find? id).bind fun x =>
      match x.fetched, value with
      | some _, _ => none
      | none, none => some { s with calls := s.calls.erase id }
      | none, some value =>
        some { s with
          calls := s.calls.put { x with fetched := some ⟨x.argument, value, s.clock⟩ } }
  | .store id stored told =>
    (s.calls.find? id).bind fun x => x.fetched.map fun f => s.finish policy x f stored told
  | .evict key => some { s with entries := s.entries.erase key }

omit [DecidableEq κ] in
def initial (clock : Int) : State α κ ρ := ⟨clock, Table.empty, Table.empty, 0, []⟩

/-- An answer is what a call of the same key has fetched; it is the call's own where it is not from
the cache, and where it is, it was stored there less than its time to live before, unless the calls
prolong that. -/
structure Justified (x : Answer α ρ) : Prop where
  key : policy.key x.fetch.argument = policy.key x.argument
  fetched : x.fetch.time ≤ x.time
  own : x.cachedSince = none → x.fetch.argument = x.argument
  since : ∀ since ∈ x.cachedSince, x.fetch.time ≤ since ∧ since ≤ x.time
  fresh : ∀ since ∈ x.cachedSince, policy.refresh x.argument = false →
    x.time < since + policy.ttl x.fetch.argument

structure Kept (clock : Int) (e : Entry α κ ρ) : Prop where
  key : policy.key e.fetch.argument = e.key
  fetched : e.fetch.time ≤ e.storedAt
  stored : e.storedAt ≤ clock
  expires : policy.refresh e.fetch.argument = false →
    e.expiresAt = e.storedAt + policy.ttl e.fetch.argument

structure Sound (s : State α κ ρ) : Prop where
  entries : ∀ e ∈ s.entries.rows, Kept policy s.clock e
  calls : ∀ x ∈ s.calls.rows, ∀ f ∈ x.fetched, f.argument = x.argument ∧ f.time ≤ s.clock
  answers : ∀ x ∈ s.answers, Justified policy x

variable {policy} {s t : State α κ ρ} {a : α} {e : Entry α κ ρ} {x : Call α ρ} {f : Fetch α ρ}

omit [DecidableEq κ] in
theorem sound_initial (clock : Int) : Sound policy (initial clock : State α κ ρ) where
  entries _ he := absurd he Table.not_mem_empty
  calls _ hx := absurd hx Table.not_mem_empty
  answers _ hx := absurd hx List.not_mem_nil

theorem live_eq_some : s.live policy a = some e ↔
    e ∈ s.entries.rows ∧ e.key = policy.key a ∧ s.clock < e.expiresAt := by
  unfold State.live
  rw [Option.filter_eq_some_iff, Table.find?_eq_some, decide_eq_true_eq, and_assoc]

theorem Sound.justified (h : Sound policy s) (hlive : s.live policy a = some e) :
    Justified policy ⟨a, e.fetch, s.clock, some e.storedAt⟩ := by
  obtain ⟨he, hkey, hbefore⟩ := live_eq_some.mp hlive
  have hkept := h.entries e he
  refine ⟨hkept.key.trans hkey, hkept.fetched.trans hkept.stored, nofun, ?_, ?_⟩
  · rintro _ ⟨⟩
    exact ⟨hkept.fetched, hkept.stored⟩
  · rintro _ ⟨⟩ hrefresh
    have hown := (policy.refresh_congr _ _ (hkept.key.trans hkey)).trans hrefresh
    exact (hkept.expires hown) ▸ hbefore

theorem Sound.hit (h : Sound policy s) (hlive : s.live policy a = some e) :
    Sound policy (s.hit policy a e) where
  entries e' he' := by
    obtain ⟨he, hkey, -⟩ := live_eq_some.mp hlive
    unfold State.hit at he'
    dsimp only at he'
    split at he'
    next hrefresh =>
      obtain rfl | ⟨he', -⟩ := Table.mem_put.mp he'
      · have hkept := h.entries e he
        refine ⟨hkept.key, hkept.fetched, hkept.stored, fun hnot => ?_⟩
        -- the entry is one of the calls that prolong theirs
        rw [policy.refresh_congr _ _ (hkept.key.trans hkey), hrefresh] at hnot
        cases hnot
      · exact h.entries e' he'
    next => exact h.entries e' he'
  calls := h.calls
  answers := List.forall_mem_cons.mpr ⟨h.justified hlive, h.answers⟩

theorem Sound.finish (h : Sound policy s) (hx : x ∈ s.calls.rows) (hf : x.fetched = some f)
    (stored told : Bool) : Sound policy (s.finish policy x f stored told) := by
  obtain ⟨hargument, htime⟩ := h.calls x hx f hf
  refine ⟨fun e he => ?_, fun y hy => h.calls y (Table.mem_erase.mp hy).1, fun y hy => ?_⟩
  · cases stored with
    | false => exact h.entries e he
    | true =>
      obtain rfl | ⟨he, -⟩ := Table.mem_put.mp he
      · exact ⟨congrArg policy.key hargument, htime, le_refl _, fun _ => by rw [hargument]⟩
      · exact h.entries e he
  · cases told with
    | false => exact h.answers y hy
    | true =>
      obtain rfl | hy := List.mem_cons.mp hy
      · exact ⟨congrArg policy.key hargument, htime, fun _ => hargument, nofun, nofun⟩
      · exact h.answers y hy

theorem sound_step {i : Input α κ ρ} (h : Sound policy s) (ht : step policy s i = some t) :
    Sound policy t := by
  cases i with
  | tick elapsed =>
    cases ht
    have hlater : s.clock ≤ s.clock + elapsed := le_add_of_nonneg_right (Int.natCast_nonneg elapsed)
    refine ⟨fun e he => ?_, fun x hx f hf => ?_, h.answers⟩
    · have hkept := h.entries e he
      exact ⟨hkept.key, hkept.fetched, hkept.stored.trans hlater, hkept.expires⟩
    · exact ⟨(h.calls x hx f hf).1, (h.calls x hx f hf).2.trans hlater⟩
  | call argument readable =>
    rw [step] at ht
    split at ht
    · split at ht
      next e hlive =>
        cases ht
        exact h.hit hlive
      next =>
        obtain ⟨calls, hinsert, rfl⟩ := Option.map_eq_some_iff.mp ht
        obtain ⟨-, hrows⟩ := Table.insert?_eq_some.mp hinsert
        refine ⟨h.entries, fun x hx => ?_, h.answers⟩
        obtain hx | hx := List.mem_append.mp (hrows ▸ hx)
        · exact h.calls x hx
        · obtain rfl := List.mem_singleton.mp hx
          exact fun _ hf => by cases hf
    · cases ht
      exact h
  | fetch id value =>
    obtain ⟨x, hx, rfl, ht⟩ := Table.find?_bind_eq_some.mp ht
    split at ht
    · cases ht
    · cases ht
      exact ⟨h.entries, fun y hy => h.calls y (Table.mem_erase.mp hy).1, h.answers⟩
    next value _ =>
      cases ht
      refine ⟨h.entries, fun y hy f hf => ?_, h.answers⟩
      obtain rfl | ⟨hy, -⟩ := Table.mem_put.mp hy
      · cases hf
        exact ⟨rfl, le_refl _⟩
      · exact h.calls y hy f hf
  | store id stored told =>
    obtain ⟨x, hx, rfl, hmap⟩ := Table.find?_bind_eq_some.mp ht
    obtain ⟨f, hf, rfl⟩ := Option.map_eq_some_iff.mp hmap
    exact h.finish hx hf stored told
  | evict key =>
    cases ht
    exact ⟨fun e he => h.entries e (Table.mem_erase.mp he).1, h.calls, h.answers⟩

/-- What is fetched has a property, and is stored no later than a delay after. -/
structure Prompt (P : Fetch α ρ → Prop) (delay : Int) (s : State α κ ρ) (i : Input α κ ρ) : Prop where
  fetched : ∀ id value, i = .fetch id (some value) → ∀ x ∈ s.calls.rows, x.id = id →
    P ⟨x.argument, value, s.clock⟩
  stored : ∀ id stored told, i = .store id stored told → ∀ x ∈ s.calls.rows, x.id = id →
    ∀ f ∈ x.fetched, s.clock ≤ f.time + delay

structure Recent (P : Fetch α ρ → Prop) (delay : Int) (s : State α κ ρ) : Prop where
  entries : ∀ e ∈ s.entries.rows, P e.fetch ∧ e.storedAt ≤ e.fetch.time + delay
  calls : ∀ x ∈ s.calls.rows, ∀ f ∈ x.fetched, P f
  answers : ∀ x ∈ s.answers, P x.fetch ∧ x.cachedSince.getD x.time ≤ x.fetch.time + delay

variable {P : Fetch α ρ → Prop} {delay : Int}

omit [DecidableEq κ] in
theorem recent_initial (clock : Int) : Recent P delay (initial clock : State α κ ρ) where
  entries _ he := absurd he Table.not_mem_empty
  calls _ hx := absurd hx Table.not_mem_empty
  answers _ hx := absurd hx List.not_mem_nil

theorem Recent.hit (h : Recent P delay s) (hlive : s.live policy a = some e) :
    Recent P delay (s.hit policy a e) where
  entries e' he' := by
    unfold State.hit at he'
    dsimp only at he'
    split at he'
    · obtain rfl | ⟨he', -⟩ := Table.mem_put.mp he'
      · exact h.entries e (live_eq_some.mp hlive).1
      · exact h.entries e' he'
    · exact h.entries e' he'
  calls := h.calls
  answers := List.forall_mem_cons.mpr ⟨h.entries e (live_eq_some.mp hlive).1, h.answers⟩

theorem Recent.finish (h : Recent P delay s) (hx : x ∈ s.calls.rows) (hf : x.fetched = some f)
    (hdelay : s.clock ≤ f.time + delay) (stored told : Bool) :
    Recent P delay (s.finish policy x f stored told) := by
  have hown : P f ∧ s.clock ≤ f.time + delay := ⟨h.calls x hx f hf, hdelay⟩
  refine ⟨fun e he => ?_, fun y hy => h.calls y (Table.mem_erase.mp hy).1, fun y hy => ?_⟩
  · cases stored with
    | false => exact h.entries e he
    | true =>
      obtain rfl | ⟨he, -⟩ := Table.mem_put.mp he
      · exact hown
      · exact h.entries e he
  · cases told with
    | false => exact h.answers y hy
    | true =>
      obtain rfl | hy := List.mem_cons.mp hy
      · exact hown
      · exact h.answers y hy

theorem Recent.step {i : Input α κ ρ} (h : Recent P delay s) (ht : step policy s i = some t)
    (hprompt : Prompt P delay s i) : Recent P delay t := by
  cases i with
  | tick elapsed =>
    cases ht
    exact ⟨h.entries, h.calls, h.answers⟩
  | call argument readable =>
    rw [CachedCalls.step] at ht
    split at ht
    · split at ht
      next e hlive =>
        cases ht
        exact h.hit hlive
      next =>
        obtain ⟨calls, hinsert, rfl⟩ := Option.map_eq_some_iff.mp ht
        obtain ⟨-, hrows⟩ := Table.insert?_eq_some.mp hinsert
        refine ⟨h.entries, fun x hx => ?_, h.answers⟩
        obtain hx | hx := List.mem_append.mp (hrows ▸ hx)
        · exact h.calls x hx
        · obtain rfl := List.mem_singleton.mp hx
          exact fun _ hf => by cases hf
    · cases ht
      exact h
  | fetch id value =>
    obtain ⟨x, hx, rfl, ht⟩ := Table.find?_bind_eq_some.mp ht
    split at ht
    · cases ht
    · cases ht
      exact ⟨h.entries, fun y hy => h.calls y (Table.mem_erase.mp hy).1, h.answers⟩
    next value _ =>
      cases ht
      refine ⟨h.entries, fun y hy f hf => ?_, h.answers⟩
      obtain rfl | ⟨hy, -⟩ := Table.mem_put.mp hy
      · cases hf
        exact hprompt.fetched _ _ rfl x hx rfl
      · exact h.calls y hy f hf
  | store id stored told =>
    obtain ⟨x, hx, rfl, hmap⟩ := Table.find?_bind_eq_some.mp ht
    obtain ⟨f, hf, rfl⟩ := Option.map_eq_some_iff.mp hmap
    exact h.finish hx hf (hprompt.stored _ _ _ rfl x hx rfl f hf) stored told
  | evict key =>
    cases ht
    exact ⟨fun e he => h.entries e (Table.mem_erase.mp he).1, h.calls, h.answers⟩

omit [DecidableEq κ] in
/-- An answer later than the delay and the time to live after an instant was fetched after it. -/
theorem lt_fetch_time {since : Int} {y : Answer α ρ} (hsound : Sound policy s)
    (h : Recent P delay s) (hy : y ∈ s.answers) (hrefresh : policy.refresh y.argument = false)
    (httl : 0 < policy.ttl y.fetch.argument)
    (hlate : since + delay + policy.ttl y.fetch.argument ≤ y.time) : since < y.fetch.time := by
  obtain ⟨-, htime⟩ := h.answers y hy
  cases hcached : y.cachedSince with
  | none =>
    rw [hcached, Option.getD_none] at htime
    omega
  | some stored =>
    have hfresh := (hsound.answers y hy).fresh stored hcached hrefresh
    rw [hcached, Option.getD_some] at htime
    omega

/-- In every run, every answer is justified. -/
theorem sound_of_exec {clock : Int} {inputs : List (Input α κ ρ)}
    (hrun : exec (step policy) (initial clock) inputs = some s) : Sound policy s :=
  invariant_of_exec (fun _ _ _ h ht => sound_step h ht) (sound_initial clock) hrun

end CachedCalls
