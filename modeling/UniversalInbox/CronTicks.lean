import Mathlib.Data.List.Nodup
import UniversalInbox.Core
import UniversalInbox.Library.Transition

/-! The cron ticks of the worker processes. Every process handles every tick: it takes a lock in
Redis whose key names the tick, then pushes a job to the queue. The two commands are separate
steps here, since any other process may come between them, and each may fail before or after it
took effect. Redis counts milliseconds. -/
namespace UniversalInbox.CronTicks
open Transition

/-- A scheduled instant; a cron expression names whole seconds. -/
structure Tick where
  instant : DateTime
  wholeSecond : instant % 1000000000 = 0
deriving DecidableEq, Repr

def Tick.timestamp (tick : Tick) : Int := tick.instant / 1000000000

/-- `universal-inbox:cron:{job_name}:{timestamp}`. -/
structure CronKey where
  jobName : String
  timestamp : Int
deriving DecidableEq, Repr

/-- The instant at which each key expires. -/
abbrev Keys := CronKey → Option Int

/-- A key is there up to the instant it expires at. -/
def isLive (keys : Keys) (key : CronKey) (now : Int) : Bool := (keys key).any (now ≤ ·)

/-- `SET key locked NX EX ttl`: whether the key was set. -/
def setNxEx (keys : Keys) (key : CronKey) (ttlSeconds : Nat) (now : Int) : Keys × Bool :=
  if isLive keys key now then (keys, false)
  else (fun k => if k = key then some (now + ttlSeconds * 1000) else keys k, true)

/-- What becomes of a command: carried out and answered, carried out while its answer is lost, or
not carried out at all. -/
inductive Delivery where
  | answered
  | lost
  | refused
deriving DecidableEq, Repr

/-- `none` is the error of the process. Redis refuses a lifetime of zero. -/
def tryAcquireCronTickLock (keys : Keys) (jobName : String) (tick : Tick) (lockTtlSeconds : Nat)
    (now : Int) (delivery : Delivery) : Keys × Option Bool :=
  let (keys', acquired) := setNxEx keys ⟨jobName, tick.timestamp⟩ lockTtlSeconds now
  if lockTtlSeconds = 0 then (keys, none)
  else match delivery with
    | .answered => (keys', some acquired)
    | .lost => (keys', none)
    | .refused => (keys, none)

/-- A process at work on a tick. -/
structure Handling where
  process : Nat
  tick : Tick
deriving DecidableEq, Repr

structure State where
  clock : Int
  keys : Keys
  /-- Handlings that won the lock and have not pushed their job yet. -/
  winners : List Handling
  /-- The tick of each `RefreshOAuthTokens` job pushed. -/
  enqueued : List Tick
  /-- The tick of each handling that returned without error. -/
  handled : List Tick

inductive Input where
  | acquire (handling : Handling) (now : Int) (delivery : Delivery)
  /-- Of a crashed process the push is never carried out. -/
  | push (handling : Handling) (delivery : Delivery)
  /-- The lock of the other cron job. -/
  | acquireVacuum (tick : Tick) (now : Int) (delivery : Delivery)
deriving DecidableEq

/-- `handle_refresh_oauth_tokens_cron_tick` up to its push. -/
def acquire (lockTtlSeconds : Nat) (s : State) (handling : Handling) (now : Int)
    (delivery : Delivery) : State :=
  let (keys, acquired) := tryAcquireCronTickLock s.keys "refresh-oauth-tokens" handling.tick
    lockTtlSeconds now delivery
  match acquired with
  | none => { s with clock := now, keys }
  | some true => { s with clock := now, keys, winners := handling :: s.winners }
  -- Tick already handled by another worker process, skipping
  | some false => { s with clock := now, keys, handled := handling.tick :: s.handled }

/-- The rest of it. -/
def push (s : State) (handling : Handling) (delivery : Delivery) : State :=
  let winners := s.winners.erase handling
  match delivery with
  | .answered =>
    { s with
      winners
      enqueued := handling.tick :: s.enqueued
      handled := handling.tick :: s.handled }
  | .lost => { s with winners, enqueued := handling.tick :: s.enqueued }
  | .refused => { s with winners }

def step (lockTtlSeconds : Nat) (s : State) : Input → Option State
  | .acquire handling now delivery =>
    if s.clock ≤ now then some (acquire lockTtlSeconds s handling now delivery) else none
  | .push handling delivery =>
    if handling ∈ s.winners then some (push s handling delivery) else none
  | .acquireVacuum tick now delivery =>
    if s.clock ≤ now then
      some { s with
        clock := now
        keys := (tryAcquireCronTickLock s.keys "vacuum-jobs" tick lockTtlSeconds now delivery).1 }
    else none

def initial (clock : Int) : State :=
  { clock, keys := fun _ => none, winners := [], enqueued := [], handled := [] }

/-- A job of the tick is there, or a process is about to push one. -/
def Served (s : State) (tick : Tick) : Prop :=
  tick ∈ s.enqueued ∨ ∃ handling ∈ s.winners, handling.tick = tick

/-- No tick has two jobs, and one that some process handled without error is served. -/
def ExactlyOnce (s : State) : Prop := s.enqueued.Nodup ∧ ∀ tick ∈ s.handled, Served s tick

instance (s : State) (tick : Tick) : Decidable (Served s tick) :=
  inferInstanceAs (Decidable (_ ∨ _))

instance (s : State) : Decidable (ExactlyOnce s) := inferInstanceAs (Decidable (_ ∧ _))

def refreshKey (tick : Tick) : CronKey := ⟨"refresh-oauth-tokens", tick.timestamp⟩

/-- What a step needs to find. A process that skips a tick whose lock is taken finds its job, or
the winner still at work; a winner pushes its job while no other did so after the lock expired;
a push fails before any process has skipped the tick, unless another winner or job makes up
for it. -/
def LockGuard (lockTtlSeconds : Nat) (s : State) : Input → Prop
  | .acquire handling now .answered =>
    lockTtlSeconds ≠ 0 → isLive s.keys (refreshKey handling.tick) now = true →
      Served s handling.tick
  | .push handling .refused =>
    handling.tick ∈ s.handled →
      Served { s with winners := s.winners.erase handling } handling.tick
  | .push handling _ => handling.tick ∉ s.enqueued
  | _ => True

section Guard
variable {lockTtlSeconds : Nat} {s t : State} {handling : Handling} {now : Int} {tick : Tick}
variable {delivery : Delivery} {i : Input}

theorem tryAcquire_eq (keys : Keys) (jobName : String) :
    tryAcquireCronTickLock keys jobName tick lockTtlSeconds now delivery =
      if lockTtlSeconds = 0 ∨ delivery = .refused then (keys, none)
      else
        ((setNxEx keys ⟨jobName, tick.timestamp⟩ lockTtlSeconds now).1,
          if delivery = .answered then some (!isLive keys ⟨jobName, tick.timestamp⟩ now)
          else none) := by
  have hset : (setNxEx keys ⟨jobName, tick.timestamp⟩ lockTtlSeconds now).2 =
      !isLive keys ⟨jobName, tick.timestamp⟩ now := by
    unfold setNxEx
    cases isLive keys ⟨jobName, tick.timestamp⟩ now <;> rfl
  by_cases httl : lockTtlSeconds = 0
  · simp [tryAcquireCronTickLock, httl]
  · cases delivery <;> simp [tryAcquireCronTickLock, httl, hset]

/-- A handling that gets no answer leaves the queue and the other processes as they are. -/
theorem acquire_unanswered (h : lockTtlSeconds = 0 ∨ delivery ≠ .answered) :
    ∃ keys, acquire lockTtlSeconds s handling now delivery = { s with clock := now, keys } := by
  rcases h with rfl | hlost
  · exact ⟨s.keys, by simp [acquire, tryAcquire_eq]⟩
  · by_cases hrefused : lockTtlSeconds = 0 ∨ delivery = .refused
    · exact ⟨s.keys, by simp [acquire, tryAcquire_eq, hrefused]⟩
    · refine ⟨(setNxEx s.keys (refreshKey handling.tick) lockTtlSeconds now).1, ?_⟩
      simp only [acquire, tryAcquire_eq, if_neg hrefused, if_neg hlost]
      rfl

theorem acquire_skips (httl : lockTtlSeconds ≠ 0)
    (hlive : isLive s.keys (refreshKey handling.tick) now = true) :
    acquire lockTtlSeconds s handling now .answered =
      { s with clock := now, handled := handling.tick :: s.handled } := by
  simp only [refreshKey] at hlive
  simp [acquire, tryAcquire_eq, httl, hlive, setNxEx]

theorem acquire_wins (httl : lockTtlSeconds ≠ 0)
    (hfree : isLive s.keys (refreshKey handling.tick) now = false) :
    acquire lockTtlSeconds s handling now .answered =
      { s with
        clock := now
        keys := fun key =>
          if key = refreshKey handling.tick then some (now + lockTtlSeconds * 1000)
          else s.keys key
        winners := handling :: s.winners } := by
  simp only [refreshKey] at hfree
  simp only [acquire, tryAcquire_eq, httl, hfree, setNxEx, refreshKey]
  rfl

/-- The queue and the processes decide what is served. -/
theorem served_mono (h : Served s tick) (henqueued : ∀ x ∈ s.enqueued, x ∈ t.enqueued)
    (hwinners : ∀ w ∈ s.winners, w ∈ t.winners ∨ w.tick ∈ t.enqueued) : Served t tick := by
  rcases h with h | ⟨winner, hwinner, rfl⟩
  · exact .inl (henqueued _ h)
  · rcases hwinners winner hwinner with hstill | hpushed
    · exact .inr ⟨winner, hstill, rfl⟩
    · exact .inl hpushed

theorem exactlyOnce_acquire_iff (h : ExactlyOnce s) :
    ExactlyOnce (acquire lockTtlSeconds s handling now delivery) ↔
      LockGuard lockTtlSeconds s (.acquire handling now delivery) := by
  by_cases hquiet : lockTtlSeconds = 0 ∨ delivery ≠ .answered
  · obtain ⟨keys, hacquire⟩ : ∃ keys, acquire lockTtlSeconds s handling now delivery =
        { s with clock := now, keys } := acquire_unanswered hquiet
    rw [hacquire]
    refine iff_of_true h ?_
    cases delivery with
    | answered => exact fun httl => absurd (hquiet.resolve_right fun hne => hne rfl) httl
    | _ => trivial
  · obtain ⟨httl, hanswered⟩ := not_or.mp hquiet
    obtain rfl := Decidable.not_not.mp hanswered
    cases hlive : isLive s.keys (refreshKey handling.tick) now with
    | false =>
      rw [acquire_wins httl hlive]
      refine iff_of_true ⟨h.1, fun tick htick => ?_⟩ fun _ hheld => absurd (hlive ▸ hheld) (by simp)
      exact served_mono (h.2 tick htick) (fun _ hx => hx)
        fun _ hwinner => .inl (List.mem_cons_of_mem _ hwinner)
    | true =>
      rw [acquire_skips httl hlive]
      constructor
      · intro hafter _ _
        exact hafter.2 _ List.mem_cons_self
      · intro hserved
        refine ⟨h.1, fun tick htick => ?_⟩
        rcases List.mem_cons.mp htick with rfl | hold
        · exact hserved httl hlive
        · exact h.2 tick hold

theorem exactlyOnce_pushed_iff {handled : List Tick}
    (hhandled : handled = s.handled ∨ handled = handling.tick :: s.handled) (h : ExactlyOnce s) :
    ExactlyOnce
        { s with
          winners := s.winners.erase handling
          enqueued := handling.tick :: s.enqueued
          handled } ↔ handling.tick ∉ s.enqueued := by
  constructor
  · intro hafter
    exact (List.nodup_cons.mp hafter.1).1
  · intro hnew
    refine ⟨List.nodup_cons.mpr ⟨hnew, h.1⟩, fun tick htick => ?_⟩
    have hcase : tick = handling.tick ∨ tick ∈ s.handled := by
      rcases hhandled with rfl | rfl
      · exact .inr htick
      · exact List.mem_cons.mp htick
    rcases hcase with rfl | hold
    · exact .inl List.mem_cons_self
    · refine served_mono (h.2 tick hold) (fun _ hx => List.mem_cons_of_mem _ hx) ?_
      intro winner hwinner
      by_cases hsame : winner = handling
      · exact .inr (hsame ▸ List.mem_cons_self)
      · exact .inl ((List.mem_erase_of_ne hsame).mpr hwinner)

theorem exactlyOnce_push_iff (h : ExactlyOnce s) :
    ExactlyOnce (push s handling delivery) ↔
      LockGuard lockTtlSeconds s (.push handling delivery) := by
  cases delivery with
  | answered => exact exactlyOnce_pushed_iff (.inr rfl) h
  | lost => exact exactlyOnce_pushed_iff (.inl rfl) h
  | refused =>
    constructor
    · intro hafter hskipped
      exact hafter.2 _ hskipped
    · intro hguard
      refine ⟨h.1, fun tick htick => ?_⟩
      by_cases hsame : tick = handling.tick
      · subst hsame
        exact hguard htick
      · rcases h.2 tick htick with hqueued | ⟨winner, hwinner, rfl⟩
        · exact .inl hqueued
        · refine .inr ⟨winner, (List.mem_erase_of_ne ?_).mpr hwinner, rfl⟩
          rintro rfl
          exact hsame rfl

theorem exactlyOnce_step_iff (h : ExactlyOnce s) (hstep : step lockTtlSeconds s i = some t) :
    ExactlyOnce t ↔ LockGuard lockTtlSeconds s i := by
  cases i with
  | acquire handling now delivery =>
    simp only [step, Option.ite_none_right_eq_some, Option.some.injEq] at hstep
    obtain ⟨-, rfl⟩ := hstep
    exact exactlyOnce_acquire_iff h
  | push handling delivery =>
    simp only [step, Option.ite_none_right_eq_some, Option.some.injEq] at hstep
    obtain ⟨-, rfl⟩ := hstep
    exact exactlyOnce_push_iff h
  | acquireVacuum tick now delivery =>
    simp only [step, Option.ite_none_right_eq_some, Option.some.injEq] at hstep
    obtain ⟨-, rfl⟩ := hstep
    exact iff_of_true h trivial

end Guard

/-- From no lock and no job, a run handles every tick exactly once just in case each of its steps
finds what its guard asks for. -/
theorem exactlyOnce_iff (lockTtlSeconds : Nat) (clock : Int) (inputs : List Input) :
    Along (step lockTtlSeconds) (fun _ _ t => ExactlyOnce t) (initial clock) inputs ↔
      Along (step lockTtlSeconds) (fun s i _ => LockGuard lockTtlSeconds s i) (initial clock)
        inputs := by
  refine along_good_iff (J := fun _ => True) ?_ ?_ trivial ⟨List.nodup_nil, ?_⟩
  · intros
    trivial
  · intro s i t _ h hstep
    exact exactlyOnce_step_iff h hstep
  · intro tick htick
    cases htick

/-- Every process comes before the lock of the tick expires, no answer of the lock is lost, and
every push reaches the queue. -/
def Prompt (s : State) : Input → Prop
  | .acquire handling now delivery =>
    delivery ≠ .lost ∧ ∀ expiry ∈ s.keys (refreshKey handling.tick), now ≤ expiry
  | .push _ delivery => delivery ≠ .refused
  | .acquireVacuum _ _ _ => True

/-- Each lock stands for one job, pushed or about to be, and no tick is skipped without a lock. -/
structure OneEach (s : State) : Prop where
  count : ∀ tick, (s.winners.map (·.tick)).count tick + s.enqueued.count tick =
    if (s.keys (refreshKey tick)).isSome then 1 else 0
  locked : ∀ tick ∈ s.handled, (s.keys (refreshKey tick)).isSome

section Prompt
variable {lockTtlSeconds : Nat} {s t : State} {handling : Handling} {now : Int}
variable {tick tick' : Tick} {delivery : Delivery} {i : Input}

theorem refreshKey_inj : refreshKey tick = refreshKey tick' ↔ tick = tick' := by
  refine ⟨fun h => ?_, fun h => by rw [h]⟩
  obtain ⟨instant, hinstant⟩ := tick
  obtain ⟨instant', hinstant'⟩ := tick'
  simp only [refreshKey, Tick.timestamp, CronKey.mk.injEq, true_and] at h
  obtain rfl := (Int.ediv_left_inj (Int.dvd_of_emod_eq_zero hinstant)
    (Int.dvd_of_emod_eq_zero hinstant')).mp h
  rfl

theorem exactlyOnce_of_oneEach (h : OneEach s) : ExactlyOnce s := by
  constructor
  · refine List.nodup_iff_count_le_one.mpr fun tick => ?_
    have hcount := h.count tick
    split at hcount <;> omega
  · intro tick htick
    have hcount := h.count tick
    rw [if_pos (h.locked tick htick)] at hcount
    by_cases hqueued : tick ∈ s.enqueued
    · exact .inl hqueued
    · rw [List.count_eq_zero_of_not_mem hqueued, Nat.add_zero] at hcount
      obtain ⟨winner, hwinner, htick⟩ :=
        List.mem_map.mp (List.count_pos_iff.mp (by omega : 0 < (s.winners.map (·.tick)).count tick))
      exact .inr ⟨winner, hwinner, htick⟩

/-- What happens to the locks of other jobs, and to the clock, does not matter. -/
theorem oneEach_congr (h : OneEach s) (hkeys : ∀ tick, t.keys (refreshKey tick) = s.keys (refreshKey tick))
    (hwinners : t.winners = s.winners) (henqueued : t.enqueued = s.enqueued)
    (hhandled : t.handled = s.handled) : OneEach t := by
  refine ⟨fun tick => ?_, fun tick htick => ?_⟩
  · rw [hwinners, henqueued, hkeys]
    exact h.count tick
  · rw [hkeys]
    exact h.locked tick (hhandled ▸ htick)

theorem oneEach_acquire (h : OneEach s) (hprompt : Prompt s (.acquire handling now delivery)) :
    OneEach (acquire lockTtlSeconds s handling now delivery) := by
  obtain ⟨hlost, hlive⟩ := hprompt
  by_cases hquiet : lockTtlSeconds = 0 ∨ delivery = .refused
  · have hsame : acquire lockTtlSeconds s handling now delivery = { s with clock := now } := by
      simp [acquire, tryAcquire_eq, hquiet]
    rw [hsame]
    exact oneEach_congr h (fun _ => rfl) rfl rfl rfl
  · obtain ⟨httl, hrefused⟩ := not_or.mp hquiet
    obtain rfl : delivery = .answered := by
      cases delivery with
      | answered => rfl
      | lost => exact absurd rfl hlost
      | refused => exact absurd rfl hrefused
    cases hkey : s.keys (refreshKey handling.tick) with
    | none =>
      have hfree : isLive s.keys (refreshKey handling.tick) now = false := by
        simp [isLive, hkey]
      rw [acquire_wins httl hfree]
      refine ⟨fun tick => ?_, fun tick htick => ?_⟩
      · have hcount := h.count tick
        by_cases hsame : tick = handling.tick
        · subst hsame
          simp only [hkey, Option.isSome_none, Bool.false_eq_true, if_false] at hcount
          simp only [List.map_cons, List.count_cons_self, if_true, Option.isSome_some]
          omega
        · simp only [List.map_cons, List.count_cons_of_ne (Ne.symm hsame),
            if_neg (mt refreshKey_inj.mp hsame)]
          exact hcount
      · by_cases hsame : tick = handling.tick
        · simp [hsame]
        · simp only [if_neg (mt refreshKey_inj.mp hsame)]
          exact h.locked tick htick
    | some expiry =>
      have hheld : isLive s.keys (refreshKey handling.tick) now = true := by
        simp [isLive, hkey, hlive expiry hkey]
      rw [acquire_skips httl hheld]
      refine ⟨h.count, fun tick htick => ?_⟩
      rcases List.mem_cons.mp htick with rfl | hold
      · simp [hkey]
      · exact h.locked tick hold

/-- A push moves a tick from the winners to the queue. -/
theorem count_push (hwinner : handling ∈ s.winners) :
    ((s.winners.erase handling).map (·.tick)).count tick +
        (handling.tick :: s.enqueued).count tick =
      (s.winners.map (·.tick)).count tick + s.enqueued.count tick := by
  have hperm := (List.perm_cons_erase hwinner).map (·.tick)
  rw [hperm.count_eq, List.map_cons]
  simp only [List.count_cons]
  omega

theorem oneEach_push (h : OneEach s) (hwinner : handling ∈ s.winners)
    (hprompt : Prompt s (.push handling delivery)) : OneEach (push s handling delivery) := by
  have hlocked : (s.keys (refreshKey handling.tick)).isSome := by
    have hcount := h.count handling.tick
    have hpos := List.count_pos_iff.mpr (List.mem_map_of_mem (f := (·.tick)) hwinner)
    by_contra hnone
    rw [if_neg hnone] at hcount
    omega
  cases delivery with
  | answered =>
    refine ⟨fun tick => (count_push hwinner).trans (h.count tick), fun tick htick => ?_⟩
    rcases List.mem_cons.mp htick with rfl | hold
    · exact hlocked
    · exact h.locked tick hold
  | lost => exact ⟨fun tick => (count_push hwinner).trans (h.count tick), h.locked⟩
  | refused => exact absurd rfl hprompt

theorem oneEach_step (h : OneEach s) (hstep : step lockTtlSeconds s i = some t)
    (hprompt : Prompt s i) : OneEach t := by
  cases i with
  | acquire handling now delivery =>
    simp only [step, Option.ite_none_right_eq_some, Option.some.injEq] at hstep
    obtain ⟨-, rfl⟩ := hstep
    exact oneEach_acquire h hprompt
  | push handling delivery =>
    simp only [step, Option.ite_none_right_eq_some, Option.some.injEq] at hstep
    obtain ⟨hwinner, rfl⟩ := hstep
    exact oneEach_push h hwinner hprompt
  | acquireVacuum tick now delivery =>
    simp only [step, Option.ite_none_right_eq_some, Option.some.injEq] at hstep
    obtain ⟨-, rfl⟩ := hstep
    refine oneEach_congr h (fun tick' => ?_) rfl rfl rfl
    have hother : refreshKey tick' ≠ ⟨"vacuum-jobs", tick.timestamp⟩ := by simp [refreshKey]
    rw [tryAcquire_eq]
    split
    · rfl
    · unfold setNxEx
      split
      · rfl
      · simp only [if_neg hother]

end Prompt

/-- While every process comes in time and no command fails halfway, every tick is handled exactly
once. -/
theorem exactlyOnce_of_prompt (lockTtlSeconds : Nat) (clock : Int) (inputs : List Input)
    (hrun : Along (step lockTtlSeconds) (fun s i _ => Prompt s i) (initial clock) inputs) :
    Along (step lockTtlSeconds) (fun _ _ t => ExactlyOnce t) (initial clock) inputs := by
  refine hrun.of_invariant (I := OneEach) (fun _ _ _ h => oneEach_step h) ?_
    ⟨fun tick => by simp [initial], fun tick htick => by cases htick⟩
  intro s i t h hstep hprompt
  exact exactlyOnce_of_oneEach (oneEach_step h hstep hprompt)

def noon : Tick := ⟨1783252800000000000, by decide⟩

/-- A second process comes to the tick when the lock of the first has expired. -/
def lateProcess : List Input :=
  [.acquire ⟨1, noon⟩ 0 .answered, .push ⟨1, noon⟩ .answered, .acquire ⟨2, noon⟩ 60001 .answered,
    .push ⟨2, noon⟩ .answered]

/-- The winner cannot push its job, and the other process takes the tick for handled. -/
def failedPush : List Input :=
  [.acquire ⟨1, noon⟩ 0 .answered, .push ⟨1, noon⟩ .refused, .acquire ⟨2, noon⟩ 1 .answered]

theorem tick_not_exactlyOnce :
    (Possible (step 60) (initial 0) lateProcess ∧
        ¬ Along (step 60) (fun _ _ t => ExactlyOnce t) (initial 0) lateProcess) ∧
      Possible (step 60) (initial 0) failedPush ∧
        ¬ Along (step 60) (fun _ _ t => ExactlyOnce t) (initial 0) failedPush := by
  decide

end UniversalInbox.CronTicks
