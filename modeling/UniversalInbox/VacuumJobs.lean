import UniversalInbox.Library.SortedSet
import Mathlib.Order.Nat

/-! The purge of completed jobs from the queue in Redis: a script takes a batch of them, and a cron
tick calls it until there are no more. -/
namespace UniversalInbox.VacuumJobs

/-- The keys of the queue that the script is given: the done jobs with the times of their completion,
what a job was given, and what came out of it. -/
structure JobQueue (Id Score Data Result : Type) [LinearOrder Id] [LinearOrder Score] where
  done : SortedSet Id Score
  data : Id → Option Data
  results : Id → Option Result

section Script
variable {Id Score Data Result : Type} [LinearOrder Id] [LinearOrder Score]

/-- `HDEL`. -/
def hdel {Value : Type} (hash : Id → Option Value) (id : Id) : Id → Option Value :=
  fun other => if other = id then none else hash other

def purgeJob (q : JobQueue Id Score Data Result) (id : Id) : JobQueue Id Score Data Result where
  done := q.done.zrem id
  data := hdel q.data id
  results := hdel q.results id

/-- `vacuum_jobs.lua`: the queue after it, and the number of purged jobs. -/
def vacuumJobs (cutoff : Score) (batchSize : Nat) (q : JobQueue Id Score Data Result) :
    JobQueue Id Score Data Result × Nat :=
  let ids := (q.done.upTo cutoff).take batchSize
  (ids.foldl purgeJob q, ids.length)

/-- What a tick writes to the log. -/
inductive VacuumReport where
  | vacuumed (purgedJobsCount batches : Nat)
  | limitReached (purgedJobsCount batches : Nat)
deriving DecidableEq, Repr

/-- The loop of `handle_vacuum_jobs_cron_tick`, with the number of batches that are left to it. -/
def vacuumBatches (cutoff : Score) (batchSize : Nat) :
    (batchesLeft purgedJobsCount batches : Nat) → JobQueue Id Score Data Result →
      VacuumReport × JobQueue Id Score Data Result
  | 0, purgedJobsCount, batches, q => (.limitReached purgedJobsCount batches, q)
  | batchesLeft + 1, purgedJobsCount, batches, q =>
    let (q', purgedJobs) := vacuumJobs cutoff batchSize q
    if purgedJobs < batchSize then (.vacuumed (purgedJobsCount + purgedJobs) (batches + 1), q')
    else vacuumBatches cutoff batchSize batchesLeft (purgedJobsCount + purgedJobs) (batches + 1) q'

def handleVacuumJobsCronTick (cutoff : Score) (batchSize maxBatchesPerTick : Nat)
    (q : JobQueue Id Score Data Result) : VacuumReport × JobQueue Id Score Data Result :=
  vacuumBatches cutoff batchSize maxBatchesPerTick 0 0 q

/-- Jobs are taken from all three keys. -/
def JobQueue.without (q : JobQueue Id Score Data Result) (ids : List Id) :
    JobQueue Id Score Data Result where
  done := q.done.keep (·.1 ∉ ids)
  data := fun id => if id ∈ ids then none else q.data id
  results := fun id => if id ∈ ids then none else q.results id

/-- All jobs are purged at once that were done up to the cutoff. -/
def purge (cutoff : Score) (q : JobQueue Id Score Data Result) : JobQueue Id Score Data Result where
  done := q.done.keep (¬ ·.2 ≤ cutoff)
  data := fun id => if id ∈ q.done.upTo cutoff then none else q.data id
  results := fun id => if id ∈ q.done.upTo cutoff then none else q.results id

/-- Of the ids no key has an entry any more, and of all others each has what it had. -/
structure OnlyPurged (ids : List Id) (q q' : JobQueue Id Score Data Result) : Prop where
  purged : ∀ id ∈ ids,
    (∀ score, (id, score) ∉ q'.done.entries) ∧ q'.data id = none ∧ q'.results id = none
  kept : ∀ id ∉ ids, (∀ score, (id, score) ∈ q'.done.entries ↔ (id, score) ∈ q.done.entries) ∧
    q'.data id = q.data id ∧ q'.results id = q.results id

end Script

section Batches
variable {Id Score Data Result : Type} [LinearOrder Id] [LinearOrder Score]
  {q : JobQueue Id Score Data Result} {cutoff : Score} {batchSize : Nat}

theorem hdel_foldl {Value : Type} (ids : List Id) (hash : Id → Option Value) :
    ids.foldl hdel hash = fun id => if id ∈ ids then none else hash id := by
  induction ids generalizing hash with
  | nil => simp
  | cons first ids ih =>
    rw [List.foldl_cons, ih]
    funext id
    by_cases hid : id ∈ ids
    · rw [if_pos hid, if_pos (List.mem_cons_of_mem _ hid)]
    · rw [if_neg hid, hdel]
      simp only [List.mem_cons, hid, or_false]

theorem foldl_purgeJob (ids : List Id) (q : JobQueue Id Score Data Result) :
    ids.foldl purgeJob q = q.without ids := by
  have hfields : ids.foldl purgeJob q =
      ⟨ids.foldl SortedSet.zrem q.done, ids.foldl hdel q.data, ids.foldl hdel q.results⟩ := by
    induction ids generalizing q with
    | nil => rfl
    | cons id ids ih => exact ih (purgeJob q id)
  rw [hfields, SortedSet.foldl_zrem, hdel_foldl, hdel_foldl]
  rfl

theorem vacuumJobs_eq (cutoff : Score) (batchSize : Nat) (q : JobQueue Id Score Data Result) :
    vacuumJobs cutoff batchSize q =
      (q.without ((q.done.upTo cutoff).take batchSize),
        min batchSize (q.done.upTo cutoff).length) := by
  simp only [vacuumJobs, foldl_purgeJob, List.length_take]

/-- The purge is of the ids that are due. -/
theorem purge_eq_without (cutoff : Score) (q : JobQueue Id Score Data Result) :
    purge cutoff q = q.without (q.done.upTo cutoff) := by
  unfold purge JobQueue.without
  congr 1
  refine SortedSet.keep_congr fun entry hentry => ?_
  simp only [SortedSet.mem_upTo_iff_of_mem hentry]

theorem without_nil (q : JobQueue Id Score Data Result) : q.without [] = q := by
  obtain ⟨done, data, results⟩ := q
  have hdone : done.keep (·.1 ∉ ([] : List Id)) = done := SortedSet.eq_of_entries (by
    simp [SortedSet.keep])
  unfold JobQueue.without
  rw [hdone]
  simp

theorem without_without (q : JobQueue Id Score Data Result) (ids ids' : List Id) :
    (q.without ids).without ids' = q.without (ids ++ ids') := by
  unfold JobQueue.without
  simp only [SortedSet.keep_keep, List.mem_append, not_or, Bool.decide_and, JobQueue.mk.injEq]
  refine ⟨trivial, funext fun id => ?_, funext fun id => ?_⟩
  · by_cases hid : id ∈ ids <;> simp [hid]
  · by_cases hid : id ∈ ids <;> simp [hid]

/-- After a batch, the ids are due that it has not taken. -/
theorem upTo_without_take (q : JobQueue Id Score Data Result) (cutoff : Score) (n : Nat) :
    (q.without ((q.done.upTo cutoff).take n)).done.upTo cutoff = (q.done.upTo cutoff).drop n :=
  q.done.upTo_keep_take cutoff n

/-- A batch before it changes nothing about the purge. -/
theorem purge_without_take (q : JobQueue Id Score Data Result) (cutoff : Score) (n : Nat) :
    purge cutoff (q.without ((q.done.upTo cutoff).take n)) = purge cutoff q := by
  rw [purge_eq_without, upTo_without_take, without_without, List.take_append_drop,
    ← purge_eq_without]

/-- With enough batches the loop ends by itself, and all that is due is purged. -/
theorem vacuumBatches_of_enough (hbatch : 1 ≤ batchSize) {batchesLeft : Nat}
    {q : JobQueue Id Score Data Result}
    (henough : (q.done.upTo cutoff).length / batchSize < batchesLeft) (purgedJobsCount batches : Nat) :
    vacuumBatches cutoff batchSize batchesLeft purgedJobsCount batches q =
      (.vacuumed (purgedJobsCount + (q.done.upTo cutoff).length)
        (batches + ((q.done.upTo cutoff).length / batchSize + 1)), purge cutoff q) := by
  induction batchesLeft generalizing q purgedJobsCount batches with
  | zero => exact absurd henough (Nat.not_lt_zero _)
  | succ batchesLeft ih =>
    rw [vacuumBatches, vacuumJobs_eq]
    dsimp only
    by_cases hlast : (q.done.upTo cutoff).length < batchSize
    · have hall := Nat.le_of_lt hlast
      rw [Nat.min_eq_right hall, if_pos hlast, Nat.div_eq_of_lt hlast, List.take_of_length_le hall,
        ← purge_eq_without]
    · have hfull : batchSize ≤ (q.done.upTo cutoff).length := Nat.le_of_not_lt hlast
      have hlength : ((q.without ((q.done.upTo cutoff).take batchSize)).done.upTo cutoff).length =
          (q.done.upTo cutoff).length - batchSize := by
        rw [upTo_without_take, List.length_drop]
      have hdiv : (q.done.upTo cutoff).length / batchSize =
          ((q.done.upTo cutoff).length - batchSize) / batchSize + 1 :=
        Nat.div_eq_sub_div hbatch hfull
      rw [Nat.min_eq_left hfull, if_neg (Nat.lt_irrefl _), ih (by rw [hlength]; omega), hlength,
        purge_without_take, hdiv, Nat.add_assoc, Nat.add_sub_cancel' hfull, Nat.add_assoc batches 1,
        Nat.add_comm 1]

/-- With fewer, whole batches are purged, the oldest jobs first. -/
theorem vacuumBatches_of_limit {batchesLeft : Nat} {q : JobQueue Id Score Data Result}
    (hlimit : batchesLeft * batchSize ≤ (q.done.upTo cutoff).length)
    (purgedJobsCount batches : Nat) :
    vacuumBatches cutoff batchSize batchesLeft purgedJobsCount batches q =
      (.limitReached (purgedJobsCount + batchesLeft * batchSize) (batches + batchesLeft),
        q.without ((q.done.upTo cutoff).take (batchesLeft * batchSize))) := by
  induction batchesLeft generalizing q purgedJobsCount batches with
  | zero => rw [vacuumBatches, Nat.zero_mul, List.take_zero, without_nil, Nat.add_zero, Nat.add_zero]
  | succ batchesLeft ih =>
    have hsum : (batchesLeft + 1) * batchSize = batchSize + batchesLeft * batchSize := by
      rw [Nat.succ_mul, Nat.add_comm]
    have hfull : batchSize ≤ (q.done.upTo cutoff).length := by omega
    have hrest : batchesLeft * batchSize ≤
        ((q.without ((q.done.upTo cutoff).take batchSize)).done.upTo cutoff).length := by
      rw [upTo_without_take, List.length_drop]
      omega
    rw [vacuumBatches, vacuumJobs_eq]
    dsimp only
    rw [Nat.min_eq_left hfull, if_neg (Nat.lt_irrefl _), ih hrest, upTo_without_take,
      without_without, ← List.take_add, hsum, Nat.add_assoc, Nat.add_assoc, Nat.add_comm 1]

theorem onlyPurged_without (q : JobQueue Id Score Data Result) (ids : List Id) :
    OnlyPurged ids q (q.without ids) := by
  constructor
  · intro id hid
    exact ⟨fun score hmem => by simp [JobQueue.without, SortedSet.keep, hid] at hmem, if_pos hid,
      if_pos hid⟩
  · intro id hid
    exact ⟨fun score => by simp [JobQueue.without, SortedSet.keep, hid], if_neg hid, if_neg hid⟩

/-- Batch by batch, until one is not full, the tick does what one purge does. -/
theorem vacuum_eq_purge (hbatch : 1 ≤ batchSize) (cutoff : Score)
    (q : JobQueue Id Score Data Result) :
    (∃ calls, ∀ maxBatchesPerTick, calls ≤ maxBatchesPerTick →
        handleVacuumJobsCronTick cutoff batchSize maxBatchesPerTick q =
          (.vacuumed (q.done.upTo cutoff).length calls, purge cutoff q)) ∧
      OnlyPurged (q.done.upTo cutoff) q (purge cutoff q) := by
  constructor
  · refine ⟨(q.done.upTo cutoff).length / batchSize + 1, fun maxBatchesPerTick hmax => ?_⟩
    rw [handleVacuumJobsCronTick, vacuumBatches_of_enough hbatch hmax, Nat.zero_add, Nat.zero_add]
  · rw [purge_eq_without]
    exact onlyPurged_without q _

/-- Two jobs were done at one time and one after them; a fourth is not done. -/
def threeDone : JobQueue Nat Nat String String where
  done :=
    { entries := [(1, 5), (2, 5), (3, 9)]
      ordered := by decide
      nodup := by decide }
  data := fun id => if id ≤ 4 then some "job" else none
  results := fun id => if id ≤ 3 then some "result" else none

theorem vacuum_eq_purge_of_three :
    (∃ calls, ∀ maxBatchesPerTick, calls ≤ maxBatchesPerTick →
        handleVacuumJobsCronTick 5 1 maxBatchesPerTick threeDone =
          (.vacuumed (threeDone.done.upTo 5).length calls, purge 5 threeDone)) ∧
      OnlyPurged (threeDone.done.upTo 5) threeDone (purge 5 threeDone) :=
  vacuum_eq_purge (by decide) 5 threeDone

end Batches

end UniversalInbox.VacuumJobs
