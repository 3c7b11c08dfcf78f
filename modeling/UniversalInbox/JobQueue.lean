import Mathlib.Data.List.Basic

/-! Jobs pushed to the queue with `Retry::spawn`. A push whose reply is lost has stored its job all
the same, and is tried again. -/
namespace UniversalInbox.JobQueue

/-- What one attempt to push a job comes to; an error may be reported after Redis has stored
the job. -/
inductive PushAttempt where
  | acknowledged
  | unacknowledged
  | lost
deriving DecidableEq, Repr

/-- Redis has the job after the attempt. -/
def PushAttempt.stored : PushAttempt → Bool
  | .acknowledged | .unacknowledged => true
  | .lost => false

/-- `Retry::spawn`: attempts until one is acknowledged. How many copies of the job reach the
queue, and whether the push succeeds. -/
def retrySpawn : List PushAttempt → Nat × Bool
  | [] => (0, false)
  | .acknowledged :: _ => (1, true)
  | .unacknowledged :: rest => ((retrySpawn rest).1 + 1, (retrySpawn rest).2)
  | .lost :: rest => retrySpawn rest

/-- The first attempt and `ExponentialBackoff::from_millis(10).take(10)`. -/
def maxAttempts : Nat := 11

/-- What a push that succeeds leaves in the queue: at least one copy, and no second one as long as
no reply is lost. -/
theorem retrySpawn_copies {attempts : List PushAttempt} (hok : (retrySpawn attempts).2 = true) :
    1 ≤ (retrySpawn attempts).1 ∧
      (PushAttempt.unacknowledged ∉ attempts → (retrySpawn attempts).1 = 1) := by
  induction attempts with
  | nil => cases hok
  | cons attempt rest ih =>
    cases attempt with
    | acknowledged => exact ⟨Nat.le_refl _, fun _ => rfl⟩
    | unacknowledged =>
      exact ⟨Nat.le_add_left _ _, fun hreplies => (hreplies List.mem_cons_self).elim⟩
    | lost =>
      obtain ⟨hone, hexact⟩ := ih hok
      exact ⟨hone, fun hreplies => hexact fun hmem => hreplies (List.mem_cons_of_mem _ hmem)⟩

end UniversalInbox.JobQueue
