import UniversalInbox.Library.I64
import UniversalInbox.Library.Saturation
import UniversalInbox.SyncServices

/-! How long a connection is left alone after failed syncs, as the types of its computation allow. A
panic is `none`. -/
namespace UniversalInbox.SyncBackoff
open Saturation
open SyncServices (SyncSettings Connections SyncRequest selectsToSync)
open SyncClaims (startSyncedBefore)

/-- The most seconds that a `TimeDelta` holds: its milliseconds are an `i64`. -/
def maxSeconds : Nat := 9223372036854775

/-- A `TimeDelta` of whole seconds. -/
structure TimeDelta where
  numSeconds : Int
  bounded : numSeconds.natAbs ≤ maxSeconds
deriving DecidableEq

def TimeDelta.zero : TimeDelta := ⟨0, Nat.zero_le _⟩

def TimeDelta.seconds (n : I64) : Option TimeDelta :=
  if h : n.val.natAbs ≤ maxSeconds then some ⟨n.val, h⟩ else none

/-- `as i64`. -/
def asI64 (word : UInt64) : I64 := ⟨I64.wrap word.toNat, I64.wrap_inRange _⟩

def syncBackoffDelay (failures : Nat) (baseDelaySeconds maxDelaySeconds : UInt64) :
    Option TimeDelta :=
  if failures = 0 then some .zero
  else
    let exponent := failures - 1
    let delaySecs :=
      min (saturatingMul baseDelaySeconds ((checkedShl 1 exponent).getD maxWord)) maxDelaySeconds
    TimeDelta.seconds (asI64 delaySecs)

/-- The first instant of the year -262143, and below the last one of the year 262142. -/
def minDateTime : DateTime := -8334601228800 * 1000000000

def maxDateTime : DateTime := 8210266876800 * 1000000000 - 1

/-- `DateTime + TimeDelta`. -/
def addTimeDelta (t : DateTime) (delta : TimeDelta) : Option DateTime :=
  let sum := t + delta.numSeconds * 1000000000
  if minDateTime ≤ sum ∧ sum ≤ maxDateTime then some sum else none

def isSyncInBackoff (failures : Nat) (lastFailedAt : Option DateTime)
    (baseDelaySeconds maxDelaySeconds : UInt64) (now : DateTime) : Option Bool :=
  if failures = 0 then some false
  else
    match lastFailedAt with
    | none => some false
    | some failedAt => do
      let backoff ← syncBackoffDelay failures baseDelaySeconds maxDelaySeconds
      let resumedAt ← addTimeDelta failedAt backoff
      return now < resumedAt

/-- `is_notifications_sync_in_backoff` and `is_tasks_sync_in_backoff`. -/
def inBackoff (settings : SyncSettings) (row : IntegrationConnectionRow)
    (type : IntegrationConnectionSyncType) (now : DateTime) : Option Bool :=
  isSyncInBackoff (row.sync type).failures (row.sync type).failedAt
    settings.syncBackoffBaseDelayInSeconds settings.syncBackoffMaxDelayInSeconds now

section Connection
variable (settings : SyncSettings) (connections : Connections) (request : SyncRequest)

/-- The clock is read for the interval and for the backoff. -/
def getIntegrationConnectionToSync (minSyncIntervalInMinutes : Int) (dueAt backoffAt : DateTime) :
    Option (Option IntegrationConnectionRow) :=
  let syncedBefore := startSyncedBefore minSyncIntervalInMinutes dueAt
  match connections.table.rows.find? (selectsToSync request syncedBefore) with
  | none => some none
  | some connection => do
    let inBackoff ← inBackoff settings connection request.type backoffAt
    return if inBackoff then none else some connection

end Connection

/-- The delay that is meant: the base, doubled by every further failure, up to the maximum. -/
def exactDelay (failures baseDelaySeconds maxDelaySeconds : Nat) : Nat :=
  if failures = 0 then 0 else min maxDelaySeconds (baseDelaySeconds * 2 ^ (failures - 1))

/-- The delay comes out exactly, and so does that after fewer failures, which is no longer. -/
structure ExactAndMonotone (failures : Nat) (baseDelaySeconds maxDelaySeconds : UInt64) : Prop where
  exact : ∃ delay, syncBackoffDelay failures baseDelaySeconds maxDelaySeconds = some delay ∧
    delay.numSeconds = exactDelay failures baseDelaySeconds.toNat maxDelaySeconds.toNat
  monotone : ∀ fewer ≤ failures, ∃ shorter delay,
    syncBackoffDelay fewer baseDelaySeconds maxDelaySeconds = some shorter ∧
      syncBackoffDelay failures baseDelaySeconds maxDelaySeconds = some delay ∧
        shorter.numSeconds ≤ delay.numSeconds

section Delay
variable {failures fewer : Nat} {baseDelaySeconds maxDelaySeconds : UInt64}

theorem exactDelay_mono (base bound : Nat) (h : fewer ≤ failures) :
    exactDelay fewer base bound ≤ exactDelay failures base bound := by
  unfold exactDelay
  split
  · exact Nat.zero_le _
  · next hfewer =>
    rw [if_neg fun hzero : failures = 0 => hfewer (Nat.le_zero.mp (hzero ▸ h))]
    exact min_le_min_left _ (Nat.mul_le_mul_left _ (Nat.pow_le_pow_right (by decide) (by omega)))

/-- What is left after the sum is exact is the cast and the type of the result. -/
theorem syncBackoffDelay_eq (baseDelaySeconds maxDelaySeconds : UInt64) (hfailures : failures ≠ 0) :
    ∃ delaySecs : UInt64,
      delaySecs.toNat = exactDelay failures baseDelaySeconds.toNat maxDelaySeconds.toNat ∧
        syncBackoffDelay failures baseDelaySeconds maxDelaySeconds =
          TimeDelta.seconds (asI64 delaySecs) := by
  unfold syncBackoffDelay exactDelay
  rw [if_neg hfailures, if_neg hfailures]
  exact ⟨_, toNat_min_saturatingMul _ _ _, rfl⟩

theorem wrap_of_le {n : Nat} (h : n ≤ maxSeconds) : I64.wrap n = n := by
  unfold I64.wrap
  unfold maxSeconds at h
  omega

theorem exact_of_le
    (h : exactDelay failures baseDelaySeconds.toNat maxDelaySeconds.toNat ≤ maxSeconds) :
    ∃ delay, syncBackoffDelay failures baseDelaySeconds maxDelaySeconds = some delay ∧
      delay.numSeconds = exactDelay failures baseDelaySeconds.toNat maxDelaySeconds.toNat := by
  by_cases hfailures : failures = 0
  · subst hfailures
    exact ⟨.zero, rfl, rfl⟩
  · obtain ⟨delaySecs, hexact, hdelay⟩ :=
      syncBackoffDelay_eq baseDelaySeconds maxDelaySeconds hfailures
    have hval : (asI64 delaySecs).val = (delaySecs.toNat : Int) := wrap_of_le (hexact ▸ h)
    have hbounded : (asI64 delaySecs).val.natAbs ≤ maxSeconds := by
      rw [hval, Int.natAbs_natCast, hexact]
      exact h
    refine ⟨⟨_, hbounded⟩, hdelay.trans (dif_pos hbounded), ?_⟩
    dsimp only
    rw [hval, hexact]

end Delay

/-! The syncs of the other modules, whose settings are such that nothing panics. -/

section Agreement
variable {failures : Nat} {baseDelaySeconds maxDelaySeconds : UInt64} {settings : SyncSettings}
  {connections : Connections} {request : SyncRequest} {instants : SyncServices.SyncInstants}
  {forceSync : Bool}

theorem syncBackoffDelay_services
    (h : exactDelay failures baseDelaySeconds.toNat maxDelaySeconds.toNat ≤ maxSeconds) :
    SyncServices.syncBackoffDelay failures baseDelaySeconds maxDelaySeconds =
      exactDelay failures baseDelaySeconds.toNat maxDelaySeconds.toNat := by
  unfold SyncServices.syncBackoffDelay
  split
  · next hzero => rw [hzero]; rfl
  · next hfailures =>
    have hsum := toNat_min_saturatingMul baseDelaySeconds maxDelaySeconds (failures - 1)
    rw [toNat_min, toNat_saturatingMul, toNat_checkedShl_getD] at hsum
    rw [exactDelay, if_neg hfailures] at h ⊢
    dsimp only
    rw [show (2 : Nat) ^ 64 - 1 = maxWord.toNat by decide, hsum]
    refine Int.bmod_eq_of_le ?_ ?_ <;> unfold maxSeconds at h <;> omega

/-- The delay and its end fit their types. -/
structure Representable (settings : SyncSettings) (columns : SyncColumns) : Prop where
  delay : exactDelay columns.failures settings.syncBackoffBaseDelayInSeconds.toNat
    settings.syncBackoffMaxDelayInSeconds.toNat ≤ maxSeconds
  ends : ∀ failedAt ∈ columns.failedAt, minDateTime ≤ failedAt ∧
    failedAt + exactDelay columns.failures settings.syncBackoffBaseDelayInSeconds.toNat
      settings.syncBackoffMaxDelayInSeconds.toNat * 1000000000 ≤ maxDateTime

theorem isSyncInBackoff_services {columns : SyncColumns} {now : DateTime}
    (h : Representable settings columns) :
    isSyncInBackoff columns.failures columns.failedAt settings.syncBackoffBaseDelayInSeconds
        settings.syncBackoffMaxDelayInSeconds now =
      some (SyncServices.isSyncInBackoff settings columns now) := by
  unfold isSyncInBackoff SyncServices.isSyncInBackoff
  split
  · rfl
  · cases hfailed : columns.failedAt with
    | none => rfl
    | some failedAt =>
      obtain ⟨delay, hdelay, hexact⟩ := exact_of_le h.delay
      obtain ⟨hmin, hmax⟩ := h.ends failedAt hfailed
      have hsum : addTimeDelta failedAt delay =
          some (failedAt + delay.numSeconds * 1000000000) := by
        refine if_pos ⟨?_, ?_⟩
        · rw [hexact]
          exact hmin.trans (Int.le_add_of_nonneg_right
            (Int.mul_nonneg (Int.natCast_nonneg _) (by decide)))
        · rw [hexact]
          exact hmax
      dsimp only
      rw [hdelay, Option.bind_eq_bind, Option.bind_some, hsum, Option.bind_eq_bind,
        Option.bind_some, hexact, syncBackoffDelay_services h.delay]
      rfl

theorem getIntegrationConnectionToSync_services
    (h : ∀ row ∈ connections.table.rows, Representable settings (row.sync request.type)) :
    getIntegrationConnectionToSync settings connections request
        (SyncServices.minSyncInterval settings request.type forceSync) instants.dueAt
        instants.backoffAt =
      some (SyncServices.getIntegrationConnectionToSync settings connections request forceSync
        instants) := by
  unfold getIntegrationConnectionToSync SyncServices.getIntegrationConnectionToSync
  dsimp only
  split
  · next hnone => rw [hnone]; rfl
  · next connection hfound =>
    unfold inBackoff
    rw [isSyncInBackoff_services (h connection (List.mem_of_find?_eq_some hfound)), hfound,
      Option.bind_eq_bind, Option.bind_some, Option.filter_some]
    cases SyncServices.isSyncInBackoff settings (connection.sync request.type) instants.backoffAt
    · rfl
    · rfl

end Agreement

/-- The delay is exact just in case the one that is meant has as many milliseconds as an `i64`
holds. -/
theorem exactAndMonotone_iff (failures : Nat) (baseDelaySeconds maxDelaySeconds : UInt64) :
    ExactAndMonotone failures baseDelaySeconds maxDelaySeconds ↔
      failures = 0 ∨
        min maxDelaySeconds.toNat (baseDelaySeconds.toNat * 2 ^ (failures - 1)) ≤
          9223372036854775 := by
  have hcondition : (failures = 0 ∨
      min maxDelaySeconds.toNat (baseDelaySeconds.toNat * 2 ^ (failures - 1)) ≤ maxSeconds) ↔
      exactDelay failures baseDelaySeconds.toNat maxDelaySeconds.toNat ≤ maxSeconds := by
    unfold exactDelay
    split
    · next hzero => exact ⟨fun _ => Nat.zero_le _, fun _ => .inl hzero⟩
    · next hfailures => exact or_iff_right hfailures
  refine Iff.trans ⟨fun h => ?_, fun h => ?_⟩ hcondition.symm
  · obtain ⟨delay, -, hexact⟩ := h.exact
    have hbounded := delay.bounded
    rwa [hexact, Int.natAbs_natCast] at hbounded
  · refine ⟨exact_of_le h, fun fewer hfewer => ?_⟩
    have hmono := exactDelay_mono baseDelaySeconds.toNat maxDelaySeconds.toNat hfewer
    obtain ⟨shorter, hshorter, hexact⟩ := exact_of_le (hmono.trans h)
    obtain ⟨delay, hdelay, hexact'⟩ := exact_of_le h
    refine ⟨shorter, delay, hshorter, hdelay, ?_⟩
    rw [hexact, hexact']
    exact Int.ofNat_le.mpr hmono

/-- After one failure with the longest delays there are, the delay is negative. -/
theorem longestDelays_not_exact :
    (syncBackoffDelay 1 18446744073709551615 18446744073709551615).map (·.numSeconds) = some (-1) ∧
      ¬ ExactAndMonotone 1 18446744073709551615 18446744073709551615 := by
  refine ⟨by decide +kernel, fun h => ?_⟩
  obtain ⟨delay, hdelay, hexact⟩ := h.exact
  have hbounded := delay.bounded
  rw [hexact] at hbounded
  exact absurd hbounded (by decide +kernel)

/-- With delays one second beyond what a `TimeDelta` holds, it panics. -/
example : syncBackoffDelay 1 9223372036854776 9223372036854776 = none := by decide +kernel

end UniversalInbox.SyncBackoff
