import Mathlib.Data.UInt
import UniversalInbox.Library.Binary64
import UniversalInbox.Library.Table
import UniversalInbox.Library.Transition

/-! The throttle of failed logins: its script, what the API makes of the answers, and the logins
of one account in any order. -/
namespace UniversalInbox.LoginThrottle
open Transition
open Binary64 (Value ofInt)

structure LocalAuthenticationSettings where
  maxLoginAttempts : UInt32
  loginAttemptWindowSeconds : UInt64
  loginLockoutBaseSeconds : UInt64
  loginLockoutMaxSeconds : UInt64

def saturatingMul (a b : ℕ) : ℕ := min (a * b) (2 ^ 64 - 1)

def saturatingPow (a b : ℕ) : ℕ := min (a ^ b) (2 ^ 64 - 1)

/-- The reference curve, here for every count. -/
def backoffSeconds (failCount : ℕ) (settings : LocalAuthenticationSettings) : ℕ :=
  if failCount < settings.maxLoginAttempts.toNat then 0
  else
    let exponent := failCount - settings.maxLoginAttempts.toNat
    let factor := saturatingPow 2 exponent
    min (saturatingMul settings.loginLockoutBaseSeconds.toNat factor)
      settings.loginLockoutMaxSeconds.toNat

/-- The hash under the throttle key of an account. -/
structure LoginThrottleHash where
  failCount : ℕ
  lockedUntil : Option Value
  deriving DecidableEq

/-- `HINCRBY key fail_count 1`: refused when the count does not fit an `i64`. -/
def hincrby : Option LoginThrottleHash → Option LoginThrottleHash
  | none => some ⟨1, none⟩
  | some hash => if hash.failCount + 1 < 2 ^ 63 then some { hash with failCount := hash.failCount + 1 }
    else none

/-- `EXPIRE` refuses a time at which, in milliseconds, the clock does not fit an `i64`. -/
def expires (clock : ℕ) : Value → Bool
  | .finite ttl => decide (1000 * (clock + ttl) < 2 ^ 63)
  | .infinite _ | .nan => false

/-- A number as a reply: what does not fit an `i64` is converted as x86-64 does. -/
def replyInteger : Value → ℤ
  | .finite n => if -2 ^ 63 ≤ n ∧ n < 2 ^ 63 then n else -2 ^ 63
  | .infinite _ | .nan => -2 ^ 63

structure ScriptReply where
  failCount : ℤ
  lockedUntil : ℤ
  newlyLocked : ℤ

/-- `login_throttle.lua`, from the `EXPIRE` on; what has been written stays when it fails. -/
def expireAndReply (clock : ℕ) (now window : Value) (hash : LoginThrottleHash) (lockedUntil : Value)
    (newlyLocked : ℤ) : Option LoginThrottleHash × Option ScriptReply :=
  let remaining := lockedUntil.sub now
  let ttl := if window.lt remaining then remaining else window
  (some hash, if expires clock ttl then
    some ⟨replyInteger (ofInt hash.failCount), replyInteger lockedUntil, newlyLocked⟩ else none)

/-- `login_throttle.lua`, called with `now` while the server's clock reads `clock`. The product is
an integer, so `math.floor` leaves it alone. -/
def loginThrottle (settings : LocalAuthenticationSettings) (clock now : ℕ)
    (hash? : Option LoginThrottleHash) : Option LoginThrottleHash × Option ScriptReply :=
  let now := ofInt now
  let maxAttempts := ofInt settings.maxLoginAttempts.toNat
  let window := ofInt settings.loginAttemptWindowSeconds.toNat
  let base := ofInt settings.loginLockoutBaseSeconds.toNat
  let maxLock := ofInt settings.loginLockoutMaxSeconds.toNat
  match hincrby hash? with
  | none => (hash?, none)
  | some hash =>
    let count := ofInt hash.failCount
    if maxAttempts.le count then
      let exponent := count.sub maxAttempts
      let product := base.mul exponent.exp2
      let lock := if maxLock.lt product then maxLock else product
      let lockedUntil := now.add lock
      let prev := hash.lockedUntil.getD (.finite 0)
      let newlyLocked := if prev.le now then 1 else 0
      expireAndReply clock now window { hash with lockedUntil := some lockedUntil } lockedUntil
        newlyLocked
    else expireAndReply clock now window hash (.finite 0) 0

structure FailureOutcome where
  failCount : ℕ
  locked : Bool
  newlyLocked : Bool
  retryAfterSeconds : ℕ
  deriving DecidableEq

/-- `record_failure` reads its answer; a failed script is an error. -/
def failureOutcome (now : ℕ) (reply : ScriptReply) : FailureOutcome where
  failCount := reply.failCount.toNat % 2 ^ 32
  locked := decide ((now : ℤ) < reply.lockedUntil)
  newlyLocked := reply.newlyLocked == 1
  retryAfterSeconds := (Int.bmod (reply.lockedUntil - now) (2 ^ 64)).toNat

/-- `hget` of a number as an `i64`: Redis keeps it with 17 digits, with an exponent beyond. -/
def hgetInteger : Value → Option ℤ
  | .finite n => if n.natAbs < 10 ^ 17 then some n else none
  | .infinite _ | .nan => none

/-- `locked_for`, with what it has read; `none` is an error, at which the login goes on. -/
def lockedFor (now : ℕ) : Option Value → Option (Option ℕ)
  | none => some none
  | some lockedUntil =>
    (hgetInteger lockedUntil).map fun lockedUntil =>
      if (now : ℤ) < lockedUntil then some (lockedUntil - now).toNat else none

/-- A login after the read of `locked_until`, while its password is checked, and after the clock
has been read for a wrong one. -/
inductive LoginPhase where
  | read (lockedUntil : Option Value)
  | checkingPassword
  | failed (now : ℕ)
  deriving DecidableEq

structure Login where
  id : ℕ
  phase : LoginPhase

/-- One account, its throttle and its logins. The instants of the failures since the last reset
and the times `newly_locked` was returned since the account is locked are kept for the statements
only. -/
structure State where
  clock : ℕ
  hash : Option LoginThrottleHash
  logins : Table Login.id
  failures : List ℕ
  notices : ℕ

inductive Input where
  | tick (seconds : ℕ)
  | begin (id : ℕ)
  | check (id : ℕ)
  | fail (id : ℕ)
  | record (id : ℕ)
  | succeed (id : ℕ)
  | abort (id : ℕ)

def State.lockedUntil? (s : State) : Option Value := s.hash.bind LoginThrottleHash.lockedUntil

def State.locked (s : State) : Bool := s.lockedUntil?.any fun lockedUntil =>
  Value.lt (.finite s.clock) lockedUntil

/-- Counts the notices of a period in which the account stays locked. -/
def settle (s t : State) (newlyLocked : Bool) : State :=
  { t with notices := (if s.locked && t.locked then s.notices else 0) + newlyLocked.toNat }

def setPhase (s : State) (x : Login) (phase : LoginPhase) : State :=
  { s with logins := s.logins.put { x with phase } }

/-- The script of a failed login runs. -/
def recordFailure (settings : LocalAuthenticationSettings) (s : State) (id now : ℕ) : State :=
  let answer := loginThrottle settings s.clock now s.hash
  settle s { s with
    hash := answer.1
    logins := s.logins.erase id
    failures := now :: s.failures }
    (answer.2.any fun reply => (failureOutcome now reply).newlyLocked)

def reset (s : State) (id : ℕ) : State :=
  settle s { s with hash := none, logins := s.logins.erase id, failures := [] } false

def step (settings : LocalAuthenticationSettings) (s : State) : Input → Option State
  | .tick seconds => some (settle s { s with clock := s.clock + seconds } false)
  | .begin id => (s.logins.insert? ⟨id, .read s.lockedUntil?⟩).map fun logins => { s with logins }
  | .check id =>
    (s.logins.find? id).bind fun x =>
      match x.phase with
      | .read lockedUntil =>
        match lockedFor s.clock lockedUntil with
        | some (some _) => some { s with logins := s.logins.erase id }
        | some none | none => some (setPhase s x .checkingPassword)
      | .checkingPassword | .failed _ => none
  | .fail id =>
    (s.logins.find? id).bind fun x =>
      match x.phase with
      | .checkingPassword => some (setPhase s x (.failed s.clock))
      | .read _ | .failed _ => none
  | .record id =>
    (s.logins.find? id).bind fun x =>
      match x.phase with
      | .failed now => some (recordFailure settings s id now)
      | .read _ | .checkingPassword => none
  | .succeed id =>
    (s.logins.find? id).bind fun x =>
      match x.phase with
      | .checkingPassword => some (reset s id)
      | .read _ | .failed _ => none
  | .abort id => (s.logins.find? id).map fun _ => { s with logins := s.logins.erase id }

def initial (clock : ℕ) : State := ⟨clock, none, Table.empty, [], 0⟩

/-- What the reference curve says of the state after these failures since the last reset. -/
def referenceHash (settings : LocalAuthenticationSettings) : List ℕ → Option LoginThrottleHash
  | [] => none
  | now :: earlier =>
    let failCount := earlier.length + 1
    some ⟨failCount, if failCount < settings.maxLoginAttempts.toNat then none
      else some (.finite ((now + backoffSeconds failCount settings : ℕ) : ℤ))⟩

/-- The throttle follows its curve, `locked_until` goes forwards, and `newly_locked` has been
returned once in a period in which the account is locked, and not at all outside of one. -/
structure FollowsReference (settings : LocalAuthenticationSettings) (s t : State) : Prop where
  curve : t.hash = referenceHash settings t.failures
  forwards : ∀ before ∈ s.lockedUntil?, ∀ after ∈ t.lockedUntil?, before.le after = true
  once : t.notices = t.locked.toNat

section Curve
variable {settings : LocalAuthenticationSettings} {failCount : ℕ}

theorem backoffSeconds_of_lt (h : failCount < settings.maxLoginAttempts.toNat) :
    backoffSeconds failCount settings = 0 := if_pos h

/-- The two saturations are hidden by the cap. -/
theorem backoffSeconds_of_le (h : settings.maxLoginAttempts.toNat ≤ failCount) :
    backoffSeconds failCount settings =
      min (settings.loginLockoutBaseSeconds.toNat * 2 ^ (failCount - settings.maxLoginAttempts.toNat))
        settings.loginLockoutMaxSeconds.toNat := by
  rw [backoffSeconds, if_neg (not_lt.mpr h)]
  generalize hbase : settings.loginLockoutBaseSeconds.toNat = base
  generalize hfactor : 2 ^ (failCount - settings.maxLoginAttempts.toNat) = factor
  have hmax : settings.loginLockoutMaxSeconds.toNat ≤ 2 ^ 64 - 1 :=
    Nat.le_sub_one_of_lt settings.loginLockoutMaxSeconds.toNat_lt
  simp only [saturatingMul, saturatingPow, hfactor]
  rw [min_assoc, min_eq_right hmax]
  rcases le_or_gt factor (2 ^ 64 - 1) with hle | hlt
  · rw [min_eq_left hle]
  · rw [min_eq_right hlt.le]
    rcases Nat.eq_zero_or_pos base with rfl | hpos
    · simp
    · have hsmall : settings.loginLockoutMaxSeconds.toNat ≤ base * (2 ^ 64 - 1) :=
        hmax.trans (Nat.le_mul_of_pos_left _ hpos)
      rw [min_eq_right hsmall, min_eq_right (hsmall.trans (Nat.mul_le_mul_left _ hlt.le))]

theorem exp2_exponent {k m : ℕ} (hm : m < 2 ^ 32) (h : m ≤ k) :
    ((ofInt k).sub (ofInt m)).exp2 =
      if k - m < 1024 then .finite ((2 ^ (k - m) : ℕ) : ℤ) else .infinite false := by
  rw [Binary64.ofInt_of_le (hm.le.trans (by decide))]
  rcases le_or_gt k (2 ^ 53) with hk | hk
  · rw [Binary64.ofInt_of_le hk, Binary64.ofInt_sub h hk, Value.exp2]
    split <;> rename_i hlt
    · rw [if_pos (by omega), Int.toNat_natCast, Nat.cast_pow]; rfl
    · rw [if_neg (by omega)]
  · rw [if_neg (by omega)]
    have hcount : Binary64.AtLeast (1024 + m) (ofInt k) :=
      Binary64.atLeast_ofInt (by omega) (by omega)
    exact (hcount.sub (by decide)).exp2

theorem product_atLeast {base exponent lock : ℕ} (h : lock ≤ base * 2 ^ exponent)
    (hpos : 0 < lock) (hlock : lock ≤ 2 ^ 53) :
    Binary64.AtLeast lock ((ofInt base).mul
      (if exponent < 1024 then .finite ((2 ^ exponent : ℕ) : ℤ) else .infinite false)) := by
  have hbase : 0 < base := Nat.pos_of_mul_pos_right (hpos.trans_le h)
  split
  · rcases le_or_gt base (2 ^ 53) with hle | hlt
    · exact Binary64.AtLeast.mul h hpos hlock (Binary64.atLeast_ofInt le_rfl hle)
        (le_refl (((2 ^ exponent : ℕ) : ℤ)))
    · exact Binary64.AtLeast.mul (hlock.trans (Nat.le_mul_of_pos_right _ (Nat.two_pow_pos _))) hpos
        hlock (Binary64.atLeast_ofInt hlt.le le_rfl) (le_refl (((2 ^ exponent : ℕ) : ℤ)))
  · have hbase : Binary64.AtLeast 1 (ofInt base) := Binary64.atLeast_ofInt hbase (by decide)
    exact Binary64.AtLeast.mul (b := lock) (one_mul lock).ge hpos hlock hbase rfl

/-- The lock of the script is the one of the curve, where seconds are exact and there is a lock. -/
theorem lock_eq {base exponent maxLock : ℕ} (hpos : 0 < min (base * 2 ^ exponent) maxLock)
    (hle : min (base * 2 ^ exponent) maxLock ≤ 2 ^ 53) {product : Value}
    (hproduct : product = (ofInt base).mul
      (if exponent < 1024 then .finite ((2 ^ exponent : ℕ) : ℤ) else .infinite false)) :
    (if (ofInt maxLock).lt product then ofInt maxLock else product) =
      .finite ((min (base * 2 ^ exponent) maxLock : ℕ) : ℤ) := by
  rcases le_or_gt maxLock (base * 2 ^ exponent) with hcap | hcap
  · rw [min_eq_right hcap] at hpos hle ⊢
    have hatLeast := product_atLeast hcap hpos hle
    rw [Binary64.ofInt_of_le hle, hproduct, hatLeast.cap]
  · rw [min_eq_left hcap.le] at hpos hle ⊢
    have hbase : base ≤ 2 ^ 53 :=
      (Nat.le_mul_of_pos_right base (Nat.two_pow_pos exponent)).trans hle
    have hfactor : 2 ^ exponent ≤ 2 ^ 53 :=
      (Nat.le_mul_of_pos_left _ (Nat.pos_of_mul_pos_right hpos)).trans hle
    have hexponent : exponent < 1024 := by
      have := (Nat.pow_le_pow_iff_right (by decide : 1 < 2)).mp hfactor
      omega
    have hexact : product = .finite ((base * 2 ^ exponent : ℕ) : ℤ) := by
      rw [hproduct, if_pos hexponent, Binary64.ofInt_of_le hbase]
      show ofInt ((base : ℤ) * (2 ^ exponent : ℕ)) = _
      rw [← Nat.cast_mul, Binary64.ofInt_of_le hle]
    have hmax := Binary64.atLeast_ofInt hcap.le hle
    rw [hexact, hmax.lt_eq_false, if_neg Bool.false_ne_true]

/-- What the script makes of a failure that locks. -/
theorem loginThrottle_locks {clock now : ℕ} {hash? : Option LoginThrottleHash}
    {hash : LoginThrottleHash} (hcount : hincrby hash? = some hash)
    (hmax : settings.maxLoginAttempts.toNat ≤ hash.failCount)
    (hpos : 0 < backoffSeconds hash.failCount settings)
    (hle : now + backoffSeconds hash.failCount settings ≤ 2 ^ 53) :
    loginThrottle settings clock now hash? =
      expireAndReply clock (.finite now) (ofInt settings.loginAttemptWindowSeconds.toNat)
        { hash with
          lockedUntil := some (.finite ((now + backoffSeconds hash.failCount settings : ℕ) : ℤ)) }
        (.finite ((now + backoffSeconds hash.failCount settings : ℕ) : ℤ))
        (if (hash.lockedUntil.getD (.finite 0)).le (.finite now) then 1 else 0) := by
  have hattempts : settings.maxLoginAttempts.toNat < 2 ^ 32 := settings.maxLoginAttempts.toNat_lt
  have hbackoff := backoffSeconds_of_le hmax
  have hlock := lock_eq (hbackoff ▸ hpos) (hbackoff ▸ (Nat.le_add_left _ _).trans hle) rfl
  rw [loginThrottle, hcount]
  simp only [Binary64.le_ofInt (hattempts.le.trans (by decide)), decide_eq_true hmax, if_true,
    exp2_exponent hattempts hmax, hlock, ← hbackoff,
    Binary64.ofInt_of_le ((Nat.le_add_right _ _).trans hle), Binary64.ofInt_add hle]

theorem loginThrottle_below {clock now : ℕ} {hash? : Option LoginThrottleHash}
    {hash : LoginThrottleHash} (hcount : hincrby hash? = some hash)
    (hmax : hash.failCount < settings.maxLoginAttempts.toNat) :
    loginThrottle settings clock now hash? =
      expireAndReply clock (ofInt now) (ofInt settings.loginAttemptWindowSeconds.toNat) hash
        (.finite 0) 0 := by
  have hattempts : settings.maxLoginAttempts.toNat < 2 ^ 32 := settings.maxLoginAttempts.toNat_lt
  rw [loginThrottle, hcount]
  simp only [Binary64.le_ofInt (hattempts.le.trans (by decide)), decide_eq_false (not_le.mpr hmax),
    Bool.false_eq_true, if_false]

end Curve

def LoginPhase.failed? : LoginPhase → Option ℕ
  | .failed now => some now
  | .read _ | .checkingPassword => none

/-- The failure locks the account until a second that binary64 counts exactly, still to come and not
before the end of the stored lock, which has not ended since the clock was read; and a key of an
account not locked yet is given a time to live that Redis accepts. -/
structure LockGuard (settings : LocalAuthenticationSettings) (s : State) (now : ℕ) : Prop where
  exact : now + backoffSeconds (s.failures.length + 1) settings ≤ 2 ^ 53
  future : s.clock < now + backoffSeconds (s.failures.length + 1) settings
  forwards : ∀ before ∈ s.lockedUntil?,
    before.le (.finite ((now + backoffSeconds (s.failures.length + 1) settings : ℕ) : ℤ)) = true
  current : ∀ before ∈ s.lockedUntil?, before.le (.finite now) = true ∨ s.locked = true
  expires : s.locked = true ∨
    expires s.clock (ofInt (max settings.loginAttemptWindowSeconds.toNat
      (backoffSeconds (s.failures.length + 1) settings) : ℕ)) = true

/-- The count fits, and a failure that is to lock meets its guard. -/
structure FailureGuard (settings : LocalAuthenticationSettings) (s : State) (now : ℕ) : Prop where
  countable : s.failures.length + 1 < 2 ^ 63
  lock : settings.maxLoginAttempts.toNat ≤ s.failures.length + 1 → LockGuard settings s now

def ThrottleGuard (settings : LocalAuthenticationSettings) (s : State) : Input → Prop
  | .record id => ∀ x ∈ s.logins.rows, x.id = id → ∀ now ∈ x.phase.failed?, FailureGuard settings s now
  | _ => True

/-- The state is the one of the curve, and the clock of a failure was read before. -/
structure ThrottleInv (settings : LocalAuthenticationSettings) (s : State) : Prop where
  curve : s.hash = referenceHash settings s.failures
  once : s.notices = s.locked.toNat
  clocks : ∀ x ∈ s.logins.rows, ∀ now ∈ x.phase.failed?, now ≤ s.clock

section Run
variable {settings : LocalAuthenticationSettings} {s t : State}

theorem hincrby_reference (settings : LocalAuthenticationSettings) {failures : List ℕ}
    (h : failures.length + 1 < 2 ^ 63) :
    ∃ hash, hincrby (referenceHash settings failures) = some hash ∧
      hash.failCount = failures.length + 1 ∧
      hash.lockedUntil = (referenceHash settings failures).bind LoginThrottleHash.lockedUntil := by
  cases failures with
  | nil => exact ⟨⟨1, none⟩, rfl, rfl, rfl⟩
  | cons last earlier => exact ⟨_, if_pos h, rfl, rfl⟩

/-- The time to live of the script is the longer of the window and the lock. -/
theorem longer_eq {window lock : ℕ} (hlock : lock ≤ 2 ^ 53) :
    (if (ofInt window).lt (.finite lock) then .finite lock else ofInt window) =
      ofInt (max window lock : ℕ) := by
  rcases le_or_gt lock window with h | h
  · rw [(Binary64.atLeast_ofInt h hlock).lt_eq_false, if_neg Bool.false_ne_true, max_eq_left h]
  · have hlt : Binary64.AtLeast lock (.finite lock) := le_refl (lock : ℤ)
    rw [Binary64.ofInt_of_le (h.le.trans hlock), hlt.lt h, if_pos rfl, max_eq_right h.le,
      Binary64.ofInt_of_le hlock]

/-- The key lives as long as the window and the lock. -/
theorem expireAndReply_ttl {clock now window lock : ℕ} {hash : LoginThrottleHash} {newlyLocked : ℤ}
    (hle : now + lock ≤ 2 ^ 53) (hexpires : expires clock (ofInt (max window lock : ℕ)) = true) :
    (expireAndReply clock (.finite now) (ofInt window) hash (.finite ((now + lock : ℕ) : ℤ))
      newlyLocked).2 =
        some ⟨replyInteger (ofInt hash.failCount), replyInteger (.finite ((now + lock : ℕ) : ℤ)),
          newlyLocked⟩ := by
  have hremaining : Value.sub (.finite ((now + lock : ℕ) : ℤ)) (.finite now) = .finite lock := by
    rw [Binary64.ofInt_sub (Nat.le_add_right now lock) hle, Nat.add_sub_cancel_left]
  simp only [expireAndReply, hremaining, longer_eq ((Nat.le_add_left _ _).trans hle), hexpires,
    if_true]

theorem lockedUntil?_of_inv (h : ThrottleInv settings s) :
    s.lockedUntil? = (referenceHash settings s.failures).bind LoginThrottleHash.lockedUntil := by
  rw [State.lockedUntil?, h.curve]

/-- Whether a failure at `now` takes the stored lock for over, or none for one. -/
def lockOver (s : State) (now : ℕ) : Bool := (s.lockedUntil?.getD (.finite 0)).le (.finite now)

theorem lockOver_of_locked {now : ℕ} (hnow : now ≤ s.clock) (h : s.locked = true) :
    lockOver s now = false := by
  rw [State.locked] at h
  cases huntil : s.lockedUntil? with
  | none => rw [huntil] at h; cases h
  | some lockedUntil =>
    rw [huntil, Option.any_some, Value.lt, Bool.and_eq_true, Bool.not_eq_true'] at h
    rw [lockOver, huntil, Option.getD_some]
    exact Bool.eq_false_iff.mpr fun hle =>
      Bool.false_ne_true (h.2.symm.trans (Value.le_finite (Int.ofNat_le.mpr hnow) hle))

theorem lockOver_of_guard {now : ℕ} (hguard : LockGuard settings s now) (h : s.locked = false) :
    lockOver s now = true := by
  cases huntil : s.lockedUntil? with
  | none => rw [lockOver, huntil]; exact decide_eq_true (Int.natCast_nonneg now)
  | some lockedUntil =>
    rw [lockOver, huntil, Option.getD_some]
    exact (hguard.current lockedUntil huntil).resolve_right (by rw [h]; exact Bool.false_ne_true)

theorem newlyLocked_expireAndReply {clock instant : ℕ} {now window lockedUntil : Value}
    {hash : LoginThrottleHash} :
    ((expireAndReply clock now window hash lockedUntil 0).2.any fun reply =>
      (failureOutcome instant reply).newlyLocked) = false := by
  dsimp only [expireAndReply]
  generalize expires clock _ = accepted
  cases accepted <;> rfl

/-- The answer to a failure that locks: the state of the curve, and a notice where the account was
not locked. -/
theorem loginThrottle_spec {now : ℕ} (h : ThrottleInv settings s) (hnow : now ≤ s.clock)
    (hguard : FailureGuard settings s now)
    (hmax : settings.maxLoginAttempts.toNat ≤ s.failures.length + 1) :
    (loginThrottle settings s.clock now s.hash).1 = referenceHash settings (now :: s.failures) ∧
      ((loginThrottle settings s.clock now s.hash).2.any fun reply =>
        (failureOutcome now reply).newlyLocked) = !s.locked := by
  obtain ⟨hash, hcount, hfail, huntil⟩ := hincrby_reference settings hguard.countable
  rw [← lockedUntil?_of_inv h] at huntil
  have hlock := hguard.lock hmax
  have hpos : 0 < backoffSeconds (s.failures.length + 1) settings := by
    have := hlock.future
    omega
  rw [h.curve, loginThrottle_locks hcount (hfail ▸ hmax) (hfail ▸ hpos) (hfail ▸ hlock.exact),
    hfail, huntil]
  refine ⟨by rw [referenceHash, if_neg (not_lt.mpr hmax)]; rfl, ?_⟩
  change (Option.any _ (expireAndReply _ _ _ _ _ (if lockOver s now then 1 else 0)).2) = _
  cases hlocked : s.locked with
  | true =>
    rw [lockOver_of_locked hnow hlocked]
    exact newlyLocked_expireAndReply
  | false =>
    have hexpires := hlock.expires.resolve_left (by rw [hlocked]; exact Bool.false_ne_true)
    rw [lockOver_of_guard hlock hlocked, if_pos rfl, expireAndReply_ttl hlock.exact hexpires]
    rfl

theorem loginThrottle_spec_below {now : ℕ} (h : ThrottleInv settings s)
    (hcountable : s.failures.length + 1 < 2 ^ 63)
    (hmax : s.failures.length + 1 < settings.maxLoginAttempts.toNat) :
    (loginThrottle settings s.clock now s.hash).1 = referenceHash settings (now :: s.failures) ∧
      ((loginThrottle settings s.clock now s.hash).2.any fun reply =>
        (failureOutcome now reply).newlyLocked) = false := by
  obtain ⟨hash, hcount, hfail, huntil⟩ := hincrby_reference settings hcountable
  have hnone : hash.lockedUntil = none := by
    rw [huntil]
    cases hfailures : s.failures with
    | nil => rfl
    | cons last earlier =>
      rw [hfailures, List.length_cons] at hmax
      exact if_pos (Nat.lt_of_succ_lt hmax)
  rw [h.curve, loginThrottle_below hcount (hfail ▸ hmax)]
  refine ⟨?_, newlyLocked_expireAndReply⟩
  obtain ⟨failCount, lockedUntil⟩ := hash
  show some _ = some _
  rw [if_pos hmax, ← hfail, ← hnone]

/-- What a step can do. -/
inductive Effect (settings : LocalAuthenticationSettings) (s : State) : Input → State → Prop
  | tick (seconds : ℕ) :
      Effect settings s (.tick seconds) (settle s { s with clock := s.clock + seconds } false)
  | advance {i : Input} {logins : Table Login.id} :
      (∀ x ∈ logins.rows, x ∈ s.logins.rows ∨ ∀ now ∈ x.phase.failed?, now = s.clock) →
      Effect settings s i { s with logins }
  | record {x : Login} {now : ℕ} : x ∈ s.logins.rows → now ∈ x.phase.failed? →
      Effect settings s (.record x.id) (recordFailure settings s x.id now)
  | reset (id : ℕ) : Effect settings s (.succeed id) (reset s id)

theorem advance_erase {i : Input} (id : ℕ) :
    Effect settings s i { s with logins := s.logins.erase id } :=
  .advance fun _ hx => .inl (Table.mem_erase.mp hx).1

theorem advance_setPhase {i : Input} {x : Login} {phase : LoginPhase}
    (h : ∀ now ∈ phase.failed?, now = s.clock) :
    Effect settings s i (setPhase s x phase) :=
  .advance fun y hy =>
    (Table.mem_put.mp hy).elim (fun hy => .inr (by rw [hy]; exact h)) fun hy => .inl hy.1

theorem effect_of_step {i : Input} (h : step settings s i = some t) : Effect settings s i t := by
  cases i with
  | tick seconds => cases h; exact .tick seconds
  | begin id =>
    obtain ⟨logins, hinsert, rfl⟩ := Option.map_eq_some_iff.mp h
    refine .advance fun x hx => ?_
    rw [(Table.insert?_eq_some.mp hinsert).2, List.mem_append, List.mem_singleton] at hx
    rcases hx with hx | rfl
    · exact .inl hx
    · exact .inr fun now hnow => by cases hnow
  | check id =>
    obtain ⟨x, -, hx⟩ := Option.bind_eq_some_iff.mp h
    split at hx
    · split at hx <;> cases hx
      · exact advance_erase id
      · exact advance_setPhase fun now hnow => by cases hnow
      · exact advance_setPhase fun now hnow => by cases hnow
    · cases hx
    · cases hx
  | fail id =>
    obtain ⟨x, -, hx⟩ := Option.bind_eq_some_iff.mp h
    split at hx
    · cases hx
      exact advance_setPhase fun now hnow => (Option.some.inj hnow).symm
    · cases hx
    · cases hx
  | record id =>
    obtain ⟨x, hmem, rfl, hx⟩ := Table.find?_bind_eq_some.mp h
    split at hx
    · rename_i now hphase
      cases hx
      exact .record hmem (by rw [hphase]; rfl)
    · cases hx
    · cases hx
  | succeed id =>
    obtain ⟨x, -, hx⟩ := Option.bind_eq_some_iff.mp h
    split at hx
    · cases hx
      exact .reset id
    · cases hx
    · cases hx
  | abort id =>
    obtain ⟨x, -, rfl⟩ := Option.map_eq_some_iff.mp h
    exact advance_erase id

/-- A notice exactly where a period begins keeps the count of the period. -/
theorem settle_notices {newlyLocked : Bool} (h : s.notices = s.locked.toNat)
    (hnew : newlyLocked = (!s.locked && t.locked)) :
    (settle s t newlyLocked).notices = t.locked.toNat := by
  show (if s.locked && t.locked then s.notices else 0) + newlyLocked.toNat = t.locked.toNat
  rw [h, hnew]
  cases s.locked <;> cases t.locked <;> rfl

/-- Time does not lock the account. -/
theorem locked_of_later {clock : ℕ} (hclock : s.clock ≤ clock)
    (h : ({ s with clock } : State).locked = true) : s.locked = true := by
  obtain ⟨lockedUntil, huntil, hlt⟩ := (Option.any_eq_true _ _).mp h
  exact (Option.any_eq_true _ _).mpr ⟨lockedUntil, huntil, Value.finite_lt (Int.ofNat_le.mpr hclock) hlt⟩

theorem locked_of_lock {now : ℕ} (hguard : LockGuard settings s now)
    (hmax : settings.maxLoginAttempts.toNat ≤ s.failures.length + 1)
    (hhash : t.hash = referenceHash settings (now :: s.failures)) (hclock : t.clock = s.clock) :
    t.locked = true := by
  have hfuture : (s.clock : ℤ) < (now + backoffSeconds (s.failures.length + 1) settings : ℕ) :=
    Int.ofNat_lt.mpr hguard.future
  rw [State.locked, State.lockedUntil?, hhash, referenceHash, if_neg (not_lt.mpr hmax), hclock]
  show (decide _ && !decide _) = true
  rw [decide_eq_true hfuture.le, decide_eq_false (not_le.mpr hfuture)]
  rfl

theorem lockedUntil?_below {now : ℕ} (hmax : s.failures.length + 1 < settings.maxLoginAttempts.toNat)
    (hhash : t.hash = referenceHash settings (now :: s.failures)) : t.lockedUntil? = none := by
  rw [State.lockedUntil?, hhash, referenceHash, if_pos hmax]
  rfl

theorem locked_below (h : s.lockedUntil? = none) : s.locked = false := by
  rw [State.locked, h, Option.any_none]

theorem inv_of_effect {i : Input} (h : ThrottleInv settings s) (hguard : ThrottleGuard settings s i)
    (heffect : Effect settings s i t) : ThrottleInv settings t := by
  cases heffect with
  | tick seconds =>
    refine ⟨h.curve, settle_notices h.once ?_, fun x hx now hnow =>
      (h.clocks x hx now hnow).trans (Nat.le_add_right _ _)⟩
    cases hlater : ({ s with clock := s.clock + seconds } : State).locked with
    | false => rw [Bool.and_false]
    | true => rw [locked_of_later (Nat.le_add_right _ _) hlater]; rfl
  | advance hlogins =>
    exact ⟨h.curve, h.once, fun x hx now hnow =>
      (hlogins x hx).elim (fun hold => h.clocks x hold now hnow) fun hnew => (hnew now hnow).le⟩
  | @record x now hx hphase =>
    have hnow := h.clocks x hx now hphase
    have hfailure := hguard x hx rfl now hphase
    have hclocks : ∀ y ∈ (s.logins.erase x.id).rows, ∀ now ∈ y.phase.failed?, now ≤ s.clock :=
      fun y hy => h.clocks y (Table.mem_erase.mp hy).1
    rcases lt_or_ge (s.failures.length + 1) settings.maxLoginAttempts.toNat with hmax | hmax
    · obtain ⟨hhash, hnewly⟩ := loginThrottle_spec_below h hfailure.countable hmax
      refine ⟨hhash, settle_notices h.once ?_, hclocks⟩
      have hlocked : (recordFailure settings s x.id now).locked = false :=
        locked_below (lockedUntil?_below hmax hhash)
      show _ = (!s.locked && (recordFailure settings s x.id now).locked)
      rw [hnewly, hlocked, Bool.and_false]
    · obtain ⟨hhash, hnewly⟩ := loginThrottle_spec h hnow hfailure hmax
      refine ⟨hhash, settle_notices h.once ?_, hclocks⟩
      have hlocked : (recordFailure settings s x.id now).locked = true :=
        locked_of_lock (hfailure.lock hmax) hmax hhash rfl
      show _ = (!s.locked && (recordFailure settings s x.id now).locked)
      rw [hnewly, hlocked, Bool.and_true]
  | reset id =>
    exact ⟨rfl, settle_notices h.once (Bool.and_false _).symm,
      fun y hy => h.clocks y (Table.mem_erase.mp hy).1⟩

/-- The lock that is stored is a number of seconds. -/
theorem lockedUntil?_finite (h : ThrottleInv settings s) {lockedUntil : Value}
    (hmem : lockedUntil ∈ s.lockedUntil?) : lockedUntil.le lockedUntil = true := by
  rw [Option.mem_def, lockedUntil?_of_inv h] at hmem
  cases hfailures : s.failures with
  | nil => rw [hfailures] at hmem; cases hmem
  | cons now earlier =>
    rw [hfailures, referenceHash, Option.bind_some] at hmem
    split at hmem
    · cases hmem
    · cases hmem
      exact decide_eq_true le_rfl

theorem forwards_of_effect {i : Input} (h : ThrottleInv settings s)
    (hguard : ThrottleGuard settings s i) (heffect : Effect settings s i t) :
    ∀ before ∈ s.lockedUntil?, ∀ after ∈ t.lockedUntil?, before.le after = true := by
  intro before hbefore after hafter
  have hkept (hsame : t.hash = s.hash) : before.le after = true := by
    rw [State.lockedUntil?, hsame] at hafter
    cases hbefore.symm.trans hafter
    exact lockedUntil?_finite h hbefore
  cases heffect with
  | tick seconds => exact hkept rfl
  | advance hlogins => exact hkept rfl
  | @record x now hx hphase =>
    have hfailure := hguard x hx rfl now hphase
    rcases lt_or_ge (s.failures.length + 1) settings.maxLoginAttempts.toNat with hmax | hmax
    · obtain ⟨hhash, -⟩ := loginThrottle_spec_below h hfailure.countable hmax
      rw [lockedUntil?_below hmax hhash] at hafter
      cases hafter
    · obtain ⟨hhash, -⟩ := loginThrottle_spec h (h.clocks x hx now hphase) hfailure hmax
      have hlock : (recordFailure settings s x.id now).lockedUntil? =
          some (.finite ((now + backoffSeconds (s.failures.length + 1) settings : ℕ) : ℤ)) := by
        show Option.bind (loginThrottle settings s.clock now s.hash).1 _ = _
        rw [hhash, referenceHash, if_neg (not_lt.mpr hmax)]
        rfl
      cases hlock.symm.trans hafter
      exact (hfailure.lock hmax).forwards before hbefore
  | reset id => cases hafter

theorem inv_initial (clock : ℕ) : ThrottleInv settings (initial clock) :=
  ⟨rfl, rfl, fun _ hx => absurd hx Table.not_mem_empty⟩

/-- In every order of the logins of an account and whatever the number of its failures: while every
failure that locks meets its guard, the throttle follows its reference curve, `locked_until` goes
forwards and `newly_locked` is returned once a period. -/
theorem followsReference_of_guard (settings : LocalAuthenticationSettings) (clock : ℕ)
    (inputs : List Input)
    (hrun : Along (step settings) (fun s i _ => ThrottleGuard settings s i) (initial clock) inputs) :
    Along (step settings) (fun s _ t => FollowsReference settings s t) (initial clock) inputs := by
  have hinv : ∀ s i t, ThrottleInv settings s → step settings s i = some t →
      ThrottleGuard settings s i → ThrottleInv settings t :=
    fun _ _ _ h hstep hguard => inv_of_effect h hguard (effect_of_step hstep)
  refine hrun.of_invariant hinv (fun s i t h hstep hguard => ?_) (inv_initial clock)
  have ht := hinv s i t h hstep hguard
  exact ⟨ht.curve, forwards_of_effect h hguard (effect_of_step hstep), ht.once⟩

end Run

instance (settings : LocalAuthenticationSettings) (s : State) (now : ℕ) :
    Decidable (LockGuard settings s now) :=
  let backoff := backoffSeconds (s.failures.length + 1) settings
  decidable_of_iff
    (now + backoff ≤ 2 ^ 53 ∧ s.clock < now + backoff ∧
      (∀ before ∈ s.lockedUntil?, before.le (.finite ((now + backoff : ℕ) : ℤ)) = true) ∧
      (∀ before ∈ s.lockedUntil?, before.le (.finite now) = true ∨ s.locked = true) ∧
      (s.locked = true ∨ expires s.clock
        (ofInt (max settings.loginAttemptWindowSeconds.toNat backoff : ℕ)) = true))
    ⟨fun ⟨h₁, h₂, h₃, h₄, h₅⟩ => ⟨h₁, h₂, h₃, h₄, h₅⟩, fun ⟨h₁, h₂, h₃, h₄, h₅⟩ => ⟨h₁, h₂, h₃, h₄, h₅⟩⟩

instance (settings : LocalAuthenticationSettings) (s : State) (now : ℕ) :
    Decidable (FailureGuard settings s now) :=
  decidable_of_iff
    (s.failures.length + 1 < 2 ^ 63 ∧
      (settings.maxLoginAttempts.toNat ≤ s.failures.length + 1 → LockGuard settings s now))
    ⟨fun ⟨h, h'⟩ => ⟨h, h'⟩, fun ⟨h, h'⟩ => ⟨h, h'⟩⟩

instance (settings : LocalAuthenticationSettings) (s : State) :
    ∀ i, Decidable (ThrottleGuard settings s i)
  | .record _ => inferInstanceAs (Decidable (∀ _ ∈ _, _ → _))
  | .tick _ | .begin _ | .check _ | .fail _ | .succeed _ | .abort _ => .isTrue trivial

instance (settings : LocalAuthenticationSettings) (s t : State) :
    Decidable (FollowsReference settings s t) :=
  decidable_of_iff
    (t.hash = referenceHash settings t.failures ∧
      (∀ before ∈ s.lockedUntil?, ∀ after ∈ t.lockedUntil?, before.le after = true) ∧
      t.notices = t.locked.toNat)
    ⟨fun ⟨h₁, h₂, h₃⟩ => ⟨h₁, h₂, h₃⟩, fun ⟨h₁, h₂, h₃⟩ => ⟨h₁, h₂, h₃⟩⟩

/-- Two attempts, then a minute, at most a hundred seconds. -/
def sampleSettings : LocalAuthenticationSettings := ⟨2, 900, 60, 100⟩

/-- Three logins pass the check at once and fail; the lock ends and another login succeeds. -/
def sampleRun : List Input :=
  [.begin 1, .begin 2, .begin 3, .check 1, .check 2, .check 3, .fail 1, .record 1, .tick 1, .fail 2,
    .record 2, .tick 10, .fail 3, .record 3, .begin 4, .tick 100, .check 4, .succeed 4]

theorem sampleRun_followsReference :
    Along (step sampleSettings) (fun s _ t => FollowsReference sampleSettings s t) (initial 1000)
      sampleRun :=
  followsReference_of_guard sampleSettings 1000 sampleRun (by decide +kernel)

/-- Two logins fail at the cap of the lock, and the script of the first runs after the second's. -/
def lateRun : List Input :=
  [.begin 1, .begin 2, .check 1, .check 2, .fail 1, .tick 1, .fail 2, .record 2, .record 1]

/-- Locks of 2^53 + 1 seconds, which binary64 has not. -/
def inexactSettings : LocalAuthenticationSettings := ⟨1, 900, 2 ^ 53 + 1, 2 ^ 53 + 1⟩

theorem lateFailure_goesBack :
    (Possible (step ⟨1, 900, 60, 60⟩) (initial 1000) lateRun ∧
      ¬Along (step ⟨1, 900, 60, 60⟩) (fun s _ t => FollowsReference ⟨1, 900, 60, 60⟩ s t)
        (initial 1000) lateRun) ∧
      Possible (step inexactSettings) (initial 1000) [.begin 1, .check 1, .fail 1, .record 1] ∧
        ¬Along (step inexactSettings) (fun s _ t => FollowsReference inexactSettings s t)
          (initial 1000) [.begin 1, .check 1, .fail 1, .record 1] := by
  decide +kernel

/-- Where no lock is wanted, 1024 failures past the threshold make one that is not a number. -/
example : (loginThrottle ⟨1, 900, 0, 900⟩ 1000 1000 (some ⟨1024, some (.finite 1000)⟩)).1 =
    some ⟨1025, some .nan⟩ := by
  decide +kernel

end UniversalInbox.LoginThrottle
