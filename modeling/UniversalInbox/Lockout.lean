import UniversalInbox.LoginThrottle

/-! How long the throttle remembers an account: its key with the time to live that the script gives
it, and the failed logins of an account that come one after the other. -/
namespace UniversalInbox.LoginThrottle
open Transition
open Binary64 (Value ofInt AtLeast)

/-- The throttle key, with the millisecond of the server's clock after which it is gone, if any. -/
structure ThrottleKey where
  hash : LoginThrottleHash
  expiresAt : Option ℕ
  deriving DecidableEq

def ThrottleKey.live (clock : ℕ) (key : ThrottleKey) : Bool :=
  key.expiresAt.all fun instant => decide (clock ≤ instant)

/-- `locked_until` as `login_throttle.lua` has it at its end, from the hash it has written. -/
def scriptLockedUntil (settings : LocalAuthenticationSettings) (hash : LoginThrottleHash) : Value :=
  if (ofInt settings.maxLoginAttempts.toNat).le (ofInt hash.failCount) then
    hash.lockedUntil.getD (.finite 0)
  else .finite 0

/-- The time to live that `login_throttle.lua` gives the key. -/
def timeToLive (settings : LocalAuthenticationSettings) (now : ℕ) (hash : LoginThrottleHash) :
    Value :=
  let window := ofInt settings.loginAttemptWindowSeconds.toNat
  let remaining := (scriptLockedUntil settings hash).sub (ofInt now)
  if window.lt remaining then remaining else window

/-- `EXPIRE key ttl`: a key with no time left is deleted, and a refused time leaves the old one. -/
def expire (clock : ℕ) (key : ThrottleKey) : Value → Option ThrottleKey
  | .finite ttl =>
    if (clock : ℤ) + 1000 * ttl < 2 ^ 63 then
      if ttl ≤ 0 then none else some { key with expiresAt := some (clock + 1000 * ttl.toNat) }
    else some key
  | .infinite _ | .nan => some key

/-- `login_throttle.lua` with the key: the server's clock reads `clock` milliseconds, and the API
has read the second `now`. -/
def recordFailureKey (settings : LocalAuthenticationSettings) (clock now : ℕ)
    (key? : Option ThrottleKey) : Option ThrottleKey :=
  match hincrby (key?.map ThrottleKey.hash) with
  | none => key?
  | some _ =>
    (loginThrottle settings (clock / 1000) now (key?.map ThrottleKey.hash)).1.bind fun hash =>
      expire clock ⟨hash, key?.bind ThrottleKey.expiresAt⟩ (timeToLive settings now hash)

/-- The lock that a login at `now` meets; a `locked_until` that cannot be read locks nothing. -/
def lock? (now : ℕ) (key? : Option ThrottleKey) : Option ℕ :=
  (lockedFor now (key?.bind fun key => key.hash.lockedUntil)).join

/-- A failed login: when its clock was read, when its script ran, and for how many seconds the
account is locked by it. -/
structure Failure where
  now : ℕ
  clock : ℕ
  lock? : Option ℕ
  deriving DecidableEq

/-- One account under attack; the failures, the latest first, are kept for the statements only. -/
structure Account where
  key? : Option ThrottleKey
  failures : List Failure
  deriving DecidableEq

/-- A login with a wrong password: the second its clock reads, and the server's milliseconds. -/
structure Attempt where
  now : ℕ
  clock : ℕ

def Account.liveKey (s : Account) (clock : ℕ) : Option ThrottleKey := s.key?.filter (·.live clock)

/-- `validate_credentials`: an account that is locked gets its 429, and nothing is recorded. -/
def validateCredentials (settings : LocalAuthenticationSettings) (s : Account) (i : Attempt) :
    Option Account :=
  let key? := s.liveKey i.clock
  match lock? i.now key? with
  | some _ => some s
  | none =>
    let key? := recordFailureKey settings i.clock i.now key?
    some ⟨key?, ⟨i.now, i.clock, lock? i.now key?⟩ :: s.failures⟩

def Account.new : Account := ⟨none, []⟩

/-- A failure locks for at least as long as every lock before it: no lock is shorter than an earlier
one, and after a first lock no failure goes without one. -/
def NeverRelaxes (failures : List Failure) : Prop :=
  failures.Pairwise fun later earlier => ∀ lock ∈ earlier.lock?, ∃ lock' ∈ later.lock?, lock ≤ lock'

/-- The failure comes when the last lock is over, at most a window later. -/
def WithinWindow (settings : LocalAuthenticationSettings) (s : Account) (i : Attempt) : Prop :=
  ∀ last ∈ s.failures.head?, last.now + last.lock?.getD 0 ≤ i.now ∧
    i.now ≤ last.now + last.lock?.getD 0 + settings.loginAttemptWindowSeconds.toNat

/-- How long the key lives from a failure on, in seconds. -/
def Failure.keyLife (settings : LocalAuthenticationSettings) (last : Failure) : ℕ :=
  max settings.loginAttemptWindowSeconds.toNat (last.lock?.getD 0)

/-- A failure comes when the last lock is over, and while the key of the last failure lives; sums of
such seconds are exact in binary64. -/
structure WithinKeyLife (settings : LocalAuthenticationSettings) (s : Account) (i : Attempt) :
    Prop where
  now_lt : i.now < 2 ^ 51
  clock_lt : i.clock < 1000 * 2 ^ 51
  continued : lock? i.now (s.liveKey i.clock) = none → ∀ last ∈ s.failures.head?,
    last.now + last.lock?.getD 0 ≤ i.now ∧ i.clock ≤ last.clock + 1000 * last.keyLife settings

instance (failures : List Failure) : Decidable (NeverRelaxes failures) :=
  inferInstanceAs (Decidable (failures.Pairwise _))

instance (settings : LocalAuthenticationSettings) (s : Account) (i : Attempt) :
    Decidable (WithinWindow settings s i) :=
  inferInstanceAs (Decidable (∀ _ ∈ _, _))

instance (settings : LocalAuthenticationSettings) (s : Account) (i : Attempt) :
    Decidable (WithinKeyLife settings s i) :=
  decidable_of_iff
    (i.now < 2 ^ 51 ∧ i.clock < 1000 * 2 ^ 51 ∧
      (lock? i.now (s.liveKey i.clock) = none → ∀ last ∈ s.failures.head?,
        last.now + last.lock?.getD 0 ≤ i.now ∧ i.clock ≤ last.clock + 1000 * last.keyLife settings))
    ⟨fun ⟨h₁, h₂, h₃⟩ => ⟨h₁, h₂, h₃⟩, fun ⟨h₁, h₂, h₃⟩ => ⟨h₁, h₂, h₃⟩⟩

section Lock
variable {settings : LocalAuthenticationSettings} {failCount now clock : ℕ}

theorem backoffSeconds_mono {more : ℕ} (h : failCount ≤ more) :
    backoffSeconds failCount settings ≤ backoffSeconds more settings := by
  rcases lt_or_ge failCount settings.maxLoginAttempts.toNat with hlt | hle
  · rw [backoffSeconds_of_lt hlt]
    exact Nat.zero_le _
  · rw [backoffSeconds_of_le hle, backoffSeconds_of_le (hle.trans h)]
    exact min_le_min_right _ (Nat.mul_le_mul_left _ (Nat.pow_le_pow_right two_pos (by omega)))

theorem backoffSeconds_succ_le (h : settings.maxLoginAttempts.toNat ≤ failCount) :
    backoffSeconds (failCount + 1) settings ≤ 2 * backoffSeconds failCount settings := by
  rw [backoffSeconds_of_le h, backoffSeconds_of_le (h.trans (Nat.le_succ _)), Nat.succ_sub h,
    pow_succ, ← mul_assoc]
  omega

theorem le_of_backoffSeconds_pos (h : 0 < backoffSeconds failCount settings) :
    settings.maxLoginAttempts.toNat ≤ failCount := by
  by_contra hlt
  rw [backoffSeconds_of_lt (not_le.mp hlt)] at h
  exact h.false

/-- The factor of the script: powers of two overflow at 1024. -/
def scriptFactor (exponent : ℕ) : Value :=
  if exponent < 1024 then .finite ((2 ^ exponent : ℕ) : ℤ) else .infinite false

/-- The lock of the script, for a count from the threshold on. -/
def scriptLock (settings : LocalAuthenticationSettings) (failCount : ℕ) : Value :=
  let maxLock := ofInt settings.loginLockoutMaxSeconds.toNat
  let product := (ofInt settings.loginLockoutBaseSeconds.toNat).mul
    (scriptFactor (failCount - settings.maxLoginAttempts.toNat))
  if maxLock.lt product then maxLock else product

theorem scriptLock_exact (hpos : 0 < backoffSeconds failCount settings)
    (hle : backoffSeconds failCount settings ≤ 2 ^ 53) :
    scriptLock settings failCount = .finite (backoffSeconds failCount settings) := by
  have hbackoff := backoffSeconds_of_le (le_of_backoffSeconds_pos hpos)
  rw [hbackoff] at hpos hle ⊢
  exact lock_eq hpos hle rfl

theorem scriptLock_atLeast {m : ℕ} (hm : m ≤ 2 ^ 53) (hpos : 0 < m)
    (h : m ≤ backoffSeconds failCount settings) : AtLeast m (scriptLock settings failCount) := by
  rw [backoffSeconds_of_le (le_of_backoffSeconds_pos (hpos.trans_le h)), le_min_iff] at h
  dsimp only [scriptLock]
  split
  · exact Binary64.atLeast_ofInt h.2 hm
  · exact product_atLeast h.1 hpos hm

theorem product_zero {base : ℕ} {exponent : ℕ} (h : base * 2 ^ exponent = 0) :
    (ofInt base).mul (scriptFactor exponent) = .finite 0 ∨
      (ofInt base).mul (scriptFactor exponent) = .nan := by
  obtain rfl : base = 0 := (Nat.mul_eq_zero.mp h).resolve_right (Nat.two_pow_pos _).ne'
  rw [scriptFactor]
  split
  · left
    show ofInt (0 * _) = _
    rw [zero_mul]
    rfl
  · exact .inr rfl

/-- A product of the script is an infinity, a number from 0 on, or not a number. -/
theorem product_of_not_lt {base : ℕ} {exponent : ℕ}
    (h : Value.lt (.finite 0) ((ofInt base).mul (scriptFactor exponent)) = false) :
    (ofInt base).mul (scriptFactor exponent) = .finite 0 ∨
      (ofInt base).mul (scriptFactor exponent) = .nan := by
  rcases Nat.eq_zero_or_pos (base * 2 ^ exponent) with hzero | hpos
  · exact product_zero hzero
  · have hatLeast : AtLeast 1 ((ofInt base).mul (scriptFactor exponent)) :=
      product_atLeast hpos one_pos (by decide)
    exact absurd (h.symm.trans (hatLeast.lt (m := 0) one_pos)) Bool.false_ne_true

/-- Where no lock is wanted the lock is empty, or not a number. -/
theorem scriptLock_zero (hmax : settings.maxLoginAttempts.toNat ≤ failCount)
    (h : backoffSeconds failCount settings = 0) :
    scriptLock settings failCount = .finite 0 ∨ scriptLock settings failCount = .nan := by
  rw [backoffSeconds_of_le hmax] at h
  dsimp only [scriptLock]
  rcases Nat.min_eq_zero_iff.mp h with hproduct | hzero
  · have hmaxLock : AtLeast 0 (ofInt settings.loginLockoutMaxSeconds.toNat) :=
      Binary64.atLeast_ofInt (Nat.zero_le _) (Nat.zero_le _)
    have hlt : Value.lt (ofInt settings.loginLockoutMaxSeconds.toNat) (.finite 0) = false :=
      hmaxLock.lt_eq_false
    rcases product_zero hproduct with heq | heq
    · rw [heq, hlt, if_neg Bool.false_ne_true]
      exact .inl rfl
    · rw [heq]
      right
      cases ofInt settings.loginLockoutMaxSeconds.toNat <;> rfl
  · rw [hzero]
    show (if Value.lt (.finite 0) _ then Value.finite 0 else _) = _ ∨
      (if Value.lt (.finite 0) _ then Value.finite 0 else _) = _
    split
    · exact .inl rfl
    · rename_i hlt
      exact product_of_not_lt (Bool.eq_false_iff.mpr hlt)

theorem loginThrottle_hash {hash? : Option LoginThrottleHash} {hash : LoginThrottleHash}
    (hcount : hincrby hash? = some hash) (hmax : settings.maxLoginAttempts.toNat ≤ hash.failCount)
    (hnow : now ≤ 2 ^ 53) :
    (loginThrottle settings clock now hash?).1 =
      some { hash with
        lockedUntil := some ((Value.finite now).add (scriptLock settings hash.failCount)) } := by
  have hattempts : settings.maxLoginAttempts.toNat < 2 ^ 32 := settings.maxLoginAttempts.toNat_lt
  rw [loginThrottle, hcount]
  simp only [Binary64.le_ofInt (hattempts.le.trans (by decide)), decide_eq_true hmax, if_true,
    exp2_exponent hattempts hmax, Binary64.ofInt_of_le hnow]
  rfl

theorem lock?_finite {key : ThrottleKey} {n : ℕ} (hn : n ≤ 2 ^ 53)
    (h : key.hash.lockedUntil = some (.finite (n : ℤ))) :
    lock? now (some key) = if now < n then some (n - now) else none := by
  have hread : hgetInteger (.finite (n : ℤ)) = some (n : ℤ) :=
    if_pos (by rw [Int.natAbs_natCast]; omega)
  rw [lock?, Option.bind_some, h, lockedFor, hread, Option.map_some, Option.join_some]
  by_cases hlt : now < n
  · rw [if_pos hlt, if_pos (Int.ofNat_lt.mpr hlt)]
    congr 1
    omega
  · rw [if_neg hlt, if_neg (fun h => hlt (Int.ofNat_lt.mp h))]

theorem lock?_atLeast {key : ThrottleKey} {m : ℕ} {lockedUntil : Value}
    (h : key.hash.lockedUntil = some lockedUntil) (hatLeast : AtLeast (m + now) lockedUntil) :
    ∀ lock ∈ lock? now (some key), m ≤ lock := by
  intro lock hlock
  rw [lock?, Option.bind_some, h, lockedFor] at hlock
  cases lockedUntil with
  | nan => exact hatLeast.elim
  | infinite negative => cases hlock
  | finite n =>
    have hle : ((m + now : ℕ) : ℤ) ≤ n := hatLeast
    rw [hgetInteger] at hlock
    split at hlock
    · rw [Option.map_some, Option.join_some] at hlock
      split at hlock <;> cases hlock
      omega
    · cases hlock

theorem lock?_nan {key : ThrottleKey} (h : key.hash.lockedUntil = some .nan) :
    lock? now (some key) = none := by
  rw [lock?, Option.bind_some, h]
  rfl

end Lock

section Expiry
variable {settings : LocalAuthenticationSettings} {now clock : ℕ} {key key' : ThrottleKey} {ttl : Value}

theorem atLeast_mono {m n : ℕ} (h : m ≤ n) : ∀ {x : Value}, AtLeast n x → AtLeast m x
  | .finite _, hx => (Int.ofNat_le.mpr h).trans hx
  | .infinite _, hx => hx

theorem atLeast_of_lt {m : ℕ} : ∀ {x y : Value}, AtLeast m x → x.lt y = true → AtLeast m y
  | .finite a, .finite b, hx, hlt => by
    have hx : (m : ℤ) ≤ a := hx
    have hle : a ≤ b := of_decide_eq_true (Bool.and_eq_true_iff.mp hlt).1
    exact hx.trans hle
  | .finite _, .infinite false, _, _ => rfl
  | .finite _, .infinite true, _, hlt => by cases hlt
  | .finite _, .nan, _, hlt => by cases hlt
  | .infinite _, .finite _, hx, hlt => by cases hx; cases hlt
  | .infinite _, .infinite true, hx, hlt => by cases hx; cases hlt
  | .infinite _, .infinite false, _, _ => rfl
  | .infinite _, .nan, hx, hlt => by cases hx; cases hlt

theorem expire_hash (h : key' ∈ expire clock key ttl) : key'.hash = key.hash := by
  rw [expire.eq_def] at h
  split at h
  · split at h
    · split at h <;> cases h
      rfl
    · cases h; rfl
  · cases h; rfl
  · cases h; rfl

theorem expire_isSome (clock : ℕ) (key : ThrottleKey) (h : AtLeast 1 ttl) :
    ∃ key', key' ∈ expire clock key ttl := by
  cases ttl with
  | nan => exact h.elim
  | infinite _ => exact ⟨key, rfl⟩
  | finite n =>
    have hpos : ¬n ≤ 0 := not_le.mpr (Int.lt_of_lt_of_le one_pos h)
    rw [expire, if_neg hpos]
    split
    · exact ⟨_, rfl⟩
    · exact ⟨_, rfl⟩

/-- A new time to live, and an old one that stays, end no earlier than the least of both. -/
theorem expire_window {m : ℕ} (hatLeast : AtLeast m ttl)
    (hold : ∀ instant ∈ key.expiresAt, 1000 * m ≤ instant) (h : key' ∈ expire clock key ttl) :
    ∀ instant ∈ key'.expiresAt, 1000 * m ≤ instant := by
  cases ttl with
  | nan => exact hatLeast.elim
  | infinite _ => cases h; exact hold
  | finite n =>
    have hle : (m : ℤ) ≤ n := hatLeast
    rw [expire] at h
    split at h
    · split at h <;> cases h
      rintro instant ⟨⟩
      omega
    · cases h; exact hold

theorem expire_accepted {life : ℕ} (hpos : 0 < life) (hlife : clock + 1000 * life < 2 ^ 63) :
    expire clock key (.finite life) = some { key with expiresAt := some (clock + 1000 * life) } := by
  rw [expire, if_pos (by exact_mod_cast hlife), if_neg (by omega), Int.toNat_natCast]

theorem timeToLive_atLeast (hash : LoginThrottleHash) :
    AtLeast (min settings.loginAttemptWindowSeconds.toNat (2 ^ 53)) (timeToLive settings now hash) := by
  have hwindow : AtLeast (min settings.loginAttemptWindowSeconds.toNat (2 ^ 53))
      (ofInt settings.loginAttemptWindowSeconds.toNat) :=
    Binary64.atLeast_ofInt (min_le_left _ _) (min_le_right _ _)
  dsimp only [timeToLive]
  split
  · exact atLeast_of_lt hwindow ‹_›
  · exact hwindow

/-- The key of an account that has just been locked is given the longer of the window and the lock. -/
theorem timeToLive_lock {hash : LoginThrottleHash} {lock : ℕ}
    (hmax : settings.maxLoginAttempts.toNat ≤ hash.failCount)
    (huntil : hash.lockedUntil = some (.finite ((now + lock : ℕ) : ℤ))) (hle : now + lock ≤ 2 ^ 53) :
    timeToLive settings now hash = ofInt (max settings.loginAttemptWindowSeconds.toNat lock : ℕ) := by
  have hattempts : settings.maxLoginAttempts.toNat < 2 ^ 32 := settings.maxLoginAttempts.toNat_lt
  have hnow : ofInt now = .finite now := Binary64.ofInt_of_le ((Nat.le_add_right _ _).trans hle)
  have hscript : scriptLockedUntil settings hash = .finite ((now + lock : ℕ) : ℤ) := by
    rw [scriptLockedUntil, Binary64.le_ofInt (hattempts.le.trans (by decide)), decide_eq_true hmax,
      if_pos rfl, huntil, Option.getD_some]
  simp only [timeToLive, hscript, hnow, Binary64.ofInt_sub (Nat.le_add_right now lock) hle,
    Nat.add_sub_cancel_left, longer_eq ((Nat.le_add_left _ _).trans hle)]

end Expiry

section Run
variable {settings : LocalAuthenticationSettings} {now clock : ℕ} {key? : Option ThrottleKey}
  {hash : LoginThrottleHash}

/-- The hash that the script writes, from the one it has counted the failure in. -/
def written (settings : LocalAuthenticationSettings) (now : ℕ) (hash : LoginThrottleHash) :
    LoginThrottleHash :=
  if settings.maxLoginAttempts.toNat ≤ hash.failCount then
    { hash with
      lockedUntil := some ((Value.finite now).add (scriptLock settings hash.failCount)) }
  else hash

theorem written_failCount : (written settings now hash).failCount = hash.failCount := by
  rw [written]
  split <;> rfl

theorem recordFailureKey_eq (hcount : hincrby (key?.map ThrottleKey.hash) = some hash)
    (hnow : now ≤ 2 ^ 53) :
    recordFailureKey settings clock now key? =
      expire clock ⟨written settings now hash, key?.bind ThrottleKey.expiresAt⟩
        (timeToLive settings now (written settings now hash)) := by
  rw [recordFailureKey, hcount, written]
  dsimp only
  split
  · rw [loginThrottle_hash hcount ‹_› hnow]
    rfl
  · rw [loginThrottle_below hcount (not_le.mp ‹_›)]
    rfl

theorem hincrby_eq_some (h : hincrby (key?.map ThrottleKey.hash) = some hash) :
    hash.lockedUntil = (key?.bind fun key => key.hash.lockedUntil) ∧
      hash.failCount = (key?.map fun key => key.hash.failCount).getD 0 + 1 := by
  cases key? with
  | none => cases h; exact ⟨rfl, rfl⟩
  | some key =>
    rw [Option.map_some, hincrby] at h
    split at h <;> cases h
    exact ⟨rfl, rfl⟩

theorem hincrby_isSome (key? : Option ThrottleKey) (h : ∀ key ∈ key?, key.hash.failCount + 1 < 2 ^ 63) :
    ∃ hash, hincrby (key?.map ThrottleKey.hash) = some hash := by
  cases key? with
  | none => exact ⟨_, rfl⟩
  | some key => exact ⟨_, if_pos (h key rfl)⟩

/-- An account for which no lock is wanted is not locked. -/
theorem lock?_written_zero {key : ThrottleKey} (hhash : key.hash = written settings now hash)
    (hold : (lockedFor now hash.lockedUntil).join = none)
    (hzero : backoffSeconds hash.failCount settings = 0) (hnow : now ≤ 2 ^ 53) :
    lock? now (some key) = none := by
  rw [written] at hhash
  split at hhash
  · rename_i hmax
    rcases scriptLock_zero hmax hzero with hlock | hlock
    · have huntil : key.hash.lockedUntil = some (.finite (now : ℤ)) := by
        rw [hhash, hlock]
        show some (ofInt ((now : ℤ) + 0)) = _
        rw [add_zero, Binary64.ofInt_of_le hnow]
      rw [lock?_finite hnow huntil, if_neg (lt_irrefl now)]
    · exact lock?_nan (by rw [hhash, hlock]; rfl)
  · rw [lock?, Option.bind_some, hhash]
    exact hold

theorem written_exact (hpos : 0 < backoffSeconds hash.failCount settings)
    (hle : now + backoffSeconds hash.failCount settings ≤ 2 ^ 53) :
    (written settings now hash).lockedUntil =
      some (.finite ((now + backoffSeconds hash.failCount settings : ℕ) : ℤ)) := by
  rw [written, if_pos (le_of_backoffSeconds_pos hpos)]
  dsimp only
  rw [scriptLock_exact hpos ((Nat.le_add_left _ _).trans hle), Binary64.ofInt_add hle]

theorem lock?_written_atLeast {key : ThrottleKey} {m : ℕ}
    (hhash : key.hash = written settings now hash) (hpos : 0 < m)
    (hm : m ≤ backoffSeconds hash.failCount settings) (hle : m + now ≤ 2 ^ 53) :
    ∀ lock ∈ lock? now (some key), m ≤ lock := by
  have hmax := le_of_backoffSeconds_pos (hpos.trans_le hm)
  rw [written, if_pos hmax] at hhash
  have hlock := scriptLock_atLeast ((Nat.le_add_right _ _).trans hle) hpos hm
  exact lock?_atLeast (by rw [hhash]) (hlock.add hle)

/-- The key of an account locked at `now` for `lock` seconds: it outlives the window and the lock, or
all the clocks considered. -/
structure HeldLock (settings : LocalAuthenticationSettings) (now clock lock : ℕ)
    (key : ThrottleKey) : Prop where
  pos : 0 < lock
  backoff : backoffSeconds key.hash.failCount settings = lock
  lockedUntil : key.hash.lockedUntil = some (.finite ((now + lock : ℕ) : ℤ))
  lives : ∀ instant ∈ key.expiresAt,
    clock + 1000 * max settings.loginAttemptWindowSeconds.toNat lock ≤ instant ∨
      1000 * 2 ^ 51 ≤ instant

/-- The times to live of the keys are no shorter than the window, as far as seconds are exact. -/
def OutlivesWindow (settings : LocalAuthenticationSettings) (key? : Option ThrottleKey) : Prop :=
  ∀ key ∈ key?, ∀ instant ∈ key.expiresAt,
    1000 * min settings.loginAttemptWindowSeconds.toNat (2 ^ 52) ≤ instant

theorem outlivesWindow_old (h : OutlivesWindow settings key?) :
    ∀ instant ∈ key?.bind ThrottleKey.expiresAt,
      1000 * min settings.loginAttemptWindowSeconds.toNat (2 ^ 52) ≤ instant := by
  intro instant hinstant
  obtain ⟨key, hkey, hexpires⟩ := Option.bind_eq_some_iff.mp hinstant
  exact h key hkey instant hexpires

theorem outlivesWindow_record (h : OutlivesWindow settings key?) (hnow : now ≤ 2 ^ 53) :
    OutlivesWindow settings (recordFailureKey settings clock now key?) := by
  cases hcount : hincrby (key?.map ThrottleKey.hash) with
  | none =>
    rw [recordFailureKey, hcount]
    exact h
  | some hash =>
    rw [recordFailureKey_eq hcount hnow]
    intro key hkey
    have httl : AtLeast (min settings.loginAttemptWindowSeconds.toNat (2 ^ 53))
        (timeToLive settings now (written settings now hash)) := timeToLive_atLeast _
    exact expire_window (atLeast_mono (min_le_min_left _ (by decide)) httl) (outlivesWindow_old h)
      hkey

/-- A failure whose lock is exact holds the account. -/
theorem heldLock_of_record (h : OutlivesWindow settings key?)
    (hcount : hincrby (key?.map ThrottleKey.hash) = some hash)
    (hpos : 0 < backoffSeconds hash.failCount settings)
    (hle : backoffSeconds hash.failCount settings ≤ 2 ^ 52) (hnow : now < 2 ^ 51)
    (hclock : clock < 1000 * 2 ^ 51) :
    ∃ key ∈ recordFailureKey settings clock now key?, key.hash.failCount = hash.failCount ∧
      HeldLock settings now clock (backoffSeconds hash.failCount settings) key := by
  have hsum : now + backoffSeconds hash.failCount settings ≤ 2 ^ 53 := by omega
  have hmax : settings.maxLoginAttempts.toNat ≤ (written settings now hash).failCount := by
    rw [written_failCount]
    exact le_of_backoffSeconds_pos hpos
  have huntil := written_exact hpos hsum
  have httl := timeToLive_lock hmax huntil hsum
  generalize hlock : backoffSeconds hash.failCount settings = lock at *
  have hlonger : 1 ≤ max settings.loginAttemptWindowSeconds.toNat lock := le_max_of_le_right hpos
  obtain ⟨key, hkey⟩ := expire_isSome clock
    ⟨written settings now hash, key?.bind ThrottleKey.expiresAt⟩
    (Binary64.atLeast_ofInt hlonger (by decide))
  rw [← httl, ← recordFailureKey_eq hcount (by omega)] at hkey
  have hhash : key.hash = written settings now hash := by
    rw [recordFailureKey_eq hcount (by omega)] at hkey
    exact expire_hash hkey
  refine ⟨key, hkey, by rw [hhash, written_failCount], hpos, by rw [hhash, written_failCount, hlock],
    by rw [hhash, huntil], fun instant hinstant => ?_⟩
  rcases le_or_gt settings.loginAttemptWindowSeconds.toNat (2 ^ 52) with hwindow | hwindow
  · have hlife : max settings.loginAttemptWindowSeconds.toNat lock ≤ 2 ^ 52 := max_le hwindow hle
    rw [recordFailureKey_eq hcount (by omega), httl,
      Binary64.ofInt_of_le (hlife.trans (by decide)), expire_accepted hlonger (by omega)] at hkey
    cases hkey
    cases hinstant
    exact .inl le_rfl
  · have := outlivesWindow_record h (by omega) key hkey instant hinstant
    omega

/-- While the last failure holds no lock, its count gives none or one beyond the clocks considered;
a shorter lock is the one its key holds. -/
structure LockoutInv (settings : LocalAuthenticationSettings) (s : Account) : Prop where
  relaxes : NeverRelaxes s.failures
  window : OutlivesWindow settings s.key?
  free : (∀ last ∈ s.failures.head?, last.lock? = none) → ∀ key ∈ s.key?,
    backoffSeconds key.hash.failCount settings = 0 ∨
      2 ^ 52 < backoffSeconds key.hash.failCount settings
  held : ∀ last ∈ s.failures.head?, ∀ lock ∈ last.lock?, lock ≤ 2 ^ 51 → ∃ key ∈ s.key?,
    HeldLock settings last.now last.clock lock key ∧
      key.hash.failCount ≤ settings.maxLoginAttempts.toNat + 1 + last.now

/-- The last lock is the longest. -/
theorem le_of_neverRelaxes {last : Failure} {earlier : List Failure}
    (h : NeverRelaxes (last :: earlier)) {x : Failure} (hx : x ∈ last :: earlier) {lock : ℕ}
    (hlock : lock ∈ x.lock?) : ∃ lock' ∈ last.lock?, lock ≤ lock' := by
  rcases List.mem_cons.mp hx with rfl | hx
  · exact ⟨lock, hlock, le_rfl⟩
  · exact (List.pairwise_cons.mp h).1 x hx lock hlock

theorem neverRelaxes_cons {failures : List Failure} {next : Failure} (h : NeverRelaxes failures)
    (hnext : ∀ last ∈ failures.head?, ∀ lock ∈ last.lock?, ∃ lock' ∈ next.lock?, lock ≤ lock') :
    NeverRelaxes (next :: failures) := by
  refine List.pairwise_cons.mpr ⟨fun x hx lock hlock => ?_, h⟩
  cases failures with
  | nil => cases hx
  | cons last earlier =>
    obtain ⟨lock', hlock', hle⟩ := le_of_neverRelaxes h hx hlock
    obtain ⟨lock'', hlock'', hle'⟩ := hnext last rfl lock' hlock'
    exact ⟨lock'', hlock'', hle.trans hle'⟩

/-- A count that is reached from one without a lock, and gives an exact lock, is the first to. -/
theorem failCount_le_of_free (h : ∀ key ∈ key?, backoffSeconds key.hash.failCount settings = 0 ∨
      2 ^ 52 < backoffSeconds key.hash.failCount settings)
    (hcount : hincrby (key?.map ThrottleKey.hash) = some hash)
    (hpos : 0 < backoffSeconds hash.failCount settings)
    (hle : backoffSeconds hash.failCount settings ≤ 2 ^ 52) :
    hash.failCount ≤ settings.maxLoginAttempts.toNat + 1 := by
  have hnext := (hincrby_eq_some hcount).2
  cases key? with
  | none => rw [hnext]; exact Nat.le_add_left _ _
  | some key =>
    rw [hnext, Option.map_some, Option.getD_some] at hpos hle ⊢
    have hmono : backoffSeconds key.hash.failCount settings ≤
        backoffSeconds (key.hash.failCount + 1) settings := backoffSeconds_mono (Nat.le_add_right _ 1)
    have hzero := (h key rfl).resolve_right (by omega)
    by_contra hlt
    have hmax : settings.maxLoginAttempts.toNat ≤ key.hash.failCount := by omega
    have hdouble := backoffSeconds_succ_le hmax
    omega

/-- A failure without a lock, or with one beyond the clocks considered. -/
theorem lock?_of_record (settings : LocalAuthenticationSettings) (clock : ℕ)
    (hcount : hincrby (key?.map ThrottleKey.hash) = some hash)
    (hfree : lock? now key? = none) (hnow : now < 2 ^ 51) :
    ∀ key ∈ recordFailureKey settings clock now key?, key.hash.failCount = hash.failCount ∧
      (backoffSeconds hash.failCount settings = 0 → lock? now (some key) = none) ∧
      (2 ^ 52 < backoffSeconds hash.failCount settings →
        ∀ lock ∈ lock? now (some key), 2 ^ 52 ≤ lock) := by
  intro key hkey
  rw [recordFailureKey_eq hcount (by omega)] at hkey
  have hhash := expire_hash hkey
  refine ⟨by rw [hhash, written_failCount], fun hzero => ?_, fun hlarge => ?_⟩
  · refine lock?_written_zero hhash ?_ hzero (by omega)
    rw [(hincrby_eq_some hcount).1]
    exact hfree
  · exact lock?_written_atLeast hhash (by decide) hlarge.le (by omega)

/-- The last lock is over and its key still lives: the next failure finds it. -/
theorem liveKey_of_held {s : Account} {i : Attempt} {last : Failure} {lock : ℕ} {key : ThrottleKey}
    (hkey : key ∈ s.key?) (hheld : HeldLock settings last.now last.clock lock key)
    (hlock : lock ∈ last.lock?) (hclock : i.clock < 1000 * 2 ^ 51)
    (hcontinued : i.clock ≤ last.clock + 1000 * last.keyLife settings) :
    s.liveKey i.clock = some key := by
  rw [Account.liveKey, hkey, Option.filter_some, if_pos]
  rw [ThrottleKey.live, Option.all_eq_true]
  intro instant hinstant
  rw [Failure.keyLife, hlock, Option.getD_some] at hcontinued
  have := hheld.lives instant hinstant
  exact decide_eq_true (by omega)

theorem lock?_of_heldLock {lock : ℕ} {key : ThrottleKey}
    (h : HeldLock settings now clock lock key) (hle : now + lock ≤ 2 ^ 53) :
    lock? now (some key) = some lock := by
  rw [lock?_finite hle h.lockedUntil, if_pos (Nat.lt_add_of_pos_right h.pos),
    Nat.add_sub_cancel_left]

/-- The account after a failure. -/
def failed (settings : LocalAuthenticationSettings) (s : Account) (i : Attempt) : Account :=
  let key? := recordFailureKey settings i.clock i.now (s.liveKey i.clock)
  ⟨key?, ⟨i.now, i.clock, lock? i.now key?⟩ :: s.failures⟩

theorem outlivesWindow_live {s : Account} (h : OutlivesWindow settings s.key?) (clock : ℕ) :
    OutlivesWindow settings (s.liveKey clock) :=
  fun key hkey => h key (Option.filter_eq_some_iff.mp hkey).1

/-- A failure that is counted: none of the locks before it is longer than its own. -/
theorem inv_of_counted {s : Account} {i : Attempt} (h : LockoutInv settings s)
    (hguard : WithinKeyLife settings s i) (hfree : lock? i.now (s.liveKey i.clock) = none)
    (hcount : hincrby ((s.liveKey i.clock).map ThrottleKey.hash) = some hash)
    (hlonger : ∀ last ∈ s.failures.head?, ∀ lock ∈ last.lock?,
      lock ≤ backoffSeconds hash.failCount settings ∧
        0 < backoffSeconds hash.failCount settings ∧
        backoffSeconds hash.failCount settings ≤ 2 ^ 52)
    (hfirst : 0 < backoffSeconds hash.failCount settings →
      backoffSeconds hash.failCount settings ≤ 2 ^ 52 →
        hash.failCount ≤ settings.maxLoginAttempts.toNat + 1 + i.now) :
    LockoutInv settings (failed settings s i) := by
  have hnow := hguard.now_lt
  have hwindow := outlivesWindow_live h.window i.clock
  have hrecord := lock?_of_record settings i.clock hcount hfree hnow
  by_cases hexact : 0 < backoffSeconds hash.failCount settings ∧
      backoffSeconds hash.failCount settings ≤ 2 ^ 52
  · obtain ⟨key, hkey, hfailCount, hheld⟩ :=
      heldLock_of_record hwindow hcount hexact.1 hexact.2 hnow hguard.clock_lt
    have hlock : lock? i.now (recordFailureKey settings i.clock i.now (s.liveKey i.clock)) =
        some (backoffSeconds hash.failCount settings) := by
      rw [hkey]
      exact lock?_of_heldLock hheld (by omega)
    refine ⟨neverRelaxes_cons h.relaxes fun last hlast lock hmem =>
      ⟨_, hlock, (hlonger last hlast lock hmem).1⟩, outlivesWindow_record hwindow (by omega), ?_, ?_⟩
    · intro hnone
      exact absurd (hlock.symm.trans (hnone _ rfl)) (by simp)
    · rintro last ⟨⟩ lock hmem -
      cases hlock.symm.trans hmem
      exact ⟨key, hkey, hheld, hfailCount ▸ hfirst hexact.1 hexact.2⟩
  · refine ⟨neverRelaxes_cons h.relaxes fun last hlast lock hmem =>
      absurd (hlonger last hlast lock hmem).2 hexact, outlivesWindow_record hwindow (by omega), ?_, ?_⟩
    · intro _ key hkey
      rw [(hrecord key hkey).1]
      omega
    · rintro last ⟨⟩ lock hmem hle
      have hmem : lock ∈ lock? i.now (recordFailureKey settings i.clock i.now (s.liveKey i.clock)) :=
        hmem
      cases hkey : recordFailureKey settings i.clock i.now (s.liveKey i.clock) with
      | none => rw [hkey] at hmem; cases hmem
      | some key =>
        rw [hkey] at hmem
        obtain ⟨-, hzero, hlarge⟩ := hrecord key hkey
        rcases Nat.eq_zero_or_pos (backoffSeconds hash.failCount settings) with heq | hpos
        · cases (hzero heq).symm.trans hmem
        · have := hlarge (by omega) lock hmem
          omega

/-- After a failure that held a lock, with the lock over and its key alive, the count goes on. -/
theorem inv_of_held {s : Account} {i : Attempt} {last : Failure} {lock : ℕ}
    (h : LockoutInv settings s) (hguard : WithinKeyLife settings s i)
    (hfree : lock? i.now (s.liveKey i.clock) = none) (hlast : last ∈ s.failures.head?)
    (hlock : lock ∈ last.lock?) : LockoutInv settings (failed settings s i) := by
  have hnow := hguard.now_lt
  obtain ⟨hover, hcontinued⟩ := hguard.continued hfree last hlast
  rw [hlock, Option.getD_some] at hover
  obtain ⟨key, hkey, hheld, hfailCount⟩ := h.held last hlast lock hlock (by omega)
  have hlive := liveKey_of_held hkey hheld hlock hguard.clock_lt hcontinued
  have hattempts : settings.maxLoginAttempts.toNat < 2 ^ 32 := settings.maxLoginAttempts.toNat_lt
  obtain ⟨hash, hcount⟩ := hincrby_isSome (s.liveKey i.clock) fun key' hkey' => by
    cases hlive.symm.trans hkey'
    omega
  have hnext : hash.failCount = key.hash.failCount + 1 := by
    rw [(hincrby_eq_some hcount).2, hlive]
    rfl
  have hpos := hheld.pos
  have hbackoff := hheld.backoff
  rw [← hbackoff] at hpos
  have hdouble := backoffSeconds_succ_le (le_of_backoffSeconds_pos hpos)
  have hmono : backoffSeconds key.hash.failCount settings ≤ backoffSeconds hash.failCount settings :=
    backoffSeconds_mono (by omega)
  rw [← hnext] at hdouble
  refine inv_of_counted h hguard hfree hcount (fun last' hlast' lock' hlock' => ?_) fun _ _ => ?_
  · cases hlast.symm.trans hlast'
    cases hlock.symm.trans hlock'
    omega
  · omega

theorem inv_of_free {s : Account} {i : Attempt} (h : LockoutInv settings s)
    (hguard : WithinKeyLife settings s i) (hfree : lock? i.now (s.liveKey i.clock) = none)
    (hnone : ∀ last ∈ s.failures.head?, last.lock? = none) :
    LockoutInv settings (failed settings s i) := by
  have hfreeKey : ∀ key ∈ s.liveKey i.clock, backoffSeconds key.hash.failCount settings = 0 ∨
      2 ^ 52 < backoffSeconds key.hash.failCount settings :=
    fun key hkey => h.free hnone key (Option.filter_eq_some_iff.mp hkey).1
  cases hcount : hincrby ((s.liveKey i.clock).map ThrottleKey.hash) with
  | none =>
    have hkey : recordFailureKey settings i.clock i.now (s.liveKey i.clock) = s.liveKey i.clock := by
      rw [recordFailureKey, hcount]
    rw [failed, hkey]
    refine ⟨neverRelaxes_cons h.relaxes fun last hlast lock hlock => ?_,
      outlivesWindow_live h.window i.clock, fun _ => hfreeKey, ?_⟩
    · cases (hnone last hlast).symm.trans hlock
    · rintro last ⟨⟩ lock hlock
      cases hfree.symm.trans hlock
  | some hash =>
    refine inv_of_counted h hguard hfree hcount (fun last hlast lock hlock => ?_) fun hpos hle => ?_
    · cases (hnone last hlast).symm.trans hlock
    · exact (failCount_le_of_free hfreeKey hcount hpos hle).trans (Nat.le_add_right _ _)

theorem inv_step {s t : Account} {i : Attempt} (h : LockoutInv settings s)
    (hstep : validateCredentials settings s i = some t) (hguard : WithinKeyLife settings s i) :
    LockoutInv settings t := by
  rw [validateCredentials] at hstep
  split at hstep
  · cases hstep
    exact h
  · rename_i hfree
    cases hstep
    by_cases hnone : ∀ last ∈ s.failures.head?, last.lock? = none
    · exact inv_of_free h hguard hfree hnone
    · push Not at hnone
      obtain ⟨last, hlast, hlock⟩ := hnone
      obtain ⟨lock, hlock⟩ := Option.ne_none_iff_exists'.mp hlock
      exact inv_of_held h hguard hfree hlast hlock

theorem inv_new : LockoutInv settings Account.new :=
  ⟨List.Pairwise.nil, fun _ hkey => (by cases hkey), fun _ _ hkey => (by cases hkey),
    fun _ hlast => (by cases hlast)⟩

/-- Under continued attack the lockout never relaxes: whatever the settings, while every failure
finds the last lock over and the key of the last failure alive. -/
theorem neverRelaxes_of_withinKeyLife (settings : LocalAuthenticationSettings) (inputs : List Attempt)
    (hrun : Along (validateCredentials settings) (fun s i _ => WithinKeyLife settings s i) .new
      inputs) :
    Along (validateCredentials settings) (fun _ _ t => NeverRelaxes t.failures) .new inputs :=
  hrun.of_invariant (fun _ _ _ => inv_step)
    (fun _ _ _ h hstep hguard => (inv_step h hstep hguard).relaxes) inv_new

end Run

/-- The settings of the default configuration. -/
def defaultSettings : LocalAuthenticationSettings := ⟨5, 3600, 300, 3600⟩

/-- Failed logins at these seconds, on the clock of the API and on the one of the server. -/
def attempts (seconds : List ℕ) : List Attempt := seconds.map fun now => ⟨now, 1000 * now⟩

/-- Six failures lock twice, with a rejected login in between. -/
theorem attempts_neverRelax :
    Along (validateCredentials defaultSettings) (fun _ _ t => NeverRelaxes t.failures) .new
      (attempts [0, 1, 2, 3, 4, 100, 304, 3500]) :=
  neverRelaxes_of_withinKeyLife _ _ (by decide +kernel)

/-- The first lock of the default settings is over after 300 seconds, and forgotten after 3600: the
next failure comes within an hour of the end of the lock, and goes without a lock. A lock of 2^52
seconds comes to one less the second time, where the sum is rounded. -/
theorem expiredKey_relaxes :
    (Along (validateCredentials defaultSettings) (fun s i _ => WithinWindow defaultSettings s i) .new
        (attempts [0, 1, 2, 3, 4, 3700]) ∧
      ¬Along (validateCredentials defaultSettings) (fun _ _ t => NeverRelaxes t.failures) .new
        (attempts [0, 1, 2, 3, 4, 3700])) ∧
      Along (validateCredentials ⟨1, 900, 2 ^ 52, 2 ^ 52⟩)
          (fun s i _ => WithinWindow ⟨1, 900, 2 ^ 52, 2 ^ 52⟩ s i) .new (attempts [1, 2 ^ 52 + 1]) ∧
        ¬Along (validateCredentials ⟨1, 900, 2 ^ 52, 2 ^ 52⟩)
          (fun _ _ t => NeverRelaxes t.failures) .new (attempts [1, 2 ^ 52 + 1]) := by
  decide +kernel

end UniversalInbox.LoginThrottle
