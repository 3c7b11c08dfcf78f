import Mathlib.Algebra.Order.Ring.Int

/-! Identifiers, instants and provider kinds shared by every part of the inbox. -/
namespace UniversalInbox

/-- Nanoseconds since the Unix epoch, the resolution of `chrono::DateTime<Utc>`. -/
abbrev DateTime := Int

/-- Wall-clock values without a zone, counted the same way. -/
abbrev NaiveDateTime := Int

/-- Days since the Unix epoch. -/
abbrev NaiveDate := Int

structure UserId where
  uuid : Nat
deriving DecidableEq, Repr

structure NotificationId where
  uuid : Nat
deriving DecidableEq, Repr

structure TaskId where
  uuid : Nat
deriving DecidableEq, Repr

structure ThirdPartyItemId where
  uuid : Nat
deriving DecidableEq, Repr

structure IntegrationConnectionId where
  uuid : Nat
deriving DecidableEq, Repr

inductive IntegrationProviderKind where
  | github
  | linear
  | googleCalendar
  | googleDrive
  | googleMail
  | notion
  | slack
  | todoist
  | tickTick
  | api
deriving DecidableEq, Repr

def IntegrationProviderKind.isTaskService (kind : IntegrationProviderKind) : Bool :=
  kind == .todoist || kind == .tickTick

/-- `UniversalInboxError`, as far as the modelled functions raise it. -/
inductive UniversalInboxError where
  | alreadyExists (id : Nat)
  | databaseError (message : String)
  | itemNotFound (message : String)
  | forbidden (message : String)
  | unsupportedAction (message : String)
  | invalidInputData (userError : String)
  | unexpected (message : String)
  | oauth2InvalidGrant (detail : String)
deriving DecidableEq, Repr

/-- `char::is_whitespace`. -/
def isWhitespace (c : Char) : Bool :=
  (0x9 ≤ c.toNat && c.toNat ≤ 0xD) || (0x2000 ≤ c.toNat && c.toNat ≤ 0x200A) ||
    [0x20, 0x85, 0xA0, 0x1680, 0x2028, 0x2029, 0x202F, 0x205F, 0x3000].contains c.toNat

/-- `2000-01-01T00:00:00Z`, the origin of Postgres timestamps. -/
def postgresEpoch : DateTime := 946684800 * 1000000000

/-- What a `TIMESTAMP` column keeps of an instant: whole microseconds from the Postgres
epoch, the rest cut off towards it. -/
def pgTimestamp (t : DateTime) : DateTime :=
  postgresEpoch + (t - postgresEpoch).tdiv 1000 * 1000

theorem pgTimestamp_pgTimestamp (t : DateTime) : pgTimestamp (pgTimestamp t) = pgTimestamp t := by
  unfold pgTimestamp
  rw [add_sub_cancel_left, Int.mul_tdiv_cancel _ (by decide)]

end UniversalInbox
