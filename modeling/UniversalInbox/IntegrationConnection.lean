import UniversalInbox.Library.Table
import UniversalInbox.Core

/-! Integration connections: the stored row, with one group of columns for each of the two
sync types, and the configuration flags that decide what a connection feeds. -/
namespace UniversalInbox

inductive IntegrationConnectionStatus where
  | created
  | validated
  | failing
deriving DecidableEq, Repr

inductive IntegrationConnectionSyncType where
  | notifications
  | tasks
deriving DecidableEq, Repr

instance decidableForallSyncType {p : IntegrationConnectionSyncType → Prop}
    [∀ type, Decidable (p type)] : Decidable (∀ type, p type) :=
  decidable_of_iff (p .notifications ∧ p .tasks)
    ⟨fun h type => by cases type; exacts [h.1, h.2], fun h => ⟨h _, h _⟩⟩

/-- The flags of `IntegrationConnectionConfig` that are read below; the providers without
such a flag keep none. -/
inductive IntegrationConnectionConfig where
  | github (syncNotificationsEnabled : Bool)
  | linear (syncNotificationsEnabled : Bool)
  | googleCalendar
  | googleDrive (syncNotificationsEnabled : Bool)
  | googleMail (syncNotificationsEnabled : Bool)
  | notion
  | slack (messageSyncEnabled : Bool)
  | todoist
  | tickTick
  | api
deriving DecidableEq, Repr

namespace IntegrationConnectionConfig

def kind : IntegrationConnectionConfig → IntegrationProviderKind
  | .github _ => .github
  | .linear _ => .linear
  | .googleCalendar => .googleCalendar
  | .googleDrive _ => .googleDrive
  | .googleMail _ => .googleMail
  | .notion => .notion
  | .slack _ => .slack
  | .todoist => .todoist
  | .tickTick => .tickTick
  | .api => .api

def isSyncNotificationsEnabled : IntegrationConnectionConfig → Bool
  | .github enabled | .linear enabled | .googleDrive enabled | .googleMail enabled
  | .slack enabled => enabled
  | _ => false

/-- Only the providers with a notification flag of their own can be muted. -/
def areNotificationsMuted (config : IntegrationConnectionConfig) : Bool :=
  match config with
  | .github _ | .linear _ | .googleDrive _ | .googleMail _ | .slack _ =>
    !config.isSyncNotificationsEnabled
  | _ => false

/-- API notifications are pushed in, so no synchronization could bring them back. -/
def canRestoreSetAsideNotifications (config : IntegrationConnectionConfig) : Bool :=
  match config with
  | .api => false
  | _ => true

def areNotificationsReconciledByTasksSync : IntegrationConnectionConfig → Bool
  | .todoist | .tickTick => true
  | _ => false

end IntegrationConnectionConfig

/-- The columns a connection has once for each sync type:
`last_{notifications,tasks}_sync_scheduled_at` and so on. -/
structure SyncColumns where
  scheduledAt : Option DateTime
  startedAt : Option DateTime
  completedAt : Option DateTime
  failedAt : Option DateTime
  failureMessage : Option String
  failures : Nat
  firstFailedAt : Option DateTime
deriving DecidableEq, Repr

structure IntegrationConnectionRow where
  id : IntegrationConnectionId
  userId : UserId
  providerKind : IntegrationProviderKind
  providerUserId : Option String
  status : IntegrationConnectionStatus
  failureMessage : Option String
  notificationsSync : SyncColumns
  tasksSync : SyncColumns
  config : IntegrationConnectionConfig
  registeredOauthScopes : List String
deriving DecidableEq, Repr

namespace IntegrationConnectionRow
variable (row : IntegrationConnectionRow)

def sync : IntegrationConnectionSyncType → SyncColumns
  | .notifications => row.notificationsSync
  | .tasks => row.tasksSync

def setSync (columns : SyncColumns) : IntegrationConnectionSyncType → IntegrationConnectionRow
  | .notifications => { row with notificationsSync := columns }
  | .tasks => { row with tasksSync := columns }

def isConnected : Bool := row.status == .validated

def shouldSetAsideNotifications : Bool :=
  row.config.canRestoreSetAsideNotifications &&
    (row.status == .created || row.config.areNotificationsMuted)

variable {row} {columns : SyncColumns} {type type' : IntegrationConnectionSyncType}

@[simp] theorem setSync_id : (row.setSync columns type).id = row.id := by cases type <;> rfl

@[simp] theorem setSync_userId : (row.setSync columns type).userId = row.userId := by
  cases type <;> rfl

@[simp] theorem setSync_providerKind : (row.setSync columns type).providerKind = row.providerKind := by
  cases type <;> rfl

@[simp] theorem setSync_status : (row.setSync columns type).status = row.status := by
  cases type <;> rfl

@[simp] theorem sync_setSync_self : (row.setSync columns type).sync type = columns := by
  cases type <;> rfl

theorem sync_setSync_of_ne (h : type' ≠ type) : (row.setSync columns type).sync type' = row.sync type' := by
  cases type <;> cases type' <;> first | rfl | exact absurd rfl h

end IntegrationConnectionRow

abbrev IntegrationConnectionTable := Table IntegrationConnectionRow.id

end UniversalInbox
