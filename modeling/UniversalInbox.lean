import UniversalInbox.NotificationListing
import UniversalInbox.JobQueue
import UniversalInbox.SyncClaims
import UniversalInbox.TaskUpsert
import UniversalInbox.NotificationStore
import UniversalInbox.BulkPatch
import UniversalInbox.SetAside
import UniversalInbox.SetAsideRoundTrip
import UniversalInbox.ThirdPartyItemReread
import UniversalInbox.TodoistSync
import UniversalInbox.FailureWindow
import UniversalInbox.Propagation
import UniversalInbox.TaskResync
import UniversalInbox.ClientRevocation
import UniversalInbox.PatchAgreement
import UniversalInbox.GoogleDriveSync
import UniversalInbox.StalePass
import UniversalInbox.NotificationResync
import UniversalInbox.FullNotificationSync
import UniversalInbox.LinearSync
import UniversalInbox.LoginThrottle
import UniversalInbox.EmailValidation
import UniversalInbox.PasswordReset
import UniversalInbox.AuthMethods
import UniversalInbox.ProviderSecrets
import UniversalInbox.TokenRefresh
import UniversalInbox.OneGrant
import UniversalInbox.Lockout
import UniversalInbox.FilteredPatch
import UniversalInbox.PatchIsolation
import UniversalInbox.SourceIsolation
import UniversalInbox.SyncingStatus
import UniversalInbox.AutoDeleteOrder
import UniversalInbox.FullTaskResync
import UniversalInbox.SubscriptionKept
import UniversalInbox.ReactionEvents
import UniversalInbox.UpstreamIdentity
import UniversalInbox.InboxNotifications
import UniversalInbox.UpstreamTaskCreation
import UniversalInbox.FailureBookkeeping
import UniversalInbox.SlackBridge
import UniversalInbox.CronTicks
import UniversalInbox.NotificationsPage
import UniversalInbox.TaskUpdateReport
import UniversalInbox.OwnerIsolation
import UniversalInbox.TodoistCommands
import UniversalInbox.Library.AddressBlocks
import UniversalInbox.Library.Hex
import UniversalInbox.Library.I64
import UniversalInbox.KnownThreads
import UniversalInbox.RedirectUris
import UniversalInbox.Cimd
import UniversalInbox.TokenReplay
import UniversalInbox.SlackSignature
import UniversalInbox.GoogleMail
import UniversalInbox.Library.Saturation
import UniversalInbox.SyncBackoff
import UniversalInbox.TaskCreationThrottle
import UniversalInbox.Library.Results
import UniversalInbox.PresetDueDates
import UniversalInbox.DueDates
import UniversalInbox.SnoozeTimes
import UniversalInbox.GithubUrls
import UniversalInbox.SlackTokenGrants
import UniversalInbox.VacuumJobs
import UniversalInbox.PlainTextMails
import UniversalInbox.Library.Civil
import UniversalInbox.Library.DateText
import UniversalInbox.DueDateText
import UniversalInbox.EventRecurrence
import UniversalInbox.Library.Rewriting
import UniversalInbox.Library.Patterns
import UniversalInbox.EmojiCodes
import UniversalInbox.SlackMarkdown
import UniversalInbox.Library.OneTime
import UniversalInbox.Library.Uuid
import UniversalInbox.PasskeyCeremonies
import UniversalInbox.OidcSessions
import UniversalInbox.RequestPipeline
import UniversalInbox.DelegatedAccess
import UniversalInbox.McpSessions
import UniversalInbox.ClientMetadata
import UniversalInbox.OAuthAuthorization
import UniversalInbox.SlackCaches
import UniversalInbox.GithubListing
import UniversalInbox.AccountDeletion
import UniversalInbox.ReactionGate
