import UniversalInbox.Core
import UniversalInbox.Library.Uuid

/-! The row of a user, that of the local authentication method, and what the statements of the
user repository make of their columns. -/
namespace UniversalInbox.User

abbrev EmailAddress := String

def userIdText (userId : UserId) : String := String.ofList (Uuid.hyphenated userId.uuid)

structure EmailValidationToken where
  uuid : Nat
deriving DecidableEq, Repr

structure PasswordResetToken where
  uuid : Nat
deriving DecidableEq, Repr

inductive UserAuthKind where
  | localAuth
  | oidcGoogleAuthorizationCode
  | oidcAuthorizationCodePKCE
  | passkey
deriving DecidableEq, Repr

def UserAuthKind.display : UserAuthKind → String
  | localAuth => "Local"
  | oidcGoogleAuthorizationCode => "OIDCGoogleAuthorizationCode"
  | oidcAuthorizationCodePKCE => "OIDCAuthorizationCodePKCE"
  | passkey => "Passkey"

def UserAuthKind.isOidc : UserAuthKind → Bool
  | oidcGoogleAuthorizationCode | oidcAuthorizationCodePKCE => true
  | localAuth | passkey => false

/-- The errors of the user routes, with those that no other part of the inbox raises. -/
inductive Refusal where
  | unauthorized (message : String)
  | conflict (message : String)
  | error (error : UniversalInboxError)
deriving DecidableEq, Repr

/-- What the services read of their settings: the rejection message of `email_domain_blacklist`
for the domain of an address. -/
structure UserService where
  rejectionMessage : EmailAddress → Option String

structure UserPatch where
  firstName : Option String := none
  lastName : Option String := none
  email : Option EmailAddress := none
deriving DecidableEq, Repr

structure UserRow where
  firstName : Option String
  lastName : Option String
  email : Option EmailAddress
  emailValidatedAt : Option DateTime
  emailValidationSentAt : Option DateTime
  emailValidationToken : Option EmailValidationToken
  isTesting : Bool
  updatedAt : DateTime
deriving DecidableEq, Repr

/-- `create_user` inserts no validation column. -/
def createUser (firstName lastName : Option String) (email : Option EmailAddress)
    (isTesting : Bool) (now : DateTime) : UserRow where
  firstName := firstName
  lastName := lastName
  email := email
  emailValidatedAt := none
  emailValidationSentAt := none
  emailValidationToken := none
  isTesting := isTesting
  updatedAt := now

def UserPatch.isEmpty (patch : UserPatch) : Bool :=
  patch.firstName.isNone && patch.lastName.isNone && patch.email.isNone

/-- The assignments of `update_user_profile`. -/
def updateUserProfile (patch : UserPatch) (now : DateTime) (row : UserRow) : UserRow :=
  { row with
    firstName := patch.firstName.or row.firstName
    lastName := patch.lastName.or row.lastName
    email := patch.email.or row.email
    emailValidatedAt := if patch.email.isSome then none else row.emailValidatedAt
    emailValidationSentAt := if patch.email.isSome then none else row.emailValidationSentAt
    updatedAt := now }

/-- `column is NULL OR column != value`, for the columns that are assigned. -/
def differs {α : Type} [DecidableEq α] (value column : Option α) : Bool :=
  value.any fun value => decide (column ≠ some value)

/-- `is_updated` of `update_user_profile`, on the row as the snapshot of the statement has it. -/
def profileUpdated (patch : UserPatch) (snapshot : UserRow) : Bool :=
  differs patch.firstName snapshot.firstName || differs patch.lastName snapshot.lastName ||
    differs patch.email snapshot.email

def updateEmailValidationParameters (emailValidatedAt emailValidationSentAt : Option DateTime)
    (emailValidationToken : Option EmailValidationToken) (row : UserRow) : UserRow :=
  { row with
    emailValidatedAt := emailValidatedAt.or row.emailValidatedAt
    emailValidationSentAt := emailValidationSentAt.or row.emailValidationSentAt
    emailValidationToken := emailValidationToken.or row.emailValidationToken }

def emailValidationParametersUpdated
    (emailValidatedAt emailValidationSentAt : Option DateTime)
    (emailValidationToken : Option EmailValidationToken) (snapshot : UserRow) : Bool :=
  differs emailValidatedAt snapshot.emailValidatedAt ||
    differs emailValidationSentAt snapshot.emailValidationSentAt ||
    differs emailValidationToken snapshot.emailValidationToken

structure LocalUserAuthRow where
  id : Nat
  passwordHash : String
  passwordResetAt : Option DateTime
  passwordResetSentAt : Option DateTime
  passwordResetToken : Option PasswordResetToken
deriving DecidableEq, Repr

/-- `create_user_auth` inserts no reset column. -/
def createLocalUserAuth (id : Nat) (passwordHash : String) : LocalUserAuthRow :=
  ⟨id, passwordHash, none, none, none⟩

def updatePasswordResetParameters (passwordResetSentAt : Option DateTime)
    (passwordResetToken : Option PasswordResetToken) (row : LocalUserAuthRow) : LocalUserAuthRow :=
  { row with
    passwordResetSentAt := passwordResetSentAt.or row.passwordResetSentAt
    passwordResetToken := passwordResetToken.or row.passwordResetToken }

def updatePassword (passwordHash : String) (now : DateTime) (row : LocalUserAuthRow) :
    LocalUserAuthRow :=
  { row with passwordHash, passwordResetAt := some now, passwordResetToken := none }

def noAddress (userId : UserId) : UniversalInboxError :=
  .unexpected s!"Failed to build email for user {userId.uuid} without an email address"

def cannotLink (kind : UserAuthKind) : UniversalInboxError :=
  .invalidInputData s!"Cannot link non-OIDC authentication method {kind.display}"

def authNotCreated (userId : UserId) : UniversalInboxError :=
  .databaseError s!"Failed to create user auth for user {userId.uuid}"

end UniversalInbox.User
