import Mathlib.Data.List.Infix
import Mathlib.Data.List.MinMax
import UniversalInbox.Core
import UniversalInbox.Notification

/-! Google Drive comments, and which of them become third party items. -/
namespace UniversalInbox.GoogleDrive

structure GoogleDriveCommentAuthor where
  displayName : String
  emailAddress : Option String
  photoLink : Option String
deriving DecidableEq, Repr

structure GoogleDriveCommentReply where
  id : String
  content : String
  htmlContent : Option String
  author : GoogleDriveCommentAuthor
  createdTime : DateTime
  modifiedTime : DateTime
  action : Option String
deriving DecidableEq, Repr

structure GoogleDriveComment where
  id : String
  fileId : String
  fileName : String
  fileMimeType : String
  content : String
  htmlContent : Option String
  quotedFileContent : Option String
  author : GoogleDriveCommentAuthor
  createdTime : DateTime
  modifiedTime : DateTime
  resolved : Option Bool
  replies : List GoogleDriveCommentReply
  userEmailAddress : Option String
  userDisplayName : Option String
deriving DecidableEq, Repr

/-- The identifiers of the provider contain no `#`. -/
def GoogleDriveComment.sourceId (comment : GoogleDriveComment) : String :=
  s!"{comment.fileId}#{comment.id}"

/-- By email address or, for want of one, by display name. -/
def GoogleDriveCommentAuthor.isUser (author : GoogleDriveCommentAuthor)
    (userDisplayName userEmail : String) : Bool :=
  author.emailAddress == some userEmail || author.displayName == userDisplayName

/-- `str::contains`. -/
def textContains (text pattern : String) : Bool := decide (pattern.toList <:+: text.toList)

def isAfter (afterTime : Option DateTime) (time : DateTime) : Bool := afterTime.all (· < time)

namespace GoogleDriveComment

def isLastReplyFromUser (comment : GoogleDriveComment) : Bool :=
  match comment.userEmailAddress, comment.userDisplayName with
  | some userEmail, some userDisplayName =>
    comment.replies.getLast?.any (·.author.isUser userDisplayName userEmail)
  | _, _ => false

def isUserMentioned (comment : GoogleDriveComment) (userDisplayName userEmail : String)
    (afterTime : Option DateTime) : Bool :=
  if comment.replies.getLast?.any (·.author.isUser userDisplayName userEmail) then false
  else if isAfter afterTime comment.modifiedTime &&
      comment.author.isUser userDisplayName userEmail then
    !comment.replies.isEmpty
  else if isAfter afterTime comment.modifiedTime && textContains comment.content userEmail then true
  else
    comment.replies.any fun reply =>
      isAfter afterTime reply.modifiedTime &&
        (reply.author.isUser userDisplayName userEmail || textContains reply.content userEmail)

/-- The instants that a comment bears: its own and those of its replies. -/
def times (comment : GoogleDriveComment) : List DateTime :=
  comment.modifiedTime :: comment.replies.map (·.modifiedTime)

end GoogleDriveComment

/-- What is read of the notification of a comment: its status, and the last update of its third
party item. -/
structure ExistingNotification where
  status : NotificationStatus
  lastUpdate : DateTime
deriving DecidableEq, Repr

def shouldCreateItem (existing : Option ExistingNotification) (comment : GoogleDriveComment)
    (displayName userEmail : String) : Bool :=
  match existing with
  | some notification =>
    if notification.status ≠ .unsubscribed then decide (notification.lastUpdate < comment.modifiedTime)
    else comment.isUserMentioned displayName userEmail (some notification.lastUpdate)
  | none => comment.isUserMentioned displayName userEmail none

/-- The status of the notification a comment is converted to. -/
def intoStatus (comment : GoogleDriveComment) : NotificationStatus :=
  if comment.isLastReplyFromUser then .deleted else .unread

/-- What the fetch makes of a comment before it is stored. -/
def withUser (comment : GoogleDriveComment) (displayName userEmail : String) : GoogleDriveComment :=
  { comment with userEmailAddress := some userEmail, userDisplayName := some displayName }

section Concern
variable {comment : GoogleDriveComment} {displayName userEmail : String}

/-- Whether a comment concerns the user: `last` is the last version of it that has been seen, where
the code compares with the last update of the item. -/
def concerns (status : Option NotificationStatus) (last : Option DateTime)
    (comment : GoogleDriveComment) (displayName userEmail : String) : Bool :=
  match status with
  | some status =>
    if status ≠ .unsubscribed then isAfter last comment.modifiedTime
    else comment.isUserMentioned displayName userEmail last
  | none => comment.isUserMentioned displayName userEmail none

/-- A mention that is new after `last` is new after any instant that no later version precedes. -/
theorem isUserMentioned_mono {last after : Option DateTime}
    (hmono : ∀ τ ∈ comment.times, isAfter last τ = true → isAfter after τ = true)
    (h : comment.isUserMentioned displayName userEmail last = true) :
    comment.isUserMentioned displayName userEmail after = true := by
  have hcomment : isAfter last comment.modifiedTime = true →
      isAfter after comment.modifiedTime = true := hmono _ List.mem_cons_self
  unfold GoogleDriveComment.isUserMentioned at h ⊢
  by_cases hanswered : comment.replies.getLast?.any (·.author.isUser displayName userEmail) = true
  · rw [if_pos hanswered] at h
    cases h
  rw [if_neg hanswered] at h ⊢
  have hreplies : (comment.replies.any fun reply =>
      isAfter last reply.modifiedTime &&
        (reply.author.isUser displayName userEmail || textContains reply.content userEmail)) = true →
      (comment.replies.any fun reply =>
        isAfter after reply.modifiedTime &&
          (reply.author.isUser displayName userEmail ||
            textContains reply.content userEmail)) = true := by
    intro hany
    obtain ⟨reply, hreply, hmentions⟩ := List.any_eq_true.mp hany
    obtain ⟨hnew, hmentions⟩ := Bool.and_eq_true_iff.mp hmentions
    refine List.any_eq_true.mpr ⟨reply, hreply, Bool.and_eq_true_iff.mpr ⟨?_, hmentions⟩⟩
    exact hmono _ (List.mem_cons_of_mem _ (List.mem_map_of_mem hreply)) hnew
  cases hnew : isAfter last comment.modifiedTime with
  | true =>
    -- The comment itself is new, and it is read the same way after both instants.
    rw [hnew] at h
    rw [hcomment hnew]
    split at h
    · rw [if_pos (by assumption)]
      exact h
    · rw [if_neg (by assumption)]
      split at h
      · rw [if_pos (by assumption)]
      · rw [if_neg (by assumption)]
        exact hreplies h
  | false =>
    -- Only a reply can be new, so the comment has one.
    rw [hnew] at h
    simp only [Bool.false_and, Bool.false_eq_true, if_false] at h
    have hsome : (!comment.replies.isEmpty) = true := by
      obtain ⟨reply, hreply, -⟩ := List.any_eq_true.mp h
      rw [List.isEmpty_eq_false_iff.mpr (List.ne_nil_of_mem hreply)]
      rfl
    split
    · exact hsome
    · split
      · rfl
      · exact hreplies h

/-- An item that is of concern is created, where no version of its comment falls between the last
version seen and the last update of the item. -/
theorem shouldCreateItem_of_concerns {existing : Option ExistingNotification}
    {last : Option DateTime}
    (hmono : ∀ notification ∈ existing, ∀ τ ∈ comment.times,
      isAfter last τ = true → notification.lastUpdate < τ)
    (h : concerns (existing.map (·.status)) last comment displayName userEmail = true) :
    shouldCreateItem existing comment displayName userEmail = true := by
  unfold concerns at h
  unfold shouldCreateItem
  cases existing with
  | none => exact h
  | some notification =>
    simp only [Option.map_some] at h ⊢
    have hnotification := hmono notification rfl
    by_cases hstatus : notification.status ≠ .unsubscribed
    · rw [if_pos hstatus] at h ⊢
      exact decide_eq_true (hnotification _ List.mem_cons_self h)
    · rw [if_neg hstatus] at h ⊢
      exact isUserMentioned_mono (fun τ hτ hlast => by simpa [isAfter] using hnotification τ hτ hlast) h

end Concern

/-- What the two readings of a comment have to say about one user. -/
structure MentionsAgree (comment : GoogleDriveComment) (displayName userEmail : String) : Prop where
  earlier : ∀ t₁ t₂ : DateTime, t₁ ≤ t₂ →
    comment.isUserMentioned displayName userEmail (some t₂) = true →
      comment.isUserMentioned displayName userEmail (some t₁) = true
  ever : ∀ t, comment.isUserMentioned displayName userEmail (some t) = true →
    comment.isUserMentioned displayName userEmail none = true
  answered : comment.userEmailAddress = some userEmail →
    comment.userDisplayName = some displayName → comment.isLastReplyFromUser = true →
      ∀ after, comment.isUserMentioned displayName userEmail after = false
  notDeleted : comment.userEmailAddress = some userEmail →
    comment.userDisplayName = some displayName →
      ∀ existing : Option ExistingNotification,
        (∀ notification ∈ existing, notification.status = .unsubscribed) →
          shouldCreateItem existing comment displayName userEmail = true →
            intoStatus comment ≠ .deleted

section Agreement
variable {comment : GoogleDriveComment} {displayName userEmail : String}

theorem isLastReplyFromUser_of_user (hemail : comment.userEmailAddress = some userEmail)
    (hname : comment.userDisplayName = some displayName) :
    comment.isLastReplyFromUser =
      comment.replies.getLast?.any (·.author.isUser displayName userEmail) := by
  unfold GoogleDriveComment.isLastReplyFromUser
  rw [hemail, hname]

/-- Who has the last word is not mentioned. -/
theorem isUserMentioned_of_answered
    (h : comment.replies.getLast?.any (·.author.isUser displayName userEmail) = true)
    (after : Option DateTime) : comment.isUserMentioned displayName userEmail after = false := by
  unfold GoogleDriveComment.isUserMentioned
  exact if_pos h

theorem isUserMentioned_of_shouldCreateItem {existing : Option ExistingNotification}
    (hexisting : ∀ notification ∈ existing, notification.status = .unsubscribed)
    (h : shouldCreateItem existing comment displayName userEmail = true) :
    ∃ after, comment.isUserMentioned displayName userEmail after = true := by
  unfold shouldCreateItem at h
  cases existing with
  | none => exact ⟨none, h⟩
  | some notification =>
    have hstatus := hexisting notification rfl
    dsimp only at h
    rw [if_neg (not_not.mpr hstatus)] at h
    exact ⟨_, h⟩

theorem mentionsAgree (comment : GoogleDriveComment) (displayName userEmail : String) :
    MentionsAgree comment displayName userEmail := by
  have hanswered : comment.userEmailAddress = some userEmail →
      comment.userDisplayName = some displayName → comment.isLastReplyFromUser = true →
        ∀ after, comment.isUserMentioned displayName userEmail after = false := by
    intro hemail hname hlast
    rw [isLastReplyFromUser_of_user hemail hname] at hlast
    exact isUserMentioned_of_answered hlast
  constructor
  case earlier =>
    intro t₁ t₂ hle
    refine isUserMentioned_mono fun τ _ hτ => ?_
    simp only [isAfter, Option.all_some, decide_eq_true_eq] at hτ ⊢
    exact lt_of_le_of_lt hle hτ
  case ever =>
    intro t
    exact isUserMentioned_mono fun _ _ _ => rfl
  case answered => exact hanswered
  case notDeleted =>
    intro hemail hname existing hexisting hcreate hdeleted
    obtain ⟨after, hmentioned⟩ := isUserMentioned_of_shouldCreateItem hexisting hcreate
    cases hlast : comment.isLastReplyFromUser with
    | true =>
      rw [hanswered hemail hname hlast after] at hmentioned
      cases hmentioned
    | false =>
      rw [intoStatus, hlast] at hdeleted
      cases hdeleted

end Agreement

end UniversalInbox.GoogleDrive
