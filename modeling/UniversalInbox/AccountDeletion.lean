import UniversalInbox.Library.ForeignKeys
import UniversalInbox.User

/-! The deletion of an account: one `DELETE FROM "user"`, and what the foreign keys of the other
tables make of it. -/
namespace UniversalInbox.AccountDeletion

open User (userIdText)
open ForeignKeys

/-- The rows of the tables that refer to others or are referred to, by those columns and the
primary key. -/
inductive Row where
  | user (id : UserId)
  | authenticationToken (id : Nat) (userId : UserId)
  | userAuth (id : Nat) (userId : UserId)
  | userPreferences (userId : UserId)
  | integrationConnection (id : IntegrationConnectionId) (userId : UserId)
  | integrationConnectionConfig (id : Nat) (integrationConnectionId : IntegrationConnectionId)
  | oauthCredential (integrationConnectionId : IntegrationConnectionId)
  | thirdPartyItem (id : ThirdPartyItemId) (userId : UserId)
      (integrationConnectionId : IntegrationConnectionId) (sourceItemId : Option ThirdPartyItemId)
  | task (id : TaskId) (userId : UserId) (sourceItemId : ThirdPartyItemId)
      (sinkItemId : Option ThirdPartyItemId) (parentId : Option TaskId)
  | notification (id : NotificationId) (userId : UserId) (sourceItemId : ThirdPartyItemId)
      (taskId : Option TaskId)
  | oauth2Client (clientId : String)
  | oauth2AuthorizationCode (code : String) (clientId : String) (userId : UserId)
  | oauth2RefreshToken (id : Nat) (clientId : String) (userId : UserId)
  | oauth2UserConsent (userId : UserId) (clientId : String)
  | slackBridgePendingAction (id : Nat) (userId : UserId) (notificationId : Option NotificationId)
deriving DecidableEq

inductive Key where
  | user (id : UserId)
  | authenticationToken (id : Nat)
  | userAuth (id : Nat)
  | userPreferences (userId : UserId)
  | integrationConnection (id : IntegrationConnectionId)
  | integrationConnectionConfig (id : Nat)
  | oauthCredential (integrationConnectionId : IntegrationConnectionId)
  | thirdPartyItem (id : ThirdPartyItemId)
  | task (id : TaskId)
  | notification (id : NotificationId)
  | oauth2Client (clientId : String)
  | oauth2AuthorizationCode (code : String)
  | oauth2RefreshToken (id : Nat)
  | oauth2UserConsent (userId : UserId) (clientId : String)
  | slackBridgePendingAction (id : Nat)
deriving DecidableEq

def Row.key : Row → Key
  | user id => .user id
  | authenticationToken id _ => .authenticationToken id
  | userAuth id _ => .userAuth id
  | userPreferences userId => .userPreferences userId
  | integrationConnection id _ => .integrationConnection id
  | integrationConnectionConfig id _ => .integrationConnectionConfig id
  | oauthCredential connectionId => .oauthCredential connectionId
  | thirdPartyItem id _ _ _ => .thirdPartyItem id
  | task id _ _ _ _ => .task id
  | notification id _ _ _ => .notification id
  | oauth2Client clientId => .oauth2Client clientId
  | oauth2AuthorizationCode code _ _ => .oauth2AuthorizationCode code
  | oauth2RefreshToken id _ _ => .oauth2RefreshToken id
  | oauth2UserConsent userId clientId => .oauth2UserConsent userId clientId
  | slackBridgePendingAction id _ _ => .slackBridgePendingAction id

def Row.references : Row → List (Reference Key)
  | user _ | oauth2Client _ => []
  | authenticationToken _ userId | userAuth _ userId | userPreferences userId
  | integrationConnection _ userId => [⟨.user userId, .cascade⟩]
  | integrationConnectionConfig _ connectionId | oauthCredential connectionId =>
    [⟨.integrationConnection connectionId, .cascade⟩]
  | thirdPartyItem _ userId connectionId sourceItemId =>
    [⟨.user userId, .cascade⟩, ⟨.integrationConnection connectionId, .cascade⟩] ++
      sourceItemId.toList.map fun id => ⟨.thirdPartyItem id, .cascade⟩
  | task _ userId sourceItemId sinkItemId parentId =>
    [⟨.user userId, .cascade⟩, ⟨.thirdPartyItem sourceItemId, .cascade⟩] ++
      (sinkItemId.toList.map fun id => ⟨.thirdPartyItem id, .setNull⟩) ++
      parentId.toList.map fun id => ⟨.task id, .setNull⟩
  | notification _ userId sourceItemId taskId =>
    [⟨.user userId, .cascade⟩, ⟨.thirdPartyItem sourceItemId, .cascade⟩] ++
      taskId.toList.map fun id => ⟨.task id, .setNull⟩
  | oauth2AuthorizationCode _ clientId userId | oauth2RefreshToken _ clientId userId
  | oauth2UserConsent userId clientId =>
    [⟨.user userId, .cascade⟩, ⟨.oauth2Client clientId, .cascade⟩]
  | slackBridgePendingAction _ userId notificationId =>
    ⟨.user userId, .noAction⟩ ::
      notificationId.toList.map fun id => ⟨.notification id, .noAction⟩

def Row.clear (gone : Key → Bool) : Row → Row
  | task id userId sourceItemId sinkItemId parentId =>
    .task id userId sourceItemId (sinkItemId.filter fun id => !gone (.thirdPartyItem id))
      (parentId.filter fun id => !gone (.task id))
  | notification id userId sourceItemId taskId =>
    .notification id userId sourceItemId (taskId.filter fun id => !gone (.task id))
  | r => r

theorem key_clear (gone : Key → Bool) (r : Row) : (r.clear gone).key = r.key := by
  cases r <;> rfl

theorem toList_filter {α : Type*} {p : α → Bool} {o : Option α} :
    (o.filter p).toList = o.toList.filter p := by
  cases o with
  | none => rfl
  | some a => cases h : p a <;> simp [Option.filter, h]

theorem references_clear (gone : Key → Bool) (r : Row) : (r.clear gone).references =
    r.references.filter fun x => !(x.onDelete = .setNull && gone x.target) := by
  cases r <;> simp [Row.clear, Row.references, toList_filter, List.filter_map, Function.comp_def]

theorem clear_eq_self (gone : Key → Bool) (r : Row)
    (h : ∀ x ∈ r.references, x.onDelete = .setNull → gone x.target = false) : r.clear gone = r := by
  cases r with
  | task id userId sourceItemId sinkItemId parentId =>
    cases sinkItemId <;> cases parentId <;>
      simp_all [Row.clear, Row.references, Option.filter]
  | notification id userId sourceItemId taskId =>
    cases taskId <;> simp_all [Row.clear, Row.references, Option.filter]
  | _ => rfl

def schema : Schema Row Key :=
  ⟨Row.key, Row.references, Row.clear, key_clear, references_clear, clear_eq_self⟩

abbrev Tables := Table schema.key

/-- `UserRepository::delete_user`; `violation` is what the database says when it refuses. -/
def deleteUser (violation : String) (tables : Tables) (userId : UserId) :
    Except UniversalInboxError (Bool × Tables) :=
  match delete schema tables (.user userId) with
  | none => .error (.databaseError
      ("Failed to delete user " ++ userIdText userId ++ " from storage: " ++ violation))
  | some tables' => .ok (schema.among tables.rows (.user userId), tables')

/-- The column `user_id`, and the row of a user itself. -/
def Row.userId? : Row → Option UserId
  | user userId | authenticationToken _ userId | userAuth _ userId | userPreferences userId
  | integrationConnection _ userId | thirdPartyItem _ userId _ _ | task _ userId _ _ _
  | notification _ userId _ _ | oauth2AuthorizationCode _ _ userId | oauth2RefreshToken _ _ userId
  | oauth2UserConsent userId _ | slackBridgePendingAction _ userId _ => some userId
  | integrationConnectionConfig _ _ | oauthCredential _ | oauth2Client _ => none

/-- The connection through which a row without a `user_id` has one. -/
def Row.connection? : Row → Option IntegrationConnectionId
  | integrationConnectionConfig _ connectionId | oauthCredential connectionId => some connectionId
  | _ => none

def ownerOf (tables : Tables) (r : Row) : Option UserId :=
  match r.connection? with
  | none => r.userId?
  | some id => (tables.find? (.integrationConnection id)).bind Row.userId?

/-- Every reference is to a row of the same user, or to one that is nobody's. -/
def OwnersKept (tables : Tables) : Prop :=
  ∀ r ∈ tables.rows, ∀ x ∈ r.references, ∀ q ∈ tables.rows, q.key = x.target →
    ∀ userId ∈ ownerOf tables q, ownerOf tables r = some userId

variable {tables tables' : Tables} {userId : UserId} {r : Row} {violation : String} {deleted : Bool}

def Row.isPendingAction : Row → Bool
  | slackBridgePendingAction _ _ _ => true
  | _ => false

/-- The references of the pending actions, and no others, forbid a deletion. -/
theorem noAction_iff {x : Reference Key} (hx : x ∈ r.references) :
    x.onDelete = .noAction ↔ r.isPendingAction = true := by
  cases r with
  | user id => cases hx
  | oauth2Client clientId => cases hx
  | slackBridgePendingAction id owner notificationId =>
    refine iff_of_true ?_ rfl
    obtain rfl | hx := List.mem_cons.mp hx
    · rfl
    · obtain ⟨_, _, rfl⟩ := List.mem_map.mp hx
      rfl
  | _ =>
    refine iff_of_false (fun haction => ?_) Bool.false_ne_true
    simp only [Row.references, List.mem_cons, List.mem_append, List.mem_map, List.not_mem_nil,
      or_false] at hx
    grind

theorem not_goes_of_pendingAction (h : r.isPendingAction = true) :
    ¬Goes tables (.user userId) r := by
  intro hgoes
  refine Goes.induction (p := fun r => ¬r.isPendingAction = true) ?_ ?_ hgoes h
  · intro r _ hkey hpending
    cases r with
    | slackBridgePendingAction id owner notificationId => cases hkey
    | _ => cases hpending
  · intro q _ _ r _ x hx haction _ hpending
    rw [(noAction_iff hx).mpr hpending] at haction
    cases haction

theorem user_mem_references (h : r.userId? = some userId) : r = .user userId ∨
    ∃ x ∈ r.references, x.target = .user userId ∧ (x.onDelete = .cascade ∨ x.onDelete = .noAction) := by
  cases r <;> simp_all [Row.userId?, Row.references]

theorem connection_mem_references {id : IntegrationConnectionId} (h : r.connection? = some id) :
    ⟨.integrationConnection id, .cascade⟩ ∈ r.references := by
  cases r <;> simp_all [Row.connection?, Row.references]

theorem userId?_eq_none_of_connection {id : IntegrationConnectionId} (h : r.connection? = some id) :
    r.userId? = none := by
  cases r with
  | integrationConnectionConfig _ _ => rfl
  | oauthCredential _ => rfl
  | _ => cases h

theorem ownerOf_eq_some : ownerOf tables r = some userId ↔ r.userId? = some userId ∨
    ∃ id, r.connection? = some id ∧ .integrationConnection id userId ∈ tables.rows := by
  unfold ownerOf
  split
  next hnone =>
    rw [hnone]
    constructor
    · exact .inl
    · rintro (h | ⟨_, hid, _⟩)
      · exact h
      · cases hid
  next id hid =>
    rw [hid, userId?_eq_none_of_connection hid, Table.find?_bind_eq_some]
    constructor
    · rintro ⟨q, hq, hkey, howner⟩
      cases q with
      | integrationConnection id' owner =>
        cases hkey
        cases howner
        exact .inr ⟨_, rfl, hq⟩
      | _ => cases hkey
    · rintro (h | ⟨_, hid, hmem⟩)
      · cases h
      · cases hid
        exact ⟨_, hmem, rfl, rfl⟩

/-- What is a user's goes with the user, the pending actions apart. -/
theorem goes_of_owner (hi : Intact schema tables) (hr : r ∈ tables.rows)
    (howner : ownerOf tables r = some userId) :
    Goes tables (.user userId) r ∨ r.isPendingAction = true := by
  have hcolumn : ∀ r ∈ tables.rows, r.userId? = some userId →
      Goes tables (.user userId) r ∨ r.isPendingAction = true := by
    intro r hr huser
    obtain rfl | ⟨x, hx, htarget, haction⟩ := user_mem_references huser
    · exact .inl (Goes.root hr rfl)
    · obtain ⟨q, hq, hkey⟩ := hi r hr x hx
      obtain haction | haction := haction
      · exact .inl ((Goes.root hq (hkey.trans htarget)).cascade hr hx haction hkey)
      · exact .inr ((noAction_iff hx).mp haction)
  obtain huser | ⟨id, hid, hmem⟩ := ownerOf_eq_some.mp howner
  · exact hcolumn r hr huser
  · obtain hgoes | hpending := hcolumn _ hmem rfl
    · exact .inl (hgoes.cascade hr (connection_mem_references hid) rfl rfl)
    · cases hpending

theorem owner_of_goes (hkept : OwnersKept tables) (h : Goes tables (.user userId) r) :
    ownerOf tables r = some userId := by
  refine Goes.induction (p := fun r => ownerOf tables r = some userId) ?_ ?_ h
  · intro r _ hkey
    cases r with
    | user id =>
      cases hkey
      rfl
    | _ => cases hkey
  · intro q hq howner r hr x hx _ hkey
    exact hkept r hr x hx q hq hkey userId howner

theorem userId?_of_pendingAction (hpending : r.isPendingAction = true)
    (howner : ownerOf tables r = some userId) : r.userId? = some userId := by
  cases r with
  | slackBridgePendingAction id owner notificationId => exact howner
  | _ => cases hpending

theorem forbidden_of_pendingAction (hi : Intact schema tables) (hr : r ∈ tables.rows)
    (hpending : r.isPendingAction = true) (huser : r.userId? = some userId) :
    Forbidden tables (.user userId) := by
  obtain rfl | ⟨x, hx, htarget, -⟩ := user_mem_references huser
  · cases hpending
  · obtain ⟨q, hq, hkey⟩ := hi r hr x hx
    exact ⟨r, hr, not_goes_of_pendingAction hpending, x, hx, (noAction_iff hx).mpr hpending, q,
      Goes.root hq (hkey.trans htarget), hkey⟩

theorem forbidden_iff (hi : Intact schema tables) (hkept : OwnersKept tables) :
    Forbidden tables (.user userId) ↔
      ∃ r ∈ tables.rows, r.isPendingAction = true ∧ r.userId? = some userId := by
  constructor
  · rintro ⟨r, hr, -, x, hx, haction, q, hgoes, hkey⟩
    have hpending := (noAction_iff hx).mp haction
    have howner := hkept r hr x hx q hgoes.mem hkey userId (owner_of_goes hkept hgoes)
    exact ⟨r, hr, hpending, userId?_of_pendingAction hpending howner⟩
  · rintro ⟨r, hr, hpending, huser⟩
    exact forbidden_of_pendingAction hi hr hpending huser

theorem deleteUser_eq_ok : deleteUser violation tables userId = .ok (deleted, tables') ↔
    delete schema tables (.user userId) = some tables' ∧
      schema.among tables.rows (.user userId) = deleted := by
  unfold deleteUser
  split
  next hnone => simp [hnone]
  next hsome => simp [hsome, and_comm]

theorem deleteUser_eq_error : (∃ e, deleteUser violation tables userId = .error e) ↔
    Forbidden tables (.user userId) := by
  rw [← delete_eq_none]
  unfold deleteUser
  split
  next hnone => simp [hnone]
  next hsome => simp [hsome]

/-- A row that stays is as it was where what it refers to is of its own user. -/
theorem clear_of_stays (hkept : OwnersKept tables) (hr : r ∈ tables.rows)
    (howner : ownerOf tables r ≠ some userId) :
    schema.clear (gone schema tables (.user userId)) r = r := by
  refine clear_eq_self _ r fun x hx _ => ?_
  rw [← Bool.not_eq_true, gone_eq_true]
  rintro ⟨q, hgoes, hkey⟩
  exact howner (hkept r hr x hx q hgoes.mem hkey userId (owner_of_goes hkept hgoes))

theorem userId?_clear {gone : Key → Bool} : (schema.clear gone r).userId? = r.userId? := by
  cases r <;> rfl

/-- Nothing of the user is left, whoever the other rows refer to. -/
theorem ownerOf_of_delete (hi : Intact schema tables)
    (h : delete schema tables (.user userId) = some tables') (hr : r ∈ tables'.rows) :
    ownerOf tables' r ≠ some userId := by
  have hcolumn : ∀ r ∈ tables'.rows, r.userId? ≠ some userId := by
    rintro r hr huser
    obtain ⟨q, hq, hstays, rfl⟩ := (mem_of_delete h).mp hr
    rw [userId?_clear] at huser
    obtain hgoes | hpending := goes_of_owner hi hq (ownerOf_eq_some.mpr (.inl huser))
    · exact hstays hgoes
    · have hforbidden := forbidden_of_pendingAction hi hq hpending huser
      rw [delete_eq_none.mpr hforbidden] at h
      cases h
  intro howner
  obtain huser | ⟨id, -, hmem⟩ := ownerOf_eq_some.mp howner
  · exact hcolumn r hr huser
  · exact hcolumn _ hmem rfl

theorem mem_of_delete_iff (hi : Intact schema tables) (hkept : OwnersKept tables)
    (h : delete schema tables (.user userId) = some tables') :
    r ∈ tables'.rows ↔ r ∈ tables.rows ∧ ownerOf tables r ≠ some userId := by
  rw [mem_of_delete h]
  constructor
  · rintro ⟨q, hq, hstays, rfl⟩
    have howner : ownerOf tables q ≠ some userId := by
      intro howner
      obtain hgoes | hpending := goes_of_owner hi hq howner
      · exact hstays hgoes
      · have huser := userId?_of_pendingAction hpending howner
        rw [delete_eq_none.mpr (forbidden_of_pendingAction hi hq hpending huser)] at h
        cases h
    rw [clear_of_stays hkept hq howner]
    exact ⟨hq, howner⟩
  · rintro ⟨hr, howner⟩
    exact ⟨r, hr, fun hgoes => howner (owner_of_goes hkept hgoes), clear_of_stays hkept hr howner⟩

/-- An account is deleted with all that is its user's and, where every reference stays with its
user, with nothing else; one whose user ever put an action in the queue of the Slack bridge is
not deleted at all. -/
theorem deleteUser_exact (violation : String) (userId : UserId) (hi : Intact schema tables) :
    (∀ deleted tables', deleteUser violation tables userId = .ok (deleted, tables') →
      Intact schema tables' ∧ (deleted = true ↔ .user userId ∈ tables.rows) ∧
        ∀ r ∈ tables'.rows, ownerOf tables' r ≠ some userId) ∧
    (OwnersKept tables →
      ((∃ e, deleteUser violation tables userId = .error e) ↔
        ∃ r ∈ tables.rows, r.isPendingAction = true ∧ r.userId? = some userId) ∧
      ∀ deleted tables', deleteUser violation tables userId = .ok (deleted, tables') →
        ∀ r, r ∈ tables'.rows ↔ r ∈ tables.rows ∧ ownerOf tables r ≠ some userId) := by
  constructor
  · intro deleted tables' h
    obtain ⟨hdelete, rfl⟩ := deleteUser_eq_ok.mp h
    refine ⟨hi.delete hdelete, ?_, fun r hr => ownerOf_of_delete hi hdelete hr⟩
    rw [among_eq_true]
    constructor
    · rintro ⟨r, hr, hkey⟩
      cases r with
      | user id =>
        cases hkey
        exact hr
      | _ => cases hkey
    · intro hr
      exact ⟨_, hr, rfl⟩
  · intro hkept
    refine ⟨deleteUser_eq_error.trans (forbidden_iff hi hkept), fun deleted tables' h r => ?_⟩
    exact mem_of_delete_iff hi hkept (deleteUser_eq_ok.mp h).1

/-- Two users of one client; the second has an action in the queue. -/
def sampleTables : Tables :=
  ⟨[.user ⟨1⟩, .user ⟨2⟩, .integrationConnection ⟨1⟩ ⟨1⟩, .integrationConnection ⟨2⟩ ⟨2⟩,
    .oauthCredential ⟨1⟩, .thirdPartyItem ⟨1⟩ ⟨1⟩ ⟨1⟩ none, .thirdPartyItem ⟨2⟩ ⟨1⟩ ⟨1⟩ (some ⟨1⟩),
    .task ⟨1⟩ ⟨1⟩ ⟨1⟩ (some ⟨2⟩) none, .notification ⟨1⟩ ⟨1⟩ ⟨1⟩ (some ⟨1⟩), .oauth2Client "inbox",
    .oauth2UserConsent ⟨1⟩ "inbox", .thirdPartyItem ⟨3⟩ ⟨2⟩ ⟨2⟩ none, .notification ⟨2⟩ ⟨2⟩ ⟨3⟩ none,
    .slackBridgePendingAction 1 ⟨2⟩ (some ⟨2⟩)], by decide +kernel⟩

theorem sampleTables_exact :
    (∃ e, deleteUser "refused" sampleTables ⟨2⟩ = .error e) ∧
    ∃ tables', deleteUser "refused" sampleTables ⟨1⟩ = .ok (true, tables') ∧
      Intact schema tables' ∧ (∀ r ∈ tables'.rows, ownerOf tables' r ≠ some ⟨1⟩) ∧
      .oauth2Client "inbox" ∈ tables'.rows ∧ .notification ⟨2⟩ ⟨2⟩ ⟨3⟩ none ∈ tables'.rows := by
  have hi : Intact schema sampleTables := by
    unfold Intact
    decide +kernel
  have hkept : OwnersKept sampleTables := by
    unfold OwnersKept
    decide +kernel
  refine ⟨((deleteUser_exact "refused" ⟨2⟩ hi).2 hkept).1.mpr ⟨.slackBridgePendingAction 1 ⟨2⟩
    (some ⟨2⟩), by decide +kernel, rfl, rfl⟩, ?_⟩
  obtain ⟨h, hexact⟩ := deleteUser_exact "refused" ⟨1⟩ hi
  cases hdelete : deleteUser "refused" sampleTables ⟨1⟩ with
  | error e =>
    obtain ⟨r, hr, hpending, huser⟩ := (hexact hkept).1.mp ⟨e, hdelete⟩
    have hnone : ∀ r ∈ sampleTables.rows, r.isPendingAction = true → r.userId? ≠ some ⟨1⟩ := by
      decide +kernel
    exact absurd huser (hnone r hr hpending)
  | ok result =>
    obtain ⟨deleted, tables'⟩ := result
    obtain ⟨hintact, hfound, howner⟩ := h _ _ hdelete
    have hrows := (hexact hkept).2 _ _ hdelete
    rw [hfound.mpr (by decide +kernel)]
    exact ⟨tables', rfl, hintact, howner, (hrows _).mpr (by decide +kernel),
      (hrows _).mpr (by decide +kernel)⟩

end UniversalInbox.AccountDeletion
