import UniversalInbox.IntegrationConnection
import UniversalInbox.Library.FailFast
import UniversalInbox.SlackSubscription

/-! Replies in the threads that users follow. The webhook asks whether a thread is known before it
queues a message, and the job that handles the message asks again which items know it. -/
namespace UniversalInbox.KnownThreads
open SlackSubscription (SlackMessageConfig)
open SlackSubscription.Setting (findThirdPartyItemsForSourceId)
open StalePass (Row items notifications)

/-- What a message refers to; `isEmpty` also counts its channels and emojis. -/
structure SlackReferences where
  users : List String
  usergroups : List String
  isEmpty : Bool
  nobody_of_isEmpty : isEmpty = true → users = [] ∧ usergroups = []

/-- A message; `content` holds what its blocks and attachments refer to. -/
structure SlackMessageEvent where
  threadTs : Option String
  content : Option SlackReferences

inductive QueueReason where
  | hasReferences
  | knownThread
deriving DecidableEq, Repr

inductive DiscardReason where
  | noReferencesNoKnownThread
  | unknownEventType
deriving DecidableEq, Repr

inductive EventOutcome where
  | queued (reason : QueueReason)
  | discarded (reason : DiscardReason)
deriving DecidableEq, Repr

def EventOutcome.isQueued : EventOutcome → Bool
  | .queued _ => true
  | .discarded _ => false

section Webhook
variable (rows : List Row)

def countThirdPartyItems (kind : ThirdPartyItemKind) (sourceId : String) : Nat :=
  ((items rows).filter fun item => item.sourceId == sourceId && item.data.kind == kind).length

def hasThirdPartyItemForSourceId (kind : ThirdPartyItemKind) (sourceId : String) : Bool :=
  match countThirdPartyItems rows kind sourceId with
  | 1 => true
  | _ => false

/-- The message events of `push_slack_event`; one without content falls through to its last arm. -/
def pushSlackEvent (event : SlackMessageEvent) : EventOutcome :=
  match event.content with
  | some references =>
    if !references.isEmpty then .queued .hasReferences
    else if event.threadTs.any (hasThirdPartyItemForSourceId rows .slackThread) then
      .queued .knownThread
    else .discarded .noReferencesNoKnownThread
  | none => .discarded .unknownEventType

end Webhook

/-- A provider and what the handler reads of its configuration. -/
inductive IntegrationProvider where
  | slack (messageConfig : SlackMessageConfig)
  | other (kind : IntegrationProviderKind)
deriving DecidableEq, Repr

structure IntegrationConnection where
  id : IntegrationConnectionId
  userId : UserId
  providerUserId : Option String
  status : IntegrationConnectionStatus
  provider : IntegrationProvider
deriving DecidableEq, Repr

/-- What the job finds besides the items: the connections, and the answers to its calls. -/
structure Calls where
  connections : List IntegrationConnection
  findSlackAccessToken : Except UniversalInboxError (Option String)
  listUsersInUsergroup : String → Except UniversalInboxError (List String)
  saveNotificationFromEvent : Option ThirdPartyItem → UserId → Except UniversalInboxError Unit

/-- The items the job has looked at, in order, and the users it has saved the message for. -/
structure Log where
  considered : List ThirdPartyItem
  saved : List UserId

abbrev Job := ExceptT UniversalInboxError (StateM Log)

namespace Calls
variable (calls : Calls)

def findIntegrationConnectionPerProviderUserIds (providerUserIds : List String) :
    List IntegrationConnection :=
  calls.connections.filter fun connection =>
    connection.providerUserId.any providerUserIds.contains &&
      (match connection.provider with
        | .slack _ => true
        | .other _ => false) &&
      connection.status == .validated

def getIntegrationConnection (id : IntegrationConnectionId) : Option IntegrationConnection :=
  calls.connections.find? (·.id == id)

def providerUserIds (references : SlackReferences) : Except UniversalInboxError (List String) := do
  match ← calls.findSlackAccessToken with
  | some _ =>
    let members ← references.usergroups.mapM calls.listUsersInUsergroup
    return references.users ++ members.flatten
  | none => return references.users

def handleSlackMessagePushEventIfEnabled (connection : IntegrationConnection)
    (existing : Option ThirdPartyItem) : Job Unit :=
  match connection.provider with
  | .slack config =>
    if config.syncEnabled then do
      modify fun log => { log with saved := log.saved ++ [connection.userId] }
      calls.saveNotificationFromEvent (if config.is2WaySync then none else existing)
        connection.userId
    else return ()
  | .other _ =>
    throw (.unexpected "Integration connection provider is supposed to be Slack")

/-- The body of the loop over the items of the thread. -/
def consider (handled : List IntegrationConnectionId) (item : ThirdPartyItem) : Job Unit := do
  modify fun log => { log with considered := log.considered ++ [item] }
  if handled.contains item.integrationConnectionId then return ()
  else
    match calls.getIntegrationConnection item.integrationConnectionId with
    | some connection => calls.handleSlackMessagePushEventIfEnabled connection (some item)
    | none => return ()

def handleSlackMessagePushEvent (rows : List Row) (event : SlackMessageEvent) : Job Unit := do
  match event.content with
  | some references =>
    let providerUserIds ← calls.providerUserIds references
    let connections := calls.findIntegrationConnectionPerProviderUserIds providerUserIds
    let _ ← connections.mapM fun connection =>
      calls.handleSlackMessagePushEventIfEnabled connection none
    match event.threadTs with
    | some threadTs =>
      let _ ← (findThirdPartyItemsForSourceId rows threadTs).mapM
        (calls.consider (connections.map (·.id)))
    | none => return ()
  | none => return ()

/-- The items the job looks at. -/
def considered (rows : List Row) (event : SlackMessageEvent) : List ThirdPartyItem :=
  ((calls.handleSlackMessagePushEvent rows event).run.run ⟨[], []⟩).2.considered

/-- Looking at the item ends the job. -/
def fails (handled : List IntegrationConnectionId) (item : ThirdPartyItem) : Bool :=
  !handled.contains item.integrationConnectionId &&
    (calls.getIntegrationConnection item.integrationConnectionId).any fun connection =>
      match connection.provider with
      | .slack config =>
        config.syncEnabled &&
          !(calls.saveNotificationFromEvent (if config.is2WaySync then none else some item)
            connection.userId).isOk
      | .other _ => true

end Calls

/-- The message refers to nothing. -/
def SlackMessageEvent.WithoutReferences (event : SlackMessageEvent) : Prop :=
  ∀ references ∈ event.content, references.isEmpty = true

/-- A reply is queued just in case some user follows its thread, and the job then looks at the items
of all of them, provided that the access token it begins with can be looked up. -/
structure RepliesQueued (rows : List Row) (event : SlackMessageEvent) : Prop where
  queued : (pushSlackEvent rows event).isQueued = true ↔
    ∃ item ∈ items rows, item.data.kind = .slackThread ∧ event.threadTs = some item.sourceId
  considered : (pushSlackEvent rows event).isQueued = true →
    ∀ (calls : Calls) (threadTs : String), event.threadTs = some threadTs →
      (∃ token, calls.findSlackAccessToken = .ok token) →
        calls.considered rows event = findThirdPartyItemsForSourceId rows threadTs

/-- At most one user follows the thread, and nobody if the message has no content. -/
def FollowedOnce (rows : List Row) (event : SlackMessageEvent) : Prop :=
  ∀ threadTs ∈ event.threadTs,
    (findThirdPartyItemsForSourceId rows threadTs).length ≤ if event.content.isSome then 1 else 0

section Gate
variable {rows : List Row} {event : SlackMessageEvent} {threadTs : String}

theorem countThirdPartyItems_slackThread :
    countThirdPartyItems rows .slackThread threadTs =
      (findThirdPartyItemsForSourceId rows threadTs).length := by
  unfold countThirdPartyItems findThirdPartyItemsForSourceId
  rw [List.length_map]

/-- The gate is the count of one row. -/
theorem hasThirdPartyItemForSourceId_iff :
    hasThirdPartyItemForSourceId rows .slackThread threadTs = true ↔
      (findThirdPartyItemsForSourceId rows threadTs).length = 1 := by
  unfold hasThirdPartyItemForSourceId
  rw [countThirdPartyItems_slackThread]
  split
  · next h => exact ⟨fun _ => h, fun _ => rfl⟩
  · next h => exact ⟨nofun, fun hone => absurd hone h⟩

theorem isQueued_iff {references : SlackReferences} (hcontent : event.content = some references)
    (hempty : references.isEmpty = true) :
    (pushSlackEvent rows event).isQueued = true ↔
      ∃ threadTs, event.threadTs = some threadTs ∧
        (findThirdPartyItemsForSourceId rows threadTs).length = 1 := by
  unfold pushSlackEvent
  rw [hcontent]
  dsimp only
  rw [hempty, if_neg (by decide)]
  simp only [← hasThirdPartyItemForSourceId_iff]
  rw [← Option.any_eq_true]
  by_cases hknown : event.threadTs.any (hasThirdPartyItemForSourceId rows .slackThread) = true
  · rw [if_pos hknown]
    exact ⟨fun _ => hknown, fun _ => rfl⟩
  · rw [if_neg hknown]
    exact ⟨nofun, fun h => absurd h hknown⟩

theorem isQueued_of_no_content (hcontent : event.content = none) :
    (pushSlackEvent rows event).isQueued = false := by
  unfold pushSlackEvent
  rw [hcontent]
  rfl

/-- An item of the thread is stored just in case the query of the job finds one. -/
theorem exists_thread_iff :
    (∃ item ∈ items rows, item.data.kind = .slackThread ∧ event.threadTs = some item.sourceId) ↔
      ∃ threadTs, event.threadTs = some threadTs ∧
        0 < (findThirdPartyItemsForSourceId rows threadTs).length := by
  simp only [List.length_pos_iff_exists_mem, findThirdPartyItemsForSourceId, List.mem_map,
    List.mem_filter, Bool.and_eq_true, beq_iff_eq]
  constructor
  · rintro ⟨item, hitem, hkind, hthread⟩
    exact ⟨item.sourceId, hthread, _, item, ⟨hitem, rfl, hkind⟩, rfl⟩
  · rintro ⟨threadTs, hthread, _, item, ⟨hitem, rfl, hkind⟩, -⟩
    exact ⟨item, hitem, hkind, hthread⟩

end Gate

section Job
variable {calls : Calls} {rows : List Row} {event : SlackMessageEvent} {threadTs : String}
  {references : SlackReferences} {handled : List IntegrationConnectionId}

/-- What saving the message for one connection comes to: it looks at no item, and it fails just in
case the connection is of another provider or its notification is not saved. -/
theorem run_handleIfEnabled (connection : IntegrationConnection) (existing : Option ThirdPartyItem)
    (log : Log) :
    ((calls.handleSlackMessagePushEventIfEnabled connection existing).run.run log).2.considered =
      log.considered ∧
    ((∃ error, ((calls.handleSlackMessagePushEventIfEnabled connection existing).run.run log).1 =
        .error error) ↔
      (match connection.provider with
        | .slack config =>
          config.syncEnabled &&
            !(calls.saveNotificationFromEvent (if config.is2WaySync then none else existing)
              connection.userId).isOk
        | .other _ => true) = true) := by
  unfold Calls.handleSlackMessagePushEventIfEnabled
  cases connection.provider with
  | other kind => exact ⟨rfl, fun _ => rfl, fun _ => ⟨_, rfl⟩⟩
  | slack config =>
    dsimp only
    cases config.syncEnabled with
    | false => exact ⟨rfl, nofun, nofun⟩
    | true =>
      rw [if_pos rfl]
      generalize calls.saveNotificationFromEvent _ connection.userId = saved
      cases saved with
      | ok _ => exact ⟨rfl, nofun, nofun⟩
      | error error => exact ⟨rfl, fun _ => rfl, fun _ => ⟨error, rfl⟩⟩

/-- The loop looks at an item of each turn, and ends at the first one that fails. -/
theorem isolated_consider (calls : Calls) (handled : List IntegrationConnectionId) :
    FailFast.Isolated (calls.consider handled) Log.considered id (fun _ _ => true)
      (calls.fails handled) := by
  have hrun : ∀ (item : ThirdPartyItem) (log : Log),
      ((calls.consider handled item).run.run log).2.considered = log.considered ++ [item] ∧
      ((∃ error, ((calls.consider handled item).run.run log).1 = .error error) ↔
        calls.fails handled item = true) := by
    intro item log
    unfold Calls.consider Calls.fails
    rw [FailFast.run_bind]
    change ((ite _ _ _ : Job Unit).run.run ⟨log.considered ++ [item], log.saved⟩).2.considered = _ ∧
      ((∃ error, ((ite _ _ _ : Job Unit).run.run ⟨log.considered ++ [item], log.saved⟩).1 =
        .error error) ↔ _)
    cases handled.contains item.integrationConnectionId with
    | true => exact ⟨rfl, nofun, nofun⟩
    | false =>
      rw [if_neg Bool.false_ne_true]
      cases calls.getIntegrationConnection item.integrationConnectionId with
      | none => exact ⟨rfl, nofun, nofun⟩
      | some connection => exact run_handleIfEnabled connection (some item) _
  refine ⟨fun item log => ?_, fun item log => ?_, fun _ _ _ _ => rfl⟩
  · rw [if_pos rfl]
    exact (hrun item log).1
  · exact (hrun item log).2.trans ⟨fun h => ⟨rfl, h⟩, And.right⟩

/-- A message without references is for nobody in particular: the job goes straight to the items of
the thread. -/
theorem considered_eq_mapM (hcontent : event.content = some references)
    (hempty : references.isEmpty = true) (hthread : event.threadTs = some threadTs)
    {token : Option String} (htoken : calls.findSlackAccessToken = .ok token) :
    calls.considered rows event =
      (((findThirdPartyItemsForSourceId rows threadTs).mapM (calls.consider [])).run.run
        ⟨[], []⟩).2.considered := by
  obtain ⟨husers, husergroups⟩ := references.nobody_of_isEmpty hempty
  have hnobody : calls.providerUserIds references = .ok [] := by
    unfold Calls.providerUserIds
    rw [htoken, husers, husergroups]
    cases token <;> rfl
  have hnone : calls.findIntegrationConnectionPerProviderUserIds [] = [] := by
    unfold Calls.findIntegrationConnectionPerProviderUserIds
    refine List.filter_eq_nil_iff.mpr fun connection _ => ?_
    cases connection.providerUserId <;> simp
  unfold Calls.considered Calls.handleSlackMessagePushEvent
  rw [hcontent, hthread]
  dsimp only
  rw [hnobody, FailFast.run_bind]
  change ((do
    let _ ← (calls.findIntegrationConnectionPerProviderUserIds []).mapM fun connection =>
      calls.handleSlackMessagePushEventIfEnabled connection none
    let _ ← (findThirdPartyItemsForSourceId rows threadTs).mapM
        (calls.consider ((calls.findIntegrationConnectionPerProviderUserIds []).map (·.id)))
    pure () : Job Unit).run.run ⟨[], []⟩).2.considered = _
  rw [hnone]
  change (((findThirdPartyItemsForSourceId rows threadTs).mapM (calls.consider []) >>=
    fun _ => pure () : Job Unit).run.run ⟨[], []⟩).2.considered = _
  rw [FailFast.run_bind]
  rcases ((findThirdPartyItemsForSourceId rows threadTs).mapM (calls.consider [])).run.run
    ⟨[], []⟩ with ⟨_ | _, _⟩ <;> rfl

/-- The job looks at the items up to the first one that fails. -/
theorem considered_eq_attempted (hcontent : event.content = some references)
    (hempty : references.isEmpty = true) (hthread : event.threadTs = some threadTs)
    {token : Option String} (htoken : calls.findSlackAccessToken = .ok token)
    (hnodup : (findThirdPartyItemsForSourceId rows threadTs).Nodup) :
    calls.considered rows event =
      FailFast.attempted (fun _ => true) (calls.fails [])
        (findThirdPartyItemsForSourceId rows threadTs) := by
  rw [considered_eq_mapM hcontent hempty hthread htoken,
    (isolated_consider calls []).log_mapM hnodup, List.map_id, List.nil_append]

/-- Once a message is queued, it reaches every item of its thread unless saving it fails for one of
them that comes before another. -/
theorem considers_all_iff (hcontent : event.content = some references)
    (hempty : references.isEmpty = true) (hthread : event.threadTs = some threadTs)
    {token : Option String} (htoken : calls.findSlackAccessToken = .ok token)
    (hnodup : (findThirdPartyItemsForSourceId rows threadTs).Nodup) :
    (∀ item ∈ findThirdPartyItemsForSourceId rows threadTs, item ∈ calls.considered rows event) ↔
      (findThirdPartyItemsForSourceId rows threadTs).Pairwise
        fun earlier _ => calls.fails [] earlier = false := by
  rw [considered_eq_attempted hcontent hempty hthread htoken hnodup]
  refine Iff.trans ⟨fun h item hitem _ => h item hitem, fun h item hitem => h item hitem rfl⟩
    ((FailFast.attempted_all_iff hnodup).trans ?_)
  simp only [forall_const, Bool.true_eq_false, imp_false, Bool.not_eq_true]

/-- One item is looked at whatever becomes of it. -/
theorem considered_of_length_le_one (hcontent : event.content = some references)
    (hempty : references.isEmpty = true) (hthread : event.threadTs = some threadTs)
    {token : Option String} (htoken : calls.findSlackAccessToken = .ok token)
    (hone : (findThirdPartyItemsForSourceId rows threadTs).length = 1) :
    calls.considered rows event = findThirdPartyItemsForSourceId rows threadTs := by
  obtain ⟨item, hitem⟩ := List.length_eq_one_iff.mp hone
  have hnodup : (findThirdPartyItemsForSourceId rows threadTs).Nodup := by
    rw [hitem]
    exact List.nodup_singleton item
  rw [considered_eq_attempted hcontent hempty hthread htoken hnodup, hitem, FailFast.attempted,
    if_pos rfl, FailFast.attempted, ite_self]

/-- Whatever is stored, and whoever follows the thread. -/
theorem repliesQueued_iff (rows : List Row) (event : SlackMessageEvent)
    (hevent : event.WithoutReferences) :
    RepliesQueued rows event ↔ FollowedOnce rows event := by
  unfold FollowedOnce
  cases hcontent : event.content with
  | none =>
    have hnot : (pushSlackEvent rows event).isQueued = false := isQueued_of_no_content hcontent
    constructor
    · intro h threadTs hthread
      refine Nat.le_of_not_lt fun hknown => ?_
      have hqueued := h.queued.mpr (exists_thread_iff.mpr ⟨threadTs, hthread, hknown⟩)
      rw [hnot] at hqueued
      cases hqueued
    · intro h
      refine ⟨?_, fun hqueued => absurd (hnot.symm.trans hqueued) Bool.false_ne_true⟩
      rw [exists_thread_iff, hnot]
      refine ⟨nofun, ?_⟩
      rintro ⟨threadTs, hthread, hknown⟩
      exact absurd (h threadTs hthread) (Nat.not_le_of_lt hknown)
  | some references =>
    have hempty := hevent references hcontent
    constructor
    · intro h threadTs hthread
      by_contra hmany
      have hknown : 0 < (findThirdPartyItemsForSourceId rows threadTs).length :=
        Nat.lt_of_lt_of_le Nat.one_pos (Nat.le_of_not_le hmany)
      have hqueued := h.queued.mpr (exists_thread_iff.mpr ⟨threadTs, hthread, hknown⟩)
      obtain ⟨_, hsame, hone⟩ := (isQueued_iff hcontent hempty).mp hqueued
      obtain rfl := Option.some.inj (hthread.symm.trans hsame)
      exact hmany (Nat.le_of_eq hone)
    · intro h
      constructor
      · rw [isQueued_iff hcontent hempty, exists_thread_iff]
        constructor
        · rintro ⟨threadTs, hthread, hone⟩
          exact ⟨threadTs, hthread, hone ▸ Nat.one_pos⟩
        · rintro ⟨threadTs, hthread, hknown⟩
          exact ⟨threadTs, hthread, Nat.le_antisymm (h threadTs hthread) hknown⟩
      · rintro hqueued calls threadTs hthread ⟨token, htoken⟩
        obtain ⟨_, hsame, hone⟩ := (isQueued_iff hcontent hempty).mp hqueued
        obtain rfl := Option.some.inj (hthread.symm.trans hsame)
        exact considered_of_length_le_one hcontent hempty hthread htoken hone

end Job

/-- The item of a thread for one of its users. -/
def follower (n : Nat) : ThirdPartyItemRow :=
  { id := ⟨n⟩
    sourceId := "1700000000.000100"
    data := .slackThread "thread"
    createdAt := 0
    updatedAt := 0
    userId := ⟨n⟩
    integrationConnectionId := ⟨n⟩
    sourceItemId := none }

def reply : SlackMessageEvent :=
  { threadTs := some "1700000000.000100"
    content := some ⟨[], [], true, fun _ => ⟨rfl, rfl⟩⟩ }

theorem reply_withoutReferences : reply.WithoutReferences := by
  rintro _ ⟨⟩
  rfl

/-- A reply in a thread that two users follow is discarded. -/
theorem twoFollowers_not_repliesQueued :
    pushSlackEvent [.thirdPartyItem (follower 1), .thirdPartyItem (follower 2)] reply =
        .discarded .noReferencesNoKnownThread ∧
      ¬ RepliesQueued [.thirdPartyItem (follower 1), .thirdPartyItem (follower 2)] reply := by
  have hdiscarded : pushSlackEvent
      [.thirdPartyItem (follower 1), .thirdPartyItem (follower 2)] reply =
        .discarded .noReferencesNoKnownThread := by
    decide
  refine ⟨hdiscarded, fun h => ?_⟩
  have hqueued := h.queued.mpr ⟨follower 1, List.mem_cons_self, rfl, rfl⟩
  rw [hdiscarded] at hqueued
  cases hqueued

theorem oneFollower_repliesQueued : RepliesQueued [.thirdPartyItem (follower 1)] reply := by
  refine (repliesQueued_iff _ reply reply_withoutReferences).mpr ?_
  rintro _ ⟨⟩
  decide

end UniversalInbox.KnownThreads
