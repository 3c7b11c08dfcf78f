import UniversalInbox.SlackSubscription

/-! A thread that the user has left stays left, unless a transaction stores a copy of it from before
that, or from Slack: the status of its notification over all the orders of the jobs. -/
namespace UniversalInbox.SlackSubscription
open BulkPatch (patchRow)
open LinearAutoDelete (Sound sound_insert sound_update joinItem onItem onNotification
  writeNotification notificationWrite_upsert mem_keys_of_sound)
open NotificationConversion NotificationUpsert ReadCommitted Transition
open StalePass (Row RowId items notifications mem_items mem_notifications)

/-- What no statement changes of a row. -/
inductive RowIdentity where
  | thirdPartyItem (id : ThirdPartyItemId) (source : ThreadSource)
  | task (id : TaskId)
  | notification (id : NotificationId) (sourceItemId : ThirdPartyItemId)
deriving DecidableEq

def rowIdentity : Row → RowIdentity
  | .thirdPartyItem row => .thirdPartyItem row.id (rowSource row)
  | .task row => .task row.id
  | .notification row => .notification row.id row.sourceItemId

def RowIdentity.id : RowIdentity → RowId
  | .thirdPartyItem id _ => .thirdPartyItem id
  | .task id => .task id
  | .notification id _ => .notification id

theorem id_rowIdentity (r : Row) : (rowIdentity r).id = r.id := by cases r <;> rfl

theorem id_of_identity {rows : List Row} {k : RowIdentity} (h : k ∈ rows.map rowIdentity) :
    k.id ∈ rows.map Row.id := by
  obtain ⟨r, hr, rfl⟩ := List.mem_map.mp h
  exact List.mem_map.mpr ⟨r, hr, (id_rowIdentity r).symm⟩

/-- The notification of the thread and its item are stored. -/
structure Known (rows : List Row) (thread : ThreadNotification) : Prop where
  item : .thirdPartyItem thread.item thread.source ∈ rows.map rowIdentity
  notification : .notification thread.notification thread.item ∈ rows.map rowIdentity

def UnsubscribedIn (rows : List Row) (id : NotificationId) : Prop :=
  ∀ row ∈ notifications rows, row.id = id → row.status = .unsubscribed

def KeepsUnsubscribed (id : NotificationId) (w : Write Row) : Prop :=
  ∀ rows, UnsubscribedIn rows id → UnsubscribedIn (w.apply rows) id

/-- Whatever the status was, it is unsubscribed now. -/
structure Unsubscribes (id : NotificationId) (w : Write Row) : Prop where
  touched : .notification id ∈ w.touched Row.id
  unsubscribed : ∀ rows, UnsubscribedIn (w.apply rows) id

section Rows
variable {rows rows' : List Row} {thread : ThreadNotification} {id : NotificationId} {w : Write Row}
  {writes : List (Write Row)}

theorem Known.mono (h : Known rows thread)
    (hrows : ∀ k ∈ rows.map rowIdentity, k ∈ rows'.map rowIdentity) : Known rows' thread :=
  ⟨hrows _ h.item, hrows _ h.notification⟩

theorem Known.item_id (h : Known rows thread) : .thirdPartyItem thread.item ∈ rows.map Row.id :=
  id_of_identity h.item

theorem Known.notification_id (h : Known rows thread) :
    .notification thread.notification ∈ rows.map Row.id := id_of_identity h.notification

theorem Known.source_eq (h : Known rows thread) (hnodup : (rows.map Row.id).Nodup)
    {row : ThirdPartyItemRow} (hrow : row ∈ items rows) (hid : row.id = thread.item) :
    rowSource row = thread.source := by
  obtain ⟨r, hr, hidentity⟩ := List.mem_map.mp h.item
  cases r with
  | thirdPartyItem stored =>
    obtain ⟨hstored, hsource⟩ := RowIdentity.thirdPartyItem.inj hidentity
    have hsame := List.inj_on_of_nodup_map hnodup (mem_items.mp hrow) hr
      (congrArg RowId.thirdPartyItem (hid.trans hstored.symm))
    rw [Row.thirdPartyItem.inj hsame]
    exact hsource
  | task stored => cases hidentity
  | notification stored => cases hidentity

theorem Known.sourceItemId_eq (h : Known rows thread) (hnodup : (rows.map Row.id).Nodup)
    {row : NotificationRow} (hrow : row ∈ notifications rows) (hid : row.id = thread.notification) :
    row.sourceItemId = thread.item := by
  obtain ⟨r, hr, hidentity⟩ := List.mem_map.mp h.notification
  cases r with
  | notification stored =>
    obtain ⟨hstored, hitem⟩ := RowIdentity.notification.inj hidentity
    have hsame := List.inj_on_of_nodup_map hnodup (mem_notifications.mp hrow) hr
      (congrArg RowId.notification (hid.trans hstored.symm))
    rw [Row.notification.inj hsame]
    exact hitem
  | task stored => cases hidentity
  | thirdPartyItem stored => cases hidentity

theorem unsubscribedIn_foldl (h : ∀ w ∈ writes, KeepsUnsubscribed id w)
    (hrows : UnsubscribedIn rows id) : UnsubscribedIn (writes.foldl Write.apply rows) id := by
  induction writes generalizing rows with
  | nil => exact hrows
  | cons w rest ih =>
    obtain ⟨hw, hrest⟩ := List.forall_mem_cons.mp h
    exact ih hrest (hw rows hrows)

theorem unsubscribedIn_of_unsubscribes (h : ∀ w ∈ writes, KeepsUnsubscribed id w)
    (hw : ∃ w ∈ writes, Unsubscribes id w) : UnsubscribedIn (writes.foldl Write.apply rows) id := by
  induction writes generalizing rows with
  | nil => obtain ⟨w, hmem, -⟩ := hw; cases hmem
  | cons w rest ih =>
    have hrest : ∀ w' ∈ rest, KeepsUnsubscribed id w' := (List.forall_mem_cons.mp h).2
    obtain ⟨w', hmem, hw'⟩ := hw
    rw [List.foldl_cons]
    rcases List.mem_cons.mp hmem with rfl | hmem
    · exact unsubscribedIn_foldl hrest (hw'.unsubscribed rows)
    · exact ih hrest ⟨w', hmem, hw'⟩

/-- A write of other rows. -/
theorem keepsUnsubscribed_of_not_touched (hkeeps : w.Keeps Row.id)
    (h : .notification id ∉ w.touched Row.id) : KeepsUnsubscribed id w := by
  intro rows hrows row hrow hid
  subst hid
  have hmem := mem_notifications.mp hrow
  cases w with
  | insert r =>
    rcases List.mem_append.mp hmem with hold | hnew
    · exact hrows row (mem_notifications.mpr hold) rfl
    · exact absurd (congrArg Row.id (List.mem_singleton.mp hnew)) h
  | update p f =>
    obtain ⟨r, hr, hnew⟩ := List.mem_map.mp hmem
    split at hnew
    · next hp => exact absurd ⟨r, (hkeeps r).symm.trans (congrArg Row.id hnew), hp⟩ h
    · exact hrows row (mem_notifications.mpr (hnew ▸ hr)) rfl

end Rows

/-- The rows that the operation is to update are stored. -/
def Operation.Grounded (rows : List Row) : Operation → Prop
  | .writeItem _ existing _ => ∀ e ∈ existing, .thirdPartyItem e.id ∈ rows.map Row.id
  | .writeNotification _ existing => ∀ e ∈ existing, .notification e.id ∈ rows.map Row.id
  | _ => True

/-- The operation holds no copy of a thread for its notification. -/
def Operation.isPlain : Operation → Bool
  | .selectItem caller _ => caller == .sideEffect
  | .writeItem _ _ _ | .selectNotification _ | .writeNotification _ _ => false
  | _ => true

/-- A thread that is fetched while it is left: the copy read before, or Slack, says so. -/
def Operation.FetchesUnsubscribed (setting : Setting) (thread : ThreadNotification) :
    Operation → Answer → Prop
  | .fetchItemFromEvent userId existing, .thread (some fetched) =>
    (∃ connection ∈ setting.accessToken userId,
      ⟨SlackThread.sourceId fetched.thread, userId, connection⟩ = thread.source) →
        existing.any setting.isUnsubscribed = true ∨ fetched.subscribed = some false
  | .fetchThread userId, .thread (some fetched) =>
    (∃ connection ∈ setting.accessToken userId,
      ⟨SlackThread.sourceId fetched.thread, userId, connection⟩ = thread.source) →
        fetched.subscribed = some false
  | _, _ => True

instance (setting : Setting) (thread : ThreadNotification) :
    ∀ operation answer, Decidable (Operation.FetchesUnsubscribed setting thread operation answer)
  | .fetchItemFromEvent _ _, .thread (some _) => inferInstanceAs (Decidable (_ → _))
  | .fetchThread _, .thread (some _) => inferInstanceAs (Decidable (_ → _))
  | .fetchItemFromEvent _ _, .none | .fetchItemFromEvent _ _, .notification _ _
  | .fetchItemFromEvent _ _, .thread none | .fetchThread _, .none
  | .fetchThread _, .notification _ _ | .fetchThread _, .thread none
  | .handleEventIfEnabled _ _, _ | .findThirdPartyItems _ _, _ | .findUnreadThreads _, _
  | .selectItem _ _, _ | .writeItem _ _ _, _ | .selectNotification _, _ | .writeNotification _ _, _
  | .updateNotification _ _ _, _ | .updateNotifications _ _ _, _ | .getNotification _, _
  | .applySideEffects _ _ _ _, _ => inferInstanceAs (Decidable True)

/-- What an operation does to the rows that its transaction sees. -/
structure Executed (setting : Setting) (rows : List Row) (operation : Operation) (answer : Answer)
    (outcome : Outcome) : Prop where
  sound : operation.Grounded rows → ∀ w ∈ outcome.write, Sound rows w
  identity : ∀ w ∈ outcome.write, w.Keeps rowIdentity
  grounded : ∀ o ∈ outcome.next ++ outcome.later, o.Grounded rows
  settled : ∀ thread, Known rows thread → operation.Settled setting thread →
    operation.FetchesUnsubscribed setting thread answer →
    (∀ r, outcome.write = some (.insert r) → r.id ∉ rows.map Row.id) →
      ∀ o ∈ outcome.next ++ outcome.later, o.Settled setting thread
  kept : ∀ thread, Known rows thread → operation.Settled setting thread →
    (∀ r, outcome.write = some (.insert r) → r.id ∉ rows.map Row.id) →
      thread.notification ∉ outcome.ended →
        ∀ w ∈ outcome.write, KeepsUnsubscribed thread.notification w
  began : ∀ thread ∈ outcome.began, Known rows thread ∧
    ∃ w ∈ outcome.write, Unsubscribes thread.notification w

section Operations
variable {setting : Setting} {rows : List Row} {operation : Operation} {answer : Answer}
  {outcome : Outcome} {thread : ThreadNotification}

theorem settled_of_isPlain (h : operation.isPlain = true) : operation.Settled setting thread := by
  cases operation with
  | selectItem caller item =>
    intro hcaller
    exact absurd (beq_iff_eq.mp h) hcaller
  | writeItem _ _ _ | selectNotification _ | writeNotification _ _ => cases h
  | _ => trivial

theorem grounded_of_isPlain (h : operation.isPlain = true) : operation.Grounded rows := by
  cases operation with
  | writeItem _ _ _ | selectNotification _ | writeNotification _ _ => cases h
  | _ => trivial

/-- An operation that writes nothing, before operations that hold nothing. -/
theorem executed_of_isPlain {next : List Operation} (h : ∀ o ∈ next, o.isPlain = true) :
    Executed setting rows operation answer { next } where
  sound _ w hw := by cases hw
  identity w hw := by cases hw
  grounded o ho := by
    rw [List.append_nil] at ho
    exact grounded_of_isPlain (h o ho)
  settled thread _ _ _ _ o ho := by
    rw [List.append_nil] at ho
    exact settled_of_isPlain (h o ho)
  kept _ _ _ _ _ w hw := by cases hw
  began thread hthread := by cases hthread

/-- A side effect begins with a read of the item. -/
theorem sideEffects_eq_selectItem {patch : NotificationPatch} {kind : NotificationSourceKind}
    {item : ThirdPartyItem} {userId : UserId} :
    ∀ o ∈ setting.sideEffects patch kind item userId,
      ∃ stored, o = .selectItem .sideEffect stored := by
  intro o ho
  unfold Setting.sideEffects at ho
  split at ho
  · cases ho
  · split at ho
    · split at ho
      · obtain ⟨stored, -, rfl⟩ := Option.map_eq_some_iff.mp (Option.mem_toList.mp ho)
        exact ⟨stored, rfl⟩
      · obtain ⟨stored, -, rfl⟩ := Option.map_eq_some_iff.mp (Option.mem_toList.mp ho)
        exact ⟨stored, rfl⟩
      · cases ho
    · cases ho

theorem isPlain_sideEffects {patch : NotificationPatch} {kind : NotificationSourceKind}
    {item : ThirdPartyItem} {userId : UserId} :
    ∀ o ∈ setting.sideEffects patch kind item userId, o.isPlain = true := by
  intro o ho
  obtain ⟨stored, rfl⟩ := sideEffects_eq_selectItem o ho
  rfl

theorem isUnsubscribed_intoThirdPartyItem {fetched : FetchedThread} {slackThread : SlackThread}
    {userId : UserId} {connection : IntegrationConnectionId} :
    setting.isUnsubscribed (setting.intoThirdPartyItem fetched slackThread userId connection) =
      !slackThread.subscribed := by
  simp only [Setting.isUnsubscribed, Setting.intoThirdPartyItem,
    setting.codec.subscribed_decode_encode]

theorem subscribed_keepSubscription {existing : Option ThirdPartyItem} {fetched : FetchedThread}
    (h : existing.any setting.isUnsubscribed = true ∨ fetched.subscribed = some false) :
    (setting.keepSubscription existing fetched.slackThread).subscribed = false := by
  unfold Setting.keepSubscription
  split
  · rfl
  · next hsubscribed =>
    have hfalse : fetched.subscribed = some false := h.resolve_left hsubscribed
    simp only [FetchedThread.slackThread, hfalse, Option.getD_some]

theorem sourceId_keepSubscription {existing : Option ThirdPartyItem} {fetched : FetchedThread} :
    SlackThread.sourceId (setting.keepSubscription existing fetched.slackThread) =
      SlackThread.sourceId fetched.thread := by
  unfold Setting.keepSubscription
  split <;> rfl

theorem executed_fetchItemFromEvent {userId : UserId} {existing : Option ThirdPartyItem}
    {fetched : Option FetchedThread} {connection : IntegrationConnectionId}
    (h : connection ∈ setting.accessToken userId) :
    Executed setting rows (.fetchItemFromEvent userId existing) (.thread fetched)
      { next := (fetched.map fun fetched => .selectItem .event (setting.intoThirdPartyItem fetched
          (setting.keepSubscription existing fetched.slackThread) userId connection)).toList } where
  sound _ w hw := by cases hw
  identity w hw := by cases hw
  grounded o ho := by
    rw [List.append_nil] at ho
    obtain ⟨fetched, -, rfl⟩ := Option.map_eq_some_iff.mp (Option.mem_toList.mp ho)
    trivial
  settled thread _ _ hfetches _ o ho := by
    rw [List.append_nil] at ho
    obtain ⟨fetched, rfl, rfl⟩ := Option.map_eq_some_iff.mp (Option.mem_toList.mp ho)
    intro _ hsource
    rw [isUnsubscribed_intoThirdPartyItem, subscribed_keepSubscription, Bool.not_false]
    refine hfetches ⟨connection, h, ?_⟩
    rw [← hsource, ← @sourceId_keepSubscription setting existing fetched]
    rfl
  kept _ _ _ _ _ w hw := by cases hw
  began thread hthread := by cases hthread

theorem executed_fetchThread {userId : UserId} {fetched : Option FetchedThread}
    {connection : IntegrationConnectionId} (h : connection ∈ setting.accessToken userId) :
    Executed setting rows (.fetchThread userId) (.thread fetched)
      { later := (fetched.map fun fetched => .selectItem .sync
          (setting.intoThirdPartyItem fetched fetched.slackThread userId connection)).toList } where
  sound _ w hw := by cases hw
  identity w hw := by cases hw
  grounded o ho := by
    rw [List.nil_append] at ho
    obtain ⟨fetched, -, rfl⟩ := Option.map_eq_some_iff.mp (Option.mem_toList.mp ho)
    trivial
  settled thread _ _ hfetches _ o ho := by
    rw [List.nil_append] at ho
    obtain ⟨fetched, rfl, rfl⟩ := Option.map_eq_some_iff.mp (Option.mem_toList.mp ho)
    intro _ hsource
    have hfalse : fetched.subscribed = some false := hfetches ⟨connection, h, hsource⟩
    rw [isUnsubscribed_intoThirdPartyItem]
    simp only [FetchedThread.slackThread, hfalse, Option.getD_some, Bool.not_false]
  kept _ _ _ _ _ w hw := by cases hw
  began thread hthread := by cases hthread

theorem itemSource_of_matches {item : ThirdPartyItem} {row : ThirdPartyItemRow}
    (h : ThirdPartyItemUpsert.itemMatches item row = true) : itemSource item = rowSource row := by
  simp only [ThirdPartyItemUpsert.itemMatches, Bool.and_eq_true, beq_iff_eq] at h
  simp only [itemSource, rowSource, h]

theorem executed_selectItem {caller : Caller} {item : ThirdPartyItem}
    (hnodup : (rows.map Row.id).Nodup) :
    Executed setting rows (.selectItem caller item) answer
      { next := [.writeItem caller (Setting.matchingItem rows item) item] } where
  sound _ w hw := by cases hw
  identity w hw := by cases hw
  grounded o ho := by
    cases List.mem_singleton.mp ho
    intro e he
    obtain ⟨row, hfind, rfl⟩ := Option.map_eq_some_iff.mp he
    exact List.mem_map_of_mem (f := Row.id) (mem_items.mp (List.mem_of_find?_eq_some hfind))
  settled thread hknown hsettled _ _ o ho := by
    cases List.mem_singleton.mp ho
    rintro hcaller ⟨e, he, hid⟩
    obtain ⟨row, hfind, rfl⟩ := Option.map_eq_some_iff.mp he
    refine hsettled hcaller ?_
    rw [itemSource_of_matches (List.find?_some hfind)]
    exact hknown.source_eq hnodup (List.mem_of_find?_eq_some hfind) hid
  kept _ _ _ _ _ w hw := by cases hw
  began thread hthread := by cases hthread

section Items
variable {caller : Caller} {existing : Option ThirdPartyItem} {item : ThirdPartyItem} {w : Write Row}

theorem itemWrite_cases (h : (Setting.createOrUpdateThirdPartyItem existing item).1 = some w) :
    (∃ e ∈ existing, w = .update (fun r => decide (r.id = .thirdPartyItem e.id))
      (onItem (ThirdPartyItemUpsert.updateRow item))) ∨
    existing = none ∧ w = .insert (.thirdPartyItem (ThirdPartyItemUpsert.insertRow item)) := by
  unfold Setting.createOrUpdateThirdPartyItem at h
  cases existing with
  | none => exact .inr ⟨rfl, (Option.some.inj h).symm⟩
  | some e =>
    dsimp only at h
    split at h
    · cases h
    · exact .inl ⟨e, rfl, (Option.some.inj h).symm⟩

theorem itemWrite_not_touched {id : NotificationId}
    (h : (Setting.createOrUpdateThirdPartyItem existing item).1 = some w) :
    .notification id ∉ w.touched Row.id := by
  intro htouched
  rcases itemWrite_cases h with ⟨e, -, rfl⟩ | ⟨-, rfl⟩
  · obtain ⟨r, hid, hr⟩ := htouched
    rw [of_decide_eq_true hr] at hid
    cases hid
  · cases htouched

theorem itemWrite_keeps {κ : Type} {key : Row → κ}
    (hkey : ∀ r, key (onItem (ThirdPartyItemUpsert.updateRow item) r) = key r)
    (h : (Setting.createOrUpdateThirdPartyItem existing item).1 = some w) : w.Keeps key := by
  rcases itemWrite_cases h with ⟨e, -, rfl⟩ | ⟨-, rfl⟩
  · exact hkey
  · trivial

theorem itemWrite_sound (hgrounded : Operation.Grounded rows (.writeItem caller existing item))
    (h : (Setting.createOrUpdateThirdPartyItem existing item).1 = some w) : Sound rows w := by
  rcases itemWrite_cases h with ⟨e, he, rfl⟩ | ⟨-, rfl⟩
  · refine sound_update (fun r => ?_) (fun r => ?_) (fun r r' hid => by rw [hid]) fun r hr => ?_
    · cases r <;> rfl
    · cases r <;> rfl
    · rw [of_decide_eq_true hr]
      exact hgrounded e he
  · exact sound_insert _

/-- What a caller does of an item that it has stored. -/
theorem mem_afterItem {status : TaskUpsert.UpsertStatus ThirdPartyItem} {o : Operation}
    (h : o ∈ (Setting.afterItem caller status).1 ++ (Setting.afterItem caller status).2) :
    caller ≠ .sideEffect ∧ o = .selectNotification status.value := by
  cases caller <;> cases status <;> simp_all [Setting.afterItem]

/-- The item that is returned for the thread is the one that was to be stored. -/
theorem isUnsubscribed_value (hunsubscribed : setting.isUnsubscribed item = true) :
    setting.isUnsubscribed (Setting.createOrUpdateThirdPartyItem existing item).2.value = true := by
  have hdata : ∀ stored : ThirdPartyItem, stored.data = item.data →
      setting.isUnsubscribed stored = true := by
    intro stored hstored
    unfold Setting.isUnsubscribed at hunsubscribed ⊢
    rwa [hstored]
  unfold Setting.createOrUpdateThirdPartyItem
  cases existing with
  | none => exact hunsubscribed
  | some e =>
    dsimp only
    split
    · next hsame => exact hdata e (ThirdPartyItem.data_eq hsame)
    · exact hdata _ rfl

theorem value_id : (∃ e ∈ existing,
      (Setting.createOrUpdateThirdPartyItem existing item).2.value.id = e.id) ∨
    existing = none ∧ (Setting.createOrUpdateThirdPartyItem existing item).2.value.id = item.id ∧
      (Setting.createOrUpdateThirdPartyItem existing item).1 =
        some (.insert (.thirdPartyItem (ThirdPartyItemUpsert.insertRow item))) := by
  unfold Setting.createOrUpdateThirdPartyItem
  cases existing with
  | none => exact .inr ⟨rfl, rfl, rfl⟩
  | some e =>
    refine .inl ⟨e, rfl, ?_⟩
    dsimp only
    split <;> rfl

theorem executed_writeItem : Executed setting rows (.writeItem caller existing item) answer
    { write := (Setting.createOrUpdateThirdPartyItem existing item).1
      next := (Setting.afterItem caller
        (Setting.createOrUpdateThirdPartyItem existing item).2).1
      later := (Setting.afterItem caller
        (Setting.createOrUpdateThirdPartyItem existing item).2).2 } where
  sound hgrounded w hw := itemWrite_sound hgrounded hw
  identity w hw := itemWrite_keeps (fun r => by cases r <;> rfl) hw
  grounded o ho := by
    obtain ⟨-, rfl⟩ := mem_afterItem ho
    trivial
  settled thread hknown hsettled _ hfresh o ho := by
    obtain ⟨hcaller, rfl⟩ := mem_afterItem ho
    intro hid
    rcases @value_id existing item with ⟨e, he, hsame⟩ | ⟨-, hsame, hwrite⟩
    · exact isUnsubscribed_value (hsettled hcaller ⟨e, he, hsame.symm.trans hid⟩)
    · refine absurd ?_ (hfresh _ hwrite)
      have hitem : item.id = thread.item := hsame.symm.trans hid
      show RowId.thirdPartyItem item.id ∈ rows.map Row.id
      rw [hitem]
      exact hknown.item_id
  kept thread _ _ _ _ w hw :=
    keepsUnsubscribed_of_not_touched (itemWrite_keeps (fun r => by cases r <;> rfl) hw)
      (itemWrite_not_touched hw)
  began thread hthread := by cases hthread

end Items

section Notifications
variable {item : ThirdPartyItem} {request : UpsertRequest} {existing : Option Notification}
  {w : Write Row} {content : String} {stamp : NotificationStamp} {row? : Option NotificationRow}

/-- A thread that was left gives an unsubscribed notification. -/
theorem status_of_isUnsubscribed (hdata : item.data = .slackThread content)
    (h : setting.isUnsubscribed item = true) :
    ((slackIntoNotification stamp (setting.codec.decode content)).request stamp.id item
      item.userId).notification.status = .unsubscribed := by
  simp only [Setting.isUnsubscribed, hdata] at h
  simp only [NotificationContent.request, slackIntoNotification, convertedNow, if_pos h]

theorem executed_selectNotification (hnodup : (rows.map Row.id).Nodup)
    (hdata : item.data = .slackThread content)
    (hanswers : Setting.answers rows ((slackIntoNotification stamp
      (setting.codec.decode content)).request stamp.id item item.userId).key row? = true) :
    Executed setting rows (.selectNotification item) answer
      { next := [.writeNotification ((slackIntoNotification stamp
          (setting.codec.decode content)).request stamp.id item item.userId)
            (row?.map fun row =>
              intoNotification row ((Setting.findItem rows row.sourceItemId).getD item))] } where
  sound _ w hw := by cases hw
  identity w hw := by cases hw
  grounded o ho := by
    cases List.mem_singleton.mp ho
    intro e he
    obtain ⟨row, rfl, rfl⟩ := Option.map_eq_some_iff.mp he
    obtain ⟨hrow, -⟩ := Bool.and_eq_true_iff.mp hanswers
    exact List.mem_map_of_mem (f := Row.id) (mem_notifications.mp (List.contains_iff_mem.mp hrow))
  settled thread hknown hsettled _ _ o ho := by
    cases List.mem_singleton.mp ho
    rintro ⟨e, he, hid⟩
    obtain ⟨row, rfl, rfl⟩ := Option.map_eq_some_iff.mp he
    obtain ⟨hrow, hkey⟩ := Bool.and_eq_true_iff.mp hanswers
    have hsource := hknown.sourceItemId_eq hnodup (List.contains_iff_mem.mp hrow) hid
    have hitem : row.sourceItemId = item.id :=
      congrArg SourceKey.sourceItemId (of_decide_eq_true hkey)
    exact status_of_isUnsubscribed hdata (hsettled (hitem.symm.trans hsource))
  kept _ _ _ _ _ w hw := by cases hw
  began thread hthread := by cases hthread

theorem notificationWrite_cases
    (h : ((createOrUpdateNotification existing request).1.map writeNotification) = some w) :
    (∃ e ∈ existing, w = .update (fun r => r.notification?.any fun row => row.id == e.id)
      (onNotification (updateRow request))) ∨
    existing = none ∧ w = .insert (.notification (insertRow request.notification)) := by
  unfold createOrUpdateNotification at h
  cases existing with
  | none => exact .inr ⟨rfl, (Option.some.inj h).symm⟩
  | some e =>
    dsimp only at h
    split at h
    · cases h
    · exact .inl ⟨e, rfl, (Option.some.inj h).symm⟩

theorem executed_writeNotification : Executed setting rows (.writeNotification request existing)
    answer { write := (createOrUpdateNotification existing request).1.map writeNotification } where
  sound hgrounded w hw := by
    obtain ⟨write, hwrite, rfl⟩ := Option.map_eq_some_iff.mp hw
    exact (notificationWrite_upsert hwrite hgrounded).sound
  identity w hw := by
    rcases notificationWrite_cases hw with ⟨e, -, rfl⟩ | ⟨-, rfl⟩
    · intro r
      cases r <;> rfl
    · trivial
  grounded o ho := by cases ho
  settled _ _ _ _ _ o ho := by cases ho
  kept thread hknown hsettled hfresh _ w hw := by
    rcases notificationWrite_cases hw with ⟨e, he, rfl⟩ | ⟨-, rfl⟩
    · by_cases hid : e.id = thread.notification
      · intro rows' hrows row hrow hrowId
        obtain ⟨r, hr, hnew⟩ := List.mem_map.mp (mem_notifications.mp hrow)
        cases r with
        | notification old =>
          split at hnew
          · cases hnew
            exact hsettled ⟨e, he, hid⟩
          · cases hnew
            exact hrows row (mem_notifications.mpr hr) hrowId
        | thirdPartyItem old => split at hnew <;> cases hnew
        | task old => split at hnew <;> cases hnew
      · refine keepsUnsubscribed_of_not_touched (fun r => by cases r <;> rfl) ?_
        rintro ⟨r, hr, hp⟩
        cases r with
        | notification old =>
          exact hid ((beq_iff_eq.mp hp).symm.trans (RowId.notification.inj hr))
        | thirdPartyItem old => cases hr
        | task old => cases hr
    · refine keepsUnsubscribed_of_not_touched trivial fun htouched => hfresh _ hw ?_
      rw [← show RowId.notification thread.notification =
        Row.id (.notification (insertRow request.notification)) from htouched]
      exact hknown.notification_id
  began thread hthread := by cases hthread

end Notifications

section Patches
variable {ids : List NotificationId} {patch : NotificationPatch}
  {f : NotificationRow → NotificationRow} {id : NotificationId}

/-- What the `SET` list of a patch does to a row. -/
structure Patches (patch : NotificationPatch) (f : NotificationRow → NotificationRow) : Prop where
  id : ∀ row, (f row).id = row.id
  sourceItemId : ∀ row, (f row).sourceItemId = row.sourceItemId
  status : ∀ row, (f row).status = patch.status.getD row.status

theorem patches_patchRow : Patches patch (patchRow patch) :=
  ⟨fun _ => rfl, fun _ => rfl, fun _ => rfl⟩

theorem patches_updateNotificationRow :
    Patches patch (NotificationPatching.updateNotificationRow patch) :=
  ⟨fun _ => rfl, fun _ => rfl, fun _ => rfl⟩

/-- A row of a table after the update comes from one before it. -/
theorem mem_updateSelected {row : NotificationRow}
    (h : row ∈ notifications ((Setting.updateSelected ids f).apply rows)) :
    ∃ old ∈ notifications rows, row = if ids.contains old.id then f old else old := by
  obtain ⟨r, hr, hnew⟩ := List.mem_map.mp (mem_notifications.mp h)
  cases r with
  | notification old =>
    refine ⟨old, mem_notifications.mpr hr, ?_⟩
    split at hnew
    · next hselected =>
      rw [if_pos (show ids.contains old.id = true from hselected)]
      exact (Row.notification.inj hnew).symm
    · next hselected =>
      rw [if_neg (show ¬ids.contains old.id = true from hselected)]
      exact (Row.notification.inj hnew).symm
  | thirdPartyItem old => split at hnew <;> cases hnew
  | task old => split at hnew <;> cases hnew

theorem touched_updateSelected {k : RowId}
    (h : k ∈ (Setting.updateSelected ids f).touched Row.id) : ∃ id ∈ ids, k = .notification id := by
  obtain ⟨r, rfl, hr⟩ := h
  cases r with
  | notification row => exact ⟨row.id, List.contains_iff_mem.mp hr, rfl⟩
  | thirdPartyItem row => cases hr
  | task row => cases hr

theorem keeps_updateSelected (hf : Patches patch f) :
    (Setting.updateSelected ids f).Keeps rowIdentity := by
  intro r
  cases r with
  | notification row =>
    simp only [onNotification, rowIdentity, hf.id, hf.sourceItemId]
  | thirdPartyItem row => rfl
  | task row => rfl

theorem keepsId_updateSelected (hf : Patches patch f) :
    (Setting.updateSelected ids f).Keeps Row.id := by
  intro r
  cases r with
  | notification row => exact congrArg RowId.notification (hf.id row)
  | thirdPartyItem row => rfl
  | task row => rfl

theorem sound_updateSelected (hf : Patches patch f)
    (hids : ∀ id ∈ ids, .notification id ∈ rows.map Row.id) :
    Sound rows (Setting.updateSelected ids f) := by
  refine sound_update (@keepsId_updateSelected ids patch f hf) (fun r => ?_) (fun r r' hid => ?_)
    fun r hr => ?_
  · cases r with
    | notification row => exact congrArg (Sum.inr ∘ RowId.notification) (hf.id row)
    | thirdPartyItem row => rfl
    | task row => rfl
  · cases r <;> cases r' <;> simp_all [Row.id, Row.notification?]
  · obtain ⟨id, hid, hk⟩ := @touched_updateSelected ids f r.id ⟨r, rfl, hr⟩
    exact hk ▸ hids id hid

theorem mem_oneWayThreads (h : thread ∈ setting.oneWayThreads rows ids) :
    thread.notification ∈ ids ∧ Known rows thread := by
  obtain ⟨row, hrow, hbind⟩ := List.mem_filterMap.mp h
  obtain ⟨hmem, hid⟩ := List.mem_filter.mp hrow
  obtain ⟨item, hfind, hsome⟩ := Option.bind_eq_some_iff.mp hbind
  have hitem : item.id = row.sourceItemId := by simpa using List.find?_some hfind
  split at hsome
  · cases hsome
    refine ⟨List.contains_iff_mem.mp hid, List.mem_map.mpr ⟨.thirdPartyItem item,
      mem_items.mp (List.mem_of_find?_eq_some hfind), rfl⟩, List.mem_map.mpr ⟨.notification row,
        mem_notifications.mp hmem, ?_⟩⟩
    simp only [rowIdentity, hitem]
  · cases hsome

theorem unsubscribes_updateSelected (hf : Patches patch f) (hstatus : patch.status = some .unsubscribed)
    (hid : id ∈ ids) (hmem : .notification id ∈ rows.map Row.id) :
    Unsubscribes id (Setting.updateSelected ids f) := by
  refine ⟨?_, fun rows' row hrow hrowId => ?_⟩
  · obtain ⟨r, -, hr⟩ := List.mem_map.mp hmem
    refine ⟨r, hr, ?_⟩
    cases r with
    | notification row =>
      cases hr
      exact List.contains_iff_mem.mpr hid
    | thirdPartyItem row => cases hr
    | task row => cases hr
  · obtain ⟨old, -, rfl⟩ := mem_updateSelected hrow
    split at hrowId
    · next hselected => rw [if_pos hselected, hf.status, hstatus, Option.getD_some]
    · next hselected =>
      rw [hrowId] at hselected
      exact absurd (List.contains_iff_mem.mpr hid) hselected

theorem executed_patched (hf : Patches patch f)
    (hids : ∀ id ∈ ids, .notification id ∈ rows.map Row.id) {next : List Operation}
    {queued : List SideEffectsJob} (hnext : ∀ o ∈ next, o.isPlain = true) :
    Executed setting rows operation answer
      { setting.patched rows ids patch f with next, queued } where
  sound _ w hw := by
    cases hw
    exact sound_updateSelected hf hids
  identity w hw := by
    cases hw
    exact keeps_updateSelected hf
  grounded o ho := grounded_of_isPlain (hnext o (List.append_nil next ▸ ho))
  settled thread _ _ _ _ o ho := settled_of_isPlain (hnext o (List.append_nil next ▸ ho))
  kept thread _ _ _ hended w hw := by
    cases hw
    cases hstatus : patch.status with
    | none =>
      intro rows' hrows row hrow hid
      obtain ⟨old, hold, rfl⟩ := mem_updateSelected hrow
      have hsame : ∀ row, (f row).status = row.status := fun row => by
        rw [hf.status, hstatus, Option.getD_none]
      split at hid
      · next hselected =>
        rw [if_pos hselected, hsame]
        exact hrows old hold ((hf.id old).symm.trans hid)
      · next hselected =>
        rw [if_neg hselected]
        exact hrows old hold hid
    | some status =>
      refine keepsUnsubscribed_of_not_touched (keepsId_updateSelected hf) fun htouched => ?_
      obtain ⟨id, hid, hk⟩ := touched_updateSelected htouched
      cases hk
      refine hended ?_
      simp only [Setting.patched, hstatus, Option.isSome_some, if_true]
      exact hid
  began thread hthread := by
    simp only [Setting.patched] at hthread
    split at hthread
    · next hstatus =>
      obtain ⟨hid, hknown⟩ := mem_oneWayThreads hthread
      exact ⟨hknown, _, rfl, unsubscribes_updateSelected hf hstatus hid hknown.notification_id⟩
    · cases hthread

end Patches

/-- What an operation does. -/
theorem executed (hnodup : (rows.map Row.id).Nodup)
    (h : setting.execute rows operation answer = some outcome) :
    Executed setting rows operation answer outcome := by
  unfold Setting.execute at h
  split at h
  · split at h
    · cases h
      refine executed_of_isPlain fun o ho => ?_
      split at ho
      · cases List.mem_singleton.mp ho
        rfl
      · cases ho
    · cases h
      exact executed_of_isPlain fun o ho => by cases ho
  · cases h
    refine executed_of_isPlain fun o ho => ?_
    obtain ⟨item, -, rfl⟩ := List.mem_map.mp ho
    rfl
  · obtain ⟨connection, hconnection, rfl⟩ := Option.map_eq_some_iff.mp h
    exact executed_fetchItemFromEvent hconnection
  · cases h
    refine executed_of_isPlain fun o ho => ?_
    split at ho
    · cases ho
    · obtain ⟨item, -, rfl⟩ := List.mem_map.mp ho
      rfl
  · obtain ⟨connection, hconnection, rfl⟩ := Option.map_eq_some_iff.mp h
    exact executed_fetchThread hconnection
  · cases h
    exact executed_selectItem hnodup
  · cases h
    exact executed_writeItem
  · split at h
    · next hdata =>
      dsimp only at h
      split at h
      · next hanswers =>
        cases h
        exact executed_selectNotification hnodup hdata hanswers
      · cases h
    · cases h
  · cases h
    exact executed_writeNotification
  · next id patch userId =>
    split at h
    · cases h
    · dsimp only at h
      cases h
      refine executed_patched patches_updateNotificationRow (fun id hid => ?_) fun o ho => ?_
      · obtain ⟨row, hrow, rfl⟩ := List.mem_map.mp hid
        exact List.mem_map_of_mem (f := Row.id) (mem_notifications.mp (List.mem_filter.mp hrow).1)
      · obtain ⟨row, -, ho⟩ := List.mem_flatMap.mp ho
        obtain ⟨item, -, rfl⟩ := Option.map_eq_some_iff.mp (Option.mem_toList.mp ho)
        rfl
  · next selector patch userId =>
    split at h
    · cases h
      exact executed_of_isPlain fun o ho => by cases ho
    · cases h
      refine executed_patched patches_patchRow (fun id hid => ?_) fun o ho => absurd ho List.not_mem_nil
      obtain ⟨row, hrow, rfl⟩ := List.mem_map.mp hid
      exact List.mem_map_of_mem (f := Row.id) (mem_notifications.mp (List.mem_filter.mp hrow).1)
  · obtain ⟨row, -, hmap⟩ := Option.bind_eq_some_iff.mp h
    obtain ⟨item, -, rfl⟩ := Option.map_eq_some_iff.mp hmap
    refine executed_of_isPlain fun o ho => ?_
    cases List.mem_singleton.mp ho
    rfl
  · cases h
    exact executed_of_isPlain isPlain_sideEffects
  · cases h

end Operations

/-- A patch of the user runs one update and then its side effects; no other job updates. -/
inductive Phase where
  | job
  | update
  | sideEffect
deriving DecidableEq

def Operation.phase : Operation → Phase
  | .updateNotification _ _ _ | .updateNotifications _ _ _ => .update
  | .applySideEffects _ _ _ _ => .sideEffect
  | .selectItem caller _ | .writeItem caller _ _ => if caller = .sideEffect then .sideEffect else .job
  | _ => .job

/-- Where the operations of a transaction lead. -/
structure Leads (operation : Operation) (outcome : Outcome) : Prop where
  next : ∀ o ∈ outcome.next ++ outcome.later, o.phase ≠ .update
  sideEffects : operation.phase ≠ .job → ∀ o ∈ outcome.next ++ outcome.later, o.phase = .sideEffect
  quiet : operation.phase ≠ .update → outcome.ended = [] ∧ outcome.began = []

section Phases
variable {setting : Setting} {rows : List Row} {operation : Operation} {answer : Answer}
  {outcome : Outcome} {thread : ThreadNotification}

/-- Operations that run for the user hold no copy of a thread for its notification. -/
theorem settled_of_phase (h : operation.phase = .sideEffect) :
    operation.Settled setting thread ∧ operation.FetchesUnsubscribed setting thread answer := by
  cases operation with
  | selectItem caller item =>
    refine ⟨fun hcaller => ?_, trivial⟩
    simp only [Operation.phase, if_neg hcaller, reduceCtorEq] at h
  | writeItem caller existing item =>
    refine ⟨fun hcaller => ?_, trivial⟩
    simp only [Operation.phase, if_neg hcaller, reduceCtorEq] at h
  | applySideEffects _ _ _ _ => exact ⟨trivial, trivial⟩
  | _ => cases h

theorem ne_update_of_job (h : operation.phase = .job) : operation.phase ≠ .update := by
  rw [h]
  decide

theorem ne_update_of_sideEffect (h : operation.phase = .sideEffect) : operation.phase ≠ .update := by
  rw [h]
  decide

theorem leads_of_quiet {outcome : Outcome} (hoperation : operation.phase = .job)
    (hended : outcome.ended = []) (hbegan : outcome.began = [])
    (hnext : ∀ o ∈ outcome.next ++ outcome.later, o.phase ≠ .update) : Leads operation outcome :=
  ⟨hnext, fun hjob => absurd hoperation hjob, fun _ => ⟨hended, hbegan⟩⟩

theorem leads_of_update {outcome : Outcome} (hoperation : operation.phase = .update)
    (hnext : ∀ o ∈ outcome.next ++ outcome.later, o.phase = .sideEffect) : Leads operation outcome :=
  ⟨fun o ho => ne_update_of_sideEffect (hnext o ho), fun _ => hnext,
    fun hupdate => absurd hoperation hupdate⟩

theorem phase_sideEffects {patch : NotificationPatch} {kind : NotificationSourceKind}
    {item : ThirdPartyItem} {userId : UserId} :
    ∀ o ∈ setting.sideEffects patch kind item userId, o.phase = .sideEffect := by
  intro o ho
  obtain ⟨stored, rfl⟩ := sideEffects_eq_selectItem o ho
  rfl

theorem leads_applySideEffects {patch : NotificationPatch} {kind : NotificationSourceKind}
    {item : ThirdPartyItem} {userId : UserId} :
    Leads (.applySideEffects patch kind item userId)
      { next := setting.sideEffects patch kind item userId } := by
  have hnext : ∀ o ∈ setting.sideEffects patch kind item userId ++ [], o.phase = .sideEffect := by
    rw [List.append_nil]
    exact phase_sideEffects
  exact ⟨fun o ho => ne_update_of_sideEffect (hnext o ho), fun _ => hnext, fun _ => ⟨rfl, rfl⟩⟩

theorem leads_selectItem {caller : Caller} {item : ThirdPartyItem} :
    Leads (.selectItem caller item)
      { next := [.writeItem caller (Setting.matchingItem rows item) item] } where
  next o ho := by
    cases List.mem_singleton.mp ho
    cases caller
    · exact ne_update_of_job rfl
    · exact ne_update_of_job rfl
    · exact ne_update_of_sideEffect rfl
  sideEffects hjob o ho := by
    cases List.mem_singleton.mp ho
    cases caller
    · exact absurd rfl hjob
    · exact absurd rfl hjob
    · rfl
  quiet _ := ⟨rfl, rfl⟩

theorem leads_writeItem {caller : Caller} {existing : Option ThirdPartyItem} {item : ThirdPartyItem} :
    Leads (.writeItem caller existing item)
      { write := (Setting.createOrUpdateThirdPartyItem existing item).1
        next := (Setting.afterItem caller
          (Setting.createOrUpdateThirdPartyItem existing item).2).1
        later := (Setting.afterItem caller
          (Setting.createOrUpdateThirdPartyItem existing item).2).2 } where
  next o ho := by
    obtain ⟨-, rfl⟩ := mem_afterItem ho
    exact ne_update_of_job rfl
  sideEffects hjob o ho := by
    obtain ⟨hcaller, -⟩ := mem_afterItem ho
    exact absurd (if_neg hcaller) hjob
  quiet _ := ⟨rfl, rfl⟩

theorem leads (h : setting.execute rows operation answer = some outcome) :
    Leads operation outcome := by
  unfold Setting.execute at h
  split at h
  · split at h
    · cases h
      refine leads_of_quiet rfl rfl rfl fun o ho => ?_
      rw [List.append_nil] at ho
      split at ho
      · cases List.mem_singleton.mp ho
        exact ne_update_of_job rfl
      · cases ho
    · cases h
      exact leads_of_quiet rfl rfl rfl fun o ho => by cases ho
  · cases h
    refine leads_of_quiet rfl rfl rfl fun o ho => ?_
    rw [List.append_nil] at ho
    obtain ⟨item, -, rfl⟩ := List.mem_map.mp ho
    exact ne_update_of_job rfl
  · obtain ⟨connection, -, rfl⟩ := Option.map_eq_some_iff.mp h
    refine leads_of_quiet rfl rfl rfl fun o ho => ?_
    rw [List.append_nil] at ho
    obtain ⟨fetched, -, rfl⟩ := Option.map_eq_some_iff.mp (Option.mem_toList.mp ho)
    exact ne_update_of_job rfl
  · cases h
    refine leads_of_quiet rfl rfl rfl fun o ho => ?_
    rw [List.append_nil] at ho
    split at ho
    · cases ho
    · obtain ⟨item, -, rfl⟩ := List.mem_map.mp ho
      exact ne_update_of_job rfl
  · obtain ⟨connection, -, rfl⟩ := Option.map_eq_some_iff.mp h
    refine leads_of_quiet rfl rfl rfl fun o ho => ?_
    rw [List.nil_append] at ho
    obtain ⟨fetched, -, rfl⟩ := Option.map_eq_some_iff.mp (Option.mem_toList.mp ho)
    exact ne_update_of_job rfl
  · cases h
    exact leads_selectItem
  · cases h
    exact leads_writeItem
  · split at h
    · dsimp only at h
      split at h
      · cases h
        refine leads_of_quiet rfl rfl rfl fun o ho => ?_
        cases List.mem_singleton.mp ho
        exact ne_update_of_job rfl
      · cases h
    · cases h
  · cases h
    exact leads_of_quiet rfl rfl rfl fun o ho => by cases ho
  · split at h
    · cases h
    · dsimp only at h
      cases h
      refine leads_of_update rfl fun o ho => ?_
      obtain ⟨row, -, ho⟩ := List.mem_flatMap.mp ((List.mem_append.mp ho).resolve_right List.not_mem_nil)
      obtain ⟨item, -, rfl⟩ := Option.map_eq_some_iff.mp (Option.mem_toList.mp ho)
      rfl
  · split at h
    · cases h
      exact leads_of_update rfl fun o ho => absurd ho List.not_mem_nil
    · cases h
      exact leads_of_update rfl fun o ho => absurd ho List.not_mem_nil
  · obtain ⟨row, -, hmap⟩ := Option.bind_eq_some_iff.mp h
    obtain ⟨item, -, rfl⟩ := Option.map_eq_some_iff.mp hmap
    refine leads_of_quiet rfl rfl rfl fun o ho => ?_
    cases List.mem_singleton.mp ho
    exact ne_update_of_sideEffect rfl
  · cases h
    exact leads_applySideEffects
  · cases h

end Phases

/-- The user has left the thread in a transaction that is still open. -/
structure Begun (store : Store JobId Row Memory) (x : Session) (thread : ThreadNotification) :
    Prop where
  known : Known (store.visible x) thread
  written : ∃ w ∈ x.writes, Unsubscribes thread.notification w
  kept : ∀ w ∈ x.writes, KeepsUnsubscribed thread.notification w

/-- The user has left the thread: its notification is unsubscribed, and no open transaction writes
or holds anything else for it, unless the user changes it. -/
structure Standing (setting : Setting) (store : Store JobId Row Memory)
    (thread : ThreadNotification) : Prop where
  known : Known store.committed thread
  status : UnsubscribedIn store.committed thread.notification
  kept : ∀ x ∈ store.sessions.rows, thread.notification ∉ x.memory.ended →
    ∀ w ∈ x.writes, KeepsUnsubscribed thread.notification w
  settled : ∀ x ∈ store.sessions.rows, ∀ o ∈ x.memory.operations, o.Settled setting thread

/-- What a transaction has still to do: the update of the user, first and alone, or no update. -/
inductive Shape (x : Session) : Prop where
  | updating (operation : Operation) (operations : x.memory.operations = [operation])
      (writes : x.writes = []) (ended : x.memory.ended = []) (began : x.memory.began = [])
  | reading (operations : ∀ o ∈ x.memory.operations, o.phase ≠ .update)
      (ended : x.memory.ended = []) (began : x.memory.began = [])
  | applying (operations : ∀ o ∈ x.memory.operations, o.phase = .sideEffect)

structure Inv (setting : Setting) (s : State) : Prop where
  separate : s.store.Separate Row.id
  identity : ∀ x ∈ s.store.sessions.rows, ∀ w ∈ x.writes, w.Keeps rowIdentity
  grounded : ∀ x ∈ s.store.sessions.rows, ∀ o ∈ x.memory.operations,
    o.Grounded (s.store.visible x)
  shape : ∀ x ∈ s.store.sessions.rows, Shape x
  begun : ∀ x ∈ s.store.sessions.rows, ∀ thread ∈ x.memory.began, Begun s.store x thread
  standing : ∀ thread ∈ s.unsubscribed, Standing setting s.store thread

/-- A thread that is fetched while it is left says so, by the copy read before or by Slack; and when
the user leaves one, no other transaction holds a copy that does not. -/
def Guard (setting : Setting) (s : State) : Input → Prop
  | .run id answer => ∀ x ∈ s.session id, ∀ operation ∈ x.memory.operations.head?,
      ∀ thread ∈ s.unsubscribed, operation.FetchesUnsubscribed setting thread answer
  | .commit id => ∀ x ∈ s.session id, ∀ thread ∈ x.memory.began,
      ∀ other ∈ s.store.sessions.rows, other.id ≠ id →
        ∀ o ∈ other.memory.operations, o.Settled setting thread
  | _ => True

instance (setting : Setting) (s : State) : ∀ i, Decidable (Guard setting s i)
  | .run _ _ => inferInstanceAs (Decidable (∀ _ ∈ _, ∀ _ ∈ _, ∀ _ ∈ _, _))
  | .commit _ => inferInstanceAs (Decidable (∀ _ ∈ _, ∀ _ ∈ _, ∀ _ ∈ _, _ → ∀ _ ∈ _, _))
  | .receive _ _ _ _ | .sync _ _ | .patch _ _ _ _ | .patchBulk _ _ _ _ | .process _ _ | .abort _ =>
    inferInstanceAs (Decidable True)

section Steps
variable {setting : Setting} {s t : State} {x y : Session} {id : JobId}
  {thread : ThreadNotification}

theorem Inv.nodup_visible (h : Inv setting s) (hx : x ∈ s.store.sessions.rows) :
    ((s.store.visible x).map Row.id).Nodup := by
  have hnodup := h.separate.nodup_claimed hx
  rw [← List.append_assoc] at hnodup
  have hvisible : (s.store.visible x).map Row.id =
      s.store.committed.map Row.id ++ insertedKeys Row.id x.writes :=
    map_key_foldl fun w hw => (h.separate.byKey x hx w hw).keeps
  rw [hvisible]
  exact (List.nodup_append.mp hnodup).1

theorem Inv.known_visible (h : Inv setting s) (hx : x ∈ s.store.sessions.rows)
    (hknown : Known s.store.committed thread) : Known (s.store.visible x) thread :=
  hknown.mono fun _ hk => (mem_keys_foldl (h.identity x hx)).mpr (.inl hk)

theorem executable_separate {w : Write Row} (h : s.executable id w = true) :
    s.store.Executable Row.id id w := by
  cases w with
  | insert row => simpa [State.executable, Store.Executable] using h
  | update p f => simpa [State.executable, Store.Executable] using h

/-- Whatever starts a transaction. -/
theorem inv_begin {operations : List Operation} {unsubscribed : List ThreadNotification}
    (h : Inv setting s) (hplain : ∀ o ∈ operations, o.isPlain = true)
    (hshape : Shape ⟨id, [], ⟨operations, [], []⟩⟩)
    (hsub : ∀ thread ∈ unsubscribed, thread ∈ s.unsubscribed)
    (ht : s.begin id operations = some t) : Inv setting { t with unsubscribed } := by
  obtain ⟨store, hbegin, rfl⟩ := Option.map_eq_some_iff.mp ht
  have hseparate := h.separate.begin hbegin
  obtain ⟨sessions, hinsert, rfl⟩ := Option.map_eq_some_iff.mp hbegin
  obtain ⟨-, hrows⟩ := Table.insert?_eq_some.mp hinsert
  have hcases : ∀ y ∈ sessions.rows,
      y ∈ s.store.sessions.rows ∨ y = ⟨id, [], ⟨operations, [], []⟩⟩ := by
    intro y hy
    rw [hrows, List.mem_append, List.mem_singleton] at hy
    exact hy
  refine ⟨hseparate, fun y hy w hw => ?_, fun y hy o ho => ?_, fun y hy => ?_,
    fun y hy thread hthread => ?_, fun thread hthread => ?_⟩
  · rcases hcases y hy with hy | rfl
    · exact h.identity y hy w hw
    · cases hw
  · rcases hcases y hy with hy | rfl
    · exact h.grounded y hy o ho
    · exact grounded_of_isPlain (hplain o ho)
  · rcases hcases y hy with hy | rfl
    · exact h.shape y hy
    · exact hshape
  · rcases hcases y hy with hy | rfl
    · obtain ⟨hknown, hwritten, hkept⟩ := h.begun y hy thread hthread
      exact ⟨hknown, hwritten, hkept⟩
    · cases hthread
  · obtain ⟨hknown, hstatus, hkept, hsettled⟩ := h.standing thread (hsub thread hthread)
    refine ⟨hknown, hstatus, fun y hy => ?_, fun y hy o ho => ?_⟩
    · rcases hcases y hy with hy | rfl
      · exact hkept y hy
      · intro _ w hw
        cases hw
    · rcases hcases y hy with hy | rfl
      · exact hsettled y hy o ho
      · exact settled_of_isPlain (hplain o ho)

theorem inv_abort (h : Inv setting s) (hx : x ∈ s.store.sessions.rows) :
    Inv setting { s with store := s.store.rollback x.id } := by
  have hmem : ∀ y ∈ (s.store.rollback x.id).sessions.rows, y ∈ s.store.sessions.rows :=
    fun y hy => (Table.mem_erase.mp hy).1
  refine ⟨h.separate.rollback hx, fun y hy => h.identity y (hmem y hy),
    fun y hy => h.grounded y (hmem y hy), fun y hy => h.shape y (hmem y hy),
    fun y hy thread hthread => ?_, fun thread hthread => ?_⟩
  · obtain ⟨hknown, hwritten, hkept⟩ := h.begun y (hmem y hy) thread hthread
    exact ⟨hknown, hwritten, hkept⟩
  · obtain ⟨hknown, hstatus, hkept, hsettled⟩ := h.standing thread hthread
    exact ⟨hknown, hstatus, fun y hy => hkept y (hmem y hy), fun y hy => hsettled y (hmem y hy)⟩

/-- What another transaction has inserted, or has not touched, keeps the notification. -/
theorem kept_of_apart (h : Inv setting s) (hx : x ∈ s.store.sessions.rows)
    (hy : y ∈ s.store.sessions.rows) (hother : y.id ≠ x.id)
    (hwritten : ∃ w ∈ x.writes, Unsubscribes thread.notification w) :
    ∀ w ∈ y.writes, KeepsUnsubscribed thread.notification w := by
  intro w hw
  obtain ⟨w', hw', hunsubscribes⟩ := hwritten
  refine keepsUnsubscribed_of_not_touched (h.separate.byKey y hy w hw).keeps fun htouched => ?_
  have hpairwise := (List.Perm.pairwise_iff ReadCommitted.Session.Apart.symm
    (Table.perm_erase hx)).mp h.separate.apart
  have hapart := (List.pairwise_cons.mp hpairwise).1 y (Table.mem_erase.mpr ⟨hy, hother⟩)
  exact hapart w' hw' w hw _ hunsubscribes.touched htouched

theorem inv_commit (h : Inv setting s) (hx : x ∈ s.store.sessions.rows)
    (hguard : ∀ thread ∈ x.memory.began, ∀ other ∈ s.store.sessions.rows, other.id ≠ x.id →
      ∀ o ∈ other.memory.operations, o.Settled setting thread) : Inv setting (s.commit x) := by
  have hmem : ∀ y ∈ (s.store.commit x).sessions.rows, y ∈ s.store.sessions.rows ∧ y.id ≠ x.id :=
    fun y hy => Table.mem_erase.mp hy
  refine ⟨h.separate.commit hx, fun y hy => h.identity y (hmem y hy).1, fun y hy o ho => ?_,
    fun y hy => h.shape y (hmem y hy).1, fun y hy thread hthread => ?_, fun thread hthread => ?_⟩
  · have hgrows : ∀ k ∈ (s.store.visible y).map Row.id, k ∈ ((s.store.commit x).visible y).map Row.id :=
      fun k hk => Store.mem_keys_visible_commit
        (fun z hz w hw => (h.separate.byKey z hz w hw).keeps) hx (hmem y hy).1 hk
    have hold := h.grounded y (hmem y hy).1 o ho
    cases o with
    | writeItem caller existing item => exact fun e he => hgrows _ (hold e he)
    | writeNotification request existing => exact fun e he => hgrows _ (hold e he)
    | _ => trivial
  · obtain ⟨hknown, hwritten, hkept⟩ := h.begun y (hmem y hy).1 thread hthread
    exact ⟨hknown.mono fun k hk => Store.mem_keys_visible_commit h.identity hx (hmem y hy).1 hk,
      hwritten, hkept⟩
  · rcases List.mem_append.mp hthread with hold | hnew
    · obtain ⟨hold, hended⟩ := List.mem_filter.mp hold
      have hnot : thread.notification ∉ x.memory.ended := by simpa using hended
      obtain ⟨hknown, hstatus, hkept, hsettled⟩ := h.standing thread hold
      exact ⟨h.known_visible hx hknown, unsubscribedIn_foldl (hkept x hx hnot) hstatus,
        fun y hy => hkept y (hmem y hy).1, fun y hy => hsettled y (hmem y hy).1⟩
    · obtain ⟨hknown, hwritten, hkept⟩ := h.begun x hx thread hnew
      refine ⟨hknown, unsubscribedIn_of_unsubscribes hkept hwritten, fun y hy _ => ?_, fun y hy => ?_⟩
      · exact kept_of_apart h hx (hmem y hy).1 (hmem y hy).2 hwritten
      · exact hguard thread hnew y (hmem y hy).1 (hmem y hy).2

section Run
variable {operation : Operation} {rest : List Operation} {answer : Answer} {outcome : Outcome}

/-- An operation that a transaction is about to run. -/
structure Next (setting : Setting) (s : State) (x : Session) (operation : Operation)
    (rest : List Operation) (answer : Answer) (outcome : Outcome) : Prop where
  mem : x ∈ s.store.sessions.rows
  operations : x.memory.operations = operation :: rest
  execute : setting.execute (s.store.visible x) operation answer = some outcome
  executable : ∀ w ∈ outcome.write, s.executable x.id w = true

namespace Next
variable (n : Next setting s x operation rest answer outcome) (h : Inv setting s)
include n

theorem head_mem : operation ∈ x.memory.operations := by
  rw [n.operations]
  exact List.mem_cons_self

theorem rest_mem {o : Operation} (ho : o ∈ rest) : o ∈ x.memory.operations := by
  rw [n.operations]
  exact List.mem_cons_of_mem _ ho

include h

theorem executed : Executed setting (s.store.visible x) operation answer outcome :=
  SlackSubscription.executed (h.nodup_visible n.mem) n.execute

/-- The key of an inserted row is new. -/
theorem fresh (r : Row) (hr : outcome.write = some (.insert r)) :
    r.id ∉ (s.store.visible x).map Row.id := by
  have hexecutable : r.id ∉ s.store.claimedKeys Row.id :=
    executable_separate (n.executable _ hr)
  exact fun hmem => hexecutable (h.separate.mem_claimedKeys_of_visible n.mem hmem)

theorem sound : ∀ w ∈ outcome.write, Sound (s.store.visible x) w :=
  (n.executed h).sound (h.grounded x n.mem operation n.head_mem)

theorem separate : (s.after x rest outcome).store.Separate Row.id :=
  h.separate.run n.mem (fun w hw => (n.sound h w hw).byKey)
    (fun w hw => executable_separate (n.executable w hw)) fun w hw => (n.sound h w hw).seen

omit h in
/-- The transactions after an operation: the one that has run it, and the others. -/
theorem mem_after {y : Session} (hy : y ∈ (s.after x rest outcome).store.sessions.rows) :
    y = x.after outcome.write ⟨outcome.next ++ rest ++ outcome.later,
        x.memory.ended ++ outcome.ended, x.memory.began ++ outcome.began⟩ ∨
      y ∈ s.store.sessions.rows ∧ y.id ≠ x.id := (Store.mem_run n.mem).mp hy

omit h in
theorem mem_operations {o : Operation} (ho : o ∈ outcome.next ++ rest ++ outcome.later) :
    o ∈ outcome.next ++ outcome.later ∨ o ∈ x.memory.operations := by
  rcases List.mem_append.mp ho with ho | hlater
  · rcases List.mem_append.mp ho with hnext | hrest
    · exact .inl (List.mem_append_left _ hnext)
    · exact .inr (n.rest_mem hrest)
  · exact .inl (List.mem_append_right _ hlater)

omit n h in
theorem mem_writes {w : Write Row} (hw : w ∈ x.writes ++ outcome.write.toList) :
    w ∈ x.writes ∨ w ∈ outcome.write :=
  (List.mem_append.mp hw).imp_right Option.mem_toList.mp

/-- What the transaction sees only grows. -/
theorem grows {k : RowId} (hk : k ∈ (s.store.visible x).map Row.id) :
    k ∈ (outcome.write.toList.foldl Write.apply (s.store.visible x)).map Row.id :=
  (mem_keys_foldl fun w hw => (n.sound h w (Option.mem_toList.mp hw)).byKey.keeps).mpr (.inl hk)

theorem known_grows (hknown : Known (s.store.visible x) thread) :
    Known (outcome.write.toList.foldl Write.apply (s.store.visible x)) thread :=
  hknown.mono fun _ hk => (mem_keys_foldl fun w hw =>
    (n.executed h).identity w (Option.mem_toList.mp hw)).mpr (.inl hk)

theorem grounded_after {o : Operation} (ho : o ∈ outcome.next ++ rest ++ outcome.later) :
    o.Grounded (outcome.write.toList.foldl Write.apply (s.store.visible x)) := by
  have hold : o.Grounded (s.store.visible x) := by
    rcases n.mem_operations ho with hnew | hmem
    · exact (n.executed h).grounded o hnew
    · exact h.grounded x n.mem o hmem
  cases o with
  | writeItem caller existing item => exact fun e he => n.grows h (hold e he)
  | writeNotification request existing => exact fun e he => n.grows h (hold e he)
  | _ => trivial

/-- Where the user's update runs, it runs alone. -/
theorem shape_after : Shape (x.after outcome.write ⟨outcome.next ++ rest ++ outcome.later,
    x.memory.ended ++ outcome.ended, x.memory.began ++ outcome.began⟩) := by
  have hleads := leads n.execute
  have hcases : ∀ o ∈ outcome.next ++ rest ++ outcome.later, o ∈ outcome.next ++ outcome.later ∨
      o ∈ x.memory.operations := fun o ho => n.mem_operations ho
  by_cases hupdate : operation.phase = .update
  · -- Nothing else was left to do.
    have hrest : rest = [] := by
      cases h.shape x n.mem with
      | updating operation' hoperations _ _ _ =>
        rw [n.operations] at hoperations
        exact (List.cons.inj hoperations).2
      | reading hoperations _ _ => exact absurd hupdate (hoperations operation n.head_mem)
      | applying hoperations =>
        rw [hoperations operation n.head_mem] at hupdate
        cases hupdate
    subst hrest
    refine .applying fun o ho => ?_
    rw [List.append_nil] at ho
    exact hleads.sideEffects (by rw [hupdate]; decide) o ho
  · obtain ⟨hended, hbegan⟩ := hleads.quiet hupdate
    cases h.shape x n.mem with
    | updating operation' hoperations hwrites hended' hbegan' =>
      rw [n.operations] at hoperations
      obtain ⟨-, rfl⟩ := List.cons.inj hoperations
      refine .reading (fun o ho => ?_) (List.append_eq_nil_iff.mpr ⟨hended', hended⟩)
        (List.append_eq_nil_iff.mpr ⟨hbegan', hbegan⟩)
      rw [List.append_nil] at ho
      exact hleads.next o ho
    | reading hoperations hended' hbegan' =>
      exact .reading (fun o ho => (hcases o ho).elim (hleads.next o) (hoperations o))
        (List.append_eq_nil_iff.mpr ⟨hended', hended⟩) (List.append_eq_nil_iff.mpr ⟨hbegan', hbegan⟩)
    | applying hoperations =>
      refine .applying fun o ho => ?_
      refine (hcases o ho).elim (hleads.sideEffects ?_ o) (hoperations o)
      rw [hoperations operation n.head_mem]
      decide

/-- What an operation of a transaction that has not changed the notification writes of it. -/
theorem kept_write (hknown : Known (s.store.visible x) thread)
    (hsettled : operation.Settled setting thread)
    (hended : thread.notification ∉ outcome.ended) :
    ∀ w ∈ outcome.write, KeepsUnsubscribed thread.notification w :=
  (n.executed h).kept thread hknown hsettled (n.fresh h) hended

theorem begun_after (hthread : thread ∈ x.memory.began ++ outcome.began) :
    Known (s.store.visible x) thread ∧
      (∃ w ∈ x.writes ++ outcome.write.toList, Unsubscribes thread.notification w) ∧
        ∀ w ∈ x.writes ++ outcome.write.toList, KeepsUnsubscribed thread.notification w := by
  rcases List.mem_append.mp hthread with hold | hnew
  · obtain ⟨hknown, ⟨w, hw, hwritten⟩, hkept⟩ := h.begun x n.mem thread hold
    have hphase : operation.phase = .sideEffect := by
      cases h.shape x n.mem with
      | updating _ _ _ _ hbegan => rw [hbegan] at hold; cases hold
      | reading _ _ hbegan => rw [hbegan] at hold; cases hold
      | applying hoperations => exact hoperations operation n.head_mem
    have hended : outcome.ended = [] :=
      ((leads n.execute).quiet (ne_update_of_sideEffect hphase)).1
    refine ⟨hknown, ⟨w, List.mem_append_left _ hw, hwritten⟩, fun w' hw' => ?_⟩
    rcases mem_writes hw' with hw' | hw'
    · exact hkept w' hw'
    · refine n.kept_write h hknown (@settled_of_phase setting operation answer thread hphase).1 ?_ w' hw'
      rw [hended]
      exact List.not_mem_nil
  · obtain ⟨hknown, w, hw, hwritten⟩ := (n.executed h).began thread hnew
    have hupdate : operation.phase = .update := by
      by_contra hquiet
      rw [((leads n.execute).quiet hquiet).2] at hnew
      cases hnew
    have hwrites : x.writes = [] := by
      cases h.shape x n.mem with
      | updating _ _ hwrites _ _ => exact hwrites
      | reading hoperations _ _ => exact absurd hupdate (hoperations operation n.head_mem)
      | applying hoperations =>
        rw [hoperations operation n.head_mem] at hupdate
        cases hupdate
    refine ⟨hknown, ⟨w, List.mem_append_right _ (Option.mem_toList.mpr hw), hwritten⟩, fun w' hw' => ?_⟩
    rcases mem_writes hw' with hw' | hw'
    · rw [hwrites] at hw'
      cases hw'
    · rw [Option.mem_unique hw' hw]
      exact fun rows _ => hwritten.unsubscribed rows

end Next

theorem inv_run (h : Inv setting s) (n : Next setting s x operation rest answer outcome)
    (hguard : ∀ thread ∈ s.unsubscribed, operation.FetchesUnsubscribed setting thread answer) :
    Inv setting (s.after x rest outcome) := by
  refine ⟨n.separate h, fun y hy w hw => ?_, fun y hy o ho => ?_, fun y hy => ?_,
    fun y hy thread hthread => ?_, fun thread hthread => ?_⟩
  · rcases n.mem_after hy with rfl | ⟨hold, -⟩
    · exact (Next.mem_writes hw).elim (h.identity x n.mem w) ((n.executed h).identity w)
    · exact h.identity y hold w hw
  · rcases n.mem_after hy with rfl | ⟨hold, -⟩
    · rw [show (s.after x rest outcome).store.visible _ = _ from Store.visible_run]
      exact n.grounded_after h ho
    · exact h.grounded y hold o ho
  · rcases n.mem_after hy with rfl | ⟨hold, -⟩
    · exact n.shape_after h
    · exact h.shape y hold
  · rcases n.mem_after hy with rfl | ⟨hold, -⟩
    · obtain ⟨hknown, hwritten, hkept⟩ := n.begun_after h hthread
      refine ⟨?_, hwritten, hkept⟩
      rw [show (s.after x rest outcome).store.visible _ = _ from Store.visible_run]
      exact n.known_grows h hknown
    · obtain ⟨hknown, hwritten, hkept⟩ := h.begun y hold thread hthread
      exact ⟨hknown, hwritten, hkept⟩
  · obtain ⟨hknown, hstatus, hkept, hsettled⟩ := h.standing thread hthread
    have hvisible := h.known_visible n.mem hknown
    have hoperation : operation.Settled setting thread := hsettled x n.mem operation n.head_mem
    refine ⟨hknown, hstatus, fun y hy hended w hw => ?_, fun y hy o ho => ?_⟩
    · rcases n.mem_after hy with rfl | ⟨hold, -⟩
      · obtain ⟨hnot, hnotNow⟩ := not_or.mp (mt List.mem_append.mpr hended)
        exact (Next.mem_writes hw).elim (hkept x n.mem hnot w)
          (n.kept_write h hvisible hoperation hnotNow w)
      · exact hkept y hold hended w hw
    · rcases n.mem_after hy with rfl | ⟨hold, -⟩
      · refine (n.mem_operations ho).elim (fun hnew => ?_) (hsettled x n.mem o)
        exact (n.executed h).settled thread hvisible hoperation (hguard thread hthread)
          (n.fresh h) o hnew
      · exact hsettled y hold o ho

end Run

theorem isPlain_eventOperations {mentioned : List IntegrationConnectionId} {threadTs : Option String} :
    ∀ o ∈ eventOperations mentioned threadTs, o.isPlain = true ∧ o.phase = .job := by
  intro o ho
  rcases List.mem_append.mp ho with ho | ho
  · obtain ⟨connection, -, rfl⟩ := List.mem_map.mp ho
    exact ⟨rfl, rfl⟩
  · obtain ⟨ts, -, rfl⟩ := Option.map_eq_some_iff.mp (Option.mem_toList.mp ho)
    exact ⟨rfl, rfl⟩

/-- A job or a patch starts with one operation. -/
theorem inv_begin_single {operation : Operation} (h : Inv setting s)
    (hplain : operation.isPlain = true) (ht : s.begin id [operation] = some t) : Inv setting t := by
  have hshape : Shape ⟨id, [], ⟨[operation], [], []⟩⟩ := .updating operation rfl rfl rfl rfl
  have hunsubscribed : t.unsubscribed = s.unsubscribed := by
    obtain ⟨store, -, rfl⟩ := Option.map_eq_some_iff.mp ht
    rfl
  have hinv := inv_begin h (fun o ho => List.mem_singleton.mp ho ▸ hplain) hshape
    (fun _ hthread => hthread) ht
  rw [← hunsubscribed] at hinv
  exact hinv

theorem inv_step {i : Input} (h : Inv setting s) (hstep : step setting s i = some t)
    (hguard : Guard setting s i) : Inv setting t := by
  cases i with
  | receive id mentioned threadTs ts =>
    obtain ⟨u, hbegin, rfl⟩ := Option.map_eq_some_iff.mp hstep
    refine inv_begin h (fun o ho => (isPlain_eventOperations o ho).1) (.reading (fun o ho => ?_) rfl rfl)
      (fun thread hthread => (List.mem_filter.mp hthread).1) hbegin
    exact ne_update_of_job (isPlain_eventOperations o ho).2
  | sync id userId =>
    unfold step at hstep
    dsimp only at hstep
    split at hstep
    · exact inv_begin_single h rfl hstep
    · cases hstep
  | patch id notificationId patch userId => exact inv_begin_single h rfl hstep
  | patchBulk id selector patch userId => exact inv_begin_single h rfl hstep
  | process id job =>
    unfold step at hstep
    dsimp only at hstep
    split at hstep
    · exact inv_begin_single h rfl hstep
    · cases hstep
  | run id answer =>
    obtain ⟨x, hfind, hrun⟩ := Option.bind_eq_some_iff.mp hstep
    obtain ⟨hx, rfl⟩ := Table.find?_eq_some.mp hfind
    split at hrun
    · next operation rest hoperations =>
      obtain ⟨outcome, hexecute, hrun⟩ := Option.bind_eq_some_iff.mp hrun
      split at hrun
      · next hexecutable =>
        cases hrun
        refine inv_run h ⟨hx, hoperations, hexecute, fun w hw => ?_⟩ fun thread hthread => ?_
        · rw [Option.mem_def.mp hw] at hexecutable
          exact hexecutable
        · refine hguard x hfind operation ?_ thread hthread
          rw [hoperations]
          rfl
      · cases hrun
    · cases hrun
  | commit id =>
    obtain ⟨x, hfind, hcommit⟩ := Option.bind_eq_some_iff.mp hstep
    obtain ⟨hx, rfl⟩ := Table.find?_eq_some.mp hfind
    split at hcommit
    · cases hcommit
      exact inv_commit h hx (hguard x hfind)
    · cases hcommit
  | abort id =>
    obtain ⟨x, hx, rfl, rfl⟩ := Table.find?_map_eq_some.mp hstep
    exact inv_abort h hx

theorem inv_initial {rows : List Row} (hkeys : (rows.map Row.id).Nodup) :
    Inv setting (initial rows) where
  separate := by
    refine ⟨⟨fun x hx => (Table.not_mem_empty hx).elim, ?_⟩,
      fun x hx => (Table.not_mem_empty hx).elim, List.Pairwise.nil,
      fun x hx => (Table.not_mem_empty hx).elim⟩
    simpa [Store.claimedKeys, initial, Table.empty] using hkeys
  identity x hx := (Table.not_mem_empty hx).elim
  grounded x hx := (Table.not_mem_empty hx).elim
  shape x hx := (Table.not_mem_empty hx).elim
  begun x hx := (Table.not_mem_empty hx).elim
  standing thread hthread := by cases hthread

end Steps

/-- The notification of a thread that the user has left stays unsubscribed until the user changes it
or is mentioned, along every run in which the thread is not stored from a copy that is not. -/
theorem unsubscription_sticks (setting : Setting) (rows : List Row)
    (hkeys : (rows.map Row.id).Nodup) (inputs : List Input)
    (hrun : Along (step setting) (fun s i _ => Guard setting s i) (initial rows) inputs) :
    Along (step setting) (fun _ _ t => Sticks t) (initial rows) inputs := by
  refine Along.of_invariant (I := Inv setting) (fun s i t hs hstep hguard => inv_step hs hstep hguard)
    (fun s i t hs hstep hguard thread hthread => ?_) (inv_initial hkeys) hrun
  exact ((inv_step hs hstep hguard).standing thread hthread).status

/-- A thread of two messages of others, of which the second may not be there yet. -/
def sampleThread (messages : Bool) (subscribed : Bool) : SlackThread where
  renderedTitle := "release"
  messages := ⟨"1732535291.911209", some "U02"⟩ ::
    if messages then [⟨"1732535300.000100", some "U03"⟩] else []
  subscribed
  lastRead := none
  userSlackId := some "U01"
  nonempty := List.cons_ne_nil _ _

def sampleCodec : ThreadCodec where
  decode content :=
    if content = "1 subscribed" then sampleThread false true
    else if content = "1 unsubscribed" then sampleThread false false
    else if content = "2 subscribed" then sampleThread true true
    else sampleThread true false
  encode thread :=
    if thread.messages.length = 1 then
      if thread.subscribed then "1 subscribed" else "1 unsubscribed"
    else if thread.subscribed then "2 subscribed" else "2 unsubscribed"
  subscribed_decode_encode thread := by
    cases hsubscribed : thread.subscribed <;> by_cases hlength : thread.messages.length = 1 <;>
      simp [hlength, sampleThread]

/-- The user 0 has one Slack connection, with 2-way sync disabled. -/
def sampleSetting : Setting where
  codec := sampleCodec
  isTesting _ := false
  connection id := if id = ⟨0⟩ then some ⟨⟨0⟩, ⟨true, false⟩⟩ else none
  accessToken userId := if userId = ⟨0⟩ then some ⟨0⟩ else none

def sampleRows : List Row :=
  [.thirdPartyItem
      { id := ⟨0⟩, sourceId := "1732535291.911209", data := .slackThread "1 subscribed"
        createdAt := postgresEpoch, updatedAt := postgresEpoch, userId := ⟨0⟩
        integrationConnectionId := ⟨0⟩, sourceItemId := none },
    .notification
      { id := ⟨0⟩, title := "release", status := .unread, createdAt := postgresEpoch
        updatedAt := postgresEpoch, lastReadAt := none, snoozedUntil := none, setAsideAt := none
        userId := ⟨0⟩, taskId := none, kind := .slack, sourceItemId := ⟨0⟩ }]

def unsubscribePatch : NotificationPatch :=
  { status := some .unsubscribed, snoozedUntil := none, taskId := none }

/-- Slack returns both messages, and the user as subscribed. -/
def fetchedSample : FetchedThread where
  id := ⟨1⟩
  createdAt := postgresEpoch + 1000000000
  updatedAt := postgresEpoch + 1000000000
  thread := sampleThread true true
  subscribed := some true

def sampleStamp : NotificationStamp :=
  ⟨⟨1⟩, postgresEpoch + 1000000000, postgresEpoch + 1000000000⟩

/-- The row of the notification as a transaction finds it. -/
def foundRow (status : NotificationStatus) : NotificationRow :=
  { id := ⟨0⟩, title := "release", status, createdAt := postgresEpoch, updatedAt := postgresEpoch
    lastReadAt := none, snoozedUntil := none, setAsideAt := none, userId := ⟨0⟩, taskId := none
    kind := .slack, sourceItemId := ⟨0⟩ }

/-- A message event of the thread, which does not mention the user: up to the read of the stored
thread, and what follows. -/
def eventReads : List Input :=
  [.receive 1 [] (some "1732535291.911209") "1732535300.000100", .run 1 .none, .run 1 .none]

def eventStores (status : NotificationStatus) : List Input :=
  [.run 1 (.thread (some fetchedSample)), .run 1 .none, .run 1 .none,
    .run 1 (.notification sampleStamp (some (foundRow status))), .run 1 .none, .commit 1]

/-- The user leaves the thread. -/
def userLeaves : List Input :=
  [.patch 2 ⟨0⟩ unsubscribePatch ⟨0⟩, .run 2 .none, .run 2 .none, .run 2 .none, .run 2 .none,
    .commit 2]

/-- The message comes once the user has left the thread. -/
theorem unsubscription_sticks_after :
    Along (step sampleSetting) (fun _ _ t => Sticks t) (initial sampleRows)
      (userLeaves ++ eventReads ++ eventStores .unsubscribed) :=
  unsubscription_sticks sampleSetting sampleRows (by decide) _ (by decide +kernel)

/-- The user leaves the thread with everything else in the inbox. -/
def userLeavesAll : List Input :=
  [.patchBulk 2 (.filter [] []) unsubscribePatch ⟨0⟩, .run 2 .none, .commit 2]

/-- A sync that lists the thread while it is unread, and what follows. -/
def syncLists : List Input := [.sync 1 ⟨0⟩, .run 1 .none]

/-- The notification comes back: the event or the sync has read what the user changes before it
writes, or the flag of a bulk action is still to be set. -/
theorem unsubscription_lost :
    (Possible (step sampleSetting) (initial sampleRows)
        (eventReads ++ userLeaves ++ eventStores .unsubscribed) ∧
      ¬Along (step sampleSetting) (fun _ _ t => Sticks t) (initial sampleRows)
        (eventReads ++ userLeaves ++ eventStores .unsubscribed)) ∧
    (Possible (step sampleSetting) (initial sampleRows)
        (syncLists ++ userLeaves ++ eventStores .unsubscribed) ∧
      ¬Along (step sampleSetting) (fun _ _ t => Sticks t) (initial sampleRows)
        (syncLists ++ userLeaves ++ eventStores .unsubscribed)) ∧
    Possible (step sampleSetting) (initial sampleRows)
        (userLeavesAll ++ eventReads ++ eventStores .unsubscribed) ∧
      ¬Along (step sampleSetting) (fun _ _ t => Sticks t) (initial sampleRows)
        (userLeavesAll ++ eventReads ++ eventStores .unsubscribed) := by
  decide +kernel

end UniversalInbox.SlackSubscription
