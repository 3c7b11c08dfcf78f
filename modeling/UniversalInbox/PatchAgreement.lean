import UniversalInbox.NotificationPatching

/-! The list mode of `bulk_act_notifications` against `act_on_notification` called on each entry.
In bulk the entries are written group by group and their side effects are left to a queue; one by
one each entry has a transaction of its own, with its side effects in it. -/
namespace UniversalInbox.PatchAgreement
open JobQueue NotificationPatching
open BulkPatch (patchRow groupPatches addToGroup mem_groupPatches NotificationUpdateSelector
  ProcessNotificationSideEffects)
open NotificationUpsert (joinedNotification joinedNotification_of_mem)
open Results (bind_eq_ok map_eq_ok)

inductive ToolCallError where
  | invalidArguments (message : String)
deriving DecidableEq, Repr

inductive NotificationAction where
  | markRead
  | delete
  | unsubscribe
  | snoozeUntil
deriving DecidableEq, Repr

structure NotificationActionEntry where
  notificationId : NotificationId
  action : NotificationAction
  snoozedUntil : Option DateTime
deriving DecidableEq, Repr

def maxListModeEntries : Nat := 100

def notificationPatchFromAction (action : NotificationAction) (snoozedUntil : Option DateTime) :
    Except ToolCallError NotificationPatch :=
  match action with
  | .markRead => .ok { status := some .read, snoozedUntil := none, taskId := none }
  | .delete => .ok { status := some .deleted, snoozedUntil := none, taskId := none }
  | .unsubscribe => .ok { status := some .unsubscribed, snoozedUntil := none, taskId := none }
  | .snoozeUntil =>
    match snoozedUntil with
    | some t => .ok { status := none, snoozedUntil := some t, taskId := none }
    | none => .error (.invalidArguments "`snoozed_until` is required for `snooze_until`")

/-- What the loop over the entries has seen, and what it has seen twice. -/
def seeEntry (state : List NotificationId × List NotificationId)
    (entry : NotificationActionEntry) : List NotificationId × List NotificationId :=
  if entry.notificationId ∈ state.1 then
    (state.1,
      if entry.notificationId ∈ state.2 then state.2 else state.2 ++ [entry.notificationId])
  else (entry.notificationId :: state.1, state.2)

def validateListModeEntries (entries : List NotificationActionEntry) : Except ToolCallError Unit :=
  let duplicates := (entries.foldl seeEntry ([], [])).2
  let names := String.intercalate ", " (duplicates.map fun id => toString id.uuid)
  if entries.isEmpty then
    .error (.invalidArguments "`notifications` must name at least one notification")
  else if maxListModeEntries < entries.length then
    .error (.invalidArguments
      s!"`notifications` is limited to {maxListModeEntries} entries but {entries.length} were given, nothing was applied: split the batch into several calls")
  else if !duplicates.isEmpty then
    .error (.invalidArguments
      s!"Each notification must be named once but {names} appears more than once")
  else .ok ()

/-- `bulk_act_selection` for `mode: list`. -/
def bulkActSelection (entries : List NotificationActionEntry) :
    Except ToolCallError (List (NotificationId × NotificationPatch)) := do
  validateListModeEntries entries
  entries.mapM fun entry =>
    (notificationPatchFromAction entry.action entry.snoozedUntil).map fun patch =>
      (entry.notificationId, patch)

/-- One group: the rows it writes, and the notifications `RETURNING` gives back, in no order
Postgres promises. -/
def updateNotificationsByIds (db : Database) (notificationIds : List NotificationId)
    (patch : NotificationPatch) (userId : UserId) : Database × List Notification :=
  if patch.status.isNone && patch.snoozedUntil.isNone then (db, [])
  else
    let selects := fun row => (NotificationUpdateSelector.ids notificationIds).selects userId row
    let db' := updateNotifications db selects (patchRow patch) (assignable_patchRow db patch)
    (db', (db'.notifications.rows.filter selects).filterMap (joinedNotification db'))

/-- `jobs` is what the pushes have left in the queue. -/
structure BulkPatched where
  db : Database
  notifications : List Notification
  jobs : List ProcessNotificationSideEffects

/-- The copies of the jobs that reach the queue; `push` is what the attempts to push a job come
to. -/
def enqueued (push : ProcessNotificationSideEffects → List PushAttempt)
    (jobs : List ProcessNotificationSideEffects) : List ProcessNotificationSideEffects :=
  jobs.flatMap fun job => List.replicate (retrySpawn (push job)).1 job

/-- A push that fails in spite of its retries ends the call and its transaction. What has reached
the queue by then is followed in `BulkPatch`. -/
def patchGroups (push : ProcessNotificationSideEffects → List PushAttempt) (userId : UserId) :
    List (NotificationPatch × List NotificationId) → BulkPatched →
      Except UniversalInboxError BulkPatched
  | [], patched => .ok patched
  | (patch, notificationIds) :: rest, patched =>
    let (db', updated) := updateNotificationsByIds patched.db notificationIds patch userId
    let jobs := updated.map fun notification =>
      { notificationId := notification.id, patch, userId : ProcessNotificationSideEffects }
    if jobs.all fun job => (retrySpawn (push job)).2 then
      patchGroups push userId rest
        ⟨db', patched.notifications ++ updated, patched.jobs ++ enqueued push jobs⟩
    else .error (.unexpected "Failed to enqueue job to process notification side effects")

def patchNotificationsByIds (push : ProcessNotificationSideEffects → List PushAttempt) (db : Database)
    (patches : List (NotificationId × NotificationPatch)) (userId : UserId) :
    Except UniversalInboxError BulkPatched :=
  patchGroups push userId (groupPatches patches) ⟨db, [], []⟩

section Each
variable (env : Environment) (userId : UserId)

/-- `act_on_notification` in a transaction of its own: an error rolls it back, and an entry that
returns no notification was not updated. -/
def actOnNotification (db : Database) (notificationId : NotificationId)
    (patch : NotificationPatch) : Database × Bool :=
  match patchNotification env db notificationId patch true true userId with
  | .ok (db', status) => (db', status.result.isSome)
  | .error _ => (db, false)

/-- The entries one by one, and those that were accepted. -/
def patchEach : Database → List (NotificationId × NotificationPatch) →
    Database × List NotificationId
  | db, [] => (db, [])
  | db, (id, patch) :: rest =>
    let acted := actOnNotification env userId db id patch
    let others := patchEach acted.1 rest
    (others.1, if acted.2 then id :: others.2 else others.2)

/-- The side effects of a patched notification succeed and write no notification. -/
def SideEffectsApply (db : Database) (patch : NotificationPatch) (notification : Notification) :
    Prop :=
  (applyNotificationSideEffects env db notification patch true userId).toOption.map
    (·.notifications.rows) = some db.notifications.rows

instance (db : Database) (patch : NotificationPatch) (notification : Notification) :
    Decidable (SideEffectsApply env userId db patch notification) :=
  inferInstanceAs (Decidable (_ = _))

/-- The same of every entry, one after the other. -/
def EachApplies : Database → List (NotificationId × NotificationPatch) → Prop
  | _, [] => True
  | db, (id, patch) :: rest =>
    (∀ updated ∈ (updateNotification db id patch userId).toOption, updated.2.updated = true →
      ∀ notification ∈ updated.2.result,
        SideEffectsApply env userId updated.1 patch notification) ∧
    EachApplies (actOnNotification env userId db id patch).1 rest

instance decidableEachApplies : ∀ db patches, Decidable (EachApplies env userId db patches)
  | _, [] => .isTrue trivial
  | db, (id, patch) :: rest =>
    have := decidableEachApplies (actOnNotification env userId db id patch).1 rest
    inferInstanceAs (Decidable ((∀ updated ∈ (updateNotification db id patch userId).toOption,
      updated.2.updated = true → ∀ notification ∈ updated.2.result,
        SideEffectsApply env userId updated.1 patch notification) ∧
      EachApplies env userId (actOnNotification env userId db id patch).1 rest))

end Each

section Selection
variable {entries : List NotificationActionEntry} {patches : List (NotificationId × NotificationPatch)}

theorem seeEntry_nodup {state : List NotificationId × List NotificationId}
    (h : (entries.foldl seeEntry state).2 = []) :
    state.2 = [] ∧ (entries.map (·.notificationId)).Nodup ∧
      ∀ entry ∈ entries, entry.notificationId ∉ state.1 := by
  induction entries generalizing state with
  | nil => exact ⟨h, List.nodup_nil, fun _ he => (List.not_mem_nil he).elim⟩
  | cons entry rest ih =>
    obtain ⟨hduplicates, hnodup, hseen⟩ := ih h
    unfold seeEntry at hduplicates hseen
    by_cases hmem : entry.notificationId ∈ state.1
    · rw [if_pos hmem] at hduplicates
      split at hduplicates
      · next hknown =>
        rw [hduplicates] at hknown
        exact (List.not_mem_nil hknown).elim
      · exact absurd hduplicates (List.append_ne_nil_of_right_ne_nil _ (List.cons_ne_nil _ _))
    · rw [if_neg hmem] at hduplicates hseen
      refine ⟨hduplicates, ?_, ?_⟩
      · rw [List.map_cons, List.nodup_cons]
        refine ⟨fun hrest => ?_, hnodup⟩
        obtain ⟨other, hother, hid⟩ := List.mem_map.mp hrest
        exact hseen other hother (hid ▸ List.mem_cons_self)
      · intro other hother
        rcases List.mem_cons.mp hother with rfl | hrest
        · exact hmem
        · exact fun hold => hseen other hrest (List.mem_cons_of_mem _ hold)

/-- The patch of an action writes something, and never the task. -/
structure ActionPatch (patch : NotificationPatch) : Prop where
  taskId : patch.taskId = none
  writes : (patch.status.isNone && patch.snoozedUntil.isNone) = false

theorem actionPatch_of_action {action : NotificationAction} {snoozedUntil : Option DateTime}
    {patch : NotificationPatch}
    (h : notificationPatchFromAction action snoozedUntil = .ok patch) : ActionPatch patch := by
  unfold notificationPatchFromAction at h
  split at h
  · cases h
    exact ⟨rfl, rfl⟩
  · cases h
    exact ⟨rfl, rfl⟩
  · cases h
    exact ⟨rfl, rfl⟩
  · split at h
    · cases h
      exact ⟨rfl, rfl⟩
    · cases h

/-- What the service is handed: each notification named once, each with the patch of an action. -/
structure Selected (patches : List (NotificationId × NotificationPatch)) : Prop where
  nodup : (patches.map (·.1)).Nodup
  action : ∀ entry ∈ patches, ActionPatch entry.2

theorem selected_mapM
    (h : (entries.mapM fun entry =>
      (notificationPatchFromAction entry.action entry.snoozedUntil).map fun patch =>
        (entry.notificationId, patch)) = .ok patches) :
    patches.map (·.1) = entries.map (·.notificationId) ∧
      ∀ entry ∈ patches, ActionPatch entry.2 := by
  induction entries generalizing patches with
  | nil =>
    cases h
    exact ⟨rfl, fun _ he => (List.not_mem_nil he).elim⟩
  | cons entry rest ih =>
    rw [List.mapM_cons] at h
    obtain ⟨first, hfirst, hthen⟩ := bind_eq_ok.mp h
    obtain ⟨others, hothers, hreturn⟩ := bind_eq_ok.mp hthen
    obtain ⟨patch, hpatch, rfl⟩ := map_eq_ok.mp hfirst
    cases hreturn
    obtain ⟨hids, hactions⟩ := ih hothers
    refine ⟨by rw [List.map_cons, List.map_cons, hids], fun e he => ?_⟩
    rcases List.mem_cons.mp he with rfl | hrest
    · exact actionPatch_of_action hpatch
    · exact hactions e hrest

theorem selected_of_bulkActSelection (h : bulkActSelection entries = .ok patches) :
    Selected patches := by
  obtain ⟨_, hvalid, hmap⟩ := bind_eq_ok.mp h
  obtain ⟨hids, hactions⟩ := selected_mapM hmap
  refine ⟨?_, hactions⟩
  rw [hids]
  unfold validateListModeEntries at hvalid
  simp only at hvalid
  split at hvalid
  · cases hvalid
  · split at hvalid
    · cases hvalid
    · split at hvalid
      · cases hvalid
      · next hduplicates =>
        exact (seeEntry_nodup (by simpa using hduplicates)).2.1

end Selection

section Rows
variable {userId : UserId} {r : NotificationRow} {patch : NotificationPatch}
  {groups : List (NotificationPatch × List NotificationId)}
  {patches : List (NotificationId × NotificationPatch)} {db db' : Database}

/-- What the groups make of a row, one after the other. -/
def groupedRow (userId : UserId) :
    List (NotificationPatch × List NotificationId) → NotificationRow → NotificationRow
  | [], r => r
  | (patch, notificationIds) :: rest, r =>
    groupedRow userId rest
      (if (NotificationUpdateSelector.ids notificationIds).selects userId r then patchRow patch r
        else r)

theorem patchRow_patchRow : patchRow patch (patchRow patch r) = patchRow patch r := by
  unfold patchRow
  cases patch.status <;> cases patch.snoozedUntil <;> rfl

theorem selects_ids_iff {ids : List NotificationId} :
    (NotificationUpdateSelector.ids ids).selects userId r = true ↔ r.userId = userId ∧ r.id ∈ ids := by
  simp [NotificationUpdateSelector.selects]

/-- A row that all its groups agree about is patched once. -/
theorem groupedRow_eq (h : ∀ group ∈ groups, r.id ∈ group.2 → group.1 = patch) :
    groupedRow userId groups r =
      if r.userId = userId ∧ ∃ group ∈ groups, r.id ∈ group.2 then patchRow patch r else r := by
  induction groups generalizing r with
  | nil => simp [groupedRow]
  | cons group rest ih =>
    obtain ⟨groupPatch, ids⟩ := group
    have hrest : ∀ group ∈ rest, r.id ∈ group.2 → group.1 = patch :=
      fun group hgroup => h group (List.mem_cons_of_mem _ hgroup)
    unfold groupedRow
    by_cases hselect : (NotificationUpdateSelector.ids ids).selects userId r = true
    · obtain ⟨huser, hid⟩ := selects_ids_iff.mp hselect
      obtain rfl : groupPatch = patch := h (groupPatch, ids) List.mem_cons_self hid
      rw [if_pos hselect, ih (r := patchRow groupPatch r) hrest, patchRow_patchRow, ite_self,
        if_pos ⟨huser, (groupPatch, ids), List.mem_cons_self, hid⟩]
    · rw [if_neg hselect, ih hrest]
      refine if_congr (and_congr_right fun huser => ?_) rfl rfl
      have hid : r.id ∉ ids := fun hid => hselect (selects_ids_iff.mpr ⟨huser, hid⟩)
      simp [hid]

theorem groupedRow_unselected (h : ¬ (r.userId = userId ∧ ∃ group ∈ groups, r.id ∈ group.2)) :
    groupedRow userId groups r = r := by
  induction groups with
  | nil => rfl
  | cons group rest ih =>
    simp only [List.exists_mem_cons_iff, and_or_left, not_or] at h
    unfold groupedRow
    rw [if_neg fun hselect => h.1 (selects_ids_iff.mp hselect)]
    exact ih h.2

/-- The entries one by one, as groups of one notification. -/
def singleGroups (patches : List (NotificationId × NotificationPatch)) :
    List (NotificationPatch × List NotificationId) :=
  patches.map fun entry => (entry.2, [entry.1])

theorem mem_singleGroups {id : NotificationId} :
    (∃ ids, (patch, ids) ∈ singleGroups patches ∧ id ∈ ids) ↔ (id, patch) ∈ patches := by
  unfold singleGroups
  constructor
  · rintro ⟨ids, hgroup, hid⟩
    obtain ⟨entry, hentry, heq⟩ := List.mem_map.mp hgroup
    cases heq
    rw [List.mem_singleton.mp hid]
    exact hentry
  · intro hentry
    exact ⟨[id], List.mem_map.mpr ⟨_, hentry, rfl⟩, List.mem_singleton_self _⟩

theorem addToGroup_nonempty {id : NotificationId}
    (h : ∀ group ∈ groups, group.2 ≠ []) : ∀ group ∈ addToGroup id patch groups, group.2 ≠ [] := by
  induction groups with
  | nil => simp [addToGroup]
  | cons group rest ih =>
    obtain ⟨groupPatch, ids⟩ := group
    unfold addToGroup
    split
    · simp only [List.forall_mem_cons] at h ⊢
      exact ⟨List.append_ne_nil_of_right_ne_nil _ (List.cons_ne_nil _ _), h.2⟩
    · simp only [List.forall_mem_cons] at h ⊢
      exact ⟨h.1, ih h.2⟩

theorem groupPatches_nonempty : ∀ group ∈ groupPatches patches, group.2 ≠ [] := by
  have hfold : ∀ groups : List (NotificationPatch × List NotificationId),
      (∀ group ∈ groups, group.2 ≠ []) →
        ∀ group ∈ patches.foldl (fun groups entry => addToGroup entry.1 entry.2 groups) groups,
          group.2 ≠ [] := by
    induction patches with
    | nil => exact fun _ h => h
    | cons entry rest ih => exact fun _ h => ih _ (addToGroup_nonempty h)
  exact hfold [] fun _ h => (List.not_mem_nil h).elim

theorem groupPatches_action (h : ∀ entry ∈ patches, ActionPatch entry.2)
    {group : NotificationPatch × List NotificationId} (hgroup : group ∈ groupPatches patches) :
    ActionPatch group.1 := by
  obtain ⟨id, hid⟩ := List.exists_mem_of_ne_nil _ (groupPatches_nonempty group hgroup)
  exact h (id, group.1) (mem_groupPatches.mp ⟨group.2, hgroup, hid⟩)

theorem mem_map_groupPatches {id : NotificationId} :
    (∃ group ∈ groupPatches patches, id ∈ group.2) ↔ id ∈ patches.map (·.1) := by
  rw [List.mem_map]
  constructor
  · rintro ⟨group, hgroup, hid⟩
    exact ⟨(id, group.1), mem_groupPatches.mp ⟨group.2, hgroup, hid⟩, rfl⟩
  · rintro ⟨entry, hentry, rfl⟩
    obtain ⟨ids, hgroup, hid⟩ := mem_groupPatches.mpr hentry
    exact ⟨(entry.2, ids), hgroup, hid⟩

theorem patch_unique (hnodup : (patches.map (·.1)).Nodup) {id : NotificationId}
    {p p' : NotificationPatch} (h : (id, p) ∈ patches) (h' : (id, p') ∈ patches) : p = p' :=
  congrArg Prod.snd (List.inj_on_of_nodup_map hnodup h h' rfl)

/-- Grouping the entries changes no row: each notification is named once. -/
theorem groupedRow_groupPatches (hnodup : (patches.map (·.1)).Nodup) :
    groupedRow userId (groupPatches patches) r = groupedRow userId (singleGroups patches) r := by
  by_cases hnamed : ∃ patch, (r.id, patch) ∈ patches
  · obtain ⟨patch, hentry⟩ := hnamed
    have hgroups : ∀ group ∈ groupPatches patches, r.id ∈ group.2 → group.1 = patch :=
      fun group hgroup hid =>
        patch_unique hnodup (mem_groupPatches.mp ⟨group.2, hgroup, hid⟩) hentry
    have hsingle : ∀ group ∈ singleGroups patches, r.id ∈ group.2 → group.1 = patch :=
      fun group hgroup hid =>
        patch_unique hnodup (mem_singleGroups.mp ⟨group.2, hgroup, hid⟩) hentry
    obtain ⟨ids, hids, hid⟩ := mem_groupPatches.mpr hentry
    obtain ⟨ids', hids', hid'⟩ := mem_singleGroups.mpr hentry
    rw [groupedRow_eq hgroups, groupedRow_eq hsingle]
    exact if_congr (and_congr_right fun _ => iff_of_true ⟨_, hids, hid⟩ ⟨_, hids', hid'⟩) rfl rfl
  · rw [groupedRow_unselected fun ⟨_, group, hgroup, hid⟩ =>
        hnamed ⟨group.1, mem_groupPatches.mp ⟨group.2, hgroup, hid⟩⟩,
      groupedRow_unselected fun ⟨_, group, hgroup, hid⟩ =>
        hnamed ⟨group.1, mem_singleGroups.mp ⟨group.2, hgroup, hid⟩⟩]

end Rows

section Bulk
variable {userId : UserId} {db db' : Database} {patch : NotificationPatch}
  {push : ProcessNotificationSideEffects → List PushAttempt}

theorem mem_owners {id : NotificationId} :
    (id, userId) ∈ owners db ↔ ∃ row ∈ db.notifications.rows, owns id userId row = true := by
  simp [owners, owns]

theorem joinedNotification_id {row : NotificationRow} {notification : Notification}
    (h : joinedNotification db row = some notification) : notification.id = row.id := by
  obtain ⟨item, -, rfl⟩ := Option.map_eq_some_iff.mp h
  rfl

theorem rows_updateNotifications {p : NotificationRow → Bool}
    {f : NotificationRow → NotificationRow} {h : Assignable db f} :
    (updateNotifications db p f h).notifications.rows =
      db.notifications.rows.map fun r => if p r then f r else r := rfl

/-- A group writes the rows it selects and returns them. -/
theorem updateNotificationsByIds_spec {ids : List NotificationId}
    (hwrites : (patch.status.isNone && patch.snoozedUntil.isNone) = false)
    (h : updateNotificationsByIds db ids patch userId = (db', notifications)) :
    db'.notifications.rows = db.notifications.rows.map (groupedRow userId [(patch, ids)]) ∧
      owners db' = owners db ∧
      ∀ id, id ∈ notifications.map (·.id) ↔ (id, userId) ∈ owners db ∧ id ∈ ids := by
  unfold updateNotificationsByIds at h
  rw [hwrites] at h
  simp only [Bool.false_eq_true, if_false, Prod.mk.injEq] at h
  obtain ⟨rfl, rfl⟩ := h
  refine ⟨rfl, owners_updateNotifications, fun id => ?_⟩
  rw [← owners_updateNotifications (h := assignable_patchRow db patch), List.mem_map]
  constructor
  · rintro ⟨notification, hmem, rfl⟩
    obtain ⟨row, hrow, hjoin⟩ := List.mem_filterMap.mp hmem
    obtain ⟨hrow, hselect⟩ := List.mem_filter.mp hrow
    obtain ⟨huser, hid⟩ := selects_ids_iff.mp hselect
    rw [joinedNotification_id hjoin]
    exact ⟨mem_owners.mpr ⟨row, hrow, by simp [owns, huser]⟩, hid⟩
  · rintro ⟨howned, hid⟩
    obtain ⟨row, hrow, howns⟩ := mem_owners.mp howned
    obtain ⟨hrowId, huser⟩ : row.id = id ∧ row.userId = userId := by simpa [owns] using howns
    obtain ⟨item, -, -, hjoin⟩ := joinedNotification_of_mem hrow
    refine ⟨_, List.mem_filterMap.mpr ⟨row, List.mem_filter.mpr ⟨hrow, ?_⟩, hjoin⟩, hrowId⟩
    exact selects_ids_iff.mpr ⟨huser, hrowId ▸ hid⟩

/-- What the groups leave, and the jobs they push: one for each notification they return. -/
structure GroupsPatched (push : ProcessNotificationSideEffects → List PushAttempt)
    (userId : UserId) (groups : List (NotificationPatch × List NotificationId))
    (before after : BulkPatched) : Prop where
  rows : after.db.notifications.rows = before.db.notifications.rows.map (groupedRow userId groups)
  returned : ∀ id, id ∈ after.notifications.map (·.id) ↔
    id ∈ before.notifications.map (·.id) ∨
      (id, userId) ∈ owners before.db ∧ ∃ group ∈ groups, id ∈ group.2
  pushed : ∃ jobs, after.jobs = before.jobs ++ enqueued push jobs ∧
    after.notifications.map (·.id) =
      before.notifications.map (·.id) ++ jobs.map (·.notificationId) ∧
    ∀ job ∈ jobs, (retrySpawn (push job)).2 = true ∧ job.userId = userId ∧
      ∃ group ∈ groups, job.patch = group.1 ∧ job.notificationId ∈ group.2

theorem enqueued_append {jobs jobs' : List ProcessNotificationSideEffects} :
    enqueued push (jobs ++ jobs') = enqueued push jobs ++ enqueued push jobs' :=
  List.flatMap_append

theorem patchGroups_spec {groups : List (NotificationPatch × List NotificationId)}
    {before after : BulkPatched}
    (hwrites : ∀ group ∈ groups, (group.1.status.isNone && group.1.snoozedUntil.isNone) = false)
    (h : patchGroups push userId groups before = .ok after) :
    GroupsPatched push userId groups before after := by
  induction groups generalizing before with
  | nil =>
    cases h
    refine ⟨(List.map_id _).symm, fun id => by simp, [], ?_, ?_, fun _ h => (List.not_mem_nil h).elim⟩
    · exact (List.append_nil _).symm
    · exact (List.append_nil _).symm
  | cons group rest ih =>
    obtain ⟨patch, ids⟩ := group
    unfold patchGroups at h
    generalize hupdate : updateNotificationsByIds before.db ids patch userId = updated at h
    obtain ⟨db', notifications⟩ := updated
    obtain ⟨hrows, howners, hreturned⟩ :=
      updateNotificationsByIds_spec (hwrites (patch, ids) List.mem_cons_self) hupdate
    simp only at h
    split at h
    · next hpushed =>
      have hrest := ih (fun g hg => hwrites g (List.mem_cons_of_mem _ hg)) h
      refine ⟨?_, fun id => ?_, ?_⟩
      · rw [hrest.rows, hrows, List.map_map]
        rfl
      · rw [hrest.returned, List.map_append, List.mem_append, hreturned, howners]
        simp only [List.exists_mem_cons_iff]
        tauto
      · obtain ⟨jobs, hjobs, hids, hentries⟩ := hrest.pushed
        refine ⟨notifications.map (fun notification => ⟨notification.id, patch, userId⟩) ++ jobs,
          ?_, ?_, fun job hjob => ?_⟩
        · rw [hjobs, enqueued_append, List.append_assoc]
        · rw [hids, List.map_append, List.map_append, List.map_map, List.append_assoc]
          rfl
        · rcases List.mem_append.mp hjob with hnow | hlater
          · have hok := List.all_eq_true.mp hpushed job hnow
            obtain ⟨notification, hmem, rfl⟩ := List.mem_map.mp hnow
            refine ⟨hok, rfl, (patch, ids), List.mem_cons_self, rfl, ?_⟩
            exact ((hreturned _).mp (List.mem_map_of_mem hmem)).2
          · obtain ⟨hok, huser, g, hg, hjob⟩ := hentries job hlater
            exact ⟨hok, huser, g, List.mem_cons_of_mem _ hg, hjob⟩
    · cases h

end Bulk

section Each
variable {env : Environment} {userId : UserId} {db db' : Database} {id : NotificationId}
  {patch : NotificationPatch} {status : UpdateStatus Notification}

theorem updateNotification_owners (h : updateNotification db id patch userId = .ok (db', status)) :
    owners db' = owners db ∧ (status.result.isSome → (id, userId) ∈ owners db) := by
  unfold updateNotification at h
  split at h
  · cases h
  · split at h
    · cases h
      refine ⟨owners_updateNotifications, fun hresult => ?_⟩
      split at hresult
      · next row hfind =>
        obtain ⟨hrow, huser⟩ := Option.filter_eq_some_iff.mp hfind
        obtain ⟨hmem, hid⟩ := Table.find?_eq_some.mp hrow
        exact mem_owners.mpr ⟨row, hmem, by simp [owns, hid, beq_iff_eq.mp huser]⟩
      · cases hresult
    · cases h

/-- An accepted entry names a notification of the user, and no entry changes who owns what. -/
theorem actOnNotification_owners :
    owners (actOnNotification env userId db id patch).1 = owners db ∧
      ((actOnNotification env userId db id patch).2 = true → (id, userId) ∈ owners db) := by
  unfold actOnNotification
  split
  · next db' status hpatch =>
    obtain ⟨db'', hupdate, hcases⟩ := patchNotification_cases hpatch
    obtain ⟨howners, hresult⟩ := updateNotification_owners hupdate
    refine ⟨?_, hresult⟩
    rw [← howners]
    rcases hcases with ⟨-, n, -, hside⟩ | ⟨-, rfl⟩
    · exact owners_applyNotificationSideEffects hside
    · rfl
  · exact ⟨rfl, fun h => (nomatch h)⟩

theorem patchEach_accepted {patches : List (NotificationId × NotificationPatch)}
    (h : id ∈ (patchEach env userId db patches).2) :
    (id, userId) ∈ owners db ∧ id ∈ patches.map (·.1) := by
  induction patches generalizing db with
  | nil => exact (List.not_mem_nil h).elim
  | cons entry rest ih =>
    obtain ⟨entryId, patch⟩ := entry
    obtain ⟨howners, haccepted⟩ :=
      @actOnNotification_owners env userId db entryId patch
    rw [patchEach] at h
    by_cases hok : (actOnNotification env userId db entryId patch).2 = true
    · rw [if_pos hok] at h
      rcases List.mem_cons.mp h with rfl | hrest
      · exact ⟨haccepted hok, List.mem_cons_self⟩
      · obtain ⟨howned, hnamed⟩ := ih hrest
        exact ⟨howners ▸ howned, List.mem_cons_of_mem _ hnamed⟩
    · rw [if_neg hok] at h
      obtain ⟨howned, hnamed⟩ := ih h
      exact ⟨howners ▸ howned, List.mem_cons_of_mem _ hnamed⟩

theorem updateNotificationRow_action (haction : ActionPatch patch) (row : NotificationRow) :
    updateNotificationRow patch row = patchRow patch row := by
  unfold updateNotificationRow
  rw [haction.taskId]
  rfl

theorem owns_eq_selects (row : NotificationRow) :
    owns id userId row = (NotificationUpdateSelector.ids [id]).selects userId row := by
  rw [Bool.eq_iff_iff, selects_ids_iff]
  simp [owns, and_comm]

/-- The patch of an action is written to the row of the user, if there is one. -/
theorem updateNotification_action (haction : ActionPatch patch) :
    ∃ db' status, updateNotification db id patch userId = .ok (db', status) ∧
      db'.notifications.rows = db.notifications.rows.map (groupedRow userId [(patch, [id])]) ∧
      (status.result.isSome ↔ (id, userId) ∈ owners db) ∧
      (status.result = none → status.updated = false) := by
  have hdefault : patch.isDefault = false := by
    unfold NotificationPatch.isDefault
    rw [haction.writes, Bool.false_and]
  have hknown : TaskKnown db patch := by
    intro i hi
    rw [haction.taskId] at hi
    cases hi
  have hrows : (updateNotifications db (owns id userId) (updateNotificationRow patch)
      (assignable_updateNotificationRow hknown)).notifications.rows =
        db.notifications.rows.map (groupedRow userId [(patch, [id])]) := by
    rw [rows_updateNotifications]
    refine List.map_congr_left fun r _ => ?_
    rw [owns_eq_selects, updateNotificationRow_action haction]
    rfl
  unfold updateNotification
  rw [hdefault, dif_pos hknown]
  refine ⟨_, _, rfl, hrows, ?_⟩
  cases hfind : (db.notifications.find? id).filter (·.userId == userId) with
  | some row =>
    obtain ⟨hrow, huser⟩ := Option.filter_eq_some_iff.mp hfind
    obtain ⟨hmem, hid⟩ := Table.find?_eq_some.mp hrow
    have howns : owns id userId row = true := by simp [owns, hid, beq_iff_eq.mp huser]
    have hwritten : updateNotificationRow patch row ∈ (updateNotifications db (owns id userId)
        (updateNotificationRow patch) (assignable_updateNotificationRow hknown)).notifications.rows :=
      List.mem_map.mpr ⟨row, hmem, if_pos howns⟩
    obtain ⟨item, -, -, hjoin⟩ := joinedNotification_of_mem hwritten
    simp only [hjoin]
    exact ⟨iff_of_true rfl (mem_owners.mpr ⟨row, hmem, howns⟩), fun h => (nomatch h)⟩
  | none =>
    refine ⟨iff_of_false (fun h => (nomatch h)) fun howned => ?_, fun _ => rfl⟩
    obtain ⟨row, hmem, howns⟩ := mem_owners.mp howned
    obtain ⟨hid, huser⟩ : row.id = id ∧ row.userId = userId := by simpa [owns] using howns
    have := Option.filter_eq_none_iff.mp hfind row (Table.find?_eq_some.mpr ⟨hmem, hid⟩)
    exact this (beq_iff_eq.mpr huser)

/-- An entry without an owned notification leaves the rows as they are. -/
theorem map_groupedRow_of_not_owned (h : (id, userId) ∉ owners db) :
    db.notifications.rows.map (groupedRow userId [(patch, [id])]) = db.notifications.rows := by
  conv_rhs => rw [← List.map_id db.notifications.rows]
  refine List.map_congr_left fun r hr => ?_
  refine if_neg fun hselect => h (mem_owners.mpr ⟨r, hr, ?_⟩)
  rw [owns_eq_selects]
  exact hselect

/-- An entry whose side effects apply is accepted when it names a notification of the user, and
writes what its group writes. -/
theorem actOnNotification_applies (haction : ActionPatch patch)
    (hside : ∀ updated ∈ (updateNotification db id patch userId).toOption,
      updated.2.updated = true → ∀ notification ∈ updated.2.result,
        SideEffectsApply env userId updated.1 patch notification) :
    (actOnNotification env userId db id patch).1.notifications.rows =
        db.notifications.rows.map (groupedRow userId [(patch, [id])]) ∧
      ((actOnNotification env userId db id patch).2 = true ↔ (id, userId) ∈ owners db) := by
  obtain ⟨db', ⟨updated, result⟩, hupdate, hrows, howned, hnone⟩ :=
    @updateNotification_action userId db id patch haction
  rw [hupdate] at hside
  cases result with
  | some notification =>
    cases updated with
    | true =>
      have happly : (applyNotificationSideEffects env db' notification patch true userId).toOption.map
          (·.notifications.rows) = some db'.notifications.rows := hside _ rfl rfl notification rfl
      cases hresult : applyNotificationSideEffects env db' notification patch true userId with
      | error e =>
        rw [hresult] at happly
        cases happly
      | ok db'' =>
        rw [hresult] at happly
        have hpatch : patchNotification env db id patch true true userId =
            .ok (db'', ⟨true, some notification⟩) := by
          unfold patchNotification
          rw [hupdate]
          show (applyNotificationSideEffects env db' notification patch true userId).map _ = _
          rw [hresult]
          rfl
        unfold actOnNotification
        rw [hpatch]
        exact ⟨(Option.some.inj happly).trans hrows, iff_of_true rfl (howned.mp rfl)⟩
    | false =>
      have hpatch : patchNotification env db id patch true true userId =
          .ok (db', ⟨false, some notification⟩) := by
        unfold patchNotification
        rw [hupdate]
        rfl
      unfold actOnNotification
      rw [hpatch]
      exact ⟨hrows, iff_of_true rfl (howned.mp rfl)⟩
  | none =>
    obtain rfl := hnone rfl
    have hnot : (id, userId) ∉ owners db := fun h => (nomatch howned.mpr h)
    have hpatch : patchNotification env db id patch true true userId =
        if (db'.notifications.find? id).isSome then
          .error (.forbidden s!"Only the owner of the notification {id.uuid} can patch it")
        else .ok (db', ⟨false, none⟩) := by
      unfold patchNotification
      rw [hupdate]
      rfl
    unfold actOnNotification
    rw [hpatch]
    split
    · next heq =>
      split at heq
      · cases heq
      · cases heq
        exact ⟨hrows, iff_of_false (fun h => (nomatch h)) hnot⟩
    · exact ⟨(map_groupedRow_of_not_owned hnot).symm, iff_of_false (fun h => (nomatch h)) hnot⟩

/-- Entries whose side effects apply write what they write one by one as groups. -/
theorem patchEach_applies {patches : List (NotificationId × NotificationPatch)}
    (haction : ∀ entry ∈ patches, ActionPatch entry.2) (hside : EachApplies env userId db patches) :
    (patchEach env userId db patches).1.notifications.rows =
        db.notifications.rows.map (groupedRow userId (singleGroups patches)) ∧
      ∀ id, id ∈ (patchEach env userId db patches).2 ↔
        (id, userId) ∈ owners db ∧ id ∈ patches.map (·.1) := by
  induction patches generalizing db with
  | nil => exact ⟨(List.map_id _).symm, fun id => by simp [patchEach]⟩
  | cons entry rest ih =>
    obtain ⟨entryId, patch⟩ := entry
    obtain ⟨hentry, hrest⟩ := hside
    obtain ⟨hrows, haccepted⟩ :=
      actOnNotification_applies (haction (entryId, patch) List.mem_cons_self) hentry
    obtain ⟨hothers, hiff⟩ := ih (fun e he => haction e (List.mem_cons_of_mem _ he)) hrest
    have howners := (@actOnNotification_owners env userId db entryId patch).1
    rw [patchEach]
    refine ⟨?_, fun id => ?_⟩
    · simp only
      rw [hothers, hrows, List.map_map]
      rfl
    · simp only
      by_cases hok : (actOnNotification env userId db entryId patch).2 = true
      · rw [if_pos hok, List.mem_cons, hiff, howners, List.map_cons, List.mem_cons]
        have := haccepted.mp hok
        grind
      · rw [if_neg hok, hiff, howners, List.map_cons, List.mem_cons]
        have := fun h => hok (haccepted.mpr h)
        grind

end Each

/-- One job is pushed for each notification that is returned, with the patch of its entry. Every
push succeeds: it leaves a copy of its job in the queue, and no more than one as long as none of its
replies is lost. -/
structure JobsPushed (push : ProcessNotificationSideEffects → List PushAttempt)
    (patches : List (NotificationId × NotificationPatch)) (userId : UserId) (bulk : BulkPatched)
    (jobs : List ProcessNotificationSideEffects) : Prop where
  notifications : jobs.map (·.notificationId) = bulk.notifications.map (·.id)
  entries : ∀ job ∈ jobs, job.userId = userId ∧ (job.notificationId, job.patch) ∈ patches
  queue : bulk.jobs = enqueued push jobs
  copies : ∀ job ∈ jobs, 1 ≤ (retrySpawn (push job)).1 ∧
    (PushAttempt.unacknowledged ∉ push job → (retrySpawn (push job)).1 = 1)

/-- What a bulk call leaves, against the calls entry by entry. -/
structure Agreement (env : Environment)
    (push : ProcessNotificationSideEffects → List PushAttempt) (db : Database)
    (patches : List (NotificationId × NotificationPatch)) (userId : UserId) (bulk : BulkPatched) :
    Prop where
  others : ∀ row ∈ db.notifications.rows, row.userId ≠ userId ∨ row.id ∉ patches.map (·.1) →
    bulk.db.notifications.find? row.id = some row
  accepted : ∀ id ∈ (patchEach env userId db patches).2, id ∈ bulk.notifications.map (·.id)
  pushed : ∃ jobs, JobsPushed push patches userId bulk jobs
  same : EachApplies env userId db patches →
    bulk.db.notifications.rows = (patchEach env userId db patches).1.notifications.rows ∧
      ∀ id, id ∈ bulk.notifications.map (·.id) ↔ id ∈ (patchEach env userId db patches).2

/-- A bulk call that can queue its jobs touches the named notifications of the user alone, accepts
what the calls entry by entry accept and pushes one job for each notification it returns. Where
the side effects of the entries apply, both ways leave the same rows and accept the same entries. -/
theorem patchNotificationsByIds_agrees (env : Environment)
    (push : ProcessNotificationSideEffects → List PushAttempt) (db : Database)
    (entries : List NotificationActionEntry) (patches : List (NotificationId × NotificationPatch))
    (userId : UserId) (bulk : BulkPatched) (hselect : bulkActSelection entries = .ok patches)
    (hbulk : patchNotificationsByIds push db patches userId = .ok bulk) :
    Agreement env push db patches userId bulk := by
  obtain ⟨hnodup, haction⟩ := selected_of_bulkActSelection hselect
  have hspec := patchGroups_spec (fun group hgroup => (groupPatches_action haction hgroup).writes) hbulk
  have hentry : ∀ {id patch}, (∃ group ∈ groupPatches patches, patch = group.1 ∧ id ∈ group.2) →
      (id, patch) ∈ patches := by
    rintro id _ ⟨group, hgroup, rfl, hid⟩
    exact mem_groupPatches.mp ⟨group.2, hgroup, hid⟩
  have hreturned : ∀ id, id ∈ bulk.notifications.map (·.id) ↔
      (id, userId) ∈ owners db ∧ id ∈ patches.map (·.1) := by
    intro id
    rw [hspec.returned, List.map_nil, List.mem_nil_iff, false_or, mem_map_groupPatches]
  refine ⟨fun row hrow hother => ?_, fun id hid => ?_, ?_, fun hside => ?_⟩
  · refine Table.find?_eq_some.mpr ⟨?_, rfl⟩
    rw [hspec.rows]
    refine List.mem_map.mpr ⟨row, hrow, ?_⟩
    have hnot : ¬ (row.userId = userId ∧ ∃ group ∈ groupPatches patches, row.id ∈ group.2) := by
      rintro ⟨huser, hnamed⟩
      exact hother.elim (fun h => h huser) fun h => h (mem_map_groupPatches.mp hnamed)
    exact groupedRow_unselected hnot
  · exact (hreturned id).mpr (patchEach_accepted hid)
  · obtain ⟨jobs, hqueue, hids, hjobs⟩ := hspec.pushed
    refine ⟨jobs, ⟨hids.symm, fun job hjob => ?_, hqueue, fun job hjob => ?_⟩⟩
    · obtain ⟨-, huser, hgroup⟩ := hjobs job hjob
      exact ⟨huser, hentry hgroup⟩
    · exact retrySpawn_copies (hjobs job hjob).1
  · obtain ⟨hrows, haccepted⟩ := patchEach_applies haction hside
    refine ⟨?_, fun id => (hreturned id).trans (haccepted id).symm⟩
    rw [hspec.rows, hrows]
    exact List.map_congr_left fun r _ => groupedRow_groupPatches hnodup

def githubItemRow (id : Nat) : ThirdPartyItemRow :=
  { id := ⟨id⟩, sourceId := toString id, data := .githubNotification "", createdAt := 0,
    updatedAt := 0, userId := ⟨1⟩, integrationConnectionId := ⟨1⟩, sourceItemId := none }

/-- Two unread notifications of one user. -/
def githubDatabase : Database where
  thirdPartyItems := ⟨[githubItemRow 1, githubItemRow 2], by decide⟩
  tasks := Table.empty
  notifications := ⟨[BulkPatch.unreadNotification 1, BulkPatch.unreadNotification 2], by decide⟩
  item_constraints := by decide
  task_source := fun _ h => (Table.not_mem_empty h).elim
  task_sink := fun _ h => (Table.not_mem_empty h).elim
  task_parent := Database.empty.task_parent
  task_source_unique := Database.empty.task_source_unique
  task_sink_unique := Database.empty.task_sink_unique
  notification_source := by decide
  notification_task := by decide
  notification_updatedAt := by decide

/-- GitHub answers every call with `answer`; there is no task to call a task manager for. -/
def githubAnswering (answer : Except UniversalInboxError Unit) : Environment where
  isTesting := false
  now := 0
  htmlUrl _ := ""
  markThreadAsRead := id
  unsubscribeThread := id
  answers _ :=
    { source := answer
      nestedSource := answer
      taskSource := fun _ => ⟨⟨true, ⟨true, [], false⟩, .ok (), ⟨true, [], false⟩⟩,
        ⟨true, .ok, .ok (), .ok⟩, .ok, ⟨true, .ok, none⟩⟩
      taskSink := fun _ => ⟨⟨true, ⟨true, [], false⟩, .ok (), ⟨true, [], false⟩⟩,
        ⟨true, .ok, .ok (), .ok⟩, .ok, ⟨true, .ok, none⟩⟩ }

def readAndDelete : List NotificationActionEntry :=
  [⟨⟨1⟩, .markRead, none⟩, ⟨⟨2⟩, .delete, none⟩]

def readAndDeletePatches : List (NotificationId × NotificationPatch) :=
  [(⟨1⟩, BulkPatch.markAsRead), (⟨2⟩, deletedPatch)]

/-- Redis takes every job, and the reply to the first push of each is lost. -/
def lostReplies (_ : ProcessNotificationSideEffects) : List PushAttempt :=
  .unacknowledged :: List.replicate 10 .acknowledged

/-- GitHub accepts the deletion: both ways agree, and each job is in the queue twice. -/
theorem githubUp_agrees : ∃ bulk,
    patchNotificationsByIds lostReplies githubDatabase readAndDeletePatches ⟨1⟩ = .ok bulk ∧
      bulk.jobs.map (·.notificationId) = [⟨1⟩, ⟨1⟩, ⟨2⟩, ⟨2⟩] ∧
      EachApplies (githubAnswering (.ok ())) ⟨1⟩ githubDatabase readAndDeletePatches ∧
      Agreement (githubAnswering (.ok ())) lostReplies githubDatabase readAndDeletePatches ⟨1⟩
        bulk :=
  ⟨_, rfl, by decide, by decide, patchNotificationsByIds_agrees (githubAnswering (.ok ()))
    lostReplies githubDatabase readAndDelete readAndDeletePatches ⟨1⟩ _ rfl rfl⟩

/-- GitHub refuses the deletion: on its own the entry is refused and its row stays, in bulk it is
accepted and its row is deleted. -/
theorem githubDown_disagrees : bulkActSelection readAndDelete = .ok readAndDeletePatches ∧
    ∃ bulk, patchNotificationsByIds (fun _ => [.acknowledged]) githubDatabase
        readAndDeletePatches ⟨1⟩ = .ok bulk ∧
      bulk.db.notifications.rows ≠
        (patchEach (githubAnswering (.error (.unexpected "Failed to mark Github notification 2 as done")))
          ⟨1⟩ githubDatabase readAndDeletePatches).1.notifications.rows ∧
      (⟨2⟩ : NotificationId) ∈ bulk.notifications.map (·.id) ∧
      (⟨2⟩ : NotificationId) ∉
        (patchEach (githubAnswering (.error (.unexpected "Failed to mark Github notification 2 as done")))
          ⟨1⟩ githubDatabase readAndDeletePatches).2 :=
  ⟨rfl, _, rfl, by decide, by decide, by decide⟩

end UniversalInbox.PatchAgreement
