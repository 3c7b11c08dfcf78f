import UniversalInbox.LinearAutoDelete
import UniversalInbox.NotificationResync

/-! The two halves of the automatic deletion agree, unless each check runs before the other sync
has committed what it looks for. -/
namespace UniversalInbox.LinearAutoDelete
open NotificationConversion NotificationUpsert ReadCommitted Transition
open StalePass (Row RowId RowKey isReadOrUnread items mem_items mem_notifications mem_tasks
  notifications tasks)

namespace Progress

def party : Progress → Party
  | .tasks _ => .tasks
  | .notifications _ => .notifications

end Progress

/-- The notification that the sync has read or written. -/
def NotificationProgress.known? : NotificationProgress → Option NotificationId
  | .storingItem | .selecting _ => none
  | .writing _ existing => existing.map (·.id)
  | .findingItems id | .gettingTasks id _ | .deleting id | .finished id => some id

/-- Whichever step is next: the transactions write different rows, each runs its own statements, and
the notification sync sees the notification it has read or written. -/
structure Base (s : State) : Prop where
  separate : s.Separate Row.id
  unique : s.Distinct taskKey
  party : ∀ x ∈ s.sessions.rows, x.memory.party = x.id
  known : ∀ x ∈ s.sessions.rows, ∀ progress ∈ x.memory.notifications?, ∀ id ∈ progress.known?,
    .notification id ∈ (s.visible x).map Row.id

section Statements
variable {syncs : Syncs} {rows : List Row} {w : Write Row} {id : NotificationId}

theorem taskStatement_deleting : syncs.taskStatement rows .deletingNotifications =
    if syncs.config.isAutoDeleteNotificationsOnTaskSyncEnabled then
      (some (deleteNotifications (syncs.inbox rows)), .finished)
    else (none, .finished) := rfl

theorem notificationStatement_writing {request : UpsertRequest} {existing : Option Notification} :
    syncs.notificationStatement rows (.writing request existing) =
      ((createOrUpdateNotification existing request).1.map writeNotification,
        if syncs.config.isAutoDeleteNotificationsOnTaskSyncEnabled then
          .findingItems (createOrUpdateNotification existing request).2.value.id
        else .finished (createOrUpdateNotification existing request).2.value.id) := rfl

theorem notificationStatement_findingItems : syncs.notificationStatement rows (.findingItems id) =
    (none, .gettingTasks id
      ((findThirdPartyItemsForSourceId rows syncs.linearIssueId syncs.userId).map (·.id))) := by
  rw [Syncs.notificationStatement, syncs.same_issue]
  rfl

theorem notificationStatement_gettingTasks {item : ThirdPartyItemId}
    {rest : List ThirdPartyItemId} :
    syncs.notificationStatement rows (.gettingTasks id (item :: rest)) =
      if (getTaskForSourceItemId rows item syncs.userId).any (·.status != .deleted) then
        (none, .deleting id)
      else (none, .gettingTasks id rest) := rfl

theorem seen_inbox (h : id ∈ syncs.inbox rows) : .notification id ∈ rows.map Row.id := by
  obtain ⟨row, hrow, rfl, -⟩ := mem_inbox.mp h
  exact List.mem_map_of_mem (f := Row.id) hrow

theorem taskStatement_sound {progress : TaskProgress}
    (h : (syncs.taskStatement rows progress).1 = some w) : Sound rows w := by
  cases progress with
  | storingItem => exact (itemWrite h).sound
  | storingTask item => exact (taskWrite h).sound
  | deletingNotifications =>
    rw [taskStatement_deleting] at h
    split at h
    · cases h
      exact (notificationWrite_delete fun id hid => seen_inbox hid).sound
    · cases h
  | finished => cases h

theorem notificationStatement_sound {progress : NotificationProgress}
    (hknown : ∀ id ∈ progress.known?, .notification id ∈ rows.map Row.id)
    (h : (syncs.notificationStatement rows progress).1 = some w) : Sound rows w := by
  cases progress with
  | storingItem => exact (itemWrite h).sound
  | selecting item => cases h
  | writing request existing =>
    obtain ⟨write, hwrite, rfl⟩ := Option.map_eq_some_iff.mp h
    exact (notificationWrite_upsert hwrite fun n hn =>
      hknown n.id (Option.mem_map_of_mem _ hn)).sound
  | findingItems id =>
    rw [notificationStatement_findingItems] at h
    cases h
  | gettingTasks id items =>
    cases items with
    | nil => cases h
    | cons item rest =>
      rw [notificationStatement_gettingTasks] at h
      split at h <;> cases h
  | deleting id =>
    cases h
    refine (notificationWrite_delete fun id' hid => ?_).sound
    rw [List.mem_singleton.mp hid]
    exact hknown id rfl
  | finished id => cases h

/-- The notification that an upsert returns is stored. -/
theorem seen_upsert {request : UpsertRequest} {existing : Option Notification}
    (hexisting : ∀ n ∈ existing, .notification n.id ∈ rows.map Row.id) :
    .notification (createOrUpdateNotification existing request).2.value.id ∈
      (((createOrUpdateNotification existing request).1.map writeNotification).toList.foldl
        Write.apply rows).map Row.id := by
  cases existing with
  | none => exact List.mem_map_of_mem (f := Row.id) (List.mem_append_right _ (List.mem_singleton_self _))
  | some n =>
    cases hwrite : (createOrUpdateNotification (some n) request).1 with
    | none =>
      have hvalue : (createOrUpdateNotification (some n) request).2.value.id = n.id := by
        unfold createOrUpdateNotification
        simp only
        split <;> rfl
      rw [hvalue]
      exact hexisting n rfl
    | some write =>
      have hsound := notificationWrite_upsert hwrite hexisting
      have hvalue : (createOrUpdateNotification (some n) request).2.value.id = n.id := by
        unfold createOrUpdateNotification
        simp only
        split <;> rfl
      rw [hvalue]
      exact mem_keys_of_sound hsound.sound (hexisting n rfl)

/-- What the notification sync has read or written, it goes on seeing. -/
theorem known_statement {progress : NotificationProgress}
    (hknown : ∀ id ∈ progress.known?, .notification id ∈ rows.map Row.id) :
    ∀ id ∈ (syncs.notificationStatement rows progress).2.known?, .notification id ∈
      ((syncs.notificationStatement rows progress).1.toList.foldl Write.apply rows).map Row.id := by
  cases progress with
  | storingItem => exact fun id hid => (nomatch hid)
  | selecting item =>
    intro id hid
    obtain ⟨n, hn, rfl⟩ := Option.map_eq_some_iff.mp hid
    obtain ⟨row, hrow, rfl⟩ := Option.map_eq_some_iff.mp hn
    exact List.mem_map_of_mem (f := Row.id)
      (mem_notifications.mp (List.mem_of_find?_eq_some hrow))
  | writing request existing =>
    intro id hid
    have hvalue : id = (createOrUpdateNotification existing request).2.value.id := by
      rw [notificationStatement_writing] at hid
      split at hid <;> exact (Option.some.inj hid).symm
    rw [hvalue]
    exact seen_upsert fun n hn => hknown n.id (Option.mem_map_of_mem _ hn)
  | findingItems id =>
    rw [notificationStatement_findingItems]
    exact hknown
  | gettingTasks id items =>
    cases items with
    | nil => exact hknown
    | cons item rest =>
      rw [notificationStatement_gettingTasks]
      split <;> exact hknown
  | deleting id =>
    intro id' hid
    have hwrite : (syncs.notificationStatement rows (.deleting id)).1 =
        some (deleteNotifications [id]) := rfl
    exact mem_keys_of_sound (notificationStatement_sound hknown hwrite) (hknown id' hid)
  | finished id => exact hknown

end Statements

section Step
variable {syncs : Syncs} {s t : State} {party : Party} {x y : Session}

/-- A step is the next statement of a transaction, or its commit. -/
theorem step_cases (h : step syncs s party = some t) :
    ∃ x ∈ s.sessions.rows, x.id = party ∧
      (syncs.statement (s.visible x) x.memory = none ∧ t = s.commit x ∨
        ∃ write memory, syncs.statement (s.visible x) x.memory = some (write, memory) ∧
          (∀ w ∈ write, executable s x.id w = true) ∧ t = s.run x.id write memory) := by
  obtain ⟨x, hx, hid, hstep⟩ := Table.find?_bind_eq_some.mp h
  refine ⟨x, hx, hid, ?_⟩
  split at hstep
  · next hnone => exact .inl ⟨hnone, (Option.some.inj hstep).symm⟩
  · next write memory hsome =>
    split at hstep
    · next hexecutable =>
      refine .inr ⟨write, memory, hsome, fun w hw => ?_, (Option.some.inj hstep).symm⟩
      rw [Option.mem_def.mp hw] at hexecutable
      exact hexecutable
    · cases hstep

theorem executable_separate {w : Write Row} (h : executable s party w = true) :
    s.Executable Row.id party w := by
  cases w with
  | insert row =>
    simp only [executable, Bool.and_eq_true, Bool.not_eq_true', List.contains_eq_mem,
      decide_eq_false_iff_not] at h
    exact h.1
  | update p f => simpa [executable, Store.Executable] using h

/-- An inserted row repeats the key of no other. -/
theorem taskKey_fresh {row : Row} (h : executable s party (.insert row) = true) :
    taskKey row ∉ s.claimedKeys taskKey := by
  simp only [executable, Bool.and_eq_true, Bool.not_eq_true', List.contains_eq_mem,
    decide_eq_false_iff_not] at h
  obtain ⟨hid, hkey⟩ := h
  intro hclaimed
  obtain ⟨r, hr, hsame⟩ := Store.mem_claimedKeys.mp hclaimed
  have hid' : r.id ≠ row.id := fun heq => hid (Store.mem_claimedKeys.mpr ⟨r, hr, heq⟩)
  have hkey' : r.key ≠ row.key := fun heq => hkey (Store.mem_claimedKeys.mpr ⟨r, hr, heq⟩)
  cases r <;> cases row <;> simp_all [taskKey, Row.id, Row.key]

/-- The statements of a sync. -/
theorem statement_cases {rows : List Row} {memory memory' : Progress} {write : Option (Write Row)}
    (h : syncs.statement rows memory = some (write, memory')) :
    (∃ progress, memory = .tasks progress ∧ write = (syncs.taskStatement rows progress).1 ∧
      memory' = .tasks (syncs.taskStatement rows progress).2) ∨
    ∃ progress, memory = .notifications progress ∧
      write = (syncs.notificationStatement rows progress).1 ∧
      memory' = .notifications (syncs.notificationStatement rows progress).2 := by
  unfold Syncs.statement at h
  split at h
  · cases h
  · cases h
  · next progress _ =>
    cases h
    exact .inl ⟨progress, rfl, rfl, rfl⟩
  · next progress _ =>
    cases h
    exact .inr ⟨progress, rfl, rfl, rfl⟩

theorem Base.run (h : Base s) (hx : x ∈ s.sessions.rows) {write : Option (Write Row)}
    {memory : Progress} (hstatement : syncs.statement (s.visible x) x.memory = some (write, memory))
    (hexecutable : ∀ w ∈ write, executable s x.id w = true) : Base (s.run x.id write memory) := by
  have hsound : ∀ w ∈ write, Sound (s.visible x) w := by
    intro w hw
    rcases statement_cases hstatement with ⟨progress, hmemory, rfl, -⟩ | ⟨progress, hmemory, rfl, -⟩
    · exact taskStatement_sound hw
    · exact notificationStatement_sound (h.known x hx progress (by rw [hmemory]; rfl)) hw
  constructor
  · exact h.separate.run hx (fun w hw => (hsound w hw).byKey)
      (fun w hw => executable_separate (hexecutable w hw)) fun w hw => (hsound w hw).seen
  · refine h.unique.run hx (fun w hw => (hsound w hw).keeps) fun w hw k hk => ?_
    cases w with
    | insert row =>
      cases hk
      exact taskKey_fresh (hexecutable _ hw)
    | update p f => cases hk
  · intro y hy
    rcases (Store.mem_run hx).mp hy with rfl | ⟨hold, -⟩
    · have hparty := h.party x hx
      rcases statement_cases hstatement with ⟨progress, hmemory, -, rfl⟩ | ⟨progress, hmemory, -, rfl⟩
      · rw [hmemory] at hparty
        exact hparty
      · rw [hmemory] at hparty
        exact hparty
    · exact h.party y hold
  · intro y hy progress hprogress
    rcases (Store.mem_run hx).mp hy with rfl | ⟨hold, -⟩
    · rw [Store.visible_run]
      rcases statement_cases hstatement with ⟨before, hmemory, rfl, rfl⟩ | ⟨before, hmemory, rfl, rfl⟩
      · cases hprogress
      · cases hprogress
        exact known_statement (h.known x hx before (by rw [hmemory]; rfl))
    · exact h.known y hold progress hprogress

theorem Base.commit (h : Base s) (hx : x ∈ s.sessions.rows) : Base (s.commit x) := by
  have hmem : ∀ y ∈ (s.commit x).sessions.rows, y ∈ s.sessions.rows :=
    fun y hy => (Table.mem_erase.mp hy).1
  refine ⟨h.separate.commit hx, h.unique.commit hx, fun y hy => h.party y (hmem y hy), ?_⟩
  intro y hy progress hprogress id hid
  have hkeeps : ∀ w ∈ y.writes, w.Keeps Row.id :=
    fun w hw => (h.separate.byKey y (hmem y hy) w hw).keeps
  refine (mem_keys_foldl hkeeps).mpr ?_
  refine ((mem_keys_foldl hkeeps).mp (h.known y (hmem y hy) progress hprogress id hid)).imp_left ?_
  exact fun hcommitted => (h.separate.mem_keys_visible hx).mpr (.inl hcommitted)

end Step

theorem finds_congr {syncs : Syncs} {rows rows' : List Row} {progress : NotificationProgress}
    (h : ∀ item, syncs.isLive rows item = syncs.isLive rows' item) :
    progress.finds syncs rows = progress.finds syncs rows' := by
  cases progress with
  | gettingTasks id items => exact congrArg items.any (funext h)
  | _ => rfl

section Base
variable {s : State} {x : Session}

theorem Base.id_tasks (h : Base s) (hx : x ∈ s.sessions.rows) {progress : TaskProgress}
    (hp : progress ∈ x.memory.tasks?) : x.id = .tasks := by
  rw [← h.party x hx]
  cases hmemory : x.memory with
  | tasks p => rfl
  | notifications p => rw [hmemory] at hp; cases hp

theorem Base.id_notifications (h : Base s) (hx : x ∈ s.sessions.rows)
    {progress : NotificationProgress} (hp : progress ∈ x.memory.notifications?) :
    x.id = .notifications := by
  rw [← h.party x hx]
  cases hmemory : x.memory with
  | tasks p => rw [hmemory] at hp; cases hp
  | notifications p => rfl

theorem Base.nodup_visible (h : Base s) (hx : x ∈ s.sessions.rows) :
    ((s.visible x).map Row.id).Nodup := (h.separate.distinct.commit hx).committed

end Base

/-- The task sync has deleted the notifications of the issue, committed or not. -/
def TasksDeleted (s : State) : Prop :=
  ∀ x ∈ s.sessions.rows, ∀ progress ∈ x.memory.tasks?, progress = .finished

/-- What the two syncs know of each other. Before its delete, the task sync sees each notification
of the issue but that which the other sync stores; after it, none is left but that, while the other
sync is to find the task. -/
structure Agree (syncs : Syncs) (s : State) : Prop where
  base : Base s
  fresh : ∀ x ∈ s.sessions.rows, x.memory = .notifications .storingItem →
    x.writes = [] ∧ SourcesStored s.merged ∧
      ∀ y ∈ s.sessions.rows, y.id ≠ x.id → ∀ w ∈ y.writes, ∀ item,
        .thirdPartyItem item ∈ s.committed → item.data.kind = .linearNotification →
          .thirdPartyItem item.id ∉ w.touched Row.id
  before : ∀ x ∈ s.sessions.rows, ∀ progress ∈ x.memory.tasks?, progress ≠ .finished →
    ∀ id ∈ syncs.inbox s.merged, id ∈ syncs.inbox (s.visible x) ∨
      ∃ y ∈ s.sessions.rows, ∃ other ∈ y.memory.notifications?, id ∈ other.stored?
  after : TasksDeleted s → syncs.hasTask s.merged = true → ∀ id ∈ syncs.inbox s.merged,
    ∃ y ∈ s.sessions.rows, ∃ other ∈ y.memory.notifications?, id ∈ other.stored? ∧
      other.finds syncs s.merged = true

section TaskSync
variable {syncs : Syncs} {s : State} {x : Session} {write : Option (Write Row)}
  {progress progress' : TaskProgress}

/-- A statement of the task sync that writes no item the other sync may write. -/
theorem Agree.fresh_run (h : Agree syncs s) (hx : x ∈ s.sessions.rows)
    (hexecutable : ∀ w ∈ write, executable s x.id w = true)
    (hmerged : (s.run x.id write (.tasks progress')).merged.Perm
      (write.toList.foldl Write.apply s.merged))
    (hsources : SourcesStored s.merged →
      SourcesStored (write.toList.foldl Write.apply s.merged))
    (huntouched : ∀ p f, write = some (.update p f) → ∀ item, .thirdPartyItem item ∈ s.visible x →
      item.data.kind = .linearNotification →
        .thirdPartyItem item.id ∉ (Write.update p f).touched Row.id) :
    ∀ y ∈ (s.run x.id write (.tasks progress')).sessions.rows,
      y.memory = .notifications .storingItem →
      y.writes = [] ∧ SourcesStored (s.run x.id write (.tasks progress')).merged ∧
        ∀ z ∈ (s.run x.id write (.tasks progress')).sessions.rows, z.id ≠ y.id →
          ∀ w ∈ z.writes, ∀ item, .thirdPartyItem item ∈ s.committed →
            item.data.kind = .linearNotification → .thirdPartyItem item.id ∉ w.touched Row.id := by
  intro y hy hstoring
  rcases (Store.mem_run hx).mp hy with rfl | ⟨hold, hother⟩
  · cases hstoring
  obtain ⟨hwrites, hstored, hothers⟩ := h.fresh y hold hstoring
  have hperm : ∀ r, r ∈ (s.run x.id write (.tasks progress')).merged ↔
      r ∈ write.toList.foldl Write.apply s.merged := fun r => hmerged.mem_iff
  refine ⟨hwrites, fun row hrow => ?_, fun z hz hzy w hw item hitem hkind htouched => ?_⟩
  · obtain ⟨r, hr, hid⟩ := List.mem_map.mp (hsources hstored row ((hperm _).mp hrow))
    exact List.mem_map.mpr ⟨r, (hperm r).mpr hr, hid⟩
  · rcases (Store.mem_run hx).mp hz with rfl | ⟨hzold, -⟩
    · rcases List.mem_append.mp hw with hw | hw
      · exact hothers x hx (Ne.symm hother) w hw item hitem hkind htouched
      · have hid : ∀ w ∈ x.writes, (Row.thirdPartyItem item).id ∉ w.touched Row.id :=
          fun w hw => hothers x hx (Ne.symm hother) w hw item hitem hkind
        have hvisible : .thirdPartyItem item ∈ s.visible x :=
          (Write.mem_foldl (h.base.separate.byKey x hx) hid).mpr hitem
        have hwrite := Option.mem_toList.mp hw
        cases w with
        | insert r =>
          -- The identifier of an inserted row is new.
          refine executable_separate (hexecutable _ hwrite) ?_
          rw [show r.id = .thirdPartyItem item.id from htouched.symm]
          exact List.mem_append_left _ (List.mem_map_of_mem (f := Row.id) hitem)
        | update p f => exact huntouched p f hwrite item hvisible hkind htouched
    · exact hothers z hzold hzy w hw item hitem hkind htouched

/-- A statement of the task sync that changes nothing of the notifications. -/
structure Quiet (syncs : Syncs) (rows : List Row) (write : Option (Write Row)) : Prop where
  inbox : ∀ rows', ∀ id ∈ syncs.inbox (write.toList.foldl Write.apply rows'),
    id ∈ syncs.inbox rows'
  keeps : ∀ id ∈ syncs.inbox rows, id ∈ syncs.inbox (write.toList.foldl Write.apply rows)
  sources : ∀ rows', SourcesStored rows' → SourcesStored (write.toList.foldl Write.apply rows')
  untouched : ∀ p f, write = some (.update p f) → ∀ item, .thirdPartyItem item ∈ rows →
    item.data.kind = .linearNotification →
      .thirdPartyItem item.id ∉ (Write.update p f).touched Row.id

theorem quiet_none {rows : List Row} : Quiet syncs rows none :=
  ⟨fun _ _ hid => hid, fun _ hid => hid, fun _ h => h, fun _ _ h => (nomatch h)⟩

theorem quiet_storingItem {rows : List Row} (hnodup : (rows.map Row.id).Nodup) :
    Quiet syncs rows (syncs.taskStatement rows .storingItem).1 := by
  cases hwrite : (syncs.taskStatement rows .storingItem).1 with
  | none => exact quiet_none
  | some w =>
    have hw : ItemWrite rows syncs.issue w := itemWrite hwrite
    refine ⟨fun rows' id hid => hw.inbox_issue hid, fun id hid => ?_, fun rows' hrows row hrow => ?_,
      fun p f hupdate item hitem hkind => ?_⟩
    · refine mem_inbox_of hid (fun row hrow _ _ => hw.notification_iff.mpr hrow)
        fun item _ hitem _ _ hissue => ⟨item, ?_, rfl, hissue⟩
      exact (hw.untouched_issue hnodup hitem (kind_of_issueOf hissue)).1
    · exact mem_keys_of_sound hw.sound (hrows row (hw.notification_iff.mp hrow))
    · cases hupdate
      exact (hw.untouched_issue hnodup hitem hkind).2 p f rfl

theorem quiet_storingTask {rows : List Row} (item : ThirdPartyItem) :
    Quiet syncs rows (syncs.taskStatement rows (.storingTask item)).1 := by
  cases hwrite : (syncs.taskStatement rows (.storingTask item)).1 with
  | none => exact quiet_none
  | some w =>
    have hw : TaskWrite rows w := taskWrite hwrite
    refine ⟨fun rows' id hid => hw.inbox_iff.mp hid, fun id hid => hw.inbox_iff.mpr hid,
      fun rows' hrows row hrow => ?_, fun p f hupdate item hitem hkind htouched => ?_⟩
    · exact mem_keys_of_sound hw.sound (hrows row (hw.notification_iff.mp hrow))
    · cases hupdate
      obtain ⟨_, hk⟩ := hw.touched _ htouched
      cases hk

theorem Agree.quiet (h : Agree syncs s) (hx : x ∈ s.sessions.rows)
    (hmemory : x.memory = .tasks progress) (hbefore : progress ≠ .finished)
    (hstatement : syncs.statement (s.visible x) x.memory = some (write, .tasks progress'))
    (hexecutable : ∀ w ∈ write, executable s x.id w = true)
    (hquiet : Quiet syncs (s.visible x) write) (hgoes : progress' ≠ .finished) :
    Agree syncs (s.run x.id write (.tasks progress')) := by
  have hbase := h.base.run hx hstatement hexecutable
  have hmerged := h.base.separate.merged_run hx hbase.separate
  have hprogress : progress ∈ x.memory.tasks? := by rw [hmemory]; rfl
  refine ⟨hbase, h.fresh_run hx hexecutable hmerged (hquiet.sources _) hquiet.untouched, ?_, ?_⟩
  · intro y hy before hy' hnot id hid
    have hid' := hquiet.inbox _ id ((inbox_perm hmerged).mp hid)
    have hknown := h.before x hx progress hprogress hbefore id hid'
    have hothers : (∃ y ∈ s.sessions.rows, ∃ other ∈ y.memory.notifications?, id ∈ other.stored?) →
        ∃ y ∈ (s.run x.id write (.tasks progress')).sessions.rows,
          ∃ other ∈ y.memory.notifications?, id ∈ other.stored? := by
      rintro ⟨z, hz, other, hother, hstored⟩
      refine ⟨z, (Store.mem_run hx).mpr (.inr ⟨hz, fun hid => ?_⟩), other, hother, hstored⟩
      rw [h.base.id_notifications hz hother, h.base.id_tasks hx hprogress] at hid
      cases hid
    rcases (Store.mem_run hx).mp hy with rfl | ⟨hold, hother⟩
    · rw [Store.visible_run]
      exact hknown.imp (hquiet.keeps id) hothers
    · -- There is one task sync.
      exact absurd ((h.base.id_tasks hold hy').trans (h.base.id_tasks hx hprogress).symm) hother
  · intro hall
    exact absurd (hall _ ((Store.mem_run hx).mpr (.inl rfl)) progress' rfl) hgoes

/-- The delete of the task sync, when it sees what the other sync has stored. -/
theorem Agree.delete (h : Agree syncs s) (hx : x ∈ s.sessions.rows)
    (hmemory : x.memory = .tasks .deletingNotifications)
    (henabled : syncs.config.isAutoDeleteNotificationsOnTaskSyncEnabled = true)
    (hexecutable : executable s x.id (deleteNotifications (syncs.inbox (s.visible x))) = true)
    (hsees : DeleteSees syncs s x) :
    Agree syncs (s.run x.id (some (deleteNotifications (syncs.inbox (s.visible x))))
      (.tasks .finished)) := by
  have hstatement : syncs.statement (s.visible x) x.memory =
      some (some (deleteNotifications (syncs.inbox (s.visible x))), .tasks .finished) := by
    rw [hmemory]
    show some ((syncs.taskStatement _ .deletingNotifications).map id Progress.tasks) = _
    rw [taskStatement_deleting, if_pos henabled]
    rfl
  have hexecutable' : ∀ w ∈ some (deleteNotifications (syncs.inbox (s.visible x))),
      executable s x.id w = true := fun w hw => Option.some.inj hw ▸ hexecutable
  have hbase := h.base.run hx hstatement hexecutable'
  have hmerged := h.base.separate.merged_run hx hbase.separate
  have hprogress : .deletingNotifications ∈ x.memory.tasks? := by rw [hmemory]; rfl
  have hwrite : NotificationWrite (s.visible x) (syncs.inbox (s.visible x))
      (deleteNotifications (syncs.inbox (s.visible x))) :=
    notificationWrite_delete fun id hid => seen_inbox hid
  refine ⟨hbase, h.fresh_run hx hexecutable' hmerged (fun hstored row hrow => ?_)
    (fun p f hupdate item hitem hkind htouched => ?_), ?_, fun hall htask id hid => ?_⟩
  · -- A deleted notification keeps its source item.
    refine mem_keys_of_sound hwrite.sound ?_
    obtain ⟨old, hold, hnew⟩ := mem_update.mp hrow
    cases old with
    | notification old =>
      have hsource : row.sourceItemId = old.sourceItemId := by
        split at hnew <;> cases hnew <;> rfl
      rw [hsource]
      exact hstored old hold
    | thirdPartyItem old => split at hnew <;> cases hnew
    | task old => split at hnew <;> cases hnew
  · cases hupdate
    obtain ⟨_, -, hk⟩ := hwrite.touched _ htouched
    cases hk
  · intro y hy progress hp hnot
    rcases (Store.mem_run hx).mp hy with rfl | ⟨hold, hother⟩
    · exact absurd (Option.some.inj hp).symm hnot
    · exact absurd ((h.base.id_tasks hold hp).trans (h.base.id_tasks hx hprogress).symm) hother
  · rw [hasTask_perm hmerged] at htask
    have hid' := (inbox_perm hmerged).mp hid
    have htask' : syncs.hasTask s.merged = true := hwrite.hasTask.symm.trans htask
    have hleft := inbox_delete hid'
    have hin := (hwrite.inbox hid').resolve_left hleft
    obtain ⟨y, hy, other, hother, hstored⟩ :=
      (h.before x hx _ hprogress (by nofun) id hin).resolve_left hleft
    have hfinds := (hsees htask' y hy other hother id hstored hin).resolve_left hleft
    refine ⟨y, (Store.mem_run hx).mpr (.inr ⟨hy, fun hsame => ?_⟩), other, hother, hstored, ?_⟩
    · rw [h.base.id_notifications hy hother, h.base.id_tasks hx hprogress] at hsame
      cases hsame
    · rw [finds_congr fun item => (isLive_perm hmerged).trans
        (isLive_congr fun task => hwrite.task_iff)]
      exact hfinds

end TaskSync

/-- What a statement of the notification sync leaves of the inbox and of what the sync is to find;
`rows` is what there is once both have committed. -/
structure Stores (syncs : Syncs) (rows : List Row) (deleted : Prop) (write : Option (Write Row))
    (progress progress' : NotificationProgress) : Prop where
  inbox : ∀ id ∈ syncs.inbox (write.toList.foldl Write.apply rows),
    id ∈ syncs.inbox rows ∨ id ∈ progress'.stored?
  hasTask : syncs.hasTask (write.toList.foldl Write.apply rows) = true → syncs.hasTask rows = true
  stored : ∀ id ∈ progress.stored?, id ∈ progress'.stored?
  goes : progress' ≠ .storingItem
  finds : deleted → syncs.hasTask rows = true →
    ∀ id ∈ syncs.inbox (write.toList.foldl Write.apply rows),
      (id ∈ syncs.inbox rows → id ∈ progress.stored? ∧ progress.finds syncs rows = true) →
        id ∈ progress'.stored? ∧
          progress'.finds syncs (write.toList.foldl Write.apply rows) = true

section NotificationSync
variable {syncs : Syncs} {s : State} {y : Session} {write : Option (Write Row)}
  {progress progress' : NotificationProgress}

theorem Agree.stores (h : Agree syncs s) (hy : y ∈ s.sessions.rows)
    (hmemory : y.memory = .notifications progress)
    (hstatement : syncs.statement (s.visible y) y.memory = some (write, .notifications progress'))
    (hexecutable : ∀ w ∈ write, executable s y.id w = true)
    (hstores : Stores syncs s.merged (TasksDeleted s) write progress progress') :
    Agree syncs (s.run y.id write (.notifications progress')) := by
  have hbase := h.base.run hy hstatement hexecutable
  have hmerged := h.base.separate.merged_run hy hbase.separate
  have hprogress : progress ∈ y.memory.notifications? := by rw [hmemory]; rfl
  have hy' : y.after write (.notifications progress') ∈
      (s.run y.id write (.notifications progress')).sessions.rows :=
    (Store.mem_run hy).mpr (.inl rfl)
  -- There is one notification sync.
  have hown : ∀ z ∈ s.sessions.rows, ∀ other ∈ z.memory.notifications?, other = progress := by
    intro z hz other hother
    have hsame := Table.eq_of_key hz hy
      ((h.base.id_notifications hz hother).trans (h.base.id_notifications hy hprogress).symm)
    rw [hsame, hmemory] at hother
    exact (Option.some.inj hother).symm
  refine ⟨hbase, fun z hz hstoring => ?_, fun x hx before hbefore hnot id hid => ?_,
    fun hall htask id hid => ?_⟩
  · rcases (Store.mem_run hy).mp hz with rfl | ⟨hold, hother⟩
    · exact absurd (Progress.notifications.inj hstoring) hstores.goes
    · exact absurd ((h.base.id_notifications hold (by rw [hstoring]; rfl)).trans
        (h.base.id_notifications hy hprogress).symm) hother
  · rcases (Store.mem_run hy).mp hx with rfl | ⟨hold, -⟩
    · cases hbefore
    · rcases hstores.inbox id ((inbox_perm hmerged).mp hid) with hin | hstored
      · refine (h.before x hold before hbefore hnot id hin).imp_right ?_
        rintro ⟨z, hz, other, hother, hstored⟩
        rw [hown z hz other hother] at hstored
        exact ⟨_, hy', progress', rfl, hstores.stored id hstored⟩
      · exact .inr ⟨_, hy', progress', rfl, hstored⟩
  · have hdeleted : TasksDeleted s := by
      intro x hx before hbefore
      refine hall x ((Store.mem_run hy).mpr (.inr ⟨hx, fun hsame => ?_⟩)) before hbefore
      rw [h.base.id_tasks hx hbefore, h.base.id_notifications hy hprogress] at hsame
      cases hsame
    rw [hasTask_perm hmerged] at htask
    obtain ⟨hstored, hfinds⟩ := hstores.finds hdeleted (hstores.hasTask htask) id
      ((inbox_perm hmerged).mp hid) fun hin => by
        obtain ⟨z, hz, other, hother, hstored, hfinds⟩ :=
          h.after hdeleted (hstores.hasTask htask) id hin
        rw [hown z hz other hother] at hstored hfinds
        exact ⟨hstored, hfinds⟩
    refine ⟨_, hy', progress', rfl, hstored, ?_⟩
    rw [finds_congr fun item => isLive_perm hmerged]
    exact hfinds

theorem stores_storingItem (h : Agree syncs s) (hy : y ∈ s.sessions.rows)
    (hmemory : y.memory = .notifications .storingItem)
    (hsame : SameIssue syncs (s.visible y)) {deleted : Prop}
    (hexecutable : ∀ w ∈ (syncs.notificationStatement (s.visible y) .storingItem).1,
      executable s y.id w = true) :
    Stores syncs s.merged deleted (syncs.notificationStatement (s.visible y) .storingItem).1
      .storingItem (syncs.notificationStatement (s.visible y) .storingItem).2 := by
  obtain ⟨hwrites, hsources, hothers⟩ := h.fresh y hy hmemory
  have hcommitted : s.visible y = s.committed := by
    rw [Store.visible, hwrites]
    rfl
  have hinbox : ∀ id, id ∈ syncs.inbox
      ((syncs.notificationStatement (s.visible y) .storingItem).1.toList.foldl Write.apply s.merged) →
      id ∈ syncs.inbox s.merged := by
    intro id hid
    cases hwrite : (syncs.notificationStatement (s.visible y) .storingItem).1 with
    | none => rwa [hwrite] at hid
    | some w =>
      rw [hwrite] at hid
      have hw : ItemWrite (s.visible y) syncs.notification w := itemWrite hwrite
      refine mem_inbox_of hid (fun row hrow _ _ => hw.notification_iff.mp hrow)
        fun item row hitem hrow hsource hissue => ?_
      by_cases htouched : (Row.thirdPartyItem item).id ∈ w.touched Row.id
      · rcases hw.touched _ htouched with ⟨old, hold, hmatches, hk⟩ | ⟨hk, hinsert⟩
        · -- The stored item of the notification, which the task sync does not write.
          have hissue' := hsame old (mem_items.mpr hold) hmatches
          have hmem : .thirdPartyItem old ∈ s.merged := by
            refine (h.base.separate.merged_perm_visible hy).mem_iff.mpr ?_
            refine (mem_commitAll (fun z hz => h.base.separate.byKey z (Table.mem_erase.mp hz).1)
              fun z hz w hw => ?_).mpr hold
            obtain ⟨hz, hother⟩ := Table.mem_erase.mp hz
            exact hothers z hz hother w hw old (hcommitted ▸ hold) (kind_of_issueOf hissue')
          exact ⟨old, hmem, (RowId.thirdPartyItem.inj hk).symm, hissue'⟩
        · -- No notification is of an item that is new.
          have hclaimed := hsources row (hw.notification_iff.mp hrow)
          rw [h.base.separate.map_merged, ← hsource] at hclaimed
          have hnew := executable_separate (hexecutable w hwrite)
          rw [hinsert] at hnew
          rw [show item.id = syncs.notification.id from RowId.thirdPartyItem.inj hk] at hclaimed
          exact absurd hclaimed hnew
      · exact ⟨item, (hw.sound.byKey.mem_apply htouched).mp hitem, rfl, hissue⟩
  refine ⟨fun id hid => .inl (hinbox id hid), fun htask => ?_, fun _ hid => (nomatch hid), by nofun,
    fun _ _ id hid hstored => ?_⟩
  · cases hwrite : (syncs.notificationStatement (s.visible y) .storingItem).1 with
    | none => rwa [hwrite] at htask
    | some w =>
      rw [hwrite] at htask
      have hw : ItemWrite (s.visible y) syncs.notification w := itemWrite hwrite
      refine hasTask_mono (fun item hitem hkind => ?_) (fun _ => hw.task_iff.mp) htask
      refine (hw.written _ item hitem).resolve_right fun hdata => ?_
      rw [hdata, syncs.notification_data] at hkind
      cases hkind
  · cases (hstored (hinbox id hid)).1

theorem stores_selecting {rows rows' : List Row} {item : ThirdPartyItem} {deleted : Prop} :
    Stores syncs rows deleted (syncs.notificationStatement rows' (.selecting item)).1
      (.selecting item) (syncs.notificationStatement rows' (.selecting item)).2 :=
  ⟨fun _ hid => .inl hid, fun htask => htask, fun _ hid => (nomatch hid), by nofun,
    fun _ _ _ hid hstored => (nomatch (hstored hid).1)⟩

theorem stores_writing {rows rows' : List Row} {request : UpsertRequest}
    {existing : Option Notification} {deleted : Prop}
    (henabled : syncs.config.isAutoDeleteNotificationsOnTaskSyncEnabled = true)
    (hexisting : ∀ n ∈ existing, .notification n.id ∈ rows'.map Row.id) :
    Stores syncs rows deleted (syncs.notificationStatement rows' (.writing request existing)).1
      (.writing request existing)
      (syncs.notificationStatement rows' (.writing request existing)).2 := by
  rw [notificationStatement_writing, if_pos henabled]
  cases hupsert : (createOrUpdateNotification existing request).1 with
  | none =>
    exact ⟨fun id hid => .inl hid, fun htask => htask, fun id hid => hid, by nofun,
      fun _ _ id hid hstored => ⟨(hstored hid).1, rfl⟩⟩
  | some write =>
    have hw := notificationWrite_upsert hupsert hexisting
    have hinbox : ∀ id, id ∈ syncs.inbox ((writeNotification write).apply rows) →
        id ∈ syncs.inbox rows ∨
          some (createOrUpdateNotification existing request).2.value.id = some id := by
      intro id hid
      rcases hw.inbox hid with hnamed | hin
      · exact .inr (congrArg some (List.mem_singleton.mp hnamed).symm)
      · exact .inl hin
    refine ⟨hinbox, fun htask => hw.hasTask.symm.trans htask, fun id hid => hid, by nofun,
      fun _ _ id hid hstored => ⟨?_, rfl⟩⟩
    exact (hinbox id hid).elim (fun hin => (hstored hin).1) fun hnamed => hnamed

/-- Once the task sync has deleted, the other sync sees what it has committed. -/
theorem pending_or_alone (h : Agree syncs s) (hy : y ∈ s.sessions.rows)
    (hprogress : progress ∈ y.memory.notifications?) (hdeleted : TasksDeleted s) :
    deleteIsPending s = true ∨ s.merged.Perm (s.visible y) := by
  by_cases hpending : deleteIsPending s = true
  · exact .inl hpending
  refine .inr (h.base.separate.merged_of_alone hy fun z hz => ?_)
  cases hmemory : z.memory with
  | tasks before =>
    have hfinished := hdeleted z hz before (by rw [hmemory]; rfl)
    exact absurd (List.any_eq_true.mpr ⟨z, hz, by rw [hmemory, hfinished]⟩) hpending
  | notifications other =>
    exact (h.base.id_notifications hz (by rw [hmemory]; rfl)).trans
      (h.base.id_notifications hy hprogress).symm

theorem stores_findingItems (h : Agree syncs s) (hy : y ∈ s.sessions.rows) {id : NotificationId}
    (hmemory : y.memory = .notifications (.findingItems id))
    (hsees : deleteIsPending s = true → ItemsSeen syncs s y id) :
    Stores syncs s.merged (TasksDeleted s)
      (syncs.notificationStatement (s.visible y) (.findingItems id)).1 (.findingItems id)
      (syncs.notificationStatement (s.visible y) (.findingItems id)).2 := by
  rw [notificationStatement_findingItems]
  refine ⟨fun _ hid => .inl hid, fun htask => htask, fun _ hid => hid, by nofun,
    fun hdeleted htask id' hid hstored => ?_⟩
  have hstored' := (hstored hid).1
  cases hstored'
  refine ⟨rfl, List.any_map.trans ?_⟩
  rcases pending_or_alone h hy (by rw [hmemory]; rfl) hdeleted with hpending | halone
  · exact hsees hpending htask hid
  · rw [hasTask_perm halone] at htask
    refine List.any_eq_true.mpr ?_
    obtain ⟨item, hitem, hlive⟩ := hasTask_iff.mp htask
    exact ⟨item, hitem, (isLive_perm halone).trans hlive⟩

/-- The task of an item is found when it is not deleted: an item has one task. -/
theorem found_of_isLive {rows : List Row} (hunique : (rows.map taskKey).Nodup)
    {item : ThirdPartyItemId} (hlive : syncs.isLive rows item = true) :
    (getTaskForSourceItemId rows item syncs.userId).any (·.status != .deleted) = true := by
  obtain ⟨task, htask, hsource, howned, hstatus⟩ := isLive_iff.mp hlive
  cases hfind : getTaskForSourceItemId rows item syncs.userId with
  | none =>
    have hnone := List.find?_eq_none.mp hfind task (mem_tasks.mpr htask)
    simp [hsource, howned] at hnone
  | some found =>
    have hfound := mem_tasks.mp (List.mem_of_find?_eq_some hfind)
    have hmatches := List.find?_some hfind
    simp only [Bool.and_eq_true, beq_iff_eq] at hmatches
    have hsame : taskKey (.task found) = taskKey (.task task) :=
      congrArg Sum.inl (hmatches.1.trans hsource.symm)
    cases Row.task.inj (List.inj_on_of_nodup_map hunique hfound htask hsame)
    simpa using hstatus

theorem stores_gettingTasks (h : Agree syncs s) (hy : y ∈ s.sessions.rows) {id : NotificationId}
    {item : ThirdPartyItemId} {rest : List ThirdPartyItemId}
    (hmemory : y.memory = .notifications (.gettingTasks id (item :: rest)))
    (hsees : deleteIsPending s = true → TaskSeen syncs s y id item rest) :
    Stores syncs s.merged (TasksDeleted s)
      (syncs.notificationStatement (s.visible y) (.gettingTasks id (item :: rest))).1
      (.gettingTasks id (item :: rest))
      (syncs.notificationStatement (s.visible y) (.gettingTasks id (item :: rest))).2 := by
  rw [notificationStatement_gettingTasks]
  split
  · exact ⟨fun _ hid => .inl hid, fun htask => htask, fun _ hid => hid, by nofun,
      fun _ _ _ hid hstored => ⟨(hstored hid).1, rfl⟩⟩
  next hnotFound =>
  refine ⟨fun _ hid => .inl hid, fun htask => htask, fun _ hid => hid, by nofun,
    fun hdeleted htask id' hid hstored => ?_⟩
  obtain ⟨hstored', hfinds⟩ := hstored hid
  cases hstored'
  refine ⟨rfl, ?_⟩
  have hunique := (h.base.unique.commit hy).committed
  have hnotSeen : syncs.isLive (s.visible y) item ≠ true :=
    fun hlive => hnotFound (found_of_isLive hunique hlive)
  rcases Bool.or_eq_true_iff.mp (List.any_cons.symm.trans hfinds) with hlive | hrest
  · rcases pending_or_alone h hy (by rw [hmemory]; rfl) hdeleted with hpending | halone
    · exact (hsees hpending hlive hid).resolve_left hnotSeen
    · exact absurd ((isLive_perm halone).symm.trans hlive) hnotSeen
  · exact hrest

theorem stores_gettingTasks_nil {rows rows' : List Row} {id : NotificationId} {deleted : Prop} :
    Stores syncs rows deleted (syncs.notificationStatement rows' (.gettingTasks id [])).1
      (.gettingTasks id []) (syncs.notificationStatement rows' (.gettingTasks id [])).2 :=
  ⟨fun _ hid => .inl hid, fun htask => htask, fun _ hid => hid, by nofun,
    fun _ _ _ hid hstored => (nomatch (hstored hid).2)⟩

theorem stores_deleting {rows rows' : List Row} {id : NotificationId} {deleted : Prop}
    (hknown : .notification id ∈ rows'.map Row.id) :
    Stores syncs rows deleted (syncs.notificationStatement rows' (.deleting id)).1 (.deleting id)
      (syncs.notificationStatement rows' (.deleting id)).2 := by
  have hw : NotificationWrite rows' [id] (deleteNotifications [id]) :=
    notificationWrite_delete fun id' hid => List.mem_singleton.mp hid ▸ hknown
  have hinbox : ∀ id', id' ∈ syncs.inbox ((deleteNotifications [id]).apply rows) →
      id' ∈ syncs.inbox rows ∧ id' ≠ id := by
    intro id' hid
    have hleft := inbox_delete hid
    exact ⟨(hw.inbox hid).resolve_left hleft, fun hsame => hleft (List.mem_singleton.mpr hsame)⟩
  refine ⟨fun id' hid => .inl (hinbox id' hid).1, fun htask => hw.hasTask.symm.trans htask,
    fun _ hid => hid, by nofun, fun _ _ id' hid hstored => ?_⟩
  obtain ⟨hin, hother⟩ := hinbox id' hid
  exact absurd (Option.some.inj (hstored hin).1).symm hother

end NotificationSync

section Run
variable {syncs : Syncs} {s t : State} {x : Session} {party : Party} {rows : List Row}

theorem Agree.commit (h : Agree syncs s) (hx : x ∈ s.sessions.rows)
    (hfinished : syncs.statement (s.visible x) x.memory = none) : Agree syncs (s.commit x) := by
  have hbase := h.base.commit hx
  have hmerged := h.base.separate.merged_commit hx
  have hmem : ∀ y ∈ (s.commit x).sessions.rows, y ∈ s.sessions.rows ∧ y.id ≠ x.id :=
    fun y hy => Table.mem_erase.mp hy
  have hparties : ∀ y ∈ (s.commit x).sessions.rows, ∀ z ∈ (s.commit x).sessions.rows,
      y.id = z.id := by
    intro y hy z hz
    have hy' := (hmem y hy).2
    have hz' := (hmem z hz).2
    cases hyid : y.id <;> cases hzid : z.id <;> cases hxid : x.id <;> simp_all
  cases hmemory : x.memory with
  | tasks progress =>
    have hprogress : progress ∈ x.memory.tasks? := by rw [hmemory]; rfl
    have hlast : progress = .finished := by
      cases progress with
      | finished => rfl
      | _ => rw [hmemory] at hfinished; cases hfinished
    have hdeleted : TasksDeleted s := by
      intro y hy before hbefore
      have hsame := Table.eq_of_key hy hx
        ((h.base.id_tasks hy hbefore).trans (h.base.id_tasks hx hprogress).symm)
      rw [hsame, hmemory] at hbefore
      exact (Option.some.inj hbefore).symm.trans hlast
    refine ⟨hbase, fun z hz hstoring => ?_, fun y hy before hbefore _ => ?_,
      fun _ htask id hid => ?_⟩
    · obtain ⟨hwrites, hsources, -⟩ := h.fresh z (hmem z hz).1 hstoring
      refine ⟨hwrites, fun row hrow => ?_, fun y hy hother => absurd (hparties y hy z hz) hother⟩
      obtain ⟨r, hr, hid⟩ := List.mem_map.mp (hsources row (hmerged.mem_iff.mp hrow))
      exact List.mem_map.mpr ⟨r, hmerged.mem_iff.mpr hr, hid⟩
    · exact absurd ((h.base.id_tasks (hmem y hy).1 hbefore).trans (h.base.id_tasks hx hprogress).symm)
        (hmem y hy).2
    · rw [hasTask_perm hmerged] at htask
      obtain ⟨y, hy, other, hother, hstored, hfinds⟩ :=
        h.after hdeleted htask id ((inbox_perm hmerged).mp hid)
      refine ⟨y, Table.mem_erase.mpr ⟨hy, fun hsame => ?_⟩, other, hother, hstored, ?_⟩
      · rw [h.base.id_notifications hy hother, h.base.id_tasks hx hprogress] at hsame
        cases hsame
      · rw [finds_congr fun item => isLive_perm hmerged]
        exact hfinds
  | notifications progress =>
    have hprogress : progress ∈ x.memory.notifications? := by rw [hmemory]; rfl
    refine ⟨hbase, fun z hz hstoring => ?_, fun y hy before hbefore _ id hid => ?_,
      fun hall htask id hid => ?_⟩
    · exact absurd ((h.base.id_notifications (hmem z hz).1 (by rw [hstoring]; rfl)).trans
        (h.base.id_notifications hx hprogress).symm) (hmem z hz).2
    · -- The task sync is alone now, and sees all there is.
      have halone := hbase.separate.merged_of_alone hy fun z hz => hparties z hz y hy
      exact .inl ((inbox_perm halone).mp hid)
    · have hdeleted : TasksDeleted s := by
        intro y hy before hbefore
        refine hall y (Table.mem_erase.mpr ⟨hy, fun hsame => ?_⟩) before hbefore
        rw [h.base.id_tasks hy hbefore, h.base.id_notifications hx hprogress] at hsame
        cases hsame
      rw [hasTask_perm hmerged] at htask
      obtain ⟨y, hy, other, hother, -, hfinds⟩ :=
        h.after hdeleted htask id ((inbox_perm hmerged).mp hid)
      have hsame := Table.eq_of_key hy hx
        ((h.base.id_notifications hy hother).trans (h.base.id_notifications hx hprogress).symm)
      rw [hsame, hmemory] at hother
      cases hother
      cases progress with
      | finished id => cases hfinds
      | _ => rw [hmemory] at hfinished; cases hfinished

/-- A step of either sync under the guard. -/
theorem Agree.step (henabled : syncs.config.isAutoDeleteNotificationsOnTaskSyncEnabled = true)
    (h : Agree syncs s) (hstep : LinearAutoDelete.step syncs s party = some t)
    (hguard : Guard syncs s party) : Agree syncs t := by
  obtain ⟨x, hx, hid, ⟨hnone, rfl⟩ | ⟨write, memory, hsome, hexecutable, rfl⟩⟩ := step_cases hstep
  · exact h.commit hx hnone
  have hsees : Sees syncs s x x.memory := hguard x (Table.find?_eq_some.mpr ⟨hx, hid⟩)
  rcases statement_cases hsome with ⟨progress, hmemory, rfl, rfl⟩ | ⟨progress, hmemory, rfl, rfl⟩
  · cases progress with
    | storingItem =>
      exact h.quiet hx hmemory (by nofun) hsome hexecutable
        (quiet_storingItem (h.base.nodup_visible hx)) (by nofun)
    | storingTask item =>
      exact h.quiet hx hmemory (by nofun) hsome hexecutable (quiet_storingTask item) (by nofun)
    | deletingNotifications =>
      rw [taskStatement_deleting, if_pos henabled] at hexecutable ⊢
      rw [hmemory] at hsees
      exact h.delete hx hmemory henabled (hexecutable _ rfl) hsees
    | finished => rw [hmemory] at hsome; cases hsome
  · refine h.stores hx hmemory hsome hexecutable ?_
    rw [hmemory] at hsees
    cases progress with
    | storingItem => exact stores_storingItem h hx hmemory hsees hexecutable
    | selecting item => exact stores_selecting
    | writing request existing =>
      exact stores_writing henabled fun n hn =>
        h.base.known x hx _ (by rw [hmemory]; rfl) n.id (Option.mem_map_of_mem _ hn)
    | findingItems id => exact stores_findingItems h hx hmemory hsees
    | gettingTasks id items =>
      cases items with
      | nil => exact stores_gettingTasks_nil
      | cons item rest => exact stores_gettingTasks h hx hmemory hsees
    | deleting id => exact stores_deleting (h.base.known x hx _ (by rw [hmemory]; rfl) id rfl)
    | finished id => rw [hmemory] at hsome; cases hsome

theorem nodup_taskKey (h : Constraints rows) : (rows.map taskKey).Nodup := by
  refine (h.ids.of_map Row.id).map_on fun r hr r' hr' hsame => ?_
  cases r with
  | task row =>
    cases r' with
    | task row' =>
      have hkey : (Row.task row).key = (Row.task row').key :=
        congrArg RowKey.task (Sum.inl.inj hsame)
      exact List.inj_on_of_nodup_map h.keys hr hr' hkey
    | thirdPartyItem row' => cases hsame
    | notification row' => cases hsame
  | thirdPartyItem row =>
    cases r' with
    | task row' => cases hsame
    | _ => exact List.inj_on_of_nodup_map h.ids hr hr' (Sum.inr.inj hsame)
  | notification row =>
    cases r' with
    | task row' => cases hsame
    | _ => exact List.inj_on_of_nodup_map h.ids hr hr' (Sum.inr.inj hsame)

theorem agree_begun (h : Constraints rows) : Agree syncs (begun rows) := by
  have hwrites : ∀ x ∈ (begun rows).sessions.rows, x.writes = [] := by
    intro x hx
    rcases List.mem_cons.mp hx with rfl | hx
    · rfl
    · rw [List.mem_singleton.mp hx]
  have hclaimed : ∀ {κ : Type} (key : Row → κ), (begun rows).claimedKeys key = rows.map key :=
    fun key => List.append_nil _
  have hdistinct : ∀ {κ : Type} {key : Row → κ}, (rows.map key).Nodup →
      (begun rows).Distinct key := by
    refine fun {κ key} hnodup => ⟨fun x hx w hw => ?_, hclaimed key ▸ hnodup⟩
    rw [hwrites x hx] at hw
    cases hw
  refine ⟨⟨⟨hdistinct h.ids, fun x hx w hw => ?_, ?_, fun x hx w hw => ?_⟩,
      hdistinct (nodup_taskKey h), ?_, ?_⟩, ?_, ?_, ?_⟩
  · rw [hwrites x hx] at hw
    cases hw
  · exact List.pairwise_pair.mpr fun w hw => (nomatch hw)
  · rw [hwrites x hx] at hw
    cases hw
  · intro x hx
    rcases List.mem_cons.mp hx with rfl | hx
    · rfl
    · rw [List.mem_singleton.mp hx]
      rfl
  · intro x hx progress hprogress id hid
    rcases List.mem_cons.mp hx with rfl | hx
    · cases hprogress
    · rw [List.mem_singleton.mp hx] at hprogress
      cases hprogress
      cases hid
  · refine fun x hx _ => ⟨hwrites x hx, fun row hrow => ?_, fun y hy _ w hw => ?_⟩
    · obtain ⟨item, hitem, hid⟩ := h.notification_source row (mem_notifications.mpr hrow)
      exact List.mem_map.mpr ⟨.thirdPartyItem item, mem_items.mp hitem,
        congrArg RowId.thirdPartyItem hid⟩
    · rw [hwrites y hy] at hw
      cases hw
  · intro x hx progress hprogress _ id hid
    rw [Store.visible, hwrites x hx]
    exact .inl hid
  · intro hdeleted
    cases hdeleted ⟨.tasks, [], .tasks .storingItem⟩ List.mem_cons_self .storingItem rfl

theorem Agree.settled (h : Agree syncs s) (hcommitted : bothCommitted s = true) :
    syncs.Settled s.committed := by
  have hnone : s.sessions.rows = [] := List.isEmpty_iff.mp hcommitted
  have hmerged : s.merged = s.committed := by
    rw [Store.merged, hnone]
    rfl
  intro htask
  refine List.eq_nil_iff_forall_not_mem.mpr fun id hid => ?_
  rw [← hmerged] at htask hid
  obtain ⟨y, hy, -⟩ := h.after (fun x hx => by rw [hnone] at hx; cases hx) htask id hid
  rw [hnone] at hy
  cases hy

end Run

/-- A sync of one issue, and one of a notification that the issue was assigned. -/
def assignedIssue : Syncs where
  codec :=
    { NotificationResync.sampleCodec with
      linear := fun content => .issueNotification none none ⟨"LIN-1", content⟩ }
  userId := ⟨0⟩
  config := ⟨true, true⟩
  issue := ⟨⟨1⟩, "LIN-1", .linearIssue "Started", 0, 0, ⟨0⟩, ⟨0⟩, none⟩
  intoTask item :=
    { id := ⟨1⟩, title := ⟨"", none⟩, body := "", status := .active, completedAt := none,
      priority := .p4, dueAt := ⟨none, none⟩, tags := [], parentId := none, project := ⟨"", none⟩,
      isRecurring := false, createdAt := 0, updatedAt := 0, kind := .linear, sourceItem := item,
      sinkItem := none, userId := ⟨0⟩ }
  notification := ⟨⟨2⟩, "1", .linearNotification "Assigned", 0, 0, ⟨0⟩, ⟨0⟩, none⟩
  content := "Assigned"
  stamp := ⟨⟨3⟩, 0, 0⟩
  issue_kind := rfl
  notification_data := rfl
  same_issue := rfl

/-- The notification is stored first; its sync looks for the task once the other has committed. -/
def lookedUpLast : List Party :=
  [.notifications, .notifications, .notifications, .tasks, .tasks, .tasks, .tasks, .notifications,
    .notifications, .notifications, .notifications]

/-- The notification sync looks for the task, and the task sync deletes, before either commits. -/
def skewed : List Party :=
  [.tasks, .tasks, .notifications, .notifications, .notifications, .notifications, .tasks,
    .notifications, .tasks, .notifications]

end UniversalInbox.LinearAutoDelete
