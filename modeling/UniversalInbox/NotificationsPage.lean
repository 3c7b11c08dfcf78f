import UniversalInbox.FilteredPatch
import UniversalInbox.Library.Transition

/-! The page of notifications the web client displays. One coroutine writes it: a refresh puts the
answer of the server in its place, the other commands edit the content and the total without
asking. A command shows a page each time it has written one. -/
namespace UniversalInbox.NotificationsPage
open Transition NotificationListing
open FilteredPatch (NotificationSection)

/-- `Unsubscribed` notifications are listed in no section and fall back to the inbox. -/
def sectionOf (notification : NotificationWithTask) (now : DateTime) : NotificationSection :=
  match notification.status with
  | .deleted => .deleted
  | .unread | .read =>
    if notification.snoozedUntil.any (now < ·) then .snoozed else .inbox
  | .unsubscribed => .inbox

/-- `usize::MAX` in a browser. -/
def usizeMax : Nat := 2 ^ 32 - 1

/-- `total -= 1`, which wraps around in a release build and panics in a debug one. -/
def decrement (total : Nat) : Nat := if total = 0 then usizeMax else total - 1

def removeElement {α : Type} (keep : α → Bool) (page : Page α) : Page α :=
  let content := page.content.filter keep
  { page with
    content
    total := if page.content.length ≠ content.length then decrement page.total else page.total }

structure State where
  page : Page NotificationWithTask
  currentSection : NotificationSection
  currentPageToken : PageToken
  selectedNotificationIndex : Option Nat

def position (page : Page NotificationWithTask) (id : NotificationId) : Option Nat :=
  page.content.findIdx? (·.id == id)

/-- `none` is a failed call. -/
def refreshNotifications (s : State) (answer : Option (Page NotificationWithTask)) : State :=
  match answer with
  | some page => { s with page }
  | none => s

/-- A resolved deep link switches to the section of its notification, which is refreshed. -/
def switchSection (s : State) (notification : NotificationWithTask) (now : DateTime)
    (refreshed : Option (Page NotificationWithTask)) : State :=
  if s.currentSection ≠ sectionOf notification now then
    refreshNotifications { s with currentSection := sectionOf notification now } refreshed
  else s

def selectOrInsert (s : State) (notification : NotificationWithTask) : State :=
  match position s.page notification.id with
  | some index => { s with selectedNotificationIndex := some index }
  | none =>
    { s with
      page := { s.page with content := notification :: s.page.content }
      selectedNotificationIndex := some 0 }

/-- The server answers `GET notifications/{id}` with the notification of that identifier. -/
abbrev Fetched (id : NotificationId) := { notification : NotificationWithTask // notification.id = id }

def loadAndSelectNotification (s : State) (id : NotificationId) (answer : Option (Fetched id))
    (refreshed : Option (Page NotificationWithTask)) (now : DateTime) : State :=
  match position s.page id with
  | some index => { s with selectedNotificationIndex := some index }
  | none =>
    match answer with
    | none => s
    | some notification => selectOrInsert (switchSection s notification now refreshed) notification

def clearContent (s : State) : State := { s with page := { s.page with content := [] } }

def deleteAllNotifications (s : State) (patched : Bool)
    (refreshed : Option (Page NotificationWithTask)) : State :=
  if patched then refreshNotifications (clearContent s) refreshed else clearContent s

def isBuiltFromTask (notification : NotificationWithTask) : Bool :=
  notification.kind == .todoist || notification.kind == .tickTick

/-- The first notification of the identifier is read. -/
def markRead (id : NotificationId) (now : DateTime) :
    List NotificationWithTask → List NotificationWithTask
  | [] => []
  | n :: rest =>
    if n.id == id then { n with status := .read, lastReadAt := some now } :: rest
    else n :: markRead id now rest

/-- More than half of a page that is not the last one is gone. -/
def needsRefill (s : State) : Bool :=
  let offset := match s.currentPageToken with
    | .offset offset => offset
    | _ => 0
  s.page.perPage != 0 && decide (1 < s.page.pagesCount) &&
    decide (offset / s.page.perPage + 1 < s.page.pagesCount) &&
    decide (s.page.content.length * 2 < s.page.perPage)

def maybeRefillCurrentPage (s : State) (answer : Option (Page NotificationWithTask)) : State :=
  if needsRefill s then
    let selectedId := (s.selectedNotificationIndex.bind (s.page.content[·]?)).map (·.id)
    let refreshed := refreshNotifications s answer
    { refreshed with
      selectedNotificationIndex :=
        (selectedId.bind (position refreshed.page)).or refreshed.selectedNotificationIndex }
  else s

/-- The commands of the coroutine, with the answers of their calls; `remove` stands for those that
first remove a notification and then tell the server. `enterSection` and `turnPage` are written
by the router and the pagination. -/
inductive Command where
  | refresh (answer : Option (Page NotificationWithTask))
  | remove (id : NotificationId)
  | completeTaskFromNotification (notification : NotificationWithTask)
  | patchInvitation (id : NotificationId)
  | markAsRead (id : NotificationId) (patched : Bool) (now : DateTime)
  | loadAndSelect (id : NotificationId) (answer : Option (Fetched id))
      (refreshed : Option (Page NotificationWithTask)) (now : DateTime)
  | deleteAll (patched : Bool) (refreshed : Option (Page NotificationWithTask))
  | refill (answer : Option (Page NotificationWithTask))
  | enterSection (currentSection : NotificationSection)
  | turnPage (currentPageToken : PageToken)

/-- `|notif| notif.id != notification_id`. -/
def others (id : NotificationId) (notification : NotificationWithTask) : Bool :=
  notification.id != id

/-- What a command keeps of the page, when it calls `remove_element`. -/
def removal (s : State) : Command → Option (NotificationWithTask → Bool)
  | .remove id => some (others id)
  | .completeTaskFromNotification notification =>
    if notification.task.isSome && isBuiltFromTask notification then
      some (others notification.id)
    else none
  | .patchInvitation id =>
    if s.page.content.any fun n => n.id == id && n.kind == .googleCalendar then some (others id)
    else none
  | _ => none

def removed (s : State) (command : Command) : State :=
  match removal s command with
  | some keep => { s with page := removeElement keep s.page }
  | none => s

def step (s : State) (command : Command) : State :=
  match command with
  | .refresh answer => refreshNotifications s answer
  | .remove _ | .completeTaskFromNotification _ | .patchInvitation _ => removed s command
  | .markAsRead id patched now =>
    if patched then { s with page := { s.page with content := markRead id now s.page.content } }
    else s
  | .loadAndSelect id answer refreshed now => loadAndSelectNotification s id answer refreshed now
  | .deleteAll patched refreshed => deleteAllNotifications s patched refreshed
  | .refill answer => maybeRefillCurrentPage s answer
  | .enterSection currentSection => { s with currentSection }
  | .turnPage currentPageToken => { s with currentPageToken }

/-- `Page::default()`. -/
def initial : State :=
  { page := ⟨0, 1, 0, none, none, []⟩, currentSection := .inbox, currentPageToken := .offset 0,
    selectedNotificationIndex := none }

/-- A page a command shows before its last one. -/
def shownBefore (s : State) : Command → List (Page NotificationWithTask)
  | .loadAndSelect id (some notification) refreshed now =>
    if (position s.page id).isNone then [(switchSection s notification now refreshed).page] else []
  | .deleteAll _ _ => [(clearContent s).page]
  | _ => []

def WellFormed (page : Page NotificationWithTask) : Prop :=
  page.content.length ≤ page.total ∧ (page.content.map (·.id)).Nodup

instance (page : Page NotificationWithTask) : Decidable (WellFormed page) :=
  inferInstanceAs (Decidable (_ ∧ _))

/-- A removal does not take the total below zero, and takes from it what it takes from the
content. -/
def Counted (keep : NotificationWithTask → Bool) (page : Page NotificationWithTask) : Prop :=
  page.content.countP (!keep ·) ≤ page.total ∧
    (removeElement keep page).total + page.content.countP (!keep ·) = page.total

instance (keep : NotificationWithTask → Bool) (page : Page NotificationWithTask) :
    Decidable (Counted keep page) := inferInstanceAs (Decidable (_ ∧ _))

/-- Every page shown is well formed, and a removal counts. -/
def PageKept (s : State) (command : Command) (t : State) : Prop :=
  ((∀ page ∈ shownBefore s command, WellFormed page) ∧ WellFormed t.page) ∧
    ∀ keep ∈ removal s command, Counted keep s.page

instance (s : State) (command : Command) (t : State) : Decidable (PageKept s command t) :=
  inferInstanceAs (Decidable ((_ ∧ _) ∧ ∀ _ ∈ _, _))

/-- A page put in place of the displayed one is well formed, and a deep link is put in front of a
page that does not show all it counts. -/
def PageGuard (s : State) : Command → Prop
  | .refresh answer => ∀ page ∈ answer, WellFormed page
  | .loadAndSelect id (some notification) refreshed now =>
    position s.page id = none →
      (s.currentSection ≠ sectionOf notification now → ∀ page ∈ refreshed, WellFormed page) ∧
        (position (switchSection s notification now refreshed).page id = none →
          (switchSection s notification now refreshed).page.content.length <
            (switchSection s notification now refreshed).page.total)
  | .deleteAll patched refreshed => patched = true → ∀ page ∈ refreshed, WellFormed page
  | .refill answer => needsRefill s = true → ∀ page ∈ answer, WellFormed page
  | _ => True

section Removal
variable {page : Page NotificationWithTask} {id : NotificationId}

/-- With distinct identifiers, no more than one notification is removed. -/
theorem countP_removed_le_one (h : (page.content.map (·.id)).Nodup) :
    page.content.countP (!others id ·) ≤ 1 := by
  have hcount := List.nodup_iff_count_le_one.mp h id
  rw [List.count, List.countP_map] at hcount
  refine le_trans (le_of_eq (List.countP_congr fun n _ => ?_)) hcount
  simp [others]

theorem length_removeElement (page : Page NotificationWithTask)
    (keep : NotificationWithTask → Bool) :
    (removeElement keep page).content.length + page.content.countP (!keep ·) =
      page.content.length := by
  rw [removeElement, ← List.countP_eq_length_filter]
  have hsplit := List.length_eq_countP_add_countP keep (l := page.content)
  have hneg : page.content.countP (fun n => decide (¬keep n = true)) =
      page.content.countP (!keep ·) :=
    List.countP_congr fun n _ => by simp
  omega

theorem total_removeElement (page : Page NotificationWithTask)
    (keep : NotificationWithTask → Bool) :
    (removeElement keep page).total =
      if page.content.countP (!keep ·) = 0 then page.total else decrement page.total := by
  have hlength := length_removeElement page keep
  have htotal : (removeElement keep page).total =
      if page.content.length ≠ (removeElement keep page).content.length then decrement page.total
      else page.total := rfl
  rw [htotal]
  by_cases hnone : page.content.countP (!keep ·) = 0
  · rw [if_pos hnone, if_neg (by omega)]
  · rw [if_neg hnone, if_pos (by omega)]

theorem counted_removeElement (h : WellFormed page) : Counted (others id) page := by
  obtain ⟨hlength, hnodup⟩ := h
  have hone : page.content.countP (!others id ·) ≤ 1 := countP_removed_le_one hnodup
  have hle := List.countP_le_length (p := (!others id ·)) (l := page.content)
  refine ⟨by omega, ?_⟩
  rw [total_removeElement]
  by_cases hnone : page.content.countP (!others id ·) = 0
  · rw [if_pos hnone, hnone, Nat.add_zero]
  · rw [if_neg hnone, decrement, if_neg (by omega)]
    omega

theorem wellFormed_removeElement (h : WellFormed page) :
    WellFormed (removeElement (others id) page) := by
  have hcounted : Counted (others id) page := counted_removeElement h
  have htotal := hcounted.2
  have hlength := length_removeElement page (others id)
  refine ⟨?_, h.2.sublist (List.filter_sublist.map _)⟩
  have hbound := h.1
  omega

end Removal

section Steps
variable {s t : State} {page : Page NotificationWithTask} {id : NotificationId}
variable {now : DateTime} {answer refreshed : Option (Page NotificationWithTask)}
variable {notification : NotificationWithTask} {command : Command}

theorem position_eq_none : position page id = none ↔ id ∉ page.content.map (·.id) := by
  rw [position, List.findIdx?_eq_none_iff, List.mem_map]
  simp

theorem markRead_ids (notifications : List NotificationWithTask) :
    (markRead id now notifications).map (·.id) = notifications.map (·.id) := by
  induction notifications with
  | nil => rfl
  | cons n rest ih =>
    unfold markRead
    split
    · rfl
    · rw [List.map_cons, List.map_cons, ih]

theorem wellFormed_congr {page' : Page NotificationWithTask} (htotal : page'.total = page.total)
    (hids : page'.content.map (·.id) = page.content.map (·.id)) :
    WellFormed page' ↔ WellFormed page := by
  have hlength := congrArg List.length hids
  rw [List.length_map, List.length_map] at hlength
  rw [WellFormed, WellFormed, htotal, hids, hlength]

theorem wellFormed_clearContent : WellFormed (clearContent s).page :=
  ⟨Nat.zero_le _, List.nodup_nil⟩

theorem wellFormed_refresh_iff (h : WellFormed s.page) :
    WellFormed (refreshNotifications s answer).page ↔ ∀ page ∈ answer, WellFormed page := by
  cases answer <;> simp [refreshNotifications, h]

theorem wellFormed_switchSection_iff (h : WellFormed s.page) :
    WellFormed (switchSection s notification now refreshed).page ↔
      (s.currentSection ≠ sectionOf notification now → ∀ page ∈ refreshed, WellFormed page) := by
  unfold switchSection
  split
  · next hsection =>
    rw [wellFormed_refresh_iff (s := { s with currentSection := sectionOf notification now }) h]
    exact ⟨fun hpage _ => hpage, fun hpage => hpage hsection⟩
  · next hsection => exact iff_of_true h fun hne => absurd hne hsection

theorem wellFormed_selectOrInsert_iff (h : WellFormed s.page) :
    WellFormed (selectOrInsert s notification).page ↔
      (position s.page notification.id = none → s.page.content.length < s.page.total) := by
  unfold selectOrInsert
  split
  · next index hfound => simp [h, hfound]
  · next hfound =>
    rw [position_eq_none] at hfound
    simp only [WellFormed, List.length_cons, List.map_cons, List.nodup_cons, hfound, h.2,
      not_false_eq_true, and_self, and_true, position_eq_none, forall_const]
    exact Nat.succ_le_iff

theorem removal_eq_others {keep : NotificationWithTask → Bool} (h : keep ∈ removal s command) :
    ∃ id, keep = others id := by
  cases command with
  | remove id =>
    cases h
    exact ⟨id, rfl⟩
  | completeTaskFromNotification notification =>
    obtain ⟨-, hkeep⟩ := Option.ite_none_right_eq_some.mp h
    exact ⟨notification.id, (Option.some.inj hkeep).symm⟩
  | patchInvitation id =>
    obtain ⟨-, hkeep⟩ := Option.ite_none_right_eq_some.mp h
    exact ⟨id, (Option.some.inj hkeep).symm⟩
  | _ => cases h

theorem counted_removal (h : WellFormed s.page) :
    ∀ keep ∈ removal s command, Counted keep s.page := by
  intro keep hkeep
  obtain ⟨id, rfl⟩ := removal_eq_others hkeep
  exact counted_removeElement h

theorem wellFormed_removed (h : WellFormed s.page) : WellFormed (removed s command).page := by
  unfold removed
  split
  · next keep hremoval =>
    obtain ⟨id, rfl⟩ := removal_eq_others hremoval
    exact wellFormed_removeElement h
  · exact h

/-- A command that shows no other page first is judged by the page it leaves. -/
theorem pageKept_of_shownBefore (h : WellFormed s.page) (hbefore : shownBefore s command = []) :
    PageKept s command t ↔ WellFormed t.page := by
  rw [PageKept, hbefore]
  constructor
  · rintro ⟨⟨-, ht⟩, -⟩
    exact ht
  · intro ht
    exact ⟨⟨fun _ hpage => absurd hpage List.not_mem_nil, ht⟩, counted_removal h⟩

theorem pageKept_loadAndSelect_iff {answer : Option (Fetched id)} (h : WellFormed s.page) :
    PageKept s (.loadAndSelect id answer refreshed now)
        (loadAndSelectNotification s id answer refreshed now) ↔
      PageGuard s (.loadAndSelect id answer refreshed now) := by
  unfold loadAndSelectNotification
  cases hposition : position s.page id with
  | some index =>
    have hbefore : shownBefore s (.loadAndSelect id answer refreshed now) = [] := by
      cases answer <;> simp [shownBefore, hposition]
    refine (pageKept_of_shownBefore h hbefore).trans (iff_of_true h ?_)
    cases answer with
    | none => trivial
    | some notification => exact fun hnone => by simp [hposition] at hnone
  | none =>
    cases answer with
    | none => exact (pageKept_of_shownBefore h rfl).trans (iff_of_true h trivial)
    | some notification =>
      obtain ⟨notification, rfl⟩ := notification
      have hguard : PageGuard s (.loadAndSelect notification.id (some ⟨notification, rfl⟩) refreshed
          now) ↔ _ := forall_prop_of_true hposition
      rw [hguard, ← wellFormed_switchSection_iff h]
      simp only [PageKept, shownBefore, hposition, Option.isNone_none, if_true,
        List.mem_singleton, forall_eq]
      constructor
      · rintro ⟨⟨hswitched, hfinal⟩, -⟩
        exact ⟨hswitched, (wellFormed_selectOrInsert_iff hswitched).mp hfinal⟩
      · rintro ⟨hswitched, hroom⟩
        exact ⟨⟨hswitched, (wellFormed_selectOrInsert_iff hswitched).mpr hroom⟩, counted_removal h⟩

/-- From a well-formed page, one command keeps to what is asked of it exactly when its guard
holds. -/
theorem pageKept_step_iff (h : WellFormed s.page) :
    PageKept s command (step s command) ↔ PageGuard s command := by
  cases command with
  | refresh answer => exact (pageKept_of_shownBefore h rfl).trans (wellFormed_refresh_iff h)
  | remove _ | completeTaskFromNotification _ | patchInvitation _ =>
    exact (pageKept_of_shownBefore h rfl).trans (iff_of_true (wellFormed_removed h) trivial)
  | markAsRead id patched now =>
    refine (pageKept_of_shownBefore h rfl).trans (iff_of_true ?_ trivial)
    cases patched with
    | false => exact h
    | true =>
      have hsame : WellFormed (step s (.markAsRead id true now)).page ↔ WellFormed s.page :=
        wellFormed_congr rfl (markRead_ids s.page.content)
      exact hsame.mpr h
  | loadAndSelect id answer refreshed now => exact pageKept_loadAndSelect_iff h
  | deleteAll patched refreshed =>
    cases patched with
    | false =>
      refine iff_of_true ⟨⟨?_, wellFormed_clearContent⟩, counted_removal h⟩ fun hfalse => ?_
      · intro page hpage
        rw [List.mem_singleton.mp hpage]
        exact wellFormed_clearContent
      · cases hfalse
    | true =>
      have hcleared : WellFormed (clearContent s).page := wellFormed_clearContent
      have hafter : WellFormed (refreshNotifications (clearContent s) refreshed).page ↔
          ∀ page ∈ refreshed, WellFormed page := wellFormed_refresh_iff hcleared
      constructor
      · rintro ⟨⟨-, hfinal⟩, -⟩ -
        exact hafter.mp hfinal
      · intro hguard
        refine ⟨⟨?_, hafter.mpr (hguard rfl)⟩, counted_removal h⟩
        intro page hpage
        rw [List.mem_singleton.mp hpage]
        exact wellFormed_clearContent
  | refill answer =>
    refine (pageKept_of_shownBefore h rfl).trans ?_
    simp only [step, maybeRefillCurrentPage, PageGuard]
    split
    · next hrefill =>
      simp only [hrefill, forall_const]
      exact wellFormed_refresh_iff h
    · next hrefill => exact iff_of_true h fun hneeded => absurd hneeded hrefill
  | enterSection _ | turnPage _ =>
    exact (pageKept_of_shownBefore h rfl).trans (iff_of_true h trivial)

end Steps

/-- From an empty page, a run of commands keeps the page well formed, and its removals counted,
exactly when each command meets its guard. Removals never break anything: only an answer of the
server or a deep link can. -/
theorem pageKept_iff (commands : List Command) :
    Along (fun s command => some (step s command)) PageKept initial commands ↔
      Along (fun s command => some (step s command)) (fun s command _ => PageGuard s command)
        initial commands := by
  have hinitial : WellFormed initial.page := ⟨Nat.zero_le _, List.nodup_nil⟩
  refine along_iff_of_kept (G := fun s => WellFormed s.page) ?_ ?_ hinitial
  · rintro s command t - - ⟨⟨-, ht⟩, -⟩
    exact ht
  · intro s command t h hstep
    obtain rfl := Option.some.inj hstep
    exact pageKept_step_iff h

def unsubscribedNotification : NotificationWithTask :=
  { id := ⟨1⟩, title := "Release", status := .unsubscribed, createdAt := 0, updatedAt := 0,
    lastReadAt := none, snoozedUntil := none, userId := ⟨1⟩, task := none, kind := .linear,
    sourceItem :=
      { id := ⟨1⟩, sourceId := "notification", data := .linearNotification "", createdAt := 0,
        updatedAt := 0, userId := ⟨1⟩, integrationConnectionId := ⟨1⟩, sourceItem := none } }

/-- The link of a notification the user has unsubscribed from, opened on an empty inbox; then the
notification is deleted. -/
def openedLink : List Command :=
  [.refresh (some ⟨25, 0, 0, none, none, []⟩),
    .loadAndSelect ⟨1⟩ (some ⟨unsubscribedNotification, rfl⟩) none 0, .remove ⟨1⟩]

theorem openedLink_underflows :
    ¬ Along (fun s command => some (step s command)) PageKept initial openedLink ∧
      (exec (fun s command => some (step s command)) initial openedLink).map (·.page.total) =
        some usizeMax := by
  decide

section Listing
variable {db : Database} {pageSize : Nat} {f : Filters} {token : Option PageToken}
variable {snap : Snapshot db} {page : Page NotificationWithTask}

theorem orderByUpdatedAt_perm (descending : Bool) (l : List NotificationWithTask) :
    (orderByUpdatedAt descending l).Perm l := by
  unfold orderByUpdatedAt
  cases descending <;> exact List.perm_insertionSort _ _

/-- What a call lists is some of the notifications it reads, each of them once. -/
theorem content_subperm (h : fetchAllNotifications db pageSize f token snap = .ok page) :
    page.content.Subperm
      ((snap.scan.filter (addFilters f snap.listNow token)).filterMap db.joinNotification) := by
  unfold fetchAllNotifications at h
  simp only at h
  split at h
  · cases h
  · cases h
    have hrecords (l : List NotificationWithTask) (offset : Nat) :
        (((orderByUpdatedAt (descending f.orderBy (isBefore token)) l).drop offset).take
          pageSize).Subperm l :=
      ((List.take_sublist _ _).trans (List.drop_sublist _ _)).subperm.trans
        (orderByUpdatedAt_perm _ l).subperm
    split
    · exact (List.reverse_perm _).subperm.trans (hrecords _ _)
    · exact hrecords _ _

/-- A listing that reads one clock answers with a well-formed page. -/
theorem wellFormed_of_fetchAllNotifications (hclock : snap.listNow = snap.countNow)
    (h : fetchAllNotifications db pageSize f token snap = .ok page) : WellFormed page := by
  have hsub := content_subperm h
  have hrows : ∀ row ∈ snap.scan.filter (addFilters f snap.listNow token),
      row ∈ db.notifications.rows := fun row hrow =>
    snap.scan_perm.mem_iff.mp (List.mem_filter.mp hrow).1
  have hids := filterMap_joinNotification_ids _ hrows
  constructor
  · have htotal : page.total = (snap.scan.filter (addFilters f snap.countNow none)).length := by
      unfold fetchAllNotifications at h
      simp only at h
      split at h
      · cases h
      · cases h
        rfl
    have hlength := congrArg List.length hids
    rw [List.length_map, List.length_map] at hlength
    rw [htotal]
    refine le_trans hsub.length_le (le_trans (le_of_eq hlength) ?_)
    rw [hclock]
    refine (List.monotone_filter_right _ ?_).length_le
    intro row hrow
    rw [addFilters_token, Bool.and_eq_true] at hrow
    exact hrow.1
  · have hnodup : ((snap.scan.filter (addFilters f snap.listNow token)).map (·.id)).Nodup := by
      refine List.Nodup.sublist (List.filter_sublist.map _) ?_
      exact (snap.scan_perm.map (·.id)).nodup_iff.mpr db.notifications.nodup
    rw [← hids] at hnodup
    obtain ⟨records, hperm, hsublist⟩ := hsub
    exact (hperm.map (·.id)).nodup_iff.mp (hnodup.sublist (hsublist.map (·.id)))

end Listing

end UniversalInbox.NotificationsPage
