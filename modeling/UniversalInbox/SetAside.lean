import UniversalInbox.ConnectionStatus
import UniversalInbox.NotificationUpsert

/-! Setting notifications aside. A muted or disconnected connection takes its notifications out
of the inbox in the transaction that mutes or disconnects it; a sync that completes brings them
back. A sync is three transactions, and reads the connection before it writes notifications. -/
namespace UniversalInbox.SetAside
open Transition ConnectionStatus NotificationUpsert ReadCommitted

def notificationSourceKind : IntegrationConnectionConfig → Option NotificationSourceKind
  | .googleCalendar => some .googleCalendar
  | .googleDrive _ => some .googleDrive
  | .googleMail _ => some .googleMail
  | .todoist => some .todoist
  | .linear _ => some .linear
  | .github _ => some .github
  | .notion => none
  | .slack _ => some .slack
  | .tickTick => some .tickTick
  | .api => some .api

theorem notificationSourceKind_congr {config config' : IntegrationConnectionConfig}
    (h : config.kind = config'.kind) :
    notificationSourceKind config = notificationSourceKind config' := by
  cases config <;> cases config' <;> first | rfl | cases h

theorem kind_eq_of_notificationSourceKind {config config' : IntegrationConnectionConfig}
    {kind : NotificationSourceKind} (h : notificationSourceKind config = some kind)
    (h' : notificationSourceKind config' = some kind) : config.kind = config'.kind := by
  rw [← h'] at h
  cases config <;> cases config' <;> first | rfl | cases h

/-- Both directions of the reconciliation: hiding touches only visible notifications, restoring
only those set aside. -/
def updateSetAsideAt (rows : List NotificationRow) (kind : NotificationSourceKind) (userId : UserId)
    (setAsideAt : Option DateTime) : List NotificationRow :=
  rows.map fun row =>
    if row.kind == kind && row.userId == userId && row.setAsideAt.isNone == setAsideAt.isSome then
      { row with setAsideAt }
    else row

def reconcileSetAsideNotifications (rows : List NotificationRow)
    (connection : IntegrationConnectionRow) (now : DateTime) : List NotificationRow :=
  if connection.shouldSetAsideNotifications then
    match notificationSourceKind connection.config with
    | none => rows
    | some kind => updateSetAsideAt rows kind connection.userId (some now)
  else rows

/-- What `restore_set_aside_notifications` restores, from the connection as it was read. -/
def restorableKind (connection : IntegrationConnectionRow) : Option NotificationSourceKind :=
  if connection.shouldSetAsideNotifications then none
  else notificationSourceKind connection.config

def setConfig (config : IntegrationConnectionConfig) (row : IntegrationConnectionRow) :
    IntegrationConnectionRow := { row with config }

theorem setConfig_id (config : IntegrationConnectionConfig) (row : IntegrationConnectionRow) :
    (setConfig config row).id = row.id := rfl

/-- Where a sync is: it has claimed its start; its sync transaction is open and has read the
access tokens of the connections behind `kinds`; that transaction is over; its status
transaction is open and has read what to restore. -/
inductive SyncPhase where
  | claimed
  | fetching (kinds : List NotificationSourceKind)
  | upserted (succeeded : Bool)
  | recording (kinds : List NotificationSourceKind)
deriving DecidableEq, Repr

def SyncPhase.fetchedKinds : SyncPhase → List NotificationSourceKind
  | .fetching kinds => kinds
  | _ => []

def SyncPhase.isRecording : SyncPhase → Bool
  | .recording _ => true
  | _ => false

structure SyncInFlight where
  sync : RunningSync
  phase : SyncPhase
deriving DecidableEq, Repr

structure State where
  connections : IntegrationConnectionTable
  notifications : List NotificationRow
  syncs : List SyncInFlight

/-- The transactions of users and the steps of syncs. A sync may stop at any point, without
claiming its start, or with its transaction rolled back. `invalidate` is any system step that
finds the credentials unusable. -/
inductive Input where
  | create (row : IntegrationConnectionRow)
  | updateConfig (id : IntegrationConnectionId) (userId : UserId)
      (config : IntegrationConnectionConfig) (now : DateTime)
  | disconnect (id : IntegrationConnectionId) (userId : UserId) (now : DateTime)
  | connect (id : IntegrationConnectionId) (userId : UserId) (scopes : List String)
  | invalidate (id : IntegrationConnectionId) (userId : UserId) (message : String)
  | claim (sync : RunningSync)
  | fetch (sync : SyncInFlight)
  | readCalendarToken (sync : SyncInFlight)
  | upsert (sync : SyncInFlight) (calls : List Call) (succeeded : Bool)
  | record (sync : SyncInFlight) (message : String) (now utcNow : DateTime)
  | finish (sync : SyncInFlight)
  | stop (sync : SyncInFlight)

/-- The `UPDATE` of a status transaction locks the connection until it commits. -/
def locked (s : State) (row : IntegrationConnectionRow) : Bool :=
  s.syncs.any fun x => x.phase.isRecording &&
    selectsConnection (some x.sync.userId) (some x.sync.providerKind) row

/-- `get_integration_connection_per_provider`. -/
def connectionOf (s : State) (userId : UserId) (providerKind : IntegrationProviderKind) :
    Option IntegrationConnectionRow :=
  s.connections.rows.find? (selectsConnection (some userId) (some providerKind))

/-- `find_access_token`: only a validated connection has a usable token. -/
def tokenOf (s : State) (userId : UserId) (providerKind : IntegrationProviderKind) :
    Option IntegrationConnectionRow :=
  (connectionOf s userId providerKind).filter (·.isConnected)

/-- Of the tasks syncs, those of Todoist and TickTick make notifications as a byproduct. -/
def feedsNotifications (type : IntegrationConnectionSyncType) (config : IntegrationConnectionConfig) :
    Bool :=
  match type with
  | .notifications => true
  | .tasks => config.areNotificationsReconciledByTasksSync

/-- What a completed sync restores; Google Calendar notifications are made by the Google Mail
sync, so it restores them too. -/
def restoredKinds (s : State) (sync : RunningSync) : List NotificationSourceKind :=
  (((connectionOf s sync.userId sync.providerKind).filter
      (feedsNotifications sync.type ·.config)).bind restorableKind).toList ++
    if sync.type = .notifications ∧ sync.providerKind = .googleMail then
      ((connectionOf s sync.userId .googleCalendar).bind restorableKind).toList
    else []

def advance (s : State) (x : SyncInFlight) (phase : SyncPhase) : State :=
  { s with syncs := ⟨x.sync, phase⟩ :: s.syncs.erase x }

def applyCalls (rows : List NotificationRow) (calls : List Call) : List NotificationRow :=
  (calls.filterMap fun call => (createOrUpdateNotification call.existing call.request).1).foldl
    Write.apply rows

def step (windowInHours : Int) (s : State) : Input → Option State
  | .create row =>
    if IsNew row ∧ row.config.kind = row.providerKind ∧ (s.connections.rows.all fun r =>
        !(r.userId == row.userId && r.providerKind == row.providerKind)) then
      (s.connections.insert? row).map fun connections => { s with connections }
    else none
  | .updateConfig id userId config now =>
    (s.connections.find? id).bind fun row =>
      -- muting and unmuting: the configuration stays one of the provider's
      if row.userId = userId ∧ config.kind = row.config.kind then
        some { s with
          connections := s.connections.update (ownedBy id userId) (setConfig config)
            (setConfig_id config)
          notifications := reconcileSetAsideNotifications s.notifications (setConfig config row) now }
      else none
  | .disconnect id userId now =>
    (s.connections.find? id).bind fun row =>
      if row.userId = userId ∧ !locked s row then
        some { s with
          connections := updateIntegrationConnectionStatus s.connections id .created none none userId
          notifications := reconcileSetAsideNotifications s.notifications
            (setStatus .created none none row) now }
      else none
  | .connect id userId scopes =>
    if (s.connections.find? id).any fun row =>
        row.userId == userId && row.status == .created && !locked s row then
      some { s with
        connections :=
          updateIntegrationConnectionStatus s.connections id .validated none (some scopes) userId }
    else none
  | .invalidate id userId message =>
    if (s.connections.find? id).any fun row => !locked s row then
      some { s with
        connections :=
          updateIntegrationConnectionStatus s.connections id .failing (some message) none userId }
    else none
  | .claim sync =>
    if (tokenOf s sync.userId sync.providerKind).any fun row =>
        sync.type == .tasks || row.config.isSyncNotificationsEnabled then
      some { s with syncs := ⟨sync, .claimed⟩ :: s.syncs }
    else none
  | .fetch x =>
    if x ∈ s.syncs ∧ x.phase = .claimed then
      match tokenOf s x.sync.userId x.sync.providerKind with
      | none => some (advance s x (.upserted false))
      | some row =>
        some (advance s x (.fetching
          (if feedsNotifications x.sync.type row.config then
            (notificationSourceKind row.config).toList
          else [])))
    else none
  | .readCalendarToken x =>
    if x ∈ s.syncs ∧ x.sync.type = .notifications ∧ x.sync.providerKind = .googleMail then
      match x.phase, tokenOf s x.sync.userId .googleCalendar with
      | .fetching kinds, some row =>
        some (advance s x (.fetching (kinds ++ (notificationSourceKind row.config).toList)))
      | _, _ => none
    else none
  | .upsert x calls succeeded =>
    if x ∈ s.syncs ∧ ∀ call ∈ calls, call.request.kind ∈ x.phase.fetchedKinds ∧
        call.request.notification.userId = x.sync.userId then
      match x.phase with
      | .fetching _ =>
        some (advance { s with notifications := applyCalls s.notifications calls } x
          (.upserted succeeded))
      | _ => none
    else none
  | .record x message now utcNow =>
    if x ∈ s.syncs ∧ (connectionOf s x.sync.userId x.sync.providerKind).all (!locked s ·) then
      match x.phase with
      | .upserted false =>
        some { s with
          connections := updateIntegrationConnectionSyncStatus s.connections (some x.sync.userId)
            (some x.sync.providerKind) (.failed x.sync.type message) windowInHours now utcNow
          syncs := s.syncs.erase x }
      | .upserted true =>
        let s' := { s with
          connections := updateIntegrationConnectionSyncStatus s.connections (some x.sync.userId)
            (some x.sync.providerKind) (.completed x.sync.type) windowInHours now utcNow }
        some (advance s' x (.recording (restoredKinds s' x.sync)))
      | _ => none
    else none
  | .finish x =>
    if x ∈ s.syncs then
      match x.phase with
      | .recording kinds =>
        some { s with
          notifications :=
            kinds.foldl (updateSetAsideAt · · x.sync.userId none) s.notifications
          syncs := s.syncs.erase x }
      | _ => none
    else none
  | .stop x => if x ∈ s.syncs then some { s with syncs := s.syncs.erase x } else none

def initial : State := ⟨Table.empty, [], []⟩

/-- The connection of the user for the kind, if any, has not stopped feeding the inbox. -/
def Feeds (s : State) (kind : NotificationSourceKind) (userId : UserId) : Prop :=
  ∀ row ∈ s.connections.rows, row.userId = userId → notificationSourceKind row.config = some kind →
    row.shouldSetAsideNotifications = false

instance (s : State) (kind : NotificationSourceKind) (userId : UserId) :
    Decidable (Feeds s kind userId) := inferInstanceAs (Decidable (∀ _ ∈ _, _))

def VisibleFeeds (s : State) : Prop :=
  ∀ row ∈ s.notifications, row.setAsideAt = none → Feeds s row.kind row.userId

/-- With no sync in flight, only the notifications of a feeding connection are visible. -/
def SetAsideSafe (s : State) : Prop := s.syncs = [] → VisibleFeeds s

instance (s : State) : Decidable (SetAsideSafe s) :=
  inferInstanceAs (Decidable (_ → ∀ _ ∈ _, _))

/-- A sync commits a new notification, or what it restores, while the connection behind it has
not stopped feeding the inbox since the sync read it. -/
def SyncGuard (s : State) : Input → Prop
  | .upsert x calls _ => ∀ call ∈ calls, call.existing = none →
      Feeds s call.request.kind x.sync.userId
  | .finish x =>
    match x.phase with
    | .recording kinds => ∀ kind ∈ kinds, Feeds s kind x.sync.userId
    | _ => True
  | _ => True

instance (s : State) : ∀ i, Decidable (SyncGuard s i)
  | .upsert _ _ _ => inferInstanceAs (Decidable (∀ _ ∈ _, _))
  | .finish ⟨_, .recording _⟩ => inferInstanceAs (Decidable (∀ _ ∈ _, _))
  | .finish ⟨_, .claimed⟩ | .finish ⟨_, .fetching _⟩ | .finish ⟨_, .upserted _⟩ => .isTrue trivial
  | .create _ | .updateConfig _ _ _ _ | .disconnect _ _ _ | .connect _ _ _ | .invalidate _ _ _
  | .claim _ | .fetch _ | .readCalendarToken _ | .record _ _ _ _ | .stop _ => .isTrue trivial

/-- The user has a connection for the kind. -/
def Connected (s : State) (kind : NotificationSourceKind) (userId : UserId) : Prop :=
  ∃ row ∈ s.connections.rows, row.userId = userId ∧ notificationSourceKind row.config = some kind

structure Inv (s : State) : Prop where
  visible : VisibleFeeds s
  connected : ∀ row ∈ s.notifications, Connected s row.kind row.userId
  fetched : ∀ x ∈ s.syncs, ∀ kind ∈ x.phase.fetchedKinds, Connected s kind x.sync.userId
  provider : ∀ row ∈ s.connections.rows, row.config.kind = row.providerKind

section Rows
variable {rows : List NotificationRow} {row : NotificationRow} {kind : NotificationSourceKind}
  {userId : UserId}

/-- Setting aside hides every notification of the kind and user, and shows none. -/
theorem mem_setAside {now : DateTime}
    (h : row ∈ updateSetAsideAt rows kind userId (some now)) :
    ∃ old ∈ rows, row.kind = old.kind ∧ row.userId = old.userId ∧
      (row.setAsideAt = none → old.setAsideAt = none ∧ ¬ (row.kind = kind ∧ row.userId = userId)) := by
  obtain ⟨old, hold, rfl⟩ := List.mem_map.mp h
  refine ⟨old, hold, ?_⟩
  by_cases hp : (old.kind == kind && old.userId == userId &&
      old.setAsideAt.isNone == (some now).isSome) = true
  · rw [if_pos hp]
    exact ⟨rfl, rfl, fun hnone => nomatch hnone⟩
  · rw [if_neg hp]
    refine ⟨rfl, rfl, fun hnone => ⟨hnone, fun ⟨hkind, huser⟩ => hp ?_⟩⟩
    simp [hkind, huser, hnone]

/-- Restoring shows only notifications of the kind and user. -/
theorem mem_restore (h : row ∈ updateSetAsideAt rows kind userId none) :
    ∃ old ∈ rows, row.kind = old.kind ∧ row.userId = old.userId ∧
      (old.setAsideAt = none ∨ row.setAsideAt = old.setAsideAt ∨
        (row.kind = kind ∧ row.userId = userId)) := by
  obtain ⟨old, hold, rfl⟩ := List.mem_map.mp h
  refine ⟨old, hold, ?_⟩
  split
  · next hp =>
    simp only [Bool.and_eq_true, beq_iff_eq] at hp
    exact ⟨rfl, rfl, .inr (.inr hp.1)⟩
  · exact ⟨rfl, rfl, .inr (.inl rfl)⟩

theorem mem_foldl_restore {kinds : List NotificationSourceKind}
    (h : row ∈ kinds.foldl (updateSetAsideAt · · userId none) rows) :
    ∃ old ∈ rows, row.kind = old.kind ∧ row.userId = old.userId ∧
      (row.setAsideAt = none → old.setAsideAt = none ∨ (row.kind ∈ kinds ∧ row.userId = userId)) := by
  induction kinds generalizing rows with
  | nil => exact ⟨row, h, rfl, rfl, .inl⟩
  | cons kind rest ih =>
    obtain ⟨mid, hmid, hkind, huser, hvisible⟩ := ih h
    obtain ⟨old, hold, hkind', huser', hvisible'⟩ := mem_restore hmid
    refine ⟨old, hold, hkind.trans hkind', huser.trans huser', fun hnone => ?_⟩
    rcases hvisible hnone with hmidNone | ⟨hin, hu⟩
    · rcases hvisible' with hOld | hsame | ⟨hk, hu⟩
      · exact .inl hOld
      · exact .inl (hsame ▸ hmidNone)
      · exact .inr ⟨List.mem_cons.mpr (.inl (hkind.trans hk)), huser.trans hu⟩
    · exact .inr ⟨List.mem_cons_of_mem _ hin, hu⟩

theorem mem_reconcile {connection : IntegrationConnectionRow} {now : DateTime}
    (h : row ∈ reconcileSetAsideNotifications rows connection now) :
    ∃ old ∈ rows, row.kind = old.kind ∧ row.userId = old.userId ∧
      (row.setAsideAt = none → old.setAsideAt = none ∧
        (notificationSourceKind connection.config = some row.kind →
          connection.userId = row.userId → connection.shouldSetAsideNotifications = false)) := by
  unfold reconcileSetAsideNotifications at h
  by_cases hshould : connection.shouldSetAsideNotifications = true
  · rw [if_pos hshould] at h
    split at h
    · next hkind =>
      exact ⟨row, h, rfl, rfl, fun hnone => ⟨hnone, fun hsome => by rw [hkind] at hsome; cases hsome⟩⟩
    · next kind hkind =>
      obtain ⟨old, hold, hk, hu, hvisible⟩ := mem_setAside h
      refine ⟨old, hold, hk, hu, fun hnone => ⟨(hvisible hnone).1, fun hsome huser => ?_⟩⟩
      rw [hkind] at hsome
      exact absurd ⟨(Option.some.inj hsome).symm, huser.symm⟩ (hvisible hnone).2
  · rw [if_neg hshould] at h
    exact ⟨row, h, rfl, rfl, fun hnone => ⟨hnone, fun _ _ => Bool.eq_false_iff.mpr hshould⟩⟩

/-- An upsert keeps the mark of the rows it updates; the rows it inserts are of a call that
found none. -/
theorem mem_applyCalls {calls : List Call} (h : row ∈ applyCalls rows calls) :
    (∃ old ∈ rows, row.kind = old.kind ∧ row.userId = old.userId ∧
      row.setAsideAt = old.setAsideAt) ∨
    ∃ call ∈ calls, call.existing = none ∧ row.kind = call.request.kind ∧
      row.userId = call.request.notification.userId := by
  induction calls generalizing rows with
  | nil => exact .inl ⟨row, h, rfl, rfl, rfl⟩
  | cons call rest ih =>
    unfold applyCalls at h
    rw [List.filterMap_cons] at h
    have hcall : ∀ w ∈ (createOrUpdateNotification call.existing call.request).1,
        ∀ r ∈ Write.apply rows w, (∃ old ∈ rows, r.kind = old.kind ∧ r.userId = old.userId ∧
          r.setAsideAt = old.setAsideAt) ∨ call.existing = none ∧ r.kind = call.request.kind ∧
            r.userId = call.request.notification.userId := by
      intro w hw r hr
      unfold createOrUpdateNotification at hw
      split at hw
      · split at hw
        · cases hw
        · cases hw
          obtain ⟨old, hold, rfl⟩ := List.mem_map.mp hr
          refine .inl ⟨old, hold, ?_⟩
          split <;> exact ⟨rfl, rfl, rfl⟩
      · next hnone =>
        cases hw
        rcases List.mem_append.mp hr with hold | hnew
        · exact .inl ⟨r, hold, rfl, rfl, rfl⟩
        · rw [List.mem_singleton.mp hnew]
          exact .inr ⟨hnone, call.request.kind_eq, rfl⟩
    split at h
    · exact (ih h).imp_right fun ⟨c, hc, hrest⟩ => ⟨c, List.mem_cons_of_mem _ hc, hrest⟩
    · next w hw =>
      rw [List.foldl_cons] at h
      rcases ih h with ⟨mid, hmid, hk, hu, hs⟩ | ⟨c, hc, hrest⟩
      · rcases hcall w hw mid hmid with ⟨old, hold, hk', hu', hs'⟩ | ⟨hnone, hk', hu'⟩
        · exact .inl ⟨old, hold, hk.trans hk', hu.trans hu', hs.trans hs'⟩
        · exact .inr ⟨call, List.mem_cons_self, hnone, hk.trans hk', hu.trans hu'⟩
      · exact .inr ⟨c, List.mem_cons_of_mem _ hc, hrest⟩

end Rows

section Run
variable {windowInHours : Int} {s t : State} {row : IntegrationConnectionRow}
  {p : IntegrationConnectionRow → Bool} {f : IntegrationConnectionRow → IntegrationConnectionRow}
  {e : ∀ r, (f r).id = r.id} {kind : NotificationSourceKind} {userId : UserId}

/-- The update leaves owner and provider of a connection alone. -/
def KeepsProvider (f : IntegrationConnectionRow → IntegrationConnectionRow)
    (row : IntegrationConnectionRow) : Prop :=
  (f row).userId = row.userId ∧ (f row).providerKind = row.providerKind ∧
    (f row).config.kind = row.config.kind

theorem connected_update (ht : t.connections = s.connections.update p f e)
    (hkeeps : ∀ r ∈ s.connections.rows, p r = true → KeepsProvider f r)
    (h : Connected s kind userId) : Connected t kind userId := by
  obtain ⟨row, hrow, huser, hkind⟩ := h
  refine ⟨if p row then f row else row, ht ▸ Table.mem_update.mpr ⟨row, hrow, rfl⟩, ?_⟩
  by_cases hp : p row = true
  · obtain ⟨hu, -, hk⟩ := hkeeps row hrow hp
    rw [if_pos hp]
    exact ⟨hu.trans huser, (notificationSourceKind_congr hk).trans hkind⟩
  · rw [if_neg hp]
    exact ⟨huser, hkind⟩

/-- An update of connections that leaves the notifications to `hrows` and `hvisible`. -/
theorem Inv.update (h : Inv s) (ht : t.connections = s.connections.update p f e)
    (hkeeps : ∀ r ∈ s.connections.rows, p r = true → KeepsProvider f r)
    (hsyncs : ∀ x ∈ t.syncs, ∀ kind ∈ x.phase.fetchedKinds, Connected s kind x.sync.userId)
    (hrows : ∀ n ∈ t.notifications, Connected s n.kind n.userId) (hvisible : VisibleFeeds t) :
    Inv t where
  visible := hvisible
  connected n hn := connected_update ht hkeeps (hrows n hn)
  fetched x hx kind hkind := connected_update ht hkeeps (hsyncs x hx kind hkind)
  provider := by
    intro row' hrow'
    rw [ht] at hrow'
    obtain ⟨row, hrow, rfl⟩ := Table.mem_update.mp hrow'
    by_cases hp : p row = true
    · obtain ⟨-, hprovider, hkind⟩ := hkeeps row hrow hp
      rw [if_pos hp, hkind, hprovider]
      exact h.provider row hrow
    · rw [if_neg hp]
      exact h.provider row hrow

/-- A system step: it stops no connection from feeding the inbox. -/
theorem Inv.quiet (h : Inv s) (ht : t.connections = s.connections.update p f e)
    (hkeeps : ∀ r, KeepsProvider f r)
    (hfeeds : ∀ r, (f r).shouldSetAsideNotifications = true → r.shouldSetAsideNotifications = true)
    (hsyncs : ∀ x ∈ t.syncs, ∀ kind ∈ x.phase.fetchedKinds, Connected s kind x.sync.userId)
    (hrows : t.notifications = s.notifications) : Inv t := by
  refine h.update ht (fun r _ _ => hkeeps r) hsyncs (hrows ▸ h.connected) ?_
  intro n hn hnone row' hrow' huser hkind
  rw [hrows] at hn
  rw [ht] at hrow'
  obtain ⟨row, hrow, rfl⟩ := Table.mem_update.mp hrow'
  by_cases hp : p row = true
  · rw [if_pos hp] at huser hkind ⊢
    obtain ⟨hu, -, hk⟩ := hkeeps row
    have hold := h.visible n hn hnone row hrow (hu.symm.trans huser)
      ((notificationSourceKind_congr hk).symm.trans hkind)
    exact Bool.eq_false_iff.mpr fun hnew => Bool.eq_false_iff.mp hold (hfeeds row hnew)
  · rw [if_neg hp] at huser hkind ⊢
    exact h.visible n hn hnone row hrow huser hkind

/-- A user's step: the connection may stop feeding, and is reconciled at once. -/
theorem Inv.reconciled (h : Inv s) {id : IntegrationConnectionId} {now : DateTime}
    (hfind : s.connections.find? id = some row)
    (ht : t.connections = s.connections.update (ownedBy id userId) f e)
    (hkeeps : KeepsProvider f row) (hsyncs : t.syncs = s.syncs)
    (hrows : t.notifications = reconcileSetAsideNotifications s.notifications (f row) now) :
    Inv t := by
  obtain ⟨hrow, rfl⟩ := Table.find?_eq_some.mp hfind
  have honly : ∀ r ∈ s.connections.rows, ownedBy row.id userId r = true → r = row := by
    intro r hr hp
    simp only [ownedBy, Bool.and_eq_true, beq_iff_eq] at hp
    exact Table.eq_of_key hr hrow hp.1
  refine h.update ht (fun r hr hp => honly r hr hp ▸ hkeeps) (hsyncs ▸ h.fetched) ?_ ?_
  · intro n hn
    obtain ⟨old, hold, hkind, huser, -⟩ := mem_reconcile (hrows ▸ hn)
    rw [hkind, huser]
    exact h.connected old hold
  · intro n hn hnone row' hrow' huser hkind
    obtain ⟨old, hold, hkind', huser', hvisible⟩ := mem_reconcile (hrows ▸ hn)
    obtain ⟨holdNone, hnew⟩ := hvisible hnone
    rw [ht] at hrow'
    obtain ⟨r, hr, rfl⟩ := Table.mem_update.mp hrow'
    by_cases hp : ownedBy row.id userId r = true
    · rw [if_pos hp, honly r hr hp] at huser hkind ⊢
      exact hnew hkind huser
    · rw [if_neg hp] at huser hkind ⊢
      exact h.visible old hold holdNone r hr (huser.trans huser') (hkind' ▸ hkind)

/-- A step of a sync that only moves it on. -/
theorem Inv.advance (h : Inv s) {x : SyncInFlight} {phase : SyncPhase}
    (hphase : ∀ kind ∈ phase.fetchedKinds, Connected s kind x.sync.userId) :
    Inv (advance s x phase) where
  visible := h.visible
  connected := h.connected
  fetched := by
    intro y hy
    rcases List.mem_cons.mp hy with rfl | hold
    · exact hphase
    · exact h.fetched y (List.mem_of_mem_erase hold)
  provider := h.provider

theorem fetched_erase (h : Inv s) {x : SyncInFlight} : ∀ y ∈ s.syncs.erase x,
    ∀ kind ∈ y.phase.fetchedKinds, Connected s kind y.sync.userId :=
  fun y hy => h.fetched y (List.mem_of_mem_erase hy)

theorem connected_of_tokenOf {providerKind : IntegrationProviderKind}
    (h : tokenOf s userId providerKind = some row) :
    ∀ kind ∈ (notificationSourceKind row.config).toList, Connected s kind userId := by
  intro kind hkind
  obtain ⟨hfind, -⟩ := Option.filter_eq_some_iff.mp h
  have hselects := List.find?_some hfind
  simp only [selectsConnection, Option.all_some, Bool.and_eq_true, beq_iff_eq] at hselects
  exact ⟨row, List.mem_of_find?_eq_some hfind, hselects.2, Option.mem_toList.mp hkind⟩

theorem setStatus_feeds {status : IntegrationConnectionStatus} (hstatus : status ≠ .created)
    {message : Option String} {scopes : Option (List String)} :
    (setStatus status message scopes row).shouldSetAsideNotifications = true →
      row.shouldSetAsideNotifications = true := by
  unfold IntegrationConnectionRow.shouldSetAsideNotifications setStatus
  cases status <;> simp_all

theorem setSyncStatus_config {now utcNow : DateTime}
    {update : IntegrationConnectionSyncStatusUpdate} :
    (setSyncStatus windowInHours now utcNow row update).config = row.config ∧
      KeepsProvider (setSyncStatus windowInHours now utcNow · update) row := by
  cases update with
  | scheduled type => cases type <;> exact ⟨rfl, rfl, rfl, rfl⟩
  | completed type => cases type <;> exact ⟨rfl, rfl, rfl, rfl⟩
  | failed type message => cases type <;> exact ⟨rfl, rfl, rfl, rfl⟩

/-- A sync outcome at most moves a connection to `Failing`. -/
theorem setSyncStatus_feeds {now utcNow : DateTime}
    {update : IntegrationConnectionSyncStatusUpdate} :
    (setSyncStatus windowInHours now utcNow row update).shouldSetAsideNotifications = true →
      row.shouldSetAsideNotifications = true := by
  have hstatus : (setSyncStatus windowInHours now utcNow row update).status = row.status ∨
      (setSyncStatus windowInHours now utcNow row update).status = .failing := by
    cases update with
    | scheduled type => exact .inl IntegrationConnectionRow.setSync_status
    | completed type => exact .inl IntegrationConnectionRow.setSync_status
    | failed type message =>
      simp only [setSyncStatus]
      split
      · exact .inr rfl
      · exact .inl rfl
  unfold IntegrationConnectionRow.shouldSetAsideNotifications
  rw [setSyncStatus_config.1]
  rcases hstatus with h | h <;> simp +contextual [h]

/-- A user has one connection per provider, so a new one finds no notification of its kind. -/
theorem Inv.created (h : Inv s) (hprovider : row.config.kind = row.providerKind)
    (hunique : ∀ r ∈ s.connections.rows, r.userId = row.userId → r.providerKind ≠ row.providerKind)
    (hrows : t.connections.rows = s.connections.rows ++ [row])
    (hnotifications : t.notifications = s.notifications) (hsyncs : t.syncs = s.syncs) : Inv t := by
  have hforth : ∀ {kind : NotificationSourceKind} {userId : UserId}, Connected s kind userId →
      Connected t kind userId := fun ⟨r, hr, h⟩ => ⟨r, hrows ▸ List.mem_append_left _ hr, h⟩
  constructor
  · intro n hn hnone row' hrow' huser hkind
    rw [hnotifications] at hn
    rcases List.mem_append.mp (hrows ▸ hrow') with hold | hnew
    · exact h.visible n hn hnone row' hold huser hkind
    · rw [List.mem_singleton.mp hnew] at huser hkind
      obtain ⟨r, hr, hru, hrk⟩ := h.connected n hn
      have hsame := kind_eq_of_notificationSourceKind hrk hkind
      rw [h.provider r hr, hprovider] at hsame
      exact absurd hsame (hunique r hr (hru.trans huser.symm))
  · exact fun n hn => hforth (h.connected n (hnotifications ▸ hn))
  · exact fun x hx kind hkind => hforth (h.fetched x (hsyncs ▸ hx) kind hkind)
  · intro row' hrow'
    rcases List.mem_append.mp (hrows ▸ hrow') with hold | hnew
    · exact h.provider row' hold
    · rw [List.mem_singleton.mp hnew]
      exact hprovider

/-- Notifications that differ from those of `s` only in being hidden, or in kinds that feed. -/
theorem Inv.rewritten (h : Inv s) {rows : List NotificationRow}
    (hrows : ∀ n ∈ rows, Connected s n.kind n.userId ∧ (n.setAsideAt = none →
      (∃ old ∈ s.notifications, old.kind = n.kind ∧ old.userId = n.userId ∧
        old.setAsideAt = none) ∨ Feeds s n.kind n.userId)) :
    Inv { s with notifications := rows } where
  visible := by
    intro n hn hnone
    rcases (hrows n hn).2 hnone with ⟨old, hold, hkind, huser, holdNone⟩ | hfeeds
    · exact hkind ▸ huser ▸ h.visible old hold holdNone
    · exact hfeeds
  connected n hn := (hrows n hn).1
  fetched := h.fetched
  provider := h.provider

theorem inv_create (h : Inv s) (hstep : step windowInHours s (.create row) = some t) : Inv t := by
  obtain ⟨⟨-, hprovider, hunique⟩, hinsert⟩ := Option.ite_none_right_eq_some.mp hstep
  obtain ⟨connections, hinserted, rfl⟩ := Option.map_eq_some_iff.mp hinsert
  refine h.created hprovider ?_ (Table.insert?_eq_some.mp hinserted).2 rfl rfl
  intro r hr huser hkind
  simpa [huser, hkind] using List.all_eq_true.mp hunique r hr

/-- The kinds a sync has fetched after reading the connections: that of its token, if any. -/
theorem inv_fetch {x : SyncInFlight} (h : Inv s)
    (hstep : step windowInHours s (.fetch x) = some t) : Inv t := by
  obtain ⟨-, hthen⟩ := Option.ite_none_right_eq_some.mp hstep
  split at hthen
  · cases hthen
    exact h.advance fun _ hkind => (List.not_mem_nil hkind).elim
  · next row htoken =>
    cases hthen
    apply h.advance
    intro kind hkind
    simp only [SyncPhase.fetchedKinds] at hkind
    split at hkind
    · exact connected_of_tokenOf htoken kind hkind
    · exact (List.not_mem_nil hkind).elim

theorem inv_readCalendarToken {x : SyncInFlight} (h : Inv s)
    (hstep : step windowInHours s (.readCalendarToken x) = some t) : Inv t := by
  obtain ⟨⟨hx, -⟩, hthen⟩ := Option.ite_none_right_eq_some.mp hstep
  split at hthen
  · next kinds row hphase htoken =>
    cases hthen
    apply h.advance
    intro kind hkind
    rcases List.mem_append.mp hkind with hold | hnew
    · exact h.fetched x hx kind (by rw [hphase]; exact hold)
    · exact connected_of_tokenOf htoken kind hnew
  · cases hthen

/-- The upsert shows only what it inserts, and it inserts for a connection that feeds. -/
theorem inv_upsert {x : SyncInFlight} {calls : List Call} {succeeded : Bool} (h : Inv s)
    (hstep : step windowInHours s (.upsert x calls succeeded) = some t)
    (hguard : ∀ call ∈ calls, call.existing = none → Feeds s call.request.kind x.sync.userId) :
    Inv t := by
  obtain ⟨⟨hx, hcalls⟩, hthen⟩ := Option.ite_none_right_eq_some.mp hstep
  split at hthen
  · cases hthen
    have hwritten : Inv { s with notifications := applyCalls s.notifications calls } := by
      apply h.rewritten
      intro n hn
      rcases mem_applyCalls hn with ⟨old, hold, hk, hu, hs⟩ | ⟨call, hcall, hnone, hk, hu⟩
      · rw [hk, hu, hs]
        exact ⟨h.connected old hold, fun hnone => .inl ⟨old, hold, rfl, rfl, hnone⟩⟩
      · obtain ⟨hkind, huser⟩ := hcalls call hcall
        rw [hk, hu, huser]
        exact ⟨h.fetched x hx _ hkind, fun _ => .inr (hguard call hcall hnone)⟩
    exact hwritten.advance fun _ hkind => (List.not_mem_nil hkind).elim
  · cases hthen

theorem inv_record {x : SyncInFlight} {message : String} {now utcNow : DateTime} (h : Inv s)
    (hstep : step windowInHours s (.record x message now utcNow) = some t) : Inv t := by
  obtain ⟨-, hthen⟩ := Option.ite_none_right_eq_some.mp hstep
  split at hthen
  · cases hthen
    exact h.quiet (e := setSyncStatus_id _ _ _ _) rfl (fun _ => setSyncStatus_config.2)
      (fun _ => setSyncStatus_feeds) (fetched_erase h) rfl
  · cases hthen
    refine Inv.advance ?_ fun _ hkind => (List.not_mem_nil hkind).elim
    exact h.quiet (e := setSyncStatus_id _ _ _ _) rfl (fun _ => setSyncStatus_config.2)
      (fun _ => setSyncStatus_feeds) h.fetched rfl
  · cases hthen

/-- The end of a sync shows what it restores, of kinds that feed. -/
theorem inv_finish {x : SyncInFlight} (h : Inv s)
    (hstep : step windowInHours s (.finish x) = some t) (hguard : SyncGuard s (.finish x)) :
    Inv t := by
  obtain ⟨-, hthen⟩ := Option.ite_none_right_eq_some.mp hstep
  split at hthen
  · next kinds hphase =>
    cases hthen
    simp only [SyncGuard, hphase] at hguard
    have hrestored : Inv { s with
        notifications := kinds.foldl (updateSetAsideAt · · x.sync.userId none) s.notifications } := by
      apply h.rewritten
      intro n hn
      obtain ⟨old, hold, hk, hu, hvisible⟩ := mem_foldl_restore hn
      refine ⟨hk ▸ hu ▸ h.connected old hold, fun hnone => ?_⟩
      rcases hvisible hnone with holdNone | ⟨hkind, huser⟩
      · exact .inl ⟨old, hold, hk.symm, hu.symm, holdNone⟩
      · exact .inr (huser ▸ hguard n.kind hkind)
    exact ⟨hrestored.visible, hrestored.connected, fetched_erase hrestored, hrestored.provider⟩
  · cases hthen

theorem inv_step {i : Input} (h : Inv s) (hstep : step windowInHours s i = some t)
    (hguard : SyncGuard s i) : Inv t := by
  cases i with
  | create row => exact inv_create h hstep
  | updateConfig id userId config now =>
    obtain ⟨row, hfind, hthen⟩ := Option.bind_eq_some_iff.mp hstep
    simp only [Option.ite_none_right_eq_some, Option.some.injEq] at hthen
    obtain ⟨⟨-, hkind⟩, rfl⟩ := hthen
    exact h.reconciled (e := setConfig_id config) hfind rfl ⟨rfl, rfl, hkind⟩ rfl rfl
  | disconnect id userId now =>
    obtain ⟨row, hfind, hthen⟩ := Option.bind_eq_some_iff.mp hstep
    simp only [Option.ite_none_right_eq_some, Option.some.injEq] at hthen
    obtain ⟨-, rfl⟩ := hthen
    exact h.reconciled (e := setStatus_id _ _ _) hfind rfl ⟨rfl, rfl, rfl⟩ rfl rfl
  | connect id userId scopes =>
    obtain ⟨-, hsome⟩ := Option.ite_none_right_eq_some.mp hstep
    cases hsome
    exact h.quiet (e := setStatus_id _ _ _) rfl (fun _ => ⟨rfl, rfl, rfl⟩)
      (fun _ => setStatus_feeds (by decide)) h.fetched rfl
  | invalidate id userId message =>
    obtain ⟨-, hsome⟩ := Option.ite_none_right_eq_some.mp hstep
    cases hsome
    exact h.quiet (e := setStatus_id _ _ _) rfl (fun _ => ⟨rfl, rfl, rfl⟩)
      (fun _ => setStatus_feeds (by decide)) h.fetched rfl
  | claim sync =>
    obtain ⟨-, hsome⟩ := Option.ite_none_right_eq_some.mp hstep
    cases hsome
    refine ⟨h.visible, h.connected, ?_, h.provider⟩
    intro x hx
    rcases List.mem_cons.mp hx with rfl | hold
    · exact fun _ hkind => (List.not_mem_nil hkind).elim
    · exact h.fetched x hold
  | fetch x => exact inv_fetch h hstep
  | readCalendarToken x => exact inv_readCalendarToken h hstep
  | upsert x calls succeeded => exact inv_upsert h hstep hguard
  | record x message now utcNow => exact inv_record h hstep
  | finish x => exact inv_finish h hstep hguard
  | stop x =>
    obtain ⟨-, hsome⟩ := Option.ite_none_right_eq_some.mp hstep
    cases hsome
    exact ⟨h.visible, h.connected, fetched_erase h, h.provider⟩

end Run

/-- A sync of the GitHub notifications of a user, with `between` committed after it has read
its connection and `after` once it is over. -/
def githubSyncRun (between after : List Input) : List Input :=
  [.create githubConnection, .connect ⟨1⟩ ⟨1⟩ [], .claim githubSync, .fetch ⟨githubSync, .claimed⟩] ++
    between ++
    [.upsert ⟨githubSync, .fetching [.github]⟩ [⟨githubRequest 1 "a", none⟩] true,
      .record ⟨githubSync, .upserted true⟩ "" 0 0] ++ after

def muteGithub : Input := .updateConfig ⟨1⟩ ⟨1⟩ (.github false) 0

end UniversalInbox.SetAside
