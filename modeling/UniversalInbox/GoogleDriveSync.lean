import UniversalInbox.GoogleDrive
import UniversalInbox.Library.Table
import UniversalInbox.Library.Transition

/-! Incremental syncs of Google Drive. The files are listed first, from the instant at which the
last sync completed; their comments are read one file after the other; each comment is compared
with the item stored for it, in its turn; what is kept is written in one transaction, and the
instant of completion is recorded in another. The provider and the inbox share one clock, and no
two things happen at one instant. -/
namespace UniversalInbox.GoogleDriveSync
open GoogleDrive Transition

structure GoogleDriveFile where
  id : String
  name : String
  modifiedTime : DateTime
  mimeType : String
deriving DecidableEq, Repr

/-- What the provider has. -/
structure Drive where
  files : Table GoogleDriveFile.id
  comments : Table GoogleDriveComment.sourceId
  known : ∀ c ∈ comments.rows, (files.find? c.fileId).isSome

/-- The item stored for a comment, and the status of its notification if it has one. -/
structure DriveRow where
  comment : GoogleDriveComment
  updatedAt : DateTime
  status : Option NotificationStatus
deriving DecidableEq, Repr

def DriveRow.sourceId (row : DriveRow) : String := row.comment.sourceId

/-- An item as the fetch builds it. -/
structure DriveItem where
  comment : GoogleDriveComment
  updatedAt : DateTime
deriving DecidableEq, Repr

/-- A version of a comment: its source and the instant it bears. -/
abbrev Version := String × DateTime

def version (comment : GoogleDriveComment) : Version := (comment.sourceId, comment.modifiedTime)

/-- A version that a sync has compared, and whether it was of concern then. -/
structure Look where
  version : Version
  concerned : Bool
deriving DecidableEq, Repr

/-- A sync under way: the files and the comments that are left to read, and the items. `snapshot`
is what the provider had when the files were listed. -/
structure Flight where
  id : Nat
  listedAt : DateTime
  snapshot : List GoogleDriveComment
  files : List GoogleDriveFile
  comments : List GoogleDriveComment
  looked : List Look
  items : List DriveItem
  saved : Bool
deriving DecidableEq, Repr

/-- `history` holds every version a comment has had, `seen` those compared by the syncs that have
stored what they kept. -/
structure State where
  now : DateTime
  drive : Drive
  history : List GoogleDriveComment
  createdAt : DateTime
  lastCompletedAt : Option DateTime
  rows : Table DriveRow.sourceId
  flights : Table Flight.id
  seen : List Version

/-- `format("%Y-%m-%dT%H:%M:%SZ")`. -/
def floorSecond (t : DateTime) : DateTime := t / 1000000000 * 1000000000

/-- The bound of the query for files. -/
def cursor (s : State) : DateTime := floorSecond (s.lastCompletedAt.getD s.createdAt)

def lastSeen (seen : List Version) (sourceId : String) : Option DateTime :=
  ((seen.filter (·.1 == sourceId)).map (·.2)).max?

/-- `create_or_update_third_party_item`. -/
def upsertItem (rows : Table DriveRow.sourceId) (item : DriveItem) : Table DriveRow.sourceId :=
  match rows.find? item.comment.sourceId with
  | some row =>
    if row.comment = item.comment then rows
    else rows.put { row with comment := item.comment, updatedAt := pgTimestamp item.updatedAt }
  | none =>
    rows.put { comment := item.comment, updatedAt := pgTimestamp item.updatedAt, status := none }

/-- `create_notification_from_third_party_item`, as far as its status goes. -/
def saveNotification (rows : Table DriveRow.sourceId) (item : DriveItem) :
    Table DriveRow.sourceId :=
  match rows.find? item.comment.sourceId with
  | some row => rows.put { row with status := some (intoStatus row.comment) }
  | none => rows

/-- All items are stored before the first notification is; an error leaves what was written. -/
def store (rows : Table DriveRow.sourceId) (items : List DriveItem) (stored saved : Nat) :
    Table DriveRow.sourceId :=
  let rows' := (items.take stored).foldl upsertItem rows
  if items.length ≤ stored then (items.take saved).foldl saveNotification rows' else rows'

def existingNotification (rows : Table DriveRow.sourceId) (comment : GoogleDriveComment) :
    Option ExistingNotification :=
  (rows.find? comment.sourceId).bind fun row => row.status.map fun status => ⟨status, row.updatedAt⟩

/-- `upload` creates a file or edits one, `modify` writes a comment or one of its replies, `patch`
is what the user does to a notification; the others are the steps of a sync. A sync fails with a
prefix of its items `stored` and, when all are, a prefix of its notifications `saved`. -/
inductive Event where
  | upload (file : GoogleDriveFile)
  | modify (comment : GoogleDriveComment)
  | patch (sourceId : String) (status : NotificationStatus)
  | fetchFiles (id : Nat)
  | fetchComments (id : Nat)
  | filter (id : Nat)
  | save (id : Nat)
  | complete (id : Nat)
  | fail (id : Nat) (stored saved : Nat)

structure Input where
  now : DateTime
  event : Event

def upload (drive : Drive) (file : GoogleDriveFile) : Drive :=
  { drive with
    files := drive.files.put file
    known := by
      intro c hc
      rw [Table.find?_put]
      split
      · rfl
      · exact drive.known c hc }

/-- A comment bears the instant at which it or one of its replies was last written; the replies
that are not written are as they were. -/
structure Modifies (drive : Drive) (now : DateTime) (comment : GoogleDriveComment) : Prop where
  known : (drive.files.find? comment.fileId).isSome
  modifiedTime : comment.modifiedTime = now
  fileId : ∀ old ∈ drive.comments.find? comment.sourceId, old.fileId = comment.fileId
  replies : ∀ r ∈ comment.replies, r.modifiedTime = now ∨
    ∃ old ∈ drive.comments.find? comment.sourceId, r ∈ old.replies

instance (drive : Drive) (now : DateTime) (comment : GoogleDriveComment) :
    Decidable (Modifies drive now comment) :=
  decidable_of_iff ((drive.files.find? comment.fileId).isSome ∧ comment.modifiedTime = now ∧
    (∀ old ∈ drive.comments.find? comment.sourceId, old.fileId = comment.fileId) ∧
    ∀ r ∈ comment.replies, r.modifiedTime = now ∨
      ∃ old ∈ drive.comments.find? comment.sourceId, r ∈ old.replies)
    ⟨fun ⟨known, modifiedTime, fileId, replies⟩ => ⟨known, modifiedTime, fileId, replies⟩,
      fun ⟨known, modifiedTime, fileId, replies⟩ => ⟨known, modifiedTime, fileId, replies⟩⟩

def touchFile (now : DateTime) (file : GoogleDriveFile) : GoogleDriveFile :=
  { file with modifiedTime := now }

theorem touchFile_id (now : DateTime) (file : GoogleDriveFile) :
    (touchFile now file).id = file.id := rfl

/-- The file of a comment is modified with it. -/
def modify (drive : Drive) (now : DateTime) (comment : GoogleDriveComment)
    (h : Modifies drive now comment) : Drive where
  files := drive.files.update (·.id == comment.fileId) (touchFile now) (touchFile_id now)
  comments := drive.comments.put comment
  known := by
    intro c hc
    rw [Table.find?_isSome_update]
    rcases Table.mem_put.mp hc with rfl | ⟨hc, -⟩
    · exact h.known
    · exact drive.known c hc

section Step
variable (displayName userEmail : String)

/-- One turn of the loop over the comments of a file. -/
def filterComment (s : State) (flight : Flight) (comment : GoogleDriveComment)
    (rest : List GoogleDriveComment) : Flight :=
  let existing := existingNotification s.rows comment
  { flight with
    comments := rest
    looked := flight.looked ++ [⟨version comment, concerns (existing.map (·.status))
      (lastSeen s.seen comment.sourceId) comment displayName userEmail⟩]
    items :=
      if shouldCreateItem existing comment displayName userEmail then
        flight.items ++ [⟨withUser comment displayName userEmail, s.now⟩]
      else flight.items }

def act (s : State) : Event → Option State
  | .upload file => some { s with drive := upload s.drive (touchFile s.now file) }
  | .modify comment =>
    if h : Modifies s.drive s.now comment then
      some { s with
        drive := modify s.drive s.now comment h
        history := s.history ++ [comment] }
    else none
  | .patch sourceId status =>
    (s.rows.find? sourceId).bind fun row =>
      if row.status.isSome then
        some { s with rows := s.rows.put { row with status := some status } }
      else none
  | .fetchFiles id =>
    (s.flights.insert?
      { id
        listedAt := s.now
        snapshot := s.drive.comments.rows
        files := s.drive.files.rows.filter fun file => cursor s < file.modifiedTime
        comments := []
        looked := []
        items := []
        saved := false }).map fun flights => { s with flights }
  | .fetchComments id =>
    (s.flights.find? id).bind fun flight =>
      match flight.files, flight.comments with
      | file :: files, [] =>
        some { s with
          flights := s.flights.put { flight with
            files
            comments := s.drive.comments.rows.filter fun comment => comment.fileId == file.id } }
      | _, _ => none
  | .filter id =>
    (s.flights.find? id).bind fun flight =>
      match flight.comments with
      | comment :: rest =>
        some { s with
          flights := s.flights.put (filterComment displayName userEmail s flight comment rest) }
      | [] => none
  | .save id =>
    (s.flights.find? id).bind fun flight =>
      if flight.files = [] ∧ flight.comments = [] ∧ flight.saved = false then
        some { s with
          rows := store s.rows flight.items flight.items.length flight.items.length
          flights := s.flights.put { flight with saved := true }
          seen := s.seen ++ flight.looked.map (·.version) }
      else none
  | .complete id =>
    (s.flights.find? id).bind fun flight =>
      if flight.saved = true then
        some { s with
          lastCompletedAt := some (pgTimestamp s.now)
          flights := s.flights.erase id }
      else none
  | .fail id stored saved =>
    (s.flights.find? id).bind fun flight =>
      if stored = 0 ∨ flight.files = [] ∧ flight.comments = [] ∧ flight.saved = false then
        some { s with
          rows := store s.rows flight.items stored saved
          flights := s.flights.erase id }
      else none

def step (s : State) (i : Input) : Option State :=
  if s.now < i.now then act displayName userEmail { s with now := i.now } i.event else none

/-- A version of the comment, or a later one, is among those compared by a sync that stored what
it kept. -/
def Seen (seen : List Version) (comment : GoogleDriveComment) : Prop :=
  ∃ v ∈ seen, v.1 = comment.sourceId ∧ comment.modifiedTime ≤ v.2

instance (seen : List Version) (comment : GoogleDriveComment) : Decidable (Seen seen comment) :=
  inferInstanceAs (Decidable (∃ v ∈ seen, _))

/-- The sync has compared the version or a later one, and returns it if it is of concern. -/
def Returned (flight : Flight) (comment : GoogleDriveComment) : Prop :=
  ∃ look ∈ flight.looked, look.version.1 = comment.sourceId ∧
    comment.modifiedTime ≤ look.version.2 ∧
    (look.concerned = true → ∃ item ∈ flight.items, version item.comment = look.version)

instance (flight : Flight) (comment : GoogleDriveComment) : Decidable (Returned flight comment) :=
  inferInstanceAs (Decidable (∃ look ∈ flight.looked, _))

/-- What a sync stores leaves out no modification made since the connection was created and before
its fetch, but for those an earlier sync has seen. -/
def NoGap (s : State) : Input → State → Prop
  | ⟨_, .save id⟩, _ => ∀ flight ∈ s.flights.find? id, ∀ comment ∈ flight.snapshot,
      s.createdAt < comment.modifiedTime → Seen s.seen comment ∨ Returned flight comment
  | _, _ => True

instance (s : State) : ∀ i t, Decidable (NoGap s i t)
  | ⟨_, .save _⟩, _ => inferInstanceAs (Decidable (∀ _ ∈ _, ∀ _ ∈ _, _ → _))
  | ⟨_, .upload _⟩, _ | ⟨_, .modify _⟩, _ | ⟨_, .patch _ _⟩, _ | ⟨_, .fetchFiles _⟩, _
  | ⟨_, .fetchComments _⟩, _ | ⟨_, .filter _⟩, _ | ⟨_, .complete _⟩, _ | ⟨_, .fail _ _ _⟩, _ =>
    .isTrue trivial

/-- A comment is not modified between being read and being made an item; when a sync completes,
what was modified since its files were listed has been seen or comes after the bound of the next
one; and a sync that fails has stored no item of a comment with a notification. -/
def SyncGuard (s : State) : Input → Prop
  | ⟨_, .filter id⟩ => ∀ flight ∈ s.flights.find? id, ∀ comment ∈ flight.comments.head?,
      shouldCreateItem (existingNotification s.rows comment) comment displayName userEmail = true →
        ∃ current ∈ s.drive.comments.find? comment.sourceId,
          current.modifiedTime = comment.modifiedTime
  | ⟨now, .complete id⟩ => ∀ flight ∈ s.flights.find? id, ∀ comment ∈ s.drive.comments.rows,
      flight.listedAt < comment.modifiedTime →
        Seen s.seen comment ∨ floorSecond (pgTimestamp now) < comment.modifiedTime
  | ⟨_, .fail id stored saved⟩ => ∀ flight ∈ s.flights.find? id, flight.saved = false ∧
      (stored < flight.items.length ∨ saved = 0) ∧
      ∀ item ∈ flight.items.take stored, existingNotification s.rows item.comment = none
  | _ => True

instance (s : State) : ∀ i, Decidable (SyncGuard displayName userEmail s i)
  | ⟨_, .filter _⟩ => inferInstanceAs (Decidable (∀ _ ∈ _, ∀ _ ∈ _, _ → ∃ _ ∈ _, _))
  | ⟨_, .complete _⟩ => inferInstanceAs (Decidable (∀ _ ∈ _, ∀ _ ∈ _, _ → _ ∨ _))
  | ⟨_, .fail _ _ _⟩ => inferInstanceAs (Decidable (∀ _ ∈ _, _ ∧ _ ∧ ∀ _ ∈ _, _))
  | ⟨_, .upload _⟩ | ⟨_, .modify _⟩ | ⟨_, .patch _ _⟩ | ⟨_, .fetchFiles _⟩
  | ⟨_, .fetchComments _⟩ | ⟨_, .save _⟩ => .isTrue trivial

end Step

/-- No version of the comment that is later than the one stored precedes the update of the item. -/
def Fresh (history : List GoogleDriveComment) (stored : GoogleDriveComment)
    (updatedAt : DateTime) : Prop :=
  ∀ c ∈ history, c.sourceId = stored.sourceId →
    ∀ τ ∈ c.times, stored.modifiedTime < τ → updatedAt < τ

/-- The comment is still to be read, as it was when the files were listed or later. -/
def Pending (flight : Flight) (comment : GoogleDriveComment) : Prop :=
  (∃ file ∈ flight.files, file.id = comment.fileId) ∨
    ∃ c ∈ flight.comments, c.sourceId = comment.sourceId ∧ comment.modifiedTime ≤ c.modifiedTime

def Looked (flight : Flight) (comment : GoogleDriveComment) : Prop :=
  ∃ look ∈ flight.looked, look.version.1 = comment.sourceId ∧
    comment.modifiedTime ≤ look.version.2

structure FlightInv (s : State) (flight : Flight) : Prop where
  listedAt : s.createdAt ≤ flight.listedAt ∧ flight.listedAt ≤ s.now
  snapshot : ∀ c ∈ s.drive.comments.rows, c ∈ flight.snapshot ∨ flight.listedAt < c.modifiedTime
  history : (∀ c ∈ flight.snapshot, c ∈ s.history) ∧ ∀ c ∈ flight.comments, c ∈ s.history
  covered : ∀ v ∈ flight.snapshot, s.createdAt < v.modifiedTime →
    Seen s.seen v ∨ Looked flight v ∨ Pending flight v
  items : ∀ item ∈ flight.items, Fresh s.history item.comment (pgTimestamp item.updatedAt) ∧
    pgTimestamp item.updatedAt ≤ s.now ∧
    ∃ look ∈ flight.looked, look.version = version item.comment
  returned : ∀ look ∈ flight.looked, look.concerned = true →
    ∃ item ∈ flight.items, version item.comment = look.version
  saved : flight.saved = true → flight.files = [] ∧ flight.comments = [] ∧
    ∀ look ∈ flight.looked, look.version ∈ s.seen

structure RowInv (s : State) (row : DriveRow) : Prop where
  fresh : Fresh s.history row.comment row.updatedAt
  past : row.updatedAt ≤ s.now
  notified : row.status.isSome → Seen s.seen row.comment

structure Inv (s : State) : Prop where
  epoch : postgresEpoch ≤ s.createdAt
  created : s.createdAt ≤ s.now
  bound : cursor s ≤ s.now
  present : ∀ c ∈ s.drive.comments.rows, c ∈ s.history
  times : ∀ c ∈ s.history, c.modifiedTime ≤ s.now ∧ ∀ τ ∈ c.times, τ ≤ c.modifiedTime
  current : ∀ c ∈ s.history, ∃ current ∈ s.drive.comments.rows, current.sourceId = c.sourceId ∧
    current.fileId = c.fileId ∧ c.modifiedTime ≤ current.modifiedTime
  touched : ∀ c ∈ s.drive.comments.rows, s.createdAt < c.modifiedTime →
    ∃ file ∈ s.drive.files.find? c.fileId, c.modifiedTime ≤ file.modifiedTime
  listed : ∀ c ∈ s.drive.comments.rows, s.createdAt < c.modifiedTime →
    Seen s.seen c ∨ ∃ file ∈ s.drive.files.find? c.fileId, cursor s < file.modifiedTime
  rows : ∀ row ∈ s.rows.rows, RowInv s row
  flights : ∀ flight ∈ s.flights.rows, FlightInv s flight

section Invariant
variable {displayName userEmail : String} {s t : State} {flight : Flight} {id : Nat}
  {now : DateTime}

theorem floorSecond_le (t : DateTime) : floorSecond t ≤ t := Int.ediv_mul_le t (by decide)

theorem pgTimestamp_le {t : DateTime} (h : postgresEpoch ≤ t) : pgTimestamp t ≤ t := by
  have hdiv := Int.ediv_mul_le (t - postgresEpoch) (show (1000 : Int) ≠ 0 by decide)
  unfold pgTimestamp
  rw [Int.tdiv_eq_ediv_of_nonneg (sub_nonneg.mpr h)]
  exact le_sub_iff_add_le'.mp hdiv

theorem Seen.mono {seen seen' : List Version} {comment : GoogleDriveComment}
    (hsub : ∀ v ∈ seen, v ∈ seen') (h : Seen seen comment) : Seen seen' comment :=
  h.imp fun v ⟨hv, hsame⟩ => ⟨hsub v hv, hsame⟩

/-- A flight while the comments stay as they are and more is seen. -/
theorem FlightInv.extend (h : FlightInv s flight)
    (hcomments : t.drive.comments = s.drive.comments) (hhistory : t.history = s.history)
    (hcreated : t.createdAt = s.createdAt) (hnow : s.now ≤ t.now)
    (hseen : ∀ v ∈ s.seen, v ∈ t.seen) : FlightInv t flight where
  listedAt := by
    rw [hcreated]
    exact ⟨h.listedAt.1, h.listedAt.2.trans hnow⟩
  snapshot := by
    rw [hcomments]
    exact h.snapshot
  history := by
    rw [hhistory]
    exact h.history
  covered := by
    rw [hcreated]
    intro v hv hcreated
    exact (h.covered v hv hcreated).imp_left (Seen.mono hseen)
  items := by
    rw [hhistory]
    intro item hitem
    obtain ⟨hfresh, hpast, hlook⟩ := h.items item hitem
    exact ⟨hfresh, hpast.trans hnow, hlook⟩
  returned := h.returned
  saved := by
    intro hsaved
    obtain ⟨hfiles, hcomments, hlooked⟩ := h.saved hsaved
    exact ⟨hfiles, hcomments, fun look hlook => hseen _ (hlooked look hlook)⟩

theorem RowInv.extend {row : DriveRow} (h : RowInv s row) (hhistory : t.history = s.history)
    (hnow : s.now ≤ t.now) (hseen : ∀ v ∈ s.seen, v ∈ t.seen) : RowInv t row where
  fresh := by
    rw [hhistory]
    exact h.fresh
  past := h.past.trans hnow
  notified hstatus := (h.notified hstatus).mono hseen

theorem Inv.tick (h : Inv s) (hnow : s.now ≤ now) : Inv { s with now := now } where
  epoch := h.epoch
  created := h.created.trans hnow
  bound := h.bound.trans hnow
  present := h.present
  times c hc := ⟨(h.times c hc).1.trans hnow, (h.times c hc).2⟩
  current := h.current
  touched := h.touched
  listed := h.listed
  rows row hrow := (h.rows row hrow).extend rfl hnow fun _ hv => hv
  flights flight hflight := (h.flights flight hflight).extend rfl rfl rfl hnow fun _ hv => hv

/-- A step of a sync that writes nothing. -/
theorem Inv.setFlights (h : Inv s) {flights : Table Flight.id}
    (hflights : ∀ flight ∈ flights.rows, FlightInv s flight) : Inv { s with flights } where
  epoch := h.epoch
  created := h.created
  bound := h.bound
  present := h.present
  times := h.times
  current := h.current
  touched := h.touched
  listed := h.listed
  rows row hrow := (h.rows row hrow).extend rfl le_rfl fun _ hv => hv
  flights flight hflight :=
    (hflights flight hflight).extend rfl rfl rfl le_rfl fun _ hv => hv

/-- A step that writes rows; what it has seen may come with them. -/
theorem Inv.setRows (h : Inv s) {rows : Table DriveRow.sourceId} {seen : List Version}
    (hseen : ∀ v ∈ s.seen, v ∈ seen)
    (hrows : ∀ row ∈ rows.rows, RowInv { s with seen } row) : Inv { s with rows, seen } where
  epoch := h.epoch
  created := h.created
  bound := h.bound
  present := h.present
  times := h.times
  current := h.current
  touched := h.touched
  listed c hc hcreated := (h.listed c hc hcreated).imp_left (Seen.mono hseen)
  rows row hrow := (hrows row hrow).extend rfl le_rfl fun _ hv => hv
  flights flight hflight := (h.flights flight hflight).extend rfl rfl rfl le_rfl hseen

theorem Inv.put (h : Inv s) (hflight : FlightInv s flight) :
    ∀ other ∈ (s.flights.put flight).rows, FlightInv s other := by
  intro other hother
  rcases Table.mem_put.mp hother with rfl | ⟨hold, -⟩
  · exact hflight
  · exact h.flights other hold

theorem Inv.erase (h : Inv s) : ∀ other ∈ (s.flights.erase id).rows, FlightInv s other :=
  fun other hother => h.flights other (Table.mem_erase.mp hother).1

theorem inv_upload {file : GoogleDriveFile} (h : Inv s) (hnow : s.now < now) :
    Inv { s with now := now, drive := upload s.drive (touchFile now file) } := by
  have hfile : ∀ {fileId : String} {bound : DateTime}, bound ≤ now →
      (∃ f ∈ s.drive.files.find? fileId, bound ≤ f.modifiedTime) →
        ∃ f ∈ (upload s.drive (touchFile now file)).files.find? fileId, bound ≤ f.modifiedTime := by
    rintro fileId bound hbound ⟨f, hf, hle⟩
    show ∃ f ∈ (s.drive.files.put (touchFile now file)).find? fileId, bound ≤ f.modifiedTime
    rw [Table.find?_put]
    split
    · exact ⟨_, rfl, hbound⟩
    · exact ⟨f, hf, hle⟩
  have htick := h.tick hnow.le
  refine { htick with touched := ?_, listed := ?_, rows := ?_, flights := ?_ }
  · intro c hc hcreated
    exact hfile ((h.times c (h.present c hc)).1.trans hnow.le) (h.touched c hc hcreated)
  · intro c hc hcreated
    refine (h.listed c hc hcreated).imp_right fun ⟨f, hf, hlt⟩ => ?_
    exact hfile (Int.add_one_le_of_lt (h.bound.trans_lt hnow)) ⟨f, hf, Int.add_one_le_of_lt hlt⟩
  · exact fun row hrow => (htick.rows row hrow).extend rfl le_rfl fun _ hv => hv
  · exact fun flight hflight =>
      (htick.flights flight hflight).extend rfl rfl rfl le_rfl fun _ hv => hv

/-- The instants of a new version are those of the version before, or new. -/
theorem times_of_modifies {comment : GoogleDriveComment} (hmodifies : Modifies s.drive now comment) :
    ∀ τ ∈ comment.times, τ = now ∨
      ∃ old ∈ s.drive.comments.rows, old.sourceId = comment.sourceId ∧ τ ∈ old.times := by
  intro τ hτ
  rcases List.mem_cons.mp hτ with rfl | hreply
  · exact .inl hmodifies.modifiedTime
  · obtain ⟨reply, hmember, rfl⟩ := List.mem_map.mp hreply
    refine (hmodifies.replies reply hmember).imp_right fun ⟨old, hold, hmem⟩ => ?_
    obtain ⟨hrow, hid⟩ := Table.find?_eq_some.mp hold
    exact ⟨old, hrow, hid, List.mem_cons_of_mem _ (List.mem_map_of_mem hmem)⟩

theorem fresh_modify (h : Inv s) {comment stored : GoogleDriveComment} {updatedAt : DateTime}
    (hmodifies : Modifies s.drive now comment) (hpast : updatedAt < now)
    (hfresh : Fresh s.history stored updatedAt) :
    Fresh (s.history ++ [comment]) stored updatedAt := by
  intro c hc hsource τ hτ hlater
  rcases List.mem_append.mp hc with hold | hnew
  · exact hfresh c hold hsource τ hτ hlater
  · rw [List.mem_singleton.mp hnew] at hsource hτ
    rcases times_of_modifies hmodifies τ hτ with rfl | ⟨old, hold, hid, hτ⟩
    · exact hpast
    · exact hfresh old (h.present old hold) (hid.trans hsource) τ hτ hlater

theorem FlightInv.modify (h : Inv s) (hflight : FlightInv s flight) (hnow : s.now < now)
    {comment : GoogleDriveComment} (hmodifies : Modifies s.drive now comment) :
    FlightInv { s with
      now := now
      drive := modify s.drive now comment hmodifies
      history := s.history ++ [comment] } flight where
  listedAt := ⟨hflight.listedAt.1, hflight.listedAt.2.trans hnow.le⟩
  snapshot := by
    intro c hc
    rcases Table.mem_put.mp hc with rfl | ⟨hc, -⟩
    · right
      rw [hmodifies.modifiedTime]
      exact hflight.listedAt.2.trans_lt hnow
    · exact hflight.snapshot c hc
  history := ⟨fun c hc => List.mem_append_left _ (hflight.history.1 c hc),
    fun c hc => List.mem_append_left _ (hflight.history.2 c hc)⟩
  covered := hflight.covered
  items := by
    intro item hitem
    obtain ⟨hfresh, hpast, hlook⟩ := hflight.items item hitem
    exact ⟨fresh_modify h hmodifies (hpast.trans_lt hnow) hfresh, hpast.trans hnow.le, hlook⟩
  returned := hflight.returned
  saved := hflight.saved

theorem inv_modify {comment : GoogleDriveComment} (h : Inv s) (hnow : s.now < now)
    (hmodifies : Modifies s.drive now comment) :
    Inv { s with
      now := now
      drive := modify s.drive now comment hmodifies
      history := s.history ++ [comment] } := by
  -- The file of the new version is touched now, after the bound of the next sync.
  have hfile : ∀ {fileId : String} {bound : DateTime}, bound ≤ now →
      (fileId = comment.fileId ∨ ∃ f ∈ s.drive.files.find? fileId, bound ≤ f.modifiedTime) →
        (s.drive.files.find? fileId).isSome →
          ∃ f ∈ (modify s.drive now comment hmodifies).files.find? fileId,
            bound ≤ f.modifiedTime := by
    intro fileId bound hbound hor hsome
    obtain ⟨f, hf⟩ := Option.isSome_iff_exists.mp hsome
    show ∃ f ∈ (s.drive.files.update (·.id == comment.fileId) (touchFile now)
      (touchFile_id now)).find? fileId, bound ≤ f.modifiedTime
    rw [Table.find?_update, hf]
    refine ⟨_, rfl, ?_⟩
    dsimp only
    split
    · exact hbound
    · next hother =>
      rcases hor with rfl | ⟨f', hf', hle⟩
      · exact absurd (beq_iff_eq.mpr (Table.find?_eq_some.mp hf).2) hother
      · rw [hf] at hf'
        cases hf'
        exact hle
  have hpast : ∀ c ∈ s.history, c.modifiedTime ≤ now := fun c hc => (h.times c hc).1.trans hnow.le
  constructor
  · exact h.epoch
  · exact h.created.trans hnow.le
  · exact h.bound.trans hnow.le
  · intro c hc
    rcases Table.mem_put.mp hc with rfl | ⟨hc, -⟩
    · exact List.mem_append_right _ (List.mem_singleton_self _)
    · exact List.mem_append_left _ (h.present c hc)
  · intro c hc
    rcases List.mem_append.mp hc with hold | hnew
    · exact ⟨hpast c hold, (h.times c hold).2⟩
    · rw [List.mem_singleton.mp hnew]
      refine ⟨hmodifies.modifiedTime.le, fun τ hτ => ?_⟩
      rw [hmodifies.modifiedTime]
      rcases times_of_modifies hmodifies τ hτ with rfl | ⟨old, hold, -, hτ⟩
      · exact le_rfl
      · exact ((h.times old (h.present old hold)).2 τ hτ).trans (hpast old (h.present old hold))
  · intro c hc
    rcases List.mem_append.mp hc with hold | hnew
    · obtain ⟨current, hcurrent, hid, hfileId, hle⟩ := h.current c hold
      by_cases hsame : current.sourceId = comment.sourceId
      · refine ⟨comment, Table.mem_put.mpr (.inl rfl), hsame.symm.trans hid, ?_, ?_⟩
        · rw [← hfileId]
          exact (hmodifies.fileId current (Table.find?_eq_some.mpr ⟨hcurrent, hsame⟩)).symm
        · rw [hmodifies.modifiedTime]
          exact hpast c hold
      · exact ⟨current, Table.mem_put.mpr (.inr ⟨hcurrent, hsame⟩), hid, hfileId, hle⟩
    · rw [List.mem_singleton.mp hnew]
      exact ⟨comment, Table.mem_put.mpr (.inl rfl), rfl, rfl, le_rfl⟩
  · intro c hc hcreated
    rcases Table.mem_put.mp hc with rfl | ⟨hold, -⟩
    · exact hfile hmodifies.modifiedTime.le (.inl rfl) hmodifies.known
    · exact hfile (hpast c (h.present c hold)) (.inr (h.touched c hold hcreated))
        (s.drive.known c hold)
  · intro c hc hcreated
    have hbound := Int.add_one_le_of_lt (h.bound.trans_lt hnow)
    rcases Table.mem_put.mp hc with rfl | ⟨hold, -⟩
    · exact .inr (hfile hbound (.inl rfl) hmodifies.known)
    · refine (h.listed c hold hcreated).imp_right fun ⟨f, hf, hlt⟩ => ?_
      exact hfile hbound (.inr ⟨f, hf, Int.add_one_le_of_lt hlt⟩) (s.drive.known c hold)
  · intro row hrow
    have hinv := h.rows row hrow
    exact ⟨fresh_modify h hmodifies (hinv.past.trans_lt hnow) hinv.fresh,
      hinv.past.trans hnow.le, hinv.notified⟩
  · exact fun flight hflight => (h.flights flight hflight).modify h hnow hmodifies

/-- A user's patch keeps the item of the notification. -/
theorem inv_patch {row : DriveRow} {status : NotificationStatus} (h : Inv s)
    (hrow : row ∈ s.rows.rows) (hstatus : row.status.isSome) :
    Inv { s with rows := s.rows.put { row with status := some status } } := by
  refine h.setRows (fun _ hv => hv) fun other hother => ?_
  rcases Table.mem_put.mp hother with rfl | ⟨hold, -⟩
  · have hinv := h.rows row hrow
    exact ⟨hinv.fresh, hinv.past, fun _ => hinv.notified hstatus⟩
  · exact h.rows other hold

theorem flightInv_fetchFiles (h : Inv s) :
    FlightInv s
      { id
        listedAt := s.now
        snapshot := s.drive.comments.rows
        files := s.drive.files.rows.filter fun file => cursor s < file.modifiedTime
        comments := []
        looked := []
        items := []
        saved := false } where
  listedAt := ⟨h.created, le_rfl⟩
  snapshot _ hc := .inl hc
  history := ⟨h.present, fun _ hc => (List.not_mem_nil hc).elim⟩
  covered := by
    intro v hv hcreated
    refine (h.listed v hv hcreated).imp_right fun ⟨file, hfile, hlt⟩ => .inr (.inl ?_)
    obtain ⟨hmem, hid⟩ := Table.find?_eq_some.mp hfile
    exact ⟨file, List.mem_filter.mpr ⟨hmem, decide_eq_true hlt⟩, hid⟩
  items _ hitem := (List.not_mem_nil hitem).elim
  returned _ hlook := (List.not_mem_nil hlook).elim
  saved hsaved := nomatch hsaved

/-- The comments of the next file are read as they are now, or later than they were. -/
theorem flightInv_fetchComments (h : Inv s) (hflight : FlightInv s flight)
    {file : GoogleDriveFile} {files : List GoogleDriveFile} (hfiles : flight.files = file :: files)
    (hcomments : flight.comments = []) :
    FlightInv s { flight with
      files
      comments := s.drive.comments.rows.filter fun comment => comment.fileId == file.id } where
  listedAt := hflight.listedAt
  snapshot := hflight.snapshot
  history := ⟨hflight.history.1, fun c hc => h.present c (List.mem_filter.mp hc).1⟩
  covered := by
    intro v hv hcreated
    refine (hflight.covered v hv hcreated).imp_right (Or.imp_right ?_)
    rintro (⟨other, hother, hid⟩ | ⟨c, hc, -⟩)
    · rw [hfiles] at hother
      rcases List.mem_cons.mp hother with rfl | hrest
      · obtain ⟨current, hcurrent, hsource, hfileId, hle⟩ := h.current v (hflight.history.1 v hv)
        refine .inr ⟨current, List.mem_filter.mpr ⟨hcurrent, ?_⟩, hsource, hle⟩
        exact beq_iff_eq.mpr (hfileId.trans hid.symm)
      · exact .inl ⟨other, hrest, hid⟩
    · rw [hcomments] at hc
      exact (List.not_mem_nil hc).elim
  items := hflight.items
  returned := hflight.returned
  saved := by
    intro hsaved
    have hnone := (hflight.saved hsaved).1
    rw [hfiles] at hnone
    cases hnone

theorem le_lastSeen {seen : List Version} {v : Version} (hv : v ∈ seen) :
    ∃ last, lastSeen seen v.1 = some last ∧ v.2 ≤ last := by
  have hmem : v.2 ∈ (seen.filter (·.1 == v.1)).map (·.2) :=
    List.mem_map_of_mem (List.mem_filter.mpr ⟨hv, beq_self_eq_true v.1⟩)
  unfold lastSeen
  cases hmax : ((seen.filter (·.1 == v.1)).map (·.2)).max? with
  | none =>
    rw [List.max?_eq_none_iff.mp hmax] at hmem
    exact (List.not_mem_nil hmem).elim
  | some last => exact ⟨last, rfl, (List.max?_eq_some_iff.mp hmax).2 _ hmem⟩

/-- Nothing of concern is left out for its date: later than the last version seen is later than the
update of the item. -/
theorem shouldCreateItem_of_concerned (h : Inv s) {comment : GoogleDriveComment}
    (hcomment : comment ∈ s.history)
    (hconcerned : concerns ((existingNotification s.rows comment).map (·.status))
      (lastSeen s.seen comment.sourceId) comment displayName userEmail = true) :
    shouldCreateItem (existingNotification s.rows comment) comment displayName userEmail = true := by
  refine shouldCreateItem_of_concerns (fun notification hexisting τ hτ hlast => ?_) hconcerned
  obtain ⟨row, hrow, hstatus⟩ := Option.bind_eq_some_iff.mp hexisting
  obtain ⟨status, hsome, rfl⟩ := Option.map_eq_some_iff.mp hstatus
  obtain ⟨hmem, hid⟩ := Table.find?_eq_some.mp hrow
  have hinv := h.rows row hmem
  obtain ⟨v, hv, hsource, hle⟩ := hinv.notified (hsome ▸ rfl)
  obtain ⟨last, hmax, hlastLe⟩ := le_lastSeen hv
  rw [← (hsource.trans hid : v.1 = comment.sourceId), hmax] at hlast
  have hlt : last < τ := by simpa [isAfter] using hlast
  exact hinv.fresh comment hcomment hid.symm τ hτ ((hle.trans hlastLe).trans_lt hlt)

theorem flightInv_filter (h : Inv s) (hflight : FlightInv s flight) {comment : GoogleDriveComment}
    {rest : List GoogleDriveComment} (hcomments : flight.comments = comment :: rest)
    (hguard : shouldCreateItem (existingNotification s.rows comment) comment displayName userEmail =
      true → ∃ current ∈ s.drive.comments.find? comment.sourceId,
        current.modifiedTime = comment.modifiedTime) :
    FlightInv s (filterComment displayName userEmail s flight comment rest) where
  listedAt := hflight.listedAt
  snapshot := hflight.snapshot
  history := ⟨hflight.history.1, fun c hc => hflight.history.2 c (by
    rw [hcomments]
    exact List.mem_cons_of_mem _ hc)⟩
  covered := by
    intro v hv hcreated
    rcases hflight.covered v hv hcreated with hseen | ⟨look, hlook, hsame⟩ | hfile | ⟨c, hc, hsame⟩
    · exact .inl hseen
    · exact .inr (.inl ⟨look, List.mem_append_left _ hlook, hsame⟩)
    · exact .inr (.inr (.inl hfile))
    · rw [hcomments] at hc
      rcases List.mem_cons.mp hc with rfl | hrest
      · exact .inr (.inl ⟨_, List.mem_append_right _ (List.mem_singleton_self _), hsame⟩)
      · exact .inr (.inr (.inr ⟨c, hrest, hsame⟩))
  items := by
    have hold : ∀ item ∈ flight.items,
        Fresh s.history item.comment (pgTimestamp item.updatedAt) ∧
          pgTimestamp item.updatedAt ≤ s.now ∧
          ∃ look ∈ (filterComment displayName userEmail s flight comment rest).looked,
            look.version = version item.comment := by
      intro item hitem
      obtain ⟨hfresh, hpast, look, hlook, hsame⟩ := hflight.items item hitem
      exact ⟨hfresh, hpast, look, List.mem_append_left _ hlook, hsame⟩
    intro item hitem
    unfold filterComment at hitem
    dsimp only at hitem
    split at hitem
    · next hcreate =>
      rcases List.mem_append.mp hitem with hitem | hnew
      · exact hold item hitem
      · rw [List.mem_singleton.mp hnew]
        refine ⟨?_, pgTimestamp_le (h.epoch.trans h.created), _,
          List.mem_append_right _ (List.mem_singleton_self _), rfl⟩
        -- The version is the present one, so no version has a later instant.
        obtain ⟨current, hcurrent, hsame⟩ := hguard hcreate
        obtain ⟨hmem, hid⟩ := Table.find?_eq_some.mp hcurrent
        intro c hc hsource τ hτ hlater
        obtain ⟨current', hmem', hid', -, hle⟩ := h.current c hc
        rw [Table.eq_of_key hmem' hmem (hid'.trans (hsource.trans hid.symm)), hsame] at hle
        exact absurd hlater (((h.times c hc).2 τ hτ).trans hle).not_gt
    · exact hold item hitem
  returned := by
    intro look hlook hconcerned
    rcases List.mem_append.mp hlook with hold | hnew
    · obtain ⟨item, hitem, hsame⟩ := hflight.returned look hold hconcerned
      refine ⟨item, ?_, hsame⟩
      unfold filterComment
      dsimp only
      split
      · exact List.mem_append_left _ hitem
      · exact hitem
    · rw [List.mem_singleton.mp hnew] at hconcerned ⊢
      have hcreate := shouldCreateItem_of_concerned h
        (hflight.history.2 comment (hcomments ▸ List.mem_cons_self)) hconcerned
      refine ⟨⟨withUser comment displayName userEmail, s.now⟩, ?_, rfl⟩
      unfold filterComment
      dsimp only
      rw [if_pos hcreate]
      exact List.mem_append_right _ (List.mem_singleton_self _)
  saved := by
    intro hsaved
    have hnone := (hflight.saved hsaved).2.1
    rw [hcomments] at hnone
    cases hnone

end Invariant

section Store
variable {rows : Table DriveRow.sourceId} {items : List DriveItem} {item : DriveItem}
  {row : DriveRow}

/-- A row after an upsert holds the item, or is a row of another comment. -/
theorem mem_upsertItem (h : row ∈ (upsertItem rows item).rows) :
    (row ∈ rows.rows ∧ row.sourceId ≠ item.comment.sourceId) ∨
      row.comment = item.comment ∧ (row.updatedAt = pgTimestamp item.updatedAt ∨ row ∈ rows.rows) := by
  unfold upsertItem at h
  split at h
  · next old hfind =>
    obtain ⟨hmem, hid⟩ := Table.find?_eq_some.mp hfind
    split at h
    · next hsame =>
      by_cases hrow : row.sourceId = item.comment.sourceId
      · rw [Table.eq_of_key h hmem (hrow.trans hid.symm)]
        exact .inr ⟨hsame, .inr hmem⟩
      · exact .inl ⟨h, hrow⟩
    · rcases Table.mem_put.mp h with rfl | hother
      · exact .inr ⟨rfl, .inl rfl⟩
      · exact .inl hother
  · rcases Table.mem_put.mp h with rfl | hother
    · exact .inr ⟨rfl, .inl rfl⟩
    · exact .inl hother

/-- An upsert gives no comment a notification. -/
theorem status_upsertItem (h : row ∈ (upsertItem rows item).rows) (hstatus : row.status.isSome) :
    ∃ old ∈ rows.rows, old.sourceId = row.sourceId ∧ old.status = row.status := by
  unfold upsertItem at h
  split at h
  · next old hfind =>
    obtain ⟨hmem, hid⟩ := Table.find?_eq_some.mp hfind
    split at h
    · exact ⟨row, h, rfl, rfl⟩
    · rcases Table.mem_put.mp h with rfl | ⟨hold, -⟩
      · exact ⟨old, hmem, hid, rfl⟩
      · exact ⟨row, hold, rfl, rfl⟩
  · rcases Table.mem_put.mp h with rfl | ⟨hold, -⟩
    · cases hstatus
    · exact ⟨row, hold, rfl, rfl⟩

theorem status_upsertItems (h : row ∈ (items.foldl upsertItem rows).rows)
    (hstatus : row.status.isSome) :
    ∃ old ∈ rows.rows, old.sourceId = row.sourceId ∧ old.status = row.status := by
  induction items generalizing rows with
  | nil => exact ⟨row, h, rfl, rfl⟩
  | cons item rest ih =>
    obtain ⟨mid, hmid, hid, hsame⟩ := ih h
    obtain ⟨old, hold, hid', hsame'⟩ := status_upsertItem hmid (hsame ▸ hstatus)
    exact ⟨old, hold, hid'.trans hid, hsame'.trans hsame⟩

theorem mem_upsertItems (h : row ∈ (items.foldl upsertItem rows).rows) :
    (row ∈ rows.rows ∧ ∀ item ∈ items, row.sourceId ≠ item.comment.sourceId) ∨
      ∃ item ∈ items, row.comment = item.comment := by
  induction items generalizing rows with
  | nil => exact .inl ⟨h, fun _ hitem => (List.not_mem_nil hitem).elim⟩
  | cons item rest ih =>
    rcases ih h with ⟨hmid, hothers⟩ | ⟨item', hitem', hsame⟩
    · rcases mem_upsertItem hmid with ⟨hold, hother⟩ | ⟨hsame, -⟩
      · exact .inl ⟨hold, List.forall_mem_cons.mpr ⟨hother, hothers⟩⟩
      · exact .inr ⟨item, List.mem_cons_self, hsame⟩
    · exact .inr ⟨item', List.mem_cons_of_mem _ hitem', hsame⟩

/-- What holds of the rows and of the items holds of the rows after the upserts. -/
theorem forall_upsertItems {P : GoogleDriveComment → DateTime → Prop}
    (hrows : ∀ row ∈ rows.rows, P row.comment row.updatedAt)
    (hitems : ∀ item ∈ items, P item.comment (pgTimestamp item.updatedAt)) :
    ∀ row ∈ (items.foldl upsertItem rows).rows, P row.comment row.updatedAt := by
  induction items generalizing rows with
  | nil => exact hrows
  | cons item rest ih =>
    refine ih (fun row hrow => ?_) fun item' hitem' => hitems item' (List.mem_cons_of_mem _ hitem')
    rcases mem_upsertItem hrow with ⟨hold, -⟩ | ⟨hsame, hnew | hold⟩
    · exact hrows row hold
    · rw [hsame, hnew]
      exact hitems item List.mem_cons_self
    · exact hrows row hold

/-- Saving the notifications writes the status of their rows alone. -/
theorem mem_saveNotifications (h : row ∈ (items.foldl saveNotification rows).rows) :
    ∃ old ∈ rows.rows, old.comment = row.comment ∧ old.updatedAt = row.updatedAt ∧
      (old.status = row.status ∨ ∃ item ∈ items, row.sourceId = item.comment.sourceId) := by
  induction items generalizing rows with
  | nil => exact ⟨row, h, rfl, rfl, .inl rfl⟩
  | cons item rest ih =>
    obtain ⟨mid, hmid, hcomment, hupdated, hstatus⟩ := ih h
    have hid : mid.sourceId = row.sourceId := congrArg GoogleDriveComment.sourceId hcomment
    have hrest : (∃ item ∈ rest, row.sourceId = item.comment.sourceId) →
        ∃ item' ∈ item :: rest, row.sourceId = item'.comment.sourceId :=
      fun ⟨item', hitem', hsame⟩ => ⟨item', List.mem_cons_of_mem _ hitem', hsame⟩
    unfold saveNotification at hmid
    split at hmid
    · next old hfind =>
      obtain ⟨hmem, hkey⟩ := Table.find?_eq_some.mp hfind
      rcases Table.mem_put.mp hmid with rfl | ⟨hold, -⟩
      · exact ⟨old, hmem, hcomment, hupdated, .inr ⟨item, List.mem_cons_self, hid.symm.trans hkey⟩⟩
      · exact ⟨mid, hold, hcomment, hupdated, hstatus.imp_right hrest⟩
    · exact ⟨mid, hmid, hcomment, hupdated, hstatus.imp_right hrest⟩

end Store

section Run
variable {displayName userEmail : String} {s t : State} {flight : Flight} {id : Nat}
  {now : DateTime}

/-- The dates of the rows once items of a flight are stored. -/
theorem dates_upsertItems (h : Inv s) (hflight : FlightInv s flight) {items : List DriveItem}
    (hsub : ∀ item ∈ items, item ∈ flight.items) :
    ∀ row ∈ (items.foldl upsertItem s.rows).rows,
      Fresh s.history row.comment row.updatedAt ∧ row.updatedAt ≤ s.now := by
  refine forall_upsertItems
    (P := fun comment updatedAt => Fresh s.history comment updatedAt ∧ updatedAt ≤ s.now) ?_ ?_
  · exact fun row hrow => ⟨(h.rows row hrow).fresh, (h.rows row hrow).past⟩
  · intro item hitem
    obtain ⟨hfresh, hpast, -⟩ := hflight.items item (hsub item hitem)
    exact ⟨hfresh, hpast⟩

/-- What the sync has compared is seen once its items are stored. -/
theorem inv_save (h : Inv s) (hflight : flight ∈ s.flights.rows)
    (hread : flight.files = [] ∧ flight.comments = []) :
    Inv { s with
      rows := store s.rows flight.items flight.items.length flight.items.length
      flights := s.flights.put { flight with saved := true }
      seen := s.seen ++ flight.looked.map (·.version) } := by
  have hinv := h.flights flight hflight
  have hlooked : ∀ look ∈ flight.looked,
      look.version ∈ s.seen ++ flight.looked.map (·.version) :=
    fun look hlook => List.mem_append_right _ (List.mem_map_of_mem hlook)
  have hitem : ∀ {comment : GoogleDriveComment}, (∃ item ∈ flight.items, comment = item.comment) →
      Seen (s.seen ++ flight.looked.map (·.version)) comment := by
    rintro _ ⟨item, hitem, rfl⟩
    obtain ⟨-, -, look, hlook, hsame⟩ := hinv.items item hitem
    exact ⟨look.version, hlooked look hlook, congrArg Prod.fst hsame, (congrArg Prod.snd hsame).ge⟩
  have hrows : Inv { s with
      rows := store s.rows flight.items flight.items.length flight.items.length
      seen := s.seen ++ flight.looked.map (·.version) } := by
    refine h.setRows (fun _ hv => List.mem_append_left _ hv) fun row hrow => ?_
    unfold store at hrow
    rw [if_pos le_rfl, List.take_length] at hrow
    obtain ⟨mid, hmid, hcomment, hupdated, hstatus⟩ := mem_saveNotifications hrow
    obtain ⟨hfresh, hpast⟩ := dates_upsertItems h hinv (fun _ hitem => hitem) mid hmid
    refine ⟨hcomment ▸ hupdated ▸ hfresh, hupdated ▸ hpast, fun hsome => ?_⟩
    rw [← hcomment]
    rcases mem_upsertItems hmid with ⟨hold, hothers⟩ | hnew
    · rcases hstatus with hsame | ⟨item, hmem, hid⟩
      · exact ((h.rows mid hold).notified (hsame ▸ hsome)).mono
          fun _ hv => List.mem_append_left _ hv
      · exact absurd ((congrArg GoogleDriveComment.sourceId hcomment).trans hid) (hothers item hmem)
    · exact hitem hnew
  refine hrows.setFlights fun other hother => ?_
  rcases Table.mem_put.mp hother with rfl | ⟨hold, -⟩
  · have hsame := hinv.extend (t := { s with
      rows := store s.rows flight.items flight.items.length flight.items.length
      seen := s.seen ++ flight.looked.map (·.version) }) rfl rfl rfl le_rfl
      fun _ hv => List.mem_append_left _ hv
    exact { hsame with saved := fun _ => ⟨hread.1, hread.2, hlooked⟩ }
  · exact hrows.flights other hold

/-- What a completed sync has not seen comes after the bound of the next one. -/
theorem inv_complete (h : Inv s) (hflight : flight ∈ s.flights.rows)
    (hsaved : flight.saved = true)
    (hguard : ∀ comment ∈ s.drive.comments.rows, flight.listedAt < comment.modifiedTime →
      Seen s.seen comment ∨ floorSecond (pgTimestamp s.now) < comment.modifiedTime) :
    Inv { s with
      lastCompletedAt := some (pgTimestamp s.now)
      flights := s.flights.erase id } := by
  have hinv := h.flights flight hflight
  obtain ⟨hfiles, hcomments, hlooked⟩ := hinv.saved hsaved
  have hbound : floorSecond (pgTimestamp s.now) ≤ s.now :=
    (floorSecond_le _).trans (pgTimestamp_le (h.epoch.trans h.created))
  have hlisted : ∀ c ∈ s.drive.comments.rows, s.createdAt < c.modifiedTime →
      Seen s.seen c ∨ ∃ file ∈ s.drive.files.find? c.fileId,
        floorSecond (pgTimestamp s.now) < file.modifiedTime := by
    intro c hc hcreated
    rcases hinv.snapshot c hc with hsnapshot | hlate
    · left
      rcases hinv.covered c hsnapshot hcreated with hseen | ⟨look, hlook, hsource, hle⟩ |
        ⟨file, hfile, -⟩ | ⟨other, hother, -⟩
      · exact hseen
      · exact ⟨look.version, hlooked look hlook, hsource, hle⟩
      · rw [hfiles] at hfile
        exact (List.not_mem_nil hfile).elim
      · rw [hcomments] at hother
        exact (List.not_mem_nil hother).elim
    · refine (hguard c hc hlate).imp_right fun hafter => ?_
      obtain ⟨file, hfile, hle⟩ := h.touched c hc hcreated
      exact ⟨file, hfile, hafter.trans_le hle⟩
  have hcompleted : Inv { s with lastCompletedAt := some (pgTimestamp s.now) } :=
    { h with
      bound := hbound
      listed := hlisted
      rows := fun row hrow => (h.rows row hrow).extend rfl le_rfl fun _ hv => hv
      flights := fun other hother =>
        (h.flights other hother).extend rfl rfl rfl le_rfl fun _ hv => hv }
  exact hcompleted.setFlights hcompleted.erase

/-- A failed sync leaves items of comments that have no notification. -/
theorem inv_fail {stored saved : Nat} (h : Inv s) (hflight : flight ∈ s.flights.rows)
    (hsaved : stored < flight.items.length ∨ saved = 0)
    (hguard : ∀ item ∈ flight.items.take stored, existingNotification s.rows item.comment = none) :
    Inv { s with
      rows := store s.rows flight.items stored saved
      flights := s.flights.erase id } := by
  have hstore : store s.rows flight.items stored saved =
      (flight.items.take stored).foldl upsertItem s.rows := by
    unfold store
    dsimp only
    split
    · next hle =>
      rw [hsaved.resolve_left hle.not_gt]
      rfl
    · rfl
  rw [hstore]
  have hrows : Inv { s with
      rows := (flight.items.take stored).foldl upsertItem s.rows, seen := s.seen } := by
    refine h.setRows (fun _ hv => hv) fun row hrow => ?_
    obtain ⟨hfresh, hpast⟩ := dates_upsertItems h (h.flights flight hflight)
      (fun _ hitem => List.mem_of_mem_take hitem) row hrow
    refine ⟨hfresh, hpast, fun hstatus => ?_⟩
    rcases mem_upsertItems hrow with ⟨hold, -⟩ | ⟨item, hitem, hsame⟩
    · exact (h.rows row hold).notified hstatus
    · -- The row would have had a notification before.
      obtain ⟨old, hold, hid, hkept⟩ := status_upsertItems hrow hstatus
      have hnone := hguard item hitem
      have hfind : s.rows.find? row.comment.sourceId = some old :=
        Table.find?_eq_some.mpr ⟨hold, hid⟩
      unfold existingNotification at hnone
      rw [← hsame, hfind, Option.bind_some, hkept, Option.map_eq_none_iff] at hnone
      rw [hnone] at hstatus
      cases hstatus
  exact hrows.setFlights hrows.erase

theorem inv_step {i : Input} (h : Inv s) (hstep : step displayName userEmail s i = some t)
    (hguard : SyncGuard displayName userEmail s i) : Inv t := by
  obtain ⟨now, event⟩ := i
  unfold step at hstep
  split at hstep
  · next hnow =>
    have htick : Inv { s with now := now } := h.tick (le_of_lt hnow)
    cases event with
    | upload file =>
      cases hstep
      exact @inv_upload s now file h hnow
    | modify comment =>
      simp only [act] at hstep
      split at hstep
      · cases hstep
        exact @inv_modify s now comment h hnow _
      · cases hstep
    | patch sourceId status =>
      obtain ⟨row, hfind, hthen⟩ := Option.bind_eq_some_iff.mp hstep
      simp only [Option.ite_none_right_eq_some, Option.some.injEq] at hthen
      obtain ⟨hstatus, rfl⟩ := hthen
      exact inv_patch htick (Table.find?_eq_some.mp hfind).1 hstatus
    | fetchFiles id =>
      obtain ⟨flights, hinsert, rfl⟩ := Option.map_eq_some_iff.mp hstep
      refine htick.setFlights fun flight hflight => ?_
      rw [(Table.insert?_eq_some.mp hinsert).2] at hflight
      rcases List.mem_append.mp hflight with hold | hnew
      · exact htick.flights flight hold
      · rw [List.mem_singleton.mp hnew]
        exact flightInv_fetchFiles htick
    | fetchComments id =>
      obtain ⟨flight, hfind, hthen⟩ := Option.bind_eq_some_iff.mp hstep
      have hflight := htick.flights flight (Table.find?_eq_some.mp hfind).1
      split at hthen
      · next file files hfiles hcomments =>
        cases hthen
        exact htick.setFlights
          (htick.put (flightInv_fetchComments htick hflight hfiles hcomments))
      · cases hthen
    | filter id =>
      obtain ⟨flight, hfind, hthen⟩ := Option.bind_eq_some_iff.mp hstep
      have hflight := htick.flights flight (Table.find?_eq_some.mp hfind).1
      split at hthen
      · next comment rest hcomments =>
        cases hthen
        refine htick.setFlights (htick.put (flightInv_filter htick hflight hcomments ?_))
        exact hguard flight hfind comment (by rw [hcomments]; rfl)
      · cases hthen
    | save id =>
      obtain ⟨flight, hfind, hthen⟩ := Option.bind_eq_some_iff.mp hstep
      simp only [Option.ite_none_right_eq_some, Option.some.injEq] at hthen
      obtain ⟨⟨hfiles, hcomments, -⟩, rfl⟩ := hthen
      exact inv_save htick (Table.find?_eq_some.mp hfind).1 ⟨hfiles, hcomments⟩
    | complete id =>
      obtain ⟨flight, hfind, hthen⟩ := Option.bind_eq_some_iff.mp hstep
      simp only [Option.ite_none_right_eq_some, Option.some.injEq] at hthen
      obtain ⟨hsaved, rfl⟩ := hthen
      exact inv_complete htick (Table.find?_eq_some.mp hfind).1 hsaved (hguard flight hfind)
    | fail id stored saved =>
      obtain ⟨flight, hfind, hthen⟩ := Option.bind_eq_some_iff.mp hstep
      simp only [Option.ite_none_right_eq_some, Option.some.injEq] at hthen
      obtain ⟨-, rfl⟩ := hthen
      obtain ⟨-, hprefix, hitems⟩ := hguard flight hfind
      exact inv_fail htick (Table.find?_eq_some.mp hfind).1 hprefix hitems
  · cases hstep

/-- A flight that has read all it listed has compared every comment it was to return. -/
theorem Inv.noGap {i : Input} (h : Inv s) (hstep : step displayName userEmail s i = some t) :
    NoGap s i t := by
  obtain ⟨now, event⟩ := i
  cases event with
  | save id =>
    intro flight hfind comment hcomment hcreated
    have hinv := h.flights flight (Table.find?_eq_some.mp hfind).1
    unfold step at hstep
    simp only [Option.ite_none_right_eq_some] at hstep
    obtain ⟨flight', hfind', hthen⟩ := Option.bind_eq_some_iff.mp hstep.2
    obtain rfl : flight' = flight := Option.some.inj (hfind'.symm.trans hfind)
    simp only [Option.ite_none_right_eq_some, Option.some.injEq] at hthen
    obtain ⟨⟨hfiles, hcomments, -⟩, -⟩ := hthen
    rcases hinv.covered comment hcomment hcreated with hseen | ⟨look, hlook, hsource, hle⟩ |
      ⟨file, hfile, -⟩ | ⟨other, hother, -⟩
    · exact .inl hseen
    · exact .inr ⟨look, hlook, hsource, hle, hinv.returned look hlook⟩
    · rw [hfiles] at hfile
      exact (List.not_mem_nil hfile).elim
    · rw [hcomments] at hother
      exact (List.not_mem_nil hother).elim
  | upload _ | modify _ | patch _ _ | fetchFiles _ | fetchComments _ | filter _ | complete _
  | fail _ _ _ => trivial

end Run

/-- The connection when it is created: what the provider has is older than it. -/
structure Connection where
  createdAt : DateTime
  drive : Drive
  epoch : postgresEpoch ≤ createdAt
  times : ∀ c ∈ drive.comments.rows, ∀ τ ∈ c.times, τ ≤ c.modifiedTime
  before : ∀ c ∈ drive.comments.rows, c.modifiedTime ≤ createdAt

def initial (connection : Connection) : State :=
  { now := connection.createdAt
    drive := connection.drive
    history := connection.drive.comments.rows
    createdAt := connection.createdAt
    lastCompletedAt := none
    rows := Table.empty
    flights := Table.empty
    seen := [] }

theorem inv_initial (connection : Connection) : Inv (initial connection) where
  epoch := connection.epoch
  created := le_rfl
  bound := floorSecond_le _
  present _ hc := hc
  times c hc := ⟨connection.before c hc, connection.times c hc⟩
  current c hc := ⟨c, hc, rfl, rfl, le_rfl⟩
  touched c hc hcreated := absurd hcreated (connection.before c hc).not_gt
  listed c hc hcreated := absurd hcreated (connection.before c hc).not_gt
  rows _ hrow := (Table.not_mem_empty hrow).elim
  flights _ hflight := (Table.not_mem_empty hflight).elim

/-- Seconds after the creation of the connection. -/
def seconds (n : Int) : DateTime := postgresEpoch + n * 1000000000

def emptyDrive : Connection where
  createdAt := seconds 0
  drive := ⟨Table.empty, Table.empty, fun _ hc => (Table.not_mem_empty hc).elim⟩
  epoch := by decide
  times _ hc := (Table.not_mem_empty hc).elim
  before _ hc := (Table.not_mem_empty hc).elim

def notesFile : GoogleDriveFile := ⟨"notes", "Notes", seconds 1, "text/plain"⟩

/-- A comment on the file that mentions `me@x`. -/
def mention (id : String) (now : DateTime) : GoogleDriveComment where
  id
  fileId := "notes"
  fileName := "Notes"
  fileMimeType := "text/plain"
  content := "ask me@x"
  htmlContent := none
  quotedFileContent := none
  author := ⟨"Ann", none, none⟩
  createdTime := now
  modifiedTime := now
  resolved := none
  replies := []
  userEmailAddress := none
  userDisplayName := none

/-- One comment to read from the first second on; `during` comes while the sync is under way. -/
def mentionRun (during after : List Input) : List Input :=
  [⟨seconds 1, .upload notesFile⟩, ⟨seconds 2, .modify (mention "1" (seconds 2))⟩,
    ⟨seconds 3, .fetchFiles 0⟩, ⟨seconds 4, .fetchComments 0⟩] ++ during ++
  [⟨seconds 6, .filter 0⟩, ⟨seconds 7, .save 0⟩, ⟨seconds 8, .complete 0⟩] ++ after

end UniversalInbox.GoogleDriveSync
