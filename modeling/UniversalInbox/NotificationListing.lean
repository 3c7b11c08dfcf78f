import UniversalInbox.Database
import UniversalInbox.Library.Keyset

/-! Listing notifications page by page. The cursor is `updated_at` alone, which several
notifications may share, and Postgres orders such ties differently from one call to the
next. -/
namespace UniversalInbox.NotificationListing
open Keyset

inductive NotificationListOrder where
  | updatedAtAsc
  | updatedAtDesc
deriving DecidableEq, Repr

inductive PageToken where
  | before (updatedAt : DateTime)
  | after (updatedAt : DateTime)
  | offset (offset : Nat)
deriving DecidableEq, Repr

structure Page (α : Type) where
  perPage : Nat
  pagesCount : Nat
  total : Nat
  previousPageToken : Option PageToken
  nextPageToken : Option PageToken
  content : List α

def defaultPageSize : Nat := 25

/-- The arguments of a listing other than the page token. -/
structure Filters where
  status : List NotificationStatus
  includeSnoozedNotifications : Bool
  onlySnoozedNotifications : Bool
  taskId : Option TaskId
  orderBy : NotificationListOrder
  fromSources : List NotificationSourceKind
  userId : UserId

/-- What one call reads: the rows in the order Postgres happens to scan them, and the clock
at each of its two queries. -/
structure Snapshot (db : Database) where
  scan : List NotificationRow
  scan_perm : scan.Perm db.notifications.rows
  countNow : DateTime
  listNow : DateTime

/-- The snooze part of the `WHERE` clause. -/
def snoozeFilter (f : Filters) (now : DateTime) (row : NotificationRow) : Bool :=
  if f.onlySnoozedNotifications then
    row.snoozedUntil.any fun wake => pgTimestamp now < wake
  else if !f.includeSnoozedNotifications then
    row.snoozedUntil.all fun wake => wake ≤ pgTimestamp now
  else true

def tokenFilter (orderBy : NotificationListOrder) (token : Option PageToken)
    (updatedAt : DateTime) : Bool :=
  match token with
  | some (.after t) =>
    match orderBy with
    | .updatedAtAsc => pgTimestamp t < updatedAt
    | .updatedAtDesc => updatedAt < pgTimestamp t
  | some (.before t) =>
    match orderBy with
    | .updatedAtAsc => updatedAt < pgTimestamp t
    | .updatedAtDesc => pgTimestamp t < updatedAt
  | _ => true

def addFilters (f : Filters) (now : DateTime) (token : Option PageToken)
    (row : NotificationRow) : Bool :=
  (f.status.isEmpty || f.status.contains row.status) && row.userId == f.userId &&
    row.setAsideAt.isNone && snoozeFilter f now row &&
    f.taskId.all (fun id => row.taskId == some id) &&
    (f.fromSources.isEmpty || f.fromSources.contains row.kind) &&
    tokenFilter f.orderBy token row.updatedAt

/-- The cast `offset as i64` of a `usize`. -/
def asI64 (offset : Nat) : Int :=
  let wrapped : Nat := offset % 2 ^ 64
  if wrapped < 2 ^ 63 then (wrapped : Int) else (wrapped : Int) - 2 ^ 64

/-- `ORDER BY notification.updated_at`: stable, so that ties keep the scan's order. -/
def orderByUpdatedAt (descending : Bool) (l : List NotificationWithTask) :
    List NotificationWithTask :=
  match descending with
  | false => l.insertionSort fun a b => a.updatedAt ≤ b.updatedAt
  | true => l.insertionSort fun a b => b.updatedAt ≤ a.updatedAt

def isBefore : Option PageToken → Bool
  | some (.before _) => true
  | _ => false

def descending (orderBy : NotificationListOrder) (reverseOrder : Bool) : Bool :=
  match orderBy with
  | .updatedAtAsc => reverseOrder
  | .updatedAtDesc => !reverseOrder

def offsetOf : Option PageToken → Int
  | some (.offset offset) => asI64 offset
  | _ => 0

/-- `total.div_ceil(DEFAULT_PAGE_SIZE)`. -/
def divCeil (a b : Nat) : Nat := (a + b - 1) / b

/-- The source's page size is `defaultPageSize`; it is a parameter here. -/
def fetchAllNotifications (db : Database) (pageSize : Nat) (f : Filters)
    (pageToken : Option PageToken) (snap : Snapshot db) :
    Except UniversalInboxError (Page NotificationWithTask) :=
  let total := (snap.scan.filter (addFilters f snap.countNow none)).length
  let reverseOrder := isBefore pageToken
  let rows := (snap.scan.filter (addFilters f snap.listNow pageToken)).filterMap db.joinNotification
  let sorted := orderByUpdatedAt (descending f.orderBy reverseOrder) rows
  if offsetOf pageToken < 0 then
    .error (.databaseError
      "Failed to fetch notifications from storage: OFFSET must not be negative")
  else
    let records := (sorted.drop (offsetOf pageToken).toNat).take pageSize
    let content := if reverseOrder then records.reverse else records
    .ok
      { perPage := pageSize
        pagesCount := divCeil total pageSize
        total
        previousPageToken := content.head?.map fun n => .before n.updatedAt
        nextPageToken := content.getLast?.map fun n => .after n.updatedAt
        content }

/-- A client that follows `next_page_token` until it is empty, the `i`-th call reading the
`i`-th snapshot. `none` when a call fails or `fuel` calls were not enough. -/
def followNextPageToken (db : Database) (pageSize : Nat) (f : Filters)
    (snaps : Nat → Snapshot db) : Nat → Nat → Option PageToken → Option (List NotificationWithTask)
  | 0, _, _ => none
  | fuel + 1, call, token =>
    match fetchAllNotifications db pageSize f token (snaps call) with
    | .error _ => none
    | .ok page =>
      match page.nextPageToken with
      | none => some page.content
      | some next =>
        (followNextPageToken db pageSize f snaps fuel (call + 1) (some next)).map
          (page.content ++ ·)

/-- The notifications matching the filters at a given clock. -/
def matching (db : Database) (f : Filters) (now : DateTime) : List NotificationWithTask :=
  (db.notifications.rows.filter (addFilters f now none)).filterMap db.joinNotification

/-- The sort column read in the requested direction. -/
def listingKey (f : Filters) (n : NotificationWithTask) : Int :=
  match f.orderBy with
  | .updatedAtAsc => n.updatedAt
  | .updatedAtDesc => -n.updatedAt

/-- No notification starts or stops matching between the calls: the rows are the same, and no
snooze ends in between. -/
def MatchingUnchanged (db : Database) (f : Filters) (now : DateTime)
    (snaps : Nat → Snapshot db) : Prop :=
  ∀ i, ∀ row ∈ db.notifications.rows,
    addFilters f (snaps i).listNow none row = addFilters f now none row

/-- The position, in the listing, of the first notification of the page a token asks for. -/
def pageStart (db : Database) (pageSize : Nat) (f : Filters) (now : DateTime) :
    Option PageToken → Nat
  | none => 0
  | some (.offset offset) => offset % 2 ^ 64
  | some (.after t) =>
    ((matching db f now).filter fun n =>
      !tokenFilter f.orderBy (some (.after t)) n.updatedAt).length
  | some (.before t) =>
    ((matching db f now).filter fun n =>
      tokenFilter f.orderBy (some (.before t)) n.updatedAt).length - pageSize

/-- Following the next page tokens ends and shows every matching notification exactly once,
in listing order. -/
def VisitsEveryMatch (db : Database) (pageSize : Nat) (f : Filters) (now : DateTime)
    (snaps : Nat → Snapshot db) : Prop :=
  ∃ fuel visited, followNextPageToken db pageSize f snaps fuel 0 none = some visited ∧
    IsListing (listingKey f) (matching db f now) visited

/-- The page behind `token` is the notifications immediately preceding `page`, itself
standing at position `start`. -/
def YieldsPreceding (db : Database) (pageSize : Nat) (f : Filters) (now : DateTime)
    (snap : Snapshot db) (token : PageToken) (start : Nat)
    (page : Page NotificationWithTask) : Prop :=
  ∃ previous, fetchAllNotifications db pageSize f (some token) snap = .ok previous ∧
    ∃ A B, IsListing (listingKey f) (matching db f now)
        (A ++ previous.content ++ page.content ++ B) ∧
      A.length + previous.content.length = start ∧
      previous.content.length = min pageSize start

/-- The bound of a token on the sort column, read in the requested direction. -/
def tokenKey (f : Filters) (t : DateTime) : Int :=
  match f.orderBy with
  | .updatedAtAsc => pgTimestamp t
  | .updatedAtDesc => -pgTimestamp t

section Filtering
variable {db : Database} {f : Filters} {now : DateTime} {n : NotificationWithTask}

theorem addFilters_token (token : Option PageToken) (row : NotificationRow) :
    addFilters f now token row =
      (addFilters f now none row && tokenFilter f.orderBy token row.updatedAt) := by
  simp [addFilters, tokenFilter]

theorem tokenFilter_after (t : DateTime) :
    tokenFilter f.orderBy (some (.after t)) n.updatedAt = true ↔
      past (listingKey f) (some (tokenKey f t)) n := by
  unfold past listingKey tokenKey tokenFilter
  cases f.orderBy with
  | updatedAtAsc => simp
  | updatedAtDesc => simp

theorem tokenFilter_before (t : DateTime) :
    tokenFilter f.orderBy (some (.before t)) n.updatedAt = true ↔
      listingKey f n < tokenKey f t := by
  unfold listingKey tokenKey tokenFilter
  cases f.orderBy with
  | updatedAtAsc => simp
  | updatedAtDesc => simp

/-- Keeping rows by their sort column commutes with the join, which does not touch it. -/
theorem filterMap_joinNotification_filter (q : DateTime → Bool) (rows : List NotificationRow) :
    (rows.filter fun row => q row.updatedAt).filterMap db.joinNotification =
      (rows.filterMap db.joinNotification).filter fun n => q n.updatedAt := by
  rw [List.filterMap_filter, List.filter_filterMap]
  congr 1
  funext row
  cases hjoin : db.joinNotification row with
  | none => simp
  | some n =>
    rw [← (Database.joinNotification_id hjoin).2]
    cases hq : q n.updatedAt with
    | false => simp [Option.filter, hq]
    | true => simp [Option.filter, hq]

theorem matching_updatedAt (h : n ∈ matching db f now) : pgTimestamp n.updatedAt = n.updatedAt := by
  obtain ⟨row, hrow, hjoin⟩ := List.mem_filterMap.mp h
  rw [(Database.joinNotification_id hjoin).2]
  exact db.notification_updatedAt row (List.mem_filter.mp hrow).1

theorem tokenKey_updatedAt (h : n ∈ matching db f now) : tokenKey f n.updatedAt = listingKey f n := by
  unfold tokenKey listingKey
  rw [matching_updatedAt h]

theorem filterMap_joinNotification_ids (rows : List NotificationRow)
    (h : ∀ row ∈ rows, row ∈ db.notifications.rows) :
    (rows.filterMap db.joinNotification).map (·.id) = rows.map (·.id) := by
  induction rows with
  | nil => rfl
  | cons row rows ih =>
    obtain ⟨n, hn⟩ := Option.isSome_iff_exists.mp
      (Database.joinNotification_isSome (h row List.mem_cons_self))
    rw [List.filterMap_cons_some hn, List.map_cons, List.map_cons,
      (Database.joinNotification_id hn).1, ih fun r hr => h r (List.mem_cons_of_mem _ hr)]

/-- No matching row is lost to the join: the listing is about the stored notifications. -/
theorem matching_ids (db : Database) (f : Filters) (now : DateTime) :
    (matching db f now).map (·.id) =
      (db.notifications.rows.filter (addFilters f now none)).map (·.id) :=
  filterMap_joinNotification_ids _ fun _ h => (List.mem_filter.mp h).1

end Filtering

section Pages
variable {db : Database} {pageSize : Nat} {f : Filters} {now : DateTime}
  {token : Option PageToken} {snap : Snapshot db} {page : Page NotificationWithTask}

/-- What the rows of a call are, whatever the order they were scanned in. -/
theorem listed_perm (token : Option PageToken) (hsame : ∀ row ∈ db.notifications.rows,
      addFilters f snap.listNow none row = addFilters f now none row) :
    ((snap.scan.filter (addFilters f snap.listNow token)).filterMap db.joinNotification).Perm
      ((matching db f now).filter fun n => tokenFilter f.orderBy token n.updatedAt) := by
  have hfilter : snap.scan.filter (addFilters f snap.listNow token) =
      (snap.scan.filter (addFilters f now none)).filter fun row =>
        tokenFilter f.orderBy token row.updatedAt := by
    rw [List.filter_filter]
    apply List.filter_congr
    intro row hrow
    rw [addFilters_token, hsame row (snap.scan_perm.mem_iff.mp hrow), Bool.and_comm]
  rw [hfilter, filterMap_joinNotification_filter]
  exact ((snap.scan_perm.filter _).filterMap _).filter _

theorem orderByUpdatedAt_isListing (l : List NotificationWithTask) :
    IsListing (listingKey f) l (orderByUpdatedAt (descending f.orderBy false) l) := by
  unfold orderByUpdatedAt descending
  cases horder : f.orderBy with
  | updatedAtAsc =>
    exact isListing_insertionSort _ (fun a b => by simp [listingKey, horder]) l
  | updatedAtDesc =>
    exact isListing_insertionSort _ (fun a b => by simp [listingKey, horder]) l

theorem orderByUpdatedAt_reverse_isListing (l : List NotificationWithTask) :
    IsListing (listingKey f) l (orderByUpdatedAt (descending f.orderBy true) l).reverse := by
  unfold orderByUpdatedAt descending
  cases horder : f.orderBy with
  | updatedAtAsc =>
    exact isListing_reverse_insertionSort _ (fun a b => by simp [listingKey, horder]) l
  | updatedAtDesc =>
    exact isListing_reverse_insertionSort _ (fun a b => by simp [listingKey, horder]) l

/-- The page a token asks for, in terms of the listing. -/
def IsPage (db : Database) (pageSize : Nat) (f : Filters) (now : DateTime)
    (content : List NotificationWithTask) : Option PageToken → Prop
  | none => PageAfter (listingKey f) pageSize (matching db f now) none content
  | some (.after t) =>
    PageAfter (listingKey f) pageSize (matching db f now) (some (tokenKey f t)) content
  | some (.before t) => PageBefore (listingKey f) pageSize (matching db f now) (tokenKey f t) content
  | some (.offset offset) =>
    PageAt (listingKey f) pageSize (matching db f now) (offset % 2 ^ 64) content

theorem fetchAllNotifications_ok (h : fetchAllNotifications db pageSize f token snap = .ok page) :
    0 ≤ offsetOf token ∧
      page.previousPageToken = page.content.head?.map (fun n => .before n.updatedAt) ∧
      page.nextPageToken = page.content.getLast?.map (fun n => .after n.updatedAt) := by
  unfold fetchAllNotifications at h
  simp only at h
  split at h
  · cases h
  · next hoffset =>
    cases h
    exact ⟨not_lt.mp hoffset, rfl, rfl⟩

theorem asI64_toNat {offset : Nat} (h : 0 ≤ asI64 offset) : (asI64 offset).toNat = offset % 2 ^ 64 := by
  unfold asI64 at h ⊢
  simp only at h ⊢
  split at h <;> omega

theorem fetchAllNotifications_isPage
    (hsame : ∀ row ∈ db.notifications.rows,
      addFilters f snap.listNow none row = addFilters f now none row)
    (h : fetchAllNotifications db pageSize f token snap = .ok page) :
    IsPage db pageSize f now page.content token := by
  have hoffset := (fetchAllNotifications_ok h).1
  have hperm := listed_perm token hsame
  unfold fetchAllNotifications at h
  simp only [not_lt.mpr hoffset, if_false] at h
  cases h
  simp only
  generalize hrows : (snap.scan.filter (addFilters f snap.listNow token)).filterMap
    db.joinNotification = rows at hperm
  match token with
  | none =>
    have hall : (matching db f now).filter (fun n => tokenFilter f.orderBy none n.updatedAt) =
        remaining (listingKey f) (matching db f now) none := by
      unfold remaining
      exact List.filter_congr fun n _ => by simp [tokenFilter, past]
    rw [hall] at hperm
    have hl := orderByUpdatedAt_isListing (f := f) rows
    exact ⟨_, ⟨hl.1.trans hperm, hl.2⟩, by simp [isBefore, offsetOf]⟩
  | some (.after t) =>
    have hall : (matching db f now).filter
          (fun n => tokenFilter f.orderBy (some (.after t)) n.updatedAt) =
        remaining (listingKey f) (matching db f now) (some (tokenKey f t)) := by
      unfold remaining
      exact List.filter_congr fun n _ => by
        rw [Bool.eq_iff_iff, tokenFilter_after, decide_eq_true_iff]
    rw [hall] at hperm
    have hl := orderByUpdatedAt_isListing (f := f) rows
    exact ⟨_, ⟨hl.1.trans hperm, hl.2⟩, by simp [isBefore, offsetOf]⟩
  | some (.before t) =>
    have hall : (matching db f now).filter
          (fun n => tokenFilter f.orderBy (some (.before t)) n.updatedAt) =
        (matching db f now).filter fun n => listingKey f n < tokenKey f t :=
      List.filter_congr fun n _ => by
        rw [Bool.eq_iff_iff, tokenFilter_before, decide_eq_true_iff]
    rw [hall] at hperm
    have hl := orderByUpdatedAt_reverse_isListing (f := f) rows
    exact ⟨_, ⟨hl.1.trans hperm, hl.2⟩, by simp [isBefore, offsetOf, List.reverse_take]⟩
  | some (.offset offset) =>
    have hall : (matching db f now).filter
          (fun n => tokenFilter f.orderBy (some (.offset offset)) n.updatedAt) =
        matching db f now := List.filter_eq_self.mpr fun n _ => rfl
    rw [hall] at hperm
    have hl := orderByUpdatedAt_isListing (f := f) rows
    exact ⟨_, ⟨hl.1.trans hperm, hl.2⟩, by simp [isBefore, offsetOf, asI64_toNat hoffset]⟩

theorem IsPage.mem_matching {content : List NotificationWithTask}
    (h : IsPage db pageSize f now content token) {n : NotificationWithTask} (hn : n ∈ content) :
    n ∈ matching db f now := by
  match token, h with
  | none, ⟨l, hl, hc⟩ =>
    subst hc
    exact (List.mem_filter.mp (hl.mem_iff.mp (List.mem_of_mem_take hn))).1
  | some (.after _), ⟨l, hl, hc⟩ =>
    subst hc
    exact (List.mem_filter.mp (hl.mem_iff.mp (List.mem_of_mem_take hn))).1
  | some (.before _), ⟨l, hl, hc⟩ =>
    subst hc
    exact (List.mem_filter.mp (hl.mem_iff.mp (List.mem_of_mem_drop hn))).1
  | some (.offset _), ⟨l, hl, hc⟩ =>
    subst hc
    exact hl.mem_iff.mp (List.mem_of_mem_drop (List.mem_of_mem_take hn))

/-- Every page that shows something stands at its token's position in the listing. -/
theorem IsPage.window {content : List NotificationWithTask}
    (h : IsPage db pageSize f now content token) (hne : content ≠ []) :
    Window (listingKey f) (matching db f now) (pageStart db pageSize f now token) content := by
  match token, h with
  | none, h =>
    have hall : remaining (listingKey f) (matching db f now) none = matching db f now :=
      List.filter_eq_self.mpr fun n _ => by simp [past]
    have hw := PageAfter.window h
    rw [hall, Nat.sub_self] at hw
    exact hw
  | some (.after t), h =>
    have hw := PageAfter.window h
    have hcount := List.length_eq_length_filter_add (l := matching db f now)
      fun n => tokenFilter f.orderBy (some (.after t)) n.updatedAt
    have hrem : remaining (listingKey f) (matching db f now) (some (tokenKey f t)) =
        (matching db f now).filter fun n => tokenFilter f.orderBy (some (.after t)) n.updatedAt :=
      List.filter_congr fun n _ => by
        rw [Bool.eq_iff_iff, tokenFilter_after, decide_eq_true_iff]
    rw [hrem] at hw
    have hstart : pageStart db pageSize f now (some (.after t)) = (matching db f now).length -
        ((matching db f now).filter fun n =>
          tokenFilter f.orderBy (some (.after t)) n.updatedAt).length := by
      simp only [pageStart]
      omega
    rwa [hstart]
  | some (.before t), h =>
    have hw := PageBefore.window h
    have hlt : (matching db f now).filter (fun n => listingKey f n < tokenKey f t) =
        (matching db f now).filter fun n => tokenFilter f.orderBy (some (.before t)) n.updatedAt :=
      List.filter_congr fun n _ => by
        rw [Bool.eq_iff_iff, tokenFilter_before, decide_eq_true_iff]
    rw [hlt] at hw
    exact hw
  | some (.offset offset), h => exact PageAt.window h hne

end Pages

section Walking
variable {db : Database} {pageSize : Nat} {f : Filters} {now : DateTime}
  {snaps : Nat → Snapshot db}

/-- Where a token of a forward walk stands on the sort column. -/
def tokenCursor (f : Filters) : Option PageToken → Option Int
  | some (.after t) => some (tokenKey f t)
  | _ => none

def IsForward : Option PageToken → Prop
  | none | some (.after _) => True
  | _ => False

theorem IsPage.pageAfter {token : Option PageToken} {content : List NotificationWithTask}
    (hforward : IsForward token) (h : IsPage db pageSize f now content token) :
    PageAfter (listingKey f) pageSize (matching db f now) (tokenCursor f token) content :=
  match token, hforward, h with
  | none, _, h => h
  | some (.after _), _, h => h

theorem fetchAllNotifications_forward_ok (pageSize : Nat) (f : Filters) {token : Option PageToken}
    (hforward : IsForward token) (snap : Snapshot db) : ∃ page, fetchAllNotifications db pageSize f token snap = .ok page :=
  match token, hforward with
  | none, _ => ⟨_, rfl⟩
  | some (.after _), _ => ⟨_, rfl⟩

theorem followNextPageToken_walk (hsame : MatchingUnchanged db f now snaps) {fuel call : Nat}
    {token : Option PageToken} (hforward : IsForward token) {visited : List NotificationWithTask}
    (h : followNextPageToken db pageSize f snaps fuel call token = some visited) :
    Walk (listingKey f) pageSize (matching db f now) (tokenCursor f token) visited := by
  induction fuel generalizing call token visited with
  | zero => cases h
  | succ fuel ih =>
    obtain ⟨page, hpage⟩ := fetchAllNotifications_forward_ok pageSize f hforward
      (snaps call)
    have hnext := (fetchAllNotifications_ok hpage).2.2
    have hIsPage := fetchAllNotifications_isPage (hsame call) hpage
    have hafter := hIsPage.pageAfter hforward
    simp only [followNextPageToken, hpage, hnext] at h
    cases hlast : page.content.getLast? with
    | none =>
      simp only [hlast, Option.map_none, Option.some.injEq] at h
      rw [List.getLast?_eq_none_iff.mp hlast] at h hafter
      subst h
      exact .stop hafter
    | some n =>
      simp only [hlast, Option.map_some, Option.map_eq_some_iff] at h
      obtain ⟨rest, hrest, rfl⟩ := h
      have hkey := tokenKey_updatedAt (hIsPage.mem_matching (List.mem_of_getLast? hlast))
      have hforward' : IsForward (some (.after n.updatedAt)) := trivial
      have hwalk := ih hforward' hrest
      rw [tokenCursor, hkey] at hwalk
      exact .next hafter hlast hwalk

/-- One call more than there are notifications left is enough to reach an empty page. -/
theorem followNextPageToken_terminates (hsame : MatchingUnchanged db f now snaps)
    {fuel call : Nat} {token : Option PageToken} (hforward : IsForward token)
    (hfuel : (remaining (listingKey f) (matching db f now) (tokenCursor f token)).length < fuel) :
    ∃ visited, followNextPageToken db pageSize f snaps fuel call token = some visited := by
  induction fuel generalizing call token with
  | zero => omega
  | succ fuel ih =>
    obtain ⟨page, hpage⟩ := fetchAllNotifications_forward_ok pageSize f hforward
      (snaps call)
    have hnext := (fetchAllNotifications_ok hpage).2.2
    have hIsPage := fetchAllNotifications_isPage (hsame call) hpage
    simp only [followNextPageToken, hpage, hnext]
    cases hlast : page.content.getLast? with
    | none => exact ⟨_, rfl⟩
    | some n =>
      have hkey := tokenKey_updatedAt (hIsPage.mem_matching (List.mem_of_getLast? hlast))
      have hless := remaining_next_le (hIsPage.pageAfter hforward) hlast
      have hpos := List.length_pos_of_mem (List.mem_of_getLast? hlast)
      have hforward' : IsForward (some (.after n.updatedAt)) := trivial
      obtain ⟨rest, hrest⟩ : ∃ rest, followNextPageToken db pageSize f snaps fuel (call + 1)
          (some (.after n.updatedAt)) = some rest := ih hforward' (by rw [tokenCursor, hkey]; omega)
      exact ⟨page.content ++ rest, by simp [hrest]⟩

theorem matching_remaining :
    remaining (listingKey f) (matching db f now) (tokenCursor f none) = matching db f now :=
  List.filter_eq_self.mpr fun n _ => by simp [past, tokenCursor]

/-- The walk is complete exactly when no page boundary separates two matching notifications
of equal `updated_at`. -/
theorem visitsEveryMatch_iff (hn : 1 ≤ pageSize) (hsame : MatchingUnchanged db f now snaps) :
    VisitsEveryMatch db pageSize f now snaps ↔
      ∀ k, CleanCut (sortedKeys (listingKey f) (matching db f now)) (k * pageSize) := by
  obtain ⟨l, hl⟩ := exists_listing (listingKey f) (matching db f now)
  have hl' : IsListing (listingKey f)
      (remaining (listingKey f) (matching db f now) (tokenCursor f none)) l := by
    rw [matching_remaining]; exact hl
  rw [← hl.map_key]
  have hforward : IsForward none := trivial
  constructor
  · rintro ⟨fuel, visited, hfollow, hlisting⟩
    have hwalk := followNextPageToken_walk hsame hforward hfollow
    exact (hwalk.perm_iff_cleanCut hn hl').mp (by rw [matching_remaining]; exact hlisting.1)
  · intro hcuts
    obtain ⟨visited, hfollow⟩ : ∃ visited, followNextPageToken db pageSize f snaps
        ((remaining (listingKey f) (matching db f now) (tokenCursor f none)).length + 1) 0 none =
          some visited := followNextPageToken_terminates hsame hforward (Nat.lt_succ_self _)
    have hwalk := followNextPageToken_walk hsame hforward hfollow
    have hperm := (hwalk.perm_iff_cleanCut hn hl').mpr hcuts
    rw [matching_remaining] at hperm
    exact ⟨_, visited, hfollow, hperm, hwalk.sorted⟩

/-- The page before is the right one exactly when no tie crosses the start of the page. -/
theorem yieldsPreceding_iff (hn : 1 ≤ pageSize) {snap snap' : Snapshot db}
    (hsame : ∀ row ∈ db.notifications.rows,
      addFilters f snap.listNow none row = addFilters f now none row)
    (hsame' : ∀ row ∈ db.notifications.rows,
      addFilters f snap'.listNow none row = addFilters f now none row)
    {token : Option PageToken} {page : Page NotificationWithTask}
    (hpage : fetchAllNotifications db pageSize f token snap = .ok page) {before : PageToken}
    (hbefore : page.previousPageToken = some before) :
    YieldsPreceding db pageSize f now snap' before (pageStart db pageSize f now token) page ↔
      CleanCut (sortedKeys (listingKey f) (matching db f now))
        (pageStart db pageSize f now token) := by
  have hIsPage := fetchAllNotifications_isPage hsame hpage
  rw [(fetchAllNotifications_ok hpage).2.1, Option.map_eq_some_iff] at hbefore
  obtain ⟨n, hhead, rfl⟩ := hbefore
  have hmem := List.mem_of_mem_head? hhead
  have hne : page.content ≠ [] := List.ne_nil_of_mem hmem
  obtain ⟨previous, hprevious⟩ :
      ∃ previous, fetchAllNotifications db pageSize f (some (.before n.updatedAt)) snap' =
        .ok previous := ⟨_, rfl⟩
  have hq := fetchAllNotifications_isPage hsame' hprevious
  simp only [IsPage, tokenKey_updatedAt (hIsPage.mem_matching hmem)] at hq
  have hiff := previous_iff_cleanCut hn (hIsPage.window hne) hhead hq
  rw [← hiff]
  unfold YieldsPreceding
  constructor
  · rintro ⟨previous', hprevious', h⟩
    cases hprevious.symm.trans hprevious'
    exact h
  · intro h
    exact ⟨previous, hprevious, h⟩

/-- Paging is exact up to ties: forward, the boundaries at the multiples of the page size
decide; backward, the start of the page one comes from. -/
theorem fetchAllNotifications_exact_iff_no_tie (hn : 1 ≤ pageSize)
    (hsame : MatchingUnchanged db f now snaps) :
    (VisitsEveryMatch db pageSize f now snaps ↔
      ∀ k, CleanCut (sortedKeys (listingKey f) (matching db f now)) (k * pageSize)) ∧
    ∀ i j token page before,
      fetchAllNotifications db pageSize f token (snaps i) = .ok page →
      page.previousPageToken = some before →
      (YieldsPreceding db pageSize f now (snaps j) before (pageStart db pageSize f now token) page ↔
        CleanCut (sortedKeys (listingKey f) (matching db f now))
          (pageStart db pageSize f now token)) :=
  ⟨visitsEveryMatch_iff hn hsame, fun i j _ _ _ hpage hbefore =>
    yieldsPreceding_iff hn (hsame i) (hsame j) hpage hbefore⟩

end Walking

section Ties

def sharedItem : ThirdPartyItemRow :=
  { id := ⟨0⟩, sourceId := "thread", data := .githubNotification "", createdAt := 0, updatedAt := 0,
    userId := ⟨0⟩, integrationConnectionId := ⟨0⟩, sourceItemId := none }

/-- The `i`-th notification of a burst stored within one microsecond. -/
def tiedNotification (i : Nat) : NotificationRow :=
  { id := ⟨i⟩, title := "review requested", status := .unread, createdAt := 0,
    updatedAt := postgresEpoch, lastReadAt := none, snoozedUntil := none, setAsideAt := none,
    userId := ⟨0⟩, taskId := none, kind := .github, sourceItemId := ⟨0⟩ }

def tiedDatabase (n : Nat) : Database where
  thirdPartyItems := ⟨[sharedItem], List.nodup_singleton _⟩
  tasks := Table.empty
  notifications := ⟨(List.range n).map tiedNotification, by
    rw [List.map_map]
    exact List.nodup_range.map fun a b h => by simpa [tiedNotification] using h⟩
  item_constraints := by decide
  task_source := fun _ h => (Table.not_mem_empty h).elim
  task_sink := fun _ h => (Table.not_mem_empty h).elim
  task_parent := Database.empty.task_parent
  task_source_unique := Database.empty.task_source_unique
  task_sink_unique := Database.empty.task_sink_unique
  notification_source := by
    intro r hr
    obtain ⟨i, _, rfl⟩ := List.mem_map.mp hr
    rfl
  notification_task := by
    intro r hr i hi
    obtain ⟨_, _, rfl⟩ := List.mem_map.mp hr
    cases hi
  notification_updatedAt := by
    intro r hr
    obtain ⟨_, _, rfl⟩ := List.mem_map.mp hr
    show pgTimestamp postgresEpoch = postgresEpoch
    decide

def storedOrder (db : Database) : Snapshot db :=
  { scan := db.notifications.rows, scan_perm := .refl _, countNow := 0, listNow := 0 }

def inbox : Filters :=
  { status := [.unread, .read], includeSnoozedNotifications := false,
    onlySnoozedNotifications := false, taskId := none, orderBy := .updatedAtDesc,
    fromSources := [], userId := ⟨0⟩ }

theorem exact_iff_no_tie_burst :
    VisitsEveryMatch (tiedDatabase 26) defaultPageSize inbox 0 (fun _ => storedOrder _) ↔
      ∀ k, CleanCut (sortedKeys (listingKey inbox) (matching (tiedDatabase 26) inbox 0))
        (k * defaultPageSize) :=
  (fetchAllNotifications_exact_iff_no_tie (by decide) fun _ _ _ => rfl).1

/-- The 26th of 26 tied notifications is never shown. -/
theorem visitsEveryMatch_fails_on_tie :
    ¬ VisitsEveryMatch (tiedDatabase 26) defaultPageSize inbox 0 (fun _ => storedOrder _) := by
  have hsame : MatchingUnchanged (tiedDatabase 26) inbox 0 fun _ => storedOrder _ :=
    fun _ _ _ => rfl
  rw [visitsEveryMatch_iff (by decide) hsame]
  intro h
  have hcut := h 1
  revert hcut
  decide

end Ties

end UniversalInbox.NotificationListing
