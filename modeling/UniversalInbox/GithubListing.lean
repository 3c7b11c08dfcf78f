import UniversalInbox.GithubUrls
import UniversalInbox.Library.OffsetPages
import UniversalInbox.Library.Results
import Mathlib.Data.List.Forall2

/-! The notifications that a sync reads from GitHub, page by page, while GitHub goes on adding and
moving them. -/
namespace UniversalInbox.GithubListing
open GithubUrls OffsetPages

variable {Details PullRequest Discussion ε : Type}

/-- `details` are the fields that are copied as they are. -/
structure RawGithubNotification (Details : Type) where
  id : String
  subjectUrl : Option Url
  details : Details

inductive GithubNotificationItem (PullRequest Discussion : Type) where
  | githubPullRequest (pullRequest : PullRequest)
  | githubDiscussion (discussion : Discussion)

structure GithubNotification (Details PullRequest Discussion : Type) extends
    RawGithubNotification Details where
  item : Option (GithubNotificationItem PullRequest Discussion)

/-- The API of GitHub during one sync; a query is converted as it is answered. -/
structure Github (Details PullRequest Discussion ε : Type) where
  fetchNotifications : Nat → Except ε (List (RawGithubNotification Details))
  queryPullRequest : List Char → List Char → I64 → Except ε PullRequest
  queryDiscussion : List Char → List Char → I64 → Except ε Discussion

variable (github : Github Details PullRequest Discussion ε)

def fetchGithubNotificationItem (raw : RawGithubNotification Details) :
    Except ε (Option (GithubNotificationItem PullRequest Discussion)) :=
  match raw.subjectUrl.map GithubUrl.tryFromApiUrl with
  | some (.ok (.pullRequest owner repository number)) =>
    (github.queryPullRequest owner repository number).map fun pullRequest =>
      some (.githubPullRequest pullRequest)
  | some (.ok (.discussion owner repository number)) =>
    (github.queryDiscussion owner repository number).map fun discussion =>
      some (.githubDiscussion discussion)
  | some (.error _) | none => .ok none

def toGithubNotification (raw : RawGithubNotification Details) :
    Except ε (GithubNotification Details PullRequest Discussion) :=
  (fetchGithubNotificationItem github raw).map fun item => { raw with item }

/-- `fetch_items`; `none` when the pages do not end within the fuel. -/
def fetchItems (pageSize fuel : Nat) :
    Option (Except ε (List (GithubNotification Details PullRequest Discussion))) :=
  (collect pageSize github.fetchNotifications fuel 1).map fun raws =>
    raws.bind fun raws => raws.mapM (toGithubNotification github)

/-- What a sync has read: nothing that was not listed; what was listed from the first request to the
last without moving up, whatever became of its details meanwhile; and all, in its order, of a listing
that has stayed as it was. -/
structure Complete (listings : Nat → List (RawGithubNotification Details))
    (items : List (GithubNotification Details PullRequest Discussion)) : Prop where
  listed : ∀ n ∈ items, ∃ page raw, raw ∈ listings page ∧ toGithubNotification github raw = .ok n
  kept : ∀ id (raw : Nat → RawGithubNotification Details) (index : Nat → Nat), Monotone index →
    (∀ page, 1 ≤ page → (listings page)[index page]? = some (raw page) ∧ (raw page).id = id) →
      ∃ n ∈ items, n.id = id ∧ ∃ page, 1 ≤ page ∧ toGithubNotification github (raw page) = .ok n
  unchanged : ∀ listing, (∀ page, 1 ≤ page → listings page = listing) →
    List.Forall₂ (fun raw n => toGithubNotification github raw = .ok n) listing items

variable {github} {listings : Nat → List (RawGithubNotification Details)}
  {raws : List (RawGithubNotification Details)}
  {items : List (GithubNotification Details PullRequest Discussion)} {pageSize fuel : Nat}

theorem forall₂_of_mapM {α β : Type} {f : α → Except ε β} {l : List α} {l' : List β}
    (h : l.mapM f = .ok l') : List.Forall₂ (fun a b => f a = .ok b) l l' := by
  induction l generalizing l' with
  | nil =>
    cases h
    exact .nil
  | cons a l ih =>
    rw [List.mapM_cons] at h
    obtain ⟨b, hb, h⟩ := Results.bind_eq_ok.mp h
    obtain ⟨bs, hbs, h⟩ := Results.bind_eq_ok.mp h
    cases h
    exact .cons hb (ih hbs)

theorem exists_of_forall₂ {α β : Type} {R : α → β → Prop} {l : List α} {l' : List β}
    (h : List.Forall₂ R l l') {a : α} (ha : a ∈ l) : ∃ b ∈ l', R a b := by
  induction h with
  | nil => cases ha
  | @cons c d l l' hr _ ih =>
    obtain rfl | ha := List.mem_cons.mp ha
    · exact ⟨d, List.mem_cons_self, hr⟩
    · obtain ⟨b, hb, hab⟩ := ih ha
      exact ⟨b, List.mem_cons_of_mem _ hb, hab⟩

theorem id_toGithubNotification {raw : RawGithubNotification Details}
    {n : GithubNotification Details PullRequest Discussion}
    (h : toGithubNotification github raw = .ok n) : n.id = raw.id := by
  unfold toGithubNotification at h
  cases hitem : fetchGithubNotificationItem github raw with
  | error e =>
    rw [hitem] at h
    cases h
  | ok item =>
    rw [hitem] at h
    cases h
    rfl

theorem complete_of_collect (hserves : Serves pageSize listings github.fetchNotifications)
    (hcollect : collect pageSize github.fetchNotifications fuel 1 = some (.ok raws))
    (hitems : raws.mapM (toGithubNotification github) = .ok items) :
    Complete github listings items := by
  have hpairs := forall₂_of_mapM hitems
  constructor
  · intro n hn
    obtain ⟨raw, hraw, hof⟩ := exists_of_forall₂ (List.Forall₂.flip hpairs) hn
    obtain ⟨page, -, hmem⟩ := listed_of_collect hserves hcollect hraw
    exact ⟨page, raw, hmem, hof⟩
  · intro id raw index hindex hlisted
    obtain ⟨page, hpage, hraw⟩ := mem_of_collect hserves hcollect (le_refl 1) hindex
      (fun page hpage => (hlisted page hpage).1)
      (by rw [Nat.sub_self, Nat.zero_mul]; exact Nat.zero_le _)
    obtain ⟨n, hn, hof⟩ := exists_of_forall₂ hpairs hraw
    exact ⟨n, hn, (id_toGithubNotification hof).trans (hlisted page hpage).2, page, hpage, hof⟩
  · intro listing hlistings
    have hraws := eq_of_collect hserves hcollect (le_refl 1) hlistings
    rw [Nat.sub_self, Nat.zero_mul, List.drop_zero] at hraws
    exact hraws ▸ hpairs

/-- A sync of listings that stay short comes to an end, and unless it fails it has read what was
there throughout. -/
theorem fetchItems_complete (hserves : Serves pageSize listings github.fetchNotifications)
    (hsize : 0 < pageSize) {n : Nat} (hbound : ∀ page, (listings page).length ≤ n) :
    ∃ result, fetchItems github pageSize (n / pageSize + 1) = some result ∧
      ∀ items, result = .ok items → Complete github listings items := by
  have hfuel : n < (1 - 1 + (n / pageSize + 1)) * pageSize := by
    rw [Nat.sub_self, Nat.zero_add]
    exact Nat.lt_mul_of_div_lt (Nat.lt_succ_self _) hsize
  have hstart : (1 - 1) * pageSize ≤ n := by
    rw [Nat.sub_self, Nat.zero_mul]
    exact Nat.zero_le n
  obtain ⟨raws, hcollect⟩ := Option.isSome_iff_exists.mp
    (collect_isSome hserves (le_refl 1) hbound hfuel hstart)
  refine ⟨_, by rw [fetchItems, hcollect, Option.map_some], fun items hitems => ?_⟩
  obtain ⟨raws, rfl, hmap⟩ := Results.bind_eq_ok.mp hitems
  exact complete_of_collect hserves hcollect hmap

def sampleNotification (id : String) : RawGithubNotification Unit := ⟨id, none, ()⟩

/-- A new notification comes to the top after the first request, and before the third one the last
goes up there. -/
def sampleListings : Nat → List (RawGithubNotification Unit)
  | 0 | 1 => ["a", "b", "c", "d", "e"].map sampleNotification
  | 2 => ["n", "a", "b", "c", "d", "e"].map sampleNotification
  | _ => ["e", "n", "a", "b", "c", "d"].map sampleNotification

def sampleGithub : Github Unit Unit Unit String where
  fetchNotifications number := .ok (page 2 number (sampleListings number))
  queryPullRequest _ _ _ := .ok ()
  queryDiscussion _ _ _ := .ok ()

theorem sampleListings_complete :
    (∃ items, fetchItems sampleGithub 2 4 = some (.ok items) ∧
      items.map (·.id) = ["a", "b", "b", "c", "c", "d"]) ∧
    ∃ result, fetchItems sampleGithub 2 (6 / 2 + 1) = some result ∧
      ∀ items, result = .ok items → Complete sampleGithub sampleListings items := by
  refine ⟨⟨_, rfl, rfl⟩, fetchItems_complete ?_ (by decide) fun number => ?_⟩
  · rintro number _ ⟨⟩
    rfl
  · unfold sampleListings
    split <;> decide

end UniversalInbox.GithubListing
