import Mathlib.Data.List.Basic
import Mathlib.Order.Monotone.Basic

/-! A listing read by pages of one size, each at an offset, until a page is short; the listing may
change from one request to the next. -/
namespace OffsetPages
variable {α ε : Type*}

/-- The pages are numbered from 1. -/
def page (size number : Nat) (listing : List α) : List α :=
  (listing.drop ((number - 1) * size)).take size

/-- The pages from `number` on, with the request for each; `none` when they do not end within the
fuel. -/
def collect (size : Nat) (request : Nat → Except ε (List α)) :
    Nat → Nat → Option (Except ε (List α))
  | 0, _ => none
  | fuel + 1, number =>
    match request number with
    | .error e => some (.error e)
    | .ok items =>
      if items.length < size then some (.ok items)
      else (collect size request fuel (number + 1)).map fun rest => rest.map (items ++ ·)

/-- What a request answers is the page of what is listed then. -/
def Serves (size : Nat) (listings : Nat → List α) (request : Nat → Except ε (List α)) : Prop :=
  ∀ number items, request number = .ok items → items = page size number (listings number)

variable {size fuel number : Nat} {listings : Nat → List α} {request : Nat → Except ε (List α)}
  {items : List α} {a : α}

theorem length_page {listing : List α} :
    (page size number listing).length = min size (listing.length - (number - 1) * size) := by
  rw [page, List.length_take, List.length_drop]

theorem mem_of_mem_page {listing : List α} (h : a ∈ page size number listing) : a ∈ listing :=
  List.mem_of_mem_drop (List.mem_of_mem_take h)

theorem pages_next (hnumber : 1 ≤ number) :
    (number + 1 - 1) * size = (number - 1) * size + size := by
  rw [Nat.add_sub_cancel, ← Nat.succ_mul, Nat.succ_eq_add_one, Nat.sub_add_cancel hnumber]

/-- The page of a position. -/
theorem mem_page {listing : List α} {index : Nat} (h : listing[index]? = some a)
    (hlow : (number - 1) * size ≤ index) (hhigh : index < (number - 1) * size + size) :
    a ∈ page size number listing := by
  refine List.mem_of_getElem? (i := index - (number - 1) * size) ?_
  rw [page, List.getElem?_take_of_lt (by omega), List.getElem?_drop, Nat.add_sub_cancel' hlow]
  exact h

theorem collect_cases (h : collect size request (fuel + 1) number = some (.ok items)) :
    ∃ first, request number = .ok first ∧
      ((first.length < size ∧ items = first) ∨
        size ≤ first.length ∧ ∃ rest, collect size request fuel (number + 1) = some (.ok rest) ∧
          items = first ++ rest) := by
  rw [collect] at h
  split at h
  · cases h
  next first hfirst =>
    refine ⟨first, hfirst, ?_⟩
    split at h
    next hshort =>
      cases h
      exact .inl ⟨hshort, rfl⟩
    next hfull =>
      obtain ⟨rest, hrest, hmap⟩ := Option.map_eq_some_iff.mp h
      cases rest with
      | error e => cases hmap
      | ok rest =>
        cases hmap
        exact .inr ⟨not_lt.mp hfull, rest, hrest, rfl⟩

/-- All that is collected was listed at the request of its page. -/
theorem listed_of_collect (hserves : Serves size listings request)
    (h : collect size request fuel number = some (.ok items)) (ha : a ∈ items) :
    ∃ k, number ≤ k ∧ a ∈ listings k := by
  induction fuel generalizing number items with
  | zero => cases h
  | succ fuel ih =>
    obtain ⟨first, hfirst, ⟨-, rfl⟩ | ⟨-, rest, hrest, rfl⟩⟩ := collect_cases h
    · exact ⟨number, le_refl _, mem_of_mem_page (hserves number _ hfirst ▸ ha)⟩
    · obtain ha | ha := List.mem_append.mp ha
      · exact ⟨number, le_refl _, mem_of_mem_page (hserves number _ hfirst ▸ ha)⟩
      · obtain ⟨k, hk, hmem⟩ := ih hrest ha
        exact ⟨k, (Nat.le_succ number).trans hk, hmem⟩

/-- What stands at a position that never goes down from one request to the next is collected, as it
is at one of them. -/
theorem mem_of_collect (hserves : Serves size listings request)
    (h : collect size request fuel number = some (.ok items)) (hnumber : 1 ≤ number)
    {index : Nat → Nat} (hindex : Monotone index) {standing : Nat → α}
    (hlisted : ∀ k, number ≤ k → (listings k)[index k]? = some (standing k))
    (hlow : (number - 1) * size ≤ index number) : ∃ k, number ≤ k ∧ standing k ∈ items := by
  induction fuel generalizing number items with
  | zero => cases h
  | succ fuel ih =>
    have hnow := hlisted number (le_refl _)
    have hlength : index number < (listings number).length := by
      by_contra hnot
      rw [List.getElem?_eq_none (not_lt.mp hnot)] at hnow
      cases hnow
    obtain ⟨first, hfirst, hcases⟩ := collect_cases h
    have hpage := hserves number first hfirst
    by_cases hhigh : index number < (number - 1) * size + size
    · have hmem : standing number ∈ first := hpage ▸ mem_page hnow hlow hhigh
      refine ⟨number, le_refl _, ?_⟩
      obtain ⟨-, rfl⟩ | ⟨-, rest, -, rfl⟩ := hcases
      · exact hmem
      · exact List.mem_append_left _ hmem
    · have hfull : size ≤ first.length := by
        rw [hpage, length_page]
        omega
      obtain ⟨hshort, -⟩ | ⟨-, rest, hrest, rfl⟩ := hcases
      · omega
      · have hnext : (number + 1 - 1) * size ≤ index (number + 1) := by
          rw [pages_next hnumber]
          exact (not_lt.mp hhigh).trans (hindex (Nat.le_succ number))
        obtain ⟨k, hk, hmem⟩ := ih hrest (by omega) (fun k hk => hlisted k (by omega)) hnext
        exact ⟨k, (Nat.le_succ number).trans hk, List.mem_append_right _ hmem⟩

/-- A listing that stays as it is is collected as it is. -/
theorem eq_of_collect (hserves : Serves size listings request)
    (h : collect size request fuel number = some (.ok items)) (hnumber : 1 ≤ number)
    {listing : List α} (hlistings : ∀ k, number ≤ k → listings k = listing) :
    items = listing.drop ((number - 1) * size) := by
  induction fuel generalizing number items with
  | zero => cases h
  | succ fuel ih =>
    obtain ⟨first, hfirst, hcases⟩ := collect_cases h
    have hpage := hserves number first hfirst
    rw [hlistings number (le_refl _)] at hpage
    obtain ⟨hshort, rfl⟩ | ⟨-, rest, hrest, rfl⟩ := hcases
    · have hlength := congrArg List.length hpage
      rw [length_page] at hlength
      rw [hpage, page, List.take_of_length_le]
      rw [List.length_drop]
      omega
    · rw [ih hrest (by omega) (fun k hk => hlistings k (by omega)), pages_next hnumber,
        ← List.drop_drop, hpage]
      exact List.take_append_drop size _

/-- Listings that stay short end the pages. -/
theorem collect_isSome (hserves : Serves size listings request)
    (hnumber : 1 ≤ number) {n : Nat} (hbound : ∀ k, (listings k).length ≤ n)
    (hfuel : n < (number - 1 + fuel) * size) (hstart : (number - 1) * size ≤ n) :
    (collect size request fuel number).isSome := by
  induction fuel generalizing number with
  | zero =>
    rw [Nat.add_zero] at hfuel
    omega
  | succ fuel ih =>
    rw [collect]
    split
    · rfl
    next first hfirst =>
      split
      · rfl
      next hfull =>
        have hlength := congrArg List.length (hserves number first hfirst)
        rw [length_page] at hlength
        have hnow := hbound number
        have hrest : n < (number + 1 - 1 + fuel) * size := by
          rw [show number + 1 - 1 + fuel = number - 1 + (fuel + 1) by omega]
          exact hfuel
        rw [Option.isSome_map]
        refine ih (by omega) hrest ?_
        rw [pages_next hnumber]
        omega

end OffsetPages
