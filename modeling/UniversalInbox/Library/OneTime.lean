import UniversalInbox.Library.Table
import Mathlib.Data.List.Perm.Subperm

/-! Slots that hold one ticket each: a put replaces the ticket of its slot, a take empties the slot
for a use of the ticket, and the use is completed or dropped. -/

/-- What was put into a slot, with the number of the put. -/
structure Ticket (α : Type*) where
  serial : Nat
  content : α
deriving DecidableEq, Repr

/-- A ticket that has left its slot, with what it is used for. -/
structure Taken (α β : Type*) where
  ticket : Ticket α
  use : β
deriving DecidableEq, Repr

/-- The tickets of slots, of open uses and of completed ones. -/
def Ticket.present {α β : Type*} (slots : List (Ticket α)) (taken completed : List (Taken α β)) :
    List (Ticket α) :=
  slots ++ (taken.map Taken.ticket ++ completed.map Taken.ticket)

/-- Slots by `key`, and what has become of the tickets put into them. A ticket issued is in one
place at most: in its slot, in an open use or in a completed one. -/
structure OneTime {α κ : Type*} (key : α → κ) (β : Type*) where
  issued : List (Ticket α)
  slots : Table fun t : Ticket α => key t.content
  taken : Table fun x : Taken α β => x.ticket.serial
  completed : List (Taken α β)
  numbered : issued.map Ticket.serial = (List.range issued.length).reverse
  within : (Ticket.present slots.rows taken.rows completed).Subperm issued

namespace OneTime
variable {α κ β : Type*} [DecidableEq κ] {key : α → κ}

def empty : OneTime key β := ⟨[], Table.empty, Table.empty, [], rfl, List.Subperm.refl _⟩

variable (s : OneTime key β)

/-- The ticket of the next put. -/
def next (a : α) : Ticket α := ⟨s.issued.length, a⟩

omit [DecidableEq κ] in
theorem numbered_next (a : α) : (s.next a :: s.issued).map Ticket.serial =
    (List.range (s.next a :: s.issued).length).reverse := by
  rw [List.map_cons, s.numbered, List.length_cons, List.range_succ, List.reverse_append]
  rfl

theorem within_put (a : α) :
    (Ticket.present (s.slots.put (s.next a)).rows s.taken.rows s.completed).Subperm
      (s.next a :: s.issued) := by
  unfold Ticket.present Table.put
  rw [List.append_assoc]
  refine List.perm_middle.subperm.trans ((List.subperm_cons _).mpr (List.Subperm.trans ?_ s.within))
  exact (List.filter_sublist.append_right _).subperm

theorem within_erase (k : κ) :
    (Ticket.present (s.slots.erase k).rows s.taken.rows s.completed).Subperm s.issued :=
  (List.filter_sublist.append_right _).subperm.trans s.within

theorem within_take {k : κ} {t : Ticket α} (hfind : s.slots.find? k = some t) (use : β) :
    (Ticket.present (s.slots.erase k).rows (s.taken.put ⟨t, use⟩).rows s.completed).Subperm
      s.issued := by
  obtain ⟨h, rfl⟩ := Table.find?_eq_some.mp hfind
  refine List.Subperm.trans ?_ (((Table.perm_erase h).append_right _).symm.subperm.trans s.within)
  unfold Ticket.present Table.put
  -- the ticket goes from the head of the slots to the end of the open uses
  rw [List.map_append, List.append_assoc, List.map_singleton, List.singleton_append,
    ← List.append_assoc]
  refine List.perm_middle.subperm.trans ((List.subperm_cons _).mpr ?_)
  rw [List.append_assoc]
  exact ((List.filter_sublist.map _).append_right _ |>.append_left _).subperm

omit [DecidableEq κ] in
theorem within_complete {serial : Nat} {x : Taken α β} (hfind : s.taken.find? serial = some x) :
    (Ticket.present s.slots.rows (s.taken.erase serial).rows (x :: s.completed)).Subperm
      s.issued := by
  obtain ⟨h, rfl⟩ := Table.find?_eq_some.mp hfind
  refine List.Subperm.trans ?_ s.within
  have hperm := (Table.perm_erase h).map Taken.ticket
  rw [List.map_cons] at hperm
  unfold Ticket.present
  rw [List.map_cons]
  exact (List.Perm.append_left _ (List.perm_middle.trans (hperm.append_right _).symm)).subperm

omit [DecidableEq κ] in
theorem within_drop (serial : Nat) :
    (Ticket.present s.slots.rows (s.taken.erase serial).rows s.completed).Subperm s.issued :=
  (((List.filter_sublist.map _).append_right _).append_left _).subperm.trans s.within

def put (a : α) : OneTime key β where
  issued := s.next a :: s.issued
  slots := s.slots.put (s.next a)
  taken := s.taken
  completed := s.completed
  numbered := s.numbered_next a
  within := s.within_put a

/-- Empties a slot for nothing. -/
def discard (k : κ) : OneTime key β where
  issued := s.issued
  slots := s.slots.erase k
  taken := s.taken
  completed := s.completed
  numbered := s.numbered
  within := s.within_erase k

/-- Opens a use of the ticket that a slot holds. -/
def take (k : κ) (use : β) : OneTime key β :=
  match h : s.slots.find? k with
  | none => s
  | some t => {
      issued := s.issued
      slots := s.slots.erase k
      taken := s.taken.put ⟨t, use⟩
      completed := s.completed
      numbered := s.numbered
      within := s.within_take h use }

def complete (serial : Nat) : OneTime key β :=
  match h : s.taken.find? serial with
  | none => s
  | some x => {
      issued := s.issued
      slots := s.slots
      taken := s.taken.erase serial
      completed := x :: s.completed
      numbered := s.numbered
      within := s.within_complete h }

def drop (serial : Nat) : OneTime key β where
  issued := s.issued
  slots := s.slots
  taken := s.taken.erase serial
  completed := s.completed
  numbered := s.numbered
  within := s.within_drop serial

variable {s} {k : κ} {u : β} {serial : Nat}

theorem take_of_find {t : Ticket α} (h : s.slots.find? k = some t) :
    (s.take k u).issued = s.issued ∧ (s.take k u).slots = s.slots.erase k ∧
      (s.take k u).taken = s.taken.put ⟨t, u⟩ ∧ (s.take k u).completed = s.completed := by
  unfold take
  split
  · next hnone =>
    rw [h] at hnone
    cases hnone
  · next t' ht' =>
    rw [h] at ht'
    cases ht'
    exact ⟨rfl, rfl, rfl, rfl⟩

omit [DecidableEq κ]

theorem complete_of_find {x : Taken α β} (h : s.taken.find? serial = some x) :
    (s.complete serial).issued = s.issued ∧ (s.complete serial).slots = s.slots ∧
      (s.complete serial).taken = s.taken.erase serial ∧
      (s.complete serial).completed = x :: s.completed := by
  unfold complete
  split
  · next hnone =>
    rw [h] at hnone
    cases hnone
  · next x' hx' =>
    rw [h] at hx'
    cases hx'
    exact ⟨rfl, rfl, rfl, rfl⟩

/-- A use that is completed as it is opened. -/
theorem complete_take [DecidableEq κ] {t : Ticket α} (h : s.slots.find? k = some t) :
    ((s.take k u).complete t.serial).issued = s.issued ∧
      ((s.take k u).complete t.serial).slots = s.slots.erase k ∧
      ((s.take k u).complete t.serial).completed = ⟨t, u⟩ :: s.completed := by
  obtain ⟨hissued, hslots, htaken, hcompleted⟩ := take_of_find (u := u) h
  have hfind : (s.take k u).taken.find? t.serial = some ⟨t, u⟩ := by
    rw [htaken, Table.find?_put, if_pos rfl]
  obtain ⟨hissued', hslots', -, hcompleted'⟩ := complete_of_find hfind
  exact ⟨hissued'.trans hissued, hslots'.trans hslots, by rw [hcompleted', hcompleted]⟩

variable (s)

theorem nodup_issued : (s.issued.map Ticket.serial).Nodup := by
  rw [s.numbered]
  exact List.nodup_reverse.mpr List.nodup_range

theorem lt_of_mem_issued {t : Ticket α} (h : t ∈ s.issued) : t.serial < s.issued.length := by
  have hmem : t.serial ∈ s.issued.map Ticket.serial := List.mem_map_of_mem h
  rwa [s.numbered, List.mem_reverse, List.mem_range] at hmem

theorem mem_issued_of_slot {t : Ticket α} (h : t ∈ s.slots.rows) : t ∈ s.issued :=
  s.within.subset (List.mem_append_left _ h)

theorem mem_issued_of_completed {x : Taken α β} (h : x ∈ s.completed) : x.ticket ∈ s.issued :=
  s.within.subset (List.mem_append_right _ (List.mem_append_right _ (List.mem_map_of_mem h)))

/-- What tells the tickets issued apart tells the completed uses apart. -/
theorem nodup_completed_map {γ : Type*} {f : Ticket α → γ} (h : (s.issued.map f).Nodup) :
    (s.completed.map fun x => f x.ticket).Nodup := by
  have hsub : (s.completed.map Taken.ticket).Subperm s.issued :=
    ((List.sublist_append_right _ _).trans (List.sublist_append_right _ _)).subperm.trans s.within
  obtain ⟨l, hperm, hl⟩ := hsub
  have hmap := (hperm.map f).nodup_iff.mp (h.sublist (hl.map _))
  rwa [List.map_map] at hmap

/-- No ticket is used twice. -/
theorem nodup_completed : (s.completed.map fun x => x.ticket.serial).Nodup :=
  s.nodup_completed_map s.nodup_issued

end OneTime
