import UniversalInbox.Library.Table

/-! One caller does the work for a key, and those that come meanwhile wait for its result. The entry
of a key is removed by a task of its own, some time after the result was told. -/
namespace SingleFlight

structure Entry (κ : Type*) where
  key : κ
  leader : Nat

structure Result where
  leader : Nat
  value : Bool
deriving DecidableEq, Repr

/-- The entries of the keys, what the callers whose work is over have told, and the keys whose entry
a task is to remove. -/
structure Flights (κ : Type*) where
  entries : Table (Entry.key : Entry κ → κ)
  results : Table Result.leader
  removals : List κ

namespace Flights
variable {κ : Type*}

def empty : Flights κ := ⟨Table.empty, Table.empty, []⟩

/-- A caller whose number no other has: with the leader it is to wait for, if there is one. -/
def enter [DecidableEq κ] (f : Flights κ) (key : κ) (caller : Nat) : Flights κ × Option Nat :=
  match f.entries.find? key with
  | some entry => (f, some entry.leader)
  | none => ({ f with entries := f.entries.put ⟨key, caller⟩ }, none)

def finish (f : Flights κ) (key : κ) (leader : Nat) (value : Bool) : Flights κ :=
  { f with results := f.results.put ⟨leader, value⟩, removals := key :: f.removals }

/-- The task removes what is under the key. -/
def remove [DecidableEq κ] (f : Flights κ) (key : κ) : Flights κ :=
  { f with entries := f.entries.erase key, removals := f.removals.erase key }

/-- The caller is at the work for the key. -/
def Leads (f : Flights κ) (key : κ) (leader : Nat) : Prop :=
  ⟨key, leader⟩ ∈ f.entries.rows ∧ f.results.find? leader = none

/-- Whoever waits for the caller has its result, or will have that of its work for the key. -/
def Awaits (f : Flights κ) (key : κ) (leader : Nat) : Prop :=
  (f.results.find? leader).isSome ∨ f.Leads key leader

/-- What a task is to remove is the entry of a caller that has told its result. -/
structure Sound (f : Flights κ) : Prop where
  nodup : f.removals.Nodup
  told : ∀ key ∈ f.removals, ∃ leader, ⟨key, leader⟩ ∈ f.entries.rows ∧
    (f.results.find? leader).isSome

variable {f f' : Flights κ} {key k : κ} {caller leader leader' : Nat} {value : Bool}

theorem Sound.empty : (empty : Flights κ).Sound :=
  ⟨List.nodup_nil, fun _ h => (List.not_mem_nil h).elim⟩

theorem not_leads_empty : ¬(empty : Flights κ).Leads key leader := fun h => Table.not_mem_empty h.1

theorem Leads.unique (h : f.Leads key leader) (h' : f.Leads key leader') : leader = leader' :=
  congrArg Entry.leader (Table.eq_of_key h.1 h'.1 rfl)

theorem Leads.not_mem_removals (h : f.Leads key leader) (hf : f.Sound) : key ∉ f.removals := by
  intro hmem
  obtain ⟨leader', hentry, htold⟩ := hf.told key hmem
  obtain rfl : leader = leader' := congrArg Entry.leader (Table.eq_of_key h.1 hentry rfl)
  rw [h.2] at htold
  cases htold

theorem awaits_of_mem (h : ⟨key, leader⟩ ∈ f.entries.rows) : f.Awaits key leader := by
  cases hresult : f.results.find? leader with
  | none => exact .inr ⟨h, hresult⟩
  | some result => exact .inl (by rw [hresult]; rfl)

theorem leads_finish : (f.finish k caller value).Leads key leader ↔
    f.Leads key leader ∧ leader ≠ caller := by
  unfold Leads finish
  rw [Table.find?_put, and_assoc]
  refine and_congr_right fun _ => ?_
  split
  · next hsame =>
    constructor
    · rintro ⟨⟩
    · exact fun h => absurd hsame h.2
  · next hother => exact ⟨fun h => ⟨h, hother⟩, fun h => h.1⟩

theorem isSome_finish : ((f.finish k caller value).results.find? leader).isSome ↔
    leader = caller ∨ (f.results.find? leader).isSome := by
  rw [finish, Table.find?_put]
  split
  · next hsame => exact ⟨fun _ => .inl hsame, fun _ => rfl⟩
  · next hother => exact ⟨.inr, fun h => h.resolve_left hother⟩

theorem Awaits.finish (h : f.Awaits key leader) : (f.finish k caller value).Awaits key leader := by
  obtain hresult | hleads := h
  · exact .inl (isSome_finish.mpr (.inr hresult))
  · by_cases hsame : leader = caller
    · exact .inl (isSome_finish.mpr (.inl hsame))
    · exact .inr (leads_finish.mpr ⟨hleads, hsame⟩)

theorem Sound.finish (h : f.Sound) (hleads : f.Leads key leader) :
    (f.finish key leader value).Sound := by
  refine ⟨List.nodup_cons.mpr ⟨hleads.not_mem_removals h, h.nodup⟩, ?_⟩
  refine List.forall_mem_cons.mpr ⟨⟨leader, hleads.1, isSome_finish.mpr (.inl rfl)⟩, ?_⟩
  intro k hk
  obtain ⟨leader', hentry, htold⟩ := h.told k hk
  exact ⟨leader', hentry, isSome_finish.mpr (.inr htold)⟩

variable [DecidableEq κ]

theorem enter_eq_some (h : f.enter key caller = (f', some leader)) :
    f' = f ∧ f.Awaits key leader := by
  unfold enter at h
  split at h
  · next entry hentry =>
    cases h
    obtain ⟨hmem, rfl⟩ := Table.find?_eq_some.mp hentry
    exact ⟨rfl, awaits_of_mem hmem⟩
  · cases h

theorem enter_eq_none (h : f.enter key caller = (f', none)) :
    f.entries.find? key = none ∧ f' = { f with entries := f.entries.put ⟨key, caller⟩ } := by
  unfold enter at h
  split at h
  · cases h
  · next hnone =>
    cases h
    exact ⟨hnone, rfl⟩

theorem mem_put_of_mem {entries : Table (Entry.key : Entry κ → κ)} (hnone : entries.find? key = none)
    {entry : Entry κ} (h : entry ∈ entries.rows) : entry ∈ (entries.put ⟨key, caller⟩).rows := by
  refine Table.mem_put.mpr (.inr ⟨h, fun hkey => ?_⟩)
  rw [Table.find?_eq_some.mpr ⟨h, hkey⟩] at hnone
  cases hnone

theorem leads_enter (h : f.enter key caller = (f', none)) :
    f'.Leads k leader ↔
      f.Leads k leader ∨ k = key ∧ leader = caller ∧ f.results.find? caller = none := by
  obtain ⟨hnone, rfl⟩ := enter_eq_none h
  constructor
  · rintro ⟨hmem, hresult⟩
    obtain hentry | ⟨hmem, -⟩ := Table.mem_put.mp hmem
    · cases hentry
      exact .inr ⟨rfl, rfl, hresult⟩
    · exact .inl ⟨hmem, hresult⟩
  · rintro (⟨hmem, hresult⟩ | ⟨rfl, rfl, hresult⟩)
    · exact ⟨mem_put_of_mem hnone hmem, hresult⟩
    · exact ⟨Table.mem_put.mpr (.inl rfl), hresult⟩

theorem results_enter : (f.enter key caller).1.results = f.results := by
  unfold enter
  split <;> rfl

theorem Awaits.enter (h : f.Awaits key leader) (k : κ) (caller : Nat) :
    (f.enter k caller).1.Awaits key leader := by
  cases hentered : f.enter k caller with
  | mk f' waits =>
    cases waits with
    | some _ =>
      obtain ⟨rfl, -⟩ := enter_eq_some hentered
      exact h
    | none =>
      have hresults : f'.results = f.results := by rw [(enter_eq_none hentered).2]
      obtain hresult | hold := h
      · exact .inl (by rw [hresults]; exact hresult)
      · exact .inr ((leads_enter hentered).mpr (.inl hold))

theorem Sound.enter (h : f.Sound) (key : κ) (caller : Nat) : (f.enter key caller).1.Sound := by
  cases hentered : f.enter key caller with
  | mk f' waits =>
    cases waits with
    | some _ =>
      obtain ⟨rfl, -⟩ := enter_eq_some hentered
      exact h
    | none =>
      obtain ⟨hnone, rfl⟩ := enter_eq_none hentered
      refine ⟨h.nodup, fun k hk => ?_⟩
      obtain ⟨leader, hentry, htold⟩ := h.told k hk
      exact ⟨leader, mem_put_of_mem hnone hentry, htold⟩

/-- No work ends with the removal of an entry. -/
theorem leads_remove (h : f.Sound) (hk : k ∈ f.removals) :
    (f.remove k).Leads key leader ↔ f.Leads key leader := by
  unfold Leads remove
  rw [Table.mem_erase]
  refine ⟨fun hleads => ⟨hleads.1.1, hleads.2⟩, fun hleads => ⟨⟨hleads.1, ?_⟩, hleads.2⟩⟩
  rintro rfl
  exact Leads.not_mem_removals hleads h hk

theorem Awaits.remove (h : f.Awaits key leader) (hf : f.Sound) (hk : k ∈ f.removals) :
    (f.remove k).Awaits key leader :=
  h.imp id (leads_remove hf hk).mpr

theorem Sound.remove (h : f.Sound) : (f.remove k).Sound := by
  refine ⟨h.nodup.erase k, fun other hother => ?_⟩
  obtain ⟨hne, hmem⟩ := (List.Nodup.mem_erase_iff h.nodup).mp hother
  obtain ⟨leader, hentry, htold⟩ := h.told other hmem
  exact ⟨leader, Table.mem_erase.mpr ⟨hentry, hne⟩, htold⟩

end Flights
end SingleFlight
