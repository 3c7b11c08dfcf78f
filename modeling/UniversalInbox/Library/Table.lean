import Mathlib.Data.List.Nodup
import Mathlib.Data.List.Basic

/-! Finite tables whose primary key is unique by construction. -/

/-- The rows of a table in storage order, no two of them with one primary key. -/
structure Table {ρ κ : Type*} (key : ρ → κ) where
  rows : List ρ
  nodup : (rows.map key).Nodup

namespace Table
variable {ρ κ : Type*} [DecidableEq κ] {key : ρ → κ}

def empty : Table key := ⟨[], List.nodup_nil⟩

def find? (t : Table key) (k : κ) : Option ρ := t.rows.find? fun r => decide (key r = k)

/-- `INSERT`: refused when the primary key is taken. -/
def insert? (t : Table key) (r : ρ) : Option (Table key) :=
  if h : key r ∈ t.rows.map key then none
  else some ⟨t.rows ++ [r], by
    rw [List.map_append]
    exact List.nodup_append.mpr ⟨t.nodup, List.nodup_singleton _, fun _ ha _ hb hab =>
      h (by rw [← List.mem_singleton.mp hb, ← hab]; exact ha)⟩⟩

omit [DecidableEq κ] in
/-- Rows changed in part keep what the change keeps. -/
theorem map_map_ite {rows : List ρ} {p : ρ → Prop} [DecidablePred p] {f : ρ → ρ} {g : ρ → κ}
    (h : ∀ r, g (f r) = g r) : (rows.map fun r => if p r then f r else r).map g = rows.map g := by
  rw [List.map_map]
  apply List.map_congr_left
  intro r _
  by_cases hp : p r <;> simp [hp, h]

/-- `UPDATE … WHERE p`, for an assignment that leaves the primary key alone. -/
def update (t : Table key) (p : ρ → Bool) (f : ρ → ρ) (e : ∀ r, key (f r) = key r) : Table key :=
  ⟨t.rows.map fun r => if p r then f r else r, by
    rw [map_map_ite e]
    exact t.nodup⟩

def filter (t : Table key) (p : ρ → Bool) : Table key :=
  ⟨t.rows.filter p, t.nodup.sublist (List.filter_sublist.map key)⟩

/-- `DELETE`, by primary key. -/
def erase (t : Table key) (k : κ) : Table key :=
  ⟨t.rows.filter fun r => decide (key r ≠ k), t.nodup.sublist (List.filter_sublist.map key)⟩

/-- An upsert of a whole row, by primary key. -/
def put (t : Table key) (r : ρ) : Table key :=
  ⟨(t.erase (key r)).rows ++ [r], by
    rw [List.map_append]
    refine List.nodup_append.mpr ⟨(t.erase (key r)).nodup, List.nodup_singleton _, ?_⟩
    intro a ha b hb hab
    obtain ⟨r', hr', rfl⟩ := List.mem_map.mp ha
    rw [List.mem_singleton.mp hb] at hab
    exact of_decide_eq_true (List.mem_filter.mp hr').2 hab⟩

variable {t t' : Table key} {k : κ} {r r' : ρ}

omit [DecidableEq κ] in
theorem not_mem_empty : r ∉ (empty : Table key).rows := List.not_mem_nil

omit [DecidableEq κ] in
theorem eq_of_key (h : r ∈ t.rows) (h' : r' ∈ t.rows) (hkey : key r = key r') : r = r' :=
  List.inj_on_of_nodup_map t.nodup h h' hkey

theorem find?_eq_some : t.find? k = some r ↔ r ∈ t.rows ∧ key r = k := by
  constructor
  · intro h
    exact ⟨List.mem_of_find?_eq_some h, by simpa using List.find?_some h⟩
  · rintro ⟨hmem, rfl⟩
    cases hfind : t.find? (key r) with
    | none =>
      have := List.find?_eq_none.mp hfind r hmem
      simp at this
    | some r' =>
      have hkey : key r' = key r := by simpa using List.find?_some hfind
      rw [eq_of_key (List.mem_of_find?_eq_some hfind) hmem hkey]

/-- What is made of a row that is there. -/
theorem find?_bind_eq_some {β : Type*} {f : ρ → Option β} {b : β} :
    (t.find? k).bind f = some b ↔ ∃ r ∈ t.rows, key r = k ∧ f r = some b := by
  rw [Option.bind_eq_some_iff]
  simp only [find?_eq_some, and_assoc]

theorem find?_map_eq_some {β : Type*} {f : ρ → β} {b : β} :
    (t.find? k).map f = some b ↔ ∃ r ∈ t.rows, key r = k ∧ f r = b := by
  rw [Option.map_eq_some_iff]
  simp only [find?_eq_some, and_assoc]

theorem find?_isSome : (t.find? k).isSome ↔ ∃ r ∈ t.rows, key r = k := by
  rw [Option.isSome_iff_exists]
  exact exists_congr fun r => find?_eq_some

/-- A test that only one key can pass is a test of the row with that key. -/
theorem any_eq_find?_any {p : ρ → Bool} (hp : ∀ r, p r = true → key r = k) :
    t.rows.any p = (t.find? k).any p := by
  rw [Bool.eq_iff_iff, List.any_eq_true, Option.any_eq_true]
  constructor
  · rintro ⟨r, hr, hpr⟩
    exact ⟨r, find?_eq_some.mpr ⟨hr, hp r hpr⟩, hpr⟩
  · rintro ⟨r, hr, hpr⟩
    exact ⟨r, (find?_eq_some.mp hr).1, hpr⟩

theorem mem_map_filter {p : ρ → Bool} :
    k ∈ (t.rows.filter p).map key ↔ (t.find? k).any p = true := by
  rw [List.mem_map, Option.any_eq_true]
  constructor
  · rintro ⟨r, hr, hkey⟩
    obtain ⟨hmem, hp⟩ := List.mem_filter.mp hr
    exact ⟨r, find?_eq_some.mpr ⟨hmem, hkey⟩, hp⟩
  · rintro ⟨r, hr, hp⟩
    obtain ⟨hmem, hkey⟩ := find?_eq_some.mp hr
    exact ⟨r, List.mem_filter.mpr ⟨hmem, hp⟩, hkey⟩

omit [DecidableEq κ] in
/-- What is read from some of the rows has a key of its own where each keeps its row's. -/
theorem nodup_filterMap {β : Type*} {f : ρ → Option β} {g : β → κ}
    (h : ∀ r, ∀ b ∈ f r, g b = key r) : ((t.rows.filterMap f).map g).Nodup := by
  refine t.nodup.sublist ?_
  induction t.rows with
  | nil => exact List.Sublist.refl _
  | cons r rest ih =>
    cases hf : f r with
    | none =>
      rw [List.filterMap_cons_none hf]
      exact ih.cons _
    | some b =>
      rw [List.filterMap_cons_some hf, List.map_cons, List.map_cons, h r b hf]
      exact ih.cons_cons _

theorem insert?_eq_some :
    t.insert? r = some t' ↔ key r ∉ t.rows.map key ∧ t'.rows = t.rows ++ [r] := by
  unfold insert?
  constructor
  · intro h
    split at h
    · cases h
    · next hnew =>
      cases h
      exact ⟨hnew, rfl⟩
  · rintro ⟨hnew, hrows⟩
    rw [dif_neg hnew]
    obtain ⟨rows, nodup⟩ := t'
    cases hrows
    rfl

theorem find?_eq_none_of_insert (h : t.insert? r = some t') : t.find? (key r) = none := by
  obtain ⟨hnew, -⟩ := insert?_eq_some.mp h
  cases hfind : t.find? (key r) with
  | none => rfl
  | some old =>
    obtain ⟨hmem, hkey⟩ := find?_eq_some.mp hfind
    exact absurd (hkey ▸ List.mem_map_of_mem hmem) hnew

theorem find?_insert (h : t.insert? r = some t') :
    t'.find? k = if key r = k then some r else t.find? k := by
  obtain ⟨hnew, hrows⟩ := insert?_eq_some.mp h
  by_cases hk : key r = k
  · rw [if_pos hk]
    exact find?_eq_some.mpr ⟨by rw [hrows]; simp, hk⟩
  · rw [if_neg hk]
    unfold find?
    rw [hrows, List.find?_append]
    cases t.rows.find? fun r => decide (key r = k) <;> simp [hk]

theorem find?_update {p : ρ → Bool} {f : ρ → ρ} {e : ∀ r, key (f r) = key r} :
    (t.update p f e).find? k = (t.find? k).map fun r => if p r then f r else r := by
  unfold find? update
  rw [List.find?_map]
  congr 2
  funext r
  by_cases hp : p r = true <;> simp [hp, e]

omit [DecidableEq κ] in
/-- Two conditions that agree on the rows of a table make one update. -/
theorem update_congr {p p' : ρ → Bool} {f : ρ → ρ} {e : ∀ r, key (f r) = key r}
    (h : ∀ r ∈ t.rows, p r = p' r) : t.update p f e = t.update p' f e := by
  unfold update
  congr 1
  exact List.map_congr_left fun r hr => by simp only [h r hr]

omit [DecidableEq κ] in
theorem mem_update {p : ρ → Bool} {f : ρ → ρ} {e : ∀ r, key (f r) = key r} :
    r' ∈ (t.update p f e).rows ↔ ∃ r ∈ t.rows, (if p r then f r else r) = r' := List.mem_map

omit [DecidableEq κ] in
/-- What an assignment keeps of a row is read from the table as before. -/
theorem map_rows_update {β : Type*} {p : ρ → Bool} {f : ρ → ρ} {e : ∀ r, key (f r) = key r}
    {g : ρ → β} (h : ∀ r, g (f r) = g r) : (t.update p f e).rows.map g = t.rows.map g :=
  map_map_ite h

omit [DecidableEq κ] in
/-- A relation between the rows before and after an update, read row by row. -/
theorem forall_update {p : ρ → Bool} {f : ρ → ρ} {e : ∀ r, key (f r) = key r}
    {R : ρ → ρ → Prop} :
    (∀ r ∈ t.rows, ∀ r' ∈ (t.update p f e).rows, key r' = key r → R r r') ↔
      ∀ r ∈ t.rows, R r (if p r then f r else r) := by
  have hkey : ∀ r, key (if p r then f r else r) = key r := fun r => by
    by_cases hp : p r = true <;> simp [hp, e]
  constructor
  · intro h r hr
    exact h r hr _ (mem_update.mpr ⟨r, hr, rfl⟩) (hkey r)
  · intro h r hr r' hr' hsame
    obtain ⟨u, hu, rfl⟩ := mem_update.mp hr'
    rw [hkey] at hsame
    rw [eq_of_key hu hr hsame]
    exact h r hr

theorem find?_isSome_update {p : ρ → Bool} {f : ρ → ρ} {e : ∀ r, key (f r) = key r} :
    ((t.update p f e).find? k).isSome = (t.find? k).isSome := by
  rw [find?_update, Option.isSome_map]

theorem find?_of_insert (h : t.insert? r = some t') (hk : t.find? k = some r') :
    t'.find? k = some r' := by
  rw [find?_insert h, if_neg, hk]
  rintro rfl
  rw [find?_eq_none_of_insert h] at hk
  cases hk

theorem find?_isSome_insert (h : t.insert? r = some t') (hk : (t.find? k).isSome) :
    (t'.find? k).isSome := by
  rw [find?_insert h]
  split
  · rfl
  · exact hk

theorem mem_erase : r ∈ (t.erase k).rows ↔ r ∈ t.rows ∧ key r ≠ k := by
  unfold erase
  rw [List.mem_filter, decide_eq_true_eq]

theorem find?_erase {k' : κ} : (t.erase k).find? k' = if k' = k then none else t.find? k' := by
  by_cases hk : k' = k
  · rw [if_pos hk]
    cases hfind : (t.erase k).find? k' with
    | none => rfl
    | some r =>
      obtain ⟨hr, hkey⟩ := find?_eq_some.mp hfind
      exact absurd (hkey.trans hk) (mem_erase.mp hr).2
  · rw [if_neg hk]
    refine Option.ext fun r => ?_
    rw [find?_eq_some, find?_eq_some, mem_erase]
    constructor
    · rintro ⟨⟨hr, -⟩, hkey⟩
      exact ⟨hr, hkey⟩
    · rintro ⟨hr, hkey⟩
      exact ⟨⟨hr, fun h => hk (hkey ▸ h)⟩, hkey⟩

theorem rows_erase_of_none (h : t.find? k = none) : (t.erase k).rows = t.rows := by
  refine List.filter_eq_self.mpr fun r hr => ?_
  have hne := List.find?_eq_none.mp h r hr
  simpa using hne

/-- The rows with a key are the one that is found. -/
theorem filter_key_eq (t : Table key) (k : κ) :
    t.rows.filter (fun r => decide (key r = k)) = (t.find? k).toList := by
  obtain ⟨rows, nodup⟩ := t
  unfold find?
  induction rows with
  | nil => rfl
  | cons r rest ih =>
    obtain ⟨hnew, hrest⟩ := List.nodup_cons.mp nodup
    by_cases hkey : key r = k
    · have hnone : rest.filter (fun r => decide (key r = k)) = [] := by
        refine List.filter_eq_nil_iff.mpr fun r' hr' hkey' => hnew ?_
        rw [hkey, ← of_decide_eq_true hkey']
        exact List.mem_map_of_mem hr'
      simp [hkey, hnone]
    · have hother := ih hrest
      simp only [List.filter_cons, List.find?_cons, hkey, decide_false]
      exact hother

theorem mem_put : r' ∈ (t.put r).rows ↔ r' = r ∨ r' ∈ t.rows ∧ key r' ≠ key r := by
  unfold put
  rw [List.mem_append, mem_erase, List.mem_singleton, or_comm]

theorem find?_put : (t.put r).find? k = if k = key r then some r else t.find? k := by
  by_cases hk : k = key r
  · rw [if_pos hk]
    exact find?_eq_some.mpr ⟨mem_put.mpr (.inl rfl), hk.symm⟩
  · rw [if_neg hk]
    refine Option.ext fun r' => ?_
    rw [find?_eq_some, find?_eq_some, mem_put]
    constructor
    · rintro ⟨rfl | ⟨hr', -⟩, hkey⟩
      · exact absurd hkey.symm hk
      · exact ⟨hr', hkey⟩
    · rintro ⟨hr', hkey⟩
      exact ⟨.inr ⟨hr', fun h => hk (hkey ▸ h)⟩, hkey⟩

theorem perm_erase (h : r ∈ t.rows) : t.rows.Perm (r :: (t.erase (key r)).rows) := by
  have hnodup : (r :: (t.erase (key r)).rows).Nodup :=
    List.nodup_cons.mpr ⟨fun hr => (mem_erase.mp hr).2 rfl, ((t.erase (key r)).nodup).of_map key⟩
  refine (List.perm_ext_iff_of_nodup (t.nodup.of_map key) hnodup).mpr fun r' => ?_
  rw [List.mem_cons, mem_erase]
  constructor
  · intro hr'
    by_cases hkey : key r' = key r
    · exact .inl (eq_of_key hr' h hkey)
    · exact .inr ⟨hr', hkey⟩
  · rintro (rfl | ⟨hr', -⟩)
    · exact h
    · exact hr'

/-- An update of one row, by primary key. -/
theorem perm_update (h : r ∈ t.rows) {f : ρ → ρ} {e : ∀ r, key (f r) = key r} :
    (t.update (fun r' => decide (key r' = key r)) f e).rows.Perm
      (f r :: (t.erase (key r)).rows) := by
  have hother : (t.erase (key r)).rows.map (fun r' => if decide (key r' = key r) then f r' else r') =
      (t.erase (key r)).rows := by
    conv_rhs => rw [← List.map_id (t.erase (key r)).rows]
    refine List.map_congr_left fun r' hr' => ?_
    rw [if_neg (by simpa using (mem_erase.mp hr').2), id]
  have hmap := (perm_erase h).map fun r' => if decide (key r' = key r) then f r' else r'
  rw [List.map_cons, if_pos (decide_eq_true rfl), hother] at hmap
  exact hmap

end Table
