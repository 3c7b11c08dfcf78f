import UniversalInbox.Library.Table

/-! Tables whose rows have an owner: the rows that are not of an owner, and the owner of the row
with a given key. -/
namespace Table
variable {ρ κ υ : Type*} [DecidableEq υ] (owner : ρ → υ) (u : υ)

/-- The rows of the others. -/
def others (rows : List ρ) : List ρ := rows.filter fun r => decide (owner r ≠ u)

variable {owner} {u} {rows : List ρ} {r : ρ}

/-- An update of rows of `u` is none of the rows of the others. -/
theorem others_map_ite {p : ρ → Bool} {f : ρ → ρ} (hp : ∀ r ∈ rows, p r = true → owner r = u)
    (hf : ∀ r, owner (f r) = owner r) :
    others owner u (rows.map fun r => if p r then f r else r) = others owner u rows := by
  induction rows with
  | nil => rfl
  | cons r rest ih =>
    have hrest := ih fun r hr => hp r (List.mem_cons_of_mem _ hr)
    unfold others at hrest ⊢
    rw [List.map_cons, List.filter_cons, List.filter_cons, hrest]
    by_cases hr : p r = true
    · have howner := hp r List.mem_cons_self hr
      simp [hr, hf, howner]
    · simp [hr]

theorem others_append (h : owner r = u) : others owner u (rows ++ [r]) = others owner u rows := by
  simp [others, h]

variable [DecidableEq κ] {key : ρ → κ} {t t' : Table key} {k : κ}

/-- The owner of the row with a key. -/
def ownerOf (owner : ρ → υ) (t : Table key) (k : κ) : Option υ := (t.find? k).map owner

omit [DecidableEq υ] in
theorem ownerOf_eq_some : t.ownerOf owner k = some u ↔ ∃ r ∈ t.rows, key r = k ∧ owner r = u :=
  find?_map_eq_some

omit [DecidableEq υ] in
theorem ownerOf_update {p : ρ → Bool} {f : ρ → ρ} {e : ∀ r, key (f r) = key r}
    (hf : ∀ r, owner (f r) = owner r) : (t.update p f e).ownerOf owner k = t.ownerOf owner k := by
  unfold ownerOf
  rw [find?_update, Option.map_map]
  refine congrFun (congrArg Option.map (funext fun r => ?_)) _
  by_cases hr : p r = true <;> simp [hr, hf]

omit [DecidableEq υ] in
theorem ownerOf_of_insert (h : t.insert? r = some t') (hk : t.ownerOf owner k = some u) :
    t'.ownerOf owner k = some u := by
  obtain ⟨r', hfind, howner⟩ := Option.map_eq_some_iff.mp hk
  unfold ownerOf
  rw [find?_of_insert h hfind, Option.map_some, howner]

omit [DecidableEq υ] in
theorem ownerOf_inserted (h : t.insert? r = some t') :
    t'.ownerOf owner (key r) = some (owner r) := by
  unfold ownerOf
  rw [find?_insert h, if_pos rfl, Option.map_some]

end Table
