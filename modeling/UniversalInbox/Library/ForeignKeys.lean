import UniversalInbox.Library.Table

/-! Rows that refer to one another, and what a deletion does to those that refer to what goes: some
go as well, some have their reference set to null, and some forbid it. -/
namespace ForeignKeys

inductive OnDelete where
  | cascade
  | setNull
  | noAction
deriving DecidableEq, Repr

structure Reference (κ : Type*) where
  target : κ
  onDelete : OnDelete
deriving DecidableEq, Repr

/-- `clear` sets those references to null that are to be so when their target is gone. -/
structure Schema (ρ κ : Type*) where
  key : ρ → κ
  references : ρ → List (Reference κ)
  clear : (κ → Bool) → ρ → ρ
  key_clear : ∀ gone r, key (clear gone r) = key r
  references_clear : ∀ gone r, references (clear gone r) =
    (references r).filter fun x => !(x.onDelete = .setNull && gone x.target)
  clear_eq_self : ∀ gone r, (∀ x ∈ references r, x.onDelete = .setNull → gone x.target = false) →
    clear gone r = r

variable {ρ κ : Type*} [DecidableEq κ] (schema : Schema ρ κ)

omit [DecidableEq κ] in
def Schema.refers (onDelete : OnDelete) (p : κ → Bool) (r : ρ) : Bool :=
  (schema.references r).any fun x => x.onDelete = onDelete && p x.target

def Schema.among (rows : List ρ) (k : κ) : Bool := rows.any fun r => schema.key r = k

/-- What is left when the rows that are hit go, then those that refer to these, and so on. -/
def survivors : Nat → (ρ → Bool) → List ρ → List ρ
  | 0, _, rows => rows
  | fuel + 1, hits, rows =>
    let fallen := rows.filter hits
    let rest := rows.filter fun r => !hits r
    if fallen.isEmpty then rest
    else survivors fuel (schema.refers .cascade (schema.among fallen)) rest

/-- The rows that go. -/
inductive Falls (rows : List ρ) (hits : ρ → Bool) : ρ → Prop
  | hit {r : ρ} : r ∈ rows → hits r = true → Falls rows hits r
  | cascade {q r : ρ} : Falls rows hits q → r ∈ rows →
      schema.refers .cascade (fun k => decide (k = schema.key q)) r = true → Falls rows hits r

theorem survivors_sublist {fuel : Nat} {hits : ρ → Bool} {rows : List ρ} :
    (survivors schema fuel hits rows).Sublist rows := by
  induction fuel generalizing rows hits with
  | zero => exact List.Sublist.refl _
  | succ fuel ih =>
    rw [survivors]
    split
    · exact List.filter_sublist
    · exact ih.trans List.filter_sublist

omit [DecidableEq κ] in
theorem map_key_clear {gone : κ → Bool} {rows : List ρ} :
    (rows.map (schema.clear gone)).map schema.key = rows.map schema.key := by
  rw [List.map_map]
  exact List.map_congr_left fun r _ => schema.key_clear gone r

/-- What is left of the rows when that of a key goes. -/
def left (t : Table schema.key) (k : κ) : List ρ :=
  survivors schema t.rows.length (fun r => decide (schema.key r = k)) t.rows

/-- The keys whose rows go with it. -/
def gone (t : Table schema.key) (k k' : κ) : Bool :=
  schema.among t.rows k' && !schema.among (left schema t k) k'

/-- Deletes the row of a key; `none` when a row that stays forbids it. -/
def delete (t : Table schema.key) (k : κ) : Option (Table schema.key) :=
  if (left schema t k).any (schema.refers .noAction (gone schema t k)) then none
  else some ⟨(left schema t k).map (schema.clear (gone schema t k)), by
    rw [map_key_clear]
    exact t.nodup.sublist ((survivors_sublist schema).map schema.key)⟩

/-- Every reference has its row. -/
def Intact (t : Table schema.key) : Prop :=
  ∀ r ∈ t.rows, ∀ x ∈ schema.references r, ∃ q ∈ t.rows, schema.key q = x.target

variable {schema} {rows : List ρ} {hits : ρ → Bool} {r q : ρ} {k : κ} {fuel : Nat}

omit [DecidableEq κ] in
theorem refers_eq_true {onDelete : OnDelete} {p : κ → Bool} :
    schema.refers onDelete p r = true ↔
      ∃ x ∈ schema.references r, x.onDelete = onDelete ∧ p x.target = true := by
  unfold Schema.refers
  simp only [List.any_eq_true, Bool.and_eq_true, decide_eq_true_eq]

theorem among_eq_true : schema.among rows k = true ↔ ∃ r ∈ rows, schema.key r = k := by
  unfold Schema.among
  simp only [List.any_eq_true, decide_eq_true_eq]

/-- What refers to one of some rows refers to the rows. -/
theorem refers_among {onDelete : OnDelete} : schema.refers onDelete (schema.among rows) r = true ↔
    ∃ q ∈ rows, schema.refers onDelete (fun k => decide (k = schema.key q)) r = true := by
  simp only [refers_eq_true, among_eq_true, decide_eq_true_eq]
  constructor
  · rintro ⟨x, hx, haction, q, hq, hkey⟩
    exact ⟨q, hq, x, hx, haction, hkey.symm⟩
  · rintro ⟨q, hq, x, hx, haction, hkey⟩
    exact ⟨x, hx, haction, q, hq, hkey.symm⟩

theorem Falls.mem (h : Falls schema rows hits r) : r ∈ rows := by
  cases h with
  | hit hr _ => exact hr
  | cascade _ hr _ => exact hr

/-- The first wave, and what falls with it among the others. -/
theorem falls_iff : Falls schema rows hits r ↔ (r ∈ rows ∧ hits r = true) ∨
    Falls schema (rows.filter fun r => !hits r)
      (schema.refers .cascade (schema.among (rows.filter hits))) r := by
  constructor
  · intro h
    induction h with
    | hit hr hhit => exact .inl ⟨hr, hhit⟩
    | @cascade q r _ hr hrefers ih =>
      by_cases hhit : hits r = true
      · exact .inl ⟨hr, hhit⟩
      have hrest : r ∈ rows.filter fun r => !hits r :=
        List.mem_filter.mpr ⟨hr, by simpa using hhit⟩
      obtain ⟨hq, hqhit⟩ | hq := ih
      · exact .inr (.hit hrest (refers_among.mpr ⟨q, List.mem_filter.mpr ⟨hq, hqhit⟩, hrefers⟩))
      · exact .inr (.cascade hq hrest hrefers)
  · rintro (⟨hr, hhit⟩ | h)
    · exact .hit hr hhit
    · induction h with
      | hit hr hrefers =>
        obtain ⟨q, hq, hrefers⟩ := refers_among.mp hrefers
        obtain ⟨hq, hhit⟩ := List.mem_filter.mp hq
        exact .cascade (.hit hq hhit) (List.mem_of_mem_filter hr) hrefers
      | cascade _ hr hrefers ih => exact .cascade ih (List.mem_of_mem_filter hr) hrefers

theorem survivors_eq_filter {p : ρ → Bool} (hfuel : rows.length ≤ fuel)
    (hp : ∀ r ∈ rows, p r = true ↔ ¬Falls schema rows hits r) :
    survivors schema fuel hits rows = rows.filter p := by
  induction fuel generalizing rows hits with
  | zero =>
    obtain rfl := List.length_eq_zero_iff.mp (Nat.le_zero.mp hfuel)
    rfl
  | succ fuel ih =>
    have hrest : (rows.filter fun r => !hits r).filter p = rows.filter p := by
      rw [List.filter_filter]
      refine List.filter_congr fun r hr => ?_
      cases hhit : hits r with
      | false => simp
      | true =>
        have hnot : ¬p r = true := fun h => (hp r hr).mp h (.hit hr hhit)
        simp [hnot]
    rw [survivors]
    split
    next hnone =>
      have hnone : ∀ r ∈ rows, hits r = false := by simpa using hnone
      have hfalls : ∀ r, ¬Falls schema rows hits r := by
        intro r h
        induction h with
        | hit hr hhit =>
          rw [hnone _ hr] at hhit
          cases hhit
        | cascade _ _ _ ih => exact ih
      rw [← hrest]
      refine (List.filter_eq_self.mpr fun r hr => ?_).symm
      exact (hp r (List.mem_of_mem_filter hr)).mpr (hfalls r)
    next hsome =>
      have hlength : (rows.filter fun r => !hits r).length < rows.length := by
        have hlength := List.length_eq_length_filter_add hits (l := rows)
        have hpos : 0 < (rows.filter hits).length := by
          rw [List.length_pos_iff]
          simpa using hsome
        omega
      rw [← hrest]
      refine ih (by omega) fun r hr => ?_
      obtain ⟨hr, hhit⟩ := List.mem_filter.mp hr
      rw [hp r hr, falls_iff]
      constructor
      · intro h hcascade
        exact h (.inr hcascade)
      · rintro h (⟨-, hyes⟩ | hcascade)
        · simp [hyes] at hhit
        · exact h hcascade

variable {t t' : Table schema.key}

/-- The rows of a table that go with that of a key. -/
def Goes (t : Table schema.key) (k : κ) (r : ρ) : Prop :=
  Falls schema t.rows (fun r => decide (schema.key r = k)) r

theorem Goes.root (hr : r ∈ t.rows) (hkey : schema.key r = k) : Goes t k r :=
  .hit hr (decide_eq_true hkey)

theorem Goes.cascade {x : Reference κ} (hq : Goes t k q) (hr : r ∈ t.rows)
    (hx : x ∈ schema.references r) (haction : x.onDelete = .cascade)
    (hkey : schema.key q = x.target) : Goes t k r :=
  Falls.cascade hq hr (refers_eq_true.mpr ⟨x, hx, haction, decide_eq_true hkey.symm⟩)

/-- What the row of the key has, and what each reference hands on to the row that holds it. -/
theorem Goes.induction {p : ρ → Prop} (hroot : ∀ r ∈ t.rows, schema.key r = k → p r)
    (hstep : ∀ q ∈ t.rows, p q → ∀ r ∈ t.rows, ∀ x ∈ schema.references r,
      x.onDelete = .cascade → schema.key q = x.target → p r) (h : Goes t k r) : p r := by
  induction h with
  | hit hr hhit => exact hroot _ hr (of_decide_eq_true hhit)
  | cascade hq hr hrefers ih =>
    obtain ⟨x, hx, haction, hkey⟩ := refers_eq_true.mp hrefers
    exact hstep _ hq.mem ih _ hr x hx haction (of_decide_eq_true hkey).symm

theorem mem_left : r ∈ left schema t k ↔ r ∈ t.rows ∧ ¬Goes t k r := by
  classical
  rw [left, survivors_eq_filter (p := fun r => decide (¬Goes t k r)) (Nat.le_refl _)
    fun r _ => decide_eq_true_iff]
  rw [List.mem_filter, decide_eq_true_eq]

theorem gone_eq_true {k' : κ} : gone schema t k k' = true ↔ ∃ q, Goes t k q ∧ schema.key q = k' := by
  rw [gone, Bool.and_eq_true, Bool.not_eq_true', among_eq_true, ← Bool.not_eq_true, among_eq_true]
  constructor
  · rintro ⟨⟨q, hq, hkey⟩, hnone⟩
    by_contra hstays
    exact hnone ⟨q, mem_left.mpr ⟨hq, fun h => hstays ⟨q, h, hkey⟩⟩, hkey⟩
  · rintro ⟨q, hgoes, hkey⟩
    refine ⟨⟨q, hgoes.mem, hkey⟩, ?_⟩
    rintro ⟨q', hq', hkey'⟩
    obtain ⟨hq', hstays⟩ := mem_left.mp hq'
    rw [Table.eq_of_key hq' hgoes.mem (hkey'.trans hkey.symm)] at hstays
    exact hstays hgoes

/-- A row that stays refers, and forbids the deletion, to one that goes. -/
def Forbidden (t : Table schema.key) (k : κ) : Prop :=
  ∃ r ∈ t.rows, ¬Goes t k r ∧ ∃ x ∈ schema.references r, x.onDelete = .noAction ∧
    ∃ q, Goes t k q ∧ schema.key q = x.target

theorem any_refers_iff :
    (left schema t k).any (schema.refers .noAction (gone schema t k)) = true ↔ Forbidden t k := by
  rw [List.any_eq_true]
  simp only [mem_left, refers_eq_true, gone_eq_true, and_assoc, Forbidden]

theorem delete_eq_none : delete schema t k = none ↔ Forbidden t k := by
  rw [← any_refers_iff, delete]
  split
  · next h => simp [h]
  · next h => simp [h]

theorem rows_of_delete (h : delete schema t k = some t') :
    t'.rows = (left schema t k).map (schema.clear (gone schema t k)) := by
  rw [delete] at h
  split at h
  · cases h
  · cases h
    rfl

theorem mem_of_delete (h : delete schema t k = some t') :
    r ∈ t'.rows ↔ ∃ q ∈ t.rows, ¬Goes t k q ∧ schema.clear (gone schema t k) q = r := by
  rw [rows_of_delete h, List.mem_map]
  simp only [mem_left, and_assoc]

/-- A deletion leaves no reference without its row. -/
theorem Intact.delete (hi : Intact schema t) (h : delete schema t k = some t') :
    Intact schema t' := by
  intro r' hr' x hx
  obtain ⟨r, hr, hstays, rfl⟩ := (mem_of_delete h).mp hr'
  rw [schema.references_clear, List.mem_filter] at hx
  obtain ⟨hx, hkept⟩ := hx
  obtain ⟨q, hq, hkey⟩ := hi r hr x hx
  have hqstays : ¬Goes t k q := by
    intro hgoes
    cases haction : x.onDelete with
    | cascade => exact hstays (hgoes.cascade hr hx haction hkey)
    | setNull =>
      have hgone : gone schema t k x.target = true := gone_eq_true.mpr ⟨q, hgoes, hkey⟩
      simp [haction, hgone] at hkept
    | noAction =>
      have hforbidden : Forbidden t k := ⟨r, hr, hstays, x, hx, haction, q, hgoes, hkey⟩
      rw [delete_eq_none.mpr hforbidden] at h
      cases h
  refine ⟨schema.clear (gone schema t k) q, (mem_of_delete h).mpr ⟨q, hq, hqstays, rfl⟩, ?_⟩
  rw [schema.key_clear, hkey]

end ForeignKeys
