import UniversalInbox.Library.ReadCommitted

/-! What the rows are once the open transactions have committed as they are. Transactions that have
written different rows may commit in any order, so a commit changes nothing of it, and a statement
changes it as it changes what its own transaction sees. -/
namespace ReadCommitted

variable {τ ρ α κ : Type*} {key : ρ → κ}

namespace Write

/-- The keys of the rows it inserts or updates. -/
def touched (key : ρ → κ) : Write ρ → Set κ
  | .insert row => {key row}
  | .update p _ => {k | ∃ r, key r = k ∧ p r = true}

/-- It changes no key, and tells the rows it updates by their keys. -/
structure ByKey (key : ρ → κ) (w : Write ρ) : Prop where
  keeps : w.Keeps key
  locks : ∀ r r', key r = key r' → w.locks r = w.locks r'

/-- The two writes touch different rows. -/
def Apart (key : ρ → κ) (w w' : Write ρ) : Prop := ∀ k ∈ w.touched key, k ∉ w'.touched key

variable {w w' : Write ρ} {rows rows' : List ρ} {writes : List (Write ρ)} {r : ρ}

theorem Apart.symm (h : w.Apart key w') : w'.Apart key w := fun k hk' hk => h k hk hk'

theorem ByKey.locks_of_touched {p : ρ → Bool} {f : ρ → ρ} (h : (Write.update p f).ByKey key)
    (hr : key r ∈ (Write.update p f).touched key) : p r = true := by
  obtain ⟨r', hkey, hp⟩ := hr
  exact (h.locks r r' hkey.symm).trans hp

/-- A row that a write does not touch. -/
theorem ByKey.mem_apply (h : w.ByKey key) (hr : key r ∉ w.touched key) :
    r ∈ w.apply rows ↔ r ∈ rows := by
  cases w with
  | insert row =>
    refine List.mem_append.trans (or_iff_left fun hlast => hr ?_)
    exact congrArg key (List.mem_singleton.mp hlast)
  | update p f =>
    have hp : p r = false := Bool.eq_false_iff.mpr fun hp => hr ⟨r, rfl, hp⟩
    refine List.mem_map.trans ⟨?_, fun hold => ⟨r, hold, if_neg (by simp [hp])⟩⟩
    rintro ⟨old, hold, hnew⟩
    by_cases hpold : p old = true
    · rw [if_pos hpold] at hnew
      have hkey : key r = key old := hnew ▸ h.keeps old
      exact absurd (h.locks r old hkey) (by simp [Write.locks, hp, hpold])
    · rw [if_neg hpold] at hnew
      exact hnew ▸ hold

theorem apply_perm (h : rows.Perm rows') : (w.apply rows).Perm (w.apply rows') := by
  cases w with
  | insert row => exact h.append_right [row]
  | update p f => exact h.map _

theorem foldl_perm (h : rows.Perm rows') :
    (writes.foldl apply rows).Perm (writes.foldl apply rows') := by
  induction writes generalizing rows rows' with
  | nil => exact h
  | cons w rest ih => exact ih (apply_perm h)

/-- An update leaves a row inserted by a write that touches other rows. -/
theorem update_append {p : ρ → Bool} {f : ρ → ρ}
    (hapart : (Write.insert r).Apart key (.update p f)) :
    (Write.update p f).apply (rows ++ [r]) = (Write.update p f).apply rows ++ [r] := by
  have hp : p r = false := by
    refine Bool.eq_false_iff.mpr fun hp => ?_
    exact hapart (key r) rfl ⟨r, rfl, hp⟩
  simp [apply, hp]

theorem apply_comm (h : w.ByKey key) (h' : w'.ByKey key)
    (hapart : w.Apart key w') :
    (w'.apply (w.apply rows)).Perm (w.apply (w'.apply rows)) := by
  cases w with
  | insert r =>
    cases w' with
    | insert r' =>
      simp only [apply, List.append_assoc]
      exact (List.perm_append_comm).append_left rows
    | update p f => exact List.Perm.of_eq (update_append hapart)
  | update p f =>
    cases w' with
    | insert r' => exact List.Perm.of_eq (update_append hapart.symm).symm
    | update p' f' =>
      refine List.Perm.of_eq ?_
      simp only [apply, List.map_map]
      refine List.map_congr_left fun r _ => ?_
      have hlocks : p' (f r) = p' r := h'.locks _ _ (h.keeps r)
      have hlocks' : p (f' r) = p r := h.locks _ _ (h'.keeps r)
      by_cases hp : p r = true
      · -- The row is of the first update, so the second leaves it before and after.
        have hp' : p' r = false := Bool.eq_false_iff.mpr fun hp' =>
          hapart (key r) ⟨r, rfl, hp⟩ ⟨r, rfl, hp'⟩
        simp [hp, hp', hlocks]
      · rw [Bool.not_eq_true] at hp
        by_cases hp' : p' r = true
        · simp [hp, hp', hlocks']
        · rw [Bool.not_eq_true] at hp'
          simp [hp, hp']

/-- A write moves past writes that touch other rows. -/
theorem foldl_apply_comm (h : w.ByKey key) (hwrites : ∀ w' ∈ writes, w'.ByKey key)
    (hapart : ∀ w' ∈ writes, w.Apart key w') :
    (writes.foldl apply (w.apply rows)).Perm (w.apply (writes.foldl apply rows)) := by
  induction writes generalizing rows with
  | nil => exact List.Perm.refl _
  | cons w' rest ih =>
    obtain ⟨hw', hrest⟩ := List.forall_mem_cons.mp hwrites
    obtain ⟨hapart', hothers⟩ := List.forall_mem_cons.mp hapart
    exact (foldl_perm (apply_comm h hw' hapart')).trans (ih hrest hothers)

theorem mem_foldl (hwrites : ∀ w ∈ writes, w.ByKey key)
    (hr : ∀ w ∈ writes, key r ∉ w.touched key) : r ∈ writes.foldl apply rows ↔ r ∈ rows := by
  induction writes generalizing rows with
  | nil => exact Iff.rfl
  | cons w rest ih =>
    obtain ⟨hw, hrest⟩ := List.forall_mem_cons.mp hwrites
    obtain ⟨hrw, hrrest⟩ := List.forall_mem_cons.mp hr
    exact (ih hrest hrrest).trans (hw.mem_apply hrw)

end Write

theorem mem_keys_foldl {writes : List (Write ρ)} (h : ∀ w ∈ writes, w.Keeps key) {rows : List ρ}
    {k : κ} :
    k ∈ (writes.foldl Write.apply rows).map key ↔
      k ∈ rows.map key ∨ k ∈ insertedKeys key writes := by
  rw [map_key_foldl h, List.mem_append]

theorem map_insertedKeys (writes : List (Write ρ)) :
    (insertedKeys (fun r => r) writes).map key = insertedKeys key writes := by
  unfold insertedKeys
  rw [List.map_filterMap]
  refine List.filterMap_congr fun w _ => ?_
  cases w <;> rfl

/-- A key is claimed by a row. -/
theorem Store.mem_claimedKeys {s : Store τ ρ α} {k : κ} :
    k ∈ s.claimedKeys key ↔ ∃ r ∈ s.claimedKeys (fun r => r), key r = k := by
  rw [← List.mem_map, claimedKeys, claimedKeys, List.map_append, List.map_id', List.map_flatMap]
  simp only [map_insertedKeys]

/-- The two transactions have written different rows. -/
def Session.Apart (key : ρ → κ) (x y : Session τ ρ α) : Prop :=
  ∀ w ∈ x.writes, ∀ w' ∈ y.writes, w.Apart key w'

theorem Session.Apart.symm {x y : Session τ ρ α} (h : x.Apart key y) : y.Apart key x :=
  fun w hw w' hw' => (h w' hw' w hw).symm

/-- The transactions commit one after the other. -/
def commitAll (rows : List ρ) (sessions : List (Session τ ρ α)) : List ρ :=
  sessions.foldl (fun rows x => x.writes.foldl Write.apply rows) rows

theorem commitAll_perm {rows rows' : List ρ} {sessions : List (Session τ ρ α)}
    (h : rows.Perm rows') : (commitAll rows sessions).Perm (commitAll rows' sessions) := by
  induction sessions generalizing rows rows' with
  | nil => exact h
  | cons x rest ih => exact ih (Write.foldl_perm h)

theorem map_key_commitAll {sessions : List (Session τ ρ α)}
    (h : ∀ x ∈ sessions, ∀ w ∈ x.writes, w.Keeps key) {rows : List ρ} :
    (commitAll rows sessions).map key =
      rows.map key ++ sessions.flatMap fun x => insertedKeys key x.writes := by
  induction sessions generalizing rows with
  | nil => exact (List.append_nil _).symm
  | cons x rest ih =>
    obtain ⟨hx, hrest⟩ := List.forall_mem_cons.mp h
    rw [commitAll, List.foldl_cons]
    exact (ih hrest).trans (by rw [map_key_foldl hx, List.flatMap_cons, List.append_assoc])

/-- A row that no transaction has touched. -/
theorem mem_commitAll {sessions : List (Session τ ρ α)}
    (hbyKey : ∀ x ∈ sessions, ∀ w ∈ x.writes, w.ByKey key) {rows : List ρ} {r : ρ}
    (hr : ∀ x ∈ sessions, ∀ w ∈ x.writes, key r ∉ w.touched key) :
    r ∈ commitAll rows sessions ↔ r ∈ rows := by
  induction sessions generalizing rows with
  | nil => exact Iff.rfl
  | cons x rest ih =>
    obtain ⟨hx, hrest⟩ := List.forall_mem_cons.mp hbyKey
    obtain ⟨hrx, hrrest⟩ := List.forall_mem_cons.mp hr
    exact (ih hrest hrrest).trans (Write.mem_foldl hx hrx)

/-- A write moves past transactions that have written other rows. -/
theorem commitAll_apply {w : Write ρ} (hw : w.ByKey key) {rows : List ρ}
    {sessions : List (Session τ ρ α)} (hbyKey : ∀ y ∈ sessions, ∀ w' ∈ y.writes, w'.ByKey key)
    (hapart : ∀ y ∈ sessions, ∀ w' ∈ y.writes, w.Apart key w') :
    (commitAll (w.apply rows) sessions).Perm (w.apply (commitAll rows sessions)) := by
  induction sessions generalizing rows with
  | nil => exact List.Perm.refl _
  | cons y rest ih =>
    obtain ⟨hy, hrest⟩ := List.forall_mem_cons.mp hbyKey
    obtain ⟨hy', hrest'⟩ := List.forall_mem_cons.mp hapart
    exact (commitAll_perm (Write.foldl_apply_comm hw hy hy')).trans (ih hrest hrest')

theorem foldl_writes_comm {x y : List (Write ρ)} (hx : ∀ w ∈ x, w.ByKey key)
    (hy : ∀ w ∈ y, w.ByKey key)
    (hapart : ∀ w ∈ x, ∀ w' ∈ y, w.Apart key w') {rows : List ρ} :
    (y.foldl Write.apply (x.foldl Write.apply rows)).Perm
      (x.foldl Write.apply (y.foldl Write.apply rows)) := by
  induction x generalizing rows with
  | nil => exact List.Perm.refl _
  | cons w rest ih =>
    obtain ⟨hw, hrest⟩ := List.forall_mem_cons.mp hx
    obtain ⟨hwy, hresty⟩ := List.forall_mem_cons.mp hapart
    exact (ih hrest hresty).trans (Write.foldl_perm (Write.foldl_apply_comm hw hy hwy))

/-- The order in which transactions that have written different rows commit does not matter. -/
theorem commitAll_of_perm {sessions sessions' : List (Session τ ρ α)} (h : sessions.Perm sessions')
    (hbyKey : ∀ x ∈ sessions, ∀ w ∈ x.writes, w.ByKey key)
    (hapart : sessions.Pairwise (Session.Apart key)) {rows : List ρ} :
    (commitAll rows sessions).Perm (commitAll rows sessions') := by
  induction h generalizing rows with
  | nil => exact List.Perm.refl _
  | cons x hrest ih =>
    exact ih (List.forall_mem_cons.mp hbyKey).2 (List.pairwise_cons.mp hapart).2
  | swap x y rest =>
    obtain ⟨hy, hx, -⟩ : (∀ w ∈ y.writes, w.ByKey key) ∧ (∀ w ∈ x.writes, w.ByKey key) ∧ _ :=
      ⟨(List.forall_mem_cons.mp hbyKey).1,
        (List.forall_mem_cons.mp (List.forall_mem_cons.mp hbyKey).2).1, trivial⟩
    have hyx := (List.pairwise_cons.mp hapart).1 x List.mem_cons_self
    exact commitAll_perm (foldl_writes_comm hy hx hyx)
  | trans hfirst hsecond ih ih' =>
    have hbyKey' := fun x hx => hbyKey x (hfirst.mem_iff.mpr hx)
    have hapart' := (hfirst.pairwise_iff Session.Apart.symm).mp hapart
    exact (ih hbyKey hapart).trans (ih' hbyKey' hapart')

namespace Store
variable [DecidableEq τ] {s : Store τ ρ α} {x y : Session τ ρ α} {memory : α}

/-- The rows once every open transaction has committed. -/
def merged (s : Store τ ρ α) : List ρ := commitAll s.committed s.sessions.rows

/-- The open transactions have written different rows, each of them rows it sees. -/
structure Separate (s : Store τ ρ α) (key : ρ → κ) : Prop where
  distinct : s.Distinct key
  byKey : ∀ x ∈ s.sessions.rows, ∀ w ∈ x.writes, w.ByKey key
  apart : s.sessions.rows.Pairwise (Session.Apart key)
  seen : ∀ x ∈ s.sessions.rows, ∀ w ∈ x.writes, ∀ k ∈ w.touched key,
    k ∈ (s.visible x).map key

/-- A statement finds the rows it would update unlocked, and a key it would insert unclaimed. -/
def Executable (s : Store τ ρ α) (key : ρ → κ) (id : τ) : Write ρ → Prop
  | .insert row => key row ∉ s.claimedKeys key
  | .update p f => s.blocked id (.update p f) = false

namespace Separate

theorem merged_perm_visible (h : s.Separate key) (hx : x ∈ s.sessions.rows) :
    s.merged.Perm (commitAll (s.visible x) (s.sessions.erase x.id).rows) :=
  commitAll_of_perm (Table.perm_erase hx) h.byKey h.apart

omit [DecidableEq τ] in
theorem map_merged (h : s.Separate key) : s.merged.map key = s.claimedKeys key :=
  map_key_commitAll fun x hx w hw => (h.byKey x hx w hw).keeps

/-- The last transaction sees what there is once it has committed. -/
theorem merged_of_alone (h : s.Separate key) (hx : x ∈ s.sessions.rows)
    (halone : ∀ y ∈ s.sessions.rows, y.id = x.id) : s.merged.Perm (s.visible x) := by
  have hnone : (s.sessions.erase x.id).rows = [] := by
    refine List.eq_nil_iff_forall_not_mem.mpr fun y hy => ?_
    obtain ⟨hold, hother⟩ := Table.mem_erase.mp hy
    exact hother (halone y hold)
  have hperm := h.merged_perm_visible hx
  rwa [hnone] at hperm

/-- A commit changes only what is committed now. -/
theorem merged_commit (h : s.Separate key) (hx : x ∈ s.sessions.rows) :
    (s.commit x).merged.Perm s.merged := (h.merged_perm_visible hx).symm

omit [DecidableEq τ] in
theorem mem_keys_visible (h : s.Separate key) (hx : x ∈ s.sessions.rows) {k : κ} :
    k ∈ (s.visible x).map key ↔ k ∈ s.committed.map key ∨ k ∈ insertedKeys key x.writes :=
  mem_keys_foldl fun w hw => (h.byKey x hx w hw).keeps

theorem nodup_claimed (h : s.Separate key) (hx : x ∈ s.sessions.rows) :
    (s.committed.map key ++ (insertedKeys key x.writes ++
      (s.sessions.erase x.id).rows.flatMap fun y => insertedKeys key y.writes)).Nodup :=
  (perm_claimedKeys hx).nodup_iff.mp h.distinct.nodup

/-- What a transaction has inserted is neither committed nor inserted by another. -/
theorem not_mem_inserted (h : s.Separate key) (hx : x ∈ s.sessions.rows)
    (hy : y ∈ s.sessions.rows) (hother : y.id ≠ x.id) {k : κ}
    (hk : k ∈ insertedKeys key x.writes) : k ∉ (s.visible y).map key := by
  have hnodup := h.nodup_claimed hx
  have hy' : y ∈ (s.sessions.erase x.id).rows := Table.mem_erase.mpr ⟨hy, hother⟩
  rw [h.mem_keys_visible hy]
  rintro (hcommitted | hinserted)
  · exact (List.nodup_append.mp hnodup).2.2 k hcommitted k (List.mem_append_left _ hk) rfl
  · have hinner := (List.nodup_append.mp hnodup).2.1
    exact (List.nodup_append.mp hinner).2.2 k hk k (List.mem_flatMap.mpr ⟨y, hy', hinserted⟩) rfl

omit [DecidableEq τ] in
theorem mem_claimedKeys_of_visible (h : s.Separate key) (hx : x ∈ s.sessions.rows) {k : κ}
    (hk : k ∈ (s.visible x).map key) : k ∈ s.claimedKeys key := by
  rcases (h.mem_keys_visible hx).mp hk with hcommitted | hinserted
  · exact List.mem_append_left _ hcommitted
  · exact List.mem_append_right _ (List.mem_flatMap.mpr ⟨x, hx, hinserted⟩)

/-- A statement that is neither blocked nor refused writes other rows than the other
transactions. -/
theorem disjoint_of_executable (h : s.Separate key) (hx : x ∈ s.sessions.rows)
    (hy : y ∈ s.sessions.rows) (hother : y.id ≠ x.id) {w : Write ρ} (hbyKey : w.ByKey key)
    (hexecutable : s.Executable key x.id w)
    (hseen : ∀ k ∈ w.touched key, k ∈ ((w.apply (s.visible x)).map key)) :
    ∀ w' ∈ y.writes, w.Apart key w' := by
  intro w' hw' k hk hk'
  have hy' := h.seen y hy w' hw' k hk'
  cases w with
  | insert row =>
    rw [show k = key row from hk] at hy'
    exact hexecutable (h.mem_claimedKeys_of_visible hy hy')
  | update p f =>
    have hx' : k ∈ (s.visible x).map key := by
      have hmap := hseen k hk
      rwa [show (Write.apply (s.visible x) (.update p f)).map key = (s.visible x).map key from
        Table.map_map_ite hbyKey.keeps] at hmap
    rcases (h.mem_keys_visible hx).mp hx' with hcommitted | hinserted
    · obtain ⟨r, hr, rfl⟩ := List.mem_map.mp hcommitted
      have hp := hbyKey.locks_of_touched hk
      cases w' with
      | insert row =>
        -- The row would be committed and inserted.
        have hinserted : key r ∈ insertedKeys key y.writes :=
          List.mem_filterMap.mpr ⟨_, hw', congrArg some (show key row = key r from hk'.symm)⟩
        exact h.not_mem_inserted hy hx (Ne.symm hother) hinserted hx'
      | update p' f' =>
        have hp' := (h.byKey y hy _ hw').locks_of_touched hk'
        refine Bool.eq_false_iff.mp hexecutable (List.any_eq_true.mpr ⟨r, hr, ?_⟩)
        rw [Bool.and_eq_true]
        refine ⟨hp, List.any_eq_true.mpr ⟨y, hy, ?_⟩⟩
        rw [Bool.and_eq_true]
        exact ⟨decide_eq_true hother, List.any_eq_true.mpr ⟨_, hw', hp'⟩⟩
    · exact h.not_mem_inserted hx hy hother hinserted hy'

section Run
variable {write : Option (Write ρ)}

/-- A statement that is executed keeps the transactions apart. -/
theorem run (h : s.Separate key) (hx : x ∈ s.sessions.rows) (hbyKey : ∀ w ∈ write, w.ByKey key)
    (hexecutable : ∀ w ∈ write, s.Executable key x.id w)
    (hseen : ∀ w ∈ write, ∀ k ∈ w.touched key, k ∈ (w.apply (s.visible x)).map key) :
    (s.run x.id write memory).Separate key := by
  have hmem : ∀ w ∈ (x.after write memory).writes, w ∈ x.writes ∨ w ∈ write := by
    intro w hw
    exact (List.mem_append.mp hw).imp_right Option.mem_toList.mp
  constructor
  · refine h.distinct.run hx (fun w hw => (hbyKey w hw).keeps) fun w hw k hk => ?_
    cases w with
    | insert row =>
      cases hk
      exact hexecutable _ hw
    | update p f => cases hk
  · intro y hy w hw
    rcases (Store.mem_run hx).mp hy with rfl | ⟨hold, -⟩
    · exact (hmem w hw).elim (h.byKey x hx w) (hbyKey w)
    · exact h.byKey y hold w hw
  · have hperm := (Table.perm_update hx (e := Session.after_id write memory)).symm
    refine (hperm.pairwise_iff Session.Apart.symm).mp (List.pairwise_cons.mpr ⟨?_, ?_⟩)
    · intro y hy w hw
      obtain ⟨hold, hother⟩ := Table.mem_erase.mp hy
      rcases hmem w hw with hw | hw
      · have hpairwise := (List.Perm.pairwise_iff Session.Apart.symm (Table.perm_erase hx)).mp h.apart
        exact (List.pairwise_cons.mp hpairwise).1 y hy w hw
      · exact h.disjoint_of_executable hx hold hother (hbyKey w hw) (hexecutable w hw)
          (hseen w hw)
    · exact h.apart.sublist List.filter_sublist
  · intro y hy w hw k hk
    rcases (Store.mem_run hx).mp hy with rfl | ⟨hold, -⟩
    · rw [Store.visible_run]
      rcases hmem w hw with hw | hw
      · refine (mem_keys_foldl fun w hw => ?_).mpr (.inl (h.seen x hx w hw k hk))
        exact (hbyKey w (Option.mem_toList.mp hw)).keeps
      · rw [Option.mem_def.mp hw]
        exact hseen w hw k hk
    · exact h.seen y hold w hw k hk

/-- A statement of one transaction, once the others have committed too. -/
theorem merged_run (h : s.Separate key) (hx : x ∈ s.sessions.rows)
    (hrun : (s.run x.id write memory).Separate key) :
    (s.run x.id write memory).merged.Perm (write.toList.foldl Write.apply s.merged) := by
  have hperm := Table.perm_update hx (e := Session.after_id write memory)
  have hafter : (s.run x.id write memory).merged.Perm (commitAll
      (write.toList.foldl Write.apply (s.visible x)) (s.sessions.erase x.id).rows) := by
    have hvisible : (s.run x.id write memory).visible (x.after write memory) =
        write.toList.foldl Write.apply (s.visible x) := Store.visible_run
    rw [← hvisible]
    exact commitAll_of_perm hperm hrun.byKey hrun.apart
  have hbefore := h.merged_perm_visible hx
  cases hwrite : write with
  | none =>
    rw [hwrite] at hafter
    exact hafter.trans hbefore.symm
  | some w =>
    rw [hwrite] at hafter hrun
    refine hafter.trans (List.Perm.trans ?_ (Write.apply_perm hbefore).symm)
    have hx' : x.after (some w) memory ∈ (s.run x.id (some w) memory).sessions.rows :=
      (Store.mem_run hx).mpr (.inl rfl)
    have hw : w ∈ (x.after (some w) memory).writes :=
      List.mem_append_right _ (List.mem_singleton_self w)
    have hpairwise := (hperm.pairwise_iff Session.Apart.symm).mp (hwrite ▸ hrun.apart)
    refine commitAll_apply (hrun.byKey _ hx' w hw) (fun y hy => ?_) fun y hy => ?_
    · exact h.byKey y (Table.mem_erase.mp hy).1
    · exact (List.pairwise_cons.mp hpairwise).1 y hy w (hwrite ▸ hw)

end Run

/-- A commit keeps the transactions apart. -/
theorem commit (h : s.Separate key) (hx : x ∈ s.sessions.rows) : (s.commit x).Separate key := by
  have hmem : ∀ y ∈ (s.commit x).sessions.rows, y ∈ s.sessions.rows :=
    fun y hy => (Table.mem_erase.mp hy).1
  refine ⟨h.distinct.commit hx, fun y hy => h.byKey y (hmem y hy),
    h.apart.sublist List.filter_sublist, fun y hy w hw k hk => ?_⟩
  have hkeeps : ∀ w ∈ y.writes, w.Keeps key := fun w hw => (h.byKey y (hmem y hy) w hw).keeps
  refine (mem_keys_foldl hkeeps).mpr ?_
  refine ((mem_keys_foldl hkeeps).mp (h.seen y (hmem y hy) w hw k hk)).imp_left fun hold => ?_
  exact (h.mem_keys_visible hx).mpr (.inl hold)

theorem begin {id : τ} {t : Store τ ρ α} (h : s.Separate key) (ht : s.begin id memory = some t) :
    t.Separate key := by
  have hdistinct := h.distinct.begin ht
  obtain ⟨sessions, hinsert, rfl⟩ := Option.map_eq_some_iff.mp ht
  obtain ⟨-, hrows⟩ := Table.insert?_eq_some.mp hinsert
  have hmem : ∀ y ∈ sessions.rows, ∀ w ∈ y.writes, y ∈ s.sessions.rows := by
    intro y hy w hw
    rw [hrows, List.mem_append, List.mem_singleton] at hy
    rcases hy with hy | rfl
    · exact hy
    · cases hw
  refine ⟨hdistinct, fun y hy w hw => h.byKey y (hmem y hy w hw) w hw, ?_,
    fun y hy w hw => h.seen y (hmem y hy w hw) w hw⟩
  rw [hrows]
  refine List.pairwise_append.mpr ⟨h.apart, List.pairwise_singleton _ _, fun y _ x hx => ?_⟩
  rw [List.mem_singleton.mp hx]
  intro w _ w' hw'
  cases hw'

theorem rollback (h : s.Separate key) (hx : x ∈ s.sessions.rows) :
    (s.rollback x.id).Separate key := by
  have hmem : ∀ y ∈ (s.rollback x.id).sessions.rows, y ∈ s.sessions.rows :=
    fun y hy => (Table.mem_erase.mp hy).1
  exact ⟨h.distinct.erase hx, fun y hy => h.byKey y (hmem y hy),
    h.apart.sublist List.filter_sublist, fun y hy => h.seen y (hmem y hy)⟩

end Separate

/-- What is committed stays visible to the others, under its key. -/
theorem mem_keys_visible_commit (hkeeps : ∀ z ∈ s.sessions.rows, ∀ w ∈ z.writes, w.Keeps key)
    (hx : x ∈ s.sessions.rows) (hy : y ∈ s.sessions.rows) {k : κ}
    (hk : k ∈ (s.visible y).map key) : k ∈ ((s.commit x).visible y).map key := by
  refine (mem_keys_foldl (hkeeps y hy)).mpr ?_
  refine ((mem_keys_foldl (hkeeps y hy)).mp hk).imp_left fun hold => ?_
  exact (mem_keys_foldl (hkeeps x hx)).mpr (.inl hold)

end Store

end ReadCommitted
