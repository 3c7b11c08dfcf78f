import UniversalInbox.Library.Table

/-! Transactions under committed-read isolation over one collection of rows. A statement reads
what is committed when it runs and what its own transaction has written; the writes of a
transaction reach the others at its commit. -/
namespace ReadCommitted

variable {τ ρ α κ : Type*}

inductive Write (ρ : Type*) where
  | insert (row : ρ)
  | update (p : ρ → Bool) (f : ρ → ρ)

namespace Write

def apply (rows : List ρ) : Write ρ → List ρ
  | .insert row => rows ++ [row]
  | .update p f => rows.map fun r => if p r then f r else r

/-- The row is locked until the transaction of the write ends. -/
def locks (r : ρ) : Write ρ → Bool
  | .insert _ => false
  | .update p _ => p r

/-- No update of the row changes its key. -/
def Keeps (key : ρ → κ) : Write ρ → Prop
  | .insert _ => True
  | .update _ f => ∀ r, key (f r) = key r

def insertedKey? (key : ρ → κ) : Write ρ → Option κ
  | .insert row => some (key row)
  | .update _ _ => none

end Write

/-- An open transaction; `memory` is what its program holds between two statements. -/
structure Session (τ ρ α : Type*) where
  id : τ
  writes : List (Write ρ)
  memory : α

def Session.after (write : Option (Write ρ)) (memory : α) (session : Session τ ρ α) :
    Session τ ρ α :=
  { session with writes := session.writes ++ write.toList, memory }

theorem Session.after_id (write : Option (Write ρ)) (memory : α) (session : Session τ ρ α) :
    (session.after write memory).id = session.id := rfl

structure Store (τ ρ α : Type*) where
  committed : List ρ
  sessions : Table (Session.id (τ := τ) (ρ := ρ) (α := α))

def insertedKeys (key : ρ → κ) (writes : List (Write ρ)) : List κ :=
  writes.filterMap (Write.insertedKey? key)

theorem map_key_foldl {key : ρ → κ} {writes : List (Write ρ)} {rows : List ρ}
    (h : ∀ w ∈ writes, w.Keeps key) :
    (writes.foldl Write.apply rows).map key = rows.map key ++ insertedKeys key writes := by
  induction writes generalizing rows with
  | nil => exact (List.append_nil _).symm
  | cons w rest ih =>
    obtain ⟨hw, hrest⟩ := List.forall_mem_cons.mp h
    rw [List.foldl_cons, ih hrest]
    cases w with
    | insert row => simp [Write.apply, insertedKeys, Write.insertedKey?]
    | update p f =>
      rw [show (Write.apply rows (.update p f)).map key = rows.map key from Table.map_map_ite hw]
      rfl

namespace Store
variable [DecidableEq τ] (s : Store τ ρ α)

/-- What a statement of the transaction reads. -/
def visible (session : Session τ ρ α) : List ρ := session.writes.foldl Write.apply s.committed

def begin (id : τ) (memory : α) : Option (Store τ ρ α) :=
  (s.sessions.insert? ⟨id, [], memory⟩).map fun sessions => { s with sessions }

/-- A statement that succeeded: its write, if any, and what the program keeps of it. -/
def run (id : τ) (write : Option (Write ρ)) (memory : α) : Store τ ρ α :=
  { s with
    sessions := s.sessions.update (fun x => decide (x.id = id)) (Session.after write memory)
      (Session.after_id write memory) }

def commit (session : Session τ ρ α) : Store τ ρ α :=
  { committed := s.visible session, sessions := s.sessions.erase session.id }

def rollback (id : τ) : Store τ ρ α := { s with sessions := s.sessions.erase id }

/-- A row the statement would write is locked by another transaction. -/
def blocked (id : τ) (write : Write ρ) : Bool :=
  s.committed.any fun r => write.locks r &&
    s.sessions.rows.any fun x => decide (x.id ≠ id) && x.writes.any (Write.locks r)

/-- The keys of the committed rows and of the rows open transactions have inserted. -/
def claimedKeys (key : ρ → κ) : List κ :=
  s.committed.map key ++ s.sessions.rows.flatMap fun x => insertedKeys key x.writes

/-- No two rows with one key, now or whichever of the open transactions commit. -/
structure Distinct (key : ρ → κ) : Prop where
  keeps : ∀ x ∈ s.sessions.rows, ∀ w ∈ x.writes, w.Keeps key
  nodup : (s.claimedKeys key).Nodup

variable {s} {t : Store τ ρ α} {key : ρ → κ} {session : Session τ ρ α} {id : τ} {memory : α}

theorem find?_run_isSome {write : Option (Write ρ)} {id' : τ} :
    ((s.run id write memory).sessions.find? id').isSome = (s.sessions.find? id').isSome :=
  Table.find?_isSome_update (e := Session.after_id write memory)

/-- A statement of one transaction changes no other. -/
theorem mem_run {write : Option (Write ρ)} {x : Session τ ρ α} (h : session ∈ s.sessions.rows) :
    x ∈ (s.run session.id write memory).sessions.rows ↔
      x = session.after write memory ∨ x ∈ s.sessions.rows ∧ x.id ≠ session.id := by
  refine (Table.mem_update (e := Session.after_id write memory)).trans ⟨?_, ?_⟩
  · rintro ⟨y, hy, rfl⟩
    by_cases hid : y.id = session.id
    · rw [if_pos (decide_eq_true hid), Table.eq_of_key hy h hid]
      exact .inl rfl
    · rw [if_neg (by simpa using hid)]
      exact .inr ⟨hy, hid⟩
  · rintro (rfl | ⟨hx, hid⟩)
    · exact ⟨session, h, if_pos (decide_eq_true rfl)⟩
    · exact ⟨x, hx, if_neg (by simpa using hid)⟩

theorem visible_run {write : Option (Write ρ)} {id' : τ} :
    (s.run id' write memory).visible (session.after write memory) =
      write.toList.foldl Write.apply (s.visible session) :=
  List.foldl_append

omit [DecidableEq τ] in
theorem Distinct.committed (h : s.Distinct key) : (s.committed.map key).Nodup :=
  (List.nodup_append.mp h.nodup).1

theorem Distinct.begin (h : s.Distinct key) (ht : s.begin id memory = some t) : t.Distinct key := by
  obtain ⟨sessions, hinsert, rfl⟩ := Option.map_eq_some_iff.mp ht
  obtain ⟨-, hrows⟩ := Table.insert?_eq_some.mp hinsert
  constructor
  · intro x hx w hw
    simp only [hrows, List.mem_append, List.mem_singleton] at hx
    rcases hx with hx | rfl
    · exact h.keeps x hx w hw
    · exact absurd hw List.not_mem_nil
  · simpa [claimedKeys, hrows, insertedKeys] using h.nodup

theorem perm_claimedKeys (h : session ∈ s.sessions.rows) :
    (s.claimedKeys key).Perm (s.committed.map key ++ (insertedKeys key session.writes ++
      (s.sessions.erase session.id).rows.flatMap fun x => insertedKeys key x.writes)) :=
  ((Table.perm_erase h).flatMap_right _).append_left _

/-- A statement that inserts nothing, or a row whose key nobody has claimed. -/
theorem Distinct.run (h : s.Distinct key) (hsession : session ∈ s.sessions.rows)
    {write : Option (Write ρ)} (hkeeps : ∀ w ∈ write, w.Keeps key)
    (hfresh : ∀ w ∈ write, ∀ k ∈ w.insertedKey? key, k ∉ s.claimedKeys key) :
    (s.run session.id write memory).Distinct key := by
  constructor
  · intro x hx w hw
    obtain ⟨y, hy, rfl⟩ := (Table.mem_update (e := Session.after_id write memory)).mp hx
    split at hw
    · rcases List.mem_append.mp hw with hold | hnew
      · exact h.keeps y hy w hold
      · exact hkeeps w (Option.mem_toList.mp hnew)
    · exact h.keeps y hy w hw
  · have hperm : ((s.run session.id write memory).claimedKeys key).Perm
        ((write.bind (Write.insertedKey? key)).toList ++ s.claimedKeys key) := by
      have hupdate := Table.perm_update hsession (e := Session.after_id write memory)
      refine ((hupdate.flatMap_right _).append_left _).trans ?_
      refine List.Perm.trans ?_ ((perm_claimedKeys hsession).symm.append_left _)
      simp only [Store.run, Session.after, List.flatMap_cons, insertedKeys, List.filterMap_append]
      have hwrite : write.toList.filterMap (Write.insertedKey? key) =
          (write.bind (Write.insertedKey? key)).toList := by
        cases write with
        | none => rfl
        | some w => cases hw : w.insertedKey? key <;> simp [hw]
      rw [hwrite]
      grind [List.perm_append_comm, List.Perm]
    rw [hperm.nodup_iff]
    cases hkey : write.bind (Write.insertedKey? key) with
    | none => exact h.nodup
    | some k =>
      obtain ⟨w, hw, hk⟩ := Option.bind_eq_some_iff.mp hkey
      exact List.nodup_cons.mpr ⟨hfresh w hw k hk, h.nodup⟩

theorem Distinct.erase (h : s.Distinct key) (hsession : session ∈ s.sessions.rows) :
    (s.rollback session.id).Distinct key := by
  constructor
  · intro x hx
    exact h.keeps x (Table.mem_erase.mp hx).1
  · have hnodup := (perm_claimedKeys hsession).nodup_iff.mp h.nodup
    exact hnodup.sublist ((List.sublist_append_right _ _).append_left _)

theorem Distinct.commit (h : s.Distinct key) (hsession : session ∈ s.sessions.rows) :
    (s.commit session).Distinct key := by
  constructor
  · intro x hx
    exact h.keeps x (Table.mem_erase.mp hx).1
  · have hnodup := (perm_claimedKeys hsession).nodup_iff.mp h.nodup
    rw [← List.append_assoc, ← map_key_foldl (h.keeps session hsession)] at hnodup
    exact hnodup

end Store

end ReadCommitted
