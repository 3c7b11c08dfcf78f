import UniversalInbox.Library.HeldRows
import UniversalInbox.Library.LockedRow
import UniversalInbox.Library.Transition
import UniversalInbox.User

/-! The authentication methods of a user, and the statements of the requests that add and remove
them and of those that create and delete the user, in any order. -/
namespace UniversalInbox.User.AuthMethods
open Transition

inductive Operation where
  | createUser (kind : UserAuthKind)
  | addLocalAuthMethod
  | finishAddPasskeyAuthMethod
  | linkOidcAuthMethod (kind : UserAuthKind)
  | removeAuthMethod (kind : UserAuthKind)
  | deleteUser
deriving DecidableEq, Repr

/-- Where a request stands. `locking` and `cascading` have the rows of a snapshot that are still to
be locked, and `locking` those that it has locked; `created`, `added` and `removed` are before the
commit. -/
inductive Phase where
  | creatingUser (kind : UserAuthKind)
  | creatingUserAuth (kind : UserAuthKind)
  | created
  | checking (kind : UserAuthKind)
  | linking (kind : UserAuthKind)
  | adding (kind : UserAuthKind)
  | added
  | removing (kind : UserAuthKind)
  | locking (kind : UserAuthKind) (remaining locked : List Nat)
  | deleting (kind : UserAuthKind)
  | removed
  | deletingUser
  | cascading (remaining : List Nat)
deriving DecidableEq, Repr

structure Request where
  id : Nat
  phase : Phase
deriving DecidableEq, Repr

/-- Whether the user is there, the rows of its authentication methods and the open requests. -/
structure State where
  user : LockedRow Nat Bool
  auths : HeldRows Nat UserAuthKind
  requests : Table Request.id
  begun : Nat
  refusals : List (Nat × UniversalInboxError)

/-- One input a statement; `lockRow` is the lock of one row of the snapshot, in any order, and
`abort` any other end of a request, as by what its service checks of other tables. -/
inductive Input where
  | begin (operation : Operation)
  | readAuth (id : Nat)
  | insertUser (id : Nat)
  | insertAuth (id : Nat)
  | beginLock (id : Nat)
  | lockRow (id : Nat) (row : Nat)
  | count (id : Nat)
  | delete (id : Nat)
  | commit (id : Nat)
  | abort (id : Nat)
deriving DecidableEq, Repr

def Operation.phase : Operation → Phase
  | createUser kind => .creatingUser kind
  | addLocalAuthMethod => .checking .localAuth
  | finishAddPasskeyAuthMethod => .adding .passkey
  | linkOidcAuthMethod kind => .linking kind
  | removeAuthMethod kind => .removing kind
  | deleteUser => .deletingUser

namespace State

def advance (s : State) (x : Request) (phase : Phase) : State :=
  { s with requests := s.requests.put { x with phase } }

def commit (s : State) (id : Nat) : State :=
  { s with
    user := s.user.commit id
    auths := s.auths.commit id
    requests := s.requests.erase id }

def drop (s : State) (id : Nat) : State :=
  { s with
    user := s.user.rollback id
    auths := s.auths.rollback id
    requests := s.requests.erase id }

def refuse (s : State) (id : Nat) (error : UniversalInboxError) : State :=
  { s.drop id with refusals := (id, error) :: s.refusals }

/-- The committed rows, as a snapshot has them. -/
def snapshot (s : State) : List (HeldRow Nat UserAuthKind) := s.auths.rows.filter HeldRow.isCommitted

def methods (s : State) : List UserAuthKind := s.snapshot.map HeldRow.value

/-- Another request has inserted a row that refers to the user. -/
def keyShared (s : State) (id : Nat) : Bool :=
  s.requests.rows.any fun y => decide (y.id ≠ id) &&
    match y.phase with
    | .created | .added => true
    | _ => false

end State

def lastMethod : UniversalInboxError :=
  .invalidInputData "Cannot remove the last authentication method"

def methodNotFound (userId : UserId) (kind : UserAuthKind) : UniversalInboxError :=
  .itemNotFound s!"No {kind.display} authentication method found for user {userId.uuid}"

/-- `add_local_auth_method` and `link_oidc_auth_method` up to their read of the method. -/
def check (userId : UserId) (s : State) (x : Request) (kind : UserAuthKind) : State :=
  if s.methods.contains kind then s.refuse x.id (.alreadyExists userId.uuid)
  else s.advance x (.adding kind)

/-- `create_user_auth`: the row refers to a user that is there, and is the only one of its kind. -/
def createUserAuth (userId : UserId) (s : State) (x : Request) (kind : UserAuthKind)
    (phase : Phase) : Option State :=
  if s.user.committed && s.user.lockedFor x.id || s.auths.insertWaits id x.id kind then none
  else if !s.user.view x.id || s.auths.violates id x.id kind then
    some (s.refuse x.id (authNotCreated userId))
  else
    (s.auths.insert? ⟨x.id, kind, .inserted x.id⟩).map fun auths =>
      { s.advance x phase with auths }

/-- `remove_auth_method` with the rows that it has locked. -/
def removeAuthMethod (userId : UserId) (s : State) (x : Request) (kind : UserAuthKind)
    (locked : List Nat) : State :=
  if locked.length ≤ 1 then s.refuse x.id lastMethod
  else if s.auths.rows.any fun r => locked.contains r.id && decide (r.value = kind) then
    s.advance x (.deleting kind)
  else s.refuse x.id (methodNotFound userId kind)

def step (userId : UserId) (s : State) : Input → Option State
  | .begin operation =>
    (s.requests.insert? ⟨s.begun, operation.phase⟩).map fun requests =>
      { s with requests, begun := s.begun + 1 }
  | .readAuth id =>
    (s.requests.find? id).bind fun x =>
      match x.phase with
      | .checking kind => some (check userId s x kind)
      | .linking kind =>
        some (if kind.isOidc then check userId s x kind else s.refuse id (cannotLink kind))
      | _ => none
  | .insertUser id =>
    (s.requests.find? id).bind fun x =>
      match x.phase with
      | .creatingUser kind =>
        if s.user.view id && !s.user.lockedFor id then
          some (s.refuse id (.alreadyExists userId.uuid))
        else
          (s.user.write? id fun _ => true).map fun user =>
            { s.advance x (.creatingUserAuth kind) with user }
      | _ => none
  | .insertAuth id =>
    (s.requests.find? id).bind fun x =>
      match x.phase with
      | .creatingUserAuth kind => createUserAuth userId s x kind .created
      | .adding kind => createUserAuth userId s x kind .added
      | _ => none
  | .beginLock id =>
    (s.requests.find? id).bind fun x =>
      match x.phase with
      | .removing kind => some (s.advance x (.locking kind (s.snapshot.map HeldRow.id) []))
      | _ => none
  | .lockRow id row =>
    (s.requests.find? id).bind fun x =>
      match x.phase with
      | .locking kind remaining locked =>
        if remaining.contains row then
          (s.auths.hold? id (fun r => decide (r.id = row)) false).map fun auths =>
            -- a row that is deleted meanwhile is not returned
            let found := s.auths.rows.any fun r => decide (r.id = row) && r.found id
            { s.advance x (.locking kind (remaining.erase row)
                (if found then locked.insert row else locked)) with auths }
        else none
      | .cascading remaining =>
        if remaining.contains row then
          (s.auths.hold? id (fun r => decide (r.id = row)) true).map fun auths =>
            { s.advance x (.cascading (remaining.erase row)) with auths }
        else none
      | _ => none
  | .count id =>
    (s.requests.find? id).bind fun x =>
      match x.phase with
      | .locking kind [] locked => some (removeAuthMethod userId s x kind locked)
      | _ => none
  | .delete id =>
    (s.requests.find? id).bind fun x =>
      match x.phase with
      | .deleting kind =>
        (s.auths.hold? id (fun r => decide (r.value = kind)) true).map fun auths =>
          { s.advance x .removed with auths }
      | .deletingUser =>
        if s.user.committed then
          if s.keyShared id then none
          else
            (s.user.write? id fun _ => false).map fun user =>
              { s.advance x (.cascading (s.snapshot.map HeldRow.id)) with user }
        else some (s.drop id)
      | _ => none
  | .commit id =>
    (s.requests.find? id).bind fun x =>
      match x.phase with
      | .created | .added | .removed | .cascading [] => some (s.commit id)
      | _ => none
  | .abort id => (s.requests.find? id).map fun _ => s.drop id

def initial : State := ⟨⟨false, none⟩, Table.empty, Table.empty, 0, []⟩

/-- A registered user has an authentication method, and no two of one kind. -/
structure CanLogIn (s : State) : Prop where
  some : s.user.committed = true → s.methods ≠ []
  distinct : s.methods.Nodup

/-- What a transaction that has written the row of the user has made of it. -/
def userRules : LockedRow.Rules Bool Request where
  version _ := True
  committed _ := True
  written x _ user :=
    match x.phase with
    | .creatingUserAuth _ | .created => user = true
    | .cascading _ => user = false
    | _ => False
  session _ := True
  writes x :=
    match x.phase with
    | .creatingUserAuth _ | .created | .cascading _ => True
    | _ => False

/-- What a request has done to the methods: `removed` has left a row that it has locked. -/
def RequestInv (auths : HeldRows Nat UserAuthKind) (id : Nat) : Phase → Prop
  | .locking _ _ locked => locked.Nodup ∧ ∀ row ∈ locked, ∃ r ∈ auths.rows,
      r.id = row ∧ r.status = .locked id
  | .deleting kind => ∃ r ∈ auths.rows, r.value ≠ kind ∧ r.status = .locked id
  | .removed => ∃ r ∈ auths.rows, r.status = .locked id
  | .created => ∃ r ∈ auths.rows, r.status = .inserted id
  | _ => True

def Phase.deletes : Phase → Prop
  | .removed | .cascading _ => True
  | _ => False

structure Inv (s : State) : Prop where
  user : LockedRow.Obeys userRules s.user s.requests
  unique : s.auths.Unique id
  deleters : ∀ r ∈ s.auths.rows, ∀ t, r.status = .deleted t →
    ∃ x ∈ s.requests.rows, x.id = t ∧ x.phase.deletes
  requests : ∀ x ∈ s.requests.rows, RequestInv s.auths x.id x.phase
  registered : s.user.committed = true → ∃ r ∈ s.auths.rows, r.isCommitted = true

section Run
variable {userId : UserId} {s t : State} {x : Request} {phase old : Phase}
  {user : LockedRow Nat Bool} {auths auths' : HeldRows Nat UserAuthKind} {kind : UserAuthKind}

theorem RequestInv.frame {id t : Nat} (h : RequestInv auths id phase)
    (hframe : HeldRows.Frame t auths auths') (hother : id ≠ t) : RequestInv auths' id phase := by
  have hheld : ∀ r ∈ auths.rows, r.status.holder? = some id → r ∈ auths'.rows :=
    fun r hr hholder => hframe r hr id hholder hother
  cases phase with
  | locking kind remaining locked =>
    refine ⟨h.1, fun row hrow => ?_⟩
    obtain ⟨r, hr, hid, hstatus⟩ := h.2 row hrow
    exact ⟨r, hheld r hr (by rw [hstatus]; rfl), hid, hstatus⟩
  | deleting kind =>
    obtain ⟨r, hr, hvalue, hstatus⟩ := h
    exact ⟨r, hheld r hr (by rw [hstatus]; rfl), hvalue, hstatus⟩
  | removed | created =>
    obtain ⟨r, hr, hstatus⟩ := h
    exact ⟨r, hheld r hr (by rw [hstatus]; rfl), hstatus⟩
  | _ => trivial

/-- What a step of one request has to keep. -/
theorem Inv.put (h : Inv s) (hx : x ∈ s.requests.rows)
    (huser : LockedRow.Obeys userRules user (s.requests.put ⟨x.id, phase⟩))
    (hsame : user.committed = s.user.committed) (hunique : auths.Unique id)
    (hframe : HeldRows.Frame x.id s.auths auths) (hdeletes : x.phase.deletes → phase.deletes)
    (hdeleted : ∀ r ∈ auths.rows, ∀ t, r.status = .deleted t →
      r ∈ s.auths.rows ∨ t = x.id ∧ phase.deletes)
    (hself : RequestInv auths x.id phase)
    (hcommitted : (∃ r ∈ s.auths.rows, r.isCommitted = true) →
      ∃ r ∈ auths.rows, r.isCommitted = true) :
    Inv { s.advance x phase with user, auths } where
  user := huser
  unique := hunique
  deleters r hr t hstatus := by
    have hnew : (⟨x.id, phase⟩ : Request) ∈ (s.requests.put ⟨x.id, phase⟩).rows :=
      Table.mem_put.mpr (.inl rfl)
    rcases hdeleted r hr t hstatus with hr | ⟨rfl, hphase⟩
    · obtain ⟨y, hy, rfl, hphase⟩ := h.deleters r hr t hstatus
      by_cases hid : y.id = x.id
      · rw [Table.eq_of_key hy hx hid] at hphase ⊢
        exact ⟨_, hnew, rfl, hdeletes hphase⟩
      · exact ⟨y, Table.mem_put.mpr (.inr ⟨hy, hid⟩), rfl, hphase⟩
    · exact ⟨_, hnew, rfl, hphase⟩
  requests y hy := by
    rcases Table.mem_put.mp hy with rfl | ⟨hy, hother⟩
    · exact hself
    · exact (h.requests y hy).frame hframe hother
  registered hregistered := hcommitted (h.registered (hsame ▸ hregistered))

theorem Inv.requestInv (h : Inv s) (hx : x ∈ s.requests.rows) (hphase : x.phase = phase) :
    RequestInv s.auths x.id phase := by
  rw [← hphase]
  exact h.requests x hx

theorem frame_refl (t : Nat) : HeldRows.Frame t auths auths := fun _ hr _ _ _ => hr

/-- A request that has not written the row of the user goes on, without a write. -/
theorem Inv.putUser (h : Inv s) (hx : x ∈ s.requests.rows) (hold : x.phase = old)
    (hwritten : ∀ base user, userRules.written ⟨x.id, old⟩ base user →
      userRules.written ⟨x.id, phase⟩ base user)
    (hwrites : userRules.writes ⟨x.id, phase⟩ → userRules.writes ⟨x.id, old⟩) :
    LockedRow.Obeys userRules s.user (s.requests.put ⟨x.id, phase⟩) := by
  subst hold
  exact h.user.put hx rfl trivial (fun user _ hinv => hwritten _ user hinv) hwrites

theorem Inv.advance (h : Inv s) (hx : x ∈ s.requests.rows) (hold : x.phase = old)
    (hwritten : ∀ base user, userRules.written ⟨x.id, old⟩ base user →
      userRules.written ⟨x.id, phase⟩ base user)
    (hwrites : userRules.writes ⟨x.id, phase⟩ → userRules.writes ⟨x.id, old⟩)
    (hdeletes : old.deletes → phase.deletes) (hself : RequestInv s.auths x.id phase) :
    Inv (s.advance x phase) := by
  have huser := h.putUser hx hold hwritten hwrites
  subst hold
  exact h.put hx huser rfl h.unique (frame_refl x.id) hdeletes (fun r hr _ _ => .inl hr) hself id

theorem Inv.drop (h : Inv s) (id : Nat) : Inv (s.drop id) where
  user := h.user.rollback id
  unique := h.unique.rollback id
  deleters r' hr' t hstatus := by
    obtain ⟨r, hr, -, rfl⟩ := HeldRows.mem_rollback.mp hr'
    obtain ⟨hstatus, hother⟩ := HeldRows.deleted_of_settle hstatus
    obtain ⟨y, hy, rfl, hphase⟩ := h.deleters r hr t hstatus
    exact ⟨y, Table.mem_erase.mpr ⟨hy, hother⟩, rfl, hphase⟩
  requests y hy :=
    have ⟨hy, hother⟩ := Table.mem_erase.mp hy
    (h.requests y hy).frame HeldRows.frame_rollback hother
  registered hregistered := by
    obtain ⟨r, hr, hcommitted⟩ := h.registered hregistered
    refine ⟨_, HeldRows.mem_rollback.mpr ⟨r, hr, fun hinserted => ?_, rfl⟩,
      HeldRows.isCommitted_settle hcommitted⟩
    rw [HeldRow.isCommitted, hinserted] at hcommitted
    cases hcommitted

theorem Inv.refuse (h : Inv s) (id : Nat) (error : UniversalInboxError) : Inv (s.refuse id error) :=
  have hdrop := h.drop id
  ⟨hdrop.user, hdrop.unique, hdrop.deleters, hdrop.requests, hdrop.registered⟩

/-- A commit that leaves a registered user has to leave a method. -/
theorem Inv.commit (h : Inv s)
    (hleft : s.user.view x.id = true →
      ∃ r ∈ s.auths.rows, r.status ≠ .deleted x.id ∧ (r.settle x.id).isCommitted = true) :
    Inv (s.commit x.id) where
  user := h.user.commit_of_le (fun _ h => h) trivial fun y _ _ => .refl userRules y
  unique := h.unique.commit x.id
  deleters r' hr' t hstatus := by
    obtain ⟨r, hr, -, rfl⟩ := HeldRows.mem_commit.mp hr'
    obtain ⟨hstatus, hother⟩ := HeldRows.deleted_of_settle hstatus
    obtain ⟨y, hy, rfl, hphase⟩ := h.deleters r hr t hstatus
    exact ⟨y, Table.mem_erase.mpr ⟨hy, hother⟩, rfl, hphase⟩
  requests y hy :=
    have ⟨hy, hother⟩ := Table.mem_erase.mp hy
    (h.requests y hy).frame HeldRows.frame_commit hother
  registered hregistered :=
    have ⟨r, hr, hlive, hcommitted⟩ := hleft hregistered
    ⟨_, HeldRows.mem_commit.mpr ⟨r, hr, hlive, rfl⟩, hcommitted⟩

theorem inv_check (h : Inv s) (hx : x ∈ s.requests.rows)
    (hphase : x.phase = .checking kind ∨ x.phase = .linking kind) : Inv (check userId s x kind) := by
  unfold check
  split
  · exact h.refuse _ _
  · rcases hphase with hphase | hphase <;>
      exact h.advance hx hphase (fun _ _ h => h) (fun h => h) (fun h => h) trivial

theorem inv_createUserAuth (h : Inv s) (hx : x ∈ s.requests.rows) (hold : x.phase = old)
    (hcreate : old = .creatingUserAuth kind ∧ phase = .created ∨ old = .adding kind ∧ phase = .added)
    (hstep : createUserAuth userId s x kind phase = some t) : Inv t := by
  unfold createUserAuth at hstep
  split at hstep
  · cases hstep
  · split at hstep
    · cases hstep
      exact h.refuse _ _
    · rename_i hallowed
      obtain ⟨auths, hinsert, rfl⟩ := Option.map_eq_some_iff.mp hstep
      have hviolates : s.auths.violates id x.id kind = false := by
        cases hviolates : s.auths.violates id x.id kind
        · rfl
        · rw [hviolates, Bool.or_true] at hallowed
          exact absurd rfl hallowed
      have hrows := (Table.insert?_eq_some.mp hinsert).2
      have hnew : (⟨x.id, kind, .inserted x.id⟩ : HeldRow Nat UserAuthKind) ∈ auths.rows := by
        rw [hrows]
        exact List.mem_append_right _ (List.mem_singleton.mpr rfl)
      have hdeleted : ∀ r ∈ auths.rows, ∀ t, r.status = .deleted t → r ∈ s.auths.rows := by
        intro r hr t hstatus
        rw [hrows, List.mem_append, List.mem_singleton] at hr
        rcases hr with hr | rfl
        · exact hr
        · cases hstatus
      have hcommitted : (∃ r ∈ s.auths.rows, r.isCommitted = true) →
          ∃ r ∈ auths.rows, r.isCommitted = true := by
        rintro ⟨r, hr, hcommitted⟩
        exact ⟨r, hrows ▸ List.mem_append_left _ hr, hcommitted⟩
      rcases hcreate with ⟨rfl, rfl⟩ | ⟨rfl, rfl⟩
      · refine h.put hx (h.putUser hx hold (fun _ _ h => h) fun h => h) rfl
          (h.unique.insert hviolates hinsert) (HeldRows.frame_insert hinsert) (fun h => ?_)
          (fun r hr t hstatus => .inl (hdeleted r hr t hstatus)) ⟨_, hnew, rfl⟩ hcommitted
        rw [hold] at h
        exact h
      · refine h.put hx (h.putUser hx hold (fun _ _ h => h) fun h => h) rfl
          (h.unique.insert hviolates hinsert) (HeldRows.frame_insert hinsert) (fun h => ?_)
          (fun r hr t hstatus => .inl (hdeleted r hr t hstatus)) trivial hcommitted
        rw [hold] at h
        exact h

/-- Of two rows that a request has locked, one is of another kind. -/
theorem survivor_of_locked (h : Inv s) {locked : List Nat} (hnodup : locked.Nodup)
    (hlocked : ∀ row ∈ locked, ∃ r ∈ s.auths.rows, r.id = row ∧ r.status = .locked x.id)
    (hcount : ¬locked.length ≤ 1) :
    ∃ r ∈ s.auths.rows, r.value ≠ kind ∧ r.status = .locked x.id := by
  obtain _ | ⟨i, _ | ⟨j, rest⟩⟩ := locked
  · exact absurd (Nat.zero_le 1) hcount
  · exact absurd (le_refl 1) hcount
  · obtain ⟨r, hr, rfl, hstatus⟩ := hlocked i List.mem_cons_self
    obtain ⟨r', hr', rfl, hstatus'⟩ := hlocked j (List.mem_cons_of_mem _ List.mem_cons_self)
    have hids : r.id ≠ r'.id := (List.pairwise_cons.mp hnodup).1 _ List.mem_cons_self
    by_cases hkind : r.value = kind
    · refine ⟨r', hr', fun hkind' => hids ?_, hstatus'⟩
      have hcommitted : r.isCommitted = true := by rw [HeldRow.isCommitted, hstatus]
      have hcommitted' : r'.isCommitted = true := by rw [HeldRow.isCommitted, hstatus']
      rw [h.unique.of_committed hr hr' hcommitted hcommitted' (hkind.trans hkind'.symm)]
    · exact ⟨r, hr, hkind, hstatus⟩

theorem inv_removeAuthMethod (h : Inv s) (hx : x ∈ s.requests.rows) {locked : List Nat}
    (hphase : x.phase = .locking kind [] locked) : Inv (removeAuthMethod userId s x kind locked) := by
  unfold removeAuthMethod
  split
  · exact h.refuse _ _
  · rename_i hcount
    split
    · obtain ⟨hnodup, hlocked⟩ := h.requestInv hx hphase
      exact h.advance hx hphase (fun _ _ h => h) (fun h => h) (fun h => h)
        (survivor_of_locked h hnodup hlocked hcount)
    · exact h.refuse _ _

theorem inv_lockRow {id row : Nat} (h : Inv s) (hstep : step userId s (.lockRow id row) = some t) :
    Inv t := by
  obtain ⟨x, hmem, rfl, hx⟩ := Table.find?_bind_eq_some.mp hstep
  split at hx <;> rename_i hphase
  · rename_i kind remaining locked
    split at hx
    · obtain ⟨auths, hhold, rfl⟩ := Option.map_eq_some_iff.mp hx
      obtain ⟨hnodup, hlocked⟩ := h.requestInv hmem hphase
      have hstill : ∀ r ∈ s.auths.rows, r.status = .locked x.id →
          ∃ r' ∈ auths.rows, r'.id = r.id ∧ r'.status = .locked x.id :=
        fun r hr hstatus => HeldRows.locked_of_hold hhold hr (.inl hstatus)
      refine h.put hmem (h.putUser hmem hphase (fun _ _ h => h) fun h => h) rfl
        (h.unique.hold hhold) (HeldRows.frame_hold hhold) (fun h => ?_) (fun r hr t hstatus => ?_)
        ⟨?_, fun row' hrow' => ?_⟩ (HeldRows.committed_of_hold hhold)
      · rw [hphase] at h
        exact h
      · rcases HeldRows.deleted_of_hold hhold hr hstatus with hr | ⟨-, hdelete⟩
        · exact .inl hr
        · cases hdelete
      · split
        · exact hnodup.insert
        · exact hnodup
      · have hold : ∀ row' ∈ locked, ∃ r ∈ auths.rows, r.id = row' ∧ r.status = .locked x.id := by
          intro row' hrow'
          obtain ⟨r, hr, rfl, hstatus⟩ := hlocked row' hrow'
          exact hstill r hr hstatus
        split at hrow'
        · rename_i hfound
          rcases List.mem_insert_iff.mp hrow' with rfl | hrow'
          · obtain ⟨r, hr, hfound⟩ := List.any_eq_true.mp hfound
            obtain ⟨hid, hfound⟩ := Bool.and_eq_true_iff.mp hfound
            obtain ⟨r', hr', hid', hstatus⟩ := HeldRows.locked_of_hold hhold hr (.inr ⟨hid, hfound⟩)
            exact ⟨r', hr', hid'.trans (of_decide_eq_true hid), hstatus⟩
          · exact hold row' hrow'
        · exact hold row' hrow'
    · cases hx
  · rename_i remaining
    split at hx
    · obtain ⟨auths, hhold, rfl⟩ := Option.map_eq_some_iff.mp hx
      refine h.put hmem (h.putUser hmem hphase (fun _ _ h => h) fun h => h) rfl
        (h.unique.hold hhold) (HeldRows.frame_hold hhold) (fun _ => trivial)
        (fun r hr t hstatus => ?_) trivial (HeldRows.committed_of_hold hhold)
      rcases HeldRows.deleted_of_hold hhold hr hstatus with hr | ⟨ht, -⟩
      · exact .inl hr
      · exact .inr ⟨ht, trivial⟩
    · cases hx
  · cases hx

/-- Writes the row of the user. -/
theorem Inv.putWritten (h : Inv s) (hx : x ∈ s.requests.rows) {f : Bool → Bool}
    (hwrite : s.user.write? x.id f = some user) (hdeletes : x.phase.deletes → phase.deletes)
    (hwritten : userRules.written ⟨x.id, phase⟩ s.user.committed (f (s.user.view x.id)))
    (hself : RequestInv s.auths x.id phase) : Inv { s.advance x phase with user } := by
  have huser := h.user.write (y := (⟨x.id, phase⟩ : Request)) hwrite rfl trivial hwritten trivial
  obtain ⟨-, rfl⟩ := LockedRow.write?_eq_some.mp hwrite
  exact h.put hx huser rfl h.unique (frame_refl x.id) hdeletes (fun r hr _ _ => .inl hr) hself id

theorem inv_delete {id : Nat} (h : Inv s) (hstep : step userId s (.delete id) = some t) : Inv t := by
  obtain ⟨x, hmem, rfl, hx⟩ := Table.find?_bind_eq_some.mp hstep
  split at hx <;> rename_i hphase
  · rename_i kind
    obtain ⟨auths, hhold, rfl⟩ := Option.map_eq_some_iff.mp hx
    obtain ⟨r, hr, hkind, hstatus⟩ := h.requestInv hmem hphase
    have hsurvives : r ∈ auths.rows :=
      (HeldRows.hold?_eq_some hhold r).mpr ⟨r, hr, by rw [decide_eq_false hkind]; rfl⟩
    refine h.put hmem (h.putUser hmem hphase (fun _ _ h => h) fun h => h) rfl
      (h.unique.hold hhold) (HeldRows.frame_hold hhold) (fun _ => trivial)
      (fun r hr t hstatus => ?_) ⟨r, hsurvives, hstatus⟩ (HeldRows.committed_of_hold hhold)
    rcases HeldRows.deleted_of_hold hhold hr hstatus with hr | ⟨ht, -⟩
    · exact .inl hr
    · exact .inr ⟨ht, trivial⟩
  · split at hx
    · split at hx
      · cases hx
      · obtain ⟨user, hwrite, rfl⟩ := Option.map_eq_some_iff.mp hx
        exact h.putWritten hmem hwrite (fun _ => trivial) rfl trivial
    · cases hx
      exact h.drop _
  · cases hx

theorem Inv.userWritten (h : Inv s) (hx : x ∈ s.requests.rows) (hphase : x.phase = phase)
    (hwrites : userRules.writes ⟨x.id, phase⟩) :
    userRules.written ⟨x.id, phase⟩ s.user.committed (s.user.view x.id) := by
  subst hphase
  exact h.user.written_of_writes hx hwrites

theorem Inv.user_view_eq (h : Inv s) (hx : x ∈ s.requests.rows) (hphase : x.phase = phase)
    (hunwritten : ∀ base user, ¬userRules.written ⟨x.id, phase⟩ base user) :
    s.user.view x.id = s.user.committed := by
  subst hphase
  exact h.user.view_of_unwritten hx hunwritten

theorem inv_commit {id : Nat} (h : Inv s) (hstep : step userId s (.commit id) = some t) : Inv t := by
  obtain ⟨x, hmem, rfl, hx⟩ := Table.find?_bind_eq_some.mp hstep
  split at hx <;> rename_i hphase <;> cases hx
  · refine h.commit fun _ => ?_
    obtain ⟨r, hr, hstatus⟩ := h.requestInv hmem hphase
    refine ⟨r, hr, ?_, HeldRows.isCommitted_settle_of_holder ?_⟩ <;> rw [hstatus]
    · exact fun h => nomatch h
    · rfl
  · refine h.commit fun hview => ?_
    have hsame := h.user_view_eq hmem hphase fun _ _ hinv => hinv
    obtain ⟨r, hr, hcommitted⟩ := h.registered (hsame ▸ hview)
    refine ⟨r, hr, fun hdeleted => ?_, HeldRows.isCommitted_settle hcommitted⟩
    obtain ⟨y, hy, hid, hdeletes⟩ := h.deleters r hr x.id hdeleted
    rw [Table.eq_of_key hy hmem hid, hphase] at hdeletes
    exact hdeletes
  · refine h.commit fun _ => ?_
    obtain ⟨r, hr, hstatus⟩ := h.requestInv hmem hphase
    refine ⟨r, hr, ?_, HeldRows.isCommitted_settle_of_holder ?_⟩ <;> rw [hstatus]
    · exact fun h => nomatch h
    · rfl
  · refine h.commit fun hview => ?_
    have hdeleted : s.user.view x.id = false := h.userWritten hmem hphase trivial
    cases hdeleted.symm.trans hview

theorem inv_step {i : Input} (h : Inv s) (hstep : step userId s i = some t) : Inv t := by
  cases i with
  | begin operation =>
    obtain ⟨requests, hinsert, rfl⟩ := Option.map_eq_some_iff.mp hstep
    have hrows := (Table.insert?_eq_some.mp hinsert).2
    refine ⟨h.user.insert hinsert trivial ?_, h.unique, fun r hr t hstatus => ?_, fun y hy => ?_,
      h.registered⟩
    · cases operation <;> exact id
    · obtain ⟨y, hy, hid, hdeletes⟩ := h.deleters r hr t hstatus
      exact ⟨y, hrows ▸ List.mem_append_left _ hy, hid, hdeletes⟩
    · rw [hrows, List.mem_append, List.mem_singleton] at hy
      rcases hy with hy | rfl
      · exact h.requests y hy
      · cases operation <;> trivial
  | readAuth id =>
    obtain ⟨x, hmem, rfl, hx⟩ := Table.find?_bind_eq_some.mp hstep
    split at hx <;> rename_i hphase <;> cases hx
    · exact inv_check h hmem (.inl hphase)
    · split
      · exact inv_check h hmem (.inr hphase)
      · exact h.refuse _ _
  | insertUser id =>
    obtain ⟨x, hmem, rfl, hx⟩ := Table.find?_bind_eq_some.mp hstep
    split at hx <;> rename_i hphase
    · split at hx
      · cases hx
        exact h.refuse _ _
      · obtain ⟨user, hwrite, rfl⟩ := Option.map_eq_some_iff.mp hx
        refine h.putWritten hmem hwrite (fun hdeletes => ?_) rfl trivial
        rw [hphase] at hdeletes
        exact hdeletes
    · cases hx
  | insertAuth id =>
    obtain ⟨x, hmem, rfl, hx⟩ := Table.find?_bind_eq_some.mp hstep
    split at hx <;> rename_i hphase
    · exact inv_createUserAuth h hmem hphase (.inl ⟨rfl, rfl⟩) hx
    · exact inv_createUserAuth h hmem hphase (.inr ⟨rfl, rfl⟩) hx
    · cases hx
  | beginLock id =>
    obtain ⟨x, hmem, rfl, hx⟩ := Table.find?_bind_eq_some.mp hstep
    split at hx <;> rename_i hphase <;> cases hx
    exact h.advance hmem hphase (fun _ _ h => h) (fun h => h) (fun h => h)
      ⟨List.nodup_nil, fun _ hrow => absurd hrow List.not_mem_nil⟩
  | lockRow id row => exact inv_lockRow h hstep
  | count id =>
    obtain ⟨x, hmem, rfl, hx⟩ := Table.find?_bind_eq_some.mp hstep
    split at hx <;> rename_i hphase <;> cases hx
    exact inv_removeAuthMethod h hmem hphase
  | delete id => exact inv_delete h hstep
  | commit id => exact inv_commit h hstep
  | abort id =>
    obtain ⟨x, -, rfl⟩ := Option.map_eq_some_iff.mp hstep
    exact h.drop id

theorem inv_initial : Inv initial where
  user := LockedRow.obeys_initial trivial trivial
  unique _ hr := absurd hr Table.not_mem_empty
  deleters _ hr := absurd hr Table.not_mem_empty
  requests _ hx := absurd hx Table.not_mem_empty
  registered h := (nomatch h)

theorem Inv.canLogIn (h : Inv s) : CanLogIn s where
  some hregistered hnone := by
    obtain ⟨r, hr, hcommitted⟩ := h.registered hregistered
    have hmethod : r.value ∈ s.methods :=
      List.mem_map_of_mem (List.mem_filter.mpr ⟨hr, hcommitted⟩)
    rw [hnone] at hmethod
    cases hmethod
  distinct := h.unique.nodup

/-- In every order of the statements of any requests, a registered user keeps an authentication
method and has no two of one kind. -/
theorem canLogIn_of_exec (userId : UserId) (inputs : List Input) {s : State}
    (hrun : exec (step userId) initial inputs = some s) : CanLogIn s := by
  have hinv : ∀ s i t, Inv s → step userId s i = some t → Inv t := fun _ _ _ => inv_step
  exact (invariant_of_exec hinv inv_initial hrun).canLogIn

end Run

/-- The requests 2 and 3 remove the two methods of a user at the same time. -/
def concurrentRemovals : List Input :=
  [.begin (.createUser .localAuth), .insertUser 0, .insertAuth 0, .commit 0,
    .begin .finishAddPasskeyAuthMethod, .insertAuth 1, .commit 1,
    .begin (.removeAuthMethod .localAuth), .begin (.removeAuthMethod .passkey), .beginLock 2,
    .beginLock 3, .lockRow 2 0, .lockRow 2 1, .count 2, .delete 2, .commit 2, .lockRow 3 0,
    .lockRow 3 1, .count 3]

theorem concurrentRemovals_canLogIn :
    ∃ s, exec (step ⟨1⟩) initial concurrentRemovals = some s ∧ s.methods = [.passkey] ∧
      s.refusals = [(3, lastMethod)] ∧ CanLogIn s :=
  ⟨_, rfl, by decide +kernel, by decide +kernel, canLogIn_of_exec ⟨1⟩ concurrentRemovals rfl⟩

end UniversalInbox.User.AuthMethods
