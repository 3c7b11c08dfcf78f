import Mathlib.Data.List.Nodup
import UniversalInbox.PeerService

/-! Batches of Todoist commands. A response maps the identifiers of commands to their statuses, in
an order that nobody chooses, and the client looks at the first of them. -/
namespace UniversalInbox.TodoistCommands
open PeerService (TodoistCommandStatus TodoistSyncCommand TaskPatch TodoistAnswer TaskFields
  commandResult)

abbrev Uuid := Nat

/-- A command as it is sent, with an identifier of its own. -/
structure SentCommand where
  uuid : Uuid
  command : TodoistSyncCommand

/-- `sync_status`, in the order in which the map is iterated. -/
structure SyncStatus where
  entries : List (Uuid × TodoistCommandStatus)
  nodup : (entries.map Prod.fst).Nodup

namespace SyncStatus

def get (status : SyncStatus) (uuid : Uuid) : Option TodoistCommandStatus :=
  status.entries.lookup uuid

def values (status : SyncStatus) : List TodoistCommandStatus := status.entries.map Prod.snd

end SyncStatus

/-- What posting the commands comes to. -/
abbrev Post := List SentCommand → Except UniversalInboxError SyncStatus

def sendSyncCommands (post : Post) (commands : List SentCommand) :
    Except UniversalInboxError SyncStatus := do
  let syncResponse ← post commands
  match syncResponse.values.head? with
  | some status => (commandResult status).map fun _ => syncResponse
  | none =>
    .error (.unexpected "Failed to parse response from Todoist API while sending commands")

/-- What `update_task` finds: an access token or none, how the project of the patch is found or
created, and the identifiers it draws. -/
structure UpdateCall where
  accessToken : Bool
  project : Except UniversalInboxError Unit
  moveUuid : Uuid
  updateUuid : Uuid

def updateCommands (call : UpdateCall) (patch : TaskPatch) : List SentCommand :=
  (match patch.projectName with
    | some project => [⟨call.moveUuid, .itemMove project⟩]
    | none => []) ++
  (if patch.priority.isSome || patch.dueAt.isSome || patch.body.isSome || patch.title.isSome then
      [⟨call.updateUuid, .itemUpdate patch.dueAt patch.priority patch.body patch.title⟩]
    else [])

def getOrCreateProject (call : UpdateCall) (patch : TaskPatch) : Except UniversalInboxError Unit :=
  if patch.projectName.isSome then call.project else .ok ()

def updateTask (post : Post) (call : UpdateCall) (patch : TaskPatch) :
    Except UniversalInboxError Unit :=
  if !call.accessToken then
    .error (.unexpected "Cannot update a Todoist task without an access token")
  else do
    getOrCreateProject call patch
    if (updateCommands call patch).isEmpty then .ok ()
    else (sendSyncCommands post (updateCommands call patch)).map fun _ => ()

/-- Every command sent is listed as done. -/
def AllOk (commands : List SentCommand) (status : SyncStatus) : Prop :=
  ∀ command ∈ commands, status.get command.uuid = some .ok

/-- The batch as the inbox takes it: it went well just in case every command of it did, and an
update that goes well has had all of its commands done. -/
structure AllOrError (post : Post) (commands : List SentCommand) (status : SyncStatus) : Prop where
  batch : (∃ response, sendSyncCommands post commands = .ok response) ↔ AllOk commands status
  update : ∀ call patch, updateCommands call patch = commands → commands ≠ [] →
    updateTask post call patch = .ok () → AllOk commands status

/-- The first status speaks for the batch: no command that was not done comes after a first one
that was, nor is a failure listed first when every command was done. -/
def Representative (commands : List SentCommand) (status : SyncStatus) : Prop :=
  match status.values.head? with
  | some .ok => AllOk commands status
  | _ => ∃ command ∈ commands, status.get command.uuid ≠ some .ok

section Batch
variable {post : Post} {commands : List SentCommand} {status : SyncStatus}

theorem commandResult_eq_ok {result : TodoistCommandStatus} :
    commandResult result = .ok () ↔ result = .ok := by
  cases result with
  | ok => exact ⟨fun _ => rfl, fun _ => rfl⟩
  | error errorCode =>
    dsimp only [commandResult]
    split
    · exact ⟨nofun, nofun⟩
    · exact ⟨nofun, nofun⟩

/-- Only the first status of a response decides. -/
theorem sendSyncCommands_ok_iff (hpost : post commands = .ok status) :
    (∃ response, sendSyncCommands post commands = .ok response) ↔
      status.values.head? = some .ok := by
  have hsend : sendSyncCommands post commands = (match status.values.head? with
      | some result => (commandResult result).map fun _ => status
      | none => .error (.unexpected
          "Failed to parse response from Todoist API while sending commands")) := by
    unfold sendSyncCommands
    rw [hpost]
    rfl
  rw [hsend]
  cases status.values.head? with
  | none => exact ⟨nofun, nofun⟩
  | some result =>
    rw [Option.some.injEq, ← commandResult_eq_ok]
    dsimp only
    cases commandResult result with
    | ok value => exact ⟨fun _ => rfl, fun _ => ⟨status, rfl⟩⟩
    | error error => exact ⟨nofun, nofun⟩

/-- An update that has commands to send goes well only if its batch does. -/
theorem send_of_updateTask {call : UpdateCall} {patch : TaskPatch}
    (hcommands : updateCommands call patch ≠ [])
    (hok : updateTask post call patch = .ok ()) :
    ∃ response, sendSyncCommands post (updateCommands call patch) = .ok response := by
  unfold updateTask at hok
  split at hok
  · cases hok
  · cases hproject : getOrCreateProject call patch with
    | error error =>
      rw [hproject] at hok
      cases hok
    | ok _ =>
      rw [hproject] at hok
      replace hok : (if (updateCommands call patch).isEmpty then .ok ()
        else (sendSyncCommands post (updateCommands call patch)).map fun _ => ()) =
          Except.ok () := hok
      rw [List.isEmpty_eq_false_iff.mpr hcommands, if_neg Bool.false_ne_true] at hok
      cases hsend : sendSyncCommands post (updateCommands call patch) with
      | ok response => exact ⟨response, rfl⟩
      | error error =>
        rw [hsend] at hok
        cases hok

theorem representative_of_ok (hfirst : status.values.head? = some .ok) :
    Representative commands status ↔ AllOk commands status := by
  unfold Representative
  rw [hfirst]

theorem representative_of_not_ok (hfirst : status.values.head? ≠ some .ok) :
    Representative commands status ↔ ¬ AllOk commands status := by
  have hexists : (∃ command ∈ commands, status.get command.uuid ≠ some .ok) ↔
      ¬ AllOk commands status := by
    unfold AllOk
    push Not
    rfl
  unfold Representative
  split
  · next h => exact absurd h hfirst
  · exact hexists

theorem get_of_mem {uuid : Uuid} {result : TodoistCommandStatus}
    (hentry : (uuid, result) ∈ status.entries) : status.get uuid = some result := by
  have hnodup := status.nodup
  obtain ⟨before, after, hentries⟩ := List.append_of_mem hentry
  rw [hentries, List.map_append, List.map_cons] at hnodup
  refine List.lookup_eq_some_iff.mpr ⟨before, after, hentries, ?_⟩
  intro entry hbefore
  have hne : uuid ∉ before.map Prod.fst := fun hmem =>
    (List.nodup_append.mp hnodup).2.2 uuid hmem uuid List.mem_cons_self rfl
  refine bne_iff_ne.mpr ?_
  rintro rfl
  exact hne (List.mem_map_of_mem hbefore)

/-- Whatever the commands and the response to them. -/
theorem allOrError_iff (post : Post) (commands : List SentCommand) (status : SyncStatus)
    (hpost : post commands = .ok status) :
    AllOrError post commands status ↔ Representative commands status := by
  have hsend := sendSyncCommands_ok_iff hpost
  by_cases hfirst : status.values.head? = some .ok
  · rw [representative_of_ok hfirst]
    constructor
    · intro h
      exact h.batch.mp (hsend.mpr hfirst)
    · intro hall
      exact ⟨⟨fun _ => hall, fun _ => hsend.mpr hfirst⟩, fun _ _ _ _ _ => hall⟩
  · rw [representative_of_not_ok hfirst]
    constructor
    · intro h hall
      exact hfirst (hsend.mp (h.batch.mpr hall))
    · intro hnot
      refine ⟨⟨fun hok => absurd (hsend.mp hok) hfirst, fun hall => absurd hall hnot⟩, ?_⟩
      rintro call patch rfl hcommands hok
      exact absurd (hsend.mp (send_of_updateTask hcommands hok)) hfirst

/-- A response to the commands sent, and to no others, misleads only if its first status is ok and
another one is not. -/
theorem representative_iff_of_answered (hcommands : commands ≠ [])
    (hanswered : (commands.map (·.uuid)).Perm (status.entries.map Prod.fst)) :
    Representative commands status ↔
      (status.values.head? = some .ok → ∀ result ∈ status.values, result = .ok) := by
  have hall : AllOk commands status ↔ ∀ result ∈ status.values, result = .ok := by
    constructor
    · intro h result hresult
      obtain ⟨⟨uuid, _⟩, hentry, rfl⟩ := List.mem_map.mp hresult
      have huuid : uuid ∈ commands.map (·.uuid) :=
        hanswered.mem_iff.mpr (List.mem_map_of_mem hentry)
      obtain ⟨command, hcommand, rfl⟩ := List.mem_map.mp huuid
      have hget := h command hcommand
      rw [get_of_mem hentry] at hget
      exact Option.some.inj hget
    · intro h command hcommand
      have huuid : command.uuid ∈ status.entries.map Prod.fst :=
        hanswered.mem_iff.mp (List.mem_map_of_mem hcommand)
      obtain ⟨⟨uuid, result⟩, hentry, rfl⟩ := List.mem_map.mp huuid
      rw [get_of_mem hentry]
      exact congrArg some (h result (List.mem_map_of_mem hentry))
  by_cases hfirst : status.values.head? = some .ok
  · rw [representative_of_ok hfirst, hall]
    exact ⟨fun h _ => h, fun h => h hfirst⟩
  · rw [representative_of_not_ok hfirst, hall]
    refine ⟨fun _ h => absurd h hfirst, fun _ h => hfirst ?_⟩
    cases hvalues : status.values with
    | nil =>
      have hkeys : status.entries = [] := List.map_eq_nil_iff.mp hvalues
      rw [hkeys] at hanswered
      exact absurd (List.map_eq_nil_iff.mp hanswered.eq_nil) hcommands
    | cons result rest => exact congrArg some (h result (hvalues ▸ List.mem_cons_self))

/-- A move that Todoist has done and an edit that it has refused. -/
def movedOnly : SyncStatus := ⟨[(1, .ok), (2, .error 42)], by decide⟩

def moveAndEdit : TaskPatch :=
  { status := none, projectName := some "Work", dueAt := none, priority := none, body := none,
    title := some "Review", sinkItemId := none }

def updateCall : UpdateCall := ⟨true, .ok (), 1, 2⟩

/-- The update goes well with its edit refused. -/
theorem movedOnly_not_allOrError :
    updateTask (fun _ => .ok movedOnly) updateCall moveAndEdit = .ok () ∧
      ¬ AllOrError (fun _ => .ok movedOnly) (updateCommands updateCall moveAndEdit) movedOnly := by
  refine ⟨rfl, fun h => ?_⟩
  have hall : AllOk (updateCommands updateCall moveAndEdit) movedOnly := h.batch.mp ⟨_, rfl⟩
  have hedit := hall ⟨2, .itemUpdate none none none (some "Review")⟩
    (List.mem_cons_of_mem _ List.mem_cons_self)
  cases hedit

/-- The same statuses, listed the other way round. -/
def refusedFirst : SyncStatus := ⟨[(2, .error 42), (1, .ok)], by decide⟩

theorem refusedFirst_allOrError :
    AllOrError (fun _ => .ok refusedFirst) (updateCommands updateCall moveAndEdit) refusedFirst := by
  refine (allOrError_iff _ _ refusedFirst rfl).mpr ?_
  exact ⟨⟨2, .itemUpdate none none none (some "Review")⟩,
    List.mem_cons_of_mem _ List.mem_cons_self, by decide⟩

end Batch

/-! The batches of `PeerService` are these, with the commands listed in their order or the last
one first. -/

section Peer
variable {commands : List SentCommand} {answer : TodoistAnswer}

def listed (commands : List SentCommand) (answer : TodoistAnswer) :
    List (Uuid × TodoistCommandStatus) :=
  commands.mapIdx fun i command => (command.uuid, answer.statuses.getD i .ok)

theorem listed_uuids : (listed commands answer).map Prod.fst = commands.map (·.uuid) := by
  unfold listed
  rw [List.mapIdx_eq_zipIdx_map, List.map_map]
  conv_rhs => rw [← List.zipIdx_map_fst 0 commands, List.map_map]
  rfl

/-- The response of an answer to commands with identifiers of their own. -/
def responseOf (hnodup : (commands.map (·.uuid)).Nodup) (answer : TodoistAnswer) : SyncStatus where
  entries := if answer.lastFirst then (listed commands answer).reverse else listed commands answer
  nodup := by
    split
    · rw [List.map_reverse, listed_uuids]
      exact List.nodup_reverse.mpr hnodup
    · rw [listed_uuids]
      exact hnodup

theorem sendSyncCommands_eq (hnodup : (commands.map (·.uuid)).Nodup) (hcommands : commands ≠ [])
    (u : TaskFields) :
    (PeerService.sendSyncCommands (commands.map (·.command)) answer u).2 =
      (sendSyncCommands (fun _ =>
        if answer.received then .ok (responseOf hnodup answer)
        else .error (.unexpected
          "Failed to fetch response from Todoist API while sending commands")) commands).map
        fun _ => () := by
  have hfirst : (responseOf hnodup answer).values.head? =
      some (answer.statuses.getD (if answer.lastFirst then commands.length - 1 else 0) .ok) := by
    unfold SyncStatus.values responseOf listed
    dsimp only
    by_cases hlast : answer.lastFirst = true
    · rw [if_pos hlast, if_pos hlast, List.head?_map, List.head?_reverse, List.getLast?_mapIdx,
        List.getLast?_eq_some_getLast hcommands]
      rfl
    · rw [if_neg hlast, if_neg hlast, List.head?_map, List.head?_mapIdx,
        List.head?_eq_some_head hcommands]
      rfl
  unfold PeerService.sendSyncCommands sendSyncCommands
  rw [List.length_map]
  cases answer.received with
  | false => rfl
  | true =>
    rw [if_pos rfl, if_pos rfl]
    show commandResult _ = Except.map _ (match (responseOf hnodup answer).values.head? with
      | some status => (commandResult status).map fun _ => responseOf hnodup answer
      | none => _)
    rw [hfirst]
    generalize answer.statuses.getD _ .ok = status
    dsimp only
    cases commandResult status <;> rfl

end Peer

end UniversalInbox.TodoistCommands
