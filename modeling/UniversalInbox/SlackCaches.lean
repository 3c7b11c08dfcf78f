import UniversalInbox.Library.CachedCalls
import UniversalInbox.User

/-! The calls of the Slack API that are cached in Redis for all users: their keys, which of them
share an entry, and whose fetch a user is answered with. -/
namespace UniversalInbox.SlackCaches
open CachedCalls Transition

/-- An id or a timestamp as Slack writes them, of letters, digits and dots. -/
structure SlackId where
  text : String
  plain : ∀ c ∈ text.toList, c.isAlphanum = true ∨ c = '.'
deriving DecidableEq

-- Deciding `plain` itself would range over every character rather than over the text.
theorem plain_of_all {text : String}
    (h : text.toList.all (fun c => c.isAlphanum || c == '.') = true) :
    ∀ c ∈ text.toList, c.isAlphanum = true ∨ c = '.' := by
  intro c hc
  simpa using List.all_eq_true.mp h c hc

inductive SlackRequest where
  | fetchMessage (channel message : SlackId)
  | fetchThread (channel rootMessage : SlackId) (currentMessage : Option SlackId)
  | fetchChannel (channel : SlackId)
  | fetchUser (user : SlackId)
  | listUsergroups
  | listUsersInUsergroup (usergroupId : SlackId)
  | fetchBot (bot : SlackId)
  | fetchTeam (team : SlackId)
  | listEmojis
  | getChatPermalink (channel message : SlackId)
deriving DecidableEq

/-- A call for a user, with the team of the token if the token has one. -/
structure SlackCall where
  userId : UserId
  teamId : Option SlackId
  request : SlackRequest
deriving DecidableEq

inductive SlackFunction where
  | fetchMessage
  | fetchThread
  | fetchChannel
  | fetchUser
  | listUsergroups
  | listUsersInUsergroup
  | fetchBot
  | fetchTeam
  | listEmojis
  | getChatPermalink
deriving DecidableEq, Repr

def SlackRequest.function : SlackRequest → SlackFunction
  | fetchMessage _ _ => .fetchMessage
  | fetchThread _ _ _ => .fetchThread
  | fetchChannel _ => .fetchChannel
  | fetchUser _ => .fetchUser
  | listUsergroups => .listUsergroups
  | listUsersInUsergroup _ => .listUsersInUsergroup
  | fetchBot _ => .fetchBot
  | fetchTeam _ => .fetchTeam
  | listEmojis => .listEmojis
  | getChatPermalink _ _ => .getChatPermalink

namespace SlackFunction

def cacheName : SlackFunction → String
  | fetchMessage => "slack:fetch_message"
  | fetchThread => "slack:fetch_thread"
  | fetchChannel => "slack:fetch_channel"
  | fetchUser => "slack:fetch_user"
  | listUsergroups => "slack:list_usergroups"
  | listUsersInUsergroup => "slack:list_users_in_usergroup"
  | fetchBot => "slack:fetch_bot"
  | fetchTeam => "slack:fetch_team"
  | listEmojis => "slack:list_emojis"
  | getChatPermalink => "slack:get_chat_permalink"

def ttlInSeconds : SlackFunction → Int
  | fetchMessage => 60
  | fetchThread => 60
  | fetchChannel => 24 * 60 * 60
  | fetchUser => 24 * 60 * 60
  | listUsergroups => 12 * 60 * 60
  | listUsersInUsergroup => 12 * 60 * 60
  | fetchBot => 24 * 60 * 60
  | fetchTeam => 24 * 60 * 60
  | listEmojis => 24 * 60 * 60
  | getChatPermalink => 7 * 24 * 60 * 60

def refresh : SlackFunction → Bool
  | getChatPermalink => true
  | _ => false

end SlackFunction

/-- The optional timestamp as `{:?}` writes it. -/
def debugTs : Option SlackId → String
  | none => "None"
  | some ts => "Some(SlackTs(\"" ++ ts.text ++ "\"))"

theorem debugTs_some (ts : SlackId) : debugTs (some ts) = "Some(SlackTs(\"" ++ ts.text ++ "\"))" :=
  rfl

namespace SlackCall

/-- What the key has after the URL of Slack. -/
def keyParts (c : SlackCall) : List String :=
  match c.request with
  | .fetchMessage channel message => [User.userIdText c.userId, channel.text, message.text]
  | .fetchThread channel rootMessage currentMessage =>
    [User.userIdText c.userId, channel.text, rootMessage.text, debugTs currentMessage]
  | .fetchChannel channel => [channel.text]
  | .fetchUser user => [User.userIdText c.userId, user.text]
  | .listUsergroups => []
  | .listUsersInUsergroup usergroupId => [usergroupId.text]
  | .fetchBot bot => [bot.text]
  | .fetchTeam team => [team.text]
  | .listEmojis => [c.teamId.elim "no-team" SlackId.text]
  | .getChatPermalink channel message => [channel.text, message.text]

def cacheKey (slackBaseUrl : String) (c : SlackCall) : String :=
  c.keyParts.foldl (fun key part => key ++ "__" ++ part) slackBaseUrl

end SlackCall

/-- The key in Redis. -/
def redisKey (cacheNamespace slackBaseUrl : String) (c : SlackCall) : String :=
  cacheNamespace ++ c.request.function.cacheName ++ c.cacheKey slackBaseUrl

/-- Two calls may be answered with one entry. Of messages, threads and profiles each user has their
own; the list of user groups is one for all users of all teams. -/
def Shares (a b : SlackCall) : Prop :=
  match a.request, b.request with
  | .fetchMessage channel message, .fetchMessage channel' message' =>
    a.userId = b.userId ∧ channel = channel' ∧ message = message'
  | .fetchThread channel root current, .fetchThread channel' root' current' =>
    a.userId = b.userId ∧ channel = channel' ∧ root = root' ∧ current = current'
  | .fetchChannel channel, .fetchChannel channel' => channel = channel'
  | .fetchUser user, .fetchUser user' => a.userId = b.userId ∧ user = user'
  | .listUsergroups, .listUsergroups => True
  | .listUsersInUsergroup usergroupId, .listUsersInUsergroup usergroupId' =>
    usergroupId = usergroupId'
  | .fetchBot bot, .fetchBot bot' => bot = bot'
  | .fetchTeam team, .fetchTeam team' => team = team'
  | .listEmojis, .listEmojis => a.teamId = b.teamId
  | .getChatPermalink channel message, .getChatPermalink channel' message' =>
    channel = channel' ∧ message = message'
  | _, _ => False

section Keys
variable {a b : SlackCall} {cacheNamespace slackBaseUrl : String}

theorem function_of_cacheName {f g : SlackFunction}
    (h : f.cacheName.toList <+: g.cacheName.toList) : f = g := by
  revert h
  cases f <;> cases g <;> decide +kernel

theorem function_of_redisKey
    (h : redisKey cacheNamespace slackBaseUrl a = redisKey cacheNamespace slackBaseUrl b) :
    a.request.function = b.request.function := by
  have hlists := congrArg String.toList h
  simp only [redisKey, String.toList_append, List.append_assoc, List.append_cancel_left_eq] at hlists
  have ha := List.prefix_append a.request.function.cacheName.toList
    (a.cacheKey slackBaseUrl).toList
  have hb := List.prefix_append b.request.function.cacheName.toList
    (b.cacheKey slackBaseUrl).toList
  rw [hlists] at ha
  -- no name of a cache begins another
  obtain h | h := List.prefix_or_prefix_of_prefix ha hb
  · exact function_of_cacheName h
  · exact (function_of_cacheName h).symm

theorem toList_foldl (parts : List String) (start : String) :
    (parts.foldl (fun key part => key ++ "__" ++ part) start).toList =
      start.toList ++ parts.flatMap fun part => '_' :: '_' :: part.toList := by
  induction parts generalizing start with
  | nil => rw [List.foldl_nil, List.flatMap_nil, List.append_nil]
  | cons part parts ih =>
    rw [List.foldl_cons, ih, List.flatMap_cons, String.toList_append, String.toList_append,
      List.append_assoc, List.append_assoc]
    rfl

/-- A part ends before the next separator. -/
theorem takeWhile_part {part : String} (hpart : '_' ∉ part.toList) (parts : List String) :
    (part.toList ++ parts.flatMap fun part => '_' :: '_' :: part.toList).takeWhile (· ≠ '_') =
      part.toList := by
  have hother : ∀ c ∈ part.toList, decide (c ≠ '_') = true := by
    intro c hc
    rw [decide_eq_true_eq]
    rintro rfl
    exact hpart hc
  rw [List.takeWhile_append_of_pos hother]
  cases parts with
  | nil => exact List.append_nil _
  | cons part parts => exact List.append_nil _

/-- Parts without the separator can be read back. -/
theorem parts_injective {parts parts' : List String} (hparts : ∀ part ∈ parts, '_' ∉ part.toList)
    (hparts' : ∀ part ∈ parts', '_' ∉ part.toList)
    (h : (parts.flatMap fun part => '_' :: '_' :: part.toList) =
      parts'.flatMap fun part => '_' :: '_' :: part.toList) : parts = parts' := by
  induction parts generalizing parts' with
  | nil =>
    cases parts' with
    | nil => rfl
    | cons part' parts' => cases h
  | cons part parts ih =>
    cases parts' with
    | nil => cases h
    | cons part' parts' =>
      obtain ⟨hpart, hrest⟩ := List.forall_mem_cons.mp hparts
      obtain ⟨hpart', hrest'⟩ := List.forall_mem_cons.mp hparts'
      simp only [List.flatMap_cons, List.cons_append, List.cons.injEq, true_and] at h
      have hsame : part.toList = part'.toList := by
        rw [← takeWhile_part hpart parts, h, takeWhile_part hpart' parts']
      rw [hsame, List.append_cancel_left_eq] at h
      rw [String.toList_injective hsame, ih hrest hrest' h]

theorem SlackId.not_mem (id : SlackId) : '_' ∉ id.text.toList := fun h =>
  absurd (id.plain '_' h) (by decide)

theorem not_mem_userIdText (userId : UserId) : '_' ∉ (User.userIdText userId).toList := by
  rw [User.userIdText, String.toList_ofList]
  exact fun h => absurd (Uuid.mem_hyphenated h) (by decide)

theorem not_mem_debugTs (ts : Option SlackId) : '_' ∉ (debugTs ts).toList := by
  cases ts with
  | none => decide
  | some ts =>
    rw [debugTs_some, String.toList_append, String.toList_append, List.mem_append, List.mem_append,
      not_or, not_or]
    exact ⟨⟨by decide, ts.not_mem⟩, by decide⟩

theorem not_mem_team (teamId : Option SlackId) :
    '_' ∉ (teamId.elim "no-team" SlackId.text).toList := by
  cases teamId with
  | none => decide
  | some team => exact team.not_mem

theorem not_mem_keyParts (c : SlackCall) : ∀ part ∈ c.keyParts, '_' ∉ part.toList := by
  unfold SlackCall.keyParts
  cases c.request <;> simp [SlackId.not_mem, not_mem_userIdText, not_mem_debugTs, not_mem_team]

theorem redisKey_eq_iff : redisKey cacheNamespace slackBaseUrl a =
    redisKey cacheNamespace slackBaseUrl b ↔
      a.request.function = b.request.function ∧ a.keyParts = b.keyParts := by
  constructor
  · intro h
    have hfunction := function_of_redisKey h
    refine ⟨hfunction, parts_injective (not_mem_keyParts a) (not_mem_keyParts b) ?_⟩
    have hlists := congrArg String.toList h
    simpa only [redisKey, hfunction, SlackCall.cacheKey, toList_foldl, String.toList_append,
      List.append_cancel_left_eq] using hlists
  · rintro ⟨hfunction, hparts⟩
    rw [redisKey, redisKey, SlackCall.cacheKey, SlackCall.cacheKey, hfunction, hparts]

theorem SlackId.text_inj {id id' : SlackId} : id.text = id'.text ↔ id = id' :=
  ⟨fun h => by cases id; cases id'; cases h; rfl, congrArg SlackId.text⟩

theorem userIdText_inj {userId userId' : UserId} :
    User.userIdText userId = User.userIdText userId' ↔ userId = userId' := by
  refine ⟨fun h => ?_, congrArg User.userIdText⟩
  have huuid := Uuid.hyphenated_injective (String.ofList_injective h)
  cases userId
  cases userId'
  exact congrArg UserId.mk huuid

/-- Only a timestamp that is there is written with brackets. -/
theorem mem_debugTs (ts : Option SlackId) : '(' ∈ (debugTs ts).toList ↔ ts.isSome := by
  cases ts with
  | none => decide
  | some ts =>
    rw [debugTs_some, String.toList_append, String.toList_append]
    exact iff_of_true (List.mem_append_left _ (List.mem_append_left _ (by decide))) rfl

theorem debugTs_inj {ts ts' : Option SlackId} : debugTs ts = debugTs ts' ↔ ts = ts' := by
  refine ⟨fun h => ?_, congrArg debugTs⟩
  have hsome : ts.isSome ↔ ts'.isSome := by rw [← mem_debugTs, h, mem_debugTs]
  cases ts with
  | none =>
    cases ts' with
    | none => rfl
    | some ts' => exact absurd (hsome.mpr rfl) Bool.false_ne_true
  | some ts =>
    cases ts' with
    | none => exact absurd (hsome.mp rfl) Bool.false_ne_true
    | some ts' =>
      have hlists := congrArg String.toList h
      rw [debugTs_some, debugTs_some, String.toList_append, String.toList_append, String.toList_append,
        String.toList_append, List.append_cancel_right_eq, List.append_cancel_left_eq] at hlists
      exact congrArg some (SlackId.text_inj.mp (String.toList_injective hlists))

theorem team_inj {teamId teamId' : Option SlackId} :
    teamId.elim "no-team" SlackId.text = teamId'.elim "no-team" SlackId.text ↔
      teamId = teamId' := by
  -- a team has no hyphen in its id
  have hteam : ∀ team : SlackId, team.text ≠ "no-team" := fun team h =>
    absurd (team.plain '-' (h ▸ by decide)) (by decide)
  cases teamId <;> cases teamId' <;>
    simp [hteam, (hteam _).symm, SlackId.text_inj]

/-- Two calls have one key exactly when they may share an entry. -/
theorem redisKey_eq_iff_shares : redisKey cacheNamespace slackBaseUrl a =
    redisKey cacheNamespace slackBaseUrl b ↔ Shares a b := by
  rw [redisKey_eq_iff]
  unfold Shares SlackCall.keyParts
  cases a.request <;> cases b.request <;>
    -- calls of two functions share nothing
    first
    | exact iff_of_false (fun h => SlackFunction.noConfusion h.1) not_false
    | simp only [SlackRequest.function, true_and, List.cons.injEq, and_true,
        SlackId.text_inj, userIdText_inj, debugTs_inj, team_inj]

end Keys

/-- The ten caches, in one Redis. -/
def policy (cacheNamespace slackBaseUrl : String) : Policy SlackCall String where
  key := redisKey cacheNamespace slackBaseUrl
  ttl c := c.request.function.ttlInSeconds * 1000000000
  refresh c := c.request.function.refresh
  refresh_congr _ _ h := congrArg SlackFunction.refresh (function_of_redisKey h)

/-- What a user is answered with has been fetched by a call that may share its entry, and stored less
than the time to live before if it is from the cache, but for a permalink. -/
structure Answered {ρ : Type} (x : Answer SlackCall ρ) : Prop where
  shares : Shares x.fetch.argument x.argument
  fetched : x.fetch.time ≤ x.time
  own : x.cachedSince = none → x.fetch.argument = x.argument
  since : ∀ since ∈ x.cachedSince, x.fetch.time ≤ since ∧ since ≤ x.time
  fresh : ∀ since ∈ x.cachedSince, x.argument.request.function ≠ .getChatPermalink →
    x.time < since + x.argument.request.function.ttlInSeconds * 1000000000

section Run
variable {ρ : Type} {cacheNamespace slackBaseUrl : String} {s : State SlackCall String ρ}

theorem refresh_eq_false {f : SlackFunction} (h : f ≠ .getChatPermalink) : f.refresh = false := by
  cases f <;> first | rfl | exact absurd rfl h

theorem answered_of_justified {x : Answer SlackCall ρ}
    (h : Justified (policy cacheNamespace slackBaseUrl) x) : Answered x where
  shares := redisKey_eq_iff_shares.mp h.key
  fetched := h.fetched
  own := h.own
  since := h.since
  fresh since hsince hother := by
    have hfresh := h.fresh since hsince (refresh_eq_false hother)
    rwa [show (policy cacheNamespace slackBaseUrl).ttl x.fetch.argument =
      (policy cacheNamespace slackBaseUrl).ttl x.argument from
        congrArg (fun f => f.ttlInSeconds * 1000000000) (function_of_redisKey h.key)] at hfresh

/-- Whatever the calls of all users, every answer is a fetch of a call that may share its entry; and
a call is answered from the cache exactly when such a fetch is there that has not expired. -/
theorem answers_shared {clock : Int} {inputs : List (Input SlackCall String ρ)}
    (hrun : exec (step (policy cacheNamespace slackBaseUrl)) (initial clock) inputs = some s) :
    (∀ x ∈ s.answers, Answered x) ∧
      ∀ c, (s.live (policy cacheNamespace slackBaseUrl) c).isSome ↔
        ∃ e ∈ s.entries.rows, Shares e.fetch.argument c ∧ s.clock < e.expiresAt := by
  have h := sound_of_exec hrun
  refine ⟨fun x hx => answered_of_justified (h.answers x hx), fun c => ?_⟩
  rw [Option.isSome_iff_exists]
  refine exists_congr fun e => ?_
  rw [live_eq_some]
  refine and_congr_right fun he => and_congr_left fun _ => ?_
  rw [← (h.entries e he).key]
  exact redisKey_eq_iff_shares

end Run

def alice : UserId := ⟨1⟩

def bob : UserId := ⟨2⟩

def sampleChannel : SlackId := ⟨"C01", plain_of_all (by decide)⟩

def sampleTs : SlackId := ⟨"1700000000.000100", plain_of_all (by decide)⟩

/-- Each user fetches a message, and the second is answered with the user groups of the first. -/
def sampleInputs : List (Input SlackCall String String) :=
  [.call ⟨alice, none, .listUsergroups⟩ true, .fetch 0 (some "groups of a team"),
    .store 0 true true,
    .call ⟨bob, none, .listUsergroups⟩ true,
    .call ⟨alice, none, .fetchMessage sampleChannel sampleTs⟩ true, .fetch 1 (some "hello"),
    .store 1 true true,
    .call ⟨bob, none, .fetchMessage sampleChannel sampleTs⟩ true]

theorem sampleInputs_shared :
    ∃ s, exec (step (policy "universal-inbox:cache:" "https://slack.com/api")) (initial 0)
        sampleInputs = some s ∧
      (s.answers.map fun x => (x.argument.userId, x.fetch.value)) =
        [(alice, "hello"), (bob, "groups of a team"), (alice, "groups of a team")] ∧
      ∀ x ∈ s.answers, Answered x := by
  have hrun : (exec (step (policy "universal-inbox:cache:" "https://slack.com/api")) (initial 0)
      sampleInputs).any (fun s => (s.answers.map fun x => (x.argument.userId, x.fetch.value)) =
        [(alice, "hello"), (bob, "groups of a team"), (alice, "groups of a team")]) = true := by
    decide +kernel
  obtain ⟨s, hs, hanswers⟩ := (Option.any_eq_true _ _).mp hrun
  exact ⟨s, hs, of_decide_eq_true hanswers, (answers_shared hs).1⟩

end UniversalInbox.SlackCaches
