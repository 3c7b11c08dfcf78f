import UniversalInbox.ConnectionStatus
import UniversalInbox.OAuthCredential

/-! The refresh of the expiring credentials: one transaction over all of them, with whatever each
provider, the database and the process do. -/
namespace UniversalInbox.OAuthCredential.TokenRefresh
open OAuthTokens ConnectionStatus

/-- What one credential meets with: the answer of its provider, whether the database accepts its
statement, and whether the process stops once the provider has answered. -/
structure Answer extends ProviderAnswer where
  accepted : Bool
  crash : Bool

structure Database where
  credentials : OAuthCredentialTable
  connections : IntegrationConnectionTable

/-- After a statement that fails all others do, and the commit is a rollback. -/
structure SqlTransaction where
  db : Database
  aborted : Bool

def SqlTransaction.execute (tx : SqlTransaction) (accepted : Bool) (f : Database → Database) :
    SqlTransaction :=
  if tx.aborted || !accepted then { tx with aborted := true } else { tx with db := f tx.db }

structure Progress where
  tx : SqlTransaction
  refreshed : Nat
  failed : Nat

def Progress.fail (p : Progress) : Progress := { p with failed := p.failed + 1 }

def markFailing (credential : ExpiringOAuthCredential) (db : Database) : Database :=
  { db with
    connections := updateIntegrationConnectionStatus db.connections
      credential.integrationConnectionId .failing (some oauthInvalidGrantErrorMessage) none
      credential.userId }

def storeRefreshed (answer : Answer) (id : IntegrationConnectionId) (response : OAuthTokenResponse)
    (tokens : Bytes × Option Bytes) (expiresAt : Option DateTime) (db : Database) : Database :=
  { db with
    credentials := storeOauthCredential db.credentials id tokens.1 tokens.2 expiresAt
      (refreshRawResponse response) answer.now }

/-- The body of the loop; `none` when the process stops. -/
def refreshCredential (service : Service) (answers : IntegrationConnectionId → Answer)
    (p : Progress) (credential : ExpiringOAuthCredential) : Option Progress :=
  let id := credential.integrationConnectionId
  let answer := answers id
  if answer.crash then none
  else
    match called service answer.toProviderAnswer credential with
    | none => some p.fail
    | some (.error (.oauth2InvalidGrant _)) =>
      -- the outcome of the update is only logged
      some { p.fail with tx := p.tx.execute answer.accepted (markFailing credential) }
    | some (.error _) => some p.fail
    | some (.ok response) =>
      match encryptResponse service answer.toProviderAnswer id response with
      | none => some p.fail
      | some tokens =>
        (expiresAt answer.now response).map fun expiresAt =>
          let tx := p.tx.execute answer.accepted (storeRefreshed answer id response tokens expiresAt)
          if tx.aborted then { p.fail with tx } else { p with tx, refreshed := p.refreshed + 1 }

/-- `Utc::now()` and the minutes, where `try_minutes` and the sum are in range. -/
def expiringBefore (now : DateTime) (minutesBeforeExpiry : Int) : Option DateTime :=
  let instant := now + minutesBeforeExpiry * 60 * 1000000000
  if (minutesBeforeExpiry * 60).natAbs ≤ (2 ^ 63 - 1) / 1000 ∧ minUtc ≤ instant ∧ instant ≤ maxUtc then
    some instant
  else none

/-- What the job leaves: the database, and the counts where they were returned. -/
structure Ended where
  db : Database
  counts : Option (Nat × Nat)

/-- The job over the credentials that its query lists. -/
def refreshListed (service : Service) (db : Database) (answers : IntegrationConnectionId → Answer)
    (commits : Bool) (credentials : List ExpiringOAuthCredential) : Ended :=
  match credentials.foldlM (refreshCredential service answers) ⟨⟨db, false⟩, 0, 0⟩ with
  | none => ⟨db, none⟩
  | some p =>
    ⟨if !p.tx.aborted && commits then p.tx.db else db, some (p.refreshed, p.failed)⟩

/-- What the query lists; there is nothing where it is not reached or fails. -/
def listed (db : Database) (locked : IntegrationConnectionId → Bool) (now : DateTime)
    (minutesBeforeExpiry : Int) (providerKind : Option IntegrationProviderKind) (accepted : Bool) :
    Option (List ExpiringOAuthCredential) :=
  if accepted then
    (expiringBefore now minutesBeforeExpiry).map fun bound =>
      listExpiringCredentials db.credentials db.connections locked bound providerKind
  else none

def refreshOauthTokens (service : Service) (db : Database) (locked : IntegrationConnectionId → Bool)
    (now : DateTime) (minutesBeforeExpiry : Int) (providerKind : Option IntegrationProviderKind)
    (accepted : Bool) (answers : IntegrationConnectionId → Answer) (commits : Bool) : Ended :=
  match listed db locked now minutesBeforeExpiry providerKind accepted with
  | some credentials => refreshListed service db answers commits credentials
  | none => ⟨db, none⟩

/-- The response of a refresh call that succeeds. -/
def refreshedResponse (service : Service) (answers : IntegrationConnectionId → Answer)
    (credential : ExpiringOAuthCredential) : Option OAuthTokenResponse :=
  match called service (answers credential.integrationConnectionId).toProviderAnswer credential with
  | some (.ok response) => some response
  | _ => none

/-- Its tokens can be encrypted. -/
def encrypts (service : Service) (answers : IntegrationConnectionId → Answer)
    (credential : ExpiringOAuthCredential) : Bool :=
  (refreshedResponse service answers credential).any fun response =>
    (encryptResponse service (answers credential.integrationConnectionId).toProviderAnswer
      credential.integrationConnectionId response).isSome

/-- The process stops at the credential: by a crash, or as the expiry date is out of range. -/
def stops (service : Service) (answers : IntegrationConnectionId → Answer)
    (credential : ExpiringOAuthCredential) : Bool :=
  let answer := answers credential.integrationConnectionId
  answer.crash || (encrypts service answers credential &&
    (refreshedResponse service answers credential).any fun response =>
      (expiresAt answer.now response).isNone)

/-- The credential has a statement that the database does not accept. -/
def failsStatement (service : Service) (answers : IntegrationConnectionId → Answer)
    (credential : ExpiringOAuthCredential) : Bool :=
  let answer := answers credential.integrationConnectionId
  (encrypts service answers credential ||
    match called service answer.toProviderAnswer credential with
    | some (.error (.oauth2InvalidGrant _)) => true
    | _ => false) && !answer.accepted

/-- The credentials up to the one at which the process stops. -/
def reached (service : Service) (answers : IntegrationConnectionId → Answer) :
    List ExpiringOAuthCredential → List ExpiringOAuthCredential
  | [] => []
  | credential :: rest =>
    if stops service answers credential then [credential]
    else credential :: reached service answers rest

/-- The calls that have succeeded. -/
def calls (service : Service) (answers : IntegrationConnectionId → Answer)
    (credentials : List ExpiringOAuthCredential) :
    List (IntegrationConnectionId × OAuthTokenResponse) :=
  (reached service answers credentials).filterMap fun credential =>
    (refreshedResponse service answers credential).map (credential.integrationConnectionId, ·)

/-- The stored tokens are those of the response. -/
def Holds (cipher : TokenCipher) (db : Database)
    (call : IntegrationConnectionId × OAuthTokenResponse) : Prop :=
  ∃ row ∈ db.credentials.find? call.1,
    decryptToken cipher (asBytes call.1) row.encryptedAccessToken = some call.2.accessToken ∧
      ∀ refreshToken ∈ call.2.refreshToken, ∃ encrypted ∈ row.encryptedRefreshToken,
        decryptToken cipher (asBytes call.1) encrypted = some refreshToken

/-- Every call that has succeeded is stored, and counted where the counts were returned. -/
structure TokensKept (cipher : TokenCipher)
    (calls : List (IntegrationConnectionId × OAuthTokenResponse)) (ended : Ended) : Prop where
  stored : ∀ call ∈ calls, Holds cipher ended.db call
  counted : ∀ counts ∈ ended.counts, counts.1 = calls.length

/-- Every call that succeeds can be stored, and does so before any statement fails. -/
structure StoresAll (service : Service) (answers : IntegrationConnectionId → Answer)
    (credentials : List ExpiringOAuthCredential) : Prop where
  encrypted : ∀ credential ∈ credentials,
    (refreshedResponse service answers credential).isSome → encrypts service answers credential
  beforeFailure : ∀ credential ∈
    credentials.dropWhile (fun credential => !failsStatement service answers credential),
    refreshedResponse service answers credential = none

/-- Nothing has been lost: what the successful calls have returned was there before, or else the
process goes on to the end, stores all of it, and commits after no statement has failed. -/
def NothingLost (service : Service) (db : Database) (answers : IntegrationConnectionId → Answer)
    (commits : Bool) (credentials : List ExpiringOAuthCredential) : Prop :=
  let unchanged := ∀ call ∈ calls service answers credentials, Holds service.cipher db call
  if credentials.any (stops service answers) then unchanged
  else
    StoresAll service answers credentials ∧
      ((∀ credential ∈ credentials, failsStatement service answers credential = false) ∧
        commits = true ∨ unchanged)

section Iteration
variable {service : Service} {answers : IntegrationConnectionId → Answer} {p q : Progress}
  {credential : ExpiringOAuthCredential}

theorem encrypts_eq_true : encrypts service answers credential = true ↔
    ∃ response tokens, refreshedResponse service answers credential = some response ∧
      encryptResponse service (answers credential.integrationConnectionId).toProviderAnswer
        credential.integrationConnectionId response = some tokens := by
  simp [encrypts, Option.any_eq_true, Option.isSome_iff_exists]

theorem refreshedResponse_eq_some {response : OAuthTokenResponse} :
    refreshedResponse service answers credential = some response ↔
      called service (answers credential.integrationConnectionId).toProviderAnswer credential =
        some (.ok response) := by
  unfold refreshedResponse
  split <;> simp_all

/-- What the body of the loop can do when it goes on: leave the database, mark the connection, or
store the tokens. -/
inductive Iterates (service : Service) (answers : IntegrationConnectionId → Answer)
    (credential : ExpiringOAuthCredential) (p : Progress) : Progress → Prop where
  | nothing (hencrypts : encrypts service answers credential = false)
      (hfails : failsStatement service answers credential = false) :
      Iterates service answers credential p p.fail
  | markFailing (hencrypts : encrypts service answers credential = false)
      (hfails : failsStatement service answers credential =
        !(answers credential.integrationConnectionId).accepted) :
      Iterates service answers credential p
        { p.fail with
          tx := p.tx.execute (answers credential.integrationConnectionId).accepted
            (TokenRefresh.markFailing credential) }
  | store {response : OAuthTokenResponse} {tokens : Bytes × Option Bytes}
      {expiresAt : Option DateTime}
      (hresponse : refreshedResponse service answers credential = some response)
      (htokens : encryptResponse service (answers credential.integrationConnectionId).toProviderAnswer
        credential.integrationConnectionId response = some tokens)
      (tx : SqlTransaction)
      (htx : tx = p.tx.execute (answers credential.integrationConnectionId).accepted
        (storeRefreshed (answers credential.integrationConnectionId)
          credential.integrationConnectionId response tokens expiresAt)) :
      Iterates service answers credential p
        (if tx.aborted then { p.fail with tx } else { p with tx, refreshed := p.refreshed + 1 })

theorem iterates_of_refreshCredential
    (h : refreshCredential service answers p credential = some q) :
    Iterates service answers credential p q := by
  unfold refreshCredential at h
  simp only at h
  split at h
  · cases h
  · split at h
    next hcalled =>
      cases h
      exact .nothing (by simp [encrypts, refreshedResponse, hcalled])
        (by simp [failsStatement, encrypts, refreshedResponse, hcalled])
    next hcalled =>
      cases h
      exact .markFailing (by simp [encrypts, refreshedResponse, hcalled])
        (by simp [failsStatement, encrypts, refreshedResponse, hcalled])
    next error hother hcalled =>
      cases h
      refine .nothing (by simp [encrypts, refreshedResponse, hcalled]) ?_
      have hnotInvalid : ∀ detail, error ≠ .oauth2InvalidGrant detail := hother
      cases error with
      | oauth2InvalidGrant detail => exact absurd rfl (hnotInvalid detail)
      | _ => simp [failsStatement, encrypts, refreshedResponse, hcalled]
    next response hcalled =>
      split at h
      next htokens =>
        cases h
        exact .nothing (by simp [encrypts, refreshedResponse, hcalled, htokens])
          (by simp [failsStatement, encrypts, refreshedResponse, hcalled, htokens])
      next tokens htokens =>
        obtain ⟨expiresAt, -, rfl⟩ := Option.map_eq_some_iff.mp h
        exact .store (refreshedResponse_eq_some.mpr hcalled) htokens _ rfl

theorem refreshCredential_eq_none :
    refreshCredential service answers p credential = none ↔
      stops service answers credential = true := by
  unfold refreshCredential stops
  simp only
  by_cases hcrash : (answers credential.integrationConnectionId).crash = true
  · simp [hcrash]
  · rw [if_neg hcrash]
    split
    next hcalled => simp [hcrash, encrypts, refreshedResponse, hcalled]
    next hcalled => simp [hcrash, encrypts, refreshedResponse, hcalled]
    next hother hcalled => simp [hcrash, encrypts, refreshedResponse, hcalled]
    next response hcalled =>
      split
      next htokens => simp [hcrash, encrypts, refreshedResponse, hcalled, htokens]
      next tokens htokens => simp [hcrash, encrypts, refreshedResponse, hcalled, htokens]

theorem execute_aborted {tx : SqlTransaction} {accepted : Bool} {f : Database → Database} :
    (tx.execute accepted f).aborted = (tx.aborted || !accepted) := by
  unfold SqlTransaction.execute
  cases h : tx.aborted || !accepted with
  | true => rfl
  | false => exact (Bool.or_eq_false_iff.mp h).1

theorem execute_db {tx : SqlTransaction} {accepted : Bool} {f : Database → Database}
    (h : (tx.execute accepted f).aborted = false) :
    (tx.execute accepted f).db = f tx.db := by
  rw [execute_aborted] at h
  unfold SqlTransaction.execute
  rw [h]
  rfl

/-- One iteration: its statement may abort the transaction, and otherwise its tokens are stored and
counted, and no other credential's are touched. -/
structure Iterated (service : Service) (answers : IntegrationConnectionId → Answer)
    (credential : ExpiringOAuthCredential) (p q : Progress) : Prop where
  aborted : q.tx.aborted = (p.tx.aborted || failsStatement service answers credential)
  refreshed : q.refreshed =
    p.refreshed + if encrypts service answers credential && !q.tx.aborted then 1 else 0
  others : ∀ id ≠ credential.integrationConnectionId,
    q.tx.db.credentials.find? id = p.tx.db.credentials.find? id
  holds : q.tx.aborted = false → encrypts service answers credential = true →
    ∀ response ∈ refreshedResponse service answers credential,
      Holds service.cipher q.tx.db (credential.integrationConnectionId, response)

theorem holds_storeRefreshed {answer : Answer} {id : IntegrationConnectionId}
    {response : OAuthTokenResponse} {tokens : Bytes × Option Bytes} {expiresAt : Option DateTime}
    {db : Database} (h : encryptResponse service answer.toProviderAnswer id response = some tokens) :
    Holds service.cipher (storeRefreshed answer id response tokens expiresAt db)
      (id, response) := by
  obtain ⟨accessToken, haccess, h⟩ := Option.bind_eq_some_iff.mp h
  refine ⟨_, Table.find?_put.trans (if_pos rfl), ?_⟩
  cases hrefresh : response.refreshToken with
  | none =>
    rw [hrefresh] at h
    cases h
    exact ⟨decryptToken_of_encryptToken haccess, by simp⟩
  | some refreshToken =>
    rw [hrefresh] at h
    obtain ⟨encrypted, hencrypted, rfl⟩ := Option.map_eq_some_iff.mp h
    refine ⟨decryptToken_of_encryptToken haccess, ?_⟩
    intro token htoken
    cases htoken
    exact ⟨encrypted, rfl, decryptToken_of_encryptToken hencrypted⟩

theorem Iterates.iterated (h : Iterates service answers credential p q) :
    Iterated service answers credential p q := by
  cases h with
  | nothing hencrypts hfails =>
    exact
      { aborted := by simp [Progress.fail, hfails]
        refreshed := by simp [Progress.fail, hencrypts]
        others := fun _ _ => rfl
        holds := fun _ h => by rw [hencrypts] at h; cases h }
  | markFailing hencrypts hfails =>
    exact
      { aborted := by rw [execute_aborted, hfails]
        refreshed := by simp [Progress.fail, hencrypts]
        others := by
          intro id _
          simp only [SqlTransaction.execute]
          split <;> rfl
        holds := fun _ h => by rw [hencrypts] at h; cases h }
  | @store response tokens expiresAt hresponse htokens tx htx =>
    have hencrypts : encrypts service answers credential = true :=
      encrypts_eq_true.mpr ⟨response, tokens, hresponse, htokens⟩
    have haborted : tx.aborted =
        (p.tx.aborted || failsStatement service answers credential) := by
      rw [htx, execute_aborted, failsStatement, hencrypts]
      rfl
    have hothers : ∀ id ≠ credential.integrationConnectionId,
        tx.db.credentials.find? id = p.tx.db.credentials.find? id := by
      intro id hid
      rw [htx, SqlTransaction.execute]
      split
      · rfl
      · exact Table.find?_put.trans (if_neg hid)
    cases hstored : tx.aborted with
    | true =>
      exact
        { aborted := haborted
          refreshed := by simp [Progress.fail, hstored]
          others := hothers
          holds := fun h => by simp [hstored] at h }
    | false =>
      refine
        { aborted := haborted
          refreshed := by simp [hencrypts, hstored]
          others := hothers
          holds := ?_ }
      intro _ _ answered hanswered
      rw [hresponse] at hanswered
      cases hanswered
      subst htx
      change Holds _ (SqlTransaction.execute _ _ _).db _
      rw [execute_db hstored]
      exact holds_storeRefreshed htokens

end Iteration
section Run
variable {service : Service} {answers : IntegrationConnectionId → Answer}

theorem foldlM_eq_none {credentials : List ExpiringOAuthCredential} {p : Progress} :
    credentials.foldlM (refreshCredential service answers) p = none ↔
      credentials.any (stops service answers) = true := by
  induction credentials generalizing p with
  | nil => simp
  | cons credential rest ih =>
    rw [List.foldlM_cons, List.any_cons, Bool.or_eq_true, ← refreshCredential_eq_none (p := p)]
    cases h : refreshCredential service answers p credential with
    | none => simp
    | some q => simpa using ih

/-- The calls that are counted: those stored before a statement fails. -/
def countedCalls (service : Service) (answers : IntegrationConnectionId → Answer)
    (credentials : List ExpiringOAuthCredential) : Nat :=
  (credentials.takeWhile fun credential => !failsStatement service answers credential).countP
    (encrypts service answers)

/-- The whole loop, by its iterations. -/
structure Ran (service : Service) (answers : IntegrationConnectionId → Answer)
    (credentials : List ExpiringOAuthCredential) (p q : Progress) : Prop where
  aborted : q.tx.aborted =
    (p.tx.aborted || credentials.any (failsStatement service answers))
  refreshed : q.refreshed =
    p.refreshed + if p.tx.aborted then 0 else countedCalls service answers credentials
  others : ∀ id ∉ credentials.map ExpiringOAuthCredential.integrationConnectionId,
    q.tx.db.credentials.find? id = p.tx.db.credentials.find? id
  holds : q.tx.aborted = false →
    (credentials.map ExpiringOAuthCredential.integrationConnectionId).Nodup →
    ∀ credential ∈ credentials, encrypts service answers credential = true →
      ∀ response ∈ refreshedResponse service answers credential,
        Holds service.cipher q.tx.db (credential.integrationConnectionId, response)

theorem Holds.of_find? {cipher : TokenCipher} {db db' : Database}
    {call : IntegrationConnectionId × OAuthTokenResponse} (h : Holds cipher db call)
    (hfind : db'.credentials.find? call.1 = db.credentials.find? call.1) :
    Holds cipher db' call := by
  obtain ⟨row, hrow, hstored⟩ := h
  exact ⟨row, hfind.trans hrow, hstored⟩

theorem ran_of_foldlM {credentials : List ExpiringOAuthCredential} {p q : Progress}
    (h : credentials.foldlM (refreshCredential service answers) p = some q) :
    Ran service answers credentials p q := by
  induction credentials generalizing p with
  | nil =>
    cases h
    exact
      { aborted := by simp
        refreshed := by simp [countedCalls]
        others := fun _ _ => rfl
        holds := fun _ _ _ h => (nomatch h) }
  | cons credential rest ih =>
    rw [List.foldlM_cons] at h
    obtain ⟨u, hu, hrest⟩ := Option.bind_eq_some_iff.mp h
    have hstep := (iterates_of_refreshCredential hu).iterated
    have hrun := ih hrest
    refine
      { aborted := by rw [hrun.aborted, hstep.aborted, List.any_cons, Bool.or_assoc]
        refreshed := ?_
        others := ?_
        holds := ?_ }
    · rw [hrun.refreshed, hstep.refreshed, hstep.aborted]
      cases haborted : p.tx.aborted with
      | true => simp
      | false =>
        cases hfails : failsStatement service answers credential with
        | true => simp [countedCalls, hfails]
        | false =>
          have hcounted : countedCalls service answers (credential :: rest) =
              countedCalls service answers rest +
                if encrypts service answers credential then 1 else 0 := by
            rw [countedCalls, List.takeWhile_cons_of_pos (by simp [hfails]), List.countP_cons]
            rfl
          rw [hcounted]
          simp
          omega
    · intro id hid
      rw [List.map_cons, List.mem_cons, not_or] at hid
      rw [hrun.others id hid.2, hstep.others id hid.1]
    · intro haborted hnodup other hother hencrypts response hresponse
      rw [List.map_cons, List.nodup_cons] at hnodup
      rcases List.mem_cons.mp hother with rfl | hother
      · -- the credentials that follow are others
        have hu : u.tx.aborted = false := by
          rw [hrun.aborted] at haborted
          exact (Bool.or_eq_false_iff.mp haborted).1
        exact (hstep.holds hu hencrypts response hresponse).of_find? (hrun.others _ hnodup.1)
      · exact hrun.holds haborted hnodup.2 other hother hencrypts response hresponse

/-- Two counts of which the first stops early agree when what it leaves out is not counted. -/
theorem countP_takeWhile_eq_iff {α : Type*} {p f g : α → Bool}
    (hle : ∀ a, f a = true → g a = true) (l : List α) :
    (l.takeWhile p).countP f = l.countP g ↔
      (∀ a ∈ l, g a = true → f a = true) ∧ ∀ a ∈ l.dropWhile p, g a = false := by
  have hsplit : l.countP g = (l.takeWhile p).countP g + (l.dropWhile p).countP g := by
    rw [← List.countP_append, List.takeWhile_append_dropWhile]
  have hmono : (l.takeWhile p).countP f ≤ (l.takeWhile p).countP g :=
    List.countP_mono_left fun a _ => hle a
  constructor
  · intro heq
    have hdrop : ∀ a ∈ l.dropWhile p, g a = false := by
      intro a ha
      have hzero : (l.dropWhile p).countP g = 0 := by omega
      simpa using List.countP_eq_zero.mp hzero a ha
    refine ⟨fun a ha hg => ?_, hdrop⟩
    rw [← List.takeWhile_append_dropWhile (p := p) (l := l), List.mem_append] at ha
    rcases ha with ha | ha
    · -- of two lists one within the other, of one length, the filters are the same
      have hsub : ((l.takeWhile p).filter f).Sublist ((l.takeWhile p).filter g) :=
        List.monotone_filter_right _ hle
      have hfilter := hsub.eq_of_length (by
        rw [← List.countP_eq_length_filter, ← List.countP_eq_length_filter]
        omega)
      have hmem : a ∈ (l.takeWhile p).filter g := List.mem_filter.mpr ⟨ha, hg⟩
      rw [← hfilter] at hmem
      exact (List.mem_filter.mp hmem).2
    · rw [hdrop a ha] at hg
      cases hg
  · rintro ⟨hall, hdrop⟩
    have htake : (l.takeWhile p).countP f = (l.takeWhile p).countP g := by
      refine List.countP_congr fun a ha => ⟨hle a, hall a ?_⟩
      exact (List.takeWhile_sublist p).subset ha
    have hzero : (l.dropWhile p).countP g = 0 :=
      List.countP_eq_zero.mpr fun a ha => by simp [hdrop a ha]
    omega

variable {credentials : List ExpiringOAuthCredential}

theorem isSome_of_encrypts {credential : ExpiringOAuthCredential}
    (h : encrypts service answers credential = true) :
    (refreshedResponse service answers credential).isSome = true := by
  obtain ⟨response, -, hresponse, -⟩ := encrypts_eq_true.mp h
  rw [hresponse]
  rfl

theorem reached_eq_self (h : credentials.any (stops service answers) = false) :
    reached service answers credentials = credentials := by
  induction credentials with
  | nil => rfl
  | cons credential rest ih =>
    rw [List.any_cons, Bool.or_eq_false_iff] at h
    rw [reached, if_neg (by simp [h.1]), ih h.2]

theorem length_filterMap_response :
    (credentials.filterMap fun credential =>
      (refreshedResponse service answers credential).map
        (credential.integrationConnectionId, ·)).length =
      credentials.countP fun credential =>
        (refreshedResponse service answers credential).isSome := by
  simp [List.length_filterMap_eq_countP]

theorem countedCalls_eq_iff (h : credentials.any (stops service answers) = false) :
    countedCalls service answers credentials = (calls service answers credentials).length ↔
      StoresAll service answers credentials := by
  rw [calls, reached_eq_self h, length_filterMap_response, countedCalls,
    countP_takeWhile_eq_iff fun _ => isSome_of_encrypts]
  constructor
  · rintro ⟨hencrypted, hbefore⟩
    exact ⟨hencrypted, fun credential hmem => by simpa using hbefore credential hmem⟩
  · rintro ⟨hencrypted, hbefore⟩
    exact ⟨hencrypted, fun credential hmem => by simp [hbefore credential hmem]⟩

theorem mem_calls {call : IntegrationConnectionId × OAuthTokenResponse}
    (h : call ∈ calls service answers credentials) :
    ∃ credential ∈ credentials, call.1 = credential.integrationConnectionId ∧
      refreshedResponse service answers credential = some call.2 := by
  obtain ⟨credential, hreached, hcall⟩ := List.mem_filterMap.mp h
  obtain ⟨response, hresponse, rfl⟩ := Option.map_eq_some_iff.mp hcall
  refine ⟨credential, ?_, rfl, hresponse⟩
  clear h hcall hresponse
  induction credentials with
  | nil => cases hreached
  | cons first rest ih =>
    rw [reached] at hreached
    split at hreached
    · rw [List.mem_singleton.mp hreached]
      exact List.mem_cons_self
    · rcases List.mem_cons.mp hreached with rfl | hrest
      · exact List.mem_cons_self
      · exact List.mem_cons_of_mem _ (ih hrest)

/-- The loop over credentials of different connections. -/
theorem refreshListed_kept_iff {db : Database} {commits : Bool}
    (hnodup : (credentials.map ExpiringOAuthCredential.integrationConnectionId).Nodup) :
    TokensKept service.cipher (calls service answers credentials)
        (refreshListed service db answers commits credentials) ↔
      NothingLost service db answers commits credentials := by
  unfold refreshListed NothingLost
  cases hstops : credentials.any (stops service answers) with
  | true =>
    rw [foldlM_eq_none.mpr hstops, if_pos rfl]
    exact ⟨fun h => h.stored, fun h => ⟨h, fun _ h => (nomatch h)⟩⟩
  | false =>
    rw [if_neg (by simp)]
    cases hrun : credentials.foldlM (refreshCredential service answers) ⟨⟨db, false⟩, 0, 0⟩ with
    | none =>
      rw [foldlM_eq_none.mp hrun] at hstops
      cases hstops
    | some q =>
      have hran := ran_of_foldlM hrun
      have hcounted : q.refreshed = (calls service answers credentials).length ↔
          StoresAll service answers credentials := by
        rw [hran.refreshed, ← countedCalls_eq_iff hstops]
        simp
      have haborted : q.tx.aborted = credentials.any (failsStatement service answers) := by
        rw [hran.aborted, Bool.false_or]
      have hnone : (∀ credential ∈ credentials, failsStatement service answers credential = false)
          ↔ q.tx.aborted = false := by
        rw [haborted, List.any_eq_false]
        simp
      rw [hnone]
      simp only
      cases hcommit : !q.tx.aborted && commits with
      | true =>
        rw [Bool.and_eq_true, Bool.not_eq_true'] at hcommit
        constructor
        · intro hkept
          exact ⟨hcounted.mp (hkept.counted _ rfl), .inl hcommit⟩
        · rintro ⟨hall, -⟩
          refine ⟨fun call hcall => ?_, fun counts hcounts => ?_⟩
          · obtain ⟨credential, hmem, hid, hresponse⟩ := mem_calls hcall
            have hencrypts := hall.encrypted credential hmem (by rw [hresponse]; rfl)
            have hholds := hran.holds hcommit.1 hnodup credential hmem hencrypts _ hresponse
            rw [← hid] at hholds
            exact hholds
          · cases hcounts
            exact hcounted.mpr hall
      | false =>
        have hlost : ¬(q.tx.aborted = false ∧ commits = true) := by
          rintro ⟨h, rfl⟩
          rw [h] at hcommit
          cases hcommit
        constructor
        · intro hkept
          exact ⟨hcounted.mp (hkept.counted _ rfl), .inr hkept.stored⟩
        · rintro ⟨hall, hboth | hunchanged⟩
          · exact absurd hboth hlost
          · refine ⟨hunchanged, fun counts hcounts => ?_⟩
            cases hcounts
            exact hcounted.mpr hall

end Run
theorem nodup_listed {db : Database} {locked : IntegrationConnectionId → Bool} {now : DateTime}
    {minutesBeforeExpiry : Int} {providerKind : Option IntegrationProviderKind} {accepted : Bool}
    {credentials : List ExpiringOAuthCredential}
    (h : listed db locked now minutesBeforeExpiry providerKind accepted = some credentials) :
    (credentials.map ExpiringOAuthCredential.integrationConnectionId).Nodup := by
  unfold listed at h
  split at h
  · obtain ⟨bound, -, rfl⟩ := Option.map_eq_some_iff.mp h
    exact nodup_listExpiringCredentials
  · cases h

/-- Nothing else keeps the tokens: one failed statement or a late stop loses those of all. -/
theorem tokensKept_iff_nothingLost (service : Service) (db : Database)
    (locked : IntegrationConnectionId → Bool) (now : DateTime) (minutesBeforeExpiry : Int)
    (providerKind : Option IntegrationProviderKind) (accepted : Bool)
    (answers : IntegrationConnectionId → Answer) (commits : Bool) :
    let credentials :=
      (listed db locked now minutesBeforeExpiry providerKind accepted).getD []
    TokensKept service.cipher (calls service answers credentials)
        (refreshOauthTokens service db locked now minutesBeforeExpiry providerKind accepted answers
          commits) ↔
      NothingLost service db answers commits credentials := by
  unfold refreshOauthTokens
  cases hlisted : listed db locked now minutesBeforeExpiry providerKind accepted with
  | some credentials => exact refreshListed_kept_iff (nodup_listed hlisted)
  | none =>
    constructor
    · intro _
      exact ⟨⟨fun _ h => (nomatch h), fun _ h => (nomatch h)⟩, .inr fun _ h => (nomatch h)⟩
    · intro _
      exact ⟨fun _ h => (nomatch h), fun _ h => (nomatch h)⟩

instance (cipher : TokenCipher) (db : Database)
    (call : IntegrationConnectionId × OAuthTokenResponse) : Decidable (Holds cipher db call) :=
  inferInstanceAs (Decidable (∃ row ∈ _, _ ∧ _))

instance (cipher : TokenCipher) (calls : List (IntegrationConnectionId × OAuthTokenResponse))
    (ended : Ended) : Decidable (TokensKept cipher calls ended) :=
  decidable_of_iff
    ((∀ call ∈ calls, Holds cipher ended.db call) ∧ ∀ counts ∈ ended.counts, counts.1 = calls.length)
    ⟨fun ⟨stored, counted⟩ => ⟨stored, counted⟩, fun ⟨stored, counted⟩ => ⟨stored, counted⟩⟩

def latin1Service : Service := ⟨latin1Cipher, fun _ => true⟩

def expiredConnection (id : IntegrationConnectionId) : IntegrationConnectionRow where
  id
  userId := ⟨7⟩
  providerKind := .linear
  providerUserId := none
  status := .validated
  failureMessage := none
  notificationsSync := ⟨none, none, none, none, none, 0, none⟩
  tasksSync := ⟨none, none, none, none, none, 0, none⟩
  config := .linear true
  registeredOauthScopes := ["read"]

def expiredCredential (id : IntegrationConnectionId) : StoredOAuthCredential where
  integrationConnectionId := id
  encryptedAccessToken :=
    (encryptToken latin1Cipher (some zeroNonce) (asBytes id) "old access").getD []
  encryptedRefreshToken := encryptToken latin1Cipher (some zeroNonce) (asBytes id) "old refresh"
  accessTokenExpiresAt := some 0
  rawTokenResponse := .object []
  createdAt := 0
  updatedAt := 0

def twoExpired : Database where
  credentials := ⟨[expiredCredential ⟨1⟩, expiredCredential ⟨2⟩], by decide⟩
  connections := ⟨[expiredConnection ⟨1⟩, expiredConnection ⟨2⟩], by decide⟩

/-- The provider gives new tokens for the first connection and refuses the second. -/
def rotatedThenRefused (accepted crash : Bool) (id : IntegrationConnectionId) : Answer where
  http :=
    if id = ⟨1⟩ then
      .answered 200 "OK"
        { text := "\x7b\"access_token\":\"new access\",\"refresh_token\":\"new refresh\"\x7d"
          json := some (.object
            [("access_token", .string "new access"), ("refresh_token", .string "new refresh")])
          serdeError := "" }
    else
      .answered 400 "Bad Request"
        { text := "\x7b\"error\":\"invalid_grant\"\x7d"
          json := some (.object [("error", .string "invalid_grant")])
          serdeError := "" }
  accessNonce := some zeroNonce
  refreshNonce := some zeroNonce
  accepted := id = ⟨1⟩ || accepted
  crash := id ≠ ⟨1⟩ && crash
  now := 0

/-- The tokens of the first connection are lost with the second one's update, or as the process
stops there. -/
theorem rotatedToken_lost :
    let refresh := fun accepted crash =>
      refreshOauthTokens latin1Service twoExpired (fun _ => false) 0 5 none true
        (rotatedThenRefused accepted crash) true
    let kept := fun accepted crash =>
      TokensKept latin1Cipher
        (calls latin1Service (rotatedThenRefused accepted crash)
          ((listed twoExpired (fun _ => false) 0 5 none true).getD []))
        (refresh accepted crash)
    kept true false ∧ (refresh false false).counts = some (1, 1) ∧ ¬kept false false ∧
      ¬kept true true := by
  decide +kernel

end UniversalInbox.OAuthCredential.TokenRefresh
