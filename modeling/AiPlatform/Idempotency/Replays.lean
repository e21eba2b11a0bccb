import AiPlatform.Idempotency.Http
import AiPlatform.Idempotency.Responses

set_option autoImplicit false

/- Which requests a cached response is replayed to. A record keeps the hash of the request whose
token it carries, so its response goes to requests with the same hashed bytes and to no others. -/
namespace AiPlatform.Idempotency

open Machine

/-- No call that waits for its re-read carries the token. -/
def Idle (state : State) (token : String) : Prop :=
  ∀ waiting ∈ state.waiting.rows, waiting.check.claimToken ≠ token

/-- A claim was answered with the token. -/
def ClaimedBy (state : State) (check : Check) (token : String) : Prop :=
  ∃ now, .checked now check (.ok (.claim token)) ∈ state.history

/-- Every token belongs to one call, and the record that carries it has the hash of that call. -/
structure Attributed (state : State) : Prop where
  rows : ∀ record ∈ state.table.rows, ∀ token, record.claimToken = some token →
    token ∈ state.tokens ∧ Idle state token ∧
      ∀ check, ClaimedBy state check token → record.requestHash = check.requestHash
  claims : ∀ check token, ClaimedBy state check token → token ∈ state.tokens ∧ Idle state token
  waits : ∀ waiting ∈ state.waiting.rows, waiting.check.claimToken ∈ state.tokens
  apart : ∀ one ∈ state.waiting.rows, ∀ two ∈ state.waiting.rows,
    one.check.claimToken = two.check.claimToken → one = two

section Steps

variable {timeoutSeconds now : Int} {state next : State}

theorem ClaimedBy.of_append {events : List Event} {check : Check} {token : String}
    (history : next.history = state.history ++ events) (claimed : ClaimedBy next check token) :
    ClaimedBy state check token ∨ ∃ now, .checked now check (.ok (.claim token)) ∈ events := by
  have ⟨time, member⟩ := claimed
  rw [history] at member
  rcases List.mem_append.mp member with old | new
  · exact .inl ⟨time, old⟩
  · exact .inr ⟨time, new⟩

/-- A step that adds no claim, hands out no token, starts no call and changes no record's owner. -/
theorem Attributed.quiet (attributed : Attributed state) {events : List Event}
    (history : next.history = state.history ++ events)
    (none : ∀ now check token, .checked now check (.ok (.claim token)) ∉ events)
    (tokens : next.tokens = state.tokens)
    (fewer : ∀ waiting ∈ next.waiting.rows, waiting ∈ state.waiting.rows)
    (owners : ∀ record ∈ next.table.rows, ∃ old ∈ state.table.rows,
      record.claimToken = old.claimToken ∧ record.requestHash = old.requestHash) :
    Attributed next := by
  have claimed : ∀ check token, ClaimedBy next check token → ClaimedBy state check token := by
    intro check token answered
    rcases answered.of_append history with old | ⟨time, new⟩
    · exact old
    · exact absurd new (none time check token)
  have idle : ∀ token, Idle state token → Idle next token :=
    fun token free waiting member => free waiting (fewer waiting member)
  constructor
  · intro record member token own
    have ⟨old, before, same, hash⟩ := owners record member
    have ⟨drawn, free, hashes⟩ := attributed.rows old before token (same.symm.trans own)
    rw [tokens, hash]
    exact ⟨drawn, idle token free,
      fun check answered => hashes check (claimed check token answered)⟩
  · intro check token answered
    have ⟨drawn, free⟩ := attributed.claims check token (claimed check token answered)
    rw [tokens]
    exact ⟨drawn, idle token free⟩
  · intro waiting member
    rw [tokens]
    exact attributed.waits waiting (fewer waiting member)
  · intro one first two second
    exact attributed.apart one (fewer one first) two (fewer two second)

theorem Attributed.inserted (attributed : Attributed state) {check : Check} {table : KeyTable}
    {record : IdempotencyKey} (fresh : check.claimToken ∉ state.tokens)
    (claimed : Claimed check now record) (added : state.table.insert record = some table) :
    Attributed { state with
      table := table
      tokens := check.claimToken :: state.tokens
      history := state.history ++ [.checked now check (.ok (.claim check.claimToken))] } := by
  have free : Idle state check.claimToken := by
    intro waiting member same
    have drawn := attributed.waits waiting member
    rw [same] at drawn
    exact fresh drawn
  constructor
  · intro row member token own
    rw [(Table.insert_some.mp added).2] at member
    rcases List.mem_append.mp member with old | new
    · have ⟨drawn, idle, hashes⟩ := attributed.rows row old token own
      refine ⟨List.mem_cons_of_mem _ drawn, idle, fun other answered => ?_⟩
      rcases answered.of_append rfl with before | ⟨time, here⟩
      · exact hashes other before
      · cases List.mem_singleton.mp here
        exact absurd drawn fresh
    · rw [List.mem_singleton.mp new, claimed.claimToken] at own
      cases own
      refine ⟨List.mem_cons_self, free, fun other answered => ?_⟩
      rcases answered.of_append rfl with before | ⟨time, here⟩
      · exact absurd (attributed.claims other _ before).1 fresh
      · cases List.mem_singleton.mp here
        rw [List.mem_singleton.mp new]
        exact claimed.requestHash
  · intro other token answered
    rcases answered.of_append rfl with before | ⟨time, here⟩
    · have ⟨drawn, idle⟩ := attributed.claims other token before
      exact ⟨List.mem_cons_of_mem _ drawn, idle⟩
    · cases List.mem_singleton.mp here
      exact ⟨List.mem_cons_self, free⟩
  · intro waiting member
    exact List.mem_cons_of_mem _ (attributed.waits waiting member)
  · exact attributed.apart

theorem Attributed.waiting (attributed : Attributed state) {call : Nat} {check : Check}
    {waiting : Table Waiting.id} (fresh : check.claimToken ∉ state.tokens)
    (added : state.waiting.insert ⟨call, check⟩ = some waiting) :
    Attributed { state with waiting := waiting, tokens := check.claimToken :: state.tokens } := by
  have members : ∀ each ∈ waiting.rows, each ∈ state.waiting.rows ∨ each = ⟨call, check⟩ := by
    intro each member
    rw [(Table.insert_some.mp added).2] at member
    rcases List.mem_append.mp member with old | new
    · exact .inl old
    · exact .inr (List.mem_singleton.mp new)
  have idle : ∀ token ∈ state.tokens, Idle state token → ∀ each ∈ waiting.rows,
      each.check.claimToken ≠ token := by
    intro token drawn free each member
    rcases members each member with old | new
    · exact free each old
    · rw [new]
      intro same
      exact fresh (same ▸ drawn)
  constructor
  · intro record member token own
    have ⟨drawn, free, hashes⟩ := attributed.rows record member token own
    exact ⟨List.mem_cons_of_mem _ drawn, idle token drawn free, hashes⟩
  · intro other token answered
    have ⟨drawn, free⟩ := attributed.claims other token answered
    exact ⟨List.mem_cons_of_mem _ drawn, idle token drawn free⟩
  · intro each member
    rcases members each member with old | new
    · exact List.mem_cons_of_mem _ (attributed.waits each old)
    · rw [new]
      exact List.mem_cons_self
  · intro one first two second same
    have new : ∀ each ∈ state.waiting.rows, each.check.claimToken ≠ check.claimToken := by
      intro each old equal
      exact fresh (equal ▸ attributed.waits each old)
    rcases members one first with oldOne | newOne <;> rcases members two second with oldTwo | newTwo
    · exact attributed.apart one oldOne two oldTwo same
    · rw [newTwo] at same
      exact absurd same (new one oldOne)
    · rw [newOne] at same
      exact absurd same.symm (new two oldTwo)
    · rw [newOne, newTwo]

theorem Attributed.reclaimed (attributed : Attributed state) {call : Nat} {check : Check}
    (held : state.waiting.find call = some ⟨call, check⟩) :
    Attributed { state with
      table := state.table.modify check.index (fun record => resetExpiredRecord record check now)
        fun record => resetExpiredRecord_index record check now
      waiting := state.waiting.remove call
      history := state.history ++ [.checked now check (.ok (.claim check.claimToken))] } := by
  have own := (Table.find_some.mp held).1
  have busy : ∀ token, Idle state token → check.claimToken ≠ token := fun token free => free _ own
  have idle : ∀ token, Idle state token → ∀ each ∈ (state.waiting.remove call).rows,
      each.check.claimToken ≠ token :=
    fun token free each member => free each (Table.mem_remove.mp member).1
  have alone : ∀ each ∈ (state.waiting.remove call).rows,
      each.check.claimToken ≠ check.claimToken := by
    intro each member same
    have ⟨inside, other⟩ := Table.mem_remove.mp member
    rw [attributed.apart each inside _ own same] at other
    exact other rfl
  have drawn := attributed.waits _ own
  constructor
  · intro record member token carried
    dsimp only at member
    rw [Table.mem_modify] at member
    rcases member with ⟨old, _⟩ | ⟨old, _, same⟩
    · have ⟨before, free, hashes⟩ := attributed.rows record old token carried
      refine ⟨before, idle token free, fun other answered => ?_⟩
      rcases answered.of_append rfl with earlier | ⟨time, here⟩
      · exact hashes other earlier
      · cases List.mem_singleton.mp here
        exact absurd rfl (busy _ free)
    · rw [same] at carried ⊢
      cases carried
      refine ⟨drawn, alone, fun other answered => ?_⟩
      rcases answered.of_append rfl with earlier | ⟨time, here⟩
      · exact absurd rfl (busy _ (attributed.claims other _ earlier).2)
      · cases List.mem_singleton.mp here
        rfl
  · intro other token answered
    rcases answered.of_append rfl with earlier | ⟨time, here⟩
    · have ⟨before, free⟩ := attributed.claims other token earlier
      exact ⟨before, idle token free⟩
    · cases List.mem_singleton.mp here
      exact ⟨drawn, alone⟩
  · intro each member
    exact attributed.waits each (Table.mem_remove.mp member).1
  · intro one first two second
    exact attributed.apart one (Table.mem_remove.mp first).1 two (Table.mem_remove.mp second).1

theorem Effect.attributed {call : Call} (effect : Effect timeoutSeconds state now call next)
    (attributed : Attributed state) : Attributed next := by
  have rows : ∀ record ∈ state.table.rows, ∃ old ∈ state.table.rows,
      record.claimToken = old.claimToken ∧ record.requestHash = old.requestHash :=
    fun record member => ⟨record, member, rfl, rfl⟩
  cases effect with
  | inserted call check table record fresh own claimed added =>
      exact attributed.inserted fresh claimed added
  | waits call check waiting fresh present added => exact attributed.waiting fresh added
  | reclaimed call check record held found lapsed => exact attributed.reclaimed held
  | answered call check reply held reason =>
      refine attributed.quiet rfl ?_ rfl (fun each member => (Table.mem_remove.mp member).1) rows
      intro time other token member
      have same := List.mem_singleton.mp member
      rcases reason with ⟨vanished, _⟩ |
        ⟨_, _, _, ⟨conflict, _⟩ | ⟨_, ⟨_, _, _, cached⟩ | ⟨_, busy⟩⟩⟩
      · rw [vanished] at same
        cases same
      · rw [conflict] at same
        cases same
      · rw [cached] at same
        cases same
      · rw [busy] at same
        cases same
  | completed index claimToken statusCode body record storable found held =>
      refine attributed.quiet rfl ?_ rfl (fun _ member => member) ?_
      · intro time other token member
        cases List.mem_singleton.mp member
      · intro row member
        dsimp only at member
        rw [Table.mem_modify] at member
        rcases member with ⟨old, _⟩ | ⟨old, before, same⟩
        · exact rows row old
        · exact ⟨old, (Table.find_some.mp before).1, by rw [same]; rfl, by rw [same]; rfl⟩
  | refused index claimToken statusCode body unfit => exact attributed
  | fenced index claimToken statusCode body storable free =>
      refine attributed.quiet rfl ?_ rfl (fun _ member => member) rows
      intro time other token member
      cases List.mem_singleton.mp member
  | selected before limit expired past chosen =>
      exact attributed.quiet (List.append_nil _).symm (fun _ _ _ => List.not_mem_nil) rfl
        (fun _ member => member) rows
  | rejected before limit expired invalid => exact attributed
  | rolledBack expired pending =>
      exact attributed.quiet (List.append_nil _).symm (fun _ _ _ => List.not_mem_nil) rfl
        (fun _ member => member) rows
  | deleted expired pending =>
      refine attributed.quiet (List.append_nil _).symm (fun _ _ _ => List.not_mem_nil) rfl
        (fun _ member => member) ?_
      intro record member
      exact rows record (Table.mem_erase.mp member).1

end Steps

theorem init_attributed (start : Int) (legacy : KeyTable) : Attributed (.init start legacy) := by
  constructor
  · intro record member token own
    have ⟨old, _, same⟩ := List.mem_map.mp member
    rw [← same] at own
    cases own
  · intro check token ⟨now, member⟩
    exact absurd member List.not_mem_nil
  · intro waiting member
    exact absurd member List.not_mem_nil
  · intro one member
    exact absurd member List.not_mem_nil

theorem run_attributed {timeoutSeconds start : Int} {legacy : KeyTable} {actions : List Action}
    {state : State}
    (reached : run (step timeoutSeconds) (.init start legacy) actions = some state) :
    Attributed state := by
  apply run_invariant_always Attributed _ (init_attributed start legacy) reached
  intro before action after attributed stepped
  apply (step_effect stepped).2.attributed
  exact ⟨attributed.rows, attributed.claims, attributed.waits, attributed.apart⟩

section Requests

variable {sha256 : Bytes → String} {settings : Settings} {timeoutSeconds clock now : Int}
variable {others : KeyTable → KeyTable} {table : KeyTable} {record : IdempotencyKey}
  {content : Json}

/-- What a call is told while a completed record under its key is there at both its statements. -/
theorem checkOrStore_completed {check : Check} (before : table.find check.index = some record)
    (reread : (others table).find check.index = some record)
    (completed : record.status = .completed)
    (stored : record.responseBody = some content) (running : now < record.expiresAt) :
    checkOrStore timeoutSeconds clock now others check table =
      (if record.requestHash = check.requestHash then
        .ok (.cached (replayedStatus record.responseStatusCode) content)
      else .error keyConflict, others table) := by
  have taken : tryInsert clock check table = none := by
    apply Table.insert_none.mpr
    intro missing
    have absent : table.find check.index = none := missing
    rw [before] at absent
    cases absent
  have live := not_reclaimable_of_completed timeoutSeconds completed running
  unfold checkOrStore resolveConflict
  rw [taken]
  simp only [reread, live, completed, stored, Bool.false_eq_true, if_false]
  by_cases same : record.requestHash = check.requestHash
  · rw [if_neg (not_not.mpr same), if_pos same]
  · rw [if_pos same, if_neg same]

theorem replayOrStart_completed {request : Request} {principalId : String} {expiresAt : Int}
    {claimToken : String} {check : Check}
    (checked : requestCheck sha256 settings true request principalId expiresAt claimToken =
      .ok (some check))
    (before : table.find check.index = some record)
    (reread : (others table).find check.index = some record)
      (completed : record.status = .completed)
    (stored : record.responseBody = some content) (running : now < record.expiresAt) :
    replayOrStartIdempotentRequest sha256 settings
      (some (checkOrStore timeoutSeconds clock now others)) request principalId expiresAt claimToken
      table =
      (if record.requestHash = check.requestHash then
        .ok (some (.replay (replayedStatus record.responseStatusCode) content))
      else .error keyConflict, others table) := by
  unfold replayOrStartIdempotentRequest
  rw [Option.isSome_some, checked]
  dsimp only
  rw [checkOrStore_completed before reread completed stored running]
  by_cases same : record.requestHash = check.requestHash
  · rw [if_pos same, if_pos same]
    rfl
  · rw [if_neg same, if_neg same]
    rfl

end Requests

/-- A request with the key of an earlier one gets the cached response exactly when method, path and
body are the same, and else the conflict: for every run of calls in which the earlier request
claimed the key and whatever other transactions do while its record is completed and has not
expired. -/
theorem replayed_for_same_request (sha256 : Bytes → String) (free : Function.Injective sha256)
    (settings : Settings) (timeoutSeconds start : Int) (legacy : KeyTable) (actions : List Action)
    (state : State)
    (reached : run (step timeoutSeconds) (.init start legacy) actions = some state)
    (principalId : String) (first second : Request) (framed : first.Framed)
    (framed' : second.Framed) (expiresAt expiresAt' : Int) (token token' : String)
    (check check' : Check)
    (sent : requestCheck sha256 settings true first principalId expiresAt token = .ok (some check))
    (again : requestCheck sha256 settings true second principalId expiresAt' token' =
      .ok (some check'))
    (sameKey : check'.key = check.key) (claimed : ClaimedBy state check token)
    (record : IdempotencyKey) (found : state.table.find check.index = some record)
    (own : record.claimToken = some token) (completed : record.status = .completed) (content : Json)
    (stored : record.responseBody = some content) (clock now : Int)
    (running : now < record.expiresAt) (others : KeyTable → KeyTable)
    (kept : (others state.table).find check.index = some record) :
    replayOrStartIdempotentRequest sha256 settings
      (some (checkOrStore timeoutSeconds clock now others)) second principalId expiresAt' token'
      state.table =
      (if SameRequest first second then
        .ok (some (.replay (replayedStatus record.responseStatusCode) content))
      else .error keyConflict, others state.table) := by
  have ⟨principal, _, hash⟩ := requestCheck_some sent
  have ⟨principal', _, hash'⟩ := requestCheck_some again
  have index : check'.index = check.index := by
    unfold Check.index
    rw [principal, principal', sameKey]
  have held := (run_attributed reached).rows record (Table.find_some.mp found).1 token own
  have hashed : record.requestHash = check.requestHash := held.2.2 check claimed
  have same : record.requestHash = check'.requestHash ↔ SameRequest first second := by
    rw [hashed, hash, hash', free.eq_iff]
    exact hashedBytes_inj framed framed'
  rw [replayOrStart_completed again (index ▸ found) (index ▸ kept) completed stored running]
  by_cases equal : SameRequest first second
  · rw [if_pos (same.mpr equal), if_pos equal]
  · rw [if_neg fun hashes => equal (same.mp hashes), if_neg equal]

/-- Bytes as letters, a digest without collisions. -/
def plainDigest (bytes : Bytes) : String :=
  String.ofList (bytes.map fun byte => Char.ofNat byte.toNat)

theorem plainDigest_injective : Function.Injective plainDigest := by
  intro first second same
  have letters := String.ofList_injective same
  apply List.map_injective_iff.mpr _ letters
  intro left right equal
  have codes : ∀ byte : UInt8, (Char.ofNat byte.toNat).toNat = byte.toNat := by
    intro byte
    have small := byte.toNat_lt
    have valid : byte.toNat.isValidChar := .inl (by omega)
    unfold Char.ofNat
    rw [dif_pos valid]
    rfl
  have values := congrArg Char.toNat equal
  rw [codes, codes] at values
  exact UInt8.toNat_inj.mp values

/-- One job is requested, and its response stored. -/
def jobRequest (query : String) : Request where
  method := ⟨"POST", by decide⟩
  path := "/jobs"
  query := query
  header := some "k"
  body := []

def jobCheck (expiresAt : Int) (claimToken : String) : Check where
  principalId := "p"
  key := "k"
  requestHash := plainDigest (hashedBytes (jobRequest "").method "/jobs" [] "p")
  expiresAt := expiresAt
  claimToken := claimToken

theorem jobRequest_check (query : String) (expiresAt : Int) (claimToken : String) :
    requestCheck plainDigest ⟨true, 64⟩ true (jobRequest query) "p" expiresAt claimToken =
      .ok (some (jobCheck expiresAt claimToken)) := by
  have stripped : Text.strip "k" = "k" := by decide +kernel
  unfold requestCheck getIdempotencyKey jobRequest
  simp only [stripped]
  rfl

def finishedJob : List Action :=
  [⟨0, .begin 1 (jobCheck 100000000 "c1")⟩, ⟨1000000, .store ("p", "k") "c1" 201 (.obj [])⟩]

/-- The same request for the second time. -/
def repeatedJob (query : String) (table : KeyTable) : Except AppError (Option Started) × KeyTable :=
  replayOrStartIdempotentRequest plainDigest ⟨true, 64⟩
    (some (checkOrStore 600 2000000 3000000 id)) (jobRequest query) "p" 103000000 "c2" table

theorem replayed_for_same_request_job :
    (run (step 600) (.init 0 .empty) finishedJob).map
        (fun state => (repeatedJob "" state.table).1) =
      some (.ok (some (.replay 201 (.obj [])))) := by
  have told := replayed_for_same_request plainDigest plainDigest_injective ⟨true, 64⟩ 600 0 .empty
    finishedJob _ rfl "p" (jobRequest "") (jobRequest "") (by decide) (by decide)
      100000000 103000000
    "c1" "c2" _ _ (jobRequest_check "" 100000000 "c1") (jobRequest_check "" 103000000 "c2") rfl
    ⟨0, List.mem_cons_self⟩ _ rfl rfl rfl (.obj []) rfl 2000000 3000000 (by decide) id rfl
  rw [if_pos (by decide)] at told
  exact congrArg (fun answer => some answer.1) told

/-- The cached response of a dry run is replayed to the run itself. -/
theorem replayed_for_other_query :
    ¬∀ (sha256 : Bytes → String), Function.Injective sha256 →
      ∀ (settings : Settings) (timeoutSeconds start : Int) (legacy : KeyTable)
        (actions : List Action) (state : State),
      run (step timeoutSeconds) (.init start legacy) actions = some state →
      ∀ (principalId : String) (first second : Request) (expiresAt expiresAt' : Int)
        (token token' : String) (check check' : Check),
      requestCheck sha256 settings true first principalId expiresAt token = .ok (some check) →
      requestCheck sha256 settings true second principalId expiresAt' token' = .ok (some check') →
      check'.key = check.key → ClaimedBy state check token →
      ∀ (record : IdempotencyKey), state.table.find check.index = some record →
      record.claimToken = some token → record.status = .completed →
      ∀ (content : Json), record.responseBody = some content →
      ∀ (clock now : Int), now < record.expiresAt →
      ∀ (others : KeyTable → KeyTable), (others state.table).find check.index = some record →
      (∃ statusCode body after, replayOrStartIdempotentRequest sha256 settings
        (some (checkOrStore timeoutSeconds clock now others)) second principalId expiresAt' token'
        state.table = (.ok (some (.replay statusCode body)), after)) →
      SameRequest first second ∧ first.query = second.query := by
  intro replayed
  have same := replayed plainDigest plainDigest_injective ⟨true, 64⟩ 600 0 .empty finishedJob _ rfl
    "p" (jobRequest "dry_run=1") (jobRequest "") 100000000 103000000 "c1" "c2" _ _
    (jobRequest_check "dry_run=1" 100000000 "c1") (jobRequest_check "" 103000000 "c2") rfl
    ⟨0, List.mem_cons_self⟩ _ rfl rfl rfl (.obj []) rfl 2000000 3000000 (by decide) id rfl
    ⟨_, _, _, (replayOrStart_completed (jobRequest_check "" 103000000 "c2") rfl rfl rfl rfl
      (by decide)).trans (congrArg (fun reply => (reply, _)) (if_pos rfl))⟩
  exact absurd same.2 (by decide)

end AiPlatform.Idempotency
