import AiPlatform.Idempotency.Calls
import AiPlatform.Lib.Text

set_option autoImplicit false

/- `replay_or_start_idempotent_request`. The request hash covers the method, the path, the principal
and the body, each but the last ended by a zero byte. The query string has no part in it. -/
namespace AiPlatform.Idempotency

abbrev Bytes := List UInt8

/-- A method is made of visible ASCII letters. -/
structure Method where
  text : String
  visible : text.toList.all (fun letter => 33 ≤ letter.toNat && letter.toNat < 127) = true

/-- `method.upper()`. -/
def Method.upper (method : Method) : String := String.ofList (method.text.toList.map Char.toUpper)

/-- `path` and `query` are those of `request.url`, and `header` the `Idempotency-Key`. -/
structure Request where
  method : Method
  path : String
  query : String := ""
  header : Option String
  body : Bytes

structure Settings where
  idempotencyEnabled : Bool := false
  idempotencyKeyMaxLength : Nat := 64

def blankKey : AppError := ⟨"invalid_idempotency_key", "Idempotency-Key must not be blank", 400⟩

def longKey (maxLength : Nat) : AppError :=
  ⟨"invalid_idempotency_key",
    "Idempotency-Key is too long (max " ++ toString maxLength ++ " characters)", 400⟩

def disabled : AppError := ⟨"idempotency_disabled", "Idempotency is disabled", 503⟩

def unavailable : AppError := ⟨"idempotency_unavailable", "Idempotency store is unavailable", 503⟩

/-- A response to return as it is, or `IdempotentCall`. -/
inductive Started where
  | replay (statusCode : Int) (content : Json)
  | call (key principalId claimToken : String)

def getIdempotencyKey (settings : Settings) (request : Request) :
    Except AppError (Option String) :=
  match request.header with
  | none => .ok none
  | some rawValue =>
      let idempotencyKey := Text.strip rawValue
      if idempotencyKey = "" then .error blankKey
      else if settings.idempotencyKeyMaxLength < idempotencyKey.length then
        .error (longKey settings.idempotencyKeyMaxLength)
      else .ok (some idempotencyKey)

/-- What `build_request_hash` feeds its hasher. -/
def hashedBytes (method : Method) (path : String) (body : Bytes) (principalId : String) : Bytes :=
  ([method.upper, path, principalId].flatMap fun value => Text.encode value ++ [0]) ++ body

/-- The arguments of `check_or_store`, with the token that the call draws; `none` without a key. -/
def requestCheck (sha256 : Bytes → String) (settings : Settings) (available : Bool)
    (request : Request) (principalId : String) (expiresAt : Int) (claimToken : String) :
    Except AppError (Option Check) := do
  match ← getIdempotencyKey settings request with
  | none => return none
  | some key =>
      if settings.idempotencyEnabled = false then .error disabled
      if available = false then .error unavailable
      return some {
        principalId := principalId
        key := key
        requestHash := sha256 (hashedBytes request.method request.path request.body principalId)
        expiresAt := expiresAt
        claimToken := claimToken }

/-- `match outcome`. -/
def started (check : Check) : Reply → Started
  | .cached statusCode body => .replay statusCode body
  | .claim token => .call check.key check.principalId token

/-- The function, on a store that its resources may hold. -/
def replayOrStartIdempotentRequest {σ : Type} (sha256 : Bytes → String) (settings : Settings)
    (store : Option (Check → σ → Except AppError Reply × σ)) (request : Request)
    (principalId : String) (expiresAt : Int) (claimToken : String) (state : σ) :
    Except AppError (Option Started) × σ :=
  match requestCheck sha256 settings store.isSome request principalId expiresAt
    claimToken, store with
  | .error error, _ => (.error error, state)
  | .ok (some check), some checkOrStore =>
      let (outcome, after) := checkOrStore check state
      (outcome.map fun reply => some (started check reply), after)
  | .ok _, _ => (.ok none, state)

/-- `check_or_store` whole: its insert, what other transactions do to the table, and its re-read. -/
def checkOrStore (timeoutSeconds clock now : Int) (others : KeyTable → KeyTable) (check : Check)
    (table : KeyTable) : Except AppError Reply × KeyTable :=
  match tryInsert clock check table with
  | some inserted => (.ok (.claim check.claimToken), inserted)
  | none => resolveConflict now timeoutSeconds check (others table)

/-- The requests agree on all that the hash covers but the principal. -/
def SameRequest (first second : Request) : Prop :=
  first.method.upper = second.method.upper ∧ first.path = second.path ∧ first.body = second.body

instance (first second : Request) : Decidable (SameRequest first second) :=
  inferInstanceAs (Decidable (_ ∧ _ ∧ _))

/-- The path has no letter that ends a part of the hashed bytes. -/
def Request.Framed (request : Request) : Prop := Char.ofNat 0 ∉ request.path.toList

instance (request : Request) : Decidable request.Framed := inferInstanceAs (Decidable (¬_))

theorem Method.upper_framed (method : Method) : 0 ∉ Text.encode method.upper := by
  intro zero
  have member := Text.zero_mem_encode zero
  unfold Method.upper at member
  rw [String.toList_ofList] at member
  have ⟨letter, inside, nul⟩ := List.mem_map.mp member
  have visible := List.all_eq_true.mp method.visible letter inside
  rw [Text.toUpper_nul nul] at visible
  cases visible

/-- For one principal the hashed bytes tell requests apart. -/
theorem hashedBytes_inj {first second : Request} {principalId : String}
    (framed : first.Framed) (framed' : second.Framed) :
    hashedBytes first.method first.path first.body principalId =
      hashedBytes second.method second.path second.body principalId ↔ SameRequest first second := by
  unfold hashedBytes SameRequest
  simp only [List.flatMap_cons, List.flatMap_nil, List.append_assoc, List.append_nil,
    List.cons_append, List.nil_append]
  rw [Text.terminated_inj _ _ first.method.upper_framed second.method.upper_framed,
    Text.terminated_inj _ _ (fun zero => framed (Text.zero_mem_encode zero))
      fun zero => framed' (Text.zero_mem_encode zero)]
  simp only [true_and, List.append_cancel_left_eq, List.cons.injEq, Text.encode_injective.eq_iff]

theorem requestCheck_some {sha256 : Bytes → String} {settings : Settings} {available : Bool}
    {request : Request} {principalId : String} {expiresAt : Int} {claimToken : String}
    {check : Check}
      (checked : requestCheck sha256 settings available request principalId expiresAt claimToken =
      .ok (some check)) :
    check.principalId = principalId ∧ check.claimToken = claimToken ∧
      check.requestHash =
        sha256 (hashedBytes request.method request.path request.body principalId) := by
  unfold requestCheck at checked
  cases key : getIdempotencyKey settings request with
  | error error =>
      rw [key] at checked
      cases checked
  | ok found =>
      rw [key] at checked
      cases found with
      | none => cases checked
      | some name =>
          cases enabled : settings.idempotencyEnabled with
          | false =>
              rw [enabled] at checked
              cases checked
          | true =>
              rw [enabled] at checked
              cases available with
              | false => cases checked
              | true =>
                  have same := Option.some.inj (Except.ok.inj checked)
                  rw [← same]
                  exact ⟨rfl, rfl, rfl⟩

end AiPlatform.Idempotency
