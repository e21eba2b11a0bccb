import AiPlatform.Idempotency.Http
import AiPlatform.Lib.Framing

set_option autoImplicit false

/- `build_request_hash`, for any text as the method. -/
namespace AiPlatform.Idempotency

open Framing (Delimited)

/-- `hashlib.sha256()`, with the bytes that it was fed. -/
structure Hasher where
  fed : Bytes

def Hasher.update (hasher : Hasher) (bytes : Bytes) : Hasher := ⟨hasher.fed ++ bytes⟩

def Hasher.hexdigest (sha256 : Bytes → Bytes) (hasher : Hasher) : String :=
  Text.hex ((sha256 hasher.fed).map UInt8.toNat)

/-- The arguments of `build_request_hash`. -/
structure HashedRequest where
  method : String
  path : String
  body : Bytes
  principalId : String

section Definitions

variable (unicode : Text.UpperCase) (sha256 : Bytes → Bytes)

/-- The hasher when all has been fed. -/
def requestHasher (request : HashedRequest) : Hasher :=
  let hasher := [unicode.upper request.method, request.path, request.principalId].foldl
    (fun (hasher : Hasher) value => (hasher.update (Text.encode value)).update [0]) ⟨[]⟩
  hasher.update request.body

def buildRequestHash (request : HashedRequest) : String :=
  (requestHasher unicode request).hexdigest sha256

/-- No NUL is in the texts. -/
def HashedRequest.Framed (request : HashedRequest) : Prop :=
  ∀ text ∈ [request.method, request.path, request.principalId], Char.ofNat 0 ∉ text.toList

instance (request : HashedRequest) : Decidable request.Framed :=
  inferInstanceAs (Decidable (∀ _ ∈ _, _))

/-- The requests are the same but for the case of the method. -/
def Agree (first second : HashedRequest) : Prop :=
  unicode.upper first.method = unicode.upper second.method ∧ first.path = second.path ∧
    first.principalId = second.principalId ∧ first.body = second.body

end Definitions

variable {unicode : Text.UpperCase} {sha256 : Bytes → Bytes}

/-- The three texts of a request, as they are fed. -/
def HashedRequest.texts (unicode : Text.UpperCase) (request : HashedRequest) : List String :=
  [unicode.upper request.method, request.path, request.principalId]

theorem requestHasher_fed (request : HashedRequest) : (requestHasher unicode request).fed =
    ((request.texts unicode).flatMap fun text => Text.encode text ++ [0]) ++ request.body := by
  simp [requestHasher, HashedRequest.texts, Hasher.update]

theorem HashedRequest.Framed.texts {request : HashedRequest} (framed : request.Framed) :
    (request.texts unicode).length = 3 ∧
      ∀ text ∈ request.texts unicode, text ∈ {text : String | Char.ofNat 0 ∉ text.toList} := by
  obtain ⟨method, others⟩ := List.forall_mem_cons.mp framed
  exact ⟨rfl, List.forall_mem_cons.mpr ⟨unicode.nul request.method method, others⟩⟩

/-- A zero byte ends a text that has no NUL. -/
theorem texts_delimited :
    Delimited {text : String | Char.ofNat 0 ∉ text.toList} fun text => Text.encode text ++ [0] :=
  .terminated (fun _ _ _ _ same => Text.encode_injective same)
    fun _ clean zero => clean (Text.zero_mem_encode zero)

/-- What the hasher is fed tells the requests apart. -/
theorem requestHasher_inj {first second : HashedRequest} (framed : first.Framed)
    (framed' : second.Framed) :
    (requestHasher unicode first).fed = (requestHasher unicode second).fed ↔
      Agree unicode first second := by
  rw [requestHasher_fed, requestHasher_fed,
    (texts_delimited.words 3).whole_iff framed.texts framed'.texts]
  simp only [HashedRequest.texts, Agree, List.cons.injEq, and_true, and_assoc]

theorem Hasher.hexdigest_inj (first second : Hasher) :
    first.hexdigest sha256 = second.hexdigest sha256 ↔ sha256 first.fed = sha256 second.fed :=
  Text.hex_octets_inj

/-- Where the digest has no collision, neither has the request hash. -/
theorem buildRequestHash_inj {messages : Set Bytes} (collisionFree : Set.InjOn sha256 messages)
    {first second : HashedRequest} (framed : first.Framed) (framed' : second.Framed)
    (member : (requestHasher unicode first).fed ∈ messages)
    (member' : (requestHasher unicode second).fed ∈ messages) :
    buildRequestHash unicode sha256 first = buildRequestHash unicode sha256 second ↔
      Agree unicode first second := by
  unfold buildRequestHash
  rw [Hasher.hexdigest_inj, collisionFree.eq_iff member member', requestHasher_inj framed framed']

/-- What is fed for a request that comes over HTTP. -/
theorem requestHasher_method (unicode : Text.UpperCase) (method : Method)
    (path : String) (body : Bytes)
    (principalId : String) :
    (requestHasher unicode ⟨method.text, path, body, principalId⟩).fed =
      hashedBytes method path body principalId := by
  have ascii : method.text.toList.all (fun letter => letter.toNat < 128) = true := by
    refine List.all_eq_true.mpr fun letter member => ?_
    have visible := List.all_eq_true.mp method.visible letter member
    simp only [Bool.and_eq_true, decide_eq_true_eq] at visible ⊢
    omega
  rw [requestHasher_fed]
  unfold HashedRequest.texts hashedBytes Method.upper
  rw [unicode.ascii method.text ascii]

/-- What `check_or_store` gets is the request hash. -/
theorem requestCheck_hash (unicode : Text.UpperCase) {settings : Settings}
    {available : Bool} {request : Request}
    {principalId : String} {expiresAt : Int} {claimToken : String} {check : Check}
    (checked : requestCheck
      (fun bytes => Hasher.hexdigest sha256 ⟨bytes⟩) settings available request
      principalId expiresAt claimToken = .ok (some check)) :
    check.requestHash = buildRequestHash unicode sha256
      ⟨request.method.text, request.path, request.body, principalId⟩ := by
  rw [(requestCheck_some checked).2.2, ← requestHasher_method unicode]
  rfl

end AiPlatform.Idempotency
