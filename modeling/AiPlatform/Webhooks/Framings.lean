import AiPlatform.Idempotency.RequestHash
import AiPlatform.Webhooks.Signing

set_option autoImplicit false

/- What the request hash and the webhook signature are computed from tells all of its parts. A
digest is taken to have no collision among the messages that it is given. -/
namespace AiPlatform.Webhooks

open Idempotency (Agree HashedRequest buildRequestHash buildRequestHash_inj requestHasher
  requestHasher_inj)
open WebhookSigner (signedPayload signedPayload_inj)

/-- No two requests have one request hash, and no signature is valid for two pairs of a time stamp
and a payload. -/
theorem framings_injective (unicode : Text.UpperCase) (signer : WebhookSigner) :
    (∀ first second : HashedRequest, first.Framed → second.Framed →
      ((requestHasher unicode first).fed = (requestHasher unicode second).fed ↔
        Agree unicode first second)) ∧
    (∀ (payload payload' : Bytes) (timestamp timestamp' : Int) (signed : Bytes),
      signedPayload payload timestamp = .ok signed →
      signedPayload payload' timestamp' = .ok signed →
      timestamp = timestamp' ∧ payload = payload') ∧
    (∀ (sha256 : Bytes → Bytes) (messages : Set Bytes), Set.InjOn sha256 messages →
      ∀ first second : HashedRequest, first.Framed → second.Framed →
        (requestHasher unicode first).fed ∈ messages →
        (requestHasher unicode second).fed ∈ messages →
        (buildRequestHash unicode sha256 first = buildRequestHash unicode sha256 second ↔
          Agree unicode first second)) ∧
    ∀ (hmacSha256 : Bytes → Bytes → Bytes) (messages : Set Bytes),
      Set.InjOn (hmacSha256 (Text.encode signer.secret)) messages →
      ∀ (payload payload' : Bytes) (timestamp timestamp' : Int) (signature : String),
        (∀ signed, signedPayload payload timestamp = .ok signed → signed ∈ messages) →
        (∀ signed, signedPayload payload' timestamp' = .ok signed → signed ∈ messages) →
        signer.Valid hmacSha256 payload signature timestamp →
        signer.Valid hmacSha256 payload' signature timestamp' →
        timestamp = timestamp' ∧ payload = payload' := by
  refine ⟨?_, ?_, ?_, ?_⟩
  · intro first second framed framed'
    exact requestHasher_inj framed framed'
  · intro payload payload' timestamp timestamp' signed given given'
    exact signedPayload_inj given given'
  · intro sha256 messages collisionFree first second framed framed' member member'
    exact buildRequestHash_inj collisionFree framed framed' member member'
  · intro hmacSha256 messages collisionFree payload payload' timestamp timestamp' signature covered
      covered' valid valid'
    exact valid.unique collisionFree covered covered' valid'

/-- The 32 bytes of a digest. -/
def octets (digest : Nat) : Bytes :=
  (List.range 32).reverse.map fun place => UInt8.ofNat (digest / 256 ^ place)

def asciiUpper : Text.UpperCase where
  upper text := String.ofList (text.toList.map Char.toUpper)
  ascii _ _ := rfl
  nul text clean inside := by
    rw [String.toList_ofList] at inside
    obtain ⟨letter, member, upper⟩ := List.mem_map.mp inside
    exact clean (Text.toUpper_nul upper ▸ member)

def emptyObject : Bytes := Text.encode "\x7b\x7d"

def jobRequest (principalId : String) : HashedRequest where
  method := "post"
  path := "/jobs"
  body := emptyObject
  principalId := principalId

def jobMessage (principalId : String) : Bytes :=
  (requestHasher asciiUpper (jobRequest principalId)).fed

/-- SHA-256 of what is hashed for the jobs of two users. -/
def jobDigest (message : Bytes) : Bytes :=
  if message = jobMessage "user-a" then
    octets 0xb2e14525de6cb8fcf06de3aaa265177a3fb39b121a83e5ccac515e5f4332f559
  else if message = jobMessage "user-b" then
    octets 0x1e607a77e80e476ef671070f019c69514d18ccd386565bf201843613cd93fc14
  else []

def secretSigner : WebhookSigner where
  secret := "secret"
  secretGiven := by decide

def signedObject (timestamp : Int) : Bytes := Text.encode (toString timestamp ++ ".") ++ emptyObject

/-- HMAC-SHA256, with the key of `secretSigner`, of an object that is signed at a time and before
the epoch. -/
def objectCode (_ message : Bytes) : Bytes :=
  if message = signedObject 1700000000 then
    octets 0xb8569b78799ff9e3cbff0fc2d63a33a2b57f3282abd07c37ae5e8e7d79a5f163
  else if message = signedObject (-1700000000) then
    octets 0x0f328983febf0a821934d91d0daa6d189721925a887e20763a8793cc4d654d56
  else []

/-- The jobs of two users have two hashes, and a signature of the one time is none of the other. -/
theorem framings_injective_job :
    buildRequestHash asciiUpper jobDigest (jobRequest "user-a") ≠
      buildRequestHash asciiUpper jobDigest (jobRequest "user-b") ∧
    ∃ signature, secretSigner.Valid objectCode emptyObject signature 1700000000 ∧
      ¬secretSigner.Valid objectCode emptyObject signature (-1700000000) := by
  obtain ⟨-, -, hashes, codes⟩ := framings_injective asciiUpper secretSigner
  constructor
  · intro same
    have digests : jobDigest (jobMessage "user-a") ≠ jobDigest (jobMessage "user-b") := by
      decide +kernel
    have collisionFree : Set.InjOn jobDigest {jobMessage "user-a", jobMessage "user-b"} :=
      Set.injOn_pair.mpr fun collision => absurd collision digests
    have agree := (hashes jobDigest _ collisionFree (jobRequest "user-a") (jobRequest "user-b")
      (by decide) (by decide) (.inl rfl) (.inr rfl)).mp same
    exact absurd agree.2.2.1 (by decide)
  · have signed : secretSigner.sign objectCode 0 emptyObject (some 1700000000) =
        .ok "v1=b8569b78799ff9e3cbff0fc2d63a33a2b57f3282abd07c37ae5e8e7d79a5f163" := by
      decide +kernel
    refine ⟨_, ⟨0, .inl signed⟩, fun valid => ?_⟩
    have digests : objectCode (Text.encode "secret") (signedObject 1700000000) ≠
        objectCode (Text.encode "secret") (signedObject (-1700000000)) := by
      decide +kernel
    have collisionFree : Set.InjOn (objectCode (Text.encode "secret"))
        {signedObject 1700000000, signedObject (-1700000000)} :=
      Set.injOn_pair.mpr fun collision => absurd collision digests
    have same := codes objectCode _ collisionFree emptyObject emptyObject 1700000000
      (-1700000000) _ (fun _ given => .inl (WebhookSigner.signedPayload_ok given))
      (fun _ given => .inr (WebhookSigner.signedPayload_ok given)) ⟨0, .inl signed⟩ valid
    exact absurd same.1 (by decide)

end AiPlatform.Webhooks
