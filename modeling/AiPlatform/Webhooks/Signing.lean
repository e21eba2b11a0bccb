import Std.Data.String.ToInt
import AiPlatform.Lib.Framing

set_option autoImplicit false

/- `WebhookSigner`. A signature is compared as text with the one expected, and `hmac.compare_digest`
takes texts of ASCII letters only. -/
namespace AiPlatform.Webhooks

open Framing (Delimited)

abbrev Bytes := List UInt8

/-- What the signer raises. -/
inductive Raised where
  | valueError (text : String)
  | typeError (text : String)
deriving DecidableEq

def digitLimit : Raised :=
  .valueError "Exceeds the limit (4300 digits) for integer string conversion"

def nonAscii : Raised :=
  .typeError "comparing strings with non-ASCII characters is not supported"

/-- `__init__` is the last two fields. -/
structure WebhookSigner where
  secret : String
  toleranceSeconds : Int := 300
  secretGiven : secret ≠ ""
  positiveTolerance : 0 < toleranceSeconds := by decide

/-- `hmac.compare_digest` of two texts. -/
def compareDigest (left right : String) : Except Raised Bool :=
  if Text.isAscii left && Text.isAscii right then .ok (decide (left = right)) else .error nonAscii

namespace WebhookSigner

section Definitions

variable (hmacSha256 : Bytes → Bytes → Bytes) (signer : WebhookSigner) (clock : Int)

/-- `_signed_payload`. -/
def signedPayload (payload : Bytes) (timestamp : Int) : Except Raised Bytes :=
  match Text.decimal timestamp with
  | none => .error digitLimit
  | some digits => .ok (Text.encode (digits ++ ".") ++ payload)

/-- `clock` is the reading of `int(time.time())`. -/
def sign (payload : Bytes) (timestamp : Option Int) : Except Raised String := do
  let timestamp := timestamp.getD clock
  let signed ← signedPayload payload timestamp
  let digest := Text.hex ((hmacSha256 (Text.encode signer.secret) signed).map UInt8.toNat)
  return "v1=" ++ digest

def verify (payload : Bytes) (signature : String) (timestamp : Int) (now : Option Int) :
    Except Raised Bool := do
  let now := now.getD clock
  if signer.toleranceSeconds < (now - timestamp).natAbs then return false
  let expected ← signer.sign hmacSha256 clock payload (some timestamp)
  compareDigest expected signature

/-- What `verify` is for: it answers, and says yes to the signature of a payload in time alone. -/
def Verifies (payload : Bytes) (signature : String) (timestamp now : Int) : Prop :=
  ∃ answer, signer.verify hmacSha256 clock payload signature timestamp (some now) = .ok answer ∧
    (answer = true ↔ (now - timestamp).natAbs ≤ signer.toleranceSeconds ∧
      signer.sign hmacSha256 clock payload (some timestamp) = .ok signature)

/-- `sign` gives the signature for the time stamp, or `verify` accepts it at some time. -/
def Valid (payload : Bytes) (signature : String) (timestamp : Int) : Prop :=
  ∃ clock, signer.sign hmacSha256 clock payload (some timestamp) = .ok signature ∨
    ∃ now, signer.verify hmacSha256 clock payload signature timestamp now = .ok true

end Definitions

variable {hmacSha256 : Bytes → Bytes → Bytes} {signer : WebhookSigner} {clock : Int}

/-- A time stamp that can be printed is signed with an ASCII text. -/
theorem sign_printable (hmacSha256 : Bytes → Bytes → Bytes) (signer : WebhookSigner) (clock : Int)
    {timestamp : Int} (printable : Text.Printable timestamp) (payload : Bytes) :
    ∃ signature, Text.isAscii signature = true ∧
      signer.sign hmacSha256 clock payload (some timestamp) = .ok signature := by
  let signed := Text.encode (toString timestamp ++ ".") ++ payload
  let digest := (hmacSha256 (Text.encode signer.secret) signed).map UInt8.toNat
  refine ⟨"v1=" ++ Text.hex digest, ?_, ?_⟩
  · rw [Text.isAscii_append, Text.hex_ascii (Text.octets_small _)]
    decide
  · simp only [sign, signedPayload, Option.getD_some, Text.decimal_printable printable]
    rfl

theorem sign_unprintable {timestamp : Int} (unprintable : ¬Text.Printable timestamp)
    (payload : Bytes) :
    signer.sign hmacSha256 clock payload (some timestamp) = .error digitLimit := by
  simp only [sign, signedPayload, Option.getD_some, Text.decimal_unprintable unprintable]
  rfl

theorem compareDigest_ascii {left right : String} (ascii : Text.isAscii left = true)
    (ascii' : Text.isAscii right = true) :
    compareDigest left right = .ok (decide (left = right)) := by
  simp [compareDigest, ascii, ascii']

theorem compareDigest_nonAscii {left right : String} (other : Text.isAscii right = false) :
    compareDigest left right = .error nonAscii := by
  simp [compareDigest, other]

/-- Out of tolerance nothing is signed or compared. -/
theorem verify_late {timestamp now : Int}
    (late : signer.toleranceSeconds < (now - timestamp).natAbs) (payload : Bytes)
    (signature : String) :
    signer.verify hmacSha256 clock payload signature timestamp (some now) = .ok false := by
  simp only [verify, Option.getD_some, if_pos late]
  rfl

theorem verify_within {timestamp now : Int}
    (within : (now - timestamp).natAbs ≤ signer.toleranceSeconds) (payload : Bytes)
    (signature : String) :
    signer.verify hmacSha256 clock payload signature timestamp (some now) =
      signer.sign hmacSha256 clock payload (some timestamp) >>= (compareDigest · signature) := by
  simp only [verify, Option.getD_some, if_neg (Int.not_lt.mpr within)]

/-- Signatures are checked exactly, and without an error, when the time stamp is out of tolerance,
or can be printed and comes with a signature that is ASCII. -/
theorem verify_exact_iff (payload : Bytes) (signature : String) (timestamp now : Int) :
    signer.Verifies hmacSha256 clock payload signature timestamp now ↔
      signer.toleranceSeconds < (now - timestamp).natAbs ∨
        (Text.Printable timestamp ∧ Text.isAscii signature = true) := by
  unfold Verifies
  by_cases late : signer.toleranceSeconds < (now - timestamp).natAbs
  · rw [verify_late late]
    refine ⟨fun _ => .inl late, fun _ => ⟨false, rfl, ?_⟩⟩
    exact iff_of_false nofun fun inside => Int.not_le.mpr late inside.1
  · have within : (now - timestamp).natAbs ≤ signer.toleranceSeconds := by omega
    rw [verify_within within]
    simp only [late, within, true_and, false_or]
    by_cases printable : Text.Printable timestamp
    · have ⟨expected, ascii, signed⟩ := sign_printable hmacSha256 signer clock printable payload
      rw [signed]
      show (∃ answer, compareDigest expected signature = .ok answer ∧ _) ↔ _
      cases plain : Text.isAscii signature with
      | true => simp [compareDigest_ascii ascii plain, printable]
      | false => simp [compareDigest_nonAscii plain]
    · rw [sign_unprintable printable]
      show (∃ answer, Except.error digitLimit = .ok answer ∧ _) ↔ _
      simp [printable]

/-- A signature with an accent is a `TypeError`. -/
theorem verify_nonAscii_raises :
    ¬∀ (hmacSha256 : Bytes → Bytes → Bytes) (signer : WebhookSigner) (clock : Int) (payload : Bytes)
      (signature : String) (timestamp now : Int),
        signer.Verifies hmacSha256 clock payload signature timestamp now := by
  intro verifies
  have exact := verifies (fun _ _ => []) ⟨"secret", 300, by decide, by decide⟩ 0 [] "v1=é"
    1700000000 1700000000
  obtain ⟨answer, answered, -⟩ := exact
  rw [verify_within (by decide)] at answered
  have printable : Text.Printable 1700000000 := by decide
  have ⟨expected, _, signed⟩ := sign_printable (fun _ _ => [])
    ⟨"secret", 300, by decide, by decide⟩ 0 printable []
  rw [signed] at answered
  have raised : (Except.ok expected >>= (compareDigest · "v1=é")) = .error nonAscii :=
    compareDigest_nonAscii (by decide)
  rw [raised] at answered
  cases answered

/-- A full stop ends a numeral. -/
theorem timestamps_delimited :
    Delimited Set.univ fun timestamp : Int => Text.encode (toString timestamp ++ ".") := by
  have words : (fun timestamp : Int => Text.encode (toString timestamp ++ ".")) =
      fun timestamp => Text.encode (toString timestamp) ++ [46] :=
    funext fun timestamp => Text.encode_append (toString timestamp) "."
  rw [words]
  refine .terminated ?_ ?_
  · exact fun _ _ _ _ same => Int.repr_inj.mp (Text.encode_injective same)
  · intro timestamp _ stop
    rcases Text.numeral_letters (Text.ascii_mem_encode (by decide) stop) with sign | digit
    · exact absurd sign (by decide)
    · exact absurd digit (by decide)

theorem signedPayload_ok {payload : Bytes} {timestamp : Int} {signed : Bytes}
    (given : signedPayload payload timestamp = .ok signed) :
    signed = Text.encode (toString timestamp ++ ".") ++ payload := by
  unfold signedPayload at given
  by_cases printable : Text.Printable timestamp
  · rw [Text.decimal_printable printable] at given
    exact (Except.ok.inj given).symm
  · rw [Text.decimal_unprintable printable] at given
    cases given

section Pairs

variable {payload payload' : Bytes} {timestamp timestamp' : Int}

/-- What is signed tells time stamp and payload. -/
theorem signedPayload_inj {signed : Bytes} (given : signedPayload payload timestamp = .ok signed)
    (given' : signedPayload payload' timestamp' = .ok signed) :
    timestamp = timestamp' ∧ payload = payload' := by
  have same := (signedPayload_ok given).symm.trans (signedPayload_ok given')
  exact (timestamps_delimited.whole_iff trivial trivial).mp same

/-- A signature that is accepted is the one that `sign` gives. -/
theorem verify_true {signature : String} {now : Option Int}
    (accepted : signer.verify hmacSha256 clock payload signature timestamp now = .ok true) :
    signer.sign hmacSha256 clock payload (some timestamp) = .ok signature := by
  unfold verify at accepted
  dsimp only at accepted
  split at accepted
  · cases accepted
  · cases signs : signer.sign hmacSha256 clock payload (some timestamp) with
    | error raised =>
        rw [signs] at accepted
        cases accepted
    | ok expected =>
        rw [signs] at accepted
        have compared : compareDigest expected signature = .ok true := accepted
        unfold compareDigest at compared
        split at compared
        · rw [of_decide_eq_true (Except.ok.inj compared)]
        · cases compared

theorem Valid.signed {signature : String}
    (valid : signer.Valid hmacSha256 payload signature timestamp) :
    ∃ signed, signedPayload payload timestamp = .ok signed ∧ signature =
      "v1=" ++ Text.hex ((hmacSha256 (Text.encode signer.secret) signed).map UInt8.toNat) := by
  obtain ⟨clock, signs⟩ : ∃ clock,
      signer.sign hmacSha256 clock payload (some timestamp) = .ok signature := by
    obtain ⟨clock, signs | ⟨now, accepted⟩⟩ := valid
    · exact ⟨clock, signs⟩
    · exact ⟨clock, verify_true accepted⟩
  unfold sign at signs
  dsimp only [Option.getD_some] at signs
  cases given : signedPayload payload timestamp with
  | error raised =>
      rw [given] at signs
      cases signs
  | ok signed =>
      rw [given] at signs
      exact ⟨signed, rfl, (Except.ok.inj signs).symm⟩

/-- Where the code has no collision, a signature is valid for one time stamp and one payload. -/
theorem Valid.unique {messages : Set Bytes}
    (collisionFree : Set.InjOn (hmacSha256 (Text.encode signer.secret)) messages)
    (covered : ∀ signed, signedPayload payload timestamp = .ok signed → signed ∈ messages)
    (covered' : ∀ signed, signedPayload payload' timestamp' = .ok signed → signed ∈ messages)
    {signature : String} (valid : signer.Valid hmacSha256 payload signature timestamp)
    (valid' : signer.Valid hmacSha256 payload' signature timestamp') :
    timestamp = timestamp' ∧ payload = payload' := by
  obtain ⟨signed, given, shape⟩ := valid.signed
  obtain ⟨signed', given', shape'⟩ := valid'.signed
  have texts := String.append_right_inj "v1=" |>.mp (shape.symm.trans shape')
  have codes := Text.hex_octets_inj.mp texts
  have same := collisionFree (covered signed given) (covered' signed' given') codes
  exact signedPayload_inj given (same ▸ given')

end Pairs

end WebhookSigner

end AiPlatform.Webhooks
