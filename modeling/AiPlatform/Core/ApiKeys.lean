import AiPlatform.Lib.Text

set_option autoImplicit false

/- `parse_api_keys`: who the configured API keys authenticate as. -/
namespace AiPlatform.Identity

open Text

/-- One configured API key: who it authenticates as and the SHA-256 of the token. -/
structure ApiKey where
  subject : String
  scopes : List String
  digest : List Nat
deriving DecidableEq

def hexDigit (letter : Char) : Option Nat :=
  if '0' ≤ letter ∧ letter ≤ '9' then some (letter.toNat - '0'.toNat)
  else if 'a' ≤ letter ∧ letter ≤ 'f' then some (letter.toNat - 'a'.toNat + 10)
  else if 'A' ≤ letter ∧ letter ≤ 'F' then some (letter.toNat - 'A'.toNat + 10)
  else none

/-- `bytes.fromhex`, which skips ASCII whitespace between the bytes; `none` is the `ValueError`. -/
def fromHex : List Char → Option (List Nat)
  | [] => some []
  | top :: rest =>
      if top ∈ ['\t', '\n', '\x0b', '\x0c', '\r', ' '] then fromHex rest
      else
        match rest with
        | [] => none
        | bottom :: rest => do
            let high ← hexDigit top
            let low ← hexDigit bottom
            let bytes ← fromHex rest
            return (16 * high + low) :: bytes

def malformedEntry : String :=
  "AUTH_API_KEYS entries must look like " ++
    "'subject:scope|scope:sha256hex' (64 hex chars; scopes may be empty)"

/-- The body of the loop on a stripped entry. The error is the text of the `ValueError`. -/
def parseEntry (entry : String) : Except String ApiKey :=
  let fields := split entry ':'
  let subject := fields.headD ""
  let scopesPart := ":".intercalate (fields.drop 1).dropLast
  let digest := (fromHex (fields.getLastD "").toList).getD []
  if fields.length < 3 ∨ strip subject = "" ∨ digest.length ≠ 32 then .error malformedEntry
  else .ok ⟨strip subject, splitStripped scopesPart '|', digest⟩

def parseApiKeys (raw : String) : Except String (List ApiKey) :=
  (splitStripped raw ',').mapM parseEntry

/-- Whom a bearer token authenticates as: the subject of a configured key. -/
structure Principal where
  id : String
  subject : ∃ raw keys key, parseApiKeys raw = .ok keys ∧ key ∈ keys ∧ key.subject = id

theorem parseEntry_subject {entry : String} {key : ApiKey} (parsed : parseEntry entry = .ok key) :
    key.subject ≠ "" ∧ ∃ text, key.subject = strip text := by
  unfold parseEntry at parsed
  dsimp only at parsed
  split at parsed
  · cases parsed
  · rename_i wellFormed
    have same := Except.ok.inj parsed
    rw [← same]
    have filled : strip ((split entry ':').headD "") ≠ "" := fun empty =>
      wellFormed (.inr (.inl empty))
    exact ⟨filled, _, rfl⟩

/-- Every key that is read comes from an entry. -/
theorem parseApiKeys_entry {raw : String} {keys : List ApiKey}
    (parsed : parseApiKeys raw = .ok keys) {key : ApiKey} (found : key ∈ keys) :
    ∃ entry, parseEntry entry = .ok key := by
  unfold parseApiKeys at parsed
  generalize splitStripped raw ',' = entries at parsed
  induction entries generalizing keys with
  | nil =>
      rw [← Except.ok.inj parsed] at found
      cases found
  | cons entry rest ih =>
      rw [List.mapM_cons] at parsed
      cases first : parseEntry entry with
      | error text =>
          rw [first] at parsed
          cases parsed
      | ok head =>
          cases others : rest.mapM parseEntry with
          | error text =>
              rw [first, others] at parsed
              cases parsed
          | ok tail =>
              rw [first, others] at parsed
              rw [← Except.ok.inj parsed] at found
              rcases List.mem_cons.mp found with here | later
              · rw [here]
                exact ⟨entry, first⟩
              · exact ih later others

theorem parseApiKeys_subject {raw : String} {keys : List ApiKey}
    (parsed : parseApiKeys raw = .ok keys) {key : ApiKey} (found : key ∈ keys) :
    key.subject ≠ "" ∧ ∃ text, key.subject = strip text := by
  have ⟨_, read⟩ := parseApiKeys_entry parsed found
  exact parseEntry_subject read

theorem Principal.nonempty (principal : Principal) : principal.id ≠ "" := by
  have ⟨_, _, _, parsed, found, same⟩ := principal.subject
  rw [← same]
  exact (parseApiKeys_subject parsed found).1

theorem Principal.stripped (principal : Principal) : ∃ text, principal.id = strip text := by
  have ⟨_, _, _, parsed, found, same⟩ := principal.subject
  rw [← same]
  exact (parseApiKeys_subject parsed found).2

end AiPlatform.Identity
