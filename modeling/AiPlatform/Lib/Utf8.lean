import Mathlib.Data.List.Basic

set_option autoImplicit false

/- `bytes.decode("utf-8", errors="replace")`: what does not go on as a letter becomes one
replacement letter, up to the byte that breaks it off. -/
namespace AiPlatform.Utf8

/-- What the first byte of a letter says: its own bits, and the ranges of the bytes that follow.
Without it the byte begins no letter. -/
def lead (byte : Nat) : Option (Nat × List (Nat × Nat)) :=
  if byte < 0x80 then some (byte, [])
  else if 0xC2 ≤ byte ∧ byte ≤ 0xDF then some (byte % 32, [(0x80, 0xBF)])
  else if byte = 0xE0 then some (0, [(0xA0, 0xBF), (0x80, 0xBF)])
  else if byte = 0xED then some (13, [(0x80, 0x9F), (0x80, 0xBF)])
  else if 0xE1 ≤ byte ∧ byte ≤ 0xEF then some (byte % 16, [(0x80, 0xBF), (0x80, 0xBF)])
  else if byte = 0xF0 then some (0, [(0x90, 0xBF), (0x80, 0xBF), (0x80, 0xBF)])
  else if byte = 0xF4 then some (4, [(0x80, 0x8F), (0x80, 0xBF), (0x80, 0xBF)])
  else if 0xF1 ≤ byte ∧ byte ≤ 0xF3 then
    some (byte % 8, [(0x80, 0xBF), (0x80, 0xBF), (0x80, 0xBF)])
  else none

/-- Takes the bytes that follow; no code when one of them is missing or out of its range. -/
def follow : List (Nat × Nat) → Nat → List Nat → Option Nat × List Nat
  | [], code, rest => (some code, rest)
  | _ :: _, _, [] => (none, [])
  | (low, high) :: ranges, code, byte :: rest =>
      if low ≤ byte ∧ byte ≤ high then follow ranges (64 * code + byte % 64) rest
      else (none, byte :: rest)

def replacement : Char := '\uFFFD'

/-- The first `fuel` letters. -/
def decodeFrom : Nat → List Nat → List Char
  | 0, _ => []
  | _ + 1, [] => []
  | fuel + 1, byte :: rest =>
      match lead byte with
      | none => replacement :: decodeFrom fuel rest
      | some (bits, ranges) =>
          let (code, rest) := follow ranges bits rest
          (code.map Char.ofNat).getD replacement :: decodeFrom fuel rest

def decodeReplace (bytes : List Nat) : List Char := decodeFrom bytes.length bytes

theorem follow_length (ranges : List (Nat × Nat)) (code : Nat) (bytes : List Nat) :
    (follow ranges code bytes).2.length ≤ bytes.length := by
  induction ranges generalizing code bytes with
  | nil => exact Nat.le_refl _
  | cons range ranges ih =>
      cases bytes with
      | nil => exact Nat.le_refl _
      | cons byte rest =>
          rw [follow]
          split
          · have shorter := ih (64 * code + byte % 64) rest
            simp only [List.length_cons]
            omega
          · exact Nat.le_refl _

theorem decodeFrom_length (fuel : Nat) (bytes : List Nat) :
    (decodeFrom fuel bytes).length ≤ bytes.length := by
  induction fuel generalizing bytes with
  | zero => simp [decodeFrom]
  | succ fuel ih =>
      cases bytes with
      | nil => simp [decodeFrom]
      | cons byte rest =>
          rw [decodeFrom]
          split
          · simpa using ih rest
          · rename_i bits ranges _
            have left := follow_length ranges bits rest
            have more := ih (follow ranges bits rest).2
            simp only [List.length_cons]
            omega

/-- A letter takes at least one byte. -/
theorem decodeReplace_length (bytes : List Nat) :
    (decodeReplace bytes).length ≤ bytes.length := decodeFrom_length _ _

/-- An ASCII text is decoded as it is. -/
theorem decodeReplace_ascii {letters : List Char} (ascii : ∀ letter ∈ letters, letter.toNat < 128) :
    decodeReplace (letters.map Char.toNat) = letters := by
  unfold decodeReplace
  induction letters with
  | nil => rfl
  | cons letter rest ih =>
      obtain ⟨here, later⟩ := List.forall_mem_cons.mp ascii
      have single : lead letter.toNat = some (letter.toNat, []) := if_pos here
      rw [List.map_cons, List.length_cons, decodeFrom, single]
      simp only [follow, Option.map_some, Option.getD_some, Char.ofNat_toNat]
      rw [ih later]

/-- A letter of three bytes, one that breaks off and a stray byte. -/
example : decodeReplace [0xE2, 0x82, 0xAC, 0xE2, 0x82, 0x41, 0x80] =
    ['€', '\uFFFD', 'A', '\uFFFD'] := by decide

end AiPlatform.Utf8
