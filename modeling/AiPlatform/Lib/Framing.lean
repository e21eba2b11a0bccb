import AiPlatform.Lib.Text
import Mathlib.Data.Set.Function

set_option autoImplicit false

/- Codes whose words show where they end, so that a word is told from whatever follows it. -/
namespace AiPlatform.Framing

variable {Letter Value : Type}

/-- Where the word of a value ends is plain from every text that begins with it. -/
def Delimited (values : Set Value) (word : Value → List Letter) : Prop :=
  ∀ first ∈ values, ∀ second ∈ values, ∀ rest other,
    word first ++ rest = word second ++ other → first = second ∧ rest = other

variable {values : Set Value} {word : Value → List Letter}

/-- A terminator that is in no text delimits the texts. -/
theorem Delimited.terminated {text : Value → List Letter} {terminator : Letter}
    (distinct : Set.InjOn text values) (free : ∀ value ∈ values, terminator ∉ text value) :
    Delimited values fun value => text value ++ [terminator] := by
  intro first member second member' rest other same
  simp only [List.append_assoc, List.singleton_append] at same
  have ⟨texts, rests⟩ := (Text.terminated_inj rest other (free first member)
    (free second member')).mp same
  exact ⟨distinct member member' texts, rests⟩

/-- So many words one after another. -/
theorem Delimited.words (delimited : Delimited values word) (count : Nat) :
    Delimited {list : List Value | list.length = count ∧ ∀ value ∈ list, value ∈ values}
      fun list => list.flatMap word := by
  intro first
  induction first generalizing count with
  | nil =>
      rintro ⟨rfl, -⟩ second ⟨none, -⟩ rest other same
      rw [List.eq_nil_of_length_eq_zero none] at same ⊢
      exact ⟨rfl, same⟩
  | cons value more ih =>
      rintro ⟨rfl, inside⟩ second ⟨count', inside'⟩ rest other same
      obtain ⟨here, later⟩ := List.forall_mem_cons.mp inside
      cases second with
      | nil => cases count'
      | cons value' more' =>
          obtain ⟨here', later'⟩ := List.forall_mem_cons.mp inside'
          simp only [List.flatMap_cons, List.append_assoc] at same
          have ⟨values, rests⟩ := delimited value here value' here' _ _ same
          have ⟨lists, tails⟩ := ih more.length ⟨rfl, later⟩ more'
            ⟨Nat.succ.inj count', later'⟩ rest other rests
          exact ⟨by rw [values, lists], tails⟩

/-- The whole determines a word and the tail after it. -/
theorem Delimited.whole_iff (delimited : Delimited values word) {first second : Value}
    (member : first ∈ values) (member' : second ∈ values) {tail tail' : List Letter} :
    word first ++ tail = word second ++ tail' ↔ first = second ∧ tail = tail' := by
  refine ⟨delimited first member second member' tail tail', ?_⟩
  rintro ⟨rfl, rfl⟩
  rfl

end AiPlatform.Framing
