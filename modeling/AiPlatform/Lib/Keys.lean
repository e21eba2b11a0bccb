import Mathlib.Data.List.Basic
import Std.Data.String.ToInt

set_option autoImplicit false

/- Composed key texts. A numeral has no colon, so the last colon of a key separates its parts. -/
namespace AiPlatform.Keys

theorem append_cons_inj {Letter : Type} {separator : Letter} {left right base other : List Letter}
    (leftClean : separator ∉ left) (rightClean : separator ∉ right)
    (same : base ++ separator :: left = other ++ separator :: right) :
    base = other ∧ left = right := by
  rcases List.append_eq_append_iff.mp same with ⟨middle, shape, rest⟩ | ⟨middle, shape, rest⟩
  · cases middle with
    | nil =>
        rw [List.append_nil] at shape
        exact ⟨shape.symm, (List.cons.inj rest).2⟩
    | cons head tail =>
        refine absurd ?_ leftClean
        rw [(List.cons.inj rest).2]
        simp
  · cases middle with
    | nil =>
        rw [List.append_nil] at shape
        exact ⟨shape, (List.cons.inj rest).2.symm⟩
    | cons head tail =>
        refine absurd ?_ rightClean
        rw [(List.cons.inj rest).2]
        simp

theorem natural_clean (number : Nat) : ':' ∉ number.repr.toList := by
  intro member
  rw [Nat.toList_repr] at member
  have digit := Nat.isDigit_of_mem_toDigits (by decide) (by decide) member
  exact absurd digit (by decide)

theorem numeral_clean (number : Int) : ':' ∉ number.repr.toList := by
  cases number with
  | ofNat size => exact natural_clean size
  | negSucc size =>
      have rest := natural_clean size.succ
      simp only [Int.repr, String.toList_append, List.mem_append, not_or]
      exact ⟨by decide, rest⟩

/-- A key that ends in a numeral determines the numeral and what it follows. -/
theorem numbered_inj {base other : String} {left right : Int}
    (same : base ++ ":" ++ left.repr = other ++ ":" ++ right.repr) :
    base = other ∧ left = right := by
  have letters := congrArg String.toList same
  simp only [String.toList_append, List.append_assoc] at letters
  have parts := append_cons_inj (numeral_clean left) (numeral_clean right) letters
  exact ⟨String.toList_injective parts.1, Int.repr_inj.mp (String.toList_injective parts.2)⟩

end AiPlatform.Keys
