import Mathlib.Data.List.Infix
import Mathlib.Data.List.Basic

set_option autoImplicit false

/- Occurrences of a pattern, and its replacement in one pass from left to right. -/
namespace AiPlatform.Replace

section Places

variable {Letter : Type} {rest front tail : List Letter} {first : Letter}

/-- A text without some letter is a prefix of what stands before that letter. -/
theorem prefix_of_absent (absent : first ∉ rest) (start : rest <+: front ++ first :: tail) :
    rest <+: front := by
  induction front generalizing rest with
  | nil =>
      cases rest with
      | nil => exact List.prefix_rfl
      | cons letter rest =>
          obtain ⟨same, -⟩ := List.cons_prefix_cons.mp start
          simp [same] at absent
  | cons head front ih =>
      cases rest with
      | nil => exact List.nil_prefix
      | cons letter rest =>
          obtain ⟨same, start⟩ := List.cons_prefix_cons.mp start
          have later := ih (fun member => absent (List.mem_cons_of_mem _ member)) start
          exact List.cons_prefix_cons.mpr ⟨same, later⟩

theorem infix_of_absent (absent : first ∉ front) (inside : first :: rest <:+: front ++ tail) :
    first :: rest <:+: tail := by
  induction front with
  | nil => exact inside
  | cons head front ih =>
      rcases List.infix_cons_iff.mp inside with start | later
      · obtain ⟨same, -⟩ := List.cons_prefix_cons.mp start
        simp [same] at absent
      · exact ih (fun member => absent (List.mem_cons_of_mem _ member)) later

/-- A word does not cross a letter that it has not. -/
theorem infix_cut (absent : first ∉ rest) (inside : rest <:+: front ++ first :: tail) :
    rest <:+: front ∨ rest <:+: tail := by
  induction front with
  | nil =>
      rcases List.infix_cons_iff.mp inside with start | later
      · have start : rest <+: [] ++ first :: tail := start
        exact .inl (prefix_of_absent absent start).isInfix
      · exact .inr later
  | cons head front ih =>
      rcases List.infix_cons_iff.mp inside with start | later
      · have start : rest <+: (head :: front) ++ first :: tail := start
        exact .inl (prefix_of_absent absent start).isInfix
      · rcases ih later with before | after
        · exact .inl (List.infix_cons before)
        · exact .inr after

end Places

variable {Letter : Type} [DecidableEq Letter]

/-- `skip` letters belong to an occurrence that is replaced already. -/
def replaceFrom (old new : List Letter) : Nat → List Letter → List Letter
  | _, [] => []
  | skip + 1, _ :: rest => replaceFrom old new skip rest
  | 0, letter :: rest =>
      if old.isPrefixOf (letter :: rest) then new ++ replaceFrom old new (old.length - 1) rest
      else letter :: replaceFrom old new 0 rest

/-- `text.replace(old, new)` of a nonempty pattern. -/
def replaceAll (old new text : List Letter) : List Letter := replaceFrom old new 0 text

/-- At how many places of the text the pattern begins. -/
def occurrences (pattern : List Letter) : List Letter → Nat
  | [] => if pattern = [] then 1 else 0
  | letter :: rest =>
      (if pattern.isPrefixOf (letter :: rest) then 1 else 0) + occurrences pattern rest

section Occurrences

variable {pattern rest front tail : List Letter} {first : Letter}

theorem occurrences_zero_iff {text : List Letter} :
    occurrences pattern text = 0 ↔ ¬pattern <:+: text := by
  induction text with
  | nil => simp [occurrences]
  | cons letter text ih => simp [occurrences, List.infix_cons_iff, ih]

/-- A pattern that has its first letter only once does not cross a place with that letter. -/
theorem occurrences_append (once : first ∉ rest) :
    occurrences (first :: rest) (front ++ first :: tail) =
      occurrences (first :: rest) front + occurrences (first :: rest) (first :: tail) := by
  induction front with
  | nil => simp [occurrences]
  | cons head front ih =>
      have here : (first :: rest).isPrefixOf (head :: front ++ first :: tail) =
          (first :: rest).isPrefixOf (head :: front) := by
        rw [Bool.eq_iff_iff, List.isPrefixOf_iff_prefix, List.isPrefixOf_iff_prefix]
        constructor
        · intro start
          obtain ⟨same, start⟩ := List.cons_prefix_cons.mp start
          exact List.cons_prefix_cons.mpr ⟨same, prefix_of_absent once start⟩
        · exact fun start => start.trans (List.prefix_append _ _)
      rw [List.cons_append] at here ⊢
      unfold occurrences
      rw [here, ih, Nat.add_assoc]
      rfl

end Occurrences

section Replacement

variable {old new rest text word : List Letter} {first letter : Letter}

theorem not_mem_replaceFrom (fresh : letter ∉ new) (absent : letter ∉ text) (skip : Nat) :
    letter ∉ replaceFrom old new skip text := by
  induction text generalizing skip with
  | nil => simp [replaceFrom]
  | cons head text ih =>
      have ⟨other, later⟩ := List.ne_and_not_mem_of_not_mem_cons absent
      cases skip with
      | succ skip => exact ih later skip
      | zero =>
          unfold replaceFrom
          split
          · simp [fresh, ih later]
          · simp [other, ih later]

/-- A letter that is replaced by others is gone. -/
theorem not_mem_replaceAll_single (fresh : letter ∉ new) :
    letter ∉ replaceAll [letter] new text := by
  unfold replaceAll
  induction text with
  | nil => simp [replaceFrom]
  | cons head text ih =>
      unfold replaceFrom
      by_cases same : letter = head
      · rw [same] at fresh ih
        simp [same, fresh, ih]
      · simp [same, ih]

/-- A word without the pattern's first letter that the result begins with is one that the text
begins with. -/
theorem prefix_of_replaceAll (absent : first ∉ word)
    (start : word <+: replaceAll (first :: old) (first :: new) text) : word <+: text := by
  unfold replaceAll at start
  induction text generalizing word with
  | nil => exact start
  | cons head text ih =>
      cases word with
      | nil => exact List.nil_prefix
      | cons letter word =>
          have ⟨other, absent⟩ := List.ne_and_not_mem_of_not_mem_cons absent
          unfold replaceFrom at start
          split at start
          · obtain ⟨same, -⟩ := List.cons_prefix_cons.mp start
            exact absurd same.symm other
          · obtain ⟨same, start⟩ := List.cons_prefix_cons.mp start
            exact List.cons_prefix_cons.mpr ⟨same, ih absent start⟩

/-- No occurrence is left, nor made, when the pattern and what replaces it have their common first
letter once and differ after it. -/
theorem replaceAll_clean (once : first ∉ old) (once' : first ∉ new)
    (differ : ∀ tail, ¬old <+: new ++ tail) :
    ¬first :: old <:+: replaceAll (first :: old) (first :: new) text := by
  have clean : ∀ skip, ¬first :: old <:+: replaceFrom (first :: old) (first :: new) skip text := by
    induction text with
    | nil => simp [replaceFrom]
    | cons head text ih =>
        intro skip inside
        cases skip with
        | succ skip => exact ih skip inside
        | zero =>
            unfold replaceFrom at inside
            split at inside
            · rcases List.infix_cons_iff.mp inside with start | later
              · exact differ _ (List.cons_prefix_cons.mp start).2
              · exact ih _ (infix_of_absent once' later)
            · rename_i unmatched
              rcases List.infix_cons_iff.mp inside with start | later
              · obtain ⟨same, start⟩ := List.cons_prefix_cons.mp start
                have here : first :: old <+: head :: text :=
                  List.cons_prefix_cons.mpr ⟨same, prefix_of_replaceAll once start⟩
                exact unmatched (List.isPrefixOf_iff_prefix.mpr here)
              · exact ih 0 later
  exact clean 0

end Replacement

end AiPlatform.Replace
