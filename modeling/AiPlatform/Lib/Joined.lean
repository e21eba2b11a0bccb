import AiPlatform.Lib.Text

set_option autoImplicit false

/- Texts joined at a one-letter mark, and what cutting and stripping make of them. -/
namespace AiPlatform.Text

variable {mark : String} {separator : Char}

theorem intercalate_split (letter : mark.toList = [separator]) (text : String) :
    mark.intercalate (split text separator) = text := by
  apply String.toList_inj.mp
  rw [String.toList_intercalate, letter, split, List.map_map]
  simp [List.intercalate_splitOn]

/-- Parts without the mark are found again. -/
theorem split_intercalate (letter : mark.toList = [separator]) {parts : List String}
    (free : ∀ part ∈ parts, separator ∉ part.toList) (some : parts ≠ []) :
    split (mark.intercalate parts) separator = parts := by
  rw [split, String.toList_intercalate, letter, List.splitOn_intercalate]
  · simp [List.map_map]
  · intro part member
    obtain ⟨text, inside, rfl⟩ := List.mem_map.mp member
    exact free text inside
  · simpa using some

theorem splitStripped_intercalate (letter : mark.toList = [separator]) {parts : List String}
    (free : ∀ part ∈ parts, separator ∉ part.toList) :
    splitStripped (mark.intercalate parts) separator =
      (parts.map strip).filter fun part => part ≠ "" := by
  cases parts with
  | nil => rfl
  | cons part rest =>
      rw [splitStripped, split_intercalate letter free (List.cons_ne_nil _ _)]

theorem not_mem_intercalate {letter : Char} (other : letter ∉ mark.toList) {parts : List String}
    (free : ∀ part ∈ parts, letter ∉ part.toList) : letter ∉ (mark.intercalate parts).toList := by
  induction parts with
  | nil => simp
  | cons part rest ih =>
      obtain ⟨here, later⟩ := List.forall_mem_cons.mp free
      cases rest with
      | nil => simpa using here
      | cons next rest =>
          rw [String.intercalate_cons_cons]
          have onward := ih later
          simp only [String.toList_append, List.mem_append, not_or]
          exact ⟨⟨here, other⟩, onward⟩

/-- Whitespace around a text makes no difference to what is left of it. -/
theorem strip_padded {before after : List Char} (leading : ∀ letter ∈ before, isSpace letter = true)
    (trailing : ∀ letter ∈ after, isSpace letter = true) (text : String) :
    strip (String.ofList (before ++ text.toList ++ after)) = strip text := by
  have ends : ∀ letters : List Char,
      (letters ++ after).rdropWhile isSpace = letters.rdropWhile isSpace := by
    intro letters
    have reversed : ∀ letter ∈ after.reverse, isSpace letter = true :=
      fun letter member => trailing letter (List.mem_reverse.mp member)
    rw [List.rdropWhile, List.reverse_append, List.dropWhile_append_of_pos reversed,
      List.rdropWhile]
  unfold strip
  rw [String.toList_ofList, List.append_assoc, List.dropWhile_append_of_pos leading,
    List.dropWhile_append]
  split
  · rename_i blank
    rw [List.isEmpty_iff.mp blank, List.dropWhile_eq_nil_iff.mpr trailing]
  · rw [ends]

/-- A stripped text does not begin with whitespace. -/
theorem strip_first (text : String) {letter : Char}
    (first : (strip text).toList.head? = some letter) : isSpace letter = false := by
  rw [strip, String.toList_ofList] at first
  obtain ⟨rest, whole⟩ := List.rdropWhile_prefix isSpace (text.toList.dropWhile isSpace)
  have start := List.head?_dropWhile_not isSpace text.toList
  rw [← whole, List.head?_append, first] at start
  simpa using start

/-- A text that has letters other than whitespace at both ends is stripped already. -/
theorem strip_of_ends {text : String}
    (first : ∀ letter ∈ text.toList.head?, isSpace letter = false)
    (last : ∀ letter ∈ text.toList.getLast?, isSpace letter = false) : strip text = text := by
  have start : text.toList.dropWhile isSpace = text.toList := by
    cases letters : text.toList with
    | nil => rfl
    | cons letter rest =>
        rw [letters] at first
        simp [first letter rfl]
  have stop : text.toList.rdropWhile isSpace = text.toList := by
    apply List.rdropWhile_eq_self_iff.mpr
    intro filled
    simp [last _ (List.getLast?_eq_some_getLast filled)]
  rw [strip, start, stop, String.ofList_toList]

theorem strip_idem (text : String) : strip (strip text) = strip text := stripOf_idem isSpace text

end AiPlatform.Text
