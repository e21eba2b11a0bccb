import AiPlatform.Lib.Replace

set_option autoImplicit false

/- The text of a match of the `knowledge_search` tool: a retrieved chunk between document tags. -/
namespace AiPlatform.Rag

open Replace

/-- `text.replace(old, new)`. -/
def replace (text old new : String) : String :=
  String.ofList (replaceAll old.toList new.toList text.toList)

/-- `_attr`. -/
def attr (value : String) : String :=
  replace (replace (replace value "&" "&amp;") "\x22" "&quot;") "<" "&lt;"

def openingTag (chunkId : String) : String :=
  "<document id=\x22" ++ attr chunkId ++ "\x22 source=\x22retrieved\x22>"

/-- A closing tag inside the content is neutralised. -/
def safe (content : String) : String := replace content "</document" "<\\/document"

/-- `_wrap_untrusted`. -/
def wrapUntrusted (chunkId content : String) : String :=
  openingTag chunkId ++ "\n" ++ safe content ++ "\n</document>"

def closing : List Char := "</document".toList

theorem closing_cons : closing = '<' :: '/' :: "document".toList := by decide

theorem attr_clean (value : String) : '\x22' ∉ (attr value).toList ∧ '<' ∉ (attr value).toList := by
  unfold attr replace
  simp only [String.toList_ofList]
  constructor
  · apply not_mem_replaceFrom (by decide)
    exact not_mem_replaceAll_single (by decide)
  · exact not_mem_replaceAll_single (by decide)

/-- Replaced fragments make no new closing tag with what stands next to them. -/
theorem safe_clean (content : String) : ¬closing <:+: (safe content).toList := by
  unfold safe replace
  rw [String.toList_ofList]
  apply replaceAll_clean (by decide) (by decide)
  intro tail start
  obtain ⟨same, -⟩ := List.cons_prefix_cons.mp start
  exact absurd same (by decide)

/-- The tag of a chunk holds one angle bracket that opens, its first letter. -/
theorem openingTag_head (chunkId : String) :
    ∃ rest, (openingTag chunkId).toList = '<' :: 'd' :: rest ∧ '<' ∉ rest := by
  refine ⟨"ocument id=\x22".toList ++ (attr chunkId).toList ++
    "\x22 source=\x22retrieved\x22>".toList, by simp [openingTag], ?_⟩
  have value := (attr_clean chunkId).2
  simp [value]

/-- Before the last line no closing tag begins. -/
theorem front_clean (chunkId content : String) :
    ¬closing <:+: (openingTag chunkId).toList ++ '\n' :: (safe content).toList ++ ['\n'] := by
  intro inside
  obtain ⟨rest, tag, clean⟩ := openingTag_head chunkId
  have broken : '\n' ∉ closing := by decide
  rw [List.append_assoc] at inside
  rcases infix_cut broken inside with within | after
  · rw [tag, closing_cons] at within
    rcases List.infix_cons_iff.mp within with start | later
    · obtain ⟨-, start⟩ := List.cons_prefix_cons.mp start
      obtain ⟨same, -⟩ := List.cons_prefix_cons.mp start
      exact absurd same (by decide)
    · have head : '<' ∉ 'd' :: rest := by simp [clean]
      rw [← List.append_nil ('d' :: rest)] at later
      have nothing := infix_of_absent head later
      simp at nothing
  · have after : closing <:+: (safe content).toList ++ '\n' :: [] := after
    rcases infix_cut broken after with within | nothing
    · exact safe_clean content within
    · exact absurd (List.infix_nil.mp nothing) (by decide)

theorem wrapUntrusted_toList (chunkId content : String) :
    (wrapUntrusted chunkId content).toList =
      ((openingTag chunkId).toList ++ '\n' :: (safe content).toList ++ ['\n']) ++
        '<' :: "/document>".toList := by
  simp [wrapUntrusted]

theorem occurrences_closing (front : List Char) :
    occurrences closing (front ++ '<' :: "/document>".toList) = occurrences closing front + 1 := by
  have once : '<' ∉ '/' :: "document".toList := by decide
  have last : occurrences closing ('<' :: "/document>".toList) = 1 := by decide
  rw [closing_cons] at last ⊢
  rw [occurrences_append once, last]

/-- Retrieved text cannot close its wrapper. -/
theorem wrapUntrusted_delimited (chunkId content : String) :
    ∃ inside, (wrapUntrusted chunkId content).toList =
        (openingTag chunkId).toList ++ inside ++ "\n</document>".toList ∧
      occurrences closing (wrapUntrusted chunkId content).toList = 1 ∧
      ¬closing <:+: inside ∧
      '\x22' ∉ (attr chunkId).toList ∧ '<' ∉ (attr chunkId).toList ∧
      ((wrapUntrusted chunkId content).toList.drop "<document id=\x22".length).takeWhile
        (· ≠ '\x22') = (attr chunkId).toList := by
  have ⟨quotes, brackets⟩ := attr_clean chunkId
  have front := front_clean chunkId content
  refine ⟨'\n' :: (safe content).toList, by simp [wrapUntrusted], ?_, ?_, quotes, brackets, ?_⟩
  · rw [wrapUntrusted_toList, occurrences_closing, occurrences_zero_iff.mpr front]
  · intro within
    apply front
    rw [List.append_assoc]
    exact (within.trans (List.prefix_append _ _).isInfix).trans (List.suffix_append _ _).isInfix
  · have shape : (wrapUntrusted chunkId content).toList =
        "<document id=\x22".toList ++ ((attr chunkId).toList ++ '\x22' ::
          (" source=\x22retrieved\x22>\n".toList ++ (safe content).toList ++
            "\n</document>".toList)) := by
      simp [wrapUntrusted, openingTag]
    rw [shape, ← String.length_toList, List.drop_left]
    have plain : ∀ letter ∈ (attr chunkId).toList, decide (letter ≠ '\x22') = true := by
      intro letter member
      exact decide_eq_true fun same => quotes (same ▸ member)
    rw [List.takeWhile_append_of_pos plain]
    simp

end AiPlatform.Rag
