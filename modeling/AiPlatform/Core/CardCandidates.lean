import AiPlatform.Core.Redaction

set_option autoImplicit false

/- What `_CARD_CANDIDATE` matches: the longest group of 13 to 19 digits that starts at a digit. -/
namespace AiPlatform.Redaction

open Regex Pattern

variable {unicode : UnicodeData}

/-- Digits, with at most a space or a dash between two of them. -/
inductive Grouped (unicode : UnicodeData) : List Char → Prop
  | last {letter : Char} : unicode.isDecimal letter = true → Grouped unicode [letter]
  | next {letter : Char} {rest : List Char} :
      unicode.isDecimal letter = true → Grouped unicode rest → Grouped unicode (letter :: rest)
  | joined {letter joiner : Char} {rest : List Char} :
      unicode.isDecimal letter = true → isJoiner joiner = true → Grouped unicode rest →
      Grouped unicode (letter :: joiner :: rest)

/-- How many digits the text has. -/
def digits (unicode : UnicodeData) (text : List Char) : Nat :=
  (text.filter unicode.isDecimal).length

/-- Digits and what may join them. -/
def isInside (unicode : UnicodeData) (letter : Char) : Bool :=
  unicode.isDecimal letter || isJoiner letter

theorem isJoiner_decimal {letter : Char} (joins : isJoiner letter = true) :
    unicode.isDecimal letter = false := by
  rcases Bool.or_eq_true _ _ |>.mp joins with space | dash
  · rw [of_decide_eq_true space, unicode.asciiDecimal _ (by decide)]
    rfl
  · rw [of_decide_eq_true dash, unicode.asciiDecimal _ (by decide)]
    rfl

section Digits

variable {letter : Char} {rest : List Char}

theorem digits_decimal (decimal : unicode.isDecimal letter = true) :
    digits unicode (letter :: rest) = digits unicode rest + 1 := by
  unfold digits
  rw [List.filter_cons_of_pos decimal, List.length_cons]

theorem digits_joiner (joins : isJoiner letter = true) :
    digits unicode (letter :: rest) = digits unicode rest := by
  unfold digits
  rw [List.filter_cons_of_neg (by rw [isJoiner_decimal joins]; decide)]

end Digits

section Groups

variable {number : List Char}

theorem Grouped.starts (grouped : Grouped unicode number) :
    ∃ letter ∈ number.head?, unicode.isDecimal letter = true := by
  cases grouped with
  | last decimal => exact ⟨_, rfl, decimal⟩
  | next decimal _ => exact ⟨_, rfl, decimal⟩
  | joined decimal _ _ => exact ⟨_, rfl, decimal⟩

theorem last_cons {letter final : Char} {rest : List Char} (ended : final ∈ rest.getLast?) :
    final ∈ (letter :: rest).getLast? := by
  rw [List.getLast?_cons, ended]
  rfl

theorem Grouped.stops (grouped : Grouped unicode number) :
    ∃ letter ∈ number.getLast?, unicode.isDecimal letter = true := by
  induction grouped with
  | last decimal => exact ⟨_, rfl, decimal⟩
  | next _ _ ih =>
      have ⟨final, ended, decimal⟩ := ih
      exact ⟨final, last_cons ended, decimal⟩
  | joined _ _ _ ih =>
      have ⟨final, ended, decimal⟩ := ih
      exact ⟨final, last_cons (last_cons ended), decimal⟩

theorem Grouped.inside (grouped : Grouped unicode number) :
    ∀ letter ∈ number, isInside unicode letter = true := by
  have decimal_inside : ∀ {letter}, unicode.isDecimal letter = true →
      isInside unicode letter = true := by
    intro letter decimal
    rw [isInside, decimal, Bool.true_or]
  induction grouped with
  | last decimal => exact List.forall_mem_singleton.mpr (decimal_inside decimal)
  | next decimal _ ih => exact List.forall_mem_cons.mpr ⟨decimal_inside decimal, ih⟩
  | joined decimal joins _ ih =>
      refine List.forall_mem_cons.mpr ⟨decimal_inside decimal, List.forall_mem_cons.mpr ⟨?_, ih⟩⟩
      rw [isInside, joins, Bool.or_true]

theorem Grouped.nonempty (grouped : Grouped unicode number) : number ≠ [] := by
  cases grouped <;> exact List.cons_ne_nil _ _

theorem first_digit {letter joiner : Char} {rest early late : List Char}
    (decimal : unicode.isDecimal letter = true) (other : unicode.isDecimal joiner = false)
    (shape : letter :: rest = early ++ joiner :: late) :
    ∃ more, early = letter :: more ∧ rest = more ++ joiner :: late := by
  cases early with
  | nil =>
      injection shape with same _
      rw [same, other] at decimal
      cases decimal
  | cons head more =>
      injection shape with same tail
      exact ⟨more, by rw [same], tail⟩

/-- A joiner stands between two digits. -/
theorem Grouped.around (grouped : Grouped unicode number) {early late : List Char} {joiner : Char}
    (shape : number = early ++ joiner :: late) (other : unicode.isDecimal joiner = false) :
    (∃ letter ∈ early.getLast?, unicode.isDecimal letter = true) ∧
      ∃ letter ∈ late.head?, unicode.isDecimal letter = true := by
  induction grouped generalizing early with
  | last decimal =>
      have ⟨more, _, tail⟩ := first_digit decimal other shape
      cases more <;> cases tail
  | next decimal _ ih =>
      have ⟨more, first, tail⟩ := first_digit decimal other shape
      have ⟨⟨final, ended, marked⟩, after⟩ := ih tail
      rw [first]
      exact ⟨⟨final, last_cons ended, marked⟩, after⟩
  | joined decimal joins grouped ih =>
      have ⟨more, first, tail⟩ := first_digit decimal other shape
      rw [first]
      cases more with
      | nil =>
          injection tail with _ same
          rw [← same]
          exact ⟨⟨_, rfl, decimal⟩, grouped.starts⟩
      | cons head more =>
          injection tail with _ later
          have ⟨⟨final, ended, marked⟩, after⟩ := ih later
          exact ⟨⟨final, last_cons (last_cons ended), marked⟩, after⟩

end Groups

section Matches

variable {start stop : Place Char}

theorem cardDigit_iff : stop ∈ ends (cardDigit unicode) start ↔
    ∃ letter, unicode.isDecimal letter = true ∧ (Reads start stop [letter] ∨
      ∃ joiner, isJoiner joiner = true ∧ Reads start stop [joiner, letter]) := by
  unfold cardDigit
  rw [ends_seq, ends_optional]
  constructor
  · intro ⟨middle, early, late⟩
    have ⟨letter, decimal, reads⟩ := ends_test.mp late
    refine ⟨letter, decimal, ?_⟩
    rcases List.mem_append.mp early with joined | plain
    · have ⟨joiner, joins, first⟩ := ends_test.mp joined
      exact .inr ⟨joiner, joins, first.trans reads⟩
    · rw [List.mem_singleton.mp plain] at reads
      exact .inl reads
  · intro ⟨letter, decimal, reads⟩
    rcases reads with plain | ⟨joiner, joins, joined⟩
    · exact ⟨start, List.mem_append_right _ (List.mem_singleton_self _),
        ends_test.mpr ⟨letter, decimal, plain⟩⟩
    · have ⟨middle, first, second⟩ : ∃ middle, Reads start middle [joiner] ∧
        Reads middle stop [letter] := Reads.split joined
      exact ⟨middle, List.mem_append_left _ (ends_test.mpr ⟨joiner, joins, first⟩),
        ends_test.mpr ⟨letter, decimal, second⟩⟩

theorem cardDigit_single (unicode : UnicodeData) (start : Place Char) :
    ends (cardDigit unicode) start = [] ∨ ∃ stop, ends (cardDigit unicode) start = [stop] := by
  have parts : ends (cardDigit unicode) start =
      (ends (.test isJoiner) start).flatMap (ends (digit unicode)) ++
        ends (digit unicode) start := by
    show (ends (Pattern.optional (.test isJoiner)) start).flatMap (ends (digit unicode)) = _
    rw [ends_optional, List.flatMap_append, List.flatMap_singleton]
  rw [parts]
  rcases ends_test_single isJoiner start with none_ | ⟨middle, one⟩
  · rw [none_]
    exact ends_test_single unicode.isDecimal start
  · have ⟨joiner, joins, reads⟩ : ∃ joiner, isJoiner joiner = true ∧ Reads start middle [joiner] :=
      ends_test.mp (by rw [one]; exact List.mem_singleton_self _)
    have nothing : ends (digit unicode) start = [] := by
      rw [List.eq_nil_iff_forall_not_mem]
      intro stop found
      have ⟨letter, decimal, other⟩ := ends_test.mp found
      have same := reads.1.symm.trans other.1
      injection same with same _
      rw [← same, isJoiner_decimal joins] at decimal
      cases decimal
    rw [one, nothing, List.flatMap_singleton, List.append_nil]
    exact ends_test_single unicode.isDecimal middle

theorem cardDigit_takes : ∀ start, ∀ stop ∈ ends (cardDigit unicode) start,
    stop.after.length < start.after.length := by
  intro start stop found
  have ⟨letter, _, reads⟩ := cardDigit_iff.mp found
  rcases reads with plain | ⟨joiner, _, joined⟩
  · exact plain.shorter (List.cons_ne_nil _ _)
  · exact joined.shorter (List.cons_ne_nil _ _)

theorem chain_grouped {count : Nat} (chain : Chain (ends (cardDigit unicode)) count start stop) :
    ∃ text, Reads start stop text ∧ ∀ letter, unicode.isDecimal letter = true →
      Grouped unicode (letter :: text) ∧ digits unicode (letter :: text) = count + 1 := by
  induction chain with
  | done start =>
      refine ⟨[], .refl start, fun letter decimal => ⟨.last decimal, ?_⟩⟩
      rw [digits_decimal decimal]
      rfl
  | round one _ ih =>
      have ⟨head, decimal, reads⟩ := cardDigit_iff.mp one
      have ⟨rest, late, more⟩ := ih
      have ⟨grouped, total⟩ := more head decimal
      rcases reads with plain | ⟨joiner, joins, joined⟩
      · refine ⟨head :: rest, plain.trans late, fun letter first => ⟨.next first grouped, ?_⟩⟩
        rw [digits_decimal first, total]
      · refine ⟨joiner :: head :: rest, joined.trans late, fun letter first =>
          ⟨.joined first joins grouped, ?_⟩⟩
        rw [digits_decimal first, digits_joiner joins, total]

theorem Grouped.chain {number : List Char} (grouped : Grouped unicode number) :
    ∃ letter rest, number = letter :: rest ∧ unicode.isDecimal letter = true ∧
      ∀ start stop, Reads start stop rest →
        Chain (ends (cardDigit unicode)) (digits unicode rest) start stop := by
  induction grouped with
  | last decimal =>
      refine ⟨_, [], rfl, decimal, ?_⟩
      intro start stop reads
      rw [reads.same]
      exact .done start
  | next decimal _ ih =>
      have ⟨head, rest, same, first, chain⟩ := ih
      refine ⟨_, _, rfl, decimal, ?_⟩
      intro start stop reads
      rw [same] at reads ⊢
      have ⟨middle, one, others⟩ : ∃ middle, Reads start middle [head] ∧ Reads middle stop rest :=
        Reads.split reads
      rw [digits_decimal first]
      exact .round (cardDigit_iff.mpr ⟨head, first, .inl one⟩) (chain middle stop others)
  | joined decimal joins _ ih =>
      have ⟨head, rest, same, first, chain⟩ := ih
      refine ⟨_, _, rfl, decimal, ?_⟩
      intro start stop reads
      rw [same] at reads ⊢
      have ⟨middle, one, others⟩ : ∃ middle, Reads start middle [_, head] ∧
        Reads middle stop rest := Reads.split reads
      rw [digits_joiner joins, digits_decimal first]
      exact .round (cardDigit_iff.mpr ⟨head, first, .inr ⟨_, joins, one⟩⟩)
        (chain middle stop others)

/-- A match is a group of 13 to 19 digits with no digit right before or right after it. -/
theorem cardCandidate_iff : stop ∈ ends (cardCandidate unicode) start ↔
    ∃ text, Reads start stop text ∧ Grouped unicode text ∧ 13 ≤ digits unicode text ∧
      digits unicode text ≤ 19 ∧ start.before.head?.any unicode.isDecimal = false ∧
      stop.after.head?.any unicode.isDecimal = false := by
  unfold cardCandidate Pattern.sequence Pattern.sequence Pattern.sequence Pattern.sequence
  constructor
  · intro found
    have ⟨one, behind, rest⟩ := ends_seq.mp found
    have ⟨two, first, more⟩ := ends_seq.mp rest
    have ⟨three, others, ahead⟩ := ends_seq.mp more
    have ⟨begins, before⟩ := ends_notBehind.mp behind
    have ⟨letter, decimal, reads⟩ := ends_test.mp first
    have ⟨count, chain, least, most⟩ := rounds_iff.mp others
    have ⟨text, late, grouped⟩ := chain_grouped chain
    have ⟨same, after⟩ := ends_notAhead.mp ahead
    have ⟨whole, total⟩ := grouped letter decimal
    rw [begins] at reads
    have few : count ≤ 18 := most
    refine ⟨letter :: text, ?_, whole, by omega, by omega, before, ?_⟩
    · rw [same]
      exact reads.trans late
    · rw [same]
      exact after
  · intro ⟨text, reads, grouped, least, most, before, after⟩
    have ⟨letter, rest, same, decimal, chain⟩ := grouped.chain
    rw [same] at reads
    rw [same, digits_decimal decimal] at least most
    have ⟨middle, first, others⟩ : ∃ middle, Reads start middle [letter] ∧ Reads middle stop rest :=
      Reads.split reads
    refine ends_seq.mpr ⟨start, ends_notBehind.mpr ⟨rfl, before⟩, ?_⟩
    refine ends_seq.mpr ⟨middle, ends_test.mpr ⟨letter, decimal, first⟩, ?_⟩
    refine ends_seq.mpr ⟨stop, ?_, ends_notAhead.mpr ⟨rfl, after⟩⟩
    have few : digits unicode rest ≤ 18 := by omega
    exact rounds_iff.mpr ⟨_, chain middle stop others, by omega, few⟩

theorem cardCandidate_takes : ∀ start, ∀ stop ∈ ends (cardCandidate unicode) start,
    stop.after.length < start.after.length := by
  intro start stop found
  have ⟨text, reads, grouped, _⟩ := cardCandidate_iff.mp found
  exact reads.shorter grouped.nonempty

theorem cardCandidate_longest (unicode : UnicodeData) (start : Place Char) :
    Longest (ends (cardCandidate unicode) start) := by
  refine Longest.seq ?_ fun middle => Longest.seq (ends_test_single _ middle) fun rest =>
    Longest.notAhead ?_
  · unfold ends
    split
    · exact .inl rfl
    · exact .inr ⟨_, rfl⟩
  · exact (rounds_longest (cardDigit_single unicode) cardDigit_takes 12 _ rest).1

end Matches

section Texts

variable {before number after : List Char}

/-- A digit is joined to what stands here, by one space or dash. -/
def Joined (unicode : UnicodeData) (before after : List Char) : Prop :=
  (∃ early letter joiner, before = early ++ [letter, joiner] ∧ unicode.isDecimal letter = true ∧
    isJoiner joiner = true) ∨
  ∃ joiner letter late, after = joiner :: letter :: late ∧ isJoiner joiner = true ∧
    unicode.isDecimal letter = true

theorem inside_joiner {letter : Char} (inside : isInside unicode letter = true)
    (other : unicode.isDecimal letter = false) : isJoiner letter = true := by
  rw [isInside, other, Bool.false_or] at inside
  exact inside

/-- Only a joined digit makes a group longer at its end. -/
theorem Grouped.no_longer {matched rest : List Char} (grouped : Grouped unicode matched)
    (shape : matched ++ rest = number ++ after) (longer : rest.length ≤ after.length)
    (edge : Edge unicode.isDecimal before after) (alone : ¬ Joined unicode before after) :
    matched = number ∧ rest = after := by
  rcases List.append_eq_append_iff.mp shape with ⟨more, own, tail⟩ | ⟨more, own, tail⟩
  · have length := congrArg List.length tail
    rw [List.length_append] at length
    have nothing : more = [] := List.length_eq_zero_iff.mp (by omega)
    rw [nothing] at own tail
    exact ⟨by rw [own, List.append_nil], tail⟩
  · cases more with
    | nil => exact ⟨by rw [own, List.append_nil], tail.symm⟩
    | cons joiner late =>
        have other := edge.after joiner (by rw [tail]; rfl)
        have ⟨_, letter, head, decimal⟩ := grouped.around own other
        have joins := inside_joiner (grouped.inside joiner (by
          rw [own]
          exact List.mem_append_right _ List.mem_cons_self)) other
        have ⟨others, same⟩ := List.head?_eq_some_iff.mp head
        rw [same] at tail
        exact absurd (.inr ⟨joiner, letter, others ++ rest, tail, joins, decimal⟩) alone

/-- Only a joined digit makes a group start earlier. -/
theorem Grouped.no_earlier {first early late : List Char}
    (grouped : Grouped unicode (early ++ late))
    (begins : early ≠ []) (shape : before = first ++ early)
    (edge : Edge unicode.isDecimal before after) : Joined unicode before after := by
  rcases List.eq_nil_or_concat early with nothing | ⟨more, joiner, concat⟩
  · exact absurd nothing begins
  · rw [List.concat_eq_append] at concat
    have other := edge.before joiner (by rw [shape, concat]; simp)
    have split : early ++ late = more ++ joiner :: late := by rw [concat]; simp
    have ⟨⟨letter, final, decimal⟩, _⟩ := grouped.around split other
    have joins := inside_joiner (grouped.inside joiner (by
      rw [split]
      exact List.mem_append_right _ List.mem_cons_self)) other
    have ⟨others, same⟩ := List.getLast?_eq_some_iff.mp final
    refine .inl ⟨first ++ others, letter, joiner, ?_, decimal, joins⟩
    rw [shape, concat, same]
    simp

theorem any_false {banned : Char → Bool} {letter? : Option Char} :
    letter?.any banned = false ↔ ∀ letter ∈ letter?, banned letter = false := by
  cases letter? <;> simp

theorem edge_any {mark : Char → Bool} : Edge mark before after ↔
    before.reverse.head?.any mark = false ∧ after.head?.any mark = false := by
  rw [any_false, any_false, List.head?_reverse]
  exact ⟨fun edge => ⟨edge.before, edge.after⟩, fun ⟨behind, ahead⟩ => ⟨behind, ahead⟩⟩

/-- A match of the text, with what it stands between. -/
theorem match_grouped {text matched : List Char} {first last : List (Piece Char)}
    (shape : pieces (cardCandidate unicode) text = first ++ .found matched :: last) :
    Grouped unicode matched ∧ Edge unicode.isDecimal (source first) (source last) := by
  have found := List.mem_of_mem_head? (pieces_found shape).1
  have ⟨other, reads, grouped, _, _, behind, ahead⟩ := cardCandidate_iff.mp found
  have same : matched = other := List.append_cancel_right reads.1
  rw [same]
  exact ⟨grouped, edge_any.mpr ⟨behind, ahead⟩⟩

/-- A group with no digit joined to it is a match of its own. -/
theorem alone_found (grouped : Grouped unicode number) (least : 13 ≤ digits unicode number)
    (most : digits unicode number ≤ 19) (edge : Edge unicode.isDecimal before after)
    (alone : ¬ Joined unicode before after) :
    ∃ first last, pieces (cardCandidate unicode) (before ++ (number ++ after)) =
      first ++ .found number :: last ∧ source first = before ∧ source last = after := by
  have ⟨behind, ahead⟩ := edge_any.mp edge
  have here : (⟨number.reverse ++ before.reverse, after⟩ : Place Char) ∈
      ends (cardCandidate unicode) ⟨before.reverse, number ++ after⟩ :=
    cardCandidate_iff.mpr ⟨number, ⟨rfl, rfl⟩, grouped, least, most, behind, ahead⟩
  rcases split_source (pieces_source (cardCandidate unicode) (before ++ (number ++ after))) with
    ⟨first, rest, split, early, late⟩ | ⟨first, early, late, last, split, begins, _, left, _⟩
  · cases rest with
    | nil =>
        have nothing := List.append_eq_nil_iff.mp late.symm
        exact absurd nothing.1 grouped.nonempty
    | cons piece last =>
        cases piece with
        | kept letter =>
            have nothing := pieces_kept cardCandidate_takes split
            have place : letter :: source last = number ++ after := late
            rw [early, place] at nothing
            rw [nothing] at here
            cases here
        | found matched =>
            have place : matched ++ source last = number ++ after := late
            have head := (pieces_found split).1
            rw [early, place] at head
            have longer := (cardCandidate_longest unicode _).head head here
            have ⟨same, ending⟩ := (match_grouped split).1.no_longer place longer edge alone
            rw [same] at split
            exact ⟨first, last, split, early, ending⟩
  · exact absurd ((match_grouped split).1.no_earlier begins left edge) alone

end Texts

end AiPlatform.Redaction
