import Mathlib.Data.List.Basic

set_option autoImplicit false

/- Backtracking patterns, and the left-to-right replacement of their matches. A pattern has its ends
in the order in which a backtracking search tries them, so that its match is the first one. -/
namespace AiPlatform.Regex

variable {α : Type}

/-- A place in a text: what is before it, nearest first, and what is to come. -/
structure Place (α : Type) where
  before : List α
  after : List α

inductive Pattern (α : Type) where
  | test (allowed : α → Bool)
  | seq (first second : Pattern α)
  | alt (first second : Pattern α)
  | rep (body : Pattern α) (least : Nat) (most : Option Nat)
  | notBehind (banned : α → Bool)
  | notAhead (banned : α → Bool)
  | boundary (word : α → Bool)

namespace Pattern

def optional (body : Pattern α) : Pattern α := .rep body 0 (some 1)

/-- One or more. -/
def some_ (body : Pattern α) : Pattern α := .rep body 1 none

def exactly (count : Nat) (body : Pattern α) : Pattern α := .rep body count (some count)

def sequence : Pattern α → List (Pattern α) → Pattern α
  | first, [] => first
  | first, second :: rest => .seq first (sequence second rest)

end Pattern

/-- Greedy rounds: as many as there can be first. -/
def rounds (body : Place α → List (Place α)) : Nat → Nat → Place α → List (Place α)
  | least, 0, start => if least = 0 then [start] else []
  | least, most + 1, start =>
      (body start).flatMap (rounds body (least - 1) most) ++ if least = 0 then [start] else []

/-- Where the pattern can end. A round that is not counted takes a letter, so there are no more of
them than letters to come. -/
def ends : Pattern α → Place α → List (Place α)
  | .test allowed, start =>
      match start.after with
      | [] => []
      | letter :: rest => if allowed letter then [⟨letter :: start.before, rest⟩] else []
  | .seq first second, start => (ends first start).flatMap (ends second)
  | .alt first second, start => ends first start ++ ends second start
  | .rep body least most, start =>
      rounds (ends body) least (most.getD start.after.length) start
  | .notBehind banned, start => if start.before.head?.any banned then [] else [start]
  | .notAhead banned, start => if start.after.head?.any banned then [] else [start]
  | .boundary word, start =>
      if start.before.head?.any word = start.after.head?.any word then [] else [start]

/-- A letter that is in no match, or a match. -/
inductive Piece (α : Type) where
  | kept (letter : α)
  | found (text : List α)

def Piece.source : Piece α → List α
  | .kept letter => [letter]
  | .found text => text

def Piece.result (replace : List α → List α) : Piece α → List α
  | .kept letter => [letter]
  | .found text => replace text

def source (pieces : List (Piece α)) : List α := pieces.flatMap Piece.source

def result (replace : List α → List α) (pieces : List (Piece α)) : List α :=
  pieces.flatMap (Piece.result replace)

/-- The matches of a pattern that takes a letter, each after the one before it, and the letters
between them; `fuel` is the number of letters to come. -/
def scan (pattern : Pattern α) : Nat → Place α → List (Piece α)
  | 0, _ => []
  | fuel + 1, start =>
      match start.after with
      | [] => []
      | letter :: rest =>
          match (ends pattern start).head? with
          | none => .kept letter :: scan pattern fuel ⟨letter :: start.before, rest⟩
          | some stop =>
              if stop.after.length ≤ rest.length then
                .found (start.after.take (start.after.length - stop.after.length)) ::
                  scan pattern fuel stop
              else .kept letter :: scan pattern fuel ⟨letter :: start.before, rest⟩

def pieces (pattern : Pattern α) (text : List α) : List (Piece α) :=
  scan pattern text.length ⟨[], text⟩

def sub (pattern : Pattern α) (replace : List α → List α) (text : List α) : List α :=
  result replace (pieces pattern text)

/-- The text between two places. -/
def Reads (start stop : Place α) (text : List α) : Prop :=
  start.after = text ++ stop.after ∧ stop.before = text.reverse ++ start.before

theorem Reads.refl (start : Place α) : Reads start start [] := ⟨rfl, rfl⟩

theorem Reads.trans {start middle stop : Place α} {first second : List α}
    (early : Reads start middle first) (late : Reads middle stop second) :
    Reads start stop (first ++ second) := by
  refine ⟨?_, ?_⟩
  · rw [early.1, late.1, List.append_assoc]
  · rw [late.2, early.2, List.reverse_append, List.append_assoc]

theorem Reads.split {start stop : Place α} {first second : List α}
    (reads : Reads start stop (first ++ second)) :
    ∃ middle, Reads start middle first ∧ Reads middle stop second := by
  refine ⟨⟨first.reverse ++ start.before, second ++ stop.after⟩, ⟨?_, rfl⟩, ⟨rfl, ?_⟩⟩
  · rw [reads.1, List.append_assoc]
  · rw [reads.2, List.reverse_append, List.append_assoc]

theorem Reads.same {start stop : Place α} (reads : Reads start stop []) : stop = start := by
  have ⟨before, after⟩ := start
  have ⟨early, late⟩ := stop
  have ⟨ahead, behind⟩ := reads
  have same : after = late := ahead
  have also : early = before := behind
  rw [same, also]

theorem Reads.shorter {start stop : Place α} {text : List α} (reads : Reads start stop text)
    (nonempty : text ≠ []) : stop.after.length < start.after.length := by
  have positive := List.length_pos_of_ne_nil nonempty
  rw [reads.1, List.length_append]
  omega

theorem Reads.take {start stop : Place α} {text : List α} (reads : Reads start stop text) :
    start.after.take (start.after.length - stop.after.length) = text := by
  rw [reads.1, List.length_append, Nat.add_sub_cancel, List.take_left']
  rfl

section Ends

variable {first second body : Pattern α} {allowed banned : α → Bool} {start stop : Place α}

theorem ends_test : stop ∈ ends (.test allowed) start ↔
    ∃ letter, allowed letter = true ∧ Reads start stop [letter] := by
  have ⟨before, ahead⟩ := start
  have ⟨behind, after⟩ := stop
  cases ahead with
  | nil => simp [ends, Reads]
  | cons letter rest =>
      cases allows : allowed letter with
      | false =>
          constructor
          · simp [ends, allows]
          · intro ⟨other, allows', reads⟩
            injection reads.1 with same _
            rw [← same, allows] at allows'
            cases allows'
      | true =>
          simp only [ends, allows, if_true, List.mem_singleton, Place.mk.injEq, Reads]
          constructor
          · intro ⟨early, late⟩
            exact ⟨letter, allows, by rw [late]; rfl, by rw [early]; rfl⟩
          · intro ⟨other, _, reads, also⟩
            injection reads with same tail
            exact ⟨by rw [also, same]; rfl, tail.symm⟩

theorem ends_seq : stop ∈ ends (.seq first second) start ↔
    ∃ middle, middle ∈ ends first start ∧ stop ∈ ends second middle := List.mem_flatMap

theorem ends_optional : ends (.optional body) start = ends body start ++ [start] := by
  have none_ : ∀ place : Place α, rounds (ends body) 0 0 place = [place] := fun _ => rfl
  show rounds (ends body) 0 1 start = ends body start ++ [start]
  rw [rounds, if_pos rfl, Nat.zero_sub, funext none_, List.flatMap_singleton']

theorem ends_notBehind : stop ∈ ends (.notBehind banned) start ↔
    stop = start ∧ start.before.head?.any banned = false := by
  unfold ends
  cases start.before.head?.any banned <;> simp

theorem ends_notAhead : stop ∈ ends (.notAhead banned) start ↔
    stop = start ∧ start.after.head?.any banned = false := by
  unfold ends
  cases start.after.head?.any banned <;> simp

/-- The pattern ends before no banned letter. -/
def EndsFree (banned : α → Bool) (pattern : Pattern α) : Prop :=
  ∀ start, ∀ stop ∈ ends pattern start, stop.after.head?.any banned = false

theorem EndsFree.notAhead : EndsFree banned (.notAhead banned) := by
  intro start stop found
  have ⟨same, free⟩ := ends_notAhead.mp found
  rw [same]
  exact free

theorem EndsFree.seq (free : EndsFree banned second) : EndsFree banned (.seq first second) := by
  intro start stop found
  have ⟨middle, _, late⟩ := ends_seq.mp found
  exact free middle stop late

theorem EndsFree.alt (left : EndsFree banned first) (right : EndsFree banned second) :
    EndsFree banned (.alt first second) := by
  intro start stop found
  rcases List.mem_append.mp found with one | other
  · exact left start stop one
  · exact right start stop other

theorem ends_behind (found : stop ∈ ends (.seq (.notBehind banned) second) start) :
    start.before.head?.any banned = false := by
  have ⟨_, behind, _⟩ := ends_seq.mp found
  exact (ends_notBehind.mp behind).2

end Ends

/-- `count` rounds, one after another. -/
inductive Chain (body : Place α → List (Place α)) : Nat → Place α → Place α → Prop
  | done (start : Place α) : Chain body 0 start start
  | round {count : Nat} {start middle stop : Place α} :
      middle ∈ body start → Chain body count middle stop → Chain body (count + 1) start stop

theorem Chain.reads {body : Place α → List (Place α)}
    (reads : ∀ start, ∀ stop ∈ body start, ∃ text, Reads start stop text) {count : Nat}
    {start stop : Place α} (chain : Chain body count start stop) :
    ∃ text, Reads start stop text := by
  induction chain with
  | done start => exact ⟨[], .refl start⟩
  | round one _ ih =>
      have ⟨first, early⟩ := reads _ _ one
      have ⟨others, late⟩ := ih
      exact ⟨first ++ others, early.trans late⟩

theorem rounds_iff {body : Place α → List (Place α)} {least most : Nat} {start stop : Place α} :
    stop ∈ rounds body least most start ↔
      ∃ count, Chain body count start stop ∧ least ≤ count ∧ count ≤ most := by
  induction most generalizing least start with
  | zero =>
      unfold rounds
      constructor
      · intro found
        split at found
        · rename_i enough
          rw [List.mem_singleton.mp found]
          exact ⟨0, .done start, by omega, Nat.le_refl 0⟩
        · cases found
      · intro ⟨count, chain, enough, few⟩
        cases chain with
        | done =>
            rw [if_pos (by omega)]
            exact List.mem_singleton_self _
        | round _ _ => omega
  | succ most ih =>
      unfold rounds
      rw [List.mem_append, List.mem_flatMap]
      constructor
      · rintro (⟨middle, one, more⟩ | enough)
        · have ⟨count, chain, least', few⟩ := ih.mp more
          exact ⟨count + 1, .round one chain, by omega, by omega⟩
        · split at enough
          · rename_i none_
            rw [List.mem_singleton.mp enough]
            exact ⟨0, .done start, by omega, by omega⟩
          · cases enough
      · intro ⟨count, chain, enough, few⟩
        cases chain with
        | done =>
            right
            rw [if_pos (by omega)]
            exact List.mem_singleton_self _
        | round one rest => exact .inl ⟨_, one, ih.mpr ⟨_, rest, by omega, by omega⟩⟩

/-- The longest first. -/
def Longest (stops : List (Place α)) : Prop :=
  stops.Pairwise fun first second => first.after.length < second.after.length

/-- Rounds that can end in one place only: more rounds end later. -/
theorem rounds_longest {body : Place α → List (Place α)}
    (single : ∀ start, body start = [] ∨ ∃ stop, body start = [stop])
    (takes : ∀ start, ∀ stop ∈ body start, stop.after.length < start.after.length)
    (least most : Nat) (start : Place α) :
    Longest (rounds body least most start) ∧
      ∀ stop ∈ rounds body least most start, stop.after.length ≤ start.after.length := by
  induction most generalizing least start with
  | zero =>
      unfold rounds
      split
      · refine ⟨List.pairwise_singleton _ _, ?_⟩
        intro stop found
        cases List.mem_singleton.mp found
        exact Nat.le_refl _
      · exact ⟨.nil, fun _ found => nomatch found⟩
  | succ most ih =>
      have alone : Longest (if least = 0 then [start] else []) ∧
          ∀ stop ∈ (if least = 0 then [start] else []), stop = start := by
        split
        · exact ⟨List.pairwise_singleton _ _, fun _ found => List.mem_singleton.mp found⟩
        · exact ⟨.nil, fun _ found => nomatch found⟩
      unfold rounds
      rcases single start with none_ | ⟨middle, one⟩
      · rw [none_]
        refine ⟨alone.1, ?_⟩
        intro stop found
        cases alone.2 stop found
        exact Nat.le_refl _
      · have shorter := takes start middle (by rw [one]; exact List.mem_singleton_self _)
        have ⟨longest, within⟩ := ih (least - 1) middle
        rw [one, List.flatMap_singleton]
        refine ⟨List.pairwise_append.mpr ⟨longest, alone.1, ?_⟩, ?_⟩
        · intro early more late enough
          have bound := within early more
          rw [alone.2 late enough]
          omega
        · intro stop found
          rcases List.mem_append.mp found with more | enough
          · have bound := within stop more
            omega
          · cases alone.2 stop enough
            exact Nat.le_refl _

theorem ends_test_single (allowed : α → Bool) (start : Place α) :
    ends (.test allowed) start = [] ∨ ∃ stop, ends (.test allowed) start = [stop] := by
  unfold ends
  split
  · exact .inl rfl
  · split
    · exact .inr ⟨_, rfl⟩
    · exact .inl rfl

theorem Longest.seq {first second : Pattern α} {start : Place α}
    (single : ends first start = [] ∨ ∃ stop, ends first start = [stop])
    (longest : ∀ middle, Longest (ends second middle)) :
    Longest (ends (.seq first second) start) := by
  show Longest ((ends first start).flatMap (ends second))
  rcases single with none_ | ⟨middle, one⟩
  · rw [none_]
    exact .nil
  · rw [one, List.flatMap_singleton]
    exact longest middle

theorem Longest.notAhead {first : Pattern α} {start : Place α} {banned : α → Bool}
    (longest : Longest (ends first start)) :
    Longest (ends (.seq first (.notAhead banned)) start) := by
  refine List.pairwise_flatMap.mpr ⟨?_, longest.imp ?_⟩
  · intro middle _
    unfold ends
    split
    · exact .nil
    · exact List.pairwise_singleton _ _
  · intro one other shorter stop found late more
    rw [(ends_notAhead.mp found).1, (ends_notAhead.mp more).1]
    exact shorter

theorem Longest.head {stops : List (Place α)} {stop other : Place α} (longest : Longest stops)
    (first : stops.head? = some stop) (found : other ∈ stops) :
    stop.after.length ≤ other.after.length := by
  cases stops with
  | nil => cases first
  | cons head rest =>
      injection first with same
      subst same
      rcases List.mem_cons.mp found with same | later
      · cases same
        exact Nat.le_refl _
      · exact Nat.le_of_lt ((List.pairwise_cons.mp longest).1 other later)

theorem ends_reads (pattern : Pattern α) (start : Place α) :
    ∀ stop ∈ ends pattern start, ∃ text, Reads start stop text := by
  induction pattern generalizing start with
  | test allowed =>
      intro stop found
      have ⟨letter, _, reads⟩ := ends_test.mp found
      exact ⟨[letter], reads⟩
  | seq first second ihFirst ihSecond =>
      intro stop found
      have ⟨middle, early, late⟩ := ends_seq.mp found
      have ⟨one, reads⟩ := ihFirst start middle early
      have ⟨other, more⟩ := ihSecond middle stop late
      exact ⟨one ++ other, reads.trans more⟩
  | alt first second ihFirst ihSecond =>
      intro stop found
      rcases List.mem_append.mp found with one | other
      · exact ihFirst start stop one
      · exact ihSecond start stop other
  | rep body least most ih =>
      intro stop found
      have ⟨count, chain, _, _⟩ := rounds_iff.mp found
      exact chain.reads ih
  | notBehind banned =>
      intro stop found
      rw [(ends_notBehind.mp found).1]
      exact ⟨[], .refl start⟩
  | notAhead banned =>
      intro stop found
      rw [(ends_notAhead.mp found).1]
      exact ⟨[], .refl start⟩
  | boundary word =>
      intro stop found
      unfold ends at found
      split at found
      · cases found
      · rw [List.mem_singleton.mp found]
        exact ⟨[], .refl start⟩

@[simp] theorem source_nil : source ([] : List (Piece α)) = [] := rfl

@[simp] theorem source_append (first second : List (Piece α)) :
    source (first ++ second) = source first ++ source second := List.flatMap_append

@[simp] theorem source_cons (piece : Piece α) (rest : List (Piece α)) :
    source (piece :: rest) = piece.source ++ source rest := rfl

@[simp] theorem result_nil (replace : List α → List α) : result replace [] = [] := rfl

@[simp] theorem result_append (replace : List α → List α) (first second : List (Piece α)) :
    result replace (first ++ second) = result replace first ++ result replace second :=
  List.flatMap_append

@[simp] theorem result_cons (replace : List α → List α) (piece : Piece α) (rest : List (Piece α)) :
    result replace (piece :: rest) = piece.result replace ++ result replace rest := rfl

@[simp] theorem source_kept (text : List α) : source (text.map Piece.kept) = text := by
  induction text with
  | nil => rfl
  | cons letter rest ih =>
      rw [List.map_cons, source_cons, ih]
      rfl

@[simp] theorem result_kept (replace : List α → List α) (text : List α) :
    result replace (text.map Piece.kept) = text := by
  induction text with
  | nil => rfl
  | cons letter rest ih =>
      rw [List.map_cons, result_cons, ih]
      rfl

/-- A turn of the scan: at a letter that starts no match, or at a match. -/
theorem scan_cases (pattern : Pattern α) (fuel : Nat) (start : Place α) {letter : α}
    {rest : List α} (after : start.after = letter :: rest) :
    ((∀ stop, (ends pattern start).head? = some stop → rest.length < stop.after.length) ∧
        scan pattern (fuel + 1) start =
          .kept letter :: scan pattern fuel ⟨letter :: start.before, rest⟩) ∨
      ∃ stop text, (ends pattern start).head? = some stop ∧ Reads start stop text ∧
        stop.after.length ≤ rest.length ∧
        scan pattern (fuel + 1) start = .found text :: scan pattern fuel stop := by
  have ⟨before, ahead⟩ := start
  have same : ahead = letter :: rest := after
  subst same
  rw [scan]
  dsimp only
  split
  · rename_i nothing
    refine .inl ⟨?_, rfl⟩
    intro stop first
    rw [nothing] at first
    cases first
  · rename_i stop first
    split
    · rename_i shorter
      have ⟨text, reads⟩ := ends_reads pattern _ stop (List.mem_of_mem_head? first)
      refine .inr ⟨stop, text, first, reads, shorter, ?_⟩
      rw [reads.take]
    · rename_i longer
      refine .inl ⟨?_, rfl⟩
      intro other also
      rw [first] at also
      injection also with same
      rw [← same]
      exact Nat.lt_of_not_le longer

theorem scan_source (pattern : Pattern α) (fuel : Nat) (start : Place α)
    (enough : start.after.length ≤ fuel) : source (scan pattern fuel start) = start.after := by
  induction fuel generalizing start with
  | zero =>
      rw [List.length_eq_zero_iff.mp (Nat.le_zero.mp enough)]
      rfl
  | succ fuel ih =>
      cases after : start.after with
      | nil =>
          unfold scan
          rw [after]
          rfl
      | cons letter rest =>
          have room : rest.length ≤ fuel := by
            rw [after, List.length_cons] at enough
            omega
          rcases scan_cases pattern fuel start after with ⟨_, kept⟩ |
            ⟨stop, text, _, reads, shorter, found⟩
          · rw [kept, source_cons, ih _ room]
            rfl
          · rw [found, source_cons, ih stop (by omega), ← after, reads.1]
            rfl

/-- From any piece on, a scan is the scan from there. -/
theorem scan_rest (pattern : Pattern α) (fuel : Nat) (start : Place α)
    (enough : start.after.length ≤ fuel) {first rest : List (Piece α)}
    (shape : scan pattern fuel start = first ++ rest) :
    ∃ left, scan pattern left ⟨(source first).reverse ++ start.before, source rest⟩ = rest := by
  induction first generalizing fuel start with
  | nil =>
      have whole := scan_source pattern fuel start enough
      rw [shape, List.nil_append] at whole
      refine ⟨fuel, ?_⟩
      rw [whole]
      exact shape
  | cons piece first ih =>
      cases fuel with
      | zero => cases shape
      | succ fuel =>
          cases after : start.after with
          | nil =>
              unfold scan at shape
              rw [after] at shape
              cases shape
          | cons letter rest =>
              have room : rest.length ≤ fuel := by
                rw [after, List.length_cons] at enough
                omega
              rw [source_cons, List.reverse_append, List.append_assoc]
              rcases scan_cases pattern fuel start after with
                ⟨_, kept⟩ | ⟨stop, read, _, reads, shorter, found⟩
              · rw [kept] at shape
                injection shape with same tail
                rw [← same]
                exact ih fuel _ room tail
              · rw [found] at shape
                injection shape with same tail
                rw [← same]
                have later := ih fuel stop (by omega) tail
                rw [reads.2] at later
                exact later

theorem pieces_source (pattern : Pattern α) (text : List α) : source (pieces pattern text) = text :=
  scan_source pattern text.length ⟨[], text⟩ (Nat.le_refl _)

theorem pieces_rest {pattern : Pattern α} {text : List α} {first rest : List (Piece α)}
    (shape : pieces pattern text = first ++ rest) :
    ∃ left, scan pattern left ⟨(source first).reverse, source rest⟩ = rest := by
  have later := scan_rest pattern text.length ⟨[], text⟩ (Nat.le_refl _) shape
  rw [List.append_nil] at later
  exact later

/-- A match of the replacement is the first one of the pattern, where it stands. -/
theorem pieces_found {pattern : Pattern α} {text : List α} {first last : List (Piece α)}
    {matched : List α} (shape : pieces pattern text = first ++ .found matched :: last) :
    (ends pattern ⟨(source first).reverse, matched ++ source last⟩).head? =
        some ⟨matched.reverse ++ (source first).reverse, source last⟩ ∧ matched ≠ [] := by
  have ⟨left, here⟩ := pieces_rest shape
  cases left with
  | zero => cases here
  | succ left =>
      cases after : matched ++ source last with
      | nil =>
          unfold scan at here
          rw [source_cons, Piece.source, after] at here
          cases here
      | cons letter rest =>
          rcases scan_cases pattern left ⟨_, matched ++ source last⟩ after with
            ⟨_, kept⟩ | ⟨stop, read, head, reads, shorter, found⟩
          · rw [source_cons, Piece.source, kept] at here
            cases here
          · rw [source_cons, Piece.source, found] at here
            injection here with same _
            injection same with same
            subst same
            have tail : source last = stop.after := List.append_cancel_left reads.1
            rw [← after, head]
            refine ⟨congrArg some ?_, ?_⟩
            · rw [tail, ← reads.2]
            · intro empty
              rw [empty, List.nil_append, tail] at after
              rw [after, List.length_cons] at shorter
              omega

/-- A letter that the replacement keeps starts no match. -/
theorem pieces_kept {pattern : Pattern α}
    (takes : ∀ start, ∀ stop ∈ ends pattern start, stop.after.length < start.after.length)
    {text : List α} {first last : List (Piece α)} {letter : α}
    (shape : pieces pattern text = first ++ .kept letter :: last) :
    ends pattern ⟨(source first).reverse, letter :: source last⟩ = [] := by
  have ⟨left, here⟩ := pieces_rest shape
  cases left with
  | zero => cases here
  | succ left =>
      rcases scan_cases pattern left ⟨(source first).reverse, letter :: source last⟩
        rfl with ⟨nothing, _⟩ | ⟨_, _, _, _, _, found⟩
      · rw [← List.head?_eq_none_iff, Option.eq_none_iff_forall_ne_some]
        intro stop first
        have shorter := takes _ stop (List.mem_of_mem_head? first)
        have longer := nothing stop first
        rw [List.length_cons] at shorter
        omega
      · rw [source_cons] at here
        have same := found.symm.trans here
        cases same

/-- A place of the text is between two pieces or in a match. -/
theorem split_source {pieces : List (Piece α)} {before rest : List α}
    (shape : source pieces = before ++ rest) :
    (∃ first last, pieces = first ++ last ∧ source first = before ∧ source last = rest) ∨
      ∃ first early late last, pieces = first ++ .found (early ++ late) :: last ∧ early ≠ [] ∧
        late ≠ [] ∧ before = source first ++ early ∧ rest = late ++ source last := by
  induction pieces generalizing before with
  | nil =>
      have ⟨empty, nothing⟩ := List.append_eq_nil_iff.mp shape.symm
      exact .inl ⟨[], [], rfl, empty.symm, nothing.symm⟩
  | cons piece pieces ih =>
      rw [source_cons] at shape
      rcases List.append_eq_append_iff.mp shape with ⟨more, later, tail⟩ | ⟨more, own, tail⟩
      · rcases ih tail with ⟨first, last, split, early, late⟩ |
          ⟨first, early, late, last, split, rest⟩
        · exact .inl ⟨piece :: first, last, by rw [split]; rfl, by rw [source_cons, early, later],
            late⟩
        · refine .inr ⟨piece :: first, early, late, last, by rw [split]; rfl, rest.1, rest.2.1, ?_,
            rest.2.2.2⟩
          rw [later, rest.2.2.1, source_cons, List.append_assoc]
      · by_cases ended : more = []
        · rw [ended, List.append_nil] at own
          rw [ended, List.nil_append] at tail
          refine .inl ⟨[piece], pieces, rfl, ?_, tail.symm⟩
          rw [← own]
          exact List.append_nil _
        · by_cases begins : before = []
          · refine .inl ⟨[], piece :: pieces, rfl, begins.symm, ?_⟩
            rw [begins, List.nil_append] at shape
            exact shape
          · cases piece with
            | kept letter =>
                have length := congrArg List.length own
                have left := List.length_pos_of_ne_nil begins
                have right := List.length_pos_of_ne_nil ended
                rw [List.length_append] at length
                have one : (Piece.kept letter).source.length = 1 := rfl
                omega
            | found text =>
                refine .inr ⟨[], before, more, pieces, ?_, begins, ended, rfl, tail⟩
                rw [← own]
                rfl

/-- One piece starts at a place. -/
theorem same_place {first other rest tail : List (Piece α)} {piece next : Piece α}
    (shape : first ++ piece :: rest = other ++ next :: tail) (same : source first = source other)
    (takes : piece.source ≠ []) (others : next.source ≠ []) : piece = next := by
  rcases List.append_eq_append_iff.mp shape with ⟨more, longer, here⟩ | ⟨more, longer, here⟩
  · cases more with
    | nil =>
        injection here with same _
    | cons head more =>
        injection here with begins _
        rw [longer, source_append, source_cons, ← begins] at same
        have nothing := List.append_eq_nil_iff.mp (List.self_eq_append_right.mp same)
        exact absurd nothing.1 takes
  · cases more with
    | nil =>
        injection here with same _
        exact same.symm
    | cons head more =>
        injection here with begins _
        rw [longer, source_append, source_cons, ← begins] at same
        have nothing := List.append_eq_nil_iff.mp (List.self_eq_append_right.mp same.symm)
        exact absurd nothing.1 others

/-- No marked letter stands right before or right after. -/
structure Edge (mark : α → Bool) (before after : List α) : Prop where
  before : ∀ letter ∈ before.getLast?, mark letter = false
  after : ∀ letter ∈ after.head?, mark letter = false

/-- No marked letter touches a match. -/
def Clean (mark : α → Bool) (pieces : List (Piece α)) : Prop :=
  ∀ first text last, pieces = first ++ .found text :: last →
    Edge mark (source first) (source last)

/-- Replacements with none of these letters. -/
structure Solid (inside : α → Bool) (replace : List α → List α) : Prop where
  nonempty : ∀ text, replace text ≠ []
  outside : ∀ text, ∀ letter ∈ replace text, inside letter = false

section Replaced

variable {inside : α → Bool} {replace : List α → List α}

/-- A letter that no replacement has was kept. -/
theorem result_letter (solid : Solid inside replace) {pieces : List (Piece α)}
    {before after : List α} {letter : α} (here : inside letter = true)
    (shape : result replace pieces = before ++ letter :: after) :
    ∃ first last, pieces = first ++ .kept letter :: last ∧ result replace first = before ∧
      result replace last = after := by
  induction pieces generalizing before with
  | nil => cases before <;> cases shape
  | cons piece rest ih =>
      cases piece with
      | kept other =>
          cases before with
          | nil =>
              injection shape with same tail
              subst same
              exact ⟨[], rest, rfl, rfl, tail⟩
          | cons head before =>
              injection shape with same tail
              subst same
              have ⟨first, last, split, early, late⟩ := ih tail
              exact ⟨.kept other :: first, last, by rw [split]; rfl,
                by rw [result_cons, early]; rfl,
                late⟩
      | found text =>
          have whole : replace text ++ result replace rest = before ++ letter :: after := shape
          rcases List.append_eq_append_iff.mp whole with ⟨more, first, tail⟩ | ⟨more, first, tail⟩
          · have ⟨early, last, split, same, late⟩ := ih tail
            refine ⟨.found text :: early, last, by rw [split]; rfl, ?_, late⟩
            rw [result_cons, same, first]
            rfl
          · cases more with
            | nil =>
                rw [List.nil_append] at tail
                rw [List.append_nil] at first
                have onward : result replace rest = [] ++ letter :: after := tail.symm
                have ⟨early, last, split, same, late⟩ := ih onward
                refine ⟨.found text :: early, last, by rw [split]; rfl, ?_, late⟩
                rw [result_cons, same, List.append_nil]
                exact first
            | cons head more =>
                injection tail with same _
                have inText : letter ∈ replace text := by
                  rw [first, same]
                  exact List.mem_append_right _ List.mem_cons_self
                rw [solid.outside text letter inText] at here
                cases here

theorem result_nothing (solid : Solid inside replace) {pieces : List (Piece α)}
    (empty : result replace pieces = []) : pieces = [] := by
  cases pieces with
  | nil => rfl
  | cons piece rest =>
      rw [result_cons, List.append_eq_nil_iff] at empty
      cases piece with
      | kept letter => cases empty.1
      | found text => exact absurd empty.1 (solid.nonempty text)

/-- So was a text of such letters, in one stretch. -/
theorem result_text (solid : Solid inside replace) {pieces : List (Piece α)}
    {before text after : List α} (nonempty : text ≠ [])
    (within : ∀ letter ∈ text, inside letter = true)
    (shape : result replace pieces = before ++ text ++ after) :
    ∃ first last, pieces = first ++ text.map .kept ++ last ∧ result replace first = before ∧
      result replace last = after := by
  induction text generalizing pieces before with
  | nil => exact absurd rfl nonempty
  | cons letter text ih =>
      have ⟨here, others⟩ := List.forall_mem_cons.mp within
      rw [List.append_assoc, List.cons_append] at shape
      have ⟨first, last, split, early, late⟩ := result_letter solid here shape
      by_cases alone : text = []
      · rw [alone, List.nil_append] at late
        refine ⟨first, last, ?_, early, late⟩
        rw [split, alone]
        simp
      · have onward : result replace last = [] ++ text ++ after := late
        have ⟨gap, rest, split', nothing, tail⟩ := ih alone others onward
        rw [result_nothing solid nothing] at split'
        refine ⟨first, rest, ?_, early, tail⟩
        rw [split, split']
        simp

theorem infix_of_sub (solid : Solid inside replace) {pattern : Pattern α} {text stretch : List α}
    (nonempty : stretch ≠ []) (within : ∀ letter ∈ stretch, inside letter = true)
    (found : stretch <:+: sub pattern replace text) : stretch <:+: text := by
  have ⟨before, after, shape⟩ := found
  have ⟨first, last, split, _, _⟩ := result_text solid nonempty within shape.symm
  refine ⟨source first, source last, ?_⟩
  have whole := pieces_source pattern text
  rwa [split, source_append, source_append, source_kept] at whole

end Replaced

section Edges

variable {mark : α → Bool} {replace : List α → List α} {first last : List (Piece α)}
  {text : List α} (clean : Clean mark (first ++ text.map .kept ++ last))

include clean

/-- A kept stretch that starts with a marked letter has no match right before it. -/
theorem before_same (starts : ∃ letter ∈ text.head?, mark letter = true) :
    (result replace first).getLast? = (source first).getLast? := by
  rcases List.eq_nil_or_concat first with empty | ⟨early, piece, concat⟩
  · rw [empty]
    rfl
  · rw [List.concat_eq_append] at concat
    cases piece with
    | kept letter =>
        rw [concat, result_append, source_append]
        simp [Piece.result, Piece.source]
    | found matched =>
        have ⟨letter, head, marked⟩ := starts
        have edge := clean early matched (text.map .kept ++ last) (by rw [concat]; simp)
        have unmarked := edge.after letter (by
          rw [source_append, source_kept, List.head?_append, head]
          rfl)
        rw [marked] at unmarked
        cases unmarked

theorem after_same (stops : ∃ letter ∈ text.getLast?, mark letter = true) :
    (result replace last).head? = (source last).head? := by
  cases last with
  | nil => rfl
  | cons piece rest =>
      cases piece with
      | kept letter => rfl
      | found matched =>
          have ⟨letter, final, marked⟩ := stops
          have edge := clean (first ++ text.map .kept) matched rest rfl
          have unmarked := edge.before letter (by
            rw [source_append, source_kept, List.getLast?_append, final]
            rfl)
          rw [marked] at unmarked
          cases unmarked

/-- A kept stretch between marked letters has the same neighbours before and after the
replacement. -/
theorem edge_iff (starts : ∃ letter ∈ text.head?, mark letter = true)
    (stops : ∃ letter ∈ text.getLast?, mark letter = true) :
    Edge mark (result replace first) (result replace last) ↔
      Edge mark (source first) (source last) := by
  have left : (result replace first).getLast? = (source first).getLast? := before_same clean starts
  have right : (result replace last).head? = (source last).head? := after_same clean stops
  constructor
  · intro edge
    refine ⟨?_, ?_⟩
    · rw [← left]
      exact edge.before
    · rw [← right]
      exact edge.after
  · intro edge
    refine ⟨?_, ?_⟩
    · rw [left]
      exact edge.before
    · rw [right]
      exact edge.after

end Edges

section Spread

variable (hit : List α → Bool)

/-- The matches that are replaced by themselves, letter by letter. -/
def spread (pieces : List (Piece α)) : List (Piece α) :=
  pieces.flatMap fun piece =>
    match piece with
    | .kept letter => [.kept letter]
    | .found text => if hit text then [.found text] else text.map .kept

theorem spread_cons (piece : Piece α) (rest : List (Piece α)) :
    spread hit (piece :: rest) = spread hit [piece] ++ spread hit rest := by
  unfold spread
  rw [List.flatMap_cons, List.flatMap_singleton]

theorem spread_append (first rest : List (Piece α)) :
    spread hit (first ++ rest) = spread hit first ++ spread hit rest := List.flatMap_append

theorem spread_hit {text : List α} (hits : hit text = true) (rest : List (Piece α)) :
    spread hit (.found text :: rest) = .found text :: spread hit rest := by
  rw [spread_cons]
  unfold spread
  rw [List.flatMap_singleton]
  dsimp only
  rw [if_pos hits]
  rfl

theorem spread_source (pieces : List (Piece α)) : source (spread hit pieces) = source pieces := by
  induction pieces with
  | nil => rfl
  | cons piece rest ih =>
      rw [spread_cons, source_append, ih, source_cons]
      congr 1
      cases piece with
      | kept letter => rfl
      | found text =>
          unfold spread
          rw [List.flatMap_singleton]
          dsimp only
          split
          · exact List.append_nil text
          · exact source_kept text

theorem spread_result (replace : List α → List α) (pieces : List (Piece α)) :
    result replace (spread hit pieces) =
      result (fun text => if hit text then replace text else text) pieces := by
  induction pieces with
  | nil => rfl
  | cons piece rest ih =>
      rw [spread_cons, result_append, ih, result_cons]
      congr 1
      cases piece with
      | kept letter => rfl
      | found text =>
          unfold spread
          rw [List.flatMap_singleton]
          unfold Piece.result
          dsimp only
          split
          · exact List.append_nil (replace text)
          · exact result_kept replace text

/-- The first match after a kept text comes after all of it. -/
theorem skip_kept {kept : List α} {rest first last : List (Piece α)} {text : List α}
    (shape : kept.map .kept ++ rest = first ++ .found text :: last) :
    ∃ more, first = kept.map .kept ++ more ∧ rest = more ++ .found text :: last := by
  induction kept generalizing first with
  | nil => exact ⟨first, rfl, shape⟩
  | cons letter kept ih =>
      cases first with
      | nil => cases shape
      | cons piece first =>
          injection shape with same tail
          have ⟨more, split, later⟩ := ih tail
          exact ⟨more, by rw [split, ← same]; rfl, later⟩

/-- A match that is still one was one, at the same place. -/
theorem spread_found {pieces first last : List (Piece α)} {text : List α}
    (shape : spread hit pieces = first ++ .found text :: last) :
    ∃ early late, pieces = early ++ .found text :: late ∧ hit text = true ∧
      source early = source first ∧ source late = source last := by
  induction pieces generalizing first with
  | nil => cases first <;> cases shape
  | cons piece rest ih =>
      have onward : ∀ kept : List α, piece.source = kept →
          kept.map .kept ++ spread hit rest = first ++ .found text :: last →
          ∃ early late, piece :: rest = early ++ .found text :: late ∧ hit text = true ∧
            source early = source first ∧ source late = source last := by
        intro kept own shape
        have ⟨more, split, later⟩ := skip_kept shape
        have ⟨early, late, same, hits, before, after⟩ := ih later
        refine ⟨piece :: early, late, by rw [same]; rfl, hits, ?_, after⟩
        rw [source_cons, before, own, split, source_append, source_kept]
      cases piece with
      | kept letter => exact onward [letter] rfl shape
      | found matched =>
          rw [spread_cons] at shape
          unfold spread at shape
          rw [List.flatMap_singleton] at shape
          dsimp only at shape
          split at shape
          · rename_i hits
            cases first with
            | nil =>
                injection shape with same tail
                injection same with same
                subst same
                refine ⟨[], rest, rfl, hits, rfl, ?_⟩
                rw [← tail]
                exact (spread_source hit rest).symm
            | cons piece first =>
                injection shape with same tail
                have ⟨early, late, split, hits, before, after⟩ := ih tail
                refine ⟨.found matched :: early, late, by rw [split]; rfl, hits, ?_, after⟩
                rw [source_cons, source_cons, before, ← same]
          · exact onward matched rfl shape

theorem spread_clean {mark : α → Bool} {pieces : List (Piece α)} (clean : Clean mark pieces) :
    Clean mark (spread hit pieces) := by
  intro first text last shape
  have ⟨early, late, same, _, before, after⟩ := spread_found hit shape
  rw [← before, ← after]
  exact clean early text late same

end Spread

section Search

/-- The letters of the first match, which is at the leftmost place that has one. -/
def searchFrom (pattern : Pattern α) (before : List α) : List α → Option (List α)
  | [] => (ends pattern ⟨before, []⟩).head?.map fun _ => []
  | letter :: rest =>
      match (ends pattern ⟨before, letter :: rest⟩).head? with
      | some stop => some ((letter :: rest).take ((letter :: rest).length - stop.after.length))
      | none => searchFrom pattern (letter :: before) rest

def search (pattern : Pattern α) (text : List α) : Option (List α) := searchFrom pattern [] text

variable [DecidableEq α]

/-- As many letters as there can be up to a closing mark. -/
def upTo (closing : α) : Pattern α :=
  .seq (.rep (.test fun _ => true) 0 none) (.test (· = closing))

def enclosed (opening closing : α) : Pattern α := .seq (.test (· = opening)) (upTo closing)

/-- What is found reaches from the first opening mark to the last closing mark. -/
def Encloses (opening closing : α) (text found : List α) : Prop :=
  ∃ before inside after, text = before ++ found ++ after ∧
    found = opening :: inside ++ [closing] ∧ opening ∉ before ∧ closing ∉ after

variable {opening closing : α}

theorem ends_upTo_cons (before : List α) (letter : α) (rest : List α) :
    ends (upTo closing) ⟨before, letter :: rest⟩ =
      ends (upTo closing) ⟨letter :: before, rest⟩ ++
        if letter = closing then [⟨letter :: before, rest⟩] else [] := by
  have rounds_cons : rounds (ends (.test fun _ => true)) 0 (rest.length + 1)
      (⟨before, letter :: rest⟩ : Place α) =
        rounds (ends (.test fun _ => true)) 0 rest.length ⟨letter :: before, rest⟩ ++
          [⟨before, letter :: rest⟩] := by
    simp [rounds, ends]
  show (rounds (ends (.test fun _ => true)) 0 (rest.length + 1) ⟨before, letter :: rest⟩).flatMap
    (ends (.test (· = closing))) = _
  rw [rounds_cons, List.flatMap_append]
  simp [ends, upTo]

theorem ends_upTo_none (before : List α) {rest : List α} (absent : closing ∉ rest) :
    ends (upTo closing) ⟨before, rest⟩ = [] := by
  induction rest generalizing before with
  | nil => rfl
  | cons letter rest ih =>
      simp only [List.mem_cons, not_or] at absent
      rw [ends_upTo_cons, ih _ absent.2, if_neg fun same => absent.1 same.symm]
      rfl

/-- The last closing mark is tried first. -/
theorem ends_upTo_last (before inside : List α) {after : List α} (absent : closing ∉ after) :
    (ends (upTo closing) ⟨before, inside ++ closing :: after⟩).head?.map Place.after =
      some after := by
  induction inside generalizing before with
  | nil =>
      rw [List.nil_append, ends_upTo_cons, ends_upTo_none _ absent, if_pos rfl]
      rfl
  | cons letter inside ih =>
      rw [List.cons_append, ends_upTo_cons, List.head?_append, Option.map_or, ih]
      rfl

theorem ends_enclosed_cons (before : List α) (letter : α) (rest : List α) :
    ends (enclosed opening closing) ⟨before, letter :: rest⟩ =
      if letter = opening then ends (upTo closing) ⟨letter :: before, rest⟩ else [] := by
  show (ends (.test (· = opening)) ⟨before, letter :: rest⟩).flatMap (ends (upTo closing)) = _
  by_cases opens : letter = opening
  · simp [ends, opens]
  · simp [ends, opens]

/-- Without a closing mark to come nothing is found. -/
theorem searchFrom_unclosed (before : List α) {text : List α} (absent : closing ∉ text) :
    searchFrom (enclosed opening closing) before text = none := by
  induction text generalizing before with
  | nil => rfl
  | cons letter rest ih =>
      simp only [List.mem_cons, not_or] at absent
      have nowhere : ends (enclosed opening closing) ⟨before, letter :: rest⟩ = [] := by
        rw [ends_enclosed_cons, ends_upTo_none _ absent.2, ite_self]
      rw [searchFrom, nowhere]
      exact ih _ absent.2

/-- The letters before the first opening mark are passed over. -/
theorem searchFrom_skip (behind : List α) {before : List α} (absent : opening ∉ before)
    (rest : List α) : searchFrom (enclosed opening closing) behind (before ++ rest) =
      searchFrom (enclosed opening closing) (before.reverse ++ behind) rest := by
  induction before generalizing behind with
  | nil => rfl
  | cons letter before ih =>
      simp only [List.mem_cons, not_or] at absent
      have nowhere : ends (enclosed opening closing) ⟨behind, letter :: (before ++ rest)⟩ = [] := by
        rw [ends_enclosed_cons, if_neg fun same => absent.1 same.symm]
      rw [List.cons_append, searchFrom, nowhere]
      simpa using ih (letter :: behind) absent.2

theorem Encloses.search {text found : List α} (encloses : Encloses opening closing text found) :
    search (enclosed opening closing) text = some found := by
  obtain ⟨before, inside, after, rfl, rfl, first, last⟩ := encloses
  have shape : before ++ (opening :: inside ++ [closing]) ++ after =
      before ++ opening :: (inside ++ closing :: after) := by simp
  have stops := ends_upTo_last (opening :: (before.reverse ++ [])) inside last
  obtain ⟨stop, here, ended⟩ := Option.map_eq_some_iff.mp stops
  rw [Regex.search, shape, searchFrom_skip [] first, searchFrom, ends_enclosed_cons, if_pos rfl,
    here, ← ended]
  have length : (opening :: (inside ++ closing :: stop.after)).length - stop.after.length =
      (opening :: inside ++ [closing]).length := by
    simp only [List.length_cons, List.length_append, List.length_nil]
    omega
  have whole : opening :: (inside ++ closing :: stop.after) =
      (opening :: inside ++ [closing]) ++ stop.after := by simp
  simp only
  rw [length, whole, List.take_left']
  rfl

theorem Encloses.unique {text found other : List α} (one : Encloses opening closing text found)
    (also : Encloses opening closing text other) : other = found :=
  Option.some.inj (also.search.symm.trans one.search)

theorem search_enclosed_iff {text found : List α} :
    search (enclosed opening closing) text = some found ↔ Encloses opening closing text found := by
  refine ⟨fun searched => ?_, Encloses.search⟩
  have exists_ : ∃ other, Encloses opening closing text other := by
    by_cases opens : opening ∈ text
    · obtain ⟨before, rest, rfl, first⟩ := List.eq_append_cons_of_mem opens
      by_cases closes : closing ∈ rest.reverse
      · obtain ⟨after, inside, turned, last⟩ := List.eq_append_cons_of_mem closes
        have shape : rest = inside.reverse ++ closing :: after.reverse := by
          rw [← List.reverse_reverse rest, turned]
          simp
        refine ⟨opening :: inside.reverse ++ [closing], before, inside.reverse, after.reverse, ?_,
          rfl, first, ?_⟩
        · rw [shape]
          simp
        · rwa [List.mem_reverse]
      · have unclosed : closing ∉ rest := fun member => closes (List.mem_reverse.mpr member)
        rw [search, searchFrom_skip [] first, searchFrom, ends_enclosed_cons,
          ends_upTo_none _ unclosed, ite_self] at searched
        exact absurd searched (by simp [searchFrom_unclosed _ unclosed])
    · rw [search, ← List.append_nil text, searchFrom_skip [] opens] at searched
      cases searched
  obtain ⟨other, encloses⟩ := exists_
  rw [encloses.search] at searched
  rwa [← Option.some.inj searched]

end Search

end AiPlatform.Regex
