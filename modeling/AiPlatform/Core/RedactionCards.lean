import AiPlatform.Core.CardCandidates

set_option autoImplicit false

/- Which card numbers are left after `redact_text`. -/
namespace AiPlatform.Redaction

open Regex Pattern

variable {unicode : UnicodeData}

/-- 13 to 19 digits in groups that pass the Luhn check. -/
structure CardNumber (unicode : UnicodeData) (number : List Char) : Prop where
  grouped : Grouped unicode number
  card : isCard unicode number = true

/-- 13 to 19 digits in a row that pass it. -/
structure CardRun (unicode : UnicodeData) (number : List Char) : Prop where
  row : ∀ letter ∈ number, unicode.isDecimal letter = true
  card : isCard unicode number = true

/-- The text shows the number, with no other digit right before or after it. -/
def Shows (unicode : UnicodeData) (text number : List Char) : Prop :=
  ∃ before after, text = before ++ number ++ after ∧ Edge unicode.isDecimal before after

def ShowsNo (unicode : UnicodeData) (kind : List Char → Prop) (text : List Char) : Prop :=
  ∀ number, kind number → ¬ Shows unicode text number

/-- The matches of `_CARD_CANDIDATE` that `_mask_card` masks, and every other letter. -/
def cardPieces (unicode : UnicodeData) (text : List Char) : List (Piece Char) :=
  spread (isCard unicode) (pieces (cardCandidate unicode) text)

def cardMask (_ : List Char) : List Char := "[card]".toList

def phoneMask (_ : List Char) : List Char := "[phone]".toList

/-- The number is a stretch of the phone step's text that meets no phone number. -/
def Unphoned (unicode : UnicodeData) (before number after : List Char) : Prop :=
  ∃ first last, pieces (phone unicode) (before ++ number ++ after) =
    first ++ number.map .kept ++ last ∧ source first = before ∧ source last = after

/-- Every number of this kind to which another digit is joined meets a match of `_CARD_CANDIDATE`
that passes the Luhn check as a whole or else, in the text that these leave, a phone number. -/
def Covered (unicode : UnicodeData) (kind : List Char → Prop) (text : List Char) : Prop :=
  ∀ first number last, kind number → Joined unicode (source first) (source last) →
    cardPieces unicode text = first ++ number.map .kept ++ last →
    Edge unicode.isDecimal (source first) (source last) →
    ¬ Unphoned unicode (result cardMask first) number (result cardMask last)

section Patterns

variable {start stop : Place Char}

theorem cardCandidate_edge (found : stop ∈ ends (cardCandidate unicode) start) :
    start.before.head?.any unicode.isDecimal = false ∧
      stop.after.head?.any unicode.isDecimal = false := by
  have ⟨_, _, _, _, _, behind, ahead⟩ := cardCandidate_iff.mp found
  exact ⟨behind, ahead⟩

theorem phone_ahead (unicode : UnicodeData) : EndsFree unicode.isDecimal (phone unicode) :=
  .alt (.seq (.seq (.seq .notAhead))) (.seq (.seq (.seq (.seq .notAhead))))

theorem phone_behind (found : stop ∈ ends (phone unicode) start) :
    start.before.head?.any (fun letter => isWord unicode letter || letter = '+') = false := by
  rcases List.mem_append.mp found with local_ | international
  · exact ends_behind local_
  · exact ends_behind international

theorem phone_edge (found : stop ∈ ends (phone unicode) start) :
    start.before.head?.any unicode.isDecimal = false ∧
      stop.after.head?.any unicode.isDecimal = false := by
  refine ⟨?_, phone_ahead unicode start stop found⟩
  rw [any_false]
  intro letter head
  have free := any_false.mp (phone_behind found) letter head
  cases decimal : unicode.isDecimal letter with
  | false => rfl
  | true =>
      have word := unicode.alnum letter decimal
      simp [isWord, word] at free

/-- Matches between letters that are not marked leave marked letters apart. -/
theorem pieces_clean {mark : Char → Bool} {pattern : Pattern Char}
    (edge : ∀ start stop, stop ∈ ends pattern start →
      start.before.head?.any mark = false ∧ stop.after.head?.any mark = false)
    (text : List Char) : Clean mark (pieces pattern text) := by
  intro first matched last shape
  exact edge_any.mpr (edge _ _ (List.mem_of_mem_head? (pieces_found shape).1))

end Patterns

theorem cardPieces_clean (unicode : UnicodeData) (text : List Char) :
    Clean unicode.isDecimal (cardPieces unicode text) :=
  spread_clean _ (pieces_clean (fun _ _ => cardCandidate_edge) text)

theorem phone_clean (unicode : UnicodeData) (text : List Char) :
    Clean unicode.isDecimal (pieces (phone unicode) text) :=
  pieces_clean (fun _ _ => phone_edge) text

section Numbers

variable {number : List Char}

theorem solid_text (unicode : UnicodeData) {mask : List Char} (nonempty : mask ≠ [])
    (plain : mask.all (fun letter =>
      letter.toNat < 128 && !letter.isDigit && !isJoiner letter) = true) :
    Solid (isInside unicode) fun _ => mask where
  nonempty := fun _ => nonempty
  outside := by
    intro _ letter found
    have here := List.all_eq_true.mp plain letter found
    simp only [Bool.and_eq_true, decide_eq_true_eq, Bool.not_eq_true'] at here
    rw [isInside, unicode.asciiDecimal letter here.1.1, here.1.2, here.2]
    rfl

theorem cardMask_solid (unicode : UnicodeData) : Solid (isInside unicode) cardMask :=
  solid_text unicode (by decide) (by decide)

theorem phoneMask_solid (unicode : UnicodeData) : Solid (isInside unicode) phoneMask :=
  solid_text unicode (by decide) (by decide)

/-- The numbers that a replacement leaves are those that meet no match. -/
theorem shows_result {replace : List Char → List Char} (solid : Solid (isInside unicode) replace)
    {pieces : List (Piece Char)} (clean : Clean unicode.isDecimal pieces)
    (grouped : Grouped unicode number) {before after : List Char} :
    (result replace pieces = before ++ number ++ after ∧ Edge unicode.isDecimal before after) ↔
      ∃ first last, pieces = first ++ number.map .kept ++ last ∧ result replace first = before ∧
        result replace last = after ∧ Edge unicode.isDecimal (source first) (source last) := by
  constructor
  · intro ⟨shape, edge⟩
    have ⟨first, last, split, early, late⟩ :=
      result_text solid grouped.nonempty grouped.inside shape
    rw [split] at clean
    rw [← early, ← late, edge_iff clean grouped.starts grouped.stops] at edge
    exact ⟨first, last, split, early, late, edge⟩
  · intro ⟨first, last, split, early, late, edge⟩
    rw [split] at clean ⊢
    rw [← edge_iff clean grouped.starts grouped.stops, early, late] at edge
    refine ⟨?_, edge⟩
    rw [result_append, result_append, early, late, result_kept]

end Numbers

theorem redactText_redacted (unicode : UnicodeData) (text : List Char) :
    redactText unicode .redacted text =
      result phoneMask (pieces (phone unicode)
        (result cardMask (cardPieces unicode (maskEmailsAndSecrets unicode text)))) := by
  unfold cardPieces
  rw [spread_result]
  rfl

theorem CardRun.number {number : List Char} (run : CardRun unicode number) :
    CardNumber unicode number where
  grouped := by
    have nonempty : number ≠ [] := by
      intro empty
      have card := run.card
      rw [empty] at card
      cases card
    have row := run.row
    clear run
    induction number with
    | nil => exact absurd rfl nonempty
    | cons letter rest ih =>
        have ⟨decimal, others⟩ := List.forall_mem_cons.mp row
        by_cases alone : rest = []
        · rw [alone]
          exact .last decimal
        · exact .next decimal (ih alone others)
  card := run.card

/-- A card number that the card step leaves has another digit joined to it. -/
theorem kept_joined {text number : List Char} {first last : List (Piece Char)}
    (card : CardNumber unicode number)
    (split : cardPieces unicode text = first ++ number.map .kept ++ last)
    (edge : Edge unicode.isDecimal (source first) (source last)) :
    Joined unicode (source first) (source last) := by
  by_contra alone
  have whole : text = source first ++ (number ++ source last) := by
    have parts := congrArg source split
    rw [cardPieces, spread_source, pieces_source, source_append, source_append, source_kept,
      List.append_assoc] at parts
    exact parts
  have size := card.card
  simp only [isCard, Bool.and_eq_true, decide_eq_true_eq] at size
  have ⟨early, late, found, same, _⟩ := alone_found card.grouped size.1.1 size.1.2 edge alone
  rw [cardPieces, whole, found, spread_append, spread_hit _ card.card, List.append_assoc] at split
  cases number with
  | nil => exact card.grouped.nonempty rfl
  | cons letter rest =>
      have places : source (spread (isCard unicode) early) = source first := by
        rw [spread_source, same]
      have one := same_place split places (List.cons_ne_nil _ _) (List.cons_ne_nil _ _)
      cases one

/-- A redacted text shows no card number exactly when those joined to other digits are covered. -/
theorem redactText_showsNo {kind : List Char → Prop}
    (cards : ∀ number, kind number → CardNumber unicode number) (text : List Char) :
    ShowsNo unicode kind (redactText unicode .redacted text) ↔
      Covered unicode kind (maskEmailsAndSecrets unicode text) := by
  rw [redactText_redacted]
  generalize maskEmailsAndSecrets unicode text = masked
  have clean := cardPieces_clean unicode masked
  constructor
  · intro showsNo first number last own _ split edge
    rintro ⟨before, after, phoned, early, late⟩
    have card := cards number own
    have shown := (shows_result (cardMask_solid unicode) clean card.grouped).mpr
      ⟨first, last, split, rfl, rfl, edge⟩
    have kept := (shows_result (phoneMask_solid unicode) (phone_clean unicode _) card.grouped).mpr
      ⟨before, after, phoned, rfl, rfl, by rw [early, late]; exact shown.2⟩
    rw [← shown.1] at kept
    exact showsNo number own ⟨_, _, kept⟩
  · intro covered number own ⟨before, after, shown⟩
    have card := cards number own
    have ⟨first, last, phoned, _, _, edge⟩ :=
      (shows_result (phoneMask_solid unicode) (phone_clean unicode _) card.grouped).mp shown
    have whole := pieces_source (phone unicode) (result cardMask (cardPieces unicode masked))
    rw [phoned, source_append, source_append, source_kept] at whole
    have ⟨early, late, split, left, right, outer⟩ :=
      (shows_result (cardMask_solid unicode) clean card.grouped).mp ⟨whole.symm, edge⟩
    refine covered early number late own (kept_joined card split outer) split outer
      ⟨first, last, ?_, left.symm, right.symm⟩
    rw [left, right, whole]
    exact phoned

/-- Masking e-mail addresses and secrets brings no digits and joiners together. -/
theorem infix_of_masked {text stretch : List Char} (nonempty : stretch ≠ [])
    (inside : ∀ letter ∈ stretch, isInside unicode letter = true)
    (found : stretch <:+: maskEmailsAndSecrets unicode text) : stretch <:+: text := by
  have email := solid_text unicode (show "[email]".toList ≠ [] by decide) (by decide)
  have secret := solid_text unicode (show "[secret]".toList ≠ [] by decide) (by decide)
  simp only [maskEmailsAndSecrets, secretPatterns, List.foldl_cons, List.foldl_nil] at found
  have third := infix_of_sub secret nonempty inside found
  have second := infix_of_sub secret nonempty inside third
  have first := infix_of_sub secret nonempty inside second
  exact infix_of_sub email nonempty inside first

/-- A text in which no digit is joined to a card number shows none once it is redacted. -/
theorem redactText_unjoined {text : List Char}
    (unjoined : ∀ before number after, CardNumber unicode number →
      text = before ++ number ++ after →
      ¬ Joined unicode before after) :
    ShowsNo unicode (CardNumber unicode) (redactText unicode .redacted text) := by
  rw [redactText_showsNo fun _ card => card]
  intro first number last card joined split _
  have whole : maskEmailsAndSecrets unicode text = source first ++ number ++ source last := by
    have parts := congrArg source split
    rwa [cardPieces, spread_source, pieces_source, source_append, source_append,
      source_kept] at parts
  have inside := card.grouped.inside
  have digit : ∀ {letter : Char}, unicode.isDecimal letter = true →
      isInside unicode letter = true := fun decimal => by rw [isInside, decimal, Bool.true_or]
  have joins : ∀ {letter : Char}, isJoiner letter = true → isInside unicode letter = true :=
    fun joiner => by rw [isInside, joiner, Bool.or_true]
  rcases joined with ⟨early, letter, joiner, shape, decimal, joining⟩ |
    ⟨joiner, letter, late, shape, joining, decimal⟩
  · have found : [letter, joiner] ++ number <:+: maskEmailsAndSecrets unicode text :=
      ⟨early, source last, by rw [whole, shape]; simp⟩
    obtain ⟨before, after, same⟩ := infix_of_masked (by simp)
      (List.forall_mem_append.mpr ⟨by simp [digit decimal, joins joining], inside⟩) found
    exact absurd (.inl ⟨before, letter, joiner, rfl, decimal, joining⟩)
      (unjoined (before ++ [letter, joiner]) number after card (by rw [← same]; simp))
  · have found : number ++ [joiner, letter] <:+: maskEmailsAndSecrets unicode text :=
      ⟨source first, late, by rw [whole, shape]; simp⟩
    obtain ⟨before, after, same⟩ := infix_of_masked (by simp)
      (List.forall_mem_append.mpr ⟨inside, by simp [digit decimal, joins joining]⟩) found
    exact absurd (.inr ⟨joiner, letter, after, rfl, joining, decimal⟩)
      (unjoined before number (joiner :: letter :: after) card (by rw [← same]; simp))

/-- No run of digits and no card number survives exactly when those joined to other digits are
covered. -/
theorem redactText_noCard (unicode : UnicodeData) (text : List Char) :
    let redacted := redactText unicode .redacted text
    let masked := maskEmailsAndSecrets unicode text
    (ShowsNo unicode (CardRun unicode) redacted ↔ Covered unicode (CardRun unicode) masked) ∧
      (ShowsNo unicode (CardNumber unicode) redacted ↔
        Covered unicode (CardNumber unicode) masked) :=
  ⟨redactText_showsNo (fun _ run => run.number) text, redactText_showsNo (fun _ card => card) text⟩

/-- Only ASCII digits and letters. -/
def asciiData : UnicodeData where
  isDecimal := Char.isDigit
  isAlnum := Char.isAlphanum
  decimal := fun letter => if letter.isDigit then letter.toNat - 48 else 0
  alnum := by
    intro letter digit
    rw [Char.isAlphanum, digit, Bool.or_true]
  asciiDecimal := fun _ _ => rfl
  asciiAlnum := fun _ _ => rfl
  asciiValue := fun _ digit => if_pos digit
  below := by
    intro letter
    split
    · rename_i digit
      rw [Char.isDigit_iff_toNat] at digit
      have nine : '9'.toNat = 57 := rfl
      omega
    · decide

/-- The 18 digits of this card and what follows it are tested together. -/
theorem redactText_leaves_card :
    let text := "4111111111111111 12".toList
    CardRun asciiData "4111111111111111".toList ∧
      Shows asciiData text "4111111111111111".toList ∧
      redactText asciiData .redacted text = text ∧
      ¬ ShowsNo asciiData (CardRun asciiData) (redactText asciiData .redacted text) := by
  have run : CardRun asciiData "4111111111111111".toList :=
    ⟨List.all_eq_true.mp (by decide), by decide +kernel⟩
  have shown : Shows asciiData "4111111111111111 12".toList "4111111111111111".toList :=
    ⟨[], " 12".toList, by decide, edge_any.mpr ⟨by decide, by decide⟩⟩
  have same : redactText asciiData .redacted "4111111111111111 12".toList =
      "4111111111111111 12".toList := by decide +kernel
  refine ⟨run, shown, same, ?_⟩
  rw [same]
  intro showsNo
  exact showsNo _ run shown

end AiPlatform.Redaction
