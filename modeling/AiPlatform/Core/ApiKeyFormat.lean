import AiPlatform.Core.ApiKeys
import AiPlatform.Lib.Joined

set_option autoImplicit false

/- `AUTH_API_KEYS` as an operator writes it, and what `parse_api_keys` makes of it. -/
namespace AiPlatform.Identity

open Text

/-- A digest of SHA-256. -/
def Digest (digest : List Nat) : Prop := digest.length = 32 ∧ ∀ byte ∈ digest, byte < 256

/-- A text that stands between separators as it is. -/
def Part (separators : List Char) (text : String) : Prop :=
  text ≠ "" ∧ strip text = text ∧ ∀ letter ∈ text.toList, letter ∉ separators

instance (separators : List Char) (text : String) : Decidable (Part separators text) :=
  let _ : Decidable (∀ letter ∈ text.toList, letter ∉ separators) := List.decidableBAll _ _
  inferInstanceAs (Decidable (_ ∧ _ ∧ _))

/-- A key that can be written down. Its scopes may have colons. -/
structure ApiKey.Plain (key : ApiKey) : Prop where
  subject : Part [',', ':'] key.subject
  scopes : ∀ scope ∈ key.scopes, Part [',', '|'] scope
  digest : Digest key.digest

/-- `subject:scope|scope:hexdigest`. -/
def ApiKey.render (key : ApiKey) : String :=
  key.subject ++ ":" ++ "|".intercalate key.scopes ++ ":" ++ hex key.digest

/-- What stands between two commas: an entry or none, in whitespace. -/
structure Entry where
  before : List Char
  key : Option ApiKey
  after : List Char

def Entry.text (entry : Entry) : String :=
  String.ofList (entry.before ++ (entry.key.elim "" ApiKey.render).toList ++ entry.after)

structure Entry.Plain (entry : Entry) : Prop where
  before : ∀ letter ∈ entry.before, isSpace letter = true
  key : ∀ key ∈ entry.key, key.Plain
  after : ∀ letter ∈ entry.after, isSpace letter = true

/-- The value of the setting. -/
def renderKeys (entries : List Entry) : String := ",".intercalate (entries.map Entry.text)

section Hex

theorem hexDigit_digitChar : ∀ digit < 16, hexDigit (Nat.digitChar digit) = some digit ∧
    Nat.digitChar digit ∉ ['\t', '\n', '\x0b', '\x0c', '\r', ' '] := by decide

theorem hexDigit_lt {letter : Char} {digit : Nat} (read : hexDigit letter = some digit) :
    digit < 16 := by
  have value : ∀ {low high : Char}, low ≤ letter ∧ letter ≤ high →
      low.toNat ≤ letter.toNat ∧ letter.toNat ≤ high.toNat := fun bounds => bounds
  unfold hexDigit at read
  split at read
  · rename_i bounds
    have := value bounds
    have := Option.some.inj read
    simp at *
    omega
  · split at read
    · rename_i bounds
      have := value bounds
      have := Option.some.inj read
      simp at *
      omega
    · split at read
      · rename_i bounds
        have := value bounds
        have := Option.some.inj read
        simp at *
        omega
      · cases read

theorem fromHex_hex {bytes : List Nat} (small : ∀ byte ∈ bytes, byte < 256) :
    fromHex (hex bytes).toList = some bytes := by
  rw [hex, String.toList_ofList]
  induction bytes with
  | nil => rfl
  | cons byte rest ih =>
      obtain ⟨here, later⟩ := List.forall_mem_cons.mp small
      obtain ⟨high, plain⟩ := hexDigit_digitChar (byte / 16) (by omega)
      obtain ⟨low, -⟩ := hexDigit_digitChar (byte % 16) (by omega)
      have whole : 16 * (byte / 16) + byte % 16 = byte := by omega
      simp only [List.flatMap_cons, List.cons_append, List.nil_append, fromHex, if_neg plain]
      rw [high, low, ih later]
      simp [whole]

theorem fromHex_lt {letters : List Char} {bytes : List Nat}
    (read : fromHex letters = some bytes) : ∀ byte ∈ bytes, byte < 256 := by
  induction letters using fromHex.induct generalizing bytes with
  | case1 => simp_all [fromHex]
  | case2 top rest blank ih =>
      unfold fromHex at read
      rw [if_pos blank] at read
      exact ih read
  | case3 top filled => simp [fromHex, filled] at read
  | case4 top filled bottom rest ih =>
      simp only [fromHex, if_neg filled, Option.bind_eq_bind, Option.bind_eq_some_iff] at read
      obtain ⟨high, highRead, low, lowRead, tail, tailRead, same⟩ := read
      have highSmall := hexDigit_lt highRead
      have lowSmall := hexDigit_lt lowRead
      rw [← Option.some.inj same]
      exact List.forall_mem_cons.mpr ⟨by omega, ih tailRead⟩

theorem hex_plain {bytes : List Nat} (small : ∀ byte ∈ bytes, byte < 256) {letter : Char}
    (member : letter ∈ (hex bytes).toList) :
    isSpace letter = false ∧ letter ≠ ':' ∧ letter ≠ ',' := by
  have plain : ∀ digit < 16, isSpace (Nat.digitChar digit) = false ∧
      Nat.digitChar digit ≠ ':' ∧ Nat.digitChar digit ≠ ',' := by decide
  rw [hex, String.toList_ofList] at member
  obtain ⟨byte, inside, digit⟩ := List.mem_flatMap.mp member
  have bound := small byte inside
  simp only [List.mem_cons, List.not_mem_nil, or_false] at digit
  rcases digit with rfl | rfl
  · exact plain (byte / 16) (by omega)
  · exact plain (byte % 16) (by omega)

end Hex

section Entries

variable {key : ApiKey}

theorem Part.not_mem {separators : List Char} {text : String} (part : Part separators text)
    {separator : Char} (listed : separator ∈ separators) : separator ∉ text.toList :=
  fun member => part.2.2 separator member listed

theorem ApiKey.render_toList (key : ApiKey) : key.render.toList =
    key.subject.toList ++ ':' :: (("|".intercalate key.scopes).toList ++
      ':' :: (hex key.digest).toList) := by
  simp [ApiKey.render]

/-- The fields of an entry: the colons of the scopes are the ones between. -/
theorem ApiKey.Plain.split (plain : key.Plain) : split key.render ':' =
    key.subject :: (Text.split ("|".intercalate key.scopes) ':' ++ [hex key.digest]) := by
  have digest : ':' ∉ (hex key.digest).toList :=
    fun member => (hex_plain plain.digest.2 member).2.1 rfl
  rw [Text.split, ApiKey.render_toList,
    List.splitOn_append_cons_self_of_not_mem (plain.subject.not_mem (by decide)),
    List.splitOn_append_cons_self, List.splitOn_eq_singleton digest]
  simp [Text.split]

theorem ApiKey.Plain.scopesPart (plain : key.Plain) :
    splitStripped ("|".intercalate key.scopes) '|' = key.scopes := by
  rw [splitStripped_intercalate rfl fun scope member =>
    (plain.scopes scope member).not_mem (by decide)]
  have same : key.scopes.map strip = key.scopes :=
    (List.map_congr_left fun scope member => (plain.scopes scope member).2.1).trans (List.map_id _)
  rw [same]
  exact List.filter_eq_self.mpr fun scope member =>
    decide_eq_true (plain.scopes scope member).1

theorem parseEntry_render (plain : key.Plain) : parseEntry key.render = .ok key := by
  have fields := plain.split
  have scopes : ":".intercalate (Text.split ("|".intercalate key.scopes) ':') =
      "|".intercalate key.scopes := intercalate_split rfl _
  have some : Text.split ("|".intercalate key.scopes) ':' ≠ [] := by
    simp [Text.split]
  have enough := List.length_pos_iff.mpr some
  have digest := fromHex_hex plain.digest.2
  have subject := plain.subject
  unfold parseEntry
  simp only [fields, List.headD_cons, List.drop_one, List.tail_cons, List.dropLast_concat, scopes,
    List.getLastD_cons, List.getLastD_concat, digest, Option.getD_some, plain.scopesPart,
    subject.2.1]
  refine if_neg ?_
  rintro (short | blank | wrong)
  · simp only [List.length_cons, List.length_append, List.length_nil] at short
    omega
  · exact subject.1 blank
  · exact wrong plain.digest.1

/-- A written entry begins and ends with a letter other than whitespace. -/
theorem ApiKey.Plain.strip_render (plain : key.Plain) : strip key.render = key.render := by
  obtain ⟨named, stripped, -⟩ := plain.subject
  have first : ∃ letter rest, key.subject.toList = letter :: rest := by
    apply List.exists_cons_of_ne_nil
    simpa using named
  obtain ⟨letter, rest, shape⟩ := first
  have filled : (hex key.digest).toList ≠ [] := by
    have length := plain.digest.1
    cases bytes : key.digest with
    | nil => simp [bytes] at length
    | cons byte rest => simp [hex]
  apply strip_of_ends
  · intro other start
    rw [ApiKey.render_toList, shape] at start
    rw [← Option.some.inj start]
    apply strip_first key.subject
    rw [stripped, shape]
    rfl
  · intro other stop
    rw [ApiKey.render_toList, List.getLast?_append, List.getLast?_cons, List.getLast?_append,
      List.getLast?_cons, List.getLast?_eq_some_getLast filled] at stop
    have same : (hex key.digest).toList.getLast filled = other := by simpa using stop
    rw [← same]
    exact (hex_plain plain.digest.2 (List.getLast_mem filled)).1

theorem ApiKey.Plain.comma (plain : key.Plain) : ',' ∉ key.render.toList := by
  have scopes : ',' ∉ ("|".intercalate key.scopes).toList :=
    not_mem_intercalate (by decide) fun scope member =>
      (plain.scopes scope member).not_mem (by decide)
  have digest : ',' ∉ (hex key.digest).toList :=
    fun member => (hex_plain plain.digest.2 member).2.2 rfl
  have subject : ',' ∉ key.subject.toList := plain.subject.not_mem (by decide)
  rw [ApiKey.render_toList]
  simp only [List.mem_append, List.mem_cons, not_or]
  exact ⟨subject, by decide, scopes, by decide, digest⟩

theorem Entry.Plain.comma {entry : Entry} (plain : entry.Plain) : ',' ∉ entry.text.toList := by
  have comma : isSpace ',' = false := by decide
  have before : ',' ∉ entry.before := fun member => by simpa [comma] using plain.before _ member
  have after : ',' ∉ entry.after := fun member => by simpa [comma] using plain.after _ member
  have within : ',' ∉ (entry.key.elim "" ApiKey.render).toList := by
    cases written : entry.key with
    | none => simp
    | some key => exact (plain.key key written).comma
  simp [Entry.text, before, after, within]

theorem Entry.Plain.strip {entry : Entry} (plain : entry.Plain) :
    strip entry.text = entry.key.elim "" ApiKey.render := by
  rw [Entry.text, strip_padded plain.before plain.after]
  cases written : entry.key with
  | none => rfl
  | some key => exact (plain.key key written).strip_render

/-- What is written is read back. -/
theorem parseApiKeys_renderKeys {entries : List Entry} (plain : ∀ entry ∈ entries, entry.Plain) :
    parseApiKeys (renderKeys entries) = .ok (entries.filterMap Entry.key) := by
  have commas : ∀ text ∈ entries.map Entry.text, ',' ∉ text.toList := by
    intro text member
    obtain ⟨entry, inside, rfl⟩ := List.mem_map.mp member
    exact (plain entry inside).comma
  rw [parseApiKeys, renderKeys, splitStripped_intercalate rfl commas, List.map_map]
  induction entries with
  | nil => rfl
  | cons entry rest ih =>
      obtain ⟨here, later⟩ := List.forall_mem_cons.mp plain
      have onward := ih later (fun text member => commas text (List.mem_cons_of_mem _ member))
      rw [List.map_cons, Function.comp_apply, here.strip]
      cases written : entry.key with
      | none => simpa [written] using onward
      | some key =>
          have named : key.render ≠ "" := by
            intro blank
            have shape := key.render_toList
            simp [blank] at shape
          rw [List.filterMap_cons_some written, List.filter_cons_of_pos (by simp [named])]
          simp only [Option.elim_some, List.mapM_cons, parseEntry_render (here.key key written)]
          rw [onward]
          rfl

theorem parseEntry_digest {entry : String} (parsed : parseEntry entry = .ok key) :
    Digest key.digest := by
  unfold parseEntry at parsed
  dsimp only at parsed
  split at parsed
  · cases parsed
  · rename_i wellFormed
    rw [← Except.ok.inj parsed]
    have length : ((fromHex ((split entry ':').getLastD "").toList).getD []).length = 32 := by
      by_contra wrong
      exact wellFormed (.inr (.inr wrong))
    refine ⟨length, ?_⟩
    cases read : fromHex ((split entry ':').getLastD "").toList with
    | none => simp
    | some bytes => exact fromHex_lt read

/-- `parse_api_keys` reads back every list of keys that can be written down, in its order, and takes
no entry without a subject or a digest. -/
theorem parseApiKeys_round_trip :
    (∀ entries : List Entry, (∀ entry ∈ entries, entry.Plain) →
      parseApiKeys (renderKeys entries) = .ok (entries.filterMap Entry.key)) ∧
    ∀ raw keys, parseApiKeys raw = .ok keys → ∀ key ∈ keys,
      strip key.subject ≠ "" ∧ Digest key.digest := by
  refine ⟨fun entries => parseApiKeys_renderKeys, fun raw keys parsed key found => ?_⟩
  obtain ⟨filled, text, stripped⟩ := parseApiKeys_subject parsed found
  have ⟨_, read⟩ := parseApiKeys_entry parsed found
  refine ⟨?_, parseEntry_digest read⟩
  rw [stripped, strip_idem, ← stripped]
  exact filled

end Entries

/-- Blank entries, whitespace of three kinds, a scope with a colon and a key without scopes. -/
def operatorEntries : List Entry :=
  [⟨[], none, []⟩,
    ⟨[' '], some ⟨"alice", ["tasks:read", "tasks:write"], List.replicate 32 10⟩, ['\n']⟩,
    ⟨['\t', ' '], none, []⟩,
    ⟨[], some ⟨"bob smith", [], List.replicate 32 255⟩, []⟩]

theorem parseApiKeys_round_trip_operator :
    parseApiKeys (renderKeys operatorEntries) = .ok
      [⟨"alice", ["tasks:read", "tasks:write"], List.replicate 32 10⟩,
        ⟨"bob smith", [], List.replicate 32 255⟩] := by
  refine parseApiKeys_round_trip.1 operatorEntries ?_
  have part : Part [',', ':'] "alice" ∧ Part [',', ':'] "bob smith" ∧
      ∀ scope ∈ ["tasks:read", "tasks:write"], Part [',', '|'] scope := by decide
  have digest : ∀ byte < 256, Digest (List.replicate 32 byte) := by
    intro byte small
    exact ⟨List.length_replicate, fun other member => by
      rwa [List.eq_of_mem_replicate member]⟩
  intro entry member
  simp only [operatorEntries, List.mem_cons, List.not_mem_nil, or_false] at member
  rcases member with rfl | rfl | rfl | rfl
  · exact ⟨List.all_eq_true.mp (by decide), nofun, List.all_eq_true.mp (by decide)⟩
  · refine ⟨List.all_eq_true.mp (by decide), ?_, List.all_eq_true.mp (by decide)⟩
    rintro _ ⟨⟩
    exact ⟨part.1, part.2.2, digest 10 (by decide)⟩
  · exact ⟨List.all_eq_true.mp (by decide), nofun, List.all_eq_true.mp (by decide)⟩
  · refine ⟨List.all_eq_true.mp (by decide), ?_, List.all_eq_true.mp (by decide)⟩
    rintro _ ⟨⟩
    exact ⟨part.2.1, nofun, digest 255 (by decide)⟩

end AiPlatform.Identity
