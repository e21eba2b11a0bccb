import Std.Data.String.ToNat
import AiPlatform.Core.ApiKeys
import AiPlatform.Lib.Utf8

set_option autoImplicit false

/- `POSTGRES_URL`, which writes the user and the password as they are, and what the URL parser of
`create_async_engine` makes of it. -/
namespace AiPlatform.DatabaseUrl

open Identity (hexDigit)

/-- `urllib.parse.unquote_to_bytes` of an ASCII text. -/
def unquoteToBytes : List Char → List Nat
  | [] => []
  | '%' :: first :: second :: rest =>
      match hexDigit first, hexDigit second with
      | some high, some low => (16 * high + low) :: unquoteToBytes rest
      | _, _ => 37 :: unquoteToBytes (first :: second :: rest)
  | letter :: rest => letter.toNat :: unquoteToBytes rest

/-- `_generate_unquoted_parts`, from a run of ASCII letters on. -/
def unquotedParts (run : List Char) : List Char → List Char
  | [] => Utf8.decodeReplace (unquoteToBytes run)
  | letter :: rest =>
      if letter.toNat < 128 then unquotedParts (run ++ [letter]) rest
      else Utf8.decodeReplace (unquoteToBytes run) ++ letter :: unquotedParts [] rest

/-- `urllib.parse.unquote`. -/
def unquote (text : String) : String := String.ofList (unquotedParts [] text.toList)

/-- The settings of the mixin that the URL is made of. -/
structure InfraSettings where
  postgresHost : String
  postgresPort : Nat := 5432
  postgresUser : String
  postgresPassword : String
  postgresDb : String
  positivePort : 0 < postgresPort := by decide
  smallPort : postgresPort < 65536 := by decide

def driver : String := "postgresql+asyncpg://"

def urlOf (user password host : String) (port : Nat) (database : String) : String :=
  driver ++ user ++ ":" ++ password ++ "@" ++ host ++ ":" ++ toString port ++ "/" ++ database

/-- `POSTGRES_URL`. -/
def InfraSettings.postgresUrl (settings : InfraSettings) : String :=
  urlOf settings.postgresUser settings.postgresPassword settings.postgresHost
    settings.postgresPort settings.postgresDb

/-- What a URL parser finds. -/
structure Url where
  username : Option String
  password : Option String
  host : Option String
  port : Option Nat
  database : Option String
deriving DecidableEq

/-- The five values as they are in the settings. -/
def InfraSettings.url (settings : InfraSettings) : Url :=
  ⟨some settings.postgresUser, some settings.postgresPassword, some settings.postgresHost,
    some settings.postgresPort, some settings.postgresDb⟩

/-- A host or database name of ordinary characters. -/
def Ordinary (text : String) : Prop :=
  text ≠ "" ∧ ∀ letter ∈ text.toList, letter.isAlphanum = true ∨ letter ∈ ['-', '.', '_']

instance (text : String) : Decidable (Ordinary text) :=
  let _ : Decidable (∀ letter ∈ text.toList,
      letter.isAlphanum = true ∨ letter ∈ ['-', '.', '_']) := List.decidableBAll _ _
  inferInstanceAs (Decidable (_ ∧ _))

/-- The text begins with a user name, the first colon after it, a password and the first at sign
after that. -/
def Userinfo (ends : Char → Bool) (text user password : String) : Prop :=
  (∀ letter ∈ user.toList, ends letter = false) ∧ '@' ∉ password.toList ∧
    ∃ rest, text.toList =
      driver.toList ++ (user.toList ++ ':' :: (password.toList ++ '@' :: rest))

/-- The URL parser of `create_async_engine`. `ends` are the letters that a user name is not read
past, the colon among them. -/
structure UrlParser where
  parse : String → Option Url
  ends : Char → Bool
  colon : ends ':' = true
  reads : ∀ user password host port database, (∀ letter ∈ user.toList, ends letter = false) →
    '@' ∉ password.toList → Ordinary host → Ordinary database → 0 < port → port < 65536 →
      parse (urlOf user password host port database) =
        some ⟨some (unquote user), some (unquote password), some host, some port, some database⟩
  userinfo : ∀ text url user password, parse text = some url → url.username = some user →
    url.password = some password → ∃ rawUser rawPassword, Userinfo ends text rawUser rawPassword ∧
      unquote rawUser = user ∧ unquote rawPassword = password

def twoDigits : List Char → Bool
  | first :: second :: _ => (hexDigit first).isSome && (hexDigit second).isSome
  | _ => false

/-- Somewhere a percent sign has two hex digits after it. -/
def escaped : List Char → Bool
  | [] => false
  | letter :: rest => letter = '%' && twoDigits rest || escaped rest

section Unquote

theorem hexDigit_ascii {letter : Char} (digit : (hexDigit letter).isSome = true) :
    letter.toNat < 128 ∧ letter ≠ '%' := by
  have range : ∀ {low high : Char}, low ≤ letter ∧ letter ≤ high →
      low.toNat ≤ letter.toNat ∧ letter.toNat ≤ high.toNat := fun bounds => bounds
  have percent : letter = '%' → letter.toNat = 37 := by
    rintro rfl
    rfl
  unfold hexDigit at digit
  split at digit
  · rename_i bounds
    have := range bounds
    simp at this
    exact ⟨by omega, fun same => by have := percent same; omega⟩
  · split at digit
    · rename_i bounds
      have := range bounds
      simp at this
      exact ⟨by omega, fun same => by have := percent same; omega⟩
    · split at digit
      · rename_i bounds
        have := range bounds
        simp at this
        exact ⟨by omega, fun same => by have := percent same; omega⟩
      · cases digit

/-- Percent decoding shortens a text that has an escape, and leaves any other as it is. -/
theorem unquoteToBytes_spec (letters : List Char) :
    (escaped letters = true ∧ (unquoteToBytes letters).length < letters.length) ∨
      (escaped letters = false ∧ unquoteToBytes letters = letters.map Char.toNat) := by
  fun_induction unquoteToBytes letters with
  | case1 => simp [escaped]
  | case2 first second rest high low lowRead highRead ih =>
      have shorter : (unquoteToBytes rest).length ≤ rest.length := by
        rcases ih with ⟨-, less⟩ | ⟨-, same⟩
        · omega
        · simp [same]
      refine .inl ⟨by simp [escaped, twoDigits, highRead, lowRead], ?_⟩
      simp only [List.length_cons]
      omega
  | case3 first second rest plain ih =>
      have here : escaped ('%' :: first :: second :: rest) =
          escaped (first :: second :: rest) := by
        cases highRead : hexDigit first with
        | none => simp [escaped, twoDigits, highRead]
        | some high =>
            cases lowRead : hexDigit second with
            | none => simp [escaped, twoDigits, highRead, lowRead]
            | some low => exact absurd lowRead (plain high low highRead)
      rw [here]
      rcases ih with ⟨found, less⟩ | ⟨absent, same⟩
      · exact .inl ⟨found, by simpa using less⟩
      · exact .inr ⟨absent, by rw [same]; rfl⟩
  | case4 letter rest other ih =>
      have here : escaped (letter :: rest) = escaped rest := by
        by_cases percent : letter = '%'
        · subst percent
          match rest, other with
          | [], _ => rfl
          | [_], _ => rfl
          | first :: second :: more, other => exact absurd rfl (other first second more rfl)
        · simp [escaped, percent]
      rw [here]
      rcases ih with ⟨found, less⟩ | ⟨absent, same⟩
      · exact .inl ⟨found, by simpa using less⟩
      · exact .inr ⟨absent, by rw [same]; rfl⟩

theorem twoDigits_append {letter : Char} (other : hexDigit letter = none) (run rest : List Char) :
    twoDigits (run ++ letter :: rest) = twoDigits run := by
  match run with
  | [] => cases rest <;> simp [twoDigits, other]
  | [first] => simp [twoDigits, other]
  | first :: second :: more => rfl

/-- No escape goes across a letter outside ASCII. -/
theorem escaped_append {letter : Char} (wide : ¬letter.toNat < 128) (run rest : List Char) :
    escaped (run ++ letter :: rest) = (escaped run || escaped rest) := by
  have other : hexDigit letter = none := by
    by_contra digit
    exact wide (hexDigit_ascii (Option.isSome_iff_ne_none.mpr digit)).1
  have percent : letter ≠ '%' := by
    rintro rfl
    exact wide (by decide)
  induction run with
  | nil => simp [escaped, percent]
  | cons first run ih =>
      rw [List.cons_append, escaped, ih, escaped, twoDigits_append other, Bool.or_assoc]

/-- The same of a text with a run of ASCII letters before it. -/
theorem unquotedParts_spec (run : List Char) (ascii : ∀ letter ∈ run, letter.toNat < 128)
    (rest : List Char) :
    (escaped (run ++ rest) = true ∧ (unquotedParts run rest).length < (run ++ rest).length) ∨
      (escaped (run ++ rest) = false ∧ unquotedParts run rest = run ++ rest) := by
  have decoded : ∀ run : List Char, (∀ letter ∈ run, letter.toNat < 128) →
      (escaped run = true ∧ (Utf8.decodeReplace (unquoteToBytes run)).length < run.length) ∨
        (escaped run = false ∧ Utf8.decodeReplace (unquoteToBytes run) = run) := by
    intro run ascii
    rcases unquoteToBytes_spec run with ⟨found, less⟩ | ⟨absent, same⟩
    · exact .inl ⟨found, lt_of_le_of_lt (Utf8.decodeReplace_length _) less⟩
    · exact .inr ⟨absent, by rw [same, Utf8.decodeReplace_ascii ascii]⟩
  induction rest generalizing run with
  | nil => simpa [unquotedParts] using decoded run ascii
  | cons letter rest ih =>
      by_cases here : letter.toNat < 128
      · have longer : ∀ other ∈ run ++ [letter], other.toNat < 128 := by
          intro other member
          rcases List.mem_append.mp member with old | new
          · exact ascii other old
          · rwa [List.mem_singleton.mp new]
        have onward := ih _ longer
        rw [List.append_assoc] at onward
        rw [unquotedParts, if_pos here]
        exact onward
      · rw [escaped_append here]
        simp only [unquotedParts, if_neg here, List.length_append, List.length_cons]
        rcases decoded run ascii with ⟨found, less⟩ | ⟨absent, same⟩
        · rcases ih [] nofun with ⟨_, less'⟩ | ⟨_, same'⟩
          · exact .inl ⟨by simp [found], by simp at less'; omega⟩
          · exact .inl ⟨by simp [found], by simp [same']; omega⟩
        · rcases ih [] nofun with ⟨found', less'⟩ | ⟨absent', same'⟩
          · simp at found' less'
            exact .inl ⟨by simp [found'], by rw [same]; omega⟩
          · simp at absent' same'
            exact .inr ⟨by simp [absent, absent'], by rw [same, same']⟩

theorem unquote_length (text : String) :
    (unquote text).toList.length ≤ text.toList.length := by
  rw [unquote, String.toList_ofList]
  rcases unquotedParts_spec [] nofun text.toList with ⟨_, less⟩ | ⟨_, same⟩
  · exact le_of_lt less
  · rw [same]
    exact Nat.le_refl _

/-- Exactly the texts without an escape are left as they are. -/
theorem unquote_eq_iff (text : String) : unquote text = text ↔ escaped text.toList = false := by
  rcases unquotedParts_spec [] nofun text.toList with ⟨found, less⟩ | ⟨absent, same⟩
  · rw [List.nil_append] at found less
    simp only [found, Bool.true_eq_false, iff_false]
    intro unchanged
    have length := congrArg (fun text => text.toList.length) unchanged
    simp only [unquote, String.toList_ofList] at length
    omega
  · rw [List.nil_append] at absent same
    simp only [absent, iff_true]
    rw [unquote, same, String.ofList_toList]

end Unquote

section Url

/-- Of two texts up to the same mark, the one without the mark is the longer one only if it is the
other. -/
theorem cut_unique {mark : Char} {first second rest other : List Char} (free : mark ∉ second)
    (short : first.length ≤ second.length)
    (same : first ++ mark :: rest = second ++ mark :: other) :
    first = second ∧ rest = other := by
  rcases List.append_eq_append_iff.mp same with ⟨more, longer, tail⟩ | ⟨more, longer, tail⟩
  · cases more with
    | nil =>
        rw [List.append_nil] at longer
        exact ⟨longer.symm, (List.cons.inj tail).2⟩
    | cons letter more =>
        rw [longer, ← (List.cons.inj tail).1] at free
        simp at free
  · have empty : more = [] := by
      rw [longer, List.length_append] at short
      exact List.eq_nil_of_length_eq_zero (by omega)
    rw [empty, List.append_nil] at longer
    rw [empty] at tail
    exact ⟨longer, (List.cons.inj tail).2.symm⟩

theorem urlOf_toList (user password host : String) (port : Nat) (database : String) :
    ∃ rest, (urlOf user password host port database).toList =
      driver.toList ++ (user.toList ++ ':' :: (password.toList ++ '@' :: rest)) := by
  refine ⟨host.toList ++ ':' :: ((toString port).toList ++ '/' :: database.toList), ?_⟩
  simp [urlOf]

/-- Settings that the URL gives back. -/
theorem parses_plain {parser : UrlParser} {settings : InfraSettings}
    (parsed : parser.parse settings.postgresUrl = some settings.url) :
    (∀ letter ∈ settings.postgresUser.toList, parser.ends letter = false) ∧
      '@' ∉ settings.postgresPassword.toList ∧
      escaped settings.postgresUser.toList = false ∧
      escaped settings.postgresPassword.toList = false := by
  obtain ⟨user, password, ⟨plain, free, rest, text⟩, userRead, passwordRead⟩ :=
    parser.userinfo _ _ _ _ parsed rfl rfl
  obtain ⟨after, whole⟩ := urlOf_toList settings.postgresUser settings.postgresPassword
    settings.postgresHost settings.postgresPort settings.postgresDb
  have parts := List.append_cancel_left (whole.symm.trans text)
  -- What was read is no longer than what it was read from.
  have userLength := unquote_length user
  have passwordLength := unquote_length password
  rw [userRead] at userLength
  rw [passwordRead] at passwordLength
  have colon : ':' ∉ user.toList := by
    intro member
    have ends := plain ':' member
    rw [parser.colon] at ends
    cases ends
  obtain ⟨sameUser, others⟩ := cut_unique colon userLength parts
  obtain ⟨samePassword, -⟩ := cut_unique free passwordLength others
  rw [String.toList_inj] at sameUser samePassword
  rw [← sameUser] at plain userRead
  rw [← samePassword] at free passwordRead
  exact ⟨plain, free, (unquote_eq_iff _).mp userRead, (unquote_eq_iff _).mp passwordRead⟩

/-- The URL gives the settings back exactly when the user name has no letter that ends it early, the
password no at sign, and neither an escape. -/
theorem postgresUrl_parses_iff (parser : UrlParser) (settings : InfraSettings)
    (host : Ordinary settings.postgresHost) (database : Ordinary settings.postgresDb) :
    parser.parse settings.postgresUrl = some settings.url ↔
      (∀ letter ∈ settings.postgresUser.toList, parser.ends letter = false) ∧
      '@' ∉ settings.postgresPassword.toList ∧
      escaped settings.postgresUser.toList = false ∧
      escaped settings.postgresPassword.toList = false := by
  constructor
  · exact parses_plain
  · rintro ⟨plain, free, user, password⟩
    have read := parser.reads settings.postgresUser settings.postgresPassword _
      settings.postgresPort _ plain free host database settings.positivePort settings.smallPort
    rw [(unquote_eq_iff _).mpr user, (unquote_eq_iff _).mpr password] at read
    exact read

/-- The text before and after the first mark. -/
def cutAt (mark : Char) (letters : List Char) : Option (String × List Char) :=
  match letters.dropWhile (· ≠ mark) with
  | [] => none
  | _ :: rest => some (String.ofList (letters.takeWhile (· ≠ mark)), rest)

theorem cutAt_some {mark : Char} {letters rest : List Char} {before : String}
    (cut : cutAt mark letters = some (before, rest)) :
    mark ∉ before.toList ∧ letters = before.toList ++ mark :: rest := by
  unfold cutAt at cut
  split at cut
  · cases cut
  · rename_i stop after found
    obtain ⟨rfl, rfl⟩ := Prod.mk.inj (Option.some.inj cut)
    have stopped := List.head?_dropWhile_not (· ≠ mark) letters
    rw [found] at stopped
    have same : stop = mark := by simpa using stopped
    rw [String.toList_ofList]
    refine ⟨fun member => by simpa using List.mem_takeWhile_imp member, ?_⟩
    rw [← same, ← found, same, List.takeWhile_append_dropWhile]

theorem cutAt_append {mark : Char} {before : String} (free : mark ∉ before.toList)
    (rest : List Char) : cutAt mark (before.toList ++ mark :: rest) = some (before, rest) := by
  have other : ∀ letter ∈ before.toList, decide (letter ≠ mark) = true := by
    intro letter member
    exact decide_eq_true fun same => free (same ▸ member)
  rw [cutAt, List.dropWhile_append_of_pos other, List.takeWhile_append_of_pos other]
  simp

def afterDriver (text : String) : Option (List Char) :=
  if driver.toList <+: text.toList then some (text.toList.drop driver.length) else none

/-- `sqlalchemy.make_url` of a URL with all five parts. -/
def makeUrl (text : String) : Option Url := do
  let letters ← afterDriver text
  let (user, rest) ← cutAt ':' letters
  let (password, rest) ← cutAt '@' rest
  let (host, rest) ← cutAt ':' rest
  let (port, database) ← cutAt '/' rest
  if '/' ∈ user.toList then none
  else some ⟨some (unquote user), some (unquote password), some host, port.toNat?,
    some (String.ofList database)⟩

theorem Ordinary.not_mem {text : String} (ordinary : Ordinary text) {letter : Char}
    (other : ¬(letter.isAlphanum = true ∨ letter ∈ ['-', '.', '_'])) : letter ∉ text.toList :=
  fun member => other (ordinary.2 letter member)

/-- The letters that a user name is not read past. -/
def userEnds (letter : Char) : Bool := letter = ':' || letter = '/'

theorem makeUrl_urlOf {user password host database : String}
    (plain : ∀ letter ∈ user.toList, userEnds letter = false) (free : '@' ∉ password.toList)
    (hostOrdinary : Ordinary host) (port : Nat) :
    makeUrl (urlOf user password host port database) =
      some ⟨some (unquote user), some (unquote password), some host, some port, some database⟩ := by
  have colon : ':' ∉ user.toList := fun member => by simpa [userEnds] using plain _ member
  have slash : '/' ∉ user.toList := fun member => by simpa [userEnds] using plain _ member
  have digits : '/' ∉ (toString port).toList := by
    intro member
    have digit := Nat.isDigit_of_mem_toDigits (b := 10) (by omega) (by omega)
      (show '/' ∈ Nat.toDigits 10 port by simpa using member)
    revert digit
    decide
  have whole : (urlOf user password host port database).toList =
      driver.toList ++ (user.toList ++ ':' :: (password.toList ++ '@' ::
        (host.toList ++ ':' :: ((toString port).toList ++ '/' :: database.toList)))) := by
    simp [urlOf]
  have start : driver.toList <+: (urlOf user password host port database).toList := by
    rw [whole]
    exact List.prefix_append _ _
  have length : driver.length = driver.toList.length := rfl
  have portRead : (toString port).toNat? = some port := Nat.toNat?_repr port
  have hostColon : ':' ∉ host.toList := hostOrdinary.not_mem (by decide)
  rw [makeUrl, afterDriver, if_pos start, whole, length, List.drop_left]
  simp only [Option.bind_eq_bind, Option.bind_some, cutAt_append colon, cutAt_append free,
    cutAt_append hostColon, cutAt_append digits, if_neg slash, portRead, String.ofList_toList]

theorem makeUrl_userinfo {text : String} {url : Url} {user password : String}
    (parsed : makeUrl text = some url) (userSame : url.username = some user)
    (passwordSame : url.password = some password) :
    ∃ rawUser rawPassword, Userinfo userEnds text rawUser rawPassword ∧
      unquote rawUser = user ∧ unquote rawPassword = password := by
  unfold makeUrl at parsed
  simp only [Option.bind_eq_bind, Option.bind_eq_some_iff, Prod.exists] at parsed
  obtain ⟨letters, begun, rawUser, rest, userCut, rawPassword, tail, passwordCut, _, _, _, _, _, _,
    last⟩ := parsed
  unfold afterDriver at begun
  split at begun
  · rename_i start
    obtain ⟨after, whole⟩ := start
    have length : driver.length = driver.toList.length := rfl
    rw [← whole, length, List.drop_left] at begun
    obtain rfl := Option.some.inj begun
    obtain ⟨colon, letters⟩ := cutAt_some userCut
    obtain ⟨free, others⟩ := cutAt_some passwordCut
    split at last
    · cases last
    · rename_i slash
      obtain rfl := Option.some.inj last
      refine ⟨rawUser, rawPassword, ⟨?_, free, tail, ?_⟩, Option.some.inj userSame,
        Option.some.inj passwordSame⟩
      · intro letter member
        have notColon : letter ≠ ':' := fun same => colon (same ▸ member)
        have notSlash : letter ≠ '/' := fun same => slash (same ▸ member)
        simp [userEnds, notColon, notSlash]
      · rw [← whole, letters, others]
  · cases begun

instance : Inhabited UrlParser where
  default :=
    { parse := makeUrl
      ends := userEnds
      colon := rfl
      reads := fun _ _ _ port _ plain free host _ _ _ => makeUrl_urlOf plain free host port
      userinfo := fun _ _ _ _ => makeUrl_userinfo }

/-- A password with a colon, a slash and a lone percent sign. -/
theorem postgresUrl_parses_iff_plain :
    (default : UrlParser).parse
      (InfraSettings.postgresUrl
        { postgresHost := "db.internal", postgresUser := "app", postgresPassword := "a:b/50%"
          postgresDb := "app_db" }) =
      some ⟨some "app", some "a:b/50%", some "db.internal", some 5432, some "app_db"⟩ := by
  have plain : ∀ letter ∈ "app".toList, (default : UrlParser).ends letter = false := by
    intro letter member
    have listed : letter = 'a' ∨ letter = 'p' := by simpa using member
    rcases listed with rfl | rfl <;> decide
  exact (postgresUrl_parses_iff default
    { postgresHost := "db.internal", postgresUser := "app", postgresPassword := "a:b/50%"
      postgresDb := "app_db" } (by decide) (by decide)).mpr ⟨plain, by decide⟩

/-- The percent sign and the two digits after it come back as another letter. -/
theorem postgresUrl_parses_iff_escape :
    ¬∀ (parser : UrlParser) (settings : InfraSettings), Ordinary settings.postgresHost →
      Ordinary settings.postgresDb → parser.parse settings.postgresUrl = some settings.url := by
  intro parses
  have ⟨_, _, _, whole⟩ := parses_plain (parses default
    { postgresHost := "db"
      postgresUser := "app"
      postgresPassword := "p%41ss"
      postgresDb := "app" }
    (by decide) (by decide))
  revert whole
  decide

end Url

end AiPlatform.DatabaseUrl
