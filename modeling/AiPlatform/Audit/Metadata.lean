import AiPlatform.Lib.Nested
import AiPlatform.Lib.Text

set_option autoImplicit false

/- `validate_audit_metadata`. The walk for keys of raw content goes into mappings and lists. A tuple
is passed over with everything in it, though it is stored as an array too. -/
namespace AiPlatform.Audit

open Nested Nested.Data

/-- `FORBIDDEN_AUDIT_METADATA_KEYS`. -/
def forbiddenAuditMetadataKeys : List String :=
  ["answer", "completion", "content", "input", "message", "messages", "output", "payload", "prompt",
    "question", "raw_payload", "response", "text", "user_input"]

structure ValueError where
  text : String
deriving DecidableEq, Repr

/-- What the walk reads off the interpreter: `str` of a key, `str.lower` and `repr` of a text. -/
structure Interpreter (κ : Type) where
  str : κ → String
  case : Text.LowerCase
  repr : String → String

section Definitions

variable {κ σ : Type} (interpreter : Interpreter κ)

def forbidden (key : κ) : Bool :=
  forbiddenAuditMetadataKeys.contains (interpreter.case.lower (interpreter.str key))

def childPath (path : String) (key : κ) : String :=
  if path = "" then interpreter.str key else path ++ "." ++ interpreter.str key

def rawContent (path : String) : ValueError :=
  ⟨"Audit metadata key " ++ interpreter.repr path ++ " may contain raw content"⟩

mutual

/-- `_reject_raw_content_keys`. -/
def rejectRawContentKeys (path : String) : Data κ σ → Except ValueError Unit
  | .mapping items => rejectItems path items
  | .list items => rejectIndexed path 0 items
  | .str _ | .scalar _ | .tuple _ => .ok ()

/-- Its loop through a mapping. -/
def rejectItems (path : String) : List (κ × Data κ σ) → Except ValueError Unit
  | [] => .ok ()
  | (key, child) :: rest => do
      let childPath := childPath interpreter path key
      if forbidden interpreter key then .error (rawContent interpreter childPath)
      rejectRawContentKeys childPath child
      rejectItems path rest

/-- Its loop through a list. -/
def rejectIndexed (path : String) (index : Nat) : List (Data κ σ) → Except ValueError Unit
  | [] => .ok ()
  | child :: rest => do
      rejectRawContentKeys (path ++ "[" ++ toString index ++ "]") child
      rejectIndexed path (index + 1) rest

end

/-- `validate_audit_metadata`. -/
def validateAuditMetadata (metadata : List (κ × Data κ σ)) :
    Except ValueError (List (κ × Data κ σ)) := do
  rejectRawContentKeys interpreter "" (.mapping metadata)
  return metadata

/-- The data is a mapping with a forbidden key of its own. -/
def HoldsForbidden : Data κ σ → Prop
  | .mapping items => ∃ item ∈ items, forbidden interpreter item.1 = true
  | _ => False

/-- A mapping that `opened` containers lead to has a forbidden key. -/
def Reaches (opened : Kind → Prop) (data : Data κ σ) : Prop :=
  ∃ node, Within opened data node ∧ HoldsForbidden interpreter node

/-- Some mapping inside the data has a forbidden key, whatever containers it stands in. -/
def RawContent (data : Data κ σ) : Prop := Reaches interpreter (fun _ => True) data

/-- A forbidden key that no tuple encloses. -/
def Walked (data : Data κ σ) : Prop := Reaches interpreter (fun kind => kind ≠ .tuple) data

/-- A forbidden key somewhere in a tuple. -/
def InTuple (data : Data κ σ) : Prop :=
  ∃ container, Within (fun _ => True) data container ∧ container.kind = .tuple ∧
    ∃ child ∈ container.children, RawContent interpreter child

/-- What the validation is for: it raises exactly for raw content, and else returns the metadata. -/
def Validates (metadata : List (κ × Data κ σ)) : Prop :=
  ((∃ error, validateAuditMetadata interpreter metadata = .error error) ↔
      RawContent interpreter (.mapping metadata)) ∧
    ∀ returned, validateAuditMetadata interpreter metadata = .ok returned → returned = metadata

end Definitions

section Results

variable {κ σ : Type} {interpreter : Interpreter κ} {opened : Kind → Prop}

theorem reaches_iff (data : Data κ σ) : Reaches interpreter opened data ↔
    HoldsForbidden interpreter data ∨
      opened data.kind ∧ ∃ child ∈ data.children, Reaches interpreter opened child := by
  unfold Reaches
  constructor
  · intro ⟨node, within, holds⟩
    rcases within_iff.mp within with same | ⟨passable, child, member, below⟩
    · rw [same] at holds
      exact .inl holds
    · exact .inr ⟨passable, child, member, node, below, holds⟩
  · intro found
    rcases found with holds | ⟨passable, child, member, node, below, holds⟩
    · exact ⟨data, .here data, holds⟩
    · exact ⟨node, .inside passable member below, holds⟩

theorem rejectIndexed_ok (items : List (Data κ σ)) (path : String) (index : Nat) :
    rejectIndexed interpreter path index items = .ok () ↔
      ∀ position child, items[position]? = some child →
        rejectRawContentKeys interpreter
          (path ++ "[" ++ toString (index + position) ++ "]") child = .ok () := by
  induction items generalizing index with
  | nil =>
      rw [rejectIndexed]
      exact iff_of_true rfl fun position child found => nomatch found
  | cons first rest ih =>
      rw [rejectIndexed]
      cases walked : rejectRawContentKeys interpreter (path ++ "[" ++ toString index ++ "]")
          first with
      | error error =>
          refine iff_of_false (fun same => nomatch same) fun all => ?_
          have here := all 0 first rfl
          rw [Nat.add_zero, walked] at here
          cases here
      | ok _ =>
          rw [show (Except.ok () >>= fun _ => rejectIndexed interpreter path (index + 1) rest) =
            rejectIndexed interpreter path (index + 1) rest from rfl, ih]
          constructor
          · intro all position child found
            cases position with
            | zero =>
                rw [← Option.some.inj found, Nat.add_zero]
                exact walked
            | succ position =>
                have later := all position child found
                rw [show index + 1 + position = index + (position + 1) by omega] at later
                exact later
          · intro all position child found
            have later := all (position + 1) child found
            rw [show index + (position + 1) = index + 1 + position by omega] at later
            exact later

theorem rejectItems_ok (items : List (κ × Data κ σ)) (path : String) :
    rejectItems interpreter path items = .ok () ↔
      ∀ item ∈ items, forbidden interpreter item.1 = false ∧
        rejectRawContentKeys interpreter (childPath interpreter path item.1) item.2 = .ok () := by
  induction items with
  | nil =>
      rw [rejectItems]
      exact iff_of_true rfl fun item member => absurd member List.not_mem_nil
  | cons first rest ih =>
      have ⟨key, child⟩ := first
      rw [rejectItems, List.forall_mem_cons, ← ih]
      by_cases raw : forbidden interpreter key = true
      · simp only [raw, if_true]
        exact iff_of_false (fun same => nomatch same) fun both => nomatch both.1.1
      · have clean := Bool.eq_false_iff.mpr raw
        simp only [clean, Bool.false_eq_true, if_false, true_and]
        cases walked : rejectRawContentKeys interpreter (childPath interpreter path key) child with
        | error error => exact iff_of_false (fun same => nomatch same) fun both => nomatch both.1
        | ok _ => exact ⟨fun later => ⟨rfl, later⟩, fun both => both.2⟩

/-- The walk passes exactly when no key outside tuples is forbidden, whatever path it carries. -/
theorem rejectRawContentKeys_ok (data : Data κ σ) (path : String) :
    rejectRawContentKeys interpreter path data = .ok () ↔ ¬Walked interpreter data := by
  unfold Walked
  induction data generalizing path with
  | str text | scalar value | tuple items =>
      rw [rejectRawContentKeys, reaches_iff]
      simp [HoldsForbidden, kind, children]
  | list items ih =>
      rw [rejectRawContentKeys, rejectIndexed_ok, reaches_iff]
      constructor
      · intro all found
        rcases found with holds | ⟨_, child, member, reached⟩
        · exact holds
        · have ⟨position, here⟩ := List.mem_iff_getElem?.mp member
          exact (ih child member _).mp (all position child here) reached
      · intro none position child found
        have member := List.mem_of_getElem? found
        apply (ih child member _).mpr
        intro reached
        exact none (.inr ⟨nofun, child, member, reached⟩)
  | mapping items ih =>
      rw [rejectRawContentKeys, rejectItems_ok, reaches_iff]
      constructor
      · intro all found
        rcases found with ⟨item, member, raw⟩ | ⟨_, child, member, reached⟩
        · have clean := (all item member).1
          rw [raw] at clean
          cases clean
        · have ⟨item, inside, same⟩ := List.mem_map.mp member
          rw [← same] at reached
          exact (ih item inside _).mp (all item inside).2 reached
      · intro none item member
        constructor
        · apply Bool.eq_false_iff.mpr
          intro raw
          exact none (.inl ⟨item, member, raw⟩)
        · apply (ih item member _).mpr
          intro reached
          exact none (.inr ⟨nofun, item.2, List.mem_map_of_mem member, reached⟩)

/-- A list raises what one of its items raises. -/
theorem rejectIndexed_error {items : List (Data κ σ)} {path : String} {index : Nat}
    {error : ValueError} (raised : rejectIndexed interpreter path index items = .error error) :
    ∃ item ∈ items, ∃ inner, rejectRawContentKeys interpreter inner item = .error error := by
  induction items generalizing index with
  | nil => cases raised
  | cons first rest ih =>
      rw [rejectIndexed] at raised
      cases walked : rejectRawContentKeys interpreter (path ++ "[" ++ toString index ++ "]")
          first with
      | error other =>
          rw [walked] at raised
          obtain rfl : other = error := Except.error.inj raised
          exact ⟨first, List.mem_cons_self, _, walked⟩
      | ok _ =>
          rw [walked] at raised
          obtain ⟨item, member, found⟩ := ih raised
          exact ⟨item, List.mem_cons_of_mem _ member, found⟩

/-- A mapping raises for one of its keys, or what one of its values raises. -/
theorem rejectItems_error {items : List (κ × Data κ σ)} {path : String} {error : ValueError}
    (raised : rejectItems interpreter path items = .error error) :
    ∃ item ∈ items, (forbidden interpreter item.1 = true ∧
        error = rawContent interpreter (childPath interpreter path item.1)) ∨
      ∃ inner, rejectRawContentKeys interpreter inner item.2 = .error error := by
  induction items with
  | nil => cases raised
  | cons first rest ih =>
      rw [rejectItems] at raised
      by_cases raw : forbidden interpreter first.1 = true
      · simp only [raw, if_true] at raised
        exact ⟨first, List.mem_cons_self, .inl ⟨raw, (Except.error.inj raised).symm⟩⟩
      · simp only [raw] at raised
        cases walked : rejectRawContentKeys interpreter (childPath interpreter path first.1)
            first.2 with
        | error other =>
            rw [walked] at raised
            obtain rfl : other = error := Except.error.inj raised
            exact ⟨first, List.mem_cons_self, .inr ⟨_, walked⟩⟩
        | ok _ =>
            rw [walked] at raised
            obtain ⟨item, member, found⟩ := ih raised
            exact ⟨item, List.mem_cons_of_mem _ member, found⟩

/-- Every error names a forbidden key with the path to it. -/
theorem rejectRawContentKeys_error {data : Data κ σ} {path : String} {error : ValueError}
    (raised : rejectRawContentKeys interpreter path data = .error error) :
    ∃ outer key, forbidden interpreter key = true ∧
      error = rawContent interpreter (childPath interpreter outer key) := by
  induction data generalizing path with
  | str text | scalar value | tuple items =>
      rw [rejectRawContentKeys] at raised
      cases raised
  | list items ih =>
      rw [rejectRawContentKeys] at raised
      obtain ⟨item, member, inner, walked⟩ := rejectIndexed_error raised
      exact ih item member walked
  | mapping items ih =>
      rw [rejectRawContentKeys] at raised
      obtain ⟨item, member, ⟨raw, same⟩ | ⟨inner, walked⟩⟩ := rejectItems_error raised
      · exact ⟨path, item.1, raw, same⟩
      · exact ih item member walked

theorem validateAuditMetadata_eq (interpreter : Interpreter κ) (metadata : List (κ × Data κ σ)) :
    (Walked interpreter (.mapping metadata) →
      ∃ error, validateAuditMetadata interpreter metadata = .error error) ∧
    (¬Walked interpreter (.mapping metadata) →
      validateAuditMetadata interpreter metadata = .ok metadata) := by
  have passes : rejectRawContentKeys interpreter "" (.mapping metadata) = .ok () ↔
      ¬Walked interpreter (.mapping metadata) := rejectRawContentKeys_ok (.mapping metadata) ""
  unfold validateAuditMetadata
  cases walk : rejectRawContentKeys interpreter "" (.mapping metadata) with
  | error error =>
      rw [walk] at passes
      exact ⟨fun _ => ⟨error, rfl⟩, fun clean => nomatch passes.mpr clean⟩
  | ok _ =>
      rw [walk] at passes
      exact ⟨fun walked => absurd walked (passes.mp rfl), fun _ => rfl⟩

/-- Raw content is met by the walk or stands in a tuple. -/
theorem rawContent_iff (data : Data κ σ) :
    RawContent interpreter data ↔ Walked interpreter data ∨ InTuple interpreter data := by
  constructor
  · intro ⟨node, within, holds⟩
    rcases within.closed (fun kind => kind = .tuple) with
      free | ⟨container, reached, tuple, child, member, below⟩
    · exact .inl ⟨node, free.mono fun kind both => both.2, holds⟩
    · exact .inr ⟨container, reached, tuple, child, member, node, below, holds⟩
  · intro found
    rcases found with
      ⟨node, within, holds⟩ | ⟨container, reached, _, child, member, node, below, holds⟩
    · exact ⟨node, within.mono fun _ _ => trivial, holds⟩
    · exact ⟨node, reached.trans (.inside trivial member below), holds⟩

/-- The validation does what it is for exactly when a forbidden key stands outside every tuple or
none stands in one. -/
theorem validates_iff (interpreter : Interpreter κ) (metadata : List (κ × Data κ σ)) :
    Validates interpreter metadata ↔
      Walked interpreter (.mapping metadata) ∨ ¬InTuple interpreter (.mapping metadata) := by
  have ⟨raises, returns⟩ := validateAuditMetadata_eq interpreter metadata
  unfold Validates
  rw [rawContent_iff]
  by_cases walked : Walked interpreter (.mapping metadata)
  · have ⟨error, raised⟩ := raises walked
    rw [raised]
    apply iff_of_true _ (.inl walked)
    exact ⟨iff_of_true ⟨error, rfl⟩ (.inl walked), fun _ same => nomatch same⟩
  · have returned := returns walked
    rw [returned]
    constructor
    · intro ⟨raised, _⟩
      refine .inr fun hidden => ?_
      have ⟨_, same⟩ := raised.mpr (.inr hidden)
      cases same
    · intro clear
      refine ⟨iff_of_false (fun ⟨_, same⟩ => nomatch same) fun found => ?_, ?_⟩
      · rcases clear with held | empty
        · exact walked held
        · exact found.elim walked empty
      · intro other same
        exact (Except.ok.inj same).symm

/-- A tuple of one mapping keeps its prompt from the walk. -/
theorem validates_iff_tuple :
    ¬∀ (interpreter : Interpreter String) (metadata : List (String × Data String Int)),
      Validates interpreter metadata := by
  intro validates
  let lower (text : String) : String := String.ofList (text.toList.map Char.toLower)
  let interpreter : Interpreter String := ⟨id, ⟨lower, fun _ _ => rfl⟩, id⟩
  let inner : List (String × Data String Int) := [("prompt", .str "x")]
  let metadata : List (String × Data String Int) := [("a", .tuple [.mapping inner])]
  have accepted : validateAuditMetadata interpreter metadata = .ok metadata := by
    have clean : forbidden interpreter "a" = false := by decide +kernel
    unfold validateAuditMetadata
    simp only [metadata, rejectRawContentKeys, rejectItems, clean]
    rfl
  have raw : RawContent interpreter (.mapping metadata) :=
    ⟨.mapping inner,
      .inside trivial List.mem_cons_self (.inside trivial List.mem_cons_self (.here _)),
      ("prompt", .str "x"), List.mem_cons_self, by decide +kernel⟩
  have ⟨_, same⟩ := (validates interpreter metadata).1.mpr raw
  rw [accepted] at same
  cases same

end Results

end AiPlatform.Audit
