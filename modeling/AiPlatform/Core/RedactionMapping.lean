import AiPlatform.Core.Redaction
import AiPlatform.Lib.Nested

set_option autoImplicit false

/- `RedactionPolicy.redact_mapping`. Below the first secret key on the way to it a value is gone.
Every other text is redacted where it stands, and nothing else changes but that tuples become
lists. -/
namespace AiPlatform.Redaction

open Nested Nested.Data

/-- Data with text keys. The scalars are the numbers, booleans and `None`. -/
abbrev Payload (σ : Type) := Data String σ

/-- `_SECRET_KEY_MARKERS`. -/
def secretKeyMarkers : List String :=
  ["api_key", "apikey", "authorization", "cookie", "token", "password", "secret", "pepper"]

structure RedactionPolicy where
  mode : TraceContentMode := .redacted
deriving DecidableEq

namespace RedactionPolicy

/-- `from_trace_content`. -/
def fromTraceContent (traceContent : String) : RedactionPolicy :=
  match traceContent with
  | "off" => ⟨.off⟩
  | "full" => ⟨.full⟩
  | _ => ⟨.redacted⟩

section Definitions

variable {σ : Type} (case : Text.LowerCase) (unicode : UnicodeData) (policy : RedactionPolicy)

/-- `_is_secret_key`. -/
def isSecretKey (key : String) : Bool :=
  let normalized := Text.replace (case.lower key) '-' '_'
  secretKeyMarkers.any fun marker => Text.isIn marker normalized

def redactText (value : String) : String :=
  String.ofList (Redaction.redactText unicode policy.mode value.toList)

/-- The branches of `redact_mapping`, given the items of its loop. -/
def byMode (payload redacted : List (String × Payload σ)) : List (String × Payload σ) :=
  match policy.mode with
  | .full => payload
  | .off => payload.map fun item => (item.1, .str "[redacted]")
  | .redacted => redacted

mutual

/-- `_redact_value`. -/
def redactValue : Payload σ → Payload σ
  | .str text => .str (policy.redactText unicode text)
  | .mapping payload => .mapping (policy.byMode payload (redactItems payload))
  | .list items => .list (redactValues items)
  | .tuple items => .list (redactValues items)
  | .scalar value => .scalar value

def redactValues : List (Payload σ) → List (Payload σ)
  | [] => []
  | item :: rest => redactValue item :: redactValues rest

/-- The loop of `redact_mapping`. -/
def redactItems : List (String × Payload σ) → List (String × Payload σ)
  | [] => []
  | (key, value) :: rest =>
      (key, if isSecretKey case key then .str "[secret]" else redactValue value) ::
        redactItems rest

end

def redactMapping (payload : List (String × Payload σ)) : List (String × Payload σ) :=
  policy.byMode payload (policy.redactItems case unicode payload)

end Definitions

section Shapes

variable {σ : Type} (case : Text.LowerCase) (unicode : UnicodeData)

/-- What a node is, its children aside. -/
inductive Shape (σ : Type)
  | str (text : String)
  | scalar (value : σ)
  | list (length : Nat)
  | tuple (length : Nat)
  | mapping (keys : List String)
deriving DecidableEq

def shape : Payload σ → Shape σ
  | .str text => .str text
  | .scalar value => .scalar value
  | .list items => .list items.length
  | .tuple items => .tuple items.length
  | .mapping items => .mapping (items.map Prod.fst)

/-- A redacted node: its text is redacted, and a tuple is a list. -/
def Shape.redacted : Shape σ → Shape σ
  | .str text => .str (redactText unicode ⟨.redacted⟩ text)
  | .tuple length => .list length
  | same => same

/-- The step leads to the value of a secret key. -/
def secret : Step String → Bool
  | .key name => isSecretKey case name
  | .index _ => false

/-- The path passes no secret key. -/
def Plain (path : List (Step String)) : Prop := ∀ step ∈ path, secret case step = false

/-- `redacted` is the payload with the value of every first secret key masked, every other text
redacted, and nothing else changed. -/
structure Redacts (payload redacted : Payload σ) : Prop where
  kept : ∀ path, Plain case path →
    (redacted.node path).map shape =
      (payload.node path).map fun node => (shape node).redacted unicode
  masked : ∀ path key, Plain case path → isSecretKey case key = true →
    redacted.node (path ++ [.key key]) =
      (payload.node (path ++ [.key key])).map fun _ => .str "[secret]"
  texts : ∀ path text, redacted.node path = some (.str text) →
    text = "[secret]" ∧ (∃ key, path.getLast? = some (.key key) ∧ isSecretKey case key = true) ∨
      ∃ original, payload.node path = some (.str original) ∧
        text = redactText unicode ⟨.redacted⟩ original

end Shapes

section Results

variable {σ : Type} {case : Text.LowerCase} {unicode : UnicodeData} {policy : RedactionPolicy}

theorem redactValues_eq (items : List (Payload σ)) :
    policy.redactValues case unicode items = items.map (policy.redactValue case unicode) := by
  induction items with
  | nil => unfold redactValues; rfl
  | cons item rest ih => rw [redactValues, ih, List.map_cons]

theorem redactItems_eq (items : List (String × Payload σ)) :
    policy.redactItems case unicode items = items.map fun item =>
      (item.1, if isSecretKey case item.1 then .str "[secret]"
        else policy.redactValue case unicode item.2) := by
  induction items with
  | nil => unfold redactItems; rfl
  | cons item rest ih => rw [redactItems, ih, List.map_cons]

theorem redactValue_list (items : List (Payload σ)) :
    policy.redactValue case unicode (.list items) =
      .list (items.map (policy.redactValue case unicode)) := by
  rw [redactValue, redactValues_eq]

theorem redactValue_tuple (items : List (Payload σ)) :
    policy.redactValue case unicode (.tuple items) =
      .list (items.map (policy.redactValue case unicode)) := by
  rw [redactValue, redactValues_eq]

theorem redactValue_mapping (payload : List (String × Payload σ)) :
    policy.redactValue case unicode (.mapping payload) =
      .mapping (policy.redactMapping case unicode payload) := by
  rw [redactValue, redactMapping]

theorem redactMapping_eq (payload : List (String × Payload σ)) :
    redactMapping case unicode ⟨.redacted⟩ payload = payload.map fun item =>
      (item.1, if isSecretKey case item.1 then .str "[secret]"
        else redactValue case unicode ⟨.redacted⟩ item.2) :=
  redactItems_eq payload

/-- One step into a redacted value. -/
theorem child_redactValue (value : Payload σ) (step : Step String) :
    (redactValue case unicode ⟨.redacted⟩ value).child step =
      (value.child step).map fun child =>
        if secret case step then .str "[secret]"
        else redactValue case unicode ⟨.redacted⟩ child := by
  cases value with
  | str text => cases step <;> rfl
  | scalar value => cases step <;> rfl
  | list items =>
      rw [redactValue_list]
      cases step with
      | key name => rfl
      | index position => exact List.getElem?_map
  | tuple items =>
      rw [redactValue_tuple]
      cases step with
      | key name => rfl
      | index position => exact List.getElem?_map
  | mapping items =>
      rw [redactValue_mapping, redactMapping_eq]
      cases step with
      | key name =>
          have found := lookup_map (fun key (value : Payload σ) =>
            if isSecretKey case key then Data.str "[secret]"
            else redactValue case unicode ⟨.redacted⟩ value) items name
          exact found
      | index position => rfl

theorem shape_redactValue (value : Payload σ) :
    shape (redactValue case unicode ⟨.redacted⟩ value) = (shape value).redacted unicode := by
  cases value with
  | str text | scalar value =>
      rw [redactValue]
      rfl
  | list items =>
      rw [redactValue_list]
      exact congrArg Shape.list (List.length_map _)
  | tuple items =>
      rw [redactValue_tuple]
      exact congrArg Shape.list (List.length_map _)
  | mapping items =>
      rw [redactValue_mapping, redactMapping_eq]
      apply congrArg Shape.mapping
      rw [List.map_map]
      rfl

theorem node_redactValue (value : Payload σ) {path : List (Step String)} (plain : Plain case path) :
    (redactValue case unicode ⟨.redacted⟩ value).node path =
      (value.node path).map (redactValue case unicode ⟨.redacted⟩) := by
  induction path generalizing value with
  | nil => rfl
  | cons step rest ih =>
      have free : secret case step = false := plain step List.mem_cons_self
      have later : Plain case rest := fun step member => plain step (List.mem_cons_of_mem _ member)
      rw [node_cons, node_cons, child_redactValue, free]
      cases value.child step with
      | none => rfl
      | some child => exact ih child later

theorem texts_redactValue (value : Payload σ) (path : List (Step String)) (text : String)
    (reached : (redactValue case unicode ⟨.redacted⟩ value).node path = some (.str text)) :
    text = "[secret]" ∧ (∃ key, path.getLast? = some (.key key) ∧ isSecretKey case key = true) ∨
      ∃ original, value.node path = some (.str original) ∧
        text = redactText unicode ⟨.redacted⟩ original := by
  induction path generalizing value with
  | nil =>
      have same := Option.some.inj reached
      have kept : shape (redactValue case unicode ⟨.redacted⟩ value) =
          (shape value).redacted unicode := shape_redactValue value
      rw [same] at kept
      cases value with
      | str original => exact .inr ⟨original, rfl, Shape.str.inj kept⟩
      | scalar _ | list _ | tuple _ | mapping _ => cases kept
  | cons step rest ih =>
      rw [node_cons, child_redactValue] at reached
      rw [node_cons]
      cases found : value.child step with
      | none =>
          rw [found] at reached
          cases reached
      | some child =>
          rw [found] at reached
          by_cases hidden : secret case step = true
          · simp only [hidden, Option.map_some, if_true, Option.bind_some] at reached
            have ⟨ended, same⟩ := node_str _ _ reached
            cases step with
            | index position => cases hidden
            | key name =>
                refine .inl ⟨(Data.str.inj same), name, ?_, hidden⟩
                rw [ended]
                rfl
          · simp only [hidden, Option.map_some, Option.bind_some] at reached
            rcases ih child reached with ⟨masked, key, last, named⟩ | original
            · refine .inl ⟨masked, key, ?_, named⟩
              rw [List.getLast?_cons, last]
              rfl
            · exact .inr original

/-- Every value of a payload reaches the output as the policy says, at any depth. -/
theorem redactMapping_redacts (case : Text.LowerCase) (unicode : UnicodeData)
    (payload : List (String × Payload σ)) :
    Redacts case unicode (.mapping payload)
      (.mapping (redactMapping case unicode ⟨.redacted⟩ payload)) := by
  rw [← redactValue_mapping]
  constructor
  · intro path plain
    rw [node_redactValue _ plain, Option.map_map]
    congr 1
    funext node
    exact shape_redactValue node
  · intro path key plain hidden
    rw [node_append, node_append, node_redactValue _ plain]
    cases Data.node (.mapping payload) path with
    | none => rfl
    | some node =>
        simp only [Option.map_some, Option.bind_some, node_single, child_redactValue, secret,
          hidden, if_true]
  · intro path text reached
    exact texts_redactValue _ path text reached

end Results

end RedactionPolicy

end AiPlatform.Redaction
