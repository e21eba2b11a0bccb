import Mathlib.Data.List.Basic

set_option autoImplicit false

/- Nested Python data: mappings, lists and tuples over texts and other scalars. A mapping is the
list of its items. -/
namespace AiPlatform.Nested

inductive Data (κ σ : Type) where
  | str (text : String)
  | scalar (value : σ)
  | list (items : List (Data κ σ))
  | tuple (items : List (Data κ σ))
  | mapping (items : List (κ × Data κ σ))

inductive Kind
  | leaf
  | list
  | tuple
  | mapping
deriving DecidableEq, Repr

/-- One step into a container. -/
inductive Step (κ : Type)
  | key (name : κ)
  | index (position : Nat)
deriving DecidableEq, Repr

/-- Items keep their keys when their values change. -/
theorem lookup_map {κ α β : Type} [DecidableEq κ] (change : κ → α → β) (items : List (κ × α))
    (key : κ) :
    (items.map fun item => (item.1, change item.1 item.2)).lookup key =
      (items.lookup key).map (change key) := by
  induction items with
  | nil => rfl
  | cons item rest ih =>
      rw [List.map_cons, List.lookup_cons, List.lookup_cons, ih]
      by_cases here : key = item.1
      · subst here
        simp only [beq_self_eq_true, Option.map_some]
      · rw [beq_eq_false_iff_ne.mpr here]

namespace Data

variable {κ σ : Type}

def kind : Data κ σ → Kind
  | str _ | scalar _ => .leaf
  | list _ => .list
  | tuple _ => .tuple
  | mapping _ => .mapping

def children : Data κ σ → List (Data κ σ)
  | str _ | scalar _ => []
  | list items | tuple items => items
  | mapping items => items.map Prod.snd

theorem sizeOf_child {data child : Data κ σ} (member : child ∈ data.children) :
    sizeOf child < sizeOf data := by
  cases data with
  | str | scalar => exact absurd member List.not_mem_nil
  | list items | tuple items =>
      have smaller : sizeOf child < sizeOf items := List.sizeOf_lt_of_mem member
      simp only [list.sizeOf_spec, tuple.sizeOf_spec]
      omega
  | mapping items =>
      have ⟨item, inside, same⟩ := List.mem_map.mp member
      have smaller := List.sizeOf_lt_of_mem inside
      have parts : sizeOf item = 1 + sizeOf item.1 + sizeOf item.2 := by
        cases item
        rfl
      rw [same] at parts
      simp only [mapping.sizeOf_spec]
      omega

/-- What holds of a container when it holds of its children holds of all data. -/
@[elab_as_elim, induction_eliminator]
theorem induct {motive : Data κ σ → Prop} (str : ∀ text, motive (str text))
    (scalar : ∀ value, motive (scalar value))
    (list : ∀ items, (∀ item ∈ items, motive item) → motive (list items))
    (tuple : ∀ items, (∀ item ∈ items, motive item) → motive (tuple items))
    (mapping : ∀ items, (∀ item ∈ items, motive item.2) → motive (mapping items)) :
    ∀ data, motive data := by
  intro data
  match data with
  | .str text => exact str text
  | .scalar value => exact scalar value
  | .list items => exact list items fun item _ => induct str scalar list tuple mapping item
  | .tuple items => exact tuple items fun item _ => induct str scalar list tuple mapping item
  | .mapping items => exact mapping items fun item _ => induct str scalar list tuple mapping item.2
termination_by data => sizeOf data
decreasing_by
  all_goals apply sizeOf_child
  · assumption
  · assumption
  · exact List.mem_map_of_mem ‹_›

/-- `node` is the data or inside it, through containers of the opened kinds only. -/
inductive Within (opened : Kind → Prop) : Data κ σ → Data κ σ → Prop
  | here (data : Data κ σ) : Within opened data data
  | inside {data child node : Data κ σ} (passable : opened data.kind)
      (member : child ∈ data.children) (below : Within opened child node) : Within opened data node

section Within

variable {opened : Kind → Prop} {data node : Data κ σ}

theorem within_iff : Within opened data node ↔
    node = data ∨ opened data.kind ∧ ∃ child ∈ data.children, Within opened child node := by
  constructor
  · intro within
    cases within with
    | here => exact .inl rfl
    | inside passable member below => exact .inr ⟨passable, _, member, below⟩
  · intro found
    rcases found with same | ⟨passable, child, member, below⟩
    · rw [same]
      exact .here data
    · exact .inside passable member below

theorem Within.mono {fewer : Kind → Prop} (within : Within fewer data node)
    (more : ∀ kind, fewer kind → opened kind) : Within opened data node := by
  induction within with
  | here data => exact .here data
  | inside passable member _ ih => exact .inside (more _ passable) member ih

theorem Within.trans {middle : Data κ σ} (first : Within opened data middle)
    (second : Within opened middle node) : Within opened data node := by
  induction first with
  | here => exact second
  | inside passable member _ ih => exact .inside passable member (ih second)

/-- What is inside is inside without a closed container on the way, or it is inside one. -/
theorem Within.closed (within : Within opened data node) (shut : Kind → Prop) :
    Within (fun kind => opened kind ∧ ¬shut kind) data node ∨
      ∃ container, Within opened data container ∧ shut container.kind ∧
        ∃ child ∈ container.children, Within opened child node := by
  induction within with
  | here data => exact .inl (.here data)
  | @inside data child node passable member below ih =>
      by_cases barred : shut data.kind
      · exact .inr ⟨data, .here data, barred, child, member, below⟩
      · rcases ih with free | ⟨container, reached, found⟩
        · exact .inl (.inside ⟨passable, barred⟩ member free)
        · exact .inr ⟨container, .inside passable member reached, found⟩

end Within

section Paths

variable [DecidableEq κ]

def child : Data κ σ → Step κ → Option (Data κ σ)
  | mapping items, .key name => items.lookup name
  | list items, .index position | tuple items, .index position => items[position]?
  | _, _ => none

/-- The node at a path. -/
def node : Data κ σ → List (Step κ) → Option (Data κ σ)
  | data, [] => some data
  | data, step :: rest => (data.child step).bind fun child => child.node rest

@[simp] theorem node_nil (data : Data κ σ) : data.node [] = some data := rfl

theorem node_cons (data : Data κ σ) (step : Step κ) (rest : List (Step κ)) :
    data.node (step :: rest) = (data.child step).bind fun child => child.node rest := rfl

theorem node_append (data : Data κ σ) (first second : List (Step κ)) :
    data.node (first ++ second) = (data.node first).bind fun middle => middle.node second := by
  induction first generalizing data with
  | nil => rfl
  | cons step rest ih =>
      rw [List.cons_append, node_cons, node_cons]
      cases data.child step with
      | none => rfl
      | some child => exact ih child

theorem node_single (data : Data κ σ) (step : Step κ) : data.node [step] = data.child step := by
  rw [node_cons]
  cases data.child step <;> rfl

/-- A text has no nodes below it. -/
theorem node_str (text : String) (path : List (Step κ)) {found : Data κ σ}
    (reached : (str text : Data κ σ).node path = some found) : path = [] ∧ found = str text := by
  cases path with
  | nil => exact ⟨rfl, (Option.some.inj reached).symm⟩
  | cons step rest => cases step <;> cases reached

end Paths

end Data

end AiPlatform.Nested
