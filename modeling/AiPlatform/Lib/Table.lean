import Mathlib.Data.List.Basic
import Mathlib.Data.List.Nodup
import Mathlib.Data.List.Forall2
import Mathlib.Algebra.BigOperators.Group.List.Basic
import Mathlib.Algebra.Order.BigOperators.Group.List
import Mathlib.Algebra.Order.Ring.Int

set_option autoImplicit false

/- Keyed tables: rows in insertion order under a unique index. Every operation returns
a table, so no reachable table holds two rows with one key. -/
namespace AiPlatform

structure Table {Row Key : Type} (key : Row → Key) where
  rows : List Row
  unique : (rows.map key).Nodup

namespace Table

variable {Row Key : Type} {key : Row → Key}

@[ext] theorem ext {left right : Table key} (same : left.rows = right.rows) : left = right := by
  cases left
  cases right
  cases same
  rfl

instance [DecidableEq Row] : DecidableEq (Table key) := fun left right =>
  decidable_of_iff (left.rows = right.rows) ⟨ext, fun same => same ▸ rfl⟩

def empty : Table key := ⟨[], List.nodup_nil⟩

instance : Inhabited (Table key) := ⟨empty⟩

/-- Rewrites every row; the rewrite leaves the index alone. -/
def map (table : Table key) (change : Row → Row)
    (keeps : ∀ row, key (change row) = key row) : Table key where
  rows := table.rows.map change
  unique := by
    have same : (table.rows.map change).map key = table.rows.map key := by
      simp only [List.map_map, List.map_inj_left, Function.comp_apply]
      exact fun row _ => keeps row
    rw [same]
    exact table.unique

/-- Deletes every row that meets `test`. -/
def erase (table : Table key) (test : Row → Bool) : Table key where
  rows := table.rows.filter fun row => !test row
  unique := (table.unique).sublist (List.Sublist.map key List.filter_sublist)

/-- Total of a weight over the rows. -/
def total (table : Table key) (weight : Row → Int) : Int := (table.rows.map weight).sum

@[simp] theorem rows_empty : (empty : Table key).rows = [] := rfl

@[simp] theorem rows_map (table : Table key) (change : Row → Row)
    (keeps : ∀ row, key (change row) = key row) :
    (table.map change keeps).rows = table.rows.map change := rfl

theorem mem_erase {table : Table key} {test : Row → Bool} {row : Row} :
    row ∈ (table.erase test).rows ↔ row ∈ table.rows ∧ test row = false := by
  simp [erase]

theorem eq_of_key {table : Table key} {left right : Row} (memLeft : left ∈ table.rows)
    (memRight : right ∈ table.rows) (same : key left = key right) : left = right :=
  List.inj_on_of_nodup_map table.unique memLeft memRight same

@[simp] theorem total_empty (weight : Row → Int) : (empty : Table key).total weight = 0 := rfl

theorem total_map (table : Table key) (change : Row → Row)
    (keeps : ∀ row, key (change row) = key row) (weight : Row → Int) :
    (table.map change keeps).total weight = table.total (weight ∘ change) := by
  simp only [total, rows_map, List.map_map]

theorem total_congr {table : Table key} {left right : Row → Int}
    (same : ∀ row ∈ table.rows, left row = right row) :
    table.total left = table.total right := by
  simp only [total, List.map_congr_left same]

theorem total_nonneg {table : Table key} {weight : Row → Int}
    (nonneg : ∀ row ∈ table.rows, 0 ≤ weight row) : 0 ≤ table.total weight := by
  apply List.sum_nonneg
  intro value member
  obtain ⟨row, inside, rfl⟩ := List.mem_map.mp member
  exact nonneg row inside

theorem total_le {table : Table key} {left right : Row → Int}
    (below : ∀ row ∈ table.rows, left row ≤ right row) : table.total left ≤ table.total right :=
  List.sum_le_sum below

theorem total_erase (table : Table key) (test : Row → Bool) (weight : Row → Int) :
    (table.erase test).total weight =
      table.total fun row => if test row then 0 else weight row := by
  simp only [total, erase]
  induction table.rows with
  | nil => rfl
  | cons row rest ih => cases inside : test row <;> simp [inside, ih]

/-- The rows around one row have other keys. -/
theorem rows_split {table : Table key} {row : Row} (member : row ∈ table.rows) :
    ∃ before after, table.rows = before ++ row :: after ∧
      (∀ other ∈ before, key other ≠ key row) ∧ ∀ other ∈ after, key other ≠ key row := by
  obtain ⟨before, after, shape⟩ := List.append_of_mem member
  have unique := table.unique
  rw [shape, List.map_append, List.map_cons, List.nodup_append] at unique
  obtain ⟨-, afterUnique, apart⟩ := unique
  refine ⟨before, after, shape, ?_, ?_⟩
  · intro other inside same
    exact apart (key other) (List.mem_map_of_mem inside) (key row) (by simp) same
  · intro other inside same
    exact (List.nodup_cons.mp afterUnique).1 (same ▸ List.mem_map_of_mem inside)

/-- One row's weight is part of the total. -/
theorem total_split {table : Table key} {row : Row} (member : row ∈ table.rows)
    (weight : Row → Int) [DecidableEq Key] :
    table.total weight =
      weight row + table.total fun other => if key other = key row then 0 else weight other := by
  obtain ⟨before, after, shape, outsideBefore, outsideAfter⟩ := rows_split member
  have unchanged : ∀ rest : List Row, (∀ other ∈ rest, key other ≠ key row) →
      (rest.map fun other => if key other = key row then 0 else weight other) =
        rest.map weight := by
    intro rest different
    apply List.map_congr_left
    intro other inside
    rw [if_neg (different other inside)]
  simp only [total, shape, List.map_append, List.map_cons, List.sum_append, List.sum_cons,
    if_true, unchanged before outsideBefore, unchanged after outsideAfter]
  omega

theorem weight_le_total {table : Table key} {row : Row} (member : row ∈ table.rows)
    {weight : Row → Int} (nonneg : ∀ row ∈ table.rows, 0 ≤ weight row) [DecidableEq Key] :
    weight row ≤ table.total weight := by
  rw [total_split member weight]
  have rest : 0 ≤ table.total fun other => if key other = key row then 0 else weight other := by
    apply total_nonneg
    intro other inside
    split
    · rfl
    · exact nonneg other inside
  omega

section Keyed

variable [DecidableEq Key]

def find (table : Table key) (index : Key) : Option Row :=
  table.rows.find? fun row => decide (key row = index)

/-- Inserts unless the key is taken, as a unique index demands. -/
def insert (table : Table key) (row : Row) : Option (Table key) :=
  if fresh : key row ∈ table.rows.map key then none
  else some
    { rows := table.rows ++ [row]
      unique := by
        rw [List.map_append, List.map_singleton]
        exact List.nodup_append_comm.mp (List.nodup_cons.mpr ⟨fresh, table.unique⟩) }

/-- Rewrites the row with the given key, if there is one. -/
def modify (table : Table key) (index : Key) (change : Row → Row)
    (keeps : ∀ row, key (change row) = key row) : Table key :=
  table.map (fun row => if key row = index then change row else row) fun row => by
    split
    · exact keeps row
    · rfl

def remove (table : Table key) (index : Key) : Table key :=
  table.erase fun row => decide (key row = index)

theorem find_some {table : Table key} {index : Key} {row : Row} :
    table.find index = some row ↔ row ∈ table.rows ∧ key row = index := by
  constructor
  · intro found
    have matched := List.find?_some found
    exact ⟨List.mem_of_find?_eq_some found, of_decide_eq_true matched⟩
  · rintro ⟨member, rfl⟩
    cases found : table.find (key row) with
    | none =>
        have missing := List.find?_eq_none.mp found row member
        simp at missing
    | some other =>
        have matched := List.find?_some found
        rw [eq_of_key (List.mem_of_find?_eq_some found) member (of_decide_eq_true matched)]

theorem find_none {table : Table key} {index : Key} :
    table.find index = none ↔ ∀ row ∈ table.rows, key row ≠ index := by
  simp [find, List.find?_eq_none]

theorem find_mem {table : Table key} {row : Row} (member : row ∈ table.rows) :
    table.find (key row) = some row := find_some.mpr ⟨member, rfl⟩

@[simp] theorem find_empty (index : Key) : (empty : Table key).find index = none := rfl

/-- A lookup of several keys returns rows under these keys, in their order. -/
theorem map_filterMap_find (table : Table key) (indices : List Key) :
    ((indices.filterMap table.find).map key).Sublist indices := by
  induction indices with
  | nil => exact List.Sublist.refl _
  | cons index rest ih =>
      cases found : table.find index with
      | none =>
          rw [List.filterMap_cons_none found]
          exact ih.cons index
      | some row =>
          obtain ⟨-, rfl⟩ := find_some.mp found
          rw [List.filterMap_cons_some found, List.map_cons]
          exact ih.cons_cons (key row)

theorem find_map (table : Table key) (change : Row → Row)
    (keeps : ∀ row, key (change row) = key row) (index : Key) :
    (table.map change keeps).find index = (table.find index).map change := by
  simp only [find, rows_map, List.find?_map, Function.comp_def, keeps]

theorem find_modify (table : Table key) (index other : Key) (change : Row → Row)
    (keeps : ∀ row, key (change row) = key row) :
    (table.modify index change keeps).find other =
      if other = index then (table.find other).map change else table.find other := by
  rw [modify, find_map]
  cases found : table.find other with
  | none => simp
  | some row =>
      obtain ⟨-, rfl⟩ := find_some.mp found
      by_cases same : key row = index <;> simp [same]

theorem mem_modify {table : Table key} {index : Key} {change : Row → Row}
    {keeps : ∀ row, key (change row) = key row} {row : Row} :
    row ∈ (table.modify index change keeps).rows ↔
      (row ∈ table.rows ∧ key row ≠ index) ∨
        ∃ old, table.find index = some old ∧ row = change old := by
  simp only [modify, rows_map, List.mem_map]
  constructor
  · rintro ⟨old, member, rfl⟩
    by_cases here : key old = index
    · exact .inr ⟨old, find_some.mpr ⟨member, here⟩, by rw [if_pos here]⟩
    · rw [if_neg here]
      exact .inl ⟨member, here⟩
  · rintro (⟨member, other⟩ | ⟨old, found, rfl⟩)
    · exact ⟨row, member, if_neg other⟩
    · obtain ⟨member, here⟩ := find_some.mp found
      exact ⟨old, member, if_pos here⟩

theorem mem_remove {table : Table key} {index : Key} {row : Row} :
    row ∈ (table.remove index).rows ↔ row ∈ table.rows ∧ key row ≠ index := by
  simp [remove, mem_erase]

/-- A rewrite of one row leaves the rows around it alone. -/
theorem modify_split {table : Table key} {index : Key} {row : Row}
    (found : table.find index = some row) (change : Row → Row)
    (keeps : ∀ row, key (change row) = key row) :
    ∃ before after, table.rows = before ++ row :: after ∧
      (table.modify index change keeps).rows = before ++ change row :: after := by
  obtain ⟨member, rfl⟩ := find_some.mp found
  obtain ⟨before, after, shape, outsideBefore, outsideAfter⟩ := rows_split member
  have kept : ∀ rest : List Row, (∀ other ∈ rest, key other ≠ key row) →
      rest.map (fun other => if key other = key row then change other else other) = rest := by
    intro rest different
    have same : ∀ other ∈ rest,
        (if key other = key row then change other else other) = id other := by
      intro other inside
      rw [if_neg (different other inside)]
      rfl
    rw [List.map_congr_left same, List.map_id]
  refine ⟨before, after, shape, ?_⟩
  rw [modify, rows_map, shape, List.map_append, List.map_cons, kept before outsideBefore,
    kept after outsideAfter, if_pos rfl]

/-- A view of the rows that gains an entry when one row changes. -/
theorem filterMap_modify {View : Type} {table : Table key} {index : Key} {row : Row}
    (found : table.find index = some row) (change : Row → Row)
    (keeps : ∀ row, key (change row) = key row) (view : Row → Option View)
    (unseen : view row = none) :
    ((table.modify index change keeps).rows.filterMap view).Perm
      ((view (change row)).toList ++ table.rows.filterMap view) := by
  obtain ⟨before, after, shape, changed⟩ := modify_split found change keeps
  rw [shape, changed, List.filterMap_append, List.filterMap_append, List.filterMap_cons,
    List.filterMap_cons, unseen]
  cases view (change row) with
  | none => exact List.Perm.refl _
  | some seen => exact List.perm_middle

theorem find_erase (table : Table key) (test : Row → Bool) (index : Key) :
    (table.erase test).find index = (table.find index).filter fun row => !test row := by
  cases found : (table.erase test).find index with
  | some row =>
      obtain ⟨member, rfl⟩ := find_some.mp found
      obtain ⟨inside, kept⟩ := mem_erase.mp member
      simp [find_mem inside, Option.filter, kept]
  | none =>
      cases old : table.find index with
      | none => rfl
      | some row =>
          obtain ⟨member, rfl⟩ := find_some.mp old
          cases dropped : test row with
          | true => simp [Option.filter, dropped]
          | false => exact absurd rfl (find_none.mp found row (mem_erase.mpr ⟨member, dropped⟩))

theorem find_remove (table : Table key) (index other : Key) :
    (table.remove index).find other = if other = index then none else table.find other := by
  rw [remove, find_erase]
  cases found : table.find other with
  | none => simp
  | some row =>
      obtain ⟨-, rfl⟩ := find_some.mp found
      by_cases same : key row = index <;> simp [same, Option.filter]

theorem insert_some {table next : Table key} {row : Row} :
    table.insert row = some next ↔
      table.find (key row) = none ∧ next.rows = table.rows ++ [row] := by
  have absent : key row ∉ table.rows.map key ↔ table.find (key row) = none := by
    simp [find_none]
  unfold insert
  split
  · rename_i taken
    simp only [reduceCtorEq, false_iff, not_and]
    exact fun missing => absurd taken (absent.mpr missing)
  · rename_i fresh
    simp only [Option.some.injEq, absent.mp fresh, true_and]
    constructor
    · rintro rfl
      rfl
    · intro same
      exact ext same.symm

theorem insert_none {table : Table key} {row : Row} :
    table.insert row = none ↔ table.find (key row) ≠ none := by
  cases inserted : table.insert row with
  | some next => simp [(insert_some.mp inserted).1]
  | none =>
      simp only [true_iff]
      intro missing
      have fresh : key row ∉ table.rows.map key := by simpa [find_none] using missing
      simp [insert, fresh] at inserted

theorem find_insert {table next : Table key} {row : Row}
    (inserted : table.insert row = some next) (index : Key) :
    next.find index = if index = key row then some row else table.find index := by
  obtain ⟨missing, shape⟩ := insert_some.mp inserted
  by_cases same : index = key row
  · subst same
    rw [if_pos rfl]
    exact find_mem (by rw [shape]; simp)
  · rw [if_neg same]
    have other : key row ≠ index := fun equal => same equal.symm
    simp [find, shape, List.find?_append, other]

theorem total_insert {table next : Table key} {row : Row}
    (inserted : table.insert row = some next) (weight : Row → Int) :
    next.total weight = table.total weight + weight row := by
  obtain ⟨-, shape⟩ := insert_some.mp inserted
  simp [total, shape]

def insertAll : List Row → Table key → Option (Table key)
  | [], table => some table
  | row :: rest, table => (table.insert row).bind (insertAll rest)

/-- A bulk insert adds its rows, all of them under fresh keys, and nothing else. -/
theorem find_insertAll {rows : List Row} {table next : Table key}
    (inserted : insertAll rows table = some next) :
    (∀ row ∈ rows, table.find (key row) = none ∧ next.find (key row) = some row) ∧
      ∀ index, (∀ row ∈ rows, key row ≠ index) → next.find index = table.find index := by
  induction rows generalizing table with
  | nil =>
      obtain rfl := Option.some.inj inserted
      exact ⟨fun _ member => absurd member List.not_mem_nil, fun _ _ => rfl⟩
  | cons row rest ih =>
      obtain ⟨middle, first, later⟩ := Option.bind_eq_some_iff.mp inserted
      obtain ⟨fresh, frame⟩ := ih later
      have missing := (insert_some.mp first).1
      constructor
      · intro other member
        rcases List.mem_cons.mp member with rfl | member
        · refine ⟨missing, ?_⟩
          rw [frame (key other) ?_, find_insert first, if_pos rfl]
          intro row inside same
          have taken := (fresh row inside).1
          rw [same, find_insert first, if_pos rfl] at taken
          cases taken
        · refine ⟨?_, (fresh other member).2⟩
          have absent := (fresh other member).1
          rw [find_insert first] at absent
          split at absent
          · cases absent
          · exact absent
      · intro index different
        have tail : ∀ row ∈ rest, key row ≠ index := fun row member =>
          different row (List.mem_cons_of_mem _ member)
        have head : index ≠ key row := (different row List.mem_cons_self).symm
        rw [frame index tail, find_insert first, if_neg head]

theorem modify_missing {table : Table key} {index : Key} (missing : table.find index = none)
    (change : Row → Row) (keeps : ∀ row, key (change row) = key row) :
    table.modify index change keeps = table := by
  apply ext
  have same : ∀ row ∈ table.rows, (if key row = index then change row else row) = row := by
    intro row member
    rw [if_neg (find_none.mp missing row member)]
  rw [modify, rows_map, List.map_congr_left same, List.map_id']

theorem total_modify {table : Table key} {index : Key} {row : Row}
    (found : table.find index = some row) (change : Row → Row)
    (keeps : ∀ row, key (change row) = key row) (weight : Row → Int) :
    (table.modify index change keeps).total weight =
      table.total weight - weight row + weight (change row) := by
  obtain ⟨member, rfl⟩ := find_some.mp found
  rw [modify, total_map, total_split member weight,
    total_split member (weight ∘ fun other => if key other = key row then change other else other)]
  have rest : (table.total fun other => if key other = key row then 0 else
      (weight ∘ fun other => if key other = key row then change other else other) other) =
      table.total fun other => if key other = key row then 0 else weight other := by
    apply total_congr
    intro other _
    by_cases same : key other = key row <;> simp [same]
  rw [rest]
  simp only [Function.comp_apply, if_true]
  omega

theorem total_remove {table : Table key} {index : Key} {row : Row}
    (found : table.find index = some row) (weight : Row → Int) :
    (table.remove index).total weight = table.total weight - weight row := by
  obtain ⟨member, rfl⟩ := find_some.mp found
  rw [remove, total_erase, total_split member weight]
  simp only [decide_eq_true_eq]
  omega

/-- Assigns a row to its key, as a dictionary does. -/
def put (table : Table key) (row : Row) : Table key :=
  match table.insert row with
  | some added => added
  | none => table.modify (key row) (fun old => if key old = key row then row else old) fun old => by
      split
      · rename_i same
        exact same.symm
      · rfl

theorem find_put (table : Table key) (row : Row) (index : Key) :
    (table.put row).find index = if index = key row then some row else table.find index := by
  unfold put
  split
  · rename_i added inserted
    exact find_insert inserted index
  · rename_i taken
    rw [find_modify]
    split
    · rename_i here
      obtain ⟨old, found⟩ := Option.ne_none_iff_exists'.mp (insert_none.mp taken)
      obtain ⟨-, same⟩ := find_some.mp found
      rw [here, found, Option.map_some, if_pos same]
    · rfl

theorem rows_put (table : Table key) (row : Row) :
    (table.put row).rows =
      if (table.find (key row)).isSome then
        table.rows.map fun old => if key old = key row then row else old
      else table.rows ++ [row] := by
  unfold put
  split
  · rename_i added inserted
    obtain ⟨missing, shape⟩ := insert_some.mp inserted
    rw [missing, shape]
    rfl
  · rename_i taken
    rw [if_pos (Option.isSome_iff_ne_none.mpr (insert_none.mp taken))]
    apply List.map_congr_left
    intro old _
    by_cases here : key old = key row
    · simp [here]
    · simp [here]

/-- Of several assignments to one key the last one stays. -/
theorem find_foldl_put (rows : List Row) (table : Table key) (index : Key) :
    (rows.foldl put table).find index =
      (rows.filter fun row => decide (key row = index)).getLast?.or (table.find index) := by
  induction rows generalizing table with
  | nil => rfl
  | cons row rest ih =>
      rw [List.foldl_cons, ih, find_put]
      by_cases here : key row = index
      · rw [List.filter_cons_of_pos (by simpa using here), if_pos here.symm, List.getLast?_cons]
        cases (rest.filter fun row => decide (key row = index)).getLast? <;> rfl
      · rw [List.filter_cons_of_neg (by simpa using here), if_neg (fun same => here same.symm)]

theorem mem_put {table : Table key} {row other : Row} (member : other ∈ (table.put row).rows) :
    other = row ∨ other ∈ table.rows ∧ key other ≠ key row := by
  have found := find_mem member
  rw [find_put] at found
  split at found
  · exact .inl (Option.some.inj found).symm
  · rename_i apart
    exact .inr ⟨(find_some.mp found).1, apart⟩

theorem total_put_fresh {table : Table key} {row : Row} (fresh : table.find (key row) = none)
    (weight : Row → Int) : (table.put row).total weight = table.total weight + weight row := by
  unfold put
  split
  · rename_i added inserted
    exact total_insert inserted weight
  · rename_i taken
    exact absurd fresh (insert_none.mp taken)

theorem total_put_over {table : Table key} {row old : Row}
    (found : table.find (key row) = some old) (weight : Row → Int) :
    (table.put row).total weight = table.total weight - weight old + weight row := by
  unfold put
  split
  · rename_i added inserted
    rw [(insert_some.mp inserted).1] at found
    cases found
  · rw [total_modify found, if_pos (find_some.mp found).2]

/-- The rows of one table that weigh anything are matched to different rows of another that weigh
at least as much. -/
theorem total_le_of_matching {Other Label : Type} {label : Other → Label} {table : Table key}
    {others : Table label} {weight : Other → Int} {bound : Row → Int} (partner : Other → Option Key)
    (nonneg : ∀ row ∈ table.rows, 0 ≤ bound row)
    (light : ∀ other ∈ others.rows, partner other = none → weight other ≤ 0)
    (matched : ∀ other ∈ others.rows, ∀ index, partner other = some index →
      ∃ row, table.find index = some row ∧ weight other ≤ bound row)
    (injective : ∀ left ∈ others.rows, ∀ right ∈ others.rows, partner left = partner right →
      partner left ≠ none → left = right) :
    others.total weight ≤ table.total bound := by
  have distinct : others.rows.Nodup := others.unique.of_map
  unfold total
  generalize others.rows = rest at *
  induction rest generalizing table with
  | nil => exact total_nonneg nonneg
  | cons head rest ih =>
      have fresh := (List.nodup_cons.mp distinct).1
      have tailInjective := fun left leftMember right rightMember =>
        injective left (List.mem_cons_of_mem _ leftMember) right
          (List.mem_cons_of_mem _ rightMember)
      rw [List.map_cons, List.sum_cons]
      cases choice : partner head with
      | none =>
          have head_light := light head List.mem_cons_self choice
          have tail := ih nonneg (fun other member => light other (List.mem_cons_of_mem _ member))
            (fun other member => matched other (List.mem_cons_of_mem _ member)) tailInjective
            (List.nodup_cons.mp distinct).2
          omega
      | some index =>
          obtain ⟨row, found, below⟩ := matched head List.mem_cons_self index choice
          have tail := @ih (table.remove index)
            (fun row member => nonneg row (mem_remove.mp member).1)
            (fun other member => light other (List.mem_cons_of_mem _ member)) (by
              intro other member label chosen
              obtain ⟨partnered, present, fits⟩ :=
                matched other (List.mem_cons_of_mem _ member) label chosen
              refine ⟨partnered, ?_, fits⟩
              have apart : label ≠ index := by
                rintro rfl
                have same := injective head List.mem_cons_self other
                  (List.mem_cons_of_mem _ member) (choice.trans chosen.symm) (by simp [choice])
                exact fresh (same ▸ member)
              rw [find_remove, if_neg apart, present]) tailInjective
            (List.nodup_cons.mp distinct).2
          have split := total_remove found bound
          unfold total at split
          omega

end Keyed

section Matching

variable {Other Label : Type} {label : Other → Label} {related : Row → Other → Prop}

/-- The rows of two tables correspond, in the order they were inserted. -/
def Matches (related : Row → Other → Prop) (table : Table key) (others : Table label) : Prop :=
  List.Forall₂ related table.rows others.rows

theorem Matches.exists_right {table : Table key} {others : Table label}
    (matched : Matches related table others) {row : Row} (member : row ∈ table.rows) :
    ∃ other ∈ others.rows, related row other := by
  unfold Matches at matched
  generalize table.rows = rows at matched member
  generalize others.rows = rest at matched
  induction matched with
  | nil => cases member
  | @cons head other rows rest here _ ih =>
      rcases List.mem_cons.mp member with rfl | later
      · exact ⟨other, List.mem_cons_self, here⟩
      · obtain ⟨found, inside, pair⟩ := ih later
        exact ⟨found, List.mem_cons_of_mem _ inside, pair⟩

variable [DecidableEq Key] [DecidableEq Label]

/-- Corresponding keys find corresponding rows. -/
theorem Matches.find {table : Table key} {others : Table label}
    (matched : Matches related table others) {index : Key} {name : Label}
    (same : ∀ row other, related row other → (key row = index ↔ label other = name)) :
    (table.find index = none ∧ others.find name = none) ∨
      ∃ row other, table.find index = some row ∧ others.find name = some other ∧
        related row other := by
  unfold Matches at matched
  unfold Table.find
  generalize table.rows = rows at matched ⊢
  generalize others.rows = rest at matched ⊢
  induction matched with
  | nil => exact .inl ⟨rfl, rfl⟩
  | @cons row other rows rest here _ ih =>
      by_cases found : key row = index
      · refine .inr ⟨row, other, ?_, ?_, here⟩
        · simp [found]
        · simp [(same row other here).mp found]
      · have apart : label other ≠ name := fun named => found ((same row other here).mpr named)
        simpa [found, apart] using ih

theorem Matches.put {table : Table key} {others : Table label}
    (matched : Matches related table others) {row : Row} {other : Other} (pair : related row other)
    (same : ∀ left right, related left right → (key left = key row ↔ label right = label other)) :
    Matches related (table.put row) (others.put other) := by
  unfold Matches
  rw [rows_put, rows_put]
  obtain ⟨missing, absent⟩ | ⟨old, partner, found, present, _⟩ := matched.find same
  · rw [missing, absent]
    exact List.rel_append matched (List.Forall₂.cons pair List.Forall₂.nil)
  · rw [found, present]
    apply List.forall₂_map_left_iff.mpr
    apply List.forall₂_map_right_iff.mpr
    refine matched.imp fun left right corresponds => ?_
    by_cases here : key left = key row
    · rw [if_pos here, if_pos ((same left right corresponds).mp here)]
      exact pair
    · rw [if_neg here, if_neg fun named => here ((same left right corresponds).mpr named)]
      exact corresponds

end Matching

end Table

end AiPlatform
