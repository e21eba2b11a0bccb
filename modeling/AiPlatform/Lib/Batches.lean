import AiPlatform.Lib.Table

set_option autoImplicit false

/- Rows of a table deleted in batches, each of them full as long as enough rows are left. -/
namespace AiPlatform.Batches

variable {Row Key : Type} {key : Row → Key}

/-- One batch: of the rows that meet the test it deletes as many as the limit allows, and no
others. -/
structure Batch (test : Row → Bool) (limit : Nat) (before after : Table key) (deleted : Nat) :
    Prop where
  size : deleted = min limit (before.rows.countP test)
  left : after.rows.countP test + deleted = before.rows.countP test
  removed : after.rows.length + deleted = before.rows.length
  spared : (after.rows.filter fun row => !test row) = before.rows.filter fun row => !test row

/-- After a batch that takes the last rows, none of them is left. -/
theorem Batch.last {test : Row → Bool} {limit deleted : Nat} {before after : Table key}
    (batch : Batch test limit before after deleted) (short : deleted < limit) :
    after = before.erase test := by
  have := batch.size
  have := batch.left
  have none : after.rows.countP test = 0 := by omega
  apply Table.ext
  show after.rows = before.rows.filter fun row => !test row
  rw [← batch.spared, eq_comm, List.filter_eq_self]
  intro row member
  have missed := List.countP_eq_zero.mp none row member
  simpa using missed

theorem Batch.erase {test : Row → Bool} {limit deleted : Nat} {before after : Table key}
    (batch : Batch test limit before after deleted) : after.erase test = before.erase test :=
  Table.ext batch.spared

theorem countP_split (test chosen : Row → Bool) (rows : List Row)
    (within : ∀ row ∈ rows, chosen row = true → test row = true) :
    (rows.filter fun row => !chosen row).countP test + rows.countP chosen = rows.countP test := by
  induction rows with
  | nil => rfl
  | cons row rows ih =>
      have later := ih fun other member => within other (List.mem_cons_of_mem _ member)
      have here := within row List.mem_cons_self
      cases picked : chosen row with
      | true =>
          simp only [List.filter_cons, List.countP_cons, picked, here picked, Bool.not_true,
            Bool.false_eq_true, if_false, if_true]
          omega
      | false =>
          simp only [List.filter_cons, List.countP_cons, picked, Bool.not_false, if_true,
            Bool.false_eq_true, if_false]
          omega

section Selection

variable {Name : Type} {name : Row → Name} {test chosen : Row → Bool} {limit : Nat}
  {table : Table key} {picked : List Name}

/-- A table has as many rows with the given names as there are names. -/
theorem countP_names (named : (table.rows.map name).Nodup)
    (chooses : ∀ row, chosen row = true ↔ name row ∈ picked)
    (distinct : picked.Nodup) (inside : ∀ index ∈ picked, index ∈ table.rows.map name) :
    table.rows.countP chosen = picked.length := by
  have same : ((table.rows.filter chosen).map name).Perm picked := by
    apply (List.perm_ext_iff_of_nodup (named.sublist (List.filter_sublist.map name))
      distinct).mpr
    intro index
    simp only [List.mem_map, List.mem_filter, chooses]
    constructor
    · rintro ⟨row, ⟨-, member⟩, rfl⟩
      exact member
    · intro member
      obtain ⟨row, held, rfl⟩ := List.mem_map.mp (inside index member)
      exact ⟨row, ⟨held, member⟩, rfl⟩
  rw [← same.length_eq, List.length_map, List.countP_eq_length_filter]

/-- Deleting the rows that a bounded selection picked by their names is a batch. -/
theorem batch_of_selection (test : Row → Bool) (limit : Nat) (table : Table key)
    (chosen : Row → Bool) (named : (table.rows.map name).Nodup)
    (chooses : ∀ row, chosen row = true ↔ name row ∈ picked)
    (distinct : picked.Nodup) (size : picked.length = min limit (table.rows.countP test))
    (inside : ∀ index ∈ picked, ∃ row ∈ table.rows, name row = index ∧ test row = true) :
    table.rows.countP chosen = picked.length ∧
      Batch test limit table (table.erase chosen) picked.length := by
  have count : table.rows.countP chosen = picked.length :=
    countP_names named chooses distinct fun index member => by
      obtain ⟨row, held, same, -⟩ := inside index member
      exact List.mem_map.mpr ⟨row, held, same⟩
  have within : ∀ row ∈ table.rows, chosen row = true → test row = true := by
    intro row held member
    obtain ⟨other, there, same, passes⟩ := inside _ ((chooses row).mp member)
    rwa [List.inj_on_of_nodup_map named there held same] at passes
  refine ⟨count, size, ?_, ?_, ?_⟩
  · rw [← count]
    exact countP_split test _ _ within
  · rw [← count, List.countP_eq_length_filter]
    have halves := List.length_eq_length_filter_add (l := table.rows) chosen
    show (table.rows.filter fun row => !chosen row).length + _ = _
    omega
  · show ((table.rows.filter _).filter _) = _
    rw [List.filter_filter]
    apply List.filter_congr
    intro row held
    cases passes : test row with
    | true => simp
    | false =>
        have outside : chosen row = false := by
          by_contra member
          have met := within row held (Bool.eq_true_of_not_eq_false member)
          rw [passes] at met
          cases met
        simp [outside]

end Selection

end AiPlatform.Batches
