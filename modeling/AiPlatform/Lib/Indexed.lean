import AiPlatform.Lib.Table

set_option autoImplicit false

/- Keyed tables with a second, partial unique index: rows whose index is `none` are exempt. -/
namespace AiPlatform

structure Indexed {Row Key Index : Type} (key : Row → Key) (index : Row → Option Index) where
  table : Table key
  indexed : ∀ left ∈ table.rows, ∀ right ∈ table.rows, index left = index right →
    index left ≠ none → left = right

namespace Indexed

variable {Row Key Index : Type} {key : Row → Key} {index : Row → Option Index}

@[ext] theorem ext {left right : Indexed key index} (same : left.table = right.table) :
    left = right := by
  cases left
  cases right
  cases same
  rfl

def empty : Indexed key index := ⟨.empty, fun _ member => absurd member List.not_mem_nil⟩

/-- Deletes every row that meets `test`. -/
def erase (rows : Indexed key index) (test : Row → Bool) : Indexed key index where
  table := rows.table.erase test
  indexed := by
    intro left leftMember right rightMember same present
    exact rows.indexed left (Table.mem_erase.mp leftMember).1 right
      (Table.mem_erase.mp rightMember).1 same present

variable [DecidableEq Key] [DecidableEq Index]

def find (rows : Indexed key index) (id : Key) : Option Row := rows.table.find id

def findBy (rows : Indexed key index) (value : Index) : Option Row :=
  rows.table.rows.find? fun row => decide (index row = some value)

/-- Another row than the one under `id` has the index of `row`. -/
def taken (rows : Indexed key index) (id : Key) (row : Row) : Bool :=
  decide (index row ≠ none) &&
    rows.table.rows.any fun other => decide (key other ≠ id ∧ index other = index row)

theorem taken_false {rows : Indexed key index} {id : Key} {row other : Row}
    (free : rows.taken id row = false) (member : other ∈ rows.table.rows)
    (same : index other = index row) (present : index row ≠ none) : key other = id := by
  by_contra different
  have clash : rows.taken id row = true := by
    simp only [taken, Bool.and_eq_true, List.any_eq_true, decide_eq_true_eq]
    exact ⟨present, other, member, different, same⟩
  rw [free] at clash
  cases clash

/-- Inserts unless the key or the index is taken. -/
def insert (rows : Indexed key index) (row : Row) : Option (Indexed key index) :=
  if clash : rows.taken (key row) row = true then none
  else
    match added : rows.table.insert row with
    | none => none
    | some table => some
        { table := table
          indexed := by
            obtain ⟨missing, shape⟩ := Table.insert_some.mp added
            have free : rows.taken (key row) row = false := by simpa using clash
            have apart : ∀ other ∈ rows.table.rows, index other = index row →
                index row ≠ none → False := fun other member same present =>
              Table.find_none.mp missing other member (taken_false free member same present)
            rw [shape]
            intro left leftMember right rightMember same present
            rcases List.mem_append.mp leftMember with leftOld | leftNew <;>
              rcases List.mem_append.mp rightMember with rightOld | rightNew
            · exact rows.indexed left leftOld right rightOld same present
            · obtain rfl := List.mem_singleton.mp rightNew
              exact (apart left leftOld same (same ▸ present)).elim
            · obtain rfl := List.mem_singleton.mp leftNew
              exact (apart right rightOld same.symm present).elim
            · rw [List.mem_singleton.mp leftNew, List.mem_singleton.mp rightNew] }

/-- Rewrites the row with the given key; the rewrite leaves key and index alone. -/
def modify (rows : Indexed key index) (id : Key) (change : Row → Row)
    (keeps : ∀ row, key (change row) = key row)
    (keepsIndex : ∀ row, index (change row) = index row) :
    Indexed key index where
  table := rows.table.modify id change keeps
  indexed := by
    have same : ∀ row, index (if key row = id then change row else row) = index row := by
      intro row
      split
      · exact keepsIndex row
      · rfl
    simp only [Table.modify, Table.rows_map, List.mem_map]
    rintro _ ⟨left, leftMember, rfl⟩ _ ⟨right, rightMember, rfl⟩ equal present
    rw [same, same] at equal
    rw [same] at present
    rw [rows.indexed left leftMember right rightMember equal present]

/-- Rewrites the row with the given key unless its new index is taken. -/
def rewrite (rows : Indexed key index) (id : Key) (change : Row → Row)
    (keeps : ∀ row, key (change row) = key row) : Option (Indexed key index) :=
  if clash : (rows.find id).any (fun row => rows.taken id (change row)) = true then none
  else some
    { table := rows.table.modify id change keeps
      indexed := by
        have free : ∀ row ∈ rows.table.rows, key row = id →
            rows.taken id (change row) = false := by
          intro row member here
          have found := Table.find_mem member
          rw [here] at found
          simpa [find, found] using clash
        simp only [Table.modify, Table.rows_map, List.mem_map]
        rintro _ ⟨left, leftMember, rfl⟩ _ ⟨right, rightMember, rfl⟩ equal present
        by_cases leftHere : key left = id <;> by_cases rightHere : key right = id
        · rw [Table.eq_of_key leftMember rightMember (leftHere.trans rightHere.symm)]
        · simp only [leftHere, rightHere, ↓reduceIte] at equal present
          exact absurd (taken_false (free left leftMember leftHere) rightMember equal.symm present)
            rightHere
        · simp only [leftHere, rightHere, ↓reduceIte] at equal present
          exact absurd (taken_false (free right rightMember rightHere) leftMember equal
            (equal ▸ present)) leftHere
        · simp only [leftHere, rightHere, ↓reduceIte] at equal present
          rw [rows.indexed left leftMember right rightMember equal present] }

def remove (rows : Indexed key index) (id : Key) : Indexed key index :=
  rows.erase fun row => decide (key row = id)

omit [DecidableEq Key] in
theorem findBy_some {rows : Indexed key index} {value : Index} {row : Row} :
    rows.findBy value = some row ↔ row ∈ rows.table.rows ∧ index row = some value := by
  constructor
  · intro found
    have matched := List.find?_some found
    exact ⟨List.mem_of_find?_eq_some found, of_decide_eq_true matched⟩
  · rintro ⟨member, here⟩
    cases found : rows.findBy value with
    | none =>
        have missing := List.find?_eq_none.mp found row member
        simp [here] at missing
    | some other =>
        have search := List.find?_some found
        have matched := of_decide_eq_true search
        have present : index other ≠ none := by simp [matched]
        rw [rows.indexed other (List.mem_of_find?_eq_some found) row member
          (matched.trans here.symm) present]

theorem insert_table {rows next : Indexed key index} {row : Row}
    (inserted : rows.insert row = some next) : rows.table.insert row = some next.table := by
  unfold insert at inserted
  split at inserted
  · cases inserted
  · split at inserted
    · cases inserted
    · rename_i added
      cases inserted
      exact added

/-- An insert is refused for a row with its key or its index. -/
theorem insert_refused {rows : Indexed key index} {row : Row} :
    rows.insert row = none ↔
      ∃ other ∈ rows.table.rows, key other = key row ∨ index row ≠ none ∧
        index other = index row := by
  unfold insert
  split
  · rename_i clash
    simp only [taken, Bool.and_eq_true, List.any_eq_true, decide_eq_true_eq] at clash
    obtain ⟨present, other, member, -, same⟩ := clash
    exact iff_of_true rfl ⟨other, member, .inr ⟨present, same⟩⟩
  · rename_i free
    rw [Bool.not_eq_true] at free
    split
    · rename_i full
      obtain ⟨other, found⟩ := Option.ne_none_iff_exists'.mp (Table.insert_none.mp full)
      obtain ⟨member, here⟩ := Table.find_some.mp found
      exact iff_of_true rfl ⟨other, member, .inl here⟩
    · rename_i table added
      refine iff_of_false nofun ?_
      rintro ⟨other, member, clash⟩
      have apart := Table.find_none.mp (Table.insert_some.mp added).1 other member
      rcases clash with here | ⟨present, same⟩
      · exact apart here
      · exact apart (taken_false free member same present)

/-- An insert fails for the key or for the index. -/
theorem insert_none {rows : Indexed key index} {row : Row} (refused : rows.insert row = none)
    (fresh : rows.find (key row) = none) :
    ∃ other ∈ rows.table.rows, index other = index row ∧ index row ≠ none := by
  obtain ⟨other, member, here | ⟨present, same⟩⟩ := insert_refused.mp refused
  · exact absurd here (Table.find_none.mp fresh other member)
  · exact ⟨other, member, same, present⟩

theorem rewrite_table {rows next : Indexed key index} {id : Key} {change : Row → Row}
    {keeps : ∀ row, key (change row) = key row}
    (rewritten : rows.rewrite id change keeps = some next) :
    next.table = rows.table.modify id change keeps := by
  unfold rewrite at rewritten
  split at rewritten
  · cases rewritten
  · cases rewritten
    rfl

end Indexed

end AiPlatform
