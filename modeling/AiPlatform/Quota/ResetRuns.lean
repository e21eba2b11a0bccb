import AiPlatform.Quota.TransactionSteps

set_option autoImplicit false

/- Runs of interleaved transactions, resets included. The tables stay balanced as long as a reset
deletes a counter only together with all committed reservations of its window. -/
namespace AiPlatform.Quota.Statements

open Machine
open Postgres (Record newRecord setStatus)

/-- A `reserve` comes with a fresh reservation id, of the length of a `uuid4`. -/
def Fresh (state : State) : Action → Prop
  | .call _ operation => ∀ id ∈ operation.drawnId, id.toList.length ≤ 36 ∧
      ∀ call ∈ state.calls.rows, call.operation.drawnId ≠ some id
  | _ => True

def resets : Operation → Bool
  | .resetUsage _ => true
  | .resetResource _ => true
  | _ => false

def Paired (state : State) : Action → Prop
  | .execute id => ∀ call ∈ state.calls.find id, resets call.operation = true → Pairs state call
  | _ => True

instance (state : State) (action : Action) : Decidable (Fresh state action) :=
  match action with
  | .call _ operation => inferInstanceAs (Decidable (∀ id ∈ operation.drawnId, _ ∧ _))
  | .execute _ => .isTrue trivial
  | .abort _ => .isTrue trivial

instance (state : State) (action : Action) : Decidable (Paired state action) :=
  match action with
  | .execute id => inferInstanceAs (Decidable (∀ call ∈ state.calls.find id, _ → _))
  | .call _ _ => .isTrue trivial
  | .abort _ => .isTrue trivial

/-- What holds between any two steps. -/
structure Inv (state : State) : Prop where
  balanced : Balanced state.db
  standing : ∀ call ∈ state.calls.rows, Standing state.db call
  apart : ∀ left ∈ state.calls.rows, ∀ right ∈ state.calls.rows, left.id ≠ right.id →
    Apart left.writes right.writes
  short : ∀ call ∈ state.calls.rows, ∀ id, call.operation.drawnId = some id →
    id.toList.length ≤ 36

theorem init_inv : Inv init := by
  constructor <;> simp [init]
  constructor <;> simp

variable {state next : State} {call : Call} {pc : Pc} {writes : Writes}

theorem Inserted.gone {db : Database} {operation : Operation}
    (inserted : Inserted db operation writes) : writes.goneReservations = [] := by
  cases inserted
  rfl

theorem Claimed.gone {db : Database} {operation : Operation} {record : Record}
    (claimed : Claimed db operation record writes) : writes.goneReservations = [] := by
  cases claimed
  rfl

theorem Touched.gone {db : Database} (touched : Touched db writes) :
    writes.goneReservations = [] := by
  have ⟨_, shape, _⟩ := touched
  rw [shape]

theorem Even.gone {db : Database} (even : Even db writes) : writes.goneReservations = [] := by
  cases even <;> rfl

/-- What a reset has deleted is committed until it commits. -/
theorem Standing.present {db : Database} (standing : Standing db call) :
    ∀ id ∈ call.writes.goneReservations, ∃ row, db.reservations.find id = some row := by
  have resets : ∀ {owed : WindowKey → Prop},
      Resetting db call.operation.clears owed call.writes →
      ∀ id ∈ call.writes.goneReservations, ∃ row, db.reservations.find id = some row := by
    intro owed resetting id gone
    have ⟨row, found, _⟩ := resetting.present id gone
    exact ⟨row, found⟩
  have none : call.writes.goneReservations = [] →
      ∀ id ∈ call.writes.goneReservations, ∃ row, db.reservations.find id = some row := by
    intro empty id gone
    rw [empty] at gone
    cases gone
  unfold Standing at standing
  split at standing
  · exact none standing.gone
  · exact none standing.touched.gone
  · exact none standing.gone
  · exact none standing.gone
  · exact none standing.gone
  · exact none standing.gone
  · exact resets standing
  · exact resets standing
  · exact resets standing
  · rcases standing with even | resetting
    · exact none even.gone
    · exact resets resetting
  · exact none (by rw [standing])

/-- One statement of one call. -/
theorem Inv.advance (inv : Inv state) (member : call ∈ state.calls.rows)
    (pairs : resets call.operation = true → Pairs state call)
    (went : statement state call = some (pc, writes)) : Advance state call pc writes := by
  have standing := inv.standing call member
  unfold statement at went
  split at went
  · rename_i command operation
    apply reserve_advance operation _ _ standing went
    · apply inv.short call member
      rw [operation]
      rfl
    · intro other inside
      exact (inv.standing other inside).present
  · rename_i operation
    exact settle_advance inv.balanced (by rw [operation]; rfl) standing went
  · rename_i operation
    exact settle_advance inv.balanced (by rw [operation]; rfl) standing went
  · exact getUsage_advance standing went
  · rename_i operation
    rw [← operation] at went
    exact reset_advance inv.balanced (pairs (by rw [operation]; rfl)) standing went
  · rename_i operation
    rw [← operation] at went
    exact reset_advance inv.balanced (pairs (by rw [operation]; rfl)) standing went

/-- A call moves on, the committed rows stay: it locks nothing that another one holds. -/
theorem Inv.update (inv : Inv state) (moved : Call)
    (standing : Standing state.db moved)
    (apart : ∀ other ∈ state.calls.rows, other.id ≠ moved.id → Apart moved.writes other.writes)
    (short : ∀ id, moved.operation.drawnId = some id → id.toList.length ≤ 36) :
    Inv (state.update moved) where
  balanced := inv.balanced
  standing := by
    intro other member
    rcases Table.mem_put member with same | ⟨old, _⟩
    · rw [same]
      exact standing
    · exact inv.standing other old
  apart := by
    intro left leftMember right rightMember different
    rcases Table.mem_put leftMember with leftSame | ⟨leftOld, leftApart⟩
    · rcases Table.mem_put rightMember with rightSame | ⟨rightOld, rightApart⟩
      · rw [leftSame, rightSame] at different
        exact absurd rfl different
      · rw [leftSame]
        exact apart right rightOld rightApart
    · rcases Table.mem_put rightMember with rightSame | ⟨rightOld, _⟩
      · rw [rightSame]
        exact (apart left leftOld leftApart).symm
      · exact inv.apart left leftOld right rightOld different
  short := by
    intro other member
    rcases Table.mem_put member with same | ⟨old, _⟩
    · rw [same]
      exact short
    · exact inv.short other old

theorem Inv.statement (inv : Inv state) (member : call ∈ state.calls.rows)
    (advance : Advance state call pc writes) :
    Inv (state.update { call with pc := pc, writes := writes }) := by
  apply inv.update _ advance.standing
  · intro other inside apart
    have before := inv.apart call member other inside (fun same => apart same.symm)
    constructor
    · intro key held
      rcases advance.keys key held with had | free
      · exact before.keys key had
      · exact free other inside apart
    · intro id held
      rcases advance.ids id held with had | free
      · exact before.ids id had
      · exact free other inside apart
  · exact inv.short call member

/-- A call that ends without a commit has nothing in hand. -/
theorem Inv.leave (inv : Inv state) (member : call ∈ state.calls.rows) :
    Inv (state.update { call with pc := .aborted, writes := {} }) :=
  inv.update _ rfl (fun other _ _ => apart_nothing other.writes) (inv.short call member)

theorem Inv.commit (inv : Inv state) (member : call ∈ state.calls.rows) {answer : Answer}
    (here : call.pc = .commit answer) (settled : List String) :
    Inv {
      db := state.db.apply call.writes
      calls := state.calls.put { call with pc := .returned answer, writes := {} }
      settled := settled } := by
  have ⟨balanced, orderly⟩ := (inv.standing call member).commits here inv.balanced
  refine ⟨balanced, ?_, ?_, ?_⟩
  · intro other inside
    rcases Table.mem_put inside with same | ⟨old, apart⟩
    · rw [same]
      rfl
    · exact (inv.standing other old).apply orderly (inv.apart other old call member apart)
  · intro left leftInside right rightInside different
    rcases Table.mem_put leftInside with same | ⟨leftOld, _⟩
    · rw [same]
      exact apart_nothing right.writes
    · rcases Table.mem_put rightInside with same | ⟨rightOld, _⟩
      · rw [same]
        exact (apart_nothing left.writes).symm
      · exact inv.apart left leftOld right rightOld different
  · intro other inside
    rcases Table.mem_put inside with same | ⟨old, _⟩
    · rw [same]
      exact inv.short call member
    · exact inv.short other old

/-- What one step of the machine is. -/
inductive Stepped (state : State) : Action → State → Prop
  | call {id : Nat} {operation : Operation} (unused : state.calls.find id = none) :
      Stepped state (.call id operation)
        (state.update { id := id, operation := operation, pc := start operation })
  | commit {call : Call} {answer : Answer} (found : state.calls.find call.id = some call)
      (here : call.pc = .commit answer) :
      Stepped state (.execute call.id) {
        db := state.db.apply call.writes
        calls := state.calls.put { call with pc := .returned answer, writes := {} }
        settled := state.settled ++ settles call }
  | statement {call : Call} {pc : Pc} {writes : Writes}
      (found : state.calls.find call.id = some call)
      (went : statement state call = some (pc, writes)) :
      Stepped state (.execute call.id)
        (state.update { call with pc := pc, writes := writes })
  | abort {call : Call} (found : state.calls.find call.id = some call)
      (active : call.pc.finished = false) :
      Stepped state (.abort call.id) (state.update { call with pc := .aborted, writes := {} })

theorem stepped {action : Action} (taken : step state action = some next) :
    Stepped state action next := by
  cases action with
  | call id operation =>
      simp only [step] at taken
      split at taken
      · cases taken
      · rename_i unused
        cases taken
        exact .call unused
  | execute id =>
      simp only [step, Option.bind_eq_bind, Option.bind_eq_some_iff] at taken
      have ⟨call, found, taken⟩ := taken
      have same : call.id = id := (Table.find_some.mp found).2
      rw [← same] at found ⊢
      split at taken
      · rename_i answer here
        cases taken
        exact .commit found here
      · rw [Option.bind_eq_some_iff] at taken
        have ⟨⟨pc, writes⟩, went, reached⟩ := taken
        cases reached
        exact .statement found went
  | abort id =>
      simp only [step, Option.bind_eq_bind, Option.bind_eq_some_iff] at taken
      have ⟨call, found, taken⟩ := taken
      have same : call.id = id := (Table.find_some.mp found).2
      rw [← same] at found ⊢
      split at taken
      · cases taken
      · rename_i active
        cases taken
        exact .abort found (Bool.eq_false_iff.mpr active)

theorem start_standing (db : Database) (id : Nat) (operation : Operation) :
    Standing db { id := id, operation := operation, pc := start operation } := by
  cases operation <;> rfl

theorem Inv.step {action : Action} (inv : Inv state) (fresh : Fresh state action)
    (paired : Paired state action) (taken : step state action = some next) : Inv next := by
  cases stepped taken with
  | @call id operation unused =>
      apply inv.update _ (start_standing state.db id operation)
      · intro other _ _
        exact apart_nothing other.writes
      · intro drawn same
        exact (fresh drawn same).1
  | commit found here => exact inv.commit (Table.find_some.mp found).1 here _
  | statement found went =>
      have member := (Table.find_some.mp found).1
      exact inv.statement member (inv.advance member (paired _ found) went)
  | abort found active => exact inv.leave (Table.find_some.mp found).1

theorem inv_run {actions : List Action} (inv : Inv state)
    (fresh : Meets Statements.step Fresh state actions)
    (paired : Meets Statements.step Paired state actions)
    (reached : run Statements.step state actions = some next) : Inv next :=
  run_invariant Inv (fun _ _ _ holds guard taken => holds.step guard.1 guard.2 taken) inv
    (fresh.and paired) reached

end AiPlatform.Quota.Statements
