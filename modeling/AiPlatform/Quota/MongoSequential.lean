import AiPlatform.Quota.MongoConservation

set_option autoImplicit false

/- `_migrate_active_counters` run to its end with no other call in between. -/
namespace AiPlatform.Quota.Mongo

/-- The body of the loop over the stale counters; a duplicate key error ends the call. -/
def moveWindow (target : Target) (db : Collections) (windowKey : String) : Bool × Collections :=
  match db.counters.find (target.group, windowKey) with
  | none => (true, db)
  | some claimed =>
      let counters := upsert (db.counters.remove (target.group, windowKey)) target claimed.used
      let (done, reservations) := repoint db.reservations target windowKey
      (done, ⟨counters, reservations⟩)

def moveWindows (target : Target) : List String → Collections → Bool × Collections
  | [], db => (true, db)
  | windowKey :: rest, db =>
      match moveWindow target db windowKey with
      | (false, failed) => (false, failed)
      | (true, moved) => moveWindows target rest moved

def migrateActiveCounters (db : Collections) (target : Target) (now : Int) : Bool × Collections :=
  match staleWindows db.counters target now with
  | [] =>
      if (db.counters.find target.key).isSome then
        (true, { db with counters := increment db.counters target 0 })
      else (true, db)
  | stale => moveWindows target stale db

section Commands

/-- A call left alone: its commands one after the other. -/
def alone (call : Nat) (now : Int) : Nat → Collections × Next → Collections × Next
  | 0, state => state
  | _ + 1, (db, .done outcome) => (db, .done outcome)
  | count + 1, (db, .goto pc) =>
      alone call now count ((perform call now db pc).db, (perform call now db pc).next)

/-- How the migration of a call ends. -/
def migrated (job : Job) : Bool × Collections → Collections × Next
  | (true, db) => (db, .goto job.resume)
  | (false, db) => (db, .done (.error .duplicateKeyError))

theorem alone_add (call : Nat) (now : Int) (first second : Nat) (state : Collections × Next) :
    alone call now (first + second) state = alone call now second (alone call now first state) := by
  induction first generalizing state with
  | zero =>
      rw [Nat.zero_add]
      rfl
  | succ first ih =>
      rw [Nat.add_right_comm]
      have ⟨db, next⟩ := state
      cases next with
      | done outcome => cases second <;> rfl
      | goto pc => exact ih _

theorem moveWindow_alone (call : Nat) (now : Int) (job : Job) (windowKey : String)
    (rest : List String) (db : Collections) :
    ∃ count, alone call now count (db, .goto (.claimStale job windowKey rest)) =
      match moveWindow job.target db windowKey with
      | (false, failed) => (failed, .done (.error .duplicateKeyError))
      | (true, moved) => (moved, .goto (job.migrateRest rest)) := by
  unfold moveWindow
  cases found : db.counters.find (job.target.group, windowKey) with
  | none =>
      refine ⟨1, ?_⟩
      simp only [alone, perform, found]
  | some claimed =>
      refine ⟨3, ?_⟩
      cases moved : repoint db.reservations job.target windowKey with
      | mk done reservations => cases done <;> simp only [alone, perform, found, moved]

/-- The commands of a call do what the loop does. -/
theorem moveWindows_alone (call : Nat) (now : Int) (job : Job) (windows : List String)
    (db : Collections) :
    ∃ count, alone call now count (db, .goto (job.migrateRest windows)) =
      migrated job (moveWindows job.target windows db) := by
  induction windows generalizing db with
  | nil => exact ⟨0, rfl⟩
  | cons windowKey rest ih =>
      have ⟨first, ran⟩ := moveWindow_alone call now job windowKey rest db
      unfold moveWindows
      cases moved : moveWindow job.target db windowKey with
      | mk done after =>
          rw [moved] at ran
          cases done with
          | false => exact ⟨first, ran⟩
          | true =>
              have ⟨second, onward⟩ := ih after
              refine ⟨first + second, ?_⟩
              rw [alone_add]
              exact (congrArg (alone call now second) ran).trans onward

/-- The migration of a call that is left alone is `migrateActiveCounters`. -/
theorem migrate_alone (call : Nat) (now : Int) (job : Job) (db : Collections) :
    ∃ count, alone call now count (db, .goto (.migrate job)) =
      migrated job (migrateActiveCounters db job.target now) := by
  unfold migrateActiveCounters
  cases stale : staleWindows db.counters job.target now with
  | nil =>
      by_cases present : (db.counters.find job.target.key).isSome
      · refine ⟨2, ?_⟩
        simp only [alone, perform, stale, present, if_true, migrated]
      · refine ⟨1, ?_⟩
        simp only [alone, perform, stale, present, if_false, Bool.false_eq_true, migrated]
  | cons windowKey rest =>
      obtain ⟨count, ran⟩ := moveWindows_alone call now job (windowKey :: rest) db
      refine ⟨1 + count, ?_⟩
      rw [alone_add]
      simp only [alone, perform, stale]
      exact ran

end Commands

/-- A document after the move of those that meet `test`. -/
def movedWhen (target : Target) (test : Reservation → Prop) [DecidablePred test]
    (doc : Reservation) : Reservation :=
  if test doc then doc.move target else doc

section Keeps

variable (target : Target) (test : Reservation → Prop) [DecidablePred test] (doc : Reservation)

@[simp] theorem movedWhen_id : (movedWhen target test doc).id = doc.id := by
  unfold movedWhen
  split <;> rfl

@[simp] theorem movedWhen_group : (movedWhen target test doc).group = doc.group := by
  unfold movedWhen
  split <;> rfl

@[simp] theorem movedWhen_cost : (movedWhen target test doc).cost = doc.cost := by
  unfold movedWhen
  split <;> rfl

@[simp] theorem movedWhen_status : (movedWhen target test doc).status = doc.status := by
  unfold movedWhen
  split <;> rfl

@[simp] theorem movedWhen_idempotencyKey :
    (movedWhen target test doc).idempotencyKey = doc.idempotencyKey := by
  unfold movedWhen
  split <;> rfl

end Keeps

/-- A reservation after the move of a window. -/
def relocated (target : Target) (windowKey : String) : Reservation → Reservation :=
  movedWhen target fun doc => doc.key = (target.group, windowKey)

/-- No idempotency key of a window that is left occurs in another of them or in the target
window. -/
def Apart (target : Target) (windows : List String)
    (reservations : Indexed Reservation.id Reservation.index) : Prop :=
  ∀ left ∈ reservations.table.rows, ∀ right ∈ reservations.table.rows,
    left.group = target.group → right.group = target.group → left.windowKey ∈ windows →
    right.windowKey ∈ target.windowKey :: windows → left.windowKey ≠ right.windowKey →
    left.idempotencyKey ≠ none → left.idempotencyKey ≠ right.idempotencyKey

/-- The windows that are left can be moved. -/
structure Movable (target : Target) (windows : List String) (db : Collections) : Prop where
  distinct : (target.windowKey :: windows).Nodup
  counted : ∀ windowKey ∈ windows, db.counters.find (target.group, windowKey) ≠ none
  apart : Apart target windows db.reservations

/-- What the move of one window changes. -/
structure Moved (target : Target) (claimed : Counter) (before after : Collections) : Prop where
  own : claimed.group = target.group
  other : claimed.windowKey ≠ target.windowKey
  member : claimed ∈ before.counters.rows
  counters : after.counters = upsert (before.counters.remove claimed.key) target claimed.used
  reservations : after.reservations.table.rows =
    before.reservations.table.rows.map (relocated target claimed.windowKey)

section Repointing

variable {target : Target} {reservations : Indexed Reservation.id Reservation.index}

/-- The documents to move meet no other document with their idempotency key. -/
def Clear (target : Target) (ids : List String)
    (reservations : Indexed Reservation.id Reservation.index) : Prop :=
  ∀ left ∈ reservations.table.rows, ∀ right ∈ reservations.table.rows,
    left.id ∈ ids → left.id ≠ right.id → (right.key = target.key ∨ right.id ∈ ids) →
    left.idempotencyKey ≠ none → left.idempotencyKey ≠ right.idempotencyKey

theorem index_move {doc other : Reservation} (own : doc.group = target.group)
    (same : other.index = (doc.move target).index) (keyed : other.index ≠ none) :
    other.key = target.key ∧ doc.idempotencyKey ≠ none ∧
      doc.idempotencyKey = other.idempotencyKey := by
  have place : (doc.move target).key = target.key := by
    unfold Reservation.key Target.key
    rw [← own]
    rfl
  have keep : (doc.move target).idempotencyKey = doc.idempotencyKey := rfl
  unfold Reservation.index at same keyed
  rw [place, keep] at same
  cases ours : doc.idempotencyKey with
  | none =>
      rw [ours] at same
      exact absurd same keyed
  | some ourKey =>
      cases theirs : other.idempotencyKey with
      | none =>
          rw [theirs] at keyed
          exact absurd rfl keyed
      | some theirKey =>
          rw [ours, theirs] at same
          have ⟨window, key⟩ := Prod.mk.inj (Option.some.inj same)
          exact ⟨window, Option.some_ne_none _, by rw [key]⟩

theorem rewrite_clear {id : String} {ids : List String} (member : id ∈ ids)
    (own : ∀ doc ∈ reservations.table.rows, doc.id ∈ ids → doc.group = target.group)
    (clear : Clear target ids reservations) :
    ∃ moved, reservations.rewrite id (fun doc => doc.move target) (fun doc => doc.move_id target) =
      some moved := by
  unfold Indexed.rewrite
  split
  · rename_i clash
    obtain ⟨doc, found, taken⟩ := (Option.any_eq_true _ _).mp clash
    obtain ⟨inside, named⟩ := Table.find_some.mp found
    simp only [Indexed.taken, Bool.and_eq_true, List.any_eq_true, decide_eq_true_eq] at taken
    obtain ⟨keyed, other, present, apart, same⟩ := taken
    have ours : doc.id ∈ ids := by
      rw [named]
      exact member
    obtain ⟨place, given, equal⟩ :=
      index_move (own doc inside ours) same (by rw [same]; exact keyed)
    have different : doc.id ≠ other.id := by
      rw [named]
      exact fun equal => apart equal.symm
    exact absurd equal (clear doc inside other present ours different (.inl place) given)
  · exact ⟨_, rfl⟩

/-- Without the first id the others stay clear. -/
theorem Clear.moved {head : String} {rest : List String}
    {first : Indexed Reservation.id Reservation.index}
    (clear : Clear target (head :: rest) reservations)
    (rows : first.table.rows =
      reservations.table.rows.map (movedWhen target fun doc => doc.id = head)) :
    Clear target rest first := by
  intro left leftInside right rightInside member apart meets keyed
  rw [rows] at leftInside rightInside
  have ⟨oldLeft, leftPresent, leftShape⟩ := List.mem_map.mp leftInside
  have ⟨oldRight, rightPresent, rightShape⟩ := List.mem_map.mp rightInside
  rw [← leftShape, movedWhen_idempotencyKey] at keyed ⊢
  rw [← rightShape, movedWhen_idempotencyKey]
  rw [← leftShape, movedWhen_id] at member apart
  rw [← rightShape, movedWhen_id] at apart
  apply clear oldLeft leftPresent oldRight rightPresent (List.mem_cons_of_mem _ member) apart
    _ keyed
  by_cases here : oldRight.id = head
  · exact .inr (by rw [here]; exact List.mem_cons_self)
  · have still : movedWhen target (fun doc => doc.id = head) oldRight = oldRight := if_neg here
    rw [← rightShape, still] at meets
    exact meets.imp_right (List.mem_cons_of_mem _)

theorem movedWhen_cons (target : Target) (head : String) (rest : List String)
    (doc : Reservation) :
    movedWhen target (fun doc => doc.id ∈ rest) (movedWhen target (fun doc => doc.id = head) doc) =
      movedWhen target (fun doc => doc.id ∈ head :: rest) doc := by
  unfold movedWhen
  by_cases here : doc.id = head
  · have listed : doc.id ∈ head :: rest := by
      rw [here]
      exact List.mem_cons_self
    rw [if_pos here, if_pos listed]
    split <;> rfl
  · have listed : doc.id ∈ head :: rest ↔ doc.id ∈ rest := by simp [here]
    simp only [here, if_false, listed]

theorem moveAll_clear {ids : List String}
    (own : ∀ doc ∈ reservations.table.rows, doc.id ∈ ids → doc.group = target.group)
    (clear : Clear target ids reservations) :
    ∃ moved, moveAll target ids reservations = (true, moved) ∧
      moved.table.rows =
        reservations.table.rows.map (movedWhen target fun doc => doc.id ∈ ids) := by
  induction ids generalizing reservations with
  | nil =>
      refine ⟨reservations, rfl, ?_⟩
      have still : movedWhen target (fun doc => doc.id ∈ ([] : List String)) = id := by
        funext doc
        simp [movedWhen]
      rw [still, List.map_id]
  | cons head rest ih =>
      have ⟨first, rewritten⟩ := rewrite_clear List.mem_cons_self own clear
      have rows : first.table.rows =
          reservations.table.rows.map (movedWhen target fun doc => doc.id = head) := by
        rw [Indexed.rewrite_table rewritten]
        rfl
      have ownRest : ∀ doc ∈ first.table.rows, doc.id ∈ rest → doc.group = target.group := by
        intro doc inside member
        rw [rows] at inside
        have ⟨old, present, shape⟩ := List.mem_map.mp inside
        rw [← shape, movedWhen_id] at member
        rw [← shape, movedWhen_group]
        exact own old present (List.mem_cons_of_mem _ member)
      have ⟨moved, ran, shape⟩ := ih ownRest (clear.moved rows)
      refine ⟨moved, ?_, ?_⟩
      · simp only [moveAll, rewritten]
        exact ran
      · rw [shape, rows, List.map_map]
        apply List.map_congr_left
        intro doc _
        exact movedWhen_cons target head rest doc

/-- The documents that `update_many` finds. -/
def ofWindow (target : Target) (windowKey : String)
    (reservations : Indexed Reservation.id Reservation.index) : List String :=
  (reservations.table.rows.filter fun doc => doc.key = (target.group, windowKey)).map Reservation.id

theorem mem_ofWindow {windowKey : String} {doc : Reservation}
    (inside : doc ∈ reservations.table.rows) :
    doc.id ∈ ofWindow target windowKey reservations ↔ doc.key = (target.group, windowKey) := by
  unfold ofWindow
  rw [List.mem_map]
  constructor
  · intro ⟨other, listed, same⟩
    have ⟨present, place⟩ := List.mem_filter.mp listed
    rw [← Table.eq_of_key present inside same]
    exact of_decide_eq_true place
  · intro place
    exact ⟨doc, List.mem_filter.mpr ⟨inside, decide_eq_true place⟩, rfl⟩

theorem Reservation.place {doc : Reservation} {windowKey : String}
    (key : doc.key = (target.group, windowKey)) :
    doc.group = target.group ∧ doc.windowKey = windowKey :=
  Prod.mk.inj key

theorem ofWindow_clear {windowKey : String} {rest : List String}
    (distinct : windowKey ≠ target.windowKey)
    (apart : Apart target (windowKey :: rest) reservations) :
    Clear target (ofWindow target windowKey reservations) reservations := by
  intro left leftInside right rightInside listed different meets keyed same
  have leftKey := (mem_ofWindow leftInside).mp listed
  have ⟨leftGroup, leftWindow⟩ := Reservation.place leftKey
  rcases meets with inTarget | alsoListed
  · have ⟨rightGroup, rightWindow⟩ := Prod.mk.inj inTarget
    have away : left.windowKey ≠ right.windowKey := by
      rw [leftWindow]
      exact fun equal => distinct (equal.trans rightWindow)
    refine apart left leftInside right rightInside leftGroup rightGroup ?_ ?_ away keyed same
    · rw [leftWindow]
      exact List.mem_cons_self
    · have here : right.windowKey = target.windowKey := rightWindow
      rw [here]
      exact List.mem_cons_self
  · have rightKey := (mem_ofWindow rightInside).mp alsoListed
    apply different
    have index : left.index = right.index := by
      unfold Reservation.index
      rw [leftKey, rightKey, same]
    have present : left.index ≠ none := by
      unfold Reservation.index
      rw [Ne, Option.map_eq_none_iff]
      exact keyed
    rw [reservations.indexed left leftInside right rightInside index present]

/-- The reservations of a window go to the target window. -/
theorem repoint_apart {windowKey : String} {rest : List String}
    (distinct : windowKey ≠ target.windowKey)
    (apart : Apart target (windowKey :: rest) reservations) :
    ∃ moved, repoint reservations target windowKey = (true, moved) ∧
      moved.table.rows = reservations.table.rows.map (relocated target windowKey) := by
  have own : ∀ doc ∈ reservations.table.rows, doc.id ∈ ofWindow target windowKey reservations →
      doc.group = target.group := by
    intro doc inside listed
    exact (Reservation.place ((mem_ofWindow inside).mp listed)).1
  have ⟨moved, ran, shape⟩ := moveAll_clear own (ofWindow_clear distinct apart)
  refine ⟨moved, ran, ?_⟩
  rw [shape]
  apply List.map_congr_left
  intro doc inside
  unfold relocated movedWhen
  simp only [mem_ofWindow inside]

end Repointing

section Moves

variable {target : Target} {windowKey : String} {rest : List String} {before : Collections}

theorem relocated_cases (target : Target) (windowKey : String) (doc : Reservation) :
    doc.key = (target.group, windowKey) ∧ relocated target windowKey doc = doc.move target ∨
      doc.key ≠ (target.group, windowKey) ∧ relocated target windowKey doc = doc := by
  unfold relocated movedWhen
  split
  · rename_i here
    exact .inl ⟨here, rfl⟩
  · rename_i elsewhere
    exact .inr ⟨elsewhere, rfl⟩

/-- What is left to move stays apart from what has moved. -/
theorem Apart.after {before after : Indexed Reservation.id Reservation.index}
    (distinct : (target.windowKey :: windowKey :: rest).Nodup)
    (apart : Apart target (windowKey :: rest) before)
    (rows : after.table.rows = before.table.rows.map (relocated target windowKey)) :
    Apart target rest after := by
  have fresh := List.nodup_cons.mp distinct
  have freshRest := List.nodup_cons.mp fresh.2
  intro left leftInside right rightInside leftGroup rightGroup leftWindow rightWindow
    different keyed
  rw [rows] at leftInside rightInside
  have ⟨oldLeft, leftPresent, leftShape⟩ := List.mem_map.mp leftInside
  have ⟨oldRight, rightPresent, rightShape⟩ := List.mem_map.mp rightInside
  rcases relocated_cases target windowKey oldLeft with ⟨_, left_⟩ | ⟨_, left_⟩
  · rw [← leftShape, left_] at leftWindow
    exact absurd (List.mem_cons_of_mem _ leftWindow) fresh.1
  · rw [left_] at leftShape
    rw [leftShape] at leftPresent
    have listed := List.mem_cons_of_mem windowKey leftWindow
    rcases relocated_cases target windowKey oldRight with ⟨place, right_⟩ | ⟨_, right_⟩
    · have ⟨group, window⟩ := Reservation.place place
      have keep : right.idempotencyKey = oldRight.idempotencyKey := by
        rw [← rightShape, right_]
        rfl
      have away : left.windowKey ≠ oldRight.windowKey := by
        rw [window]
        intro same
        rw [same] at leftWindow
        exact freshRest.1 leftWindow
      rw [keep]
      refine apart left leftPresent oldRight rightPresent leftGroup group listed ?_ away keyed
      rw [window]
      exact List.mem_cons_of_mem _ List.mem_cons_self
    · rw [right_] at rightShape
      rw [rightShape] at rightPresent
      refine apart left leftPresent right rightPresent leftGroup rightGroup listed ?_
        different keyed
      rcases List.mem_cons.mp rightWindow with same | later
      · rw [same]
        exact List.mem_cons_self
      · exact List.mem_cons_of_mem _ (List.mem_cons_of_mem _ later)

/-- One window moves, and the others still can. -/
theorem moveWindow_moves (movable : Movable target (windowKey :: rest) before) :
    ∃ claimed after, claimed.windowKey = windowKey ∧
      moveWindow target before windowKey = (true, after) ∧ Moved target claimed before after ∧
      Movable target rest after := by
  have fresh := List.nodup_cons.mp movable.distinct
  have freshRest := List.nodup_cons.mp fresh.2
  have distinct : windowKey ≠ target.windowKey := by
    intro same
    exact fresh.1 (by rw [← same]; exact List.mem_cons_self)
  have ⟨claimed, found⟩ := Option.ne_none_iff_exists'.mp
    (movable.counted windowKey List.mem_cons_self)
  have ⟨member, key⟩ := Table.find_some.mp found
  have ⟨own, window⟩ := Prod.mk.inj key
  have ⟨reservations, repointed, shape⟩ := repoint_apart distinct movable.apart
  refine ⟨claimed, ⟨upsert (before.counters.remove (target.group, windowKey)) target claimed.used,
    reservations⟩, window, ?_, ?_, ?_⟩
  · unfold moveWindow
    rw [found, repointed]
  · refine ⟨own, by rw [window]; exact distinct, member, by rw [key], ?_⟩
    rw [window]
    exact shape
  · refine ⟨?_, ?_, movable.apart.after movable.distinct shape⟩
    · exact List.nodup_cons.mpr ⟨fun inside => fresh.1 (List.mem_cons_of_mem _ inside), freshRest.2⟩
    · intro other listed
      have notTarget : (target.group, other) ≠ target.key := by
        intro same
        have equal : other = target.windowKey := (Prod.mk.inj same).2
        rw [equal] at listed
        exact fresh.1 (List.mem_cons_of_mem _ listed)
      have notMoved : (target.group, other) ≠ (target.group, windowKey) := by
        intro same
        rw [(Prod.mk.inj same).2] at listed
        exact freshRest.1 listed
      dsimp only
      rw [find_upsert, if_neg notTarget, Table.find_remove, if_neg notMoved]
      exact movable.counted other (List.mem_cons_of_mem _ listed)

inductive Moves (target : Target) : List String → Collections → Collections → Prop
  | done (db : Collections) : Moves target [] db db
  | next {claimed : Counter} {rest : List String} {before middle after : Collections}
      (moved : Moved target claimed before middle) (later : Moves target rest middle after) :
      Moves target (claimed.windowKey :: rest) before after

/-- The loop ends, and moved every window. -/
theorem moveWindows_moves {windows : List String} {before : Collections}
    (movable : Movable target windows before) :
    ∃ after, moveWindows target windows before = (true, after) ∧
      Moves target windows before after := by
  induction windows generalizing before with
  | nil => exact ⟨before, rfl, .done before⟩
  | cons windowKey rest ih =>
      have ⟨claimed, middle, named, ran, moved, later⟩ := moveWindow_moves movable
      have ⟨after, onward, moves⟩ := ih later
      refine ⟨after, ?_, ?_⟩
      · unfold moveWindows
        rw [ran]
        exact onward
      · rw [← named]
        exact .next moved moves

end Moves

/-- Each counter shows what the reservations of its window cost. -/
def Balanced (db : Collections) : Prop :=
  ∀ counter ∈ db.counters.rows, counter.used = windowHeld db.reservations counter.key

/-- A target window without a counter costs nothing. -/
def Seeded (target : Target) (db : Collections) : Prop :=
  db.counters.find target.key = none → windowHeld db.reservations target.key = 0

section Effects

variable {target : Target} {claimed : Counter} {before after : Collections}

theorem Moved.key (moved : Moved target claimed before after) :
    claimed.key = (target.group, claimed.windowKey) := by
  unfold Counter.key
  rw [moved.own]

theorem Moved.apart (moved : Moved target claimed before after) : claimed.key ≠ target.key := by
  intro same
  exact moved.other (Prod.mk.inj same).2

/-- The counters after the move of a window. -/
theorem Moved.find (moved : Moved target claimed before after) (key : Group × String) :
    after.counters.find key =
      if key = target.key then
        some (((before.counters.find key).map fun counter =>
          counter.refresh target claimed.used).getD (target.counter claimed.used))
      else if key = claimed.key then none
      else before.counters.find key := by
  rw [moved.counters, find_upsert]
  split
  · rename_i here
    rw [Table.find_remove, if_neg (by rw [here]; exact moved.apart.symm)]
  · rw [Table.find_remove]

theorem Moved.groupUsed (moved : Moved target claimed before after) (group : Group) :
    Mongo.groupUsed after.counters group = Mongo.groupUsed before.counters group := by
  have found := Table.find_mem moved.member
  rw [moved.key] at found
  rw [moved.counters, groupUsed_upsert, moved.key, groupUsed_remove found]
  omega

theorem Moved.held (moved : Moved target claimed before after) :
    windowHeld after.reservations target.key =
      windowHeld before.reservations target.key + windowHeld before.reservations claimed.key := by
  have apart := moved.apart
  unfold windowHeld Table.total
  rw [moved.reservations, List.map_map, ← List.sum_map_add, moved.key]
  congr 1
  apply List.map_congr_left
  intro doc _
  dsimp only [Function.comp_apply]
  rw [moved.key] at apart
  rcases relocated_cases target claimed.windowKey doc with ⟨place, shape⟩ | ⟨elsewhere, shape⟩
  · have arrived : (doc.move target).key = target.key := by
      unfold Reservation.key Target.key
      rw [← (Reservation.place place).1]
      rfl
    have status : (doc.move target).status = doc.status := rfl
    have cost : (doc.move target).cost = doc.cost := rfl
    rw [shape, arrived, status, cost]
    simp only [place, apart, true_and, false_and, if_false, zero_add]
  · rw [shape]
    simp only [elsewhere, false_and, if_false, add_zero]

theorem Moved.held_other (moved : Moved target claimed before after) {key : Group × String}
    (notTarget : key ≠ target.key) (notMoved : key ≠ claimed.key) :
    windowHeld after.reservations key = windowHeld before.reservations key := by
  unfold windowHeld Table.total
  rw [moved.reservations, List.map_map]
  congr 1
  apply List.map_congr_left
  intro doc _
  dsimp only [Function.comp_apply]
  rw [moved.key] at notMoved
  rcases relocated_cases target claimed.windowKey doc with ⟨place, shape⟩ | ⟨elsewhere, shape⟩
  · have arrived : (doc.move target).key = target.key := by
      unfold Reservation.key Target.key
      rw [← (Reservation.place place).1]
      rfl
    rw [shape, arrived, place, if_neg fun same => notTarget same.1.symm,
      if_neg fun same => notMoved same.1.symm]
  · rw [shape]

/-- The move of a window keeps the books. -/
theorem Moved.balanced (moved : Moved target claimed before after) (balanced : Balanced before)
    (seeded : Seeded target before) : Balanced after ∧ Seeded target after := by
  have target_ := moved.find target.key
  rw [if_pos rfl] at target_
  constructor
  · intro counter inside
    have found := Table.find_mem inside
    by_cases here : counter.key = target.key
    · have held := moved.held
      have stale := balanced claimed moved.member
      rw [here, target_] at found
      rw [here, held, ← stale]
      cases old : before.counters.find target.key with
      | none =>
          rw [old] at found
          have fresh := seeded old
          rw [← Option.some.inj found, fresh, zero_add]
          rfl
      | some known =>
          rw [old] at found
          have ⟨member, place⟩ := Table.find_some.mp old
          have own := balanced known member
          rw [place] at own
          rw [← Option.some.inj found, ← own]
          rfl
    · rw [moved.find, if_neg here] at found
      split at found
      · cases found
      · rename_i elsewhere
        rw [moved.held_other here elsewhere]
        exact balanced counter (Table.find_some.mp found).1
  · intro missing
    rw [target_] at missing
    cases missing

theorem Moved.refreshed (moved : Moved target claimed before after) :
    ∃ counter, after.counters.find target.key = some counter ∧ counter.limit = target.limit ∧
      counter.resetAt = target.resetAt := by
  have target_ := moved.find target.key
  rw [if_pos rfl] at target_
  refine ⟨_, target_, ?_⟩
  cases before.counters.find target.key <;> exact ⟨rfl, rfl⟩

end Effects

/-- What a migration keeps of a reservation. -/
def Reservation.lasting (doc : Reservation) :
    String × Int × QuotaReservationStatus × Option String :=
  (doc.id, doc.cost, doc.status, doc.idempotencyKey)

section Loops

variable {target : Target} {windows : List String} {before after : Collections}

theorem Moves.balanced (moves : Moves target windows before after) (balanced : Balanced before)
    (seeded : Seeded target before) : Balanced after := by
  induction moves with
  | done => exact balanced
  | next moved _ ih =>
      have ⟨still, again⟩ := moved.balanced balanced seeded
      exact ih still again

theorem Moves.groupUsed (moves : Moves target windows before after) (group : Group) :
    Mongo.groupUsed after.counters group = Mongo.groupUsed before.counters group := by
  induction moves with
  | done => rfl
  | next moved _ ih => rw [ih, moved.groupUsed]

theorem Moves.lasting (moves : Moves target windows before after) :
    after.reservations.table.rows.map Reservation.lasting =
      before.reservations.table.rows.map Reservation.lasting := by
  induction moves with
  | done => rfl
  | next moved _ ih =>
      rw [ih, moved.reservations, List.map_map]
      apply List.map_congr_left
      intro doc _
      simp [Reservation.lasting, relocated]

theorem Moves.find (moves : Moves target windows before after) {key : Group × String}
    (notTarget : key ≠ target.key) :
    after.counters.find key =
      if key.1 = target.group ∧ key.2 ∈ windows then none else before.counters.find key := by
  induction moves with
  | done => rw [if_neg fun listed => List.not_mem_nil listed.2]
  | @next claimed rest _ _ _ moved _ ih =>
      have here : key = claimed.key ↔ key.1 = target.group ∧ key.2 = claimed.windowKey := by
        rw [moved.key]
        exact Prod.ext_iff
      rw [ih, moved.find, if_neg notTarget]
      by_cases same : key = claimed.key
      · have ⟨own, window⟩ := here.mp same
        have covered : key.1 = target.group ∧ key.2 ∈ claimed.windowKey :: rest := by
          rw [window]
          exact ⟨own, List.mem_cons_self⟩
        rw [if_pos same, if_pos covered]
        split <;> rfl
      · have listed : key.1 = target.group ∧ key.2 ∈ claimed.windowKey :: rest ↔
            key.1 = target.group ∧ key.2 ∈ rest := by
          rw [List.mem_cons]
          tauto
        rw [if_neg same]
        simp only [listed]

theorem Moves.mem_other (moves : Moves target windows before after) {doc : Reservation}
    (other : doc.group ≠ target.group) :
    doc ∈ after.reservations.table.rows ↔ doc ∈ before.reservations.table.rows := by
  induction moves with
  | done => rfl
  | @next claimed _ _ _ _ moved _ ih =>
      rw [ih, moved.reservations, List.mem_map]
      constructor
      · intro ⟨old, inside, shape⟩
        have same : old.group = doc.group := by
          rw [← shape]
          exact (movedWhen_group ..).symm
        rcases relocated_cases target claimed.windowKey old with ⟨place, _⟩ | ⟨_, still⟩
        · exact absurd (same.symm.trans (Reservation.place place).1) other
        · rw [still] at shape
          rw [← shape]
          exact inside
      · intro inside
        rcases relocated_cases target claimed.windowKey doc with ⟨place, _⟩ | ⟨_, still⟩
        · exact absurd (Reservation.place place).1 other
        · exact ⟨doc, inside, still⟩

/-- A loop that moved anything leaves the target counter with the values of the command. -/
theorem Moves.refreshed (moves : Moves target windows before after)
    (started : windows ≠ [] ∨ ∃ counter, before.counters.find target.key = some counter ∧
      counter.limit = target.limit ∧ counter.resetAt = target.resetAt) :
    ∃ counter, after.counters.find target.key = some counter ∧ counter.limit = target.limit ∧
      counter.resetAt = target.resetAt := by
  induction moves with
  | done => exact started.resolve_left (fun empty => empty rfl)
  | next moved _ ih => exact ih (.inr moved.refreshed)

end Loops

section Migration

variable {target : Target} {now : Int} {db : Collections}

theorem mem_staleWindows {windowKey : String} :
    windowKey ∈ staleWindows db.counters target now ↔
      ∃ counter ∈ db.counters.rows, counter.group = target.group ∧
        counter.windowKey ≠ target.windowKey ∧ now < counter.resetAt ∧
        counter.windowKey = windowKey := by
  unfold staleWindows
  simp only [List.mem_map, List.mem_filter, Bool.and_eq_true, decide_eq_true_eq, and_assoc]

theorem staleWindows_nodup : (staleWindows db.counters target now).Nodup := by
  unfold staleWindows
  apply List.Nodup.map_on
  · intro left leftInside right rightInside same
    simp only [List.mem_filter, Bool.and_eq_true, decide_eq_true_eq] at leftInside rightInside
    apply Table.eq_of_key leftInside.1 rightInside.1
    unfold Counter.key
    rw [leftInside.2.1, rightInside.2.1, same]
  · exact db.counters.unique.of_map.filter _

/-- The stale windows can be moved when no idempotency key stands in the way. -/
theorem staleWindows_movable
    (apart : Apart target (staleWindows db.counters target now) db.reservations) :
    Movable target (staleWindows db.counters target now) db := by
  refine ⟨List.nodup_cons.mpr ⟨fun inside => ?_, staleWindows_nodup⟩, ?_, apart⟩
  · have ⟨counter, _, _, other, _, same⟩ := mem_staleWindows.mp inside
    exact other same
  · intro windowKey listed
    have ⟨counter, inside, own, _, _, same⟩ := mem_staleWindows.mp listed
    have key : counter.key = (target.group, windowKey) := by
      unfold Counter.key
      rw [own, same]
    rw [← key, Table.find_mem inside]
    exact Option.some_ne_none _

/-- Nothing is left to move and the target counter has the values of the command. -/
structure AtRest (target : Target) (now : Int) (db : Collections) : Prop where
  quiet : ∀ counter ∈ db.counters.rows, counter.group = target.group →
    counter.windowKey ≠ target.windowKey → counter.resetAt ≤ now
  refreshed : ∀ counter, db.counters.find target.key = some counter →
    counter.limit = target.limit ∧ counter.resetAt = target.resetAt

theorem increment_same (refreshed : ∀ counter, db.counters.find target.key = some counter →
    counter.limit = target.limit ∧ counter.resetAt = target.resetAt) :
    increment db.counters target 0 = db.counters := by
  apply Table.ext
  have same : ∀ counter ∈ db.counters.rows,
      (if counter.key = target.key then counter.refresh target 0 else counter) = counter := by
    intro counter inside
    split
    · rename_i here
      have found := Table.find_mem inside
      rw [here] at found
      have ⟨limit, resetAt⟩ := refreshed counter found
      unfold Counter.refresh
      rw [← limit, ← resetAt, add_zero]
    · rfl
  unfold increment
  rw [Table.modify, Table.rows_map, List.map_congr_left same, List.map_id']

/-- A state at rest stays as it is. -/
theorem AtRest.again (atRest : AtRest target now db) {later : Int} (order : now ≤ later) :
    migrateActiveCounters db target later = (true, db) := by
  have none_stale : staleWindows db.counters target later = [] := by
    apply List.eq_nil_iff_forall_not_mem.mpr
    intro windowKey listed
    have ⟨counter, inside, own, other, active, _⟩ := mem_staleWindows.mp listed
    have ended := atRest.quiet counter inside own other
    omega
  unfold migrateActiveCounters
  rw [none_stale]
  dsimp only
  rw [increment_same atRest.refreshed]
  split <;> rfl

theorem mem_increment {counters : Table Counter.key} {amount : Int} {counter : Counter} :
    counter ∈ (increment counters target amount).rows ↔
      (counter ∈ counters.rows ∧ counter.key ≠ target.key) ∨
        ∃ old, counters.find target.key = some old ∧ counter = old.refresh target amount :=
  Table.mem_modify

theorem migrate_quiet (quiet : staleWindows db.counters target now = []) :
    migrateActiveCounters db target now =
      (true, { db with counters := increment db.counters target 0 }) := by
  unfold migrateActiveCounters
  rw [quiet]
  dsimp only
  split
  · rfl
  · rename_i missing
    have absent : db.counters.find target.key = none := by simpa using missing
    rw [increment, Table.modify_missing absent]

theorem migrate_moves (stale : staleWindows db.counters target now ≠ []) :
    migrateActiveCounters db target now =
      moveWindows target (staleWindows db.counters target now) db := by
  unfold migrateActiveCounters
  split
  · rename_i quiet
    exact absurd quiet stale
  · rfl

/-- What the migration of one call promises. -/
structure Consolidated (target : Target) (now : Int) (before after : Collections) : Prop where
  balanced : Balanced after
  atRest : AtRest target now after
  total : ∀ group, groupUsed after.counters group = groupUsed before.counters group
  lasting : after.reservations.table.rows.map Reservation.lasting =
    before.reservations.table.rows.map Reservation.lasting
  counters : ∀ key, key ≠ target.key →
    ¬(key.1 = target.group ∧ key.2 ∈ staleWindows before.counters target now) →
    after.counters.find key = before.counters.find key
  reservations : ∀ doc, doc.group ≠ target.group →
    (doc ∈ after.reservations.table.rows ↔ doc ∈ before.reservations.table.rows)

/-- Without a stale counter only the values of the target counter change. -/
theorem consolidated_quiet (quiet : staleWindows db.counters target now = [])
    (balanced : Balanced db) :
    Consolidated target now db { db with counters := increment db.counters target 0 } where
  balanced := by
    intro counter inside
    rcases mem_increment.mp inside with ⟨old, _⟩ | ⟨old, found, shape⟩
    · exact balanced counter old
    · have own := balanced old (Table.find_some.mp found).1
      rw [shape, Counter.refresh_used, Counter.refresh_key, add_zero]
      exact own
  atRest := by
    constructor
    · intro counter inside own other
      rcases mem_increment.mp inside with ⟨old, _⟩ | ⟨old, found, shape⟩
      · by_contra active
        have listed : counter.windowKey ∈ staleWindows db.counters target now :=
          mem_staleWindows.mpr ⟨counter, old, own, other, not_le.mp active, rfl⟩
        rw [quiet] at listed
        exact List.not_mem_nil listed
      · have place : old.windowKey = target.windowKey :=
          (Prod.mk.inj (Table.find_some.mp found).2).2
        rw [shape] at other
        exact absurd place other
    · intro counter found
      rw [find_increment, if_pos rfl] at found
      have ⟨old, _, shape⟩ := Option.map_eq_some_iff.mp found
      rw [← shape]
      exact ⟨rfl, rfl⟩
  total := groupUsed_refresh db.counters target
  lasting := rfl
  counters := by
    intro key other _
    rw [find_increment, if_neg other]
  reservations := fun _ _ => Iff.rfl

/-- The loop over the stale counters. -/
theorem consolidated_moves {after : Collections}
    (stale : staleWindows db.counters target now ≠ [])
    (moves : Moves target (staleWindows db.counters target now) db after)
    (balanced : Balanced db) (seeded : Seeded target db) : Consolidated target now db after where
  balanced := moves.balanced balanced seeded
  atRest := by
    constructor
    · intro counter inside own other
      have place : counter.key ≠ target.key := fun same => other (Prod.mk.inj same).2
      have found := Table.find_mem inside
      rw [moves.find place] at found
      split at found
      · cases found
      · rename_i unlisted
        by_contra active
        apply unlisted
        refine ⟨own, mem_staleWindows.mpr ⟨counter, ?_, own, other, not_le.mp active, rfl⟩⟩
        exact (Table.find_some.mp found).1
    · intro counter found
      have ⟨known, stored, limit, resetAt⟩ := moves.refreshed (.inl stale)
      rw [found] at stored
      rw [Option.some.inj stored]
      exact ⟨limit, resetAt⟩
  total := moves.groupUsed
  lasting := moves.lasting
  counters := by
    intro key other unlisted
    rw [moves.find other, if_neg unlisted]
  reservations := fun _ other => moves.mem_other other

end Migration

/-- A migration without interleaving, from balanced books: it ends, keeps the books, leaves no other
active counter of the group, keeps what the group used, keeps the id, the cost, the status and the
key of every reservation, leaves every other group and the expired windows alone, and changes
nothing the second time. -/
theorem sequential_migration (target : Target) (now : Int) (db : Collections)
    (balanced : Balanced db)
    (apart : Apart target (staleWindows db.counters target now) db.reservations)
    (seeded : staleWindows db.counters target now ≠ [] → Seeded target db) :
    ∃ after, migrateActiveCounters db target now = (true, after) ∧
      Consolidated target now db after ∧
      ∀ later, now ≤ later → migrateActiveCounters after target later = (true, after) := by
  by_cases quiet : staleWindows db.counters target now = []
  · have consolidated := consolidated_quiet quiet balanced
    exact ⟨_, migrate_quiet quiet, consolidated, fun later order => consolidated.atRest.again order⟩
  · have ⟨after, ran, moves⟩ := moveWindows_moves (staleWindows_movable apart)
    have consolidated := consolidated_moves quiet moves balanced (seeded quiet)
    refine ⟨after, ?_, consolidated, fun later order => consolidated.atRest.again order⟩
    rw [migrate_moves quiet]
    exact ran

/-- A stale window with a charged and a refunded reservation joins the target window; an expired
window stays. -/
theorem sequential_migration_merges :
    let target : Target := ⟨("u", "r"), "2", 10, 300⟩
    let db : Collections := ⟨
      ⟨[⟨"u", "r", "0", 1, 10, 100⟩, ⟨"u", "r", "1", 3, 10, 200⟩, ⟨"u", "r", "2", 4, 10, 290⟩],
        by decide⟩,
      ⟨⟨[⟨"a", "u", "r", "1", 3, .reserved, some "k", 200⟩,
          ⟨"b", "u", "r", "1", 2, .refunded, none, 200⟩,
          ⟨"c", "u", "r", "2", 4, .finalized, some "l", 290⟩,
          ⟨"d", "u", "r", "0", 1, .finalized, some "k", 100⟩], by decide⟩, by decide +kernel⟩⟩
    ∃ after, migrateActiveCounters db target 150 = (true, after) ∧
      Consolidated target 150 db after ∧
      after.counters.rows = [⟨"u", "r", "0", 1, 10, 100⟩, ⟨"u", "r", "2", 7, 10, 300⟩] := by
  intro target db
  have balanced : Balanced db := by
    unfold Balanced
    decide +kernel
  have apart : Apart target (staleWindows db.counters target 150) db.reservations := by
    unfold Apart
    decide +kernel
  have seeded : Seeded target db := by
    unfold Seeded
    decide +kernel
  have ⟨after, ran, consolidated, _⟩ := sequential_migration target 150 db balanced apart
    fun _ => seeded
  have rows : (migrateActiveCounters db target 150).2.counters.rows =
      [⟨"u", "r", "0", 1, 10, 100⟩, ⟨"u", "r", "2", 7, 10, 300⟩] := by
    decide +kernel
  rw [ran] at rows
  exact ⟨after, ran, consolidated, rows⟩

/-- A reservation of a target window without a counter, next to an empty stale window. -/
theorem sequential_migration_orphan :
    ¬∀ (target : Target) (now : Int) (db : Collections), Balanced db →
      Apart target (staleWindows db.counters target now) db.reservations →
      ∃ after, migrateActiveCounters db target now = (true, after) ∧ Balanced after := by
  intro keeps
  let target : Target := ⟨("u", "r"), "2", 10, 300⟩
  let db : Collections := ⟨⟨[⟨"u", "r", "1", 0, 10, 200⟩], by decide⟩,
    ⟨⟨[⟨"a", "u", "r", "2", 5, .reserved, none, 300⟩], by decide⟩, by decide +kernel⟩⟩
  have balanced : Balanced db := by
    unfold Balanced
    decide +kernel
  have apart : Apart target (staleWindows db.counters target 150) db.reservations := by
    unfold Apart
    decide +kernel
  have ⟨after, ran, kept⟩ := keeps target 150 db balanced apart
  have broken : ¬Balanced (migrateActiveCounters db target 150).2 := by
    unfold Balanced
    decide +kernel
  rw [ran] at broken
  exact broken kept

end AiPlatform.Quota.Mongo
