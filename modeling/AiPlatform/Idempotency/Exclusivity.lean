import AiPlatform.Idempotency.Purges

set_option autoImplicit false

/- When a key can be claimed again: not before the last claim expires or, if it was not
completed, times out. -/
namespace AiPlatform.Idempotency

open Machine

/-- The last claim on a key, and whether a response was stored under it. -/
structure Grant where
  now : Int
  check : Check
  completed : Bool

def Event.grants (index : String × String) : Event → Bool
  | .checked _ check (.ok (.claim _)) => check.index = index
  | _ => false

def Event.completesClaim (check : Check) : Event → Bool
  | .stored _ index claimToken _ _ done =>
      done && (index = check.index && claimToken = check.claimToken)
  | .checked _ _ _ => false

def track (index : String × String) (last : Option Grant) (event : Event) : Option Grant :=
  match event with
  | .checked now check (.ok (.claim _)) =>
      if check.index = index then some ⟨now, check, false⟩ else last
  | .checked _ _ _ => last
  | .stored _ _ _ _ _ _ => last.map fun grant =>
      { grant with completed := grant.completed || event.completesClaim grant.check }

def lastGrant (index : String × String) (history : List Event) : Option Grant :=
  history.foldl (track index) none

/-- The next claim after `grant` may come at `now`. -/
def Spaced (timeoutSeconds : Int) (grant : Grant) (now : Int) : Prop :=
  min (grant.now + timedelta timeoutSeconds) grant.check.expiresAt ≤ now ∧
    (grant.completed = true → grant.check.expiresAt ≤ now)

/-- What the table says about the last claim on a key. -/
def Holds (state : State) (index : String × String) (grant : Grant) : Prop :=
  match state.table.find index with
  | none => grant.check.expiresAt ≤ state.clock
  | some record => record.expiresAt = grant.check.expiresAt ∧
      (record.status = .inProgress → record.updatedAt = grant.now ∧
        record.claimToken = some grant.check.claimToken ∧ grant.completed = false)

structure Exclusive (timeoutSeconds : Int) (state : State) : Prop where
  held : ∀ index grant, lastGrant index state.history = some grant → grant.check.index = index ∧
    Holds state index grant
  spaced : ∀ before after now check token,
    state.history = before ++ .checked now check (.ok (.claim token)) :: after →
    ∀ grant, lastGrant check.index before = some grant → Spaced timeoutSeconds grant now

theorem lastGrant_append (index : String × String) (history : List Event) (event : Event) :
    lastGrant index (history ++ [event]) = track index (lastGrant index history) event := by
  simp [lastGrant]

/-- Events that grant nothing only mark the last claim completed. -/
theorem foldl_track (index : String × String) (grant : Grant) (events : List Event)
    (quiet : ∀ event ∈ events, event.grants index = false) :
    events.foldl (track index) (some grant) = some
      { grant with
        completed := grant.completed || events.any (Event.completesClaim grant.check) } := by
  induction events generalizing grant with
  | nil => simp
  | cons event rest ih =>
      have tail : ∀ event ∈ rest, event.grants index = false := fun other member =>
        quiet other (List.mem_cons_of_mem _ member)
      have head := quiet event List.mem_cons_self
      have tracked : track index (some grant) event = some
          { grant with completed := grant.completed || event.completesClaim grant.check } := by
        cases event with
        | stored now other token code body done => rfl
        | checked now check reply =>
            cases reply with
            | error error => simp [track, Event.completesClaim]
            | ok reply =>
                cases reply with
                | cached code body => simp [track, Event.completesClaim]
                | claim token =>
                    have other : check.index ≠ index := by simpa [Event.grants] using head
                    simp [track, Event.completesClaim, other]
      rw [List.foldl_cons, tracked, ih _ tail]
      simp [Bool.or_assoc]

theorem lastGrant_split {index : String × String} (before : List Event) {between : List Event}
    (now : Int) {check : Check} (token : String) (same : check.index = index)
    (quiet : ∀ event ∈ between, event.grants index = false) :
    lastGrant index (before ++ .checked now check (.ok (.claim token)) :: between) =
      some ⟨now, check, between.any (Event.completesClaim check)⟩ := by
  have granted : track index (lastGrant index before)
      (.checked now check (.ok (.claim token))) = some ⟨now, check, false⟩ := by
    simp [track, same]
  rw [lastGrant, List.foldl_append, List.foldl_cons]
  rw [lastGrant] at granted
  rw [granted, foldl_track index _ between quiet]
  simp

theorem Spaced.of_expired {timeoutSeconds now : Int} {grant : Grant}
    (expired : grant.check.expiresAt ≤ now) : Spaced timeoutSeconds grant now :=
  ⟨le_trans (min_le_right _ _) expired, fun _ => expired⟩

/-- A reclaimable record is spaced from the claim it holds. -/
theorem Spaced.of_reclaimable {timeoutSeconds now : Int} {grant : Grant}
    {record : IdempotencyKey} (expiry : record.expiresAt = grant.check.expiresAt)
    (open_ : record.status = .inProgress → record.updatedAt = grant.now ∧
      record.claimToken = some grant.check.claimToken ∧ grant.completed = false)
    (lapsed : reclaimable record now timeoutSeconds = true) :
    Spaced timeoutSeconds grant now := by
  simp only [reclaimable, isStuckInProgress, Bool.or_eq_true, Bool.and_eq_true,
    decide_eq_true_eq] at lapsed
  rcases lapsed with expired | ⟨running, stuck⟩
  · exact .of_expired (by omega)
  · obtain ⟨claimed, -, unfinished⟩ := open_ running
    refine ⟨le_trans (min_le_left _ _) (by omega), fun done => ?_⟩
    rw [unfinished] at done
    cases done

theorem split_append_singleton {history before after : List Event} {last event : Event}
    (shape : history ++ [last] = before ++ event :: after) :
    (history = before ∧ last = event) ∨
      ∃ rest, history = before ++ event :: rest ∧ after = rest ++ [last] := by
  rcases List.eq_nil_or_concat after with rfl | ⟨rest, final, rfl⟩
  · have equal := List.append_inj' shape rfl
    exact .inl ⟨equal.1, (List.cons.inj equal.2).1⟩
  · have regrouped : history ++ [last] = (before ++ event :: rest) ++ [final] := by
      simpa using shape
    have equal := List.append_inj' regrouped rfl
    obtain ⟨same, -⟩ := List.cons.inj equal.2
    exact .inr ⟨rest, equal.1, by simp [same]⟩

section Preservation

variable {timeoutSeconds now : Int} {state next : State}

theorem Holds.tick {index : String × String} {grant : Grant} (holds : Holds state index grant)
    (later : state.clock ≤ now) : Holds { state with clock := now } index grant := by
  unfold Holds at holds ⊢
  dsimp only at holds ⊢
  split at holds
  · exact le_trans holds later
  · exact holds

theorem Exclusive.tick (exclusive : Exclusive timeoutSeconds state) (later : state.clock ≤ now) :
    Exclusive timeoutSeconds { state with clock := now } :=
  ⟨fun index grant last => ⟨(exclusive.held index grant last).1,
    (exclusive.held index grant last).2.tick later⟩, exclusive.spaced⟩

theorem Holds.of_find {index : String × String} {grant : Grant} (holds : Holds state index grant)
    (sameClock : next.clock = state.clock)
    (sameRow : next.table.find index = state.table.find index) : Holds next index grant := by
  unfold Holds at holds ⊢
  rw [sameRow, sameClock]
  exact holds

/-- A step that appends one event keeps exclusivity if the new last claims hold and a new claim
is spaced from the one before. -/
theorem Exclusive.append (exclusive : Exclusive timeoutSeconds state) {event : Event}
    (history : next.history = state.history ++ [event])
    (held : ∀ index grant, track index (lastGrant index state.history) event = some grant →
      grant.check.index = index ∧ Holds next index grant)
    (spaced : ∀ time check token, event = .checked time check (.ok (.claim token)) →
      ∀ grant, lastGrant check.index state.history = some grant →
        Spaced timeoutSeconds grant time) : Exclusive timeoutSeconds next := by
  constructor
  · intro index grant last
    rw [history, lastGrant_append] at last
    exact held index grant last
  · intro before after time check token shape grant last
    rw [history] at shape
    rcases split_append_singleton shape with ⟨rfl, rfl⟩ | ⟨rest, earlier, -⟩
    · exact spaced time check token rfl grant last
    · exact exclusive.spaced before rest time check token earlier grant last

theorem Exclusive.unchanged (exclusive : Exclusive timeoutSeconds state)
    (history : next.history = state.history) (sameClock : next.clock = state.clock)
    (sameRows : ∀ index, next.table.find index = state.table.find index) :
    Exclusive timeoutSeconds next := by
  constructor
  · intro index grant last
    rw [history] at last
    obtain ⟨own, holds⟩ := exclusive.held index grant last
    exact ⟨own, holds.of_find sameClock (sameRows index)⟩
  · rw [history]
    exact exclusive.spaced

/-- The row of a new claim holds it, and the other rows are untouched. -/
theorem Exclusive.granted (exclusive : Exclusive timeoutSeconds state) {check : Check}
    {record : IdempotencyKey} (claimed : Claimed check now record)
    (history : next.history =
      state.history ++ [.checked now check (.ok (.claim check.claimToken))])
    (sameClock : next.clock = state.clock)
    (rows : ∀ index, next.table.find index =
      if index = check.index then some record else state.table.find index)
    (spaced : ∀ grant, lastGrant check.index state.history = some grant →
      Spaced timeoutSeconds grant now) : Exclusive timeoutSeconds next := by
  refine exclusive.append history ?_ ?_
  · intro index grant last
    by_cases here : check.index = index
    · subst here
      simp only [track, ↓reduceIte, Option.some.injEq] at last
      subst last
      refine ⟨rfl, ?_⟩
      simp only [Holds, rows, ↓reduceIte]
      exact ⟨claimed.expiresAt, fun _ => ⟨claimed.updatedAt, claimed.claimToken, trivial⟩⟩
    · simp only [track, here, ↓reduceIte] at last
      obtain ⟨own, holds⟩ := exclusive.held index grant last
      have other : index ≠ check.index := fun equal => here equal.symm
      exact ⟨own, holds.of_find sameClock (by rw [rows, if_neg other])⟩
  · intro time other token shape grant last
    simp only [Event.checked.injEq] at shape
    obtain ⟨rfl, rfl, -⟩ := shape
    exact spaced grant last

theorem find_completeRecord {index other : String × String} {record : IdempotencyKey}
    {statusCode : Int} {body : Json} {table : KeyTable} (found : table.find index = some record) :
    (table.modify index (fun record => completeRecord record statusCode body now)
        fun record => completeRecord_index record statusCode body now).find other =
      if other = index then some (completeRecord record statusCode body now)
      else table.find other := by
  rw [Table.find_modify]
  split
  · rename_i here
    rw [here, found, Option.map_some]
  · rfl

theorem Exclusive.answered (exclusive : Exclusive timeoutSeconds state) {check : Check}
    {reply : Except AppError Reply} (refused : ∀ token, reply ≠ .ok (.claim token))
    (history : next.history = state.history ++ [.checked now check reply])
    (sameClock : next.clock = state.clock) (sameTable : next.table = state.table) :
    Exclusive timeoutSeconds next := by
  refine exclusive.append history ?_ ?_
  · intro index grant last
    have quiet : track index (lastGrant index state.history) (.checked now check reply) =
        lastGrant index state.history := by
      cases reply with
      | error error => rfl
      | ok reply =>
          cases reply with
          | cached code body => rfl
          | claim token => exact absurd rfl (refused token)
    rw [quiet] at last
    obtain ⟨own, holds⟩ := exclusive.held index grant last
    exact ⟨own, holds.of_find sameClock (by rw [sameTable])⟩
  · intro time other token shape
    simp only [Event.checked.injEq] at shape
    exact absurd shape.2.2 (refused token)

theorem Exclusive.completed (exclusive : Exclusive timeoutSeconds state) {index : String × String}
    {claimToken : String} {statusCode : Int} {body : Json} {record : IdempotencyKey}
    (found : state.table.find index = some record) :
    Exclusive timeoutSeconds { state with
      table := state.table.modify index
        (fun record => completeRecord record statusCode body now)
        fun record => completeRecord_index record statusCode body now
      history := state.history ++ [.stored now index claimToken statusCode body true] } := by
  refine exclusive.append rfl ?_ (by simp)
  intro other grant last
  simp only [track] at last
  obtain ⟨old, oldLast, rfl⟩ := Option.map_eq_some_iff.mp last
  obtain ⟨own, holds⟩ := exclusive.held other old oldLast
  refine ⟨own, ?_⟩
  simp only [Holds] at holds ⊢
  rw [find_completeRecord found]
  by_cases here : other = index
  · subst here
    rw [found] at holds
    rw [if_pos rfl]
    exact ⟨holds.1, fun running => by cases running⟩
  · rw [if_neg here]
    have elsewhere : Event.completesClaim old.check
        (.stored now index claimToken statusCode body true) = false := by
      simp only [Event.completesClaim, own, Bool.true_and, Bool.and_eq_false_imp,
        decide_eq_true_eq]
      intro same
      exact absurd same.symm here
    simpa only [elsewhere, Bool.or_false] using holds

/-- A purge that takes only rows whose claims have expired. -/
theorem Exclusive.deleted (exclusive : Exclusive timeoutSeconds state) {expired : List RowId}
    (past : ∀ record ∈ state.table.rows, record.id ∈ expired → record.expiresAt ≤ state.clock)
    (selected : List (List RowId)) :
    Exclusive timeoutSeconds
      { state with table := deleteExpired expired state.table, selected := selected } := by
  refine ⟨?_, exclusive.spaced⟩
  intro index grant last
  obtain ⟨own, holds⟩ := exclusive.held index grant last
  refine ⟨own, ?_⟩
  simp only [Holds, deleteExpired, Table.find_erase] at holds ⊢
  cases found : state.table.find index with
  | none =>
      rw [found] at holds
      simpa using holds
  | some record =>
      rw [found] at holds
      by_cases listed : record.id ∈ expired
      · have old := past record (Table.find_some.mp found).1 listed
        simp only [Option.filter, listed, decide_true, Bool.not_true, Bool.false_eq_true,
          ↓reduceIte]
        omega
      · simpa [Option.filter, listed] using holds

theorem Effect.exclusive {call : Call} (effect : Effect timeoutSeconds state now call next)
    (current : state.clock = now) (exclusive : Exclusive timeoutSeconds state)
    (due : DeletesExpired state ⟨now, call⟩) : Exclusive timeoutSeconds next := by
  cases effect with
  | inserted call check table record fresh own claimed added =>
      have rows := Table.find_insert added
      rw [claimed.index] at rows
      refine exclusive.granted claimed rfl rfl rows ?_
      intro grant last
      have holds := (exclusive.held check.index grant last).2
      have missing := (Table.insert_some.mp added).1
      rw [claimed.index] at missing
      simp only [Holds, missing] at holds
      exact .of_expired (by omega)
  | waits call check waiting fresh present added =>
      exact exclusive.unchanged rfl rfl fun _ => rfl
  | reclaimed call check record held found lapsed =>
      have claimed : Claimed check now (resetExpiredRecord record check now) :=
        ⟨(Table.find_some.mp found).2, rfl, rfl, rfl, rfl, rfl⟩
      refine exclusive.granted claimed rfl rfl ?_ ?_
      · intro index
        simp only [Table.find_modify]
        split
        · rename_i here
          rw [here, found, Option.map_some]
        · rfl
      · intro grant last
        have holds := (exclusive.held check.index grant last).2
        simp only [Holds, found] at holds
        exact .of_reclaimable holds.1 holds.2 lapsed
  | answered call check reply held reason =>
      have refused : ∀ token, reply ≠ .ok (.claim token) := by
        rintro token rfl
        rcases reason with ⟨impossible, -⟩ | ⟨record, -, -, ⟨impossible, -⟩ | ⟨-,
          ⟨body, -, -, impossible⟩ | ⟨-, impossible⟩⟩⟩ <;> cases impossible
      exact exclusive.answered refused rfl rfl rfl
  | completed index claimToken statusCode body record storable found held =>
      exact exclusive.completed found
  | refused index claimToken statusCode body unfit => exact exclusive
  | fenced index claimToken statusCode body storable free =>
      refine exclusive.append rfl ?_ (by simp)
      intro other grant last
      simp only [track, Event.completesClaim, Bool.false_and, Bool.or_false] at last
      obtain ⟨old, oldLast, rfl⟩ := Option.map_eq_some_iff.mp last
      exact exclusive.held other old oldLast
  | selected before limit expired past chosen => exact exclusive.unchanged rfl rfl fun _ => rfl
  | rejected before limit expired invalid => exact exclusive
  | deleted expired pending => exact exclusive.deleted (due expired rfl) _
  | rolledBack expired pending => exact exclusive.unchanged rfl rfl fun _ => rfl

end Preservation

theorem step_exclusive {timeoutSeconds : Int} {state next : State} {action : Action}
    (exclusive : Exclusive timeoutSeconds state) (due : DeletesExpired state action)
    (stepped : step timeoutSeconds state action = some next) : Exclusive timeoutSeconds next := by
  obtain ⟨later, effect⟩ := step_effect stepped
  refine effect.exclusive rfl (exclusive.tick later) ?_
  intro expired asked record inside listed
  exact (due expired asked record inside listed).trans later

theorem run_exclusive {timeoutSeconds : Int} {state final : State} {actions : List Action}
    (exclusive : Exclusive timeoutSeconds state)
    (due : Meets (step timeoutSeconds) DeletesExpired state actions)
    (reached : run (step timeoutSeconds) state actions = some final) :
    Exclusive timeoutSeconds final :=
  run_invariant _ (fun _ _ _ exclusive due stepped => step_exclusive exclusive due stepped)
    exclusive due reached

theorem init_exclusive (timeoutSeconds start : Int) (legacy : KeyTable) :
    Exclusive timeoutSeconds (.init start legacy) := by
  constructor
  · intro index grant last
    cases last
  · intro before after now check token shape
    simp [State.init] at shape

/-- What a run adds to the history lies between its two clock readings. -/
theorem run_history {timeoutSeconds : Int} {state final : State} {actions : List Action}
    (reached : run (step timeoutSeconds) state actions = some final) :
    state.clock ≤ final.clock ∧ ∃ events, final.history = state.history ++ events ∧
      ∀ time check reply, .checked time check reply ∈ events →
        state.clock ≤ time ∧ time ≤ final.clock := by
  refine run_invariant_always (fun later => state.clock ≤ later.clock ∧ ∃ events,
      later.history = state.history ++ events ∧
        ∀ time check reply, .checked time check reply ∈ events →
          state.clock ≤ time ∧ time ≤ later.clock) ?_ ⟨le_refl _, [], by simp, by simp⟩ reached
  rintro middle action next ⟨past, events, shape, timed⟩ stepped
  obtain ⟨later, effect⟩ := step_effect stepped
  obtain ⟨added, grown, stamped⟩ := effect.history
  have clock : next.clock = action.now := effect.clock
  refine ⟨by omega, events ++ added, by rw [grown, ← List.append_assoc, ← shape], ?_⟩
  intro time check reply member
  rcases List.mem_append.mp member with old | new
  · have bounds := timed time check reply old
    omega
  · have now := stamped time check reply new
    omega

/-- Two matches in a list, with none between them. -/
theorem two_matches {Item : Type} {test : Item → Bool} {items : List Item}
    (many : 2 ≤ items.countP test) :
    ∃ before first between second after,
      items = before ++ first :: (between ++ second :: after) ∧ test first = true ∧
        test second = true ∧ ∀ item ∈ between, test item = false := by
  have some_match : ∀ rest : List Item, 1 ≤ rest.countP test →
      ∃ before item after, rest = before ++ item :: after ∧ test item = true ∧
        ∀ other ∈ before, test other = false := by
    intro rest matched
    obtain ⟨item, member, holds⟩ := List.countP_pos_iff.mp matched
    obtain ⟨found, search⟩ := Option.isSome_iff_exists.mp
      (List.find?_isSome.mpr ⟨item, member, holds⟩)
    obtain ⟨passes, before, after, shape, earlier⟩ := List.find?_eq_some_iff_append.mp search
    exact ⟨before, found, after, shape, passes,
      fun other inside => by simpa using earlier other inside⟩
  obtain ⟨before, first, rest, rfl, firstPasses, quiet⟩ := some_match items (by omega)
  have none_before : before.countP test = 0 :=
    List.countP_eq_zero.mpr fun other inside => by simp [quiet other inside]
  rw [List.countP_append, List.countP_cons_of_pos firstPasses, none_before] at many
  obtain ⟨between, second, after, rfl, secondPasses, gap⟩ := some_match rest (by omega)
  exact ⟨before, first, between, second, after, rfl, firstPasses, secondPasses, gap⟩

theorem Event.grants_iff {index : String × String} {event : Event} :
    event.grants index = true ↔
      ∃ now check token, event = .checked now check (.ok (.claim token)) ∧ check.index = index := by
  constructor
  · intro granted
    cases event with
    | stored now other token code body done => cases granted
    | checked now check reply =>
        cases reply with
        | error error => cases granted
        | ok reply =>
            cases reply with
            | cached code body => cases granted
            | claim token => exact ⟨now, check, token, rfl, by simpa [Event.grants] using granted⟩
  · rintro ⟨now, check, token, rfl, same⟩
    simpa [Event.grants] using same

/-- Claims of one key that follow each other are spaced. -/
theorem Exclusive.consecutive {timeoutSeconds : Int} {state : State}
    (exclusive : Exclusive timeoutSeconds state) {before between after : List Event}
    {firstNow secondNow : Int} {first second : Check} {firstToken secondToken : String}
    (shape : state.history = before ++ .checked firstNow first (.ok (.claim firstToken)) ::
      (between ++ .checked secondNow second (.ok (.claim secondToken)) :: after))
    (same : second.index = first.index)
    (quiet : ∀ event ∈ between, event.grants first.index = false) :
    min (firstNow + timedelta timeoutSeconds) first.expiresAt ≤ secondNow ∧
      (between.any (Event.completesClaim first) = true → first.expiresAt ≤ secondNow) := by
  have last := lastGrant_split before firstNow firstToken rfl quiet
  have regrouped : state.history =
      (before ++ .checked firstNow first (.ok (.claim firstToken)) :: between) ++
        .checked secondNow second (.ok (.claim secondToken)) :: after := by
    simpa using shape
  rw [← same] at last
  exact exclusive.spaced _ after secondNow second secondToken regrouped _ last

/-- The steps of `check_or_store`. -/
def Call.checks : Call → Bool
  | .begin _ _ => true
  | .resolve _ => true
  | .store _ _ _ _ => false
  | .select _ _ _ => false
  | .delete _ => false
  | .rollback _ => false

theorem deletesExpired_of_checks {state : State} {action : Action}
    (checks : action.call.checks = true) :
    DeletesExpired state action := by
  intro expired asked
  rw [asked] at checks
  cases checks

def Call.begins (index : String × String) : Call → Bool
  | .begin _ check => check.index = index
  | _ => false

/-- Some call on the key has met its conflict and not yet re-read the record. -/
def State.pending (state : State) (index : String × String) : Prop :=
  ∃ waiting ∈ state.waiting.rows, waiting.check.index = index

/-- The re-read of another key leaves the calls on this one pending. -/
theorem State.pending.elsewhere {state : State} {index : String × String} {call : Nat}
    {check : Check} (waits : state.pending index)
    (held : state.waiting.find call = some ⟨call, check⟩) (elsewhere : check.index ≠ index) :
    ∃ waiting ∈ (state.waiting.remove call).rows, waiting.check.index = index := by
  obtain ⟨other, member, same⟩ := waits
  have apart : other.id ≠ call := by
    intro equal
    have owner := Table.find_mem member
    rw [equal, held] at owner
    cases owner
    exact elsewhere same
  exact ⟨other, Table.mem_erase.mpr ⟨member, by simpa using apart⟩, same⟩

theorem reclaimable_later {record : IdempotencyKey} {timeoutSeconds earlier later : Int}
    (lapsed : reclaimable record earlier timeoutSeconds = true) (past : earlier ≤ later) :
    reclaimable record later timeoutSeconds = true := by
  simp only [reclaimable, isStuckInProgress, Bool.or_eq_true, Bool.and_eq_true,
    decide_eq_true_eq] at lapsed ⊢
  rcases lapsed with expired | ⟨running, stuck⟩
  · exact .inl (by omega)
  · exact .inr ⟨running, by omega⟩

/-- One step of a `check_or_store` either claims the key or leaves a reclaimable record where it
is, and a call on the key is then pending if it was or has just begun. -/
theorem Effect.claims_or_pending {timeoutSeconds now : Int} {state next : State} {call : Call}
    {index : String × String} {record : IdempotencyKey}
    (effect : Effect timeoutSeconds state now call next) (checks : call.checks = true)
    (found : state.table.find index = some record)
    (lapsed : reclaimable record now timeoutSeconds = true) :
    (∃ event, next.history = state.history ++ [event] ∧ event.grants index = true) ∨
      next.table.find index = some record ∧
        (state.pending index ∨ call.begins index = true → next.pending index) := by
  cases effect with
  | inserted call check table added fresh own claimed inserted =>
      by_cases here : check.index = index
      · exact .inl ⟨_, rfl, by simpa [Event.grants] using here⟩
      · refine .inr ⟨?_, ?_⟩
        · have other : index ≠ added.index := by
            rw [claimed.index]
            exact fun same => here same.symm
          rw [Table.find_insert inserted, if_neg other, found]
        · rintro (waits | begins)
          · exact waits
          · exact absurd (by simpa [Call.begins] using begins) here
  | waits call check waiting fresh present added =>
      have rows := (Table.insert_some.mp added).2
      refine .inr ⟨found, ?_⟩
      rintro (⟨other, member, same⟩ | begins)
      · exact ⟨other, by simp [rows, member], same⟩
      · exact ⟨⟨call, check⟩, by simp [rows], by simpa [Call.begins] using begins⟩
  | reclaimed call check old held present stale =>
      by_cases here : check.index = index
      · exact .inl ⟨_, rfl, by simpa [Event.grants] using here⟩
      · refine .inr ⟨?_, ?_⟩
        · have other : index ≠ check.index := fun same => here same.symm
          simp only [Table.find_modify, if_neg other, found]
        · rintro (waits | begins)
          · exact waits.elsewhere held here
          · cases begins
  | answered call check reply held reason =>
      have here : check.index ≠ index := by
        intro same
        rw [same] at reason
        rcases reason with ⟨-, missing⟩ | ⟨other, present, fresh, -⟩
        · rw [found] at missing
          cases missing
        · rw [found] at present
          cases present
          rw [lapsed] at fresh
          cases fresh
      refine .inr ⟨found, ?_⟩
      rintro (waits | begins)
      · exact waits.elsewhere held here
      · cases begins
  | completed index claimToken statusCode body record storable found held => cases checks
  | refused index claimToken statusCode body unfit => cases checks
  | fenced index claimToken statusCode body storable free => cases checks
  | selected before limit expired past chosen => cases checks
  | rejected before limit expired invalid => cases checks
  | deleted expired pending => cases checks
  | rolledBack expired pending => cases checks

/-- Retries that all return do not leave a reclaimable key unclaimed. -/
theorem run_claims {timeoutSeconds : Int} {state final : State} {retries : List Action}
    {index : String × String} {record : IdempotencyKey}
    (reached : run (step timeoutSeconds) state retries = some final)
    (checks : ∀ action ∈ retries, action.call.checks = true)
    (found : state.table.find index = some record)
    (lapsed : reclaimable record state.clock timeoutSeconds = true)
    (retried : state.pending index ∨ ∃ action ∈ retries, action.call.begins index = true)
    (returned : ¬ final.pending index) :
    ∃ events, final.history = state.history ++ events ∧ 1 ≤ events.countP (Event.grants index) := by
  induction retries generalizing state with
  | nil =>
      obtain rfl := Option.some.inj reached
      rcases retried with waits | ⟨action, member, -⟩
      · exact absurd waits returned
      · cases member
  | cons action rest ih =>
      obtain ⟨next, stepped, onward⟩ := run_cons_some.mp reached
      obtain ⟨later, effect⟩ := step_effect stepped
      have clock : next.clock = action.now := effect.clock
      have still := reclaimable_later lapsed later
      have outcome := effect.claims_or_pending (checks action List.mem_cons_self) found still
      rcases outcome with ⟨event, grown, granted⟩ | ⟨kept, pending⟩
      · obtain ⟨-, events, shape, -⟩ := run_history onward
        refine ⟨event :: events, by rw [shape, grown, List.append_assoc, List.singleton_append], ?_⟩
        rw [List.countP_cons_of_pos granted]
        omega
      · have again : next.pending index ∨ ∃ action ∈ rest, action.call.begins index = true := by
          rcases retried with waits | ⟨begun, member, begins⟩
          · exact .inl (pending (.inl waits))
          · rcases List.mem_cons.mp member with rfl | member
            · exact .inl (pending (.inr begins))
            · exact .inr ⟨begun, member, begins⟩
        obtain ⟨events, shape, many⟩ := ih onward
          (fun action member => checks action (List.mem_cons_of_mem _ member)) kept
          (by rwa [clock]) again
        obtain ⟨added, grown, -⟩ := effect.history
        refine ⟨added ++ events, by rw [shape, grown, List.append_assoc], ?_⟩
        rw [List.countP_append]
        omega

/-- A key is not claimed again before its last claim times out or expires, nor before it expires
once completed. -/
def ClaimsSpaced (timeoutSeconds : Int) (history : List Event) : Prop :=
  ∀ before between after firstNow secondNow first second firstToken secondToken,
    history = before ++ .checked firstNow first (.ok (.claim firstToken)) ::
      (between ++ .checked secondNow second (.ok (.claim secondToken)) :: after) →
    second.index = first.index → (∀ event ∈ between, event.grants first.index = false) →
    min (firstNow + timedelta timeoutSeconds) first.expiresAt ≤ secondNow ∧
      (between.any (Event.completesClaim first) = true → first.expiresAt ≤ secondNow)

/-- Two retries race for a key whose first claim got stuck. -/
def stuckRetries : List Action :=
  [⟨650000000, .begin 2 ⟨"p", "k", "h", 900000000, "c2"⟩⟩,
    ⟨650000000, .begin 3 ⟨"p", "k", "h", 900000000, "c3"⟩⟩,
    ⟨650000001, .resolve 3⟩, ⟨650000002, .resolve 2⟩]

/-- A purge selects the expired claim "c1", a retry reclaims the row, and the purge deletes it: the
next call claims the key as if it were new. -/
def purgedClaim : List Action :=
  [⟨0, .begin 1 ⟨"p", "k", "h", 10000000, "c1"⟩⟩,
    ⟨20000000, .select 20000000 5 [(("p", "k"), some "c1")]⟩,
    ⟨20000000, .begin 2 ⟨"p", "k", "h", 120000000, "c2"⟩⟩, ⟨21000000, .resolve 2⟩,
    ⟨22000000, .delete [(("p", "k"), some "c1")]⟩,
    ⟨23000000, .begin 3 ⟨"p", "k", "h", 123000000, "c3"⟩⟩]

end AiPlatform.Idempotency
