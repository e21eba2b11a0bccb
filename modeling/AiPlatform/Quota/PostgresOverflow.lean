import AiPlatform.Quota.PostgresAgreement

set_option autoImplicit false

/- Where the 32-bit arithmetic of `PostgresQuotaStore.reserve` fails: the guard of the increment
adds before it compares. -/
namespace AiPlatform.Quota.Postgres

open Columns
open Machine (bind_ok)
open Memory (usedAt currentCounter chargedCounter)

/-- The record an insert stores, as its columns take the texts. -/
def storedRecord (command : ReserveQuota) : Option Record := do
  let id ← storedText 36 command.reservationId
  let subjectId ← storedText 255 command.subjectId
  let resource ← storedText 255 command.resource
  let windowKey ← storedText 64 command.windowKey
  let idempotencyKey ← command.idempotencyKey.mapM (storedText 255)
  return { newRecord command with
    id := id
    subjectId := subjectId
    resource := resource
    windowKey := windowKey
    idempotencyKey := idempotencyKey }

/-- The columns take every text of the command. -/
def TextsAccepted (command : ReserveQuota) : Prop :=
  (∀ text ∈ command.reservationId :: command.subjectId :: command.resource ::
    command.windowKey :: command.idempotencyKey.toList, sendable text) ∧
  storedRecord command ≠ none

/-- The reservation that a replay of the command finds. -/
def recorded (tables : Tables) (command : ReserveQuota) : Option Record :=
  command.idempotencyKey.bind fun key => tables.reservations.findBy (command.key, key)

/-- The command reaches the increment: its texts are accepted, it is no replay and its insert
clashes with no reservation. -/
def Increments (tables : Tables) (command : ReserveQuota) : Prop :=
  TextsAccepted command ∧ recorded tables command = none ∧
    ∃ record ∈ storedRecord command, tables.reservations.insert record ≠ none

/-- Every counter shows a use that its column holds. -/
def InRange (tables : Tables) : Prop :=
  ∀ counter ∈ tables.counters.rows, 0 ≤ counter.used ∧ counter.used ≤ integerMax

/-- What a `reserve` whose arithmetic does not overflow does: it charges its own window, or answers
a replay or a rejection without a charge, or raises another error; every counter keeps its range. -/
def Accounted (tables : Tables) (command : ReserveQuota) : Prop :=
  let performed := perform tables (.reserve command)
  InRange performed.1 ∧
  match performed.2 with
  | .ok (.reservation reservation) =>
      (recorded tables command ≠ none ∧ performed.1 = tables) ∨
      (reservation.id = command.reservationId ∧ ∀ key, usedAt performed.1.counters key =
        usedAt tables.counters key + if key = command.key then command.cost else 0)
  | .ok .rejected => ∀ key, usedAt performed.1.counters key = usedAt tables.counters key
  | .ok _ => False
  | .error error => error = .dataError → ¬TextsAccepted command

variable {tables : Tables} {command : ReserveQuota} {record : Record}

theorem varchar_stored {width : Nat} {text kept : String}
    (taken : storedText width text = some kept) :
    (varchar width text).run tables = .ok (kept, tables) := by
  unfold varchar
  rw [taken]
  rfl

theorem mapM_varchar_stored {width : Nat} {text kept : Option String}
    (taken : text.mapM (storedText width) = some kept) :
    (text.mapM (varchar width)).run tables = .ok (kept, tables) := by
  cases text with
  | none =>
      simp only [Option.mapM_none, Option.pure_def, Option.some.injEq] at taken
      rw [← taken]
      rfl
  | some value =>
      cases part : storedText width value with
      | none => simp [part] at taken
      | some value =>
          simp only [Option.mapM_some, part, Option.map_eq_map, Option.map_some,
            Option.some.injEq] at taken
          rw [← taken]
          simp only [Option.mapM_some]
          change (varchar width _ >>= fun stored => pure (some stored)).run tables = _
          rw [run_bind_ok (varchar_stored part)]
          rfl

theorem stored_texts (stored : storedRecord command = some record) :
    storedText 36 command.reservationId = some record.id ∧
      storedText 255 command.subjectId = some record.subjectId ∧
      storedText 255 command.resource = some record.resource ∧
      storedText 64 command.windowKey = some record.windowKey ∧
      command.idempotencyKey.mapM (storedText 255) = some record.idempotencyKey ∧
      record = { newRecord command with
        id := record.id
        subjectId := record.subjectId
        resource := record.resource
        windowKey := record.windowKey
        idempotencyKey := record.idempotencyKey } := by
  unfold storedRecord at stored
  simp only [Option.bind_eq_bind, Option.bind_eq_some_iff, Option.pure_def,
    Option.some.injEq] at stored
  have ⟨id, idStored, subjectId, subjectStored, resource, resourceStored, windowKey, windowStored,
    idempotencyKey, keyStored, shape⟩ := stored
  rw [← shape]
  exact ⟨idStored, subjectStored, resourceStored, windowStored, keyStored, rfl⟩

/-- What a command needs to reach its statements: accepted texts and integers in range. -/
structure Accepted (command : ReserveQuota) (record : Record) : Prop where
  texts : ∀ text ∈ command.reservationId :: command.subjectId :: command.resource ::
    command.windowKey :: command.idempotencyKey.toList, sendable text
  stored : storedRecord command = some record
  cost : fitsInteger command.cost
  limit : fitsInteger command.limit

theorem recorded_run (accepted : Accepted command record) :
    (findIdempotentReservation command).run tables = .ok (recorded tables command, tables) :=
  findIdempotentReservation_run accepted.texts

/-- The counters after `_ensure_counter`. -/
def ensured (counters : Table Counter.key) (command : ReserveQuota) (record : Record) :
    Table Counter.key :=
  upsertCounter counters { command.freshCounter with
    subjectId := record.subjectId
    resource := record.resource
    windowKey := record.windowKey }

theorem ensured_run (accepted : Accepted command record) :
    (ensureCounter command).run tables =
      .ok ((), { tables with counters := ensured tables.counters command record }) := by
  have ⟨_, subjectId, resource, windowKey, _⟩ := stored_texts accepted.stored
  unfold ensureCounter
  rw [run_bind_ok (sendTexts_run (window_sendable accepted.texts)),
    run_bind_ok (requireInteger_run accepted.limit),
    run_bind_ok (varchar_stored subjectId), run_bind_ok (varchar_stored resource),
    run_bind_ok (varchar_stored windowKey)]
  rfl

theorem inserted_run (tables : Tables) (accepted : Accepted command record) :
    (insertReservation command).run tables =
      match tables.reservations.insert record with
      | none => .ok (false, tables)
      | some reservations => .ok (true, { tables with reservations := reservations }) := by
  have ⟨id, subjectId, resource, windowKey, idempotencyKey, shape⟩ := stored_texts accepted.stored
  unfold insertReservation
  rw [run_bind_ok (sendTexts_run accepted.texts), run_bind_ok (requireInteger_run accepted.cost),
    run_bind_ok (varchar_stored id), run_bind_ok (varchar_stored subjectId),
    run_bind_ok (varchar_stored resource), run_bind_ok (varchar_stored windowKey),
    run_bind_ok (mapM_varchar_stored idempotencyKey)]
  dsimp only
  rw [← shape]
  change (match tables.reservations.insert record with
    | none => (pure false : Transaction Bool)
    | some reservations => do
        set { tables with reservations := reservations }
        return true).run tables = _
  split <;> rfl

section Refused

/-- What a transaction that succeeds went through. -/
theorem run_bind_inv {First Value : Type} {first : Transaction First}
    {rest : First → Transaction Value} {before after : Tables} {value : Value}
    (ran : (first >>= rest).run before = .ok (value, after)) :
    ∃ result middle, first.run before = .ok (result, middle) ∧
      (rest result).run middle = .ok (value, after) := by
  rw [StateT.run_bind] at ran
  have ⟨pair, early, late⟩ := bind_ok.mp ran
  exact ⟨pair.1, pair.2, early, late⟩

variable {before after : Tables}

theorem sendTexts_inv {texts : List String} {value : Unit}
    (ran : (sendTexts texts).run before = .ok (value, after)) :
    (∀ text ∈ texts, sendable text) ∧ after = before := by
  unfold sendTexts at ran
  split at ran
  · rename_i sent
    exact ⟨sent, (Prod.mk.inj (Except.ok.inj ran)).2.symm⟩
  · cases ran

theorem varchar_inv {width : Nat} {text value : String}
    (ran : (varchar width text).run before = .ok (value, after)) :
    storedText width text = some value ∧ after = before := by
  unfold varchar at ran
  split at ran
  · rename_i taken
    have ⟨same, kept⟩ := Prod.mk.inj (Except.ok.inj ran)
    rw [← same]
    exact ⟨taken, kept.symm⟩
  · cases ran

theorem mapM_varchar_inv {width : Nat} {text value : Option String}
    (ran : (text.mapM (varchar width)).run before = .ok (value, after)) :
    text.mapM (storedText width) = some value := by
  cases text with
  | none =>
      rw [← (Prod.mk.inj (Except.ok.inj ran)).1]
      rfl
  | some inner =>
      simp only [Option.mapM_some] at ran
      have ran : (varchar width inner >>= fun stored => pure (some stored)).run before =
          .ok (value, after) := ran
      have ⟨kept, middle, first, last⟩ := run_bind_inv ran
      have taken := (varchar_inv first).1
      rw [← (Prod.mk.inj (Except.ok.inj last)).1]
      simp [taken]

/-- An insert that does not raise had its texts accepted. -/
theorem insertReservation_inv {command : ReserveQuota} {value : Bool}
    (ran : (insertReservation command).run before = .ok (value, after)) :
    TextsAccepted command := by
  have ⟨_, _, sent, ran⟩ := run_bind_inv ran
  have ⟨_, _, cost, ran⟩ := run_bind_inv ran
  have ⟨id, _, idTaken, ran⟩ := run_bind_inv ran
  have ⟨subjectId, _, subjectTaken, ran⟩ := run_bind_inv ran
  have ⟨resource, _, resourceTaken, ran⟩ := run_bind_inv ran
  have ⟨windowKey, _, windowTaken, ran⟩ := run_bind_inv ran
  have ⟨idempotencyKey, _, keyTaken, ran⟩ := run_bind_inv ran
  refine ⟨(sendTexts_inv sent).1, ?_⟩
  unfold storedRecord
  rw [(varchar_inv idTaken).1, (varchar_inv subjectTaken).1, (varchar_inv resourceTaken).1,
    (varchar_inv windowTaken).1, mapM_varchar_inv keyTaken]
  exact Option.some_ne_none _

theorem findIdempotentReservation_inv {command : ReserveQuota} {found : Option Record}
    (ran : (findIdempotentReservation command).run before = .ok (found, after)) :
    found = recorded before command ∧ after = before := by
  unfold findIdempotentReservation at ran
  unfold recorded
  cases keyed : command.idempotencyKey with
  | none =>
      rw [keyed] at ran
      have ⟨same, kept⟩ := Prod.mk.inj (Except.ok.inj ran)
      exact ⟨same.symm, kept.symm⟩
  | some idempotencyKey =>
      rw [keyed] at ran
      have ⟨_, middle, sent, rest⟩ := run_bind_inv ran
      rw [(sendTexts_inv sent).2] at rest
      have ⟨same, kept⟩ := Prod.mk.inj (Except.ok.inj rest)
      exact ⟨same.symm, kept.symm⟩

theorem usageForReservation_inv {record : Record} {usage : QuotaUsage}
    (ran : (usageForReservation record).run before = .ok (usage, after)) : after = before := by
  unfold usageForReservation at ran
  rw [run_get_bind] at ran
  split at ran
  · cases ran
  · exact (Prod.mk.inj (Except.ok.inj ran)).2.symm

theorem toReservation_inv {record : Record} {reservation : QuotaReservation}
    (ran : (toReservation record).run before = .ok (reservation, after)) : after = before := by
  have ⟨usage, middle, read, returned⟩ := run_bind_inv ran
  rw [← (Prod.mk.inj (Except.ok.inj returned)).2]
  exact usageForReservation_inv read

/-- A command with a refused text succeeds only as a replay. -/
theorem reserve_refused {command : ReserveQuota} {answer : Answer}
    (ran : (reserve command).run before = .ok (answer, after)) (refused : ¬TextsAccepted command) :
    recorded before command ≠ none ∧ after = before ∧
      ∃ reservation, answer = .reservation reservation := by
  unfold reserve at ran
  have ⟨found, middle, search, rest⟩ := run_bind_inv ran
  have ⟨shape, same⟩ := findIdempotentReservation_inv search
  rw [same] at rest
  cases found with
  | some existing =>
      have ⟨reservation, _, read, returned⟩ := run_bind_inv rest
      have ⟨answered, kept⟩ := Prod.mk.inj (Except.ok.inj returned)
      rw [← shape, ← kept, ← answered]
      exact ⟨Option.some_ne_none _, toReservation_inv read, reservation, rfl⟩
  | none =>
      have ⟨_, _, _, rest⟩ := run_bind_inv rest
      have ⟨_, _, insertion, _⟩ := run_bind_inv rest
      exact absurd (insertReservation_inv insertion) refused

end Refused

/-- An accepted replay reads the counter of its reservation. -/
theorem reserve_replays (accepted : Accepted command record) {existing : Record}
    (found : recorded tables command = some existing) :
    (∃ reservation, (reserve command).run tables = .ok (.reservation reservation, tables)) ∨
      (reserve command).run tables = .error .noResultFound := by
  unfold reserve
  rw [run_bind_ok (recorded_run accepted), found]
  dsimp only
  cases counter : tables.counters.find existing.key with
  | none =>
      right
      have missing : (toReservation existing).run tables = .error .noResultFound := by
        have read : (usageForReservation existing).run tables = .error .noResultFound := by
          unfold usageForReservation
          rw [run_get_bind, counter]
          rfl
        unfold toReservation
        rw [StateT.run_bind, read]
        rfl
      rw [StateT.run_bind, missing]
      rfl
  | some kept =>
      left
      rw [run_bind_ok (toReservation_run counter)]
      exact ⟨_, rfl⟩

/-- An accepted first `reserve`. -/
theorem reserve_first (accepted : Accepted command record)
    (unused : recorded tables command = none) :
    (reserve command).run tables =
      let counters := ensured tables.counters command record
      match tables.reservations.insert record with
      | none => .error (.runtimeError "quota reservation conflict without a winner")
      | some reservations =>
          let withdrawn := reservations.remove command.reservationId
          match counters.find command.key with
          | none => .ok (.rejected, ⟨counters, withdrawn⟩)
          | some counter =>
              if fitsInteger (counter.used + command.cost) then
                let charged := chargedCounter command counter
                if counter.used + command.cost ≤ command.limit then
                  .ok (.reservation (command.reservation (usageFromCounter charged)),
                    ⟨counters.put charged, reservations⟩)
                else .ok (.rejected, ⟨counters, withdrawn⟩)
              else .error .dataError := by
  have insertion := inserted_run
    { tables with counters := ensured tables.counters command record } accepted
  unfold reserve
  rw [run_bind_ok (recorded_run accepted), unused]
  dsimp only
  rw [run_bind_ok (ensured_run accepted)]
  dsimp only at insertion
  cases inserted : tables.reservations.insert record with
  | none =>
      rw [inserted] at insertion
      have again : recorded { tables with counters := ensured tables.counters command record }
          command = none := unused
      rw [run_bind_ok insertion, if_neg Bool.false_ne_true, run_bind_ok (recorded_run accepted),
        again]
      rfl
  | some reservations =>
      rw [inserted] at insertion
      have increment := tryIncrementCounter_run accepted.texts
        ⟨ensured tables.counters command record, reservations⟩ accepted.cost accepted.limit
      have sent := accepted.texts _ List.mem_cons_self
      rw [run_bind_ok insertion, if_pos rfl]
      dsimp only at increment ⊢
      cases found : (ensured tables.counters command record).find command.key with
      | none =>
          rw [found] at increment
          rw [run_bind_ok increment]
          dsimp only
          rw [run_bind_ok (deleteReservation_run sent)]
          rfl
      | some counter =>
          rw [found] at increment
          dsimp only at increment ⊢
          by_cases fits : fitsInteger (counter.used + command.cost)
          · rw [if_pos fits] at increment ⊢
            by_cases room : counter.used + command.cost ≤ command.limit
            · rw [if_pos room] at increment ⊢
              rw [run_bind_ok increment]
              rfl
            · rw [if_neg room] at increment ⊢
              rw [run_bind_ok increment]
              dsimp only
              rw [run_bind_ok (deleteReservation_run sent)]
              rfl
          · rw [if_neg fits] at increment ⊢
            rw [StateT.run_bind, increment]
            rfl

section Charges

theorem usedAt_ensured (counters : Table Counter.key) (command : ReserveQuota) (record : Record)
    (key : WindowKey) : usedAt (ensured counters command record) key = usedAt counters key := by
  unfold ensured upsertCounter
  split
  · rename_i missing
    rw [Memory.usedAt_put]
    split
    · rename_i here
      rw [here, usedAt, missing]
      rfl
    · rfl
  · rename_i counter found
    have place := (Table.find_some.mp found).2
    rw [Memory.usedAt_put]
    split
    · rename_i here
      have same : key = counter.key := here
      rw [same, place, usedAt, found]
      rfl
    · rfl

/-- The counters keep their range when the written one has it. -/
theorem inRange_put {reservations : Indexed Record.id Record.index} {counter : Counter}
    (inRange : InRange tables) (written : 0 ≤ counter.used ∧ counter.used ≤ integerMax) :
    InRange ⟨tables.counters.put counter, reservations⟩ := by
  intro other inside
  rcases Table.mem_put inside with new | old
  · rw [new]
    exact written
  · exact inRange other old.1

theorem inRange_ensured {reservations : Indexed Record.id Record.index} (inRange : InRange tables)
    (command : ReserveQuota) (record : Record) :
    InRange ⟨ensured tables.counters command record, reservations⟩ := by
  unfold ensured upsertCounter
  split
  · exact inRange_put inRange ⟨le_refl 0, (by decide : 0 ≤ integerMax)⟩
  · rename_i counter found
    have kept := inRange counter (Table.find_some.mp found).1
    exact inRange_put inRange kept

/-- A command with a refused text is accounted: it charges nothing. -/
theorem accounted_refused (inRange : InRange tables) (refused : ¬TextsAccepted command) :
    Accounted tables command := by
  unfold Accounted
  cases ran : (reserve command).run tables with
  | error error =>
      rw [perform_error (.reserve command) ran]
      exact ⟨inRange, fun _ => refused⟩
  | ok pair =>
      have ⟨replay, same, reservation, answered⟩ := reserve_refused ran refused
      rw [perform_ok (.reserve command) ran, same, answered]
      exact ⟨inRange, .inl ⟨replay, rfl⟩⟩

theorem accounted_replay (inRange : InRange tables) (accepted : Accepted command record)
    {existing : Record} (found : recorded tables command = some existing) :
    Accounted tables command := by
  unfold Accounted
  rcases reserve_replays accepted found with ⟨reservation, ran⟩ | ran
  · rw [perform_ok (.reserve command) ran]
    exact ⟨inRange, .inl ⟨by rw [found]; exact Option.some_ne_none _, rfl⟩⟩
  · rw [perform_error (.reserve command) ran]
    exact ⟨inRange, fun same => QuotaError.noConfusion same⟩

/-- A command that reaches the increment is accounted when the sum is in range. -/
theorem accounted_first (inRange : InRange tables) (accepted : Accepted command record)
    (unused : recorded tables command = none)
    {reservations : Indexed Record.id Record.index}
    (inserted : tables.reservations.insert record = some reservations) :
    Accounted tables command ↔ usedAt tables.counters command.key + command.cost ≤ integerMax := by
  have ran := reserve_first accepted unused
  have kept := usedAt_ensured tables.counters command record
  have here := kept command.key
  have positive := command.costPositive
  rw [inserted] at ran
  dsimp only at ran
  unfold Accounted
  cases found : (ensured tables.counters command record).find command.key with
  | none =>
      rw [found] at ran
      rw [perform_ok (.reserve command) ran]
      rw [usedAt, found] at here
      have bound := accepted.cost.2
      refine iff_of_true ⟨inRange_ensured inRange command record, kept⟩ ?_
      rw [← here]
      change 0 + command.cost ≤ integerMax
      omega
  | some counter =>
      rw [found] at ran
      rw [usedAt, found] at here
      have used : counter.used = usedAt tables.counters command.key := here
      have ensuredRange : InRange ⟨ensured tables.counters command record, reservations⟩ :=
        inRange_ensured inRange command record
      have within := ensuredRange counter (Table.find_some.mp found).1
      dsimp only at ran
      by_cases fits : fitsInteger (counter.used + command.cost)
      · rw [if_pos fits] at ran
        have bound := fits.2
        rw [← used]
        refine iff_of_true ?_ bound
        by_cases room : counter.used + command.cost ≤ command.limit
        · rw [if_pos room] at ran
          rw [perform_ok (.reserve command) ran]
          have charged : 0 ≤ (chargedCounter command counter).used ∧
              (chargedCounter command counter).used ≤ integerMax := by
            change 0 ≤ counter.used + command.cost ∧ counter.used + command.cost ≤ integerMax
            omega
          refine ⟨inRange_put ensuredRange charged, .inr ⟨rfl, fun key => ?_⟩⟩
          have place : (chargedCounter command counter).key = command.key :=
            (Table.find_some.mp found).2
          dsimp only
          rw [Memory.usedAt_put, place]
          split
          · rename_i own
            rw [own, ← used]
            rfl
          · rw [kept, add_zero]
        · rw [if_neg room] at ran
          rw [perform_ok (.reserve command) ran]
          exact ⟨inRange_ensured inRange command record, kept⟩
      · rw [if_neg fits] at ran
        rw [perform_error (.reserve command) ran]
        refine iff_of_false (fun accounted => ?_) fun bound => ?_
        · exact accounted.2 rfl
            ⟨accepted.texts, by rw [accepted.stored]; exact Option.some_ne_none _⟩
        · apply fits
          unfold fitsInteger
          omega

end Charges

/-- For every state whose counters are in range and every command with a limit and a cost in range:
`reserve` charges, replays or rejects without an overflow exactly when it does not reach the
increment or the sum is in range. -/
theorem reserve_accounted (tables : Tables) (command : ReserveQuota) (inRange : InRange tables)
    (cost : command.cost ≤ integerMax) (limit : command.limit ≤ integerMax) :
    Accounted tables command ↔
      (Increments tables command →
        usedAt tables.counters command.key + command.cost ≤ integerMax) := by
  have costPositive := command.costPositive
  have limitPositive := command.limitPositive
  by_cases accepts : TextsAccepted command
  · have ⟨record, stored⟩ := Option.ne_none_iff_exists'.mp accepts.2
    have accepted : Accepted command record :=
      ⟨accepts.1, stored, ⟨by omega, cost⟩, ⟨by omega, limit⟩⟩
    cases found : recorded tables command with
    | some existing =>
        refine iff_of_true (accounted_replay inRange accepted found) fun increments => ?_
        rw [increments.2.1] at found
        cases found
    | none =>
        cases inserted : tables.reservations.insert record with
        | none =>
            refine iff_of_true ?_ fun increments => ?_
            · have ran := reserve_first accepted found
              rw [inserted] at ran
              unfold Accounted
              rw [perform_error (.reserve command) ran]
              exact ⟨inRange, fun same => QuotaError.noConfusion same⟩
            · have ⟨_, _, other, same, fresh⟩ := increments
              rw [stored] at same
              rw [← Option.some.inj same] at fresh
              exact absurd inserted fresh
        | some reservations =>
            rw [accounted_first inRange accepted found inserted]
            refine ⟨fun bound _ => bound, fun bound => bound ⟨accepts, found, record, stored, ?_⟩⟩
            rw [inserted]
            exact Option.some_ne_none _
  · exact iff_of_true (accounted_refused inRange accepts) fun increments =>
      absurd increments.1 accepts

/-- The last unit of the widest limit. -/
theorem reserve_accounted_last :
    let command : ReserveQuota := {
      subjectId := "u", resource := "r", windowKey := "0", limit := integerMax, cost := 1
      resetAt := 60000000, reservationId := "id", idempotencyKey := none }
    let tables : Tables := ⟨Table.empty.put ⟨"u", "r", "0", integerMax - 1, integerMax, 60000000⟩,
      .empty⟩
    Increments tables command ∧ Accounted tables command := by
  intro command tables
  have inRange : InRange tables := by
    unfold InRange
    decide +kernel
  have increments : Increments tables command := by
    have stored : storedRecord command = some (newRecord command) := by decide +kernel
    refine ⟨⟨by decide +kernel, by decide +kernel⟩, rfl, newRecord command, stored, ?_⟩
    intro refused
    have ⟨other, inside, _⟩ := Indexed.insert_none refused rfl
    exact absurd inside List.not_mem_nil
  have bound : usedAt tables.counters command.key + command.cost ≤ integerMax := by decide +kernel
  exact ⟨increments, (reserve_accounted tables command inRange (by decide) (by decide)).mpr
    fun _ => bound⟩

/-- One more: the guard itself overflows instead of turning the request down. -/
theorem reserve_overflows :
    ¬∀ (tables : Tables) (command : ReserveQuota), InRange tables → command.cost ≤ integerMax →
      command.limit ≤ integerMax → Accounted tables command := by
  intro accounted
  let command : ReserveQuota := {
    subjectId := "u", resource := "r", windowKey := "0", limit := integerMax, cost := 1
    resetAt := 60000000, reservationId := "id", idempotencyKey := none }
  let tables : Tables := ⟨Table.empty.put ⟨"u", "r", "0", integerMax, integerMax, 60000000⟩, .empty⟩
  have inRange : InRange tables := by
    unfold InRange
    decide +kernel
  have raised : (perform tables (.reserve command)).2 = .error .dataError := by decide +kernel
  have texts : TextsAccepted command := ⟨by decide +kernel, by decide +kernel⟩
  have answered := (accounted tables command inRange (by decide) (by decide)).2
  rw [raised] at answered
  exact answered rfl texts

end AiPlatform.Quota.Postgres
