import AiPlatform.Quota.ResetRuns

set_option autoImplicit false

/- What a statement can raise, and which records it goes on with. -/
namespace AiPlatform.Quota.Statements

open Machine
open Postgres (Record newRecord setStatus)

/-- A statement that sends its values is refused for these values only. -/
def Sends {Value : Type} (outcome : Except QuotaError Value) : Prop :=
  ∀ error, outcome = .error error → error = .dataError

theorem sends_ok {Value : Type} (value : Value) : Sends (.ok value) := by
  intro error failed
  cases failed

theorem Sends.bind {First Value : Type} {first : Except QuotaError First}
    {rest : First → Except QuotaError Value} (sends : Sends first)
    (later : ∀ value, Sends (rest value)) : Sends (first >>= rest) := by
  intro error failed
  cases first with
  | error reason =>
      cases failed
      exact sends _ rfl
  | ok value => exact later value error failed

theorem sends_texts (texts : List String) : Sends (checkTexts texts) := by
  intro error failed
  unfold checkTexts at failed
  split at failed
  · cases failed
  · cases failed
    rfl

theorem sends_integer (value : Int) : Sends (checkInteger value) := by
  intro error failed
  unfold checkInteger at failed
  split at failed
  · cases failed
  · cases failed
    rfl

theorem sends_column (width : Nat) (text : String) : Sends (column width text) := by
  intro error failed
  unfold column at failed
  split at failed
  · cases failed
  · cases failed
    rfl

theorem sends_optional (width : Nat) (text : Option String) :
    Sends (text.mapM (column width)) := by
  cases text with
  | none => exact sends_ok none
  | some text =>
      intro error failed
      apply sends_column width text error
      cases sent : column width text with
      | error reason =>
          rw [Option.mapM_some, sent] at failed
          cases failed
          rfl
      | ok stored =>
          rw [Option.mapM_some, sent] at failed
          cases failed

theorem sends_counterValues (command : ReserveQuota) (number : Nat) :
    Sends (counterValues command number) := by
  unfold counterValues
  refine (sends_texts _).bind fun _ => (sends_integer _).bind fun _ => ?_
  refine (sends_column _ _).bind fun _ => (sends_column _ _).bind fun _ => ?_
  exact (sends_column _ _).bind fun _ => sends_ok _

theorem sends_recordValues (command : ReserveQuota) : Sends (recordValues command) := by
  unfold recordValues
  refine (sends_texts _).bind fun _ => (sends_integer _).bind fun _ => ?_
  refine (sends_column _ _).bind fun _ => (sends_column _ _).bind fun _ => ?_
  refine (sends_column _ _).bind fun _ => (sends_column _ _).bind fun _ => ?_
  exact (sends_optional _ _).bind fun _ => sends_ok _

theorem sends_findIdempotent (db : Database) (command : ReserveQuota) :
    Sends (findIdempotent db command) := by
  unfold findIdempotent
  split
  · exact sends_ok none
  · exact (sends_texts _).bind fun _ => sends_ok _

theorem sends_incremented (call : Call) (command : ReserveQuota) :
    Sends (incremented call command) := by
  unfold incremented
  refine (sends_texts _).bind fun _ => (sends_integer _).bind fun _ => ?_
  refine (sends_integer _).bind fun _ => ?_
  split
  · exact sends_ok none
  · split
    · refine (sends_integer _).bind fun _ => ?_
      split
      · exact sends_ok _
      · exact sends_ok none
    · exact sends_ok none

/-- The record whose counter the next statement reads. -/
def Pc.inHand : Pc → Option Record
  | .existing record => some record
  | .claimed record => some record
  | .settled record => some record
  | _ => none

/-- Why a statement raises: its values, a record without a counter, an insert that met a row that
is not found again, or an id that cannot be settled so. -/
inductive Refused (state : State) (call : Call) : QuotaError → Prop
  | values : Refused state call .dataError
  | counterless {record : Record} (held : call.pc.inHand = some record)
      (missing : state.db.counters.find record.key = none) : Refused state call .noResultFound
  | winnerless {command : ReserveQuota} {message : String} (here : call.pc = .refind)
      (operation : call.operation = .reserve command)
      (missing : findIdempotent state.db command = .ok none) :
      Refused state call (.runtimeError message)
  | unknown {reservationId : String} : Refused state call (.keyError reservationId)
  | settled {message : String} : Refused state call (.valueError message)

variable {state : State} {call : Call} {pc : Pc} {writes : Writes}

theorem usageFor_error {db : Database} {record : Record} {error : QuotaError}
    (failed : usageFor db call record = .error error) :
    error = .noResultFound ∧ db.counters.find record.key = none := by
  unfold usageFor at failed
  split at failed
  · rename_i unseen
    cases failed
    refine ⟨rfl, ?_⟩
    unfold seen at unseen
    split at unseen
    · split at unseen
      · cases unseen
      · exact unseen
    · exact unseen
  · cases failed

/-- What a statement raises and what it goes on with: a record it has found is committed, up to a
status it has just claimed. -/
structure Outcome (state : State) (call : Call) (pc : Pc) : Prop where
  refused : ∀ error, pc = .raised error → Refused state call error
  found : ∀ record, pc.inHand = some record →
    ∃ old ∈ state.db.reservations.rows, ∃ status, record = setStatus status old

theorem outcome_sent {Value : Type} {outcome : Except QuotaError Value}
    {rest : Value → Option (Pc × Writes)} (sends : Sends outcome)
    (done : State.attempt outcome rest = some (pc, writes))
    (onward : ∀ value, outcome = .ok value → rest value = some (pc, writes) →
      Outcome state call pc) : Outcome state call pc := by
  rcases attempt_some done with ⟨error, failed, raised, _⟩ | ⟨value, sent, went⟩
  · rw [raised]
    constructor
    · intro other same
      cases same
      rw [sends error failed]
      exact .values
    · intro record held
      cases held
  · exact onward value sent went

theorem outcome_usage {record : Record} {rest : QuotaUsage → Option (Pc × Writes)}
    (held : call.pc.inHand = some record)
    (done : State.attempt (usageFor state.db call record) rest = some (pc, writes))
    (onward : ∀ usage, rest usage = some (pc, writes) → ∃ answer, pc = .commit answer) :
    Outcome state call pc := by
  rcases attempt_some done with ⟨error, failed, raised, _⟩ | ⟨usage, _, went⟩
  · have ⟨reason, missing⟩ := usageFor_error failed
    rw [raised, reason]
    constructor
    · intro other same
      cases same
      exact .counterless held missing
    · intro other there
      cases there
  · have ⟨answer, ends⟩ := onward usage went
    rw [ends]
    constructor
    · intro error raised
      cases raised
    · intro other there
      cases there

theorem outcome_plain (quiet : pc.inHand = none) (ends : ∀ error, pc ≠ .raised error) :
    Outcome state call pc where
  refused error raised := absurd raised (ends error)
  found record held := by
    rw [quiet] at held
    cases held

theorem outcome_raised {error : QuotaError} (refused : Refused state call error) :
    Outcome state call (.raised error) where
  refused other same := by
    cases same
    exact refused
  found record held := by cases held

theorem outcome_found {record old : Record} {status : QuotaReservationStatus}
    (held : pc.inHand = some record) (member : old ∈ state.db.reservations.rows)
    (shape : record = setStatus status old) : Outcome state call pc where
  refused error raised := by
    rw [raised] at held
    cases held
  found other there := by
    rw [held] at there
    rw [← Option.some.inj there]
    exact ⟨old, member, status, shape⟩

theorem findIdempotent_some {db : Database} {command : ReserveQuota} {record : Record}
    (found : findIdempotent db command = .ok (some record)) :
    record ∈ db.reservations.rows ∧ ∃ idempotencyKey, command.idempotencyKey = some idempotencyKey ∧
      record.index = some (command.key, idempotencyKey) := by
  unfold findIdempotent at found
  split at found
  · cases found
  · rename_i idempotencyKey keyed
    have ⟨_, _, sent⟩ := bind_ok.mp found
    have search := Except.ok.inj sent
    refine ⟨List.mem_of_find?_eq_some search, idempotencyKey, keyed, ?_⟩
    have matched := List.find?_some search
    exact of_decide_eq_true matched

theorem reserve_outcome {command : ReserveQuota} (operation : call.operation = .reserve command)
    (went : state.reserve call command = some (pc, writes)) : Outcome state call pc := by
  unfold State.reserve at went
  split at went
  · apply outcome_sent (sends_findIdempotent _ _) went
    intro found sent went
    cases found with
    | some existing =>
        cases went
        exact outcome_found rfl (findIdempotent_some sent).1 rfl
    | none =>
        cases went
        exact outcome_plain rfl (fun _ raised => by cases raised)
  · rename_i record here
    apply outcome_usage (by rw [here]; rfl) went
    intro usage went
    cases went
    exact ⟨_, rfl⟩
  · apply outcome_sent (sends_counterValues _ _) went
    intro fresh _ went
    split at went
    · cases went
    · cases went
      exact outcome_plain rfl (fun _ raised => by cases raised)
  · apply outcome_sent (sends_recordValues _) went
    intro record _ went
    split at went
    · cases went
    · split at went
      · cases went
        exact outcome_plain rfl (fun _ raised => by cases raised)
      · cases went
        exact outcome_plain rfl (fun _ raised => by cases raised)
  · rename_i here
    apply outcome_sent (sends_findIdempotent _ _) went
    intro found sent went
    cases found with
    | some existing =>
        cases went
        exact outcome_found rfl (findIdempotent_some sent).1 rfl
    | none =>
        cases went
        exact outcome_raised (.winnerless here operation sent)
  · apply outcome_sent (sends_incremented _ _) went
    intro outcome _ went
    cases outcome with
    | some charged =>
        cases went
        exact outcome_plain rfl (fun _ raised => by cases raised)
    | none =>
        cases went
        exact outcome_plain rfl (fun _ raised => by cases raised)
  · apply outcome_sent (sends_texts _) went
    intro _ _ went
    cases went
    exact outcome_plain rfl (fun _ raised => by cases raised)
  · cases went

theorem settle_outcome {settlement : Settlement} {reservationId : String}
    (went : state.settle call settlement reservationId = some (pc, writes)) :
    Outcome state call pc := by
  unfold State.settle at went
  split at went
  · apply outcome_sent (sends_texts _) went
    intro _ _ went
    split at went
    · cases went
      exact outcome_plain rfl (fun _ raised => by cases raised)
    · rename_i record found
      split at went
      · split at went
        · cases went
        · cases went
          exact outcome_found rfl (Table.find_some.mp found).1 rfl
      · cases went
        exact outcome_plain rfl (fun _ raised => by cases raised)
  · rename_i record here
    have held : call.pc.inHand = some record := by
      rw [here]
      rfl
    split at went
    · apply outcome_usage held went
      intro usage went
      cases went
      exact ⟨_, rfl⟩
    · split at went
      · cases went
      · split at went
        · rename_i missing
          cases went
          exact outcome_raised (.counterless held missing)
        · cases went
          exact outcome_plain rfl (fun _ raised => by cases raised)
  · split at went
    · cases went
      exact outcome_raised .unknown
    · rename_i record found
      split at went
      · cases went
        cases settlement
        · exact outcome_raised .settled
        · exact outcome_raised .settled
      · cases went
        exact outcome_found rfl (Table.find_some.mp found).1 rfl
  · rename_i record here
    apply outcome_usage (by rw [here]; rfl) went
    intro usage went
    cases went
    exact ⟨_, rfl⟩
  · cases went

theorem getUsage_outcome {query : QuotaUsageQuery}
    (went : state.getUsage call query = some (pc, writes)) : Outcome state call pc := by
  unfold State.getUsage at went
  split at went
  · apply outcome_sent (sends_texts _) went
    intro _ _ went
    split at went
    · cases went
      exact outcome_plain rfl (fun _ raised => by cases raised)
    · cases went
      exact outcome_plain rfl (fun _ raised => by cases raised)
  · cases went

theorem reset_outcome {texts : List String} {clears : WindowKey → Bool} {answer : Answer}
    (went : state.reset call texts clears answer = some (pc, writes)) :
    Outcome state call pc := by
  unfold State.reset at went
  split at went
  · apply outcome_sent (sends_texts _) went
    intro _ _ went
    cases went
    exact outcome_plain rfl (fun _ raised => by cases raised)
  · cases went
    exact outcome_plain rfl (fun _ raised => by cases raised)
  · have moves : ∃ rest, pc = .deletingReservations rest := by
      split at went
      · cases went
        exact ⟨_, rfl⟩
      · split at went
        · split at went
          · cases went
          · cases went
            exact ⟨_, rfl⟩
        · cases went
          exact ⟨_, rfl⟩
    have ⟨rest, shape⟩ := moves
    rw [shape]
    exact outcome_plain rfl (fun _ raised => by cases raised)
  · cases went
    exact outcome_plain rfl (fun _ raised => by cases raised)
  · cases went
    exact outcome_plain rfl (fun _ raised => by cases raised)
  · have moves : ∃ rest, pc = .deletingCounters rest := by
      split at went
      · cases went
        exact ⟨_, rfl⟩
      · split at went
        · split at went
          · cases went
          · cases went
            exact ⟨_, rfl⟩
        · cases went
          exact ⟨_, rfl⟩
    have ⟨rest, shape⟩ := moves
    rw [shape]
    exact outcome_plain rfl (fun _ raised => by cases raised)
  · cases went

theorem statement_outcome (went : statement state call = some (pc, writes)) :
    Outcome state call pc := by
  unfold statement at went
  split at went
  · rename_i command operation
    exact reserve_outcome operation went
  · exact settle_outcome went
  · exact settle_outcome went
  · exact getUsage_outcome went
  · exact reset_outcome went
  · exact reset_outcome went

end AiPlatform.Quota.Statements
