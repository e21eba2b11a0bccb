import AiPlatform.Queue.Memory
import Mathlib.Data.List.Chain

set_option autoImplicit false

/- `RabbitMQQueueGateway` and the deliveries of one logical message. The broker hands an
unacknowledged message of a failed consumer out again with `redelivered` set; a quorum queue also
writes the number of failed deliveries since the message was published. -/
namespace AiPlatform.Queue.RabbitMq

/-- A header value; `isinstance(value, int)` tells the constructors apart. -/
inductive HeaderValue where
  | int (value : Int)
  | other (text : String)
deriving DecidableEq

abbrev Headers := Table (Prod.fst : String × HeaderValue → String)

def attemptHeader : String := "x-attempt"

def deliveryCountHeader : String := "x-delivery-count"

/-- What `publish` is given. -/
structure Message where
  messageId : Option String := none
  body : Json
  headers : Headers := Table.empty

structure IncomingMessage extends Message where
  deliveryTag : Int
  redelivered : Bool

/-- `headers.get(name)` where it is an integer. -/
def intHeader (headers : Headers) (name : String) : Option Int :=
  match headers.find name with
  | some (_, .int value) => some value
  | some (_, .other _) => none
  | none => none

/-- `_receive_count`. -/
def receiveCount (incoming : IncomingMessage) : Int :=
  let count : Int := 1
  let count := match intHeader incoming.headers deliveryCountHeader with
    | some deliveryCount => max count (deliveryCount + 1)
    | none => count
  let count := match intHeader incoming.headers attemptHeader with
    | some attempt => max count attempt
    | none => count
  if incoming.redelivered then max count 2 else count

/-- An incoming message under its gateway id. -/
structure Inflight where
  id : String
  incoming : IncomingMessage

abbrev InflightMessages := Table Inflight.id

def messageId (incoming : IncomingMessage) : String :=
  match incoming.messageId with
  | some id => if id.isEmpty then toString incoming.deliveryTag else id
  | none => toString incoming.deliveryTag

/-- `_wrap`: one message of `receive`. -/
def wrap (inflight : InflightMessages) (incoming : IncomingMessage) :
    QueueMessage × InflightMessages :=
  ({ id := messageId incoming, body := incoming.body, receiveCount := receiveCount incoming },
    inflight.put ⟨messageId incoming, incoming⟩)

/-- What a nack does at the broker. -/
inductive Nacked where
  | unknown
  | rejected
  | republished (message : Message)

def nack (inflight : InflightMessages) (message : QueueMessage) (requeue : Bool) :
    Nacked × InflightMessages :=
  match inflight.find message.id with
  | none => (.unknown, inflight)
  | some stored =>
      let kept := inflight.remove message.id
      if requeue = false then (.rejected, kept)
      else
        let headers := stored.incoming.headers.put (attemptHeader, .int (message.receiveCount + 1))
        (.republished ⟨stored.incoming.messageId, stored.incoming.body, headers⟩, kept)

/-- The broker's copy of the message. -/
structure Copy where
  message : Message
  redelivered : Bool := false
  failures : Nat := 0

def Copy.incoming (copy : Copy) (deliveryTag : Int) : IncomingMessage :=
  { copy.message with deliveryTag := deliveryTag, redelivered := copy.redelivered }

/-- The copy after a consumer failed on it. -/
def Copy.requeued (quorum : Bool) (copy : Copy) : Copy :=
  let failures := copy.failures + 1
  let headers :=
    if quorum then copy.message.headers.put (deliveryCountHeader, .int failures)
    else copy.message.headers
  { message := { copy.message with headers := headers }, redelivered := true, failures := failures }

/-- What ends a delivery, with the tag of the next one. -/
inductive Ending where
  | nackRequeue (nextTag : Int)
  | consumerFailure (nextTag : Int)

def Ending.isFailure : Ending → Bool
  | .consumerFailure _ => true
  | .nackRequeue _ => false

/-- The receive counts of a delivery and of those after it. -/
def counts (quorum : Bool) (copy : Copy) (inflight : InflightMessages) (tag : Int) :
    List Ending → List Int
  | [] => [(wrap inflight (copy.incoming tag)).1.receiveCount]
  | ending :: rest =>
      let (message, held) := wrap inflight (copy.incoming tag)
      message.receiveCount :: match ending with
        | .consumerFailure nextTag => counts quorum (copy.requeued quorum) held nextTag rest
        | .nackRequeue nextTag =>
            match nack held message true with
            | (.republished republished, kept) =>
                counts quorum ⟨republished, false, 0⟩ kept nextTag rest
            | (.unknown, _) => []
            | (.rejected, _) => []

/-- `send`, then the deliveries of a history. -/
def history (quorum : Bool) (payload : Json) (tag : Int) (endings : List Ending) : List Int :=
  counts quorum ⟨{ body := payload }, false, 0⟩ Table.empty tag endings

/-- A quorum queue's failures come before any requeue; on a classic queue only the first delivery
fails. -/
def FailuresFirst (quorum : Bool) (endings : List Ending) : Prop :=
  if quorum then ∀ ending ∈ endings.dropWhile Ending.isFailure, ending.isFailure = false
  else ∀ ending ∈ endings.tail, ending.isFailure = false

instance (quorum : Bool) (endings : List Ending) : Decidable (FailuresFirst quorum endings) :=
  inferInstanceAs (Decidable (if quorum then _ else _))

section Counts

variable {quorum : Bool} {copy : Copy}

theorem intHeader_put (headers : Headers) (name other : String) (value : Int) :
    intHeader (headers.put (other, .int value)) name =
      if name = other then some value else intHeader headers name := by
  unfold intHeader
  rw [Table.find_put]
  by_cases same : name = other
  · simp [same]
  · simp [same]

/-- The count a copy is delivered with; the tag does not matter. -/
def Copy.count (copy : Copy) : Int := receiveCount (copy.incoming 0)

theorem count_eq (copy : Copy) :
    copy.count =
      max (max (max 1 ((intHeader copy.message.headers deliveryCountHeader).elim 1 (· + 1)))
      ((intHeader copy.message.headers attemptHeader).getD 1)) (if
        copy.redelivered then 2 else 1) := by
  unfold Copy.count receiveCount Copy.incoming
  cases intHeader copy.message.headers deliveryCountHeader with
  | none =>
      cases intHeader copy.message.headers attemptHeader with
      | none => cases copy.redelivered <;> simp
      | some attempt => cases copy.redelivered <;> simp
  | some deliveryCount =>
      cases intHeader copy.message.headers attemptHeader with
      | none => cases copy.redelivered <;> simp
      | some attempt => cases copy.redelivered <;> simp

/-- The copy a requeue publishes. -/
def Copy.republished (copy : Copy) : Copy :=
  { message := { copy.message with
      headers := copy.message.headers.put (attemptHeader, .int (copy.count + 1)) } }

theorem counts_cons (quorum : Bool) (copy : Copy) (inflight : InflightMessages) (tag : Int)
    (ending : Ending) (rest : List Ending) :
    ∃ held nextTag, counts quorum copy inflight tag (ending :: rest) = copy.count ::
      counts quorum
        (if ending.isFailure then copy.requeued quorum else copy.republished) held nextTag
        rest := by
  cases ending with
  | consumerFailure nextTag => exact ⟨_, nextTag, rfl⟩
  | nackRequeue nextTag =>
      have found := Table.find_put inflight ⟨messageId (copy.incoming tag), copy.incoming tag⟩
        (messageId (copy.incoming tag))
      rw [if_pos rfl] at found
      refine ⟨(inflight.put ⟨messageId (copy.incoming tag), copy.incoming tag⟩).remove
        (messageId (copy.incoming tag)), nextTag, ?_⟩
      simp only [counts, wrap, nack, found, Bool.true_eq_false, if_false]
      rfl

/-- A requeue adds one, whatever the republished copy carries of the broker's header. -/
theorem republished_count (copy : Copy) : copy.republished.count = copy.count + 1 := by
  have apart : deliveryCountHeader ≠ attemptHeader := by decide
  have now := count_eq copy
  rw [count_eq copy.republished]
  simp only [Copy.republished, intHeader_put, apart, if_false, if_true, Option.getD_some,
    Bool.false_eq_true]
  omega

theorem counts_head (quorum : Bool) (copy : Copy) (inflight : InflightMessages) (tag : Int)
    (endings : List Ending) :
    ∃ later, counts quorum copy inflight tag endings = copy.count :: later := by
  cases endings with
  | nil => exact ⟨[], rfl⟩
  | cons ending rest =>
      obtain ⟨held, nextTag, shape⟩ := counts_cons quorum copy inflight tag ending rest
      exact ⟨_, shape⟩

/-- The copy that the next delivery hands out. -/
def Copy.after (quorum : Bool) (copy : Copy) (ending : Ending) : Copy :=
  if ending.isFailure then copy.requeued quorum else copy.republished

theorem increases_cons (quorum : Bool) (copy : Copy) (inflight : InflightMessages) (tag : Int)
    (ending : Ending) (rest : List Ending) :
    ∃ held nextTag, (counts quorum copy inflight tag (ending :: rest)).IsChain (· < ·) ↔
      copy.count < (copy.after quorum ending).count ∧
        (counts quorum (copy.after quorum ending) held nextTag rest).IsChain (· < ·) := by
  obtain ⟨held, nextTag, shape⟩ := counts_cons quorum copy inflight tag ending rest
  refine ⟨held, nextTag, ?_⟩
  obtain ⟨later, first⟩ := counts_head quorum (copy.after quorum ending) held nextTag rest
  change _ = copy.count :: counts quorum (copy.after quorum ending) held nextTag rest at shape
  rw [shape, first, List.isChain_cons_cons]

/-- A copy published by a requeue and not failed on since. -/
structure Stamped (copy : Copy) : Prop where
  failures : copy.failures = 0
  redelivered : copy.redelivered = false
  attempt : intHeader copy.message.headers attemptHeader = some copy.count
  second : 2 ≤ copy.count

theorem count_pos (copy : Copy) : 1 ≤ copy.count := by
  have now := count_eq copy
  omega

theorem stamped_republished (copy : Copy) : Stamped copy.republished where
  failures := rfl
  redelivered := rfl
  attempt := by
    rw [republished_count]
    simp [Copy.republished, intHeader_put]
  second := by
    have first := count_pos copy
    rw [republished_count]
    omega

/-- A classic queue only says that there was a delivery before. -/
theorem requeued_count_classic (copy : Copy) : (copy.requeued false).count = max copy.count 2 := by
  have now := count_eq copy
  rw [count_eq (copy.requeued false)]
  simp only [Copy.requeued, Bool.false_eq_true, if_false, if_true]
  split at now
  · omega
  · omega

/-- A quorum queue replaces the header that the message was published with. -/
theorem requeued_count_quorum (copy : Copy) :
    (copy.requeued true).count =
      max ((copy.failures : Int) + 2) ((intHeader copy.message.headers attemptHeader).getD 1) := by
  have apart : attemptHeader ≠ deliveryCountHeader := by decide
  rw [count_eq (copy.requeued true)]
  simp only [Copy.requeued, if_true, intHeader_put, apart, if_false, Option.elim_some]
  push_cast
  omega

/-- A failure on a requeued copy is not counted: the attempt already stamped is as high. -/
theorem Stamped.failure (stamped : Stamped copy) (quorum : Bool) :
    (copy.requeued quorum).count ≤ copy.count := by
  have second := stamped.second
  cases quorum with
  | true =>
      rw [requeued_count_quorum, stamped.attempt, stamped.failures, Option.getD_some]
      omega
  | false =>
      rw [requeued_count_classic]
      omega

/-- Where a failure is not counted, the counts increase exactly as long as no consumer fails. -/
theorem increases_of_uncounted (uncounted : (copy.requeued quorum).count ≤ copy.count)
    (inflight : InflightMessages) (tag : Int) (endings : List Ending) :
    (counts quorum copy inflight tag endings).IsChain (· < ·) ↔
      ∀ ending ∈ endings, ending.isFailure = false := by
  induction endings generalizing copy inflight tag with
  | nil => exact iff_of_true (List.isChain_singleton _) nofun
  | cons ending rest ih =>
      obtain ⟨held, nextTag, step⟩ := increases_cons quorum copy inflight tag ending rest
      rw [step, List.forall_mem_cons]
      unfold Copy.after
      cases failed : ending.isFailure with
      | true =>
          rw [if_pos rfl]
          exact iff_of_false (fun both => absurd both.1 (by omega))
            (fun both => Bool.noConfusion both.1)
      | false =>
          have more := republished_count copy
          rw [if_neg Bool.false_ne_true, ih ((stamped_republished copy).failure quorum)]
          exact ⟨fun both => ⟨rfl, both.2⟩, fun both => ⟨by omega, both.2⟩⟩

/-- A copy on a quorum queue that the gateway has not requeued. -/
structure Unstamped (copy : Copy) : Prop where
  attempt : intHeader copy.message.headers attemptHeader = none
  count : copy.count = copy.failures + 1

theorem unstamped_sent (payload : Json) : Unstamped ⟨{ body := payload }, false, 0⟩ where
  attempt := rfl
  count := rfl

theorem Unstamped.requeued (unstamped : Unstamped copy) : Unstamped (copy.requeued true) where
  attempt := by
    have apart : attemptHeader ≠ deliveryCountHeader := by decide
    simp [Copy.requeued, intHeader_put, apart, unstamped.attempt]
  count := by
    rw [requeued_count_quorum, unstamped.attempt]
    simp only [Copy.requeued, Option.getD_none]
    push_cast
    omega

theorem increases_quorum (unstamped : Unstamped copy) (inflight : InflightMessages) (tag : Int)
    (endings : List Ending) :
    (counts true copy inflight tag endings).IsChain (· < ·) ↔
      ∀ ending ∈ endings.dropWhile Ending.isFailure, ending.isFailure = false := by
  induction endings generalizing copy inflight tag with
  | nil => exact iff_of_true (List.isChain_singleton _) nofun
  | cons ending rest ih =>
      obtain ⟨held, nextTag, step⟩ := increases_cons true copy inflight tag ending rest
      rw [step]
      unfold Copy.after
      cases failed : ending.isFailure with
      | true =>
          have now := unstamped.count
          have next := unstamped.requeued.count
          have grown : (copy.requeued true).failures = copy.failures + 1 := rfl
          rw [grown] at next
          push_cast at next
          rw [if_pos rfl, List.dropWhile_cons_of_pos failed, ih unstamped.requeued]
          exact ⟨fun both => both.2, fun all => ⟨by omega, all⟩⟩
      | false =>
          have more := republished_count copy
          have uncounted := (stamped_republished copy).failure true
          rw [if_neg Bool.false_ne_true, increases_of_uncounted uncounted,
            List.dropWhile_cons_of_neg (by simp [failed]), List.forall_mem_cons]
          exact ⟨fun both => ⟨failed, both.2⟩, fun both => ⟨by omega, both.2⟩⟩

/-- On a classic queue every delivery but the first is counted as the second one at least. -/
theorem increases_classic (first : copy.count = 1) (inflight : InflightMessages) (tag : Int)
    (endings : List Ending) :
    (counts false copy inflight tag endings).IsChain (· < ·) ↔
      ∀ ending ∈ endings.tail, ending.isFailure = false := by
  cases endings with
  | nil => exact iff_of_true (List.isChain_singleton _) nofun
  | cons ending rest =>
      obtain ⟨held, nextTag, step⟩ := increases_cons false copy inflight tag ending rest
      have second : (copy.after false ending).count = 2 := by
        unfold Copy.after
        split
        · rw [requeued_count_classic, first]
          rfl
        · rw [republished_count, first]
          rfl
      have uncounted : ((copy.after false ending).requeued false).count ≤
          (copy.after false ending).count := by
        rw [requeued_count_classic, second]
        decide
      rw [step, increases_of_uncounted uncounted, first, second]
      exact ⟨fun both => both.2, fun all => ⟨by decide, all⟩⟩

/-- The first delivery reports 1, and each one more than the one before, exactly when the failures
come first. -/
theorem rabbit_counts_increase (quorum : Bool) (payload : Json) (tag : Int)
    (endings : List Ending) :
    ((history quorum payload tag endings).head? = some 1 ∧
        (history quorum payload tag endings).IsChain (· < ·)) ↔
      FailuresFirst quorum endings := by
  have start := unstamped_sent payload
  obtain ⟨later, shape⟩ :=
    counts_head quorum ⟨{ body := payload }, false, 0⟩ Table.empty tag endings
  have first : (history quorum payload tag endings).head? = some 1 := by
    rw [history, shape, start.count]
    rfl
  unfold FailuresFirst
  cases quorum with
  | true =>
      have chain := increases_quorum start Table.empty tag endings
      exact ⟨fun both => chain.mp both.2, fun ordered => ⟨first, chain.mpr ordered⟩⟩
  | false =>
      have chain := increases_classic start.count Table.empty tag endings
      exact ⟨fun both => chain.mp both.2, fun ordered => ⟨first, chain.mpr ordered⟩⟩

/-- Two consumers fail on a classic queue; on a quorum queue one fails after a requeue. -/
theorem repeated_failure_stalls :
    history false (.obj []) 1 [.consumerFailure 2, .consumerFailure 3] = [1, 2, 2] ∧
      history true (.obj []) 1 [.nackRequeue 2, .consumerFailure 3] = [1, 2, 2] := by
  decide +kernel

end Counts

end AiPlatform.Queue.RabbitMq
