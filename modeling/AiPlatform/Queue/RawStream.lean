import AiPlatform.Lib.Text
import AiPlatform.Queue.RedisStream

set_option autoImplicit false

/- `receive` on a stream whose bodies are whatever some producer wrote. Each call runs whole.
`XAUTOCLAIM` raises the delivery counter of all that it claims before the first body is decoded, and
a body is decoded before its counter is compared: one that does not decode ends the call, again each
time it is claimed. -/
namespace AiPlatform.Queue.RawStream

open Machine RedisStream

abbrev Bytes := List UInt8

structure Settings extends RedisStream.Settings where
  deadLetterMaxlen : Nat := 10000

/-- An entry of the stream, with its body field if it has one. -/
structure Entry where
  id : Nat
  body : Option Bytes
deriving DecidableEq

structure Pending where
  id : Nat
  timesDelivered : Int
  idleSince : Int
deriving DecidableEq

/-- How a call of `receive` ended: what it claimed past the maximum with the counters, the letters
it added to the dead stream and what that stream holds, which entries are still in the stream or
pending, and the messages it returned if it did not raise. -/
structure Outcome where
  overdue : List (Nat × Int)
  added : List DeadLetter
  dead : List DeadLetter
  remaining : List Nat
  returned : Option (List Message)

/-- `letters` are all that were added to the dead stream, which keeps the newest. -/
structure State where
  stream : Table Entry.id := .empty
  lastGeneratedId : Nat := 0
  lastDeliveredId : Nat := 0
  pending : Table Pending.id := .empty
  letters : List DeadLetter := []
  history : List Outcome := []

inductive Action where
  | add (id : Nat) (body : Option Bytes)
  | receive (now maxMessages : Int) (ids : List Nat)
  | ack (id : Nat)
  | nack (message : Message) (requeue : Bool) (now : Int)
  | trim (id : Nat)

def Pending.claim (now : Int) (row : Pending) : Pending :=
  { row with timesDelivered := row.timesDelivered + 1, idleSince := now }

theorem Pending.claim_id (now : Int) (row : Pending) : (row.claim now).id = row.id := rfl

def Pending.requeue (idleSince : Int) (row : Pending) : Pending :=
  { row with idleSince := idleSince }

theorem Pending.requeue_id (idleSince : Int) (row : Pending) :
    (row.requeue idleSince).id = row.id := rfl

/-- The dead stream under its `MAXLEN`. -/
def State.dead (settings : Settings) (state : State) : List DeadLetter :=
  state.letters.drop (state.letters.length - settings.deadLetterMaxlen)

section Receive

variable (settings : Settings) (loads : Bytes → Option Json)

/-- The body of `_to_message`; `loads` is `json.loads` after the decoding, and `none` what
raises. -/
def readBody : Option Bytes → Option Json
  | none | some [] => some (.obj [])
  | some raw => loads raw

def toMessage (id : Nat) (body : Option Bytes) (receiveCount : Int) : Option Message :=
  (readBody loads body).map fun body => ⟨id, body, receiveCount⟩

/-- `_dead_letter`, one `MULTI`. -/
def deadLetter (state : State) (message : Message) (reason : String) (count : Option Int) : State :=
  { state with
    letters := state.letters ++ [⟨message.body, message.id, reason, count⟩]
    pending := state.pending.remove message.id
    stream := state.stream.remove message.id }

/-- `XPENDING` of one entry. -/
def delivered (state : State) (id : Nat) : Int :=
  ((state.pending.find id).map Pending.timesDelivered).getD 1

/-- The loop of `_claim_idle` through what `XAUTOCLAIM` returned, with the messages so far; an entry
that is gone from the stream has no fields. -/
def claimIdle (state : State) (messages : List Message) :
    List (Nat × Option Entry) → Option (List Message) × State
  | [] => (some messages, state)
  | (id, none) :: entries =>
      claimIdle { state with pending := state.pending.remove id } messages entries
  | (id, some entry) :: entries =>
      let count := delivered state id
      match toMessage loads id entry.body count with
      | none => (none, state)
      | some message =>
          if settings.maxDeliveries < count then
            claimIdle (deadLetter state message "max_deliveries" (some count)) messages entries
          else claimIdle state (messages ++ [message]) entries

/-- The part of `XREADGROUP` that concerns one new entry. -/
def readEntry (now : Int) (state : State) (entry : Entry) : State :=
  { state with
    lastDeliveredId := entry.id
    pending := state.pending.put ⟨entry.id, 1, now⟩ }

def undelivered (state : State) : List Entry :=
  state.stream.rows.filter fun entry => state.lastDeliveredId < entry.id

/-- `XREADGROUP` for what is left of the batch. -/
def readGroup (now maxMessages : Int) (messages : List Message) (state : State) :
    Option (List Message) × State :=
  let remaining := maxMessages - messages.length
  if 0 < remaining then
    let entries := (undelivered state).take remaining.toNat
    ((entries.mapM fun entry => toMessage loads entry.id entry.body 1).map (messages ++ ·),
      entries.foldl (readEntry now) state)
  else (some messages, state)

/-- `XAUTOCLAIM` may take an entry that has been idle for long enough. -/
def claimable (state : State) (now : Int) (id : Nat) : Bool :=
  (state.pending.find id).any fun row => settings.minIdleMs ≤ now - row.idleSince

/-- `XAUTOCLAIM` of these entries. -/
def autoclaim (state : State) (now : Int) (ids : List Nat) : State :=
  ids.foldl (fun state id => { state with
    pending := state.pending.modify id (Pending.claim now) (Pending.claim_id now) }) state

/-- `receive`, with the entries that its `XAUTOCLAIM` takes. -/
def receive (state : State) (now maxMessages : Int) (ids : List Nat) :
    Option (List Message) × State :=
  let claimed := autoclaim state now ids
  match claimIdle settings loads claimed [] (ids.map fun id => (id, claimed.stream.find id)) with
  | (none, after) => (none, after)
  | (some messages, after) => readGroup loads now maxMessages messages after

/-- The entries that the claims of a call bring past the maximum, with their counters. -/
def overdue (state : State) (now : Int) (ids : List Nat) : List (Nat × Int) :=
  let claimed := autoclaim state now ids
  (ids.filter fun id => (claimed.stream.find id).isSome ∧
    settings.maxDeliveries < delivered claimed id).map fun id => (id, delivered claimed id)

def outcome (state : State) (now maxMessages : Int) (ids : List Nat) : Outcome :=
  let after := (receive settings loads state now maxMessages ids).2
  { overdue := overdue settings state now ids
    added := after.letters.drop state.letters.length
    dead := after.dead settings
    remaining := after.stream.rows.map Entry.id ++ after.pending.rows.map Pending.id
    returned := (receive settings loads state now maxMessages ids).1 }

def step (state : State) : Action → Option State
  | .add id body =>
      if state.lastGeneratedId < id then
        (state.stream.insert ⟨id, body⟩).map fun stream =>
          { state with stream := stream, lastGeneratedId := id }
      else none
  | .receive now maxMessages ids =>
      if ids.Nodup ∧ (ids.length : Int) ≤ maxMessages ∧
          (∀ id ∈ ids, claimable settings state now id = true) then
        let after := (receive settings loads state now maxMessages ids).2
        some { after with
          history := state.history ++ [outcome settings loads state now maxMessages ids] }
      else none
  | .ack id => some { state with
      pending := state.pending.remove id
      stream := state.stream.remove id }
  | .nack message requeue now =>
      if requeue then
        some { state with
          pending := state.pending.modify message.id (Pending.requeue (now - settings.minIdleMs))
            (Pending.requeue_id _) }
      else some (deadLetter state message "rejected" none)
  | .trim id => some { state with stream := state.stream.remove id }

/-- The body is missing, empty or decodes. -/
def Decodes (body : Option Bytes) : Prop := readBody loads body ≠ none

end Receive

/-- The call did not fail, and it moved every entry that its claim brought past the maximum. What it
moved is in the dead stream unless it was too much for the `MAXLEN`. -/
structure Outcome.Good (settings : Settings) (outcome : Outcome) : Prop where
  returned : outcome.returned ≠ none
  moved : ∀ entry ∈ outcome.overdue,
    (∃ letter ∈ outcome.added, letter.originalMessageId = entry.1 ∧
      letter.reason = "max_deliveries" ∧ letter.receiveCount = some entry.2) ∧
    entry.1 ∉ outcome.remaining
  dead : outcome.added.length ≤ settings.deadLetterMaxlen →
    ∀ letter ∈ outcome.added, letter ∈ outcome.dead

section Calls

variable {settings : Settings} {loads : Bytes → Option Json}

/-- The entry is neither in the stream nor pending. -/
def Gone (state : State) (id : Nat) : Prop :=
  (∀ entry ∈ state.stream.rows, entry.id ≠ id) ∧ ∀ row ∈ state.pending.rows, row.id ≠ id

/-- What the loop of `_claim_idle` leaves when every body decodes. -/
structure Settled (settings : Settings) (state after : State) (entries : List (Nat × Option Entry))
    (added : List DeadLetter) : Prop where
  letters : after.letters = state.letters ++ added
  moved : ∀ id entry, (id, some entry) ∈ entries → settings.maxDeliveries < delivered state id →
    (∃ letter ∈ added, letter.originalMessageId = id ∧ letter.reason = "max_deliveries" ∧
      letter.receiveCount = some (delivered state id)) ∧ Gone after id
  stream : ∀ entry ∈ after.stream.rows, entry ∈ state.stream.rows
  pending : ∀ row ∈ after.pending.rows, row ∈ state.pending.rows

theorem Gone.later {state after : State} {id : Nat} (gone : Gone state id)
    (stream : ∀ entry ∈ after.stream.rows, entry ∈ state.stream.rows)
    (pending : ∀ row ∈ after.pending.rows, row ∈ state.pending.rows) : Gone after id :=
  ⟨fun entry member => gone.1 entry (stream entry member),
    fun row member => gone.2 row (pending row member)⟩

/-- The counter of another entry stays when one is no longer pending. -/
theorem delivered_remove {state after : State} {id other : Nat} (apart : other ≠ id)
    (pending : after.pending = state.pending.remove id) :
    delivered after other = delivered state other := by
  unfold delivered
  rw [pending, Table.find_remove, if_neg apart]

/-- The entries of a batch are others than the one before them. -/
def Apart (id : Nat) (entries : List (Nat × Option Entry)) : Prop :=
  ∀ other entry, (other, some entry) ∈ entries → other ≠ id

section Turns

variable {state after : State} {id : Nat} {entries : List (Nat × Option Entry)}
  {added : List DeadLetter}

/-- An entry that is gone from the stream leaves the pending ones. -/
theorem Settled.skip (apart : Apart id entries)
    (settled : Settled settings { state with pending := state.pending.remove id } after entries
      added) : Settled settings state after ((id, none) :: entries) added := by
  refine ⟨settled.letters, ?_, settled.stream, ?_⟩
  · intro other entry member passed
    rcases List.mem_cons.mp member with same | inside
    · cases same
    · have same : delivered { state with pending := state.pending.remove id } other =
          delivered state other := delivered_remove (apart other entry inside) rfl
      rw [← same] at passed ⊢
      exact settled.moved other entry inside passed
  · intro row member
    exact (Table.mem_remove.mp (settled.pending row member)).1

theorem Settled.collect {entry : Entry} (allowed : ¬settings.maxDeliveries < delivered state id)
    (settled : Settled settings state after entries added) :
    Settled settings state after ((id, some entry) :: entries) added := by
  refine ⟨settled.letters, ?_, settled.stream, settled.pending⟩
  intro other found member passed
  rcases List.mem_cons.mp member with same | inside
  · rw [(Prod.mk.inj same).1] at passed
    exact absurd passed allowed
  · exact settled.moved other found inside passed

/-- An entry past the maximum is moved, and nothing brings it back. -/
theorem Settled.moves {entry : Entry} {body : Json} (apart : Apart id entries)
    (settled : Settled settings (deadLetter state ⟨id, body, delivered state id⟩ "max_deliveries"
      (some (delivered state id))) after entries added) :
    Settled settings state after ((id, some entry) :: entries)
      (⟨body, id, "max_deliveries", some (delivered state id)⟩ :: added) := by
  have gone : Gone (deadLetter state ⟨id, body, delivered state id⟩ "max_deliveries"
      (some (delivered state id))) id :=
    ⟨fun _ member => (Table.mem_remove.mp member).2, fun _ member => (Table.mem_remove.mp member).2⟩
  refine ⟨?_, ?_, ?_, ?_⟩
  · rw [settled.letters]
    exact List.append_assoc _ _ _
  · intro other found member passed
    rcases List.mem_cons.mp member with same | inside
    · rw [(Prod.mk.inj same).1]
      exact ⟨⟨_, List.mem_cons_self, rfl, rfl, rfl⟩, gone.later settled.stream settled.pending⟩
    · have same : delivered (deadLetter state ⟨id, body, delivered state id⟩ "max_deliveries"
          (some (delivered state id))) other = delivered state other :=
        delivered_remove (apart other found inside) rfl
      rw [← same] at passed ⊢
      have ⟨⟨letter, held, rest⟩, missing⟩ := settled.moved other found inside passed
      exact ⟨⟨letter, List.mem_cons_of_mem _ held, rest⟩, missing⟩
  · intro other member
    exact (Table.mem_remove.mp (settled.stream other member)).1
  · intro row member
    exact (Table.mem_remove.mp (settled.pending row member)).1

end Turns

theorem claimIdle_settled (settings : Settings) (entries : List (Nat × Option Entry))
    (state : State) (messages : List Message) (distinct : (entries.map Prod.fst).Nodup)
    (decodes : ∀ id entry, (id, some entry) ∈ entries → Decodes loads entry.body) :
    ∃ returned after added,
      claimIdle settings loads state messages entries = (some returned, after) ∧
      Settled settings state after entries added := by
  induction entries generalizing state messages with
  | nil =>
      refine ⟨messages, state, [], rfl, (List.append_nil _).symm, ?_, fun _ member => member,
        fun _ member => member⟩
      intro id entry member
      exact absurd member List.not_mem_nil
  | cons first rest ih =>
      have ⟨id, fields⟩ := first
      have ⟨fresh, others⟩ := List.nodup_cons.mp distinct
      have apart : Apart id rest := by
        intro other entry member same
        rw [same] at member
        exact fresh (List.mem_map.mpr ⟨_, member, rfl⟩)
      have later : ∀ other entry, (other, some entry) ∈ rest → Decodes loads entry.body :=
        fun other entry member => decodes other entry (List.mem_cons_of_mem _ member)
      cases fields with
      | none =>
          have ⟨returned, after, added, done, settled⟩ :=
            ih { state with pending := state.pending.remove id } messages others later
          exact ⟨returned, after, added, done, settled.skip apart⟩
      | some entry =>
          have ⟨body, read⟩ :=
            Option.ne_none_iff_exists'.mp (decodes id entry List.mem_cons_self)
          have message : toMessage loads id entry.body (delivered state id) =
              some ⟨id, body, delivered state id⟩ := by
            unfold toMessage
            rw [read]
            rfl
          rw [claimIdle, message]
          dsimp only
          by_cases past : settings.maxDeliveries < delivered state id
          · rw [if_pos past]
            have ⟨returned, after, added, done, settled⟩ := ih (deadLetter state
              ⟨id, body, delivered state id⟩ "max_deliveries" (some (delivered state id)))
              messages others later
            exact ⟨returned, after, _, done, settled.moves apart⟩
          · rw [if_neg past]
            have ⟨returned, after, added, done, settled⟩ :=
              ih state (messages ++ [⟨id, body, delivered state id⟩]) others later
            exact ⟨returned, after, added, done, settled.collect past⟩

theorem readEntries_spec (now : Int) (entries : List Entry) (state : State) :
    let after := entries.foldl (readEntry now) state
    after.stream = state.stream ∧ after.letters = state.letters ∧
      ∀ row ∈ after.pending.rows,
        row ∈ state.pending.rows ∨ ∃ entry ∈ entries, row.id = entry.id := by
  induction entries generalizing state with
  | nil => exact ⟨rfl, rfl, fun row member => .inl member⟩
  | cons first rest ih =>
      have ⟨stream, letters, pending⟩ := ih (readEntry now state first)
      refine ⟨stream, letters, fun row member => ?_⟩
      rcases pending row member with old | ⟨entry, inside, same⟩
      · rcases Table.mem_put old with new | ⟨kept, _⟩
        · exact .inr ⟨first, List.mem_cons_self, by rw [new]⟩
        · exact .inl kept
      · exact .inr ⟨entry, List.mem_cons_of_mem _ inside, same⟩

theorem toMessages_some (entries : List Entry)
    (decodes : ∀ entry ∈ entries, Decodes loads entry.body) :
    (entries.mapM fun entry => toMessage loads entry.id entry.body 1) ≠ none := by
  induction entries with
  | nil => nofun
  | cons first rest ih =>
      have ⟨body, read⟩ := Option.ne_none_iff_exists'.mp (decodes first List.mem_cons_self)
      have ⟨messages, others⟩ := Option.ne_none_iff_exists'.mp
        (ih fun entry member => decodes entry (List.mem_cons_of_mem _ member))
      rw [List.mapM_cons, others]
      unfold toMessage
      rw [read]
      nofun

/-- Reading new entries fails for no body that decodes, and brings back none that is gone. -/
theorem readGroup_spec (now maxMessages : Int) (messages : List Message) (state : State)
    (decodes : ∀ entry ∈ state.stream.rows, Decodes loads entry.body) :
    let done := readGroup loads now maxMessages messages state
    done.1 ≠ none ∧ done.2.letters = state.letters ∧ done.2.stream = state.stream ∧
      ∀ id, Gone state id → Gone done.2 id := by
  unfold readGroup
  dsimp only
  split
  · rename_i room
    have stored : ∀ entry ∈ (undelivered state).take (maxMessages - messages.length).toNat,
        entry ∈ state.stream.rows :=
      fun entry member => (List.mem_filter.mp (List.mem_of_mem_take member)).1
    have ⟨stream, letters, pending⟩ := readEntries_spec now
      ((undelivered state).take (maxMessages - messages.length).toNat) state
    have read := toMessages_some _ fun entry member => decodes entry (stored entry member)
    refine ⟨fun failed => read (Option.map_eq_none_iff.mp failed), letters, stream, ?_⟩
    intro id gone
    constructor
    · intro entry member
      rw [stream] at member
      exact gone.1 entry member
    · intro row member
      rcases pending row member with old | ⟨entry, inside, same⟩
      · exact gone.2 row old
      · rw [same]
        exact gone.1 entry (stored entry inside)
  · exact ⟨nofun, rfl, rfl, fun _ gone => gone⟩

theorem autoclaim_spec (state : State) (now : Int) (ids : List Nat) :
    (autoclaim state now ids).stream = state.stream ∧
      (autoclaim state now ids).letters = state.letters := by
  unfold autoclaim
  induction ids generalizing state with
  | nil => exact ⟨rfl, rfl⟩
  | cons id rest ih => exact ih _

/-- The dead stream holds the last letters, as many as its `MAXLEN` lets it. -/
theorem mem_dead {state : State} {letters added : List DeadLetter}
    (all : state.letters = letters ++ added) (fits : added.length ≤ settings.deadLetterMaxlen)
    {letter : DeadLetter} (member : letter ∈ added) : letter ∈ state.dead settings := by
  have early : state.letters.length - settings.deadLetterMaxlen ≤ letters.length := by
    rw [all, List.length_append]
    omega
  unfold State.dead
  rw [all] at early ⊢
  rw [List.drop_append_of_le_length early]
  exact List.mem_append_right _ member

theorem receive_spec {state : State} {now maxMessages : Int} {ids : List Nat} (distinct : ids.Nodup)
    (decodes : ∀ entry ∈ state.stream.rows, Decodes loads entry.body) :
    (outcome settings loads state now maxMessages ids).Good settings ∧
      ∀ entry ∈ (receive settings loads state now maxMessages ids).2.stream.rows,
        entry ∈ state.stream.rows := by
  have ⟨stream, letters⟩ := autoclaim_spec state now ids
  have stored : ∀ id entry, (id, some entry) ∈ ids.map (fun id =>
      (id, (autoclaim state now ids).stream.find id)) → Decodes loads entry.body := by
    intro id entry member
    have ⟨other, _, same⟩ := List.mem_map.mp member
    have found := (Prod.mk.inj same).2
    rw [stream] at found
    exact decodes entry (Table.find_some.mp found).1
  have names : (ids.map fun id => (id, (autoclaim state now ids).stream.find id)).map Prod.fst =
      ids := by
    rw [List.map_map]
    exact List.map_id ids
  have ⟨messages, between, added, looped, settled⟩ := claimIdle_settled settings _
    (autoclaim state now ids) [] (names.symm ▸ distinct) stored
  have kept : ∀ entry ∈ between.stream.rows, entry ∈ state.stream.rows := by
    intro entry member
    rw [← stream]
    exact settled.stream entry member
  have ⟨returned, same, left, gone⟩ := readGroup_spec now maxMessages messages
    between fun entry member => decodes entry (kept entry member)
  have done : receive settings loads state now maxMessages ids =
      readGroup loads now maxMessages messages between := by
    unfold receive
    dsimp only
    rw [looped]
  have all : (readGroup loads now maxMessages messages between).2.letters =
      state.letters ++ added := by
    rw [same, settled.letters, letters]
  unfold outcome
  rw [done]
  refine ⟨⟨returned, fun late member => ?_, fun fits letter member => ?_⟩, ?_⟩
  · have ⟨id, inside, named⟩ := List.mem_map.mp member
    have ⟨listed, passed⟩ := List.mem_filter.mp inside
    have ⟨present, past⟩ := of_decide_eq_true passed
    have ⟨entry, found⟩ := Option.isSome_iff_exists.mp present
    have ⟨⟨letter, new, original, reason, count⟩, missing⟩ := settled.moved id entry
      (List.mem_map.mpr ⟨id, listed, by rw [found]⟩) past
    rw [← named]
    refine ⟨⟨letter, ?_, original, reason, count⟩, ?_⟩
    · show letter ∈ List.drop _ _
      rw [all, List.drop_left]
      exact new
    · intro remaining
      have ⟨noEntry, noRow⟩ := gone id missing
      rcases List.mem_append.mp remaining with inStream | inPending
      · have ⟨other, held, equal⟩ := List.mem_map.mp inStream
        exact noEntry other held equal
      · have ⟨row, held, equal⟩ := List.mem_map.mp inPending
        exact noRow row held equal
  · have new : letter ∈ ((readGroup loads now maxMessages messages between).2.letters.drop
        state.letters.length) := member
    have few : ((readGroup loads now maxMessages messages between).2.letters.drop
        state.letters.length).length ≤ settings.deadLetterMaxlen := fits
    rw [all, List.drop_left] at new few
    exact mem_dead all few new
  · intro entry member
    rw [left] at member
    exact kept entry member

end Calls

section Runs

variable {settings : Settings} {loads : Bytes → Option Json} {bodies : Option Bytes → Prop}

/-- What the action adds to the stream, if anything, is one of the bodies. -/
def Action.Adds (bodies : Option Bytes → Prop) : Action → Prop
  | .add _ body => bodies body
  | .receive .. | .ack _ | .nack .. | .trim _ => True

/-- Every entry of the stream has one of the bodies, and every call so far ended well. -/
structure Kept (settings : Settings) (bodies : Option Bytes → Prop) (state : State) : Prop where
  stored : ∀ entry ∈ state.stream.rows, bodies entry.body
  good : ∀ outcome ∈ state.history, outcome.Good settings

theorem step_kept (decodes : ∀ body, bodies body → Decodes loads body) {state next : State}
    {action : Action} (kept : Kept settings bodies state) (adds : action.Adds bodies)
    (stepped : step settings loads state action = some next) : Kept settings bodies next := by
  cases action with
  | add id body =>
      unfold step at stepped
      dsimp only at stepped
      split at stepped
      · have ⟨stream, inserted, same⟩ := Option.map_eq_some_iff.mp stepped
        cases same
        refine ⟨fun entry member => ?_, kept.good⟩
        have rows : stream.rows = state.stream.rows ++ [⟨id, body⟩] :=
          (Table.insert_some.mp inserted).2
        have member : entry ∈ stream.rows := member
        rw [rows] at member
        rcases List.mem_append.mp member with old | new
        · exact kept.stored entry old
        · rw [List.mem_singleton.mp new]
          exact adds
      · cases stepped
  | receive now maxMessages ids =>
      unfold step at stepped
      dsimp only at stepped
      split at stepped
      · rename_i allowed
        cases stepped
        have ⟨good, stream⟩ : (outcome settings loads state now maxMessages ids).Good settings ∧
            ∀ entry ∈ (receive settings loads state now maxMessages ids).2.stream.rows,
              entry ∈ state.stream.rows :=
          receive_spec allowed.1 fun entry member => decodes entry.body (kept.stored entry member)
        refine ⟨fun entry member => kept.stored entry (stream entry member), ?_⟩
        intro outcome member
        rcases List.mem_append.mp member with old | new
        · exact kept.good outcome old
        · rw [List.mem_singleton.mp new]
          exact good
      · cases stepped
  | ack id =>
      cases stepped
      exact ⟨fun entry member => kept.stored entry (Table.mem_remove.mp member).1, kept.good⟩
  | nack message requeue now =>
      cases requeue with
      | true =>
          cases stepped
          exact ⟨kept.stored, kept.good⟩
      | false =>
          cases stepped
          exact ⟨fun entry member => kept.stored entry (Table.mem_remove.mp member).1, kept.good⟩
  | trim id =>
      cases stepped
      exact ⟨fun entry member => kept.stored entry (Table.mem_remove.mp member).1, kept.good⟩

/-- The first call for an entry that does not decode fails. -/
theorem receive_undecodable (settings : Settings) {body : Option Bytes}
    (fails : ¬Decodes loads body) :
    ∃ final, run (step settings loads) {} [.add 1 body, .receive 0 1 []] = some final ∧
      ∃ outcome ∈ final.history, outcome.returned = none := by
  have raises : readBody loads body = none := not_not.mp fails
  refine ⟨_, rfl, _, List.mem_cons_self, ?_⟩
  show Option.map _ (List.mapM _ [(⟨1, body⟩ : Entry)]) = none
  rw [List.mapM_cons]
  unfold toMessage
  rw [raises]
  rfl

/-- Two entries are read, and claimed again a minute later. -/
def malformedFirst : List Action :=
  [.add 1 (some (Text.encode "not json")), .add 2 none, .receive 0 2 [], .receive 60000 2 [1, 2]]

end Runs

end AiPlatform.Queue.RawStream
