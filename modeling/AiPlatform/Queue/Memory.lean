import AiPlatform.Core.Value
import AiPlatform.Lib.Table

set_option autoImplicit false

/- `InMemoryQueueGateway`: one `asyncio.Queue`, the messages handed out and the dead letters. -/
namespace AiPlatform.Queue

structure QueueMessage where
  id : String
  body : Json
  receiveCount : Int := 1

structure InMemoryQueueGateway where
  queue : List QueueMessage := []
  inflight : Table QueueMessage.id := .empty
  deadLetter : List QueueMessage := []
  closed : Bool := false

namespace InMemoryQueueGateway

variable (gateway : InMemoryQueueGateway)

/-- `id` is the uuid drawn for the message. -/
def send (id : String) (payload : Json) : Except String InMemoryQueueGateway :=
  if gateway.closed then .error "queue is closed"
  else .ok { gateway with queue := gateway.queue ++ [{ id := id, body := payload }] }

/-- The first message is waited for, so the size of a batch is at least one; a wait that times out
leaves an empty queue and no messages. -/
def receive (maxMessages : Int) : List QueueMessage × InMemoryQueueGateway :=
  if gateway.closed then ([], gateway)
  else
    let messages := gateway.queue.take (max maxMessages 1).toNat
    (messages, { gateway with
      queue := gateway.queue.drop (max maxMessages 1).toNat
      inflight := messages.foldl Table.put gateway.inflight })

def ack (message : QueueMessage) : InMemoryQueueGateway :=
  { gateway with inflight := gateway.inflight.remove message.id }

def nack (message : QueueMessage) (requeue : Bool) : InMemoryQueueGateway :=
  match gateway.inflight.find message.id with
  | none => gateway
  | some stored =>
      let inflight := gateway.inflight.remove message.id
      if requeue then { gateway with
        inflight := inflight
        queue := gateway.queue ++
          [{ id := stored.id, body := stored.body, receiveCount := stored.receiveCount + 1 }] }
      else { gateway with
        inflight := inflight
        deadLetter := gateway.deadLetter ++ [stored] }

end InMemoryQueueGateway

end AiPlatform.Queue
