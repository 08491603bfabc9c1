import QueueListener.Broker.Basic
/-!
# Dispatch to push consumers

**Waiting messages are pushed round robin.** The search for a consumer starts at the cursor of the
queue and takes the first one with capacity; the cursor then stands behind the chosen one. A queue
is dispatched until no message waits or no consumer has capacity.

* `Broker.pushNext?` — one push, if one is possible;
* `Broker.dispatch` — all pushes of one queue, at most as many as messages wait;
* `Broker.dispatchAll` — all pushes of all queues.
-/

namespace QueueListener.Broker

/-- Whether one more message may be pushed to a consumer: always without acknowledgement, else
while its channel has fewer unsettled deliveries than its bound. -/
def hasCapacity (b : Broker) (consumer : Subscription) : Bool :=
  match b.openChannel? consumer.channel with
  | some channel =>
    consumer.autoAck || channel.prefetch = 0 || channel.unacked.length < channel.prefetch
  | none => false

/-- The places of the consumers in the order of the search. -/
def searchOrder (queue : QueueRecord) : List Nat :=
  (List.range queue.consumers.length).map fun offset =>
    (queue.cursor + offset) % queue.consumers.length

/-- The consumer at a place, if it has capacity. -/
def available? (b : Broker) (queue : QueueRecord) (place : Nat) :
    Option (Nat × String × Subscription) :=
  match queue.consumers[place]? with
  | some tag =>
    match b.consumers.get? tag with
    | some consumer => if b.hasCapacity consumer then some (place, tag, consumer) else none
    | none => none
  | none => none

/-- The next consumer of a queue with capacity, with its place. -/
def nextConsumer? (b : Broker) (queue : QueueRecord) : Option (Nat × String × Subscription) :=
  (searchOrder queue).findSome? (b.available? queue)

/-- Gives a message to a channel: the next tag, and an unsettled delivery unless the consumer does
not acknowledge. -/
def handOver (b : Broker) (queue consumerTag : String) (channel : Nat) (autoAck : Bool)
    (message : Message) : Delivery × Broker :=
  let tag := match b.channels.get? channel with
    | some record => record.lastTag + 1
    | none => 1
  let delivery : Delivery :=
    { queue, tag, consumerTag, payload := message.payload, redelivered := message.redelivered,
      properties := message.properties }
  let b := b.updateChannel channel fun record =>
    { record with
      lastTag := tag
      unacked := if autoAck then record.unacked else record.unacked ++ [⟨tag, queue, message⟩] }
  (delivery,
    if autoAck then { b with departures := b.departures.push (message, .handedOut) } else b)

/-- Pushes the first waiting message of a queue to the next consumer with capacity. -/
def pushNext? (b : Broker) (queue : String) : Option Broker :=
  match b.queues.get? queue with
  | none => none
  | some record =>
    match record.ready with
    | [] => none
    | message :: rest =>
      match b.nextConsumer? record with
      | none => none
      | some (place, consumerTag, consumer) =>
        let b := b.updateQueue queue fun record =>
          { record with ready := rest, cursor := (place + 1) % record.consumers.length }
        let (delivery, b) := b.handOver queue consumerTag consumer.channel consumer.autoAck message
        some (b.notify consumer.subscriber (.delivered delivery))

/-- Pushes at most that many messages of a queue. -/
def pushUpTo : Nat → String → Broker → Broker
  | 0, _, b => b
  | count + 1, queue, b =>
    match b.pushNext? queue with
    | some b => pushUpTo count queue b
    | none => b

/-- Pushes messages of a queue until none waits or no consumer has capacity. -/
def dispatch (b : Broker) (queue : String) : Broker := pushUpTo (b.readyCount queue) queue b

/-- Dispatches all queues. -/
def dispatchAll (b : Broker) : Broker := b.queues.keys.foldl dispatch b

end QueueListener.Broker
