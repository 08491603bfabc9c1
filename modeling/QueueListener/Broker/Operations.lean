import QueueListener.Broker.Settlement
import QueueListener.Text.Tag
/-!
# The operations of the broker

Administration of queues and connections, and the operations of a client on its connection and
channels. An operation that is refused gives a client error; on a channel the refusal of an unknown
queue or of a tag in use also closes the channel.
-/

namespace QueueListener.Broker

/-- Creates a queue, unless it exists; tells whether it was created. -/
def declare (b : Broker) (queue : String) : Bool × Broker :=
  if b.queues.contains queue then (false, b)
  else (true, { b with queues := b.queues.set queue {} })

/-- Cancels a consumer of a deleted queue. -/
def cancelDeleted (b : Broker) (consumerTag : String) : Broker :=
  match b.consumers.get? consumerTag with
  | none => b
  | some consumer =>
    { b with consumers := b.consumers.erase consumerTag }.notify consumer.subscriber .cancelled

/-- Deletes a queue with the messages that wait in it, and cancels its consumers; tells whether
there was one. -/
def delete (b : Broker) (queue : String) : Bool × Broker :=
  match b.queues.get? queue with
  | none => (false, b)
  | some record =>
    let dropped := record.ready.map fun message => (message, Departure.droppedWithQueue)
    let b := { b with
      queues := b.queues.erase queue
      departures := b.departures ++ dropped.toArray }
    (true, record.consumers.foldl cancelDeleted b)

/-- Accepts a message behind all others of a queue that exists. -/
def accept (b : Broker) (queue : String) (payload : Payload) (properties : Properties) : Broker :=
  let serial := b.lastSerial + 1
  let message : Message := ⟨serial, payload, properties, false⟩
  ({ b with lastSerial := serial }.updateQueue queue fun record =>
    { record with ready := record.ready ++ [message] }).dispatch queue

/-- Publishes a message to a queue. -/
def publish (b : Broker) (queue : String) (payload : Payload) (properties : Properties) :
    Except ClientError Unit × Broker :=
  if b.queues.contains queue then (.ok (), b.accept queue payload properties)
  else (.error (.queueNotFound queue), b)

/-- Opens a connection; every attempt is counted. -/
def connect (b : Broker) : Except ClientError Nat × Broker :=
  let b := { b with connectionAttempts := b.connectionAttempts + 1 }
  if b.refusesConnections then (.error (.connection "Connection refused"), b)
  else if b.rejectsCredentials then
    (.error (.authentication
      "ACCESS_REFUSED - Login was refused using authentication mechanism PLAIN"), b)
  else
    let id := b.lastId + 1
    (.ok id, { b with lastId := id, connections := b.connections.set id { isOpen := true } })

/-- The cause of which consumers hear when the broker drops connections. -/
def forcedClosure : ClientError :=
  .connection "CONNECTION_FORCED - broker forced connection closure"

/-- Closes every connection as if the broker went away. -/
def dropConnections (b : Broker) : Broker :=
  ((b.connections.entries.filter (·.2.isOpen)).map (·.1)).foldl
    (fun b connection => b.closeConnection connection (some forcedClosure)) b

/-- Opens a channel on a connection. -/
def createChannel (b : Broker) (connection : Nat) (transactional : Bool) :
    Except ClientError Nat × Broker :=
  match b.connections.get? connection with
  | some record =>
    if record.isOpen then
      let id := b.lastId + 1
      let number := record.channels + 1
      (.ok id, { b with
        lastId := id
        connections := b.connections.modify connection fun r => { r with channels := number }
        channels := b.channels.set id
          { connection, number := number.toNat, isOpen := true, transactional } })
    else (.error (.connection "connection is closed"), b)
  | none => (.error (.connection "connection is closed"), b)

/-- Bounds the unsettled deliveries that are pushed to a channel. -/
def setPrefetch (b : Broker) (channel prefetch : Nat) : Except ClientError Unit × Broker :=
  if b.channelOpen channel then
    (.ok (), (b.updateChannel channel fun record => { record with prefetch }).dispatchAll)
  else (.error .channelClosed, b)

/-- The tag of a new consumer: the requested one, or a generated one. -/
def chooseTag (b : Broker) (requested : String) : String × Broker :=
  if requested.isEmpty then
    (Text.generatedName "amq.ctag" (b.generatedTags + 1),
      { b with generatedTags := b.generatedTags + 1 })
  else (requested, b)

/-- The refusal of a tag that is in use. -/
def tagInUse (tag : String) : ClientError :=
  .channel ("NOT_ALLOWED - attempt to reuse consumer tag '" ++ tag ++ "'")

/-- Registers a push consumer; gives its tag. -/
def consume (b : Broker) (channel : Nat) (queue requestedTag : String) (autoAck : Bool)
    (subscriber : Nat) : Except ClientError String × Broker :=
  if !b.channelOpen channel then (.error .channelClosed, b)
  else if !b.queues.contains queue then
    (.error (.queueNotFound queue), b.closeChannel channel none)
  else
    let (tag, b) := b.chooseTag requestedTag
    if b.consumers.contains tag then (.error (tagInUse tag), b.closeChannel channel none)
    else
      let b := { b with consumers := b.consumers.set tag ⟨queue, channel, autoAck, subscriber⟩ }
      let b := b.updateQueue queue fun record =>
        { record with consumers := record.consumers ++ [tag] }
      (.ok tag, (b.record channel (.consume queue tag)).dispatch queue)

/-- Takes the first waiting message of a queue. -/
def get (b : Broker) (channel : Nat) (queue : String) (autoAck : Bool) :
    Except ClientError (Option Delivery) × Broker :=
  if !b.channelOpen channel then (.error .channelClosed, b)
  else match b.queues.get? queue with
    | none => (.error (.queueNotFound queue), b.closeChannel channel none)
    | some record =>
      match record.ready with
      | [] => (.ok none, b)
      | message :: rest =>
        let b := b.updateQueue queue fun record => { record with ready := rest }
        let (delivery, b) := b.handOver queue "" channel autoAck message
        (.ok (some delivery), b)

/-- Cancels a consumer of the channel. Another channel's consumer stays, but the request is
recorded. -/
def cancel (b : Broker) (channel : Nat) (consumerTag : String) :
    Except ClientError Unit × Broker :=
  if !b.channelOpen channel then (.error .channelClosed, b)
  else
    let b := match b.consumers.get? consumerTag with
      | some consumer =>
        if consumer.channel = channel then
          (b.unregister consumerTag).notify consumer.subscriber .ended
        else b
      | none => b
    (.ok (), b.record channel (.cancel consumerTag))

/-- Publishes on a channel. Only the default exchange routes; what it cannot route is dropped. -/
def publishOn (b : Broker) (channel : Nat) (exchange queue : String) (payload : Payload)
    (properties : Properties) : Except ClientError Unit × Broker :=
  if !b.channelOpen channel then (.error .channelClosed, b)
  else if exchange.isEmpty && b.queues.contains queue then
    (.ok (), b.accept queue payload properties)
  else (.ok (), b)

/-- Switches publisher confirms on. -/
def confirm (b : Broker) (channel : Nat) : Except ClientError Unit × Broker :=
  if b.channelOpen channel then (.ok (), b) else (.error .channelClosed, b)

/-- The notices that wait, and the broker without them. -/
def collectNotices (b : Broker) : Array (Nat × Notice) × Broker :=
  (b.notices, { b with notices := #[] })

end QueueListener.Broker
