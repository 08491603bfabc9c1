import QueueListener.Broker.Dispatch
/-!
# Settlement of deliveries, and closing

**What was delivered and not acknowledged comes back.** A returned message goes to the front of its
queue and counts as redelivered; a queue that no longer exists sends it to the dead letters.

* `Broker.settle` — carries out a verdict on the deliveries that it covers;
* `Broker.acknowledge` — a verdict that a channel was asked for: at once on a plain channel, at the
  commit on a transactional one; a tag that is unknown closes the channel;
* `Broker.closeChannel`, `Broker.closeConnection` — return everything that is unsettled.
-/

namespace QueueListener.Broker

/-- Returns a message to the front of its queue. -/
def giveBack (b : Broker) (entry : Unacked) : Broker :=
  let message := { entry.message with redelivered := true }
  if b.queues.contains entry.queue then
    b.updateQueue entry.queue fun record => { record with ready := message :: record.ready }
  else { b with deadLetters := b.deadLetters.push ⟨entry.queue, message⟩ }

/-- Returns messages so that they stand in their queues in the given order. -/
def giveBackAll (b : Broker) (entries : List Unacked) : Broker :=
  entries.foldr (fun entry b => b.giveBack entry) b

/-- Sends messages to the dead letters. -/
def bury (b : Broker) (entries : List Unacked) : Broker :=
  { b with deadLetters := b.deadLetters ++ (entries.map fun e => ⟨e.queue, e.message⟩).toArray }

/-- Lets go of messages for good. -/
def discharge (b : Broker) (entries : List Unacked) : Broker :=
  { b with departures :=
      b.departures ++ (entries.map fun e => (e.message, Departure.acknowledged)).toArray }

/-- Carries out a verdict on the unsettled deliveries that it covers. -/
def settle (b : Broker) (channel : Nat) (settlement : Settlement) : Broker :=
  match b.channels.get? channel with
  | none => b
  | some record =>
    let covered := record.unacked.filter fun entry => settlement.covers entry.tag
    let b := b.updateChannel channel fun record =>
      { record with unacked := record.unacked.filter fun entry => !settlement.covers entry.tag }
    match settlement.verdict with
    | .ack => b.discharge covered
    | .nack true => b.giveBackAll covered
    | .nack false => b.bury covered

/-- Takes a consumer out of the table and out of its queue. -/
def unregister (b : Broker) (consumerTag : String) : Broker :=
  match b.consumers.get? consumerTag with
  | none => b
  | some consumer =>
    { b with consumers := b.consumers.erase consumerTag }.updateQueue consumer.queue fun record =>
      { record with consumers := record.consumers.filter (· ≠ consumerTag) }

/-- Ends a consumer whose channel closes: it hears the cause if there is one. -/
def endConsumer (b : Broker) (cause : Option ClientError) (consumerTag : String) : Broker :=
  match b.consumers.get? consumerTag with
  | none => b
  | some consumer =>
    (b.unregister consumerTag).notify consumer.subscriber <| match cause with
      | some error => .shutdown error
      | none => .ended

/-- The tags of the consumers on a channel. -/
def tagsOn (b : Broker) (channel : Nat) : List String :=
  (b.consumers.entries.filter fun entry => entry.2.channel = channel).map (·.1)

/-- Closes a channel: its consumers end, and what is unsettled comes back. -/
def closeChannel (b : Broker) (channel : Nat) (cause : Option ClientError) : Broker :=
  match b.openChannel? channel with
  | none => b
  | some record =>
    let b := b.updateChannel channel fun record =>
      { record with isOpen := false, pending := [], unacked := [] }
    let b := (b.tagsOn channel).foldl (fun b tag => b.endConsumer cause tag) b
    ((b.giveBackAll record.unacked).record channel .close).dispatchAll

/-- The wording for a tag that is not unsettled. -/
def unknownTag (tag : Nat) : ClientError :=
  .channel ("PRECONDITION_FAILED - unknown delivery tag " ++ toString tag)

/-- Asks a channel for a settlement. -/
def acknowledge (b : Broker) (channel : Nat) (settlement : Settlement) :
    Except ClientError Unit × Broker :=
  match b.openChannel? channel with
  | none => (.error .channelClosed, b)
  | some record =>
    if record.unacked.any fun entry => settlement.covers entry.tag then
      let b := b.record channel (.settle settlement)
      if record.transactional then
        (.ok (), b.updateChannel channel fun record =>
          { record with pending := record.pending ++ [settlement] })
      else (.ok (), (b.settle channel settlement).dispatchAll)
    else (.error (unknownTag settlement.tag), b.closeChannel channel none)

/-- The refusal of a transaction on a plain channel. -/
def notTransactional : ClientError := .channel "PRECONDITION_FAILED - channel is not transactional"

/-- Carries out all settlements that wait on a transactional channel. -/
def commit (b : Broker) (channel : Nat) : Except ClientError Unit × Broker :=
  match b.openChannel? channel with
  | none => (.error .channelClosed, b)
  | some record =>
    if record.transactional then
      let b := b.updateChannel channel fun record => { record with pending := [] }
      let b := b.record channel .commit
      (.ok (), (record.pending.foldl (fun b s => b.settle channel s) b).dispatchAll)
    else (.error notTransactional, b)

/-- Forgets all settlements that wait on a transactional channel. -/
def rollback (b : Broker) (channel : Nat) : Except ClientError Unit × Broker :=
  match b.openChannel? channel with
  | none => (.error .channelClosed, b)
  | some record =>
    if record.transactional then
      (.ok (), (b.updateChannel channel fun record => { record with pending := [] }).record
        channel .rollback)
    else (.error notTransactional, b)

/-- The numbers of the open channels of a connection. -/
def channelsOf (b : Broker) (connection : Nat) : List Nat :=
  (b.channels.entries.filter fun entry =>
    entry.2.connection = connection && entry.2.isOpen).map (·.1)

/-- Closes a connection with all its channels. -/
def closeConnection (b : Broker) (connection : Nat) (cause : Option ClientError) : Broker :=
  if b.connectionOpen connection then
    let b := { b with connections :=
      b.connections.modify connection fun record => { record with isOpen := false } }
    (b.channelsOf connection).foldl (fun b channel => b.closeChannel channel cause) b
  else b

end QueueListener.Broker
