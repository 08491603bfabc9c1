import QueueListener.Proofs.Broker.History
/-!
# The rounds of dispatch

**Every push is a turn in a round.** A round is the dispatch of one queue; its turns are the pushes
that it makes, one after the other.

* `Turn`, `Round` — a push and a dispatch, each with the broker right before it;
* `Broker.rounds`, `Broker.allRounds` — the rounds of an operation and of a run, of all queues;
* `turnsOf` — the turns of one queue among them.
-/

namespace QueueListener.Broker

/-- A push, with the broker right before it. -/
structure Turn where
  broker : Broker
  /-- The message that is pushed. -/
  message : Message
  /-- The place of the chosen consumer in the list of the queue. -/
  place : Nat
  delivery : Delivery

/-- The dispatch of a queue, with the broker right before it. -/
structure Round where
  broker : Broker
  queue : String

/-- The tag of the consumer that the message is pushed to. -/
def Turn.receiver (turn : Turn) : String := turn.delivery.consumerTag

/-! ### Turns of a round -/

/-- The turn that comes next in a queue, if a push is possible. -/
def nextTurn? (b : Broker) (queue : String) : Option Turn :=
  match b.queues.get? queue with
  | none => none
  | some record =>
    match record.ready with
    | [] => none
    | message :: _ =>
      (b.nextConsumer? record).map fun (place, consumerTag, consumer) =>
        { broker := b
          message
          place
          delivery :=
            (b.handOver queue consumerTag consumer.channel consumer.autoAck message).1 }

/-- The turns of at most that many pushes of a queue. -/
def turnsUpTo : Nat → String → Broker → List Turn
  | 0, _, _ => []
  | count + 1, queue, b =>
    match b.pushNext? queue with
    | some after => (b.nextTurn? queue).toList ++ turnsUpTo count queue after
    | none => []

/-- The turns of a round. -/
def Round.turns (round : Round) : List Turn :=
  turnsUpTo (round.broker.readyCount round.queue) round.queue round.broker

/-- The deliveries of a round. -/
def Round.deliveries (round : Round) : List Delivery := round.turns.map (·.delivery)

/-- The turns of a queue in some rounds. -/
def turnsOf (queue : String) (rounds : List Round) : List Turn :=
  (rounds.filter (·.queue = queue)).flatMap Round.turns

/-! ### Rounds of an operation -/

/-- The rounds of one step after the other. -/
def roundsAlong {α : Type} (step : Broker → α → Broker) (rounds : Broker → α → List Round) :
    List α → Broker → List Round
  | [], _ => []
  | item :: rest, b => rounds b item ++ roundsAlong step rounds rest (step b item)

/-- The rounds of the dispatch of all queues. -/
def dispatchAllRounds (b : Broker) : List Round :=
  roundsAlong dispatch (fun b queue => [⟨b, queue⟩]) b.queues.keys b

/-- The rounds of the closing of a channel. -/
def closeRounds (cause : Option ClientError) (b : Broker) (channel : Nat) : List Round :=
  match b.openChannel? channel with
  | none => []
  | some record =>
    (((b.desert channel cause).giveBackAll record.unacked).record channel .close).dispatchAllRounds

/-- The rounds of the closing of a connection. -/
def disconnectRounds (cause : Option ClientError) (b : Broker) (connection : Nat) : List Round :=
  if b.connectionOpen connection then
    let b := { b with
      connections := b.connections.modify connection fun record => { record with isOpen := false } }
    roundsAlong (fun b channel => b.closeChannel channel cause) (closeRounds cause)
      (b.channelsOf connection) b
  else []

/-- The round of a message that is accepted. -/
def acceptRounds (b : Broker) (queue : String) (payload : Payload) (properties : Properties) :
    List Round :=
  [⟨b.shelve queue (b.nextMessage payload properties), queue⟩]

/-- The rounds of the registration of a consumer. -/
def consumeRounds (b : Broker) (channel : Nat) (queue requested : String) (autoAck : Bool)
    (subscriber : Nat) : List Round :=
  if !b.channelOpen channel then []
  else if !b.queues.contains queue then closeRounds none b channel
  else
    let (tag, b) := b.chooseTag requested
    if b.consumers.contains tag then closeRounds none b channel
    else [⟨(b.enroll b.generatedTags tag ⟨queue, channel, autoAck, subscriber⟩).record channel
      (.consume queue tag), queue⟩]

/-- The rounds of a request for one message: only a refusal that closes the channel has any. -/
def getRounds (b : Broker) (channel : Nat) (queue : String) : List Round :=
  if !b.channelOpen channel then []
  else match b.queues.get? queue with
    | none => closeRounds none b channel
    | some _ => []

/-- The rounds of a request for a settlement. -/
def acknowledgeRounds (b : Broker) (channel : Nat) (settlement : Settlement) : List Round :=
  match b.openChannel? channel with
  | none => []
  | some record =>
    if record.unacked.any fun entry => settlement.covers entry.tag then
      if record.transactional then []
      else ((b.record channel (.settle settlement)).settle channel settlement).dispatchAllRounds
    else closeRounds none b channel

/-- The rounds of a commit. -/
def commitRounds (b : Broker) (channel : Nat) : List Round :=
  match b.openChannel? channel with
  | none => []
  | some record =>
    if record.transactional then
      (record.pending.foldl (·.settle channel) (b.clearPending channel .commit)).dispatchAllRounds
    else []

/-- The rounds of an operation, in their order. -/
def rounds (b : Broker) : Op → List Round
  | .publish queue payload properties =>
    if b.queues.contains queue then b.acceptRounds queue payload properties else []
  | .dropConnections =>
    roundsAlong (fun b connection => b.closeConnection connection (some forcedClosure))
      (disconnectRounds (some forcedClosure))
      ((b.connections.entries.filter (·.2.isOpen)).map (·.1)) b
  | .closeConnection connection => disconnectRounds none b connection
  | .setPrefetch channel prefetch =>
    if b.channelOpen channel then
      (b.updateChannel channel fun record => { record with prefetch }).dispatchAllRounds
    else []
  | .consume channel queue tag autoAck subscriber =>
    b.consumeRounds channel queue tag autoAck subscriber
  | .get channel queue _ => b.getRounds channel queue
  | .acknowledge channel settlement => b.acknowledgeRounds channel settlement
  | .publishOn channel exchange queue payload properties =>
    if b.channelOpen channel && exchange.isEmpty && b.queues.contains queue then
      b.acceptRounds queue payload properties
    else []
  | .commit channel => b.commitRounds channel
  | .close channel => closeRounds none b channel
  | .declare _ | .delete _ | .refuseConnections _ | .rejectCredentials _ | .connect |
    .createChannel .. | .cancel .. | .rollback _ | .confirm _ => []

/-- The rounds of a run, in their order. -/
def allRounds (b : Broker) : List Op → List Round
  | [] => []
  | op :: rest => b.rounds op ++ (b.step op).2.allRounds rest

end QueueListener.Broker
