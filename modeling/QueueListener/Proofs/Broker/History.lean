import QueueListener.Proofs.Broker.Coherence
import QueueListener.Proofs.Broker.Settling
/-!
# The history of messages

**What happens to the messages of a broker is a list of passages**: a message is accepted, it is
delivered, it returns to its queue, or it is dropped with it.

* `Passage` — one of these events;
* `arrivals`, `unmarked` — what a history says of one queue: the messages that it accepts, and those
  that it delivers without the mark of a redelivery;
* `Delivered`, `CameBack` — what a history says of one message;
* `Broker.passages`, `Broker.history` — the passages of an operation and of a run. A push is read
  off the queue before it and the last notice after it.
-/

namespace QueueListener

/-- What happens to a message on its way. -/
inductive Passage
  /-- It is put behind all others of a queue. -/
  | accepted (queue : String) (message : Message)
  /-- It is taken out of its queue. -/
  | delivered (message : Message) (delivery : Delivery)
  /-- It is put back in front of its queue, by a rejection or by the closing of its channel. -/
  | returned (queue : String) (message : Message)
  /-- The queue is deleted, with everything that waits in it. -/
  | dropped (queue : String)
  deriving DecidableEq

namespace Passage

/-- The delivery of a message. -/
def delivery? : Passage → Option Delivery
  | delivered _ delivery => some delivery
  | _ => none

/-- The message that is accepted, with its queue. -/
def acceptance? : Passage → Option (String × Message)
  | accepted queue message => some (queue, message)
  | _ => none

/-- The message that a queue delivers without the mark of a redelivery. -/
def unmarked? (queue : String) : Passage → Option Message
  | delivered message delivery =>
    if delivery.queue = queue ∧ delivery.redelivered = false then some message else none
  | _ => none

end Passage

/-- The messages that a history accepts, each with its queue. -/
def acceptances (history : List Passage) : List (String × Message) :=
  history.filterMap Passage.acceptance?

/-- The messages that a queue accepts, in the order in which they were published. -/
def arrivals (queue : String) (history : List Passage) : List Message :=
  ((acceptances history).filter (·.1 = queue)).map (·.2)

/-- The messages that a queue delivers without the mark of a redelivery, in their order. -/
def unmarked (queue : String) (history : List Passage) : List Message :=
  history.filterMap (Passage.unmarked? queue)

/-- A message was delivered. -/
def Delivered (serial : Nat) (history : List Passage) : Prop :=
  ∃ message delivery, .delivered message delivery ∈ history ∧ message.serial = serial

/-- A message was delivered, and came back later. -/
def CameBack (serial : Nat) (history : List Passage) : Prop :=
  ∃ earlier queue message later, history = earlier ++ .returned queue message :: later ∧
    message.serial = serial ∧ Delivered serial earlier

namespace Broker

/-! ### Passages of an operation -/

/-- The passage of a push: the first waiting message of the queue before it, and the delivery of
which the last notice after it tells. -/
def pushPassage (b after : Broker) (queue : String) : List Passage :=
  match b.queues.get? queue, after.notices.back? with
  | some record, some (_, .delivered delivery) =>
    (record.ready.head?.map (.delivered · delivery)).toList
  | _, _ => []

/-- The passages of at most that many pushes of a queue. -/
def pushPassages : Nat → String → Broker → List Passage
  | 0, _, _ => []
  | count + 1, queue, b =>
    match b.pushNext? queue with
    | some after => b.pushPassage after queue ++ pushPassages count queue after
    | none => []

/-- The passages of the dispatch of a queue. -/
def dispatchPassages (b : Broker) (queue : String) : List Passage :=
  pushPassages (b.readyCount queue) queue b

/-- The passages of one step after the other. -/
def passagesAlong {α : Type} (step : Broker → α → Broker) (passages : Broker → α → List Passage) :
    List α → Broker → List Passage
  | [], _ => []
  | item :: rest, b => passages b item ++ passagesAlong step passages rest (step b item)

/-- The passages of the dispatch of all queues. -/
def dispatchAllPassages (b : Broker) : List Passage :=
  passagesAlong dispatch dispatchPassages b.queues.keys b

/-- The passages of messages that return, the last one first. A message whose queue is gone goes to
the dead letters instead. -/
def returnPassages (b : Broker) (entries : List Unacked) : List Passage :=
  (entries.reverse.filter fun entry => b.queues.contains entry.queue).map fun entry =>
    .returned entry.queue entry.message

/-- The passages of a verdict. -/
def settlePassages (channel : Nat) (b : Broker) (settlement : Settlement) : List Passage :=
  match b.channels.get? channel, settlement.verdict with
  | some record, .nack true =>
    b.returnPassages (record.unacked.filter fun entry => settlement.covers entry.tag)
  | _, _ => []

/-- The broker with a channel shut and its consumers ended. -/
def desert (b : Broker) (channel : Nat) (cause : Option ClientError) : Broker :=
  let b := b.updateChannel channel ChannelRecord.shut
  (b.tagsOn channel).foldl (fun b tag => b.endConsumer cause tag) b

/-- The passages of the closing of a channel. -/
def closePassages (cause : Option ClientError) (b : Broker) (channel : Nat) : List Passage :=
  match b.openChannel? channel with
  | none => []
  | some record =>
    let b := b.desert channel cause
    b.returnPassages record.unacked ++
      ((b.giveBackAll record.unacked).record channel .close).dispatchAllPassages

/-- The passages of the closing of a connection. -/
def disconnectPassages (cause : Option ClientError) (b : Broker) (connection : Nat) :
    List Passage :=
  if b.connectionOpen connection then
    let b := { b with
      connections := b.connections.modify connection fun record => { record with isOpen := false } }
    passagesAlong (fun b channel => b.closeChannel channel cause) (closePassages cause)
      (b.channelsOf connection) b
  else []

/-- The message that would be accepted next. -/
def nextMessage (b : Broker) (payload : Payload) (properties : Properties) : Message :=
  ⟨b.lastSerial + 1, payload, properties, false⟩

/-- The broker with one more message behind all others of a queue, not yet dispatched. -/
def shelve (b : Broker) (queue : String) (message : Message) : Broker :=
  { b with lastSerial := b.lastSerial + 1 }.updateQueue queue fun record =>
    { record with ready := record.ready ++ [message] }

/-- The passages of a message that is accepted. -/
def acceptPassages (b : Broker) (queue : String) (payload : Payload) (properties : Properties) :
    List Passage :=
  let message := b.nextMessage payload properties
  .accepted queue message :: (b.shelve queue message).dispatchPassages queue

/-- The passages of the registration of a consumer. -/
def consumePassages (b : Broker) (channel : Nat) (queue requested : String) (autoAck : Bool)
    (subscriber : Nat) : List Passage :=
  if !b.channelOpen channel then []
  else if !b.queues.contains queue then closePassages none b channel
  else
    let (tag, b) := b.chooseTag requested
    if b.consumers.contains tag then closePassages none b channel
    else ((b.enroll b.generatedTags tag ⟨queue, channel, autoAck, subscriber⟩).record channel
      (.consume queue tag)).dispatchPassages queue

/-- The passages of a request for one message. -/
def getPassages (b : Broker) (channel : Nat) (queue : String) (autoAck : Bool) : List Passage :=
  if !b.channelOpen channel then []
  else match b.queues.get? queue with
    | none => closePassages none b channel
    | some record =>
      record.ready.head?.toList.map fun message =>
        .delivered message (b.handOver queue "" channel autoAck message).1

/-- The passages of a request for a settlement. -/
def acknowledgePassages (b : Broker) (channel : Nat) (settlement : Settlement) : List Passage :=
  match b.openChannel? channel with
  | none => []
  | some record =>
    if record.unacked.any fun entry => settlement.covers entry.tag then
      let b := b.record channel (.settle settlement)
      if record.transactional then []
      else settlePassages channel b settlement ++
        (b.settle channel settlement).dispatchAllPassages
    else closePassages none b channel

/-- The passages of a commit. -/
def commitPassages (b : Broker) (channel : Nat) : List Passage :=
  match b.openChannel? channel with
  | none => []
  | some record =>
    if record.transactional then
      let b := b.clearPending channel .commit
      passagesAlong (·.settle channel) (settlePassages channel) record.pending b ++
        (record.pending.foldl (·.settle channel) b).dispatchAllPassages
    else []

/-- What an operation does to messages, in its order. -/
def passages (b : Broker) : Op → List Passage
  | .delete queue => if b.queues.contains queue then [.dropped queue] else []
  | .publish queue payload properties =>
    if b.queues.contains queue then b.acceptPassages queue payload properties else []
  | .dropConnections =>
    passagesAlong (fun b connection => b.closeConnection connection (some forcedClosure))
      (disconnectPassages (some forcedClosure))
      ((b.connections.entries.filter (·.2.isOpen)).map (·.1)) b
  | .closeConnection connection => disconnectPassages none b connection
  | .setPrefetch channel prefetch =>
    if b.channelOpen channel then
      (b.updateChannel channel fun record => { record with prefetch }).dispatchAllPassages
    else []
  | .consume channel queue tag autoAck subscriber =>
    b.consumePassages channel queue tag autoAck subscriber
  | .get channel queue autoAck => b.getPassages channel queue autoAck
  | .acknowledge channel settlement => b.acknowledgePassages channel settlement
  | .publishOn channel exchange queue payload properties =>
    if b.channelOpen channel && exchange.isEmpty && b.queues.contains queue then
      b.acceptPassages queue payload properties
    else []
  | .commit channel => b.commitPassages channel
  | .close channel => closePassages none b channel
  | .declare _ | .refuseConnections _ | .rejectCredentials _ | .connect | .createChannel .. |
    .cancel .. | .rollback _ | .confirm _ => []

/-- What a run does to messages, in its order. -/
def history (b : Broker) : List Op → List Passage
  | [] => []
  | op :: rest => b.passages op ++ (b.step op).2.history rest

end Broker

end QueueListener
