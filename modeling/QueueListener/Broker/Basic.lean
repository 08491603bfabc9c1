import QueueListener.Failure
import QueueListener.Message
import QueueListener.Table
/-!
# The broker in memory: its state

**The state of the broker is one value.** Queues hold the messages that wait and the tags of their
consumers; channels hold what was delivered and not yet settled; consumers tie a tag to a queue and
a channel.

* `Message.serial` numbers the messages in the order in which the broker accepted them;
* `Broker.journal`, `Broker.deadLetters` and `Broker.departures` record what happened, oldest first;
* `Broker.notices` holds what consumers have yet to hear, each under the number that the subscriber
  gave when it subscribed.
-/

namespace QueueListener

/-- A message in the broker. -/
structure Message where
  /-- The place in the order of acceptance, from one. -/
  serial : Nat
  payload : Payload
  properties : Properties
  /-- Whether the message was delivered before. -/
  redelivered : Bool
  deriving DecidableEq

/-- A queue: waiting messages, and the tags of its consumers in the order of registration. -/
structure QueueRecord where
  ready : List Message := []
  consumers : List String := []
  /-- The place in `consumers` where the next search for a consumer starts. -/
  cursor : Nat := 0
  deriving DecidableEq

/-- A delivered message that is not yet settled. -/
structure Unacked where
  tag : Nat
  queue : String
  message : Message
  deriving DecidableEq

/-- What becomes of a delivered message. -/
inductive Verdict
  | ack
  | nack (requeue : Bool)
  deriving DecidableEq, Repr

/-- A verdict on one delivery, or on all up to it. -/
structure Settlement where
  tag : Nat
  multiple : Bool
  verdict : Verdict
  deriving DecidableEq, Repr

namespace Settlement

/-- Whether the settlement concerns the delivery with that tag. -/
def covers (s : Settlement) (tag : Nat) : Bool :=
  if s.multiple then tag ≤ s.tag else tag = s.tag

end Settlement

/-- A channel. Unsettled deliveries are kept in the order of their tags. -/
structure ChannelRecord where
  connection : Nat
  number : Nat
  isOpen : Bool
  transactional : Bool
  /-- The most unsettled deliveries that are pushed; zero sets no bound. -/
  prefetch : Nat := 0
  lastTag : Nat := 0
  unacked : List Unacked := []
  /-- Settlements that wait for the commit. -/
  pending : List Settlement := []
  deriving DecidableEq

/-- A connection, and how many channels were opened on it, as far as 16 bits can tell. -/
structure ConnectionRecord where
  isOpen : Bool
  channels : UInt16 := 0
  deriving DecidableEq, Repr

/-- A consumer: where its messages come from, and who hears of them. -/
structure Subscription where
  queue : String
  channel : Nat
  autoAck : Bool
  subscriber : Nat
  deriving DecidableEq, Repr

/-- What a subscriber hears. After one of the last three it hears nothing more. -/
inductive Notice
  | delivered (delivery : Delivery)
  /-- The queue was deleted. -/
  | cancelled
  /-- The connection was lost. -/
  | shutdown (cause : ClientError)
  /-- The consumer is no longer registered. -/
  | ended
  deriving DecidableEq

/-- A recorded operation on a channel. -/
inductive ChannelAction
  | consume (queue consumerTag : String)
  | settle (settlement : Settlement)
  | cancel (consumerTag : String)
  | commit
  | rollback
  | close
  deriving DecidableEq, Repr

/-- An entry of the journal. -/
structure JournalEntry where
  channel : Nat
  action : ChannelAction
  deriving DecidableEq, Repr

/-- A message that was rejected, or returned to a queue that no longer exists. -/
structure DeadLetter where
  queue : String
  message : Message
  deriving DecidableEq

/-- How a message left the broker for good. -/
inductive Departure
  | acknowledged
  /-- Given to a consumer that does not acknowledge. -/
  | handedOut
  /-- Waiting in a queue when the queue was deleted. -/
  | droppedWithQueue
  deriving DecidableEq, Repr

/-- The broker. -/
structure Broker where
  queues : Table String QueueRecord := .empty
  connections : Table Nat ConnectionRecord := .empty
  channels : Table Nat ChannelRecord := .empty
  consumers : Table String Subscription := .empty
  journal : Array JournalEntry := #[]
  deadLetters : Array DeadLetter := #[]
  departures : Array (Message × Departure) := #[]
  notices : Array (Nat × Notice) := #[]
  refusesConnections : Bool := false
  rejectsCredentials : Bool := false
  connectionAttempts : Nat := 0
  /-- Connections and channels are numbered together, from one. -/
  lastId : Nat := 0
  lastSerial : Nat := 0
  generatedTags : Nat := 0

namespace Broker

/-- The channel with that number, if it is open. -/
def openChannel? (b : Broker) (channel : Nat) : Option ChannelRecord :=
  match b.channels.get? channel with
  | some record => if record.isOpen then some record else none
  | none => none

/-- Whether the channel is open. -/
def channelOpen (b : Broker) (channel : Nat) : Bool := (b.openChannel? channel).isSome

/-- Whether the connection is open. -/
def connectionOpen (b : Broker) (connection : Nat) : Bool :=
  match b.connections.get? connection with
  | some record => record.isOpen
  | none => false

/-- How many messages wait in a queue. -/
def readyCount (b : Broker) (queue : String) : Nat :=
  match b.queues.get? queue with
  | some record => record.ready.length
  | none => 0

/-- How many consumers a queue has. -/
def consumerCount (b : Broker) (queue : String) : Nat :=
  match b.queues.get? queue with
  | some record => record.consumers.length
  | none => 0

/-- How many deliveries are unsettled on the open channels. -/
def unackedCount (b : Broker) : Nat :=
  (b.channels.values.filter (·.isOpen)).foldr
    (fun channel count => channel.unacked.length + count) 0

/-- How many connections are open. -/
def openConnectionCount (b : Broker) : Nat := (b.connections.values.filter (·.isOpen)).length

/-- Adds an entry to the journal. -/
def record (b : Broker) (channel : Nat) (action : ChannelAction) : Broker :=
  { b with journal := b.journal.push ⟨channel, action⟩ }

/-- Leaves a notice for a subscriber. -/
def notify (b : Broker) (subscriber : Nat) (notice : Notice) : Broker :=
  { b with notices := b.notices.push (subscriber, notice) }

/-- Changes a queue. -/
def updateQueue (b : Broker) (queue : String) (f : QueueRecord → QueueRecord) : Broker :=
  { b with queues := b.queues.modify queue f }

/-- Changes a channel. -/
def updateChannel (b : Broker) (channel : Nat) (f : ChannelRecord → ChannelRecord) : Broker :=
  { b with channels := b.channels.modify channel f }

end Broker

end QueueListener
