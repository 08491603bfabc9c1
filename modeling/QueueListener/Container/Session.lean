import QueueListener.Container.World
/-!
# Opening and ending a consumer

**A consumer opens its own channel on the connection that all share.**

* `World.connection` — the shared connection, opened anew when it is lost;
* `World.openSession` — channel, prefetch, consumer tag and registration at the broker;
* `World.closeSession` — the graceful end: what was handed over and not processed is given back;
* `World.finish` — the end of a consumer in any case: its channel closes, and then its last event
  tells how it ended.
-/

namespace QueueListener.World

/-- The shared connection. A new one takes the place of one that is closed. -/
def connection : WorldWork Nat := do
  let w ← get
  match w.shared.filter w.client.broker.connectionOpen with
  | some connection => return connection
  | none =>
    let connection ← request fun client => client.call .connect (·.connect)
    modify fun w => { w with shared := some connection }
    return connection

/-- Closes the shared connection, if there is one. -/
def closeConnection (w : World) : World :=
  match w.shared with
  | none => w
  | some connection =>
    let (_, client) := w.client.closeConnection connection
    { w with client, shared := none }.deliverNotices

/-- Opens a channel for a consumer. -/
def openChannel (id connection : Nat) : WorldWork ManagedChannel := do
  let transactional := (← get).plan.settings.transacted
  let target ← request fun client =>
    client.call .createChannel (·.createChannel connection transactional)
  let record := (← get).client.broker.channels.get? target
  let number := (record.map (·.number)).getD 0
  let channel : ManagedChannel := { target, number, transactional }
  modify fun w => w.updateConsumer id fun c => { c with channel := some channel }
  return channel

/-- The consumer tag that is asked for; an empty one leaves the choice to the broker. -/
def requestedTag (queue : String) : WorldWork String := do
  match (← get).plan.tags with
  | .byBroker => return ""
  | .same => return "same"
  | .numbered =>
    let number := (← get).tagsChosen + 1
    modify fun w => { w with tagsChosen := number }
    return queue ++ "#" ++ toString number

/-- Registers a consumer to which the broker pushes; gives its tag. -/
def subscribe (id : Nat) (queue requested : String) (channel : ManagedChannel) :
    WorldWork String := do
  let settings := (← get).plan.settings
  modify fun w => { w with handoffs := w.handoffs.set id { capacity := max settings.prefetch 1 } }
  let tag ← request fun client => client.call .consume
    (·.consume channel.target queue requested settings.ackMode.unacknowledged id)
  modify fun w => w.wake (.feed id)
  return tag

/-- The tag of a consumer that asks for its messages. -/
def pollingTag (queue requested : String) : WorldWork String := do
  if requested.isEmpty then
    let number := (← get).tagsChosen + 1
    modify fun w => { w with tagsChosen := number }
    return Text.generatedName queue number
  else return requested

/-- Begins the session of a consumer, and tells so. -/
def beginSession (w : World) (id run : Nat) (queue : String) (session : Session) : World :=
  let w := w.updateConsumer id fun c =>
    { c with
      session := some session
      tag := some session.consumerTag
      state := .active
      phase := .receiving none
      lastDelivery := w.now }
  (w.publish (.consumeOk queue session.consumerTag)).report run (.consumeOk queue)

/-- Opens the session of a consumer. -/
def openSession (id : Nat) (c : Consumer) : WorldWork Unit := do
  let settings := (← get).plan.settings
  let connection ← connection
  let channel ← openChannel id connection
  request fun client => client.call .setPrefetch (·.setPrefetch channel.target settings.prefetch)
  let requested ← requestedTag c.queue
  let consumerTag ← match settings.reception with
    | .push => subscribe id c.queue requested channel
    | .poll _ => pollingTag c.queue requested
  modify fun w => w.beginSession id c.run c.queue { channel, connection, consumerTag }

/-- Asks the broker to push nothing more; a refusal does not matter. -/
def cancelSubscription (w : World) (s : Session) : World :=
  match w.plan.settings.reception with
  | .poll _ => w
  | .push =>
    let (_, client) := w.client.call .cancel (·.cancel s.channel.target s.consumerTag)
    { w with client }.deliverNotices

/-- Empties the handoff of a consumer and closes it. -/
def drainHandoff (w : World) (id : Nat) : List Delivery × World :=
  match w.handoffs.get? id with
  | none => ([], w)
  | some handoff =>
    let (deliveries, handoff) := handoff.drain
    (deliveries, { w with handoffs := w.handoffs.set id handoff }.wake (.feed id))

/-- Ends the session of a consumer that was asked to stop. -/
def closeSession (id : Nat) (s : Session) : WorldWork Unit := do
  modify fun w =>
    (w.updateConsumer id fun c => { c with state := .cancelling }).cancelSubscription s
  atDesk id Desk.flush
  let deliveries ← modifyGet fun w => w.drainHandoff id
  for delivery in deliveries do
    atDesk id fun post => Desk.turnAway post delivery.tag
  ExceptT.mk fun w => w.releaseChannel id

/-- The tasks that wait for the end of a consumer. -/
def waitersFor (w : World) (id : Nat) : List Task :=
  let errands := (List.range w.errands.size).filter fun number =>
    (w.errands[number]?).any (·.waitsFor id)
  let monitors := (List.range w.monitors.size).filter fun run =>
    (w.monitors[run]?).any (·.waitsFor id)
  errands.map .errand ++ monitors.map .monitor

/-- Takes a consumer out of the schedule. -/
def retireTask (w : World) (id : Nat) : World :=
  let w := (w.cancelTimer (.consumer id) .deadline).setPhase id .finished
  { w with handoffs := w.handoffs.erase id, agenda := w.agenda.wakeAll (w.waitersFor id) }

/-- Tells that a consumer has failed. -/
def tellFailure (w : World) (id : Nat) (c : Consumer) (error : ClientError) : World :=
  let w := (w.updateConsumer id fun c => { c with state := .failed }).count
    (.consumerFailure c.queue error.kind)
  (w.publish (.consumerFailed c.queue c.tag error.kind error.message)).report c.run
    (.failed id c.queue error)

/-- Tells that a consumer has terminated. -/
def tellTermination (w : World) (id : Nat) (c : Consumer) : World :=
  let w := w.updateConsumer id fun c => { c with state := .terminated }
  (w.publish (.consumerTerminated c.queue c.tag)).report c.run (.terminated id c.queue)

/-- Ends a consumer. An error counts as a failure, unless the consumer was asked to stop. -/
def finish (w : World) (id : Nat) (result : Except ClientError Unit) : World :=
  let w := (w.releaseChannel id).2
  match w.consumers.get? id with
  | none => w
  | some c =>
    let w := match result, c.stopRequested with
      | .error error, false => w.tellFailure id c error
      | _, _ => w.tellTermination id c
    w.retireTask id

/-- Ends a consumer that did not stop in time. -/
def forceClose (w : World) (id : Nat) : World :=
  let w := (w.releaseChannel id).2
  match w.consumers.get? id with
  | none => w
  | some c =>
    let w := w.updateConsumer id fun c => { c with state := .terminated }
    let w := if c.state = .terminated then w else w.publish (.consumerTerminated c.queue c.tag)
    w.retireTask id

/-- A failure of the channel is a failure of the connection when the connection is lost. -/
def classify (w : World) (s : Session) (error : ClientError) : ClientError :=
  if error.kind = .channel &&
      !(w.shared = some s.connection && w.client.broker.connectionOpen s.connection) then
    .connection ("connection lost: " ++ error.message)
  else error

end QueueListener.World
