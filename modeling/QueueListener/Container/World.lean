import QueueListener.Consumer.Desk
import QueueListener.Consumer.Handoff
import QueueListener.Container.Agenda
import QueueListener.Container.Registry
import QueueListener.Event
import QueueListener.Health
import QueueListener.Listener.Call
/-!
# The world of a container

**A world is a container with everything it works with**: the broker behind a client, the
consumers, the monitor that looks after them, the calls that are under way, and a clock. It is one
value; the other modules of the container are the turns of its tasks.

* `World.request`, `World.atDesk` — work of a consumer that can end with a client error;
* `World.publish`, `World.report` — what is told to listeners of events, and to the monitor;
* `World.snapshot` — the container as it is shown to others.
-/

namespace QueueListener

/-- How the consumer tags are chosen. -/
inductive TagRule
  /-- The queue and a number, counted over all consumers. -/
  | numbered
  | same
  /-- The broker chooses. -/
  | byBroker
  deriving DecidableEq, Repr

/-- How missing queues are looked for. -/
inductive Declarer
  /-- Looks whether the broker has the queue. -/
  | check
  /-- Creates the queue. -/
  | create
  | fail
  | never
  deriving DecidableEq, Repr

/-- What a container is built with. -/
structure Plan where
  settings : Settings
  listener : Listener := {}
  /-- Whether missing queues are looked for; otherwise a new consumer finds out. -/
  hasDeclarer : Bool := false
  /-- Whether deliveries are processed in external transactions. -/
  hasManager : Bool := false
  tags : TagRule := .numbered
  /-- Whether somebody hears the events. -/
  hasSink : Bool := true
  /-- Whether somebody hears the errors of the listener. -/
  hasErrorHandler : Bool := true
  /-- The calendar time at the start of the clock. -/
  epoch : Timestamp := 1704067200000

/-- A consumer with its channel open. -/
structure Session where
  channel : ManagedChannel
  connection : Nat
  consumerTag : String
  /-- How many successes are not yet acknowledged. -/
  deferred : Nat := 0
  lastDeferred : Option Nat := none
  deriving DecidableEq

/-- A delivery at the listener. -/
structure Listening where
  call : Call
  /-- When the listener was called. -/
  since : Nat
  /-- When a call that sleeps goes on. -/
  resumeAt : Instant
  transaction : Option TransactionHandle
  deriving DecidableEq

/-- What a consumer is doing. -/
inductive Phase
  | opening
  /-- Ready to receive; with a deadline when it waits already. -/
  | receiving (deadline : Option Instant)
  /-- Waiting to ask the broker again. -/
  | polling (deadline wake : Instant)
  | listening (work : Listening)
  | finished
  deriving DecidableEq

/-- A consumer. -/
structure Consumer where
  queue : String
  /-- The run of the container that started it. -/
  run : Nat
  startedAt : Nat
  state : ConsumerState := .starting
  phase : Phase := .opening
  tag : Option String := none
  /-- The channel that is to be closed at the end. -/
  channel : Option ManagedChannel := none
  session : Option Session := none
  stopRequested : Bool := false
  idleStreak : UInt32 := 0
  activeStreak : UInt32 := 0
  deliveries : Nat := 0
  shownDeferred : Nat := 0
  lastDelivery : Nat
  lastIdleEvent : Option Nat := none

/-- What a consumer reports to the monitor. -/
inductive Report
  | consumeOk (queue : String)
  | failed (id : Nat) (queue : String) (error : ClientError)
  | terminated (id : Nat) (queue : String)
  deriving DecidableEq

/-- Consumers that are asked to stop, until the deadline, and errands that have to end too. -/
structure Closing where
  consumers : List Nat
  deadline : Instant
  errands : List Nat := []
  deriving DecidableEq

/-- Whether everything has ended. -/
def Closing.isOver (closing : Closing) : Bool :=
  closing.consumers.isEmpty && closing.errands.isEmpty

/-- What a monitor is doing. -/
inductive MonitorPhase
  | starting
  | looping
  /-- Waiting for the next recovery deadline, once its timer is set. -/
  | waiting (deadline : Option Instant) (armed : Bool)
  /-- Stopping the container for a reason. -/
  | closing (reason : String) (closing : Closing)
  | finished
  deriving DecidableEq

/-- A monitor. -/
structure Monitor where
  phase : MonitorPhase := .starting
  nextTick : Instant := 0
  stopRequested : Bool := false
  reports : List Report := []
  deriving DecidableEq

/-- Whether the monitor waits for the end of a consumer. -/
def Monitor.waitsFor (m : Monitor) (id : Nat) : Bool :=
  match m.phase with
  | .closing _ closing => closing.consumers.contains id
  | _ => false

/-- The calls that take time. -/
inductive ErrandKind
  /-- Stops a consumer in the background. -/
  | retire (id : Nat)
  | remove (queues : List String)
  | stop
  /-- Waits for a state, or until the deadline. -/
  | await (target : ContainerState) (deadline : Instant)
  deriving DecidableEq, Repr

/-- How far an errand has got. -/
inductive ErrandPhase
  | begin
  | closing (closing : Closing)
  /-- Waiting for the monitor of a run. -/
  | joining (run : Nat)
  /-- Waiting until nobody else is stopping the container. -/
  | settling
  /-- Over, with the answer. -/
  | done (answer : Bool)
  deriving DecidableEq

/-- An errand. -/
structure Errand where
  kind : ErrandKind
  phase : ErrandPhase := .begin
  /-- Whether its end is put on record. -/
  recorded : Bool := false
  deriving DecidableEq

namespace Errand

/-- Whether the errand is over. -/
def isDone (errand : Errand) : Bool :=
  match errand.phase with
  | .done _ => true
  | _ => false

/-- Whether the errand waits for the end of a consumer. -/
def waitsFor (errand : Errand) (id : Nat) : Bool :=
  match errand.phase with
  | .closing closing => closing.consumers.contains id
  | _ => false

/-- Whether the errand is a call from outside. -/
def isCall (errand : Errand) : Bool :=
  match errand.kind with
  | .remove _ => true
  | .stop => true
  | .retire _ => false
  | .await .. => false

end Errand

/-- What was heard from the container. Times are in milliseconds. -/
structure Chronicle where
  events : Array (Nat × Event) := #[]
  /-- Notes of listener calls, under queue and consumer tag of the delivery. -/
  notes : Array (String × String × Nat × Note) := #[]
  /-- When a queue was looked for. -/
  declarations : Array (Nat × String) := #[]
  /-- Errors of the listener, under queue, consumer tag and delivery tag. -/
  errors : Array (String × String × Nat × String) := #[]
  /-- Errands that are over. -/
  ended : Array (ErrandKind × Nat) := #[]

/-- A container with everything it works with. -/
structure World where
  plan : Plan
  /-- The time in milliseconds. -/
  now : Nat := 0
  client : Client := {}
  metrics : Metrics := {}
  declarer : Declarer := .check
  service : TransactionService Nat := {}
  /-- The connection that consumers share. -/
  shared : Option Nat := none
  /-- How many consumer tags were chosen. -/
  tagsChosen : Nat := 0
  /-- How many calls of the listener were made. -/
  calls : Nat := 0
  registry : Registry
  consumers : Table Nat Consumer := .empty
  handoffs : Table Nat Handoff := .empty
  /-- The monitors, by run. -/
  monitors : Array Monitor := #[]
  /-- The run whose monitor a stop has to wait for. -/
  joinable : Option Nat := none
  errands : Array Errand := #[]
  /-- The errands that retire consumers. -/
  retiring : List Nat := []
  /-- Whether the container was given up. -/
  abandoned : Bool := false
  agenda : Agenda := {}
  chronicle : Chronicle := {}

namespace World

/-- A world at its beginning. -/
def new (plan : Plan) (client : Client) : World := { plan, client, registry := .new plan.settings }

/-- The present instant. -/
def instant (w : World) : Instant := Instant.ofMillis w.now

/-- Whether an instant has come. -/
def reached (w : World) (t : Instant) : Bool := t ≤ w.instant

/-- The present calendar time. -/
def wallClock (w : World) (millis : Nat) : Timestamp := w.plan.epoch + millis

/-- The millisecond at which a timer for an instant fires. -/
def dueMillis (t : Instant) : Nat := Duration.wholeMillis t.toNat

/-- Gives a task a turn. -/
def wake (w : World) (task : Task) : World := { w with agenda := w.agenda.wake task }

/-- Sets a timer of a task. -/
def setTimer (w : World) (task : Task) (slot : TimerSlot) (t : Instant) : World :=
  { w with agenda := w.agenda.setTimer task slot (dueMillis t) }

/-- Stops a timer of a task. -/
def cancelTimer (w : World) (task : Task) (slot : TimerSlot) : World :=
  { w with agenda := w.agenda.cancelTimer task slot }

/-- Changes a consumer. -/
def updateConsumer (w : World) (id : Nat) (f : Consumer → Consumer) : World :=
  { w with consumers := w.consumers.modify id f }

/-- Changes the session of a consumer. -/
def updateSession (w : World) (id : Nat) (f : Session → Session) : World :=
  w.updateConsumer id fun c => { c with session := c.session.map f }

/-- Sets what a consumer is doing. -/
def setPhase (w : World) (id : Nat) (phase : Phase) : World :=
  w.updateConsumer id fun c => { c with phase }

/-- Tells an event. -/
def publish (w : World) (event : Event) : World :=
  if w.plan.hasSink then
    { w with chronicle := { w.chronicle with
        events := w.chronicle.events.push (w.now, event) } }
  else w

/-- Reports to the monitor of a run. -/
def report (w : World) (run : Nat) (report : Report) : World :=
  { w with monitors := w.monitors.modify run fun m =>
      { m with reports := m.reports ++ [report] } }.wake (.monitor run)

/-- Counts something. -/
def count (w : World) (counted : Counted) : World :=
  { w with metrics := w.metrics.increment counted }

/-- Brings one notice of the broker to the handoff of its subscriber. -/
def deliverNotice (w : World) (notice : Nat × Notice) : World :=
  if w.handoffs.contains notice.1 then
    { w with handoffs := w.handoffs.modify notice.1 fun h =>
        { h with outside := h.outside ++ [notice.2] } }.wake (.feed notice.1)
  else w

/-- Brings the notices of the broker to the handoffs. -/
def deliverNotices (w : World) : World :=
  let (notices, broker) := w.client.broker.collectNotices
  notices.foldl deliverNotice { w with client := { w.client with broker } }

/-- Changes the broker by an operation from outside. -/
def atBroker {α : Type} (w : World) (f : Broker → α × Broker) : α × World :=
  let (a, broker) := f w.client.broker
  (a, { w with client := { w.client with broker } }.deliverNotices)

end World

/-- Work in a world; it can end with a client error. -/
abbrev WorldWork (α : Type) := ExceptT ClientError (StateM World) α

namespace World

/-- Work that is one operation of the client. -/
def request {α : Type} (f : Client → Except ClientError α × Client) : WorldWork α :=
  ExceptT.mk fun w =>
    let (result, client) := f w.client
    (result, { w with client }.deliverNotices)

/-- The desk of a consumer in its session. -/
def desk (w : World) (c : Consumer) (s : Session) : Desk :=
  { client := w.client, metrics := w.metrics, deferred := s.deferred
    lastDeferred := s.lastDeferred, shownDeferred := c.shownDeferred }

/-- What stays the same for a consumer. -/
def post (w : World) (c : Consumer) (s : Session) : Post :=
  { settings := w.plan.settings, queue := c.queue, channel := s.channel.target }

/-- Puts a desk back into the world. -/
def putDesk (w : World) (id : Nat) (desk : Desk) : World :=
  let w := { w with client := desk.client, metrics := desk.metrics }
  let w := w.updateConsumer id fun c => { c with shownDeferred := desk.shownDeferred }
  (w.updateSession id fun s =>
    { s with deferred := desk.deferred, lastDeferred := desk.lastDeferred }).deliverNotices

/-- Lets a consumer work at its desk. -/
def atDesk (id : Nat) (work : Post → DeskWork Unit) : WorldWork Unit :=
  ExceptT.mk fun w =>
    match w.consumers.get? id with
    | none => (.ok (), w)
    | some c =>
      match c.session with
      | none => (.ok (), w)
      | some s =>
        let (result, desk) := (work (w.post c s)).run (w.desk c s)
        (result, w.putDesk id desk)

/-- Closes the channel of a consumer on its behalf. -/
def releaseChannel (w : World) (id : Nat) : Except ClientError Unit × World :=
  match (w.consumers.get? id).bind (·.channel) with
  | none => (.ok (), w)
  | some channel =>
    let (result, _, client) := channel.release w.client
    let w := { w with client }.updateConsumer id fun c => { c with channel := none }
    (result, w.deliverNotices)

/-- What the scaling sees of a consumer. -/
def sample (w : World) (id : Nat) : Sample :=
  match w.consumers.get? id with
  | some c => ⟨id, Instant.ofMillis c.startedAt, c.idleStreak.toNat, c.activeStreak.toNat⟩
  | none => ⟨id, 0, 0, 0⟩

/-- A consumer as it is shown to others. -/
def consumerView (w : World) (id : Nat) : Option ConsumerView :=
  (w.consumers.get? id).map fun c =>
    { queue := c.queue, consumerTag := c.tag, state := c.state
      startedAt := w.wallClock c.startedAt, deliveries := c.deliveries
      idleStreak := c.idleStreak.toNat, activeStreak := c.activeStreak.toNat
      deferredAcks := c.shownDeferred }

/-- A queue as it is shown to others. -/
def queueView (w : World) (queue : String) : QueueView :=
  { name := queue, state := w.registry.supervisor.state? queue
    consumers := (w.registry.consumersOf queue).filterMap w.consumerView }

/-- The container as it is shown to others. -/
def snapshot (w : World) : Snapshot :=
  { state := w.registry.state, least := w.registry.bounds.least, most := w.registry.bounds.most
    queues := w.registry.queues.map w.queueView }

/-- How many registered consumers are active. -/
def activeCount (w : World) : Nat :=
  ((w.registry.allConsumers.filterMap w.consumerView).filter (·.state = .active)).length

end World

end QueueListener
