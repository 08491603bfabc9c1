import QueueListener.Container.Session
/-!
# The turns of a consumer

**A consumer receives, lets the listener work, and settles**, one delivery after the other, until
it is asked to stop or something fails. A turn is one step of this; its answer tells whether the
consumer goes on at once (`Turn`).
-/

namespace QueueListener.World

/-- A turn of a task: whether it goes on at once, and the world after it. -/
abbrev Turn := Bool × World

/-- The end of a turn of a task that goes on at once. -/
def goOn (w : World) : Turn := (true, w)

/-- The end of a turn of a task that waits. -/
def pause (w : World) : Turn := (false, w)

/-- Ends a consumer after an error in its session. -/
def fail (w : World) (id : Nat) (s : Session) (error : ClientError) : Turn :=
  (w.finish id (.error (w.classify s error))).pause

/-- After work that may have failed, the consumer is ready to receive again. -/
def proceed (w : World) (id : Nat) (s : Session) (work : WorldWork Unit) : Turn :=
  match work.run w with
  | (.ok (), w) => (w.setPhase id (.receiving none)).goOn
  | (.error error, w) => w.fail id s error

/-- What becomes of a delivery by the answer of the listener. -/
def outcomeOf (w : World) : Except ListenerError Unit → Outcome
  | .ok () => .success
  | .error error => .failure (error.requeue?.getD w.plan.settings.requeueRejected) error.isTransport

/-- Tells an error of the listener, unless the consumer was asked to stop. -/
def tellError (w : World) (c : Consumer) (delivery : Delivery) (error : ListenerError) : World :=
  if c.stopRequested || !w.plan.hasErrorHandler then w
  else { w with chronicle := { w.chronicle with
      errors := w.chronicle.errors.push
        (delivery.queue, delivery.consumerTag, delivery.tag, error.message) } }

/-- Asks the transaction of a delivery for an ending, and settles the delivery accordingly. -/
def concludeTransaction (id : Nat) (tag : Nat) (transaction : TransactionHandle) (ending : Ending)
    (requeue : Bool) : WorldWork Unit := do
  let observed ← modifyGet fun w =>
    let (observed, service) := w.service.conclude transaction tag ending
    (observed, { w with service })
  atDesk id fun post => Desk.conclude post tag ending requeue observed

/-- Settles a delivery by its outcome. -/
def settle (id : Nat) (s : Session) (tag : Nat) (outcome : Outcome)
    (transaction : Option TransactionHandle) : WorldWork Unit := do
  match transaction with
  | none => atDesk id fun post => Desk.settle post tag outcome
  | some handle =>
    let settings := (← get).plan.settings
    let situation : Situation :=
      { mode := settings.ackMode, transacted := settings.transacted, external := true, outcome
        deferred := s.deferred, batchSize := settings.batchSize }
    match situation.action with
    | .joinTransaction => concludeTransaction id tag handle .commit true
    | .rollbackTransaction requeue => concludeTransaction id tag handle .rollback requeue
    | action => atDesk id fun post => Desk.perform post tag action

/-- Counts an answer of the listener, and tells its error. -/
def recordAnswer (w : World) (c : Consumer) (work : Listening)
    (result : Except ListenerError Unit) : World :=
  let w := { w with metrics := w.metrics.addCall c.queue (w.now - work.since) }
  match result with
  | .ok () => w.count (.delivery c.queue .success)
  | .error error =>
    (w.count (.delivery c.queue .failed)).tellError c work.call.delivery error

/-- The bench on which the listener works for a consumer. -/
def bench (w : World) (s : Session) : Bench :=
  { client := w.client, channel := s.channel, calls := w.calls }

/-- Takes over what the listener did on its bench. -/
def putBench (w : World) (id : Nat) (delivery : Delivery) (bench : Bench) : World :=
  let notes := bench.notes.map fun note => (delivery.queue, delivery.consumerTag, w.now, note)
  let w := { w with
    client := bench.client
    calls := bench.calls
    chronicle := { w.chronicle with notes := w.chronicle.notes ++ notes } }
  (w.updateSession id fun s => { s with channel := bench.channel }).deliverNotices

/-- Lets the listener work until it sleeps or answers. -/
def listen (w : World) (id : Nat) (c : Consumer) (s : Session) (work : Listening) : Turn :=
  if w.reached work.resumeAt then
    let (progress, bench) := work.call.resume w.plan.listener (w.bench s)
    let w := w.putBench id work.call.delivery bench
    match progress with
    | .sleeping duration call =>
      let resumeAt := w.instant + duration
      let w := w.setPhase id (.listening { work with call, resumeAt })
      if duration = 0 then w.goOn else (w.setTimer (.consumer id) .deadline resumeAt).pause
    | .ended result =>
      (w.recordAnswer c work result).proceed id s
        (settle id s work.call.delivery.tag (w.outcomeOf result) work.transaction)
  else w.pause

/-- Calls the listener. -/
def call (w : World) (id : Nat) (delivery : Delivery) (transaction : Option TransactionHandle) :
    Turn :=
  (w.setPhase id (.listening ⟨.start delivery, w.now, w.instant, transaction⟩)).goOn

/-- Processes a delivery. -/
def process (w : World) (id : Nat) (s : Session) (delivery : Delivery) : Turn :=
  let w := w.updateConsumer id fun c =>
    { c with
      idleStreak := 0
      activeStreak := c.activeStreak + 1
      deliveries := c.deliveries + 1
      lastDelivery := w.now }
  let stopRequested := ((w.consumers.get? id).map (·.stopRequested)).getD false
  if stopRequested then
    w.proceed id s (atDesk id fun post => Desk.turnAway post delivery.tag)
  else if w.plan.hasManager then
    match w.service.begin with
    | (.ok handle, service) => { w with service }.call id delivery (some handle)
    | (.error _, service) =>
      { w with service }.proceed id s
        (atDesk id fun post => Desk.settle post delivery.tag (.failure true false))
  else w.call id delivery none

/-- Tells that a consumer has been idle, when it was for long enough. -/
def tellIdle (w : World) (id : Nat) (s : Session) (interval : Duration) : World :=
  match w.consumers.get? id with
  | none => w
  | some c =>
    let reference := max c.lastDelivery (c.lastIdleEvent.getD 0)
    if interval ≤ Duration.ofMillis (w.now - reference) then
      (w.updateConsumer id fun c => { c with lastIdleEvent := some w.now }).publish
        (.idle c.queue s.consumerTag (w.wallClock c.lastDelivery)
          (Duration.ofMillis (w.now - c.lastDelivery)))
    else w

/-- An empty receive: what is deferred is acknowledged. -/
def idle (w : World) (id : Nat) (s : Session) : Turn :=
  let w := w.updateConsumer id fun c =>
    { c with activeStreak := 0, idleStreak := c.idleStreak + 1 }
  w.proceed id s do
    atDesk id Desk.flush
    match (← get).plan.settings.idleEvent with
    | some interval => modify fun w => w.tellIdle id s interval
    | none => pure ()

/-- The length of one receive. -/
def cycle (settings : Settings) : Duration :=
  match settings.idleEvent with
  | some interval => min settings.receiveTimeout interval
  | none => settings.receiveTimeout

/-- Takes the next parcel out of a handoff. -/
def takeParcel (w : World) (id : Nat) (handoff : Handoff) (rest : List Parcel) : World :=
  { w with handoffs := w.handoffs.set id { handoff with inside := rest } }.wake (.feed id)

/-- Receives what the broker has pushed. -/
def receivePushed (w : World) (id : Nat) (s : Session) (deadline : Option Instant) : Turn :=
  match w.handoffs.get? id with
  | none => w.fail id s .channelClosed
  | some handoff =>
    match handoff.inside with
    | .delivery delivery :: rest =>
      ((w.takeParcel id handoff rest).cancelTimer (.consumer id) .deadline).process id s delivery
    | .cancelled :: rest =>
      (w.takeParcel id handoff rest).fail id s (.cancelled s.consumerTag)
    | .shutdown cause :: rest => (w.takeParcel id handoff rest).fail id s cause
    | [] =>
      if handoff.ended then w.fail id s .channelClosed
      else match deadline with
        | some deadline => if w.reached deadline then w.idle id s else w.pause
        | none =>
          let deadline := w.instant + cycle w.plan.settings
          ((w.setPhase id (.receiving (some deadline))).setTimer (.consumer id) .deadline
            deadline).pause

/-- Asks the broker for a message; on an empty queue the consumer waits, at most until the
deadline. -/
def receivePolled (w : World) (id : Nat) (c : Consumer) (s : Session) (interval : Duration)
    (deadline : Instant) : Turn :=
  let ask := request fun client => client.call .get
    (·.get s.channel.target c.queue w.plan.settings.ackMode.unacknowledged)
  match ask.run w with
  | (.error error, w) => w.fail id s error
  | (.ok (some delivery), w) => w.process id s delivery
  | (.ok none, w) =>
    if w.reached deadline then w.idle id s
    else
      let wake := min (w.instant + interval) deadline
      ((w.setPhase id (.polling deadline wake)).setTimer (.consumer id) .deadline wake).pause

/-- Ends the session of a consumer that was asked to stop. -/
def stopReceiving (w : World) (id : Nat) (s : Session) : Turn :=
  let (result, w) := (closeSession id s).run (w.cancelTimer (.consumer id) .deadline)
  (w.finish id result).pause

/-- A turn of a consumer in its session. -/
def receive (w : World) (id : Nat) (c : Consumer) (s : Session) : Turn :=
  match c.phase with
  | .receiving deadline =>
    if c.stopRequested then w.stopReceiving id s
    else match w.plan.settings.reception with
      | .push => w.receivePushed id s deadline
      | .poll interval =>
        w.receivePolled id c s interval (w.instant + cycle w.plan.settings)
  | .polling deadline wake =>
    if c.stopRequested then w.stopReceiving id s
    else match w.plan.settings.reception with
      | .push => w.pause
      | .poll interval =>
        if w.reached wake then w.receivePolled id c s interval deadline else w.pause
  | .listening work => w.listen id c s work
  | .opening => w.pause
  | .finished => w.pause

/-- A turn of a consumer. -/
def consumerTurn (w : World) (id : Nat) : Turn :=
  match w.consumers.get? id with
  | none => w.pause
  | some c =>
    match c.phase, c.session with
    | .opening, _ =>
      match (openSession id c).run w with
      | (.ok (), w) => w.goOn
      | (.error error, w) => (w.finish id (.error error)).pause
    | .finished, _ => w.pause
    | _, some s => w.receive id c s
    | _, none => w.pause

/-- A turn of the feed of a handoff. -/
def feedTurn (w : World) (id : Nat) : Turn :=
  match w.handoffs.get? id with
  | none => w.pause
  | some handoff =>
    let (step, handoff) := handoff.feed
    let w := { w with handoffs := w.handoffs.set id handoff }
    match step with
    | .moved => (w.wake (.consumer id)).goOn
    | .ended => (w.wake (.consumer id)).pause
    | .waits => w.pause

end QueueListener.World
