import QueueListener.Container.Monitor
/-!
# The calls of a container

**Calls that take no time** answer at once (`World.start`, `World.addQueues`, `World.setBounds`).
**Calls that take time** are errands: `World.errandTurn` is a turn of one of them.

* a stop begins a shutdown, unless another call does it already, and then waits for the monitor and
  for the end of every other shutdown;
* a removal waits for the consumers of the removed queues;
* a container that is given up while calls are under way ends with the last of them.
-/

namespace QueueListener.World

/-- Starts the container. -/
def start (w : World) : Except Refusal Unit × World :=
  match w.registry.start w.plan.hasManager with
  | .error refusal => (.error refusal, w)
  | .ok none => (.ok (), w)
  | .ok (some registry) =>
    let run := w.monitors.size
    let w := { w with registry, monitors := w.monitors.push {}, joinable := some run }
    let w := (w.wake (.monitor run)).wakeObservers
    (.ok (), (w.publish .containerStarted).converge)

/-- Takes over a registry that a call has changed. -/
def adopt (w : World) : Except Refusal Registry → Except Refusal Unit × World
  | .error refusal => (.error refusal, w)
  | .ok registry => (.ok (), { w with registry }.converge)

/-- Adds queues. -/
def addQueues (w : World) (names : List String) : Except Refusal Unit × World :=
  w.adopt (w.registry.add names)

/-- Changes the bounds on the number of consumers. -/
def setBounds (w : World) (bounds : Bounds) : Except Refusal Unit × World :=
  w.adopt (w.registry.setBounds bounds)

/-- Whether a call is under way. -/
def hasCalls (w : World) : Bool := w.errands.any fun errand => errand.isCall && !errand.isDone

/-- Lets the monitor and the consumers of a container that was given up end, once no call is under
way. -/
def letGo (w : World) : World :=
  if w.abandoned && !w.hasCalls && w.registry.state = .running then
    let run := w.monitors.size - 1
    let w := (w.updateMonitor run fun m => { m with stopRequested := true }).wake (.monitor run)
    w.registry.allConsumers.foldl requestStop w
  else w

/-- Gives the container up. -/
def abandon (w : World) : World := { w with abandoned := true }.letGo

/-- Sets how far an errand has got. -/
def setErrandPhase (w : World) (number : Nat) (phase : ErrandPhase) : World :=
  { w with errands := w.errands.modify number fun errand => { errand with phase } }

/-- The tasks that wait for the end of an errand. -/
def waitersForErrand (w : World) (number : Nat) : List Task :=
  let monitors := (List.range w.monitors.size).filter fun run =>
    match (w.monitors[run]?).map Monitor.phase with
    | some (MonitorPhase.closing _ closing) => closing.errands.contains number
    | _ => false
  let errands := w.errandsWith fun errand =>
    match errand.phase with
    | .closing closing => closing.errands.contains number
    | _ => false
  errands ++ monitors.map .monitor

/-- Ends an errand. -/
def endErrand (w : World) (number : Nat) (errand : Errand) (answer : Bool) : Turn :=
  let w := (w.setErrandPhase number (.done answer)).cancelTimer (.errand number) .deadline
  let w := if errand.recorded then
      { w with chronicle := { w.chronicle with
          ended := w.chronicle.ended.push (errand.kind, w.now) } }
    else w
  { w with agenda := w.agenda.wakeAll (w.waitersForErrand number) }.letGo.pause

/-- Lets an errand wait for consumers to end. -/
def awaitClosing (w : World) (number : Nat) (closing : Closing) : Turn :=
  ((w.setErrandPhase number (.closing closing)).setTimer (.errand number) .deadline
    closing.deadline).goOn

/-- A stop waits for the monitor, if nobody else does. -/
def joinMonitor (w : World) (number : Nat) : Turn :=
  match w.joinable with
  | some run => ({ w with joinable := none }.setErrandPhase number (.joining run)).goOn
  | none => (w.setErrandPhase number .settling).goOn

/-- The beginning of an errand. -/
def beginErrand (w : World) (number : Nat) (errand : Errand) : Turn :=
  match errand.kind with
  | .retire id =>
    let (closing, w) := w.beginClosing [id] []
    w.awaitClosing number closing
  | .remove names =>
    let (registry, removed, ids) := w.registry.remove names
    let (closing, w) := ({ w with registry }.clearGauges removed).beginClosing ids []
    w.awaitClosing number closing
  | .stop =>
    match w.beginShutdown with
    | some (closing, w) => w.awaitClosing number closing
    | none => w.joinMonitor number
  | .await _ deadline =>
    ((w.setErrandPhase number .settling).setTimer (.errand number) .deadline deadline).goOn

/-- After the consumers that an errand waited for have ended. -/
def afterClosing (w : World) (number : Nat) (errand : Errand) : Turn :=
  match errand.kind with
  | .stop =>
    ((w.cancelTimer (.errand number) .deadline).finishShutdown none).joinMonitor number
  | _ => w.endErrand number errand true

/-- An errand that waits for a state. -/
def awaitState (w : World) (number : Nat) (errand : Errand) : Turn :=
  match errand.kind with
  | .await target deadline =>
    if w.registry.state = target then w.endErrand number errand true
    else if w.reached deadline then w.endErrand number errand false
    else w.pause
  | _ => if w.registry.state = .stopping then w.pause else w.endErrand number errand true

/-- Whether the monitor of a run has ended. -/
def monitorEnded (w : World) (run : Nat) : Bool :=
  match w.monitors[run]? with
  | some m => m.phase = .finished
  | none => true

/-- A turn of an errand. -/
def errandTurn (w : World) (number : Nat) : Turn :=
  match w.errands[number]? with
  | none => w.pause
  | some errand =>
    match errand.phase with
    | .begin => w.beginErrand number errand
    | .closing closing =>
      let (closing, w) := w.advanceClosing closing
      if closing.isOver then w.afterClosing number errand
      else (w.setErrandPhase number (.closing closing)).pause
    | .joining run =>
      if w.monitorEnded run then (w.setErrandPhase number .settling).goOn else w.pause
    | .settling => w.awaitState number errand
    | .done _ => w.pause

end QueueListener.World
