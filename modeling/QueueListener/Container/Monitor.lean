import QueueListener.Container.Closing
/-!
# The turns of a monitor

**The monitor hears the reports of the consumers, keeps the deadlines of the recovery, and looks at
all queues at intervals**, in this order of precedence. A request to stop comes before everything.

* `World.handleReport` — what follows from a report;
* `World.redeclare` — looks for the missing queues whose time has come;
* `World.lookAround` — the look at all queues.

A monitor that cannot form an instant ends; the container runs on without it.
-/

namespace QueueListener.World

/-- Changes a monitor. -/
def updateMonitor (w : World) (run : Nat) (f : Monitor → Monitor) : World :=
  { w with monitors := w.monitors.modify run f }

/-- Sets what a monitor is doing. -/
def setMonitorPhase (w : World) (run : Nat) (phase : MonitorPhase) : World :=
  w.updateMonitor run fun m => { m with phase }

/-- Whether an errand waits for the monitor of a run. -/
def joins (run : Nat) (errand : Errand) : Bool :=
  match errand.phase with
  | .joining other => other = run
  | _ => false

/-- Ends a monitor. -/
def endMonitor (w : World) (run : Nat) : Turn :=
  let w := (w.setMonitorPhase run .finished).cancelTimer (.monitor run) .deadline
  let w := w.cancelTimer (.monitor run) .period
  { w with agenda := w.agenda.wakeAll (w.errandsWith (joins run)) }.pause

/-- After something was done: the loop goes on, unless the monitor was asked to stop. -/
def loopAgain (w : World) (run : Nat) : Turn :=
  if (w.monitors[run]?).any (·.stopRequested) then w.endMonitor run
  else (w.setMonitorPhase run .looping).goOn

/-- Looks for a queue; tells whether it exists now. -/
def declare (w : World) (queue : String) : Bool × World :=
  if w.plan.hasDeclarer then
    let w := { w with chronicle := { w.chronicle with
        declarations := w.chronicle.declarations.push (w.now, queue) } }
    match w.declarer with
    | .check => (w.client.broker.queues.contains queue, w)
    | .create =>
      let (_, w) := w.atBroker fun broker => broker.declare queue
      (true, w)
    | .fail => (false, w)
    | .never => (false, w)
  else (true, w)

/-- Looks for one queue, and hears whether its consumers may start again. -/
def redeclareQueue (acc : Bool × World) (queue : String) : Bool × World :=
  let (found, w) := acc.2.declare queue
  let (resumed, supervisor) := w.registry.supervisor.declarationResult queue found
  let w := { w with registry := { w.registry with supervisor } }
  if resumed then
    (true, if w.plan.hasDeclarer then w.publish (.queueRecovered queue) else w)
  else (acc.1, w)

/-- Looks for the missing queues whose time has come. -/
def redeclare (w : World) : Except TimeFault World :=
  if w.registry.state = .running then do
    let (due, supervisor) ← w.registry.supervisor.takeDue w.instant
    let w := { w with registry := { w.registry with supervisor } }
    let (recovered, w) := due.foldl redeclareQueue (false, w)
    return if recovered then w.converge else w
  else return w

/-- Shows how many consumers are registered. -/
def showCounts (w : World) : World :=
  let put (m : Metrics) (entry : String × Nat) : Metrics := m.setConsumers entry.1 entry.2
  { w with metrics := w.registry.consumerCounts.foldl put w.metrics }

/-- One look at all queues. -/
def lookAround (w : World) : Except TimeFault World :=
  if w.registry.state = .running then
    let (registry, changes) := w.registry.tick w.sample w.instant
    ({ w with registry }.apply changes).showCounts.redeclare
  else return w

/-- A deadline of the recovery has come. -/
def recover (w : World) : Except TimeFault World := do
  return (← w.redeclare).converge

/-- Goes on after something that may have ended the monitor. -/
def loopUnless (w : World) (run : Nat) : Except TimeFault World → Turn
  | .ok w => w.loopAgain run
  | .error _ => w.endMonitor run

/-- Pauses the consumers of a queue. -/
def pauseQueue (w : World) (queue : String) : World :=
  let ids := w.registry.consumersOf queue
  let w := { w with registry := w.registry.dropConsumers queue }
  ids.foldl retire (w.publish (.queueMissing queue))

/-- Stops the container because it cannot go on. -/
def giveUp (w : World) (run : Nat) (reason : String) : Turn :=
  match w.beginShutdown with
  | none => w.loopAgain run
  | some (closing, w) =>
    ((w.setMonitorPhase run (.closing reason closing)).setTimer (.monitor run) .deadline
      closing.deadline).goOn

/-- Carries out what the supervisor asks for. -/
def applyAction (w : World) (run : Nat) : RecoveryAction → Turn
  | .restart _ => w.loopAgain run
  | .pause queue => (w.pauseQueue queue).loopAgain run
  | .scheduleRetry .. => w.loopAgain run
  | .awaitRound => w.loopAgain run
  | .fatal reason => w.giveUp run reason

/-- What follows from a report. -/
def handleReport (w : World) (run : Nat) : Report → Turn
  | .consumeOk queue =>
    let supervisor := w.registry.supervisor.consumeOk queue
    { w with registry := { w.registry with supervisor } }.loopAgain run
  | .terminated id queue =>
    { w with registry := w.registry.removeConsumer queue id }.loopAgain run
  | .failed id queue error =>
    let (action, registry) := w.registry.consumerFailed queue id error w.instant
    let w := { w with registry }
    match action with
    | none => w.loopAgain run
    | some (.error _) => w.endMonitor run
    | some (.ok action) => w.applyAction run action

/-- Sets the periodic timer. -/
def schedule (w : World) (run : Nat) (nextTick : Instant) : World :=
  (w.updateMonitor run fun m => { m with nextTick }).setTimer (.monitor run) .period nextTick

/-- A turn of a monitor that waits. -/
def watch (w : World) (run : Nat) (m : Monitor) (deadline : Option Instant) (armed : Bool) : Turn :=
  if m.stopRequested then w.endMonitor run
  else match m.reports with
    | report :: rest =>
      (w.updateMonitor run fun m => { m with reports := rest }).handleReport run report
    | [] =>
      if deadline.any w.reached then w.loopUnless run w.recover
      else if w.reached m.nextTick then
        let w := w.schedule run (m.nextTick + w.plan.settings.monitorInterval)
        w.loopUnless run w.lookAround
      else match deadline, armed with
        | some t, false =>
          let w := w.setMonitorPhase run (.waiting deadline true)
          (w.setTimer (.monitor run) .deadline t).pause
        | _, _ => w.pause

/-- A turn of a monitor. -/
def monitorTurn (w : World) (run : Nat) : Turn :=
  match w.monitors[run]? with
  | none => w.pause
  | some m =>
    match m.phase with
    | .starting =>
      ((w.schedule run (w.instant + w.plan.settings.monitorInterval)).setMonitorPhase run
        .looping).goOn
    | .looping =>
      let deadline := w.registry.supervisor.nextDeadline?
      ((w.cancelTimer (.monitor run) .deadline).setMonitorPhase run (.waiting deadline false)).goOn
    | .waiting deadline armed => w.watch run m deadline armed
    | .closing reason closing =>
      let (closing, w) := w.advanceClosing closing
      if closing.isOver then (w.finishShutdown (some reason)).loopAgain run
      else (w.setMonitorPhase run (.closing reason closing)).pause
    | .finished => w.pause

end QueueListener.World
