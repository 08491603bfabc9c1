import QueueListener.Container.Consume
/-!
# Starting and stopping consumers

**Consumers that are asked to stop have until a deadline**; the channels of those that are not done
by then are closed by force.

* `World.apply` — starts and retires consumers as the registry decided;
* `World.beginShutdown`, `World.finishShutdown` — the two ends of a stop of the container: between
  them all its consumers end, also those that retire in the background.
-/

namespace QueueListener.World

/-- A consumer at its start. -/
def newConsumer (w : World) (queue : String) : Consumer :=
  { queue, run := w.monitors.size - 1, startedAt := w.now, lastDelivery := w.now }

/-- Starts a consumer. -/
def spawn (w : World) (consumer : Nat × String) : World :=
  { w with consumers := w.consumers.set consumer.1 (w.newConsumer consumer.2) }.wake
    (.consumer consumer.1)

/-- Asks a consumer to stop. -/
def requestStop (w : World) (id : Nat) : World :=
  (w.updateConsumer id fun c => { c with stopRequested := true }).wake (.consumer id)

/-- Begins an errand; gives its number. -/
def send (w : World) (kind : ErrandKind) (recorded : Bool) : Nat × World :=
  let number := w.errands.size
  (number, { w with errands := w.errands.push { kind, recorded } }.wake (.errand number))

/-- Stops a consumer in the background. -/
def retire (w : World) (id : Nat) : World :=
  let (number, w) := (w.requestStop id).send (.retire id) false
  { w with retiring := w.retiring ++ [number] }

/-- Starts and retires consumers. -/
def apply (w : World) (changes : Changes) : World :=
  changes.retired.foldl retire (changes.started.foldl spawn w)

/-- Brings every queue within the bounds. -/
def converge (w : World) : World :=
  let (registry, changes) := w.registry.converge w.instant
  { w with registry }.apply changes

/-- Whether a consumer is out of the schedule. -/
def isFinished (w : World) (id : Nat) : Bool :=
  match w.consumers.get? id with
  | some c => c.phase = .finished
  | none => true

/-- Whether an errand is over. -/
def errandDone (w : World) (number : Nat) : Bool :=
  match w.errands[number]? with
  | some errand => errand.isDone
  | none => true

/-- Asks consumers to stop until the deadline of a shutdown. -/
def beginClosing (w : World) (consumers errands : List Nat) : Closing × World :=
  (⟨consumers, w.instant + w.plan.settings.shutdownTimeout, errands⟩, consumers.foldl requestStop w)

/-- Leaves out what has ended, and ends by force what is late. -/
def advanceClosing (w : World) (closing : Closing) : Closing × World :=
  let alive := closing.consumers.filter fun id => !w.isFinished id
  let errands := closing.errands.filter fun number => !w.errandDone number
  if w.reached closing.deadline then
    ({ closing with consumers := [], errands }, alive.foldl forceClose w)
  else ({ closing with consumers := alive, errands }, w)

/-- Whether an errand waits for a change of the container's state. -/
def observesState (errand : Errand) : Bool :=
  match errand.phase with
  | .settling => true
  | _ => false

/-- The numbers of the errands of which something holds. -/
def errandsWith (w : World) (p : Errand → Bool) : List Task :=
  ((List.range w.errands.size).filter fun number => (w.errands[number]?).any p).map .errand

/-- Wakes those who wait for a change of the container's state. -/
def wakeObservers (w : World) : World :=
  { w with agenda := w.agenda.wakeAll (w.errandsWith observesState) }

/-- Begins to stop the container: its monitor and all its consumers are asked to stop. Nothing when
it does not run. -/
def beginShutdown (w : World) : Option (Closing × World) :=
  match w.registry.beginStop with
  | none => none
  | some (ids, registry) =>
    let run := w.monitors.size - 1
    let retiring := w.retiring
    let w := { w with
      registry
      retiring := []
      monitors := w.monitors.modify run fun m => { m with stopRequested := true } }
    let (closing, w) := (w.wake (.monitor run)).beginClosing ids retiring
    some (closing, w.wakeObservers)

/-- Sets the number of registered consumers of queues to zero. -/
def clearGauges (w : World) (queues : List String) : World :=
  { w with metrics := queues.foldl (fun m queue => m.setConsumers queue 0) w.metrics }

/-- The end of a stop, with the reason when it was not asked for. -/
def finishShutdown (w : World) (fatal : Option String) : World :=
  let w := if w.plan.settings.ownsConnection then w.closeConnection else w
  let w := { w with registry := w.registry.finishStop fatal.isSome }
  let w := (w.clearGauges w.registry.queues).wakeObservers
  (w.count (.stop fatal.isSome)).publish (.containerStopped fatal.isSome fatal)

end QueueListener.World
