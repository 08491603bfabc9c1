import QueueListener.Settings
/-!
# The registry of a container

**The registry knows the queues and which consumers serve them.** It decides which consumers start
and which retire (`Changes`); the container carries that out.

* `Registry.converge` — brings every queue that can be consumed within the bounds;
* `Registry.tick` — looks at every declared queue, then converges;
* `Registry.start`, `Registry.add`, `Registry.remove`, `Registry.setBounds` — the calls from
  outside; a refused call leaves the registry as it is;
* `Registry.consumerFailed` — takes a failed consumer out and asks the supervisor.
-/

namespace QueueListener

/-- The consumers to start and to retire, in this order. -/
structure Changes where
  started : List (Nat × String) := []
  retired : List Nat := []
  deriving DecidableEq, Repr

/-- The registry. -/
structure Registry where
  settings : Settings
  state : ContainerState := .created
  queues : List String
  bounds : Bounds
  /-- The consumers of a queue, in the order in which they were started. -/
  consumers : Table String (List Nat) := .empty
  scaling : Scaling
  supervisor : Supervisor
  /-- Consumers are numbered from one. -/
  lastConsumer : Nat := 0

namespace Registry

/-- The registry of a container that was not started yet. -/
def new (settings : Settings) : Registry :=
  { settings, queues := settings.queues, bounds := settings.bounds
    scaling := .new settings.scalingRules, supervisor := .new settings.recoveryRules }

/-- The consumers of a queue. -/
def consumersOf (r : Registry) (queue : String) : List Nat := (r.consumers.get? queue).getD []

/-- All consumers. -/
def allConsumers (r : Registry) : List Nat := r.consumers.values.flatten

/-- How many consumers each queue has. -/
def consumerCounts (r : Registry) : List (String × Nat) :=
  r.queues.map fun queue => (queue, (r.consumersOf queue).length)

/-- Sets the consumers of a queue. -/
def setConsumers (r : Registry) (queue : String) (ids : List Nat) : Registry :=
  { r with consumers := r.consumers.set queue ids }

/-- Takes a consumer off its queue. -/
def removeConsumer (r : Registry) (queue : String) (id : Nat) : Registry :=
  { r with consumers := r.consumers.modify queue fun ids => ids.erase id }

/-- Takes all consumers off a queue. -/
def dropConsumers (r : Registry) (queue : String) : Registry :=
  { r with consumers := r.consumers.erase queue }

/-- Starts that many consumers on a queue. -/
def launch : Nat → String → Registry × Changes → Registry × Changes
  | 0, _, (r, changes) => (r, changes)
  | count + 1, queue, (r, changes) =>
    let id := r.lastConsumer + 1
    launch count queue
      ({ r with lastConsumer := id }.setConsumers queue (r.consumersOf queue ++ [id]),
        { changes with started := changes.started ++ [(id, queue)] })

/-- Retires the consumers beyond the upper bound, oldest first. -/
def trim (queue : String) : Registry × Changes → Registry × Changes
  | (r, changes) =>
    let ids := r.consumersOf queue
    let surplus := r.bounds.surplus ids.length
    if surplus = 0 then (r, changes)
    else
      let ids := ids.mergeSort fun a b => decide (a ≤ b)
      (r.setConsumers queue (ids.drop surplus),
        { changes with retired := changes.retired ++ ids.take surplus })

/-- Brings a queue within the bounds, if it can be consumed. While restarts are blocked no consumer
is started. -/
def convergeQueue (blocked : Bool) (acc : Registry × Changes) (queue : String) :
    Registry × Changes :=
  if acc.1.supervisor.isConsumable queue then
    let (r, changes) := trim queue acc
    if blocked then (r, changes)
    else launch (r.bounds.deficit (r.consumersOf queue).length) queue (r, changes)
  else acc

/-- Settles the round whose attempt was due: it is under way when a consumer was started. -/
def resolveRound (r : Registry) (launched : Bool) : Registry :=
  { r with supervisor :=
      if launched then r.supervisor.beginAttempt else r.supervisor.abandonRound }

/-- Brings every queue within the bounds. A container that does not run changes nothing. -/
def converge (r : Registry) (now : Instant) : Registry × Changes :=
  if r.state = .running then
    let due := r.supervisor.attemptDue now
    let blocked := r.supervisor.restartsBlocked now
    let (r, changes) := r.queues.foldl (convergeQueue blocked) (r, {})
    (if due then r.resolveRound (!changes.started.isEmpty) else r, changes)
  else (r, {})

/-- Looks at a declared queue and starts or retires at most one of its consumers. A start that is
blocked is remembered as if it had happened. -/
def scaleQueue (sample : Nat → Sample) (blocked : Bool) (now : Instant)
    (acc : Registry × Changes) (queue : String) : Registry × Changes :=
  let (r, changes) := acc
  if r.supervisor.state? queue = some .declared then
    let samples := (r.consumersOf queue).map sample
    let (decision, scaling) := r.scaling.evaluate queue r.bounds samples now
    let r := { r with scaling }
    match decision with
    | .hold => (r, changes)
    | .startOne => if blocked then (r, changes) else launch 1 queue (r, changes)
    | .stopOne id =>
      if (r.consumersOf queue).contains id then
        (r.removeConsumer queue id, { changes with retired := changes.retired ++ [id] })
      else (r, changes)
  else acc

/-- One look at all queues. -/
def tick (r : Registry) (sample : Nat → Sample) (now : Instant) : Registry × Changes :=
  if r.state = .running then
    let blocked := r.supervisor.restartsBlocked now
    let (r, scaled) := r.queues.foldl (scaleQueue sample blocked now) (r, {})
    let (r, converged) := r.converge now
    (r, ⟨scaled.started ++ converged.started, scaled.retired ++ converged.retired⟩)
  else (r, {})

/-- What keeps the registry from starting. -/
def startFault? (r : Registry) (hasManager : Bool) : Option Refusal :=
  match { r.settings with queues := r.queues, bounds := r.bounds }.fault? with
  | some refusal => some refusal
  | none =>
    if hasManager && r.settings.ackMode ≠ .auto then
      some (.settings ("an external transaction manager requires ack mode AUTO, not " ++
        r.settings.ackMode.text))
    else none

/-- The registry at the beginning of a run: all queues are declared, and nothing is remembered. -/
def started (r : Registry) : Registry :=
  { r with
    state := .running
    scaling := .new r.settings.scalingRules
    supervisor := r.queues.foldl Supervisor.track (.new r.settings.recoveryRules) }

/-- Starts the registry; nothing when it runs already. -/
def start (r : Registry) (hasManager : Bool) : Except Refusal (Option Registry) :=
  match r.state with
  | .running => .ok none
  | .stopping => .error (.illegalState .stopping "start")
  | .created | .stopped =>
    match r.startFault? hasManager with
    | some refusal => .error refusal
    | none => .ok (some r.started)

/-- Adds queues, all or none. -/
def add (r : Registry) (names : List String) : Except Refusal Registry :=
  match Settings.nameFault? r.queues names with
  | some refusal => .error refusal
  | none =>
    .ok { r with
      queues := r.queues ++ names
      supervisor :=
        if r.state = .running then names.foldl Supervisor.track r.supervisor else r.supervisor }

/-- Removes one queue; gives its consumers. -/
def removeQueue (acc : Registry × List String × List Nat) (name : String) :
    Registry × List String × List Nat :=
  let (r, removed, ids) := acc
  if r.queues.contains name then
    ({ r with
        queues := r.queues.erase name
        supervisor := r.supervisor.forget name
        scaling := r.scaling.forget name }.dropConsumers name,
      removed ++ [name], ids ++ r.consumersOf name)
  else acc

/-- Removes queues; gives the names that were known, and their consumers. -/
def remove (r : Registry) (names : List String) : Registry × List String × List Nat :=
  names.foldl removeQueue (r, [], [])

/-- Changes the bounds. -/
def setBounds (r : Registry) (bounds : Bounds) : Except Refusal Registry :=
  match bounds.fault? with
  | some reason => .error (.settings reason)
  | none => .ok { r with bounds }

/-- Takes a failed consumer off its queue, and asks the supervisor what to do. Nothing is to do
when the container does not run or the queue is not registered. -/
def consumerFailed (r : Registry) (queue : String) (id : Nat) (error : ClientError)
    (now : Instant) : Option (Except TimeFault RecoveryAction) × Registry :=
  let r := r.removeConsumer queue id
  if r.state = .running && r.queues.contains queue then
    let (action, supervisor) := r.supervisor.onFailure queue error now
    (some action, { r with supervisor })
  else (none, r)

/-- Begins to stop: gives all consumers. Nothing when the container does not run. -/
def beginStop (r : Registry) : Option (List Nat × Registry) :=
  if r.state = .running then
    some (r.allConsumers, { r with state := .stopping, consumers := .empty })
  else none

/-- The end of a stop. -/
def finishStop (r : Registry) (fatal : Bool) : Registry :=
  { r with
    state := .stopped
    supervisor := if fatal then r.supervisor.markAllFatal else r.supervisor }

end Registry

end QueueListener
