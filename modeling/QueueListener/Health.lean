import QueueListener.Refusal
import QueueListener.Time
/-!
# Snapshots and health

A snapshot shows a container at one point in time. The health endpoints report on it; the container
is ready while it runs and none of its queues is missing or given up.
-/

namespace QueueListener

/-- A consumer at one point in time. -/
structure ConsumerView where
  queue : String
  consumerTag : Option String
  state : ConsumerState
  startedAt : Timestamp
  deliveries : Nat
  idleStreak : Nat
  activeStreak : Nat
  deferredAcks : Nat
  deriving DecidableEq, Repr

/-- A queue at one point in time. -/
structure QueueView where
  name : String
  state : Option QueueState
  consumers : List ConsumerView
  deriving DecidableEq, Repr

/-- A container at one point in time. -/
structure Snapshot where
  state : ContainerState
  least : Nat
  most : Nat
  queues : List QueueView
  deriving DecidableEq, Repr

namespace QueueView

/-- Whether the queue does not keep the container from being ready. -/
def isServed (queue : QueueView) : Bool :=
  match queue.state with
  | some state => state.isConsumable
  | none => true

/-- The state that makes the queue unhealthy. -/
def ailment? (queue : QueueView) : Option QueueState :=
  match queue.state with
  | some .missing => some .missing
  | some .fatal => some .fatal
  | _ => none

end QueueView

/-- Whether the container runs and serves all its queues. -/
def Snapshot.isReady (s : Snapshot) : Bool := s.state = .running && s.queues.all QueueView.isServed

namespace Health

/-- The body of an answer. -/
inductive Body
  | alive (name version : String)
  | readiness (ready : Bool) (container : ContainerState) (unhealthy : List (String × QueueState))
  | consumers (snapshot : Snapshot)
  | text (value : String)
  deriving DecidableEq, Repr

/-- An answer. -/
structure Response where
  status : Nat
  contentType : Option String
  body : Body
  deriving DecidableEq, Repr

/-- An answer in JSON. -/
def json (status : Nat) (body : Body) : Response := ⟨status, some "application/json", body⟩

/-- The report on readiness. -/
def readiness (s : Snapshot) : Response :=
  json (if s.isReady then 200 else 503)
    (.readiness s.isReady s.state (s.queues.filterMap fun queue =>
      queue.ailment?.map fun state => (queue.name, state)))

/-- The path in the target of a request: what stands before the query. -/
def pathOf (target : String) : String :=
  String.ofList (target.toList.takeWhile fun c => c ≠ '?' && c ≠ '#')

/-- The answer to a request. Metrics are rendered elsewhere and given as text. -/
def respond (name version metrics : String) (s : Snapshot) (target : String) : Response :=
  let path := pathOf target
  if ["/health", "/healthz"].contains path then json 200 (.alive name version)
  else if ["/ready", "/readyz"].contains path then readiness s
  else if path = "/consumers" then json 200 (.consumers s)
  else if path = "/metrics" then ⟨200, some "text/plain; charset=utf-8", .text metrics⟩
  else ⟨404, none, .text ""⟩

end Health

end QueueListener
