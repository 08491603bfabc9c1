/-!
# States

The states of queues, consumers and containers, and their names.
-/

namespace QueueListener

/-- The recovery state of a queue. -/
inductive QueueState
  | declared
  /-- The queue is gone; its consumers are paused until it exists again. -/
  | missing
  /-- Its consumers wait for the broker to come back. -/
  | recovering
  | fatal
  deriving DecidableEq, Repr

namespace QueueState

/-- The name of a state. -/
def text : QueueState → String
  | .declared => "DECLARED"
  | .missing => "MISSING"
  | .recovering => "RECOVERING"
  | .fatal => "FATAL"

/-- The state with that name. -/
def ofText? (s : String) : Option QueueState :=
  [declared, missing, recovering, fatal].find? (·.text == s)

/-- Whether consumers may run on the queue. -/
def isConsumable : QueueState → Bool
  | .declared => true
  | .recovering => true
  | .missing => false
  | .fatal => false

end QueueState

/-- The state of a consumer. -/
inductive ConsumerState
  | starting
  | active
  | cancelling
  | failed
  | terminated
  deriving DecidableEq, Repr

namespace ConsumerState

/-- The name of a state. -/
def text : ConsumerState → String
  | .starting => "STARTING"
  | .active => "ACTIVE"
  | .cancelling => "CANCELLING"
  | .failed => "FAILED"
  | .terminated => "TERMINATED"

/-- The state with that name. -/
def ofText? (s : String) : Option ConsumerState :=
  [starting, active, cancelling, failed, terminated].find? (·.text == s)

end ConsumerState

/-- The state of a container. -/
inductive ContainerState
  | created
  | running
  | stopping
  | stopped
  deriving DecidableEq, Repr

namespace ContainerState

/-- The name of a state. -/
def text : ContainerState → String
  | .created => "CREATED"
  | .running => "RUNNING"
  | .stopping => "STOPPING"
  | .stopped => "STOPPED"

/-- The state with that name. -/
def ofText? (s : String) : Option ContainerState :=
  [created, running, stopping, stopped].find? (·.text == s)

end ContainerState

end QueueListener
