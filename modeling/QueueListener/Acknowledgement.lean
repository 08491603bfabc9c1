import QueueListener.Text.Blank
/-!
# The acknowledgement policy

**What is done on the channel for one delivery** follows from the acknowledgement mode, from the
kind of transaction and from the outcome of the listener (`Situation.action`). The policy is a
function; the consumer carries the action out.
-/

namespace QueueListener

/-- Who acknowledges deliveries. -/
inductive AckMode
  /-- A delivery counts as acknowledged when it is sent. -/
  | none
  /-- The consumer acknowledges a success and rejects a failure. -/
  | auto
  /-- The listener acknowledges through its channel. -/
  | manual
  deriving DecidableEq, Repr

namespace AckMode

/-- The name of a mode, in capitals. -/
def text : AckMode → String
  | .none => "NONE"
  | .auto => "AUTO"
  | .manual => "MANUAL"

/-- The mode with that name, in capitals. -/
def ofText? (s : String) : Option AckMode :=
  [AckMode.none, .auto, .manual].find? (·.text == s)

/-- The mode with that name, whatever the case of its letters. -/
def read? (s : String) : Option AckMode :=
  [AckMode.none, .auto, .manual].find? fun mode => Text.sameIgnoringCase mode.text s

/-- Whether the broker expects no acknowledgement. -/
def unacknowledged : AckMode → Bool
  | .none => true
  | _ => false

/-- Whether the listener acknowledges. -/
def byListener : AckMode → Bool
  | .manual => true
  | _ => false

end AckMode

/-- How a delivery ended. -/
inductive Outcome
  | success
  /-- The listener failed; `transport` tells that its channel did. -/
  | failure (requeue transport : Bool)
  /-- Received after the consumer was asked to stop; the listener never saw it. -/
  | stopping
  deriving DecidableEq, Repr

/-- The operations on the channel for one delivery. -/
inductive AckAction
  | nothing
  /-- Counts the delivery towards the batch. -/
  | defer
  | ack (multiple : Bool)
  | ackAndCommit (multiple : Bool)
  | commit
  | rollback
  /-- Rejects the delivery, after acknowledging the deferred ones on request. -/
  | nack (requeue ackDeferred : Bool)
  /-- Rolls back, rejects and commits the rejection. -/
  | rollbackAndNack (requeue multiple : Bool)
  /-- Leaves the acknowledgement to the commit of the external transaction. -/
  | joinTransaction
  /-- Rolls the external transaction back. -/
  | rollbackTransaction (requeue : Bool)
  deriving DecidableEq, Repr

/-- What the policy looks at. `deferred` counts the successes not yet acknowledged. -/
structure Situation where
  mode : AckMode
  transacted : Bool
  external : Bool
  outcome : Outcome
  deferred : Nat
  batchSize : Nat
  deriving DecidableEq, Repr

namespace Situation

/-- Rejects the delivery by means of the channel alone. -/
def reject (s : Situation) (requeue : Bool) : AckAction :=
  if s.transacted then .rollbackAndNack requeue (0 < s.deferred)
  else .nack requeue (0 < s.deferred)

/-- A success of the mode `auto`: the last delivery of a batch acknowledges the whole batch. -/
def acknowledge (s : Situation) : AckAction :=
  let pending := s.deferred + 1
  if pending < max s.batchSize 1 then .defer
  else if s.transacted then .ackAndCommit (1 < pending)
  else .ack (1 < pending)

/-- The action for a delivery in its situation. -/
def action (s : Situation) : AckAction :=
  match s.mode, s.outcome with
  | .none, _ => .nothing
  | .manual, .success => if s.transacted then .commit else .nothing
  | .manual, .failure _ true => s.reject true
  | .manual, .stopping => s.reject true
  | .manual, .failure _ false => if s.transacted then .rollback else .nothing
  | .auto, .success => if s.external then .joinTransaction else s.acknowledge
  | .auto, .failure requeue _ =>
    if s.external then .rollbackTransaction requeue else s.reject requeue
  | .auto, .stopping => s.reject true

end Situation

end QueueListener
