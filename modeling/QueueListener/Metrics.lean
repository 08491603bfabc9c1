import QueueListener.Failure
import QueueListener.Table
/-!
# Metrics

**Counters, gauges and timings** of the consumers of a container, and their lines in the
exposition format of Prometheus.
-/

namespace QueueListener

/-- What became of a delivery. -/
inductive DeliveryOutcome
  | success
  | failed
  | rejectedWhileStopping
  deriving DecidableEq, Repr

/-- The label of an outcome. -/
def DeliveryOutcome.text : DeliveryOutcome → String
  | .success => "success"
  | .failed => "failed"
  | .rejectedWhileStopping => "rejected_while_stopping"

/-- An operation on a channel that a container counts. -/
inductive ChannelOperation
  | ack
  | nack
  | commit
  | rollback
  deriving DecidableEq, Repr

/-- The label of an operation. -/
def ChannelOperation.text : ChannelOperation → String
  | .ack => "ack"
  | .nack => "nack"
  | .commit => "commit"
  | .rollback => "rollback"

/-- What is counted. -/
inductive Counted
  | delivery (queue : String) (outcome : DeliveryOutcome)
  | operation (queue : String) (operation : ChannelOperation)
  | consumerFailure (queue : String) (kind : FailureKind)
  | stop (fatal : Bool)
  deriving DecidableEq, Repr

/-- How often listeners were called on a queue, and for how many milliseconds in all. -/
structure Timing where
  calls : Nat
  millis : Nat
  deriving DecidableEq, Repr

/-- The metrics of a container. -/
structure Metrics where
  counters : Table Counted Nat := .empty
  /-- The number of registered consumers by queue. -/
  consumers : Table String Nat := .empty
  timings : Table String Timing := .empty
  deriving DecidableEq, Repr

namespace Metrics

/-- How often something was counted. -/
def count (m : Metrics) (counted : Counted) : Nat := (m.counters.get? counted).getD 0

/-- Counts something once more. -/
def increment (m : Metrics) (counted : Counted) : Metrics :=
  { m with counters := m.counters.set counted (m.count counted + 1) }

/-- Sets the number of registered consumers of a queue. -/
def setConsumers (m : Metrics) (queue : String) (count : Nat) : Metrics :=
  { m with consumers := m.consumers.set queue count }

/-- Adds a listener call that took so many milliseconds. -/
def addCall (m : Metrics) (queue : String) (millis : Nat) : Metrics :=
  let timing := (m.timings.get? queue).getD ⟨0, 0⟩
  { m with timings := m.timings.set queue ⟨timing.calls + 1, timing.millis + millis⟩ }

/-- The characters of a label value between its quotation marks. `held` tells that a backslash was
read and not yet written: a second one makes it a pair that counts as escaped already, and a
quotation mark takes its place. -/
def escaped : Bool → List Char → List Char
  | true, [] => ['\\', '\\']
  | false, [] => []
  | held, '\n' :: rest => '\\' :: 'n' :: escaped held rest
  | _, '"' :: rest => '\\' :: '"' :: escaped false rest
  | true, '\\' :: rest => '\\' :: '\\' :: escaped false rest
  | false, '\\' :: rest => escaped true rest
  | true, c :: rest => '\\' :: '\\' :: c :: escaped false rest
  | false, c :: rest => c :: escaped false rest

/-- A label with its value. -/
def label (name value : String) : String :=
  name ++ "=\"" ++ String.ofList (escaped false value.toList) ++ "\""

/-- One line. -/
def line (name : String) (labels : List String) (value : String) : String :=
  name ++ "\x7b" ++ String.intercalate "," labels ++ "\x7d " ++ value

/-- The line of a counter. -/
def counterLine : Counted × Nat → String
  | (.delivery queue outcome, n) =>
    line "listener_container_deliveries_total"
      [label "queue" queue, label "outcome" outcome.text] (toString n)
  | (.operation queue operation, n) =>
    line "listener_container_channel_operations_total"
      [label "queue" queue, label "operation" operation.text] (toString n)
  | (.consumerFailure queue kind, n) =>
    line "listener_container_consumer_failures_total"
      [label "queue" queue, label "kind" kind.text] (toString n)
  | (.stop fatal, n) =>
    line "listener_container_stops_total" [label "fatal" (toString fatal)] (toString n)

/-- The line of a gauge. -/
def gaugeLine : String × Nat → String
  | (queue, n) => line "listener_container_consumers" [label "queue" queue] (toString n)

/-- The lines of a timing. -/
def timingLines : String × Timing → List String
  | (queue, timing) =>
    [line "listener_container_listener_duration_seconds_count" [label "queue" queue]
        (toString timing.calls),
      line "listener_container_listener_duration_seconds_sum" [label "queue" queue]
        (toString timing.millis ++ "ms")]

/-- All lines, sorted. -/
def lines (m : Metrics) : List String :=
  (m.counters.entries.map counterLine ++ m.consumers.entries.map gaugeLine ++
    m.timings.entries.flatMap timingLines).mergeSort fun a b => decide (a ≤ b)

end Metrics

end QueueListener
