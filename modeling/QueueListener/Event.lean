import QueueListener.Failure
import QueueListener.Time
/-!
# Events

What a container tells about its life and the life of its consumers.
-/

namespace QueueListener

/-- An event of a container. -/
inductive Event
  | containerStarted
  | consumeOk (queue consumerTag : String)
  /-- Nothing was received since `since`, which is `duration` ago. -/
  | idle (queue consumerTag : String) (since : Timestamp) (duration : Duration)
  | consumerFailed (queue : String) (consumerTag : Option String) (kind : FailureKind)
      (reason : String)
  | consumerTerminated (queue : String) (consumerTag : Option String)
  | queueMissing (queue : String)
  | queueRecovered (queue : String)
  | containerStopped (fatal : Bool) (reason : Option String)
  deriving DecidableEq, Repr

namespace Event

/-- The name of the event. -/
def name : Event → String
  | .containerStarted => "container_started"
  | .consumeOk .. => "consume_ok"
  | .idle .. => "idle"
  | .consumerFailed .. => "consumer_failed"
  | .consumerTerminated .. => "consumer_terminated"
  | .queueMissing _ => "queue_missing"
  | .queueRecovered _ => "queue_recovered"
  | .containerStopped .. => "container_stopped"

/-- The queue that the event is about. -/
def queue? : Event → Option String
  | .containerStarted => none
  | .consumeOk queue _ => some queue
  | .idle queue _ _ _ => some queue
  | .consumerFailed queue _ _ _ => some queue
  | .consumerTerminated queue _ => some queue
  | .queueMissing queue => some queue
  | .queueRecovered queue => some queue
  | .containerStopped .. => none

/-- The consumer tag that the event tells. -/
def consumerTag? : Event → Option String
  | .consumeOk _ tag => some tag
  | .idle _ tag _ _ => some tag
  | .consumerFailed _ tag _ _ => tag
  | .consumerTerminated _ tag => tag
  | _ => none

end Event

end QueueListener
