/-!
# Failures

The errors of the broker client and of listeners, with their wording and their kinds. A kind tells
how the container has to react; the failures of a connection and of credentials concern the broker
as a whole.
-/

namespace QueueListener

/-- The kind of a failure at the broker. -/
inductive FailureKind
  | missingQueue
  | authentication
  | connection
  | channel
  | cancelled
  deriving DecidableEq, Repr

namespace FailureKind

/-- The name of a kind. -/
def text : FailureKind → String
  | .missingQueue => "missing_queue"
  | .authentication => "authentication"
  | .connection => "connection"
  | .channel => "channel"
  | .cancelled => "cancelled"

/-- Whether the failure concerns the broker as a whole. -/
def isSystemic : FailureKind → Bool
  | .connection => true
  | .authentication => true
  | _ => false

end FailureKind

/-- An error of the broker client. -/
inductive ClientError
  | connection (reason : String)
  | authentication (reason : String)
  | queueNotFound (queue : String)
  | channel (reason : String)
  | cancelled (consumerTag : String)
  | channelClosed
  deriving DecidableEq, Repr

namespace ClientError

/-- The wording of the error. -/
def message : ClientError → String
  | .connection reason => "Connection error: " ++ reason
  | .authentication reason => "Authentication failed: " ++ reason
  | .queueNotFound queue => "Queue '" ++ queue ++ "' not found"
  | .channel reason => "Channel error: " ++ reason
  | .cancelled consumerTag => "Consumer '" ++ consumerTag ++ "' was cancelled by the broker"
  | .channelClosed => "Channel is closed"

/-- The kind of the error. -/
def kind : ClientError → FailureKind
  | .connection _ => .connection
  | .authentication _ => .authentication
  | .queueNotFound _ => .missingQueue
  | .channel _ => .channel
  | .channelClosed => .channel
  | .cancelled _ => .cancelled

end ClientError

/-- An error of an external transaction. -/
inductive TransactionError
  | begin (reason : String)
  | commit (reason : String)
  | rollback (reason : String)
  deriving DecidableEq, Repr

/-- The wording of the error. -/
def TransactionError.message : TransactionError → String
  | .begin reason => "Failed to begin transaction: " ++ reason
  | .commit reason => "Transaction commit failed: " ++ reason
  | .rollback reason => "Transaction rollback failed: " ++ reason

/-- An error of a listener. -/
inductive ListenerError
  /-- The application failed. `requeue` overrides the default; `cause` words the error behind. -/
  | failed (reason : String) (requeue : Option Bool) (cause : Option String)
  /-- The call ended in a panic. -/
  | panicked (reason : String)
  /-- An operation on the listener's channel failed. -/
  | transport (error : ClientError)
  deriving DecidableEq, Repr

namespace ListenerError

/-- The wording of the error. -/
def message : ListenerError → String
  | .failed reason _ _ => "Listener failed: " ++ reason
  | .panicked reason => "Listener panicked: " ++ reason
  | .transport error => "Channel operation failed inside listener: " ++ error.message

/-- Whether the delivery goes back to its queue, when the error says so. -/
def requeue? : ListenerError → Option Bool
  | .failed _ requeue _ => requeue
  | .panicked _ => none
  | .transport _ => none

/-- Whether the listener's channel failed. -/
def isTransport : ListenerError → Bool
  | .transport _ => true
  | _ => false

/-- The wording of the error behind this one. -/
def cause? : ListenerError → Option String
  | .failed _ _ cause => cause
  | .panicked _ => none
  | .transport error => some error.message

/-- A failure that must not go back to its queue. -/
def reject (reason : String) : ListenerError := .failed reason (some false) none

end ListenerError

end QueueListener
