import QueueListener.Time
/-!
# Messages and deliveries

A delivery is a message together with what its consumer needs to acknowledge it.
-/

namespace QueueListener

/-- The properties that a message carries beside its payload. -/
structure Properties where
  messageId : Option String := none
  correlationId : Option String := none
  replyTo : Option String := none
  contentType : Option String := none
  headers : List (String × String) := []
  timestamp : Option Timestamp := none
  deriving DecidableEq, Repr

/-- The payload of a message. -/
abbrev Payload := ByteArray

/-- Payloads are compared byte by byte. -/
instance : DecidableEq Payload := ByteArray.instDecidableEq

/-- The payload as text, if it is text. -/
def Payload.text? (payload : Payload) : Option String := String.fromUTF8? payload

/-- A message as one consumer got it. -/
structure Delivery where
  queue : String
  /-- Numbers the deliveries of a channel. -/
  tag : Nat
  /-- The consumer that it was pushed to; empty for a polled delivery. -/
  consumerTag : String
  payload : Payload
  /-- Whether the message was delivered before. -/
  redelivered : Bool
  properties : Properties
  deriving DecidableEq

end QueueListener
