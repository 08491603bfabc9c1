import QueueListener.Broker.Operations
/-!
# Runs of the broker

Every operation of the broker as a value, the reply that it gives, and runs of operations
(`Broker.run`).
-/

namespace QueueListener.Broker

/-- An operation of the broker, or on one of its connections or channels. -/
inductive Op
  | declare (queue : String)
  | delete (queue : String)
  | publish (queue : String) (payload : Payload) (properties : Properties)
  | refuseConnections (on : Bool)
  | rejectCredentials (on : Bool)
  | dropConnections
  | connect
  | closeConnection (connection : Nat)
  | createChannel (connection : Nat) (transactional : Bool)
  | setPrefetch (channel prefetch : Nat)
  | consume (channel : Nat) (queue consumerTag : String) (autoAck : Bool) (subscriber : Nat)
  | get (channel : Nat) (queue : String) (autoAck : Bool)
  | acknowledge (channel : Nat) (settlement : Settlement)
  | cancel (channel : Nat) (consumerTag : String)
  | publishOn (channel : Nat) (exchange queue : String) (payload : Payload)
      (properties : Properties)
  | commit (channel : Nat)
  | rollback (channel : Nat)
  | confirm (channel : Nat)
  | close (channel : Nat)
  deriving DecidableEq

/-- The reply to an operation. -/
inductive Reply
  | done
  | flag (value : Bool)
  | id (value : Nat)
  | consumerTag (value : String)
  | delivery (value : Option Delivery)
  | failed (error : ClientError)
  deriving DecidableEq

/-- A reply from a result. -/
def Reply.ofResult {α : Type} (f : α → Reply) : Except ClientError α × Broker → Reply × Broker
  | (.ok value, b) => (f value, b)
  | (.error error, b) => (.failed error, b)

/-- A reply from a result without a value. -/
def Reply.ofDone : Except ClientError Unit × Broker → Reply × Broker :=
  Reply.ofResult fun _ => Reply.done

/-- Carries out one operation. -/
def step (b : Broker) : Op → Reply × Broker
  | .declare queue => let (created, b) := b.declare queue; (.flag created, b)
  | .delete queue => let (existed, b) := b.delete queue; (.flag existed, b)
  | .publish queue payload properties =>
    Reply.ofDone (b.publish queue payload properties)
  | .refuseConnections on => (.done, { b with refusesConnections := on })
  | .rejectCredentials on => (.done, { b with rejectsCredentials := on })
  | .dropConnections => (.done, b.dropConnections)
  | .connect => Reply.ofResult Reply.id b.connect
  | .closeConnection connection => (.done, b.closeConnection connection none)
  | .createChannel connection transactional =>
    Reply.ofResult Reply.id (b.createChannel connection transactional)
  | .setPrefetch channel prefetch => Reply.ofDone (b.setPrefetch channel prefetch)
  | .consume channel queue tag autoAck subscriber =>
    Reply.ofResult Reply.consumerTag (b.consume channel queue tag autoAck subscriber)
  | .get channel queue autoAck => Reply.ofResult Reply.delivery (b.get channel queue autoAck)
  | .acknowledge channel settlement => Reply.ofDone (b.acknowledge channel settlement)
  | .cancel channel tag => Reply.ofDone (b.cancel channel tag)
  | .publishOn channel exchange queue payload properties =>
    Reply.ofDone (b.publishOn channel exchange queue payload properties)
  | .commit channel => Reply.ofDone (b.commit channel)
  | .rollback channel => Reply.ofDone (b.rollback channel)
  | .confirm channel => Reply.ofDone (b.confirm channel)
  | .close channel => (.done, b.closeChannel channel none)

/-- Carries out operations one after the other. -/
def run (b : Broker) (ops : List Op) : Broker := ops.foldl (fun b op => (b.step op).2) b

end QueueListener.Broker
