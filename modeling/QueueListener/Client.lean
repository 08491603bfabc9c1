import QueueListener.Broker.Operations
/-!
# The client

**A client hands operations to the broker.** Operations can be made to fail for trying out how a
container copes: an armed fault answers the next calls of its operation, and these do not reach the
broker.

* `Client.call` — one operation;
* `ManagedChannel` — the channel that listeners get: its owner decides when it closes.
-/

namespace QueueListener

/-- The operations of a client. -/
inductive ClientOp
  | connect
  | createChannel
  | setPrefetch
  | consume
  | get
  | ack
  | nack
  | cancel
  | publish
  | commit
  | rollback
  | confirm
  | close
  | closeConnection
  deriving DecidableEq, Repr

namespace ClientOp

/-- The name of an operation. -/
def text : ClientOp → String
  | .connect => "connect"
  | .createChannel => "channel"
  | .setPrefetch => "qos"
  | .consume => "consume"
  | .get => "get"
  | .ack => "ack"
  | .nack => "nack"
  | .cancel => "cancel"
  | .publish => "publish"
  | .commit => "commit"
  | .rollback => "rollback"
  | .confirm => "confirm"
  | .close => "close"
  | .closeConnection => "close_connection"

/-- The operation with that name. -/
def ofText? (s : String) : Option ClientOp :=
  [connect, createChannel, setPrefetch, consume, get, ack, nack, cancel, publish, commit, rollback,
    confirm, close, closeConnection].find? (·.text == s)

end ClientOp

/-- A fault that answers the next calls of an operation. -/
structure ArmedFault where
  op : ClientOp
  error : ClientError
  /-- How many calls it still answers. -/
  remaining : Nat
  deriving DecidableEq, Repr

/-- A client: the broker behind it, and its armed faults in the order in which they answer. -/
structure Client where
  broker : Broker := {}
  faults : List ArmedFault := []

/-- The error that answers a call of an operation, with the faults after the call. -/
def ArmedFault.take (op : ClientOp) : List ArmedFault → Option (ClientError × List ArmedFault)
  | [] => none
  | fault :: rest =>
    match decide (fault.op = op), fault.remaining with
    | true, 1 => some (fault.error, rest)
    | true, remaining + 2 => some (fault.error, { fault with remaining := remaining + 1 } :: rest)
    | _, _ => (take op rest).map fun (error, rest) => (error, fault :: rest)

namespace Client

/-- Calls an operation. -/
def call {α : Type} (c : Client) (op : ClientOp)
    (request : Broker → Except ClientError α × Broker) : Except ClientError α × Client :=
  match ArmedFault.take op c.faults with
  | some (error, faults) => (.error error, { c with faults })
  | none =>
    let (result, broker) := request c.broker
    (result, { c with broker })

/-- Arms a fault behind those that are armed. -/
def arm (c : Client) (fault : ArmedFault) : Client := { c with faults := c.faults ++ [fault] }

/-- Acknowledges a delivery, or all up to it. -/
def ack (c : Client) (channel tag : Nat) (multiple : Bool) : Except ClientError Unit × Client :=
  c.call .ack (·.acknowledge channel ⟨tag, multiple, .ack⟩)

/-- Rejects a delivery, or all up to it. -/
def nack (c : Client) (channel tag : Nat) (multiple requeue : Bool) :
    Except ClientError Unit × Client :=
  c.call .nack (·.acknowledge channel ⟨tag, multiple, .nack requeue⟩)

/-- Commits the settlements of a transactional channel. -/
def commit (c : Client) (channel : Nat) : Except ClientError Unit × Client :=
  c.call .commit (·.commit channel)

/-- Forgets the settlements of a transactional channel. -/
def rollback (c : Client) (channel : Nat) : Except ClientError Unit × Client :=
  c.call .rollback (·.rollback channel)

/-- Closes a channel. -/
def close (c : Client) (channel : Nat) : Except ClientError Unit × Client :=
  c.call .close fun broker => (.ok (), broker.closeChannel channel none)

/-- Closes a connection. -/
def closeConnection (c : Client) (connection : Nat) : Except ClientError Unit × Client :=
  c.call .closeConnection fun broker => (.ok (), broker.closeConnection connection none)

end Client

/-- A channel as listeners get it. -/
structure ManagedChannel where
  /-- The channel of the broker behind it. -/
  target : Nat
  number : Nat
  transactional : Bool
  /-- Whether a listener has switched publisher confirms on. -/
  confirmSelected : Bool := false
  /-- Whether the owner has closed the channel; until then a request to close it is ignored. -/
  released : Bool := false
  deriving DecidableEq, Repr

namespace ManagedChannel

/-- Whether the channel behind is open. -/
def isOpen (channel : ManagedChannel) (c : Client) : Bool := c.broker.channelOpen channel.target

/-- Switches publisher confirms on. -/
def confirm (channel : ManagedChannel) (c : Client) :
    Except ClientError ManagedChannel × Client :=
  match c.call .confirm (·.confirm channel.target) with
  | (.ok (), c) => (.ok { channel with confirmSelected := true }, c)
  | (.error error, c) => (.error error, c)

/-- A request of a listener to close the channel. -/
def close (channel : ManagedChannel) (c : Client) : Except ClientError Unit × Client :=
  if channel.released then c.close channel.target else (.ok (), c)

/-- Closes the channel on behalf of its owner, if it is open. -/
def release (channel : ManagedChannel) (c : Client) :
    Except ClientError Unit × ManagedChannel × Client :=
  let (result, c) := if channel.isOpen c then c.close channel.target else (.ok (), c)
  (result, { channel with released := true }, c)

end ManagedChannel

end QueueListener
