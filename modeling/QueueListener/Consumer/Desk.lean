import QueueListener.Acknowledgement
import QueueListener.Client
import QueueListener.Metrics
import QueueListener.Settings
import QueueListener.Transaction
/-!
# The desk of a consumer

**A consumer settles its deliveries at its desk**: with the client, the metrics, and the batch of
successes that are not yet acknowledged.

* `Desk.perform` — carries out an action of the acknowledgement policy. An operation that fails ends
  it there: nothing is counted for the action, and the batch stays as it is;
* `Desk.flush` — acknowledges the batch;
* `Desk.turnAway` — gives back a delivery that came too late;
* `Desk.conclude` — settles a delivery as its external transaction ended.
-/

namespace QueueListener

/-- What a consumer settles with. -/
structure Desk where
  client : Client
  metrics : Metrics
  /-- How many successes are not yet acknowledged. -/
  deferred : Nat := 0
  lastDeferred : Option Nat := none
  /-- The number of deferred acknowledgements that is shown to others. -/
  shownDeferred : Nat := 0

/-- What stays the same for a consumer. -/
structure Post where
  settings : Settings
  queue : String
  /-- The channel at the broker. -/
  channel : Nat

/-- Work at a desk; it can end with a client error. -/
abbrev DeskWork (α : Type) := ExceptT ClientError (StateM Desk) α

namespace Desk

/-- Work that is one operation of the client. -/
def request {α : Type} (f : Client → Except ClientError α × Client) : DeskWork α :=
  ExceptT.mk fun desk =>
    let (result, client) := f desk.client
    (result, { desk with client })

/-- Counts something. -/
def count (counted : Counted) : DeskWork Unit :=
  modify fun desk => { desk with metrics := desk.metrics.increment counted }

/-- Counts an operation on the channel. -/
def countOperation (post : Post) (operation : ChannelOperation) : DeskWork Unit :=
  count (.operation post.queue operation)

/-- Acknowledges a delivery, or all up to it. -/
def ack (post : Post) (tag : Nat) (multiple : Bool) : DeskWork Unit :=
  request (·.ack post.channel tag multiple)

/-- Rejects a delivery, or all up to it. -/
def nack (post : Post) (tag : Nat) (multiple requeue : Bool) : DeskWork Unit :=
  request (·.nack post.channel tag multiple requeue)

/-- Commits the channel. -/
def commit (post : Post) : DeskWork Unit := request (·.commit post.channel)

/-- Rolls the channel back. -/
def rollback (post : Post) : DeskWork Unit := request (·.rollback post.channel)

/-- Begins a new batch. -/
def resetBatch : DeskWork Unit :=
  modify fun desk => { desk with deferred := 0, lastDeferred := none }

/-- Adds a success to the batch. -/
def defer (tag : Nat) : DeskWork Unit :=
  modify fun desk => { desk with deferred := desk.deferred + 1, lastDeferred := some tag }

/-- Acknowledges the batch, if that is asked for and there is one. -/
def ackBatch (post : Post) (wanted : Bool) : DeskWork Unit := do
  match (← get).lastDeferred with
  | some last =>
    if wanted then
      ack post last true
      countOperation post .ack
  | none => pure ()

/-- Does what an action asks for on the channel. -/
def onChannel (post : Post) (tag : Nat) : AckAction → DeskWork Unit
  | .nothing => pure ()
  | .defer => defer tag
  | .ack multiple => do
    ack post tag multiple
    countOperation post .ack
    resetBatch
  | .ackAndCommit multiple => do
    ack post tag multiple
    commit post
    countOperation post .ack
    countOperation post .commit
    resetBatch
  | .commit => do
    commit post
    countOperation post .commit
  | .rollback => do
    rollback post
    countOperation post .rollback
  | .nack requeue ackDeferred => do
    ackBatch post ackDeferred
    nack post tag false requeue
    countOperation post .nack
    resetBatch
  | .rollbackAndNack requeue multiple => do
    rollback post
    nack post tag multiple requeue
    commit post
    countOperation post .rollback
    countOperation post .nack
    resetBatch
  | .joinTransaction => pure ()
  | .rollbackTransaction _ => pure ()

/-- Carries out an action for a delivery. -/
def perform (post : Post) (tag : Nat) (action : AckAction) : DeskWork Unit := do
  onChannel post tag action
  modify fun desk => { desk with shownDeferred := desk.deferred }

/-- The situation of a delivery at this desk. -/
def situation (desk : Desk) (post : Post) (outcome : Outcome) (external : Bool) : Situation :=
  { mode := post.settings.ackMode, transacted := post.settings.transacted, external, outcome
    deferred := desk.deferred, batchSize := post.settings.batchSize }

/-- Settles a delivery by its outcome, by means of the channel alone. -/
def settle (post : Post) (tag : Nat) (outcome : Outcome) : DeskWork Unit := do
  perform post tag ((← get).situation post outcome false).action

/-- Acknowledges the batch, if it is not empty. -/
def flush (post : Post) : DeskWork Unit := do
  let desk ← get
  match desk.lastDeferred with
  | some last =>
    if 0 < desk.deferred then
      perform post last (if post.settings.transacted then .ackAndCommit (1 < desk.deferred)
        else .ack (1 < desk.deferred))
  | none => pure ()

/-- Gives back a delivery that was received after the request to stop. -/
def turnAway (post : Post) (tag : Nat) : DeskWork Unit := do
  count (.delivery post.queue .rejectedWhileStopping)
  settle post tag .stopping

/-- Settles a delivery as its transaction completed. -/
def afterCompletion (post : Post) (tag : Nat) (requeue : Bool) : TransactionOutcome → DeskWork Unit
  | .committed => do
    ack post tag false
    if post.settings.transacted then commit post
  | .rolledBack => do
    if post.settings.transacted then rollback post
    nack post tag false requeue
    if post.settings.transacted then commit post

/-- Settles a delivery whose transaction was asked for an ending. When nobody told how it
completed, it counts as rolled back, and the delivery of a success goes back to its queue. -/
def conclude (post : Post) (tag : Nat) (ending : Ending) (requeue : Bool)
    (observed : Option TransactionOutcome) : DeskWork Unit :=
  match observed with
  | some outcome => afterCompletion post tag requeue outcome
  | none =>
    let requeue := ending = .commit || requeue
    perform post tag (if post.settings.transacted then .rollbackAndNack requeue false
      else .nack requeue false)

end Desk

end QueueListener
