import QueueListener.BackOff
import QueueListener.Failure
import QueueListener.Status
import QueueListener.Table
/-!
# Recovery from failures

**The supervisor turns the failures of consumers into actions** and keeps the state of every
tracked queue. It decides; the container acts.

* a missing queue is paused, and looked for again at intervals;
* failures of the connection and of credentials share one round of recovery: each failed attempt
  of the round takes one delay from the back-off policy, and the first consumer that comes up ends
  the round;
* failures of one channel or one consumer only replace that consumer.
-/

namespace QueueListener

/-- What the container has to do after a failure. -/
inductive RecoveryAction
  /-- Replace the consumer at the next look at the queue. -/
  | restart (queue : String)
  | pause (queue : String)
  | scheduleRetry (delay : Duration) (attempt : Nat)
  /-- The round that is waiting accounts for this failure. -/
  | awaitRound
  | fatal (reason : String)
  deriving DecidableEq, Repr

/-- How to recover. -/
structure RecoveryRules where
  backOff : BackOff
  missingFatal : Bool
  authenticationFatal : Bool
  declarationRetry : Duration
  deriving DecidableEq, Repr

/-- A tracked queue. -/
structure TrackedQueue where
  state : QueueState
  /-- When to look for the queue again. -/
  nextDeclaration : Option Instant
  deriving DecidableEq, Repr

namespace TrackedQueue

/-- When to look for the queue, if it is missing. -/
def deadline? (tracked : TrackedQueue) : Option Instant :=
  if tracked.state = .missing then tracked.nextDeclaration else none

/-- Whether it is time to look for the queue. -/
def isDue (tracked : TrackedQueue) (now : Instant) : Bool :=
  match tracked.deadline? with
  | some deadline => deadline ≤ now
  | none => false

end TrackedQueue

/-- A round of recovery. -/
structure Round where
  walk : BackOff.Walk
  nextAttempt : Instant
  /-- Whether an attempt is under way. -/
  inFlight : Bool
  deriving DecidableEq, Repr

namespace Round

/-- Whether the round forbids to start consumers. -/
def blocks (round : Round) (now : Instant) : Bool := round.inFlight || now < round.nextAttempt

/-- Whether the next attempt may be made. -/
def isDue (round : Round) (now : Instant) : Bool := !round.inFlight && round.nextAttempt ≤ now

end Round

/-- The supervisor. -/
structure Supervisor where
  rules : RecoveryRules
  queues : Table String TrackedQueue
  round : Option Round
  deriving DecidableEq, Repr

namespace Supervisor

/-- A supervisor that tracks no queue. -/
def new (rules : RecoveryRules) : Supervisor := ⟨rules, .empty, none⟩

/-- Tracks a queue, which counts as declared; a queue that is tracked stays as it is. -/
def track (s : Supervisor) (queue : String) : Supervisor :=
  if s.queues.contains queue then s
  else { s with queues := s.queues.set queue ⟨.declared, none⟩ }

/-- Forgets a queue; the last one takes the round with it. -/
def forget (s : Supervisor) (queue : String) : Supervisor :=
  let queues := s.queues.erase queue
  { s with queues, round := if queues.entries.isEmpty then none else s.round }

/-- The state of a queue, if it is tracked. -/
def state? (s : Supervisor) (queue : String) : Option QueueState :=
  (s.queues.get? queue).map (·.state)

/-- Whether consumers may run on a queue. -/
def isConsumable (s : Supervisor) (queue : String) : Bool :=
  match s.state? queue with
  | some state => state.isConsumable
  | none => false

/-- Sets the state of a queue, if it is tracked. -/
def setState (s : Supervisor) (queue : String) (state : QueueState) : Supervisor :=
  { s with queues := s.queues.modify queue fun tracked => { tracked with state } }

/-- A consumer came up: the round is over. -/
def consumeOk (s : Supervisor) (queue : String) : Supervisor :=
  { s with
    round := none
    queues := s.queues.modify queue fun tracked =>
      if tracked.state = .recovering then { tracked with state := .declared } else tracked }

/-- The wording when the policy allows no further attempt. -/
def exhausted (attempts : Nat) (error : ClientError) : String :=
  "recovery back-off exhausted after " ++ toString attempts ++ " attempts: " ++ error.message

/-- Takes the next delay of a round whose attempt has failed. -/
def advanceRound (s : Supervisor) (round : Round) (error : ClientError) (now : Instant) :
    Except TimeFault RecoveryAction × Supervisor :=
  let round := { round with inFlight := false }
  match round.walk.next with
  | .error fault => (.error fault, { s with round := some round })
  | .ok (none, walk) =>
    (.ok (.fatal (exhausted walk.attempts.toNat error)), { s with round := none })
  | .ok (some delay, walk) =>
    match now.after delay with
    | .error fault => (.error fault, { s with round := some { round with walk } })
    | .ok nextAttempt =>
      (.ok (.scheduleRetry delay walk.attempts.toNat),
        { s with round := some { round with walk, nextAttempt } })

/-- Schedules an attempt, unless a round is waiting for its attempt already. -/
def scheduleRetry (s : Supervisor) (error : ClientError) (now : Instant) :
    Except TimeFault RecoveryAction × Supervisor :=
  match s.round with
  | some round => if round.inFlight then s.advanceRound round error now else (.ok .awaitRound, s)
  | none => s.advanceRound ⟨BackOff.start s.rules.backOff, now, false⟩ error now

/-- Pauses a queue until it is found again. -/
def pause (s : Supervisor) (queue : String) (now : Instant) :
    Except TimeFault RecoveryAction × Supervisor :=
  match now.after s.rules.declarationRetry with
  | .error fault => (.error fault, s)
  | .ok next =>
    (.ok (.pause queue),
      { s with queues := s.queues.modify queue fun _ => ⟨.missing, some next⟩ })

/-- Judges the failure of a consumer. -/
def onFailure (s : Supervisor) (queue : String) (error : ClientError) (now : Instant) :
    Except TimeFault RecoveryAction × Supervisor :=
  match error.kind with
  | .missingQueue =>
    if s.rules.missingFatal then
      (.ok (.fatal ("queue '" ++ queue ++ "' is missing and missing queues are fatal")),
        s.setState queue .fatal)
    else s.pause queue now
  | .authentication =>
    if s.rules.authenticationFatal then
      (.ok (.fatal ("authentication failure: " ++ error.message)), s.setState queue .fatal)
    else (s.setState queue .recovering).scheduleRetry error now
  | .connection => (s.setState queue .recovering).scheduleRetry error now
  | .channel => (.ok (.restart queue), s)
  | .cancelled => (.ok (.restart queue), s)

/-- Whether consumers must not be started now. -/
def restartsBlocked (s : Supervisor) (now : Instant) : Bool :=
  match s.round with
  | some round => round.blocks now
  | none => false

/-- Whether the attempt of the round may be made now. -/
def attemptDue (s : Supervisor) (now : Instant) : Bool :=
  match s.round with
  | some round => round.isDue now
  | none => false

/-- An attempt is under way. -/
def beginAttempt (s : Supervisor) : Supervisor :=
  { s with round := s.round.map fun round => { round with inFlight := true } }

/-- Gives the round up. -/
def abandonRound (s : Supervisor) : Supervisor := { s with round := none }

/-- The deadlines of the round and of the missing queues. -/
def deadlines (s : Supervisor) : List Instant :=
  let round := match s.round with
    | some round => if round.inFlight then [] else [round.nextAttempt]
    | none => []
  round ++ s.queues.values.filterMap TrackedQueue.deadline?

/-- The first instant at which something is due. -/
def nextDeadline? (s : Supervisor) : Option Instant := s.deadlines.min?

/-- The queues that it is time to look for, in alphabetical order. Each gets a new deadline; when
the clock cannot show it, nothing is taken. -/
def takeDue (s : Supervisor) (now : Instant) : Except TimeFault (List String × Supervisor) :=
  let due := (s.queues.entries.filter fun entry => entry.2.isDue now).map (·.1)
  if due.isEmpty then .ok ([], s)
  else match now.after s.rules.declarationRetry with
    | .error fault => .error fault
    | .ok next =>
      .ok (due.mergeSort fun a b => decide (a ≤ b),
        { s with queues := ⟨s.queues.entries.map fun entry =>
            if entry.2.isDue now then
              (entry.1, { entry.2 with nextDeclaration := some next })
            else entry⟩ })

/-- Hears whether a queue exists; tells whether it was missing until now. -/
def declarationResult (s : Supervisor) (queue : String) (found : Bool) : Bool × Supervisor :=
  if found && s.state? queue = some .missing then
    (true, { s with queues := s.queues.modify queue fun _ => ⟨.declared, none⟩ })
  else (false, s)

/-- Gives all queues up. -/
def markAllFatal (s : Supervisor) : Supervisor :=
  { s with
    queues := ⟨s.queues.entries.map fun entry => (entry.1, { entry.2 with state := .fatal })⟩
    round := none }

end Supervisor

end QueueListener
