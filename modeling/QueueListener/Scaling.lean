import QueueListener.Table
import QueueListener.Time
/-!
# Adaptive concurrency

**At every look at a queue at most one consumer is added or retired.**

* `Bounds` — how few and how many consumers a queue may have;
* `Scaling.evaluate` — one more consumer when all are busy, one less when one is idle, each not
  more often than its interval allows;
* `Scaling.forget` — drops what is remembered of a queue.
-/

namespace QueueListener

/-- The bounds on the number of consumers of a queue. -/
structure Bounds where
  least : Nat
  most : Nat
  deriving DecidableEq, Repr

namespace Bounds

/-- Exactly that many. -/
def exactly (count : Nat) : Bounds := ⟨count, count⟩

/-- The wording of what is wrong with bounds. -/
def fault? (b : Bounds) : Option String :=
  if b.least = 0 then some "min consumers per queue must be at least 1"
  else if b.most < b.least then
    some ("min consumers per queue (" ++ toString b.least ++ ") exceeds max (" ++
      toString b.most ++ ")")
  else none

/-- How many consumers are missing. -/
def deficit (b : Bounds) (count : Nat) : Nat := b.least - count

/-- How many consumers are too many. -/
def surplus (b : Bounds) (count : Nat) : Nat := count - b.most

end Bounds

/-- What is known of a consumer at a look at its queue. -/
structure Sample where
  consumer : Nat
  startedAt : Instant
  /-- How many receives in a row came back empty. -/
  idleStreak : Nat
  /-- How many deliveries came in a row. -/
  activeStreak : Nat
  deriving DecidableEq, Repr

/-- When to scale. -/
structure ScalingRules where
  activeTrigger : Nat
  idleTrigger : Nat
  startInterval : Duration
  stopInterval : Duration
  deriving DecidableEq, Repr

/-- The outcome of a look at a queue. -/
inductive ScalingDecision
  | hold
  | startOne
  | stopOne (consumer : Nat)
  deriving DecidableEq, Repr

/-- The rules, and when a consumer was last added to or taken from a queue. -/
structure Scaling where
  rules : ScalingRules
  lastStarted : Table String Instant
  lastStopped : Table String Instant
  deriving DecidableEq, Repr

namespace Scaling

/-- Rules without history. -/
def new (rules : ScalingRules) : Scaling := ⟨rules, .empty, .empty⟩

/-- Whether the interval has passed since the remembered instant, if there is one. -/
def elapsed (last : Table String Instant) (queue : String) (now : Instant)
    (interval : Duration) : Bool :=
  match last.get? queue with
  | some earlier => interval ≤ now.since earlier
  | none => true

/-- The sample that started first; the earlier one of the list when two started together. -/
def oldest? : List Sample → Option Sample
  | [] => none
  | sample :: rest =>
    match oldest? rest with
    | some other => if other.startedAt < sample.startedAt then some other else some sample
    | none => some sample

/-- The consumer to retire, if one has been idle for long. -/
def idlest? (s : Scaling) (samples : List Sample) : Option Sample :=
  oldest? (samples.filter fun sample => s.rules.idleTrigger ≤ sample.idleStreak)

/-- Whether one more consumer is called for. -/
def wantsMore (s : Scaling) (queue : String) (bounds : Bounds) (samples : List Sample)
    (now : Instant) : Bool :=
  samples.length < bounds.most && elapsed s.lastStarted queue now s.rules.startInterval &&
    samples.all fun sample => s.rules.activeTrigger ≤ sample.activeStreak

/-- Whether a consumer may be retired. -/
def allowsFewer (s : Scaling) (queue : String) (bounds : Bounds) (samples : List Sample)
    (now : Instant) : Bool :=
  bounds.least < samples.length && elapsed s.lastStopped queue now s.rules.stopInterval

/-- Looks at a queue. The instant of a decision is remembered. -/
def evaluate (s : Scaling) (queue : String) (bounds : Bounds) (samples : List Sample)
    (now : Instant) : ScalingDecision × Scaling :=
  if samples.isEmpty then (.hold, s)
  else if s.wantsMore queue bounds samples now then
    (.startOne, { s with lastStarted := s.lastStarted.set queue now })
  else if s.allowsFewer queue bounds samples now then
    match s.idlest? samples with
    | some victim =>
      (.stopOne victim.consumer, { s with lastStopped := s.lastStopped.set queue now })
    | none => (.hold, s)
  else (.hold, s)

/-- Drops what is remembered of a queue. -/
def forget (s : Scaling) (queue : String) : Scaling :=
  { s with lastStarted := s.lastStarted.erase queue, lastStopped := s.lastStopped.erase queue }

end Scaling

end QueueListener
