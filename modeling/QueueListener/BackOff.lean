import QueueListener.Time
import QueueListener.Number.Decimal
/-!
# Back-off policies

**A policy gives the delay before each attempt**, counted from one, and `none` past its limit.

* `BackOff.delay?` — the delay before an attempt: always the same, or growing by a factor up to a
  longest delay;
* `BackOff.fault?` — what makes an exponential policy unusable;
* `BackOff.Walk` — a walk along a policy, one attempt at a time, with a counter of 32 bits.
-/

namespace QueueListener

open Number

/-- When to try again. A limit counts attempts; without one there is no last attempt. -/
inductive BackOff
  /-- The same delay before every attempt. -/
  | fixed (interval : Duration) (limit : Option Nat)
  /-- A delay that grows by `multiplier` with every attempt, up to `longest`. -/
  | exponential (initial : Duration) (multiplier : Binary64) (longest : Duration)
      (limit : Option Nat)
  deriving DecidableEq, Repr

namespace BackOff

/-- Every five seconds, without end. -/
def standard : BackOff := .fixed (Duration.ofSeconds 5) none

/-- The attempts that the policy allows, if it has a limit. -/
def limit : BackOff → Option Nat
  | .fixed _ limit => limit
  | .exponential _ _ _ limit => limit

/-- The policy with another limit. -/
def limited (attempts : Nat) : BackOff → BackOff
  | .fixed interval _ => .fixed interval (some attempts)
  | .exponential initial multiplier longest _ =>
    .exponential initial multiplier longest (some attempts)

/-- Whether the attempt is one that the policy allows. -/
def allows (policy : BackOff) (attempt : Nat) : Bool :=
  attempt ≠ 0 && match policy.limit with
    | some most => attempt ≤ most
    | none => true

/-- The greatest exponent that is used for a power. -/
def greatestExponent : Nat := 2147483647

/-- The grown delay before an attempt. A value that is undefined, infinite or not below the longest
delay gives the longest delay. -/
def grownDelay (initial : Duration) (multiplier : Binary64) (longest : Duration) (attempt : Nat) :
    Except TimeFault Duration :=
  let start := Binary64.ofSeconds initial.seconds initial.subsecond
  let seconds := start.mul (multiplier.pow (min (attempt - 1) greatestExponent))
  if !seconds.isFinite || (Binary64.ofSeconds longest.seconds longest.subsecond).le seconds then
    .ok longest
  else if seconds.lt (.ofNat 0) then .error .negativeDelay
  else .ok seconds.toNanos

/-- The delay before the attempt with that number, from one; none for an attempt that is not
allowed. -/
def delay? (policy : BackOff) (attempt : Nat) : Except TimeFault (Option Duration) :=
  if !policy.allows attempt then .ok none
  else match policy with
    | .fixed interval _ => .ok (some interval)
    | .exponential initial multiplier longest _ =>
      (grownDelay initial multiplier longest attempt).map some

/-- What makes a policy unusable. -/
inductive Fault
  | multiplier (value : Binary64)
  | longestBelowInitial
  deriving DecidableEq, Repr

/-- The wording of the fault. -/
def Fault.message : Fault → String
  | .multiplier value => "back-off multiplier must be >= 1.0, got " ++ value.text
  | .longestBelowInitial => "back-off max interval is shorter than the initial interval"

/-- The first fault of a policy. A fixed delay has none. -/
def fault? : BackOff → Option Fault
  | .fixed .. => none
  | .exponential initial multiplier longest _ =>
    if !multiplier.isFinite || multiplier.lt (.ofNat 1) then some (.multiplier multiplier)
    else if longest < initial then some .longestBelowInitial
    else none

/-- A walk along a policy: how many delays it has handed out. -/
structure Walk where
  policy : BackOff
  attempts : UInt32
  deriving DecidableEq, Repr

/-- A walk at its beginning. -/
def start (policy : BackOff) : Walk := ⟨policy, 0⟩

/-- The number of the next attempt: one more than were made, as far as the counter can tell. -/
def Walk.upcoming (walk : Walk) : Nat := min (walk.attempts.toNat + 1) (UInt32.size - 1)

/-- The next delay, and the walk after it. Past the limit the walk stays as it is. -/
def Walk.next (walk : Walk) : Except TimeFault (Option Duration × Walk) :=
  match walk.policy.delay? walk.upcoming with
  | .error fault => .error fault
  | .ok none => .ok (none, walk)
  | .ok (some delay) => .ok (some delay, { walk with attempts := walk.attempts + 1 })

end BackOff

end QueueListener
