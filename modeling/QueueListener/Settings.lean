import QueueListener.Acknowledgement
import QueueListener.Recovery
import QueueListener.Refusal
import QueueListener.Scaling
/-!
# Settings of a container

* `Settings` — how a container consumes, scales, recovers and stops, with what holds by default;
* `Settings.fault?` — the first contradiction in the settings.
-/

namespace QueueListener

/-- How deliveries reach a consumer. -/
inductive Reception
  /-- The broker pushes them. -/
  | push
  /-- The consumer asks, and waits for the interval when the queue is empty. -/
  | poll (interval : Duration)
  deriving DecidableEq, Repr

/-- The settings of a container. -/
structure Settings where
  /-- The queues to consume from, in the order of registration. -/
  queues : List String := []
  bounds : Bounds := .exactly 1
  ackMode : AckMode := .auto
  /-- Whether the channels of consumers are transactional. -/
  transacted : Bool := false
  /-- How many successes are acknowledged together. -/
  batchSize : Nat := 1
  /-- How many unsettled deliveries the broker may push to a consumer. -/
  prefetch : Nat := 250
  reception : Reception := .push
  /-- The length of a receive that counts as idle when nothing comes. -/
  receiveTimeout : Duration := Duration.ofSeconds 1
  /-- The length of idleness that makes an event. -/
  idleEvent : Option Duration := none
  activeTrigger : Nat := 10
  idleTrigger : Nat := 10
  startInterval : Duration := Duration.ofSeconds 10
  stopInterval : Duration := Duration.ofSeconds 60
  /-- The period of the monitor. -/
  monitorInterval : Duration := Duration.ofSeconds 5
  recovery : BackOff := .standard
  /-- Whether a missing queue stops the container. -/
  missingFatal : Bool := false
  /-- Whether rejected credentials stop the container. -/
  authenticationFatal : Bool := true
  /-- How long a stop waits for a consumer before its channel is closed by force. -/
  shutdownTimeout : Duration := Duration.ofSeconds 5
  declarationRetry : Duration := Duration.ofSeconds 5
  /-- Whether failed deliveries go back to their queue when the error does not say. -/
  requeueRejected : Bool := true
  /-- Whether a stop closes the shared connection. -/
  ownsConnection : Bool := true
  deriving DecidableEq, Repr

namespace Settings

/-- The rules of scaling in the settings. -/
def scalingRules (s : Settings) : ScalingRules :=
  ⟨s.activeTrigger, s.idleTrigger, s.startInterval, s.stopInterval⟩

/-- The rules of recovery in the settings. -/
def recoveryRules (s : Settings) : RecoveryRules :=
  ⟨s.recovery, s.missingFatal, s.authenticationFatal, s.declarationRetry⟩

/-- The refusal of a blank queue name. -/
def blankName : Refusal := .settings "queue names must not be empty"

/-- What is wrong with new names beside those that are taken: the first name that is blank or taken
decides. -/
def nameFault? (taken : List String) : List String → Option Refusal
  | [] => none
  | name :: rest =>
    if Text.isBlankText name then some blankName
    else if taken.contains name then some (.duplicateQueue name)
    else nameFault? (name :: taken) rest

/-- The checks of single settings in their order: what must not hold, and the wording if it does. -/
def checks (s : Settings) : List (Bool × String) :=
  [(s.ackMode = .none && s.transacted,
      "ack mode NONE cannot be combined with a transacted channel"),
    (s.batchSize = 0, "batch size must be at least 1"),
    (s.prefetch = 0, "prefetch count must be at least 1"),
    (s.receiveTimeout = 0, "receive timeout must be positive"),
    (s.monitorInterval = 0, "monitor interval must be positive"),
    (s.idleEvent = some 0, "idle event interval must be positive"),
    (s.reception = .poll 0, "poll interval must be positive"),
    (s.activeTrigger = 0 || s.idleTrigger = 0, "scaling triggers must be at least 1")]

/-- The wording of the first fault of single settings. -/
def singleFault? (s : Settings) : Option String :=
  match s.bounds.fault? with
  | some reason => some reason
  | none =>
    match s.checks.find? (·.1) with
    | some (_, reason) => some reason
    | none => s.recovery.fault?.map BackOff.Fault.message

/-- The first contradiction in the settings. -/
def fault? (s : Settings) : Option Refusal :=
  match s.singleFault? with
  | some reason => some (.settings reason)
  | none => nameFault? [] s.queues

end Settings

end QueueListener
