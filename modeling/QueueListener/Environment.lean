import QueueListener.Number.Integer
import QueueListener.Settings
/-!
# Settings from the environment

**Variables that are not set keep their defaults.**

* `Environment.read` — a value that is read from a variable; a blank one counts as not set;
* `Environment.settings` — the settings of a container, from the variables `LISTENER_*`;
* `Environment.workerSettings` — the same, with a queue to consume from in any case;
* `Environment.healthAddress`, `Environment.isProduction` — where the health server listens, and
  which kind of surroundings this is.
-/

namespace QueueListener

open Number

/-- The environment: the text of a variable, if it is set to text. -/
abbrev Environment := String → Option String

/-- A variable whose value cannot be read. -/
structure ReadFault where
  key : String
  details : String
  deriving DecidableEq, Repr

/-- The wording of the fault. -/
def ReadFault.message (fault : ReadFault) : String :=
  "Failed to parse environment variable '" ++ fault.key ++ "': " ++ fault.details

/-- A way to read a value from text, or the wording of what is wrong. -/
abbrev Reader (α : Type) := String → Except String α

namespace Reader

/-- A natural number of so many bits. -/
def natural (bits : Nat) : Reader Nat := fun text =>
  (readNatural (greatest bits) text).mapError IntegerFault.message

/-- A signed integer of 32 bits. -/
def signed32 : Reader Int := fun text =>
  (readInteger 2147483648 2147483647 text).mapError IntegerFault.message

/-- `true` or `false`. -/
def boolean : Reader Bool := fun text =>
  if text = "true" then .ok true
  else if text = "false" then .ok false
  else .error "provided string was not `true` or `false`"

/-- A floating-point number. -/
def float : Reader Binary64 := fun text =>
  match Binary64.read? text with
  | some value => .ok value
  | none => .error "invalid float literal"

end Reader

namespace Environment

/-- The text of a variable, whatever it is, or a default. -/
def textOr (env : Environment) (key default : String) : String := (env key).getD default

/-- Reads a variable, trimmed. A blank one counts as not set. -/
def read {α : Type} (env : Environment) (reader : Reader α) (key : String) :
    Except ReadFault (Option α) :=
  match env key with
  | none => .ok none
  | some raw =>
    if Text.isBlankText raw then .ok none
    else match reader (Text.trim raw) with
      | .ok value => .ok (some value)
      | .error details => .error ⟨key, details⟩

/-- Reads a variable that has a default. -/
def readOr {α : Type} (env : Environment) (reader : Reader α) (key : String) (default : α) :
    Except ReadFault α := do
  return (← env.read reader key).getD default

/-- Reads a number of milliseconds, with a default. -/
def millisOr (env : Environment) (key : String) (default : Duration) :
    Except ReadFault Duration := do
  return ((← env.read (.natural 64) key).map Duration.ofMillis).getD default

/-- A comma separated list; empty when the variable is not set. -/
def list (env : Environment) (key : String) : List String :=
  match env key with
  | some raw => Text.listItems raw
  | none => []

/-- The acknowledgement mode. -/
def ackMode (env : Environment) : Except ReadFault AckMode :=
  match AckMode.read? (env.textOr "LISTENER_ACK_MODE" AckMode.auto.text) with
  | some mode => .ok mode
  | none => .error ⟨"LISTENER_ACK_MODE", "Matching variant not found"⟩

/-- How deliveries reach consumers. -/
def reception (env : Environment) : Except ReadFault Reception :=
  let mode := Text.lower (env.textOr "LISTENER_DELIVERY_MODE" "push")
  if mode = "push" then .ok .push
  else if mode = "pull" then do
    return .poll (← env.millisOr "LISTENER_POLL_INTERVAL_MS" (Duration.ofMillis 100))
  else .error ⟨"LISTENER_DELIVERY_MODE", "expected 'push' or 'pull', got '" ++ mode ++ "'"⟩

/-- The back-off of the recovery: growing when the multiplier is above one. -/
def recovery (env : Environment) : Except ReadFault BackOff := do
  let initial ← env.millisOr "LISTENER_RECOVERY_INTERVAL_MS" (Duration.ofSeconds 5)
  let multiplier ← env.readOr .float "LISTENER_RECOVERY_MULTIPLIER" (.ofNat 1)
  let limit ← env.read (.natural 32) "LISTENER_RECOVERY_MAX_ATTEMPTS"
  if (Binary64.ofNat 1).lt multiplier then
    let longest ← env.millisOr "LISTENER_RECOVERY_MAX_INTERVAL_MS" (Duration.ofSeconds 60)
    return .exponential initial multiplier longest limit
  else return .fixed initial limit

/-- The settings of a container. The first variable that cannot be read decides. -/
def settings (env : Environment) : Except ReadFault Settings := do
  let standard : Settings := {}
  let ackMode ← env.ackMode
  let reception ← env.reception
  let least ← env.readOr (.natural 64) "LISTENER_MIN_CONSUMERS" standard.bounds.least
  let most ← env.readOr (.natural 64) "LISTENER_MAX_CONSUMERS" (max least standard.bounds.most)
  let queues := env.list "LISTENER_QUEUES"
  let transacted ← env.readOr .boolean "LISTENER_CHANNEL_TRANSACTED" standard.transacted
  let batchSize ← env.readOr (.natural 64) "LISTENER_BATCH_SIZE" standard.batchSize
  let prefetch ← env.readOr (.natural 16) "LISTENER_PREFETCH" standard.prefetch
  let receiveTimeout ← env.millisOr "LISTENER_RECEIVE_TIMEOUT_MS" standard.receiveTimeout
  let idleEvent ← env.read (.natural 64) "LISTENER_IDLE_EVENT_INTERVAL_MS"
  let activeTrigger ← env.readOr (.natural 32) "LISTENER_ACTIVE_TRIGGER" standard.activeTrigger
  let idleTrigger ← env.readOr (.natural 32) "LISTENER_IDLE_TRIGGER" standard.idleTrigger
  let startInterval ←
    env.millisOr "LISTENER_START_CONSUMER_MIN_INTERVAL_MS" standard.startInterval
  let stopInterval ← env.millisOr "LISTENER_STOP_CONSUMER_MIN_INTERVAL_MS" standard.stopInterval
  let monitorInterval ← env.millisOr "LISTENER_MONITOR_INTERVAL_MS" standard.monitorInterval
  let recovery ← env.recovery
  let missingFatal ← env.readOr .boolean "LISTENER_MISSING_QUEUES_FATAL" standard.missingFatal
  let authenticationFatal ←
    env.readOr .boolean "LISTENER_AUTH_FAILURE_FATAL" standard.authenticationFatal
  let shutdownTimeout ← env.millisOr "LISTENER_SHUTDOWN_TIMEOUT_MS" standard.shutdownTimeout
  let declarationRetry ←
    env.millisOr "LISTENER_DECLARATION_RETRY_INTERVAL_MS" standard.declarationRetry
  let requeueRejected ←
    env.readOr .boolean "LISTENER_DEFAULT_REQUEUE_REJECTED" standard.requeueRejected
  return {
    queues, bounds := ⟨least, most⟩, ackMode, transacted, batchSize, prefetch, reception
    receiveTimeout, idleEvent := idleEvent.map Duration.ofMillis, activeTrigger, idleTrigger
    startInterval, stopInterval, monitorInterval, recovery, missingFatal, authenticationFatal
    shutdownTimeout, declarationRetry, requeueRejected }

/-- The settings of a worker, which consumes from the queue `demo` when no queue is named, or the
wording of what went wrong. -/
def workerSettings (env : Environment) : Except String Settings :=
  match env.settings with
  | .error fault => .error ("Failed to load listener configuration: " ++ fault.message)
  | .ok settings =>
    if settings.queues.isEmpty then .ok { settings with queues := ["demo"] } else .ok settings

/-- How many messages a worker publishes to each of its queues at first. -/
def demoMessages (env : Environment) : Except ReadFault Nat :=
  env.readOr (.natural 64) "LISTENER_DEMO_MESSAGES" 10

/-- Where the health server listens. -/
structure HealthAddress where
  host : String
  port : Nat
  deriving DecidableEq, Repr

/-- The address as text. -/
def HealthAddress.text (address : HealthAddress) : String :=
  address.host ++ ":" ++ toString address.port

/-- The address of the health server. -/
def healthAddress (env : Environment) : Except ReadFault HealthAddress := do
  let host := env.textOr "HEALTH_HOST" "0.0.0.0"
  let port ← env.readOr (.natural 16) "HEALTH_PORT" 8082
  return { host, port }

/-- Whether these are the surroundings of production; everything else is development. -/
def isProduction (env : Environment) : Bool :=
  Text.sameIgnoringCase (env.textOr "APP_ENV" "development") "production"

end Environment

end QueueListener
