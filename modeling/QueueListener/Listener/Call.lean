import QueueListener.BackOff
import QueueListener.Client
import QueueListener.Listener.Script
/-!
# Calls of listeners

**A call runs the script of a delivery on its channel.** It may sleep; it is then told apart into
what it has done and what remains (`Progress`), so that its caller decides what else happens in the
meantime.

* `Call.attemptOnce` — runs a script until it sleeps or ends;
* `Attempt.retrying` — a listener with retries makes a failed call again, after the delay that its
  policy gives, and turns to its last resort when its attempts are used up. A failure of the channel
  is not tried again;
* `Call.resume` — runs a call until it sleeps or ends, with its retries.
-/

namespace QueueListener

/-- What a listener does when its attempts are used up. -/
inductive Recoverer
  /-- Rejects the delivery for good. -/
  | reject
  | accept
  /-- Leaves the error as it is. -/
  | passOn
  deriving DecidableEq, Repr

/-- How a listener tries again. -/
structure Retry where
  attempts : Nat := 3
  backOff : BackOff :=
    .exponential (Duration.ofSeconds 1) (.ofNat 2) (Duration.ofSeconds 10) none
  recoverer : Recoverer := .reject
  deriving DecidableEq, Repr

/-- The kinds of listeners. -/
inductive ListenerKind
  | plain
  /-- A listener that was made from a function. -/
  | function
  /-- A listener that uses the channel. -/
  | channelAware
  /-- A listener that accepts everything. -/
  | accepting
  deriving DecidableEq, Repr

/-- A listener. -/
structure Listener where
  kind : ListenerKind := .plain
  /-- The scripts of its calls, the last one for all further calls; when there is none, the payload
  is the script. -/
  scripts : List String := []
  retry : Option Retry := none
  deriving DecidableEq, Repr

namespace Listener

/-- The name of a listener, if its kind gives it one. -/
def name? (listener : Listener) : Option String :=
  match listener.kind with
  | .function => some "fn_listener"
  | .accepting => some "noop"
  | .plain => none
  | .channelAware => none

/-- The script of the call with that number, from zero. -/
def scriptFor (listener : Listener) (call : Nat) (payload : Payload) : String :=
  match listener.scripts[min call (listener.scripts.length - 1)]? with
  | some script => script
  | none => payload.text?.getD ""

end Listener

/-- What a call leaves in its log. -/
inductive Note
  | called (tag : Nat) (payload : Payload) (redelivered : Bool)
  | ended
  | got (delivery : Option Delivery)
  | confirmed (before after : Bool)
  | closed (isOpen targetOpen : Bool)
  | info (number : Nat) (transactional isOpen : Bool)
  | recovered (tag : Nat) (error : String)
  deriving DecidableEq

/-- What calls work on: the client, the channel of the consumer, how many calls were made, and the
notes that were taken since it was set up. -/
structure Bench where
  client : Client
  channel : ManagedChannel
  calls : Nat
  notes : Array Note := #[]

/-- A call under way: the delivery, the number of the attempt, and what remains of the script; none
when the attempt has not begun. -/
structure Call where
  delivery : Delivery
  attempt : Nat
  rest : Option (List Command)
  deriving DecidableEq

/-- Where a call has got to. -/
inductive Progress
  /-- It goes on after so long. -/
  | sleeping (duration : Duration) (call : Call)
  | ended (result : Except ListenerError Unit)

/-- How a command ends. -/
inductive CommandEnd
  | goOn
  | finish
  | sleep (duration : Duration)
  | fail (error : ListenerError)

namespace Bench

/-- Takes a note. -/
def note (bench : Bench) (entry : Note) : Bench := { bench with notes := bench.notes.push entry }

/-- The end of a command that did something on the channel. -/
def settled (bench : Bench) : Except ClientError Unit × Client → CommandEnd × Bench
  | (.ok (), client) => (.goOn, { bench with client })
  | (.error error, client) => (.fail (.transport error), { bench with client })

/-- Takes a message from a queue, without acknowledgement. -/
def get (bench : Bench) (queue : String) : CommandEnd × Bench :=
  match bench.client.call .get (·.get bench.channel.target queue true) with
  | (.ok delivery, client) => (.goOn, { bench with client }.note (.got delivery))
  | (.error error, client) => (.fail (.transport error), { bench with client })

/-- Switches publisher confirms on. -/
def confirm (bench : Bench) : CommandEnd × Bench :=
  match bench.channel.confirm bench.client with
  | (.ok channel, client) =>
    (.goOn, { bench with client, channel }.note
      (.confirmed bench.channel.confirmSelected channel.confirmSelected))
  | (.error error, client) => (.fail (.transport error), { bench with client })

/-- Asks for the channel to be closed. -/
def close (bench : Bench) : CommandEnd × Bench :=
  match bench.channel.close bench.client with
  | (.ok (), client) =>
    let isOpen := bench.channel.isOpen client
    (.goOn, { bench with client }.note (.closed isOpen isOpen))
  | (.error error, client) => (.fail (.transport error), { bench with client })

/-- Carries out a command that uses the channel. -/
def useChannel (bench : Bench) (delivery : Delivery) : Command → CommandEnd × Bench
  | .ack tag multiple =>
    bench.settled (bench.client.ack bench.channel.target (tag.getD delivery.tag) multiple)
  | .nack tag requeue =>
    bench.settled (bench.client.nack bench.channel.target (tag.getD delivery.tag) false requeue)
  | .commit => bench.settled (bench.client.commit bench.channel.target)
  | .rollback => bench.settled (bench.client.rollback bench.channel.target)
  | .publish queue payload =>
    bench.settled (bench.client.call .publish
      (·.publishOn bench.channel.target "" queue payload.toUTF8 {}))
  | .get queue => bench.get queue
  | .confirm => bench.confirm
  | .close => bench.close
  | .info =>
    (.goOn, bench.note (.info bench.channel.number bench.channel.transactional
      (bench.channel.isOpen bench.client)))
  | _ => (.goOn, bench)

/-- Carries out a command. -/
def perform (bench : Bench) (aware : Bool) (delivery : Delivery) :
    Command → CommandEnd × Bench
  | .sleep millis => (.sleep (Duration.ofMillis millis), bench)
  | .fail reason requeue caused =>
    if caused then
      (.fail (.failed "wrapped" none (some (TransactionError.begin reason).message)), bench)
    else (.fail (.failed reason requeue none), bench)
  | .panic payload => (.fail (.panicked payload.message), bench)
  | .finish => (.finish, bench)
  | .nothing => (.goOn, bench)
  | command => if aware then bench.useChannel delivery command else (.goOn, bench)

/-- Carries out commands until one sleeps or fails, or they end. A sleep of no length goes on at
once. -/
def run (bench : Bench) (aware : Bool) (call : Call) : List Command → Progress × Bench
  | [] => (.ended (.ok ()), bench.note .ended)
  | command :: rest =>
    match bench.perform aware call.delivery command with
    | (.goOn, bench) => run bench aware call rest
    | (.finish, bench) => (.ended (.ok ()), bench.note .ended)
    | (.fail error, bench) => (.ended (.error error), bench)
    | (.sleep duration, bench) =>
      if duration = 0 then run bench aware call rest
      else (.sleeping duration { call with rest := some rest }, bench)

end Bench

namespace Call

/-- A call at its beginning. -/
def start (delivery : Delivery) : Call := ⟨delivery, 1, none⟩

/-- The commands that remain, and the bench with the beginning of an attempt noted. -/
def begin (call : Call) (listener : Listener) (bench : Bench) : List Command × Bench :=
  match call.rest with
  | some rest => (rest, bench)
  | none =>
    let script := listener.scriptFor bench.calls call.delivery.payload
    let bench := { bench with calls := bench.calls + 1 }.note
      (.called call.delivery.tag call.delivery.payload call.delivery.redelivered)
    (Script.commandsFor call.delivery.redelivered (Script.read script), bench)

/-- Runs an attempt until it sleeps or ends. -/
def attemptOnce (call : Call) (listener : Listener) (bench : Bench) : Progress × Bench :=
  match listener.kind with
  | .accepting => (.ended (.ok ()), bench)
  | .plain =>
    let (commands, bench) := call.begin listener bench
    bench.run false call commands
  | .function =>
    let (commands, bench) := call.begin listener bench
    bench.run false call commands
  | .channelAware =>
    let (commands, bench) := call.begin listener bench
    bench.run true call commands

end Call

/-- What a listener does for a call, until it sleeps or ends. -/
abbrev Attempt := Call → Bench → Progress × Bench

/-- What decides about a delivery by the last error. -/
abbrev LastResort := Delivery → ListenerError → Bench → Except ListenerError Unit × Bench

/-- The answer of a recoverer to the last error. -/
def Recoverer.answer (recoverer : Recoverer) : LastResort := fun delivery error bench =>
  match recoverer with
  | .reject => (.error (.reject ("retry policy exhausted: " ++ error.message)), bench)
  | .accept => (.ok (), bench.note (.recovered delivery.tag error.message))
  | .passOn => (.error error, bench.note (.recovered delivery.tag error.message))

namespace Call

/-- The greatest limit of attempts. -/
def greatestLimit : Nat := 4294967295

/-- The delay before the attempt that follows. The limit of the policy does not count. -/
def delayAfter (call : Call) (backOff : BackOff) : Except TimeFault Duration :=
  ((backOff.limited greatestLimit).delay? call.attempt).map (·.getD 0)

/-- What follows a failed attempt. A delay that cannot be formed is a panic of the listener. -/
def afterFailure (call : Call) (attempts : Nat) (backOff : BackOff) (resort : LastResort)
    (error : ListenerError) (bench : Bench) : Progress × Bench :=
  if error.isTransport then (.ended (.error error), bench)
  else if max attempts 1 ≤ call.attempt then
    let (answer, bench) := resort call.delivery error bench
    (.ended answer, bench)
  else match call.delayAfter backOff with
    | .error fault => (.ended (.error (.panicked fault.message)), bench)
    | .ok delay => (.sleeping delay ⟨call.delivery, call.attempt + 1, none⟩, bench)

end Call

/-- Makes an attempt again when it fails, at most that many in all. -/
def Attempt.retrying (attempts : Nat) (backOff : BackOff) (resort : LastResort)
    (attempt : Attempt) : Attempt := fun call bench =>
  match attempt call bench with
  | (.ended (.error error), bench) => call.afterFailure attempts backOff resort error bench
  | other => other

/-- What a listener does without its retries. -/
def Listener.once (listener : Listener) : Attempt := fun call bench =>
  call.attemptOnce listener bench

/-- Runs a call until it sleeps or ends. -/
def Call.resume (call : Call) (listener : Listener) (bench : Bench) : Progress × Bench :=
  match listener.retry with
  | some retry =>
    listener.once.retrying retry.attempts retry.backOff retry.recoverer.answer call bench
  | none => listener.once call bench

/-- Nothing but this call happens: it runs to its end, and time passes while it sleeps. Notes are
given with the millisecond at which they were taken. The call must not sleep more than `fuel`
times. -/
def Listener.invoke (listener : Listener) : Nat → Nat → Call → Bench →
    Array (Nat × Note) → Option (Except ListenerError Unit) × Nat × Bench × Array (Nat × Note)
  | 0, now, _, bench, log => (none, now, bench, log)
  | fuel + 1, now, call, bench, log =>
    let (progress, bench) := call.resume listener bench
    let log := log ++ bench.notes.map fun entry => (now, entry)
    let bench := { bench with notes := #[] }
    match progress with
    | .ended result => (some result, now, bench, log)
    | .sleeping duration call =>
      listener.invoke fuel (now + duration.wholeMillis) call bench log

end QueueListener
