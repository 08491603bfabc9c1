import QueueListener.Number.Integer
import QueueListener.Text.Blank
/-!
# Scripts of listeners

**A script says what a listener does with a delivery.** Its text is a list of commands between
semicolons; a command is a word, and behind one space its argument. The prefix `first ` skips a
command for a delivery that was delivered before. A word that is not known does nothing.
-/

namespace QueueListener

/-- How a scripted call panics. -/
inductive PanicPayload
  | text (message : String)
  /-- Something that is no text. -/
  | other
  deriving DecidableEq, Repr

/-- The wording of a panic. -/
def PanicPayload.message : PanicPayload → String
  | .text message => message
  | .other => "unknown panic payload"

/-- A command. A tag that is not given is the tag of the delivery. -/
inductive Command
  | sleep (millis : Nat)
  /-- Fails; `requeue` overrides the default, and `caused` adds an error behind. -/
  | fail (reason : String) (requeue : Option Bool) (caused : Bool)
  | panic (payload : PanicPayload)
  /-- Ends the script. -/
  | finish
  | ack (tag : Option Nat) (multiple : Bool)
  | nack (tag : Option Nat) (requeue : Bool)
  | commit
  | rollback
  | publish (queue payload : String)
  | get (queue : String)
  | confirm
  | close
  | info
  | nothing
  deriving DecidableEq, Repr

/-- A command, and whether it is only for a first delivery. -/
structure Instruction where
  firstOnly : Bool
  command : Command
  deriving DecidableEq, Repr

namespace Script

/-- The part before the first space, and the part behind it. -/
def cutAtSpace : List Char → List Char × List Char
  | [] => ([], [])
  | ' ' :: rest => ([], rest)
  | c :: rest => let (word, argument) := cutAtSpace rest; (c :: word, argument)

/-- A tag that is given as an argument. -/
def tag? (argument : String) : Option Nat :=
  (Number.readNatural (Number.greatest 64) argument).toOption

/-- The command for a word and its argument. -/
def commandFor (word argument : String) : Command :=
  match word with
  | "sleep" => .sleep ((tag? argument).getD 0)
  | "fail" => .fail argument none false
  | "reject" => .fail argument (some false) false
  | "requeue" => .fail argument (some true) false
  | "source" => .fail argument none true
  | "panic" => .panic (.text argument)
  | "panicstr" => .panic (.text "static text")
  | "panicany" => .panic .other
  | "done" => .finish
  | "ack" => .ack (tag? argument) false
  | "ackmulti" => .ack (tag? argument) true
  | "nack" => .nack (tag? argument) true
  | "nackdrop" => .nack (tag? argument) false
  | "commit" => .commit
  | "rollback" => .rollback
  | "publish" =>
    let (queue, payload) := cutAtSpace argument.toList
    .publish (String.ofList queue) (String.ofList payload)
  | "get" => .get argument
  | "confirm" => .confirm
  | "close" => .close
  | "info" => .info
  | _ => .nothing

/-- The command in its text. -/
def readCommand (cs : List Char) : Command :=
  let (word, argument) := cutAtSpace cs
  commandFor (String.ofList word) (String.ofList argument)

/-- The instruction in its text. -/
def readInstruction : List Char → Instruction
  | 'f' :: 'i' :: 'r' :: 's' :: 't' :: ' ' :: rest => ⟨true, readCommand rest⟩
  | cs => ⟨false, readCommand cs⟩

/-- The instructions of a script. -/
def read (text : String) : List Instruction := (Text.segments ';' text.toList).map readInstruction

/-- The instructions that remain for a delivery. -/
def commandsFor (redelivered : Bool) (instructions : List Instruction) : List Command :=
  (instructions.filter fun instruction => !(instruction.firstOnly && redelivered)).map (·.command)

end Script

end QueueListener
