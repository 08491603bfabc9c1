import QueueListener.Container.Calls
/-!
# Runs of a world

**The clock stands still while any task can run.** Then it goes on to the next timer.

* `World.step?` — one turn of the task whose turn it is;
* `World.runUntil` — everything that happens up to a point in time;
* `World.perform` — a call that takes time, to its end. Runs are bounded by fuel, which is the
  number of turns and jumps of the clock.
-/

namespace QueueListener.World

/-- A turn of a task. -/
def turn (w : World) : Task → Turn
  | .consumer id => w.consumerTurn id
  | .feed id => w.feedTurn id
  | .monitor run => w.monitorTurn run
  | .errand number => w.errandTurn number

/-- One turn, if a task can run. -/
def step? (w : World) : Option World :=
  match w.agenda.next? with
  | none => none
  | some (task, agenda) =>
    match { w with agenda }.turn task with
    | (true, w) => some w
    | (false, w) => some { w with agenda := w.agenda.rest }

/-- The clock goes on to the next timer, if that is not later than `limit`. -/
def jump? (w : World) (limit : Nat) : Option World :=
  match w.agenda.nextDue? with
  | none => none
  | some due =>
    if due ≤ limit then
      let now := max w.now due
      some { w with now, agenda := w.agenda.fire now }
    else none

/-- Everything that happens up to a point in time. -/
def runUntil (limit : Nat) : Nat → World → World
  | 0, w => w
  | fuel + 1, w =>
    match w.step? with
    | some w => runUntil limit fuel w
    | none =>
      match w.jump? limit with
      | some w => runUntil limit fuel w
      | none => { w with now := max w.now limit }

/-- Everything that happens at the present instant. -/
def settleDown (fuel : Nat) (w : World) : World := w.runUntil w.now fuel

/-- Everything that happens in so many milliseconds. -/
def advance (millis fuel : Nat) (w : World) : World := w.runUntil (w.now + millis) fuel

/-- Everything that happens until an errand is over. -/
def runErrand (number : Nat) : Nat → World → World
  | 0, w => w
  | fuel + 1, w =>
    if w.errandDone number then w
    else match w.step? with
      | some w => runErrand number fuel w
      | none =>
        match w.agenda.nextDue? with
        | none => w
        | some due =>
          match w.jump? due with
          | some w => runErrand number fuel w
          | none => w

/-- The answer of an errand that is over. -/
def answerOf (w : World) (number : Nat) : Bool :=
  match (w.errands[number]?).map Errand.phase with
  | some (.done answer) => answer
  | _ => false

/-- Carries out a call that takes time, while the caller waits; gives its answer. -/
def perform (kind : ErrandKind) (fuel : Nat) (w : World) : Bool × World :=
  let number := w.errands.size
  let agenda := { w.agenda with awaited := some (.errand number) }
  let (_, w) := { w with agenda }.send kind false
  let w := w.runErrand number fuel
  (w.answerOf number, { w with agenda := { w.agenda with awaited := none } })

end QueueListener.World
