/-!
# The agenda

**Tasks take turns in the order in which they were woken.** A task that sleeps is woken by a timer;
the clock counts whole milliseconds and stands still while any task can run.

* `Agenda.wake`, `Agenda.next?` — the order of turns: first in, first out. The one task that the
  caller waits for takes its turn after all others, and before all others when a timer woke it;
* `Agenda.setTimer`, `Agenda.nextDue?`, `Agenda.fire` — timers that are due at one instant fire in
  the order in which they were set.
-/

namespace QueueListener

/-- The tasks. -/
inductive Task
  | consumer (id : Nat)
  /-- The feed of a consumer's handoff. -/
  | feed (id : Nat)
  /-- The monitor of a run of the container. -/
  | monitor (run : Nat)
  /-- A call of the container that takes time. -/
  | errand (number : Nat)
  deriving DecidableEq, Repr

/-- The timers of a task. -/
inductive TimerSlot
  | deadline
  /-- The periodic timer of a monitor. -/
  | period
  deriving DecidableEq, Repr

/-- A timer. -/
structure Timer where
  task : Task
  slot : TimerSlot
  /-- The millisecond at which it fires. -/
  due : Nat
  deriving DecidableEq, Repr

/-- The tasks that may run and the timers of those that sleep. -/
structure Agenda where
  /-- The task whose turn it is. -/
  current : Option Task := none
  /-- The task that the caller waits for. -/
  awaited : Option Task := none
  first : List Task := []
  queue : List Task := []
  last : List Task := []
  timers : List Timer := []
  deriving DecidableEq, Repr

namespace Agenda

/-- Whether a task has a turn coming. -/
def isAwake (a : Agenda) (task : Task) : Bool :=
  a.first.contains task || a.queue.contains task || a.last.contains task

/-- Gives a task a turn, unless it has one coming. -/
def wake (a : Agenda) (task : Task) : Agenda :=
  if a.isAwake task then a
  else if a.awaited = some task then { a with last := a.last ++ [task] }
  else { a with queue := a.queue ++ [task] }

/-- Gives tasks a turn. -/
def wakeAll (a : Agenda) (tasks : List Task) : Agenda := tasks.foldl wake a

/-- Wakes a task by a timer. -/
def wakeByTimer (a : Agenda) (task : Task) : Agenda :=
  if a.awaited = some task && !a.isAwake task then { a with first := a.first ++ [task] }
  else a.wake task

/-- The task whose turn it is, and the agenda with that task at work. -/
def next? (a : Agenda) : Option (Task × Agenda) :=
  match a.current with
  | some task => some (task, a)
  | none =>
    match a.first, a.queue, a.last with
    | task :: rest, _, _ => some (task, { a with current := some task, first := rest })
    | [], task :: rest, _ => some (task, { a with current := some task, queue := rest })
    | [], [], task :: rest => some (task, { a with current := some task, last := rest })
    | [], [], [] => none

/-- Ends the turn of the task at work. -/
def rest (a : Agenda) : Agenda := { a with current := none }

/-- Stops a timer. -/
def cancelTimer (a : Agenda) (task : Task) (slot : TimerSlot) : Agenda :=
  { a with timers := a.timers.filter fun timer => !(timer.task = task && timer.slot = slot) }

/-- Sets a timer anew. -/
def setTimer (a : Agenda) (task : Task) (slot : TimerSlot) (due : Nat) : Agenda :=
  let a := a.cancelTimer task slot
  { a with timers := a.timers ++ [⟨task, slot, due⟩] }

/-- The millisecond of the next timer. -/
def nextDue? (a : Agenda) : Option Nat := (a.timers.map (·.due)).min?

/-- Fires the timers that are due at a millisecond. -/
def fire (a : Agenda) (now : Nat) : Agenda :=
  let due := (a.timers.filter fun timer => timer.due ≤ now).map (·.task)
  due.foldl wakeByTimer { a with timers := a.timers.filter fun timer => now < timer.due }

end Agenda

end QueueListener
