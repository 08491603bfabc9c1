import QueueListener.Broker.Run
import QueueListener.Container.Run
/-!
# Moves of a world

**What can happen to a container next, whoever is to decide it.** The turns of its tasks come in any
order: also a task that waits may get a turn, and a task may be interrupted whenever its turn ends.
The clock goes on as it likes, every call may come at any time, and so may everything that is done
to the broker behind the client.

* `Agenda.give`, `World.take` — a turn of any task;
* `Move`, `World.follow`, `World.followAll` — what can happen, and what becomes of the world;
* `runUntil_follows`, `perform_follows` — the runs of a world are made of moves.
-/

namespace QueueListener

/-- The agenda without the turn that a task has coming. -/
def Agenda.without (a : Agenda) (task : Task) : Agenda :=
  if a.first.contains task then { a with first := a.first.erase task }
  else if a.queue.contains task then { a with queue := a.queue.erase task }
  else { a with last := a.last.erase task }

/-- The agenda with a task at work. Whoever was at work before has another turn coming. -/
def Agenda.give (a : Agenda) (task : Task) : Agenda :=
  match a.current with
  | none => { a.without task with current := some task }
  | some other =>
    if other = task then a else { (a.without task).wake other with current := some task }

/-- What can happen to a world. -/
inductive Move
  /-- A turn of a task, whether or not it has one coming. -/
  | turn (task : Task)
  /-- The clock goes on. -/
  | pass (now : Nat)
  /-- The caller begins or ends to wait for a task. -/
  | attend (awaited : Option Task)
  | start
  | setBounds (bounds : Bounds)
  | addQueues (names : List String)
  | remove (names : List String) (recorded : Bool)
  | stop (recorded : Bool)
  | await (target : ContainerState) (deadline : Instant) (recorded : Bool)
  | abandon
  /-- Somebody else uses the broker. -/
  | administer (op : Broker.Op)
  /-- Calls of the client are made to fail. -/
  | arm (fault : ArmedFault)
  /-- Missing queues are looked for in another way, or another service takes over. -/
  | provide (declarer : Declarer) (service : TransactionService Nat)

namespace World

/-- A turn of a task, whenever it comes. -/
def take (w : World) (task : Task) : World :=
  match ({ w with agenda := w.agenda.give task } : World).turn task with
  | (true, w) => w
  | (false, w) => { w with agenda := w.agenda.rest }

/-- The clock goes on, never back, and what is due by then fires. -/
def pass (w : World) (now : Nat) : World :=
  { w with now := max w.now now, agenda := w.agenda.fire (max w.now now) }

/-- The world after a move. -/
def follow (w : World) : Move → World
  | .turn task => w.take task
  | .pass now => w.pass now
  | .attend awaited => { w with agenda := { w.agenda with awaited } }
  | .start => w.start.2
  | .setBounds bounds => (w.setBounds bounds).2
  | .addQueues names => (w.addQueues names).2
  | .remove names recorded => (w.send (.remove names) recorded).2
  | .stop recorded => (w.send .stop recorded).2
  | .await target deadline recorded => (w.send (.await target deadline) recorded).2
  | .abandon => w.abandon
  | .administer op => (w.atBroker (·.step op)).2
  | .arm fault => { w with client := w.client.arm fault }
  | .provide declarer service => { w with declarer, service }

/-- One move after the other. -/
def followAll (w : World) (moves : List Move) : World := moves.foldl follow w

variable {w w' : World}

/-! ### Runs are made of moves -/

theorem followAll_append (w : World) (moves more : List Move) :
    w.followAll (moves ++ more) = (w.followAll moves).followAll more := List.foldl_append

/-- Whose turn it is gets it. -/
theorem give_of_next? {a a' : Agenda} {task : Task} (next : a.next? = some (task, a')) :
    a' = a.give task := by
  unfold Agenda.next? at next
  unfold Agenda.give Agenda.without
  split at next
  next other current =>
    cases next
    rw [current]
    exact (if_pos rfl).symm
  next current =>
    rw [current]
    split at next
    next rest first =>
      cases next
      simp [first]
    next rest first queue =>
      cases next
      simp [first, queue]
    next rest first queue last =>
      cases next
      simp [first, queue, last]
    next => cases next

/-- One turn is a move. -/
theorem step?_follows (stepped : w.step? = some w') : ∃ task, w' = w.follow (.turn task) := by
  unfold step? at stepped
  split at stepped
  next => cases stepped
  next task agenda next =>
    refine ⟨task, ?_⟩
    unfold follow take
    dsimp only
    rw [← give_of_next? next]
    cases turned : ({ w with agenda } : World).turn task with
    | mk goesOn after =>
      rw [turned] at stepped
      cases goesOn with
      | true => exact (Option.some.inj stepped).symm
      | false => exact (Option.some.inj stepped).symm

/-- A jump of the clock is a move. -/
theorem jump?_follows {limit : Nat} (jumped : w.jump? limit = some w') :
    ∃ now, w' = w.follow (.pass now) := by
  unfold jump? at jumped
  split at jumped
  next => cases jumped
  next due _ =>
    split at jumped
    next => exact ⟨due, (Option.some.inj jumped).symm⟩
    next => cases jumped

/-- What is made of moves after a turn is made of moves before it. -/
theorem followAll_of_step? {after : World} (stepped : w.step? = some w')
    (rest : ∃ moves, after = w'.followAll moves) : ∃ moves, after = w.followAll moves := by
  obtain ⟨task, rfl⟩ := step?_follows stepped
  obtain ⟨moves, run⟩ := rest
  exact ⟨.turn task :: moves, run⟩

theorem followAll_of_jump? {after : World} {limit : Nat} (jumped : w.jump? limit = some w')
    (rest : ∃ moves, after = w'.followAll moves) : ∃ moves, after = w.followAll moves := by
  obtain ⟨now, rfl⟩ := jump?_follows jumped
  obtain ⟨moves, run⟩ := rest
  exact ⟨.pass now :: moves, run⟩

/-- Nothing fires before its time. -/
theorem fire_of_early {a : Agenda} {now : Nat} (early : ∀ timer ∈ a.timers, now < timer.due) :
    a.fire now = a := by
  have due : a.timers.filter (fun timer => timer.due ≤ now) = [] :=
    List.filter_eq_nil_iff.mpr fun timer waits => by simpa using early timer waits
  have later : a.timers.filter (fun timer => now < timer.due) = a.timers :=
    List.filter_eq_self.mpr fun timer waits => by simpa using early timer waits
  unfold Agenda.fire
  rw [due, later]
  rfl

/-- Where the clock does not jump it may go on to the limit. -/
theorem clock_follows {limit : Nat} (stays : w.jump? limit = none) (later : w.now ≤ limit) :
    { w with now := max w.now limit } = w.follow (.pass limit) := by
  have early : ∀ timer ∈ w.agenda.timers, max w.now limit < timer.due := by
    intro timer waits
    rw [Nat.max_eq_right later]
    unfold jump? Agenda.nextDue? at stays
    split at stays
    next none =>
      rw [List.min?_eq_none_iff, List.map_eq_nil_iff] at none
      rw [none] at waits
      cases waits
    next due least =>
      split at stays
      next => cases stays
      next late =>
        exact Nat.lt_of_lt_of_le (Nat.lt_of_not_le late)
          ((List.min?_eq_some_iff.mp least).2 _ (List.mem_map_of_mem waits))
  unfold follow pass
  dsimp only
  rw [fire_of_early early]

/-- **Everything that happens up to a point in time is made of moves.** -/
theorem runUntil_follows (limit fuel : Nat) (w : World) :
    ∃ moves, w.runUntil limit fuel = w.followAll moves := by
  induction fuel generalizing w with
  | zero => exact ⟨[], rfl⟩
  | succ fuel ih =>
    unfold runUntil
    split
    next w' stepped => exact followAll_of_step? stepped (ih w')
    next =>
      split
      next w' jumped => exact followAll_of_jump? jumped (ih w')
      next stays =>
        by_cases later : w.now ≤ limit
        · exact ⟨[.pass limit], clock_follows stays later⟩
        · refine ⟨[], ?_⟩
          rw [Nat.max_eq_left (Nat.le_of_not_le later)]
          rfl

/-- Everything that happens until an errand is done is made of moves. -/
theorem runErrand_follows (number fuel : Nat) (w : World) :
    ∃ moves, w.runErrand number fuel = w.followAll moves := by
  induction fuel generalizing w with
  | zero => exact ⟨[], rfl⟩
  | succ fuel ih =>
    unfold runErrand
    split
    next => exact ⟨[], rfl⟩
    next =>
      split
      next w' stepped => exact followAll_of_step? stepped (ih w')
      next =>
        split
        next => exact ⟨[], rfl⟩
        next =>
          split
          next w' jumped => exact followAll_of_jump? jumped (ih w')
          next => exact ⟨[], rfl⟩

/-- **A call that takes time is made of moves**, from its beginning to its answer. -/
theorem perform_follows (kind : ErrandKind) (fuel : Nat) (w : World)
    (call : ∀ id, kind ≠ .retire id) : ∃ moves, (w.perform kind fuel).2 = w.followAll moves := by
  have sent : ∃ move, ∀ w : World, (w.send kind false).2 = w.follow move := by
    cases kind with
    | retire id => exact absurd rfl (call id)
    | remove names => exact ⟨.remove names false, fun _ => rfl⟩
    | stop => exact ⟨.stop false, fun _ => rfl⟩
    | await target deadline => exact ⟨.await target deadline false, fun _ => rfl⟩
  obtain ⟨move, sends⟩ := sent
  let begun := (w.follow (.attend (some (.errand w.errands.size)))).follow move
  obtain ⟨moves, run⟩ := runErrand_follows w.errands.size fuel begun
  refine ⟨.attend (some (.errand w.errands.size)) :: move :: (moves ++ [.attend none]), ?_⟩
  have ends : w.followAll (.attend (some (.errand w.errands.size)) :: move ::
      (moves ++ [.attend none])) = (begun.followAll moves).follow (.attend none) :=
    followAll_append begun moves [.attend none]
  rw [ends, ← run]
  unfold perform
  dsimp only
  rw [sends]
  rfl

end World

end QueueListener
