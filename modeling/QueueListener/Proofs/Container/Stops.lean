import QueueListener.Proofs.Container.Channels
import QueueListener.Proofs.Container.Halts
/-!
# The end of a stop

**When a container stops, all its consumers are done but those for whom a removal waits.** Whoever
stops it waits for the consumers that were registered and for the errands that retire others, but not
for the removals of queues that are under way. The others have ended, that was told before the end of
the stop is told, and they have let their channels go.

* `AwaitedByRemoval` — a removal that has not returned waits for a consumer;
* `Outcome.ends_of_stopped` — a container stops by the end of a stop, and by nothing else;
* `run_stops_once_done` — what is so when it has stopped;
* `stop_outruns_removal` — a stop does not wait for a removal.
-/

namespace QueueListener.World

variable {w w' w'' : World} {task : Task} {meddled : Prop}

/-- A removal of queues that has not returned waits for the end of a consumer. -/
def AwaitedByRemoval (w : World) (id : Nat) : Prop :=
  ∃ (number : Nat) (names : List String) (closing : Closing) (recorded : Bool),
    w.errands[number]? = some ⟨.remove names, .closing closing, recorded⟩ ∧ id ∈ closing.consumers

/-- Whoever removes queues is a removal that waits. -/
theorem awaited_of_duty {id : Nat} (among : id ∈ (w.duty task).consumers)
    (removes : (w.duty task).removes = true) : w.AwaitedByRemoval id := by
  cases task with
  | consumer | feed => cases removes
  | monitor run =>
    unfold duty at removes
    dsimp only at removes
    cases found : w.monitors[run]? with
    | none =>
      rw [found] at removes
      cases removes
    | some m =>
      rw [found] at removes
      obtain ⟨phase, nextTick, stopRequested, reports⟩ := m
      cases phase <;> cases removes
  | errand number =>
    unfold duty at among removes
    dsimp only at among removes
    cases found : w.errands[number]? with
    | none =>
      rw [found] at removes
      cases removes
    | some errand =>
      rw [found] at among removes
      obtain ⟨kind, phase, recorded⟩ := errand
      cases phase with
      | closing closing =>
        cases kind with
        | remove names => exact ⟨number, names, closing, recorded, found, among⟩
        | retire | stop | await => cases removes
      | begin | joining | settling | done => cases kind <;> cases removes

/-! ### What is told -/

/-- The end of a stop is told last. -/
theorem EndsStop.told {fatal : Option String} (ends : EndsStop task fatal w w')
    (sink : w'.plan.hasSink = true) : ∃ (before : Array (Nat × Event)) (now : Nat),
      w'.chronicle.events = before.push (now, .containerStopped fatal.isSome fatal) := by
  obtain ⟨middle, after, -, -, -, reassigns⟩ := ends.ended
  have heard : after.plan.hasSink = true := by
    rw [← (publish_still after (.containerStopped fatal.isSome fatal)).plan, ← reassigns.plan, sink]
  refine ⟨after.chronicle.events, after.now, ?_⟩
  rw [reassigns.events]
  unfold publish
  rw [if_pos heard]

/-- The end of a stop is no end of a consumer. -/
theorem endings_of_stopped {before : Array (Nat × Event)} {now : Nat} {fatal : Bool}
    {reason : Option String}
    (told : w.chronicle.events = before.push (now, .containerStopped fatal reason)) :
    Chronicle.endings { events := before } = w.chronicle.endings := by
  unfold Chronicle.endings
  rw [told, Array.toList_push, List.filterMap_append]
  exact congrArg _ (List.append_nil _).symm

/-! ### What is so in the end -/

/-- **When a container has stopped every consumer is done but those for whom a removal waits.** The
others have ended and have let their channels go; if anybody hears the events, their ends were told
before the end of the stop; and no channel is open but those of consumers that go on, unless somebody
else has opened it or kept it from being closed. -/
theorem run_stops_once_done (plan : Plan) (moves : List Move) (move : Move)
    (before : ((World.new plan {}).followAll moves).registry.state ≠ .stopped)
    (after : ((World.new plan {}).followAll (moves ++ [move])).registry.state = .stopped) :
    let w := (World.new plan {}).followAll (moves ++ [move])
    (∀ id c, w.consumers.get? id = some c →
      (c.phase = .finished ∧ c.channel = none) ∨ w.AwaitedByRemoval id) ∧
    (plan.hasSink = true → ∃ (earlier : Array (Nat × Event)) (now : Nat) (fatal : Bool)
      (reason : Option String),
      w.chronicle.events = earlier.push (now, .containerStopped fatal reason) ∧
        Chronicle.endings { events := earlier } = w.consumers.total Consumer.ending) ∧
    ((∀ other ∈ moves ++ [move], ¬ other.Meddles) →
      ∀ channel, w.client.broker.channelOpen channel = true →
        ∃ (id : Nat) (c : Consumer) (managed : ManagedChannel), w.consumers.get? id = some c ∧
          c.phase ≠ .finished ∧ w.AwaitedByRemoval id ∧ c.channel = some managed ∧
            managed.target = channel) := by
  have begins : (World.new plan {}).Sound := new_sound plan {}
  have sound := begins.followAll moves
  have ended := begins.followAll (moves ++ [move])
  have last : (World.new plan {}).followAll (moves ++ [move]) =
      ((World.new plan {}).followAll moves).follow move := followAll_append _ moves [move]
  have built : ((World.new plan {}).followAll (moves ++ [move])).plan = plan :=
    begins.followAll_plan _
  have held : (∀ other ∈ moves ++ [move], ¬ other.Meddles) →
      ((World.new plan {}).followAll (moves ++ [move])).Held :=
    begins.followAll_held (new_held plan)
  have outcome := follow_outcome sound.records sound.unopened move
  rw [← last] at outcome
  generalize (World.new plan {}).followAll (moves ++ [move]) = w at *
  have attended : ∀ id, w.isFinished id = false → w.AwaitedByRemoval id := by
    intro id busy
    obtain ⟨task, among, removes⟩ := ended.custody.attended_of_stopped after busy
    exact awaited_of_duty among removes
  refine ⟨fun id c found => ?_, fun sink => ?_, fun fair channel opened => ?_⟩
  · by_cases done : c.phase = .finished
    · exact .inl ⟨done, ended.records.released id c found done⟩
    · exact .inr (attended id (isFinished_eq_false.mpr ⟨c, found, done⟩))
  · obtain ⟨task, fatal, turn, rest, -, ends, apart⟩ := outcome.ends_of_stopped before after
    obtain ⟨earlier, now, told⟩ := ends.told (by rw [← apart.plan, built, sink])
    rw [← apart.events] at told
    refine ⟨earlier, now, fatal.isSome, fatal, told, ?_⟩
    rw [endings_of_stopped told]
    exact ended.records.told (by rw [built, sink])
  · obtain ⟨id, c, managed, found, has, target⟩ := (held fair).held channel opened
    have busy : c.phase ≠ .finished := by
      intro done
      rw [ended.records.released id c found done] at has
      cases has
    exact ⟨id, c, managed, found, busy, attended id (isFinished_eq_false.mpr ⟨c, found, busy⟩), has,
      target⟩

/-- A container with one queue. -/
def oneQueue : Plan :=
  { settings := {
      queues := ["orders"]
      receiveTimeout := Duration.ofMillis 20
      monitorInterval := Duration.ofMillis 100000
      shutdownTimeout := Duration.ofMillis 10000 } }

/-- The container is stopped while its consumer waits for a delivery. -/
def plainStop : List Move :=
  [.administer (.declare "orders"), .start, .turn (.consumer 1), .stop false, .turn (.errand 0),
    .turn (.consumer 1)]

/-- The one consumer of a container that was stopped has ended, and that was told. -/
theorem run_stops_once_done_plainStop :
    ((World.new oneQueue {}).followAll plainStop).registry.state ≠ .stopped ∧
      ((World.new oneQueue {}).followAll (plainStop ++ [.turn (.errand 0)])).registry.state =
        .stopped ∧
      ∃ (earlier : Array (Nat × Event)) (now : Nat) (fatal : Bool) (reason : Option String),
        ((World.new oneQueue {}).followAll (plainStop ++ [.turn (.errand 0)])).chronicle.events =
          earlier.push (now, .containerStopped fatal reason) ∧
        Chronicle.endings { events := earlier } =
          ((World.new oneQueue {}).followAll (plainStop ++ [.turn (.errand 0)])).consumers.total
            Consumer.ending := by
  have before : ((World.new oneQueue {}).followAll plainStop).registry.state ≠ .stopped := by
    decide +kernel
  have after : ((World.new oneQueue {}).followAll
      (plainStop ++ [.turn (.errand 0)])).registry.state = .stopped := by decide +kernel
  exact ⟨before, after,
    (run_stops_once_done oneQueue plainStop (.turn (.errand 0)) before after).2.1 rfl⟩

/-- A queue is removed while the listener works on a delivery of it, and the container is stopped. -/
def removalThenStop : List Move :=
  [.administer (.declare "orders"), .administer (.publish "orders" "sleep 5000".toUTF8 {}), .start,
    .turn (.consumer 1), .turn (.feed 1), .turn (.consumer 1), .turn (.consumer 1),
    .remove ["orders"] true, .turn (.errand 0), .stop false, .turn (.errand 1)]

/-- **A stop does not wait for a removal that is under way**: the container has stopped and that was
told, while the consumer of the queue that is removed goes on and has not been told to have ended. -/
theorem stop_outruns_removal :
    let w := (World.new oneQueue {}).followAll (removalThenStop ++ [.turn (.errand 1)])
    ((World.new oneQueue {}).followAll removalThenStop).registry.state = .stopping ∧
      w.registry.state = .stopped ∧
      w.chronicle.events.back? = some (0, .containerStopped false none) ∧
      w.isFinished 1 = false ∧
      w.chronicle.events.toList.filterMap (·.2.ending?) = [] := by
  decide +kernel

end QueueListener.World
