import QueueListener.Proofs.Container.Turns
import QueueListener.Proofs.Container.Waking
import QueueListener.Proofs.Registry.Handover
/-!
# What the container does about its consumers

**Whoever takes a consumer off its queue has to wait for its end.** A removal waits for the consumers
of its queues, the errand that retires a consumer for that one, and whoever stops the container for
all that were left, and for the errands that were under way. All that a monitor or an errand does at
its turns is made of a few kinds of deed.

* `Duty`, `World.duty` — whom and what a task has to wait for;
* `World.Reassigns` — a task changes what it is doing, and nobody else does;
* `World.Deed`, `World.Deeds` — what the turns of monitors and errands are made of.
-/

namespace QueueListener

/-- All tracked queues are given up. -/
def Supervisor.AllFatal (s : Supervisor) : Prop :=
  ∀ queue state, s.state? queue = some state → state = .fatal

/-- Whom and what a task has to wait for. -/
structure Duty where
  consumers : List Nat := []
  errands : List Nat := []
  /-- Whether the task stops the container, and for which reason if it was not asked to. -/
  stops : Option (Option String) := none
  /-- Whether the task removes queues. -/
  removes : Bool := false

/-- What an errand has to wait for. One that retires a consumer has to do so from its beginning. -/
def Errand.duty (errand : Errand) : Duty :=
  match errand.phase, errand.kind with
  | .begin, .retire id => { consumers := [id] }
  | .closing closing, .retire _ => { consumers := closing.consumers, errands := closing.errands }
  | .closing closing, .remove _ =>
    { consumers := closing.consumers, errands := closing.errands, removes := true }
  | .closing closing, .stop =>
    { consumers := closing.consumers, errands := closing.errands, stops := some none }
  | .closing closing, .await .. => { consumers := closing.consumers, errands := closing.errands }
  | _, _ => {}

/-- What a monitor has to wait for. -/
def Monitor.duty (m : Monitor) : Duty :=
  match m.phase with
  | .closing reason closing =>
    { consumers := closing.consumers, errands := closing.errands, stops := some (some reason) }
  | _ => {}

namespace World

/-- What a task has to wait for. -/
def duty (w : World) : Task → Duty
  | .errand number => (w.errands[number]?).elim {} Errand.duty
  | .monitor run => (w.monitors[run]?).elim {} Monitor.duty
  | .consumer _ => {}
  | .feed _ => {}

/-- A task changes what it is doing; reports may have been read, and a monitor may have been asked to
stop. Everything else is as it was. -/
structure Reassigns (task : Task) (w w' : World) : Prop extends Still w w' where
  client : w'.client = w.client
  consumers : w'.consumers = w.consumers
  handoffs : w'.handoffs = w.handoffs
  events : w'.chronicle.events = w.chronicle.events
  retiring : w'.retiring = w.retiring
  errands : ∀ number : Nat, task ≠ .errand number → w'.errands[number]? = w.errands[number]?
  monitors : ∀ run : Nat, task ≠ .monitor run →
    (w'.monitors[run]?).map (·.phase) = (w.monitors[run]?).map (·.phase)
  reports : ∀ (run : Nat) (m' : Monitor), w'.monitors[run]? = some m' →
    ∃ m : Monitor, w.monitors[run]? = some m ∧ m'.reports ⊆ m.reports
  kinds : ∀ number : Nat,
    (w'.errands[number]?).map (·.kind) = (w.errands[number]?).map (·.kind)
  turns : ∀ other, task ≠ other → Agenda.Spares other w.agenda w'.agenda

/-- What a task has to wait for after it was reassigned: everybody who has not ended. -/
structure Keeps (w : World) (old new : Duty) : Prop where
  consumers : ∀ id ∈ old.consumers, w.isFinished id = false → id ∈ new.consumers
  errands : ∀ number ∈ old.errands, (w.duty (.errand number)).consumers ≠ [] → number ∈ new.errands
  fewer : new.errands ⊆ old.errands
  stops : new.stops = old.stops
  removes : old.removes = true → new.consumers ≠ [] → new.removes = true

/-- One deed of a monitor or of an errand. -/
inductive Deed (task : Task) (w : World) : World → Prop
  | affected {w' : World} (effect : Effect task w w') : Deed task w w'
  /-- The registry learns something that does not concern who is employed. -/
  | informed {registry : Registry} (consumers : registry.consumers = w.registry.consumers)
      (state : registry.state = w.registry.state)
      (last : registry.lastConsumer = w.registry.lastConsumer)
      (fatal : w.registry.state ≠ .running → w.registry.supervisor.AllFatal →
        registry.supervisor.AllFatal) : Deed task w { w with registry }
  /-- A consumer that is finished is taken off its queue. -/
  | dismissed {id : Nat} (queue : String) (done : w.isFinished id = true) :
      Deed task w { w with registry := w.registry.removeConsumer queue id }
  /-- Consumers are started and retired as the registry decides. -/
  | staffed {registry : Registry} {changes : Changes} {new : List (Nat × String)}
      (running : w.registry.state = .running)
      (hands : Registry.HandsOver (w.registry, {}) (registry, changes) new) :
      Deed task w ({ w with registry }.apply changes)
  /-- All consumers of a queue are retired. -/
  | paused (queue : String) (running : w.registry.state = .running) :
      Deed task w ((w.registry.consumersOf queue).foldl retire
        { w with registry := w.registry.dropConsumers queue })
  | reassigned {w' : World} (reassigns : Reassigns task w w')
      (keeps : w.Keeps (w.duty task) (w'.duty task)) : Deed task w w'
  /-- Queues are removed, and the task waits for their consumers. -/
  | removed {names : List String} {middle w' : World} (free : w.duty task = {})
      (after : Effects task { w with registry := (w.registry.remove names).1 } middle)
      (reassigns : Reassigns task middle w')
      (assigned : w'.duty task =
        { consumers := (w.registry.remove names).2.2, removes := true }) : Deed task w w'
  /-- The task begins to stop the container. -/
  | stopBegun {ids : List Nat} {registry : Registry} (fatal : Option String) {middle w' : World}
      (free : w.duty task = {}) (begun : w.registry.beginStop = some (ids, registry))
      (after : Effects task
        { w with
          registry
          retiring := []
          monitors := w.monitors.modify (w.monitors.size - 1) fun m =>
            { m with stopRequested := true } } middle)
      (reassigns : Reassigns task middle w')
      (assigned : w'.duty task =
        { consumers := ids, errands := w.retiring, stops := some fatal }) : Deed task w w'

/-- Everybody for whom a task that stops the container has waited has ended, and so does the stop. -/
structure EndsStop (task : Task) (fatal : Option String) (w w' : World) : Prop where
  stops : (w.duty task).stops = some fatal
  ended : ∃ middle after : World, Effects task w middle ∧
    (∀ id ∈ (w.duty task).consumers, middle.isFinished id = true) ∧
    Effects task { middle with registry := middle.registry.finishStop fatal.isSome } after ∧
    Reassigns task (after.publish (.containerStopped fatal.isSome fatal)) w'
  errands : ∀ number ∈ (w.duty task).errands, (w.duty (.errand number)).consumers = []
  freed : w'.duty task = {}

/-- Several deeds. -/
abbrev Deeds (task : Task) : World → World → Prop := Relation.ReflTransGen (Deed task)

variable {w w' : World} {task : Task}

theorem Effects.deeds (effects : Effects task w w') : Deeds task w w' := by
  induction effects with
  | refl => exact .refl
  | tail _ effect ih => exact ih.tail (.affected effect)

/-! ### Requests to stop -/

theorem requestStop_effects (task : Task) (w : World) (id : Nat) :
    Effects task w (w.requestStop id) := by
  have touched : Effect task w (w.updateConsumer id fun c => { c with stopRequested := true }) :=
    .touched fun _ _ => ⟨rfl, rfl, rfl, rfl, rfl, fun _ => rfl, rfl, fun _ => rfl⟩
  exact (Relation.ReflTransGen.single touched).tail (.aside (.woken _))

theorem requestStops_effects (task : Task) (w : World) (ids : List Nat) :
    Effects task w (ids.foldl requestStop w) := by
  induction ids generalizing w with
  | nil => exact .refl
  | cons id ids ih => exact (requestStop_effects task w id).trans (ih _)

/-! ### What reassigning leaves alone -/

/-- Nobody else has anything else to wait for. -/
theorem Reassigns.duty (reassigns : Reassigns task w w') {other : Task} (differ : other ≠ task) :
    w'.duty other = w.duty other := by
  cases other with
  | consumer | feed => rfl
  | errand number =>
    unfold World.duty
    dsimp only
    rw [reassigns.errands number (Ne.symm differ)]
  | monitor run =>
    have of_phase : ∀ m : Option Monitor, m.elim {} Monitor.duty =
        ((m.map (·.phase)).map fun phase => Monitor.duty { phase }).getD {} := by
      intro m
      cases m <;> rfl
    unfold World.duty
    dsimp only
    rw [of_phase, of_phase, reassigns.monitors run (Ne.symm differ)]

/-- Nobody has anything else to wait for after the administration was left alone. -/
theorem Quiet.duty (quiet : w.Quiet w') (task : Task) : w'.duty task = w.duty task := by
  cases task with
  | consumer | feed => rfl
  | errand number =>
    unfold World.duty
    dsimp only
    rw [quiet.errands]
  | monitor run =>
    obtain ⟨news, heard⟩ := quiet.monitors run
    unfold World.duty
    dsimp only
    rw [heard]
    cases w.monitors[run]? with
    | none => rfl
    | some m => rfl

theorem Keeps.refl (w : World) (duty : Duty) : w.Keeps duty duty where
  consumers _ among _ := among
  errands _ among _ := among
  fewer := List.Subset.refl _
  stops := rfl
  removes removing _ := removing

end World

end QueueListener
