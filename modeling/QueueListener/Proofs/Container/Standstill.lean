import QueueListener.Proofs.Container.Headcount
import QueueListener.Proofs.Registry.Standstill
/-!
# A container at a standstill

**Whatever a container does while restarts are blocked, it starts nobody**: nothing joins its
registry, and no task of a consumer begins. The looks of the monitor and the calls converge, and a
convergence starts nobody then; reports, removals and stops start nobody at any time.

* `World.StartsNone` — no consumer is started;
* `World.redeclare_startsNone`, `World.lookAround_startsNone`, `World.recover_startsNone` — the
  passes of the monitor;
* `World.undergo_startsNone` — everything that the container does.
-/

namespace QueueListener

namespace World

variable {w w' w'' : World}

/-- No consumer is started: nobody joins the registry, and no task of a consumer begins. -/
structure StartsNone (w w' : World) : Prop where
  registry : w.registry.StartsNone w'.registry
  tasks : w'.consumers.keys = w.consumers.keys

namespace StartsNone

theorem refl (w : World) : w.StartsNone w := ⟨.refl _, rfl⟩

theorem trans (first : w.StartsNone w') (second : w'.StartsNone w'') : w.StartsNone w'' :=
  ⟨first.registry.trans second.registry, second.tasks.trans first.tasks⟩

/-- What leaves the registry alone starts nobody, if it begins no task. -/
theorem of_still (still : w.Still w') (tasks : w'.consumers.keys = w.consumers.keys) :
    w.StartsNone w' := ⟨still.registry ▸ .refl _, tasks⟩

end StartsNone

/-! ### Tasks -/

section Tasks

variable (w : World)

theorem foldl_tasks {α : Type} {step : World → α → World}
    (each : ∀ (w : World) (item : α), (step w item).consumers.keys = w.consumers.keys)
    (items : List α) : (items.foldl step w).consumers.keys = w.consumers.keys := by
  induction items generalizing w with
  | nil => rfl
  | cons item items ih => exact (ih (step w item)).trans (each w item)

theorem publish_tasks (event : Event) : (w.publish event).consumers.keys = w.consumers.keys := by
  unfold publish
  split
  next => rfl
  next => rfl

theorem deliverNotices_tasks : w.deliverNotices.consumers.keys = w.consumers.keys := by
  have one : ∀ (w : World) (notice : Nat × Notice),
      (w.deliverNotice notice).consumers.keys = w.consumers.keys := by
    intro w notice
    unfold deliverNotice
    split
    next => rfl
    next => rfl
  unfold deliverNotices
  dsimp only
  rw [← Array.foldl_toList]
  exact foldl_tasks _ one _

theorem requestStop_tasks (id : Nat) : (w.requestStop id).consumers.keys = w.consumers.keys :=
  Table.keys_modify _ _ _

theorem retire_tasks (id : Nat) : (w.retire id).consumers.keys = w.consumers.keys :=
  requestStop_tasks w id

/-- Changes that start nobody begin no task. -/
theorem apply_tasks {changes : Changes} (nobody : changes.started = []) :
    (w.apply changes).consumers.keys = w.consumers.keys := by
  unfold apply
  rw [nobody]
  exact foldl_tasks _ retire_tasks _

theorem declare_tasks (queue : String) :
    (w.declare queue).2.consumers.keys = w.consumers.keys := by
  unfold declare
  split
  next =>
    dsimp only
    split
    next => rfl
    next => exact deliverNotices_tasks _
    next => rfl
    next => rfl
  next => rfl

theorem redeclareQueue_tasks (acc : Bool × World) (queue : String) :
    (redeclareQueue acc queue).2.consumers.keys = acc.2.consumers.keys := by
  have declared := declare_tasks acc.2 queue
  unfold redeclareQueue
  dsimp only
  split
  next =>
    dsimp only
    split
    next => exact (publish_tasks _ _).trans declared
    next => exact declared
  next => exact declared

theorem endMonitor_tasks (run : Nat) : (w.endMonitor run).2.consumers.keys = w.consumers.keys := by
  have same : (w.endMonitor run).2.consumers = w.consumers := by
    unfold endMonitor
    dsimp only [pause, cancelTimer, setMonitorPhase, updateMonitor]
  rw [same]

theorem loopAgain_tasks (run : Nat) : (w.loopAgain run).2.consumers.keys = w.consumers.keys := by
  unfold loopAgain
  split
  next => exact endMonitor_tasks w run
  next => rfl

end Tasks

/-! ### Passes while restarts are blocked -/

theorem ticked_instant (w : World) : w.ticked.instant = w.instant :=
  (apply_still { w with registry := (w.registry.tick w.sample w.instant).1 } _).instant

section Blocked

variable (running : w.registry.state = .running) (blocked : w.blocked = true)

include running blocked

/-- **A convergence starts nobody while restarts are blocked.** -/
theorem converge_startsNone (orderly : w.registry.Orderly) : w.StartsNone w.converge where
  registry := by
    rw [converge_registry]
    exact Registry.converge_startsNone running (Bounds.range_of_faultless orderly.bounds).2
      orderly.distinct blocked
  tasks := apply_tasks _ (w.registry.converge_of_blocked blocked)

/-- Restarts stay blocked when the container converges. -/
theorem converge_stays_blocked (orderly : w.registry.Orderly) : w.converge.blocked = true := by
  by_contra free
  rw [free_of_converge running orderly (eq_false_of_ne_true free)] at blocked
  cases blocked

/-- Looking for missing queues starts nobody while restarts are blocked, and they stay blocked. -/
theorem redeclare_startsNone (staffed : w.registry.Staffed) (looked : w.redeclare = .ok w') :
    w.StartsNone w' ∧ w'.blocked = true := by
  obtain ⟨due, s, taken, found, w₁, walked, rfl⟩ := redeclare_walks running looked
  have redeclares : Redeclares w (found, w₁) := walked ▸ (Redeclares.init taken).foldl due
  have blocked₁ : w₁.blocked = true := redeclares.blocked.trans blocked
  have tasks : w₁.consumers.keys = w.consumers.keys := by
    have steps : ∀ acc : Bool × World,
        (due.foldl redeclareQueue acc).2.consumers.keys = acc.2.consumers.keys := by
      clear taken walked
      induction due with
      | nil => exact fun acc => rfl
      | cons queue due ih => exact fun acc => (ih _).trans (redeclareQueue_tasks acc queue)
    have all := steps (false, { w with registry := { w.registry with supervisor := s } })
    rw [walked] at all
    exact all
  have walk : w.StartsNone w₁ := by
    refine ⟨?_, tasks⟩
    rw [redeclares.registry]
    exact .of_consumers rfl rfl
  cases found with
  | false => exact ⟨walk, blocked₁⟩
  | true =>
    have running₁ := redeclares.state.trans running
    have orderly₁ := (redeclares.staffed staffed).toOrderly
    exact ⟨walk.trans (converge_startsNone running₁ blocked₁ orderly₁),
      converge_stays_blocked running₁ blocked₁ orderly₁⟩

/-- **A recovery starts nobody while restarts are blocked.** -/
theorem recover_startsNone (staffed : w.registry.Staffed) (recovered : w.recover = .ok w') :
    w.StartsNone w' := by
  obtain ⟨w₁, looked, rfl⟩ := recover_outcome recovered
  obtain ⟨first, blocked₁⟩ := redeclare_startsNone running blocked staffed looked
  obtain ⟨running₁, staffed₁⟩ := redeclare_sound running staffed looked
  exact first.trans (converge_startsNone running₁ blocked₁ staffed₁.toOrderly)

/-- **A look at all queues starts nobody while restarts are blocked.** -/
theorem lookAround_startsNone (staffed : w.registry.Staffed) (looked : w.lookAround = .ok w') :
    w.StartsNone w' := by
  rw [lookAround_of_running running] at looked
  have range := (Bounds.range_of_faultless staffed.bounds).2
  obtain ⟨ticks, nobody⟩ :=
    Registry.tick_startsNone running range staffed.distinct w.sample blocked
  have first : w.StartsNone w.ticked := by
    refine ⟨?_, apply_tasks _ nobody⟩
    rw [ticked_registry]
    exact ticks
  obtain ⟨running₁, staffed₁⟩ := ticked_sound running staffed
  have blocked₁ : w.ticked.blocked = true := by
    have looks := Registry.scaled_looks staffed.distinct w.sample w.instant
    have scaled := Registry.scaled_staffed staffed w.sample w.instant
    unfold World.blocked
    rw [ticked_instant, ticked_registry, Registry.tick_of_running running]
    refine Registry.converge_blocked (looks.alike.state.trans running)
      (Bounds.range_of_faultless scaled.bounds).2 scaled.distinct w.instant ?_
    rw [looks.alike.supervisor]
    exact blocked
  exact first.trans (redeclare_startsNone running₁ blocked₁ staffed₁ looked).1

end Blocked

/-! ### Everything else while restarts are blocked -/

/-- A container that runs does not start again. -/
theorem start_of_running (running : w.registry.state = .running) : w.start.2 = w := by
  have already : w.registry.start w.plan.hasManager = .ok none := by
    unfold Registry.start
    rw [running]
  unfold start
  rw [already]

/-- A call that is accepted while restarts are blocked starts nobody. -/
theorem adopt_startsNone (running : w.registry.state = .running) (blocked : w.blocked = true)
    (staffed : w.registry.Staffed) {answer : Except Refusal Registry}
    (adopts : ∀ registry, answer = .ok registry → w.registry.Adopts registry)
    (last : ∀ registry, answer = .ok registry →
      registry.lastConsumer = w.registry.lastConsumer) : w.StartsNone (w.adopt answer).2 := by
  cases answer with
  | error refusal => exact .refl w
  | ok registry =>
    have change := adopts registry rfl
    have changed : w.StartsNone { w with registry } :=
      ⟨.of_consumers (last registry rfl) change.consumers, rfl⟩
    refine changed.trans (converge_startsNone (w := { w with registry })
      (change.state.trans running) ?_ (change.orderly running staffed.toOrderly))
    unfold World.blocked Supervisor.restartsBlocked at blocked ⊢
    rw [change.round]
    exact blocked

theorem loopAgain_startsNone (w : World) (run : Nat) : w.StartsNone (w.loopAgain run).2 :=
  .of_still (loopAgain_still w run) (loopAgain_tasks w run)

theorem endMonitor_startsNone (w : World) (run : Nat) : w.StartsNone (w.endMonitor run).2 :=
  .of_still (endMonitor_still w run) (endMonitor_tasks w run)

theorem loopUnless_startsNone (run : Nat) {result : Except TimeFault World}
    (after : ∀ w', result = .ok w' → w.StartsNone w') :
    w.StartsNone (w.loopUnless run result).2 := by
  cases result with
  | error fault => exact endMonitor_startsNone w run
  | ok w' => exact (after w' rfl).trans (loopAgain_startsNone w' run)

theorem beginClosing_startsNone (w : World) (consumers errands : List Nat) :
    w.StartsNone (w.beginClosing consumers errands).2 :=
  .of_still (beginClosing_still w consumers errands) (foldl_tasks w requestStop_tasks consumers)

/-- The beginning of a stop starts nobody. -/
theorem beginShutdown_startsNone {answer : Closing × World}
    (begun : w.beginShutdown = some answer) : w.StartsNone answer.2 := by
  unfold beginShutdown at begun
  split at begun
  next => cases begun
  next ids registry begun' =>
    cases begun
    have stops : w.StartsNone (({ w with
        registry
        retiring := []
        monitors := w.monitors.modify (w.monitors.size - 1) fun m =>
          { m with stopRequested := true } } : World).wake (.monitor (w.monitors.size - 1))) :=
      ⟨Registry.beginStop_startsNone begun', rfl⟩
    have woken : ∀ w : World, w.StartsNone w.wakeObservers := fun w => ⟨.refl _, rfl⟩
    exact stops.trans ((beginClosing_startsNone _ ids w.retiring).trans (woken _))

theorem pauseQueue_startsNone (w : World) (queue : String) : w.StartsNone (w.pauseQueue queue) where
  registry := by
    rw [pauseQueue_registry]
    exact Registry.dropConsumers_startsNone _ queue
  tasks := (foldl_tasks _ retire_tasks _).trans (publish_tasks _ _)

/-- Whatever the supervisor asks for after a failure, nobody is started at once. -/
theorem applyAction_startsNone (w : World) (run : Nat) (action : RecoveryAction) :
    w.StartsNone (w.applyAction run action).2 := by
  cases action with
  | restart | scheduleRetry | awaitRound => exact loopAgain_startsNone w run
  | pause queue => exact (pauseQueue_startsNone w queue).trans (loopAgain_startsNone _ run)
  | fatal reason =>
    unfold applyAction giveUp
    dsimp only
    split
    next => exact loopAgain_startsNone w run
    next closing w' begun =>
      have stops := beginShutdown_startsNone begun
      exact ⟨stops.registry, stops.tasks⟩

/-- **A report starts nobody**, blocked or not: the next look at all queues does. -/
theorem handleReport_startsNone (w : World) (run : Nat) (report : Report) :
    w.StartsNone (w.handleReport run report).2 := by
  cases report with
  | consumeOk queue =>
    have heard : w.StartsNone { w with registry := { w.registry with
        supervisor := w.registry.supervisor.consumeOk queue } } := ⟨.of_consumers rfl rfl, rfl⟩
    exact heard.trans (loopAgain_startsNone _ run)
  | terminated id queue =>
    have left : w.StartsNone { w with registry := w.registry.removeConsumer queue id } :=
      ⟨Registry.removeConsumer_startsNone _ queue id, rfl⟩
    exact left.trans (loopAgain_startsNone _ run)
  | failed id queue error =>
    have failed := Registry.consumerFailed_startsNone w.registry queue id error w.instant
    unfold handleReport
    dsimp only
    generalize w.registry.consumerFailed queue id error w.instant = answer at failed
    obtain ⟨action, registry⟩ := answer
    have left : w.StartsNone { w with registry } := ⟨failed, rfl⟩
    dsimp only
    split
    next => exact left.trans (loopAgain_startsNone _ run)
    next => exact left.trans (endMonitor_startsNone _ run)
    next action => exact left.trans (applyAction_startsNone _ run action)

/-- Whether something is done by the container itself. -/
def Upkeep.isOwn : Upkeep → Bool
  | .meanwhile _ => false
  | _ => true

/-- **Whatever a container does while restarts are blocked, it starts nobody.** -/
theorem undergo_startsNone (staffed : w.registry.Staffed) (running : w.registry.state = .running)
    (blocked : w.blocked = true) {act : Upkeep} (own : act.isOwn = true) :
    w.StartsNone (w.undergo act) := by
  cases act with
  | start =>
    show w.StartsNone w.start.2
    rw [start_of_running running]
    exact .refl w
  | setBounds bounds =>
    refine adopt_startsNone running blocked staffed (fun _ => Registry.setBounds_adopts) ?_
    intro registry accepted
    unfold Registry.setBounds at accepted
    split at accepted
    next => cases accepted
    next =>
      cases accepted
      rfl
  | addQueues names =>
    refine adopt_startsNone running blocked staffed (fun _ => Registry.add_adopts) ?_
    intro registry accepted
    unfold Registry.add at accepted
    split at accepted
    next => cases accepted
    next =>
      cases accepted
      rfl
  | removeQueues number names =>
    have removed : w.StartsNone ({ w with registry := (w.registry.remove names).1 }.clearGauges
        (w.registry.remove names).2.1) := ⟨Registry.remove_startsNone _ names, rfl⟩
    have asked := removed.trans (beginClosing_startsNone _ (w.registry.remove names).2.2 [])
    exact ⟨asked.registry, asked.tasks⟩
  | lookAround run =>
    exact loopUnless_startsNone run fun w' => lookAround_startsNone running blocked staffed
  | recover run =>
    exact loopUnless_startsNone run fun w' => recover_startsNone running blocked staffed
  | report run report => exact handleReport_startsNone w run report
  | stop number =>
    unfold undergo beginErrand
    dsimp only
    split
    next closing w' begun =>
      have stops := beginShutdown_startsNone begun
      exact ⟨stops.registry, stops.tasks⟩
    next =>
      unfold joinMonitor
      split
      next => exact ⟨.refl _, rfl⟩
      next => exact ⟨.refl _, rfl⟩
  | stopped fatal =>
    unfold undergo
    dsimp only
    rw [if_neg (by rw [running]; decide)]
    exact .refl w
  | meanwhile other => cases own

end World

end QueueListener
