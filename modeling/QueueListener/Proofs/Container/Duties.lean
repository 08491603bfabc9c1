import QueueListener.Proofs.Container.Custody
/-!
# Turns of monitors and errands

**A turn of a monitor or of an errand is made of deeds, or it ends a stop.** Each function of such a
turn is taken apart here once; what a deed keeps, the turn keeps.

* `converge_deeds`, `lookAround_deeds`, `recover_deeds` — consumers are started and retired;
* `Turns`, `handleReport_turns`, `watch_turns` — what a monitor does that waits;
* `advanceClosing_effects`, `advanceClosing_clears` — those who are late are ended by force;
* `monitorTurn_turns`, `errandTurn_turns` — whole turns.
-/

namespace QueueListener

/-- Queues that were given up stay so, unless they are tracked anew or fail again. -/
theorem Supervisor.AllFatal.serve {s : Supervisor} (all : s.AllFatal) (op : Supervisor.Op)
    (untracked : ∀ name, op ≠ .track name)
    (unfailed : ∀ name error now, op ≠ .failure name error now) : (s.serve op).AllFatal := by
  intro queue state found
  rw [Supervisor.state?_serve] at found
  have before := all queue
  cases op with
  | track name => exact absurd rfl (untracked name)
  | failure name error now => exact absurd rfl (unfailed name error now)
  | beginAttempt | abandonRound | look => exact before state found
  | forget name =>
    unfold Supervisor.Op.move at found
    dsimp only at found
    split at found
    next => cases found
    next => exact before state found
  | consumeOk name =>
    unfold Supervisor.Op.move at found
    dsimp only at found
    split at found
    next =>
      obtain ⟨old, tracked, rfl⟩ := Option.map_eq_some_iff.mp found
      rw [before old tracked]
      rfl
    next => exact before state found
  | declared name exist =>
    unfold Supervisor.Op.move at found
    dsimp only at found
    split at found
    next missing => cases before .missing missing.2.2
    next => exact before state found
  | markAllFatal =>
    obtain ⟨old, tracked, rfl⟩ := Option.map_eq_some_iff.mp found
    rfl

/-- A supervisor that gives all queues up has done so. -/
theorem Supervisor.markAllFatal_allFatal (s : Supervisor) : s.markAllFatal.AllFatal := by
  intro queue state found
  have moved := Supervisor.state?_serve s queue .markAllFatal
  obtain ⟨old, -, rfl⟩ := Option.map_eq_some_iff.mp (moved.symm.trans found)
  rfl

namespace World

variable {w w' w'' : World} {task : Task} {run number : Nat}

/-! ### Changes that concern no consumer -/

theorem wakeObservers_passes (w : World) : w.Passes w.wakeObservers := wakeAll_passes w _

theorem clearGauges_passes (w : World) (queues : List String) :
    w.Passes (w.clearGauges queues) := noted_passes

theorem showCounts_passes (w : World) : w.Passes w.showCounts := noted_passes

theorem closeConnection_passes (w : World) : w.Passes w.closeConnection := by
  unfold closeConnection
  split
  next => exact .refl
  next connection _ =>
    have asked : w.Passes { w with client := (w.client.closeConnection connection).2 } :=
      .single (.asked (w.client.closeConnection_works connection))
    exact (asked.trans noted_passes).trans (deliverNotices_passes _)

/-- The broker carries out an operation that opens no channel and settles nothing. -/
theorem atBroker_passes (op : Broker.Op) (only : op.SettlesOnly fun _ _ => False) :
    w.Passes (w.atBroker (·.step op)).2 := by
  refine Relation.ReflTransGen.head (.asked ⟨⟨[op], fun other member => ?_, rfl⟩, ?_⟩)
    (deliverNotices_passes _)
  · exact List.mem_singleton.mp member ▸ only
  · exact fun fault armed => ⟨fault, armed, rfl⟩

theorem declare_passes (w : World) (queue : String) : w.Passes (w.declare queue).2 := by
  unfold declare
  split
  next =>
    have noted : w.Passes { w with chronicle := { w.chronicle with
        declarations := w.chronicle.declarations.push (w.now, queue) } } := noted_passes
    dsimp only
    split
    next => exact noted
    next => exact noted.trans (atBroker_passes (.declare queue) trivial)
    next => exact noted
    next => exact noted
  next => exact .refl

/-! ### Starting and retiring -/

/-- What is done about the consumers while no monitor gets anything else to wait for. -/
structure Manages (task : Task) (w w' : World) : Prop where
  deeds : Deeds task w w'
  monitors : ∀ run, w'.duty (.monitor run) = w.duty (.monitor run)

namespace Manages

theorem refl (task : Task) (w : World) : Manages task w w := ⟨.refl, fun _ => rfl⟩

theorem trans (first : Manages task w w') (second : Manages task w' w'') : Manages task w w'' :=
  ⟨first.deeds.trans second.deeds, fun run => (second.monitors run).trans (first.monitors run)⟩

theorem of_passes (passes : w.Passes w') : Manages task w w' :=
  ⟨Effects.deeds passes.effects, fun run => passes.quiet.duty (.monitor run)⟩

/-- The supervisor hears of something. -/
theorem informed {supervisor : Supervisor}
    (fatal : w.registry.supervisor.AllFatal → supervisor.AllFatal) :
    Manages task w { w with registry := { w.registry with supervisor } } :=
  ⟨.single (.informed rfl rfl rfl fun _ => fatal), fun _ => rfl⟩

theorem retireAll_monitors (w : World) (ids : List Nat) :
    (ids.foldl retire w).monitors = w.monitors := by
  induction ids generalizing w with
  | nil => rfl
  | cons id ids ih => exact ih (w.retire id)

theorem spawnAll_monitors (w : World) (new : List (Nat × String)) :
    (new.foldl spawn w).monitors = w.monitors := by
  induction new generalizing w with
  | nil => rfl
  | cons consumer new ih => exact ih (w.spawn consumer)

/-- Consumers are started and retired as the registry decides. -/
theorem staffed {registry : Registry} {changes : Changes} {new : List (Nat × String)}
    (running : w.registry.state = .running)
    (hands : Registry.HandsOver (w.registry, {}) (registry, changes) new) :
    Manages task w ({ w with registry }.apply changes) := by
  refine ⟨.single (.staffed running hands), fun run => ?_⟩
  unfold World.duty apply
  dsimp only
  rw [retireAll_monitors, spawnAll_monitors]

end Manages

/-- **A convergence starts and retires consumers**, if the container runs. -/
theorem converge_manages (w : World) : Manages task w w.converge := by
  by_cases running : w.registry.state = .running
  · obtain ⟨new, hands⟩ := w.registry.converge_handsOver w.instant
    exact .staffed running hands
  · have same : w.converge = w := by
      unfold converge Registry.converge
      rw [if_neg running]
      rfl
    rw [same]
    exact .refl task w

/-- A queue is looked for, and the supervisor hears of it. -/
theorem redeclareQueue_manages (acc : Bool × World) (queue : String) :
    Manages task acc.2 (redeclareQueue acc queue).2 := by
  have declared : Manages task acc.2 (acc.2.declare queue).2 := .of_passes (declare_passes _ queue)
  have informed : ∀ (w : World) (found : Bool), Manages task w { w with registry := { w.registry with
      supervisor := (w.registry.supervisor.declarationResult queue found).2 } } :=
    fun w found => .informed fun all =>
      all.serve (.declared queue found) (by rintro _ ⟨⟩) (by rintro _ _ _ ⟨⟩)
  unfold redeclareQueue
  dsimp only
  split
  next =>
    split
    next => exact (declared.trans (informed _ _)).trans (.of_passes (.single (.told rfl)))
    next => exact declared.trans (informed _ _)
  next => exact declared.trans (informed _ _)

/-- Missing queues are looked for; when one is found the container converges. -/
theorem redeclare_manages (looked : w.redeclare = .ok w') : Manages task w w' := by
  by_cases running : w.registry.state = .running
  · obtain ⟨due, s, taken, found, w₁, walked, rfl⟩ := redeclare_walks running looked
    have informed : Manages task w { w with registry := { w.registry with supervisor := s } } :=
      .informed fun all queue state tracked =>
        all queue state ((Supervisor.takeDue_calm taken).2 queue ▸ tracked)
    have walks : ∀ acc : Bool × World,
        Manages task acc.2 (due.foldl redeclareQueue acc).2 := by
      clear taken walked looked
      induction due with
      | nil => exact fun acc => .refl task acc.2
      | cons queue due ih =>
        exact fun acc => (redeclareQueue_manages acc queue).trans (ih (redeclareQueue acc queue))
    have walk := walks (false, { w with registry := { w.registry with supervisor := s } })
    rw [walked] at walk
    split
    next => exact (informed.trans walk).trans (converge_manages w₁)
    next => exact informed.trans walk
  · rw [redeclare_of_not_running running] at looked
    cases looked
    exact .refl task w

/-- **A look at all queues.** -/
theorem lookAround_manages (looked : w.lookAround = .ok w') : Manages task w w' := by
  by_cases running : w.registry.state = .running
  · rw [lookAround_of_running running] at looked
    obtain ⟨new, hands⟩ := w.registry.tick_handsOver w.sample w.instant
    have ticked : Manages task w w.ticked :=
      (Manages.staffed running hands).trans (.of_passes (showCounts_passes _))
    exact ticked.trans (redeclare_manages looked)
  · unfold lookAround at looked
    rw [if_neg running] at looked
    cases looked
    exact .refl task w

/-- A deadline of the recovery has come. -/
theorem recover_manages (recovered : w.recover = .ok w') : Manages task w w' := by
  obtain ⟨w₁, looked, rfl⟩ := recover_outcome recovered
  exact (redeclare_manages looked).trans (converge_manages w₁)

/-- The consumers of a queue are paused. -/
theorem pauseQueue_manages (queue : String) (running : w.registry.state = .running) :
    Manages task w (w.pauseQueue queue) := by
  have told : Manages task w (w.publish (.queueMissing queue)) := .of_passes (.single (.told rfl))
  have same : w.pauseQueue queue =
      ((w.publish (.queueMissing queue)).registry.consumersOf queue).foldl retire
        { w.publish (.queueMissing queue) with
          registry := (w.publish (.queueMissing queue)).registry.dropConsumers queue } := by
    unfold pauseQueue publish
    dsimp only
    split
    next => rfl
    next => rfl
  rw [same]
  refine told.trans ⟨.single (.paused queue ?_), fun run => ?_⟩
  · rw [(publish_still _ _).registry]
    exact running
  · unfold World.duty
    dsimp only
    rw [Manages.retireAll_monitors]

/-! ### The phases of monitors and errands -/

/-- A monitor changes, and has at most the reports that it had. -/
theorem updateMonitor_reassigns {f : Monitor → Monitor}
    (fewer : ∀ m, w.monitors[run]? = some m → (f m).reports ⊆ m.reports) :
    Reassigns (.monitor run) w (w.updateMonitor run f) where
  toStill := updateMonitor_still w run f
  client := rfl
  consumers := rfl
  handoffs := rfl
  events := rfl
  retiring := rfl
  errands _ _ := rfl
  monitors other differ := by
    show ((w.monitors.modify run f)[other]?).map _ = _
    rw [Array.getElem?_modify, if_neg fun same => differ (congrArg _ same)]
  reports other m' found := by
    have found' : (w.monitors.modify run f)[other]? = some m' := found
    rw [Array.getElem?_modify] at found'
    split at found'
    next here =>
      obtain ⟨m, found₀, rfl⟩ := Option.map_eq_some_iff.mp found'
      exact ⟨m, found₀, fewer m (here ▸ found₀)⟩
    next => exact ⟨m', found', List.Subset.refl _⟩
  kinds _ := rfl
  turns other _ := .refl other w.agenda

/-- What a monitor has to wait for after it has changed. -/
theorem updateMonitor_duty (f : Monitor → Monitor) :
    (w.updateMonitor run f).duty (.monitor run) =
      (w.monitors[run]?).elim {} fun m => (f m).duty := by
  show ((w.monitors.modify run f)[run]?).elim {} Monitor.duty = _
  rw [Array.getElem?_modify, if_pos rfl]
  cases w.monitors[run]? <;> rfl

/-- An errand gets on. -/
theorem setErrandPhase_reassigns (w : World) (number : Nat) (phase : ErrandPhase) :
    Reassigns (.errand number) w (w.setErrandPhase number phase) where
  toStill := ⟨rfl, rfl, rfl⟩
  client := rfl
  consumers := rfl
  handoffs := rfl
  events := rfl
  retiring := rfl
  errands other differ := by
    show (w.errands.modify number _)[other]? = _
    rw [Array.getElem?_modify, if_neg fun same => differ (congrArg _ same)]
  monitors _ _ := rfl
  reports _ m found := ⟨m, found, List.Subset.refl _⟩
  kinds other := by
    show ((w.errands.modify number _)[other]?).map _ = _
    rw [Array.getElem?_modify]
    split
    next => rw [Option.map_map]; rfl
    next => rfl
  turns other _ := .refl other w.agenda

/-- What an errand has to wait for after it has got on. -/
theorem setErrandPhase_duty (phase : ErrandPhase) :
    (w.setErrandPhase number phase).duty (.errand number) =
      (w.errands[number]?).elim {} fun errand => Errand.duty { errand with phase } := by
  show ((w.errands.modify number _)[number]?).elim {} Errand.duty = _
  rw [Array.getElem?_modify, if_pos rfl]
  cases w.errands[number]? <;> rfl

/-- Timers and turns to come are nobody's duty. -/
theorem Reassigns.agenda (reassigns : Reassigns task w w') {agenda : Agenda}
    (turns : ∀ other, task ≠ other → Agenda.Spares other w'.agenda agenda) :
    Reassigns task w { w' with agenda } where
  toStill := ⟨reassigns.registry, reassigns.plan, reassigns.now⟩
  client := reassigns.client
  consumers := reassigns.consumers
  handoffs := reassigns.handoffs
  events := reassigns.events
  retiring := reassigns.retiring
  errands := reassigns.errands
  monitors := reassigns.monitors
  reports := reassigns.reports
  kinds := reassigns.kinds
  turns other differ := (reassigns.turns other differ).trans (turns other differ)

/-- A monitor that stops nothing has nothing to wait for. -/
theorem setMonitorPhase_duty (phase : MonitorPhase) (free : (Monitor.duty { phase }) = {}) :
    (w.setMonitorPhase run phase).duty (.monitor run) = {} := by
  unfold setMonitorPhase
  rw [updateMonitor_duty]
  cases w.monitors[run]? with
  | none => rfl
  | some m => exact free

theorem setMonitorPhase_reassigns (w : World) (run : Nat) (phase : MonitorPhase) :
    Reassigns (.monitor run) w (w.setMonitorPhase run phase) :=
  updateMonitor_reassigns fun _ _ => List.Subset.refl _

/-- A monitor that ends has nothing to wait for any more. -/
theorem endMonitor_reassigns (w : World) (run : Nat) :
    Reassigns (.monitor run) w (w.endMonitor run).2 ∧
      (w.endMonitor run).2.duty (.monitor run) = {} := by
  refine ⟨?_, setMonitorPhase_duty (w := w) .finished rfl⟩
  refine (setMonitorPhase_reassigns w run .finished).agenda fun other differ => ?_
  exact ((Agenda.spares_cancelTimer _ differ .deadline).trans
    (Agenda.spares_cancelTimer _ differ .period)).trans (Agenda.spares_wakeAll _ other _)

/-- After something was done a monitor waits for nobody. -/
theorem loopAgain_reassigns (w : World) (run : Nat) :
    Reassigns (.monitor run) w (w.loopAgain run).2 ∧
      (w.loopAgain run).2.duty (.monitor run) = {} := by
  unfold loopAgain
  split
  next => exact endMonitor_reassigns w run
  next => exact ⟨setMonitorPhase_reassigns w run .looping, setMonitorPhase_duty .looping rfl⟩

/-- Whoever waits for nobody is free to do something else. -/
theorem Reassigns.deeds (reassigns : Reassigns task w w') (free : w.duty task = {})
    (freed : w'.duty task = {}) : Deeds task w w' := by
  refine .single (.reassigned reassigns ?_)
  rw [free, freed]
  exact .refl w {}

theorem endMonitor_deeds (free : w.duty (.monitor run) = {}) :
    Deeds (.monitor run) w (w.endMonitor run).2 :=
  (endMonitor_reassigns w run).1.deeds free (endMonitor_reassigns w run).2

theorem loopAgain_deeds (free : w.duty (.monitor run) = {}) :
    Deeds (.monitor run) w (w.loopAgain run).2 :=
  (loopAgain_reassigns w run).1.deeds free (loopAgain_reassigns w run).2

/-! ### The monitor -/

/-- After something that may have ended the monitor. -/
theorem loopUnless_deeds (free : w.duty (.monitor run) = {}) {result : Except TimeFault World}
    (after : ∀ w', result = .ok w' → Manages (.monitor run) w w') :
    Deeds (.monitor run) w (w.loopUnless run result).2 := by
  cases result with
  | error fault => exact endMonitor_deeds free
  | ok w' =>
    have manages := after w' rfl
    exact manages.deeds.trans (loopAgain_deeds ((manages.monitors run).trans free))

/-- The beginning of a stop takes all consumers off their queues, and asks them to stop. -/
theorem beginShutdown_begins (task : Task) {closing : Closing} (begun : w.beginShutdown = some (closing, w')) :
    ∃ ids registry, w.registry.beginStop = some (ids, registry) ∧ closing.consumers = ids ∧
      closing.errands = w.retiring ∧
      Effects task
        { w with
          registry
          retiring := []
          monitors := w.monitors.modify (w.monitors.size - 1) fun m =>
            { m with stopRequested := true } } w' := by
  unfold beginShutdown at begun
  split at begun
  next => cases begun
  next ids registry stops =>
    cases begun
    refine ⟨ids, registry, stops, rfl, rfl, ?_⟩
    exact (Relation.ReflTransGen.single (.aside (.woken _))).trans
      ((requestStops_effects task _ ids).trans (wakeObservers_passes _).effects)

/-- **A monitor that gives the container up stops it.** -/
theorem giveUp_deeds (free : w.duty (.monitor run) = {}) (present : run < w.monitors.size)
    (reason : String) : Deeds (.monitor run) w (w.giveUp run reason).2 := by
  unfold giveUp
  split
  next => exact loopAgain_deeds free
  next closing w' begun =>
    obtain ⟨ids, registry, stops, rfl, retiring, after⟩ :=
      beginShutdown_begins (.monitor run) begun
    refine .single (.stopBegun (some reason) free stops after
      ((setMonitorPhase_reassigns w' run (.closing reason closing)).agenda fun _ differ =>
        Agenda.spares_setTimer _ differ .deadline _) ?_)
    show (w'.setMonitorPhase run (.closing reason closing)).duty (.monitor run) = _
    unfold setMonitorPhase
    rw [updateMonitor_duty]
    obtain ⟨news, heard⟩ := after.quiet.monitors run
    rw [heard]
    dsimp only
    rw [Array.getElem?_modify, Array.getElem?_eq_getElem present]
    split
    all_goals
      dsimp only [Option.map_some, Option.elim_some, Monitor.duty]
      rw [retiring]

theorem applyAction_deeds (free : w.duty (.monitor run) = {}) (present : run < w.monitors.size)
    (running : w.registry.state = .running) (action : RecoveryAction) :
    Deeds (.monitor run) w (w.applyAction run action).2 := by
  cases action with
  | restart | scheduleRetry | awaitRound => exact loopAgain_deeds free
  | pause queue =>
    have manages : Manages (.monitor run) w (w.pauseQueue queue) := pauseQueue_manages queue running
    exact manages.deeds.trans (loopAgain_deeds ((manages.monitors run).trans free))
  | fatal reason => exact giveUp_deeds free present reason

/-- **What follows from a report** of a consumer that has ended indeed. -/
theorem handleReport_deeds (free : w.duty (.monitor run) = {}) (present : run < w.monitors.size)
    {report : Report} (about : ∀ id, report.ended? = some id → w.isFinished id = true) :
    Deeds (.monitor run) w (w.handleReport run report).2 := by
  cases report with
  | consumeOk queue =>
    have informed : Deed (.monitor run) w { w with registry := { w.registry with
        supervisor := w.registry.supervisor.consumeOk queue } } :=
      .informed rfl rfl rfl fun _ all =>
        all.serve (.consumeOk queue) (by rintro _ ⟨⟩) (by rintro _ _ _ ⟨⟩)
    exact .head informed (loopAgain_deeds free)
  | terminated id queue => exact .head (.dismissed queue (about id rfl)) (loopAgain_deeds free)
  | failed id queue error =>
    refine .head (.dismissed queue (about id rfl)) ?_
    unfold handleReport Registry.consumerFailed
    dsimp only
    by_cases answered : ((w.registry.removeConsumer queue id).state = .running &&
        (w.registry.removeConsumer queue id).queues.contains queue : Bool) = true
    · have running : w.registry.state = .running :=
        of_decide_eq_true (Bool.and_eq_true_iff.mp answered).1
      have informed : Deed (.monitor run)
          { w with registry := w.registry.removeConsumer queue id }
          { w with registry := { w.registry.removeConsumer queue id with
              supervisor := ((w.registry.removeConsumer queue id).supervisor.onFailure queue error
                w.instant).2 } } :=
        .informed rfl rfl rfl fun stopped => absurd running stopped
      rw [if_pos answered]
      refine .head informed ?_
      dsimp only
      split
      next none => cases none
      next => exact endMonitor_deeds free
      next action _ =>
        refine applyAction_deeds ?_ ?_ ?_ action
        · exact free
        · exact present
        · exact running
    · rw [if_neg answered]
      exact loopAgain_deeds free

/-- A monitor notes something that is nobody's duty. -/
theorem updateMonitor_deeds (free : w.duty (.monitor run) = {}) (f : Monitor → Monitor)
    (fewer : ∀ m, w.monitors[run]? = some m → (f m).reports ⊆ m.reports)
    (same : ∀ m, w.monitors[run]? = some m → (f m).duty = {}) {agenda : Agenda}
    (turns : ∀ other, .monitor run ≠ other → Agenda.Spares other w.agenda agenda) :
    Deeds (.monitor run) w { w.updateMonitor run f with agenda } := by
  refine ((updateMonitor_reassigns fewer).agenda turns).deeds free ?_
  refine (updateMonitor_duty f).trans ?_
  cases found : w.monitors[run]? with
  | none => rfl
  | some m => exact same m found

/-- A monitor that waits has nobody to wait for. -/
theorem duty_of_phase {m : Monitor} (found : w.monitors[run]? = some m) :
    w.duty (.monitor run) = m.duty := by
  unfold World.duty
  dsimp only
  rw [found]
  rfl

/-- **A turn of a monitor that waits.** -/
theorem watch_deeds (records : w.Records) {m : Monitor} {deadline : Option Instant} {armed : Bool}
    (found : w.monitors[run]? = some m) (waits : m.phase = .waiting deadline armed) :
    Deeds (.monitor run) w (w.watch run m deadline armed).2 := by
  have idle : m.duty = {} := by
    unfold Monitor.duty
    rw [waits]
  have free : w.duty (.monitor run) = {} := (duty_of_phase found).trans idle
  have present : run < w.monitors.size := (Array.getElem?_eq_some_iff.mp found).1
  have actual : ∀ m', w.monitors[run]? = some m' → m' = m := fun m' found' =>
    Option.some.inj (found'.symm.trans found)
  have idled : ∀ phase reports nextTick stopRequested, (∃ t b, phase = .waiting t b) →
      Monitor.duty { phase, reports, nextTick, stopRequested } = {} := by
    rintro _ reports nextTick stopRequested ⟨t, b, rfl⟩
    rfl
  unfold watch
  split
  next => exact endMonitor_deeds free
  next =>
    split
    next report rest reports =>
      have read : Deeds (.monitor run) w (w.updateMonitor run fun m => { m with reports := rest }) :=
        updateMonitor_deeds free _ (fun m' found' => by
            rw [actual m' found', reports]
            exact List.subset_cons_self _ _)
          (fun m' found' => idled _ _ _ _ ⟨deadline, armed, (actual m' found').symm ▸ waits⟩)
          fun other _ => .refl other w.agenda
      refine read.trans (handleReport_deeds ?_ ?_ fun id ended => ?_)
      · rw [updateMonitor_duty, found]
        exact idled _ _ _ _ ⟨deadline, armed, waits⟩
      · exact (Array.size_modify ..).symm ▸ present
      · obtain ⟨c, found', finished⟩ := records.reported run m found report
          (reports ▸ List.mem_cons_self) id ended
        refine isFinished_eq_true.mpr fun c' found'' => ?_
        obtain rfl := Option.some.inj (found'.symm.trans found'')
        exact finished
    next =>
      split
      next => exact loopUnless_deeds free fun w' recovered => recover_manages recovered
      next =>
        split
        next =>
          have scheduled : Deeds (.monitor run) w
              (w.schedule run (m.nextTick + w.plan.settings.monitorInterval)) :=
            updateMonitor_deeds free
              (fun m' => { m' with nextTick := m.nextTick + w.plan.settings.monitorInterval })
              (fun _ _ => List.Subset.refl _)
              (fun m' found' => idled _ _ _ _ ⟨deadline, armed, (actual m' found').symm ▸ waits⟩)
              fun _ differ => Agenda.spares_setTimer _ differ .period _
          refine scheduled.trans (loopUnless_deeds ?_ fun w' looked => lookAround_manages looked)
          refine (updateMonitor_duty _).trans ?_
          rw [found]
          exact idled _ _ _ _ ⟨deadline, armed, waits⟩
        next =>
          split
          next t _ =>
            exact updateMonitor_deeds free (fun m' => { m' with phase := .waiting (some t) true })
              (fun _ _ => List.Subset.refl _) (fun _ _ => idled _ _ _ _ ⟨some t, true, rfl⟩)
              fun _ differ => Agenda.spares_setTimer _ differ .deadline _
          next => exact .refl

/-! ### Waiting for consumers -/

theorem errandDone_duty (done : w.errandDone number = true) : w.duty (.errand number) = {} := by
  unfold errandDone at done
  unfold World.duty
  dsimp only
  cases found : w.errands[number]? with
  | none => rfl
  | some errand =>
    rw [found] at done
    obtain ⟨kind, phase, recorded⟩ := errand
    cases phase with
    | done answer => rfl
    | begin | closing | joining | settling => cases done

/-- Whoever was ended by force is finished, and whoever was finished stays so. -/
theorem forceCloseAll_finishes (ids : List Nat) {id : Nat}
    (known : id ∈ ids ∨ w.isFinished id = true) : (ids.foldl forceClose w).isFinished id = true := by
  induction ids generalizing w with
  | nil => exact known.resolve_left List.not_mem_nil
  | cons other ids ih =>
    refine ih (or_iff_not_imp_left.mpr fun later => isFinished_eq_true.mpr fun c found => ?_)
    rw [forceClose_get?] at found
    split at found
    next =>
      obtain ⟨_, -, rfl⟩ := Option.map_eq_some_iff.mp found
      rfl
    next differ =>
      have done := known.resolve_left fun among => later (List.mem_of_ne_of_mem differ among)
      exact isFinished_eq_true.mp done c found

/-- Those who are late are ended by force. -/
theorem advanceClosing_effects (records : w.Records) (closing : Closing) :
    Effects task w (w.advanceClosing closing).2 := by
  unfold advanceClosing
  dsimp only
  split
  next =>
    refine forceCloseAll_effects fun id alive => records.closable ?_
    simpa using (List.mem_filter.mp alive).2
  next => exact .refl

/-- **What a task goes on to wait for**: everybody who has not ended, and every errand that is not
over. -/
theorem advanceClosing_keeps (closing : Closing) :
    (∀ id ∈ closing.consumers, (w.advanceClosing closing).2.isFinished id = false →
      id ∈ (w.advanceClosing closing).1.consumers) ∧
    (w.advanceClosing closing).1.errands =
      closing.errands.filter fun number => !w.errandDone number := by
  unfold advanceClosing
  dsimp only
  split
  next =>
    refine ⟨fun id among busy => ?_, rfl⟩
    rw [forceCloseAll_finishes _ ?_] at busy
    · cases busy
    · cases before : w.isFinished id with
      | false => exact .inl (List.mem_filter.mpr ⟨among, by rw [before]; rfl⟩)
      | true => exact .inr rfl
  next => exact ⟨fun id among busy => List.mem_filter.mpr ⟨among, by rw [busy]; rfl⟩, rfl⟩

/-- What a task keeps that goes on to wait, once nobody is late. -/
theorem advanceClosing_keeps_duty (records : w.Records) {closing : Closing} {duty : Duty}
    (consumers : duty.consumers = closing.consumers) (errands : duty.errands = closing.errands) :
    (w.advanceClosing closing).2.Keeps duty
      { duty with
        consumers := (w.advanceClosing closing).1.consumers
        errands := (w.advanceClosing closing).1.errands } := by
  obtain ⟨alive, remaining⟩ := advanceClosing_keeps (w := w) closing
  have effects : Effects (.errand 0) w (w.advanceClosing closing).2 :=
    advanceClosing_effects records closing
  exact {
    consumers := fun id among => alive id (consumers ▸ among)
    errands := fun number among waits => by
      dsimp only
      rw [remaining]
      refine List.mem_filter.mpr ⟨errands ▸ among, ?_⟩
      cases done : w.errandDone number with
      | false => rfl
      | true =>
        rw [effects.quiet.duty, errandDone_duty done] at waits
        exact absurd rfl waits
    fewer := by
      dsimp only
      rw [remaining, errands]
      exact List.filter_sublist.subset
    stops := rfl
    removes := fun removes _ => removes }

/-- The end of a stop, part by part. -/
theorem finishShutdown_parts (w : World) (fatal : Option String) : ∃ middle after : World,
    w.Passes middle ∧
    ({ middle with registry := middle.registry.finishStop fatal.isSome } : World).Passes after ∧
    w.finishShutdown fatal = after.publish (.containerStopped fatal.isSome fatal) := by
  have parts : ∀ middle : World, ({ middle with
      registry := middle.registry.finishStop fatal.isSome } : World).Passes
      ((({ middle with registry := middle.registry.finishStop fatal.isSome } : World).clearGauges
        (middle.registry.finishStop fatal.isSome).queues).wakeObservers.count
          (.stop fatal.isSome)) := fun middle =>
    ((clearGauges_passes _ _).trans (wakeObservers_passes _)).trans noted_passes
  unfold finishShutdown
  dsimp only
  split
  next => exact ⟨_, _, closeConnection_passes w, parts _, rfl⟩
  next => exact ⟨_, _, .refl, parts w, rfl⟩

/-- **A stop ends when everybody has ended** for whom it has waited. -/
theorem endsStop_of_isOver (records : w.Records) {closing : Closing} {fatal : Option String}
    (duty : w.duty task =
      { consumers := closing.consumers, errands := closing.errands, stops := some fatal })
    (isOver : (w.advanceClosing closing).1.isOver = true) {middle : World}
    (later : Effects task (w.advanceClosing closing).2 middle)
    (reassigns : Reassigns task (middle.finishShutdown fatal) w') (freed : w'.duty task = {}) :
    EndsStop task fatal w w' := by
  obtain ⟨alive, remaining⟩ := advanceClosing_keeps (w := w) closing
  obtain ⟨noConsumer, noErrand⟩ := Bool.and_eq_true_iff.mp isOver
  have ended : ∀ id ∈ closing.consumers, (w.advanceClosing closing).2.isFinished id = true := by
    intro id among
    by_contra busy
    have waits := alive id among (eq_false_of_ne_true busy)
    rw [List.isEmpty_iff.mp noConsumer] at waits
    exact absurd waits List.not_mem_nil
  obtain ⟨closed, after, closes, stops, same⟩ := finishShutdown_parts middle fatal
  have effects : Effects task (w.advanceClosing closing).2 closed := later.trans closes.effects
  refine ⟨by rw [duty], ⟨closed, after, (advanceClosing_effects records closing).trans effects, ?_,
    stops.effects, same ▸ reassigns⟩, ?_, freed⟩
  · intro id among
    rw [duty] at among
    by_contra busy
    have working := effects.wasBusy (eq_false_of_ne_true busy)
    rw [ended id among] at working
    cases working
  · intro number among
    rw [duty] at among
    rw [List.isEmpty_iff.mp noErrand] at remaining
    have done : w.errandDone number = true := by
      by_contra waits
      have left : number ∈ closing.errands.filter fun number => !w.errandDone number :=
        List.mem_filter.mpr ⟨among, by rw [eq_false_of_ne_true waits]; rfl⟩
      rw [← remaining] at left
      exact absurd left List.not_mem_nil
    rw [errandDone_duty done]

/-! ### Whole turns of monitors -/

/-- A turn of a monitor or of an errand is made of deeds, or ends a stop. -/
inductive Enacts (task : Task) (w w' : World) : Prop
  | deeds (deeds : Deeds task w w')
  | endsStop {fatal : Option String} (ends : EndsStop task fatal w w')

/-- **What a turn of a monitor is made of.** -/
theorem monitorTurn_enacts (records : w.Records) (run : Nat) :
    Enacts (.monitor run) w (w.monitorTurn run).2 := by
  unfold monitorTurn
  split
  next => exact .deeds .refl
  next m found =>
    have actual : ∀ m', w.monitors[run]? = some m' → m' = m := fun m' found' =>
      Option.some.inj (found'.symm.trans found)
    have duty : w.duty (.monitor run) = m.duty := duty_of_phase found
    split
    next starting =>
      have free : w.duty (.monitor run) = {} := by
        rw [duty]
        unfold Monitor.duty
        rw [starting]
      have scheduled : Deeds (.monitor run) w
          (w.schedule run (w.instant + w.plan.settings.monitorInterval)) :=
        updateMonitor_deeds free (fun m' => { m' with
            nextTick := w.instant + w.plan.settings.monitorInterval })
          (fun _ _ => List.Subset.refl _)
          (fun m' found' => by rw [actual m' found', ← free, duty]; rfl)
          fun _ differ => Agenda.spares_setTimer _ differ .period _
      refine .deeds (scheduled.trans ((setMonitorPhase_reassigns _ run .looping).deeds ?_
        (setMonitorPhase_duty .looping rfl)))
      refine (updateMonitor_duty _).trans ?_
      rw [found, ← free, duty]
      rfl
    next looping =>
      have free : w.duty (.monitor run) = {} := by
        rw [duty]
        unfold Monitor.duty
        rw [looping]
      exact .deeds (updateMonitor_deeds free (fun m' => { m' with
        phase := .waiting w.registry.supervisor.nextDeadline? false })
        (fun _ _ => List.Subset.refl _) (fun _ _ => rfl)
        fun _ differ => Agenda.spares_cancelTimer _ differ .deadline)
    next waits => exact .deeds (watch_deeds records found waits)
    next reason closing closes =>
      have waiting : w.duty (.monitor run) = { consumers := closing.consumers
                                               errands := closing.errands
                                               stops := some (some reason) } := by
        rw [duty]
        unfold Monitor.duty
        rw [closes]
      dsimp only
      split
      next isOver =>
        exact .endsStop (endsStop_of_isOver records waiting isOver .refl
          (loopAgain_reassigns _ run).1 (loopAgain_reassigns _ run).2)
      next =>
        have effects : Effects (.monitor run) w (w.advanceClosing closing).2 :=
          advanceClosing_effects records closing
        refine .deeds ((Effects.deeds effects).tail
          (.reassigned (setMonitorPhase_reassigns _ run _) ?_))
        obtain ⟨news, heard⟩ := effects.quiet.monitors run
        unfold setMonitorPhase pause
        dsimp only
        rw [updateMonitor_duty, heard, found, effects.quiet.duty, waiting]
        exact advanceClosing_keeps_duty records rfl rfl
    next => exact .deeds .refl

/-! ### Whole turns of errands -/

theorem duty_of_errand {errand : Errand} (found : w.errands[number]? = some errand) :
    w.duty (.errand number) = errand.duty := by
  unfold World.duty
  dsimp only
  rw [found]
  rfl

/-- An errand gets on, and keeps what it has to wait for. -/
theorem setErrandPhase_deeds {errand : Errand} (found : w.errands[number]? = some errand)
    {phase : ErrandPhase} (keeps : w.Keeps errand.duty (Errand.duty { errand with phase }))
    {agenda : Agenda}
    (turns : ∀ other, .errand number ≠ other → Agenda.Spares other w.agenda agenda) :
    Deeds (.errand number) w { w.setErrandPhase number phase with agenda } := by
  refine .single (.reassigned ((setErrandPhase_reassigns w number phase).agenda turns) ?_)
  have assigned : World.duty { w.setErrandPhase number phase with agenda } (.errand number) =
      Errand.duty { errand with phase } := by
    refine (setErrandPhase_duty phase).trans ?_
    rw [found]
    rfl
  rw [assigned, duty_of_errand found]
  exact keeps

/-- A stop that has ended, or need not begin, waits for nobody. -/
theorem joinMonitor_reassigns (w : World) (number : Nat) :
    Reassigns (.errand number) w (w.joinMonitor number).2 ∧
      (w.joinMonitor number).2.duty (.errand number) = {} := by
  have freed : ∀ (w : World) (phase : ErrandPhase), (∀ kind recorded,
      Errand.duty { kind, phase, recorded } = {}) →
      (w.setErrandPhase number phase).duty (.errand number) = {} := by
    intro w phase free
    rw [setErrandPhase_duty]
    cases w.errands[number]? with
    | none => rfl
    | some errand => exact free _ _
  unfold joinMonitor
  split
  next run _ =>
    have same := setErrandPhase_reassigns { w with joinable := none } number (.joining run)
    refine ⟨⟨⟨rfl, rfl, rfl⟩, rfl, rfl, rfl, rfl, rfl, same.errands, same.monitors, same.reports,
      same.kinds, same.turns⟩, ?_⟩
    exact freed _ _ fun _ _ => rfl
  next => exact ⟨setErrandPhase_reassigns w number .settling, freed _ _ fun _ _ => rfl⟩

/-- The container that was given up lets its monitor and its consumers go. -/
theorem letGo_deeds (task : Task) (w : World) : Deeds task w w.letGo := by
  unfold letGo
  split
  next =>
    dsimp only
    have asked : Deed task w (w.updateMonitor (w.monitors.size - 1) fun m =>
        { m with stopRequested := true }) := by
      have same : Reassigns (.monitor (w.monitors.size - 1)) w
          (w.updateMonitor (w.monitors.size - 1) fun m => { m with stopRequested := true }) :=
        updateMonitor_reassigns fun _ _ => List.Subset.refl _
      refine .reassigned { same with
        errands := fun _ _ => rfl
        monitors := fun run _ => ?_
        turns := fun other _ => .refl other w.agenda } ?_
      · show ((w.monitors.modify _ _)[run]?).map _ = _
        rw [Array.getElem?_modify]
        split
        next => rw [Option.map_map]; rfl
        next => rfl
      · have same : (w.updateMonitor (w.monitors.size - 1) fun m =>
            { m with stopRequested := true }).duty task = w.duty task := duty_of_stopRequested _ _
        rw [same]
        exact .refl w _
    refine .head asked (.head (.affected (.aside (.woken (.monitor (w.monitors.size - 1))))) ?_)
    exact Effects.deeds (requestStops_effects task _ _)
  next => exact .refl

/-- Whoever has nobody left to wait for is free. -/
theorem Keeps.to_free {old new : Duty} (keeps : w.Keeps old new) (consumers : new.consumers = [])
    (errands : new.errands = []) (stops : old.stops = none) : w.Keeps old {} where
  consumers id among busy := consumers ▸ keeps.consumers id among busy
  errands number among waits := errands ▸ keeps.errands number among waits
  fewer := List.nil_subset _
  stops := stops.symm
  removes _ none := absurd rfl none

/-- **An errand ends** that has nobody to wait for any more. -/
theorem endErrand_deeds {errand : Errand} (found : w.errands[number]? = some errand)
    (keeps : w.Keeps errand.duty {}) (answer : Bool) :
    Deeds (.errand number) w (w.endErrand number errand answer).2 := by
  have same := setErrandPhase_reassigns w number (.done answer)
  have ended : ∀ w₁ : World, Reassigns (.errand number) w w₁ →
      w₁.errands = (w.setErrandPhase number (.done answer)).errands → ∀ waiters,
        Deeds (.errand number) w
          ({ w₁ with agenda := w₁.agenda.wakeAll waiters } : World).letGo := by
    intro w₁ reassigns errands waiters
    refine Relation.ReflTransGen.trans (.single (.reassigned (reassigns.agenda fun other _ =>
      Agenda.spares_wakeAll w₁.agenda other waiters) ?_)) (letGo_deeds _ _)
    have assigned : World.duty { w₁ with agenda := w₁.agenda.wakeAll waiters } (.errand number) =
        {} := by
      refine Eq.trans ?_ ((setErrandPhase_duty (.done answer)).trans (by rw [found]; rfl))
      unfold World.duty
      dsimp only
      rw [errands]
    rw [assigned, duty_of_errand found]
    exact keeps
  unfold endErrand
  dsimp only
  split
  next =>
    have recorded : Reassigns (.errand number) w
        { (w.setErrandPhase number (.done answer)).cancelTimer (.errand number) .deadline with
          chronicle := { w.chronicle with ended := w.chronicle.ended.push (errand.kind, w.now) } } :=
      { same with
        events := rfl
        turns := fun _ differ => Agenda.spares_cancelTimer _ differ .deadline }
    exact ended _ recorded rfl _
  next =>
    exact ended _ (same.agenda fun _ differ => Agenda.spares_cancelTimer _ differ .deadline) rfl _

/-- **What the beginning of an errand is made of.** -/
theorem beginErrand_deeds {errand : Errand} (found : w.errands[number]? = some errand)
    (begins : errand.phase = .begin) :
    Deeds (.errand number) w (w.beginErrand number errand).2 := by
  obtain ⟨kind, phase, recorded⟩ := errand
  dsimp only at begins
  subst begins
  have duty := duty_of_errand found
  unfold beginErrand
  dsimp only
  cases kind with
  | retire id =>
    have asked : Effects (.errand number) w ([id].foldl requestStop w) :=
      requestStops_effects _ w [id]
    refine (Effects.deeds asked).trans (setErrandPhase_deeds (by rw [asked.quiet.errands, found])
      ?_ fun _ differ => Agenda.spares_setTimer _ differ .deadline _)
    exact .refl _ _
  | remove names =>
    dsimp only
    have after : Effects (.errand number) { w with registry := (w.registry.remove names).1 }
        ((({ w with registry := (w.registry.remove names).1 } : World).clearGauges
          (w.registry.remove names).2.1).beginClosing (w.registry.remove names).2.2 []).2 :=
      (clearGauges_passes _ _).effects.trans (requestStops_effects _ _ _)
    refine .single (.removed duty after ((setErrandPhase_reassigns _ number _).agenda
      fun _ differ => Agenda.spares_setTimer _ differ .deadline _) ?_)
    refine (setErrandPhase_duty _).trans ?_
    rw [after.quiet.errands]
    dsimp only
    rw [found]
    rfl
  | stop =>
    dsimp only
    split
    next closing w' begun =>
      obtain ⟨ids, registry, stops, rfl, retiring, after⟩ :=
        beginShutdown_begins (.errand number) begun
      refine .single (.stopBegun none duty stops after
        ((setErrandPhase_reassigns w' number (.closing closing)).agenda
          fun _ differ => Agenda.spares_setTimer _ differ .deadline _) ?_)
      refine (setErrandPhase_duty _).trans ?_
      rw [after.quiet.errands]
      dsimp only
      rw [found]
      dsimp only [Option.elim_some, Errand.duty]
      rw [retiring]
    next =>
      exact (joinMonitor_reassigns w number).1.deeds duty (joinMonitor_reassigns w number).2
  | await target deadline =>
    refine setErrandPhase_deeds found ?_ fun _ differ => Agenda.spares_setTimer _ differ .deadline _
    exact .refl w {}

/-- Whoever waits for a state has nobody to wait for. -/
theorem awaitState_deeds {errand : Errand} (found : w.errands[number]? = some errand)
    (settles : errand.phase = .settling) :
    Deeds (.errand number) w (w.awaitState number errand).2 := by
  have free : errand.duty = {} := by
    unfold Errand.duty
    rw [settles]
  have ends : ∀ answer, Deeds (.errand number) w (w.endErrand number errand answer).2 :=
    fun answer => endErrand_deeds found (free ▸ .refl w {}) answer
  unfold awaitState
  split
  next =>
    split
    next => exact ends true
    next =>
      split
      next => exact ends false
      next => exact .refl
  next =>
    split
    next => exact .refl
    next => exact ends true

/-- **What a turn of an errand is made of.** -/
theorem errandTurn_enacts (records : w.Records) (number : Nat) :
    Enacts (.errand number) w (w.errandTurn number).2 := by
  unfold errandTurn
  split
  next => exact .deeds .refl
  next errand found =>
    obtain ⟨kind, phase, recorded⟩ := errand
    have duty := duty_of_errand found
    dsimp only
    split
    next => exact .deeds (beginErrand_deeds found rfl)
    next closing =>
      have effects : Effects (.errand number) w (w.advanceClosing closing).2 :=
        advanceClosing_effects records closing
      have found' := effects.quiet.errands ▸ found
      have keeps : (w.advanceClosing closing).2.Keeps
          (Errand.duty ⟨kind, .closing closing, recorded⟩)
          (Errand.duty ⟨kind, .closing (w.advanceClosing closing).1, recorded⟩) := by
        cases kind <;> exact advanceClosing_keeps_duty records rfl rfl
      split
      next isOver =>
        have ended : (w.advanceClosing closing).1.consumers = [] ∧
            (w.advanceClosing closing).1.errands = [] :=
          (Bool.and_eq_true_iff.mp isOver).imp List.isEmpty_iff.mp List.isEmpty_iff.mp
        cases kind with
        | stop =>
          refine .endsStop (endsStop_of_isOver records duty isOver
            (.single (.untimed .deadline)) (joinMonitor_reassigns _ number).1
            (joinMonitor_reassigns _ number).2)
        | retire | remove | await =>
          exact .deeds ((Effects.deeds effects).trans
            (endErrand_deeds found' (keeps.to_free ended.1 ended.2 rfl) true))
      next => exact .deeds ((Effects.deeds effects).trans (setErrandPhase_deeds found' keeps
        fun other _ => .refl other _))
    next run =>
      split
      next => exact .deeds (setErrandPhase_deeds found (by cases kind <;> exact .refl w {})
        fun other _ => .refl other _)
      next => exact .deeds .refl
    next => exact .deeds (awaitState_deeds found rfl)
    next => exact .deeds .refl

end World

end QueueListener
