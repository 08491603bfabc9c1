import QueueListener.Proofs.Container.Happenings
import QueueListener.Proofs.Container.Stops
import QueueListener.Proofs.Registry.Roster
/-!
# The registry at any time

**Whoever moves a container, and in whichever order, its registry is in order.** Every move does to the
registry what one of the known things does to it, or nothing: a turn of a monitor looks around,
recovers, hears a report or ends a stop; a turn of an errand begins or ends something. So what all of
them keep holds at any time, and a start begins afresh whatever was before.

* `Undergoes`, `monitorTurn_undergoes`, `errandTurn_undergoes`, `follow_undergoes` — a move is made of
  the things that happen to a container;
* `undergo_kempt`, `Standing` — what all of them keep;
* `run_registry_consistent` — the registry is consistent in every run, and every start begins afresh.
-/

namespace QueueListener.World

variable {w w' w'' : World}

/-! ### Moves -/

/-- What becomes of a container by some of the things that happen to it. -/
def Undergoes (w w' : World) : Prop := ∃ acts, w.undergoAll acts = w'

namespace Undergoes

theorem refl (w : World) : w.Undergoes w := ⟨[], rfl⟩

theorem trans (first : w.Undergoes w') (second : w'.Undergoes w'') : w.Undergoes w'' := by
  obtain ⟨acts, rfl⟩ := first
  obtain ⟨more, rfl⟩ := second
  exact ⟨acts ++ more, List.foldl_append⟩

theorem act (w : World) (act : Upkeep) : w.Undergoes (w.undergo act) := ⟨[act], rfl⟩

/-- The registry is left alone. -/
theorem of_still (still : w.Still w') : w.Undergoes w' :=
  ⟨[.meanwhile w'], undergo_meanwhile still⟩

/-- Everything but the registry may become as it likes. -/
theorem of_same (registry : w'.registry = w.registry) (plan : w'.plan = w.plan) :
    w.Undergoes w' := by
  refine ⟨[.meanwhile w'], ?_⟩
  show ({ w' with registry := w.registry, plan := w.plan } : World) = w'
  rw [← registry, ← plan]

end Undergoes

theorem letGo_still (w : World) : w.Still w.letGo := by
  unfold letGo
  split
  next =>
    exact ((updateMonitor_still w _ _).trans (wake_still _ _)).trans
      (foldl_still requestStop_still _ _)
  next => exact .refl w

theorem endErrand_still (w : World) (number : Nat) (errand : Errand) (answer : Bool) :
    w.Still (w.endErrand number errand answer).2 := by
  unfold endErrand
  dsimp only
  split <;> exact (letGo_still _).since ⟨rfl, rfl, rfl⟩

theorem joinMonitor_still (w : World) (number : Nat) : w.Still (w.joinMonitor number).2 := by
  unfold joinMonitor
  split <;> exact ⟨rfl, rfl, rfl⟩

theorem awaitState_still (w : World) (number : Nat) (errand : Errand) :
    w.Still (w.awaitState number errand).2 := by
  unfold awaitState
  split
  next =>
    split
    next => exact endErrand_still w number errand true
    next =>
      split
      next => exact endErrand_still w number errand false
      next => exact .refl w
  next =>
    split
    next => exact .refl w
    next => exact endErrand_still w number errand true

/-- Late consumers are ended by force, which is no business of the registry. -/
theorem advanceClosing_still (records : w.Records) (closing : Closing) :
    w.Still (w.advanceClosing closing).2 := by
  have effects : Effects (.errand 0) w (w.advanceClosing closing).2 :=
    advanceClosing_effects records closing
  exact effects.quiet.toStill

/-- A stop that is over has its end. -/
theorem finishShutdown_undergoes (stopping : w.registry.state = .stopping)
    (fatal : Option String) : w.Undergoes (w.finishShutdown fatal) := by
  have ends : w.undergo (.stopped fatal) = w.finishShutdown fatal := if_pos stopping
  exact ends ▸ .act w (.stopped fatal)

/-- **A turn of a monitor that waits.** -/
theorem watch_undergoes (w : World) (run : Nat) (m : Monitor) (deadline : Option Instant)
    (armed : Bool) : w.Undergoes (w.watch run m deadline armed).2 := by
  unfold watch
  split
  next => exact .of_still (endMonitor_still w run)
  next =>
    split
    next report rest _ =>
      exact (Undergoes.of_still (updateMonitor_still w run _)).trans (.act _ (.report run report))
    next =>
      split
      next => exact .act w (.recover run)
      next =>
        split
        next =>
          have scheduled : w.Undergoes (w.schedule run (m.nextTick +
              w.plan.settings.monitorInterval)) := .of_same rfl rfl
          exact scheduled.trans (.act _ (.lookAround run))
        next =>
          split
          next => exact .of_same rfl rfl
          next => exact .refl w

/-- **A turn of a monitor.** -/
theorem monitorTurn_undergoes (records : w.Records) (custody : w.Custody []) (run : Nat) :
    w.Undergoes (w.monitorTurn run).2 := by
  unfold monitorTurn
  split
  next => exact .refl w
  next m found =>
    split
    next => exact .of_same rfl rfl
    next => exact .of_same rfl rfl
    next => exact watch_undergoes w run m _ _
    next reason closing closes =>
      have advanced := advanceClosing_still records closing
      dsimp only
      split
      next =>
        have stopping : w.registry.state = .stopping := by
          refine custody.stopping (.monitor run) ?_
          rw [duty_of_phase found, Monitor.duty, closes]
          exact Option.some_ne_none _
        exact ((Undergoes.of_still advanced).trans
          (finishShutdown_undergoes (advanced.registry ▸ stopping) (some reason))).trans
          (.of_still (loopAgain_still _ run))
      next => exact .of_still (advanced.trans (setMonitorPhase_still _ run _))
    next => exact .refl w

/-- The beginning of an errand. -/
theorem beginErrand_undergoes (w : World) (number : Nat) (errand : Errand) :
    w.Undergoes (w.beginErrand number errand).2 := by
  obtain ⟨kind, phase, recorded⟩ := errand
  cases kind with
  | retire id =>
    have asked := beginClosing_still w [id] []
    exact .of_same asked.registry asked.plan
  | remove names => exact .act w (.removeQueues number names)
  | stop => exact .act w (.stop number)
  | await target deadline => exact .of_same rfl rfl

/-- **A turn of an errand.** -/
theorem errandTurn_undergoes (records : w.Records) (custody : w.Custody []) (number : Nat) :
    w.Undergoes (w.errandTurn number).2 := by
  unfold errandTurn
  split
  next => exact .refl w
  next errand found =>
    split
    next => exact beginErrand_undergoes w number errand
    next closing closes =>
      have advanced := advanceClosing_still records closing
      dsimp only
      split
      next =>
        obtain ⟨kind, phase, recorded⟩ := errand
        cases kind with
        | stop =>
          have stopping : w.registry.state = .stopping := by
            refine custody.stopping (.errand number) ?_
            rw [duty_of_errand found]
            dsimp only at closes
            subst closes
            exact Option.some_ne_none _
          have calmed := advanced.trans (cancelTimer_still _ (.errand number) .deadline)
          exact ((Undergoes.of_still calmed).trans
            (finishShutdown_undergoes (calmed.registry ▸ stopping) none)).trans
            (.of_still (joinMonitor_still _ number))
        | retire | remove | await =>
          exact .of_still (advanced.trans (endErrand_still _ number _ true))
      next => exact .of_same advanced.registry advanced.plan
    next =>
      split
      next => exact .of_same rfl rfl
      next => exact .refl w
    next => exact .of_still (awaitState_still w number errand)
    next => exact .refl w

/-- **A turn of any task.** -/
theorem take_undergoes (sound : w.Sound) (task : Task) : w.Undergoes (w.take task) := by
  have apart := give_apart w task
  have records := sound.records.of_apart apart
  have unopened := sound.unopened.of_consumers apart.consumers
  have custody := sound.custody.of_apart apart
  have given : w.Undergoes { w with agenda := w.agenda.give task } := .of_same rfl rfl
  have turned : World.Undergoes { w with agenda := w.agenda.give task }
      (({ w with agenda := w.agenda.give task } : World).turn task).2 := by
    cases task with
    | consumer id => exact .of_still (consumerTurn_quiet unopened id).toStill
    | feed id => exact .of_still (feedTurn_passes _ id).quiet.toStill
    | monitor run => exact monitorTurn_undergoes records custody run
    | errand number => exact errandTurn_undergoes records custody number
  unfold take
  split
  next w' goesOn =>
    rw [goesOn] at turned
    exact given.trans turned
  next w' pauses =>
    rw [pauses] at turned
    exact (given.trans turned).trans (.of_same rfl rfl)

/-- **Every move is made of the things that happen to a container.** -/
theorem follow_undergoes (sound : w.Sound) (move : Move) : w.Undergoes (w.follow move) := by
  cases move with
  | turn task => exact take_undergoes sound task
  | start => exact .act w .start
  | setBounds bounds => exact .act w (.setBounds bounds)
  | addQueues names => exact .act w (.addQueues names)
  | pass | attend | remove | stop | await | arm | provide => exact .of_same rfl rfl
  | abandon =>
    have asked := letGo_still { w with abandoned := true }
    exact .of_same asked.registry asked.plan
  | administer op =>
    have told := deliverNotices_still { w with client := { w.client with
      broker := (w.client.broker.step op).2 } }
    exact .of_same told.registry told.plan

/-! ### What all of this keeps -/

theorem converge_kempt (kempt : w.registry.Kempt) : w.converge.registry.Kempt := by
  rw [converge_registry]
  exact kempt.converge w.instant

theorem adopt_kempt (kempt : w.registry.Kempt) {answer : Except Refusal Registry}
    (adopts : ∀ registry, answer = .ok registry → registry.Kempt) :
    (w.adopt answer).2.registry.Kempt := by
  cases answer with
  | error refusal => exact kempt
  | ok registry => exact converge_kempt (w := { w with registry }) (adopts registry rfl)

theorem start_kempt (kempt : w.registry.Kempt) : w.start.2.registry.Kempt := by
  cases started : w.registry.start w.plan.hasManager with
  | error refusal =>
    unfold start
    rw [started]
    exact kempt
  | ok answer =>
    cases answer with
    | none =>
      unfold start
      rw [started]
      exact kempt
    | some registry =>
      rw [start_registry started]
      exact (kempt.start started).converge _

theorem beginShutdown_kempt (kempt : w.registry.Kempt) {answer : Closing × World}
    (begun : w.beginShutdown = some answer) : answer.2.registry.Kempt := by
  obtain ⟨closing, w'⟩ := answer
  obtain ⟨ids, registry, stops, -, -, after⟩ := beginShutdown_begins (.errand 0) begun
  have same : w'.registry = registry := after.quiet.registry
  exact same ▸ kempt.beginStop stops

theorem redeclare_kempt (kempt : w.registry.Kempt) (looked : w.redeclare = .ok w') :
    w'.registry.Kempt := by
  by_cases running : w.registry.state = .running
  · obtain ⟨found, w₁, redeclares, rfl⟩ := redeclare_outcome running looked
    have kempt₁ : w₁.registry.Kempt := redeclares.registry ▸ kempt.informed _
    cases found with
    | false => exact kempt₁
    | true => exact converge_kempt kempt₁
  · rw [redeclare_of_not_running running] at looked
    cases looked
    exact kempt

theorem lookAround_kempt (kempt : w.registry.Kempt) (looked : w.lookAround = .ok w') :
    w'.registry.Kempt := by
  by_cases running : w.registry.state = .running
  · rw [lookAround_of_running running] at looked
    refine redeclare_kempt ?_ looked
    rw [ticked_registry]
    exact kempt.tick w.sample w.instant
  · unfold lookAround at looked
    rw [if_neg running] at looked
    cases looked
    exact kempt

theorem recover_kempt (kempt : w.registry.Kempt) (recovered : w.recover = .ok w') :
    w'.registry.Kempt := by
  obtain ⟨w₁, looked, rfl⟩ := recover_outcome recovered
  exact converge_kempt (redeclare_kempt kempt looked)

theorem loopAgain_kempt (kempt : w.registry.Kempt) (run : Nat) :
    (w.loopAgain run).2.registry.Kempt := by
  rw [(loopAgain_still w run).registry]
  exact kempt

theorem endMonitor_kempt (kempt : w.registry.Kempt) (run : Nat) :
    (w.endMonitor run).2.registry.Kempt := by
  rw [(endMonitor_still w run).registry]
  exact kempt

theorem loopUnless_kempt (kempt : w.registry.Kempt) {result : Except TimeFault World}
    (after : ∀ w', result = .ok w' → w'.registry.Kempt) (run : Nat) :
    (w.loopUnless run result).2.registry.Kempt := by
  cases result with
  | error fault => exact endMonitor_kempt kempt run
  | ok w' => exact loopAgain_kempt (after w' rfl) run

theorem applyAction_kempt (kempt : w.registry.Kempt) (run : Nat) (action : RecoveryAction) :
    (w.applyAction run action).2.registry.Kempt := by
  cases action with
  | restart | scheduleRetry | awaitRound => exact loopAgain_kempt kempt run
  | pause queue =>
    refine loopAgain_kempt ?_ run
    rw [pauseQueue_registry]
    exact kempt.dropConsumers queue
  | fatal reason =>
    unfold applyAction giveUp
    dsimp only
    split
    next => exact loopAgain_kempt kempt run
    next begun => exact beginShutdown_kempt kempt begun

theorem handleReport_kempt (kempt : w.registry.Kempt) (run : Nat) (report : Report) :
    (w.handleReport run report).2.registry.Kempt := by
  cases report with
  | consumeOk queue =>
    refine loopAgain_kempt ?_ run
    exact kempt.informed _
  | terminated id queue => exact loopAgain_kempt (kempt.removeConsumer queue id) run
  | failed id queue error =>
    have judged := kempt.consumerFailed queue id error w.instant
    unfold handleReport
    dsimp only
    split
    next => exact loopAgain_kempt judged run
    next => exact endMonitor_kempt judged run
    next action _ =>
      exact applyAction_kempt (w := { w with
        registry := (w.registry.consumerFailed queue id error w.instant).2 }) judged run action

/-- **Whatever happens to a container, nobody is registered twice and no queue is nameless.** -/
theorem undergo_kempt (kempt : w.registry.Kempt) (act : Upkeep) :
    (w.undergo act).registry.Kempt := by
  cases act with
  | start => exact start_kempt kempt
  | setBounds bounds => exact adopt_kempt kempt fun registry => kempt.setBounds
  | addQueues names => exact adopt_kempt kempt fun registry => kempt.add
  | removeQueues number names =>
    have still := beginClosing_still
      ({ w with registry := (w.registry.remove names).1 }.clearGauges
        (w.registry.remove names).2.1) (w.registry.remove names).2.2 []
    have removed : (w.undergo (.removeQueues number names)).registry =
        (w.registry.remove names).1 := still.registry
    exact removed ▸ kempt.remove names
  | lookAround run => exact loopUnless_kempt kempt (fun w' => lookAround_kempt kempt) run
  | recover run => exact loopUnless_kempt kempt (fun w' => recover_kempt kempt) run
  | report run report => exact handleReport_kempt kempt run report
  | stop number =>
    unfold undergo beginErrand
    dsimp only
    split
    next begun => exact beginShutdown_kempt kempt begun
    next =>
      rw [(joinMonitor_still w number).registry]
      exact kempt
  | stopped fatal =>
    unfold undergo
    dsimp only
    split
    next =>
      rw [finishShutdown_registry]
      exact kempt.finishStop _
    next => exact kempt
  | meanwhile other => exact kempt

/-! ### Any time -/

/-- What holds of a registry whatever moves its container. -/
structure Standing (w : World) : Prop where
  sound : w.registry.Sound
  kempt : w.registry.Kempt

theorem Standing.undergoAll (standing : w.Standing) (acts : List Upkeep) :
    (w.undergoAll acts).Standing := by
  induction acts generalizing w with
  | nil => exact standing
  | cons act acts ih =>
    exact ih ⟨undergo_sound standing.sound act, undergo_kempt standing.kempt act⟩

theorem new_standing (plan : Plan) (client : Client) : (World.new plan client).Standing where
  sound := ⟨nofun, fun _ _ => rfl⟩
  kempt := ⟨⟨List.nodup_nil, Multiset.nodup_zero, fun _ none => absurd none (Multiset.notMem_zero _)⟩,
    nofun⟩

theorem Standing.follow (standing : w.Standing) (sound : w.Sound) (move : Move) :
    (w.follow move).Standing := by
  obtain ⟨acts, moved⟩ := follow_undergoes sound move
  exact moved ▸ standing.undergoAll acts

/-- **The registry is in order after any moves.** -/
theorem Standing.followAll (standing : w.Standing) (sound : w.Sound) (moves : List Move) :
    (w.followAll moves).Standing := by
  induction moves generalizing w with
  | nil => exact standing
  | cons move moves ih => exact ih (standing.follow sound move) (sound.follow move)

/-- **The registry is in order at any time, and a start begins afresh**, whatever has happened before:
whoever has moved the container, and in whichever order. -/
theorem run_registry_consistent (plan : Plan) (client : Client) (moves : List Move) :
    ((World.new plan client).followAll moves).registry.Consistent ∧
      (((World.new plan client).followAll moves).registry.state ≠ .running →
        ((World.new plan client).followAll moves).start.1 = .ok () →
        ((World.new plan client).followAll (moves ++ [.start])).registry.Afresh) := by
  have standing := (new_standing plan client).followAll (new_sound plan client) moves
  rw [followAll_append]
  generalize (World.new plan client).followAll moves = w at standing
  refine ⟨standing.sound.consistent standing.kempt, fun halted answered => ?_⟩
  show w.start.2.registry.Afresh
  cases started : w.registry.start w.plan.hasManager with
  | error refusal =>
    unfold start at answered
    rw [started] at answered
    cases answered
  | ok answer =>
    cases answer with
    | none => exact absurd (Registry.running_of_start_none started) halted
    | some registry =>
      rw [start_registry started]
      exact Registry.start_afresh standing.sound started w.instant

/-- The container is stopped, and the stop has its end. -/
def wholeStop : List Move := plainStop ++ [.turn (.errand 0)]

/-- A container that was stopped starts again. -/
theorem run_registry_consistent_restart :
    ((World.new oneQueue {}).followAll wholeStop).registry.state = .stopped ∧
      ((World.new oneQueue {}).followAll (wholeStop ++ [.start])).registry.Afresh := by
  have stopped : ((World.new oneQueue {}).followAll wholeStop).registry.state = .stopped := by
    decide +kernel
  have halted : ((World.new oneQueue {}).followAll wholeStop).registry.state ≠ .running :=
    fun running => by cases stopped.symm.trans running
  have answered : ((World.new oneQueue {}).followAll wholeStop).start.1 = .ok () := by
    decide +kernel
  exact ⟨stopped, (run_registry_consistent oneQueue {} wholeStop).2 halted answered⟩

end QueueListener.World
