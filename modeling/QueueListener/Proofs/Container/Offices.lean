import QueueListener.Proofs.Container.Voices
/-!
# What the administration says of consumers

**Monitors, errands and calls say nothing of a consumer, and write nothing about it** but that it is
to stop, unless they end it by force. So a consumer is heard at its own turns, and when somebody loses
patience with it.

* `Event.isOfConsumer` — the events that tell of a consumer;
* `World.Presides` — what monitors, errands and calls do besides;
* `World.late` — the consumers that a task ends by force at its turn;
* `take_presides`, `follow_presides` — whole turns, and moves that are no turns.
-/

namespace QueueListener

/-- Whether an event tells of a consumer. -/
def Event.isOfConsumer : Event → Bool
  | .consumeOk .. => true
  | .idle .. => true
  | .consumerFailed .. => true
  | .consumerTerminated .. => true
  | _ => false

/-- What may be written about a consumer that is not at its turn: that it is to stop, and maybe that
it is started. -/
inductive Consumer.Succeeds (starts : Bool) : Option Consumer → Option Consumer → Prop
  | absent : Succeeds starts none none
  | kept (c : Consumer) (stopRequested : Bool) :
      Succeeds starts (some c) (some { c with stopRequested })
  | started (may : starts = true) (before : Option Consumer) {c : Consumer}
      (opening : c.phase = .opening) (tag : c.tag = none) (channel : c.channel = none)
      (quiet : c.lastIdleEvent = none) : Succeeds starts before (some c)

namespace Consumer.Succeeds

variable {starts : Bool} {before middle after : Option Consumer}

theorem refl (before : Option Consumer) : Succeeds starts before before := by
  cases before with
  | none => exact .absent
  | some c => exact .kept c c.stopRequested

theorem trans (first : Succeeds starts before middle) (second : Succeeds starts middle after) :
    Succeeds starts before after := by
  cases second with
  | absent => exact first
  | started may _ opening tag channel quiet => exact .started may before opening tag channel quiet
  | kept c stop =>
    cases first with
    | kept c₀ stop₀ => exact .kept c₀ stop
    | started may _ opening tag channel quiet => exact .started may before opening tag channel quiet

end Consumer.Succeeds

namespace World

variable {starts : Bool} {w w' w'' : World} {id run number : Nat}

/-- Nothing is said of a consumer, and nothing is written about one but that it is to stop, or maybe
that it is started. -/
structure Presides (starts : Bool) (w w' : World) : Prop where
  plan : w'.plan = w.plan
  broker : w.client.broker.Matures w'.client.broker
  told : w.plan.hasSink = true → ∃ news : List Event, w'.told = w.told ++ news ∧
    ∀ event ∈ news, event.isOfConsumer = false
  consumers : ∀ id, Consumer.Succeeds starts (w.consumers.get? id) (w'.consumers.get? id)

namespace Presides

theorem trans (first : Presides starts w w') (second : Presides starts w' w'') :
    Presides starts w w'' where
  plan := second.plan.trans first.plan
  broker := first.broker.trans second.broker
  told sink := by
    obtain ⟨news, told, only⟩ := first.told sink
    obtain ⟨more, told', only'⟩ := second.told (first.plan ▸ sink)
    refine ⟨news ++ more, by rw [told', told, List.append_assoc], fun event among => ?_⟩
    exact (List.mem_append.mp among).elim (only event) (only' event)
  consumers id := (first.consumers id).trans (second.consumers id)

/-- What comes last is looked at first. -/
theorem since (last : Presides starts w' w'') (first : Presides starts w w') :
    Presides starts w w'' :=
  first.trans last

/-- Nothing is said, and nothing is written about consumers. -/
theorem of_matures (broker : w.client.broker.Matures w'.client.broker) (plan : w'.plan = w.plan)
    (consumers : w'.consumers = w.consumers) (events : w'.chronicle.events = w.chronicle.events) :
    Presides starts w w' where
  plan := plan
  broker := broker
  told _ := ⟨[], by rw [told_of_events events, List.append_nil], fun _ => nofun⟩
  consumers id := consumers ▸ .refl _

theorem of_same (client : w'.client = w.client) (plan : w'.plan = w.plan)
    (consumers : w'.consumers = w.consumers) (events : w'.chronicle.events = w.chronicle.events) :
    Presides starts w w' := .of_matures (client ▸ .refl _) plan consumers events

theorem refl (w : World) : Presides starts w w := .of_same rfl rfl rfl rfl

end Presides

theorem publish_presides (w : World) {event : Event} (other : event.isOfConsumer = false) :
    Presides starts w (w.publish event) where
  plan := (publish_still w event).plan
  broker := by
    rw [publish_client]
    exact .refl _
  told sink := ⟨[event], publish_told sink event, fun _ among => List.mem_singleton.mp among ▸ other⟩
  consumers id := by
    rw [publish_consumers]
    exact .refl _

theorem foldl_presides {α : Type} {each : World → α → World}
    (presides : ∀ (w : World) (a : α), Presides starts w (each w a)) (items : List α) (w : World) :
    Presides starts w (items.foldl each w) := by
  induction items generalizing w with
  | nil => exact .refl w
  | cons item items ih => exact (presides w item).trans (ih (each w item))

theorem deliverNotices_presides (w : World) : Presides starts w w.deliverNotices := by
  have matures := deliverNotices_matures w
  obtain ⟨handoffs, tasks, same⟩ := w.deliverNotices_shape
  rw [same] at matures ⊢
  exact .of_matures matures rfl rfl rfl

/-- The broker carries out an operation for somebody else. -/
theorem atBroker_presides (w : World) (op : Broker.Op) :
    Presides starts w (w.atBroker (·.step op)).2 := by
  refine (deliverNotices_presides _).since (.of_matures ?_ rfl rfl rfl)
  exact w.client.broker.step_matures op

/-! ### Starting and stopping consumers -/

theorem requestStop_presides (w : World) (id : Nat) : Presides starts w (w.requestStop id) where
  plan := rfl
  broker := .refl _
  told _ := ⟨[], (List.append_nil _).symm, fun _ => nofun⟩
  consumers other := by
    show Consumer.Succeeds _ _ ((w.updateConsumer id _).consumers.get? other)
    rw [updateConsumer_get?]
    split
    next =>
      cases w.consumers.get? other with
      | none => exact .absent
      | some c => exact .kept c true
    next => exact .refl _

theorem spawn_presides (w : World) (consumer : Nat × String) :
    Presides true w (w.spawn consumer) where
  plan := rfl
  broker := .refl _
  told _ := ⟨[], (List.append_nil _).symm, fun _ => nofun⟩
  consumers other := by
    show Consumer.Succeeds _ _ ((w.consumers.set consumer.1 (w.newConsumer consumer.2)).get? other)
    rw [Table.get?_set]
    split
    next => exact .started rfl _ rfl rfl rfl rfl
    next => exact .refl _

theorem retire_presides (w : World) (id : Nat) : Presides starts w (w.retire id) :=
  (requestStop_presides w id).trans (.of_same rfl rfl rfl rfl)

theorem apply_presides (w : World) (changes : Changes) : Presides true w (w.apply changes) :=
  (foldl_presides spawn_presides changes.started w).trans
    (foldl_presides retire_presides changes.retired _)

theorem converge_presides (w : World) : Presides true w w.converge :=
  (apply_presides _ _).since (.of_same rfl rfl rfl rfl)

theorem beginClosing_presides (w : World) (consumers errands : List Nat) :
    Presides starts w (w.beginClosing consumers errands).2 :=
  foldl_presides requestStop_presides consumers w

theorem beginShutdown_presides {closing : Closing}
    (begins : w.beginShutdown = some (closing, w')) : Presides starts w w' := by
  unfold beginShutdown at begins
  split at begins
  next => cases begins
  next ids registry _ =>
    cases begins
    have begun : Presides starts w ({ w with
        registry
        retiring := []
        monitors := w.monitors.modify (w.monitors.size - 1) fun m =>
          { m with stopRequested := true } }.wake (.monitor (w.monitors.size - 1))) :=
      .of_same rfl rfl rfl rfl
    exact (begun.trans (beginClosing_presides _ ids w.retiring)).trans (.of_same rfl rfl rfl rfl)

theorem closeConnection_presides (w : World) : Presides starts w w.closeConnection := by
  unfold closeConnection
  split
  next => exact .refl w
  next connection _ =>
    have works : w.client.Works (fun _ _ => False) (w.client.closeConnection connection).2 :=
      w.client.closeConnection_works connection
    exact (deliverNotices_presides _).since (.of_matures works.matures rfl rfl rfl)

theorem finishShutdown_presides (w : World) (fatal : Option String) :
    Presides starts w (w.finishShutdown fatal) := by
  have stopped : ∀ w' : World, Presides starts w w' → Presides starts w
      (((({ w' with registry := w'.registry.finishStop fatal.isSome } : World).clearGauges
        (w'.registry.finishStop fatal.isSome).queues).wakeObservers.count (.stop fatal.isSome)).publish
          (.containerStopped fatal.isSome fatal)) := fun w' closed =>
    (publish_presides _ rfl).since (closed.trans (.of_same rfl rfl rfl rfl))
  unfold finishShutdown
  dsimp only
  split
  next => exact stopped _ (closeConnection_presides w)
  next => exact stopped w (.refl w)

/-! ### Monitors -/

theorem cancelTimer_presides (w : World) (task : Task) (slot : TimerSlot) :
    Presides starts w (w.cancelTimer task slot) := .of_same rfl rfl rfl rfl

theorem endMonitor_presides (w : World) (run : Nat) : Presides starts w (w.endMonitor run).2 := by
  have finished : Presides starts w (w.setMonitorPhase run .finished) := .of_same rfl rfl rfl rfl
  have untimed := (finished.trans (cancelTimer_presides _ (.monitor run) .deadline)).trans
    (cancelTimer_presides _ (.monitor run) .period)
  have woken : ∀ (w' : World) (tasks : List Task),
      Presides starts w' { w' with agenda := w'.agenda.wakeAll tasks } := fun _ _ =>
    .of_same rfl rfl rfl rfl
  exact untimed.trans (woken _ _)

theorem loopAgain_presides (w : World) (run : Nat) : Presides starts w (w.loopAgain run).2 := by
  unfold loopAgain
  split
  next => exact endMonitor_presides w run
  next => exact .of_same rfl rfl rfl rfl

theorem declare_presides (w : World) (queue : String) : Presides starts w (w.declare queue).2 := by
  unfold declare
  split
  next =>
    dsimp only
    split
    next => exact .of_same rfl rfl rfl rfl
    next => exact (atBroker_presides _ (.declare queue)).since (.of_same rfl rfl rfl rfl)
    next => exact .of_same rfl rfl rfl rfl
    next => exact .of_same rfl rfl rfl rfl
  next => exact .refl w

theorem redeclareQueue_presides (acc : Bool × World) (queue : String) :
    Presides starts acc.2 (redeclareQueue acc queue).2 := by
  have heard : ∀ supervisor : Supervisor, Presides starts acc.2 { (acc.2.declare queue).2 with
      registry := { (acc.2.declare queue).2.registry with supervisor } } := fun _ =>
    (declare_presides acc.2 queue).trans (.of_same rfl rfl rfl rfl)
  unfold redeclareQueue
  dsimp only
  split
  next =>
    split
    next => exact (heard _).trans (publish_presides _ rfl)
    next => exact heard _
  next => exact heard _

theorem redeclare_presides (looked : w.redeclare = .ok w') : Presides true w w' := by
  by_cases running : w.registry.state = .running
  · obtain ⟨due, supervisor, -, found, middle, walked, rfl⟩ := redeclare_walks running looked
    have walks : ∀ acc : Bool × World, Presides true acc.2 (due.foldl redeclareQueue acc).2 := by
      clear walked looked
      induction due with
      | nil => exact fun acc => .refl acc.2
      | cons queue due ih =>
        exact fun acc => (redeclareQueue_presides acc queue).trans (ih (redeclareQueue acc queue))
    have walk := walks (false, { w with registry := { w.registry with supervisor } })
    rw [walked] at walk
    have informed : Presides true w middle := walk.since (.of_same rfl rfl rfl rfl)
    split
    next => exact informed.trans (converge_presides middle)
    next => exact informed
  · rw [redeclare_of_not_running running] at looked
    cases looked
    exact .refl w

theorem showCounts_presides (w : World) : Presides starts w w.showCounts := .of_same rfl rfl rfl rfl

theorem lookAround_presides (looked : w.lookAround = .ok w') : Presides true w w' := by
  by_cases running : w.registry.state = .running
  · rw [lookAround_of_running running] at looked
    have applied := apply_presides { w with registry := (w.registry.tick w.sample w.instant).1 }
      (w.registry.tick w.sample w.instant).2
    have ticked : Presides true w w.ticked := by
      refine Presides.trans ?_ (applied.trans (showCounts_presides _))
      exact .of_same rfl rfl rfl rfl
    exact ticked.trans (redeclare_presides looked)
  · unfold lookAround at looked
    rw [if_neg running] at looked
    cases looked
    exact .refl w

theorem recover_presides (recovered : w.recover = .ok w') : Presides true w w' := by
  obtain ⟨middle, looked, rfl⟩ := recover_outcome recovered
  exact (redeclare_presides looked).trans (converge_presides middle)

theorem loopUnless_presides {result : Except TimeFault World}
    (presides : ∀ w', result = .ok w' → Presides starts w w') :
    Presides starts w (w.loopUnless run result).2 := by
  cases result with
  | error => exact endMonitor_presides w run
  | ok w' => exact (presides w' rfl).trans (loopAgain_presides w' run)

theorem pauseQueue_presides (w : World) (queue : String) :
    Presides starts w (w.pauseQueue queue) := by
  have told : Presides starts { w with registry := w.registry.dropConsumers queue }
      (({ w with registry := w.registry.dropConsumers queue } : World).publish
        (.queueMissing queue)) := publish_presides _ rfl
  exact (foldl_presides retire_presides _ _).since (told.since (.of_same rfl rfl rfl rfl))

theorem giveUp_presides (w : World) (run : Nat) (reason : String) :
    Presides starts w (w.giveUp run reason).2 := by
  unfold giveUp
  split
  next => exact loopAgain_presides w run
  next begins => exact (beginShutdown_presides begins).trans (.of_same rfl rfl rfl rfl)

theorem applyAction_presides (w : World) (run : Nat) (action : RecoveryAction) :
    Presides starts w (w.applyAction run action).2 := by
  cases action with
  | restart | scheduleRetry | awaitRound => exact loopAgain_presides w run
  | pause queue => exact (pauseQueue_presides w queue).trans (loopAgain_presides _ run)
  | fatal reason => exact giveUp_presides w run reason

theorem handleReport_presides (w : World) (run : Nat) (report : Report) :
    Presides starts w (w.handleReport run report).2 := by
  cases report with
  | consumeOk => exact (loopAgain_presides _ run).since (.of_same rfl rfl rfl rfl)
  | terminated => exact (loopAgain_presides _ run).since (.of_same rfl rfl rfl rfl)
  | failed id queue error =>
    unfold handleReport
    dsimp only
    split
    next => exact (loopAgain_presides _ run).since (.of_same rfl rfl rfl rfl)
    next => exact (endMonitor_presides _ run).since (.of_same rfl rfl rfl rfl)
    next => exact (applyAction_presides _ run _).since (.of_same rfl rfl rfl rfl)

theorem watch_presides (w : World) (run : Nat) (m : Monitor) (deadline : Option Instant)
    (armed : Bool) : Presides true w (w.watch run m deadline armed).2 := by
  unfold watch
  split
  next => exact endMonitor_presides w run
  next =>
    split
    next => exact (handleReport_presides _ run _).since (.of_same rfl rfl rfl rfl)
    next =>
      split
      next => exact loopUnless_presides fun _ => recover_presides
      next =>
        split
        next =>
          exact (loopUnless_presides fun _ => lookAround_presides).since (.of_same rfl rfl rfl rfl)
        next => split <;> exact .of_same rfl rfl rfl rfl

/-! ### Calls -/

theorem start_presides (w : World) : Presides true w w.start.2 := by
  unfold start
  split
  next => exact .refl w
  next => exact .refl w
  next registry _ =>
    have begun : Presides true w (({ w with
        registry
        monitors := w.monitors.push {}
        joinable := some w.monitors.size }.wake (.monitor w.monitors.size)).wakeObservers) :=
      .of_same rfl rfl rfl rfl
    exact (begun.trans (publish_presides _ rfl)).trans (converge_presides _)

theorem adopt_presides (w : World) (answer : Except Refusal Registry) :
    Presides true w (w.adopt answer).2 := by
  cases answer with
  | error => exact .refl w
  | ok => exact (converge_presides _).since (.of_same rfl rfl rfl rfl)

theorem letGo_presides (w : World) : Presides starts w w.letGo := by
  unfold letGo
  split
  next => exact (foldl_presides requestStop_presides _ _).since (.of_same rfl rfl rfl rfl)
  next => exact .refl w

theorem send_presides (w : World) (kind : ErrandKind) (recorded : Bool) :
    Presides starts w (w.send kind recorded).2 := .of_same rfl rfl rfl rfl

theorem endErrand_presides (w : World) (number : Nat) (errand : Errand) (answer : Bool) :
    Presides starts w (w.endErrand number errand answer).2 := by
  refine (letGo_presides _).since ?_
  dsimp only
  split <;> exact .of_same rfl rfl rfl rfl

theorem awaitClosing_presides (w : World) (number : Nat) (closing : Closing) :
    Presides starts w (w.awaitClosing number closing).2 := .of_same rfl rfl rfl rfl

theorem joinMonitor_presides (w : World) (number : Nat) :
    Presides starts w (w.joinMonitor number).2 := by
  unfold joinMonitor
  split <;> exact .of_same rfl rfl rfl rfl

theorem beginErrand_presides (w : World) (number : Nat) (errand : Errand) :
    Presides starts w (w.beginErrand number errand).2 := by
  unfold beginErrand
  split
  next id _ => exact (beginClosing_presides w [id] []).trans (awaitClosing_presides _ number _)
  next names _ =>
    have removed : Presides starts w (({ w with registry := (w.registry.remove names).1 } :
        World).clearGauges (w.registry.remove names).2.1) := .of_same rfl rfl rfl rfl
    exact (removed.trans (beginClosing_presides _ _ [])).trans (awaitClosing_presides _ number _)
  next =>
    split
    next begins => exact (beginShutdown_presides begins).trans (awaitClosing_presides _ number _)
    next => exact joinMonitor_presides w number
  next => exact .of_same rfl rfl rfl rfl

theorem afterClosing_presides (w : World) (number : Nat) (errand : Errand) :
    Presides starts w (w.afterClosing number errand).2 := by
  unfold afterClosing
  split
  next =>
    have stopped : Presides starts (w.cancelTimer (.errand number) .deadline) _ :=
      finishShutdown_presides _ none
    exact (stopped.trans (joinMonitor_presides _ number)).since (.of_same rfl rfl rfl rfl)
  next => exact endErrand_presides w number errand true

theorem awaitState_presides (w : World) (number : Nat) (errand : Errand) :
    Presides starts w (w.awaitState number errand).2 := by
  unfold awaitState
  split
  next =>
    split
    next => exact endErrand_presides w number errand true
    next =>
      split
      next => exact endErrand_presides w number errand false
      next => exact .refl w
  next =>
    split
    next => exact .refl w
    next => exact endErrand_presides w number errand true

/-! ### Turns -/

/-- Whom a task waits for that it has asked to stop. -/
def closing? (w : World) : Task → Option Closing
  | .monitor run =>
    match (w.monitors[run]?).map Monitor.phase with
    | some (MonitorPhase.closing _ closing) => some closing
    | _ => none
  | .errand number =>
    match (w.errands[number]?).map Errand.phase with
    | some (ErrandPhase.closing closing) => some closing
    | _ => none
  | _ => none

/-- Of those the ones that have not ended, once the deadline has come. -/
def overdue (w : World) (closing : Closing) : List Nat :=
  if w.reached closing.deadline then closing.consumers.filter fun id => !w.isFinished id else []

/-- The consumers that a task ends by force at its turn. -/
def late (w : World) (task : Task) : List Nat :=
  match w.closing? task with
  | some closing => w.overdue closing
  | none => []

theorem advanceClosing_forces (w : World) (closing : Closing) :
    (w.advanceClosing closing).2 = (w.overdue closing).foldl forceClose w := by
  unfold advanceClosing overdue
  dsimp only
  split <;> rfl

theorem monitorTurn_presides (w : World) (run : Nat) :
    Presides (w.closing? (.monitor run)).isNone ((w.late (.monitor run)).foldl forceClose w)
      (w.monitorTurn run).2 := by
  cases found : w.monitors[run]? with
  | none =>
    unfold monitorTurn late closing?
    dsimp only
    rw [found]
    exact .refl w
  | some m =>
    obtain ⟨phase, reports, nextTick, stopRequested⟩ := m
    unfold monitorTurn late closing?
    dsimp only
    rw [found]
    cases phase with
    | starting | looping => exact .of_same rfl rfl rfl rfl
    | waiting deadline armed => exact watch_presides w run _ deadline armed
    | finished => exact .refl w
    | closing reason closing =>
      dsimp only [Option.map_some]
      rw [← advanceClosing_forces]
      split
      next => exact (finishShutdown_presides _ _).trans (loopAgain_presides _ run)
      next => exact .of_same rfl rfl rfl rfl

theorem errandTurn_presides (w : World) (number : Nat) :
    Presides (w.closing? (.errand number)).isNone ((w.late (.errand number)).foldl forceClose w)
      (w.errandTurn number).2 := by
  cases found : w.errands[number]? with
  | none =>
    unfold errandTurn late closing?
    dsimp only
    rw [found]
    exact .refl w
  | some errand =>
    obtain ⟨kind, phase, recorded⟩ := errand
    unfold errandTurn late closing?
    dsimp only
    rw [found]
    cases phase with
    | begin => exact beginErrand_presides w number _
    | settling => exact awaitState_presides w number _
    | done => exact .refl w
    | joining run =>
      show Presides true w (if w.monitorEnded run = true then _ else _ : Turn).2
      split <;> exact .of_same rfl rfl rfl rfl
    | closing closing =>
      dsimp only [Option.map_some]
      rw [← advanceClosing_forces]
      split
      next => exact afterClosing_presides _ number _
      next => exact .of_same rfl rfl rfl rfl

theorem feedTurn_presides (w : World) (id : Nat) : Presides starts w (w.feedTurn id).2 := by
  unfold feedTurn
  split
  next => exact .refl w
  next => dsimp only; split <;> exact .of_same rfl rfl rfl rfl

theorem turn_presides (w : World) {task : Task} (office : ∀ id, task ≠ .consumer id) :
    Presides (w.closing? task).isNone ((w.late task).foldl forceClose w) (w.turn task).2 := by
  cases task with
  | consumer id => exact absurd rfl (office id)
  | feed id => exact feedTurn_presides w id
  | monitor run => exact monitorTurn_presides w run
  | errand number => exact errandTurn_presides w number

theorem late_agenda (w : World) (task : Task) (agenda : Agenda) :
    ({ w with agenda } : World).closing? task = w.closing? task ∧
      ({ w with agenda } : World).late task = w.late task := by
  cases task <;> exact ⟨rfl, rfl⟩

/-- **A task that is no consumer says nothing of one**, but for those that it ends by force. -/
theorem take_presides (w : World) {task : Task} (office : ∀ id, task ≠ .consumer id) :
    Presides (w.closing? task).isNone ((w.late task).foldl forceClose
      { w with agenda := w.agenda.give task }) (w.take task) := by
  have turned := turn_presides { w with agenda := w.agenda.give task } office
  obtain ⟨closing, late⟩ := late_agenda w task (w.agenda.give task)
  rw [closing, late] at turned
  unfold take
  split
  next w' same =>
    rw [same] at turned
    exact turned
  next w' same =>
    rw [same] at turned
    exact turned.trans (.of_same rfl rfl rfl rfl)

/-- **A move that is no turn says nothing of a consumer.** -/
theorem follow_presides (w : World) {move : Move} (call : ∀ task, move ≠ .turn task) :
    Presides true w (w.follow move) := by
  cases move with
  | turn task => exact absurd rfl (call task)
  | pass | attend | provide => exact .of_same rfl rfl rfl rfl
  | arm => exact .of_matures (.refl _) rfl rfl rfl
  | start => exact start_presides w
  | setBounds | addQueues => exact adopt_presides w _
  | remove | stop | await => exact send_presides w _ _
  | abandon => exact (letGo_presides _).since (.of_same rfl rfl rfl rfl)
  | administer op => exact atBroker_presides w op

end World

end QueueListener
