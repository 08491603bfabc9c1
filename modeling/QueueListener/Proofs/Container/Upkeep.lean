import QueueListener.Proofs.Container.Stillness
import QueueListener.Proofs.Registry.Soundness
/-!
# What happens to a container

**The registry of a container is sound at any time, whatever happens and in whichever order.** It is
so at the beginning, and everything that can happen keeps it so: a call or a report leaves it in
order, and where that may put a queue beyond the upper bound a convergence follows in the same step.

* `World.Upkeep`, `World.undergo`, `World.undergoAll` — everything that can happen to a container;
* `World.redeclare_outcome` — what looking for missing queues does to the registry;
* `World.undergo_sound`, `World.run_sound` — the registry is sound at any time.
-/

namespace QueueListener.World

/-- What can happen to a container: the calls, the looks of its monitor, the reports of its
consumers, the two ends of a stop, and anything that leaves the registry alone. -/
inductive Upkeep
  | start
  /-- New bounds; `Bounds.exactly` makes the two of them equal. -/
  | setBounds (bounds : Bounds)
  | addQueues (names : List String)
  | removeQueues (number : Nat) (names : List String)
  /-- The monitor of a run looks at all queues. -/
  | lookAround (run : Nat)
  /-- A deadline of the recovery has come. -/
  | recover (run : Nat)
  | report (run : Nat) (report : Report)
  | stop (number : Nat)
  /-- A stop has come to its end, with the reason when it was not asked for. -/
  | stopped (fatal : Option String)
  /-- Everything else has become as it is in that world: the clock, the broker, the consumers. -/
  | meanwhile (other : World)

/-- The world after something has happened. -/
def undergo (w : World) : Upkeep → World
  | .start => w.start.2
  | .setBounds bounds => (w.setBounds bounds).2
  | .addQueues names => (w.addQueues names).2
  | .removeQueues number names => (w.beginErrand number { kind := .remove names }).2
  | .lookAround run => (w.loopUnless run w.lookAround).2
  | .recover run => (w.loopUnless run w.recover).2
  | .report run report => (w.handleReport run report).2
  | .stop number => (w.beginErrand number { kind := .stop }).2
  | .stopped fatal => if w.registry.state = .stopping then w.finishShutdown fatal else w
  | .meanwhile other => { other with registry := w.registry, plan := w.plan }

/-- One thing after the other. -/
def undergoAll (w : World) (acts : List Upkeep) : World := acts.foldl undergo w

variable {w w' w'' : World}

/-- What leaves the registry alone happens in the meantime. -/
theorem undergo_meanwhile (still : w.Still w') : w.undergo (.meanwhile w') = w' := by
  unfold undergo
  dsimp only
  rw [← still.registry, ← still.plan]

/-! ### Convergence -/

/-- The container converges as its registry does. -/
theorem converge_registry (w : World) :
    w.converge.registry = (w.registry.converge w.instant).1 :=
  (apply_still _ _).registry

theorem converge_now (w : World) : w.converge.now = w.now := (apply_still _ _).now

/-! ### Looking for missing queues -/

/-- What looking for queues has done to the registry: there is news for the supervisor, and unless
a queue was found every queue is in the state in which it was. -/
structure Redeclares (w : World) (acc : Bool × World) : Prop where
  registry : acc.2.registry = { w.registry with supervisor := acc.2.registry.supervisor }
  eases : w.registry.supervisor.Eases acc.2.registry.supervisor
  round : acc.2.registry.supervisor.round = w.registry.supervisor.round
  unfound : acc.1 = false → ∀ queue,
    acc.2.registry.supervisor.state? queue = w.registry.supervisor.state? queue
  now : acc.2.now = w.now

namespace Redeclares

variable {found heard : Bool} {s : Supervisor}

theorem still (before : Redeclares w (found, w')) (still : w'.Still w'') :
    Redeclares w (found, w'') where
  registry := by
    rw [still.registry]
    exact before.registry
  eases := still.registry ▸ before.eases
  round := still.registry ▸ before.round
  unfound := still.registry ▸ before.unfound
  now := still.now.trans before.now

/-- There is news for the supervisor. -/
theorem news (before : Redeclares w (found, w')) (eases : w'.registry.supervisor.Eases s)
    (round : s.round = w'.registry.supervisor.round)
    (unheard : heard = false → found = false ∧ s = w'.registry.supervisor) :
    Redeclares w (heard, { w' with registry := { w'.registry with supervisor := s } }) where
  registry := by
    dsimp only
    rw [before.registry]
  eases := before.eases.trans eases
  round := round.trans before.round
  unfound silent := by
    obtain ⟨unfound, same⟩ := unheard silent
    rw [same]
    exact before.unfound unfound
  now := before.now

/-- One queue is looked for. -/
theorem step {acc : Bool × World} (before : Redeclares w acc) (queue : String) :
    Redeclares w (redeclareQueue acc queue) := by
  obtain ⟨flag, w'⟩ := acc
  unfold redeclareQueue
  have looked := before.still (declare_still w' queue)
  generalize w'.declare queue = answer at looked
  obtain ⟨found, w''⟩ := answer
  have eases := w''.registry.supervisor.declarationResult_eases queue found
  have round := (w''.registry.supervisor.declarationResult_keeps queue found).2
  dsimp only at looked ⊢
  generalize w''.registry.supervisor.declarationResult queue found = result at eases round
  obtain ⟨resumed, s⟩ := result
  dsimp only at eases round ⊢
  cases resumed with
  | true =>
    have heard : Redeclares w (true, { w'' with registry := { w''.registry with supervisor := s } }) :=
      looked.news eases.1 round nofun
    rw [if_pos rfl]
    split
    next => exact heard.still (publish_still _ _)
    next => exact heard
  | false =>
    rw [if_neg Bool.false_ne_true]
    exact looked.news eases.1 round fun silent => ⟨silent, eases.2 rfl⟩

/-- One queue after the other is looked for. -/
theorem foldl {acc : Bool × World} (before : Redeclares w acc) (due : List String) :
    Redeclares w (due.foldl redeclareQueue acc) := by
  induction due generalizing acc with
  | nil => exact before
  | cons queue due ih => exact ih (before.step queue)

/-- The queues that are due are taken from the supervisor. -/
theorem init {due : List String}
    (taken : w.registry.supervisor.takeDue w.instant = .ok (due, s)) :
    Redeclares w (false, { w with registry := { w.registry with supervisor := s } }) := by
  obtain ⟨round, states⟩ := Supervisor.takeDue_calm taken
  exact {
    registry := rfl
    eases := fun queue => .inl (states queue)
    round
    unfound := fun _ => states
    now := rfl }

end Redeclares

/-- Looking for missing queues is looking for one after the other, with a convergence at the end if
one was found. -/
theorem redeclare_walks (running : w.registry.state = .running)
    (looked : w.redeclare = .ok w') : ∃ due s,
      w.registry.supervisor.takeDue w.instant = .ok (due, s) ∧
      ∃ found w₁, due.foldl redeclareQueue
          (false, { w with registry := { w.registry with supervisor := s } }) = (found, w₁) ∧
        w' = if found then w₁.converge else w₁ := by
  unfold redeclare at looked
  rw [if_pos running] at looked
  cases taken : w.registry.supervisor.takeDue w.instant with
  | error fault =>
    rw [taken] at looked
    cases looked
  | ok answer =>
    rw [taken] at looked
    exact ⟨answer.1, answer.2, rfl, _, _, rfl, (Except.ok.inj looked).symm⟩

/-- **What looking for missing queues does**: there is news for the supervisor, and when a queue was
found a convergence follows. -/
theorem redeclare_outcome (running : w.registry.state = .running)
    (looked : w.redeclare = .ok w') : ∃ found w₁, Redeclares w (found, w₁) ∧
      w' = if found then w₁.converge else w₁ := by
  obtain ⟨due, s, taken, found, w₁, walked, rfl⟩ := redeclare_walks running looked
  exact ⟨found, w₁, walked ▸ (Redeclares.init taken).foldl due, rfl⟩

theorem Redeclares.state {acc : Bool × World} (redeclares : Redeclares w acc) :
    acc.2.registry.state = w.registry.state := by
  rw [redeclares.registry]

theorem Redeclares.staffed {acc : Bool × World} (redeclares : Redeclares w acc)
    (staffed : w.registry.Staffed) : acc.2.registry.Staffed := by
  rw [redeclares.registry]
  exact staffed.eased redeclares.eases

/-! ### Calls -/

/-- A call that changes the registry is followed by a convergence. -/
theorem adopt_registry (w : World) (registry : Registry) :
    (w.adopt (.ok registry)).2.registry = (registry.converge w.instant).1 :=
  converge_registry { w with registry }

theorem adopt_sound (sound : w.registry.Sound) {answer : Except Refusal Registry}
    (adopts : ∀ registry, answer = .ok registry → w.registry.Adopts registry) :
    (w.adopt answer).2.registry.Sound := by
  cases answer with
  | error refusal => exact sound
  | ok registry =>
    rw [adopt_registry]
    exact (adopts registry rfl).converge_sound sound w.instant

theorem start_registry {registry : Registry}
    (started : w.registry.start w.plan.hasManager = .ok (some registry)) :
    w.start.2.registry = (registry.converge w.instant).1 := by
  unfold start
  rw [started]
  dsimp only
  rw [converge_registry]
  have still := publish_still (({ w with
    registry
    monitors := w.monitors.push {}
    joinable := some w.monitors.size }.wake (.monitor w.monitors.size)).wakeObservers)
    .containerStarted
  rw [still.registry, still.instant]
  rfl

theorem start_sound (sound : w.registry.Sound) : w.start.2.registry.Sound := by
  cases started : w.registry.start w.plan.hasManager with
  | error refusal =>
    unfold start
    rw [started]
    exact sound
  | ok answer =>
    cases answer with
    | none =>
      unfold start
      rw [started]
      exact sound
    | some registry =>
      obtain ⟨running, orderly, -⟩ := Registry.start_orderly sound started
      rw [start_registry started]
      exact Registry.converge_sound (fun _ => orderly) (fun stopped => absurd running stopped) _

theorem removeQueues_sound (sound : w.registry.Sound) (number : Nat) (names : List String) :
    (w.undergo (.removeQueues number names)).registry.Sound := by
  have still := beginClosing_still
    ({ w with registry := (w.registry.remove names).1 }.clearGauges
      (w.registry.remove names).2.1) (w.registry.remove names).2.2 []
  have removed : (w.undergo (.removeQueues number names)).registry = (w.registry.remove names).1 :=
    still.registry
  rw [removed]
  exact (sound.remove names).2

theorem beginShutdown_sound {answer : Closing × World} (begun : w.beginShutdown = some answer) :
    answer.2.registry.Sound := by
  unfold beginShutdown at begun
  split at begun
  next => cases begun
  next ids registry begun' =>
    cases begun
    have same := (foldl_still requestStop_still ids (({ w with
      registry
      retiring := []
      monitors := w.monitors.modify (w.monitors.size - 1) fun m =>
        { m with stopRequested := true } }).wake (.monitor (w.monitors.size - 1)))).registry
    exact same ▸ Registry.beginStop_sound begun'

theorem stop_sound (sound : w.registry.Sound) (number : Nat) :
    (w.undergo (.stop number)).registry.Sound := by
  unfold undergo beginErrand
  dsimp only
  split
  next closing w' begun => exact beginShutdown_sound begun
  next =>
    unfold joinMonitor
    split <;> exact sound

theorem finishShutdown_registry (w : World) (fatal : Option String) :
    (w.finishShutdown fatal).registry = w.registry.finishStop fatal.isSome := by
  have closed : ∀ w' : World, w.Still w' →
      ((({ w' with registry := w'.registry.finishStop fatal.isSome }.clearGauges
        (w'.registry.finishStop fatal.isSome).queues).wakeObservers.count
          (.stop fatal.isSome)).publish (.containerStopped fatal.isSome fatal)).registry =
        w.registry.finishStop fatal.isSome := by
    intro w' still
    rw [(publish_still _ _).registry, ← still.registry]
    rfl
  unfold finishShutdown
  dsimp only
  split
  next => exact closed _ (closeConnection_still w)
  next => exact closed _ (.refl w)

/-! ### The monitor -/

theorem redeclare_sound (running : w.registry.state = .running) (staffed : w.registry.Staffed)
    (looked : w.redeclare = .ok w') : w'.registry.state = .running ∧ w'.registry.Staffed := by
  obtain ⟨found, w₁, redeclares, rfl⟩ := redeclare_outcome running looked
  have running₁ := redeclares.state.trans running
  have staffed₁ := redeclares.staffed staffed
  cases found with
  | false => exact ⟨running₁, staffed₁⟩
  | true =>
    rw [if_pos rfl, converge_registry]
    have steady := Registry.converge_steady running₁
      (Bounds.range_of_faultless staffed₁.bounds).2 staffed₁.distinct w₁.instant
    exact ⟨steady.state.trans running₁, Registry.converge_staffed running₁ staffed₁.toOrderly _⟩

theorem loopAgain_sound (sound : w.registry.Sound) (run : Nat) :
    (w.loopAgain run).2.registry.Sound := by
  rw [(loopAgain_still w run).registry]
  exact sound

theorem endMonitor_sound (sound : w.registry.Sound) (run : Nat) :
    (w.endMonitor run).2.registry.Sound := by
  rw [(endMonitor_still w run).registry]
  exact sound

theorem loopUnless_registry (w : World) (run : Nat) {result : Except TimeFault World}
    (done : result = .ok w') : (w.loopUnless run result).2.registry = w'.registry := by
  rw [done]
  exact (loopAgain_still w' run).registry

theorem loopUnless_sound (sound : w.registry.Sound) {result : Except TimeFault World}
    (after : ∀ w', result = .ok w' → w'.registry.Sound) (run : Nat) :
    (w.loopUnless run result).2.registry.Sound := by
  cases result with
  | error fault => exact endMonitor_sound sound run
  | ok w' => exact loopAgain_sound (after w' rfl) run

/-- A recovery looks for missing queues and converges. -/
theorem recover_outcome (recovered : w.recover = .ok w') :
    ∃ w₁, w.redeclare = .ok w₁ ∧ w' = w₁.converge := by
  unfold recover at recovered
  cases looked : w.redeclare with
  | error fault =>
    rw [looked] at recovered
    cases recovered
  | ok w₁ =>
    rw [looked] at recovered
    exact ⟨w₁, rfl, (Except.ok.inj recovered).symm⟩

theorem redeclare_of_not_running (stopped : w.registry.state ≠ .running) : w.redeclare = .ok w :=
  if_neg stopped

theorem recover_sound (sound : w.registry.Sound) (recovered : w.recover = .ok w') :
    w'.registry.Sound := by
  obtain ⟨w₁, looked, rfl⟩ := recover_outcome recovered
  rw [converge_registry]
  by_cases running : w.registry.state = .running
  · obtain ⟨running₁, staffed₁⟩ := redeclare_sound running (sound.running running) looked
    exact Registry.converge_sound (fun _ => staffed₁.toOrderly)
      (fun stopped => absurd running₁ stopped) _
  · rw [redeclare_of_not_running running] at looked
    cases looked
    exact Registry.converge_sound (fun runs => absurd runs running) sound.idle _

/-- The world of a tick before it looks for missing queues. -/
def ticked (w : World) : World :=
  ({ w with registry := (w.registry.tick w.sample w.instant).1 }.apply
    (w.registry.tick w.sample w.instant).2).showCounts

theorem ticked_registry (w : World) :
    w.ticked.registry = (w.registry.tick w.sample w.instant).1 :=
  (apply_still _ _).registry

theorem lookAround_of_running (running : w.registry.state = .running) :
    w.lookAround = w.ticked.redeclare := if_pos running

theorem ticked_sound (running : w.registry.state = .running) (staffed : w.registry.Staffed) :
    w.ticked.registry.state = .running ∧ w.ticked.registry.Staffed := by
  rw [ticked_registry]
  exact ⟨(Registry.tick_steady running staffed w.sample w.instant).state.trans running,
    Registry.tick_staffed running staffed w.sample w.instant⟩

theorem lookAround_sound (sound : w.registry.Sound) (looked : w.lookAround = .ok w') :
    w'.registry.Sound := by
  by_cases running : w.registry.state = .running
  · rw [lookAround_of_running running] at looked
    obtain ⟨running₁, staffed₁⟩ := ticked_sound running (sound.running running)
    obtain ⟨running', staffed'⟩ := redeclare_sound running₁ staffed₁ looked
    exact ⟨fun _ => staffed', fun stopped => absurd running' stopped⟩
  · unfold lookAround at looked
    rw [if_neg running] at looked
    cases looked
    exact sound

/-- A container that is given up is left without consumers. -/
theorem giveUp_sound (fine : w.registry.state ≠ .running → w.registry.Sound) (run : Nat)
    (reason : String) : (w.giveUp run reason).2.registry.Sound := by
  unfold giveUp
  split
  next idle =>
    refine loopAgain_sound (fine fun running => ?_) run
    unfold beginShutdown Registry.beginStop at idle
    rw [if_pos running] at idle
    cases idle
  next begun => exact beginShutdown_sound begun

theorem pauseQueue_registry (w : World) (queue : String) :
    (w.pauseQueue queue).registry = w.registry.dropConsumers queue :=
  ((foldl_still retire_still _ _).since (publish_still _ _)).registry

/-- Every action but a pause leaves the registry to a stop, or as it is. -/
theorem applyAction_sound (sound : w.registry.Sound) (run : Nat) {action : RecoveryAction}
    (otherwise : ∀ queue, action ≠ .pause queue) : (w.applyAction run action).2.registry.Sound := by
  cases action with
  | restart | scheduleRetry | awaitRound => exact loopAgain_sound sound run
  | pause queue => exact absurd rfl (otherwise queue)
  | fatal reason => exact giveUp_sound (fun _ => sound) run reason

/-- **A report leaves a sound registry sound**, when the monitor has done what follows from it. -/
theorem handleReport_sound (sound : w.registry.Sound) (run : Nat) (report : Report) :
    (w.handleReport run report).2.registry.Sound := by
  cases report with
  | consumeOk queue =>
    refine loopAgain_sound ?_ run
    exact ⟨fun running => (sound.running running).eased
      (w.registry.supervisor.consumeOk_eases queue), sound.idle⟩
  | terminated id queue => exact loopAgain_sound (sound.removeConsumer queue id) run
  | failed id queue error =>
    have outcome := sound.consumerFailed queue id error w.instant
    unfold handleReport
    dsimp only
    generalize w.registry.consumerFailed queue id error w.instant = answer at outcome
    obtain ⟨action, registry⟩ := answer
    obtain ⟨reason, rfl, running⟩ | ⟨rfl, dropped⟩ | ⟨sound', otherwise⟩ := outcome
    · exact giveUp_sound (fun stopped => absurd running stopped) run reason
    · refine loopAgain_sound ?_ run
      rw [pauseQueue_registry]
      exact dropped
    · dsimp only at otherwise ⊢
      split
      next => exact loopAgain_sound sound' run
      next => exact endMonitor_sound sound' run
      next action =>
        exact applyAction_sound sound' run fun name pauses =>
          otherwise name (by rw [pauses])

/-! ### Runs -/

/-- **Whatever happens to a container leaves its registry sound.** -/
theorem undergo_sound (sound : w.registry.Sound) (act : Upkeep) :
    (w.undergo act).registry.Sound := by
  cases act with
  | start => exact start_sound sound
  | setBounds bounds => exact adopt_sound sound fun registry => Registry.setBounds_adopts
  | addQueues names => exact adopt_sound sound fun registry => Registry.add_adopts
  | removeQueues number names => exact removeQueues_sound sound number names
  | lookAround run => exact loopUnless_sound sound (fun w' => lookAround_sound sound) run
  | recover run => exact loopUnless_sound sound (fun w' => recover_sound sound) run
  | report run report => exact handleReport_sound sound run report
  | stop number => exact stop_sound sound number
  | stopped fatal =>
    unfold undergo
    dsimp only
    split
    next stopping =>
      rw [finishShutdown_registry]
      exact sound.finishStop stopping _
    next => exact sound
  | meanwhile other => exact sound

/-- **The registry of a container is sound at any time.** -/
theorem run_sound (plan : Plan) (client : Client) (acts : List Upkeep) :
    ((World.new plan client).undergoAll acts).registry.Sound := by
  have steps : ∀ w : World, w.registry.Sound → (w.undergoAll acts).registry.Sound := by
    induction acts with
    | nil => exact fun w sound => sound
    | cons act acts ih => exact fun w sound => ih _ (undergo_sound sound act)
  exact steps _ ⟨nofun, fun _ _ => rfl⟩

end QueueListener.World
