import QueueListener.Proofs.Container.Registers
import QueueListener.Proofs.Container.Standstill
import QueueListener.Proofs.Registry.Ticks
/-!
# Scale-ups that were never carried out

**A scale-up that a look has called for delays the next one, whether or not it was carried out.** While
a round of recovery blocks restarts a look starts nobody, but it remembers the call; for as long as the
start interval lasts, a queue that is busy is then left with the consumers that it has, although none was
started for it.

* `ScaleUp`, `World.scaleUps` — the scale-ups that were called for since the run began;
* `scaleUp_carriedOut` — they are carried out unless restarts are blocked;
* `Retains`, `undergo_retains` — what leaves alone the memory of the scaling;
* `Recalls`, `run_recalls` — what is remembered of a queue is the last call;
* `Loaded`, `run_scales_up_iff` — when a tick starts a consumer for a busy queue;
* `blocked_scale_up_delays` — a call that was not carried out keeps a later tick from starting one.
-/

namespace QueueListener

namespace Registry

/-- Two registries with the same settings that remember the same of the load. -/
structure Retains (r r' : Registry) : Prop where
  settings : r'.settings = r.settings
  scaling : r'.scaling = r.scaling

namespace Retains

variable {r r' r'' : Registry}

theorem refl (r : Registry) : r.Retains r := ⟨rfl, rfl⟩

theorem trans (first : r.Retains r') (second : r'.Retains r'') : r.Retains r'' :=
  ⟨second.settings.trans first.settings, second.scaling.trans first.scaling⟩

end Retains

theorem converge_retains (r : Registry) (now : Instant) : r.Retains (r.converge now).1 := by
  obtain ⟨new, hands⟩ := converge_handsOver r now
  exact ⟨hands.steady.settings, converge_scaling r now⟩

theorem consumerFailed_retains (r : Registry) (queue : String) (id : Nat) (error : ClientError)
    (now : Instant) : r.Retains (r.consumerFailed queue id error now).2 := by
  unfold consumerFailed
  dsimp only
  split <;> exact ⟨rfl, rfl⟩

theorem beginStop_retains {r r' : Registry} {ids : List Nat}
    (begun : r.beginStop = some (ids, r')) : r.Retains r' := by
  unfold beginStop at begun
  split at begun
  next =>
    cases begun
    exact ⟨rfl, rfl⟩
  next => cases begun

theorem setBounds_retains {r r' : Registry} {bounds : Bounds}
    (accepted : r.setBounds bounds = .ok r') : r.Retains r' := by
  unfold setBounds at accepted
  split at accepted
  next => cases accepted
  next =>
    cases accepted
    exact ⟨rfl, rfl⟩

theorem add_retains {r r' : Registry} {names : List String} (added : r.add names = .ok r') :
    r.Retains r' := by
  unfold add at added
  split at added
  next => cases added
  next =>
    cases added
    exact ⟨rfl, rfl⟩

theorem removeQueue_of_absent {acc : Registry × List String × List Nat} {name : String}
    (absent : name ∉ acc.1.queues) : removeQueue acc name = acc := by
  unfold removeQueue
  exact if_neg fun contained => absent (List.contains_iff_mem.mp contained)

/-- What is remembered of a queue after one removal. -/
theorem removeQueue_lastStarted (acc : Registry × List String × List Nat) (name queue : String) :
    (removeQueue acc name).1.settings = acc.1.settings ∧
      (removeQueue acc name).1.scaling.rules = acc.1.scaling.rules ∧
      (removeQueue acc name).1.scaling.lastStarted.get? queue =
        if name = queue ∧ queue ∈ acc.1.queues then none
        else acc.1.scaling.lastStarted.get? queue := by
  unfold removeQueue
  dsimp only
  split
  next contained =>
    have member : name ∈ acc.1.queues := List.contains_iff_mem.mp contained
    refine ⟨rfl, rfl, (Table.get?_erase _ _ _).trans (if_congr ⟨?_, fun removed => removed.1.symm⟩
      rfl rfl)⟩
    rintro rfl
    exact ⟨rfl, member⟩
  next absent =>
    refine ⟨rfl, rfl, (if_neg fun removed => absent ?_).symm⟩
    exact List.contains_iff_mem.mpr (removed.1 ▸ removed.2)

/-- The removal of another queue leaves a queue registered, or not. -/
theorem mem_removeQueue (acc : Registry × List String × List Nat) {name queue : String}
    (other : name ≠ queue) : queue ∈ (removeQueue acc name).1.queues ↔ queue ∈ acc.1.queues := by
  unfold removeQueue
  dsimp only
  split
  next => exact List.mem_erase_of_ne other.symm
  next => exact Iff.rfl

/-- What is remembered of a queue after a removal: nothing, if it is among the removed ones. -/
theorem remove_lastStarted (r : Registry) (names : List String) (queue : String) :
    (r.remove names).1.settings = r.settings ∧
      (r.remove names).1.scaling.rules = r.scaling.rules ∧
      (r.remove names).1.scaling.lastStarted.get? queue =
        if queue ∈ names ∧ queue ∈ r.queues then none else r.scaling.lastStarted.get? queue := by
  have steps : ∀ acc : Registry × List String × List Nat,
      (names.foldl removeQueue acc).1.settings = acc.1.settings ∧
      (names.foldl removeQueue acc).1.scaling.rules = acc.1.scaling.rules ∧
      (names.foldl removeQueue acc).1.scaling.lastStarted.get? queue =
        if queue ∈ names ∧ queue ∈ acc.1.queues then none
        else acc.1.scaling.lastStarted.get? queue := by
    induction names with
    | nil => exact fun acc => ⟨rfl, rfl, (if_neg fun removed => List.not_mem_nil removed.1).symm⟩
    | cons name names ih =>
      intro acc
      obtain ⟨settings, rules, last⟩ := ih (removeQueue acc name)
      obtain ⟨settings₁, rules₁, last₁⟩ := removeQueue_lastStarted acc name queue
      refine ⟨settings.trans settings₁, rules.trans rules₁, last.trans ?_⟩
      rw [last₁]
      by_cases here : name = queue
      · subst here
        by_cases member : name ∈ acc.1.queues
        · simp [member]
        · simp [member, removeQueue_of_absent member]
      · simp [here, Ne.symm here, mem_removeQueue acc here]
  exact steps (r, [], [])

end Registry

namespace World

variable {w w' : World} {queue : String}

/-! ### What a container remembers of the load -/

theorem converge_retains (w : World) : w.registry.Retains w.converge.registry := by
  rw [converge_registry]
  exact w.registry.converge_retains w.instant

theorem adopt_retains {answer : Except Refusal Registry}
    (retains : ∀ registry, answer = .ok registry → w.registry.Retains registry) :
    w.registry.Retains (w.adopt answer).2.registry := by
  cases answer with
  | error refusal => exact .refl _
  | ok registry => exact (retains registry rfl).trans (converge_retains { w with registry })

theorem redeclare_retains (looked : w.redeclare = .ok w') :
    w.registry.Retains w'.registry := by
  by_cases running : w.registry.state = .running
  · obtain ⟨found, w₁, redeclares, rfl⟩ := redeclare_outcome running looked
    have informed : w.registry.Retains w₁.registry := by
      rw [redeclares.registry]
      exact ⟨rfl, rfl⟩
    cases found with
    | false => exact informed
    | true => exact informed.trans (converge_retains w₁)
  · rw [redeclare_of_not_running running] at looked
    cases looked
    exact .refl _

theorem recover_retains (recovered : w.recover = .ok w') : w.registry.Retains w'.registry := by
  obtain ⟨w₁, looked, rfl⟩ := recover_outcome recovered
  exact (redeclare_retains looked).trans (converge_retains w₁)

section Turns

variable {r : Registry} (before : r.Retains w.registry) (run : Nat)

include before

theorem loopAgain_retains : r.Retains (w.loopAgain run).2.registry := by
  rw [(loopAgain_still w run).registry]
  exact before

theorem endMonitor_retains : r.Retains (w.endMonitor run).2.registry := by
  rw [(endMonitor_still w run).registry]
  exact before

theorem beginShutdown_retains {answer : Closing × World} (begun : w.beginShutdown = some answer) :
    r.Retains answer.2.registry := by
  obtain ⟨closing, w'⟩ := answer
  obtain ⟨ids, registry, stops, -, -, after⟩ := beginShutdown_begins (.errand 0) begun
  have same : w'.registry = registry := after.quiet.registry
  exact before.trans (same ▸ Registry.beginStop_retains stops)

theorem applyAction_retains (action : RecoveryAction) :
    r.Retains (w.applyAction run action).2.registry := by
  cases action with
  | restart | scheduleRetry | awaitRound => exact loopAgain_retains before run
  | pause queue =>
    refine loopAgain_retains (before.trans ?_) run
    rw [pauseQueue_registry]
    exact ⟨rfl, rfl⟩
  | fatal reason =>
    unfold applyAction giveUp
    dsimp only
    split
    next => exact loopAgain_retains before run
    next begun => exact beginShutdown_retains before begun

end Turns

theorem loopUnless_retains {result : Except TimeFault World}
    (after : ∀ w', result = .ok w' → w.registry.Retains w'.registry) (run : Nat) :
    w.registry.Retains (w.loopUnless run result).2.registry := by
  cases result with
  | error fault => exact endMonitor_retains (.refl _) run
  | ok w' => exact loopAgain_retains (after w' rfl) run

theorem handleReport_retains (w : World) (run : Nat) (report : Report) :
    w.registry.Retains (w.handleReport run report).2.registry := by
  cases report with
  | consumeOk queue =>
    refine loopAgain_retains ?_ run
    exact ⟨rfl, rfl⟩
  | terminated id queue =>
    refine loopAgain_retains ?_ run
    exact ⟨rfl, rfl⟩
  | failed id queue error =>
    have judged := w.registry.consumerFailed_retains queue id error w.instant
    unfold handleReport
    dsimp only
    split
    next => exact loopAgain_retains judged run
    next => exact endMonitor_retains judged run
    next action _ =>
      exact applyAction_retains (w := { w with
        registry := (w.registry.consumerFailed queue id error w.instant).2 }) judged run action

/-- What happens to a container leaves its memory of the load alone, unless it starts, removes queues
or looks around. -/
theorem undergo_retains (w : World) {act : Upkeep} (starts : act ≠ .start)
    (removes : ∀ number names, act ≠ .removeQueues number names)
    (looks : ∀ run, act ≠ .lookAround run) : w.registry.Retains (w.undergo act).registry := by
  cases act with
  | start => exact absurd rfl starts
  | removeQueues number names => exact absurd rfl (removes number names)
  | lookAround run => exact absurd rfl (looks run)
  | setBounds bounds => exact adopt_retains fun registry => Registry.setBounds_retains
  | addQueues names => exact adopt_retains fun registry => Registry.add_retains
  | recover run => exact loopUnless_retains (fun w' => recover_retains) run
  | report run report => exact handleReport_retains w run report
  | stop number =>
    unfold undergo beginErrand
    dsimp only
    split
    next begun => exact beginShutdown_retains (.refl _) begun
    next =>
      rw [(joinMonitor_still w number).registry]
      exact .refl _
  | stopped fatal =>
    unfold undergo
    dsimp only
    split
    next =>
      rw [finishShutdown_registry]
      exact ⟨rfl, rfl⟩
    next => exact .refl _
  | meanwhile other => exact .refl _

/-! ### The scale-ups of a run -/

/-- A scale-up that a look has called for: when, and whether it has started a consumer. -/
structure ScaleUp where
  instant : Instant
  carriedOut : Bool
  deriving DecidableEq, Repr

/-- Whether a look of the monitor calls for one more consumer of a queue. A look that the monitor does
not survive comes to nothing. -/
def CallsForMore (w : World) (queue : String) : Prop :=
  w.registry.state = .running ∧ w.lookAround.isOk ∧ queue ∈ w.registry.queues ∧
    w.registry.CallsForMore w.sample w.instant queue

instance (w : World) (queue : String) : Decidable (w.CallsForMore queue) :=
  inferInstanceAs (Decidable (_ ∧ _ ∧ _ ∧ _))

/-- The scale-up that a look calls for. -/
def scaleUp (w : World) (queue : String) : ScaleUp where
  instant := w.instant
  carriedOut := Registry.numbersFor queue (w.registry.scaled w.sample w.instant).2.started ≠ []

/-- The scale-ups that looks have called for since the run began and the queue was added, after one
more thing has happened. -/
def noteScaleUps (w : World) (queue : String) (ups : List ScaleUp) : Upkeep → List ScaleUp
  | .start => if (w.registry.start w.plan.hasManager matches .ok (some _)) then [] else ups
  | .removeQueues _ names => if queue ∈ names ∧ queue ∈ w.registry.queues then [] else ups
  | .lookAround _ => if w.CallsForMore queue then ups ++ [w.scaleUp queue] else ups
  | _ => ups

/-- The scale-ups that looks have called for in a run. -/
def scaleUps (w : World) (queue : String) (ups : List ScaleUp) : List Upkeep → List ScaleUp
  | [] => ups
  | act :: acts => (w.undergo act).scaleUps queue (w.noteScaleUps queue ups act) acts

/-- A scale-up is carried out unless restarts are blocked. -/
theorem scaleUp_carriedOut (staffed : w.registry.Staffed) (calls : w.CallsForMore queue) :
    (w.scaleUp queue).carriedOut = !w.blocked := by
  obtain ⟨-, -, member, calls⟩ := calls
  have answers := Registry.scaled_answers member staffed.distinct w.sample w.instant
  have started : (Registry.numbersFor queue
      (w.registry.scaled w.sample w.instant).2.started).length =
        0 + w.registry.hires w.sample w.blocked w.instant queue := answers.started
  unfold scaleUp
  cases blocked : w.blocked with
  | false =>
    have one : w.registry.hires w.sample w.blocked w.instant queue = 1 := if_pos ⟨calls, blocked⟩
    rw [one] at started
    exact decide_eq_true (List.ne_nil_of_length_pos (started ▸ Nat.one_pos))
  | true =>
    have none : w.registry.hires w.sample w.blocked w.instant queue = 0 :=
      if_neg fun hires => by rw [blocked] at hires; cases hires.2
    rw [none] at started
    exact decide_eq_false (not_not.mpr (List.eq_nil_of_length_eq_zero started))

/-- What is remembered of the load of a queue is the last scale-up that was called for. -/
structure Recalls (plan : Plan) (queue : String) (w : World) (ups : List ScaleUp) : Prop where
  settings : w.registry.settings = plan.settings
  rules : w.registry.scaling.rules = plan.settings.scalingRules
  last : w.registry.scaling.lastStarted.get? queue = ups.getLast?.map ScaleUp.instant

namespace Recalls

variable {plan : Plan} {ups : List ScaleUp}

theorem retained (recalls : Recalls plan queue w ups) (retains : w.registry.Retains w'.registry) :
    Recalls plan queue w' ups where
  settings := retains.settings.trans recalls.settings
  rules := by rw [retains.scaling, recalls.rules]
  last := by rw [retains.scaling, recalls.last]

theorem start (recalls : Recalls plan queue w ups) :
    Recalls plan queue w.start.2 (w.noteScaleUps queue ups .start) := by
  unfold noteScaleUps
  cases started : w.registry.start w.plan.hasManager with
  | error refusal =>
    unfold World.start
    rw [started]
    exact recalls
  | ok answer =>
    cases answer with
    | none =>
      unfold World.start
      rw [started]
      exact recalls
    | some registry =>
      obtain ⟨-, rfl⟩ := Registry.start_begins started
      have retains := w.registry.started.converge_retains w.instant
      rw [← start_registry started] at retains
      exact {
        settings := retains.settings.trans recalls.settings
        rules := by
          rw [retains.scaling, ← recalls.settings]
          rfl
        last := by
          rw [retains.scaling]
          rfl }

theorem remove (recalls : Recalls plan queue w ups) (number : Nat) (names : List String) :
    Recalls plan queue (w.undergo (.removeQueues number names))
      (w.noteScaleUps queue ups (.removeQueues number names)) := by
  have still := beginClosing_still
    ({ w with registry := (w.registry.remove names).1 }.clearGauges
      (w.registry.remove names).2.1) (w.registry.remove names).2.2 []
  have removed : (w.undergo (.removeQueues number names)).registry =
      (w.registry.remove names).1 := still.registry
  obtain ⟨settings, rules, last⟩ := w.registry.remove_lastStarted names queue
  refine ⟨?_, ?_, ?_⟩
  · rw [removed, settings, recalls.settings]
  · rw [removed, rules, recalls.rules]
  · rw [removed, last, recalls.last]
    by_cases gone : queue ∈ names ∧ queue ∈ w.registry.queues
    · rw [if_pos gone, noteScaleUps, if_pos gone]
      rfl
    · rw [if_neg gone, noteScaleUps, if_neg gone]

theorem lookAround (recalls : Recalls plan queue w ups) (sound : w.registry.Sound) (run : Nat) :
    Recalls plan queue (w.undergo (.lookAround run))
      (w.noteScaleUps queue ups (.lookAround run)) := by
  show Recalls plan queue (w.loopUnless run w.lookAround).2
    (if w.CallsForMore queue then _ else _)
  cases looked : w.lookAround with
  | error fault =>
    have silent : ¬ w.CallsForMore queue := fun calls => by
      have survives := calls.2.1
      rw [looked] at survives
      cases survives
    rw [if_neg silent]
    exact recalls.retained (endMonitor_retains (.refl _) run)
  | ok w' =>
    by_cases running : w.registry.state = .running
    · have calls : w.CallsForMore queue ↔
          queue ∈ w.registry.queues ∧ w.registry.CallsForMore w.sample w.instant queue := by
        unfold CallsForMore
        rw [looked]
        exact ⟨fun calls => calls.2.2, fun calls => ⟨running, rfl, calls⟩⟩
      obtain ⟨rules, last⟩ := Registry.tick_remembers running (sound.running running).distinct
        w.sample w.instant queue
      obtain ⟨new, hands⟩ := w.registry.tick_handsOver w.sample w.instant
      have ticked : Recalls plan queue w.ticked
          (if w.CallsForMore queue then ups ++ [w.scaleUp queue] else ups) := by
        refine ⟨?_, ?_, ?_⟩
        · rw [ticked_registry, hands.steady.settings, recalls.settings]
        · rw [ticked_registry, rules, recalls.rules]
        · rw [ticked_registry, last, recalls.last]
          by_cases more : w.CallsForMore queue
          · rw [if_pos more, if_pos (calls.mp more), List.getLast?_concat]
            rfl
          · rw [if_neg more, if_neg fun called => more (calls.mpr called)]
      rw [lookAround_of_running running] at looked
      exact (ticked.retained (redeclare_retains looked)).retained
        (loopAgain_retains (.refl _) run)
    · rw [if_neg fun calls => running calls.1]
      unfold World.lookAround at looked
      rw [if_neg running] at looked
      cases looked
      exact recalls.retained (loopAgain_retains (.refl _) run)

end Recalls

/-- **What is remembered of the load of a queue is the last scale-up that was called for**, at any
time. -/
theorem run_recalls (plan : Plan) (client : Client) (queue : String) (acts : List Upkeep) :
    Recalls plan queue ((World.new plan client).undergoAll acts)
      ((World.new plan client).scaleUps queue [] acts) := by
  have steps : ∀ (w : World) (ups : List ScaleUp), w.registry.Sound → Recalls plan queue w ups →
      Recalls plan queue (w.undergoAll acts) (w.scaleUps queue ups acts) := by
    induction acts with
    | nil => exact fun w ups sound recalls => recalls
    | cons act acts ih =>
      intro w ups sound recalls
      refine ih _ _ (undergo_sound sound act) ?_
      cases act with
      | start => exact recalls.start
      | removeQueues number names => exact recalls.remove number names
      | lookAround run => exact recalls.lookAround sound run
      | setBounds | addQueues | recover | report | stop | stopped | meanwhile =>
        exact recalls.retained (undergo_retains w nofun nofun nofun)
  exact steps _ [] ⟨nofun, fun _ _ => rfl⟩ ⟨rfl, rfl, rfl⟩

/-! ### Busy queues -/

/-- A declared queue that may have one more consumer than it has, and whose consumers are all busy, while
restarts are not blocked. -/
structure Loaded (plan : Plan) (queue : String) (w : World) : Prop where
  running : w.registry.state = .running
  free : w.blocked = false
  member : queue ∈ w.registry.queues
  declared : w.registry.supervisor.state? queue = some .declared
  some : w.registry.consumersOf queue ≠ []
  room : (w.registry.consumersOf queue).length < w.registry.bounds.most
  busy : ∀ id ∈ w.registry.consumersOf queue,
    plan.settings.activeTrigger ≤ (w.sample id).activeStreak

/-- A look at a busy queue calls for one more consumer when the last scale-up that was called for lies at
least the start interval back. -/
theorem Loaded.calls_iff {plan : Plan} {ups : List ScaleUp} (loaded : Loaded plan queue w)
    (recalls : Recalls plan queue w ups) : w.registry.CallsForMore w.sample w.instant queue ↔
      Scaling.Rested plan.settings.startInterval (ups.getLast?.map ScaleUp.instant) w.instant := by
  have samples : (w.registry.consumersOf queue).map w.sample ≠ [] := fun none =>
    loaded.some (List.map_eq_nil_iff.mp none)
  unfold Registry.CallsForMore
  rw [and_iff_right loaded.declared, Scaling.evaluate_eq_startOne_iff, and_iff_right samples,
    Scaling.wantsMore_iff, recalls.rules, recalls.last, List.length_map, and_iff_right loaded.room,
    List.forall_mem_map]
  exact and_iff_right loaded.busy

/-- **Every scale-up that was called for delays the next one**, whether or not it was carried out. A tick
starts a consumer for a busy queue when the last call lies at least the start interval back, and when the
queue has fewer consumers than it must have. So where no consumer was started for the load within the
interval, a tick starts none for the only reason that the last call was not carried out, and does not lie
the interval back. -/
theorem run_scales_up_iff (plan : Plan) (client : Client) (acts : List Upkeep) {queue : String}
    (loaded : Loaded plan queue ((World.new plan client).undergoAll acts)) :
    let w := (World.new plan client).undergoAll acts
    let ups := (World.new plan client).scaleUps queue [] acts
    let rested (last : Option Instant) :=
      Scaling.Rested plan.settings.startInterval last w.instant
    let starts := Registry.numbersFor queue (w.registry.tick w.sample w.instant).2.started ≠ []
    let few := (w.registry.consumersOf queue).length < w.registry.bounds.least
    (starts ↔ rested (ups.getLast?.map ScaleUp.instant) ∨ few) ∧
    ((∀ up ∈ ups, up.carriedOut = true → rested (some up.instant)) →
      (¬ starts ↔ ¬ few ∧
        ∃ up ∈ ups.getLast?, up.carriedOut = false ∧ ¬ rested (some up.instant))) := by
  intro w ups rested starts few
  have recalls : Recalls plan queue w ups := run_recalls plan client queue acts
  have staffed := (run_sound plan client acts).running loaded.running
  have exact : starts ↔ rested (ups.getLast?.map ScaleUp.instant) ∨ few :=
    (Registry.tick_starts_iff loaded.running staffed loaded.free loaded.member loaded.declared
      w.sample).trans (or_congr_left (loaded.calls_iff recalls))
  refine ⟨exact, fun spaced => ?_⟩
  rw [exact, not_or, and_comm]
  refine and_congr_right' ?_
  cases last : ups.getLast? with
  | none => exact iff_of_false (not_not.mpr nofun) nofun
  | some up =>
    have member : up ∈ ups := List.mem_of_getLast? last
    constructor
    · intro recent
      refine ⟨up, rfl, ?_, recent⟩
      exact Bool.eq_false_iff.mpr fun carried => recent (spaced up member carried)
    · rintro ⟨other, ⟨⟩, -, recent⟩
      exact recent

/-- Two queues, each with one or two consumers; one that is busy shall get another one at most every ten
seconds. -/
def busyQueues : Plan :=
  { settings := {
      queues := ["audit", "orders"]
      bounds := ⟨1, 2⟩
      activeTrigger := 2
      startInterval := Duration.ofSeconds 10
      recovery := .fixed (Duration.ofMillis 250) none } }

/-- By that millisecond the consumer of the second queue has had two deliveries in a row. -/
def busyAt (millis : Nat) : World :=
  { World.new busyQueues {} with
    now := millis
    consumers := Table.empty.set 2
      { queue := "orders", run := 0, startedAt := 0, activeStreak := 2, lastDelivery := 0 } }

/-- The consumer of the first queue fails, and for a quarter of a second restarts are blocked. Meanwhile
the monitor looks around; then the consumer is replaced, and the new one comes up. -/
def lookDuringRound : List Upkeep :=
  [.start, .report 0 (.failed 1 "audit" (.connection "connection reset")), .meanwhile (busyAt 100),
    .lookAround 0, .meanwhile (busyAt 260), .recover 0, .report 0 (.consumeOk "audit"),
    .meanwhile (busyAt 300)]

theorem lookDuringRound_loaded :
    Loaded busyQueues "orders" ((World.new busyQueues {}).undergoAll lookDuringRound) :=
  ⟨by decide +kernel, by decide +kernel, by decide +kernel, by decide +kernel, by decide +kernel,
    by decide +kernel, by decide +kernel⟩

/-- **A scale-up that was never carried out keeps the next tick from starting a consumer**: nobody was
ever started for the load of the queue, it is busy and may have one more, and it gets none. -/
theorem blocked_scale_up_delays :
    Loaded busyQueues "orders" ((World.new busyQueues {}).undergoAll lookDuringRound) ∧
      (World.new busyQueues {}).scaleUps "orders" [] lookDuringRound =
        [⟨Instant.ofMillis 100, false⟩] ∧
      Registry.numbersFor "orders" (((World.new busyQueues {}).undergoAll
        lookDuringRound).registry.tick ((World.new busyQueues {}).undergoAll lookDuringRound).sample
        ((World.new busyQueues {}).undergoAll lookDuringRound).instant).2.started = [] :=
  ⟨lookDuringRound_loaded, by decide +kernel, by decide +kernel⟩

/-- The call that was not carried out is the only reason. -/
theorem run_scales_up_iff_lookDuringRound :
    ∃ up ∈ ((World.new busyQueues {}).scaleUps "orders" [] lookDuringRound).getLast?,
      up.carriedOut = false ∧ ¬ Scaling.Rested busyQueues.settings.startInterval (some up.instant)
        ((World.new busyQueues {}).undergoAll lookDuringRound).instant := by
  obtain ⟨-, only⟩ := run_scales_up_iff busyQueues {} lookDuringRound lookDuringRound_loaded
  have ups : (World.new busyQueues {}).scaleUps "orders" [] lookDuringRound =
      [⟨Instant.ofMillis 100, false⟩] := by decide +kernel
  refine ((only fun up member carried => ?_).mp ?_).2
  · rw [ups, List.mem_singleton] at member
    subst member
    cases carried
  · decide +kernel

end World

end QueueListener
