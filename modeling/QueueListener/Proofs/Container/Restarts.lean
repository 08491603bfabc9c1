import Mathlib.Data.List.Induction
import QueueListener.Proofs.Container.Standstill
import QueueListener.Proofs.Recovery.Waiting
/-!
# Restarts of consumers

**No consumer is started while a round of recovery blocks restarts**, by whichever call or look of
the monitor, and a retry that was scheduled keeps its distance: until its delay has passed nobody is
started, unless a consumer that came up or the removal of the last queue has ended the round.

* `World.Waits` — nothing has put an end to the waiting for an instant;
* `World.undergo_round`, `World.undergoAll_round` — a round that waits is left alone;
* `World.Settles` — what a convergence makes of a round whose attempt is due;
* `World.Respects`, `World.run_respects_rounds` — how every step of a run treats the round.
-/

namespace QueueListener

namespace World

variable {w w' : World}

/-! ### A round that waits -/

/-- Nothing has put an end to the waiting for an instant: it has not come, the container runs, and
it has a queue. -/
structure Waits (w : World) (deadline : Instant) : Prop where
  running : w.registry.state = .running
  queues : w.registry.queues ≠ []
  early : w.instant < deadline

/-- While queues are left, removals leave the round alone. -/
theorem remove_round (r : Registry) (names : List String)
    (left : (r.remove names).1.supervisor.queues.entries ≠ []) :
    (r.remove names).1.supervisor.round = r.supervisor.round := by
  have step : ∀ (acc : Registry × List String × List Nat) (name : String),
      (acc.1.supervisor.queues.entries = [] →
        (Registry.removeQueue acc name).1.supervisor.queues.entries = []) ∧
      ((Registry.removeQueue acc name).1.supervisor.queues.entries ≠ [] →
        (Registry.removeQueue acc name).1.supervisor.round = acc.1.supervisor.round) := by
    intro acc name
    unfold Registry.removeQueue
    dsimp only
    split
    next =>
      refine ⟨fun empty => ?_, fun left => ?_⟩
      · show (acc.1.supervisor.queues.erase name).entries = []
        simp [Table.erase, empty]
      · show (if _ then none else acc.1.supervisor.round) = acc.1.supervisor.round
        rw [if_neg]
        rw [List.isEmpty_iff]
        exact left
    next => exact ⟨id, fun _ => rfl⟩
  have steps : ∀ acc : Registry × List String × List Nat,
      (acc.1.supervisor.queues.entries = [] →
        (names.foldl Registry.removeQueue acc).1.supervisor.queues.entries = []) ∧
      ((names.foldl Registry.removeQueue acc).1.supervisor.queues.entries ≠ [] →
        (names.foldl Registry.removeQueue acc).1.supervisor.round = acc.1.supervisor.round) := by
    clear left
    induction names with
    | nil => exact fun acc => ⟨id, fun _ => rfl⟩
    | cons name names ih =>
      intro acc
      obtain ⟨empties, keeps⟩ := step acc name
      obtain ⟨empties', keeps'⟩ := ih (Registry.removeQueue acc name)
      refine ⟨fun empty => empties' (empties empty), fun left => ?_⟩
      exact (keeps' left).trans (keeps fun empty => left (empties' empty))
  exact (steps (r, [], [])).2 left

/-- A container that has a queue tracks one. -/
theorem tracks_of_queues (staffed : w.registry.Staffed) (queues : w.registry.queues ≠ []) :
    w.registry.supervisor.queues.entries ≠ [] := by
  obtain ⟨queue, member⟩ := List.exists_mem_of_ne_nil _ queues
  obtain ⟨state, found, -⟩ := staffed.tracked queue member
  intro empty
  simp [Supervisor.state?, Table.get?, empty] at found

theorem beginShutdown_state {answer : Closing × World} (begun : w.beginShutdown = some answer) :
    answer.2.registry.state = .stopping := by
  unfold beginShutdown at begun
  split at begun
  next => cases begun
  next ids registry begun' =>
    cases begun
    have still := foldl_still requestStop_still ids (({ w with
      registry
      retiring := []
      monitors := w.monitors.modify (w.monitors.size - 1) fun m =>
        { m with stopRequested := true } } : World).wake (.monitor (w.monitors.size - 1)))
    have stops : registry.state = .stopping := by
      unfold Registry.beginStop at begun'
      split at begun'
      next =>
        cases begun'
        rfl
      next => cases begun'
    show (ids.foldl requestStop _).registry.state = .stopping
    rw [still.registry]
    exact stops

section Waiting

variable {round : Round} (staffed : w.registry.Staffed)
  (found : w.registry.supervisor.round = some round) (waits : w.Waits round.nextAttempt)

include staffed found waits

/-- A convergence leaves a round alone that waits. -/
theorem converge_keeps_round : w.converge.registry.supervisor.round = some round := by
  have early := Supervisor.not_due_of_waiting found waits.early
  rw [converge_registry, Registry.converge_of_not_due waits.running
    (Bounds.range_of_faultless staffed.bounds).2 staffed.distinct w.instant early]
  exact found

/-- Looking for missing queues leaves a round alone that waits. -/
theorem redeclare_keeps_round (looked : w.redeclare = .ok w') :
    w'.registry.Staffed ∧ w'.registry.supervisor.round = some round ∧
      w'.Waits round.nextAttempt := by
  obtain ⟨running', staffed'⟩ := redeclare_sound waits.running staffed looked
  obtain ⟨any, w₁, redeclares, rfl⟩ := redeclare_outcome waits.running looked
  have found₁ : w₁.registry.supervisor.round = some round := redeclares.round.trans found
  have queues₁ : w₁.registry.queues = w.registry.queues := by rw [redeclares.registry]
  have now₁ : w₁.instant = w.instant := by
    unfold World.instant
    rw [redeclares.now]
  have waits₁ : w₁.Waits round.nextAttempt := {
    running := redeclares.state.trans waits.running
    queues := by
      rw [queues₁]
      exact waits.queues
    early := by
      rw [now₁]
      exact waits.early }
  cases any with
  | false => exact ⟨staffed', found₁, waits₁⟩
  | true =>
    have staffed₁ := redeclares.staffed staffed
    refine ⟨staffed', converge_keeps_round staffed₁ found₁ waits₁, running', ?_, ?_⟩
    · rw [if_pos rfl, (converge_steady waits₁.running staffed₁.toOrderly).queues]
      exact waits₁.queues
    · rw [if_pos rfl]
      unfold World.instant
      rw [converge_now]
      exact waits₁.early

theorem recover_keeps_round (recovered : w.recover = .ok w') :
    w'.registry.supervisor.round = some round := by
  obtain ⟨w₁, looked, rfl⟩ := recover_outcome recovered
  obtain ⟨staffed₁, found₁, waits₁⟩ := redeclare_keeps_round staffed found waits looked
  exact converge_keeps_round staffed₁ found₁ waits₁

theorem lookAround_keeps_round (looked : w.lookAround = .ok w') :
    w'.registry.supervisor.round = some round := by
  rw [lookAround_of_running waits.running] at looked
  obtain ⟨running₁, staffed₁⟩ := ticked_sound waits.running staffed
  have looks := Registry.scaled_looks staffed.distinct w.sample w.instant
  have scaled := Registry.scaled_staffed staffed w.sample w.instant
  have found₁ : w.ticked.registry.supervisor.round = some round := by
    rw [ticked_registry, Registry.tick_of_running waits.running]
    show ((w.registry.scaled w.sample w.instant).1.converge w.instant).1.supervisor.round = _
    rw [Registry.converge_of_not_due (looks.alike.state.trans waits.running)
      (Bounds.range_of_faultless scaled.bounds).2 scaled.distinct, looks.alike.supervisor]
    · exact found
    · rw [looks.alike.supervisor]
      exact Supervisor.not_due_of_waiting found waits.early
  have steady : w.registry.Steady w.ticked.registry := by
    rw [ticked_registry]
    exact Registry.tick_steady waits.running staffed w.sample w.instant
  have waits₁ : w.ticked.Waits round.nextAttempt := {
    running := running₁
    queues := by
      rw [steady.queues]
      exact waits.queues
    early := by
      rw [ticked_instant]
      exact waits.early }
  exact (redeclare_keeps_round staffed₁ found₁ waits₁ looked).2.1

/-- A call leaves a round alone that waits. -/
theorem adopt_keeps_round {answer : Except Refusal Registry}
    (adopts : ∀ registry, answer = .ok registry → w.registry.Adopts registry) :
    (w.adopt answer).2.registry.supervisor.round = some round := by
  cases answer with
  | error refusal => exact found
  | ok registry =>
    have change := adopts registry rfl
    have running' := change.state.trans waits.running
    have orderly' := change.orderly waits.running staffed.toOrderly
    have found' := change.round.trans found
    rw [adopt_registry, Registry.converge_of_not_due running'
      (Bounds.range_of_faultless orderly'.bounds).2 orderly'.distinct w.instant
      (Supervisor.not_due_of_waiting found' waits.early)]
    exact found'

end Waiting

/-- A report leaves a round alone that waits, unless a consumer has come up or the container stops. -/
theorem handleReport_keeps_round {round : Round}
    (found : w.registry.supervisor.round = some round) (idle : round.inFlight = false) (run : Nat)
    {report : Report}
    (quiet : ∀ queue, report ≠ .consumeOk queue)
    (running : (w.handleReport run report).2.registry.state = .running) :
    (w.handleReport run report).2.registry.supervisor.round = some round := by
  cases report with
  | consumeOk queue => exact absurd rfl (quiet queue)
  | terminated id queue =>
    show (loopAgain _ run).2.registry.supervisor.round = some round
    rw [(loopAgain_still _ run).registry]
    exact found
  | failed id queue error =>
    have failed : (w.registry.consumerFailed queue id error w.instant).2.supervisor.round =
        some round := by
      unfold Registry.consumerFailed
      dsimp only
      split
      next => exact Supervisor.onFailure_round found idle queue error w.instant
      next => exact found
    unfold handleReport at running ⊢
    dsimp only at running ⊢
    generalize w.registry.consumerFailed queue id error w.instant = answer at failed running ⊢
    obtain ⟨action, registry⟩ := answer
    dsimp only at failed running ⊢
    split at running
    next =>
      rw [(loopAgain_still _ run).registry]
      exact failed
    next =>
      rw [(endMonitor_still _ run).registry]
      exact failed
    next action =>
      cases action with
      | restart | scheduleRetry | awaitRound =>
        show (loopAgain _ run).2.registry.supervisor.round = some round
        rw [(loopAgain_still _ run).registry]
        exact failed
      | pause name =>
        show (loopAgain _ run).2.registry.supervisor.round = some round
        rw [(loopAgain_still _ run).registry, pauseQueue_registry]
        exact failed
      | fatal reason =>
        unfold applyAction giveUp at running ⊢
        dsimp only at running ⊢
        split at running
        next =>
          rw [(loopAgain_still _ run).registry]
          exact failed
        next closing w' begun =>
          have stops := beginShutdown_state begun
          have runs : w'.registry.state = .running := running
          rw [stops] at runs
          cases runs

/-- **A round that waits is left alone by everything that happens**, unless a consumer has come up,
the last queue was removed or the container stops. -/
theorem undergo_round {round : Round} (sound : w.registry.Sound)
    (found : w.registry.supervisor.round = some round) (idle : round.inFlight = false)
    (waits : w.Waits round.nextAttempt) {act : Upkeep}
    (quiet : ∀ run queue, act ≠ .report run (.consumeOk queue))
    (running : (w.undergo act).registry.state = .running)
    (queues : (w.undergo act).registry.queues ≠ []) :
    (w.undergo act).registry.supervisor.round = some round := by
  have staffed := sound.running waits.running
  have tracks := tracks_of_queues ((undergo_sound sound act).running running) queues
  cases act with
  | start =>
    show w.start.2.registry.supervisor.round = some round
    rw [start_of_running waits.running]
    exact found
  | setBounds bounds => exact adopt_keeps_round staffed found waits fun _ => Registry.setBounds_adopts
  | addQueues names => exact adopt_keeps_round staffed found waits fun _ => Registry.add_adopts
  | removeQueues number names =>
    have still := beginClosing_still
      ({ w with registry := (w.registry.remove names).1 }.clearGauges
        (w.registry.remove names).2.1) (w.registry.remove names).2.2 []
    have removed : (w.undergo (.removeQueues number names)).registry =
        (w.registry.remove names).1 := still.registry
    rw [removed] at tracks ⊢
    exact (remove_round w.registry names tracks).trans found
  | lookAround run =>
    show (loopUnless w run _).2.registry.supervisor.round = some round
    cases looked : w.lookAround with
    | error fault =>
      show (w.endMonitor run).2.registry.supervisor.round = some round
      rw [(endMonitor_still w run).registry]
      exact found
    | ok w' =>
      rw [loopUnless_registry w run rfl]
      exact lookAround_keeps_round staffed found waits looked
  | recover run =>
    show (loopUnless w run _).2.registry.supervisor.round = some round
    cases recovered : w.recover with
    | error fault =>
      show (w.endMonitor run).2.registry.supervisor.round = some round
      rw [(endMonitor_still w run).registry]
      exact found
    | ok w' =>
      rw [loopUnless_registry w run rfl]
      exact recover_keeps_round staffed found waits recovered
  | report run report =>
    refine handleReport_keeps_round found idle run ?_ running
    rintro queue rfl
    exact quiet run queue rfl
  | stop number =>
    unfold undergo beginErrand at running ⊢
    dsimp only at running ⊢
    split at running
    next closing w' begun =>
      have stops := beginShutdown_state begun
      have runs : w'.registry.state = .running := running
      rw [stops] at runs
      cases runs
    next =>
      unfold joinMonitor
      split
      next => exact found
      next => exact found
  | stopped fatal =>
    show (if _ then _ else w : World).registry.supervisor.round = some round
    rw [if_neg (by rw [waits.running]; decide)]
    exact found
  | meanwhile other => exact found

/-- A round that waits is left alone by a run, as long as nothing puts an end to the waiting. -/
theorem undergoAll_round {round : Round} (sound : w.registry.Sound)
    (found : w.registry.supervisor.round = some round) (idle : round.inFlight = false)
    {acts : List Upkeep}
    (waits : ∀ moment, moment <+: acts → (w.undergoAll moment).Waits round.nextAttempt)
    (quiet : ∀ run queue, .report run (.consumeOk queue) ∉ acts) :
    (w.undergoAll acts).registry.Sound ∧
      (w.undergoAll acts).registry.supervisor.round = some round := by
  induction acts using List.reverseRecOn with
  | nil => exact ⟨sound, found⟩
  | append_singleton acts act ih =>
    obtain ⟨sound', found'⟩ := ih
      (fun moment begins => waits moment (begins.trans (List.prefix_append _ _)))
      (fun run queue member => quiet run queue (List.mem_append_left _ member))
    have last : w.undergoAll (acts ++ [act]) = (w.undergoAll acts).undergo act :=
      List.foldl_append
    have after := waits (acts ++ [act]) (List.prefix_refl _)
    rw [last] at after ⊢
    refine ⟨undergo_sound sound' act, ?_⟩
    refine undergo_round sound' found' idle (waits acts (List.prefix_append _ _)) ?_
      after.running after.queues
    rintro run queue rfl
    exact quiet run queue (List.mem_append_right _ (List.mem_singleton_self _))

/-! ### Every step of a run -/

/-- What a convergence makes of a round whose attempt is due: every consumer that it starts was
missing and has a task afterwards. -/
structure Settles (w : World) : Prop where
  registry : w.registry.Settles w.instant
  result : w.converge.registry = (w.registry.converge w.instant).1
  tasks : ∀ consumer ∈ (w.registry.converge w.instant).2.started,
    w.converge.consumers.contains consumer.1 = true

/-- Every consumer that is started has a task. -/
theorem apply_contains (w : World) (changes : Changes) {consumer : Nat × String}
    (started : consumer ∈ changes.started) :
    (w.apply changes).consumers.contains consumer.1 = true := by
  have spawns : ∀ (consumers : List (Nat × String)) (w : World),
      (consumer ∈ consumers ∨ consumer.1 ∈ w.consumers.keys) →
        consumer.1 ∈ (consumers.foldl spawn w).consumers.keys := by
    intro consumers
    induction consumers with
    | nil => exact fun w held => held.resolve_left List.not_mem_nil
    | cons first rest ih =>
      intro w held
      refine ih (w.spawn first) ?_
      show consumer ∈ rest ∨ consumer.1 ∈ (w.consumers.set first.1 _).keys
      rw [List.mem_cons, or_assoc] at held
      obtain same | later | present := held
      · right
        rw [same]
        exact Table.contains_iff.mp (by simp [Table.contains, Table.get?_set])
      · exact .inl later
      · right
        rw [← Table.contains_iff] at present ⊢
        rw [Table.contains, Table.get?_set]
        by_cases here : consumer.1 = first.1
        · rw [if_pos here]
          rfl
        · rw [if_neg here]
          exact present
  rw [Table.contains_iff]
  unfold apply
  rw [foldl_tasks _ retire_tasks]
  exact spawns changes.started w (.inl started)

/-- **A convergence settles the round whose attempt is due.** -/
theorem converge_settles (running : w.registry.state = .running)
    (range : w.registry.bounds.least ≤ w.registry.bounds.most) (distinct : w.registry.queues.Nodup)
    (due : w.registry.supervisor.attemptDue w.instant = true) : w.Settles where
  registry := Registry.converge_settles running range distinct due
  result := converge_registry w
  tasks _ := apply_contains _ _

/-- How a step treats the round of recovery. -/
structure Respects (w : World) (act : Upkeep) : Prop where
  /-- While restarts are blocked, nothing that the container does starts a consumer. -/
  blocked : w.registry.state = .running → w.blocked = true → act.isOwn = true →
    w.StartsNone (w.undergo act)
  /-- The passes of the monitor do not either, once they have blocked restarts themselves by an
  attempt that they have begun. -/
  passes : w.registry.state = .running →
    (∀ w', w.ticked.blocked = true → w.lookAround = .ok w' → w.ticked.StartsNone w') ∧
    ∀ w₁ w', w₁.blocked = true → w.redeclare = .ok w₁ → w.recover = .ok w' → w₁.StartsNone w'
  /-- After a retry was scheduled, nobody is started until its delay has passed, unless meanwhile a
  consumer came up, the last queue was removed or the container was stopped. -/
  spaced : ∀ run id queue error delay number, act = .report run (.failed id queue error) →
    (w.registry.consumerFailed queue id error w.instant).1 =
      some (.ok (.scheduleRetry delay number)) →
    ∀ acts, (∀ moment, moment <+: acts →
        ((w.undergo act).undergoAll moment).Waits (w.instant + delay)) →
      (∀ run queue, .report run (.consumeOk queue) ∉ acts) → ∀ next : Upkeep, next.isOwn = true →
        ((w.undergo act).undergoAll acts).StartsNone
          (((w.undergo act).undergoAll acts).undergo next)
  /-- A convergence settles the round whose attempt is due, also the one that belongs to the step
  itself: it meets the queues and the bounds that there are after the step. -/
  settles : (w.undergo act).registry.state = .running → ∀ w' : World,
    w'.registry.state = .running → w'.registry.queues = (w.undergo act).registry.queues →
    w'.registry.bounds = (w.undergo act).registry.bounds →
    w'.registry.supervisor.attemptDue w'.instant = true → w'.Settles

/-- After a failure that is retried the round waits for as long as was scheduled. -/
theorem report_schedules (run : Nat) {id : Nat} {queue : String} {error : ClientError} {delay : Duration}
    {number : Nat} (scheduled : (w.registry.consumerFailed queue id error w.instant).1 =
      some (.ok (.scheduleRetry delay number))) :
    ∃ walk, (w.undergo (.report run (.failed id queue error))).registry.supervisor.round =
      some ⟨walk, w.instant + delay, false⟩ := by
  have round : ∃ walk, (w.registry.consumerFailed queue id error w.instant).2.supervisor.round =
      some ⟨walk, w.instant + delay, false⟩ := by
    unfold Registry.consumerFailed at scheduled ⊢
    dsimp only at scheduled ⊢
    split at scheduled
    next asked =>
      rw [if_pos asked]
      exact Supervisor.onFailure_scheduled (Option.some.inj scheduled)
    next => cases scheduled
  unfold undergo handleReport
  dsimp only
  generalize w.registry.consumerFailed queue id error w.instant = answer at scheduled round
  obtain ⟨action, registry⟩ := answer
  dsimp only at scheduled round ⊢
  subst scheduled
  show ∃ walk, (loopAgain _ run).2.registry.supervisor.round = some ⟨walk, _, false⟩
  rw [(loopAgain_still _ run).registry]
  exact round

/-- **No step of a run starts a consumer while recovery blocks restarts.** -/
theorem run_respects_rounds (plan : Plan) (client : Client) (acts : List Upkeep) (act : Upkeep) :
    ((World.new plan client).undergoAll acts).Respects act := by
  have sound := run_sound plan client acts
  generalize (World.new plan client).undergoAll acts = w at sound
  have after := undergo_sound sound act
  exact {
    blocked := fun running blocked own =>
      undergo_startsNone (sound.running running) running blocked own
    passes := fun running => by
      have staffed := sound.running running
      obtain ⟨running₁, staffed₁⟩ := ticked_sound running staffed
      refine ⟨fun w' blocked looked => ?_, fun w₁ w' blocked looked recovered => ?_⟩
      · rw [lookAround_of_running running] at looked
        exact (redeclare_startsNone running₁ blocked staffed₁ looked).1
      · obtain ⟨w₂, looked', rfl⟩ := recover_outcome recovered
        obtain rfl : w₁ = w₂ := Except.ok.inj (looked.symm.trans looked')
        obtain ⟨running₂, staffed₂⟩ := redeclare_sound running staffed looked
        exact converge_startsNone running₂ blocked staffed₂.toOrderly
    spaced := by
      rintro run id queue error delay number rfl scheduled acts waits quiet next own
      obtain ⟨walk, found⟩ := report_schedules run scheduled
      obtain ⟨sound', found'⟩ := undergoAll_round after found rfl waits quiet
      have last := waits acts (List.prefix_refl acts)
      exact undergo_startsNone (sound'.running last.running) last.running
        (Supervisor.blocked_of_waiting found' last.early) own
    settles := fun running w' running' queues bounds due => by
      have staffed := after.running running
      refine converge_settles running' ?_ ?_ due
      · rw [bounds]
        exact (Bounds.range_of_faultless staffed.bounds).2
      · rw [queues]
        exact staffed.distinct }

/-- The container starts, and the connection is lost. -/
def connectionLost : List Upkeep :=
  [.start, .report 0 (.failed 1 "orders" (.connection "connection refused"))]

/-- A look at all queues that comes at once leaves the queue of the lost consumer without one. -/
theorem run_respects_rounds_connectionLost :
    ((World.new twoQueues {}).undergoAll connectionLost).blocked = true ∧
      ((World.new twoQueues {}).undergoAll connectionLost).StartsNone
        (((World.new twoQueues {}).undergoAll connectionLost).undergo (.lookAround 0)) ∧
      (((World.new twoQueues {}).undergoAll connectionLost).undergo
        (.lookAround 0)).registry.consumersOf "orders" = [] := by
  have respects := run_respects_rounds twoQueues {} connectionLost (.lookAround 0)
  have blocked : ((World.new twoQueues {}).undergoAll connectionLost).blocked = true := by
    decide +kernel
  have quiet := respects.blocked (by decide +kernel) blocked rfl
  have before : ((World.new twoQueues {}).undergoAll connectionLost).registry.consumersOf
      "orders" = [] := by decide +kernel
  refine ⟨blocked, quiet, List.eq_nil_of_subset_nil ?_⟩
  rw [← before]
  exact quiet.registry.consumers "orders"

end World

end QueueListener
