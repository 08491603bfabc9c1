import QueueListener.Proofs.Container.GivenUp
import QueueListener.Proofs.Recovery.Deadlines
/-!
# Failures that concern one queue

**A local failure stays local.** A failure of one channel or one consumer takes that consumer off its
queue; a queue that is missing loses its consumers and waits to be looked for. The other queues keep
their consumers and their states, and the round is left alone, so restarts are blocked as before.

* `RecoveryRules.Contains` — the failures that are neither of the broker as a whole nor fatal;
* `Registry.ConfinedTo` — everything but one queue is as it was;
* `Registry.Contained`, `Registry.consumerFailed_contained` — what the registry makes of one;
* `Hears.contains`, `StaysLocal`, `local_failure_stays` — the turn of the monitor that hears of one.
-/

namespace QueueListener

/-- A failure that is not of the broker as a whole, and no reason to stop. -/
def RecoveryRules.Contains (rules : RecoveryRules) (error : ClientError) : Prop :=
  error.kind.isSystemic = false ∧ (error.kind = .missingQueue → rules.missingFatal = false)

/-- A queue that is missing is paused, as long as the clock can show the next deadline. -/
theorem Supervisor.pause_of_shown (s : Supervisor) (queue : String) {now : Instant}
    (shown : now + s.rules.declarationRetry ≤ Instant.latest) :
    s.pause queue now = (.ok (.pause queue), { s with
      queues := s.queues.modify queue fun _ => ⟨.missing, some (now + s.rules.declarationRetry)⟩ }) := by
  unfold pause
  rw [Instant.after_eq, if_pos shown]

theorem Supervisor.pause_of_beyond (s : Supervisor) (queue : String) {now : Instant}
    (beyond : ¬ now + s.rules.declarationRetry ≤ Instant.latest) :
    s.pause queue now = (.error .beyondClock, s) := by
  unfold pause
  rw [Instant.after_eq, if_neg beyond]

namespace Registry

variable {r r' r'' : Registry} {queue : String} {id : Nat} {error : ClientError} {now : Instant}

/-- Everything but one queue is as it was: the other queues have their consumers and their states,
and restarts are blocked as before. -/
structure ConfinedTo (queue : String) (r r' : Registry) : Prop where
  state : r'.state = r.state
  queues : r'.queues = r.queues
  bounds : r'.bounds = r.bounds
  scaling : r'.scaling = r.scaling
  consumers : ∀ other, other ≠ queue → r'.consumersOf other = r.consumersOf other
  tracked : ∀ other, other ≠ queue →
    r'.supervisor.queues.get? other = r.supervisor.queues.get? other
  round : r'.supervisor.round = r.supervisor.round

theorem ConfinedTo.trans (first : ConfinedTo queue r r') (second : ConfinedTo queue r' r'') :
    ConfinedTo queue r r'' where
  state := second.state.trans first.state
  queues := second.queues.trans first.queues
  bounds := second.bounds.trans first.bounds
  scaling := second.scaling.trans first.scaling
  consumers other differ := (second.consumers other differ).trans (first.consumers other differ)
  tracked other differ := (second.tracked other differ).trans (first.tracked other differ)
  round := second.round.trans first.round

/-- Restarts are blocked by the round alone. -/
theorem ConfinedTo.blocked (confined : ConfinedTo queue r r') (now : Instant) :
    r'.supervisor.restartsBlocked now = r.supervisor.restartsBlocked now := by
  unfold Supervisor.restartsBlocked
  rw [confined.round]

theorem removeConsumer_confined (r : Registry) (queue : String) (id : Nat) :
    ConfinedTo queue r (r.removeConsumer queue id) where
  state := rfl
  queues := rfl
  bounds := rfl
  scaling := rfl
  consumers other differ := (r.consumersOf_removeConsumer queue other id).trans (if_neg differ)
  tracked _ _ := rfl
  round := rfl

theorem dropConsumers_confined (r : Registry) (queue : String) :
    ConfinedTo queue r (r.dropConsumers queue) where
  state := rfl
  queues := rfl
  bounds := rfl
  scaling := rfl
  consumers other differ := (r.consumersOf_dropConsumers queue other).trans (if_neg differ)
  tracked _ _ := rfl
  round := rfl

/-- The registry in which a queue waits until an instant to be looked for. -/
def awaiting (r : Registry) (queue : String) (next : Instant) : Registry :=
  { r with supervisor :=
      { r.supervisor with
        queues := r.supervisor.queues.modify queue fun _ => ⟨.missing, some next⟩ } }

theorem awaiting_confined (r : Registry) (queue : String) (next : Instant) :
    ConfinedTo queue r (r.awaiting queue next) where
  state := rfl
  queues := rfl
  bounds := rfl
  scaling := rfl
  consumers _ _ := rfl
  tracked _ differ := Table.get?_modify_of_ne _ _ differ
  round := rfl

/-! ### What the registry makes of a failure -/

/-- What the registry makes of a failure that concerns one queue: it takes the consumer off, and
either nothing else is to do, or the queue is to be paused and waits for the next look. -/
inductive Contained (r : Registry) (queue : String) (id : Nat) (error : ClientError)
    (now : Instant) : Option (Except TimeFault RecoveryAction) × Registry → Prop
  | removes {action : Option (Except TimeFault RecoveryAction)}
      (replaces : ∀ asked, action = some (.ok asked) → asked = .restart queue)
      (otherwise : error.kind = .missingQueue → queue ∈ r.queues →
        Instant.latest < now + r.supervisor.rules.declarationRetry) :
      Contained r queue id error now (action, r.removeConsumer queue id)
  | pauses (missing : error.kind = .missingQueue) :
      Contained r queue id error now (some (.ok (.pause queue)),
        (r.removeConsumer queue id).awaiting queue (now + r.supervisor.rules.declarationRetry))

/-- **A failure that concerns one queue is contained.** -/
theorem consumerFailed_contained (running : r.state = .running)
    (contains : r.supervisor.rules.Contains error) :
    r.Contained queue id error now (r.consumerFailed queue id error now) := by
  obtain ⟨lone, bearable⟩ := contains
  unfold consumerFailed
  dsimp only
  split
  next handled =>
    unfold Supervisor.onFailure
    cases kind : error.kind with
    | missingQueue =>
      dsimp only
      have tolerated : ¬ (r.removeConsumer queue id).supervisor.rules.missingFatal = true := by
        rw [show (r.removeConsumer queue id).supervisor = r.supervisor from rfl, bearable kind]
        exact Bool.false_ne_true
      rw [if_neg tolerated]
      by_cases shown : now + r.supervisor.rules.declarationRetry ≤ Instant.latest
      · rw [(r.removeConsumer queue id).supervisor.pause_of_shown queue shown]
        exact .pauses kind
      · rw [(r.removeConsumer queue id).supervisor.pause_of_beyond queue shown]
        exact .removes (fun _ same => nomatch same) fun _ _ => Int.not_le.mp shown
    | authentication | connection =>
      rw [kind] at lone
      cases lone
    | channel | cancelled =>
      exact .removes (fun asked same => by cases same; rfl) (by rw [kind]; exact nofun)
  next ignored =>
    refine .removes (fun _ same => nomatch same) fun _ known => absurd ?_ ignored
    rw [Bool.and_eq_true, decide_eq_true_eq]
    exact ⟨running, List.contains_iff_mem.mpr known⟩

end Registry

namespace World

variable {w : World} {run id : Nat} {queue : String} {error : ClientError}

/-! ### What the monitor makes of a failure -/

/-- Consumers that are retired are told to stop, and nobody else is. -/
theorem retireAll_consumers (ids : List Nat) (w : World) (other : Nat) :
    (ids.foldl retire w).consumers.get? other =
      if other ∈ ids then (w.consumers.get? other).map fun c => { c with stopRequested := true }
      else w.consumers.get? other := by
  induction ids generalizing w with
  | nil => exact (if_neg List.not_mem_nil).symm
  | cons id ids ih =>
    have first : (w.retire id).consumers.get? other =
        if other = id then (w.consumers.get? other).map fun c => { c with stopRequested := true }
        else w.consumers.get? other := updateConsumer_get? w id other _
    rw [List.foldl_cons, ih, first]
    by_cases here : other = id
    · subst here
      rw [if_pos rfl, if_pos List.mem_cons_self, Option.map_map]
      split <;> rfl
    · rw [if_neg here]
      exact if_congr (by rw [List.mem_cons, or_iff_right here]) rfl rfl

theorem pauseQueue_consumers (w : World) (queue : String) (other : Nat) :
    (w.pauseQueue queue).consumers.get? other =
      if other ∈ w.registry.consumersOf queue then
        (w.consumers.get? other).map fun c => { c with stopRequested := true }
      else w.consumers.get? other := by
  unfold pauseQueue
  dsimp only
  rw [retireAll_consumers, publish_consumers]

/-- **The turn of a monitor that hears of a failure that concerns one queue.** Its consumer is taken
off the queue; and when the queue is missing, the remaining ones are told to stop. -/
theorem Hears.contains (hears : w.Hears run (.failed id queue error))
    (running : w.registry.state = .running)
    (contains : w.registry.supervisor.rules.Contains error) :
    ((w.take (.monitor run)).registry = w.registry.removeConsumer queue id ∧
        (w.take (.monitor run)).consumers = w.consumers ∧
        (error.kind = .missingQueue → queue ∈ w.registry.queues →
          Instant.latest < w.instant + w.registry.supervisor.rules.declarationRetry)) ∨
      error.kind = .missingQueue ∧
        (w.take (.monitor run)).registry = ((w.registry.removeConsumer queue id).awaiting queue
          (w.instant + w.registry.supervisor.rules.declarationRetry)).dropConsumers queue ∧
        ∀ other, (w.take (.monitor run)).consumers.get? other =
          if other ∈ (w.registry.consumersOf queue).erase id then
            (w.consumers.get? other).map fun c => { c with stopRequested := true }
          else w.consumers.get? other := by
  obtain ⟨rest, -, turned⟩ := hears.handles
  have ends := take_apart w (.monitor run)
  rw [turned] at ends
  rw [ends.registry, ends.consumers]
  have contained : w.registry.Contained queue id error w.instant _ :=
    Registry.consumerFailed_contained running contains
  unfold handleReport
  dsimp only
  rw [show (w.heard run rest).registry.consumerFailed queue id error (w.heard run rest).instant =
    w.registry.consumerFailed queue id error w.instant from rfl]
  generalize w.registry.consumerFailed queue id error w.instant = answer at contained
  have goesOn := fun w₁ : World => (loopAgain_reassigns w₁ run).1
  cases contained with
  | removes replaces otherwise =>
    refine .inl ?_
    dsimp only
    split
    next => exact ⟨(goesOn _).registry, (goesOn _).consumers, otherwise⟩
    next =>
      have gone := (endMonitor_reassigns { w.heard run rest with
        registry := w.registry.removeConsumer queue id } run).1
      exact ⟨gone.registry, gone.consumers, otherwise⟩
    next asked =>
      cases replaces asked rfl
      exact ⟨(goesOn _).registry, (goesOn _).consumers, otherwise⟩
  | pauses missing =>
    refine .inr ⟨missing, ?_, fun other => ?_⟩
    · exact (goesOn _).registry.trans (pauseQueue_registry _ queue)
    · have left : (w.registry.removeConsumer queue id).consumersOf queue =
          (w.registry.consumersOf queue).erase id :=
        (w.registry.consumersOf_removeConsumer queue queue id).trans (if_pos rfl)
      rw [← left]
      exact (congrArg (·.get? other) (goesOn _).consumers).trans (pauseQueue_consumers _ queue other)

/-- What a failure that concerns one queue does to a container. -/
structure StaysLocal (queue : String) (id : Nat) (error : ClientError) (w w' : World) : Prop where
  /-- The other queues have their consumers and their states. -/
  confined : w.registry.ConfinedTo queue w'.registry
  blocked : ∀ now,
    w'.registry.supervisor.restartsBlocked now = w.registry.supervisor.restartsBlocked now
  /-- A failure of a channel or a consumer takes that consumer off its queue, and nothing else is
  changed. -/
  replaced : error.kind ≠ .missingQueue →
    w'.registry.consumersOf queue = (w.registry.consumersOf queue).erase id ∧
      w'.registry.supervisor.queues.get? queue = w.registry.supervisor.queues.get? queue ∧
      w'.consumers = w.consumers
  /-- A queue that is missing loses its consumers: these are told to stop, and no others. -/
  paused : error.kind = .missingQueue →
    w.instant + w.registry.supervisor.rules.declarationRetry ≤ Instant.latest →
    w'.registry.consumersOf queue = [] ∧
      ∀ other, w'.consumers.get? other =
        if other ∈ (w.registry.consumersOf queue).erase id then
          (w.consumers.get? other).map fun c => { c with stopRequested := true }
        else w.consumers.get? other
  /-- It is looked for one interval later. -/
  awaited : error.kind = .missingQueue → queue ∈ w.registry.queues →
    w.instant + w.registry.supervisor.rules.declarationRetry ≤ Instant.latest →
    w'.registry.supervisor.queues.get? queue =
      some ⟨.missing, some (w.instant + w.registry.supervisor.rules.declarationRetry)⟩

theorem Hears.staysLocal (hears : w.Hears run (.failed id queue error))
    (consistent : w.registry.Consistent) (running : w.registry.state = .running)
    (contains : w.registry.supervisor.rules.Contains error) :
    StaysLocal queue id error w (w.take (.monitor run)) := by
  have removed : (w.registry.removeConsumer queue id).consumersOf queue =
      (w.registry.consumersOf queue).erase id :=
    (w.registry.consumersOf_removeConsumer queue queue id).trans (if_pos rfl)
  obtain ⟨registry, consumers, otherwise⟩ | ⟨missing, registry, told⟩ :=
    hears.contains running contains
  · have confined : w.registry.ConfinedTo queue (w.take (.monitor run)).registry :=
      registry ▸ w.registry.removeConsumer_confined queue id
    refine ⟨confined, confined.blocked, fun _ => ⟨?_, ?_, consumers⟩, fun missing shown => ?_,
      fun missing known shown => absurd shown (otherwise missing known).not_ge⟩
    · rw [registry, removed]
    · rw [registry]
      rfl
    · -- The queue is not registered, so it has no consumer left.
      have unserved : w.registry.consumersOf queue = [] := by
        by_contra served
        exact (otherwise missing (consistent.served running queue served)).not_ge shown
      rw [registry, consumers, removed, unserved]
      exact ⟨rfl, fun other => (if_neg List.not_mem_nil).symm⟩
  · have confined : w.registry.ConfinedTo queue (w.take (.monitor run)).registry := by
      rw [registry]
      exact ((w.registry.removeConsumer_confined queue id).trans
        (Registry.awaiting_confined _ queue _)).trans (Registry.dropConsumers_confined _ queue)
    refine ⟨confined, confined.blocked, fun other => absurd missing other,
      fun _ _ => ⟨?_, told⟩, fun _ known _ => ?_⟩
    · rw [registry, Registry.consumersOf_dropConsumers, if_pos rfl]
    · rw [registry]
      show (w.registry.supervisor.queues.modify queue _).get? queue = _
      have tracked := (consistent.tracked running queue).mpr known
      obtain ⟨kept, found⟩ : ∃ kept, w.registry.supervisor.queues.get? queue = some kept :=
        Option.ne_none_iff_exists'.mp fun none => tracked (congrArg (Option.map _) none)
      rw [Table.get?_modify_self, found]
      rfl

/-- **A local failure stays local.** At the turn at which the monitor of a running container hears of
a failure of one channel, of one consumer, or of a missing queue that is no reason to stop, the other
queues keep their consumers and their states, and restarts are blocked as before. Either that consumer
alone is taken off its queue; or the queue is missing, loses its consumers, and is looked for one
interval later, if the clock can show that. -/
theorem local_failure_stays (plan : Plan) (client : Client) (moves : List Move) {run id : Nat}
    {queue : String} {error : ClientError}
    (hears : ((World.new plan client).followAll moves).Hears run (.failed id queue error))
    (running : ((World.new plan client).followAll moves).registry.state = .running)
    (contains :
      ((World.new plan client).followAll moves).registry.supervisor.rules.Contains error) :
    StaysLocal queue id error ((World.new plan client).followAll moves)
      ((World.new plan client).followAll (moves ++ [.turn (.monitor run)])) := by
  have standing := (new_standing plan client).followAll (new_sound plan client) moves
  rw [followAll_append]
  exact hears.staysLocal (standing.sound.consistent standing.kempt) running contains

/-- Two queues with two consumers each. -/
def pairedQueues : Plan := { settings := { queues := ["orders", "audit"], bounds := .exactly 2 } }

/-- The first queue is missing: its other consumer is told to stop, and the second queue keeps both
consumers. -/
theorem local_failure_stays_missing :
    let w' := (World.new pairedQueues {}).followAll (missed ++ [.turn (.monitor 0)])
    w'.registry.consumersOf "orders" = [] ∧ w'.registry.consumersOf "audit" = [3, 4] ∧
      w'.registry.supervisor.queues.get? "orders" =
        some ⟨.missing, some (Instant.ofMillis 5000)⟩ ∧
      (w'.consumers.get? 2).map (·.stopRequested) = some true := by
  have hears : ((World.new pairedQueues {}).followAll missed).Hears 0
      (.failed 1 "orders" (.queueNotFound "orders")) :=
    ⟨⟨.waiting none false, 5000000000, false, [.failed 1 "orders" (.queueNotFound "orders")]⟩, none,
      false, [], by decide +kernel, rfl, rfl, rfl⟩
  have stays := local_failure_stays pairedQueues {} missed hears (by decide +kernel)
    ⟨rfl, fun _ => by decide +kernel⟩
  obtain ⟨unserved, told⟩ := stays.paused rfl (by decide +kernel)
  refine ⟨unserved, ?_, ?_, ?_⟩
  · rw [stays.confined.consumers "audit" (by decide)]
    decide +kernel
  · rw [stays.awaited rfl (by decide +kernel) (by decide +kernel)]
    decide +kernel
  · rw [told 2]
    decide +kernel

end World

end QueueListener
