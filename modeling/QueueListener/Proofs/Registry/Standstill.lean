import QueueListener.Proofs.Recovery.Rounds
import QueueListener.Proofs.Registry.Scaling
/-!
# A registry at a standstill

**While restarts are blocked a registry starts nobody**: neither the look at all queues nor the
convergence gives a number away, and no queue gets a consumer that it did not have. Retiring goes on
meanwhile. A convergence at which the attempt of a round is due settles the round: it is under way
if somebody was started, and given up if nobody was missing.

* `StartsNone` — no consumer joins;
* `converge_startsNone`, `scaled_startsNone`, `tick_startsNone` — what starts nobody while restarts
  are blocked;
* `Settles`, `converge_settles` — what a convergence makes of a round whose attempt is due.
-/

namespace QueueListener.Registry

/-- No consumer joins: no number is given away, and no queue has a consumer that it did not have. -/
structure StartsNone (r r' : Registry) : Prop where
  last : r'.lastConsumer = r.lastConsumer
  consumers : ∀ queue, r'.consumersOf queue ⊆ r.consumersOf queue

variable {r r' r'' : Registry} {now : Instant}

namespace StartsNone

theorem refl (r : Registry) : r.StartsNone r := ⟨rfl, fun _ => List.Subset.refl _⟩

theorem trans (first : r.StartsNone r') (second : r'.StartsNone r'') : r.StartsNone r'' where
  last := second.last.trans first.last
  consumers queue := List.Subset.trans (second.consumers queue) (first.consumers queue)

/-- Nobody joins where the consumers stay the same. -/
theorem of_consumers (last : r'.lastConsumer = r.lastConsumer)
    (consumers : r'.consumers = r.consumers) : r.StartsNone r' where
  last := last
  consumers queue := by
    unfold consumersOf
    rw [consumers]
    exact List.Subset.refl _

end StartsNone

/-! ### Consumers that leave -/

theorem removeConsumer_startsNone (r : Registry) (queue : String) (id : Nat) :
    r.StartsNone (r.removeConsumer queue id) where
  last := rfl
  consumers other := by
    rw [consumersOf_removeConsumer]
    by_cases same : other = queue
    · subst same
      rw [if_pos rfl]
      exact List.erase_subset
    · rw [if_neg same]
      exact List.Subset.refl _

theorem dropConsumers_startsNone (r : Registry) (queue : String) :
    r.StartsNone (r.dropConsumers queue) where
  last := rfl
  consumers other := by
    rw [consumersOf_dropConsumers]
    by_cases same : other = queue
    · rw [if_pos same]
      exact List.nil_subset _
    · rw [if_neg same]
      exact List.Subset.refl _

/-- A failed consumer leaves its queue, and nobody takes its place. -/
theorem consumerFailed_startsNone (r : Registry) (queue : String) (id : Nat) (error : ClientError)
    (now : Instant) : r.StartsNone (r.consumerFailed queue id error now).2 := by
  have removed := removeConsumer_startsNone r queue id
  unfold consumerFailed
  dsimp only
  split
  next => exact removed.trans (.of_consumers rfl rfl)
  next => exact removed

theorem remove_startsNone (r : Registry) (names : List String) :
    r.StartsNone (r.remove names).1 := by
  have steps : ∀ acc : Registry × List String × List Nat,
      acc.1.StartsNone (names.foldl removeQueue acc).1 := by
    induction names with
    | nil => exact fun acc => .refl acc.1
    | cons name names ih =>
      intro acc
      have one : acc.1.StartsNone (removeQueue acc name).1 := by
        unfold removeQueue
        dsimp only
        split
        next => exact (dropConsumers_startsNone acc.1 name).trans (.of_consumers rfl rfl)
        next => exact .refl acc.1
      exact one.trans (ih _)
  exact steps (r, [], [])

theorem beginStop_startsNone {ids : List Nat} (begun : r.beginStop = some (ids, r')) :
    r.StartsNone r' := by
  unfold beginStop at begun
  split at begun
  next =>
    cases begun
    exact ⟨rfl, fun queue => List.nil_subset _⟩
  next => cases begun

/-! ### Looks and convergences while restarts are blocked -/

/-- A look at one queue remembers a start that is blocked, and starts nobody. -/
theorem scaleQueue_startsNone (sample : Nat → Sample) (now : Instant) (acc : Registry × Changes)
    (queue : String) : acc.1.StartsNone (scaleQueue sample true now acc queue).1 ∧
      (scaleQueue sample true now acc queue).2.started = acc.2.started := by
  obtain ⟨r, changes⟩ := acc
  unfold scaleQueue
  dsimp only
  split
  next =>
    generalize r.scaling.evaluate queue r.bounds _ now = answer
    obtain ⟨decision, scaling⟩ := answer
    cases decision with
    | hold => exact ⟨.of_consumers rfl rfl, rfl⟩
    | startOne => exact ⟨.of_consumers rfl rfl, rfl⟩
    | stopOne id =>
      dsimp only
      split
      next =>
        have remembered : r.StartsNone { r with scaling } := .of_consumers rfl rfl
        exact ⟨remembered.trans (removeConsumer_startsNone _ queue id), rfl⟩
      next => exact ⟨.of_consumers rfl rfl, rfl⟩
  next => exact ⟨.refl r, rfl⟩

/-- **A look at all queues starts nobody while restarts are blocked.** -/
theorem scaled_startsNone (sample : Nat → Sample)
    (blocked : r.supervisor.restartsBlocked now = true) :
    r.StartsNone (r.scaled sample now).1 ∧ (r.scaled sample now).2.started = [] := by
  have steps : ∀ (queues : List String) (acc : Registry × Changes), acc.2.started = [] →
      acc.1.StartsNone (queues.foldl (scaleQueue sample true now) acc).1 ∧
        (queues.foldl (scaleQueue sample true now) acc).2.started = [] := by
    intro queues
    induction queues with
    | nil => exact fun acc quiet => ⟨.refl acc.1, quiet⟩
    | cons queue queues ih =>
      intro acc quiet
      obtain ⟨one, same⟩ := scaleQueue_startsNone sample now acc queue
      obtain ⟨rest, quiet'⟩ := ih _ (same.trans quiet)
      exact ⟨one.trans rest, quiet'⟩
  unfold scaled
  rw [blocked]
  exact steps r.queues (r, {}) rfl

/-- Those who stay were there before. -/
theorem kept_subset (r : Registry) (queue : String) : r.kept queue ⊆ r.consumersOf queue := by
  intro id stays
  by_cases consumable : r.supervisor.isConsumable queue = true
  · have all := (excess_kept consumable).1
    exact all.mem_iff.mp (List.mem_append_right _ stays)
  · rw [kept_of_not_consumable (eq_false_of_ne_true consumable)] at stays
    exact stays

section Converge

variable (running : r.state = .running) (range : r.bounds.least ≤ r.bounds.most)
  (distinct : r.queues.Nodup)

include running range distinct

/-- **A convergence starts nobody while restarts are blocked.** -/
theorem converge_startsNone (blocked : r.supervisor.restartsBlocked now = true) :
    r.StartsNone (r.converge now).1 := by
  have nobody := r.converge_of_blocked blocked
  refine ⟨?_, fun queue => ?_⟩
  · obtain ⟨new, walk, settled⟩ := converge_walks running range distinct now
    have none : new = [] := walk.started.symm.trans nobody
    have last : (r.walked now).1.lastConsumer = r.lastConsumer := by
      simpa [none] using walk.last
    obtain same | ⟨-, launched, same⟩ := settled
    · rw [same]
      exact last
    · rw [same]
      exact last
  · have exact := converge_exact running range distinct now
    rw [exact.consumers, nobody]
    intro id member
    have member' : id ∈ if queue ∈ r.queues then r.kept queue else r.consumersOf queue := by
      simpa [numbersFor] using member
    by_cases registered : queue ∈ r.queues
    · rw [if_pos registered] at member'
      exact kept_subset r queue member'
    · rw [if_neg registered] at member'
      exact member'

/-- **A tick starts nobody while restarts are blocked.** -/
theorem tick_startsNone (sample : Nat → Sample)
    (blocked : r.supervisor.restartsBlocked now = true) :
    r.StartsNone (r.tick sample now).1 ∧ (r.tick sample now).2.started = [] := by
  obtain ⟨looked, quiet⟩ := scaled_startsNone sample blocked
  have alike := (scaled_looks distinct sample now).alike
  have blocked' : (r.scaled sample now).1.supervisor.restartsBlocked now = true := by
    rw [alike.supervisor]
    exact blocked
  rw [tick_of_running running]
  refine ⟨looked.trans ?_, ?_⟩
  · refine converge_startsNone (alike.state.trans running) ?_ ?_ blocked'
    · rw [alike.bounds]
      exact range
    · rw [alike.queues]
      exact distinct
  · show (r.scaled sample now).2.started ++ _ = []
    rw [quiet, (r.scaled sample now).1.converge_of_blocked blocked']
    rfl

end Converge

/-! ### A round whose attempt is due -/

/-- A queue that can be consumed has fewer consumers than the lower bound. -/
def Lacks (r : Registry) (queue : String) : Prop :=
  queue ∈ r.queues ∧ r.supervisor.isConsumable queue = true ∧
    (r.consumersOf queue).length < r.bounds.least

/-- What a convergence makes of a round whose attempt is due: it starts consumers that are missing,
and then the attempt is under way; or it starts none, and the round is over. -/
def Settles (r : Registry) (now : Instant) : Prop :=
  ((r.converge now).2.started ≠ [] ∧ (∀ consumer ∈ (r.converge now).2.started, r.Lacks consumer.2) ∧
      ∃ round, r.supervisor.round = some round ∧
        (r.converge now).1.supervisor.round = some { round with inFlight := true }) ∨
    ((r.converge now).2.started = [] ∧ (r.converge now).1.supervisor.round = none)

/-- A convergence starts only consumers that are missing. -/
theorem lacks_of_started (running : r.state = .running) (range : r.bounds.least ≤ r.bounds.most)
    (distinct : r.queues.Nodup) {consumer : Nat × String}
    (started : consumer ∈ (r.converge now).2.started) : r.Lacks consumer.2 := by
  have place : consumer.2 ∈ (r.converge now).2.started.map (·.2) :=
    List.mem_map_of_mem started
  rw [(converge_exact running range distinct now).started, List.mem_flatMap] at place
  obtain ⟨queue, member, opening⟩ := place
  obtain ⟨opens, same⟩ := List.mem_replicate.mp opening
  rw [same]
  unfold openings at opens
  split at opens
  next free =>
    rw [Bool.and_eq_true] at free
    refine ⟨member, free.1, ?_⟩
    unfold Bounds.deficit at opens
    omega
  next => exact absurd rfl opens

/-- **A convergence settles the round whose attempt is due.** -/
theorem converge_settles (running : r.state = .running) (range : r.bounds.least ≤ r.bounds.most)
    (distinct : r.queues.Nodup) (due : r.supervisor.attemptDue now = true) : r.Settles now := by
  obtain ⟨round, found⟩ : ∃ round, r.supervisor.round = some round := by
    unfold Supervisor.attemptDue at due
    split at due
    next round found => exact ⟨round, found⟩
    next => cases due
  obtain ⟨new, walk, -⟩ := converge_walks running range distinct now
  have same := walk.alike.supervisor
  have settled : (r.converge now).1 =
      (r.walked now).1.resolveRound (!(r.converge now).2.started.isEmpty) := by
    unfold converge
    rw [if_pos running, due]
    rfl
  by_cases nobody : (r.converge now).2.started = []
  · right
    refine ⟨nobody, ?_⟩
    rw [settled, nobody]
    rfl
  · left
    refine ⟨nobody, fun consumer => lacks_of_started running range distinct, round, found, ?_⟩
    have launched : (r.converge now).2.started.isEmpty = false := by simpa using nobody
    rw [settled, launched]
    show (r.walked now).1.supervisor.beginAttempt.round = _
    rw [same, Supervisor.beginAttempt, found]
    rfl

end QueueListener.Registry
