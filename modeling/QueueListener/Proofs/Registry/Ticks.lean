import QueueListener.Proofs.Registry.Looks
/-!
# What a tick does to a queue

**A look at all queues does to each of them what a look at it alone would do**: it calls for one more
consumer when that look would, and remembers that. The consumer is started unless restarts are blocked;
what is remembered is the call, whether or not it was carried out.

* `Registry.CallsForMore` — a look at a queue calls for one more consumer;
* `Registry.Spares`, `scaleQueue_spares` — a look at another queue;
* `scaleQueue_answers` — a look at the queue itself;
* `scaled_answers` — a look at all queues;
* `tick_starts_iff` — when a tick starts a consumer for a queue.
-/

namespace QueueListener

namespace Registry

variable {r : Registry} {acc acc' acc'' : Registry × Changes} {queue name : String}
  {sample : Nat → Sample} {blocked : Bool} {now : Instant}

/-- Whether a look at a queue calls for one more consumer. -/
def CallsForMore (r : Registry) (sample : Nat → Sample) (now : Instant) (queue : String) : Prop :=
  r.supervisor.state? queue = some .declared ∧
    (r.scaling.evaluate queue r.bounds ((r.consumersOf queue).map sample) now).1 = .startOne

instance (r : Registry) (sample : Nat → Sample) (now : Instant) (queue : String) :
    Decidable (r.CallsForMore sample now queue) :=
  inferInstanceAs (Decidable (_ ∧ _))

/-! ### Other queues -/

/-- What a look at other queues leaves alone of a queue. -/
structure Spares (queue : String) (acc acc' : Registry × Changes) : Prop where
  alike : acc.1.Alike acc'.1
  consumers : acc'.1.consumersOf queue = acc.1.consumersOf queue
  scaling : Scaling.Concurs queue acc.1.scaling acc'.1.scaling
  started : numbersFor queue acc'.2.started = numbersFor queue acc.2.started

namespace Spares

theorem refl (queue : String) (acc : Registry × Changes) : Spares queue acc acc :=
  ⟨.refl _, rfl, ⟨rfl, rfl, rfl⟩, rfl⟩

theorem trans (first : Spares queue acc acc') (second : Spares queue acc' acc'') :
    Spares queue acc acc'' where
  alike := first.alike.trans second.alike
  consumers := second.consumers.trans first.consumers
  scaling := ⟨second.scaling.rules.trans first.scaling.rules,
    second.scaling.started.trans first.scaling.started,
    second.scaling.stopped.trans first.scaling.stopped⟩
  started := second.started.trans first.started

/-- A queue that is left alone calls for more consumers as it did. -/
theorem callsForMore (spares : Spares queue acc acc') :
    acc'.1.CallsForMore sample now queue ↔ acc.1.CallsForMore sample now queue := by
  unfold CallsForMore
  rw [spares.alike.toSteady.state?, spares.alike.bounds, spares.consumers, spares.scaling.evaluate]

end Spares

/-! ### One queue -/

theorem scaleQueue_of_undeclared (undeclared : acc.1.supervisor.state? name ≠ some .declared) :
    scaleQueue sample blocked now acc name = acc := if_neg undeclared

/-- How many consumers a look at a queue starts. -/
def hires (r : Registry) (sample : Nat → Sample) (blocked : Bool) (now : Instant)
    (queue : String) : Nat :=
  if r.CallsForMore sample now queue ∧ blocked = false then 1 else 0

/-- **A look at a queue** starts a consumer if it calls for one and restarts are not blocked, and
otherwise none. -/
theorem scaleQueue_staffs (acc : Registry × Changes) (sample : Nat → Sample) (blocked : Bool)
    (now : Instant) (queue : String) : ∃ stay leave,
      Staffs acc (scaleQueue sample blocked now acc queue) queue stay leave
        (acc.1.hires sample blocked now queue) ∧
      stay.length ≤ (acc.1.consumersOf queue).length := by
  obtain ⟨r, changes⟩ := acc
  unfold scaleQueue
  dsimp only
  by_cases declared : r.supervisor.state? queue = some .declared
  · rw [if_pos declared]
    have calls : r.CallsForMore sample now queue ↔ (r.scaling.evaluate queue r.bounds
        ((r.consumersOf queue).map sample) now).1 = .startOne := and_iff_right declared
    generalize r.scaling.evaluate queue r.bounds ((r.consumersOf queue).map sample) now = answer
      at calls
    obtain ⟨decision, scaling⟩ := answer
    have hires : r.hires sample blocked now queue =
        if decision = .startOne ∧ blocked = false then 1 else 0 :=
      if_congr (and_congr_left' calls) rfl rfl
    have remembered := staffs_remembered r scaling changes queue
    rw [hires]
    cases decision with
    | hold => exact ⟨_, _, remembered, Nat.le_refl _⟩
    | startOne =>
      cases blocked with
      | false => exact ⟨_, _, remembered.trans (launch_staffs 1 queue _), Nat.le_refl _⟩
      | true => exact ⟨_, _, remembered, Nat.le_refl _⟩
    | stopOne id =>
      dsimp only
      split
      next => exact ⟨_, _, staffs_removed r scaling changes queue id, List.length_erase_le⟩
      next => exact ⟨_, _, remembered, Nat.le_refl _⟩
  · rw [if_neg declared, hires, if_neg fun hires => declared hires.1.1]
    exact ⟨_, _, .refl _ _, Nat.le_refl _⟩

/-- What is remembered of a queue does not depend on looks at others. -/
theorem scaleQueue_concurs (other : name ≠ queue) :
    Scaling.Concurs queue acc.1.scaling (scaleQueue sample blocked now acc name).1.scaling := by
  by_cases declared : acc.1.supervisor.state? name = some .declared
  · rw [scaleQueue_scaling declared]
    have same := Scaling.serve_concurs acc.1.scaling (show (Scaling.Call.evaluate name acc.1.bounds
      ((acc.1.consumersOf name).map sample) now).queue ≠ queue from other)
    exact ⟨same.rules.symm, same.started.symm, same.stopped.symm⟩
  · rw [scaleQueue_of_undeclared declared]
    exact ⟨rfl, rfl, rfl⟩

/-- **A look at another queue** leaves a queue alone. -/
theorem scaleQueue_spares (other : name ≠ queue) :
    Spares queue acc (scaleQueue sample blocked now acc name) := by
  obtain ⟨stay, leave, staffs, -⟩ := scaleQueue_staffs acc sample blocked now name
  refine ⟨staffs.alike, staffs.others queue other.symm, scaleQueue_concurs other, ?_⟩
  rw [staffs.started, numbersFor_append, numbersFor_launched, if_neg other.symm, List.append_nil]

/-- When a look at a queue calls for one more consumer, the instant is remembered. -/
theorem scaleQueue_lastStarted (acc : Registry × Changes) (sample : Nat → Sample) (blocked : Bool)
    (now : Instant) (queue : String) :
    (scaleQueue sample blocked now acc queue).1.scaling.lastStarted.get? queue =
      if acc.1.CallsForMore sample now queue then some now
      else acc.1.scaling.lastStarted.get? queue := by
  by_cases declared : acc.1.supervisor.state? queue = some .declared
  · rw [scaleQueue_scaling declared]
    split
    next calls =>
      rw [Scaling.evaluate_of_startOne calls.2]
      exact (Table.get?_set _ _ _ _).trans (if_pos rfl)
    next silent => rw [Scaling.evaluate_silent fun calls => silent ⟨declared, calls⟩]
  · rw [scaleQueue_of_undeclared declared, if_neg fun calls => declared calls.1]

/-! ### All queues -/

/-- What a look at all queues does to one of them. -/
structure Answers (queue : String) (sample : Nat → Sample) (blocked : Bool) (now : Instant)
    (acc acc' : Registry × Changes) : Prop where
  lastStarted : acc'.1.scaling.lastStarted.get? queue =
    if acc.1.CallsForMore sample now queue then some now
    else acc.1.scaling.lastStarted.get? queue
  started : (numbersFor queue acc'.2.started).length =
    (numbersFor queue acc.2.started).length + acc.1.hires sample blocked now queue
  count : (acc'.1.consumersOf queue).length ≤
    (acc.1.consumersOf queue).length + acc.1.hires sample blocked now queue

theorem scaleQueue_answers (acc : Registry × Changes) (sample : Nat → Sample) (blocked : Bool)
    (now : Instant) (queue : String) :
    Answers queue sample blocked now acc (scaleQueue sample blocked now acc queue) := by
  obtain ⟨stay, leave, staffs, remain⟩ := scaleQueue_staffs acc sample blocked now queue
  refine ⟨scaleQueue_lastStarted acc sample blocked now queue, ?_, ?_⟩
  · rw [staffs.started, numbersFor_append, numbersFor_launched, if_pos rfl, List.length_append,
      upcoming, List.length_range']
  · rw [staffs.here, List.length_append, upcoming, List.length_range']
    exact Nat.add_le_add_right remain _

theorem foldl_spares {queues : List String} (absent : queue ∉ queues) (acc : Registry × Changes) :
    Spares queue acc (queues.foldl (scaleQueue sample blocked now) acc) := by
  induction queues generalizing acc with
  | nil => exact .refl queue acc
  | cons name queues ih =>
    rw [List.mem_cons, not_or] at absent
    exact (scaleQueue_spares (Ne.symm absent.1)).trans (ih absent.2 _)

/-- After a look at other queues. -/
theorem Answers.since (answers : Answers queue sample blocked now acc' acc'')
    (first : Spares queue acc acc') : Answers queue sample blocked now acc acc'' := by
  have calls : acc'.1.CallsForMore sample now queue ↔ acc.1.CallsForMore sample now queue :=
    first.callsForMore
  have hires : acc'.1.hires sample blocked now queue = acc.1.hires sample blocked now queue :=
    if_congr (and_congr_left' calls) rfl rfl
  refine ⟨?_, ?_, ?_⟩
  · rw [answers.lastStarted, first.scaling.started]
    exact if_congr calls rfl rfl
  · rw [answers.started, first.started, hires]
  · rw [← first.consumers, ← hires]
    exact answers.count

/-- Before a look at other queues. -/
theorem Answers.until (answers : Answers queue sample blocked now acc acc')
    (last : Spares queue acc' acc'') : Answers queue sample blocked now acc acc'' := by
  refine ⟨?_, ?_, ?_⟩
  · rw [last.scaling.started, answers.lastStarted]
  · rw [last.started, answers.started]
  · rw [last.consumers]
    exact answers.count

/-- **A look at distinct queues** does to one of them what a look at it alone would do. -/
theorem foldl_answers {queues : List String} (member : queue ∈ queues) (distinct : queues.Nodup)
    (acc : Registry × Changes) :
    Answers queue sample blocked now acc (queues.foldl (scaleQueue sample blocked now) acc) := by
  induction queues generalizing acc with
  | nil => cases member
  | cons name queues ih =>
    obtain ⟨fresh, distinct⟩ := List.nodup_cons.mp distinct
    by_cases here : name = queue
    · subst here
      exact (scaleQueue_answers acc sample blocked now name).until (foldl_spares fresh _)
    · have later : queue ∈ queues := (List.mem_cons.mp member).resolve_left (Ne.symm here)
      exact (ih later distinct _).since (scaleQueue_spares here)

theorem scaled_answers (member : queue ∈ r.queues) (distinct : r.queues.Nodup)
    (sample : Nat → Sample) (now : Instant) :
    Answers queue sample (r.supervisor.restartsBlocked now) now (r, {}) (r.scaled sample now) :=
  foldl_answers member distinct (r, {})

theorem scaled_rules (r : Registry) (sample : Nat → Sample) (now : Instant) :
    (r.scaled sample now).1.scaling.rules = r.scaling.rules := by
  have steps : ∀ (queues : List String) (acc : Registry × Changes) (blocked : Bool),
      (queues.foldl (scaleQueue sample blocked now) acc).1.scaling.rules = acc.1.scaling.rules := by
    intro queues acc blocked
    induction queues generalizing acc with
    | nil => rfl
    | cons name queues ih =>
      refine (ih _).trans ?_
      by_cases declared : acc.1.supervisor.state? name = some .declared
      · rw [scaleQueue_scaling declared]
        exact Scaling.evaluate_rules
      · rw [scaleQueue_of_undeclared declared]
  exact steps r.queues (r, {}) _

/-- What is remembered after a tick, of the rules and of the starts for the load of a queue. -/
theorem tick_remembers (running : r.state = .running) (distinct : r.queues.Nodup)
    (sample : Nat → Sample) (now : Instant) (queue : String) :
    (r.tick sample now).1.scaling.rules = r.scaling.rules ∧
      (r.tick sample now).1.scaling.lastStarted.get? queue =
        if queue ∈ r.queues ∧ r.CallsForMore sample now queue then some now
        else r.scaling.lastStarted.get? queue := by
  rw [tick_of_running running]
  dsimp only
  rw [converge_scaling]
  refine ⟨scaled_rules r sample now, ?_⟩
  by_cases member : queue ∈ r.queues
  · rw [(scaled_answers member distinct sample now).lastStarted]
    exact if_congr (and_iff_right member).symm rfl rfl
  · rw [if_neg fun calls => member calls.1]
    exact (foldl_spares member (r, {})).scaling.started

/-- **When a tick starts a consumer for a declared queue**, unless restarts are blocked: when the look
calls for one more, and when there are fewer than there must be. -/
theorem tick_starts_iff (running : r.state = .running) (staffed : r.Staffed)
    (free : r.supervisor.restartsBlocked now = false) (member : queue ∈ r.queues)
    (declared : r.supervisor.state? queue = some .declared) (sample : Nat → Sample) :
    numbersFor queue (r.tick sample now).2.started ≠ [] ↔
      r.CallsForMore sample now queue ∨ (r.consumersOf queue).length < r.bounds.least := by
  have answers := scaled_answers member staffed.distinct sample now
  have looks := scaled_looks staffed.distinct sample now
  have scaled := scaled_staffed staffed sample now
  have comes := (converge_exact (looks.alike.state.trans running)
    (Bounds.range_of_faultless scaled.bounds).2 scaled.distinct now).comes queue
  -- what the convergence starts is what is missing after the look
  have missing : openings ((r.scaled sample now).1.supervisor.restartsBlocked now)
      (r.scaled sample now).1 queue =
        r.bounds.least - ((r.scaled sample now).1.consumersOf queue).length := by
    unfold openings
    rw [looks.alike.supervisor, free, Supervisor.isConsumable_of_state? declared, looks.alike.bounds]
    rfl
  rw [looks.alike.queues, if_pos member, missing] at comes
  rw [tick_of_running running, numbersFor_append, ← List.length_pos_iff, List.length_append, comes,
    answers.started]
  have least := (looks.counts queue).least
  have count := answers.count
  dsimp only at least count ⊢
  by_cases calls : r.CallsForMore sample now queue
  · have one : r.hires sample (r.supervisor.restartsBlocked now) now queue = 1 :=
      if_pos ⟨calls, free⟩
    rw [one]
    exact iff_of_true (by omega) (.inl calls)
  · have none : r.hires sample (r.supervisor.restartsBlocked now) now queue = 0 :=
      if_neg fun hires => calls hires.1
    have nobody : (numbersFor queue []).length = 0 := rfl
    rw [none] at count ⊢
    rw [or_iff_right calls, nobody]
    omega

end Registry

end QueueListener
