import QueueListener.Proofs.Registry.Staffing
import QueueListener.Proofs.Scaling.History
/-!
# How a look at all queues scales them

**A look at all queues moves no queue by more than one consumer, and none across a bound.** So the
convergence that follows in the same tick has nothing to take back: a queue that was within the
bounds is within them after the look.

* `Scaling.evaluate_startOne`, `Scaling.evaluate_stopOne` — what the decisions presuppose;
* `Registry.Nudges` — how far one look moves a queue;
* `Registry.scaled`, `Registry.scaled_looks` — the look that a tick begins with;
* `Registry.tick_of_running` — a tick is a look and a convergence.
-/

namespace QueueListener

/-! ### Decisions -/

namespace Scaling

variable {s : Scaling} {queue : String} {bounds : Bounds} {samples : List Sample} {now : Instant}

/-- One more consumer is called for only below the upper bound. -/
theorem evaluate_startOne (decided : (s.evaluate queue bounds samples now).1 = .startOne) :
    samples.length < bounds.most := by
  obtain ⟨-, wants⟩ := evaluate_eq_startOne_iff.mp decided
  exact (wantsMore_iff.mp wants).1

/-- One consumer less is called for only above the lower bound. -/
theorem evaluate_stopOne {id : Nat}
    (decided : (s.evaluate queue bounds samples now).1 = .stopOne id) :
    bounds.least < samples.length := by
  obtain ⟨-, allows, -⟩ := evaluate_eq_stopOne_iff.mp decided
  exact (allowsFewer_iff.mp allows).1

end Scaling

namespace Registry

variable {r r' : Registry} {acc acc' acc'' : Registry × Changes} {queue : String}

/-! ### One queue -/

/-- How far one look moves the number of consumers of a queue: by at most one, and across no
bound. -/
structure Nudges (bounds : Bounds) (before after : Nat) : Prop where
  up : after ≤ before + 1
  down : before ≤ after + 1
  most : after ≤ max before bounds.most
  least : min before bounds.least ≤ after

theorem Nudges.refl (bounds : Bounds) (count : Nat) : Nudges bounds count count :=
  ⟨Nat.le_succ _, Nat.le_succ _, Nat.le_max_left _ _, Nat.min_le_left _ _⟩

/-- What a look does to queues: it moves those that are declared, and leaves all others alone. -/
structure Looks (queues : List String) (r r' : Registry) : Prop where
  alike : r.Alike r'
  counts : ∀ queue, Nudges r.bounds (r.consumersOf queue).length (r'.consumersOf queue).length
  others : ∀ queue, queue ∉ queues ∨ r.supervisor.state? queue ≠ some .declared →
    r'.consumersOf queue = r.consumersOf queue

/-- A change of one declared queue that moves it by one consumer. -/
theorem Looks.ofStaffs {stay leave : List Nat} {count : Nat}
    (staffs : Staffs acc acc' queue stay leave count)
    (declared : acc.1.supervisor.state? queue = some .declared)
    (nudges : Nudges acc.1.bounds (acc.1.consumersOf queue).length (stay.length + count)) :
    Looks [queue] acc.1 acc'.1 where
  alike := staffs.alike
  counts other := by
    by_cases here : other = queue
    · rw [here, staffs.here, List.length_append, upcoming, List.length_range']
      exact nudges
    · rw [staffs.others other here]
      exact .refl _ _
  others other elsewhere := by
    refine staffs.others other fun here => ?_
    obtain absent | undeclared := elsewhere
    · exact absent (here ▸ List.mem_singleton_self _)
    · exact undeclared (here ▸ declared)

/-- What the scaling remembers concerns no queue. -/
theorem staffs_remembered (r : Registry) (scaling : Scaling) (changes : Changes) (queue : String) :
    Staffs (r, changes) ({ r with scaling }, changes) queue (r.consumersOf queue) [] 0 where
  alike := ⟨⟨rfl, rfl, rfl, rfl, rfl⟩, rfl⟩
  last := rfl
  here := (List.append_nil _).symm
  others _ _ := rfl
  started := (List.append_nil _).symm
  retired := (List.append_nil _).symm

/-- One consumer is retired. -/
theorem staffs_removed (r : Registry) (scaling : Scaling) (changes : Changes) (queue : String)
    (id : Nat) : Staffs (r, changes) (({ r with scaling } : Registry).removeConsumer queue id,
      { changes with retired := changes.retired ++ [id] }) queue
      ((r.consumersOf queue).erase id) [id] 0 where
  alike := ⟨⟨rfl, rfl, rfl, rfl, rfl⟩, rfl⟩
  last := rfl
  here := ((consumersOf_removeConsumer _ queue queue id).trans (if_pos rfl)).trans
    (List.append_nil _).symm
  others other differ := (consumersOf_removeConsumer _ queue other id).trans (if_neg differ)
  started := (List.append_nil _).symm
  retired := rfl

/-- **A look at one queue** starts or retires at most one of its consumers. -/
theorem scaleQueue_looks (sample : Nat → Sample) (blocked : Bool) (now : Instant)
    (acc : Registry × Changes) (queue : String) :
    Looks [queue] acc.1 (scaleQueue sample blocked now acc queue).1 := by
  obtain ⟨r, changes⟩ := acc
  unfold scaleQueue
  dsimp only
  by_cases declared : r.supervisor.state? queue = some .declared
  · rw [if_pos declared]
    generalize looked : r.scaling.evaluate queue r.bounds ((r.consumersOf queue).map sample) now =
      answer
    obtain ⟨decision, scaling⟩ := answer
    have remembered := staffs_remembered r scaling changes queue
    have holds : Looks [queue] r { r with scaling } :=
      .ofStaffs remembered declared (.refl _ _)
    cases decision with
    | hold => exact holds
    | startOne =>
      dsimp only
      have room := Scaling.evaluate_startOne (congrArg Prod.fst looked)
      rw [List.length_map] at room
      cases blocked with
      | true => exact holds
      | false =>
        refine .ofStaffs (remembered.trans (launch_staffs 1 queue _)) declared ?_
        dsimp only
        exact ⟨Nat.le_refl _, by omega, by omega, by omega⟩
    | stopOne id =>
      have spare := Scaling.evaluate_stopOne (congrArg Prod.fst looked)
      rw [List.length_map] at spare
      dsimp only
      split
      next contained =>
        have serves : id ∈ r.consumersOf queue := List.contains_iff_mem.mp contained
        refine .ofStaffs (staffs_removed r scaling changes queue id) declared ?_
        dsimp only
        rw [List.length_erase_of_mem serves]
        exact ⟨by omega, by omega, by omega, by omega⟩
      next => exact holds
  · rw [if_neg declared]
    exact ⟨.refl r, fun _ => .refl _ _, fun _ _ => rfl⟩

/-! ### All queues -/

/-- One queue first, and then others. -/
theorem Looks.cons {queues : List String} {r'' : Registry} (first : Looks [queue] r r')
    (fresh : queue ∉ queues) (rest : Looks queues r' r'') : Looks (queue :: queues) r r'' where
  alike := first.alike.trans rest.alike
  counts other := by
    by_cases here : other = queue
    · rw [rest.others other (.inl (here ▸ fresh))]
      exact first.counts other
    · rw [← first.others other (.inl fun member => here (List.mem_singleton.mp member)),
        ← first.alike.bounds]
      exact rest.counts other
  others other elsewhere := by
    have later := rest.others other (elsewhere.imp (fun absent member =>
      absent (List.mem_cons_of_mem _ member)) fun undeclared =>
        (first.alike.toSteady.state? other).symm ▸ undeclared)
    exact later.trans (first.others other (elsewhere.imp (fun absent member =>
      absent (List.mem_cons.mpr (.inl (List.mem_singleton.mp member)))) id))

theorem foldl_looks (sample : Nat → Sample) (blocked : Bool) (now : Instant)
    {queues : List String} (distinct : queues.Nodup) (acc : Registry × Changes) :
    Looks queues acc.1 (queues.foldl (scaleQueue sample blocked now) acc).1 := by
  induction queues generalizing acc with
  | nil => exact ⟨.refl _, fun _ => .refl _ _, fun _ _ => rfl⟩
  | cons queue queues ih =>
    obtain ⟨fresh, distinct⟩ := List.nodup_cons.mp distinct
    exact .cons (scaleQueue_looks sample blocked now acc queue) fresh (ih distinct _)

/-- The look at all queues with which a tick begins. -/
def scaled (r : Registry) (sample : Nat → Sample) (now : Instant) : Registry × Changes :=
  r.queues.foldl (scaleQueue sample (r.supervisor.restartsBlocked now) now) (r, {})

/-- **A look at all queues** moves no queue by more than one consumer, and none across a bound. -/
theorem scaled_looks (distinct : r.queues.Nodup) (sample : Nat → Sample) (now : Instant) :
    Looks r.queues r (r.scaled sample now).1 :=
  foldl_looks sample _ now distinct (r, {})

/-- A tick is a look at all queues, and then a convergence. -/
theorem tick_of_running (running : r.state = .running) (sample : Nat → Sample) (now : Instant) :
    r.tick sample now = (((r.scaled sample now).1.converge now).1,
      ⟨(r.scaled sample now).2.started ++ ((r.scaled sample now).1.converge now).2.started,
        (r.scaled sample now).2.retired ++ ((r.scaled sample now).1.converge now).2.retired⟩) :=
  if_pos running

end Registry

end QueueListener
