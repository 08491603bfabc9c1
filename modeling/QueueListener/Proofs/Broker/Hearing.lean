import QueueListener.Proofs.Broker.Coherence
import QueueListener.Proofs.Broker.Growth
/-!
# What a subscriber hears

**The tags of the deliveries that a subscriber hears of rise**, as long as all its consumers are on
one channel: whatever anybody does at the broker, a channel never gives a tag twice.

* `Rises` — tags in rising order, from above one number up to another;
* `Change.deliveriesFor` — a subscriber hears exactly of the pushes to its consumers;
* `Seat.Hears`, `Seat.Admits` — the consumers of the subscriber are on the channel, and the
  operations that leave it so;
* `Seat.step_rises`, `Seat.run_rises` — an operation, and a run.
-/

namespace QueueListener

/-- The tags rise, from above one number up to another. -/
structure Rises (low : Nat) (tags : List Nat) (high : Nat) : Prop where
  ordered : tags.Pairwise (· < ·)
  above : ∀ tag ∈ tags, low < tag
  below : ∀ tag ∈ tags, tag ≤ high
  grown : low ≤ high

namespace Rises

variable {low middle high : Nat} {tags more : List Nat}

theorem nil (grown : low ≤ high) : Rises low [] high :=
  ⟨List.Pairwise.nil, fun _ member => absurd member List.not_mem_nil,
    fun _ member => absurd member List.not_mem_nil, grown⟩

theorem append (first : Rises low tags middle) (second : Rises middle more high) :
    Rises low (tags ++ more) high where
  ordered := List.pairwise_append.mpr ⟨first.ordered, second.ordered, fun tag early tag' late =>
    lt_of_le_of_lt (first.below tag early) (second.above tag' late)⟩
  above := List.forall_mem_append.mpr ⟨first.above, fun tag late =>
    lt_of_le_of_lt first.grown (second.above tag late)⟩
  below := List.forall_mem_append.mpr ⟨fun tag early =>
    (first.below tag early).trans second.grown, second.below⟩
  grown := first.grown.trans second.grown

theorem sublist (rises : Rises low tags high) (part : more.Sublist tags) : Rises low more high where
  ordered := rises.ordered.sublist part
  above tag member := rises.above tag (part.subset member)
  below tag member := rises.below tag (part.subset member)
  grown := rises.grown

/-- Rising tags are never the same. -/
theorem nodup (rises : Rises low tags high) : tags.Nodup :=
  rises.ordered.imp fun less => Nat.ne_of_lt less

end Rises

namespace Broker

/-- The tags that a channel gives rise. -/
theorem Numbered.rises {channel : Nat} {b b' : Broker} {tags : List Nat}
    (numbered : Numbered channel b tags b') :
    Rises (b.lastTagOf channel) tags (b'.lastTagOf channel) := by
  rw [numbered.lastTag, numbered.next]
  refine ⟨List.pairwise_lt_range', fun tag member => ?_, fun tag member => ?_, ?_⟩
  · have := (List.mem_range'_1.mp member).1
    omega
  · have := (List.mem_range'_1.mp member).2
    rw [List.length_range']
    omega
  · exact Nat.le_add_right _ _

/-! ### What is heard of a change -/

/-- Who hears of the end of its queue hears of no delivery. -/
theorem delete_deliveriesFor (b : Broker) (queue : String) (subscriber : Nat) :
    (b.delete queue).2.deliveriesFor subscriber = b.deliveriesFor subscriber := by
  unfold delete
  split
  next => rfl
  next record _ =>
    refine List.foldlRecOn (motive := fun after : Broker =>
      after.deliveriesFor subscriber = b.deliveriesFor subscriber) record.consumers cancelDeleted rfl
        fun after same tag _ => ?_
    unfold cancelDeleted
    split
    next => exact same
    next =>
      rw [deliveriesFor_notify, List.append_nil]
      exact same

variable {losing : Nat → Prop} {b b' : Broker} {log : List Pushing}

/-- **A subscriber hears exactly of the pushes to its consumers.** -/
theorem Change.deliveriesFor (change : Change losing b log b') (subscriber : Nat) :
    b'.deliveriesFor subscriber = b.deliveriesFor subscriber ++
      (log.filter (·.consumer.subscriber = subscriber)).map (·.delivery) := by
  cases change with
  | @push queue push =>
    have told : push.result.deliveriesFor subscriber = b.deliveriesFor subscriber ++
        if push.consumer.subscriber = subscriber then
          [deliveryOf queue push.consumerTag push.channel push.message] else [] :=
      deliveriesFor_notify b push.consumer.subscriber (.delivered _) subscriber
    rw [told]
    by_cases mine : push.consumer.subscriber = subscriber <;> simp [mine, Push.pushing]
  | turn turned =>
    unfold Broker.deliveriesFor
    rw [turned.notices]
    exact (List.append_nil _).symm
  | @leave consumerTag consumer notice found silent =>
    have same : (b.unregister consumerTag).deliveriesFor subscriber =
        b.deliveriesFor subscriber := by
      unfold unregister
      split <;> rfl
    rw [deliveriesFor_notify, same]
    cases notice with
    | delivered => cases silent
    | cancelled | shutdown | ended => rfl
  | shut channel left => exact (List.append_nil _).symm
  | @drop queue record found =>
    exact (delete_deliveriesFor b queue subscriber).trans (List.append_nil _).symm
  | lose lost => exact (List.append_nil _).symm

theorem Course.deliveriesFor (course : Course losing b log b') (subscriber : Nat) :
    b'.deliveriesFor subscriber = b.deliveriesFor subscriber ++
      (log.filter (·.consumer.subscriber = subscriber)).map (·.delivery) := by
  induction course with
  | refl => exact (List.append_nil _).symm
  | step _ change ih =>
    rw [change.deliveriesFor, ih, List.filter_append, List.map_append, List.append_assoc]

theorem Opening.deliveriesFor {taken : List (Nat × Delivery)} (opening : Opening b taken b')
    (subscriber : Nat) : b'.deliveriesFor subscriber = b.deliveriesFor subscriber := by
  cases opening <;> rfl

end Broker

namespace Seat

open Broker

/-- The consumers of the subscriber are on the channel. -/
def Hears (seat : Seat) (b : Broker) : Prop :=
  ∀ tag consumer, b.consumers.get? tag = some consumer →
    consumer.subscriber = seat.subscriber → consumer.channel = seat.channel

/-- The operations that register no consumer for the subscriber on another channel. -/
def Admits (seat : Seat) : Op → Prop
  | .consume channel _ _ _ subscriber => subscriber = seat.subscriber → channel = seat.channel
  | _ => True

variable {seat : Seat} {b b' : Broker}

/-- An opening registers for the subscriber only what is admitted. -/
theorem unfolding_hears {b₁ : Broker} {op : Op} {log : List Pushing}
    (unfolding : Unfolding b op b₁ log) (hears : seat.Hears b)
    (after : seat.Hears (b.step op).2) : seat.Hears b₁ := by
  intro tag consumer found
  rcases unfolding.known tag consumer found with old | ⟨-, new⟩
  · exact hears tag consumer old
  · exact after tag consumer new

/-- **Every operation that is admitted** leaves the consumers of the subscriber on the channel. -/
theorem step_hears (tidy : b.Tidy) (hears : seat.Hears b) {op : Op} (admitted : seat.Admits op) :
    seat.Hears (b.step op).2 := by
  intro tag consumer found
  rcases (step_accounts tidy op).consumers tag consumer found with old | ⟨-, requested, rfl⟩
  · exact hears tag consumer old
  · exact admitted

/-- **What an operation delivers on the channel rises**: what its caller takes, and then what the
subscriber hears of. -/
theorem step_rises (tidy : b.Tidy) (hears : seat.Hears b) {op : Op} (admitted : seat.Admits op) :
    ∃ new, (b.step op).2.deliveriesFor seat.subscriber =
        b.deliveriesFor seat.subscriber ++ new ∧
      Rises (b.lastTagOf seat.channel)
        (numbersOn seat.channel (b.taken op) ++ new.map (·.tag))
        ((b.step op).2.lastTagOf seat.channel) := by
  obtain ⟨b₁, log, unfolding⟩ := step_unfolds b op
  have after := step_hears tidy hears admitted
  have middle := unfolding_hears unfolding hears after
  refine ⟨(log.filter (·.consumer.subscriber = seat.subscriber)).map (·.delivery), ?_, ?_⟩
  · rw [unfolding.course.deliveriesFor, unfolding.opening.deliveriesFor]
  · have whole := (unfolding.numbered tidy seat.channel).rises
    rw [numbersOn_append, unfolding.pushed] at whole
    refine whole.sublist (List.Sublist.append (List.Sublist.refl _) ?_)
    -- Who is pushed to was registered at the start of the course; so it is on the channel.
    have here : ∀ pushing ∈ log, pushing.consumer.subscriber = seat.subscriber →
        pushing.consumer.channel = seat.channel := fun pushing member =>
      middle _ _ (unfolding.course.pushed member).1
    unfold numbersOn
    rw [List.filter_map, List.map_map, List.map_map]
    have part : log.filter (·.consumer.subscriber = seat.subscriber) =
        (log.filter ((fun entry => decide (entry.1 = seat.channel)) ∘ Pushing.addressed)).filter
          (·.consumer.subscriber = seat.subscriber) := by
      rw [List.filter_filter]
      refine List.filter_congr fun pushing member => ?_
      by_cases mine : pushing.consumer.subscriber = seat.subscriber
      · simp [mine, Pushing.addressed, here pushing member mine]
      · simp [mine]
    rw [part]
    exact List.filter_sublist.map _

/-- **What a run of operations delivers to the subscriber rises.** -/
theorem run_rises (tidy : b.Tidy) (hears : seat.Hears b) {ops : List Op}
    (admitted : ∀ op ∈ ops, seat.Admits op) :
    (b.run ops).Tidy ∧ seat.Hears (b.run ops) ∧
      ∃ new, (b.run ops).deliveriesFor seat.subscriber =
          b.deliveriesFor seat.subscriber ++ new ∧
        Rises (b.lastTagOf seat.channel) (new.map (·.tag)) ((b.run ops).lastTagOf seat.channel) := by
  induction ops generalizing b with
  | nil => exact ⟨tidy, hears, [], (List.append_nil _).symm, .nil le_rfl⟩
  | cons op rest ih =>
    obtain ⟨now, later⟩ := List.forall_mem_cons.mp admitted
    obtain ⟨new, told, rises⟩ := step_rises tidy hears now
    obtain ⟨tidy', hears', more, told', rises'⟩ :=
      ih (step_accounts tidy op).tidy (step_hears tidy hears now) later
    refine ⟨tidy', hears', new ++ more, ?_, ?_⟩
    · rw [← List.append_assoc, ← told]
      exact told'
    · rw [List.map_append]
      exact (rises.sublist (List.sublist_append_right _ _)).append rises'

end Seat

end QueueListener
