import QueueListener.Proofs.Broker.Conservation
import QueueListener.Proofs.Broker.Registration
/-!
# Coherence of the broker

**In every run of the broker its records agree with each other, and the deliveries of every channel
are numbered 1, 2, 3, and so on.**

* `Coherent` — what the records of a broker say together;
* `step_coherent` — every operation, refused or not, keeps it;
* `deliveries` — everything that a run delivers, each delivery with its channel: what `get` returns,
  and what the notices bring to the consumers;
* `run_coherent` — the statement for all runs.
-/

namespace QueueListener.Broker

/-- The records of the broker agree with each other. -/
structure Coherent (b : Broker) : Prop where
  tidy : b.Tidy
  registered : b.Registered
  serving : b.Serving
  linked : b.Linked
  sound : ∀ channel record, b.channels.get? channel = some record → record.Sound

/-- The broker at the start is coherent. -/
theorem coherent_empty : Coherent {} := by
  refine ⟨tidy_empty, ⟨List.nodup_nil, ?_, ?_⟩, ?_, ?_, ?_⟩
  · intro queue record tag found
    cases found
  · intro tag consumer found
    cases found
  · intro tag consumer found
    cases found
  · intro channel record found
    cases found
  · intro channel record found
    cases found

section Steps

variable {losing : Nat → Prop} {b b' : Broker} {log : List Pushing}

theorem Course.registered (course : Course losing b log b') (registered : b.Registered) :
    b'.Registered := by
  induction course with
  | refl => exact registered
  | step _ change ih => exact change.registered ih

theorem Course.serving (course : Course losing b log b') (serving : b.Serving) : b'.Serving := by
  induction course with
  | refl => exact serving
  | step _ change ih => exact change.serving ih

theorem Course.sound (course : Course losing b log b')
    (sound : ∀ channel record, b.channels.get? channel = some record → record.Sound) :
    ∀ channel record, b'.channels.get? channel = some record → record.Sound := by
  induction course with
  | refl => exact sound
  | step _ change ih => exact fun channel => (change.follows channel).sound (ih channel)

theorem Opening.sound {taken : List (Nat × Delivery)} (opening : Opening b taken b')
    (tidy : b.Tidy)
    (sound : ∀ channel record, b.channels.get? channel = some record → record.Sound) :
    ∀ channel record, b'.channels.get? channel = some record → record.Sound := by
  intro channel record found
  rcases opening.follows tidy channel with begins | follows
  · obtain ⟨new, made, new_sound, -⟩ := begins.made
    obtain rfl := Option.some.inj (found.symm.trans made)
    exact new_sound
  · exact follows.sound (sound channel) record found

/-- The operations that close connections are two. -/
theorem Op.loses_cases (op : Op) :
    (∃ connection, op = .closeConnection connection) ∨ op = .dropConnections ∨
      op.Loses = fun _ => False := by
  cases op <;> simp [Op.Loses]

theorem step_linked (coherent : b.Coherent) (op : Op) : (b.step op).2.Linked := by
  rcases op.loses_cases with ⟨connection, rfl⟩ | rfl | harmless
  · exact closeConnection_linked coherent.linked connection none
  · exact dropConnections_linked coherent.linked
  · obtain ⟨b₁, log, unfolding⟩ := step_unfolds b op
    have course := unfolding.course
    rw [harmless] at course
    exact course.linked (unfolding.opening.linked coherent.tidy coherent.linked)

/-- **Every operation, refused or not, leaves a coherent broker.** -/
theorem step_coherent (coherent : b.Coherent) (op : Op) : (b.step op).2.Coherent := by
  obtain ⟨b₁, log, unfolding⟩ := step_unfolds b op
  have opening := unfolding.opening
  have course := unfolding.course
  exact ⟨(step_accounts coherent.tidy op).tidy,
    course.registered (opening.registered coherent.registered),
    course.serving (opening.serving coherent.tidy coherent.serving), step_linked coherent op,
    course.sound (opening.sound coherent.tidy coherent.sound)⟩

end Steps

/-! ### Deliveries -/

/-- The deliveries that an operation pushes to consumers. -/
def news (b : Broker) (op : Op) : List Delivery := (b.step op).2.pushes.drop b.pushes.length

/-- The channel of a consumer that is registered before an operation, or by it. -/
def channelOf? (b : Broker) (op : Op) (consumerTag : String) : Option Nat :=
  ((b.consumers.get? consumerTag).or ((b.step op).2.consumers.get? consumerTag)).map (·.channel)

/-- The deliveries that an operation pushes, each with the channel of its consumer. -/
def pushed (b : Broker) (op : Op) : List (Nat × Delivery) :=
  (b.news op).filterMap fun delivery => (b.channelOf? op delivery.consumerTag).map (·, delivery)

/-- Everything that a run delivers, each delivery with its channel. -/
def deliveries (b : Broker) : List Op → List (Nat × Delivery)
  | [] => []
  | op :: rest => b.taken op ++ b.pushed op ++ (b.step op).2.deliveries rest

namespace Unfolding

variable {b b₁ : Broker} {op : Op} {log : List Pushing}

/-- An operation pushes what the log of its course says. -/
theorem news (unfolding : Unfolding b op b₁ log) : b.news op = log.map (·.delivery) := by
  rw [Broker.news, unfolding.course.pushes, unfolding.opening.pushes, List.drop_left]

/-- Every push of an operation is on the channel of its consumer. -/
theorem pushed (unfolding : Unfolding b op b₁ log) : b.pushed op = log.map Pushing.addressed := by
  rw [Broker.pushed, unfolding.news, List.filterMap_map]
  refine (List.filterMap_congr fun pushing member => ?_).trans
    (congrFun (List.filterMap_eq_map (f := Pushing.addressed)) log)
  obtain ⟨registered, -⟩ := unfolding.course.pushed member
  -- A tag that the operation registers was not in use before, so both lookups agree.
  have found : (b.consumers.get? pushing.delivery.consumerTag).or
      ((b.step op).2.consumers.get? pushing.delivery.consumerTag) = some pushing.consumer := by
    rcases unfolding.known _ _ registered with before | ⟨new, after⟩
    · rw [before, Option.some_or]
    · rw [new, Option.none_or, after]
  show (b.channelOf? op pushing.delivery.consumerTag).map (·, pushing.delivery) = _
  rw [channelOf?, found]
  rfl

/-- **An operation gives the next tags on every channel.** -/
theorem numbered (unfolding : Unfolding b op b₁ log) (tidy : b.Tidy) (channel : Nat) :
    Numbered channel b (numbersOn channel (b.taken op ++ b.pushed op)) (b.step op).2 := by
  rw [numbersOn_append, unfolding.pushed]
  exact (unfolding.opening.numbered tidy channel).trans (unfolding.course.numbered channel)

end Unfolding

/-! ### All runs -/

theorem run_coherence {b : Broker} (coherent : b.Coherent) (ops : List Op) :
    (b.run ops).Coherent ∧
      ∀ channel, Numbered channel b (numbersOn channel (b.deliveries ops)) (b.run ops) := by
  induction ops generalizing b with
  | nil => exact ⟨coherent, fun _ => .refl b⟩
  | cons op rest ih =>
    obtain ⟨b₁, log, unfolding⟩ := step_unfolds b op
    obtain ⟨after, numbered⟩ := ih (step_coherent coherent op)
    refine ⟨after, fun channel => ?_⟩
    rw [deliveries, numbersOn_append]
    exact (unfolding.numbered coherent.tidy channel).trans (numbered channel)

/-- **Coherence of the broker.** After every sequence of operations, successful or not, the table of
consumers and the lists of the queues belong to each other one to one, the channel of every
registered consumer and the connection of every open channel are open, and the books of every
channel are sound. The tags of the deliveries on a channel are 1, 2, 3, and so on up to its last
tag; and every delivery that an operation pushes is on some channel. -/
theorem run_coherent (ops : List Op) :
    (run {} ops).Coherent ∧
      (∀ channel, numbersOn channel (deliveries {} ops) =
        List.range' 1 ((run {} ops).lastTagOf channel)) ∧
      ∀ before op after, ops = before ++ op :: after →
        ((run {} before).pushed op).map (·.2) = (run {} before).news op := by
  obtain ⟨coherent, numbered⟩ := run_coherence coherent_empty ops
  refine ⟨coherent, fun channel => ?_, fun before op after _ => ?_⟩
  · obtain ⟨next, lastTag⟩ := numbered channel
    have none : Broker.lastTagOf {} channel = 0 := rfl
    rw [none, Nat.zero_add] at next lastTag
    rw [lastTag]
    exact next
  · obtain ⟨b₁, log, unfolding⟩ := step_unfolds (run {} before) op
    rw [unfolding.pushed, unfolding.news, List.map_map]
    rfl

/-- Two messages on one channel. -/
example : numbersOn 2 (deliveries {} [.declare "q", .connect, .createChannel 1 false,
    .publish "q" ByteArray.empty {}, .consume 2 "q" "c" false 7, .publish "q" ByteArray.empty {}]) =
    [1, 2] := rfl

end QueueListener.Broker
