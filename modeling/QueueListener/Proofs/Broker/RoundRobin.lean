import QueueListener.Proofs.Broker.Rounds
import QueueListener.Proofs.Broker.Saturation
import QueueListener.Proofs.Broker.Shelves
/-!
# The order of the search

**The turns of a queue go round the list of its consumers.** The search starts at the cursor and the
cursor then stands behind the consumer that was chosen; so whoever was just served is the last one
in the next search, and whoever was passed over with capacity comes closer with every turn.

* `ahead` — how far a place is ahead of the cursor, in the order of the search;
* `Turn.Chosen` — the turn takes the first waiting message and the first consumer with capacity;
* `Rotation` — turns one after the other, each with the cursor that the one before left;
* `Rotation.overtaken` — the step of fairness: who waits with capacity stays before the consumer
  that was served, whoever else is served;
* `Rotation.fair`, `Rotation.cyclic` — nobody is skipped; with capacity everywhere the places follow
  each other.
-/

namespace QueueListener.Broker

/-! ### Places ahead of the cursor -/

/-- How far a place is ahead of the cursor when the search wraps around once. -/
def ahead (count cursor place : Nat) : Nat :=
  if cursor % count ≤ place then place - cursor % count else place + count - cursor % count

section Ahead

variable {count cursor place other : Nat}

/-- Walking from the cursor wraps around once. -/
theorem add_mod_count {offset : Nat} (within : offset < count) :
    (cursor + offset) % count =
      if cursor % count + offset < count then cursor % count + offset
      else cursor % count + offset - count := by
  have start : cursor % count < count := Nat.mod_lt _ (by omega)
  rw [← Nat.mod_add_mod]
  split
  next short => exact Nat.mod_eq_of_lt short
  next long =>
    rw [Nat.mod_eq_sub_mod (by omega)]
    exact Nat.mod_eq_of_lt (by omega)

/-- The search finds a place as late as it is ahead. -/
theorem ahead_add_mod {offset : Nat} (within : offset < count) :
    ahead count cursor ((cursor + offset) % count) = offset := by
  have start : cursor % count < count := Nat.mod_lt _ (by omega)
  rw [add_mod_count within, ahead]
  split_ifs <;> omega

theorem add_ahead_mod (cursor : Nat) (inside : place < count) :
    (cursor + ahead count cursor place) % count = place := by
  have start : cursor % count < count := Nat.mod_lt _ (by omega)
  have within : ahead count cursor place < count := by
    unfold ahead
    split_ifs <;> omega
  rw [add_mod_count within, ahead]
  split_ifs <;> omega

/-- The cursor behind a place stands at the next one, or at the first one again. -/
theorem succ_mod_count (inside : place < count) :
    (place + 1) % count % count = if place + 1 = count then 0 else place + 1 := by
  rw [Nat.mod_mod]
  split
  next last => rw [last, Nat.mod_self]
  next => exact Nat.mod_eq_of_lt (by omega)

/-- **Who was just served** is the last one of the next search. -/
theorem ahead_of_served (inside : place < count) (within : other < count) (differ : other ≠ place) :
    ahead count ((place + 1) % count) other < ahead count ((place + 1) % count) place := by
  unfold ahead
  rw [succ_mod_count inside]
  split_ifs <;> omega

/-- **Who is passed over** comes closer, and so does everybody behind it. -/
theorem ahead_of_passed {later : Nat} (inside : place < count) (within : other < count)
    (bound : later < count) (first : ahead count cursor place < ahead count cursor other)
    (second : ahead count cursor other < ahead count cursor later) :
    ahead count ((place + 1) % count) other < ahead count ((place + 1) % count) later := by
  have start : cursor % count < count := Nat.mod_lt _ (by omega)
  unfold ahead at first second ⊢
  rw [succ_mod_count inside]
  split_ifs at first second ⊢ <;> omega

end Ahead

/-! ### The search -/

/-- Whether the consumer with that tag has capacity. -/
def hasRoom (b : Broker) (consumerTag : String) : Bool :=
  (b.consumers.get? consumerTag).any b.hasCapacity

/-- The place where the next search of a queue starts. -/
def cursorOf (b : Broker) (queue : String) : Nat :=
  ((b.queues.get? queue).map (·.cursor)).getD 0

/-- The order of the search is the order of the distances from the cursor. -/
theorem searchOrder_sorted (record : QueueRecord) :
    (searchOrder record).Pairwise fun first second =>
      ahead record.consumers.length record.cursor first <
        ahead record.consumers.length record.cursor second := by
  refine List.pairwise_map.mpr (List.pairwise_lt_range.imp_of_mem ?_)
  intro first second early late less
  rw [ahead_add_mod (List.mem_range.mp early), ahead_add_mod (List.mem_range.mp late)]
  exact less

theorem hasRoom_eq_false_iff {b : Broker} {tag : String} : b.hasRoom tag = false ↔
    ∀ consumer, b.consumers.get? tag = some consumer → b.hasCapacity consumer = false := by
  unfold hasRoom
  cases b.consumers.get? tag <;> simp

/-- **The search finds the first consumer with capacity**, counted from the cursor. -/
theorem nextConsumer?_first {b : Broker} {record : QueueRecord} {chosen : Nat × String × Subscription}
    (next : b.nextConsumer? record = some chosen) {place : Nat} {tag : String}
    (listed : record.consumers[place]? = some tag)
    (before : ahead record.consumers.length record.cursor place <
      ahead record.consumers.length record.cursor chosen.1) : b.hasRoom tag = false := by
  have inside : place < record.consumers.length := (List.getElem?_eq_some_iff.mp listed).1
  obtain ⟨earlier, found, later, order, hit, missed⟩ := List.findSome?_eq_some_iff.mp next
  obtain rfl : found = chosen.1 := (available?_eq_some hit).1
  have sorted := searchOrder_sorted record
  have searched := mem_searchOrder inside
  rw [order] at sorted searched
  obtain ⟨-, behind, -⟩ := List.pairwise_append.mp sorted
  have member : place ∈ earlier := by
    rcases List.mem_append.mp searched with early | late
    · exact early
    · rcases List.mem_cons.mp late with same | late
      · rw [same] at before
        exact absurd before (lt_irrefl _)
      · have after := List.rel_of_pairwise_cons behind late
        omega
  exact hasRoom_eq_false_iff.mpr (available?_eq_none_iff.mp (missed place member) tag listed)

/-! ### Turns one after the other -/

/-- **The choice of a turn**: the first waiting message goes to the first consumer with capacity,
counted from the cursor. -/
structure Turn.Chosen (queue : String) (tags : List String) (turn : Turn) : Prop where
  /-- The message is the first one that waits. -/
  first : (turn.broker.shelf queue).head? = some turn.message
  /-- The delivery brings this message from this queue. -/
  brings : turn.delivery.queue = queue ∧ turn.delivery.payload = turn.message.payload ∧
    turn.delivery.properties = turn.message.properties ∧
    turn.delivery.redelivered = turn.message.redelivered
  listed : tags[turn.place]? = some turn.receiver
  room : turn.broker.hasRoom turn.receiver = true
  passed : ∀ place tag, tags[place]? = some tag →
    ahead tags.length (turn.broker.cursorOf queue) place <
      ahead tags.length (turn.broker.cursorOf queue) turn.place → turn.broker.hasRoom tag = false

/-- Turns of a queue one after the other: each starts at the cursor that the one before left behind
its consumer. -/
inductive Rotation (queue : String) (tags : List String) : Nat → List Turn → Nat → Prop
  | nil (cursor : Nat) : Rotation queue tags cursor [] cursor
  | cons {turn : Turn} {rest : List Turn} {last : Nat} (chosen : turn.Chosen queue tags)
      (more : Rotation queue tags ((turn.place + 1) % tags.length) rest last) :
      Rotation queue tags (turn.broker.cursorOf queue) (turn :: rest) last

namespace Turn.Chosen

variable {queue : String} {tags : List String} {turn : Turn}

theorem inside (chosen : turn.Chosen queue tags) : turn.place < tags.length :=
  (List.getElem?_eq_some_iff.mp chosen.listed).1

/-- A consumer with capacity is not passed over. -/
theorem not_before (chosen : turn.Chosen queue tags) {place : Nat} {tag : String}
    (listed : tags[place]? = some tag) (room : turn.broker.hasRoom tag = true) :
    ahead tags.length (turn.broker.cursorOf queue) turn.place ≤
      ahead tags.length (turn.broker.cursorOf queue) place := by
  by_contra less
  have full := chosen.passed place tag listed (not_le.mp less)
  rw [room] at full
  cases full

/-- Where everybody has capacity the turn goes to the place of the cursor. -/
theorem place_eq (chosen : turn.Chosen queue tags)
    (room : ∀ tag ∈ tags, turn.broker.hasRoom tag = true) :
    turn.place = turn.broker.cursorOf queue % tags.length := by
  have start : turn.broker.cursorOf queue % tags.length < tags.length :=
    Nat.mod_lt _ (by have := chosen.inside; omega)
  have nearest := chosen.not_before (List.getElem?_eq_getElem start)
    (room _ (List.getElem_mem start))
  have none : ahead tags.length (turn.broker.cursorOf queue)
      (turn.broker.cursorOf queue % tags.length) = 0 := by simp [ahead]
  rw [none, Nat.le_zero] at nearest
  have back := add_ahead_mod (turn.broker.cursorOf queue) chosen.inside
  rw [nearest, Nat.add_zero] at back
  exact back.symm

end Turn.Chosen

namespace Rotation

variable {queue : String} {tags : List String} {first last : Nat} {turns more : List Turn}

theorem append {middle : Nat} (early : Rotation queue tags first turns middle)
    (late : Rotation queue tags middle more last) :
    Rotation queue tags first (turns ++ more) last := by
  induction early with
  | nil => exact late
  | cons chosen _ ih => exact .cons chosen (ih late)

/-- Turns in two parts. -/
theorem split (rotation : Rotation queue tags first (turns ++ more) last) :
    ∃ middle, Rotation queue tags first turns middle ∧ Rotation queue tags middle more last := by
  induction turns generalizing first with
  | nil => exact ⟨first, .nil first, rotation⟩
  | cons turn rest ih =>
    cases rotation with
    | cons chosen rotation =>
      obtain ⟨middle, early, late⟩ := ih rotation
      exact ⟨middle, .cons chosen early, late⟩

theorem chosen (rotation : Rotation queue tags first turns last) :
    ∀ turn ∈ turns, turn.Chosen queue tags := by
  induction rotation with
  | nil => exact fun _ member => nomatch member
  | cons chosen _ ih => exact List.forall_mem_cons.mpr ⟨chosen, ih⟩

/-- **Who waits with capacity stays before** the consumer that was served, as long as neither of
them is served. -/
theorem overtaken (rotation : Rotation queue tags first turns last) {served waiting : Nat}
    {other : String} (within : served < tags.length) (listed : tags[waiting]? = some other)
    (before : ahead tags.length first waiting < ahead tags.length first served)
    (room : ∀ turn ∈ turns, turn.broker.hasRoom other = true)
    (elsewhere : ∀ turn ∈ turns, turn.place ≠ waiting) :
    ahead tags.length last waiting < ahead tags.length last served := by
  have inside : waiting < tags.length := (List.getElem?_eq_some_iff.mp listed).1
  induction rotation with
  | nil => exact before
  | @cons turn rest last chosen more ih =>
    obtain ⟨now, later⟩ := List.forall_mem_cons.mp room
    obtain ⟨here, there⟩ := List.forall_mem_cons.mp elsewhere
    have nearer := chosen.not_before listed now
    -- Two places are never the same distance ahead.
    have apart : ahead tags.length (turn.broker.cursorOf queue) turn.place ≠
        ahead tags.length (turn.broker.cursorOf queue) waiting := by
      intro same
      have back := add_ahead_mod (turn.broker.cursorOf queue) chosen.inside
      rw [same, add_ahead_mod _ inside] at back
      exact here back.symm
    exact ih (ahead_of_passed chosen.inside inside within (lt_of_le_of_ne nearer apart) before)
      later there

end Rotation

/-! ### What rotation means -/

/-- Nobody is skipped: between two consecutive turns of one consumer, every other consumer of the
list that has capacity at each turn after the first one, the second one included, has a turn. -/
def SkipsNobody (tags : List String) (turns : List Turn) : Prop :=
  ∀ earlier first between second later,
    turns = earlier ++ first :: (between ++ second :: later) →
    second.receiver = first.receiver → (∀ turn ∈ between, turn.receiver ≠ first.receiver) →
    ∀ other ∈ tags, other ≠ first.receiver →
      (∀ turn ∈ between ++ [second], turn.broker.hasRoom other = true) →
      ∃ turn ∈ between, turn.receiver = other

/-- Wherever all consumers of the list have capacity during some successive turns, these go to the
places that follow each other from the cursor on. -/
def GoesRound (queue : String) (tags : List String) (turns : List Turn) : Prop :=
  ∀ earlier segment later, turns = earlier ++ (segment ++ later) →
    (∀ turn ∈ segment, ∀ tag ∈ tags, turn.broker.hasRoom tag = true) →
    ∀ start, segment.head?.map (·.broker.cursorOf queue) = some start →
      ∀ i turn, segment[i]? = some turn →
        turn.place = (start + i) % tags.length ∧
          tags[(start + i) % tags.length]? = some turn.receiver

namespace Rotation

variable {queue : String} {tags : List String} {first last : Nat} {turns : List Turn}

/-- **Round robin skips nobody.** -/
theorem fair (rotation : Rotation queue tags first turns last) (distinct : tags.Nodup) :
    SkipsNobody tags turns := by
  rintro earlier one between two later rfl again others other member differ room
  obtain ⟨_, -, rotation⟩ := rotation.split
  cases rotation with
  | cons chosen rotation =>
    obtain ⟨cursor, middle, rotation⟩ := rotation.split
    cases rotation with
    | cons second _ =>
      obtain ⟨waiting, inside, listed⟩ := List.getElem_of_mem member
      replace listed : tags[waiting]? = some other := by rw [List.getElem?_eq_getElem inside, listed]
      by_contra nobody
      push Not at nobody
      have place : two.place = one.place := by
        have same : tags[two.place]? = tags[one.place]? := by
          rw [second.listed, chosen.listed, again]
        exact (List.getElem?_inj second.inside distinct).mp same
      have away : waiting ≠ one.place := by
        rintro rfl
        exact differ (Option.some.inj (listed.symm.trans chosen.listed))
      have elsewhere : ∀ turn ∈ between, turn.place ≠ waiting := by
        rintro turn here rfl
        have given := (middle.chosen turn here).listed
        exact nobody turn here (Option.some.inj (given.symm.trans listed))
      have before := middle.overtaken chosen.inside listed
        (ahead_of_served chosen.inside inside away)
        (fun turn here => room turn (List.mem_append_left _ here)) elsewhere
      have nearest := second.not_before listed
        (room two (List.mem_append_right _ (List.mem_singleton.mpr rfl)))
      rw [place] at nearest
      exact absurd before (not_lt.mpr nearest)

/-- Where all have capacity the places follow each other from the cursor on. -/
theorem places (rotation : Rotation queue tags first turns last)
    (room : ∀ turn ∈ turns, ∀ tag ∈ tags, turn.broker.hasRoom tag = true) {i : Nat} {turn : Turn}
    (found : turns[i]? = some turn) : turn.place = (first + i) % tags.length := by
  induction rotation generalizing i with
  | nil => cases found
  | @cons next rest last chosen _ ih =>
    obtain ⟨now, later⟩ := List.forall_mem_cons.mp room
    have here := chosen.place_eq now
    cases i with
    | zero =>
      obtain rfl := Option.some.inj found
      exact here
    | succ i =>
      rw [ih later found, here, Nat.mod_add_mod, Nat.add_assoc, Nat.mod_add_mod, Nat.add_comm 1 i]

/-- **Round robin goes round** where all have capacity. -/
theorem cyclic (rotation : Rotation queue tags first turns last) : GoesRound queue tags turns := by
  rintro earlier segment later rfl room start begins i turn found
  obtain ⟨cursor, -, rotation⟩ := rotation.split
  obtain ⟨_, rotation, -⟩ := rotation.split
  have same : cursor = start := by
    cases rotation with
    | nil => cases begins
    | cons chosen more => exact Option.some.inj begins
  have place := rotation.places room found
  rw [same] at place
  refine ⟨place, ?_⟩
  rw [← place]
  exact (rotation.chosen turn (List.mem_of_getElem? found)).listed

end Rotation

end QueueListener.Broker
