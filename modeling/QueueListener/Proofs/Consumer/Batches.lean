import Mathlib.Data.List.Induction
import QueueListener.Proofs.Consumer.Conclusion
import QueueListener.Proofs.Consumer.Engagement
import QueueListener.Proofs.Container.Shifts
/-!
# Batches on a transactional channel

**A batch is settled as a whole.** Successes wait until their number reaches the size of a batch;
then one acknowledgement and one commit settle them. A failure settles the batch before it together
with the failed delivery, and an idle cycle acknowledges what is left.

* `fullBatches`, `restOf` — successes cut into batches, and what is left of them;
* `acceptance`, `refusal` — how the end of a batch is entered in the ledger;
* `Shift.row_batches` — successes in a row: the ledger gets one acceptance for each full batch;
* `Engagement.Batches` — what holds of a consumer on a transactional channel at every moment;
* `Engagement.run_batches` — it holds after every run.
-/

namespace QueueListener

open Broker

/-! ### Cutting into batches -/

/-- The full batches at the front. -/
def fullBatches {α : Type} (size : Nat) (entries : List α) : List (List α) :=
  (List.range (entries.length / size)).map fun number => (entries.drop (number * size)).take size

/-- What is behind the last full batch. -/
def restOf {α : Type} (size : Nat) (entries : List α) : List α :=
  entries.drop (entries.length / size * size)

section Cutting

variable {α : Type} {size : Nat} {entries : List α}

@[simp] theorem length_fullBatches (size : Nat) (entries : List α) :
    (fullBatches size entries).length = entries.length / size := by
  rw [fullBatches, List.length_map, List.length_range]

@[simp] theorem length_restOf (size : Nat) (entries : List α) :
    (restOf size entries).length = entries.length % size := by
  rw [restOf, List.length_drop, Nat.mod_eq_sub_div_mul]

/-- Every full batch has its size. -/
theorem length_of_mem_fullBatches {batch : List α} (member : batch ∈ fullBatches size entries) :
    batch.length = size := by
  obtain ⟨number, listed, rfl⟩ := List.mem_map.mp member
  have below : (number + 1) * size ≤ entries.length :=
    (Nat.mul_le_mul_right size (List.mem_range.mp listed)).trans (Nat.div_mul_le_self _ _)
  rw [Nat.succ_mul] at below
  rw [List.length_take, List.length_drop]
  omega

/-- Fewer than a batch are left. -/
theorem fullBatches_of_lt (below : entries.length < size) : fullBatches size entries = [] := by
  rw [fullBatches, Nat.div_eq_of_lt below]
  rfl

theorem restOf_of_lt (below : entries.length < size) : restOf size entries = entries := by
  rw [restOf, Nat.div_eq_of_lt below, Nat.zero_mul, List.drop_zero]

/-- A batch that is just full. -/
theorem fullBatches_of_eq (positive : 0 < size) (full : entries.length = size) :
    fullBatches size entries = [entries] := by
  rw [fullBatches, full, Nat.div_self positive]
  simp [full]

theorem restOf_of_eq (positive : 0 < size) (full : entries.length = size) :
    restOf size entries = [] := by
  rw [restOf, full, Nat.div_self positive, Nat.one_mul, ← full, List.drop_length]

/-- **Later entries go on from what is left.** -/
theorem fullBatches_append (positive : 0 < size) (first second : List α) :
    fullBatches size (first ++ second) =
      fullBatches size first ++ fullBatches size (restOf size first ++ second) := by
  have whole : (first ++ second).length =
      (restOf size first ++ second).length + first.length / size * size := by
    rw [List.length_append, List.length_append, length_restOf]
    have := Nat.mod_add_div' first.length size
    omega
  have count : (first ++ second).length / size =
      first.length / size + (restOf size first ++ second).length / size := by
    rw [whole, Nat.add_mul_div_right _ _ positive, Nat.add_comm]
  have front : first.length / size * size ≤ first.length := Nat.div_mul_le_self _ _
  unfold fullBatches
  rw [count, List.range_add, List.map_append, List.map_map]
  congr 1
  · refine List.map_congr_left fun number listed => ?_
    have below : (number + 1) * size ≤ first.length / size * size :=
      Nat.mul_le_mul_right size (List.mem_range.mp listed)
    rw [Nat.succ_mul] at below
    rw [List.drop_append_of_le_length (by omega), List.take_append_of_le_length]
    rw [List.length_drop]
    omega
  · refine List.map_congr_left fun number _ => ?_
    have behind : (first ++ second).drop ((first.length / size + number) * size) =
        (restOf size first ++ second).drop (number * size) := by
      rw [Nat.add_mul, ← List.drop_drop, List.drop_append_of_le_length front, restOf]
    exact congrArg (List.take size) behind

theorem restOf_append (positive : 0 < size) (first second : List α) :
    restOf size (first ++ second) = restOf size (restOf size first ++ second) := by
  have front : first.length / size * size ≤ first.length := Nat.div_mul_le_self _ _
  have whole : (first ++ second).length =
      (restOf size first ++ second).length + first.length / size * size := by
    rw [List.length_append, List.length_append, length_restOf]
    have := Nat.mod_add_div' first.length size
    omega
  have cut : (first ++ second).length / size * size = first.length / size * size +
      (restOf size first ++ second).length / size * size := by
    rw [whole, Nat.add_mul_div_right _ _ positive, Nat.add_mul, Nat.add_comm]
  rw [restOf, cut, ← List.drop_drop, List.drop_append_of_le_length front]
  rfl

/-- Nothing is lost by cutting. -/
theorem flatten_fullBatches (positive : 0 < size) (entries : List α) :
    (fullBatches size entries).flatten ++ restOf size entries = entries := by
  induction entries using List.reverseRecOn with
  | nil => simp [fullBatches, restOf]
  | append_singleton front entry ih =>
    -- one more entry goes behind what is left; it may fill the batch
    have below : (restOf size front).length < size := by
      rw [length_restOf]
      exact Nat.mod_lt _ positive
    have tail : (fullBatches size (restOf size front ++ [entry])).flatten ++
        restOf size (restOf size front ++ [entry]) = restOf size front ++ [entry] := by
      rcases Nat.lt_or_ge (restOf size front ++ [entry]).length size with less | enough
      · rw [fullBatches_of_lt less, restOf_of_lt less]
        rfl
      · have full : (restOf size front ++ [entry]).length = size := by
          rw [List.length_append, List.length_singleton] at enough ⊢
          omega
        rw [fullBatches_of_eq positive full, restOf_of_eq positive full]
        simp
    rw [fullBatches_append positive, restOf_append positive, List.flatten_append, List.append_assoc,
      tail, ← List.append_assoc, ih]

end Cutting

/-! ### The end of a batch -/

/-- How the acknowledgement of a batch is entered: once, up to its last delivery, and with a commit.
An empty batch enters nothing. -/
def acceptance (batch : List Nat) : List ChannelAction :=
  match batch.getLast? with
  | some last => [.settle ⟨last, 1 < batch.length, .ack⟩, .commit]
  | none => []

/-- How the rejection of a delivery and of the batch before it is entered. -/
def refusal (batch : List Nat) (tag : Nat) (requeue : Bool) : List ChannelAction :=
  [.rollback, .settle ⟨tag, 0 < batch.length, .nack requeue⟩, .commit]

@[simp] theorem acceptance_nil : acceptance [] = [] := rfl

@[simp] theorem acceptance_concat (batch : List Nat) (tag : Nat) :
    acceptance (batch ++ [tag]) = [.settle ⟨tag, 1 < batch.length + 1, .ack⟩, .commit] := by
  rw [acceptance, List.getLast?_concat, List.length_append, List.length_singleton]

/-- Every full batch is committed once. -/
theorem count_commit_acceptance {size : Nat} (positive : 0 < size) (entries : List Nat) :
    ((fullBatches size entries).flatMap acceptance).count .commit = entries.length / size := by
  have once : ∀ batch ∈ fullBatches size entries, (acceptance batch).count .commit = 1 := by
    intro batch member
    rcases batch.eq_nil_or_concat' with rfl | ⟨front, last, rfl⟩
    · exact absurd (length_of_mem_fullBatches member) positive.ne
    · rw [acceptance_concat]
      rfl
  rw [List.count_flatMap]
  show ((fullBatches size entries).map fun batch => (acceptance batch).count .commit).sum = _
  rw [List.map_congr_left once, List.map_const', List.sum_replicate_nat, length_fullBatches,
    Nat.mul_one]

/-- Successes cut into full batches and a rest: nothing is lost, and every full batch is committed
once. -/
structure CutInto (size : Nat) (tags : List Nat) (full : List (List Nat)) (left : List Nat) : Prop
    where
  whole : full.flatten ++ left = tags
  sizes : ∀ batch ∈ full, batch.length = size
  count : full.length = tags.length / size
  left : left.length = tags.length % size
  commits : (full.flatMap acceptance).count .commit = tags.length / size

theorem cutInto_fullBatches {size : Nat} (positive : 0 < size) (tags : List Nat) :
    CutInto size tags (fullBatches size tags) (restOf size tags) where
  whole := flatten_fullBatches positive tags
  sizes _ member := length_of_mem_fullBatches member
  count := length_fullBatches size tags
  left := length_restOf size tags
  commits := count_commit_acceptance positive tags

/-- **The acknowledgement of a batch covers exactly the batch.** -/
theorem covers_acceptance {front back : List Nat} (ascending : (front ++ back).Pairwise (· < ·))
    {settlement : Settlement} (entered : .settle settlement ∈ acceptance front) {tag : Nat}
    (unsettled : tag ∈ front ++ back) : settlement.covers tag = true ↔ tag ∈ front := by
  rcases front.eq_nil_or_concat' with rfl | ⟨front, last, rfl⟩
  · exact absurd entered List.not_mem_nil
  · rw [acceptance_concat] at entered
    rw [List.append_assoc, List.singleton_append] at ascending unsettled
    obtain rfl : settlement = ⟨last, 1 < front.length + 1, .ack⟩ := by simpa using entered
    refine covers_iff ascending (fun more => ?_) .ack unsettled
    exact decide_eq_true (Nat.succ_lt_succ (List.length_pos_of_ne_nil more))

/-- **The rejection behind a batch covers exactly the batch and its delivery.** -/
theorem covers_refusal {front back : List Nat} {last : Nat} {requeue : Bool}
    (ascending : (front ++ last :: back).Pairwise (· < ·)) {settlement : Settlement}
    (entered : .settle settlement ∈ refusal front last requeue) {tag : Nat}
    (unsettled : tag ∈ front ++ last :: back) :
    settlement.covers tag = true ↔ tag ∈ front ++ [last] := by
  obtain rfl : settlement = ⟨last, 0 < front.length, .nack requeue⟩ := by
    simpa [refusal] using entered
  exact covers_iff ascending (fun more => decide_eq_true (List.length_pos_of_ne_nil more)) _ unsettled

/-- The size of a batch; one is the least. -/
def Settings.batch (settings : Settings) : Nat := max settings.batchSize 1

theorem Settings.batch_pos (settings : Settings) : 0 < settings.batch :=
  Nat.lt_of_lt_of_le Nat.one_pos (le_max_right _ _)

namespace Shift

/-- A step of a shift on a transactional channel: what it processes, what leaves with which
verdicts, the batch after it, and what it enters in the ledger. -/
structure Turns (seat : Seat) (post : Post) (s s' : Shift) (done : List (Nat × Outcome))
    (gone : List (Nat × Verdict)) (batch : List Nat) (entries : List ChannelAction) : Prop where
  sound : ∃ record waiting rest settled, Sound seat post s' record waiting rest settled ∧
    waiting.map (·.tag) = batch
  processed : s'.processed = s.processed ++ done
  verdicts : s'.verdicts = s.verdicts ++ gone
  ledger : s'.broker.ledger seat.channel = s.broker.ledger seat.channel ++ entries

variable {seat : Seat} {post : Post} {s s' : Shift} {record : ChannelRecord}
  {waiting rest : List Unacked} {settled : List (Nat × Outcome)}

theorem Turns.trans {middle last : Shift} {done done' : List (Nat × Outcome)}
    {gone gone' : List (Nat × Verdict)} {batch batch' : List Nat}
    {entries entries' : List ChannelAction} (first : Turns seat post s middle done gone batch entries)
    (second : Turns seat post middle last done' gone' batch' entries') :
    Turns seat post s last (done ++ done') (gone ++ gone') batch' (entries ++ entries') where
  sound := second.sound
  processed := by rw [second.processed, first.processed, List.append_assoc]
  verdicts := by rw [second.verdicts, first.verdicts, List.append_assoc]
  ledger := by rw [second.ledger, first.ledger, List.append_assoc]

/-- What a step of a shift enters, and the batch that it leaves. -/
theorem Advances.turns {done : List (Nat × Outcome)} {gone : List (Unacked × Verdict)}
    {batch : List Unacked} (advances : Advances seat post s s' done gone batch)
    {entries : List ChannelAction} (ledger : s'.broker.ledger seat.channel =
      s.broker.ledger seat.channel ++ entries) :
    Turns seat post s s' done (gone.map fun entry => (entry.1.tag, entry.2)) (batch.map (·.tag))
      entries := by
  obtain ⟨record, rest, settled, sound⟩ := advances.sound
  exact ⟨⟨record, batch, rest, settled, sound, rfl⟩, advances.processed, advances.verdicts, ledger⟩

/-- The batch and the delivery behind it are rejected together. -/
theorem Advances.refuses {done : List (Nat × Outcome)} {entry : Unacked} {tag : Nat}
    {requeue : Bool} (advances : Advances seat post s s' done
      ((waiting ++ [entry]).map (·, .nack requeue)) []) (same : entry.tag = tag)
    (ledger : s'.broker.ledger seat.channel = s.broker.ledger seat.channel ++
      [.rollback, .settle ⟨tag, 0 < waiting.length, .nack requeue⟩, .commit]) :
    Turns seat post s s' done ((waiting.map (·.tag) ++ [tag]).map (·, .nack requeue)) []
      (refusal (waiting.map (·.tag)) tag requeue) := by
  subst same
  have turns := advances.turns ledger
  have leaves : ((waiting ++ [entry]).map (·, Verdict.nack requeue)).map
      (fun entry => (entry.1.tag, entry.2)) =
      (waiting.map (·.tag) ++ [entry.tag]).map (·, .nack requeue) := by
    rw [List.map_map, ← List.map_singleton, ← List.map_append, List.map_map]
    rfl
  rw [leaves] at turns
  unfold refusal
  rw [List.length_map]
  exact turns

theorem Turns.refl (sound : Sound seat post s record waiting rest settled) :
    Turns seat post s s [] [] (waiting.map (·.tag)) [] :=
  Advances.turns (.refl sound) (List.append_nil _).symm

section Transacted

variable (auto : post.settings.ackMode = .auto) (here : post.channel = seat.channel)
  (transacted : post.settings.transacted = true)
  (sound : Sound seat post s record waiting rest settled)
include here sound

section Delivery

variable {delivery : Delivery} {others : List Delivery} (waits : s.inbox = delivery :: others)
include auto transacted waits

/-- **A success joins the batch**, and ends it when it is full. -/
theorem success_turns :
    ∃ s', s.step seat post (.receive (.ok ())) = .ok s' ∧
      let tags := waiting.map (·.tag) ++ [delivery.tag]
      Turns seat post s s' [(delivery.tag, .success)]
        ((fullBatches post.settings.batch tags).flatten.map (·, .ack))
        (restOf post.settings.batch tags)
        ((fullBatches post.settings.batch tags).flatMap acceptance) := by
  obtain ⟨entry, s', stepped, same, advances, -⟩ := receive_advances auto here sound waits (.ok ())
  have entered := receive_ledger waits stepped
  simp only [Desk.situation, Situation.action, Situation.acknowledge, auto, sound.stands.deferred,
    Settings.outcomeOf, transacted, Bool.false_eq_true, if_false, if_true, here] at entered
  refine ⟨s', stepped, ?_⟩
  have length : (waiting.map (·.tag) ++ [delivery.tag]).length = waiting.length + 1 := by simp
  have joined : (waiting ++ [entry]).map (·.tag) = waiting.map (·.tag) ++ [delivery.tag] := by
    rw [List.map_append, List.map_singleton, same]
  unfold disposal Settings.outcomeOf at advances
  dsimp only at advances
  by_cases below : waiting.length + 1 < max post.settings.batchSize 1
  · rw [if_pos below] at advances entered
    have turns := advances.turns entered
    rw [joined] at turns
    have less : (waiting.map (·.tag) ++ [delivery.tag]).length < post.settings.batch :=
      length ▸ below
    dsimp only
    rw [fullBatches_of_lt less, restOf_of_lt less]
    exact turns
  · rw [if_neg below] at advances entered
    have turns := advances.turns entered
    have full : (waiting.map (·.tag) ++ [delivery.tag]).length = post.settings.batch := by
      have smaller := sound.below
      unfold Settings.batch
      omega
    dsimp only
    rw [fullBatches_of_eq post.settings.batch_pos full, restOf_of_eq post.settings.batch_pos full,
      List.flatten_singleton, List.flatMap_singleton, acceptance_concat, List.length_map, ← joined,
      List.map_map]
    rw [List.map_map] at turns
    exact turns

/-- **A failure rejects the batch** together with the delivery. -/
theorem failure_turns (error : ListenerError) :
    ∃ s', s.step seat post (.receive (.error error)) = .ok s' ∧
      let requeue := error.requeue?.getD post.settings.requeueRejected
      Turns seat post s s' [(delivery.tag, .failure requeue error.isTransport)]
        ((waiting.map (·.tag) ++ [delivery.tag]).map (·, .nack requeue)) []
        (refusal (waiting.map (·.tag)) delivery.tag requeue) := by
  obtain ⟨entry, s', stepped, same, advances, -⟩ :=
    receive_advances auto here sound waits (.error error)
  have entered := receive_ledger waits stepped
  simp only [Desk.situation, Situation.action, Situation.reject, auto, sound.stands.deferred,
    Settings.outcomeOf, transacted, Bool.false_eq_true, if_false, if_true, here] at entered
  unfold disposal Settings.outcomeOf rejection at advances
  dsimp only at advances
  rw [if_pos transacted] at advances
  exact ⟨s', stepped, advances.refuses same entered⟩

/-- A delivery that is turned away takes the batch with it. -/
theorem turnAway_turns :
    ∃ s', s.step seat post .turnAway = .ok s' ∧
      Turns seat post s s' [(delivery.tag, .stopping)]
        ((waiting.map (·.tag) ++ [delivery.tag]).map (·, .nack true)) []
        (refusal (waiting.map (·.tag)) delivery.tag true) := by
  obtain ⟨entry, s', stepped, same, advances, -⟩ := turnAway_advances auto here sound waits
  have entered := turnAway_ledger waits stepped
  simp only [Desk.situation, Situation.action, Situation.reject, auto, sound.stands.deferred,
    transacted, if_true, here] at entered
  unfold rejection at advances
  rw [if_pos transacted] at advances
  exact ⟨s', stepped, advances.refuses same entered⟩

end Delivery

/-- **An idle cycle acknowledges the batch.** -/
theorem idle_turns (transacted : post.settings.transacted = true) :
    ∃ s', s.step seat post .idle = .ok s' ∧
      Turns seat post s s' [] ((waiting.map (·.tag)).map (·, .ack)) []
        (acceptance (waiting.map (·.tag))) := by
  obtain ⟨s', stepped, advances, -⟩ := idle_advances here sound
  have leaves : (waiting.map (·, Verdict.ack)).map (fun entry => (entry.1.tag, entry.2)) =
      (waiting.map (·.tag)).map (·, .ack) := by
    rw [List.map_map, List.map_map]
    rfl
  have enters : s'.broker.ledger seat.channel =
      s.broker.ledger seat.channel ++ acceptance (waiting.map (·.tag)) := by
    rw [← here]
    rcases waiting.eq_nil_or_concat' with rfl | ⟨front, latest, rfl⟩
    · exact work_ledger stepped (Desk.flush_enters_nil sound.stands.last)
    · have last : s.desk.lastDeferred = some latest.tag :=
        sound.stands.last.trans (Seat.lastTag?_concat front latest)
      have length : s.desk.deferred = front.length + 1 := by
        rw [sound.stands.deferred, List.length_append, List.length_singleton]
      have entered := work_ledger stepped
        (Desk.flush_enters last (length.symm ▸ Nat.succ_pos front.length))
      rw [if_pos transacted, length] at entered
      rw [List.map_append, List.map_singleton, acceptance_concat, List.length_map]
      exact entered
  have turns := advances.turns enters
  rw [leaves] at turns
  exact ⟨s', stepped, turns⟩

include auto

/-- An event with which the consumer settles nothing leaves the batch. -/
theorem quiet_turns {event : ShiftEvent} (settles : ¬ event.Settles)
    (spares : ∀ op, event = .elsewhere op → seat.Spares op)
    (stepped : s.step seat post event = .ok s') :
    Turns seat post s s' [] [] (waiting.map (·.tag)) [] :=
  (quiet_advances auto here sound settles spares stepped).turns
    ((step_ledger sound.keeps.tidy settles spares stepped).trans (List.append_nil _).symm)

end Transacted

end Shift

/-! ### Successes in a row -/

/-- A success, or something with which the consumer settles nothing. -/
def ShiftEvent.InRow (seat : Seat) : ShiftEvent → Prop
  | .receive (.ok ()) => True
  | .receive (.error _) => False
  | .turnAway => False
  | .idle => False
  | .elsewhere op => seat.Spares op
  | .poll => True
  | .cancel _ => True
  | .counted _ => True

namespace Shift

/-- Successes come behind a batch: every batch that they fill is acknowledged and committed, and the
others wait. -/
def Row (seat : Seat) (post : Post) (s s' : Shift) (batch done : List Nat) : Prop :=
  Turns seat post s s' (done.map (·, .success))
    ((fullBatches post.settings.batch (batch ++ done)).flatten.map (·, .ack))
    (restOf post.settings.batch (batch ++ done))
    ((fullBatches post.settings.batch (batch ++ done)).flatMap acceptance)

variable {seat : Seat} {post : Post} {s s' : Shift} {record : ChannelRecord}
  {waiting rest : List Unacked} {settled : List (Nat × Outcome)}

/-- Nothing happens to a batch that is not full. -/
theorem Turns.row {batch : List Nat} (turns : Turns seat post s s' [] [] batch [])
    (below : batch.length < post.settings.batch) : Row seat post s s' batch [] := by
  unfold Row
  rw [List.append_nil, fullBatches_of_lt below, restOf_of_lt below]
  exact turns

theorem Row.trans {middle last : Shift} {batch done done' : List Nat}
    (first : Row seat post s middle batch done)
    (second : Row seat post middle last (restOf post.settings.batch (batch ++ done)) done') :
    Row seat post s last batch (done ++ done') := by
  have positive := post.settings.batch_pos
  have both := Turns.trans first second
  unfold Row
  rw [← List.append_assoc, fullBatches_append positive (batch ++ done),
    restOf_append positive (batch ++ done), List.flatten_append, List.map_append, List.map_append,
    List.flatMap_append]
  exact both

/-- One event of a row. -/
theorem step_row (auto : post.settings.ackMode = .auto) (here : post.channel = seat.channel)
    (transacted : post.settings.transacted = true)
    (sound : Sound seat post s record waiting rest settled) {event : ShiftEvent}
    (inRow : event.InRow seat) (stepped : s.step seat post event = .ok s') :
    ∃ done, Row seat post s s' (waiting.map (·.tag)) done := by
  have below : (waiting.map (·.tag)).length < post.settings.batch := by
    rw [List.length_map]
    exact sound.below
  have quiet : ¬ event.Settles → (∀ op, event = .elsewhere op → seat.Spares op) →
      ∃ done, Row seat post s s' (waiting.map (·.tag)) done := fun settles spares =>
    ⟨[], (quiet_turns auto here sound settles spares stepped).row below⟩
  cases event with
  | receive result =>
    cases result with
    | error error => exact inRow.elim
    | ok value =>
      cases waits : s.inbox with
      | nil =>
        unfold step at stepped
        rw [waits] at stepped
        obtain rfl := Except.ok.inj stepped
        exact ⟨[], (Turns.refl sound).row below⟩
      | cons delivery others =>
        obtain ⟨_, succeeded, turns⟩ := success_turns auto here transacted sound waits
        obtain rfl := Except.ok.inj (succeeded.symm.trans stepped)
        exact ⟨[delivery.tag], turns⟩
  | turnAway | idle => exact inRow.elim
  | poll => exact quiet id fun _ same => ShiftEvent.noConfusion same
  | cancel tag => exact quiet id fun _ same => ShiftEvent.noConfusion same
  | elsewhere op => exact quiet id fun _ same => ShiftEvent.elsewhere.inj same ▸ inRow
  | counted metrics => exact quiet id fun _ same => ShiftEvent.noConfusion same

/-- **Successes in a row fill one batch after the other.** -/
theorem run_row (auto : post.settings.ackMode = .auto) (here : post.channel = seat.channel)
    (transacted : post.settings.transacted = true)
    (sound : Sound seat post s record waiting rest settled) {events : List ShiftEvent}
    (inRow : ∀ event ∈ events, event.InRow seat) (ran : s.run seat post events = .ok s') :
    ∃ done, Row seat post s s' (waiting.map (·.tag)) done := by
  induction events generalizing s record waiting rest settled with
  | nil =>
    obtain rfl := Except.ok.inj ran
    refine ⟨[], (Turns.refl sound).row ?_⟩
    rw [List.length_map]
    exact sound.below
  | cons event events ih =>
    obtain ⟨middle, stepped, ran'⟩ := run_cons_inv ran
    obtain ⟨done, first⟩ := step_row auto here transacted sound
      (inRow event List.mem_cons_self) stepped
    obtain ⟨_, _, _, _, sound', left⟩ := first.sound
    obtain ⟨done', second⟩ := ih sound' (fun event member =>
      inRow event (List.mem_cons_of_mem _ member)) ran'
    rw [left] at second
    exact ⟨done ++ done', first.trans second⟩

end Shift

/-! ### A consumer on a transactional channel -/

/-- **What holds of a consumer on a transactional channel at every moment**, while `batch` are the
successes that wait. -/
structure Engagement.Batches (e : Engagement) (s : Shift) (batch : List Nat) : Prop where
  tidy : s.broker.Tidy
  /-- The channel is open, and no settlement waits for a commit. -/
  opened : ∃ record, s.broker.openChannel? e.channel = some record ∧
    record.transactional = true ∧ record.pending = []
  /-- The last successes wait; all others that were processed are settled. -/
  processed : ∃ settled, s.processed = settled ++ batch.map (·, .success) ∧
    s.verdicts.map (·.1) = settled.map (·.1)
  ascending : (batch ++ s.inbox.map (·.tag)).Pairwise (· < ·)
  /-- The broker holds the batch and what nobody has processed, and nothing else. -/
  unsettled : (s.broker.unsettled e.channel).map (·.tag) = batch ++ s.inbox.map (·.tag)
  deferred : s.desk.deferred = batch.length
  below : batch.length < e.settings.batch
  /-- What is entered for a batch at the front covers the batch, and nothing else. -/
  covers : ∀ front back, batch ++ s.inbox.map (·.tag) = front ++ back →
    ∀ settlement, .settle settlement ∈ acceptance front →
    ∀ tag ∈ front ++ back, settlement.covers tag = true ↔ tag ∈ front
  coversRefused : ∀ front last back requeue, batch ++ s.inbox.map (·.tag) = front ++ last :: back →
    ∀ settlement, .settle settlement ∈ refusal front last requeue →
    ∀ tag ∈ front ++ last :: back, settlement.covers tag = true ↔ tag ∈ front ++ [last]
  /-- Successes in a row are acknowledged and committed batch by batch. -/
  row : ∀ (events : List ShiftEvent) (s' : Shift), (∀ event ∈ events, event.InRow e.seat) →
    s.run e.seat e.post events = .ok s' →
    ∃ done full left, CutInto e.settings.batch (batch ++ done) full left ∧
      Shift.Turns e.seat e.post s s' (done.map (·, .success)) (full.flatten.map (·, .ack)) left
        (full.flatMap acceptance)
  /-- A success is not refused. It waits, or it fills the batch. -/
  succeeds : ∀ delivery others, s.inbox = delivery :: others →
    ∃ s' full left, s.step e.seat e.post (.receive (.ok ())) = .ok s' ∧
      CutInto e.settings.batch (batch ++ [delivery.tag]) full left ∧
      Shift.Turns e.seat e.post s s' [(delivery.tag, .success)] (full.flatten.map (·, .ack)) left
        (full.flatMap acceptance)
  /-- A failure rejects the batch and the failed delivery together. -/
  fails : ∀ delivery others (error : ListenerError), s.inbox = delivery :: others →
    ∃ s', s.step e.seat e.post (.receive (.error error)) = .ok s' ∧
      let requeue := error.requeue?.getD e.settings.requeueRejected
      Shift.Turns e.seat e.post s s' [(delivery.tag, .failure requeue error.isTransport)]
        ((batch ++ [delivery.tag]).map (·, .nack requeue)) [] (refusal batch delivery.tag requeue)
  /-- So does a delivery that comes too late, and all of them go back. -/
  turnsAway : ∀ delivery others, s.inbox = delivery :: others →
    ∃ s', s.step e.seat e.post .turnAway = .ok s' ∧
      Shift.Turns e.seat e.post s s' [(delivery.tag, .stopping)]
        ((batch ++ [delivery.tag]).map (·, .nack true)) [] (refusal batch delivery.tag true)
  /-- An idle cycle acknowledges and commits what waits. -/
  idles : ∃ s', s.step e.seat e.post .idle = .ok s' ∧
    Shift.Turns e.seat e.post s s' [] (batch.map (·, .ack)) [] (acceptance batch)
  /-- In a container the answer of the listener is settled in the same way. -/
  settlesHosted : ∀ (w : World) session delivery taken result,
    w.Hosts e.subscriber session e.post (delivery :: taken) s →
    ∃ w' s', (World.settle e.subscriber session delivery.tag (w.outcomeOf result) none).run w =
        (.ok (), w') ∧ s.step e.seat e.post (.receive result) = .ok s' ∧
      w'.Hosts e.subscriber session e.post taken s'
  /-- In a container an idle cycle does the same. -/
  flushesHosted : ∀ (w : World) session taken, w.Hosts e.subscriber session e.post taken s →
    ∃ w' s', (World.atDesk e.subscriber Desk.flush).run w = (.ok (), w') ∧
      s.step e.seat e.post .idle = .ok s' ∧ w'.Hosts e.subscriber session e.post taken s'
  /-- In a container a session that ends acknowledges and commits what waits, and gives back what it
  has not processed, before its channel is closed. -/
  closesHosted : ∀ (w : World) session, e.settings.reception = .push →
    w.Hosts e.subscriber session e.post [] s →
    ∃ (w' : World) (s' : Shift) (late : List Nat),
      (World.closeSession e.subscriber session).run w = w'.releaseChannel e.subscriber ∧
      w'.Hosts e.subscriber session e.post [] s' ∧
      Shift.Turns e.seat e.post s s' (late.map (·, .stopping))
        (batch.map (·, .ack) ++ late.map (·, .nack true)) []
        (acceptance batch ++ late.flatMap fun tag => refusal [] tag true)

namespace Shift

variable {e : Engagement} {s : Shift} {record : ChannelRecord} {waiting rest : List Unacked}
  {settled : List (Nat × Outcome)}

/-- What is turned away without a batch. -/
theorem Concludes.turns {s' : Shift} {late : List Nat} (transacted : e.settings.transacted = true)
    (concludes : Concludes e.seat e.post s s' (late.map (·, .stopping))) :
    Turns e.seat e.post s s' (late.map (·, .stopping)) (late.map (·, .nack true)) []
      (late.flatMap fun tag => refusal [] tag true) := by
  obtain ⟨record, rest, settled, sound⟩ := concludes.sound
  have verdicts := concludes.verdicts
  have ledger := concludes.ledger
  rw [List.map_map] at verdicts
  rw [closings, List.flatMap_map, show e.post.settings.transacted = true from transacted] at ledger
  exact ⟨⟨record, [], rest, settled, sound, rfl⟩, concludes.processed, verdicts, ledger⟩

/-- A container's session that ends settles the batch first. -/
theorem Sound.closesBatch (sound : Sound e.seat e.post s record waiting rest settled)
    (transacted : e.settings.transacted = true) {w : World} {session : Session}
    (pushed : e.settings.reception = .push) (hosts : w.Hosts e.subscriber session e.post [] s) :
    ∃ (w' : World) (s' : Shift) (late : List Nat),
      (World.closeSession e.subscriber session).run w = w'.releaseChannel e.subscriber ∧
      w'.Hosts e.subscriber session e.post [] s' ∧
      Turns e.seat e.post s s' (late.map (·, .stopping))
        ((waiting.map (·.tag)).map (·, .ack) ++ late.map (·, .nack true)) []
        (acceptance (waiting.map (·.tag)) ++ late.flatMap fun tag => refusal [] tag true) := by
  obtain ⟨s₀, cancelled, -⟩ := cancel_advances rfl sound session.consumerTag
  have quiet : ¬(ShiftEvent.cancel session.consumerTag).Settles := id
  have turns₀ := quiet_turns e.auto rfl sound quiet
    (fun _ same => ShiftEvent.noConfusion same) cancelled
  obtain ⟨_, _, _, _, sound₀, same⟩ := turns₀.sound
  obtain ⟨s₁, idled, turns₁⟩ := idle_turns rfl sound₀ transacted
  rw [same] at turns₁
  have flushed : s.run e.seat e.post [.cancel session.consumerTag, .idle] = .ok s₁ := by
    rw [run_cons cancelled, run_cons idled]
    rfl
  have faultless : s.desk.client.faults = [] := by rw [sound.stands.client]
  obtain ⟨count, ends⟩ := World.closeSession_hosts hosts rfl pushed faultless flushed
  obtain ⟨record, left, rest, settled, sound₁, empty⟩ := turns₁.sound
  obtain rfl := List.map_eq_nil_iff.mp empty
  obtain ⟨s', late, ran, concludes⟩ := turnAways_conclude e.auto rfl ⟨_, _, _, sound₁⟩ count
  obtain ⟨w', hosts', closed⟩ := ends s' ran
  exact ⟨w', s', late, closed, hosts', (turns₀.trans turns₁).trans (concludes.turns transacted)⟩

end Shift

/-- **Local transactions are atomic batches**: messages leave the channel only by a commit, and every
batch is settled as a whole. -/
theorem Engagement.run_batches (e : Engagement) (transacted : e.settings.transacted = true)
    {events : List ShiftEvent} (spared : ∀ op, .elsewhere op ∈ events → e.seat.Spares op)
    {s : Shift} (ran : e.start.run e.seat e.post events = .ok s) :
    (∃ batch, e.Batches s batch) ∧
      ∀ (b : Broker) (op : Broker.Op) (record record' : ChannelRecord), b.Tidy →
        b.openChannel? e.channel = some record → record.transactional = true →
        op ≠ .commit e.channel → (b.step op).2.openChannel? e.channel = some record' →
        record.unacked <+: record'.unacked := by
  refine ⟨?_, fun b op record record' tidy opened transactional other opened' =>
    Broker.step_retains tidy other opened transactional opened'⟩
  obtain ⟨record₀, rest₀, sound₀⟩ := e.start_sound
  obtain ⟨record, waiting, rest, settled, sound⟩ :=
    Shift.run_sound e.auto rfl ⟨record₀, [], rest₀, [], sound₀⟩ spared ran
  have unsettled : (s.broker.unsettled e.channel).map (·.tag) =
      waiting.map (·.tag) ++ s.inbox.map (·.tag) := by
    have held : s.broker.unsettled e.channel = waiting ++ rest :=
      (Broker.unsettled_eq sound.keeps.opened).trans sound.keeps.unacked
    rw [held, List.map_append, sound.inbox]
  have ascending := sound.keeps.ordered.ascending
  rw [sound.keeps.unacked, List.map_append, ← sound.inbox] at ascending
  refine ⟨waiting.map (·.tag), ?_⟩
  constructor
  case tidy => exact sound.keeps.tidy
  case opened => exact ⟨record, sound.keeps.opened, sound.keeps.mode.trans transacted,
    sound.keeps.clean⟩
  case processed =>
    refine ⟨settled, ?_, sound.verdicts⟩
    rw [sound.processed, List.map_map]
    rfl
  case ascending => exact ascending
  case unsettled => exact unsettled
  case deferred => rw [sound.stands.deferred, List.length_map]
  case below =>
    rw [List.length_map]
    exact sound.below
  case covers =>
    intro front back split settlement entered tag held
    exact covers_acceptance (split ▸ ascending) entered held
  case coversRefused =>
    intro front last back requeue split settlement entered tag held
    exact covers_refusal (split ▸ ascending) entered held
  case row =>
    intro events s' inRow ran
    obtain ⟨done, row⟩ := Shift.run_row e.auto rfl transacted sound inRow ran
    exact ⟨done, _, _, cutInto_fullBatches e.settings.batch_pos _, row⟩
  case succeeds =>
    intro delivery others waits
    obtain ⟨s', stepped, turns⟩ := Shift.success_turns e.auto rfl transacted sound waits
    exact ⟨s', _, _, stepped, cutInto_fullBatches e.settings.batch_pos _, turns⟩
  case fails => exact fun delivery others error waits =>
    Shift.failure_turns e.auto rfl transacted sound waits error
  case turnsAway => exact fun delivery others waits =>
    Shift.turnAway_turns e.auto rfl transacted sound waits
  case idles => exact Shift.idle_turns rfl sound transacted
  case settlesHosted =>
    intro w session delivery taken result hosts
    obtain ⟨s', _, _, _, stepped, -⟩ :=
      Shift.settles_advances e.auto rfl sound (show (ShiftEvent.receive result).Settles from trivial)
    obtain ⟨w', settled, hosts'⟩ := World.settle_hosts hosts rfl stepped
    exact ⟨w', s', settled, stepped, hosts'⟩
  case flushesHosted =>
    intro w session taken hosts
    obtain ⟨s', stepped, -⟩ := Shift.idle_advances rfl sound
    obtain ⟨w', flushed, hosts'⟩ := World.flush_hosts hosts rfl stepped
    exact ⟨w', s', flushed, stepped, hosts'⟩
  case closesHosted => exact fun w session pushed hosts => sound.closesBatch transacted pushed hosts

/-- Two successes wait, while others use the broker; an idle cycle commits them together. -/
theorem Engagement.run_batches_atThree :
    (Engagement.atThree true).settings.transacted = true ∧
      ∃ s, (Engagement.atThree true).start.run (Engagement.atThree true).seat
          (Engagement.atThree true).post
          [.receive (.ok ()), .elsewhere (.declare "other"), .receive (.ok ())] = .ok s ∧
        s.desk.deferred = 2 ∧ s.verdicts = [] ∧
        ∃ s', s.step (Engagement.atThree true).seat (Engagement.atThree true).post .idle = .ok s' ∧
          s'.verdicts = [(1, .ack), (2, .ack)] ∧
          s'.broker.ledger 2 = s.broker.ledger 2 ++ [.settle ⟨2, true, .ack⟩, .commit] := by
  obtain ⟨s, ran, seen⟩ := Engagement.exists_of_runAtThree
    (show (Engagement.runAtThree true [.receive (.ok ()), .elsewhere (.declare "other"),
      .receive (.ok ())]).toOption.map (fun s => (s.desk.deferred, s.verdicts, s.inbox.map (·.tag),
        (s.broker.unsettled 2).map (·.tag))) = some (2, [], [3], [1, 2, 3]) by decide +kernel)
  obtain ⟨deferred, seen⟩ := Prod.mk.inj seen
  obtain ⟨verdicts, seen⟩ := Prod.mk.inj seen
  obtain ⟨inbox, unsettled⟩ := Prod.mk.inj seen
  have spared : ∀ op, ShiftEvent.elsewhere op ∈ [ShiftEvent.receive (.ok ()),
      .elsewhere (.declare "other"), .receive (.ok ())] → (Engagement.atThree true).seat.Spares op := by
    intro op member
    obtain rfl : op = .declare "other" := by simpa using member
    trivial
  obtain ⟨⟨batch, batches⟩, -⟩ := (Engagement.atThree true).run_batches rfl spared ran
  obtain rfl : batch = [1, 2] := by
    have held : [1, 2, 3] = batch ++ [3] := unsettled.symm.trans (inbox ▸ batches.unsettled)
    exact (List.append_cancel_right (show [1, 2] ++ [3] = batch ++ [3] from held)).symm
  obtain ⟨s', idled, turns⟩ := batches.idles
  refine ⟨rfl, s, ran, deferred, verdicts, s', idled, ?_, turns.ledger⟩
  rw [turns.verdicts, verdicts]
  rfl

end QueueListener
