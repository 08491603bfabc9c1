import QueueListener.Proofs.Consumer.Returns
/-!
# Many deliveries that come back at once

**What comes back in one operation stands in every queue in the order of its tags, in front of what
waited there.** The entries of a channel belong to any queues, and they are pushed to the front one by
one, the last one first; so the entries of one queue keep their order, whatever lies between them.

* `backTo` — what comes back to one queue, as it stands there again;
* `Broker.giveBackAll_get?`, `Broker.giveBackAll_lost` — what many returns do to each queue, and to
  the dead letters;
* `Broker.BringsBack` — deliveries came back in one operation, and nothing else happened;
* `closeChannel_eq`, `requeue_takesBack` — the two operations that do so, with what they dispatch;
* `closeChannel_takesBack`, `nack_takesBack` — the same where nobody is pushed to;
* `bulk_requeue_keeps_order` — the statement for every broker without push consumers;
* `unknown_tag_closes` — a rejection that covers nothing takes everything off the channel.
-/

namespace QueueListener

/-- What comes back to a queue, as it stands there again. -/
def backTo (queue : String) (entries : List Unacked) : List Message :=
  (entries.filter (·.queue = queue)).map (·.returned)

/-- What comes back to queues that are no longer there, in the order in which it arrives. -/
def lostFrom (queues : List String) (entries : List Unacked) : List DeadLetter :=
  (entries.reverse.filter (·.queue ∉ queues)).map fun entry => ⟨entry.queue, entry.returned⟩

theorem backTo_append (queue : String) (first second : List Unacked) :
    backTo queue (first ++ second) = backTo queue first ++ backTo queue second := by
  simp only [backTo, List.filter_append, List.map_append]

/-- What is all of one queue comes back there as it is. -/
theorem backTo_of_own {queue : String} {entries : List Unacked}
    (own : ∀ entry ∈ entries, entry.queue = queue) :
    backTo queue entries = entries.map (·.returned) := by
  rw [backTo, List.filter_eq_self.mpr fun entry member => decide_eq_true (own entry member)]

theorem lostFrom_cons (queues : List String) (entry : Unacked) (rest : List Unacked) :
    lostFrom queues (entry :: rest) = lostFrom queues rest ++ lostFrom queues [entry] := by
  simp [lostFrom]

/-- The channel after a cumulative rejection: only what has a greater tag is still unsettled. -/
def ChannelRecord.above (record : ChannelRecord) (tag : Nat) : ChannelRecord :=
  { record with unacked := record.unacked.filter (tag < ·.tag) }

namespace Broker

variable {b : Broker} {channel : Nat} {record : ChannelRecord}

/-! ### Returns to the front -/

theorem giveBack_get? (b : Broker) (entry : Unacked) (queue : String) :
    (b.giveBack entry).queues.get? queue = (b.queues.get? queue).map fun record =>
      { record with ready := backTo queue [entry] ++ record.ready } := by
  have here : backTo queue [entry] = if entry.queue = queue then [entry.returned] else [] := by
    by_cases same : entry.queue = queue <;> simp [backTo, same]
  rw [here]
  unfold giveBack
  dsimp only
  by_cases present : b.queues.contains entry.queue = true
  · rw [if_pos present]
    show (b.queues.modify entry.queue _).get? queue = _
    rw [Table.get?_modify]
    by_cases same : queue = entry.queue
    · rw [if_pos same, if_pos same.symm]
      rfl
    · rw [if_neg same, if_neg (Ne.symm same)]
      simp
  · rw [if_neg present]
    by_cases same : entry.queue = queue
    · have missing : b.queues.get? queue = none :=
        same ▸ Table.get?_eq_none_iff.mpr fun listed => present (Table.contains_iff.mpr listed)
      simp only [missing, Option.map_none]
    · rw [if_neg same]
      simp

/-- **Returns keep the order of every queue**: its entries stand in front of what waited. -/
theorem giveBackAll_get? (b : Broker) (entries : List Unacked) (queue : String) :
    (b.giveBackAll entries).queues.get? queue = (b.queues.get? queue).map fun record =>
      { record with ready := backTo queue entries ++ record.ready } := by
  induction entries with
  | nil => simp [giveBackAll, backTo]
  | cons entry rest ih =>
    have first := backTo_append queue [entry] rest
    rw [List.singleton_append] at first
    show ((b.giveBackAll rest).giveBack entry).queues.get? queue = _
    rw [giveBack_get?, ih, Option.map_map, first]
    simp only [List.append_assoc]
    rfl

/-- Entries of queues that are no longer there go to the dead letters, the last one first. -/
theorem giveBackAll_lost (b : Broker) (entries : List Unacked) :
    (b.giveBackAll entries).deadLetters.toList =
      b.deadLetters.toList ++ lostFrom b.queues.keys entries := by
  induction entries with
  | nil => simp [giveBackAll, lostFrom]
  | cons entry rest ih =>
    have last : ((b.giveBackAll rest).giveBack entry).deadLetters.toList =
        (b.giveBackAll rest).deadLetters.toList ++ lostFrom b.queues.keys [entry] := by
      have known : (b.giveBackAll rest).queues.contains entry.queue = true ↔
          entry.queue ∈ b.queues.keys := by
        rw [Table.contains_iff, giveBackAll_keys]
      unfold giveBack
      dsimp only
      by_cases present : entry.queue ∈ b.queues.keys
      · rw [if_pos (known.mpr present)]
        simp [lostFrom, present, updateQueue]
      · rw [if_neg fun listed => present (known.mp listed)]
        simp [lostFrom, present, Unacked.returned]
    show ((b.giveBackAll rest).giveBack entry).deadLetters.toList = _
    rw [last, ih, List.append_assoc, ← lostFrom_cons]

theorem giveBack_record (b : Broker) (entry : Unacked) (channel : Nat) (action : ChannelAction) :
    (b.record channel action).giveBack entry = (b.giveBack entry).record channel action := by
  have same : (b.record channel action).queues = b.queues := rfl
  unfold giveBack
  rw [same]
  dsimp only
  split <;> rfl

/-- It does not matter whether the journal is written before the returns or after them. -/
theorem giveBackAll_record (b : Broker) (entries : List Unacked) (channel : Nat)
    (action : ChannelAction) :
    (b.record channel action).giveBackAll entries =
      (b.giveBackAll entries).record channel action := by
  induction entries with
  | nil => rfl
  | cons entry rest ih =>
    show ((b.record channel action).giveBackAll rest).giveBack entry =
      ((b.giveBackAll rest).giveBack entry).record channel action
    rw [ih, giveBack_record]

/-! ### Without consumers -/

/-- Nothing is pushed where nobody is registered. -/
theorem dispatchAll_of_nobody (nobody : b.consumers = .empty) : b.dispatchAll = b := by
  refine dispatchAll_induction (motive := fun after => after = b) ?_ b rfl
  rintro _ queue push rfl
  have registered := push.registered
  rw [nobody, Table.get?_empty] at registered
  cases registered

/-- A channel without consumers is only shut. -/
theorem desert_of_nobody (nobody : b.consumers = .empty) (channel : Nat)
    (cause : Option ClientError) :
    b.desert channel cause = b.updateChannel channel ChannelRecord.shut := by
  have none : (b.updateChannel channel ChannelRecord.shut).tagsOn channel = [] := by
    show (b.consumers.entries.filter _).map _ = []
    rw [nobody]
    rfl
  unfold desert
  dsimp only
  rw [none, List.foldl_nil]

/-! ### Operations that bring deliveries back -/

/-- The broker after deliveries came back from a channel that changed, with the entry of the journal. -/
def takenBack (b : Broker) (channel : Nat) (action : ChannelAction)
    (change : ChannelRecord → ChannelRecord) (entries : List Unacked) : Broker :=
  ((b.updateChannel channel change).giveBackAll entries).record channel action

/-- Deliveries came back from a channel in one operation. Every queue that exists has its own in
front of what waited, in the order of their tags; the channel changes as told; nothing else does. -/
structure BringsBack (b : Broker) (channel : Nat) (action : ChannelAction)
    (change : ChannelRecord → ChannelRecord) (entries : List Unacked) (b' : Broker) : Prop where
  queues : ∀ queue, b'.queues.get? queue = (b.queues.get? queue).map fun record =>
    { record with ready := backTo queue entries ++ record.ready }
  ascending : ∀ queue, ((entries.filter (·.queue = queue)).map (·.tag)).Pairwise (· < ·)
  lost : b'.deadLetters.toList = b.deadLetters.toList ++ lostFrom b.queues.keys entries
  here : b'.channels.get? channel = (b.channels.get? channel).map change
  elsewhere : ∀ other ≠ channel, b'.channels.get? other = b.channels.get? other
  frame : b' = { b with
    queues := b'.queues
    deadLetters := b'.deadLetters
    channels := b'.channels
    journal := b.journal.push ⟨channel, action⟩ }

theorem takenBack_consumers (b : Broker) (channel : Nat) (action : ChannelAction)
    (change : ChannelRecord → ChannelRecord) (entries : List Unacked) :
    (b.takenBack channel action change entries).consumers = b.consumers := by
  obtain ⟨_, _, same⟩ := (b.updateChannel channel change).giveBackAll_eq entries
  unfold takenBack
  rw [same]
  rfl

theorem takenBack_bringsBack (b : Broker) (channel : Nat) (action : ChannelAction)
    (change : ChannelRecord → ChannelRecord) {entries : List Unacked}
    (ascending : (entries.map (·.tag)).Pairwise (· < ·)) :
    BringsBack b channel action change entries (b.takenBack channel action change entries) := by
  have queues := giveBackAll_get? (b.updateChannel channel change) entries
  have lost := giveBackAll_lost (b.updateChannel channel change) entries
  obtain ⟨_, _, same⟩ := (b.updateChannel channel change).giveBackAll_eq entries
  refine ⟨queues, fun queue => ascending.sublist (List.filter_sublist.map _), lost, ?_,
    fun other differ => ?_, ?_⟩
  · unfold takenBack
    rw [same]
    exact Table.get?_modify_self b.channels channel change
  · unfold takenBack
    rw [same]
    exact Table.get?_modify_of_ne b.channels change differ
  · unfold takenBack
    rw [same]
    rfl

/-- The closing of an open channel: its consumers end, and what was unsettled comes back. -/
theorem closeChannel_eq (opened : b.openChannel? channel = some record)
    (cause : Option ClientError) :
    b.closeChannel channel cause =
      (((b.desert channel cause).giveBackAll record.unacked).record channel .close).dispatchAll := by
  unfold closeChannel
  rw [opened]
  rfl

/-- **The closing of a channel** takes back everything that was unsettled there. -/
theorem closeChannel_takesBack (nobody : b.consumers = .empty)
    (opened : b.openChannel? channel = some record) (cause : Option ClientError) :
    b.closeChannel channel cause =
      b.takenBack channel .close ChannelRecord.shut record.unacked := by
  rw [closeChannel_eq opened, desert_of_nobody nobody]
  exact dispatchAll_of_nobody ((takenBack_consumers b channel _ _ _).trans nobody)

/-- **A rejection for another try** on a plain channel takes back what it covers, and dispatches. -/
theorem requeue_takesBack (opened : b.openChannel? channel = some record)
    (plain : record.transactional = false) {settlement : Settlement}
    (requeues : settlement.Requeues)
    (known : (record.unacked.any fun entry => settlement.covers entry.tag) = true) :
    b.acknowledge channel settlement = (.ok (),
      (b.takenBack channel (.settle settlement) (·.without settlement)
        (record.unacked.filter fun entry => settlement.covers entry.tag)).dispatchAll) := by
  have settled : (b.record channel (.settle settlement)).settle channel settlement =
      b.takenBack channel (.settle settlement) (·.without settlement)
        (record.unacked.filter fun entry => settlement.covers entry.tag) := by
    have found : (b.record channel (.settle settlement)).channels.get? channel = some record :=
      get?_of_openChannel? opened
    have verdict : settlement.verdict = .nack true := requeues
    unfold settle
    rw [found, verdict]
    show ((b.updateChannel channel (·.without _)).record channel _).giveBackAll _ = _
    exact giveBackAll_record _ _ _ _
  unfold acknowledge
  rw [opened]
  dsimp only
  rw [if_pos known, plain, if_neg nofun, settled]

/-- **A cumulative rejection for another try** takes back everything up to a tag. -/
theorem nack_takesBack (nobody : b.consumers = .empty)
    (opened : b.openChannel? channel = some record) (plain : record.transactional = false)
    {tag : Nat} (covers : ∃ entry ∈ record.unacked, entry.tag ≤ tag) :
    b.acknowledge channel ⟨tag, true, .nack true⟩ = (.ok (),
      b.takenBack channel (.settle ⟨tag, true, .nack true⟩) (·.above tag)
        (record.unacked.filter (·.tag ≤ tag))) := by
  have known : (record.unacked.any fun entry =>
      (⟨tag, true, .nack true⟩ : Settlement).covers entry.tag) = true := by
    simpa [Settlement.covers] using covers
  have requeues : (⟨tag, true, .nack true⟩ : Settlement).Requeues := rfl
  have change : (·.without ⟨tag, true, .nack true⟩) = (·.above tag : ChannelRecord → _) := by
    funext record
    simp only [ChannelRecord.without, ChannelRecord.above, Settlement.covers, if_true,
      ← decide_not, Nat.not_le]
  rw [requeue_takesBack opened plain requeues known, change,
    dispatchAll_of_nobody ((takenBack_consumers b channel _ _ _).trans nobody)]
  rfl

/-- A rejection that covers nothing is refused, and the channel closes. -/
theorem nack_unknown (opened : b.openChannel? channel = some record) {tag : Nat}
    (beyond : ∀ entry ∈ record.unacked, tag < entry.tag) :
    b.acknowledge channel ⟨tag, true, .nack true⟩ =
      (.error (unknownTag tag), b.closeChannel channel none) := by
  have unknown : ¬ (record.unacked.any fun entry =>
      (⟨tag, true, .nack true⟩ : Settlement).covers entry.tag) = true := by
    simpa [Settlement.covers] using beyond
  unfold acknowledge
  rw [opened]
  dsimp only
  rw [if_neg unknown]

/-- **What comes back in bulk keeps its order.** In every broker without push consumers, the closing
of an open channel, for any cause, and a cumulative rejection for another try that covers something,
on a plain channel, put the deliveries that come back in front of their queues: every queue that
exists has its own, and only these, as redelivered and in the order of their tags (as which the broker
keeps them in every run, `run_coherent`) before what waited; those of queues that do not exist become
dead letters. What is not covered stays unsettled, and other channels and queues stay as they were. A
rejection that covers nothing is refused, and closes the channel. -/
theorem bulk_requeue_keeps_order (nobody : b.consumers = .empty)
    (opened : b.openChannel? channel = some record)
    (ascending : (record.unacked.map (·.tag)).Pairwise (· < ·)) :
    (∀ cause, BringsBack b channel .close ChannelRecord.shut record.unacked
      (b.closeChannel channel cause)) ∧
    (record.transactional = false → ∀ tag,
      ((∃ entry ∈ record.unacked, entry.tag ≤ tag) →
        ∃ b', b.acknowledge channel ⟨tag, true, .nack true⟩ = (.ok (), b') ∧
          BringsBack b channel (.settle ⟨tag, true, .nack true⟩) (·.above tag)
            (record.unacked.filter (·.tag ≤ tag)) b') ∧
      ((∀ entry ∈ record.unacked, tag < entry.tag) →
        b.acknowledge channel ⟨tag, true, .nack true⟩ =
          (.error (unknownTag tag), b.closeChannel channel none))) := by
  refine ⟨fun cause => ?_, fun plain tag => ⟨fun covers => ?_, nack_unknown opened⟩⟩
  · rw [closeChannel_takesBack nobody opened cause]
    exact takenBack_bringsBack b channel _ _ ascending
  · exact ⟨_, nack_takesBack nobody opened plain covers,
      takenBack_bringsBack b channel _ _ (ascending.sublist (List.filter_sublist.map _))⟩

/-- Four deliveries of three queues on one channel, unsettled; one of the queues is gone. -/
def interleaved : Broker :=
  run {} [.declare "orders", .declare "audit", .declare "lost", .connect, .createChannel 1 false,
    .publish "orders" ByteArray.empty {}, .publish "audit" ByteArray.empty {},
    .publish "lost" ByteArray.empty {}, .publish "orders" ByteArray.empty {},
    .publish "orders" ByteArray.empty {}, .get 2 "orders" false, .get 2 "audit" false,
    .get 2 "lost" false, .get 2 "orders" false, .delete "lost"]

/-- The channel of these deliveries. -/
def interleavedRecord : ChannelRecord :=
  { connection := 1, number := 1, isOpen := true, transactional := false, lastTag := 4
    unacked := [⟨1, "orders", 1, ByteArray.empty, {}, false⟩,
      ⟨2, "audit", 2, ByteArray.empty, {}, false⟩, ⟨3, "lost", 3, ByteArray.empty, {}, false⟩,
      ⟨4, "orders", 4, ByteArray.empty, {}, false⟩] }

theorem bulk_requeue_keeps_order_interleaved :
    interleaved.consumers = .empty ∧ interleaved.openChannel? 2 = some interleavedRecord ∧
      (interleavedRecord.unacked.map (·.tag)).Pairwise (· < ·) ∧
      BringsBack interleaved 2 .close ChannelRecord.shut interleavedRecord.unacked
        (interleaved.closeChannel 2 none) ∧
      (∃ b', interleaved.acknowledge 2 ⟨3, true, .nack true⟩ = (.ok (), b') ∧
        BringsBack interleaved 2 (.settle ⟨3, true, .nack true⟩) (·.above 3)
          (interleavedRecord.unacked.filter (·.tag ≤ 3)) b') ∧
      backTo "orders" interleavedRecord.unacked =
        [⟨1, ByteArray.empty, {}, true⟩, ⟨4, ByteArray.empty, {}, true⟩] := by
  have opened : interleaved.openChannel? 2 = some interleavedRecord := by decide +kernel
  have ascending : (interleavedRecord.unacked.map (·.tag)).Pairwise (· < ·) := by decide
  obtain ⟨closed, rejected⟩ := bulk_requeue_keeps_order rfl opened ascending
  have covers : ∃ entry ∈ interleavedRecord.unacked, entry.tag ≤ 3 :=
    ⟨_, List.mem_cons_self, by decide⟩
  exact ⟨rfl, opened, ascending, closed none, (rejected rfl 3).1 covers, rfl⟩

/-- **A rejection that covers nothing closes the channel**: what has a greater tag is no longer
unsettled there. -/
theorem unknown_tag_closes :
    let b := run {} [.declare "orders", .publish "orders" ByteArray.empty {},
      .publish "orders" ByteArray.empty {}, .connect, .createChannel 1 false,
      .get 2 "orders" false, .get 2 "orders" false, .acknowledge 2 ⟨1, false, .ack⟩]
    let after := b.acknowledge 2 ⟨1, true, .nack true⟩
    b.consumers = .empty ∧ (b.openChannel? 2).map (·.transactional) = some false ∧
      (b.unsettled 2).map (·.tag) = [2] ∧ after.1 = .error (unknownTag 1) ∧
      after.2.unsettled 2 = [] ∧ (after.2.shelf "orders").map (·.serial) = [2] := by
  decide +kernel

end Broker

end QueueListener
