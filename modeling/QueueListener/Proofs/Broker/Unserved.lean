import QueueListener.Proofs.Broker.Requeue
/-!
# A queue that nobody serves any more

**Where nobody is left to push to, deliveries that are rejected one by one come to stand in front of
each other**, so the one that is rejected last is first; what is left when the channel closes comes to
stand in front of them all, in the order of its tags.

* `Served` — a queue is served by one consumer alone, on a channel of its own;
* `Unserved` — nobody takes from the queue or gives to the channel;
* `closeChannel_shelf` — what waits in a queue when the channel of all its consumers closes;
* `Served.cancel` — the only consumer of a queue is cancelled;
* `Unserved.nack` — one delivery is rejected.
-/

namespace QueueListener.Broker

variable {b : Broker} {channel : Nat} {queue consumerTag : String} {entries rest : List Unacked}
  {ready : List Message}

/-- A queue is served by one consumer alone, on a plain channel of its own: what is unsettled on the
channel, and what waits in the queue. -/
structure Served (b : Broker) (channel : Nat) (queue consumerTag : String)
    (entries : List Unacked) (ready : List Message) : Prop where
  registered : b.Registered
  opened : ∃ record, b.openChannel? channel = some record ∧ record.transactional = false ∧
    record.unacked = entries
  own : ∃ consumer, b.consumers.get? consumerTag = some consumer ∧ consumer.channel = channel ∧
    consumer.queue = queue
  alone : ∀ tag consumer, b.consumers.get? tag = some consumer →
    consumer.channel = channel ∨ consumer.queue = queue → tag = consumerTag
  waiting : ∃ line, b.queues.get? queue = some line ∧ line.ready = ready

/-- Nobody takes from a queue, and nobody gives to a plain channel: what is unsettled on the one, and
what waits in the other. -/
structure Unserved (b : Broker) (channel : Nat) (queue : String) (entries : List Unacked)
    (ready : List Message) : Prop where
  registered : b.Registered
  opened : ∃ record, b.openChannel? channel = some record ∧ record.transactional = false ∧
    record.unacked = entries
  aside : ∀ tag consumer, b.consumers.get? tag = some consumer →
    consumer.channel ≠ channel ∧ consumer.queue ≠ queue
  waiting : ∃ line, b.queues.get? queue = some line ∧ line.ready = ready

/-! ### Pushes elsewhere -/

/-- A push serves a consumer of its queue. -/
theorem Registered.push_queue (registered : b.Registered) {other : String} (push : Push b other) :
    push.consumer.queue = other :=
  registered.queue_eq push.registered push.found (List.mem_of_getElem? push.listed)

/-- What is pushed goes from other queues to other channels. -/
theorem Unserved.push {other : String} (unserved : b.Unserved channel queue entries ready)
    (push : Push b other) : push.result.Unserved channel queue entries ready := by
  obtain ⟨registered, ⟨record, opened, plain, unacked⟩, aside, line, found, waits⟩ := unserved
  obtain ⟨elsewhere, another⟩ := aside push.consumerTag push.consumer push.registered
  rw [registered.push_queue push] at another
  have kept : Change (fun _ => False) b [push.pushing] push.result := .push push
  refine ⟨kept.registered registered, ⟨record, ?_, plain, unacked⟩, aside, line, ?_, waits⟩
  · rw [push_openChannel?, opened, Option.map_some, if_neg elsewhere.symm]
  · exact (Table.get?_modify_of_ne _ _ another.symm).trans found

theorem Unserved.dispatchAll (unserved : b.Unserved channel queue entries ready) :
    b.dispatchAll.Unserved channel queue entries ready :=
  dispatchAll_induction (motive := fun after => after.Unserved channel queue entries ready)
    (fun _ _ push unserved => unserved.push push) b unserved

/-- Notices do not matter. -/
theorem Unserved.collectNotices (unserved : b.Unserved channel queue entries ready) :
    b.collectNotices.2.Unserved channel queue entries ready :=
  ⟨unserved.registered.of_same rfl fun _ => rfl, unserved.opened, unserved.aside,
    unserved.waiting⟩

/-- What waits in a queue that nobody is registered with stays there. -/
theorem dispatchAll_get?_of_unserved (registered : b.Registered)
    (nobody : ∀ tag consumer, b.consumers.get? tag = some consumer → consumer.queue ≠ queue) :
    b.dispatchAll.queues.get? queue = b.queues.get? queue := by
  refine (dispatchAll_induction (motive := fun after => after.Registered ∧
    after.consumers = b.consumers ∧ after.queues.get? queue = b.queues.get? queue)
    (fun after other push ⟨registered, consumers, same⟩ => ?_) b ⟨registered, rfl, rfl⟩).2.2
  have another : push.consumer.queue ≠ queue :=
    nobody push.consumerTag push.consumer (consumers ▸ push.registered)
  rw [registered.push_queue push] at another
  have kept : Change (fun _ => False) after [push.pushing] push.result := .push push
  exact ⟨kept.registered registered, consumers,
    (Table.get?_modify_of_ne _ _ another.symm).trans same⟩

/-! ### The closing of the channel -/

theorem endConsumer_registered (registered : b.Registered) (cause : Option ClientError)
    (consumerTag : String) : (b.endConsumer cause consumerTag).Registered := by
  unfold endConsumer
  split
  next => exact registered
  next found => exact (registered.unregister found).of_same rfl fun _ => rfl

theorem desert_registered (registered : b.Registered) (channel : Nat) (cause : Option ClientError) :
    (b.desert channel cause).Registered :=
  List.foldlRecOn (motive := Registered) _ _ (registered.of_same rfl fun _ => rfl)
    fun _ registered tag _ => endConsumer_registered registered cause tag

/-- Who is still registered when a channel is deserted was registered on another one. -/
theorem desert_consumers {tag : String} {consumer : Subscription} {cause : Option ClientError}
    (still : (b.desert channel cause).consumers.get? tag = some consumer) :
    b.consumers.get? tag = some consumer ∧ consumer.channel ≠ channel := by
  obtain ⟨found, unended⟩ := foldl_endConsumer_consumers cause _ _ still
  refine ⟨found, fun same => unended (List.mem_map.mpr ⟨(tag, consumer), ?_, rfl⟩)⟩
  exact List.mem_filter.mpr ⟨Table.mem_entries_of_get? found, decide_eq_true same⟩

/-- Returned messages do not change who is registered. -/
theorem giveBackAll_registered (registered : b.Registered) (entries : List Unacked) :
    (b.giveBackAll entries).Registered := by
  obtain ⟨_, _, same⟩ := b.giveBackAll_eq entries
  refine registered.of_same (by rw [same]) fun queue => ?_
  rw [giveBackAll_get?]
  cases b.queues.get? queue <;> rfl

/-- **When the channel of all consumers of a queue closes**, what was unsettled there comes to stand in
front of what waits, in the order of its tags, and stays. -/
theorem closeChannel_shelf {record : ChannelRecord} (registered : b.Registered)
    (opened : b.openChannel? channel = some record) (present : queue ∈ b.queues.keys)
    (own : ∀ tag consumer, b.consumers.get? tag = some consumer → consumer.queue = queue →
      consumer.channel = channel) (cause : Option ClientError) :
    (b.closeChannel channel cause).shelf queue = backTo queue record.unacked ++ b.shelf queue := by
  have deserted := desert_registered registered channel cause
  have nobody : ∀ tag consumer, (b.desert channel cause).consumers.get? tag = some consumer →
      consumer.queue ≠ queue := by
    intro tag consumer still of
    obtain ⟨found, elsewhere⟩ := desert_consumers still
    exact elsewhere (own tag consumer found of)
  obtain ⟨_, _, returned⟩ := (b.desert channel cause).giveBackAll_eq record.unacked
  have stays : (b.closeChannel channel cause).queues.get? queue =
      ((b.desert channel cause).giveBackAll record.unacked).queues.get? queue := by
    rw [closeChannel_eq opened]
    exact dispatchAll_get?_of_unserved
      ((giveBackAll_registered deserted record.unacked).of_same rfl fun _ => rfl)
      (returned ▸ nobody)
  have before : (b.desert channel cause).shelf queue = b.shelf queue :=
    (desert_idles b channel cause).shelf queue
  have still : (b.desert channel cause).queues.contains queue = true :=
    Table.contains_iff.mpr ((desert_frame b channel cause).1 ▸ present)
  obtain ⟨line, found⟩ := Table.exists_get?_of_contains still
  rw [giveBackAll_get?, found, Option.map_some] at stays
  rw [shelf_of_get? _ stays, ← before, shelf_of_get? _ found]

theorem Served.close (served : b.Served channel queue consumerTag entries ready)
    (cause : Option ClientError) :
    (b.closeChannel channel cause).shelf queue = backTo queue entries ++ ready := by
  obtain ⟨registered, ⟨record, opened, -, rfl⟩, ⟨consumer, held, here, -⟩, alone, line, found, rfl⟩ :=
    served
  rw [← shelf_of_get? b found]
  refine closeChannel_shelf registered opened (Table.mem_keys_of_get? found)
    (fun tag other registered of => ?_) cause
  obtain rfl := alone tag other registered (.inr of)
  exact Option.some.inj (registered.symm.trans held) ▸ here

theorem Unserved.close (unserved : b.Unserved channel queue entries ready)
    (cause : Option ClientError) :
    (b.closeChannel channel cause).shelf queue = backTo queue entries ++ ready := by
  obtain ⟨registered, ⟨record, opened, -, rfl⟩, aside, line, found, rfl⟩ := unserved
  rw [← shelf_of_get? b found]
  exact closeChannel_shelf registered opened (Table.mem_keys_of_get? found)
    (fun tag other registered of => absurd of (aside tag other registered).2) cause

/-! ### Cancellation and rejection -/

/-- **The only consumer of a queue is cancelled**: nobody serves the queue any more. -/
theorem Served.cancel (served : b.Served channel queue consumerTag entries ready) :
    (b.cancel channel consumerTag).1 = .ok () ∧
      (b.cancel channel consumerTag).2.Unserved channel queue entries ready := by
  obtain ⟨registered, ⟨record, opened, plain, unacked⟩, ⟨consumer, held, here, of⟩, alone, line,
    found, waits⟩ := served
  have cancelled : b.cancel channel consumerTag = (.ok (),
      ((b.unregister consumerTag).notify consumer.subscriber .ended).record channel
        (.cancel consumerTag)) := by
    unfold Broker.cancel
    rw [channelOpen_of_openChannel? opened, held]
    dsimp only
    rw [if_pos here]
    rfl
  have gone := unregister_of_held held
  rw [cancelled]
  refine ⟨rfl, (registered.unregister held).of_same rfl fun _ => rfl,
    ⟨record, ?_, plain, unacked⟩, fun tag other still => ?_, ?_⟩
  · show (b.unregister consumerTag).openChannel? channel = some record
    rw [gone]
    exact opened
  · have remains : (b.consumers.erase consumerTag).get? tag = some other := by
      have kept : (b.unregister consumerTag).consumers.get? tag = some other := still
      rwa [gone] at kept
    rw [Table.get?_erase] at remains
    split at remains
    next => cases remains
    next differ =>
      exact ⟨fun same => differ (alone tag other remains (.inl same)),
        fun same => differ (alone tag other remains (.inr same))⟩
  · refine ⟨{ line with consumers := line.consumers.filter (· ≠ consumerTag) }, ?_, waits⟩
    show (b.unregister consumerTag).queues.get? queue = _
    rw [gone, of]
    show (b.queues.modify queue _).get? queue = _
    rw [Table.get?_modify_self, found, Option.map_some]

/-- **A delivery that is rejected for another try comes to stand in front** of what waits. -/
theorem Unserved.nack {entry : Unacked}
    (unserved : b.Unserved channel queue (entry :: rest) ready) (own : entry.queue = queue)
    (others : ∀ later ∈ rest, later.tag ≠ entry.tag) :
    ∃ b', b.acknowledge channel ⟨entry.tag, false, .nack true⟩ = (.ok (), b') ∧
      b'.Unserved channel queue rest (entry.returned :: ready) := by
  obtain ⟨registered, ⟨record, opened, plain, unacked⟩, aside, line, found, rfl⟩ := unserved
  have requeues : (⟨entry.tag, false, .nack true⟩ : Settlement).Requeues := rfl
  have known : (record.unacked.any fun e =>
      (⟨entry.tag, false, .nack true⟩ : Settlement).covers e.tag) = true := by
    simp [unacked, Settlement.covers]
  have covered : record.unacked.filter (fun e =>
      (⟨entry.tag, false, .nack true⟩ : Settlement).covers e.tag) = [entry] := by
    simpa [unacked, Settlement.covers] using others
  have left : (record.without ⟨entry.tag, false, .nack true⟩).unacked = rest := by
    simpa [ChannelRecord.without, unacked, Settlement.covers] using others
  have acknowledged := requeue_takesBack opened plain requeues known
  rw [covered] at acknowledged
  have single : ([entry].map (·.tag)).Pairwise (· < ·) := List.pairwise_singleton _ _
  have back := takenBack_bringsBack b channel (.settle ⟨entry.tag, false, .nack true⟩)
    (·.without ⟨entry.tag, false, .nack true⟩) single
  have front : backTo queue [entry] = [entry.returned] := by simp [backTo, own]
  refine ⟨_, acknowledged, Unserved.dispatchAll ⟨?_, ⟨_, ?_, ?_, left⟩, ?_, ?_⟩⟩
  · have changed : (b.updateChannel channel
        (·.without ⟨entry.tag, false, .nack true⟩)).Registered := registered.of_same rfl fun _ => rfl
    exact (giveBackAll_registered changed [entry]).of_same rfl fun _ => rfl
  · refine openChannel?_eq_some_iff.mpr ⟨?_, ?_⟩
    · rw [back.here, get?_of_openChannel? opened, Option.map_some]
    · exact (openChannel?_eq_some_iff.mp opened).2
  · exact plain
  · rw [takenBack_consumers]
    exact aside
  · refine ⟨_, (back.queues queue).trans (by rw [found, Option.map_some]), ?_⟩
    show backTo queue [entry] ++ line.ready = _
    rw [front]
    rfl

end QueueListener.Broker
