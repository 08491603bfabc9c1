import QueueListener.Proofs.Broker.Shelves
/-!
# The order of deliveries

**First deliveries are in the order of publishing, and the mark of a redelivery is truthful.** What
a queue delivers without the mark is a prefix of what it accepts, in its order, as long as the queue
is not deleted; and a delivery has the mark exactly if its message was delivered before and came
back.

* `Tells` — a change with its passages; they compose like the changes;
* `closeChannel_tells`, `settle_tells`, `dispatchAll_tells` — the parts of the operations;
* `Recounts`, `step_recounts` — what the passages of an operation are, for every operation;
* `run_delivers_in_order` — the statement for all runs.
-/

namespace QueueListener.Broker

/-- A change with the passages that it makes: every history goes on with them, their deliveries are
what is pushed, and nothing is accepted or dropped. -/
structure Tells (b : Broker) (log : List Passage) (b' : Broker) : Prop where
  told : ∀ past, Told past b → Told (past ++ log) b'
  pushes : b'.pushes = b.pushes ++ log.filterMap Passage.delivery?
  silent : acceptances log = []
  kept : ∀ queue, .dropped queue ∉ log

namespace Tells

variable {b b₁ b₂ : Broker} {log more : List Passage}

theorem of_idles (idles : Idles b b₁) : Tells b [] b₁ :=
  ⟨fun past told => (List.append_nil past).symm ▸ told.idle idles,
    idles.pushes.trans (List.append_nil _).symm, rfl, fun _ => List.not_mem_nil⟩

theorem refl (b : Broker) : Tells b [] b := of_idles (.refl b)

theorem trans (first : Tells b log b₁) (second : Tells b₁ more b₂) : Tells b (log ++ more) b₂ := by
  refine ⟨fun past told => ?_, ?_, ?_, fun queue member => ?_⟩
  · rw [← List.append_assoc]
    exact second.told _ (first.told past told)
  · rw [second.pushes, first.pushes, List.filterMap_append, List.append_assoc]
  · rw [acceptances_append, first.silent, second.silent, List.append_nil]
  · exact (List.mem_append.mp member).elim (first.kept queue) (second.kept queue)

/-- An idle change before. -/
theorem after_idles (idles : Idles b b₁) (tells : Tells b₁ more b₂) : Tells b more b₂ :=
  (of_idles idles).trans tells

/-- An idle change behind. -/
theorem idle (tells : Tells b log b₁) (idles : Idles b₁ b₂) : Tells b log b₂ := by
  have both := tells.trans (of_idles idles)
  rwa [List.append_nil] at both

/-- One step after the other. -/
theorem along {α : Type} {step : Broker → α → Broker} {passages : Broker → α → List Passage}
    (each : ∀ b item, Tells b (passages b item) (step b item)) (items : List α) (b : Broker) :
    Tells b (passagesAlong step passages items b) (items.foldl step b) := by
  induction items generalizing b with
  | nil => exact refl b
  | cons item rest ih => exact (each b item).trans (ih (step b item))

end Tells

/-! ### Dispatch -/

/-- The passage of a push is the delivery of its message. -/
theorem pushPassage_eq {b : Broker} {queue : String} (push : Push b queue) :
    b.pushPassage push.result queue =
      [.delivered push.message (deliveryOf queue push.consumerTag push.channel push.message)] := by
  have told : push.result.notices.back? = some (push.consumer.subscriber,
      .delivered (deliveryOf queue push.consumerTag push.channel push.message)) :=
    Array.back?_push
  unfold pushPassage
  rw [push.found, told]
  dsimp only
  rw [push.waiting]
  rfl

/-- A message is handed to a channel: the queue is one shorter, the channel may hold it. -/
theorem handed_tells {b b' : Broker} {queue : String} {record : QueueRecord} {message : Message}
    {rest : List Message} (found : b.queues.get? queue = some record)
    (waiting : record.ready = message :: rest) {f : QueueRecord → QueueRecord}
    (taken : ∀ record, (f record).ready = rest) (queues : b'.queues = b.queues.modify queue f)
    {channel tag : Nat} {autoAck : Bool} (channels : b'.channels =
      b.channels.modify channel (·.receive tag queue autoAck message))
    (lastSerial : b'.lastSerial = b.lastSerial) (consumerTag : String) (holder : ChannelRecord)
    {past : List Passage} (told : Told past b) :
    Told (past ++ [.delivered message (deliveryOf queue consumerTag holder message)]) b' := by
  refine told.deliver ((b.shelf_of_get? found).trans waiting) rfl rfl rfl rfl lastSerial
    (fun other => ?_) fun entry holds => ?_
  · have same : b'.shelf other = (b.updateQueue queue f).shelf other := shelf_congr queues other
    rw [same, shelf_updateQueue, found]
    exact if_congr Iff.rfl (taken record) rfl
  · rcases holds_modify channels holds with before | ⟨record, opened, member⟩
    · exact .inl before
    · exact (mem_receive member).imp_left fun old => ⟨channel, record, opened, old⟩

theorem push_tells {b : Broker} {queue : String} (push : Push b queue) :
    Tells b (b.pushPassage push.result queue) push.result := by
  rw [pushPassage_eq]
  refine ⟨fun past told => ?_, pushes_notify _ _ _, rfl, fun queue member => ?_⟩
  · have queues : push.result.queues = b.queues.modify queue fun record =>
        { record with
          ready := push.rest
          cursor := (push.place + 1) % record.consumers.length } := rfl
    have channels : push.result.channels = b.channels.modify push.consumer.channel
        (·.receive (push.channel.lastTag + 1) queue push.consumer.autoAck push.message) := rfl
    exact handed_tells push.found push.waiting (fun _ => rfl) queues channels rfl _ _ told
  · cases List.mem_singleton.mp member

theorem pushPassages_tells (count : Nat) (queue : String) (b : Broker) :
    Tells b (pushPassages count queue b) (pushUpTo count queue b) := by
  induction count generalizing b with
  | zero => exact .refl b
  | succ count ih =>
    rw [pushPassages, pushUpTo]
    cases pushed : b.pushNext? queue with
    | none => exact .refl b
    | some after =>
      obtain ⟨push, rfl⟩ := exists_push pushed
      exact (push_tells push).trans (ih push.result)

theorem dispatch_tells (b : Broker) (queue : String) :
    Tells b (b.dispatchPassages queue) (b.dispatch queue) :=
  pushPassages_tells (b.readyCount queue) queue b

theorem dispatchAll_tells (b : Broker) : Tells b b.dispatchAllPassages b.dispatchAll :=
  .along dispatch_tells b.queues.keys b

/-! ### Returns and verdicts -/

/-- One more message returns after the others. -/
theorem returnPassages_cons (b : Broker) (entry : Unacked) (rest : List Unacked) :
    b.returnPassages (entry :: rest) = b.returnPassages rest ++
      if b.queues.contains entry.queue then [.returned entry.queue entry.message] else [] := by
  unfold returnPassages
  rw [List.reverse_cons, List.filter_append, List.map_append]
  congr 1
  cases present : b.queues.contains entry.queue <;> simp [present]

theorem giveBack_told {b : Broker} {past : List Passage} (told : Told past b) {entry : Unacked}
    (known : Knows past entry) : Told (past ++
      if b.queues.contains entry.queue then [.returned entry.queue entry.message] else [])
      (b.giveBack entry) := by
  unfold giveBack
  dsimp only
  split
  next present =>
    obtain ⟨record, found⟩ := Table.exists_get?_of_contains present
    refine told.giveBack known rfl (fun other => ?_) fun _ holds => holds
    rw [shelf_updateQueue, found]
    split
    next here => rw [here, shelf_of_get? b found]; rfl
    next => rfl
  next =>
    rw [List.append_nil]
    exact told.idle (.of_same rfl rfl rfl rfl)

/-- **Messages return** that a history knows as delivered. -/
theorem giveBackAll_told {b : Broker} {past : List Passage} (told : Told past b)
    (entries : List Unacked) (known : ∀ entry ∈ entries, Knows past entry) :
    Told (past ++ b.returnPassages entries) (b.giveBackAll entries) := by
  induction entries with
  | nil => exact (List.append_nil past).symm ▸ told
  | cons entry rest ih =>
    have others := ih fun other member => known other (List.mem_cons_of_mem _ member)
    have same : b.queues.contains entry.queue = (b.giveBackAll rest).queues.contains entry.queue :=
      Bool.eq_iff_iff.mpr (by rw [Table.contains_iff, Table.contains_iff, giveBackAll_keys])
    rw [returnPassages_cons, ← List.append_assoc, same]
    exact giveBack_told others ((known entry List.mem_cons_self).append _)

/-- Returns are no deliveries, no acceptances and no deletions. -/
theorem returnPassages_quiet (b : Broker) (entries : List Unacked) :
    (b.returnPassages entries).filterMap Passage.delivery? = [] ∧
      acceptances (b.returnPassages entries) = [] ∧
      ∀ queue, .dropped queue ∉ b.returnPassages entries := by
  unfold acceptances returnPassages
  refine ⟨?_, ?_, fun queue member => ?_⟩
  · rw [List.filterMap_map]
    exact List.filterMap_eq_nil_iff.mpr fun _ _ => rfl
  · rw [List.filterMap_map]
    exact List.filterMap_eq_nil_iff.mpr fun _ _ => rfl
  · obtain ⟨_, _, same⟩ := List.mem_map.mp member
    cases same

/-- Deliveries are taken off a channel, and their messages return. -/
theorem taken_tells {b b₁ : Broker} (idles : Idles b b₁) (entries : List Unacked)
    (held : ∀ entry ∈ entries, b.Holds entry) :
    Tells b (b₁.returnPassages entries) (b₁.giveBackAll entries) := by
  obtain ⟨undelivered, silent, kept⟩ := b₁.returnPassages_quiet entries
  refine ⟨fun past told => giveBackAll_told (told.idle idles) entries fun entry member =>
    told.known entry (held entry member), ?_, silent, kept⟩
  obtain ⟨queues, deadLetters, same⟩ := b₁.giveBackAll_eq entries
  rw [undelivered, List.append_nil, same]
  exact idles.pushes

theorem settle_tells (channel : Nat) (b : Broker) (settlement : Settlement) :
    Tells b (b.settlePassages channel settlement) (b.settle channel settlement) := by
  unfold settlePassages settle
  cases found : b.channels.get? channel with
  | none => exact .refl b
  | some record =>
    have taken : Idles b (b.updateChannel channel (·.without settlement)) :=
      .of_channel b channel fun record => List.filter_subset_self record.unacked
    cases settlement.verdict with
    | ack => exact (Tells.of_idles taken).idle (.of_same rfl rfl rfl rfl)
    | nack requeue =>
      cases requeue with
      | true =>
        exact taken_tells taken _ fun entry member =>
          ⟨channel, record, found, (List.mem_filter.mp member).1⟩
      | false => exact (Tells.of_idles taken).idle (.of_same rfl rfl rfl rfl)

/-! ### Closing -/

theorem unregister_idles (b : Broker) (consumerTag : String) :
    Idles b (b.unregister consumerTag) := by
  unfold unregister
  split
  next => exact .refl b
  next consumer _ =>
    have erased : Idles b { b with consumers := b.consumers.erase consumerTag } :=
      .of_same rfl rfl rfl rfl
    exact erased.trans (.of_queue _ consumer.queue fun _ => rfl)

theorem endConsumer_idles (b : Broker) (cause : Option ClientError) (consumerTag : String) :
    Idles b (b.endConsumer cause consumerTag) := by
  unfold endConsumer
  split
  next => exact .refl b
  next =>
    refine (unregister_idles b consumerTag).trans (.of_notify _ _ ?_)
    cases cause <;> rfl

theorem desert_idles (b : Broker) (channel : Nat) (cause : Option ClientError) :
    Idles b (b.desert channel cause) :=
  List.foldlRecOn (motive := Idles b) _ _ (.of_channel b channel fun _ => List.nil_subset _)
    fun after idles tag _ => idles.trans (endConsumer_idles after cause tag)

/-- **The closing of a channel** returns what is unsettled on it and dispatches. -/
theorem closeChannel_tells (cause : Option ClientError) (b : Broker) (channel : Nat) :
    Tells b (b.closePassages cause channel) (b.closeChannel channel cause) := by
  unfold closePassages closeChannel
  cases opened : b.openChannel? channel with
  | none => exact .refl b
  | some record =>
    have returned := taken_tells (desert_idles b channel cause) record.unacked
      fun entry member => ⟨channel, record, get?_of_openChannel? opened, member⟩
    exact (returned.idle (.of_record _ channel .close)).trans (dispatchAll_tells _)

theorem closeConnection_tells (cause : Option ClientError) (b : Broker) (connection : Nat) :
    Tells b (disconnectPassages cause b connection) (b.closeConnection connection cause) := by
  unfold disconnectPassages closeConnection
  split
  next =>
    have marked : Idles b { b with
        connections := b.connections.modify connection fun record =>
          { record with isOpen := false } } := .of_same rfl rfl rfl rfl
    exact .after_idles marked (.along (closeChannel_tells cause) _ _)
  next => exact .refl b

/-! ### Every operation -/

/-- What the passages of an operation are: every history goes on with them, their deliveries are
those of the operation, and they accept what the operation brings into a queue. Only a deletion
drops. -/
structure Recounts (b : Broker) (op : Op) : Prop where
  told : ∀ past, Told past b → Told (past ++ b.passages op) (b.step op).2
  deliveries : (b.passages op).filterMap Passage.delivery? = (b.taken op).map (·.2) ++ b.news op
  acceptances : (acceptances (b.passages op)).map (·.2) = b.arrival op
  dropped : ∀ queue, .dropped queue ∈ b.passages op → op = .delete queue

/-- An operation that neither accepts nor drops nor delivers to its caller. -/
theorem Recounts.of_tells {b b' : Broker} {op : Op} (nothing : b.taken op = [])
    (quiet : b.arrival op = []) (result : (b.step op).2 = b') (tells : Tells b (b.passages op) b') :
    Recounts b op := by
  subst result
  refine ⟨tells.told, ?_, ?_, fun queue member => absurd member (tells.kept queue)⟩
  · rw [nothing, news, tells.pushes, List.drop_left]
    rfl
  · rw [quiet, tells.silent]
    rfl

section Operations

variable (b : Broker)

/-- **A message is accepted**, and dispatched with its queue. -/
theorem accept_recounts {op : Op} {queue : String} (payload : Payload) (properties : Properties)
    (present : b.queues.contains queue = true) (nothing : b.taken op = [])
    (arrives : b.arrival op = [b.nextMessage payload properties])
    (passages : b.passages op = b.acceptPassages queue payload properties)
    (result : (b.step op).2 = b.accept queue payload properties) : Recounts b op := by
  have tells := dispatch_tells (b.shelve queue (b.nextMessage payload properties)) queue
  have pushes : (b.accept queue payload properties).pushes = b.pushes ++ _ := tells.pushes
  have one : ∀ more, acceptances (.accepted queue (b.nextMessage payload properties) :: more) =
      (queue, b.nextMessage payload properties) :: acceptances more := fun _ => rfl
  obtain ⟨record, found⟩ := Table.exists_get?_of_contains present
  refine ⟨fun past told => ?_, ?_, ?_, fun other member => ?_⟩
  · have accepted : Told (past ++ [.accepted queue (b.nextMessage payload properties)])
        (b.shelve queue (b.nextMessage payload properties)) := by
      refine told.accept rfl rfl rfl (fun other => ?_) fun _ holds => holds
      rw [shelve, shelf_updateQueue]
      split
      next here =>
        rw [here, found, shelf_of_get? b found]
        rfl
      next => rfl
    rw [passages, result, acceptPassages, List.append_cons]
    exact tells.told _ accepted
  · rw [nothing, news, result, pushes, List.drop_left, passages]
    rfl
  · rw [passages, acceptPassages, one, tells.silent, arrives]
    rfl
  · rw [passages] at member
    rcases List.mem_cons.mp member with same | later
    · cases same
    · exact absurd later (tells.kept other)

theorem publish_recounts (queue : String) (payload : Payload) (properties : Properties) :
    Recounts b (.publish queue payload properties) := by
  have result : (b.step (.publish queue payload properties)).2 =
      (b.publish queue payload properties).2 := Reply.ofDone_snd _
  by_cases present : b.queues.contains queue = true
  · refine accept_recounts b payload properties present rfl
      (if_pos present) (if_pos present) ?_
    rw [result, publish, if_pos present]
  · have same : (b.publish queue payload properties).2 = b := by rw [publish, if_neg present]
    refine .of_tells rfl (if_neg present) (result.trans same) ?_
    rw [passages, if_neg present]
    exact .refl b

theorem publishOn_recounts (channel : Nat) (exchange queue : String) (payload : Payload)
    (properties : Properties) :
    Recounts b (.publishOn channel exchange queue payload properties) := by
  have result : (b.step (.publishOn channel exchange queue payload properties)).2 =
      (b.publishOn channel exchange queue payload properties).2 := Reply.ofDone_snd _
  by_cases routed : (b.channelOpen channel && exchange.isEmpty && b.queues.contains queue) = true
  · obtain ⟨⟨opened, default⟩, present⟩ : (b.channelOpen channel = true ∧ exchange.isEmpty = true) ∧
        b.queues.contains queue = true := by simpa using routed
    refine accept_recounts b payload properties present rfl
      (if_pos routed) (if_pos routed) ?_
    rw [result, publishOn, if_neg (by simp [opened]), if_pos (by simp [default, present])]
  · have same : (b.publishOn channel exchange queue payload properties).2 = b := by
      unfold publishOn
      by_cases opened : b.channelOpen channel = true
      · rw [opened, Bool.true_and] at routed
        rw [if_neg (by simp [opened]), if_neg routed]
      · rw [if_pos (by simp [opened])]
    refine .of_tells rfl (if_neg routed) (result.trans same) ?_
    rw [passages, if_neg routed]
    exact .refl b

/-- A queue that is deleted takes its consumers along; messages elsewhere stay. -/
theorem delete_lastSerial (queue : String) : (b.delete queue).2.lastSerial = b.lastSerial := by
  have cancelled : ∀ (tags : List String) (b : Broker),
      (tags.foldl cancelDeleted b).lastSerial = b.lastSerial := by
    intro tags b
    refine List.foldlRecOn (motive := fun after => after.lastSerial = b.lastSerial) tags
      cancelDeleted rfl fun after same tag _ => ?_
    unfold cancelDeleted
    split
    next => exact same
    next => exact same
  unfold delete
  split
  next => rfl
  next => exact cancelled _ _

/-- **A queue is deleted**: it is dropped with what waits in it. -/
theorem delete_recounts (queue : String) : Recounts b (.delete queue) := by
  cases found : b.queues.get? queue with
  | none =>
    have missing : ¬ b.queues.contains queue = true := by simp [Table.contains, found]
    have result : (b.step (.delete queue)).2 = b := by
      show (b.delete queue).2 = b
      rw [delete, found]
    refine .of_tells rfl rfl result ?_
    rw [passages, if_neg missing]
    exact .refl b
  | some record =>
    have dismisses := delete_dismisses found
    have result : (b.step (.delete queue)).2 = (b.delete queue).2 := rfl
    have passages : b.passages (.delete queue) = [.dropped queue] :=
      if_pos (Table.contains_of_get? found)
    refine ⟨fun past told => ?_, ?_, ?_, fun other member => ?_⟩
    · rw [passages, result]
      refine told.drop (b.delete_lastSerial queue) (fun other => ?_)
        fun entry => Holds.congr dismisses.channels
      rw [shelf, dismisses.queues, Table.get?_erase]
      split
      next => rfl
      next => rfl
    · rw [passages, news, result, dismisses.pushes]
      simp [taken, pushes, Passage.delivery?]
    · rw [passages]
      rfl
    · rw [passages] at member
      cases List.mem_singleton.mp member
      rfl

/-- **A request for one message** delivers the first one of the queue to its caller. -/
theorem get_recounts (channel : Nat) (queue : String) (autoAck : Bool) :
    Recounts b (.get channel queue autoAck) := by
  have result : b.step (.get channel queue autoAck) =
      Reply.ofResult Reply.delivery (b.get channel queue autoAck) := rfl
  have passages : b.passages (.get channel queue autoAck) =
      b.getPassages channel queue autoAck := rfl
  unfold getPassages at passages
  unfold Broker.get at result
  by_cases closed : (!b.channelOpen channel) = true
  · rw [if_pos closed] at passages result
    refine .of_tells ?_ rfl (congrArg Prod.snd result) (passages ▸ .refl b)
    unfold taken
    rw [result]
    rfl
  rw [if_neg closed] at passages result
  rw [Bool.not_eq_true', Bool.not_eq_false] at closed
  cases found : b.queues.get? queue with
  | none =>
    rw [found] at passages result
    refine .of_tells ?_ rfl (congrArg Prod.snd result)
      (passages ▸ closeChannel_tells none b channel)
    unfold taken
    rw [result]
    rfl
  | some record =>
    rw [found] at passages result
    dsimp only at passages result
    cases waiting : record.ready with
    | nil =>
      rw [waiting] at passages result
      refine .of_tells ?_ rfl (congrArg Prod.snd result) (passages ▸ .refl b)
      unfold taken
      rw [result]
      rfl
    | cons message rest =>
      obtain ⟨holder, opened⟩ := exists_openChannel? closed
      rw [waiting] at passages result
      dsimp only at result
      rw [handed_eq opened] at result
      rw [List.head?_cons, Option.toList_some, List.map_singleton,
        handOver_eq (get?_of_openChannel? opened)] at passages
      have taken : b.taken (.get channel queue autoAck) =
          [(channel, deliveryOf queue "" holder message)] := by
        unfold Broker.taken
        rw [result]
        rfl
      have after : (b.step (.get channel queue autoAck)).2 =
          b.handed channel holder queue message rest autoAck := congrArg Prod.snd result
      have queues : (b.handed channel holder queue message rest autoAck).queues =
          b.queues.modify queue fun record => { record with ready := rest } := rfl
      have channels : (b.handed channel holder queue message rest autoAck).channels =
          b.channels.modify channel (·.receive (holder.lastTag + 1) queue autoAck message) := rfl
      refine ⟨fun past told => ?_, ?_, ?_, fun other member => ?_⟩
      · rw [passages, after]
        exact handed_tells found waiting (fun _ => rfl) queues channels rfl "" holder told
      · have same : (b.step (.get channel queue autoAck)).2.pushes = b.pushes := by
          rw [after]
          rfl
        rw [passages, taken, news, same]
        simp [Passage.delivery?]
      · rw [passages]
        rfl
      · rw [passages] at member
        cases List.mem_singleton.mp member

theorem consume_recounts (channel : Nat) (queue requested : String) (autoAck : Bool)
    (subscriber : Nat) : Recounts b (.consume channel queue requested autoAck subscriber) := by
  have result : (b.step (.consume channel queue requested autoAck subscriber)).2 =
      (b.consume channel queue requested autoAck subscriber).2 := Reply.ofResult_snd _ _
  refine .of_tells rfl rfl result ?_
  show Tells b (b.consumePassages channel queue requested autoAck subscriber) _
  unfold consumePassages consume
  split
  next => exact .refl b
  next =>
    split
    next => exact closeChannel_tells none b channel
    next =>
      have counted : Idles b (b.chooseTag requested).2 := by
        unfold chooseTag
        split
        next => exact .of_same rfl rfl rfl rfl
        next => exact .refl b
      generalize b.chooseTag requested = chosen at counted
      obtain ⟨tag, b₁⟩ := chosen
      dsimp only at counted ⊢
      split
      next => exact .after_idles counted (closeChannel_tells none b₁ channel)
      next =>
        have added : Idles b₁ { b₁ with
            consumers := b₁.consumers.set tag ⟨queue, channel, autoAck, subscriber⟩ } :=
          .of_same rfl rfl rfl rfl
        have listed := added.trans (.of_queue _ queue
          (f := fun record => { record with consumers := record.consumers ++ [tag] }) fun _ => rfl)
        exact .after_idles (counted.trans (listed.trans (.of_record _ channel _)))
          (dispatch_tells _ queue)

theorem acknowledge_recounts (channel : Nat) (settlement : Settlement) :
    Recounts b (.acknowledge channel settlement) := by
  have result : (b.step (.acknowledge channel settlement)).2 =
      (b.acknowledge channel settlement).2 := Reply.ofDone_snd _
  refine .of_tells rfl rfl result ?_
  show Tells b (b.acknowledgePassages channel settlement) _
  unfold acknowledgePassages acknowledge
  cases b.openChannel? channel with
  | none => exact .refl b
  | some record =>
    have noted : Idles b (b.record channel (.settle settlement)) := .of_record b channel _
    dsimp only
    split
    next =>
      split
      next => exact .of_idles (noted.trans (.of_channel _ channel fun _ => List.Subset.refl _))
      next =>
        exact .after_idles noted ((settle_tells channel _ settlement).trans (dispatchAll_tells _))
    next => exact closeChannel_tells none b channel

theorem clearPending_idles (channel : Nat) (action : ChannelAction) :
    Idles b (b.clearPending channel action) :=
  (Idles.of_channel b channel (f := fun record => { record with pending := [] })
    fun _ => List.Subset.refl _).trans (.of_record _ channel action)

theorem commit_recounts (channel : Nat) : Recounts b (.commit channel) := by
  have result : (b.step (.commit channel)).2 = (b.commit channel).2 := Reply.ofDone_snd _
  refine .of_tells rfl rfl result ?_
  show Tells b (b.commitPassages channel) _
  unfold commitPassages commit
  cases b.openChannel? channel with
  | none => exact .refl b
  | some record =>
    dsimp only
    split
    next =>
      exact .after_idles (clearPending_idles b channel .commit)
        ((Tells.along (settle_tells channel) record.pending _).trans (dispatchAll_tells _))
    next => exact .refl b

theorem rollback_idles (channel : Nat) : Idles b (b.rollback channel).2 := by
  unfold rollback
  split
  next => exact .refl b
  next =>
    split
    next => exact clearPending_idles b channel .rollback
    next => exact .refl b

theorem cancel_idles (channel : Nat) (consumerTag : String) :
    Idles b (b.cancel channel consumerTag).2 := by
  unfold cancel
  split
  next => exact .refl b
  next =>
    refine Idles.trans ?_ (.of_record _ channel (.cancel consumerTag))
    split
    next =>
      split
      next => exact (unregister_idles b consumerTag).trans (.of_notify _ _ rfl)
      next => exact .refl b
    next => exact .refl b

theorem setPrefetch_recounts (channel prefetch : Nat) :
    Recounts b (.setPrefetch channel prefetch) := by
  have result : (b.step (.setPrefetch channel prefetch)).2 = (b.setPrefetch channel prefetch).2 :=
    Reply.ofDone_snd _
  refine .of_tells rfl rfl result ?_
  show Tells b (if b.channelOpen channel then _ else []) _
  unfold setPrefetch
  split
  next =>
    exact .after_idles (.of_channel b channel (f := fun record => { record with prefetch })
      fun _ => List.Subset.refl _) (dispatchAll_tells _)
  next => exact .refl b

theorem declare_idles (queue : String) : Idles b (b.declare queue).2 := by
  unfold declare
  split
  next => exact .refl b
  next missing =>
    have fresh : b.queues.get? queue = none := Option.not_isSome_iff_eq_none.mp missing
    refine ⟨rfl, fun other => ?_, fun _ holds => holds, rfl⟩
    unfold shelf
    rw [Table.get?_set]
    split
    next same =>
      rw [same, fresh]
      rfl
    next => rfl

theorem connect_idles : Idles b b.connect.2 := by
  unfold connect
  dsimp only
  split
  next => exact .of_same rfl rfl rfl rfl
  next =>
    split
    next => exact .of_same rfl rfl rfl rfl
    next => exact .of_same rfl rfl rfl rfl

/-- A new channel holds nothing. -/
theorem createChannel_idles (connection : Nat) (transactional : Bool) :
    Idles b (b.createChannel connection transactional).2 := by
  unfold createChannel
  split
  next =>
    split
    next =>
      refine ⟨rfl, fun _ => rfl, fun entry holds => ?_, rfl⟩
      obtain ⟨channel, record, found, member⟩ := holds
      rw [Table.get?_set] at found
      split at found
      next =>
        rw [← Option.some.inj found] at member
        cases member
      next => exact ⟨channel, record, found, member⟩
    next => exact .refl b
  next => exact .refl b

/-- An operation that moves no message. -/
theorem recounts_of_idles {op : Op} {b' : Broker} (nothing : b.taken op = [])
    (quiet : b.arrival op = []) (result : (b.step op).2 = b') (passages : b.passages op = [])
    (idles : Idles b b') :
    Recounts b op :=
  .of_tells nothing quiet result (passages ▸ .of_idles idles)

/-- **The passages of every operation**, refused or not, are what it does to messages. -/
theorem step_recounts (op : Op) : Recounts b op := by
  cases op with
  | declare queue => exact b.recounts_of_idles rfl rfl rfl rfl (declare_idles b queue)
  | delete queue => exact delete_recounts b queue
  | publish queue payload properties => exact publish_recounts b queue payload properties
  | refuseConnections on =>
    exact b.recounts_of_idles rfl rfl rfl rfl (.of_same rfl rfl rfl rfl)
  | rejectCredentials on =>
    exact b.recounts_of_idles rfl rfl rfl rfl (.of_same rfl rfl rfl rfl)
  | dropConnections =>
    exact .of_tells rfl rfl rfl (.along (closeConnection_tells (some forcedClosure)) _ b)
  | connect => exact b.recounts_of_idles rfl rfl (Reply.ofResult_snd _ _) rfl (connect_idles b)
  | closeConnection connection =>
    exact .of_tells rfl rfl rfl (closeConnection_tells none b connection)
  | createChannel connection transactional =>
    exact b.recounts_of_idles rfl rfl (Reply.ofResult_snd _ _) rfl
      (createChannel_idles b connection transactional)
  | setPrefetch channel prefetch => exact setPrefetch_recounts b channel prefetch
  | consume channel queue tag autoAck subscriber =>
    exact consume_recounts b channel queue tag autoAck subscriber
  | get channel queue autoAck => exact get_recounts b channel queue autoAck
  | acknowledge channel settlement => exact acknowledge_recounts b channel settlement
  | cancel channel tag =>
    exact b.recounts_of_idles rfl rfl (Reply.ofDone_snd _) rfl (cancel_idles b channel tag)
  | publishOn channel exchange queue payload properties =>
    exact publishOn_recounts b channel exchange queue payload properties
  | commit channel => exact commit_recounts b channel
  | rollback channel =>
    exact b.recounts_of_idles rfl rfl (Reply.ofDone_snd _) rfl (rollback_idles b channel)
  | confirm channel =>
    exact b.recounts_of_idles rfl rfl ((Reply.ofDone_snd _).trans (confirm_snd b channel)) rfl
      (.refl b)
  | close channel => exact .of_tells rfl rfl rfl (closeChannel_tells none b channel)

end Operations

/-! ### All runs -/

/-- The broker at the start has no history. -/
theorem told_empty : Told [] {} := by
  refine ⟨rfl, fun queue => ?_, ?_, fun before _ _ _ parts => ?_⟩
  · exact ⟨[], [], rfl, nofun, nofun, List.Sublist.refl _, fun _ => rfl⟩
  · rintro entry ⟨channel, record, found, -⟩
    cases found
  · cases before <;> cases parts

/-- **A history goes on with a run.** -/
theorem run_told {past : List Passage} {b : Broker} (told : Told past b) (ops : List Op) :
    Told (past ++ b.history ops) (b.run ops) := by
  induction ops generalizing past b with
  | nil => exact (List.append_nil past).symm ▸ told
  | cons op rest ih =>
    rw [history, ← List.append_assoc]
    exact ih ((step_recounts b op).told past told)

/-- The deliveries of a history are those of the run. -/
theorem history_deliveries (b : Broker) (ops : List Op) :
    (b.history ops).filterMap Passage.delivery? = (b.deliveries ops).map (·.2) := by
  induction ops generalizing b with
  | nil => rfl
  | cons op rest ih =>
    obtain ⟨b₁, log, unfolding⟩ := step_unfolds b op
    have pushed : (b.pushed op).map (·.2) = b.news op := by
      rw [unfolding.pushed, unfolding.news, List.map_map]
      rfl
    rw [history, deliveries, List.filterMap_append, (step_recounts b op).deliveries, ih,
      List.map_append, List.map_append, pushed]

/-- The acceptances of a history are those of the run. -/
theorem history_acceptances (b : Broker) (ops : List Op) :
    (acceptances (b.history ops)).map (·.2) = b.accepted ops := by
  induction ops generalizing b with
  | nil => rfl
  | cons op rest ih =>
    rw [history, accepted, acceptances_append, List.map_append, (step_recounts b op).acceptances,
      ih]

/-- A history drops only the queues that the run deletes. -/
theorem history_dropped {b : Broker} {queue : String} (ops : List Op)
    (dropped : .dropped queue ∈ b.history ops) : .delete queue ∈ ops := by
  induction ops generalizing b with
  | nil => cases dropped
  | cons op rest ih =>
    rcases List.mem_append.mp dropped with now | later
    · rw [(step_recounts b op).dropped queue now]
      exact List.mem_cons_self
    · exact List.mem_cons_of_mem _ (ih later)

/-- **First deliveries are in the order of publishing, and the mark is truthful.** The history of a
run has all its deliveries and all the messages that it accepts, in their order. What a queue
delivers without the mark of a redelivery is in the order of publishing, and leaves no message out
unless the queue was deleted. Every delivery brings a message that its queue accepted before; it has
no mark exactly if the message was not delivered before, and the mark exactly if the message was
delivered and came back. -/
theorem run_delivers_in_order (ops : List Op) :
    (history {} ops).filterMap Passage.delivery? = (deliveries {} ops).map (·.2) ∧
      (acceptances (history {} ops)).map (·.2) = accepted {} ops ∧
      (∀ queue, .delete queue ∉ ops →
        unmarked queue (history {} ops) <+: arrivals queue (history {} ops)) ∧
      (∀ queue, ((unmarked queue (history {} ops)).map (·.serial)).Pairwise (· < ·)) ∧
      AllTruthful (history {} ops) := by
  have told := run_told told_empty ops
  rw [List.nil_append] at told
  refine ⟨history_deliveries _ ops, history_acceptances _ ops, fun queue kept => ?_,
    fun queue => ?_, told.truthful⟩
  · obtain ⟨back, fresh, -, -, -, -, whole⟩ := told.shelved queue
    rw [← whole fun dropped => kept (history_dropped ops dropped)]
    exact List.prefix_append _ _
  · obtain ⟨back, fresh, -, -, -, part, -⟩ := told.shelved queue
    have sorted : ((acceptances (history {} ops)).map (·.2.serial)).Pairwise (· < ·) := by
      rw [told.serials]
      exact List.pairwise_lt_range'
    refine sorted.sublist (List.Sublist.trans ?_ (arrivals_serials_sublist _ queue))
    exact ((List.sublist_append_left _ _).trans part).map _

/-- A message that is rejected comes back before the others of its queue, with the mark. -/
example : ((history {} [.declare "q", .connect, .createChannel 1 false,
    .publish "q" ByteArray.empty {}, .publish "q" ByteArray.empty {}, .get 2 "q" false,
    .acknowledge 2 ⟨1, false, .nack true⟩, .get 2 "q" false, .get 2 "q" false]).filterMap
      Passage.delivery?).map (fun delivery => (delivery.tag, delivery.redelivered)) =
    [(1, false), (2, true), (3, false)] := rfl

end QueueListener.Broker
