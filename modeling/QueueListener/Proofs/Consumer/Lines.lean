import QueueListener.Proofs.Consumer.Returns
/-!
# What a subscriber has been sent

**Whatever a subscriber was sent and has not taken up is unsettled at the broker**, with a tag behind
all that it has taken up, as long as its channel is open and nobody settles what has not been taken
up. So it is after every operation, whoever asks for it.

* `Line` — a subscriber, its channel, how far it has got, and what others settle on its channel;
* `Broker.Lines` — what was sent and not taken up is unsettled, in the order of the tags;
* `Line.Leaves`, `Line.Keeps` — changes that send nothing, and changes that keep the line;
* `push_keeps`, `closeChannel_keeps`, `settle_keeps` — the parts of the operations;
* `Op.Heeds`, `step_keeps` — every operation that does not settle too much.
-/

namespace QueueListener

/-- A subscriber with its channel. -/
structure Line where
  subscriber : Nat
  channel : Nat
  /-- The last tag that the subscriber has taken up. -/
  floor : Nat := 0
  /-- The tags that are settled by others than the consumer, whenever they like. -/
  freed : Nat → Prop

/-- Whether a delivery that was sent is still to be taken up, and nobody else settles it. -/
def Line.Awaits (line : Line) (tag : Nat) : Prop := line.floor < tag ∧ ¬ line.freed tag

/-- A settlement concerns nothing that is still to be taken up. -/
def Line.Spares (line : Line) (s : Settlement) : Prop :=
  ∀ tag, line.Awaits tag → s.covers tag = false

/-- An unsettled delivery is the one that was sent. -/
structure Unacked.Brings (entry : Unacked) (delivery : Delivery) : Prop where
  tag : entry.tag = delivery.tag
  queue : entry.queue = delivery.queue
  payload : entry.message.payload = delivery.payload
  properties : entry.message.properties = delivery.properties
  redelivered : entry.message.redelivered = delivery.redelivered

namespace Broker

/-- What was sent to a subscriber and not taken up: first what it has received (`waiting`), then what
the broker has yet to hand over. -/
structure Lines (b : Broker) (line : Line) (waiting : List Delivery) : Prop where
  /-- The subscriber is registered on its channel only, and acknowledges. -/
  sited : ∀ tag consumer, b.consumers.get? tag = some consumer →
    consumer.subscriber = line.subscriber →
      consumer.channel = line.channel ∧ consumer.autoAck = false
  ascending : (line.floor :: (waiting ++ b.deliveriesFor line.subscriber).map (·.tag)).Pairwise
    (· < ·)
  bounded : ∀ tag ∈ line.floor :: (waiting ++ b.deliveriesFor line.subscriber).map (·.tag),
    tag ≤ b.lastTagOf line.channel
  unsettled : ∀ record, b.openChannel? line.channel = some record →
    ∀ delivery ∈ waiting ++ b.deliveriesFor line.subscriber, ¬ line.freed delivery.tag →
      ∃ entry ∈ record.unacked, entry.Brings delivery
  spared : ∀ record, b.openChannel? line.channel = some record →
    ∀ s ∈ record.pending, line.Spares s

end Broker

open Broker

variable {line : Line} {b b₁ b₂ : Broker}

/-- The last tag of a channel does not go back. -/
theorem Broker.lastTagOf_le_of_modify {channel : Nat} {f : ChannelRecord → ChannelRecord}
    (same : b₁.channels = b.channels.modify channel f)
    (lastTag : ∀ record, b.channels.get? channel = some record →
      record.lastTag ≤ (f record).lastTag) (other : Nat) :
    b.lastTagOf other ≤ b₁.lastTagOf other := by
  unfold lastTagOf
  rw [same, Table.get?_modify]
  by_cases here : other = channel
  · subst here
    rw [if_pos rfl]
    cases found : b.channels.get? other with
    | none => exact Nat.le_refl _
    | some record => exact lastTag record found
  · rw [if_neg here]

/-- What a channel receives comes behind what is unsettled. -/
theorem ChannelRecord.mem_receive {record : ChannelRecord} {entry : Unacked}
    (held : entry ∈ record.unacked) (tag : Nat) (queue : String) (autoAck : Bool)
    (message : Message) : entry ∈ (record.receive tag queue autoAck message).unacked := by
  unfold receive
  cases autoAck with
  | true => exact held
  | false => exact List.mem_append_left _ held

/-- What waits behind the floor is awaited. -/
theorem Broker.Lines.awaits {waiting : List Delivery} (lines : b.Lines line waiting)
    {delivery : Delivery} (waits : delivery ∈ waiting ++ b.deliveriesFor line.subscriber)
    (kept : ¬ line.freed delivery.tag) : line.Awaits delivery.tag :=
  ⟨(List.pairwise_cons.mp lines.ascending).1 _ (List.mem_map_of_mem waits), kept⟩

/-- On a channel that has delivered nothing, nothing was sent. -/
theorem Broker.Lines.nothing {waiting : List Delivery} (lines : b.Lines line waiting)
    (unnumbered : b.lastTagOf line.channel = 0) : waiting ++ b.deliveriesFor line.subscriber = [] := by
  refine List.eq_nil_iff_forall_not_mem.mpr fun delivery sent => ?_
  have among := List.mem_map_of_mem (f := (·.tag)) sent
  have behind := (List.pairwise_cons.mp lines.ascending).1 _ among
  have bound := lines.bounded _ (List.mem_cons_of_mem _ among)
  rw [unnumbered] at bound
  exact absurd behind (Nat.not_lt.mpr (Nat.le_trans bound (Nat.zero_le _)))

namespace Line

/-- A change that takes nothing back that was sent, and keeps the line, whatever waits. -/
structure Keeps (line : Line) (b b' : Broker) : Prop where
  tells : ∃ news,
    b'.deliveriesFor line.subscriber = b.deliveriesFor line.subscriber ++ news
  lines : ∀ waiting, b.Lines line waiting → b'.Lines line waiting

theorem Keeps.refl (line : Line) (b : Broker) : line.Keeps b b :=
  ⟨⟨[], (List.append_nil _).symm⟩, fun _ => id⟩

theorem Keeps.trans (first : line.Keeps b b₁) (second : line.Keeps b₁ b₂) : line.Keeps b b₂ := by
  obtain ⟨news, told⟩ := first.tells
  obtain ⟨more, told'⟩ := second.tells
  refine ⟨⟨news ++ more, ?_⟩, fun waiting lines => second.lines waiting (first.lines waiting lines)⟩
  rw [told', told, List.append_assoc]

/-- One change after the other. -/
theorem Keeps.foldl {α : Type} {f : Broker → α → Broker} (items : List α)
    (kept : ∀ now, ∀ item ∈ items, line.Keeps now (f now item)) (b : Broker) :
    line.Keeps b (items.foldl f b) :=
  List.foldlRecOn (motive := line.Keeps b) items f (.refl line b)
    fun now keeps item member => keeps.trans (kept now item member)

/-- A change that sends the subscriber nothing and settles nothing that it awaits. -/
structure Leaves (line : Line) (b b' : Broker) : Prop where
  consumers : ∀ tag consumer,
    b'.consumers.get? tag = some consumer → b.consumers.get? tag = some consumer
  told : b'.deliveriesFor line.subscriber = b.deliveriesFor line.subscriber
  lastTag : b.lastTagOf line.channel ≤ b'.lastTagOf line.channel
  opened : ∀ record', b'.openChannel? line.channel = some record' →
    ∃ record, b.openChannel? line.channel = some record ∧
      (∀ entry ∈ record.unacked, line.Awaits entry.tag → entry ∈ record'.unacked) ∧
      ∀ s ∈ record'.pending, s ∈ record.pending ∨ line.Spares s

namespace Leaves

theorem keeps (leaves : line.Leaves b b₁) : line.Keeps b b₁ := by
  obtain ⟨consumers, told, lastTag, opened⟩ := leaves
  refine ⟨⟨[], told.trans (List.append_nil _).symm⟩, fun waiting lines => ?_⟩
  refine ⟨fun tag consumer found => lines.sited tag consumer (consumers tag consumer found), ?_, ?_,
    fun record' after delivery waits kept => ?_, fun record' after s pending => ?_⟩
  · rw [told]
    exact lines.ascending
  · rw [told]
    exact fun tag member => Nat.le_trans (lines.bounded tag member) lastTag
  · rw [told] at waits
    obtain ⟨record, before, stays, -⟩ := opened record' after
    obtain ⟨entry, held, brings⟩ := lines.unsettled record before delivery waits kept
    exact ⟨entry, stays entry held (brings.tag ▸ lines.awaits waits kept), brings⟩
  · obtain ⟨record, before, -, waits⟩ := opened record' after
    exact (waits s pending).elim (lines.spared record before s) id

/-- The channel of the line is left alone. -/
theorem of_same
    (consumers : ∀ tag consumer,
      b₁.consumers.get? tag = some consumer → b.consumers.get? tag = some consumer)
    (told : b₁.deliveriesFor line.subscriber = b.deliveriesFor line.subscriber)
    (same : b₁.channels.get? line.channel = b.channels.get? line.channel) : line.Leaves b b₁ := by
  have opened : b₁.openChannel? line.channel = b.openChannel? line.channel := by
    unfold openChannel?
    rw [same]
  refine ⟨consumers, told, Nat.le_of_eq ?_, fun record after => ?_⟩
  · unfold lastTagOf
    rw [same]
  · exact ⟨record, opened ▸ after, fun _ held _ => held, fun _ => .inl⟩

/-- Only what is not of the line has changed. -/
theorem of_quiet (consumers : b₁.consumers = b.consumers) (notices : b₁.notices = b.notices)
    (channels : b₁.channels = b.channels) : line.Leaves b b₁ :=
  of_same (fun _ _ found => consumers ▸ found) (by unfold deliveriesFor; rw [notices])
    (by rw [channels])

/-- A change of a channel that neither opens nor closes it. -/
theorem of_modify (channel : Nat) {f : ChannelRecord → ChannelRecord}
    (consumers : b₁.consumers = b.consumers)
    (told : b₁.deliveriesFor line.subscriber = b.deliveriesFor line.subscriber)
    (same : b₁.channels = b.channels.modify channel f)
    (kept : ∀ record, (f record).isOpen = record.isOpen)
    (lastTag : ∀ record, b.channels.get? channel = some record →
      record.lastTag ≤ (f record).lastTag)
    (stays : channel = line.channel → ∀ record : ChannelRecord,
      (∀ entry ∈ record.unacked, line.Awaits entry.tag → entry ∈ (f record).unacked) ∧
        ∀ s ∈ (f record).pending, s ∈ record.pending ∨ line.Spares s) : line.Leaves b b₁ := by
  refine ⟨fun _ _ found => consumers ▸ found, told,
    lastTagOf_le_of_modify same lastTag _, fun record' after => ?_⟩
  rw [openChannel?_modify kept same] at after
  obtain ⟨record, before, rfl⟩ := Option.map_eq_some_iff.mp after
  refine ⟨record, before, ?_⟩
  split
  next here => exact stays here.symm record
  next => exact ⟨fun _ held _ => held, fun _ => .inl⟩

end Leaves

/-! ### The parts of the operations -/

/-- **A push of which the subscriber hears comes behind all that it was sent.** -/
theorem push_keeps {queue : String} (push : Push b queue) : line.Keeps b push.result := by
  have told : push.result.deliveriesFor line.subscriber = b.deliveriesFor line.subscriber ++
      if push.consumer.subscriber = line.subscriber then
        [deliveryOf queue push.consumerTag push.channel push.message] else [] :=
    deliveriesFor_notify b push.consumer.subscriber (.delivered _) line.subscriber
  have same : push.result.channels = b.channels.modify push.consumer.channel
      (·.receive (push.channel.lastTag + 1) queue push.consumer.autoAck push.message) := rfl
  refine ⟨⟨_, told⟩, fun waiting lines => ?_⟩
  by_cases mine : push.consumer.subscriber = line.subscriber
  · obtain ⟨on, acknowledges⟩ := lines.sited _ _ push.registered mine
    have found : b.openChannel? line.channel = some push.channel := on ▸ push.opened
    have whole : waiting ++ push.result.deliveriesFor line.subscriber =
        (waiting ++ b.deliveriesFor line.subscriber) ++
          [deliveryOf queue push.consumerTag push.channel push.message] := by
      rw [told, if_pos mine, List.append_assoc]
    have last : b.lastTagOf line.channel = push.channel.lastTag :=
      lastTagOf_of_get? (get?_of_openChannel? found)
    have opened : push.result.openChannel? line.channel =
        some (push.channel.receive (push.channel.lastTag + 1) queue push.consumer.autoAck
          push.message) := by
      rw [push_openChannel?, found, Option.map_some, if_pos on.symm]
    have last' : push.result.lastTagOf line.channel = push.channel.lastTag + 1 :=
      lastTagOf_of_get? (get?_of_openChannel? opened)
    refine ⟨lines.sited, ?_, ?_, fun record after => ?_, fun record after => ?_⟩
    · rw [whole, List.map_append, ← List.cons_append]
      refine List.pairwise_append.mpr ⟨lines.ascending, List.pairwise_singleton _ _, ?_⟩
      rintro tag before _ new
      rw [List.mem_singleton.mp new]
      exact Nat.lt_succ_of_le (last ▸ lines.bounded tag before)
    · rw [whole, last', List.map_append, ← List.cons_append]
      intro tag member
      rcases List.mem_append.mp member with before | new
      · exact Nat.le_succ_of_le (last ▸ lines.bounded tag before)
      · exact Nat.le_of_eq (List.mem_singleton.mp new)
    · obtain rfl := Option.some.inj (opened.symm.trans after)
      rw [whole]
      intro delivery waits kept
      rcases List.mem_append.mp waits with before | new
      · obtain ⟨entry, held, brings⟩ := lines.unsettled _ found delivery before kept
        exact ⟨entry, ChannelRecord.mem_receive held _ _ _ _, brings⟩
      · refine ⟨⟨push.channel.lastTag + 1, queue, push.message⟩, ?_, ?_⟩
        · unfold ChannelRecord.receive
          rw [acknowledges]
          exact List.mem_append_right _ (List.mem_singleton.mpr rfl)
        · rw [List.mem_singleton.mp new]
          exact ⟨rfl, rfl, rfl, rfl, rfl⟩
    · obtain rfl := Option.some.inj (opened.symm.trans after)
      exact lines.spared push.channel found
  · rw [if_neg mine, List.append_nil] at told
    have leaves : line.Leaves b push.result := by
      refine .of_modify _ rfl told same (by exact fun _ => rfl) (fun record there => ?_)
        fun _ _ => ⟨fun _ held _ => ChannelRecord.mem_receive held _ _ _ _, fun _ => .inl⟩
      obtain rfl := Option.some.inj ((get?_of_openChannel? push.opened).symm.trans there)
      exact Nat.le_succ _
    exact leaves.keeps.lines waiting lines

theorem dispatch_keeps (b : Broker) (queue : String) : line.Keeps b (b.dispatch queue) :=
  dispatch_induction (motive := line.Keeps b) (fun _ _ push keeps => keeps.trans (push_keeps push))
    queue b (.refl line b)

theorem dispatchAll_keeps (b : Broker) : line.Keeps b b.dispatchAll :=
  dispatchAll_induction (motive := line.Keeps b)
    (fun _ _ push keeps => keeps.trans (push_keeps push)) b (.refl line b)

theorem notify_leaves (b : Broker) (addressee : Nat) {notice : Notice}
    (silent : notice.delivery? = none) : line.Leaves b (b.notify addressee notice) := by
  refine .of_same (fun _ _ found => found) ?_ rfl
  rw [deliveriesFor_notify]
  cases notice with
  | delivered delivery => cases silent
  | cancelled | shutdown | ended => exact List.append_nil _

theorem unregister_leaves (b : Broker) (consumerTag : String) :
    line.Leaves b (b.unregister consumerTag) := by
  unfold unregister
  split
  next => exact .of_quiet rfl rfl rfl
  next => exact .of_same (fun _ _ found => Table.get?_of_get?_erase found) rfl rfl

theorem endConsumer_keeps (b : Broker) (cause : Option ClientError) (consumerTag : String) :
    line.Keeps b (b.endConsumer cause consumerTag) := by
  unfold endConsumer
  split
  next => exact .refl line b
  next =>
    refine (unregister_leaves b consumerTag).keeps.trans (notify_leaves _ _ ?_).keeps
    cases cause <;> rfl

theorem giveBackAll_keeps (b : Broker) (entries : List Unacked) :
    line.Keeps b (b.giveBackAll entries) := by
  obtain ⟨queues, deadLetters, same⟩ := b.giveBackAll_eq entries
  rw [same]
  exact Leaves.keeps (.of_quiet rfl rfl rfl)

theorem record_keeps (b : Broker) (channel : Nat) (action : ChannelAction) :
    line.Keeps b (b.record channel action) := Leaves.keeps (.of_quiet rfl rfl rfl)

/-- A channel that closes has nothing unsettled; another one is left alone. -/
theorem shut_leaves (b : Broker) (channel : Nat) :
    line.Leaves b (b.updateChannel channel ChannelRecord.shut) := by
  refine ⟨fun _ _ found => found, rfl,
    lastTagOf_le_of_modify (f := ChannelRecord.shut) rfl (fun _ _ => Nat.le_refl _) _,
    fun record' after => ?_⟩
  · obtain ⟨found, isOpen⟩ := openChannel?_eq_some_iff.mp after
    unfold updateChannel at found
    dsimp only at found
    rw [Table.get?_modify] at found
    split at found
    next =>
      obtain ⟨_, -, rfl⟩ := Option.map_eq_some_iff.mp found
      cases isOpen
    next =>
      exact ⟨record', openChannel?_eq_some_iff.mpr ⟨found, isOpen⟩, fun _ held _ => held,
        fun _ => .inl⟩

/-- **The closing of a channel keeps the line**, whichever channel it is. -/
theorem closeChannel_keeps (b : Broker) (channel : Nat) (cause : Option ClientError) :
    line.Keeps b (b.closeChannel channel cause) := by
  unfold closeChannel
  split
  next => exact .refl line b
  next record _ =>
    refine (shut_leaves b channel).keeps.trans ?_
    dsimp only
    have same : (b.updateChannel channel fun record =>
        { record with isOpen := false, pending := [], unacked := [] }) =
      b.updateChannel channel ChannelRecord.shut := rfl
    rw [same]
    generalize b.updateChannel channel ChannelRecord.shut = after
    have ended : line.Keeps after
        ((after.tagsOn channel).foldl (fun b tag => b.endConsumer cause tag) after) :=
      .foldl _ (fun now tag _ => endConsumer_keeps now cause tag) after
    exact ((ended.trans (giveBackAll_keeps _ record.unacked)).trans (record_keeps _ _ _)).trans
      (dispatchAll_keeps _)

theorem closeConnection_keeps (b : Broker) (connection : Nat) (cause : Option ClientError) :
    line.Keeps b (b.closeConnection connection cause) := by
  unfold closeConnection
  split
  next =>
    dsimp only
    refine Keeps.trans ?_ (.foldl _ (fun now channel _ => closeChannel_keeps now channel cause) _)
    exact Leaves.keeps (.of_quiet rfl rfl rfl)
  next => exact .refl line b

/-- **A verdict keeps the line if it spares it**, or is on another channel. -/
theorem settle_keeps (b : Broker) (channel : Nat) {settlement : Settlement}
    (spares : channel = line.channel → line.Spares settlement) :
    line.Keeps b (b.settle channel settlement) := by
  cases found : b.channels.get? channel with
  | none =>
    have same : b.settle channel settlement = b := by
      unfold settle
      rw [found]
    rw [same]
    exact .refl line b
  | some record =>
    obtain ⟨_, _, _, same⟩ := settle_eq found settlement
    rw [same]
    refine Leaves.keeps (.of_modify channel (f := (·.without settlement)) rfl rfl rfl
      (fun _ => rfl) (fun _ _ => Nat.le_refl _) fun here record =>
        ⟨fun entry held awaits => List.mem_filter.mpr ⟨held, ?_⟩, fun _ => .inl⟩)
    rw [spares here entry.tag awaits]
    rfl

end Line

/-! ### The operations -/

/-- An operation that opens no channel, registers the subscriber on its channel only, and settles nothing
there that it has yet to take up. -/
def Broker.Op.Heeds (line : Line) : Op → Prop
  | .consume channel _ _ autoAck subscriber =>
    subscriber = line.subscriber → channel = line.channel ∧ autoAck = false
  | .acknowledge channel settlement => channel = line.channel → line.Spares settlement
  | .createChannel .. => False
  | _ => True

namespace Line

theorem accept_keeps (b : Broker) (queue : String) (payload : Payload) (properties : Properties) :
    line.Keeps b (b.accept queue payload properties) := by
  refine Keeps.trans ?_ (dispatch_keeps _ queue)
  exact Leaves.keeps (.of_quiet rfl rfl rfl)

theorem declare_keeps (b : Broker) (queue : String) : line.Keeps b (b.declare queue).2 := by
  unfold declare
  split
  next => exact .refl line b
  next => exact Leaves.keeps (.of_quiet rfl rfl rfl)

theorem delete_keeps (b : Broker) (queue : String) : line.Keeps b (b.delete queue).2 := by
  unfold delete
  split
  next => exact .refl line b
  next =>
    dsimp only
    refine Keeps.trans ?_ (.foldl _ (fun now tag _ => ?_) _)
    · exact Leaves.keeps (.of_quiet rfl rfl rfl)
    · unfold cancelDeleted
      split
      next => exact .refl line now
      next =>
        have erased : line.Leaves now { now with consumers := now.consumers.erase tag } :=
          .of_same (fun _ _ found => Table.get?_of_get?_erase found) rfl rfl
        exact erased.keeps.trans (notify_leaves _ _ rfl).keeps

theorem publish_keeps (b : Broker) (queue : String) (payload : Payload) (properties : Properties) :
    line.Keeps b (b.publish queue payload properties).2 := by
  unfold publish
  split
  next => exact accept_keeps b queue payload properties
  next => exact .refl line b

theorem publishOn_keeps (b : Broker) (channel : Nat) (exchange queue : String) (payload : Payload)
    (properties : Properties) :
    line.Keeps b (b.publishOn channel exchange queue payload properties).2 := by
  unfold publishOn
  split
  next => exact .refl line b
  next =>
    split
    next => exact accept_keeps b queue payload properties
    next => exact .refl line b

theorem connect_keeps (b : Broker) : line.Keeps b b.connect.2 := by
  unfold connect
  dsimp only
  split
  next => exact Leaves.keeps (.of_quiet rfl rfl rfl)
  next => split <;> exact Leaves.keeps (.of_quiet rfl rfl rfl)

/-- A channel that opens has a new number. -/
theorem createChannel_keeps (b : Broker) (fresh : b.channels.get? (b.lastId + 1) = none)
    (connection : Nat) (transactional : Bool) :
    line.Keeps b (b.createChannel connection transactional).2 := by
  unfold createChannel
  split
  next =>
    split
    next =>
      have got : ∀ channel record, (b.channels.set (b.lastId + 1) record).get? channel =
          if channel = b.lastId + 1 then some record else b.channels.get? channel :=
        fun channel record => Table.get?_set _ _ _ _
      by_cases here : line.channel = b.lastId + 1
      · refine ⟨⟨[], (List.append_nil _).symm⟩, fun waiting lines => ?_⟩
        have unnumbered : b.lastTagOf line.channel = 0 := lastTagOf_of_none (here ▸ fresh)
        have nothing := lines.nothing unnumbered
        refine ⟨lines.sited, lines.ascending, fun tag member => ?_, fun record opened delivery waits =>
          ?_, fun record opened s pending => ?_⟩
        · have first := lines.bounded tag member
          rw [unnumbered] at first
          exact Nat.le_trans first (Nat.zero_le _)
        · exact absurd waits (nothing ▸ List.not_mem_nil)
        · have found := get?_of_openChannel? opened
          dsimp only at found
          rw [got, if_pos here] at found
          cases found
          exact absurd pending List.not_mem_nil
      · exact Leaves.keeps (.of_same (fun _ _ found => found) rfl ((got _ _).trans (if_neg here)))
    next => exact .refl line b
  next => exact .refl line b

theorem setPrefetch_keeps (b : Broker) (channel prefetch : Nat) :
    line.Keeps b (b.setPrefetch channel prefetch).2 := by
  unfold setPrefetch
  split
  next =>
    have bounded : line.Leaves b (b.updateChannel channel fun record =>
        { record with prefetch }) :=
      .of_modify channel (f := fun record => { record with prefetch }) rfl rfl rfl (fun _ => rfl)
        (fun _ _ => Nat.le_refl _) fun _ _ => ⟨fun _ held _ => held, fun _ => .inl⟩
    exact bounded.keeps.trans (dispatchAll_keeps _)
  next => exact .refl line b

theorem consume_keeps (b : Broker) {channel subscriber : Nat} {autoAck : Bool}
    (queue requested : String)
    (heeds : subscriber = line.subscriber → channel = line.channel ∧ autoAck = false) :
    line.Keeps b (b.consume channel queue requested autoAck subscriber).2 := by
  rcases b.consume_cases channel queue requested autoAck subscriber with
    ⟨_, refused⟩ | ⟨_, generated, refused⟩ | ⟨tag, generated, -, -, -, enrolled⟩
  · rw [refused]
    exact .refl line b
  · have counted : line.Leaves b { b with generatedTags := generated } :=
      .of_quiet rfl rfl rfl
    rw [refused]
    exact counted.keeps.trans (closeChannel_keeps _ channel none)
  · rw [enrolled]
    have entered : line.Keeps b ((b.enroll generated tag
        ⟨queue, channel, autoAck, subscriber⟩).record channel (.consume queue tag)) := ?_
    · exact entered.trans (dispatch_keeps _ queue)
    refine ⟨⟨[], (List.append_nil _).symm⟩, fun waiting lines => ?_⟩
    refine ⟨fun other consumer found => ?_, lines.ascending, lines.bounded,
      lines.unsettled, lines.spared⟩
    have found' : (b.consumers.set tag ⟨queue, channel, autoAck, subscriber⟩).get? other =
      some consumer := found
    rw [Table.get?_set] at found'
    split at found'
    next =>
      obtain rfl := Option.some.inj found'
      exact heeds
    next => exact lines.sited other consumer found'

theorem get_keeps (b : Broker) (channel : Nat) (queue : String) (autoAck : Bool) :
    line.Keeps b (b.get channel queue autoAck).2 := by
  rcases b.get_cases channel queue autoAck with
    ⟨_, refused⟩ | ⟨_, refused⟩ | nothing | ⟨record, _, message, rest, opened, -, -, got⟩
  · rw [refused]
    exact .refl line b
  · rw [refused]
    exact closeChannel_keeps b channel none
  · rw [nothing]
    exact .refl line b
  · rw [got]
    have received : line.Leaves b (b.handed channel record queue message rest autoAck) := by
      refine .of_modify channel
        (f := (·.receive (record.lastTag + 1) queue autoAck message)) rfl rfl rfl
        (fun _ => rfl) (fun now there => ?_)
        fun _ _ => ⟨fun _ held _ => ChannelRecord.mem_receive held _ _ _ _, fun _ => .inl⟩
      obtain rfl := Option.some.inj ((get?_of_openChannel? opened).symm.trans there)
      exact Nat.le_succ _
    exact received.keeps

theorem acknowledge_keeps (b : Broker) {channel : Nat} {settlement : Settlement}
    (spares : channel = line.channel → line.Spares settlement) :
    line.Keeps b (b.acknowledge channel settlement).2 := by
  unfold acknowledge
  split
  next => exact .refl line b
  next =>
    split
    next =>
      dsimp only
      refine (record_keeps b channel (.settle settlement)).trans ?_
      split
      next =>
        refine Leaves.keeps (.of_modify channel
          (f := fun record => { record with pending := record.pending ++ [settlement] }) rfl rfl rfl
          (fun _ => rfl) (fun _ _ => Nat.le_refl _) fun here record =>
            ⟨fun _ held _ => held, ?_⟩)
        intro s waits
        refine (List.mem_append.mp waits).imp id fun new => ?_
        obtain rfl := List.mem_singleton.mp new
        exact spares here
      next => exact (settle_keeps _ channel spares).trans (dispatchAll_keeps _)
    next => exact closeChannel_keeps b channel none

theorem cancel_keeps (b : Broker) (channel : Nat) (consumerTag : String) :
    line.Keeps b (b.cancel channel consumerTag).2 := by
  unfold cancel
  split
  next => exact .refl line b
  next =>
    dsimp only
    refine Keeps.trans ?_ (record_keeps _ channel (.cancel consumerTag))
    split
    next =>
      split
      next => exact (unregister_leaves b consumerTag).keeps.trans (notify_leaves _ _ rfl).keeps
      next => exact .refl line b
    next => exact .refl line b

theorem clearPending_keeps (b : Broker) (channel : Nat) (action : ChannelAction) :
    line.Keeps b (b.clearPending channel action) := by
  have cleared : line.Leaves b (b.updateChannel channel fun record =>
      { record with pending := [] }) :=
    .of_modify channel (f := fun record => { record with pending := [] }) rfl rfl rfl (fun _ => rfl)
      (fun _ _ => Nat.le_refl _)
      fun _ _ => ⟨fun _ held _ => held, fun _ none => absurd none List.not_mem_nil⟩
  exact cleared.keeps.trans (record_keeps _ channel action)

/-- **A commit settles what waits for it**, and all of that spares the line. -/
theorem commit_keeps (b : Broker) (channel : Nat) : line.Keeps b (b.commit channel).2 := by
  unfold commit
  split
  next => exact .refl line b
  next record opened =>
    split
    next =>
      have carried : ∀ line : Line,
          (∀ s ∈ record.pending, channel = line.channel → line.Spares s) → line.Keeps b
            (record.pending.foldl (fun b s => b.settle channel s)
              (b.clearPending channel .commit)).dispatchAll := by
        intro line spares
        have cleared : line.Keeps b (b.clearPending channel .commit) :=
          clearPending_keeps b channel _
        exact (cleared.trans (.foldl record.pending
          (fun now s waits => settle_keeps now channel (spares s waits)) _)).trans
            (dispatchAll_keeps _)
      -- what is sent does not depend on what is settled
      refine ⟨(carried { line with freed := fun _ => True } fun _ _ _ _ awaits =>
        absurd trivial awaits.2).tells, fun waiting lines => ?_⟩
      exact (carried line fun s waits here => lines.spared record (here ▸ opened) s waits).lines
        waiting lines
    next => exact .refl line b

theorem rollback_keeps (b : Broker) (channel : Nat) : line.Keeps b (b.rollback channel).2 := by
  unfold rollback
  split
  next => exact .refl line b
  next =>
    split
    next => exact clearPending_keeps b channel .rollback
    next => exact .refl line b

/-- **Every operation keeps the line** that does not settle what has yet to be taken up and opens no
channel. -/
theorem step_keeps (b : Broker) {op : Op} (heeds : op.Heeds line) : line.Keeps b (b.step op).2 := by
  cases op with
  | declare queue => exact declare_keeps b queue
  | delete queue => exact delete_keeps b queue
  | publish queue payload properties =>
    exact Reply.ofDone_snd _ ▸ publish_keeps b queue payload properties
  | refuseConnections | rejectCredentials => exact Leaves.keeps (.of_quiet rfl rfl rfl)
  | dropConnections =>
    exact .foldl _ (fun now connection _ => closeConnection_keeps now connection _) b
  | connect => exact Reply.ofResult_snd _ _ ▸ connect_keeps b
  | closeConnection connection => exact closeConnection_keeps b connection none
  | createChannel => exact absurd heeds id
  | setPrefetch channel prefetch => exact Reply.ofDone_snd _ ▸ setPrefetch_keeps b channel prefetch
  | consume channel queue tag autoAck subscriber =>
    exact Reply.ofResult_snd _ _ ▸ consume_keeps b queue tag heeds
  | get channel queue autoAck => exact Reply.ofResult_snd _ _ ▸ get_keeps b channel queue autoAck
  | acknowledge channel settlement => exact Reply.ofDone_snd _ ▸ acknowledge_keeps b heeds
  | cancel channel tag => exact Reply.ofDone_snd _ ▸ cancel_keeps b channel tag
  | publishOn channel exchange queue payload properties =>
    exact Reply.ofDone_snd _ ▸ publishOn_keeps b channel exchange queue payload properties
  | commit channel => exact Reply.ofDone_snd _ ▸ commit_keeps b channel
  | rollback channel => exact Reply.ofDone_snd _ ▸ rollback_keeps b channel
  | confirm channel =>
    show line.Keeps b (Reply.ofDone _).2
    rw [Reply.ofDone_snd, confirm_snd]
    exact .refl line b
  | close channel => exact closeChannel_keeps b channel none

end Line

/-! ### The subscriber -/

namespace Broker

/-- Whoever has taken its notices has none. -/
theorem collectNotices_deliveriesFor (b : Broker) (subscriber : Nat) :
    b.collectNotices.2.deliveriesFor subscriber = [] := rfl

namespace Lines

variable {waiting rest : List Delivery}

/-- What is thrown away need not be kept. -/
theorem fewer (lines : b.Lines line waiting) (consumers : b₁.consumers = b.consumers)
    (channels : b₁.channels = b.channels)
    (less : (rest ++ b₁.deliveriesFor line.subscriber).Sublist
      (waiting ++ b.deliveriesFor line.subscriber)) : b₁.Lines line rest := by
  have opened : b₁.openChannel? line.channel = b.openChannel? line.channel :=
    openChannel?_congr channels line.channel
  refine ⟨consumers ▸ lines.sited, ?_, fun tag member => ?_, fun record found delivery waits => ?_,
    fun record found => ?_⟩
  · exact lines.ascending.sublist ((less.map _).cons_cons _)
  · have same : b₁.lastTagOf line.channel = b.lastTagOf line.channel := by
      unfold lastTagOf
      rw [channels]
    rw [same]
    exact lines.bounded tag (((less.map _).cons_cons _).subset member)
  · exact lines.unsettled record (opened ▸ found) delivery (less.subset waits)
  · exact lines.spared record (opened ▸ found)

/-- **The subscriber receives what was sent**, behind all that it has received before. -/
theorem collect (lines : b.Lines line waiting) :
    b.collectNotices.2.Lines line (waiting ++ b.deliveriesFor line.subscriber) := by
  refine lines.fewer rfl rfl ?_
  rw [collectNotices_deliveriesFor, List.append_nil]

/-- **The subscriber takes up the next delivery**, and has got as far as that. -/
theorem take {delivery : Delivery} (lines : b.Lines line (delivery :: rest)) :
    b.Lines { line with floor := delivery.tag } rest := by
  have behind := (List.pairwise_cons.mp lines.ascending).1
  have next : line.floor < delivery.tag := behind _ (List.mem_cons_self)
  refine ⟨lines.sited, (List.pairwise_cons.mp lines.ascending).2,
    fun tag member => lines.bounded tag (List.mem_cons_of_mem _ member),
    fun record opened other waits => lines.unsettled record opened other (List.mem_cons_of_mem _ waits),
    fun record opened s pending tag awaits => ?_⟩
  exact lines.spared record opened s pending tag ⟨Nat.lt_trans next awaits.1, awaits.2⟩

/-- **What was sent is unsettled behind all that was taken up**, and no commit will settle it. -/
theorem held (lines : b.Lines line waiting) (opened : b.channelOpen line.channel = true)
    {delivery : Delivery} (waits : delivery ∈ waiting ++ b.deliveriesFor line.subscriber)
    (kept : ¬ line.freed delivery.tag) :
    ∃ entry ∈ b.unsettled line.channel, entry.Brings delivery ∧ line.floor < entry.tag ∧
      ∀ s ∈ b.pendingOn line.channel, s.covers entry.tag = false := by
  obtain ⟨record, found⟩ := exists_openChannel? opened
  obtain ⟨entry, among, brings⟩ := lines.unsettled record found delivery waits kept
  have awaits : line.Awaits entry.tag := brings.tag ▸ lines.awaits waits kept
  refine ⟨entry, mem_unsettled_iff.mpr ⟨record, found, among⟩, brings, awaits.1, fun s pending => ?_⟩
  rw [pendingOn_eq found] at pending
  exact lines.spared record found s pending entry.tag awaits

end Lines

end Broker

end QueueListener
