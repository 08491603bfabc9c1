import QueueListener.Proofs.Broker.Dispatch
import Mathlib.Algebra.Order.Group.Multiset
import Mathlib.Tactic.Abel
/-!
# The stock of the broker

**The stock is every message that the broker has, wherever it is.** Messages only change places:
what one container loses, another one gets.

* `Broker.stock` — the messages of all places, as they were accepted, with multiplicity;
* `Moves` — one change of the broker: `held` are the messages that are in the hand of the operation
  before it, `held'` after it; the stock and the hand together stay the same;
* `push_moves`, `settle_moves`, `closeChannel_moves`, `closeConnection_moves` — every step of the
  operations is such a change.
-/

namespace QueueListener

/-- The message as it was accepted. -/
def Message.original (message : Message) : Message := { message with redelivered := false }

/-- The messages that wait in a queue. -/
def QueueRecord.stock (record : QueueRecord) : Multiset Message :=
  (record.ready.map Message.original : List Message)

/-- The messages of unsettled deliveries. -/
def stockOf (entries : List Unacked) : Multiset Message :=
  (entries.map (·.message.original) : List Message)

/-- The messages that are unsettled on an open channel. -/
def ChannelRecord.stock (record : ChannelRecord) : Multiset Message :=
  if record.isOpen then stockOf record.unacked else 0

@[simp] theorem stockOf_nil : stockOf [] = 0 := rfl

@[simp] theorem stockOf_cons (entry : Unacked) (rest : List Unacked) :
    stockOf (entry :: rest) = {entry.message.original} + stockOf rest := rfl

@[simp] theorem stockOf_append (first second : List Unacked) :
    stockOf (first ++ second) = stockOf first + stockOf second := by
  simp only [stockOf, List.map_append, Multiset.coe_add]

/-- A choice and what it leaves are all entries. -/
theorem stockOf_filter (chosen : Unacked → Bool) (entries : List Unacked) :
    stockOf (entries.filter fun entry => !chosen entry) + stockOf (entries.filter chosen) =
      stockOf entries := by
  induction entries with
  | nil => rfl
  | cons entry rest ih =>
    cases taken : chosen entry with
    | true =>
      rw [List.filter_cons_of_neg (by simp [taken]), List.filter_cons_of_pos taken, stockOf_cons,
        stockOf_cons, ← ih, add_left_comm]
    | false =>
      rw [List.filter_cons_of_pos (by simp [taken]), List.filter_cons_of_neg (by simp [taken]),
        stockOf_cons, stockOf_cons, ← ih, add_assoc]

theorem ChannelRecord.stock_of_open {record : ChannelRecord} (opened : record.isOpen = true) :
    record.stock = stockOf record.unacked := if_pos opened

/-- An open channel has what it is handed, unless nobody will acknowledge it. -/
theorem ChannelRecord.stock_receive {record : ChannelRecord} (opened : record.isOpen = true)
    (tag : Nat) (queue : String) (autoAck : Bool) (message : Message) :
    (record.receive tag queue autoAck message).stock =
      record.stock + if autoAck then 0 else {message.original} := by
  have kept : (record.receive tag queue autoAck message).isOpen = true := opened
  rw [stock_of_open kept, stock_of_open opened]
  cases autoAck with
  | false => exact stockOf_append _ _
  | true => exact (add_zero _).symm

namespace Broker

/-- The messages among the dead letters. -/
def buried (b : Broker) : Multiset Message :=
  (b.deadLetters.toList.map (·.message.original) : List Message)

/-- The messages that left for good. -/
def finished (b : Broker) : Multiset Message :=
  (b.departures.toList.map (·.1.original) : List Message)

/-- Every message of the broker, wherever it is. -/
def stock (b : Broker) : Multiset Message :=
  b.queues.total QueueRecord.stock + b.channels.total ChannelRecord.stock + b.buried + b.finished

/-- The keys of a broker are in order: no queue and no channel occurs twice, and the number of the
next channel is new. -/
structure Tidy (b : Broker) : Prop where
  queues : b.queues.keys.Nodup
  channels : b.channels.keys.Nodup
  numbered : ∀ channel ∈ b.channels.keys, channel ≤ b.lastId

theorem Tidy.updateChannel {b : Broker} (tidy : b.Tidy) (channel : Nat)
    (f : ChannelRecord → ChannelRecord) : (b.updateChannel channel f).Tidy := by
  have keys : (b.updateChannel channel f).channels.keys = b.channels.keys :=
    Table.keys_modify _ _ _
  exact ⟨tidy.queues, keys ▸ tidy.channels, keys ▸ tidy.numbered⟩

theorem Tidy.record {b : Broker} (tidy : b.Tidy) (channel : Nat) (action : ChannelAction) :
    (b.record channel action).Tidy := ⟨tidy.queues, tidy.channels, tidy.numbered⟩

/-- A change of the broker that keeps the stock and the hand together. `reason` tells which messages
may leave for good. -/
structure Moves (reason : Message × Departure → Prop) (b : Broker) (held : Multiset Message)
    (b' : Broker) (held' : Multiset Message) : Prop where
  queueKeys : b'.queues.keys = b.queues.keys
  channelKeys : b'.channels.keys = b.channels.keys
  lastId : b'.lastId = b.lastId
  lastSerial : b'.lastSerial = b.lastSerial
  balance : b'.stock + held' = b.stock + held
  consumers : ∀ tag consumer,
    b'.consumers.get? tag = some consumer → b.consumers.get? tag = some consumer
  departed : ∃ left, b'.departures.toList = b.departures.toList ++ left ∧ ∀ gone ∈ left, reason gone

/-- Messages may be handed out because of every consumer that does not acknowledge. -/
def Serves (b : Broker) (reason : Message × Departure → Prop) : Prop :=
  ∀ tag consumer, b.consumers.get? tag = some consumer → consumer.autoAck = true →
    ∀ message, reason (message, .handedOut)

namespace Moves

variable {reason : Message × Departure → Prop} {b b₁ b₂ b₃ : Broker}
  {held held₁ held₂ held₃ : Multiset Message}

theorem refl (b : Broker) (held : Multiset Message) : Moves reason b held b held :=
  ⟨rfl, rfl, rfl, rfl, rfl, fun _ _ found => found, [], (List.append_nil _).symm,
    fun _ member => absurd member List.not_mem_nil⟩

/-- One change after the other. -/
theorem trans (first : Moves reason b₁ held₁ b₂ held₂) (second : Moves reason b₂ held₂ b₃ held₃) :
    Moves reason b₁ held₁ b₃ held₃ := by
  obtain ⟨before, departed, reasons⟩ := first.departed
  obtain ⟨after, departed', reasons'⟩ := second.departed
  refine ⟨second.queueKeys.trans first.queueKeys, second.channelKeys.trans first.channelKeys,
    second.lastId.trans first.lastId, second.lastSerial.trans first.lastSerial,
    second.balance.trans first.balance,
    fun tag consumer found => first.consumers tag consumer (second.consumers tag consumer found),
    before ++ after, ?_, ?_⟩
  · rw [departed', departed, List.append_assoc]
  · intro gone member
    rcases List.mem_append.mp member with early | late
    · exact reasons gone early
    · exact reasons' gone late

theorem tidy (moved : Moves reason b₁ held₁ b₂ held₂) (tidy : b₁.Tidy) : b₂.Tidy :=
  ⟨moved.queueKeys ▸ tidy.queues, moved.channelKeys ▸ tidy.channels,
    moved.channelKeys ▸ moved.lastId ▸ tidy.numbered⟩

theorem serves (moved : Moves reason b₁ held₁ b₂ held₂) (serves : b₁.Serves reason) :
    b₂.Serves reason :=
  fun tag consumer found => serves tag consumer (moved.consumers tag consumer found)

/-- A change that moves no message. -/
theorem of_same (queues : b₂.queues = b₁.queues) (channels : b₂.channels = b₁.channels)
    (consumers : ∀ tag consumer,
      b₂.consumers.get? tag = some consumer → b₁.consumers.get? tag = some consumer)
    (dead : b₂.deadLetters = b₁.deadLetters) (departures : b₂.departures = b₁.departures)
    (lastId : b₂.lastId = b₁.lastId) (lastSerial : b₂.lastSerial = b₁.lastSerial) :
    Moves reason b₁ held b₂ held := by
  have stock : b₂.stock = b₁.stock := by
    unfold stock buried finished
    rw [queues, channels, dead, departures]
  refine ⟨by rw [queues], by rw [channels], lastId, lastSerial, by rw [stock], consumers, [], ?_,
    fun _ member => absurd member List.not_mem_nil⟩
  rw [departures, List.append_nil]

theorem of_queue (tidy : b.Tidy) {queue : String} {record : QueueRecord}
    (found : b.queues.get? queue = some record) (f : QueueRecord → QueueRecord)
    (balance : (f record).stock + held₂ = record.stock + held₁) :
    Moves reason b held₁ (b.updateQueue queue f) held₂ := by
  refine ⟨Table.keys_modify _ _ _, rfl, rfl, rfl, ?_, fun _ _ found => found, [],
    (List.append_nil _).symm, fun _ member => absurd member List.not_mem_nil⟩
  have before : b.queues.total QueueRecord.stock = _ :=
    Table.total_eq_add_erase _ tidy.queues found
  have after : (b.queues.modify queue f).total QueueRecord.stock = _ :=
    Table.total_modify _ tidy.queues found f
  unfold stock updateQueue buried finished
  rw [before, after]
  calc _ = (f record).stock + held₂ + ((b.queues.erase queue).total QueueRecord.stock +
        b.channels.total ChannelRecord.stock + b.buried + b.finished) := by
        unfold buried finished; abel
    _ = _ := by rw [balance]; unfold buried finished; abel

/-- A change of one queue that leaves its messages alone. -/
theorem of_queue_same (tidy : b.Tidy) {queue : String} {f : QueueRecord → QueueRecord}
    (same : ∀ record, (f record).ready = record.ready) :
    Moves reason b held (b.updateQueue queue f) held := by
  refine ⟨Table.keys_modify _ _ _, rfl, rfl, rfl, ?_, fun _ _ found => found, [],
    (List.append_nil _).symm, fun _ member => absurd member List.not_mem_nil⟩
  have kept : (b.queues.modify queue f).total QueueRecord.stock =
      b.queues.total QueueRecord.stock :=
    Table.total_modify_eq _ tidy.queues queue f fun record _ => by
      rw [QueueRecord.stock, same, QueueRecord.stock]
  unfold stock updateQueue buried finished
  rw [kept]

theorem of_channel (tidy : b.Tidy) {channel : Nat} {record : ChannelRecord}
    (found : b.channels.get? channel = some record) (f : ChannelRecord → ChannelRecord)
    (balance : (f record).stock + held₂ = record.stock + held₁) :
    Moves reason b held₁ (b.updateChannel channel f) held₂ := by
  refine ⟨rfl, Table.keys_modify _ _ _, rfl, rfl, ?_, fun _ _ found => found, [],
    (List.append_nil _).symm, fun _ member => absurd member List.not_mem_nil⟩
  have before : b.channels.total ChannelRecord.stock = _ :=
    Table.total_eq_add_erase _ tidy.channels found
  have after : (b.channels.modify channel f).total ChannelRecord.stock = _ :=
    Table.total_modify _ tidy.channels found f
  unfold stock updateChannel buried finished
  rw [before, after]
  calc _ = (f record).stock + held₂ + (b.queues.total QueueRecord.stock +
        (b.channels.erase channel).total ChannelRecord.stock + b.buried + b.finished) := by
        unfold buried finished; abel
    _ = _ := by rw [balance]; unfold buried finished; abel

theorem of_record (b : Broker) (channel : Nat) (action : ChannelAction) (held : Multiset Message) :
    Moves reason b held (b.record channel action) held :=
  of_same rfl rfl (fun _ _ found => found) rfl rfl rfl rfl

theorem of_notify (b : Broker) (subscriber : Nat) (notice : Notice) (held : Multiset Message) :
    Moves reason b held (b.notify subscriber notice) held :=
  of_same rfl rfl (fun _ _ found => found) rfl rfl rfl rfl

theorem of_eraseConsumer (b : Broker) (consumerTag : String) (held : Multiset Message) :
    Moves reason b held { b with consumers := b.consumers.erase consumerTag } held :=
  of_same rfl rfl (fun _ _ found => Table.get?_of_get?_erase found) rfl rfl rfl rfl

theorem of_bury (entries : List Unacked) (held : Multiset Message) :
    Moves reason b (stockOf entries + held) (b.bury entries) held := by
  refine ⟨rfl, rfl, rfl, rfl, ?_, fun _ _ found => found, [], (List.append_nil _).symm,
    fun _ member => absurd member List.not_mem_nil⟩
  have more : (b.bury entries).buried = b.buried + stockOf entries := by
    simp [buried, bury, stockOf, ← Multiset.coe_add, Function.comp_def]
  unfold stock
  rw [more]
  show b.queues.total _ + b.channels.total _ + (b.buried + stockOf entries) + b.finished + held = _
  abel

theorem of_departures (left : List (Message × Departure)) (held : Multiset Message)
    (reasons : ∀ gone ∈ left, reason gone) :
    Moves reason b (((left.map (·.1.original) : List Message) : Multiset Message) + held)
      { b with departures := b.departures ++ left.toArray } held := by
  refine ⟨rfl, rfl, rfl, rfl, ?_, fun _ _ found => found, left, by simp, reasons⟩
  have more : ({ b with departures := b.departures ++ left.toArray } : Broker).finished =
      b.finished + ((left.map (·.1.original) : List Message) : Multiset Message) := by
    simp [finished, ← Multiset.coe_add]
  unfold stock
  rw [more]
  show b.queues.total _ + b.channels.total _ + b.buried + (b.finished + _) + held = _
  abel

theorem of_discharge (entries : List Unacked) (held : Multiset Message)
    (reasons : ∀ entry ∈ entries, reason (entry.message, .acknowledged)) :
    Moves reason b (stockOf entries + held) (b.discharge entries) held := by
  have justified : ∀ gone ∈ entries.map fun e => (e.message, Departure.acknowledged),
      reason gone := by
    intro gone member
    obtain ⟨entry, listed, rfl⟩ := List.mem_map.mp member
    exact reasons entry listed
  have left := of_departures (b := b) _ held justified
  rw [List.map_map] at left
  exact left

end Moves

section Steps

variable {reason : Message × Departure → Prop} {b : Broker} {held : Multiset Message}

/-! ### Dispatch -/

/-- A message in the hand goes to a channel, or leaves if nobody will acknowledge it. -/
theorem handOver_moves (tidy : b.Tidy) {channel : Nat} {record : ChannelRecord}
    (opened : b.openChannel? channel = some record) (queue consumerTag : String) (autoAck : Bool)
    (message : Message) (out : autoAck = true → reason (message, .handedOut)) :
    Moves reason b ({message.original} + held)
      (b.handOver queue consumerTag channel autoAck message).2 held := by
  have found := get?_of_openChannel? opened
  have isOpen := isOpen_of_openChannel? opened
  rw [handOver_eq found]
  cases autoAck with
  | false =>
    refine Moves.of_channel tidy found _ ?_
    rw [ChannelRecord.stock_receive isOpen, if_neg Bool.false_ne_true, add_assoc]
  | true =>
    have numbered : Moves reason b ({message.original} + held)
        (b.updateChannel channel (·.receive (record.lastTag + 1) queue true message))
        ({message.original} + held) := by
      refine Moves.of_channel tidy found _ ?_
      rw [ChannelRecord.stock_receive isOpen, if_pos rfl, add_zero]
    have justified : ∀ gone ∈ [(message, Departure.handedOut)], reason gone := by
      intro gone member
      rw [List.mem_singleton.mp member]
      exact out rfl
    exact numbered.trans (Moves.of_departures _ held justified)

/-- **A push moves one message** from its queue to its channel. -/
theorem push_moves (tidy : b.Tidy) (serves : b.Serves reason) {queue : String}
    (push : Push b queue) : Moves reason b held push.result held := by
  have taken : Moves reason b held (b.updateQueue queue fun record =>
      { record with ready := push.rest, cursor := (push.place + 1) % record.consumers.length })
      ({push.message.original} + held) := by
    refine Moves.of_queue tidy push.found _ ?_
    show ((push.rest.map _ : List Message) : Multiset Message) + _ = _
    rw [QueueRecord.stock, push.waiting, List.map_cons, ← Multiset.cons_coe,
      ← Multiset.singleton_add]
    abel
  rw [push.result_eq]
  exact (taken.trans (handOver_moves (taken.tidy tidy) push.opened queue push.consumerTag
    push.consumer.autoAck push.message fun auto => serves _ _ push.registered auto _)).trans
    (Moves.of_notify _ _ _ held)

theorem dispatch_moves (tidy : b.Tidy) (serves : b.Serves reason) (queue : String) :
    Moves reason b held (b.dispatch queue) held :=
  dispatch_induction (motive := fun after => Moves reason b held after held)
    (fun _ _ push moved => moved.trans (push_moves (moved.tidy tidy) (moved.serves serves) push))
    queue b (Moves.refl b held)

theorem dispatchAll_moves (tidy : b.Tidy) (serves : b.Serves reason) :
    Moves reason b held b.dispatchAll held :=
  dispatchAll_induction (motive := fun after => Moves reason b held after held)
    (fun _ _ push moved => moved.trans (push_moves (moved.tidy tidy) (moved.serves serves) push))
    b (Moves.refl b held)

/-! ### Returns and verdicts -/

/-- A message in the hand goes back to its queue, or to the dead letters. -/
theorem giveBack_moves (tidy : b.Tidy) (entry : Unacked) :
    Moves reason b ({entry.message.original} + held) (b.giveBack entry) held := by
  unfold giveBack
  dsimp only
  split
  next present =>
    obtain ⟨record, found⟩ := Table.exists_get?_of_contains present
    refine Moves.of_queue tidy found _ ?_
    show (((_ :: record.ready).map _ : List Message) : Multiset Message) + _ = _
    rw [QueueRecord.stock, List.map_cons, ← Multiset.cons_coe, ← Multiset.singleton_add]
    show {entry.message.original} + _ + _ = _
    abel
  next =>
    have buried : Moves reason b _ _ held := Moves.of_bury
      [{ entry with message := { entry.message with redelivered := true } }] held
    rw [stockOf_cons, stockOf_nil, add_zero] at buried
    exact buried

/-- All messages in the hand go back. -/
theorem giveBackAll_moves (tidy : b.Tidy) (entries : List Unacked) :
    Moves reason b (stockOf entries + held) (b.giveBackAll entries) held := by
  induction entries generalizing held with
  | nil =>
    rw [stockOf_nil, zero_add]
    exact Moves.refl b held
  | cons entry rest ih =>
    have others : Moves reason b _ _ ({entry.message.original} + held) := ih
    have all : stockOf (entry :: rest) + held =
        stockOf rest + ({entry.message.original} + held) := by
      rw [stockOf_cons]
      abel
    rw [all]
    exact others.trans (giveBack_moves (others.tidy tidy) entry)

/-- **A verdict moves what it covers** from the channel to where the verdict sends it. -/
theorem settle_moves (tidy : b.Tidy) {channel : Nat} {record : ChannelRecord}
    (opened : b.openChannel? channel = some record) (settlement : Settlement)
    (out : settlement.verdict = .ack → ∀ entry ∈ record.unacked,
      settlement.covers entry.tag = true → reason (entry.message, .acknowledged)) :
    Moves reason b held (b.settle channel settlement) held := by
  have found := get?_of_openChannel? opened
  have isOpen := isOpen_of_openChannel? opened
  unfold settle
  rw [found]
  dsimp only
  have taken : Moves reason b held (b.updateChannel channel fun record =>
      { record with unacked := record.unacked.filter fun entry => !settlement.covers entry.tag })
      (stockOf (record.unacked.filter fun entry => settlement.covers entry.tag) + held) := by
    refine Moves.of_channel tidy found _ ?_
    rw [ChannelRecord.stock_of_open isOpen, ChannelRecord.stock_of_open (by exact isOpen),
      ← add_assoc]
    exact congrArg (· + held) (stockOf_filter (fun entry => settlement.covers entry.tag) _)
  split
  next acked =>
    refine taken.trans (Moves.of_discharge _ held fun entry member => ?_)
    obtain ⟨listed, covered⟩ := List.mem_filter.mp member
    exact out acked entry listed covered
  next => exact taken.trans (giveBackAll_moves (taken.tidy tidy) _)
  next => exact taken.trans (Moves.of_bury _ held)

/-! ### Closing -/

theorem unregister_moves (tidy : b.Tidy) (consumerTag : String) :
    Moves reason b held (b.unregister consumerTag) held := by
  unfold unregister
  split
  next => exact Moves.refl b held
  next consumer found =>
    have erased : Moves reason b held _ held := Moves.of_eraseConsumer b consumerTag held
    exact erased.trans (Moves.of_queue_same (erased.tidy tidy) fun _ => rfl)

theorem endConsumer_moves (tidy : b.Tidy) (cause : Option ClientError) (consumerTag : String) :
    Moves reason b held (b.endConsumer cause consumerTag) held := by
  unfold endConsumer
  split
  next => exact Moves.refl b held
  next =>
    exact (unregister_moves tidy consumerTag).trans (Moves.of_notify _ _ _ held)

/-- **The closing of a channel** gives back what was unsettled on it. -/
theorem closeChannel_moves (tidy : b.Tidy) (serves : b.Serves reason) (channel : Nat)
    (cause : Option ClientError) : Moves reason b held (b.closeChannel channel cause) held := by
  unfold closeChannel
  split
  next => exact Moves.refl b held
  next record opened =>
    dsimp only
    have closed : Moves reason b held (b.updateChannel channel fun record =>
        { record with isOpen := false, pending := [], unacked := [] })
        (stockOf record.unacked + held) := by
      refine Moves.of_channel tidy (get?_of_openChannel? opened) _ ?_
      rw [ChannelRecord.stock_of_open (isOpen_of_openChannel? opened)]
      exact zero_add _
    generalize b.updateChannel channel _ = after at closed ⊢
    have quiet : Moves reason b held
        ((after.tagsOn channel).foldl (fun b tag => b.endConsumer cause tag) after)
        (stockOf record.unacked + held) :=
      List.foldlRecOn (motive := fun after =>
          Moves reason b held after (stockOf record.unacked + held))
        _ _ closed fun _ moved tag _ =>
          moved.trans (endConsumer_moves (moved.tidy tidy) cause tag)
    have back := quiet.trans (giveBackAll_moves (quiet.tidy tidy) record.unacked)
    have noted := back.trans (Moves.of_record _ channel .close held)
    exact noted.trans (dispatchAll_moves (noted.tidy tidy) (noted.serves serves))

theorem closeConnection_moves (tidy : b.Tidy) (serves : b.Serves reason) (connection : Nat)
    (cause : Option ClientError) :
    Moves reason b held (b.closeConnection connection cause) held := by
  unfold closeConnection
  split
  next =>
    dsimp only
    have marked : Moves reason b held
        { b with
          connections := b.connections.modify connection fun record =>
            { record with isOpen := false } } held :=
      Moves.of_same rfl rfl (fun _ _ found => found) rfl rfl rfl rfl
    exact List.foldlRecOn (motive := fun after => Moves reason b held after held) _ _ marked
      fun _ moved channel _ =>
        moved.trans (closeChannel_moves (moved.tidy tidy) (moved.serves serves) channel cause)
  next => exact Moves.refl b held

end Steps

end Broker

end QueueListener
