import QueueListener.Broker.Run
import QueueListener.Proofs.Broker.Stock
/-!
# The books of the broker

**One operation, refused or not, loses no message and adds what it accepts.**

* `arrival` — the message that an operation brings into a queue;
* `Justified` — why a message may finish: it was acknowledged on a plain channel or by a commit,
  it was handed out to somebody who does not acknowledge, or it waited in a queue that was deleted;
* `Accounts` — what one operation does to the books: to the keys, the stock, the serial numbers, the
  consumers and what is finished;
* `step_accounts` — every operation keeps the books.
-/

namespace QueueListener.Broker

/-- The message that an operation brings into a queue, if it does. -/
def arrival (b : Broker) : Op → List Message
  | .publish queue payload properties =>
    if b.queues.contains queue then [⟨b.lastSerial + 1, payload, properties, false⟩] else []
  | .publishOn channel exchange queue payload properties =>
    if b.channelOpen channel && exchange.isEmpty && b.queues.contains queue then
      [⟨b.lastSerial + 1, payload, properties, false⟩]
    else []
  | _ => []

/-- Why a message finishes in an operation. -/
inductive Justified (b : Broker) : Op → Message × Departure → Prop
  /-- An acknowledgement on a plain channel covers it. -/
  | acknowledged {channel : Nat} {record : ChannelRecord} {entry : Unacked}
      {settlement : Settlement} (opened : b.openChannel? channel = some record)
      (plain : record.transactional = false) (listed : entry ∈ record.unacked)
      (covered : settlement.covers entry.tag = true) (verdict : settlement.verdict = .ack) :
      Justified b (.acknowledge channel settlement) (entry.message, .acknowledged)
  /-- An acknowledgement that waits on a transactional channel covers it, and is committed. -/
  | committed {channel : Nat} {record : ChannelRecord} {entry : Unacked}
      {settlement : Settlement} (opened : b.openChannel? channel = some record)
      (transactional : record.transactional = true) (waiting : settlement ∈ record.pending)
      (listed : entry ∈ record.unacked) (covered : settlement.covers entry.tag = true)
      (verdict : settlement.verdict = .ack) :
      Justified b (.commit channel) (entry.message, .acknowledged)
  /-- A registered consumer does not acknowledge. -/
  | pushed {op : Op} {tag : String} {consumer : Subscription} {message : Message}
      (registered : b.consumers.get? tag = some consumer) (auto : consumer.autoAck = true) :
      Justified b op (message, .handedOut)
  /-- The consumer that is registered does not acknowledge. -/
  | consumed {channel : Nat} {queue tag : String} {subscriber : Nat} {message : Message} :
      Justified b (.consume channel queue tag true subscriber) (message, .handedOut)
  /-- It is the first of a queue, and the caller does not acknowledge. -/
  | taken {channel : Nat} {queue : String} {record : QueueRecord} {message : Message}
      {rest : List Message} (found : b.queues.get? queue = some record)
      (first : record.ready = message :: rest) :
      Justified b (.get channel queue true) (message, .handedOut)
  /-- It waits in the queue that is deleted. -/
  | dropped {queue : String} {record : QueueRecord} {message : Message}
      (found : b.queues.get? queue = some record) (waiting : message ∈ record.ready) :
      Justified b (.delete queue) (message, .droppedWithQueue)

/-- Whether a consumer is the one that an operation registers. -/
def Registers (b : Broker) (op : Op) (consumer : Subscription) : Prop :=
  b.channelOpen consumer.channel = true ∧ ∃ requested,
    op = .consume consumer.channel consumer.queue requested consumer.autoAck consumer.subscriber

/-- What one operation does to the books of the broker. -/
structure Accounts (b : Broker) (op : Op) (b' : Broker) : Prop where
  tidy : b'.Tidy
  lastId : b.lastId ≤ b'.lastId
  consumers : ∀ tag consumer, b'.consumers.get? tag = some consumer →
    b.consumers.get? tag = some consumer ∨ b.Registers op consumer
  balance : b'.stock = b.stock + (b.arrival op : List Message)
  lastSerial : b'.lastSerial = b.lastSerial + (b.arrival op).length
  departed : ∃ left, b'.departures.toList = b.departures.toList ++ left ∧
    ∀ gone ∈ left, Justified b op gone

namespace Accounts

variable {b b₁ b' : Broker} {op : Op} {held : Multiset Message}

/-- An operation that first prepares the broker and then moves messages. -/
theorem of_prepared (b₁ : Broker) (held : Multiset Message) (tidy : b₁.Tidy)
    (lastId : b.lastId ≤ b₁.lastId)
    (consumers : ∀ tag consumer, b₁.consumers.get? tag = some consumer →
      b.consumers.get? tag = some consumer ∨ b.Registers op consumer)
    (stock : b₁.stock + held = b.stock + (b.arrival op : List Message))
    (serial : b₁.lastSerial = b.lastSerial + (b.arrival op).length)
    (departures : b₁.departures = b.departures) (moved : Moves (Justified b op) b₁ held b' 0) :
    Accounts b op b' := by
  obtain ⟨left, departed, reasons⟩ := moved.departed
  refine ⟨moved.tidy tidy, moved.lastId ▸ lastId,
    fun tag consumer found => consumers tag consumer (moved.consumers tag consumer found), ?_,
    moved.lastSerial.trans serial, left, departures ▸ departed, reasons⟩
  rw [← stock, ← moved.balance, add_zero]

/-- An operation that only moves messages. -/
theorem of_moves (tidy : b.Tidy) (nothing : b.arrival op = [])
    (moved : Moves (Justified b op) b 0 b' 0) : Accounts b op b' :=
  of_prepared b 0 tidy le_rfl (fun _ _ found => .inl found) (by rw [nothing]; rfl)
    (by rw [nothing]; rfl) rfl moved

/-- An operation that leaves all messages where they are. -/
theorem of_stock (tidy : b'.Tidy) (lastId : b.lastId ≤ b'.lastId)
    (consumers : b'.consumers = b.consumers) (nothing : b.arrival op = [])
    (stock : b'.stock = b.stock) (serial : b'.lastSerial = b.lastSerial)
    (departures : b'.departures = b.departures) : Accounts b op b' :=
  of_prepared b' 0 tidy lastId (fun _ _ found => .inl (consumers ▸ found))
    (by rw [stock, nothing]; rfl) (by rw [serial, nothing]; rfl) departures (Moves.refl b' 0)

end Accounts

/-- The consumers of a broker justify what is pushed to them. -/
theorem serves_justified (b : Broker) (op : Op) : b.Serves (Justified b op) :=
  fun _ _ registered auto _ => .pushed registered auto

section Operations

variable {b : Broker} (tidy : b.Tidy)
include tidy

/-! ### Administration -/

theorem declare_accounts (queue : String) : Accounts b (.declare queue) (b.declare queue).2 := by
  unfold declare
  split
  next => exact .of_moves tidy rfl (Moves.refl b 0)
  next missing =>
    have fresh : queue ∉ b.queues.keys := fun member => missing (Table.contains_iff.mpr member)
    have same : (b.queues.set queue {}).total QueueRecord.stock =
        b.queues.total QueueRecord.stock :=
      (Table.total_set_of_fresh _ fresh _).trans (add_zero _)
    refine .of_stock ⟨Table.keys_set_nodup tidy.queues _ _, tidy.channels, tidy.numbered⟩ le_rfl
      rfl rfl ?_ rfl rfl
    show (b.queues.set queue {}).total _ + _ + _ + _ = _
    rw [same]
    rfl

theorem delete_accounts (queue : String) : Accounts b (.delete queue) (b.delete queue).2 := by
  unfold delete
  split
  next => exact .of_moves tidy rfl (Moves.refl b 0)
  next record found =>
    dsimp only
    have whole := Table.total_eq_add_erase QueueRecord.stock tidy.queues found
    have emptied : Broker.Tidy { b with queues := b.queues.erase queue } :=
      ⟨Table.keys_erase_nodup tidy.queues queue, tidy.channels, tidy.numbered⟩
    refine .of_prepared { b with queues := b.queues.erase queue } (record.stock + 0) emptied le_rfl
      (fun _ _ found => .inl found) ?_ rfl rfl ?_
    · have stock : b.stock = record.stock + (b.queues.erase queue).total QueueRecord.stock +
          b.channels.total ChannelRecord.stock + b.buried + b.finished := by
        rw [Broker.stock, whole]
      rw [stock]
      show (b.queues.erase queue).total _ + b.channels.total _ + b.buried + b.finished + _ = _ + 0
      abel
    · have justified : ∀ gone ∈ record.ready.map fun m => (m, Departure.droppedWithQueue),
          Justified b (.delete queue) gone := by
        intro gone member
        obtain ⟨message, waiting, rfl⟩ := List.mem_map.mp member
        exact .dropped found waiting
      have dropped := Moves.of_departures (b := { b with queues := b.queues.erase queue }) _ 0
        justified
      rw [List.map_map] at dropped
      refine List.foldlRecOn (motive := fun after => Moves _ _ _ after 0) _ _ dropped
        fun after moved tag _ => moved.trans ?_
      unfold cancelDeleted
      split
      next => exact Moves.refl after 0
      next => exact (Moves.of_eraseConsumer after tag 0).trans (Moves.of_notify _ _ _ 0)

/-- A message that is accepted waits, and may be pushed at once. -/
theorem accept_accounts {op : Op} {queue : String} {payload : Payload} {properties : Properties}
    (present : b.queues.contains queue = true)
    (arrives : b.arrival op = [⟨b.lastSerial + 1, payload, properties, false⟩]) :
    Accounts b op (b.accept queue payload properties) := by
  obtain ⟨record, found⟩ := Table.exists_get?_of_contains present
  have numbered : Broker.Tidy { b with lastSerial := b.lastSerial + 1 } :=
    ⟨tidy.queues, tidy.channels, tidy.numbered⟩
  have waits : Moves (Justified b op) { b with lastSerial := b.lastSerial + 1 }
      (b.arrival op : List Message)
      (({ b with lastSerial := b.lastSerial + 1 } : Broker).updateQueue queue fun record =>
        { record with
          ready := record.ready ++ [⟨b.lastSerial + 1, payload, properties, false⟩] }) 0 := by
    refine Moves.of_queue numbered found _ ?_
    rw [arrives, add_zero, QueueRecord.stock, QueueRecord.stock, List.map_append,
      ← Multiset.coe_add]
    rfl
  have pushed := waits.trans (dispatch_moves (waits.tidy numbered)
    (waits.serves (serves_justified b op)) queue)
  exact .of_prepared _ _ numbered le_rfl (fun _ _ found => .inl found) rfl
    (by rw [arrives]; rfl) rfl pushed

theorem publish_accounts (queue : String) (payload : Payload) (properties : Properties) :
    Accounts b (.publish queue payload properties) (b.publish queue payload properties).2 := by
  unfold publish
  split
  next present => exact accept_accounts tidy present (if_pos present)
  next missing => exact .of_moves tidy (if_neg missing) (Moves.refl b 0)

theorem publishOn_accounts (channel : Nat) (exchange queue : String) (payload : Payload)
    (properties : Properties) :
    Accounts b (.publishOn channel exchange queue payload properties)
      (b.publishOn channel exchange queue payload properties).2 := by
  unfold publishOn
  split
  next closed =>
    refine .of_moves tidy (if_neg ?_) (Moves.refl b 0)
    simp only [Bool.not_eq_true'] at closed
    simp [closed]
  next opened =>
    simp only [Bool.not_eq_true', Bool.not_eq_false] at opened
    split
    next routed =>
      have all : (b.channelOpen channel && exchange.isEmpty && b.queues.contains queue) = true := by
        rw [opened, Bool.true_and]
        exact routed
      exact accept_accounts tidy (Bool.and_eq_true_iff.mp routed).2 (if_pos all)
    next unrouted =>
      refine .of_moves tidy (if_neg ?_) (Moves.refl b 0)
      rw [opened, Bool.true_and]
      exact unrouted

/-! ### Connections and channels -/

theorem connect_accounts : Accounts b .connect b.connect.2 := by
  unfold connect
  dsimp only
  split
  next => exact .of_stock ⟨tidy.queues, tidy.channels, tidy.numbered⟩ le_rfl rfl rfl rfl rfl rfl
  next =>
    split
    next => exact .of_stock ⟨tidy.queues, tidy.channels, tidy.numbered⟩ le_rfl rfl rfl rfl rfl rfl
    next =>
      exact .of_stock ⟨tidy.queues, tidy.channels,
        fun channel member => Nat.le_succ_of_le (tidy.numbered channel member)⟩
        (Nat.le_succ b.lastId) rfl rfl rfl rfl rfl

theorem createChannel_accounts (connection : Nat) (transactional : Bool) :
    Accounts b (.createChannel connection transactional)
      (b.createChannel connection transactional).2 := by
  unfold createChannel
  split
  next record found =>
    split
    next =>
      dsimp only
      have fresh : b.lastId + 1 ∉ b.channels.keys := fun member =>
        absurd (tidy.numbered _ member) (Nat.not_succ_le_self _)
      have same : ∀ added : ChannelRecord, added.stock = 0 →
          (b.channels.set (b.lastId + 1) added).total ChannelRecord.stock =
            b.channels.total ChannelRecord.stock := by
        intro added empty
        rw [Table.total_set_of_fresh _ fresh, empty, add_zero]
      refine .of_stock ⟨tidy.queues, Table.keys_set_nodup tidy.channels _ _, ?_⟩
        (Nat.le_succ b.lastId) rfl rfl ?_ rfl rfl
      · intro channel member
        rw [Table.keys_set_of_fresh fresh] at member
        rcases List.mem_append.mp member with old | added
        · exact Nat.le_succ_of_le (tidy.numbered channel old)
        · exact (List.mem_singleton.mp added).le
      · show b.queues.total _ + (b.channels.set _ _).total _ + _ + _ = _
        rw [same _ rfl]
        rfl
    next => exact .of_moves tidy rfl (Moves.refl b 0)
  next => exact .of_moves tidy rfl (Moves.refl b 0)

theorem dropConnections_accounts : Accounts b .dropConnections b.dropConnections := by
  refine .of_moves tidy rfl (List.foldlRecOn (motive := fun after => Moves _ b 0 after 0) _ _
    (Moves.refl b 0) fun after moved connection _ => moved.trans ?_)
  exact closeConnection_moves (moved.tidy tidy) (moved.serves (serves_justified b _)) connection _

theorem setPrefetch_accounts (channel prefetch : Nat) :
    Accounts b (.setPrefetch channel prefetch) (b.setPrefetch channel prefetch).2 := by
  unfold setPrefetch
  split
  next opened =>
    obtain ⟨record, opened⟩ := exists_openChannel? opened
    have bounded : Moves (Justified b (.setPrefetch channel prefetch)) b 0
        (b.updateChannel channel fun record => { record with prefetch }) 0 :=
      Moves.of_channel tidy (get?_of_openChannel? opened) _ rfl
    exact .of_moves tidy rfl
      (bounded.trans (dispatchAll_moves (bounded.tidy tidy) (bounded.serves (serves_justified b _))))
  next => exact .of_moves tidy rfl (Moves.refl b 0)

/-! ### Consumers -/

theorem closeChannel_accounts {op : Op} (nothing : b.arrival op = []) (channel : Nat)
    (cause : Option ClientError) : Accounts b op (b.closeChannel channel cause) :=
  .of_moves tidy nothing (closeChannel_moves tidy (serves_justified b op) channel cause)

theorem consume_accounts (channel : Nat) (queue requested : String) (autoAck : Bool)
    (subscriber : Nat) :
    Accounts b (.consume channel queue requested autoAck subscriber)
      (b.consume channel queue requested autoAck subscriber).2 := by
  generalize named : Op.consume channel queue requested autoAck subscriber = op
  have nothing : b.arrival op = [] := by rw [← named]; rfl
  rcases b.consume_cases channel queue requested autoAck subscriber with
    ⟨_, refused⟩ | ⟨_, generated, refused⟩ | ⟨tag, generated, opened, -, -, enrolled⟩
  · rw [refused]
    exact .of_moves tidy nothing (Moves.refl b 0)
  · have counted : Moves (Justified b op) b 0 { b with generatedTags := generated } 0 :=
      Moves.of_same rfl rfl (fun _ _ found => found) rfl rfl rfl rfl
    rw [refused]
    exact .of_moves tidy nothing (counted.trans (closeChannel_moves (counted.tidy tidy)
      (counted.serves (serves_justified b op)) channel none))
  · have added : Broker.Tidy { b with
        generatedTags := generated
        consumers := b.consumers.set tag ⟨queue, channel, autoAck, subscriber⟩ } :=
      ⟨tidy.queues, tidy.channels, tidy.numbered⟩
    have serves : Serves { b with
        generatedTags := generated
        consumers := b.consumers.set tag ⟨queue, channel, autoAck, subscriber⟩ }
        (Justified b op) := by
      intro other consumer registered auto message
      rw [Table.get?_set] at registered
      split at registered
      next =>
        obtain rfl := Option.some.inj registered
        obtain rfl : autoAck = true := auto
        rw [← named]
        exact .consumed
      next => exact .pushed registered auto
    have listed : Moves (Justified b op) _ 0
        (b.enroll generated tag ⟨queue, channel, autoAck, subscriber⟩) 0 :=
      Moves.of_queue_same added fun _ => rfl
    have noted := listed.trans (Moves.of_record _ channel (.consume queue tag) 0)
    rw [enrolled]
    refine .of_prepared _ 0 added le_rfl ?_ (by rw [nothing]; rfl) (by rw [nothing]; rfl) rfl
      (noted.trans (dispatch_moves (noted.tidy added) (noted.serves serves) queue))
    intro other consumer registered
    rw [Table.get?_set] at registered
    split at registered
    next =>
      obtain rfl := Option.some.inj registered
      exact .inr ⟨opened, requested, named.symm⟩
    next => exact .inl registered

theorem get_accounts (channel : Nat) (queue : String) (autoAck : Bool) :
    Accounts b (.get channel queue autoAck) (b.get channel queue autoAck).2 := by
  rcases b.get_cases channel queue autoAck with
    ⟨_, refused⟩ | ⟨_, refused⟩ | nothing |
      ⟨record, waiting, message, rest, opened, found, first, got⟩
  · rw [refused]
    exact .of_moves tidy rfl (Moves.refl b 0)
  · rw [refused]
    exact closeChannel_accounts tidy rfl channel none
  · rw [nothing]
    exact .of_moves tidy rfl (Moves.refl b 0)
  · have taken : Moves (Justified b (.get channel queue autoAck)) b 0
        (b.updateQueue queue fun record => { record with ready := rest })
        ({message.original} + 0) := by
      refine Moves.of_queue tidy found _ ?_
      show ((rest.map _ : List Message) : Multiset Message) + _ = _
      rw [QueueRecord.stock, first, List.map_cons, ← Multiset.cons_coe,
        ← Multiset.singleton_add]
      abel
    have handed := taken.trans (handOver_moves (taken.tidy tidy) opened queue "" autoAck message ?_)
    · rw [handed_eq opened] at handed
      rw [got]
      exact .of_moves tidy rfl handed
    · rintro rfl
      exact .taken found first

theorem cancel_accounts (channel : Nat) (consumerTag : String) :
    Accounts b (.cancel channel consumerTag) (b.cancel channel consumerTag).2 := by
  unfold cancel
  split
  next => exact .of_moves tidy rfl (Moves.refl b 0)
  next =>
    dsimp only
    refine .of_moves tidy rfl (Moves.trans ?_ (Moves.of_record _ channel (.cancel consumerTag) 0))
    split
    next =>
      split
      next => exact (unregister_moves tidy consumerTag).trans (Moves.of_notify _ _ _ 0)
      next => exact Moves.refl b 0
    next => exact Moves.refl b 0

/-! ### Settlement -/

theorem acknowledge_accounts (channel : Nat) (settlement : Settlement) :
    Accounts b (.acknowledge channel settlement) (b.acknowledge channel settlement).2 := by
  unfold acknowledge
  split
  next => exact .of_moves tidy rfl (Moves.refl b 0)
  next record opened =>
    split
    next =>
      have noted : Moves (Justified b (.acknowledge channel settlement)) b 0
          (b.record channel (.settle settlement)) 0 := Moves.of_record b channel _ 0
      dsimp only
      split
      next =>
        refine .of_moves tidy rfl (noted.trans (Moves.of_channel (noted.tidy tidy)
          (get?_of_openChannel? opened) _ ?_))
        rfl
      next plain =>
        have settled := noted.trans (settle_moves (noted.tidy tidy) opened settlement
          fun verdict entry listed covered =>
            .acknowledged opened (Bool.not_eq_true _ ▸ plain) listed covered verdict)
        exact .of_moves tidy rfl (settled.trans (dispatchAll_moves (settled.tidy tidy)
          (settled.serves (serves_justified b _))))
    next => exact closeChannel_accounts tidy rfl channel none

/-- A commit carries out what waits; it covers nothing that is not unsettled before it. -/
theorem commit_accounts (channel : Nat) : Accounts b (.commit channel) (b.commit channel).2 := by
  unfold commit
  split
  next => exact .of_moves tidy rfl (Moves.refl b 0)
  next record opened =>
    split
    next transactional =>
      dsimp only
      have isOpen := isOpen_of_openChannel? opened
      have cleared : Moves (Justified b (.commit channel)) b 0
          ((b.updateChannel channel fun record => { record with pending := [] }).record channel
            .commit) 0 :=
        (Moves.of_channel tidy (get?_of_openChannel? opened) _ rfl).trans
          (Moves.of_record _ channel .commit 0)
      have carried := List.foldlRecOn record.pending (fun b s => b.settle channel s)
        (motive := fun after => Moves (Justified b (.commit channel)) b 0 after 0 ∧
          ∃ now, after.openChannel? channel = some now ∧ now.unacked ⊆ record.unacked)
        ⟨cleared, { record with pending := [] },
          openChannel?_updateChannel opened (fun record => { record with pending := [] }) isOpen,
          List.Subset.refl _⟩
        fun after ⟨moved, now, reached, subset⟩ settlement waiting =>
          ⟨moved.trans (settle_moves (moved.tidy tidy) reached settlement
            fun verdict entry listed covered =>
              .committed opened transactional waiting (subset listed) covered verdict),
            _, openChannel?_settle reached settlement,
            fun _ member => subset (List.mem_filter.mp member).1⟩
      have settled := carried.1
      exact .of_moves tidy rfl (settled.trans (dispatchAll_moves (settled.tidy tidy)
        (settled.serves (serves_justified b _))))
    next => exact .of_moves tidy rfl (Moves.refl b 0)

theorem rollback_accounts (channel : Nat) :
    Accounts b (.rollback channel) (b.rollback channel).2 := by
  unfold rollback
  split
  next => exact .of_moves tidy rfl (Moves.refl b 0)
  next record opened =>
    split
    next =>
      exact .of_moves tidy rfl ((Moves.of_channel tidy (get?_of_openChannel? opened) _ rfl).trans
        (Moves.of_record _ channel .rollback 0))
    next => exact .of_moves tidy rfl (Moves.refl b 0)

/-! ### Steps and runs -/

omit tidy in
theorem Reply.ofResult_snd {α : Type} (f : α → Reply) (result : Except ClientError α × Broker) :
    (Reply.ofResult f result).2 = result.2 := by
  obtain ⟨result | result, _⟩ := result <;> rfl

omit tidy in
@[simp] theorem Reply.ofDone_snd (result : Except ClientError Unit × Broker) :
    (Reply.ofDone result).2 = result.2 := Reply.ofResult_snd _ result

omit tidy in
/-- Confirms change nothing that the broker knows. -/
theorem confirm_snd (b : Broker) (channel : Nat) : (b.confirm channel).2 = b := by
  unfold confirm
  split <;> rfl

/-- **One operation, refused or not, loses nothing and adds what it accepts.** -/
theorem step_accounts (op : Op) : Accounts b op (b.step op).2 := by
  cases op with
  | declare queue => exact declare_accounts tidy queue
  | delete queue => exact delete_accounts tidy queue
  | publish queue payload properties =>
    exact Reply.ofDone_snd _ ▸ publish_accounts tidy queue payload properties
  | refuseConnections on =>
    exact .of_stock ⟨tidy.queues, tidy.channels, tidy.numbered⟩ le_rfl rfl rfl rfl rfl rfl
  | rejectCredentials on =>
    exact .of_stock ⟨tidy.queues, tidy.channels, tidy.numbered⟩ le_rfl rfl rfl rfl rfl rfl
  | dropConnections => exact dropConnections_accounts tidy
  | connect => exact Reply.ofResult_snd _ _ ▸ connect_accounts tidy
  | closeConnection connection =>
    exact .of_moves tidy rfl (closeConnection_moves tidy (serves_justified b _) connection none)
  | createChannel connection transactional =>
    exact Reply.ofResult_snd _ _ ▸ createChannel_accounts tidy connection transactional
  | setPrefetch channel prefetch =>
    exact Reply.ofDone_snd _ ▸ setPrefetch_accounts tidy channel prefetch
  | consume channel queue tag autoAck subscriber =>
    exact Reply.ofResult_snd _ _ ▸ consume_accounts tidy channel queue tag autoAck subscriber
  | get channel queue autoAck =>
    exact Reply.ofResult_snd _ _ ▸ get_accounts tidy channel queue autoAck
  | acknowledge channel settlement =>
    exact Reply.ofDone_snd _ ▸ acknowledge_accounts tidy channel settlement
  | cancel channel tag => exact Reply.ofDone_snd _ ▸ cancel_accounts tidy channel tag
  | publishOn channel exchange queue payload properties =>
    exact Reply.ofDone_snd _ ▸ publishOn_accounts tidy channel exchange queue payload properties
  | commit channel => exact Reply.ofDone_snd _ ▸ commit_accounts tidy channel
  | rollback channel => exact Reply.ofDone_snd _ ▸ rollback_accounts tidy channel
  | confirm channel =>
    refine Reply.ofDone_snd _ ▸ ?_
    rw [confirm_snd]
    exact .of_moves tidy rfl (Moves.refl b 0)
  | close channel => exact closeChannel_accounts tidy rfl channel none

end Operations

/-- An operation brings nothing, or one new message under the next serial number. -/
theorem arrival_cases (b : Broker) (op : Op) :
    b.arrival op = [] ∨
      ∃ payload properties, b.arrival op = [⟨b.lastSerial + 1, payload, properties, false⟩] := by
  unfold arrival
  split
  next => split <;> simp
  next => split <;> simp
  next => exact .inl rfl

end QueueListener.Broker
