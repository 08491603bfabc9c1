import QueueListener.Broker.Operations
import QueueListener.Proofs.Table
/-!
# One push at a time

**Everything that dispatch does is a sequence of pushes, and every push takes the first waiting
message of a queue to an open channel.**

* `Push` — what a push finds, and `Push.result`, the broker that it leaves;
* `exists_push` — every step of dispatch is such a push: no message is taken out of a queue before
  an open channel is known to take it;
* `dispatch_induction`, `dispatchAll_induction`, `giveBackAll_induction` — what every single change
  keeps, the whole operation keeps;
* `giveBackAll_eq`, `settle_eq` — what returns and verdicts change at all;
* `get_cases`, `consume_cases` — the ways in which a request for one message and the registration of
  a consumer end.
-/

namespace QueueListener

/-- The channel after one more delivery, under the tag that it gets. -/
def ChannelRecord.receive (record : ChannelRecord) (tag : Nat) (queue : String) (autoAck : Bool)
    (message : Message) : ChannelRecord :=
  { record with
    lastTag := tag
    unacked := if autoAck then record.unacked else record.unacked ++ [⟨tag, queue, message⟩] }

/-- The channel after a verdict: what it covers is no longer unsettled. -/
def ChannelRecord.without (record : ChannelRecord) (settlement : Settlement) : ChannelRecord :=
  { record with unacked := record.unacked.filter fun entry => !settlement.covers entry.tag }

namespace Broker

/-! ### Open channels -/

theorem openChannel?_eq_some_iff {b : Broker} {channel : Nat} {record : ChannelRecord} :
    b.openChannel? channel = some record ↔
      b.channels.get? channel = some record ∧ record.isOpen = true := by
  unfold openChannel?
  cases found : b.channels.get? channel with
  | none => simp
  | some entry =>
    by_cases opened : entry.isOpen = true
    · simp only [opened, if_true, Option.some.injEq]
      exact ⟨fun same => ⟨same, same ▸ opened⟩, fun both => both.1⟩
    · simp only [opened]
      refine ⟨fun missing => (by cases missing), fun both => ?_⟩
      rw [Option.some.injEq] at both
      exact absurd (both.1 ▸ both.2) opened

theorem get?_of_openChannel? {b : Broker} {channel : Nat} {record : ChannelRecord}
    (opened : b.openChannel? channel = some record) : b.channels.get? channel = some record :=
  (openChannel?_eq_some_iff.mp opened).1

theorem isOpen_of_openChannel? {b : Broker} {channel : Nat} {record : ChannelRecord}
    (opened : b.openChannel? channel = some record) : record.isOpen = true :=
  (openChannel?_eq_some_iff.mp opened).2

/-- An open channel has a record. -/
theorem exists_openChannel? {b : Broker} {channel : Nat} (opened : b.channelOpen channel = true) :
    ∃ record, b.openChannel? channel = some record :=
  Option.isSome_iff_exists.mp opened

theorem channelOpen_of_openChannel? {b : Broker} {channel : Nat} {record : ChannelRecord}
    (opened : b.openChannel? channel = some record) : b.channelOpen channel = true := by
  rw [channelOpen, opened, Option.isSome_some]

/-- A change that keeps a channel open is what is read from it afterwards. -/
theorem openChannel?_updateChannel {b : Broker} {channel : Nat} {record : ChannelRecord}
    (opened : b.openChannel? channel = some record) (f : ChannelRecord → ChannelRecord)
    (kept : (f record).isOpen = true) :
    (b.updateChannel channel f).openChannel? channel = some (f record) := by
  refine openChannel?_eq_some_iff.mpr ⟨?_, kept⟩
  show (b.channels.modify channel f).get? channel = _
  rw [Table.get?_modify_self, get?_of_openChannel? opened, Option.map_some]

theorem openChannel?_updateChannel_of_ne (b : Broker) {channel other : Nat}
    (f : ChannelRecord → ChannelRecord) (differ : other ≠ channel) :
    (b.updateChannel channel f).openChannel? other = b.openChannel? other := by
  unfold openChannel? updateChannel
  rw [Table.get?_modify_of_ne _ _ differ]

/-! ### Handing over -/

/-- The delivery that a message becomes on a channel. -/
def deliveryOf (queue consumerTag : String) (record : ChannelRecord) (message : Message) :
    Delivery :=
  ⟨queue, record.lastTag + 1, consumerTag, message.payload, message.redelivered,
    message.properties⟩

/-- **A handing over** changes one channel, and records a departure if nobody will acknowledge. -/
theorem handOver_eq {b : Broker} {channel : Nat} {record : ChannelRecord}
    (found : b.channels.get? channel = some record) (queue consumerTag : String) (autoAck : Bool)
    (message : Message) :
    b.handOver queue consumerTag channel autoAck message =
      (deliveryOf queue consumerTag record message,
        { b with
          channels := b.channels.modify channel
            (·.receive (record.lastTag + 1) queue autoAck message)
          departures := if autoAck then b.departures.push (message, .handedOut)
            else b.departures }) := by
  unfold handOver
  rw [found]
  cases autoAck <;> rfl

/-! ### Pushes -/

/-- A consumer with capacity has an open channel, and is within its bound unless it does not
acknowledge. -/
theorem hasCapacity_iff {b : Broker} {consumer : Subscription} :
    b.hasCapacity consumer = true ↔
      ∃ record, b.openChannel? consumer.channel = some record ∧ (consumer.autoAck = true ∨
        record.prefetch = 0 ∨ record.unacked.length < record.prefetch) := by
  unfold hasCapacity
  cases b.openChannel? consumer.channel with
  | none => simp
  | some record => simp [or_assoc]

/-- What a push finds: a waiting message, and a consumer with capacity on an open channel. -/
structure Push (b : Broker) (queue : String) where
  record : QueueRecord
  message : Message
  rest : List Message
  place : Nat
  consumerTag : String
  consumer : Subscription
  channel : ChannelRecord
  found : b.queues.get? queue = some record
  waiting : record.ready = message :: rest
  listed : record.consumers[place]? = some consumerTag
  registered : b.consumers.get? consumerTag = some consumer
  opened : b.openChannel? consumer.channel = some channel
  capacity : b.hasCapacity consumer = true

/-- The broker after a push. -/
def Push.result {b : Broker} {queue : String} (push : Push b queue) : Broker :=
  { b with
    queues := b.queues.modify queue fun record =>
      { record with ready := push.rest, cursor := (push.place + 1) % record.consumers.length }
    channels := b.channels.modify push.consumer.channel
      (·.receive (push.channel.lastTag + 1) queue push.consumer.autoAck push.message)
    departures := if push.consumer.autoAck then b.departures.push (push.message, .handedOut)
      else b.departures
    notices := b.notices.push (push.consumer.subscriber,
      .delivered (deliveryOf queue push.consumerTag push.channel push.message)) }

/-- A push is within the bound of its channel, unless nobody will acknowledge it. -/
theorem Push.within {b : Broker} {queue : String} (push : Push b queue) :
    push.consumer.autoAck = true ∨ push.channel.prefetch = 0 ∨
      push.channel.unacked.length < push.channel.prefetch := by
  obtain ⟨channel, opened, within⟩ := hasCapacity_iff.mp push.capacity
  obtain rfl := Option.some.inj (opened.symm.trans push.opened)
  exact within

/-- A push takes the message out of its queue, hands it over, and tells the subscriber. -/
theorem Push.result_eq {b : Broker} {queue : String} (push : Push b queue) :
    push.result = (((b.updateQueue queue fun record =>
        { record with
          ready := push.rest
          cursor := (push.place + 1) % record.consumers.length }).handOver queue push.consumerTag
      push.consumer.channel push.consumer.autoAck push.message).2.notify push.consumer.subscriber
        (.delivered (deliveryOf queue push.consumerTag push.channel push.message))) := by
  have reached : (b.updateQueue queue fun record =>
      { record with
        ready := push.rest
        cursor := (push.place + 1) % record.consumers.length }).channels.get?
          push.consumer.channel = some push.channel := get?_of_openChannel? push.opened
  rw [handOver_eq reached]
  rfl

/-- The consumer at a place has capacity. -/
theorem available?_eq_some {b : Broker} {queue : QueueRecord} {found place : Nat} {tag : String}
    {consumer : Subscription} (free : b.available? queue found = some (place, tag, consumer)) :
    found = place ∧ queue.consumers[place]? = some tag ∧ b.consumers.get? tag = some consumer ∧
      b.hasCapacity consumer = true := by
  unfold available? at free
  split at free
  next candidate listed =>
    split at free
    next subscription registered =>
      split at free
      next capacity =>
        simp only [Option.some.injEq, Prod.mk.injEq] at free
        obtain ⟨rfl, rfl, rfl⟩ := free
        exact ⟨rfl, listed, registered, capacity⟩
      next => cases free
    next => cases free
  next => cases free

/-- Nobody at a place has capacity. -/
theorem available?_eq_none_iff {b : Broker} {queue : QueueRecord} {place : Nat} :
    b.available? queue place = none ↔ ∀ tag, queue.consumers[place]? = some tag → ∀ consumer,
      b.consumers.get? tag = some consumer → b.hasCapacity consumer = false := by
  unfold available?
  cases queue.consumers[place]? with
  | none => simp
  | some tag =>
    cases registered : b.consumers.get? tag with
    | none => simp [registered]
    | some consumer => simp [registered]

/-- A consumer that the search finds stands at its place, is registered, and has capacity. -/
theorem nextConsumer?_eq_some {b : Broker} {queue : QueueRecord} {place : Nat} {tag : String}
    {consumer : Subscription} (next : b.nextConsumer? queue = some (place, tag, consumer)) :
    queue.consumers[place]? = some tag ∧ b.consumers.get? tag = some consumer ∧
      b.hasCapacity consumer = true := by
  obtain ⟨start, -, accepted⟩ := List.exists_of_findSome?_eq_some next
  exact (available?_eq_some accepted).2

/-- **Every step of dispatch is a push** to the consumer that the search finds. -/
theorem exists_chosen_push {b after : Broker} {queue : String}
    (pushed : b.pushNext? queue = some after) :
    ∃ push : Push b queue, push.result = after ∧
      b.nextConsumer? push.record = some (push.place, push.consumerTag, push.consumer) := by
  unfold pushNext? at pushed
  split at pushed
  next => cases pushed
  next record found =>
    split at pushed
    next => cases pushed
    next message rest waiting =>
      split at pushed
      next => cases pushed
      next place consumerTag consumer next =>
        obtain ⟨listed, registered, capacity⟩ := nextConsumer?_eq_some next
        obtain ⟨channel, opened, -⟩ := hasCapacity_iff.mp capacity
        have reached : (b.updateQueue queue fun record =>
            { record with
              ready := rest
              cursor := (place + 1) % record.consumers.length }).channels.get? consumer.channel =
            some channel := get?_of_openChannel? opened
        dsimp only at pushed
        rw [handOver_eq reached] at pushed
        exact ⟨⟨record, message, rest, place, consumerTag, consumer, channel, found, waiting,
          listed, registered, opened, capacity⟩, Option.some.inj pushed, next⟩

/-- **Every step of dispatch is a push.** -/
theorem exists_push {b after : Broker} {queue : String} (pushed : b.pushNext? queue = some after) :
    ∃ push : Push b queue, push.result = after := by
  obtain ⟨push, same, -⟩ := exists_chosen_push pushed
  exact ⟨push, same⟩

/-! ### From one change to all -/

section Induction

variable {motive : Broker → Prop}

/-- What every push keeps, a number of pushes keeps. -/
theorem pushUpTo_induction
    (kept : ∀ (b : Broker) (queue : String) (push : Push b queue), motive b → motive push.result)
    (count : Nat) (queue : String) (b : Broker) (start : motive b) :
    motive (pushUpTo count queue b) := by
  induction count generalizing b with
  | zero => exact start
  | succ count ih =>
    rw [pushUpTo]
    split
    next after pushed =>
      obtain ⟨push, rfl⟩ := exists_push pushed
      exact ih push.result (kept b queue push start)
    next => exact start

/-- **What every push keeps, the dispatch of a queue keeps.** -/
theorem dispatch_induction
    (kept : ∀ (b : Broker) (queue : String) (push : Push b queue), motive b → motive push.result)
    (queue : String) (b : Broker) (start : motive b) : motive (b.dispatch queue) :=
  pushUpTo_induction kept (b.readyCount queue) queue b start

/-- **What every push keeps, the dispatch of all queues keeps.** -/
theorem dispatchAll_induction
    (kept : ∀ (b : Broker) (queue : String) (push : Push b queue), motive b → motive push.result)
    (b : Broker) (start : motive b) : motive b.dispatchAll :=
  List.foldlRecOn b.queues.keys dispatch start fun b reached queue _ =>
    dispatch_induction kept queue b reached

/-- What the return of one message keeps, the return of all keeps. -/
theorem giveBackAll_induction (entries : List Unacked)
    (kept : ∀ (b : Broker) (entry : Unacked), motive b → motive (b.giveBack entry))
    (b : Broker) (start : motive b) : motive (b.giveBackAll entries) := by
  induction entries with
  | nil => exact start
  | cons entry rest ih => exact kept (b.giveBackAll rest) entry ih

end Induction

/-! ### Returns and verdicts -/

/-- Returned messages only go to queues and to the dead letters. -/
theorem giveBackAll_eq (b : Broker) (entries : List Unacked) :
    ∃ queues deadLetters, b.giveBackAll entries =
      { b with queues := queues, deadLetters := deadLetters } := by
  refine giveBackAll_induction (motive := fun after => ∃ queues deadLetters, after =
    { b with queues := queues, deadLetters := deadLetters }) entries ?_ b ⟨_, _, rfl⟩
  rintro _ entry ⟨queues, deadLetters, rfl⟩
  unfold giveBack
  dsimp only
  split
  next => exact ⟨_, deadLetters, rfl⟩
  next => exact ⟨queues, _, rfl⟩

/-- A verdict takes what it covers off its channel; the messages go to queues, to the dead letters,
or leave. -/
theorem settle_eq {b : Broker} {channel : Nat} {record : ChannelRecord}
    (found : b.channels.get? channel = some record) (settlement : Settlement) :
    ∃ queues deadLetters departures, b.settle channel settlement =
      { b with
        channels := b.channels.modify channel (·.without settlement)
        queues := queues
        deadLetters := deadLetters
        departures := departures } := by
  unfold settle
  rw [found]
  dsimp only
  split
  next => exact ⟨_, _, _, rfl⟩
  next =>
    obtain ⟨queues, deadLetters, same⟩ := giveBackAll_eq
      (b.updateChannel channel (·.without settlement))
      (record.unacked.filter fun entry => settlement.covers entry.tag)
    exact ⟨queues, deadLetters, b.departures, same⟩
  next => exact ⟨_, _, _, rfl⟩

/-- A channel stays open under a verdict. -/
theorem openChannel?_settle {b : Broker} {channel : Nat} {record : ChannelRecord}
    (opened : b.openChannel? channel = some record) (settlement : Settlement) :
    (b.settle channel settlement).openChannel? channel = some (record.without settlement) := by
  obtain ⟨_, _, _, same⟩ := settle_eq (get?_of_openChannel? opened) settlement
  have isOpen : record.isOpen = true := isOpen_of_openChannel? opened
  rw [same]
  exact openChannel?_updateChannel opened (·.without settlement) isOpen

/-! ### Polling -/

/-- The broker after the first waiting message of a queue was handed to a channel. -/
def handed (b : Broker) (channel : Nat) (record : ChannelRecord) (queue : String)
    (message : Message) (rest : List Message) (autoAck : Bool) : Broker :=
  { b with
    queues := b.queues.modify queue fun record => { record with ready := rest }
    channels := b.channels.modify channel (·.receive (record.lastTag + 1) queue autoAck message)
    departures := if autoAck then b.departures.push (message, .handedOut) else b.departures }

theorem handed_eq {b : Broker} {channel : Nat} {record : ChannelRecord}
    (opened : b.openChannel? channel = some record) (queue : String) (message : Message)
    (rest : List Message) (autoAck : Bool) :
    (b.updateQueue queue fun record => { record with ready := rest }).handOver queue "" channel
        autoAck message =
      (deliveryOf queue "" record message,
        b.handed channel record queue message rest autoAck) := by
  have reached : (b.updateQueue queue fun record => { record with ready := rest }).channels.get?
      channel = some record := get?_of_openChannel? opened
  rw [handOver_eq reached]
  rfl

/-- **A request for one message** is refused without effect, or refused with the closing of the
channel, or it finds nothing, or it is handed the first waiting message of the queue. -/
theorem get_cases (b : Broker) (channel : Nat) (queue : String) (autoAck : Bool) :
    (∃ error, b.get channel queue autoAck = (.error error, b)) ∨
    (∃ error, b.get channel queue autoAck = (.error error, b.closeChannel channel none)) ∨
    b.get channel queue autoAck = (.ok none, b) ∨
    (∃ record waiting message rest, b.openChannel? channel = some record ∧
      b.queues.get? queue = some waiting ∧ waiting.ready = message :: rest ∧
      b.get channel queue autoAck = (.ok (some (deliveryOf queue "" record message)),
        b.handed channel record queue message rest autoAck)) := by
  unfold Broker.get
  split
  next => exact .inl ⟨_, rfl⟩
  next opened =>
    simp only [Bool.not_eq_true', Bool.not_eq_false] at opened
    obtain ⟨record, opened⟩ := exists_openChannel? opened
    split
    next => exact .inr (.inl ⟨_, rfl⟩)
    next waiting found =>
      split
      next => exact .inr (.inr (.inl rfl))
      next message rest first =>
        refine .inr (.inr (.inr ⟨record, waiting, message, rest, opened, found, first, ?_⟩))
        dsimp only
        rw [handed_eq opened]

/-! ### Registration -/

/-- The broker with one more consumer in its table and in its queue. -/
def enroll (b : Broker) (generated : Nat) (tag : String) (consumer : Subscription) : Broker :=
  ({ b with generatedTags := generated, consumers := b.consumers.set tag consumer } :
    Broker).updateQueue consumer.queue fun record =>
      { record with consumers := record.consumers ++ [tag] }

/-- **A registration** is refused without effect, or refused with the closing of the channel, or it
enrolls a consumer under a new tag and dispatches its queue. -/
theorem consume_cases (b : Broker) (channel : Nat) (queue requested : String) (autoAck : Bool)
    (subscriber : Nat) :
    (∃ error, b.consume channel queue requested autoAck subscriber = (.error error, b)) ∨
    (∃ error generated, b.consume channel queue requested autoAck subscriber =
      (.error error, ({ b with generatedTags := generated } : Broker).closeChannel channel none)) ∨
    (∃ tag generated, b.channelOpen channel = true ∧ b.queues.contains queue = true ∧
      b.consumers.get? tag = none ∧ b.consume channel queue requested autoAck subscriber =
        (.ok tag, ((b.enroll generated tag ⟨queue, channel, autoAck, subscriber⟩).record channel
          (.consume queue tag)).dispatch queue)) := by
  unfold consume
  split
  next => exact .inl ⟨_, rfl⟩
  next opened =>
    simp only [Bool.not_eq_true', Bool.not_eq_false] at opened
    split
    next => exact .inr (.inl ⟨_, b.generatedTags, rfl⟩)
    next present =>
      simp only [Bool.not_eq_true', Bool.not_eq_false] at present
      have chosen : ∃ tag generated,
          b.chooseTag requested = (tag, { b with generatedTags := generated }) := by
        unfold chooseTag
        split
        next => exact ⟨_, _, rfl⟩
        next => exact ⟨_, b.generatedTags, rfl⟩
      obtain ⟨tag, generated, chosen⟩ := chosen
      rw [chosen]
      dsimp only
      split
      next => exact .inr (.inl ⟨_, generated, rfl⟩)
      next unused =>
        have fresh : b.consumers.get? tag = none := Option.not_isSome_iff_eq_none.mp unused
        exact .inr (.inr ⟨tag, generated, opened, present, fresh, rfl⟩)

end Broker

end QueueListener
