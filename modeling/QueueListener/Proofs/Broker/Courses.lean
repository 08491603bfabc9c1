import QueueListener.Proofs.Broker.Accounts
/-!
# The course of an operation

**Every operation of the broker adds or sets at most one thing, and then takes its course**: a
sequence of changes of six kinds, of which only the pushes deliver anything. What each kind of
change keeps, every operation keeps.

* `Change` — one change: a push, a turn that neither registers nor ends nor delivers, the leaving of
  a consumer, the shutting of a channel without consumers, the dropping of a queue, the loss of a
  connection;
* `Course` — changes one after the other, with the log of their pushes;
* `Opening` — what an operation does at its start: it adds a queue, a connection, a channel or a
  consumer, sets the bound of a channel, or hands a delivery to its caller;
* `Unfolding`, `step_unfolds` — every operation is an opening and a course.
-/

namespace QueueListener

/-- The delivery that a notice brings. -/
def Notice.delivery? : Notice → Option Delivery
  | .delivered delivery => some delivery
  | _ => none

/-- A change of a channel that neither closes it nor delivers on it. -/
structure ChannelRecord.Turns (record record' : ChannelRecord) : Prop where
  connection : record'.connection = record.connection
  isOpen : record'.isOpen = record.isOpen
  transactional : record'.transactional = record.transactional
  prefetch : record'.prefetch = record.prefetch
  lastTag : record'.lastTag = record.lastTag
  unacked : record'.unacked.Sublist record.unacked
  pending : record'.pending ⊆ record.pending ∨ (record.isOpen = true ∧ record.transactional = true)

theorem ChannelRecord.Turns.refl (record : ChannelRecord) : record.Turns record :=
  ⟨rfl, rfl, rfl, rfl, rfl, List.Sublist.refl _, .inl (List.Subset.refl _)⟩

/-- The channel after its closing. -/
def ChannelRecord.shut (record : ChannelRecord) : ChannelRecord :=
  { record with isOpen := false, pending := [], unacked := [] }

namespace Broker

/-! ### Changes -/

/-- A push as the channel saw it: the consumer, the channel before the push, and the delivery. -/
structure Pushing where
  consumer : Subscription
  channel : ChannelRecord
  delivery : Delivery

/-- A push, as its channel sees it. -/
def Push.pushing {b : Broker} {queue : String} (push : Push b queue) : Pushing :=
  ⟨push.consumer, push.channel, deliveryOf queue push.consumerTag push.channel push.message⟩

/-- A change that registers nobody, ends nobody and delivers nothing. -/
structure Turns (b b' : Broker) : Prop where
  consumers : b'.consumers = b.consumers
  connections : b'.connections = b.connections
  notices : b'.notices = b.notices
  listed : ∀ queue, (b'.queues.get? queue).map (·.consumers) =
    (b.queues.get? queue).map (·.consumers)
  channels : ∀ channel, Option.Rel ChannelRecord.Turns (b.channels.get? channel)
    (b'.channels.get? channel)

/-- One change of the broker, with the pushes that it makes. `losing` tells which connections may be
lost. -/
inductive Change (losing : Nat → Prop) (b : Broker) : List Pushing → Broker → Prop
  | push {queue : String} (push : Push b queue) : Change losing b [push.pushing] push.result
  | turn {b' : Broker} (turned : Turns b b') : Change losing b [] b'
  /-- A consumer leaves, and hears why. -/
  | leave {consumerTag : String} {consumer : Subscription} {notice : Notice}
      (found : b.consumers.get? consumerTag = some consumer) (silent : notice.delivery? = none) :
      Change losing b [] ((b.unregister consumerTag).notify consumer.subscriber notice)
  /-- A channel closes when nobody consumes on it any more. -/
  | shut (channel : Nat) (left : ∀ tag consumer, b.consumers.get? tag = some consumer →
      consumer.channel ≠ channel) : Change losing b [] (b.updateChannel channel ChannelRecord.shut)
  /-- A queue is dropped, and its consumers with it. -/
  | drop {queue : String} {record : QueueRecord} (found : b.queues.get? queue = some record) :
      Change losing b [] (b.delete queue).2
  | lose {connection : Nat} (lost : losing connection) : Change losing b []
      { b with connections :=
        b.connections.modify connection fun record => { record with isOpen := false } }

/-- Changes one after the other, with the log of their pushes. -/
inductive Course (losing : Nat → Prop) (b : Broker) : List Pushing → Broker → Prop
  | refl : Course losing b [] b
  | step {b₁ b₂ : Broker} {log more : List Pushing} (course : Course losing b log b₁)
      (change : Change losing b₁ more b₂) : Course losing b (log ++ more) b₂

/-- Some course leads from one broker to another. -/
def Leads (losing : Nat → Prop) (b b' : Broker) : Prop := ∃ log, Course losing b log b'

namespace Leads

variable {losing : Nat → Prop} {b b₁ b₂ : Broker}

theorem refl (b : Broker) : Leads losing b b := ⟨[], .refl⟩

theorem step (led : Leads losing b b₁) {more : List Pushing} (change : Change losing b₁ more b₂) :
    Leads losing b b₂ := by
  obtain ⟨log, course⟩ := led
  exact ⟨log ++ more, course.step change⟩

theorem turn (led : Leads losing b b₁) (turned : Turns b₁ b₂) : Leads losing b b₂ :=
  led.step (.turn turned)

theorem trans (first : Leads losing b b₁) (second : Leads losing b₁ b₂) : Leads losing b b₂ := by
  obtain ⟨log, course⟩ := second
  induction course with
  | refl => exact first
  | step _ change ih => exact ih.step change

end Leads

/-! ### Turns -/

namespace Turns

variable {b b' : Broker}

theorem refl_channels (b : Broker) (channel : Nat) :
    Option.Rel ChannelRecord.Turns (b.channels.get? channel) (b.channels.get? channel) := by
  cases b.channels.get? channel with
  | none => exact .none
  | some record => exact .some (.refl record)

/-- What else changes does not matter. -/
theorem of_same (consumers : b'.consumers = b.consumers)
    (connections : b'.connections = b.connections) (notices : b'.notices = b.notices)
    (queues : b'.queues = b.queues)
    (channels : b'.channels = b.channels) : Turns b b' :=
  ⟨consumers, connections, notices, fun _ => by rw [queues],
    fun channel => by rw [channels]; exact refl_channels b channel⟩

/-- A change of a queue that leaves its consumers. -/
theorem of_queue (b : Broker) (queue : String) {f : QueueRecord → QueueRecord}
    (same : ∀ record, (f record).consumers = record.consumers) :
    Turns b (b.updateQueue queue f) := by
  refine ⟨rfl, rfl, rfl, fun other => ?_, refl_channels b⟩
  unfold updateQueue
  dsimp only
  rw [Table.get?_modify]
  split
  next =>
    rw [Option.map_map]
    exact congrArg (Option.map · _) (funext same)
  next => rfl

/-- A turn of one channel. -/
theorem of_channel {channel : Nat} {f : ChannelRecord → ChannelRecord}
    (turned : ∀ record, b.channels.get? channel = some record → record.Turns (f record)) :
    Turns b (b.updateChannel channel f) := by
  refine ⟨rfl, rfl, rfl, fun _ => rfl, fun other => ?_⟩
  unfold updateChannel
  dsimp only
  rw [Table.get?_modify]
  split
  next same =>
    subst same
    cases found : b.channels.get? other with
    | none => exact .none
    | some record => exact .some (turned record found)
  next => exact refl_channels b other

theorem of_record (b : Broker) (channel : Nat) (action : ChannelAction) :
    Turns b (b.record channel action) := of_same rfl rfl rfl rfl rfl

end Turns

/-! ### The courses of the parts -/

section Parts

variable {losing : Nat → Prop}

theorem dispatch_leads (b : Broker) (queue : String) : Leads losing b (b.dispatch queue) :=
  dispatch_induction (motive := Leads losing b) (fun _ _ push led => led.step (.push push)) queue b
    (.refl b)

theorem dispatchAll_leads (b : Broker) : Leads losing b b.dispatchAll :=
  dispatchAll_induction (motive := Leads losing b) (fun _ _ push led => led.step (.push push)) b
    (.refl b)

theorem giveBackAll_leads (b : Broker) (entries : List Unacked) :
    Leads losing b (b.giveBackAll entries) := by
  refine giveBackAll_induction (motive := Leads losing b) entries (fun after entry led => ?_) b
    (.refl b)
  unfold giveBack
  dsimp only
  split
  next => exact led.turn (.of_queue after entry.queue fun _ => rfl)
  next => exact led.turn (.of_same rfl rfl rfl rfl rfl)

/-- A verdict takes deliveries off a channel; where their messages go is no more than a turn. -/
theorem settle_leads (b : Broker) (channel : Nat) (settlement : Settlement) :
    Leads losing b (b.settle channel settlement) := by
  unfold settle
  split
  next => exact .refl b
  next record found =>
    dsimp only
    have taken : Leads losing b (b.updateChannel channel (·.without settlement)) :=
      (Leads.refl b).turn (.of_channel fun record _ =>
        ⟨rfl, rfl, rfl, rfl, rfl, List.filter_sublist, .inl (List.Subset.refl _)⟩)
    split
    next => exact taken.turn (.of_same rfl rfl rfl rfl rfl)
    next => exact taken.trans (giveBackAll_leads _ _)
    next => exact taken.turn (.of_same rfl rfl rfl rfl rfl)

/-! ### Closing -/

/-- The ends of consumers do not depend on what the channel looks like. -/
theorem endConsumer_updateChannel (b : Broker) (channel : Nat) (f : ChannelRecord → ChannelRecord)
    (cause : Option ClientError) (consumerTag : String) :
    (b.updateChannel channel f).endConsumer cause consumerTag =
      (b.endConsumer cause consumerTag).updateChannel channel f := by
  have same : (b.updateChannel channel f).consumers = b.consumers := rfl
  unfold endConsumer unregister
  rw [same]
  cases b.consumers.get? consumerTag <;> rfl

theorem foldl_endConsumer_updateChannel (tags : List String) (b : Broker) (channel : Nat)
    (f : ChannelRecord → ChannelRecord) (cause : Option ClientError) :
    tags.foldl (fun b tag => b.endConsumer cause tag) (b.updateChannel channel f) =
      (tags.foldl (fun b tag => b.endConsumer cause tag) b).updateChannel channel f := by
  induction tags generalizing b with
  | nil => rfl
  | cons tag rest ih =>
    rw [List.foldl_cons, List.foldl_cons, endConsumer_updateChannel, ih]

/-- The end of a consumer takes its tag out of the table. -/
theorem endConsumer_consumers (b : Broker) (cause : Option ClientError) (consumerTag : String) :
    (b.endConsumer cause consumerTag).consumers.get? =
      (b.consumers.erase consumerTag).get? := by
  unfold endConsumer
  split
  next missing =>
    funext other
    rw [Table.get?_erase]
    split
    next same => rw [same, missing]
    next => rfl
  next found =>
    unfold unregister
    rw [found]
    rfl

/-- Who is still registered was not among those who ended. -/
theorem foldl_endConsumer_consumers (cause : Option ClientError) (tags : List String) (b : Broker)
    {tag : String} {consumer : Subscription}
    (still : (tags.foldl (fun b tag => b.endConsumer cause tag) b).consumers.get? tag =
      some consumer) : b.consumers.get? tag = some consumer ∧ tag ∉ tags := by
  induction tags generalizing b with
  | nil => exact ⟨still, List.not_mem_nil⟩
  | cons first rest ih =>
    obtain ⟨before, later⟩ := ih (b.endConsumer cause first) still
    rw [endConsumer_consumers, Table.get?_erase] at before
    split at before
    next => cases before
    next differ => exact ⟨before, List.not_mem_cons_of_ne_of_not_mem differ later⟩

theorem endConsumer_leads (b : Broker) (cause : Option ClientError) (consumerTag : String) :
    Leads losing b (b.endConsumer cause consumerTag) := by
  unfold endConsumer
  split
  next => exact .refl b
  next found =>
    refine (Leads.refl b).step (.leave found ?_)
    cases cause <;> rfl

/-- **The closing of a channel** ends its consumers and shuts it; then what was unsettled comes back
and is dispatched. -/
theorem closeChannel_leads (b : Broker) (channel : Nat) (cause : Option ClientError) :
    Leads losing b (b.closeChannel channel cause) := by
  unfold closeChannel
  split
  next => exact .refl b
  next record opened =>
    dsimp only
    have tags : (b.updateChannel channel ChannelRecord.shut).tagsOn channel = b.tagsOn channel :=
      rfl
    have ended : Leads losing b
        ((b.tagsOn channel).foldl (fun b tag => b.endConsumer cause tag) b) :=
      List.foldlRecOn (motive := Leads losing b) _ _ (.refl b)
        fun after led tag _ => led.trans (endConsumer_leads after cause tag)
    -- The broker marks the channel first and then ends its consumers. The course takes the other
    -- order, which gives the same broker: so nobody is ever registered on a closed channel.
    have closed := ended.step (.shut channel fun tag consumer still same => ?_)
    · rw [← foldl_endConsumer_updateChannel, ← tags] at closed
      exact ((closed.trans (giveBackAll_leads _ record.unacked)).turn
        (.of_record _ channel .close)).trans (dispatchAll_leads _)
    · obtain ⟨found, unended⟩ := foldl_endConsumer_consumers cause _ b still
      exact unended (List.mem_map.mpr ⟨(tag, consumer),
        List.mem_filter.mpr ⟨Table.mem_entries_of_get? found, decide_eq_true same⟩, rfl⟩)

theorem closeConnection_leads (b : Broker) (connection : Nat) (cause : Option ClientError)
    (lost : losing connection) : Leads losing b (b.closeConnection connection cause) := by
  unfold closeConnection
  split
  next =>
    exact List.foldlRecOn (motive := Leads losing b) _ _ ((Leads.refl b).step (.lose lost))
      fun after led channel _ => led.trans (closeChannel_leads after channel cause)
  next => exact .refl b

end Parts

/-! ### Openings -/

/-- What an operation adds or sets before it takes its course, and the deliveries that its caller
takes, each with its channel. -/
inductive Opening (b : Broker) : List (Nat × Delivery) → Broker → Prop
  | nothing : Opening b [] b
  | queue {queue : String} (fresh : b.queues.get? queue = none) :
      Opening b [] { b with queues := b.queues.set queue {} }
  | connection (attempts : Nat) : Opening b []
      { b with
        connectionAttempts := attempts
        lastId := b.lastId + 1
        connections := b.connections.set (b.lastId + 1) { isOpen := true } }
  | channel {connection : Nat} (number : UInt16) (transactional : Bool)
      (opened : b.connectionOpen connection = true) : Opening b []
      { b with
        lastId := b.lastId + 1
        connections := b.connections.modify connection fun r => { r with channels := number }
        channels := b.channels.set (b.lastId + 1)
          { connection, number := number.toNat, isOpen := true, transactional } }
  | bound (channel prefetch : Nat) :
      Opening b [] (b.updateChannel channel fun record => { record with prefetch })
  | consumer (generated : Nat) {tag : String} {consumer : Subscription}
      (opened : b.channelOpen consumer.channel = true)
      (present : b.queues.contains consumer.queue = true)
      (fresh : b.consumers.get? tag = none) : Opening b [] (b.enroll generated tag consumer)
  | delivery {channel : Nat} {queue : String} {record : ChannelRecord} {waiting : QueueRecord}
      {message : Message} {rest : List Message} (autoAck : Bool)
      (opened : b.openChannel? channel = some record)
      (found : b.queues.get? queue = some waiting) (first : waiting.ready = message :: rest) :
      Opening b [(channel, deliveryOf queue "" record message)]
        (b.handed channel record queue message rest autoAck)

/-- The connections that an operation may close. -/
def Op.Loses : Op → Nat → Prop
  | .closeConnection connection => (· = connection)
  | .dropConnections => fun _ => True
  | _ => fun _ => False

/-- What an operation delivers to its caller, with the channel. -/
def taken (b : Broker) (op : Op) : List (Nat × Delivery) :=
  match op, (b.step op).1 with
  | .get channel _ _, .delivery (some delivery) => [(channel, delivery)]
  | _, _ => []

/-- An operation as an opening and a course. -/
structure Unfolding (b : Broker) (op : Op) (b₁ : Broker) (log : List Pushing) : Prop where
  opening : Opening b (b.taken op) b₁
  course : Course op.Loses b₁ log (b.step op).2
  /-- Who is registered at the start of the course was so before, or is so afterwards. -/
  known : ∀ tag consumer, b₁.consumers.get? tag = some consumer →
    b.consumers.get? tag = some consumer ∨
      (b.consumers.get? tag = none ∧ (b.step op).2.consumers.get? tag = some consumer)

/-- An operation adds or sets at most one thing and takes its course. -/
def Unfolds (b : Broker) (op : Op) : Prop := ∃ b₁ log, Unfolding b op b₁ log

/-! ### Every operation -/

namespace Unfolds

variable {b b₁ : Broker} {op : Op}

/-- An operation that adds nothing is no more than its course. -/
theorem of_leads (nothing : b.taken op = []) (led : Leads op.Loses b (b.step op).2) :
    Unfolds b op := by
  obtain ⟨log, course⟩ := led
  exact ⟨b, log, nothing ▸ .nothing, course, fun _ _ found => .inl found⟩

/-- An operation that adds something, but no consumer. -/
theorem of_opening (opening : Opening b (b.taken op) b₁) (consumers : b₁.consumers = b.consumers)
    (led : Leads op.Loses b₁ (b.step op).2) : Unfolds b op := by
  obtain ⟨log, course⟩ := led
  exact ⟨b₁, log, opening, course, fun _ _ found => .inl (consumers ▸ found)⟩

end Unfolds

section Operations

variable (b : Broker) {losing : Nat → Prop}

theorem accept_leads (queue : String) (payload : Payload) (properties : Properties) :
    Leads losing b (b.accept queue payload properties) := by
  have numbered : Leads losing b { b with lastSerial := b.lastSerial + 1 } :=
    (Leads.refl b).turn (.of_same rfl rfl rfl rfl rfl)
  have waits := numbered.turn (.of_queue _ queue
    (f := fun record => { record with
      ready := record.ready ++ [⟨b.lastSerial + 1, payload, properties, false⟩] }) fun _ => rfl)
  exact waits.trans (dispatch_leads _ queue)

theorem publish_leads (queue : String) (payload : Payload) (properties : Properties) :
    Leads losing b (b.publish queue payload properties).2 := by
  unfold publish
  split
  next => exact accept_leads b queue payload properties
  next => exact .refl b

theorem publishOn_leads (channel : Nat) (exchange queue : String) (payload : Payload)
    (properties : Properties) :
    Leads losing b (b.publishOn channel exchange queue payload properties).2 := by
  unfold publishOn
  split
  next => exact .refl b
  next =>
    split
    next => exact accept_leads b queue payload properties
    next => exact .refl b

theorem delete_leads (queue : String) : Leads losing b (b.delete queue).2 := by
  cases found : b.queues.get? queue with
  | some record => exact (Leads.refl b).step (.drop found)
  | none =>
    have same : (b.delete queue).2 = b := by
      unfold delete
      rw [found]
    rw [same]
    exact .refl b

theorem cancel_leads (channel : Nat) (consumerTag : String) :
    Leads losing b (b.cancel channel consumerTag).2 := by
  unfold cancel
  split
  next => exact .refl b
  next =>
    dsimp only
    refine Leads.turn ?_ (.of_record _ channel (.cancel consumerTag))
    split
    next found =>
      split
      next => exact (Leads.refl b).step (.leave found rfl)
      next => exact .refl b
    next => exact .refl b

theorem acknowledge_leads (channel : Nat) (settlement : Settlement) :
    Leads losing b (b.acknowledge channel settlement).2 := by
  unfold acknowledge
  split
  next => exact .refl b
  next record opened =>
    split
    next =>
      have noted : Leads losing b (b.record channel (.settle settlement)) :=
        (Leads.refl b).turn (.of_record b channel _)
      dsimp only
      split
      next transactional =>
        refine noted.turn (.of_channel fun now found => ?_)
        obtain rfl : record = now :=
          Option.some.inj ((get?_of_openChannel? opened).symm.trans found)
        exact ⟨rfl, rfl, rfl, rfl, rfl, List.Sublist.refl _,
          .inr ⟨isOpen_of_openChannel? opened, transactional⟩⟩
      next => exact (noted.trans (settle_leads _ channel settlement)).trans (dispatchAll_leads _)
    next => exact closeChannel_leads b channel none

/-- The settlements that wait on a channel are forgotten. -/
theorem clearPending_leads (channel : Nat) (action : ChannelAction) :
    Leads losing b ((b.updateChannel channel fun record => { record with pending := [] }).record
      channel action) := by
  have cleared : Leads losing b
      (b.updateChannel channel fun record => { record with pending := [] }) :=
    (Leads.refl b).turn (.of_channel fun record _ =>
      ⟨rfl, rfl, rfl, rfl, rfl, List.Sublist.refl _, .inl (List.nil_subset _)⟩)
  exact cleared.turn (.of_record _ channel action)

theorem commit_leads (channel : Nat) : Leads losing b (b.commit channel).2 := by
  unfold commit
  split
  next => exact .refl b
  next record opened =>
    split
    next =>
      have carried := List.foldlRecOn record.pending (fun b s => b.settle channel s)
        (motive := Leads losing b) (clearPending_leads b channel .commit)
        fun after led settlement _ => led.trans (settle_leads after channel settlement)
      exact carried.trans (dispatchAll_leads _)
    next => exact .refl b

theorem rollback_leads (channel : Nat) : Leads losing b (b.rollback channel).2 := by
  unfold rollback
  split
  next => exact .refl b
  next =>
    split
    next => exact clearPending_leads b channel .rollback
    next => exact .refl b

theorem dropConnections_leads : Leads Op.dropConnections.Loses b b.dropConnections :=
  List.foldlRecOn (motive := Leads Op.dropConnections.Loses b) _ _ (.refl b)
    fun after led connection _ => led.trans (closeConnection_leads after connection _ trivial)

theorem dispatch_consumers (queue : String) : (b.dispatch queue).consumers = b.consumers :=
  dispatch_induction (motive := fun after => after.consumers = b.consumers)
    (fun _ _ _ same => same) queue b rfl

end Operations

section Unfolding

variable (b : Broker)

theorem declare_unfolds (queue : String) : Unfolds b (.declare queue) := by
  by_cases present : b.queues.contains queue = true
  · refine .of_leads rfl ?_
    have same : (b.step (.declare queue)).2 = b := by
      show (b.declare queue).2 = b
      rw [declare, if_pos present]
    rw [same]
    exact .refl b
  · have fresh : b.queues.get? queue = none := Option.not_isSome_iff_eq_none.mp present
    refine .of_opening (.queue fresh) rfl ?_
    have same : (b.step (.declare queue)).2 = { b with queues := b.queues.set queue {} } := by
      show (b.declare queue).2 = _
      rw [declare, if_neg present]
    rw [same]
    exact .refl _

theorem connect_unfolds : Unfolds b .connect := by
  have result : (b.step .connect).2 = b.connect.2 := Reply.ofResult_snd _ _
  by_cases refused : b.refusesConnections = true ∨ b.rejectsCredentials = true
  · refine .of_leads rfl ((Leads.refl b).turn ?_)
    have same : b.connect.2 = { b with connectionAttempts := b.connectionAttempts + 1 } := by
      unfold connect
      dsimp only
      split
      next => rfl
      next accepted => rw [if_pos (refused.resolve_left accepted)]
    rw [result, same]
    exact .of_same rfl rfl rfl rfl rfl
  · rw [not_or] at refused
    refine .of_opening (.connection (b.connectionAttempts + 1)) rfl ?_
    rw [result]
    unfold connect
    dsimp only
    rw [if_neg refused.1, if_neg refused.2]
    exact .refl _

theorem createChannel_unfolds (connection : Nat) (transactional : Bool) :
    Unfolds b (.createChannel connection transactional) := by
  have result : (b.step (.createChannel connection transactional)).2 =
      (b.createChannel connection transactional).2 := Reply.ofResult_snd _ _
  unfold createChannel at result
  split at result
  next record found =>
    split at result
    next isOpen =>
      have opened : b.connectionOpen connection = true := by
        rw [connectionOpen, found]
        exact isOpen
      refine .of_opening (.channel (record.channels + 1) transactional opened) rfl ?_
      rw [result]
      exact .refl _
    next => exact .of_leads rfl (result ▸ .refl b)
  next => exact .of_leads rfl (result ▸ .refl b)

theorem setPrefetch_unfolds (channel prefetch : Nat) :
    Unfolds b (.setPrefetch channel prefetch) := by
  have result : (b.step (.setPrefetch channel prefetch)).2 = (b.setPrefetch channel prefetch).2 :=
    Reply.ofDone_snd _
  unfold setPrefetch at result
  split at result
  next opened =>
    refine .of_opening (.bound channel prefetch) rfl ?_
    rw [result]
    exact dispatchAll_leads _
  next =>
    refine .of_leads rfl ?_
    rw [result]
    exact .refl b

theorem consume_unfolds (channel : Nat) (queue requested : String) (autoAck : Bool)
    (subscriber : Nat) :
    Unfolds b (.consume channel queue requested autoAck subscriber) := by
  have result : (b.step (.consume channel queue requested autoAck subscriber)).2 =
      (b.consume channel queue requested autoAck subscriber).2 := Reply.ofResult_snd _ _
  rcases b.consume_cases channel queue requested autoAck subscriber with
    ⟨_, refused⟩ | ⟨_, generated, refused⟩ | ⟨tag, generated, opened, present, fresh, enrolled⟩
  · refine .of_leads rfl ?_
    rw [result, refused]
    exact .refl b
  · refine .of_leads rfl ?_
    rw [result, refused]
    refine Leads.trans ?_ (closeChannel_leads _ channel none)
    exact (Leads.refl b).turn (.of_same rfl rfl rfl rfl rfl)
  · rw [enrolled] at result
    generalize made : (⟨queue, channel, autoAck, subscriber⟩ : Subscription) = consumer at result
    have on : consumer.channel = channel := made ▸ rfl
    have of : consumer.queue = queue := made ▸ rfl
    have noted : Leads (fun _ => False) (b.enroll generated tag consumer)
        ((b.enroll generated tag consumer).record channel (.consume queue tag)) :=
      (Leads.refl _).turn (.of_record _ channel _)
    obtain ⟨log, course⟩ := noted.trans (dispatch_leads _ queue)
    refine ⟨_, log, .consumer generated (on ▸ opened) (of ▸ present) fresh, ?_, ?_⟩
    · rw [result]
      exact course
    · intro other known found
      have later : (b.step (.consume channel queue requested autoAck subscriber)).2.consumers.get?
          other = some known := by
        rw [result, dispatch_consumers]
        exact found
      have added : (b.consumers.set tag consumer).get? other = some known := found
      rw [Table.get?_set] at added
      split at added
      next same => exact .inr ⟨same ▸ fresh, later⟩
      next => exact .inl added

theorem get_unfolds (channel : Nat) (queue : String) (autoAck : Bool) :
    Unfolds b (.get channel queue autoAck) := by
  have result : b.step (.get channel queue autoAck) =
      Reply.ofResult Reply.delivery (b.get channel queue autoAck) := rfl
  have nothing : ∀ reply after, b.step (.get channel queue autoAck) = (reply, after) →
      (∀ delivery, reply ≠ .delivery (some delivery)) →
      Leads (Op.get channel queue autoAck).Loses b after →
      Unfolds b (.get channel queue autoAck) := by
    intro reply after stepped none led
    refine .of_leads ?_ (by rw [stepped]; exact led)
    unfold taken
    rw [stepped]
    split
    next delivery _ same => exact absurd same (none delivery)
    next => rfl
  rcases b.get_cases channel queue autoAck with
    ⟨_, refused⟩ | ⟨_, refused⟩ | empty |
      ⟨record, waiting, message, rest, opened, found, first, got⟩
  · rw [refused] at result
    exact nothing _ _ result (fun _ same => by cases same) (.refl b)
  · rw [refused] at result
    exact nothing _ _ result (fun _ same => by cases same) (closeChannel_leads b channel none)
  · rw [empty] at result
    exact nothing _ _ result (fun _ same => by cases same) (.refl b)
  · rw [got] at result
    have delivered : b.taken (.get channel queue autoAck) =
        [(channel, deliveryOf queue "" record message)] := by
      unfold taken
      rw [result]
      rfl
    refine .of_opening (delivered ▸ Opening.delivery autoAck opened found first) ?_ ?_
    · rfl
    · rw [result]
      exact .refl _

/-- **Every operation is an opening and a course.** -/
theorem step_unfolds (op : Op) : Unfolds b op := by
  cases op with
  | declare queue => exact declare_unfolds b queue
  | delete queue => exact .of_leads rfl (delete_leads b queue)
  | publish queue payload properties =>
    exact .of_leads rfl (Reply.ofDone_snd _ ▸ publish_leads b queue payload properties)
  | refuseConnections on =>
    exact .of_leads rfl ((Leads.refl b).turn (.of_same rfl rfl rfl rfl rfl))
  | rejectCredentials on =>
    exact .of_leads rfl ((Leads.refl b).turn (.of_same rfl rfl rfl rfl rfl))
  | dropConnections => exact .of_leads rfl (dropConnections_leads b)
  | connect => exact connect_unfolds b
  | closeConnection connection =>
    exact .of_leads rfl (closeConnection_leads b connection none rfl)
  | createChannel connection transactional =>
    exact createChannel_unfolds b connection transactional
  | setPrefetch channel prefetch => exact setPrefetch_unfolds b channel prefetch
  | consume channel queue tag autoAck subscriber =>
    exact consume_unfolds b channel queue tag autoAck subscriber
  | get channel queue autoAck => exact get_unfolds b channel queue autoAck
  | acknowledge channel settlement =>
    exact .of_leads rfl (Reply.ofDone_snd _ ▸ acknowledge_leads b channel settlement)
  | cancel channel tag => exact .of_leads rfl (Reply.ofDone_snd _ ▸ cancel_leads b channel tag)
  | publishOn channel exchange queue payload properties =>
    exact .of_leads rfl
      (Reply.ofDone_snd _ ▸ publishOn_leads b channel exchange queue payload properties)
  | commit channel => exact .of_leads rfl (Reply.ofDone_snd _ ▸ commit_leads b channel)
  | rollback channel => exact .of_leads rfl (Reply.ofDone_snd _ ▸ rollback_leads b channel)
  | confirm channel =>
    exact .of_leads rfl (Reply.ofDone_snd _ ▸ (confirm_snd b channel).symm ▸ .refl b)
  | close channel => exact .of_leads rfl (closeChannel_leads b channel none)

end Unfolding

/-! ### What a change keeps -/

/-- The deliveries among the notices, oldest first. -/
def pushes (b : Broker) : List Delivery := b.notices.toList.filterMap (·.2.delivery?)

theorem pushes_notify (b : Broker) (subscriber : Nat) (notice : Notice) :
    (b.notify subscriber notice).pushes = b.pushes ++ notice.delivery?.toList := by
  unfold pushes notify
  rw [Array.toList_push, List.filterMap_append]
  cases told : notice.delivery? <;> simp [told]

/-- Consumers are taken out of the table, and nobody is delivered anything. -/
structure Dismisses (tags : List String) (b b' : Broker) : Prop where
  queues : b'.queues = b.queues
  channels : b'.channels = b.channels
  connections : b'.connections = b.connections
  consumers : ∀ tag, b'.consumers.get? tag = if tag ∈ tags then none else b.consumers.get? tag
  distinct : b.consumers.keys.Nodup → b'.consumers.keys.Nodup
  pushes : b'.pushes = b.pushes

theorem cancelDeleted_dismisses (b : Broker) (consumerTag : String) :
    Dismisses [consumerTag] b (b.cancelDeleted consumerTag) := by
  unfold cancelDeleted
  split
  next missing =>
    refine ⟨rfl, rfl, rfl, fun tag => ?_, id, rfl⟩
    split
    next member => rw [List.mem_singleton.mp member, missing]
    next => rfl
  next =>
    refine ⟨rfl, rfl, rfl, fun tag => ?_, fun distinct => Table.keys_erase_nodup distinct _,
      (pushes_notify _ _ _).trans (List.append_nil _)⟩
    show (b.consumers.erase consumerTag).get? tag = _
    simp only [Table.get?_erase, List.mem_singleton]

theorem foldl_cancelDeleted_dismisses (tags : List String) (b : Broker) :
    Dismisses tags b (tags.foldl cancelDeleted b) := by
  induction tags generalizing b with
  | nil => exact ⟨rfl, rfl, rfl, fun _ => (if_neg List.not_mem_nil).symm, id, rfl⟩
  | cons first rest ih =>
    have one := cancelDeleted_dismisses b first
    have others := ih (b.cancelDeleted first)
    refine ⟨others.queues.trans one.queues, others.channels.trans one.channels,
      others.connections.trans one.connections, fun tag => ?_,
      fun distinct => others.distinct (one.distinct distinct), others.pushes.trans one.pushes⟩
    rw [List.foldl_cons, others.consumers, one.consumers]
    by_cases here : tag = first <;> by_cases later : tag ∈ rest <;> simp [here, later]

/-- A queue that is dropped takes its consumers along. -/
theorem delete_dismisses {b : Broker} {queue : String} {record : QueueRecord}
    (found : b.queues.get? queue = some record) :
    Dismisses record.consumers { b with queues := b.queues.erase queue } (b.delete queue).2 := by
  unfold delete
  rw [found]
  have all := foldl_cancelDeleted_dismisses record.consumers
    { b with
      queues := b.queues.erase queue
      departures := b.departures ++
        (record.ready.map fun message => (message, Departure.droppedWithQueue)).toArray }
  exact ⟨all.queues, all.channels, all.connections, all.consumers, all.distinct, all.pushes⟩

namespace Change

variable {losing : Nat → Prop} {b b' : Broker} {log : List Pushing}

/-- Nobody is registered by a change. -/
theorem consumers (change : Change losing b log b') {tag : String} {consumer : Subscription}
    (found : b'.consumers.get? tag = some consumer) : b.consumers.get? tag = some consumer := by
  cases change with
  | push push => exact found
  | turn turned => exact turned.consumers ▸ found
  | leave registered silent =>
    unfold unregister at found
    rw [registered] at found
    exact Table.get?_of_get?_erase found
  | shut channel left => exact found
  | drop present =>
    rw [(delete_dismisses present).consumers] at found
    split at found
    next => cases found
    next => exact found
  | lose lost => exact found

/-- What a change delivers is what it pushes. -/
theorem pushes (change : Change losing b log b') :
    b'.pushes = b.pushes ++ log.map (·.delivery) := by
  cases change with
  | push push =>
    unfold Broker.pushes Push.result
    rw [Array.toList_push, List.filterMap_append]
    rfl
  | turn turned =>
    unfold Broker.pushes
    rw [turned.notices, List.map_nil, List.append_nil]
  | leave registered silent =>
    have same : ∀ tag, (b.unregister tag).pushes = b.pushes := by
      intro tag
      unfold unregister
      split <;> rfl
    rw [pushes_notify, same, silent, Option.toList_none, List.map_nil]
  | shut channel left => exact (List.append_nil _).symm
  | drop present => exact (delete_dismisses present).pushes.trans (List.append_nil _).symm
  | lose lost => exact (List.append_nil _).symm

/-- Who is pushed to is registered, and has capacity. -/
theorem pushed (change : Change losing b log b') {pushing : Pushing} (member : pushing ∈ log) :
    b.consumers.get? pushing.delivery.consumerTag = some pushing.consumer ∧
      (pushing.consumer.autoAck = true ∨ pushing.channel.prefetch = 0 ∨
        pushing.channel.unacked.length < pushing.channel.prefetch) := by
  cases change with
  | push push =>
    rw [List.mem_singleton.mp member]
    exact ⟨push.registered, push.within⟩
  | turn turned => cases member
  | leave registered silent => cases member
  | shut channel left => cases member
  | drop present => cases member
  | lose lost => cases member

end Change

/-- An opening pushes nothing. -/
theorem Opening.pushes {b b₁ : Broker} {taken : List (Nat × Delivery)}
    (opening : Opening b taken b₁) : b₁.pushes = b.pushes := by
  cases opening <;> rfl

namespace Course

variable {losing : Nat → Prop} {b b' : Broker} {log : List Pushing}

theorem consumers (course : Course losing b log b') {tag : String} {consumer : Subscription}
    (found : b'.consumers.get? tag = some consumer) : b.consumers.get? tag = some consumer := by
  induction course with
  | refl => exact found
  | step _ change ih => exact ih (change.consumers found)

theorem pushes (course : Course losing b log b') :
    b'.pushes = b.pushes ++ log.map (·.delivery) := by
  induction course with
  | refl => exact (List.append_nil _).symm
  | step _ change ih => rw [change.pushes, ih, List.map_append, List.append_assoc]

/-- **Who is pushed to in a course** was registered at its start, and has capacity at the push. -/
theorem pushed (course : Course losing b log b') {pushing : Pushing} (member : pushing ∈ log) :
    b.consumers.get? pushing.delivery.consumerTag = some pushing.consumer ∧
      (pushing.consumer.autoAck = true ∨ pushing.channel.prefetch = 0 ∨
        pushing.channel.unacked.length < pushing.channel.prefetch) := by
  induction course with
  | refl => cases member
  | step course change ih =>
    rcases List.mem_append.mp member with earlier | now
    · exact ih earlier
    · obtain ⟨registered, capacity⟩ := change.pushed now
      exact ⟨course.consumers registered, capacity⟩

end Course

end Broker

end QueueListener
