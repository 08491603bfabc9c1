import QueueListener.Proofs.Broker.Accounts
/-!
# A channel among others

**What others do at the broker only adds to a channel.** New deliveries get the next tags, wait
behind those that are unsettled already, and are told to the subscriber in the same order; nothing
that is unsettled is taken away.

* `Seat` — a connection, a channel on it, and the subscriber that hears of the channel's deliveries;
* `Seat.Owns` — the channel's consumers are the subscriber's consumers, and they acknowledge;
* `Seat.Grows` — the channel has only been added to;
* `Seat.Vacant` — a channel that gets nothing because it has no consumers;
* `Seat.Spares` — the operations of others; `step_reaches` — each of them only adds to the channel.
-/

namespace QueueListener

/-- A place at the broker: a connection, a channel on it, and the number under which its deliveries
are told. -/
structure Seat where
  connection : Nat
  channel : Nat
  subscriber : Nat
  deriving DecidableEq, Repr

/-- The deliveries that wait for a subscriber. -/
def Broker.deliveriesFor (b : Broker) (subscriber : Nat) : List Delivery :=
  b.notices.toList.filterMap fun
    | (addressee, .delivered delivery) => if addressee = subscriber then some delivery else none
    | _ => none

/-- The channel after more deliveries. -/
def ChannelRecord.extend (record : ChannelRecord) (more : List Unacked) : ChannelRecord :=
  { record with lastTag := record.lastTag + more.length, unacked := record.unacked ++ more }

@[simp] theorem ChannelRecord.extend_nil (record : ChannelRecord) : record.extend [] = record := by
  simp [extend]

theorem ChannelRecord.extend_extend (record : ChannelRecord) (first second : List Unacked) :
    (record.extend first).extend second = record.extend (first ++ second) := by
  simp [extend, Nat.add_assoc]

namespace Broker

/-- A notice that is no delivery, or not for the subscriber, adds nothing to its deliveries. -/
theorem deliveriesFor_notify (b : Broker) (addressee : Nat) (notice : Notice) (subscriber : Nat) :
    (b.notify addressee notice).deliveriesFor subscriber =
      b.deliveriesFor subscriber ++ match notice with
        | .delivered delivery => if addressee = subscriber then [delivery] else []
        | _ => [] := by
  unfold deliveriesFor notify
  rw [Array.toList_push, List.filterMap_append]
  cases notice with
  | delivered delivery => by_cases same : addressee = subscriber <;> simp [same]
  | cancelled => simp
  | shutdown => simp
  | ended => simp

end Broker

namespace Seat

open Broker

/-- The consumers on the channel are those of the subscriber, and they acknowledge. -/
def Owns (seat : Seat) (b : Broker) : Prop :=
  ∀ tag consumer, b.consumers.get? tag = some consumer →
    (consumer.channel = seat.channel ↔ consumer.subscriber = seat.subscriber) ∧
      (consumer.channel = seat.channel → consumer.autoAck = false)

/-- From an open channel, the channel is reached with more deliveries, which are told in the same
order. -/
structure Reaches (seat : Seat) (b : Broker) (record : ChannelRecord) (b' : Broker)
    (more : List Unacked) : Prop where
  opened : b'.openChannel? seat.channel = some (record.extend more)
  numbered : more.map (·.tag) = List.range' (record.lastTag + 1) more.length
  told : ∃ new, b'.deliveriesFor seat.subscriber = b.deliveriesFor seat.subscriber ++ new ∧
    new.map (·.tag) = more.map (·.tag)

/-- The channel has only been added to, and no consumer is new. -/
structure Grows (seat : Seat) (b b' : Broker) : Prop where
  consumers : ∀ tag consumer,
    b'.consumers.get? tag = some consumer → b.consumers.get? tag = some consumer
  reaches : ∀ record, b.openChannel? seat.channel = some record →
    ∃ more, seat.Reaches b record b' more

variable {seat : Seat} {b b₁ b₂ b₃ : Broker}

theorem Reaches.refl {record : ChannelRecord} (opened : b.openChannel? seat.channel = some record) :
    seat.Reaches b record b [] :=
  ⟨by rw [ChannelRecord.extend_nil, opened], rfl, [], (List.append_nil _).symm, rfl⟩

/-- Deliveries come behind deliveries. Between the two, deliveries may leave the channel: the
second start is `after`, and the end is reached from `rest`. -/
theorem Reaches.trans_of {record after rest : ChannelRecord} {first second : List Unacked}
    (before : seat.Reaches b₁ record b₂ first) (behind : seat.Reaches b₂ after b₃ second)
    (lastTag : after.lastTag = record.lastTag + first.length)
    (start : rest.lastTag = record.lastTag)
    (whole : after.extend second = rest.extend (first ++ second)) :
    seat.Reaches b₁ rest b₃ (first ++ second) := by
  obtain ⟨new, told, tags⟩ := before.told
  obtain ⟨new', told', tags'⟩ := behind.told
  refine ⟨?_, ?_, new ++ new', ?_, ?_⟩
  · rw [behind.opened, whole]
  · have second : second.map (·.tag) =
        List.range' (record.lastTag + 1 + 1 * first.length) second.length := by
      rw [behind.numbered, lastTag, Nat.one_mul, Nat.add_right_comm]
    rw [List.map_append, before.numbered, second, List.range'_append, List.length_append, start]
  · rw [told', told, List.append_assoc]
  · rw [List.map_append, List.map_append, tags, tags']

theorem Reaches.trans {record : ChannelRecord} {first second : List Unacked}
    (before : seat.Reaches b₁ record b₂ first)
    (behind : seat.Reaches b₂ (record.extend first) b₃ second) :
    seat.Reaches b₁ record b₃ (first ++ second) :=
  before.trans_of behind rfl rfl (ChannelRecord.extend_extend record first second)

theorem Grows.refl (seat : Seat) (b : Broker) : seat.Grows b b :=
  ⟨fun _ _ found => found, fun _ opened => ⟨[], Reaches.refl opened⟩⟩

theorem Grows.trans (first : seat.Grows b₁ b₂) (second : seat.Grows b₂ b₃) : seat.Grows b₁ b₃ := by
  refine ⟨fun tag consumer found => first.consumers tag consumer
    (second.consumers tag consumer found), fun record opened => ?_⟩
  obtain ⟨more, before⟩ := first.reaches record opened
  obtain ⟨more', after⟩ := second.reaches _ before.opened
  exact ⟨more ++ more', before.trans after⟩

theorem Grows.owns (grown : seat.Grows b₁ b₂) (owns : seat.Owns b₁) : seat.Owns b₂ :=
  fun tag consumer found => owns tag consumer (grown.consumers tag consumer found)

/-- A change that leaves the channel and its deliveries alone. -/
theorem Grows.of_same
    (consumers : ∀ tag consumer,
      b₂.consumers.get? tag = some consumer → b₁.consumers.get? tag = some consumer)
    (channel : b₂.openChannel? seat.channel = b₁.openChannel? seat.channel)
    (notices : b₂.deliveriesFor seat.subscriber = b₁.deliveriesFor seat.subscriber) :
    seat.Grows b₁ b₂ :=
  ⟨consumers, fun record opened => ⟨[], by rw [channel, opened, ChannelRecord.extend_nil], rfl, [],
    by rw [notices, List.append_nil], rfl⟩⟩

/-! ### Dispatch and closing -/

/-- **A push adds to the channel, or leaves it alone.** -/
theorem push_grows (owns : seat.Owns b) {queue : String} (push : Push b queue) :
    seat.Grows b push.result := by
  have ⟨same, acknowledges⟩ := owns push.consumerTag push.consumer push.registered
  have told : push.result.deliveriesFor seat.subscriber = b.deliveriesFor seat.subscriber ++
      if push.consumer.subscriber = seat.subscriber then
        [deliveryOf queue push.consumerTag push.channel push.message] else [] :=
    deliveriesFor_notify b push.consumer.subscriber (.delivered _) seat.subscriber
  have get : push.result.channels.get? seat.channel =
      if seat.channel = push.consumer.channel then
        (b.channels.get? seat.channel).map
          (·.receive (push.channel.lastTag + 1) queue push.consumer.autoAck push.message)
      else b.channels.get? seat.channel := Table.get?_modify _ _ _ _
  refine ⟨fun _ _ found => found, fun record opened => ?_⟩
  have isOpen : record.isOpen = true := isOpen_of_openChannel? opened
  by_cases mine : push.consumer.channel = seat.channel
  · have found : push.channel = record := by
      have := push.opened
      rw [mine, opened] at this
      exact (Option.some.inj this).symm
    refine ⟨[⟨record.lastTag + 1, queue, push.message⟩], openChannel?_eq_some_iff.mpr ⟨?_, isOpen⟩,
      rfl, [deliveryOf queue push.consumerTag push.channel push.message], ?_, ?_⟩
    · rw [get, if_pos mine.symm, get?_of_openChannel? opened, acknowledges mine, found]
      rfl
    · rw [told, if_pos (same.mp mine)]
    · rw [found]
      rfl
  · refine ⟨[], openChannel?_eq_some_iff.mpr ⟨?_, isOpen⟩, rfl, [], ?_, rfl⟩
    · rw [get, if_neg fun equal => mine equal.symm, get?_of_openChannel? opened,
        ChannelRecord.extend_nil]
    · rw [told, if_neg fun mineToo => mine (same.mpr mineToo)]

theorem dispatch_grows (owns : seat.Owns b) (queue : String) : seat.Grows b (b.dispatch queue) :=
  dispatch_induction (motive := seat.Grows b)
    (fun _ _ push grown => grown.trans (push_grows (grown.owns owns) push)) queue b
    (Grows.refl seat b)

theorem dispatchAll_grows (owns : seat.Owns b) : seat.Grows b b.dispatchAll :=
  dispatchAll_induction (motive := seat.Grows b)
    (fun _ _ push grown => grown.trans (push_grows (grown.owns owns) push)) b (Grows.refl seat b)

/-- No consumer is on the channel, and none is the subscriber's. -/
def Vacant (seat : Seat) (b : Broker) : Prop :=
  ∀ tag consumer, b.consumers.get? tag = some consumer →
    consumer.channel ≠ seat.channel ∧ consumer.subscriber ≠ seat.subscriber

theorem Vacant.owns (vacant : seat.Vacant b) : seat.Owns b := fun tag consumer found =>
  have ⟨foreign, unknown⟩ := vacant tag consumer found
  ⟨⟨fun mine => absurd mine foreign, fun mine => absurd mine unknown⟩,
    fun mine => absurd mine foreign⟩

/-- Nothing is pushed to a channel without consumers. -/
theorem dispatchAll_of_vacant (vacant : seat.Vacant b) :
    b.dispatchAll.consumers = b.consumers ∧
      b.dispatchAll.openChannel? seat.channel = b.openChannel? seat.channel := by
  refine dispatchAll_induction (motive := fun after => after.consumers = b.consumers ∧
    after.openChannel? seat.channel = b.openChannel? seat.channel) ?_ b ⟨rfl, rfl⟩
  rintro now queue push ⟨consumers, channel⟩
  have foreign : push.consumer.channel ≠ seat.channel :=
    (vacant _ _ (consumers ▸ push.registered)).1
  refine ⟨consumers, Eq.trans ?_ channel⟩
  exact openChannel?_updateChannel_of_ne now _ foreign.symm

theorem giveBackAll_grows (entries : List Unacked) : seat.Grows b (b.giveBackAll entries) := by
  obtain ⟨queues, deadLetters, same⟩ := b.giveBackAll_eq entries
  rw [same]
  exact Grows.of_same (fun _ _ found => found) rfl rfl

theorem notify_grows (b : Broker) (addressee : Nat) {notice : Notice}
    (other : ∀ delivery, notice ≠ .delivered delivery) :
    seat.Grows b (b.notify addressee notice) := by
  refine Grows.of_same (fun _ _ found => found) rfl ?_
  rw [deliveriesFor_notify]
  cases notice with
  | delivered delivery => exact absurd rfl (other delivery)
  | cancelled => exact List.append_nil _
  | shutdown => exact List.append_nil _
  | ended => exact List.append_nil _

theorem record_grows (b : Broker) (channel : Nat) (action : ChannelAction) :
    seat.Grows b (b.record channel action) :=
  Grows.of_same (fun _ _ found => found) rfl rfl

theorem unregister_grows (b : Broker) (consumerTag : String) :
    seat.Grows b (b.unregister consumerTag) := by
  unfold unregister
  split
  next => exact Grows.refl seat b
  next => exact Grows.of_same (fun _ _ found => Table.get?_of_get?_erase found) rfl rfl

theorem endConsumer_grows (b : Broker) (cause : Option ClientError) (consumerTag : String) :
    seat.Grows b (b.endConsumer cause consumerTag) := by
  unfold endConsumer
  split
  next => exact Grows.refl seat b
  next =>
    refine (unregister_grows b consumerTag).trans (notify_grows _ _ fun delivery => ?_)
    cases cause <;> exact Notice.noConfusion

theorem closeChannel_grows (owns : seat.Owns b) {channel : Nat} (other : channel ≠ seat.channel)
    (cause : Option ClientError) : seat.Grows b (b.closeChannel channel cause) := by
  unfold closeChannel
  split
  next => exact Grows.refl seat b
  next record _ =>
    have closed : seat.Grows b (b.updateChannel channel fun record =>
        { record with isOpen := false, pending := [], unacked := [] }) :=
      Grows.of_same (fun _ _ found => found)
        (openChannel?_updateChannel_of_ne b _ fun equal => other equal.symm) rfl
    dsimp only
    generalize b.updateChannel channel _ = after at closed ⊢
    have quiet : seat.Grows b
        ((after.tagsOn channel).foldl (fun b tag => b.endConsumer cause tag) after) :=
      List.foldlRecOn (motive := seat.Grows b) _ _ closed fun now grown tag _ =>
        grown.trans (endConsumer_grows now cause tag)
    have back := quiet.trans (giveBackAll_grows record.unacked)
    have noted := back.trans (record_grows _ channel .close)
    exact noted.trans (dispatchAll_grows (noted.owns owns))

theorem closeConnection_grows (tidy : b.Tidy) (owns : seat.Owns b) {record : ChannelRecord}
    (opened : b.openChannel? seat.channel = some record)
    (seated : record.connection = seat.connection) {connection : Nat}
    (other : connection ≠ seat.connection) (cause : Option ClientError) :
    seat.Grows b (b.closeConnection connection cause) := by
  unfold closeConnection
  split
  next =>
    dsimp only
    have marked : seat.Grows b
        { b with
          connections := b.connections.modify connection fun record =>
            { record with isOpen := false } } :=
      Grows.of_same (fun _ _ found => found) rfl rfl
    refine List.foldlRecOn (motive := seat.Grows b) _ _ marked fun now grown channel member =>
      grown.trans (closeChannel_grows (grown.owns owns) ?_ cause)
    rintro rfl
    -- an open channel of the other connection is not the one of this seat
    obtain ⟨⟨number, entry⟩, listed, same⟩ := List.mem_map.mp member
    obtain ⟨stored, belongs⟩ := List.mem_filter.mp listed
    obtain rfl : number = seat.channel := same
    have found : b.channels.get? seat.channel = some entry :=
      Table.get?_of_mem_entries tidy.channels stored
    rw [get?_of_openChannel? opened, Option.some.injEq] at found
    simp only [Bool.and_eq_true, decide_eq_true_eq] at belongs
    exact other (belongs.1.symm.trans (found ▸ seated))
  next => exact Grows.refl seat b

/-! ### The operations of others -/

/-- The operations that leave a seat alone: they do not work on its channel, do not close its
connection, and do not register a consumer for its subscriber. -/
def Spares (seat : Seat) : Op → Prop
  | .dropConnections => False
  | .closeConnection connection => connection ≠ seat.connection
  | .consume channel _ _ _ subscriber => channel ≠ seat.channel ∧ subscriber ≠ seat.subscriber
  | .setPrefetch channel _ => channel ≠ seat.channel
  | .get channel _ _ => channel ≠ seat.channel
  | .acknowledge channel _ => channel ≠ seat.channel
  | .cancel channel _ => channel ≠ seat.channel
  | .commit channel => channel ≠ seat.channel
  | .rollback channel => channel ≠ seat.channel
  | .close channel => channel ≠ seat.channel
  | _ => True

/-- A change of another channel leaves this one alone. -/
theorem updateChannel_grows (b : Broker) {channel : Nat} (other : channel ≠ seat.channel)
    (f : ChannelRecord → ChannelRecord) : seat.Grows b (b.updateChannel channel f) :=
  Grows.of_same (fun _ _ found => found)
    (openChannel?_updateChannel_of_ne b f fun equal => other equal.symm) rfl

theorem accept_grows (owns : seat.Owns b) (queue : String) (payload : Payload)
    (properties : Properties) : seat.Grows b (b.accept queue payload properties) := by
  unfold accept
  dsimp only
  have waits : seat.Grows b
      (({ b with lastSerial := b.lastSerial + 1 } : Broker).updateQueue queue fun record =>
        { record with
          ready := record.ready ++ [⟨b.lastSerial + 1, payload, properties, false⟩] }) :=
    Grows.of_same (fun _ _ found => found) rfl rfl
  exact waits.trans (dispatch_grows (waits.owns owns) queue)

theorem declare_grows (b : Broker) (queue : String) : seat.Grows b (b.declare queue).2 := by
  unfold declare
  split
  next => exact Grows.refl seat b
  next => exact Grows.of_same (fun _ _ found => found) rfl rfl

theorem connect_grows (b : Broker) : seat.Grows b b.connect.2 := by
  unfold connect
  dsimp only
  split
  next => exact Grows.of_same (fun _ _ found => found) rfl rfl
  next =>
    split
    next => exact Grows.of_same (fun _ _ found => found) rfl rfl
    next => exact Grows.of_same (fun _ _ found => found) rfl rfl

theorem delete_grows (b : Broker) (queue : String) : seat.Grows b (b.delete queue).2 := by
  unfold delete
  split
  next => exact Grows.refl seat b
  next record _ =>
    dsimp only
    have emptied : ∀ departures, seat.Grows b
        { b with queues := b.queues.erase queue, departures := departures } :=
      fun _ => Grows.of_same (fun _ _ found => found) rfl rfl
    refine List.foldlRecOn (motive := seat.Grows b) _ _ (emptied _) fun now grown tag _ =>
      grown.trans ?_
    unfold cancelDeleted
    split
    next => exact Grows.refl seat now
    next =>
      have erased : seat.Grows now { now with consumers := now.consumers.erase tag } :=
        Grows.of_same (fun _ _ found => Table.get?_of_get?_erase found) rfl rfl
      exact erased.trans (notify_grows _ _ fun _ => Notice.noConfusion)

theorem settle_grows (b : Broker) {channel : Nat} (other : channel ≠ seat.channel)
    (settlement : Settlement) : seat.Grows b (b.settle channel settlement) := by
  cases found : b.channels.get? channel with
  | none =>
    have same : b.settle channel settlement = b := by
      unfold settle
      rw [found]
    rw [same]
    exact Grows.refl seat b
  | some record =>
    obtain ⟨_, _, _, same⟩ := settle_eq found settlement
    rw [same]
    exact (updateChannel_grows b other (·.without settlement)).trans
      (Grows.of_same (fun _ _ found => found) rfl rfl)

theorem acknowledge_grows (owns : seat.Owns b) {channel : Nat} (other : channel ≠ seat.channel)
    (settlement : Settlement) : seat.Grows b (b.acknowledge channel settlement).2 := by
  unfold acknowledge
  split
  next => exact Grows.refl seat b
  next =>
    split
    next =>
      have noted : seat.Grows b (b.record channel (.settle settlement)) := record_grows b _ _
      dsimp only
      split
      next => exact noted.trans (updateChannel_grows _ other _)
      next =>
        have settled := noted.trans (settle_grows _ other settlement)
        exact settled.trans (dispatchAll_grows (settled.owns owns))
    next => exact closeChannel_grows owns other none

theorem commit_grows (owns : seat.Owns b) {channel : Nat} (other : channel ≠ seat.channel) :
    seat.Grows b (b.commit channel).2 := by
  unfold commit
  split
  next => exact Grows.refl seat b
  next record _ =>
    split
    next =>
      dsimp only
      have cleared : seat.Grows b
          ((b.updateChannel channel fun record => { record with pending := [] }).record channel
            .commit) :=
        (updateChannel_grows b other _).trans (record_grows _ channel .commit)
      have settled := List.foldlRecOn (motive := seat.Grows b) record.pending _ cleared
        fun now grown settlement _ => grown.trans (settle_grows now other settlement)
      exact settled.trans (dispatchAll_grows (settled.owns owns))
    next => exact Grows.refl seat b

theorem rollback_grows (b : Broker) {channel : Nat} (other : channel ≠ seat.channel) :
    seat.Grows b (b.rollback channel).2 := by
  unfold rollback
  split
  next => exact Grows.refl seat b
  next =>
    split
    next => exact (updateChannel_grows b other _).trans (record_grows _ channel .rollback)
    next => exact Grows.refl seat b

theorem setPrefetch_grows (owns : seat.Owns b) {channel : Nat} (other : channel ≠ seat.channel)
    (prefetch : Nat) : seat.Grows b (b.setPrefetch channel prefetch).2 := by
  unfold setPrefetch
  split
  next =>
    have bounded : seat.Grows b (b.updateChannel channel fun record => { record with prefetch }) :=
      updateChannel_grows b other _
    exact bounded.trans (dispatchAll_grows (bounded.owns owns))
  next => exact Grows.refl seat b

/-- A cancellation stops pushes; what is unsettled stays. This holds on the seat's own channel
too. -/
theorem cancel_grows (b : Broker) (channel : Nat) (consumerTag : String) :
    seat.Grows b (b.cancel channel consumerTag).2 := by
  unfold cancel
  split
  next => exact Grows.refl seat b
  next =>
    dsimp only
    refine Grows.trans ?_ (record_grows _ channel (.cancel consumerTag))
    split
    next =>
      split
      next =>
        exact (unregister_grows b consumerTag).trans (notify_grows _ _ fun _ => Notice.noConfusion)
      next => exact Grows.refl seat b
    next => exact Grows.refl seat b

theorem get_grows (owns : seat.Owns b) {channel : Nat} (other : channel ≠ seat.channel)
    (queue : String) (autoAck : Bool) : seat.Grows b (b.get channel queue autoAck).2 := by
  rcases b.get_cases channel queue autoAck with
    ⟨_, refused⟩ | ⟨_, refused⟩ | nothing | ⟨record, _, message, rest, -, -, -, got⟩
  · rw [refused]
    exact Grows.refl seat b
  · rw [refused]
    exact closeChannel_grows owns other none
  · rw [nothing]
    exact Grows.refl seat b
  · rw [got]
    exact (updateChannel_grows b other
      (·.receive (record.lastTag + 1) queue autoAck message)).trans
        (Grows.of_same (fun _ _ found => found) rfl rfl)

/-- A consumer of others is not on the channel. -/
theorem consume_reaches (owns : seat.Owns b) {record : ChannelRecord}
    (opened : b.openChannel? seat.channel = some record) {channel subscriber : Nat}
    (other : channel ≠ seat.channel) (foreign : subscriber ≠ seat.subscriber)
    (queue requested : String) (autoAck : Bool) :
    ∃ more, seat.Reaches b record (b.consume channel queue requested autoAck subscriber).2 more := by
  rcases b.consume_cases channel queue requested autoAck subscriber with
    ⟨_, refused⟩ | ⟨_, generated, refused⟩ | ⟨tag, generated, -, -, -, enrolled⟩
  · rw [refused]
    exact ⟨[], Reaches.refl opened⟩
  · have counted : seat.Grows b { b with generatedTags := generated } :=
      Grows.of_same (fun _ _ found => found) rfl rfl
    rw [refused]
    exact (counted.trans (closeChannel_grows (counted.owns owns) other none)).reaches record opened
  · have owns' : seat.Owns ((b.enroll generated tag ⟨queue, channel, autoAck, subscriber⟩).record
        channel (.consume queue tag)) := by
      intro another consumer registered
      have registered' : (b.consumers.set tag ⟨queue, channel, autoAck, subscriber⟩).get? another =
        some consumer := registered
      rw [Table.get?_set] at registered'
      split at registered'
      next =>
        obtain rfl := Option.some.inj registered'
        exact ⟨⟨fun mine => absurd mine other, fun mine => absurd mine foreign⟩,
          fun mine => absurd mine other⟩
      next => exact owns another consumer registered'
    have same : ((b.enroll generated tag ⟨queue, channel, autoAck, subscriber⟩).record channel
        (.consume queue tag)).openChannel? seat.channel = some record := opened
    obtain ⟨more, grown⟩ := (dispatch_grows owns' queue).reaches record same
    rw [enrolled]
    exact ⟨more, grown.opened, grown.numbered, grown.told⟩

/-- A new channel has a new number. -/
theorem createChannel_grows (tidy : b.Tidy) {record : ChannelRecord}
    (opened : b.openChannel? seat.channel = some record) (connection : Nat) (transactional : Bool) :
    seat.Grows b (b.createChannel connection transactional).2 := by
  have old : seat.channel ≠ b.lastId + 1 := fun same =>
    absurd (same ▸ tidy.numbered _ (Table.mem_keys_of_get? (get?_of_openChannel? opened)))
      (Nat.not_succ_le_self _)
  unfold createChannel
  split
  next =>
    split
    next =>
      refine Grows.of_same (fun _ _ found => found) ?_ rfl
      unfold openChannel?
      dsimp only
      rw [Table.get?_set, if_neg old]
    next => exact Grows.refl seat b
  next => exact Grows.refl seat b

/-- **What others do only adds to the channel.** -/
theorem step_reaches (tidy : b.Tidy) (owns : seat.Owns b) {record : ChannelRecord}
    (opened : b.openChannel? seat.channel = some record)
    (seated : record.connection = seat.connection) {op : Op} (spares : seat.Spares op) :
    ∃ more, seat.Reaches b record (b.step op).2 more := by
  have quiet : ∀ after, seat.Grows b after → ∃ more, seat.Reaches b record after more :=
    fun _ grown => grown.reaches record opened
  cases op with
  | declare queue => exact quiet _ (declare_grows b queue)
  | delete queue => exact quiet _ (delete_grows b queue)
  | publish queue payload properties =>
    show ∃ more, seat.Reaches b record (Reply.ofDone _).2 more
    rw [Reply.ofDone_snd]
    unfold publish
    split
    next => exact quiet _ (accept_grows owns queue payload properties)
    next => exact quiet _ (Grows.refl seat b)
  | refuseConnections on => exact quiet _ (Grows.of_same (fun _ _ found => found) rfl rfl)
  | rejectCredentials on => exact quiet _ (Grows.of_same (fun _ _ found => found) rfl rfl)
  | dropConnections => exact absurd spares id
  | connect => exact Reply.ofResult_snd _ _ ▸ quiet _ (connect_grows b)
  | closeConnection connection =>
    exact quiet _ (closeConnection_grows tidy owns opened seated spares none)
  | createChannel connection transactional =>
    exact Reply.ofResult_snd _ _ ▸ quiet _ (createChannel_grows tidy opened connection transactional)
  | setPrefetch channel prefetch =>
    exact Reply.ofDone_snd _ ▸ quiet _ (setPrefetch_grows owns spares prefetch)
  | consume channel queue tag autoAck subscriber =>
    exact Reply.ofResult_snd _ _ ▸ consume_reaches owns opened spares.1 spares.2 queue tag autoAck
  | get channel queue autoAck =>
    exact Reply.ofResult_snd _ _ ▸ quiet _ (get_grows owns spares queue autoAck)
  | acknowledge channel settlement =>
    exact Reply.ofDone_snd _ ▸ quiet _ (acknowledge_grows owns spares settlement)
  | cancel channel tag => exact Reply.ofDone_snd _ ▸ quiet _ (cancel_grows b channel tag)
  | publishOn channel exchange queue payload properties =>
    show ∃ more, seat.Reaches b record (Reply.ofDone _).2 more
    rw [Reply.ofDone_snd]
    unfold publishOn
    split
    next => exact quiet _ (Grows.refl seat b)
    next =>
      split
      next => exact quiet _ (accept_grows owns queue payload properties)
      next => exact quiet _ (Grows.refl seat b)
  | commit channel => exact Reply.ofDone_snd _ ▸ quiet _ (commit_grows owns spares)
  | rollback channel => exact Reply.ofDone_snd _ ▸ quiet _ (rollback_grows b spares)
  | confirm channel =>
    show ∃ more, seat.Reaches b record (Reply.ofDone _).2 more
    rw [Reply.ofDone_snd, confirm_snd]
    exact quiet _ (Grows.refl seat b)
  | close channel => exact quiet _ (closeChannel_grows owns spares none)

end Seat

end QueueListener
