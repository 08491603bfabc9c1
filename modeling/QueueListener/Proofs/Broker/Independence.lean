import QueueListener.Proofs.Broker.Rotation
/-!
# The order of the queues

**The order in which queues are dispatched does not matter** where no channel carries consumers of
two queues: a push of one queue neither sees nor changes what a push of another queue looks at.

* `Choice`, `pushNext?_eq` — a push as a choice, which only looks at the queue and at the channels
  of its consumers, and as carrying it out;
* `SameFor`, `choice?_congr` — brokers that look the same to a queue have the same choice;
* `Apart` — consumers of different queues are on different channels;
* `Shuffled` — brokers that differ in nothing but the order of what was told to different consumers;
* `carryOut_comm`, `dispatch_comm` — the step: the pushes, and so the dispatches, of two queues
  change places;
* `foldl_dispatch_perm` — so any two orders agree;
* `dispatch_order_does_not_matter` — the statement for every broker that a run comes by.
-/

namespace QueueListener.Broker

/-! ### Choosing and carrying out -/

/-- What a push chooses: a message with what waits behind it, and a consumer with its channel. -/
structure Choice where
  message : Message
  rest : List Message
  place : Nat
  consumerTag : String
  consumer : Subscription
  channel : ChannelRecord

/-- The choice of the next push of a queue, if one is possible. -/
def choice? (b : Broker) (queue : String) : Option Choice :=
  match b.queues.get? queue with
  | none => none
  | some record =>
    match record.ready with
    | [] => none
    | message :: rest =>
      match b.nextConsumer? record with
      | none => none
      | some (place, consumerTag, consumer) =>
        (b.openChannel? consumer.channel).map fun channel =>
          ⟨message, rest, place, consumerTag, consumer, channel⟩

/-- What the subscriber is told of a push. -/
def Choice.notice (queue : String) (choice : Choice) : Nat × Notice :=
  (choice.consumer.subscriber,
    .delivered (deliveryOf queue choice.consumerTag choice.channel choice.message))

/-- What leaves with a push. -/
def Choice.departures (choice : Choice) : Array (Message × Departure) :=
  if choice.consumer.autoAck then #[(choice.message, .handedOut)] else #[]

/-- Carries out a push. -/
def carryOut (b : Broker) (queue : String) (choice : Choice) : Broker :=
  { b with
    queues := b.queues.modify queue fun record =>
      { record with
        ready := choice.rest
        cursor := (choice.place + 1) % record.consumers.length }
    channels := b.channels.modify choice.consumer.channel
      (·.receive (choice.channel.lastTag + 1) queue choice.consumer.autoAck choice.message)
    departures := b.departures ++ choice.departures
    notices := b.notices.push (choice.notice queue) }

/-- **A push** is a choice that is carried out. -/
theorem pushNext?_eq (b : Broker) (queue : String) :
    b.pushNext? queue = (b.choice? queue).map (b.carryOut queue) := by
  unfold pushNext? choice?
  cases b.queues.get? queue with
  | none => rfl
  | some record =>
    dsimp only
    cases record.ready with
    | nil => rfl
    | cons message rest =>
      dsimp only
      cases next : b.nextConsumer? record with
      | none => rfl
      | some chosen =>
        obtain ⟨place, consumerTag, consumer⟩ := chosen
        obtain ⟨channel, opened, -⟩ := hasCapacity_iff.mp (nextConsumer?_eq_some next).2.2
        have reached : (b.updateQueue queue fun record =>
            { record with
              ready := rest
              cursor := (place + 1) % record.consumers.length }).channels.get? consumer.channel =
            some channel := get?_of_openChannel? opened
        dsimp only
        rw [handOver_eq reached, opened, Option.map_some, Option.map_some]
        unfold carryOut Choice.departures
        cases consumer.autoAck <;> simp [notify, updateQueue, Choice.notice]

theorem pushUpTo_succ (count : Nat) (queue : String) (b : Broker) :
    pushUpTo (count + 1) queue b =
      match b.choice? queue with
      | some choice => pushUpTo count queue (b.carryOut queue choice)
      | none => b := by
  rw [pushUpTo, pushNext?_eq]
  cases b.choice? queue <;> rfl

/-! ### What a queue looks at -/

/-- The consumer is in the list of the queue, and registered under the tag. -/
def Lists (b : Broker) (queue tag : String) (consumer : Subscription) : Prop :=
  ∃ record, b.queues.get? queue = some record ∧ tag ∈ record.consumers ∧
    b.consumers.get? tag = some consumer

/-- Two brokers look the same to a queue: its record, the consumers, and the channels of those in
its list. -/
structure SameFor (queue : String) (b b' : Broker) : Prop where
  record : b'.queues.get? queue = b.queues.get? queue
  consumers : b'.consumers = b.consumers
  channels : ∀ tag consumer, b.Lists queue tag consumer →
    b'.channels.get? consumer.channel = b.channels.get? consumer.channel

/-- The consumers of different queues are on different channels, and have different tags. -/
def Apart (b : Broker) : Prop :=
  ∀ queue other tag tag' consumer consumer', queue ≠ other → b.Lists queue tag consumer →
    b.Lists other tag' consumer' → consumer.channel ≠ consumer'.channel ∧ tag ≠ tag'

/-- What is chosen stands in the list, on an open channel. -/
theorem choice?_lists {b : Broker} {queue : String} {choice : Choice}
    (chosen : b.choice? queue = some choice) :
    b.Lists queue choice.consumerTag choice.consumer := by
  unfold choice? at chosen
  split at chosen
  next => cases chosen
  next record found =>
    split at chosen
    next => cases chosen
    next =>
      split at chosen
      next => cases chosen
      next place consumerTag consumer next =>
        obtain ⟨listed, registered, -⟩ := nextConsumer?_eq_some next
        obtain ⟨channel, -, rfl⟩ := Option.map_eq_some_iff.mp chosen
        exact ⟨record, found, List.mem_of_getElem? listed, registered⟩

theorem SameFor.refl (queue : String) (b : Broker) : SameFor queue b b :=
  ⟨rfl, rfl, fun _ _ _ => rfl⟩

/-- A search looks at the consumers and at the channels of those in the list. -/
theorem nextConsumer?_congr {b b' : Broker} {queue : String} (same : SameFor queue b b')
    {record : QueueRecord} (found : b.queues.get? queue = some record) :
    b'.nextConsumer? record = b.nextConsumer? record := by
  have each : b'.available? record = b.available? record := by
    funext place
    unfold available?
    rw [same.consumers]
    cases listed : record.consumers[place]? with
    | none => rfl
    | some tag =>
      dsimp only
      cases held : b.consumers.get? tag with
      | none => rfl
      | some consumer =>
        have channels := same.channels tag consumer
          ⟨record, found, List.mem_of_getElem? listed, held⟩
        have capacity : b'.hasCapacity consumer = b.hasCapacity consumer := by
          unfold hasCapacity openChannel?
          rw [channels]
        dsimp only
        rw [capacity]
  unfold nextConsumer?
  rw [each]

/-- **Brokers that look the same to a queue** have the same choice. -/
theorem choice?_congr {b b' : Broker} {queue : String} (same : SameFor queue b b') :
    b'.choice? queue = b.choice? queue := by
  unfold choice?
  rw [same.record]
  cases found : b.queues.get? queue with
  | none => rfl
  | some record =>
    dsimp only
    rw [nextConsumer?_congr same found]
    cases record.ready with
    | nil => rfl
    | cons message rest =>
      dsimp only
      cases next : b.nextConsumer? record with
      | none => rfl
      | some chosen =>
        obtain ⟨place, consumerTag, consumer⟩ := chosen
        obtain ⟨listed, registered, -⟩ := nextConsumer?_eq_some next
        have channels := same.channels consumerTag consumer
          ⟨record, found, List.mem_of_getElem? listed, registered⟩
        dsimp only
        unfold openChannel?
        rw [channels]

/-- A push changes no list. -/
theorem lists_carryOut {b : Broker} {queue other tag : String} {choice : Choice}
    {consumer : Subscription} :
    (b.carryOut queue choice).Lists other tag consumer ↔ b.Lists other tag consumer := by
  have looked : (b.carryOut queue choice).queues.get? other = _ :=
    Table.get?_modify b.queues queue other _
  unfold Lists
  rw [looked]
  split
  next =>
    constructor
    · rintro ⟨_, found, member, held⟩
      obtain ⟨record, before, rfl⟩ := Option.map_eq_some_iff.mp found
      exact ⟨record, before, member, held⟩
    · rintro ⟨record, found, member, held⟩
      rw [found]
      exact ⟨_, rfl, member, held⟩
  next => exact Iff.rfl

theorem Apart.carryOut {b : Broker} (apart : b.Apart) (queue : String) (choice : Choice) :
    (b.carryOut queue choice).Apart :=
  fun one other _ _ _ _ differ first second =>
    apart one other _ _ _ _ differ (lists_carryOut.mp first) (lists_carryOut.mp second)

/-- **A push of one queue** looks like nothing to another. -/
theorem sameFor_carryOut {b : Broker} (apart : b.Apart) {queue other : String}
    (differ : queue ≠ other) {choice : Choice} (chosen : b.choice? queue = some choice) :
    SameFor other b (b.carryOut queue choice) where
  record := Table.get?_modify_of_ne b.queues _ differ.symm
  consumers := rfl
  channels := fun tag consumer listed => by
    have elsewhere := (apart queue other _ _ _ _ differ (choice?_lists chosen) listed).1
    exact Table.get?_modify_of_ne b.channels _ elsewhere.symm

/-- The pushes of one queue look like nothing to another. -/
theorem sameFor_pushUpTo {b : Broker} (apart : b.Apart) {queue other : String}
    (differ : queue ≠ other) (count : Nat) :
    SameFor other b (pushUpTo count queue b) ∧ (pushUpTo count queue b).Apart := by
  induction count generalizing b with
  | zero => exact ⟨.refl other b, apart⟩
  | succ count ih =>
    rw [pushUpTo_succ]
    cases chosen : b.choice? queue with
    | none => exact ⟨.refl other b, apart⟩
    | some choice =>
      have one := sameFor_carryOut apart differ chosen
      obtain ⟨others, after⟩ := ih (apart.carryOut queue choice)
      refine ⟨⟨others.record.trans one.record, others.consumers.trans one.consumers,
        fun tag consumer listed => ?_⟩, after⟩
      exact (others.channels tag consumer (lists_carryOut.mpr listed)).trans
        (one.channels tag consumer listed)

/-! ### Brokers up to the order of the notices -/

/-- What was delivered to a consumer, oldest first, each delivery with its subscriber. -/
def heard (b : Broker) (consumerTag : String) : List (Nat × Notice) :=
  b.notices.toList.filter fun notice => notice.2.delivery?.any (·.consumerTag = consumerTag)

/-- Two brokers agree in everything but the order of the notices and of the departures: the queues
with what waits and their cursors, the channels with what is unsettled and their last tags, and all
other records are the same; each consumer was delivered the same in the same order; what was told
and what departed is the same in some order. -/
structure Shuffled (b b' : Broker) : Prop where
  same : b' = { b with notices := b'.notices, departures := b'.departures }
  heard : ∀ tag, b'.heard tag = b.heard tag
  notices : b'.notices.toList.Perm b.notices.toList
  departures : b'.departures.toList.Perm b.departures.toList

namespace Shuffled

variable {b b₁ b₂ b' : Broker}

theorem refl (b : Broker) : Shuffled b b := ⟨rfl, fun _ => rfl, .refl _, .refl _⟩

theorem trans (first : Shuffled b b₁) (second : Shuffled b₁ b₂) : Shuffled b b₂ := by
  refine ⟨?_, fun tag => (second.heard tag).trans (first.heard tag),
    second.notices.trans first.notices, second.departures.trans first.departures⟩
  have same := second.same
  rw [first.same] at same
  exact same

/-- Brokers that agree look the same to every queue. -/
theorem sameFor (shuffled : Shuffled b b') (queue : String) : SameFor queue b b' := by
  have queues : b'.queues = b.queues := by rw [shuffled.same]
  have consumers : b'.consumers = b.consumers := by rw [shuffled.same]
  have channels : b'.channels = b.channels := by rw [shuffled.same]
  exact ⟨by rw [queues], consumers, fun _ _ _ => by rw [channels]⟩

/-- The same push keeps brokers in agreement. -/
theorem carryOut (shuffled : Shuffled b b') (queue : String) (choice : Choice) :
    Shuffled (b.carryOut queue choice) (b'.carryOut queue choice) := by
  have told : ∀ b : Broker, (b.carryOut queue choice).notices.toList =
      b.notices.toList ++ [choice.notice queue] := fun b => Array.toList_push
  have left : ∀ b : Broker, (b.carryOut queue choice).departures.toList =
      b.departures.toList ++ choice.departures.toList := fun b => Array.toList_append
  refine ⟨?_, fun tag => ?_, ?_, ?_⟩
  · have same := shuffled.same
    generalize b'.notices = notices at same
    generalize b'.departures = departures at same
    subst same
    rfl
  · have heard := shuffled.heard tag
    unfold Broker.heard at heard ⊢
    rw [told, told, List.filter_append, List.filter_append, heard]
  · rw [told, told]
    exact shuffled.notices.append_right _
  · rw [left, left]
    exact shuffled.departures.append_right _

theorem pushUpTo (shuffled : Shuffled b b') (count : Nat) (queue : String) :
    Shuffled (pushUpTo count queue b) (pushUpTo count queue b') := by
  induction count generalizing b b' with
  | zero => exact shuffled
  | succ count ih =>
    rw [pushUpTo_succ, pushUpTo_succ, choice?_congr (shuffled.sameFor queue)]
    cases b.choice? queue with
    | none => exact shuffled
    | some choice => exact ih (shuffled.carryOut queue choice)

theorem dispatch (shuffled : Shuffled b b') (queue : String) :
    Shuffled (b.dispatch queue) (b'.dispatch queue) := by
  have count : b'.readyCount queue = b.readyCount queue := by
    rw [readyCount, readyCount, (shuffled.sameFor queue).record]
  unfold Broker.dispatch
  rw [count]
  exact shuffled.pushUpTo _ queue

theorem foldl_dispatch (shuffled : Shuffled b b') (queues : List String) :
    Shuffled (queues.foldl Broker.dispatch b) (queues.foldl Broker.dispatch b') := by
  induction queues generalizing b b' with
  | nil => exact shuffled
  | cons queue rest ih => exact ih (shuffled.dispatch queue)

end Shuffled

/-! ### Changing places -/

section Places

variable {b : Broker} {queue other : String}

/-- **Two pushes of different queues** change places. -/
theorem carryOut_comm (apart : b.Apart) (differ : queue ≠ other) {first second : Choice}
    (chosen : b.choice? queue = some first) (chosen' : b.choice? other = some second) :
    Shuffled ((b.carryOut queue first).carryOut other second)
      ((b.carryOut other second).carryOut queue first) := by
  obtain ⟨channels, tags⟩ := apart queue other _ _ _ _ differ (choice?_lists chosen)
    (choice?_lists chosen')
  have told : ∀ (b : Broker) queue choice, (b.carryOut queue choice).notices.toList =
      b.notices.toList ++ [choice.notice queue] := fun b _ _ => Array.toList_push
  have left : ∀ (b : Broker) queue choice, (b.carryOut queue choice).departures.toList =
      b.departures.toList ++ choice.departures.toList := fun b _ _ => Array.toList_append
  refine ⟨?_, fun tag => ?_, ?_, ?_⟩
  · unfold carryOut
    dsimp only
    rw [Table.modify_comm b.queues differ, Table.modify_comm b.channels channels]
  · unfold heard
    rw [told, told, told, told, List.append_assoc, List.append_assoc, List.filter_append,
      List.filter_append]
    -- The tags differ, so at most one of the two notices is for this consumer.
    by_cases one : first.consumerTag = tag
    · have none : second.consumerTag ≠ tag := fun same => tags (one.trans same.symm)
      simp [Choice.notice, Notice.delivery?, deliveryOf, one, none]
    · simp [Choice.notice, Notice.delivery?, deliveryOf, one]
  · rw [told, told, told, told, List.append_assoc, List.append_assoc]
    exact (List.Perm.swap _ _ _).append_left _
  · rw [left, left, left, left, List.append_assoc, List.append_assoc]
    exact List.perm_append_comm.append_left _

/-- A push changes places with the pushes of another queue. -/
theorem pushUpTo_carryOut (apart : b.Apart) (differ : queue ≠ other) {choice : Choice}
    (chosen : b.choice? other = some choice) (count : Nat) :
    Shuffled ((pushUpTo count queue b).carryOut other choice)
      (pushUpTo count queue (b.carryOut other choice)) := by
  induction count generalizing b with
  | zero => exact .refl _
  | succ count ih =>
    rw [pushUpTo_succ, pushUpTo_succ, choice?_congr (sameFor_carryOut apart differ.symm chosen)]
    cases first : b.choice? queue with
    | none => exact .refl _
    | some own =>
      have still : (b.carryOut queue own).choice? other = some choice :=
        (choice?_congr (sameFor_carryOut apart differ first)).trans chosen
      have later := ih (apart.carryOut queue own) still
      exact later.trans ((carryOut_comm apart differ first chosen).pushUpTo count queue)

/-- The pushes of two queues change places. -/
theorem pushUpTo_comm (apart : b.Apart) (differ : queue ≠ other) (count count' : Nat) :
    Shuffled (pushUpTo count' other (pushUpTo count queue b))
      (pushUpTo count queue (pushUpTo count' other b)) := by
  induction count' generalizing b with
  | zero => exact .refl _
  | succ count' ih =>
    rw [pushUpTo_succ, pushUpTo_succ, choice?_congr (sameFor_pushUpTo apart differ count).1]
    cases chosen : b.choice? other with
    | none => exact .refl _
    | some choice =>
      have first := (pushUpTo_carryOut apart differ chosen count).pushUpTo count' other
      exact first.trans (ih (apart.carryOut other choice))

/-- **The dispatches of two queues** change places. -/
theorem dispatch_comm (apart : b.Apart) (differ : queue ≠ other) :
    Shuffled ((b.dispatch queue).dispatch other) ((b.dispatch other).dispatch queue) := by
  have counts : ∀ {one another : String}, one ≠ another →
      (b.dispatch one).readyCount another = b.readyCount another := by
    intro one another different
    rw [readyCount, readyCount, dispatch, (sameFor_pushUpTo apart different _).1.record]
  have first : (b.dispatch queue).dispatch other =
      pushUpTo (b.readyCount other) other (pushUpTo (b.readyCount queue) queue b) := by
    rw [dispatch, counts differ]
    rfl
  have second : (b.dispatch other).dispatch queue =
      pushUpTo (b.readyCount queue) queue (pushUpTo (b.readyCount other) other b) := by
    rw [dispatch, counts differ.symm]
    rfl
  rw [first, second]
  exact pushUpTo_comm apart differ _ _

theorem Apart.dispatch (apart : b.Apart) (queue : String) : (b.dispatch queue).Apart := by
  unfold Broker.dispatch
  generalize b.readyCount queue = count
  induction count generalizing b with
  | zero => exact apart
  | succ count ih =>
    rw [pushUpTo_succ]
    cases b.choice? queue with
    | none => exact apart
    | some choice => exact ih (apart.carryOut queue choice)

/-- **Any two orders agree.** -/
theorem foldl_dispatch_perm (apart : b.Apart) {order order' : List String}
    (perm : order.Perm order') : Shuffled (order.foldl dispatch b) (order'.foldl dispatch b) := by
  induction perm generalizing b with
  | nil => exact .refl b
  | cons queue _ ih => exact ih (apart.dispatch queue)
  | swap queue other rest =>
    by_cases same : other = queue
    · rw [same]
      exact .refl _
    · exact (dispatch_comm apart same).foldl_dispatch rest
  | trans _ _ ih₁ ih₂ => exact (ih₁ apart).trans (ih₂ apart)

end Places

/-! ### Every broker that a run comes by -/

/-- The broker occurs in a run: after an operation, or during one, where the dispatch of a queue
starts. -/
def Occurs (b : Broker) : Prop :=
  ∃ ops, b = run {} ops ∨ ∃ round ∈ allRounds {} ops, round.broker = b

/-- The table of consumers and the lists belong to each other wherever a dispatch starts. -/
theorem allRounds_registered {b : Broker} (coherent : b.Coherent) (ops : List Op) :
    ∀ round ∈ b.allRounds ops, round.broker.Registered := by
  induction ops generalizing b with
  | nil => exact fun _ member => nomatch member
  | cons op rest ih =>
    exact List.forall_mem_append.mpr ⟨(step_proceeds b op).registered coherent.registered,
      ih (step_coherent coherent op)⟩

theorem Occurs.registered {b : Broker} (occurs : b.Occurs) : b.Registered := by
  obtain ⟨ops, rfl | ⟨round, member, rfl⟩⟩ := occurs
  · exact (run_coherent ops).1.registered
  · exact allRounds_registered coherent_empty ops round member

/-- The consumers of a channel are all of one queue, if no channel carries those of two. -/
theorem Registered.apart {b : Broker} (registered : b.Registered)
    (separate : ∀ tag tag' consumer consumer', b.consumers.get? tag = some consumer →
      b.consumers.get? tag' = some consumer' → consumer.channel = consumer'.channel →
      consumer.queue = consumer'.queue) : b.Apart := by
  rintro queue other tag tag' consumer consumer' differ ⟨record, found, member, held⟩
    ⟨record', found', member', held'⟩
  have of := registered.queue_eq held found member
  have of' := registered.queue_eq held' found' member'
  refine ⟨fun same => differ ?_, fun same => differ ?_⟩
  · rw [← of, ← of']
    exact separate tag tag' consumer consumer' held held' same
  · subst same
    rw [← of, ← of', Option.some.inj (held.symm.trans held')]

/-- **The order in which queues are dispatched does not matter.** At every broker that occurs in a
run, after an operation or during one, if no channel carries consumers of two queues then any two
orders of dispatch leave the same queues, channels and other records, and deliver the same to each
consumer in the same order; so does the dispatch of all queues, in whatever order it takes them. -/
theorem dispatch_order_does_not_matter {b : Broker} (occurs : b.Occurs)
    (separate : ∀ tag tag' consumer consumer', b.consumers.get? tag = some consumer →
      b.consumers.get? tag' = some consumer' → consumer.channel = consumer'.channel →
      consumer.queue = consumer'.queue) :
    (∀ order order' : List String, order.Perm order' →
      Shuffled (order.foldl dispatch b) (order'.foldl dispatch b)) ∧
      ∀ order : List String, order.Perm b.queues.keys →
        Shuffled b.dispatchAll (order.foldl dispatch b) := by
  have apart := occurs.registered.apart separate
  exact ⟨fun _ _ perm => foldl_dispatch_perm apart perm,
    fun _ perm => foldl_dispatch_perm apart perm.symm⟩

/-- A channel closes that holds a message of each of two queues; each queue has a consumer on a
channel of its own. -/
def twoQueues : List Op :=
  [.declare "p", .declare "q", .connect, .createChannel 1 false, .createChannel 1 false,
    .createChannel 1 false, .publish "p" ByteArray.empty {}, .publish "q" ByteArray.empty {},
    .get 2 "p" false, .get 2 "q" false, .consume 3 "p" "a" false 7, .consume 4 "q" "b" false 8,
    .close 2]

/-- The broker during the closing, when both messages wait again and nothing is dispatched yet. -/
def bothWaiting : Broker :=
  match (allRounds {} twoQueues)[4]? with
  | some round => round.broker
  | none => {}

/-- Two queues with something to push: the notices come in the order of the queues, and everything
else is the same. -/
theorem dispatch_order_does_not_matter_atTwo :
    bothWaiting.Occurs ∧
      (["p", "q"].foldl dispatch bothWaiting).pushes.map (·.consumerTag) = ["a", "b"] ∧
      (["q", "p"].foldl dispatch bothWaiting).pushes.map (·.consumerTag) = ["b", "a"] ∧
      Shuffled (["p", "q"].foldl dispatch bothWaiting) (["q", "p"].foldl dispatch bothWaiting) := by
  have occurs : bothWaiting.Occurs := by
    have started : (allRounds {} twoQueues)[4]? = some ⟨bothWaiting, "p"⟩ := rfl
    exact ⟨twoQueues, .inr ⟨⟨bothWaiting, "p"⟩, List.mem_of_getElem? started, rfl⟩⟩
  have entries : bothWaiting.consumers.entries =
      [("a", ⟨"p", 3, false, 7⟩), ("b", ⟨"q", 4, false, 8⟩)] := rfl
  refine ⟨occurs, rfl, rfl, (dispatch_order_does_not_matter occurs ?_).1 _ _ (.swap _ _ [])⟩
  intro tag tag' consumer consumer' held held' same
  have member := Table.mem_entries_of_get? held
  have member' := Table.mem_entries_of_get? held'
  rw [entries] at member member'
  simp only [List.mem_cons, List.not_mem_nil, Prod.mk.injEq, or_false] at member member'
  rcases member with ⟨-, rfl⟩ | ⟨-, rfl⟩ <;> rcases member' with ⟨-, rfl⟩ | ⟨-, rfl⟩
  · rfl
  · cases same
  · cases same
  · rfl

end QueueListener.Broker
