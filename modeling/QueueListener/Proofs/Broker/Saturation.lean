import QueueListener.Proofs.Broker.Coherence
/-!
# Saturation

**After every operation no message waits while a consumer of its queue has capacity**, and no push
goes to a consumer without capacity.

* `pushNext?_eq_none_iff` — dispatch stops exactly when nothing waits or nobody has capacity;
* `dispatch_stops` — the loop of dispatch ends, whatever the broker;
* `Narrows` — a change that makes no message of a queue wait and gives no consumer of it capacity;
* `step_saturated` — an operation that frees capacity dispatches all queues before it is over, and
  every other operation only narrows, apart from the one queue that it dispatches;
* `run_dispatches_within_bounds` — the statement for all runs.
-/

namespace QueueListener

/-- A channel has no fewer unsettled deliveries after it receives one. -/
theorem ChannelRecord.length_unacked_receive (record : ChannelRecord) (tag : Nat) (queue : String)
    (autoAck : Bool) (message : Message) :
    record.unacked.length ≤ (record.receive tag queue autoAck message).unacked.length := by
  cases autoAck with
  | true => exact le_rfl
  | false => exact (List.sublist_append_left record.unacked _).length_le

namespace Broker

/-! ### The search for a consumer -/

/-- The search looks at every place. -/
theorem mem_searchOrder {queue : QueueRecord} {place : Nat}
    (inside : place < queue.consumers.length) : place ∈ searchOrder queue := by
  generalize size : queue.consumers.length = count at inside
  have start : queue.cursor % count < count := Nat.mod_lt _ (by omega)
  have reached : ∃ offset < count, (queue.cursor + offset) % count = place := by
    have split : queue.cursor = count * (queue.cursor / count) + queue.cursor % count :=
      (Nat.div_add_mod _ _).symm
    -- The search starts at the cursor and wraps around once.
    by_cases ahead : queue.cursor % count ≤ place
    · refine ⟨place - queue.cursor % count, by omega, ?_⟩
      have sum : queue.cursor + (place - queue.cursor % count) =
          count * (queue.cursor / count) + place := by omega
      rw [sum, Nat.mul_add_mod, Nat.mod_eq_of_lt inside]
    · refine ⟨place + count - queue.cursor % count, by omega, ?_⟩
      have sum : queue.cursor + (place + count - queue.cursor % count) =
          count * (queue.cursor / count) + (place + count) := by omega
      rw [sum, Nat.mul_add_mod, Nat.add_mod_right, Nat.mod_eq_of_lt inside]
  obtain ⟨offset, within, same⟩ := reached
  exact List.mem_map.mpr ⟨offset, List.mem_range.mpr (size ▸ within), by rw [size]; exact same⟩

/-- The search fails exactly when no registered consumer of the list has capacity. -/
theorem nextConsumer?_eq_none_iff {b : Broker} {queue : QueueRecord} :
    b.nextConsumer? queue = none ↔ ∀ tag ∈ queue.consumers, ∀ consumer,
      b.consumers.get? tag = some consumer → b.hasCapacity consumer = false := by
  rw [nextConsumer?, List.findSome?_eq_none_iff]
  refine ⟨fun nobody tag member consumer registered => ?_, fun full place _ => ?_⟩
  · obtain ⟨place, inside, same⟩ := List.getElem_of_mem member
    exact available?_eq_none_iff.mp (nobody place (mem_searchOrder inside)) tag
      (List.getElem?_eq_some_iff.mpr ⟨inside, same⟩) consumer registered
  · exact available?_eq_none_iff.mpr fun tag listed => full tag (List.mem_of_getElem? listed)

/-! ### The end of the loop -/

/-- No message of the queue waits while a registered consumer in its list has capacity. -/
def SaturatedAt (b : Broker) (queue : String) : Prop :=
  ∀ record, b.queues.get? queue = some record → record.ready ≠ [] → ∀ tag ∈ record.consumers,
    ∀ consumer, b.consumers.get? tag = some consumer → b.hasCapacity consumer = false

/-- No message waits while a consumer of its queue has capacity. -/
def Saturated (b : Broker) : Prop := ∀ queue, b.SaturatedAt queue

/-- **Dispatch stops** exactly when nothing waits or nobody has capacity. -/
theorem pushNext?_eq_none_iff {b : Broker} {queue : String} :
    b.pushNext? queue = none ↔ b.SaturatedAt queue := by
  unfold pushNext? SaturatedAt
  cases found : b.queues.get? queue with
  | none => simp
  | some record =>
    dsimp only
    cases waiting : record.ready with
    | nil => simp [waiting]
    | cons message rest =>
      dsimp only
      cases next : b.nextConsumer? record with
      | none =>
        refine ⟨fun _ other same _ => ?_, fun _ => rfl⟩
        obtain rfl := Option.some.inj same
        exact nextConsumer?_eq_none_iff.mp next
      | some chosen =>
        refine ⟨fun nothing => (by cases nothing), fun saturated => ?_⟩
        have nobody := nextConsumer?_eq_none_iff.mpr
          (saturated record rfl (by rw [waiting]; exact List.cons_ne_nil _ _))
        rw [next] at nobody
        cases nobody

/-- A push leaves one message less. -/
theorem readyCount_push {b : Broker} {queue : String} (push : Push b queue) :
    b.readyCount queue = push.result.readyCount queue + 1 := by
  have after : push.result.queues.get? queue = _ := Table.get?_modify_self b.queues queue
    fun record => { record with
      ready := push.rest
      cursor := (push.place + 1) % record.consumers.length }
  rw [push.found, Option.map_some] at after
  unfold readyCount
  rw [push.found, after]
  show push.record.ready.length = push.rest.length + 1
  rw [push.waiting, List.length_cons]

/-- Where no push is possible the loop does nothing. -/
theorem pushUpTo_of_none {b : Broker} {queue : String} (stopped : b.pushNext? queue = none)
    (count : Nat) : pushUpTo count queue b = b := by
  cases count with
  | zero => rfl
  | succ count => rw [pushUpTo, stopped]

/-- A queue without messages is at rest. -/
theorem pushNext?_of_empty {b : Broker} {queue : String} (empty : b.readyCount queue = 0) :
    b.pushNext? queue = none := by
  refine pushNext?_eq_none_iff.mpr fun record found waiting => ?_
  rw [readyCount, found] at empty
  exact absurd (List.length_eq_zero_iff.mp empty) waiting

/-- With a turn for every message that waits, the loop ends where no push is possible, and further
turns are of no use. -/
theorem pushUpTo_stops (queue : String) (count : Nat) (b : Broker)
    (enough : b.readyCount queue ≤ count) :
    (pushUpTo count queue b).pushNext? queue = none ∧
      pushUpTo count queue b = b.dispatch queue := by
  induction count generalizing b with
  | zero =>
    have empty : b.readyCount queue = 0 := Nat.le_zero.mp enough
    rw [dispatch, empty]
    exact ⟨pushNext?_of_empty empty, rfl⟩
  | succ count ih =>
    cases pushed : b.pushNext? queue with
    | none =>
      rw [dispatch, pushUpTo_of_none pushed, pushUpTo_of_none pushed]
      exact ⟨pushed, rfl⟩
    | some after =>
      obtain ⟨push, rfl⟩ := exists_push pushed
      have fewer := readyCount_push push
      obtain ⟨stopped, same⟩ := ih push.result (by omega)
      have whole : b.dispatch queue = push.result.dispatch queue := by
        rw [dispatch, fewer, pushUpTo, pushed]
        rfl
      rw [pushUpTo, pushed, whole]
      exact ⟨stopped, same⟩

/-- **The loop of dispatch ends**, whatever the broker. -/
theorem dispatch_stops (b : Broker) (queue : String) :
    (b.dispatch queue).pushNext? queue = none ∧
      ∀ count, b.readyCount queue ≤ count → pushUpTo count queue b = b.dispatch queue :=
  ⟨(pushUpTo_stops queue _ b le_rfl).1, fun count enough =>
    (pushUpTo_stops queue count b enough).2⟩

theorem dispatch_saturatedAt (b : Broker) (queue : String) :
    (b.dispatch queue).SaturatedAt queue :=
  pushNext?_eq_none_iff.mp (dispatch_stops b queue).1

/-! ### Narrowing -/

/-- A change after which a queue has no message waiting unless it had one, and no consumer of the
queue has capacity that had none. -/
def Narrows (queue : String) (b b' : Broker) : Prop :=
  ∀ record', b'.queues.get? queue = some record' → record'.ready ≠ [] →
    ∃ record, b.queues.get? queue = some record ∧ record.ready ≠ [] ∧
      ∀ tag ∈ record'.consumers, ∀ consumer, b'.consumers.get? tag = some consumer →
        b'.hasCapacity consumer = true → tag ∈ record.consumers ∧
          b.consumers.get? tag = some consumer ∧ b.hasCapacity consumer = true

namespace Narrows

variable {queue : String} {b b₁ b₂ b' : Broker}

theorem saturatedAt (narrows : Narrows queue b b') (saturated : b.SaturatedAt queue) :
    b'.SaturatedAt queue := by
  intro record' found waiting tag member consumer registered
  obtain ⟨record, before, waited, back⟩ := narrows record' found waiting
  refine Bool.eq_false_iff.mpr fun capacity => ?_
  obtain ⟨listed, known, had⟩ := back tag member consumer registered capacity
  rw [saturated record before waited tag listed consumer known] at had
  cases had

theorem refl (queue : String) (b : Broker) : Narrows queue b b :=
  fun record found waiting => ⟨record, found, waiting,
    fun _ member _ registered capacity => ⟨member, registered, capacity⟩⟩

theorem trans (first : Narrows queue b b₁) (second : Narrows queue b₁ b₂) : Narrows queue b b₂ := by
  intro record₂ found₂ waiting₂
  obtain ⟨record₁, found₁, waiting₁, back₁⟩ := second record₂ found₂ waiting₂
  obtain ⟨record, found, waiting, back⟩ := first record₁ found₁ waiting₁
  refine ⟨record, found, waiting, fun tag member consumer registered capacity => ?_⟩
  obtain ⟨listed, known, had⟩ := back₁ tag member consumer registered capacity
  exact back tag listed consumer known had

/-- The queue loses messages or consumers, consumers leave, and capacity shrinks. -/
theorem of_parts
    (queues : ∀ record', b'.queues.get? queue = some record' → record'.ready ≠ [] →
      ∃ record, b.queues.get? queue = some record ∧ record.ready ≠ [] ∧
        record'.consumers ⊆ record.consumers)
    (consumers : ∀ tag consumer, b'.consumers.get? tag = some consumer →
      b.consumers.get? tag = some consumer)
    (capacity : ∀ consumer, b'.hasCapacity consumer = true → b.hasCapacity consumer = true) :
    Narrows queue b b' := by
  intro record' found waiting
  obtain ⟨record, before, waited, fewer⟩ := queues record' found waiting
  exact ⟨record, before, waited, fun tag member consumer registered has =>
    ⟨fewer member, consumers tag consumer registered, capacity consumer has⟩⟩

/-- What else changes does not matter. -/
theorem of_same (queues : b'.queues = b.queues) (consumers : b'.consumers = b.consumers)
    (channels : b'.channels = b.channels) : Narrows queue b b' := by
  refine of_parts (fun record found waiting => ⟨record, queues ▸ found, waiting,
    List.Subset.refl _⟩) (fun _ _ found => consumers ▸ found) fun consumer has => ?_
  unfold hasCapacity openChannel? at has ⊢
  rw [channels] at has
  exact has

end Narrows

theorem Saturated.of_narrows {b b' : Broker} (saturated : b.Saturated)
    (narrows : ∀ queue, Narrows queue b b') : b'.Saturated :=
  fun queue => (narrows queue).saturatedAt (saturated queue)

/-- A channel that keeps its bound and settles nothing gives nobody capacity. -/
theorem hasCapacity_of_updateChannel {b : Broker} {channel : Nat}
    (f : ChannelRecord → ChannelRecord) (isOpen : ∀ record, (f record).isOpen = record.isOpen)
    (prefetch : ∀ record, (f record).prefetch = record.prefetch)
    (unacked : ∀ record, record.unacked.length ≤ (f record).unacked.length)
    {consumer : Subscription} (has : (b.updateChannel channel f).hasCapacity consumer = true) :
    b.hasCapacity consumer = true := by
  obtain ⟨record', opened', room⟩ := hasCapacity_iff.mp has
  by_cases here : consumer.channel = channel
  · obtain ⟨found', isOpen'⟩ := openChannel?_eq_some_iff.mp opened'
    have changed : (b.updateChannel channel f).channels.get? consumer.channel = _ :=
      Table.get?_modify b.channels channel consumer.channel f
    rw [found', if_pos here] at changed
    obtain ⟨record, found, rfl⟩ := Option.map_eq_some_iff.mp changed.symm
    refine hasCapacity_iff.mpr ⟨record,
      openChannel?_eq_some_iff.mpr ⟨found, isOpen record ▸ isOpen'⟩, ?_⟩
    rw [prefetch] at room
    exact room.imp_right (Or.imp_right (unacked record).trans_lt)
  · rw [openChannel?_updateChannel_of_ne _ _ here] at opened'
    exact hasCapacity_iff.mpr ⟨record', opened', room⟩

/-- A change of one queue that neither brings it a first message nor adds a consumer. -/
theorem waiting_of_modify {b : Broker} {queue : String} (f : QueueRecord → QueueRecord)
    (waited : ∀ record, b.queues.get? queue = some record → (f record).ready ≠ [] →
      record.ready ≠ [])
    (fewer : ∀ record, (f record).consumers ⊆ record.consumers) (other : String)
    (record' : QueueRecord) (found : (b.queues.modify queue f).get? other = some record')
    (waiting : record'.ready ≠ []) :
    ∃ record, b.queues.get? other = some record ∧ record.ready ≠ [] ∧
      record'.consumers ⊆ record.consumers := by
  rw [Table.get?_modify] at found
  split at found
  next same =>
    obtain ⟨record, before, rfl⟩ := Option.map_eq_some_iff.mp found
    exact ⟨record, before, waited record (same ▸ before) waiting, fewer record⟩
  next => exact ⟨record', found, waiting, List.Subset.refl _⟩

section Steps

variable {b : Broker}

/-- **A push narrows every queue.** -/
theorem push_narrows {queue : String} (push : Push b queue) (other : String) :
    Narrows other b push.result := by
  have waited : ∀ record, b.queues.get? queue = some record → push.rest ≠ [] →
      record.ready ≠ [] := by
    intro record found _
    obtain rfl := Option.some.inj (push.found.symm.trans found)
    rw [push.waiting]
    exact List.cons_ne_nil _ _
  exact .of_parts
    (waiting_of_modify (fun record => { record with
      ready := push.rest
      cursor := (push.place + 1) % record.consumers.length }) waited
      (fun _ => List.Subset.refl _) other)
    (fun _ _ found => found) fun _ => hasCapacity_of_updateChannel
      (·.receive (push.channel.lastTag + 1) queue push.consumer.autoAck push.message)
      (fun _ => rfl) (fun _ => rfl) fun record => record.length_unacked_receive _ _ _ _

theorem dispatch_narrows (b : Broker) (queue other : String) :
    Narrows other b (b.dispatch queue) :=
  dispatch_induction (motive := Narrows other b)
    (fun _ _ push narrows => narrows.trans (push_narrows push other)) queue b (.refl other b)

/-- A queue that is dispatched may get whatever it likes, if the others are narrowed. -/
theorem Saturated.dispatch (saturated : b.Saturated) {b₁ : Broker} (queue : String)
    (narrows : ∀ other, other ≠ queue → Narrows other b b₁) : (b₁.dispatch queue).Saturated := by
  intro other
  by_cases same : other = queue
  · rw [same]
    exact dispatch_saturatedAt b₁ queue
  · exact ((narrows other same).trans (dispatch_narrows b₁ queue other)).saturatedAt
      (saturated other)

/-- A queue that was dispatched stays saturated while others are dispatched: that gives no consumer
capacity. -/
theorem foldl_dispatch_saturatedAt (queues : List String) (b : Broker) {queue : String}
    (turn : queue ∈ queues ∨ b.SaturatedAt queue) :
    (queues.foldl Broker.dispatch b).SaturatedAt queue := by
  induction queues generalizing b with
  | nil => exact turn.resolve_left List.not_mem_nil
  | cons first rest ih =>
    refine ih (b.dispatch first) ?_
    rcases turn with member | saturated
    · rcases List.mem_cons.mp member with rfl | later
      · exact .inr (dispatch_saturatedAt b queue)
      · exact .inl later
    · exact .inr ((dispatch_narrows b first queue).saturatedAt saturated)

/-- **The dispatch of all queues** leaves every queue saturated. -/
theorem dispatchAll_saturated (b : Broker) : b.dispatchAll.Saturated := by
  intro queue
  refine foldl_dispatch_saturatedAt b.queues.keys b ?_
  by_cases known : queue ∈ b.queues.keys
  · exact .inl known
  · refine .inr fun record found => ?_
    rw [Table.get?_eq_none_iff.mpr known] at found
    cases found

/-! ### Closing -/

/-- A closed channel was closed before, or everything was dispatched after it closed. -/
theorem closeChannel_saturated (saturated : b.Saturated) (channel : Nat)
    (cause : Option ClientError) : (b.closeChannel channel cause).Saturated := by
  unfold closeChannel
  split
  next => exact saturated
  next => exact dispatchAll_saturated _

theorem closeConnection_saturated (saturated : b.Saturated) (connection : Nat)
    (cause : Option ClientError) : (b.closeConnection connection cause).Saturated := by
  unfold closeConnection
  split
  next =>
    have marked : Saturated { b with
        connections := b.connections.modify connection fun record =>
          { record with isOpen := false } } :=
      saturated.of_narrows fun _ => .of_same rfl rfl rfl
    exact List.foldlRecOn (motive := Saturated) _ _ marked
      fun _ saturated channel _ => closeChannel_saturated saturated channel cause
  next => exact saturated

theorem dropConnections_saturated (saturated : b.Saturated) : b.dropConnections.Saturated :=
  List.foldlRecOn (motive := Saturated) _ _ saturated
    fun _ saturated connection _ => closeConnection_saturated saturated connection _

/-! ### Operations that free no capacity -/

section Operations

variable (saturated : b.Saturated)
include saturated

theorem declare_saturated (queue : String) : (b.declare queue).2.Saturated := by
  unfold declare
  split
  next => exact saturated
  next =>
    refine saturated.of_narrows fun other => .of_parts (fun record found waiting => ?_)
      (fun _ _ found => found) fun _ has => has
    have looked : (b.queues.set queue {}).get? other = some record := found
    rw [Table.get?_set] at looked
    split at looked
    next =>
      obtain rfl := Option.some.inj looked
      exact absurd rfl waiting
    next => exact ⟨record, looked, waiting, List.Subset.refl _⟩

theorem delete_saturated (queue : String) : (b.delete queue).2.Saturated := by
  cases found : b.queues.get? queue with
  | none =>
    unfold delete
    rw [found]
    exact saturated
  | some record =>
    have dismissed := delete_dismisses found
    refine saturated.of_narrows fun other => .of_parts (fun record found waiting => ?_)
      (fun tag consumer found => ?_) fun consumer has => ?_
    · rw [dismissed.queues] at found
      exact ⟨record, Table.get?_of_get?_erase found, waiting, List.Subset.refl _⟩
    · rw [dismissed.consumers] at found
      split at found
      next => cases found
      next => exact found
    · unfold hasCapacity openChannel? at has ⊢
      rw [dismissed.channels] at has
      exact has

theorem connect_saturated : b.connect.2.Saturated := by
  unfold connect
  dsimp only
  split
  next => exact saturated.of_narrows fun _ => .of_same rfl rfl rfl
  next =>
    split
    next => exact saturated.of_narrows fun _ => .of_same rfl rfl rfl
    next => exact saturated.of_narrows fun _ => .of_same rfl rfl rfl

theorem accept_saturated (queue : String) (payload : Payload) (properties : Properties) :
    (b.accept queue payload properties).Saturated := by
  refine saturated.dispatch queue fun other differ => .of_parts (fun record found waiting => ?_)
    (fun _ _ found => found) fun _ has => has
  have looked : (b.queues.modify queue fun record => { record with
    ready := record.ready ++ [⟨b.lastSerial + 1, payload, properties, false⟩] }).get? other =
      some record := found
  rw [Table.get?_modify_of_ne _ _ differ] at looked
  exact ⟨record, looked, waiting, List.Subset.refl _⟩

theorem publish_saturated (queue : String) (payload : Payload) (properties : Properties) :
    (b.publish queue payload properties).2.Saturated := by
  unfold publish
  split
  next => exact accept_saturated saturated queue payload properties
  next => exact saturated

theorem publishOn_saturated (channel : Nat) (exchange queue : String) (payload : Payload)
    (properties : Properties) :
    (b.publishOn channel exchange queue payload properties).2.Saturated := by
  unfold publishOn
  split
  next => exact saturated
  next =>
    split
    next => exact accept_saturated saturated queue payload properties
    next => exact saturated

theorem cancel_saturated (channel : Nat) (consumerTag : String) :
    (b.cancel channel consumerTag).2.Saturated := by
  have left : ∀ consumer : Subscription, b.consumers.get? consumerTag = some consumer →
      ((b.unregister consumerTag).notify consumer.subscriber .ended).Saturated := by
    intro consumer found
    unfold unregister
    rw [found]
    exact saturated.of_narrows fun other => .of_parts
      (waiting_of_modify (fun record => { record with
        consumers := record.consumers.filter (· ≠ consumerTag) }) (fun _ _ waiting => waiting)
        (fun _ => List.filter_subset_self _) other)
      (fun _ _ found => Table.get?_of_get?_erase found) fun _ has => has
  unfold cancel
  split
  next => exact saturated
  next =>
    dsimp only
    refine Saturated.of_narrows ?_ fun _ => .of_same rfl rfl rfl
    split
    next consumer found =>
      split
      next => exact left consumer found
      next => exact saturated
    next => exact saturated

/-- A channel that only changes what waits for the commit. -/
theorem Saturated.updatePending (channel : Nat) (f : List Settlement → List Settlement) :
    (b.updateChannel channel fun record => { record with pending := f record.pending }).Saturated :=
  saturated.of_narrows fun _ => .of_parts
    (fun record found waiting => ⟨record, found, waiting, List.Subset.refl _⟩)
    (fun _ _ found => found) fun _ => hasCapacity_of_updateChannel
      (fun record => { record with pending := f record.pending }) (fun _ => rfl) (fun _ => rfl)
      fun _ => le_rfl

theorem rollback_saturated (channel : Nat) : (b.rollback channel).2.Saturated := by
  unfold rollback
  split
  next => exact saturated
  next =>
    split
    next =>
      exact (saturated.updatePending channel fun _ => []).of_narrows fun _ => .of_same rfl rfl rfl
    next => exact saturated

theorem get_saturated (channel : Nat) (queue : String) (autoAck : Bool) :
    (b.get channel queue autoAck).2.Saturated := by
  rcases b.get_cases channel queue autoAck with
    ⟨_, refused⟩ | ⟨_, refused⟩ | nothing |
      ⟨record, waiting, message, rest, -, found, first, got⟩
  · rw [refused]
    exact saturated
  · rw [refused]
    exact closeChannel_saturated saturated channel none
  · rw [nothing]
    exact saturated
  · have waited : ∀ record, b.queues.get? queue = some record → rest ≠ [] → record.ready ≠ [] := by
      intro record found' _
      obtain rfl := Option.some.inj (found.symm.trans found')
      rw [first]
      exact List.cons_ne_nil _ _
    rw [got]
    exact saturated.of_narrows fun other => .of_parts
      (waiting_of_modify (fun record => { record with ready := rest }) waited
        (fun _ => List.Subset.refl _) other)
      (fun _ _ found => found) fun _ => hasCapacity_of_updateChannel
        (·.receive (record.lastTag + 1) queue autoAck message) (fun _ => rfl) (fun _ => rfl)
        fun record => record.length_unacked_receive _ _ _ _

/-! ### Operations that free capacity -/

theorem setPrefetch_saturated (channel prefetch : Nat) :
    (b.setPrefetch channel prefetch).2.Saturated := by
  unfold setPrefetch
  split
  next => exact dispatchAll_saturated _
  next => exact saturated

theorem acknowledge_saturated (channel : Nat) (settlement : Settlement) :
    (b.acknowledge channel settlement).2.Saturated := by
  unfold acknowledge
  split
  next => exact saturated
  next =>
    split
    next =>
      have noted : (b.record channel (.settle settlement)).Saturated :=
        saturated.of_narrows fun _ => .of_same rfl rfl rfl
      dsimp only
      split
      next => exact noted.updatePending channel (· ++ [settlement])
      next => exact dispatchAll_saturated _
    next => exact closeChannel_saturated saturated channel none

theorem commit_saturated (channel : Nat) : (b.commit channel).2.Saturated := by
  unfold commit
  split
  next => exact saturated
  next =>
    split
    next => exact dispatchAll_saturated _
    next => exact saturated

end Operations

/-! ### Registration -/

section Coherent

variable (coherent : b.Coherent) (saturated : b.Saturated)
include coherent saturated

/-- Nobody consumes on a channel that is not there yet. -/
theorem createChannel_saturated (connection : Nat) (transactional : Bool) :
    (b.createChannel connection transactional).2.Saturated := by
  unfold createChannel
  split
  next record found =>
    split
    next =>
      intro queue record' waiting' waits tag listed consumer registered
      have known : b.consumers.get? tag = some consumer := registered
      obtain ⟨opened, before⟩ := exists_openChannel? (coherent.serving tag consumer known)
      -- The new channel has capacity, but nobody who is registered consumes on it.
      have old : consumer.channel ≠ b.lastId + 1 := by
        have numbered := coherent.tidy.numbered consumer.channel
          (Table.mem_keys_of_get? (get?_of_openChannel? before))
        omega
      have kept : (b.channels.set (b.lastId + 1)
          { connection, number := (record.channels + 1).toNat, isOpen := true, transactional }).get?
            consumer.channel = b.channels.get? consumer.channel := by
        rw [Table.get?_set, if_neg old]
      have full := saturated queue record' waiting' waits tag listed consumer known
      unfold hasCapacity openChannel? at full ⊢
      rw [kept]
      exact full
    next => exact saturated
  next => exact saturated

/-- A new consumer is in no list but that of its queue. -/
theorem consume_saturated (channel : Nat) (queue requested : String) (autoAck : Bool)
    (subscriber : Nat) :
    (b.consume channel queue requested autoAck subscriber).2.Saturated := by
  rcases b.consume_cases channel queue requested autoAck subscriber with
    ⟨_, refused⟩ | ⟨_, generated, refused⟩ | ⟨tag, generated, -, -, fresh, enrolled⟩
  · rw [refused]
    exact saturated
  · have counted : Saturated { b with generatedTags := generated } :=
      saturated.of_narrows fun _ => .of_same rfl rfl rfl
    rw [refused]
    exact closeChannel_saturated counted channel none
  · rw [enrolled]
    refine saturated.dispatch queue fun other differ record found waiting => ?_
    have looked : (b.queues.modify queue fun record =>
        { record with consumers := record.consumers ++ [tag] }).get? other = some record := found
    rw [Table.get?_modify_of_ne _ _ differ] at looked
    refine ⟨record, looked, waiting, fun listed member consumer registered has =>
      ⟨member, ?_, has⟩⟩
    have known : (b.consumers.set tag ⟨queue, channel, autoAck, subscriber⟩).get? listed =
      some consumer := registered
    rw [Table.get?_set, if_neg] at known
    · exact known
    · rintro rfl
      exact coherent.registered.unlisted fresh looked member

/-- **Every operation leaves a saturated broker**, if it finds a saturated and coherent one. -/
theorem step_saturated (op : Op) : (b.step op).2.Saturated := by
  cases op with
  | declare queue => exact declare_saturated saturated queue
  | delete queue => exact delete_saturated saturated queue
  | publish queue payload properties =>
    exact Reply.ofDone_snd _ ▸ publish_saturated saturated queue payload properties
  | refuseConnections on => exact saturated.of_narrows fun _ => .of_same rfl rfl rfl
  | rejectCredentials on => exact saturated.of_narrows fun _ => .of_same rfl rfl rfl
  | dropConnections => exact dropConnections_saturated saturated
  | connect => exact Reply.ofResult_snd _ _ ▸ connect_saturated saturated
  | closeConnection connection => exact closeConnection_saturated saturated connection none
  | createChannel connection transactional =>
    exact Reply.ofResult_snd _ _ ▸
      createChannel_saturated coherent saturated connection transactional
  | setPrefetch channel prefetch =>
    exact Reply.ofDone_snd _ ▸ setPrefetch_saturated saturated channel prefetch
  | consume channel queue tag autoAck subscriber =>
    exact Reply.ofResult_snd _ _ ▸
      consume_saturated coherent saturated channel queue tag autoAck subscriber
  | get channel queue autoAck =>
    exact Reply.ofResult_snd _ _ ▸ get_saturated saturated channel queue autoAck
  | acknowledge channel settlement =>
    exact Reply.ofDone_snd _ ▸ acknowledge_saturated saturated channel settlement
  | cancel channel tag => exact Reply.ofDone_snd _ ▸ cancel_saturated saturated channel tag
  | publishOn channel exchange queue payload properties =>
    exact Reply.ofDone_snd _ ▸
      publishOn_saturated saturated channel exchange queue payload properties
  | commit channel => exact Reply.ofDone_snd _ ▸ commit_saturated saturated channel
  | rollback channel => exact Reply.ofDone_snd _ ▸ rollback_saturated saturated channel
  | confirm channel => exact Reply.ofDone_snd _ ▸ (confirm_snd b channel).symm ▸ saturated
  | close channel => exact closeChannel_saturated saturated channel none

/-- In a saturated and coherent broker everybody who consumes from a queue with a waiting message
acknowledges, and is at its bound. -/
theorem at_bound {queue : String} {record : QueueRecord}
    (found : b.queues.get? queue = some record) (waiting : record.ready ≠ []) {tag : String}
    (listed : tag ∈ record.consumers) :
    ∃ consumer channel, b.consumers.get? tag = some consumer ∧
      b.openChannel? consumer.channel = some channel ∧ consumer.autoAck = false ∧
      channel.prefetch ≠ 0 ∧ channel.prefetch ≤ channel.unacked.length := by
  obtain ⟨consumer, registered, -⟩ := coherent.registered.entered queue record tag found listed
  obtain ⟨channel, opened⟩ := exists_openChannel? (coherent.serving tag consumer registered)
  have full := saturated queue record found waiting tag listed consumer registered
  have lacks : ¬ (consumer.autoAck = true ∨ channel.prefetch = 0 ∨
      channel.unacked.length < channel.prefetch) := by
    intro room
    rw [hasCapacity_iff.mpr ⟨channel, opened, room⟩] at full
    cases full
  obtain ⟨acknowledges, bounded, reached⟩ := by simpa only [not_or] using lacks
  exact ⟨consumer, channel, registered, opened, Bool.eq_false_iff.mpr acknowledges, bounded,
    Nat.le_of_not_lt reached⟩

end Coherent

end Steps

/-! ### All runs -/

theorem saturated_empty : Saturated {} := by
  intro queue record found
  cases found

theorem run_saturated {b : Broker} (coherent : b.Coherent) (saturated : b.Saturated)
    (ops : List Op) : (b.run ops).Saturated := by
  induction ops generalizing b with
  | nil => exact saturated
  | cons op rest ih => exact ih (step_coherent coherent op) (step_saturated coherent saturated op)

/-- **Dispatch within bounds, without delay.** In every reachable broker, every operation pushes
messages one by one, each to a consumer that does not acknowledge, or whose channel has no bound, or
fewer unsettled deliveries than its bound. When the operation is over, every consumer of a queue
with a waiting message acknowledges and is at its bound. Every push that the loop of dispatch makes,
in whatever broker, finds a consumer within its bound; and the loop ends. -/
theorem run_dispatches_within_bounds (ops : List Op) (op : Op) :
    (∃ b₁ log, Unfolding (run {} ops) op b₁ log ∧ (run {} ops).news op = log.map (·.delivery) ∧
      ∀ pushing ∈ log, pushing.consumer.autoAck = false → pushing.channel.prefetch = 0 ∨
        pushing.channel.unacked.length < pushing.channel.prefetch) ∧
    (∀ queue record, ((run {} ops).step op).2.queues.get? queue = some record →
      record.ready ≠ [] → ∀ tag ∈ record.consumers, ∃ consumer channel,
        ((run {} ops).step op).2.consumers.get? tag = some consumer ∧
        ((run {} ops).step op).2.openChannel? consumer.channel = some channel ∧
        consumer.autoAck = false ∧ channel.prefetch ≠ 0 ∧
        channel.prefetch ≤ channel.unacked.length) ∧
    (∀ (b after : Broker) queue, b.pushNext? queue = some after →
      ∃ push : Push b queue, push.result = after ∧ (push.consumer.autoAck = false →
        push.channel.prefetch = 0 ∨ push.channel.unacked.length < push.channel.prefetch)) ∧
    ∀ (b : Broker) queue, (b.dispatch queue).pushNext? queue = none ∧
      ∀ count, b.readyCount queue ≤ count → pushUpTo count queue b = b.dispatch queue := by
  have coherent := (run_coherence coherent_empty ops).1
  have saturated := run_saturated coherent_empty saturated_empty ops
  refine ⟨?_, ?_, ?_, dispatch_stops⟩
  · obtain ⟨b₁, log, unfolding⟩ := step_unfolds (run {} ops) op
    exact ⟨b₁, log, unfolding, unfolding.news, fun pushing member acknowledges =>
      (unfolding.course.pushed member).2.resolve_left (Bool.eq_false_iff.mp acknowledges)⟩
  · intro queue record found waiting tag listed
    exact at_bound (step_coherent coherent op) (step_saturated coherent saturated op) found waiting
      listed
  · intro b after queue pushed
    obtain ⟨push, rfl⟩ := exists_push pushed
    exact ⟨push, rfl, fun acknowledges =>
      push.within.resolve_left (Bool.eq_false_iff.mp acknowledges)⟩

/-- The second message waits for the acknowledgement of the first. -/
example :
    let bounded := run {} [.declare "q", .connect, .createChannel 1 false, .setPrefetch 2 1,
      .publish "q" ByteArray.empty {}, .consume 2 "q" "c" false 7, .publish "q" ByteArray.empty {}]
    bounded.readyCount "q" = 1 ∧
      (bounded.run [.acknowledge 2 ⟨1, false, .ack⟩]).readyCount "q" = 0 := ⟨rfl, rfl⟩

end Broker

end QueueListener
