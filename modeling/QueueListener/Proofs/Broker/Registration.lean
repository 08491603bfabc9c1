import QueueListener.Proofs.Broker.Channels
import QueueListener.Proofs.Broker.Connections
/-!
# Registration

**A consumer is registered twice**, in the table of consumers and in the list of its queue, **and
both say the same** at all times: every change keeps both sides in step.

* `Registered` — the table and the lists belong to each other one to one;
* `Serving` — the channel of every registered consumer is open;
* `Linked` — the connection of every open channel is open;
* `Change.registered`, `Change.serving`, `closeConnection_linked` — how they are kept. A change may
  lose a connection before its channels are closed; so the links are looked at when the operation is
  over, not within its course.
-/

namespace QueueListener.Broker

/-- The table of consumers and the lists of the queues: every tag in a list is in the table with the
queue of the list, and every consumer of the table is once in the list of its queue. -/
structure Registered (b : Broker) : Prop where
  distinct : b.consumers.keys.Nodup
  entered : ∀ queue record tag, b.queues.get? queue = some record → tag ∈ record.consumers →
    ∃ consumer, b.consumers.get? tag = some consumer ∧ consumer.queue = queue
  listed : ∀ tag consumer, b.consumers.get? tag = some consumer →
    ∃ record, b.queues.get? consumer.queue = some record ∧ record.consumers.count tag = 1

/-- The channel of every registered consumer is open. -/
def Serving (b : Broker) : Prop :=
  ∀ tag consumer, b.consumers.get? tag = some consumer → b.channelOpen consumer.channel = true

/-- The connection of every open channel is open. -/
def Linked (b : Broker) : Prop :=
  ∀ channel record, b.openChannel? channel = some record → b.connectionOpen record.connection = true

variable {losing : Nat → Prop} {b b' : Broker} {log : List Pushing}

/-! ### The table and the lists -/

/-- What becomes of the table and of the list of a consumer that leaves. -/
theorem unregister_of_held {consumerTag : String} {consumer : Subscription}
    (held : b.consumers.get? consumerTag = some consumer) :
    b.unregister consumerTag =
      { b with consumers := b.consumers.erase consumerTag }.updateQueue consumer.queue fun record =>
        { record with consumers := record.consumers.filter (· ≠ consumerTag) } := by
  unfold unregister
  rw [held]

namespace Registered

/-- Only the table and the lists matter. -/
theorem of_same (registered : b.Registered) (consumers : b'.consumers = b.consumers)
    (listed : ∀ queue, (b'.queues.get? queue).map (·.consumers) =
      (b.queues.get? queue).map (·.consumers)) : b'.Registered := by
  refine ⟨consumers ▸ registered.distinct, fun queue record tag found member => ?_,
    fun tag consumer found => ?_⟩
  · have same := listed queue
    rw [found] at same
    obtain ⟨before, present, lists⟩ := Option.map_eq_some_iff.mp same.symm
    rw [consumers]
    exact registered.entered queue before tag present (lists.symm ▸ member)
  · rw [consumers] at found
    obtain ⟨before, present, once⟩ := registered.listed tag consumer found
    have same := listed consumer.queue
    rw [present] at same
    obtain ⟨record, after, lists⟩ := Option.map_eq_some_iff.mp same
    exact ⟨record, after, by rw [lists]; exact once⟩

/-- A consumer is in the list of no other queue. -/
theorem queue_eq (registered : b.Registered) {tag queue : String} {consumer : Subscription}
    {record : QueueRecord} (held : b.consumers.get? tag = some consumer)
    (present : b.queues.get? queue = some record) (member : tag ∈ record.consumers) :
    consumer.queue = queue := by
  obtain ⟨_, same, of⟩ := registered.entered queue record tag present member
  obtain rfl := Option.some.inj (held.symm.trans same)
  exact of

/-- A tag that is not in the table is in no list. -/
theorem unlisted (registered : b.Registered) {tag queue : String} {record : QueueRecord}
    (fresh : b.consumers.get? tag = none) (present : b.queues.get? queue = some record) :
    tag ∉ record.consumers := by
  intro member
  obtain ⟨_, held, -⟩ := registered.entered queue record tag present member
  rw [fresh] at held
  cases held

/-- **A consumer that leaves** leaves the table and its list. -/
theorem unregister (registered : b.Registered) {consumerTag : String} {consumer : Subscription}
    (found : b.consumers.get? consumerTag = some consumer) :
    (b.unregister consumerTag).Registered := by
  rw [unregister_of_held found]
  refine ⟨Table.keys_erase_nodup registered.distinct _, ?_, ?_⟩
  · intro queue record tag present member
    have changed := Table.get?_modify b.queues consumer.queue queue
      fun record => { record with consumers := record.consumers.filter (· ≠ consumerTag) }
    rw [show (b.queues.modify _ _).get? queue = some record from present] at changed
    have other : tag ≠ consumerTag ∧ ∃ holder, b.consumers.get? tag = some holder ∧
        holder.queue = queue := by
      split at changed
      next same =>
        obtain ⟨before, here, rfl⟩ := Option.map_eq_some_iff.mp changed.symm
        obtain ⟨old, kept⟩ := List.mem_filter.mp member
        exact ⟨of_decide_eq_true kept, registered.entered queue before tag here old⟩
      next differ =>
        obtain ⟨holder, holds, of⟩ := registered.entered queue record tag changed.symm member
        refine ⟨?_, holder, holds, of⟩
        -- This list was not changed, but it is the list of another queue.
        rintro rfl
        exact differ (registered.queue_eq found changed.symm member).symm
    obtain ⟨differ, holder, holds, of⟩ := other
    exact ⟨holder, (Table.get?_erase_of_ne _ differ).trans holds, of⟩
  · intro tag holder still
    have remains : (b.consumers.erase consumerTag).get? tag = some holder := still
    rw [Table.get?_erase] at remains
    split at remains
    next => cases remains
    next differ =>
      obtain ⟨record, present, once⟩ := registered.listed tag holder remains
      have changed := Table.get?_modify b.queues consumer.queue holder.queue
        fun record => { record with consumers := record.consumers.filter (· ≠ consumerTag) }
      rw [present] at changed
      split at changed
      next =>
        refine ⟨_, changed, ?_⟩
        exact (List.count_filter (by simpa using differ)).trans once
      next => exact ⟨record, changed, once⟩

/-- **A queue that is dropped** takes its list along, and everybody in the list leaves the table. -/
theorem drop (registered : b.Registered) {queue : String} {record : QueueRecord}
    (found : b.queues.get? queue = some record) : (b.delete queue).2.Registered := by
  have dismissed := delete_dismisses found
  have queues : ∀ other, (b.delete queue).2.queues.get? other =
      if other = queue then none else b.queues.get? other := by
    intro other
    rw [dismissed.queues]
    exact Table.get?_erase b.queues queue other
  refine ⟨dismissed.distinct registered.distinct, ?_, ?_⟩
  · intro other list tag present member
    rw [queues] at present
    split at present
    next => cases present
    next differ =>
      obtain ⟨consumer, holds, of⟩ := registered.entered other list tag present member
      refine ⟨consumer, ?_, of⟩
      rw [dismissed.consumers, if_neg ?_]
      · exact holds
      · intro gone
        exact differ (of.symm.trans (registered.queue_eq holds found gone))
  · intro tag consumer still
    rw [dismissed.consumers] at still
    split at still
    next => cases still
    next remains =>
      obtain ⟨list, present, once⟩ := registered.listed tag consumer still
      refine ⟨list, ?_, once⟩
      rw [queues, if_neg ?_]
      · exact present
      · intro same
        rw [same, found, Option.some.injEq] at present
        exact remains (present ▸ List.count_pos_iff.mp (once ▸ Nat.one_pos))

/-- **A new consumer** enters the table and the list of its queue. -/
theorem enroll (registered : b.Registered) (generated : Nat) {tag : String}
    {consumer : Subscription} (present : b.queues.contains consumer.queue = true)
    (fresh : b.consumers.get? tag = none) : (b.enroll generated tag consumer).Registered := by
  have queues : ∀ queue, (b.enroll generated tag consumer).queues.get? queue = _ := fun queue =>
    Table.get?_modify b.queues consumer.queue queue
      fun record => { record with consumers := record.consumers ++ [tag] }
  have consumers : ∀ other, (b.enroll generated tag consumer).consumers.get? other =
      if other = tag then some consumer else b.consumers.get? other :=
    fun other => Table.get?_set b.consumers tag other consumer
  refine ⟨Table.keys_set_nodup registered.distinct _ _, ?_, ?_⟩
  · intro queue record other here member
    have old : ∀ before, b.queues.get? queue = some before → other ∈ before.consumers →
        ∃ holder, (b.enroll generated tag consumer).consumers.get? other = some holder ∧
          holder.queue = queue := by
      intro before found listed
      obtain ⟨holder, holds, of⟩ := registered.entered queue before other found listed
      refine ⟨holder, ?_, of⟩
      rw [consumers, if_neg ?_]
      · exact holds
      · rintro rfl
        exact registered.unlisted fresh found listed
    rw [queues] at here
    split at here
    next same =>
      obtain ⟨before, found, rfl⟩ := Option.map_eq_some_iff.mp here
      rcases List.mem_append.mp member with listed | added
      · exact old before found listed
      · exact ⟨consumer, by rw [consumers, if_pos (List.mem_singleton.mp added)], same.symm⟩
    next => exact old record here member
  · intro other holder held
    rw [consumers] at held
    rw [queues]
    split at held
    next same =>
      obtain rfl := Option.some.inj held
      obtain ⟨record, found⟩ := Table.exists_get?_of_contains present
      refine ⟨_, by rw [if_pos rfl, found, Option.map_some], ?_⟩
      rw [same, List.count_append, List.count_eq_zero.mpr (registered.unlisted fresh found),
        List.count_singleton_self]
    next differ =>
      obtain ⟨record, found, once⟩ := registered.listed other holder held
      split
      next =>
        refine ⟨_, by rw [found, Option.map_some], ?_⟩
        rw [List.count_append, once, List.count_singleton, if_neg]
        simpa using fun equal : tag = other => differ equal.symm
      next => exact ⟨record, found, once⟩

end Registered

/-- **Every change keeps the table and the lists in step.** -/
theorem Change.registered (change : Change losing b log b') (registered : b.Registered) :
    b'.Registered := by
  cases change with
  | @push queue push =>
    exact registered.of_same rfl
      (Turns.of_queue b queue (f := fun record => { record with
        ready := push.rest
        cursor := (push.place + 1) % record.consumers.length }) fun _ => rfl).listed
  | turn turned => exact registered.of_same turned.consumers turned.listed
  | leave found silent => exact (registered.unregister found).of_same rfl fun _ => rfl
  | shut channel left => exact registered.of_same rfl fun _ => rfl
  | drop found => exact registered.drop found
  | lose lost => exact registered.of_same rfl fun _ => rfl

/-- An opening keeps the table and the lists in step. -/
theorem Opening.registered {taken : List (Nat × Delivery)} (opening : Opening b taken b')
    (registered : b.Registered) : b'.Registered := by
  cases opening with
  | nothing => exact registered
  | @queue queue fresh =>
    have queues : ∀ other, (b.queues.set queue {}).get? other =
      if other = queue then some {} else b.queues.get? other := fun other =>
        Table.get?_set b.queues queue other {}
    refine ⟨registered.distinct, fun other record tag found member => ?_,
      fun tag consumer found => ?_⟩
    · have looked : (b.queues.set queue {}).get? other = some record := found
      rw [queues] at looked
      split at looked
      next =>
        obtain rfl := Option.some.inj looked
        cases member
      next => exact registered.entered other record tag looked member
    · obtain ⟨record, present, once⟩ := registered.listed tag consumer found
      refine ⟨record, (queues _).trans ?_, once⟩
      rw [if_neg, present]
      intro same
      rw [same, fresh] at present
      cases present
  | connection attempts => exact registered.of_same rfl fun _ => rfl
  | channel number transactional opened => exact registered.of_same rfl fun _ => rfl
  | bound channel prefetch => exact registered.of_same rfl fun _ => rfl
  | consumer generated opened present fresh => exact registered.enroll generated present fresh
  | @delivery channel queue record waiting message rest autoAck opened found first =>
    exact registered.of_same rfl (Turns.of_queue b queue
      (f := fun record => { record with ready := rest }) fun _ => rfl).listed

/-! ### Open channels -/

theorem channelOpen_congr {channel : Nat}
    (same : b'.channels.get? channel = b.channels.get? channel) :
    b'.channelOpen channel = b.channelOpen channel := by
  unfold Broker.channelOpen openChannel?
  rw [same]

/-- A channel stays as open as it is under a change of its other fields. -/
theorem channelOpen_updateChannel (b : Broker) (other channel : Nat)
    (f : ChannelRecord → ChannelRecord) (kept : ∀ record, (f record).isOpen = record.isOpen) :
    (b.updateChannel other f).channelOpen channel = b.channelOpen channel := by
  unfold Broker.channelOpen openChannel? updateChannel
  dsimp only
  by_cases same : channel = other
  · rw [same, Table.get?_modify_self]
    cases b.channels.get? other with
    | none => rfl
    | some record =>
      rw [Option.map_some]
      dsimp only
      rw [kept]
      cases record.isOpen <;> rfl
  · rw [Table.get?_modify_of_ne _ _ same]

/-- A channel on which somebody consumes is not closed by a change. -/
theorem Change.channelOpen (change : Change losing b log b') {tag : String}
    {consumer : Subscription} (still : b'.consumers.get? tag = some consumer)
    (opened : b.channelOpen consumer.channel = true) :
    b'.channelOpen consumer.channel = true := by
  cases change with
  | @push queue push =>
    have same := channelOpen_updateChannel b push.consumer.channel consumer.channel
      (·.receive (push.channel.lastTag + 1) queue push.consumer.autoAck push.message) fun _ => rfl
    exact same.trans opened
  | turn turned =>
    obtain ⟨record, before⟩ := exists_openChannel? opened
    have related := turned.channels consumer.channel
    rw [get?_of_openChannel? before] at related
    cases after : b'.channels.get? consumer.channel with
    | none =>
      rw [after] at related
      cases related
    | some record' =>
      rw [after] at related
      cases related with
      | some turns =>
        exact channelOpen_of_openChannel? (openChannel?_eq_some_iff.mpr
          ⟨after, turns.isOpen.trans (isOpen_of_openChannel? before)⟩)
  | @leave consumerTag _ _ registered silent =>
    have channels : (b.unregister consumerTag).channels = b.channels := by
      unfold unregister
      rw [registered]
      rfl
    exact (channelOpen_congr (congrArg (·.get? consumer.channel) channels)).trans opened
  | shut channel left =>
    unfold Broker.channelOpen
    rw [openChannel?_updateChannel_of_ne _ _ (left tag consumer still)]
    exact opened
  | drop found =>
    exact (channelOpen_congr (by rw [(delete_dismisses found).channels])).trans opened
  | lose lost => exact opened

theorem Change.serving (change : Change losing b log b') (serving : b.Serving) : b'.Serving :=
  fun tag consumer still =>
    change.channelOpen still (serving tag consumer (change.consumers still))

/-- An opening closes no channel. -/
theorem Opening.channelOpen {taken : List (Nat × Delivery)} (opening : Opening b taken b')
    (tidy : b.Tidy) {channel : Nat} (opened : b.channelOpen channel = true) :
    b'.channelOpen channel = true := by
  cases opening with
  | nothing => exact opened
  | queue fresh => exact opened
  | connection attempts => exact opened
  | consumer generated _ present fresh => exact opened
  | bound other prefetch =>
    have same := channelOpen_updateChannel b other channel
      (fun record => { record with prefetch }) fun _ => rfl
    exact same.trans opened
  | @channel connection number transactional _ =>
    obtain ⟨record, before⟩ := exists_openChannel? opened
    have old : channel ≠ b.lastId + 1 := by
      have numbered := tidy.numbered channel (Table.mem_keys_of_get? (get?_of_openChannel? before))
      omega
    have kept := Table.get?_set b.channels (b.lastId + 1) channel
      { connection, number := number.toNat, isOpen := true, transactional }
    rw [if_neg old] at kept
    exact (channelOpen_congr kept).trans opened
  | @delivery other queue record waiting message rest autoAck before found first =>
    have same := channelOpen_updateChannel b other channel
      (·.receive (record.lastTag + 1) queue autoAck message) fun _ => rfl
    exact same.trans opened

theorem Opening.serving {taken : List (Nat × Delivery)} (opening : Opening b taken b')
    (tidy : b.Tidy) (serving : b.Serving) : b'.Serving := by
  intro tag consumer found
  refine opening.channelOpen tidy ?_
  cases opening with
  | nothing => exact serving tag consumer found
  | queue fresh => exact serving tag consumer found
  | connection attempts => exact serving tag consumer found
  | channel number transactional opened => exact serving tag consumer found
  | bound channel prefetch => exact serving tag consumer found
  | @consumer generated added joined opened present fresh =>
    have looked : (b.consumers.set added joined).get? tag = some consumer := found
    rw [Table.get?_set] at looked
    split at looked
    next =>
      obtain rfl := Option.some.inj looked
      exact opened
    next => exact serving tag consumer looked
  | delivery autoAck opened present first =>
    exact serving tag consumer found

/-! ### Connections -/

/-- A channel that is open at the end of a course was open at its start. -/
theorem Course.opened (course : Course losing b log b') {channel : Nat} {record' : ChannelRecord}
    (after : b'.openChannel? channel = some record') :
    ∃ record, b.openChannel? channel = some record ∧ record.connection = record'.connection := by
  induction course generalizing record' with
  | refl => exact ⟨record', after, rfl⟩
  | step _ change ih =>
    cases change.follows channel with
    | absent before missing =>
      rw [get?_of_openChannel? after] at missing
      cases missing
    | present before found went =>
      obtain rfl := Option.some.inj ((get?_of_openChannel? after).symm.trans found)
      obtain ⟨first, opened, same⟩ := ih (openChannel?_eq_some_iff.mpr
        ⟨before, went.isOpen (isOpen_of_openChannel? after)⟩)
      exact ⟨first, opened, same.trans went.connection.symm⟩

/-- **The links outlive a course** that loses no connection. -/
theorem Course.linked (course : Course (fun _ => False) b log b') (linked : b.Linked) :
    b'.Linked := by
  intro channel record' after
  obtain ⟨record, before, same⟩ := course.opened after
  rw [course.cuts.kept _ id, ← same]
  exact linked channel record before

/-- The closing of a channel closes it. -/
theorem closeChannel_closes (b : Broker) (channel : Nat) (cause : Option ClientError) :
    (b.closeChannel channel cause).openChannel? channel = none := by
  unfold closeChannel
  split
  next closed => exact closed
  next record opened =>
    dsimp only
    have ended : Leads (fun _ => False) (b.updateChannel channel ChannelRecord.shut)
        (((b.updateChannel channel ChannelRecord.shut).tagsOn channel).foldl
          (fun b tag => b.endConsumer cause tag) (b.updateChannel channel ChannelRecord.shut)) :=
      List.foldlRecOn (motive := Leads _ _) _ _ (.refl _)
        fun after led tag _ => led.trans (endConsumer_leads after cause tag)
    obtain ⟨log, course⟩ := ((ended.trans (giveBackAll_leads _ record.unacked)).turn
      (.of_record _ channel .close)).trans (dispatchAll_leads _)
    refine Option.eq_none_iff_forall_ne_some.mpr fun record' after => ?_
    obtain ⟨before, shut, -⟩ := course.opened after
    obtain ⟨found, isOpen⟩ := openChannel?_eq_some_iff.mp shut
    have changed : (b.updateChannel channel ChannelRecord.shut).channels.get? channel = _ :=
      Table.get?_modify_self b.channels channel ChannelRecord.shut
    rw [found, get?_of_openChannel? opened, Option.map_some, Option.some.injEq] at changed
    rw [changed] at isOpen
    cases isOpen

/-- The closing of channels closes each of them. -/
theorem foldl_closeChannel_closes (cause : Option ClientError) (channels : List Nat) (b : Broker)
    {channel : Nat} (member : channel ∈ channels) :
    (channels.foldl (fun b channel => b.closeChannel channel cause) b).openChannel? channel =
      none := by
  induction channels generalizing b with
  | nil => cases member
  | cons first rest ih =>
    rcases List.mem_cons.mp member with rfl | later
    · obtain ⟨log, course⟩ := List.foldlRecOn (motive := Leads (fun _ => False) _) rest
        (fun b channel => b.closeChannel channel cause) (.refl (b.closeChannel channel cause))
        fun after led other _ => led.trans (closeChannel_leads after other cause)
      refine Option.eq_none_iff_forall_ne_some.mpr fun record after => ?_
      obtain ⟨before, opened, -⟩ := course.opened after
      rw [closeChannel_closes] at opened
      cases opened
    · exact ih (b.closeChannel first cause) later

/-- **The closing of a connection** closes its channels before it is over. -/
theorem closeConnection_linked (linked : b.Linked) (connection : Nat)
    (cause : Option ClientError) : (b.closeConnection connection cause).Linked := by
  unfold closeConnection
  split
  next =>
    dsimp only
    generalize lost : ({ b with
      connections := b.connections.modify connection fun record =>
        { record with isOpen := false } } : Broker) = b₀
    have channels : b₀.channels = b.channels := lost ▸ rfl
    obtain ⟨log, course⟩ := List.foldlRecOn (motive := Leads (fun _ => False) b₀)
      (b₀.channelsOf connection) (fun b channel => b.closeChannel channel cause) (.refl b₀)
      fun after led channel _ => led.trans (closeChannel_leads after channel cause)
    intro channel record' after
    obtain ⟨record, opened, same⟩ := course.opened after
    obtain ⟨found, isOpen⟩ := openChannel?_eq_some_iff.mp opened
    -- The links of this connection are broken until the last of its channels is closed.
    have elsewhere : record.connection ≠ connection := by
      intro here
      have listed : channel ∈ b₀.channelsOf connection :=
        List.mem_map.mpr ⟨(channel, record), List.mem_filter.mpr
          ⟨Table.mem_entries_of_get? found, by simp [here, isOpen]⟩, rfl⟩
      rw [foldl_closeChannel_closes cause _ b₀ listed] at after
      cases after
    have kept : b₀.connectionOpen record.connection = b.connectionOpen record.connection := by
      rw [← lost, connectionOpen_modify, if_neg elsewhere]
    rw [course.cuts.kept _ id, ← same, kept]
    exact linked channel record (openChannel?_eq_some_iff.mpr ⟨channels ▸ found, isOpen⟩)
  next => exact linked

theorem dropConnections_linked (linked : b.Linked) : b.dropConnections.Linked :=
  List.foldlRecOn (motive := Linked) _ _ linked
    fun _ linked connection _ => closeConnection_linked linked connection _

/-- No opening closes a connection. -/
theorem Opening.connectionOpen {taken : List (Nat × Delivery)} (opening : Opening b taken b')
    {connection : Nat} (opened : b.connectionOpen connection = true) :
    b'.connectionOpen connection = true := by
  cases opening with
  | nothing => exact opened
  | queue fresh => exact opened
  | consumer generated _ present fresh => exact opened
  | bound channel prefetch => exact opened
  | connection attempts =>
    by_cases new : connection = b.lastId + 1
    · exact new ▸ (connectionOpen_of_added rfl).1
    · exact ((connectionOpen_of_added rfl).2 connection new).trans opened
  | @channel carrier number transactional _ =>
    have counted : Cuts (fun _ => False) b { b with
        connections := b.connections.modify carrier fun r => { r with channels := number } } :=
      .of_modify b carrier (fun _ isOpen => isOpen) (.inr fun _ => rfl)
    exact (counted.kept connection id).trans opened
  | delivery autoAck before found first => exact opened

/-- What an opening adds is linked. -/
theorem Opening.linked {taken : List (Nat × Delivery)} (opening : Opening b taken b')
    (tidy : b.Tidy) (linked : b.Linked) : b'.Linked := by
  intro channel record' after
  have found := get?_of_openChannel? after
  refine opening.connectionOpen ?_
  rcases opening.follows tidy channel with begins | follows
  · obtain ⟨record, made, -, -, opened⟩ := begins.made
    obtain rfl := Option.some.inj (made.symm.trans found)
    exact opened
  · cases follows with
    | absent _ missing =>
      rw [found] at missing
      cases missing
    | present before same went =>
      obtain rfl := Option.some.inj (found.symm.trans same)
      rw [went.connection]
      exact linked channel _ (openChannel?_eq_some_iff.mpr
        ⟨before, went.isOpen (isOpen_of_openChannel? after)⟩)

end QueueListener.Broker
