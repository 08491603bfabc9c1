import QueueListener.Proofs.Consumer.Engagement
import QueueListener.Proofs.Container.Shifts
/-!
# The sessions of a container's consumers

**A consumer of a container that opens its session begins a shift.** The container opens a channel,
bounds it and subscribes as `openDesk` does, and the first deliveries wait in the handoff.

* `Settled` — how a world stands after an operation of a client without faults;
* `connection_settled`, `openChannel_opens`, `subscribe_subscribes` — the steps of an opening;
* `openSession_opens` — a desk is open when the session begins;
* `openSession_hosts` — the opened session hosts the start of an engagement.
-/

namespace QueueListener.World

open Broker

variable {w w₁ w₂ w' : World} {id : Nat} {c : Consumer}

/-- How a world stands after operations: a broker behind a client without faults, and nothing else
that a consumer sees has changed. -/
structure Settled (w w₁ : World) (b : Broker) : Prop where
  client : w₁.client = { broker := b }
  metrics : w₁.metrics = w.metrics
  consumers : w₁.consumers = w.consumers
  plan : w₁.plan = w.plan

/-- An operation of a client without faults is one of the broker, whose notices are taken. -/
theorem request_settled {α : Type} {op : ClientOp} {ask : Broker → Except ClientError α × Broker}
    {b : Broker} (client : w.client = { broker := b }) {a : α}
    (ran : (request fun client => client.call op ask).run w = (.ok a, w₁)) :
    ∃ b', ask b = (.ok a, b') ∧ Settled w w₁ b'.collectNotices.2 ∧
      ∀ id h, w.handoffs.get? id = some h → w₁.handoffs.get? id =
        some { h with outside := h.outside ++
          (b'.notices.toList.filter (·.1 = id)).map (·.2) } := by
  have whole : ((w.client.call op ask).1, ({ w with
      client := (w.client.call op ask).2 } : World).deliverNotices) = (.ok a, w₁) := ran
  obtain ⟨answered, reached⟩ := Prod.mk.inj whole
  rw [client, Desk.call_of_faultless] at answered reached
  obtain ⟨client, metrics, consumers, plan, handoffs⟩ :=
    ({ w with client := { broker := (ask b).2 } } : World).deliverNotices_frame
  rw [reached] at client metrics consumers plan handoffs
  exact ⟨(ask b).2, Prod.ext answered rfl, ⟨client, metrics, consumers, plan⟩, handoffs⟩

/-- The shared connection is there, or it is opened. -/
theorem connection_settled {b : Broker} (client : w.client = { broker := b }) {connection : Nat}
    (ran : World.connection.run w = (.ok connection, w₁)) :
    ∃ b', Settled w w₁ b' ∧ b'.consumers = b.consumers ∧ (b.Reachable → b'.Reachable) := by
  unfold World.connection at ran
  rw [run_get_bind] at ran
  split at ran
  next shared =>
    cases ran
    exact ⟨b, ⟨client, rfl, rfl, rfl⟩, rfl, id⟩
  next =>
    obtain ⟨opened, _, asked, ran⟩ := run_bind_inv ran
    obtain ⟨b', answered, ⟨client', metrics, consumers, plan⟩, -⟩ := request_settled client asked
    rw [run_modify_bind] at ran
    cases ran
    refine ⟨b'.collectNotices.2, ⟨client', metrics, consumers, plan⟩, ?_, fun reached => ?_⟩
    · show b'.consumers = b.consumers
      have same : b.connect.2.consumers = b.consumers := by
        unfold connect
        dsimp only
        split
        next => rfl
        next => split <;> rfl
      rwa [answered] at same
    · have connected := (reached.step .connect).collect
      have after : (b.step .connect).2 = b.connect.2 := Reply.ofResult_snd _ _
      rw [after, answered] at connected
      exact connected

/-- A channel is opened for the consumer, which knows of it. -/
theorem openChannel_opens {b : Broker} (client : w.client = { broker := b }) {connection : Nat}
    {channel : ManagedChannel} (ran : (openChannel id connection).run w = (.ok channel, w₁)) :
    ∃ b', b.createChannel connection w.plan.settings.transacted = (.ok channel.target, b') ∧
      w₁.client = { broker := b'.collectNotices.2 } ∧ w₁.metrics = w.metrics ∧
      w₁.plan = w.plan ∧ w₁.consumers = w.consumers.modify id fun c =>
        { c with channel := some channel } := by
  unfold openChannel at ran
  rw [run_get_bind] at ran
  obtain ⟨target, w₂, asked, ran⟩ := run_bind_inv ran
  obtain ⟨b', answered, ⟨client', metrics, consumers, plan⟩, -⟩ := request_settled client asked
  rw [run_get_bind, run_modify_bind] at ran
  cases ran
  refine ⟨b', answered, client', metrics, plan, ?_⟩
  unfold updateConsumer
  dsimp only
  rw [consumers]

theorem requestedTag_settled {b : Broker} (client : w.client = { broker := b }) {queue tag : String}
    (ran : (requestedTag queue).run w = (.ok tag, w₁)) : Settled w w₁ b := by
  unfold requestedTag at ran
  rw [run_get_bind] at ran
  split at ran
  next =>
    cases ran
    exact ⟨client, rfl, rfl, rfl⟩
  next =>
    cases ran
    exact ⟨client, rfl, rfl, rfl⟩
  next =>
    rw [run_get_bind, run_modify_bind] at ran
    cases ran
    exact ⟨client, rfl, rfl, rfl⟩

/-- The consumer is registered, and its handoff gets the first deliveries. -/
theorem subscribe_subscribes {b : Broker} (client : w.client = { broker := b })
    {queue requested tag : String} {channel : ManagedChannel}
    (ran : (subscribe id queue requested channel).run w = (.ok tag, w₁)) :
    ∃ b', b.consume channel.target queue requested w.plan.settings.ackMode.unacknowledged id =
        (.ok tag, b') ∧ Settled w w₁ b'.collectNotices.2 ∧
      ∃ h, w₁.handoffs.get? id = some h ∧ h.deliveries = b'.deliveriesFor id := by
  unfold subscribe at ran
  rw [run_get_bind, run_modify_bind] at ran
  obtain ⟨_, w₂, asked, ran⟩ := run_bind_inv ran
  have prepared : ({ w with
      handoffs := w.handoffs.set id { capacity := max w.plan.settings.prefetch 1 } } : World).client =
      { broker := b } := client
  obtain ⟨b', answered, ⟨client', metrics, consumers, plan⟩, handoffs⟩ :=
    request_settled prepared asked
  rw [run_modify_bind] at ran
  cases ran
  have empty : (w.handoffs.set id { capacity := max w.plan.settings.prefetch 1 }).get? id =
      some { capacity := max w.plan.settings.prefetch 1 } := by
    rw [Table.get?_set, if_pos rfl]
  refine ⟨b', answered, ⟨client', metrics, consumers, plan⟩, _, handoffs id _ empty, ?_⟩
  rw [deliveriesFor_eq]
  rfl

theorem publish_frame (w : World) (event : Event) :
    (w.publish event).client = w.client ∧ (w.publish event).metrics = w.metrics ∧
    (w.publish event).plan = w.plan ∧ (w.publish event).handoffs = w.handoffs ∧
    (w.publish event).consumers = w.consumers := by
  unfold publish
  split
  next => exact ⟨rfl, rfl, rfl, rfl, rfl⟩
  next => exact ⟨rfl, rfl, rfl, rfl, rfl⟩

theorem beginSession_frame (w : World) (id run : Nat) (queue : String) (session : Session) :
    (w.beginSession id run queue session).client = w.client ∧
    (w.beginSession id run queue session).metrics = w.metrics ∧
    (w.beginSession id run queue session).plan = w.plan ∧
    (w.beginSession id run queue session).handoffs = w.handoffs ∧
    (w.beginSession id run queue session).consumers = w.consumers.modify id fun c =>
      { c with
        session := some session
        tag := some session.consumerTag
        state := .active
        phase := .receiving none
        lastDelivery := w.now } := by
  exact (w.updateConsumer id _).publish_frame (.consumeOk queue session.consumerTag)

/-- How far an opening has come when the session begins: a desk is open at the broker, the channel is
known, and the first deliveries wait in the handoff. -/
structure Opens (w : World) (id : Nat) (queue : String) (before : Broker) (requested : String)
    (connection : Nat) (channel : ManagedChannel) (inbox : List Delivery) (broker : Broker)
    (w₁ : World) : Prop where
  desk : openDesk w.plan.settings before connection queue requested id =
    (.ok (channel.target, inbox), broker)
  settled : Settled { w with consumers := w.consumers.modify id fun c =>
    { c with channel := some channel } } w₁ broker
  handed : ∃ h, w₁.handoffs.get? id = some h ∧ h.deliveries = inbox

/-- **An opening opens a desk**, at the broker behind the shared connection. -/
theorem openSession_opens {b : Broker} (client : w.client = { broker := b })
    (pushed : w.plan.settings.reception = .push)
    (opened : (openSession id c).run w = (.ok (), w')) :
    ∃ before requested connection channel inbox broker w₁ consumerTag,
      before.consumers = b.consumers ∧ (b.Reachable → before.Reachable) ∧
      Opens w id c.queue before requested connection channel inbox broker w₁ ∧
      w' = w₁.beginSession id c.run c.queue { channel, connection, consumerTag } := by
  unfold openSession at opened
  rw [run_get_bind] at opened
  obtain ⟨connection, w₁, connected, opened⟩ := run_bind_inv opened
  obtain ⟨b₁, settled₁, same₁, reach⟩ := connection_settled client connected
  obtain ⟨channel, w₂, created, opened⟩ := run_bind_inv opened
  obtain ⟨b₂, created, client₂, metrics₂, plan₂, consumers₂⟩ :=
    openChannel_opens settled₁.client created
  obtain ⟨_, w₃, bounded, opened⟩ := run_bind_inv opened
  obtain ⟨b₃, bounded, settled₃, -⟩ := request_settled client₂ bounded
  obtain ⟨requested, w₄, chosen, opened⟩ := run_bind_inv opened
  have settled₄ := requestedTag_settled settled₃.client chosen
  rw [pushed] at opened
  obtain ⟨tag, w₅, subscribed, opened⟩ := run_bind_inv opened
  obtain ⟨b₅, consumed, settled₅, h, handed, delivered⟩ :=
    subscribe_subscribes settled₄.client subscribed
  have plan₄ : w₄.plan = w.plan :=
    settled₄.plan.trans (settled₃.plan.trans (plan₂.trans settled₁.plan))
  rw [settled₁.plan] at created
  rw [plan₄] at consumed
  refine ⟨b₁, requested, connection, channel, b₅.deliveriesFor id, b₅.collectNotices.2, w₅, tag,
    same₁, reach, ?_, ?_⟩
  · constructor
    case desk =>
      unfold openDesk
      rw [created]
      dsimp only
      rw [bounded]
      dsimp only
      rw [pushed]
      dsimp only
      rw [consumed]
    case settled =>
      refine ⟨settled₅.client, ?_, ?_, settled₅.plan.trans plan₄⟩
      · rw [settled₅.metrics, settled₄.metrics, settled₃.metrics, metrics₂, settled₁.metrics]
      · rw [settled₅.consumers, settled₄.consumers, settled₃.consumers, consumers₂,
          settled₁.consumers]
    case handed => exact ⟨h, handed, delivered⟩
  · cases opened
    rfl

/-- **A session that opens begins a shift** of a consumer to which the broker pushes. -/
theorem openSession_hosts {b : Broker} (client : w.client = { broker := b })
    (reachable : b.Reachable)
    (fresh : ∀ tag consumer, b.consumers.get? tag = some consumer → consumer.subscriber ≠ id)
    (known : w.consumers.get? id = some c) (new : c.shownDeferred = 0)
    (auto : w.plan.settings.ackMode = .auto) (pushed : w.plan.settings.reception = .push)
    (opened : (openSession id c).run w = (.ok (), w')) :
    ∃ (e : Engagement) (session : Session), e.settings = w.plan.settings ∧ e.queue = c.queue ∧
      e.subscriber = id ∧ w'.Hosts id session e.post [] e.start := by
  obtain ⟨before, requested, connection, channel, inbox, broker, w₁, consumerTag, same, reach,
    ⟨desk, settled, h, handed, delivered⟩, rfl⟩ := openSession_opens client pushed opened
  let e : Engagement :=
    { before, reachable := reach reachable, settings := w.plan.settings
      connection, queue := c.queue, requested, subscriber := id
      metrics := w.metrics, channel := channel.target, inbox, broker, auto
      fresh := fun tag consumer found => fresh tag consumer (same ▸ found)
      opened := desk }
  obtain ⟨client', metrics', plan', handoffs', consumers'⟩ :=
    w₁.beginSession_frame id c.run c.queue { channel, connection, consumerTag }
  let active : Consumer :=
    { c with
      channel := some channel
      session := some { channel, connection, consumerTag }
      tag := some consumerTag
      state := .active
      phase := .receiving none
      lastDelivery := w₁.now }
  refine ⟨e, { channel, connection, consumerTag }, rfl, rfl, rfl, active, _, h, ?_, rfl, ?_, rfl, ?_, ?_, ?_⟩
  · rw [consumers', settled.consumers, Table.get?_modify_self, Table.get?_modify_self, known]
    rfl
  · rw [handoffs', handed]
  · unfold World.post
    rw [plan', settled.plan]
    rfl
  · unfold World.desk
    rw [client', metrics', settled.client, settled.metrics]
    exact congrArg (fun shown => ({ e.start.desk with shownDeferred := shown } : Desk)) new
  · exact delivered.symm

end QueueListener.World
