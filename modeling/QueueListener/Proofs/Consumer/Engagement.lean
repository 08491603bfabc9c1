import QueueListener.Proofs.Broker.Conservation
import QueueListener.Proofs.Consumer.Shift
/-!
# The beginning of a shift

**A consumer begins with a new channel at any broker that can be reached**, as the session of a
consumer is opened: a channel, its prefetch, and for pushed messages a registration.

* `Broker.Reachable` — the brokers that operations lead to;
* `openDesk` — the operations at the broker that open a desk;
* `Engagement` — a consumer of the mode `auto` that opens its desk at a reachable broker;
* `Engagement.start_sound` — its shift begins in order.
-/

namespace QueueListener

open Broker

/-- The brokers that operations lead to; in between somebody takes the notices. -/
inductive Broker.Reachable : Broker → Prop
  | empty : Reachable {}
  | step {b : Broker} (reached : Reachable b) (op : Broker.Op) : Reachable (b.step op).2
  | collect {b : Broker} (reached : Reachable b) : Reachable b.collectNotices.2

/-- Opens a desk: a channel of the kind that the settings ask for, its prefetch, and a registration
unless the consumer polls. The notices are taken after every operation; those of the registration
bring the first deliveries. -/
def openDesk (settings : Settings) (b : Broker) (connection : Nat) (queue requested : String)
    (subscriber : Nat) : Except ClientError (Nat × List Delivery) × Broker :=
  match b.createChannel connection settings.transacted with
  | (.error error, b) => (.error error, b)
  | (.ok channel, b) =>
    match b.collectNotices.2.setPrefetch channel settings.prefetch with
    | (.error error, b) => (.error error, b)
    | (.ok (), b) =>
      match settings.reception with
      | .poll _ => (.ok (channel, []), b.collectNotices.2)
      | .push =>
        match b.collectNotices.2.consume channel queue requested settings.ackMode.unacknowledged
            subscriber with
        | (.error error, b) => (.error error, b)
        | (.ok _, b) => (.ok (channel, b.deliveriesFor subscriber), b.collectNotices.2)

/-- A consumer of the mode `auto` that opens its desk at a reachable broker, to which its number as
a subscriber is new. -/
structure Engagement where
  before : Broker
  reachable : before.Reachable
  settings : Settings
  connection : Nat
  queue : String
  requested : String
  subscriber : Nat
  metrics : Metrics
  channel : Nat
  /-- The first deliveries. -/
  inbox : List Delivery
  broker : Broker
  auto : settings.ackMode = .auto
  fresh : ∀ tag consumer, before.consumers.get? tag = some consumer →
    consumer.subscriber ≠ subscriber
  opened : openDesk settings before connection queue requested subscriber =
    (.ok (channel, inbox), broker)

namespace Engagement

/-- Where the consumer sits. -/
def seat (e : Engagement) : Seat := ⟨e.connection, e.channel, e.subscriber⟩

/-- What stays the same for the consumer. -/
def post (e : Engagement) : Post := ⟨e.settings, e.queue, e.channel⟩

/-- The shift at its beginning. -/
def start (e : Engagement) : Shift where
  desk := { client := { broker := e.broker }, metrics := e.metrics }
  inbox := e.inbox

end Engagement

/-! ### A broker before the consumer -/

theorem Broker.Reachable.run {b : Broker} (reachable : b.Reachable) (ops : List Broker.Op) :
    (b.run ops).Reachable :=
  List.foldlRecOn (motive := Broker.Reachable) ops _ reachable
    fun _ reached op _ => reached.step op

theorem Broker.Tidy.collect {b : Broker} (tidy : b.Tidy) : b.collectNotices.2.Tidy :=
  ⟨tidy.queues, tidy.channels, tidy.numbered⟩

/-- **At a reachable broker everything is in order**, and the consumers are on channels that it has
numbered. -/
theorem Broker.Reachable.tidy {b : Broker} (reachable : b.Reachable) :
    b.Tidy ∧ ∀ tag consumer, b.consumers.get? tag = some consumer → consumer.channel ≤ b.lastId := by
  induction reachable with
  | empty => exact ⟨tidy_empty, fun _ _ found => by cases found⟩
  | collect _ ih => exact ⟨ih.1.collect, ih.2⟩
  | step _ op ih =>
    obtain ⟨tidy, numbered⟩ := ih
    have accounts := step_accounts tidy op
    refine ⟨accounts.tidy, fun tag consumer found => ?_⟩
    rcases accounts.consumers tag consumer found with old | ⟨opened, requested, rfl⟩
    · exact (numbered tag consumer old).trans accounts.lastId
    · obtain ⟨record, opened⟩ := exists_openChannel? opened
      have member := Table.mem_keys_of_get? (get?_of_openChannel? opened)
      exact (tidy.numbered _ member).trans accounts.lastId

/-- A new channel has the next number, is open and empty. -/
theorem createChannel_ok {b b' : Broker} {connection channel : Nat} {transactional : Bool}
    (created : b.createChannel connection transactional = (.ok channel, b')) :
    channel = b.lastId + 1 ∧ b'.consumers = b.consumers ∧ b'.notices = b.notices ∧
      ∃ number, b'.openChannel? channel =
        some { connection, number, isOpen := true, transactional } := by
  unfold createChannel at created
  split at created
  next record _ =>
    split at created
    next =>
      cases created
      refine ⟨rfl, rfl, rfl, (record.channels + 1).toNat, openChannel?_eq_some_iff.mpr ⟨?_, rfl⟩⟩
      show (b.channels.set _ _).get? _ = _
      rw [Table.get?_set, if_pos rfl]
    next => cases created
  next => cases created

/-- A prefetch lets nothing in without a consumer. -/
theorem setPrefetch_of_vacant {seat : Seat} {b : Broker} {record : ChannelRecord}
    (vacant : seat.Vacant b) (opened : b.openChannel? seat.channel = some record)
    (prefetch : Nat) :
    ∃ b', b.setPrefetch seat.channel prefetch = (.ok (), b') ∧ b'.consumers = b.consumers ∧
      b'.openChannel? seat.channel = some { record with prefetch } := by
  have isOpen : record.isOpen = true := isOpen_of_openChannel? opened
  have bounded := openChannel?_updateChannel opened (fun record => { record with prefetch }) isOpen
  have vacant' : seat.Vacant (b.updateChannel seat.channel fun record =>
    { record with prefetch }) := vacant
  obtain ⟨consumers, channel⟩ := Seat.dispatchAll_of_vacant vacant'
  refine ⟨_, ?_, consumers, channel.trans bounded⟩
  unfold setPrefetch
  rw [if_pos (channelOpen_of_openChannel? opened)]

/-- The registration of the consumer lets deliveries in. -/
theorem consume_reaches_own {seat : Seat} {b b' : Broker} {record : ChannelRecord}
    (owns : seat.Owns b) (opened : b.openChannel? seat.channel = some record)
    {queue requested tag : String}
    (consumed : b.consume seat.channel queue requested false seat.subscriber = (.ok tag, b')) :
    ∃ more, seat.Reaches b record b' more ∧ seat.Owns b' := by
  rcases b.consume_cases seat.channel queue requested false seat.subscriber with
    ⟨_, refused⟩ | ⟨_, _, refused⟩ | ⟨tag, generated, -, -, -, enrolled⟩
  · rw [refused] at consumed
    cases consumed
  · rw [refused] at consumed
    cases consumed
  · rw [enrolled] at consumed
    cases consumed
    have owns' : seat.Owns ((b.enroll generated tag
        ⟨queue, seat.channel, false, seat.subscriber⟩).record seat.channel
          (.consume queue tag)) := by
      intro another consumer registered
      have registered' : (b.consumers.set tag
        ⟨queue, seat.channel, false, seat.subscriber⟩).get? another = some consumer := registered
      rw [Table.get?_set] at registered'
      split at registered'
      next =>
        obtain rfl := Option.some.inj registered'
        exact ⟨⟨fun _ => rfl, fun _ => rfl⟩, fun _ => rfl⟩
      next => exact owns another consumer registered'
    have same : ((b.enroll generated tag ⟨queue, seat.channel, false, seat.subscriber⟩).record
        seat.channel (.consume queue tag)).openChannel? seat.channel = some record := opened
    have grown := Seat.dispatch_grows owns' queue
    obtain ⟨more, reaches⟩ := grown.reaches record same
    exact ⟨more, ⟨reaches.opened, reaches.numbered, reaches.told⟩, grown.owns owns'⟩

namespace Engagement

variable (e : Engagement)

/-- The new channel, before anything is delivered to it. -/
def emptyChannel (number : Nat) : ChannelRecord where
  connection := e.connection
  number := number
  isOpen := true
  transactional := e.settings.transacted
  prefetch := e.settings.prefetch

/-- The opened desk has a new channel, to which the broker has delivered what came with the
registration. -/
theorem opened_reaches :
    ∃ number more b, e.seat.Reaches {} (e.emptyChannel number) b more ∧
      e.broker = b.collectNotices.2 ∧ e.inbox = b.deliveriesFor e.subscriber ∧
      e.seat.Owns b ∧ b.Tidy := by
  have opened := e.opened
  unfold openDesk at opened
  split at opened
  next => cases opened
  next channel b₁ created =>
    obtain ⟨tidy, numbered⟩ := e.reachable.tidy
    obtain ⟨next, consumers, -, number, isOpen⟩ := createChannel_ok created
    let seat : Seat := ⟨e.connection, channel, e.subscriber⟩
    have tidy₁ : b₁.collectNotices.2.Tidy := by
      have accounts := createChannel_accounts tidy e.connection e.settings.transacted
      rw [created] at accounts
      exact accounts.tidy.collect
    have vacant : seat.Vacant b₁.collectNotices.2 := by
      intro tag consumer found
      have old : e.before.consumers.get? tag = some consumer := consumers ▸ found
      refine ⟨?_, e.fresh tag consumer old⟩
      show consumer.channel ≠ channel
      rw [next]
      exact Nat.ne_of_lt (Nat.lt_succ_of_le (numbered tag consumer old))
    obtain ⟨b₂, bounded, consumers₂, channel₂⟩ :=
      setPrefetch_of_vacant vacant isOpen e.settings.prefetch
    have tidy₂ : b₂.Tidy := by
      have accounts := setPrefetch_accounts tidy₁ channel e.settings.prefetch
      rw [bounded] at accounts
      exact accounts.tidy
    have vacant₂ : seat.Vacant b₂.collectNotices.2 := fun tag consumer found =>
      vacant tag consumer (consumers₂ ▸ found)
    rw [bounded] at opened
    dsimp only at opened
    split at opened
    next =>
      obtain ⟨desk, broker⟩ := Prod.mk.inj opened
      obtain ⟨rfl, inbox⟩ := Prod.mk.inj (Except.ok.inj desk)
      exact ⟨number, [], b₂.collectNotices.2,
        ⟨(ChannelRecord.extend_nil _).symm ▸ channel₂, rfl, [], rfl, rfl⟩, broker.symm, inbox.symm,
        vacant₂.owns, tidy₂.collect⟩
    next =>
      split at opened
      next => cases opened
      next tag b₃ consumed =>
        have unacknowledged : e.settings.ackMode.unacknowledged = false := by rw [e.auto]; rfl
        have tidy₃ : b₃.Tidy := by
          have accounts := consume_accounts tidy₂.collect channel e.queue e.requested
            e.settings.ackMode.unacknowledged e.subscriber
          rw [consumed] at accounts
          exact accounts.tidy
        rw [unacknowledged] at consumed
        obtain ⟨more, reaches, owns⟩ := consume_reaches_own vacant₂.owns channel₂ consumed
        obtain ⟨desk, broker⟩ := Prod.mk.inj opened
        obtain ⟨rfl, inbox⟩ := Prod.mk.inj (Except.ok.inj desk)
        exact ⟨number, more, b₃, ⟨reaches.opened, reaches.numbered, reaches.told⟩, broker.symm,
          inbox.symm, owns, tidy₃⟩

/-- **A shift begins in order**: nothing is processed, and what is unsettled is in front of the
desk. -/
theorem start_sound : ∃ record rest, Shift.Sound e.seat e.post e.start record [] rest [] := by
  obtain ⟨number, more, b, reaches, broker, inbox, owns, tidy⟩ := e.opened_reaches
  obtain ⟨new, told, tags⟩ := reaches.told
  have ordered : ((e.emptyChannel number).extend more).Ordered :=
    ChannelRecord.Ordered.extend
      ⟨List.Pairwise.nil, fun _ member => absurd member List.not_mem_nil⟩ (List.Sublist.refl _)
      reaches.numbered
  have keeps : e.seat.Keeps e.post b ((e.emptyChannel number).extend more) [] more :=
    ⟨reaches.opened, rfl, rfl, rfl, rfl, ordered, owns, tidy⟩
  have delivered : b.deliveriesFor e.subscriber = new := told
  refine ⟨(e.emptyChannel number).extend more, more, ⟨⟨rfl, rfl, rfl⟩, ?_, ?_, ?_, rfl,
    rfl, ordered.ascending, fun _ member => absurd member List.not_mem_nil, ?_, fun _ => rfl⟩⟩
  · show e.seat.Keeps e.post e.broker _ _ _
    rw [broker]
    exact Shift.keeps_collect keeps
  · show e.broker.deliveriesFor e.subscriber = []
    rw [broker]
    rfl
  · show e.inbox.map (·.tag) = _
    rw [inbox, delivered, tags]
  · exact Nat.lt_of_lt_of_le Nat.one_pos (le_max_right _ _)

/-! ### A small engagement -/

/-- Operations that leave a queue with three messages. -/
def threeOrders : List Broker.Op :=
  [.connect, .declare "orders", .publish "orders" ⟨#[1]⟩ {}, .publish "orders" ⟨#[2]⟩ {},
    .publish "orders" ⟨#[3]⟩ {}]

/-- The broker after them. -/
def threeWaiting : Broker := Broker.run {} threeOrders

theorem threeWaiting_consumers : threeWaiting.consumers = .empty := by decide +kernel

/-- The first deliveries of a consumer that opens its desk there. -/
def threeDelivered : List Delivery :=
  [1, 2, 3].map fun number =>
    { queue := "orders", tag := number, consumerTag := "worker"
      payload := ⟨#[UInt8.ofNat number]⟩, redelivered := false, properties := {} }

theorem threeWaiting_opened (transacted : Bool) :
    (openDesk { transacted, batchSize := 3 } threeWaiting 1 "orders" "worker" 0).1 =
      .ok (2, threeDelivered) := by
  revert transacted
  decide +kernel

/-- A consumer that acknowledges three successes together, at a queue with three messages. -/
def atThree (transacted : Bool) : Engagement where
  before := threeWaiting
  reachable := Broker.Reachable.run .empty threeOrders
  settings := { transacted, batchSize := 3 }
  connection := 1
  queue := "orders"
  requested := "worker"
  subscriber := 0
  metrics := {}
  channel := 2
  inbox := threeDelivered
  broker := (openDesk { transacted, batchSize := 3 } threeWaiting 1 "orders" "worker" 0).2
  auto := rfl
  fresh := fun _ _ found => by cases threeWaiting_consumers ▸ found
  opened := Prod.fst_eq_iff.mp (threeWaiting_opened transacted)

/-- A run of it. -/
def runAtThree (transacted : Bool) (events : List ShiftEvent) : Except ClientError Shift :=
  (atThree transacted).start.run (atThree transacted).seat (atThree transacted).post events

/-- What is seen at the end of a run that succeeds. -/
theorem exists_of_seen {ε σ α : Type} {ended : Except ε σ} {view : σ → α} {seen : α}
    (ran : ended.toOption.map view = some seen) : ∃ s, ended = .ok s ∧ view s = seen := by
  obtain ⟨s, reached, same⟩ := Option.map_eq_some_iff.mp ran
  refine ⟨s, ?_, same⟩
  cases ended with
  | error error => cases reached
  | ok s' =>
    cases reached
    rfl

theorem exists_of_runAtThree {transacted : Bool} {events : List ShiftEvent} {α : Type}
    {view : Shift → α} {seen : α}
    (ran : (runAtThree transacted events).toOption.map view = some seen) :
    ∃ s, (atThree transacted).start.run (atThree transacted).seat (atThree transacted).post events =
      .ok s ∧ view s = seen := exists_of_seen ran

end Engagement

end QueueListener
