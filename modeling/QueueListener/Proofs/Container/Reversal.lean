import QueueListener.Proofs.Broker.Unserved
import QueueListener.Proofs.Container.Handback
import QueueListener.Proofs.Container.Lives
/-!
# The order in which a consumer gives back

**A consumer that is stopped turns the order of its buffer round; one that is ended by force does
not.** The stopped one rejects what is inside of its handoff, one delivery after the other and the
oldest first, and each comes to stand in front of the one before; only then its channel closes, which
brings the rest to the front. By force the channel closes at once, and everything comes back in the
order of its tags.

* `Desk.turnAway_works` — one delivery is turned away;
* `World.Unwinding` — nobody serves the queue any more, and the consumer still has its channel;
* `turnAways_unwind` — all deliveries of a handoff are turned away;
* `Unwinding.flush`, `Unwinding.drain`, `Unwinding.release` — the other steps of its end;
* `World.Backlog` — a consumer that was asked to stop has deliveries that it has not taken up;
* `stop_keeps_order_iff` — when the queue is the same after a stop as after an end by force;
* `stop_turns_round` — two deliveries that change places.
-/

namespace QueueListener

open Broker

/-! ### Lists that are turned round -/

/-- A list with different members that is the same the other way round has one member at most. -/
theorem length_le_one_of_reverse {α : Type} {members : List α} (distinct : members.Nodup)
    (same : members.reverse = members) : members.length ≤ 1 := by
  by_contra! several
  have ends : members[0] = members[members.length - 1] := by
    have first := List.getElem_of_eq same.symm (i := 0) (by omega)
    rw [first, List.getElem_reverse]
    rfl
  have place := (distinct.getElem_inj_iff).mp ends
  omega

/-- A list with different members that is turned round at its front is the same only if nothing is
turned round or there is one member. -/
theorem append_reverse_eq_iff {α : Type} {front back : List α} (distinct : (front ++ back).Nodup) :
    back ++ front.reverse = front ++ back ↔ front = [] ∨ (front ++ back).length ≤ 1 := by
  constructor
  · intro same
    cases front with
    | nil => exact .inl rfl
    | cons first front =>
      cases back with
      | nil =>
        rw [List.nil_append, List.append_nil] at same
        rw [List.append_nil] at distinct ⊢
        exact .inr (length_le_one_of_reverse distinct same)
      | cons last back =>
        -- the first member would occur again
        obtain ⟨rfl, -⟩ := List.cons.inj same
        exact absurd (List.mem_append_right _ List.mem_cons_self) (List.nodup_cons.mp distinct).1
  · rintro (rfl | short)
    · simp
    · match front, back with
      | [], _ => simp
      | [_], [] => rfl
      | [_], _ :: _ | _ :: _ :: _, _ => simp at short

/-! ### One delivery -/

/-- Without a batch, a delivery that is turned away on a plain channel is rejected for another try. -/
theorem Desk.turnAway_works {desk : Desk} {post : Post} {b b₁ : Broker} {tag : Nat}
    (stands : desk.Stands b 0 none) (kept : post.settings.ackMode ≠ .none)
    (plain : post.settings.transacted = false)
    (done : b.acknowledge post.channel ⟨tag, false, .nack true⟩ = (.ok (), b₁)) :
    Works (turnAway post tag) desk () b₁ 0 none := by
  refine (count_works stands _).bind fun counted stands => (get_works stands).bind fun _ stands' => ?_
  rw [situation_of_stopping kept stands.deferred, plain, if_neg nofun]
  exact performNack_works stands' done

namespace World

variable {w w' : World} {id channel : Nat} {queue : String} {c : Consumer} {s : Session}
  {front back entries rest : List Unacked} {ready : List Message}

/-- A consumer gives back at its desk: nobody serves its queue any more, it has no batch, it still has
its channel, and its client has no faults. -/
structure Unwinding (w : World) (id channel : Nat) (queue : String) (entries : List Unacked)
    (ready : List Message) : Prop where
  kept : w.plan.settings.ackMode ≠ .none
  plain : w.plan.settings.transacted = false
  faultless : w.client.faults = []
  seated : ∃ c now, w.consumers.get? id = some c ∧ c.session = some now ∧
    now.channel.target = channel ∧ now.deferred = 0 ∧ now.lastDeferred = none ∧
    c.channel.map (·.target) = some channel
  unserved : w.client.broker.Unserved channel queue entries ready

/-- A client without faults is its broker. -/
theorem client_eq (faultless : w.client.faults = []) : w.client = { broker := w.client.broker } := by
  rw [← faultless]

/-- A channel that is released by a client without faults is closed. -/
theorem releaseChannel_of_faultless (known : w.consumers.get? id = some c)
    (holds : c.channel.map (·.target) = some channel) (faultless : w.client.faults = [])
    (opened : w.client.broker.channelOpen channel = true) :
    ∃ w', w.releaseChannel id = (.ok (), w') ∧
      w'.client.broker = (w.client.broker.closeChannel channel none).collectNotices.2 := by
  obtain ⟨managed, has, rfl⟩ := Option.map_eq_some_iff.mp holds
  have released : managed.release w.client = (.ok (), { managed with released := true },
      { broker := w.client.broker.closeChannel managed.target none }) := by
    unfold ManagedChannel.release ManagedChannel.isOpen Client.close
    rw [opened, if_pos rfl, client_eq faultless, Desk.call_of_faultless]
  unfold releaseChannel
  rw [known, Option.bind_some, has]
  dsimp only
  rw [released]
  refine ⟨_, rfl, ?_⟩
  rw [(deliverNotices_frame _).1]
  rfl

/-- A desk that stands without a batch is put back. -/
theorem Unwinding.putDesk (unwinding : w.Unwinding id channel queue entries ready) {desk : Desk}
    {b : Broker} (stands : desk.Stands b 0 none) {rest : List Unacked} {more : List Message}
    (unserved : b.Unserved channel queue rest more) :
    (w.putDesk id desk).Unwinding id channel queue rest more := by
  obtain ⟨c, now, known, opened, target, -, -, holds⟩ := unwinding.seated
  obtain ⟨client, -, -, plan, -⟩ := (w.withDesk id desk).deliverNotices_frame
  have put : (w.putDesk id desk).client =
      { desk.client with broker := desk.client.broker.collectNotices.2 } := client
  have same : (w.putDesk id desk).plan = w.plan := plan
  refine ⟨same ▸ unwinding.kept, same ▸ unwinding.plain, ?_, ?_, ?_⟩
  · rw [put, stands.client]
  · exact ⟨_, _, putDesk_get? known opened desk, rfl, target, stands.deferred, stands.last, holds⟩
  · rw [put, stands.client]
    exact unserved.collectNotices

/-- **A delivery that is turned away comes to stand in front.** -/
theorem Unwinding.turnAway {entry : Unacked}
    (unwinding : w.Unwinding id channel queue (entry :: rest) ready) (own : entry.queue = queue)
    (others : ∀ later ∈ rest, later.tag ≠ entry.tag) :
    ∃ w', (atDesk id fun post => Desk.turnAway post entry.tag).run w = (.ok (), w') ∧
      w'.Unwinding id channel queue rest (entry.returned :: ready) := by
  obtain ⟨c, now, known, opened, target, none, batch, -⟩ := unwinding.seated
  obtain ⟨b₁, done, unserved⟩ := unwinding.unserved.nack own others
  have stands : (w.desk c now).Stands w.client.broker 0 Option.none :=
    ⟨client_eq unwinding.faultless, none, batch⟩
  have asked : w.client.broker.acknowledge (w.post c now).channel ⟨entry.tag, false, .nack true⟩ =
      (.ok (), b₁) := by
    rw [show (w.post c now).channel = channel from target, done]
  obtain ⟨after, ran, stands'⟩ :=
    Desk.turnAway_works stands unwinding.kept unwinding.plain asked
  refine ⟨w.putDesk id after, ?_, unwinding.putDesk stands' unserved⟩
  rw [atDesk_eq known opened, ran]

/-- **All deliveries that wait are turned away**, and stand the other way round. -/
theorem turnAways_unwind {late : List Delivery}
    (unwinding : w.Unwinding id channel queue (front ++ back) ready)
    (same : late.map (·.tag) = front.map (·.tag)) (own : ∀ entry ∈ front, entry.queue = queue)
    (ascending : ((front ++ back).map (·.tag)).Pairwise (· < ·)) :
    ∃ w', (forIn late PUnit.unit fun delivery _ => do
        atDesk id fun post => Desk.turnAway post delivery.tag
        return ForInStep.yield PUnit.unit : WorldWork PUnit).run w = (.ok PUnit.unit, w') ∧
      w'.Unwinding id channel queue back ((front.map (·.returned)).reverse ++ ready) := by
  induction front generalizing late w ready with
  | nil =>
    obtain rfl := List.map_eq_nil_iff.mp same
    exact ⟨w, rfl, unwinding⟩
  | cons entry front ih =>
    cases late with
    | nil => cases same
    | cons delivery late =>
      obtain ⟨(tag : delivery.tag = entry.tag), same⟩ := List.cons.inj same
      obtain ⟨greater, ascending⟩ := List.pairwise_cons.mp ascending
      obtain ⟨w₁, turned, unwinding₁⟩ := unwinding.turnAway (own entry List.mem_cons_self)
        fun later member => (greater _ (List.mem_map_of_mem member)).ne'
      obtain ⟨w', others, unwinding'⟩ := ih unwinding₁ same
        (fun entry member => own entry (List.mem_cons_of_mem _ member)) ascending
      refine ⟨w', ?_, ?_⟩
      · rw [List.forIn_cons, bind_assoc, tag, run_bind_ok turned]
        exact others
      · rw [List.map_cons, List.reverse_cons, List.append_assoc]
        exact unwinding'

/-- There is no batch to acknowledge, and what is inside of the handoff stays there. -/
theorem Unwinding.flush (unwinding : w.Unwinding id channel queue entries ready) {h : Handoff}
    (handed : w.handoffs.get? id = some h) :
    ∃ w' more, (atDesk id Desk.flush).run w = (.ok (), w') ∧
      w'.Unwinding id channel queue entries ready ∧
        w'.handoffs.get? id = some { h with outside := h.outside ++ more } := by
  obtain ⟨c, now, known, opened, target, none, batch, -⟩ := unwinding.seated
  have idle : (Desk.flush (w.post c now)).run (w.desk c now) = (.ok (), w.desk c now) := by
    unfold Desk.flush
    rw [run_get_bind, show (w.desk c now).lastDeferred = Option.none from batch]
    rfl
  have stands : (w.desk c now).Stands w.client.broker 0 Option.none :=
    ⟨client_eq unwinding.faultless, none, batch⟩
  obtain ⟨-, -, -, handoffs⟩ := w.putDesk_frame id (w.desk c now)
  obtain ⟨more, handed'⟩ := handoffs id h handed
  refine ⟨w.putDesk id (w.desk c now), more, ?_, unwinding.putDesk stands unwinding.unserved, handed'⟩
  rw [atDesk_eq known opened, idle]

/-- What is inside of the handoff is taken out. -/
theorem Unwinding.drain (unwinding : w.Unwinding id channel queue entries ready) {h : Handoff}
    (handed : w.handoffs.get? id = some h) :
    (w.drainHandoff id).1 = h.drain.1 ∧
      (w.drainHandoff id).2.Unwinding id channel queue entries ready := by
  unfold drainHandoff
  rw [handed]
  exact ⟨rfl, unwinding.kept, unwinding.plain, unwinding.faultless, unwinding.seated,
    unwinding.unserved⟩

/-- **The channel closes**, and what is left comes to stand in front, in its order. -/
theorem Unwinding.release (unwinding : w.Unwinding id channel queue entries ready)
    (own : ∀ entry ∈ entries, entry.queue = queue) :
    ∃ w', w.releaseChannel id = (.ok (), w') ∧
      w'.client.broker.shelf queue = entries.map (·.returned) ++ ready := by
  obtain ⟨c, _, known, -, -, -, -, holds⟩ := unwinding.seated
  obtain ⟨record, opened, -⟩ := unwinding.unserved.opened
  obtain ⟨w', released, broker⟩ := releaseChannel_of_faultless known holds unwinding.faultless
    (channelOpen_of_openChannel? opened)
  refine ⟨w', released, ?_⟩
  rw [broker]
  show (w.client.broker.closeChannel channel Option.none).shelf queue = _
  rw [unwinding.unserved.close, backTo_of_own own]

/-! ### The end of the session -/

/-- A consumer that was asked to stop is ready to receive, and has deliveries that it has not taken
up: those of `front` inside of its handoff, those of `back` behind. It acknowledges by itself on a plain
channel, has no batch, and is the only consumer of its queue. -/
structure Backlog (w : World) (id : Nat) (c : Consumer) (s : Session) (front back : List Unacked)
    (ready : List Message) : Prop where
  pushes : w.plan.settings.reception = .push
  auto : w.plan.settings.ackMode = .auto
  plain : w.plan.settings.transacted = false
  faultless : w.client.faults = []
  known : w.consumers.get? id = some c
  opened : c.session = some s
  holds : c.channel.map (·.target) = some s.channel.target
  receives : ∃ deadline, c.phase = .receiving deadline
  asked : c.stopRequested = true
  batch : s.deferred = 0 ∧ s.lastDeferred = none
  served : w.client.broker.Served s.channel.target c.queue s.consumerTag (front ++ back) ready
  own : ∀ entry ∈ front ++ back, entry.queue = c.queue
  ascending : ((front ++ back).map (·.tag)).Pairwise (· < ·)
  /-- The messages are different ones. -/
  distinct : ((front ++ back).map (·.message.serial)).Nodup
  handed : ∃ h, w.handoffs.get? id = some h ∧ h.drain.1.map (·.tag) = front.map (·.tag)

/-- The subscription is cancelled, and nobody serves the queue any more. -/
theorem Backlog.cancelled (backlog : w.Backlog id c s front back ready) :
    ((w.updateConsumer id fun c => { c with state := .cancelling }).cancelSubscription s).Unwinding id
        s.channel.target c.queue (front ++ back) ready ∧
      ∃ (h : Handoff) (more : List Notice), h.drain.1.map (·.tag) = front.map (·.tag) ∧
        ((w.updateConsumer id fun c =>
          { c with state := .cancelling }).cancelSubscription s).handoffs.get? id =
            some { h with outside := h.outside ++ more } := by
  obtain ⟨h, handed, inside⟩ := backlog.handed
  obtain ⟨-, unserved⟩ := backlog.served.cancel
  have known : (w.updateConsumer id fun c => { c with state := .cancelling }).consumers.get? id =
      some { c with state := .cancelling } :=
    (Table.get?_modify_self _ _ _).trans (by rw [backlog.known]; rfl)
  have pushes : (w.updateConsumer id fun c =>
      { c with state := .cancelling }).plan.settings.reception = .push := backlog.pushes
  have client : (w.updateConsumer id fun c => { c with state := .cancelling }).client =
      { broker := w.client.broker } := client_eq backlog.faultless
  unfold cancelSubscription
  rw [pushes, client, Desk.call_of_faultless]
  dsimp only
  obtain ⟨client, -, consumers, plan, handoffs⟩ := World.deliverNotices_frame
    { w.updateConsumer id fun c => { c with state := .cancelling } with
      client := { broker := (w.client.broker.cancel s.channel.target s.consumerTag).2 } }
  refine ⟨⟨?_, ?_, ?_, ?_, ?_⟩, h, _, inside, handoffs id h handed⟩
  · rw [plan]
    show w.plan.settings.ackMode ≠ .none
    rw [backlog.auto]
    nofun
  · rw [plan]
    exact backlog.plain
  · rw [client]
  · rw [consumers]
    exact ⟨_, s, known, backlog.opened, rfl, backlog.batch.1, backlog.batch.2, backlog.holds⟩
  · rw [client]
    exact unserved.collectNotices

/-- **The closing of a session gives the buffer back the other way round**: what is inside of the handoff
last to first, and what is behind in front of it. -/
theorem Backlog.closes (backlog : w.Backlog id c s front back ready) :
    ∃ w', (closeSession id s).run w = (.ok (), w') ∧
      w'.client.broker.shelf c.queue =
        back.map (·.returned) ++ ((front.map (·.returned)).reverse ++ ready) := by
  obtain ⟨cancelled, h, more, inside, handed⟩ := backlog.cancelled
  obtain ⟨w₁, more', flushed, unwinding₁, handed₁⟩ := cancelled.flush handed
  obtain ⟨taken, drained⟩ := unwinding₁.drain handed₁
  have waits : (w₁.drainHandoff id).1.map (·.tag) = front.map (·.tag) := by
    rw [taken]
    exact inside
  obtain ⟨w₂, turned, unwinding₂⟩ := turnAways_unwind drained waits
    (fun entry member => backlog.own entry (List.mem_append_left _ member)) backlog.ascending
  obtain ⟨w', released, shelf⟩ := unwinding₂.release fun entry member =>
    backlog.own entry (List.mem_append_right _ member)
  refine ⟨w', ?_, shelf⟩
  have drains : (modifyGet fun w : World => w.drainHandoff id : WorldWork (List Delivery)).run w₁ =
      (.ok (w₁.drainHandoff id).1, (w₁.drainHandoff id).2) := rfl
  unfold closeSession
  rw [run_modify_bind, run_bind_ok flushed, run_bind_ok drains, run_bind_ok turned]
  exact released

/-- The consumer closes its session in its turn. -/
theorem Backlog.closing (backlog : w.Backlog id c s front back ready) :
    (w.closing id).Backlog id c s front back ready :=
  ⟨backlog.pushes, backlog.auto, backlog.plain, backlog.faultless, backlog.known, backlog.opened,
    backlog.holds, backlog.receives, backlog.asked, backlog.batch, backlog.served, backlog.own,
    backlog.ascending, backlog.distinct, backlog.handed⟩

/-- **By force everything comes back in the order of its tags.** -/
theorem Backlog.forced (backlog : w.Backlog id c s front back ready) :
    (w.forceClose id).client.broker.shelf c.queue =
      (front ++ back).map (·.returned) ++ ready := by
  obtain ⟨record, isOpen, -⟩ := backlog.served.opened
  obtain ⟨w', released, broker⟩ := releaseChannel_of_faultless backlog.known backlog.holds
    backlog.faultless (channelOpen_of_openChannel? isOpen)
  rw [forceClose_client, released, broker]
  show (w.client.broker.closeChannel s.channel.target none).shelf c.queue = _
  rw [backlog.served.close, backTo_of_own backlog.own]

/-! ### A stop, and an end by force -/

/-- **A stop keeps the order of the buffer only if there is nothing to turn round.** For every consumer
that acknowledges by itself on a plain channel, gets its deliveries pushed, and has been asked to stop
while any number of deliveries was buffered: after the stop those that were inside of its handoff stand in
the queue last to first, with those behind in front of them, all as redelivered and in front of what
waited; when it is ended by force instead, all stand in the order of their tags. So the queue is the same
only if the handoff was empty, or a single delivery was buffered. -/
theorem stop_keeps_order_iff (backlog : w.Backlog id c s front back ready) :
    let stopped := w.follow (.turn (.consumer id))
    let forced := w.forceClose id
    stopped.isFinished id = true ∧
      stopped.client.broker.shelf c.queue =
        back.map (·.returned) ++ ((front.map (·.returned)).reverse ++ ready) ∧
      forced.client.broker.shelf c.queue = (front ++ back).map (·.returned) ++ ready ∧
      (stopped.client.broker.shelf c.queue = forced.client.broker.shelf c.queue ↔
        front = [] ∨ (front ++ back).length ≤ 1) := by
  obtain ⟨deadline, receives⟩ := backlog.receives
  obtain ⟨w', closed, shelf⟩ := backlog.closing.closes
  obtain ⟨finished, client, -⟩ :=
    follow_closes backlog.known backlog.opened receives backlog.asked closed
  have forced := backlog.forced
  have distinct : (front.map (·.returned) ++ back.map (·.returned)).Nodup := by
    rw [← List.map_append]
    refine List.Nodup.of_map (·.serial) ?_
    rw [List.map_map]
    exact backlog.distinct
  dsimp only
  rw [client, forced, shelf, List.map_append]
  refine ⟨finished, rfl, rfl, ?_⟩
  rw [← List.append_assoc, List.append_left_inj, append_reverse_eq_iff distinct, List.map_eq_nil_iff,
    List.length_append, List.length_map, List.length_map, List.length_append]

/-- Whatever moves are made, the broker stays coherent. -/
theorem followAll_coherent (plan : Plan) (moves : List Move) :
    ((World.new plan {}).followAll moves).client.broker.Coherent := by
  have both : ∀ w : World, w.Sound → w.client.broker.Coherent →
      (w.followAll moves).client.broker.Coherent := by
    induction moves with
    | nil => exact fun _ _ coherent => coherent
    | cons move moves ih =>
      exact fun w sound coherent =>
        ih (w.follow move) (sound.follow move) ((sound.follow_lasts move).broker coherent).1
  exact both _ (new_sound plan {}) coherent_empty

/-- A consumer that was asked to stop has two deliveries in its handoff. -/
def twoBuffered : World :=
  (World.new oneQueue {}).followAll (stopWhileBusy ++ .turn (.feed 1) :: listenerDone)

/-- The two deliveries. -/
def bothBuffered : List Unacked :=
  [⟨2, "orders", 2, "second".toUTF8, {}, false⟩, ⟨3, "orders", 3, "third".toUTF8, {}, false⟩]

/-- The consumer serves its queue alone. -/
theorem twoBuffered_served :
    twoBuffered.client.broker.Served 2 "orders" "orders#1" bothBuffered [] := by
  have consumers : twoBuffered.client.broker.consumers =
      ⟨[("orders#1", ⟨"orders", 2, false, 1⟩)]⟩ := by decide +kernel
  have held : twoBuffered.client.broker.consumers.get? "orders#1" =
      some ⟨"orders", 2, false, 1⟩ := by decide +kernel
  have opened : (twoBuffered.client.broker.openChannel? 2).map (fun record =>
      (record.transactional, record.unacked)) = some (false, bothBuffered) := by decide +kernel
  have waiting : (twoBuffered.client.broker.queues.get? "orders").map (·.ready) = some [] := by
    decide +kernel
  have coherent : twoBuffered.client.broker.Coherent := by
    unfold twoBuffered
    exact followAll_coherent _ _
  obtain ⟨record, isOpen, both⟩ := Option.map_eq_some_iff.mp opened
  obtain ⟨plain, unacked⟩ := Prod.mk.inj both
  obtain ⟨line, found, empty⟩ := Option.map_eq_some_iff.mp waiting
  refine ⟨coherent.registered, ⟨record, isOpen, plain, unacked⟩, ⟨_, held, rfl, rfl⟩,
    fun tag consumer registered _ => ?_, ⟨line, found, empty⟩⟩
  have entry := Table.mem_entries_of_get? registered
  rw [consumers] at entry
  exact (Prod.mk.inj (List.mem_singleton.mp entry)).1

theorem stop_keeps_order_iff_twoBuffered :
    ∃ c s, twoBuffered.Backlog 1 c s bothBuffered [] [] ∧
      (twoBuffered.follow (.turn (.consumer 1))).client.broker.shelf c.queue =
        (bothBuffered.map (·.returned)).reverse ∧
      (twoBuffered.forceClose 1).client.broker.shelf c.queue = bothBuffered.map (·.returned) := by
  have leaving : (twoBuffered.consumers.get? 1).map (fun c =>
      (c.queue, c.phase, c.stopRequested)) = some ("orders", .receiving none, true) := by
    decide +kernel
  have session : ((twoBuffered.consumers.get? 1).bind fun c => c.session.map fun s =>
      (s.channel.target, s.consumerTag, c.channel.map (·.target), s.deferred, s.lastDeferred)) =
        some (2, "orders#1", some 2, 0, none) := by decide +kernel
  have inside : (twoBuffered.handoffs.get? 1).map (fun h => h.drain.1.map (·.tag)) =
      some (bothBuffered.map (·.tag)) := by decide +kernel
  obtain ⟨c, known, leaving⟩ := Option.map_eq_some_iff.mp leaving
  rw [known, Option.bind_some] at session
  obtain ⟨s, opened, session⟩ := Option.map_eq_some_iff.mp session
  simp only [Prod.mk.injEq] at leaving session
  obtain ⟨queue, phase, asked⟩ := leaving
  obtain ⟨target, tag, holds, empty, last⟩ := session
  obtain ⟨h, handed, tags⟩ := Option.map_eq_some_iff.mp inside
  have backlog : twoBuffered.Backlog 1 c s bothBuffered [] [] :=
    { pushes := by decide +kernel
      auto := by decide +kernel
      plain := by decide +kernel
      faultless := by decide +kernel
      known
      opened
      holds := target ▸ holds
      receives := ⟨none, phase⟩
      asked
      batch := ⟨empty, last⟩
      served := by
        rw [queue, target, tag]
        exact twoBuffered_served
      own := by
        rw [queue]
        decide
      ascending := by decide
      distinct := by decide
      handed := ⟨h, handed, tags⟩ }
  obtain ⟨-, stopped, forced, -⟩ := stop_keeps_order_iff backlog
  rw [List.map_nil, List.nil_append, List.append_nil] at stopped
  rw [List.append_nil, List.append_nil] at forced
  exact ⟨c, s, backlog, stopped, forced⟩

/-- **Two deliveries change places** when the consumer stops. -/
theorem stop_turns_round :
    ((twoBuffered.follow (.turn (.consumer 1))).client.broker.shelf "orders").map (·.serial) =
        [3, 2] ∧
      ((twoBuffered.forceClose 1).client.broker.shelf "orders").map (·.serial) = [2, 3] := by
  decide +kernel

end World

end QueueListener
