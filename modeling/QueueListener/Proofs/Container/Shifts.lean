import QueueListener.Proofs.Consumer.Shift
/-!
# The shifts of a container's consumers

**What a consumer of a container does in its session are the events of a shift**, as far as the
broker pushes to it: the deliveries in front of the desk are those that it has taken out of its
handoff and those that wait there.

* `World.Hosts` — a consumer in its session works a shift;
* `deliverNotices_hosts` — what the broker has pushed comes in front of the desk;
* `atDesk_hosts` — work at the desk of the container is work of the shift;
* `elsewhere_hosts`, `counted_hosts`, `feed_deliveries` — what others do;
* `takeParcel_hosts`, `settle_hosts`, `turnAway_hosts`, `flush_hosts` — the next delivery, the answer
  of the listener to it, a delivery that comes too late, an idle cycle;
* `closeSession_hosts` — the end of the session.
-/

namespace QueueListener

/-- The deliveries that a handoff holds, oldest first. -/
def Handoff.deliveries (h : Handoff) : List Delivery :=
  h.drain.1 ++ h.outside.filterMap fun
    | .delivered delivery => some delivery
    | _ => none

namespace World

/-- A consumer in its session works a shift; `taken` is what it has taken out of its handoff. -/
def Hosts (w : World) (id : Nat) (session : Session) (post : Post) (taken : List Delivery)
    (s : Shift) : Prop :=
  ∃ c now h, w.consumers.get? id = some c ∧ c.session = some now ∧
    w.handoffs.get? id = some h ∧
    now = { session with deferred := s.desk.deferred, lastDeferred := s.desk.lastDeferred } ∧
    w.post c now = post ∧ w.desk c now = s.desk ∧ s.inbox = taken ++ h.deliveries

/-- Notices go to the handoffs and change nothing else that a consumer sees. -/
theorem foldl_deliverNotice (notices : List (Nat × Notice)) (w : World) :
    (notices.foldl deliverNotice w).client = w.client ∧
    (notices.foldl deliverNotice w).metrics = w.metrics ∧
    (notices.foldl deliverNotice w).consumers = w.consumers ∧
    (notices.foldl deliverNotice w).plan = w.plan ∧
    ∀ id h, w.handoffs.get? id = some h → (notices.foldl deliverNotice w).handoffs.get? id =
      some { h with outside := h.outside ++ (notices.filter (·.1 = id)).map (·.2) } := by
  induction notices generalizing w with
  | nil => exact ⟨rfl, rfl, rfl, rfl, fun id h found => by simpa using found⟩
  | cons notice notices ih =>
    obtain ⟨client, metrics, consumers, plan, handoffs⟩ := ih (w.deliverNotice notice)
    have frame : (w.deliverNotice notice).client = w.client ∧
        (w.deliverNotice notice).metrics = w.metrics ∧
        (w.deliverNotice notice).consumers = w.consumers ∧
        (w.deliverNotice notice).plan = w.plan := by
      unfold deliverNotice
      split
      next => exact ⟨rfl, rfl, rfl, rfl⟩
      next => exact ⟨rfl, rfl, rfl, rfl⟩
    refine ⟨client.trans frame.1, metrics.trans frame.2.1, consumers.trans frame.2.2.1,
      plan.trans frame.2.2.2, fun id h found => ?_⟩
    have first : (w.deliverNotice notice).handoffs.get? id = some
        { h with outside := h.outside ++ ([notice].filter (·.1 = id)).map (·.2) } := by
      unfold deliverNotice
      by_cases mine : notice.1 = id
      · subst mine
        rw [if_pos (Table.contains_of_get? found)]
        show (w.handoffs.modify notice.1 _).get? notice.1 = _
        rw [Table.get?_modify_self, found]
        simp
      · have others : ([notice].filter (·.1 = id)).map (·.2) = ([] : List Notice) := by simp [mine]
        rw [others, List.append_nil]
        split
        next =>
          show (w.handoffs.modify notice.1 _).get? id = _
          rw [Table.get?_modify_of_ne _ _ (Ne.symm mine), found]
        next => exact found
    rw [List.foldl_cons, handoffs id _ first]
    show some { h with outside := (h.outside ++ _) ++ _ } = some { h with outside := h.outside ++ _ }
    rw [List.append_assoc, ← List.map_append, ← List.filter_append]
    rfl

/-- The notices of the broker are taken, and go to the handoffs of their subscribers. -/
theorem deliverNotices_frame (w : World) :
    w.deliverNotices.client = { w.client with broker := w.client.broker.collectNotices.2 } ∧
    w.deliverNotices.metrics = w.metrics ∧ w.deliverNotices.consumers = w.consumers ∧
    w.deliverNotices.plan = w.plan ∧
    ∀ id h, w.handoffs.get? id = some h → w.deliverNotices.handoffs.get? id =
      some { h with outside := h.outside ++
        (w.client.broker.notices.toList.filter (·.1 = id)).map (·.2) } := by
  have whole : w.deliverNotices = w.client.broker.notices.toList.foldl deliverNotice
      { w with client := { w.client with broker := w.client.broker.collectNotices.2 } } := by
    unfold deliverNotices Broker.collectNotices
    dsimp only
    rw [Array.foldl_toList]
  rw [whole]
  exact foldl_deliverNotice _ _

variable {w w' : World} {id : Nat} {session : Session} {post : Post} {taken : List Delivery}
  {s s' : Shift}

/-- What was noted of a shift does not matter. -/
theorem Hosts.congr (hosts : w.Hosts id session post taken s) (desk : s'.desk = s.desk)
    (inbox : s'.inbox = s.inbox) : w.Hosts id session post taken s' := by
  unfold Hosts
  rw [desk, inbox]
  exact hosts

theorem Hosts.client (hosts : w.Hosts id session post taken s) : w.client = s.desk.client := by
  obtain ⟨_, _, _, -, -, -, -, -, desk, -⟩ := hosts
  rw [← desk]
  rfl

/-- Another broker behind the container is one behind the desk. -/
theorem Hosts.withBroker (hosts : w.Hosts id session post taken s) (broker : Broker) :
    ({ w with client := { w.client with broker } } : World).Hosts id session post taken
      (s.withBroker broker) := by
  obtain ⟨c, now, h, known, opened, handed, same, posted, desk, inbox⟩ := hosts
  refine ⟨c, now, h, known, opened, handed, same, posted, ?_, inbox⟩
  obtain ⟨_, _, _, _⟩ := s
  dsimp only at desk
  subst desk
  rfl

/-- The deliveries among the notices for a subscriber. -/
theorem deliveriesFor_eq (b : Broker) (id : Nat) :
    b.deliveriesFor id = ((b.notices.toList.filter (·.1 = id)).map (·.2)).filterMap fun
      | .delivered delivery => some delivery
      | _ => none := by
  unfold Broker.deliveriesFor
  rw [List.filterMap_map, List.filterMap_filter]
  refine List.filterMap_congr fun entry _ => ?_
  obtain ⟨addressee, notice⟩ := entry
  cases notice with
  | delivered delivery => by_cases mine : addressee = id <;> simp [mine]
  | cancelled | shutdown | ended => simp

/-- **What the broker has pushed comes in front of the desk.** -/
theorem deliverNotices_hosts (hosts : w.Hosts id session post taken s) {seat : Seat}
    (told : seat.subscriber = id) :
    w.deliverNotices.Hosts id session post taken (s.observe seat s.broker) := by
  obtain ⟨c, now, h, known, opened, handed, same, posted, desk, inbox⟩ := hosts
  obtain ⟨client, metrics, consumers, plan, handoffs⟩ := w.deliverNotices_frame
  have broker : w.client = s.desk.client := by rw [← desk]; rfl
  refine ⟨c, now, _, (congrArg (·.get? id) consumers).trans known, opened, handoffs id h handed,
    same, ?_, ?_, ?_⟩
  · unfold World.post
    rw [plan]
    exact posted
  · obtain ⟨_, _, _, _⟩ := s
    dsimp only at desk
    subst desk
    unfold World.desk
    rw [client, metrics]
    rfl
  · show s.inbox ++ s.desk.client.broker.deliveriesFor seat.subscriber = _
    rw [inbox, told, deliveriesFor_eq, ← broker, List.append_assoc]
    unfold Handoff.deliveries
    rw [List.filterMap_append, List.append_assoc]
    rfl

/-- The world with another desk for a consumer. -/
def withDesk (w : World) (id : Nat) (desk : Desk) : World :=
  (({ w with client := desk.client, metrics := desk.metrics }).updateConsumer id fun c =>
    { c with shownDeferred := desk.shownDeferred }).updateSession id fun s =>
      { s with deferred := desk.deferred, lastDeferred := desk.lastDeferred }

/-- A desk that is put back is the desk of the shift. -/
theorem withDesk_hosts (hosts : w.Hosts id session post taken s) (desk : Desk) :
    (w.withDesk id desk).Hosts id session post taken { s with desk } := by
  obtain ⟨c, now, h, known, opened, handed, same, posted, -, inbox⟩ := hosts
  refine ⟨{ c with
      shownDeferred := desk.shownDeferred
      session := some { now with deferred := desk.deferred, lastDeferred := desk.lastDeferred } },
    { now with deferred := desk.deferred, lastDeferred := desk.lastDeferred }, h, ?_, rfl, handed,
    ?_, posted, rfl, inbox⟩
  · unfold withDesk updateSession updateConsumer
    dsimp only
    rw [Table.get?_modify_self, Table.get?_modify_self, known]
    dsimp only [Option.map_some]
    rw [opened]
    rfl
  · rw [same]

/-- A consumer in its session works at the desk that the container gives it. -/
theorem atDesk_eq {c : Consumer} {now : Session} (known : w.consumers.get? id = some c)
    (opened : c.session = some now) (f : Post → DeskWork Unit) :
    (atDesk id f).run w = (((f (w.post c now)).run (w.desk c now)).1,
      w.putDesk id ((f (w.post c now)).run (w.desk c now)).2) := by
  unfold atDesk ExceptT.run ExceptT.mk
  dsimp only
  rw [known]
  dsimp only
  rw [opened]
  rfl

/-- **Work at the desk of the container is work of the shift.** -/
theorem atDesk_hosts (hosts : w.Hosts id session post taken s) {seat : Seat}
    (told : seat.subscriber = id) {f : Post → DeskWork Unit}
    (worked : s.work seat (f post) = .ok s') :
    ∃ w', (atDesk id f).run w = (.ok (), w') ∧ w'.Hosts id session post taken s' := by
  obtain ⟨c, now, h, known, opened, handed, same, posted, desk, inbox⟩ := hosts
  unfold Shift.work at worked
  split at worked
  next after ran =>
    cases worked
    have ended : (atDesk id f).run w = (.ok (), w.putDesk id after) := by
      rw [atDesk_eq known opened, posted, desk, ran]
    exact ⟨w.putDesk id after, ended, (deliverNotices_hosts (withDesk_hosts ⟨c, now, h, known, opened,
      handed, same, posted, desk, inbox⟩ after) told).congr rfl rfl⟩
  next => cases worked

/-! ### What others do -/

/-- **What others do at the broker is an event of the shift.** -/
theorem elsewhere_hosts (hosts : w.Hosts id session post taken s) {seat : Seat}
    (told : seat.subscriber = id) {op : Broker.Op}
    (stepped : s.step seat post (.elsewhere op) = .ok s') :
    (w.atBroker fun b => b.step op).2.Hosts id session post taken s' := by
  cases stepped
  have put := hosts.withBroker (s.broker.step op).2
  rw [show s.broker = w.client.broker by rw [hosts.client]; rfl] at put ⊢
  exact (deliverNotices_hosts put told).congr rfl rfl

/-- What others count is an event of the shift. -/
theorem counted_hosts (hosts : w.Hosts id session post taken s) {seat : Seat} (metrics : Metrics)
    (stepped : s.step seat post (.counted metrics) = .ok s') :
    ({ w with metrics } : World).Hosts id session post taken s' := by
  cases stepped
  obtain ⟨c, now, h, known, opened, handed, same, posted, desk, inbox⟩ := hosts
  obtain ⟨_, _, _, _⟩ := s
  dsimp only at desk
  subst desk
  exact ⟨c, now, h, known, opened, handed, same, posted, rfl, inbox⟩

/-- The feed keeps the deliveries of a handoff that is open, in their order. -/
theorem feed_deliveries (h : Handoff) (accepting : h.accepting = true) :
    h.feed.2.deliveries = h.deliveries := by
  unfold Handoff.feed Handoff.putLast
  split
  next => rfl
  next =>
    split
    next => rfl
    next delivery rest waiting =>
      rw [accepting, if_neg (by decide)]
      split
      next => simp [Handoff.deliveries, Handoff.drain, waiting]
      next => rfl
    next rest waiting =>
      rw [accepting, if_neg (by decide)]
      split
      next => simp [Handoff.deliveries, Handoff.drain, waiting]
      next => rfl
    next cause rest waiting =>
      rw [accepting, if_neg (by decide)]
      split
      next => simp [Handoff.deliveries, Handoff.drain, waiting]
      next => rfl
    next rest waiting => simp [Handoff.deliveries, Handoff.drain, waiting]

/-! ### The events of a shift -/

theorem Hosts.settings (hosts : w.Hosts id session post taken s) :
    w.plan.settings = post.settings := by
  obtain ⟨_, _, _, -, -, -, -, rfl, -, -⟩ := hosts
  rfl

theorem Hosts.channel (hosts : w.Hosts id session post taken s) :
    session.channel.target = post.channel := by
  obtain ⟨_, _, _, -, -, -, rfl, rfl, -, -⟩ := hosts
  rfl

/-- A delivery that was taken out is the next one of the shift. -/
theorem Hosts.next {delivery : Delivery}
    (hosts : w.Hosts id session post (delivery :: taken) s) :
    ∃ others, s.inbox = delivery :: others ∧ ∀ processed,
      w.Hosts id session post taken { s with inbox := others, processed } := by
  obtain ⟨c, now, h, known, opened, handed, same, posted, desk, inbox⟩ := hosts
  exact ⟨taken ++ h.deliveries, inbox, fun processed =>
    ⟨c, now, h, known, opened, handed, same, posted, desk, rfl⟩⟩

/-- The consumer takes the next delivery out of its handoff. -/
theorem takeParcel_hosts {h : Handoff} {delivery : Delivery} {rest : List Parcel}
    (hosts : w.Hosts id session post [] s) (handed : w.handoffs.get? id = some h)
    (inside : h.inside = .delivery delivery :: rest) :
    (w.takeParcel id h rest).Hosts id session post [delivery] s := by
  obtain ⟨c, now, h', known, opened, handed', same, posted, desk, inbox⟩ := hosts
  obtain rfl : h' = h := Option.some.inj (handed'.symm.trans handed)
  refine ⟨c, now, { h' with inside := rest }, known, opened, ?_, same, posted, desk, ?_⟩
  · show (w.handoffs.set id _).get? id = _
    rw [Table.get?_set, if_pos rfl]
  · rw [inbox]
    simp [Handoff.deliveries, Handoff.drain, inside]

/-- **The answer of the listener is settled as in the shift.** -/
theorem settle_hosts {delivery : Delivery}
    (hosts : w.Hosts id session post (delivery :: taken) s) {seat : Seat}
    (told : seat.subscriber = id) {result : Except ListenerError Unit}
    (stepped : s.step seat post (.receive result) = .ok s') :
    ∃ w', (settle id session delivery.tag (w.outcomeOf result) none).run w = (.ok (), w') ∧
      w'.Hosts id session post taken s' := by
  obtain ⟨others, waits, goesOn⟩ := hosts.next
  unfold Shift.step at stepped
  rw [waits] at stepped
  rw [outcomeOf_eq, hosts.settings]
  have settles : ∃ w', (atDesk id fun post' => Desk.settle post' delivery.tag
      (post.settings.outcomeOf result)).run w = (.ok (), w') ∧
        w'.Hosts id session post taken s' :=
    atDesk_hosts (goesOn _) told stepped
  exact settles

/-- **A delivery that comes too late is turned away as in the shift.** -/
theorem turnAway_hosts {delivery : Delivery}
    (hosts : w.Hosts id session post (delivery :: taken) s) {seat : Seat}
    (told : seat.subscriber = id) (stepped : s.step seat post .turnAway = .ok s') :
    ∃ w', (atDesk id fun post => Desk.turnAway post delivery.tag).run w = (.ok (), w') ∧
      w'.Hosts id session post taken s' := by
  obtain ⟨others, waits, goesOn⟩ := hosts.next
  unfold Shift.step at stepped
  rw [waits] at stepped
  have turns : ∃ w', (atDesk id fun post => Desk.turnAway post delivery.tag).run w =
      (.ok (), w') ∧ w'.Hosts id session post taken s' := atDesk_hosts (goesOn _) told stepped
  exact turns

/-- **An idle cycle acknowledges the batch as in the shift.** -/
theorem flush_hosts (hosts : w.Hosts id session post taken s) {seat : Seat}
    (told : seat.subscriber = id) (stepped : s.step seat post .idle = .ok s') :
    ∃ w', (atDesk id Desk.flush).run w = (.ok (), w') ∧ w'.Hosts id session post taken s' :=
  atDesk_hosts hosts told stepped

/-- A cancellation of the subscription is one of the shift. -/
theorem cancelSubscription_hosts (hosts : w.Hosts id session post taken s) {seat : Seat}
    (told : seat.subscriber = id) (pushed : post.settings.reception = .push)
    (faultless : s.desk.client.faults = [])
    (stepped : s.step seat post (.cancel session.consumerTag) = .ok s') :
    (w.cancelSubscription session).Hosts id session post taken s' := by
  unfold Shift.step at stepped
  dsimp only at stepped
  split at stepped
  next broker cancelled =>
    cases stepped
    have client : w.client = { broker := s.broker } := by
      rw [hosts.client]
      show s.desk.client = ⟨s.desk.client.broker, []⟩
      rw [← faultless]
    have called : w.client.call .cancel
        (·.cancel session.channel.target session.consumerTag) =
        (.ok (), { broker }) := by
      rw [hosts.channel, client, Desk.call_of_faultless, cancelled]
    have put := hosts.withBroker broker
    rw [client] at put
    unfold cancelSubscription
    rw [hosts.settings, pushed]
    dsimp only
    rw [called]
    exact (deliverNotices_hosts put told).congr rfl rfl
  next => cases stepped

/-! ### The end of a session -/

/-- The deliveries that were taken out are turned away one after the other. -/
theorem turnAways_hosts {late : List Delivery}
    (hosts : w.Hosts id session post (late ++ taken) s) {seat : Seat} (told : seat.subscriber = id)
    (ran : s.run seat post (List.replicate late.length .turnAway) = .ok s') :
    ∃ w', (forIn late PUnit.unit fun delivery _ => do
        atDesk id fun post => Desk.turnAway post delivery.tag
        return ForInStep.yield PUnit.unit : WorldWork PUnit).run w = (.ok PUnit.unit, w') ∧
      w'.Hosts id session post taken s' := by
  induction late generalizing w s with
  | nil =>
    cases ran
    exact ⟨w, rfl, hosts⟩
  | cons delivery late ih =>
    obtain ⟨next, stepped, ran'⟩ := Shift.run_cons_inv ran
    obtain ⟨w₁, turned, hosts₁⟩ := turnAway_hosts hosts told stepped
    obtain ⟨w₂, others, hosts₂⟩ := ih hosts₁ ran'
    refine ⟨w₂, ?_, hosts₂⟩
    rw [List.forIn_cons, bind_assoc, run_bind_ok turned]
    exact others

/-- The deliveries that wait inside a handoff are taken out together. -/
theorem drainHandoff_hosts (hosts : w.Hosts id session post [] s) :
    (w.drainHandoff id).2.Hosts id session post (w.drainHandoff id).1 s := by
  obtain ⟨c, now, h, known, opened, handed, same, posted, desk, inbox⟩ := hosts
  unfold drainHandoff
  rw [handed]
  refine ⟨c, now, h.drain.2, known, opened, ?_, same, posted, desk, inbox⟩
  show (w.handoffs.set id h.drain.2).get? id = _
  rw [Table.get?_set, if_pos rfl]

/-- **A session is closed by events of the shift**: the subscription is cancelled, the batch is
acknowledged, and what waits in the handoff is turned away. Then only the channel is left to
close. -/
theorem closeSession_hosts (hosts : w.Hosts id session post [] s) {seat : Seat}
    (told : seat.subscriber = id) (pushed : post.settings.reception = .push)
    (faultless : s.desk.client.faults = []) {s₁ : Shift}
    (flushed : s.run seat post [.cancel session.consumerTag, .idle] = .ok s₁) :
    ∃ late, ∀ s', s₁.run seat post (List.replicate late .turnAway) = .ok s' →
      ∃ w' : World, w'.Hosts id session post [] s' ∧
        (closeSession id session).run w = w'.releaseChannel id := by
  obtain ⟨s₀, cancelled, rest⟩ := Shift.run_cons_inv flushed
  obtain ⟨_, idled, last⟩ := Shift.run_cons_inv rest
  cases last
  have cancelling : (w.updateConsumer id fun c => { c with state := .cancelling }).Hosts id session
      post [] s := by
    obtain ⟨c, now, h, known, opened, handed, same, posted, desk, inbox⟩ := hosts
    refine ⟨{ c with state := .cancelling }, now, h, ?_, opened, handed, same, posted, desk, inbox⟩
    unfold updateConsumer
    dsimp only
    rw [Table.get?_modify_self, known]
    rfl
  have hosts₀ := cancelSubscription_hosts cancelling told pushed faultless cancelled
  obtain ⟨w₁, flushes, hosts₁⟩ := flush_hosts hosts₀ told idled
  have drained := drainHandoff_hosts hosts₁
  refine ⟨(w₁.drainHandoff id).1.length, fun s' ran => ?_⟩
  rw [← List.append_nil (w₁.drainHandoff id).1] at drained
  obtain ⟨w', turned, hosts'⟩ := turnAways_hosts drained told ran
  refine ⟨w', hosts', ?_⟩
  unfold closeSession
  rw [run_bind_ok (show (modify _ : WorldWork Unit).run w = (.ok (), _) from rfl),
    run_bind_ok flushes,
    run_bind_ok (show (modifyGet _ : WorldWork _).run w₁ = (.ok (w₁.drainHandoff id).1,
      (w₁.drainHandoff id).2) from rfl), run_bind_ok turned]
  rfl

end World

end QueueListener
