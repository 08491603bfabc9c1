import QueueListener.Proofs.Consumer.Engagement
import QueueListener.Proofs.Container.Shifts
/-!
# One disposition for each delivery

**On a plain channel every processed delivery is settled once, as its outcome deserves**: it is
acknowledged, rejected as the listener asks, or given back. The deferred successes are the only ones
that still wait for it, and no settlement is refused.

* `Seat.Late` — what happens while a session closes, after its batch is acknowledged;
* `Shift.closing_settles` — nothing is deferred then;
* `Engagement.Disposes` — what holds of a consumer at every moment, also of one in a container;
* `Engagement.run_disposes` — it holds after every run.
-/

namespace QueueListener

/-- What happens while a session closes, after its batch is acknowledged: the deliveries that were
handed over too late are turned away, and others go on at the broker. -/
def Seat.Late (seat : Seat) : ShiftEvent → Prop
  | .turnAway => True
  | .elsewhere op => seat.Spares op
  | .counted _ => True
  | _ => False

namespace Shift

open Broker

variable {seat : Seat} {post : Post} {s s' : Shift} {record : ChannelRecord}
  {batch rest : List Unacked} {settled : List (Nat × Outcome)}

/-- Turning a delivery away leaves no batch. -/
theorem Sound.turnAway_ok (auto : post.settings.ackMode = .auto)
    (here : post.channel = seat.channel) (sound : Sound seat post s record [] rest settled) :
    ∃ s', s.step seat post .turnAway = .ok s' ∧
      ∃ record rest settled, Sound seat post s' record [] rest settled := by
  cases waits : s.inbox with
  | nil =>
    refine ⟨s, ?_, record, rest, settled, sound⟩
    unfold step
    rw [waits]
  | cons delivery others =>
    obtain ⟨_, s', stepped, -, advances, -⟩ := turnAway_advances auto here sound waits
    exact ⟨s', stepped, advances.sound⟩

/-- Without a batch, nothing that is late is refused or deferred. -/
theorem late_ok (auto : post.settings.ackMode = .auto) (here : post.channel = seat.channel)
    (sound : ∃ record rest settled, Sound seat post s record [] rest settled)
    {events : List ShiftEvent} (late : ∀ event ∈ events, seat.Late event) :
    ∃ s', s.run seat post events = .ok s' ∧
      ∃ record rest settled, Sound seat post s' record [] rest settled := by
  induction events generalizing s with
  | nil => exact ⟨s, rfl, sound⟩
  | cons event events ih =>
    obtain ⟨record, rest, settled, sound⟩ := sound
    have first : seat.Late event := late event List.mem_cons_self
    obtain ⟨next, stepped, sound'⟩ : ∃ next, s.step seat post event = .ok next ∧
        ∃ record rest settled, Sound seat post next record [] rest settled := by
      cases event with
      | turnAway => exact sound.turnAway_ok auto here
      | elsewhere op =>
        obtain ⟨next, stepped, advances⟩ := elsewhere_advances sound first
        exact ⟨next, stepped, advances.sound⟩
      | counted metrics => exact ⟨_, rfl, (counted_advances sound metrics).sound⟩
      | receive | idle | poll | cancel => exact first.elim
    rw [run_cons stepped]
    exact ih sound' fun event member => late event (List.mem_cons_of_mem _ member)

/-- **A session that closes has settled everything that it has processed.** -/
theorem closing_settles (auto : post.settings.ackMode = .auto) (here : post.channel = seat.channel)
    (sound : Sound seat post s record batch rest settled) {events : List ShiftEvent}
    (late : ∀ event ∈ events, seat.Late event) :
    ∃ s', s.run seat post (.idle :: events) = .ok s' ∧
      ∃ record rest settled, Sound seat post s' record [] rest settled := by
  obtain ⟨next, stepped, advances, -⟩ := idle_advances here sound
  rw [run_cons stepped]
  exact late_ok auto here advances.sound late

/-- With an empty batch all that was processed has its verdict. -/
theorem Sound.settles (sound : Sound seat post s record [] rest settled)
    (plain : post.settings.transacted = false) :
    s.desk.deferred = 0 ∧ s.verdicts = s.processed.map deserved := by
  refine ⟨sound.stands.deferred, ?_⟩
  rw [sound.plain plain, sound.processed, List.map_nil, List.append_nil]

end Shift

/-- **What holds of a consumer on a plain channel at every moment.** `settled` is what it has
processed and settled, `batch` the successes that are deferred. -/
structure Engagement.Disposes (e : Engagement) (s : Shift) (settled : List (Nat × Outcome))
    (batch : List Nat) : Prop where
  /-- The last successes are deferred. -/
  processed : s.processed = settled ++ batch.map (·, .success)
  /-- The others got one verdict each, and this is the one that the outcome deserves. -/
  verdicts : s.verdicts = settled.map deserved
  distinct : (s.processed.map (·.1) ++ s.inbox.map (·.tag)).Nodup
  /-- The broker holds the batch and what nobody has processed, and nothing else. -/
  unsettled : (s.broker.unsettled e.channel).map (·.tag) = batch ++ s.inbox.map (·.tag)
  deferred : s.desk.deferred = batch.length
  below : batch.length < max e.settings.batchSize 1
  /-- No operation of the consumer on its channel is refused. -/
  accepted : ∀ event : ShiftEvent, event.Settles → ∃ s', s.step e.seat e.post event = .ok s'
  cancels : ∀ consumerTag, ∃ s', s.step e.seat e.post (.cancel consumerTag) = .ok s'
  /-- Nothing is deferred after an idle cycle, and while the session closes behind it. -/
  closes : ∀ late : List ShiftEvent, (∀ event ∈ late, e.seat.Late event) →
    ∃ s', s.run e.seat e.post (.idle :: late) = .ok s' ∧
      s'.desk.deferred = 0 ∧ s'.verdicts = s'.processed.map deserved
  /-- In a container the answer of the listener is settled without a refusal. -/
  settlesHosted : ∀ (w : World) session delivery taken result,
    w.Hosts e.subscriber session e.post (delivery :: taken) s →
    ∃ w' s', (World.settle e.subscriber session delivery.tag (w.outcomeOf result) none).run w =
        (.ok (), w') ∧ s.step e.seat e.post (.receive result) = .ok s' ∧
      w'.Hosts e.subscriber session e.post taken s'
  /-- In a container an idle cycle leaves nothing deferred. -/
  flushesHosted : ∀ (w : World) session taken, w.Hosts e.subscriber session e.post taken s →
    ∃ w' s', (World.atDesk e.subscriber Desk.flush).run w = (.ok (), w') ∧
      w'.Hosts e.subscriber session e.post taken s' ∧
      s'.desk.deferred = 0 ∧ s'.verdicts = s'.processed.map deserved
  /-- In a container a session that ends has settled everything when its channel is closed. -/
  closesHosted : ∀ (w : World) session, e.settings.reception = .push →
    w.Hosts e.subscriber session e.post [] s →
    ∃ (w' : World) (s' : Shift),
      (World.closeSession e.subscriber session).run w = w'.releaseChannel e.subscriber ∧
      w'.Hosts e.subscriber session e.post [] s' ∧
      s'.desk.deferred = 0 ∧ s'.verdicts = s'.processed.map deserved

namespace Shift

variable {e : Engagement} {s : Shift} {record : ChannelRecord} {batch rest : List Unacked}
  {settled : List (Nat × Outcome)}

/-- A container's session that ends has settled everything. -/
theorem Sound.closesHosted (sound : Sound e.seat e.post s record batch rest settled)
    (plain : e.settings.transacted = false) {w : World} {session : Session}
    (pushed : e.settings.reception = .push) (hosts : w.Hosts e.subscriber session e.post [] s) :
    ∃ (w' : World) (s' : Shift),
      (World.closeSession e.subscriber session).run w = w'.releaseChannel e.subscriber ∧
      w'.Hosts e.subscriber session e.post [] s' ∧
      s'.desk.deferred = 0 ∧ s'.verdicts = s'.processed.map deserved := by
  obtain ⟨s₀, cancelled, advances₀⟩ := cancel_advances rfl sound session.consumerTag
  obtain ⟨_, _, _, sound₀⟩ := advances₀.sound
  obtain ⟨s₁, idled, advances₁, -⟩ := idle_advances rfl sound₀
  have flushed : s.run e.seat e.post [.cancel session.consumerTag, .idle] = .ok s₁ := by
    rw [run_cons cancelled, run_cons idled]
    rfl
  have faultless : s.desk.client.faults = [] := by rw [sound.stands.client]
  obtain ⟨late, ends⟩ := World.closeSession_hosts hosts rfl pushed faultless flushed
  have turned : ∀ event ∈ List.replicate late ShiftEvent.turnAway, e.seat.Late event :=
    fun event member => List.eq_of_mem_replicate member ▸ trivial
  obtain ⟨s', ran, _, _, _, sound'⟩ := late_ok e.auto rfl advances₁.sound turned
  obtain ⟨w', hosts', closed⟩ := ends s' ran
  exact ⟨w', s', closed, hosts', sound'.settles plain⟩

end Shift

/-- **Every processed delivery gets exactly one disposition**, whatever the answers of the listener,
the idle cycles and the operations of others. -/
theorem Engagement.run_disposes (e : Engagement) (plain : e.settings.transacted = false)
    {events : List ShiftEvent} (spared : ∀ op, .elsewhere op ∈ events → e.seat.Spares op)
    {s : Shift} (ran : e.start.run e.seat e.post events = .ok s) :
    ∃ settled batch, e.Disposes s settled batch := by
  obtain ⟨record₀, rest₀, sound₀⟩ := e.start_sound
  obtain ⟨record, batch, rest, settled, sound⟩ :=
    Shift.run_sound e.auto rfl ⟨record₀, [], rest₀, [], sound₀⟩ spared ran
  have unsettled : s.broker.unsettled e.channel = batch ++ rest :=
    (Broker.unsettled_eq sound.keeps.opened).trans sound.keeps.unacked
  refine ⟨settled, batch.map (·.tag), ?_⟩
  constructor
  case processed =>
    rw [sound.processed, List.map_map]
    rfl
  case verdicts => exact sound.plain plain
  case distinct => exact sound.distinct
  case unsettled => rw [unsettled, List.map_append, sound.inbox]
  case deferred => rw [sound.stands.deferred, List.length_map]
  case below =>
    rw [List.length_map]
    exact sound.below
  case accepted =>
    intro event settles
    obtain ⟨s', _, _, _, stepped, -⟩ := Shift.settles_advances e.auto rfl sound settles
    exact ⟨s', stepped⟩
  case cancels =>
    intro consumerTag
    obtain ⟨s', stepped, -⟩ := Shift.cancel_advances rfl sound consumerTag
    exact ⟨s', stepped⟩
  case closes =>
    intro late arrives
    obtain ⟨s', ran', _, _, _, sound'⟩ := Shift.closing_settles e.auto rfl sound arrives
    exact ⟨s', ran', sound'.settles plain⟩
  case settlesHosted =>
    intro w session delivery taken result hosts
    have receives : (ShiftEvent.receive result).Settles := trivial
    obtain ⟨s', _, _, _, stepped, -⟩ := Shift.settles_advances e.auto rfl sound receives
    obtain ⟨w', settled, hosts'⟩ := World.settle_hosts hosts rfl stepped
    exact ⟨w', s', settled, stepped, hosts'⟩
  case flushesHosted =>
    intro w session taken hosts
    obtain ⟨s', stepped, advances, -⟩ := Shift.idle_advances rfl sound
    obtain ⟨_, _, _, sound'⟩ := advances.sound
    obtain ⟨w', flushed, hosts'⟩ := World.flush_hosts hosts rfl stepped
    exact ⟨w', s', flushed, hosts', sound'.settles plain⟩
  case closesHosted => exact fun w session pushed hosts => sound.closesHosted plain pushed hosts

/-- A success, a failure and a delivery that comes too late, while others use the broker: the last
one comes back with a new tag, and then nothing is unsettled but that. -/
theorem Engagement.run_disposes_atThree :
    (Engagement.atThree false).settings.transacted = false ∧
      ∃ s, (Engagement.atThree false).start.run (Engagement.atThree false).seat
          (Engagement.atThree false).post
          [.receive (.ok ()), .elsewhere (.declare "other"), .receive (.error (.reject "no")),
            .turnAway] = .ok s ∧
        s.verdicts = [(1, .ack), (2, .nack false), (3, .nack true)] ∧
        s.inbox.map (·.tag) = [4] ∧
        ∃ (settled : List (Nat × Outcome)) (batch : List Nat),
          s.processed = settled ++ batch.map (·, .success) ∧ s.verdicts = settled.map deserved ∧
          (s.broker.unsettled 2).map (·.tag) = batch ++ s.inbox.map (·.tag) := by
  obtain ⟨s, ran, seen⟩ := Engagement.exists_of_runAtThree
    (show (Engagement.runAtThree false [.receive (.ok ()), .elsewhere (.declare "other"),
      .receive (.error (.reject "no")), .turnAway]).toOption.map
        (fun s => (s.verdicts, s.inbox.map (·.tag))) =
      some ([(1, .ack), (2, .nack false), (3, .nack true)], [4]) by decide +kernel)
  obtain ⟨verdicts, inbox⟩ := Prod.mk.inj seen
  have spared : ∀ op, ShiftEvent.elsewhere op ∈ [ShiftEvent.receive (.ok ()),
      .elsewhere (.declare "other"), .receive (.error (.reject "no")), .turnAway] →
      (Engagement.atThree false).seat.Spares op := by
    intro op member
    obtain rfl : op = .declare "other" := by simpa using member
    trivial
  obtain ⟨settled, batch, disposes⟩ := (Engagement.atThree false).run_disposes rfl spared ran
  exact ⟨rfl, s, ran, verdicts, inbox, settled, batch, disposes.processed, disposes.verdicts,
    disposes.unsettled⟩

end QueueListener
