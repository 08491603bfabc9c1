import QueueListener.Proofs.Consumer.Engagement
/-!
# Successes that are rejected

**A processed success is rejected for good exactly when it is deferred on a transactional channel
and a later delivery fails there for good.** On a plain channel the batch is acknowledged before the
failed delivery is rejected; on a transactional one the rejection covers the batch as well.

* `Shift.Spoiled`, `Shift.Spoils` — a success that was rejected, and the events that reject one;
* `step_spoiled_iff`, `run_spoiled_iff` — one event, and runs of events;
* `Engagement.run_rejects_success_iff` — the exact condition, and what becomes a dead letter.
-/

namespace QueueListener

/-- A rejection covers the rejected delivery, and on a transactional channel the batch. -/
theorem mem_rejection_iff {α : Type} {transacted : Bool} {batch : List α} {entry other : α}
    {requeue : Bool} : (other, .nack false) ∈ rejection transacted batch entry requeue ↔
      requeue = false ∧ (other = entry ∨ transacted = true ∧ other ∈ batch) := by
  cases transacted <;> cases requeue <;> simp [rejection, or_comm]

/-- **Only a failure that does not go back rejects for good**: the delivery, and on a transactional
channel the batch. -/
theorem mem_disposal_iff {α : Type} {settings : Settings} {batch : List α} {entry other : α}
    {outcome : Outcome} : (other, .nack false) ∈ (disposal settings batch entry outcome).1 ↔
      (∃ transport, outcome = .failure false transport) ∧
        (other = entry ∨ settings.transacted = true ∧ other ∈ batch) := by
  cases outcome with
  | success =>
    unfold disposal
    dsimp only
    split <;> simp
  | failure requeue transport =>
    show (other, .nack false) ∈ rejection _ _ _ _ ↔ _
    rw [mem_rejection_iff]
    simp
  | stopping =>
    show (other, .nack false) ∈ rejection _ _ _ _ ↔ _
    rw [mem_rejection_iff]
    simp

/-- An answer that rejects for good is an error that neither says otherwise nor leaves it to settings
that do. -/
theorem Settings.outcomeOf_eq_failure_iff {settings : Settings}
    {result : Except ListenerError Unit} :
    (∃ transport, settings.outcomeOf result = .failure false transport) ↔
      ∃ error, result = .error error ∧
        error.requeue?.getD settings.requeueRejected = false := by
  cases result with
  | ok => simp [outcomeOf]
  | error error => simp [outcomeOf]

namespace Shift

open Broker

/-- A processed success that waits for its verdict. -/
def Deferred (s : Shift) (tag : Nat) : Prop :=
  (tag, .success) ∈ s.processed ∧ tag ∉ s.verdicts.map (·.1)

/-- A processed success that was rejected for good. -/
def Spoiled (s : Shift) (tag : Nat) : Prop :=
  (tag, .success) ∈ s.processed ∧ (tag, .nack false) ∈ s.verdicts

/-- An event rejects a deferred success for good: on a transactional channel the listener fails with
another delivery, and neither its error nor the settings send that one back. -/
def Spoils (settings : Settings) (s : Shift) (event : ShiftEvent) (tag : Nat) : Prop :=
  settings.transacted = true ∧ s.Deferred tag ∧ s.inbox ≠ [] ∧
    ∃ error, event = .receive (.error error) ∧
      error.requeue?.getD settings.requeueRejected = false

variable {seat : Seat} {post : Post} {s s' : Shift} {record : ChannelRecord}
  {batch rest : List Unacked} {settled : List (Nat × Outcome)}

/-- The deferred successes are the batch. -/
theorem Sound.deferred_iff (sound : Sound seat post s record batch rest settled) {tag : Nat} :
    s.Deferred tag ↔ tag ∈ batch.map (·.tag) := by
  unfold Deferred
  rw [sound.verdicts, sound.processed, List.mem_append]
  constructor
  · rintro ⟨old | waits, unsettled⟩
    · exact absurd (List.mem_map_of_mem old) unsettled
    · obtain ⟨entry, member, same⟩ := List.mem_map.mp waits
      exact List.mem_map.mpr ⟨entry, member, congrArg Prod.fst same⟩
  · intro waits
    obtain ⟨entry, member, rfl⟩ := List.mem_map.mp waits
    have listed : entry.tag ∈ record.unacked.map (·.tag) := by
      rw [sound.keeps.unacked]
      exact List.mem_map_of_mem (List.mem_append_left _ member)
    exact ⟨.inr (List.mem_map_of_mem member), fun old =>
      Nat.lt_irrefl _ ((List.pairwise_append.mp sound.ascending).2.2 _ old _ listed)⟩

/-- A step spoils what it rejects for good among the successes. -/
theorem Advances.spoiled_iff (sound : Sound seat post s record batch rest settled)
    {done : List (Nat × Outcome)} {gone : List (Unacked × Verdict)} {batch' : List Unacked}
    (advances : Advances seat post s s' done gone batch')
    (waited : ∀ entry ∈ done, entry.1 ∈ s.inbox.map (·.tag)) {tag : Nat} :
    s'.Spoiled tag ↔ s.Spoiled tag ∨ (tag, .success) ∈ s'.processed ∧
      ∃ entry, (entry, .nack false) ∈ gone ∧ entry.tag = tag := by
  have leaves : (tag, Verdict.nack false) ∈ gone.map (fun entry => (entry.1.tag, entry.2)) ↔
      ∃ entry, (entry, Verdict.nack false) ∈ gone ∧ entry.tag = tag := by simp
  unfold Spoiled
  rw [advances.verdicts, List.mem_append, leaves, and_or_left]
  refine or_congr_left ⟨fun ⟨processed, verdict⟩ => ⟨?_, verdict⟩, fun ⟨processed, verdict⟩ =>
    ⟨advances.processed ▸ List.mem_append_left _ processed, verdict⟩⟩
  rw [advances.processed] at processed
  rcases List.mem_append.mp processed with old | new
  · exact old
  -- what was in front of the desk has no verdict
  · have settledTag : tag ∈ s.processed.map (·.1) := by
      have old : tag ∈ settled.map (·.1) := sound.verdicts ▸ List.mem_map_of_mem verdict
      rw [sound.processed, List.map_append]
      exact List.mem_append_left _ old
    exact absurd rfl ((List.nodup_append.mp sound.distinct).2.2 _ settledTag _ (waited _ new))

/-- A step that rejects nothing for good spoils nothing. -/
theorem Advances.spoiled_iff_of_spares (sound : Sound seat post s record batch rest settled)
    {done : List (Nat × Outcome)} {gone : List (Unacked × Verdict)} {batch' : List Unacked}
    (advances : Advances seat post s s' done gone batch')
    (waited : ∀ entry ∈ done, entry.1 ∈ s.inbox.map (·.tag))
    (keeps : ∀ entry, (entry, .nack false) ∉ gone) {tag : Nat} :
    s'.Spoiled tag ↔ s.Spoiled tag := by
  rw [advances.spoiled_iff sound waited]
  exact or_iff_left fun ⟨_, entry, member, _⟩ => keeps entry member

/-- **The answer of the listener spoils the batch exactly when the channel is transactional and the
delivery is rejected for good.** -/
theorem receive_spoiled_iff (auto : post.settings.ackMode = .auto)
    (here : post.channel = seat.channel) (sound : Sound seat post s record batch rest settled)
    {result : Except ListenerError Unit} (ran : s.step seat post (.receive result) = .ok s')
    {tag : Nat} :
    s'.Spoiled tag ↔ s.Spoiled tag ∨ Spoils post.settings s (.receive result) tag := by
  cases waits : s.inbox with
  | nil =>
    unfold step at ran
    rw [waits] at ran
    obtain rfl := Except.ok.inj ran
    exact (or_iff_left fun ⟨_, _, waiting, _⟩ => waiting waits).symm
  | cons delivery others =>
    obtain ⟨entry, next, stepped, same, advances, -⟩ :=
      receive_advances auto here sound waits result
    obtain rfl := Except.ok.inj (stepped.symm.trans ran)
    have waited : delivery.tag ∈ s.inbox.map (·.tag) := by
      rw [waits]
      exact List.mem_cons_self
    rw [advances.spoiled_iff sound fun _ member => (List.mem_singleton.mp member) ▸ waited]
    refine or_congr_right ?_
    unfold Spoils
    rw [sound.deferred_iff, advances.processed]
    simp only [mem_disposal_iff, Settings.outcomeOf_eq_failure_iff, ShiftEvent.receive.injEq]
    constructor
    · rintro ⟨processed, other, ⟨⟨error, rfl, gone⟩, covered⟩, rfl⟩
      rcases covered with rfl | ⟨transacted, member⟩
      · -- the failed delivery itself is no success
        rcases List.mem_append.mp processed with old | new
        · exact absurd same ((List.nodup_append.mp sound.distinct).2.2 _
            (List.mem_map_of_mem old) _ waited)
        · have failed := congrArg Prod.snd (List.mem_singleton.mp new)
          cases failed
      · exact ⟨transacted, List.mem_map_of_mem member, waits ▸ List.cons_ne_nil _ _,
          error, rfl, gone⟩
    · rintro ⟨transacted, member, -, error, rfl, gone⟩
      obtain ⟨other, listed, rfl⟩ := List.mem_map.mp member
      refine ⟨List.mem_append_left _ ?_, other, ⟨⟨error, rfl, gone⟩, .inr ⟨transacted, listed⟩⟩,
        rfl⟩
      rw [sound.processed]
      exact List.mem_append_right _ (List.mem_map_of_mem listed)

/-- **One event spoils what `Spoils` says.** -/
theorem step_spoiled_iff (auto : post.settings.ackMode = .auto) (here : post.channel = seat.channel)
    (sound : Sound seat post s record batch rest settled) {event : ShiftEvent}
    (spares : ∀ op, event = .elsewhere op → seat.Spares op)
    (ran : s.step seat post event = .ok s') {tag : Nat} :
    s'.Spoiled tag ↔ s.Spoiled tag ∨ Spoils post.settings s event tag := by
  have quiet : ∀ {s' : Shift} {batch' : List Unacked},
      Advances seat post s s' [] [] batch' → (s'.Spoiled tag ↔ s.Spoiled tag) := fun advances =>
    advances.spoiled_iff_of_spares sound (fun _ member => absurd member List.not_mem_nil)
      fun _ => List.not_mem_nil
  -- only an answer of the listener can spoil something
  have spares' : (∀ result, event ≠ .receive result) →
      ((s'.Spoiled tag ↔ s.Spoiled tag) ↔
        (s'.Spoiled tag ↔ s.Spoiled tag ∨ Spoils post.settings s event tag)) := fun other => by
    rw [or_iff_left fun ⟨_, _, _, error, same, _⟩ => other _ same]
  cases event with
  | receive result => exact receive_spoiled_iff auto here sound ran
  | turnAway =>
    refine (spares' nofun).mp ?_
    cases waits : s.inbox with
    | nil =>
      unfold step at ran
      rw [waits] at ran
      rw [Except.ok.inj ran]
    | cons delivery others =>
      obtain ⟨_, next, stepped, -, advances, -⟩ := turnAway_advances auto here sound waits
      obtain rfl := Except.ok.inj (stepped.symm.trans ran)
      refine advances.spoiled_iff_of_spares sound (fun entry member => ?_) fun entry rejected => ?_
      · rw [waits, List.mem_singleton.mp member]
        exact List.mem_cons_self
      · exact Bool.noConfusion (mem_rejection_iff.mp rejected).1
  | idle =>
    refine (spares' nofun).mp ?_
    obtain ⟨next, stepped, advances, -⟩ := idle_advances here sound
    obtain rfl := Except.ok.inj (stepped.symm.trans ran)
    refine advances.spoiled_iff_of_spares sound (fun _ member => absurd member List.not_mem_nil)
      fun entry rejected => ?_
    obtain ⟨_, _, same⟩ := List.mem_map.mp rejected
    cases congrArg Prod.snd same
  | poll => exact (spares' nofun).mp (quiet (poll_advances auto here sound ran))
  | cancel consumerTag =>
    obtain ⟨next, stepped, advances⟩ := cancel_advances here sound consumerTag
    obtain rfl := Except.ok.inj (stepped.symm.trans ran)
    exact (spares' nofun).mp (quiet advances)
  | elsewhere op =>
    obtain ⟨next, stepped, advances⟩ := elsewhere_advances sound (spares op rfl)
    obtain rfl := Except.ok.inj (stepped.symm.trans ran)
    exact (spares' nofun).mp (quiet advances)
  | counted metrics =>
    obtain rfl := Except.ok.inj ran
    exact (spares' nofun).mp (quiet (counted_advances sound metrics))

/-- **A run spoils what its events spoil.** -/
theorem run_spoiled_iff (auto : post.settings.ackMode = .auto) (here : post.channel = seat.channel)
    (start : ∃ record batch rest settled, Sound seat post s record batch rest settled)
    {events : List ShiftEvent} (spares : ∀ op, .elsewhere op ∈ events → seat.Spares op)
    (ran : s.run seat post events = .ok s') {tag : Nat} :
    s'.Spoiled tag ↔ s.Spoiled tag ∨ ∃ before event after middle,
      events = before ++ event :: after ∧ s.run seat post before = .ok middle ∧
        Spoils post.settings middle event tag := by
  induction events generalizing s with
  | nil =>
    obtain rfl := Except.ok.inj ran
    refine (or_iff_left ?_).symm
    rintro ⟨before, event, after, middle, split, -⟩
    exact List.append_ne_nil_of_right_ne_nil before (List.cons_ne_nil event after) split.symm
  | cons event events ih =>
    obtain ⟨record, batch, rest, settled, sound⟩ := start
    obtain ⟨next, stepped, ran'⟩ := run_cons_inv ran
    obtain ⟨done, gone, batch', advances⟩ := step_sound auto here sound
      (fun op same => spares op (same ▸ List.mem_cons_self)) stepped
    obtain ⟨record', rest', settled', sound'⟩ := advances.sound
    rw [ih ⟨record', batch', rest', settled', sound'⟩
        (fun op member => spares op (List.mem_cons_of_mem _ member)) ran',
      step_spoiled_iff auto here sound (fun op same => spares op (same ▸ List.mem_cons_self)) stepped,
      or_assoc]
    refine or_congr_right ⟨?_, ?_⟩
    · rintro (now | ⟨before, other, after, middle, rfl, reached, later⟩)
      · exact ⟨[], event, events, s, rfl, rfl, now⟩
      · exact ⟨event :: before, other, after, middle, rfl, (run_cons stepped before).trans reached,
          later⟩
    · rintro ⟨before, other, after, middle, split, reached, spoils⟩
      cases before with
      | nil =>
        obtain ⟨rfl, rfl⟩ := List.cons.inj split
        obtain rfl := Except.ok.inj reached
        exact .inl spoils
      | cons first before =>
        obtain ⟨rfl, rfl⟩ := List.cons.inj split
        exact .inr ⟨before, other, after, middle, rfl,
          (run_cons stepped before).symm.trans reached, spoils⟩

end Shift

/-- **A success is rejected for good exactly when it is deferred on a transactional channel while a
later delivery fails for good.** Whatever the consumer settles, the dead letters get those of the
deliveries that leave which are rejected for good, and nothing else. -/
theorem Engagement.run_rejects_success_iff (e : Engagement) {events : List ShiftEvent}
    (spared : ∀ op, .elsewhere op ∈ events → e.seat.Spares op) {s : Shift}
    (ran : e.start.run e.seat e.post events = .ok s) :
    (∀ tag, s.Spoiled tag ↔ ∃ before event after middle, events = before ++ event :: after ∧
      e.start.run e.seat e.post before = .ok middle ∧ middle.Spoils e.settings event tag) ∧
    ∀ event : ShiftEvent, event.Settles → ∃ s', s.step e.seat e.post event = .ok s' ∧
      ∃ gone : List (Unacked × Verdict),
        s'.verdicts = s.verdicts ++ gone.map (fun entry => (entry.1.tag, entry.2)) ∧
        gone.map (·.1) <+: s.broker.unsettled e.channel ∧
        ((∀ entry ∈ gone, entry.1.queue ∈ s.broker.queues.keys) →
          s'.broker.deadLetters.toList = s.broker.deadLetters.toList ++
            (gone.filter (·.2 = .nack false)).map fun entry =>
              ⟨entry.1.queue, entry.1.message⟩) := by
  obtain ⟨record₀, rest₀, sound₀⟩ := e.start_sound
  have start : ∃ record batch rest settled,
      Shift.Sound e.seat e.post e.start record batch rest settled := ⟨record₀, [], rest₀, [], sound₀⟩
  refine ⟨fun tag => ?_, fun event settles => ?_⟩
  · rw [Shift.run_spoiled_iff e.auto rfl start spared ran]
    exact or_iff_right fun ⟨processed, _⟩ => absurd processed List.not_mem_nil
  · obtain ⟨record, batch, rest, settled, sound⟩ := Shift.run_sound e.auto rfl start spared ran
    obtain ⟨s', _, gone, _, stepped, advances, buries, -⟩ :=
      Shift.settles_advances e.auto rfl sound settles
    exact ⟨s', stepped, gone, advances.verdicts, buries.front, buries.deadLetters⟩

/-- After a success, the next delivery is rejected for good; both become dead letters. -/
theorem Engagement.run_rejects_success_iff_atThree :
    ∃ s, (Engagement.atThree true).start.run (Engagement.atThree true).seat
        (Engagement.atThree true).post
        [.receive (.ok ()), .receive (.error (.reject "no"))] = .ok s ∧
      s.Spoiled 1 ∧ ∃ before event after middle,
        [.receive (.ok ()), .receive (.error (.reject "no"))] = before ++ event :: after ∧
        (Engagement.atThree true).start.run (Engagement.atThree true).seat
          (Engagement.atThree true).post before = .ok middle ∧
        middle.Spoils (Engagement.atThree true).settings event 1 := by
  obtain ⟨s, ran, seen⟩ := Engagement.exists_of_runAtThree
    (show (Engagement.runAtThree true [.receive (.ok ()),
      .receive (.error (.reject "no"))]).toOption.map
        (fun s => (s.processed.head?, s.verdicts)) =
      some (some (1, .success), [(1, .nack false), (2, .nack false)]) by decide +kernel)
  obtain ⟨processed, verdicts⟩ := Prod.mk.inj seen
  have spoiled : s.Spoiled 1 := by
    refine ⟨List.mem_of_mem_head? processed, ?_⟩
    rw [verdicts]
    exact List.mem_cons_self
  have spared : ∀ op, ShiftEvent.elsewhere op ∈ [ShiftEvent.receive (.ok ()),
      .receive (.error (.reject "no"))] → (Engagement.atThree true).seat.Spares op := by simp
  exact ⟨s, ran, spoiled,
    (((Engagement.atThree true).run_rejects_success_iff spared ran).1 1).mp spoiled⟩

/-- **A processed success can end in the dead letters**: it was deferred on a transactional channel
when the next delivery was rejected for good. -/
theorem Engagement.success_in_deadLetters :
    ∃ s, (Engagement.atThree true).start.run (Engagement.atThree true).seat
        (Engagement.atThree true).post
        [.receive (.ok ()), .receive (.error (.reject "no"))] = .ok s ∧
      (1, .success) ∈ s.processed ∧ (1, .nack false) ∈ s.verdicts ∧
      s.broker.deadLetters.toList.map (fun letter => (letter.queue, letter.message.payload)) =
        [("orders", ⟨#[1]⟩), ("orders", ⟨#[2]⟩)] := by
  obtain ⟨s, ran, seen⟩ := Engagement.exists_of_runAtThree
    (show (Engagement.runAtThree true [.receive (.ok ()),
      .receive (.error (.reject "no"))]).toOption.map
        (fun s => (s.processed.head?, s.verdicts, s.broker.deadLetters.toList.map fun letter =>
          (letter.queue, letter.message.payload))) =
      some (some (1, .success), [(1, .nack false), (2, .nack false)],
        [("orders", ⟨#[1]⟩), ("orders", ⟨#[2]⟩)]) by decide +kernel)
  obtain ⟨processed, seen'⟩ := Prod.mk.inj seen
  obtain ⟨verdicts, letters⟩ := Prod.mk.inj seen'
  refine ⟨s, ran, List.mem_of_mem_head? processed, ?_, letters⟩
  rw [verdicts]
  exact List.mem_cons_self

end QueueListener
