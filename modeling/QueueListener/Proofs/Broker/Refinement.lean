import QueueListener.Proofs.Broker.Saturation
import QueueListener.Proofs.Broker.Settling
/-!
# A transactional channel refines a plain one

**Without push consumers, what a transactional channel is asked for happens at its commit as it
would have happened on a plain channel at once.** A verdict takes no notice of what waits for a
commit, so it makes no difference when it is carried out.

* `Alike` — brokers with the same queues, unsettled deliveries, dead letters and departures;
* `Alike.settle` — a verdict makes alike brokers alike;
* `Unattended.dispatchAll_eq` — without push consumers nothing is dispatched;
* `Accepts`, `acknowledgeAll` — settlements that a channel is asked for one after the other;
* `transactional_refines_plain` — the statement for all brokers and all sequences of settlements.
-/

namespace QueueListener.Broker

/-- The unsettled deliveries of a channel, if there is such a channel. -/
def unackedOn (b : Broker) (channel : Nat) : Option (List Unacked) :=
  (b.channels.get? channel).map (·.unacked)

/-- Brokers that agree on where every message is. -/
structure Alike (b b' : Broker) : Prop where
  queues : b'.queues = b.queues
  unacked : ∀ channel, b'.unackedOn channel = b.unackedOn channel
  deadLetters : b'.deadLetters = b.deadLetters
  departures : b'.departures = b.departures

/-- No queue has a push consumer. -/
def Unattended (b : Broker) : Prop := ∀ queue, b.consumerCount queue = 0

/-- The broker with a plain channel in place of a transactional one. -/
def plain (b : Broker) (channel : Nat) : Broker :=
  b.updateChannel channel fun record => { record with transactional := false, pending := [] }

/-- A channel is asked for settlements, one after the other. -/
def acknowledgeAll (b : Broker) (channel : Nat) (settlements : List Settlement) : Broker :=
  settlements.foldl (fun b settlement => (b.acknowledge channel settlement).2) b

/-- None of the settlements is refused. -/
def Accepts (b : Broker) (channel : Nat) : List Settlement → Prop
  | [] => True
  | settlement :: rest => (b.acknowledge channel settlement).1 = .ok () ∧
      (b.acknowledge channel settlement).2.Accepts channel rest

/-- Settlements are carried out, one after the other. -/
def settleAll (b : Broker) (channel : Nat) (settlements : List Settlement) : Broker :=
  settlements.foldl (·.settle channel) b

/-! ### Alike brokers -/

namespace Alike

variable {b b' b'' : Broker}

theorem refl (b : Broker) : Alike b b := ⟨rfl, fun _ => rfl, rfl, rfl⟩

theorem symm (alike : Alike b b') : Alike b' b :=
  ⟨alike.queues.symm, fun channel => (alike.unacked channel).symm, alike.deadLetters.symm,
    alike.departures.symm⟩

theorem trans (first : Alike b b') (second : Alike b' b'') : Alike b b'' :=
  ⟨second.queues.trans first.queues,
    fun channel => (second.unacked channel).trans (first.unacked channel),
    second.deadLetters.trans first.deadLetters, second.departures.trans first.departures⟩

theorem of_record (b : Broker) (channel : Nat) (action : ChannelAction) :
    Alike b (b.record channel action) := ⟨rfl, fun _ => rfl, rfl, rfl⟩

/-- A channel whose unsettled deliveries stay. -/
theorem of_channel (b : Broker) (channel : Nat) {f : ChannelRecord → ChannelRecord}
    (same : ∀ record, (f record).unacked = record.unacked) :
    Alike b (b.updateChannel channel f) := by
  refine ⟨rfl, fun other => ?_, rfl, rfl⟩
  unfold unackedOn updateChannel
  dsimp only
  rw [Table.get?_modify]
  split
  next =>
    rw [Option.map_map]
    exact congrArg (Option.map · _) (funext same)
  next => rfl

theorem unattended (alike : Alike b b') (unattended : b.Unattended) : b'.Unattended := by
  intro queue
  rw [consumerCount, alike.queues]
  exact unattended queue

/-- Deliveries are let go of on the same channel. -/
theorem without (alike : Alike b b') (channel : Nat) (settlement : Settlement) :
    Alike (b.updateChannel channel (·.without settlement))
      (b'.updateChannel channel (·.without settlement)) := by
  refine ⟨alike.queues, fun other => ?_, alike.deadLetters, alike.departures⟩
  have lists : ∀ b : Broker, (b.updateChannel channel (·.without settlement)).unackedOn other =
      if other = channel then (b.unackedOn other).map
        (·.filter fun entry => !settlement.covers entry.tag) else b.unackedOn other := by
    intro b
    unfold unackedOn updateChannel
    dsimp only
    rw [Table.get?_modify]
    split
    next same =>
      rw [same, Option.map_map, Option.map_map]
      rfl
    next => rfl
  rw [lists, lists, alike.unacked]

theorem giveBack (alike : Alike b b') (entry : Unacked) :
    Alike (b.giveBack entry) (b'.giveBack entry) := by
  unfold Broker.giveBack
  rw [alike.queues]
  dsimp only
  split
  next =>
    refine ⟨?_, alike.unacked, alike.deadLetters, alike.departures⟩
    unfold updateQueue
    rw [alike.queues]
  next =>
    refine ⟨rfl, alike.unacked, ?_, alike.departures⟩
    rw [alike.deadLetters]

theorem giveBackAll (alike : Alike b b') (entries : List Unacked) :
    Alike (b.giveBackAll entries) (b'.giveBackAll entries) := by
  induction entries with
  | nil => exact alike
  | cons entry rest ih => exact ih.giveBack entry

/-- **A verdict depends on nothing else.** -/
theorem settle (alike : Alike b b') (channel : Nat) (settlement : Settlement) :
    Alike (b.settle channel settlement) (b'.settle channel settlement) := by
  have same := alike.unacked channel
  unfold unackedOn at same
  unfold Broker.settle
  cases found : b.channels.get? channel with
  | none =>
    rw [found, Option.map_none, Option.map_eq_none_iff] at same
    rw [same]
    exact alike
  | some record =>
    rw [found, Option.map_some, Option.map_eq_some_iff] at same
    obtain ⟨record', found', unacked⟩ := same
    rw [found']
    dsimp only
    rw [unacked]
    have taken := alike.without channel settlement
    split
    next =>
      exact ⟨taken.queues, taken.unacked, taken.deadLetters,
        congrArg (· ++ _) alike.departures⟩
    next => exact taken.giveBackAll _
    next =>
      exact ⟨taken.queues, taken.unacked, congrArg (· ++ _) alike.deadLetters, taken.departures⟩

theorem settleAll (alike : Alike b b') (channel : Nat) (settlements : List Settlement) :
    Alike (b.settleAll channel settlements) (b'.settleAll channel settlements) := by
  induction settlements generalizing b b' with
  | nil => exact alike
  | cons settlement rest ih => exact ih (alike.settle channel settlement)

end Alike

/-! ### Brokers without push consumers -/

namespace Unattended

variable {b : Broker}

theorem pushNext?_eq_none (unattended : b.Unattended) (queue : String) :
    b.pushNext? queue = none := by
  refine pushNext?_eq_none_iff.mpr fun record found _ tag listed => ?_
  have none := unattended queue
  rw [consumerCount, found, List.length_eq_zero_iff] at none
  rw [none] at listed
  cases listed

/-- **Nothing is dispatched.** -/
theorem dispatchAll_eq (unattended : b.Unattended) : b.dispatchAll = b :=
  List.foldlRecOn (motive := fun after => after = b) b.queues.keys dispatch rfl
    fun after same queue _ => by
      rw [same]
      exact pushUpTo_of_none (unattended.pushNext?_eq_none queue) _

/-- A queue that gets messages gets no consumers. -/
theorem updateQueue (unattended : b.Unattended) (queue : String) {f : QueueRecord → QueueRecord}
    (same : ∀ record, (f record).consumers = record.consumers) :
    (b.updateQueue queue f).Unattended := by
  intro other
  have before := unattended other
  unfold consumerCount at before
  unfold consumerCount Broker.updateQueue
  dsimp only
  rw [Table.get?_modify]
  split
  next record found =>
    split at found
    next =>
      obtain ⟨old, there, rfl⟩ := Option.map_eq_some_iff.mp found
      rw [there] at before
      rw [same]
      exact before
    next =>
      rw [found] at before
      exact before
  next => rfl

theorem settle (unattended : b.Unattended) (channel : Nat) (settlement : Settlement) :
    (b.settle channel settlement).Unattended := by
  unfold Broker.settle
  split
  next => exact unattended
  next =>
    dsimp only
    split
    next => exact unattended
    next =>
      refine giveBackAll_induction (motive := Unattended) _ (fun after entry kept => ?_) _
        unattended
      unfold giveBack
      dsimp only
      split
      next => exact kept.updateQueue entry.queue fun _ => rfl
      next => exact kept
    next => exact unattended

theorem settleAll (unattended : b.Unattended) (channel : Nat) (settlements : List Settlement) :
    (b.settleAll channel settlements).Unattended :=
  List.foldlRecOn settlements _ unattended fun _ kept settlement _ => kept.settle channel settlement

end Unattended

/-! ### Settlements one after the other -/

theorem submit_alike (b : Broker) (channel : Nat) (settlement : Settlement) :
    Alike b (b.submit channel settlement) :=
  (Alike.of_record b channel _).trans
    (.of_channel _ channel (f := fun record =>
      { record with pending := record.pending ++ [settlement] }) fun _ => rfl)

theorem clearPending_alike (b : Broker) (channel : Nat) (action : ChannelAction) :
    Alike b (b.clearPending channel action) :=
  (Alike.of_channel b channel (f := fun record => { record with pending := [] }) fun _ => rfl).trans
    (.of_record _ channel action)

section Channel

variable {b : Broker} {channel : Nat} {record : ChannelRecord}

/-- A settlement that is not refused covers something. -/
theorem covers_of_accepted (opened : b.openChannel? channel = some record) {settlement : Settlement}
    (accepted : (b.acknowledge channel settlement).1 = .ok ()) :
    (record.unacked.any fun entry => settlement.covers entry.tag) = true := by
  unfold acknowledge at accepted
  rw [opened] at accepted
  dsimp only at accepted
  split at accepted
  next covered => exact covered
  next => cases accepted

/-- A plain channel that does not refuse a settlement carries it out. -/
theorem acknowledge_of_plain (unattended : b.Unattended)
    (opened : b.openChannel? channel = some record) (isPlain : record.transactional = false)
    {settlement : Settlement} (accepted : (b.acknowledge channel settlement).1 = .ok ()) :
    Alike (b.settle channel settlement) (b.acknowledge channel settlement).2 ∧
      (b.acknowledge channel settlement).2.Unattended ∧
      (b.acknowledge channel settlement).2.openChannel? channel =
        some (record.without settlement) := by
  have noted : Alike b (b.record channel (.settle settlement)) := .of_record b channel _
  have recorded : (b.record channel (.settle settlement)).openChannel? channel = some record :=
    opened
  have kept := (noted.unattended unattended).settle channel settlement
  have result : (b.acknowledge channel settlement).2 =
      (b.record channel (.settle settlement)).settle channel settlement := by
    unfold acknowledge
    rw [opened]
    dsimp only
    rw [if_pos (covers_of_accepted opened accepted),
      if_neg (by rw [isPlain]; exact Bool.false_ne_true)]
    exact kept.dispatchAll_eq
  rw [result]
  exact ⟨noted.settle channel settlement, kept, openChannel?_settle recorded settlement⟩

/-- A transactional channel takes down what covers something. -/
theorem acknowledge_of_transactional (opened : b.openChannel? channel = some record)
    (transactional : record.transactional = true) {settlement : Settlement}
    (covered : (record.unacked.any fun entry => settlement.covers entry.tag) = true) :
    b.acknowledge channel settlement = (.ok (), b.submit channel settlement) := by
  unfold acknowledge
  rw [opened]
  dsimp only
  rw [if_pos covered, if_pos transactional]
  rfl

/-- **A plain channel** carries out at once what it is asked for. -/
theorem acknowledgeAll_of_plain (unattended : b.Unattended)
    (opened : b.openChannel? channel = some record) (isPlain : record.transactional = false)
    (settlements : List Settlement) (accepted : b.Accepts channel settlements) :
    Alike (b.settleAll channel settlements) (b.acknowledgeAll channel settlements) := by
  induction settlements generalizing b record with
  | nil => exact .refl b
  | cons settlement rest ih =>
    obtain ⟨now, later⟩ := accepted
    obtain ⟨alike, kept, opened'⟩ := acknowledge_of_plain unattended opened isPlain now
    exact (alike.settleAll channel rest).trans (ih kept opened' isPlain later)

/-- **A transactional channel** only takes down what it is asked for, if a plain channel with no
more unsettled deliveries would accept it. -/
theorem acknowledgeAll_of_transactional {twin : Broker} {record' : ChannelRecord}
    (opened : b.openChannel? channel = some record) (transactional : record.transactional = true)
    (unattended : twin.Unattended) (opened' : twin.openChannel? channel = some record')
    (isPlain : record'.transactional = false) (fewer : record'.unacked ⊆ record.unacked)
    (settlements : List Settlement) (accepted : twin.Accepts channel settlements) :
    b.Accepts channel settlements ∧ Alike b (b.acknowledgeAll channel settlements) ∧
      (b.acknowledgeAll channel settlements).openChannel? channel =
        some { record with pending := record.pending ++ settlements } := by
  induction settlements generalizing b record twin record' with
  | nil =>
    refine ⟨trivial, .refl b, ?_⟩
    rw [List.append_nil]
    exact opened
  | cons settlement rest ih =>
    obtain ⟨now, later⟩ := accepted
    obtain ⟨-, kept, reached⟩ := acknowledge_of_plain unattended opened' isPlain now
    -- The plain channel has settled something before, so it has fewer deliveries to cover.
    have covered : (record.unacked.any fun entry => settlement.covers entry.tag) = true := by
      obtain ⟨entry, member, covers⟩ := List.any_eq_true.mp (covers_of_accepted opened' now)
      exact List.any_eq_true.mpr ⟨entry, fewer member, covers⟩
    have result := acknowledge_of_transactional opened transactional covered
    have waits : (b.submit channel settlement).openChannel? channel =
        some { record with pending := record.pending ++ [settlement] } := by
      have isOpen : record.isOpen = true := isOpen_of_openChannel? opened
      have recorded : (b.record channel (.settle settlement)).openChannel? channel = some record :=
        opened
      exact openChannel?_updateChannel recorded _ isOpen
    obtain ⟨accepts, alike, waiting⟩ := ih waits transactional kept reached isPlain
      (fun _ member => fewer (List.filter_subset_self _ member)) later
    rw [List.append_assoc] at waiting
    unfold Accepts acknowledgeAll
    rw [List.foldl_cons, result]
    exact ⟨⟨rfl, accepts⟩, (submit_alike b channel settlement).trans alike, waiting⟩

/-- **A commit** carries out what waits. -/
theorem commit_carries_out (unattended : b.Unattended)
    (opened : b.openChannel? channel = some record) (transactional : record.transactional = true) :
    (b.commit channel).1 = .ok () ∧
      Alike (b.settleAll channel record.pending) (b.commit channel).2 := by
  have cleared := b.clearPending_alike channel .commit
  have kept := (cleared.unattended unattended).settleAll channel record.pending
  have result : b.commit channel =
      (.ok (), (b.clearPending channel .commit).settleAll channel record.pending) := by
    unfold commit
    rw [opened]
    dsimp only
    rw [if_pos transactional]
    exact congrArg (Prod.mk _) kept.dispatchAll_eq
  rw [result]
  exact ⟨rfl, cleared.settleAll channel record.pending⟩

/-- **A rollback** forgets what waits, and nothing else. -/
theorem rollback_forgets (opened : b.openChannel? channel = some record)
    (transactional : record.transactional = true) :
    (b.rollback channel).1 = .ok () ∧ Alike b (b.rollback channel).2 ∧
      (b.rollback channel).2.openChannel? channel = some { record with pending := [] } := by
  have isOpen : record.isOpen = true := isOpen_of_openChannel? opened
  have result : b.rollback channel = (.ok (), b.clearPending channel .rollback) := by
    unfold rollback
    rw [opened]
    dsimp only
    rw [if_pos transactional]
    rfl
  rw [result]
  exact ⟨rfl, b.clearPending_alike channel .rollback,
    openChannel?_updateChannel opened (fun record => { record with pending := [] }) isOpen⟩

end Channel

/-! ### All sequences -/

/-- **A transactional channel refines a plain one.** In a broker without push consumers let a
channel be open and transactional, and let a plain channel in its place accept settlements one after
the other. The transactional channel accepts them too, and no message moves. A commit then ends where
the plain channel ends; what waited on the channel before comes first, if a plain channel would
accept it too. A rollback moves no message, and neither does a commit after it. -/
theorem transactional_refines_plain {b : Broker} {channel : Nat} {record : ChannelRecord}
    (unattended : b.Unattended) (opened : b.openChannel? channel = some record)
    (transactional : record.transactional = true) {settlements : List Settlement}
    (accepted : (b.plain channel).Accepts channel settlements) :
    b.Accepts channel settlements ∧ Alike b (b.acknowledgeAll channel settlements) ∧
      ((b.plain channel).Accepts channel (record.pending ++ settlements) →
        ((b.acknowledgeAll channel settlements).commit channel).1 = .ok () ∧
        Alike ((b.plain channel).acknowledgeAll channel (record.pending ++ settlements))
          ((b.acknowledgeAll channel settlements).commit channel).2) ∧
      ((b.acknowledgeAll channel settlements).rollback channel).1 = .ok () ∧
      Alike b ((b.acknowledgeAll channel settlements).rollback channel).2 ∧
      (((b.acknowledgeAll channel settlements).rollback channel).2.commit channel).1 = .ok () ∧
      Alike ((b.acknowledgeAll channel settlements).rollback channel).2
        (((b.acknowledgeAll channel settlements).rollback channel).2.commit channel).2 := by
  have twins : Alike b (b.plain channel) := .of_channel b channel fun _ => rfl
  have isOpen : record.isOpen = true := isOpen_of_openChannel? opened
  have plainly : (b.plain channel).openChannel? channel =
      some { record with transactional := false, pending := [] } :=
    openChannel?_updateChannel opened _ isOpen
  have alone := twins.unattended unattended
  obtain ⟨accepts, alike, waiting⟩ := acknowledgeAll_of_transactional opened transactional alone
    plainly rfl (List.Subset.refl _) settlements accepted
  have unattended' := alike.unattended unattended
  obtain ⟨rolled, back, empty⟩ := rollback_forgets waiting transactional
  obtain ⟨committed, nothing⟩ :=
    commit_carries_out (back.unattended unattended') empty transactional
  refine ⟨accepts, alike, fun whole => ?_, rolled, alike.trans back, committed, nothing⟩
  obtain ⟨done, carried⟩ := commit_carries_out unattended' waiting transactional
  have reference := acknowledgeAll_of_plain alone plainly rfl _ whole
  refine ⟨done, reference.symm.trans (Alike.trans ?_ carried)⟩
  exact (twins.symm.trans alike).settleAll channel _

/-- Three deliveries on a transactional channel, with a rejection of the second one waiting. -/
def threeUnsettled : Broker :=
  run {} [.declare "q", .connect, .createChannel 1 true, .publish "q" ByteArray.empty {},
    .publish "q" ByteArray.empty {}, .publish "q" ByteArray.empty {}, .get 2 "q" false,
    .get 2 "q" false, .get 2 "q" false, .acknowledge 2 ⟨2, false, .nack true⟩]

/-- An acknowledgement that covers what waits, and a rejection for good. -/
theorem transactional_refines_plain_atThree :
    threeUnsettled.Unattended ∧
      (threeUnsettled.plain 2).Accepts 2
        [⟨2, false, .nack true⟩, ⟨2, true, .ack⟩, ⟨3, false, .nack false⟩] ∧
      Alike ((threeUnsettled.plain 2).acknowledgeAll 2
          [⟨2, false, .nack true⟩, ⟨2, true, .ack⟩, ⟨3, false, .nack false⟩])
        ((threeUnsettled.acknowledgeAll 2
          [⟨2, true, .ack⟩, ⟨3, false, .nack false⟩]).commit 2).2 := by
  have unattended : threeUnsettled.Unattended := by
    intro queue
    have entries : threeUnsettled.queues.entries = [("q", {})] := by decide
    unfold consumerCount Table.get?
    rw [entries]
    by_cases here : "q" = queue <;> simp [here]
  have opened : threeUnsettled.openChannel? 2 = some _ := rfl
  have whole : (threeUnsettled.plain 2).Accepts 2
      [⟨2, false, .nack true⟩, ⟨2, true, .ack⟩, ⟨3, false, .nack false⟩] :=
    ⟨rfl, rfl, rfl, trivial⟩
  have accepted : (threeUnsettled.plain 2).Accepts 2 [⟨2, true, .ack⟩, ⟨3, false, .nack false⟩] :=
    ⟨rfl, rfl, trivial⟩
  exact ⟨unattended, whole,
    ((transactional_refines_plain unattended opened rfl accepted).2.2.1 whole).2⟩

end QueueListener.Broker
