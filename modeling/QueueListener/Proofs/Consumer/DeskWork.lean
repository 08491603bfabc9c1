import QueueListener.Proofs.Consumer.Desk
import QueueListener.Proofs.Consumer.Requests
/-!
# What work at a desk is made of

**All work at a desk is made of requests on its channel, of counting, and of changes of the batch**,
and it settles nothing but the delivery of the desk and the batch. What each of these keeps, all work
keeps, whether it succeeds or fails.

* `Desk.Concerns` — the settlements of a desk;
* `Desk.Permits` — a relation along which everything moves that a desk does for one delivery;
* `perform_permitted`, `settle_permitted`, `flush_permitted`, `turnAway_permitted`,
  `conclude_permitted` — the work of a consumer;
* `asks_permits`, `settle_asks`, … — so all of it is made of requests on the channel.
-/

namespace QueueListener

namespace Desk

/-- A settlement on the channel of a desk that is about its delivery or about its batch. -/
def Concerns (desk : Desk) (post : Post) (tag channel : Nat) (s : Settlement) : Prop :=
  channel = post.channel ∧ (s.tag = tag ∨ desk.lastDeferred = some s.tag)

/-- A relation along which everything moves that a desk does for a delivery. -/
structure Permits (post : Post) (tag : Nat) (R : Desk → Desk → Prop) : Prop where
  refl : ∀ desk, R desk desk
  trans : ∀ desk middle after, R desk middle → R middle after → R desk after
  asks : ∀ (desk : Desk) (client : Client), desk.client.Works (desk.Concerns post tag) client →
    R desk { desk with client }
  counts : ∀ (desk : Desk) (operation : ChannelOperation),
    R desk { desk with metrics := desk.metrics.increment (.operation post.queue operation) }
  resets : ∀ desk : Desk, R desk { desk with deferred := 0, lastDeferred := none }
  defers : ∀ desk : Desk,
    R desk { desk with deferred := desk.deferred + 1, lastDeferred := some tag }
  shows : ∀ desk : Desk, R desk { desk with shownDeferred := desk.deferred }

variable {post : Post} {tag : Nat} {R : Desk → Desk → Prop} {α β : Type}

namespace Permits

variable (permits : Permits post tag R)
include permits

theorem done (a : α) : Moves R (pure a : DeskWork α) := pure_moves permits.refl a

theorem bind {first : DeskWork α} {next : α → DeskWork β} (begins : Moves R first)
    (goesOn : ∀ a, Moves R (next a)) : Moves R (first >>= next) :=
  Moves.bind permits.trans begins goesOn

theorem look {next : Desk → DeskWork α} (goesOn : ∀ desk, Moves R (next desk)) :
    Moves R ((get : DeskWork Desk) >>= next) :=
  permits.bind (get_moves permits.refl) goesOn

/-- The delivery of the desk is acknowledged, or the batch. -/
theorem ack {desk : Desk} {other : Nat} (own : other = tag ∨ desk.lastDeferred = some other)
    (multiple : Bool) : R desk ((ack post other multiple).run desk).2 :=
  permits.asks desk _ (desk.client.ack_works ⟨rfl, own⟩)

theorem nack (multiple requeue : Bool) : Moves R (nack post tag multiple requeue) :=
  fun desk => permits.asks desk _ (desk.client.nack_works ⟨rfl, .inl rfl⟩)

theorem commit : Moves R (commit post) := fun desk => permits.asks desk _ (desk.client.commit_works _)

theorem rollback : Moves R (rollback post) :=
  fun desk => permits.asks desk _ (desk.client.rollback_works _)

theorem counted (operation : ChannelOperation) : Moves R (countOperation post operation) :=
  modify_moves fun desk => permits.counts desk operation

theorem reset : Moves R resetBatch := modify_moves permits.resets

/-- What follows an acknowledgement of the delivery or of the batch. -/
theorem acks {desk : Desk} {other : Nat} (own : other = tag ∨ desk.lastDeferred = some other)
    (multiple : Bool) {next : DeskWork α} (goesOn : Moves R next) :
    R desk ((do Desk.ack post other multiple; next).run desk).2 :=
  run_bind_moves permits.trans (permits.ack own multiple) fun _ _ => goesOn _

theorem ackBatch (wanted : Bool) : Moves R (ackBatch post wanted) := by
  intro desk
  unfold Desk.ackBatch
  rw [run_get_bind]
  split
  next last latest =>
    split
    next => exact permits.acks (.inr latest) true (permits.counted _)
    next => exact permits.refl desk
  next => exact permits.refl desk

/-- An acknowledgement on the channel, with a commit on a transactional one. -/
theorem acknowledges {desk : Desk} {other : Nat} (own : other = tag ∨ desk.lastDeferred = some other)
    (multiple committed : Bool) : R desk ((onChannel post other
      (if committed then .ackAndCommit multiple else .ack multiple)).run desk).2 := by
  cases committed with
  | true =>
    exact permits.acks own multiple (permits.bind permits.commit fun _ =>
      permits.bind (permits.counted _) fun _ => permits.bind (permits.counted _) fun _ =>
        permits.reset)
  | false =>
    exact permits.acks own multiple (permits.bind (permits.counted _) fun _ => permits.reset)

/-- What an action does on the channel. -/
theorem onChannel (action : AckAction) : Moves R (onChannel post tag action) := by
  cases action with
  | nothing | joinTransaction | rollbackTransaction => exact permits.done ()
  | defer => exact modify_moves permits.defers
  | ack multiple => exact fun desk => permits.acknowledges (.inl rfl) multiple false
  | ackAndCommit multiple => exact fun desk => permits.acknowledges (.inl rfl) multiple true
  | commit => exact permits.bind permits.commit fun _ => permits.counted _
  | rollback => exact permits.bind permits.rollback fun _ => permits.counted _
  | nack requeue ackDeferred =>
    exact permits.bind (permits.ackBatch ackDeferred) fun _ =>
      permits.bind (permits.nack false requeue) fun _ => permits.bind (permits.counted _)
        fun _ => permits.reset
  | rollbackAndNack requeue multiple =>
    exact permits.bind permits.rollback fun _ =>
      permits.bind (permits.nack multiple requeue) fun _ => permits.bind permits.commit
        fun _ => permits.bind (permits.counted _) fun _ => permits.bind (permits.counted _)
          fun _ => permits.reset

end Permits

variable (permits : Permits post tag R)
include permits

/-- **All actions of the acknowledgement policy.** -/
theorem perform_permitted (action : AckAction) : Moves R (perform post tag action) :=
  permits.bind (permits.onChannel action) fun _ => modify_moves permits.shows

theorem settle_permitted (outcome : Outcome) : Moves R (settle post tag outcome) :=
  permits.look fun _ => perform_permitted permits _

/-- **The acknowledgement of the batch**, which adds nothing to it. -/
theorem flush_permitted : Moves R (flush post) := by
  intro desk
  unfold flush
  rw [run_get_bind]
  split
  next last latest =>
    split
    next =>
      exact run_bind_moves permits.trans (permits.acknowledges (.inr latest) _ _)
        fun _ _ => permits.shows _
    next => exact permits.refl desk
  next => exact permits.refl desk

/-- **A delivery that is turned away**, if it may be counted as such. -/
theorem turnAway_permitted (counted : ∀ desk : Desk, R desk { desk with
      metrics := desk.metrics.increment (.delivery post.queue .rejectedWhileStopping) }) :
    Moves R (turnAway post tag) :=
  permits.bind (modify_moves counted) fun _ => settle_permitted permits .stopping

/-- **The conclusion of an external transaction.** -/
theorem conclude_permitted (ending : Ending) (requeue : Bool)
    (observed : Option TransactionOutcome) :
    Moves R (conclude post tag ending requeue observed) := by
  unfold conclude
  split
  next outcome =>
    cases outcome with
    | committed =>
      refine fun desk => permits.acks (.inl rfl) false ?_
      split
      next => exact permits.commit
      next => exact permits.done ()
    | rolledBack =>
      dsimp only [afterCompletion]
      split
      next =>
        exact permits.bind permits.rollback fun _ => permits.bind (permits.nack false requeue)
          fun _ => permits.commit
      next => exact permits.bind (permits.nack false requeue) fun _ => permits.done ()
  next => exact perform_permitted permits _

omit permits

/-- Work at a desk that is made of requests on its channel. -/
abbrev Asks {α : Type} (post : Post) (work : DeskWork α) : Prop :=
  Moves (fun desk desk' : Desk =>
    desk.client.Works (fun channel _ => channel = post.channel) desk'.client) work

theorem asks_permits (post : Post) (tag : Nat) : Permits post tag fun desk desk' : Desk =>
    desk.client.Works (fun channel _ => channel = post.channel) desk'.client where
  refl _ := .refl _ _
  trans _ _ _ := .trans
  asks _ _ works := works.mono fun _ _ concerns => concerns.1
  counts _ _ := .refl _ _
  resets _ := .refl _ _
  defers _ := .refl _ _
  shows _ := .refl _ _

variable (post : Post) (tag : Nat)

theorem perform_asks (action : AckAction) : Asks post (perform post tag action) :=
  perform_permitted (asks_permits post tag) action

theorem settle_asks (outcome : Outcome) : Asks post (settle post tag outcome) :=
  settle_permitted (asks_permits post tag) outcome

theorem flush_asks : Asks post (flush post) := flush_permitted (asks_permits post 0)

theorem turnAway_asks : Asks post (turnAway post tag) :=
  turnAway_permitted (asks_permits post tag) fun _ => .refl _ _

theorem conclude_asks (ending : Ending) (requeue : Bool) (observed : Option TransactionOutcome) :
    Asks post (conclude post tag ending requeue observed) :=
  conclude_permitted (asks_permits post tag) ending requeue observed

end Desk

end QueueListener
