import QueueListener.Proofs.Consumer.Issuing
import QueueListener.Proofs.Consumer.Shift
/-!
# The entries of a desk

**The ledger of a channel shows what its consumer has decided.** Work at the desk that succeeds
enters exactly the operations that its actions ask for, in their order.

* `Desk.Enters` — what work enters when it succeeds;
* `perform_enters`, `settle_enters`, `turnAway_enters`, `flush_enters` — the work of a consumer;
* `Shift.quiet_advances`, `Shift.step_ledger` — an event with which the consumer settles nothing
  keeps the batch, and enters nothing.
-/

namespace QueueListener

open Broker

namespace Desk

/-- Work at a desk that succeeds adds these entries to the ledger of a channel. -/
def Enters {α : Type} (work : DeskWork α) (desk : Desk) (channel : Nat)
    (entries : List ChannelAction) : Prop :=
  ∀ a after, work.run desk = (.ok a, after) →
    after.client.broker.ledger channel = desk.client.broker.ledger channel ++ entries

variable {α : Type} {work : DeskWork α} {desk : Desk} {post : Post} {channel : Nat}
  {entries : List ChannelAction}

/-- **Work that succeeds enters what it asks for.** -/
theorem Issues.enters (issues : Issues work desk channel entries)
    (settle : ∀ request ∈ entries, request.settles = true) :
    Enters work desk channel entries := by
  intro a after ran
  unfold Issues at issues
  rw [ran] at issues
  exact Client.issueAll_ledger settle issues

/-- An action enters what it asks for. -/
theorem perform_enters (tag : Nat) (action : AckAction) :
    Enters (perform post tag action) desk post.channel
      (action.entries tag desk.lastDeferred) :=
  (perform_issues tag action).enters (AckAction.entries_settle _ _ _)

/-- A delivery that is settled enters the action of its situation. -/
theorem settle_enters (tag : Nat) (outcome : Outcome) :
    Enters (settle post tag outcome) desk post.channel
      ((desk.situation post outcome false).action.entries tag desk.lastDeferred) :=
  (settle_issues _ _ tag outcome).enters (AckAction.entries_settle _ _ _)

/-- A delivery that is turned away enters the action for a stop. -/
theorem turnAway_enters (tag : Nat) :
    Enters (turnAway post tag) desk post.channel
      ((desk.situation post .stopping false).action.entries tag desk.lastDeferred) :=
  (turnAway_issues _ _ tag).enters (AckAction.entries_settle _ _ _)

/-- A flush enters the acknowledgement of the batch. -/
theorem flush_enters {last : Nat} (latest : desk.lastDeferred = some last)
    (several : 0 < desk.deferred) :
    Enters (flush post) desk post.channel
      ((if post.settings.transacted then AckAction.ackAndCommit (1 < desk.deferred)
        else .ack (1 < desk.deferred)).entries last desk.lastDeferred) :=
  (flush_issues latest several).enters (AckAction.entries_settle _ _ _)

/-- Without a batch a flush enters nothing. -/
theorem flush_enters_nil (empty : desk.lastDeferred = none) :
    Enters (flush post) desk post.channel [] :=
  (flush_issues_nil empty).enters fun _ member => absurd member List.not_mem_nil

end Desk

namespace Shift

variable {seat : Seat} {post : Post} {s s' : Shift}

/-- What is observed after work is what the work has entered. -/
theorem work_ledger {deskWork : DeskWork Unit} {channel : Nat} {entries : List ChannelAction}
    (worked : s.work seat deskWork = .ok s') (enters : Desk.Enters deskWork s.desk channel entries) :
    s'.broker.ledger channel = s.broker.ledger channel ++ entries := by
  unfold work at worked
  split at worked
  next after ran =>
    cases worked
    exact enters () after ran
  next => cases worked

/-- An answer of the listener enters the action for its outcome. -/
theorem receive_ledger {delivery : Delivery} {others : List Delivery}
    (waits : s.inbox = delivery :: others) {result : Except ListenerError Unit}
    (stepped : s.step seat post (.receive result) = .ok s') :
    s'.broker.ledger post.channel = s.broker.ledger post.channel ++
      (s.desk.situation post (post.settings.outcomeOf result) false).action.entries delivery.tag
        s.desk.lastDeferred := by
  unfold step at stepped
  rw [waits] at stepped
  dsimp only at stepped
  have entered := work_ledger stepped (Desk.settle_enters delivery.tag _)
  exact entered

/-- A delivery that is turned away enters the action for a stop. -/
theorem turnAway_ledger {delivery : Delivery} {others : List Delivery}
    (waits : s.inbox = delivery :: others) (stepped : s.step seat post .turnAway = .ok s') :
    s'.broker.ledger post.channel = s.broker.ledger post.channel ++
      (s.desk.situation post .stopping false).action.entries delivery.tag s.desk.lastDeferred := by
  unfold step at stepped
  rw [waits] at stepped
  dsimp only at stepped
  have entered := work_ledger stepped (Desk.turnAway_enters delivery.tag)
  exact entered

/-- An event with which the consumer settles nothing keeps what was processed, and the batch. -/
theorem quiet_advances (auto : post.settings.ackMode = .auto) (here : post.channel = seat.channel)
    {record : ChannelRecord} {batch rest : List Unacked} {settled : List (Nat × Outcome)}
    (sound : Sound seat post s record batch rest settled) {event : ShiftEvent}
    (settles : ¬ event.Settles) (spares : ∀ op, event = .elsewhere op → seat.Spares op)
    (stepped : s.step seat post event = .ok s') : Advances seat post s s' [] [] batch := by
  cases event with
  | receive | turnAway | idle => exact absurd trivial settles
  | poll => exact poll_advances auto here sound stepped
  | cancel consumerTag =>
    obtain ⟨_, cancelled, advances⟩ := cancel_advances here sound consumerTag
    obtain rfl := Except.ok.inj (cancelled.symm.trans stepped)
    exact advances
  | elsewhere op =>
    obtain ⟨_, happened, advances⟩ := elsewhere_advances sound (spares op rfl)
    obtain rfl := Except.ok.inj (happened.symm.trans stepped)
    exact advances
  | counted metrics =>
    obtain rfl := Except.ok.inj stepped
    exact counted_advances sound metrics

/-- **An event with which the consumer settles nothing enters nothing.** -/
theorem step_ledger (tidy : s.broker.Tidy) {event : ShiftEvent} (settles : ¬ event.Settles)
    (spares : ∀ op, event = .elsewhere op → seat.Spares op)
    (stepped : s.step seat post event = .ok s') :
    s'.broker.ledger seat.channel = s.broker.ledger seat.channel := by
  unfold step at stepped
  cases event with
  | receive | turnAway | idle => exact absurd trivial settles
  | poll =>
    dsimp only at stepped
    split at stepped
    next delivery? broker got =>
      cases stepped
      have undisturbed : Undisturbed seat.channel s.broker _ :=
        get_undisturbed s.broker post.channel post.queue post.settings.ackMode.unacknowledged
      have same := undisturbed.ledger
      rwa [got] at same
    next => cases stepped
  | cancel consumerTag =>
    dsimp only at stepped
    split at stepped
    next broker cancelled =>
      cases stepped
      have undisturbed : Undisturbed seat.channel s.broker _ :=
        cancel_undisturbed s.broker post.channel consumerTag
      have same := undisturbed.ledger
      rwa [cancelled] at same
    next => cases stepped
  | elsewhere op =>
    cases stepped
    exact (step_undisturbed tidy (spares op rfl).not_settlesOn).ledger
  | counted metrics =>
    cases stepped
    rfl

end Shift

end QueueListener
