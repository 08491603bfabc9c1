import QueueListener.Proofs.Consumer.Transaction
/-!
# What a consumer counts

**A consumer counts its operations on the channel, but for two kinds**: the commit of a rejection on a
transactional channel, and everything with which a delivery is settled when its external transaction is
told to be complete. Apart from these the counters of its queue grow by what its operations enter in
the ledger.

* `Disposal` — how a delivery is settled; `Disposal.counted`, `Disposal.uncounted` — its operations;
* `Desk.Counts` — what work counts when it succeeds;
* `Desk.Disposes` — work that settles a delivery in a way: what it counts, and what it enters;
* `Shift.stepTransacted_meters` — one event of a consumer;
* `Shift.run_counts_iff` — any run: the counters agree with the ledger exactly when no delivery was
  settled in one of the two ways.
-/

namespace QueueListener

open Broker

/-! ### Operations -/

/-- The operation that an entry of the ledger stands for. -/
def ChannelAction.operation? : ChannelAction → Option ChannelOperation
  | .settle ⟨_, _, .ack⟩ => some .ack
  | .settle ⟨_, _, .nack _⟩ => some .nack
  | .commit => some .commit
  | .rollback => some .rollback
  | _ => none

/-- The operations in the ledger of a channel, oldest first. -/
def Broker.operationsOn (b : Broker) (channel : Nat) : List ChannelOperation :=
  (b.ledger channel).filterMap (·.operation?)

/-- The operations of an action that are counted; `last` is the last delivery of the batch. -/
def AckAction.counted (last : Option Nat) : AckAction → List ChannelOperation
  | .ack _ => [.ack]
  | .ackAndCommit _ => [.ack, .commit]
  | .commit => [.commit]
  | .rollback => [.rollback]
  | .nack _ ackDeferred => (if ackDeferred then last.toList.map fun _ => .ack else []) ++ [.nack]
  | .rollbackAndNack _ _ => [.rollback, .nack]
  | .nothing | .defer | .joinTransaction | .rollbackTransaction _ => []

/-- The operations of an action that are not counted. -/
def AckAction.uncounted : AckAction → List ChannelOperation
  | .rollbackAndNack _ _ => [.commit]
  | _ => []

/-- The operations of an action are those that are counted and those that are not. -/
theorem AckAction.entries_operations (tag : Nat) (last : Option Nat) (action : AckAction) :
    (action.entries tag last).filterMap (·.operation?) = action.counted last ++ action.uncounted := by
  cases action with
  | nack requeue ackDeferred => cases last <;> cases ackDeferred <;> rfl
  | _ => rfl

/-- How a delivery is settled. -/
inductive Disposal
  /-- By an action of the acknowledgement policy. -/
  | policy (action : AckAction)
  /-- As its external transaction was told to have completed. -/
  | completion (outcome : TransactionOutcome)

namespace Disposal

/-- The operations that are counted. -/
def counted (last : Option Nat) : Disposal → List ChannelOperation
  | .policy action => action.counted last
  | .completion _ => []

/-- The operations that are not counted. -/
def uncounted (transacted : Bool) : Disposal → List ChannelOperation
  | .policy action => action.uncounted
  | .completion .committed => if transacted then [.ack, .commit] else [.ack]
  | .completion .rolledBack => if transacted then [.rollback, .nack, .commit] else [.nack]

/-- Whether all operations are counted: no rejection is committed, and no transaction is complete. -/
def IsCounted : Disposal → Prop
  | .policy (.rollbackAndNack _ _) => False
  | .policy _ => True
  | .completion _ => False

theorem uncounted_eq_nil_iff {transacted : Bool} {disposal : Disposal} :
    disposal.uncounted transacted = [] ↔ disposal.IsCounted := by
  cases disposal with
  | policy action => cases action <;> simp [uncounted, AckAction.uncounted, IsCounted]
  | completion outcome => cases outcome <;> cases transacted <;> simp [uncounted, IsCounted]

end Disposal

/-- What was counted once more is counted once more, and nothing else is. -/
theorem Metrics.count_increment (m : Metrics) (counted other : Counted) :
    (m.increment counted).count other = m.count other + if other = counted then 1 else 0 := by
  show ((m.counters.set counted (m.count counted + 1)).get? other).getD 0 = _
  rw [Table.get?_set]
  split
  next same => rw [same]; rfl
  next => rfl

/-! ### Work at the desk -/

namespace Desk

/-- Work at a desk that succeeds counts these operations on the channels of a queue. -/
def Counts {α : Type} (work : DeskWork α) (desk : Desk) (queue : String)
    (counted : List ChannelOperation) : Prop :=
  ∀ a after, work.run desk = (.ok a, after) → ∀ operation,
    after.metrics.count (.operation queue operation) =
      desk.metrics.count (.operation queue operation) + counted.count operation

variable {α β : Type} {desk : Desk} {post : Post} {queue : String} {first : DeskWork α}
  {next : α → DeskWork β}

theorem Counts.bind {counted more : List ChannelOperation}
    (counts : Counts first desk queue counted)
    (continues : ∀ a middle, Counts (next a) middle queue more) :
    Counts (first >>= next) desk queue (counted ++ more) := by
  intro b after ran operation
  obtain ⟨a, middle, reached, ran'⟩ := run_bind_inv ran
  rw [continues a middle b after ran', counts a middle reached, List.count_append, Nat.add_assoc]

theorem pure_counts (a : α) : Counts (pure a) desk queue [] := by
  intro _ after ran operation
  cases ran
  rfl

/-- A change of the desk that counts nothing. -/
theorem modify_counts {f : Desk → Desk} (same : ∀ desk, (f desk).metrics = desk.metrics) :
    Counts (modify f) desk queue [] := by
  intro _ after ran operation
  cases ran
  exact congrArg (fun metrics : Metrics => metrics.count (.operation queue operation)) (same desk)

/-- A request of the client counts nothing by itself. -/
theorem request_counts (ask : Client → Except ClientError α × Client) :
    Counts (request ask) desk queue [] := by
  intro a after ran operation
  have asked : ((ask desk.client).1, { desk with client := (ask desk.client).2 }) =
    (.ok a, after) := ran
  cases (Prod.mk.inj asked).2
  rfl

theorem countOperation_counts (operation : ChannelOperation) :
    Counts (countOperation post operation) desk post.queue [operation] := by
  intro _ after ran other
  cases ran
  refine (Metrics.count_increment _ _ _).trans (congrArg _ ?_)
  by_cases same : other = operation
  · subst same
    rw [if_pos rfl, List.count_cons_self]
    rfl
  · rw [if_neg fun equal => same (Counted.operation.inj equal).2, List.count_cons_of_ne (Ne.symm same)]
    rfl

/-- What becomes of a delivery is counted elsewhere. -/
theorem countDelivery_counts (outcome : DeliveryOutcome) :
    Counts (count (.delivery queue outcome)) desk queue [] := by
  intro _ after ran operation
  cases ran
  exact (Metrics.count_increment _ _ _).trans (congrArg _ (if_neg nofun))

theorem resetBatch_counts : Counts resetBatch desk queue [] := modify_counts fun _ => rfl

theorem ackBatch_counts (wanted : Bool) :
    Counts (ackBatch post wanted) desk post.queue
      (if wanted then desk.lastDeferred.toList.map fun _ => .ack else []) := by
  intro a after ran
  unfold ackBatch at ran
  obtain ⟨_, _, reached, ran'⟩ := run_bind_inv ran
  cases reached
  refine (?_ : Counts _ desk post.queue _) a after ran'
  cases desk.lastDeferred with
  | none => cases wanted <;> exact pure_counts ()
  | some last =>
    cases wanted with
    | false => exact pure_counts ()
    | true => exact (request_counts _).bind fun _ _ => countOperation_counts .ack

/-- **What an action counts.** -/
theorem perform_counts (tag : Nat) (action : AckAction) :
    Counts (perform post tag action) desk post.queue (action.counted desk.lastDeferred) := by
  have shown : ∀ desk : Desk, Counts (modify fun desk => { desk with
      shownDeferred := desk.deferred }) desk post.queue [] := fun _ => modify_counts fun _ => rfl
  rw [← List.append_nil (action.counted desk.lastDeferred)]
  refine Counts.bind ?_ fun _ _ => shown _
  cases action with
  | nothing | joinTransaction | rollbackTransaction => exact pure_counts ()
  | defer => exact modify_counts fun _ => rfl
  | ack multiple =>
    exact (request_counts _).bind fun _ _ => (countOperation_counts .ack).bind fun _ _ =>
      resetBatch_counts
  | ackAndCommit multiple =>
    exact (request_counts _).bind fun _ _ => (request_counts _).bind fun _ _ =>
      (countOperation_counts .ack).bind fun _ _ => (countOperation_counts .commit).bind fun _ _ =>
        resetBatch_counts
  | commit => exact (request_counts _).bind fun _ _ => countOperation_counts .commit
  | rollback => exact (request_counts _).bind fun _ _ => countOperation_counts .rollback
  | nack requeue ackDeferred =>
    exact (ackBatch_counts ackDeferred).bind fun _ _ => (request_counts _).bind fun _ _ =>
      (countOperation_counts .nack).bind fun _ _ => resetBatch_counts
  | rollbackAndNack requeue multiple =>
    exact (request_counts _).bind fun _ _ => (request_counts _).bind fun _ _ =>
      (request_counts _).bind fun _ _ => (countOperation_counts .rollback).bind fun _ _ =>
        (countOperation_counts .nack).bind fun _ _ => resetBatch_counts

/-- The end of a transaction is not counted. -/
theorem afterCompletion_counts (tag : Nat) (requeue : Bool) (outcome : TransactionOutcome) :
    Counts (afterCompletion post tag requeue outcome) desk queue [] := by
  unfold afterCompletion
  cases outcome with
  | committed =>
    refine (request_counts _).bind fun _ _ => ?_
    split
    next => exact request_counts _
    next => exact pure_counts ()
  | rolledBack =>
    cases post.settings.transacted with
    | false => exact (request_counts _).bind fun _ _ => pure_counts ()
    | true =>
      exact (request_counts _).bind fun _ _ => (request_counts _).bind fun _ _ =>
        request_counts (·.commit post.channel)

/-- Work that settles a delivery in a way: it counts what is counted of it, and enters all of it. -/
def Disposes (work : DeskWork Unit) (desk : Desk) (post : Post) (disposal : Disposal) : Prop :=
  Counts work desk post.queue (disposal.counted desk.lastDeferred) ∧
    ∀ after, work.run desk = (.ok (), after) →
      after.client.broker.operationsOn post.channel =
        desk.client.broker.operationsOn post.channel ++
          (disposal.counted desk.lastDeferred ++ disposal.uncounted post.settings.transacted)

/-- What is entered stands for operations. -/
theorem Enters.operations {work : DeskWork Unit} {channel : Nat} {entries : List ChannelAction}
    (enters : Enters work desk channel entries) {after : Desk}
    (ran : work.run desk = (.ok (), after)) :
    after.client.broker.operationsOn channel =
      desk.client.broker.operationsOn channel ++ entries.filterMap (·.operation?) := by
  unfold Broker.operationsOn
  rw [enters () after ran, List.filterMap_append]

theorem perform_disposes (tag : Nat) (action : AckAction) :
    Disposes (perform post tag action) desk post (.policy action) := by
  refine ⟨perform_counts tag action, fun after ran => ?_⟩
  rw [(perform_enters tag action).operations ran, AckAction.entries_operations]
  rfl

theorem afterCompletion_disposes (tag : Nat) (requeue : Bool) (outcome : TransactionOutcome) :
    Disposes (afterCompletion post tag requeue outcome) desk post (.completion outcome) := by
  refine ⟨afterCompletion_counts tag requeue outcome, fun after ran => ?_⟩
  rw [(afterCompletion_enters tag requeue outcome).operations ran]
  cases outcome <;> cases post.settings.transacted <;> rfl

theorem settle_disposes (tag : Nat) (outcome : Outcome) :
    Disposes (settle post tag outcome) desk post
      (.policy (desk.situation post outcome false).action) :=
  perform_disposes tag _

/-- A delivery that is turned away is counted as such, and then settled. -/
theorem turnAway_disposes (tag : Nat) :
    Disposes (turnAway post tag) desk post
      (.policy (desk.situation post .stopping false).action) := by
  refine ⟨fun a after ran operation => ?_, fun after ran => ?_⟩
  · obtain ⟨_, middle, counted, ran'⟩ := run_bind_inv ran
    have counts : Counts (count (.delivery post.queue .rejectedWhileStopping)) desk post.queue [] :=
      countDelivery_counts .rejectedWhileStopping
    have settled := counts _ middle counted operation
    cases counted
    rw [(settle_disposes tag .stopping).1 a after ran' operation, settled]
    rfl
  · rw [(turnAway_enters tag).operations ran, AckAction.entries_operations]
    rfl

/-- How the batch is acknowledged, if there is one. -/
def batchDisposal? (post : Post) (desk : Desk) : Option Disposal :=
  desk.lastDeferred.bind fun _ =>
    if 0 < desk.deferred then
      some (.policy (if post.settings.transacted then .ackAndCommit (1 < desk.deferred)
        else .ack (1 < desk.deferred)))
    else none

/-- How a delivery is settled whose transaction was asked for an ending. -/
def concluded (post : Post) (ending : Ending) (requeue : Bool) :
    Option TransactionOutcome → Disposal
  | some outcome => .completion outcome
  | none =>
    .policy (if post.settings.transacted then .rollbackAndNack (ending = .commit || requeue) false
      else .nack (ending = .commit || requeue) false)

theorem conclude_disposes (tag : Nat) (ending : Ending) (requeue : Bool)
    (observed : Option TransactionOutcome) :
    Disposes (conclude post tag ending requeue observed) desk post
      (concluded post ending requeue observed) := by
  cases observed with
  | some outcome => exact afterCompletion_disposes tag requeue outcome
  | none => exact perform_disposes tag _

/-- How a delivery is settled that is handled in a transaction. -/
def transacted (post : Post) (desk : Desk) (conduct : Conduct)
    (result : Except ListenerError Unit) : Disposal :=
  match conduct.begins with
  | .error _ => .policy (desk.situation post (.failure true false) false).action
  | .ok () =>
    match (desk.situation post (post.settings.outcomeOf result) true).action with
    | .joinTransaction => concluded post .commit true (conduct.ends .commit).2
    | .rollbackTransaction requeue => concluded post .rollback requeue (conduct.ends .rollback).2
    | action => .policy action

theorem transact_disposes (tag : Nat) (conduct : Conduct) (result : Except ListenerError Unit) :
    Disposes (transact post tag conduct result) desk post
      (desk.transacted post conduct result) := by
  unfold transact transacted
  cases conduct.begins with
  | error error => exact settle_disposes tag _
  | ok =>
    show Disposes (match (desk.situation post (post.settings.outcomeOf result) true).action with
      | .joinTransaction => conclude post tag .commit true (conduct.ends .commit).2
      | .rollbackTransaction requeue => conclude post tag .rollback requeue (conduct.ends .rollback).2
      | action => perform post tag action) desk post _
    dsimp only
    split
    next => exact conclude_disposes tag _ _ _
    next => exact conclude_disposes tag _ _ _
    next => exact perform_disposes tag _

/-- An idle cycle acknowledges the batch, if there is one. -/
theorem flush_of_batch {disposal : Disposal} (batch : desk.batchDisposal? post = some disposal) :
    Disposes (flush post) desk post disposal := by
  unfold batchDisposal? at batch
  obtain ⟨last, latest, several⟩ := Option.bind_eq_some_iff.mp batch
  split at several
  next positive =>
    cases several
    have same : (flush post).run desk = (perform post last (if post.settings.transacted
        then .ackAndCommit (1 < desk.deferred) else .ack (1 < desk.deferred))).run desk := by
      unfold flush
      rw [run_get_bind, latest]
      dsimp only
      rw [if_pos positive]
    have disposes : ∀ action, Disposes (perform post last action) desk post (.policy action) :=
      perform_disposes last
    specialize disposes (if post.settings.transacted then .ackAndCommit (1 < desk.deferred)
      else .ack (1 < desk.deferred))
    unfold Disposes Counts at disposes ⊢
    rwa [same]
  next => cases several

/-- Without a batch it does nothing. -/
theorem flush_of_none (none : desk.batchDisposal? post = none) :
    (flush post).run desk = (.ok (), desk) := by
  unfold batchDisposal? at none
  unfold flush
  rw [run_get_bind]
  cases latest : desk.lastDeferred with
  | none => rfl
  | some last =>
    rw [latest, Option.bind_some] at none
    split at none
    next => cases none
    next few =>
      dsimp only
      rw [if_neg few]
      rfl

end Desk

/-! ### Shifts -/

/-- Whether an event is the consumer's own. -/
def TransactedEvent.isOwn : TransactedEvent → Bool
  | .aside (.elsewhere _) => false
  | .aside (.counted _) => false
  | _ => true

namespace Shift

/-- How an event settles a delivery or the batch, if it does. -/
def disposal? (post : Post) (s : Shift) : TransactedEvent → Option Disposal
  | .handle conduct result => s.inbox.head?.map fun _ => s.desk.transacted post conduct result
  | .aside (.receive result) => s.inbox.head?.map fun _ =>
      .policy (s.desk.situation post (post.settings.outcomeOf result) false).action
  | .aside .turnAway => s.inbox.head?.map fun _ =>
      .policy (s.desk.situation post .stopping false).action
  | .aside .idle => s.desk.batchDisposal? post
  | _ => none

/-- How often an operation was counted for the queue. -/
def metered (post : Post) (operation : ChannelOperation) (s : Shift) : Nat :=
  s.desk.metrics.count (.operation post.queue operation)

/-- How often an operation was entered for the channel. -/
def journaled (post : Post) (operation : ChannelOperation) (s : Shift) : Nat :=
  (s.broker.operationsOn post.channel).count operation

variable {seat : Seat} {post : Post} {s s' : Shift}

/-- Nothing is counted and nothing entered, or a delivery is disposed of. -/
structure Meters (post : Post) (s s' : Shift) (disposal? : Option Disposal) : Prop where
  metered : ∀ operation, s'.metered post operation = s.metered post operation +
    (disposal?.elim [] (·.counted s.desk.lastDeferred)).count operation
  journaled : ∀ operation, s'.journaled post operation = s.journaled post operation +
    (disposal?.elim [] (·.counted s.desk.lastDeferred)).count operation +
      (disposal?.elim [] (·.uncounted post.settings.transacted)).count operation

/-- Work that settles a delivery; what is in front of the desk does not matter. -/
theorem work_meters {s₁ : Shift} {deskWork : DeskWork Unit} {disposal : Disposal}
    (disposes : Desk.Disposes deskWork s.desk post disposal)
    (worked : s₁.work seat deskWork = .ok s') (same : s₁.desk = s.desk) :
    Meters post s s' (some disposal) := by
  unfold work at worked
  rw [same] at worked
  split at worked
  next after ran =>
    cases worked
    refine ⟨disposes.1 () after ran, fun operation => ?_⟩
    show (after.client.broker.operationsOn post.channel).count operation = _
    rw [disposes.2 after ran, List.count_append, List.count_append, Nat.add_assoc]
    rfl
  next => cases worked

/-- What leaves the metrics and the ledger alone. -/
theorem Meters.of_same (metrics : s'.desk.metrics = s.desk.metrics)
    (ledger : s'.broker.ledger post.channel = s.broker.ledger post.channel) :
    Meters post s s' none := by
  refine ⟨fun operation => ?_, fun operation => ?_⟩
  · unfold Shift.metered
    rw [metrics]
    rfl
  · unfold Shift.journaled Broker.operationsOn
    rw [ledger]
    rfl

/-- **An event of a consumer** counts what is counted of the disposal, and enters all of it. -/
theorem stepTransacted_meters {event : TransactedEvent} (own : event.isOwn = true)
    (stepped : s.stepTransacted seat post event = .ok s') :
    Meters post s s' (s.disposal? post event) := by
  have nothing : s = s' → Meters post s s' none := by
    rintro rfl
    exact .of_same rfl rfl
  cases event with
  | handle conduct result =>
    unfold stepTransacted handle at stepped
    unfold disposal?
    cases waits : s.inbox with
    | nil =>
      rw [waits] at stepped
      exact nothing (Except.ok.inj stepped)
    | cons delivery rest =>
      rw [waits] at stepped
      exact work_meters (Desk.transact_disposes delivery.tag conduct result) stepped rfl
  | aside event =>
    have stepped' : s.step seat post event = .ok s' := stepped
    unfold step at stepped'
    unfold disposal?
    cases event with
    | elsewhere | counted => cases own
    | receive result =>
      cases waits : s.inbox with
      | nil =>
        rw [waits] at stepped'
        exact nothing (Except.ok.inj stepped')
      | cons delivery rest =>
        rw [waits] at stepped'
        exact work_meters (Desk.settle_disposes delivery.tag _) stepped' rfl
    | turnAway =>
      cases waits : s.inbox with
      | nil =>
        rw [waits] at stepped'
        exact nothing (Except.ok.inj stepped')
      | cons delivery rest =>
        rw [waits] at stepped'
        exact work_meters (Desk.turnAway_disposes delivery.tag) stepped' rfl
    | idle =>
      dsimp only at stepped' ⊢
      cases batch : s.desk.batchDisposal? post with
      | some disposal => exact work_meters (Desk.flush_of_batch batch) stepped' rfl
      | none =>
        unfold work at stepped'
        rw [Desk.flush_of_none batch] at stepped'
        cases stepped'
        exact .of_same rfl rfl
    | poll =>
      dsimp only at stepped' ⊢
      split at stepped'
      next delivery? broker got =>
        cases stepped'
        have undisturbed : Undisturbed post.channel s.broker _ :=
          get_undisturbed s.broker post.channel post.queue post.settings.ackMode.unacknowledged
        have ledger := undisturbed.ledger
        rw [got] at ledger
        exact .of_same rfl ledger
      next => cases stepped'
    | cancel consumerTag =>
      dsimp only at stepped' ⊢
      split at stepped'
      next broker cancelled =>
        cases stepped'
        have undisturbed : Undisturbed post.channel s.broker _ :=
          cancel_undisturbed s.broker post.channel consumerTag
        have ledger := undisturbed.ledger
        rw [cancelled] at ledger
        exact .of_same rfl ledger
      next => cases stepped'

/-! ### Runs -/

/-- What the consumer's own events add to a number in a run. -/
def ownGrowth (seat : Seat) (post : Post) (number : Shift → Nat) :
    Shift → List TransactedEvent → Nat
  | _, [] => 0
  | s, event :: rest =>
    match s.stepTransacted seat post event with
    | .error _ => 0
    | .ok next =>
      (if event.isOwn then number next - number s else 0) + ownGrowth seat post number next rest

/-- How deliveries are settled in a run, one after the other. -/
def disposals (seat : Seat) (post : Post) : Shift → List TransactedEvent → List Disposal
  | _, [] => []
  | s, event :: rest =>
    match s.stepTransacted seat post event with
    | .error _ => []
    | .ok next => (s.disposal? post event).toList ++ disposals seat post next rest

/-- **What the operations of a consumer enter is what it counts, and what it does not count.** -/
theorem ownGrowth_journaled (seat : Seat) (post : Post) (operation : ChannelOperation)
    (events : List TransactedEvent) (s : Shift) :
    ownGrowth seat post (journaled post operation) s events =
      ownGrowth seat post (metered post operation) s events +
        ((disposals seat post s events).flatMap
          (·.uncounted post.settings.transacted)).count operation := by
  induction events generalizing s with
  | nil => rfl
  | cons event events ih =>
    unfold ownGrowth disposals
    cases stepped : s.stepTransacted seat post event with
    | error => rfl
    | ok next =>
      dsimp only
      rw [ih next, List.flatMap_append, List.count_append]
      have here : (if event.isOwn then journaled post operation next - journaled post operation s
          else 0) = (if event.isOwn then metered post operation next - metered post operation s
          else 0) + ((s.disposal? post event).toList.flatMap
            (·.uncounted post.settings.transacted)).count operation := by
        by_cases own : event.isOwn = true
        · have meters := stepTransacted_meters own stepped
          rw [if_pos own, if_pos own, meters.metered, meters.journaled]
          have flat : (s.disposal? post event).toList.flatMap
              (·.uncounted post.settings.transacted) =
                (s.disposal? post event).elim [] (·.uncounted post.settings.transacted) := by
            cases s.disposal? post event with
            | none => rfl
            | some disposal => exact List.append_nil _
          rw [flat]
          omega
        · rw [if_neg own, if_neg own]
          have nothing : s.disposal? post event = none := by
            cases event with
            | handle => exact absurd rfl own
            | aside event =>
              cases event with
              | elsewhere | counted => rfl
              | receive | turnAway | idle | poll | cancel => exact absurd rfl own
          rw [nothing]
          rfl
      omega

/-- **The counters of a consumer's queue agree with what its operations enter for the channel, in any
run, exactly when no rejection was committed and no delivery was settled by the end of its external
transaction.** What is missing are the commits of those rejections, and all operations at the ends of
transactions. -/
theorem run_counts_iff (seat : Seat) (post : Post) (s : Shift) (events : List TransactedEvent) :
    (∀ operation, ownGrowth seat post (journaled post operation) s events =
      ownGrowth seat post (metered post operation) s events +
        ((disposals seat post s events).flatMap
          (·.uncounted post.settings.transacted)).count operation) ∧
    ((∀ operation, ownGrowth seat post (metered post operation) s events =
        ownGrowth seat post (journaled post operation) s events) ↔
      ∀ disposal ∈ disposals seat post s events, disposal.IsCounted) := by
  refine ⟨fun operation => ownGrowth_journaled seat post operation events s, ?_⟩
  have agree : (∀ operation, ownGrowth seat post (metered post operation) s events =
      ownGrowth seat post (journaled post operation) s events) ↔
        (disposals seat post s events).flatMap (·.uncounted post.settings.transacted) = [] := by
    simp only [ownGrowth_journaled, Nat.left_eq_add, List.count_eq_zero]
    exact List.eq_nil_iff_forall_not_mem.symm
  rw [agree, List.flatMap_eq_nil_iff]
  simp only [Disposal.uncounted_eq_nil_iff]

/-- A delivery fails on a transactional channel: its rejection is committed, which is not counted. -/
theorem rejection_commit_uncounted :
    let run := [TransactedEvent.aside (.receive (.error (.reject "bad")))]
    let e := Engagement.atThree true
    ownGrowth e.seat e.post (journaled e.post .commit) e.start run = 1 ∧
      ownGrowth e.seat e.post (metered e.post .commit) e.start run = 0 := by
  decide +kernel

end Shift

end QueueListener
