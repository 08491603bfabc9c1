import QueueListener.Proofs.Consumer.Conclusion
import QueueListener.Proofs.Consumer.Engagement
import QueueListener.Proofs.Container.Shifts
/-!
# Deliveries in external transactions

**The external transaction decides what becomes of a delivery**, whatever its manager does: it may
fail to begin, answer with an error or without one, and tell or not tell how the transaction
completed.

* `Conduct` — how a manager treats the transaction of a delivery; `Conduct.verdict` — the verdict
  that follows from it;
* `Desk.transact` — a consumer with a manager handles a delivery at its desk;
* `Shift.handle_concludes` — one delivery: its verdict, and what is in the ledger for it;
* `Engagement.Concludes` — what holds of a consumer with a manager at every moment;
* `Engagement.run_concludes` — it holds after every run.
-/

namespace QueueListener

open Broker

/-- How a manager treats the transaction of a delivery. -/
structure Conduct where
  /-- Whether the transaction begins. -/
  begins : Except TransactionError Unit
  /-- The answer to the request for an ending, and what the participant was told before it, if
  anything. -/
  ends : Ending → Except TransactionError Unit × Option TransactionOutcome

/-- The ending that the answer of the listener asks for. -/
def Ending.after : Except ListenerError Unit → Ending
  | .ok () => .commit
  | .error _ => .rollback

namespace Conduct

/-- How the participant was told that the transaction completed, if it was. -/
def told (conduct : Conduct) (result : Except ListenerError Unit) : Option TransactionOutcome :=
  match conduct.begins with
  | .error _ => none
  | .ok () => (conduct.ends (.after result)).2

/-- Whether the delivery goes back to its queue when it is not acknowledged: the listener decides
that when it has failed. -/
def requeues (conduct : Conduct) (settings : Settings) (result : Except ListenerError Unit) : Bool :=
  match conduct.begins, result with
  | .ok (), .error error => error.requeue?.getD settings.requeueRejected
  | _, _ => true

/-- **The verdict on the delivery**: it is acknowledged exactly when the participant was told that
the transaction was committed. -/
def verdict (conduct : Conduct) (settings : Settings) (result : Except ListenerError Unit) :
    Verdict :=
  if conduct.told result = some .committed then .ack else .nack (conduct.requeues settings result)

end Conduct

namespace Verdict

/-- The outcome that asks for a verdict. -/
def asOutcome : Verdict → Outcome
  | .ack => .success
  | .nack requeue => .failure requeue false

@[simp] theorem verdict_asOutcome (verdict : Verdict) : verdict.asOutcome.verdict = verdict := by
  cases verdict <;> rfl

end Verdict

namespace Desk

/-- Handles a delivery in a transaction. A delivery whose transaction does not begin goes back to
its queue, and the listener does not see it. -/
def transact (post : Post) (tag : Nat) (conduct : Conduct) (result : Except ListenerError Unit) :
    DeskWork Unit := do
  match conduct.begins with
  | .error _ => settle post tag (.failure true false)
  | .ok () =>
    match ((← get).situation post (post.settings.outcomeOf result) true).action with
    | .joinTransaction => conclude post tag .commit true (conduct.ends .commit).2
    | .rollbackTransaction requeue => conclude post tag .rollback requeue (conduct.ends .rollback).2
    | action => perform post tag action

variable {desk : Desk} {post : Post} {tag : Nat} {conduct : Conduct}
  {result : Except ListenerError Unit}

/-- When the transaction has begun, the listener's answer decides which ending is asked for. -/
theorem transact_of_begun (auto : post.settings.ackMode = .auto) (begun : conduct.begins = .ok ()) :
    (transact post tag conduct result).run desk =
      (conclude post tag (.after result) (conduct.requeues post.settings result)
        (conduct.told result)).run desk := by
  unfold transact Conduct.requeues Conduct.told
  rw [begun]
  show (match (desk.situation post (post.settings.outcomeOf result) true).action with
    | .joinTransaction => conclude post tag .commit true (conduct.ends .commit).2
    | .rollbackTransaction requeue => conclude post tag .rollback requeue (conduct.ends .rollback).2
    | action => perform post tag action).run desk = _
  unfold situation Situation.action Settings.outcomeOf
  rw [auto]
  cases result <;> rfl

/-- A delivery whose transaction does not begin is settled as a failure. -/
theorem transact_of_failed {error : TransactionError} (failed : conduct.begins = .error error) :
    transact post tag conduct result = settle post tag (.failure true false) := by
  unfold transact
  rw [failed]

/-- **Somebody was told how the transaction completed**: the delivery is settled accordingly. -/
theorem transact_of_told (auto : post.settings.ackMode = .auto) {outcome : TransactionOutcome}
    (told : conduct.told result = some outcome) :
    (transact post tag conduct result).run desk =
      (afterCompletion post tag (conduct.requeues post.settings result) outcome).run desk := by
  have begun : conduct.begins = .ok () := by
    cases begins : conduct.begins with
    | ok => rfl
    | error error =>
      unfold Conduct.told at told
      rw [begins] at told
      cases told
  rw [transact_of_begun auto begun, told]
  rfl

/-- **Nobody was told**, or the transaction did not begin: the delivery is rejected. -/
theorem transact_of_untold (auto : post.settings.ackMode = .auto) (empty : desk.deferred = 0)
    (untold : conduct.told result = none) :
    (transact post tag conduct result).run desk =
      (perform post tag (if post.settings.transacted
        then .rollbackAndNack (conduct.requeues post.settings result) false
        else .nack (conduct.requeues post.settings result) false)).run desk := by
  cases begins : conduct.begins with
  | error error =>
    rw [transact_of_failed begins]
    unfold Conduct.requeues
    show (perform post tag (desk.situation post (.failure true false) false).action).run desk = _
    simp only [begins, situation, Situation.action, Situation.reject, auto, empty,
      Bool.false_eq_true, if_false, Nat.lt_irrefl, decide_false]
  | ok begun =>
    -- a success is never dropped: its ending is a commit, and that requeues it
    have requeues : (decide (Ending.after result = .commit) ||
        conduct.requeues post.settings result) = conduct.requeues post.settings result := by
      unfold Conduct.requeues
      rw [begins]
      cases result <;> rfl
    rw [transact_of_begun auto begins, untold]
    unfold conclude
    rw [requeues]

/-- A delivery whose transaction is told to be complete is settled with its verdict. -/
theorem afterCompletion_issues (tag : Nat) (requeue : Bool) (outcome : TransactionOutcome) :
    Issues (afterCompletion post tag requeue outcome) desk post.channel
      ((if outcome = .committed then Verdict.ack else .nack requeue).closing
        post.settings.transacted tag) := by
  unfold afterCompletion
  cases outcome with
  | committed =>
    rw [if_pos rfl]
    cases post.settings.transacted with
    | false => exact (ack_issues tag false).bind_nil fun _ _ => pure_issues ()
    | true => exact (ack_issues tag false).bind fun _ _ => commit_issues
  | rolledBack =>
    rw [if_neg (show ¬ TransactionOutcome.rolledBack = .committed from nofun)]
    cases post.settings.transacted with
    | false => exact (nack_issues tag false _).bind_nil fun _ _ => pure_issues ()
    | true =>
      exact rollback_issues.bind fun _ _ => (nack_issues tag false _).bind fun _ _ => commit_issues

/-- It is entered with its verdict. -/
theorem afterCompletion_enters (tag : Nat) (requeue : Bool) (outcome : TransactionOutcome) :
    Enters (afterCompletion post tag requeue outcome) desk post.channel
      ((if outcome = .committed then Verdict.ack else .nack requeue).closing
        post.settings.transacted tag) :=
  (afterCompletion_issues tag requeue outcome).enters (Verdict.closing_settle _ _ _)

/-- **The ledger gets the verdict once.** -/
theorem transact_enters (auto : post.settings.ackMode = .auto) (empty : desk.deferred = 0) :
    Enters (transact post tag conduct result) desk post.channel
      ((conduct.verdict post.settings result).closing post.settings.transacted tag) := by
  unfold Conduct.verdict
  intro a after ran
  cases told : conduct.told result with
  | none =>
    rw [transact_of_untold auto empty told] at ran
    rw [perform_enters tag _ a after ran]
    cases post.settings.transacted <;> rfl
  | some outcome =>
    rw [transact_of_told auto told] at ran
    rw [afterCompletion_enters tag _ outcome a after ran]
    cases outcome <;> rfl

end Desk

namespace Seat

variable {seat : Seat} {post : Post} {b : Broker} {record : ChannelRecord} {rest : List Unacked}
  {entry : Unacked} {desk : Desk} {conduct : Conduct} {result : Except ListenerError Unit}

/-- A delivery whose transaction is told to be complete leaves with the verdict of its outcome. -/
theorem afterCompletion_clears (here : post.channel = seat.channel) (stands : desk.Stands b 0 none)
    (keeps : seat.Keeps post b record [] (entry :: rest)) (requeue : Bool)
    (outcome : TransactionOutcome) :
    ∃ b' more, Desk.Works (Desk.afterCompletion post entry.tag requeue outcome) desk () b' 0 none ∧
      seat.Clears b record b' [(entry, if outcome = .committed then .ack else .nack requeue)] rest
        more := by
  have split : record.unacked = [entry] ++ rest := keeps.unacked
  have first := fun verdict => covers_first (split ▸ keeps.ordered.ascending) verdict
  unfold Desk.afterCompletion
  cases mode : post.settings.transacted with
  | false =>
    have plain := keeps.mode.trans mode
    cases outcome with
    | committed =>
      obtain ⟨b', more, done, clears⟩ := acknowledge_clears keeps.owns keeps.opened plain split
        (List.cons_ne_nil entry []) (first .ack).1 (first .ack).2
      exact ⟨b', more, (Desk.ack_works stands (here ▸ done)).bind fun _ stands =>
        Desk.pure_works stands (), clears⟩
    | rolledBack =>
      obtain ⟨b', more, done, clears⟩ := acknowledge_clears keeps.owns keeps.opened plain split
        (List.cons_ne_nil entry []) (first (.nack requeue)).1 (first (.nack requeue)).2
      exact ⟨b', more, (Desk.nack_works stands (here ▸ done)).bind fun _ stands =>
        Desk.pure_works stands (), clears⟩
  | true =>
    have transacted := keeps.mode.trans mode
    cases outcome with
    | committed =>
      obtain ⟨b₁, b₂, more, done, committed, clears⟩ := commit_clears keeps.owns keeps.opened
        transacted keeps.clean split (List.cons_ne_nil entry []) (first .ack).1 (first .ack).2
      exact ⟨b₂, more, (Desk.ack_works stands (here ▸ done)).bind fun _ stands =>
        Desk.commit_works stands (here ▸ committed), clears⟩
    | rolledBack =>
      obtain ⟨b₁, b₂, b₃, more, rolledBack, done, committed, clears⟩ :=
        @rollback_commit_clears seat post b record [] (entry :: rest) [] rest entry false keeps mode
          keeps.unacked (fun more => (more rfl).elim) requeue
      exact ⟨b₃, more, (Desk.rollback_works stands (here ▸ rolledBack)).bind fun _ stands =>
        (Desk.nack_works stands (here ▸ done)).bind fun _ stands =>
          Desk.commit_works stands (here ▸ committed), clears⟩

/-- **A delivery that is handled in a transaction leaves with its verdict, and no operation is
refused.** -/
theorem transact_clears (conduct : Conduct) (result : Except ListenerError Unit)
    (auto : post.settings.ackMode = .auto) (here : post.channel = seat.channel)
    (stands : desk.Stands b 0 none) (keeps : seat.Keeps post b record [] (entry :: rest)) :
    ∃ b' more, Desk.Works (Desk.transact post entry.tag conduct result) desk () b' 0 none ∧
      seat.Clears b record b' [(entry, conduct.verdict post.settings result)] rest more := by
  unfold Conduct.verdict
  cases told : conduct.told result with
  | none =>
    obtain ⟨b', more, ⟨after, ran, stands'⟩, clears⟩ := rejection_clears here stands keeps
      (conduct.requeues post.settings result)
    refine ⟨b', more, ⟨after, ?_, stands'⟩, ?_⟩
    · rw [Desk.transact_of_untold auto stands.deferred told]
      exact ran
    · unfold rejection at clears
      cases mode : post.settings.transacted <;> rw [mode] at clears <;> exact clears
  | some outcome =>
    obtain ⟨b', more, ⟨after, ran, stands'⟩, clears⟩ := afterCompletion_clears here stands keeps
      (conduct.requeues post.settings result) outcome
    refine ⟨b', more, ⟨after, ?_, stands'⟩, ?_⟩
    · rw [Desk.transact_of_told auto told]
      exact ran
    · simpa only [Option.some.injEq] using clears

end Seat

/-! ### Shifts with a manager -/

/-- What happens in the shift of a consumer with a manager. -/
inductive TransactedEvent
  /-- The next delivery is handled in a transaction. -/
  | handle (conduct : Conduct) (result : Except ListenerError Unit)
  /-- Something else happens. -/
  | aside (event : ShiftEvent)

/-- No delivery is handled without a transaction, and others leave the seat alone. -/
def TransactedEvent.Allowed (seat : Seat) : TransactedEvent → Prop
  | .handle _ _ => True
  | .aside (.receive _) => False
  | .aside (.elsewhere op) => seat.Spares op
  | .aside _ => True

namespace Shift

/-- Handles the next delivery in a transaction. -/
def handle (seat : Seat) (post : Post) (s : Shift) (conduct : Conduct)
    (result : Except ListenerError Unit) : Except ClientError Shift :=
  match s.inbox with
  | [] => .ok s
  | delivery :: rest =>
    let outcome := (conduct.verdict post.settings result).asOutcome
    { s with inbox := rest, processed := s.processed ++ [(delivery.tag, outcome)] }.work seat
      (Desk.transact post delivery.tag conduct result)

/-- One event of a shift with a manager. -/
def stepTransacted (seat : Seat) (post : Post) (s : Shift) :
    TransactedEvent → Except ClientError Shift
  | .handle conduct result => s.handle seat post conduct result
  | .aside event => s.step seat post event

/-- A run of such events; an operation that fails ends it. -/
def runTransacted (seat : Seat) (post : Post) (s : Shift) :
    List TransactedEvent → Except ClientError Shift
  | [] => .ok s
  | event :: rest =>
    match s.stepTransacted seat post event with
    | .ok next => runTransacted seat post next rest
    | .error error => .error error

variable {seat : Seat} {post : Post} {s s' : Shift} {record : ChannelRecord} {rest : List Unacked}
  {settled : List (Nat × Outcome)}

/-- Work is the same when it does the same at the desk. -/
theorem work_congr (seat : Seat) {first second : DeskWork Unit}
    (same : first.run s.desk = second.run s.desk) : s.work seat first = s.work seat second := by
  unfold work
  rw [same]

/-- **The transaction decides what becomes of the delivery**, and no operation is refused. -/
theorem handle_concludes (auto : post.settings.ackMode = .auto) (here : post.channel = seat.channel)
    (sound : Sound seat post s record [] rest settled) {delivery : Delivery}
    {others : List Delivery} (waits : s.inbox = delivery :: others) (conduct : Conduct)
    (result : Except ListenerError Unit) :
    ∃ s', s.handle seat post conduct result = .ok s' ∧ Concludes seat post s s'
      [(delivery.tag, (conduct.verdict post.settings result).asOutcome)] := by
  obtain ⟨entry, behind, rfl, tag, tags⟩ := sound.first waits
  obtain ⟨b', more, works, clears⟩ :=
    Seat.transact_clears conduct result auto here sound.stands sound.keeps
  obtain ⟨after, stands, worked⟩ := work_of_works seat (s := { s with
    inbox := others
    processed := s.processed ++ [(entry.tag, (conduct.verdict post.settings result).asOutcome)] }) works
  have positive : ([] : List Unacked).length < max post.settings.batchSize 1 :=
    Nat.lt_of_lt_of_le Nat.one_pos (le_max_right _ _)
  have own : [(entry.tag, conduct.verdict post.settings result)] =
      [(entry.tag, (conduct.verdict post.settings result).asOutcome)].map deserved := by
    rw [List.map_singleton, deserved, Verdict.verdict_asOutcome]
  have whole : s.processed ++ [(entry.tag, (conduct.verdict post.settings result).asOutcome)] =
      settled ++ [(entry.tag, (conduct.verdict post.settings result).asOutcome)] ++
        ([] : List Unacked).map fun entry => (entry.tag, Outcome.success) := by
    rw [sound.processed, List.map_nil, List.append_nil, List.append_nil]
  have leaves : seat.Clears s.broker record b' [(entry, conduct.verdict post.settings result)]
    ([] ++ behind) more := clears
  have empty : after.Stands b' ([] : List Unacked).length (Seat.lastTag? []) := stands
  obtain ⟨sound', verdicts, processed, -⟩ := sound.clears leaves empty tags
    [(entry.tag, (conduct.verdict post.settings result).asOutcome)] rfl positive (fun _ => own) whole
  have entered := work_ledger worked (Desk.transact_enters auto sound.stands.deferred)
  rw [tag]
  refine ⟨_, ?_, ⟨_, _, _, sound'⟩, processed, verdicts.trans (congrArg (s.verdicts ++ ·) own), ?_⟩
  · unfold handle
    rw [waits]
    dsimp only
    rw [tag]
    exact worked
  · rw [here] at entered
    refine entered.trans ?_
    rw [closings, List.flatMap_singleton, Verdict.verdict_asOutcome]
    rfl

/-- **Every event that succeeds concludes what it processes.** -/
theorem stepTransacted_concludes (auto : post.settings.ackMode = .auto)
    (here : post.channel = seat.channel) (sound : Sound seat post s record [] rest settled)
    {event : TransactedEvent} (allowed : event.Allowed seat)
    (stepped : s.stepTransacted seat post event = .ok s') :
    ∃ done, Concludes seat post s s' done := by
  have unchanged : s = s' → Concludes seat post s s' [] := by
    rintro rfl
    exact Advances.concludes (.refl sound) rfl
  have quiet : ∀ event : ShiftEvent, ¬ event.Settles →
      (∀ op, event = .elsewhere op → seat.Spares op) → s.step seat post event = .ok s' →
      ∃ done, Concludes seat post s s' done :=
    fun _ settles spares stepped =>
      ⟨[], (quiet_advances auto here sound settles spares stepped).concludes
        (step_ledger sound.keeps.tidy settles spares stepped)⟩
  cases event with
  | handle conduct result =>
    cases waits : s.inbox with
    | nil =>
      unfold stepTransacted handle at stepped
      rw [waits] at stepped
      exact ⟨[], unchanged (Except.ok.inj stepped)⟩
    | cons delivery others =>
      obtain ⟨_, handled, concludes⟩ := handle_concludes auto here sound waits conduct result
      obtain rfl := Except.ok.inj (handled.symm.trans stepped)
      exact ⟨_, concludes⟩
  | aside event =>
    cases event with
    | receive => exact allowed.elim
    | turnAway =>
      cases waits : s.inbox with
      | nil =>
        unfold stepTransacted step at stepped
        rw [waits] at stepped
        exact ⟨[], unchanged (Except.ok.inj stepped)⟩
      | cons delivery others =>
        obtain ⟨_, turned, concludes⟩ := turnAway_concludes auto here sound waits
        obtain rfl := Except.ok.inj (turned.symm.trans stepped)
        exact ⟨_, concludes⟩
    | idle =>
      obtain ⟨_, idled, advances, -⟩ := idle_advances here sound
      obtain rfl := Except.ok.inj (idled.symm.trans stepped)
      have entered := work_ledger idled (Desk.flush_enters_nil sound.stands.last)
      rw [here, List.append_nil] at entered
      exact ⟨[], advances.concludes entered⟩
    | poll => exact quiet .poll id (fun _ same => ShiftEvent.noConfusion same) stepped
    | cancel tag => exact quiet (.cancel tag) id (fun _ same => ShiftEvent.noConfusion same) stepped
    | elsewhere op =>
      exact quiet (.elsewhere op) id (fun _ same => ShiftEvent.elsewhere.inj same ▸ allowed) stepped
    | counted metrics =>
      exact quiet (.counted metrics) id (fun _ same => ShiftEvent.noConfusion same) stepped

/-- **So does every run.** -/
theorem runTransacted_concludes (auto : post.settings.ackMode = .auto)
    (here : post.channel = seat.channel)
    (start : ∃ record rest settled, Sound seat post s record [] rest settled)
    {events : List TransactedEvent} (allowed : ∀ event ∈ events, event.Allowed seat)
    (ran : s.runTransacted seat post events = .ok s') : ∃ done, Concludes seat post s s' done := by
  induction events generalizing s with
  | nil =>
    obtain rfl := Except.ok.inj ran
    obtain ⟨record, rest, settled, sound⟩ := start
    exact ⟨[], Advances.concludes (.refl sound) rfl⟩
  | cons event events ih =>
    obtain ⟨record, rest, settled, sound⟩ := start
    unfold runTransacted at ran
    split at ran
    next middle stepped =>
      obtain ⟨done, first⟩ := stepTransacted_concludes auto here sound
        (allowed event List.mem_cons_self) stepped
      obtain ⟨done', second⟩ := ih first.sound
        (fun event member => allowed event (List.mem_cons_of_mem _ member)) ran
      exact ⟨done ++ done', first.trans second⟩
    next => cases ran

end Shift

namespace World

variable {w : World} {id tag : Nat} {session : Session} {post : Post} {taken : List Delivery}
  {s s' : Shift} {delivery : Delivery} {seat : Seat}

/-- How the manager of a container treats a transaction that has begun; its answer to the request
for an ending makes no difference. -/
def conduct (w : World) (transaction : TransactionHandle) (tag : Nat)
    (answer : Except TransactionError Unit) : Conduct :=
  ⟨.ok (), fun ending => (answer, (w.service.conclude transaction tag ending).1)⟩

/-- **In a container a delivery is handled as in the shift**, when its transaction has begun. -/
theorem settle_hosts_handle (auto : post.settings.ackMode = .auto)
    (hosts : w.Hosts id session post (delivery :: taken) s) (told : seat.subscriber = id)
    {transaction : TransactionHandle} {answer : Except TransactionError Unit}
    {result : Except ListenerError Unit}
    (handled : s.handle seat post (w.conduct transaction delivery.tag answer) result = .ok s') :
    ∃ w', (settle id session delivery.tag (w.outcomeOf result) (some transaction)).run w =
        (.ok (), w') ∧ w'.Hosts id session post taken s' := by
  obtain ⟨others, waits, goesOn⟩ := hosts.next
  unfold Shift.handle at handled
  rw [waits] at handled
  dsimp only at handled
  generalize mine : (w.conduct transaction delivery.tag answer).requeues post.settings result =
    requeue
  -- the container asks its manager for the ending, and then concludes at the desk
  have concluding : (settle id session delivery.tag (w.outcomeOf result) (some transaction)).run w =
      (concludeTransaction id delivery.tag transaction (.after result) requeue).run w := by
    rw [outcomeOf_eq, hosts.settings, ← mine]
    show (match (Situation.action ⟨w.plan.settings.ackMode, w.plan.settings.transacted, true,
      post.settings.outcomeOf result, session.deferred, w.plan.settings.batchSize⟩) with
      | .joinTransaction => concludeTransaction id delivery.tag transaction .commit true
      | .rollbackTransaction requeue =>
        concludeTransaction id delivery.tag transaction .rollback requeue
      | action => atDesk id fun post => Desk.perform post delivery.tag action).run w = _
    unfold Situation.action Settings.outcomeOf
    rw [hosts.settings, auto]
    cases result <;> rfl
  rw [Shift.work_congr seat (Desk.transact_of_begun auto rfl), mine] at handled
  rw [concluding]
  have asked : ∀ processed, ({ w with service :=
      (w.service.conclude transaction delivery.tag (.after result)).2 } : World).Hosts id session post
        taken { s with inbox := others, processed } := goesOn
  exact atDesk_hosts (asked _) told (f := fun post => Desk.conclude post delivery.tag (.after result)
    requeue (w.service.conclude transaction delivery.tag (.after result)).1) handled

/-- In a container a delivery is handled as in the shift, when its transaction does not begin. -/
theorem settle_hosts_failed (hosts : w.Hosts id session post (delivery :: taken) s)
    (told : seat.subscriber = id) {error : TransactionError}
    {ends : Ending → Except TransactionError Unit × Option TransactionOutcome}
    {result : Except ListenerError Unit}
    (handled : s.handle seat post ⟨.error error, ends⟩ result = .ok s') :
    ∃ w', (atDesk id fun post => Desk.settle post delivery.tag (.failure true false)).run w =
        (.ok (), w') ∧ w'.Hosts id session post taken s' := by
  obtain ⟨others, waits, goesOn⟩ := hosts.next
  unfold Shift.handle at handled
  rw [waits] at handled
  dsimp only at handled
  rw [Desk.transact_of_failed rfl] at handled
  exact atDesk_hosts (f := fun post => Desk.settle post delivery.tag (.failure true false))
    (goesOn _) told handled

end World

/-- A container with a manager starts only in the mode `auto`. -/
theorem Registry.auto_of_start {r r' : Registry} (started : r.start true = .ok (some r')) :
    r'.settings.ackMode = .auto := by
  unfold start at started
  split at started
  next => cases started
  next => cases started
  all_goals
    split at started
    next => cases started
    next sound =>
      obtain rfl := Option.some.inj (Except.ok.inj started)
      show r.settings.ackMode = .auto
      unfold startFault? at sound
      split at sound
      next => cases sound
      next =>
        split at sound
        next => cases sound
        next managed => simpa using managed

/-- **What holds of a consumer with a manager at every moment.** -/
structure Engagement.Concludes (e : Engagement) (s : Shift) : Prop where
  /-- Every processed delivery got one verdict. -/
  verdicts : s.verdicts = s.processed.map deserved
  distinct : (s.processed.map (·.1) ++ s.inbox.map (·.tag)).Nodup
  /-- The broker holds what nobody has processed, and nothing else. -/
  unsettled : (s.broker.unsettled e.channel).map (·.tag) = s.inbox.map (·.tag)
  /-- The verdicts are what the consumer has entered in the ledger, once for each delivery. -/
  ledger : s.broker.ledger e.channel =
    e.broker.ledger e.channel ++ closings e.settings.transacted s.processed
  /-- The next delivery gets the verdict of its transaction, and no operation is refused. -/
  handles : ∀ delivery others conduct result, s.inbox = delivery :: others →
    ∃ s', s.handle e.seat e.post conduct result = .ok s' ∧
      s'.processed.map (·.1) = s.processed.map (·.1) ++ [delivery.tag] ∧
      s'.verdicts = s.verdicts ++ [(delivery.tag, conduct.verdict e.settings result)] ∧
      s'.broker.ledger e.channel = s.broker.ledger e.channel ++
        (conduct.verdict e.settings result).closing e.settings.transacted delivery.tag
  /-- So it is in a container, when the transaction has begun. -/
  handlesHosted : ∀ (w : World) session delivery taken transaction answer result,
    w.Hosts e.subscriber session e.post (delivery :: taken) s →
    ∃ w' s', (World.settle e.subscriber session delivery.tag (w.outcomeOf result)
        (some transaction)).run w = (.ok (), w') ∧
      s.handle e.seat e.post (w.conduct transaction delivery.tag answer) result = .ok s' ∧
      w'.Hosts e.subscriber session e.post taken s'
  /-- And also when it does not begin. -/
  failsHosted : ∀ (w : World) session delivery taken error ends result,
    w.Hosts e.subscriber session e.post (delivery :: taken) s →
    ∃ w' s', (World.atDesk e.subscriber fun post =>
        Desk.settle post delivery.tag (.failure true false)).run w = (.ok (), w') ∧
      s.handle e.seat e.post ⟨.error error, ends⟩ result = .ok s' ∧
      w'.Hosts e.subscriber session e.post taken s'

/-- **The outcome of the external transaction decides the delivery**, on plain and on transactional
channels, whatever the manager does. -/
theorem Engagement.run_concludes (e : Engagement) {events : List TransactedEvent}
    (allowed : ∀ event ∈ events, event.Allowed e.seat) {s : Shift}
    (ran : e.start.runTransacted e.seat e.post events = .ok s) : e.Concludes s := by
  obtain ⟨record₀, rest₀, sound₀⟩ := e.start_sound
  obtain ⟨done, concludes⟩ :=
    Shift.runTransacted_concludes e.auto rfl ⟨record₀, rest₀, [], sound₀⟩ allowed ran
  obtain ⟨record, rest, settled, sound⟩ := concludes.sound
  have processed : s.processed = done := concludes.processed
  have handles : ∀ {delivery others} (conduct : Conduct) (result : Except ListenerError Unit),
      s.inbox = delivery :: others → ∃ s', s.handle e.seat e.post conduct result = .ok s' ∧
        Shift.Concludes e.seat e.post s s'
          [(delivery.tag, (conduct.verdict e.settings result).asOutcome)] :=
    fun conduct result waits => Shift.handle_concludes e.auto rfl sound waits conduct result
  constructor
  case verdicts =>
    rw [processed]
    exact concludes.verdicts
  case distinct => exact sound.distinct
  case unsettled =>
    have unsettled : s.broker.unsettled e.channel = rest :=
      (Broker.unsettled_eq sound.keeps.opened).trans sound.keeps.unacked
    rw [unsettled, sound.inbox]
  case ledger =>
    rw [processed]
    exact concludes.ledger
  case handles =>
    intro delivery others conduct result waits
    obtain ⟨s', handled, concludes⟩ := handles conduct result waits
    have own : [(delivery.tag, (conduct.verdict e.settings result).asOutcome)].map deserved =
        [(delivery.tag, conduct.verdict e.settings result)] := by
      rw [List.map_singleton, deserved, Verdict.verdict_asOutcome]
    refine ⟨s', handled, ?_, own ▸ concludes.verdicts, concludes.ledger.trans ?_⟩
    · rw [concludes.processed, List.map_append]
      rfl
    · rw [closings, List.flatMap_singleton, Verdict.verdict_asOutcome]
      rfl
  case handlesHosted =>
    intro w session delivery taken transaction answer result hosts
    obtain ⟨others, waits, -⟩ := hosts.next
    obtain ⟨s', handled, -⟩ := handles (w.conduct transaction delivery.tag answer) result waits
    obtain ⟨w', settled, hosts'⟩ := World.settle_hosts_handle e.auto hosts rfl handled
    exact ⟨w', s', settled, handled, hosts'⟩
  case failsHosted =>
    intro w session delivery taken error ends result hosts
    obtain ⟨others, waits, -⟩ := hosts.next
    obtain ⟨s', handled, -⟩ := handles ⟨.error error, ends⟩ result waits
    obtain ⟨w', settled, hosts'⟩ := World.settle_hosts_failed hosts rfl handled
    exact ⟨w', s', settled, handled, hosts'⟩

/-- Three deliveries on a transactional channel: a transaction that is committed, one that does not
begin, and one that is rolled back in silence. -/
def Engagement.threeTransactions : List TransactedEvent :=
  [.handle ⟨.ok (), fun _ => (.ok (), some .committed)⟩ (.ok ()),
    .handle ⟨.error (.begin "no coordinator"), fun _ => (.ok (), none)⟩ (.ok ()),
    .aside (.elsewhere (.declare "other")),
    .handle ⟨.ok (), fun _ => (.error (.rollback "lost"), none)⟩ (.error (.reject "no"))]

/-- The first one is acknowledged, the second one comes back with a new tag, and the third one is
dropped. -/
theorem Engagement.run_concludes_atThree :
    ∃ s, (Engagement.atThree true).start.runTransacted (Engagement.atThree true).seat
        (Engagement.atThree true).post Engagement.threeTransactions = .ok s ∧
      s.verdicts = [(1, .ack), (2, .nack true), (3, .nack false)] ∧ s.inbox.map (·.tag) = [4] ∧
      (s.broker.unsettled 2).map (·.tag) = s.inbox.map (·.tag) ∧
      s.broker.ledger 2 = (Engagement.atThree true).broker.ledger 2 ++
        closings true s.processed := by
  obtain ⟨s, ran, seen⟩ := Engagement.exists_of_seen
    (show ((Engagement.atThree true).start.runTransacted (Engagement.atThree true).seat
      (Engagement.atThree true).post Engagement.threeTransactions).toOption.map
        (fun s => (s.verdicts, s.inbox.map (·.tag))) =
      some ([(1, .ack), (2, .nack true), (3, .nack false)], [4]) by decide +kernel)
  obtain ⟨verdicts, inbox⟩ := Prod.mk.inj seen
  have allowed : ∀ event ∈ Engagement.threeTransactions,
      event.Allowed (Engagement.atThree true).seat := by
    unfold Engagement.threeTransactions
    simp only [List.forall_mem_cons, List.not_mem_nil]
    exact ⟨trivial, trivial, trivial, trivial, nofun⟩
  have concludes := (Engagement.atThree true).run_concludes allowed ran
  exact ⟨s, ran, verdicts, inbox, concludes.unsettled, concludes.ledger⟩

end QueueListener
