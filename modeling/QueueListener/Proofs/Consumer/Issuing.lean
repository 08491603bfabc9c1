import QueueListener.Proofs.Broker.Ledger
import QueueListener.Proofs.Consumer.Desk
import QueueListener.Proofs.Consumer.Requests
/-!
# The requests of a desk

**Work at a desk is a list of requests on its channel**, one after the other up to the first that is
refused.

* `Client.issue`, `Client.issueAll` — requests on a channel, written as the ledger has them;
* `AckAction.entries` — the requests of an action of the acknowledgement policy;
* `Desk.Issues` — work that is these requests, whether it succeeds or fails;
* `perform_issues`, `settle_issues`, `turnAway_issues`, `flush_issues` — the work of a consumer.
-/

namespace QueueListener

open Broker

/-! ### Requests of a client -/

namespace Client

/-- A request on a channel, written as its entry in the ledger. -/
def issue (channel : Nat) (c : Client) : ChannelAction → Except ClientError Unit × Client
  | .settle ⟨tag, multiple, .ack⟩ => c.ack channel tag multiple
  | .settle ⟨tag, multiple, .nack requeue⟩ => c.nack channel tag multiple requeue
  | .commit => c.commit channel
  | .rollback => c.rollback channel
  | _ => (.ok (), c)

/-- Requests on a channel, one after the other; nothing follows one that is refused. -/
def issueAll (channel : Nat) (c : Client) : List ChannelAction → Except ClientError Unit × Client
  | [] => (.ok (), c)
  | request :: rest =>
    match c.issue channel request with
    | (.ok (), c) => c.issueAll channel rest
    | (.error error, c) => (.error error, c)

variable {c c' : Client} {channel : Nat} {requests more : List ChannelAction}

theorem issueAll_cons {request : ChannelAction} (issued : c.issue channel request = (.ok (), c')) :
    c.issueAll channel (request :: more) = c'.issueAll channel more := by
  simp only [issueAll, issued]

theorem issueAll_cons_of_refused {request : ChannelAction} {error : ClientError}
    (refused : c.issue channel request = (.error error, c')) :
    c.issueAll channel (request :: more) = (.error error, c') := by
  simp only [issueAll, refused]

/-- **More requests follow those that are not refused, and nothing follows one that is refused.** -/
theorem issueAll_append (c : Client) (requests more : List ChannelAction) :
    c.issueAll channel (requests ++ more) =
      match c.issueAll channel requests with
      | (.ok (), c) => c.issueAll channel more
      | (.error error, c) => (.error error, c) := by
  induction requests generalizing c with
  | nil => rfl
  | cons request rest ih =>
    rw [List.cons_append]
    cases issued : c.issue channel request with
    | mk result middle =>
      cases result with
      | ok => rw [issueAll_cons issued, issueAll_cons issued, ih middle]
      | error error => rw [issueAll_cons_of_refused issued, issueAll_cons_of_refused issued]

/-- A call that is not refused has reached the broker. -/
theorem call_ok {α : Type} {op : ClientOp} {request : Broker → Except ClientError α × Broker} {a : α}
    (called : c.call op request = (.ok a, c')) :
    ∃ b, request c.broker = (.ok a, b) ∧ c' = { c with broker := b } := by
  unfold call at called
  split at called
  next => cases called
  next =>
    cases asked : request c.broker with
    | mk result b =>
      rw [asked] at called
      cases called
      exact ⟨b, rfl, rfl⟩

/-- **A request that is not refused is in the ledger.** -/
theorem issue_ledger {request : ChannelAction} (settles : request.settles = true)
    (issued : c.issue channel request = (.ok (), c')) :
    c'.broker.ledger channel = c.broker.ledger channel ++ [request] := by
  unfold issue at issued
  split at issued
  next =>
    obtain ⟨b, done, rfl⟩ := call_ok issued
    exact acknowledge_ledger done
  next =>
    obtain ⟨b, done, rfl⟩ := call_ok issued
    exact acknowledge_ledger done
  next =>
    obtain ⟨b, done, rfl⟩ := call_ok issued
    exact commit_ledger done
  next =>
    obtain ⟨b, done, rfl⟩ := call_ok issued
    exact rollback_ledger done
  next noAck noNack noCommit noRollback =>
    cases request with
    | settle settlement =>
      obtain ⟨tag, multiple, verdict⟩ := settlement
      cases verdict with
      | ack => exact absurd rfl (noAck tag multiple)
      | nack requeue => exact absurd rfl (noNack tag multiple requeue)
    | commit => exact absurd rfl noCommit
    | rollback => exact absurd rfl noRollback
    | consume | cancel | close => cases settles

/-- **So are all requests**, if none is refused. -/
theorem issueAll_ledger (settle : ∀ request ∈ requests, request.settles = true)
    (issued : c.issueAll channel requests = (.ok (), c')) :
    c'.broker.ledger channel = c.broker.ledger channel ++ requests := by
  induction requests generalizing c with
  | nil =>
    cases issued
    exact (List.append_nil _).symm
  | cons request rest ih =>
    obtain ⟨first, others⟩ := List.forall_mem_cons.mp settle
    cases now : c.issue channel request with
    | mk result middle =>
      cases result with
      | ok =>
        rw [issueAll_cons now] at issued
        rw [ih others issued, issue_ledger first now, List.append_assoc]
        rfl
      | error error =>
        rw [issueAll_cons_of_refused now] at issued
        cases issued

end Client

/-! ### Work that is requests -/

/-- What an action asks for on the channel of a delivery; `last` is the last delivery of the batch. -/
def AckAction.entries (tag : Nat) (last : Option Nat) : AckAction → List ChannelAction
  | .nothing => []
  | .defer => []
  | .ack multiple => [.settle ⟨tag, multiple, .ack⟩]
  | .ackAndCommit multiple => [.settle ⟨tag, multiple, .ack⟩, .commit]
  | .commit => [.commit]
  | .rollback => [.rollback]
  | .nack requeue ackDeferred =>
    (if ackDeferred then last.toList.map fun last => .settle ⟨last, true, .ack⟩ else []) ++
      [.settle ⟨tag, false, .nack requeue⟩]
  | .rollbackAndNack requeue multiple =>
    [.rollback, .settle ⟨tag, multiple, .nack requeue⟩, .commit]
  | .joinTransaction => []
  | .rollbackTransaction _ => []

/-- Everything that an action asks for is in the ledger when it is not refused. -/
theorem AckAction.entries_settle (tag : Nat) (last : Option Nat) (action : AckAction) :
    ∀ request ∈ action.entries tag last, request.settles = true := by
  cases action with
  | nack requeue ackDeferred =>
    cases ackDeferred <;> cases last <;> simp [entries, ChannelAction.settles]
  | _ => simp [entries, ChannelAction.settles]

namespace Desk

/-- **The work is these requests on a channel**: it ends as they do, and leaves the client as they
do. -/
def Issues {α : Type} (work : DeskWork α) (desk : Desk) (channel : Nat)
    (requests : List ChannelAction) : Prop :=
  desk.client.issueAll channel requests =
    ((work.run desk).1.map fun _ => (), (work.run desk).2.client)

variable {α β : Type} {desk : Desk} {post : Post} {channel : Nat} {first : DeskWork α}
  {next : α → DeskWork β} {requests more : List ChannelAction}

/-- Work in two parts: the second one is begun when nothing was refused in the first. -/
theorem Issues.bind (begins : Issues first desk channel requests)
    (goesOn : ∀ a middle, Issues (next a) middle channel more) :
    Issues (first >>= next) desk channel (requests ++ more) := by
  unfold Issues at begins ⊢
  cases reached : first.run desk with
  | mk result middle =>
    rw [reached] at begins
    cases result with
    | ok a =>
      rw [Client.issueAll_append, begins, run_bind_ok reached]
      exact goesOn a middle
    | error error =>
      rw [Client.issueAll_append, begins, run_bind_error reached]
      rfl

/-- Work after which nothing more is asked for. -/
theorem Issues.bind_nil (begins : Issues first desk channel requests)
    (goesOn : ∀ a middle, Issues (next a) middle channel []) :
    Issues (first >>= next) desk channel requests := by
  have both := begins.bind goesOn
  rwa [List.append_nil] at both

theorem pure_issues (a : α) : Issues (pure a) desk channel [] := rfl

/-- A change of the desk that leaves the client alone. -/
theorem modify_issues {f : Desk → Desk} (same : ∀ desk, (f desk).client = desk.client) :
    Issues (modify f) desk channel [] :=
  congrArg (Prod.mk (Except.ok ())) (same desk).symm

theorem request_issues {request : ChannelAction} {ask : Client → Except ClientError Unit × Client}
    (same : desk.client.issue channel request = ask desk.client) :
    Issues (Desk.request ask) desk channel [request] := by
  show desk.client.issueAll channel [request] =
    ((ask desk.client).1.map fun _ => (), (ask desk.client).2)
  unfold Client.issueAll
  rw [same]
  cases ask desk.client with
  | mk result client => cases result <;> rfl

theorem ack_issues (tag : Nat) (multiple : Bool) :
    Issues (ack post tag multiple) desk post.channel [.settle ⟨tag, multiple, .ack⟩] :=
  request_issues rfl

theorem nack_issues (tag : Nat) (multiple requeue : Bool) :
    Issues (nack post tag multiple requeue) desk post.channel
      [.settle ⟨tag, multiple, .nack requeue⟩] :=
  request_issues rfl

theorem commit_issues : Issues (commit post) desk post.channel [.commit] := request_issues rfl

theorem rollback_issues : Issues (rollback post) desk post.channel [.rollback] := request_issues rfl

theorem count_issues (counted : Counted) : Issues (count counted) desk channel [] :=
  modify_issues fun _ => rfl

theorem resetBatch_issues : Issues resetBatch desk channel [] := modify_issues fun _ => rfl

/-- The batch is acknowledged up to its last delivery. -/
theorem ackBatch_issues (wanted : Bool) :
    Issues (ackBatch post wanted) desk post.channel
      (if wanted then desk.lastDeferred.toList.map fun last => .settle ⟨last, true, .ack⟩
        else []) := by
  unfold Issues ackBatch
  rw [run_get_bind]
  refine (?_ : Issues _ desk post.channel _)
  cases desk.lastDeferred with
  | none => cases wanted <;> exact pure_issues ()
  | some last =>
    cases wanted with
    | false => exact pure_issues ()
    | true => exact (ack_issues last true).bind_nil fun _ _ => count_issues _

/-- **An action is what it asks for.** -/
theorem perform_issues (tag : Nat) (action : AckAction) :
    Issues (perform post tag action) desk post.channel
      (action.entries tag desk.lastDeferred) := by
  refine Issues.bind_nil ?_ fun _ _ => modify_issues fun _ => rfl
  cases action with
  | nothing => exact pure_issues ()
  | defer => exact modify_issues fun _ => rfl
  | ack multiple =>
    exact (ack_issues tag multiple).bind_nil fun _ _ =>
      (count_issues _).bind_nil fun _ _ => resetBatch_issues
  | ackAndCommit multiple =>
    exact (ack_issues tag multiple).bind fun _ _ => commit_issues.bind_nil fun _ _ =>
      (count_issues _).bind_nil fun _ _ => (count_issues _).bind_nil fun _ _ => resetBatch_issues
  | commit => exact commit_issues.bind_nil fun _ _ => count_issues _
  | rollback => exact rollback_issues.bind_nil fun _ _ => count_issues _
  | nack requeue ackDeferred =>
    exact (ackBatch_issues ackDeferred).bind fun _ _ =>
      (nack_issues tag false requeue).bind_nil fun _ _ =>
        (count_issues _).bind_nil fun _ _ => resetBatch_issues
  | rollbackAndNack requeue multiple =>
    exact rollback_issues.bind fun _ _ => (nack_issues tag multiple requeue).bind fun _ _ =>
      commit_issues.bind_nil fun _ _ => (count_issues _).bind_nil fun _ _ =>
        (count_issues _).bind_nil fun _ _ => resetBatch_issues
  | joinTransaction => exact pure_issues ()
  | rollbackTransaction => exact pure_issues ()

variable (desk post) in
/-- A delivery that is settled asks for the action of its situation. -/
theorem settle_issues (tag : Nat) (outcome : Outcome) :
    Issues (settle post tag outcome) desk post.channel
      ((desk.situation post outcome false).action.entries tag desk.lastDeferred) := by
  unfold Issues settle
  rw [run_get_bind]
  exact perform_issues tag _

variable (desk post) in
/-- A delivery that is turned away asks for the action for a stop. -/
theorem turnAway_issues (tag : Nat) :
    Issues (turnAway post tag) desk post.channel
      ((desk.situation post .stopping false).action.entries tag desk.lastDeferred) := by
  have settled := settle_issues { desk with
    metrics := desk.metrics.increment (.delivery post.queue .rejectedWhileStopping) } post tag .stopping
  exact settled

/-- A flush asks for the acknowledgement of the batch. -/
theorem flush_issues {last : Nat} (latest : desk.lastDeferred = some last)
    (several : 0 < desk.deferred) :
    Issues (flush post) desk post.channel
      ((if post.settings.transacted then AckAction.ackAndCommit (1 < desk.deferred)
        else .ack (1 < desk.deferred)).entries last desk.lastDeferred) := by
  unfold Issues flush
  rw [run_get_bind, latest]
  dsimp only
  rw [if_pos several, ← latest]
  exact perform_issues last _

/-- **Without a batch a flush does nothing.** -/
theorem flush_of_empty (empty : desk.lastDeferred = none) :
    (flush post).run desk = (.ok (), desk) := by
  unfold flush
  rw [run_get_bind, empty]
  rfl

theorem flush_issues_nil (empty : desk.lastDeferred = none) :
    Issues (flush post) desk channel [] := by
  unfold Issues
  rw [flush_of_empty empty]
  rfl

end Desk

end QueueListener
