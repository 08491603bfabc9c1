import QueueListener.Consumer.Desk
import QueueListener.Proofs.Broker.Settling
/-!
# Work at the desk

**Work at the desk of a consumer succeeds when its operations at the broker do**, and then only the
broker and the batch have changed.

* `run_bind_ok`, `run_bind_inv` — work in two parts succeeds when both parts do;
* `Desk.Stands` — the client has no faults; what the broker is, and what the batch;
* `Desk.Works` — work that succeeds, and how the desk stands after it;
* `ack_works`, `nack_works`, `commit_works`, `rollback_works` — single operations;
* `performAck_works`, `performNack_works`, … — the actions of the acknowledgement policy.
-/

namespace QueueListener

section Work

variable {σ α β : Type} {first : ExceptT ClientError (StateM σ) α}
  {next : α → ExceptT ClientError (StateM σ) β} {s s' : σ}

/-- Work goes on from where its first part has ended. -/
theorem run_bind_ok {a : α} (ran : first.run s = (.ok a, s')) :
    (first >>= next).run s = (next a).run s' := by
  show (ExceptT.bindCont next (first.run s).1).run (first.run s).2 = _
  rw [ran]
  rfl

/-- Work in two parts that succeeds has succeeded in both. -/
theorem run_bind_inv {b : β} (ran : (first >>= next).run s = (.ok b, s')) :
    ∃ a middle, first.run s = (.ok a, middle) ∧ (next a).run middle = (.ok b, s') := by
  cases reached : first.run s with
  | mk result middle =>
    cases result with
    | ok a => exact ⟨a, middle, rfl, (run_bind_ok reached).symm.trans ran⟩
    | error error =>
      have ran' : (ExceptT.bindCont next (first.run s).1).run (first.run s).2 = (.ok b, s') := ran
      rw [reached] at ran'
      cases ran'

theorem run_get_bind (next : σ → ExceptT ClientError (StateM σ) β) :
    ((get : ExceptT ClientError (StateM σ) σ) >>= next).run s = (next s).run s := rfl

theorem run_modify_bind (f : σ → σ) (next : Unit → ExceptT ClientError (StateM σ) β) :
    ((modify f : ExceptT ClientError (StateM σ) Unit) >>= next).run s = (next ()).run (f s) := rfl

end Work

namespace Desk

/-- How a desk stands: its client without faults and with that broker, and its batch. -/
structure Stands (desk : Desk) (broker : Broker) (deferred : Nat) (last : Option Nat) : Prop where
  client : desk.client = { broker := broker }
  deferred : desk.deferred = deferred
  last : desk.lastDeferred = last

/-- The work succeeds at the desk, and leaves it standing so. -/
def Works {α : Type} (work : DeskWork α) (desk : Desk) (a : α) (broker : Broker) (deferred : Nat)
    (last : Option Nat) : Prop :=
  ∃ after, work.run desk = (.ok a, after) ∧ after.Stands broker deferred last

variable {desk : Desk} {post : Post} {b b₁ b₂ b₃ : Broker} {n n' : Nat} {last last' : Option Nat}

/-- Work that goes on from a desk that is reached. -/
theorem works_of_run {α β : Type} {first : DeskWork α} {next : α → DeskWork β} {a : α} {c : β}
    {middle : Desk} (ran : first.run desk = (.ok a, middle))
    (continues : Works (next a) middle c b n last) : Works (first >>= next) desk c b n last := by
  obtain ⟨after, ran', stands⟩ := continues
  exact ⟨after, (run_bind_ok ran).trans ran', stands⟩

theorem Works.bind {α β : Type} {first : DeskWork α} {next : α → DeskWork β} {a : α} {c : β}
    (done : Works first desk a b₁ n last)
    (continues : ∀ after : Desk, after.Stands b₁ n last → Works (next a) after c b₂ n' last') :
    Works (first >>= next) desk c b₂ n' last' := by
  obtain ⟨middle, ran, stands⟩ := done
  exact works_of_run ran (continues middle stands)

theorem pure_works {α : Type} (stands : desk.Stands b n last) (a : α) :
    Works (pure a) desk a b n last := ⟨desk, rfl, stands⟩

theorem modify_works {f : Desk → Desk} (stands : desk.Stands b n last)
    (client : (f desk).client = desk.client) (deferred : (f desk).deferred = desk.deferred)
    (lastDeferred : (f desk).lastDeferred = desk.lastDeferred) :
    Works (modify f) desk () b n last :=
  ⟨f desk, rfl, client.trans stands.client, deferred.trans stands.deferred,
    lastDeferred.trans stands.last⟩

theorem get_works (stands : desk.Stands b n last) : Works get desk desk b n last :=
  ⟨desk, rfl, stands⟩

theorem count_works (stands : desk.Stands b n last) (counted : Counted) :
    Works (count counted) desk () b n last :=
  modify_works stands rfl rfl rfl

theorem resetBatch_works (stands : desk.Stands b n last) : Works resetBatch desk () b 0 none :=
  ⟨_, rfl, stands.client, rfl, rfl⟩

theorem defer_works (stands : desk.Stands b n last) (tag : Nat) :
    Works (defer tag) desk () b (n + 1) (some tag) :=
  ⟨_, rfl, stands.client, congrArg (· + 1) stands.deferred, rfl⟩

/-! ### Operations at the broker -/

/-- A call of a client without faults reaches the broker. -/
theorem call_of_faultless {α : Type} (op : ClientOp)
    (request : Broker → Except ClientError α × Broker) :
    Client.call { broker := b } op request = ((request b).1, { broker := (request b).2 }) := rfl

theorem request_works {α : Type} {op : ClientOp} {ask : Broker → Except ClientError α × Broker}
    {a : α} (stands : desk.Stands b n last) (done : ask b = (.ok a, b₁)) :
    Works (request (·.call op ask)) desk a b₁ n last := by
  refine ⟨{ desk with client := { broker := b₁ } }, ?_, rfl, stands.deferred, stands.last⟩
  show ((desk.client.call op ask).1, { desk with client := (desk.client.call op ask).2 }) = _
  rw [stands.client, call_of_faultless, done]

theorem ack_works {tag : Nat} {multiple : Bool} (stands : desk.Stands b n last)
    (done : b.acknowledge post.channel ⟨tag, multiple, .ack⟩ = (.ok (), b₁)) :
    Works (ack post tag multiple) desk () b₁ n last := request_works stands done

theorem nack_works {tag : Nat} {multiple requeue : Bool} (stands : desk.Stands b n last)
    (done : b.acknowledge post.channel ⟨tag, multiple, .nack requeue⟩ = (.ok (), b₁)) :
    Works (nack post tag multiple requeue) desk () b₁ n last := request_works stands done

theorem commit_works (stands : desk.Stands b n last)
    (done : b.commit post.channel = (.ok (), b₁)) : Works (commit post) desk () b₁ n last :=
  request_works stands done

theorem rollback_works (stands : desk.Stands b n last)
    (done : b.rollback post.channel = (.ok (), b₁)) : Works (rollback post) desk () b₁ n last :=
  request_works stands done

/-! ### Actions of the policy -/

/-- An action is what it does on the channel; the number that is shown does not matter. -/
theorem perform_works {tag : Nat} {action : AckAction}
    (done : Works (onChannel post tag action) desk () b n last) :
    Works (perform post tag action) desk () b n last :=
  done.bind fun _ stands => modify_works stands rfl rfl rfl

theorem performDefer_works (stands : desk.Stands b n last) (tag : Nat) :
    Works (perform post tag .defer) desk () b (n + 1) (some tag) :=
  perform_works (defer_works stands tag)

theorem performAck_works {tag : Nat} {multiple : Bool} (stands : desk.Stands b n last)
    (done : b.acknowledge post.channel ⟨tag, multiple, .ack⟩ = (.ok (), b₁)) :
    Works (perform post tag (.ack multiple)) desk () b₁ 0 none :=
  perform_works <| (ack_works stands done).bind fun _ stands =>
    (count_works stands _).bind fun _ stands => resetBatch_works stands

theorem performAckAndCommit_works {tag : Nat} {multiple : Bool} (stands : desk.Stands b n last)
    (done : b.acknowledge post.channel ⟨tag, multiple, .ack⟩ = (.ok (), b₁))
    (committed : b₁.commit post.channel = (.ok (), b₂)) :
    Works (perform post tag (.ackAndCommit multiple)) desk () b₂ 0 none :=
  perform_works <| (ack_works stands done).bind fun _ stands =>
    (commit_works stands committed).bind fun _ stands =>
      (count_works stands _).bind fun _ stands =>
        (count_works stands _).bind fun _ stands => resetBatch_works stands

/-- Without a batch, a rejection is one operation. -/
theorem performNack_works {tag : Nat} {requeue ackDeferred : Bool} (stands : desk.Stands b n none)
    (done : b.acknowledge post.channel ⟨tag, false, .nack requeue⟩ = (.ok (), b₁)) :
    Works (perform post tag (.nack requeue ackDeferred)) desk () b₁ 0 none := by
  have batch : Works (ackBatch post ackDeferred) desk () b n none := by
    refine (get_works stands).bind fun after stands' => ?_
    rw [stands.last]
    exact pure_works stands' ()
  exact perform_works <| batch.bind fun _ stands => (nack_works stands done).bind fun _ stands =>
    (count_works stands _).bind fun _ stands => resetBatch_works stands

/-- With a batch, the batch is acknowledged before the rejection. -/
theorem performBatchedNack_works {tag latest : Nat} {requeue : Bool}
    (stands : desk.Stands b n (some latest))
    (batched : b.acknowledge post.channel ⟨latest, true, .ack⟩ = (.ok (), b₁))
    (done : b₁.acknowledge post.channel ⟨tag, false, .nack requeue⟩ = (.ok (), b₂)) :
    Works (perform post tag (.nack requeue true)) desk () b₂ 0 none := by
  have batch : Works (ackBatch post true) desk () b₁ n (some latest) := by
    refine (get_works stands).bind fun after stands' => ?_
    rw [stands.last]
    exact (ack_works stands' batched).bind fun _ stands => count_works stands _
  exact perform_works <| batch.bind fun _ stands => (nack_works stands done).bind fun _ stands =>
    (count_works stands _).bind fun _ stands => resetBatch_works stands

theorem performRollbackAndNack_works {tag : Nat} {requeue multiple : Bool}
    (stands : desk.Stands b n last) (rolledBack : b.rollback post.channel = (.ok (), b₁))
    (done : b₁.acknowledge post.channel ⟨tag, multiple, .nack requeue⟩ = (.ok (), b₂))
    (committed : b₂.commit post.channel = (.ok (), b₃)) :
    Works (perform post tag (.rollbackAndNack requeue multiple)) desk () b₃ 0 none :=
  perform_works <| (rollback_works stands rolledBack).bind fun _ stands =>
    (nack_works stands done).bind fun _ stands =>
      (commit_works stands committed).bind fun _ stands =>
        (count_works stands _).bind fun _ stands =>
          (count_works stands _).bind fun _ stands => resetBatch_works stands

end Desk

end QueueListener
