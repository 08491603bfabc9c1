import QueueListener.Proofs.Consumer.Entries
/-!
# Deliveries without a batch

**A delivery that is settled on its own is entered once in the ledger**, with its verdict.

* `Verdict.closing` — the entries for the verdict on one delivery;
* `Shift.Concludes` — a step of a shift without a batch;
* `turnAway_concludes`, `turnAways_conclude` — deliveries that come too late.
-/

namespace QueueListener

open Broker

/-- How the verdict on one delivery is entered in the ledger: on a transactional channel an
acknowledgement is committed, and a rejection follows a rollback and is committed. -/
def Verdict.closing (transacted : Bool) (tag : Nat) (verdict : Verdict) : List ChannelAction :=
  match transacted, verdict with
  | false, verdict => [.settle ⟨tag, false, verdict⟩]
  | true, .ack => [.settle ⟨tag, false, .ack⟩, .commit]
  | true, .nack requeue => [.rollback, .settle ⟨tag, false, .nack requeue⟩, .commit]

theorem Verdict.closing_settle (transacted : Bool) (tag : Nat) (verdict : Verdict) :
    ∀ request ∈ verdict.closing transacted tag, request.settles = true := by
  cases transacted <;> cases verdict <;> simp [closing, ChannelAction.settles]

/-- How processed deliveries are entered in the ledger, each with its verdict. -/
def closings (transacted : Bool) (processed : List (Nat × Outcome)) : List ChannelAction :=
  processed.flatMap fun entry => entry.2.verdict.closing transacted entry.1

namespace Shift

/-- A step of a shift without a batch: what is processed gets its verdict at once, and is entered
once in the ledger. -/
structure Concludes (seat : Seat) (post : Post) (s s' : Shift) (done : List (Nat × Outcome)) :
    Prop where
  sound : ∃ record rest settled, Sound seat post s' record [] rest settled
  processed : s'.processed = s.processed ++ done
  verdicts : s'.verdicts = s.verdicts ++ done.map deserved
  ledger : s'.broker.ledger seat.channel = s.broker.ledger seat.channel ++
    closings post.settings.transacted done

variable {seat : Seat} {post : Post} {s s' : Shift} {record : ChannelRecord} {rest : List Unacked}
  {settled : List (Nat × Outcome)}

/-- A step that processes nothing. -/
theorem Advances.concludes (advances : Advances seat post s s' [] [] [])
    (ledger : s'.broker.ledger seat.channel = s.broker.ledger seat.channel) :
    Concludes seat post s s' [] :=
  ⟨advances.sound, advances.processed, advances.verdicts, ledger.trans (List.append_nil _).symm⟩

theorem Concludes.trans {middle last : Shift} {done done' : List (Nat × Outcome)}
    (first : Concludes seat post s middle done) (second : Concludes seat post middle last done') :
    Concludes seat post s last (done ++ done') where
  sound := second.sound
  processed := by rw [second.processed, first.processed, List.append_assoc]
  verdicts := by rw [second.verdicts, first.verdicts, List.map_append, List.append_assoc]
  ledger := by
    rw [second.ledger, first.ledger, closings, closings, closings, List.flatMap_append,
      List.append_assoc]

/-- A delivery that is turned away goes back to its queue. -/
theorem turnAway_concludes (auto : post.settings.ackMode = .auto)
    (here : post.channel = seat.channel) (sound : Sound seat post s record [] rest settled)
    {delivery : Delivery} {others : List Delivery} (waits : s.inbox = delivery :: others) :
    ∃ s', s.step seat post .turnAway = .ok s' ∧
      Concludes seat post s s' [(delivery.tag, .stopping)] := by
  obtain ⟨entry, s', stepped, same, advances, -⟩ := turnAway_advances auto here sound waits
  have entered := turnAway_ledger waits stepped
  have verdicts : (rejection post.settings.transacted [] entry true).map
      (fun entry => (entry.1.tag, entry.2)) = [(delivery.tag, Outcome.stopping)].map deserved := by
    rw [rejection]
    cases post.settings.transacted <;> rw [← same] <;> rfl
  refine ⟨s', stepped, advances.sound, advances.processed,
    advances.verdicts.trans (congrArg (s.verdicts ++ ·) verdicts), ?_⟩
  rw [here] at entered
  rw [entered]
  simp only [Desk.situation, Situation.action, Situation.reject, auto, sound.stands.deferred]
  cases post.settings.transacted <;> rfl

/-- Deliveries that are turned away one after the other go back to their queues. -/
theorem turnAways_conclude (auto : post.settings.ackMode = .auto)
    (here : post.channel = seat.channel)
    (sound : ∃ record rest settled, Sound seat post s record [] rest settled) (count : Nat) :
    ∃ (s' : Shift) (late : List Nat), s.run seat post (List.replicate count .turnAway) = .ok s' ∧
      Concludes seat post s s' (late.map (·, .stopping)) := by
  induction count generalizing s with
  | zero =>
    obtain ⟨_, _, _, sound⟩ := sound
    exact ⟨s, [], rfl, Advances.concludes (.refl sound) rfl⟩
  | succ count ih =>
    obtain ⟨next, first, turned, concludes⟩ : ∃ (next : Shift) (late : List Nat),
        s.step seat post .turnAway = .ok next ∧ Concludes seat post s next (late.map (·, .stopping)) := by
      obtain ⟨_, _, _, sound⟩ := sound
      cases waits : s.inbox with
      | nil =>
        refine ⟨s, [], ?_, Advances.concludes (.refl sound) rfl⟩
        unfold step
        rw [waits]
      | cons delivery others =>
        obtain ⟨next, turned, concludes⟩ := turnAway_concludes auto here sound waits
        exact ⟨next, [delivery.tag], turned, concludes⟩
    obtain ⟨s', late, ran, concludes'⟩ := ih concludes.sound
    refine ⟨s', first ++ late, (run_cons turned _).trans ran, ?_⟩
    rw [List.map_append]
    exact concludes.trans concludes'

end Shift

end QueueListener
