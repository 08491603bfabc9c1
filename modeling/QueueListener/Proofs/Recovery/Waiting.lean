import QueueListener.Proofs.Recovery.Budget
/-!
# A round that waits

**A retry that was scheduled makes its round wait for the delay**, and until the delay has passed
restarts are blocked, no attempt is due, and no failure changes the round.

* `Supervisor.blocked_of_waiting`, `Supervisor.not_due_of_waiting` — before the next attempt;
* `Supervisor.onFailure_scheduled` — a scheduled retry sets the instant of the next attempt;
* `Supervisor.onFailure_round` — a failure leaves a round alone that waits.
-/

namespace QueueListener

/-- An instant that the clock can show is as much later as was asked for. -/
theorem Instant.eq_of_after {now next : Instant} {delay : Duration}
    (reached : now.after delay = .ok next) : next = now + delay := by
  unfold Instant.after Instant.after? at reached
  by_cases shown : now + (delay : Int) ≤ Instant.latest
  · rw [if_pos shown] at reached
    exact (Except.ok.inj reached).symm
  · rw [if_neg shown] at reached
    cases reached

namespace Supervisor

variable {s : Supervisor} {round : Round} {now : Instant}

/-- A round that waits and is not due blocks restarts. -/
theorem blocked_of_waiting (found : s.round = some round) (early : now < round.nextAttempt) :
    s.restartsBlocked now = true := by
  unfold restartsBlocked
  rw [found]
  simp [Round.blocks, early]

theorem not_due_of_waiting (found : s.round = some round) (early : now < round.nextAttempt) :
    s.attemptDue now = false := by
  unfold attemptDue
  rw [found]
  simp [Round.isDue, early]

/-- A retry that is scheduled makes the round wait for as long as it says. -/
theorem advanceRound_scheduled {error : ClientError} {delay : Duration} {number : Nat}
    (scheduled : (s.advanceRound round error now).1 = .ok (.scheduleRetry delay number)) :
    ∃ walk, (s.advanceRound round error now).2.round = some ⟨walk, now + delay, false⟩ := by
  unfold advanceRound at scheduled ⊢
  dsimp only at scheduled ⊢
  split at scheduled
  next => cases scheduled
  next => cases scheduled
  next later walk _ =>
    cases reached : now.after later with
    | error fault => simp [reached] at scheduled
    | ok next =>
      simp only [reached, Except.ok.injEq, RecoveryAction.scheduleRetry.injEq] at scheduled ⊢
      rw [← scheduled.1, Instant.eq_of_after reached]
      exact ⟨walk, rfl⟩

theorem onFailure_scheduled {queue : String} {error : ClientError} {delay : Duration}
    {number : Nat}
    (scheduled : (s.onFailure queue error now).1 = .ok (.scheduleRetry delay number)) :
    ∃ walk, (s.onFailure queue error now).2.round = some ⟨walk, now + delay, false⟩ := by
  by_cases retried : s.rules.Retries error
  · rw [onFailure_of_retries retried] at scheduled ⊢
    unfold scheduleRetry at scheduled ⊢
    split at scheduled
    next round _ =>
      by_cases flies : round.inFlight = true
      · rw [if_pos flies] at scheduled ⊢
        exact advanceRound_scheduled scheduled
      · rw [if_neg flies] at scheduled
        cases scheduled
    next => exact advanceRound_scheduled scheduled
  · exact absurd scheduled ((onFailure_of_not_retries retried queue now).2 delay number)

/-- **A failure leaves a round alone that waits.** -/
theorem onFailure_round (found : s.round = some round) (waits : round.inFlight = false)
    (queue : String) (error : ClientError) (now : Instant) :
    (s.onFailure queue error now).2.round = some round := by
  by_cases retried : s.rules.Retries error
  · rw [onFailure_of_retries retried]
    simp [scheduleRetry, setState, found, waits]
  · rw [(onFailure_of_not_retries retried queue now).1]
    exact found

end Supervisor

end QueueListener
