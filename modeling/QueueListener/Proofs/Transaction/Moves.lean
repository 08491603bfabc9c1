import Mathlib.Logic.Function.Basic
import QueueListener.Transaction
/-!
# A manager of transactions at work

**Transactions complete side by side.** Between the request for an ending and its settlement those
who joined the transaction are called, one after the other. Meanwhile other transactions begin, are
joined and complete, and the manager may be told that commits are to fail. The transaction itself
takes nothing new until its completion is settled.

* `Coordinator`, `Coordinator.follow` — a manager with the completions under way, and what one move
  does to it;
* `Coordinator.Entry` — what happens, in the order of time;
* `Coordinator.follow_cases` — everything that a move can do;
* `Coordinator.Fails`, `Coordinator.Succeeds` — the two ends of a commit;
* `Coordinator.followAll_finish`, `Coordinator.followAll_complete` — a completion that nothing
  interrupts.
-/

namespace QueueListener

namespace Coordinator

/-- What happens at a manager of transactions. -/
inductive Entry (σ : Type)
  /-- From now on commits fail, or they do not. -/
  | told (fails : Bool)
  | begun (number : Nat)
  | joined (number : Nat) (participant : σ)
  /-- Asked for an ending, a transaction decides how it completes and what it will answer. -/
  | decided (number : Nat) (ending : Ending) (outcome : TransactionOutcome)
      (result : Except TransactionError Unit)
  | called (number : Nat) (participant : σ) (outcome : TransactionOutcome)
  | completed (number : Nat) (outcome : TransactionOutcome) (result : Except TransactionError Unit)

/-- What a manager of transactions is asked to do, and the parts of a completion. -/
inductive Move (σ : Type)
  | failCommits (on : Bool)
  | begin
  | join (number : Nat) (participant : σ)
  | request (number : Nat) (ending : Ending)
  /-- Calls the next of those who joined a transaction that completes. -/
  | call (number : Nat)
  /-- Settles a completion when everybody was called. -/
  | settle (number : Nat)
  deriving DecidableEq, Repr

end Coordinator

/-- A manager at work: its log, the completions under way with those who are still to be called, and
what happened so far. -/
structure Coordinator (σ : Type) where
  log : TransactionLog σ := {}
  underway : Nat → Option (Completion σ) := fun _ => none
  history : List (Coordinator.Entry σ) := []

namespace Coordinator

open TransactionLog

variable {σ : Type}

/-- Whether a transaction takes what it is asked: it has begun, and no completion is under way. -/
def accepts (c : Coordinator σ) (number : Nat) : Bool :=
  number < c.log.transactions.size && (c.underway number).isNone

/-- Follows a move. One that is not possible now changes nothing. -/
def follow (c : Coordinator σ) : Move σ → Coordinator σ
  | .failCommits on =>
    { c with log := { c.log with failsCommits := on }, history := c.history ++ [.told on] }
  | .begin =>
    { c with log := c.log.begin.2, history := c.history ++ [.begun c.log.begin.1] }
  | .join number participant =>
    if c.accepts number then
      { c with
        log := c.log.join number participant
        history := c.history ++ [.joined number participant] }
    else c
  | .request number ending =>
    if c.accepts number then
      match c.log.request number ending with
      | (none, _) => c
      | (some completion, log) =>
        { log
          underway := Function.update c.underway number (some completion)
          history := c.history ++ [.decided number ending completion.outcome completion.result] }
    else c
  | .call number =>
    match c.underway number with
    | some ⟨outcome, participant :: rest, result⟩ =>
      { c with
        underway := Function.update c.underway number (some ⟨outcome, rest, result⟩)
        history := c.history ++ [.called number participant outcome] }
    | _ => c
  | .settle number =>
    match c.underway number with
    | some ⟨outcome, [], result⟩ =>
      { log := c.log.settle outcome
        underway := Function.update c.underway number none
        history := c.history ++ [.completed number outcome result] }
    | _ => c

/-- One move after the other. -/
def followAll (c : Coordinator σ) (moves : List (Move σ)) : Coordinator σ := moves.foldl follow c

/-- A manager that follows the moves from the beginning. -/
def run (moves : List (Move σ)) : Coordinator σ := followAll {} moves

/-- What is left to do for a completion: the calls, and the settlement. -/
def finish (number : Nat) (completion : Completion σ) : List (Move σ) :=
  completion.called.map (fun _ => .call number) ++ [.settle number]

/-- **What happens in one move**, and the manager after it. -/
inductive Step (c : Coordinator σ) : Entry σ → Coordinator σ → Prop
  | told (on : Bool) : Step c (.told on)
      { c with log := { c.log with failsCommits := on }, history := c.history ++ [.told on] }
  | begun : Step c (.begun c.log.transactions.size)
      { c with
        log := c.log.begin.2
        history := c.history ++ [.begun c.log.transactions.size] }
  | joined {number : Nat} {transaction : OpenTransaction σ} (participant : σ)
      (here : c.log.transactions[number]? = some transaction) (free : c.underway number = none) :
      Step c (.joined number participant)
        { c with
          log := c.log.join number participant
          history := c.history ++ [.joined number participant] }
  | decided {number : Nat} {transaction : OpenTransaction σ} (ending : Ending)
      (here : c.log.transactions[number]? = some transaction) (free : c.underway number = none) :
      Step c (.decided number ending (outcomeOf transaction ending) (resultOf transaction ending))
        { log := (c.log.request number ending).2
          underway := Function.update c.underway number
            (some ⟨outcomeOf transaction ending, transaction.joined, resultOf transaction ending⟩)
          history := c.history ++
            [.decided number ending (outcomeOf transaction ending) (resultOf transaction ending)] }
  | called {number : Nat} {outcome : TransactionOutcome} {participant : σ} {rest : List σ}
      {result : Except TransactionError Unit}
      (next : c.underway number = some ⟨outcome, participant :: rest, result⟩) :
      Step c (.called number participant outcome)
        { c with
          underway := Function.update c.underway number (some ⟨outcome, rest, result⟩)
          history := c.history ++ [.called number participant outcome] }
  | completed {number : Nat} {outcome : TransactionOutcome} {result : Except TransactionError Unit}
      (last : c.underway number = some ⟨outcome, [], result⟩) :
      Step c (.completed number outcome result)
        { log := c.log.settle outcome
          underway := Function.update c.underway number none
          history := c.history ++ [.completed number outcome result] }

variable {c c' : Coordinator σ} {entry : Entry σ} {number : Nat}

/-! ### One move -/

theorem accepts_iff : c.accepts number = true ↔
    (∃ transaction, c.log.transactions[number]? = some transaction) ∧ c.underway number = none := by
  unfold accepts
  simp only [Bool.and_eq_true, decide_eq_true_eq, Option.isNone_iff_eq_none]
  refine and_congr_left fun _ => ⟨fun bound => ?_, fun ⟨transaction, here⟩ => ?_⟩
  · exact ⟨_, Array.getElem?_eq_getElem bound⟩
  · exact (Array.getElem?_eq_some_iff.mp here).1

/-- The answer of a transaction that has begun to a request. -/
theorem request_of_here {log : TransactionLog σ} {transaction : OpenTransaction σ}
    (here : log.transactions[number]? = some transaction) (ending : Ending) :
    log.request number ending =
      (some ⟨outcomeOf transaction ending, transaction.joined, resultOf transaction ending⟩,
        (log.request number ending).2) := by
  unfold request
  rw [here]

/-- **Everything that a move can do**: nothing, or one entry in the history with what belongs to
it. -/
theorem follow_cases (c : Coordinator σ) (move : Move σ) :
    c.follow move = c ∨ ∃ entry, Step c entry (c.follow move) := by
  cases move with
  | failCommits on => exact .inr ⟨_, .told on⟩
  | begin => exact .inr ⟨_, .begun⟩
  | join number participant =>
    by_cases accepted : c.accepts number = true
    · obtain ⟨⟨transaction, here⟩, free⟩ := accepts_iff.mp accepted
      refine .inr ⟨.joined number participant, ?_⟩
      rw [follow, if_pos accepted]
      exact .joined participant here free
    · rw [follow, if_neg accepted]
      exact .inl rfl
  | request number ending =>
    by_cases accepted : c.accepts number = true
    · obtain ⟨⟨transaction, here⟩, free⟩ := accepts_iff.mp accepted
      refine .inr ⟨.decided number ending (outcomeOf transaction ending)
        (resultOf transaction ending), ?_⟩
      rw [follow, if_pos accepted, request_of_here here]
      exact .decided ending here free
    · rw [follow, if_neg accepted]
      exact .inl rfl
  | call number =>
    unfold follow
    dsimp only
    split
    next outcome participant rest result next => exact .inr ⟨_, .called next⟩
    next => exact .inl rfl
  | settle number =>
    unfold follow
    dsimp only
    split
    next outcome result last => exact .inr ⟨_, .completed last⟩
    next => exact .inl rfl

theorem Step.history (step : Step c entry c') : c'.history = c.history ++ [entry] := by
  cases step <;> rfl

/-- **What every step keeps holds after a run.** -/
theorem followAll_keeps {Holds : Coordinator σ → Prop} (holds : Holds c)
    (keeps : ∀ c entry c', Holds c → Step c entry c' → Holds c') (moves : List (Move σ)) :
    Holds (c.followAll moves) := by
  induction moves generalizing c with
  | nil => exact holds
  | cons move moves ih =>
    apply ih
    rcases c.follow_cases move with same | ⟨entry, step⟩
    · rw [same]
      exact holds
    · exact keeps c entry _ holds step

/-! ### How a commit ends -/

/-- A commit that fails rolls back, and answers with an error. -/
def Fails (outcome : TransactionOutcome) (result : Except TransactionError Unit) : Prop :=
  outcome = .rolledBack ∧ result = .error (.commit "simulated commit failure")

/-- A commit that succeeds. -/
def Succeeds (outcome : TransactionOutcome) (result : Except TransactionError Unit) : Prop :=
  outcome = .committed ∧ result = .ok ()

theorem fails_iff (transaction : OpenTransaction σ) :
    Fails (outcomeOf transaction .commit) (resultOf transaction .commit) ↔
      transaction.failsCommit = true := by
  cases fails : transaction.failsCommit <;> simp [Fails, outcomeOf, resultOf, fails]

theorem succeeds_iff (transaction : OpenTransaction σ) :
    Succeeds (outcomeOf transaction .commit) (resultOf transaction .commit) ↔
      transaction.failsCommit = false := by
  cases fails : transaction.failsCommit <;> simp [Succeeds, outcomeOf, resultOf, fails]

/-! ### A completion that nothing interrupts -/

/-- A completion under way goes on to its end: who is still to be called is called in turn. -/
theorem followAll_finish {completion : Completion σ}
    (under : c.underway number = some completion) : c.followAll (finish number completion) =
      { log := c.log.settle completion.outcome
        underway := Function.update c.underway number none
        history := c.history ++ (completion.called.map (.called number · completion.outcome) ++
          [.completed number completion.outcome completion.result]) } := by
  obtain ⟨outcome, waiting, result⟩ := completion
  induction waiting generalizing c with
  | nil => simp [finish, followAll, follow, under]
  | cons participant rest ih =>
    have next : c.follow (.call number) =
        { c with
          underway := Function.update c.underway number (some ⟨outcome, rest, result⟩)
          history := c.history ++ [.called number participant outcome] } := by
      simp only [follow, under]
    have begun : finish number ⟨outcome, participant :: rest, result⟩ =
        .call number :: finish number ⟨outcome, rest, result⟩ := rfl
    rw [begun, followAll, List.foldl_cons, next]
    refine (ih (Function.update_self ..)).trans ?_
    simp

/-- **Without interruption the parts of a completion make up the whole of it.** -/
theorem followAll_complete {completion : Completion σ} {log : TransactionLog σ} {ending : Ending}
    (free : c.underway number = none)
    (completes : c.log.complete number ending = (some completion, log)) :
    c.followAll (.request number ending :: finish number completion) =
      { c with
        log
        history := c.history ++
          (.decided number ending completion.outcome completion.result ::
            (completion.called.map (.called number · completion.outcome) ++
              [.completed number completion.outcome completion.result])) } := by
  unfold complete at completes
  split at completes
  next => cases completes
  next completion' log' requested =>
    cases completes
    have accepted : c.accepts number = true := by
      refine accepts_iff.mpr ⟨?_, free⟩
      unfold request at requested
      split at requested
      next => cases requested
      next transaction here => exact ⟨transaction, here⟩
    rw [followAll, List.foldl_cons, follow, if_pos accepted, requested]
    refine (followAll_finish (Function.update_self ..)).trans ?_
    simp [free]

/-! ### The transactions of a log -/

theorem getElem?_begin (log : TransactionLog σ) (n : Nat) :
    log.begin.2.transactions[n]? =
      if n = log.transactions.size then some ⟨log.failsCommits, []⟩ else log.transactions[n]? :=
  Array.getElem?_push

theorem getElem?_join (log : TransactionLog σ) (participant : σ) (n : Nat) :
    (log.join number participant).transactions[n]? =
      if number = n then
        (log.transactions[n]?).map fun t => { t with joined := t.joined ++ [participant] }
      else log.transactions[n]? :=
  Array.getElem?_modify

theorem getElem?_request {log : TransactionLog σ} {transaction : OpenTransaction σ}
    (here : log.transactions[number]? = some transaction) (ending : Ending) (n : Nat) :
    (log.request number ending).2.transactions[n]? =
      if number = n then (log.transactions[n]?).map fun t => { t with joined := [] }
      else log.transactions[n]? := by
  unfold request
  rw [here]
  exact Array.getElem?_modify

theorem records_request {log : TransactionLog σ} {transaction : OpenTransaction σ}
    (here : log.transactions[number]? = some transaction) (ending : Ending) :
    (log.request number ending).2.records =
      log.records.push (recordOf (outcomeOf transaction ending)) := by
  unfold request
  rw [here]

end Coordinator

end QueueListener
