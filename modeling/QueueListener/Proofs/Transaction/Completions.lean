import QueueListener.Proofs.Transaction.Moves
/-!
# Completions

**Whoever joins a transaction is called once, at the next completion.** What concerns one
transaction is a row of rounds, whatever happens to the others meanwhile: some join, an ending is
decided, those who joined are called in their order and hear the outcome, and the completion is
entered.

* `Coordinator.Round` — what happens to a transaction up to a completion of it;
* `Coordinator.Tale` — the rounds of a transaction, and the one that is not over;
* `Coordinator.Step.elsewhere` — a step leaves all other transactions alone;
* `Coordinator.Step.tale` — a step goes on with the tale of every transaction;
* `Coordinator.run_calls_each_once` — so does every run, and the log agrees.
-/

namespace QueueListener

namespace Coordinator

open TransactionLog

variable {σ : Type}

/-- The transaction that an entry is about. -/
def Entry.number? : Entry σ → Option Nat
  | .told _ => none
  | .begun number => some number
  | .joined number _ => some number
  | .decided number _ _ _ => some number
  | .called number _ _ => some number
  | .completed number _ _ => some number

/-- What the log keeps of an entry. -/
def Entry.record? : Entry σ → Option TransactionRecord
  | .begun _ => some .begin
  | .decided _ _ outcome _ => some (recordOf outcome)
  | .completed _ outcome _ => some (.completed outcome)
  | .told _ | .joined _ _ | .called _ _ _ => none

/-- The part of a history that is about one transaction. -/
def about (number : Nat) (history : List (Entry σ)) : List (Entry σ) :=
  history.filter fun entry => entry.number? = some number

/-- What happens to a transaction up to a completion of it. -/
structure Round (σ : Type) where
  /-- Those who join, in their order. -/
  participants : List σ
  ending : Ending
  outcome : TransactionOutcome
  result : Except TransactionError Unit

/-- **A round in the order of time**: everybody who joins is called once, and hears the outcome. -/
def Round.entries (number : Nat) (round : Round σ) : List (Entry σ) :=
  round.participants.map (.joined number) ++
    .decided number round.ending round.outcome round.result ::
      (round.participants.map (.called number · round.outcome) ++
        [.completed number round.outcome round.result])

/-- The outcomes and answers that fit an ending: a rollback rolls back, and a commit succeeds or
fails. -/
def Fits : Ending → TransactionOutcome → Except TransactionError Unit → Prop
  | .rollback, outcome, result => outcome = .rolledBack ∧ result = .ok ()
  | .commit, outcome, result => Succeeds outcome result ∨ Fails outcome result

/-- Whether the outcome of a round and its answer fit the ending. -/
def Round.Fitting (round : Round σ) : Prop := Fits round.ending round.outcome round.result

/-- **The tale of a transaction**, given the transaction and its completion under way, if there is
one: the rounds that are over, and the beginning of the next. -/
inductive Tale (number : Nat) :
    Option (OpenTransaction σ) → Option (Completion σ) → List (Entry σ) → Prop
  | absent : Tale number none none []
  | waiting (rounds : List (Round σ)) (fitting : ∀ round ∈ rounds, round.Fitting)
      (transaction : OpenTransaction σ) :
      Tale number (some transaction) none
        (.begun number :: (rounds.flatMap (Round.entries number) ++
          transaction.joined.map (.joined number)))
  | completing (rounds : List (Round σ)) (fitting : ∀ round ∈ rounds, round.Fitting)
      (round : Round σ) (fits : round.Fitting) (told rest : List σ)
      (everybody : round.participants = told ++ rest) (failsCommit : Bool) :
      Tale number (some ⟨failsCommit, []⟩) (some ⟨round.outcome, rest, round.result⟩)
        (.begun number :: (rounds.flatMap (Round.entries number) ++
          (round.participants.map (.joined number) ++
            .decided number round.ending round.outcome round.result ::
              told.map (.called number · round.outcome))))

variable {c c' : Coordinator σ} {entry : Entry σ} {number n : Nat} {story : List (Entry σ)}
  {transaction : OpenTransaction σ} {known : Option (OpenTransaction σ)}
  {under : Option (Completion σ)} {outcome : TransactionOutcome}
  {result : Except TransactionError Unit}

/-! ### A tale goes on -/

theorem fits_outcomeOf (transaction : OpenTransaction σ) (ending : Ending) :
    Fits ending (outcomeOf transaction ending) (resultOf transaction ending) := by
  cases ending with
  | rollback => exact ⟨rfl, rfl⟩
  | commit =>
    cases fails : transaction.failsCommit with
    | true => exact .inr ((fails_iff transaction).mpr fails)
    | false => exact .inl ((succeeds_iff transaction).mpr fails)

theorem Tale.begin (soFar : Tale number none under story) (failsCommit : Bool) :
    Tale number (some ⟨failsCommit, []⟩) under (story ++ [.begun number]) := by
  cases soFar
  exact .waiting [] (by simp) ⟨failsCommit, []⟩

theorem Tale.join (soFar : Tale number (some transaction) none story) (participant : σ) :
    Tale number (some { transaction with joined := transaction.joined ++ [participant] }) none
      (story ++ [.joined number participant]) := by
  cases soFar with
  | waiting rounds fitting =>
    have next : Tale number _ _ _ := .waiting rounds fitting
      { transaction with joined := transaction.joined ++ [participant] }
    simpa using next

theorem Tale.request (soFar : Tale number (some transaction) none story) (ending : Ending) :
    Tale number (some { transaction with joined := [] })
      (some ⟨outcomeOf transaction ending, transaction.joined, resultOf transaction ending⟩)
      (story ++ [.decided number ending (outcomeOf transaction ending)
        (resultOf transaction ending)]) := by
  cases soFar with
  | waiting rounds fitting =>
    have next : Tale number _ _ _ := .completing rounds fitting
      ⟨transaction.joined, ending, outcomeOf transaction ending, resultOf transaction ending⟩
      (fits_outcomeOf transaction ending) [] transaction.joined rfl transaction.failsCommit
    simpa using next

theorem Tale.call {participant : σ} {rest : List σ}
    (soFar : Tale number known (some ⟨outcome, participant :: rest, result⟩) story) :
    Tale number known (some ⟨outcome, rest, result⟩)
      (story ++ [.called number participant outcome]) := by
  cases soFar with
  | completing rounds fitting round fits told _ everybody failsCommit =>
    have next : Tale number _ _ _ := .completing rounds fitting round fits
      (told ++ [participant]) rest (by simpa using everybody) failsCommit
    simpa using next

/-- The round is over when everybody was called. -/
theorem Tale.settle (soFar : Tale number known (some ⟨outcome, [], result⟩) story) :
    Tale number known none (story ++ [.completed number outcome result]) := by
  cases soFar with
  | completing rounds fitting round fits told _ everybody failsCommit =>
    have toldAll : told = round.participants := by simpa using everybody.symm
    have next : Tale number _ _ _ := .waiting (rounds ++ [round])
      (by simpa [or_imp, forall_and] using And.intro fitting fits) ⟨failsCommit, []⟩
    subst toldAll
    simpa [Round.entries] using next

/-! ### One step -/

theorem about_append (number : Nat) (history : List (Entry σ)) (entry : Entry σ) :
    about number (history ++ [entry]) =
      about number history ++ if entry.number? = some number then [entry] else [] := by
  simp only [about, List.filter_append, List.filter_cons, List.filter_nil, decide_eq_true_eq]

/-- **A step leaves all other transactions alone**, and their completions. -/
theorem Step.elsewhere (step : Step c entry c') (other : entry.number? ≠ some n) :
    c'.log.transactions[n]? = c.log.transactions[n]? ∧ c'.underway n = c.underway n := by
  cases step with
  | told on => exact ⟨rfl, rfl⟩
  | begun =>
    have apart : n ≠ c.log.transactions.size := fun same => other (by rw [same, Entry.number?])
    exact ⟨by rw [getElem?_begin, if_neg apart], rfl⟩
  | @joined number transaction participant here free =>
    have apart : number ≠ n := fun same => other (by rw [same, Entry.number?])
    exact ⟨by rw [getElem?_join, if_neg apart], rfl⟩
  | @decided number transaction ending here free =>
    have apart : number ≠ n := fun same => other (by rw [same, Entry.number?])
    exact ⟨by rw [getElem?_request here, if_neg apart], Function.update_of_ne apart.symm ..⟩
  | @called number outcome participant rest result next =>
    have apart : number ≠ n := fun same => other (by rw [same, Entry.number?])
    exact ⟨rfl, Function.update_of_ne apart.symm ..⟩
  | @completed number outcome result last =>
    have apart : number ≠ n := fun same => other (by rw [same, Entry.number?])
    exact ⟨rfl, Function.update_of_ne apart.symm ..⟩

/-- The tale of a transaction fits the state of a manager. -/
def Tells (c : Coordinator σ) (n : Nat) : Prop :=
  Tale n c.log.transactions[n]? (c.underway n) (about n c.history)

/-- **A step goes on with the tale of every transaction.** -/
theorem Step.tale (step : Step c entry c') (tells : c.Tells n) : c'.Tells n := by
  unfold Tells
  rw [step.history, about_append]
  by_cases here : entry.number? = some n
  · rw [if_pos here]
    unfold Tells at tells
    cases step with
    | told on => cases here
    | begun =>
      cases here
      dsimp only
      rw [getElem?_begin, if_pos rfl]
      rw [Array.getElem?_size] at tells
      exact tells.begin _
    | joined participant present free =>
      cases here
      rw [present, free] at tells
      dsimp only
      rw [getElem?_join, if_pos rfl, present, free]
      exact tells.join participant
    | decided ending present free =>
      cases here
      rw [present, free] at tells
      dsimp only
      rw [getElem?_request present, if_pos rfl, present, Function.update_self]
      exact tells.request ending
    | called next =>
      cases here
      rw [next] at tells
      dsimp only
      rw [Function.update_self]
      exact tells.call
    | completed last =>
      cases here
      rw [last] at tells
      dsimp only
      rw [Function.update_self]
      exact tells.settle
  · obtain ⟨same, untouched⟩ := step.elsewhere here
    rw [if_neg here, List.append_nil, same, untouched]
    exact tells

/-- The log agrees with what happened. -/
def Recorded (c : Coordinator σ) : Prop :=
  c.log.records.toList = c.history.filterMap Entry.record?

theorem Step.recorded (step : Step c entry c') (recorded : c.Recorded) : c'.Recorded := by
  unfold Recorded
  rw [step.history, List.filterMap_append, ← recorded]
  cases step with
  | told on => simp [Entry.record?]
  | begun => simp [TransactionLog.begin, Entry.record?]
  | joined participant here free => simp [TransactionLog.join, Entry.record?]
  | decided ending here free => simp [records_request here, Entry.record?]
  | called next => simp [Entry.record?]
  | completed last => simp [settle, Entry.record?]

/-! ### A run -/

theorem run_tells (moves : List (Move σ)) (n : Nat) : (run moves).Tells n :=
  followAll_keeps Tale.absent (fun _ _ _ tells step => step.tale tells) moves

theorem run_recorded (moves : List (Move σ)) : (run moves).Recorded := by
  have start : Recorded ({} : Coordinator σ) := rfl
  exact followAll_keeps start (fun _ _ _ recorded step => step.recorded recorded) moves

/-- Rounds that fit, and the beginning of one more. -/
theorem Tale.rounds (soFar : Tale number known under story) :
    story = [] ∨ ∃ (rounds : List (Round σ)) (last : Round σ) (begun rest : List (Entry σ)),
      story = .begun number :: (rounds.flatMap (Round.entries number) ++ begun) ∧
        (∀ round ∈ rounds, round.Fitting) ∧ last.Fitting ∧
        last.entries number = begun ++ rest ∧ rest ≠ [] := by
  cases soFar with
  | absent => exact .inl rfl
  | waiting rounds fitting transaction =>
    exact .inr ⟨rounds, ⟨transaction.joined, .rollback, .rolledBack, .ok ()⟩, _, _, rfl, fitting,
      ⟨rfl, rfl⟩, rfl, by simp⟩
  | completing rounds fitting round fits told rest everybody failsCommit =>
    refine .inr ⟨rounds, round, _, rest.map (.called number · round.outcome) ++
      [.completed number round.outcome round.result], rfl, fitting, fits, ?_, by simp⟩
    simp [Round.entries, everybody]

/-- **Whoever joins a transaction is called exactly once, at its next completion.** In every run,
whatever happens to other transactions meanwhile, what concerns a transaction is its beginning and
then one round after the other, the last of them perhaps not over: some join, an ending is decided
with an outcome that fits it, and those who joined are called once each, in their order and with
that outcome, before the completion is entered. A completion under way goes on to the end of its
round. The log keeps the beginnings, and for each completion the ending and then the completion,
both with its outcome. -/
theorem run_calls_each_once (moves : List (Move σ)) (number : Nat) :
    (about number (run moves).history = [] ∨
      ∃ (rounds : List (Round σ)) (last : Round σ) (begun rest : List (Entry σ)),
        about number (run moves).history =
          .begun number :: (rounds.flatMap (Round.entries number) ++ begun) ∧
        (∀ round ∈ rounds, round.Fitting) ∧ last.Fitting ∧
        last.entries number = begun ++ rest ∧ rest ≠ []) ∧
    (∀ completion, (run moves).underway number = some completion →
      about number ((run moves).followAll (finish number completion)).history =
        about number (run moves).history ++
          (completion.called.map (.called number · completion.outcome) ++
            [.completed number completion.outcome completion.result])) ∧
    (run moves).log.records.toList = (run moves).history.filterMap Entry.record? := by
  refine ⟨(run_tells moves number).rounds, fun completion under => ?_, run_recorded moves⟩
  rw [followAll_finish under]
  simp [about, List.filter_append, Entry.number?]

end Coordinator

end QueueListener
