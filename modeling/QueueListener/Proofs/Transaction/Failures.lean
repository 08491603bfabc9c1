import QueueListener.Proofs.Transaction.Moves
/-!
# Commits that fail on request

**Whether a commit fails is settled when its transaction begins.** A manager may be told at any time
that commits are to fail, or that they are not. A transaction goes by what was said last before it
began; it does not hear what is said later.

* `Coordinator.lastTold` — what a manager was told last;
* `Coordinator.Settled` — what was last said before a transaction began;
* `Coordinator.Remembers` — the transactions of a manager go by what was said before them;
* `Coordinator.commit_fails_iff` — which commits fail, and when that is what was said last.
-/

namespace QueueListener

namespace Coordinator

open TransactionLog

variable {σ : Type}

/-- What a manager was told last about commits. At first they do not fail. -/
def lastTold (history : List (Entry σ)) : Bool :=
  history.foldl (fun fails entry => match entry with
    | .told on => on
    | _ => fails) false

/-- **What was said last before a transaction began**, in a history in which it has begun. -/
structure Settled (history : List (Entry σ)) (number : Nat) (earlier : List (Entry σ))
    (fails : Bool) : Prop where
  begun : ∃ later, history = earlier ++ .begun number :: later
  first : .begun number ∉ earlier
  last : lastTold earlier = fails

/-- Whether the commits of a transaction fail, if it has begun. -/
def failing? (c : Coordinator σ) (number : Nat) : Option Bool :=
  (c.log.transactions[number]?).map (·.failsCommit)

/-- A manager whose transactions go by what was said before they began, and whose commits went by
it. -/
structure Remembers (c : Coordinator σ) : Prop where
  current : c.log.failsCommits = lastTold c.history
  fresh : ∀ number, c.failing? number = none → .begun number ∉ c.history
  settled : ∀ number fails, c.failing? number = some fails →
    ∃ earlier, Settled c.history number earlier fails
  commits : ∀ before number outcome result after,
    c.history = before ++ .decided number .commit outcome result :: after →
    ∃ transaction : OpenTransaction σ, outcome = outcomeOf transaction .commit ∧
      result = resultOf transaction .commit ∧
      ∃ earlier, Settled before number earlier transaction.failsCommit

variable {c c' : Coordinator σ} {entry : Entry σ} {number : Nat} {history earlier : List (Entry σ)}
  {fails : Bool}

/-! ### What was said -/

theorem lastTold_append (history : List (Entry σ)) (entry : Entry σ) :
    lastTold (history ++ [entry]) = match entry with
      | .told on => on
      | _ => lastTold history := by
  rw [lastTold, List.foldl_append]
  rfl

/-- What is said after a transaction began does not change what was said before. -/
theorem Settled.append (settled : Settled history number earlier fails) (entry : Entry σ) :
    Settled (history ++ [entry]) number earlier fails := by
  obtain ⟨⟨later, rfl⟩, first, last⟩ := settled
  exact ⟨⟨later ++ [entry], by simp⟩, first, last⟩

/-! ### One step -/

theorem Step.current (step : Step c entry c') (current : c.log.failsCommits = lastTold c.history) :
    c'.log.failsCommits = lastTold c'.history := by
  rw [step.history, lastTold_append]
  cases step with
  | told on => rfl
  | begun => exact current
  | joined participant here free => exact current
  | decided ending here free =>
    refine Eq.trans ?_ current
    unfold request
    rw [here]
  | called next => exact current
  | completed last => exact current

/-- A transaction that begins goes by what holds now. -/
theorem Step.failing?_begun (step : Step c (.begun number) c') :
    c.failing? number = none ∧ c'.failing? number = some c.log.failsCommits := by
  cases step
  constructor
  · rw [failing?, Array.getElem?_size]
    rfl
  · dsimp only [failing?]
    rw [getElem?_begin, if_pos rfl]
    rfl

/-- From then on it goes by that. -/
theorem Step.failing?_eq (step : Step c entry c') (other : entry ≠ .begun number) :
    c'.failing? number = c.failing? number := by
  cases step with
  | told on => rfl
  | begun =>
    have apart : number ≠ c.log.transactions.size := fun same => other (by rw [same])
    dsimp only [failing?]
    rw [getElem?_begin, if_neg apart]
  | joined participant here free =>
    dsimp only [failing?]
    rw [getElem?_join]
    split
    next => rw [Option.map_map]; rfl
    next => rfl
  | decided ending here free =>
    dsimp only [failing?]
    rw [getElem?_request here]
    split
    next => rw [Option.map_map]; rfl
    next => rfl
  | called next => rfl
  | completed last => rfl

/-- **A step is remembered.** -/
theorem Step.remembers (step : Step c entry c') (remembers : c.Remembers) : c'.Remembers := by
  refine ⟨step.current remembers.current, fun number unknown => ?_, fun number fails known => ?_,
    fun before number outcome result after parts => ?_⟩
  · by_cases begins : entry = .begun number
    · subst begins
      rw [step.failing?_begun.2] at unknown
      cases unknown
    · rw [step.failing?_eq begins] at unknown
      rw [step.history, List.mem_append, List.mem_singleton]
      rintro (before | now)
      · exact remembers.fresh number unknown before
      · exact begins now.symm
  · rw [step.history]
    by_cases begins : entry = .begun number
    · subst begins
      obtain ⟨unknown, flagged⟩ := step.failing?_begun
      rw [flagged] at known
      cases known
      exact ⟨c.history, ⟨[], rfl⟩, remembers.fresh number unknown, remembers.current.symm⟩
    · rw [step.failing?_eq begins] at known
      obtain ⟨earlier, settled⟩ := remembers.settled number fails known
      exact ⟨earlier, settled.append entry⟩
  · rw [step.history] at parts
    rcases after.eq_nil_or_concat with rfl | ⟨after, last, rfl⟩
    · -- The commit is the step itself.
      obtain ⟨rfl, now⟩ := List.append_inj' parts rfl
      cases now
      cases step with
      | @decided _ transaction _ here free =>
        refine ⟨transaction, rfl, rfl, remembers.settled number _ ?_⟩
        rw [failing?, here]
        rfl
    · rw [List.concat_eq_append, ← List.cons_append, ← List.append_assoc] at parts
      exact remembers.commits before number outcome result after (List.append_inj' parts rfl).1

theorem run_remembers (moves : List (Move σ)) : (run moves).Remembers := by
  have start : Remembers ({} : Coordinator σ) :=
    ⟨rfl, fun _ _ => List.not_mem_nil, fun _ _ known => by simp [failing?] at known,
      fun before number outcome result after parts => by simp at parts⟩
  exact followAll_keeps start (fun _ _ _ remembers step => step.remembers remembers) moves

/-! ### Every commit -/

/-- **Which commits fail.** A commit fails when the manager was last told so before the transaction
began, and succeeds otherwise. That is what the manager was told last before the commit just when
the two agree. -/
theorem commit_fails_iff {moves : List (Move σ)} {before after : List (Entry σ)} {number : Nat}
    {outcome : TransactionOutcome} {result : Except TransactionError Unit}
    (entered : (run moves).history = before ++ .decided number .commit outcome result :: after) :
    ∃ earlier fails, Settled before number earlier fails ∧
      (Fails outcome result ↔ fails = true) ∧ (Succeeds outcome result ↔ fails = false) ∧
      ((Fails outcome result ↔ lastTold before = true) ↔ lastTold before = fails) := by
  obtain ⟨transaction, rfl, rfl, earlier, settled⟩ :=
    (run_remembers moves).commits before number outcome result after entered
  refine ⟨earlier, transaction.failsCommit, settled, fails_iff transaction,
    succeeds_iff transaction, ?_⟩
  rw [fails_iff]
  cases transaction.failsCommit <;> cases lastTold before <;> decide

/-- Of two transactions the second begins when commits are to fail. Its commit does. -/
theorem commit_fails_iff_second :
    (run (σ := Unit) [.begin, .failCommits true, .begin, .request 0 .commit,
        .request 1 .commit]).history =
      [.begun 0, .told true, .begun 1, .decided 0 .commit .committed (.ok ())] ++
        .decided 1 .commit .rolledBack (.error (.commit "simulated commit failure")) :: [] ∧
    ∃ earlier, Settled (σ := Unit)
      [.begun 0, .told true, .begun 1, .decided 0 .commit .committed (.ok ())] 1 earlier true := by
  have entered : (run (σ := Unit) [.begin, .failCommits true, .begin, .request 0 .commit,
        .request 1 .commit]).history =
      [.begun 0, .told true, .begun 1, .decided 0 .commit .committed (.ok ())] ++
        .decided 1 .commit .rolledBack (.error (.commit "simulated commit failure")) :: [] := rfl
  obtain ⟨earlier, fails, settled, failed, -⟩ := commit_fails_iff entered
  cases failed.mp ⟨rfl, rfl⟩
  exact ⟨entered, earlier, settled⟩

/-- **A commit does not hear what was said after its transaction began**: it succeeds although the
manager was told last that commits are to fail. -/
theorem commit_succeeds_when_told_to_fail :
    (run (σ := Unit) [.begin, .failCommits true, .request 0 .commit]).history =
      [.begun 0, .told true, .decided 0 .commit .committed (.ok ())] ∧
    lastTold (σ := Unit) [.begun 0, .told true] = true ∧ ¬ Fails .committed (.ok ()) := by
  refine ⟨rfl, rfl, ?_⟩
  rintro ⟨rolledBack, -⟩
  cases rolledBack

end Coordinator

end QueueListener
