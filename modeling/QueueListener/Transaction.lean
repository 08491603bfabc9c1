import QueueListener.Failure
/-!
# External transactions in memory

**The manager records what happens to its transactions.** What joined a transaction is called
once, when the transaction completes, and is told how it completed. A commit fails on request; it
then rolls back.

* `TransactionLog.begin`, `TransactionLog.join`, `TransactionLog.complete` — the life of a
  transaction; a completion is a request, the calls and a settlement;
* `TransactionService` — a manager that misbehaves for its first transactions, for trying out how
  a container copes.
-/

namespace QueueListener

/-- How a transaction completed. -/
inductive TransactionOutcome
  | committed
  | rolledBack
  deriving DecidableEq, Repr

/-- The name of an outcome. -/
def TransactionOutcome.text : TransactionOutcome → String
  | .committed => "Committed"
  | .rolledBack => "RolledBack"

/-- An entry of the log of transactions. -/
inductive TransactionRecord
  | begin
  | commit
  | rollback
  | completed (outcome : TransactionOutcome)
  deriving DecidableEq, Repr

/-- The wording of an entry. -/
def TransactionRecord.text : TransactionRecord → String
  | .begin => "begin"
  | .commit => "commit"
  | .rollback => "rollback"
  | .completed outcome => "completed " ++ outcome.text

/-- How a transaction is asked to end. -/
inductive Ending
  | commit
  | rollback
  deriving DecidableEq, Repr

/-- A transaction, and what joined it since it last completed. -/
structure OpenTransaction (σ : Type) where
  failsCommit : Bool
  joined : List σ
  deriving DecidableEq, Repr

/-- The transactions of a manager, numbered from zero. -/
structure TransactionLog (σ : Type) where
  records : Array TransactionRecord := #[]
  failsCommits : Bool := false
  transactions : Array (OpenTransaction σ) := #[]
  deriving DecidableEq, Repr

/-- The completion of a transaction: its outcome, who is called, and the answer to the request. -/
structure Completion (σ : Type) where
  outcome : TransactionOutcome
  called : List σ
  result : Except TransactionError Unit

namespace TransactionLog

variable {σ : Type}

/-- Begins a transaction. Whether its commits fail is settled now. -/
def begin (log : TransactionLog σ) : Nat × TransactionLog σ :=
  (log.transactions.size,
    { log with
      records := log.records.push .begin
      transactions := log.transactions.push ⟨log.failsCommits, []⟩ })

/-- Joins a transaction, to be called at its completion. -/
def join (log : TransactionLog σ) (number : Nat) (participant : σ) : TransactionLog σ :=
  { log with transactions := log.transactions.modify number fun transaction =>
      { transaction with joined := transaction.joined ++ [participant] } }

/-- How a transaction completes when it is asked for an ending. -/
def outcomeOf (transaction : OpenTransaction σ) : Ending → TransactionOutcome
  | .commit => if transaction.failsCommit then .rolledBack else .committed
  | .rollback => .rolledBack

/-- The answer to the request for an ending. -/
def resultOf (transaction : OpenTransaction σ) : Ending → Except TransactionError Unit
  | .commit =>
    if transaction.failsCommit then .error (.commit "simulated commit failure") else .ok ()
  | .rollback => .ok ()

/-- The record of a completion. -/
def recordOf : TransactionOutcome → TransactionRecord
  | .committed => .commit
  | .rolledBack => .rollback

/-- Asks a transaction for an ending. The ending is entered, and those who joined have left the
transaction: they are called next. -/
def request (log : TransactionLog σ) (number : Nat) (ending : Ending) :
    Option (Completion σ) × TransactionLog σ :=
  match log.transactions[number]? with
  | none => (none, log)
  | some transaction =>
    let outcome := outcomeOf transaction ending
    (some ⟨outcome, transaction.joined, resultOf transaction ending⟩,
      { log with
        records := log.records.push (recordOf outcome)
        transactions := log.transactions.modify number fun t => { t with joined := [] } })

/-- Enters that a transaction is completed: everybody was called. -/
def settle (log : TransactionLog σ) (outcome : TransactionOutcome) : TransactionLog σ :=
  { log with records := log.records.push (.completed outcome) }

/-- Completes a transaction without interruption. -/
def complete (log : TransactionLog σ) (number : Nat) (ending : Ending) :
    Option (Completion σ) × TransactionLog σ :=
  match log.request number ending with
  | (none, log) => (none, log)
  | (some completion, log) => (some completion, log.settle completion.outcome)

end TransactionLog

/-- The misbehaviour of a transaction service. -/
inductive Misconduct
  | failsToBegin
  /-- Ends with an error, and tells nobody who joined. -/
  | failsToEnd
  /-- Reports success, and tells nobody who joined. -/
  | keepsSilent
  deriving DecidableEq, Repr

/-- A manager of external transactions. -/
structure TransactionService (σ : Type) where
  misconduct : Misconduct := .failsToBegin
  /-- How many transactions are still misconducted. -/
  remaining : Nat := 0
  log : TransactionLog σ := {}

/-- A transaction of a service. -/
inductive TransactionHandle
  /-- A transaction of the log. -/
  | logged (number : Nat)
  /-- A transaction that nobody hears of. -/
  | untold (fails : Bool)
  deriving DecidableEq, Repr

namespace TransactionService

variable {σ : Type}

/-- Begins a transaction. -/
def begin (service : TransactionService σ) :
    Except TransactionError TransactionHandle × TransactionService σ :=
  match service.remaining with
  | 0 =>
    let (number, log) := service.log.begin
    (.ok (.logged number), { service with log })
  | remaining + 1 =>
    let service := { service with remaining }
    match service.misconduct with
    | .failsToBegin => (.error (.begin "no coordinator"), service)
    | .failsToEnd => (.ok (.untold true), service)
    | .keepsSilent => (.ok (.untold false), service)

/-- Lets a single participant join a transaction and asks for the ending. Gives the outcome that
the participant was told, if it was told. -/
def conclude (service : TransactionService σ) (transaction : TransactionHandle) (participant : σ)
    (ending : Ending) : Option TransactionOutcome × TransactionService σ :=
  match transaction with
  | .untold _ => (none, service)
  | .logged number =>
    let (completion, log) := (service.log.join number participant).complete number ending
    (completion.map (·.outcome), { service with log })

end TransactionService

end QueueListener
