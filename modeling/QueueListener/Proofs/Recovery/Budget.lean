import Mathlib.Data.List.Induction
import QueueListener.Proofs.Recovery.Diagram
import QueueListener.Proofs.Recovery.Walks
/-!
# The budget of a round

**A round takes one delay of its policy for every attempt that it launches, and one more at most**,
however many consumers report the outage meanwhile. A report that finds the round waiting is told to
wait; one that finds an attempt under way takes the next delay, or ends the round when the policy
has no more. The retries are counted with 32 bits, so the numbers begin again in a round that goes
on for too long.

* `Supervisor.retries`, `Supervisor.launches` — the retries that a run schedules, and the attempts
  that it launches;
* `OneRound` — a run that lasts no longer than one round;
* `InSequence` — the numbers 1, 2, 3 and so on, with their delays; `Numbered` — the same, as far as
  the counter can tell; `Numbered.inSequence_iff` — how long that is so;
* `Account` — a round owes one attempt to its retries exactly while it waits;
* `advanceRound_cases`, `serve_account`, `OneRound.account` — one delay, one operation, a round;
* `round_spends_budget` — how often a round retries, with which numbers, and how it gives up;
* `outage`, `outage_outlasted` — a round in which every attempt fails;
* `endless_outage_begins_again` — its retry number 2^32 has the number zero.
-/

namespace QueueListener.Supervisor

variable {s : Supervisor}

/-! ### Observations of a run -/

/-- What is answered to an operation, if it reports a failure. -/
def answer? (s : Supervisor) : Op → Option (Except TimeFault RecoveryAction)
  | .failure queue error now => some (s.onFailure queue error now).1
  | _ => none

/-- The delay and the number of the retry that an answer schedules. -/
def scheduled? : Except TimeFault RecoveryAction → Option (Duration × Nat)
  | .ok (.scheduleRetry delay number) => some (delay, number)
  | _ => none

/-- The retry that an operation schedules. -/
def retryBy? (s : Supervisor) (op : Op) : Option (Duration × Nat) := (s.answer? op).bind scheduled?

/-- The retries that a run schedules, in their order. -/
def retries (s : Supervisor) : List Op → List (Duration × Nat)
  | [] => []
  | op :: rest => (s.retryBy? op).toList ++ retries (s.serve op) rest

/-- How many attempts a run launches. -/
def launches (ops : List Op) : Nat := ops.count .beginAttempt

/-- No failure of the run is reported so late that the clock cannot show the next attempt. -/
def OnClock (s : Supervisor) (ops : List Op) : Prop :=
  ∀ before op after, ops = before ++ op :: after →
    (s.serveAll before).answer? op ≠ some (.error .beyondClock)

/-- A run that lasts no longer than one round, within the range of the clock, and launches attempts
only when they are due. Its last operation may be the one that ends the round. -/
structure OneRound (s : Supervisor) (ops : List Op) : Prop where
  fresh : s.round = none
  lasts : ∀ before op after, ops = before ++ op :: after → before ≠ [] →
    (s.serveAll before).round ≠ none
  punctual : ∀ before after, ops = before ++ .beginAttempt :: after →
    ∃ now, (s.serveAll before).attemptDue now = true
  onClock : s.OnClock ops

/-- **The retries carry the numbers 1, 2, 3 and so on**, and the delays of their numbers. -/
def InSequence (policy : BackOff) (spent : List (Duration × Nat)) : Prop :=
  ∀ i delay number, spent[i]? = some (delay, number) →
    number = i + 1 ∧ policy.delay? (i + 1) = .ok (some delay)

/-- The number of the delay that a round asks for after that many attempts, as far as the counter
can tell. -/
def upcoming (launched : Nat) : Nat := min (launched % UInt32.size + 1) (UInt32.size - 1)

/-- The retries carry their numbers, counted with 32 bits, and the delays that the counter asks
for. -/
def Numbered (policy : BackOff) (spent : List (Duration × Nat)) : Prop :=
  ∀ i delay number, spent[i]? = some (delay, number) →
    number = (i + 1) % UInt32.size ∧ policy.delay? (upcoming i) = .ok (some delay)

/-- The account of a round: it has counted its retries, of which there is one at least, and it owes
an attempt to them exactly while it waits. -/
structure Account (policy : BackOff) (round : Round) (spent : List (Duration × Nat))
    (launched : Nat) : Prop where
  follows : round.walk.policy = policy
  begun : spent ≠ []
  counted : round.walk.attempts.toNat = spent.length % UInt32.size
  numbered : Numbered policy spent
  balance : spent.length = launched + if round.inFlight then 0 else 1

/-- The account of a supervisor: without a round nothing is spent. -/
def Accounted (s : Supervisor) (spent : List (Duration × Nat)) (launched : Nat) : Prop :=
  match s.round with
  | some round => Account s.rules.backOff round spent launched
  | none => spent = [] ∧ launched = 0

/-- **What a round answers to a failure that is retried**, when it has scheduled `spent` retries and
launched `launched` attempts. -/
inductive Verdict (policy : BackOff) (error : ClientError) (spent launched : Nat) :
    Except TimeFault RecoveryAction → Prop
  /-- A retry has no attempt yet: it accounts for the failure. -/
  | waits (debt : spent = launched + 1) : Verdict policy error spent launched (.ok .awaitRound)
  /-- The attempts have used up the retries, and the policy has another one. -/
  | takes (delay : Duration) (even : spent = launched)
      (allowed : policy.allows (upcoming launched) = true) : Verdict policy error spent launched
        (.ok (.scheduleRetry delay ((launched + 1) % UInt32.size)))
  /-- The attempts have used up the retries, and the policy has none left. -/
  | gives (even : spent = launched) (late : policy.allows (upcoming launched) = false) :
      Verdict policy error spent launched
        (.ok (.fatal (exhausted (launched % UInt32.size) error)))

/-- An answer to such a failure, together with the supervisor after it: the retry is entered into
the account, unless the round is over. -/
structure Charged (policy : BackOff) (error : ClientError) (spent : List (Duration × Nat))
    (launched : Nat) (outcome : Except TimeFault RecoveryAction × Supervisor) : Prop where
  verdict : Verdict policy error spent.length launched outcome.1
  entered : outcome.2.round = none ∧ scheduled? outcome.1 = none ∨
    outcome.2.Accounted (spent ++ (scheduled? outcome.1).toList) launched

/-! ### Runs -/

theorem serveAll_append (s : Supervisor) (before after : List Op) :
    s.serveAll (before ++ after) = (s.serveAll before).serveAll after := List.foldl_append

theorem serveAll_concat (s : Supervisor) (ops : List Op) (op : Op) :
    s.serveAll (ops ++ [op]) = (s.serveAll ops).serve op := s.serveAll_append ops [op]

theorem retries_concat (s : Supervisor) (ops : List Op) (op : Op) :
    s.retries (ops ++ [op]) = s.retries ops ++ ((s.serveAll ops).retryBy? op).toList := by
  induction ops generalizing s with
  | nil => simp [retries, serveAll]
  | cons first rest ih =>
    rw [List.cons_append, retries, retries, ih, List.append_assoc]
    rfl

theorem launches_concat (ops : List Op) (op : Op) :
    launches (ops ++ [op]) = launches ops + if op = .beginAttempt then 1 else 0 := by
  unfold launches
  by_cases launch : op = .beginAttempt <;> simp [List.count_append, launch]

theorem serveAll_rules (s : Supervisor) (ops : List Op) : (s.serveAll ops).rules = s.rules :=
  (state?_serveAll s "" ops).1

theorem OnClock.upTo {before after : List Op} (shown : s.OnClock (before ++ after)) :
    s.OnClock before := by
  rintro before' op after' rfl
  exact shown before' op (after' ++ after) (by simp)

/-- A beginning of a run within one round is one. -/
theorem OneRound.upTo {before after : List Op} (round : s.OneRound (before ++ after)) :
    s.OneRound before where
  fresh := round.fresh
  lasts := by
    rintro before' op after' rfl proper
    exact round.lasts before' op (after' ++ after) (by simp) proper
  punctual := by
    rintro before' after' rfl
    exact round.punctual before' (after' ++ after) (by simp)
  onClock := round.onClock.upTo

/-! ### One delay -/

/-- **What becomes of a round that takes its next delay**: it gives up when its policy allows no
further attempt, else the retry is scheduled with the number of the walk. -/
theorem advanceRound_cases {round : Round} {error : ClientError} {now : Instant}
    (usable : round.walk.policy.fault? = none)
    (shown : (s.advanceRound round error now).1 ≠ .error .beyondClock) :
    round.walk.policy.allows round.walk.upcoming = false ∧
      s.advanceRound round error now =
        (.ok (.fatal (exhausted round.walk.attempts.toNat error)), { s with round := none }) ∨
    ∃ delay next, round.walk.policy.delay? round.walk.upcoming = .ok (some delay) ∧
      s.advanceRound round error now =
        (.ok (.scheduleRetry delay (round.walk.attempts + 1).toNat), { s with
          round := some ⟨⟨round.walk.policy, round.walk.attempts + 1⟩, next, false⟩ }) := by
  by_cases allowed : round.walk.policy.allows round.walk.upcoming = true
  · obtain ⟨delay, delayed⟩ := BackOff.delay?_of_allows usable allowed
    have walks : round.walk.next =
        .ok (some delay, ⟨round.walk.policy, round.walk.attempts + 1⟩) := by
      rw [BackOff.Walk.next, delayed]
    cases later : now.after delay with
    | error fault =>
      have beyond : fault = .beyondClock := by
        unfold Instant.after at later
        split at later
        next => cases later
        next => exact (Except.error.inj later).symm
      refine absurd ?_ shown
      simp only [advanceRound, walks, later, beyond]
    | ok next =>
      refine .inr ⟨delay, next, delayed, ?_⟩
      simp only [advanceRound, walks, later]
  · rw [Bool.not_eq_true] at allowed
    have ends : round.walk.next = .ok (none, round.walk) := by
      rw [BackOff.Walk.next, BackOff.delay?_of_not_allows allowed]
    refine .inl ⟨allowed, ?_⟩
    simp only [advanceRound, ends]

/-- A failure that is retried is left to the round. -/
theorem onFailure_of_retries {error : ClientError} (retried : s.rules.Retries error)
    (queue : String) (now : Instant) :
    s.onFailure queue error now = (s.setState queue .recovering).scheduleRetry error now := by
  unfold onFailure
  obtain lost | ⟨refused, mild⟩ := retried
  · rw [lost]
  · rw [refused]
    simp [mild]

/-- A failure that is not retried leaves the round alone. -/
theorem onFailure_of_not_retries {error : ClientError} (other : ¬ s.rules.Retries error)
    (queue : String) (now : Instant) :
    (s.onFailure queue error now).2.round = s.round ∧
      ∀ delay number, (s.onFailure queue error now).1 ≠ .ok (.scheduleRetry delay number) := by
  unfold RecoveryRules.Retries at other
  unfold onFailure
  cases kind : error.kind with
  | missingQueue =>
    dsimp only
    split
    next => exact ⟨rfl, nofun⟩
    next =>
      unfold pause
      split
      next => exact ⟨rfl, nofun⟩
      next => exact ⟨rfl, nofun⟩
  | authentication =>
    have fatal : s.rules.authenticationFatal = true := by simpa [kind] using other
    simp [fatal, setState]
  | connection => exact absurd (.inl kind) other
  | channel => exact ⟨rfl, nofun⟩
  | cancelled => exact ⟨rfl, nofun⟩

/-- A rejection of credentials that is not retried is fatal. -/
theorem fatal_of_systemic {error : ClientError} (systemic : error.kind.isSystemic = true)
    (other : ¬ s.rules.Retries error) (queue : String) (now : Instant) :
    (s.onFailure queue error now).1 =
      .ok (.fatal ("authentication failure: " ++ error.message)) := by
  unfold RecoveryRules.Retries at other
  unfold onFailure
  cases kind : error.kind with
  | authentication =>
    have fatal : s.rules.authenticationFatal = true := by simpa [kind] using other
    simp [fatal]
  | connection => exact absurd (.inl kind) other
  | missingQueue | channel | cancelled => simp [FailureKind.isSystemic, kind] at systemic

/-! ### One operation -/

/-- Apart from failures and launches, an operation keeps the round or ends it. -/
theorem serve_round {op : Op} (launch : op ≠ .beginAttempt) (quiet : s.answer? op = none) :
    (s.serve op).round = s.round ∨ (s.serve op).round = none := by
  cases op with
  | failure queue error now => cases quiet
  | beginAttempt => exact absurd rfl launch
  | track queue =>
    refine .inl ?_
    show (s.track queue).round = s.round
    unfold track
    split
    next => rfl
    next => rfl
  | forget queue =>
    show (if _ then _ else _ : Option Round) = s.round ∨ (if _ then _ else _ : Option Round) = none
    split
    next => exact .inr rfl
    next => exact .inl rfl
  | consumeOk queue => exact .inr rfl
  | abandonRound => exact .inr rfl
  | look now =>
    refine .inl ?_
    unfold serve
    dsimp only
    split
    next taken after answered =>
      have met : s.meet (.look now) = .ok after := by
        rw [meet, answered]
        rfl
      exact (takeDue_keeps met).2
    next => rfl
  | declared queue found => exact .inl (declarationResult_keeps s queue found).2
  | markAllFatal => exact .inr rfl

variable {spent : List (Duration × Nat)} {launched : Nat}

theorem upcoming_of_lt {launched : Nat} (early : launched + 1 < UInt32.size) :
    upcoming launched = launched + 1 := by
  rw [upcoming, Nat.mod_eq_of_lt (by omega)]
  exact Nat.min_eq_left (by omega)

theorem Numbered.nil (policy : BackOff) : Numbered policy [] := by
  intro i delay number entry
  cases entry

/-- One more delay, with the next number. -/
theorem Numbered.concat {policy : BackOff} (numbered : Numbered policy spent)
    {walk : BackOff.Walk} {delay : Duration}
    (counted : walk.attempts.toNat = spent.length % UInt32.size)
    (delayed : policy.delay? walk.upcoming = .ok (some delay)) :
    (walk.attempts + 1).toNat = (spent.length + 1) % UInt32.size ∧
      Numbered policy (spent ++ [(delay, (walk.attempts + 1).toNat)]) := by
  have number : (walk.attempts + 1).toNat = (spent.length + 1) % UInt32.size := by
    have sum : (walk.attempts + 1).toNat = (walk.attempts.toNat + 1) % UInt32.size :=
      UInt32.toNat_add walk.attempts 1
    rw [sum, counted, Nat.mod_add_mod]
  refine ⟨number, ?_⟩
  intro i delay' number' entry
  by_cases old : i < spent.length
  · rw [List.getElem?_append_left old] at entry
    exact numbered i delay' number' entry
  · have last : i = spent.length := by
      have bound := (List.getElem?_eq_some_iff.mp entry).1
      simp only [List.length_append, List.length_singleton] at bound
      omega
    subst last
    simp only [List.getElem?_concat_length, Option.some.injEq, Prod.mk.injEq] at entry
    obtain ⟨rfl, rfl⟩ := entry
    have asked : walk.upcoming = upcoming spent.length := by
      rw [BackOff.Walk.upcoming, upcoming, counted]
    exact ⟨number, asked ▸ delayed⟩

/-- **The numbers are in sequence as long as the counter lasts**: the retry that finds it full has
the number zero. -/
theorem Numbered.inSequence_iff {policy : BackOff} (numbered : Numbered policy spent) :
    InSequence policy spent ↔ spent.length < UInt32.size := by
  have size : UInt32.size = 4294967296 := rfl
  constructor
  · intro sequence
    by_contra long
    have full : UInt32.size - 1 < spent.length := by omega
    obtain ⟨zero, -⟩ := numbered _ _ _ (List.getElem?_eq_getElem full)
    obtain ⟨next, -⟩ := sequence _ _ _ (List.getElem?_eq_getElem full)
    exact absurd (next.symm.trans zero) (by decide)
  · intro short i delay number entry
    obtain ⟨counted, delayed⟩ := numbered i delay number entry
    have early : i + 1 < UInt32.size := by
      have bound := (List.getElem?_eq_some_iff.mp entry).1
      omega
    rw [Nat.mod_eq_of_lt early] at counted
    rw [upcoming_of_lt early] at delayed
    exact ⟨counted, delayed⟩

/-- **What the next delay does to an account**: it puts the account one attempt in debt, unless the
round is over. -/
theorem advanceRound_account {round : Round} (usable : s.rules.backOff.fault? = none)
    (follows : round.walk.policy = s.rules.backOff)
    (counted : round.walk.attempts.toNat = spent.length % UInt32.size)
    (numbered : Numbered s.rules.backOff spent) (balance : spent.length = launched)
    {error : ClientError} {now : Instant}
    (shown : (s.advanceRound round error now).1 ≠ .error .beyondClock) :
    Charged s.rules.backOff error spent launched (s.advanceRound round error now) := by
  have asked : round.walk.upcoming = upcoming launched := by
    rw [BackOff.Walk.upcoming, upcoming, counted, balance]
  obtain ⟨late, ends⟩ | ⟨delay, next, delayed, goesOn⟩ :=
    advanceRound_cases (by rw [follows]; exact usable) shown
  · rw [follows, asked] at late
    rw [ends, counted, balance]
    exact ⟨.gives balance late, .inl ⟨rfl, rfl⟩⟩
  · rw [follows] at delayed goesOn
    obtain ⟨number, numbered'⟩ := numbered.concat counted delayed
    have account : Account s.rules.backOff
        ⟨⟨s.rules.backOff, round.walk.attempts + 1⟩, next, false⟩
        (spent ++ [(delay, (round.walk.attempts + 1).toNat)]) launched := {
      follows := rfl
      begun := by simp
      counted := by simpa using number
      numbered := numbered'
      balance := by simp [balance] }
    rw [goesOn]
    rw [number, balance] at account ⊢
    exact ⟨.takes delay balance (asked ▸ BackOff.allows_of_delay? delayed), .inr account⟩

/-- **What a failure that is retried does to an account.** A round that waits answers for it; else
the next delay is taken. -/
theorem Accounted.failure (accounted : s.Accounted spent launched)
    (usable : s.rules.backOff.fault? = none) {error : ClientError}
    (retried : s.rules.Retries error) (queue : String) (now : Instant)
    (shown : (s.onFailure queue error now).1 ≠ .error .beyondClock) :
    Charged s.rules.backOff error spent launched (s.onFailure queue error now) := by
  rw [onFailure_of_retries retried] at shown ⊢
  have kept : (s.setState queue .recovering).Accounted spent launched := accounted
  have usable' : (s.setState queue .recovering).rules.backOff.fault? = none := usable
  unfold Accounted at accounted
  cases found : s.round with
  | none =>
    rw [found] at accounted
    obtain ⟨rfl, rfl⟩ := accounted
    have begins : (s.setState queue .recovering).scheduleRetry error now =
        (s.setState queue .recovering).advanceRound ⟨BackOff.start s.rules.backOff, now, false⟩
          error now := by
      simp [scheduleRetry, setState, found]
    rw [begins] at shown ⊢
    exact advanceRound_account usable' rfl rfl (.nil _) rfl shown
  | some round =>
    rw [found] at accounted
    have balance := accounted.balance
    cases flies : round.inFlight with
    | false =>
      have waits : (s.setState queue .recovering).scheduleRetry error now =
          (.ok .awaitRound, s.setState queue .recovering) := by
        simp [scheduleRetry, setState, found, flies]
      rw [flies] at balance
      rw [waits]
      refine ⟨.waits balance, .inr ?_⟩
      simpa [scheduled?] using kept
    | true =>
      have advances : (s.setState queue .recovering).scheduleRetry error now =
          (s.setState queue .recovering).advanceRound round error now := by
        simp [scheduleRetry, setState, found, flies]
      rw [flies] at balance
      rw [advances] at shown ⊢
      exact advanceRound_account usable' accounted.follows accounted.counted accounted.numbered
        balance shown

/-- An account carries over to a supervisor with the same round. -/
theorem Accounted.same {s' : Supervisor} (accounted : s.Accounted spent launched)
    (rules : s'.rules = s.rules) (round : s'.round = s.round) : s'.Accounted spent launched := by
  unfold Accounted at accounted ⊢
  rw [rules, round]
  exact accounted

/-- A launch that is due pays for the retry that the round has waited for. -/
theorem Accounted.launch (accounted : s.Accounted spent launched) {now : Instant}
    (due : s.attemptDue now = true) :
    s.beginAttempt.Accounted spent (launched + 1) := by
  unfold attemptDue at due
  unfold Accounted at accounted ⊢
  unfold beginAttempt
  cases found : s.round with
  | none =>
    rw [found] at due
    cases due
  | some round =>
    rw [found] at accounted due
    have waits : round.inFlight = false := by
      simp only [Round.isDue, Bool.and_eq_true, Bool.not_eq_true'] at due
      exact due.1
    have balance := accounted.balance
    rw [waits] at balance
    exact { accounted with balance := balance }

/-- **What one operation does to an account.** While the round goes on, the retry and the launch are
entered; the operation that ends it neither schedules nor launches. -/
theorem serve_account (accounted : s.Accounted spent launched)
    (usable : s.rules.backOff.fault? = none) {op : Op}
    (due : op = .beginAttempt → ∃ now, s.attemptDue now = true)
    (shown : s.answer? op ≠ some (.error .beyondClock)) :
    ((s.serve op).round = none ∧ s.retryBy? op = none ∧ op ≠ .beginAttempt) ∨
      (s.serve op).Accounted (spent ++ (s.retryBy? op).toList)
        (launched + if op = .beginAttempt then 1 else 0) := by
  have rules := s.serve_rules op
  by_cases launch : op = .beginAttempt
  · subst launch
    obtain ⟨now, due⟩ := due rfl
    right
    simp only [retryBy?, answer?, Option.bind_none, Option.toList_none, List.append_nil, if_true]
    exact accounted.launch due
  rw [if_neg launch, Nat.add_zero]
  cases answered : s.answer? op with
  | none =>
    have calm : s.retryBy? op = none := by rw [retryBy?, answered, Option.bind_none]
    rw [calm, Option.toList_none, List.append_nil]
    obtain stays | ends := serve_round launch answered
    · exact .inr (accounted.same rules stays)
    · exact .inl ⟨ends, rfl, launch⟩
  | some answer =>
    cases op with
    | failure queue error now =>
      by_cases retried : s.rules.Retries error
      · have clocked : (s.onFailure queue error now).1 ≠ .error .beyondClock := by
          intro beyond
          exact shown (congrArg some beyond)
        obtain ⟨ends, calm⟩ | accounted' :=
          (accounted.failure usable retried queue now clocked).entered
        · exact .inl ⟨ends, calm, launch⟩
        · exact .inr accounted'
      · obtain ⟨round, calm⟩ := onFailure_of_not_retries retried queue now
        have none : s.retryBy? (.failure queue error now) = none := by
          show scheduled? (s.onFailure queue error now).1 = none
          unfold scheduled?
          split
          next delay number schedules => exact absurd schedules (calm delay number)
          next => rfl
        right
        rw [none, Option.toList_none, List.append_nil]
        exact accounted.same rules round
    | track | forget | consumeOk | beginAttempt | abandonRound | look | declared | markAllFatal =>
      cases answered

/-! ### One round -/

/-- An account is in balance: at most one retry has no attempt yet. -/
theorem Accounted.balanced (accounted : s.Accounted spent launched) :
    Numbered s.rules.backOff spent ∧ launched ≤ spent.length ∧ spent.length ≤ launched + 1 := by
  unfold Accounted at accounted
  split at accounted
  next round found =>
    have balance := accounted.balance
    refine ⟨accounted.numbered, ?_, ?_⟩
    · omega
    · split at balance <;> omega
  next =>
    obtain ⟨rfl, rfl⟩ := accounted
    exact ⟨.nil _, by simp, by simp⟩

/-- **A round keeps its account** up to each of its operations. -/
theorem OneRound.account {before after : List Op} {op : Op}
    (round : s.OneRound (before ++ op :: after)) (usable : s.rules.backOff.fault? = none) :
    (s.serveAll before).Accounted (s.retries before) (launches before) := by
  induction before using List.reverseRecOn generalizing op after with
  | nil =>
    show (match s.round with | some round => _ | none => _ : Prop)
    rw [round.fresh]
    exact ⟨rfl, rfl⟩
  | append_singleton before last ih =>
    have goesOn := round.lasts (before ++ [last]) op after rfl (by simp)
    rw [List.append_assoc, List.singleton_append] at round
    have step := serve_account (ih round) (by rw [serveAll_rules]; exact usable)
      (by rintro rfl; exact round.punctual before _ rfl) (round.onClock before last _ rfl)
    rw [serveAll_concat] at goesOn ⊢
    rw [retries_concat, launches_concat]
    obtain ⟨ends, -⟩ | accounted := step
    · exact absurd ends goesOn
    · exact accounted

/-- **A round is in balance**, also when its last operation has ended it. -/
theorem OneRound.balanced {ops : List Op} (round : s.OneRound ops)
    (usable : s.rules.backOff.fault? = none) :
    Numbered s.rules.backOff (s.retries ops) ∧ launches ops ≤ (s.retries ops).length ∧
      (s.retries ops).length ≤ launches ops + 1 := by
  obtain rfl | ⟨before, last, rfl⟩ := List.eq_nil_or_concat' ops
  · exact ⟨.nil _, by simp [launches], by simp [retries]⟩
  · have accounted := round.account usable
    have balanced := accounted.balanced
    have step := serve_account accounted (by rw [serveAll_rules]; exact usable)
      (by rintro rfl; exact round.punctual before [] rfl) (round.onClock before last [] rfl)
    rw [serveAll_rules] at balanced
    rw [retries_concat, launches_concat]
    obtain ⟨-, calm, launch⟩ | accounted' := step
    · rw [calm, if_neg launch]
      simpa using balanced
    · have balanced' := accounted'.balanced
      rw [serve_rules, serveAll_rules] at balanced'
      exact balanced'

/-- **A round answers every failure that is retried**, as its account demands. -/
theorem OneRound.verdict {before after : List Op} {queue : String} {error : ClientError}
    {now : Instant} (round : s.OneRound (before ++ .failure queue error now :: after))
    (usable : s.rules.backOff.fault? = none) (retried : s.rules.Retries error) :
    Verdict s.rules.backOff error (s.retries before).length (launches before)
      ((s.serveAll before).onFailure queue error now).1 := by
  have rules := s.serveAll_rules before
  have clocked : ((s.serveAll before).onFailure queue error now).1 ≠ .error .beyondClock := by
    intro beyond
    exact round.onClock before _ after rfl (congrArg some beyond)
  rw [← rules] at usable retried ⊢
  have account := round.account (by rw [← rules]; exact usable)
  exact (account.failure usable retried queue now clocked).verdict

/-- A limit that the counter can reach bounds the retries of a round. -/
theorem Numbered.length_le {policy : BackOff} (numbered : Numbered policy spent) {limit : Nat}
    (limited : policy.limit = some limit) (small : limit < UInt32.size - 1) :
    spent.length ≤ limit := by
  by_contra more
  rw [Nat.not_le] at more
  obtain ⟨-, delayed⟩ := numbered limit _ _ (List.getElem?_eq_getElem more)
  have allowed := BackOff.allows_of_delay? delayed
  rw [upcoming_of_lt (by omega)] at allowed
  simp only [BackOff.allows, limited, Bool.and_eq_true, decide_eq_true_eq] at allowed
  omega

/-- **The first retry after a round is over has the number one.** -/
theorem first_retry (fresh : s.round = none) (usable : s.rules.backOff.fault? = none)
    {ops : List Op} (shown : s.OnClock ops) {delay : Duration} {number : Nat}
    (first : (s.retries ops).head? = some (delay, number)) :
    number = 1 ∧ s.rules.backOff.delay? 1 = .ok (some delay) := by
  induction ops generalizing s with
  | nil => simp [retries] at first
  | cons op rest ih =>
    have accounted : s.Accounted [] 0 := by
      rw [Accounted, fresh]
      exact ⟨rfl, rfl⟩
    have later : (s.serve op).OnClock rest := by
      rintro before op' after rfl
      exact shown (op :: before) op' after rfl
    rw [retries] at first
    by_cases launch : op = .beginAttempt
    · subst launch
      have round : s.beginAttempt.round = none := by simp [beginAttempt, fresh]
      have rest : (s.beginAttempt.retries rest).head? = some (delay, number) := first
      have same := ih round usable later rest
      exact same
    have step := serve_account accounted usable (fun launches => absurd launches launch)
      (shown [] op rest rfl)
    rw [if_neg launch, Nat.add_zero, List.nil_append] at step
    cases scheduled : s.retryBy? op with
    | none =>
      rw [scheduled, Option.toList_none] at first step
      have round : (s.serve op).round = none := by
        obtain ⟨ends, -⟩ | accounted' := step
        · exact ends
        · unfold Accounted at accounted'
          split at accounted'
          next => exact absurd rfl accounted'.begun
          next ends => exact ends
      have rules := s.serve_rules op
      rw [← rules] at usable ⊢
      exact ih round usable later first
    | some retry =>
      rw [scheduled] at first step
      obtain rfl : retry = (delay, number) := by simpa using first
      obtain ⟨-, calm, -⟩ | accounted' := step
      · cases calm
      · have numbered := accounted'.balanced.1 0 delay number rfl
        rw [serve_rules] at numbered
        obtain ⟨rfl, delayed⟩ := numbered
        exact ⟨rfl, delayed⟩

/-- **How often a round retries, with which numbers, and how it gives up.** Its retries carry the
numbers 1, 2, 3 and so on, and the delays of their numbers, exactly as long as there are fewer than
2^32 of them; in every round the numbers are these modulo 2^32, and a retry has the delay that the
counter asks for. The retries are at most one more than the attempts that the round launches. A
failure that is retried meanwhile is told to wait while a retry has no attempt yet; else it takes
the next delay, or is fatal when the policy has none left. With a limit below the largest number, a
round neither retries nor launches attempts more often than the limit says, and the failure of the
connection or the credentials that is reported after the last attempt is fatal. When a consumer
comes up, the numbers begin again at one. -/
theorem round_spends_budget {ops : List Op} (usable : s.rules.backOff.fault? = none)
    (round : s.OneRound ops) :
    (InSequence s.rules.backOff (s.retries ops) ↔ (s.retries ops).length < UInt32.size) ∧
    Numbered s.rules.backOff (s.retries ops) ∧
    (s.retries ops).length ≤ launches ops + 1 ∧
    (∀ before queue error now after, ops = before ++ .failure queue error now :: after →
      s.rules.Retries error →
      Verdict s.rules.backOff error (s.retries before).length (launches before)
        ((s.serveAll before).onFailure queue error now).1) ∧
    (∀ limit, s.rules.backOff.limit = some limit → limit < UInt32.size - 1 →
      (s.retries ops).length ≤ limit ∧ launches ops ≤ limit ∧
      ∀ before queue error now after, ops = before ++ .failure queue error now :: after →
        error.kind.isSystemic = true → launches before = limit →
        ∃ reason, ((s.serveAll before).onFailure queue error now).1 = .ok (.fatal reason)) ∧
    (∀ queue later delay number, ((s.serveAll ops).consumeOk queue).OnClock later →
      (((s.serveAll ops).consumeOk queue).retries later).head? = some (delay, number) →
      number = 1 ∧ s.rules.backOff.delay? 1 = .ok (some delay)) := by
  obtain ⟨numbered, paid, most⟩ := round.balanced usable
  refine ⟨numbered.inSequence_iff, numbered, most, ?_, ?_, ?_⟩
  · rintro before queue error now after rfl retried
    exact round.verdict usable retried
  · intro limit limited small
    have within := numbered.length_le limited small
    refine ⟨within, paid.trans within, ?_⟩
    rintro before queue error now after rfl systemic last
    by_cases retried : s.rules.Retries error
    · have most := (round.upTo.balanced usable).1.length_le limited small
      have verdict := round.verdict usable retried
      generalize ((s.serveAll before).onFailure queue error now).1 = answer at verdict ⊢
      cases verdict with
      | waits debt => omega
      | takes delay even allowed =>
        rw [last, upcoming_of_lt (by omega)] at allowed
        simp only [BackOff.allows, limited, Bool.and_eq_true, decide_eq_true_eq] at allowed
        omega
      | gives => exact ⟨_, rfl⟩
    · exact ⟨_, fatal_of_systemic systemic (by rw [serveAll_rules]; exact retried) queue now⟩
  · intro queue later delay number shown first
    have rules : ((s.serveAll ops).consumeOk queue).rules = s.rules := s.serveAll_rules ops
    rw [← rules] at usable ⊢
    exact first_retry rfl usable shown first

/-- Two consumers report the same outage, and every attempt to come back fails. -/
def longOutage : List Op :=
  [.failure "orders" (.connection "connection refused") 0,
    .failure "audit" (.connection "connection refused") (Instant.ofMillis 10),
    .beginAttempt, .failure "orders" (.connection "connection refused") (Instant.ofMillis 110),
    .beginAttempt, .failure "audit" (.connection "connection refused") (Instant.ofMillis 220),
    .beginAttempt, .failure "orders" (.connection "connection refused") (Instant.ofMillis 330)]

/-- Two queues are watched, with three attempts for every round. -/
def twoWatched : Supervisor := watching threeAttempts ["orders", "audit"]

/-- The place at which a run is split. -/
theorem take_of_split {ops before after : List Op} {op : Op} (split : ops = before ++ op :: after) :
    before.length < ops.length ∧ ops.take before.length = before ∧
      ops[before.length]? = some op := by
  subst split
  simp

theorem longOutage_oneRound : twoWatched.OneRound longOutage where
  fresh := by decide +kernel
  lasts := by
    intro before op after split proper
    obtain ⟨short, begins, -⟩ := take_of_split split
    rw [← begins]
    have goesOn : ∀ k < longOutage.length, 0 < k →
        (twoWatched.serveAll (longOutage.take k)).round ≠ none := by decide +kernel
    exact goesOn _ short (List.length_pos_iff.mpr proper)
  punctual := by
    intro before after split
    obtain ⟨short, begins, launch⟩ := take_of_split split
    refine ⟨Instant.ofMillis 1000, ?_⟩
    rw [← begins]
    have due : ∀ k < longOutage.length, longOutage[k]? = some .beginAttempt →
        (twoWatched.serveAll (longOutage.take k)).attemptDue (Instant.ofMillis 1000) = true := by
      decide +kernel
    exact due _ short launch
  onClock := by
    intro before op after split
    obtain ⟨short, begins, next⟩ := take_of_split split
    rw [← begins]
    have shown : ∀ k < longOutage.length, longOutage[k]?.bind
        (twoWatched.serveAll (longOutage.take k)).answer? ≠ some (.error .beyondClock) := by
      decide +kernel
    simpa [next] using shown _ short

/-- Three attempts are launched, and the failure after the last of them is fatal. -/
theorem round_spends_budget_longOutage :
    twoWatched.rules.backOff.fault? = none ∧ twoWatched.OneRound longOutage ∧
      launches longOutage = 3 ∧ (twoWatched.retries longOutage).map (·.2) = [1, 2, 3] ∧
      ∃ reason, ((twoWatched.serveAll longOutage.dropLast).onFailure "orders"
        (.connection "connection refused") (Instant.ofMillis 330)).1 = .ok (.fatal reason) := by
  have usable : twoWatched.rules.backOff.fault? = none := by decide +kernel
  refine ⟨usable, longOutage_oneRound, by decide +kernel, by decide +kernel, ?_⟩
  obtain ⟨-, -, -, -, limited, -⟩ := round_spends_budget usable longOutage_oneRound
  have limit : twoWatched.rules.backOff.limit = some 3 := by decide +kernel
  exact (limited 3 limit (by decide)).2.2 longOutage.dropLast "orders" _ _ [] rfl rfl
    (by decide +kernel)

/-! ### The end of the counter -/

/-- One queue is watched, with that policy; neither missing queues nor rejected credentials are
fatal. -/
def watchingOrders (policy : BackOff) : Supervisor :=
  watching ⟨policy, false, false, Duration.ofSeconds 5⟩ ["orders"]

/-- The broker is found away. -/
def away (now : Instant) : Op := .failure "orders" (.connection "connection refused") now

/-- The broker stays away for so many attempts. Each is launched when it is due, and fails. -/
def outage (delay : Duration) : Nat → List Op
  | 0 => [away 0]
  | attempts + 1 =>
    outage delay attempts ++ [.beginAttempt, away ((attempts + 1) * delay : Nat)]

/-- A run within a round goes on with one more operation. -/
theorem OneRound.concat {ops : List Op} {op : Op} (round : s.OneRound ops)
    (goesOn : ops ≠ [] → (s.serveAll ops).round ≠ none)
    (due : op = .beginAttempt → ∃ now, (s.serveAll ops).attemptDue now = true)
    (shown : (s.serveAll ops).answer? op ≠ some (.error .beyondClock)) :
    s.OneRound (ops ++ [op]) := by
  -- The run is split within its old part, or before its new operation.
  have splits : ∀ before op' after, ops ++ [op] = before ++ op' :: after →
      (before = ops ∧ op' = op) ∨ ∃ after', ops = before ++ op' :: after' := by
    intro before op' after split
    obtain rfl | ⟨after', last, rfl⟩ := List.eq_nil_or_concat' after
    · obtain ⟨same, last⟩ := List.append_inj' split rfl
      exact .inl ⟨same.symm, (List.singleton_inj.mp last).symm⟩
    · rw [← List.cons_append, ← List.append_assoc] at split
      exact .inr ⟨after', (List.append_inj' split rfl).1⟩
  constructor
  case fresh => exact round.fresh
  case lasts =>
    intro before op' after split proper
    obtain ⟨rfl, -⟩ | ⟨after', old⟩ := splits before op' after split
    · exact goesOn proper
    · exact round.lasts before op' after' old proper
  case punctual =>
    intro before after split
    obtain ⟨rfl, launch⟩ | ⟨after', old⟩ := splits before _ after split
    · exact due launch.symm
    · exact round.punctual before after' old
  case onClock =>
    intro before op' after split
    obtain ⟨rfl, rfl⟩ | ⟨after', old⟩ := splits before op' after split
    · exact shown
    · exact round.onClock before op' after' old

section Outage

variable {delay : Duration} {limit : Option Nat} {calls attempts : Nat}

/-- A policy of equal delays hands out one at every call, unless its limit is noticed. -/
theorem next_fixed (endless : ¬ (BackOff.fixed delay limit).Ends) (calls : Nat) :
    ((BackOff.fixed delay limit).walkAt calls).next =
      .ok (some delay, (BackOff.fixed delay limit).walkAt (calls + 1)) := by
  have usable : (BackOff.fixed delay limit).fault? = none := rfl
  obtain ⟨answer, delayed, -, next⟩ := BackOff.next_walkAt usable calls
  have allowed := BackOff.allows_asked_of_not_ends endless calls
  have same : answer = some delay := by
    simpa [BackOff.delay?, allowed] using delayed.symm
  rw [next, same]

/-- **A failure that finds no attempt waiting takes the next delay.** -/
theorem away_serves (endless : ¬ (BackOff.fixed delay limit).Ends) {s : Supervisor} {now : Instant}
    (policy : s.rules.backOff = .fixed delay limit)
    (found : s.round = none ∧ calls = 0 ∨
      ∃ last, s.round = some ⟨(BackOff.fixed delay limit).walkAt calls, last, true⟩)
    (shown : now + delay ≤ Instant.latest) :
    s.answer? (away now) = some (.ok (.scheduleRetry delay ((calls + 1) % UInt32.size))) ∧
      (s.serve (away now)).round =
        some ⟨(BackOff.fixed delay limit).walkAt (calls + 1), now + delay, false⟩ := by
  let error : ClientError := .connection "connection refused"
  have clocked : now.after delay = .ok (now + delay) := by
    simp [Instant.after, Instant.after?, shown]
  have number : ((BackOff.fixed delay limit).walkAt (calls + 1)).attempts.toNat =
      (calls + 1) % UInt32.size := by
    rw [BackOff.walkAt_attempts, BackOff.handed_of_not_ends endless]
  let next : Round := ⟨(BackOff.fixed delay limit).walkAt (calls + 1), now + delay, false⟩
  have takes : ∀ (t : Supervisor) (last : Instant) (flies : Bool),
      t.advanceRound ⟨(BackOff.fixed delay limit).walkAt calls, last, flies⟩ error now =
        (.ok (.scheduleRetry delay ((calls + 1) % UInt32.size)),
          { t with round := some next }) := by
    intro t last flies
    simp only [advanceRound, next_fixed endless calls, clocked, number, next]
  have answered : s.onFailure "orders" error now =
      (.ok (.scheduleRetry delay ((calls + 1) % UInt32.size)),
        { s.setState "orders" .recovering with round := some next }) := by
    rw [onFailure_of_retries (.inl rfl)]
    obtain ⟨fresh, rfl⟩ | ⟨last, flies⟩ := found
    · have begins : (BackOff.fixed delay limit).start = (BackOff.fixed delay limit).walkAt 0 := by
        rw [BackOff.walkAt, BackOff.handed_of_not_ends endless]
        rfl
      rw [← takes _ now false, ← begins, ← policy]
      simp [scheduleRetry, setState, fresh]
    · rw [← takes _ last true]
      simp [scheduleRetry, setState, flies]
  have judged : s.answer? (away now) = some (s.onFailure "orders" error now).1 := rfl
  have served : s.serve (away now) = (s.onFailure "orders" error now).2 := rfl
  rw [judged, served, answered]
  exact ⟨rfl, rfl⟩

/-- What an outage of so many attempts comes to: one round, with a retry for every failure, and the
next attempt is due one delay after the last one. -/
structure Outlasts (s : Supervisor) (delay : Duration) (limit : Option Nat) (attempts : Nat) :
    Prop where
  oneRound : s.OneRound (outage delay attempts)
  retries : s.retries (outage delay attempts) =
    (List.range (attempts + 1)).map fun i => (delay, (i + 1) % UInt32.size)
  waits : (s.serveAll (outage delay attempts)).round =
    some ⟨(BackOff.fixed delay limit).walkAt (attempts + 1), ((attempts + 1) * delay : Nat), false⟩

/-- The attempt after an outage is launched when it is due. -/
theorem Outlasts.launch (outlasts : s.Outlasts delay limit attempts) :
    s.OneRound (outage delay attempts ++ [.beginAttempt]) ∧
      (s.serveAll (outage delay attempts ++ [.beginAttempt])).round =
        some ⟨(BackOff.fixed delay limit).walkAt (attempts + 1), ((attempts + 1) * delay : Nat),
          true⟩ := by
  constructor
  · refine outlasts.oneRound.concat (fun _ => ?_) (fun _ => ⟨((attempts + 1) * delay : Nat), ?_⟩)
      (Option.some_ne_none _).symm
    · rw [outlasts.waits]
      exact Option.some_ne_none _
    · rw [attemptDue, outlasts.waits]
      exact decide_eq_true (Int.le_refl _)
  · rw [serveAll_concat]
    exact congrArg (Option.map _) outlasts.waits

/-- **A supervisor outlasts every outage**, as long as the clock lasts and no limit is noticed. -/
theorem outage_outlasted (endless : ¬ (BackOff.fixed delay limit).Ends)
    (policy : s.rules.backOff = .fixed delay limit) (fresh : s.round = none)
    (shown : (((attempts + 1) * delay : Nat) : Int) ≤ Instant.latest) :
    s.Outlasts delay limit attempts := by
  have onClock : ∀ action : RecoveryAction,
      some (.ok action) ≠ some (Except.error TimeFault.beyondClock) := by simp
  induction attempts with
  | zero =>
    rw [Nat.zero_add, Nat.one_mul] at shown
    obtain ⟨retried, waits⟩ := away_serves endless policy (.inl ⟨fresh, rfl⟩)
      (show (0 : Instant) + delay ≤ Instant.latest by rwa [Int.zero_add])
    refine ⟨?_, ?_, ?_⟩
    · have begun : s.OneRound [] := ⟨fresh, by simp, by simp, by simp [OnClock]⟩
      refine begun.concat (absurd rfl) (fun launch => Op.noConfusion launch) ?_
      rw [serveAll, List.foldl_nil, retried]
      exact onClock _
    · rw [outage, retries, retries, retryBy?, retried]
      rfl
    · rw [Nat.zero_add, Nat.one_mul, ← Int.zero_add (delay : Int)]
      exact waits
  | succ attempts ih =>
    let launching := outage delay attempts ++ [.beginAttempt]
    let due : Instant := ((attempts + 1) * delay : Nat)
    have next : due + delay = ((attempts + 1 + 1) * delay : Nat) := by
      rw [Nat.succ_mul (attempts + 1), Int.natCast_add]
    rw [← next] at shown
    have soFar :=
      ih (Int.le_trans (Int.le_add_of_nonneg_right (Int.natCast_nonneg delay)) shown)
    obtain ⟨launched, flies⟩ := soFar.launch
    obtain ⟨retried, waits⟩ := away_serves endless (s := s.serveAll launching)
      (by rw [serveAll_rules, policy]) (.inr ⟨due, flies⟩) shown
    have fails : outage delay (attempts + 1) = launching ++ [away due] :=
      (List.append_assoc (outage delay attempts) [.beginAttempt] [away due]).symm
    refine ⟨?_, ?_, ?_⟩ <;> rw [fails]
    · refine launched.concat (fun _ => ?_) (fun launch => Op.noConfusion launch) ?_
      · rw [flies]
        exact Option.some_ne_none _
      · rw [retried]
        exact onClock _
    · have silent : (s.serveAll (outage delay attempts)).retryBy? .beginAttempt = none := rfl
      rw [retries_concat, retries_concat, soFar.retries, silent, retryBy?, retried,
        List.range_succ (n := attempts + 1), List.map_append, Option.toList_none, List.append_nil]
      rfl
    · rw [serveAll_concat, ← next]
      exact waits

end Outage

/-- What becomes of a round that goes on for too long: the retry that finds the counter full has a
delay, and the number zero, which is none of its policy's attempts. -/
structure BeginsAgain (s : Supervisor) (ops : List Op) : Prop where
  usable : s.rules.backOff.fault? = none
  oneRound : s.OneRound ops
  last : ∃ delay, (s.retries ops)[UInt32.size - 1]? = some (delay, 0)
  unnumbered : s.rules.backOff.delay? 0 = .ok none
  astray : ¬ InSequence s.rules.backOff (s.retries ops)

/-- An outage that no limit ends begins its numbers again. -/
theorem outage_begins_again {delay : Duration} {limit : Option Nat}
    (endless : ¬ (BackOff.fixed delay limit).Ends)
    (shown : ((UInt32.size * delay : Nat) : Int) ≤ Instant.latest) :
    (watchingOrders (.fixed delay limit)).BeginsAgain (outage delay (UInt32.size - 1)) := by
  have size : UInt32.size - 1 + 1 = UInt32.size := rfl
  have policy : (watchingOrders (.fixed delay limit)).rules.backOff = .fixed delay limit :=
    congrArg RecoveryRules.backOff (watching_eq _ _).1
  have outlasts : (watchingOrders (.fixed delay limit)).Outlasts delay limit (UInt32.size - 1) :=
    outage_outlasted endless policy rfl (by rw [size]; exact shown)
  have last : ((watchingOrders (.fixed delay limit)).retries
      (outage delay (UInt32.size - 1)))[UInt32.size - 1]? = some (delay, 0) := by
    rw [outlasts.retries, List.getElem?_map, List.getElem?_range (Nat.lt_succ_self _),
      Option.map_some, size, Nat.mod_self]
  have usable : (watchingOrders (.fixed delay limit)).rules.backOff.fault? = none := by
    rw [policy]
    rfl
  refine ⟨usable, outlasts.oneRound, ⟨delay, last⟩, ?_, fun sequence => ?_⟩
  · rw [policy]
    rfl
  · obtain ⟨number, -⟩ := sequence _ _ _ last
    cases number

/-- **A long outage begins its numbers again**, without a limit and with the largest one: both
rounds have 2^32 retries, and the last one has the number zero. -/
theorem endless_outage_begins_again :
    (watchingOrders (.fixed (Duration.ofMillis 1) none)).BeginsAgain
      (outage (Duration.ofMillis 1) (UInt32.size - 1)) ∧
    (watchingOrders (.fixed (Duration.ofMillis 1) (some (UInt32.size - 1)))).BeginsAgain
      (outage (Duration.ofMillis 1) (UInt32.size - 1)) := by
  constructor
  · refine outage_begins_again ?_ (by decide)
    rintro ⟨most, limited, -⟩
    cases limited
  · refine outage_begins_again ?_ (by decide)
    rintro ⟨most, limited, small⟩
    cases limited
    exact Nat.lt_irrefl _ small

end QueueListener.Supervisor
