import QueueListener.Proofs.Table
import QueueListener.Scaling
/-!
# Decisions and the history of a queue

**What the scaling decides about a queue follows from its answers about that queue since it was last
forgotten**, whatever was asked about other queues in between and however the clock went. Of all its
answers two matter: the last one that called for one more consumer, and the last one that retired one.

* `Call`, `serve`, `serveAll`, `transcript` — what is asked of a scaling, and what it answers;
* `lastGiven`, `Rested` — when an answer of a kind was last given, and whether that is long ago;
* `IsVictim`, `oldest?_eq_some_iff` — whom the scaling retires;
* `serve_lastStarted`, `serve_lastStopped`, `serveAll_remembers` — what the scaling remembers is what
  it answered;
* `run_decides_by_history` — every decision, read off the history;
* `clock_runs_back` — without an interval an answer of the future counts as long ago.
-/

namespace QueueListener

/-- Whether one more consumer was called for. -/
def ScalingDecision.isStart : ScalingDecision → Bool
  | .startOne => true
  | _ => false

/-- Whether a consumer was to retire. -/
def ScalingDecision.isStop : ScalingDecision → Bool
  | .stopOne _ => true
  | _ => false

namespace Scaling

/-- What is asked of a scaling. -/
inductive Call
  | evaluate (queue : String) (bounds : Bounds) (samples : List Sample) (now : Instant)
  | forget (queue : String)
  deriving DecidableEq, Repr

/-- The queue that a call is about. -/
def Call.queue : Call → String
  | .evaluate queue _ _ _ => queue
  | .forget queue => queue

/-- The answer to a call, if it has one, and the scaling after the call. -/
def serve (s : Scaling) : Call → Option ScalingDecision × Scaling
  | .evaluate queue bounds samples now =>
    (some (s.evaluate queue bounds samples now).1, (s.evaluate queue bounds samples now).2)
  | .forget queue => (none, s.forget queue)

/-- One call after the other. -/
def serveAll (s : Scaling) : List Call → Scaling
  | [] => s
  | call :: calls => (s.serve call).2.serveAll calls

/-- The calls with their answers, in the order of the calls. -/
def transcript (s : Scaling) : List Call → List (Call × Option ScalingDecision)
  | [] => []
  | call :: calls => (call, (s.serve call).1) :: (s.serve call).2.transcript calls

/-- When a queue was last given an answer of a kind, after one more call, if it was not forgotten
since. -/
def lastAfter (kind : ScalingDecision → Bool) (queue : String) (last : Option Instant) :
    Call × Option ScalingDecision → Option Instant
  | (.evaluate name _ _ now, answer) => if name = queue ∧ answer.any kind then some now else last
  | (.forget name, _) => if name = queue then none else last

/-- When a queue was last given an answer of a kind, if it was not forgotten since. -/
def lastGiven (kind : ScalingDecision → Bool) (queue : String)
    (history : List (Call × Option ScalingDecision)) : Option Instant :=
  history.foldl (lastAfter kind queue) none

/-- Whether an instant, if there is one, lies at least an interval before the present. An interval
of no length has always passed. -/
def Rested (interval : Duration) (last : Option Instant) (now : Instant) : Prop :=
  ∀ earlier ∈ last, earlier + interval ≤ now ∨ interval = 0

/-- Of the consumers that have been idle for long the one that started first; the earlier one of the
list when two started together. -/
def IsVictim (rules : ScalingRules) (samples : List Sample) (victim : Sample) : Prop :=
  ∃ before after,
    (samples.filter fun sample => rules.idleTrigger ≤ sample.idleStreak) =
      before ++ victim :: after ∧
    (∀ sample ∈ before, victim.startedAt < sample.startedAt) ∧
    ∀ sample ∈ after, victim.startedAt ≤ sample.startedAt

variable {s s' : Scaling} {queue : String} {bounds : Bounds} {samples : List Sample} {now : Instant}

/-! ### One decision -/

theorem elapsed_iff {last : Table String Instant} {interval : Duration} :
    elapsed last queue now interval = true ↔ Rested interval (last.get? queue) now := by
  unfold elapsed Rested Instant.since
  cases last.get? queue with
  | none => simp
  | some earlier =>
    have passed : ∀ (later earlier : Int) (length : Nat),
        length ≤ (later - earlier).toNat ↔ earlier + length ≤ later ∨ length = 0 := by omega
    simp only [decide_eq_true_eq, Option.mem_def, Option.some.injEq, forall_eq']
    exact passed now earlier interval

/-- **The sample that started first**, and of several that did the first one of the list. -/
theorem oldest?_eq_some_iff {victim : Sample} : oldest? samples = some victim ↔
    ∃ before after, samples = before ++ victim :: after ∧
      (∀ sample ∈ before, victim.startedAt < sample.startedAt) ∧
      ∀ sample ∈ after, victim.startedAt ≤ sample.startedAt := by
  induction samples generalizing victim with
  | nil => simp [oldest?]
  | cons first rest ih =>
    have none_iff : oldest? rest = none ↔ rest = [] := by
      cases rest with
      | nil => simp [oldest?]
      | cons => unfold oldest?; split <;> simp; split <;> simp
    constructor
    · intro found
      unfold oldest? at found
      split at found
      next other oldest =>
        obtain ⟨before, after, rfl, later, notEarlier⟩ := ih.mp oldest
        split at found
        next younger =>
          cases found
          exact ⟨first :: before, after, rfl, List.forall_mem_cons.mpr ⟨younger, later⟩, notEarlier⟩
        next elder =>
          cases found
          refine ⟨[], _, rfl, nofun, fun sample among => ?_⟩
          have least : first.startedAt ≤ other.startedAt := Int.not_lt.mp elder
          obtain earlier | rfl | further := by simpa using among
          · exact Int.le_trans least (Int.le_of_lt (later sample earlier))
          · exact least
          · exact Int.le_trans least (notEarlier sample further)
      next alone =>
        cases found
        rw [none_iff.mp alone]
        exact ⟨[], [], rfl, nofun, nofun⟩
    · rintro ⟨before, after, split, later, notEarlier⟩
      cases before with
      | nil =>
        obtain ⟨rfl, rfl⟩ := List.cons_eq_cons.mp split
        unfold oldest?
        split
        next other oldest =>
          obtain ⟨before, after, rfl, -, -⟩ := ih.mp oldest
          rw [if_neg (Int.not_lt.mpr (notEarlier other (by simp)))]
        next => rfl
      | cons head before =>
        obtain ⟨rfl, rfl⟩ := List.cons_eq_cons.mp split
        unfold oldest?
        rw [ih.mpr ⟨before, after, rfl, fun sample among =>
          later sample (List.mem_cons_of_mem _ among), notEarlier⟩]
        exact if_pos (later first List.mem_cons_self)

theorem idlest?_eq_some_iff {victim : Sample} :
    s.idlest? samples = some victim ↔ IsVictim s.rules samples victim := oldest?_eq_some_iff

/-- When one more consumer is called for, by what the scaling remembers. -/
theorem wantsMore_iff : s.wantsMore queue bounds samples now = true ↔
    samples.length < bounds.most ∧
      (∀ sample ∈ samples, s.rules.activeTrigger ≤ sample.activeStreak) ∧
      Rested s.rules.startInterval (s.lastStarted.get? queue) now := by
  unfold wantsMore
  rw [Bool.and_eq_true, Bool.and_eq_true, decide_eq_true_eq, elapsed_iff, List.all_eq_true]
  simp only [decide_eq_true_eq]
  exact and_right_comm.trans and_assoc

/-- When a consumer may be retired, by what the scaling remembers. -/
theorem allowsFewer_iff : s.allowsFewer queue bounds samples now = true ↔
    bounds.least < samples.length ∧
      Rested s.rules.stopInterval (s.lastStopped.get? queue) now := by
  unfold allowsFewer
  rw [Bool.and_eq_true, decide_eq_true_eq, elapsed_iff]

/-- **Every decision**, with what is remembered after it. -/
theorem evaluate_cases (s : Scaling) (queue : String) (bounds : Bounds) (samples : List Sample)
    (now : Instant) :
    samples ≠ [] ∧ s.wantsMore queue bounds samples now = true ∧
      s.evaluate queue bounds samples now =
        (.startOne, { s with lastStarted := s.lastStarted.set queue now }) ∨
    ¬ (samples ≠ [] ∧ s.wantsMore queue bounds samples now = true) ∧
      (∃ victim, s.allowsFewer queue bounds samples now = true ∧
        s.idlest? samples = some victim ∧ s.evaluate queue bounds samples now =
          (.stopOne victim.consumer, { s with lastStopped := s.lastStopped.set queue now })) ∨
    ¬ (samples ≠ [] ∧ s.wantsMore queue bounds samples now = true) ∧
      ¬ (s.allowsFewer queue bounds samples now = true ∧ s.idlest? samples ≠ none) ∧
      s.evaluate queue bounds samples now = (.hold, s) := by
  unfold evaluate
  split
  next empty =>
    rw [List.isEmpty_iff] at empty
    subst empty
    exact .inr (.inr ⟨fun wants => wants.1 rfl, fun fewer => fewer.2 rfl, rfl⟩)
  next some =>
    have some : samples ≠ [] := fun empty => some (List.isEmpty_iff.mpr empty)
    split
    next wants => exact .inl ⟨some, wants, rfl⟩
    next content =>
      have holds : ¬ (samples ≠ [] ∧ s.wantsMore queue bounds samples now = true) :=
        fun wants => content wants.2
      split
      next allows =>
        split
        next victim found => exact .inr (.inl ⟨holds, victim, allows, found, rfl⟩)
        next nobody => exact .inr (.inr ⟨holds, fun fewer => fewer.2 nobody, rfl⟩)
      next forbids => exact .inr (.inr ⟨holds, fun fewer => forbids fewer.1, rfl⟩)

/-- **When one more consumer is called for.** -/
theorem evaluate_eq_startOne_iff : (s.evaluate queue bounds samples now).1 = .startOne ↔
    samples ≠ [] ∧ s.wantsMore queue bounds samples now = true := by
  obtain ⟨some, wants, same⟩ | ⟨not, victim, -, -, same⟩ | ⟨not, -, same⟩ :=
    s.evaluate_cases queue bounds samples now <;> rw [same]
  · exact iff_of_true rfl ⟨some, wants⟩
  · exact iff_of_false nofun not
  · exact iff_of_false nofun not

/-- **When a consumer is retired, and which one.** -/
theorem evaluate_eq_stopOne_iff {id : Nat} :
    (s.evaluate queue bounds samples now).1 = .stopOne id ↔
      ¬ (samples ≠ [] ∧ s.wantsMore queue bounds samples now = true) ∧
        s.allowsFewer queue bounds samples now = true ∧
        ∃ victim, s.idlest? samples = some victim ∧ victim.consumer = id := by
  obtain ⟨some, wants, same⟩ | ⟨not, victim, allows, found, same⟩ | ⟨not, nobody, same⟩ :=
    s.evaluate_cases queue bounds samples now <;> rw [same]
  · exact iff_of_false nofun fun stops => stops.1 ⟨some, wants⟩
  · rw [found]
    simp [not, allows]
  · refine iff_of_false nofun fun ⟨_, allows, victim, found, _⟩ => nobody ⟨allows, ?_⟩
    rw [found]
    exact Option.some_ne_none victim

/-- **When nothing changes.** -/
theorem evaluate_eq_hold_iff : (s.evaluate queue bounds samples now).1 = .hold ↔
    ¬ (samples ≠ [] ∧ s.wantsMore queue bounds samples now = true) ∧
      ¬ (s.allowsFewer queue bounds samples now = true ∧ s.idlest? samples ≠ none) := by
  obtain ⟨some, wants, same⟩ | ⟨not, victim, allows, found, same⟩ | ⟨not, nobody, same⟩ :=
    s.evaluate_cases queue bounds samples now <;> rw [same]
  · exact iff_of_false nofun fun holds => holds.1 ⟨some, wants⟩
  · refine iff_of_false nofun fun holds => holds.2 ⟨allows, ?_⟩
    rw [found]
    exact Option.some_ne_none victim
  · exact iff_of_true rfl ⟨not, nobody⟩

/-- A start is remembered. -/
theorem evaluate_of_startOne (decided : (s.evaluate queue bounds samples now).1 = .startOne) :
    s.evaluate queue bounds samples now =
      (.startOne, { s with lastStarted := s.lastStarted.set queue now }) := by
  obtain ⟨-, -, same⟩ | ⟨-, _, -, -, same⟩ | ⟨-, -, same⟩ :=
    s.evaluate_cases queue bounds samples now
  · exact same
  · rw [same] at decided
    cases decided
  · rw [same] at decided
    cases decided

/-- A stop is remembered. -/
theorem evaluate_of_stopOne {id : Nat}
    (decided : (s.evaluate queue bounds samples now).1 = .stopOne id) :
    s.evaluate queue bounds samples now =
      (.stopOne id, { s with lastStopped := s.lastStopped.set queue now }) := by
  obtain ⟨-, -, same⟩ | ⟨-, victim, -, -, same⟩ | ⟨-, -, same⟩ :=
    s.evaluate_cases queue bounds samples now <;> rw [same] at decided
  · cases decided
  · cases decided
    exact same
  · cases decided

/-- Nothing is remembered of a look that changes nothing. -/
theorem evaluate_of_hold (decided : (s.evaluate queue bounds samples now).1 = .hold) :
    s.evaluate queue bounds samples now = (.hold, s) := by
  obtain ⟨-, -, same⟩ | ⟨-, victim, -, -, same⟩ | ⟨-, -, same⟩ :=
    s.evaluate_cases queue bounds samples now
  · rw [same] at decided
    cases decided
  · rw [same] at decided
    cases decided
  · exact same

/-- A look that does not call for one more consumer is not remembered as one that does. -/
theorem evaluate_silent (silent : (s.evaluate queue bounds samples now).1 ≠ .startOne) :
    (s.evaluate queue bounds samples now).2.lastStarted = s.lastStarted := by
  obtain ⟨-, -, same⟩ | ⟨-, victim, -, -, same⟩ | ⟨-, -, same⟩ :=
    s.evaluate_cases queue bounds samples now <;> rw [same] at silent ⊢
  exact absurd rfl silent

theorem evaluate_rules : (s.evaluate queue bounds samples now).2.rules = s.rules := by
  obtain ⟨-, -, same⟩ | ⟨-, _, -, -, same⟩ | ⟨-, -, same⟩ :=
    s.evaluate_cases queue bounds samples now <;> rw [same]

/-! ### What is remembered -/

theorem serve_rules (s : Scaling) (call : Call) : (s.serve call).2.rules = s.rules := by
  cases call with
  | evaluate => exact evaluate_rules
  | forget => rfl

theorem serveAll_rules (s : Scaling) (calls : List Call) : (s.serveAll calls).rules = s.rules := by
  induction calls generalizing s with
  | nil => rfl
  | cons call calls ih => exact (ih _).trans (serve_rules s call)

/-- After a call the scaling remembers whether it has called for one more consumer. -/
theorem serve_lastStarted (s : Scaling) (call : Call) (queue : String) :
    (s.serve call).2.lastStarted.get? queue =
      lastAfter ScalingDecision.isStart queue (s.lastStarted.get? queue) (call, (s.serve call).1) := by
  cases call with
  | evaluate name bounds samples now =>
    dsimp only [serve, lastAfter]
    obtain ⟨-, -, same⟩ | ⟨-, _, -, -, same⟩ | ⟨-, -, same⟩ :=
      s.evaluate_cases name bounds samples now <;> rw [same]
    · rw [Table.get?_set]
      simp [ScalingDecision.isStart, eq_comm]
    · simp [ScalingDecision.isStart]
    · simp [ScalingDecision.isStart]
  | forget name =>
    show (s.lastStarted.erase name).get? queue = if name = queue then none else _
    rw [Table.get?_erase]
    simp only [eq_comm]

/-- After a call the scaling remembers whether it has retired a consumer. -/
theorem serve_lastStopped (s : Scaling) (call : Call) (queue : String) :
    (s.serve call).2.lastStopped.get? queue =
      lastAfter ScalingDecision.isStop queue (s.lastStopped.get? queue) (call, (s.serve call).1) := by
  cases call with
  | evaluate name bounds samples now =>
    dsimp only [serve, lastAfter]
    obtain ⟨-, -, same⟩ | ⟨-, _, -, -, same⟩ | ⟨-, -, same⟩ :=
      s.evaluate_cases name bounds samples now <;> rw [same]
    · simp [ScalingDecision.isStop]
    · rw [Table.get?_set]
      simp [ScalingDecision.isStop, eq_comm]
    · simp [ScalingDecision.isStop]
  | forget name =>
    show (s.lastStopped.erase name).get? queue = if name = queue then none else _
    rw [Table.get?_erase]
    simp only [eq_comm]

/-- **What the scaling remembers is what it has answered**, of its starts and of its stops. -/
theorem serveAll_remembers {kind : ScalingDecision → Bool} (memory : Scaling → Table String Instant)
    (step : ∀ s call, (memory (s.serve call).2).get? queue =
      lastAfter kind queue ((memory s).get? queue) (call, (s.serve call).1))
    (s : Scaling) (calls : List Call) : (memory (s.serveAll calls)).get? queue =
      (s.transcript calls).foldl (lastAfter kind queue) ((memory s).get? queue) := by
  induction calls generalizing s with
  | nil => rfl
  | cons call calls ih =>
    rw [serveAll, ih, step]
    rfl

/-! ### Other queues -/

/-- Two scalings that have the same rules and remember the same of a queue. -/
structure Concurs (queue : String) (s s' : Scaling) : Prop where
  rules : s'.rules = s.rules
  started : s'.lastStarted.get? queue = s.lastStarted.get? queue
  stopped : s'.lastStopped.get? queue = s.lastStopped.get? queue

/-- Scalings that remember the same of a queue decide the same about it. -/
theorem Concurs.evaluate (concurs : Concurs queue s s') :
    (s'.evaluate queue bounds samples now).1 = (s.evaluate queue bounds samples now).1 := by
  have wants : s'.wantsMore queue bounds samples now = s.wantsMore queue bounds samples now := by
    rw [Bool.eq_iff_iff, wantsMore_iff, wantsMore_iff, concurs.rules, concurs.started]
  have allows : s'.allowsFewer queue bounds samples now =
      s.allowsFewer queue bounds samples now := by
    rw [Bool.eq_iff_iff, allowsFewer_iff, allowsFewer_iff, concurs.rules, concurs.stopped]
  have idlest : s'.idlest? samples = s.idlest? samples := by
    unfold idlest?
    rw [concurs.rules]
  cases decided : (s.evaluate queue bounds samples now).1 with
  | startOne =>
    rw [evaluate_eq_startOne_iff] at decided ⊢
    exact wants ▸ decided
  | stopOne id =>
    rw [evaluate_eq_stopOne_iff] at decided ⊢
    rw [wants, allows, idlest]
    exact decided
  | hold =>
    cases decided' : (s'.evaluate queue bounds samples now).1 with
    | hold => rfl
    | startOne =>
      rw [evaluate_eq_startOne_iff, wants, ← evaluate_eq_startOne_iff, decided] at decided'
      cases decided'
    | stopOne id =>
      rw [evaluate_eq_stopOne_iff, wants, allows, idlest, ← evaluate_eq_stopOne_iff,
        decided] at decided'
      cases decided'

/-- A call about the queue is answered alike, and remembered alike. -/
theorem Concurs.serve (concurs : Concurs queue s s') {call : Call} (about : call.queue = queue) :
    Concurs queue (s.serve call).2 (s'.serve call).2 := by
  have answer : (s'.serve call).1 = (s.serve call).1 := by
    cases call with
    | evaluate name bounds samples now =>
      cases about
      exact congrArg some concurs.evaluate
    | forget => rfl
  refine ⟨by rw [serve_rules, serve_rules, concurs.rules], ?_, ?_⟩
  · rw [serve_lastStarted, serve_lastStarted, answer, concurs.started]
  · rw [serve_lastStopped, serve_lastStopped, answer, concurs.stopped]

/-- A call about another queue is not remembered of this one. -/
theorem serve_concurs (s : Scaling) {call : Call} (other : call.queue ≠ queue) :
    Concurs queue (s.serve call).2 s := by
  have forgets : ∀ kind last answer, lastAfter kind queue last (call, answer) = last := by
    intro kind last answer
    cases call with
    | evaluate => exact if_neg fun same => other same.1
    | forget => exact if_neg other
  exact ⟨(serve_rules s call).symm, by rw [serve_lastStarted, forgets],
    by rw [serve_lastStopped, forgets]⟩

/-- **Calls about other queues do not matter.** -/
theorem Concurs.serveAll (concurs : Concurs queue s s') (calls : List Call) :
    Concurs queue (s.serveAll calls) (s'.serveAll (calls.filter (·.queue = queue))) := by
  induction calls generalizing s s' with
  | nil => exact concurs
  | cons call calls ih =>
    by_cases about : call.queue = queue
    · rw [List.filter_cons_of_pos (by simpa using about)]
      exact ih (concurs.serve about)
    · rw [List.filter_cons_of_neg (by simpa using about)]
      have without := serve_concurs s about
      exact ih ⟨concurs.rules.trans without.rules, concurs.started.trans without.started,
        concurs.stopped.trans without.stopped⟩

/-! ### Every decision -/

/-- **Every decision about a queue follows from its history.** One more consumer is called for
exactly when the queue has some, but not as many as it may have, all of them are busy, and the last
such answer since the queue was forgotten lies at least the start interval back. Otherwise a consumer
is retired exactly when the queue has more than it must have, one of them is idle, and the last such
answer lies at least the stop interval back; it is the one of the idle ones that started first. An
interval of no length has always passed, also when the clock runs back. -/
theorem run_decides_by_history (rules : ScalingRules) (calls : List Call) (queue : String)
    (bounds : Bounds) (samples : List Sample) (now : Instant) :
    let history := (Scaling.new rules).transcript calls
    let decision (calls : List Call) :=
      (((Scaling.new rules).serveAll calls).evaluate queue bounds samples now).1
    let starts := samples.length < bounds.most ∧
      (∀ sample ∈ samples, rules.activeTrigger ≤ sample.activeStreak) ∧
      Rested rules.startInterval (lastGiven ScalingDecision.isStart queue history) now
    (samples = [] → decision calls = .hold) ∧
    (samples ≠ [] →
      (decision calls = .startOne ↔ starts) ∧
      ∀ id, decision calls = .stopOne id ↔
        ¬ starts ∧ bounds.least < samples.length ∧
          Rested rules.stopInterval (lastGiven ScalingDecision.isStop queue history) now ∧
          ∃ victim, IsVictim rules samples victim ∧ victim.consumer = id) ∧
    decision (calls.filter (·.queue = queue)) = decision calls := by
  intro history decision starts
  have same : ((Scaling.new rules).serveAll calls).rules = rules := serveAll_rules _ calls
  have started : ((Scaling.new rules).serveAll calls).lastStarted.get? queue =
      lastGiven ScalingDecision.isStart queue history :=
      serveAll_remembers (·.lastStarted) (fun s call => serve_lastStarted s call queue) _ calls
  have stopped : ((Scaling.new rules).serveAll calls).lastStopped.get? queue =
      lastGiven ScalingDecision.isStop queue history :=
      serveAll_remembers (·.lastStopped) (fun s call => serve_lastStopped s call queue) _ calls
  have wants : ((Scaling.new rules).serveAll calls).wantsMore queue bounds samples now = true ↔
      starts := by rw [wantsMore_iff, same, started]
  refine ⟨fun none => ?_, fun some => ⟨?_, fun id => ?_⟩, ?_⟩
  · subst none
    rfl
  · exact evaluate_eq_startOne_iff.trans ((and_iff_right some).trans wants)
  · refine evaluate_eq_stopOne_iff.trans (and_congr (not_congr ((and_iff_right some).trans wants)) ?_)
    rw [allowsFewer_iff, same, stopped, and_assoc]
    simp only [idlest?_eq_some_iff, same]
  · exact Concurs.evaluate (.serveAll ⟨rfl, rfl, rfl⟩ calls)

/-- A scaling without intervals, for which one busy receive or one idle one is enough. -/
def eager : ScalingRules := ⟨1, 1, 0, 0⟩

/-- **Without an interval an answer of the future does not count**: the clock runs back, and one more
consumer is called for although the last answer that did so does not lie before that. -/
theorem clock_runs_back :
    let busy : List Sample := [⟨1, 0, 0, 1⟩]
    let calls : List Call := [.evaluate "orders" ⟨1, 4⟩ busy (Instant.ofMillis 10)]
    let last := Instant.ofMillis 10
    let now := Instant.ofMillis 5
    lastGiven ScalingDecision.isStart "orders" ((Scaling.new eager).transcript calls) = some last ∧
      ¬ last + eager.startInterval ≤ now ∧
      (((Scaling.new eager).serveAll calls).evaluate "orders" ⟨1, 4⟩ busy now).1 = .startOne := by
  decide

end Scaling

end QueueListener
