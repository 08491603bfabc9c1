import QueueListener.Listener.Call
import QueueListener.Proofs.Recovery.BackOff
import Mathlib.Data.List.Basic
/-!
# Calls that are made again

**A listener with retries calls the listener inside until it succeeds, its channel fails, or the attempts
are used up**, and pauses in between for as long as its policy says; only when the attempts are used up
it turns to its last resort, once, with the last error. Nothing is assumed of the listener inside but
that each of its calls comes to an end, and nothing of what it finds after a pause.

* `Invocation` — a call from its beginning to its end: what it found, its pauses, and its answer;
* `Attempt.Makes` — a listener makes an invocation;
* `Attempt.Keeps`, `Attempt.Returns` — what is asked of the listener inside;
* `Makes.retried`, `retrying_inv` — the first attempt, and what follows it;
* `once_keeps`, `once_returns` — listeners with scripts are such listeners;
* `retrying_calls` — the statement for every listener, limit, policy and last resort.
-/

namespace QueueListener

/-! ### Invocations -/

/-- A pause of a call: what it left, how long it lasted, and what was found after it. -/
structure Pause where
  left : Bench
  length : Duration
  found : Bench

/-- A call from its beginning to its end. -/
structure Invocation where
  found : Bench
  pauses : List Pause
  answer : Except ListenerError Unit
  left : Bench

/-- A listener makes an invocation. During a pause anything may happen to the bench. -/
inductive Attempt.Makes (attempt : Attempt) : Call → Invocation → Prop
  | ends {call : Call} {found left : Bench} {answer : Except ListenerError Unit}
      (ended : attempt call found = (.ended answer, left)) :
      attempt.Makes call ⟨found, [], answer, left⟩
  | sleeps {call later : Call} {found left : Bench} {length : Duration} {next : Invocation}
      (slept : attempt call found = (.sleeping length later, left))
      (goesOn : attempt.Makes later next) :
      attempt.Makes call
        ⟨found, ⟨left, length, next.found⟩ :: next.pauses, next.answer, next.left⟩

namespace Invocation

/-- What was found, at the beginning and after every pause. -/
def findings (invocation : Invocation) : List Bench :=
  invocation.found :: invocation.pauses.map (·.found)

/-- No further call follows this one: it succeeded, or its channel failed. -/
def settled (invocation : Invocation) : Bool :=
  match invocation.answer with
  | .ok () => true
  | .error error => error.isTransport

/-- What comes of the last call: its own answer, or that of the last resort to its error. -/
def conclude (last : Invocation) (resort : LastResort) (delivery : Delivery) :
    Except ListenerError Unit × Bench :=
  match last.answer with
  | .ok () => (.ok (), last.left)
  | .error error =>
    if error.isTransport then (.error error, last.left) else resort delivery error last.left

/-- A call that is the last one, with what comes of it. -/
def concluded (last : Invocation) (resort : LastResort) (delivery : Delivery) : Invocation :=
  { last with
    answer := (last.conclude resort delivery).1
    left := (last.conclude resort delivery).2 }

/-- A call that another one follows after a pause. -/
def before (first : Invocation) (length : Duration) (next : Invocation) : Invocation :=
  ⟨first.found, first.pauses ++ ⟨first.left, length, next.found⟩ :: next.pauses, next.answer,
    next.left⟩

/-- What a call finds that another one follows: its own, and then what that one finds. -/
theorem findings_before (first next : Invocation) (length : Duration) :
    (first.before length next).findings = first.findings ++ next.findings := by
  simp [findings, before]

/-- The benches that were found are the first of a sequence. -/
def Follows (invocation : Invocation) (found : Nat → Bench) : Prop :=
  ∀ i bench, invocation.findings[i]? = some bench → bench = found i

/-- Two calls find the first of a sequence when the second one goes on where the first one ended. -/
theorem Follows.before {first next : Invocation} {found : Nat → Bench} (length : Duration)
    (begins : first.Follows found)
    (goesOn : next.Follows fun i => found (first.findings.length + i)) :
    (first.before length next).Follows found := by
  intro i bench at_i
  rw [findings_before] at at_i
  by_cases early : i < first.findings.length
  · rw [List.getElem?_append_left early] at at_i
    exact begins i bench at_i
  · have late := Nat.le_of_not_lt early
    rw [List.getElem?_append_right late] at at_i
    have same : bench = found (first.findings.length + (i - first.findings.length)) :=
      goesOn _ bench at_i
    rwa [Nat.add_sub_cancel' late] at same

end Invocation

/-- The pauses of calls that follow each other, with those between them. -/
def weave (delay : Nat → Duration) : Nat → List Invocation → List Pause
  | _, [] => []
  | _, [last] => last.pauses
  | number, first :: next :: rest =>
    first.pauses ++ ⟨first.left, delay number, next.found⟩ :: weave delay (number + 1) (next :: rest)

namespace Attempt

/-- A listener that sleeps goes on with the same delivery and the same attempt. -/
def Keeps (attempt : Attempt) : Prop :=
  ∀ call bench length later left, attempt call bench = (.sleeping length later, left) →
    later.delivery = call.delivery ∧ later.attempt = call.attempt

/-- Every call of the listener comes to an end, whatever it finds after its pauses. -/
def Returns (attempt : Attempt) : Prop :=
  ∀ delivery number (found : Nat → Bench), ∃ invocation,
    attempt.Makes ⟨delivery, number, none⟩ invocation ∧ invocation.Follows found

/-! ### One step -/

variable {attempts : Nat} {backOff : BackOff} (resort : LastResort) {attempt : Attempt}
  {call later : Call} {bench left : Bench} {delivery : Delivery} {delay : Nat → Duration}

/-- The policy has these delays, whatever limit of attempts it is given. -/
def Spaces (backOff : BackOff) (delay : Nat → Duration) : Prop :=
  ∀ i limit, 1 ≤ i → i ≤ limit → (backOff.limited limit).delay? i = .ok (some (delay i))

/-- **A usable policy has its delays whatever its limit is.** -/
theorem exists_spaces (usable : backOff.fault? = none) : ∃ delay, Spaces backOff delay := by
  cases backOff with
  | fixed interval limit =>
    refine ⟨fun _ => interval, fun i limit positive within => ?_⟩
    simp [BackOff.limited, BackOff.delay?, BackOff.allows, BackOff.limit, within,
      Nat.one_le_iff_ne_zero.mp positive]
  | exponential initial multiplier longest limit =>
    obtain ⟨finite, large⟩ := BackOff.factor_of_usable usable
    choose delay grown using BackOff.grownDelay_ok finite large initial longest
    refine ⟨delay, fun i limit positive within => ?_⟩
    have allowed : (BackOff.exponential initial multiplier longest (some limit)).allows i = true := by
      simp [BackOff.allows, BackOff.limit, within, Nat.one_le_iff_ne_zero.mp positive]
    have grows : (BackOff.exponential initial multiplier longest (some limit)).delay? i =
        (BackOff.grownDelay initial multiplier longest i).map some := by
      unfold BackOff.delay?
      rw [allowed]
      rfl
    show (BackOff.exponential initial multiplier longest (some limit)).delay? i = _
    rw [grows, grown i]
    rfl

/-- **What follows an answer**: if it is final, or the attempts are used up, what comes of it; else a
pause, as long as the policy says, and another attempt. -/
theorem retrying_of_ended (spaces : Spaces backOff delay) (few : attempts ≤ Call.greatestLimit)
    (positive : 1 ≤ call.attempt) {answer : Except ListenerError Unit}
    (ended : attempt call bench = (.ended answer, left)) :
    let last : Invocation := ⟨bench, [], answer, left⟩
    (last.settled = true ∨ max attempts 1 ≤ call.attempt →
      attempt.retrying attempts backOff resort call bench =
        (.ended (last.conclude resort call.delivery).1, (last.conclude resort call.delivery).2)) ∧
    (last.settled = false → call.attempt < max attempts 1 →
      attempt.retrying attempts backOff resort call bench =
        (.sleeping (delay call.attempt) ⟨call.delivery, call.attempt + 1, none⟩, left)) := by
  dsimp only
  unfold retrying Invocation.settled Invocation.conclude
  rw [ended]
  cases answer with
  | ok => exact ⟨fun _ => rfl, fun unsettled => by cases unsettled⟩
  | error error =>
    dsimp only
    unfold Call.afterFailure
    cases error.isTransport with
    | true => exact ⟨fun _ => rfl, fun unsettled => by cases unsettled⟩
    | false =>
      simp only [Bool.false_eq_true, if_false, false_or]
      refine ⟨fun usedUp => by rw [if_pos usedUp], fun _ goesOn => ?_⟩
      have within : call.attempt ≤ Call.greatestLimit := by
        unfold Call.greatestLimit at few ⊢
        omega
      have spaced : call.delayAfter backOff = .ok (delay call.attempt) := by
        unfold Call.delayAfter
        rw [spaces call.attempt _ positive within]
        rfl
      rw [if_neg (Nat.not_le_of_lt goesOn), spaced]

/-- A listener with retries sleeps when the listener inside does. -/
theorem retrying_of_sleeping (attempts : Nat) (backOff : BackOff) {length : Duration}
    (slept : attempt call bench = (.sleeping length later, left)) :
    attempt.retrying attempts backOff resort call bench = (.sleeping length later, left) := by
  unfold retrying
  rw [slept]

/-! ### The first attempt, and what follows it -/

variable {first whole : Invocation}

/-- **Every call of the listener inside begins a call with retries**: if no other may follow, with what
comes of it, and else with any call that goes on from the next attempt. -/
theorem Makes.retried (spaces : Spaces backOff delay) (few : attempts ≤ Call.greatestLimit)
    (positive : 1 ≤ call.attempt) (keeps : attempt.Keeps) (made : attempt.Makes call first) :
    (first.settled = true ∨ max attempts 1 ≤ call.attempt →
      (attempt.retrying attempts backOff resort).Makes call
        (first.concluded resort call.delivery)) ∧
    (first.settled = false → call.attempt < max attempts 1 → ∀ next,
      (attempt.retrying attempts backOff resort).Makes ⟨call.delivery, call.attempt + 1, none⟩
        next →
      (attempt.retrying attempts backOff resort).Makes call
        (first.before (delay call.attempt) next)) := by
  induction made with
  | ends ended =>
    obtain ⟨final, goesOn⟩ := retrying_of_ended resort spaces few positive ended
    exact ⟨fun last => .ends (final last), fun unsettled early next made =>
      .sleeps (goesOn unsettled early) made⟩
  | @sleeps call later found left length next slept goesOn ih =>
    obtain ⟨same, kept⟩ := keeps _ _ _ _ _ slept
    rw [same, kept] at ih
    obtain ⟨final, again⟩ := ih positive
    have sleeps := retrying_of_sleeping resort attempts backOff slept
    exact ⟨fun last => .sleeps sleeps (final last), fun unsettled early further made =>
      .sleeps sleeps (again unsettled early further made)⟩

/-- If a call with retries ends, the call of the listener inside has ended and is the last one. -/
theorem ended_of_retrying (spaces : Spaces backOff delay) (few : attempts ≤ Call.greatestLimit)
    (positive : 1 ≤ call.attempt) {answer : Except ListenerError Unit}
    (ended : attempt.retrying attempts backOff resort call bench = (.ended answer, left)) :
    ∃ own rest, attempt call bench = (.ended own, rest) ∧
      (Invocation.settled ⟨bench, [], own, rest⟩ = true ∨ max attempts 1 ≤ call.attempt) ∧
      (answer, left) = Invocation.conclude ⟨bench, [], own, rest⟩ resort call.delivery := by
  cases did : attempt call bench with
  | mk progress rest =>
    cases progress with
    | sleeping length later =>
      rw [retrying_of_sleeping resort _ _ did] at ended
      cases ended
    | ended own =>
      obtain ⟨final, goesOn⟩ := retrying_of_ended resort spaces few positive did
      by_cases last : Invocation.settled ⟨bench, [], own, rest⟩ = true ∨
          max attempts 1 ≤ call.attempt
      · rw [final last] at ended
        cases ended
        exact ⟨own, rest, rfl, last, rfl⟩
      · obtain ⟨unsettled, early⟩ := not_or.mp last
        rw [goesOn (Bool.eq_false_iff.mpr unsettled) (Nat.lt_of_not_le early)] at ended
        cases ended

/-- If a call with retries sleeps, the listener inside does, or its call has ended and is not the last
one. -/
theorem slept_of_retrying (spaces : Spaces backOff delay) (few : attempts ≤ Call.greatestLimit)
    (positive : 1 ≤ call.attempt) {length : Duration}
    (slept : attempt.retrying attempts backOff resort call bench = (.sleeping length later, left)) :
    attempt call bench = (.sleeping length later, left) ∨
      ∃ own, attempt call bench = (.ended own, left) ∧
        Invocation.settled ⟨bench, [], own, left⟩ = false ∧ call.attempt < max attempts 1 ∧
        length = delay call.attempt ∧ later = ⟨call.delivery, call.attempt + 1, none⟩ := by
  cases did : attempt call bench with
  | mk progress rest =>
    cases progress with
    | sleeping length' later' =>
      rw [retrying_of_sleeping resort _ _ did] at slept
      exact .inl slept
    | ended own =>
      obtain ⟨final, pauses⟩ := retrying_of_ended resort spaces few positive did
      by_cases last : Invocation.settled ⟨bench, [], own, rest⟩ = true ∨
          max attempts 1 ≤ call.attempt
      · rw [final last] at slept
        cases slept
      · obtain ⟨unsettled, early⟩ := not_or.mp last
        have unsettled := Bool.eq_false_iff.mpr unsettled
        have early := Nat.lt_of_not_le early
        rw [pauses unsettled early] at slept
        cases slept
        exact .inr ⟨own, rfl, unsettled, early, rfl, rfl⟩

/-- **A call with retries begins with a call of the listener inside**, and is that call with what comes
of it, or goes on from the next attempt. -/
theorem retrying_inv (spaces : Spaces backOff delay) (few : attempts ≤ Call.greatestLimit)
    (positive : 1 ≤ call.attempt) (keeps : attempt.Keeps)
    (made : (attempt.retrying attempts backOff resort).Makes call whole) :
    ∃ first, attempt.Makes call first ∧
      ((first.settled = true ∨ max attempts 1 ≤ call.attempt) ∧
          whole = first.concluded resort call.delivery ∨
        first.settled = false ∧ call.attempt < max attempts 1 ∧
          ∃ next, (attempt.retrying attempts backOff resort).Makes
              ⟨call.delivery, call.attempt + 1, none⟩ next ∧
            whole = first.before (delay call.attempt) next) := by
  induction made with
  | ends ended =>
    obtain ⟨own, rest, did, last, concludes⟩ := ended_of_retrying resort spaces few positive ended
    obtain ⟨rfl, rfl⟩ := Prod.mk.inj concludes
    exact ⟨_, .ends did, .inl ⟨last, rfl⟩⟩
  | @sleeps call later found left length next slept goesOn ih =>
    obtain did | ⟨own, did, unsettled, early, rfl, rfl⟩ :=
      slept_of_retrying resort spaces few positive slept
    · obtain ⟨same, kept⟩ := keeps _ _ _ _ _ did
      rw [same, kept] at ih
      obtain ⟨first, made, ⟨last, rfl⟩ | ⟨unsettled, early, further, again, rfl⟩⟩ := ih positive
      · exact ⟨_, .sleeps did made, .inl ⟨last, rfl⟩⟩
      · exact ⟨_, .sleeps did made, .inr ⟨unsettled, early, further, again, rfl⟩⟩
    · exact ⟨_, .ends did, .inr ⟨unsettled, early, next, goesOn, rfl⟩⟩

/-! ### All attempts -/

/-- The calls of the listener inside, from the attempt with that number on, that a call of the listener
with retries consists of. -/
structure Retries (attempt : Attempt) (attempts : Nat) (delay : Nat → Duration)
    (resort : LastResort) (delivery : Delivery) (number : Nat) (tries : List Invocation)
    (whole : Invocation) : Prop where
  made : ∀ i once, tries[i]? = some once → attempt.Makes ⟨delivery, number + i, none⟩ once
  /-- The last attempt is the first that is settled, or the last that is allowed. -/
  count : number + tries.length = min (max attempts 1) (number + tries.findIdx (·.settled)) + 1
  begins : tries.head?.map (·.found) = some whole.found
  pauses : whole.pauses = weave delay number tries
  concludes : ∃ last, tries.getLast? = some last ∧
    (whole.answer, whole.left) = last.conclude resort delivery

/-- The attempt that is the last one. -/
theorem Retries.last {number : Nat} (allowed : number ≤ max attempts 1)
    (made : attempt.Makes ⟨delivery, number, none⟩ first)
    (final : first.settled = true ∨ max attempts 1 ≤ number) :
    attempt.Retries attempts delay resort delivery number [first]
      (first.concluded resort delivery) where
  made i once at_i := by
    cases i with
    | zero =>
      cases at_i
      exact made
    | succ i => cases at_i
  count := by
    cases settled : first.settled with
    | true => simp [settled, allowed]
    | false =>
      have usedUp : max attempts 1 ≤ number := final.resolve_left (by simp [settled])
      have same := Nat.le_antisymm allowed usedUp
      simp [settled, ← same]
  begins := rfl
  pauses := rfl
  concludes := ⟨first, rfl, rfl⟩

/-- An attempt that another one follows. -/
theorem Retries.step {number : Nat} {tries : List Invocation} {next : Invocation}
    (made : attempt.Makes ⟨delivery, number, none⟩ first) (unsettled : first.settled = false)
    (retries : attempt.Retries attempts delay resort delivery (number + 1) tries next) :
    attempt.Retries attempts delay resort delivery number (first :: tries)
      (first.before (delay number) next) where
  made i once at_i := by
    cases i with
    | zero =>
      cases at_i
      exact made
    | succ i =>
      rw [Nat.add_comm i, ← Nat.add_assoc]
      exact retries.made i once at_i
  count := by
    have counted := retries.count
    rw [List.findIdx_cons, unsettled, List.length_cons]
    simp only [cond_false]
    omega
  begins := rfl
  pauses := by
    obtain _ | ⟨second, further⟩ := tries
    · cases retries.begins
    · have same : second.found = next.found := Option.some.inj retries.begins
      show first.pauses ++ _ :: next.pauses = _
      rw [retries.pauses, ← same]
      rfl
  concludes := by
    obtain ⟨last, isLast, concludes⟩ := retries.concludes
    refine ⟨last, ?_, concludes⟩
    rw [List.getLast?_cons, isLast]
    rfl

/-- **A call with retries consists of calls of the listener inside.** -/
theorem retries_of_makes (spaces : Spaces backOff delay) (few : attempts ≤ Call.greatestLimit)
    (keeps : attempt.Keeps) (further : Nat) : ∀ number whole, 1 ≤ number →
    number + further = max attempts 1 →
    (attempt.retrying attempts backOff resort).Makes ⟨delivery, number, none⟩ whole →
    ∃ tries, attempt.Retries attempts delay resort delivery number tries whole := by
  induction further with
  | zero =>
    intro number whole positive last made
    obtain ⟨first, once, follows⟩ := retrying_inv resort spaces few positive keeps made
    rcases follows with ⟨final, rfl⟩ | ⟨unsettled, early, -⟩
    · exact ⟨[first], .last resort (by omega) once final⟩
    · exact absurd early (by dsimp only; omega)
  | succ further ih =>
    intro number whole positive between made
    obtain ⟨first, once, follows⟩ := retrying_inv resort spaces few positive keeps made
    rcases follows with ⟨final, rfl⟩ | ⟨unsettled, early, next, again, rfl⟩
    · exact ⟨[first], .last resort (by omega) once final⟩
    · obtain ⟨tries, retries⟩ := ih (number + 1) next (by omega) (by omega) again
      exact ⟨first :: tries, .step resort once unsettled retries⟩

/-- **A call with retries comes to an end**, whatever is found after its pauses. -/
theorem retrying_returns (spaces : Spaces backOff delay) (few : attempts ≤ Call.greatestLimit)
    (keeps : attempt.Keeps) (returns : attempt.Returns) (further : Nat) : ∀ number found,
    1 ≤ number → number + further = max attempts 1 →
    ∃ whole, (attempt.retrying attempts backOff resort).Makes ⟨delivery, number, none⟩ whole ∧
      whole.Follows found := by
  induction further with
  | zero =>
    intro number found positive last
    obtain ⟨first, once, follows⟩ := returns delivery number found
    exact ⟨_, (once.retried resort spaces few positive keeps).1 (.inr (by dsimp only; omega)), follows⟩
  | succ further ih =>
    intro number found positive between
    obtain ⟨first, once, follows⟩ := returns delivery number found
    obtain ⟨final, again⟩ := once.retried resort spaces few positive keeps
    cases settled : first.settled with
    | true => exact ⟨_, final (.inl settled), follows⟩
    | false =>
      obtain ⟨next, made, goesOn⟩ := ih (number + 1)
        (fun i => found (first.findings.length + i)) (by omega) (by omega)
      exact ⟨_, again settled (by dsimp only; omega) next made, follows.before _ goesOn⟩

end Attempt

/-! ### Listeners with scripts -/

/-- A script that sleeps has fewer commands left. -/
theorem Bench.run_sleeping {aware : Bool} {call later : Call} {commands : List Command}
    {bench left : Bench} {length : Duration}
    (slept : bench.run aware call commands = (.sleeping length later, left)) :
    ∃ rest, later = ⟨call.delivery, call.attempt, some rest⟩ ∧ rest.length < commands.length := by
  induction commands generalizing bench with
  | nil => cases slept
  | cons command rest ih =>
    have goesOn : ∀ middle : Bench,
        middle.run aware call rest = (.sleeping length later, left) →
        ∃ fewer, later = ⟨call.delivery, call.attempt, some fewer⟩ ∧
          fewer.length < (command :: rest).length := fun middle slept =>
      (ih slept).imp fun fewer => And.imp id (Nat.lt_trans · (Nat.lt_succ_self _))
    unfold run at slept
    split at slept
    next => exact goesOn _ slept
    next => cases slept
    next => cases slept
    next =>
      split at slept
      next => exact goesOn _ slept
      next =>
        cases slept
        exact ⟨rest, rfl, Nat.lt_succ_self _⟩

namespace Listener

variable (listener : Listener) {call later : Call} {bench left : Bench} {length : Duration}

/-- A listener with scripts that sleeps has a script for the same attempt left, which is shorter if it
had one before. -/
theorem once_sleeping (slept : listener.once call bench = (.sleeping length later, left)) :
    ∃ rest, later = ⟨call.delivery, call.attempt, some rest⟩ ∧
      ∀ before, call.rest = some before → rest.length < before.length := by
  have ran : ∀ aware, (call.begin listener bench).2.run aware call
        (call.begin listener bench).1 = (.sleeping length later, left) →
      ∃ rest, later = ⟨call.delivery, call.attempt, some rest⟩ ∧
        ∀ before, call.rest = some before → rest.length < before.length := by
    intro aware slept
    obtain ⟨rest, same, fewer⟩ := Bench.run_sleeping slept
    refine ⟨rest, same, fun before has => ?_⟩
    unfold Call.begin at fewer
    rwa [has] at fewer
  unfold once Call.attemptOnce at slept
  split at slept
  next => cases slept
  next => exact ran _ slept
  next => exact ran _ slept
  next => exact ran _ slept

theorem once_keeps : listener.once.Keeps := by
  intro call bench length later left slept
  obtain ⟨rest, rfl, -⟩ := listener.once_sleeping slept
  exact ⟨rfl, rfl⟩

/-- If what a listener does after a pause comes to an end, so does what it did before. -/
theorem makes_of_rest (found : Nat → Bench)
    (ends : ∀ rest : List Command,
      (∀ before, call.rest = some before → rest.length < before.length) → ∃ invocation,
        listener.once.Makes ⟨call.delivery, call.attempt, some rest⟩ invocation ∧
          invocation.Follows fun i => found (i + 1)) :
    ∃ invocation, listener.once.Makes call invocation ∧ invocation.Follows found := by
  cases did : listener.once call (found 0) with
  | mk progress left =>
    cases progress with
    | ended answer =>
      refine ⟨_, .ends did, fun i bench at_i => ?_⟩
      cases i with
      | zero => exact (Option.some.inj at_i).symm
      | succ i => cases at_i
    | sleeping length later =>
      obtain ⟨rest, rfl, fewer⟩ := listener.once_sleeping did
      obtain ⟨next, made, follows⟩ := ends rest fewer
      refine ⟨_, .sleeps did made, fun i bench at_i => ?_⟩
      cases i with
      | zero => exact (Option.some.inj at_i).symm
      | succ i => exact follows i bench at_i

theorem once_returns : listener.once.Returns := by
  have ends : ∀ size (call : Call) (found : Nat → Bench) (script : List Command),
      call.rest = some script → script.length < size →
      ∃ invocation, listener.once.Makes call invocation ∧ invocation.Follows found := by
    intro size
    induction size with
    | zero => exact fun _ _ _ _ small => absurd small (Nat.not_lt_zero _)
    | succ size ih =>
      intro call found script has small
      exact listener.makes_of_rest found fun rest fewer =>
        ih _ _ rest rfl (Nat.lt_of_lt_of_le (fewer script has) (Nat.le_of_lt_succ small))
  intro delivery number found
  exact listener.makes_of_rest found fun rest _ => ends _ _ _ rest rfl (Nat.lt_succ_self _)

/-- The listener of a container is such a listener, with its retries. -/
theorem resume_of_retry {retry : Retry} (retries : listener.retry = some retry) :
    (fun call bench => call.resume listener bench) =
      listener.once.retrying retry.attempts retry.backOff retry.recoverer.answer := by
  funext call bench
  unfold Call.resume
  rw [retries]

end Listener

/-! ### The calls of a listener with retries -/

/-- **A listener with retries.** Whatever the listener inside does, as long as its calls come to an end,
and whatever limit of attempts, usable policy and last resort it is given: its call comes to an end, and
consists of calls of the listener inside, as many as it takes until one succeeds or its channel fails, but
no more than the limit, with the delays of the policy between them, whatever limit the policy has. What
the last one answers is the answer if it is final; else the last resort answers its error. -/
theorem Attempt.retrying_calls (attempts : Nat) (few : attempts ≤ Call.greatestLimit) (backOff : BackOff)
    (usable : backOff.fault? = none) (resort : LastResort) (attempt : Attempt)
    (keeps : attempt.Keeps) (returns : attempt.Returns) (delivery : Delivery) :
    (∀ found : Nat → Bench, ∃ whole,
      (attempt.retrying attempts backOff resort).Makes (.start delivery) whole ∧
        whole.Follows found) ∧
    ∃ delay, (∀ i limit, 1 ≤ i → i ≤ limit →
        (backOff.limited limit).delay? i = .ok (some (delay i))) ∧
      ∀ whole, (attempt.retrying attempts backOff resort).Makes (.start delivery) whole →
        ∃ tries last,
          (∀ i once, tries[i]? = some once → attempt.Makes ⟨delivery, i + 1, none⟩ once) ∧
          tries.length = min (max attempts 1) (tries.findIdx (·.settled) + 1) ∧
          tries.head?.map (·.found) = some whole.found ∧
          whole.pauses = weave delay 1 tries ∧
          tries.getLast? = some last ∧
          (whole.answer, whole.left) = last.conclude resort delivery := by
  obtain ⟨delay, spaces⟩ := exists_spaces usable
  have counted : 1 + (max attempts 1 - 1) = max attempts 1 := by omega
  refine ⟨fun found => ?_, delay, spaces, fun whole made => ?_⟩
  · exact retrying_returns resort spaces few keeps returns _ 1 found (Nat.le_refl 1) counted
  · obtain ⟨tries, retries⟩ := retries_of_makes resort spaces few keeps _ 1 whole (Nat.le_refl 1) counted
      made
    obtain ⟨last, isLast, concludes⟩ := retries.concludes
    refine ⟨tries, last, fun i once at_i => ?_, ?_, retries.begins, retries.pauses, isLast,
      concludes⟩
    · rw [Nat.add_comm i]
      exact retries.made i once at_i
    · have count := retries.count
      rw [Nat.add_comm, Nat.add_comm 1] at count
      exact Nat.succ.inj count

/-- A listener that fails, panics, and then succeeds. Its policy has a smaller limit than it has. -/
def Listener.flaky : Listener where
  scripts := ["sleep 5;fail broken", "panic lost", "done"]
  retry := some { attempts := 3, backOff := .fixed (Duration.ofSeconds 1) (some 1) }

/-- What a container makes of it. -/
theorem Attempt.retrying_calls_flaky :
    let policy := BackOff.fixed (Duration.ofSeconds 1) (some 1)
    let whole : Attempt := fun call bench => call.resume Listener.flaky bench
    let delivery : Delivery := ⟨"orders", 7, "consumer", "job".toUTF8, false, {}⟩
    3 ≤ Call.greatestLimit ∧ policy.fault? = none ∧ Listener.flaky.once.Keeps ∧
    Listener.flaky.once.Returns ∧
    (∀ found : Nat → Bench, ∃ invocation, whole.Makes (.start delivery) invocation ∧
      invocation.Follows found) ∧
    ∃ delay, (∀ i limit, 1 ≤ i → i ≤ limit →
        (policy.limited limit).delay? i = .ok (some (delay i))) ∧
      ∀ invocation, whole.Makes (.start delivery) invocation →
        ∃ tries last,
          (∀ i once, tries[i]? = some once →
            Listener.flaky.once.Makes ⟨delivery, i + 1, none⟩ once) ∧
          tries.length = min (max 3 1) (tries.findIdx (·.settled) + 1) ∧
          tries.head?.map (·.found) = some invocation.found ∧
          invocation.pauses = weave delay 1 tries ∧
          tries.getLast? = some last ∧
          (invocation.answer, invocation.left) =
            last.conclude Recoverer.reject.answer delivery := by
  have resumes := Listener.flaky.resume_of_retry rfl
  dsimp only
  rw [resumes]
  exact ⟨by decide, by decide, Listener.flaky.once_keeps, Listener.flaky.once_returns,
    Attempt.retrying_calls 3 (by decide) (.fixed (Duration.ofSeconds 1) (some 1)) (by decide)
      Recoverer.reject.answer Listener.flaky.once Listener.flaky.once_keeps
      Listener.flaky.once_returns _⟩

end QueueListener
