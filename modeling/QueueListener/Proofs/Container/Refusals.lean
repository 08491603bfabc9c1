import QueueListener.Proofs.Container.Upkeep
import QueueListener.Proofs.Registry.Handover
/-!
# Refused calls

**A call that is refused changes nothing.** The checks of a call come before everything that it does,
so nothing is half done: no name of a list is added when a later one is blank or taken, and no
consumer is started for bounds that are not a range. Why a call is refused is told by the first check
that fails.

* `Request`, `World.ask` — the calls that can be refused;
* `World.Declines`, `ask_refused_iff` — when, and with which refusal;
* `ask_refused` — what a refused call leaves behind;
* `addQueues_queues`, `refused_call_changes_nothing` — names are added all in order, or none.
-/

namespace QueueListener

/-- The calls of a container that can be refused. -/
inductive Request
  | start
  | addQueues (names : List String)
  | setConcurrency (least most : Nat)
  /-- The same number of consumers for every queue. -/
  | setConsumers (count : Nat)
  deriving DecidableEq, Repr

namespace World

variable {w : World} {refusal : Refusal} {names : List String}

/-- The answer to a call, and the world after it. -/
def ask (w : World) : Request → Except Refusal Unit × World
  | .start => w.start
  | .addQueues names => w.addQueues names
  | .setConcurrency least most => w.setBounds ⟨least, most⟩
  | .setConsumers count => w.setBounds (.exactly count)

/-- When a call is refused, and with which refusal. -/
inductive Declines (w : World) : Request → Refusal → Prop
  | stopping (stopping : w.registry.state = .stopping) :
      Declines w .start (.illegalState .stopping "start")
  /-- The settings of a container that was not started, or has stopped, contradict each other. -/
  | unfit {refusal : Refusal} (halted : w.registry.state = .created ∨ w.registry.state = .stopped)
      (fault : w.registry.startFault? w.plan.hasManager = some refusal) : Declines w .start refusal
  /-- A name cannot be added beside the queues and the names before it. -/
  | name {before after : List String} {name : String} {refusal : Refusal}
      (fresh : Settings.Fresh w.registry.queues before)
      (unfit : Settings.Unfit (before ++ w.registry.queues) name refusal) :
      Declines w (.addQueues (before ++ name :: after)) refusal
  | idle {most : Nat} : Declines w (.setConcurrency 0 most)
      (.settings "min consumers per queue must be at least 1")
  | inverted {least most : Nat} (positive : 0 < least) (below : most < least) :
      Declines w (.setConcurrency least most) (.settings ("min consumers per queue (" ++
        toString least ++ ") exceeds max (" ++ toString most ++ ")"))
  | nobody : Declines w (.setConsumers 0) (.settings "min consumers per queue must be at least 1")

/-! ### The calls -/

/-- What a start refuses: the container is stopping, or its settings contradict each other. -/
theorem start_refused_iff : w.start.1 = .error refusal ↔ w.Declines .start refusal := by
  have answered : w.start.1 = .error refusal ↔
      w.registry.start w.plan.hasManager = .error refusal := by
    unfold start
    split <;> simp [*]
  have answers := w.registry.start_answers w.plan.hasManager
  rw [answered]
  constructor
  · intro refused
    rw [refused] at answers
    cases answers with
    | stops stopping => exact .stopping stopping
    | unfit halted fault => exact .unfit halted fault
  · rintro (stopping | ⟨halted, fault⟩)
    · rw [Registry.start, stopping]
    · generalize w.registry.start w.plan.hasManager = answer at answers ⊢
      cases answers with
      | runs running => simp [running] at halted
      | stops stopping => simp [stopping] at halted
      | unfit _ found => exact congrArg Except.error (Option.some.inj (found.symm.trans fault))
      | begins _ faultless => cases faultless.symm.trans fault

theorem adopt_refused_iff {answer : Except Refusal Registry} :
    (w.adopt answer).1 = .error refusal ↔ answer = .error refusal := by
  cases answer <;> simp [adopt]

/-- **Adding names is refused for the first of them that cannot be added.** -/
theorem addQueues_refused_iff :
    (w.addQueues names).1 = .error refusal ↔ w.Declines (.addQueues names) refusal := by
  have added : w.registry.add names = .error refusal ↔
      Settings.nameFault? w.registry.queues names = some refusal := by
    unfold Registry.add
    split <;> simp [*]
  rw [addQueues, adopt_refused_iff, added, Settings.nameFault?_eq_some_iff]
  constructor
  · rintro ⟨before, name, after, rfl, fresh, unfit⟩
    exact .name fresh unfit
  · intro refuses
    cases refuses with
    | name fresh unfit => exact ⟨_, _, _, rfl, fresh, unfit⟩

theorem setBounds_refused_iff {bounds : Bounds} : (w.setBounds bounds).1 = .error refusal ↔
    ∃ reason, bounds.fault? = some reason ∧ refusal = .settings reason := by
  rw [setBounds, adopt_refused_iff, Registry.setBounds]
  cases bounds.fault? <;> simp [eq_comm]

/-- **When a call is refused, and with which refusal.** -/
theorem ask_refused_iff {request : Request} :
    (w.ask request).1 = .error refusal ↔ w.Declines request refusal := by
  cases request with
  | start => exact start_refused_iff
  | addQueues names => exact addQueues_refused_iff
  | setConcurrency least most =>
    simp only [ask, setBounds_refused_iff, Bounds.fault?_eq_some_iff]
    constructor
    · rintro ⟨reason, ⟨rfl, rfl⟩ | ⟨positive, below, rfl⟩, rfl⟩
      · exact .idle
      · exact .inverted positive below
    · intro refuses
      cases refuses with
      | idle => exact ⟨_, .inl ⟨rfl, rfl⟩, rfl⟩
      | inverted positive below => exact ⟨_, .inr ⟨positive, below, rfl⟩, rfl⟩
  | setConsumers count =>
    simp only [ask, setBounds_refused_iff, Bounds.fault?_eq_some_iff, Bounds.exactly]
    constructor
    · rintro ⟨reason, ⟨rfl, rfl⟩ | ⟨-, below, -⟩, rfl⟩
      · exact .nobody
      · exact absurd below (Nat.lt_irrefl count)
    · intro refuses
      cases refuses with
      | nobody => exact ⟨_, .inl ⟨rfl, rfl⟩, rfl⟩

/-! ### What is left behind -/

/-- **A refused call changes nothing.** -/
theorem ask_refused {request : Request} (refused : (w.ask request).1 = .error refusal) :
    (w.ask request).2 = w := by
  have adopted : ∀ answer, (w.adopt answer).1 = .error refusal → (w.adopt answer).2 = w := by
    intro answer refused
    rw [adopt_refused_iff.mp refused]
    rfl
  cases request with
  | start =>
    show w.start.2 = w
    replace refused : w.start.1 = .error refusal := refused
    unfold start at refused ⊢
    split at refused
    next => rfl
    next => cases refused
    next => cases refused
  | addQueues | setConcurrency | setConsumers => exact adopted _ refused

/-- **Names that can be added are added, all of them and in order.** -/
theorem addQueues_queues (fresh : Settings.Fresh w.registry.queues names) :
    (w.addQueues names).1 = .ok () ∧
      (w.addQueues names).2.registry.queues = w.registry.queues ++ names := by
  have added : ∃ registry, w.registry.add names = .ok registry ∧
      registry.queues = w.registry.queues ++ names := by
    unfold Registry.add
    rw [Settings.nameFault?_eq_none_iff.mpr fresh]
    exact ⟨_, rfl, rfl⟩
  obtain ⟨registry, added, queues⟩ := added
  obtain ⟨new, converges⟩ := registry.converge_handsOver w.instant
  rw [addQueues, added]
  refine ⟨rfl, ?_⟩
  rw [adopt_registry, converges.steady.queues, queues]

/-- **Refused calls change nothing**, whatever the container is doing: it is as it was, with
everything it works with. The refusal is that of the first check that fails. And of a list of names
all are added in order, when none of them is blank, registered already or comes twice; otherwise
none is. -/
theorem refused_call_changes_nothing (w : World) (request : Request) :
    (∀ refusal, (w.ask request).1 = .error refusal ↔ w.Declines request refusal) ∧
    (∀ refusal, (w.ask request).1 = .error refusal → (w.ask request).2 = w) ∧
    ∀ names, request = .addQueues names →
      (Settings.Fresh w.registry.queues names → (w.ask request).1 = .ok () ∧
        (w.ask request).2.registry.queues = w.registry.queues ++ names) ∧
      (¬ Settings.Fresh w.registry.queues names →
        (∃ refusal, (w.ask request).1 = .error refusal) ∧ (w.ask request).2 = w) := by
  refine ⟨fun refusal => ask_refused_iff, fun refusal => ask_refused, ?_⟩
  rintro names rfl
  refine ⟨addQueues_queues, fun stale => ?_⟩
  obtain ⟨refusal, fault⟩ : ∃ refusal, Settings.nameFault? w.registry.queues names = some refusal :=
    Option.ne_none_iff_exists'.mp fun none => stale (Settings.nameFault?_eq_none_iff.mp none)
  obtain ⟨before, name, after, rfl, fresh, unfit⟩ := Settings.nameFault?_eq_some_iff.mp fault
  have refused : (w.ask (.addQueues (before ++ name :: after))).1 = .error refusal :=
    ask_refused_iff.mpr (.name fresh unfit)
  exact ⟨⟨refusal, refused⟩, ask_refused refused⟩

end World

end QueueListener
