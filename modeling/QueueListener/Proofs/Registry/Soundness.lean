import QueueListener.Proofs.Recovery.Diagram
import QueueListener.Proofs.Registry.Scaling
import QueueListener.Proofs.Settings
/-!
# What is always true of a registry

**While a registry runs, no queue has more consumers than the upper bound, and a missing queue has
none; a registry that does not run has no consumers at all.** A queue is in order even when it has
too many consumers, as just after the upper bound was lowered: a convergence makes good for that and
for nothing else, because every queue that cannot be consumed is missing and has no consumers.

* `Orderly`, `Staffed`, `Sound` — what holds of a registry, before and after a convergence;
* `converge_staffed`, `tick_staffed` — a convergence makes an orderly registry a staffed one;
* `start_answers`, `start_orderly`, `setBounds_adopts`, `add_adopts`, `Sound.remove` — the calls;
* `Supervisor.Eases` — news that put no queue to sleep.
-/

namespace QueueListener

namespace Supervisor

/-- News that put no queue to sleep: a queue is in the state in which it was, or it is tracked and
can be consumed. -/
def Eases (s s' : Supervisor) : Prop := ∀ queue, s'.state? queue = s.state? queue ∨
  s.state? queue ≠ none ∧ s'.isConsumable queue = true

theorem Eases.refl (s : Supervisor) : s.Eases s := fun _ => .inl rfl

theorem Eases.trans {s s' s'' : Supervisor} (first : s.Eases s') (second : s'.Eases s'') :
    s.Eases s'' := by
  intro queue
  obtain same | ⟨tracked, consumable⟩ := second queue
  · obtain same' | ⟨tracked, consumable⟩ := first queue
    · exact .inl (same.trans same')
    · refine .inr ⟨tracked, ?_⟩
      rwa [isConsumable_eq, same, ← isConsumable_eq]
  · refine .inr ⟨fun untracked => ?_, consumable⟩
    obtain same | ⟨tracked', -⟩ := first queue
    · exact tracked (same.trans untracked)
    · exact tracked' untracked

theorem isConsumable_of_state? {s : Supervisor} {queue : String} {state : QueueState}
    (found : s.state? queue = some state) : s.isConsumable queue = state.isConsumable := by
  rw [isConsumable_eq, found]
  rfl

/-- A consumer that came up puts no queue to sleep. -/
theorem consumeOk_eases (s : Supervisor) (name : String) : s.Eases (s.consumeOk name) := by
  intro queue
  have moves := state?_serve s queue (.consumeOk name)
  by_cases here : name = queue
  · cases state : s.state? queue with
    | none =>
      rw [state] at moves
      exact .inl (moves.trans (if_pos here))
    | some old =>
      rw [state] at moves
      have now : (s.consumeOk name).state? queue =
          some (if old = .recovering then .declared else old) := moves.trans (if_pos here)
      by_cases waits : old = .recovering
      · rw [if_pos waits] at now
        exact .inr ⟨Option.some_ne_none _, isConsumable_of_state? now⟩
      · rw [if_neg waits] at now
        exact .inl now
  · exact .inl (moves.trans (if_neg here))

/-- Looking which queues are due changes neither the round nor a state. -/
theorem takeDue_calm {s s' : Supervisor} {now : Instant} {due : List String}
    (taken : s.takeDue now = .ok (due, s')) :
    s'.round = s.round ∧ ∀ queue, s'.state? queue = s.state? queue := by
  have met : s.meet (.look now) = .ok s' := by
    unfold meet
    dsimp only
    rw [taken]
    rfl
  refine ⟨(takeDue_keeps met).2, fun queue => ?_⟩
  have served : s.serve (.look now) = s' := by
    unfold serve
    dsimp only
    rw [taken]
  rw [← served]
  exact state?_serve s queue (.look now)

/-- The news of a declaration puts no queue to sleep, and none is moved by news that resumes none. -/
theorem declarationResult_eases (s : Supervisor) (name : String) (found : Bool) :
    s.Eases (s.declarationResult name found).2 ∧ ((s.declarationResult name found).1 = false →
      (s.declarationResult name found).2 = s) := by
  refine ⟨?_, ?_⟩
  case refine_2 =>
    unfold declarationResult
    split
    next => nofun
    next => exact fun _ => rfl
  intro queue
  have moves : (s.declarationResult name found).2.state? queue =
      if name = queue ∧ found = true ∧ s.state? queue = some .missing then some .declared
      else s.state? queue := state?_serve s queue (.declared name found)
  by_cases resumed : name = queue ∧ found = true ∧ s.state? queue = some .missing
  · rw [if_pos resumed] at moves
    exact .inr ⟨by rw [resumed.2.2]; exact Option.some_ne_none _, isConsumable_of_state? moves⟩
  · rw [if_neg resumed] at moves
    exact .inl moves

/-- A queue whose failure is retried can be consumed. -/
theorem scheduleRetry_eases (s : Supervisor) (name : String) (error : ClientError)
    (now : Instant) : s.Eases ((s.setState name .recovering).scheduleRetry error now).2 := by
  intro queue
  have state : ((s.setState name .recovering).scheduleRetry error now).2.state? queue =
      if name = queue then (s.state? queue).map fun _ => .recovering else s.state? queue := by
    rw [state?, (scheduleRetry_keeps _ _ _).2]
    exact state?_setState s name queue .recovering
  by_cases here : name = queue
  · cases tracked : s.state? queue with
    | none =>
      rw [if_pos here, tracked] at state
      exact .inl state
    | some old =>
      rw [if_pos here, tracked] at state
      exact .inr ⟨Option.some_ne_none _, isConsumable_of_state? state⟩
  · rw [if_neg here] at state
    exact .inl state

theorem scheduleRetry_ne_pause (s : Supervisor) (error : ClientError) (now : Instant)
    (queue : String) : (s.scheduleRetry error now).1 ≠ .ok (.pause queue) := by
  have advances : ∀ (s : Supervisor) (round : Round),
      (s.advanceRound round error now).1 ≠ .ok (.pause queue) := by
    intro s round
    unfold advanceRound
    dsimp only
    split
    next => nofun
    next => nofun
    next => split <;> nofun
  unfold scheduleRetry
  split
  next =>
    split
    next => exact advances _ _
    next => nofun
  next => exact advances _ _

/-- What a failure leads to: the container is given up, or the queue is paused, or no queue is put
to sleep. -/
theorem onFailure_outcome (s : Supervisor) (name : String) (error : ClientError) (now : Instant) :
    (∃ reason, (s.onFailure name error now).1 = .ok (.fatal reason)) ∨
      (s.onFailure name error now).1 = .ok (.pause name) ∧ (∀ queue,
        (s.onFailure name error now).2.state? queue = if name = queue then
          (s.state? queue).map fun _ => .missing else s.state? queue) ∨
      s.Eases (s.onFailure name error now).2 ∧
        ∀ queue, (s.onFailure name error now).1 ≠ .ok (.pause queue) := by
  have stays : s.Eases s := .refl s
  have retried : s.Eases ((s.setState name .recovering).scheduleRetry error now).2 ∧ ∀ queue,
      ((s.setState name .recovering).scheduleRetry error now).1 ≠ .ok (.pause queue) :=
    ⟨scheduleRetry_eases s name error now, scheduleRetry_ne_pause _ error now⟩
  unfold onFailure
  cases error.kind with
  | missingQueue =>
    dsimp only
    split
    next => exact .inl ⟨_, rfl⟩
    next =>
      unfold pause
      cases now.after s.rules.declarationRetry with
      | error fault => exact .inr (.inr ⟨stays, fun queue => nofun⟩)
      | ok next =>
        exact .inr (.inl ⟨rfl, fun queue => state?_modify s name queue _ fun _ => rfl⟩)
  | authentication =>
    dsimp only
    split
    next => exact .inl ⟨_, rfl⟩
    next => exact .inr (.inr retried)
  | connection => exact .inr (.inr retried)
  | channel | cancelled => exact .inr (.inr ⟨stays, fun queue => nofun⟩)

/-- What tracking queues does to the state of one of them. -/
theorem state?_foldl_track (s : Supervisor) (queue : String) (names : List String) :
    (names.foldl track s).state? queue =
      if queue ∈ names then some ((s.state? queue).getD .declared) else s.state? queue := by
  induction names generalizing s with
  | nil => rfl
  | cons name names ih =>
    have first : (s.track name).state? queue =
        if name = queue then some ((s.state? queue).getD .declared) else s.state? queue :=
      state?_serve s queue (.track name)
    rw [List.foldl_cons, ih, first]
    by_cases here : name = queue
    · rw [if_pos here, if_pos (List.mem_cons.mpr (.inl here.symm)), Option.getD_some, ite_self]
    · rw [if_neg here]
      by_cases later : queue ∈ names
      · rw [if_pos later, if_pos (List.mem_cons_of_mem _ later)]
      · rw [if_neg later, if_neg fun member =>
          (List.mem_cons.mp member).elim (fun same => here same.symm) later]

theorem foldl_track_round (s : Supervisor) (names : List String) :
    (names.foldl track s).round = s.round := by
  induction names generalizing s with
  | nil => rfl
  | cons name names ih =>
    rw [List.foldl_cons, ih]
    unfold track
    split <;> rfl

end Supervisor

namespace Registry

variable {r r' : Registry}

/-! ### What holds of a registry -/

/-- A registry that can converge: its bounds are a range, its queues are distinct, they are what
the supervisor tracks, none of them is given up, and none that is missing has consumers. -/
structure Orderly (r : Registry) : Prop where
  bounds : r.bounds.fault? = none
  distinct : r.queues.Nodup
  known : ∀ queue, queue ∉ r.queues → r.supervisor.state? queue = none
  tracked : ∀ queue ∈ r.queues, ∃ state,
    r.supervisor.state? queue = some state ∧ state ≠ .fatal
  served : ∀ queue, queue ∉ r.queues → r.consumersOf queue = []
  missing : ∀ queue, r.supervisor.state? queue = some .missing → r.consumersOf queue = []

/-- An orderly registry in which no queue has too many consumers. -/
structure Staffed (r : Registry) : Prop extends Orderly r where
  most : ∀ queue, (r.consumersOf queue).length ≤ r.bounds.most

/-- What is true of a registry at any time. -/
structure Sound (r : Registry) : Prop where
  running : r.state = .running → r.Staffed
  idle : r.state ≠ .running → ∀ queue, r.consumersOf queue = []

/-- A queue that cannot be consumed has no consumers. -/
theorem Orderly.asleep (orderly : r.Orderly) {queue : String}
    (asleep : r.supervisor.isConsumable queue = false) : r.consumersOf queue = [] := by
  by_cases member : queue ∈ r.queues
  · obtain ⟨state, found, notFatal⟩ := orderly.tracked queue member
    rw [Supervisor.isConsumable_of_state? found] at asleep
    cases state with
    | declared | recovering => cases asleep
    | missing => exact orderly.missing queue found
    | fatal => exact absurd rfl notFatal
  · exact orderly.served queue member

/-- What is in order stays so when only consumers change, and none comes to a queue that has no
business with them. -/
theorem Steady.orderly (steady : r.Steady r') (orderly : r.Orderly)
    (stays : ∀ queue, queue ∉ r.queues ∨ r.supervisor.state? queue = some .missing →
      r'.consumersOf queue = []) : r'.Orderly where
  bounds := steady.bounds ▸ orderly.bounds
  distinct := steady.queues ▸ orderly.distinct
  known queue absent := by
    rw [steady.state?]
    exact orderly.known queue (steady.queues ▸ absent)
  tracked queue member := by
    rw [steady.state?]
    exact orderly.tracked queue (steady.queues ▸ member)
  served queue absent := stays queue (.inl (steady.queues ▸ absent))
  missing queue gone := stays queue (.inr (steady.state? queue ▸ gone))

/-! ### Convergence and looks -/

/-- **A convergence makes an orderly registry a staffed one.** -/
theorem converge_staffed (running : r.state = .running) (orderly : r.Orderly) (now : Instant) :
    (r.converge now).1.Staffed := by
  have sound := (Bounds.range_of_faultless orderly.bounds).2
  have steady := converge_steady running sound orderly.distinct now
  have asleep : ∀ queue, queue ∉ r.queues ∨ r.supervisor.isConsumable queue = false →
      (r.converge now).1.consumersOf queue = [] := fun queue asleep =>
    (converge_keeps running sound orderly.distinct now asleep).trans
      (asleep.elim (orderly.served queue) orderly.asleep)
  refine ⟨steady.orderly orderly fun queue quiet =>
    asleep queue (quiet.imp_right Supervisor.isConsumable_of_state?), fun queue => ?_⟩
  rw [steady.bounds]
  by_cases serves : queue ∈ r.queues ∧ r.supervisor.isConsumable queue = true
  · exact (converge_within running sound orderly.distinct now serves.1 serves.2).1
  · rw [asleep queue (not_and_or.mp serves |>.imp_right eq_false_of_ne_true)]
    exact Nat.zero_le _

/-- A convergence leaves a registry sound if it was in order. -/
theorem converge_sound (orderly : r.state = .running → r.Orderly)
    (idle : r.state ≠ .running → ∀ queue, r.consumersOf queue = []) (now : Instant) :
    (r.converge now).1.Sound := by
  by_cases running : r.state = .running
  · have order := orderly running
    have sound := (Bounds.range_of_faultless order.bounds).2
    have steady := converge_steady running sound order.distinct now
    exact ⟨fun _ => converge_staffed running order now,
      fun stopped => absurd (steady.state.trans running) stopped⟩
  · rw [converge_of_not_running running]
    exact ⟨fun runs => absurd runs running, idle⟩

/-- A look at all queues leaves a staffed registry staffed. -/
theorem scaled_staffed (staffed : r.Staffed) (sample : Nat → Sample) (now : Instant) :
    (r.scaled sample now).1.Staffed := by
  have looks := scaled_looks staffed.distinct sample now
  have steady := looks.alike.toSteady
  refine ⟨steady.orderly staffed.toOrderly fun queue quiet => ?_, fun queue => ?_⟩
  · have undeclared : queue ∉ r.queues ∨ r.supervisor.state? queue ≠ some .declared :=
      quiet.imp_right fun gone => by rw [gone]; decide
    rw [looks.others queue undeclared]
    exact quiet.elim (staffed.served queue) (staffed.missing queue)
  · rw [steady.bounds]
    exact (looks.counts queue).most.trans (max_le (staffed.most queue) (Nat.le_refl _))

theorem tick_steady (running : r.state = .running) (staffed : r.Staffed) (sample : Nat → Sample)
    (now : Instant) : r.Steady (r.tick sample now).1 := by
  rw [tick_of_running running]
  have steady := (scaled_looks staffed.distinct sample now).alike.toSteady
  have scaled := scaled_staffed staffed sample now
  exact steady.trans (converge_steady (steady.state.trans running)
    (Bounds.range_of_faultless scaled.bounds).2 scaled.distinct now)

/-- A tick leaves a staffed registry staffed. -/
theorem tick_staffed (running : r.state = .running) (staffed : r.Staffed) (sample : Nat → Sample)
    (now : Instant) : (r.tick sample now).1.Staffed := by
  rw [tick_of_running running]
  refine converge_staffed ?_ (scaled_staffed staffed sample now).toOrderly now
  exact (scaled_looks staffed.distinct sample now).alike.state.trans running

/-! ### Reports -/

/-- A registry stays staffed when consumers leave. -/
theorem Staffed.fewer (staffed : r.Staffed) (steady : r.Steady r')
    (fewer : ∀ queue, (r'.consumersOf queue).length ≤ (r.consumersOf queue).length) :
    r'.Staffed := by
  refine ⟨steady.orderly staffed.toOrderly fun queue quiet => ?_, fun queue => ?_⟩
  · have none : r.consumersOf queue = [] :=
      quiet.elim (staffed.served queue) (staffed.missing queue)
    have count := fewer queue
    rw [none] at count
    exact List.eq_nil_of_length_eq_zero (Nat.le_zero.mp count)
  · rw [steady.bounds]
    exact (fewer queue).trans (staffed.most queue)

theorem Staffed.removeConsumer (staffed : r.Staffed) (queue : String) (id : Nat) :
    (r.removeConsumer queue id).Staffed := by
  refine staffed.fewer ⟨rfl, rfl, rfl, rfl, rfl⟩ fun other => ?_
  rw [consumersOf_removeConsumer]
  split
  next here => exact here ▸ List.length_erase_le
  next => exact Nat.le_refl _

theorem Staffed.dropConsumers (staffed : r.Staffed) (queue : String) :
    (r.dropConsumers queue).Staffed := by
  refine staffed.fewer ⟨rfl, rfl, rfl, rfl, rfl⟩ fun other => ?_
  rw [consumersOf_dropConsumers]
  split
  next => exact Nat.zero_le _
  next => exact Nat.le_refl _

theorem Sound.removeConsumer (sound : r.Sound) (queue : String) (id : Nat) :
    (r.removeConsumer queue id).Sound where
  running running := (sound.running running).removeConsumer queue id
  idle stopped other := by
    rw [consumersOf_removeConsumer, sound.idle stopped, sound.idle stopped]
    exact ite_self []

/-- A registry stays staffed by news that put no queue to sleep. -/
theorem Staffed.eased (staffed : r.Staffed) {s : Supervisor} (eases : r.supervisor.Eases s) :
    ({ r with supervisor := s } : Registry).Staffed where
  bounds := staffed.bounds
  distinct := staffed.distinct
  known queue absent := by
    obtain same | ⟨tracked, -⟩ := eases queue
    · exact same.trans (staffed.known queue absent)
    · exact absurd (staffed.known queue absent) tracked
  tracked queue member := by
    obtain same | ⟨-, consumable⟩ := eases queue
    · rw [same]
      exact staffed.tracked queue member
    · rw [Supervisor.isConsumable_eq, Option.any_eq_true] at consumable
      obtain ⟨state, found, consumable⟩ := consumable
      refine ⟨state, found, fun fatal => ?_⟩
      rw [fatal] at consumable
      cases consumable
  served := staffed.served
  missing queue gone := by
    obtain same | ⟨-, consumable⟩ := eases queue
    · exact staffed.missing queue (same ▸ gone)
    · rw [Supervisor.isConsumable_of_state? gone] at consumable
      cases consumable
  most := staffed.most

/-- A registry stays staffed when a queue goes missing that has no consumers. -/
theorem Staffed.paused (staffed : r.Staffed) {s : Supervisor} {queue : String}
    (empty : r.consumersOf queue = [])
    (gone : ∀ other, s.state? other = if queue = other then
      (r.supervisor.state? other).map fun _ => .missing else r.supervisor.state? other) :
    ({ r with supervisor := s } : Registry).Staffed where
  bounds := staffed.bounds
  distinct := staffed.distinct
  known other absent := by
    have unknown := staffed.known other absent
    rw [gone, unknown]
    exact ite_self none
  tracked other member := by
    obtain ⟨state, found, notFatal⟩ := staffed.tracked other member
    rw [gone, found]
    split
    next => exact ⟨.missing, rfl, by decide⟩
    next => exact ⟨state, rfl, notFatal⟩
  served := staffed.served
  missing other missing := by
    by_cases here : queue = other
    · exact here ▸ empty
    · rw [gone, if_neg here] at missing
      exact staffed.missing other missing
  most := staffed.most

/-- What is left to do after a failed consumer was taken out: nothing, except that a queue that went
missing gives up its consumers, and that a container that was given up stops. -/
theorem Sound.consumerFailed (sound : r.Sound) (queue : String) (id : Nat) (error : ClientError)
    (now : Instant) :
    (∃ reason, (r.consumerFailed queue id error now).1 = some (.ok (.fatal reason)) ∧
      (r.consumerFailed queue id error now).2.state = .running) ∨
    (r.consumerFailed queue id error now).1 = some (.ok (.pause queue)) ∧
      ((r.consumerFailed queue id error now).2.dropConsumers queue).Sound ∨
    (r.consumerFailed queue id error now).2.Sound ∧
      ∀ name, (r.consumerFailed queue id error now).1 ≠ some (.ok (.pause name)) := by
  have gone := sound.removeConsumer queue id
  unfold Registry.consumerFailed
  dsimp only
  split
  next serves =>
    have running : r.state = .running := by
      rw [Bool.and_eq_true, decide_eq_true_eq] at serves
      exact serves.1
    have staffed := gone.running running
    obtain ⟨reason, fatal⟩ | ⟨pauses, missing⟩ | ⟨eases, otherwise⟩ :=
      (r.removeConsumer queue id).supervisor.onFailure_outcome queue error now
    · exact .inl ⟨reason, congrArg some fatal, running⟩
    · refine .inr (.inl ⟨congrArg some pauses, fun _ => ?_, fun stopped => absurd running stopped⟩)
      have empty : ((r.removeConsumer queue id).dropConsumers queue).consumersOf queue = [] :=
        (consumersOf_dropConsumers _ queue queue).trans (if_pos rfl)
      exact (staffed.dropConsumers queue).paused empty missing
    · exact .inr (.inr ⟨⟨fun _ => staffed.eased eases, fun stopped => absurd running stopped⟩,
        fun name pauses => otherwise name (Option.some.inj pauses)⟩)
  next => exact .inr (.inr ⟨gone, fun name => nofun⟩)

/-! ### Calls -/

/-- What a start answers. -/
inductive Starting (r : Registry) (hasManager : Bool) : Except Refusal (Option Registry) → Prop
  | runs (running : r.state = .running) : Starting r hasManager (.ok none)
  | stops (stopping : r.state = .stopping) :
      Starting r hasManager (.error (.illegalState .stopping "start"))
  | unfit {refusal : Refusal} (halted : r.state = .created ∨ r.state = .stopped)
      (fault : r.startFault? hasManager = some refusal) : Starting r hasManager (.error refusal)
  | begins (halted : r.state = .created ∨ r.state = .stopped)
      (faultless : r.startFault? hasManager = none) : Starting r hasManager (.ok (some r.started))

/-- **A start has one of four answers.** -/
theorem start_answers (r : Registry) (hasManager : Bool) :
    r.Starting hasManager (r.start hasManager) := by
  unfold start
  split
  next running => exact .runs running
  next stopping => exact .stops stopping
  next created =>
    split
    next fault => exact .unfit (.inl created) fault
    next faultless => exact .begins (.inl created) faultless
  next stopped =>
    split
    next fault => exact .unfit (.inr stopped) fault
    next faultless => exact .begins (.inr stopped) faultless

/-- A container is started that was created or has stopped. -/
theorem start_begins {hasManager : Bool} (starts : r.start hasManager = .ok (some r')) :
    (r.state = .created ∨ r.state = .stopped) ∧ r' = r.started := by
  have answers := r.start_answers hasManager
  rw [starts] at answers
  cases answers with
  | begins halted => exact ⟨halted, rfl⟩

/-- What starts had no fault. -/
theorem start_faultless {hasManager : Bool} (starts : r.start hasManager = .ok (some r')) :
    ({ r.settings with queues := r.queues, bounds := r.bounds } : Settings).fault? = none := by
  have answers := r.start_answers hasManager
  rw [starts] at answers
  cases answers with
  | begins _ faultless =>
    unfold startFault? at faultless
    split at faultless
    next => cases faultless
    next fine => exact fine

/-- A registry that has started is orderly, and nothing keeps it from starting consumers. -/
theorem start_orderly (sound : r.Sound) {hasManager : Bool}
    (started : r.start hasManager = .ok (some r')) :
    r'.state = .running ∧ r'.Orderly ∧ r'.supervisor.round = none := by
  obtain ⟨bounds, -, -, fresh⟩ := Settings.fault?_eq_none_iff.mp (start_faultless started)
  obtain ⟨halted, rfl⟩ := start_begins started
  have stopped : r.state ≠ .running := by
    obtain created | stopped := halted <;> simp [*]
  have declared : ∀ queue, r.started.supervisor.state? queue =
      if queue ∈ r.queues then some .declared else none := fun queue =>
    Supervisor.state?_foldl_track _ queue r.queues
  refine ⟨rfl, {
    bounds
    distinct := fresh.distinct
    known := fun queue absent => (declared queue).trans (if_neg absent)
    tracked := fun queue member => ⟨.declared, (declared queue).trans (if_pos member), by decide⟩
    served := fun queue _ => sound.idle stopped queue
    missing := fun queue _ => sound.idle stopped queue }, ?_⟩
  exact Supervisor.foldl_track_round _ r.queues

/-- Only a container that runs already has nothing to start. -/
theorem running_of_start_none {hasManager : Bool} (started : r.start hasManager = .ok none) :
    r.state = .running := by
  have answers := r.start_answers hasManager
  rw [started] at answers
  cases answers with
  | runs running => exact running

/-- What a call that changes the registry leaves to a convergence: a registry that is in order if it
was, with the consumers and the round that there were. -/
structure Adopts (r r' : Registry) : Prop where
  state : r'.state = r.state
  orderly : r.state = .running → r.Orderly → r'.Orderly
  consumers : r'.consumers = r.consumers
  round : r'.supervisor.round = r.supervisor.round

/-- A call and the convergence after it leave a sound registry sound. -/
theorem Adopts.converge_sound (adopts : r.Adopts r') (sound : r.Sound) (now : Instant) :
    (r'.converge now).1.Sound := by
  refine Registry.converge_sound (fun running => ?_) (fun stopped queue => ?_) now
  · have running' := adopts.state ▸ running
    exact adopts.orderly running' (sound.running running').toOrderly
  · unfold consumersOf
    rw [adopts.consumers]
    exact sound.idle (adopts.state ▸ stopped) queue

/-- Bounds that are accepted are in order. -/
theorem setBounds_adopts {bounds : Bounds} (accepted : r.setBounds bounds = .ok r') :
    r.Adopts r' := by
  unfold setBounds at accepted
  split at accepted
  next => cases accepted
  next faultless =>
    cases accepted
    exact ⟨rfl, fun _ orderly => ⟨faultless, orderly.distinct, orderly.known, orderly.tracked,
      orderly.served, orderly.missing⟩, rfl, rfl⟩

/-- Queues that are added are declared. -/
theorem Orderly.extended (orderly : r.Orderly) {names : List String}
    (faultless : Settings.nameFault? r.queues names = none) :
    ({ r with
      queues := r.queues ++ names
      supervisor := names.foldl Supervisor.track r.supervisor } : Registry).Orderly := by
  obtain ⟨-, distinct, new⟩ := Settings.nameFault?_eq_none_iff.mp faultless
  have states := fun queue => Supervisor.state?_foldl_track r.supervisor queue names
  exact {
    bounds := orderly.bounds
    distinct := List.nodup_append.mpr ⟨orderly.distinct, distinct,
      fun old known name member same => new name member (same ▸ known)⟩
    known := fun queue absent => by
      rw [states, if_neg fun member => absent (List.mem_append_right _ member)]
      exact orderly.known queue fun member => absent (List.mem_append_left _ member)
    tracked := fun queue member => by
      rw [states]
      by_cases fresh : queue ∈ names
      · rw [if_pos fresh, orderly.known queue (new queue fresh)]
        exact ⟨.declared, rfl, by decide⟩
      · rw [if_neg fresh]
        exact orderly.tracked queue ((List.mem_append.mp member).resolve_right fresh)
    served := fun queue absent =>
      orderly.served queue fun member => absent (List.mem_append_left _ member)
    missing := fun queue gone => by
      by_cases fresh : queue ∈ names
      · exact orderly.served queue (new queue fresh)
      · rw [states, if_neg fresh] at gone
        exact orderly.missing queue gone }

theorem add_adopts {names : List String} (added : r.add names = .ok r') : r.Adopts r' := by
  unfold add at added
  split at added
  next => cases added
  next faultless =>
    cases added
    refine ⟨rfl, fun running orderly => ?_, rfl, ?_⟩
    · rw [if_pos running]
      exact orderly.extended faultless
    · dsimp only
      split
      next => exact Supervisor.foldl_track_round _ names
      next => rfl

/-- A registry stays staffed when a queue is forgotten that has no consumers. -/
theorem Staffed.forgotten (staffed : r.Staffed) {name : String} (empty : r.consumersOf name = []) :
    ({ r with
      queues := r.queues.erase name
      supervisor := r.supervisor.forget name
      scaling := r.scaling.forget name } : Registry).Staffed := by
  have states : ∀ queue, (r.supervisor.forget name).state? queue =
      if name = queue then none else r.supervisor.state? queue := fun queue =>
    Supervisor.state?_serve r.supervisor queue (.forget name)
  have left : ∀ queue, queue ∈ r.queues.erase name ↔ queue ≠ name ∧ queue ∈ r.queues :=
    fun queue => staffed.distinct.mem_erase_iff
  exact {
    bounds := staffed.bounds
    distinct := staffed.distinct.erase name
    known := fun queue absent => by
      refine (states queue).trans ?_
      split
      next => rfl
      next elsewhere =>
        exact staffed.known queue fun member =>
          absent ((left queue).mpr ⟨Ne.symm elsewhere, member⟩)
    tracked := fun queue member => by
      obtain ⟨elsewhere, member⟩ := (left queue).mp member
      rw [states, if_neg (Ne.symm elsewhere)]
      exact staffed.tracked queue member
    served := fun queue absent => by
      by_cases here : queue = name
      · exact here ▸ empty
      · exact staffed.served queue fun member => absent ((left queue).mpr ⟨here, member⟩)
    missing := fun queue missing => by
      rw [states] at missing
      split at missing
      next => cases missing
      next => exact staffed.missing queue missing
    most := staffed.most }

/-- One removal leaves a staffed registry staffed. -/
theorem removeQueue_staffed {acc : Registry × List String × List Nat} (staffed : acc.1.Staffed)
    (name : String) : (removeQueue acc name).1.Staffed := by
  unfold removeQueue
  dsimp only
  split
  next =>
    have empty : (acc.1.dropConsumers name).consumersOf name = [] :=
      (consumersOf_dropConsumers acc.1 name name).trans (if_pos rfl)
    exact (staffed.dropConsumers name).forgotten empty
  next => exact staffed

/-- A removal does not change the state of the container. -/
theorem removeQueue_state (acc : Registry × List String × List Nat) (name : String) :
    (removeQueue acc name).1.state = acc.1.state := by
  unfold removeQueue
  dsimp only
  split <;> rfl

/-- Removals bring no consumers. -/
theorem removeQueue_empty {acc : Registry × List String × List Nat}
    (empty : ∀ queue, acc.1.consumersOf queue = []) (name queue : String) :
    (removeQueue acc name).1.consumersOf queue = [] := by
  unfold removeQueue
  dsimp only
  split
  next =>
    rw [consumersOf_dropConsumers]
    split
    next => rfl
    next => exact empty queue
  next => exact empty queue

/-- **Removals leave a sound registry sound.** -/
theorem Sound.remove (sound : r.Sound) (names : List String) :
    (r.remove names).1.state = r.state ∧ (r.remove names).1.Sound := by
  have steps : ∀ acc : Registry × List String × List Nat, acc.1.Sound →
      (names.foldl removeQueue acc).1.state = acc.1.state ∧
        (names.foldl removeQueue acc).1.Sound := by
    induction names with
    | nil => exact fun acc sound => ⟨rfl, sound⟩
    | cons name names ih =>
      intro acc sound
      have state := removeQueue_state acc name
      obtain ⟨state', sound'⟩ := ih (removeQueue acc name) {
        running := fun running => removeQueue_staffed (sound.running (state ▸ running)) name
        idle := fun stopped => removeQueue_empty (sound.idle (state ▸ stopped)) name }
      exact ⟨state'.trans state, sound'⟩
  exact steps (r, [], []) sound

/-- A stop begins with an empty registry. -/
theorem beginStop_sound {ids : List Nat} (begun : r.beginStop = some (ids, r')) : r'.Sound := by
  unfold beginStop at begun
  split at begun
  next =>
    cases begun
    exact ⟨nofun, fun _ _ => rfl⟩
  next => cases begun

/-- A stop ends with an empty registry. -/
theorem Sound.finishStop (sound : r.Sound) (stopping : r.state = .stopping) (fatal : Bool) :
    (r.finishStop fatal).Sound where
  running := nofun
  idle _ := sound.idle (by rw [stopping]; decide)

end Registry

end QueueListener
