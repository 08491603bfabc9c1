import Mathlib.Tactic.ByContra
import QueueListener.Container.Registry
/-!
# Rounds of recovery

**A launched attempt blocks all restarts until it lands**, and it does not land by a failure of the
queue, the channel or the consumer: after such a report nothing can be started any more.

* `Incident` — what the supervisor meets while it watches queues; `Incident.Lands` — what ends an
  attempt that is under way;
* `Supervisor.meet`, `Supervisor.run` — one incident, and runs of incidents;
* `Adrift` — an attempt was launched and has not landed since; `run_inFlight_iff` — it is under way
  exactly then;
* `eventually_free_iff` — restarts are free from some instant on exactly when no attempt is under
  way;
* `run_report_frees_iff` — which reports leave restarts free from some instant on.
-/

namespace QueueListener

/-- What the supervisor meets while it watches queues. -/
inductive Incident
  /-- A consumer came up. -/
  | consumeOk (queue : String)
  | failure (queue : String) (error : ClientError) (now : Instant)
  /-- The container launches an attempt if one is due. -/
  | launch (now : Instant)
  /-- The container gives the round up: there is nothing to restart. -/
  | abandon
  /-- It is asked which missing queues are due. -/
  | look (now : Instant)
  | declared (queue : String) (found : Bool)
  deriving DecidableEq, Repr

/-- Whether an attempt that is under way ends with the incident: a consumer came up, or a failure
concerns the broker as a whole. -/
def Incident.Lands (rules : RecoveryRules) : Incident → Prop
  | .consumeOk _ => True
  | .failure _ error _ =>
    error.kind = .connection ∨ error.kind = .authentication ∧ rules.authenticationFatal = false
  | .abandon => True
  | _ => False

namespace Supervisor

/-- A supervisor that begins to watch queues. -/
def watching (rules : RecoveryRules) (queues : List String) : Supervisor :=
  queues.foldl track (.new rules)

/-- Meets an incident. -/
def meet (s : Supervisor) : Incident → Except TimeFault Supervisor
  | .consumeOk queue => .ok (s.consumeOk queue)
  | .failure queue error now =>
    match s.onFailure queue error now with
    | (.ok _, s) => .ok s
    | (.error fault, _) => .error fault
  | .launch now => .ok (if s.attemptDue now then s.beginAttempt else s)
  | .abandon => .ok s.abandonRound
  | .look now => (s.takeDue now).map (·.2)
  | .declared queue found => .ok (s.declarationResult queue found).2

/-- Meets one incident after the other. -/
def run (s : Supervisor) : List Incident → Except TimeFault Supervisor
  | [] => .ok s
  | incident :: rest =>
    match s.meet incident with
    | .ok next => run next rest
    | .error fault => .error fault

/-- Whether an attempt is under way. -/
def inFlight (s : Supervisor) : Bool := (s.round.map (·.inFlight)).getD false

/-- A run of incidents launches an attempt that has not landed since. -/
def Adrift (s : Supervisor) (incidents : List Incident) : Prop :=
  ∃ before now after middle, incidents = before ++ .launch now :: after ∧
    s.run before = .ok middle ∧ middle.attemptDue now = true ∧
    ∀ incident ∈ after, ¬ incident.Lands s.rules

variable {s s' : Supervisor}

/-- A run that succeeds begins with an incident that succeeds. -/
theorem run_cons_inv {incident : Incident} {rest : List Incident}
    (ran : s.run (incident :: rest) = .ok s') :
    ∃ next, s.meet incident = .ok next ∧ next.run rest = .ok s' := by
  simp only [run] at ran
  cases met : s.meet incident with
  | error fault =>
    rw [met] at ran
    cases ran
  | ok next =>
    rw [met] at ran
    exact ⟨next, rfl, ran⟩

theorem run_cons {incident : Incident} (met : s.meet incident = .ok s') (rest : List Incident) :
    s.run (incident :: rest) = s'.run rest := by
  simp only [run]
  rw [met]

/-! ### Attempts under way -/

theorem beginAttempt_inFlight {now : Instant} (due : s.attemptDue now = true) :
    s.beginAttempt.inFlight = true := by
  unfold attemptDue at due
  unfold inFlight beginAttempt
  split at due
  next round found => rw [found]; rfl
  next => cases due

/-- After the next delay of a round no attempt is under way. -/
theorem advanceRound_inFlight (s : Supervisor) (round : Round) (error : ClientError)
    (now : Instant) : (s.advanceRound round error now).2.inFlight = false := by
  unfold advanceRound
  dsimp only
  split
  next => rfl
  next => rfl
  next =>
    split
    next => rfl
    next => rfl

/-- A failure that is scheduled for a retry leaves no attempt under way. -/
theorem scheduleRetry_inFlight (s : Supervisor) (error : ClientError) (now : Instant) :
    (s.scheduleRetry error now).2.inFlight = false := by
  unfold scheduleRetry
  split
  next round found =>
    split
    next => exact advanceRound_inFlight _ _ _ _
    next idle =>
      unfold inFlight
      rw [found]
      exact Bool.eq_false_iff.mpr idle
  next => exact advanceRound_inFlight _ _ _ _

/-- **An attempt survives the failures that do not land it.** -/
theorem onFailure_inFlight (s : Supervisor) (queue : String) (error : ClientError)
    (now : Instant) : (s.onFailure queue error now).2.inFlight = true ↔
      s.inFlight = true ∧ ¬ (Incident.failure queue error now).Lands s.rules := by
  have lands : ∀ {after : Supervisor}, after.inFlight = false →
      (Incident.failure queue error now).Lands s.rules → (after.inFlight = true ↔
        s.inFlight = true ∧ ¬ (Incident.failure queue error now).Lands s.rules) := by
    intro after free lands
    rw [free]
    exact ⟨fun absurd => Bool.noConfusion absurd, fun ⟨_, stays⟩ => absurd lands stays⟩
  have stays : ∀ {after : Supervisor}, after.round = s.round →
      ¬ (Incident.failure queue error now).Lands s.rules → (after.inFlight = true ↔
        s.inFlight = true ∧ ¬ (Incident.failure queue error now).Lands s.rules) := by
    intro after same stays
    rw [inFlight, same]
    exact ⟨fun flies => ⟨flies, stays⟩, fun ⟨flies, _⟩ => flies⟩
  unfold onFailure
  split
  next kind =>
    have missing : ¬ (Incident.failure queue error now).Lands s.rules := by
      simp [Incident.Lands, kind]
    split
    next => exact stays rfl missing
    next =>
      refine stays ?_ missing
      unfold pause
      split <;> rfl
  next kind =>
    split
    next fatal => exact stays rfl (by simp [Incident.Lands, kind, fatal])
    next mild =>
      exact lands (scheduleRetry_inFlight _ _ _)
        (.inr ⟨kind, Bool.eq_false_iff.mpr mild⟩)
  next kind => exact lands (scheduleRetry_inFlight _ _ _) (.inl kind)
  next kind => exact stays rfl (by simp [Incident.Lands, kind])
  next kind => exact stays rfl (by simp [Incident.Lands, kind])

/-! ### What stays the same -/

/-- What happens to the round concerns neither the rules nor the queues. -/
theorem advanceRound_keeps (s : Supervisor) (round : Round) (error : ClientError) (now : Instant) :
    (s.advanceRound round error now).2.rules = s.rules ∧
      (s.advanceRound round error now).2.queues = s.queues := by
  unfold advanceRound
  dsimp only
  split
  next => exact ⟨rfl, rfl⟩
  next => exact ⟨rfl, rfl⟩
  next => split <;> exact ⟨rfl, rfl⟩

theorem scheduleRetry_keeps (s : Supervisor) (error : ClientError) (now : Instant) :
    (s.scheduleRetry error now).2.rules = s.rules ∧
      (s.scheduleRetry error now).2.queues = s.queues := by
  unfold scheduleRetry
  split
  next =>
    split
    next => exact advanceRound_keeps _ _ _ _
    next => exact ⟨rfl, rfl⟩
  next => exact advanceRound_keeps _ _ _ _

theorem onFailure_rules (s : Supervisor) (queue : String) (error : ClientError) (now : Instant) :
    (s.onFailure queue error now).2.rules = s.rules := by
  unfold onFailure
  split
  next =>
    split
    next => rfl
    next =>
      unfold pause
      split <;> rfl
  next =>
    split
    next => rfl
    next => exact (scheduleRetry_keeps _ _ _).1
  next => exact (scheduleRetry_keeps _ _ _).1
  next => rfl
  next => rfl

theorem takeDue_keeps {now : Instant} (met : s.meet (.look now) = .ok s') :
    s'.rules = s.rules ∧ s'.round = s.round := by
  unfold meet takeDue at met
  dsimp only at met
  split at met
  next =>
    cases met
    exact ⟨rfl, rfl⟩
  next =>
    split at met
    next => cases met
    next =>
      cases met
      exact ⟨rfl, rfl⟩

/-- News about a queue change nothing but its state. -/
theorem declarationResult_keeps (s : Supervisor) (queue : String) (found : Bool) :
    (s.declarationResult queue found).2.rules = s.rules ∧
      (s.declarationResult queue found).2.round = s.round := by
  unfold declarationResult
  split
  next => exact ⟨rfl, rfl⟩
  next => exact ⟨rfl, rfl⟩

/-- A failure that is met was judged. -/
theorem meet_failure {queue : String} {error : ClientError} {now : Instant}
    (met : s.meet (.failure queue error now) = .ok s') :
    s' = (s.onFailure queue error now).2 := by
  unfold meet at met
  dsimp only at met
  split at met
  next after answered =>
    cases met
    rw [answered]
  next => cases met

/-- Nothing that happens changes the rules. -/
theorem meet_rules {incident : Incident} (met : s.meet incident = .ok s') : s'.rules = s.rules := by
  cases incident with
  | consumeOk queue =>
    cases met
    rfl
  | failure queue error now =>
    rw [meet_failure met]
    exact onFailure_rules s queue error now
  | launch now =>
    cases met
    split <;> rfl
  | abandon =>
    cases met
    rfl
  | look now => exact (takeDue_keeps met).1
  | declared queue found =>
    cases met
    exact (declarationResult_keeps s queue found).1

/-! ### Runs -/

theorem run_rules {incidents : List Incident} (ran : s.run incidents = .ok s') :
    s'.rules = s.rules := by
  induction incidents generalizing s with
  | nil =>
    cases ran
    rfl
  | cons incident rest ih =>
    obtain ⟨next, met, ran'⟩ := run_cons_inv ran
    exact (ih ran').trans (meet_rules met)

/-- **One incident puts an attempt under way, or lands it, or leaves it as it is.** -/
theorem meet_inFlight_iff {incident : Incident} (met : s.meet incident = .ok s') :
    s'.inFlight = true ↔ (∃ now, incident = .launch now ∧ s.attemptDue now = true) ∨
      s.inFlight = true ∧ ¬ incident.Lands s.rules := by
  have quiet : ∀ {incident : Incident}, (∀ now, incident ≠ .launch now) →
      (s'.inFlight = true ↔ s.inFlight = true ∧ ¬ incident.Lands s.rules) →
      (s'.inFlight = true ↔ (∃ now, incident = .launch now ∧ s.attemptDue now = true) ∨
        s.inFlight = true ∧ ¬ incident.Lands s.rules) := by
    intro incident other same
    rw [same]
    exact (or_iff_right fun ⟨now, launched, _⟩ => other now launched).symm
  have keeps : ∀ {incident : Incident}, s'.round = s.round → ¬ incident.Lands s.rules →
      (s'.inFlight = true ↔ s.inFlight = true ∧ ¬ incident.Lands s.rules) := by
    intro incident same stays
    rw [inFlight, same]
    exact (and_iff_left stays).symm
  cases incident with
  | consumeOk queue =>
    cases met
    exact quiet nofun ⟨fun flies => Bool.noConfusion flies, fun ⟨_, stays⟩ => absurd trivial stays⟩
  | failure queue error now =>
    rw [meet_failure met] at quiet ⊢
    exact quiet nofun (s.onFailure_inFlight queue error now)
  | launch now =>
    cases met
    split
    next due =>
      rw [beginAttempt_inFlight due]
      exact ⟨fun _ => .inl ⟨now, rfl, due⟩, fun _ => rfl⟩
    next early =>
      refine ⟨fun flies => .inr ⟨flies, id⟩, ?_⟩
      rintro (⟨_, same, due⟩ | ⟨flies, -⟩)
      · cases same
        exact absurd due early
      · exact flies
  | abandon =>
    cases met
    exact quiet nofun ⟨fun flies => Bool.noConfusion flies, fun ⟨_, stays⟩ => absurd trivial stays⟩
  | look now => exact quiet nofun (keeps (takeDue_keeps met).2 id)
  | declared queue found =>
    cases met
    exact quiet nofun (keeps (declarationResult_keeps s queue found).2 id)

/-- **An attempt is under way exactly when a run has launched it and it has not landed.** -/
theorem run_inFlight_iff {incidents : List Incident} (ran : s.run incidents = .ok s') :
    s'.inFlight = true ↔ s.Adrift incidents ∨
      s.inFlight = true ∧ ∀ incident ∈ incidents, ¬ incident.Lands s.rules := by
  induction incidents generalizing s with
  | nil =>
    cases ran
    refine ⟨fun flies => .inr ⟨flies, fun _ member => absurd member List.not_mem_nil⟩, ?_⟩
    rintro (⟨before, now, after, middle, split, -⟩ | ⟨flies, -⟩)
    · exact absurd split.symm (List.append_ne_nil_of_right_ne_nil _ (List.cons_ne_nil _ _))
    · exact flies
  | cons incident rest ih =>
    obtain ⟨next, met, ran'⟩ := run_cons_inv ran
    rw [ih ran', meet_inFlight_iff met, meet_rules met, or_and_right]
    have later : s.Adrift (incident :: rest) ↔ next.Adrift rest ∨
        (∃ now, incident = .launch now ∧ s.attemptDue now = true) ∧
          ∀ incident ∈ rest, ¬ incident.Lands s.rules := by
      unfold Adrift
      rw [meet_rules met]
      constructor
      · rintro ⟨before, now, after, middle, split, reached, due, stays⟩
        cases before with
        | nil =>
          obtain ⟨rfl, rfl⟩ := List.cons.inj split
          cases reached
          exact .inr ⟨⟨now, rfl, due⟩, stays⟩
        | cons first before =>
          obtain ⟨rfl, rfl⟩ := List.cons.inj split
          exact .inl ⟨before, now, after, middle, rfl, (run_cons met before).symm.trans reached, due,
            stays⟩
      · rintro (⟨before, now, after, middle, rfl, reached, due, stays⟩ | ⟨⟨now, rfl, due⟩, stays⟩)
        · exact ⟨incident :: before, now, after, middle, rfl, (run_cons met before).trans reached,
            due, stays⟩
        · exact ⟨[], now, rest, s, rfl, rfl, due, stays⟩
    rw [later, List.forall_mem_cons, or_assoc, and_assoc]

/-! ### Restarts -/

/-- While an attempt is under way restarts are blocked. -/
theorem blocked_of_inFlight (flies : s.inFlight = true) (now : Instant) :
    s.restartsBlocked now = true ∧ s.attemptDue now = false := by
  unfold inFlight at flies
  unfold restartsBlocked attemptDue
  cases round : s.round with
  | none =>
    rw [round] at flies
    cases flies
  | some round' =>
    rw [round] at flies
    have flies' : round'.inFlight = true := flies
    simp [Round.blocks, Round.isDue, flies']

/-- **Restarts are free from some instant on exactly when no attempt is under way.** -/
theorem eventually_free_iff : (∃ start, ∀ now, start ≤ now → s.restartsBlocked now = false) ↔
    s.inFlight = false := by
  constructor
  · rintro ⟨start, free⟩
    by_contra flies
    have blocked := (blocked_of_inFlight (Bool.not_eq_false _ ▸ flies) start).1
    rw [free start (Int.le_refl start)] at blocked
    cases blocked
  · intro lands
    unfold inFlight at lands
    unfold restartsBlocked
    cases round : s.round with
    | none => exact ⟨0, fun _ _ => rfl⟩
    | some round' =>
      rw [round] at lands
      have lands' : round'.inFlight = false := lands
      refine ⟨round'.nextAttempt, fun now late => ?_⟩
      show (round'.inFlight || decide (now < round'.nextAttempt)) = false
      rw [lands', Bool.false_or]
      exact decide_eq_false (Int.not_lt.mpr late)

end Supervisor

/-! ### The container -/

/-- Retiring consumers starts none. -/
theorem Registry.trim_started (queue : String) (acc : Registry × Changes) :
    (trim queue acc).2.started = acc.2.started := by
  unfold trim
  dsimp only
  split <;> rfl

/-- A container whose restarts are blocked starts nothing. -/
theorem Registry.converge_of_blocked (r : Registry) {now : Instant}
    (blocked : r.supervisor.restartsBlocked now = true) : (r.converge now).2.started = [] := by
  have steps : ∀ (queues : List String) (acc : Registry × Changes), acc.2.started = [] →
      (queues.foldl (convergeQueue true) acc).2.started = [] := by
    intro queues
    induction queues with
    | nil => exact fun _ quiet => quiet
    | cons queue queues ih =>
      intro acc quiet
      refine ih _ ?_
      unfold convergeQueue
      split
      next => exact (trim_started queue acc).trans quiet
      next => exact quiet
  unfold converge
  split
  next =>
    dsimp only
    rw [blocked]
    exact steps r.queues (r, {}) rfl
  next => rfl

/-! ### Reports -/

namespace Supervisor

theorem watching_eq (rules : RecoveryRules) (queues : List String) :
    (watching rules queues).rules = rules ∧ (watching rules queues).inFlight = false := by
  have steps : ∀ s : Supervisor, (queues.foldl track s).rules = s.rules ∧
      (queues.foldl track s).round = s.round := by
    induction queues with
    | nil => exact fun s => ⟨rfl, rfl⟩
    | cons queue queues ih =>
      intro s
      obtain ⟨rules, round⟩ := ih (s.track queue)
      rw [List.foldl_cons, rules, round]
      unfold track
      split
      next => exact ⟨rfl, rfl⟩
      next => exact ⟨rfl, rfl⟩
  obtain ⟨rules', round⟩ := steps (.new rules)
  refine ⟨rules', ?_⟩
  unfold watching inFlight
  rw [round]
  rfl

/-- A failure that is not fatal lands an attempt when it concerns the broker as a whole: credentials
whose rejection stops the container are not among them. -/
theorem lands_iff_of_mild {s s' : Supervisor} {queue : String} {error : ClientError} {now : Instant}
    {action : RecoveryAction} (answered : s.onFailure queue error now = (.ok action, s'))
    (mild : ∀ reason, action ≠ .fatal reason) :
    (Incident.failure queue error now).Lands s.rules ↔ error.kind.isSystemic = true := by
  cases kind : error.kind with
  | authentication =>
    have tolerated : s.rules.authenticationFatal = false := by
      by_contra fatal
      unfold onFailure at answered
      rw [kind] at answered
      dsimp only at answered
      rw [if_pos ((Bool.not_eq_false _).mp fatal)] at answered
      cases answered
      exact mild _ rfl
    simp [Incident.Lands, FailureKind.isSystemic, kind, tolerated]
  | connection | missingQueue | channel | cancelled =>
    simp [Incident.Lands, FailureKind.isSystemic, kind]

/-- **Which reports leave restarts free from some instant on.** A consumer that comes up does, and
so does a failure that is not fatal, except one of a queue, a channel or a consumer while an attempt
is under way. After that restarts are blocked at every instant, until an incident lands the attempt;
the container starts no consumer meanwhile. -/
theorem run_report_frees_iff (rules : RecoveryRules) (queues : List String)
    (incidents : List Incident) {s : Supervisor}
    (ran : (watching rules queues).run incidents = .ok s) :
    (∀ queue now, (s.consumeOk queue).restartsBlocked now = false) ∧
    ∀ queue error now action s', s.onFailure queue error now = (.ok action, s') →
      (∀ reason, action ≠ .fatal reason) →
      ((∃ start, ∀ now, start ≤ now → s'.restartsBlocked now = false) ↔
        error.kind.isSystemic = true ∨ ¬ (watching rules queues).Adrift incidents) ∧
      (error.kind.isSystemic = false → (watching rules queues).Adrift incidents →
        ∀ later s'', (∀ incident ∈ later, ¬ incident.Lands rules) → s'.run later = .ok s'' →
          ∀ now, s''.restartsBlocked now = true ∧ s''.attemptDue now = false ∧
            ∀ r : Registry, r.supervisor = s'' → (r.converge now).2.started = []) := by
  obtain ⟨known, idle⟩ := watching_eq rules queues
  have adrift : s.inFlight = true ↔ (watching rules queues).Adrift incidents := by
    rw [run_inFlight_iff ran, idle]
    exact or_iff_left fun ⟨flies, _⟩ => Bool.noConfusion flies
  have same : s.rules = rules := (run_rules ran).trans known
  refine ⟨fun _ _ => rfl, fun queue error now action s' answered mild => ?_⟩
  have judged := s.onFailure_inFlight queue error now
  have rules' := s.onFailure_rules queue error now
  rw [answered, same] at judged rules'
  dsimp only at judged rules'
  have lands := lands_iff_of_mild answered mild
  rw [same] at lands
  rw [lands, adrift] at judged
  refine ⟨?_, fun single flies later s'' stays ran' now => ?_⟩
  · rw [eventually_free_iff, ← Bool.not_eq_true, judged, not_and_or, Decidable.not_not, or_comm]
  · have flies' : s''.inFlight = true := by
      rw [run_inFlight_iff ran', rules']
      exact .inr ⟨judged.mpr ⟨flies, by simp [single]⟩, stays⟩
    obtain ⟨blocked, early⟩ := blocked_of_inFlight flies' now
    exact ⟨blocked, early, fun r same => r.converge_of_blocked (same ▸ blocked)⟩

/-- Three attempts at a fixed distance; neither missing queues nor rejected credentials are fatal. -/
def threeAttempts : RecoveryRules :=
  ⟨.fixed (Duration.ofMillis 100) (some 3), false, false, Duration.ofSeconds 5⟩

/-- A connection is lost, and an attempt is launched when it is due. -/
def oneAttempt : List Incident :=
  [.failure "orders" (.connection "connection refused") 0, .launch (Instant.ofMillis 100)]

/-- When the attempt finds the broker away again, another one is due later. -/
theorem run_report_frees_iff_connection :
    ∃ s s', (watching threeAttempts ["orders"]).run oneAttempt = .ok s ∧
      s.onFailure "orders" (.connection "connection refused") (Instant.ofMillis 150) =
        (.ok (.scheduleRetry (Duration.ofMillis 100) 2), s') ∧
      (∀ reason, RecoveryAction.scheduleRetry (Duration.ofMillis 100) 2 ≠ .fatal reason) ∧
      ∃ start, ∀ now, start ≤ now → s'.restartsBlocked now = false := by
  refine ⟨_, _, rfl, rfl, nofun, ?_⟩
  have failures := (run_report_frees_iff threeAttempts ["orders"] oneAttempt rfl).2
  exact (failures "orders" (.connection "connection refused") (Instant.ofMillis 150) _ _ rfl
    nofun).1.mpr (.inl rfl)

/-- **When the attempt finds its queue missing, restarts are blocked for ever**, also once the queue
can be consumed again. -/
theorem missing_queue_blocks :
    ∃ s s', (watching threeAttempts ["orders"]).run oneAttempt = .ok s ∧
      s.onFailure "orders" (.queueNotFound "orders") (Instant.ofMillis 150) =
        (.ok (.pause "orders"), s') ∧
      (∀ now, s'.restartsBlocked now = true) ∧
      (s'.declarationResult "orders" true).2.isConsumable "orders" = true ∧
      ∀ now, (s'.declarationResult "orders" true).2.restartsBlocked now = true :=
  ⟨_, _, rfl, rfl, fun _ => rfl, by decide +kernel, fun _ => rfl⟩

end Supervisor

end QueueListener
