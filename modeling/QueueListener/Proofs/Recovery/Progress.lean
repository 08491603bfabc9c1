import QueueListener.Proofs.Recovery.Diagram
import QueueListener.Proofs.Recovery.Waiting
import QueueListener.Settings
/-!
# A pass of recovery

**A pass moves every deadline past the present, unless queues are looked for without a pause.** What
is due at an instant is handled in one pass: the missing queues are looked for, and a round that
waits is resolved. A queue that is still missing is due again one interval later; the interval is the
one duration of the settings that may be zero, and then the queue is due at the same instant.

* `Supervisor.resolve`, `Supervisor.passAt` — a pass that finds nothing;
* `resolve_rests` — no round is due after a pass;
* `passAt_defined_iff` — the instants at which a pass is possible;
* `passAt_progresses_iff`, `run_pass_progresses_iff` — after which passes the deadlines lie ahead;
* `passes_stand_still` — without a pause no number of passes gets ahead.
-/

namespace QueueListener

/-- A missing queue is due unless its deadline lies ahead. -/
theorem TrackedQueue.isDue_eq_false_iff {tracked : TrackedQueue} {now : Instant} :
    tracked.isDue now = false ↔ ∀ deadline, tracked.deadline? = some deadline → now < deadline := by
  unfold TrackedQueue.isDue
  cases tracked.deadline? <;> simp

/-- A queue that is due again an interval later lies ahead when the interval is not zero. -/
theorem TrackedQueue.isDue_postponed {tracked : TrackedQueue} {now next : Instant}
    {pause : Duration} (due : tracked.isDue now = true) (reached : now.after pause = .ok next) :
    ({ tracked with nextDeclaration := some next } : TrackedQueue).isDue now = false ↔
      0 < pause := by
  have missing : tracked.state = .missing := by
    by_contra other
    simp [isDue, deadline?, other] at due
  have deadline : ({ tracked with nextDeclaration := some next } : TrackedQueue).deadline? =
      some next := if_pos missing
  rw [isDue, deadline, Instant.eq_of_after reached]
  simp

namespace Supervisor

/-- Resolves a round that is due: its attempt is made, or the round is given up. -/
def resolve (s : Supervisor) (now : Instant) (launches : Bool) : Supervisor :=
  if s.attemptDue now then (if launches then s.beginAttempt else s.abandonRound) else s

/-- A pass of recovery: the queues that are due are looked for and are still missing, then the round
is resolved. -/
def passAt (s : Supervisor) (now : Instant) (launches : Bool) : Except TimeFault Supervisor := do
  let (due, s) ← s.takeDue now
  let s := due.foldl (fun s queue => (s.declarationResult queue false).2) s
  return s.resolve now launches

/-- Whether every deadline lies ahead. -/
def Ahead (s : Supervisor) (now : Instant) : Prop :=
  ∀ deadline, s.nextDeadline? = some deadline → now < deadline

/-- Whether it is time to look for no queue. -/
def Unhurried (s : Supervisor) (now : Instant) : Prop :=
  ∀ tracked ∈ s.queues.values, tracked.isDue now = false

variable {s s' : Supervisor} {now : Instant} {launches : Bool}

/-! ### Deadlines -/

/-- The first deadline lies ahead when all of them do. -/
theorem ahead_iff : s.Ahead now ↔ ∀ deadline ∈ s.deadlines, now < deadline := by
  constructor
  · intro ahead deadline member
    cases first : s.deadlines.min? with
    | none =>
      rw [List.min?_eq_none_iff] at first
      rw [first] at member
      cases member
    | some least =>
      have lowest := (List.min?_eq_some_iff.mp first).2 deadline member
      exact Int.lt_of_lt_of_le (ahead least first) lowest
  · intro all deadline first
    exact all deadline (List.min?_eq_some_iff.mp first).1

/-- **The deadlines lie ahead when neither a queue nor a round is due.** -/
theorem ahead_iff_unhurried : s.Ahead now ↔ s.Unhurried now ∧ s.attemptDue now = false := by
  have queues : (∀ deadline ∈ s.queues.values.filterMap TrackedQueue.deadline?, now < deadline) ↔
      s.Unhurried now := by
    simp only [List.mem_filterMap, Unhurried, TrackedQueue.isDue_eq_false_iff]
    exact ⟨fun all tracked member deadline found => all deadline ⟨tracked, member, found⟩,
      fun all deadline ⟨tracked, member, found⟩ => all tracked member deadline found⟩
  rw [ahead_iff, deadlines, List.forall_mem_append, queues, attemptDue, and_comm]
  refine and_congr_right fun _ => ?_
  cases s.round with
  | none => simp
  | some round => cases flies : round.inFlight <;> simp [Round.isDue, flies]

/-! ### The parts of a pass -/

/-- No round is due once it was resolved. -/
theorem resolve_rests (s : Supervisor) (now : Instant) (launches : Bool) :
    (s.resolve now launches).attemptDue now = false := by
  unfold resolve
  by_cases due : s.attemptDue now = true
  · rw [if_pos due]
    cases launches with
    | false => rfl
    | true =>
      rw [if_pos rfl, beginAttempt, attemptDue]
      cases s.round <;> rfl
  · rw [if_neg due]
    exact eq_false_of_ne_true due

/-- A round does not concern the queues. -/
theorem resolve_queues (s : Supervisor) (now : Instant) (launches : Bool) :
    (s.resolve now launches).queues = s.queues := by
  unfold resolve
  split
  next => split <;> rfl
  next => rfl

theorem resolve_rules (s : Supervisor) (now : Instant) (launches : Bool) :
    (s.resolve now launches).rules = s.rules := by
  unfold resolve
  split
  next => split <;> rfl
  next => rfl

/-- News that queues are still missing change nothing. -/
theorem foldl_still_missing (s : Supervisor) (queues : List String) :
    queues.foldl (fun s queue => (s.declarationResult queue false).2) s = s := by
  induction queues generalizing s with
  | nil => rfl
  | cons queue queues ih => exact ih s

/-- Whether there is a queue to be looked for. -/
theorem due_isEmpty_iff :
    ((s.queues.entries.filter fun entry => entry.2.isDue now).map (·.1)).isEmpty = true ↔
      s.Unhurried now := by
  simp only [List.isEmpty_iff, List.map_eq_nil_iff, List.filter_eq_nil_iff, Bool.not_eq_true,
    Unhurried, Table.values, List.forall_mem_map]

/-- A supervisor without a due queue takes none. -/
theorem takeDue_of_unhurried (unhurried : s.Unhurried now) : s.takeDue now = .ok ([], s) := by
  unfold takeDue
  dsimp only
  rw [if_pos (due_isEmpty_iff.mpr unhurried)]

/-- The queues that are due get the next deadline, if the clock can show it. -/
theorem takeDue_of_hurried (hurried : ¬ s.Unhurried now) :
    (∃ fault, now.after s.rules.declarationRetry = .error fault ∧ s.takeDue now = .error fault) ∨
      ∃ next due s', now.after s.rules.declarationRetry = .ok next ∧
        s.takeDue now = .ok (due, s') ∧ s'.rules = s.rules ∧
        s'.queues.values = s.queues.values.map fun tracked =>
          if tracked.isDue now then { tracked with nextDeclaration := some next }
          else tracked := by
  unfold takeDue
  dsimp only
  rw [if_neg (due_isEmpty_iff.not.mpr hurried)]
  cases now.after s.rules.declarationRetry with
  | error fault => exact .inl ⟨fault, rfl, rfl⟩
  | ok next =>
    refine .inr ⟨next, _, _, rfl, rfl, rfl, ?_⟩
    simp only [Table.values, List.map_map]
    refine List.map_congr_left fun entry _ => ?_
    show (if _ then _ else _ : String × TrackedQueue).2 = if _ then _ else _
    split <;> rfl

/-! ### A pass -/

/-- **A pass is possible as long as the clock can show the next deadline.** -/
theorem passAt_defined_iff : (∃ s', s.passAt now launches = .ok s') ↔
    s.Unhurried now ∨ ∃ next, now.after s.rules.declarationRetry = .ok next := by
  by_cases unhurried : s.Unhurried now
  · refine iff_of_true ⟨s.resolve now launches, ?_⟩ (.inl unhurried)
    rw [passAt, takeDue_of_unhurried unhurried]
    rfl
  · rw [or_iff_right unhurried, passAt]
    obtain ⟨fault, beyond, refused⟩ | ⟨next, due, after, reached, taken, -⟩ :=
      takeDue_of_hurried unhurried
    · rw [refused, beyond]
      refine iff_of_false (fun ⟨s', passed⟩ => ?_) (fun ⟨next, shown⟩ => ?_)
      · cases passed
      · cases shown
    · rw [taken, reached]
      exact iff_of_true ⟨_, rfl⟩ ⟨next, rfl⟩

/-- What a pass leaves: nothing is due but the queues whose new deadline is the present. -/
theorem passAt_leaves (passed : s.passAt now launches = .ok s') :
    s'.rules = s.rules ∧ s'.attemptDue now = false ∧
      (s'.Unhurried now ↔ 0 < s.rules.declarationRetry ∨ s.Unhurried now) := by
  by_cases unhurried : s.Unhurried now
  · rw [passAt, takeDue_of_unhurried unhurried] at passed
    cases passed
    refine ⟨resolve_rules s now launches, resolve_rests s now launches,
      iff_of_true ?_ (.inr unhurried)⟩
    unfold Unhurried
    rw [resolve_queues]
    exact unhurried
  · obtain ⟨fault, -, refused⟩ | ⟨next, due, after, reached, taken, rules, queues⟩ :=
      takeDue_of_hurried unhurried
    · rw [passAt, refused] at passed
      cases passed
    · rw [passAt, taken] at passed
      cases passed
      rw [foldl_still_missing]
      refine ⟨(resolve_rules ..).trans rules, resolve_rests .., ?_⟩
      rw [or_iff_left unhurried, Unhurried, resolve_queues, queues, List.forall_mem_map]
      obtain ⟨hasty, member, hurries⟩ : ∃ tracked ∈ s.queues.values, tracked.isDue now = true := by
        simpa [Unhurried] using unhurried
      constructor
      · intro rest
        have rests := rest hasty member
        rw [if_pos hurries] at rests
        exact (TrackedQueue.isDue_postponed hurries reached).mp rests
      · intro pause tracked _
        by_cases due : tracked.isDue now = true
        · rw [if_pos due]
          exact (TrackedQueue.isDue_postponed due reached).mpr pause
        · rw [if_neg due]
          exact eq_false_of_ne_true due

/-- **A pass gets ahead exactly when queues are looked for with a pause, or none was due.** -/
theorem passAt_progresses_iff (passed : s.passAt now launches = .ok s') :
    s'.Ahead now ↔ 0 < s.rules.declarationRetry ∨ s.Unhurried now := by
  obtain ⟨-, rests, queues⟩ := passAt_leaves passed
  rw [ahead_iff_unhurried, and_iff_left rests, queues]

/-- **Without a pause no number of passes gets ahead**, whichever way the round is resolved. -/
theorem passes_stand_still (hasty : s.rules.declarationRetry = 0) (hurried : ¬ s.Unhurried now)
    (choices : List Bool) (passed : choices.foldlM (fun s launches => s.passAt now launches) s =
      .ok s') : ¬ s'.Ahead now := by
  induction choices generalizing s with
  | nil =>
    cases passed
    rw [ahead_iff_unhurried]
    exact fun ahead => hurried ahead.1
  | cons launches choices ih =>
    rw [List.foldlM_cons] at passed
    cases first : s.passAt now launches with
    | error fault =>
      rw [first] at passed
      cases passed
    | ok after =>
      rw [first] at passed
      obtain ⟨rules, -, queues⟩ := passAt_leaves first
      refine ih (rules ▸ hasty) (fun rests => ?_) passed
      rw [queues, hasty] at rests
      exact rests.elim (Nat.lt_irrefl 0) hurried

/-! ### Runs -/

/-- **Which passes get ahead, after any operations.** A pass is possible unless the clock ends before
the next deadline; after it every deadline lies ahead exactly when the interval is not zero or no
queue was due. -/
theorem run_pass_progresses_iff (settings : Settings) (ops : List Op) (now : Instant)
    (launches : Bool) :
    ((∃ s', ((new settings.recoveryRules).serveAll ops).passAt now launches = .ok s') ↔
      ((new settings.recoveryRules).serveAll ops).Unhurried now ∨
        ∃ next, now.after settings.declarationRetry = .ok next) ∧
    ∀ s', ((new settings.recoveryRules).serveAll ops).passAt now launches = .ok s' →
      (s'.Ahead now ↔ 0 < settings.declarationRetry ∨
        ((new settings.recoveryRules).serveAll ops).Unhurried now) := by
  have rules : ((new settings.recoveryRules).serveAll ops).rules = settings.recoveryRules :=
    (state?_serveAll (new settings.recoveryRules) "" ops).1
  refine ⟨?_, fun s' passed => ?_⟩
  · rw [passAt_defined_iff, rules]
    rfl
  · rw [passAt_progresses_iff passed, rules]
    rfl

/-- A queue is reported missing at the origin of the clock. -/
def ordersMissing : List Op :=
  [.track "orders", .failure "orders" (.queueNotFound "orders") 0]

/-- With the standard interval the next look at the queue is five seconds after the last one. -/
theorem run_pass_progresses_iff_standard :
    ∃ s', ((new ({} : Settings).recoveryRules).serveAll ordersMissing).passAt
        (Instant.ofMillis 5000) true = .ok s' ∧ s'.Ahead (Instant.ofMillis 5000) := by
  obtain ⟨defined, ahead⟩ :=
    run_pass_progresses_iff {} ordersMissing (Instant.ofMillis 5000) true
  obtain ⟨s', passed⟩ := defined.mpr (.inr ⟨_, rfl⟩)
  exact ⟨s', passed, (ahead s' passed).mpr (.inl (by decide))⟩

/-- Settings without a fault that look for missing queues without a pause. -/
def hasty : Settings := { queues := ["orders"], declarationRetry := 0 }

/-- **With these settings the present stays the deadline**, however many passes there are. -/
theorem hasty_stands_still : hasty.fault? = none ∧
    (∃ s', ((new hasty.recoveryRules).serveAll ordersMissing).passAt 0 true = .ok s' ∧
      s'.nextDeadline? = some 0) ∧
    ∀ (choices : List Bool) s', choices.foldlM (fun s launches => s.passAt 0 launches)
      ((new hasty.recoveryRules).serveAll ordersMissing) = .ok s' → ¬ s'.Ahead 0 := by
  refine ⟨by decide +kernel, ⟨_, rfl, by decide +kernel⟩, fun choices s' passed => ?_⟩
  refine passes_stand_still rfl (fun rests => ?_) choices passed
  exact absurd (rests ⟨.missing, some 0⟩ (by decide +kernel)) (by decide)

end Supervisor

end QueueListener
