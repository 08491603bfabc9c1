import QueueListener.Proofs.Recovery.Progress
/-!
# The deadlines of missing queues

**No deadline is missed.** The first deadline has come exactly when an attempt of the round is due
or a look returns a queue. A queue that is missing has a deadline at any time: what makes it missing
sets one, a look sets another one, and only what ends the absence takes it away.

* `Supervisor.deadlineOf?`, `Supervisor.found` — when a queue is to be looked for, and what a look
  returns;
* `Op.Keeps`, `Op.keep_keeps` — what becomes of a queue by an operation;
* `Regular`, `Regular.serveAll` — every queue is tracked once, and a missing one has a deadline;
* `mem_found_iff`, `hurried_iff` — which queues a look returns, and when it returns any;
* `run_misses_no_deadline` — the first deadline at any time.
-/

namespace QueueListener

/-- The clock shows every instant up to the latest one. -/
theorem Instant.after_eq (now : Instant) (delay : Duration) :
    now.after delay =
      if now + delay ≤ latest then .ok (now + delay) else .error .beyondClock := by
  unfold after after?
  by_cases shown : now + delay ≤ latest
  · rw [if_pos shown, if_pos shown]
  · rw [if_neg shown, if_neg shown]

/-- Only a queue that is missing is to be looked for. -/
theorem TrackedQueue.deadline?_eq_some_iff {tracked : TrackedQueue} {deadline : Instant} :
    tracked.deadline? = some deadline ↔
      tracked.state = .missing ∧ tracked.nextDeclaration = some deadline := by
  unfold deadline?
  split
  next missing => exact (and_iff_right missing).symm
  next other => exact iff_of_false nofun fun both => other both.1

/-- A queue that is missing has a deadline. -/
def TrackedQueue.Dated (tracked : TrackedQueue) : Prop :=
  tracked.state = .missing → ∃ deadline, tracked.nextDeclaration = some deadline

namespace Supervisor

/-- When a queue is to be looked for, if it is missing. -/
def deadlineOf? (s : Supervisor) (queue : String) : Option Instant :=
  (s.queues.get? queue).bind TrackedQueue.deadline?

/-- The queues that a look returns; none when it ends with a fault of the clock. -/
def found (s : Supervisor) (now : Instant) : List String :=
  match s.takeDue now with
  | .ok (queues, _) => queues
  | .error _ => []

/-- Every queue is tracked once, and a missing one has a deadline. -/
structure Regular (s : Supervisor) : Prop where
  distinct : s.queues.keys.Nodup
  dated : ∀ queue tracked, s.queues.get? queue = some tracked → tracked.Dated

variable {s : Supervisor} {queue : String} {now : Instant}

/-! ### A missing queue has a deadline -/

/-- The instant at which an operation is asked for, if it reads the clock. -/
def Op.instant? : Op → Option Instant
  | .failure _ _ now => some now
  | .look now => some now
  | _ => none

/-- What an operation may keep of a queue: what was kept, or nothing; or the queue is not missing, or
it is to be looked for one interval later. -/
inductive Op.Keeps (rules : RecoveryRules) (op : Op) (kept : Option TrackedQueue) :
    Option TrackedQueue → Prop
  | same : op.Keeps rules kept kept
  | forgotten : op.Keeps rules kept none
  | wakes {tracked : TrackedQueue} (awake : tracked.state ≠ .missing) :
      op.Keeps rules kept (some tracked)
  | awaits {tracked : TrackedQueue} {now next : Instant} (read : op.instant? = some now)
      (reached : now.after rules.declarationRetry = .ok next)
      (awaited : tracked.nextDeclaration = some next) : op.Keeps rules kept (some tracked)

theorem keepAfterFailure_keeps {rules : RecoveryRules} {op : Op} (read : op.instant? = some now)
    (error : ClientError) (tracked : TrackedQueue) :
    op.Keeps rules (some tracked) (some (rules.keepAfterFailure error now tracked)) := by
  unfold RecoveryRules.keepAfterFailure
  cases error.kind with
  | missingQueue =>
    dsimp only
    split
    next => exact .wakes nofun
    next =>
      split
      next next reached => exact .awaits read reached rfl
      next => exact .same
  | authentication =>
    dsimp only
    split <;> exact .wakes nofun
  | connection => exact .wakes nofun
  | channel | cancelled => exact .same

theorem keepAfterLook_keeps {rules : RecoveryRules} {op : Op} (read : op.instant? = some now)
    (tracked : TrackedQueue) :
    op.Keeps rules (some tracked) (some (rules.keepAfterLook now tracked)) := by
  unfold RecoveryRules.keepAfterLook
  split
  next =>
    split
    next next reached => exact .awaits read reached rfl
    next => exact .same
  next => exact .same

/-- **What becomes of a queue by an operation.** -/
theorem Op.keep_keeps (rules : RecoveryRules) (queue : String) (kept : Option TrackedQueue)
    (op : Op) : op.Keeps rules kept (op.keep rules queue kept) := by
  -- An operation on a queue that is named changes that queue, or leaves what was kept.
  have named : ∀ {here : Prop} [Decidable here] {changed : Option TrackedQueue},
      op.Keeps rules kept changed → op.Keeps rules kept (if here then changed else kept) := by
    intro here _ changed keeps
    split
    next => exact keeps
    next => exact .same
  cases op with
  | track name =>
    refine named ?_
    cases kept with
    | none => exact .wakes nofun
    | some tracked => exact .same
  | forget name => exact named .forgotten
  | consumeOk name =>
    refine named ?_
    cases kept with
    | none => exact .same
    | some tracked =>
      rw [Option.map_some]
      split
      next => exact .wakes nofun
      next => exact .same
  | failure name error now =>
    refine named ?_
    cases kept with
    | none => exact .same
    | some tracked => exact keepAfterFailure_keeps rfl error tracked
  | beginAttempt | abandonRound => exact .same
  | look now =>
    cases kept with
    | none => exact .same
    | some tracked => exact keepAfterLook_keeps rfl tracked
  | declared name found => exact named (.wakes nofun)
  | markAllFatal =>
    cases kept with
    | none => exact .same
    | some tracked => exact .wakes nofun

/-- No operation leaves a queue missing without a deadline. -/
theorem Op.Keeps.dated {rules : RecoveryRules} {op : Op} {kept kept' : Option TrackedQueue}
    (keeps : op.Keeps rules kept kept') (dated : ∀ tracked, kept = some tracked → tracked.Dated) :
    ∀ tracked, kept' = some tracked → tracked.Dated := by
  cases keeps with
  | same => exact dated
  | forgotten => exact nofun
  | wakes awake =>
    rintro _ ⟨⟩ missing
    exact absurd missing awake
  | awaits _ _ awaited =>
    rintro _ ⟨⟩ _
    exact ⟨_, awaited⟩

/-! ### Every queue is tracked once -/

/-- A failure tracks the queues that were tracked. -/
theorem onFailure_keys (s : Supervisor) (name : String) (error : ClientError) (now : Instant) :
    (s.onFailure name error now).2.queues.keys = s.queues.keys := by
  have changed := fun change => Table.keys_modify s.queues name change
  unfold onFailure
  cases error.kind with
  | missingQueue =>
    dsimp only
    split
    next => exact changed _
    next =>
      unfold pause
      split
      next => rfl
      next => exact changed _
  | authentication =>
    dsimp only
    split
    next => exact changed _
    next =>
      rw [(scheduleRetry_keeps _ _ _).2]
      exact changed _
  | connection =>
    dsimp only
    rw [(scheduleRetry_keeps _ _ _).2]
    exact changed _
  | channel | cancelled => rfl

/-- Entries that are changed under their keys are the entries of the same queues. -/
theorem keys_map_entries {α : Type} (entries : List (String × α)) {change : String × α → String × α}
    (same : ∀ entry, (change entry).1 = entry.1) :
    (⟨entries.map change⟩ : Table String α).keys = (⟨entries⟩ : Table String α).keys := by
  unfold Table.keys
  rw [List.map_map]
  exact List.map_congr_left fun entry _ => same entry

theorem look_keys (s : Supervisor) (now : Instant) :
    (s.serve (.look now)).queues.keys = s.queues.keys := by
  unfold serve takeDue
  dsimp only
  split
  next after taken =>
    split at taken
    next =>
      cases taken
      rfl
    next =>
      split at taken
      next => cases taken
      next =>
        cases taken
        exact keys_map_entries s.queues.entries fun entry => by split <;> rfl
  next => rfl

/-- No operation tracks a queue twice. -/
theorem serve_keys (distinct : s.queues.keys.Nodup) (op : Op) :
    (s.serve op).queues.keys.Nodup := by
  have untouched : (s.serve op).queues.keys = s.queues.keys → (s.serve op).queues.keys.Nodup :=
    fun same => same ▸ distinct
  cases op with
  | track name =>
    show (s.track name).queues.keys.Nodup
    unfold track
    split
    next => exact distinct
    next => exact Table.keys_set_nodup distinct name _
  | forget name => exact Table.keys_erase_nodup distinct name
  | consumeOk name => exact untouched (Table.keys_modify s.queues name _)
  | failure name error now => exact untouched (s.onFailure_keys name error now)
  | beginAttempt | abandonRound => exact distinct
  | look now => exact untouched (s.look_keys now)
  | declared name found =>
    refine untouched ?_
    show (s.declarationResult name found).2.queues.keys = s.queues.keys
    unfold declarationResult
    split
    next => exact Table.keys_modify s.queues name _
    next => rfl
  | markAllFatal => exact untouched (keys_map_entries s.queues.entries fun _ => rfl)

/-! ### At any time -/

theorem Regular.serve (regular : s.Regular) (op : Op) : (s.serve op).Regular where
  distinct := serve_keys regular.distinct op
  dated queue tracked kept := by
    rw [get?_serve] at kept
    exact (op.keep_keeps s.rules queue _).dated (regular.dated queue) tracked kept

/-- **Every queue is tracked once at any time, and a missing one has a deadline.** -/
theorem Regular.serveAll (regular : s.Regular) (ops : List Op) : (s.serveAll ops).Regular := by
  induction ops generalizing s with
  | nil => exact regular
  | cons op ops ih => exact ih (regular.serve op)

theorem new_regular (rules : RecoveryRules) : (new rules).Regular where
  distinct := List.nodup_nil
  dated := nofun

/-- A queue is missing exactly when it is to be looked for. -/
theorem Regular.missing_iff (regular : s.Regular) : s.state? queue = some .missing ↔
    ∃ deadline, s.queues.get? queue = some ⟨.missing, some deadline⟩ := by
  unfold state?
  constructor
  · intro missing
    obtain ⟨⟨state, next⟩, kept, rfl⟩ := Option.map_eq_some_iff.mp missing
    obtain ⟨deadline, rfl⟩ := regular.dated queue _ kept rfl
    exact ⟨deadline, kept⟩
  · rintro ⟨deadline, kept⟩
    rw [kept]
    rfl

/-! ### What a look returns -/

/-- As long as the clock can show the next deadline, a look returns the queues that are due. -/
theorem takeDue_of_shown (shown : now + s.rules.declarationRetry ≤ Instant.latest) :
    ∃ after, s.takeDue now =
      .ok (((s.queues.entries.filter fun entry => entry.2.isDue now).map (·.1)).mergeSort
        fun a b => decide (a ≤ b), after) := by
  by_cases unhurried : s.Unhurried now
  · refine ⟨s, ?_⟩
    rw [takeDue_of_unhurried unhurried, List.isEmpty_iff.mp (due_isEmpty_iff.mpr unhurried),
      List.mergeSort_nil]
  · unfold takeDue
    dsimp only
    rw [if_neg (due_isEmpty_iff.not.mpr unhurried), Instant.after_eq, if_pos shown]
    exact ⟨_, rfl⟩

theorem found_of_shown (shown : now + s.rules.declarationRetry ≤ Instant.latest) :
    s.found now = ((s.queues.entries.filter fun entry => entry.2.isDue now).map (·.1)).mergeSort
      fun a b => decide (a ≤ b) := by
  obtain ⟨after, taken⟩ := takeDue_of_shown shown
  rw [found, taken]

/-- Beyond that a look fails when a queue is due, and returns nothing. -/
theorem takeDue_of_beyond (beyond : ¬ now + s.rules.declarationRetry ≤ Instant.latest)
    (hurried : ¬ s.Unhurried now) : s.takeDue now = .error .beyondClock := by
  unfold takeDue
  dsimp only
  rw [if_neg (due_isEmpty_iff.not.mpr hurried), Instant.after_eq, if_neg beyond]

theorem found_of_beyond (beyond : ¬ now + s.rules.declarationRetry ≤ Instant.latest) :
    s.found now = [] := by
  unfold found
  by_cases unhurried : s.Unhurried now
  · rw [takeDue_of_unhurried unhurried]
  · rw [takeDue_of_beyond beyond unhurried]

/-- **It is time to look for a queue exactly when a look returns one**, or fails because the clock
ends before the next deadline. -/
theorem hurried_iff : ¬ s.Unhurried now ↔
    s.found now ≠ [] ∨ ∃ fault, s.takeDue now = .error fault := by
  by_cases unhurried : s.Unhurried now
  · refine iff_of_false (not_not.mpr unhurried) ?_
    unfold found
    rw [takeDue_of_unhurried unhurried]
    rintro (some | ⟨fault, failed⟩)
    · exact some rfl
    · cases failed
  · refine iff_of_true unhurried ?_
    by_cases shown : now + s.rules.declarationRetry ≤ Instant.latest
    · refine .inl fun none => unhurried (due_isEmpty_iff.mp ?_)
      rw [found_of_shown shown] at none
      exact List.isEmpty_iff.mpr (List.nil_perm.mp (none ▸ List.mergeSort_perm _ _))
    · exact .inr ⟨_, takeDue_of_beyond shown unhurried⟩

theorem isDue_iff {tracked : TrackedQueue} :
    tracked.isDue now = true ↔ ∃ deadline, tracked.deadline? = some deadline ∧ deadline ≤ now := by
  unfold TrackedQueue.isDue
  cases tracked.deadline? <;> simp

/-- **A look returns the queues whose deadline has come**, as long as the clock can show the next
one. -/
theorem Regular.mem_found_iff (regular : s.Regular) : queue ∈ s.found now ↔
    (∃ deadline, s.deadlineOf? queue = some deadline ∧ deadline ≤ now) ∧
      now + s.rules.declarationRetry ≤ Instant.latest := by
  have due : (∃ deadline, s.deadlineOf? queue = some deadline ∧ deadline ≤ now) ↔
      ∃ tracked, (queue, tracked) ∈ s.queues.entries ∧ tracked.isDue now = true := by
    simp only [isDue_iff, deadlineOf?, Option.bind_eq_some_iff]
    constructor
    · rintro ⟨deadline, ⟨tracked, kept, dated⟩, come⟩
      exact ⟨tracked, Table.mem_entries_of_get? kept, deadline, dated, come⟩
    · rintro ⟨tracked, entered, deadline, dated, come⟩
      exact ⟨deadline, ⟨tracked, Table.get?_of_mem_entries regular.distinct entered, dated⟩, come⟩
  by_cases shown : now + s.rules.declarationRetry ≤ Instant.latest
  · rw [and_iff_left shown, due, found_of_shown shown, List.mem_mergeSort]
    simp
  · rw [found_of_beyond shown]
    exact iff_of_false List.not_mem_nil fun both => shown both.2

/-! ### The first deadline -/

/-- **The first deadline has come exactly when the attempt of the round is due or it is time to look
for a queue.** -/
theorem deadline_come_iff : (∃ deadline, s.nextDeadline? = some deadline ∧ deadline ≤ now) ↔
    s.attemptDue now = true ∨ ¬ s.Unhurried now := by
  have come : (∃ deadline, s.nextDeadline? = some deadline ∧ deadline ≤ now) ↔ ¬ s.Ahead now := by
    simp only [Ahead, not_forall, Int.not_lt, exists_prop]
  rw [come, ahead_iff_unhurried, not_and_or, Bool.not_eq_false, or_comm]

/-- No deadline of a missing queue comes before the first one. -/
theorem nextDeadline?_le {deadline : Instant}
    (kept : s.queues.get? queue = some ⟨.missing, some deadline⟩) :
    ∃ first, s.nextDeadline? = some first ∧ first ≤ deadline := by
  have listed : deadline ∈ s.deadlines := by
    refine List.mem_append_right _ (List.mem_filterMap.mpr ⟨⟨.missing, some deadline⟩, ?_, rfl⟩)
    exact List.mem_map_of_mem (Table.mem_entries_of_get? kept)
  cases first : s.deadlines.min? with
  | none =>
    rw [List.min?_eq_none_iff.mp first] at listed
    cases listed
  | some least => exact ⟨least, first, (List.min?_eq_some_iff.mp first).2 deadline listed⟩

/-- **No deadline of the recovery is missed.** After any operations, the first deadline has come
exactly when the attempt of the round is due, or a look returns a queue or fails, which it does only
where the clock cannot show the deadline after it; and a queue that is missing always has a deadline,
which the first one does not exceed. -/
theorem run_misses_no_deadline (rules : RecoveryRules) (ops : List Op) (now : Instant) :
    let s := (new rules).serveAll ops
    ((∃ deadline, s.nextDeadline? = some deadline ∧ deadline ≤ now) ↔
      s.attemptDue now = true ∨ s.found now ≠ [] ∨ ∃ fault, s.takeDue now = .error fault) ∧
    ((∃ fault, s.takeDue now = .error fault) → Instant.latest < now + rules.declarationRetry) ∧
    ∀ queue, s.state? queue = some .missing →
      ∃ deadline, s.queues.get? queue = some ⟨.missing, some deadline⟩ ∧
        ∃ first, s.nextDeadline? = some first ∧ first ≤ deadline := by
  intro s
  have regular : s.Regular := (new_regular rules).serveAll ops
  refine ⟨?_, ?_, fun queue missing => ?_⟩
  · rw [deadline_come_iff, hurried_iff]
  · rintro ⟨fault, failed⟩
    have same : s.rules = rules := serveAll_rules (new rules) ops
    refine Int.not_le.mp fun shown => ?_
    rw [← same] at shown
    obtain ⟨after, taken⟩ := takeDue_of_shown shown
    cases failed.symm.trans taken
  · obtain ⟨deadline, kept⟩ := regular.missing_iff.mp missing
    exact ⟨deadline, kept, nextDeadline?_le kept⟩

end Supervisor

end QueueListener
