import QueueListener.Proofs.Recovery.Rounds
import QueueListener.Proofs.Table
/-!
# The state diagram of a queue

**A queue that was given up comes back by a failure report.** The state of a queue follows a diagram
of its own, whatever happens to the other queues and to the round. A failure that is retried leads
to `recovering` from every state, so the late report of another consumer resumes a queue that is
missing, and revives one that is fatal.

* `Supervisor.Op`, `Supervisor.serve`, `Supervisor.serveAll` — everything that is asked of a
  supervisor;
* `Op.keep`, `get?_serve` — what is kept of one queue, operation by operation;
* `Op.move` — the diagram; `state?_serve`, `state?_serveAll` — a supervisor follows it;
* `Op.Resumes`, `Op.Revives` — the transitions to a state in which a queue can be consumed, and
  those that leave `fatal`;
* `run_resumes_iff` — a queue that is missing comes back exactly by the first ones, a queue that is
  fatal exactly by the second ones.
-/

namespace QueueListener

/-- Whether a failure is retried: the broker as a whole is away, and that is no reason to stop. -/
def RecoveryRules.Retries (rules : RecoveryRules) (error : ClientError) : Prop :=
  error.kind = .connection ∨ error.kind = .authentication ∧ rules.authenticationFatal = false

/-- Whether a failure sends its consumers to wait for the queue, until an instant that the clock can
show. -/
def RecoveryRules.Pauses (rules : RecoveryRules) (error : ClientError) (now : Instant) : Prop :=
  error.kind = .missingQueue ∧ rules.missingFatal = false ∧
    ∃ next, now.after rules.declarationRetry = .ok next

/-- The state of a tracked queue after a failure of one of its consumers. -/
def RecoveryRules.afterFailure (rules : RecoveryRules) (error : ClientError) (now : Instant)
    (state : QueueState) : QueueState :=
  match error.kind with
  | .missingQueue =>
    if rules.missingFatal then .fatal
    else if (now.after rules.declarationRetry).toBool then .missing else state
  | .authentication => if rules.authenticationFatal then .fatal else .recovering
  | .connection => .recovering
  | .channel => state
  | .cancelled => state

/-- What is kept of a queue after a failure of one of its consumers. -/
def RecoveryRules.keepAfterFailure (rules : RecoveryRules) (error : ClientError) (now : Instant)
    (tracked : TrackedQueue) : TrackedQueue :=
  match error.kind with
  | .missingQueue =>
    if rules.missingFatal then { tracked with state := .fatal }
    else match now.after rules.declarationRetry with
      | .ok next => ⟨.missing, some next⟩
      | .error _ => tracked
  | .authentication =>
    { tracked with state := if rules.authenticationFatal then .fatal else .recovering }
  | .connection => { tracked with state := .recovering }
  | .channel => tracked
  | .cancelled => tracked

/-- What is kept of a queue after a look: a queue that was due gets the next deadline, if the clock can
show it. -/
def RecoveryRules.keepAfterLook (rules : RecoveryRules) (now : Instant) (tracked : TrackedQueue) :
    TrackedQueue :=
  if tracked.isDue now then
    match now.after rules.declarationRetry with
    | .ok next => { tracked with nextDeclaration := some next }
    | .error _ => tracked
  else tracked

namespace Supervisor

/-- Everything that is asked of a supervisor and may change it. -/
inductive Op
  | track (queue : String)
  | forget (queue : String)
  | consumeOk (queue : String)
  | failure (queue : String) (error : ClientError) (now : Instant)
  | beginAttempt
  | abandonRound
  /-- Which queues are due to be looked for. -/
  | look (now : Instant)
  | declared (queue : String) (found : Bool)
  | markAllFatal
  deriving DecidableEq, Repr

/-- The supervisor after an operation, also after one that ends with a fault of the clock. -/
def serve (s : Supervisor) : Op → Supervisor
  | .track queue => s.track queue
  | .forget queue => s.forget queue
  | .consumeOk queue => s.consumeOk queue
  | .failure queue error now => (s.onFailure queue error now).2
  | .beginAttempt => s.beginAttempt
  | .abandonRound => s.abandonRound
  | .look now =>
    match s.takeDue now with
    | .ok (_, after) => after
    | .error _ => s
  | .declared queue found => (s.declarationResult queue found).2
  | .markAllFatal => s.markAllFatal

/-- One operation after the other. -/
def serveAll (s : Supervisor) (ops : List Op) : Supervisor := ops.foldl serve s

namespace Op

/-- **The diagram of one queue**: its state after an operation, if it is tracked then. -/
def move (rules : RecoveryRules) (queue : String) (state : Option QueueState) :
    Op → Option QueueState
  | .track name => if name = queue then some (state.getD .declared) else state
  | .forget name => if name = queue then none else state
  | .consumeOk name =>
    if name = queue then state.map fun old => if old = .recovering then .declared else old
    else state
  | .failure name error now =>
    if name = queue then state.map (rules.afterFailure error now) else state
  | .beginAttempt => state
  | .abandonRound => state
  | .look _ => state
  | .declared name found =>
    if name = queue ∧ found = true ∧ state = some .missing then some .declared else state
  | .markAllFatal => state.map fun _ => .fatal

/-- **What is kept of one queue** after an operation, if it is tracked then. -/
def keep (rules : RecoveryRules) (queue : String) (kept : Option TrackedQueue) :
    Op → Option TrackedQueue
  | .track name => if name = queue then some (kept.getD ⟨.declared, none⟩) else kept
  | .forget name => if name = queue then none else kept
  | .consumeOk name =>
    if name = queue then kept.map fun tracked =>
      if tracked.state = .recovering then { tracked with state := .declared } else tracked
    else kept
  | .failure name error now =>
    if name = queue then kept.map (rules.keepAfterFailure error now) else kept
  | .beginAttempt => kept
  | .abandonRound => kept
  | .look now => kept.map (rules.keepAfterLook now)
  | .declared name found =>
    if name = queue ∧ found = true ∧ kept.map (·.state) = some .missing then
      some ⟨.declared, none⟩
    else kept
  | .markAllFatal => kept.map fun tracked => { tracked with state := .fatal }

/-- The transitions to a state in which a queue can be consumed, from one in which it cannot: it is
found again, it is tracked anew, or a failure of one of its consumers is retried. -/
def Resumes (rules : RecoveryRules) (queue : String) (state : Option QueueState) : Op → Prop
  | .declared name found => name = queue ∧ found = true ∧ state = some .missing
  | .track name => name = queue ∧ state = none
  | .failure name error _ => name = queue ∧ state ≠ none ∧ rules.Retries error
  | _ => False

/-- The transitions that leave `fatal`: the queue is forgotten, or a failure of one of its consumers
is retried or pauses the queue. -/
def Revives (rules : RecoveryRules) (queue : String) : Op → Prop
  | .forget name => name = queue
  | .failure name error now => name = queue ∧ (rules.Retries error ∨ rules.Pauses error now)
  | _ => False

end Op

variable {s : Supervisor} {queue : String}

/-! ### One operation -/

theorem get?_modify_queue (s : Supervisor) (name queue : String) (f : TrackedQueue → TrackedQueue) :
    (s.queues.modify name f).get? queue =
      if name = queue then (s.queues.get? queue).map f else s.queues.get? queue := by
  rw [Table.get?_modify]
  exact if_congr eq_comm rfl rfl

theorem state?_modify (s : Supervisor) (name queue : String) (f : TrackedQueue → TrackedQueue)
    {move : QueueState → QueueState} (moves : ∀ tracked, (f tracked).state = move tracked.state) :
    ((s.queues.modify name f).get? queue).map (·.state) =
      if name = queue then (s.state? queue).map move else s.state? queue := by
  rw [get?_modify_queue, state?]
  split
  next =>
    rw [Option.map_map, Option.map_map]
    exact congrArg (Option.map · _) (funext moves)
  next => rfl

theorem state?_setState (s : Supervisor) (name queue : String) (state : QueueState) :
    (s.setState name state).state? queue =
      if name = queue then (s.state? queue).map fun _ => state else s.state? queue :=
  state?_modify s name queue _ fun _ => rfl

/-- A map over all entries of a table reaches every value. -/
theorem get?_map_entries {α : Type} (entries : List (String × α)) (f : α → α) (key : String) :
    (⟨entries.map fun entry => (entry.1, f entry.2)⟩ : Table String α).get? key =
      ((⟨entries⟩ : Table String α).get? key).map f := by
  induction entries with
  | nil => rfl
  | cons entry rest ih =>
    rw [List.map_cons, Table.get?_mk_cons, Table.get?_mk_cons, ih]
    split <;> rfl

/-- **A failure changes what is kept of the queue of its consumer**, and of no other. -/
theorem get?_onFailure (s : Supervisor) (name queue : String) (error : ClientError)
    (now : Instant) : (s.onFailure name error now).2.queues.get? queue =
      if name = queue then (s.queues.get? queue).map (s.rules.keepAfterFailure error now)
      else s.queues.get? queue := by
  have stays : s.queues.get? queue = if name = queue then
      (s.queues.get? queue).map fun tracked => tracked else s.queues.get? queue := by
    rw [Option.map_id_fun', id, ite_self]
  have set := fun state => s.get?_modify_queue name queue fun tracked => { tracked with state }
  have retried := (scheduleRetry_keeps (s.setState name .recovering) error now).2
  unfold onFailure RecoveryRules.keepAfterFailure
  cases error.kind with
  | missingQueue =>
    dsimp only
    by_cases fatal : s.rules.missingFatal = true
    · simp only [fatal, if_true]
      exact set .fatal
    · simp only [fatal, Bool.false_eq_true, if_false]
      unfold pause
      cases now.after s.rules.declarationRetry with
      | error fault => exact stays
      | ok next => exact s.get?_modify_queue name queue _
  | authentication =>
    dsimp only
    by_cases fatal : s.rules.authenticationFatal = true
    · simp only [fatal, if_true]
      exact set .fatal
    · simp only [fatal, Bool.false_eq_true, if_false]
      rw [retried]
      exact set .recovering
  | connection =>
    dsimp only
    rw [retried]
    exact set .recovering
  | channel | cancelled => exact stays

theorem get?_look (s : Supervisor) (queue : String) (now : Instant) :
    (s.serve (.look now)).queues.get? queue =
      (s.queues.get? queue).map (s.rules.keepAfterLook now) := by
  have undue : (s.queues.entries.filter fun entry => entry.2.isDue now) = [] →
      (s.queues.get? queue).map (s.rules.keepAfterLook now) = s.queues.get? queue := by
    intro none
    cases found : s.queues.get? queue with
    | none => rfl
    | some tracked =>
      have rests : ¬ tracked.isDue now = true :=
        List.filter_eq_nil_iff.mp none _ (Table.mem_entries_of_get? found)
      exact congrArg some (if_neg rests)
  unfold serve takeDue
  dsimp only
  by_cases none : ((s.queues.entries.filter fun entry => entry.2.isDue now).map (·.1)).isEmpty = true
  · rw [if_pos none, undue (List.map_eq_nil_iff.mp (List.isEmpty_iff.mp none))]
  · rw [if_neg none]
    cases reached : now.after s.rules.declarationRetry with
    | error fault =>
      have same : s.rules.keepAfterLook now = id := by
        funext tracked
        simp [RecoveryRules.keepAfterLook, reached]
      rw [same, Option.map_id_fun, id]
    | ok next =>
      rw [← get?_map_entries]
      refine congrArg (fun entries => (Table.mk entries).get? queue) (List.map_congr_left ?_)
      intro entry _
      simp only [RecoveryRules.keepAfterLook, reached]
      split <;> rfl

theorem get?_declarationResult (s : Supervisor) (name queue : String) (found : Bool) :
    (s.declarationResult name found).2.queues.get? queue =
      if name = queue ∧ found = true ∧ s.state? queue = some .missing then
        some ⟨.declared, none⟩
      else s.queues.get? queue := by
  unfold declarationResult
  split
  next resumed =>
    rw [Bool.and_eq_true, decide_eq_true_eq] at resumed
    show (s.queues.modify name _).get? queue = _
    rw [get?_modify_queue]
    by_cases same : name = queue
    · subst same
      obtain ⟨tracked, kept, -⟩ := Option.map_eq_some_iff.mp resumed.2
      rw [if_pos rfl, if_pos ⟨rfl, resumed⟩, kept, Option.map_some]
    · rw [if_neg same, if_neg fun both => same both.1]
  next other =>
    rw [Bool.and_eq_true, decide_eq_true_eq] at other
    refine (if_neg ?_).symm
    rintro ⟨rfl, resumed⟩
    exact other resumed

/-- **What a supervisor keeps of a queue**, operation by operation. -/
theorem get?_serve (s : Supervisor) (queue : String) (op : Op) :
    (s.serve op).queues.get? queue = op.keep s.rules queue (s.queues.get? queue) := by
  cases op with
  | track name =>
    show (s.track name).queues.get? queue = if _ then _ else _
    unfold track
    by_cases present : s.queues.contains name = true
    · obtain ⟨tracked, found⟩ := Table.exists_get?_of_contains present
      rw [if_pos present]
      split
      next same => rw [← same, found, Option.getD_some]
      next => rfl
    · have untracked : s.queues.get? name = none := by
        rwa [Table.contains, Bool.not_eq_true, Option.isSome_eq_false_iff,
          Option.isNone_iff_eq_none] at present
      rw [if_neg present, Table.get?_set]
      refine if_ctx_congr eq_comm (fun same => ?_) fun _ => rfl
      rw [← same, untracked, Option.getD_none]
  | forget name =>
    show (s.queues.erase name).get? queue = if _ then _ else _
    rw [Table.get?_erase]
    exact if_congr eq_comm rfl rfl
  | consumeOk name => exact s.get?_modify_queue name queue _
  | failure name error now => exact s.get?_onFailure name queue error now
  | beginAttempt | abandonRound => rfl
  | look now => exact s.get?_look queue now
  | declared name found => exact s.get?_declarationResult name queue found
  | markAllFatal =>
    exact get?_map_entries s.queues.entries (fun tracked => { tracked with state := .fatal }) queue

/-- The diagram is what is seen of it. -/
theorem Op.keep_state (rules : RecoveryRules) (queue : String) (kept : Option TrackedQueue)
    (op : Op) :
    (op.keep rules queue kept).map (·.state) = op.move rules queue (kept.map (·.state)) := by
  have failed : ∀ error now (tracked : TrackedQueue),
      (rules.keepAfterFailure error now tracked).state =
        rules.afterFailure error now tracked.state := by
    intro error now tracked
    unfold RecoveryRules.keepAfterFailure RecoveryRules.afterFailure
    cases error.kind with
    | missingQueue =>
      cases rules.missingFatal <;> cases now.after rules.declarationRetry <;> rfl
    | authentication | connection | channel | cancelled => rfl
  have looked : ∀ now (tracked : TrackedQueue),
      (rules.keepAfterLook now tracked).state = tracked.state := by
    intro now tracked
    unfold RecoveryRules.keepAfterLook
    split
    next => cases now.after rules.declarationRetry <;> rfl
    next => rfl
  cases op with
  | declared name found =>
    show (if _ then _ else _ : Option TrackedQueue).map _ = if _ then _ else _
    split <;> rfl
  | track name | forget name | failure name error now =>
    show (if _ then _ else _ : Option TrackedQueue).map _ = if _ then _ else _
    split
    next => cases kept <;> simp [failed]
    next => rfl
  | consumeOk name =>
    show (if _ then _ else _ : Option TrackedQueue).map _ = if _ then _ else _
    split
    next =>
      rw [Option.map_map, Option.map_map]
      refine congrArg (Option.map · kept) (funext fun tracked => ?_)
      exact apply_ite TrackedQueue.state _ _ _
    next => rfl
  | look now => cases kept <;> simp [keep, move, looked]
  | beginAttempt | abandonRound => rfl
  | markAllFatal => cases kept <;> rfl

/-- **A supervisor follows the diagram of every queue.** -/
theorem state?_serve (s : Supervisor) (queue : String) (op : Op) :
    (s.serve op).state? queue = op.move s.rules queue (s.state? queue) := by
  rw [state?, get?_serve, Op.keep_state, state?]

theorem serve_rules (s : Supervisor) (op : Op) : (s.serve op).rules = s.rules := by
  cases op with
  | track name =>
    show (s.track name).rules = s.rules
    unfold track
    split <;> rfl
  | failure name error now => exact onFailure_rules s name error now
  | look now =>
    unfold serve
    dsimp only
    split
    next taken after answered =>
      have met : s.meet (.look now) = .ok after := by
        rw [meet, answered]
        rfl
      exact (takeDue_keeps met).1
    next => rfl
  | declared name found => exact (declarationResult_keeps s name found).1
  | forget | consumeOk | beginAttempt | abandonRound | markAllFatal => rfl

/-- A supervisor follows the diagram through every sequence of operations. -/
theorem state?_serveAll (s : Supervisor) (queue : String) (ops : List Op) :
    (s.serveAll ops).rules = s.rules ∧ (s.serveAll ops).state? queue =
      ops.foldl (Op.move s.rules queue) (s.state? queue) := by
  induction ops generalizing s with
  | nil => exact ⟨rfl, rfl⟩
  | cons op ops ih =>
    obtain ⟨rules, state⟩ := ih (s.serve op)
    rw [serve_rules, state?_serve] at state
    exact ⟨rules.trans (serve_rules s op), state⟩

/-! ### What leaves a state -/

/-- Whether consumers may run on a queue in a state. -/
theorem isConsumable_eq (s : Supervisor) (queue : String) :
    s.isConsumable queue = (s.state? queue).any QueueState.isConsumable := by
  unfold isConsumable
  cases s.state? queue <;> rfl

/-- A failure makes a queue consumable exactly when it is retried, unless it was consumable. -/
theorem afterFailure_isConsumable {rules : RecoveryRules} {error : ClientError} {now : Instant}
    {state : QueueState} (asleep : state.isConsumable = false) :
    (rules.afterFailure error now state).isConsumable = true ↔ rules.Retries error := by
  have gone : QueueState.missing.isConsumable = false := rfl
  have lost : QueueState.fatal.isConsumable = false := rfl
  have waits : QueueState.recovering.isConsumable = true := rfl
  unfold RecoveryRules.afterFailure RecoveryRules.Retries
  cases error.kind with
  | missingQueue =>
    cases rules.missingFatal <;> cases now.after _ <;> simp [Except.toBool, asleep, gone, lost]
  | authentication => cases rules.authenticationFatal <;> simp [waits, lost]
  | connection => simp [waits]
  | channel | cancelled => simp [asleep]

/-- A failure leaves `fatal` exactly when it is retried or pauses the queue. -/
theorem afterFailure_ne_fatal {rules : RecoveryRules} {error : ClientError} {now : Instant} :
    rules.afterFailure error now .fatal ≠ .fatal ↔
      rules.Retries error ∨ rules.Pauses error now := by
  unfold RecoveryRules.afterFailure RecoveryRules.Retries RecoveryRules.Pauses
  cases error.kind with
  | missingQueue => cases rules.missingFatal <;> cases now.after _ <;> simp [Except.toBool]
  | authentication => cases rules.authenticationFatal <;> simp
  | connection | channel | cancelled => simp

/-- **A queue that cannot be consumed comes back by one of three transitions.** -/
theorem serve_resumes_iff (asleep : s.isConsumable queue = false) (op : Op) :
    (s.serve op).isConsumable queue = true ↔ op.Resumes s.rules queue (s.state? queue) := by
  rw [isConsumable_eq] at asleep ⊢
  rw [state?_serve]
  have stays : (s.state? queue).any QueueState.isConsumable = true ↔ False := by simp [asleep]
  cases op with
  | track name =>
    by_cases same : name = queue
    · cases state : s.state? queue <;> simp_all [Op.move, Op.Resumes, QueueState.isConsumable]
    · simp [Op.move, Op.Resumes, same, asleep]
  | forget name =>
    by_cases same : name = queue <;> simp [Op.move, Op.Resumes, same, asleep]
  | consumeOk name =>
    by_cases same : name = queue
    · cases state : s.state? queue with
      | none => simp [Op.move, Op.Resumes, same]
      | some old => cases old <;> simp_all [Op.move, Op.Resumes, QueueState.isConsumable]
    · simp [Op.move, Op.Resumes, same, asleep]
  | failure name error now =>
    by_cases same : name = queue
    · cases state : s.state? queue with
      | none => simp [Op.move, Op.Resumes, same]
      | some old =>
        rw [state] at asleep
        simpa [Op.move, Op.Resumes, same] using afterFailure_isConsumable asleep
    · simp [Op.move, Op.Resumes, same, asleep]
  | declared name found =>
    show (if _ then _ else _ : Option QueueState).any _ = true ↔ _ ∧ _
    split
    next resumed => exact iff_of_true rfl resumed
    next other => exact stays.trans (iff_of_false id other)
  | markAllFatal => cases s.state? queue <;> simp [Op.move, Op.Resumes, QueueState.isConsumable]
  | beginAttempt | abandonRound | look => exact stays

/-- **A queue that is fatal is revived by one of two transitions.** -/
theorem serve_revives_iff (fatal : s.state? queue = some .fatal) (op : Op) :
    (s.serve op).state? queue ≠ some .fatal ↔ op.Revives s.rules queue := by
  rw [state?_serve, fatal]
  cases op with
  | failure name error now =>
    by_cases same : name = queue
    · simpa [Op.move, Op.Revives, same] using afterFailure_ne_fatal
    · simp [Op.move, Op.Revives, same]
  | track name | forget name | consumeOk name =>
    by_cases same : name = queue <;> simp [Op.move, Op.Revives, same]
  | declared | markAllFatal | beginAttempt | abandonRound | look => simp [Op.move, Op.Revives]

/-! ### Runs -/

/-- What does not hold at first holds at some point of a run exactly when an operation brings it
about. -/
theorem reaches_iff (holds : Supervisor → Prop) {brings : Supervisor → Op → Prop}
    (begins : ¬ holds s) (steps : ∀ now op, ¬ holds now → (holds (now.serve op) ↔ brings now op))
    (ops : List Op) : (∃ before, before <+: ops ∧ holds (s.serveAll before)) ↔
      ∃ before op after, ops = before ++ op :: after ∧ ¬ holds (s.serveAll before) ∧
        brings (s.serveAll before) op := by
  constructor
  · rintro ⟨before, reached, later⟩
    induction before generalizing s ops with
    | nil => exact absurd later begins
    | cons op before ih =>
      obtain ⟨after, rfl⟩ := reached
      by_cases now : holds (s.serve op)
      · exact ⟨[], op, before ++ after, rfl, begins, (steps s op begins).mp now⟩
      · obtain ⟨before', op', after', split, not, brought⟩ := ih now _ (List.prefix_append _ _) later
        exact ⟨op :: before', op', after', congrArg (op :: ·) split, not, brought⟩
  · rintro ⟨before, op, after, rfl, not, brought⟩
    refine ⟨before ++ [op], ⟨after, by simp⟩, ?_⟩
    have last : s.serveAll (before ++ [op]) = (s.serveAll before).serve op := by simp [serveAll]
    rw [last, steps _ _ not]
    exact brought

/-- Only one operation leaves a queue untracked. -/
theorem forget_of_move {rules : RecoveryRules} {state : QueueState} {op : Op}
    (untracked : op.move rules queue (some state) = none) : op = .forget queue := by
  cases op with
  | forget name =>
    by_cases same : name = queue
    · rw [same]
    · simp [Op.move, same] at untracked
  | track name | consumeOk name | failure name =>
    by_cases same : name = queue <;> simp [Op.move, same] at untracked
  | declared name found =>
    replace untracked : (if _ then _ else _ : Option QueueState) = none := untracked
    split at untracked <;> cases untracked
  | beginAttempt | abandonRound | look | markAllFatal => simp [Op.move] at untracked

/-- A queue that is not tracked any more was forgotten. -/
theorem forgotten_of_untracked {ops : List Op} (tracked : s.state? queue ≠ none)
    (untracked : (s.serveAll ops).state? queue = none) : .forget queue ∈ ops := by
  induction ops generalizing s with
  | nil => exact absurd untracked tracked
  | cons op ops ih =>
    by_cases still : (s.serve op).state? queue = none
    · rw [state?_serve] at still
      obtain ⟨state, found⟩ := Option.ne_none_iff_exists'.mp tracked
      rw [found] at still
      rw [forget_of_move still]
      exact List.mem_cons_self
    · exact List.mem_cons_of_mem _ (ih still untracked)

/-- **Which operations bring a queue back that was given up.** A queue that is missing can be
consumed again at some point of a run exactly when it is found again, or tracked anew after it was
forgotten, or when the failure of one of its consumers is retried. A queue that is fatal leaves that
state exactly when it is forgotten, or when a failure of one of its consumers is retried or pauses
it. -/
theorem run_resumes_iff (s : Supervisor) (queue : String) (ops : List Op) :
    (s.state? queue = some .missing →
      ((∃ before, before <+: ops ∧ (s.serveAll before).isConsumable queue = true) ↔
        ∃ before op after, ops = before ++ op :: after ∧
          (s.serveAll before).isConsumable queue = false ∧
          op.Resumes s.rules queue ((s.serveAll before).state? queue) ∧
          (op = .track queue → .forget queue ∈ before))) ∧
    (s.state? queue = some .fatal →
      ((∃ before, before <+: ops ∧ (s.serveAll before).state? queue ≠ some .fatal) ↔
        ∃ op ∈ ops, op.Revives s.rules queue)) := by
  refine ⟨fun missing => ?_, fun fatal => ?_⟩
  · have asleep : ¬ s.isConsumable queue = true := by
      rw [isConsumable_eq, missing]
      exact Bool.false_ne_true
    rw [reaches_iff (·.isConsumable queue = true) asleep fun now op sleeps =>
      serve_resumes_iff (Bool.eq_false_iff.mpr sleeps) op]
    simp only [Bool.not_eq_true, (state?_serveAll s queue _).1]
    refine exists_congr fun before => exists_congr fun op => exists_congr fun after =>
      and_congr_right fun _ => and_congr_right fun _ => (and_iff_left_of_imp ?_).symm
    rintro resumes rfl
    exact forgotten_of_untracked (by rw [missing]; exact nofun) resumes.2
  · have begins : ¬ s.state? queue ≠ some .fatal := not_not.mpr fatal
    have leaves := reaches_iff (·.state? queue ≠ some .fatal) begins
      (fun now op stays => serve_revives_iff (not_not.mp stays) op) ops
    simp only [(state?_serveAll s queue _).1] at leaves
    constructor
    · intro left
      obtain ⟨before, op, after, rfl, -, revives⟩ := leaves.mp left
      exact ⟨op, by simp, revives⟩
    · rintro ⟨op, member, revives⟩
      obtain ⟨before, after, rfl⟩ := List.append_of_mem member
      by_cases earlier : (s.serveAll before).state? queue = some .fatal
      · exact leaves.mpr ⟨before, op, after, rfl, not_not.mpr earlier, revives⟩
      · exact ⟨before, List.prefix_append _ _, earlier⟩

/-- Rejected credentials are fatal, a missing queue is not. -/
def tolerant : RecoveryRules :=
  ⟨.fixed (Duration.ofMillis 100) (some 3), false, true, Duration.ofSeconds 5⟩

/-- One queue is missing, and another one is fatal. -/
def oneMissing : Supervisor :=
  (watching tolerant ["orders", "audit"]).serveAll
    [.failure "orders" (.queueNotFound "orders") 0,
      .failure "audit" (.authentication "ACCESS_REFUSED") 0]

/-- The queue that is missing is looked for and found; the fatal one is forgotten. -/
theorem run_resumes_iff_found :
    oneMissing.state? "orders" = some .missing ∧ oneMissing.state? "audit" = some .fatal ∧
      (∃ before, before <+: [.look (Instant.ofMillis 5000), .declared "orders" true] ∧
        (oneMissing.serveAll before).isConsumable "orders" = true) ∧
      ∃ before, before <+: [.consumeOk "audit", .forget "audit"] ∧
        (oneMissing.serveAll before).state? "audit" ≠ some .fatal := by
  have missing : oneMissing.state? "orders" = some .missing := by decide +kernel
  have fatal : oneMissing.state? "audit" = some .fatal := by decide +kernel
  refine ⟨missing, fatal, ((oneMissing.run_resumes_iff "orders" _).1 missing).mpr ?_,
    ((oneMissing.run_resumes_iff "audit" _).2 fatal).mpr ⟨.forget "audit", by simp, rfl⟩⟩
  exact ⟨[.look (Instant.ofMillis 5000)], .declared "orders" true, [], rfl, by decide +kernel,
    ⟨rfl, rfl, by decide +kernel⟩, nofun⟩

/-- **A late report of another consumer resumes a queue that is missing, and revives one that is
fatal**, although nobody has found or forgotten it. -/
theorem late_failure_resumes :
    oneMissing.state? "orders" = some .missing ∧ oneMissing.isConsumable "orders" = false ∧
      (oneMissing.serve (.failure "orders" (.connection "connection refused")
        (Instant.ofMillis 10))).isConsumable "orders" = true ∧
      oneMissing.state? "audit" = some .fatal ∧
      (oneMissing.serve (.failure "audit" (.connection "connection refused")
        (Instant.ofMillis 10))).state? "audit" = some .recovering := by
  decide +kernel

end Supervisor

end QueueListener
