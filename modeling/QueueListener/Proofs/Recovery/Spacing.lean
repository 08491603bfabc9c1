import Mathlib.Data.String.Basic
import QueueListener.Proofs.Recovery.Deadlines
/-!
# The time between two looks

**A queue is looked for at intervals.** Whatever sets a deadline sets it one interval after the
instant at which it happens. A look that returns a queue has set its deadline, so no later one
returns the queue within the interval, although failures and findings, forgetting and tracking anew
come in between; and as long as nothing but looks concern a queue that is missing, it keeps its
deadline.

* `InOrder` — operations that are asked for while the clock does not go back;
* `Op.Keeps.deadline_cases` — where a deadline comes from;
* `Rests`, `serveAll_rests` — a queue that is not to be looked for before an instant;
* `found_sorted` — the order in which queues are returned;
* `missing_keeps` — a queue that stays missing;
* `run_spaces_looks` — the looks of any run.
-/

namespace QueueListener

namespace Supervisor

/-- The clock does not go back between the operations. -/
def InOrder (ops : List Op) : Prop := (ops.filterMap Op.instant?).Pairwise (· ≤ ·)

/-- A queue is not to be looked for before an instant. -/
def Rests (s : Supervisor) (queue : String) (bound : Instant) : Prop :=
  ∀ deadline, s.deadlineOf? queue = some deadline → bound ≤ deadline

variable {s : Supervisor} {queue : String} {now bound deadline : Instant}

/-! ### Where a deadline comes from -/

/-- **A deadline is the one from before, or lies one interval after the operation that sets it.** -/
theorem Op.Keeps.deadline_cases {rules : RecoveryRules} {op : Op} {kept kept' : Option TrackedQueue}
    (keeps : op.Keeps rules kept kept')
    (dated : kept'.bind TrackedQueue.deadline? = some deadline) :
    kept.bind TrackedQueue.deadline? = some deadline ∨
      ∃ now, op.instant? = some now ∧ deadline = now + rules.declarationRetry := by
  cases keeps with
  | same => exact .inl dated
  | forgotten => cases dated
  | wakes awake => exact absurd (TrackedQueue.deadline?_eq_some_iff.mp dated).1 awake
  | awaits read reached awaited =>
    have same := awaited.symm.trans (TrackedQueue.deadline?_eq_some_iff.mp dated).2
    exact .inr ⟨_, read, Option.some.inj same ▸ Instant.eq_of_after reached⟩

theorem deadlineOf?_serve {op : Op} (dated : (s.serve op).deadlineOf? queue = some deadline) :
    s.deadlineOf? queue = some deadline ∨
      ∃ now, op.instant? = some now ∧ deadline = now + s.rules.declarationRetry := by
  rw [deadlineOf?, get?_serve] at dated
  exact (op.keep_keeps s.rules queue _).deadline_cases dated

/-- **A look gives a queue that it returns a deadline one interval later.** -/
theorem Regular.deadlineOf?_of_found (regular : s.Regular) (found : queue ∈ s.found now) :
    (s.serve (.look now)).deadlineOf? queue = some (now + s.rules.declarationRetry) := by
  obtain ⟨⟨deadline, dated, come⟩, shown⟩ := regular.mem_found_iff.mp found
  obtain ⟨tracked, kept, dated⟩ := Option.bind_eq_some_iff.mp dated
  have missing := (TrackedQueue.deadline?_eq_some_iff.mp dated).1
  have due : tracked.isDue now = true := isDue_iff.mpr ⟨deadline, dated, come⟩
  have next : s.rules.keepAfterLook now tracked =
      { tracked with nextDeclaration := some (now + s.rules.declarationRetry) } := by
    rw [RecoveryRules.keepAfterLook, if_pos due, Instant.after_eq, if_pos shown]
  rw [deadlineOf?, get?_look, kept, Option.map_some, next, Option.bind_some,
    TrackedQueue.deadline?, if_pos missing]

/-! ### The pause after a look -/

/-- An operation at which the interval reaches the bound does not bring a look forward. -/
theorem serve_rests {op : Op} (rests : s.Rests queue bound)
    (late : ∀ now, op.instant? = some now → bound ≤ now + s.rules.declarationRetry) :
    (s.serve op).Rests queue bound := by
  intro deadline dated
  obtain earlier | ⟨now, read, rfl⟩ := deadlineOf?_serve dated
  · exact rests deadline earlier
  · exact late now read

theorem serveAll_rests {ops : List Op} (rests : s.Rests queue bound)
    (late : ∀ op ∈ ops, ∀ now, op.instant? = some now → bound ≤ now + s.rules.declarationRetry) :
    (s.serveAll ops).Rests queue bound := by
  induction ops generalizing s with
  | nil => exact rests
  | cons op ops ih =>
    refine ih (serve_rests rests (late op List.mem_cons_self)) ?_
    rw [serve_rules]
    exact fun other member => late other (List.mem_cons_of_mem op member)

/-- **Two looks that return the same queue lie an interval apart.** -/
theorem Regular.found_again {ops : List Op} {first later : Instant} (regular : s.Regular)
    (ordered : InOrder (.look first :: ops)) (found : queue ∈ s.found first)
    (again : queue ∈ (s.serveAll (.look first :: ops)).found later) :
    first + s.rules.declarationRetry ≤ later := by
  have rests : (s.serve (.look first)).Rests queue (first + s.rules.declarationRetry) := by
    intro deadline dated
    rw [regular.deadlineOf?_of_found found] at dated
    exact (Option.some.inj dated).le
  have since : ∀ op ∈ ops, ∀ now, op.instant? = some now → first ≤ now := by
    intro op member now read
    exact List.rel_of_pairwise_cons ordered (List.mem_filterMap.mpr ⟨op, member, read⟩)
  have still : ((s.serve (.look first)).serveAll ops).Rests queue
      (first + s.rules.declarationRetry) := by
    refine serveAll_rests rests fun op member now read => ?_
    rw [serve_rules]
    exact Int.add_le_add_right (since op member now read) _
  have once := regular.serveAll (.look first :: ops)
  obtain ⟨⟨deadline, dated, come⟩, -⟩ := once.mem_found_iff.mp again
  exact (still deadline dated).trans come

/-! ### What one look returns -/

/-- **A look returns every queue once, in alphabetical order.** -/
theorem Regular.found_sorted (regular : s.Regular) : (s.found now).Pairwise (· < ·) := by
  by_cases shown : now + s.rules.declarationRetry ≤ Instant.latest
  · rw [found_of_shown shown]
    have distinct : ((s.queues.entries.filter fun entry => entry.2.isDue now).map (·.1)).Nodup :=
      regular.distinct.sublist (List.filter_sublist.map _)
    generalize (s.queues.entries.filter fun entry => entry.2.isDue now).map (·.1) = due at distinct
    have sorted : (due.mergeSort fun a b => decide (a ≤ b)).Pairwise
        fun a b => decide (a ≤ b) = true :=
      List.pairwise_mergeSort (fun a b c => by simpa using le_trans)
        (fun a b => by simpa using le_total a b) due
    have once := (List.mergeSort_perm due fun a b => decide (a ≤ b)).nodup_iff.mpr distinct
    exact (sorted.and once).imp fun ⟨ordered, differ⟩ =>
      lt_of_le_of_ne (of_decide_eq_true ordered) differ
  · rw [found_of_beyond shown]
    exact List.Pairwise.nil

/-- A look returns missing queues only. -/
theorem Regular.missing_of_found (regular : s.Regular) (found : queue ∈ s.found now) :
    s.state? queue = some .missing := by
  obtain ⟨⟨deadline, dated, -⟩, -⟩ := regular.mem_found_iff.mp found
  obtain ⟨tracked, kept, dated⟩ := Option.bind_eq_some_iff.mp dated
  rw [state?, kept]
  exact congrArg some (TrackedQueue.deadline?_eq_some_iff.mp dated).1

/-! ### A queue that stays missing -/

/-- A queue that is still missing after an operation has kept its deadline, unless the operation is
a failure of the queue or a look at which it is due. -/
theorem missing_keeps {op : Op} (kept : s.queues.get? queue = some ⟨.missing, some deadline⟩)
    (still : (s.serve op).state? queue = some .missing)
    (unreported : ∀ error now, op ≠ .failure queue error now)
    (early : ∀ now, op = .look now → now < deadline) :
    (s.serve op).queues.get? queue = some ⟨.missing, some deadline⟩ := by
  rw [state?, get?_serve, kept] at still
  rw [get?_serve, kept]
  cases op with
  | track name => exact ite_self _
  | forget name =>
    refine if_neg fun same => ?_
    rw [Op.keep, if_pos same] at still
    cases still
  | consumeOk name => exact ite_self _
  | failure name error now =>
    exact if_neg fun same => unreported error now (congrArg (Op.failure · error now) same)
  | beginAttempt | abandonRound => rfl
  | look now =>
    have undue : ¬ (⟨.missing, some deadline⟩ : TrackedQueue).isDue now = true := by
      rw [isDue_iff]
      rintro ⟨_, ⟨⟩, come⟩
      exact (early now rfl).not_ge come
    exact congrArg some (if_neg undue)
  | declared name found =>
    refine if_neg fun resumed => ?_
    rw [Op.keep, if_pos resumed] at still
    cases still
  | markAllFatal => cases still

theorem missing_stays {ops : List Op}
    (kept : s.queues.get? queue = some ⟨.missing, some deadline⟩)
    (still : ∀ part, part <+: ops → (s.serveAll part).state? queue = some .missing)
    (unreported : ∀ error now, .failure queue error now ∉ ops)
    (early : ∀ now, .look now ∈ ops → now < deadline) :
    (s.serveAll ops).queues.get? queue = some ⟨.missing, some deadline⟩ := by
  induction ops generalizing s with
  | nil => exact kept
  | cons op ops ih =>
    refine ih (missing_keeps kept (still [op] (List.prefix_append [op] ops)) ?_ ?_) ?_ ?_ ?_
    · rintro error now rfl
      exact unreported error now List.mem_cons_self
    · rintro now rfl
      exact early now List.mem_cons_self
    · exact fun part begins => still (op :: part) (List.cons_prefix_cons.mpr ⟨rfl, begins⟩)
    · exact fun error now member => unreported error now (List.mem_cons_of_mem op member)
    · exact fun now member => early now (List.mem_cons_of_mem op member)

/-! ### Runs -/

/-- **How a run looks for missing queues.** While the clock does not go back, two looks that return
the same queue lie at least one interval apart, whatever happens in between. A look returns missing
queues only, each of them once and in alphabetical order. And a queue that stays missing and is not
reported again is returned by the first look at or after its deadline, as long as the clock can show
the deadline after it. -/
theorem run_spaces_looks (rules : RecoveryRules) (ops : List Op) (ordered : InOrder ops)
    (queue : String) :
    (∀ before first between later after,
      ops = before ++ .look first :: between ++ .look later :: after →
      queue ∈ ((new rules).serveAll before).found first →
      queue ∈ ((new rules).serveAll (before ++ .look first :: between)).found later →
      first + rules.declarationRetry ≤ later) ∧
    (∀ before now after, ops = before ++ .look now :: after →
      let s := (new rules).serveAll before
      (s.found now).Pairwise (· < ·) ∧
        (queue ∈ s.found now → s.state? queue = some .missing)) ∧
    ∀ before between now after deadline, ops = before ++ between ++ .look now :: after →
      ((new rules).serveAll before).queues.get? queue = some ⟨.missing, some deadline⟩ →
      (∀ part, part <+: between →
        ((new rules).serveAll (before ++ part)).state? queue = some .missing) →
      (∀ error reported, .failure queue error reported ∉ between) →
      (∀ earlier, .look earlier ∈ between → earlier < deadline) → deadline ≤ now →
      queue ∈ ((new rules).serveAll (before ++ between)).found now ∨
        Instant.latest < now + rules.declarationRetry := by
  have regular : ∀ ops, ((new rules).serveAll ops).Regular := (new_regular rules).serveAll
  have same : ∀ ops, ((new rules).serveAll ops).rules = rules := serveAll_rules (new rules)
  refine ⟨?_, ?_, ?_⟩
  · rintro before first between later after rfl found again
    have part : InOrder (.look first :: between) := by
      refine List.Pairwise.sublist (List.Sublist.filterMap _ ?_) ordered
      exact (List.sublist_append_right before _).trans (List.sublist_append_left _ _)
    rw [serveAll_append] at again
    have apart := (regular before).found_again part found again
    rwa [same] at apart
  · intro before now after _
    exact ⟨(regular before).found_sorted, (regular before).missing_of_found⟩
  · rintro before between now after deadline rfl kept still unreported early come
    refine or_iff_not_imp_right.mpr fun shown => ?_
    simp only [serveAll_append] at still
    have stays := missing_stays kept still unreported early
    rw [← serveAll_append] at stays
    refine (regular _).mem_found_iff.mpr ⟨⟨deadline, ?_, come⟩, ?_⟩
    · rw [deadlineOf?, stays]
      rfl
    · rw [same]
      exact Int.not_lt.mp shown

/-- A queue is missing, and looked for in vain; then it is forgotten, tracked anew, and missing
again. -/
def lostTwice : List Op :=
  [.track "orders", .failure "orders" (.queueNotFound "orders") 0,
    .look (Instant.ofMillis 4000), .look (Instant.ofMillis 5000), .forget "orders",
    .track "orders", .failure "orders" (.queueNotFound "orders") (Instant.ofMillis 6000),
    .look (Instant.ofMillis 11000)]

/-- The look after five seconds returns the queue, and so does the one six seconds later; the one
after four seconds comes too early. -/
theorem run_spaces_looks_lostTwice :
    InOrder lostTwice ∧
      "orders" ∈ ((new tolerant).serveAll (lostTwice.take 3)).found (Instant.ofMillis 5000) ∧
      ((new tolerant).serveAll (lostTwice.take 3)).state? "orders" = some .missing ∧
      Instant.ofMillis 5000 + tolerant.declarationRetry ≤ Instant.ofMillis 11000 := by
  have ordered : InOrder lostTwice := by
    unfold InOrder
    decide +kernel
  obtain ⟨apart, looks, returns⟩ := run_spaces_looks tolerant lostTwice ordered "orders"
  have found : "orders" ∈
      ((new tolerant).serveAll (lostTwice.take 3)).found (Instant.ofMillis 5000) := by
    refine (returns (lostTwice.take 2) [.look (Instant.ofMillis 4000)] _ (lostTwice.drop 4)
      (Instant.ofMillis 5000) rfl (by decide +kernel) ?_ (by simp) ?_ le_rfl).resolve_right
      (by decide +kernel)
    · intro part begins
      obtain rfl | ⟨rest, rfl, more⟩ := List.prefix_cons_iff.mp begins
      · decide +kernel
      · cases List.prefix_nil.mp more
        decide +kernel
    · intro earlier member
      cases List.mem_singleton.mp member
      decide +kernel
  refine ⟨ordered, found, (looks (lostTwice.take 3) _ (lostTwice.drop 4) rfl).2 found, ?_⟩
  exact apart (lostTwice.take 3) _ ((lostTwice.drop 4).take 3) _ [] rfl found (by decide +kernel)

end Supervisor

end QueueListener
