import QueueListener.Proofs.Registry.Soundness
/-!
# How a registry hands its consumers over

**No consumer gets lost between the registry and the list of those to retire.** Whoever served a queue
before a look or a convergence serves one afterwards or is retired, and so does everybody who is
started meanwhile, with the next numbers.

* `Employs` — the consumers of all queues;
* `HandsOver` — what becomes of them while changes are collected;
* `converge_handsOver`, `tick_handsOver` — a convergence and a tick;
* `remove_employs`, `dropConsumers_employs`, `beginStop_employs` — queues that are given up.
-/

namespace QueueListener.Registry

/-- Some queue has the consumer. -/
def Employs (r : Registry) (id : Nat) : Prop := ∃ queue, id ∈ r.consumersOf queue

variable {r r' : Registry} {acc acc' acc'' : Registry × Changes} {new more : List (Nat × String)}
  {queue : String}

/-- Who is employed depends on nothing but the consumers. -/
theorem employs_congr (same : r'.consumers = r.consumers) {id : Nat} :
    r'.Employs id ↔ r.Employs id := by
  unfold Employs consumersOf
  rw [same]

/-- Whoever is employed is among all consumers. -/
theorem Employs.mem_allConsumers {id : Nat} (employed : r.Employs id) : id ∈ r.allConsumers := by
  obtain ⟨queue, serves⟩ := employed
  unfold consumersOf at serves
  cases found : r.consumers.get? queue with
  | none =>
    rw [found] at serves
    cases serves
  | some ids =>
    rw [found] at serves
    exact List.mem_flatten.mpr
      ⟨ids, List.mem_map_of_mem (Table.mem_entries_of_get? found), serves⟩

/-! ### Changes that are collected -/

/-- Between two stages of collecting changes those consumers were started, with the next numbers, and
nobody got lost. -/
structure HandsOver (acc acc' : Registry × Changes) (new : List (Nat × String)) : Prop where
  steady : acc.1.Steady acc'.1
  last : acc'.1.lastConsumer = acc.1.lastConsumer + new.length
  numbers : new.map (·.1) = acc.1.upcoming new.length
  started : acc'.2.started = acc.2.started ++ new
  known : ∀ id, acc.1.Employs id ∨ id ∈ acc.2.retired ∨ id ∈ new.map (·.1) →
    acc'.1.Employs id ∨ id ∈ acc'.2.retired

namespace HandsOver

theorem refl (acc : Registry × Changes) : HandsOver acc acc [] where
  steady := .refl _
  last := rfl
  numbers := rfl
  started := (List.append_nil _).symm
  known _ known := known.imp_right fun gone => gone.resolve_right List.not_mem_nil

theorem trans (first : HandsOver acc acc' new) (second : HandsOver acc' acc'' more) :
    HandsOver acc acc'' (new ++ more) where
  steady := first.steady.trans second.steady
  last := by rw [second.last, first.last, List.length_append, Nat.add_assoc]
  numbers := by
    rw [List.map_append, first.numbers, second.numbers, List.length_append]
    unfold upcoming
    rw [first.last, ← List.range'_append_1, Nat.add_right_comm]
  started := by rw [second.started, first.started, List.append_assoc]
  known id known := by
    have later : ∀ id, acc'.1.Employs id ∨ id ∈ acc'.2.retired →
        acc''.1.Employs id ∨ id ∈ acc''.2.retired :=
      fun id known => second.known id (known.imp_right .inl)
    rw [List.map_append, List.mem_append] at known
    obtain employed | gone | early | late := known
    · exact later id (first.known id (.inl employed))
    · exact later id (first.known id (.inr (.inl gone)))
    · exact later id (first.known id (.inr (.inr early)))
    · exact second.known id (.inr (.inr late))

/-- A change of one queue, all of whose consumers stay or leave. -/
theorem of_staffs {stay leave : List Nat} {count : Nat}
    (staffs : Staffs acc acc' queue stay leave count)
    (all : ∀ id ∈ acc.1.consumersOf queue, id ∈ stay ∨ id ∈ leave) :
    HandsOver acc acc' ((acc.1.upcoming count).map (·, queue)) := by
  have fresh : ((acc.1.upcoming count).map (·, queue)).map (·.1) = acc.1.upcoming count := by
    rw [List.map_map]
    exact List.map_id _
  have count' : ((acc.1.upcoming count).map (·, queue)).length = count := by
    rw [List.length_map, upcoming, List.length_range']
  exact {
    steady := staffs.alike.toSteady
    last := by rw [staffs.last, count']
    numbers := by rw [fresh, count']
    started := staffs.started
    known := fun id known => by
      rw [fresh] at known
      rw [staffs.retired, List.mem_append]
      obtain ⟨other, serves⟩ | gone | comes := known
      · by_cases here : other = queue
        · subst here
          obtain stays | leaves := all id serves
          · exact .inl ⟨other, by rw [staffs.here]; exact List.mem_append_left _ stays⟩
          · exact .inr (.inr leaves)
        · exact .inl ⟨other, by rw [staffs.others other here]; exact serves⟩
      · exact .inr (.inl gone)
      · exact .inl ⟨queue, by rw [staffs.here]; exact List.mem_append_right _ comes⟩ }

/-- One queue after the other. -/
theorem foldl {step : Registry × Changes → String → Registry × Changes}
    (each : ∀ acc queue, ∃ new, HandsOver acc (step acc queue) new) (queues : List String)
    (acc : Registry × Changes) : ∃ new, HandsOver acc (queues.foldl step acc) new := by
  induction queues generalizing acc with
  | nil => exact ⟨[], .refl acc⟩
  | cons queue queues ih =>
    obtain ⟨new, first⟩ := each acc queue
    obtain ⟨more, rest⟩ := ih (step acc queue)
    exact ⟨new ++ more, first.trans rest⟩

/-- The supervisor has no say in who is employed. -/
theorem recast (hands : HandsOver acc acc' new) (steady : acc'.1.Steady r')
    (last : r'.lastConsumer = acc'.1.lastConsumer) (same : r'.consumers = acc'.1.consumers) :
    HandsOver acc (r', acc'.2) new where
  steady := hands.steady.trans steady
  last := last.trans hands.last
  numbers := hands.numbers
  started := hands.started
  known id known := (hands.known id known).imp_left (employs_congr same).mpr

end HandsOver

/-! ### Convergences and ticks -/

/-- Whoever served a queue is within the upper bound or beyond it. -/
theorem kept_or_excess (consumable : r.supervisor.isConsumable queue = true) {id : Nat}
    (serves : id ∈ r.consumersOf queue) : id ∈ r.kept queue ∨ id ∈ r.excess queue :=
  (List.mem_append.mp ((excess_kept consumable).1.mem_iff.mpr serves)).symm

theorem convergeQueue_handsOver (blocked : Bool) (acc : Registry × Changes) (queue : String) :
    ∃ new, HandsOver acc (convergeQueue blocked acc queue) new := by
  unfold convergeQueue
  split
  next consumable =>
    have trims := HandsOver.of_staffs (trim_staffs consumable)
      fun id => kept_or_excess consumable
    dsimp only
    split
    next => exact ⟨_, trims⟩
    next =>
      exact ⟨_, trims.trans (.of_staffs (launch_staffs _ queue _) fun id => .inl)⟩
  next => exact ⟨[], .refl acc⟩

/-- **A convergence loses nobody.** -/
theorem converge_handsOver (r : Registry) (now : Instant) :
    ∃ new, HandsOver (r, {}) (r.converge now) new := by
  unfold converge
  split
  next =>
    obtain ⟨new, walk⟩ := HandsOver.foldl
      (convergeQueue_handsOver (r.supervisor.restartsBlocked now)) r.queues (r, {})
    refine ⟨new, ?_⟩
    dsimp only
    split
    next =>
      refine walk.recast (resolveRound_steady _ _) ?_ ?_ <;> (unfold resolveRound; rfl)
    next => exact walk
  next => exact ⟨[], .refl _⟩

theorem scaleQueue_handsOver (sample : Nat → Sample) (blocked : Bool) (now : Instant)
    (acc : Registry × Changes) (queue : String) :
    ∃ new, HandsOver acc (scaleQueue sample blocked now acc queue) new := by
  obtain ⟨r, changes⟩ := acc
  unfold scaleQueue
  dsimp only
  split
  next =>
    generalize r.scaling.evaluate queue r.bounds ((r.consumersOf queue).map sample) now = answer
    obtain ⟨decision, scaling⟩ := answer
    have remembered := HandsOver.of_staffs (staffs_remembered r scaling changes queue)
      fun id => .inl
    cases decision with
    | hold => exact ⟨_, remembered⟩
    | startOne =>
      dsimp only
      split
      next => exact ⟨_, remembered⟩
      next =>
        exact ⟨_, remembered.trans (.of_staffs (launch_staffs 1 queue _) fun id => .inl)⟩
    | stopOne leaver =>
      dsimp only
      split
      next =>
        refine ⟨_, .of_staffs (staffs_removed r scaling changes queue leaver) fun id serves => ?_⟩
        by_cases here : id = leaver
        · exact .inr (List.mem_singleton.mpr here)
        · exact .inl ((List.mem_erase_of_ne here).mpr serves)
      next => exact ⟨_, remembered⟩
  next => exact ⟨[], .refl _⟩

/-- **A tick loses nobody.** -/
theorem tick_handsOver (r : Registry) (sample : Nat → Sample) (now : Instant) :
    ∃ new, HandsOver (r, {}) (r.tick sample now) new := by
  by_cases running : r.state = .running
  · obtain ⟨new, looks⟩ := HandsOver.foldl
      (scaleQueue_handsOver sample (r.supervisor.restartsBlocked now) now) r.queues (r, {})
    obtain ⟨more, converges⟩ := converge_handsOver (r.scaled sample now).1 now
    rw [tick_of_running running]
    have second : HandsOver (r.scaled sample now)
        (((r.scaled sample now).1.converge now).1,
          ⟨(r.scaled sample now).2.started ++ ((r.scaled sample now).1.converge now).2.started,
            (r.scaled sample now).2.retired ++ ((r.scaled sample now).1.converge now).2.retired⟩)
        more := {
      steady := converges.steady
      last := converges.last
      numbers := converges.numbers
      started := congrArg _ converges.started
      known := fun id known => by
        rw [List.mem_append]
        obtain employed | gone | comes := known
        · exact (converges.known id (.inl employed)).imp_right .inr
        · exact .inr (.inl gone)
        · exact (converges.known id (.inr (.inr comes))).imp_right .inr }
    exact ⟨new ++ more, looks.trans second⟩
  · unfold tick
    rw [if_neg running]
    exact ⟨[], .refl _⟩

/-! ### Queues that are given up -/

/-- Whoever leaves a queue that is dropped was one of its consumers. -/
theorem dropConsumers_employs (queue : String) {id : Nat} (employed : r.Employs id) :
    (r.dropConsumers queue).Employs id ∨ id ∈ r.consumersOf queue := by
  obtain ⟨other, serves⟩ := employed
  by_cases here : other = queue
  · exact .inr (here ▸ serves)
  · refine .inl ⟨other, ?_⟩
    rw [consumersOf_dropConsumers, if_neg here]
    exact serves

/-- A removal of one consumer takes nobody else off a queue. -/
theorem removeConsumer_employs {leaver id : Nat} (employed : r.Employs id) :
    (r.removeConsumer queue leaver).Employs id ∨ id = leaver := by
  obtain ⟨other, serves⟩ := employed
  by_cases same : id = leaver
  · exact .inr same
  · refine .inl ⟨other, ?_⟩
    rw [consumersOf_removeConsumer]
    split
    next here => exact (List.mem_erase_of_ne same).mpr (here ▸ serves)
    next => exact serves

theorem remove_state (r : Registry) (names : List String) : (r.remove names).1.state = r.state := by
  have steps : ∀ acc : Registry × List String × List Nat,
      (names.foldl removeQueue acc).1.state = acc.1.state := by
    induction names with
    | nil => exact fun acc => rfl
    | cons name names ih => exact fun acc => (ih _).trans (removeQueue_state acc name)
  exact steps (r, [], [])

/-- **Removed queues give up their consumers**, and no others. -/
theorem remove_employs (r : Registry) (names : List String) {id : Nat} (employed : r.Employs id) :
    (r.remove names).1.Employs id ∨ id ∈ (r.remove names).2.2 := by
  have steps : ∀ acc : Registry × List String × List Nat,
      acc.1.Employs id ∨ id ∈ acc.2.2 →
        (names.foldl removeQueue acc).1.Employs id ∨ id ∈ (names.foldl removeQueue acc).2.2 := by
    clear employed
    induction names with
    | nil => exact fun acc known => known
    | cons name names ih =>
      intro acc known
      refine ih _ ?_
      obtain ⟨r, removed, ids⟩ := acc
      unfold removeQueue
      dsimp only
      split
      next =>
        rw [List.mem_append]
        obtain employed | gone := known
        · obtain stays | leaves := dropConsumers_employs name employed
          · exact .inl ((employs_congr rfl).mp stays)
          · exact .inr (.inr leaves)
        · exact .inr (.inl gone)
      next => exact known
  exact steps (r, [], []) (.inl employed)

/-- A registry that begins to stop was running, and has no consumers any more. -/
theorem beginStop_stops {ids : List Nat} (begun : r.beginStop = some (ids, r')) :
    r.state = .running ∧ r'.state = .stopping ∧ ∀ id, ¬ r'.Employs id := by
  unfold beginStop at begun
  split at begun
  next running =>
    cases begun
    refine ⟨running, rfl, fun id ⟨queue, serves⟩ => ?_⟩
    exact absurd serves List.not_mem_nil
  next => cases begun

/-- A registry that stops gives up all its consumers. -/
theorem beginStop_employs {ids : List Nat} (begun : r.beginStop = some (ids, r')) {id : Nat}
    (employed : r.Employs id) : id ∈ ids := by
  unfold beginStop at begun
  split at begun
  next =>
    cases begun
    exact employed.mem_allConsumers
  next => cases begun

end QueueListener.Registry
