import QueueListener.Proofs.Container.Records
/-!
# Who waits for a consumer

**No consumer that goes on is left alone**: either it is registered, or somebody waits for its end who
can be relied on. That is a removal of queues, whoever stops the container, or an errand that retires
the consumer and that a stop will wait for. While the container does not run no consumer is
registered, and at most one task stops the container.

* `World.Reliable`, `World.Custody` — who can be relied on, and that nobody is left alone;
* `Deed.custody`, `EndsStop.custody` — whatever a monitor or an errand does keeps it so;
* `Custody.attended_of_stopped` — in a container that has stopped, only removals wait for anybody.
-/

namespace QueueListener.World

variable {w w' w'' : World} {task : Task} {loose : List Nat}

/-- Whoever begins a stop, or is under way with one, waits for those for whom this task waits. -/
def Reliable (w : World) (task : Task) : Prop :=
  (w.duty task).removes = true ∨ (w.duty task).stops ≠ none ∨
    ∃ number, task = .errand number ∧
      (number ∈ w.retiring ∨ ∃ other, number ∈ (w.duty other).errands)

/-- No consumer is left alone, but for those that are just about to be retired. -/
structure Custody (w : World) (loose : List Nat) : Prop where
  attended : ∀ id, w.isFinished id = false → id ∈ loose ∨ w.registry.Employs id ∨
    ∃ task, id ∈ (w.duty task).consumers ∧ w.Reliable task
  /-- Nobody is registered or retired while the container does not run. -/
  halted : w.registry.state ≠ .running → (∀ id, ¬ w.registry.Employs id) ∧ w.retiring = []
  stopping : ∀ task, (w.duty task).stops ≠ none → w.registry.state = .stopping
  /-- At most one task stops the container. -/
  sole : ∀ task other, (w.duty task).stops ≠ none → (w.duty other).stops ≠ none → task = other
  /-- Only whoever stops the container waits for errands. -/
  waits : ∀ task number, number ∈ (w.duty task).errands → (w.duty task).stops ≠ none

/-- **In a container that has stopped only removals wait for anybody.** -/
theorem Custody.attended_of_stopped (custody : w.Custody [])
    (stopped : w.registry.state = .stopped) {id : Nat} (busy : w.isFinished id = false) :
    ∃ task, id ∈ (w.duty task).consumers ∧ (w.duty task).removes = true := by
  have idle : ∀ task, (w.duty task).stops = none := by
    intro task
    by_contra stops
    have stopping := custody.stopping task stops
    rw [stopped] at stopping
    cases stopping
  obtain ⟨unemployed, retired⟩ := custody.halted (by rw [stopped]; rintro ⟨⟩)
  obtain none | employed | ⟨task, among, removes | stops | ⟨number, rfl, waited⟩⟩ :=
    custody.attended id busy
  · exact absurd none List.not_mem_nil
  · exact absurd employed (unemployed id)
  · exact ⟨task, among, removes⟩
  · exact absurd (idle task) stops
  · obtain retires | ⟨other, waited⟩ := waited
    · rw [retired] at retires
      exact absurd retires List.not_mem_nil
    · exact absurd (idle other) (custody.waits other number waited)

/-! ### Changes that concern nobody's duty -/

/-- Nobody has anything else to wait for, and nobody becomes busy. -/
theorem Custody.of_same (custody : w.Custody loose) (duty : w'.duty = w.duty)
    (retiring : w'.retiring = w.retiring) (state : w'.registry.state = w.registry.state)
    (consumers : w'.registry.consumers = w.registry.consumers)
    (busy : ∀ id, w'.isFinished id = false → w.isFinished id = false) : w'.Custody loose := by
  have reliable : ∀ task, w'.Reliable task ↔ w.Reliable task := by
    intro task
    unfold Reliable
    rw [duty, retiring]
  refine ⟨fun id goesOn => ?_, ?_, ?_, ?_, ?_⟩
  · obtain free | employed | ⟨task, among, relied⟩ := custody.attended id (busy id goesOn)
    · exact .inl free
    · exact .inr (.inl ((Registry.employs_congr consumers).mpr employed))
    · exact .inr (.inr ⟨task, duty ▸ among, (reliable task).mpr relied⟩)
  · intro stopped
    obtain ⟨unemployed, retired⟩ := custody.halted (state ▸ stopped)
    exact ⟨fun id employed => unemployed id ((Registry.employs_congr consumers).mp employed),
      retiring.trans retired⟩
  · rw [duty, state]
    exact custody.stopping
  · rw [duty]
    exact custody.sole
  · rw [duty]
    exact custody.waits

theorem Quiet.custody (quiet : w.Quiet w') (custody : w.Custody loose)
    (busy : ∀ id, w'.isFinished id = false → w.isFinished id = false) : w'.Custody loose :=
  custody.of_same (funext quiet.duty) quiet.retiring (congrArg _ quiet.registry)
    (congrArg _ quiet.registry) busy

theorem Effects.custody (effects : Effects task w w') (custody : w.Custody loose) :
    w'.Custody loose :=
  effects.quiet.custody custody fun _ busy => effects.wasBusy busy

/-- What a consumer does that goes on leaves nobody alone. -/
theorem Does.custody {id : Nat} (does : Does id w w') (busy : w.isFinished id = false)
    (custody : w.Custody loose) : w'.Custody loose := by
  refine does.quiet.custody custody fun other goesOn => ?_
  by_cases here : other = id
  · exact here ▸ busy
  · exact (isFinished_congr (by rw [does.others here])).symm.trans goesOn

/-! ### Starting and retiring -/

/-- Who is registered changes, and some are about to be retired. -/
theorem Custody.restaff (custody : w.Custody []) {registry : Registry}
    (state : registry.state = w.registry.state)
    (idle : w.registry.state ≠ .running → ∀ id, registry.Employs id → w.registry.Employs id)
    (known : ∀ id, w.isFinished id = false → w.registry.Employs id →
      registry.Employs id ∨ id ∈ loose) : ({ w with registry } : World).Custody loose where
  attended id busy := by
    obtain none | employed | attended := custody.attended id busy
    · exact absurd none List.not_mem_nil
    · obtain stays | leaves := known id busy employed
      · exact .inr (.inl stays)
      · exact .inl leaves
    · exact .inr (.inr attended)
  halted stopped := by
    obtain ⟨unemployed, retired⟩ := custody.halted (state ▸ stopped)
    exact ⟨fun id employed => unemployed id (idle (state ▸ stopped) id employed), retired⟩
  stopping task stops := state.trans (custody.stopping task stops)
  sole := custody.sole
  waits := custody.waits

/-- A consumer that is registered, or about to be retired, is started. -/
theorem spawn_custody (custody : w.Custody loose) {consumer : Nat × String}
    (known : w.registry.Employs consumer.1 ∨ consumer.1 ∈ loose) :
    (w.spawn consumer).Custody loose where
  attended id busy := by
    by_cases here : id = consumer.1
    · rw [here]
      exact known.elim (fun employed => .inr (.inl employed)) .inl
    · refine custody.attended id ((isFinished_congr ?_).symm.trans busy)
      show ((w.consumers.set consumer.1 _).get? id).map _ = _
      rw [Table.get?_set, if_neg here]
  halted := custody.halted
  stopping := custody.stopping
  sole := custody.sole
  waits := custody.waits

theorem spawnAll_custody (custody : w.Custody loose) {new : List (Nat × String)}
    (known : ∀ id ∈ new.map (·.1), w.registry.Employs id ∨ id ∈ loose) :
    (new.foldl spawn w).Custody loose := by
  induction new generalizing w with
  | nil => exact custody
  | cons consumer new ih =>
    exact ih (spawn_custody custody (known _ List.mem_cons_self))
      fun id among => known id (List.mem_cons_of_mem _ among)

/-- An errand that is sent has to wait for nobody but the consumer that it retires. -/
theorem send_duty (w : World) (kind : ErrandKind) (recorded : Bool) (task : Task) :
    (w.send kind recorded).2.duty task =
      if task = .errand w.errands.size then Errand.duty { kind, recorded } else w.duty task := by
  cases task with
  | consumer | feed | monitor => rfl
  | errand number =>
    show ((w.errands.push _)[number]?).elim {} Errand.duty = _
    rw [Array.getElem?_push]
    by_cases new : number = w.errands.size
    · rw [if_pos new, if_pos (congrArg _ new)]
      rfl
    · rw [if_neg new, if_neg fun same => new (Task.errand.inj same)]
      rfl

/-- **Whoever is retired is waited for.** -/
theorem retire_custody {id : Nat} (custody : w.Custody (id :: loose))
    (running : w.registry.state = .running) : (w.retire id).Custody loose := by
  have asked : (w.requestStop id).Custody (id :: loose) :=
    Effects.custody (requestStop_effects (.errand 0) w id) custody
  have duty : ∀ task, (w.retire id).duty task =
      if task = .errand w.errands.size then { consumers := [id] } else w.duty task :=
    send_duty (w.requestStop id) (.retire id) false
  have unsent : w.duty (.errand w.errands.size) = {} := by
    unfold World.duty
    dsimp only
    rw [Array.getElem?_eq_none (Nat.le_refl _)]
    rfl
  have stops : ∀ task, ((w.retire id).duty task).stops = (w.duty task).stops := by
    intro task
    rw [duty]
    split
    next here => rw [here, unsent]
    next => rfl
  have errands : ∀ task, ((w.retire id).duty task).errands = (w.duty task).errands := by
    intro task
    rw [duty]
    split
    next here => rw [here, unsent]
    next => rfl
  refine ⟨fun other busy => ?_, fun stopped => absurd running stopped, ?_, ?_, ?_⟩
  · by_cases here : other = id
    · refine .inr (.inr ⟨.errand w.errands.size, ?_, .inr (.inr ⟨w.errands.size, rfl, .inl ?_⟩)⟩)
      · rw [duty, if_pos rfl, here]
        exact List.mem_singleton_self id
      · exact List.mem_append_right _ (List.mem_singleton_self _)
    · obtain free | employed | ⟨task, among, relied⟩ := asked.attended other busy
      · exact .inl ((List.mem_cons.mp free).resolve_left here)
      · exact .inr (.inl employed)
      · have old : task ≠ .errand w.errands.size := by
          rintro rfl
          have among' : other ∈ (w.duty (.errand w.errands.size)).consumers := among
          rw [unsent] at among'
          exact absurd among' List.not_mem_nil
        refine .inr (.inr ⟨task, ?_, ?_⟩)
        · rw [duty, if_neg old]
          exact among
        · unfold Reliable
          rw [duty, if_neg old]
          refine relied.imp_right (Or.imp_right ?_)
          rintro ⟨number, rfl, retires | ⟨waiter, waited⟩⟩
          · exact ⟨number, rfl, .inl (List.mem_append_left _ retires)⟩
          · exact ⟨number, rfl, .inr ⟨waiter, by rw [errands]; exact waited⟩⟩
  · intro task
    rw [stops]
    exact custody.stopping task
  · intro task other
    rw [stops, stops]
    exact custody.sole task other
  · intro task number
    rw [stops, errands]
    exact custody.waits task number

theorem retireAll_custody {ids : List Nat} (custody : w.Custody (ids ++ loose))
    (running : w.registry.state = .running) : (ids.foldl retire w).Custody loose := by
  induction ids generalizing w with
  | nil => exact custody
  | cons id ids ih =>
    refine ih (retire_custody custody running) ?_
    rw [(retire_still w id).registry]
    exact running

/-! ### Deeds -/

/-- Whether a monitor was asked to stop is nobody's duty. -/
theorem duty_of_stopRequested (run : Nat) (task : Task) :
    ({ w with monitors := w.monitors.modify run fun m => { m with stopRequested := true } } :
      World).duty task = w.duty task := by
  cases task with
  | consumer | feed | errand => rfl
  | monitor other =>
    unfold World.duty
    dsimp only
    rw [Array.getElem?_modify]
    split
    next =>
      cases w.monitors[other]? with
      | none => rfl
      | some m => rfl
    next => rfl

/-- **A task that changes what it is doing leaves nobody alone**, if it goes on to wait for those who
have not ended, and takes on those that were about to be left. -/
theorem Reassigns.custody (reassigns : Reassigns task w w')
    (keeps : w.Keeps (w.duty task) (w'.duty task)) (custody : w.Custody loose)
    (takes : ∀ id ∈ loose, id ∈ (w'.duty task).consumers ∧ (w'.duty task).removes = true) :
    w'.Custody [] := by
  have stops : ∀ other, (w'.duty other).stops = (w.duty other).stops := by
    intro other
    by_cases own : other = task
    · rw [own]
      exact keeps.stops
    · rw [reassigns.duty own]
  have errands : ∀ other number, number ∈ (w'.duty other).errands →
      number ∈ (w.duty other).errands := by
    intro other number waited
    by_cases own : other = task
    · rw [own] at waited ⊢
      exact keeps.fewer waited
    · rwa [reassigns.duty own] at waited
  have busy : ∀ id, w'.isFinished id = w.isFinished id := fun id =>
    isFinished_congr (by rw [reassigns.consumers])
  have waited : ∀ {id number : Nat}, id ∈ (w.duty (.errand number)).consumers →
      (number ∈ w.retiring ∨ ∃ other, number ∈ (w.duty other).errands) →
      number ∈ w'.retiring ∨ ∃ other, number ∈ (w'.duty other).errands := by
    rintro id number among (retires | ⟨other, waited⟩)
    · exact .inl (reassigns.retiring ▸ retires)
    · refine .inr ⟨other, ?_⟩
      by_cases own : other = task
      · rw [own] at waited ⊢
        exact keeps.errands number waited (List.ne_nil_of_mem among)
      · rwa [reassigns.duty own]
  refine ⟨fun id goesOn => ?_, ?_, ?_, ?_, ?_⟩
  · rw [busy] at goesOn
    obtain free | employed | ⟨other, among, relied⟩ := custody.attended id goesOn
    · obtain ⟨taken, removes⟩ := takes id free
      exact .inr (.inr ⟨task, taken, .inl removes⟩)
    · exact .inr (.inl (reassigns.registry ▸ employed))
    · refine .inr (.inr ⟨other, ?_⟩)
      have among' : id ∈ (w'.duty other).consumers := by
        by_cases own : other = task
        · rw [own] at among ⊢
          exact keeps.consumers id among goesOn
        · rwa [reassigns.duty own]
      refine ⟨among', ?_⟩
      obtain removes | stopping | ⟨number, rfl, waits⟩ := relied
      · by_cases own : other = task
        · rw [own] at removes among'
          exact .inl (own ▸ keeps.removes removes (List.ne_nil_of_mem among'))
        · exact .inl (by rwa [reassigns.duty own])
      · exact .inr (.inl (by rwa [stops]))
      · exact .inr (.inr ⟨number, rfl, waited among waits⟩)
  · rw [reassigns.registry, reassigns.retiring]
    exact custody.halted
  · intro other
    rw [stops, reassigns.registry]
    exact custody.stopping other
  · intro other another
    rw [stops, stops]
    exact custody.sole other another
  · intro other number among
    rw [stops]
    exact custody.waits other number (errands other number among)

/-- Whoever begins to stop the container waits for all that were registered or retired. -/
theorem stopBegun_custody {ids : List Nat} {registry : Registry} {fatal : Option String}
    {middle : World} (free : w.duty task = {}) (begun : w.registry.beginStop = some (ids, registry))
    (after : Effects task
      { w with
        registry
        retiring := []
        monitors := w.monitors.modify (w.monitors.size - 1) fun m =>
          { m with stopRequested := true } } middle)
    (reassigns : Reassigns task middle w')
    (assigned : w'.duty task = { consumers := ids, errands := w.retiring, stops := some fatal })
    (custody : w.Custody []) : w'.Custody [] := by
  have employed : ∀ id, w.registry.Employs id → id ∈ ids :=
    fun id => Registry.beginStop_employs begun
  obtain ⟨running, state, unemployed⟩ := Registry.beginStop_stops begun
  have idle : ∀ other, (w.duty other).stops = none := by
    intro other
    by_contra stops
    have stopping := custody.stopping other stops
    rw [running] at stopping
    cases stopping
  have unwaited : ∀ other number, number ∉ (w.duty other).errands :=
    fun other number waited => custody.waits other number waited (idle other)
  have others : ∀ other, other ≠ task → w'.duty other = w.duty other := by
    intro other differ
    rw [reassigns.duty differ, after.quiet.duty]
    exact duty_of_stopRequested _ _
  have registry' : w'.registry = registry := by
    rw [reassigns.registry, after.quiet.registry]
  have retiring' : w'.retiring = [] := by
    rw [reassigns.retiring, after.quiet.retiring]
  have sole : ∀ other, (w'.duty other).stops ≠ none → other = task := by
    intro other stops
    by_contra differ
    rw [others other differ] at stops
    exact stops (idle other)
  have relied : w'.Reliable task := .inr (.inl (by rw [assigned]; exact Option.some_ne_none _))
  refine ⟨fun id goesOn => .inr (.inr ?_), ?_, ?_, ?_, ?_⟩
  · have busy : w.isFinished id = false := by
      have same : w'.isFinished id = middle.isFinished id :=
        isFinished_congr (by rw [reassigns.consumers])
      exact after.wasBusy (same.symm.trans goesOn)
    obtain none | registered | ⟨other, among, removes | stops | ⟨number, rfl, waited⟩⟩ :=
      custody.attended id busy
    · exact absurd none List.not_mem_nil
    · exact ⟨task, by rw [assigned]; exact employed id registered, relied⟩
    · have differ : other ≠ task := by
        rintro rfl
        rw [free] at removes
        cases removes
      refine ⟨other, ?_, .inl ?_⟩
      · rwa [others other differ]
      · rwa [others other differ]
    · exact absurd (idle other) stops
    · have differ : .errand number ≠ task := by
        rintro rfl
        rw [free] at among
        exact absurd among List.not_mem_nil
      refine ⟨.errand number, by rwa [others _ differ], .inr (.inr ⟨number, rfl, .inr ⟨task, ?_⟩⟩)⟩
      rw [assigned]
      exact waited.resolve_right fun ⟨other, waits⟩ => unwaited other number waits
  · exact fun _ => ⟨fun id => registry' ▸ unemployed id, retiring'⟩
  · intro other _
    rw [registry', state]
  · exact fun other another stops stops' => (sole other stops).trans (sole another stops').symm
  · intro other number waited
    by_cases own : other = task
    · rw [own, assigned]
      exact Option.some_ne_none _
    · rw [others other own] at waited
      exact absurd waited (unwaited other number)

/-- **A deed leaves nobody alone.** -/
theorem Deed.custody (deed : Deed task w w') (custody : w.Custody []) : w'.Custody [] := by
  cases deed with
  | affected effect => exact Effects.custody (.single effect) custody
  | informed consumers state last fatal =>
    exact custody.of_same rfl rfl state consumers fun _ => id
  | @dismissed leaver queue done =>
    refine custody.restaff rfl (fun _ id employed => ?_) fun id busy employed => ?_
    · obtain ⟨other, serves⟩ := employed
      exact ⟨other, (Registry.removeConsumer_startsNone _ queue leaver).consumers other serves⟩
    · refine (Registry.removeConsumer_employs employed).imp_right fun here => ?_
      rw [here, done] at busy
      cases busy
  | @staffed registry changes new running hands =>
    have first : ({ w with registry } : World).Custody changes.retired :=
      custody.restaff hands.steady.state (fun stopped => absurd running stopped)
        fun id _ employed => hands.known id (.inl employed)
    have started : changes.started = new := hands.started
    have second : (changes.started.foldl spawn { w with registry }).Custody changes.retired :=
      spawnAll_custody first fun id among => hands.known id (.inr (.inr (started ▸ among)))
    refine retireAll_custody ((List.append_nil _).symm ▸ second) ?_
    rw [(foldl_still spawn_still changes.started _).registry]
    exact hands.steady.state.trans running
  | paused queue running =>
    have first : ({ w with registry := w.registry.dropConsumers queue } : World).Custody
        (w.registry.consumersOf queue) :=
      custody.restaff rfl (fun stopped => absurd running stopped)
        fun id _ employed => Registry.dropConsumers_employs queue employed
    exact retireAll_custody ((List.append_nil _).symm ▸ first) running
  | reassigned reassigns keeps =>
    exact reassigns.custody keeps custody fun _ none => absurd none List.not_mem_nil
  | @removed names middle _ free after reassigns assigned =>
    have first : ({ w with registry := (w.registry.remove names).1 } : World).Custody
        (w.registry.remove names).2.2 := by
      refine custody.restaff (Registry.remove_state _ names) (fun _ id employed => ?_)
        fun id _ employed => Registry.remove_employs _ names employed
      obtain ⟨queue, serves⟩ := employed
      exact ⟨queue, (Registry.remove_startsNone _ names).consumers queue serves⟩
    have unassigned : middle.duty task = {} := (after.quiet.duty task).trans free
    refine reassigns.custody ?_ (Effects.custody after first) fun id leaves => ?_
    · rw [unassigned, assigned]
      exact {
        consumers := fun _ none => absurd none List.not_mem_nil
        errands := fun _ none => absurd none List.not_mem_nil
        fewer := List.Subset.refl _
        stops := rfl
        removes := fun _ _ => rfl }
    · rw [assigned]
      exact ⟨leaves, rfl⟩
  | stopBegun fatal free begun after reassigns assigned =>
    exact stopBegun_custody free begun after reassigns assigned custody

/-! ### The end of a stop -/

/-- What the end of a stop makes of the registry. -/
theorem EndsStop.registry {fatal : Option String} (ends : EndsStop task fatal w w') :
    w'.registry = w.registry.finishStop fatal.isSome := by
  obtain ⟨middle, after, before, -, later, reassigns⟩ := ends.ended
  rw [reassigns.registry, (publish_still _ _).registry, later.quiet.registry,
    before.quiet.registry]

/-- Whoever is busy after the end of a stop was so when all had ended for whom the stop waited. -/
theorem EndsStop.busy {fatal : Option String} (ends : EndsStop task fatal w w') {id : Nat}
    (goesOn : w'.isFinished id = false) :
    w.isFinished id = false ∧ id ∉ (w.duty task).consumers := by
  obtain ⟨middle, after, before, ended, later, reassigns⟩ := ends.ended
  have same : w'.isFinished id = after.isFinished id :=
    isFinished_congr (by rw [reassigns.consumers, publish_consumers])
  have busy : middle.isFinished id = false := later.wasBusy (same.symm.trans goesOn)
  refine ⟨before.wasBusy busy, fun waited => ?_⟩
  rw [ended id waited] at busy
  cases busy

/-- Nobody else has anything else to wait for. -/
theorem EndsStop.duty {fatal : Option String} (ends : EndsStop task fatal w w') {other : Task}
    (differ : other ≠ task) : w'.duty other = w.duty other := by
  obtain ⟨middle, after, before, -, later, reassigns⟩ := ends.ended
  rw [reassigns.duty differ, (publish_quiet _ _).duty, later.quiet.duty]
  exact before.quiet.duty other

/-- **The end of a stop leaves nobody alone** but those for whom a removal waits. -/
theorem EndsStop.custody {fatal : Option String} (ends : EndsStop task fatal w w')
    (custody : w.Custody []) : w'.Custody [] := by
  have stops : (w.duty task).stops ≠ none := by
    rw [ends.stops]
    exact Option.some_ne_none _
  have stopping := custody.stopping task stops
  obtain ⟨unemployed, retired⟩ := custody.halted (by rw [stopping]; rintro ⟨⟩)
  have unemployed' : ∀ id, ¬ w'.registry.Employs id := by
    rw [ends.registry]
    exact unemployed
  have retired' : w'.retiring = [] := by
    obtain ⟨middle, after, before, -, later, reassigns⟩ := ends.ended
    rw [reassigns.retiring, (publish_quiet _ _).retiring, later.quiet.retiring,
      before.quiet.retiring, retired]
  have idle : ∀ other, (w'.duty other).stops = none := by
    intro other
    by_cases own : other = task
    · rw [own, ends.freed]
    · rw [ends.duty own]
      by_contra stops'
      exact own (custody.sole other task stops' stops)
  refine ⟨fun id goesOn => .inr (.inr ?_), fun _ => ⟨unemployed', retired'⟩, ?_, ?_, ?_⟩
  · obtain ⟨busy, unwaited⟩ := ends.busy goesOn
    obtain none | employed | ⟨other, among, relied⟩ := custody.attended id busy
    · exact absurd none List.not_mem_nil
    · exact absurd employed (unemployed id)
    · have differ : other ≠ task := by
        rintro rfl
        exact unwaited among
      refine ⟨other, by rwa [ends.duty differ], .inl ?_⟩
      rw [ends.duty differ]
      obtain removes | stops' | ⟨number, rfl, retires | ⟨waiter, waited⟩⟩ := relied
      · exact removes
      · exact absurd (custody.sole other task stops' stops) differ
      · rw [retired] at retires
        exact absurd retires List.not_mem_nil
      · have own := custody.sole waiter task (custody.waits waiter number waited) stops
        rw [ends.errands number (own ▸ waited)] at among
        exact absurd among List.not_mem_nil
  · exact fun other stops' => absurd (idle other) stops'
  · exact fun other _ stops' => absurd (idle other) stops'
  · intro other number waited
    by_cases own : other = task
    · rw [own, ends.freed] at waited
      exact absurd waited List.not_mem_nil
    · rw [ends.duty own] at waited ⊢
      exact custody.waits other number waited

/-! ### Calls -/

/-- An errand that is sent by a caller has nobody to wait for yet. -/
theorem send_custody (custody : w.Custody []) {kind : ErrandKind} (call : ∀ id, kind ≠ .retire id)
    (recorded : Bool) : (w.send kind recorded).2.Custody [] := by
  refine custody.of_same (funext fun task => ?_) rfl rfl rfl fun _ => id
  rw [send_duty]
  split
  next here =>
    rw [here]
    unfold World.duty
    dsimp only
    rw [Array.getElem?_eq_none (Nat.le_refl _)]
    cases kind with
    | retire id => exact absurd rfl (call id)
    | remove | stop | await => rfl
  next => rfl

end QueueListener.World
