import QueueListener.Proofs.Container.Registers
import QueueListener.Proofs.Container.Schedules
import QueueListener.Proofs.Container.Tidings
/-!
# A container that is given up

**A fatal failure stops the container for good.** The monitor that hears of it begins to stop the
container, and until the stop has its end it will not be forgotten: its timer is set, or it has a turn
coming, or an errand for which it waits is not done and will wake it. So under a fair schedule the stop
ends, and from the report until the next start nobody is started.

* `endErrand_wakes`, `take_wakes` — the end of an errand wakes the monitor that waits for it;
* `GivesUp` — a monitor that stops the container, and will not be forgotten;
* `GivesUp.follow`, `GivesUp.take`, `Fair.giveUp_ends` — whatever happens, and the end;
* `Hears`, `Hears.handles`, `Hears.gives_up` — the report with which it begins;
* `GivenUp`, `HiresNobody`, `fatal_report_stops` — what is so in the end, and until the next start.
-/

namespace QueueListener

/-- A failure that is reported does not stop the registry. -/
theorem Registry.consumerFailed_state (r : Registry) (queue : String) (id : Nat)
    (error : ClientError) (now : Instant) :
    (r.consumerFailed queue id error now).2.state = r.state := by
  unfold consumerFailed
  dsimp only
  split <;> rfl

namespace World

variable {w w' w'' : World} {task : Task} {move : Move} {moves : Nat → Move} {run number n : Nat}
  {reason : String} {deadline : Instant} {errands : List Nat}

/-! ### The end of an errand -/

theorem errandDone_of_errands (same : w'.errands = w.errands) (number : Nat) :
    w'.errandDone number = w.errandDone number := by
  unfold errandDone
  rw [same]

/-- **The end of an errand wakes a monitor that waits for it.** -/
theorem endErrand_wakes {m : Monitor} {closing : Closing} (found : w.monitors[run]? = some m)
    (closes : m.phase = .closing reason closing) (among : number ∈ closing.errands)
    (errand : Errand) (answer : Bool) :
    (w.endErrand number errand answer).2.agenda.isAwake (.monitor run) = true := by
  have woken : ∀ w₁ : World, w₁.monitors = w.monitors →
      (({ w₁ with agenda := w₁.agenda.wakeAll (w₁.waitersForErrand number) } :
        World).letGo).agenda.isAwake (.monitor run) = true := by
    intro w₁ same
    have waits : Task.monitor run ∈ w₁.waitersForErrand number := by
      unfold waitersForErrand
      refine List.mem_append_right _ (List.mem_map_of_mem (List.mem_filter.mpr ⟨?_, ?_⟩))
      · rw [List.mem_range, same]
        exact (Array.getElem?_eq_some_iff.mp found).1
      · rw [same, found, Option.map_some, closes]
        exact List.contains_iff_mem.mpr among
    have letsBe : LetsBe (.monitor run)
        { w₁ with agenda := w₁.agenda.wakeAll (w₁.waitersForErrand number) } _ :=
      Deeds.letsBe (letGo_deeds (.feed 0) _) (by rintro ⟨⟩) trivial
    exact letsBe.turns.awake (Agenda.wakeAll_awakes waits _)
  unfold endErrand
  dsimp only
  split <;> exact woken _ rfl

/-- A turn ends with an agenda that owes no less. -/
theorem take_awake (task other : Task)
    (awake : (({ w with agenda := w.agenda.give task } : World).turn task).2.agenda.isAwake other =
      true) : (w.take task).agenda.isAwake other = true := by
  unfold take
  split
  next turned =>
    rw [turned] at awake
    exact awake
  next turned =>
    rw [turned] at awake
    exact awake

/-- An errand that retires a consumer is done only by a turn that wakes whoever waits for it. -/
theorem take_wakes (orderly : w.Orderly) {m : Monitor} {closing : Closing}
    (found : w.monitors[run]? = some m) (closes : m.phase = .closing reason closing)
    (among : number ∈ closing.errands) (undone : w.errandDone number = false)
    (done : (w.take (.errand number)).errandDone number = true) :
    (w.take (.errand number)).agenda.isAwake (.monitor run) = true := by
  have waits : number ∈ (w.duty (.monitor run)).errands := by
    rw [duty_of_phase found, Monitor.duty, closes]
    exact among
  obtain ⟨id, about⟩ := orderly.assigned.waits (.monitor run) number waits
  obtain ⟨⟨kind, phase, recorded⟩, found₁, same⟩ := Option.map_eq_some_iff.mp about
  obtain rfl : kind = .retire id := same
  obtain ⟨phase', found₂, proceeds, -⟩ :=
    take_retires orderly.records found₁ (orderly.timely number _ _ _ found₁)
  unfold errandDone at undone done
  rw [found₁] at undone
  rw [found₂] at done
  cases proceeds with
  | begins | waits => cases done
  | ended => cases undone
  | ends closing₁ answer =>
    refine take_awake _ _ ?_
    let w₀ : World := { w with agenda := w.agenda.give (.errand number) }
    have turned : (w₀.errandTurn number).2.errands[number]? =
        some ⟨.retire id, .done answer, recorded⟩ := by
      rw [(take_apart w _).errands] at found₂
      exact found₂
    have found₀ : w₀.errands[number]? = some ⟨.retire id, .closing closing₁, recorded⟩ := found₁
    have effects : Effects (.errand number) w₀ (w₀.advanceClosing closing₁).2 :=
      advanceClosing_effects (orderly.records.of_apart (give_apart w (.errand number))) closing₁
    obtain ⟨news, heard⟩ := effects.quiet.monitors run
    show (w₀.errandTurn number).2.agenda.isAwake (.monitor run) = true
    unfold errandTurn at turned ⊢
    rw [found₀] at turned ⊢
    dsimp only at turned ⊢
    split
    next isOver =>
      refine endErrand_wakes (m := { m with reports := m.reports ++ news }) ?_ closes among _ _
      rw [heard]
      show (w.monitors[run]?).map _ = _
      rw [found]
      rfl
    next waits =>
      rw [if_neg waits] at turned
      rw [← effects.quiet.errands] at found₀
      cases (setErrandPhase_errand found₀ _).symm.trans turned

/-! ### A monitor that stops the container -/

/-- A monitor stops the container for a reason, until a deadline and until errands are done, and will
not be forgotten. -/
structure GivesUp (w : World) (run : Nat) (reason : String) (deadline : Instant)
    (errands : List Nat) : Prop where
  stopping : w.registry.state = .stopping
  closes : ∃ m closing, w.monitors[run]? = some m ∧ m.phase = .closing reason closing ∧
    closing.deadline = deadline ∧ closing.errands ⊆ errands ∧
    ((⟨.monitor run, .deadline, dueMillis deadline⟩ : Timer) ∈ w.agenda.timers ∨
      dueMillis deadline ≤ w.now ∧ (w.agenda.Owes (.monitor run) ∨
        ∃ number ∈ closing.errands, w.errandDone number = false))

/-- Whoever stops the container is the one who ends the stop. -/
theorem stops_of_phase {m : Monitor} {closing : Closing} (found : w.monitors[run]? = some m)
    (closes : m.phase = .closing reason closing) :
    (w.duty (.monitor run)).stops = some (some reason) := by
  rw [duty_of_phase found, Monitor.duty, closes]

/-- Nobody but the monitor that stops the container ends the stop, for its reason. -/
theorem EndsStop.by_monitor {fatal : Option String} {before after : World} (custody : w.Custody [])
    (stops : (w.duty (.monitor run)).stops = some (some reason)) (turn : w.Apart before)
    (ends : EndsStop task fatal before after) : task = .monitor run ∧ fatal = some reason := by
  have same : before.duty = w.duty := by
    funext other
    unfold World.duty
    rw [turn.errands, turn.monitors]
  have ended : (w.duty task).stops = some fatal := same ▸ ends.stops
  have mine : task = .monitor run := custody.sole task (.monitor run)
    (by rw [ended]; exact Option.some_ne_none _) (by rw [stops]; exact Option.some_ne_none _)
  rw [mine, stops] at ended
  exact ⟨mine, (Option.some.inj ended).symm⟩

/-- While its monitor stops it a container goes on stopping. -/
theorem stopping_stays (orderly : w.Orderly) (stopping : w.registry.state = .stopping)
    (before : (w.duty (.monitor run)).stops = some (some reason))
    (after : ((w.follow move).duty (.monitor run)).stops = some (some reason)) :
    (w.follow move).registry.state = .stopping := by
  have outcome := follow_outcome orderly.records orderly.unopened move
  generalize w.follow move = w' at outcome after
  cases outcome with
  | happens happens =>
    clear after
    induction happens with
    | refl => exact stopping
    | tail _ happening ih =>
      obtain rests | ⟨-, registry, starts, rfl⟩ :=
        happening.rests_or_starts (by rw [ih]; rintro ⟨⟩)
      · exact rests.state.trans ih
      · obtain ⟨created | stopped, -⟩ := Registry.start_begins starts
        · rw [ih] at created
          cases created
        · rw [ih] at stopped
          cases stopped
  | @endsStop task fatal middle rest turn ends apart =>
    obtain ⟨mine, -⟩ := EndsStop.by_monitor orderly.custody before turn ends
    have freed : w'.duty (.monitor run) = {} := by
      rw [← mine, ← ends.freed]
      unfold duty
      rw [apart.errands, apart.monitors]
    rw [freed] at after
    cases after

/-- **Whatever happens to others, a monitor that stops the container is not forgotten.** -/
theorem GivesUp.follow (givesUp : w.GivesUp run reason deadline errands) (orderly : w.Orderly)
    (differ : move ≠ .turn (.monitor run)) :
    (w.follow move).GivesUp run reason deadline errands := by
  obtain ⟨m, closing, found, closes, same, few, awaits⟩ := givesUp.closes
  have lingers : Lingers (.monitor run) w (w.follow move) :=
    follow_lingers orderly.records orderly.unopened differ trivial
  obtain ⟨m', found', phase⟩ := lingers.monitor run rfl m found
  have closes' : m'.phase = .closing reason closing := phase.trans closes
  refine ⟨stopping_stays orderly givesUp.stopping (stops_of_phase found closes)
    (stops_of_phase found' closes'), m', closing, found', closes', same, few, ?_⟩
  obtain set | ⟨due, owes | ⟨number, among, undone⟩⟩ := awaits
  · exact (lingers.timers _ set rfl).imp_right (And.imp_right .inl)
  · exact .inr ⟨Nat.le_trans due lingers.now, .inl (lingers.owes owes)⟩
  · refine .inr ⟨Nat.le_trans due lingers.now, ?_⟩
    by_cases done : (w.follow move).errandDone number = true
    · refine .inl (.inr ?_)
      by_cases own : move = .turn (.errand number)
      · subst own
        exact take_wakes orderly found closes among undone done
      · have stays := follow_lingers orderly.records orderly.unopened own (errand_office number)
        unfold errandDone at undone done
        cases present : w.errands[number]? with
        | none =>
          rw [present] at undone
          cases undone
        | some errand =>
          rw [present] at undone
          rw [stays.errand number rfl errand present, undone] at done
          cases done
    · exact .inr ⟨number, among, eq_false_of_ne_true done⟩

/-- **A turn of a monitor that stops the container** ends the stop, or it is not forgotten; after the
deadline, and when all errands are done, it ends the stop. -/
theorem GivesUp.take (givesUp : w.GivesUp run reason deadline errands) (orderly : w.Orderly) :
    ((w.take (.monitor run)).registry.state = .stopped ∨
      (w.take (.monitor run)).GivesUp run reason deadline errands) ∧
    (dueMillis deadline ≤ w.now → (∀ number ∈ errands, w.errandDone number = true) →
      (w.take (.monitor run)).registry.state = .stopped) := by
  obtain ⟨m, closing, found, closes, same, few, awaits⟩ := givesUp.closes
  let w₀ : World := { w with agenda := w.agenda.give (.monitor run) }
  have records : w₀.Records := orderly.records.of_apart (give_apart w (.monitor run))
  have found₀ : w₀.monitors[run]? = some m := found
  have effects : Effects (.errand 0) w₀ (w₀.advanceClosing closing).2 :=
    advanceClosing_effects records closing
  have letsBe : LetsBe (.monitor run) w₀ (w₀.advanceClosing closing).2 :=
    Effects.letsBe effects (by rintro ⟨⟩) trivial
  have remaining : (w₀.advanceClosing closing).1.errands =
      closing.errands.filter fun number => !w.errandDone number :=
    (advanceClosing_keeps (w := w₀) closing).2
  have late : dueMillis deadline ≤ w.now → (w₀.advanceClosing closing).1.consumers = [] := by
    intro due
    have come : w₀.reached closing.deadline = true := same ▸ reached_of_due (w := w₀) due
    unfold advanceClosing
    dsimp only
    rw [if_pos come]
  have kept : (w₀.advanceClosing closing).1.deadline = deadline := by
    unfold advanceClosing
    dsimp only
    split <;> exact same
  have turned : w₀.turn (.monitor run) =
      if (w₀.advanceClosing closing).1.isOver then
        ((w₀.advanceClosing closing).2.finishShutdown (some reason)).loopAgain run
      else ((w₀.advanceClosing closing).2.setMonitorPhase run
        (.closing reason (w₀.advanceClosing closing).1)).pause := by
    show w₀.monitorTurn run = _
    unfold monitorTurn
    rw [found₀]
    dsimp only
    rw [closes]
  by_cases isOver : (w₀.advanceClosing closing).1.isOver = true
  · have stopped : (w₀.turn (.monitor run)).2.registry.state = .stopped := by
      rw [turned, if_pos isOver, (loopAgain_still _ run).registry, finishShutdown_registry]
      rfl
    have ended : (w.take (.monitor run)).registry.state = .stopped :=
      (congrArg (·.state) (take_apart w (.monitor run)).registry).trans stopped
    exact ⟨.inl ended, fun _ _ => ended⟩
  · have paused : w.take (.monitor run) =
        { (w₀.advanceClosing closing).2.setMonitorPhase run
            (.closing reason (w₀.advanceClosing closing).1) with
          agenda := (w₀.advanceClosing closing).2.agenda.rest } := by
      unfold World.take
      rw [show ({ w with agenda := w.agenda.give (.monitor run) } : World).turn (.monitor run) = _
        from turned, if_neg isOver]
      rfl
    obtain ⟨news, heard⟩ := effects.quiet.monitors run
    refine ⟨.inr ?_, fun due done => absurd ?_ isOver⟩
    · rw [paused]
      refine ⟨?_, { m with
        reports := m.reports ++ news
        phase := .closing reason (w₀.advanceClosing closing).1 }, _, ?_, rfl, kept, ?_, ?_⟩
      · exact (congrArg (·.state) effects.quiet.registry).trans givesUp.stopping
      · show ((w₀.advanceClosing closing).2.monitors.modify run _)[run]? = _
        rw [Array.getElem?_modify, if_pos rfl, heard, found₀]
        rfl
      · rw [remaining]
        exact fun _ left => few (List.mem_filter.mp left).1
      · obtain set | ⟨due, -⟩ := awaits
        · refine .inl (letsBe.turns.timers _ ?_ rfl)
          show _ ∈ (w.agenda.give (.monitor run)).timers
          rwa [Agenda.give_timers]
        · refine .inr ⟨Nat.le_trans due (Nat.le_of_eq letsBe.now.symm), .inr ?_⟩
          have some_left : (w₀.advanceClosing closing).1.errands ≠ [] := by
            intro none
            refine isOver ?_
            unfold Closing.isOver
            rw [late due, none]
            rfl
          obtain ⟨number, left⟩ := List.exists_mem_of_ne_nil _ some_left
          refine ⟨number, left, ?_⟩
          rw [remaining] at left
          have undone : w.errandDone number = false := by
            simpa using (List.mem_filter.mp left).2
          exact (errandDone_of_errands effects.quiet.errands number).trans undone
    · unfold Closing.isOver
      rw [late due, remaining, List.filter_eq_nil_iff.mpr fun number among => ?_]
      · rfl
      · rw [done number (few among)]
        exact Bool.false_ne_true

/-- **Under a fair schedule the stop ends** that a monitor has begun. -/
theorem Fair.giveUp_ends (fair : w.Fair moves) (orderly : w.Orderly)
    (givesUp : (w.course moves n).GivesUp run reason deadline errands)
    (retire : ∀ number ∈ errands, (w.course moves n).Retires number) :
    ∃ k ≥ n, (w.course moves k).GivesUp run reason deadline errands ∧
      (w.course moves (k + 1)).registry.state = .stopped := by
  by_contra never
  have goesOn : ∀ k ≥ n, (w.course moves k).GivesUp run reason deadline errands := by
    intro k later
    induction k, later using Nat.le_induction with
    | base => exact givesUp
    | succ k later ih =>
      have here := orderly.course moves k
      by_cases own : moves k = .turn (.monitor run)
      · have step : w.course moves (k + 1) = (w.course moves k).take (.monitor run) := by
          show (w.course moves k).follow (moves k) = _
          rw [own]
          rfl
        obtain stopped | givesUp' := (ih.take here).1
        · exact absurd ⟨k, later, ih, step ▸ stopped⟩ never
        · exact step ▸ givesUp'
      · exact ih.follow here own
  -- the errands are done from some time on, and then the timer fires
  obtain ⟨k₁, later₁, done₁⟩ := fair.all_end orderly errands retire
  have done : ∀ k ≥ k₁, ∀ number ∈ errands, (w.course moves k).errandDone number = true :=
    fun k later number among => (orderly.later_retires later
      (orderly.later_retires later₁ (retire number among)).1).2 (done₁ number among)
  obtain ⟨k₂, later₂, unset⟩ :=
    fair.fires orderly k₁ ⟨.monitor run, .deadline, dueMillis deadline⟩
  obtain ⟨m, closing, -, -, -, few, awaits⟩ := (goesOn k₂ (Nat.le_trans later₁ later₂)).closes
  obtain ⟨due, owes | ⟨number, among, undone⟩⟩ := awaits.resolve_left unset
  · obtain ⟨k₃, later₃, turn, lingers⟩ :=
      fair.gets_turn orderly (show (Task.monitor run).IsOffice from trivial) owes
    have givesUp₃ := goesOn k₃ (Nat.le_trans later₁ (Nat.le_trans later₂ later₃))
    refine never ⟨k₃, Nat.le_trans later₁ (Nat.le_trans later₂ later₃), givesUp₃, ?_⟩
    show ((w.course moves k₃).follow (moves k₃)).registry.state = _
    rw [turn]
    exact (givesUp₃.take (orderly.course moves k₃)).2 (Nat.le_trans due lingers.now)
      (done k₃ (Nat.le_trans later₂ later₃))
  · rw [done k₂ later₂ number (few among)] at undone
    cases undone

/-! ### The report with which it begins -/

/-- A monitor that waits, and was not asked to stop, hears a report at its next turn. -/
def Hears (w : World) (run : Nat) (report : Report) : Prop :=
  ∃ m deadline armed rest, w.monitors[run]? = some m ∧ m.phase = .waiting deadline armed ∧
    m.stopRequested = false ∧ m.reports = report :: rest

/-- A monitor that gives the container up stops it, and will not be forgotten. -/
theorem giveUp_givesUp {m : Monitor} (present : w.monitors[run]? = some m)
    (running : w.registry.state = .running) (reason : String) :
    (w.giveUp run reason).1 = true ∧ ∃ deadline errands,
      (w.giveUp run reason).2.GivesUp run reason deadline errands ∧
        errands ⊆ ((w.giveUp run reason).2.duty (.monitor run)).errands := by
  have begins : ∃ answer, w.beginShutdown = some answer := by
    unfold beginShutdown Registry.beginStop
    rw [if_pos running]
    exact ⟨_, rfl⟩
  obtain ⟨⟨closing, w₁⟩, begun⟩ := begins
  obtain ⟨ids, registry, stops, -, -, after⟩ := beginShutdown_begins (.monitor run) begun
  obtain ⟨news, heard⟩ := after.quiet.monitors run
  obtain ⟨m₁, found₁⟩ : ∃ m₁, w₁.monitors[run]? = some m₁ := by
    rw [heard]
    dsimp only
    rw [Array.getElem?_modify, present]
    split <;> exact ⟨_, rfl⟩
  have closes : (w₁.setMonitorPhase run (.closing reason closing)).monitors[run]? =
      some { m₁ with phase := .closing reason closing } := by
    show (w₁.monitors.modify run _)[run]? = _
    rw [Array.getElem?_modify, if_pos rfl, found₁]
    rfl
  unfold giveUp
  rw [begun]
  refine ⟨rfl, closing.deadline, closing.errands, ⟨?_, _, closing, closes, rfl, rfl,
    List.Subset.refl _, .inl (List.mem_append_right _ List.mem_cons_self)⟩, ?_⟩
  · show w₁.registry.state = _
    rw [after.quiet.registry]
    exact (Registry.beginStop_stops stops).2.1
  · rw [duty_of_phase (w := ((w₁.setMonitorPhase run (.closing reason closing)).setTimer
      (.monitor run) .deadline closing.deadline).goOn.2) closes]
    exact List.Subset.refl _

/-- Whoever hears of a fatal failure gives the container up. -/
theorem handleReport_fatal {queue : String} {id : Nat} {error : ClientError}
    (fatal : (w.registry.consumerFailed queue id error w.instant).1 = some (.ok (.fatal reason))) :
    w.handleReport run (.failed id queue error) =
      ({ w with registry := (w.registry.consumerFailed queue id error w.instant).2 } :
        World).giveUp run reason := by
  unfold handleReport
  dsimp only
  rw [fatal]
  rfl

/-- The world in which a monitor handles a report, and the reports that it has yet to hear. -/
def heard (w : World) (run : Nat) (rest : List Report) : World :=
  ({ w with agenda := w.agenda.give (.monitor run) } : World).updateMonitor run
    fun m => { m with reports := rest }

/-- **The turn of a monitor that hears a report.** -/
theorem Hears.handles {report : Report} (hears : w.Hears run report) :
    ∃ rest, (∃ m, (w.heard run rest).monitors[run]? = some m) ∧
      ({ w with agenda := w.agenda.give (.monitor run) } : World).turn (.monitor run) =
        (w.heard run rest).handleReport run report := by
  obtain ⟨m, deadline, armed, rest, found, waits, unasked, reports⟩ := hears
  refine ⟨rest, ⟨{ m with reports := rest }, ?_⟩, ?_⟩
  · show (w.monitors.modify run _)[run]? = _
    rw [Array.getElem?_modify, if_pos rfl, found]
    rfl
  · show ({ w with agenda := w.agenda.give (.monitor run) } : World).monitorTurn run = _
    unfold monitorTurn
    dsimp only
    rw [found]
    dsimp only
    rw [waits]
    dsimp only [watch]
    rw [unasked, if_neg Bool.false_ne_true, reports]
    rfl

/-- **A monitor that hears of a fatal failure begins to stop the container**, and waits for errands
that retire consumers. -/
theorem Hears.gives_up {queue : String} {id : Nat} {error : ClientError}
    (hears : w.Hears run (.failed id queue error)) (orderly : w.Orderly)
    (running : w.registry.state = .running)
    (fatal : (w.registry.consumerFailed queue id error w.instant).1 = some (.ok (.fatal reason))) :
    ∃ deadline errands, (w.follow (.turn (.monitor run))).GivesUp run reason deadline errands ∧
      ∀ number ∈ errands, (w.follow (.turn (.monitor run))).Retires number := by
  obtain ⟨rest, ⟨m, present⟩, turned⟩ := hears.handles
  rw [handleReport_fatal (w := w.heard run rest) fatal] at turned
  let w₂ : World :=
    { w.heard run rest with
      registry := (w.registry.consumerFailed queue id error w.instant).2 }
  have goesOn : w₂.registry.state = .running :=
    (Registry.consumerFailed_state w.registry queue id error _).trans running
  obtain ⟨awake, deadline', errands, givesUp, few⟩ :=
    giveUp_givesUp (w := w₂) present goesOn reason
  have taken : w.follow (.turn (.monitor run)) = (w₂.giveUp run reason).2 := by
    show w.take (.monitor run) = _
    unfold World.take
    rw [show ({ w with agenda := w.agenda.give (.monitor run) } : World).turn (.monitor run) =
      (true, (w₂.giveUp run reason).2) from turned.trans (Prod.ext awake rfl)]
  rw [← taken] at givesUp few
  exact ⟨deadline', errands, givesUp, fun number among =>
    (orderly.follow _).assigned.waits (.monitor run) number (few among)⟩

end World

end QueueListener
