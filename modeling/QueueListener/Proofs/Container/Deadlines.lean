import QueueListener.Proofs.Container.Bystanders
/-!
# Errands that retire consumers

**An errand that retires a consumer is done after its deadline**: it has a turn coming until it has
begun, then its timer is set until that fires and gives it another turn, and at a turn after its
deadline it ends.

* `Retires`, `Assigned` — whoever stops the container waits for errands that retire consumers, and for
  no others;
* `Rings`, `TimelyAt` — an errand will not be forgotten;
* `follow_timelyAt` — whatever happens;
* `retireTurn_begins`, `retireTurn_ends` — the turns of such an errand.
-/

namespace QueueListener.World

variable {w w' w'' : World} {task other : Task} {move : Move} {id number : Nat}

/-! ### What an errand is about -/

section Kind

variable {kind : ErrandKind}

theorem LetsBe.keepsKind (letsBe : LetsBe (.errand number) w w')
    (about : (w.errands[number]?).map (·.kind) = some kind) :
    (w'.errands[number]?).map (·.kind) = some kind := by
  obtain ⟨errand, found, same⟩ := Option.map_eq_some_iff.mp about
  rw [letsBe.errand number rfl errand found, Option.map_some, same]

/-- **An errand keeps its kind.** -/
theorem Deed.keepsKind (deed : Deed task w w')
    (about : (w.errands[number]?).map (·.kind) = some kind) :
    (w'.errands[number]?).map (·.kind) = some kind := by
  cases deed with
  | affected effect => rwa [effect.quiet.errands]
  | informed | dismissed => exact about
  | @staffed registry changes new running hands =>
    have letsBe : LetsBe (.errand number) { w with registry }
        (({ w with registry } : World).apply changes) :=
      (foldl_letsBe spawn_letsBe changes.started _).trans
        (foldl_letsBe retire_letsBe changes.retired _)
    exact letsBe.keepsKind about
  | paused queue running =>
    have letsBe : LetsBe (.errand number) { w with registry := w.registry.dropConsumers queue } _ :=
      foldl_letsBe retire_letsBe (w.registry.consumersOf queue) _
    exact letsBe.keepsKind about
  | reassigned reassigns keeps => rwa [reassigns.kinds]
  | removed free after reassigns assigned => rwa [reassigns.kinds, after.quiet.errands]
  | stopBegun fatal free begun after reassigns assigned =>
    rwa [reassigns.kinds, after.quiet.errands]

theorem EndsStop.keepsKind {fatal : Option String} (ends : EndsStop task fatal w w')
    (about : (w.errands[number]?).map (·.kind) = some kind) :
    (w'.errands[number]?).map (·.kind) = some kind := by
  obtain ⟨middle, after, before, -, later, reassigns⟩ := ends.ended
  rw [reassigns.kinds, (publish_quiet _ _).errands, later.quiet.errands]
  rwa [← before.quiet.errands] at about

theorem Happening.keepsKind (happening : Happening move w w')
    (about : (w.errands[number]?).map (·.kind) = some kind) :
    (w'.errands[number]?).map (·.kind) = some kind := by
  cases happening with
  | apart apart => rwa [apart.errands]
  | used => exact about
  | turned _ busy does ends begun => rwa [ends.quiet.errands, does.quiet.errands]
  | deed deed => exact deed.keepsKind about
  | @sent kind' call recorded => exact (send_letsBe w kind' recorded).keepsKind about
  | @started registry asked starts => exact (begun_letsBe w registry).keepsKind about

theorem Outcome.keepsKind (outcome : Outcome move w w')
    (about : (w.errands[number]?).map (·.kind) = some kind) :
    (w'.errands[number]?).map (·.kind) = some kind := by
  cases outcome with
  | happens happens =>
    induction happens with
    | refl => exact about
    | tail _ happening ih => exact happening.keepsKind ih
  | endsStop turn ends rest =>
    rw [rest.errands]
    exact ends.keepsKind (turn.errands ▸ about)

end Kind

/-! ### Who is waited for -/

/-- An errand retires a consumer. -/
def Retires (w : World) (number : Nat) : Prop :=
  ∃ id, (w.errands[number]?).map (·.kind) = some (.retire id)

/-- Only errands that retire consumers are waited for. -/
structure Assigned (w : World) : Prop where
  retiring : ∀ number ∈ w.retiring, w.Retires number
  waits : ∀ task, ∀ number ∈ (w.duty task).errands, w.Retires number

theorem Assigned.of_same (assigned : w.Assigned)
    (kinds : ∀ number, w.Retires number → w'.Retires number)
    (retiring : ∀ number ∈ w'.retiring, number ∈ w.retiring)
    (duty : ∀ task, (w'.duty task).errands = (w.duty task).errands) : w'.Assigned where
  retiring number among := kinds number (assigned.retiring number (retiring number among))
  waits task number among := kinds number (assigned.waits task number (duty task ▸ among))

theorem Quiet.assigned (quiet : w.Quiet w') (assigned : w.Assigned) : w'.Assigned :=
  assigned.of_same (fun number retires => by unfold Retires; rwa [quiet.errands])
    (fun _ among => quiet.retiring ▸ among) fun task => by rw [quiet.duty]

theorem LetsBe.retires (letsBe : LetsBe (.errand number) w w') (retires : w.Retires number) :
    w'.Retires number := retires.imp fun _ => letsBe.keepsKind

theorem Reassigns.retires (reassigns : Reassigns task w w') (retires : w.Retires number) :
    w'.Retires number := by
  unfold Retires
  rwa [reassigns.kinds]

/-- Consumers are retired by errands that retire them. -/
theorem retire_assigned (assigned : w.Assigned) (id : Nat) : (w.retire id).Assigned := by
  have kept : ∀ number, w.Retires number → (w.retire id).Retires number := fun number retires =>
    (retire_letsBe w id).retires retires
  have duty : ∀ task, (w.retire id).duty task =
      if task = .errand w.errands.size then { consumers := [id] } else w.duty task :=
    send_duty (w.requestStop id) (.retire id) false
  refine ⟨fun number among => ?_, fun task number among => ?_⟩
  · obtain before | new := List.mem_append.mp among
    · exact kept number (assigned.retiring number before)
    · obtain rfl := List.mem_singleton.mp new
      refine ⟨id, ?_⟩
      show ((w.errands.push _)[w.errands.size]?).map _ = _
      rw [Array.getElem?_push_size]
      rfl
  · rw [duty] at among
    split at among
    next => exact absurd among List.not_mem_nil
    next => exact kept number (assigned.waits task number among)

theorem retireAll_assigned (assigned : w.Assigned) (ids : List Nat) :
    (ids.foldl retire w).Assigned := by
  induction ids generalizing w with
  | nil => exact assigned
  | cons id ids ih => exact ih (retire_assigned assigned id)

theorem spawnAll_assigned (assigned : w.Assigned) (new : List (Nat × String)) :
    (new.foldl spawn w).Assigned := by
  induction new generalizing w with
  | nil => exact assigned
  | cons consumer new ih => exact ih ⟨assigned.retiring, assigned.waits⟩

theorem Reassigns.assigned (reassigns : Reassigns task w w') (assigned : w.Assigned)
    (own : ∀ number ∈ (w'.duty task).errands, w.Retires number) : w'.Assigned where
  retiring number among :=
    reassigns.retires (assigned.retiring number (reassigns.retiring ▸ among))
  waits other number among := by
    by_cases here : other = task
    · exact reassigns.retires (own number (here ▸ among))
    · rw [reassigns.duty here] at among
      exact reassigns.retires (assigned.waits other number among)

theorem Deed.assigned (deed : Deed task w w') (assigned : w.Assigned) : w'.Assigned := by
  have given : ∀ registry : Registry, ({ w with registry } : World).Assigned :=
    fun _ => ⟨assigned.retiring, assigned.waits⟩
  cases deed with
  | affected effect => exact effect.quiet.assigned assigned
  | informed | dismissed => exact given _
  | @staffed registry changes new running hands =>
    exact retireAll_assigned (spawnAll_assigned (given registry) changes.started) changes.retired
  | paused queue running => exact retireAll_assigned (given _) _
  | reassigned reassigns keeps =>
    exact reassigns.assigned assigned fun number among =>
      assigned.waits task number (keeps.fewer among)
  | removed free after reassigns duty =>
    refine reassigns.assigned (after.quiet.assigned (given _)) fun number among => ?_
    rw [duty] at among
    exact absurd among List.not_mem_nil
  | @stopBegun ids registry fatal middle _ free begun after reassigns duty =>
    have let_go : World.Assigned { w with
        registry
        retiring := []
        monitors := w.monitors.modify (w.monitors.size - 1) fun m =>
          { m with stopRequested := true } } := by
      exact assigned.of_same (fun _ => id) (fun _ none => absurd none List.not_mem_nil)
        fun other => congrArg _ (duty_of_stopRequested _ other)
    refine reassigns.assigned (after.quiet.assigned let_go) fun number among => ?_
    rw [duty] at among
    obtain ⟨id, kind⟩ := assigned.retiring number among
    exact ⟨id, by rw [after.quiet.errands]; exact kind⟩

theorem EndsStop.assigned {fatal : Option String} (ends : EndsStop task fatal w w')
    (assigned : w.Assigned) : w'.Assigned := by
  have freed := ends.freed
  obtain ⟨middle, after, before, -, later, reassigns⟩ := ends.ended
  have finished : ({ middle with registry := middle.registry.finishStop fatal.isSome } :
      World).Assigned := by
    have begun : middle.Assigned := before.quiet.assigned assigned
    exact ⟨begun.retiring, begun.waits⟩
  refine reassigns.assigned ((publish_quiet _ _).assigned (later.quiet.assigned finished))
    fun number among => ?_
  rw [freed] at among
  exact absurd among List.not_mem_nil

theorem Happening.assigned (happening : Happening move w w') (assigned : w.Assigned) :
    w'.Assigned := by
  cases happening with
  | apart apart =>
    have same : ∀ number, w.Retires number → w'.Retires number := fun number retires => by
      unfold Retires
      rwa [apart.errands]
    refine assigned.of_same same (fun _ among => apart.retiring ▸ among) fun task => ?_
    unfold duty
    rw [apart.errands, apart.monitors]
  | used => exact ⟨assigned.retiring, assigned.waits⟩
  | turned _ busy does ends begun => exact ends.quiet.assigned (does.quiet.assigned assigned)
  | deed deed => exact deed.assigned assigned
  | @sent kind call recorded =>
    have kept : ∀ number, w.Retires number → (w.send kind recorded).2.Retires number :=
      fun number retires => (send_letsBe w kind recorded).retires retires
    refine ⟨fun number among => kept number (assigned.retiring number among),
      fun task number among => kept number ?_⟩
    rw [send_duty] at among
    split at among
    next => cases kind <;> exact absurd among List.not_mem_nil
    next => exact assigned.waits task number among
  | @started registry asked starts =>
    exact assigned.of_same (fun number retires => (begun_letsBe w registry).retires retires)
      (fun _ among => (begun_quiet w registry).retiring ▸ among) fun task => by rw [begun_duty]

theorem Outcome.assigned (outcome : Outcome move w w') (assigned : w.Assigned) : w'.Assigned := by
  cases outcome with
  | happens happens =>
    induction happens with
    | refl => exact assigned
    | tail _ happening ih => exact happening.assigned ih
  | endsStop turn ends rest =>
    have begins : Happening move _ _ := .apart turn
    have ended : Happening move _ _ := .apart rest
    exact ended.assigned (ends.assigned (begins.assigned assigned))

/-! ### Deadlines -/

/-- A deadline will not be missed: its timer is set, or it has fired and given the task a turn. -/
def Rings (w : World) (task : Task) (deadline : Instant) : Prop :=
  (⟨task, .deadline, dueMillis deadline⟩ : Timer) ∈ w.agenda.timers ∨
    dueMillis deadline ≤ w.now ∧ w.agenda.Owes task

/-- An errand that retires a consumer has a turn coming, or a deadline that it will not miss. -/
def Timely (w : World) (number : Nat) : ErrandPhase → Prop
  | .begin => w.agenda.Owes (.errand number)
  | .closing closing => closing.errands = [] ∧ w.Rings (.errand number) closing.deadline
  | .joining _ => False
  | .settling => False
  | .done _ => True

/-- The errand of a number is timely, if it retires a consumer. -/
def TimelyAt (w : World) (number : Nat) : Prop :=
  ∀ id phase recorded, w.errands[number]? = some ⟨.retire id, phase, recorded⟩ →
    w.Timely number phase

/-- When its timer is due a deadline has come. -/
theorem reached_of_due {t : Instant} (due : dueMillis t ≤ w.now) : w.reached t = true := by
  have later : Int.toNat t ≤ w.now * 1000000 := by
    unfold dueMillis Duration.wholeMillis Duration.perMilli at due
    omega
  refine decide_eq_true (?_ : (t : Int) ≤ (w.now : Int) * (1000000 : Nat))
  exact Int.le_trans (Int.self_le_toNat t) (by exact_mod_cast later)

theorem Lingers.rings (lingers : Lingers task w w') {deadline : Instant}
    (rings : w.Rings task deadline) : w'.Rings task deadline := by
  obtain set | ⟨due, owes⟩ := rings
  · exact lingers.timers _ set rfl
  · exact .inr ⟨Nat.le_trans due lingers.now, lingers.owes owes⟩

theorem Lingers.timely (lingers : Lingers (.errand number) w w') {phase : ErrandPhase}
    (timely : w.Timely number phase) : w'.Timely number phase := by
  cases phase with
  | begin => exact lingers.owes timely
  | closing closing => exact ⟨timely.1, lingers.rings timely.2⟩
  | joining | settling => exact timely
  | done => trivial

/-- An errand that is not at its turn stays timely. -/
theorem Lingers.timelyAt (lingers : Lingers (.errand number) w w') (timely : w.TimelyAt number)
    (fresh : w.errands[number]? = none → w'.TimelyAt number) : w'.TimelyAt number := by
  cases found : w.errands[number]? with
  | none => exact fresh found
  | some errand =>
    intro id phase recorded found'
    rw [lingers.errand number rfl errand found] at found'
    obtain rfl := Option.some.inj found'
    exact lingers.timely (timely id phase recorded found)

theorem timelyAt_of_none (none : w.errands[number]? = none) : w.TimelyAt number := by
  intro id phase recorded found
  rw [none] at found
  cases found

theorem LetsBe.timelyAt (letsBe : LetsBe (.errand number) w w') (timely : w.TimelyAt number)
    (same : w'.errands[number]? = w.errands[number]?) : w'.TimelyAt number :=
  letsBe.lingers.timelyAt timely fun none => timelyAt_of_none (same.trans none)

/-- An errand that is new has a turn coming. -/
theorem retire_timelyAt (timely : w.TimelyAt number) (id : Nat) : (w.retire id).TimelyAt number := by
  by_cases new : number = w.errands.size
  · intro other phase recorded found
    have sent : (w.errands.push { kind := .retire id })[number]? =
        some ⟨.retire other, phase, recorded⟩ := found
    rw [new, Array.getElem?_push_size] at sent
    cases sent
    rw [new]
    exact .inr (Agenda.wake_awakes _ _)
  · refine (retire_letsBe w id).timelyAt timely ?_
    show (w.errands.push _)[number]? = _
    rw [Array.getElem?_push, if_neg new]

theorem retireAll_timelyAt (timely : w.TimelyAt number) (ids : List Nat) :
    (ids.foldl retire w).TimelyAt number := by
  induction ids generalizing w with
  | nil => exact timely
  | cons id ids ih => exact ih (retire_timelyAt timely id)

theorem spawnAll_timelyAt (timely : w.TimelyAt number) (new : List (Nat × String)) :
    (new.foldl spawn w).TimelyAt number := by
  induction new generalizing w with
  | nil => exact timely
  | cons consumer new ih => exact ih ((spawn_letsBe w consumer).timelyAt timely rfl)

/-- **The deeds of others keep an errand timely**, also if they have begun it. -/
theorem Deed.timelyAt (deed : Deed other w w') (differ : other ≠ .errand number)
    (timely : w.TimelyAt number) : w'.TimelyAt number := by
  have given : ∀ registry : Registry, ({ w with registry } : World).TimelyAt number :=
    fun _ => timely
  have letsBe : LetsBe (.errand number) w w' := deed.letsBe differ trivial
  cases deed with
  | affected effect => exact letsBe.timelyAt timely (by rw [effect.quiet.errands])
  | informed | dismissed => exact given _
  | @staffed registry changes new running hands =>
    exact retireAll_timelyAt (spawnAll_timelyAt (given registry) changes.started) changes.retired
  | paused queue running => exact retireAll_timelyAt (given _) _
  | reassigned reassigns keeps => exact letsBe.timelyAt timely (reassigns.errands number differ)
  | removed free after reassigns assigned =>
    exact letsBe.timelyAt timely (by rw [reassigns.errands number differ, after.quiet.errands])
  | stopBegun fatal free begun after reassigns assigned =>
    exact letsBe.timelyAt timely (by rw [reassigns.errands number differ, after.quiet.errands])

theorem Deeds.timelyAt (deeds : Deeds other w w') (differ : other ≠ .errand number)
    (timely : w.TimelyAt number) : w'.TimelyAt number := by
  induction deeds with
  | refl => exact timely
  | tail _ deed ih => exact deed.timelyAt differ ih

theorem EndsStop.timelyAt {fatal : Option String} (ends : EndsStop other fatal w w')
    (differ : other ≠ .errand number) (timely : w.TimelyAt number) : w'.TimelyAt number := by
  refine (ends.letsBe differ trivial).timelyAt timely ?_
  obtain ⟨middle, after, before, -, later, reassigns⟩ := ends.ended
  rw [reassigns.errands number differ, (publish_quiet _ _).errands, later.quiet.errands,
    before.quiet.errands]

theorem Enacts.timelyAt (enacts : Enacts other w w') (differ : other ≠ .errand number)
    (timely : w.TimelyAt number) : w'.TimelyAt number := by
  cases enacts with
  | deeds deeds => exact Deeds.timelyAt deeds differ timely
  | endsStop ends => exact ends.timelyAt differ timely

/-- The turn of another task keeps an errand timely. -/
theorem turn_timelyAt (records : w.Records) (unopened : w.Unopened)
    (differ : other ≠ .errand number) (timely : w.TimelyAt number) :
    (w.turn other).2.TimelyAt number := by
  cases other with
  | consumer id =>
    refine (turn_letsBe records unopened differ trivial).timelyAt timely ?_
    exact congrArg (·[number]?) (consumerTurn_quiet unopened id).errands
  | feed id =>
    refine (turn_letsBe records unopened differ trivial).timelyAt timely ?_
    exact congrArg (·[number]?) (feedTurn_passes w id).quiet.errands
  | monitor run => exact (monitorTurn_enacts records run).timelyAt differ timely
  | errand own => exact (errandTurn_enacts records own).timelyAt differ timely

/-- After the turn of another task whoever is owed a turn has it coming. -/
theorem rest_timelyAt (timely : w.TimelyAt number) (current : w.agenda.current = some other)
    (differ : other ≠ .errand number) :
    ({ w with agenda := w.agenda.rest } : World).TimelyAt number := by
  have owes : w.agenda.Owes (.errand number) → w.agenda.rest.Owes (.errand number) := by
    rintro (working | awake)
    · rw [current] at working
      exact absurd (Option.some.inj working) differ
    · exact .inr awake
  intro id phase recorded found
  have timely' := timely id phase recorded found
  cases phase with
  | begin => exact owes timely'
  | closing closing => exact ⟨timely'.1, timely'.2.imp_right (And.imp_right owes)⟩
  | joining | settling => exact timely'
  | done => trivial

theorem take_timelyAt (records : w.Records) (unopened : w.Unopened)
    (differ : other ≠ .errand number) (timely : w.TimelyAt number) :
    (w.take other).TimelyAt number := by
  refine (take_lingers records unopened differ trivial).timelyAt timely fun none => ?_
  have apart := give_apart w other
  have records₀ := records.of_apart apart
  have unopened₀ : ({ w with agenda := w.agenda.give other } : World).Unopened :=
    unopened.of_consumers apart.consumers
  have turned := turn_timelyAt records₀ unopened₀ differ (timelyAt_of_none none)
  have current := (turn_letsBe records₀ unopened₀ differ trivial).turns.current.trans
    (Agenda.give_current w.agenda other)
  unfold take
  split
  next w' goesOn =>
    rw [goesOn] at turned
    exact turned
  next w' pauses =>
    rw [pauses] at turned current
    exact rest_timelyAt turned current differ

theorem converge_timelyAt (timely : w.TimelyAt number) : w.converge.TimelyAt number := by
  have deeds : Deeds (.feed 0) w w.converge := (converge_manages w).deeds
  exact Deeds.timelyAt deeds (by rintro ⟨⟩) timely

theorem adopt_timelyAt (timely : w.TimelyAt number) (result : Except Refusal Registry) :
    (w.adopt result).2.TimelyAt number := by
  cases result with
  | error refusal => exact timely
  | ok registry =>
    have adopted : ({ w with registry } : World).TimelyAt number := timely
    exact converge_timelyAt adopted

/-- A call begins no errand that retires a consumer. -/
theorem send_timelyAt (timely : w.TimelyAt number) {kind : ErrandKind}
    (call : ∀ id, kind ≠ .retire id) (recorded : Bool) :
    (w.send kind recorded).2.TimelyAt number := by
  refine (send_letsBe w kind recorded).lingers.timelyAt timely fun none => ?_
  intro id phase record found
  have sent : (w.errands.push { kind, recorded })[number]? = some ⟨.retire id, phase, record⟩ :=
    found
  rw [Array.getElem?_push, none] at sent
  split at sent
  next =>
    obtain ⟨rfl, -⟩ := Errand.mk.inj (Option.some.inj sent)
    exact absurd rfl (call id)
  next => cases sent

/-- **Whatever happens keeps an errand timely** that is not at its turn. -/
theorem follow_timelyAt (records : w.Records) (unopened : w.Unopened)
    (differ : move ≠ .turn (.errand number)) (timely : w.TimelyAt number) :
    (w.follow move).TimelyAt number := by
  have lingers := follow_lingers records unopened differ trivial
  cases move with
  | turn other =>
    exact take_timelyAt records unopened (fun same => differ (congrArg _ same)) timely
  | pass | attend | arm | provide =>
    exact lingers.timelyAt timely fun none => timelyAt_of_none none
  | start =>
    show w.start.2.TimelyAt number
    unfold start
    split
    next => exact timely
    next => exact timely
    next registry _ =>
      refine converge_timelyAt ((begun_letsBe w registry).timelyAt timely ?_)
      exact congrArg (·[number]?) (begun_quiet w registry).errands
  | setBounds bounds => exact adopt_timelyAt timely _
  | addQueues names => exact adopt_timelyAt timely _
  | remove names recorded => exact send_timelyAt timely (by rintro _ ⟨⟩) recorded
  | stop recorded => exact send_timelyAt timely (by rintro _ ⟨⟩) recorded
  | await target deadline recorded => exact send_timelyAt timely (by rintro _ ⟨⟩) recorded
  | abandon =>
    have given : ({ w with abandoned := true } : World).TimelyAt number := timely
    exact Deeds.timelyAt (letGo_deeds (.feed 0) _) (by rintro ⟨⟩) given
  | administer op =>
    refine lingers.timelyAt timely fun none => timelyAt_of_none ?_
    exact (congrArg (·[number]?) (deliverNotices_quiet _).errands).trans none

/-! ### The turns of an errand that retires a consumer -/

theorem letGo_errands (w : World) : w.letGo.errands = w.errands := by
  unfold letGo
  split
  next => exact (requestStops_effects (.feed 0) _ _).quiet.errands
  next => rfl

/-- The end of an errand changes no other errand. -/
theorem endErrand_errands (w : World) (number : Nat) (errand : Errand) (answer : Bool) :
    (w.endErrand number errand answer).2.errands =
      (w.setErrandPhase number (.done answer)).errands := by
  unfold endErrand
  dsimp only [pause]
  rw [letGo_errands]
  split <;> rfl

theorem setErrandPhase_errand {errand : Errand} (found : w.errands[number]? = some errand)
    (phase : ErrandPhase) :
    (w.setErrandPhase number phase).errands[number]? = some { errand with phase } := by
  show (w.errands.modify number _)[number]? = _
  rw [Array.getElem?_modify, if_pos rfl, found]
  rfl

/-- How an errand that retires a consumer gets on. -/
inductive Proceeds (w : World) : ErrandPhase → ErrandPhase → Prop
  | begins (closing : Closing) : Proceeds w .begin (.closing closing)
  | waits {closing closing' : Closing} (early : w.reached closing.deadline = false)
      (same : closing'.deadline = closing.deadline) :
      Proceeds w (.closing closing) (.closing closing')
  | ends (closing : Closing) (answer : Bool) : Proceeds w (.closing closing) (.done answer)
  | ended (answer : Bool) : Proceeds w (.done answer) (.done answer)

/-- The beginning of an errand that retires a consumer sets its timer. -/
theorem retireTurn_begins {recorded : Bool}
    (found : w.errands[number]? = some ⟨.retire id, .begin, recorded⟩) :
    ∃ phase, (w.errandTurn number).2.errands[number]? = some ⟨.retire id, phase, recorded⟩ ∧
      w.Proceeds .begin phase ∧ (w.errandTurn number).1 = true ∧
        (w.errandTurn number).2.Timely number phase := by
  unfold errandTurn
  rw [found]
  dsimp only [beginErrand, awaitClosing, goOn]
  refine ⟨.closing (w.beginClosing [id] []).1, ?_, .begins _, rfl, rfl, .inl ?_⟩
  · exact setErrandPhase_errand (w := (w.beginClosing [id] []).2) found _
  · exact List.mem_append_right _ (List.mem_singleton_self _)

/-- **An errand that retires a consumer ends at a turn after its deadline**, or earlier. -/
theorem retireTurn_waits (records : w.Records) {closing : Closing} {recorded : Bool}
    (found : w.errands[number]? = some ⟨.retire id, .closing closing, recorded⟩)
    (alone : closing.errands = []) :
    ∃ phase, (w.errandTurn number).2.errands[number]? = some ⟨.retire id, phase, recorded⟩ ∧
      w.Proceeds (.closing closing) phase ∧
        ((∃ answer, phase = .done answer) ∨ ∃ closing', phase = .closing closing' ∧
          closing'.errands = [] ∧ closing'.deadline = closing.deadline ∧
            (w.errandTurn number).2.agenda = w.agenda) := by
  have effects : Effects (.errand number) w (w.advanceClosing closing).2 :=
    advanceClosing_effects records closing
  unfold errandTurn
  rw [found]
  dsimp only
  split
  next isOver =>
    refine ⟨.done true, ?_, .ends closing true, .inl ⟨true, rfl⟩⟩
    dsimp only [afterClosing]
    rw [endErrand_errands]
    exact setErrandPhase_errand (effects.quiet.errands ▸ found) (.done true)
  next waits =>
    have early : w.reached closing.deadline = false := by
      by_contra late
      refine waits ?_
      unfold advanceClosing
      rw [if_pos (eq_true_of_ne_false late), alone]
      rfl
    have stays : w.advanceClosing closing = ({ closing with
        consumers := closing.consumers.filter fun id => !w.isFinished id
        errands := closing.errands.filter fun number => !w.errandDone number }, w) := by
      unfold advanceClosing
      rw [if_neg (by rw [early]; exact Bool.false_ne_true)]
    rw [stays]
    refine ⟨_, setErrandPhase_errand found _, .waits early rfl, .inr ⟨_, rfl, ?_, rfl, rfl⟩⟩
    rw [alone]
    rfl

theorem take_timers (w : World) (task : Task) : (w.take task).agenda.timers =
    (({ w with agenda := w.agenda.give task } : World).turn task).2.agenda.timers := by
  unfold take
  split
  next turned => rw [turned]
  next turned => rw [turned]; rfl

/-- **A turn of an errand that retires a consumer gets it on**, and keeps it timely. -/
theorem take_retires (records : w.Records) {phase : ErrandPhase} {recorded : Bool}
    (found : w.errands[number]? = some ⟨.retire id, phase, recorded⟩)
    (timely : w.Timely number phase) :
    ∃ phase', (w.take (.errand number)).errands[number]? = some ⟨.retire id, phase', recorded⟩ ∧
      w.Proceeds phase phase' ∧ (w.take (.errand number)).Timely number phase' := by
  have records₀ := records.of_apart (give_apart w (.errand number))
  have found₀ : ({ w with agenda := w.agenda.give (.errand number) } : World).errands[number]? =
      some ⟨.retire id, phase, recorded⟩ := found
  rw [(take_apart w _).errands]
  cases phase with
  | begin =>
    obtain ⟨phase', found', proceeds, goesOn, timely'⟩ := retireTurn_begins found₀
    refine ⟨phase', found', ?_, ?_⟩
    · cases proceeds with
      | begins closing => exact .begins closing
    · unfold take
      split
      next turned =>
        rw [show errandTurn _ number = _ from turned] at timely'
        exact timely'
      next turned =>
        rw [show errandTurn _ number = _ from turned] at goesOn
        cases goesOn
  | closing closing =>
    obtain ⟨alone, rings⟩ := timely
    obtain ⟨phase', found', proceeds, ⟨answer, rfl⟩ | ⟨closing', rfl, alone', same, stays⟩⟩ :=
      retireTurn_waits records₀ found₀ alone
    · exact ⟨_, found', .ends closing answer, trivial⟩
    · have early : w.reached closing.deadline = false := by
        cases proceeds with
        | waits early => exact early
      refine ⟨_, found', .waits early same, alone', .inl ?_⟩
      obtain set | ⟨due, -⟩ := rings
      · rw [take_timers, same]
        refine (congrArg Agenda.timers stays).symm ▸ ?_
        rwa [Agenda.give_timers]
      · rw [reached_of_due due] at early
        cases early
  | joining | settling => exact timely.elim
  | done answer =>
    refine ⟨.done answer, ?_, .ended answer, trivial⟩
    show (errandTurn _ number).2.errands[number]? = _
    unfold errandTurn
    rw [found₀]
    exact found

/-- **Every errand that retires a consumer stays timely.** -/
theorem Sound.follow_timelyAt (sound : w.Sound) (move : Move) (timely : w.TimelyAt number) :
    (w.follow move).TimelyAt number := by
  by_cases own : move = .turn (.errand number)
  · subst own
    intro id phase recorded found
    cases before : w.errands[number]? with
    | none =>
      have none : (w.take (.errand number)).errands[number]? = .none := by
        rw [(take_apart w _).errands]
        show (errandTurn _ number).2.errands[number]? = _
        unfold errandTurn
        split
        next => exact before
        next found₀ =>
          rw [before] at found₀
          cases found₀
      rw [show (w.follow (.turn (.errand number))).errands[number]? = _ from none] at found
      cases found
    | some errand =>
      have kept : ((w.follow (.turn (.errand number))).errands[number]?).map (·.kind) =
          some errand.kind :=
        (follow_outcome sound.records sound.unopened _).keepsKind (by rw [before, Option.map_some])
      rw [found] at kept
      obtain ⟨kind, phase₀, recorded₀⟩ := errand
      obtain rfl : ErrandKind.retire id = kind := Option.some.inj kept
      obtain ⟨phase', found', -, timely'⟩ :=
        take_retires sound.records before (timely id phase₀ recorded₀ before)
      have same := (show (w.take (.errand number)).errands[number]? = _ from found).symm.trans found'
      cases same
      exact timely'
  · exact World.follow_timelyAt sound.records sound.unopened own timely

end QueueListener.World
