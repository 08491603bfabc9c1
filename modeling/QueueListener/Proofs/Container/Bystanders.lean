import QueueListener.Proofs.Container.Happenings
/-!
# What a task leaves to the others

**No task does another one's work**: a monitor or an errand that is not at its turn stays as far as
it is, keeps the turns that it has coming, and keeps its timers, whoever else has a turn and whatever
is called.

* `LetsBe` — a task stays as far as it is;
* `Does.letsBe`, `Effects.letsBe`, `Deed.letsBe`, `EndsStop.letsBe` — whatever others do lets it be;
* `turn_letsBe` — so does every turn of another task;
* `Lingers`, `follow_lingers` — so a task that is not at its turn forgets nothing;
* `follow_now` — only the clock takes time.
-/

namespace QueueListener

/-- Whether a task administers the container. -/
def Task.IsOffice : Task → Prop
  | .monitor _ => True
  | .errand _ => True
  | _ => False

theorem Task.IsOffice.ne_consumer {task : Task} (office : task.IsOffice) (id : Nat) :
    task ≠ .consumer id := by
  rintro rfl
  exact office

theorem Task.IsOffice.ne_feed {task : Task} (office : task.IsOffice) (id : Nat) :
    task ≠ .feed id := by
  rintro rfl
  exact office

namespace World

/-- A monitor or an errand stays as far as it is, with its turns and its timers. -/
structure LetsBe (task : Task) (w w' : World) : Prop where
  errand : ∀ number, task = .errand number → ∀ errand, w.errands[number]? = some errand →
    w'.errands[number]? = some errand
  monitor : ∀ run, task = .monitor run → ∀ m, w.monitors[run]? = some m →
    ∃ m', w'.monitors[run]? = some m' ∧ m'.phase = m.phase
  turns : Agenda.Spares task w.agenda w'.agenda
  now : w'.now = w.now

variable {w w' w'' : World} {task other : Task} {id number run : Nat}

namespace LetsBe

theorem trans (first : LetsBe task w w') (second : LetsBe task w' w'') : LetsBe task w w'' where
  errand number own errand found :=
    second.errand number own errand (first.errand number own errand found)
  monitor run own m found := by
    obtain ⟨m', found', same⟩ := first.monitor run own m found
    obtain ⟨m'', found'', same'⟩ := second.monitor run own m' found'
    exact ⟨m'', found'', same'.trans same⟩
  turns := first.turns.trans second.turns
  now := second.now.trans first.now

theorem of_quiet (quiet : w.Quiet w') (turns : Agenda.Spares task w.agenda w'.agenda) :
    LetsBe task w w' where
  errand _ _ _ found := quiet.errands ▸ found
  monitor run _ m found := by
    obtain ⟨news, heard⟩ := quiet.monitors run
    exact ⟨{ m with reports := m.reports ++ news }, by rw [heard, found]; rfl, rfl⟩
  turns := turns
  now := quiet.now

theorem of_same (errands : w'.errands = w.errands) (monitors : w'.monitors = w.monitors)
    (turns : Agenda.Spares task w.agenda w'.agenda) (now : w'.now = w.now) : LetsBe task w w' where
  errand _ _ _ found := errands ▸ found
  monitor _ _ m found := ⟨m, monitors ▸ found, rfl⟩
  turns := turns
  now := now

theorem refl (task : Task) (w : World) : LetsBe task w w := of_same rfl rfl (.refl task w.agenda) rfl

end LetsBe

/-! ### What consumers do, and what ends them -/

theorem publish_agenda (w : World) (event : Event) : (w.publish event).agenda = w.agenda := by
  unfold publish
  split <;> rfl

theorem Aside.spares (aside : w.Aside w') : Agenda.Spares task w.agenda w'.agenda := by
  cases aside with
  | asked | fed | noted => exact .refl task _
  | delivered =>
    obtain ⟨handoffs, tasks, same⟩ := w.deliverNotices_shape
    rw [same]
    exact Agenda.spares_wakeAll _ task tasks
  | woken other => exact Agenda.spares_wake _ task other
  | told => rw [publish_agenda]; exact .refl task _

theorem Passes.spares (passes : w.Passes w') : Agenda.Spares task w.agenda w'.agenda := by
  induction passes with
  | refl => exact .refl task _
  | tail _ aside ih => exact ih.trans aside.spares

theorem Passes.letsBe (passes : w.Passes w') : LetsBe task w w' := .of_quiet passes.quiet passes.spares

/-- To deliver notices takes no turn away. -/
theorem deliverNotices_spares {a : Agenda} (same : w.agenda = a) :
    Agenda.Spares task a w.deliverNotices.agenda := same ▸ (deliverNotices_passes w).spares

theorem releaseChannel_spares (w : World) (id : Nat) :
    Agenda.Spares task w.agenda (w.releaseChannel id).2.agenda := by
  unfold releaseChannel
  split
  next => exact .refl task _
  next => exact deliverNotices_spares rfl

/-- What a consumer does is no business of a monitor or an errand. -/
theorem Doing.letsBe (doing : Doing id w w') (differ : task ≠ .consumer id) : LetsBe task w w' := by
  refine .of_quiet doing.quiet ?_
  cases doing with
  | aside aside => exact aside.spares
  | timed slot t => exact Agenda.spares_setTimer _ (Ne.symm differ) slot _
  | untimed slot => exact Agenda.spares_cancelTimer _ (Ne.symm differ) slot
  | worked | subscribed | handed | written => exact .refl task _
  | reported run queue => exact Agenda.spares_wake _ task _
  | opened => exact deliverNotices_spares rfl
  | released => exact releaseChannel_spares w id

theorem Does.letsBe (does : Does id w w') (differ : task ≠ .consumer id) : LetsBe task w w' := by
  induction does with
  | refl => exact .refl task w
  | tail _ doing ih => exact ih.trans (doing.letsBe differ)

/-- The end of a consumer is told to whoever waits for it, and stops no timer but its own. -/
theorem Effect.letsBe (effect : Effect other w w') (differ : other ≠ task)
    (office : task.IsOffice) : LetsBe task w w' := by
  refine .of_quiet effect.quiet ?_
  cases effect with
  | aside aside => exact aside.spares
  | timed slot t => exact Agenda.spares_setTimer _ differ slot _
  | untimed slot => exact Agenda.spares_cancelTimer _ differ slot
  | rested id slot => exact Agenda.spares_cancelTimer _ (Ne.symm (office.ne_consumer id)) slot
  | @released id => exact releaseChannel_spares w id
  | dropped | touched => exact .refl task _
  | @ended id c found busy metrics state event told report about =>
    have reported : ∀ w : World, Agenda.Spares task w.agenda (w.reportAny c.run report).agenda := by
      intro w
      cases report with
      | none => exact .refl task _
      | some report => exact Agenda.spares_wake _ task _
    have published : Agenda.Spares task w.agenda
        ((({ (w.releaseChannel id).2 with metrics } : World).updateConsumer id
          fun c => { c with state }).publish event).agenda := by
      rw [publish_agenda]
      exact releaseChannel_spares w id
    exact ((published.trans (reported _)).trans
      (Agenda.spares_cancelTimer _ (Ne.symm (office.ne_consumer id)) .deadline)).trans
        (Agenda.spares_wakeAll _ task _)

theorem Effects.letsBe (effects : Effects other w w') (differ : other ≠ task)
    (office : task.IsOffice) : LetsBe task w w' := by
  induction effects with
  | refl => exact .refl task w
  | tail _ effect ih => exact ih.trans (effect.letsBe differ office)

/-! ### Deeds -/

theorem Reassigns.letsBe (reassigns : Reassigns other w w') (differ : other ≠ task) :
    LetsBe task w w' where
  errand number own errand found := by
    rw [reassigns.errands number (own ▸ differ), found]
  monitor run own m found := by
    have same := reassigns.monitors run (own ▸ differ)
    rw [found] at same
    obtain ⟨m', found', phase⟩ := Option.map_eq_some_iff.mp same
    exact ⟨m', found', phase⟩
  turns := reassigns.turns task differ
  now := reassigns.now

/-- To send an errand lets everybody be who is under way. -/
theorem send_letsBe (w : World) (kind : ErrandKind) (recorded : Bool) :
    LetsBe task w (w.send kind recorded).2 where
  errand number _ errand found := by
    show (w.errands.push _)[number]? = _
    rw [Array.getElem?_push, if_neg, found]
    exact Nat.ne_of_lt (Array.getElem?_eq_some_iff.mp found).1
  monitor _ _ m found := ⟨m, found, rfl⟩
  turns := Agenda.spares_wake _ task _
  now := rfl

theorem spawn_letsBe (w : World) (consumer : Nat × String) : LetsBe task w (w.spawn consumer) :=
  .of_same rfl rfl (Agenda.spares_wake _ task _) rfl

theorem requestStop_letsBe (w : World) (id : Nat) : LetsBe task w (w.requestStop id) :=
  .of_same rfl rfl (Agenda.spares_wake _ task _) rfl

theorem retire_letsBe (w : World) (id : Nat) : LetsBe task w (w.retire id) := by
  have sent : LetsBe task w ((w.requestStop id).send (.retire id) false).2 :=
    (requestStop_letsBe w id).trans (send_letsBe _ (.retire id) false)
  exact sent.trans (.of_same rfl rfl (.refl task _) rfl)

theorem foldl_letsBe {α : Type} {each : World → α → World}
    (letsBe : ∀ w item, LetsBe task w (each w item)) (items : List α) (w : World) :
    LetsBe task w (items.foldl each w) := by
  induction items generalizing w with
  | nil => exact .refl task w
  | cons item items ih => exact (letsBe w item).trans (ih _)

/-- That a monitor is asked to stop does not get it any further. -/
theorem stopRequested_letsBe (registry : Registry) (retiring : List Nat) (run : Nat) :
    LetsBe task w { w with
      registry
      retiring
      monitors := w.monitors.modify run fun m => { m with stopRequested := true } } where
  errand _ _ _ found := found
  monitor other _ m found := by
    dsimp only
    rw [Array.getElem?_modify]
    split
    next => exact ⟨{ m with stopRequested := true }, by rw [found]; rfl, rfl⟩
    next => exact ⟨m, found, rfl⟩
  turns := .refl task _
  now := rfl

/-- **The deed of another task lets a monitor or an errand be.** -/
theorem Deed.letsBe (deed : Deed other w w') (differ : other ≠ task)
    (office : task.IsOffice) : LetsBe task w w' := by
  have same : ∀ registry : Registry, LetsBe task w { w with registry } :=
    fun registry => .of_same rfl rfl (.refl task _) rfl
  cases deed with
  | affected effect => exact effect.letsBe differ office
  | informed | dismissed => exact same _
  | @staffed registry changes new running hands =>
    exact (same registry).trans ((foldl_letsBe spawn_letsBe changes.started _).trans
      (foldl_letsBe retire_letsBe changes.retired _))
  | paused queue running => exact (same _).trans (foldl_letsBe retire_letsBe _ _)
  | reassigned reassigns keeps => exact reassigns.letsBe differ
  | removed free after reassigns assigned =>
    exact ((same _).trans (Effects.letsBe after differ office)).trans (reassigns.letsBe differ)
  | stopBegun fatal free begun after reassigns assigned =>
    exact ((stopRequested_letsBe _ _ _).trans (Effects.letsBe after differ office)).trans
      (reassigns.letsBe differ)

theorem Deeds.letsBe (deeds : Deeds other w w') (differ : other ≠ task)
    (office : task.IsOffice) : LetsBe task w w' := by
  induction deeds with
  | refl => exact .refl task w
  | tail _ deed ih => exact ih.trans (deed.letsBe differ office)

theorem EndsStop.letsBe {fatal : Option String} (ends : EndsStop other fatal w w')
    (differ : other ≠ task) (office : task.IsOffice) : LetsBe task w w' := by
  obtain ⟨middle, after, before, -, later, reassigns⟩ := ends.ended
  have finished : LetsBe task middle
      { middle with registry := middle.registry.finishStop fatal.isSome } :=
    .of_same rfl rfl (.refl task _) rfl
  have told : LetsBe task after (after.publish (.containerStopped fatal.isSome fatal)) :=
    .of_quiet (publish_quiet after _) (by rw [publish_agenda]; exact .refl task _)
  exact (((Effects.letsBe before differ office).trans finished).trans
    (Effects.letsBe later differ office)).trans (told.trans (reassigns.letsBe differ))

theorem Enacts.letsBe (enacts : Enacts other w w') (differ : other ≠ task)
    (office : task.IsOffice) : LetsBe task w w' := by
  cases enacts with
  | deeds deeds => exact Deeds.letsBe deeds differ office
  | endsStop ends => exact ends.letsBe differ office

/-! ### Turns -/

/-- **A turn of another task lets a monitor or an errand be.** -/
theorem turn_letsBe (records : w.Records) (unopened : w.Unopened) (differ : other ≠ task)
    (office : task.IsOffice) : LetsBe task w (w.turn other).2 := by
  cases other with
  | consumer id =>
    cases busy : w.isFinished id with
    | true =>
      show LetsBe task w (w.consumerTurn id).2
      rw [consumerTurn_of_finished busy]
      exact .refl task w
    | false =>
      obtain ⟨middle, does, same | ⟨result, same⟩⟩ := consumerTurn_acts w id (unopened id)
      · exact same ▸ does.letsBe (office.ne_consumer id)
      · have ended : Effects (.consumer id) middle (middle.finish id result) :=
          finish_effects (does.busy busy) result
        exact same ▸ (does.letsBe (office.ne_consumer id)).trans (Effects.letsBe ended differ office)
  | feed id => exact (feedTurn_passes w id).letsBe
  | monitor run => exact (monitorTurn_enacts records run).letsBe differ office
  | errand number => exact (errandTurn_enacts records number).letsBe differ office

/-! ### Moves -/

/-- A task that is not at its turn stays as far as it is, keeps the turns that it has coming, and its
timers until they fire and give it a turn. -/
structure Lingers (task : Task) (w w' : World) : Prop where
  errand : ∀ number, task = .errand number → ∀ errand, w.errands[number]? = some errand →
    w'.errands[number]? = some errand
  monitor : ∀ run, task = .monitor run → ∀ m, w.monitors[run]? = some m →
    ∃ m', w'.monitors[run]? = some m' ∧ m'.phase = m.phase
  owes : w.agenda.Owes task → w'.agenda.Owes task
  timers : ∀ timer ∈ w.agenda.timers, timer.task = task →
    timer ∈ w'.agenda.timers ∨ timer.due ≤ w'.now ∧ w'.agenda.Owes task
  now : w.now ≤ w'.now

theorem LetsBe.lingers (letsBe : LetsBe task w w') : Lingers task w w' where
  errand := letsBe.errand
  monitor := letsBe.monitor
  owes := letsBe.turns.owes
  timers timer set own := .inl (letsBe.turns.timers timer set own)
  now := Nat.le_of_eq letsBe.now.symm

/-- **A turn of another task takes no turn away.** -/
theorem take_lingers (records : w.Records) (unopened : w.Unopened) (differ : other ≠ task)
    (office : task.IsOffice) : Lingers task w (w.take other) := by
  have apart := give_apart w other
  have turn : LetsBe task { w with agenda := w.agenda.give other } _ :=
    turn_letsBe (records.of_apart apart) (unopened.of_consumers apart.consumers) differ office
  have current : (w.agenda.give other).current = some other := Agenda.give_current _ _
  have owes : w.agenda.Owes task → (w.agenda.give other).isAwake task = true :=
    Agenda.give_awake differ
  have timers : (w.agenda.give other).timers = w.agenda.timers := Agenda.give_timers _ _
  unfold take
  split
  next w' goesOn =>
    rw [goesOn] at turn
    exact {
      errand := turn.errand
      monitor := turn.monitor
      owes := fun owed => .inr (turn.turns.awake (owes owed))
      timers := fun timer set own => .inl (turn.turns.timers timer (timers.symm ▸ set) own)
      now := Nat.le_of_eq turn.now.symm }
  next w' pauses =>
    rw [pauses] at turn
    exact {
      errand := turn.errand
      monitor := turn.monitor
      owes := fun owed => .inr (turn.turns.awake (owes owed))
      timers := fun timer set own => .inl (turn.turns.timers timer (timers.symm ▸ set) own)
      now := Nat.le_of_eq turn.now.symm }

theorem pass_lingers (w : World) (now : Nat) : Lingers task w (w.pass now) where
  errand _ _ _ found := found
  monitor _ _ m found := ⟨m, found, rfl⟩
  owes := Agenda.fire_owes _ _
  timers _ set own := own ▸ Agenda.fire_timers set
  now := Nat.le_max_left _ _

theorem begun_letsBe (w : World) (registry : Registry) : LetsBe task w (w.begun registry) := by
  have counted : LetsBe task w { w with
      registry
      monitors := w.monitors.push {}
      joinable := some w.monitors.size } := {
    errand := fun _ _ _ found => found
    monitor := fun run _ m found => by
      refine ⟨m, ?_, rfl⟩
      dsimp only
      rw [Array.getElem?_push, if_neg, found]
      exact Nat.ne_of_lt (Array.getElem?_eq_some_iff.mp found).1
    turns := .refl task _
    now := rfl }
  have told : ∀ w : World, LetsBe task w (w.publish .containerStarted) := fun w =>
    .of_quiet (publish_quiet w _) (by rw [publish_agenda]; exact .refl task _)
  exact (counted.trans (Passes.letsBe (.head (.woken _) (wakeObservers_passes _)))).trans (told _)

theorem converge_letsBe (w : World) (office : task.IsOffice) : LetsBe task w w.converge := by
  have deeds : Deeds (.feed 0) w w.converge := (converge_manages w).deeds
  exact Deeds.letsBe deeds (Ne.symm (office.ne_feed 0)) office

theorem start_letsBe (w : World) (office : task.IsOffice) : LetsBe task w w.start.2 := by
  unfold start
  split
  next => exact .refl task w
  next => exact .refl task w
  next registry _ => exact (begun_letsBe w registry).trans (converge_letsBe _ office)

theorem adopt_letsBe (w : World) (office : task.IsOffice) (result : Except Refusal Registry) :
    LetsBe task w (w.adopt result).2 := by
  cases result with
  | error refusal => exact .refl task w
  | ok registry =>
    have adopted : LetsBe task w { w with registry } := .of_same rfl rfl (.refl task _) rfl
    exact adopted.trans (converge_letsBe _ office)

/-- A call lets a monitor or an errand be, and so does whatever else is neither a turn nor the
clock. -/
theorem follow_letsBe {move : Move} (office : task.IsOffice) (turnless : ∀ other, move ≠ .turn other)
    (timeless : ∀ now, move ≠ .pass now) : LetsBe task w (w.follow move) := by
  cases move with
  | turn other => exact absurd rfl (turnless other)
  | pass now => exact absurd rfl (timeless now)
  | attend awaited => exact .of_same rfl rfl ⟨rfl, id, fun _ set _ => set⟩ rfl
  | start => exact start_letsBe w office
  | setBounds bounds => exact adopt_letsBe w office _
  | addQueues names => exact adopt_letsBe w office _
  | remove names recorded => exact send_letsBe w _ recorded
  | stop recorded => exact send_letsBe w _ recorded
  | await target deadline recorded => exact send_letsBe w _ recorded
  | abandon =>
    have given : LetsBe task w { w with abandoned := true } := .of_same rfl rfl (.refl task _) rfl
    exact given.trans (Deeds.letsBe (letGo_deeds (.feed 0) _) (Ne.symm (office.ne_feed 0)) office)
  | administer op =>
    have used : LetsBe task w
        { w with client := { w.client with broker := (w.client.broker.step op).2 } } :=
      .of_same rfl rfl (.refl task _) rfl
    exact used.trans (deliverNotices_passes _).letsBe
  | arm | provide => exact .of_same rfl rfl (.refl task _) rfl

/-- **A task that is not at its turn stays as far as it is**, whatever happens. -/
theorem follow_lingers (records : w.Records) (unopened : w.Unopened) {move : Move}
    (differ : move ≠ .turn task) (office : task.IsOffice) : Lingers task w (w.follow move) := by
  cases move with
  | turn other =>
    exact take_lingers records unopened (fun same => differ (congrArg _ same)) office
  | pass now => exact pass_lingers w now
  | attend | start | setBounds | addQueues | remove | stop | await | abandon | administer | arm
  | provide => exact (follow_letsBe office (by rintro _ ⟨⟩) (by rintro _ ⟨⟩)).lingers

/-! ### The clock -/

/-- A turn takes no time. -/
theorem take_now (records : w.Records) (unopened : w.Unopened) (task : Task) :
    (w.take task).now = w.now := by
  have apart := give_apart w task
  have bystander : ∃ other : Task, task ≠ other ∧ other.IsOffice := by
    cases task with
    | monitor run => exact ⟨.errand 0, (by rintro ⟨⟩), trivial⟩
    | consumer | feed | errand => exact ⟨.monitor 0, (by rintro ⟨⟩), trivial⟩
  obtain ⟨other, differ, office⟩ := bystander
  have turned := (turn_letsBe (records.of_apart apart) (unopened.of_consumers apart.consumers)
    differ office).now
  unfold take
  split
  next goesOn => rwa [goesOn] at turned
  next pauses => rwa [pauses] at turned

/-- **Only the clock takes time.** -/
theorem follow_now (records : w.Records) (unopened : w.Unopened) (move : Move) :
    (w.follow move).now = w.now ∨ ∃ now, move = .pass now := by
  have still : ∀ move : Move, (∀ other, move ≠ .turn other) → (∀ now, move ≠ .pass now) →
      (w.follow move).now = w.now := fun move turnless timeless =>
    have letsBe : LetsBe (.monitor 0) w (w.follow move) := follow_letsBe trivial turnless timeless
    letsBe.now
  cases move with
  | turn task => exact .inl (take_now records unopened task)
  | pass now => exact .inr ⟨now, rfl⟩
  | attend | start | setBounds | addQueues | remove | stop | await | abandon | administer | arm
  | provide => exact .inl (still _ (by rintro _ ⟨⟩) (by rintro _ ⟨⟩))

end World

end QueueListener
