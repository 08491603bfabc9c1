import QueueListener.Proofs.Container.Duties
import QueueListener.Proofs.Container.Moves
/-!
# What a move is made of

**Whatever moves a container, what happens is of a few kinds**: something that concerns none of its
consumers, something that a consumer does, a deed of a monitor or of an errand, a call that is sent,
or a start. Only the end of a stop is apart, and nothing follows it in the same move. So the
consumers are on record and attended at any time, whatever the order of turns and calls.

* `Apart`, `Happening`, `Happens` — the kinds of what happens;
* `Outcome`, `follow_outcome` — what a move is made of;
* `Sound`, `follow_sound`, `followAll_sound` — what holds of a container at any time.
-/

namespace QueueListener

/-- Whether somebody else has a channel opened, or keeps a channel from being closed. -/
def Move.Meddles : Move → Prop
  | .administer op => ∃ connection transactional, op = .createChannel connection transactional
  | .arm fault => fault.op = .close
  | _ => False

/-- A client that opens no channel and does not fail to close any, unless it did so before. -/
structure Client.Behaves (c c' : Client) : Prop where
  channels : ∀ channel, c'.broker.channelOpen channel = true → c.broker.channelOpen channel = true
  closes : (∀ fault ∈ c.faults, fault.op ≠ .close) → ∀ fault ∈ c'.faults, fault.op ≠ .close

namespace World

/-- Nothing has changed but the clock, the turns to come, and what the container works with apart
from its client. -/
structure Apart (w w' : World) : Prop where
  plan : w'.plan = w.plan
  client : w'.client = w.client
  registry : w'.registry = w.registry
  consumers : w'.consumers = w.consumers
  handoffs : w'.handoffs = w.handoffs
  errands : w'.errands = w.errands
  retiring : w'.retiring = w.retiring
  monitors : w'.monitors = w.monitors
  events : w'.chronicle.events = w.chronicle.events

/-- A consumer that has yet to open its session has no channel. -/
def WaitsToOpen (w : World) (id : Nat) : Prop :=
  ∀ c, w.consumers.get? id = some c → c.phase = .opening → c.channel = none

/-- The world at the beginning of a run. -/
def begun (w : World) (registry : Registry) : World :=
  ((({ w with
    registry
    monitors := w.monitors.push {}
    joinable := some w.monitors.size } : World).wake (.monitor w.monitors.size)).wakeObservers.publish
      .containerStarted)

/-- One of the things that happen to a container while it is not the end of a stop. -/
inductive Happening (move : Move) (w : World) : World → Prop
  | apart {w' : World} (apart : w.Apart w') : Happening move w w'
  /-- The client or its broker was used by somebody else. -/
  | used {client : Client} (behaves : ¬ move.Meddles → w.client.Behaves client)
      (carried : client.broker = w.client.broker ∨
        ∃ op, move = .administer op ∧ client.broker = (w.client.broker.step op).2) :
      Happening move w { w with client }
  /-- A turn of a consumer, which does something and may end. -/
  | turned {id : Nat} {middle w' : World} (mine : move = .turn (.consumer id))
      (busy : w.isFinished id = false) (does : Does id w middle)
      (ends : Effects (.consumer id) middle w') (begun : w'.WaitsToOpen id) : Happening move w w'
  | deed {task : Task} {w' : World} (deed : Deed task w w') : Happening move w w'
  | sent {kind : ErrandKind} (call : ∀ id, kind ≠ .retire id) (recorded : Bool) :
      Happening move w (w.send kind recorded).2
  | started {registry : Registry} (asked : move = .start)
      (starts : w.registry.start w.plan.hasManager = .ok (some registry)) :
      Happening move w (w.begun registry)

/-- Several such things. -/
abbrev Happens (move : Move) : World → World → Prop := Relation.ReflTransGen (Happening move)

/-- What a move is made of. -/
inductive Outcome (move : Move) (w w' : World) : Prop
  | happens (happens : Happens move w w')
  | endsStop {task : Task} {fatal : Option String} {before after : World} (turn : w.Apart before)
      (ends : EndsStop task fatal before after) (rest : after.Apart w')

variable {w w' w'' : World} {task : Task} {move : Move}

/-! ### What happens -/

theorem Apart.happens (apart : w.Apart w') : Happens move w w' := .single (.apart apart)

theorem Apart.refl (w : World) : w.Apart w := ⟨rfl, rfl, rfl, rfl, rfl, rfl, rfl, rfl, rfl⟩

theorem Apart.trans (first : w.Apart w') (second : w'.Apart w'') : w.Apart w'' where
  plan := second.plan.trans first.plan
  client := second.client.trans first.client
  registry := second.registry.trans first.registry
  consumers := second.consumers.trans first.consumers
  handoffs := second.handoffs.trans first.handoffs
  errands := second.errands.trans first.errands
  retiring := second.retiring.trans first.retiring
  monitors := second.monitors.trans first.monitors
  events := second.events.trans first.events

theorem Deeds.happens (deeds : Deeds task w w') : Happens move w w' := by
  induction deeds with
  | refl => exact .refl
  | tail _ deed ih => exact ih.tail (.deed deed)

theorem Passes.happens (passes : w.Passes w') : Happens move w w' := by
  have effects : Effects (.feed 0) w w' := passes.effects
  exact Deeds.happens (Effects.deeds effects)

/-! ### Turns -/

/-- **A turn of a consumer** that has no channel before it has opened its session. -/
theorem consumerTurn_happens (unopened : w.Unopened) (id : Nat) :
    Happens (.turn (.consumer id)) w (w.consumerTurn id).2 := by
  cases busy : w.isFinished id with
  | true =>
    rw [consumerTurn_of_finished busy]
  | false =>
    have begun : (w.consumerTurn id).2.WaitsToOpen id := fun c found opening =>
      absurd opening (consumerTurn_begun unopened found)
    obtain ⟨middle, does, same | ⟨result, same⟩⟩ := consumerTurn_acts w id (unopened id)
    · exact .single (.turned rfl busy does (same ▸ .refl) begun)
    · have ended : Effects (.consumer id) middle (middle.finish id result) :=
        finish_effects (does.busy busy) result
      exact .single (.turned rfl busy does (same ▸ ended) begun)

theorem Outcome.of_enacts (enacts : Enacts task w w') : Outcome move w w' := by
  cases enacts with
  | deeds deeds => exact .happens (Deeds.happens deeds)
  | endsStop ends => exact .endsStop (.refl w) ends (.refl w')

/-- A turn of any task. -/
theorem turn_outcome (records : w.Records) (unopened : w.Unopened) (task : Task) :
    Outcome (.turn task) w (w.turn task).2 := by
  cases task with
  | consumer id => exact .happens (consumerTurn_happens unopened id)
  | feed id => exact .happens (Passes.happens (feedTurn_passes w id))
  | monitor run => exact .of_enacts (monitorTurn_enacts records run)
  | errand number => exact .of_enacts (errandTurn_enacts records number)

/-- What surrounds a turn changes nothing about what it is made of. -/
theorem Outcome.within {before after : World} (outcome : Outcome move before after)
    (turn : w.Apart before) (rest : after.Apart w') : Outcome move w w' := by
  cases outcome with
  | happens happens => exact .happens ((turn.happens.trans happens).trans rest.happens)
  | endsStop turn' ends rest' => exact .endsStop (turn.trans turn') ends (rest'.trans rest)

/-- The world in which a task has its turn. -/
theorem give_apart (w : World) (task : Task) :
    w.Apart { w with agenda := w.agenda.give task } := ⟨rfl, rfl, rfl, rfl, rfl, rfl, rfl, rfl, rfl⟩

theorem Records.of_apart (records : w.Records) (apart : w.Apart w') : w'.Records :=
  records.unreported apart.plan apart.consumers (congrArg _ apart.registry)
    (by unfold Chronicle.endings; rw [apart.events]) apart.monitors

theorem Unopened.of_consumers (unopened : w.Unopened) (consumers : w'.consumers = w.consumers) :
    w'.Unopened := fun id c found => unopened id c (consumers ▸ found)

/-- After its turn a task leaves the agenda to others, unless it goes on. -/
theorem take_apart (w : World) (task : Task) :
    (({ w with agenda := w.agenda.give task } : World).turn task).2.Apart (w.take task) := by
  unfold take
  split
  next w' goesOn =>
    rw [goesOn]
    exact .refl w'
  next w' pauses =>
    rw [pauses]
    exact ⟨rfl, rfl, rfl, rfl, rfl, rfl, rfl, rfl, rfl⟩

theorem take_outcome (records : w.Records) (unopened : w.Unopened) (task : Task) :
    Outcome (.turn task) w (w.take task) := by
  have apart := give_apart w task
  have outcome : Outcome (.turn task) { w with agenda := w.agenda.give task } _ :=
    turn_outcome (records.of_apart apart) (unopened.of_consumers apart.consumers) task
  exact outcome.within apart (take_apart w task)

/-! ### Calls -/

/-- A container is started, and consumers with it. -/
theorem start_happens (w : World) : Happens .start w w.start.2 := by
  unfold start
  split
  next => exact .refl
  next => exact .refl
  next registry starts =>
    have converged : Deeds (.feed 0) (w.begun registry) (w.begun registry).converge :=
      (converge_manages _).deeds
    exact .head (.started rfl starts) (Deeds.happens converged)

/-- The registry takes over what a call has changed, and the container converges. -/
theorem adopt_happens {result : Except Refusal Registry}
    (informed : ∀ registry, result = .ok registry →
      registry.consumers = w.registry.consumers ∧ registry.state = w.registry.state ∧
        registry.lastConsumer = w.registry.lastConsumer ∧
          (w.registry.state ≠ .running → registry.supervisor = w.registry.supervisor)) :
    Happens move w (w.adopt result).2 := by
  cases result with
  | error refusal => exact .refl
  | ok registry =>
    obtain ⟨consumers, state, last, supervisor⟩ := informed registry rfl
    have adopted : Deed (.feed 0) w { w with registry } :=
      .informed consumers state last fun stopped all => supervisor stopped ▸ all
    have converged : Deeds (.feed 0) { w with registry } ({ w with registry } : World).converge :=
      (converge_manages _).deeds
    exact Deeds.happens (.head adopted converged)

theorem setBounds_happens (w : World) (bounds : Bounds) :
    Happens move w (w.setBounds bounds).2 := by
  refine adopt_happens fun registry accepted => ?_
  unfold Registry.setBounds at accepted
  split at accepted
  next => cases accepted
  next => cases accepted; exact ⟨rfl, rfl, rfl, fun _ => rfl⟩

theorem addQueues_happens (w : World) (names : List String) :
    Happens move w (w.addQueues names).2 := by
  refine adopt_happens fun registry accepted => ?_
  unfold Registry.add at accepted
  split at accepted
  next => cases accepted
  next => cases accepted; exact ⟨rfl, rfl, rfl, fun stopped => if_neg stopped⟩

theorem administer_happens (w : World) (op : Broker.Op) :
    Happens (.administer op) w (w.atBroker (·.step op)).2 := by
  have used : Happening (.administer op) w { w with
      client := { w.client with broker := (w.client.broker.step op).2 } } := by
    refine .used (fun fair => ⟨fun channel opened => ?_, fun faultless => faultless⟩)
      (.inr ⟨op, rfl, rfl⟩)
    exact Broker.step_channelOpen (fun connection transactional same =>
      fair ⟨connection, transactional, same⟩) opened
  exact .head used (Passes.happens (deliverNotices_passes _))

theorem abandon_happens (w : World) : Happens move w w.abandon := by
  have given : w.Apart { w with abandoned := true } := ⟨rfl, rfl, rfl, rfl, rfl, rfl, rfl, rfl, rfl⟩
  exact given.happens.trans (Deeds.happens (letGo_deeds (.feed 0) _))

/-- **What a move is made of.** -/
theorem follow_outcome (records : w.Records) (unopened : w.Unopened) (move : Move) :
    Outcome move w (w.follow move) := by
  cases move with
  | turn task => exact take_outcome records unopened task
  | pass | attend | provide =>
    exact .happens (Apart.happens ⟨rfl, rfl, rfl, rfl, rfl, rfl, rfl, rfl, rfl⟩)
  | start => exact .happens (start_happens w)
  | setBounds bounds => exact .happens (setBounds_happens w bounds)
  | addQueues names => exact .happens (addQueues_happens w names)
  | remove names recorded => exact .happens (.single (.sent (by rintro _ ⟨⟩) recorded))
  | stop recorded => exact .happens (.single (.sent (by rintro _ ⟨⟩) recorded))
  | await target deadline recorded => exact .happens (.single (.sent (by rintro _ ⟨⟩) recorded))
  | abandon => exact .happens (abandon_happens w)
  | administer op => exact .happens (administer_happens w op)
  | arm fault =>
    refine .happens (.single (.used (fun fair => ⟨fun _ => id, fun faultless other armed => ?_⟩)
      (.inl rfl)))
    obtain before | new := List.mem_append.mp armed
    · exact faultless other before
    · exact List.mem_singleton.mp new ▸ fair

/-! ### What holds at any time -/

/-- Apart from the registry and its new monitor a start leaves the administration alone. -/
theorem begun_quiet (w : World) (registry : Registry) : World.Quiet { w with
    registry
    monitors := w.monitors.push {}
    joinable := some w.monitors.size } (w.begun registry) :=
  (publish_quiet _ _).since (Passes.quiet (.head (.woken _) (wakeObservers_passes _)))

/-- A start gives nobody anything to wait for. -/
theorem begun_duty (w : World) (registry : Registry) (task : Task) :
    (w.begun registry).duty task = w.duty task := by
  unfold begun
  rw [(publish_quiet _ _).duty]
  cases task with
  | consumer | feed | errand => rfl
  | monitor run =>
    show ((w.monitors.push {})[run]?).elim {} Monitor.duty = (w.monitors[run]?).elim {} Monitor.duty
    rw [Array.getElem?_push]
    split
    next new => rw [new, Array.getElem?_eq_none (Nat.le_refl _)]; rfl
    next => rfl

/-- A start leaves the registered consumers alone, of whom there are none. -/
theorem begun_records (records : w.Records) {registry : Registry}
    (starts : w.registry.start w.plan.hasManager = .ok (some registry)) :
    (w.begun registry).Records := by
  obtain ⟨-, rfl⟩ := Registry.start_begins starts
  have endless : Event.containerStarted.ending? = none := rfl
  have counted : World.Records { w with
      registry := w.registry.started
      monitors := w.monitors.push {}
      joinable := some w.monitors.size } := by
    refine records.of_same rfl rfl (Nat.le_refl _) rfl fun run m found r among _ _ => ?_
    rw [Array.getElem?_push] at found
    split at found
    next =>
      cases found
      exact absurd among List.not_mem_nil
    next => exact ⟨m, found, among⟩
  exact Records.publish (Passes.records (.head (.woken _) (wakeObservers_passes _)) counted) endless

theorem begun_custody (custody : w.Custody []) {registry : Registry}
    (starts : w.registry.start w.plan.hasManager = .ok (some registry)) :
    (w.begun registry).Custody [] := by
  obtain ⟨stopped, rfl⟩ := Registry.start_begins starts
  have quiet := begun_quiet w w.registry.started
  have running : (w.begun w.registry.started).registry.state = .running := by
    rw [quiet.registry]
    rfl
  have idle : ∀ task, (w.duty task).stops = none := by
    intro task
    by_contra stops
    have stopping := custody.stopping task stops
    obtain created | stopped := stopped
    · rw [created] at stopping
      cases stopping
    · rw [stopped] at stopping
      cases stopping
  refine ⟨fun id busy => ?_, fun halted => absurd running halted, ?_, ?_, ?_⟩
  · have busy' : w.isFinished id = false := by
      have same : (w.begun w.registry.started).consumers = w.consumers := publish_consumers _ _
      exact (isFinished_congr (by rw [same])).symm.trans busy
    obtain none | employed | ⟨task, among, relied⟩ := custody.attended id busy'
    · exact absurd none List.not_mem_nil
    · refine .inr (.inl ?_)
      rw [quiet.registry]
      exact employed
    · refine .inr (.inr ⟨task, begun_duty w _ task ▸ among, ?_⟩)
      unfold Reliable
      rw [quiet.retiring]
      simp only [begun_duty]
      exact relied
  · intro task stops
    rw [begun_duty] at stops
    exact absurd (idle task) stops
  · intro task _ stops
    rw [begun_duty] at stops
    exact absurd (idle task) stops
  · intro task number
    rw [begun_duty]
    exact custody.waits task number

theorem Custody.of_apart (custody : w.Custody []) (apart : w.Apart w') : w'.Custody [] := by
  refine custody.of_same (funext fun task => ?_) apart.retiring (congrArg _ apart.registry)
    (congrArg _ apart.registry) fun id busy => ?_
  · unfold duty
    rw [apart.errands, apart.monitors]
  · exact (isFinished_congr (by rw [apart.consumers])).symm.trans busy

theorem Happening.records (happening : Happening move w w') (records : w.Records) :
    w'.Records := by
  cases happening with
  | apart apart => exact records.of_apart apart
  | used => exact records.unreported rfl rfl rfl rfl rfl
  | turned _ busy does ends begun => exact Effects.records ends (Does.records does busy records)
  | deed deed => exact deed.records records
  | sent => exact records.unreported rfl rfl rfl rfl rfl
  | started asked starts => exact begun_records records starts

theorem Happening.custody (happening : Happening move w w') (custody : w.Custody []) :
    w'.Custody [] := by
  cases happening with
  | apart apart => exact custody.of_apart apart
  | used => exact custody.of_same rfl rfl rfl rfl fun _ => id
  | turned _ busy does ends begun => exact Effects.custody ends (Does.custody does busy custody)
  | deed deed => exact deed.custody custody
  | sent call recorded => exact send_custody custody call recorded
  | started asked starts => exact begun_custody custody starts

theorem Outcome.records (outcome : Outcome move w w') (records : w.Records) : w'.Records := by
  cases outcome with
  | happens happens =>
    induction happens with
    | refl => exact records
    | tail _ happening ih => exact happening.records ih
  | endsStop turn ends rest => exact (ends.records (records.of_apart turn)).of_apart rest

theorem Outcome.custody (outcome : Outcome move w w') (custody : w.Custody []) :
    w'.Custody [] := by
  cases outcome with
  | happens happens =>
    induction happens with
    | refl => exact custody
    | tail _ happening ih => exact happening.custody ih
  | endsStop turn ends rest => exact (ends.custody (custody.of_apart turn)).of_apart rest

/-! ### Before a session is opened -/

section WaitsToOpen

variable {id : Nat}

theorem WaitsToOpen.of_same (waits : w.WaitsToOpen id)
    (same : w'.consumers.get? id = w.consumers.get? id) : w'.WaitsToOpen id :=
  fun c found => waits c (same ▸ found)

/-- Something is written about a consumer, but not that it is to open its session. -/
theorem WaitsToOpen.modified (waits : w.WaitsToOpen id) (other : Nat) (f : Consumer → Consumer)
    (modified : w'.consumers.get? id = (w.consumers.modify other f).get? id)
    (opens : ∀ c, w.consumers.get? other = some c → (f c).phase = .opening →
      c.phase = .opening ∧ (c.channel = none → (f c).channel = none)) : w'.WaitsToOpen id := by
  intro c found opening
  rw [modified, Table.get?_modify] at found
  split at found
  next here =>
    obtain ⟨c₀, found₀, rfl⟩ := Option.map_eq_some_iff.mp found
    obtain ⟨opening₀, without⟩ := opens c₀ (here ▸ found₀) opening
    exact without (waits c₀ found₀ opening₀)
  next => exact waits c found opening

theorem Effect.waitsToOpen (effect : Effect task w w') (waits : w.WaitsToOpen id) :
    w'.WaitsToOpen id := by
  cases effect with
  | aside aside => exact waits.of_same (by rw [aside.consumers])
  | timed | untimed | rested | dropped => exact waits.of_same rfl
  | @released other =>
    exact waits.modified other _ (releaseChannel_modifies w other id)
      fun _ _ opening => ⟨opening, fun _ => rfl⟩
  | @touched other f same =>
    refine waits.modified other f rfl fun c found opening => ?_
    obtain ⟨-, -, -, channel, phase, -⟩ := same c found
    exact ⟨phase ▸ opening, fun none => channel ▸ none⟩
  | @ended other c found busy metrics state event told report about =>
    intro c' found' opening
    rw [ended_consumers, Table.get?_modify] at found'
    split at found'
    next =>
      obtain ⟨_, -, rfl⟩ := Option.map_eq_some_iff.mp found'
      cases opening
    next differ =>
      rw [Table.get?_modify_of_ne _ _ differ, releaseChannel_get?, if_neg differ] at found'
      exact waits c' found' opening

theorem Effects.waitsToOpen (effects : Effects task w w') (waits : w.WaitsToOpen id) :
    w'.WaitsToOpen id := by
  induction effects with
  | refl => exact waits
  | tail _ effect ih => exact effect.waitsToOpen ih

theorem spawn_waitsToOpen (waits : w.WaitsToOpen id) (consumer : Nat × String) :
    (w.spawn consumer).WaitsToOpen id := by
  intro c found opening
  have found' : (w.consumers.set consumer.1 (w.newConsumer consumer.2)).get? id = some c := found
  rw [Table.get?_set] at found'
  split at found'
  next =>
    cases found'
    rfl
  next => exact waits c found' opening

theorem retire_waitsToOpen (waits : w.WaitsToOpen id) (other : Nat) :
    (w.retire other).WaitsToOpen id :=
  (Effects.waitsToOpen (requestStop_effects (.feed 0) w other) waits).of_same rfl

/-- Consumers are started and retired. -/
theorem foldl_waitsToOpen {α : Type} {each : World → α → World}
    (keeps : ∀ {w : World} (a : α), w.WaitsToOpen id → (each w a).WaitsToOpen id)
    (items : List α) (waits : w.WaitsToOpen id) : (items.foldl each w).WaitsToOpen id := by
  induction items generalizing w with
  | nil => exact waits
  | cons item items ih => exact ih (keeps item waits)

theorem Deed.waitsToOpen (deed : Deed task w w') (waits : w.WaitsToOpen id) :
    w'.WaitsToOpen id := by
  have retires : ∀ (ids : List Nat) {w : World}, w.WaitsToOpen id →
      (ids.foldl retire w).WaitsToOpen id := fun ids _ waits =>
    foldl_waitsToOpen (fun other waits => retire_waitsToOpen waits other) ids waits
  cases deed with
  | affected effect => exact effect.waitsToOpen waits
  | informed | dismissed => exact waits.of_same rfl
  | @staffed registry changes new running hands =>
    have given : ({ w with registry } : World).WaitsToOpen id := waits.of_same rfl
    exact retires _ (foldl_waitsToOpen (fun consumer waits => spawn_waitsToOpen waits consumer) _
      given)
  | paused queue running =>
    have dropped : ({ w with registry := w.registry.dropConsumers queue } : World).WaitsToOpen id :=
      waits.of_same rfl
    exact retires _ dropped
  | reassigned reassigns keeps => exact waits.of_same (by rw [reassigns.consumers])
  | @removed names middle _ free after reassigns assigned =>
    have removed : ({ w with registry := (w.registry.remove names).1 } : World).WaitsToOpen id :=
      waits.of_same rfl
    exact (Effects.waitsToOpen after removed).of_same (by rw [reassigns.consumers])
  | stopBegun fatal free begun after reassigns assigned =>
    refine (Effects.waitsToOpen after ?_).of_same (by rw [reassigns.consumers])
    exact waits.of_same rfl

theorem EndsStop.waitsToOpen {fatal : Option String} (ends : EndsStop task fatal w w')
    (waits : w.WaitsToOpen id) : w'.WaitsToOpen id := by
  obtain ⟨middle, after, before, -, later, reassigns⟩ := ends.ended
  have freed : ({ middle with registry := middle.registry.finishStop fatal.isSome } :
      World).WaitsToOpen id := (Effects.waitsToOpen before waits).of_same rfl
  refine (Effects.waitsToOpen later freed).of_same ?_
  rw [reassigns.consumers, publish_consumers]

theorem Happening.unopened (happening : Happening move w w') (unopened : w.Unopened) :
    w'.Unopened := by
  intro id
  have waits : w.WaitsToOpen id := unopened id
  cases happening with
  | apart apart => exact waits.of_same (by rw [apart.consumers])
  | used | sent => exact waits.of_same rfl
  | @turned own middle _ _ busy does ends begun =>
    by_cases here : id = own
    · exact here ▸ begun
    · exact Effects.waitsToOpen ends (waits.of_same (does.others here))
  | deed deed => exact deed.waitsToOpen waits
  | started =>
    refine waits.of_same ?_
    unfold begun
    rw [publish_consumers]
    rfl

theorem Outcome.unopened (outcome : Outcome move w w') (unopened : w.Unopened) :
    w'.Unopened := by
  cases outcome with
  | happens happens =>
    induction happens with
    | refl => exact unopened
    | tail _ happening ih => exact happening.unopened ih
  | @endsStop _ _ before after turn ends rest =>
    have begins : before.Unopened := unopened.of_consumers turn.consumers
    have ended : after.Unopened := fun id => ends.waitsToOpen (begins id)
    exact ended.of_consumers rest.consumers

end WaitsToOpen

/-! ### What a container is built with -/

theorem Deed.plan (deed : Deed task w w') : w'.plan = w.plan := by
  cases deed with
  | affected effect => exact effect.quiet.plan
  | informed | dismissed => rfl
  | staffed => exact (apply_still _ _).plan
  | paused => exact (foldl_still retire_still _ _).plan
  | reassigned reassigns keeps => exact reassigns.plan
  | removed free after reassigns assigned => exact reassigns.plan.trans after.quiet.plan
  | stopBegun fatal free begun after reassigns assigned =>
    exact reassigns.plan.trans after.quiet.plan

theorem EndsStop.plan {fatal : Option String} (ends : EndsStop task fatal w w') :
    w'.plan = w.plan := by
  obtain ⟨middle, after, before, -, later, reassigns⟩ := ends.ended
  exact reassigns.plan.trans ((publish_still _ _).plan.trans (later.quiet.plan.trans
    before.quiet.plan))

theorem Happening.plan (happening : Happening move w w') : w'.plan = w.plan := by
  cases happening with
  | apart apart => exact apart.plan
  | used | sent => rfl
  | turned _ busy does ends begun => exact ends.quiet.plan.trans does.quiet.plan
  | deed deed => exact deed.plan
  | started => exact (publish_still _ _).plan

theorem Outcome.plan (outcome : Outcome move w w') : w'.plan = w.plan := by
  cases outcome with
  | happens happens =>
    induction happens with
    | refl => rfl
    | tail _ happening ih => exact happening.plan.trans ih
  | endsStop turn ends rest => exact rest.plan.trans (ends.plan.trans turn.plan)

/-! ### Any time -/

/-- What holds of a container at any time. -/
structure Sound (w : World) : Prop where
  records : w.Records
  custody : w.Custody []
  unopened : w.Unopened

theorem new_sound (plan : Plan) (client : Client) : (World.new plan client).Sound where
  records := new_records plan client
  custody := {
    attended := fun _ busy => by cases busy
    halted := fun _ => ⟨by rintro id ⟨queue, serves⟩; exact absurd serves List.not_mem_nil, rfl⟩
    stopping := fun task stops => absurd (by cases task <;> rfl) stops
    sole := fun task _ stops => absurd (by cases task <;> rfl) stops
    waits := fun task _ waited => by cases task <;> exact absurd waited List.not_mem_nil }
  unopened _ _ found := by cases found

/-- **A move keeps everything in order.** -/
theorem Sound.follow (sound : w.Sound) (move : Move) : (w.follow move).Sound := by
  have outcome := follow_outcome sound.records sound.unopened move
  exact ⟨outcome.records sound.records, outcome.custody sound.custody,
    outcome.unopened sound.unopened⟩

/-- **Everything is in order at any time.** -/
theorem Sound.followAll (sound : w.Sound) (moves : List Move) : (w.followAll moves).Sound := by
  induction moves generalizing w with
  | nil => exact sound
  | cons move moves ih => exact ih (sound.follow move)

/-- **A container keeps what it was built with.** -/
theorem Sound.followAll_plan (sound : w.Sound) (moves : List Move) :
    (w.followAll moves).plan = w.plan := by
  induction moves generalizing w with
  | nil => rfl
  | cons move moves ih =>
    exact (ih (sound.follow move)).trans
      (follow_outcome sound.records sound.unopened move).plan

end World

end QueueListener
