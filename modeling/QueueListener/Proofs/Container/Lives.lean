import QueueListener.Proofs.Container.Bystanders
import QueueListener.Proofs.Container.Scenes
/-!
# One life and one end

**Of every consumer it is told at most once that its session has begun, then any number of times that
it is idle, and at its end, once, that it has ended.** It has failed only if it was not asked to stop;
and its channel is closed by then, with nothing left unsettled, unless the client refuses to close it.

* `Scene.EndsWell` — what is so at the end of a consumer;
* `World.Accompanies`, `Accompanies.follow`, `Accompanies.followAll` — what holds after every scene and
  whatever happens besides holds after a run;
* `World.Chronicled` — what is known of all scenes so far;
* `Chronicled.speaks`, `Chronicled.presides`, `accompanies_chronicled` — one scene, what happens
  besides, and so all of them;
* `run_tells_lives` — the statement for all runs.
-/

namespace QueueListener

/-- At the end of a consumer: it has failed only if it was not asked to stop; and every channel that
it has opened is closed, with no delivery left unsettled, unless the client refused to close it.
Nothing happens to the broker between the telling of the end and the end of
the scene. -/
structure Scene.EndsWell (scene : Scene) (event : Event) (earlier : List Scene) : Prop where
  failed : event.isFailure = true →
    ∃ c, scene.before.consumers.get? scene.id = some c ∧ c.stopRequested = false
  closed : ∀ channel, Opened (earlier ++ [scene]) scene.id channel →
    (∀ record, scene.after.client.broker.channels.get? channel = some record →
      record.isOpen = false ∧ record.unacked = []) ∨
    ∃ tag, World.Refuses tag scene.id channel scene.before scene.after

theorem lifeOf_append (scenes more : List Scene) (id : Nat) :
    lifeOf (scenes ++ more) id = lifeOf scenes id ++ lifeOf more id := by
  unfold lifeOf
  rw [List.filter_append, List.flatMap_append]

theorem lifeOf_own (scene : Scene) : lifeOf [scene] scene.id = scene.tells := by
  unfold lifeOf
  rw [List.filter_eq_self.mpr (by simp), List.flatMap_singleton]

theorem lifeOf_other (scene : Scene) {id : Nat} (differ : id ≠ scene.id) :
    lifeOf [scene] id = [] := by
  unfold lifeOf
  rw [List.filter_eq_nil_iff.mpr (by simpa using differ.symm), List.flatMap_nil]

theorem Opened.or {scenes : List Scene} {scene : Scene} {id channel : Nat}
    (opened : Opened (scenes ++ [scene]) id channel) :
    Opened scenes id channel ∨ scene.id = id ∧ scene.Opens channel := by
  obtain ⟨other, among, own, opens⟩ := opened
  obtain before | last := List.mem_append.mp among
  · exact .inl ⟨other, before, own, opens⟩
  · exact .inr (List.mem_singleton.mp last ▸ ⟨own, opens⟩)

namespace Broker

variable {b : Broker} {channel : Nat}

/-- A channel that is open has a number that was given. -/
theorem Coherent.known (coherent : b.Coherent) (opened : b.channelOpen channel = true) :
    channel ≤ b.lastId := by
  unfold channelOpen openChannel? at opened
  cases found : b.channels.get? channel with
  | none =>
    rw [found] at opened
    cases opened
  | some record => exact coherent.tidy.numbered channel (Table.mem_keys_of_get? found)

/-- On a channel that is closed nothing is left unsettled. -/
theorem Coherent.closed (coherent : b.Coherent) (closed : b.channelOpen channel = false)
    {record : ChannelRecord} (found : b.channels.get? channel = some record) :
    record.isOpen = false ∧ record.unacked = [] := by
  unfold channelOpen openChannel? at closed
  rw [found] at closed
  cases opened : record.isOpen with
  | true =>
    dsimp only at closed
    rw [if_pos opened] at closed
    cases closed
  | false => exact ⟨rfl, ((coherent.sound channel record found).closed opened).1⟩

end Broker

/-- What is written about a consumer besides concerns nothing that is told of it. -/
theorem Guise.Lives.stop {c : Consumer} {log : List Event} (lives : Lives (some c.guise) log)
    (stopRequested : Bool) : Lives (some { c with stopRequested }.guise) log := by
  cases lives with
  | present kept told =>
    refine .present ⟨kept.opening, kept.working⟩ ?_
    cases told with
    | going busy life => exact .going busy life
    | ended finished life ends => exact .ended finished life ends

namespace World

variable {starts : Bool} {w w' w'' : World} {id channel : Nat} {words : List Event}
  {scenes : List Scene}

/-- A channel stays with a consumer that nobody has touched. -/
theorem Owns.keep (owns : w.Owns id channel) (coherent : w.client.broker.Coherent)
    (broker : w.client.broker.Matures w'.client.broker) (known : channel ≤ w.client.broker.lastId)
    (same : w'.channelOf id = w.channelOf id) : w'.Owns id channel := fun opened =>
  same ▸ owns ((broker coherent).2.2 channel known opened)

/-- Whoever is started was not there before, or had not begun. -/
theorem Presides.succeeds (presides : Presides starts w w')
    (fresh : starts = true → w.Unopened ∧ Lasts w w') (id : Nat) :
    (w.consumers.get? id = none ∧ w'.consumers.get? id = none) ∨
    (∃ c stopRequested, w.consumers.get? id = some c ∧
      w'.consumers.get? id = some { c with stopRequested }) ∨
    ∃ c, w'.consumers.get? id = some c ∧ c.phase = .opening ∧ c.tag = none ∧ c.channel = none ∧
      c.lastIdleEvent = none ∧
        ∀ c₀, w.consumers.get? id = some c₀ → c₀.phase = .opening ∧ c₀.channel = none := by
  have succeeds := presides.consumers id
  generalize before : w.consumers.get? id = former at succeeds
  generalize after : w'.consumers.get? id = latter at succeeds
  cases succeeds with
  | absent => exact .inl ⟨rfl, rfl⟩
  | kept c stop => exact .inr (.inl ⟨c, stop, rfl, rfl⟩)
  | @started may _ c opening tag without quiet =>
    obtain ⟨unopened, lasts⟩ := fresh may
    refine .inr (.inr ⟨c, rfl, opening, tag, without, quiet, ?_⟩)
    rintro c₀ rfl
    have unbegun : c₀.phase = .opening := by
      by_contra begun
      obtain ⟨c', found, begun'⟩ := lasts.begun id c₀ before begun
      cases after.symm.trans found
      exact begun' opening
    exact ⟨unbegun, unopened id c₀ before unbegun⟩

/-- Whoever is late has not ended. -/
theorem late_busy {task : Task} (among : id ∈ w.late task) : w.isFinished id = false := by
  unfold late overdue at among
  split at among
  next =>
    split at among
    next => simpa using (List.mem_filter.mp among).2
    next => cases among
  next => cases among

/-- Nobody is late for a task that waits for nobody. -/
theorem late_of_not_closing {task : Task} (none : w.closing? task = none) : w.late task = [] := by
  unfold late
  rw [none]

/-! ### Along the scenes of a run -/

/-- What goes along with the scenes of a run: it holds after every turn of a consumer, after one is ended
by force, and after whatever happens besides. -/
structure Accompanies (plan : Plan) (holds : World → List Scene → Prop) : Prop where
  /-- It does not matter whose turn is next. -/
  given : ∀ {w scenes} agenda, holds w scenes → holds { w with agenda } scenes
  turn : ∀ {w scenes}, w.Sound → w.plan = plan → ∀ id, holds w scenes →
    holds (w.take (.consumer id)) (scenes ++ [⟨id, w, w.take (.consumer id)⟩])
  force : ∀ {w scenes id}, w.Closable id → w.plan = plan → holds w scenes →
    holds (w.forceClose id) (scenes ++ [⟨id, w, w.forceClose id⟩])
  besides : ∀ {starts w w' scenes}, w.plan = plan → Presides starts w w' → w.now ≤ w'.now →
    (starts = true → w.Unopened ∧ Lasts w w') → holds w scenes → holds w' scenes

namespace Accompanies

variable {plan : Plan} {holds : World → List Scene → Prop}

/-- Several consumers are ended by force. -/
theorem forced (along : Accompanies plan holds) (same : w.plan = plan) {ids : List Nat}
    (closable : ∀ id ∈ ids, w.Closable id) (held : holds w scenes) :
    holds (ids.foldl forceClose w) (scenes ++ w.forced ids) := by
  induction ids generalizing w scenes with
  | nil =>
    rw [show w.forced [] = [] from rfl, List.append_nil]
    exact held
  | cons id ids ih =>
    have closes := closable id List.mem_cons_self
    have effects : Effects (.errand 0) w (w.forceClose id) := forceClose_effects closes
    have later := ih (effects.quiet.plan.trans same)
      (fun other among => (closable other (List.mem_cons_of_mem _ among)).forceClose id)
      (along.force closes same held)
    rw [List.append_assoc] at later
    exact later

/-- A task that is no consumer has its turn. -/
theorem office (along : Accompanies plan holds) (sound : w.Sound) (same : w.plan = plan) {task : Task}
    (office : ∀ id, task ≠ .consumer id) (held : holds w scenes) :
    holds (w.take task) (scenes ++ w.scenes (.turn task)) := by
  have lasts : Lasts w (w.take task) := sound.follow_lasts (.turn task)
  have now : (w.take task).now = w.now := take_now sound.records sound.unopened task
  have closable : ∀ id ∈ w.late task,
      ({ w with agenda := w.agenda.give task } : World).Closable id := fun id among =>
    sound.records.closable (late_busy among)
  have closed : Effects task { w with agenda := w.agenda.give task } _ :=
    forceCloseAll_effects closable
  have scenes : w.scenes (.turn task) =
      ({ w with agenda := w.agenda.give task } : World).forced (w.late task) := by
    cases task with
    | consumer id => exact absurd rfl (office id)
    | _ => rfl
  have forced := along.forced (w := { w with agenda := w.agenda.give task }) same closable
    (along.given _ held)
  rw [scenes]
  refine along.besides (closed.quiet.plan.trans same) (take_presides w office) ?_ (fun may => ?_)
    forced
  · exact Nat.le_of_eq (closed.quiet.now.trans now.symm)
  · rw [late_of_not_closing (Option.isNone_iff_eq_none.mp may)]
    exact ⟨sound.unopened.of_consumers rfl, lasts.broker, lasts.begun⟩

/-- **It holds after a move**, with those scenes that the move has. -/
theorem follow (along : Accompanies plan holds) (sound : w.Sound) (same : w.plan = plan)
    (held : holds w scenes) (move : Move) : holds (w.follow move) (scenes ++ w.scenes move) := by
  by_cases turn : ∃ task, move = .turn task
  · obtain ⟨task, rfl⟩ := turn
    by_cases own : ∃ id, task = .consumer id
    · obtain ⟨id, rfl⟩ := own
      exact along.turn sound same id held
    · exact along.office sound same (fun id same => own ⟨id, same⟩) held
  · have call : ∀ task, move ≠ .turn task := fun task same => turn ⟨task, same⟩
    have none : w.scenes move = [] := by
      cases move with
      | turn task => exact absurd rfl (call task)
      | _ => rfl
    rw [none, List.append_nil]
    refine along.besides same (follow_presides w call) ?_
      (fun _ => ⟨sound.unopened, sound.follow_lasts move⟩) held
    obtain same | ⟨now, rfl⟩ := follow_now sound.records sound.unopened move
    · exact Nat.le_of_eq same.symm
    · exact Nat.le_max_left _ _

/-- **So it holds after a run.** -/
theorem followAll (along : Accompanies plan holds) (sound : w.Sound) (same : w.plan = plan)
    (held : holds w scenes) (moves : List Move) :
    holds (w.followAll moves) (scenes ++ w.scenesOf moves) := by
  induction moves generalizing w scenes with
  | nil =>
    rw [show w.scenesOf [] = [] from rfl, List.append_nil]
    exact held
  | cons move moves ih =>
    have kept := (follow_outcome sound.records sound.unopened move).plan
    have later := ih (sound.follow move) (kept.trans same) (along.follow sound same held move)
    rw [List.append_assoc] at later
    exact later

end Accompanies

/-! ### What is known of all scenes -/

/-- What is known of a run: everything that was told of consumers was told in one of its scenes; of
each consumer a life was told; and it has hold of the channel that it has opened. -/
structure Chronicled (w : World) (scenes : List Scene) : Prop where
  coherent : w.client.broker.Coherent
  said : w.told.filter Event.isOfConsumer = scenes.flatMap Scene.tells
  lives : ∀ id, Guise.Lives (w.guise id) (lifeOf scenes id)
  channels : ∀ id channel, Opened scenes id channel →
    channel ≤ w.client.broker.lastId ∧ (w.Going id → w.Owns id channel)
  ends : ∀ earlier scene later, scenes = earlier ++ scene :: later → ∀ event ∈ scene.tells,
    event.ending?.isSome = true → scene.EndsWell event earlier

theorem new_chronicled (plan : Plan) : Chronicled (World.new plan {}) [] where
  coherent := Broker.coherent_empty
  said := rfl
  lives _ := .absent
  channels _ _ opened := by
    obtain ⟨_, none, -⟩ := opened
    cases none
  ends earlier scene later split := by
    cases earlier <;> cases split

namespace Chronicled

/-- **A scene goes on with the lives so far.** -/
theorem speaks (chronicled : Chronicled w scenes) (speaks : Speaks id words w w') :
    Chronicled w' (scenes ++ [⟨id, w, w'⟩]) := by
  obtain ⟨coherent, le, -⟩ := speaks.broker chronicled.coherent
  refine ⟨coherent, ?_, fun other => ?_, fun other channel opened => ?_,
    fun earlier scene later split event among ends => ?_⟩
  · rw [speaks.told, List.filter_append, chronicled.said, List.flatMap_append,
      List.filter_eq_self.mpr speaks.ofConsumer, List.flatMap_singleton, speaks.tells]
  · rw [lifeOf_append]
    by_cases here : other = id
    · subst here
      rw [show lifeOf [⟨other, w, w'⟩] other = words from
        (lifeOf_own ⟨other, w, w'⟩).trans speaks.tells]
      exact speaks.lives _ (chronicled.lives other)
    · rw [lifeOf_other ⟨id, w, w'⟩ here, List.append_nil]
      have same : w'.guise other = w.guise other := by
        unfold guise
        rw [speaks.others other here]
      exact same ▸ chronicled.lives other
  · obtain before | ⟨own, opens⟩ := opened.or
    · obtain ⟨known, owns⟩ := chronicled.channels other channel before
      refine ⟨Nat.le_trans known le, fun going => ?_⟩
      by_cases here : other = id
      · subst here
        obtain ⟨going', keeps⟩ := speaks.going going
        exact keeps channel (owns going')
      · have same := speaks.others other here
        refine (owns fun c found => going c (same ▸ found)).keep chronicled.coherent speaks.broker
          known ?_
        unfold channelOf
        rw [same]
    · obtain rfl : id = other := own
      have new : w.Owns id channel := fun opened =>
        absurd (opens.1.symm.trans opened) Bool.false_ne_true
      exact ⟨coherent.known opens.2, fun going => (speaks.going going).2 channel new⟩
  · obtain rfl | ⟨later', last, rfl⟩ := List.eq_nil_or_concat later
    · obtain ⟨rfl, same⟩ := List.append_inj' split rfl
      obtain rfl := List.singleton_inj.mp same
      obtain ⟨going, failed, closed⟩ := speaks.ends event (speaks.tells ▸ among) ends
      refine ⟨failed, fun channel opened => (closed channel ?_).imp_left fun shut record found =>
        coherent.closed shut found⟩
      obtain before | ⟨-, opens⟩ := opened.or
      · exact (chronicled.channels id channel before).2 going
      · exact fun opened => absurd (opens.1.symm.trans opened) Bool.false_ne_true
    · rw [List.concat_eq_append, ← List.cons_append, ← List.append_assoc] at split
      obtain ⟨rfl, -⟩ := List.append_inj' split rfl
      exact chronicled.ends earlier scene later' rfl event among ends

/-- **Whatever happens besides is no matter of the lives.** -/
theorem presides (chronicled : Chronicled w scenes) (sink : w.plan.hasSink = true)
    (presides : Presides starts w w')
    (fresh : starts = true → w.Unopened ∧ Lasts w w') : Chronicled w' scenes := by
  obtain ⟨coherent, le, -⟩ := presides.broker chronicled.coherent
  refine ⟨coherent, ?_, fun id => ?_, fun id channel opened => ?_, chronicled.ends⟩
  · obtain ⟨news, told, only⟩ := presides.told sink
    have none : news.filter Event.isOfConsumer = [] :=
      List.filter_eq_nil_iff.mpr fun event among => by rw [only event among]; exact nofun
    rw [told, List.filter_append, none, List.append_nil]
    exact chronicled.said
  · have lives := chronicled.lives id
    obtain ⟨none, none'⟩ | ⟨c, stop, found, found'⟩ | ⟨c, found, opening, tag, -, -, before⟩ :=
      presides.succeeds fresh id
    · unfold guise at lives ⊢
      rwa [none, ← none'] at lives
    · rw [guise_eq found] at lives
      rw [guise_eq found']
      exact lives.stop stop
    · have nothing : lifeOf scenes id = [] := by
        cases found₀ : w.consumers.get? id with
        | none =>
          unfold guise at lives
          rw [found₀] at lives
          exact lives.nothing
        | some c₀ =>
          rw [guise_eq found₀] at lives
          exact lives.opening (Phase.stage_eq_opening.mpr (before c₀ found₀).1)
      have starts : c.guise.stage = .opening := Phase.stage_eq_opening.mpr opening
      rw [nothing, guise_eq found]
      refine .present ⟨fun _ => tag, fun working => ?_⟩ (.going (starts ▸ nofun) ?_)
      · cases starts.symm.trans working
      · show Life c.queue c.tag []
        exact tag ▸ .silent
  · obtain ⟨known, owns⟩ := chronicled.channels id channel opened
    refine ⟨Nat.le_trans known le, fun going => ?_⟩
    obtain ⟨none, none'⟩ | ⟨c, stop, found, found'⟩ | ⟨c, found, opening, -, without, -, before⟩ :=
      presides.succeeds fresh id
    · refine (owns fun c found => ?_).keep chronicled.coherent presides.broker known ?_
      · cases none.symm.trans found
      · unfold channelOf
        rw [none, none']
    · refine (owns fun c₀ found₀ => ?_).keep chronicled.coherent presides.broker known ?_
      · cases found.symm.trans found₀
        have busy := going _ found'
        exact busy
      · rw [channelOf_eq found, channelOf_eq found']
    · refine (owns fun c₀ found₀ => ?_).keep chronicled.coherent presides.broker known ?_
      · rw [(before c₀ found₀).1]
        exact nofun
      · rw [channelOf_eq found, without]
        cases found₀ : w.consumers.get? id with
        | none =>
          unfold channelOf
          rw [found₀]
          rfl
        | some c₀ => rw [channelOf_eq found₀, (before c₀ found₀).2]

end Chronicled

/-- **The lives go along with the scenes of a run.** -/
theorem accompanies_chronicled {plan : Plan} (sink : plan.hasSink = true) :
    Accompanies plan Chronicled where
  given _ chronicled :=
    ⟨chronicled.coherent, chronicled.said, chronicled.lives, chronicled.channels, chronicled.ends⟩
  turn sound same id chronicled := by
    obtain ⟨words, speaks⟩ := take_consumer_speaks sound (same ▸ sink) id
    exact chronicled.speaks speaks
  force closable same chronicled := by
    obtain ⟨words, speaks⟩ := forceClose_speaks closable (same ▸ sink)
    exact chronicled.speaks speaks
  besides same presides _ fresh chronicled := chronicled.presides (same ▸ sink) presides fresh

/-- A run goes on with the lives so far. -/
theorem Chronicled.followAll (chronicled : Chronicled w scenes) (sound : w.Sound)
    (sink : w.plan.hasSink = true) (moves : List Move) :
    Chronicled (w.followAll moves) (scenes ++ w.scenesOf moves) :=
  (accompanies_chronicled sink).followAll sound rfl chronicled moves

/-- **One life and one end for every consumer**, whatever happens. What is told of consumers is told
in the scenes of their lives. Of each consumer it is told at most that its session has begun and then
any number of times that it is idle, and exactly one end when it is finished. It is told to have
failed only if it was not asked to stop; and its end is told when every channel that it has opened is
closed, with no delivery left unsettled, unless the client refused to close it. -/
theorem run_tells_lives (plan : Plan) (sink : plan.hasSink = true) (moves : List Move) :
    ((World.new plan {}).followAll moves).told.filter Event.isOfConsumer =
        ((World.new plan {}).scenesOf moves).flatMap Scene.tells ∧
      (∀ id g, ((World.new plan {}).followAll moves).guise id = some g →
        g.Told (lifeOf ((World.new plan {}).scenesOf moves) id)) ∧
      (∀ id, ((World.new plan {}).followAll moves).guise id = none →
        lifeOf ((World.new plan {}).scenesOf moves) id = []) ∧
      ∀ earlier scene later, (World.new plan {}).scenesOf moves = earlier ++ scene :: later →
        ∀ event ∈ scene.tells, event.ending?.isSome = true → scene.EndsWell event earlier := by
  have chronicled := (new_chronicled plan).followAll (new_sound plan {}) sink moves
  rw [List.nil_append] at chronicled
  refine ⟨chronicled.said, fun id g known => ?_, fun id none => ?_, chronicled.ends⟩
  · have lives := chronicled.lives id
    rw [known] at lives
    cases lives with
    | present _ told => exact told
  · have lives := chronicled.lives id
    rw [none] at lives
    exact lives.nothing

/-- A container with one queue whose listener settles nothing by itself. -/
def manualQueue : Plan :=
  { settings := {
      queues := ["orders"]
      ackMode := .manual
      receiveTimeout := Duration.ofMillis 1000
      monitorInterval := Duration.ofMillis 100000
      shutdownTimeout := Duration.ofMillis 1000 } }

/-- The listener leaves a delivery unsettled, and the queue is removed, while the client is made to
fail. -/
def workThenRemoval (faults : List ArmedFault) : List Move :=
  [.administer (.declare "orders"), .administer (.publish "orders" "good".toUTF8 {}), .start,
    .turn (.consumer 1), .turn (.feed 1), .turn (.consumer 1), .turn (.consumer 1)] ++
    faults.map .arm ++ [.remove ["orders"] true, .turn (.errand 0), .turn (.consumer 1)]

/-- The consumer of the removed queue has had its life and its end. -/
theorem run_tells_lives_workThenRemoval :
    manualQueue.hasSink = true ∧
      ((World.new manualQueue {}).followAll (workThenRemoval [])).told.filter Event.isOfConsumer =
        ((World.new manualQueue {}).scenesOf (workThenRemoval [])).flatMap Scene.tells ∧
      ∃ g, ((World.new manualQueue {}).followAll (workThenRemoval [])).guise 1 = some g ∧
        g.stage = .finished ∧
        g.Told (lifeOf ((World.new manualQueue {}).scenesOf (workThenRemoval [])) 1) := by
  obtain ⟨said, lives, -, -⟩ := run_tells_lives manualQueue rfl (workThenRemoval [])
  have ended : (((World.new manualQueue {}).followAll (workThenRemoval [])).guise 1).map (·.stage) =
      some .finished := by decide +kernel
  obtain ⟨g, known, finished⟩ := Option.map_eq_some_iff.mp ended
  exact ⟨rfl, said, g, known, finished, lives 1 g known⟩

/-- **The client refuses to close the channel of a consumer**, and the end of the consumer is told
all the same: while the channel that it has opened is open, with a delivery left unsettled. -/
theorem refused_close_leaves_unsettled :
    let moves := workThenRemoval [⟨.close, .channel "close failed", 1⟩]
    let w := (World.new manualQueue {}).followAll moves
    w.told.getLast? = some (.consumerTerminated "orders" (some "orders#1")) ∧
      w.isFinished 1 = true ∧
      Opened ((World.new manualQueue {}).scenesOf moves) 1 2 ∧
      (w.client.broker.channels.get? 2).map (fun record =>
        (record.isOpen, record.unacked.length)) = some (true, 1) := by
  decide +kernel

end World

end QueueListener
