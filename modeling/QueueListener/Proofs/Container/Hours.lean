import QueueListener.Proofs.Container.Scenes
import QueueListener.Proofs.Container.Tending
/-!
# The hours of a consumer

**What a consumer counts, and when it has received or told something, changes in three ways only**: it
receives a delivery, or it receives nothing, or it begins its session. Whatever else it does in its
turn leaves its hours as they are, and takes no time.

* `Hours`, `Hours.receive`, `Hours.rest` — what is written, and how it changes;
* `World.Clocks`, `World.KeepsHours` — a change of the hours, or none, that takes no time;
* `World.Spends` — work in a session, with what is told of idleness;
* `World.Passed`, `take_consumer_passed` — what a turn has to do with the hours of its consumer.
-/

namespace QueueListener

/-- What a consumer counts, and when it received and told something. -/
structure Hours where
  deliveries : Nat
  idleStreak : UInt32
  lastDelivery : Nat
  lastIdleEvent : Option Nat

/-- What a consumer counts, and when it received and told something. -/
def Consumer.hours (c : Consumer) : Hours :=
  ⟨c.deliveries, c.idleStreak, c.lastDelivery, c.lastIdleEvent⟩

/-- How long an event says that a consumer is idle. -/
def Event.idleFor? : Event → Option Duration
  | .idle _ _ _ length => some length
  | _ => none

namespace Hours

/-- A delivery is received. -/
def receive (hours : Hours) (now : Nat) : Hours :=
  { hours with deliveries := hours.deliveries + 1, idleStreak := 0, lastDelivery := now }

/-- The last delivery and the last idle event are long enough ago. -/
def Due (hours : Hours) (interval : Duration) (now : Nat) : Prop :=
  interval ≤ Duration.ofMillis (now - max hours.lastDelivery (hours.lastIdleEvent.getD 0))

instance (hours : Hours) (interval : Duration) (now : Nat) : Decidable (hours.Due interval now) :=
  inferInstanceAs (Decidable (_ ≤ _))

/-- Nothing is received. -/
def rest (hours : Hours) (interval : Duration) (now : Nat) : Hours :=
  { hours with
    idleStreak := hours.idleStreak + 1
    lastIdleEvent := if hours.Due interval now then some now else hours.lastIdleEvent }

/-- What is told of idleness when nothing is received. -/
def tells (hours : Hours) (interval : Duration) (now : Nat) : List Duration :=
  if hours.Due interval now then [Duration.ofMillis (now - hours.lastDelivery)] else []

/-- How the hours may change in a turn, and what is told of idleness. -/
inductive Spent (interval : Duration) (now : Nat) (hours : Hours) : Hours → List Duration → Prop
  | working : Spent interval now hours hours []
  | receiving : Spent interval now hours (hours.receive now) []
  | resting : Spent interval now hours (hours.rest interval now) (hours.tells interval now)

end Hours

namespace World

variable {w w' w'' : World} {id : Nat} {f g : Hours → Hours} {α β : Type}

/-- The hours of a consumer. -/
def hours (w : World) (id : Nat) : Option Hours := (w.consumers.get? id).map (·.hours)

theorem hours_eq {c : Consumer} (found : w.consumers.get? id = some c) :
    w.hours id = some c.hours := by
  unfold hours
  rw [found]
  rfl

/-- What is told takes these lengths of idleness along, and nothing else is told of idleness. -/
def Tells (lengths : List Duration) (w w' : World) : Prop :=
  ∃ words, w'.told = w.told ++ words ∧ words.filterMap Event.idleFor? = lengths

/-- The hours of a consumer change in this way, and it takes no time. -/
structure Clocks (id : Nat) (f : Hours → Hours) (w w' : World) : Prop where
  now : w'.now = w.now
  plan : w'.plan = w.plan
  hours : w'.hours id = (w.hours id).map f

/-- The hours of a consumer stay the same. -/
abbrev KeepsHours (id : Nat) : World → World → Prop := Clocks id fun hours => hours

/-- The hours of a consumer change in this way, unless it is over. -/
def ClocksOn (id : Nat) (f : Hours → Hours) (w w' : World) : Prop :=
  w'.isFinished id = false → Clocks id f w w'

theorem Tells.of_same (same : w'.told = w.told) : Tells [] w w' :=
  ⟨[], by rw [same, List.append_nil], rfl⟩

theorem Tells.since {lengths : List Duration} (tells : Tells lengths w' w'')
    (same : w'.told = w.told) : Tells lengths w w'' := by
  unfold Tells at tells ⊢
  rwa [same] at tells

theorem Clocks.since (last : Clocks id g w' w'') (first : Clocks id f w w') :
    Clocks id (fun hours => g (f hours)) w w'' where
  now := last.now.trans first.now
  plan := last.plan.trans first.plan
  hours := by rw [last.hours, first.hours, Option.map_map]; rfl

theorem Clocks.on (clocks : Clocks id f w w') : ClocksOn id f w w' := fun _ => clocks

theorem ClocksOn.since (last : ClocksOn id g w' w'') (first : Clocks id f w w') :
    ClocksOn id (fun hours => g (f hours)) w w'' := fun busy => (last busy).since first

/-- What is written about a consumer changes its hours. -/
theorem Clocks.of_written {change : Consumer → Consumer}
    (hours : ∀ c, (change c).hours = f c.hours) : Clocks id f w (w.updateConsumer id change) where
  now := rfl
  plan := rfl
  hours := by
    unfold World.hours
    rw [updateConsumer_get?, if_pos rfl, Option.map_map, Option.map_map]
    exact Option.map_congr fun c _ => hours c

namespace KeepsHours

theorem of_same (now : w'.now = w.now) (plan : w'.plan = w.plan)
    (consumers : w'.consumers = w.consumers) : KeepsHours id w w' where
  now := now
  plan := plan
  hours := by
    unfold World.hours
    rw [consumers, Option.map_id']

theorem refl (w : World) : KeepsHours id w w := of_same rfl rfl rfl

theorem trans (first : KeepsHours id w w') (second : KeepsHours id w' w'') : KeepsHours id w w'' :=
  second.since first

theorem of_passes (passes : w.Passes w') : KeepsHours id w w' :=
  of_same passes.quiet.now passes.quiet.plan passes.consumers

end KeepsHours

/-! ### Work that leaves the hours as they are -/

theorem setPhase_keepsHours (w : World) (phase : Phase) : KeepsHours id w (w.setPhase id phase) :=
  .of_written fun _ => rfl

theorem setPhase_setTimer_keepsHours (w : World) (phase : Phase) (slot : TimerSlot) (t : Instant) :
    KeepsHours id w ((w.setPhase id phase).setTimer (.consumer id) slot t) :=
  (setPhase_keepsHours w phase).trans (.of_same rfl rfl rfl)

theorem deliverNotices_keepsHours (w : World) : KeepsHours id w w.deliverNotices :=
  .of_passes (deliverNotices_passes w)

theorem bind_keepsHours {first : WorldWork α} {next : α → WorldWork β}
    (begins : Moves (KeepsHours id) first) (goesOn : ∀ a, Moves (KeepsHours id) (next a)) :
    Moves (KeepsHours id) (first >>= next) := Moves.bind (fun _ _ _ => .trans) begins goesOn

theorem request_keepsHours (f : Client → Except ClientError α × Client) :
    Moves (KeepsHours id) (request f) := by
  intro w
  rw [request_run]
  have asked : KeepsHours id w { w with client := (f w.client).2 } := .of_same rfl rfl rfl
  exact asked.trans (deliverNotices_keepsHours _)

theorem putDesk_keepsHours (w : World) (desk : Desk) : KeepsHours id w (w.putDesk id desk) := by
  refine KeepsHours.trans ?_ (deliverNotices_keepsHours _)
  refine KeepsHours.trans ?_ (.of_written fun _ => rfl)
  refine KeepsHours.trans ?_ (.of_written fun _ => rfl)
  exact .of_same rfl rfl rfl

theorem atDesk_keepsHours (work : Post → DeskWork Unit) :
    Moves (KeepsHours id) (atDesk id work) := by
  intro w
  unfold atDesk
  rw [ExceptT.run_mk]
  split
  next => exact .refl w
  next =>
    split
    next => exact .refl w
    next => exact putDesk_keepsHours w _

theorem settle_keepsHours (s : Session) (number : Nat) (outcome : QueueListener.Outcome)
    (transaction : Option TransactionHandle) :
    Moves (KeepsHours id) (settle id s number outcome transaction) := by
  have concludes : ∀ handle ending requeue, Moves (KeepsHours id)
      (concludeTransaction id number handle ending requeue) := fun handle ending requeue =>
    bind_keepsHours (modifyGet_moves fun _ => .of_same rfl rfl rfl) fun _ => atDesk_keepsHours _
  unfold settle
  split
  next => exact atDesk_keepsHours _
  next =>
    refine bind_keepsHours (get_moves .refl) fun w => ?_
    dsimp only
    split
    next => exact concludes _ _ _
    next => exact concludes _ _ _
    next => exact atDesk_keepsHours _

theorem recordAnswer_keepsHours (w : World) (c : Consumer) (work : Listening)
    (result : Except ListenerError Unit) : KeepsHours id w (w.recordAnswer c work result) := by
  unfold recordAnswer
  dsimp only
  split
  next => exact .of_same rfl rfl rfl
  next =>
    unfold tellError
    split <;> exact .of_same rfl rfl rfl

theorem putBench_keepsHours (w : World) (delivery : Delivery) (bench : Bench) :
    KeepsHours id w (w.putBench id delivery bench) := by
  refine KeepsHours.trans ?_ (deliverNotices_keepsHours _)
  refine KeepsHours.trans ?_ (.of_written fun _ => rfl)
  exact .of_same rfl rfl rfl

theorem openChannel_keepsHours (connection : Nat) :
    Moves (KeepsHours id) (openChannel id connection) :=
  bind_keepsHours (get_moves .refl) fun _ => bind_keepsHours (request_keepsHours _) fun _ =>
    bind_keepsHours (get_moves .refl) fun _ =>
      bind_keepsHours (modify_moves fun _ => .of_written fun _ => rfl) fun _ => pure_moves .refl _

theorem subscribe_keepsHours (queue requested : String) (channel : ManagedChannel) :
    Moves (KeepsHours id) (subscribe id queue requested channel) :=
  bind_keepsHours (get_moves .refl) fun _ =>
    bind_keepsHours (modify_moves fun _ => .of_same rfl rfl rfl) fun _ =>
      bind_keepsHours (request_keepsHours _) fun _ =>
        bind_keepsHours (modify_moves fun _ => .of_same rfl rfl rfl) fun _ => pure_moves .refl _

theorem pollingTag_keepsHours (queue requested : String) :
    Moves (KeepsHours id) (pollingTag queue requested) := by
  unfold pollingTag
  split
  next =>
    exact bind_keepsHours (get_moves .refl) fun _ =>
      bind_keepsHours (modify_moves fun _ => .of_same rfl rfl rfl) fun _ => pure_moves .refl _
  next => exact pure_moves .refl _

/-- How the opening of a session may end: it begins, and the hours are the same until then. -/
def OpensTimely (id : Nat) (c : Consumer) (w : World) : Except ClientError Unit × World → Prop
  | (.ok (), w') => ∃ (middle : World) (session : Session),
      KeepsHours id w middle ∧ w' = middle.beginSession id c.run c.queue session
  | (.error _, w') => KeepsHours id w w'

/-- **The opening of a session leaves the hours as they are until it begins.** -/
theorem openSession_opensTimely (w : World) (c : Consumer) :
    OpensTimely id c w ((openSession id c).run w) := by
  have goesOn : ∀ {α : Type} {first : WorldWork α} {next : α → WorldWork Unit} (w₁ : World),
      KeepsHours id w w₁ → Moves (KeepsHours id) first →
      (∀ a w₂, KeepsHours id w w₂ → OpensTimely id c w ((next a).run w₂)) →
      OpensTimely id c w ((first >>= next).run w₁) := fun w₁ reached keeps later =>
    run_bind_either (P := KeepsHours id w) (reached.trans (keeps w₁))
      (fun a w₂ _ kept => later a w₂ kept) fun _ _ kept => kept
  unfold openSession
  rw [run_get_bind]
  refine goesOn w (.refl w) (fun w => .of_passes (connection_passes w)) fun connection w₁ kept => ?_
  refine goesOn w₁ kept (openChannel_keepsHours connection) fun channel w₂ kept => ?_
  refine goesOn w₂ kept (request_keepsHours _) fun _ w₃ kept => ?_
  refine goesOn w₃ kept (fun w => .of_passes (requestedTag_passes w _)) fun requested w₄ kept => ?_
  split
  next =>
    exact goesOn w₄ kept (subscribe_keepsHours _ _ _) fun _ w₅ kept => ⟨w₅, _, kept, rfl⟩
  next =>
    exact goesOn w₄ kept (pollingTag_keepsHours _ _) fun _ w₅ kept => ⟨w₅, _, kept, rfl⟩

/-! ### Turns in the session -/

/-- A consumer is over, or its hours change as they may; and it tells of its idleness as it has to. -/
inductive Spends (interval : Duration) (id : Nat) (w w' : World) : Prop
  | ended (finished : w'.isFinished id = true) (tells : Tells [] w w')
  | goesOn {hours hours' : Hours} {told : List Duration} (before : w.hours id = some hours)
      (busy : w'.isFinished id = false) (after : w'.hours id = some hours')
      (spent : hours.Spent interval w.now hours' told) (tells : Tells told w w')

variable {interval : Duration} {hours : Hours} {s : Session}

theorem Spends.since (last : Spends interval id w' w'') (keeps : KeepsHours id w w')
    (silent : w'.told = w.told) : Spends interval id w w'' := by
  cases last with
  | ended finished tells => exact .ended finished (tells.since silent)
  | goesOn before busy after spent tells =>
    rw [keeps.hours, Option.map_id'] at before
    exact .goesOn before busy after (keeps.now ▸ spent) (tells.since silent)

/-- Whoever is not there cannot end. -/
theorem finish_of_absent (absent : w.consumers.get? id = none) (result : Except ClientError Unit) :
    w.finish id result = w := by
  unfold finish releaseChannel
  dsimp only
  rw [absent]
  dsimp only [Option.bind_none]
  rw [absent]

theorem finish_isFinished (w : World) (id : Nat) (result : Except ClientError Unit) :
    (w.finish id result).isFinished id = true := by
  rw [isFinished_eq_true]
  intro c' found'
  cases found : w.consumers.get? id with
  | none =>
    rw [finish_of_absent found] at found'
    cases found.symm.trans found'
  | some c =>
    obtain ⟨state, ended⟩ := (finish_departs found result).ended
    cases ended.symm.trans found'
    rfl

/-- **Work without a tag tells nothing of idleness**, whether or not the consumer ends by it. -/
theorem Utters.tells (utters : Utters none id w w') (sink : w.plan.hasSink = true) :
    Tells [] w w' := by
  obtain ⟨middle, murmurs, rfl | ⟨result, rfl⟩⟩ := utters
  · exact .of_same (murmurs.silent sink)
  · cases found : middle.consumers.get? id with
    | none =>
      rw [finish_of_absent found]
      exact .of_same (murmurs.silent sink)
    | some c =>
      have departs := finish_departs found result
      refine ⟨[c.lastWord result], ?_, ?_⟩
      · rw [departs.told (murmurs.plan ▸ sink), murmurs.silent sink]
      · unfold Consumer.lastWord
        split <;> rfl

/-- **A turn that changes the hours in one way, and tells nothing of idleness.** -/
theorem Spends.of_clocks (known : w.hours id = some hours) (sink : w.plan.hasSink = true)
    (utters : Utters none id w w') (clocks : ClocksOn id f w w')
    (spent : hours.Spent interval w.now (f hours) []) : Spends interval id w w' := by
  cases finished : w'.isFinished id with
  | true => exact .ended finished (utters.tells sink)
  | false =>
    refine .goesOn known finished ?_ spent (utters.tells sink)
    rw [(clocks finished).hours, known]
    rfl

/-- Whoever is set to work is not over. -/
theorem setPhase_busy (known : w.hours id = some hours) {phase : Phase} (busy : phase ≠ .finished) :
    (w.setPhase id phase).isFinished id = false := by
  obtain ⟨c, found, -⟩ := Option.map_eq_some_iff.mp known
  refine isFinished_eq_false.mpr ⟨{ c with phase }, ?_, busy⟩
  unfold setPhase
  rw [updateConsumer_get?, if_pos rfl, found]
  rfl

/-- A consumer waits for what comes. -/
theorem wait_spends (known : w.hours id = some hours) (phase : Phase) (busy : phase ≠ .finished)
    (t : Instant) :
    Spends interval id w ((w.setPhase id phase).setTimer (.consumer id) .deadline t) := by
  have keeps : KeepsHours id w _ := setPhase_setTimer_keepsHours w phase .deadline t
  exact .goesOn known (setPhase_busy known busy) (keeps.hours.trans (by rw [known]; rfl)) .working
    (.of_same rfl)

/-- A consumer that fails is over, and tells nothing of its idleness. -/
theorem fail_over (w : World) (sink : w.plan.hasSink = true) (s : Session) (error : ClientError) :
    (w.fail id s error).2.isFinished id = true ∧ Tells [] w (w.fail id s error).2 :=
  ⟨finish_isFinished w id _, (fail_utters w s error).tells sink⟩

/-- After some work a consumer is ready again, or it is over. -/
theorem proceed_keepsHours (w : World) (s : Session) {work : WorldWork Unit}
    (keeps : Moves (KeepsHours id) work) :
    ClocksOn id (fun hours => hours) w (w.proceed id s work).2 := by
  have worked := keeps w
  unfold proceed
  split
  next w' done =>
    rw [done] at worked
    exact (worked.trans (setPhase_keepsHours w' _)).on
  next w' failed =>
    exact fun busy => absurd (busy.symm.trans (finish_isFinished w' id _)) Bool.false_ne_true

/-- **A delivery is received.** -/
theorem process_spends (w : World) (sink : w.plan.hasSink = true) (known : w.hours id = some hours)
    (s : Session) (delivery : Delivery) : Spends interval id w (w.process id s delivery).2 := by
  have counted : Clocks id (·.receive w.now) w (w.updateConsumer id fun c =>
      { c with
        idleStreak := 0
        activeStreak := c.activeStreak + 1
        deliveries := c.deliveries + 1
        lastDelivery := w.now }) := .of_written fun _ => rfl
  have begun : ∀ (w : World) (service : TransactionService Nat),
      KeepsHours id w { w with service } := fun _ _ => .of_same rfl rfl rfl
  have clocks : ClocksOn id (·.receive w.now) w (w.process id s delivery).2 := by
    unfold process
    dsimp only
    split
    next => exact (proceed_keepsHours _ s (atDesk_keepsHours _)).since counted
    next =>
      split
      next =>
        split
        next => exact ((setPhase_keepsHours _ _).since ((begun _ _).since counted)).on
        next =>
          exact (proceed_keepsHours _ s (atDesk_keepsHours _)).since ((begun _ _).since counted)
      next => exact ((setPhase_keepsHours _ _).since counted).on
  exact .of_clocks known sink (process_utters w s delivery) clocks .receiving

/-- **A consumer tells that it is idle if it is due**, and how long it has received nothing. -/
theorem tellIdle_spends (w : World) (sink : w.plan.hasSink = true) (known : w.hours id = some hours)
    (s : Session) (interval : Duration) :
    (w.tellIdle id s interval).hours id = some { hours with
        lastIdleEvent := if hours.Due interval w.now then some w.now else hours.lastIdleEvent } ∧
      Tells (hours.tells interval w.now) w (w.tellIdle id s interval) := by
  obtain ⟨c, found, rfl⟩ := Option.map_eq_some_iff.mp known
  unfold tellIdle Hours.tells
  rw [found]
  dsimp only
  by_cases due : c.hours.Due interval w.now
  · have due' : interval ≤ Duration.ofMillis (w.now - max c.lastDelivery (c.lastIdleEvent.getD 0)) :=
      due
    have noted : Clocks id (fun hours => { hours with lastIdleEvent := some w.now }) w
        (w.updateConsumer id fun c => { c with lastIdleEvent := some w.now }) :=
      .of_written fun _ => rfl
    have sink' : (w.updateConsumer id fun c => { c with lastIdleEvent := some w.now }).plan.hasSink =
        true := sink
    rw [if_pos due', if_pos due, if_pos due]
    refine ⟨?_, [_], publish_told sink' _, rfl⟩
    unfold World.hours
    rw [publish_consumers]
    exact noted.hours.trans (by rw [known]; rfl)
  · have early : ¬ interval ≤
        Duration.ofMillis (w.now - max c.lastDelivery (c.lastIdleEvent.getD 0)) := due
    rw [if_neg early, if_neg due, if_neg due]
    exact ⟨known, [], (List.append_nil _).symm, rfl⟩

/-- **Nothing is received.** -/
theorem idle_spends (w : World) (sink : w.plan.hasSink = true)
    (setting : w.plan.settings.idleEvent = some interval) (known : w.hours id = some hours)
    (s : Session) : Spends interval id w (w.idle id s).2 := by
  let counted := w.updateConsumer id fun c =>
    { c with activeStreak := 0, idleStreak := c.idleStreak + 1 }
  have counts : Clocks id (fun hours => { hours with idleStreak := hours.idleStreak + 1 }) w counted :=
    .of_written fun _ => rfl
  have keeps : KeepsHours id counted ((atDesk id Desk.flush).run counted).2 := atDesk_keepsHours _ _
  have murmurs : Murmurs none id counted ((atDesk id Desk.flush).run counted).2 :=
    atDesk_murmurs Desk.flush_asks _
  unfold idle proceed
  dsimp only
  cases flushed : (atDesk id Desk.flush).run counted with
  | mk result w' =>
    rw [flushed] at keeps murmurs
    have silent : w'.told = w.told := murmurs.silent sink
    cases result with
    | error error =>
      rw [run_bind_error flushed]
      obtain ⟨finished, tells⟩ := fail_over w' (murmurs.plan ▸ sink) s error
      exact .ended finished (tells.since silent)
    | ok =>
      have known' : w'.hours id = some { hours with idleStreak := hours.idleStreak + 1 } := by
        rw [(keeps.since counts).hours, known]
        rfl
      obtain ⟨after, tells⟩ := tellIdle_spends w' (murmurs.plan ▸ sink) known' s interval
      have ready : KeepsHours id (w'.tellIdle id s interval)
          ((w'.tellIdle id s interval).setPhase id (.receiving none)) := setPhase_keepsHours _ _
      have setting' : w'.plan.settings.idleEvent = some interval := by
        rw [murmurs.plan]
        exact setting
      rw [(keeps.since counts).now] at after tells
      rw [run_bind_ok flushed, run_get_bind, setting']
      have rests : hours.Spent interval w.now (hours.rest interval w.now) (hours.tells interval w.now) :=
        .resting
      refine .goesOn known (setPhase_busy after nofun) ?_ rests (tells.since silent)
      refine ready.hours.trans ?_
      rw [after]
      rfl

/-- A consumer receives what is pushed to it. -/
theorem receivePushed_spends (w : World) (sink : w.plan.hasSink = true)
    (setting : w.plan.settings.idleEvent = some interval) (known : w.hours id = some hours)
    (busy : w.isFinished id = false) (s : Session) (deadline : Option Instant) :
    Spends interval id w (w.receivePushed id s deadline).2 := by
  have fails : ∀ (w' : World) (error : ClientError), w'.plan = w.plan → w'.told = w.told →
      Spends interval id w (w'.fail id s error).2 := fun w' error plan silent => by
    obtain ⟨finished, tells⟩ := fail_over w' (plan ▸ sink) s error
    exact .ended finished (tells.since silent)
  unfold receivePushed
  split
  next => exact fails w _ rfl rfl
  next handoff _ =>
    split
    next delivery rest _ =>
      have taken : KeepsHours id w
          ((w.takeParcel id handoff rest).cancelTimer (.consumer id) .deadline) :=
        .of_same rfl rfl rfl
      have processed : Spends interval id _ (World.process _ id s delivery).2 :=
        process_spends ((w.takeParcel id handoff rest).cancelTimer (.consumer id) .deadline) sink
          known s delivery
      exact processed.since taken rfl
    next => exact fails _ _ rfl rfl
    next => exact fails _ _ rfl rfl
    next =>
      split
      next => exact fails w _ rfl rfl
      next =>
        split
        next =>
          split
          next => exact idle_spends w sink setting known s
          next => exact .goesOn known busy known .working (.of_same rfl)
        next =>
          exact wait_spends known (.receiving (some (w.instant + cycle w.plan.settings))) nofun _

/-- A consumer receives what it asks for. -/
theorem receivePolled_spends (w : World) (sink : w.plan.hasSink = true)
    (setting : w.plan.settings.idleEvent = some interval) (known : w.hours id = some hours)
    (c : Consumer) (s : Session) (wait : Duration) (deadline : Instant) :
    Spends interval id w (w.receivePolled id c s wait deadline).2 := by
  have asked : Murmurs none id w ((request fun client => client.call .get
      (·.get s.channel.target c.queue w.plan.settings.ackMode.unacknowledged)).run w).2 := by
    have works : w.client.Works (fun _ _ => False) (w.client.call .get (·.get s.channel.target
        c.queue w.plan.settings.ackMode.unacknowledged)).2 := w.client.get_works _ _ _
    exact request_murmurs works.opensNone
  have after : ∀ result w', (request fun client => client.call .get
      (·.get s.channel.target c.queue w.plan.settings.ackMode.unacknowledged)).run w = (result, w') →
      KeepsHours id w w' ∧ w'.told = w.told ∧ w'.plan = w.plan ∧ w'.hours id = some hours := by
    intro result w' ran
    have keeps : KeepsHours id w _ := request_keepsHours (fun client => client.call .get
      (·.get s.channel.target c.queue w.plan.settings.ackMode.unacknowledged)) w
    rw [ran] at asked keeps
    exact ⟨keeps, asked.silent sink, asked.plan, keeps.hours.trans (by rw [known]; rfl)⟩
  unfold receivePolled
  dsimp only
  split
  next error w' failed =>
    obtain ⟨-, silent, plan, -⟩ := after _ _ failed
    obtain ⟨finished, tells⟩ := fail_over w' (plan ▸ sink) s error
    exact .ended finished (tells.since silent)
  next delivery w' answered =>
    obtain ⟨keeps, silent, plan, known'⟩ := after _ _ answered
    exact (process_spends w' (plan ▸ sink) known' s delivery).since keeps silent
  next w' answered =>
    obtain ⟨keeps, silent, plan, known'⟩ := after _ _ answered
    split
    next => exact (idle_spends w' (plan ▸ sink) (plan ▸ setting) known' s).since keeps silent
    next =>
      let turn := min (w'.instant + wait) deadline
      have waits : Spends interval id w' _ :=
        wait_spends known' (.polling deadline turn) nofun turn
      exact waits.since keeps silent

/-- The listener works. -/
theorem listen_spends (w : World) (sink : w.plan.hasSink = true) (known : w.hours id = some hours)
    (c : Consumer) (s : Session) (work : Listening) :
    Spends interval id w (w.listen id c s work).2 := by
  have clocks : ClocksOn id (fun hours => hours) w (w.listen id c s work).2 := by
    unfold listen
    split
    next =>
      have put : KeepsHours id w (w.putBench id work.call.delivery
          (work.call.resume w.plan.listener (w.bench s)).2) := putBench_keepsHours w _ _
      dsimp only
      split
      next =>
        split
        next => exact ((setPhase_keepsHours _ _).since put).on
        next =>
          exact (KeepsHours.trans put (setPhase_setTimer_keepsHours _ _ _ _)).on
      next result _ =>
        exact (proceed_keepsHours _ s (settle_keepsHours s _ _ _)).since
          (KeepsHours.trans put (recordAnswer_keepsHours _ c work result))
    next => exact (KeepsHours.refl w).on
  exact .of_clocks known sink (listen_utters w c s work) clocks .working

/-- **A turn of a consumer in its session.** -/
theorem receive_spends (w : World) (sink : w.plan.hasSink = true)
    (setting : w.plan.settings.idleEvent = some interval) (known : w.hours id = some hours)
    (busy : w.isFinished id = false) (c : Consumer) (s : Session) :
    Spends interval id w (w.receive id c s).2 := by
  have stays : Spends interval id w w := .goesOn known busy known .working (.of_same rfl)
  have stops : Spends interval id w (w.stopReceiving id s).2 :=
    .ended (finish_isFinished _ id _) ((stopReceiving_utters w s).tells sink)
  unfold receive
  split
  next deadline _ =>
    split
    next => exact stops
    next =>
      split
      next => exact receivePushed_spends w sink setting known busy s deadline
      next => exact receivePolled_spends w sink setting known c s _ _
  next =>
    split
    next => exact stops
    next =>
      split
      next => exact stays
      next =>
        split
        next => exact receivePolled_spends w sink setting known c s _ _
        next => exact stays
  next work _ => exact listen_spends w sink known c s work
  next => exact stays
  next => exact stays

/-! ### Whole turns -/

/-- What a turn may have to do with the hours of its consumer: its session begins, or it goes on with
its session, or it is over. -/
inductive Passed (interval : Duration) (id : Nat) (w w' : World) : Prop
  | ended (finished : w'.isFinished id = true) (tells : Tells [] w w')
  | begun {c c' : Consumer} (found : w.consumers.get? id = some c) (opening : c.phase = .opening)
      (found' : w'.consumers.get? id = some c') (working : c'.phase.stage = .working)
      (hours : c'.hours = { c.hours with lastDelivery := w.now }) (tells : Tells [] w w')
  | goesOn {c c' : Consumer} {told : List Duration} (found : w.consumers.get? id = some c)
      (working : c.phase.stage = .working) (found' : w'.consumers.get? id = some c')
      (working' : c'.phase.stage = .working) (spent : c.hours.Spent interval w.now c'.hours told)
      (tells : Tells told w w')

/-- The session of a consumer begins. -/
theorem openSession_passed {c : Consumer} (found : w.consumers.get? id = some c)
    (opening : c.phase = .opening) (unopened : c.channel = none) (sink : w.plan.hasSink = true)
    (done : (openSession id c).run w = (.ok (), w')) : Passed interval id w w' := by
  have timely : OpensTimely id c w _ := openSession_opensTimely w c
  have quietly := openSession_opensQuietly found unopened
  rw [done] at timely quietly
  have tells : Tells [] w w' := by
    obtain ⟨middle, session, murmurs, rfl⟩ := quietly
    refine ⟨[.consumeOk c.queue session.consumerTag], ?_, rfl⟩
    rw [beginSession_told _ (murmurs.plan ▸ sink), murmurs.silent sink]
  obtain ⟨middle, session, keeps, rfl⟩ := timely
  have known : middle.hours id = some c.hours := by
    rw [keeps.hours, hours_eq found]
    rfl
  obtain ⟨c', found', hours⟩ := Option.map_eq_some_iff.mp known
  obtain ⟨-, -, -, -, consumers⟩ := middle.beginSession_frame id c.run c.queue session
  have ready := consumers ▸ Table.get?_modify_self _ _ _
  rw [found', Option.map_some] at ready
  refine .begun found opening ready rfl ?_ tells
  rw [← hours, ← keeps.now]
  rfl

/-- A turn of a consumer that works. -/
theorem receive_passed {c : Consumer} (found : w.consumers.get? id = some c)
    (working : c.phase.stage = .working) (sink : w.plan.hasSink = true)
    (setting : w.plan.settings.idleEvent = some interval) (s : Session) :
    Passed interval id w (w.receive id c s).2 := by
  have known := hours_eq found
  have utters : Utters (some s.consumerTag) id w (w.receive id c s).2 := receive_utters w c s
  have busy : w.isFinished id = false := isFinished_eq_false.mpr
    ⟨c, found, fun finished => by rw [finished] at working; cases working⟩
  cases receive_spends w sink setting known busy c s with
  | ended finished tells => exact .ended finished tells
  | goesOn before busy' after spent tells =>
    obtain rfl := Option.some.inj (known.symm.trans before)
    obtain ⟨c', found', rfl⟩ := Option.map_eq_some_iff.mp after
    obtain ⟨middle, murmurs, same | ⟨result, ends⟩⟩ := utters
    · obtain ⟨c'', found'', guise, -⟩ := murmurs.stays found
      rw [same] at found'
      cases found'.symm.trans found''
      refine .goesOn found working (same ▸ found'') ?_ spent tells
      obtain alike | works := guise
      · exact (congrArg Guise.stage alike).trans working
      · exact congrArg Guise.stage works
    · have finished := ends ▸ finish_isFinished middle id result
      exact absurd (busy'.symm.trans finished) Bool.false_ne_true

/-- **What a turn of a consumer has to do with its hours.** -/
theorem consumerTurn_passed (unopened : w.Unopened) (sink : w.plan.hasSink = true)
    (setting : w.plan.settings.idleEvent = some interval) (id : Nat) :
    Passed interval id w (w.consumerTurn id).2 := by
  unfold consumerTurn
  split
  next absent =>
    refine .ended (isFinished_eq_true.mpr fun c found => ?_) (.of_same rfl)
    cases absent.symm.trans found
  next c found =>
    have stays : c.phase.stage = .working → Passed interval id w w := fun working =>
      .goesOn found working found working .working (.of_same rfl)
    have works : c.phase ≠ .opening → c.phase ≠ .finished → c.phase.stage = .working := by
      intro begun busy
      cases phase : c.phase with
      | opening => exact absurd phase begun
      | finished => exact absurd phase busy
      | receiving | polling | listening => rfl
    split
    next opening =>
      have quietly := openSession_opensQuietly found (unopened id c found opening)
      split
      next w' done => exact openSession_passed found opening (unopened id c found opening) sink done
      next error w' failed =>
        rw [failed] at quietly
        have utters : Utters none id w (w'.finish id (.error error)) := ⟨w', quietly, .inr ⟨_, rfl⟩⟩
        exact .ended (finish_isFinished w' id _) (utters.tells sink)
    next finished =>
      refine .ended (isFinished_eq_true.mpr fun c' found' => ?_) (.of_same rfl)
      cases found.symm.trans found'
      exact finished
    next s _ begun busy => exact receive_passed found (works begun busy) sink setting s
    next begun busy => exact stays (works begun busy)

/-- The agenda does not matter. -/
theorem Passed.of_agenda {before after : Agenda}
    (passed : Passed interval id { w with agenda := before } w') :
    Passed interval id w { w' with agenda := after } := by
  cases passed with
  | ended finished tells => exact .ended finished tells
  | begun found opening found' working hours tells =>
    exact .begun found opening found' working hours tells
  | goesOn found working found' working' spent tells =>
    exact .goesOn found working found' working' spent tells

theorem take_consumer_passed (sound : w.Sound) (sink : w.plan.hasSink = true)
    (setting : w.plan.settings.idleEvent = some interval) (id : Nat) :
    Passed interval id w (w.take (.consumer id)) := by
  have unopened : ({ w with agenda := w.agenda.give (.consumer id) } : World).Unopened :=
    sound.unopened.of_consumers rfl
  have passed := consumerTurn_passed unopened sink setting id
  have turned : ∀ (w' : World) (after : Agenda),
      (({ w with agenda := w.agenda.give (.consumer id) } : World).consumerTurn id).2 = w' →
      Passed interval id w { w' with agenda := after } := by
    rintro w' after rfl
    exact passed.of_agenda
  unfold take
  split
  next w' same => exact turned w' w'.agenda (congrArg (·.2) same)
  next w' same => exact turned w' w'.agenda.rest (congrArg (·.2) same)

end World

end QueueListener
