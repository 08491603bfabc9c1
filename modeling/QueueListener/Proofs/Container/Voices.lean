import QueueListener.Proofs.Container.Lasting
/-!
# What is heard of a consumer in its turn

**In its turn a consumer begins its session and tells so, or goes on and tells at most that it is
idle, or ends, and tells nothing after its end.** Until then it keeps hold of its channel, if it has
one: that is closed by the end, before the end is told.

* `World.told`, `Guise` — what was told, and of whom;
* `World.Murmurs` — work of a consumer that is no beginning and no end;
* `World.Utters` — such work, and maybe the end;
* `World.Departs`, `finish_departs`, `forceClose_departs` — the ends;
* `World.Heard`, `consumerTurn_heard` — a whole turn.
-/

namespace QueueListener

/-- How far a consumer has got. -/
inductive Stage
  | opening
  | working
  | finished
  deriving DecidableEq

/-- How far a consumer has got that is doing something. -/
def Phase.stage : Phase → Stage
  | .opening => .opening
  | .receiving _ => .working
  | .polling .. => .working
  | .listening _ => .working
  | .finished => .finished

/-- What events may tell of a consumer. -/
structure Guise where
  queue : String
  tag : Option String
  /-- The tag in its session. -/
  sessionTag : Option String
  stopRequested : Bool
  stage : Stage

/-- The guise of a consumer that works in its session. -/
def Guise.atWork (g : Guise) : Guise := { g with stage := .working }

/-- What events may tell of a consumer. -/
def Consumer.guise (c : Consumer) : Guise :=
  ⟨c.queue, c.tag, c.session.map (·.consumerTag), c.stopRequested, c.phase.stage⟩

/-- What is told about a consumer that ends. -/
def Consumer.lastWord (c : Consumer) (result : Except ClientError Unit) : Event :=
  match result, c.stopRequested with
  | .error error, false => .consumerFailed c.queue c.tag error.kind error.message
  | _, _ => .consumerTerminated c.queue c.tag

theorem Phase.stage_eq_opening {phase : Phase} : phase.stage = .opening ↔ phase = .opening := by
  cases phase <;> simp [Phase.stage]

theorem Phase.stage_eq_finished {phase : Phase} : phase.stage = .finished ↔ phase = .finished := by
  cases phase <;> simp [Phase.stage]

/-- The second part is reached from where the first one has ended well; else the whole ends there. -/
theorem run_bind_either {σ α β : Type} {P : σ → Prop} {Q : Except ClientError β × σ → Prop}
    {first : ExceptT ClientError (StateM σ) α} {next : α → ExceptT ClientError (StateM σ) β} {s : σ}
    (begun : P (first.run s).2)
    (goesOn : ∀ a s', first.run s = (.ok a, s') → P s' → Q ((next a).run s'))
    (stops : ∀ error s', P s' → Q (.error error, s')) : Q ((first >>= next).run s) := by
  cases reached : first.run s with
  | mk result s' =>
    rw [reached] at begun
    cases result with
    | ok a =>
      rw [run_bind_ok reached]
      exact goesOn a s' reached begun
    | error error =>
      rw [run_bind_error reached]
      exact stops error s' begun

namespace World

variable {w w' w'' : World} {id : Nat} {tag : Option String} {α β : Type}

/-- What was told, in the order in which it was told. -/
def told (w : World) : List Event := w.chronicle.events.toList.map (·.2)

/-- What events may tell of a consumer. -/
def guise (w : World) (id : Nat) : Option Guise := (w.consumers.get? id).map (·.guise)

/-- The channel that a consumer has to let go in the end. -/
def channelOf (w : World) (id : Nat) : Option Nat :=
  ((w.consumers.get? id).bind (·.channel)).map (·.target)

theorem guise_eq {c : Consumer} (found : w.consumers.get? id = some c) :
    w.guise id = some c.guise := by
  unfold guise
  rw [found]
  rfl

theorem channelOf_eq {c : Consumer} (found : w.consumers.get? id = some c) :
    w.channelOf id = c.channel.map (·.target) := by
  unfold channelOf
  rw [found]
  rfl

theorem publish_told (sink : w.plan.hasSink = true) (event : Event) :
    (w.publish event).told = w.told ++ [event] := by
  unfold publish told
  rw [if_pos sink]
  dsimp only
  rw [Array.toList_push, List.map_append]
  rfl

theorem told_of_events (same : w'.chronicle.events = w.chronicle.events) : w'.told = w.told := by
  unfold told
  rw [same]

/-! ### Neither beginning nor end -/

/-- Work of a consumer that is no beginning and no end. It may tell that it is idle under a tag, if
there is one; it keeps hold of its channel, and any channel that it opens. -/
structure Murmurs (tag : Option String) (id : Nat) (w w' : World) : Prop where
  plan : w'.plan = w.plan
  guise : w'.guise id = w.guise id ∨ w'.guise id = (w.guise id).map (·.atWork)
  told : w.plan.hasSink = true → ∃ idles : List Event, w'.told = w.told ++ idles ∧
    ∀ event ∈ idles, ∃ (g : Guise) (own : String) (since : Timestamp) (length : Duration),
      w.guise id = some g ∧ tag = some own ∧ event = .idle g.queue own since length
  faults : ∀ fault ∈ w'.client.faults, ∃ earlier ∈ w.client.faults, earlier.op = fault.op
  held : ∀ channel, w.channelOf id = some channel → w'.channelOf id = some channel
  opens : ∀ channel, w'.client.broker.channelOpen channel = true →
    w.client.broker.channelOpen channel = true ∨ w'.channelOf id = some channel

namespace Murmurs

/-- The queue of a consumer stays the same. -/
theorem queue (murmurs : Murmurs tag id w w') {g' : Guise} (known : w'.guise id = some g') :
    ∃ g, w.guise id = some g ∧ g.queue = g'.queue := by
  obtain same | works := murmurs.guise
  · exact ⟨g', same ▸ known, rfl⟩
  · obtain ⟨g, known', rfl⟩ := Option.map_eq_some_iff.mp (works.symm.trans known)
    exact ⟨g, known', rfl⟩

theorem trans (first : Murmurs tag id w w') (second : Murmurs tag id w' w'') :
    Murmurs tag id w w'' where
  plan := second.plan.trans first.plan
  guise := by
    obtain same | works := first.guise <;> obtain same' | works' := second.guise
    · exact .inl (same'.trans same)
    · exact .inr (works'.trans (by rw [same]))
    · exact .inr (same'.trans works)
    · refine .inr (works'.trans ?_)
      rw [works, Option.map_map]
      rfl
  told sink := by
    obtain ⟨idles, told, only⟩ := first.told sink
    obtain ⟨more, told', only'⟩ := second.told (first.plan ▸ sink)
    refine ⟨idles ++ more, by rw [told', told, List.append_assoc], fun event among => ?_⟩
    obtain before | after := List.mem_append.mp among
    · exact only event before
    · obtain ⟨g', own, since, length, known, same, rfl⟩ := only' event after
      obtain ⟨g, known', queue⟩ := first.queue known
      exact ⟨g, own, since, length, known', same, by rw [queue]⟩
  faults fault armed := by
    obtain ⟨middle, armed', same'⟩ := second.faults fault armed
    obtain ⟨earlier, armed'', same''⟩ := first.faults middle armed'
    exact ⟨earlier, armed'', same''.trans same'⟩
  held channel has := second.held channel (first.held channel has)
  opens channel opened := by
    obtain opened' | has := second.opens channel opened
    · exact (first.opens channel opened').imp_right (second.held channel)
    · exact .inr has

/-- What comes last is looked at first. -/
theorem since (last : Murmurs tag id w' w'') (first : Murmurs tag id w w') :
    Murmurs tag id w w'' := first.trans last

/-- The client was asked for something, and nothing was written or told. -/
theorem of_asked (plan : w'.plan = w.plan) (none : w.client.OpensNone w'.client)
    (consumers : w'.consumers = w.consumers) (events : w'.chronicle.events = w.chronicle.events) :
    Murmurs tag id w w' where
  plan := plan
  guise := .inl (by unfold World.guise; rw [consumers])
  told _ := ⟨[], by rw [told_of_events events, List.append_nil],
    fun _ none => absurd none List.not_mem_nil⟩
  faults := none.faults
  held channel has := by
    unfold channelOf at has ⊢
    rwa [consumers]
  opens channel opened := .inl (none.channels channel opened)

theorem of_same (plan : w'.plan = w.plan) (client : w'.client = w.client)
    (consumers : w'.consumers = w.consumers) (events : w'.chronicle.events = w.chronicle.events) :
    Murmurs tag id w w' := .of_asked plan (client ▸ .refl _) consumers events

theorem refl (w : World) : Murmurs tag id w w := .of_same rfl rfl rfl rfl

/-- Something is written about a consumer: not its channel, and of its guise at most that it works. -/
theorem of_written {f : Consumer → Consumer} (same : ∀ c, w.consumers.get? id = some c →
    ((f c).guise = c.guise ∨ (f c).guise = c.guise.atWork) ∧ (f c).channel = c.channel) :
    Murmurs tag id w (w.updateConsumer id f) := by
  have got : (w.updateConsumer id f).consumers.get? id = (w.consumers.get? id).map f := by
    rw [updateConsumer_get?, if_pos rfl]
  cases found : w.consumers.get? id with
  | none =>
    have guise : (w.updateConsumer id f).guise id = w.guise id := by
      unfold World.guise
      rw [got, found]
      rfl
    refine ⟨rfl, .inl guise, fun _ => ⟨[], (List.append_nil _).symm, fun _ => nofun⟩,
      fun fault armed => ⟨fault, armed, rfl⟩, fun channel has => ?_, fun channel => .inl⟩
    unfold channelOf at has
    rw [found] at has
    cases has
  | some c =>
    obtain ⟨guise, channel⟩ := same c found
    rw [found, Option.map_some] at got
    refine ⟨rfl, ?_, fun _ => ⟨[], (List.append_nil _).symm, fun _ => nofun⟩,
      fun fault armed => ⟨fault, armed, rfl⟩, fun number has => ?_, fun channel => .inl⟩
    · rw [guise_eq got, guise_eq found]
      exact guise.imp (congrArg some) (congrArg some)
    · rwa [channelOf_eq got, channel, ← channelOf_eq found]

end Murmurs

/-! ### Work in the session -/

theorem deliverNotices_murmurs (w : World) : Murmurs tag id w w.deliverNotices := by
  obtain ⟨handoffs, tasks, same⟩ := w.deliverNotices_shape
  rw [same]
  exact .of_asked rfl ⟨fun _ opened => opened, fun fault armed => ⟨fault, armed, rfl⟩⟩ rfl rfl

theorem request_murmurs {f : Client → Except ClientError α × Client}
    (none : w.client.OpensNone (f w.client).2) :
    Murmurs tag id w ((request f).run w).2 := by
  rw [request_run]
  have asked : Murmurs tag id w { w with client := (f w.client).2 } := .of_asked rfl none rfl rfl
  exact asked.trans (deliverNotices_murmurs _)

theorem bind_murmurs {first : WorldWork α} {next : α → WorldWork β}
    (begins : Moves (Murmurs tag id) first) (goesOn : ∀ a, Moves (Murmurs tag id) (next a)) :
    Moves (Murmurs tag id) (first >>= next) := Moves.bind (fun _ _ _ => .trans) begins goesOn

theorem setPhase_murmurs (w : World) {phase : Phase} (working : phase.stage = .working) :
    Murmurs tag id w (w.setPhase id phase) :=
  .of_written fun c _ => ⟨.inr (by rw [Consumer.guise, Guise.atWork, ← working]; rfl), rfl⟩

theorem setPhase_setTimer_murmurs (w : World) {phase : Phase} (working : phase.stage = .working)
    (slot : TimerSlot) (t : Instant) :
    Murmurs tag id w ((w.setPhase id phase).setTimer (.consumer id) slot t) :=
  (setPhase_murmurs w working).trans (.of_same rfl rfl rfl rfl)

/-- A change of the session that keeps its tag. -/
theorem updateSession_murmurs (w : World) {f : Session → Session}
    (same : ∀ s, (f s).consumerTag = s.consumerTag) :
    Murmurs tag id w (w.updateSession id f) := by
  refine .of_written fun c _ => ⟨.inl ?_, rfl⟩
  unfold Consumer.guise
  dsimp only
  rw [Option.map_map]
  exact congrArg (Guise.mk c.queue c.tag · c.stopRequested c.phase.stage)
    (Option.map_congr fun s _ => same s)

theorem atDesk_murmurs {work : Post → DeskWork Unit} (asks : ∀ post, Desk.Asks post (work post)) :
    Moves (Murmurs tag id) (atDesk id work) := by
  intro w
  unfold atDesk
  rw [ExceptT.run_mk]
  split
  next => exact .refl w
  next c found =>
    split
    next => exact .refl w
    next s opened =>
      have worked := asks (w.post c s) (w.desk c s)
      generalize (work (w.post c s)).run (w.desk c s) = answer at worked
      obtain ⟨result, desk⟩ := answer
      have put : Murmurs tag id w { w with client := desk.client, metrics := desk.metrics } :=
        .of_asked rfl worked.opensNone rfl rfl
      have shown : Murmurs tag id w (({ w with client := desk.client, metrics := desk.metrics } :
          World).updateConsumer id fun c => { c with shownDeferred := desk.shownDeferred }) :=
        put.trans (.of_written fun _ _ => ⟨.inl rfl, rfl⟩)
      refine (shown.trans (updateSession_murmurs _ ?_)).trans (deliverNotices_murmurs _)
      exact fun _ => rfl

theorem settle_murmurs (s : Session) (number : Nat) (outcome : QueueListener.Outcome)
    (transaction : Option TransactionHandle) :
    Moves (Murmurs tag id) (settle id s number outcome transaction) := by
  have concludes : ∀ handle ending requeue, Moves (Murmurs tag id)
      (concludeTransaction id number handle ending requeue) := fun handle ending requeue =>
    bind_murmurs (modifyGet_moves fun _ => .of_same rfl rfl rfl rfl) fun _ =>
      atDesk_murmurs fun post => Desk.conclude_asks post number _ _ _
  unfold settle
  split
  next => exact atDesk_murmurs fun post => Desk.settle_asks post number outcome
  next =>
    refine bind_murmurs (get_moves .refl) fun w => ?_
    dsimp only
    split
    next => exact concludes _ _ _
    next => exact concludes _ _ _
    next => exact atDesk_murmurs fun post => Desk.perform_asks post number _

/-- A consumer that has been idle for long enough tells so. -/
theorem tellIdle_murmurs (w : World) (s : Session) (interval : Duration) :
    Murmurs (some s.consumerTag) id w (w.tellIdle id s interval) := by
  unfold tellIdle
  split
  next => exact .refl w
  next c found =>
    dsimp only
    split
    next =>
      have noted : Murmurs (some s.consumerTag) id w
          (w.updateConsumer id fun c => { c with lastIdleEvent := some w.now }) :=
        .of_written fun _ _ => ⟨.inl rfl, rfl⟩
      refine noted.trans ⟨(publish_still _ _).plan, ?_, fun sink => ⟨_, publish_told sink _,
        fun event among => ?_⟩, ?_, fun channel has => ?_, fun channel opened => .inl ?_⟩
      · unfold World.guise
        rw [publish_consumers]
        exact .inl rfl
      · rw [List.mem_singleton.mp among]
        have after : (w.updateConsumer id fun c => { c with lastIdleEvent := some w.now }
            ).consumers.get? id = some { c with lastIdleEvent := some w.now } := by
          rw [updateConsumer_get?, if_pos rfl, found]
          rfl
        exact ⟨_, _, _, _, guise_eq after, rfl, rfl⟩
      · rw [publish_client]
        exact fun fault armed => ⟨fault, armed, rfl⟩
      · unfold channelOf at has ⊢
        rwa [publish_consumers]
      · rwa [publish_client] at opened
    next => exact .refl w

theorem recordAnswer_murmurs (w : World) (c : Consumer) (work : Listening)
    (result : Except ListenerError Unit) : Murmurs tag id w (w.recordAnswer c work result) := by
  unfold recordAnswer
  dsimp only
  split
  next => exact .of_same rfl rfl rfl rfl
  next =>
    unfold tellError
    split <;> exact .of_same rfl rfl rfl rfl

/-- What the listener has done on its bench tells nothing. -/
theorem putBench_murmurs (w : World) (s : Session) (delivery : Delivery) {bench : Bench}
    (works : (w.bench s).Works (fun _ => True) bench) :
    Murmurs tag id w (w.putBench id delivery bench) := by
  have asked : Murmurs tag id w { w with client := bench.client } :=
    .of_asked rfl works.client.opensNone rfl rfl
  exact Murmurs.since (deliverNotices_murmurs _) (Murmurs.since
    (updateSession_murmurs _ fun _ => rfl) (asked.trans (.of_same rfl rfl rfl rfl)))

/-! ### The beginning -/

theorem connection_murmurs (w : World) : Murmurs tag id w (connection.run w).2 := by
  refine run_bind_moves (R := Murmurs tag id) (fun _ _ _ => .trans) (.refl w) fun w' _ => ?_
  split
  next => exact .refl w
  next =>
    refine run_bind_moves (R := Murmurs tag id) (fun _ _ _ => .trans) (request_murmurs ?_)
      fun connection _ => ?_
    · have works : w.client.Works (fun _ _ => False) (w.client.call .connect (·.connect)).2 :=
        w.client.call_works .connect .connect trivial fun _ => (Broker.Reply.ofResult_snd _ _).symm
      exact works.opensNone
    · refine run_bind_moves (R := Murmurs tag id) (fun _ _ _ => .trans) ?_ fun _ _ => .refl _
      exact .of_same rfl rfl rfl rfl

/-- A consumer without a channel has got hold of one, and no other was opened. -/
theorem hold_murmurs {c : Consumer} (found : w.consumers.get? id = some c)
    (without : c.channel = none) (channel : ManagedChannel)
    (opens : ∀ number, w'.client.broker.channelOpen number = true →
      number = channel.target ∨ w.client.broker.channelOpen number = true)
    (faults : ∀ fault ∈ w'.client.faults, ∃ earlier ∈ w.client.faults, earlier.op = fault.op)
    (plan : w'.plan = w.plan) (consumers : w'.consumers = w.consumers)
    (events : w'.chronicle.events = w.chronicle.events) :
    Murmurs tag id w (w'.updateConsumer id fun c => { c with channel := some channel }) := by
  have got : (w'.updateConsumer id fun c => { c with channel := some channel }).consumers.get? id =
      some { c with channel := some channel } := by
    rw [updateConsumer_get?, if_pos rfl, consumers, found]
    rfl
  refine ⟨plan, .inl ?_, fun _ => ⟨[], ?_, fun _ => nofun⟩, faults, fun number has => ?_,
    fun number opened => ?_⟩
  · rw [guise_eq got, guise_eq found]
    rfl
  · rw [List.append_nil]
    exact told_of_events events
  · rw [channelOf_eq found, without] at has
    cases has
  · obtain rfl | before := opens number opened
    · exact .inr (channelOf_eq got)
    · exact .inl before

/-- **A consumer without a channel gets hold of the one that it opens.** -/
theorem openChannel_murmurs (connection : Nat) {c : Consumer}
    (found : w.consumers.get? id = some c) (without : c.channel = none) :
    Murmurs tag id w ((openChannel id connection).run w).2 := by
  cases ran : w.client.call .createChannel
      (·.createChannel connection w.plan.settings.transacted) with
  | mk result client =>
    have asked : (request fun client => client.call .createChannel
        (·.createChannel connection w.plan.settings.transacted)).run w =
        (result, ({ w with client } : World).deliverNotices) := by
      rw [request_run, ran]
    unfold openChannel
    rw [run_get_bind]
    cases result with
    | error error =>
      rw [run_bind_error asked]
      have refused : w.client.Works (fun _ _ => False) client := createChannel_refused ran
      have called : Murmurs tag id w { w with client } := .of_asked rfl refused.opensNone rfl rfl
      exact called.trans (deliverNotices_murmurs _)
    | ok target =>
      rw [run_bind_ok asked]
      obtain ⟨opens, faults⟩ := Client.call_createChannel_opens ran
      have none := (deliverNotices_passes { w with client }).opensNone
      obtain ⟨handoffs, tasks, same⟩ := ({ w with client } : World).deliverNotices_shape
      refine hold_murmurs found without _ (fun number opened => opens number (none.channels number
        opened)) (fun fault armed => faults ▸ none.faults fault armed) ?_ ?_ ?_
      all_goals rw [same]

theorem subscribe_murmurs (queue requested : String) (channel : ManagedChannel) :
    Moves (Murmurs tag id) (subscribe id queue requested channel) := by
  refine bind_murmurs (get_moves .refl) fun w => bind_murmurs
    (modify_moves fun _ => .of_same rfl rfl rfl rfl) fun _ => bind_murmurs (fun w => ?_) fun _ =>
      bind_murmurs (modify_moves fun _ => .of_same rfl rfl rfl rfl) fun _ => pure_moves .refl _
  exact request_murmurs (w.client.consume_opensNone _ queue requested _ id)

theorem requestedTag_murmurs (queue : String) : Moves (Murmurs tag id) (requestedTag queue) := by
  refine bind_murmurs (get_moves .refl) fun w => ?_
  split
  next => exact pure_moves .refl _
  next => exact pure_moves .refl _
  next =>
    exact bind_murmurs (get_moves .refl) fun _ => bind_murmurs
      (modify_moves fun _ => .of_same rfl rfl rfl rfl) fun _ => pure_moves .refl _

theorem pollingTag_murmurs (queue requested : String) :
    Moves (Murmurs tag id) (pollingTag queue requested) := by
  unfold pollingTag
  split
  next =>
    exact bind_murmurs (get_moves .refl) fun _ => bind_murmurs
      (modify_moves fun _ => .of_same rfl rfl rfl rfl) fun _ => pure_moves .refl _
  next => exact pure_moves .refl _

/-- How the opening of a session may end. -/
def OpensQuietly (id : Nat) (c : Consumer) (w : World) : Except ClientError Unit × World → Prop
  | (.ok (), w') => ∃ (middle : World) (session : Session),
      Murmurs none id w middle ∧ w' = middle.beginSession id c.run c.queue session
  | (.error _, w') => Murmurs none id w w'

/-- **A consumer opens its session without a word until it begins**, or fails to. -/
theorem openSession_opensQuietly {c : Consumer} (found : w.consumers.get? id = some c)
    (without : c.channel = none) : OpensQuietly id c w ((openSession id c).run w) := by
  have connects : Murmurs none id w (connection.run w).2 := connection_murmurs w
  have known : (connection.run w).2.consumers.get? id = some c := by
    rw [(connection_passes w).consumers]
    exact found
  unfold openSession
  rw [run_get_bind]
  refine run_bind_either (P := fun middle => Murmurs none id w middle ∧
    middle.consumers.get? id = some c) ⟨connects, known⟩ (fun connection w₁ _ reached => ?_)
    fun _ _ reached => reached.1
  have opens : Murmurs none id w ((openChannel id connection).run w₁).2 :=
    reached.1.trans (openChannel_murmurs connection reached.2 without)
  refine run_bind_either (P := Murmurs none id w) opens (fun channel w₂ _ opened => ?_)
    fun _ _ murmurs => murmurs
  have limits : Murmurs none id w₂ ((request fun client => client.call .setPrefetch
      (·.setPrefetch channel.target w.plan.settings.prefetch)).run w₂).2 := by
    have works : w₂.client.Works (fun _ _ => False) (w₂.client.call .setPrefetch
        (·.setPrefetch channel.target w.plan.settings.prefetch)).2 :=
      w₂.client.call_works .setPrefetch (.setPrefetch channel.target w.plan.settings.prefetch)
        trivial fun _ => (Broker.Reply.ofDone_snd _).symm
    exact request_murmurs works.opensNone
  refine run_bind_either (P := Murmurs none id w) (opened.trans limits) (fun _ w₃ _ limited => ?_)
    fun _ _ murmurs => murmurs
  refine run_bind_either (P := Murmurs none id w)
    (limited.trans (requestedTag_murmurs c.queue w₃)) (fun requested w₄ _ chosen => ?_)
    fun _ _ murmurs => murmurs
  split
  next =>
    exact run_bind_either (P := Murmurs none id w)
      (chosen.trans (subscribe_murmurs c.queue requested channel w₄))
      (fun _ w₅ _ murmurs => ⟨w₅, _, murmurs, rfl⟩) fun _ _ murmurs => murmurs
  next =>
    exact run_bind_either (P := Murmurs none id w)
      (chosen.trans (pollingTag_murmurs c.queue requested w₄))
      (fun _ w₅ _ murmurs => ⟨w₅, _, murmurs, rfl⟩) fun _ _ murmurs => murmurs

/-- The beginning of a session is told. -/
theorem beginSession_told (w : World) (sink : w.plan.hasSink = true) (id run : Nat) (queue : String)
    (session : Session) : (w.beginSession id run queue session).told =
      w.told ++ [.consumeOk queue session.consumerTag] := by
  have told : ∀ w : World, w.plan.hasSink = true → (w.publish (.consumeOk queue
      session.consumerTag)).told = w.told ++ [.consumeOk queue session.consumerTag] :=
    fun w sink => publish_told sink _
  exact told (w.updateConsumer id _) sink

/-! ### The end -/

/-- A consumer that has let its channel go has none to let go. -/
theorem releaseChannel_again (w : World) (id : Nat) :
    ((w.releaseChannel id).2.releaseChannel id).2 = (w.releaseChannel id).2 := by
  obtain same | ⟨channel, has, same⟩ := (w.releaseChannel id).2.releaseChannel_shape id
  · exact same
  · rw [releaseChannel_get?, if_pos rfl] at has
    cases found : w.consumers.get? id with
    | none =>
      rw [found] at has
      cases has
    | some c =>
      rw [found] at has
      cases has

/-- So the end of a consumer is the same after that. -/
theorem finish_of_released (w : World) (id : Nat) (result : Except ClientError Unit) :
    (w.releaseChannel id).2.finish id result = w.finish id result := by
  unfold finish
  rw [releaseChannel_again]

/-- Work of a consumer that is no beginning, and maybe its end. -/
def Utters (tag : Option String) (id : Nat) (w w' : World) : Prop :=
  ∃ middle, Murmurs tag id w middle ∧
    (w' = middle ∨ ∃ result, w' = middle.finish id result)

theorem Murmurs.utters (murmurs : Murmurs tag id w w') : Utters tag id w w' :=
  ⟨w', murmurs, .inl rfl⟩

theorem finish_utters (w : World) (result : Except ClientError Unit) :
    Utters tag id w (w.finish id result) := ⟨w, .refl w, .inr ⟨result, rfl⟩⟩

/-- What comes last is looked at first. -/
theorem Utters.since (last : Utters tag id w' w'') (first : Murmurs tag id w w') :
    Utters tag id w w'' := by
  obtain ⟨middle, murmurs, ends⟩ := last
  exact ⟨middle, first.trans murmurs, ends⟩

theorem fail_utters (w : World) (s : Session) (error : ClientError) :
    Utters tag id w (w.fail id s error).2 := finish_utters w _

theorem proceed_utters (w : World) (s : Session) {work : WorldWork Unit}
    (murmurs : Moves (Murmurs tag id) work) : Utters tag id w (w.proceed id s work).2 := by
  have worked := murmurs w
  unfold proceed
  split
  next w' done =>
    rw [done] at worked
    exact (worked.trans (setPhase_murmurs w' (by rfl))).utters
  next error w' failed =>
    rw [failed] at worked
    exact (fail_utters w' s error).since worked

theorem call_murmurs (w : World) (delivery : Delivery) (transaction : Option TransactionHandle) :
    Murmurs tag id w (w.call id delivery transaction).2 := setPhase_murmurs w rfl

theorem process_utters (w : World) (s : Session) (delivery : Delivery) :
    Utters tag id w (w.process id s delivery).2 := by
  have counted : Murmurs tag id w (w.updateConsumer id fun c =>
      { c with
        idleStreak := 0
        activeStreak := c.activeStreak + 1
        deliveries := c.deliveries + 1
        lastDelivery := w.now }) := .of_written fun _ _ => ⟨.inl rfl, rfl⟩
  have begun : ∀ (w : World) (service : TransactionService Nat),
      Murmurs tag id w { w with service } := fun _ _ => .of_same rfl rfl rfl rfl
  unfold process
  dsimp only
  split
  next =>
    exact (proceed_utters _ s (atDesk_murmurs fun post =>
      Desk.turnAway_asks post delivery.tag)).since counted
  next =>
    split
    next =>
      split
      next => exact ((counted.trans (begun _ _)).trans (call_murmurs _ delivery _)).utters
      next =>
        exact (proceed_utters _ s (atDesk_murmurs fun post => Desk.settle_asks post _ _)).since
          (counted.trans (begun _ _))
    next => exact (counted.trans (call_murmurs _ delivery none)).utters

/-- A consumer that receives nothing may tell so. -/
theorem idle_utters (w : World) (s : Session) :
    Utters (some s.consumerTag) id w (w.idle id s).2 := by
  unfold idle
  dsimp only
  refine Utters.since (proceed_utters _ s ?_) (.of_written fun _ _ => ⟨.inl rfl, rfl⟩)
  refine bind_murmurs (atDesk_murmurs Desk.flush_asks) fun _ =>
    bind_murmurs (get_moves .refl) fun w => ?_
  split
  next interval _ => exact modify_moves fun w => tellIdle_murmurs w s interval
  next => exact pure_moves .refl _

theorem listen_utters (w : World) (c : Consumer) (s : Session) (work : Listening) :
    Utters tag id w (w.listen id c s work).2 := by
  unfold listen
  split
  next =>
    have put : Murmurs tag id w (w.putBench id work.call.delivery
        (work.call.resume w.plan.listener (w.bench s)).2) :=
      putBench_murmurs w s _ (work.call.resume_free w.plan.listener (w.bench s))
    dsimp only
    split
    next =>
      split
      next => exact (put.trans (setPhase_murmurs _ (by rfl))).utters
      next =>
        exact (put.trans (setPhase_setTimer_murmurs _ (by rfl) _ _)).utters
    next result _ =>
      exact (proceed_utters _ s (settle_murmurs s _ _ _)).since
        (put.trans (recordAnswer_murmurs _ c work result))
  next => exact (Murmurs.refl w).utters

theorem takeParcel_murmurs (w : World) (handoff : Handoff) (rest : List Parcel) :
    Murmurs tag id w (w.takeParcel id handoff rest) := .of_same rfl rfl rfl rfl

theorem receivePushed_utters (w : World) (s : Session) (deadline : Option Instant) :
    Utters (some s.consumerTag) id w (w.receivePushed id s deadline).2 := by
  unfold receivePushed
  split
  next => exact fail_utters w s _
  next handoff _ =>
    split
    next delivery rest _ =>
      have taken : Murmurs (some s.consumerTag) id w
          ((w.takeParcel id handoff rest).cancelTimer (.consumer id) .deadline) :=
        (takeParcel_murmurs w handoff rest).trans (.of_same rfl rfl rfl rfl)
      exact (process_utters _ s delivery).since taken
    next => exact (fail_utters _ s _).since (takeParcel_murmurs w handoff _)
    next => exact (fail_utters _ s _).since (takeParcel_murmurs w handoff _)
    next =>
      split
      next => exact fail_utters w s _
      next =>
        split
        next =>
          split
          next => exact idle_utters w s
          next => exact (Murmurs.refl w).utters
        next => exact (setPhase_setTimer_murmurs w (by rfl) _ _).utters

theorem receivePolled_utters (w : World) (c : Consumer) (s : Session) (interval : Duration)
    (deadline : Instant) :
    Utters (some s.consumerTag) id w (w.receivePolled id c s interval deadline).2 := by
  have asked : Murmurs (some s.consumerTag) id w ((request fun client => client.call .get
      (·.get s.channel.target c.queue w.plan.settings.ackMode.unacknowledged)).run w).2 := by
    have works : w.client.Works (fun _ _ => False) (w.client.call .get (·.get s.channel.target
        c.queue w.plan.settings.ackMode.unacknowledged)).2 := w.client.get_works _ _ _
    exact request_murmurs works.opensNone
  unfold receivePolled
  dsimp only
  split
  next error w' failed =>
    rw [failed] at asked
    exact (fail_utters w' s error).since asked
  next delivery w' answered =>
    rw [answered] at asked
    exact (process_utters w' s delivery).since asked
  next w' answered =>
    rw [answered] at asked
    split
    next => exact (idle_utters w' s).since asked
    next =>
      exact (asked.trans (setPhase_setTimer_murmurs w' (by rfl) _ _)).utters

theorem cancelSubscription_murmurs (w : World) (s : Session) :
    Murmurs tag id w (w.cancelSubscription s) := by
  unfold cancelSubscription
  split
  next => exact .refl w
  next =>
    have works : w.client.Works (fun _ _ => False)
        (w.client.call .cancel (·.cancel s.channel.target s.consumerTag)).2 :=
      w.client.call_works .cancel (.cancel s.channel.target s.consumerTag) trivial
        fun _ => (Broker.Reply.ofDone_snd _).symm
    have asked : Murmurs tag id w { w with
        client := (w.client.call .cancel (·.cancel s.channel.target s.consumerTag)).2 } :=
      .of_asked rfl works.opensNone rfl rfl
    exact asked.trans (deliverNotices_murmurs _)

theorem drainHandoff_murmurs (w : World) : Murmurs tag id w (w.drainHandoff id).2 := by
  unfold drainHandoff
  split <;> exact .of_same rfl rfl rfl rfl

theorem forIn_murmurs {items : List α} {each : α → WorldWork Unit}
    (murmurs : ∀ item, Moves (Murmurs tag id) (each item)) :
    Moves (Murmurs tag id) (forIn items PUnit.unit fun item _ => do
      each item
      return ForInStep.yield PUnit.unit) :=
  forIn_moves .refl (fun _ _ _ => .trans) murmurs

/-- How the end of a session may look: the consumer has let its channel go, unless something failed
before. -/
def Closes (tag : Option String) (id : Nat) (w : World)
    (answer : Except ClientError Unit × World) : Prop :=
  ∃ middle, Murmurs tag id w middle ∧
    (answer.2 = middle ∨ answer.2 = (middle.releaseChannel id).2)

/-- A session closes without a word. -/
theorem closeSession_closes (w : World) (s : Session) :
    Closes tag id w ((closeSession id s).run w) := by
  have stops : ∀ (error : ClientError) (w' : World), Murmurs tag id w w' →
      Closes tag id w (.error error, w') := fun _ w' murmurs => ⟨w', murmurs, .inl rfl⟩
  have cancels : Murmurs tag id w ((w.updateConsumer id fun c =>
      { c with state := .cancelling }).cancelSubscription s) :=
    (cancelSubscription_murmurs _ s).since (.of_written fun _ _ => ⟨.inl rfl, rfl⟩)
  unfold closeSession
  rw [run_modify_bind]
  refine run_bind_either (P := Murmurs tag id w)
    (cancels.trans (atDesk_murmurs Desk.flush_asks _)) (fun _ w₁ _ flushed => ?_) stops
  refine run_bind_either (P := Murmurs tag id w) (flushed.trans (drainHandoff_murmurs w₁))
    (fun deliveries w₂ _ drained => ?_) stops
  refine run_bind_either (P := Murmurs tag id w) ?_
    (fun _ w₃ _ murmurs => ⟨w₃, murmurs, .inr rfl⟩) stops
  have turnsAway : ∀ delivery : Delivery, Moves (Murmurs tag id)
      (atDesk id fun post => Desk.turnAway post delivery.tag) := fun delivery =>
    atDesk_murmurs fun post => Desk.turnAway_asks post delivery.tag
  exact drained.trans (forIn_murmurs turnsAway w₂)

/-- **The end of a session is not told before the end of the consumer.** -/
theorem stopReceiving_utters (w : World) (s : Session) :
    Utters tag id w (w.stopReceiving id s).2 := by
  have untimed : Murmurs tag id w (w.cancelTimer (.consumer id) .deadline) :=
    .of_same rfl rfl rfl rfl
  have closed : Closes tag id (w.cancelTimer (.consumer id) .deadline) _ :=
    closeSession_closes (w.cancelTimer (.consumer id) .deadline) s
  have ends : (w.stopReceiving id s).2 =
      ((closeSession id s).run (w.cancelTimer (.consumer id) .deadline)).2.finish id
        ((closeSession id s).run (w.cancelTimer (.consumer id) .deadline)).1 := rfl
  obtain ⟨middle, murmurs, same | released⟩ := closed
  · exact ⟨middle, untimed.trans murmurs, .inr ⟨_, by rw [ends, same]⟩⟩
  · exact ⟨middle, untimed.trans murmurs, .inr ⟨_, by rw [ends, released, finish_of_released]⟩⟩

/-- **A turn of a consumer in its session** tells at most that it is idle, and its end. -/
theorem receive_utters (w : World) (c : Consumer) (s : Session) :
    Utters (some s.consumerTag) id w (w.receive id c s).2 := by
  have rests : Utters (some s.consumerTag) id w w := (Murmurs.refl w).utters
  unfold receive
  split
  next deadline _ =>
    split
    next => exact stopReceiving_utters w s
    next =>
      split
      next => exact receivePushed_utters w s deadline
      next => exact receivePolled_utters w c s _ _
  next =>
    split
    next => exact stopReceiving_utters w s
    next =>
      split
      next => exact rests
      next =>
        split
        next => exact receivePolled_utters w c s _ _
        next => exact rests
  next work _ => exact listen_utters w c s work
  next => exact rests
  next => exact rests

/-! ### Whole turns -/

theorem releaseChannel_told (w : World) (id : Nat) : (w.releaseChannel id).2.told = w.told := by
  obtain same | ⟨channel, -, same⟩ := w.releaseChannel_shape id
  · rw [same]
  · rw [same]
    obtain ⟨handoffs, tasks, delivered⟩ := (({ w with client := (channel.release w.client).2.2 } :
      World).updateConsumer id fun c => { c with channel := none }).deliverNotices_shape
    rw [delivered]
    rfl

/-- A consumer lets its channel go and ends, and that is told. -/
structure Departs (id : Nat) (c : Consumer) (event : Event) (w w' : World) : Prop where
  plan : w'.plan = w.plan
  told : w.plan.hasSink = true → w'.told = w.told ++ [event]
  ended : ∃ state, w'.consumers.get? id = some { c with channel := none, state, phase := .finished }
  others : ∀ other, other ≠ id → w'.consumers.get? other = w.consumers.get? other
  client : w'.client = (w.releaseChannel id).2.client

theorem ended_departs {c : Consumer} (found : w.consumers.get? id = some c) (metrics : Metrics)
    (state : ConsumerState) (event : Event) (report : Option Report) : Departs id c event w
      ((((({ (w.releaseChannel id).2 with metrics } : World).updateConsumer id fun c =>
        { c with state }).publish event).reportAny c.run report).retireTask id) := by
  have consumers := ended_consumers (w.releaseChannel id).2 id c.run metrics state event report
  have plan : (w.releaseChannel id).2.plan = w.plan := (releaseChannel_quiet w id).plan
  refine ⟨(end_quiet (w.releaseChannel id).2 id c.run metrics state event report).plan.trans plan,
    fun sink => ?_, ⟨state, ?_⟩, fun other differ => ?_,
    (ended_frame (w.releaseChannel id).2 id c.run metrics state event report).1⟩
  · have told : ∀ w : World, w.plan.hasSink = true →
        (((w.publish event).reportAny c.run report).retireTask id).told = w.told ++ [event] := by
      intro w sink
      rw [← publish_told sink event]
      exact congrArg (fun chronicle : Chronicle => chronicle.events.toList.map (·.2))
        (reportAny_chronicle (w.publish event) c.run report)
    rw [told _ (plan ▸ sink), ← releaseChannel_told w id]
    rfl
  · rw [consumers, Table.get?_modify_self, Table.get?_modify_self, releaseChannel_get?, if_pos rfl,
      found]
    rfl
  · rw [consumers, Table.get?_modify_of_ne _ _ differ, Table.get?_modify_of_ne _ _ differ,
      releaseChannel_get?, if_neg differ]

/-- **A consumer that ends tells so**, as a failure only if it was not asked to stop. -/
theorem finish_departs {c : Consumer} (found : w.consumers.get? id = some c)
    (result : Except ClientError Unit) :
    Departs id c (c.lastWord result) w (w.finish id result) := by
  have released : (w.releaseChannel id).2.consumers.get? id = some { c with channel := none } := by
    rw [releaseChannel_get?, if_pos rfl, found]
    rfl
  have terminates : Departs id c (.consumerTerminated c.queue c.tag) w
      (((w.releaseChannel id).2.tellTermination id { c with channel := none }).retireTask id) :=
    ended_departs found _ .terminated _ (some (.terminated id c.queue))
  unfold finish Consumer.lastWord
  dsimp only
  rw [released]
  dsimp only
  cases result with
  | ok => exact terminates
  | error error =>
    cases c.stopRequested with
    | true => exact terminates
    | false => exact ended_departs found _ .failed _ (some (.failed id c.queue error))

/-- **A consumer that is ended by force is told to have terminated**, unless it had. -/
theorem forceClose_departs {c : Consumer} (found : w.consumers.get? id = some c)
    (living : c.state ≠ .terminated) :
    Departs id c (.consumerTerminated c.queue c.tag) w (w.forceClose id) := by
  have released : (w.releaseChannel id).2.consumers.get? id = some { c with channel := none } := by
    rw [releaseChannel_get?, if_pos rfl, found]
    rfl
  unfold forceClose
  dsimp only
  rw [released]
  dsimp only
  rw [if_neg living]
  exact ended_departs found _ .terminated _ none

/-- What may be heard of a consumer in its turn. -/
inductive Heard (id : Nat) (w w' : World) : Prop
  | nothing (same : w' = w)
  /-- It has begun its session. -/
  | began {c : Consumer} {middle : World} {session : Session}
      (found : w.consumers.get? id = some c) (opening : c.phase = .opening)
      (murmurs : Murmurs none id w middle)
      (begun : w' = middle.beginSession id c.run c.queue session)
  /-- It went on in its session. -/
  | went {c : Consumer} {s : Session} (found : w.consumers.get? id = some c)
      (opened : c.session = some s) (working : c.phase.stage = .working)
      (murmurs : Murmurs (some s.consumerTag) id w w')
  /-- It has ended, perhaps after some more work. -/
  | ended {c : Consumer} {tag : Option String} {middle : World} {result : Except ClientError Unit}
      (found : w.consumers.get? id = some c) (busy : c.phase ≠ .finished)
      (silent : c.phase = .opening → tag = none)
      (own : ∀ own ∈ tag, c.session.map (·.consumerTag) = some own)
      (murmurs : Murmurs tag id w middle) (ends : w' = middle.finish id result)

/-- **What is heard of a consumer in its turn.** -/
theorem consumerTurn_heard (unopened : w.Unopened) (id : Nat) :
    Heard id w (w.consumerTurn id).2 := by
  unfold consumerTurn
  split
  next => exact .nothing rfl
  next c found =>
    split
    next opening =>
      have opens := openSession_opensQuietly found (unopened id c found opening)
      split
      next w' done =>
        rw [done] at opens
        obtain ⟨middle, session, murmurs, begun⟩ := opens
        exact .began found opening murmurs begun
      next error w' failed =>
        rw [failed] at opens
        refine .ended found ?_ (fun _ => rfl) (fun _ => nofun) opens rfl
        rw [opening]
        exact nofun
    next => exact .nothing rfl
    next s opened begun busy =>
      have working : c.phase.stage = .working := by
        cases phase : c.phase with
        | opening => exact absurd phase begun
        | finished => exact absurd phase busy
        | receiving | polling | listening => rfl
      have utters : Utters (some s.consumerTag) id w (w.receive id c s).2 := receive_utters w c s
      obtain ⟨middle, murmurs, same | ⟨result, ends⟩⟩ := utters
      · exact .went found opened working (same ▸ murmurs)
      · refine .ended found busy (fun opening => absurd opening begun) ?_ murmurs ends
        rintro _ ⟨⟩
        rw [opened]
        rfl
    next => exact .nothing rfl

end World

end QueueListener
