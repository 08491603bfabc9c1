import QueueListener.Proofs.Container.GivingBack
import QueueListener.Proofs.Container.Offices
import QueueListener.Proofs.Container.Opening
/-!
# The scenes of a life

**Something is told of a consumer at its own turns, and when it is ended by force, and nowhere else.**
In each of these scenes its life goes on: at most once its session begins, then it may tell any number
of times that it is idle, and it ends once.

* `Life`, `Guise.Told` — what may be told of a consumer;
* `Scene`, `World.scenesOf` — the scenes of a run;
* `World.Speaks` — what happens in one scene;
* `take_consumer_speaks`, `forceClose_speaks` — the two kinds of scenes.
-/

namespace QueueListener

/-- What may be told of a consumer before its end: nothing until its session begins, and then that it
has begun, and any number of times that it is idle. -/
inductive Life (queue : String) : Option String → List Event → Prop
  | silent : Life queue none []
  | begun {tag : String} {idles : List Event}
      (only : ∀ event ∈ idles, ∃ since length, event = .idle queue tag since length) :
      Life queue (some tag) (.consumeOk queue tag :: idles)

/-- A consumer tells again that it is idle. -/
theorem Life.rests {queue tag : String} {log idles : List Event} (life : Life queue (some tag) log)
    (only : ∀ event ∈ idles, ∃ since length, event = .idle queue tag since length) :
    Life queue (some tag) (log ++ idles) := by
  cases life with
  | begun before =>
    exact .begun fun event among => (List.mem_append.mp among).elim (before event) (only event)

/-- Whether an event tells of a failure. -/
def Event.isFailure : Event → Bool
  | .consumerFailed .. => true
  | _ => false

theorem Event.isOfConsumer_of_ending {event : Event} {who : String × Option String}
    (ends : event.ending? = some who) : event.isOfConsumer = true := by
  cases event with
  | consumerFailed | consumerTerminated => rfl
  | _ => cases ends

namespace Guise

variable {g : Guise} {log : List Event}

/-- **What is told of a consumer**: its life, and exactly one end once it is finished. -/
inductive Told (g : Guise) : List Event → Prop
  | going {log : List Event} (busy : g.stage ≠ .finished) (life : Life g.queue g.tag log) :
      Told g log
  | ended {log : List Event} {event : Event} (finished : g.stage = .finished)
      (life : Life g.queue g.tag log) (ends : event.ending? = some (g.queue, g.tag)) :
      Told g (log ++ [event])

/-- A consumer at its beginning has no tag yet, and one at work has that of its session. -/
structure Kept (g : Guise) : Prop where
  opening : g.stage = .opening → g.tag = none
  working : g.stage = .working → g.tag = g.sessionTag

/-- What was told of a consumer fits its guise. Of one that was not started nothing was told. -/
inductive Lives : Option Guise → List Event → Prop
  | absent : Lives none []
  | present {g : Guise} {log : List Event} (kept : g.Kept) (told : g.Told log) : Lives (some g) log

theorem Told.life (told : g.Told log) (busy : g.stage ≠ .finished) : Life g.queue g.tag log := by
  cases told with
  | going _ life => exact life
  | ended finished => exact absurd finished busy

theorem Lives.nothing (lives : Lives none log) : log = [] := by
  cases lives
  rfl

/-- Of a consumer at its beginning nothing was told. -/
theorem Lives.opening (lives : Lives (some g) log) (opening : g.stage = .opening) : log = [] := by
  cases lives with
  | present kept told =>
    have life := told.life (opening ▸ nofun)
    rw [kept.opening opening] at life
    cases life
    rfl

end Guise

/-- An occasion on which something may be told of a consumer, with the world before and after. -/
structure Scene where
  id : Nat
  before : World
  after : World

/-- What is told on it. -/
def Scene.tells (scene : Scene) : List Event :=
  scene.after.told.drop scene.before.told.length

/-- A channel is opened on it. -/
def Scene.Opens (scene : Scene) (channel : Nat) : Prop :=
  scene.before.client.broker.channelOpen channel = false ∧
    scene.after.client.broker.channelOpen channel = true

/-- What is told of a consumer on all of them. -/
def lifeOf (scenes : List Scene) (id : Nat) : List Event :=
  (scenes.filter fun scene => scene.id = id).flatMap Scene.tells

/-- A consumer has opened a channel on one of them. -/
def Opened (scenes : List Scene) (id channel : Nat) : Prop :=
  ∃ scene ∈ scenes, scene.id = id ∧ scene.Opens channel

instance (scenes : List Scene) (id channel : Nat) : Decidable (Opened scenes id channel) :=
  inferInstanceAs (Decidable (∃ scene ∈ scenes, scene.id = id ∧
    scene.before.client.broker.channelOpen channel = false ∧
      scene.after.client.broker.channelOpen channel = true))

namespace World

variable {starts : Bool} {w w' w'' : World} {id channel : Nat} {tag : Option String}
  {words : List Event} {log : List Event} {task : Task}

/-- Consumers are ended by force, one after the other. -/
def forced (w : World) : List Nat → List Scene
  | [] => []
  | id :: ids => ⟨id, w, w.forceClose id⟩ :: (w.forceClose id).forced ids

/-- The scenes of a move: the turn of a consumer, or those who are ended by force. -/
def scenes (w : World) : Move → List Scene
  | .turn (.consumer id) => [⟨id, w, w.take (.consumer id)⟩]
  | .turn task => ({ w with agenda := w.agenda.give task } : World).forced (w.late task)
  | _ => []

/-- The scenes of a run. -/
def scenesOf (w : World) : List Move → List Scene
  | [] => []
  | move :: moves => w.scenes move ++ (w.follow move).scenesOf moves

/-- A consumer has not ended. -/
def Going (w : World) (id : Nat) : Prop :=
  ∀ c, w.consumers.get? id = some c → c.phase ≠ .finished

/-- A channel belongs to a consumer as long as it is open. -/
def Owns (w : World) (id channel : Nat) : Prop :=
  w.client.broker.channelOpen channel = true → w.channelOf id = some channel

/-- The client refuses to close the channel of a consumer, which is the last thing that the consumer
does, and it was made to refuse that. -/
structure Refuses (tag : Option String) (id channel : Nat) (w w' : World) : Prop where
  armed : ∃ fault ∈ w.client.faults, fault.op = .close
  refused : ∃ (middle : World) (error : ClientError), Murmurs tag id w middle ∧
    middle.channelOf id = some channel ∧ (middle.releaseChannel id).1 = .error error ∧
      w'.client = (middle.releaseChannel id).2.client

/-- What is so at the end of a consumer: it fails only if it was not asked to stop, and its channel
is closed then, unless the client refused that. -/
structure Ends (id : Nat) (event : Event) (w w' : World) : Prop where
  going : w.Going id
  failed : event.isFailure = true → ∃ c, w.consumers.get? id = some c ∧ c.stopRequested = false
  closed : ∀ channel, w.Owns id channel →
    w'.client.broker.channelOpen channel = false ∨ ∃ tag, Refuses tag id channel w w'

/-- Something happens to one consumer, and these words are told of it. -/
structure Speaks (id : Nat) (words : List Event) (w w' : World) : Prop where
  plan : w'.plan = w.plan
  broker : w.client.broker.Matures w'.client.broker
  others : ∀ other, other ≠ id → w'.consumers.get? other = w.consumers.get? other
  told : w'.told = w.told ++ words
  ofConsumer : ∀ event ∈ words, event.isOfConsumer = true
  lives : ∀ log, Guise.Lives (w.guise id) log → Guise.Lives (w'.guise id) (log ++ words)
  going : w'.Going id → w.Going id ∧ ∀ channel, w.Owns id channel → w'.Owns id channel
  ends : ∀ event ∈ words, event.ending?.isSome = true → Ends id event w w'

theorem Speaks.tells (speaks : Speaks id words w w') : (Scene.mk id w w').tells = words := by
  unfold Scene.tells
  dsimp only
  rw [speaks.told, List.drop_left]

/-- Nothing happens. -/
theorem Speaks.refl (id : Nat) (w : World) : Speaks id [] w w where
  plan := rfl
  broker := .refl _
  others _ _ := rfl
  told := (List.append_nil _).symm
  ofConsumer _ := nofun
  lives log lives := by rwa [List.append_nil]
  going going := ⟨going, fun _ owns => owns⟩
  ends _ := nofun

/-! ### A consumer goes on -/

theorem Murmurs.owns (murmurs : Murmurs tag id w w') (owns : w.Owns id channel) :
    w'.Owns id channel := by
  intro opened
  obtain before | has := murmurs.opens channel opened
  · exact murmurs.held channel (owns before)
  · exact has

/-- Without a tag nothing is told. -/
theorem Murmurs.silent (murmurs : Murmurs none id w w') (sink : w.plan.hasSink = true) :
    w'.told = w.told := by
  obtain ⟨idles, told, only⟩ := murmurs.told sink
  have nothing : idles = [] := List.eq_nil_iff_forall_not_mem.mpr fun event among => by
    obtain ⟨g, name, since, length, -, none, -⟩ := only event among
    cases none
  rw [told, nothing, List.append_nil]

/-- **A consumer that murmurs tells no more than that it is idle**, and that only in its session. -/
theorem Murmurs.rests (murmurs : Murmurs tag id w w') (sink : w.plan.hasSink = true) {c : Consumer}
    (found : w.consumers.get? id = some c) (busy : c.phase ≠ .finished)
    (silent : c.phase = .opening → tag = none)
    (own : ∀ own ∈ tag, c.session.map (·.consumerTag) = some own) :
    ∃ idles, w'.told = w.told ++ idles ∧
      (∀ event ∈ idles, event.isOfConsumer = true ∧ event.ending? = none) ∧
      ∀ log, c.guise.Kept → Life c.queue c.tag log → Life c.queue c.tag (log ++ idles) := by
  cases tag with
  | none =>
    refine ⟨[], by rw [murmurs.silent sink, List.append_nil], fun _ => nofun, fun log _ life => ?_⟩
    rwa [List.append_nil]
  | some name =>
    obtain ⟨idles, told, only⟩ := murmurs.told sink
    have known : ∀ event ∈ idles, ∃ since length, event = .idle c.queue name since length := by
      intro event among
      obtain ⟨g, name', since, length, known, same, rfl⟩ := only event among
      cases same
      rw [guise_eq found] at known
      cases known
      exact ⟨since, length, rfl⟩
    refine ⟨idles, told, fun event among => ?_, fun log kept life => ?_⟩
    · obtain ⟨since, length, rfl⟩ := known event among
      exact ⟨rfl, rfl⟩
    · have working : c.guise.stage = .working := by
        cases stage : c.guise.stage with
        | working => rfl
        | opening => cases silent (Phase.stage_eq_opening.mp stage)
        | finished => exact absurd (Phase.stage_eq_finished.mp stage) busy
      have tagged : c.tag = some name := (kept.working working).trans (own name rfl)
      rw [tagged] at life ⊢
      exact life.rests known

/-- A consumer that murmurs is still there, and what may be told of it is the same but for its
stage. -/
theorem Murmurs.stays (murmurs : Murmurs tag id w w') {c : Consumer}
    (found : w.consumers.get? id = some c) :
    ∃ c', w'.consumers.get? id = some c' ∧ (c'.guise = c.guise ∨ c'.guise = c.guise.atWork) ∧
      c'.queue = c.queue ∧ c'.tag = c.tag ∧ c'.stopRequested = c.stopRequested := by
  have known := guise_eq found
  have told : ∃ g, w'.guise id = some g ∧ (g = c.guise ∨ g = c.guise.atWork) := by
    obtain same | works := murmurs.guise
    · exact ⟨c.guise, same.trans known, .inl rfl⟩
    · exact ⟨c.guise.atWork, works.trans (by rw [known]; rfl), .inr rfl⟩
  obtain ⟨g, known', guise⟩ := told
  obtain ⟨c', found', rfl⟩ := Option.map_eq_some_iff.mp known'
  have fields : c'.guise.queue = c.guise.queue ∧ c'.guise.tag = c.guise.tag ∧
      c'.guise.stopRequested = c.guise.stopRequested := by
    obtain same | works := guise
    · rw [same]
      exact ⟨rfl, rfl, rfl⟩
    · rw [works]
      exact ⟨rfl, rfl, rfl⟩
  exact ⟨c', found', guise, fields⟩

/-! ### A consumer ends -/

theorem releaseChannel_opensNone (w : World) (id : Nat) :
    w.client.OpensNone (w.releaseChannel id).2.client := by
  obtain same | ⟨channel, -, same⟩ := w.releaseChannel_shape id
  · rw [same]
    exact .refl _
  · rw [same]
    have works : w.client.Works (fun _ _ => False) (channel.release w.client).2.2 :=
      channel.release_works w.client
    refine works.opensNone.trans ?_
    exact (deliverNotices_passes (updateConsumer { w with client := (channel.release w.client).2.2 }
      id fun c => { c with channel := none })).opensNone

/-- **A consumer that lets its channel go closes it**, unless the client was made to refuse that. -/
theorem releaseChannel_closes (owns : w.Owns id channel)
    (opened : (w.releaseChannel id).2.client.broker.channelOpen channel = true) :
    Refuses tag id channel w (w.releaseChannel id).2 := by
  have belongs := owns ((releaseChannel_opensNone w id).channels channel opened)
  obtain ⟨managed, has, rfl⟩ := Option.map_eq_some_iff.mp belongs
  have still : (managed.release w.client).2.2.broker.channelOpen managed.target = true := by
    unfold releaseChannel at opened
    rw [has] at opened
    exact (deliverNotices_passes (updateConsumer
      { w with client := (managed.release w.client).2.2 } id fun c =>
        { c with channel := none })).opensNone.channels _ opened
  constructor
  · by_contra none
    have faultless : ∀ fault ∈ w.client.faults, fault.op ≠ .close := fun fault armed same =>
      none ⟨fault, armed, same⟩
    exact Bool.false_ne_true ((managed.release_closes w.client faultless).symm.trans still)
  · cases done : (managed.release w.client).1 with
    | ok =>
      rw [managed.release_of_ok done, Broker.channelOpen, Broker.closeChannel_closes] at still
      cases still
    | error error =>
      refine ⟨w, error, .refl w, belongs, ?_, rfl⟩
      unfold releaseChannel
      rw [has]
      exact done

/-- What is refused after some work is refused after all. -/
theorem Refuses.since (refuses : Refuses tag id channel w' w'') (murmurs : Murmurs tag id w w') :
    Refuses tag id channel w w'' := by
  obtain ⟨⟨fault, armed, close⟩, middle, error, later, belongs, refused, client⟩ := refuses
  obtain ⟨earlier, armed', same⟩ := murmurs.faults fault armed
  exact ⟨⟨earlier, armed', same.trans close⟩,
    middle, error, murmurs.trans later, belongs, refused, client⟩

/-- **A consumer that ends is told to have ended**, with the channel that it had closed. -/
theorem Departs.lives {c : Consumer} {event : Event} (departs : Departs id c event w w')
    {life : List Event} (lives : Life c.queue c.tag life)
    (ends : event.ending? = some (c.queue, c.tag)) :
    Guise.Lives (w'.guise id) (life ++ [event]) := by
  obtain ⟨state, ended⟩ := departs.ended
  rw [guise_eq ended]
  exact .present ⟨nofun, nofun⟩ (.ended rfl lives ends)

theorem Departs.not_going {c : Consumer} {event : Event} (departs : Departs id c event w w') :
    ¬ w'.Going id := by
  obtain ⟨state, ended⟩ := departs.ended
  exact fun going => going _ ended rfl

theorem Departs.closes {c : Consumer} {event : Event} (departs : Departs id c event w w')
    (owns : w.Owns id channel) :
    w'.client.broker.channelOpen channel = false ∨ Refuses tag id channel w w' := by
  cases opened : w'.client.broker.channelOpen channel with
  | false => exact .inl rfl
  | true =>
    rw [departs.client] at opened
    obtain ⟨armed, middle, error, murmurs, belongs, refused, client⟩ :=
      releaseChannel_closes owns opened
    exact .inr ⟨armed, middle, error, murmurs, belongs, refused, departs.client.trans client⟩

theorem lastWord_ending (c : Consumer) (result : Except ClientError Unit) :
    (c.lastWord result).ending? = some (c.queue, c.tag) := by
  unfold Consumer.lastWord
  split <;> rfl

/-- Only a consumer that was not asked to stop is told to have failed. -/
theorem lastWord_failure {c : Consumer} {result : Except ClientError Unit}
    (failure : (c.lastWord result).isFailure = true) : c.stopRequested = false := by
  unfold Consumer.lastWord at failure
  split at failure
  next stop => exact stop
  next => cases failure

/-! ### Scenes -/

/-- **In its turn a consumer speaks of its own life.** -/
theorem Heard.speaks (heard : Heard id w w') (sink : w.plan.hasSink = true)
    (broker : w.client.broker.Matures w'.client.broker)
    (others : ∀ other, other ≠ id → w'.consumers.get? other = w.consumers.get? other) :
    ∃ words, Speaks id words w w' := by
  have busyGoing : ∀ c, w.consumers.get? id = some c → c.phase ≠ .finished → w.Going id :=
    fun c found busy c' found' => Option.some.inj (found.symm.trans found') ▸ busy
  cases heard with
  | nothing same => exact ⟨[], same ▸ .refl id w⟩
  | @began c middle session found opening murmurs begun =>
    have busy : c.phase ≠ .finished := opening ▸ nofun
    obtain ⟨c', found', -, queue, -⟩ := murmurs.stays found
    obtain ⟨client, -, plan, -, consumers⟩ :=
      middle.beginSession_frame id c.run c.queue session
    have ready := consumers ▸ Table.get?_modify_self _ _ _
    rw [found', Option.map_some] at ready
    refine ⟨[.consumeOk c.queue session.consumerTag], ?_, broker, others, ?_, ?_, fun log lives => ?_,
      fun _ => ⟨busyGoing c found busy, fun channel owns => ?_⟩, ?_⟩
    · rw [begun, plan, murmurs.plan]
    · rw [begun, beginSession_told _ (murmurs.plan ▸ sink), murmurs.silent sink]
    · rintro _ among
      rw [List.mem_singleton.mp among]
      rfl
    · rw [guise_eq found] at lives
      rw [lives.opening (Phase.stage_eq_opening.mpr opening), begun, guise_eq ready]
      refine .present ⟨nofun, fun _ => rfl⟩ (.going nofun ?_)
      rw [← queue]
      exact .begun fun _ => nofun
    · have held := murmurs.owns owns
      unfold Owns at held ⊢
      rw [begun, client, channelOf_eq ready]
      rwa [channelOf_eq found'] at held
    · rintro _ among ends
      rw [List.mem_singleton.mp among] at ends
      cases ends
  | @went c s found opened working murmurs =>
    have busy : c.phase ≠ .finished := fun finished => by
      rw [finished] at working
      cases working
    obtain ⟨idles, told, only, rests⟩ := murmurs.rests sink found busy
      (fun opening => by rw [opening] at working; cases working)
      (by rintro _ ⟨⟩; rw [opened]; rfl)
    obtain ⟨c', found', guise, -⟩ := murmurs.stays found
    have same : c'.guise = c.guise := by
      obtain same | works := guise
      · exact same
      · rw [works, Guise.atWork, ← working]
        rfl
    refine ⟨idles, murmurs.plan, broker, others, told, fun event among => (only event among).1,
      fun log lives => ?_, fun _ => ⟨busyGoing c found busy, fun channel => murmurs.owns⟩,
      fun event among ends => ?_⟩
    · rw [guise_eq found] at lives
      rw [guise_eq found', same]
      cases lives with
      | present kept told =>
        have unfinished : c.guise.stage ≠ .finished := fun finished =>
          busy (Phase.stage_eq_finished.mp finished)
        exact .present kept (.going unfinished (rests log kept (told.life unfinished)))
    · rw [(only event among).2] at ends
      cases ends
  | @ended c tag middle result found busy silent own murmurs ends =>
    obtain ⟨idles, told, only, rests⟩ := murmurs.rests sink found busy silent own
    obtain ⟨c', found', -, queue, tagged, stop⟩ := murmurs.stays found
    have departs : Departs id c' (c'.lastWord result) middle w' :=
      ends ▸ finish_departs found' result
    refine ⟨idles ++ [c'.lastWord result], departs.plan.trans murmurs.plan, broker, others, ?_,
      fun event among => ?_, fun log lives => ?_, fun going => absurd going departs.not_going,
      fun event among ends => ?_⟩
    · rw [departs.told (murmurs.plan ▸ sink), told, List.append_assoc]
    · obtain before | last := List.mem_append.mp among
      · exact (only event before).1
      · rw [List.mem_singleton.mp last]
        exact Event.isOfConsumer_of_ending (lastWord_ending c' result)
    · rw [guise_eq found] at lives
      rw [← List.append_assoc]
      cases lives with
      | present kept told =>
        have life := rests log kept (told.life fun finished =>
          busy (Phase.stage_eq_finished.mp finished))
        exact departs.lives (queue ▸ tagged ▸ life) (lastWord_ending c' result)
    · obtain before | last := List.mem_append.mp among
      · rw [(only event before).2] at ends
        cases ends
      · obtain rfl := List.mem_singleton.mp last
        exact ⟨busyGoing c found busy, fun failure => ⟨c, found, stop ▸ lastWord_failure failure⟩,
          fun channel owns => (departs.closes (murmurs.owns owns)).imp_right
            fun refuses => ⟨tag, refuses.since murmurs⟩⟩

/-- A turn of a consumer leaves the other consumers alone, and lets the broker go on. -/
theorem consumerTurn_apart (unopened : w.Unopened) (id : Nat) :
    w.client.broker.Matures (w.consumerTurn id).2.client.broker ∧ ∀ other, other ≠ id →
      (w.consumerTurn id).2.consumers.get? other = w.consumers.get? other := by
  cases busy : w.isFinished id with
  | true =>
    rw [consumerTurn_of_finished busy]
    exact ⟨.refl _, fun _ _ => rfl⟩
  | false =>
    obtain ⟨middle, does, same | ⟨result, ends⟩⟩ := consumerTurn_acts w id (unopened id)
    · exact same ▸ ⟨(Does.lasts does).broker, fun other differ => Does.others does differ⟩
    · obtain ⟨c, found, -⟩ := isFinished_eq_false.mp (does.busy busy)
      have departs := finish_departs found result
      rw [ends, departs.client]
      exact ⟨(Does.lasts does).broker.trans (releaseChannel_matures middle id),
        fun other differ => (departs.others other differ).trans (Does.others does differ)⟩

/-- **The turn of a consumer is a scene of its own life.** -/
theorem take_consumer_speaks (sound : w.Sound) (sink : w.plan.hasSink = true) (id : Nat) :
    ∃ words, Speaks id words w (w.take (.consumer id)) := by
  have unopened : ({ w with agenda := w.agenda.give (.consumer id) } : World).Unopened :=
    sound.unopened.of_consumers rfl
  obtain ⟨broker, others⟩ := consumerTurn_apart unopened id
  obtain ⟨words, spoken⟩ := (consumerTurn_heard unopened id).speaks sink broker others
  have speaks : ∀ (w' : World) (agenda : Agenda),
      (({ w with agenda := w.agenda.give (.consumer id) } : World).consumerTurn id).2 = w' →
      Speaks id words w { w' with agenda } := by
    rintro w' agenda rfl
    exact ⟨spoken.plan, spoken.broker, spoken.others, spoken.told, spoken.ofConsumer, spoken.lives,
      spoken.going, fun event among ends => by
        obtain ⟨going, failed, closed⟩ := spoken.ends event among ends
        refine ⟨going, failed, fun channel owns => (closed channel owns).imp_right ?_⟩
        rintro ⟨tag, armed, middle, error, murmurs, refused⟩
        exact ⟨tag, armed, middle, error, ⟨murmurs.plan, murmurs.guise, murmurs.told, murmurs.faults,
          murmurs.held, murmurs.opens⟩, refused⟩⟩
  refine ⟨words, ?_⟩
  unfold take
  split
  next w' same => exact speaks w' w'.agenda (congrArg (·.2) same)
  next w' same => exact speaks w' w'.agenda.rest (congrArg (·.2) same)

theorem forceClose_client (w : World) (id : Nat) :
    (w.forceClose id).client = (w.releaseChannel id).2.client := by
  have retired : ∀ w' : World, (w'.retireTask id).client = w'.client := fun _ => rfl
  unfold forceClose
  dsimp only
  split
  next => rfl
  next =>
    rw [retired]
    split
    next => rfl
    next => exact publish_client _ _

/-- Whoever has terminated is ended by force without a word. -/
theorem forceClose_silent {c : Consumer} (found : w.consumers.get? id = some c)
    (terminated : c.state = .terminated) :
    (w.forceClose id).plan = w.plan ∧ (w.forceClose id).told = w.told := by
  have released : (w.releaseChannel id).2.consumers.get? id = some { c with channel := none } := by
    rw [releaseChannel_get?, if_pos rfl, found]
    rfl
  have retired : ∀ w' : World, (w'.retireTask id).plan = w'.plan ∧
      (w'.retireTask id).told = w'.told := fun _ => ⟨rfl, rfl⟩
  unfold forceClose
  dsimp only
  rw [released]
  dsimp only
  rw [if_pos terminated, (retired _).1, (retired _).2]
  exact ⟨(releaseChannel_quiet w id).plan, releaseChannel_told w id⟩

/-- **Whoever is ended by force speaks for the last time**, unless it has terminated already. -/
theorem forceClose_speaks (closable : w.Closable id) (sink : w.plan.hasSink = true) :
    ∃ words, Speaks id words w (w.forceClose id) := by
  have broker : w.client.broker.Matures (w.forceClose id).client.broker := by
    rw [forceClose_client]
    exact releaseChannel_matures w id
  cases found : w.consumers.get? id with
  | none =>
    have same : w.forceClose id = w := by
      unfold forceClose releaseChannel
      dsimp only
      rw [found]
      dsimp only [Option.bind_none]
      rw [found]
    exact ⟨[], same.symm ▸ .refl id w⟩
  | some c =>
    by_cases terminated : c.state = .terminated
    · have finished : c.phase = .finished := (closable c found).mpr terminated
      have got := w.forceClose_get? id
      have after := got id
      rw [if_pos rfl, found, Option.map_some] at after
      obtain ⟨plan, told⟩ := forceClose_silent found terminated
      refine ⟨[], plan, broker, fun other differ => by rw [got, if_neg differ], ?_, fun _ => nofun,
        fun log lives => ?_, fun going => absurd rfl (going _ after), fun _ => nofun⟩
      · rw [told, List.append_nil]
      · rw [List.append_nil, guise_eq after]
        rw [guise_eq found] at lives
        unfold Consumer.guise at lives ⊢
        rwa [finished] at lives
    · have busy : c.phase ≠ .finished := fun finished => terminated ((closable c found).mp finished)
      have departs := forceClose_departs found terminated
      refine ⟨[.consumerTerminated c.queue c.tag], departs.plan, broker, departs.others,
        departs.told sink, ?_, fun log lives => ?_, fun going => absurd going departs.not_going, ?_⟩
      · rintro _ among
        rw [List.mem_singleton.mp among]
        rfl
      · rw [guise_eq found] at lives
        cases lives with
        | present kept told =>
          exact departs.lives (told.life fun finished =>
            busy (Phase.stage_eq_finished.mp finished)) rfl
      · intro event among ends
        obtain rfl := List.mem_singleton.mp among
        refine ⟨fun c' found' => ?_, nofun, fun channel owns =>
          (departs.closes owns).imp_right fun refuses => ⟨none, refuses⟩⟩
        exact Option.some.inj (found.symm.trans found') ▸ busy

end World

end QueueListener
