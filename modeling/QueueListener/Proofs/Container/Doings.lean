import Mathlib.Logic.Relation
import QueueListener.Proofs.Consumer.Requests
import QueueListener.Proofs.Container.Stillness
/-!
# What a consumer does

**All that a consumer does is made of a few kinds of change**, each of which is plain to see: it asks
the client, counts and notes, wakes others, changes what is written about itself, tells what is no
end, opens its channel and lets it go. What every kind keeps, everything a consumer does keeps.

* `Aside`, `Passes` — changes that concern no consumer, and several of them;
* `Doing`, `Does` — changes that one consumer makes, and several of them;
* `Effect`, `Effects` — what happens to consumers at the turns of other tasks, and at their ends;
* `Quiet`, `Does.quiet`, `Effects.quiet` — the registry, the errands and the phases of the monitors
  are left alone;
* `Does.others`, `Does.busy` — so are the other consumers, and the consumer itself goes on;
* `Effects.wasBusy` — whoever has ended has done so for good.
-/

namespace QueueListener

/-- The consumer that an event says has ended, by its queue and its tag. -/
def Event.ending? : Event → Option (String × Option String)
  | .consumerFailed queue tag _ _ => some (queue, tag)
  | .consumerTerminated queue tag => some (queue, tag)
  | _ => none

/-- Whether an event tells of something that neither begins nor ends. -/
def Event.isPassing : Event → Bool
  | .consumeOk .. => true
  | .idle .. => true
  | .queueMissing _ => true
  | .queueRecovered _ => true
  | _ => false

/-- The consumer that a report says has ended. -/
def Report.ended? : Report → Option Nat
  | .consumeOk _ => none
  | .failed id _ _ => some id
  | .terminated id _ => some id

/-- A consumer has a channel, or is in its session on it. -/
def Consumer.On (c : Consumer) (channel : Nat) : Prop :=
  c.channel.map (·.target) = some channel ∨ c.session.map (·.channel.target) = some channel

/-- A consumer that goes on with its work: it is neither finished nor back at the beginning. -/
structure Consumer.GoesOn (c c' : Consumer) : Prop where
  queue : c'.queue = c.queue
  run : c'.run = c.run
  channel : c'.channel = c.channel
  stays : ∀ channel, c'.On channel → c.On channel
  working : c.phase ≠ .finished → c'.phase ≠ .finished
  begun : c'.phase = .opening → c.phase = .opening
  living : c.state ≠ .terminated → c'.state ≠ .terminated

namespace World

/-! ### Effects that concern no consumer -/

/-- One change that concerns no consumer. -/
inductive Aside (w : World) : World → Prop
  /-- The client was asked for something that opens no channel and settles nothing. -/
  | asked {client : Client} (works : w.client.Works (fun _ _ => False) client) :
      Aside w { w with client }
  /-- What the broker has to tell is put into the handoffs. -/
  | delivered : Aside w w.deliverNotices
  /-- A handoff is fed. -/
  | fed {id : Nat} {h : Handoff} (found : w.handoffs.get? id = some h) :
      Aside w { w with handoffs := w.handoffs.set id h.feed.2 }
  /-- Something was counted, noted or put aside. -/
  | noted (metrics : Metrics) (service : TransactionService Nat) (shared : Option Nat)
      (tagsChosen calls : Nat) (notes : Array (String × String × Nat × Note))
      (errors : Array (String × String × Nat × String)) (declarations : Array (Nat × String))
      (ended : Array (ErrandKind × Nat)) :
      Aside w { w with
        metrics, service, shared, tagsChosen, calls
        chronicle := { w.chronicle with notes, errors, declarations, ended } }
  | woken (task : Task) : Aside w (w.wake task)
  | told {event : Event} (passing : event.isPassing = true) : Aside w (w.publish event)

/-- Several changes that concern no consumer. -/
abbrev Passes : World → World → Prop := Relation.ReflTransGen Aside

theorem deliverNotices_passes (w : World) : w.Passes w.deliverNotices := .single .delivered

/-- What the broker has to tell changes the handoffs, and their feeds are woken. -/
theorem deliverNotices_shape (w : World) : ∃ handoffs tasks, w.deliverNotices = { w with
    client := { w.client with broker := w.client.broker.collectNotices.2 }
    handoffs := handoffs
    agenda := w.agenda.wakeAll tasks } := by
  have all : ∀ (notices : List (Nat × Notice)) (w : World), ∃ handoffs tasks,
      notices.foldl deliverNotice w =
        { w with handoffs := handoffs, agenda := w.agenda.wakeAll tasks } := by
    intro notices
    induction notices with
    | nil => exact fun w => ⟨w.handoffs, [], rfl⟩
    | cons notice notices ih =>
      intro w
      obtain ⟨handoffs, tasks, same⟩ := ih (w.deliverNotice notice)
      rw [List.foldl_cons, same]
      unfold deliverNotice
      split
      next => exact ⟨handoffs, .feed notice.1 :: tasks, rfl⟩
      next => exact ⟨handoffs, tasks, rfl⟩
  unfold deliverNotices
  dsimp only
  rw [← Array.foldl_toList]
  exact all _ _

/-! ### Effects that a consumer makes -/

/-- One change that a consumer makes. -/
inductive Doing (id : Nat) (w : World) : World → Prop
  | aside {w' : World} (aside : w.Aside w') : Doing id w w'
  /-- The consumer uses a channel that it has. -/
  | worked {client : Client} {c : Consumer} {channel : Nat}
      (found : w.consumers.get? id = some c) (on : c.On channel)
      (works : w.client.Works (fun other _ => other = channel) client) :
      Doing id w { w with client }
  /-- The consumer asks the broker to push to it. -/
  | subscribed (channel : Nat) (queue requested : String) (autoAck : Bool) :
      Doing id w { w with
        client := (w.client.call .consume (·.consume channel queue requested autoAck id)).2 }
  /-- The consumer's own handoff changes. -/
  | handed {handoffs : Table Nat Handoff}
      (others : ∀ other, other ≠ id → handoffs.get? other = w.handoffs.get? other) :
      Doing id w { w with handoffs }
  | timed (slot : TimerSlot) (t : Instant) : Doing id w (w.setTimer (.consumer id) slot t)
  | untimed (slot : TimerSlot) : Doing id w (w.cancelTimer (.consumer id) slot)
  /-- What is written about the consumer. -/
  | written {f : Consumer → Consumer}
      (goesOn : ∀ c : Consumer, w.consumers.get? id = some c → c.GoesOn (f c)) :
      Doing id w (w.updateConsumer id f)
  | reported (run : Nat) (queue : String) : Doing id w (w.report run (.consumeOk queue))
  /-- The consumer, which has no channel, opens one. -/
  | opened {connection target : Nat} {transactional : Bool} {client : Client}
      {channel : ManagedChannel}
      (without : ∀ c, w.consumers.get? id = some c → c.channel = none)
      (ran : w.client.call .createChannel (·.createChannel connection transactional) =
        (.ok target, client)) (of : channel.target = target) :
      Doing id w (({ w with client } : World).deliverNotices.updateConsumer id fun c =>
        { c with channel := some channel })
  | released : Doing id w (w.releaseChannel id).2

/-- All that a consumer does in a while. -/
abbrev Does (id : Nat) : World → World → Prop := Relation.ReflTransGen (Doing id)

/-- Reports to the monitor of a run, if there is something to report. -/
def reportAny (w : World) (run : Nat) : Option Report → World
  | none => w
  | some report => w.report run report

/-- One change at a turn of a task that leaves the administration of the container alone: it ends a
consumer, or does not concern the work of any. -/
inductive Effect (task : Task) (w : World) : World → Prop
  | aside {w' : World} (aside : w.Aside w') : Effect task w w'
  | timed (slot : TimerSlot) (t : Instant) : Effect task w (w.setTimer task slot t)
  | untimed (slot : TimerSlot) : Effect task w (w.cancelTimer task slot)
  | rested (id : Nat) (slot : TimerSlot) : Effect task w (w.cancelTimer (.consumer id) slot)
  /-- A consumer that has ended lets its channel go, if it has one. -/
  | released {id : Nat} (done : w.isFinished id = true) : Effect task w (w.releaseChannel id).2
  /-- The handoff of a consumer that has ended is dropped. -/
  | dropped {id : Nat} {c : Consumer} (found : w.consumers.get? id = some c)
      (done : c.phase = .finished) : Effect task w { w with handoffs := w.handoffs.erase id }
  /-- Something is written about a consumer that does not concern its work; at most it is asked to
  stop. -/
  | touched {id : Nat} {f : Consumer → Consumer} (same : ∀ c, w.consumers.get? id = some c →
      (f c).queue = c.queue ∧ (f c).run = c.run ∧ (f c).tag = c.tag ∧ (f c).channel = c.channel ∧
        (f c).phase = c.phase ∧ (c.phase ≠ .finished → (f c).state = c.state) ∧
          (f c).session = c.session ∧ (c.stopRequested = true → (f c).stopRequested = true)) :
      Effect task w (w.updateConsumer id f)
  /-- A consumer lets its channel go and ends; that is told, and it may be reported. -/
  | ended {id : Nat} {c : Consumer} (found : w.consumers.get? id = some c)
      (busy : c.phase ≠ .finished) (metrics : Metrics)
      (state : ConsumerState) (event : Event) (told : event.ending? = some (c.queue, c.tag))
      (report : Option Report) (about : ∀ r ∈ report, r.ended? = some id) :
      Effect task w ((((({ (w.releaseChannel id).2 with metrics } : World).updateConsumer id fun c =>
        { c with state }).publish event).reportAny c.run report).retireTask id)

/-- Several changes at a turn of a task. -/
abbrev Effects (task : Task) : World → World → Prop := Relation.ReflTransGen (Effect task)

variable {w w' w'' : World} {id : Nat} {task : Task}

/-- What concerns no consumer any consumer can do. -/
theorem Passes.does (passes : w.Passes w') : Does id w w' := by
  induction passes with
  | refl => exact .refl
  | tail _ aside ih => exact ih.tail (.aside aside)

theorem Passes.effects (passes : w.Passes w') : Effects task w w' := by
  induction passes with
  | refl => exact .refl
  | tail _ aside ih => exact ih.tail (.aside aside)

/-- What comes last is looked at first. -/
theorem Does.since (last : Does id w' w'') (first : Does id w w') : Does id w w'' :=
  first.trans last

/-- Something was counted, noted or put aside. -/
theorem noted_passes {metrics : Metrics} {service : TransactionService Nat} {shared : Option Nat}
    {tagsChosen calls : Nat} {notes : Array (String × String × Nat × Note)}
    {errors : Array (String × String × Nat × String)} {declarations : Array (Nat × String)}
    {ended : Array (ErrandKind × Nat)} :
    w.Passes { w with
      metrics, service, shared, tagsChosen, calls
      chronicle := { w.chronicle with notes, errors, declarations, ended } } :=
  .single (.noted _ _ _ _ _ _ _ _ _)

theorem noted_does {metrics : Metrics} {service : TransactionService Nat} {shared : Option Nat}
    {tagsChosen calls : Nat} {notes : Array (String × String × Nat × Note)}
    {errors : Array (String × String × Nat × String)} {declarations : Array (Nat × String)}
    {ended : Array (ErrandKind × Nat)} :
    Does id w { w with
      metrics, service, shared, tagsChosen, calls
      chronicle := { w.chronicle with notes, errors, declarations, ended } } :=
  noted_passes.does

theorem woken_does (task : Task) : Does id w (w.wake task) := .single (.aside (.woken task))

theorem told_does {event : Event} (passing : event.isPassing = true) :
    Does id w (w.publish event) := .single (.aside (.told passing))

theorem written_does {f : Consumer → Consumer}
    (goesOn : ∀ c : Consumer, w.consumers.get? id = some c → c.GoesOn (f c)) :
    Does id w (w.updateConsumer id f) := .single (.written goesOn)

/-- A request is passed on, and the notices that it has caused are delivered. -/
theorem asked_does {client : Client} (works : w.client.Works (fun _ _ => False) client) :
    Does id w ({ w with client } : World).deliverNotices :=
  (Relation.ReflTransGen.single (.aside (.asked works))).trans (deliverNotices_passes _).does

/-! ### What a change leaves alone -/

/-- The administration of the container is left alone: the registry, the errands, and what the
monitors are doing; only reports may have come in. -/
structure Quiet (w w' : World) : Prop extends Still w w' where
  errands : w'.errands = w.errands
  retiring : w'.retiring = w.retiring
  joinable : w'.joinable = w.joinable
  abandoned : w'.abandoned = w.abandoned
  monitors : ∀ run : Nat, ∃ news : List Report, w'.monitors[run]? =
    (w.monitors[run]?).map fun m => { m with reports := m.reports ++ news }

namespace Quiet

/-- Neither the monitors nor anything else has changed. -/
theorem of_same (still : w.Still w') (errands : w'.errands = w.errands)
    (retiring : w'.retiring = w.retiring) (joinable : w'.joinable = w.joinable)
    (abandoned : w'.abandoned = w.abandoned) (monitors : w'.monitors = w.monitors) :
    w.Quiet w' where
  toStill := still
  errands := errands
  retiring := retiring
  joinable := joinable
  abandoned := abandoned
  monitors run := ⟨[], by rw [monitors]; simp⟩

theorem refl (w : World) : w.Quiet w := .of_same (.refl w) rfl rfl rfl rfl rfl

theorem trans (first : w.Quiet w') (second : w'.Quiet w'') : w.Quiet w'' where
  toStill := first.toStill.trans second.toStill
  errands := second.errands.trans first.errands
  retiring := second.retiring.trans first.retiring
  joinable := second.joinable.trans first.joinable
  abandoned := second.abandoned.trans first.abandoned
  monitors run := by
    obtain ⟨news, heard⟩ := first.monitors run
    obtain ⟨more, heard'⟩ := second.monitors run
    exact ⟨news ++ more, by rw [heard', heard, Option.map_map]; simp [Function.comp_def]⟩

/-- What comes last is looked at first. -/
theorem since (last : w'.Quiet w'') (first : w.Quiet w') : w.Quiet w'' := first.trans last

end Quiet

theorem publish_quiet (w : World) (event : Event) : w.Quiet (w.publish event) := by
  unfold publish
  split <;> exact .of_same ⟨rfl, rfl, rfl⟩ rfl rfl rfl rfl rfl

theorem report_quiet (w : World) (run : Nat) (report : Report) : w.Quiet (w.report run report) where
  toStill := report_still w run report
  errands := rfl
  retiring := rfl
  joinable := rfl
  abandoned := rfl
  monitors other := by
    show ∃ news, (w.monitors.modify run _)[other]? = _
    rw [Array.getElem?_modify]
    split
    next => exact ⟨[report], rfl⟩
    next => exact ⟨[], by simp⟩

theorem deliverNotices_quiet (w : World) : w.Quiet w.deliverNotices := by
  obtain ⟨handoffs, tasks, same⟩ := w.deliverNotices_shape
  rw [same]
  exact .of_same ⟨rfl, rfl, rfl⟩ rfl rfl rfl rfl rfl

theorem Aside.quiet (aside : w.Aside w') : w.Quiet w' := by
  cases aside with
  | asked | fed | noted | woken => exact .of_same ⟨rfl, rfl, rfl⟩ rfl rfl rfl rfl rfl
  | delivered => exact deliverNotices_quiet w
  | told passing => exact publish_quiet w _

theorem Passes.quiet (passes : w.Passes w') : w.Quiet w' := by
  induction passes with
  | refl => exact .refl w
  | tail _ aside ih => exact ih.trans aside.quiet

theorem updateConsumer_quiet (w : World) (id : Nat) (f : Consumer → Consumer) :
    w.Quiet (w.updateConsumer id f) := .of_same ⟨rfl, rfl, rfl⟩ rfl rfl rfl rfl rfl

theorem releaseChannel_quiet (w : World) (id : Nat) : w.Quiet (w.releaseChannel id).2 := by
  unfold releaseChannel
  split
  next => exact .refl w
  next =>
    exact (deliverNotices_quiet _).since (.of_same ⟨rfl, rfl, rfl⟩ rfl rfl rfl rfl rfl)

theorem retireTask_quiet (w : World) (id : Nat) : w.Quiet (w.retireTask id) :=
  .of_same ⟨rfl, rfl, rfl⟩ rfl rfl rfl rfl rfl

theorem Doing.quiet (doing : Doing id w w') : w.Quiet w' := by
  cases doing with
  | aside aside => exact aside.quiet
  | worked | subscribed | handed | timed | untimed | written =>
    exact .of_same ⟨rfl, rfl, rfl⟩ rfl rfl rfl rfl rfl
  | reported run queue => exact report_quiet w run _
  | opened without ran of =>
    exact (updateConsumer_quiet _ id _).since ((deliverNotices_quiet _).since
      (.of_same ⟨rfl, rfl, rfl⟩ rfl rfl rfl rfl rfl))
  | released => exact releaseChannel_quiet w id

theorem Does.quiet (does : Does id w w') : w.Quiet w' := by
  induction does with
  | refl => exact .refl w
  | tail _ doing ih => exact ih.trans doing.quiet

/-- The end of a consumer that has let its channel go leaves the administration alone. -/
theorem end_quiet (w : World) (id run : Nat) (metrics : Metrics) (state : ConsumerState)
    (event : Event) (report : Option Report) :
    w.Quiet ((((({ w with metrics } : World).updateConsumer id fun c =>
      { c with state }).publish event).reportAny run report).retireTask id) := by
  have told : w.Quiet ((({ w with metrics } : World).updateConsumer id fun c =>
      { c with state }).publish event) :=
    (publish_quiet _ event).since (.of_same ⟨rfl, rfl, rfl⟩ rfl rfl rfl rfl rfl)
  have reported : ∀ w : World, w.Quiet (w.reportAny run report) := by
    intro w
    cases report with
    | none => exact .refl w
    | some report => exact report_quiet w run report
  exact (retireTask_quiet _ id).since ((reported _).since told)

theorem Effect.quiet (effect : Effect task w w') : w.Quiet w' := by
  cases effect with
  | aside aside => exact aside.quiet
  | timed | untimed | rested | dropped | touched =>
    exact .of_same ⟨rfl, rfl, rfl⟩ rfl rfl rfl rfl rfl
  | @released id => exact releaseChannel_quiet w id
  | @ended id c found busy metrics state event told report about =>
    exact (end_quiet _ id c.run metrics state event report).since (releaseChannel_quiet w id)

/-- **Effects leave the administration of the container alone.** -/
theorem Effects.quiet (effects : Effects task w w') : w.Quiet w' := by
  induction effects with
  | refl => exact .refl w
  | tail _ effect ih => exact ih.trans effect.quiet

/-! ### The consumers -/

theorem publish_consumers (w : World) (event : Event) :
    (w.publish event).consumers = w.consumers := by
  unfold publish
  split <;> rfl

theorem updateConsumer_get? (w : World) (id other : Nat) (f : Consumer → Consumer) :
    (w.updateConsumer id f).consumers.get? other =
      if other = id then (w.consumers.get? other).map f else w.consumers.get? other :=
  Table.get?_modify _ _ _ _

theorem deliverNotices_consumers (w : World) : w.deliverNotices.consumers = w.consumers := by
  obtain ⟨handoffs, tasks, same⟩ := w.deliverNotices_shape
  rw [same]

theorem Aside.consumers (aside : w.Aside w') : w'.consumers = w.consumers := by
  cases aside with
  | asked | fed | noted | woken => rfl
  | delivered => exact deliverNotices_consumers w
  | told passing => exact publish_consumers w _

/-- The consumer that releases its channel has none; nothing else is written about anybody. -/
theorem releaseChannel_get? (w : World) (id other : Nat) :
    (w.releaseChannel id).2.consumers.get? other =
      if other = id then (w.consumers.get? id).map fun c => { c with channel := none }
      else w.consumers.get? other := by
  unfold releaseChannel
  split
  next none =>
    split
    next same =>
      rw [same]
      cases found : w.consumers.get? id with
      | none => rfl
      | some c =>
        rw [found] at none
        have without : c.channel = .none := none
        rw [Option.map_some, ← without]
    next => rfl
  next =>
    dsimp only
    rw [deliverNotices_consumers]
    show (w.consumers.modify id _).get? other = _
    rw [Table.get?_modify]
    split
    next same => rw [same]
    next => rfl

/-- So the end of a channel is a change of what is written about its consumer. -/
theorem releaseChannel_modifies (w : World) (id other : Nat) :
    (w.releaseChannel id).2.consumers.get? other =
      (w.consumers.modify id fun c => { c with channel := none }).get? other := by
  rw [releaseChannel_get?, Table.get?_modify]
  split
  next here => rw [here]
  next => rfl

/-- What a consumer does is written about nobody else. -/
theorem Doing.others (doing : Doing id w w') {other : Nat} (differ : other ≠ id) :
    w'.consumers.get? other = w.consumers.get? other := by
  cases doing with
  | aside aside => rw [aside.consumers]
  | worked | subscribed | handed | timed | untimed | reported => rfl
  | written => exact Table.get?_modify_of_ne _ _ differ
  | opened =>
    refine (Table.get?_modify_of_ne _ _ differ).trans ?_
    rw [deliverNotices_consumers]
  | released => rw [releaseChannel_get?, if_neg differ]

theorem Does.others (does : Does id w w') {other : Nat} (differ : other ≠ id) :
    w'.consumers.get? other = w.consumers.get? other := by
  induction does with
  | refl => rfl
  | tail _ doing ih => exact (doing.others differ).trans ih

/-- What is written about the consumer that does something. -/
theorem Doing.self (doing : Doing id w w') {c : Consumer} (found : w.consumers.get? id = some c) :
    ∃ c', w'.consumers.get? id = some c' ∧
      (c.GoesOn c' ∨ ∃ channel, c' = { c with channel }) := by
  cases doing with
  | aside aside => exact ⟨c, aside.consumers ▸ found, .inr ⟨c.channel, rfl⟩⟩
  | worked | subscribed | handed | timed | untimed | reported =>
    exact ⟨c, found, .inr ⟨c.channel, rfl⟩⟩
  | @written f goesOn =>
    refine ⟨f c, ?_, .inl (goesOn c found)⟩
    show (w.consumers.modify id f).get? id = _
    rw [Table.get?_modify_self, found, Option.map_some]
  | @opened _ _ _ _ channel =>
    refine ⟨_, ?_, .inr ⟨some channel, rfl⟩⟩
    show (Table.modify _ id _).get? id = _
    rw [Table.get?_modify_self, deliverNotices_consumers, found, Option.map_some]
  | released => exact ⟨_, by rw [releaseChannel_get?, if_pos rfl, found]; rfl, .inr ⟨none, rfl⟩⟩

theorem isFinished_eq_false : w.isFinished id = false ↔
    ∃ c, w.consumers.get? id = some c ∧ c.phase ≠ .finished := by
  unfold isFinished
  cases w.consumers.get? id with
  | none => simp
  | some c => simp

theorem isFinished_eq_true : w.isFinished id = true ↔
    ∀ c, w.consumers.get? id = some c → c.phase = .finished := by
  unfold isFinished
  cases w.consumers.get? id with
  | none => simp
  | some c => simp

/-- A consumer that does something has not ended by that. -/
theorem Doing.busy (doing : Doing id w w') (busy : w.isFinished id = false) :
    w'.isFinished id = false := by
  obtain ⟨c, found, working⟩ := isFinished_eq_false.mp busy
  obtain ⟨c', found', goesOn | ⟨channel, rfl⟩⟩ := doing.self found
  · exact isFinished_eq_false.mpr ⟨c', found', goesOn.working working⟩
  · exact isFinished_eq_false.mpr ⟨_, found', working⟩

theorem Does.busy (does : Does id w w') (busy : w.isFinished id = false) :
    w'.isFinished id = false := by
  induction does with
  | refl => exact busy
  | tail _ doing ih => exact doing.busy ih

/-- A consumer that has begun does not begin again. -/
theorem Does.begun (does : Does id w w') {c : Consumer} (found : w.consumers.get? id = some c)
    (begun : c.phase ≠ .opening) :
    ∃ c', w'.consumers.get? id = some c' ∧ c'.phase ≠ .opening := by
  induction does with
  | refl => exact ⟨c, found, begun⟩
  | tail _ doing ih =>
    obtain ⟨middle, found₁, begun₁⟩ := ih
    obtain ⟨c', found', goesOn | ⟨channel, rfl⟩⟩ := doing.self found₁
    · exact ⟨c', found', fun opening => begun₁ (goesOn.begun opening)⟩
    · exact ⟨_, found', begun₁⟩

/-! ### The end of a consumer -/

theorem reportAny_consumers (w : World) (run : Nat) (report : Option Report) :
    (w.reportAny run report).consumers = w.consumers := by
  cases report with
  | none => rfl
  | some report => rfl

/-- A consumer that has ended is finished, and nothing is written about anybody else. -/
theorem ended_consumers (w : World) (id run : Nat) (metrics : Metrics) (state : ConsumerState)
    (event : Event) (report : Option Report) :
    (((((({ w with metrics } : World).updateConsumer id fun c => { c with state }).publish
      event).reportAny run report).retireTask id).consumers) =
      (w.consumers.modify id fun c => { c with state }).modify id
        fun c => { c with phase := .finished } := by
  unfold retireTask setPhase
  dsimp only [updateConsumer, cancelTimer]
  rw [reportAny_consumers, publish_consumers]

theorem publish_client (w : World) (event : Event) : (w.publish event).client = w.client := by
  unfold publish
  split <;> rfl

theorem publish_handoffs (w : World) (event : Event) :
    (w.publish event).handoffs = w.handoffs := by
  unfold publish
  split <;> rfl

/-- Nothing is asked of the broker at an end, and only the handoff of the consumer is dropped. -/
theorem ended_frame (w : World) (id run : Nat) (metrics : Metrics) (state : ConsumerState)
    (event : Event) (report : Option Report) :
    ((((({ w with metrics } : World).updateConsumer id fun c => { c with state }).publish
      event).reportAny run report).retireTask id).client = w.client ∧
    ((((({ w with metrics } : World).updateConsumer id fun c => { c with state }).publish
      event).reportAny run report).retireTask id).handoffs = w.handoffs.erase id := by
  have reported : ∀ w : World, (w.reportAny run report).client = w.client ∧
      (w.reportAny run report).handoffs = w.handoffs := by
    intro w
    cases report <;> exact ⟨rfl, rfl⟩
  refine ⟨(reported _).1.trans (publish_client _ event), ?_⟩
  exact congrArg (·.erase id) ((reported _).2.trans (publish_handoffs _ event))

/-- A consumer is as busy as what is written about it says. -/
theorem isFinished_congr (same : (w'.consumers.get? id).map (·.phase) =
    (w.consumers.get? id).map (·.phase)) : w'.isFinished id = w.isFinished id := by
  unfold isFinished
  cases found' : w'.consumers.get? id <;> cases found : w.consumers.get? id <;>
    rw [found, found'] at same <;> simp_all

/-- Nobody becomes busy by a change. -/
theorem Effect.wasBusy (effect : Effect task w w') (busy : w'.isFinished id = false) :
    w.isFinished id = false := by
  have kept : (∀ f : Consumer → Consumer, ∀ other, (∀ c, w.consumers.get? other = some c →
      (f c).phase = c.phase) → w'.consumers.get? id = (w.consumers.modify other f).get? id →
      w.isFinished id = false) := by
    intro f other same after
    refine (isFinished_congr ?_).symm.trans busy
    rw [after, Table.get?_modify]
    split
    next here =>
      cases found : w.consumers.get? id with
      | none => rfl
      | some c => exact congrArg some (same c (here ▸ found))
    next => rfl
  cases effect with
  | aside aside =>
    exact (isFinished_congr (by rw [aside.consumers])).symm.trans busy
  | timed | untimed | rested | dropped => exact busy
  | @released other =>
    exact kept (fun c => { c with channel := none }) other (fun _ _ => rfl)
      (releaseChannel_modifies w other id)
  | @touched other f same => exact kept f other (fun c found => (same c found).2.2.2.2.1) rfl
  | @ended other c found working metrics state event told report about =>
    by_cases here : id = other
    · subst here
      exact isFinished_eq_false.mpr ⟨c, found, working⟩
    · refine (isFinished_congr ?_).symm.trans busy
      rw [ended_consumers, Table.get?_modify_of_ne _ _ here, Table.get?_modify_of_ne _ _ here,
        releaseChannel_get?, if_neg here]

theorem Effects.wasBusy (effects : Effects task w w') (busy : w'.isFinished id = false) :
    w.isFinished id = false := by
  induction effects with
  | refl => exact busy
  | tail _ effect ih => exact ih (effect.wasBusy busy)

end World

end QueueListener
