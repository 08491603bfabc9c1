import QueueListener.Container.Run
import QueueListener.Proofs.Consumer.DeskWork
import QueueListener.Proofs.Container.Doings
import QueueListener.Proofs.Container.Upkeep
/-!
# Turns of a consumer

**In its turn a consumer does something and ends, if at all, at the end of the turn**: it opens,
receives, lets the listener work and settles, all of which is made of `Doing`s, and nothing follows
its end. So a turn leaves the registry alone, and what the registry has to know of it the monitor
hears in a report.

* `Serves` — work of a consumer, and how it is put together;
* `openSession_does`, `closeSession_serves`, `settle_serves` — the work of a session;
* `Acts`, `consumerTurn_acts` — what a turn is made of;
* `finish_effects`, `forceClose_effects` — the two ends of a consumer;
* `consumerTurn_begun` — after its turn a consumer has opened its session, or is finished;
* `consumerTurn_quiet`, `feedTurn_passes` — turns leave the registry alone.
-/

namespace QueueListener

namespace World

variable {w w' w'' : World} {id : Nat} {task : Task} {α β : Type}

/-! ### Work of a consumer -/

/-- Work that a consumer does, however it ends. -/
abbrev Serves (id : Nat) (work : WorldWork α) : Prop := Moves (Does id) work

theorem pure_serves (a : α) : Serves id (pure a) := pure_moves (fun _ => .refl) a

theorem get_serves : Serves id get := get_moves fun _ => .refl

theorem modify_serves {f : World → World} (does : ∀ w, Does id w (f w)) : Serves id (modify f) :=
  does

theorem Serves.bind {first : WorldWork α} {next : α → WorldWork β} (begins : Serves id first)
    (goesOn : ∀ a, Serves id (next a)) : Serves id (first >>= next) :=
  Moves.bind (fun _ _ _ => .trans) begins goesOn

theorem request_run (f : Client → Except ClientError α × Client) (w : World) :
    (request f).run w =
      ((f w.client).1, ({ w with client := (f w.client).2 } : World).deliverNotices) := rfl

theorem request_serves {f : Client → Except ClientError α × Client}
    (works : ∀ c : Client, c.Works (fun _ _ => False) (f c).2) : Serves id (request f) :=
  fun w => asked_does (works w.client)

/-- A change of the session that keeps its channel is written about the consumer. -/
theorem updateSession_does {f : Session → Session} (same : ∀ c s, w.consumers.get? id = some c →
    c.session = some s → (f s).channel.target = s.channel.target) :
    Does id w (w.updateSession id f) := by
  refine written_does fun c found => ⟨rfl, rfl, rfl, fun channel on => on.imp (fun h => h) fun onto => ?_,
    fun h => h, fun h => h, fun h => h⟩
  dsimp only at onto
  cases opened : c.session with
  | none =>
    rw [opened] at onto
    cases onto
  | some s =>
    rw [opened] at onto
    exact (congrArg some (same c s found opened)).symm.trans onto

theorem setPhase_does {phase : Phase} (working : phase ≠ .finished) (begun : phase ≠ .opening) :
    Does id w (w.setPhase id phase) :=
  written_does fun _ _ => ⟨rfl, rfl, rfl, fun _ on => on, fun _ => working,
    fun opening => absurd opening begun, fun h => h⟩

theorem atDesk_serves {work : Post → DeskWork Unit} (asks : ∀ post, Desk.Asks post (work post)) :
    Serves id (atDesk id work) := by
  intro w
  unfold atDesk
  rw [ExceptT.run_mk]
  split
  next => exact .refl
  next c found =>
    split
    next => exact .refl
    next s opened =>
      have worked := asks (w.post c s) (w.desk c s)
      generalize (work (w.post c s)).run (w.desk c s) = answer at worked
      obtain ⟨result, desk⟩ := answer
      have on : c.On s.channel.target := .inr (by rw [opened]; rfl)
      have asked : Does id w ({ w with client := desk.client } : World) :=
        .single (.worked found on worked)
      have put : Does id w ({ w with client := desk.client, metrics := desk.metrics } : World) :=
        asked.trans noted_does
      have shown : Does id w (({ w with client := desk.client, metrics := desk.metrics } :
          World).updateConsumer id fun c => { c with shownDeferred := desk.shownDeferred }) :=
        put.trans (written_does fun _ _ =>
          ⟨rfl, rfl, rfl, fun _ on => on, fun h => h, fun h => h, fun h => h⟩)
      exact shown.trans ((updateSession_does (f := fun s =>
        { s with deferred := desk.deferred, lastDeferred := desk.lastDeferred })
        fun _ _ _ _ => rfl).trans (deliverNotices_passes _).does)

theorem forIn_serves {items : List α} {each : α → WorldWork Unit}
    (serves : ∀ item, Serves id (each item)) :
    Serves id (forIn items PUnit.unit fun item _ => do
      each item
      return ForInStep.yield PUnit.unit) :=
  forIn_moves (fun _ => .refl) (fun _ _ _ => .trans) serves

/-! ### Sessions -/

/-- A consumer has a channel. -/
def Has (w : World) (id : Nat) (channel : ManagedChannel) : Prop :=
  ∀ c, w.consumers.get? id = some c → c.channel = some channel

/-- The shared connection is opened anew without a word about any consumer. -/
theorem connection_passes (w : World) : w.Passes (connection.run w).2 := by
  refine run_bind_moves (R := Passes) (fun _ _ _ => .trans) .refl fun w' _ => ?_
  split
  next => exact .refl
  next =>
    refine run_bind_moves (R := Passes) (fun _ _ _ => .trans) ?_ fun connection _ => ?_
    · refine Relation.ReflTransGen.head (.asked ?_) (deliverNotices_passes _)
      exact w.client.call_works .connect .connect trivial
        fun _ => (Broker.Reply.ofResult_snd _ _).symm
    · refine run_bind_moves (R := Passes) (fun _ _ _ => .trans) ?_ fun _ _ => .refl
      exact noted_passes

theorem Passes.consumers (passes : w.Passes w') : w'.consumers = w.consumers := by
  induction passes with
  | refl => rfl
  | tail _ aside ih => exact aside.consumers.trans ih

/-- A request for a channel that fails leaves the broker as it is. -/
theorem createChannel_refused {c client : Client} {connection : Nat} {transactional : Bool}
    {error : ClientError} {may : Nat → Settlement → Prop}
    (failed : c.call .createChannel (·.createChannel connection transactional) =
      (.error error, client)) : c.Works may client := by
  unfold Client.call at failed
  split at failed
  next taken =>
    cases failed
    exact ⟨(Client.Works.refl may c).ran, fun fault => ArmedFault.take_faults taken⟩
  next =>
    unfold Broker.createChannel at failed
    dsimp only at failed
    split at failed
    next =>
      split at failed
      next => cases failed
      next => cases failed; exact .refl may c
    next => cases failed; exact .refl may c

/-- A consumer without a channel opens one, unless the request for it fails. -/
theorem openChannel_does (connection : Nat)
    (without : ∀ c, w.consumers.get? id = some c → c.channel = none) :
    Does id w ((openChannel id connection).run w).2 ∧
      ∀ channel, ((openChannel id connection).run w).1 = .ok channel →
        ((openChannel id connection).run w).2.Has id channel := by
  cases ran : w.client.call .createChannel
      (·.createChannel connection w.plan.settings.transacted) with
  | mk result client =>
    have asked : (request fun client => client.call .createChannel
        (·.createChannel connection w.plan.settings.transacted)).run w =
        (result, ({ w with client } : World).deliverNotices) := by
      rw [request_run, ran]
    unfold openChannel
    rw [run_get_bind]
    cases result with
    | error error =>
      rw [run_bind_error asked]
      exact ⟨asked_does (createChannel_refused ran), fun _ => nofun⟩
    | ok target =>
      rw [run_bind_ok asked]
      refine ⟨.single (.opened without ran rfl), fun channel same c found => ?_⟩
      cases same
      have found' : (Table.modify _ id _).get? id = some c := found
      rw [Table.get?_modify_self] at found'
      obtain ⟨_, -, rfl⟩ := Option.map_eq_some_iff.mp found'
      rfl

/-- Work that a consumer does with its channel open, which it keeps. -/
abbrev Furthers (id : Nat) (channel : ManagedChannel) (work : WorldWork α) : Prop :=
  Moves (fun w w' : World => w.Has id channel → Does id w w' ∧ w'.Has id channel) work

section Furthers

variable {channel : ManagedChannel}

theorem Furthers.bind {first : WorldWork α} {next : α → WorldWork β}
    (begins : Furthers id channel first) (goesOn : ∀ a, Furthers id channel (next a)) :
    Furthers id channel (first >>= next) := by
  refine Moves.bind (fun _ _ _ before behind has => ?_) begins goesOn
  obtain ⟨does, has'⟩ := before has
  obtain ⟨does', has''⟩ := behind has'
  exact ⟨does.trans does', has''⟩

theorem Furthers.does {work : WorldWork α} (furthers : Furthers id channel work)
    (has : w.Has id channel) : Does id w (work.run w).2 := (furthers w has).1

theorem pure_furthers (a : α) : Furthers id channel (pure a) :=
  pure_moves (fun _ has => ⟨.refl, has⟩) a

theorem get_furthers : Furthers id channel get := get_moves fun _ has => ⟨.refl, has⟩

/-- Nothing is written about a consumer. -/
theorem modify_furthers {f : World → World} (does : ∀ w, Does id w (f w))
    (consumers : ∀ w, (f w).consumers = w.consumers) : Furthers id channel (modify f) :=
  modify_moves fun w has => ⟨does w, fun c found => has c (consumers w ▸ found)⟩

theorem request_furthers {f : Client → Except ClientError α × Client}
    (works : ∀ c : Client, c.Works (fun _ _ => False) (f c).2) :
    Furthers id channel (request f) := fun w has =>
  ⟨asked_does (works w.client), fun c found => has c (by
    rw [request_run, deliverNotices_consumers] at found
    exact found)⟩

theorem requestedTag_furthers (queue : String) : Furthers id channel (requestedTag queue) := by
  refine .bind get_furthers fun w => ?_
  split
  next => exact pure_furthers _
  next => exact pure_furthers _
  next =>
    exact .bind get_furthers fun _ => .bind (modify_furthers (fun _ => noted_does) fun _ => rfl)
      fun _ => pure_furthers _

theorem subscribe_furthers (queue requested : String) (target : ManagedChannel) :
    Furthers id channel (subscribe id queue requested target) := by
  have asked : ∀ autoAck, Furthers id channel (request fun client => client.call .consume
      (·.consume target.target queue requested autoAck id)) := by
    refine fun autoAck w has => ⟨?_, fun c found => has c ?_⟩
    · exact (Relation.ReflTransGen.single (.subscribed _ _ _ autoAck)).trans
        (deliverNotices_passes _).does
    · rw [request_run, deliverNotices_consumers] at found
      exact found
  refine .bind get_furthers fun w => .bind (modify_furthers (fun w => ?_) fun _ => rfl) fun _ =>
    .bind (asked _) fun tag => .bind (modify_furthers (fun _ => woken_does _) fun _ => rfl)
      fun _ => pure_furthers tag
  exact .single (.handed fun other differ => by rw [Table.get?_set, if_neg differ])

theorem pollingTag_furthers (queue requested : String) :
    Furthers id channel (pollingTag queue requested) := by
  unfold pollingTag
  split
  next =>
    exact .bind get_furthers fun _ => .bind (modify_furthers (fun _ => noted_does) fun _ => rfl)
      fun _ => pure_furthers _
  next => exact pure_furthers _

end Furthers

/-- A consumer begins its session on the channel that it has. -/
theorem beginSession_does (run : Nat) (queue : String) {session : Session}
    (has : w.Has id session.channel) :
    Does id w (w.beginSession id run queue session) := by
  refine ((written_does ?_).trans (told_does rfl)).tail (.reported run queue)
  exact fun c found => ⟨rfl, rfl, rfl, fun _ on => on.elim .inl fun onto =>
      .inl (by rw [has c found]; exact onto), fun _ finished => (by cases finished),
    fun opening => (by cases opening), fun _ terminated => (by cases terminated)⟩

theorem beginSession_furthers (run : Nat) (queue : String) {channel : ManagedChannel}
    {session : Session} (on : session.channel = channel) :
    Furthers id channel (modify fun w : World => w.beginSession id run queue session) := by
  subst on
  refine modify_moves fun w has => ⟨beginSession_does run queue has, fun c found => ?_⟩
  have found' : (World.publish _ _).consumers.get? id = some c := found
  rw [publish_consumers, updateConsumer_get?, if_pos rfl] at found'
  obtain ⟨c₀, found₀, rfl⟩ := Option.map_eq_some_iff.mp found'
  exact has c₀ found₀

/-- A consumer without a channel opens its session. -/
theorem openSession_does (c : Consumer)
    (without : ∀ c, w.consumers.get? id = some c → c.channel = none) :
    Does id w ((openSession id c).run w).2 := by
  have passes := connection_passes w
  unfold openSession
  rw [run_get_bind]
  refine run_bind_moves (R := Does id) (fun _ _ _ => .trans) passes.does fun connection _ => ?_
  have opens := openChannel_does connection (passes.consumers ▸ without)
  cases opened : (openChannel id connection).run (World.connection.run w).2 with
  | mk result middle =>
    rw [opened] at opens
    cases result with
    | error error =>
      rw [run_bind_error opened]
      exact opens.1
    | ok channel =>
      rw [run_bind_ok opened]
      have begins : ∀ tag, Furthers id channel (modify fun w : World =>
          w.beginSession id c.run c.queue { channel, connection, consumerTag := tag }) :=
        fun tag => beginSession_furthers c.run c.queue rfl
      have limits : Furthers id channel (request fun client =>
          client.call .setPrefetch (·.setPrefetch channel.target w.plan.settings.prefetch)) :=
        request_furthers fun client => client.call_works .setPrefetch
          (.setPrefetch channel.target w.plan.settings.prefetch) trivial
          fun _ => (Broker.Reply.ofDone_snd _).symm
      refine opens.1.trans (Furthers.does ?_ (opens.2 channel rfl))
      refine limits.bind fun _ => (requestedTag_furthers c.queue).bind fun requested => ?_
      split
      next => exact .bind (subscribe_furthers c.queue requested channel) begins
      next => exact .bind (pollingTag_furthers c.queue requested) begins

theorem cancelSubscription_does (s : Session) : Does id w (w.cancelSubscription s) := by
  unfold cancelSubscription
  split
  next => exact .refl
  next =>
    exact asked_does (w.client.call_works .cancel (.cancel s.channel.target s.consumerTag) trivial
      fun _ => (Broker.Reply.ofDone_snd _).symm)

theorem drainHandoff_does : Does id w (w.drainHandoff id).2 := by
  unfold drainHandoff
  split
  next => exact .refl
  next =>
    refine Does.since (woken_does _) (.single (.handed fun other differ => ?_))
    rw [Table.get?_set, if_neg differ]

theorem closeSession_serves (s : Session) : Serves id (closeSession id s) := by
  refine .bind (modify_serves fun w => ?_) fun _ => .bind (atDesk_serves Desk.flush_asks)
    fun _ => .bind (modifyGet_moves fun w => drainHandoff_does) fun deliveries =>
      .bind (forIn_serves fun delivery => atDesk_serves fun post =>
        Desk.turnAway_asks post delivery.tag) fun _ w => .single .released
  refine (written_does ?_).trans (cancelSubscription_does s)
  exact fun _ _ => ⟨rfl, rfl, rfl, fun _ on => on, fun h => h, fun h => h, fun _ terminated => (by cases terminated)⟩

/-! ### Turns -/

/-- What a turn of a consumer is made of: it does something, and then it may end. -/
def Acts (id : Nat) (w w' : World) : Prop :=
  ∃ middle, Does id w middle ∧ (w' = middle ∨ ∃ result, w' = middle.finish id result)

theorem Does.acts (does : Does id w w') : Acts id w w' := ⟨w', does, .inl rfl⟩

theorem finish_acts (result : Except ClientError Unit) : Acts id w (w.finish id result) :=
  ⟨w, .refl, .inr ⟨result, rfl⟩⟩

/-- What comes last is looked at first. -/
theorem Acts.since (last : Acts id w' w'') (first : Does id w w') : Acts id w w'' := by
  obtain ⟨middle, does, ends⟩ := last
  exact ⟨middle, first.trans does, ends⟩

theorem fail_acts (s : Session) (error : ClientError) : Acts id w (w.fail id s error).2 :=
  finish_acts _

theorem proceed_acts (s : Session) {work : WorldWork Unit} (serves : Serves id work) :
    Acts id w (w.proceed id s work).2 := by
  have worked := serves w
  unfold proceed
  split
  next w' done =>
    rw [done] at worked
    exact Does.acts (worked.trans (setPhase_does (by rintro ⟨⟩) (by rintro ⟨⟩)))
  next error w' failed =>
    rw [failed] at worked
    exact (fail_acts s error).since worked

theorem settle_serves (s : Session) (tag : Nat) (outcome : Outcome)
    (transaction : Option TransactionHandle) : Serves id (settle id s tag outcome transaction) := by
  have concludes : ∀ handle ending requeue,
      Serves id (concludeTransaction id tag handle ending requeue) :=
    fun handle ending requeue => .bind (modifyGet_moves fun _ => noted_does) fun _ =>
      atDesk_serves fun post => Desk.conclude_asks post tag _ _ _
  unfold settle
  split
  next => exact atDesk_serves fun post => Desk.settle_asks post tag outcome
  next =>
    refine .bind get_serves fun w => ?_
    dsimp only
    split
    next => exact concludes _ _ _
    next => exact concludes _ _ _
    next => exact atDesk_serves fun post => Desk.perform_asks post tag _

theorem call_does (delivery : Delivery) (transaction : Option TransactionHandle) :
    Does id w (w.call id delivery transaction).2 :=
  setPhase_does (by rintro ⟨⟩) (by rintro ⟨⟩)

theorem process_acts (s : Session) (delivery : Delivery) :
    Acts id w (w.process id s delivery).2 := by
  have counted : Does id w (w.updateConsumer id fun c =>
      { c with
        idleStreak := 0
        activeStreak := c.activeStreak + 1
        deliveries := c.deliveries + 1
        lastDelivery := w.now }) :=
    written_does fun _ _ => ⟨rfl, rfl, rfl, fun _ on => on, fun h => h, fun h => h, fun h => h⟩
  unfold process
  dsimp only
  split
  next =>
    exact (proceed_acts s (atDesk_serves fun post =>
      Desk.turnAway_asks post delivery.tag)).since counted
  next =>
    split
    next =>
      split
      next => exact Does.acts (counted.trans (noted_does.trans (call_does delivery _)))
      next =>
        exact (proceed_acts s (atDesk_serves fun post => Desk.settle_asks post _ _)).since
          (counted.trans noted_does)
    next => exact Does.acts (counted.trans (call_does delivery none))

theorem tellIdle_does (s : Session) (interval : Duration) :
    Does id w (w.tellIdle id s interval) := by
  unfold tellIdle
  split
  next => exact .refl
  next =>
    dsimp only
    split
    next =>
      refine (told_does rfl).since (written_does ?_)
      exact fun _ _ => ⟨rfl, rfl, rfl, fun _ on => on, fun h => h, fun h => h, fun h => h⟩
    next => exact .refl

theorem idle_acts (s : Session) : Acts id w (w.idle id s).2 := by
  unfold idle
  dsimp only
  refine Acts.since (proceed_acts s ?_)
    (written_does fun _ _ => ⟨rfl, rfl, rfl, fun _ on => on, fun h => h, fun h => h, fun h => h⟩)
  refine .bind (atDesk_serves Desk.flush_asks) fun _ => .bind get_serves fun w => ?_
  split
  next interval _ => exact modify_serves fun w => tellIdle_does s interval
  next => exact pure_serves _

theorem recordAnswer_does (c : Consumer) (work : Listening) (result : Except ListenerError Unit) :
    Does id w (w.recordAnswer c work result) := by
  unfold recordAnswer
  dsimp only
  split
  next => exact noted_does
  next =>
    unfold tellError
    split
    next => exact noted_does
    next => exact noted_does

/-- The listener has used the channel of the session. -/
theorem putBench_does {c : Consumer} {s : Session} (found : w.consumers.get? id = some c)
    (opened : c.session = some s) (delivery : Delivery) {bench : Bench}
    (works : (w.bench s).Works (fun _ => True) bench) :
    Does id w (w.putBench id delivery bench) := by
  have on : c.On s.channel.target := .inr (by rw [opened]; rfl)
  have asked : Does id w ({ w with client := bench.client } : World) :=
    .single (.worked found on (works.client.mono fun _ _ allowed => allowed.1))
  refine Does.since (deliverNotices_passes _).does (Does.since (updateSession_does ?_)
    (asked.trans noted_does))
  intro c' s' found' opened'
  obtain rfl := Option.some.inj (found.symm.trans found')
  obtain rfl := Option.some.inj (opened.symm.trans opened')
  exact works.target

theorem setTimer_does (slot : TimerSlot) (t : Instant) :
    Does id w (w.setTimer (.consumer id) slot t) := .single (.timed slot t)

theorem listen_acts {c : Consumer} {s : Session} (found : w.consumers.get? id = some c)
    (opened : c.session = some s) (work : Listening) : Acts id w (w.listen id c s work).2 := by
  unfold listen
  split
  next =>
    have put : Does id w (w.putBench id work.call.delivery
        (work.call.resume w.plan.listener (w.bench s)).2) :=
      putBench_does found opened _ (work.call.resume_free w.plan.listener (w.bench s))
    dsimp only
    split
    next =>
      split
      next => exact Does.acts (put.trans (setPhase_does (by rintro ⟨⟩) (by rintro ⟨⟩)))
      next =>
        exact Does.acts (put.trans ((setPhase_does (by rintro ⟨⟩) (by rintro ⟨⟩)).trans
          (setTimer_does _ _)))
    next result _ =>
      exact (proceed_acts s (settle_serves s _ _ _)).since
        (put.trans (recordAnswer_does c work result))
  next => exact Does.acts .refl

theorem takeParcel_does (handoff : Handoff) (rest : List Parcel) :
    Does id w (w.takeParcel id handoff rest) := by
  refine Does.since (woken_does _) (.single (.handed fun other differ => ?_))
  rw [Table.get?_set, if_neg differ]

theorem receivePushed_acts (s : Session) (deadline : Option Instant) :
    Acts id w (w.receivePushed id s deadline).2 := by
  unfold receivePushed
  split
  next => exact fail_acts s _
  next handoff _ =>
    split
    next =>
      exact (process_acts s _).since ((takeParcel_does handoff _).tail (.untimed _))
    next => exact (fail_acts s _).since (takeParcel_does handoff _)
    next => exact (fail_acts s _).since (takeParcel_does handoff _)
    next =>
      split
      next => exact fail_acts s _
      next =>
        split
        next =>
          split
          next => exact idle_acts s
          next => exact Does.acts .refl
        next =>
          exact Does.acts ((setPhase_does (by rintro ⟨⟩) (by rintro ⟨⟩)).trans (setTimer_does _ _))

theorem receivePolled_acts (c : Consumer) (s : Session) (interval : Duration)
    (deadline : Instant) : Acts id w (w.receivePolled id c s interval deadline).2 := by
  have asked : Does id w ((request fun client => client.call .get
      (·.get s.channel.target c.queue w.plan.settings.ackMode.unacknowledged)).run w).2 :=
    request_serves (fun client => client.get_works _ _ _) w
  unfold receivePolled
  dsimp only
  split
  next error w' failed =>
    rw [failed] at asked
    exact (fail_acts s error).since asked
  next delivery w' answered =>
    rw [answered] at asked
    exact (process_acts s delivery).since asked
  next w' answered =>
    rw [answered] at asked
    split
    next => exact (idle_acts s).since asked
    next =>
      exact Does.acts (asked.trans ((setPhase_does (by rintro ⟨⟩) (by rintro ⟨⟩)).trans
        (setTimer_does _ _)))

theorem stopReceiving_acts (s : Session) : Acts id w (w.stopReceiving id s).2 :=
  (finish_acts _).since (Does.since (closeSession_serves s _) (.single (.untimed .deadline)))

theorem receive_acts {c : Consumer} {s : Session} (found : w.consumers.get? id = some c)
    (opened : c.session = some s) : Acts id w (w.receive id c s).2 := by
  unfold receive
  split
  next deadline _ =>
    split
    next => exact stopReceiving_acts s
    next =>
      split
      next => exact receivePushed_acts s deadline
      next => exact receivePolled_acts c s _ _
  next =>
    split
    next => exact stopReceiving_acts s
    next =>
      split
      next => exact Does.acts .refl
      next =>
        split
        next => exact receivePolled_acts c s _ _
        next => exact Does.acts .refl
  next work _ => exact listen_acts found opened work
  next => exact Does.acts .refl
  next => exact Does.acts .refl

/-- **What a turn of a consumer is made of**, as long as it has no channel before it begins. -/
theorem consumerTurn_acts (w : World) (id : Nat)
    (without : ∀ c, w.consumers.get? id = some c → c.phase = .opening → c.channel = none) :
    Acts id w (w.consumerTurn id).2 := by
  unfold consumerTurn
  split
  next => exact Does.acts .refl
  next c found =>
    split
    next opening =>
      have opened : Does id w ((openSession id c).run w).2 := openSession_does c fun c' found' => by
        obtain rfl := Option.some.inj (found.symm.trans found')
        exact without c found opening
      split
      next w' done =>
        rw [done] at opened
        exact Does.acts opened
      next error w' failed =>
        rw [failed] at opened
        exact (finish_acts _).since opened
    next => exact Does.acts .refl
    next => exact receive_acts found ‹_›
    next => exact Does.acts .refl

/-! ### The two ends of a consumer -/

theorem wakeAll_passes (w : World) (tasks : List Task) :
    w.Passes { w with agenda := w.agenda.wakeAll tasks } := by
  induction tasks generalizing w with
  | nil => exact .refl
  | cons task tasks ih => exact .head (.woken task) (ih (w.wake task))

/-- A consumer that is finished already is taken out of the schedule again. -/
theorem retireTask_effects {c : Consumer} (found : w.consumers.get? id = some c)
    (done : c.phase = .finished) : Effects task w (w.retireTask id) := by
  have rested : Effects task w ((w.cancelTimer (.consumer id) .deadline).setPhase id .finished) := by
    refine (Relation.ReflTransGen.single (.rested id .deadline)).tail (.touched fun c' found' => ?_)
    obtain rfl := Option.some.inj (found.symm.trans found')
    exact ⟨rfl, rfl, rfl, rfl, done.symm, fun _ => rfl, rfl, fun h => h⟩
  have gone : ((w.cancelTimer (.consumer id) .deadline).setPhase id .finished).consumers.get? id =
      some { c with phase := .finished } :=
    (Table.get?_modify_self _ _ _).trans (by rw [show (w.cancelTimer (.consumer id)
      .deadline).consumers.get? id = some c from found, Option.map_some])
  refine (rested.tail (.dropped gone rfl)).trans (Passes.effects ?_)
  unfold retireTask
  dsimp only
  exact wakeAll_passes _ _

/-- **A consumer ends**, by a failure or otherwise. -/
theorem finish_effects (busy : w.isFinished id = false) (result : Except ClientError Unit) :
    Effects task w (w.finish id result) := by
  obtain ⟨c, found, working⟩ := isFinished_eq_false.mp busy
  have released : (w.releaseChannel id).2.consumers.get? id = some { c with channel := none } := by
    rw [releaseChannel_get?, if_pos rfl, found]
    rfl
  unfold finish
  dsimp only
  rw [released]
  dsimp only
  have told : ∀ report : Report, report.ended? = some id →
      ∀ r ∈ some report, r.ended? = some id := by
    rintro report about _ ⟨⟩
    exact about
  split
  next error _ =>
    exact .single (.ended found working _ .failed _ rfl (some (.failed id c.queue error))
      (told _ rfl))
  next =>
    exact .single (.ended found working _ .terminated _ rfl (some (.terminated id c.queue))
      (told _ rfl))

/-- Nothing is written about a consumer that could not have been written by a forced end: it has
terminated just when it is finished. -/
def Closable (w : World) (id : Nat) : Prop :=
  ∀ c, w.consumers.get? id = some c → (c.phase = .finished ↔ c.state = .terminated)

theorem forceClose_get? (w : World) (id other : Nat) :
    (w.forceClose id).consumers.get? other =
      if other = id then (w.consumers.get? id).map fun c =>
        { c with channel := none, state := .terminated, phase := .finished }
      else w.consumers.get? other := by
  unfold forceClose
  dsimp only
  cases found : (w.releaseChannel id).2.consumers.get? id with
  | none =>
    dsimp only
    rw [releaseChannel_get?] at found ⊢
    rw [if_pos rfl, Option.map_eq_none_iff] at found
    rw [found]
    rfl
  | some c =>
    have written : ∀ middle : World, middle.consumers =
        ((w.releaseChannel id).2.updateConsumer id fun c =>
          { c with state := .terminated }).consumers →
        (middle.retireTask id).consumers.get? other = if other = id then
          (w.consumers.get? id).map fun c =>
            { c with channel := none, state := .terminated, phase := .finished }
          else w.consumers.get? other := by
      intro middle same
      show (middle.consumers.modify id _).get? other = _
      rw [same, Table.get?_modify, updateConsumer_get?, releaseChannel_get?]
      split
      next => rw [Option.map_map, Option.map_map]; rfl
      next => rfl
    dsimp only
    split
    next => exact written _ rfl
    next => exact written _ (publish_consumers _ _)

/-- **A consumer is ended by force.** -/
theorem forceClose_effects (closable : w.Closable id) : Effects task w (w.forceClose id) := by
  have released : (w.releaseChannel id).2.consumers.get? id =
      (w.consumers.get? id).map fun c => { c with channel := none } := by
    rw [releaseChannel_get?, if_pos rfl]
  unfold forceClose
  dsimp only
  cases found : w.consumers.get? id with
  | none =>
    rw [released, found]
    exact .single (.released (isFinished_eq_true.mpr (by simp [found])))
  | some c =>
    rw [released, found, Option.map_some]
    dsimp only
    rw [found, Option.map_some] at released
    by_cases gone : c.state = .terminated
    · rw [if_pos gone]
      have finished : c.phase = .finished := (closable c found).mpr gone
      have done : w.isFinished id = true := isFinished_eq_true.mpr fun c' found' => by
        obtain rfl := Option.some.inj (found.symm.trans found')
        exact finished
      refine Relation.ReflTransGen.head (.released done) (Relation.ReflTransGen.head
        (.touched fun c' found' => ?_) (retireTask_effects
          (c := { c with channel := none, state := .terminated }) ?_ finished))
      · rw [found'] at released
        cases released
        exact ⟨rfl, rfl, rfl, rfl, rfl, fun working => absurd finished working, rfl, fun h => h⟩
      · rw [updateConsumer_get?, if_pos rfl, released]
        rfl
    · rw [if_neg gone]
      exact .single (.ended found (fun finished => gone ((closable c found).mp finished)) _
        .terminated _ rfl none (by rintro _ ⟨⟩))

/-- Whoever could be ended by force can be so when another one, or it, was. -/
theorem Closable.forceClose {other : Nat} (closable : w.Closable other) (id : Nat) :
    (w.forceClose id).Closable other := by
  intro c found
  rw [forceClose_get?] at found
  split at found
  next =>
    obtain ⟨c₀, -, rfl⟩ := Option.map_eq_some_iff.mp found
    exact ⟨fun _ => rfl, fun _ => rfl⟩
  next => exact closable c found

/-- Several consumers are ended by force. -/
theorem forceCloseAll_effects {ids : List Nat} (closable : ∀ id ∈ ids, w.Closable id) :
    Effects task w (ids.foldl forceClose w) := by
  induction ids generalizing w with
  | nil => exact .refl
  | cons id ids ih =>
    refine (forceClose_effects (closable id (List.mem_cons_self))).trans (ih fun other among => ?_)
    exact (closable other (List.mem_cons_of_mem _ among)).forceClose id

/-! ### Whole turns -/

/-- Whoever has yet to open its session has no channel. -/
def Unopened (w : World) : Prop :=
  ∀ id c, w.consumers.get? id = some c → c.phase = .opening → c.channel = none

/-- A turn of a consumer that is finished does nothing. -/
theorem consumerTurn_of_finished (done : w.isFinished id = true) : (w.consumerTurn id).2 = w := by
  unfold consumerTurn
  split
  next => rfl
  next c found =>
    rw [isFinished_eq_true.mp done c found]
    rfl

/-- A consumer that ends is finished. -/
theorem finish_finishes (result : Except ClientError Unit) :
    (w.finish id result).isFinished id = true := by
  have retired : ∀ middle : World, (middle.retireTask id).isFinished id = true := by
    refine fun middle => isFinished_eq_true.mpr fun c found => ?_
    have found' : (middle.consumers.modify id fun c => { c with phase := .finished }).get? id =
      some c := found
    rw [Table.get?_modify_self] at found'
    obtain ⟨_, -, rfl⟩ := Option.map_eq_some_iff.mp found'
    rfl
  unfold finish
  dsimp only
  split
  next lost =>
    refine isFinished_eq_true.mpr fun c found => ?_
    rw [lost] at found
    cases found
  next => exact retired _

/-- A session that was opened is one in which the consumer is ready to receive. -/
theorem openSession_begins {c : Consumer} (opened : (openSession id c).run w = (.ok (), w')) :
    ∃ (middle : World) (session : Session), w' = middle.beginSession id c.run c.queue session := by
  unfold openSession at opened
  rw [run_get_bind] at opened
  obtain ⟨connection, w₁, -, opened⟩ := run_bind_inv opened
  obtain ⟨channel, w₂, -, opened⟩ := run_bind_inv opened
  obtain ⟨_, w₃, -, opened⟩ := run_bind_inv opened
  obtain ⟨requested, w₄, -, opened⟩ := run_bind_inv opened
  split at opened
  all_goals
    obtain ⟨tag, middle, -, begun⟩ := run_bind_inv opened
    cases begun
    exact ⟨middle, _, rfl⟩

theorem beginSession_begun (run : Nat) (queue : String) (session : Session) {c : Consumer}
    (found : (w.beginSession id run queue session).consumers.get? id = some c) :
    c.phase ≠ .opening := by
  have found' : (World.publish _ _).consumers.get? id = some c := found
  rw [publish_consumers, updateConsumer_get?, if_pos rfl] at found'
  obtain ⟨_, -, rfl⟩ := Option.map_eq_some_iff.mp found'
  rintro ⟨⟩

/-- **After its turn a consumer has opened its session**, or is finished. -/
theorem consumerTurn_begun (unopened : w.Unopened) {c : Consumer}
    (found : (w.consumerTurn id).2.consumers.get? id = some c) : c.phase ≠ .opening := by
  have ended : ∀ (middle : World) (result : Except ClientError Unit) (c : Consumer),
      (middle.finish id result).consumers.get? id = some c → c.phase ≠ .opening := by
    intro middle result c found opening
    rw [isFinished_eq_true.mp (finish_finishes result) c found] at opening
    cases opening
  cases found₀ : w.consumers.get? id with
  | none =>
    rw [consumerTurn_of_finished (isFinished_eq_true.mpr (by simp [found₀])), found₀] at found
    cases found
  | some c₀ =>
    by_cases opening : c₀.phase = .opening
    · unfold consumerTurn at found
      rw [found₀] at found
      dsimp only at found
      rw [opening] at found
      dsimp only at found
      split at found
      next w' opened =>
        obtain ⟨middle, session, rfl⟩ := openSession_begins opened
        exact beginSession_begun _ _ _ found
      next => exact ended _ _ _ found
    · obtain ⟨middle, does, same | ⟨result, same⟩⟩ := consumerTurn_acts w id (unopened id)
      · obtain ⟨c', found', begun⟩ := does.begun found₀ opening
        rw [same, found'] at found
        cases found
        exact begun
      · exact ended middle result c (same ▸ found)

/-- A turn of the feed of a consumer concerns no consumer. -/
theorem feedTurn_passes (w : World) (id : Nat) : w.Passes (w.feedTurn id).2 := by
  unfold feedTurn
  split
  next => exact .refl
  next =>
    dsimp only
    have fed := Relation.ReflTransGen.single (Aside.fed ‹_›)
    split
    next => exact fed.tail (.woken _)
    next => exact fed.tail (.woken _)
    next => exact fed

/-- **A turn of a consumer leaves the administration of the container alone.** -/
theorem consumerTurn_quiet (unopened : w.Unopened) (id : Nat) : w.Quiet (w.consumerTurn id).2 := by
  cases busy : w.isFinished id with
  | true =>
    rw [consumerTurn_of_finished busy]
    exact .refl w
  | false =>
    obtain ⟨middle, does, same | ⟨result, same⟩⟩ := consumerTurn_acts w id (unopened id)
    · exact same ▸ does.quiet
    · have ended : Effects (.consumer id) middle (middle.finish id result) :=
        finish_effects (does.busy busy) result
      exact same ▸ does.quiet.trans ended.quiet

end World

end QueueListener
