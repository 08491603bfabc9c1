import QueueListener.Proofs.Consumer.Keeping
import QueueListener.Proofs.Container.Division
import QueueListener.Proofs.Container.Shifts
/-!
# What others leave of a consumer

**Others take nothing away from what a consumer was sent**: they settle on their own channels, and what
they do at the broker only adds to the deliveries that wait for the consumer. So it is with whatever
moves a container, unless it is a turn of the consumer itself.

* `World.waiting`, `World.buffered` — what a consumer was sent and has not taken up;
* `World.Tends` — the line of a consumer is kept, and nothing that is buffered is lost;
* `World.Expects` — a consumer has a channel, or may yet open it;
* `World.Beside`, `Outcome.beside` — what is left of a consumer by what is not its own doing.
-/

namespace QueueListener

/-- What is left of a consumer that goes on without a turn of its own: at most it is asked to stop. -/
structure Consumer.Kin (c c' : Consumer) : Prop where
  phase : c'.phase = c.phase
  session : c'.session = c.session
  channel : c'.channel = c.channel
  stopped : c.stopRequested = true → c'.stopRequested = true

/-- What is on record of a consumer after others had their turns. -/
inductive Consumer.Follows : Option Consumer → Option Consumer → Prop
  | absent : Follows none none
  | new {c : Consumer} (phase : c.phase = .opening) (session : c.session = none)
      (channel : c.channel = none) : Follows none (some c)
  | kept {c c' : Consumer} (kin : c.Kin c') : Follows (some c) (some c')
  | ended {before : Option Consumer} {c : Consumer} (done : c.phase = .finished) :
      Follows before (some c)

/-- An operation of others that registers nobody for a consumer, and settles on a channel only what
they are free to settle. -/
def Broker.Op.Respects (id channel : Nat) (freed : Nat → Prop) : Op → Prop
  | .consume _ _ _ _ subscriber => subscriber ≠ id
  | .acknowledge other s => other = channel → ∀ tag, s.covers tag = true → freed tag
  | _ => True

/-- A move that is no turn of a consumer, and respects its channel if it is an operation at the
broker. -/
structure Move.Respects (move : Move) (id channel : Nat) (freed : Nat → Prop) : Prop where
  other : move ≠ .turn (.consumer id)
  respects : ∀ op, move = .administer op → op.Respects id channel freed

namespace Consumer

variable {c c' c'' : Consumer} {before after later : Option Consumer}

theorem Kin.refl (c : Consumer) : c.Kin c := ⟨rfl, rfl, rfl, id⟩

theorem Kin.trans (first : c.Kin c') (second : c'.Kin c'') : c.Kin c'' where
  phase := second.phase.trans first.phase
  session := second.session.trans first.session
  channel := second.channel.trans first.channel
  stopped stop := second.stopped (first.stopped stop)

theorem Kin.on (kin : c.Kin c') {channel : Nat} (on : c'.On channel) : c.On channel := by
  unfold On at on ⊢
  rwa [kin.channel, kin.session] at on

theorem Follows.refl (before : Option Consumer) : Follows before before := by
  cases before with
  | none => exact .absent
  | some c => exact .kept (.refl c)

theorem Follows.of_eq (same : after = before) : Follows before after := same ▸ .refl before

theorem Follows.trans (first : Follows before after) (second : Follows after later) :
    Follows before later := by
  cases second with
  | absent => exact first
  | new phase session channel =>
    cases first
    exact .new phase session channel
  | ended done => exact .ended done
  | kept kin' =>
    cases first with
    | new phase session channel =>
      exact .new (kin'.phase.trans phase) (kin'.session.trans session) (kin'.channel.trans channel)
    | kept kin => exact .kept (kin.trans kin')
    | ended done => exact .ended (kin'.phase.trans done)

end Consumer

/-- A channel that is opened keeps every line. -/
theorem Client.call_createChannel_keeps (line : Line) (c : Client) (tidy : c.broker.Tidy)
    (connection : Nat) (transactional : Bool) :
    line.Keeps c.broker
      (c.call .createChannel (·.createChannel connection transactional)).2.broker := by
  unfold call
  split
  next => exact .refl line _
  next => exact Line.createChannel_keeps _ tidy.fresh connection transactional

namespace World

/-- The deliveries in the handoff of a consumer, oldest first. -/
def waiting (w : World) (id : Nat) : List Delivery :=
  ((w.handoffs.get? id).map (·.deliveries)).getD []

/-- Everything that a consumer was sent and has not taken up: what is in its handoff, and what the
broker has yet to hand over. -/
def buffered (w : World) (id : Nat) : List Delivery :=
  w.waiting id ++ w.client.broker.deliveriesFor id

/-- What a subscriber was sent and has not taken up is unsettled, in the order of the tags. -/
def Lined (w : World) (line : Line) : Prop :=
  w.client.broker.Lines line (w.waiting line.subscriber)

/-- A consumer has a channel, or may yet open it. -/
def Expects (w : World) (id channel : Nat) : Prop :=
  (w.client.broker.lastId < channel ∧ ∀ c, w.consumers.get? id = some c → c.phase = .opening) ∨
    ∃ c, w.consumers.get? id = some c ∧ c.phase ≠ .finished ∧ c.On channel

/-- The line of a consumer is kept, and what was in its handoff stays. -/
structure Tends (line : Line) (w w' : World) : Prop where
  lined : w.Lined line → w'.Lined line
  handed : ∀ h, w.handoffs.get? line.subscriber = some h → h.accepting = true →
    ∃ h', w'.handoffs.get? line.subscriber = some h' ∧ h'.accepting = true ∧
      w.buffered line.subscriber <+: w'.buffered line.subscriber

variable {w w' w'' : World} {line : Line} {id other channel : Nat} {freed : Nat → Prop}
  {task : Task} {move : Move}

theorem waiting_eq {h : Handoff} (handed : w.handoffs.get? id = some h) :
    w.waiting id = h.deliveries := by
  unfold waiting
  rw [handed]
  rfl

theorem waiting_congr (same : w'.handoffs.get? id = w.handoffs.get? id) :
    w'.waiting id = w.waiting id := by
  unfold waiting
  rw [same]

namespace Tends

theorem refl (line : Line) (w : World) : Tends line w w :=
  ⟨id, fun h handed accepting => ⟨h, handed, accepting, List.prefix_refl _⟩⟩

theorem trans (first : Tends line w w') (second : Tends line w' w'') : Tends line w w'' := by
  refine ⟨fun lined => second.lined (first.lined lined), fun h handed accepting => ?_⟩
  obtain ⟨h', handed', accepting', kept⟩ := first.handed h handed accepting
  obtain ⟨h'', handed'', accepting'', kept'⟩ := second.handed h' handed' accepting'
  exact ⟨h'', handed'', accepting'', kept.trans kept'⟩

/-- The handoff is left alone, and the broker keeps the line. -/
theorem of_keeps (keeps : line.Keeps w.client.broker w'.client.broker)
    (same : w'.handoffs.get? line.subscriber = w.handoffs.get? line.subscriber) :
    Tends line w w' := by
  have waiting := waiting_congr same
  refine ⟨fun lined => ?_, fun h handed accepting => ⟨h, same.trans handed, accepting, ?_⟩⟩
  · unfold Lined
    rw [waiting]
    exact keeps.lines _ lined
  · obtain ⟨news, told⟩ := keeps.tells
    unfold buffered
    rw [waiting, told, ← List.append_assoc]
    exact List.prefix_append _ _

theorem of_same (client : w'.client = w.client)
    (same : w'.handoffs.get? line.subscriber = w.handoffs.get? line.subscriber) :
    Tends line w w' := of_keeps (client ▸ .refl line _) same

/-- What waits in the handoff becomes less. -/
theorem of_fewer (client : w'.client = w.client)
    (less : (w'.waiting line.subscriber).Sublist (w.waiting line.subscriber))
    (handed : ∀ h, w.handoffs.get? line.subscriber = some h → h.accepting = true →
      ∃ h', w'.handoffs.get? line.subscriber = some h' ∧ h'.accepting = true ∧
        h'.deliveries = h.deliveries) : Tends line w w' := by
  refine ⟨fun lined => ?_, fun h found accepting => ?_⟩
  · unfold Lined
    rw [client]
    exact Broker.Lines.fewer lined rfl rfl (less.append_right _)
  · obtain ⟨h', found', accepting', same⟩ := handed h found accepting
    have kept : w'.buffered line.subscriber = w.buffered line.subscriber := by
      unfold buffered
      rw [waiting_eq found, waiting_eq found', same, client]
    exact ⟨h', found', accepting', kept ▸ List.prefix_refl _⟩

end Tends

/-! ### What concerns no consumer -/

/-- Nobody gets a handoff from the broker. -/
theorem deliverNotices_unhanded (none : w.handoffs.get? id = none) :
    w.deliverNotices.handoffs.get? id = .none := by
  have all : ∀ (notices : List (Nat × Notice)) (w : World), w.handoffs.get? id = .none →
      (notices.foldl deliverNotice w).handoffs.get? id = .none := by
    intro notices
    induction notices with
    | nil => exact fun _ none => none
    | cons notice notices ih =>
      refine fun w none => ih _ ?_
      unfold deliverNotice
      split
      next =>
        show (w.handoffs.modify notice.1 _).get? id = _
        rw [Table.get?_modify, none]
        split <;> rfl
      next => exact none
  unfold deliverNotices
  dsimp only
  rw [← Array.foldl_toList]
  exact all _ { w with client := { w.client with broker := w.client.broker.collectNotices.2 } } none

/-- **What the broker has to tell goes on to the handoff.** -/
theorem deliverNotices_tends (line : Line) (w : World) : Tends line w w.deliverNotices := by
  obtain ⟨client, -, -, -, handoffs⟩ := w.deliverNotices_frame
  cases handed : w.handoffs.get? line.subscriber with
  | none =>
    have none : w.deliverNotices.waiting line.subscriber = [] := by
      unfold waiting
      rw [deliverNotices_unhanded handed]
      rfl
    refine ⟨fun lined => ?_, fun h found => by rw [handed] at found; cases found⟩
    unfold Lined
    rw [client, none]
    exact Broker.Lines.fewer lined rfl rfl (List.nil_sublist _)
  | some h =>
    have handed' := handoffs line.subscriber h handed
    have waiting : w.deliverNotices.waiting line.subscriber = w.buffered line.subscriber := by
      rw [buffered, waiting_eq handed', waiting_eq handed, deliveriesFor_eq]
      unfold Handoff.deliveries
      rw [List.filterMap_append, ← List.append_assoc]
      rfl
    refine ⟨fun lined => ?_, fun h₀ found accepting => ⟨_, handed', ?_, ?_⟩⟩
    · unfold Lined
      rw [client, waiting]
      exact Broker.Lines.collect lined
    · obtain rfl := Option.some.inj (handed.symm.trans found)
      exact accepting
    · unfold buffered
      rw [client, waiting]
      exact List.prefix_append _ _

/-- A handoff that is fed loses at most what its consumer does not take any more. -/
theorem feed_sublist (h : Handoff) : h.feed.2.deliveries.Sublist h.deliveries := by
  by_cases accepting : h.accepting = true
  · rw [feed_deliveries h accepting]
  · have closed : (!h.accepting) = true := by simpa using accepting
    unfold Handoff.feed Handoff.putLast
    split
    next => exact List.Sublist.refl _
    next =>
      split
      next => exact List.Sublist.refl _
      next delivery rest waiting =>
        simp [Handoff.deliveries, Handoff.drain, waiting]
      next rest waiting =>
        simp [Handoff.deliveries, Handoff.drain, waiting]
      next cause rest waiting =>
        simp [Handoff.deliveries, Handoff.drain, waiting]
      next rest waiting => simp [Handoff.deliveries, Handoff.drain, waiting]

theorem feed_accepting (h : Handoff) : h.feed.2.accepting = h.accepting := by
  unfold Handoff.feed Handoff.putLast
  repeat' split
  all_goals rfl

theorem Aside.tends (line : Line) (aside : w.Aside w') : Tends line w w' := by
  cases aside with
  | asked works => exact .of_keeps (works.keeps fun _ => False.elim) rfl
  | delivered => exact deliverNotices_tends line w
  | @fed owner h found =>
    by_cases mine : owner = line.subscriber
    · subst mine
      have fed : (w.handoffs.set line.subscriber h.feed.2).get? line.subscriber =
          some h.feed.2 := by rw [Table.get?_set, if_pos rfl]
      refine .of_fewer rfl ?_ fun h₀ found₀ accepting => ?_
      · rw [waiting_eq found, waiting_eq fed]
        exact feed_sublist h
      · obtain rfl := Option.some.inj (found.symm.trans found₀)
        exact ⟨_, fed, (feed_accepting h).trans accepting, feed_deliveries h accepting⟩
    · refine .of_same rfl ?_
      show (w.handoffs.set owner _).get? _ = _
      rw [Table.get?_set, if_neg (Ne.symm mine)]
  | noted | woken => exact .of_same rfl rfl
  | told passing => exact .of_same (publish_client w _) (by rw [publish_handoffs])

/-- The end of a channel keeps every line. -/
theorem releaseChannel_tends (line : Line) (w : World) (id : Nat) :
    Tends line w (w.releaseChannel id).2 := by
  obtain same | ⟨channel, -, same⟩ := w.releaseChannel_shape id
  · rw [same]
    exact .refl line w
  · rw [same]
    have works : w.client.Works (fun _ _ => False) (channel.release w.client).2.2 :=
      channel.release_works w.client
    have released : Tends line w (({ w with client := (channel.release w.client).2.2 } :
        World).updateConsumer id fun c => { c with channel := none }) :=
      .of_keeps (works.keeps fun _ => False.elim) rfl
    exact released.trans (deliverNotices_tends line _)

/-! ### Other consumers -/

/-- Nobody else has the channel on which a consumer counts. -/
theorem Divided.apart (divided : w.Divided) (expects : w.Expects id channel) (differ : other ≠ id)
    {c : Consumer} (found : w.consumers.get? other = some c) {number : Nat} (on : c.On number) :
    number ≠ channel := by
  rintro rfl
  obtain ⟨unborn, -⟩ | ⟨c', found', -, on'⟩ := expects
  · exact absurd (divided.numbered other c number found on) (Nat.not_le.mpr unborn)
  · exact differ (divided.sole other id c c' number found found' on on')

/-- **What another consumer does keeps the line.** -/
theorem Doing.tends (doing : Doing other w w') (divided : w.Divided)
    (differ : other ≠ line.subscriber) (expects : w.Expects line.subscriber line.channel) :
    Tends line w w' := by
  cases doing with
  | aside aside => exact aside.tends line
  | worked found on works =>
    refine .of_keeps (works.keeps fun _ here => ?_) rfl
    exact absurd here.symm (divided.apart expects differ found on)
  | subscribed channel queue requested autoAck =>
    refine .of_keeps ?_ rfl
    unfold Client.call
    split
    next => exact .refl line _
    next => exact Line.consume_keeps _ queue requested fun mine => absurd mine differ
  | handed others => exact .of_same rfl (others _ (Ne.symm differ))
  | timed | untimed | written | reported => exact .of_same rfl rfl
  | @opened connection target transactional client channel without ran of =>
    have kept : line.Keeps w.client.broker client.broker := by
      have called := w.client.call_createChannel_keeps line divided.tidy connection
        transactional
      rwa [ran] at called
    have asked : Tends line w { w with client } := .of_keeps kept rfl
    exact (asked.trans (deliverNotices_tends line _)).trans (.of_same rfl rfl)
  | released => exact releaseChannel_tends line w other

/-! ### What is not the consumer's own doing -/

/-- What is left of a consumer and of its channel by what is not its own doing. -/
structure Beside (id channel : Nat) (freed : Nat → Prop) (w w' : World) : Prop where
  divided : w'.Divided
  lastId : w.client.broker.lastId ≤ w'.client.broker.lastId
  follows : Consumer.Follows (w.consumers.get? id) (w'.consumers.get? id)
  tends : w'.Expects id channel → ∀ floor, Tends ⟨id, channel, floor, freed⟩ w w'

/-- A consumer that expects a channel has expected it before. -/
theorem Expects.before (expects : w'.Expects id channel)
    (lastId : w.client.broker.lastId ≤ w'.client.broker.lastId)
    (follows : Consumer.Follows (w.consumers.get? id) (w'.consumers.get? id)) :
    w.Expects id channel := by
  obtain ⟨unborn, opening⟩ | ⟨c', found', busy, on⟩ := expects
  · refine .inl ⟨Nat.lt_of_le_of_lt lastId unborn, fun c found => ?_⟩
    rw [found] at follows
    generalize same : w'.consumers.get? id = after at follows
    cases follows with
    | kept kin => exact kin.phase.symm.trans (opening _ same)
    | ended done => cases done.symm.trans (opening _ same)
  · rw [found'] at follows
    generalize same : w.consumers.get? id = before at follows
    cases follows with
    | new _ session channel =>
      unfold Consumer.On at on
      rw [session, channel] at on
      obtain none | none := on <;> cases none
    | @kept c _ kin => exact .inr ⟨c, same, fun done => busy (kin.phase.trans done), kin.on on⟩
    | ended done => exact absurd done busy

theorem Beside.expects (beside : Beside id channel freed w w') (expects : w'.Expects id channel) :
    w.Expects id channel := expects.before beside.lastId beside.follows

theorem Beside.refl (divided : w.Divided) : Beside id channel freed w w where
  divided := divided
  lastId := Nat.le_refl _
  follows := .refl _
  tends _ _ := .refl _ w

theorem Beside.trans (first : Beside id channel freed w w')
    (second : Beside id channel freed w' w'') : Beside id channel freed w w'' where
  divided := second.divided
  lastId := Nat.le_trans first.lastId second.lastId
  follows := first.follows.trans second.follows
  tends expects floor :=
    (first.tends (second.expects expects) floor).trans (second.tends expects floor)

/-- Nothing has changed for a consumer. -/
theorem Beside.of_same (divided : w.Divided) (client : w'.client = w.client)
    (consumers : w'.consumers = w.consumers) (handoffs : w'.handoffs = w.handoffs) :
    Beside id channel freed w w' where
  divided := divided.of_same (client ▸ .refl _) consumers
  lastId := Nat.le_of_eq (by rw [client])
  follows := .of_eq (by rw [consumers])
  tends _ _ := .of_same client (by rw [handoffs])

theorem Aside.beside (aside : w.Aside w') (divided : w.Divided) :
    Beside id channel freed w w' where
  divided := aside.divided divided
  lastId := (aside.ages divided.tidy).2
  follows := .of_eq (by rw [aside.consumers])
  tends _ _ := aside.tends _

theorem Doing.beside (doing : Doing other w w') (differ : other ≠ id) (divided : w.Divided) :
    Beside id channel freed w w' := by
  have lastId := (doing.ages divided.tidy).2
  have follows : Consumer.Follows (w.consumers.get? id) (w'.consumers.get? id) :=
    .of_eq (doing.others (Ne.symm differ))
  exact ⟨doing.divided divided, lastId, follows, fun expects floor =>
    doing.tends divided differ (expects.before lastId follows)⟩

theorem Does.beside (does : Does other w w') (differ : other ≠ id) (divided : w.Divided) :
    Beside id channel freed w w' := by
  induction does with
  | refl => exact .refl divided
  | tail before doing ih => exact ih.trans (doing.beside differ ih.divided)

/-- A consumer that is finished expects nothing. -/
theorem Expects.working (expects : w.Expects id channel) {c : Consumer}
    (found : w.consumers.get? id = some c) : c.phase ≠ .finished := by
  intro done
  obtain ⟨-, opening⟩ | ⟨c', found', busy, -⟩ := expects
  · cases done.symm.trans (opening c found)
  · obtain rfl := Option.some.inj (found.symm.trans found')
    exact busy done

theorem Effect.beside (effect : Effect task w w') (divided : w.Divided) :
    Beside id channel freed w w' := by
  cases effect with
  | aside aside => exact aside.beside divided
  | timed | untimed | rested => exact .of_same divided rfl rfl rfl
  | @released owner done =>
    refine ⟨releaseChannel_divided divided owner, (releaseChannel_ages w owner divided.tidy).2, ?_,
      fun _ _ => releaseChannel_tends _ w owner⟩
    rw [releaseChannel_get?]
    split
    next here =>
      subst here
      cases found : w.consumers.get? id with
      | none => exact .absent
      | some c => exact .ended (isFinished_eq_true.mp done c found)
    next => exact .refl _
  | @dropped owner c found done =>
    refine ⟨divided.of_same (.refl _) rfl, Nat.le_refl _, .refl _, fun expects floor => ?_⟩
    refine .of_same rfl (Table.get?_erase_of_ne _ ?_)
    rintro rfl
    exact expects.working found done
  | @touched owner f same =>
    refine ⟨(Effect.touched same : Effect task w _).divided divided, Nat.le_refl _, ?_,
      fun _ _ => .of_same rfl rfl⟩
    rw [updateConsumer_get?]
    split
    next here =>
      subst here
      cases found : w.consumers.get? id with
      | none => exact .absent
      | some c =>
        obtain ⟨-, -, -, channel, phase, -, session, stopped⟩ := same c found
        exact .kept ⟨phase, session, channel, stopped⟩
    next => exact .refl _
  | @ended owner c found busy metrics state event told report about =>
    obtain ⟨client, handoffs⟩ :=
      ended_frame (w.releaseChannel owner).2 owner c.run metrics state event report
    have consumers :=
      ended_consumers (w.releaseChannel owner).2 owner c.run metrics state event report
    refine ⟨(Effect.ended found busy metrics state event told report about :
      Effect task w _).divided divided, ?_, ?_, fun expects floor => ?_⟩
    · rw [client]
      exact (releaseChannel_ages w owner divided.tidy).2
    · rw [consumers, Table.get?_modify, Table.get?_modify, releaseChannel_get?]
      split
      next here =>
        subst here
        rw [found]
        exact .ended rfl
      next => exact .refl _
    · refine (releaseChannel_tends _ w owner).trans (.of_same client ?_)
      rw [handoffs]
      refine Table.get?_erase_of_ne _ ?_
      rintro rfl
      have gone : (((((({ (w.releaseChannel id).2 with metrics } : World).updateConsumer id fun c =>
          { c with state }).publish event).reportAny c.run report).retireTask
            id).consumers).get? id = some { c with channel := none, state, phase := .finished } := by
        rw [consumers, Table.get?_modify_self, Table.get?_modify_self, releaseChannel_get?,
          if_pos rfl, found]
        rfl
      exact expects.working gone rfl

theorem Effects.beside (effects : Effects task w w') (divided : w.Divided) :
    Beside id channel freed w w' := by
  induction effects with
  | refl => exact .refl divided
  | tail _ effect ih => exact ih.trans (effect.beside ih.divided)

/-! ### The administration -/

/-- A consumer that is started is new. -/
theorem spawn_beside {consumer : Nat × String} (fresh : w.consumers.get? consumer.1 = none)
    (divided : w.Divided) : Beside id channel freed w (w.spawn consumer) := by
  have got : ∀ other, (w.spawn consumer).consumers.get? other =
      if other = consumer.1 then some (w.newConsumer consumer.2) else w.consumers.get? other :=
    fun other => Table.get?_set _ _ _ _
  refine ⟨divided.keep (.refl _) fun other c found number on => ?_, Nat.le_refl _, ?_,
    fun _ _ => .of_same rfl rfl⟩
  · rw [got] at found
    split at found
    next =>
      cases found
      obtain none | none := on <;> cases none
    next => exact ⟨c, found, on⟩
  · rw [got]
    split
    next here =>
      rw [here, fresh]
      exact .new rfl rfl rfl
    next => exact .refl _

theorem spawnAll_beside {new : List (Nat × String)} (distinct : (new.map (·.1)).Nodup)
    (fresh : ∀ id ∈ new.map (·.1), w.consumers.get? id = none) (divided : w.Divided) :
    Beside id channel freed w (new.foldl spawn w) := by
  induction new generalizing w with
  | nil => exact .refl divided
  | cons consumer new ih =>
    obtain ⟨first, later⟩ := List.nodup_cons.mp distinct
    have started : Beside id channel freed w (w.spawn consumer) :=
      spawn_beside (fresh _ List.mem_cons_self) divided
    refine started.trans (ih later (fun other among => ?_) started.divided)
    have got : (w.spawn consumer).consumers.get? other = _ := Table.get?_set _ _ _ _
    rw [got, if_neg (by rintro rfl; exact first among)]
    exact fresh other (List.mem_cons_of_mem _ among)

theorem retireAll_beside (ids : List Nat) (divided : w.Divided) :
    Beside id channel freed w (ids.foldl retire w) := by
  induction ids generalizing w with
  | nil => exact .refl divided
  | cons other ids ih =>
    have asked : Beside id channel freed w (w.requestStop other) :=
      Effects.beside (requestStop_effects (.feed 0) w other) divided
    have sent : Beside id channel freed w (w.retire other) :=
      asked.trans (.of_same asked.divided rfl rfl rfl)
    exact sent.trans (ih sent.divided)

theorem Reassigns.beside (reassigns : Reassigns task w w') (divided : w.Divided) :
    Beside id channel freed w w' :=
  .of_same divided reassigns.client reassigns.consumers reassigns.handoffs

theorem Deed.beside (deed : Deed task w w') (records : w.Records) (divided : w.Divided) :
    Beside id channel freed w w' := by
  cases deed with
  | affected effect => exact effect.beside divided
  | informed | dismissed => exact .of_same divided rfl rfl rfl
  | @staffed registry changes new running hands =>
    have given : Beside id channel freed w { w with registry } := .of_same divided rfl rfl rfl
    have fresh := records.fresh hands
    have spawned : Beside id channel freed { w with registry }
        (changes.started.foldl spawn { w with registry }) := by
      refine spawnAll_beside ?_ (fun other among => ?_) given.divided
      · exact fresh.1
      · exact Table.get?_eq_none_iff.mpr (fresh.2 other among).1
    exact (given.trans spawned).trans (retireAll_beside _ spawned.divided)
  | paused queue running =>
    have dropped : Beside id channel freed w
        { w with registry := w.registry.dropConsumers queue } := .of_same divided rfl rfl rfl
    exact dropped.trans (retireAll_beside _ dropped.divided)
  | reassigned reassigns keeps => exact reassigns.beside divided
  | @removed names middle _ free after reassigns assigned =>
    have removed : Beside id channel freed w
        { w with registry := (w.registry.remove names).1 } := .of_same divided rfl rfl rfl
    have affected := removed.trans (Effects.beside after removed.divided)
    exact affected.trans (reassigns.beside affected.divided)
  | @stopBegun ids registry fatal middle _ free begun after reassigns assigned =>
    have begins : Beside id channel freed w { w with
        registry
        retiring := []
        monitors := w.monitors.modify (w.monitors.size - 1) fun m =>
          { m with stopRequested := true } } := .of_same divided rfl rfl rfl
    have affected := begins.trans (Effects.beside after begins.divided)
    exact affected.trans (reassigns.beside affected.divided)

theorem EndsStop.beside {fatal : Option String} (ends : EndsStop task fatal w w')
    (divided : w.Divided) : Beside id channel freed w w' := by
  obtain ⟨middle, after, before, -, later, reassigns⟩ := ends.ended
  have first : Beside id channel freed w middle := Effects.beside before divided
  have freed' : Beside id channel freed w
      { middle with registry := middle.registry.finishStop fatal.isSome } :=
    first.trans (.of_same first.divided rfl rfl rfl)
  have closed := freed'.trans (Effects.beside later freed'.divided)
  have told := closed.trans (.of_same closed.divided (publish_client _ _) (publish_consumers _ _)
    (publish_handoffs after (.containerStopped fatal.isSome fatal)))
  exact told.trans (reassigns.beside told.divided)

/-! ### Moves -/

/-- **An operation that respects the channel of a consumer keeps its line.** -/
theorem Line.step_keeps_of_respects {b : Broker} (tidy : b.Tidy) {op : Broker.Op}
    (respects : op.Respects line.subscriber line.channel line.freed) :
    line.Keeps b (b.step op).2 := by
  cases op with
  | createChannel connection transactional =>
    exact Broker.Reply.ofResult_snd _ _ ▸
      Line.createChannel_keeps b tidy.fresh connection transactional
  | consume => exact Line.step_keeps b fun mine => absurd mine respects
  | acknowledge other s =>
    refine Line.step_keeps b fun here tag awaits => ?_
    by_contra covers
    exact awaits.2 (respects here tag (eq_true_of_ne_false covers))
  | _ => exact Line.step_keeps b trivial

/-- **What happens at a move that is not a turn of the consumer.** -/
theorem Happening.beside (happening : Happening move w w')
    (respects : move.Respects id channel freed) (records : w.Records) (divided : w.Divided) :
    Beside id channel freed w w' := by
  cases happening with
  | apart apart => exact .of_same divided apart.client apart.consumers apart.handoffs
  | @used client behaves carried =>
    obtain same | ⟨op, asked, stepped⟩ := carried
    · refine ⟨divided.of_same (same ▸ .refl _) rfl, Nat.le_of_eq (by rw [← same]), .refl _,
        fun _ floor => .of_keeps ?_ rfl⟩
      show Line.Keeps _ w.client.broker client.broker
      rw [same]
      exact .refl _ _
    · have aged : w.client.broker.Ages client.broker := stepped ▸ w.client.broker.step_ages op
      refine ⟨divided.of_same aged rfl, (aged divided.tidy).2, .refl _,
        fun _ floor => .of_keeps ?_ rfl⟩
      show Line.Keeps _ w.client.broker client.broker
      rw [stepped]
      exact Line.step_keeps_of_respects divided.tidy (respects.respects op asked)
  | @turned own middle _ mine busy does ends begun =>
    have differ : own ≠ id := by
      rintro rfl
      exact respects.other mine
    have done : Beside id channel freed w middle := does.beside differ divided
    exact done.trans (Effects.beside ends done.divided)
  | deed deed => exact deed.beside records divided
  | sent => exact .of_same divided rfl rfl rfl
  | started =>
    unfold begun
    exact .of_same divided (publish_client _ _) (publish_consumers _ _) (publish_handoffs _ _)

/-- **Whatever moves a container leaves the line of a consumer**, if it is not a turn of its own. -/
theorem Outcome.beside (outcome : Outcome move w w') (respects : move.Respects id channel freed)
    (records : w.Records) (divided : w.Divided) : Beside id channel freed w w' := by
  cases outcome with
  | happens happens =>
    have both : w'.Records ∧ Beside id channel freed w w' := by
      induction happens with
      | refl => exact ⟨records, .refl divided⟩
      | tail _ happening ih =>
        exact ⟨happening.records ih.1, ih.2.trans (happening.beside respects ih.1 ih.2.divided)⟩
    exact both.2
  | @endsStop _ _ before after turn ends rest =>
    have begins : Beside id channel freed w before :=
      .of_same divided turn.client turn.consumers turn.handoffs
    have ended := begins.trans (ends.beside begins.divided)
    exact ended.trans (.of_same ended.divided rest.client rest.consumers rest.handoffs)

end World

end QueueListener
