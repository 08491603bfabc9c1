import QueueListener.Proofs.Broker.Coherence
import QueueListener.Proofs.Container.Channels
import QueueListener.Proofs.Container.Division
/-!
# What lasts

**Whatever happens to a container, its broker stays coherent, no channel is opened a second time, and
no consumer begins a second time.** A channel has its number for good: once it is closed it stays
closed.

* `Broker.Matures` — a coherent broker stays so, and does not open again what it knows;
* `World.Lasts` — moreover a consumer that has begun stays begun;
* `Doing.lasts`, `Effect.lasts`, `Deed.lasts`, `Happening.lasts` — the kinds of what happens;
* `Sound.follow_lasts` — one move.
-/

namespace QueueListener

namespace Broker

/-- A coherent broker goes on: it stays coherent, and opens no channel whose number was given. -/
def Matures (b b' : Broker) : Prop :=
  b.Coherent → b'.Coherent ∧ b.lastId ≤ b'.lastId ∧
    ∀ channel ≤ b.lastId, b'.channelOpen channel = true → b.channelOpen channel = true

variable {b b₁ b₂ : Broker}

theorem Matures.refl (b : Broker) : b.Matures b :=
  fun coherent => ⟨coherent, Nat.le_refl _, fun _ _ => id⟩

theorem Matures.trans (first : b.Matures b₁) (second : b₁.Matures b₂) : b.Matures b₂ := by
  intro coherent
  obtain ⟨coherent₁, le₁, opens₁⟩ := first coherent
  obtain ⟨coherent₂, le₂, opens₂⟩ := second coherent₁
  exact ⟨coherent₂, Nat.le_trans le₁ le₂, fun channel known opened =>
    opens₁ channel known (opens₂ channel (Nat.le_trans known le₁) opened)⟩

/-- A channel that is opened gets a new number. -/
theorem createChannel_channelOpen {connection channel : Nat} {transactional : Bool}
    (known : channel ≤ b.lastId)
    (opened : (b.createChannel connection transactional).2.channelOpen channel = true) :
    b.channelOpen channel = true := by
  unfold createChannel at opened
  dsimp only at opened
  split at opened
  next =>
    split at opened
    next =>
      unfold channelOpen openChannel? at opened ⊢
      dsimp only at opened
      rwa [Table.get?_set, if_neg (Nat.ne_of_lt (Nat.lt_succ_of_le known))] at opened
    next => exact opened
  next => exact opened

theorem step_matures (b : Broker) (op : Op) : b.Matures (b.step op).2 := by
  intro coherent
  refine ⟨step_coherent coherent op, (b.step_ages op coherent.tidy).2,
    fun channel known opened => ?_⟩
  by_cases creates : ∃ connection transactional, op = .createChannel connection transactional
  · obtain ⟨connection, transactional, rfl⟩ := creates
    exact createChannel_channelOpen known (Reply.ofResult_snd _ _ ▸ opened)
  · exact step_channelOpen (fun connection transactional same =>
      creates ⟨connection, transactional, same⟩) opened

/-- Who was told what is no matter of the records. -/
theorem collectNotices_matures (b : Broker) : b.Matures b.collectNotices.2 := by
  intro coherent
  obtain ⟨⟨queues, channels, numbered⟩, ⟨distinct, entered, listed⟩, serving, linked, sound⟩ :=
    coherent
  exact ⟨⟨⟨queues, channels, numbered⟩, ⟨distinct, entered, listed⟩, serving, linked, sound⟩,
    Nat.le_refl _, fun _ _ => id⟩

end Broker

theorem Client.Works.matures {may : Nat → Settlement → Prop} {c c' : Client}
    (works : c.Works may c') : c.broker.Matures c'.broker :=
  works.induction (motive := c.broker.Matures)
    (fun b op _ matured => matured.trans (b.step_matures op)) (.refl _)

/-- A call whose request is an operation of the broker. -/
theorem Client.call_matures {α : Type} (c : Client) (op : ClientOp)
    {request : Broker → Except ClientError α × Broker} (done : Broker.Op)
    (same : ∀ b, (request b).2 = (b.step done).2) :
    c.broker.Matures (c.call op request).2.broker := by
  unfold call
  split
  next => exact .refl _
  next =>
    show c.broker.Matures (request c.broker).2
    rw [same]
    exact c.broker.step_matures done

namespace World

variable {w w' w'' : World} {id : Nat} {task : Task} {move : Move}

/-- The broker goes on, and whoever has begun stays begun. -/
structure Lasts (w w' : World) : Prop where
  broker : w.client.broker.Matures w'.client.broker
  begun : ∀ id c, w.consumers.get? id = some c → c.phase ≠ .opening →
    ∃ c', w'.consumers.get? id = some c' ∧ c'.phase ≠ .opening

namespace Lasts

/-- Nothing is written about the consumers. -/
theorem of_consumers (broker : w.client.broker.Matures w'.client.broker)
    (consumers : w'.consumers = w.consumers) : Lasts w w' :=
  ⟨broker, fun _ c found begun => ⟨c, consumers ▸ found, begun⟩⟩

theorem of_same (client : w'.client = w.client) (consumers : w'.consumers = w.consumers) :
    Lasts w w' := .of_consumers (client ▸ .refl _) consumers

theorem refl (w : World) : Lasts w w := .of_same rfl rfl

theorem trans (first : Lasts w w') (second : Lasts w' w'') : Lasts w w'' := by
  refine ⟨first.broker.trans second.broker, fun id c found begun => ?_⟩
  obtain ⟨c', found', begun'⟩ := first.begun id c found begun
  exact second.begun id c' found' begun'

/-- What comes last is looked at first. -/
theorem since (last : Lasts w' w'') (first : Lasts w w') : Lasts w w'' := first.trans last

/-- Something is written about a consumer, but not that it is to begin. -/
theorem modified {f : Consumer → Consumer} (broker : w.client.broker.Matures w'.client.broker)
    (modified : ∀ other, w'.consumers.get? other = (w.consumers.modify id f).get? other)
    (stays : ∀ c, w.consumers.get? id = some c → c.phase ≠ .opening → (f c).phase ≠ .opening) :
    Lasts w w' := by
  refine ⟨broker, fun other c found begun => ?_⟩
  rw [modified, Table.get?_modify, found]
  split
  next here => exact ⟨f c, rfl, stays c (here ▸ found) begun⟩
  next => exact ⟨c, rfl, begun⟩

end Lasts

/-! ### What happens -/

theorem deliverNotices_matures (w : World) :
    w.client.broker.Matures w.deliverNotices.client.broker := by
  obtain ⟨handoffs, tasks, same⟩ := w.deliverNotices_shape
  rw [same]
  exact w.client.broker.collectNotices_matures

theorem Aside.lasts (aside : w.Aside w') : Lasts w w' := by
  refine .of_consumers ?_ aside.consumers
  cases aside with
  | asked works => exact works.matures
  | delivered => exact deliverNotices_matures w
  | fed | noted | woken => exact .refl _
  | told passing =>
    unfold publish
    split <;> exact .refl _

theorem releaseChannel_matures (w : World) (id : Nat) :
    w.client.broker.Matures (w.releaseChannel id).2.client.broker := by
  obtain same | ⟨channel, -, same⟩ := w.releaseChannel_shape id
  · rw [same]
    exact .refl _
  · rw [same]
    have works : w.client.Works (fun _ _ => False) (channel.release w.client).2.2 :=
      channel.release_works w.client
    exact works.matures.trans (deliverNotices_matures (updateConsumer
      { w with client := (channel.release w.client).2.2 } id fun c => { c with channel := none }))

theorem releaseChannel_lasts (w : World) (id : Nat) : Lasts w (w.releaseChannel id).2 :=
  .modified (releaseChannel_matures w id) (releaseChannel_modifies w id) fun _ _ begun => begun

theorem Doing.matures (doing : Doing id w w') : w.client.broker.Matures w'.client.broker := by
  cases doing with
  | aside aside => exact aside.lasts.broker
  | worked found on works => exact works.matures
  | subscribed channel queue requested autoAck =>
    exact w.client.call_matures .consume (.consume channel queue requested autoAck id)
      fun _ => (Broker.Reply.ofResult_snd _ _).symm
  | handed | timed | untimed | written | reported => exact .refl _
  | @opened connection target transactional client channel without ran of =>
    have called := w.client.call_matures .createChannel (.createChannel connection transactional)
      fun _ => (Broker.Reply.ofResult_snd _ _).symm
    rw [ran] at called
    exact called.trans (deliverNotices_matures { w with client })
  | released => exact releaseChannel_matures w id

theorem Doing.lasts (doing : Doing id w w') : Lasts w w' := by
  refine ⟨doing.matures, fun other c found begun => ?_⟩
  by_cases here : other = id
  · subst here
    obtain ⟨c', found', goesOn | ⟨channel, rfl⟩⟩ := doing.self found
    · exact ⟨c', found', fun opening => begun (goesOn.begun opening)⟩
    · exact ⟨_, found', begun⟩
  · exact ⟨c, (doing.others here).trans found, begun⟩

theorem Does.lasts (does : Does id w w') : Lasts w w' := by
  induction does with
  | refl => exact .refl w
  | tail _ doing ih => exact ih.trans doing.lasts

theorem Effect.lasts (effect : Effect task w w') : Lasts w w' := by
  cases effect with
  | aside aside => exact aside.lasts
  | timed | untimed | rested | dropped => exact .of_same rfl rfl
  | @released id => exact releaseChannel_lasts w id
  | @touched id f same =>
    refine .modified (.refl _) (fun _ => rfl) fun c found begun => ?_
    obtain ⟨-, -, -, -, phase, -⟩ := same c found
    exact phase ▸ begun
  | @ended id c found busy metrics state event told report about =>
    obtain ⟨client, -⟩ := ended_frame (w.releaseChannel id).2 id c.run metrics state event report
    have consumers := ended_consumers (w.releaseChannel id).2 id c.run metrics state event report
    refine (releaseChannel_lasts w id).trans ⟨client ▸ .refl _, fun other c' found' begun => ?_⟩
    rw [consumers, Table.get?_modify, Table.get?_modify, found']
    split
    next => exact ⟨_, rfl, nofun⟩
    next => exact ⟨c', rfl, begun⟩

theorem Effects.lasts (effects : Effects task w w') : Lasts w w' := by
  induction effects with
  | refl => exact .refl w
  | tail _ effect ih => exact ih.trans effect.lasts

/-! ### The administration -/

theorem retireAll_lasts (w : World) (ids : List Nat) : Lasts w (ids.foldl retire w) := by
  induction ids generalizing w with
  | nil => exact .refl w
  | cons id ids ih =>
    have asked : Lasts w (w.requestStop id) := Effects.lasts (requestStop_effects (.feed 0) w id)
    have sent : Lasts w (w.retire id) := asked.trans (.of_same rfl rfl)
    exact sent.trans (ih (w.retire id))

theorem Reassigns.lasts (reassigns : Reassigns task w w') : Lasts w w' :=
  .of_same reassigns.client reassigns.consumers

theorem Deed.lasts (deed : Deed task w w') (records : w.Records) : Lasts w w' := by
  cases deed with
  | affected effect => exact effect.lasts
  | informed | dismissed => exact .of_same rfl rfl
  | @staffed registry changes new running hands =>
    have spawned : Lasts w (changes.started.foldl spawn { w with registry }) := by
      refine ⟨?_, fun id c found begun => ⟨c, ?_, begun⟩⟩
      · rw [spawnAll_client]
        exact .refl _
      · rw [spawnAll_get? fun among => ?_]
        · exact found
        · exact ((records.fresh hands).2 id among).1 (Table.mem_keys_of_get? found)
    exact spawned.trans (retireAll_lasts _ changes.retired)
  | paused queue running => exact (retireAll_lasts _ _).since (.of_same rfl rfl)
  | reassigned reassigns keeps => exact reassigns.lasts
  | removed free after reassigns assigned =>
    exact ((Effects.lasts after).trans reassigns.lasts).since (.of_same rfl rfl)
  | stopBegun fatal free begun after reassigns assigned =>
    exact ((Effects.lasts after).trans reassigns.lasts).since (.of_same rfl rfl)

theorem EndsStop.lasts {fatal : Option String} (ends : EndsStop task fatal w w') :
    Lasts w w' := by
  obtain ⟨middle, after, before, -, later, reassigns⟩ := ends.ended
  have freed : Lasts w { middle with registry := middle.registry.finishStop fatal.isSome } :=
    (Effects.lasts before).trans (.of_same rfl rfl)
  have told : Lasts after (after.publish (.containerStopped fatal.isSome fatal)) :=
    .of_same (publish_client _ _) (publish_consumers _ _)
  exact ((freed.trans (Effects.lasts later)).trans told).trans reassigns.lasts

/-! ### Moves -/

theorem Happening.lasts (happening : Happening move w w') (records : w.Records) :
    Lasts w w' := by
  cases happening with
  | apart apart => exact .of_same apart.client apart.consumers
  | @used client behaves carried =>
    refine .of_consumers ?_ rfl
    obtain same | ⟨op, -, stepped⟩ := carried
    · exact same ▸ .refl _
    · exact stepped ▸ w.client.broker.step_matures op
  | turned _ busy does ends begun => exact (Does.lasts does).trans (Effects.lasts ends)
  | deed deed => exact deed.lasts records
  | sent => exact .of_same rfl rfl
  | started => exact .of_same (publish_client _ _) (publish_consumers _ _)

theorem Outcome.lasts (outcome : Outcome move w w') (records : w.Records) : Lasts w w' := by
  cases outcome with
  | happens happens =>
    have both : w'.Records ∧ Lasts w w' := by
      induction happens with
      | refl => exact ⟨records, .refl w⟩
      | tail _ happening ih =>
        exact ⟨happening.records ih.1, ih.2.trans (happening.lasts ih.1)⟩
    exact both.2
  | endsStop turn ends rest =>
    exact (Lasts.of_same turn.client turn.consumers).trans
      (ends.lasts.trans (.of_same rest.client rest.consumers))

/-- **A move lasts**, whatever it is. -/
theorem Sound.follow_lasts (sound : w.Sound) (move : Move) : Lasts w (w.follow move) :=
  (follow_outcome sound.records sound.unopened move).lasts sound.records

end World

end QueueListener
