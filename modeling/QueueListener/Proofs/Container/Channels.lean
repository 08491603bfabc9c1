import QueueListener.Proofs.Container.Happenings
/-!
# Whose channels are open

**Every channel that is open belongs to a consumer that goes on**, as long as nobody else opens one
or keeps one from being closed: a consumer opens one channel, closes it when it ends, and in between
it keeps hold of it.

* `Client.call_createChannel_opens` — the request for a channel opens that one and no other;
* `World.Held` — every open channel is held by a consumer;
* `Doing.held`, `Deed.held`, `followAll_held` — so it is at any time.
-/

namespace QueueListener

variable {c c' : Client}

namespace Client

/-- The request for a channel opens that one and no other, and arms no fault. -/
theorem call_createChannel_opens {connection target : Nat} {transactional : Bool}
    (ran : c.call .createChannel (·.createChannel connection transactional) = (.ok target, c')) :
    (∀ channel, c'.broker.channelOpen channel = true →
      channel = target ∨ c.broker.channelOpen channel = true) ∧ c'.faults = c.faults := by
  unfold call at ran
  split at ran
  next => cases ran
  next =>
    unfold Broker.createChannel at ran
    dsimp only at ran
    split at ran
    next record _ =>
      split at ran
      next =>
        cases ran
        refine ⟨fun channel opened => or_iff_not_imp_left.mpr fun other => ?_, rfl⟩
        unfold Broker.channelOpen Broker.openChannel? at opened ⊢
        dsimp only at opened
        rwa [Table.get?_set, if_neg other] at opened
      next => cases ran
    next => cases ran

theorem OpensNone.faultless (none : c.OpensNone c') (faultless : ∀ fault ∈ c.faults, fault.op ≠ .close) :
    ∀ fault ∈ c'.faults, fault.op ≠ .close := by
  intro fault armed
  obtain ⟨earlier, armed', same⟩ := none.faults fault armed
  exact same ▸ faultless earlier armed'

/-- To register opens no channel. -/
theorem consume_opensNone (c : Client) (channel : Nat) (queue requested : String) (autoAck : Bool)
    (subscriber : Nat) : c.OpensNone
      (c.call .consume (·.consume channel queue requested autoAck subscriber)).2 := by
  unfold call
  split
  next taken => exact ⟨fun _ => id, fun fault => ArmedFault.take_faults taken⟩
  next =>
    refine ⟨fun other opened => ?_, fun fault armed => ⟨fault, armed, rfl⟩⟩
    exact Broker.consume_channelOpen queue requested channel autoAck subscriber opened

theorem OpensNone.behaves (none : c.OpensNone c') : c.Behaves c' := ⟨none.channels, none.faultless⟩

theorem Behaves.of_eq (same : c' = c) : c.Behaves c' := same ▸ (OpensNone.refl c).behaves

end Client

namespace World

/-- Every channel that is open is held by a consumer, and no request to close one will fail. -/
structure Held (w : World) : Prop where
  faultless : ∀ fault ∈ w.client.faults, fault.op ≠ .close
  held : ∀ channel, w.client.broker.channelOpen channel = true →
    ∃ (id : Nat) (c : Consumer) (managed : ManagedChannel), w.consumers.get? id = some c ∧
      c.channel = some managed ∧ managed.target = channel

variable {w w' w'' : World} {task : Task} {id : Nat}

theorem new_held (plan : Plan) : (World.new plan {}).Held where
  faultless _ armed := absurd armed List.not_mem_nil
  held _ opened := by cases opened

/-- No channel is opened, and everybody keeps hold of what they have. -/
theorem Held.keep (held : w.Held) (behaves : w.client.Behaves w'.client)
    (keeps : ∀ id c, w.consumers.get? id = some c → c.channel ≠ none →
      ∃ c', w'.consumers.get? id = some c' ∧ c'.channel = c.channel) : w'.Held where
  faultless := behaves.closes held.faultless
  held channel opened := by
    obtain ⟨id, c, managed, found, has, target⟩ := held.held channel (behaves.channels channel opened)
    obtain ⟨c', found', same⟩ := keeps id c found (by rw [has]; exact Option.some_ne_none _)
    exact ⟨id, c', managed, found', same.trans has, target⟩

theorem Held.of_same (held : w.Held) (behaves : w.client.Behaves w'.client)
    (consumers : w'.consumers = w.consumers) : w'.Held :=
  held.keep behaves fun _ c found _ => ⟨c, consumers ▸ found, rfl⟩

/-- Something is written about a consumer, but not about its channel. -/
theorem Held.modified (held : w.Held) (id : Nat) (f : Consumer → Consumer)
    (client : w'.client = w.client) (consumers : w'.consumers = w.consumers.modify id f)
    (same : ∀ c, w.consumers.get? id = some c → (f c).channel = c.channel) : w'.Held := by
  refine held.keep (.of_eq client) fun other c found _ => ?_
  rw [consumers, Table.get?_modify]
  split
  next here => exact ⟨f c, by rw [found, Option.map_some], same c (here ▸ found)⟩
  next => exact ⟨c, found, rfl⟩

theorem Aside.opensNone (aside : w.Aside w') : w.client.OpensNone w'.client := by
  cases aside with
  | asked works => exact works.opensNone
  | delivered =>
    obtain ⟨handoffs, tasks, same⟩ := w.deliverNotices_shape
    rw [same]
    exact ⟨fun _ => id, fun fault armed => ⟨fault, armed, rfl⟩⟩
  | fed | noted | woken => exact .refl _
  | told passing =>
    unfold publish
    split <;> exact .refl _

theorem Passes.opensNone (passes : w.Passes w') : w.client.OpensNone w'.client := by
  induction passes with
  | refl => exact .refl _
  | tail _ aside ih => exact ih.trans aside.opensNone

/-- A consumer that lets its channel go closes it. -/
theorem releaseChannel_held (held : w.Held) (id : Nat) : (w.releaseChannel id).2.Held := by
  have others := fun other => releaseChannel_get? w id other
  cases has : (w.consumers.get? id).bind (·.channel) with
  | none =>
    have same : (w.releaseChannel id).2 = w := by
      unfold releaseChannel
      rw [has]
    rw [same]
    exact held
  | some channel =>
    have closed := channel.release_closes w.client held.faultless
    have client : (channel.release w.client).2.2.OpensNone (w.releaseChannel id).2.client := by
      unfold releaseChannel
      rw [has]
      exact (deliverNotices_passes (updateConsumer
        { w with client := (channel.release w.client).2.2 } id fun c =>
          { c with channel := none })).opensNone
    have works : w.client.Works (fun _ _ => False) (channel.release w.client).2.2 :=
      channel.release_works w.client
    have none := works.opensNone.trans client
    refine ⟨none.faultless held.faultless, fun other opened => ?_⟩
    obtain ⟨holder, c, managed, found, holds, target⟩ := held.held other (none.channels other opened)
    refine ⟨holder, c, managed, ?_, holds, target⟩
    rw [others, if_neg, found]
    rintro rfl
    rw [found, Option.bind_some, holds] at has
    cases has
    rw [target, client.channels other opened] at closed
    cases closed

/-- **What a consumer does that goes on leaves it in hold of its channel.** -/
theorem Doing.held (doing : Doing id w w') (busy : w.isFinished id = false) (held : w.Held) :
    w'.Held := by
  cases doing with
  | aside aside => exact held.of_same aside.opensNone.behaves aside.consumers
  | worked found on works => exact held.of_same works.opensNone.behaves rfl
  | subscribed channel queue requested autoAck =>
    exact held.of_same (w.client.consume_opensNone channel queue requested autoAck id).behaves rfl
  | handed | timed | untimed | reported => exact held.of_same (.of_eq rfl) rfl
  | @written f goesOn => exact held.modified id f rfl rfl fun c found => (goesOn c found).channel
  | @opened _ target _ client channel without ran of =>
    obtain ⟨opens, faults⟩ := Client.call_createChannel_opens ran
    have none := (deliverNotices_passes { w with client }).opensNone
    refine ⟨none.faultless (faults ▸ held.faultless), fun other opened => ?_⟩
    obtain rfl | before := opens other (none.channels other opened)
    · obtain ⟨c, found, -⟩ := isFinished_eq_false.mp busy
      refine ⟨id, { c with channel := some channel }, channel, ?_, rfl, of⟩
      rw [updateConsumer_get?, if_pos rfl, deliverNotices_consumers, found]
      rfl
    · obtain ⟨holder, c, managed, found, holds, target⟩ := held.held other before
      refine ⟨holder, c, managed, ?_, holds, target⟩
      rw [updateConsumer_get?, if_neg, deliverNotices_consumers, found]
      rintro rfl
      rw [without c found] at holds
      cases holds
  | released => exact releaseChannel_held held id

theorem Does.held (does : Does id w w') (busy : w.isFinished id = false) (held : w.Held) :
    w'.Held := by
  induction does with
  | refl => exact held
  | tail before doing ih => exact doing.held (Does.busy before busy) ih

/-- Whoever ends lets its channel go. -/
theorem Effect.held (effect : Effect task w w') (held : w.Held) : w'.Held := by
  cases effect with
  | aside aside => exact held.of_same aside.opensNone.behaves aside.consumers
  | timed | untimed | rested | dropped => exact held.of_same (.of_eq rfl) rfl
  | @released id => exact releaseChannel_held held id
  | @touched id f same => exact held.modified id f rfl rfl fun c found => (same c found).2.2.2.1
  | @ended id c found busy metrics state event told report about =>
    obtain ⟨client, -⟩ := ended_frame (w.releaseChannel id).2 id c.run metrics state event report
    refine (releaseChannel_held held id).keep (.of_eq client) fun other c' found' has => ?_
    rw [ended_consumers]
    refine ⟨c', ?_, rfl⟩
    have differ : other ≠ id := by
      rintro rfl
      rw [releaseChannel_get?, if_pos rfl, found] at found'
      cases found'
      exact has rfl
    rw [Table.get?_modify_of_ne _ _ differ, Table.get?_modify_of_ne _ _ differ, found']

theorem Effects.held (effects : Effects task w w') (held : w.Held) : w'.Held := by
  induction effects with
  | refl => exact held
  | tail _ effect ih => exact effect.held ih

/-! ### Deeds -/

theorem spawnAll_client (w : World) (new : List (Nat × String)) :
    (new.foldl spawn w).client = w.client := by
  induction new generalizing w with
  | nil => rfl
  | cons consumer new ih => exact ih (w.spawn consumer)

/-- Whoever was there before is not among those who are started. -/
theorem spawnAll_get? {new : List (Nat × String)} {id : Nat} (old : id ∉ new.map (·.1)) (w : World) :
    (new.foldl spawn w).consumers.get? id = w.consumers.get? id := by
  induction new generalizing w with
  | nil => rfl
  | cons consumer new ih =>
    obtain ⟨differ, later⟩ := not_or.mp (fun among => old (List.mem_cons.mpr among))
    refine (ih later (w.spawn consumer)).trans ?_
    show (w.consumers.set consumer.1 _).get? id = _
    rw [Table.get?_set, if_neg differ]

theorem retireAll_held (held : w.Held) (ids : List Nat) : (ids.foldl retire w).Held := by
  induction ids generalizing w with
  | nil => exact held
  | cons id ids ih =>
    have asked := Effects.held (requestStop_effects (.feed 0) w id) held
    exact ih (asked.of_same (.of_eq rfl) rfl)

theorem Reassigns.held (reassigns : Reassigns task w w') (held : w.Held) : w'.Held :=
  held.of_same (.of_eq reassigns.client) reassigns.consumers

theorem Deed.held (deed : Deed task w w') (records : w.Records) (held : w.Held) : w'.Held := by
  have same : w.client.Behaves w.client := .of_eq rfl
  cases deed with
  | affected effect => exact effect.held held
  | informed | dismissed => exact held.of_same same rfl
  | @staffed registry changes new running hands =>
    have spawned : (changes.started.foldl spawn { w with registry }).Held := by
      refine held.keep ?_ fun id c found _ => ⟨c, ?_, rfl⟩
      · rw [spawnAll_client]
        exact same
      · rw [spawnAll_get? fun among => ?_]
        · exact found
        · exact ((records.fresh hands).2 id among).1 (Table.mem_keys_of_get? found)
    exact retireAll_held spawned changes.retired
  | paused queue running =>
    have dropped : ({ w with registry := w.registry.dropConsumers queue } : World).Held :=
      held.of_same same rfl
    exact retireAll_held dropped _
  | reassigned reassigns keeps => exact reassigns.held held
  | @removed names _ _ free after reassigns assigned =>
    have removed : ({ w with registry := (w.registry.remove names).1 } : World).Held :=
      held.of_same same rfl
    exact reassigns.held (Effects.held after removed)
  | stopBegun fatal free begun after reassigns assigned =>
    refine reassigns.held (Effects.held after ?_)
    exact held.of_same same rfl

theorem EndsStop.held {fatal : Option String} (ends : EndsStop task fatal w w') (held : w.Held) :
    w'.Held := by
  obtain ⟨middle, after, before, -, later, reassigns⟩ := ends.ended
  have freed : ({ middle with registry := middle.registry.finishStop fatal.isSome } :
      World).Held := (Effects.held before held).of_same (.of_eq rfl) rfl
  exact reassigns.held ((Effects.held later freed).of_same (.of_eq (publish_client _ _))
    (publish_consumers _ _))

/-! ### Moves -/

variable {move : Move}

theorem Happening.held (happening : Happening move w w') (fair : ¬ move.Meddles)
    (records : w.Records) (held : w.Held) : w'.Held := by
  cases happening with
  | apart apart =>
    exact held.of_same (.of_eq apart.client) apart.consumers
  | used behaves => exact held.of_same (behaves fair) rfl
  | turned _ busy does ends begun => exact Effects.held ends (Does.held does busy held)
  | deed deed => exact deed.held records held
  | sent => exact held.of_same (.of_eq rfl) rfl
  | started =>
    unfold begun
    exact held.of_same (.of_eq (publish_client _ _)) (publish_consumers _ _)

theorem Outcome.held (outcome : Outcome move w w') (fair : ¬ move.Meddles) (records : w.Records)
    (held : w.Held) : w'.Held := by
  cases outcome with
  | happens happens =>
    have both : w'.Records ∧ w'.Held := by
      induction happens with
      | refl => exact ⟨records, held⟩
      | tail _ happening ih =>
        exact ⟨happening.records ih.1, happening.held fair ih.1 ih.2⟩
    exact both.2
  | @endsStop _ _ before after turn ends rest =>
    have begins : before.Held :=
      held.of_same (.of_eq turn.client) turn.consumers
    exact (ends.held begins).of_same (.of_eq rest.client)
      rest.consumers

/-- **At any time every open channel is held by a consumer.** -/
theorem Sound.followAll_held (sound : w.Sound) (held : w.Held) {moves : List Move}
    (fair : ∀ move ∈ moves, ¬ move.Meddles) : (w.followAll moves).Held := by
  induction moves generalizing w with
  | nil => exact held
  | cons move moves ih =>
    refine ih (sound.follow move) ?_ fun other among => fair other (List.mem_cons_of_mem _ among)
    exact (follow_outcome sound.records sound.unopened move).held (fair move List.mem_cons_self)
      sound.records held

end World

end QueueListener
