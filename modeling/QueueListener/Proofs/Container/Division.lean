import QueueListener.Proofs.Broker.Conservation
import QueueListener.Proofs.Container.Happenings
/-!
# Channels are divided among the consumers

**No two consumers ever have the same channel**, because a channel has a number that was never given
before, and a consumer uses no channel but those that it has opened.

* `Broker.Ages`, `Client.Works.ages` — numbers are not given again;
* `World.Divided` — every consumer has its own channel;
* `Aside.divided`, `Doing.divided`, `Effect.divided` — the kinds of what happens.
-/

namespace QueueListener

/-- A broker that has gone on keeps its keys in order and gives no number again. -/
def Broker.Ages (b b' : Broker) : Prop := b.Tidy → b'.Tidy ∧ b.lastId ≤ b'.lastId

namespace Broker

variable {b b₁ b₂ : Broker}

theorem Ages.refl (b : Broker) : b.Ages b := fun tidy => ⟨tidy, Nat.le_refl _⟩

theorem Ages.trans (first : b.Ages b₁) (second : b₁.Ages b₂) : b.Ages b₂ := by
  intro tidy
  obtain ⟨tidy₁, le₁⟩ := first tidy
  obtain ⟨tidy₂, le₂⟩ := second tidy₁
  exact ⟨tidy₂, Nat.le_trans le₁ le₂⟩

theorem step_ages (b : Broker) (op : Op) : b.Ages (b.step op).2 := fun tidy =>
  ⟨(step_accounts tidy op).tidy, (step_accounts tidy op).lastId⟩

theorem collectNotices_ages (b : Broker) : b.Ages b.collectNotices.2 := fun tidy =>
  ⟨⟨tidy.queues, tidy.channels, tidy.numbered⟩, Nat.le_refl _⟩

/-- The next number is new. -/
theorem Tidy.fresh (tidy : b.Tidy) : b.channels.get? (b.lastId + 1) = none :=
  Table.get?_eq_none_iff.mpr fun member =>
    absurd (tidy.numbered _ member) (Nat.not_le.mpr (Nat.lt_succ_self _))

end Broker

namespace Client

variable {may : Nat → Settlement → Prop} {c c' : Client}

theorem Works.ages (works : c.Works may c') : c.broker.Ages c'.broker :=
  works.induction (motive := c.broker.Ages) (fun b op _ aged => aged.trans (b.step_ages op))
    (.refl _)

/-- A call whose request is an operation of the broker. -/
theorem call_ages {α : Type} (c : Client) (op : ClientOp)
    {request : Broker → Except ClientError α × Broker} (done : Broker.Op)
    (same : ∀ b, (request b).2 = (b.step done).2) : c.broker.Ages (c.call op request).2.broker := by
  unfold call
  split
  next => exact .refl _
  next =>
    show c.broker.Ages (request c.broker).2
    rw [same]
    exact c.broker.step_ages done

/-- A channel that was opened has the next number. -/
theorem call_createChannel_numbers {connection target : Nat} {transactional : Bool}
    (ran : c.call .createChannel (·.createChannel connection transactional) = (.ok target, c')) :
    target = c.broker.lastId + 1 ∧ c'.broker.lastId = target := by
  unfold call at ran
  split at ran
  next => cases ran
  next =>
    unfold Broker.createChannel at ran
    dsimp only at ran
    split at ran
    next =>
      split at ran
      next => cases ran; exact ⟨rfl, rfl⟩
      next => cases ran
    next => cases ran

end Client

namespace World

/-- Every consumer has its own channel, whose number was given before. -/
structure Divided (w : World) : Prop where
  tidy : w.client.broker.Tidy
  numbered : ∀ id c channel, w.consumers.get? id = some c → c.On channel →
    channel ≤ w.client.broker.lastId
  sole : ∀ id other c c' channel, w.consumers.get? id = some c → w.consumers.get? other = some c' →
    c.On channel → c'.On channel → id = other

variable {w w' : World} {id : Nat} {task : Task}

/-- Nobody gets a channel. -/
theorem Divided.keep (divided : w.Divided) (ages : w.client.broker.Ages w'.client.broker)
    (stays : ∀ id c', w'.consumers.get? id = some c' → ∀ channel, c'.On channel →
      ∃ c, w.consumers.get? id = some c ∧ c.On channel) : w'.Divided := by
  obtain ⟨tidy, le⟩ := ages divided.tidy
  refine ⟨tidy, fun id c' channel found on => ?_, fun id other c' c'' channel found found' on on' => ?_⟩
  · obtain ⟨c, before, had⟩ := stays id c' found channel on
    exact Nat.le_trans (divided.numbered id c channel before had) le
  · obtain ⟨c₁, before₁, had₁⟩ := stays id c' found channel on
    obtain ⟨c₂, before₂, had₂⟩ := stays other c'' found' channel on'
    exact divided.sole id other c₁ c₂ channel before₁ before₂ had₁ had₂

/-- Nothing is written about the consumers. -/
theorem Divided.of_same (divided : w.Divided) (ages : w.client.broker.Ages w'.client.broker)
    (consumers : w'.consumers = w.consumers) : w'.Divided :=
  divided.keep ages fun _ c' found _ on => ⟨c', consumers ▸ found, on⟩

/-- Something is written about a consumer, but nothing of another channel. -/
theorem Divided.modified (divided : w.Divided) {f : Consumer → Consumer}
    (ages : w.client.broker.Ages w'.client.broker)
    (modified : ∀ other, w'.consumers.get? other = (w.consumers.modify id f).get? other)
    (stays : ∀ c, w.consumers.get? id = some c → ∀ channel, (f c).On channel → c.On channel) :
    w'.Divided := by
  refine divided.keep ages fun other c' found channel on => ?_
  rw [modified, Table.get?_modify] at found
  split at found
  next here =>
    obtain ⟨c, before, rfl⟩ := Option.map_eq_some_iff.mp found
    exact ⟨c, before, stays c (here ▸ before) channel on⟩
  next => exact ⟨c', found, on⟩

/-! ### What happens -/

theorem deliverNotices_ages (w : World) : w.client.broker.Ages w.deliverNotices.client.broker := by
  obtain ⟨handoffs, tasks, same⟩ := w.deliverNotices_shape
  rw [same]
  exact w.client.broker.collectNotices_ages

theorem Aside.ages (aside : w.Aside w') : w.client.broker.Ages w'.client.broker := by
  cases aside with
  | asked works => exact works.ages
  | delivered => exact deliverNotices_ages w
  | fed | noted | woken => exact .refl _
  | told passing =>
    unfold publish
    split <;> exact .refl _

theorem Aside.divided (aside : w.Aside w') (divided : w.Divided) : w'.Divided :=
  divided.of_same aside.ages aside.consumers

/-- What is left of a world in which a consumer lets its channel go. -/
theorem releaseChannel_shape (w : World) (id : Nat) : (w.releaseChannel id).2 = w ∨
    ∃ channel, (w.consumers.get? id).bind (·.channel) = some channel ∧ (w.releaseChannel id).2 =
      (({ w with client := (channel.release w.client).2.2 } : World).updateConsumer id fun c =>
        { c with channel := none }).deliverNotices := by
  unfold releaseChannel
  split
  next => exact .inl rfl
  next channel has => exact .inr ⟨channel, has, rfl⟩

theorem releaseChannel_ages (w : World) (id : Nat) :
    w.client.broker.Ages (w.releaseChannel id).2.client.broker := by
  obtain same | ⟨channel, -, same⟩ := w.releaseChannel_shape id
  · rw [same]
    exact .refl _
  · rw [same]
    have works : w.client.Works (fun _ _ => False) (channel.release w.client).2.2 :=
      channel.release_works w.client
    exact works.ages.trans (deliverNotices_ages (updateConsumer
      { w with client := (channel.release w.client).2.2 } id fun c => { c with channel := none }))

theorem releaseChannel_divided (divided : w.Divided) (id : Nat) :
    (w.releaseChannel id).2.Divided := by
  refine divided.modified (releaseChannel_ages w id) (releaseChannel_modifies w id) ?_
  rintro c - channel (without | opened)
  · cases without
  · exact .inr opened

theorem Doing.ages (doing : Doing id w w') : w.client.broker.Ages w'.client.broker := by
  cases doing with
  | aside aside => exact aside.ages
  | worked found on works => exact works.ages
  | subscribed channel queue requested autoAck =>
    exact w.client.call_ages .consume (.consume channel queue requested autoAck id)
      fun _ => (Broker.Reply.ofResult_snd _ _).symm
  | handed | timed | untimed | written | reported => exact .refl _
  | @opened connection target transactional client channel without ran of =>
    have called := w.client.call_ages .createChannel (.createChannel connection transactional)
      fun _ => (Broker.Reply.ofResult_snd _ _).symm
    rw [ran] at called
    exact called.trans (deliverNotices_ages { w with client })
  | released => exact releaseChannel_ages w id

/-- **What a consumer does gives it at most a channel that nobody has.** -/
theorem Doing.divided (doing : Doing id w w') (divided : w.Divided) : w'.Divided := by
  have ages := doing.ages
  cases doing with
  | aside aside => exact aside.divided divided
  | worked | subscribed | handed | timed | untimed | reported => exact divided.of_same ages rfl
  | @written f goesOn =>
    exact divided.modified ages (fun _ => rfl) fun c found => (goesOn c found).stays
  | @opened connection target transactional client channel without ran of =>
    obtain ⟨number, last⟩ := Client.call_createChannel_numbers ran
    have latest : ({ w with client } : World).deliverNotices.client.broker.lastId = target := by
      obtain ⟨handoffs, tasks, same⟩ := ({ w with client } : World).deliverNotices_shape
      rw [same]
      exact last
    -- whoever has a channel had it before, or it is the new one
    have had : ∀ other c' number, (({ w with client } : World).deliverNotices.updateConsumer id
        fun c => { c with channel := some channel }).consumers.get? other = some c' →
        c'.On number → (other = id ∧ number = target) ∨
          ∃ c, w.consumers.get? other = some c ∧ c.On number := by
      intro other c' number found on
      rw [updateConsumer_get?, deliverNotices_consumers] at found
      split at found
      next here =>
        obtain ⟨c, before, rfl⟩ := Option.map_eq_some_iff.mp found
        obtain has | opened := on
        · exact .inl ⟨here, (Option.some.inj has).symm.trans of⟩
        · exact .inr ⟨c, before, .inr opened⟩
      next => exact .inr ⟨c', found, on⟩
    have old : ∀ other c, w.consumers.get? other = some c → ¬ c.On target := fun other c found on =>
      absurd (number ▸ divided.numbered other c target found on) (Nat.not_succ_le_self _)
    refine ⟨(ages divided.tidy).1, fun other c' number found on => ?_,
      fun one other c' c'' number found found' on on' => ?_⟩
    · refine Nat.le_trans ?_ (Nat.le_of_eq latest.symm)
      obtain ⟨-, rfl⟩ | ⟨c, before, on⟩ := had other c' number found on
      · exact Nat.le_refl _
      · exact Nat.le_trans (divided.numbered other c number before on) (Nat.le_trans (Nat.le_succ _)
          (Nat.le_of_eq (by assumption : target = w.client.broker.lastId + 1).symm))
    · obtain ⟨rfl, rfl⟩ | ⟨c, before, before_on⟩ := had one c' number found on
      · obtain ⟨rfl, -⟩ | ⟨c, before, before_on⟩ := had other c'' _ found' on'
        · rfl
        · exact absurd before_on (old other c before)
      · obtain ⟨-, rfl⟩ | ⟨c₂, before₂, before_on₂⟩ := had other c'' number found' on'
        · exact absurd before_on (old one c before)
        · exact divided.sole one other c c₂ number before before₂ before_on before_on₂
  | released => exact releaseChannel_divided divided id

theorem Does.divided (does : Does id w w') (divided : w.Divided) : w'.Divided := by
  induction does with
  | refl => exact divided
  | tail _ doing ih => exact doing.divided ih

theorem Effect.divided (effect : Effect task w w') (divided : w.Divided) : w'.Divided := by
  cases effect with
  | aside aside => exact aside.divided divided
  | timed | untimed | rested | dropped => exact divided.of_same (.refl _) rfl
  | @released id => exact releaseChannel_divided divided id
  | @touched id f same =>
    refine divided.modified (.refl _) (fun _ => rfl) fun c found channel on => ?_
    obtain ⟨-, -, -, has, -, -, opened, -⟩ := same c found
    exact on.imp (fun on => has ▸ on) fun on => opened ▸ on
  | @ended id c found busy metrics state event told report about =>
    have released := releaseChannel_divided divided id
    obtain ⟨client, -⟩ := ended_frame (w.releaseChannel id).2 id c.run metrics state event report
    refine released.keep (client ▸ .refl _) fun other c' found' channel on => ?_
    rw [ended_consumers, Table.get?_modify] at found'
    split at found'
    next here =>
      obtain ⟨c₁, found₁, rfl⟩ := Option.map_eq_some_iff.mp found'
      rw [Table.get?_modify, if_pos here] at found₁
      obtain ⟨c₀, found₀, rfl⟩ := Option.map_eq_some_iff.mp found₁
      exact ⟨c₀, found₀, on⟩
    next differ =>
      rw [Table.get?_modify_of_ne _ _ differ] at found'
      exact ⟨c', found', on⟩

end World

end QueueListener
