import QueueListener.Proofs.Broker.Settling
/-!
# The ledger of a channel

**Only the owner of a channel settles on it.** The ledger of a channel is what the journal has of
its settlements, commits and rollbacks. Every other operation leaves the ledger as it is, and takes
nothing away that is unsettled on the channel while it is open.

* `Broker.ledger` — the settlements, commits and rollbacks of a channel;
* `Broker.Undisturbed` — the ledger is the same, and what was unsettled still is, in front;
* `step_undisturbed` — every operation that is not a settlement, commit or rollback of the channel;
* `acknowledge_ledger`, `commit_ledger`, `rollback_ledger` — these three, when they are not refused;
* `step_retains` — on a transactional channel only the commit takes something away.
-/

namespace QueueListener

/-- Whether an action is a settlement, a commit or a rollback. -/
def ChannelAction.settles : ChannelAction → Bool
  | .settle _ => true
  | .commit => true
  | .rollback => true
  | _ => false

/-- The channel is not open any more, or its unsettled deliveries are still in front. -/
structure ChannelRecord.Retains (record record' : ChannelRecord) : Prop where
  transactional : record'.transactional = record.transactional
  unacked : record'.isOpen = true → record.isOpen = true ∧ record.unacked <+: record'.unacked

theorem ChannelRecord.Retains.refl (record : ChannelRecord) : record.Retains record :=
  ⟨rfl, fun opened => ⟨opened, List.prefix_rfl⟩⟩

theorem ChannelRecord.Retains.trans {first second third : ChannelRecord}
    (before : first.Retains second) (after : second.Retains third) : first.Retains third := by
  refine ⟨after.transactional.trans before.transactional, fun opened => ?_⟩
  obtain ⟨wasOpen, behind⟩ := after.unacked opened
  obtain ⟨atFirst, front⟩ := before.unacked wasOpen
  exact ⟨atFirst, front.trans behind⟩

/-- A delivery comes behind those that are unsettled. -/
theorem ChannelRecord.retains_receive (record : ChannelRecord) (tag : Nat) (queue : String)
    (autoAck : Bool) (message : Message) : record.Retains (record.receive tag queue autoAck message) := by
  refine ⟨rfl, fun opened => ⟨opened, ?_⟩⟩
  cases autoAck with
  | false => exact List.prefix_append _ _
  | true => exact List.prefix_rfl

namespace Broker

/-- The settlements, commits and rollbacks of a channel, oldest first. -/
def ledger (b : Broker) (channel : Nat) : List ChannelAction :=
  (b.journal.toList.filter fun entry => entry.channel = channel && entry.action.settles).map
    (·.action)

variable {b b₁ b₂ b₃ : Broker} {channel : Nat}

theorem ledger_congr (same : b₂.journal = b₁.journal) : b₂.ledger channel = b₁.ledger channel := by
  unfold ledger
  rw [same]

/-- What is recorded of a channel is in its ledger if it settles. -/
theorem ledger_record (b : Broker) (other channel : Nat) (action : ChannelAction) :
    (b.record other action).ledger channel =
      b.ledger channel ++ if other = channel && action.settles then [action] else [] := by
  unfold ledger Broker.record
  rw [Array.toList_push, List.filter_append, List.map_append]
  by_cases listed : (other = channel && action.settles) = true <;> simp [listed]

theorem ledger_record_self {action : ChannelAction} (settles : action.settles = true) (b : Broker)
    (channel : Nat) : (b.record channel action).ledger channel = b.ledger channel ++ [action] := by
  rw [ledger_record, settles, decide_eq_true rfl, Bool.and_self, if_pos rfl]

/-! ### What disturbs nothing -/

/-- Nothing is settled on a channel: its ledger is the same, and what was unsettled still is. -/
structure Undisturbed (channel : Nat) (b b' : Broker) : Prop where
  ledger : b'.ledger channel = b.ledger channel
  retains : ∀ record, b.channels.get? channel = some record →
    ∃ record', b'.channels.get? channel = some record' ∧ record.Retains record'

namespace Undisturbed

theorem trans (first : Undisturbed channel b₁ b₂) (second : Undisturbed channel b₂ b₃) :
    Undisturbed channel b₁ b₃ := by
  refine ⟨second.ledger.trans first.ledger, fun record found => ?_⟩
  obtain ⟨middle, reached, front⟩ := first.retains record found
  obtain ⟨last, reached', behind⟩ := second.retains middle reached
  exact ⟨last, reached', front.trans behind⟩

/-- While the channel is open, what was unsettled is in front of what is. -/
theorem unacked (undisturbed : Undisturbed channel b₁ b₂) {record record' : ChannelRecord}
    (opened : b₁.openChannel? channel = some record)
    (opened' : b₂.openChannel? channel = some record') : record.unacked <+: record'.unacked := by
  obtain ⟨after, found, retains⟩ := undisturbed.retains record (get?_of_openChannel? opened)
  obtain rfl := Option.some.inj (found.symm.trans (get?_of_openChannel? opened'))
  exact (retains.unacked (isOpen_of_openChannel? opened')).2

/-- A change that leaves the journal and the channel alone. -/
theorem of_same (journal : b₂.journal = b₁.journal)
    (same : b₂.channels.get? channel = b₁.channels.get? channel) : Undisturbed channel b₁ b₂ :=
  ⟨ledger_congr journal, fun record found => ⟨record, same.trans found, .refl record⟩⟩

theorem refl (channel : Nat) (b : Broker) : Undisturbed channel b b := of_same rfl rfl

/-- A change of a channel that takes nothing away. -/
theorem of_update (b : Broker) (other : Nat) {f : ChannelRecord → ChannelRecord}
    (retains : ∀ record : ChannelRecord, record.Retains (f record)) :
    Undisturbed channel b (b.updateChannel other f) := by
  refine ⟨ledger_congr rfl, fun record found => ?_⟩
  by_cases mine : other = channel
  · subst mine
    exact ⟨f record, (Table.get?_modify_self _ _ _).trans (by rw [found]; rfl), retains record⟩
  · exact ⟨record, (Table.get?_modify_of_ne _ _ (Ne.symm mine)).trans found, .refl record⟩

/-- A change of another channel. -/
theorem of_other (b : Broker) {other : Nat} (differs : other ≠ channel)
    (f : ChannelRecord → ChannelRecord) : Undisturbed channel b (b.updateChannel other f) :=
  of_same rfl (Table.get?_modify_of_ne _ _ differs.symm)

/-- An entry of the journal that is not for the ledger of the channel. -/
theorem of_record (b : Broker) {other : Nat} {action : ChannelAction}
    (quiet : (other = channel && action.settles) = false) :
    Undisturbed channel b (b.record other action) := by
  refine ⟨?_, fun record found => ⟨record, found, .refl record⟩⟩
  rw [ledger_record, quiet, if_neg Bool.false_ne_true, List.append_nil]

/-- Others record what they like about theirs. -/
theorem of_foreign (b : Broker) {other : Nat} (differs : other ≠ channel)
    (action : ChannelAction) : Undisturbed channel b (b.record other action) :=
  of_record b (by rw [decide_eq_false differs, Bool.false_and])

theorem foldl {α : Type} {f : Broker → α → Broker} (elements : List α)
    (kept : ∀ now, ∀ element ∈ elements, Undisturbed channel now (f now element)) (b : Broker) :
    Undisturbed channel b (elements.foldl f b) :=
  List.foldlRecOn (motive := Undisturbed channel b) elements f (refl channel b)
    fun now undisturbed element member => undisturbed.trans (kept now element member)

end Undisturbed

theorem push_undisturbed {queue : String} (push : Push b queue) :
    Undisturbed channel b push.result := by
  have received : Undisturbed channel b (b.updateChannel push.consumer.channel
      (·.receive (push.channel.lastTag + 1) queue push.consumer.autoAck push.message)) :=
    .of_update b _ fun record => record.retains_receive _ _ _ _
  exact received.trans (.of_same rfl rfl)

theorem dispatch_undisturbed (b : Broker) (queue : String) :
    Undisturbed channel b (b.dispatch queue) :=
  dispatch_induction (motive := Undisturbed channel b)
    (fun _ _ push undisturbed => undisturbed.trans (push_undisturbed push)) queue b (.refl channel b)

theorem dispatchAll_undisturbed (b : Broker) : Undisturbed channel b b.dispatchAll :=
  dispatchAll_induction (motive := Undisturbed channel b)
    (fun _ _ push undisturbed => undisturbed.trans (push_undisturbed push)) b (.refl channel b)

theorem unregister_undisturbed (b : Broker) (consumerTag : String) :
    Undisturbed channel b (b.unregister consumerTag) := by
  unfold unregister
  split
  next => exact .refl channel b
  next => exact .of_same rfl rfl

theorem endConsumer_undisturbed (b : Broker) (cause : Option ClientError) (consumerTag : String) :
    Undisturbed channel b (b.endConsumer cause consumerTag) := by
  unfold endConsumer
  split
  next => exact .refl channel b
  next => exact (unregister_undisturbed b consumerTag).trans (.of_same rfl rfl)

theorem giveBackAll_undisturbed (b : Broker) (entries : List Unacked) :
    Undisturbed channel b (b.giveBackAll entries) := by
  obtain ⟨queues, deadLetters, same⟩ := b.giveBackAll_eq entries
  rw [same]
  exact .of_same rfl rfl

/-- A channel that closes is not open any more; another one is left alone. -/
theorem closeChannel_undisturbed (b : Broker) (other : Nat) (cause : Option ClientError) :
    Undisturbed channel b (b.closeChannel other cause) := by
  unfold closeChannel
  split
  next => exact .refl channel b
  next record _ =>
    dsimp only
    have closed : Undisturbed channel b (b.updateChannel other fun record =>
        { record with isOpen := false, pending := [], unacked := [] }) :=
      .of_update b other fun record => ⟨rfl, nofun⟩
    refine closed.trans ?_
    generalize b.updateChannel other _ = after
    have ended : Undisturbed channel after
        ((after.tagsOn other).foldl (fun b tag => b.endConsumer cause tag) after) :=
      .foldl _ (fun now tag _ => endConsumer_undisturbed now cause tag) after
    have quiet : (other = channel && ChannelAction.close.settles) = false := Bool.and_false _
    have noted := (ended.trans (giveBackAll_undisturbed _ record.unacked)).trans
      (.of_record _ quiet)
    exact noted.trans (dispatchAll_undisturbed _)

theorem closeConnection_undisturbed (b : Broker) (connection : Nat) (cause : Option ClientError) :
    Undisturbed channel b (b.closeConnection connection cause) := by
  unfold closeConnection
  split
  next =>
    dsimp only
    refine Undisturbed.trans ?_ (.foldl _ (fun now other _ =>
      closeChannel_undisturbed now other cause) _)
    exact .of_same rfl rfl
  next => exact .refl channel b

/-- A verdict on another channel. -/
theorem settle_undisturbed (b : Broker) {other : Nat} (differs : other ≠ channel)
    (settlement : Settlement) : Undisturbed channel b (b.settle other settlement) := by
  cases found : b.channels.get? other with
  | none =>
    have same : b.settle other settlement = b := by
      unfold settle
      rw [found]
    rw [same]
    exact .refl channel b
  | some record =>
    obtain ⟨_, _, _, same⟩ := settle_eq found settlement
    rw [same]
    exact (Undisturbed.of_other b differs (·.without settlement)).trans (.of_same rfl rfl)

/-- A verdict, on this channel or another, is not an entry of the journal. -/
theorem settle_journal (b : Broker) (channel : Nat) (settlement : Settlement) :
    (b.settle channel settlement).journal = b.journal := by
  cases found : b.channels.get? channel with
  | none =>
    unfold settle
    rw [found]
  | some record =>
    obtain ⟨_, _, _, same⟩ := settle_eq found settlement
    rw [same]

/-! ### The operations that settle nothing on the channel -/

/-- Whether an operation settles, commits or rolls back on a channel. -/
def Op.SettlesOn (channel : Nat) : Op → Prop
  | .acknowledge other _ => other = channel
  | .commit other => other = channel
  | .rollback other => other = channel
  | _ => False

theorem accept_undisturbed (b : Broker) (queue : String) (payload : Payload)
    (properties : Properties) : Undisturbed channel b (b.accept queue payload properties) := by
  refine Undisturbed.trans ?_ (dispatch_undisturbed _ queue)
  exact .of_same rfl rfl

theorem delete_undisturbed (b : Broker) (queue : String) :
    Undisturbed channel b (b.delete queue).2 := by
  unfold delete
  split
  next => exact .refl channel b
  next =>
    dsimp only
    refine Undisturbed.trans ?_ (.foldl _ (fun now tag _ => ?_) _)
    · exact .of_same rfl rfl
    · unfold cancelDeleted
      split
      next => exact .refl channel now
      next => exact .of_same rfl rfl

theorem connect_undisturbed (b : Broker) : Undisturbed channel b b.connect.2 := by
  unfold connect
  dsimp only
  split
  next => exact .of_same rfl rfl
  next => split <;> exact .of_same rfl rfl

/-- A new channel has a new number. -/
theorem createChannel_undisturbed (tidy : b.Tidy) (connection : Nat) (transactional : Bool) :
    Undisturbed channel b (b.createChannel connection transactional).2 := by
  unfold createChannel
  split
  next =>
    split
    next =>
      refine ⟨ledger_congr rfl, fun record found => ⟨record, ?_, .refl record⟩⟩
      have old : channel ≠ b.lastId + 1 := fun same =>
        absurd (same ▸ tidy.numbered _ (Table.mem_keys_of_get? found)) (Nat.not_succ_le_self _)
      show (b.channels.set (b.lastId + 1) _).get? channel = _
      rw [Table.get?_set, if_neg old, found]
    next => exact .refl channel b
  next => exact .refl channel b

theorem setPrefetch_undisturbed (b : Broker) (other prefetch : Nat) :
    Undisturbed channel b (b.setPrefetch other prefetch).2 := by
  unfold setPrefetch
  split
  next =>
    have bounded : Undisturbed channel b (b.updateChannel other fun record =>
        { record with prefetch }) :=
      .of_update b other fun record => ⟨rfl, fun opened => ⟨opened, List.prefix_rfl⟩⟩
    exact bounded.trans (dispatchAll_undisturbed _)
  next => exact .refl channel b

theorem consume_undisturbed (b : Broker) (other : Nat) (queue requested : String) (autoAck : Bool)
    (subscriber : Nat) :
    Undisturbed channel b (b.consume other queue requested autoAck subscriber).2 := by
  rcases b.consume_cases other queue requested autoAck subscriber with
    ⟨_, refused⟩ | ⟨_, generated, refused⟩ | ⟨tag, generated, -, -, -, enrolled⟩
  · rw [refused]
    exact .refl channel b
  · have counted : Undisturbed channel b { b with generatedTags := generated } := .of_same rfl rfl
    rw [refused]
    exact counted.trans (closeChannel_undisturbed _ other none)
  · have enrolls : Undisturbed channel b
        (b.enroll generated tag ⟨queue, other, autoAck, subscriber⟩) := .of_same rfl rfl
    rw [enrolled]
    exact (enrolls.trans (.of_record _ (Bool.and_false _))).trans (dispatch_undisturbed _ queue)

theorem get_undisturbed (b : Broker) (other : Nat) (queue : String) (autoAck : Bool) :
    Undisturbed channel b (b.get other queue autoAck).2 := by
  rcases b.get_cases other queue autoAck with
    ⟨_, refused⟩ | ⟨_, refused⟩ | nothing | ⟨record, _, message, rest, -, -, -, got⟩
  · rw [refused]
    exact .refl channel b
  · rw [refused]
    exact closeChannel_undisturbed b other none
  · rw [nothing]
    exact .refl channel b
  · have received : Undisturbed channel b (b.updateChannel other
        (·.receive (record.lastTag + 1) queue autoAck message)) :=
      .of_update b other fun record => record.retains_receive _ _ _ _
    rw [got]
    exact received.trans (.of_same rfl rfl)

theorem cancel_undisturbed (b : Broker) (other : Nat) (consumerTag : String) :
    Undisturbed channel b (b.cancel other consumerTag).2 := by
  unfold cancel
  split
  next => exact .refl channel b
  next =>
    dsimp only
    refine Undisturbed.trans ?_ (.of_record _ (Bool.and_false _))
    split
    next =>
      split
      next => exact (unregister_undisturbed b consumerTag).trans (.of_same rfl rfl)
      next => exact .refl channel b
    next => exact .refl channel b

theorem acknowledge_undisturbed (b : Broker) {other : Nat} (differs : other ≠ channel)
    (settlement : Settlement) : Undisturbed channel b (b.acknowledge other settlement).2 := by
  unfold acknowledge
  split
  next => exact .refl channel b
  next =>
    split
    next =>
      have noted : Undisturbed channel b (b.record other (.settle settlement)) :=
        .of_foreign b differs _
      dsimp only
      split
      next => exact noted.trans (.of_other _ differs _)
      next =>
        exact (noted.trans (settle_undisturbed _ differs settlement)).trans
          (dispatchAll_undisturbed _)
    next => exact closeChannel_undisturbed b other none

theorem commit_undisturbed (b : Broker) {other : Nat} (differs : other ≠ channel) :
    Undisturbed channel b (b.commit other).2 := by
  unfold commit
  split
  next => exact .refl channel b
  next record _ =>
    split
    next =>
      have cleared : Undisturbed channel b
          ((b.updateChannel other fun record => { record with pending := [] }).record other
            .commit) := (Undisturbed.of_other b differs _).trans (.of_foreign _ differs _)
      have settled := cleared.trans (.foldl record.pending
        (fun now settlement _ => settle_undisturbed now differs settlement) _)
      exact settled.trans (dispatchAll_undisturbed _)
    next => exact .refl channel b

theorem rollback_undisturbed (b : Broker) {other : Nat} (differs : other ≠ channel) :
    Undisturbed channel b (b.rollback other).2 := by
  unfold rollback
  split
  next => exact .refl channel b
  next =>
    split
    next => exact (Undisturbed.of_other b differs _).trans (.of_foreign _ differs _)
    next => exact .refl channel b

/-- **Only settlements, commits and rollbacks of the channel disturb it.** -/
theorem step_undisturbed (tidy : b.Tidy) {op : Op} (foreign : ¬ op.SettlesOn channel) :
    Undisturbed channel b (b.step op).2 := by
  cases op with
  | declare queue =>
    show Undisturbed channel b (b.declare queue).2
    unfold declare
    split
    next => exact .refl channel b
    next => exact .of_same rfl rfl
  | delete queue => exact delete_undisturbed b queue
  | publish queue payload properties =>
    show Undisturbed channel b (Reply.ofDone _).2
    rw [Reply.ofDone_snd]
    unfold publish
    split
    next => exact accept_undisturbed b queue payload properties
    next => exact .refl channel b
  | refuseConnections | rejectCredentials => exact .of_same rfl rfl
  | dropConnections =>
    exact .foldl _ (fun now connection _ => closeConnection_undisturbed now connection _) b
  | connect => exact Reply.ofResult_snd _ _ ▸ connect_undisturbed b
  | closeConnection connection => exact closeConnection_undisturbed b connection none
  | createChannel connection transactional =>
    exact Reply.ofResult_snd _ _ ▸ createChannel_undisturbed tidy connection transactional
  | setPrefetch other prefetch => exact Reply.ofDone_snd _ ▸ setPrefetch_undisturbed b other prefetch
  | consume other queue tag autoAck subscriber =>
    exact Reply.ofResult_snd _ _ ▸ consume_undisturbed b other queue tag autoAck subscriber
  | get other queue autoAck =>
    exact Reply.ofResult_snd _ _ ▸ get_undisturbed b other queue autoAck
  | acknowledge other settlement =>
    exact Reply.ofDone_snd _ ▸ acknowledge_undisturbed b foreign settlement
  | cancel other tag => exact Reply.ofDone_snd _ ▸ cancel_undisturbed b other tag
  | publishOn other exchange queue payload properties =>
    show Undisturbed channel b (Reply.ofDone _).2
    rw [Reply.ofDone_snd]
    unfold publishOn
    split
    next => exact .refl channel b
    next =>
      split
      next => exact accept_undisturbed b queue payload properties
      next => exact .refl channel b
  | commit other => exact Reply.ofDone_snd _ ▸ commit_undisturbed b foreign
  | rollback other => exact Reply.ofDone_snd _ ▸ rollback_undisturbed b foreign
  | confirm other =>
    show Undisturbed channel b (Reply.ofDone _).2
    rw [Reply.ofDone_snd, confirm_snd]
    exact .refl channel b
  | close other => exact closeChannel_undisturbed b other none

/-! ### The operations that settle on the channel -/

/-- A settlement that is not refused is in the ledger. -/
theorem acknowledge_ledger {settlement : Settlement}
    (done : b.acknowledge channel settlement = (.ok (), b₁)) :
    b₁.ledger channel = b.ledger channel ++ [.settle settlement] := by
  unfold acknowledge at done
  split at done
  next => cases done
  next =>
    split at done
    next =>
      have noted : (b.record channel (.settle settlement)).ledger channel =
          b.ledger channel ++ [.settle settlement] := ledger_record_self rfl b channel
      dsimp only at done
      split at done
      next =>
        cases done
        exact noted
      next =>
        cases done
        rw [(dispatchAll_undisturbed _).ledger, ledger_congr (settle_journal _ _ _), noted]
    next => cases done

/-- A commit that is not refused is in the ledger. -/
theorem commit_ledger (done : b.commit channel = (.ok (), b₁)) :
    b₁.ledger channel = b.ledger channel ++ [.commit] := by
  unfold commit at done
  split at done
  next => cases done
  next record _ =>
    split at done
    next =>
      cases done
      have settled : ∀ now : Broker,
          (record.pending.foldl (fun b s => b.settle channel s) now).journal = now.journal :=
        fun now => List.foldlRecOn (motive := fun after => after.journal = now.journal) _ _ rfl
          fun after same settlement _ => (settle_journal after channel settlement).trans same
      rw [(dispatchAll_undisturbed _).ledger, ledger_congr (settled _)]
      exact ledger_record_self rfl _ channel
    next => cases done

/-- A rollback that is not refused is in the ledger. -/
theorem rollback_ledger (done : b.rollback channel = (.ok (), b₁)) :
    b₁.ledger channel = b.ledger channel ++ [.rollback] := by
  unfold rollback at done
  split at done
  next => cases done
  next =>
    split at done
    next =>
      cases done
      exact ledger_record_self rfl _ channel
    next => cases done

/-- **On a transactional channel only the commit takes something away**, as long as the channel is
open. -/
theorem step_retains (tidy : b.Tidy) {op : Op} (other : op ≠ .commit channel)
    {record record' : ChannelRecord} (opened : b.openChannel? channel = some record)
    (transactional : record.transactional = true)
    (opened' : (b.step op).2.openChannel? channel = some record') :
    record.unacked <+: record'.unacked := by
  -- a settlement only waits for the commit, and a rollback only makes it wait no longer
  have waits : ∀ {now : Broker}, (∃ f : ChannelRecord → ChannelRecord,
      (∀ record, (f record).unacked = record.unacked) ∧
        now.channels = b.channels.modify channel f) →
      now.openChannel? channel = some record' → record.unacked <+: record'.unacked := by
    rintro now ⟨f, same, modified⟩ reached
    have found := get?_of_openChannel? reached
    rw [modified, Table.get?_modify_self, get?_of_openChannel? opened] at found
    have kept : record'.unacked = record.unacked := by
      rw [← Option.some.inj found, same record]
    exact ⟨[], (List.append_nil _).trans kept.symm⟩
  by_cases settles : op.SettlesOn channel
  · cases op with
    | acknowledge number settlement =>
      obtain rfl : number = channel := settles
      rw [show ((b.step (.acknowledge number settlement)).2) = (b.acknowledge number settlement).2
        from Reply.ofDone_snd _] at opened'
      unfold acknowledge at opened'
      rw [opened] at opened'
      dsimp only at opened'
      split at opened'
      next =>
        exact waits ⟨fun record => { record with pending := record.pending ++ [settlement] },
          fun _ => rfl, rfl⟩ opened'
      next =>
        exact (closeChannel_undisturbed b number none).unacked opened opened'
    | commit number => exact absurd (congrArg Op.commit settles) other
    | rollback number =>
      obtain rfl : number = channel := settles
      rw [show ((b.step (.rollback number)).2) = (b.rollback number).2
        from Reply.ofDone_snd _] at opened'
      unfold rollback at opened'
      rw [opened] at opened'
      dsimp only at opened'
      rw [if_pos transactional] at opened'
      exact waits ⟨fun record => { record with pending := [] }, fun _ => rfl, rfl⟩ opened'
    | _ => exact settles.elim
  · exact (step_undisturbed tidy settles).unacked opened opened'

end Broker

/-- What spares a seat settles nothing on its channel. -/
theorem Seat.Spares.not_settlesOn {seat : Seat} {op : Broker.Op} (spares : seat.Spares op) :
    ¬ op.SettlesOn seat.channel := by
  cases op with
  | acknowledge | commit | rollback => exact spares
  | _ => exact id

end QueueListener
