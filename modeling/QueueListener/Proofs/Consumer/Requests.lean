import QueueListener.Container.Consume
import QueueListener.Proofs.Broker.Registration
/-!
# What requests do

**A channel is opened by the request for one and by no other, only acknowledgements and rejections
settle anything**, and no request arms a fault. So it is with all that a listener does on its bench
and with the end of a channel.

* `Moves`, `Moves.bind`, `forIn_moves` — work that moves its state along a relation, however it ends;
* `step_channelOpen` — the operations of the broker;
* `Op.SettlesOnly`, `Client.Works` — requests that settle no more than they may;
* `Client.OpensNone`, `Works.opensNone` — so they open nothing;
* `Command.Minds`, `resume_works` — the bench;
* `release_works`, `release_closes` — the end of a channel.
-/

namespace QueueListener

/-! ### Work along a relation -/

section Moves

variable {σ ε α β : Type} {R : σ → σ → Prop}

/-- Work that moves its state along a relation, however it ends. -/
def Moves (R : σ → σ → Prop) (work : ExceptT ε (StateM σ) α) : Prop := ∀ s, R s (work.run s).2

theorem pure_moves (refl : ∀ s, R s s) (a : α) :
    Moves R (pure a : ExceptT ε (StateM σ) α) := fun s => refl s

theorem get_moves (refl : ∀ s, R s s) : Moves R (get : ExceptT ε (StateM σ) σ) :=
  fun s => refl s

theorem modify_moves {f : σ → σ} (along : ∀ s, R s (f s)) :
    Moves R (modify f : ExceptT ε (StateM σ) PUnit) := along

theorem modifyGet_moves {f : σ → α × σ} (along : ∀ s, R s (f s).2) :
    Moves R (modifyGet f : ExceptT ε (StateM σ) α) := along

/-- The second part is reached from where the first one has ended, if at all. -/
theorem run_bind_moves (trans : ∀ s s' s'', R s s' → R s' s'' → R s s'')
    {first : ExceptT ε (StateM σ) α} {next : α → ExceptT ε (StateM σ) β} {s : σ}
    (begun : R s (first.run s).2)
    (goesOn : ∀ a, (first.run s).1 = .ok a → R (first.run s).2 ((next a).run (first.run s).2).2) :
    R s ((first >>= next).run s).2 := by
  show R s ((ExceptT.bindCont next (first.run s).1).run (first.run s).2).2
  cases ended : (first.run s).1 with
  | ok a => exact trans _ _ _ begun (goesOn a ended)
  | error error => exact begun

/-- What fails ends there. -/
theorem run_bind_error {first : ExceptT ε (StateM σ) α} {next : α → ExceptT ε (StateM σ) β}
    {s s' : σ} {error : ε} (ran : first.run s = (.error error, s')) :
    (first >>= next).run s = (.error error, s') := by
  show (ExceptT.bindCont next (first.run s).1).run (first.run s).2 = _
  rw [ran]
  rfl

theorem Moves.bind (trans : ∀ s s' s'', R s s' → R s' s'' → R s s'')
    {first : ExceptT ε (StateM σ) α} {next : α → ExceptT ε (StateM σ) β}
    (begins : Moves R first) (goesOn : ∀ a, Moves R (next a)) : Moves R (first >>= next) :=
  fun s => run_bind_moves trans (begins s) fun a _ => goesOn a _

/-- One item after the other. -/
theorem forIn_moves (refl : ∀ s, R s s) (trans : ∀ s s' s'', R s s' → R s' s'' → R s s'')
    {items : List α} {each : α → ExceptT ε (StateM σ) Unit}
    (moves : ∀ item, Moves R (each item)) :
    Moves R (forIn items PUnit.unit fun item _ => do
      each item
      return ForInStep.yield PUnit.unit) := by
  induction items with
  | nil => exact pure_moves refl _
  | cons item items ih =>
    rw [List.forIn_cons, bind_assoc]
    exact .bind trans (moves item) fun _ => ih

end Moves

/-! ### The broker -/

namespace Broker

variable {b b' : Broker} {channel : Nat}

/-- A channel that is open after a course was open before it. -/
theorem Leads.channelOpen (losing : Nat → Prop) (led : Leads losing b b')
    (opened : b'.channelOpen channel = true) : b.channelOpen channel = true := by
  obtain ⟨log, course⟩ := led
  obtain ⟨record', after⟩ := exists_openChannel? opened
  obtain ⟨record, before, -⟩ := course.opened after
  exact channelOpen_of_openChannel? before

theorem consume_channelOpen (queue requested : String) (other : Nat) (autoAck : Bool)
    (subscriber : Nat)
    (opened : (b.consume other queue requested autoAck subscriber).2.channelOpen channel = true) :
    b.channelOpen channel = true := by
  rcases b.consume_cases other queue requested autoAck subscriber with
    ⟨_, refused⟩ | ⟨_, generated, refused⟩ | ⟨tag, generated, -, -, -, enrolled⟩
  · rwa [refused] at opened
  · rw [refused] at opened
    have before := Leads.channelOpen (fun _ => False) (closeChannel_leads _ other none) opened
    exact before
  · rw [enrolled] at opened
    have noted : Leads (fun _ => False) (b.enroll generated tag ⟨queue, other, autoAck, subscriber⟩)
        ((b.enroll generated tag ⟨queue, other, autoAck, subscriber⟩).record other
          (.consume queue tag)) := (Leads.refl _).turn (.of_record _ other _)
    exact (noted.trans (dispatch_leads _ queue)).channelOpen _ opened

theorem get_channelOpen (queue : String) (other : Nat) (autoAck : Bool)
    (opened : (b.get other queue autoAck).2.channelOpen channel = true) :
    b.channelOpen channel = true := by
  rcases b.get_cases other queue autoAck with
    ⟨_, refused⟩ | ⟨_, refused⟩ | empty | ⟨record, waiting, message, rest, -, -, -, got⟩
  · rwa [refused] at opened
  · rw [refused] at opened
    exact Leads.channelOpen (fun _ => False) (closeChannel_leads b other none) opened
  · rwa [empty] at opened
  · rw [got] at opened
    have same := channelOpen_updateChannel b other channel
      (·.receive (record.lastTag + 1) queue autoAck message) fun _ => rfl
    exact same.symm.trans opened

theorem connect_channelOpen (opened : b.connect.2.channelOpen channel = true) :
    b.channelOpen channel = true := by
  unfold connect at opened
  dsimp only at opened
  split at opened
  next => exact opened
  next => split at opened <;> exact opened

theorem setPrefetch_channelOpen (other prefetch : Nat)
    (opened : (b.setPrefetch other prefetch).2.channelOpen channel = true) :
    b.channelOpen channel = true := by
  unfold setPrefetch at opened
  split at opened
  next =>
    have before := Leads.channelOpen (fun _ => False) (dispatchAll_leads _) opened
    have same := channelOpen_updateChannel b other channel
      (fun record => { record with prefetch }) fun _ => rfl
    exact same.symm.trans before
  next => exact opened

/-- **Only the request for a channel opens one.** -/
theorem step_channelOpen {op : Op}
    (other : ∀ connection transactional, op ≠ .createChannel connection transactional)
    (opened : (b.step op).2.channelOpen channel = true) : b.channelOpen channel = true := by
  cases op with
  | declare queue =>
    have same : (b.declare queue).2.channels = b.channels := by
      unfold declare
      split <;> rfl
    exact (channelOpen_congr (congrArg (·.get? channel) same)).symm.trans opened
  | delete queue => exact Leads.channelOpen (fun _ => False) (delete_leads b queue) opened
  | publish queue payload properties =>
    exact Leads.channelOpen (fun _ => False) (publish_leads b queue payload properties)
      (Reply.ofDone_snd _ ▸ opened)
  | refuseConnections | rejectCredentials => exact opened
  | dropConnections => exact (dropConnections_leads b).channelOpen _ opened
  | connect => exact connect_channelOpen (Reply.ofResult_snd _ _ ▸ opened)
  | closeConnection connection =>
    exact Leads.channelOpen (fun _ => True) (closeConnection_leads b connection none trivial)
      opened
  | createChannel connection transactional => exact absurd rfl (other connection transactional)
  | setPrefetch target prefetch =>
    exact setPrefetch_channelOpen target prefetch (Reply.ofDone_snd _ ▸ opened)
  | consume target queue tag autoAck subscriber =>
    exact consume_channelOpen queue tag target autoAck subscriber
      (Reply.ofResult_snd _ _ ▸ opened)
  | get target queue autoAck =>
    exact get_channelOpen queue target autoAck (Reply.ofResult_snd _ _ ▸ opened)
  | acknowledge target settlement =>
    exact Leads.channelOpen (fun _ => False) (acknowledge_leads b target settlement)
      (Reply.ofDone_snd _ ▸ opened)
  | cancel target tag =>
    exact Leads.channelOpen (fun _ => False) (cancel_leads b target tag)
      (Reply.ofDone_snd _ ▸ opened)
  | publishOn target exchange queue payload properties =>
    exact Leads.channelOpen (fun _ => False) (publishOn_leads b target exchange queue payload
      properties) (Reply.ofDone_snd _ ▸ opened)
  | commit target =>
    exact Leads.channelOpen (fun _ => False) (commit_leads b target)
      (Reply.ofDone_snd _ ▸ opened)
  | rollback target =>
    exact Leads.channelOpen (fun _ => False) (rollback_leads b target)
      (Reply.ofDone_snd _ ▸ opened)
  | confirm target =>
    have same : (b.step (.confirm target)).2 = b := (Reply.ofDone_snd _).trans (confirm_snd b target)
    exact same ▸ opened
  | close target =>
    exact Leads.channelOpen (fun _ => False) (closeChannel_leads b target none) opened

end Broker

/-! ### The client -/

/-- Nothing was opened between two moments of a client: no channel is open and no operation has a
fault armed that was not so before. -/
structure Client.OpensNone (c c' : Client) : Prop where
  channels : ∀ channel, c'.broker.channelOpen channel = true → c.broker.channelOpen channel = true
  faults : ∀ fault ∈ c'.faults, ∃ earlier ∈ c.faults, earlier.op = fault.op

/-- A call of an operation uses up faults, and arms none. -/
theorem ArmedFault.take_faults {op : ClientOp} {faults rest : List ArmedFault} {error : ClientError}
    (taken : take op faults = some (error, rest)) {fault : ArmedFault} (member : fault ∈ rest) :
    ∃ earlier ∈ faults, earlier.op = fault.op := by
  induction faults generalizing rest with
  | nil => cases taken
  | cons first others ih =>
    unfold take at taken
    split at taken
    next => cases taken; exact ⟨fault, List.mem_cons_of_mem _ member, rfl⟩
    next =>
      cases taken
      obtain rfl | later := List.mem_cons.mp member
      · exact ⟨first, List.mem_cons_self, rfl⟩
      · exact ⟨fault, List.mem_cons_of_mem _ later, rfl⟩
    next =>
      obtain ⟨⟨error', rest'⟩, found, same⟩ := Option.map_eq_some_iff.mp taken
      cases same
      obtain rfl | later := List.mem_cons.mp member
      · exact ⟨fault, List.mem_cons_self, rfl⟩
      · obtain ⟨earlier, listed, same⟩ := ih found later
        exact ⟨earlier, List.mem_cons_of_mem _ listed, same⟩

/-- Faults of other operations answer nothing. -/
theorem ArmedFault.take_of_other {op : ClientOp} {faults : List ArmedFault}
    (others : ∀ fault ∈ faults, fault.op ≠ op) : take op faults = none := by
  induction faults with
  | nil => rfl
  | cons first rest ih =>
    unfold take
    rw [decide_eq_false (others first List.mem_cons_self),
      ih fun fault armed => others fault (List.mem_cons_of_mem _ armed)]
    rfl

namespace Client

variable {c c' c'' : Client}

theorem OpensNone.refl (c : Client) : c.OpensNone c := ⟨fun _ => id, fun fault armed => ⟨fault, armed, rfl⟩⟩

theorem OpensNone.trans (first : c.OpensNone c') (second : c'.OpensNone c'') : c.OpensNone c'' where
  channels channel opened := first.channels channel (second.channels channel opened)
  faults fault armed := by
    obtain ⟨middle, armed', same'⟩ := second.faults fault armed
    obtain ⟨earlier, armed'', same''⟩ := first.faults middle armed'
    exact ⟨earlier, armed'', same''.trans same'⟩

end Client

/-- The operations that register nobody, open no channel, and settle no more than they may. -/
def Broker.Op.SettlesOnly (may : Nat → Settlement → Prop) : Op → Prop
  | .acknowledge channel settlement => may channel settlement
  | .consume .. => False
  | .createChannel .. => False
  | _ => True

theorem Broker.Op.SettlesOnly.mono {may may' : Nat → Settlement → Prop} {op : Op}
    (only : op.SettlesOnly may) (more : ∀ channel s, may channel s → may' channel s) :
    op.SettlesOnly may' := by
  cases op <;> first | exact more _ _ only | exact only

/-- Between two moments of a client some operations were carried out, all of which settle no more than
they may, and no fault was armed. -/
structure Client.Works (may : Nat → Settlement → Prop) (c c' : Client) : Prop where
  ran : ∃ ops : List Broker.Op, (∀ op ∈ ops, op.SettlesOnly may) ∧ c'.broker = c.broker.run ops
  faults : ∀ fault ∈ c'.faults, ∃ earlier ∈ c.faults, earlier.op = fault.op

namespace Client

variable {may may' : Nat → Settlement → Prop} {c c' c'' : Client}

theorem Works.refl (may : Nat → Settlement → Prop) (c : Client) : c.Works may c :=
  ⟨⟨[], fun _ none => absurd none List.not_mem_nil, rfl⟩, fun fault armed => ⟨fault, armed, rfl⟩⟩

theorem Works.trans (first : c.Works may c') (second : c'.Works may c'') : c.Works may c'' where
  ran := by
    obtain ⟨ops, only, ran⟩ := first.ran
    obtain ⟨more, only', ran'⟩ := second.ran
    refine ⟨ops ++ more, fun op member => ?_, ?_⟩
    · exact (List.mem_append.mp member).elim (only op) (only' op)
    · rw [ran', ran]
      exact List.foldl_append.symm
  faults fault armed := by
    obtain ⟨middle, armed', same'⟩ := second.faults fault armed
    obtain ⟨earlier, armed'', same''⟩ := first.faults middle armed'
    exact ⟨earlier, armed'', same''.trans same'⟩

theorem Works.mono (works : c.Works may c') (more : ∀ channel s, may channel s → may' channel s) :
    c.Works may' c' where
  ran := by
    obtain ⟨ops, only, ran⟩ := works.ran
    exact ⟨ops, fun op member => (only op member).mono more, ran⟩
  faults := works.faults

/-- What each operation keeps, all of them keep. -/
theorem Works.induction {motive : Broker → Prop} (works : c.Works may c')
    (kept : ∀ (b : Broker) (op : Broker.Op), op.SettlesOnly may → motive b → motive (b.step op).2)
    (start : motive c.broker) : motive c'.broker := by
  obtain ⟨ops, only, ran⟩ := works.ran
  rw [ran]
  exact List.foldlRecOn (motive := motive) ops _ start fun b reached op member =>
    kept b op (only op member) reached

/-- **No such operation opens a channel.** -/
theorem Works.opensNone (works : c.Works may c') : c.OpensNone c' where
  channels channel :=
    works.induction (motive := fun b => b.channelOpen channel = true →
      c.broker.channelOpen channel = true) (fun b op only before opened => by
        refine before (Broker.step_channelOpen (fun connection transactional same => ?_) opened)
        rw [same] at only
        exact only) id
  faults := works.faults

/-- A call works when its request is an operation that may be carried out. -/
theorem call_works {α : Type} (c : Client) (op : ClientOp)
    {request : Broker → Except ClientError α × Broker} (done : Broker.Op)
    (only : done.SettlesOnly may) (same : ∀ b, (request b).2 = (b.step done).2) :
    c.Works may (c.call op request).2 := by
  unfold call
  split
  next error faults taken =>
    exact ⟨⟨[], fun _ none => absurd none List.not_mem_nil, rfl⟩,
      fun fault => ArmedFault.take_faults taken⟩
  next =>
    refine ⟨⟨[done], fun op member => ?_, same c.broker⟩, fun fault armed => ⟨fault, armed, rfl⟩⟩
    exact List.mem_singleton.mp member ▸ only

theorem ack_works (c : Client) {channel tag : Nat} {multiple : Bool}
    (allowed : may channel ⟨tag, multiple, .ack⟩) :
    c.Works may (c.ack channel tag multiple).2 :=
  c.call_works .ack (.acknowledge channel ⟨tag, multiple, .ack⟩) allowed
    fun _ => (Broker.Reply.ofDone_snd _).symm

theorem nack_works (c : Client) {channel tag : Nat} {multiple requeue : Bool}
    (allowed : may channel ⟨tag, multiple, .nack requeue⟩) :
    c.Works may (c.nack channel tag multiple requeue).2 :=
  c.call_works .nack (.acknowledge channel ⟨tag, multiple, .nack requeue⟩) allowed
    fun _ => (Broker.Reply.ofDone_snd _).symm

theorem commit_works (c : Client) (channel : Nat) : c.Works may (c.commit channel).2 :=
  c.call_works .commit (.commit channel) trivial fun _ => (Broker.Reply.ofDone_snd _).symm

theorem rollback_works (c : Client) (channel : Nat) : c.Works may (c.rollback channel).2 :=
  c.call_works .rollback (.rollback channel) trivial fun _ => (Broker.Reply.ofDone_snd _).symm

theorem close_works (c : Client) (channel : Nat) : c.Works may (c.close channel).2 :=
  c.call_works .close (.close channel) trivial fun _ => rfl

theorem closeConnection_works (c : Client) (connection : Nat) :
    c.Works may (c.closeConnection connection).2 :=
  c.call_works .closeConnection (.closeConnection connection) trivial fun _ => rfl

theorem get_works (c : Client) (channel : Nat) (queue : String) (autoAck : Bool) :
    c.Works may (c.call .get (·.get channel queue autoAck)).2 :=
  c.call_works .get (.get channel queue autoAck) trivial
    fun _ => (Broker.Reply.ofResult_snd _ _).symm

end Client

/-! ### The end of a channel -/

namespace ManagedChannel

variable (channel : ManagedChannel) (c : Client)

theorem release_works {may : Nat → Settlement → Prop} : c.Works may (channel.release c).2.2 := by
  unfold release
  dsimp only
  split
  next => exact c.close_works channel.target
  next => exact .refl may c

/-- **A channel that is released is closed**, unless a fault answers the request. -/
theorem release_closes (faultless : ∀ fault ∈ c.faults, fault.op ≠ .close) :
    (channel.release c).2.2.broker.channelOpen channel.target = false := by
  unfold release isOpen
  dsimp only
  split
  next =>
    unfold Client.close Client.call
    rw [ArmedFault.take_of_other faultless]
    show (Broker.closeChannel c.broker channel.target none).channelOpen channel.target = false
    unfold Broker.channelOpen
    rw [Broker.closeChannel_closes]
    rfl
  next closed => exact eq_false_of_ne_true closed

end ManagedChannel

/-! ### The bench -/

/-- The settlement that a command asks for, when the delivery has that tag. -/
def Command.settlement? (own : Nat) : Command → Option Settlement
  | .ack tag multiple => some ⟨tag.getD own, multiple, .ack⟩
  | .nack tag requeue => some ⟨tag.getD own, false, .nack requeue⟩
  | _ => none

/-- A command settles no more than it may. -/
def Command.Minds (may : Settlement → Prop) (own : Nat) (command : Command) : Prop :=
  ∀ s ∈ command.settlement? own, may s

/-- A command that settles on one channel no more than it may. -/
abbrev SettlesOn (channel : Nat) (may : Settlement → Prop) (other : Nat) (s : Settlement) : Prop :=
  other = channel ∧ may s

namespace Bench

variable (bench : Bench) {may : Settlement → Prop}

theorem settled_client (answer : Except ClientError Unit × Client) :
    (bench.settled answer).2 = { bench with client := answer.2 } := by
  unfold settled
  split <;> rfl

/-- What is done on a bench: the channel stays the same, and no more is settled on it than may be. -/
structure Works (may : Settlement → Prop) (bench bench' : Bench) : Prop where
  client : bench.client.Works (SettlesOn bench.channel.target may) bench'.client
  target : bench'.channel.target = bench.channel.target

variable {bench}

theorem Works.refl (may : Settlement → Prop) (bench : Bench) : bench.Works may bench :=
  ⟨.refl _ _, rfl⟩

theorem Works.trans {bench' bench'' : Bench} (first : bench.Works may bench')
    (second : bench'.Works may bench'') : bench.Works may bench'' where
  client := first.client.trans (first.target ▸ second.client)
  target := second.target.trans first.target

variable (bench)

theorem get_works (queue : String) : bench.Works may (bench.get queue).2 := by
  have asked : bench.client.Works (SettlesOn bench.channel.target may)
      (bench.client.call .get (·.get bench.channel.target queue true)).2 :=
    bench.client.get_works _ queue true
  unfold get
  split
  next answered =>
    rw [answered] at asked
    exact ⟨asked, rfl⟩
  next refused =>
    rw [refused] at asked
    exact ⟨asked, rfl⟩

theorem confirm_works : bench.Works may bench.confirm.2 := by
  have asked : bench.client.Works (SettlesOn bench.channel.target may)
      (bench.client.call .confirm (·.confirm bench.channel.target)).2 :=
    bench.client.call_works .confirm (.confirm bench.channel.target) trivial
      fun _ => (Broker.Reply.ofDone_snd _).symm
  have whole : (bench.channel.confirm bench.client).2 =
      (bench.client.call .confirm (·.confirm bench.channel.target)).2 ∧
      ∀ channel, (bench.channel.confirm bench.client).1 = .ok channel →
        channel.target = bench.channel.target := by
    unfold ManagedChannel.confirm
    split
    next same =>
      refine ⟨by rw [same], fun channel confirmed => ?_⟩
      cases confirmed
      rfl
    next same => exact ⟨by rw [same], fun _ => nofun⟩
  obtain ⟨client, target⟩ := whole
  rw [← client] at asked
  unfold confirm
  split
  next answered =>
    rw [answered] at asked target
    exact ⟨asked, target _ rfl⟩
  next refused =>
    rw [refused] at asked
    exact ⟨asked, rfl⟩

theorem close_works : bench.Works may bench.close.2 := by
  have asked : bench.client.Works (SettlesOn bench.channel.target may)
      (bench.channel.close bench.client).2 := by
    unfold ManagedChannel.close
    split
    next => exact bench.client.close_works _
    next => exact .refl _ _
  unfold close
  split
  next answered =>
    rw [answered] at asked
    exact ⟨asked, rfl⟩
  next refused =>
    rw [refused] at asked
    exact ⟨asked, rfl⟩

theorem useChannel_works {delivery : Delivery} {command : Command}
    (minds : command.Minds may delivery.tag) :
    bench.Works may (bench.useChannel delivery command).2 := by
  have settles : ∀ answer : Except ClientError Unit × Client,
      bench.client.Works (SettlesOn bench.channel.target may) answer.2 →
        bench.Works may (bench.settled answer).2 := by
    intro answer works
    rw [settled_client]
    exact ⟨works, rfl⟩
  cases command with
  | ack tag multiple => exact settles _ (bench.client.ack_works ⟨rfl, minds _ rfl⟩)
  | nack tag requeue => exact settles _ (bench.client.nack_works ⟨rfl, minds _ rfl⟩)
  | commit => exact settles _ (bench.client.commit_works _)
  | rollback => exact settles _ (bench.client.rollback_works _)
  | publish queue payload =>
    refine settles _ ?_
    exact bench.client.call_works .publish
      (.publishOn bench.channel.target "" queue payload.toUTF8 {}) trivial
      fun _ => (Broker.Reply.ofDone_snd _).symm
  | get queue => exact bench.get_works queue
  | confirm => exact bench.confirm_works
  | close => exact bench.close_works
  | info => exact ⟨.refl _ _, rfl⟩
  | sleep | fail | panic | finish | nothing => exact .refl may bench

theorem perform_works {aware : Bool} {delivery : Delivery} {command : Command}
    (minds : aware = true → command.Minds may delivery.tag) :
    bench.Works may (bench.perform aware delivery command).2 := by
  have used : bench.Works may
      (if aware then bench.useChannel delivery command else (.goOn, bench)).2 := by
    split
    next uses => exact bench.useChannel_works (minds uses)
    next => exact .refl may bench
  unfold perform
  split
  next => exact .refl may bench
  next => split <;> exact .refl may bench
  next => exact .refl may bench
  next => exact .refl may bench
  next => exact .refl may bench
  next => exact used

/-- A call that goes on later has only commands left that it had before. -/
theorem run_works {aware : Bool} {call : Call} {commands : List Command}
    (minds : aware = true → ∀ command ∈ commands, command.Minds may call.delivery.tag) :
    bench.Works may (bench.run aware call commands).2 ∧
      ∀ duration later, (bench.run aware call commands).1 = .sleeping duration later →
        later.delivery = call.delivery ∧ ∀ rest, later.rest = some rest → rest ⊆ commands := by
  induction commands generalizing bench with
  | nil => exact ⟨⟨.refl _ _, rfl⟩, fun _ _ => nofun⟩
  | cons command rest ih =>
    have performed : bench.Works may (bench.perform aware call.delivery command).2 :=
      bench.perform_works fun uses => minds uses command List.mem_cons_self
    have later := fun bench => ih bench fun uses other member =>
      minds uses other (List.mem_cons_of_mem _ member)
    have goesOn : ∀ middle : Bench, bench.Works may middle →
        bench.Works may (middle.run aware call rest).2 ∧
          ∀ duration later, (middle.run aware call rest).1 = .sleeping duration later →
            later.delivery = call.delivery ∧
              ∀ left, later.rest = some left → left ⊆ command :: rest := fun middle works =>
      ⟨works.trans (later middle).1, fun duration call' sleeps =>
        ((later middle).2 duration call' sleeps).imp id fun among left has =>
          List.subset_cons_of_subset _ (among left has)⟩
    unfold run
    split
    next reached =>
      rw [reached] at performed
      exact goesOn _ performed
    next reached =>
      rw [reached] at performed
      exact ⟨⟨performed.client, performed.target⟩, fun _ _ => nofun⟩
    next reached =>
      rw [reached] at performed
      exact ⟨performed, fun _ _ => nofun⟩
    next reached =>
      rw [reached] at performed
      split
      next => exact goesOn _ performed
      next =>
        refine ⟨performed, fun duration later sleeps => ?_⟩
        cases sleeps
        exact ⟨rfl, fun left has => Option.some.inj has ▸ List.subset_cons_self _ _⟩

end Bench

/-- A listener that uses the channel settles no more than it may, whatever it is asked to do for a
delivery with that tag. -/
def Listener.Minds (listener : Listener) (may : Settlement → Prop) (own : Nat) : Prop :=
  listener.kind = .channelAware → ∀ (number : Nat) (payload : Payload) (redelivered : Bool),
    ∀ command ∈ Script.commandsFor redelivered (Script.read (listener.scriptFor number payload)),
      command.Minds may own

namespace Call

/-- A call that settles no more than it may with what remains of its script. -/
def Minds (call : Call) (listener : Listener) (may : Settlement → Prop) : Prop :=
  listener.kind = .channelAware → ∀ rest, call.rest = some rest →
    ∀ command ∈ rest, command.Minds may call.delivery.tag

variable {call : Call} {listener : Listener} (bench : Bench) {may : Settlement → Prop}

theorem attemptOnce_works (minds : call.Minds listener may)
    (always : listener.Minds may call.delivery.tag) :
    bench.Works may (call.attemptOnce listener bench).2 ∧
      ∀ duration later, (call.attemptOnce listener bench).1 = .sleeping duration later →
        later.delivery = call.delivery ∧ later.Minds listener may := by
  have begun : bench.Works may (call.begin listener bench).2 ∧
      (listener.kind = .channelAware → ∀ command ∈ (call.begin listener bench).1,
        command.Minds may call.delivery.tag) := by
    unfold begin
    split
    next rest has => exact ⟨.refl may bench, fun aware => minds aware rest has⟩
    next => exact ⟨⟨.refl _ _, rfl⟩, fun aware => always aware _ _ _⟩
  have runs : ∀ aware : Bool, (aware = true → listener.kind = .channelAware) →
      (listener.kind = .channelAware → aware = true) →
      bench.Works may ((call.begin listener bench).2.run aware call
        (call.begin listener bench).1).2 ∧
      ∀ duration later, ((call.begin listener bench).2.run aware call
        (call.begin listener bench).1).1 = .sleeping duration later →
          later.delivery = call.delivery ∧ later.Minds listener may := by
    intro aware uses always'
    obtain ⟨works, later⟩ := (call.begin listener bench).2.run_works fun isAware =>
      begun.2 (uses isAware)
    refine ⟨begun.1.trans works, fun duration call' sleeps => ?_⟩
    obtain ⟨same, among⟩ := later duration call' sleeps
    refine ⟨same, fun kind rest has command member => ?_⟩
    rw [same]
    exact begun.2 kind command (among rest has member)
  unfold attemptOnce
  split
  next => exact ⟨.refl may bench, fun _ _ => nofun⟩
  next kind => exact runs false nofun fun aware => by rw [kind] at aware; cases aware
  next kind => exact runs false nofun fun aware => by rw [kind] at aware; cases aware
  next kind => exact runs true (fun _ => kind) fun _ => rfl

variable (call may) in
/-- What follows a failed attempt is no more than another attempt. -/
theorem afterFailure_works (retry : Retry) (error : ListenerError) :
    bench.Works may (call.afterFailure retry.attempts retry.backOff retry.recoverer.answer error
        bench).2 ∧
      ∀ duration later, (call.afterFailure retry.attempts retry.backOff retry.recoverer.answer error
          bench).1 = .sleeping duration later →
        later.delivery = call.delivery ∧ later.rest = none := by
  unfold afterFailure
  split
  next => exact ⟨.refl may bench, fun _ _ => nofun⟩
  next =>
    split
    next =>
      unfold Recoverer.answer
      dsimp only
      split <;> exact ⟨⟨.refl _ _, rfl⟩, fun _ _ => nofun⟩
    next =>
      split
      next => exact ⟨.refl may bench, fun _ _ => nofun⟩
      next =>
        refine ⟨.refl may bench, fun duration later sleeps => ?_⟩
        cases sleeps
        exact ⟨rfl, rfl⟩

/-- **Whatever a listener does in a call, it settles no more than it may**, and goes on with the same
delivery. -/
theorem resume_works (minds : call.Minds listener may)
    (always : listener.Minds may call.delivery.tag) :
    bench.Works may (call.resume listener bench).2 ∧
      ∀ duration later, (call.resume listener bench).1 = .sleeping duration later →
        later.delivery = call.delivery ∧ later.Minds listener may := by
  obtain ⟨tried, goesOn⟩ := attemptOnce_works bench minds always
  unfold resume
  split
  next =>
    unfold Attempt.retrying Listener.once
    split
    next reached =>
      rw [reached] at tried
      obtain ⟨failed, again⟩ := afterFailure_works call _ may _ _
      refine ⟨tried.trans failed, fun duration later sleeps => ?_⟩
      obtain ⟨same, fresh⟩ := again duration later sleeps
      refine ⟨same, fun _ rest has => ?_⟩
      rw [fresh] at has
      cases has
    next => exact ⟨tried, goesOn⟩
  next => exact ⟨tried, goesOn⟩

/-- A call does on its bench what it is free to do. -/
theorem resume_free (call : Call) (listener : Listener) (bench : Bench) :
    bench.Works (fun _ => True) (call.resume listener bench).2 :=
  (resume_works bench (fun _ _ _ _ _ _ _ => trivial) fun _ _ _ _ _ _ _ _ => trivial).1

end Call

end QueueListener
