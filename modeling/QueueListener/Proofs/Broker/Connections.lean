import QueueListener.Proofs.Broker.Courses
/-!
# The connections of a broker

**Only the request for a connection opens one, and what is closed stays closed**: every other
operation leaves the connections as they are, up to those that it may close.

* `Cuts` — no connection comes or goes or is opened again, and only those that may be lost are closed;
* `Change.cuts`, `Course.cuts`, `step_cuts` — a change, a course, and every operation but one;
* `connect_cases` — the request for a connection: it is refused, or the new one has the next number;
* `closeConnection_shuts` — a connection that is closed.
-/

namespace QueueListener.Broker

/-- Connections are at most closed, and only those that may be lost. -/
structure Cuts (losing : Nat → Prop) (b b' : Broker) : Prop where
  keys : b'.connections.keys = b.connections.keys
  closed : ∀ connection, b'.connectionOpen connection = true → b.connectionOpen connection = true
  kept : ∀ connection, ¬ losing connection →
    b'.connectionOpen connection = b.connectionOpen connection

variable {losing : Nat → Prop} {b b₁ b₂ : Broker} {log : List Pushing}

theorem connectionOpen_congr {connection : Nat}
    (same : b₂.connections.get? connection = b₁.connections.get? connection) :
    b₂.connectionOpen connection = b₁.connectionOpen connection := by
  unfold connectionOpen
  rw [same]

/-- A connection is written about. -/
theorem connectionOpen_modify (b : Broker) (connection other : Nat)
    (f : ConnectionRecord → ConnectionRecord) :
    ({ b with connections := b.connections.modify connection f } : Broker).connectionOpen other =
      (if other = connection then (b.connections.get? other).any fun record => (f record).isOpen
        else b.connectionOpen other) := by
  have looked := Table.get?_modify b.connections connection other f
  by_cases here : other = connection
  · rw [if_pos here] at looked ⊢
    unfold connectionOpen
    rw [looked]
    cases b.connections.get? other <;> rfl
  · rw [if_neg here] at looked ⊢
    exact connectionOpen_congr looked

/-- A connection that is added is open, and the others are as they were. -/
theorem connectionOpen_of_added {new : Nat}
    (added : b₁.connections = b.connections.set new { isOpen := true }) :
    b₁.connectionOpen new = true ∧
      ∀ other, other ≠ new → b₁.connectionOpen other = b.connectionOpen other := by
  refine ⟨?_, fun other apart => connectionOpen_congr ?_⟩
  · unfold connectionOpen
    rw [added, Table.get?_set, if_pos rfl]
  · rw [added, Table.get?_set, if_neg apart]

namespace Cuts

theorem of_same (same : b₂.connections = b₁.connections) : Cuts losing b₁ b₂ where
  keys := congrArg Table.keys same
  closed _ opened := (connectionOpen_congr (by rw [same])).symm.trans opened
  kept _ _ := connectionOpen_congr (by rw [same])

theorem refl (b : Broker) : Cuts losing b b := of_same rfl

theorem trans (first : Cuts losing b b₁) (second : Cuts losing b₁ b₂) : Cuts losing b b₂ where
  keys := second.keys.trans first.keys
  closed connection opened := first.closed connection (second.closed connection opened)
  kept connection safe := (second.kept connection safe).trans (first.kept connection safe)

/-- What is written about a connection at most closes it. -/
theorem of_modify (b : Broker) (connection : Nat) {f : ConnectionRecord → ConnectionRecord}
    (shuts : ∀ record, (f record).isOpen = true → record.isOpen = true)
    (lost : losing connection ∨ ∀ record, (f record).isOpen = record.isOpen) :
    Cuts losing b { b with connections := b.connections.modify connection f } where
  keys := Table.keys_modify _ _ _
  closed other opened := by
    rw [connectionOpen_modify] at opened
    split at opened
    next =>
      unfold connectionOpen
      cases found : b.connections.get? other with
      | none =>
        rw [found] at opened
        cases opened
      | some record =>
        rw [found] at opened
        exact shuts record opened
    next => exact opened
  kept other safe := by
    rw [connectionOpen_modify]
    split
    next here =>
      subst here
      unfold connectionOpen
      cases b.connections.get? other with
      | none => rfl
      | some record => exact lost.resolve_left safe record
    next => rfl

end Cuts

/-- **No change opens a connection.** -/
theorem Change.cuts (change : Change losing b log b₁) : Cuts losing b b₁ := by
  cases change with
  | push push => exact .of_same rfl
  | turn turned => exact .of_same turned.connections
  | leave registered silent =>
    refine .of_same ?_
    unfold unregister
    rw [registered]
    rfl
  | shut channel left => exact .of_same rfl
  | drop found => exact .of_same (delete_dismisses found).connections
  | lose lost => exact .of_modify b _ (fun _ isOpen => by cases isOpen) (.inl lost)

theorem Course.cuts (course : Course losing b log b₁) : Cuts losing b b₁ := by
  induction course with
  | refl => exact .refl b
  | step _ change ih => exact ih.trans change.cuts

theorem Leads.cuts (led : Leads losing b b₁) : Cuts losing b b₁ := by
  obtain ⟨log, course⟩ := led
  exact course.cuts

/-- The request for a connection is refused, or makes one with the next number. -/
theorem connect_cases (b : Broker) :
    (∃ error, b.connect.1 = .error error ∧ b.connect.2.connections = b.connections ∧
        b.connect.2.lastId = b.lastId ∧
          (b.refusesConnections = true ∨ b.rejectsCredentials = true)) ∨
      b.connect.1 = .ok (b.lastId + 1) ∧ b.connect.2.lastId = b.lastId + 1 ∧
        b.connect.2.connections = b.connections.set (b.lastId + 1) { isOpen := true } ∧
          b.refusesConnections = false ∧ b.rejectsCredentials = false := by
  unfold connect
  dsimp only
  split
  next refuses => exact .inl ⟨_, rfl, rfl, rfl, .inl refuses⟩
  next accepts =>
    split
    next rejects => exact .inl ⟨_, rfl, rfl, rfl, .inr rejects⟩
    next trusts =>
      exact .inr ⟨rfl, rfl, rfl, eq_false_of_ne_true accepts, eq_false_of_ne_true trusts⟩

theorem createChannel_cuts (connection : Nat) (transactional : Bool) :
    Cuts losing b (b.createChannel connection transactional).2 := by
  unfold createChannel
  split
  next record _ =>
    split
    next =>
      exact (Cuts.of_modify b connection (f := fun r => { r with channels := record.channels + 1 })
        (fun _ isOpen => isOpen) (.inr fun _ => rfl)).trans (.of_same rfl)
    next => exact .refl b
  next => exact .refl b

theorem consume_cuts (channel : Nat) (queue requested : String) (autoAck : Bool)
    (subscriber : Nat) : Cuts losing b (b.consume channel queue requested autoAck subscriber).2 := by
  rcases b.consume_cases channel queue requested autoAck subscriber with
    ⟨_, refused⟩ | ⟨_, generated, refused⟩ | ⟨tag, generated, -, -, -, enrolled⟩
  · rw [refused]
    exact .refl b
  · rw [refused]
    have counted : Cuts losing b { b with generatedTags := generated } := .of_same rfl
    exact counted.trans (closeChannel_leads _ channel none).cuts
  · rw [enrolled]
    have listed : Cuts losing b ((b.enroll generated tag ⟨queue, channel, autoAck, subscriber⟩).record
        channel (.consume queue tag)) := .of_same rfl
    exact listed.trans (dispatch_leads _ queue).cuts

theorem get_cuts (channel : Nat) (queue : String) (autoAck : Bool) :
    Cuts losing b (b.get channel queue autoAck).2 := by
  rcases b.get_cases channel queue autoAck with
    ⟨_, refused⟩ | ⟨_, refused⟩ | empty | ⟨record, waiting, message, rest, -, -, -, got⟩
  · rw [refused]
    exact .refl b
  · rw [refused]
    exact (closeChannel_leads b channel none).cuts
  · rw [empty]
    exact .refl b
  · rw [got]
    exact .of_same rfl

/-- **Every other operation leaves the connections as they are**, up to those that it closes. -/
theorem step_cuts (b : Broker) {op : Op} (other : op ≠ .connect) :
    Cuts op.Loses b (b.step op).2 := by
  cases op with
  | declare queue =>
    refine .of_same ?_
    show (b.declare queue).2.connections = b.connections
    unfold declare
    split <;> rfl
  | delete queue => exact (delete_leads b queue).cuts
  | publish queue payload properties =>
    exact Reply.ofDone_snd _ ▸ (publish_leads b queue payload properties).cuts
  | refuseConnections | rejectCredentials => exact .of_same rfl
  | dropConnections => exact (dropConnections_leads b).cuts
  | connect => exact absurd rfl other
  | closeConnection connection =>
    have led : Leads (Op.closeConnection connection).Loses b (b.closeConnection connection none) :=
      closeConnection_leads b connection none rfl
    exact led.cuts
  | createChannel connection transactional =>
    exact Reply.ofResult_snd _ _ ▸ createChannel_cuts connection transactional
  | setPrefetch channel prefetch =>
    refine Reply.ofDone_snd _ ▸ ?_
    unfold setPrefetch
    split
    next =>
      have bounded : Cuts (Op.setPrefetch channel prefetch).Loses b
          (b.updateChannel channel fun record => { record with prefetch }) := .of_same rfl
      exact bounded.trans (dispatchAll_leads _).cuts
    next => exact .refl b
  | consume channel queue tag autoAck subscriber =>
    exact Reply.ofResult_snd _ _ ▸ consume_cuts channel queue tag autoAck subscriber
  | get channel queue autoAck => exact Reply.ofResult_snd _ _ ▸ get_cuts channel queue autoAck
  | acknowledge channel settlement =>
    exact Reply.ofDone_snd _ ▸ (acknowledge_leads b channel settlement).cuts
  | cancel channel tag => exact Reply.ofDone_snd _ ▸ (cancel_leads b channel tag).cuts
  | publishOn channel exchange queue payload properties =>
    exact Reply.ofDone_snd _ ▸ (publishOn_leads b channel exchange queue payload properties).cuts
  | commit channel => exact Reply.ofDone_snd _ ▸ (commit_leads b channel).cuts
  | rollback channel => exact Reply.ofDone_snd _ ▸ (rollback_leads b channel).cuts
  | confirm channel =>
    exact .of_same (congrArg connections ((Reply.ofDone_snd _).trans (confirm_snd b channel)))
  | close channel => exact (closeChannel_leads b channel none).cuts

/-- A connection that was closed is not open. -/
theorem closeConnection_shuts (b : Broker) (connection : Nat) (cause : Option ClientError) :
    (b.closeConnection connection cause).connectionOpen connection = false := by
  unfold closeConnection
  split
  next =>
    dsimp only
    generalize lost : ({ b with
      connections := b.connections.modify connection fun record =>
        { record with isOpen := false } } : Broker) = b₀
    have led := List.foldlRecOn (motive := Leads (fun _ => False) b₀)
      (b₀.channelsOf connection) (fun b channel => b.closeChannel channel cause) (.refl b₀)
      fun after led channel _ => led.trans (closeChannel_leads after channel cause)
    rw [led.cuts.kept connection id, ← lost, connectionOpen_modify, if_pos rfl]
    cases b.connections.get? connection <;> rfl
  next closed => exact eq_false_of_ne_true closed

end QueueListener.Broker
