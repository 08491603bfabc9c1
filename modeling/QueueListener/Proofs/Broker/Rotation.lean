import Mathlib.Data.List.Infix
import QueueListener.Proofs.Broker.RoundRobin
/-!
# Round robin in every run

**As long as the list of its consumers stays, a queue is served round robin**, whatever operations a
run consists of. Only the pushes of a queue move its cursor, and no operation but the registration
of a consumer makes its list longer.

* `Rotates` — the list of a queue only shrinks, and where it stays the turns rotate;
* `Performs` — a change with its rounds; they compose like the changes;
* `closeChannel_performs`, `settle_performs`, `dispatchAll_performs` — the parts of the operations;
* `Proceeds`, `step_proceeds` — what the rounds of an operation are, for every operation;
* `run_skips_nobody` — the statement for all runs.
-/

namespace QueueListener.Broker

/-- The tags of the consumers of a queue, if it exists. -/
def listOf (b : Broker) (queue : String) : Option (List String) :=
  (b.queues.get? queue).map (·.consumers)

/-- From one broker to another the list of a queue only shrinks; where it stays the same, the turns
rotate from the cursor before to the cursor after. -/
def Rotates (queue : String) (b : Broker) (turns : List Turn) (b' : Broker) : Prop :=
  ∀ record', b'.queues.get? queue = some record' → ∃ record, b.queues.get? queue = some record ∧
    record'.consumers.Sublist record.consumers ∧
    (record'.consumers = record.consumers →
      Rotation queue record.consumers record.cursor turns record'.cursor)

/-- From one broker to another nothing happens to a queue but that consumers leave its list. -/
def Lingers (queue : String) (b b' : Broker) : Prop :=
  ∀ record', b'.queues.get? queue = some record' → ∃ record, b.queues.get? queue = some record ∧
    record'.consumers.Sublist record.consumers ∧ record'.cursor = record.cursor

namespace Rotates

variable {queue : String} {b b₁ b₂ : Broker} {turns more : List Turn}

theorem of_lingers (lingers : Lingers queue b b₁) : Rotates queue b [] b₁ := by
  intro record' after
  obtain ⟨record, before, shrunk, cursor⟩ := lingers record' after
  refine ⟨record, before, shrunk, fun _ => ?_⟩
  rw [cursor]
  exact .nil _

/-- A list that shrinks twice and is the same in the end was the same in the middle. -/
theorem trans (first : Rotates queue b turns b₁) (second : Rotates queue b₁ more b₂) :
    Rotates queue b (turns ++ more) b₂ := by
  intro record₂ found₂
  obtain ⟨record₁, found₁, shrunk₂, rotation₂⟩ := second record₂ found₂
  obtain ⟨record, found, shrunk₁, rotation₁⟩ := first record₁ found₁
  refine ⟨record, found, shrunk₂.trans shrunk₁, fun same => ?_⟩
  have middle : record₁.consumers = record.consumers := shrunk₁.antisymm (same ▸ shrunk₂)
  have late := rotation₂ (same.trans middle.symm)
  rw [middle] at late
  exact (rotation₁ middle).append late

end Rotates

namespace Lingers

variable {queue : String} {b b' : Broker}

theorem of_get? (same : b'.queues.get? queue = b.queues.get? queue) : Lingers queue b b' :=
  fun record' after => ⟨record', same ▸ after, List.Sublist.refl _, rfl⟩

theorem of_queue (b : Broker) (changed queue : String) {f : QueueRecord → QueueRecord}
    (shrunk : ∀ record, (f record).consumers.Sublist record.consumers)
    (cursor : ∀ record, (f record).cursor = record.cursor) :
    Lingers queue b (b.updateQueue changed f) := by
  intro record' after
  have looked : (b.updateQueue changed f).queues.get? queue = _ :=
    Table.get?_modify b.queues changed queue f
  rw [after] at looked
  split at looked
  next =>
    obtain ⟨record, before, rfl⟩ := Option.map_eq_some_iff.mp looked.symm
    exact ⟨record, before, shrunk record, cursor record⟩
  next => exact ⟨record', looked.symm, List.Sublist.refl _, rfl⟩

end Lingers

/-! ### Changes and their rounds -/

theorem turnsOf_append (queue : String) (rounds more : List Round) :
    turnsOf queue (rounds ++ more) = turnsOf queue rounds ++ turnsOf queue more := by
  unfold turnsOf
  rw [List.filter_append, List.flatMap_append]

/-- A change with the rounds that it makes: they are all its pushes, every queue rotates, and the
table of consumers and the lists belong to each other at every round. -/
structure Performs (b : Broker) (rounds : List Round) (b' : Broker) : Prop where
  pushes : b'.pushes = b.pushes ++ rounds.flatMap Round.deliveries
  rotates : ∀ queue, Rotates queue b (turnsOf queue rounds) b'
  registered : b.Registered → b'.Registered ∧ ∀ round ∈ rounds, round.broker.Registered

namespace Performs

variable {b b₁ b₂ : Broker} {rounds more : List Round}

/-- A change without pushes. -/
theorem quiet (pushes : b₁.pushes = b.pushes) (lingers : ∀ queue, Lingers queue b b₁)
    (registered : b.Registered → b₁.Registered) : Performs b [] b₁ :=
  ⟨pushes.trans (List.append_nil _).symm, fun queue => .of_lingers (lingers queue),
    fun before => ⟨registered before, fun _ member => nomatch member⟩⟩

theorem of_same (pushes : b₁.pushes = b.pushes) (queues : b₁.queues = b.queues)
    (consumers : b₁.consumers = b.consumers) : Performs b [] b₁ :=
  quiet pushes (fun _ => .of_get? (by rw [queues])) fun registered =>
    registered.of_same consumers fun _ => by rw [queues]

theorem refl (b : Broker) : Performs b [] b := of_same rfl rfl rfl

/-- A change of a queue that leaves its consumers and its cursor. -/
theorem of_queue (b : Broker) (queue : String) {f : QueueRecord → QueueRecord}
    (consumers : ∀ record, (f record).consumers = record.consumers)
    (cursor : ∀ record, (f record).cursor = record.cursor) :
    Performs b [] (b.updateQueue queue f) :=
  quiet rfl (fun other => .of_queue b queue other (fun record => by rw [consumers]) cursor)
    fun registered => registered.of_same rfl (Turns.of_queue b queue consumers).listed

theorem of_notify (b : Broker) (subscriber : Nat) {notice : Notice}
    (silent : notice.delivery? = none) : Performs b [] (b.notify subscriber notice) := by
  refine of_same ?_ rfl rfl
  rw [pushes_notify, silent]
  exact List.append_nil _

theorem of_record (b : Broker) (channel : Nat) (action : ChannelAction) :
    Performs b [] (b.record channel action) := of_same rfl rfl rfl

theorem trans (first : Performs b rounds b₁) (second : Performs b₁ more b₂) :
    Performs b (rounds ++ more) b₂ := by
  refine ⟨?_, fun queue => ?_, fun registered => ?_⟩
  · rw [second.pushes, first.pushes, List.flatMap_append, List.append_assoc]
  · rw [turnsOf_append]
    exact (first.rotates queue).trans (second.rotates queue)
  · obtain ⟨middle, early⟩ := first.registered registered
    obtain ⟨after, late⟩ := second.registered middle
    exact ⟨after, List.forall_mem_append.mpr ⟨early, late⟩⟩

/-- A quiet change behind. -/
theorem hush (performs : Performs b rounds b₁) (quiet : Performs b₁ [] b₂) :
    Performs b rounds b₂ := by
  have both := performs.trans quiet
  rwa [List.append_nil] at both

/-- One step after the other. -/
theorem along {α : Type} {step : Broker → α → Broker} {rounds : Broker → α → List Round}
    (each : ∀ b item, Performs b (rounds b item) (step b item)) (items : List α) (b : Broker) :
    Performs b (roundsAlong step rounds items b) (items.foldl step b) := by
  induction items generalizing b with
  | nil => exact refl b
  | cons item rest ih => exact (each b item).trans (ih (step b item))

/-- One quiet step after the other. -/
theorem quietly {α : Type} {step : Broker → α → Broker}
    (each : ∀ b item, Performs b [] (step b item)) (items : List α) (b : Broker) :
    Performs b [] (items.foldl step b) :=
  List.foldlRecOn (motive := Performs b []) items step (.refl b)
    fun after quiet item _ => quiet.hush (each after item)

end Performs

/-! ### Dispatch -/

/-- A push as a turn. -/
def Push.turn {b : Broker} {queue : String} (push : Push b queue) : Turn :=
  ⟨b, push.message, push.place, deliveryOf queue push.consumerTag push.channel push.message⟩

section Pushes

variable {b : Broker} {queue : String} (push : Push b queue)
  (next : b.nextConsumer? push.record = some (push.place, push.consumerTag, push.consumer))

include next

theorem Push.nextTurn?_eq : b.nextTurn? queue = some push.turn := by
  unfold nextTurn?
  rw [push.found]
  dsimp only
  rw [push.waiting]
  dsimp only
  rw [next, Option.map_some, handOver_eq (get?_of_openChannel? push.opened)]
  rfl

/-- **A push is chosen** by the search. -/
theorem Push.chosen : push.turn.Chosen queue push.record.consumers where
  first := by
    show (b.shelf queue).head? = some push.message
    rw [b.shelf_of_get? push.found, push.waiting, List.head?_cons]
  brings := ⟨rfl, rfl, rfl, rfl⟩
  listed := push.listed
  room := by
    show (b.consumers.get? push.consumerTag).any b.hasCapacity = true
    rw [push.registered, Option.any_some]
    exact push.capacity
  passed := fun place tag listed before => by
    have cursor : b.cursorOf queue = push.record.cursor := by
      rw [cursorOf, push.found]
      rfl
    exact nextConsumer?_first next listed (cursor ▸ before)

theorem Push.rotates : Rotates queue b [push.turn] push.result := by
  intro record' after
  have looked : push.result.queues.get? queue = _ := Table.get?_modify_self b.queues queue
    fun record => { record with
      ready := push.rest
      cursor := (push.place + 1) % record.consumers.length }
  rw [after, push.found] at looked
  obtain rfl := Option.some.inj looked
  refine ⟨push.record, push.found, List.Sublist.refl _, fun _ => ?_⟩
  have cursor : push.record.cursor = push.turn.broker.cursorOf queue := by
    show _ = b.cursorOf queue
    rw [cursorOf, push.found]
    rfl
  rw [cursor]
  exact .cons (push.chosen next) (.nil _)

end Pushes

/-- The push of one queue does nothing to another. -/
theorem Push.lingers {b : Broker} {queue other : String} (push : Push b queue)
    (differ : other ≠ queue) : Lingers other b push.result :=
  .of_get? (Table.get?_modify_of_ne b.queues _ differ)

/-- What some pushes of a queue do, with their turns. -/
theorem pushUpTo_performs (count : Nat) (queue : String) (b : Broker) :
    (pushUpTo count queue b).pushes =
        b.pushes ++ (turnsUpTo count queue b).map (·.delivery) ∧
      Rotates queue b (turnsUpTo count queue b) (pushUpTo count queue b) ∧
      ∀ other ≠ queue, Rotates other b [] (pushUpTo count queue b) := by
  induction count generalizing b with
  | zero =>
    exact ⟨(List.append_nil _).symm, .of_lingers (.of_get? rfl),
      fun _ _ => .of_lingers (.of_get? rfl)⟩
  | succ count ih =>
    rw [pushUpTo, turnsUpTo]
    cases pushed : b.pushNext? queue with
    | none =>
      exact ⟨(List.append_nil _).symm, .of_lingers (.of_get? rfl),
        fun _ _ => .of_lingers (.of_get? rfl)⟩
    | some after =>
      obtain ⟨push, rfl, next⟩ := exists_chosen_push pushed
      obtain ⟨pushes, rotates, others⟩ := ih push.result
      have told : push.result.pushes = b.pushes ++ [push.turn.delivery] := pushes_notify _ _ _
      rw [push.nextTurn?_eq next]
      refine ⟨?_, (push.rotates next).trans rotates, fun other differ => ?_⟩
      · rw [pushes, told, List.append_assoc]
        rfl
      · exact (Rotates.of_lingers (push.lingers differ)).trans (others other differ)

/-- **The messages of successive turns** are the first ones that wait, in their order. -/
theorem turnsUpTo_messages (count : Nat) (queue : String) (b : Broker) :
    (turnsUpTo count queue b).map (·.message) <+: b.shelf queue := by
  induction count generalizing b with
  | zero => exact List.nil_prefix
  | succ count ih =>
    rw [turnsUpTo]
    cases pushed : b.pushNext? queue with
    | none => exact List.nil_prefix
    | some after =>
      obtain ⟨push, rfl, next⟩ := exists_chosen_push pushed
      have later : push.result.shelf queue = push.rest := by
        have looked : push.result.queues.get? queue = _ := Table.get?_modify_self b.queues queue
          fun record => { record with
            ready := push.rest
            cursor := (push.place + 1) % record.consumers.length }
        rw [push.found] at looked
        exact shelf_of_get? _ looked
      have rest := ih push.result
      rw [later] at rest
      rw [push.nextTurn?_eq next, b.shelf_of_get? push.found, push.waiting]
      exact List.cons_prefix_cons.mpr ⟨rfl, rest⟩

theorem dispatch_performs (b : Broker) (queue : String) :
    Performs b [⟨b, queue⟩] (b.dispatch queue) := by
  obtain ⟨pushes, rotates, others⟩ := pushUpTo_performs (b.readyCount queue) queue b
  refine ⟨?_, fun other => ?_, fun registered => ⟨?_, List.forall_mem_singleton.mpr registered⟩⟩
  · rw [List.flatMap_singleton]
    exact pushes
  · unfold turnsOf
    by_cases same : queue = other
    · subst same
      have kept : [(⟨b, queue⟩ : Round)].filter (·.queue = queue) = [⟨b, queue⟩] := by simp
      rw [kept, List.flatMap_singleton]
      exact rotates
    · rw [List.filter_cons_of_neg (by simpa using same)]
      exact others other (Ne.symm same)
  · have led : Leads (fun _ => False) b (b.dispatch queue) := dispatch_leads b queue
    obtain ⟨log, course⟩ := led
    exact course.registered registered

/-- Dispatch leaves the lists alone. -/
theorem dispatch_listOf (b : Broker) (queue other : String) :
    (b.dispatch queue).listOf other = b.listOf other := by
  refine dispatch_induction (motive := fun after => after.listOf other = b.listOf other)
    (fun before pushed push kept => ?_) queue b rfl
  rw [← kept]
  have looked : push.result.queues.get? other = _ := Table.get?_modify before.queues pushed other _
  unfold listOf
  rw [looked]
  split
  next => rw [Option.map_map]; rfl
  next => rfl

theorem dispatchAll_performs (b : Broker) : Performs b b.dispatchAllRounds b.dispatchAll :=
  .along dispatch_performs b.queues.keys b

/-! ### Returns, verdicts and closing -/

theorem giveBack_performs (b : Broker) (entry : Unacked) : Performs b [] (b.giveBack entry) := by
  unfold giveBack
  dsimp only
  split
  next => exact .of_queue b entry.queue (fun _ => rfl) fun _ => rfl
  next => exact .of_same rfl rfl rfl

theorem giveBackAll_performs (b : Broker) (entries : List Unacked) :
    Performs b [] (b.giveBackAll entries) :=
  giveBackAll_induction (motive := Performs b []) entries
    (fun after entry quiet => quiet.hush (giveBack_performs after entry)) b (.refl b)

theorem settle_performs (b : Broker) (channel : Nat) (settlement : Settlement) :
    Performs b [] (b.settle channel settlement) := by
  unfold settle
  split
  next => exact .refl b
  next =>
    dsimp only
    have taken : Performs b [] (b.updateChannel channel (·.without settlement)) :=
      .of_same rfl rfl rfl
    split
    next => exact taken.hush (.of_same rfl rfl rfl)
    next => exact taken.hush (giveBackAll_performs _ _)
    next => exact taken.hush (.of_same rfl rfl rfl)

theorem unregister_performs (b : Broker) (consumerTag : String) :
    Performs b [] (b.unregister consumerTag) := by
  cases held : b.consumers.get? consumerTag with
  | none =>
    have same : b.unregister consumerTag = b := by rw [unregister, held]
    rw [same]
    exact .refl b
  | some consumer =>
    have after := unregister_of_held held
    refine .quiet ?_ (fun queue => ?_) fun registered => registered.unregister held
    · rw [after]
      rfl
    · rw [after]
      exact .of_queue { b with consumers := b.consumers.erase consumerTag } consumer.queue queue
        (fun _ => List.filter_sublist) fun _ => rfl

theorem endConsumer_performs (b : Broker) (cause : Option ClientError) (consumerTag : String) :
    Performs b [] (b.endConsumer cause consumerTag) := by
  unfold endConsumer
  split
  next => exact .refl b
  next =>
    refine (unregister_performs b consumerTag).hush (.of_notify _ _ ?_)
    cases cause <;> rfl

theorem desert_performs (b : Broker) (channel : Nat) (cause : Option ClientError) :
    Performs b [] (b.desert channel cause) := by
  have shut : Performs b [] (b.updateChannel channel ChannelRecord.shut) := .of_same rfl rfl rfl
  exact shut.hush (.quietly (fun b tag => endConsumer_performs b cause tag) _ _)

/-- **The closing of a channel** is quiet up to the dispatch at its end. -/
theorem closeChannel_performs (cause : Option ClientError) (b : Broker) (channel : Nat) :
    Performs b (closeRounds cause b channel) (b.closeChannel channel cause) := by
  unfold closeRounds closeChannel
  cases b.openChannel? channel with
  | none => exact .refl b
  | some record =>
    have returned := (desert_performs b channel cause).hush (giveBackAll_performs _ record.unacked)
    exact (returned.hush (.of_record _ channel .close)).trans (dispatchAll_performs _)

theorem closeConnection_performs (cause : Option ClientError) (b : Broker) (connection : Nat) :
    Performs b (disconnectRounds cause b connection) (b.closeConnection connection cause) := by
  unfold disconnectRounds closeConnection
  split
  next =>
    have marked : Performs b [] { b with
        connections := b.connections.modify connection fun record =>
          { record with isOpen := false } } := .of_same rfl rfl rfl
    exact marked.trans (.along (closeChannel_performs cause) _ _)
  next => exact .refl b

/-! ### Every operation -/

/-- What the rounds of an operation are: they are all its pushes, a queue rotates whose list is the
same before and after, and the table of consumers and the lists belong to each other at every
round. -/
structure Proceeds (b : Broker) (op : Op) : Prop where
  pushes : (b.step op).2.pushes = b.pushes ++ (b.rounds op).flatMap Round.deliveries
  rotates : ∀ queue tags, b.listOf queue = some tags → (b.step op).2.listOf queue = some tags →
    Rotates queue b (turnsOf queue (b.rounds op)) (b.step op).2
  registered : b.Registered → ∀ round ∈ b.rounds op, round.broker.Registered

theorem Proceeds.of_performs {b b' : Broker} {op : Op} (result : (b.step op).2 = b')
    (performs : Performs b (b.rounds op) b') : Proceeds b op := by
  subst result
  exact ⟨performs.pushes, fun queue _ _ _ => performs.rotates queue,
    fun registered => (performs.registered registered).2⟩

section Operations

variable (b : Broker)

/-- A queue that exists keeps its record when another one is declared. -/
theorem declare_proceeds (queue : String) : Proceeds b (.declare queue) := by
  have result : (b.step (.declare queue)).2 = (b.declare queue).2 := rfl
  by_cases present : b.queues.contains queue = true
  · refine .of_performs result ?_
    rw [declare, if_pos present]
    exact .refl b
  · have after : (b.step (.declare queue)).2 = { b with queues := b.queues.set queue {} } := by
      rw [result, declare, if_neg present]
    refine ⟨?_, fun other tags listed _ => ?_, fun _ _ member => absurd member List.not_mem_nil⟩
    · rw [after]
      exact (List.append_nil _).symm
    · have differ : other ≠ queue := by
        rintro rfl
        have missing : b.queues.get? other = none := Option.not_isSome_iff_eq_none.mp present
        rw [listOf, missing] at listed
        cases listed
      have same : (b.queues.set queue {}).get? other = b.queues.get? other := by
        rw [Table.get?_set, if_neg differ]
      rw [after]
      exact .of_lingers (.of_get? same)

theorem delete_performs (queue : String) : Performs b [] (b.delete queue).2 := by
  cases found : b.queues.get? queue with
  | none =>
    rw [delete, found]
    exact .refl b
  | some record =>
    have dismisses := delete_dismisses found
    refine .quiet dismisses.pushes (fun other record' after => ?_)
      fun registered => registered.drop found
    rw [dismisses.queues] at after
    exact ⟨record', Table.get?_of_get?_erase after, List.Sublist.refl _, rfl⟩

/-- **A message is accepted**, and its queue is dispatched. -/
theorem accept_performs (queue : String) (payload : Payload) (properties : Properties) :
    Performs b (b.acceptRounds queue payload properties) (b.accept queue payload properties) := by
  have numbered : Performs b [] { b with lastSerial := b.lastSerial + 1 } := .of_same rfl rfl rfl
  have shelved := numbered.hush (.of_queue _ queue
    (f := fun record => { record with
      ready := record.ready ++ [b.nextMessage payload properties] }) (fun _ => rfl) fun _ => rfl)
  exact shelved.trans (dispatch_performs _ queue)

theorem publish_performs (queue : String) (payload : Payload) (properties : Properties) :
    Performs b (b.rounds (.publish queue payload properties))
      (b.publish queue payload properties).2 := by
  unfold rounds publish
  dsimp only
  split
  next => exact accept_performs b queue payload properties
  next => exact .refl b

theorem publishOn_performs (channel : Nat) (exchange queue : String) (payload : Payload)
    (properties : Properties) :
    Performs b (b.rounds (.publishOn channel exchange queue payload properties))
      (b.publishOn channel exchange queue payload properties).2 := by
  unfold rounds publishOn
  dsimp only
  by_cases opened : b.channelOpen channel = true
  · rw [opened, Bool.not_true, Bool.true_and, if_neg Bool.false_ne_true]
    split
    next => exact accept_performs b queue payload properties
    next => exact .refl b
  · rw [Bool.not_eq_true] at opened
    rw [opened, Bool.not_false, if_pos rfl, Bool.false_and, Bool.false_and,
      if_neg Bool.false_ne_true]
    exact .refl b

/-- Where a consumer is enrolled in a list, this list is longer afterwards; the other queues linger
until the dispatch. -/
theorem enrolled_rotates {b b₁ : Broker} {queue tag : String}
    (queues : ∀ other, b₁.queues.get? other = if other = queue then
      (b.queues.get? other).map fun record =>
        { record with consumers := record.consumers ++ [tag] } else b.queues.get? other)
    {other : String} {tags : List String} (listed : b.listOf other = some tags)
    (kept : (b₁.dispatch queue).listOf other = some tags) :
    Rotates other b (turnsOf other [⟨b₁, queue⟩]) (b₁.dispatch queue) := by
  by_cases here : other = queue
  · exfalso
    have longer : b₁.listOf other = some (tags ++ [tag]) := by
      obtain ⟨record, found, rfl⟩ := Option.map_eq_some_iff.mp listed
      rw [listOf, queues, if_pos here, found]
      rfl
    rw [dispatch_listOf, longer, Option.some.injEq] at kept
    have length := congrArg List.length kept
    rw [List.length_append, List.length_singleton] at length
    omega
  · have lingers : Lingers other b b₁ := .of_get? (by rw [queues, if_neg here])
    exact (Rotates.of_lingers lingers).trans ((dispatch_performs b₁ queue).rotates other)

/-- **A consumer is enrolled**, and its queue is dispatched. -/
theorem Proceeds.of_enrolment {b b₁ b₂ : Broker} {op : Op} {tag : String} {channel : Nat}
    {action : ChannelAction} (consumer : Subscription) (counted : Performs b [] b₁)
    (same : b₁.queues = b.queues) (present : b.queues.contains consumer.queue = true)
    (fresh : b₁.consumers.get? tag = none)
    (enrolled : (b₁.enroll b₁.generatedTags tag consumer).record channel action = b₂)
    (result : (b.step op).2 = b₂.dispatch consumer.queue)
    (rounds : b.rounds op = [⟨b₂, consumer.queue⟩]) : Proceeds b op := by
  have pushes : b₂.pushes = b.pushes := by
    rw [← enrolled]
    exact counted.pushes.trans (List.append_nil _)
  have queues : ∀ other, b₂.queues.get? other = if other = consumer.queue then
      (b.queues.get? other).map fun record =>
        { record with consumers := record.consumers ++ [tag] } else b.queues.get? other := by
    intro other
    rw [← enrolled, ← same]
    exact Table.get?_modify b₁.queues consumer.queue other _
  refine ⟨?_, fun other tags listed kept => ?_, fun registered => ?_⟩
  · rw [result, rounds, (dispatch_performs b₂ consumer.queue).pushes, pushes]
  · rw [result] at kept ⊢
    rw [rounds]
    exact enrolled_rotates queues listed kept
  · have added : (b₁.enroll b₁.generatedTags tag consumer).Registered :=
      (counted.registered registered).1.enroll b₁.generatedTags (same ▸ present) fresh
    rw [rounds, ← enrolled]
    exact List.forall_mem_singleton.mpr (added.of_same rfl fun _ => rfl)

/-- The choice of a tag at most counts the generated ones. -/
theorem chooseTag_performs (requested : String) : Performs b [] (b.chooseTag requested).2 ∧
    (b.chooseTag requested).2.queues = b.queues := by
  unfold chooseTag
  split
  next => exact ⟨.of_same rfl rfl rfl, rfl⟩
  next => exact ⟨.refl b, rfl⟩

/-- **The registration of a consumer** is refused, perhaps with the closing of its channel, or it
enrolls the consumer and dispatches the queue. -/
theorem consume_proceeds (channel : Nat) (queue requested : String) (autoAck : Bool)
    (subscriber : Nat) : Proceeds b (.consume channel queue requested autoAck subscriber) := by
  have result : (b.step (.consume channel queue requested autoAck subscriber)).2 =
      (b.consume channel queue requested autoAck subscriber).2 := Reply.ofResult_snd _ _
  have rounds : b.rounds (.consume channel queue requested autoAck subscriber) =
      b.consumeRounds channel queue requested autoAck subscriber := rfl
  unfold consumeRounds at rounds
  unfold consume at result
  by_cases closed : (!b.channelOpen channel) = true
  · rw [if_pos closed] at rounds result
    exact .of_performs result (rounds ▸ .refl b)
  rw [if_neg closed] at rounds result
  by_cases missing : (!b.queues.contains queue) = true
  · rw [if_pos missing] at rounds result
    exact .of_performs result (rounds ▸ closeChannel_performs none b channel)
  rw [if_neg missing] at rounds result
  have counted := chooseTag_performs b requested
  generalize b.chooseTag requested = chosen at counted rounds result
  obtain ⟨tag, b₁⟩ := chosen
  obtain ⟨counted, same⟩ := counted
  dsimp only at counted same rounds result
  split at rounds
  next used =>
    rw [if_pos used] at result
    exact .of_performs result (rounds ▸ counted.trans (closeChannel_performs none b₁ channel))
  next unused =>
    rw [if_neg unused] at result
    have present : b.queues.contains queue = true := by simpa using missing
    exact .of_enrolment ⟨queue, channel, autoAck, subscriber⟩ counted same present
      (Option.not_isSome_iff_eq_none.mp unused) rfl result rounds

theorem get_performs (channel : Nat) (queue : String) (autoAck : Bool) :
    Performs b (b.getRounds channel queue) (b.get channel queue autoAck).2 := by
  unfold getRounds Broker.get
  by_cases closed : (!b.channelOpen channel) = true
  · rw [if_pos closed, if_pos closed]
    exact .refl b
  rw [if_neg closed, if_neg closed]
  cases found : b.queues.get? queue with
  | none => exact closeChannel_performs none b channel
  | some record =>
    dsimp only
    split
    next => exact .refl b
    next message rest waiting =>
      rw [Bool.not_eq_true', Bool.not_eq_false] at closed
      obtain ⟨holder, opened⟩ := exists_openChannel? closed
      rw [handed_eq opened]
      have taken : Performs b [] (b.updateQueue queue fun record => { record with ready := rest }) :=
        .of_queue b queue (fun _ => rfl) fun _ => rfl
      exact taken.hush (.of_same rfl rfl rfl)

theorem acknowledge_performs (channel : Nat) (settlement : Settlement) :
    Performs b (b.acknowledgeRounds channel settlement) (b.acknowledge channel settlement).2 := by
  unfold acknowledgeRounds acknowledge
  cases b.openChannel? channel with
  | none => exact .refl b
  | some record =>
    have noted : Performs b [] (b.record channel (.settle settlement)) := .of_same rfl rfl rfl
    dsimp only
    split
    next =>
      split
      next => exact noted.hush (.of_same rfl rfl rfl)
      next => exact (noted.hush (settle_performs _ channel settlement)).trans (dispatchAll_performs _)
    next => exact closeChannel_performs none b channel

theorem clearPending_performs (channel : Nat) (action : ChannelAction) :
    Performs b [] (b.clearPending channel action) := .of_same rfl rfl rfl

theorem commit_performs (channel : Nat) :
    Performs b (b.commitRounds channel) (b.commit channel).2 := by
  unfold commitRounds commit
  cases b.openChannel? channel with
  | none => exact .refl b
  | some record =>
    dsimp only
    split
    next =>
      have settled := (clearPending_performs b channel .commit).hush
        (.quietly (fun b settlement => settle_performs b channel settlement) record.pending _)
      exact settled.trans (dispatchAll_performs _)
    next => exact .refl b

theorem rollback_performs (channel : Nat) : Performs b [] (b.rollback channel).2 := by
  unfold rollback
  split
  next => exact .refl b
  next =>
    split
    next => exact clearPending_performs b channel .rollback
    next => exact .refl b

theorem cancel_performs (channel : Nat) (consumerTag : String) :
    Performs b [] (b.cancel channel consumerTag).2 := by
  unfold cancel
  split
  next => exact .refl b
  next =>
    refine Performs.hush ?_ (.of_record _ channel (.cancel consumerTag))
    split
    next =>
      split
      next => exact (unregister_performs b consumerTag).hush (.of_notify _ _ rfl)
      next => exact .refl b
    next => exact .refl b

theorem setPrefetch_performs (channel prefetch : Nat) :
    Performs b (b.rounds (.setPrefetch channel prefetch)) (b.setPrefetch channel prefetch).2 := by
  unfold rounds setPrefetch
  dsimp only
  have bounded : Performs b [] (b.updateChannel channel fun record => { record with prefetch }) :=
    .of_same rfl rfl rfl
  split
  next => exact bounded.trans (dispatchAll_performs _)
  next => exact .refl b

theorem connect_performs : Performs b [] b.connect.2 := by
  unfold connect
  dsimp only
  split
  next => exact .of_same rfl rfl rfl
  next =>
    split
    next => exact .of_same rfl rfl rfl
    next => exact .of_same rfl rfl rfl

theorem createChannel_performs (connection : Nat) (transactional : Bool) :
    Performs b [] (b.createChannel connection transactional).2 := by
  unfold createChannel
  split
  next =>
    split
    next => exact .of_same rfl rfl rfl
    next => exact .refl b
  next => exact .refl b

/-- **The rounds of every operation**, refused or not, are its pushes, and they rotate. -/
theorem step_proceeds (op : Op) : Proceeds b op := by
  cases op with
  | declare queue => exact declare_proceeds b queue
  | delete queue => exact .of_performs rfl (delete_performs b queue)
  | publish queue payload properties =>
    exact .of_performs (Reply.ofDone_snd _) (publish_performs b queue payload properties)
  | refuseConnections on => exact .of_performs rfl (.of_same rfl rfl rfl)
  | rejectCredentials on => exact .of_performs rfl (.of_same rfl rfl rfl)
  | dropConnections =>
    exact .of_performs rfl (.along (closeConnection_performs (some forcedClosure)) _ b)
  | connect => exact .of_performs (Reply.ofResult_snd _ _) (connect_performs b)
  | closeConnection connection => exact .of_performs rfl (closeConnection_performs none b connection)
  | createChannel connection transactional =>
    exact .of_performs (Reply.ofResult_snd _ _) (createChannel_performs b connection transactional)
  | setPrefetch channel prefetch =>
    exact .of_performs (Reply.ofDone_snd _) (setPrefetch_performs b channel prefetch)
  | consume channel queue tag autoAck subscriber =>
    exact consume_proceeds b channel queue tag autoAck subscriber
  | get channel queue autoAck =>
    exact .of_performs (Reply.ofResult_snd _ _) (get_performs b channel queue autoAck)
  | acknowledge channel settlement =>
    exact .of_performs (Reply.ofDone_snd _) (acknowledge_performs b channel settlement)
  | cancel channel tag => exact .of_performs (Reply.ofDone_snd _) (cancel_performs b channel tag)
  | publishOn channel exchange queue payload properties =>
    exact .of_performs (Reply.ofDone_snd _)
      (publishOn_performs b channel exchange queue payload properties)
  | commit channel => exact .of_performs (Reply.ofDone_snd _) (commit_performs b channel)
  | rollback channel => exact .of_performs (Reply.ofDone_snd _) (rollback_performs b channel)
  | confirm channel =>
    exact .of_performs ((Reply.ofDone_snd _).trans (confirm_snd b channel)) (.refl b)
  | close channel => exact .of_performs rfl (closeChannel_performs none b channel)

end Operations

/-! ### All runs -/

/-- No consumer is twice in the list of a queue. -/
theorem Registered.nodup {b : Broker} (registered : b.Registered) {queue : String}
    {tags : List String} (listed : b.listOf queue = some tags) : tags.Nodup := by
  obtain ⟨record, found, rfl⟩ := Option.map_eq_some_iff.mp listed
  refine List.nodup_iff_count_le_one.mpr fun tag => ?_
  by_cases member : tag ∈ record.consumers
  · obtain ⟨consumer, held, rfl⟩ := registered.entered queue record tag found member
    obtain ⟨other, same, once⟩ := registered.listed tag consumer held
    obtain rfl := Option.some.inj (found.symm.trans same)
    exact once.le
  · rw [List.count_eq_zero_of_not_mem member]
    exact Nat.zero_le 1

/-- **A queue rotates during a run** that leaves the list of its consumers. -/
theorem run_rotation {queue : String} {tags : List String} {b : Broker} (ops : List Op)
    (steady : ∀ before, before <+: ops → (b.run before).listOf queue = some tags) :
    Rotation queue tags (b.cursorOf queue) (turnsOf queue (b.allRounds ops))
      ((b.run ops).cursorOf queue) := by
  induction ops generalizing b with
  | nil => exact .nil _
  | cons op rest ih =>
    have now : b.listOf queue = some tags := steady [] List.nil_prefix
    have next : (b.step op).2.listOf queue = some tags :=
      steady [op] (List.cons_prefix_cons.mpr ⟨rfl, List.nil_prefix⟩)
    have rotates := (step_proceeds b op).rotates queue tags now next
    obtain ⟨record, found, rfl⟩ := Option.map_eq_some_iff.mp now
    obtain ⟨record', found', same⟩ := Option.map_eq_some_iff.mp next
    obtain ⟨before, again, -, rotation⟩ := rotates record' found'
    obtain rfl := Option.some.inj (found.symm.trans again)
    have first := rotation same
    have start : b.cursorOf queue = record.cursor := by
      rw [cursorOf, found]
      rfl
    have middle : (b.step op).2.cursorOf queue = record'.cursor := by
      rw [cursorOf, found']
      rfl
    rw [← start, ← middle] at first
    rw [allRounds, turnsOf_append]
    refine first.append (ih fun before part => ?_)
    exact steady (op :: before) (List.cons_prefix_cons.mpr ⟨rfl, part⟩)

/-- **Round robin skips nobody.** In every run during which the list of the consumers of a queue
stays as it is, the rounds are exactly what is pushed, and the turns of the queue take the first
message that waits to the first consumer with capacity. Between two consecutive turns of one
consumer every other one that has capacity at each turn after the first, the second one included,
has a turn. Where all consumers have capacity the turns go to the places that follow each other from
the cursor on. The messages of a round are the first ones of the list that waits, in its order. -/
theorem run_skips_nobody (past ops : List Op) (queue : String) (tags : List String)
    (steady : ∀ before, before <+: ops →
      (run {} (past ++ before)).listOf queue = some tags) :
    (∀ before op after, ops = before ++ op :: after →
      (run {} (past ++ before)).news op =
        ((run {} (past ++ before)).rounds op).flatMap Round.deliveries) ∧
      (∀ turn ∈ turnsOf queue ((run {} past).allRounds ops), turn.Chosen queue tags) ∧
      SkipsNobody tags (turnsOf queue ((run {} past).allRounds ops)) ∧
      GoesRound queue tags (turnsOf queue ((run {} past).allRounds ops)) ∧
      ∀ round ∈ (run {} past).allRounds ops,
        round.turns.map (·.message) <+: round.broker.shelf round.queue := by
  have later : ∀ more, run {} (past ++ more) = (run {} past).run more := fun more =>
    List.foldl_append
  have rotation := run_rotation ops fun before part => later before ▸ steady before part
  have distinct : tags.Nodup := by
    have start := steady [] List.nil_prefix
    rw [List.append_nil] at start
    exact (run_coherent past).1.registered.nodup start
  refine ⟨fun before op after _ => ?_, rotation.chosen, rotation.fair distinct, rotation.cyclic,
    fun round _ => turnsUpTo_messages _ _ _⟩
  rw [news, (step_proceeds _ op).pushes, List.drop_left]

/-- A queue with two consumers: a message for each of them, and a third one for the first again,
which has settled its message by then. -/
theorem run_skips_nobody_atTwo :
    let past : List Op := [.declare "q", .connect, .createChannel 1 false, .createChannel 1 false,
      .setPrefetch 2 1, .setPrefetch 3 1, .consume 2 "q" "a" false 7, .consume 3 "q" "b" false 8]
    let ops : List Op := [.publish "q" ByteArray.empty {}, .publish "q" ByteArray.empty {},
      .publish "q" ByteArray.empty {}, .acknowledge 2 ⟨1, false, .ack⟩]
    let turns := turnsOf "q" ((run {} past).allRounds ops)
    (∀ before, before <+: ops → (run {} (past ++ before)).listOf "q" = some ["a", "b"]) ∧
      turns.map Turn.receiver = ["a", "b", "a"] ∧ SkipsNobody ["a", "b"] turns := by
  intro past ops turns
  have steady : ∀ before, before <+: ops →
      (run {} (past ++ before)).listOf "q" = some ["a", "b"] := by
    intro before part
    have known : ∀ before ∈ ops.inits, (run {} (past ++ before)).listOf "q" = some ["a", "b"] := by
      decide
    exact known before ((List.mem_inits before ops).mpr part)
  exact ⟨steady, by decide, (run_skips_nobody past ops "q" ["a", "b"] steady).2.2.1⟩

end QueueListener.Broker
