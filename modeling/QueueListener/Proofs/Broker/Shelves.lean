import QueueListener.Proofs.Broker.History
/-!
# The shelves of the broker

**Behind its history every queue has the same shape**: first the messages that have come back, then
those that nobody has seen yet, in the order in which they were published. What a queue has
delivered without the mark of a redelivery and what is still fresh in it are together what it
accepted.

* `Shelved` — the shape of a queue behind a history;
* `Truthful` — a delivery whose mark says what the history before it says;
* `Told` — a history that tells how a broker came about;
* `Told.accept`, `Told.deliver`, `Told.giveBack`, `Told.drop`, `Told.idle` — it goes on with every
  passage, and through everything that moves no message.
-/

namespace QueueListener

/-! ### Histories that grow -/

section Growing

variable (log more : List Passage) (queue : String) {serial : Nat}

@[simp] theorem acceptances_append :
    acceptances (log ++ more) = acceptances log ++ acceptances more := List.filterMap_append

@[simp] theorem unmarked_append :
    unmarked queue (log ++ more) = unmarked queue log ++ unmarked queue more :=
  List.filterMap_append

@[simp] theorem arrivals_append :
    arrivals queue (log ++ more) = arrivals queue log ++ arrivals queue more := by
  simp [arrivals]

/-- Who accepts nothing has no arrivals. -/
theorem arrivals_of_silent {more : List Passage} (silent : acceptances more = []) :
    arrivals queue more = [] := by
  simp [arrivals, silent]

theorem mem_arrivals {queue : String} {log : List Passage} {message : Message} :
    message ∈ arrivals queue log ↔ (queue, message) ∈ acceptances log := by
  simp [arrivals]

/-- A queue has its part of the serial numbers, in their order. -/
theorem arrivals_serials_sublist :
    ((arrivals queue log).map (·.serial)).Sublist ((acceptances log).map (·.2.serial)) := by
  unfold arrivals
  rw [List.map_map]
  exact List.filter_sublist.map _

variable {log}

theorem Delivered.append (delivered : Delivered serial log) (more : List Passage) :
    Delivered serial (log ++ more) := by
  obtain ⟨message, delivery, member, same⟩ := delivered
  exact ⟨message, delivery, List.mem_append_left _ member, same⟩

theorem CameBack.append (back : CameBack serial log) (more : List Passage) :
    CameBack serial (log ++ more) := by
  obtain ⟨earlier, queue, message, later, rfl, same, delivered⟩ := back
  exact ⟨earlier, queue, message, later ++ more, by simp, same, delivered⟩

/-- Who came back was delivered. -/
theorem CameBack.delivered (back : CameBack serial log) : Delivered serial log := by
  obtain ⟨earlier, queue, message, later, rfl, -, delivered⟩ := back
  exact delivered.append _

/-- A delivery that the history did not have is what was added. -/
theorem delivered_append_iff :
    Delivered serial (log ++ more) ↔ Delivered serial log ∨ Delivered serial more := by
  constructor
  · rintro ⟨message, delivery, member, same⟩
    exact (List.mem_append.mp member).imp (⟨message, delivery, ·, same⟩)
      (⟨message, delivery, ·, same⟩)
  · rintro (before | ⟨message, delivery, member, same⟩)
    · exact before.append more
    · exact ⟨message, delivery, List.mem_append_right _ member, same⟩

/-- An acceptance delivers nothing. -/
theorem not_delivered_accepted (message : Message) (serial : Nat) :
    ¬ Delivered serial [.accepted queue message] := by
  rintro ⟨_, _, member, -⟩
  cases List.mem_singleton.mp member

end Growing

/-- A message whose mark is right. -/
theorem Message.original_of_fresh {message : Message} (fresh : message.redelivered = false) :
    message.original = message := by
  cases message
  obtain rfl : _ = false := fresh
  rfl

/-! ### Shapes -/

/-- A queue behind a history: the messages that came back, then those that it never delivered. Only
a deletion takes fresh messages out of the queue without delivering them. -/
def Shelved (log : List Passage) (queue : String) (ready : List Message) : Prop :=
  ∃ back fresh, ready = back ++ fresh ∧
    (∀ message ∈ back, message.redelivered = true ∧ CameBack message.serial log ∧
      (queue, message.original) ∈ acceptances log) ∧
    (∀ message ∈ fresh, message.redelivered = false ∧ ¬ Delivered message.serial log) ∧
    (unmarked queue log ++ fresh).Sublist (arrivals queue log) ∧
    (.dropped queue ∉ log → unmarked queue log ++ fresh = arrivals queue log)

namespace Shelved

variable {log : List Passage} {queue : String} {ready : List Message}

/-- A passage that concerns neither the queue nor the fresh messages in it. -/
theorem concat (shelved : Shelved log queue ready) {passage : Passage}
    (nothing : arrivals queue [passage] = []) (unmarked : unmarked queue [passage] = [])
    (unseen : ∀ message ∈ ready, message.redelivered = false →
      ¬ Delivered message.serial log → ¬ Delivered message.serial [passage]) :
    Shelved (log ++ [passage]) queue ready := by
  obtain ⟨back, fresh, rfl, returned, unknown, part, whole⟩ := shelved
  refine ⟨back, fresh, rfl, fun message member => ?_, fun message member => ?_, ?_, fun kept => ?_⟩
  · obtain ⟨marked, cameBack, accepted⟩ := returned message member
    exact ⟨marked, cameBack.append _, by simp [accepted]⟩
  · obtain ⟨plain, undelivered⟩ := unknown message member
    refine ⟨plain, fun delivered => ?_⟩
    rcases (delivered_append_iff _).mp delivered with before | now
    · exact undelivered before
    · exact unseen message (List.mem_append_right _ member) plain undelivered now
  · rw [unmarked_append, arrivals_append, nothing, unmarked, List.append_nil, List.append_nil]
    exact part
  · rw [unmarked_append, arrivals_append, nothing, unmarked, List.append_nil, List.append_nil]
    exact whole fun dropped => kept (List.mem_append_left _ dropped)

/-- A message that nobody has seen stands behind. -/
theorem accept (shelved : Shelved log queue ready) {message : Message}
    (plain : message.redelivered = false) (new : ¬ Delivered message.serial log) :
    Shelved (log ++ [.accepted queue message]) queue (ready ++ [message]) := by
  obtain ⟨back, fresh, rfl, returned, unknown, part, whole⟩ := shelved
  have one : arrivals queue [.accepted queue message] = [message] := by
    simp [arrivals, acceptances, Passage.acceptance?]
  have none : unmarked queue [.accepted queue message] = [] := rfl
  refine ⟨back, fresh ++ [message], List.append_assoc _ _ _, fun earlier member => ?_,
    fun waiting member => ?_, ?_, fun kept => ?_⟩
  · obtain ⟨marked, cameBack, accepted⟩ := returned earlier member
    exact ⟨marked, cameBack.append _, by simp [accepted]⟩
  · rw [delivered_append_iff, not_or]
    rcases List.mem_append.mp member with old | added
    · obtain ⟨unmarked, undelivered⟩ := unknown waiting old
      exact ⟨unmarked, undelivered, not_delivered_accepted queue message _⟩
    · obtain rfl := List.mem_singleton.mp added
      exact ⟨plain, new, not_delivered_accepted queue waiting _⟩
  · rw [unmarked_append, arrivals_append, one, none, List.append_nil, ← List.append_assoc]
    exact part.append (List.Sublist.refl _)
  · rw [unmarked_append, arrivals_append, one, none, List.append_nil, ← List.append_assoc,
      whole fun dropped => kept (List.mem_append_left _ dropped)]

/-- A message that came back stands in front. -/
theorem cons (shelved : Shelved log queue ready) {message : Message}
    (marked : message.redelivered = true) (cameBack : CameBack message.serial log)
    (accepted : (queue, message.original) ∈ acceptances log) :
    Shelved log queue (message :: ready) := by
  obtain ⟨back, fresh, rfl, returned, rest⟩ := shelved
  refine ⟨message :: back, fresh, rfl, fun other member => ?_, rest⟩
  rcases List.mem_cons.mp member with rfl | listed
  · exact ⟨marked, cameBack, accepted⟩
  · exact returned other listed

/-- **The first message of a queue** came back, or it is the next one that was published and nobody
has seen it. -/
theorem first {message : Message} {rest : List Message}
    (shelved : Shelved log queue (message :: rest)) :
    (message.redelivered = true ∧ CameBack message.serial log ∧
      (queue, message.original) ∈ acceptances log ∧ Shelved log queue rest) ∨
    (message.redelivered = false ∧ ¬ Delivered message.serial log ∧
      (∀ other ∈ rest, other.redelivered = false ∧ ¬ Delivered other.serial log) ∧
      (unmarked queue log ++ message :: rest).Sublist (arrivals queue log) ∧
      (.dropped queue ∉ log → unmarked queue log ++ message :: rest = arrivals queue log)) := by
  obtain ⟨back, fresh, parts, returned, unknown, part, whole⟩ := shelved
  cases back with
  | nil =>
    obtain rfl : _ = fresh := parts
    obtain ⟨plain, undelivered⟩ := unknown message List.mem_cons_self
    exact .inr ⟨plain, undelivered,
      fun other member => unknown other (List.mem_cons_of_mem _ member), part, whole⟩
  | cons head back =>
    obtain ⟨rfl, rfl⟩ := List.cons.inj parts
    obtain ⟨marked, cameBack, accepted⟩ := returned message List.mem_cons_self
    exact .inl ⟨marked, cameBack, accepted, back, fresh, rfl,
      fun other member => returned other (List.mem_cons_of_mem _ member), unknown, part, whole⟩

/-- Every message of a queue was accepted by it. -/
theorem accepted (shelved : Shelved log queue ready) {message : Message}
    (member : message ∈ ready) : (queue, message.original) ∈ acceptances log := by
  obtain ⟨back, fresh, rfl, returned, unknown, part, -⟩ := shelved
  rcases List.mem_append.mp member with old | new
  · exact (returned message old).2.2
  · rw [Message.original_of_fresh (unknown message new).1]
    exact mem_arrivals.mp (part.subset (List.mem_append_right _ new))

end Shelved

/-- A delivery that brings an accepted message of its queue, with a mark that is right: without it
exactly if the message was never delivered, with it exactly if the message was delivered and came
back. -/
structure Truthful (before : List Passage) (message : Message) (delivery : Delivery) : Prop where
  accepted : (delivery.queue, message.original) ∈ acceptances before
  payload : delivery.payload = message.payload
  properties : delivery.properties = message.properties
  first_iff : delivery.redelivered = false ↔ ¬ Delivered message.serial before
  again_iff : delivery.redelivered = true ↔ CameBack message.serial before

/-- A history in which every delivery is truthful. -/
def AllTruthful (log : List Passage) : Prop :=
  ∀ before message delivery after, log = before ++ .delivered message delivery :: after →
    Truthful before message delivery

/-- A history knows a delivery that is unsettled. -/
def Knows (log : List Passage) (entry : Unacked) : Prop :=
  Delivered entry.message.serial log ∧ (entry.queue, entry.message.original) ∈ acceptances log

theorem Knows.append {log : List Passage} {entry : Unacked} (known : Knows log entry)
    (more : List Passage) : Knows (log ++ more) entry :=
  ⟨known.1.append more, by rw [acceptances_append]; exact List.mem_append_left _ known.2⟩

/-- One more passage is truthful if it is no delivery, or a truthful one. -/
theorem AllTruthful.concat {log : List Passage} (truthful : AllTruthful log) {passage : Passage}
    (last : ∀ message delivery, passage = .delivered message delivery →
      Truthful log message delivery) : AllTruthful (log ++ [passage]) := by
  intro before message delivery after parts
  rcases after.eq_nil_or_concat with rfl | ⟨init, final, rfl⟩
  · obtain ⟨rfl, same⟩ := List.append_inj' parts rfl
    exact last message delivery (List.singleton_inj.mp same)
  · have parts' : log ++ [passage] =
        (before ++ .delivered message delivery :: init) ++ [final] := by
      rw [parts]
      simp
    exact truthful before message delivery init (List.append_inj' parts' rfl).1

namespace Broker

/-- The messages that wait in a queue. -/
def shelf (b : Broker) (queue : String) : List Message :=
  ((b.queues.get? queue).map (·.ready)).getD []

/-- A delivery is unsettled on some channel. -/
def Holds (b : Broker) (entry : Unacked) : Prop :=
  ∃ channel record, b.channels.get? channel = some record ∧ entry ∈ record.unacked

/-- Nothing happened to messages, but deliveries may have been let go of. -/
structure Idles (b b' : Broker) : Prop where
  lastSerial : b'.lastSerial = b.lastSerial
  shelf : ∀ queue, b'.shelf queue = b.shelf queue
  holds : ∀ entry, b'.Holds entry → b.Holds entry
  pushes : b'.pushes = b.pushes

/-- A history tells how a broker came about. -/
structure Told (log : List Passage) (b : Broker) : Prop where
  serials : (acceptances log).map (·.2.serial) = List.range' 1 b.lastSerial
  shelved : ∀ queue, Shelved log queue (b.shelf queue)
  known : ∀ entry, b.Holds entry → Knows log entry
  truthful : AllTruthful log

/-! ### What changes of the records show -/

section Views

variable (b : Broker)

theorem shelf_of_get? {queue : String} {record : QueueRecord}
    (found : b.queues.get? queue = some record) : b.shelf queue = record.ready := by
  rw [shelf, found]
  rfl

theorem shelf_congr {b b' : Broker} (same : b'.queues = b.queues) (queue : String) :
    b'.shelf queue = b.shelf queue := by
  rw [shelf, shelf, same]

theorem shelf_updateQueue (queue other : String) (f : QueueRecord → QueueRecord) :
    (b.updateQueue queue f).shelf other =
      if other = queue then ((b.queues.get? queue).map fun record => (f record).ready).getD []
      else b.shelf other := by
  unfold shelf updateQueue
  dsimp only
  rw [Table.get?_modify]
  split
  next same =>
    rw [same, Option.map_map]
    rfl
  next => rfl

/-- A change of a queue that leaves its messages alone. -/
theorem shelf_updateQueue_of_same {queue : String} {f : QueueRecord → QueueRecord}
    (same : ∀ record, (f record).ready = record.ready) (other : String) :
    (b.updateQueue queue f).shelf other = b.shelf other := by
  rw [shelf_updateQueue]
  split
  next here => rw [funext same, here, shelf]
  next => rfl

theorem Holds.congr {b b' : Broker} (same : b'.channels = b.channels) {entry : Unacked}
    (holds : b'.Holds entry) : b.Holds entry := by
  obtain ⟨channel, record, found, member⟩ := holds
  exact ⟨channel, record, same ▸ found, member⟩

/-- A channel that changes holds what it held, or what the change brings. -/
theorem holds_modify {b b' : Broker} {channel : Nat} {f : ChannelRecord → ChannelRecord}
    (same : b'.channels = b.channels.modify channel f) {entry : Unacked}
    (holds : b'.Holds entry) : b.Holds entry ∨
      ∃ record, b.channels.get? channel = some record ∧ entry ∈ (f record).unacked := by
  obtain ⟨other, record, found, member⟩ := holds
  rw [same, Table.get?_modify] at found
  split at found
  next here =>
    obtain ⟨old, before, rfl⟩ := Option.map_eq_some_iff.mp found
    exact .inr ⟨old, here ▸ before, member⟩
  next => exact .inl ⟨other, record, found, member⟩

/-- What a channel holds after one more delivery. -/
theorem mem_receive {record : ChannelRecord} {tag : Nat} {queue : String} {autoAck : Bool}
    {message : Message} {entry : Unacked}
    (member : entry ∈ (record.receive tag queue autoAck message).unacked) :
    entry ∈ record.unacked ∨ (entry.queue = queue ∧ entry.message = message) := by
  unfold ChannelRecord.receive at member
  cases autoAck with
  | true => exact .inl member
  | false =>
    rcases List.mem_append.mp member with old | new
    · exact .inl old
    · rw [List.mem_singleton.mp new]
      exact .inr ⟨rfl, rfl⟩

end Views

/-! ### Idle changes -/

namespace Idles

variable {b b₁ b₂ : Broker}

theorem refl (b : Broker) : Idles b b := ⟨rfl, fun _ => rfl, fun _ holds => holds, rfl⟩

theorem trans (first : Idles b b₁) (second : Idles b₁ b₂) : Idles b b₂ :=
  ⟨second.lastSerial.trans first.lastSerial,
    fun queue => (second.shelf queue).trans (first.shelf queue),
    fun entry holds => first.holds entry (second.holds entry holds),
    second.pushes.trans first.pushes⟩

/-- What else changes does not matter. -/
theorem of_same (lastSerial : b₁.lastSerial = b.lastSerial) (queues : b₁.queues = b.queues)
    (channels : b₁.channels = b.channels) (notices : b₁.notices = b.notices) : Idles b b₁ :=
  ⟨lastSerial, shelf_congr queues, fun _ => Holds.congr channels,
    by unfold Broker.pushes; rw [notices]⟩

theorem of_record (b : Broker) (channel : Nat) (action : ChannelAction) :
    Idles b (b.record channel action) := of_same rfl rfl rfl rfl

/-- A notice that brings no delivery. -/
theorem of_notify (b : Broker) (subscriber : Nat) {notice : Notice}
    (silent : notice.delivery? = none) : Idles b (b.notify subscriber notice) :=
  ⟨rfl, fun _ => rfl, fun _ holds => holds, by
    rw [pushes_notify, silent, Option.toList_none, List.append_nil]⟩

/-- A channel that gets no delivery. -/
theorem of_channel (b : Broker) (channel : Nat) {f : ChannelRecord → ChannelRecord}
    (fewer : ∀ record, (f record).unacked ⊆ record.unacked) :
    Idles b (b.updateChannel channel f) := by
  refine ⟨rfl, fun _ => rfl, fun entry holds => ?_, rfl⟩
  rcases holds_modify (b := b) rfl holds with before | ⟨record, found, member⟩
  · exact before
  · exact ⟨channel, record, found, fewer record member⟩

/-- A queue whose messages stay. -/
theorem of_queue (b : Broker) (queue : String) {f : QueueRecord → QueueRecord}
    (same : ∀ record, (f record).ready = record.ready) : Idles b (b.updateQueue queue f) :=
  ⟨rfl, b.shelf_updateQueue_of_same same, fun _ holds => holds, rfl⟩

end Idles

/-! ### A history goes on -/

namespace Told

variable {log : List Passage} {b b' : Broker}

/-- The messages of a history are told apart by their serial numbers. -/
theorem serials_nodup (told : Told log b) : ((acceptances log).map (·.2.serial)).Nodup := by
  rw [told.serials]
  exact List.nodup_range'

/-- Two messages that were accepted under one number are one message of one queue. -/
theorem eq_of_serial (told : Told log b) {first second : String × Message}
    (left : first ∈ acceptances log) (right : second ∈ acceptances log)
    (same : first.2.serial = second.2.serial) : first = second :=
  List.inj_on_of_nodup_map told.serials_nodup left right same

/-- The messages of a queue are told apart by their serial numbers. -/
theorem arrivals_nodup (told : Told log b) (queue : String) :
    ((arrivals queue log).map (·.serial)).Nodup :=
  told.serials_nodup.sublist (arrivals_serials_sublist log queue)

/-- Nothing happens to a message. -/
theorem idle (told : Told log b) (idles : Idles b b') : Told log b' :=
  ⟨idles.lastSerial ▸ told.serials, fun queue => idles.shelf queue ▸ told.shelved queue,
    fun entry holds => told.known entry (idles.holds entry holds), told.truthful⟩

/-- What was delivered was accepted. -/
theorem exists_acceptance (told : Told log b) {serial : Nat} (delivered : Delivered serial log) :
    ∃ acceptance ∈ acceptances log, acceptance.2.serial = serial := by
  obtain ⟨message, delivery, member, rfl⟩ := delivered
  obtain ⟨before, after, parts⟩ := List.append_of_mem member
  refine ⟨(delivery.queue, message.original), ?_, rfl⟩
  rw [parts, acceptances_append]
  exact List.mem_append_left _ (told.truthful before message delivery after parts).accepted

/-- The next serial number is new. -/
theorem undelivered_next (told : Told log b) : ¬ Delivered (b.lastSerial + 1) log := by
  intro delivered
  obtain ⟨acceptance, member, same⟩ := told.exists_acceptance delivered
  have numbered := List.mem_map_of_mem (f := (·.2.serial)) member
  rw [told.serials, List.mem_range'_1] at numbered
  omega

/-- **A message is accepted** behind all others of its queue. -/
theorem accept (told : Told log b) {queue : String} {message : Message}
    (serial : message.serial = b.lastSerial + 1) (fresh : message.redelivered = false)
    (lastSerial : b'.lastSerial = b.lastSerial + 1)
    (shelf : ∀ other, b'.shelf other =
      if other = queue then b.shelf other ++ [message] else b.shelf other)
    (holds : ∀ entry, b'.Holds entry → b.Holds entry) :
    Told (log ++ [.accepted queue message]) b' := by
  refine ⟨?_, fun other => ?_, fun entry held => (told.known entry (holds entry held)).append _,
    told.truthful.concat ?_⟩
  · have one : acceptances [.accepted queue message] = [(queue, message)] := rfl
    rw [acceptances_append, one, List.map_append, told.serials, lastSerial, List.range'_1_concat,
      List.map_singleton, serial, Nat.add_comm]
  · rw [shelf]
    split
    next here =>
      subst here
      exact (told.shelved other).accept fresh (serial ▸ told.undelivered_next)
    next elsewhere =>
      refine (told.shelved other).concat ?_ rfl
        fun _ _ _ _ => not_delivered_accepted queue message _
      simp [arrivals, acceptances, Passage.acceptance?, Ne.symm elsewhere]
  · rintro _ _ same
    cases same

/-- **A message is delivered**, the first one of its queue. -/
theorem deliver (told : Told log b) {queue : String} {message : Message} {rest : List Message}
    (waiting : b.shelf queue = message :: rest) {delivery : Delivery} (of : delivery.queue = queue)
    (payload : delivery.payload = message.payload)
    (properties : delivery.properties = message.properties)
    (mark : delivery.redelivered = message.redelivered)
    (lastSerial : b'.lastSerial = b.lastSerial)
    (shelf : ∀ other, b'.shelf other = if other = queue then rest else b.shelf other)
    (holds : ∀ entry, b'.Holds entry →
      b.Holds entry ∨ (entry.queue = queue ∧ entry.message = message)) :
    Told (log ++ [.delivered message delivery]) b' := by
  have shelved : Shelved log queue (message :: rest) := waiting ▸ told.shelved queue
  have accepted := shelved.accepted List.mem_cons_self
  have now : ∀ number, Delivered number [.delivered message delivery] →
      number = message.serial := by
    rintro number ⟨_, _, member, rfl⟩
    obtain ⟨rfl, -⟩ := Passage.delivered.inj (List.mem_singleton.mp member)
    rfl
  have silent : acceptances [.delivered message delivery] = [] := rfl
  refine ⟨?_, fun other => ?_, fun entry held => ?_, told.truthful.concat ?_⟩
  · rw [acceptances_append, silent, List.append_nil, lastSerial]
    exact told.serials
  · rw [shelf]
    split
    next here =>
      subst here
      rcases shelved.first with ⟨marked, cameBack, -, others⟩ | ⟨plain, new, others, part, whole⟩
      · refine others.concat (arrivals_of_silent _ silent) ?_ fun fresh _ _ undelivered delivered =>
          undelivered (now _ delivered ▸ cameBack.delivered)
        simp [unmarked, Passage.unmarked?, mark, marked]
      · have one : unmarked other [.delivered message delivery] = [message] := by
          simp [unmarked, Passage.unmarked?, mark, plain, of]
        refine ⟨[], rest, rfl, fun _ member => absurd member List.not_mem_nil,
          fun fresh member => ?_, ?_, fun kept => ?_⟩
        · refine ⟨(others fresh member).1, fun delivered => ?_⟩
          rcases (delivered_append_iff _).mp delivered with before | last
          · exact (others fresh member).2 before
          · have distinct := (told.arrivals_nodup other).sublist (part.map _)
            rw [List.map_append, List.nodup_append, List.map_cons, List.nodup_cons] at distinct
            exact distinct.2.1.1 (now _ last ▸ List.mem_map_of_mem member)
        · rw [unmarked_append, one, arrivals_append, arrivals_of_silent _ silent, List.append_nil,
            List.append_assoc]
          exact part
        · rw [unmarked_append, one, arrivals_append, arrivals_of_silent _ silent, List.append_nil,
            List.append_assoc]
          exact whole fun dropped => kept (List.mem_append_left _ dropped)
    next elsewhere =>
      refine (told.shelved other).concat (arrivals_of_silent _ silent) ?_
        fun fresh member plain undelivered delivered => ?_
      · simp [unmarked, Passage.unmarked?, of, Ne.symm elsewhere]
      · have same :=
          told.eq_of_serial ((told.shelved other).accepted member) accepted (now _ delivered)
        exact elsewhere (congrArg Prod.fst same)
  · rcases holds entry held with before | ⟨rfl, rfl⟩
    · exact (told.known entry before).append _
    · refine ⟨⟨_, _, List.mem_append_right _ List.mem_cons_self, rfl⟩, ?_⟩
      rw [acceptances_append]
      exact List.mem_append_left _ accepted
  · rintro other last same
    obtain ⟨rfl, rfl⟩ := Passage.delivered.inj same
    refine ⟨of ▸ accepted, payload, properties, ?_, ?_⟩
    · rw [mark]
      rcases shelved.first with ⟨marked, cameBack, -⟩ | ⟨plain, new, -⟩
      · simp [marked, cameBack.delivered]
      · simp [plain, new]
    · rw [mark]
      rcases shelved.first with ⟨marked, cameBack, -⟩ | ⟨plain, new, -⟩
      · simp [marked, cameBack]
      · have never : ¬ CameBack message.serial log := fun cameBack => new cameBack.delivered
        simp [plain, never]

/-- A passage that neither accepts nor delivers. -/
theorem concat_of_silent (told : Told log b) {passage : Passage}
    (silent : acceptances [passage] = []) (nothing : passage.delivery? = none)
    (lastSerial : b'.lastSerial = b.lastSerial)
    (shelved : ∀ queue, Shelved (log ++ [passage]) queue (b.shelf queue) →
      Shelved (log ++ [passage]) queue (b'.shelf queue))
    (holds : ∀ entry, b'.Holds entry → b.Holds entry) : Told (log ++ [passage]) b' := by
  have unseen : ∀ number, ¬ Delivered number [passage] := by
    rintro number ⟨_, _, member, -⟩
    rw [← List.mem_singleton.mp member] at nothing
    cases nothing
  have unmarked : ∀ queue, unmarked queue [passage] = [] := by
    intro queue
    cases passage with
    | delivered => cases nothing
    | _ => rfl
  refine ⟨?_, fun queue => shelved queue ((told.shelved queue).concat (arrivals_of_silent _ silent)
      (unmarked queue) fun _ _ _ _ => unseen _),
    fun entry held => (told.known entry (holds entry held)).append _, told.truthful.concat ?_⟩
  · rw [acceptances_append, silent, List.append_nil, lastSerial]
    exact told.serials
  · rintro message delivery rfl
    cases nothing

/-- **A message comes back** to the front of its queue. -/
theorem giveBack (told : Told log b) {entry : Unacked} (known : Knows log entry)
    (lastSerial : b'.lastSerial = b.lastSerial)
    (shelf : ∀ other, b'.shelf other = if other = entry.queue then
      { entry.message with redelivered := true } :: b.shelf other else b.shelf other)
    (holds : ∀ other, b'.Holds other → b.Holds other) :
    Told (log ++ [.returned entry.queue entry.message]) b' := by
  refine told.concat_of_silent rfl rfl lastSerial (fun queue shelved => ?_) holds
  rw [shelf]
  split
  next here =>
    subst here
    refine shelved.cons rfl ⟨log, entry.queue, entry.message, [], rfl, rfl, known.1⟩ ?_
    rw [acceptances_append]
    exact List.mem_append_left _ known.2
  next => exact shelved

/-- **A queue is dropped**, and what waits in it. -/
theorem drop (told : Told log b) {queue : String} (lastSerial : b'.lastSerial = b.lastSerial)
    (shelf : ∀ other, b'.shelf other = if other = queue then [] else b.shelf other)
    (holds : ∀ entry, b'.Holds entry → b.Holds entry) : Told (log ++ [.dropped queue]) b' := by
  refine told.concat_of_silent rfl rfl lastSerial (fun other shelved => ?_) holds
  rw [shelf]
  split
  next here =>
    obtain ⟨back, fresh, -, -, -, part, -⟩ := shelved
    refine ⟨[], [], rfl, nofun, nofun, ?_, fun kept => ?_⟩
    · rw [List.append_nil]
      exact (List.sublist_append_left _ _).trans part
    · exact absurd (List.mem_append_right _ (List.mem_singleton.mpr (here ▸ rfl))) kept
  next => exact shelved

end Told

end Broker

end QueueListener
