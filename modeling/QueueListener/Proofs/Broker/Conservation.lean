import QueueListener.Proofs.Broker.Accounts
/-!
# Conservation of messages

**In every run of the broker, every accepted message is in exactly one place**, and it is there
once: waiting in one queue, unsettled on one open channel, among the dead letters, or finished.

* `accepted` — the messages that a run brings into queues;
* `Place`, `copies` — where messages can be, and how often a message is there;
* `run_accounts` — a run keeps the books;
* `run_conserves_messages` — the statement for all runs.
-/

namespace QueueListener.Broker

/-- The messages that a run accepts, in their order. -/
def accepted (b : Broker) : List Op → List Message
  | [] => []
  | op :: rest => b.arrival op ++ (b.step op).2.accepted rest

/-- A run keeps the books. -/
theorem run_accounts {b : Broker} (tidy : b.Tidy) (ops : List Op) :
    (b.run ops).Tidy ∧ (b.run ops).stock = b.stock + (b.accepted ops : List Message) := by
  induction ops generalizing b with
  | nil => exact ⟨tidy, (add_zero _).symm⟩
  | cons op rest ih =>
    have first := step_accounts tidy op
    obtain ⟨tidy', stock⟩ := ih first.tidy
    refine ⟨tidy', ?_⟩
    calc ((b.step op).2.run rest).stock
        = b.stock + (b.arrival op : List Message) +
          ((b.step op).2.accepted rest : List Message) := by rw [stock, first.balance]
      _ = b.stock + (b.accepted (op :: rest) : List Message) := by
        rw [add_assoc, Multiset.coe_add]
        rfl

/-- Messages are numbered in the order in which they are accepted. -/
theorem accepted_serials {b : Broker} (tidy : b.Tidy) (ops : List Op) :
    (∀ message ∈ b.accepted ops, b.lastSerial < message.serial) ∧
      ((b.accepted ops).map (·.serial)).Pairwise (· < ·) := by
  induction ops generalizing b with
  | nil => exact ⟨fun _ member => absurd member List.not_mem_nil, List.Pairwise.nil⟩
  | cons op rest ih =>
    have first := step_accounts tidy op
    obtain ⟨later, ordered⟩ := ih first.tidy
    rw [accepted]
    rcases b.arrival_cases op with nothing | ⟨payload, properties, one⟩
    · have serial : (b.step op).2.lastSerial = b.lastSerial := by
        rw [first.lastSerial, nothing, List.length_nil, Nat.add_zero]
      rw [nothing, List.nil_append]
      exact ⟨serial ▸ later, ordered⟩
    · have serial : (b.step op).2.lastSerial = b.lastSerial + 1 := by
        rw [first.lastSerial, one, List.length_singleton]
      rw [serial] at later
      rw [one, List.singleton_append]
      refine ⟨?_, List.pairwise_cons.mpr ⟨?_, ordered⟩⟩
      · intro message member
        rcases List.mem_cons.mp member with rfl | member
        · exact Nat.lt_succ_self _
        · exact Nat.lt_of_succ_lt (later message member)
      · intro number member
        obtain ⟨message, listed, rfl⟩ := List.mem_map.mp member
        exact later message listed

/-! ### Places -/

/-- Where a message can be. -/
inductive Place
  /-- Waiting in a queue. -/
  | queue (name : String)
  /-- Unsettled on an open channel. -/
  | channel (number : Nat)
  | deadLetters
  /-- Gone for good. -/
  | finished
  deriving DecidableEq, Repr

/-- The messages at a place, as they were accepted. -/
def contents (b : Broker) : Place → Multiset Message
  | .queue name => b.queues.amountAt QueueRecord.stock name
  | .channel number => b.channels.amountAt ChannelRecord.stock number
  | .deadLetters => b.buried
  | .finished => b.finished

/-- How often a message is at a place. -/
def copies (b : Broker) (message : Message) (place : Place) : Nat :=
  (b.contents place).count message

theorem copies_queue (b : Broker) (message : Message) (name : String) :
    b.copies message (.queue name) =
      b.queues.amountAt (fun record => record.stock.count message) name :=
  Table.map_amountAt QueueRecord.stock (Multiset.countAddMonoidHom message) b.queues name

theorem copies_channel (b : Broker) (message : Message) (number : Nat) :
    b.copies message (.channel number) =
      b.channels.amountAt (fun record => record.stock.count message) number :=
  Table.map_amountAt ChannelRecord.stock (Multiset.countAddMonoidHom message) b.channels number

/-- The stock counts the copies at all places. -/
theorem count_stock (b : Broker) (message : Message) :
    b.stock.count message =
      b.queues.total (fun record => record.stock.count message) +
        b.channels.total (fun record => record.stock.count message) +
        b.copies message .deadLetters + b.copies message .finished := by
  have queues := Table.map_total QueueRecord.stock (Multiset.countAddMonoidHom message) b.queues
  have channels :=
    Table.map_total ChannelRecord.stock (Multiset.countAddMonoidHom message) b.channels
  simp only [Multiset.coe_countAddMonoidHom] at queues channels
  rw [stock, Multiset.count_add, Multiset.count_add, Multiset.count_add, queues, channels]
  rfl

section Copies

variable {b : Broker} (tidy : b.Tidy) {message : Message}
include tidy

/-- A message that is in no queue's record is not at a queue; so for channels. -/
theorem copies_queue_eq_zero
    (nowhere : b.queues.total (fun record => record.stock.count message) = 0) (name : String) :
    b.copies message (.queue name) = 0 :=
  (b.copies_queue message name).trans (Table.amountAt_eq_zero tidy.queues nowhere name)

theorem copies_channel_eq_zero
    (nowhere : b.channels.total (fun record => record.stock.count message) = 0) (number : Nat) :
    b.copies message (.channel number) = 0 :=
  (b.copies_channel message number).trans (Table.amountAt_eq_zero tidy.channels nowhere number)

/-- A message that is not in the stock is at no place. -/
theorem copies_eq_zero (nowhere : b.stock.count message = 0) (place : Place) :
    b.copies message place = 0 := by
  rw [count_stock] at nowhere
  cases place with
  | queue name => exact copies_queue_eq_zero tidy (by omega) name
  | channel number => exact copies_channel_eq_zero tidy (by omega) number
  | deadLetters => omega
  | finished => omega

/-- **A message that is once in the stock is at exactly one place.** -/
theorem exists_place (once : b.stock.count message = 1) :
    ∃ place, b.copies message place = 1 ∧
      ∀ other, other ≠ place → b.copies message other = 0 := by
  rw [count_stock] at once
  by_cases queued : b.queues.total (fun record => record.stock.count message) = 1
  · obtain ⟨name, here, others⟩ := Table.exists_key_of_total_eq_one tidy.queues queued
    refine ⟨.queue name, (b.copies_queue message name).trans here, fun other differ => ?_⟩
    cases other with
    | queue another =>
      exact (b.copies_queue message another).trans
        (others another fun same => differ (congrArg Place.queue same))
    | channel number => exact copies_channel_eq_zero tidy (by omega) number
    | deadLetters => omega
    | finished => omega
  by_cases unsettled : b.channels.total (fun record => record.stock.count message) = 1
  · obtain ⟨number, here, others⟩ := Table.exists_key_of_total_eq_one tidy.channels unsettled
    refine ⟨.channel number, (b.copies_channel message number).trans here, fun other differ => ?_⟩
    cases other with
    | queue name => exact copies_queue_eq_zero tidy (by omega) name
    | channel another =>
      exact (b.copies_channel message another).trans
        (others another fun same => differ (congrArg Place.channel same))
    | deadLetters => omega
    | finished => omega
  by_cases dead : b.copies message .deadLetters = 1
  · refine ⟨.deadLetters, dead, fun other differ => ?_⟩
    cases other with
    | queue name => exact copies_queue_eq_zero tidy (by omega) name
    | channel number => exact copies_channel_eq_zero tidy (by omega) number
    | deadLetters => exact absurd rfl differ
    | finished => omega
  · refine ⟨.finished, by omega, fun other differ => ?_⟩
    cases other with
    | queue name => exact copies_queue_eq_zero tidy (by omega) name
    | channel number => exact copies_channel_eq_zero tidy (by omega) number
    | deadLetters => omega
    | finished => exact absurd rfl differ

end Copies

/-! ### All runs -/

/-- The broker at the start is in order. -/
theorem tidy_empty : Tidy {} :=
  ⟨List.nodup_nil, List.nodup_nil, fun _ member => absurd member List.not_mem_nil⟩

/-- **Conservation of messages.** In every run of the broker the accepted messages have distinct
serial numbers; each of them is at exactly one place, once; no other message is anywhere; and what
an operation of the run finishes, it finishes for a reason. -/
theorem run_conserves_messages (ops : List Op) :
    ((accepted {} ops).map (·.serial)).Nodup ∧
      (∀ message ∈ accepted {} ops, ∃ place, (run {} ops).copies message place = 1 ∧
        ∀ other, other ≠ place → (run {} ops).copies message other = 0) ∧
      (∀ message, message ∉ accepted {} ops → ∀ place, (run {} ops).copies message place = 0) ∧
      ∀ before op after, ops = before ++ op :: after →
        ∃ left, (run {} (before ++ [op])).departures.toList =
            (run {} before).departures.toList ++ left ∧
          ∀ gone ∈ left, Justified (run {} before) op gone := by
  obtain ⟨tidy, stock⟩ := run_accounts tidy_empty ops
  have ordered := (accepted_serials tidy_empty ops).2
  have serials : ((accepted {} ops).map (·.serial)).Nodup := ordered.imp fun less => less.ne
  have empty : Broker.stock {} = 0 := rfl
  rw [empty, zero_add] at stock
  refine ⟨serials, fun message member => ?_, fun message missing place => ?_, ?_⟩
  · refine exists_place tidy ?_
    rw [stock, Multiset.coe_count]
    exact List.count_eq_one_of_mem serials.of_map member
  · refine copies_eq_zero tidy ?_ place
    rw [stock, Multiset.coe_count]
    exact List.count_eq_zero.mpr missing
  · intro before op after _
    have step : run {} (before ++ [op]) = ((run {} before).step op).2 := List.foldl_append
    rw [step]
    exact (step_accounts (run_accounts tidy_empty before).1 op).departed

end QueueListener.Broker
