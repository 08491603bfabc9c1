import QueueListener.Container.Consume
import QueueListener.Proofs.Consumer.Policy
/-!
# A consumer's shift

**What a consumer processes, and what the broker does with it, over runs of any length**: received
deliveries with any answer of the listener, idle cycles, polls, a stop, and in between whatever
others do at the broker.

* `Shift` — a desk, the deliveries in front of it, and two records: what was processed, with its
  outcome, and what is no longer unsettled, with the verdict that the journal has for it;
* `Shift.step`, `Shift.run` — one event, and runs of events;
* `Shift.Sound` — the invariant: the unsettled deliveries are the deferred successes and, behind
  them, those in front of the desk;
* `Shift.Advances` — what an event does to both records;
* `settles_advances`, `poll_advances`, `cancel_advances` — the consumer's own events are not refused;
  `elsewhere_advances`, `counted_advances` — those of others;
* `step_sound`, `run_sound` — all events and runs keep the invariant.
-/

namespace QueueListener

/-- What becomes of a delivery by the answer of the listener. -/
def Settings.outcomeOf (settings : Settings) : Except ListenerError Unit → Outcome
  | .ok () => .success
  | .error error => .failure (error.requeue?.getD settings.requeueRejected) error.isTransport

/-- It is what the consumers of a container make of the answer. -/
theorem World.outcomeOf_eq (w : World) (result : Except ListenerError Unit) :
    w.outcomeOf result = w.plan.settings.outcomeOf result := by
  cases result <;> rfl

/-- A processed delivery with the verdict that it deserves. -/
def deserved (processed : Nat × Outcome) : Nat × Verdict := (processed.1, processed.2.verdict)

/-- The unsettled deliveries of an open channel. -/
def Broker.unsettled (b : Broker) (channel : Nat) : List Unacked :=
  match b.openChannel? channel with
  | some record => record.unacked
  | none => []

theorem Broker.unsettled_eq {b : Broker} {channel : Nat} {record : ChannelRecord}
    (opened : b.openChannel? channel = some record) : b.unsettled channel = record.unacked := by
  rw [unsettled, opened]

/-- The deliveries of a channel that were unsettled before and are not any more, with the verdicts
that the journal got for them. -/
def carriedOut (channel : Nat) (before after : Broker) : List (Nat × Verdict) :=
  let entries := after.journal.toList.drop before.journal.size
  let left := (after.unsettled channel).map (·.tag)
  ((before.unsettled channel).map (·.tag)).filterMap fun tag =>
    if tag ∈ left then none
    else (firstVerdict? channel entries tag).map fun verdict => (tag, verdict)

/-- A consumer at work. -/
structure Shift where
  desk : Desk
  /-- The deliveries that are in front of the consumer. -/
  inbox : List Delivery := []
  /-- The tags of the processed deliveries, with their outcomes. -/
  processed : List (Nat × Outcome) := []
  /-- The tags that are no longer unsettled, with their verdicts. -/
  verdicts : List (Nat × Verdict) := []

/-- What happens in a shift. -/
inductive ShiftEvent
  /-- The listener answers to the next delivery. -/
  | receive (result : Except ListenerError Unit)
  /-- The next delivery comes too late: the consumer was asked to stop. -/
  | turnAway
  /-- A receive ends without a delivery. -/
  | idle
  /-- The consumer asks the broker for a message. -/
  | poll
  /-- The consumer asks the broker to push nothing more. -/
  | cancel (consumerTag : String)
  /-- Somebody else does something at the broker. -/
  | elsewhere (op : Broker.Op)
  /-- Somebody counts something in the metrics that all share. -/
  | counted (metrics : Metrics)

/-- The events with which a consumer settles deliveries. -/
def ShiftEvent.Settles : ShiftEvent → Prop
  | .receive _ => True
  | .turnAway => True
  | .idle => True
  | _ => False

namespace Shift

open Broker

/-- The broker behind the desk. -/
def broker (s : Shift) : Broker := s.desk.client.broker

/-- The shift with another broker. -/
def withBroker (s : Shift) (broker : Broker) : Shift :=
  { s with desk := { s.desk with client := { s.desk.client with broker } } }

/-- Takes in what the broker has pushed, and notes what is no longer unsettled. -/
def observe (s : Shift) (seat : Seat) (before : Broker) : Shift :=
  { s.withBroker s.broker.collectNotices.2 with
    inbox := s.inbox ++ s.broker.deliveriesFor seat.subscriber
    verdicts := s.verdicts ++ carriedOut seat.channel before s.broker }

/-- Work at the desk; an error ends the shift. -/
def work (s : Shift) (seat : Seat) (work : DeskWork Unit) : Except ClientError Shift :=
  match work.run s.desk with
  | (.ok (), desk) => .ok ({ s with desk }.observe seat s.broker)
  | (.error error, _) => .error error

/-- One event of a shift. -/
def step (seat : Seat) (post : Post) (s : Shift) : ShiftEvent → Except ClientError Shift
  | .receive result =>
    match s.inbox with
    | [] => .ok s
    | delivery :: rest =>
      let outcome := post.settings.outcomeOf result
      { s with inbox := rest, processed := s.processed ++ [(delivery.tag, outcome)] }.work seat
        (Desk.settle post delivery.tag outcome)
  | .turnAway =>
    match s.inbox with
    | [] => .ok s
    | delivery :: rest =>
      { s with inbox := rest, processed := s.processed ++ [(delivery.tag, Outcome.stopping)] }.work seat
        (Desk.turnAway post delivery.tag)
  | .idle => s.work seat (Desk.flush post)
  | .poll =>
    match s.broker.get post.channel post.queue post.settings.ackMode.unacknowledged with
    | (.ok delivery?, broker) =>
      .ok (({ s with inbox := s.inbox ++ delivery?.toList }.withBroker broker).observe seat
        s.broker)
    | (.error error, _) => .error error
  | .cancel consumerTag =>
    match s.broker.cancel post.channel consumerTag with
    | (.ok (), broker) => .ok ((s.withBroker broker).observe seat s.broker)
    | (.error error, _) => .error error
  | .elsewhere op => .ok ((s.withBroker (s.broker.step op).2).observe seat s.broker)
  | .counted metrics => .ok { s with desk := { s.desk with metrics } }

/-- A run of events; an operation that fails ends it. -/
def run (seat : Seat) (post : Post) (s : Shift) : List ShiftEvent → Except ClientError Shift
  | [] => .ok s
  | event :: rest =>
    match s.step seat post event with
    | .ok next => run seat post next rest
    | .error error => .error error

/-- A run goes on after its first event. -/
theorem run_cons {seat : Seat} {post : Post} {s s' : Shift} {event : ShiftEvent}
    (stepped : s.step seat post event = .ok s') (events : List ShiftEvent) :
    s.run seat post (event :: events) = s'.run seat post events := by
  simp only [run]
  rw [stepped]

theorem run_cons_inv {seat : Seat} {post : Post} {s s' : Shift} {event : ShiftEvent}
    {events : List ShiftEvent} (ran : s.run seat post (event :: events) = .ok s') :
    ∃ next, s.step seat post event = .ok next ∧ next.run seat post events = .ok s' := by
  simp only [run] at ran
  cases stepped : s.step seat post event with
  | error error =>
    rw [stepped] at ran
    cases ran
  | ok next =>
    rw [stepped] at ran
    exact ⟨next, rfl, ran⟩

/-! ### What is observed -/

/-- Deliveries that leave the front are observed with the verdicts that the journal got. -/
theorem carriedOut_of_clears {seat : Seat} {b b' : Broker} {record : ChannelRecord}
    {gone : List (Unacked × Verdict)} {back more : List Unacked}
    (opened : b.openChannel? seat.channel = some record) (ordered : record.Ordered)
    (clears : seat.Clears b record b' gone back more) :
    carriedOut seat.channel b b' = gone.map fun entry => (entry.1.tag, entry.2) := by
  obtain ⟨entries, journal, verdicts, -⟩ := clears.journal
  have before : b.unsettled seat.channel = gone.map (·.1) ++ back :=
    (unsettled_eq opened).trans clears.split
  have after : b'.unsettled seat.channel = back ++ more := unsettled_eq clears.reaches.opened
  have fresh : b'.journal.toList.drop b.journal.size = entries := by
    rw [journal]
    exact List.drop_left
  have ascending := ordered.ascending
  rw [clears.split, List.map_append, List.pairwise_append] at ascending
  -- a delivery that leaves is neither behind itself nor new
  have apart : ∀ entry ∈ gone, entry.1.tag ∉ (back ++ more).map (·.tag) := by
    intro entry member found
    have listed : entry.1.tag ∈ (gone.map (·.1)).map (·.tag) :=
      List.mem_map_of_mem (List.mem_map_of_mem member)
    rw [List.map_append] at found
    rcases List.mem_append.mp found with behind | new
    · exact Nat.lt_irrefl _ (ascending.2.2 _ listed _ behind)
    · have bounded : entry.1.tag ≤ record.lastTag := by
        refine ordered.bounded entry.1 ?_
        rw [clears.split]
        exact List.mem_append_left _ (List.mem_map_of_mem member)
      rw [clears.reaches.numbered, List.mem_range'_1] at new
      exact absurd new.1 (Nat.not_le_of_lt (Nat.lt_succ_of_le bounded))
  unfold carriedOut
  dsimp only
  have whole : (gone.map (·.1) ++ back).map (·.tag) =
      (gone.map (·.1)).map (·.tag) ++ back.map (·.tag) := List.map_append
  rw [before, after, fresh, whole, List.filterMap_append]
  have leaves : ((gone.map (·.1)).map (·.tag)).filterMap (fun tag =>
      if tag ∈ (back ++ more).map (·.tag) then none
      else (firstVerdict? seat.channel entries tag).map fun verdict => (tag, verdict)) =
      gone.map fun entry => (entry.1.tag, entry.2) := by
    rw [List.map_map, List.filterMap_map]
    refine (List.filterMap_congr fun entry member => ?_).trans
      (congrFun List.filterMap_eq_map' gone)
    show (if entry.1.tag ∈ _ then none
      else (firstVerdict? seat.channel entries entry.1.tag).map _) = some (entry.1.tag, entry.2)
    rw [if_neg (apart entry member), verdicts entry member]
    rfl
  have stays : (back.map (·.tag)).filterMap (fun tag =>
      if tag ∈ (back ++ more).map (·.tag) then none
      else (firstVerdict? seat.channel entries tag).map fun verdict => (tag, verdict)) = [] := by
    refine List.filterMap_eq_nil_iff.mpr fun tag member => if_pos ?_
    rw [List.map_append]
    exact List.mem_append_left _ member
  rw [leaves, stays, List.append_nil]

/-- Nothing is observed of a channel that only gets more. -/
theorem carriedOut_of_extend {channel : Nat} {b b' : Broker} {record : ChannelRecord}
    {more : List Unacked} (opened : b.openChannel? channel = some record)
    (opened' : b'.openChannel? channel = some (record.extend more)) :
    carriedOut channel b b' = [] := by
  have after : b'.unsettled channel = record.unacked ++ more := unsettled_eq opened'
  unfold carriedOut
  dsimp only
  rw [unsettled_eq opened, after]
  refine List.filterMap_eq_nil_iff.mpr fun tag member => if_pos ?_
  rw [List.map_append]
  exact List.mem_append_left _ member

/-! ### The invariant -/

/-- **The invariant of a shift.** The unsettled deliveries of the channel are the deferred successes
(`batch`) and, behind them, those in front of the desk (`rest`). What was processed is what is
settled, with one verdict for each, and then the batch. On a plain channel the verdicts are those
that the outcomes deserve. -/
structure Sound (seat : Seat) (post : Post) (s : Shift) (record : ChannelRecord)
    (batch rest : List Unacked) (settled : List (Nat × Outcome)) : Prop where
  stands : s.desk.Stands s.broker batch.length (Seat.lastTag? batch)
  keeps : seat.Keeps post s.broker record batch rest
  quiet : s.broker.deliveriesFor seat.subscriber = []
  inbox : s.inbox.map (·.tag) = rest.map (·.tag)
  processed : s.processed = settled ++ batch.map fun entry => (entry.tag, Outcome.success)
  verdicts : s.verdicts.map (·.1) = settled.map (·.1)
  ascending : (settled.map (·.1) ++ record.unacked.map (·.tag)).Pairwise (· < ·)
  bounded : ∀ tag ∈ settled.map (·.1), tag ≤ record.lastTag
  below : batch.length < max post.settings.batchSize 1
  plain : post.settings.transacted = false → s.verdicts = settled.map deserved

variable {seat : Seat} {post : Post} {s s' : Shift} {record : ChannelRecord}
  {batch rest : List Unacked} {settled : List (Nat × Outcome)}

/-- Collecting the notices changes nothing that the consumer relies on. -/
theorem keeps_collect {b : Broker} (keeps : seat.Keeps post b record batch rest) :
    seat.Keeps post b.collectNotices.2 record batch rest where
  opened := keeps.opened
  mode := keeps.mode
  clean := keeps.clean
  seated := keeps.seated
  unacked := keeps.unacked
  ordered := keeps.ordered
  owns := keeps.owns
  tidy := ⟨keeps.tidy.queues, keeps.tidy.channels, keeps.tidy.numbered⟩

/-- A desk stands with the broker whose notices were collected. -/
theorem stands_collect {desk : Desk} {b : Broker} {n : Nat} {last : Option Nat}
    (stands : desk.Stands b n last) :
    ({ desk with client := { desk.client with broker := desk.client.broker.collectNotices.2 } } :
      Desk).Stands b.collectNotices.2 n last := by
  refine ⟨?_, stands.deferred, stands.last⟩
  show ({ desk.client with broker := _ } : Client) = _
  rw [stands.client]

/-- Deliveries leave the front of what is unsettled. The dead letters get those that are rejected for
good, as long as the queues of all exist. -/
structure Buries (seat : Seat) (s s' : Shift) (gone : List (Unacked × Verdict)) : Prop where
  front : gone.map (·.1) <+: s.broker.unsettled seat.channel
  deadLetters : (∀ entry ∈ gone, entry.1.queue ∈ s.broker.queues.keys) →
    s'.broker.deadLetters.toList = s.broker.deadLetters.toList ++ rejectedOf gone

/-- **Deliveries leave the front of the channel**, and the shift goes on behind them. `ended` are
the processed deliveries that leave. -/
theorem Sound.clears (sound : Sound seat post s record batch rest settled) {after : Desk}
    {b' : Broker} {gone : List (Unacked × Verdict)} {batch' rest' more : List Unacked}
    (clears : seat.Clears s.broker record b' gone (batch' ++ rest') more)
    (stands : after.Stands b' batch'.length (Seat.lastTag? batch')) {inbox : List Delivery}
    (tags : inbox.map (·.tag) = rest'.map (·.tag)) (ended : List (Nat × Outcome))
    (leaves : ended.map (·.1) = (gone.map (·.1)).map (·.tag))
    (below : batch'.length < max post.settings.batchSize 1)
    (plain : post.settings.transacted = false →
      (gone.map fun entry => (entry.1.tag, entry.2)) = ended.map deserved)
    {processed : List (Nat × Outcome)}
    (whole : processed = settled ++ ended ++ batch'.map fun entry => (entry.tag, .success)) :
    let next := ({ s with desk := after, inbox, processed } : Shift).observe seat s.broker
    Sound seat post next ((record.leave (batch' ++ rest')).extend more) batch' (rest' ++ more)
        (settled ++ ended) ∧
      next.verdicts = s.verdicts ++ gone.map (fun entry => (entry.1.tag, entry.2)) ∧
      next.processed = processed ∧ Buries seat s next gone := by
  have reached : after.client.broker = b' := by rw [stands.client]
  have observed := carriedOut_of_clears sound.keeps.opened sound.keeps.ordered clears
  have keeps := sound.keeps.clears clears
  obtain ⟨new, told, newTags⟩ := clears.reaches.told
  rw [sound.quiet, List.nil_append] at told
  have broker : (({ s with desk := after, inbox, processed } : Shift).observe seat
      s.broker).broker = b'.collectNotices.2 := by
    show after.client.broker.collectNotices.2 = _
    rw [reached]
  have verdicts : (({ s with desk := after, inbox, processed } : Shift).observe seat
      s.broker).verdicts = s.verdicts ++ gone.map (fun entry => (entry.1.tag, entry.2)) := by
    show s.verdicts ++ carriedOut seat.channel s.broker after.client.broker = _
    rw [reached, observed]
  have unacked : record.unacked.map (·.tag) =
      ended.map (·.1) ++ (batch' ++ rest').map (·.tag) := by
    rw [clears.split, List.map_append, leaves]
  have ascending := sound.ascending
  rw [unacked, ← List.append_assoc, ← List.map_append] at ascending
  have old : ∀ tag ∈ (settled ++ ended).map (·.1), tag ≤ record.lastTag := by
    intro tag member
    rw [List.map_append] at member
    rcases List.mem_append.mp member with before | now
    · exact sound.bounded tag before
    · have listed : tag ∈ record.unacked.map (·.tag) := unacked ▸ List.mem_append_left _ now
      obtain ⟨entry, found, rfl⟩ := List.mem_map.mp listed
      exact sound.keeps.ordered.bounded entry found
  refine ⟨⟨?_, ?_, ?_, ?_, whole, ?_, ?_, ?_, below, ?_⟩, verdicts, rfl, ?_, fun present => ?_⟩
  · rw [broker]
    exact stands_collect stands
  · rw [broker]
    exact keeps_collect keeps
  · rw [broker]
    rfl
  · show (inbox ++ after.client.broker.deliveriesFor seat.subscriber).map (·.tag) = _
    rw [reached, told, List.map_append, tags, newTags, List.map_append]
  · rw [verdicts, List.map_append, List.map_append, sound.verdicts, leaves, List.map_map,
      List.map_map]
    rfl
  · show ((settled ++ ended).map (·.1) ++ ((batch' ++ rest') ++ more).map (·.tag)).Pairwise (· < ·)
    have tail : ((batch' ++ rest') ++ more).map (·.tag) =
        (batch' ++ rest').map (·.tag) ++ more.map (·.tag) := List.map_append
    rw [tail, ← List.append_assoc, clears.reaches.numbered]
    refine pairwise_append_range' ascending (fun tag before => ?_) _
    rcases List.mem_append.mp before with gone | behind
    · exact old tag gone
    · have listed : tag ∈ record.unacked.map (·.tag) := unacked ▸ List.mem_append_right _ behind
      obtain ⟨entry, found, rfl⟩ := List.mem_map.mp listed
      exact sound.keeps.ordered.bounded entry found
  · exact fun tag member => Nat.le_add_right_of_le (old tag member)
  · intro isPlain
    rw [verdicts, sound.plain isPlain, plain isPlain, List.map_append]
  · rw [unsettled_eq sound.keeps.opened, clears.split]
    exact List.prefix_append _ _
  · rw [broker]
    exact clears.deadLetters present

/-- No delivery is in front of the consumer and processed, and none is processed twice. -/
theorem Sound.distinct (sound : Sound seat post s record batch rest settled) :
    (s.processed.map (·.1) ++ s.inbox.map (·.tag)).Nodup := by
  have tags : s.processed.map (·.1) ++ s.inbox.map (·.tag) =
      settled.map (·.1) ++ record.unacked.map (·.tag) := by
    rw [sound.processed, sound.inbox, sound.keeps.unacked, List.map_append, List.map_append,
      List.map_map, List.append_assoc]
    rfl
  rw [tags]
  exact sound.ascending.imp fun less => Nat.ne_of_lt less

/-- A step of a shift: what it adds to the two records, and the batch after it. -/
structure Advances (seat : Seat) (post : Post) (s s' : Shift) (done : List (Nat × Outcome))
    (gone : List (Unacked × Verdict)) (batch : List Unacked) : Prop where
  sound : ∃ record rest settled, Sound seat post s' record batch rest settled
  processed : s'.processed = s.processed ++ done
  verdicts : s'.verdicts = s.verdicts ++ gone.map fun entry => (entry.1.tag, entry.2)

/-- Nothing is processed without a delivery. -/
theorem Advances.refl (sound : Sound seat post s record batch rest settled) :
    Advances seat post s s [] [] batch :=
  ⟨⟨record, rest, settled, sound⟩, (List.append_nil _).symm, (List.append_nil _).symm⟩

theorem Buries.refl (s : Shift) : Buries seat s s [] :=
  ⟨List.nil_prefix, fun _ => (List.append_nil _).symm⟩

/-- Work that succeeds ends in a shift that has observed it. -/
theorem work_of_works (seat : Seat) {deskWork : DeskWork Unit} {b' : Broker} {n : Nat}
    {last : Option Nat} (works : Desk.Works deskWork s.desk () b' n last) :
    ∃ after : Desk, after.Stands b' n last ∧
      s.work seat deskWork = .ok ({ s with desk := after }.observe seat s.broker) := by
  obtain ⟨after, ran, stands⟩ := works
  refine ⟨after, stands, ?_⟩
  unfold work
  rw [ran]

/-- The first delivery in front of the desk is the first unsettled one behind the batch. -/
theorem Sound.first (sound : Sound seat post s record batch rest settled) {delivery : Delivery}
    {others : List Delivery} (waits : s.inbox = delivery :: others) :
    ∃ entry behind, rest = entry :: behind ∧ delivery.tag = entry.tag ∧
      others.map (·.tag) = behind.map (·.tag) := by
  have tags := sound.inbox
  rw [waits] at tags
  cases rest with
  | nil => cases tags
  | cons entry behind =>
    obtain ⟨same, others⟩ := List.cons.inj tags
    exact ⟨entry, behind, rfl, same, others⟩

/-- **Processing a delivery** settles it as the policy says. -/
theorem Sound.process {entry : Unacked}
    (sound : Sound seat post s record batch (entry :: rest) settled) {others : List Delivery}
    (tags : others.map (·.tag) = rest.map (·.tag)) (outcome : Outcome) {deskWork : DeskWork Unit}
    (settles : ∃ b' more, Desk.Works deskWork s.desk () b'
        (disposal post.settings batch entry outcome).2.length
        (Seat.lastTag? (disposal post.settings batch entry outcome).2) ∧
      seat.Clears s.broker record b' (disposal post.settings batch entry outcome).1
        ((disposal post.settings batch entry outcome).2 ++ rest) more) :
    ∃ s', ({ s with
          inbox := others
          processed := s.processed ++ [(entry.tag, outcome)] } : Shift).work seat deskWork =
        .ok s' ∧
      Advances seat post s s' [(entry.tag, outcome)] (disposal post.settings batch entry outcome).1
        (disposal post.settings batch entry outcome).2 ∧
      Buries seat s s' (disposal post.settings batch entry outcome).1 := by
  obtain ⟨b', more, works, clears⟩ := settles
  obtain ⟨after, stands, worked⟩ := work_of_works seat (s := { s with
    inbox := others
    processed := s.processed ++ [(entry.tag, outcome)] }) works
  have below := disposal_length post.settings batch entry outcome
  refine ⟨_, worked, ?_⟩
  rcases disposal_cases post.settings batch entry outcome with ⟨rfl, joins⟩ | ⟨empty, leaves⟩
  · rw [joins] at clears stands below ⊢
    have whole : s.processed ++ [(entry.tag, Outcome.success)] =
        settled ++ [] ++ (batch ++ [entry]).map fun entry => (entry.tag, Outcome.success) := by
      rw [sound.processed, List.append_nil, List.append_assoc, List.map_append]
      rfl
    obtain ⟨sound', verdicts, processed, dead⟩ :=
      sound.clears clears stands tags [] rfl below (fun _ => rfl) whole
    exact ⟨⟨⟨_, _, _, sound'⟩, processed, verdicts⟩, dead⟩
  · rw [empty] at clears stands below ⊢
    have ends : ((batch.map fun entry => (entry.tag, Outcome.success)) ++
        [(entry.tag, outcome)]).map (·.1) =
        ((disposal post.settings batch entry outcome).1.map (·.1)).map (·.tag) := by
      rw [leaves, List.map_append, List.map_append, List.map_map]
      rfl
    have plain : post.settings.transacted = false →
        ((disposal post.settings batch entry outcome).1.map fun entry => (entry.1.tag, entry.2)) =
          ((batch.map fun entry => (entry.tag, Outcome.success)) ++
            [(entry.tag, outcome)]).map deserved := by
      intro plain
      rw [disposal_plain plain empty, List.map_append, List.map_append, List.map_map, List.map_map]
      rfl
    have whole : s.processed ++ [(entry.tag, outcome)] =
        settled ++ ((batch.map fun entry => (entry.tag, Outcome.success)) ++
          [(entry.tag, outcome)]) ++ ([] : List Unacked).map fun entry =>
            (entry.tag, Outcome.success) := by
      rw [sound.processed, List.map_nil, List.append_nil, List.append_assoc]
    obtain ⟨sound', verdicts, processed, dead⟩ :=
      sound.clears clears stands tags _ ends below plain whole
    exact ⟨⟨⟨_, _, _, sound'⟩, processed, verdicts⟩, dead⟩

/-- **The listener answers to a delivery**: nothing is refused. -/
theorem receive_advances (auto : post.settings.ackMode = .auto) (here : post.channel = seat.channel)
    (sound : Sound seat post s record batch rest settled) {delivery : Delivery}
    {others : List Delivery} (waits : s.inbox = delivery :: others)
    (result : Except ListenerError Unit) :
    ∃ entry s', s.step seat post (.receive result) = .ok s' ∧ entry.tag = delivery.tag ∧
      let outcome := post.settings.outcomeOf result
      Advances seat post s s' [(delivery.tag, outcome)]
        (disposal post.settings batch entry outcome).1
        (disposal post.settings batch entry outcome).2 ∧
      Buries seat s s' (disposal post.settings batch entry outcome).1 := by
  obtain ⟨entry, behind, rfl, tag, tags⟩ := sound.first waits
  obtain ⟨s', worked, advances⟩ := sound.process tags _
    (Seat.settle_clears_disposal auto here sound.stands sound.keeps (post.settings.outcomeOf result))
  refine ⟨entry, s', ?_, tag.symm, ?_⟩
  · unfold step
    rw [waits]
    dsimp only
    rw [tag]
    exact worked
  · rw [tag]
    exact advances

/-- **A delivery is turned away**: nothing is refused. -/
theorem turnAway_advances (auto : post.settings.ackMode = .auto)
    (here : post.channel = seat.channel) (sound : Sound seat post s record batch rest settled)
    {delivery : Delivery} {others : List Delivery} (waits : s.inbox = delivery :: others) :
    ∃ entry s', s.step seat post .turnAway = .ok s' ∧ entry.tag = delivery.tag ∧
      Advances seat post s s' [(delivery.tag, .stopping)]
        (rejection post.settings.transacted batch entry true) [] ∧
      Buries seat s s' (rejection post.settings.transacted batch entry true) := by
  obtain ⟨entry, behind, rfl, tag, tags⟩ := sound.first waits
  obtain ⟨s', worked, advances⟩ := sound.process tags .stopping
    (Seat.turnAway_clears auto here sound.stands sound.keeps)
  refine ⟨entry, s', ?_, tag.symm, ?_⟩
  · unfold step
    rw [waits]
    dsimp only
    rw [tag]
    exact worked
  · rw [tag]
    exact advances

/-- **An idle cycle settles the batch**: nothing is refused. -/
theorem idle_advances (here : post.channel = seat.channel)
    (sound : Sound seat post s record batch rest settled) :
    ∃ s', s.step seat post .idle = .ok s' ∧
      Advances seat post s s' [] (batch.map (·, .ack)) [] ∧ Buries seat s s' (batch.map (·, .ack)) := by
  obtain ⟨b', more, works, clears⟩ := Seat.flush_clears here sound.stands sound.keeps
  obtain ⟨after, stands, worked⟩ := work_of_works seat works
  have empties : seat.Clears s.broker record b' (batch.map (·, .ack)) ([] ++ rest) more := clears
  have empty : after.Stands b' ([] : List Unacked).length (Seat.lastTag? []) := stands
  have below : ([] : List Unacked).length < max post.settings.batchSize 1 :=
    Nat.lt_of_lt_of_le Nat.one_pos (le_max_right _ _)
  have whole : s.processed = settled ++ (batch.map fun entry => (entry.tag, Outcome.success)) ++
      ([] : List Unacked).map fun entry => (entry.tag, Outcome.success) :=
    sound.processed.trans (List.append_nil _).symm
  have ends : (batch.map fun entry => (entry.tag, Outcome.success)).map (·.1) =
      ((batch.map (·, Verdict.ack)).map (·.1)).map (·.tag) := by
    rw [List.map_map, List.map_map, List.map_map]
    rfl
  have plain : post.settings.transacted = false →
      ((batch.map (·, Verdict.ack)).map fun entry => (entry.1.tag, entry.2)) =
        (batch.map fun entry => (entry.tag, Outcome.success)).map deserved := by
    intro _
    rw [List.map_map, List.map_map]
    rfl
  obtain ⟨sound', verdicts, processed, dead⟩ :=
    sound.clears empties empty sound.inbox _ ends below plain whole
  exact ⟨_, worked, ⟨⟨_, _, _, sound'⟩, processed.trans (List.append_nil _).symm, verdicts⟩, dead⟩

/-- **The events with which a consumer settles deliveries are not refused.** They process nothing but
what is in front of the desk. -/
theorem settles_advances (auto : post.settings.ackMode = .auto)
    (here : post.channel = seat.channel) (sound : Sound seat post s record batch rest settled)
    {event : ShiftEvent} (settles : event.Settles) :
    ∃ s' done gone batch', s.step seat post event = .ok s' ∧
      Advances seat post s s' done gone batch' ∧ Buries seat s s' gone ∧
      ∀ entry ∈ done, entry.1 ∈ s.inbox.map (·.tag) := by
  have nothing : ∀ entry ∈ ([] : List (Nat × Outcome)), entry.1 ∈ s.inbox.map (·.tag) :=
    fun _ member => absurd member List.not_mem_nil
  have next : ∀ {delivery : Delivery} {others : List Delivery}, s.inbox = delivery :: others →
      ∀ outcome : Outcome, ∀ entry ∈ [(delivery.tag, outcome)], entry.1 ∈ s.inbox.map (·.tag) := by
    intro delivery others waits outcome entry member
    rw [List.mem_singleton.mp member, waits]
    exact List.mem_cons_self
  have rests : s.inbox = [] → (event = .turnAway ∨ ∃ result, event = .receive result) →
      s.step seat post event = .ok s := by
    rintro waits (rfl | ⟨result, rfl⟩) <;>
    · unfold step
      rw [waits]
  cases event with
  | receive result =>
    cases waits : s.inbox with
    | nil =>
      exact ⟨s, [], [], batch, rests waits (.inr ⟨result, rfl⟩), .refl sound, .refl s, waits ▸ nothing⟩
    | cons delivery others =>
      obtain ⟨_, s', stepped, -, advances, buries⟩ := receive_advances auto here sound waits result
      exact ⟨s', _, _, _, stepped, advances, buries, waits ▸ next waits _⟩
  | turnAway =>
    cases waits : s.inbox with
    | nil => exact ⟨s, [], [], batch, rests waits (.inl rfl), .refl sound, .refl s, waits ▸ nothing⟩
    | cons delivery others =>
      obtain ⟨_, s', stepped, -, advances, buries⟩ := turnAway_advances auto here sound waits
      exact ⟨s', _, _, _, stepped, advances, buries, waits ▸ next waits _⟩
  | idle =>
    obtain ⟨s', stepped, advances, buries⟩ := idle_advances here sound
    exact ⟨s', _, _, _, stepped, advances, buries, nothing⟩
  | poll | cancel | elsewhere | counted => exact settles.elim

/-! ### What others do -/

/-- A channel that only gets more keeps the batch; the new deliveries come in front of the desk. -/
theorem Sound.extends (sound : Sound seat post s record batch rest settled) {b' : Broker}
    {more : List Unacked} (opened : b'.openChannel? seat.channel = some (record.extend more))
    (numbered : more.map (·.tag) = List.range' (record.lastTag + 1) more.length) (tidy : b'.Tidy)
    (owns : seat.Owns b') (extra : List Delivery)
    (told : (extra ++ b'.deliveriesFor seat.subscriber).map (·.tag) = more.map (·.tag)) :
    Advances seat post s
      ((({ s with inbox := s.inbox ++ extra } : Shift).withBroker b').observe seat s.broker)
      [] [] batch := by
  have observed := carriedOut_of_extend sound.keeps.opened opened
  have ordered : (record.extend more).Ordered :=
    sound.keeps.ordered.extend (List.Sublist.refl _) numbered
  have verdicts : ((({ s with inbox := s.inbox ++ extra } : Shift).withBroker b').observe seat
      s.broker).verdicts = s.verdicts := by
    show s.verdicts ++ carriedOut seat.channel s.broker b' = _
    rw [observed, List.append_nil]
  have keeps : seat.Keeps post b' (record.extend more) batch (rest ++ more) :=
    ⟨opened, sound.keeps.mode, sound.keeps.clean, sound.keeps.seated, by
      rw [ChannelRecord.extend, sound.keeps.unacked, List.append_assoc], ordered, owns, tidy⟩
  have stands : ({ s.desk with client := { s.desk.client with broker := b' } } : Desk).Stands b'
      batch.length (Seat.lastTag? batch) := by
    refine ⟨?_, sound.stands.deferred, sound.stands.last⟩
    show ({ s.desk.client with broker := _ } : Client) = _
    rw [sound.stands.client]
  refine ⟨⟨record.extend more, rest ++ more, settled, stands_collect stands, keeps_collect keeps,
    rfl, ?_, sound.processed, by rw [verdicts, sound.verdicts], ?_, ?_, sound.below, ?_⟩,
    (List.append_nil _).symm, verdicts.trans (List.append_nil _).symm⟩
  · show (s.inbox ++ extra ++ b'.deliveriesFor seat.subscriber).map (·.tag) = _
    rw [List.append_assoc, List.map_append, sound.inbox, told, List.map_append]
  · have tail : (record.extend more).unacked.map (·.tag) =
        record.unacked.map (·.tag) ++ more.map (·.tag) := List.map_append
    rw [tail, ← List.append_assoc, numbered]
    refine pairwise_append_range' sound.ascending (fun tag before => ?_) _
    rcases List.mem_append.mp before with gone | behind
    · exact sound.bounded tag gone
    · obtain ⟨entry, found, rfl⟩ := List.mem_map.mp behind
      exact sound.keeps.ordered.bounded entry found
  · exact fun tag member => Nat.le_add_right_of_le (sound.bounded tag member)
  · exact fun isPlain => verdicts.trans (sound.plain isPlain)

/-- Growth of the channel by what the broker pushes. -/
theorem Sound.reaches (sound : Sound seat post s record batch rest settled) {b' : Broker}
    {more : List Unacked} (reaches : seat.Reaches s.broker record b' more) (tidy : b'.Tidy)
    (owns : seat.Owns b') :
    Advances seat post s ((s.withBroker b').observe seat s.broker) [] [] batch := by
  obtain ⟨new, told, tags⟩ := reaches.told
  rw [sound.quiet, List.nil_append] at told
  have grown := sound.extends reaches.opened reaches.numbered tidy owns []
    (by rw [List.nil_append, told, tags])
  rw [List.append_nil] at grown
  exact grown

/-- A poll may bring one delivery. -/
theorem poll_advances (auto : post.settings.ackMode = .auto) (here : post.channel = seat.channel)
    (sound : Sound seat post s record batch rest settled)
    (ran : s.step seat post .poll = .ok s') : Advances seat post s s' [] [] batch := by
  have unacknowledged : post.settings.ackMode.unacknowledged = false := by rw [auto]; rfl
  unfold step at ran
  rw [unacknowledged, here] at ran
  dsimp only at ran
  split at ran
  next delivery? b' got =>
    obtain rfl := Except.ok.inj ran
    obtain ⟨more, opened, numbered, tags, consumers, notices⟩ :=
      Seat.get_extends sound.keeps.opened got
    have tidy := (get_accounts sound.keeps.tidy seat.channel post.queue false).tidy
    have quiet : b'.deliveriesFor seat.subscriber = [] := by
      unfold deliveriesFor
      rw [notices]
      exact sound.quiet
    rw [got] at tidy
    refine sound.extends opened numbered tidy
      (fun tag consumer found => sound.keeps.owns tag consumer (consumers ▸ found)) _ ?_
    rw [quiet, List.append_nil, tags]
  next => cases ran

/-- A cancellation leaves everything that was delivered. -/
theorem cancel_advances (here : post.channel = seat.channel)
    (sound : Sound seat post s record batch rest settled) (consumerTag : String) :
    ∃ s', s.step seat post (.cancel consumerTag) = .ok s' ∧ Advances seat post s s' [] [] batch := by
  have isOpen : s.broker.channelOpen seat.channel = true :=
    channelOpen_of_openChannel? sound.keeps.opened
  have accepted : s.broker.cancel seat.channel consumerTag =
      (.ok (), (s.broker.cancel seat.channel consumerTag).2) := by
    unfold Broker.cancel
    rw [isOpen]
    rfl
  have tidy := (cancel_accounts sound.keeps.tidy seat.channel consumerTag).tidy
  have grown : seat.Grows s.broker (s.broker.cancel seat.channel consumerTag).2 :=
    Seat.cancel_grows s.broker seat.channel consumerTag
  obtain ⟨more, reaches⟩ := grown.reaches record sound.keeps.opened
  refine ⟨_, ?_, sound.reaches reaches tidy (grown.owns sound.keeps.owns)⟩
  unfold step
  rw [here]
  dsimp only
  rw [accepted]

/-- What others do leaves everything that was delivered. -/
theorem elsewhere_advances (sound : Sound seat post s record batch rest settled) {op : Op}
    (spares : seat.Spares op) :
    ∃ s', s.step seat post (.elsewhere op) = .ok s' ∧ Advances seat post s s' [] [] batch := by
  have accounts := step_accounts sound.keeps.tidy op
  obtain ⟨more, reaches⟩ := Seat.step_reaches sound.keeps.tidy sound.keeps.owns sound.keeps.opened
    sound.keeps.seated spares
  refine ⟨_, rfl, sound.reaches reaches accounts.tidy fun tag consumer found => ?_⟩
  rcases accounts.consumers tag consumer found with old | ⟨-, requested, rfl⟩
  · exact sound.keeps.owns tag consumer old
  · exact ⟨⟨fun mine => absurd mine spares.1, fun mine => absurd mine spares.2⟩,
      fun mine => absurd mine spares.1⟩

theorem counted_advances (sound : Sound seat post s record batch rest settled) (metrics : Metrics) :
    Advances seat post s { s with desk := { s.desk with metrics } } [] [] batch :=
  ⟨⟨record, rest, settled, ⟨sound.stands.client, sound.stands.deferred, sound.stands.last⟩,
    sound.keeps, sound.quiet, sound.inbox, sound.processed, sound.verdicts, sound.ascending,
    sound.bounded, sound.below, sound.plain⟩, (List.append_nil _).symm, (List.append_nil _).symm⟩

/-! ### Steps and runs -/

/-- **Every event that succeeds keeps the invariant.** -/
theorem step_sound (auto : post.settings.ackMode = .auto) (here : post.channel = seat.channel)
    (sound : Sound seat post s record batch rest settled) {event : ShiftEvent}
    (spares : ∀ op, event = .elsewhere op → seat.Spares op)
    (ran : s.step seat post event = .ok s') :
    ∃ done gone batch', Advances seat post s s' done gone batch' := by
  have own : event.Settles → ∃ done gone batch', Advances seat post s s' done gone batch' := by
    intro settles
    obtain ⟨_, done, gone, batch', stepped, advances, -⟩ :=
      settles_advances auto here sound settles
    obtain rfl := Except.ok.inj (stepped.symm.trans ran)
    exact ⟨done, gone, batch', advances⟩
  cases event with
  | receive | turnAway | idle => exact own trivial
  | poll => exact ⟨_, _, _, poll_advances auto here sound ran⟩
  | cancel consumerTag =>
    obtain ⟨_, stepped, advances⟩ := cancel_advances here sound consumerTag
    obtain rfl := Except.ok.inj (stepped.symm.trans ran)
    exact ⟨_, _, _, advances⟩
  | elsewhere op =>
    obtain ⟨_, stepped, advances⟩ := elsewhere_advances sound (spares op rfl)
    obtain rfl := Except.ok.inj (stepped.symm.trans ran)
    exact ⟨_, _, _, advances⟩
  | counted metrics =>
    obtain rfl := Except.ok.inj ran
    exact ⟨_, _, _, counted_advances sound metrics⟩

/-- **So does every run.** -/
theorem run_sound (auto : post.settings.ackMode = .auto) (here : post.channel = seat.channel)
    (start : ∃ record batch rest settled, Sound seat post s record batch rest settled)
    {events : List ShiftEvent} (spares : ∀ op, .elsewhere op ∈ events → seat.Spares op)
    (ran : s.run seat post events = .ok s') :
    ∃ record batch rest settled, Sound seat post s' record batch rest settled := by
  induction events generalizing s with
  | nil =>
    obtain rfl := Except.ok.inj ran
    exact start
  | cons event events ih =>
    obtain ⟨record, batch, rest, settled, sound⟩ := start
    obtain ⟨next, stepped, ran'⟩ := run_cons_inv ran
    obtain ⟨done, gone, batch', advances⟩ := step_sound auto here sound
      (fun op same => spares op (same ▸ List.mem_cons_self)) stepped
    obtain ⟨record', rest', settled', sound'⟩ := advances.sound
    exact ih ⟨record', batch', rest', settled', sound'⟩
      (fun op member => spares op (List.mem_cons_of_mem _ member)) ran'

end Shift

end QueueListener
