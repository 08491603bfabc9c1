import QueueListener.Proofs.Broker.Growth
/-!
# Settlement of one channel

**A settlement takes exactly the deliveries that it covers off its channel**, enters its verdict in
the journal, and sends a message to the dead letters only by a rejection that asks for it.

* `firstVerdict?` — the verdict that the journal has for a delivery;
* `Seat.Clears` — deliveries leave the front of a channel, each with its verdict;
* `acknowledge_clears`, `commit_clears`, `rollback_clears` — the operations of the channel's owner,
  on a plain and on a transactional channel.
-/

namespace QueueListener

/-- The first verdict of the entries on a delivery of a channel. -/
def firstVerdict? (channel : Nat) (entries : List JournalEntry) (tag : Nat) : Option Verdict :=
  entries.findSome? fun entry =>
    match entry.action with
    | .settle settlement =>
      if entry.channel = channel && settlement.covers tag then some settlement.verdict else none
    | _ => none

theorem firstVerdict?_append (channel : Nat) (first second : List JournalEntry) (tag : Nat) :
    firstVerdict? channel (first ++ second) tag =
      (firstVerdict? channel first tag).or (firstVerdict? channel second tag) :=
  List.findSome?_append

/-- The verdict of one settlement. -/
theorem firstVerdict?_settle (channel : Nat) (settlement : Settlement) (tag : Nat) :
    firstVerdict? channel [⟨channel, .settle settlement⟩] tag =
      if settlement.covers tag then some settlement.verdict else none := by
  by_cases covered : settlement.covers tag = true <;> simp [firstVerdict?, covered]

/-- The channel with other unsettled deliveries. -/
def ChannelRecord.leave (record : ChannelRecord) (back : List Unacked) : ChannelRecord :=
  { record with unacked := back }

/-- The dead letters that rejected deliveries become. -/
def rejectedOf (gone : List (Unacked × Verdict)) : List DeadLetter :=
  (gone.filter (·.2 = .nack false)).map fun entry => ⟨entry.1.queue, entry.1.message⟩

@[simp] theorem rejectedOf_append (first second : List (Unacked × Verdict)) :
    rejectedOf (first ++ second) = rejectedOf first ++ rejectedOf second := by
  simp [rejectedOf]

/-- Under one verdict all deliveries are rejected, or none. -/
theorem rejectedOf_map (entries : List Unacked) (verdict : Verdict) :
    rejectedOf (entries.map (·, verdict)) =
      if verdict = .nack false then entries.map fun entry => ⟨entry.queue, entry.message⟩
      else [] := by
  unfold rejectedOf
  by_cases rejects : verdict = .nack false
  · have all : (entries.map (·, verdict)).filter (·.2 = .nack false) = entries.map (·, verdict) := by
      refine List.filter_eq_self.mpr fun entry member => ?_
      obtain ⟨_, _, rfl⟩ := List.mem_map.mp member
      exact decide_eq_true rejects
    rw [all, if_pos rejects, List.map_map]
    rfl
  · have nothing : (entries.map (·, verdict)).filter (·.2 = .nack false) = [] := by
      refine List.filter_eq_nil_iff.mpr fun entry member => ?_
      obtain ⟨_, _, rfl⟩ := List.mem_map.mp member
      simp [rejects]
    rw [nothing, if_neg rejects]
    rfl

namespace Broker

/-- The broker in which a settlement waits for the commit of its channel. -/
def submit (b : Broker) (channel : Nat) (settlement : Settlement) : Broker :=
  (b.record channel (.settle settlement)).updateChannel channel fun record =>
    { record with pending := record.pending ++ [settlement] }

/-- The broker in which nothing waits for the commit of a channel. -/
def clearPending (b : Broker) (channel : Nat) (action : ChannelAction) : Broker :=
  (b.updateChannel channel fun record => { record with pending := [] }).record channel action

theorem Tidy.submit {b : Broker} (tidy : b.Tidy) (channel : Nat) (settlement : Settlement) :
    (b.submit channel settlement).Tidy :=
  (tidy.record channel (.settle settlement)).updateChannel channel _

theorem Tidy.clearPending {b : Broker} (tidy : b.Tidy) (channel : Nat) (action : ChannelAction) :
    (b.clearPending channel action).Tidy :=
  (tidy.updateChannel channel _).record channel action

/-! ### What dispatch and returns leave alone -/

theorem dispatchAll_frame (b : Broker) :
    b.dispatchAll.journal = b.journal ∧ b.dispatchAll.deadLetters = b.deadLetters ∧
      b.dispatchAll.queues.keys = b.queues.keys :=
  dispatchAll_induction (motive := fun after => after.journal = b.journal ∧
      after.deadLetters = b.deadLetters ∧ after.queues.keys = b.queues.keys)
    (fun _ _ _ ⟨journal, dead, keys⟩ => ⟨journal, dead, (Table.keys_modify _ _ _).trans keys⟩)
    b ⟨rfl, rfl, rfl⟩

theorem giveBack_keys (b : Broker) (entry : Unacked) :
    (b.giveBack entry).queues.keys = b.queues.keys := by
  unfold giveBack
  dsimp only
  split
  next => exact Table.keys_modify _ _ _
  next => rfl

theorem giveBackAll_keys (b : Broker) (entries : List Unacked) :
    (b.giveBackAll entries).queues.keys = b.queues.keys :=
  giveBackAll_induction (motive := fun after => after.queues.keys = b.queues.keys) entries
    (fun now entry same => (giveBack_keys now entry).trans same) b rfl

/-- A message whose queue exists goes back to the queue, not to the dead letters. -/
theorem giveBackAll_deadLetters (b : Broker) (entries : List Unacked)
    (present : ∀ entry ∈ entries, entry.queue ∈ b.queues.keys) :
    (b.giveBackAll entries).deadLetters = b.deadLetters := by
  induction entries with
  | nil => rfl
  | cons entry rest ih =>
    have others := ih fun entry member => present entry (List.mem_cons_of_mem _ member)
    have exists' : (b.giveBackAll rest).queues.contains entry.queue = true := by
      rw [Table.contains_iff, giveBackAll_keys]
      exact present entry List.mem_cons_self
    show ((b.giveBackAll rest).giveBack entry).deadLetters = _
    unfold giveBack
    rw [if_pos exists']
    exact others

/-- **A verdict** takes what it covers off the channel, and only a rejection for good sends it to
the dead letters. -/
theorem settle_frame {b : Broker} {channel : Nat} {record : ChannelRecord}
    (found : b.channels.get? channel = some record) (settlement : Settlement) :
    (b.settle channel settlement).queues.keys = b.queues.keys ∧
      ((∀ entry ∈ record.unacked, settlement.covers entry.tag = true →
          entry.queue ∈ b.queues.keys) →
        (b.settle channel settlement).deadLetters.toList = b.deadLetters.toList ++
          rejectedOf ((record.unacked.filter fun entry => settlement.covers entry.tag).map
            (·, settlement.verdict))) := by
  unfold settle
  rw [found]
  dsimp only
  rw [rejectedOf_map]
  split
  next verdict =>
    refine ⟨rfl, fun _ => ?_⟩
    rw [verdict, if_neg nofun, List.append_nil]
    rfl
  next verdict =>
    refine ⟨giveBackAll_keys _ _, fun present => ?_⟩
    rw [verdict, if_neg nofun, List.append_nil, giveBackAll_deadLetters]
    · rfl
    · intro entry member
      obtain ⟨listed, covered⟩ := List.mem_filter.mp member
      exact present entry listed covered
  next verdict =>
    refine ⟨rfl, fun _ => ?_⟩
    rw [verdict, if_pos rfl]
    simp [bury, updateChannel]

end Broker

namespace Seat

open Broker

/-- The deliveries at the front of a channel leave it, each with its verdict, while the channel
grows at its back. -/
structure Clears (seat : Seat) (b : Broker) (record : ChannelRecord) (b' : Broker)
    (gone : List (Unacked × Verdict)) (back more : List Unacked) : Prop where
  split : record.unacked = gone.map (·.1) ++ back
  reaches : seat.Reaches b (record.leave back) b' more
  tidy : b.Tidy → b'.Tidy
  consumers : ∀ tag consumer,
    b'.consumers.get? tag = some consumer → b.consumers.get? tag = some consumer
  queueKeys : b'.queues.keys = b.queues.keys
  journal : ∃ entries, b'.journal.toList = b.journal.toList ++ entries ∧
    (∀ entry ∈ gone, firstVerdict? seat.channel entries entry.1.tag = some entry.2) ∧
    ∀ entry ∈ back, firstVerdict? seat.channel entries entry.tag = none
  deadLetters : (∀ entry ∈ gone, entry.1.queue ∈ b.queues.keys) →
    b'.deadLetters.toList = b.deadLetters.toList ++ rejectedOf gone

variable {seat : Seat} {b b₁ b₂ : Broker} {record : ChannelRecord}

theorem Clears.owns {gone : List (Unacked × Verdict)} {back more : List Unacked}
    (clears : seat.Clears b record b₁ gone back more) (owns : seat.Owns b) : seat.Owns b₁ :=
  fun tag consumer found => owns tag consumer (clears.consumers tag consumer found)

/-- Deliveries leave the front, and then others behind them. -/
theorem Clears.trans {first second : List (Unacked × Verdict)} {back more more' : List Unacked}
    (before : seat.Clears b record b₁ first (second.map (·.1) ++ back) more)
    (after : seat.Clears b₁ ((record.leave (second.map (·.1) ++ back)).extend more) b₂ second
      (back ++ more) more') :
    seat.Clears b record b₂ (first ++ second) back (more ++ more') := by
  obtain ⟨entries, journal, verdicts, others⟩ := before.journal
  obtain ⟨entries', journal', verdicts', others'⟩ := after.journal
  refine ⟨?_, ?_, fun tidy => after.tidy (before.tidy tidy),
    fun tag consumer found => before.consumers tag consumer (after.consumers tag consumer found),
    after.queueKeys.trans before.queueKeys, ⟨entries ++ entries', ?_, ?_, ?_⟩, fun present => ?_⟩
  · rw [before.split, List.map_append, List.append_assoc]
  · refine before.reaches.trans_of after.reaches rfl rfl ?_
    simp [ChannelRecord.leave, ChannelRecord.extend, Nat.add_assoc]
  · rw [journal', journal, List.append_assoc]
  · intro entry member
    rw [firstVerdict?_append]
    rcases List.mem_append.mp member with early | late
    · rw [verdicts entry early, Option.some_or]
    · rw [others entry.1 (List.mem_append_left _ (List.mem_map_of_mem late)), Option.none_or]
      exact verdicts' entry late
  · intro entry member
    rw [firstVerdict?_append, others entry (List.mem_append_right _ member), Option.none_or]
    exact others' entry (List.mem_append_left _ member)
  · rw [after.deadLetters fun entry member => before.queueKeys ▸
        present entry (List.mem_append_right _ member),
      before.deadLetters fun entry member => present entry (List.mem_append_left _ member),
      rejectedOf_append, List.append_assoc]

/-- The front and the back of a channel under a settlement that covers exactly the front. -/
theorem filter_of_covers {settlement : Settlement} {front back : List Unacked}
    (covered : ∀ entry ∈ front, settlement.covers entry.tag = true)
    (spared : ∀ entry ∈ back, settlement.covers entry.tag = false) :
    ((front ++ back).filter fun entry => settlement.covers entry.tag) = front ∧
      ((front ++ back).filter fun entry => !settlement.covers entry.tag) = back := by
  rw [List.filter_append, List.filter_append]
  constructor
  · rw [List.filter_eq_self.mpr covered, List.filter_eq_nil_iff.mpr fun entry member => by
      simp [spared entry member], List.append_nil]
  · rw [List.filter_eq_nil_iff.mpr fun entry member => by simp [covered entry member],
      List.filter_eq_self.mpr fun entry member => by simp [spared entry member], List.nil_append]

/-- A broker in which nothing has changed but the journal and what waits on the channel for a
commit. -/
structure Enters (seat : Seat) (b : Broker) (record : ChannelRecord) (b' : Broker)
    (record' : ChannelRecord) (entries : List JournalEntry) : Prop where
  opened : b'.openChannel? seat.channel = some record'
  unacked : record'.unacked = record.unacked
  tidy : b.Tidy → b'.Tidy
  rest : ∀ back, record'.leave back = { record with unacked := back, pending := record'.pending }
  consumers : b'.consumers = b.consumers
  queues : b'.queues = b.queues
  deadLetters : b'.deadLetters = b.deadLetters
  notices : b'.notices = b.notices
  journal : b'.journal.toList = b.journal.toList ++ entries

/-- **A verdict that is carried out, and the dispatch after it**: what is covered leaves, and the
channel may get more. -/
theorem settle_clears (owns : seat.Owns b) {settlement : Settlement} {record' : ChannelRecord}
    {entries : List JournalEntry} (enters : seat.Enters b record b₁ record' entries)
    (pending : record'.pending = record.pending)
    (verdicts : ∀ tag, firstVerdict? seat.channel entries tag =
      if settlement.covers tag then some settlement.verdict else none)
    {front back : List Unacked} (split : record.unacked = front ++ back)
    (covered : ∀ entry ∈ front, settlement.covers entry.tag = true)
    (spared : ∀ entry ∈ back, settlement.covers entry.tag = false) :
    ∃ more, seat.Clears b record (b₁.settle seat.channel settlement).dispatchAll
      (front.map (·, settlement.verdict)) back more := by
  have found := get?_of_openChannel? enters.opened
  have split' : record'.unacked = front ++ back := enters.unacked.trans split
  obtain ⟨chosen, left⟩ := filter_of_covers covered spared
  obtain ⟨keys, dead⟩ := settle_frame found settlement
  obtain ⟨_, _, _, settled⟩ := settle_eq found settlement
  have reached : (b₁.settle seat.channel settlement).openChannel? seat.channel =
      some (record.leave back) := by
    rw [openChannel?_settle enters.opened, ChannelRecord.without, split', left]
    exact congrArg some ((enters.rest back).trans (by rw [pending]; rfl))
  have consumers : (b₁.settle seat.channel settlement).consumers = b.consumers := by
    rw [settled, ← enters.consumers]
  have journal : (b₁.settle seat.channel settlement).journal = b₁.journal := by rw [settled]
  have told : (b₁.settle seat.channel settlement).deliveriesFor seat.subscriber =
      b.deliveriesFor seat.subscriber := by
    rw [settled]
    unfold deliveriesFor
    rw [enters.notices]
  have owns' : seat.Owns (b₁.settle seat.channel settlement) :=
    fun tag consumer found => owns tag consumer (consumers ▸ found)
  have grown := dispatchAll_grows owns'
  obtain ⟨more, reaches⟩ := grown.reaches _ reached
  obtain ⟨journal', dead', keys'⟩ := dispatchAll_frame (b₁.settle seat.channel settlement)
  refine ⟨more, ?_, ⟨reaches.opened, reaches.numbered, told ▸ reaches.told⟩, fun tidy => ?_,
    fun tag consumer found => consumers ▸ grown.consumers tag consumer found,
    by rw [keys', keys, enters.queues], ⟨entries, by rw [journal', journal, enters.journal], ?_, ?_⟩,
    fun present => ?_⟩
  · rw [List.map_map, split]
    exact congrArg (· ++ back) (List.map_id front).symm
  · have moved : Moves (fun _ => True) b₁ 0 (b₁.settle seat.channel settlement) 0 :=
      settle_moves (enters.tidy tidy) enters.opened settlement fun _ _ _ _ => trivial
    have tidy' := moved.tidy (enters.tidy tidy)
    have moved' : Moves (fun _ => True) _ 0 (b₁.settle seat.channel settlement).dispatchAll 0 :=
      dispatchAll_moves tidy' fun _ _ _ _ _ => trivial
    exact moved'.tidy tidy'
  · intro entry member
    obtain ⟨listed, isFront, rfl⟩ := List.mem_map.mp member
    rw [verdicts, if_pos (covered listed isFront)]
  · intro entry member
    rw [verdicts, if_neg (by rw [spared entry member]; exact Bool.false_ne_true)]
  · rw [dead', dead, enters.deadLetters, split', chosen]
    intro entry member isCovered
    rw [split'] at member
    rcases List.mem_append.mp member with isFront | isBack
    · rw [enters.queues]
      exact present (entry, settlement.verdict) (List.mem_map_of_mem isFront)
    · rw [spared entry isBack] at isCovered
      exact absurd isCovered Bool.false_ne_true

/-! ### The operations of the owner -/

/-- A settlement of which something is unsettled is not refused. -/
theorem any_covered {settlement : Settlement} {front back : List Unacked}
    (split : record.unacked = front ++ back) (nonempty : front ≠ [])
    (covered : ∀ entry ∈ front, settlement.covers entry.tag = true) :
    (record.unacked.any fun entry => settlement.covers entry.tag) = true := by
  obtain ⟨entry, rest, rfl⟩ := List.exists_cons_of_ne_nil nonempty
  refine List.any_eq_true.mpr ⟨entry, ?_, covered entry List.mem_cons_self⟩
  rw [split]
  exact List.mem_append_left _ List.mem_cons_self

section Owner

variable {settlement : Settlement} {front back : List Unacked}

/-- **A settlement on a plain channel is carried out at once.** -/
theorem acknowledge_clears (owns : seat.Owns b)
    (opened : b.openChannel? seat.channel = some record) (plain : record.transactional = false)
    (split : record.unacked = front ++ back) (nonempty : front ≠ [])
    (covered : ∀ entry ∈ front, settlement.covers entry.tag = true)
    (spared : ∀ entry ∈ back, settlement.covers entry.tag = false) :
    ∃ b' more, b.acknowledge seat.channel settlement = (.ok (), b') ∧
      seat.Clears b record b' (front.map (·, settlement.verdict)) back more := by
  have enters : seat.Enters b record (b.record seat.channel (.settle settlement)) record
      [⟨seat.channel, .settle settlement⟩] :=
    ⟨opened, rfl, fun tidy => tidy.record _ _, fun _ => rfl, rfl, rfl, rfl, rfl, Array.toList_push⟩
  obtain ⟨more, clears⟩ := settle_clears owns enters rfl
    (firstVerdict?_settle seat.channel settlement) split covered spared
  refine ⟨_, more, ?_, clears⟩
  unfold acknowledge
  rw [opened]
  dsimp only
  rw [if_pos (any_covered split nonempty covered), if_neg (by rw [plain]; exact Bool.false_ne_true)]

/-- **A settlement on a transactional channel waits for the commit**, which carries it out. -/
theorem commit_clears (owns : seat.Owns b)
    (opened : b.openChannel? seat.channel = some record) (transacted : record.transactional = true)
    (clean : record.pending = []) (split : record.unacked = front ++ back) (nonempty : front ≠ [])
    (covered : ∀ entry ∈ front, settlement.covers entry.tag = true)
    (spared : ∀ entry ∈ back, settlement.covers entry.tag = false) :
    ∃ b₁ b₂ more, b.acknowledge seat.channel settlement = (.ok (), b₁) ∧
      b₁.commit seat.channel = (.ok (), b₂) ∧
      seat.Clears b record b₂ (front.map (·, settlement.verdict)) back more := by
  have isOpen : record.isOpen = true := isOpen_of_openChannel? opened
  have noted : (b.record seat.channel (.settle settlement)).openChannel? seat.channel =
      some record := opened
  have waits : (b.submit seat.channel settlement).openChannel? seat.channel =
      some { record with pending := record.pending ++ [settlement] } :=
    openChannel?_updateChannel noted _ isOpen
  have cleared : ((b.submit seat.channel settlement).clearPending seat.channel .commit).openChannel?
      seat.channel = some { record with pending := [] } :=
    openChannel?_updateChannel waits (fun record => { record with pending := [] }) isOpen
  have enters : seat.Enters b record
      ((b.submit seat.channel settlement).clearPending seat.channel .commit)
      { record with pending := [] }
      ([⟨seat.channel, .settle settlement⟩] ++ [⟨seat.channel, .commit⟩]) := by
    refine ⟨cleared, rfl, fun tidy => (tidy.submit _ _).clearPending _ _, fun _ => rfl,
      rfl, rfl, rfl, rfl, ?_⟩
    simp [clearPending, submit, Broker.record, updateChannel]
  have verdicts : ∀ tag, firstVerdict? seat.channel
      ([⟨seat.channel, .settle settlement⟩] ++ [⟨seat.channel, .commit⟩]) tag =
      if settlement.covers tag then some settlement.verdict else none := by
    intro tag
    rw [firstVerdict?_append, firstVerdict?_settle]
    exact Option.or_none
  obtain ⟨more, clears⟩ := settle_clears owns enters clean.symm verdicts split covered spared
  refine ⟨b.submit seat.channel settlement, _, more, ?_, ?_, clears⟩
  · unfold acknowledge
    rw [opened]
    dsimp only
    rw [if_pos (any_covered split nonempty covered), if_pos transacted]
    rfl
  · unfold commit
    rw [waits]
    dsimp only
    rw [if_pos transacted, clean]
    rfl

/-- **A rollback only forgets what waits for the commit.** -/
theorem rollback_clears (opened : b.openChannel? seat.channel = some record)
    (transacted : record.transactional = true) (clean : record.pending = []) :
    ∃ b', b.rollback seat.channel = (.ok (), b') ∧
      seat.Clears b record b' [] record.unacked [] := by
  have isOpen : record.isOpen = true := isOpen_of_openChannel? opened
  have kept : { record with pending := [] } = record := by rw [← clean]
  have cleared : (b.clearPending seat.channel .rollback).openChannel? seat.channel =
      some { record with pending := [] } :=
    openChannel?_updateChannel opened (fun record => { record with pending := [] }) isOpen
  have reaches : seat.Reaches b (record.leave record.unacked)
      (b.clearPending seat.channel .rollback) [] := by
    refine ⟨?_, rfl, [], (List.append_nil _).symm, rfl⟩
    rw [ChannelRecord.extend_nil]
    exact cleared.trans (congrArg some kept)
  refine ⟨b.clearPending seat.channel .rollback, ?_, rfl, reaches,
    fun tidy => tidy.clearPending _ _, fun _ _ found => found, rfl,
    ⟨[⟨seat.channel, .rollback⟩], Array.toList_push, nofun, fun _ _ => rfl⟩,
    fun _ => (List.append_nil _).symm⟩
  unfold rollback
  rw [opened]
  dsimp only
  rw [if_pos transacted]
  rfl

/-- **A poll gives at most one message**, which is then the last unsettled delivery. -/
theorem get_extends (opened : b.openChannel? seat.channel = some record) {queue : String}
    {delivery? : Option Delivery} {b' : Broker}
    (got : b.get seat.channel queue false = (.ok delivery?, b')) :
    ∃ more, b'.openChannel? seat.channel = some (record.extend more) ∧
      more.map (·.tag) = List.range' (record.lastTag + 1) more.length ∧
      delivery?.toList.map (·.tag) = more.map (·.tag) ∧ b'.consumers = b.consumers ∧
      b'.notices = b.notices := by
  have isOpen : record.isOpen = true := isOpen_of_openChannel? opened
  rcases b.get_cases seat.channel queue false with
    ⟨_, refused⟩ | ⟨_, refused⟩ | nothing | ⟨now, _, message, rest, opened', -, -, handed⟩
  · rw [refused] at got
    cases got
  · rw [refused] at got
    cases got
  · rw [nothing] at got
    cases got
    exact ⟨[], by rw [ChannelRecord.extend_nil, opened], rfl, rfl, rfl, rfl⟩
  · obtain rfl : record = now := Option.some.inj (opened.symm.trans opened')
    rw [handed] at got
    cases got
    exact ⟨[⟨record.lastTag + 1, queue, message⟩], openChannel?_updateChannel
      (b := b.updateQueue queue fun record => { record with ready := rest }) opened
      (·.receive (record.lastTag + 1) queue false message) isOpen, rfl, rfl, rfl, rfl⟩

end Owner

end Seat

end QueueListener
