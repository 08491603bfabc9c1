import QueueListener.Proofs.Broker.Courses
/-!
# Channels along a course

**Four things happen to a channel**: it takes its turn, it gets another bound, it receives a
delivery, or it shuts. From this follow what the books of a channel say at all times, and that the
deliveries of a channel are numbered without a gap.

* `ChannelRecord.Goes` — the four things, with the tags that are delivered;
* `ChannelRecord.Sound` — a closed channel has nothing left, settlements wait only on a
  transactional channel, and the tags of what is unsettled ascend from one up to the last tag;
* `Numbered` — the deliveries on a channel from one broker to another take the next tags.
-/

namespace QueueListener

/-- What happens to a channel, with the tags that are delivered there. -/
inductive ChannelRecord.Goes (record : ChannelRecord) : List Nat → ChannelRecord → Prop
  | turns {record' : ChannelRecord} (turned : record.Turns record') : Goes record [] record'
  | bounds (prefetch : Nat) : Goes record [] { record with prefetch }
  | receives (queue : String) (autoAck : Bool) (message : Message) (opened : record.isOpen = true) :
      Goes record [record.lastTag + 1] (record.receive (record.lastTag + 1) queue autoAck message)
  | shuts : Goes record [] record.shut

/-- The books of a channel. -/
structure ChannelRecord.Sound (record : ChannelRecord) : Prop where
  closed : record.isOpen = false → record.unacked = [] ∧ record.pending = []
  pending : record.pending ≠ [] → record.transactional = true
  /-- No two unsettled deliveries have one tag. -/
  ascending : (record.unacked.map (·.tag)).Pairwise (· < ·)
  bounded : ∀ entry ∈ record.unacked, 1 ≤ entry.tag ∧ entry.tag ≤ record.lastTag

namespace ChannelRecord

variable {record record' : ChannelRecord} {tags : List Nat}

theorem Turns.sound (turned : record.Turns record') (sound : record.Sound) : record'.Sound := by
  refine ⟨fun closed => ?_, fun waiting => ?_, ?_, fun entry member => ?_⟩
  · have before : record.isOpen = false := turned.isOpen ▸ closed
    obtain ⟨settled, nothing⟩ := sound.closed before
    refine ⟨List.sublist_nil.mp (settled ▸ turned.unacked), ?_⟩
    rcases turned.pending with fewer | ⟨opened, -⟩
    · exact List.subset_nil.mp (nothing ▸ fewer)
    · rw [before] at opened
      cases opened
  · rw [turned.transactional]
    rcases turned.pending with fewer | ⟨-, transactional⟩
    · exact sound.pending fun nothing => waiting (List.subset_nil.mp (nothing ▸ fewer))
    · exact transactional
  · exact sound.ascending.sublist (turned.unacked.map _)
  · rw [turned.lastTag]
    exact sound.bounded entry (turned.unacked.subset member)

theorem sound_receive (sound : record.Sound) (opened : record.isOpen = true) (queue : String)
    (autoAck : Bool) (message : Message) :
    (record.receive (record.lastTag + 1) queue autoAck message).Sound := by
  have still : (record.receive (record.lastTag + 1) queue autoAck message).isOpen = true := opened
  refine ⟨fun closed => ?_, sound.pending, ?_, fun entry member => ?_⟩
  · rw [still] at closed
    cases closed
  · cases autoAck with
    | true => exact sound.ascending
    | false =>
      show ((record.unacked ++ [(⟨record.lastTag + 1, queue, message⟩ : Unacked)]).map
        (·.tag)).Pairwise (· < ·)
      rw [List.map_append, List.pairwise_append]
      refine ⟨sound.ascending, List.pairwise_singleton _ _, fun tag listed last newest => ?_⟩
      obtain ⟨entry, member, rfl⟩ := List.mem_map.mp listed
      rw [List.map_singleton, List.mem_singleton] at newest
      rw [newest]
      exact Nat.lt_succ_of_le (sound.bounded entry member).2
  · have last : (record.receive (record.lastTag + 1) queue autoAck message).lastTag =
        record.lastTag + 1 := rfl
    rw [last]
    have old : ∀ entry ∈ record.unacked, 1 ≤ entry.tag ∧ entry.tag ≤ record.lastTag + 1 :=
      fun entry member => ⟨(sound.bounded entry member).1,
        Nat.le_succ_of_le (sound.bounded entry member).2⟩
    cases autoAck with
    | true => exact old entry member
    | false =>
      rcases List.mem_append.mp member with before | newest
      · exact old entry before
      · rw [List.mem_singleton.mp newest]
        exact ⟨Nat.le_add_left 1 _, le_rfl⟩

theorem sound_shut (record : ChannelRecord) : record.shut.Sound :=
  ⟨fun _ => ⟨rfl, rfl⟩, fun waiting => absurd rfl waiting, List.Pairwise.nil,
    fun _ member => absurd member List.not_mem_nil⟩

namespace Goes

theorem sound (went : record.Goes tags record') (sound : record.Sound) : record'.Sound := by
  cases went with
  | turns turned => exact turned.sound sound
  | bounds => exact ⟨sound.closed, sound.pending, sound.ascending, sound.bounded⟩
  | receives queue autoAck message opened => exact sound_receive sound opened queue autoAck message
  | shuts => exact record.sound_shut

theorem connection (went : record.Goes tags record') : record'.connection = record.connection := by
  cases went with
  | turns turned => exact turned.connection
  | bounds => rfl
  | receives => rfl
  | shuts => rfl

/-- A channel does not open again. -/
theorem isOpen (went : record.Goes tags record') (opened : record'.isOpen = true) :
    record.isOpen = true := by
  cases went with
  | turns turned => exact turned.isOpen ▸ opened
  | bounds => exact opened
  | receives queue autoAck message isOpen => exact isOpen
  | shuts => cases opened

/-- The deliveries on the channel take the next tags. -/
theorem tags_eq (went : record.Goes tags record') :
    tags = List.range' (record.lastTag + 1) tags.length ∧
      record'.lastTag = record.lastTag + tags.length := by
  cases went with
  | turns turned => exact ⟨rfl, turned.lastTag⟩
  | bounds => exact ⟨rfl, rfl⟩
  | receives => exact ⟨rfl, rfl⟩
  | shuts => exact ⟨rfl, rfl⟩

end Goes

end ChannelRecord

namespace Broker

/-- The push with its channel. -/
def Pushing.addressed (pushing : Pushing) : Nat × Delivery :=
  (pushing.consumer.channel, pushing.delivery)

/-- The tags of the deliveries on a channel. -/
def numbersOn (channel : Nat) (deliveries : List (Nat × Delivery)) : List Nat :=
  (deliveries.filter (·.1 = channel)).map (·.2.tag)

theorem numbersOn_append (channel : Nat) (first second : List (Nat × Delivery)) :
    numbersOn channel (first ++ second) = numbersOn channel first ++ numbersOn channel second := by
  rw [numbersOn, List.filter_append, List.map_append]
  rfl

theorem numbersOn_singleton (channel other : Nat) (delivery : Delivery) :
    numbersOn channel [(other, delivery)] = if other = channel then [delivery.tag] else [] := by
  by_cases same : other = channel <;> simp [numbersOn, same]

/-- A channel from one broker to another: there is none, or it goes its way. -/
inductive Follows (b : Broker) (channel : Nat) (tags : List Nat) (b' : Broker) : Prop
  | absent (before : b.channels.get? channel = none) (after : b'.channels.get? channel = none)
      (silent : tags = [])
  | present {record record' : ChannelRecord} (before : b.channels.get? channel = some record)
      (after : b'.channels.get? channel = some record') (went : record.Goes tags record')

namespace Follows

variable {b b' : Broker} {channel : Nat}

theorem of_same (same : b'.channels.get? channel = b.channels.get? channel) :
    Follows b channel [] b' := by
  cases found : b.channels.get? channel with
  | none => exact .absent found (same.trans found) rfl
  | some record => exact .present found (same.trans found) (.turns (.refl record))

/-- A delivery goes to one channel. -/
theorem of_receive {other : Nat} {record : ChannelRecord}
    (opened : b.openChannel? other = some record) (queue : String) (autoAck : Bool)
    (message : Message)
    (changed : b'.channels = b.channels.modify other
      (·.receive (record.lastTag + 1) queue autoAck message)) :
    Follows b channel (if other = channel then [record.lastTag + 1] else []) b' := by
  have found := get?_of_openChannel? opened
  by_cases same : other = channel
  · subst same
    rw [if_pos rfl]
    refine .present found ?_ (.receives queue autoAck message (isOpen_of_openChannel? opened))
    rw [changed, Table.get?_modify_self, found, Option.map_some]
  · rw [if_neg same]
    refine of_same ?_
    rw [changed, Table.get?_modify_of_ne _ _ fun equal => same equal.symm]

/-- What happens to one channel does not touch the others. -/
theorem of_update (other : Nat) (f : ChannelRecord → ChannelRecord)
    (goes : ∀ record : ChannelRecord, record.Goes [] (f record)) :
    Follows b channel [] (b.updateChannel other f) := by
  by_cases same : channel = other
  · subst same
    have changed : (b.updateChannel channel f).channels.get? channel = _ :=
      Table.get?_modify_self b.channels channel f
    cases found : b.channels.get? channel with
    | none => exact .absent found (by rw [changed, found, Option.map_none]) rfl
    | some record => exact .present found (by rw [changed, found, Option.map_some]) (goes record)
  · exact of_same (Table.get?_modify_of_ne b.channels f same)

/-- A channel whose books are sound keeps them so. -/
theorem sound {tags : List Nat} (follows : Follows b channel tags b')
    (sound : ∀ record, b.channels.get? channel = some record → record.Sound) :
    ∀ record, b'.channels.get? channel = some record → record.Sound := by
  intro record' found
  cases follows with
  | absent _ missing =>
    rw [found] at missing
    cases missing
  | present before after went =>
    obtain rfl := Option.some.inj (found.symm.trans after)
    exact went.sound (sound _ before)

end Follows

/-- **What one change does to a channel.** -/
theorem Change.follows {losing : Nat → Prop} {b b' : Broker} {log : List Pushing}
    (change : Change losing b log b') (channel : Nat) :
    Follows b channel (numbersOn channel (log.map Pushing.addressed)) b' := by
  cases change with
  | push push =>
    have tags : numbersOn channel ([push.pushing].map Pushing.addressed) =
        if push.consumer.channel = channel then [push.channel.lastTag + 1] else [] :=
      numbersOn_singleton _ _ _
    rw [tags]
    exact .of_receive push.opened _ _ _ rfl
  | turn turned =>
    have related := turned.channels channel
    cases before : b.channels.get? channel with
    | none =>
      cases after : b'.channels.get? channel with
      | none => exact .absent before after rfl
      | some record =>
        rw [before, after] at related
        cases related
    | some record =>
      cases after : b'.channels.get? channel with
      | none =>
        rw [before, after] at related
        cases related
      | some record' =>
        rw [before, after] at related
        cases related with
        | some turns => exact .present before after (.turns turns)
  | leave registered silent =>
    refine .of_same ?_
    unfold unregister
    rw [registered]
    rfl
  | shut closed left => exact .of_update closed ChannelRecord.shut fun _ => .shuts
  | drop found => exact .of_same (by rw [(delete_dismisses found).channels])
  | lose lost => exact .of_same rfl

/-! ### Numbers -/

/-- The last tag that was given on a channel. -/
def lastTagOf (b : Broker) (channel : Nat) : Nat :=
  match b.channels.get? channel with
  | some record => record.lastTag
  | none => 0

theorem lastTagOf_of_get? {b : Broker} {channel : Nat} {record : ChannelRecord}
    (found : b.channels.get? channel = some record) : b.lastTagOf channel = record.lastTag := by
  rw [lastTagOf, found]

theorem lastTagOf_of_none {b : Broker} {channel : Nat} (missing : b.channels.get? channel = none) :
    b.lastTagOf channel = 0 := by
  rw [lastTagOf, missing]

/-- The tags that are given on a channel from one broker to another are the next ones. -/
structure Numbered (channel : Nat) (b : Broker) (tags : List Nat) (b' : Broker) : Prop where
  next : tags = List.range' (b.lastTagOf channel + 1) tags.length
  lastTag : b'.lastTagOf channel = b.lastTagOf channel + tags.length

namespace Numbered

variable {channel : Nat} {b b₁ b₂ : Broker} {first second : List Nat}

theorem refl (b : Broker) : Numbered channel b [] b := ⟨rfl, rfl⟩

theorem trans (before : Numbered channel b first b₁) (after : Numbered channel b₁ second b₂) :
    Numbered channel b (first ++ second) b₂ := by
  refine ⟨?_, ?_⟩
  · calc first ++ second
        = List.range' (b.lastTagOf channel + 1) first.length ++
          List.range' (b.lastTagOf channel + 1 + first.length) second.length := by
          have start : b₁.lastTagOf channel + 1 = b.lastTagOf channel + 1 + first.length := by
            rw [before.lastTag]
            omega
          rw [← before.next, ← start, ← after.next]
      _ = List.range' (b.lastTagOf channel + 1) (first ++ second).length := by
          rw [List.length_append, ← List.range'_append_1]
  · rw [after.lastTag, before.lastTag, List.length_append, Nat.add_assoc]

/-- A channel that changes nothing but its settlements keeps its numbers. -/
theorem of_same (same : b₁.lastTagOf channel = b.lastTagOf channel) : Numbered channel b [] b₁ :=
  ⟨rfl, same⟩

theorem of_follows {tags : List Nat} (follows : Follows b channel tags b₁) :
    Numbered channel b tags b₁ := by
  cases follows with
  | absent before after silent =>
    rw [silent]
    exact of_same (by rw [lastTagOf_of_none after, lastTagOf_of_none before])
  | present before after went =>
    obtain ⟨tags, lastTag⟩ := went.tags_eq
    rw [← lastTagOf_of_get? before] at tags lastTag
    rw [← lastTagOf_of_get? after] at lastTag
    exact ⟨tags, lastTag⟩

end Numbered

/-- **A course gives the next tags on every channel.** -/
theorem Course.numbered {losing : Nat → Prop} {b b' : Broker} {log : List Pushing}
    (course : Course losing b log b') (channel : Nat) :
    Numbered channel b (numbersOn channel (log.map Pushing.addressed)) b' := by
  induction course with
  | refl => exact .refl b
  | step _ change ih =>
    rw [List.map_append, numbersOn_append]
    exact ih.trans (.of_follows (change.follows channel))

/-! ### Openings -/

/-- A new channel has a sound record without deliveries, and its connection is open. -/
structure Begins (b : Broker) (channel : Nat) (tags : List Nat) (b₁ : Broker) : Prop where
  fresh : b.channels.get? channel = none
  silent : tags = []
  made : ∃ record, b₁.channels.get? channel = some record ∧ record.Sound ∧ record.lastTag = 0 ∧
    b.connectionOpen record.connection = true

/-- **What an opening does to a channel**: it begins, or it goes its way. -/
theorem Opening.follows {b b₁ : Broker} {taken : List (Nat × Delivery)}
    (opening : Opening b taken b₁) (tidy : b.Tidy) (channel : Nat) :
    Begins b channel (numbersOn channel taken) b₁ ∨
      Follows b channel (numbersOn channel taken) b₁ := by
  cases opening with
  | nothing => exact .inr (.of_same rfl)
  | queue fresh => exact .inr (.of_same rfl)
  | connection attempts => exact .inr (.of_same rfl)
  | consumer generated opened present fresh => exact .inr (.of_same rfl)
  | bound other prefetch => exact .inr (.of_update other _ fun _ => .bounds prefetch)
  | @channel connection number transactional opened =>
    have made := Table.get?_set b.channels (b.lastId + 1) channel
      { connection, number := number.toNat, isOpen := true, transactional }
    by_cases new : channel = b.lastId + 1
    · have fresh : b.channels.get? channel = none := by
        refine Table.get?_eq_none_iff.mpr fun member => ?_
        have numbered := tidy.numbered channel member
        omega
      rw [if_pos new] at made
      exact .inl ⟨fresh, rfl, _, made, ⟨fun closed => (by cases closed),
        fun waiting => absurd rfl waiting, List.Pairwise.nil,
        fun _ member => absurd member List.not_mem_nil⟩, rfl, opened⟩
    · rw [if_neg new] at made
      exact .inr (.of_same made)
  | @delivery other queue record waiting message rest autoAck opened found first =>
    rw [numbersOn_singleton]
    exact .inr (.of_receive opened queue autoAck message rfl)

theorem Opening.numbered {b b₁ : Broker} {taken : List (Nat × Delivery)}
    (opening : Opening b taken b₁) (tidy : b.Tidy) (channel : Nat) :
    Numbered channel b (numbersOn channel taken) b₁ := by
  rcases opening.follows tidy channel with begins | follows
  · obtain ⟨record, made, -, zero, -⟩ := begins.made
    rw [begins.silent]
    exact .of_same (by rw [lastTagOf_of_get? made, lastTagOf_of_none begins.fresh, zero])
  · exact .of_follows follows

end Broker

end QueueListener
