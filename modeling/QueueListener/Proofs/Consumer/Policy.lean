import QueueListener.Proofs.Consumer.Desk
/-!
# The policy at the desk

**Every delivery that is settled leaves the channel together with the batch before it, or joins the
batch**: the deliveries that are unsettled and processed are always exactly the batch.

* `disposal` — what the policy makes of a batch and a delivery: the deliveries that leave, each with
  its verdict, and the new batch;
* `Seat.Keeps` — the unsettled deliveries of a channel are the batch and those that nobody has
  processed;
* `settle_clears_disposal` — settling does what `disposal` says, and is not refused;
* `flush_clears` — flushing acknowledges the batch, and is not refused.
-/

namespace QueueListener

/-- The verdict that an outcome asks for. -/
def Outcome.verdict : Outcome → Verdict
  | .success => .ack
  | .failure requeue _ => .nack requeue
  | .stopping => .nack true

/-- What becomes of a batch and a delivery that is rejected: on a plain channel the batch is
acknowledged first, on a transactional one all get the same verdict. -/
def rejection {α : Type} (transacted : Bool) (batch : List α) (entry : α) (requeue : Bool) :
    List (α × Verdict) :=
  if transacted then (batch ++ [entry]).map (·, .nack requeue)
  else batch.map (·, .ack) ++ [(entry, .nack requeue)]

/-- What becomes of a batch and a delivery: those that leave, with their verdicts, and the new
batch. -/
def disposal {α : Type} (settings : Settings) (batch : List α) (entry : α) :
    Outcome → List (α × Verdict) × List α
  | .success =>
    if batch.length + 1 < max settings.batchSize 1 then ([], batch ++ [entry])
    else ((batch ++ [entry]).map (·, .ack), [])
  | .failure requeue _ => (rejection settings.transacted batch entry requeue, [])
  | .stopping => (rejection settings.transacted batch entry true, [])

/-- A delivery that is rejected leaves together with the batch. -/
theorem rejection_split {α : Type} (transacted : Bool) (batch : List α) (entry : α)
    (requeue : Bool) : (rejection transacted batch entry requeue).map (·.1) = batch ++ [entry] := by
  have forget : ∀ (entries : List α) (verdict : Verdict),
      (entries.map (·, verdict)).map (·.1) = entries := by
    intro entries verdict
    rw [List.map_map]
    exact List.map_id entries
  unfold rejection
  split
  next => exact forget _ _
  next =>
    rw [List.map_append, forget]
    rfl

/-- **A delivery joins the batch, or it leaves together with the batch.** -/
theorem disposal_cases {α : Type} (settings : Settings) (batch : List α) (entry : α)
    (outcome : Outcome) :
    (outcome = .success ∧ disposal settings batch entry outcome = ([], batch ++ [entry])) ∨
      (disposal settings batch entry outcome).2 = [] ∧
        (disposal settings batch entry outcome).1.map (·.1) = batch ++ [entry] := by
  cases outcome with
  | success =>
    unfold disposal
    dsimp only
    split
    next => exact .inl ⟨rfl, rfl⟩
    next =>
      refine .inr ⟨rfl, ?_⟩
      rw [List.map_map]
      exact List.map_id _
  | failure requeue _ => exact .inr ⟨rfl, rejection_split _ _ _ _⟩
  | stopping => exact .inr ⟨rfl, rejection_split _ _ _ _⟩

/-- On a plain channel everything that leaves gets the verdict that its outcome asks for. -/
theorem disposal_plain {α : Type} {settings : Settings} (plain : settings.transacted = false)
    {batch : List α} {entry : α} {outcome : Outcome}
    (leaves : (disposal settings batch entry outcome).2 = []) :
    (disposal settings batch entry outcome).1 =
      batch.map (·, .ack) ++ [(entry, outcome.verdict)] := by
  have rejected : ∀ requeue, rejection settings.transacted batch entry requeue =
      batch.map (·, .ack) ++ [(entry, .nack requeue)] := by
    intro requeue
    rw [rejection, plain, if_neg Bool.false_ne_true]
  cases outcome with
  | success =>
    unfold disposal at leaves ⊢
    dsimp only at leaves ⊢
    split at leaves
    next => exact absurd leaves (List.concat_ne_nil _ _)
    next full => rw [if_neg full, List.map_append, List.map_singleton, Outcome.verdict]
  | failure requeue _ => exact rejected requeue
  | stopping => exact rejected true

/-- The batch stays below its size. -/
theorem disposal_length {α : Type} (settings : Settings) (batch : List α) (entry : α)
    (outcome : Outcome) :
    (disposal settings batch entry outcome).2.length < max settings.batchSize 1 := by
  have positive : 0 < max settings.batchSize 1 := Nat.lt_of_lt_of_le Nat.one_pos (le_max_right _ _)
  cases outcome with
  | success =>
    unfold disposal
    dsimp only
    split
    next below =>
      rw [List.length_append]
      exact below
    next => exact positive
  | failure => exact positive
  | stopping => exact positive

/-- The unsettled deliveries have ascending tags up to the last one. -/
structure ChannelRecord.Ordered (record : ChannelRecord) : Prop where
  ascending : (record.unacked.map (·.tag)).Pairwise (· < ·)
  bounded : ∀ entry ∈ record.unacked, entry.tag ≤ record.lastTag

/-- Numbers that go on behind the last one ascend. -/
theorem pairwise_append_range' {tags : List Nat} {last : Nat} (ascending : tags.Pairwise (· < ·))
    (bounded : ∀ tag ∈ tags, tag ≤ last) (count : Nat) :
    (tags ++ List.range' (last + 1) count).Pairwise (· < ·) := by
  refine List.pairwise_append.mpr ⟨ascending, List.pairwise_lt_range', ?_⟩
  intro tag old new added
  rw [List.mem_range'_1] at added
  exact Nat.lt_of_lt_of_le (Nat.lt_succ_of_le (bounded tag old)) added.1

/-- Deliveries that leave, and new ones that get the next tags, keep the order. -/
theorem ChannelRecord.Ordered.extend {record : ChannelRecord} (ordered : record.Ordered)
    {back more : List Unacked} (kept : back.Sublist record.unacked)
    (numbered : more.map (·.tag) = List.range' (record.lastTag + 1) more.length) :
    ((record.leave back).extend more).Ordered := by
  have old : ∀ tag ∈ back.map (·.tag), tag ≤ record.lastTag := by
    intro tag member
    obtain ⟨entry, listed, rfl⟩ := List.mem_map.mp member
    exact ordered.bounded entry (kept.subset listed)
  constructor
  · show ((back ++ more).map (·.tag)).Pairwise (· < ·)
    rw [List.map_append, numbered]
    exact pairwise_append_range' (ordered.ascending.sublist (kept.map _)) old _
  · intro entry member
    show entry.tag ≤ record.lastTag + more.length
    rcases List.mem_append.mp member with before | new
    · exact Nat.le_add_right_of_le (old entry.tag (List.mem_map_of_mem before))
    · have listed : entry.tag ∈ more.map (·.tag) := List.mem_map_of_mem new
      rw [numbered, List.mem_range'_1] at listed
      omega

/-- **Of what is unsettled, a settlement up to a delivery covers it and those before it.** Without
others before it, it may be a settlement of the one delivery. -/
theorem covers_iff {front back : List Nat} {last : Nat} {multiple : Bool}
    (ascending : (front ++ last :: back).Pairwise (· < ·)) (several : front ≠ [] → multiple = true)
    (verdict : Verdict) {tag : Nat} (unsettled : tag ∈ front ++ last :: back) :
    Settlement.covers ⟨last, multiple, verdict⟩ tag = true ↔ tag ∈ front ++ [last] := by
  obtain ⟨-, tail, across⟩ := List.pairwise_append.mp ascending
  have before : ∀ tag ∈ front, tag < last := fun tag member =>
    across tag member last List.mem_cons_self
  have behind : ∀ tag ∈ back, last < tag := (List.pairwise_cons.mp tail).1
  unfold Settlement.covers
  cases multiple with
  | true =>
    simp only [if_true, decide_eq_true_eq, List.mem_append, List.mem_singleton]
    constructor
    · intro reached
      rcases List.mem_append.mp unsettled with earlier | later
      · exact .inl earlier
      · refine .inr ((List.mem_cons.mp later).resolve_right fun member => ?_)
        exact absurd reached (Nat.not_le_of_lt (behind tag member))
    · rintro (earlier | rfl)
      · exact (before tag earlier).le
      · exact le_rfl
  | false =>
    have alone : front = [] := by
      by_contra more
      exact absurd (several more) Bool.false_ne_true
    simp [alone]

/-- The same of the deliveries themselves: what is behind is not covered. -/
theorem covers_upTo {front back : List Unacked} {entry : Unacked} {multiple : Bool}
    (ascending : ((front ++ entry :: back).map (·.tag)).Pairwise (· < ·))
    (several : front ≠ [] → multiple = true) (verdict : Verdict) :
    (∀ other ∈ front ++ [entry], Settlement.covers ⟨entry.tag, multiple, verdict⟩ other.tag = true) ∧
      ∀ other ∈ back, Settlement.covers ⟨entry.tag, multiple, verdict⟩ other.tag = false := by
  have tags : (front ++ entry :: back).map (·.tag) =
      (front ++ [entry]).map (·.tag) ++ back.map (·.tag) := by simp
  rw [tags] at ascending
  have apart := List.disjoint_of_nodup_append (ascending.imp Nat.ne_of_lt)
  rw [List.map_append, List.append_assoc] at ascending
  have covers : ∀ tag ∈ front.map (·.tag) ++ entry.tag :: back.map (·.tag),
      Settlement.covers ⟨entry.tag, multiple, verdict⟩ tag = true ↔
        tag ∈ front.map (·.tag) ++ [entry.tag] :=
    fun _ => covers_iff ascending (fun more => several fun none => more (none ▸ rfl)) verdict
  rw [List.map_append, List.map_singleton] at apart
  refine ⟨fun other member => ?_, fun other member => ?_⟩
  · have listed : other.tag ∈ front.map (·.tag) ++ [entry.tag] := by
      simpa using List.mem_map_of_mem (f := (·.tag)) member
    refine (covers _ ?_).mpr listed
    rw [← List.singleton_append, ← List.append_assoc]
    exact List.mem_append_left _ listed
  · have listed : other.tag ∈ back.map (·.tag) := List.mem_map_of_mem member
    refine Bool.eq_false_iff.mpr fun covered => apart ((covers _ ?_).mp covered) listed
    exact List.mem_append_right _ (List.mem_cons_of_mem _ listed)

/-- A settlement of the first delivery covers nothing else. -/
theorem covers_first {back : List Unacked} {entry : Unacked}
    (ascending : ((entry :: back).map (·.tag)).Pairwise (· < ·)) (verdict : Verdict) :
    (∀ other ∈ [entry], Settlement.covers ⟨entry.tag, false, verdict⟩ other.tag = true) ∧
      ∀ other ∈ back, Settlement.covers ⟨entry.tag, false, verdict⟩ other.tag = false :=
  @covers_upTo [] back entry false ascending (fun more => (more rfl).elim) verdict

namespace Seat

open Broker

/-- What the consumer of a channel can rely on: the channel is open and its own, nothing waits for a
commit, and the unsettled deliveries are the batch and those behind it, in the order of their
tags. -/
structure Keeps (seat : Seat) (post : Post) (b : Broker) (record : ChannelRecord)
    (batch rest : List Unacked) : Prop where
  opened : b.openChannel? seat.channel = some record
  mode : record.transactional = post.settings.transacted
  clean : record.pending = []
  seated : record.connection = seat.connection
  unacked : record.unacked = batch ++ rest
  ordered : record.Ordered
  owns : seat.Owns b
  tidy : b.Tidy

variable {seat : Seat} {post : Post} {b b' : Broker} {record : ChannelRecord}
  {batch rest more : List Unacked}

/-- What leaves the front, and what comes in at the back, keeps the consumer's knowledge. -/
theorem Keeps.clears {batch' rest' : List Unacked} {gone : List (Unacked × Verdict)}
    (keeps : seat.Keeps post b record batch rest)
    (clears : seat.Clears b record b' gone (batch' ++ rest') more) :
    seat.Keeps post b' ((record.leave (batch' ++ rest')).extend more) batch' (rest' ++ more) where
  opened := clears.reaches.opened
  mode := keeps.mode
  clean := keeps.clean
  seated := keeps.seated
  unacked := List.append_assoc _ _ _
  ordered := by
    refine keeps.ordered.extend ?_ clears.reaches.numbered
    rw [clears.split]
    exact List.sublist_append_right _ _
  owns := clears.owns keeps.owns
  tidy := clears.tidy keeps.tidy

/-- The last one of the batch and what is behind it. -/
def lastTag? (batch : List Unacked) : Option Nat := batch.getLast?.map (·.tag)

@[simp] theorem lastTag?_nil : lastTag? [] = none := rfl

@[simp] theorem lastTag?_concat (batch : List Unacked) (entry : Unacked) :
    lastTag? (batch ++ [entry]) = some entry.tag := by
  rw [lastTag?, List.getLast?_concat, Option.map_some]

/-- Deliveries at the front that are acknowledged together leave together. -/
theorem acceptance_clears {front back : List Unacked} {entry : Unacked} {desk : Desk} {n : Nat}
    {last : Option Nat} {multiple : Bool} (here : post.channel = seat.channel)
    (stands : desk.Stands b n last) (keeps : seat.Keeps post b record batch rest)
    (split : record.unacked = front ++ entry :: back) (several : front ≠ [] → multiple = true) :
    ∃ b' more, Desk.Works (Desk.perform post entry.tag
        (if post.settings.transacted then .ackAndCommit multiple else .ack multiple)) desk () b' 0
        none ∧
      seat.Clears b record b' ((front ++ [entry]).map (·, .ack)) back more := by
  have split' : record.unacked = (front ++ [entry]) ++ back := by
    rw [split, List.append_assoc, List.singleton_append]
  obtain ⟨covered, spared⟩ := covers_upTo (split ▸ keeps.ordered.ascending) several .ack
  have nonempty : front ++ [entry] ≠ [] := List.concat_ne_nil _ _
  cases mode : post.settings.transacted with
  | false =>
    obtain ⟨b', more, done, clears⟩ := acknowledge_clears keeps.owns keeps.opened
      (keeps.mode.trans mode) split' nonempty covered spared
    rw [if_neg Bool.false_ne_true]
    exact ⟨b', more, Desk.performAck_works stands (here ▸ done), clears⟩
  | true =>
    obtain ⟨b₁, b₂, more, done, committed, clears⟩ := commit_clears keeps.owns keeps.opened
      (keeps.mode.trans mode) keeps.clean split' nonempty covered spared
    rw [if_pos rfl]
    exact ⟨b₂, more, Desk.performAckAndCommit_works stands (here ▸ done) (here ▸ committed), clears⟩

/-- On a plain channel the batch is acknowledged, and then the delivery is rejected alone. -/
theorem plainRejection_clears {entry : Unacked} {desk : Desk} (here : post.channel = seat.channel)
    (plain : post.settings.transacted = false)
    (stands : desk.Stands b batch.length (lastTag? batch))
    (keeps : seat.Keeps post b record batch (entry :: rest)) (requeue : Bool) :
    ∃ b' more, Desk.Works (Desk.perform post entry.tag (.nack requeue (0 < batch.length))) desk () b'
        0 none ∧
      seat.Clears b record b' (batch.map (·, .ack) ++ [(entry, .nack requeue)]) rest more := by
  rcases batch.eq_nil_or_concat' with rfl | ⟨front, latest, rfl⟩
  · have split : record.unacked = [entry] ++ rest := keeps.unacked
    obtain ⟨covered, spared⟩ := covers_first (split ▸ keeps.ordered.ascending) (.nack requeue)
    obtain ⟨b', more, done, clears⟩ := acknowledge_clears keeps.owns keeps.opened
      (keeps.mode.trans plain) split (List.cons_ne_nil entry []) covered spared
    exact ⟨b', more, Desk.performNack_works stands (here ▸ done), clears⟩
  · have ascending : ((front ++ latest :: entry :: rest).map (·.tag)).Pairwise (· < ·) := by
      have whole := keeps.ordered.ascending
      rwa [keeps.unacked, List.append_assoc, List.singleton_append] at whole
    obtain ⟨covered, spared⟩ := covers_upTo ascending (fun _ => rfl) .ack
    obtain ⟨b₁, more₁, batched, clears₁⟩ := acknowledge_clears keeps.owns keeps.opened
      (keeps.mode.trans plain) keeps.unacked (List.concat_ne_nil _ _) covered spared
    have keeps₁ : seat.Keeps post b₁ _ [entry] (rest ++ more₁) := keeps.clears clears₁
    obtain ⟨covered₁, spared₁⟩ := covers_first keeps₁.ordered.ascending (.nack requeue)
    obtain ⟨b₂, more₂, done, clears₂⟩ := acknowledge_clears keeps₁.owns keeps₁.opened
      (keeps₁.mode.trans plain) keeps₁.unacked (List.cons_ne_nil entry []) covered₁ spared₁
    have positive : decide (0 < (front ++ [latest]).length) = true := by simp
    rw [lastTag?_concat] at stands
    rw [positive]
    exact ⟨b₂, more₁ ++ more₂,
      Desk.performBatchedNack_works stands (here ▸ batched) (here ▸ done), clears₁.trans clears₂⟩

/-- On a transactional channel a rollback, a rejection and a commit take deliveries off the front
under one verdict. -/
theorem rollback_commit_clears {front back : List Unacked} {entry : Unacked} {multiple : Bool}
    (keeps : seat.Keeps post b record batch rest) (transacted : post.settings.transacted = true)
    (split : record.unacked = front ++ entry :: back) (several : front ≠ [] → multiple = true)
    (requeue : Bool) :
    ∃ b₁ b₂ b₃ more, b.rollback seat.channel = (.ok (), b₁) ∧
      b₁.acknowledge seat.channel ⟨entry.tag, multiple, .nack requeue⟩ = (.ok (), b₂) ∧
      b₂.commit seat.channel = (.ok (), b₃) ∧
      seat.Clears b record b₃ ((front ++ [entry]).map (·, .nack requeue)) back more := by
  have mode := keeps.mode.trans transacted
  obtain ⟨b₁, rolledBack, clears₁⟩ := rollback_clears keeps.opened mode keeps.clean
  have split' : record.unacked = (front ++ [entry]) ++ back := by
    rw [split, List.append_assoc, List.singleton_append]
  have same : (record.leave record.unacked).extend [] = record := ChannelRecord.extend_nil _
  have opened₁ : b₁.openChannel? seat.channel = some record := same ▸ clears₁.reaches.opened
  obtain ⟨covered, spared⟩ := covers_upTo (split ▸ keeps.ordered.ascending) several (.nack requeue)
  obtain ⟨b₂, b₃, more, done, committed, clears₂⟩ := commit_clears (clears₁.owns keeps.owns) opened₁
    mode keeps.clean split' (List.concat_ne_nil _ _) covered spared
  refine ⟨b₁, b₂, b₃, more, rolledBack, done, committed, ?_⟩
  -- the rollback is a first step in which nothing leaves
  have after : seat.Clears b₁ ((record.leave (((front ++ [entry]).map
      (·, Verdict.nack requeue)).map (·.1) ++ back)).extend []) b₃
      ((front ++ [entry]).map (·, .nack requeue)) (back ++ []) more := by
    rw [List.append_nil, ← clears₂.split, same]
    exact clears₂
  rw [clears₂.split] at clears₁
  exact clears₁.trans after

/-- On a transactional channel the batch and the delivery get one verdict. -/
theorem transactedRejection_clears {entry : Unacked} {desk : Desk}
    (here : post.channel = seat.channel) (transacted : post.settings.transacted = true)
    {n : Nat} {last : Option Nat} (stands : desk.Stands b n last)
    (keeps : seat.Keeps post b record batch (entry :: rest)) (requeue : Bool) :
    ∃ b' more, Desk.Works (Desk.perform post entry.tag
        (.rollbackAndNack requeue (0 < batch.length))) desk () b' 0 none ∧
      seat.Clears b record b' ((batch ++ [entry]).map (·, .nack requeue)) rest more := by
  have several : batch ≠ [] → decide (0 < batch.length) = true := fun nonempty =>
    decide_eq_true (List.length_pos_of_ne_nil nonempty)
  obtain ⟨_, _, b', more, rolledBack, done, committed, clears⟩ :=
    rollback_commit_clears keeps transacted keeps.unacked several requeue
  exact ⟨b', more, Desk.performRollbackAndNack_works stands (here ▸ rolledBack) (here ▸ done)
    (here ▸ committed), clears⟩

theorem Clears.refl (opened : b.openChannel? seat.channel = some record) :
    seat.Clears b record b [] record.unacked [] where
  split := rfl
  reaches := Reaches.refl opened
  tidy := id
  consumers _ _ found := found
  queueKeys := rfl
  journal := ⟨[], (List.append_nil _).symm, nofun, fun _ _ => rfl⟩
  deadLetters _ := (List.append_nil _).symm

/-- A rejection does what the policy says for the kind of channel. -/
theorem rejection_clears {entry : Unacked} {desk : Desk} (here : post.channel = seat.channel)
    (stands : desk.Stands b batch.length (lastTag? batch))
    (keeps : seat.Keeps post b record batch (entry :: rest)) (requeue : Bool) :
    ∃ b' more, Desk.Works (Desk.perform post entry.tag (if post.settings.transacted
        then .rollbackAndNack requeue (0 < batch.length)
        else .nack requeue (0 < batch.length))) desk () b' 0 none ∧
      seat.Clears b record b' (rejection post.settings.transacted batch entry requeue) rest more := by
  unfold rejection
  cases mode : post.settings.transacted with
  | false => exact plainRejection_clears here mode stands keeps requeue
  | true => exact transactedRejection_clears here mode stands keeps requeue

/-- **A delivery is settled as the policy says, and no operation is refused.** -/
theorem settle_clears_disposal {entry : Unacked} {desk : Desk}
    (auto : post.settings.ackMode = .auto) (here : post.channel = seat.channel)
    (stands : desk.Stands b batch.length (lastTag? batch))
    (keeps : seat.Keeps post b record batch (entry :: rest)) (outcome : Outcome) :
    ∃ b' more, Desk.Works (Desk.settle post entry.tag outcome) desk () b'
        (disposal post.settings batch entry outcome).2.length
        (lastTag? (disposal post.settings batch entry outcome).2) ∧
      seat.Clears b record b' (disposal post.settings batch entry outcome).1
        ((disposal post.settings batch entry outcome).2 ++ rest) more := by
  have performed : ∀ {action b' n last},
      (desk.situation post outcome false).action = action →
      Desk.Works (Desk.perform post entry.tag action) desk () b' n last →
      Desk.Works (Desk.settle post entry.tag outcome) desk () b' n last := by
    rintro action b' n last rfl ⟨after, ran, stands'⟩
    exact ⟨after, ran, stands'⟩
  cases outcome with
  | success =>
    have decided : (desk.situation post .success false).action =
        if batch.length + 1 < max post.settings.batchSize 1 then .defer
        else if post.settings.transacted then .ackAndCommit (1 < batch.length + 1)
        else .ack (1 < batch.length + 1) := by
      simp only [Desk.situation, Situation.action, auto, stands.deferred, Situation.acknowledge,
        Bool.false_eq_true, if_false]
    unfold disposal
    dsimp only
    by_cases below : batch.length + 1 < max post.settings.batchSize 1
    · rw [if_pos below] at decided ⊢
      have split : record.unacked = batch ++ [entry] ++ rest := by
        rw [keeps.unacked, List.append_assoc, List.singleton_append]
      refine ⟨b, [], performed decided ?_, split ▸ Clears.refl keeps.opened⟩
      rw [lastTag?_concat, List.length_append]
      exact Desk.performDefer_works stands entry.tag
    · rw [if_neg below] at decided ⊢
      have several : batch ≠ [] → decide (1 < batch.length + 1) = true := fun nonempty =>
        decide_eq_true (Nat.succ_lt_succ (List.length_pos_of_ne_nil nonempty))
      obtain ⟨b', more, works, clears⟩ := acceptance_clears here stands keeps keeps.unacked several
      exact ⟨b', more, performed decided works, clears⟩
  | failure requeue transport =>
    have decided : (desk.situation post (.failure requeue transport) false).action =
        if post.settings.transacted then .rollbackAndNack requeue (0 < batch.length)
        else .nack requeue (0 < batch.length) := by
      simp only [Desk.situation, Situation.action, auto, stands.deferred, Situation.reject,
        Bool.false_eq_true, if_false]
    obtain ⟨b', more, works, clears⟩ := rejection_clears here stands keeps requeue
    exact ⟨b', more, performed decided works, clears⟩
  | stopping =>
    have decided : (desk.situation post .stopping false).action =
        if post.settings.transacted then .rollbackAndNack true (0 < batch.length)
        else .nack true (0 < batch.length) := by
      simp only [Desk.situation, Situation.action, auto, stands.deferred, Situation.reject]
    obtain ⟨b', more, works, clears⟩ := rejection_clears here stands keeps true
    exact ⟨b', more, performed decided works, clears⟩

/-- A delivery that came too late is given back. -/
theorem turnAway_clears {entry : Unacked} {desk : Desk} (auto : post.settings.ackMode = .auto)
    (here : post.channel = seat.channel) (stands : desk.Stands b batch.length (lastTag? batch))
    (keeps : seat.Keeps post b record batch (entry :: rest)) :
    ∃ b' more, Desk.Works (Desk.turnAway post entry.tag) desk () b' 0 none ∧
      seat.Clears b record b' (rejection post.settings.transacted batch entry true) rest more := by
  obtain ⟨counted, ran, stands'⟩ :=
    Desk.count_works stands (.delivery post.queue .rejectedWhileStopping)
  obtain ⟨b', more, works, clears⟩ := settle_clears_disposal auto here stands' keeps .stopping
  exact ⟨b', more, Desk.works_of_run ran works, clears⟩

/-- **A flush acknowledges the batch.** -/
theorem flush_clears {desk : Desk} (here : post.channel = seat.channel)
    (stands : desk.Stands b batch.length (lastTag? batch))
    (keeps : seat.Keeps post b record batch rest) :
    ∃ b' more, Desk.Works (Desk.flush post) desk () b' 0 none ∧
      seat.Clears b record b' (batch.map (·, .ack)) rest more := by
  rcases batch.eq_nil_or_concat' with rfl | ⟨front, latest, rfl⟩
  · have split : record.unacked = rest := keeps.unacked
    refine ⟨b, [], (Desk.get_works stands).bind fun after stands' => ?_,
      split ▸ Clears.refl keeps.opened⟩
    rw [stands.last]
    exact Desk.pure_works stands' ()
  · have split : record.unacked = front ++ latest :: rest := by
      rw [keeps.unacked, List.append_assoc, List.singleton_append]
    have several : front ≠ [] → decide (1 < front.length + 1) = true := fun nonempty =>
      decide_eq_true (Nat.succ_lt_succ (List.length_pos_of_ne_nil nonempty))
    obtain ⟨b', more, works, clears⟩ := acceptance_clears here stands keeps split several
    refine ⟨b', more, Desk.works_of_run rfl ?_, clears⟩
    have length : desk.deferred = front.length + 1 := by
      rw [stands.deferred, List.length_append, List.length_singleton]
    rw [stands.last, lastTag?_concat, length]
    dsimp only
    rw [if_pos (Nat.succ_pos _)]
    exact works

end Seat

end QueueListener
