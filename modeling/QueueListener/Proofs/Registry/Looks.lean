import Mathlib.Data.List.Sort
import QueueListener.Proofs.Registry.Roster
import QueueListener.Proofs.Registry.Scaling
import QueueListener.Proofs.Scaling.History
/-!
# A queue that is looked at again and again

**Under load a queue grows by one consumer at every look until it has as many as it may have, and when
it is idle it shrinks by one at every look until it has as few as it must have**, oldest first, as long
as the looks are not closer together than the intervals. Whatever the looks find, it stays within the
bounds.

* `Look`, `Registry.attend`, `Registry.attendAll` — what a look finds, and what it changes;
* `bySeniority`, `oldest?_seniority` — the consumers in the order in which they were started;
* `Registry.Watched`, `Registry.attend_watched` — a declared queue within its bounds stays one;
* `attend_starts`, `attend_retires`, `attend_full`, `attend_least` — one look at a busy queue or at
  an idle one;
* `attendAll_converges` — any number of looks.
-/

namespace QueueListener

/-- A look at the consumers of a queue: when it takes place, and for how long each has been idle or
busy by then. -/
structure Look where
  now : Instant
  idleStreak : Nat → Nat
  activeStreak : Nat → Nat

/-- What a look knows of a consumer. -/
def Look.sample (look : Look) (startedAt : Nat → Instant) (id : Nat) : Sample :=
  ⟨id, startedAt id, look.idleStreak id, look.activeStreak id⟩

/-! ### Seniority -/

namespace Scaling

variable {startedAt : Nat → Instant} {ids : List Nat}

/-- Consumers in the order in which they were started; those that started together in the order of
the list. -/
def bySeniority (startedAt : Nat → Instant) (ids : List Nat) : List Nat :=
  ids.insertionSort fun id other => startedAt id ≤ startedAt other

theorem bySeniority_cons (startedAt : Nat → Instant) (id : Nat) (ids : List Nat) :
    bySeniority startedAt (id :: ids) = (bySeniority startedAt ids).orderedInsert
      (fun id other => startedAt id ≤ startedAt other) id := rfl

theorem length_bySeniority (startedAt : Nat → Instant) (ids : List Nat) :
    (bySeniority startedAt ids).length = ids.length := List.length_insertionSort _ ids

/-- The oldest sample is that of the most senior consumer. -/
theorem oldest?_seniority {sample : Nat → Sample} (agrees : ∀ id, (sample id).startedAt = startedAt id)
    (ids : List Nat) :
    oldest? (ids.map sample) = (bySeniority startedAt ids).head?.map sample := by
  induction ids with
  | nil => rfl
  | cons id ids ih =>
    rw [List.map_cons, oldest?, ih, bySeniority_cons]
    cases bySeniority startedAt ids with
    | nil => rfl
    | cons senior others =>
      simp only [List.head?_cons, Option.map_some, List.orderedInsert_cons, agrees]
      by_cases earlier : startedAt id ≤ startedAt senior
      · rw [if_neg (Int.not_lt.mpr earlier), if_pos earlier]
        rfl
      · rw [if_pos (Int.not_le.mp earlier), if_neg earlier]
        rfl

/-- Without the most senior consumer the others keep their order. -/
theorem bySeniority_erase {senior : Nat} {others : List Nat}
    (sorted : bySeniority startedAt ids = senior :: others) :
    bySeniority startedAt (ids.erase senior) = others := by
  induction ids generalizing senior others with
  | nil => cases sorted
  | cons id ids ih =>
    rw [bySeniority_cons] at sorted
    cases rest : bySeniority startedAt ids with
    | nil =>
      rw [rest] at sorted
      cases sorted
      rw [List.erase_cons_head, rest]
    | cons next further =>
      rw [rest, List.orderedInsert_cons] at sorted
      split at sorted
      next earlier =>
        cases sorted
        rw [List.erase_cons_head, rest]
      next later =>
        cases sorted
        have differ : id ≠ senior := by
          rintro rfl
          exact later (Int.le_refl _)
        rw [List.erase_cons_tail (by simpa using differ), bySeniority_cons, ih rest]

end Scaling

namespace Registry

variable {startedAt : Nat → Instant} {queue : String} {acc : Registry × Changes} {look : Look}

/-! ### Looks -/

/-- A look at a queue while nothing keeps consumers from starting. -/
def attend (startedAt : Nat → Instant) (queue : String) (acc : Registry × Changes) (look : Look) :
    Registry × Changes :=
  scaleQueue (look.sample startedAt) false look.now acc queue

/-- One look after the other. -/
def attendAll (startedAt : Nat → Instant) (queue : String) (acc : Registry × Changes)
    (looks : List Look) : Registry × Changes :=
  looks.foldl (attend startedAt queue) acc

/-- That something is true at every look of what is looked at. -/
def Throughout (startedAt : Nat → Instant) (queue : String) (always : Registry → Look → Prop) :
    Registry × Changes → List Look → Prop
  | _, [] => True
  | acc, look :: looks =>
    always acc.1 look ∧ Throughout startedAt queue always (attend startedAt queue acc look) looks

/-- All consumers of a queue have been busy for long. -/
def Busy (queue : String) (r : Registry) (look : Look) : Prop :=
  ∀ id ∈ r.consumersOf queue,
    r.scaling.rules.activeTrigger ≤ look.activeStreak id ∧ look.idleStreak id = 0

/-- All consumers of a queue have been idle for long. -/
def Idle (queue : String) (r : Registry) (look : Look) : Prop :=
  ∀ id ∈ r.consumersOf queue,
    r.scaling.rules.idleTrigger ≤ look.idleStreak id ∧ look.activeStreak id = 0

instance (queue : String) (r : Registry) (look : Look) : Decidable (Busy queue r look) :=
  inferInstanceAs (Decidable (∀ id ∈ r.consumersOf queue, _ ∧ _))

instance (queue : String) (r : Registry) (look : Look) : Decidable (Idle queue r look) :=
  inferInstanceAs (Decidable (∀ id ∈ r.consumersOf queue, _ ∧ _))

instance decidableThroughout (startedAt : Nat → Instant) (queue : String)
    (always : Registry → Look → Prop) [∀ r look, Decidable (always r look)] :
    ∀ acc looks, Decidable (Throughout startedAt queue always acc looks)
  | _, [] => isTrue trivial
  | acc, look :: looks =>
    have := decidableThroughout startedAt queue always (attend startedAt queue acc look) looks
    inferInstanceAs (Decidable (always acc.1 look ∧ _))

/-- Looks that follow each other, and a remembered instant, not closer than an interval. -/
def Spaced (interval : Duration) (last : Option Instant) (looks : List Look) : Prop :=
  (last.toList ++ looks.map Look.now).Pairwise
    fun (earlier later : Instant) => earlier + interval ≤ later

/-- A declared queue within its bounds, and rules by which no consumer is busy and idle at once. -/
structure Watched (queue : String) (r : Registry) : Prop where
  declared : r.supervisor.state? queue = some .declared
  some : 1 ≤ r.bounds.least
  least : r.bounds.least ≤ (r.consumersOf queue).length
  most : (r.consumersOf queue).length ≤ r.bounds.most
  active : 1 ≤ r.scaling.rules.activeTrigger
  idle : 1 ≤ r.scaling.rules.idleTrigger

theorem Spaced.rested {interval : Duration} {last : Option Instant} {looks : List Look}
    (spaced : Spaced interval last (look :: looks)) : Scaling.Rested interval last look.now := by
  rintro earlier ⟨⟩
  exact .inl ((List.pairwise_cons.mp spaced).1 look.now List.mem_cons_self)

/-- After a look that was remembered. -/
theorem Spaced.next {interval : Duration} {last : Option Instant} {looks : List Look}
    (spaced : Spaced interval last (look :: looks)) : Spaced interval (some look.now) looks :=
  spaced.sublist (List.sublist_append_right _ _)

/-- After a look that was not remembered. -/
theorem Spaced.skip {interval : Duration} {last : Option Instant} {looks : List Look}
    (spaced : Spaced interval last (look :: looks)) : Spaced interval last looks :=
  spaced.sublist ((List.sublist_cons_self _ _).append_left _)

/-! ### One look -/

section Decided

variable {r : Registry} {changes : Changes} {sample : Nat → Sample} {blocked : Bool} {now : Instant}
  {scaling : Scaling}

theorem scaleQueue_hold (declared : r.supervisor.state? queue = some .declared)
    (decided : r.scaling.evaluate queue r.bounds ((r.consumersOf queue).map sample) now =
      (.hold, scaling)) :
    scaleQueue sample blocked now (r, changes) queue = ({ r with scaling }, changes) := by
  unfold scaleQueue
  dsimp only
  rw [if_pos declared, decided]

theorem scaleQueue_startOne (declared : r.supervisor.state? queue = some .declared)
    (decided : r.scaling.evaluate queue r.bounds ((r.consumersOf queue).map sample) now =
      (.startOne, scaling)) :
    scaleQueue sample false now (r, changes) queue =
      launch 1 queue ({ r with scaling }, changes) := by
  unfold scaleQueue
  dsimp only
  rw [if_pos declared, decided]
  rfl

theorem scaleQueue_stopOne {id : Nat} (declared : r.supervisor.state? queue = some .declared)
    (decided : r.scaling.evaluate queue r.bounds ((r.consumersOf queue).map sample) now =
      (.stopOne id, scaling)) (serves : id ∈ r.consumersOf queue) :
    scaleQueue sample blocked now (r, changes) queue =
      (({ r with scaling } : Registry).removeConsumer queue id,
        { changes with retired := changes.retired ++ [id] }) := by
  unfold scaleQueue
  dsimp only
  rw [if_pos declared, decided]
  exact if_pos (List.contains_iff_mem.mpr serves)

/-- What is remembered after a look is what the decision remembers, carried out or not. -/
theorem scaleQueue_scaling (declared : acc.1.supervisor.state? queue = some .declared)
    (sample : Nat → Sample) (blocked : Bool) (now : Instant) :
    (scaleQueue sample blocked now acc queue).1.scaling =
      (acc.1.scaling.evaluate queue acc.1.bounds ((acc.1.consumersOf queue).map sample) now).2 := by
  unfold scaleQueue
  dsimp only
  rw [if_pos declared]
  split
  next => rfl
  next =>
    split
    next => rfl
    next => exact launch_scaling 1 queue _
  next => split <;> rfl

end Decided

/-- What a look knows of the consumers of a queue. -/
theorem forall_sample {ids : List Nat} {about : Sample → Prop} :
    (∀ sample ∈ ids.map (look.sample startedAt), about sample) ↔
      ∀ id ∈ ids, about (look.sample startedAt id) := List.forall_mem_map

theorem samples_ne_nil (watched : Watched queue acc.1) (sample : Nat → Sample) :
    (acc.1.consumersOf queue).map sample ≠ [] := by
  have several := Nat.le_trans watched.some watched.least
  intro none
  rw [List.map_eq_nil_iff.mp none] at several
  exact absurd several (by decide)

/-- Nobody of a busy queue is idle. -/
theorem idlest?_busy (watched : Watched queue acc.1) (busy : Busy queue acc.1 look) :
    acc.1.scaling.idlest? ((acc.1.consumersOf queue).map (look.sample startedAt)) = none := by
  have nobody : ((acc.1.consumersOf queue).map (look.sample startedAt)).filter
      (fun sample => acc.1.scaling.rules.idleTrigger ≤ sample.idleStreak) = [] := by
    refine List.filter_eq_nil_iff.mpr (forall_sample.mpr fun id serves => ?_)
    have active : (look.sample startedAt id).idleStreak = 0 := (busy id serves).2
    simpa [active] using Nat.ne_of_gt watched.idle
  unfold Scaling.idlest?
  rw [nobody]
  rfl

/-- Of an idle queue the most senior consumer is the one to retire. -/
theorem idlest?_idle (idle : Idle queue acc.1 look) :
    acc.1.scaling.idlest? ((acc.1.consumersOf queue).map (look.sample startedAt)) =
      (Scaling.bySeniority startedAt (acc.1.consumersOf queue)).head?.map
        (look.sample startedAt) := by
  unfold Scaling.idlest?
  rw [List.filter_eq_self.mpr (forall_sample.mpr fun id serves => decide_eq_true (idle id serves).1)]
  exact Scaling.oldest?_seniority (fun _ => rfl) _

/-- An idle queue calls for no more consumers. -/
theorem not_wantsMore_idle (watched : Watched queue acc.1) (idle : Idle queue acc.1 look) :
    ¬ (((acc.1.consumersOf queue).map (look.sample startedAt)) ≠ [] ∧
      acc.1.scaling.wantsMore queue acc.1.bounds
        ((acc.1.consumersOf queue).map (look.sample startedAt)) look.now = true) := by
  rintro ⟨some, wants⟩
  obtain ⟨id, serves⟩ := List.exists_mem_of_ne_nil _ fun none =>
    some (List.map_eq_nil_iff.mpr none)
  have triggered : acc.1.scaling.rules.activeTrigger ≤ look.activeStreak id :=
    forall_sample.mp (Scaling.wantsMore_iff.mp wants).2.1 id serves
  rw [(idle id serves).2] at triggered
  exact absurd (Nat.le_trans watched.active triggered) (by decide)

/-- A look that changes nothing. -/
theorem attend_holds (declared : acc.1.supervisor.state? queue = some .declared)
    (decided : (acc.1.scaling.evaluate queue acc.1.bounds
      ((acc.1.consumersOf queue).map (look.sample startedAt)) look.now).1 = .hold) :
    attend startedAt queue acc look = acc :=
  scaleQueue_hold declared (Scaling.evaluate_of_hold decided)

/-- **A busy queue below the upper bound gets one more consumer.** -/
theorem attend_starts (watched : Watched queue acc.1) (busy : Busy queue acc.1 look)
    (room : (acc.1.consumersOf queue).length < acc.1.bounds.most)
    (rested : Scaling.Rested acc.1.scaling.rules.startInterval
      (acc.1.scaling.lastStarted.get? queue) look.now) :
    attend startedAt queue acc look = launch 1 queue
      ({ acc.1 with scaling := { acc.1.scaling with
          lastStarted := acc.1.scaling.lastStarted.set queue look.now } }, acc.2) :=
  scaleQueue_startOne watched.declared <| Scaling.evaluate_of_startOne <|
    Scaling.evaluate_eq_startOne_iff.mpr ⟨samples_ne_nil watched _, Scaling.wantsMore_iff.mpr
      ⟨by rwa [List.length_map], forall_sample.mpr fun id serves => (busy id serves).1, rested⟩⟩

/-- A busy queue at the upper bound stays as it is. -/
theorem attend_full (watched : Watched queue acc.1) (busy : Busy queue acc.1 look)
    (full : (acc.1.consumersOf queue).length = acc.1.bounds.most) :
    attend startedAt queue acc look = acc := by
  refine attend_holds watched.declared (Scaling.evaluate_eq_hold_iff.mpr ⟨fun more => ?_, fun fewer =>
    fewer.2 (idlest?_busy watched busy)⟩)
  have room := (Scaling.wantsMore_iff.mp more.2).1
  rw [List.length_map, full] at room
  exact Nat.lt_irrefl _ room

/-- **An idle queue above the lower bound loses its most senior consumer.** -/
theorem attend_retires (watched : Watched queue acc.1) (idle : Idle queue acc.1 look)
    (spare : acc.1.bounds.least < (acc.1.consumersOf queue).length)
    (rested : Scaling.Rested acc.1.scaling.rules.stopInterval
      (acc.1.scaling.lastStopped.get? queue) look.now) {senior : Nat} {others : List Nat}
    (sorted : Scaling.bySeniority startedAt (acc.1.consumersOf queue) = senior :: others) :
    attend startedAt queue acc look =
      (({ acc.1 with scaling := { acc.1.scaling with
          lastStopped := acc.1.scaling.lastStopped.set queue look.now } } : Registry).removeConsumer
          queue senior,
        { acc.2 with retired := acc.2.retired ++ [senior] }) := by
  have serves : senior ∈ acc.1.consumersOf queue := by
    refine (List.mem_insertionSort _).mp (?_ : senior ∈ Scaling.bySeniority startedAt _)
    rw [sorted]
    exact List.mem_cons_self
  refine scaleQueue_stopOne watched.declared (Scaling.evaluate_of_stopOne
    (Scaling.evaluate_eq_stopOne_iff.mpr ⟨not_wantsMore_idle watched idle,
      Scaling.allowsFewer_iff.mpr ⟨by rwa [List.length_map], rested⟩,
      look.sample startedAt senior, ?_, rfl⟩)) serves
  rw [idlest?_idle idle, sorted]
  rfl

/-- An idle queue at the lower bound stays as it is. -/
theorem attend_least (watched : Watched queue acc.1) (idle : Idle queue acc.1 look)
    (few : (acc.1.consumersOf queue).length = acc.1.bounds.least) :
    attend startedAt queue acc look = acc := by
  refine attend_holds watched.declared (Scaling.evaluate_eq_hold_iff.mpr
    ⟨not_wantsMore_idle watched idle, fun fewer => ?_⟩)
  have spare := (Scaling.allowsFewer_iff.mp fewer.1).1
  rw [List.length_map, few] at spare
  exact Nat.lt_irrefl _ spare

theorem attend_bounds (startedAt : Nat → Instant) (queue : String) (acc : Registry × Changes)
    (look : Look) : (attend startedAt queue acc look).1.bounds = acc.1.bounds :=
  (scaleQueue_looks (look.sample startedAt) false look.now acc queue).alike.bounds

/-- **A declared queue within its bounds stays within them**, whatever a look finds. -/
theorem attend_watched (startedAt : Nat → Instant) (watched : Watched queue acc.1) (look : Look) :
    Watched queue (attend startedAt queue acc look).1 := by
  have looks := scaleQueue_looks (look.sample startedAt) false look.now acc queue
  have nudges := looks.counts queue
  have bounds := attend_bounds startedAt queue acc look
  have rules : (attend startedAt queue acc look).1.scaling.rules = acc.1.scaling.rules :=
    (congrArg Scaling.rules (scaleQueue_scaling watched.declared _ _ _)).trans
      Scaling.evaluate_rules
  exact {
    declared := (looks.alike.toSteady.state? queue).trans watched.declared
    some := bounds ▸ watched.some
    least := bounds ▸ (Nat.le_min.mpr ⟨watched.least, Nat.le_refl _⟩).trans nudges.least
    most := bounds ▸ nudges.most.trans (Nat.max_le.mpr ⟨watched.most, Nat.le_refl _⟩)
    active := rules ▸ watched.active
    idle := rules ▸ watched.idle }

/-! ### Any number of looks -/

theorem attendAll_bounds (startedAt : Nat → Instant) (queue : String) (acc : Registry × Changes)
    (looks : List Look) : (attendAll startedAt queue acc looks).1.bounds = acc.1.bounds := by
  induction looks generalizing acc with
  | nil => rfl
  | cons look looks ih => exact (ih _).trans (attend_bounds startedAt queue acc look)

theorem attendAll_watched (startedAt : Nat → Instant) (watched : Watched queue acc.1)
    (looks : List Look) : Watched queue (attendAll startedAt queue acc looks).1 := by
  induction looks generalizing acc with
  | nil => exact watched
  | cons look looks ih => exact ih (attend_watched startedAt watched look)

/-- Under load every look adds a consumer, until there are as many as there may be. -/
theorem attendAll_busy (watched : Watched queue acc.1) {looks : List Look}
    (spaced : Spaced acc.1.scaling.rules.startInterval (acc.1.scaling.lastStarted.get? queue) looks)
    (busy : Throughout startedAt queue (Busy queue) acc looks) :
    ((attendAll startedAt queue acc looks).1.consumersOf queue).length =
      min acc.1.bounds.most ((acc.1.consumersOf queue).length + looks.length) := by
  induction looks generalizing acc with
  | nil => exact (Nat.min_eq_right watched.most).symm
  | cons look looks ih =>
    obtain ⟨first, later⟩ := busy
    have remains := attend_watched startedAt watched look
    show ((attendAll startedAt queue (attend startedAt queue acc look) looks).1.consumersOf
      queue).length = _
    obtain room | full := Nat.lt_or_eq_of_le watched.most
    · rw [attend_starts watched first room spaced.rested] at later remains ⊢
      have staffs := launch_staffs 1 queue ({ acc.1 with scaling := { acc.1.scaling with
        lastStarted := acc.1.scaling.lastStarted.set queue look.now } }, acc.2)
      rw [ih remains ?_ later, staffs.alike.bounds, staffs.here, List.length_append]
      · show min acc.1.bounds.most ((acc.1.consumersOf queue).length + 1 + looks.length) = _
        rw [List.length_cons, Nat.add_assoc, Nat.add_comm 1]
      · rw [launch_scaling]
        dsimp only
        rw [Table.get?_set, if_pos rfl]
        exact spaced.next
    · rw [attend_full watched first full] at later ⊢
      rw [ih watched spaced.skip later, full, Nat.min_eq_left (Nat.le_add_right _ _),
        Nat.min_eq_left (Nat.le_add_right _ _)]

/-- Without work every look retires the most senior consumer, until there are as few as there must
be. -/
theorem attendAll_idle (watched : Watched queue acc.1) {looks : List Look}
    (spaced : Spaced acc.1.scaling.rules.stopInterval (acc.1.scaling.lastStopped.get? queue) looks)
    (idle : Throughout startedAt queue (Idle queue) acc looks) {seniors : List Nat}
    (sorted : Scaling.bySeniority startedAt (acc.1.consumersOf queue) = seniors) :
    (attendAll startedAt queue acc looks).2.retired = acc.2.retired ++
        seniors.take (min looks.length (seniors.length - acc.1.bounds.least)) ∧
      Scaling.bySeniority startedAt ((attendAll startedAt queue acc looks).1.consumersOf queue) =
        seniors.drop (min looks.length (seniors.length - acc.1.bounds.least)) := by
  induction looks generalizing acc seniors with
  | nil => simpa [attendAll] using sorted
  | cons look looks ih =>
    obtain ⟨first, later⟩ := idle
    have remains := attend_watched startedAt watched look
    show (attendAll startedAt queue (attend startedAt queue acc look) looks).2.retired = _ ∧
      Scaling.bySeniority startedAt ((attendAll startedAt queue (attend startedAt queue acc look)
        looks).1.consumersOf queue) = _
    have several : seniors.length = (acc.1.consumersOf queue).length :=
      sorted ▸ Scaling.length_bySeniority startedAt _
    obtain spare | few := Nat.lt_or_eq_of_le watched.least
    · cases seniors with
      | nil => exact absurd (several ▸ spare) (Nat.not_lt_zero _)
      | cons senior others =>
        rw [attend_retires watched first spare spaced.rested sorted] at later remains ⊢
        obtain ⟨retired, stay⟩ := ih remains
          (by
            show Spaced _ ((acc.1.scaling.lastStopped.set queue look.now).get? queue) looks
            rw [Table.get?_set, if_pos rfl]
            exact spaced.next) later
          ((congrArg _ ((consumersOf_removeConsumer _ queue queue senior).trans (if_pos rfl))).trans
            (Scaling.bySeniority_erase sorted))
        have one : min (look :: looks).length ((senior :: others).length - acc.1.bounds.least) =
            min looks.length (others.length - acc.1.bounds.least) + 1 := by
          rw [List.length_cons] at several ⊢
          rw [List.length_cons]
          omega
        rw [one, List.take_succ_cons, List.drop_succ_cons]
        exact ⟨retired.trans (List.append_assoc _ _ _), stay⟩
    · rw [attend_least watched first few.symm] at later ⊢
      have none : seniors.length - acc.1.bounds.least = 0 :=
        Nat.sub_eq_zero_of_le (Nat.le_of_eq (several.trans few.symm))
      have rest := ih watched spaced.skip later sorted
      rw [none, Nat.min_zero] at rest ⊢
      exact rest

/-- **A queue that is looked at again and again** gets one more consumer at every look while it is
busy, up to the upper bound, if the looks are not closer together than the start interval. While it is
idle it loses one at every look, down to the lower bound, if they are not closer together than the stop
interval, and those leave first that were started first. Whatever the looks find, it stays within its
bounds. -/
theorem attendAll_converges (startedAt : Nat → Instant) {queue : String} {r : Registry}
    (watched : Watched queue r) (looks : List Look) :
    let after := attendAll startedAt queue (r, {}) looks
    let rules := r.scaling.rules
    let count := (r.consumersOf queue).length
    let count' := (after.1.consumersOf queue).length
    (Spaced rules.startInterval (r.scaling.lastStarted.get? queue) looks →
      Throughout startedAt queue (Busy queue) (r, {}) looks →
        count' = min r.bounds.most (count + looks.length)) ∧
    (Spaced rules.stopInterval (r.scaling.lastStopped.get? queue) looks →
      Throughout startedAt queue (Idle queue) (r, {}) looks →
        count' = max r.bounds.least (count - looks.length) ∧
        after.2.retired =
          (Scaling.bySeniority startedAt (r.consumersOf queue)).take (count - count')) ∧
    r.bounds.least ≤ count' ∧ count' ≤ r.bounds.most := by
  intro after rules count count'
  have watched : Watched queue ((r, {}) : Registry × Changes).1 := watched
  refine ⟨fun spaced busy => attendAll_busy watched spaced busy, fun spaced idle => ?_, ?_⟩
  · obtain ⟨retired, stay⟩ := attendAll_idle watched spaced idle rfl
    have lower : r.bounds.least ≤ count := watched.least
    have survivors : count' = count - min looks.length (count - r.bounds.least) := by
      have kept := congrArg List.length stay
      rwa [Scaling.length_bySeniority, List.length_drop, Scaling.length_bySeniority] at kept
    have leave : count - count' = min looks.length (count - r.bounds.least) := by omega
    refine ⟨by omega, ?_⟩
    rw [leave, retired, Scaling.length_bySeniority]
    rfl
  · have remains := attendAll_watched startedAt watched looks
    have bounds : after.1.bounds = r.bounds := attendAll_bounds startedAt queue (r, {}) looks
    exact ⟨bounds ▸ remains.least, bounds ▸ remains.most⟩

/-- A running registry with one queue of one to three consumers, of which it has two. -/
def pair : Registry :=
  { (launch 2 "orders"
      ((Registry.new { queues := ["orders"], bounds := ⟨1, 3⟩ }).started, {})).1 with
    scaling := .new ⟨2, 3, Duration.ofMillis 10, Duration.ofMillis 10⟩ }

/-- Looks every ten milliseconds. -/
def looksEvery (idle active : Nat) : List Look :=
  [10, 20, 30].map fun millis => ⟨Instant.ofMillis millis, fun _ => idle, fun _ => active⟩

/-- Under load a third consumer is started; without work one leaves, the second one, which was started
first. -/
theorem attendAll_converges_pair :
    ((attendAll (fun _ => 0) "orders" (pair, {}) (looksEvery 0 2)).1.consumersOf "orders").length =
      3 ∧
    (attendAll (fun id => if id = 2 then 0 else 5) "orders" (pair, {}) (looksEvery 3 0)).2.retired =
      [2] := by
  have watched : Watched "orders" pair :=
    ⟨by decide +kernel, by decide +kernel, by decide +kernel, by decide +kernel, by decide +kernel,
      by decide +kernel⟩
  have spaced : ∀ idle active, Spaced (Duration.ofMillis 10) none (looksEvery idle active) := by
    intro idle active
    show List.Pairwise _ [Instant.ofMillis 10, Instant.ofMillis 20, Instant.ofMillis 30]
    decide
  refine ⟨((attendAll_converges (fun _ => 0) watched (looksEvery 0 2)).1 (spaced 0 2) ?_).trans ?_,
    ((attendAll_converges _ watched (looksEvery 3 0)).2.1 (spaced 3 0) ?_).2.trans ?_⟩
  · decide +kernel
  · decide +kernel
  · decide +kernel
  · decide +kernel

end Registry

end QueueListener
