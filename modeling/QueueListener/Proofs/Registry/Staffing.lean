import QueueListener.Container.Registry
import QueueListener.Proofs.Table
/-!
# How a registry staffs its queues

**A convergence retires what a queue has beyond the upper bound, lowest numbers first, and starts
what it lacks below the lower one.** Every step of it concerns one queue and leaves the others alone,
so that a walk over distinct queues does to each of them what it would do to it alone.

* `Staffs` — a change of one queue: who stays, who leaves, and how many come;
* `excess`, `kept`, `openings` — what a convergence has to do for a queue;
* `Converges`, `foldl_converges` — a walk over distinct queues;
* `ConvergesExactly`, `converge_exact` — a convergence does that for all queues;
* `converge_within` — it leaves every queue that can be consumed within the bounds.
-/

namespace QueueListener

namespace Registry

/-! ### The consumers of a queue -/

theorem consumersOf_setConsumers (r : Registry) (queue other : String) (ids : List Nat) :
    (r.setConsumers queue ids).consumersOf other =
      if other = queue then ids else r.consumersOf other := by
  unfold consumersOf setConsumers
  rw [Table.get?_set]
  split <;> rfl

theorem consumersOf_removeConsumer (r : Registry) (queue other : String) (id : Nat) :
    (r.removeConsumer queue id).consumersOf other =
      if other = queue then (r.consumersOf queue).erase id else r.consumersOf other := by
  unfold consumersOf removeConsumer
  rw [Table.get?_modify]
  by_cases same : other = queue
  · subst same
    rw [if_pos rfl, if_pos rfl]
    cases r.consumers.get? other <;> rfl
  · rw [if_neg same, if_neg same]

theorem consumersOf_dropConsumers (r : Registry) (queue other : String) :
    (r.dropConsumers queue).consumersOf other =
      if other = queue then [] else r.consumersOf other := by
  unfold consumersOf dropConsumers
  rw [Table.get?_erase]
  split <;> rfl

/-! ### A change of one queue -/

/-- Two registries with the same settings, queues, bounds and states of queues: they may differ in
their consumers, in what the scaling remembers, and in the round. -/
structure Steady (r r' : Registry) : Prop where
  settings : r'.settings = r.settings
  state : r'.state = r.state
  queues : r'.queues = r.queues
  bounds : r'.bounds = r.bounds
  tracked : r'.supervisor.queues = r.supervisor.queues

/-- Two registries that differ in their consumers only, and in what the scaling remembers. -/
structure Alike (r r' : Registry) : Prop extends Steady r r' where
  supervisor : r'.supervisor = r.supervisor

variable {r r' r'' : Registry} {acc acc' acc'' : Registry × Changes} {queue : String}

theorem Steady.refl (r : Registry) : r.Steady r := ⟨rfl, rfl, rfl, rfl, rfl⟩

theorem Steady.trans (first : r.Steady r') (second : r'.Steady r'') : r.Steady r'' where
  settings := second.settings.trans first.settings
  state := second.state.trans first.state
  queues := second.queues.trans first.queues
  bounds := second.bounds.trans first.bounds
  tracked := second.tracked.trans first.tracked

theorem Steady.state? (steady : r.Steady r') (queue : String) :
    r'.supervisor.state? queue = r.supervisor.state? queue := by
  unfold Supervisor.state?
  rw [steady.tracked]

theorem Steady.isConsumable (steady : r.Steady r') (queue : String) :
    r'.supervisor.isConsumable queue = r.supervisor.isConsumable queue := by
  unfold Supervisor.isConsumable
  rw [steady.state?]

theorem Alike.refl (r : Registry) : r.Alike r := ⟨.refl r, rfl⟩

theorem Alike.trans (first : r.Alike r') (second : r'.Alike r'') : r.Alike r'' :=
  ⟨first.toSteady.trans second.toSteady, second.supervisor.trans first.supervisor⟩

/-- The numbers of the next consumers. -/
def upcoming (r : Registry) (count : Nat) : List Nat := List.range' (r.lastConsumer + 1) count

/-- A change of one queue: some of its consumers stay, some leave, and that many come. -/
structure Staffs (acc acc' : Registry × Changes) (queue : String) (stay leave : List Nat)
    (count : Nat) : Prop where
  alike : acc.1.Alike acc'.1
  last : acc'.1.lastConsumer = acc.1.lastConsumer + count
  here : acc'.1.consumersOf queue = stay ++ acc.1.upcoming count
  others : ∀ other, other ≠ queue → acc'.1.consumersOf other = acc.1.consumersOf other
  started : acc'.2.started = acc.2.started ++ (acc.1.upcoming count).map (·, queue)
  retired : acc'.2.retired = acc.2.retired ++ leave

/-- Nothing changes. -/
theorem Staffs.refl (acc : Registry × Changes) (queue : String) :
    Staffs acc acc queue (acc.1.consumersOf queue) [] 0 where
  alike := .refl _
  last := rfl
  here := (List.append_nil _).symm
  others _ _ := rfl
  started := (List.append_nil _).symm
  retired := (List.append_nil _).symm

/-- After consumers have left, others come. -/
theorem Staffs.trans {stay leave : List Nat} {count more : Nat}
    (first : Staffs acc acc' queue stay leave count)
    (second : Staffs acc' acc'' queue (acc'.1.consumersOf queue) [] more) :
    Staffs acc acc'' queue stay leave (count + more) := by
  have comes : acc.1.upcoming (count + more) = acc.1.upcoming count ++ acc'.1.upcoming more := by
    unfold upcoming
    rw [first.last, ← List.range'_append_1, Nat.add_right_comm]
  exact {
    alike := first.alike.trans second.alike
    last := by rw [second.last, first.last, Nat.add_assoc]
    here := by rw [second.here, first.here, comes, List.append_assoc]
    others := fun other differ => (second.others other differ).trans (first.others other differ)
    started := by
      rw [second.started, first.started, comes, List.map_append, List.append_assoc]
    retired := by rw [second.retired, first.retired, List.append_nil] }

/-- A launch starts consumers with the next numbers. -/
theorem launch_staffs (count : Nat) (queue : String) (acc : Registry × Changes) :
    Staffs acc (launch count queue acc) queue (acc.1.consumersOf queue) [] count := by
  induction count generalizing acc with
  | zero => exact .refl acc queue
  | succ count ih =>
    have one : Staffs acc (launch 1 queue acc) queue (acc.1.consumersOf queue) [] 1 := {
      alike := ⟨⟨rfl, rfl, rfl, rfl, rfl⟩, rfl⟩
      last := rfl
      here := (consumersOf_setConsumers _ queue queue _).trans (if_pos rfl)
      others := fun other differ =>
        (consumersOf_setConsumers _ queue other _).trans (if_neg differ)
      started := rfl
      retired := (List.append_nil _).symm }
    have both := one.trans (ih (launch 1 queue acc))
    rwa [Nat.add_comm] at both

/-! ### A convergence of one queue -/

/-- The consumers of a queue beyond the upper bound: those with the lowest numbers. -/
def excess (r : Registry) (queue : String) : List Nat :=
  if r.supervisor.isConsumable queue then
    ((r.consumersOf queue).mergeSort fun a b => decide (a ≤ b)).take
      (r.bounds.surplus (r.consumersOf queue).length)
  else []

/-- The consumers of a queue within the upper bound. -/
def kept (r : Registry) (queue : String) : List Nat :=
  if r.supervisor.isConsumable queue && r.bounds.surplus (r.consumersOf queue).length ≠ 0 then
    ((r.consumersOf queue).mergeSort fun a b => decide (a ≤ b)).drop
      (r.bounds.surplus (r.consumersOf queue).length)
  else r.consumersOf queue

/-- How many consumers a queue lacks below the lower bound, if they may be started. -/
def openings (blocked : Bool) (r : Registry) (queue : String) : Nat :=
  if r.supervisor.isConsumable queue && !blocked then
    r.bounds.deficit (r.consumersOf queue).length
  else 0

/-- Who is beyond the upper bound and who is within it: every consumer is one or the other, as many
leave as are too many, and nobody leaves whose number is higher than that of one who stays. -/
theorem excess_kept (consumable : r.supervisor.isConsumable queue = true) :
    (r.excess queue ++ r.kept queue).Perm (r.consumersOf queue) ∧
      (r.excess queue).length = (r.consumersOf queue).length - r.bounds.most ∧
      ∀ gone ∈ r.excess queue, ∀ stays ∈ r.kept queue, gone ≤ stays := by
  unfold excess kept
  rw [consumable, if_pos rfl, Bool.true_and]
  set ids := r.consumersOf queue
  have sorted : (ids.mergeSort fun a b => decide (a ≤ b)).Pairwise (· ≤ ·) := by
    simpa using @List.pairwise_mergeSort Nat (fun a b => decide (a ≤ b))
      (by simpa using fun a b c => Nat.le_trans) (by simpa using Nat.le_total) ids
  have all : (ids.mergeSort fun a b => decide (a ≤ b)).Perm ids := List.mergeSort_perm ids _
  by_cases surplus : r.bounds.surplus ids.length = 0
  · simp only [surplus, List.take_zero, ne_eq, not_true_eq_false, decide_false,
      Bool.false_eq_true, if_false, List.nil_append, List.length_nil, List.not_mem_nil,
      false_implies, implies_true, and_true]
    exact ⟨.refl _, surplus.symm⟩
  · rw [if_pos (decide_eq_true surplus), List.take_append_drop]
    refine ⟨all, ?_, fun gone leaves stays remains => ?_⟩
    · rw [List.length_take, all.length_eq]
      exact Nat.min_eq_left (Nat.sub_le _ _)
    · rw [← List.take_append_drop (r.bounds.surplus ids.length)
        (ids.mergeSort fun a b => decide (a ≤ b))] at sorted
      exact (List.pairwise_append.mp sorted).2.2 gone leaves stays remains

theorem length_kept (consumable : r.supervisor.isConsumable queue = true) :
    (r.kept queue).length = min (r.consumersOf queue).length r.bounds.most := by
  obtain ⟨all, leave, -⟩ := excess_kept consumable
  have total := all.length_eq
  rw [List.length_append, leave] at total
  omega

theorem kept_of_not_consumable (asleep : r.supervisor.isConsumable queue = false) :
    r.kept queue = r.consumersOf queue := by
  unfold kept
  rw [asleep]
  exact if_neg Bool.false_ne_true

/-- What a convergence has to do for a queue depends on nothing but its consumers. -/
theorem Alike.staffing (alike : r.Alike r') (same : r'.consumersOf queue = r.consumersOf queue)
    (blocked : Bool) : r'.excess queue = r.excess queue ∧ r'.kept queue = r.kept queue ∧
      openings blocked r' queue = openings blocked r queue := by
  unfold excess kept openings
  rw [alike.supervisor, alike.bounds, same]
  exact ⟨rfl, rfl, rfl⟩

/-- Trimming retires those beyond the upper bound. -/
theorem trim_staffs (consumable : acc.1.supervisor.isConsumable queue = true) :
    Staffs acc (trim queue acc) queue (acc.1.kept queue) (acc.1.excess queue) 0 := by
  obtain ⟨r, changes⟩ := acc
  have consumable' : r.supervisor.isConsumable queue = true := consumable
  unfold trim kept excess
  dsimp only
  rw [consumable', if_pos rfl, Bool.true_and]
  by_cases surplus : r.bounds.surplus (r.consumersOf queue).length = 0
  · simp only [surplus, if_true, ne_eq, not_true_eq_false, decide_false, Bool.false_eq_true,
      if_false, List.take_zero]
    exact .refl _ queue
  · rw [if_neg surplus, if_pos (decide_eq_true surplus)]
    exact {
      alike := ⟨⟨rfl, rfl, rfl, rfl, rfl⟩, rfl⟩
      last := rfl
      here := ((consumersOf_setConsumers r queue queue _).trans (if_pos rfl)).trans
        (List.append_nil _).symm
      others := fun other differ =>
        (consumersOf_setConsumers r queue other _).trans (if_neg differ)
      started := (List.append_nil _).symm
      retired := rfl }

/-- A queue that is trimmed lacks consumers only if it lacked them before. -/
theorem deficit_kept (sound : r.bounds.least ≤ r.bounds.most)
    (consumable : r.supervisor.isConsumable queue = true) :
    r.bounds.deficit (r.kept queue).length = r.bounds.deficit (r.consumersOf queue).length := by
  unfold Bounds.deficit
  rw [length_kept consumable]
  omega

/-- **A queue that converges** gives up those beyond the upper bound, and gets those it lacks. -/
theorem convergeQueue_staffs (sound : acc.1.bounds.least ≤ acc.1.bounds.most) (blocked : Bool)
    (queue : String) : Staffs acc (convergeQueue blocked acc queue) queue (acc.1.kept queue)
      (acc.1.excess queue) (openings blocked acc.1 queue) := by
  unfold convergeQueue
  split
  next consumable =>
    have trims := trim_staffs consumable
    have lacks : openings blocked acc.1 queue =
        if blocked then 0 else acc.1.bounds.deficit (acc.1.kept queue).length := by
      rw [openings, consumable, Bool.true_and, deficit_kept sound consumable]
      cases blocked <;> rfl
    rw [lacks]
    dsimp only
    cases blocked with
    | true => exact trims
    | false =>
      have deficit : (trim queue acc).1.bounds.deficit
          ((trim queue acc).1.consumersOf queue).length =
          acc.1.bounds.deficit (acc.1.kept queue).length := by
        rw [trims.alike.bounds, trims.here, upcoming, List.range'_zero, List.append_nil]
      have both := trims.trans (launch_staffs (acc.1.bounds.deficit (acc.1.kept queue).length)
        queue (trim queue acc))
      rw [Nat.zero_add] at both
      rw [if_neg Bool.false_ne_true, if_neg Bool.false_ne_true, deficit]
      exact both
  next asleep =>
    have asleep' := eq_false_of_ne_true asleep
    have idle := Staffs.refl acc queue
    rwa [← kept_of_not_consumable asleep', show ([] : List Nat) = acc.1.excess queue from
      (if_neg asleep).symm, show 0 = openings blocked acc.1 queue from
      (if_neg (by rw [asleep']; exact Bool.false_ne_true)).symm] at idle

/-! ### A convergence of all queues -/

/-- The numbers of the started consumers that serve a queue. -/
def numbersFor (queue : String) (started : List (Nat × String)) : List Nat :=
  (started.filter fun consumer => consumer.2 = queue).map (·.1)

theorem numbersFor_append (queue : String) (first second : List (Nat × String)) :
    numbersFor queue (first ++ second) = numbersFor queue first ++ numbersFor queue second := by
  unfold numbersFor
  rw [List.filter_append, List.map_append]

theorem numbersFor_launched (queue other : String) (ids : List Nat) :
    numbersFor queue (ids.map (·, other)) = if queue = other then ids else [] := by
  unfold numbersFor
  rw [List.filter_map, List.map_map]
  by_cases same : queue = other
  · simp [same, Function.comp_def]
  · simp [same, Function.comp_def, Ne.symm same]

/-- What a walk over queues does to them, one after the other. -/
structure Converges (blocked : Bool) (queues : List String) (acc acc' : Registry × Changes)
    (new : List (Nat × String)) : Prop where
  alike : acc.1.Alike acc'.1
  last : acc'.1.lastConsumer = acc.1.lastConsumer + new.length
  consumers : ∀ queue, acc'.1.consumersOf queue =
    (if queue ∈ queues then acc.1.kept queue else acc.1.consumersOf queue) ++ numbersFor queue new
  fills : ∀ queue, (numbersFor queue new).length =
    if queue ∈ queues then openings blocked acc.1 queue else 0
  started : acc'.2.started = acc.2.started ++ new
  places : new.map (·.2) =
    queues.flatMap fun queue => List.replicate (openings blocked acc.1 queue) queue
  numbers : new.map (·.1) = acc.1.upcoming new.length
  retired : acc'.2.retired = acc.2.retired ++ queues.flatMap acc.1.excess

/-- One queue first, and then a walk over others. -/
theorem Converges.cons {blocked : Bool} {queues : List String} {new : List (Nat × String)}
    (first : Staffs acc acc' queue (acc.1.kept queue) (acc.1.excess queue)
      (openings blocked acc.1 queue))
    (fresh : queue ∉ queues) (rest : Converges blocked queues acc' acc'' new) :
    Converges blocked (queue :: queues) acc acc''
      ((acc.1.upcoming (openings blocked acc.1 queue)).map (·, queue) ++ new) := by
  -- the queues behind the first one have the consumers they had
  have behind := fun other (member : other ∈ queues) =>
    first.alike.staffing (first.others other fun same => fresh (same ▸ member)) blocked
  exact {
    alike := first.alike.trans rest.alike
    last := by
      rw [rest.last, first.last, List.length_append, List.length_map, upcoming,
        List.length_range', Nat.add_assoc]
    consumers := fun other => by
      rw [rest.consumers other, numbersFor_append, numbersFor_launched]
      by_cases here : other = queue
      · subst here
        rw [if_neg fresh, if_pos List.mem_cons_self, if_pos rfl, first.here, List.append_assoc]
      · rw [if_neg here, List.nil_append]
        by_cases member : other ∈ queues
        · rw [if_pos member, if_pos (List.mem_cons_of_mem _ member), (behind other member).2.1]
        · rw [if_neg member, if_neg fun found => (List.mem_cons.mp found).elim here member,
            first.others other here]
    fills := fun other => by
      rw [numbersFor_append, numbersFor_launched, List.length_append, rest.fills other]
      by_cases here : other = queue
      · subst here
        rw [if_neg fresh, if_pos List.mem_cons_self, if_pos rfl, upcoming, List.length_range',
          Nat.add_zero]
      · rw [if_neg here, List.length_nil, Nat.zero_add]
        by_cases member : other ∈ queues
        · rw [if_pos member, if_pos (List.mem_cons_of_mem _ member), (behind other member).2.2]
        · rw [if_neg member, if_neg fun found => (List.mem_cons.mp found).elim here member]
    started := by rw [rest.started, first.started, List.append_assoc]
    places := by
      rw [List.map_append, rest.places, List.flatMap_cons, List.map_map]
      congr 1
      · rw [show ((·.2) ∘ (·, queue) : Nat → String) = Function.const Nat queue from rfl,
          List.map_const, upcoming, List.length_range']
      · exact List.flatMap_congr fun other member => by rw [(behind other member).2.2]
    numbers := by
      rw [List.map_append, List.map_map, rest.numbers, List.length_append, List.length_map]
      unfold upcoming
      rw [List.length_range', first.last, ← List.range'_append_1, Nat.add_right_comm]
      congr 1
      exact List.map_id _
    retired := by
      rw [rest.retired, first.retired, List.flatMap_cons, List.append_assoc]
      congr 2
      exact List.flatMap_congr fun other member => (behind other member).1 }

/-- **A walk over distinct queues** does to each of them what it would do to it alone. -/
theorem foldl_converges (sound : acc.1.bounds.least ≤ acc.1.bounds.most) (blocked : Bool)
    {queues : List String} (distinct : queues.Nodup) :
    ∃ new, Converges blocked queues acc (queues.foldl (convergeQueue blocked) acc) new := by
  induction queues generalizing acc with
  | nil =>
    exact ⟨[], .refl _, rfl, fun _ => (List.append_nil _).symm, fun _ => rfl,
      (List.append_nil _).symm, rfl, rfl, (List.append_nil _).symm⟩
  | cons queue queues ih =>
    obtain ⟨fresh, distinct⟩ := List.nodup_cons.mp distinct
    have first := convergeQueue_staffs sound blocked queue
    have sound' : (convergeQueue blocked acc queue).1.bounds.least ≤
        (convergeQueue blocked acc queue).1.bounds.most := by
      rw [first.alike.bounds]
      exact sound
    obtain ⟨new, rest⟩ := ih sound' distinct
    exact ⟨_, .cons first fresh rest⟩

theorem resolveRound_steady (r : Registry) (launched : Bool) : r.Steady (r.resolveRound launched) := by
  cases launched <;> exact ⟨rfl, rfl, rfl, rfl, rfl⟩

/-- **What a convergence does, exactly**: it retires those beyond the upper bound and starts what
is lacking below the lower one, in the order of the queues; the new consumers bear the next numbers
and stand behind those who stay. -/
structure ConvergesExactly (r : Registry) (now : Instant) : Prop where
  retired : (r.converge now).2.retired = r.queues.flatMap r.excess
  lowest : ∀ queue, r.supervisor.isConsumable queue = true →
    (r.excess queue ++ r.kept queue).Perm (r.consumersOf queue) ∧
      (r.excess queue).length = (r.consumersOf queue).length - r.bounds.most ∧
      ∀ gone ∈ r.excess queue, ∀ stays ∈ r.kept queue, gone ≤ stays
  started : (r.converge now).2.started.map (·.2) = r.queues.flatMap fun queue =>
    List.replicate (openings (r.supervisor.restartsBlocked now) r queue) queue
  numbers : (r.converge now).2.started.map (·.1) =
    r.upcoming (r.converge now).2.started.length
  consumers : ∀ queue, (r.converge now).1.consumersOf queue =
    (if queue ∈ r.queues then r.kept queue else r.consumersOf queue) ++
      numbersFor queue (r.converge now).2.started
  comes : ∀ queue, (numbersFor queue (r.converge now).2.started).length =
    if queue ∈ r.queues then openings (r.supervisor.restartsBlocked now) r queue else 0

/-- The walk over all queues that a convergence is. -/
def walked (r : Registry) (now : Instant) : Registry × Changes :=
  r.queues.foldl (convergeQueue (r.supervisor.restartsBlocked now)) (r, {})

section Converge

variable (running : r.state = .running) (sound : r.bounds.least ≤ r.bounds.most)
  (distinct : r.queues.Nodup) (now : Instant)

include running sound distinct

/-- A convergence is a walk over all queues; then the round is settled, if its attempt was due. -/
theorem converge_walks : ∃ new, Converges (r.supervisor.restartsBlocked now) r.queues (r, {})
    ((r.walked now).1, (r.converge now).2) new ∧
      ((r.converge now).1 = (r.walked now).1 ∨ r.supervisor.attemptDue now = true ∧
        ∃ launched, (r.converge now).1 = (r.walked now).1.resolveRound launched) := by
  obtain ⟨new, walk⟩ := foldl_converges (show (r, ({} : Changes)).1.bounds.least ≤ _ from sound)
    (r.supervisor.restartsBlocked now) distinct
  unfold converge
  rw [if_pos running]
  refine ⟨new, walk, ?_⟩
  by_cases due : r.supervisor.attemptDue now = true
  · simp only [due, if_true, true_and]
    exact .inr ⟨_, rfl⟩
  · simp only [due]
    exact .inl rfl

theorem converge_steady : r.Steady (r.converge now).1 := by
  obtain ⟨new, walk, same | ⟨-, launched, settled⟩⟩ :=
    converge_walks running sound distinct now
  · rw [same]
    exact walk.alike.toSteady
  · rw [settled]
    exact walk.alike.toSteady.trans (resolveRound_steady _ launched)

/-- **A convergence is exact.** -/
theorem converge_exact : r.ConvergesExactly now := by
  obtain ⟨new, walk, settled⟩ := converge_walks running sound distinct now
  have started : (r.converge now).2.started = new := walk.started
  have same : ∀ queue, (r.converge now).1.consumersOf queue =
      (r.walked now).1.consumersOf queue := by
    intro queue
    obtain unsettled | ⟨-, launched, settled⟩ := settled
    · rw [unsettled]
    · rw [settled]
      cases launched <;> rfl
  exact {
    retired := walk.retired
    lowest := fun queue consumable => excess_kept consumable
    started := by rw [started, walk.places]
    numbers := by rw [started, walk.numbers]
    consumers := fun queue => by rw [started, same, walk.consumers]
    comes := fun queue => by rw [started, walk.fills] }

/-- A queue that can be consumed is within the upper bound after a convergence, and unless restarts
are blocked within the lower one. -/
theorem converge_within {queue : String} (member : queue ∈ r.queues)
    (consumable : r.supervisor.isConsumable queue = true) :
    ((r.converge now).1.consumersOf queue).length ≤ r.bounds.most ∧
      (r.supervisor.restartsBlocked now = false →
        r.bounds.least ≤ ((r.converge now).1.consumersOf queue).length) := by
  have exact := converge_exact running sound distinct now
  have count : ((r.converge now).1.consumersOf queue).length =
      min (r.consumersOf queue).length r.bounds.most +
        openings (r.supervisor.restartsBlocked now) r queue := by
    rw [exact.consumers, if_pos member, List.length_append, exact.comes, if_pos member,
      length_kept consumable]
  have lacks : openings (r.supervisor.restartsBlocked now) r queue =
      if r.supervisor.restartsBlocked now then 0
      else r.bounds.least - (r.consumersOf queue).length := by
    unfold openings
    rw [consumable, Bool.true_and]
    cases r.supervisor.restartsBlocked now <;> rfl
  rw [count, lacks]
  constructor
  · split <;> omega
  · intro free
    rw [if_neg (by rw [free]; exact Bool.false_ne_true)]
    omega

/-- A queue that cannot be consumed keeps its consumers. -/
theorem converge_keeps {queue : String}
    (asleep : queue ∉ r.queues ∨ r.supervisor.isConsumable queue = false) :
    (r.converge now).1.consumersOf queue = r.consumersOf queue := by
  have exact := converge_exact running sound distinct now
  have none : numbersFor queue (r.converge now).2.started = [] := by
    refine List.eq_nil_of_length_eq_zero ((exact.comes queue).trans ?_)
    obtain absent | asleep := asleep
    · exact if_neg absent
    · unfold openings
      rw [asleep]
      exact ite_self 0
  rw [exact.consumers, none, List.append_nil]
  obtain absent | asleep := asleep
  · exact if_neg absent
  · rw [kept_of_not_consumable asleep, ite_self]

/-- A queue that is not beyond the upper bound loses nobody. -/
theorem converge_loses_none (queue : String) :
    min (r.consumersOf queue).length r.bounds.most ≤
      ((r.converge now).1.consumersOf queue).length := by
  by_cases serves : queue ∈ r.queues ∧ r.supervisor.isConsumable queue = true
  · have exact := converge_exact running sound distinct now
    rw [exact.consumers, if_pos serves.1, List.length_append, length_kept serves.2]
    exact Nat.le_add_right _ _
  · rw [converge_keeps running sound distinct now
      (not_and_or.mp serves |>.imp_right eq_false_of_ne_true)]
    exact Nat.min_le_left _ _

/-- A convergence does not lift a block. -/
theorem converge_blocked (blocked : r.supervisor.restartsBlocked now = true) :
    (r.converge now).1.supervisor.restartsBlocked now = true := by
  obtain ⟨new, walk, same | ⟨due, -⟩⟩ := converge_walks running sound distinct now
  · rw [same, walk.alike.supervisor]
    exact blocked
  · unfold Supervisor.restartsBlocked at blocked
    unfold Supervisor.attemptDue at due
    cases pending : r.supervisor.round with
    | none =>
      rw [pending] at due
      cases due
    | some round =>
      rw [pending] at blocked due
      simp only [Round.isDue, Round.blocks, Bool.and_eq_true, Bool.not_eq_true',
        Bool.or_eq_true, decide_eq_true_eq] at blocked due
      obtain flies | early := blocked
      · rw [due.1] at flies
        cases flies
      · exact absurd early (Int.not_lt.mpr due.2)

/-- A convergence at which no attempt is due does not concern the round. -/
theorem converge_of_not_due (early : r.supervisor.attemptDue now = false) :
    (r.converge now).1.supervisor = r.supervisor := by
  obtain ⟨new, walk, same | ⟨due, -⟩⟩ := converge_walks running sound distinct now
  · rw [same]
    exact walk.alike.supervisor
  · rw [early] at due
    cases due

end Converge

/-- A registry that does not run stays as it is. -/
theorem converge_of_not_running (stopped : r.state ≠ .running) (now : Instant) :
    r.converge now = (r, {}) := if_neg stopped

end Registry

end QueueListener
