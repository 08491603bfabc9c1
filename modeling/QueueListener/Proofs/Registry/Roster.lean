import QueueListener.Proofs.Registry.Handover
import Mathlib.Algebra.Order.Group.Multiset
/-!
# The roster of a registry

**Nobody is registered twice, and every number is given out once.** A change of the consumers takes
some off a queue or puts new ones there, with numbers beyond all that were given out before; so the
numbers of all queues together stay distinct.

* `roster` — the consumers of all queues, each as often as it is registered;
* `Rostered` — the numbers are distinct and were given out;
* `Rostered.assigned` — a queue gets consumers from those it had and from new ones;
* `Rostered.converge`, `Rostered.tick`, `Rostered.remove`, … — everything that changes consumers;
* `Kempt` — the names of the queues are not blank either, while the registry runs;
* `Consistent`, `Sound.consistent` — a registry that contradicts itself nowhere;
* `Afresh`, `start_afresh` — a start remembers nothing.
-/

namespace QueueListener

namespace Table

variable {κ α M : Type} [DecidableEq κ] [AddCommMonoid M] {t : Table κ α} {key : κ}

/-- **The value at a key, if there is one, and all others.** -/
theorem total_eq_amountAt_add (key : κ) (measure : α → M) (distinct : t.keys.Nodup) :
    t.total measure = t.amountAt measure key + (t.erase key).total measure := by
  unfold amountAt
  cases found : t.get? key with
  | some value => exact total_eq_add_erase measure distinct found
  | none =>
    have absent : t.erase key = t := by
      refine congrArg Table.mk (List.filter_eq_self.mpr fun entry stored => ?_)
      have differ : entry.1 ≠ key := fun same =>
        get?_eq_none_iff.mp found (same ▸ List.mem_map_of_mem stored)
      simpa using differ
    rw [absent, zero_add]

/-- Erasing a key forgets what was set at it. -/
theorem erase_set (t : Table κ α) (key : κ) (value : α) :
    (t.set key value).erase key = t.erase key := by
  by_cases present : t.contains key = true
  · rw [set_of_contains present, erase_modify]
  · rw [set_of_fresh fun member => present (contains_iff.mpr member)]
    simp [erase]

theorem total_set (measure : α → M) (distinct : t.keys.Nodup) (value : α) :
    (t.set key value).total measure = measure value + (t.erase key).total measure := by
  have found : (t.set key value).get? key = some value := by rw [get?_set, if_pos rfl]
  rw [total_eq_add_erase measure (keys_set_nodup distinct key value) found, erase_set]

end Table

namespace Registry

/-- The consumers of all queues, each as often as it is registered. -/
def roster (r : Registry) : Multiset Nat := r.consumers.total Multiset.ofList

variable {r r' : Registry} {queue : String}

theorem roster_eq (r : Registry) : r.roster = (r.allConsumers : Multiset Nat) := by
  unfold roster allConsumers Table.total
  induction r.consumers.values with
  | nil => rfl
  | cons ids rest ih =>
    rw [List.map_cons, List.sum_cons, ih, List.flatten_cons, Multiset.coe_add]

theorem amountAt_consumers (r : Registry) (queue : String) :
    r.consumers.amountAt Multiset.ofList queue = r.consumersOf queue := by
  unfold Table.amountAt consumersOf
  cases r.consumers.get? queue <;> rfl

/-! ### Distinct numbers -/

/-- The consumers of a registry: nobody is registered twice, and all numbers were given out. -/
structure Rostered (r : Registry) : Prop where
  keys : r.consumers.keys.Nodup
  distinct : r.roster.Nodup
  known : ∀ id ∈ r.roster, id ≤ r.lastConsumer

namespace Rostered

/-- Nothing but the consumers and the last number counts. -/
theorem of_same (rostered : r.Rostered) (consumers : r'.consumers = r.consumers)
    (last : r'.lastConsumer = r.lastConsumer) : r'.Rostered where
  keys := consumers ▸ rostered.keys
  distinct := by
    unfold roster
    rw [consumers]
    exact rostered.distinct
  known id registered := by
    unfold roster at registered
    rw [consumers] at registered
    exact last ▸ rostered.known id registered

/-- The consumers of a queue and those of the others. -/
theorem roster_split (rostered : r.Rostered) (queue : String) :
    r.roster = r.consumersOf queue + (r.dropConsumers queue).roster := by
  rw [← amountAt_consumers]
  exact Table.total_eq_amountAt_add _ _ rostered.keys

/-- Whoever is left of those that were registered is registered once. -/
theorem fewer (rostered : r.Rostered) (keys : r'.consumers.keys.Nodup)
    (left : r'.roster ≤ r.roster) (last : r'.lastConsumer = r.lastConsumer) : r'.Rostered where
  keys := keys
  distinct := Multiset.nodup_of_le left rostered.distinct
  known id registered := last ▸ rostered.known id (Multiset.mem_of_le left registered)

/-- A queue without its consumers. -/
theorem dropConsumers (rostered : r.Rostered) (queue : String) :
    (r.dropConsumers queue).Rostered := by
  refine rostered.fewer (Table.keys_erase_nodup rostered.keys queue) ?_ rfl
  rw [rostered.roster_split queue]
  exact Multiset.le_add_left _ _

/-- **A queue gets some of the consumers that it had.** -/
theorem kept (rostered : r.Rostered) {ids : List Nat}
    (had : (ids : Multiset Nat) ≤ r.consumersOf queue) : (r.setConsumers queue ids).Rostered := by
  refine rostered.fewer (Table.keys_set_nodup rostered.keys queue ids) ?_ rfl
  have set : (r.setConsumers queue ids).roster = ids + (r.dropConsumers queue).roster :=
    Table.total_set _ rostered.keys ids
  rw [set, rostered.roster_split queue]
  exact add_le_add_left had _

/-- A consumer leaves its queue. -/
theorem removeConsumer (rostered : r.Rostered) (queue : String) (id : Nat) :
    (r.removeConsumer queue id).Rostered := by
  have keys : (r.removeConsumer queue id).consumers.keys.Nodup := by
    unfold Registry.removeConsumer
    rw [Table.keys_modify]
    exact rostered.keys
  refine rostered.fewer keys ?_ rfl
  have others : (r.removeConsumer queue id).roster =
      ((r.consumersOf queue).erase id : List Nat) + (r.dropConsumers queue).roster := by
    have here : (r.removeConsumer queue id).consumersOf queue = (r.consumersOf queue).erase id := by
      rw [consumersOf_removeConsumer, if_pos rfl]
    have split := Table.total_eq_amountAt_add queue Multiset.ofList keys
    rw [amountAt_consumers, here] at split
    refine split.trans (congrArg _ (congrArg (Table.total _) ?_))
    exact Table.erase_modify _ _ _
  rw [others, rostered.roster_split queue]
  exact add_le_add_left (List.erase_sublist.subperm) _

/-- **A queue gets one new consumer**, with the next number. -/
theorem hired (rostered : r.Rostered) (queue : String) :
    ({ r with lastConsumer := r.lastConsumer + 1 }.setConsumers queue
      (r.consumersOf queue ++ [r.lastConsumer + 1])).Rostered := by
  have all : ({ r with lastConsumer := r.lastConsumer + 1 }.setConsumers queue
      (r.consumersOf queue ++ [r.lastConsumer + 1])).roster = (r.lastConsumer + 1) ::ₘ r.roster := by
    refine (Table.total_set _ rostered.keys _).trans ?_
    rw [rostered.roster_split queue, ← Multiset.coe_add, add_right_comm]
    exact add_comm _ _
  exact {
    keys := Table.keys_set_nodup rostered.keys queue _
    distinct := by
      rw [all, Multiset.nodup_cons]
      exact ⟨fun known => absurd (rostered.known _ known) (Nat.not_succ_le_self _),
        rostered.distinct⟩
    known := fun id registered => by
      rw [all, Multiset.mem_cons] at registered
      obtain rfl | known := registered
      · exact Nat.le_refl _
      · exact Nat.le_succ_of_le (rostered.known id known) }

/-! ### Convergences and ticks -/

variable {acc : Registry × Changes}

theorem launch (rostered : acc.1.Rostered) (count : Nat) (queue : String) :
    (launch count queue acc).1.Rostered := by
  induction count generalizing acc with
  | zero => exact rostered
  | succ count ih => exact ih (rostered.hired queue)

theorem trim (rostered : acc.1.Rostered) (queue : String) : (trim queue acc).1.Rostered := by
  unfold Registry.trim
  dsimp only
  split
  next => exact rostered
  next =>
    exact rostered.kept ((List.drop_sublist _ _).subperm.trans (List.mergeSort_perm _ _).subperm)

theorem convergeQueue (rostered : acc.1.Rostered) (blocked : Bool) (queue : String) :
    (convergeQueue blocked acc queue).1.Rostered := by
  have trimmed := rostered.trim queue
  unfold Registry.convergeQueue
  split
  next =>
    dsimp only
    split
    next => exact trimmed
    next => exact trimmed.launch _ queue
  next => exact rostered

/-- One queue after the other. -/
theorem foldl {step : Registry × Changes → String → Registry × Changes}
    (each : ∀ acc queue, acc.1.Rostered → (step acc queue).1.Rostered) (queues : List String)
    (rostered : acc.1.Rostered) : (queues.foldl step acc).1.Rostered := by
  induction queues generalizing acc with
  | nil => exact rostered
  | cons queue queues ih => exact ih (each acc queue rostered)

/-- **A convergence registers nobody twice.** -/
theorem converge (rostered : r.Rostered) (now : Instant) : (r.converge now).1.Rostered := by
  have walked : (r.walked now).1.Rostered :=
    foldl (fun acc queue rostered => rostered.convergeQueue _ queue) r.queues rostered
  unfold Registry.converge
  split
  next =>
    dsimp only
    split
    next => exact walked.of_same rfl rfl
    next => exact walked
  next => exact rostered

theorem scaleQueue (rostered : acc.1.Rostered) (sample : Nat → Sample) (blocked : Bool)
    (now : Instant) (queue : String) :
    (scaleQueue sample blocked now acc queue).1.Rostered := by
  unfold Registry.scaleQueue
  dsimp only
  split
  next =>
    generalize acc.1.scaling.evaluate queue acc.1.bounds
      ((acc.1.consumersOf queue).map sample) now = answer
    obtain ⟨decision, scaling⟩ := answer
    have remembered : ({ acc.1 with scaling } : Registry).Rostered := rostered.of_same rfl rfl
    cases decision with
    | hold => exact remembered
    | startOne =>
      dsimp only
      split
      next => exact remembered
      next =>
        have launched : (Registry.launch 1 queue ({ acc.1 with scaling }, acc.2)).1.Rostered :=
          launch remembered 1 queue
        exact launched
    | stopOne leaver =>
      dsimp only
      split
      next => exact remembered.removeConsumer queue leaver
      next => exact remembered
  next => exact rostered

/-- **A tick registers nobody twice.** -/
theorem tick (rostered : r.Rostered) (sample : Nat → Sample) (now : Instant) :
    (r.tick sample now).1.Rostered := by
  by_cases running : r.state = .running
  · rw [tick_of_running running]
    have looked : (r.scaled sample now).1.Rostered :=
      foldl (fun acc queue rostered => rostered.scaleQueue sample _ now queue) r.queues rostered
    exact looked.converge now
  · unfold Registry.tick
    rw [if_neg running]
    exact rostered

/-! ### Calls and reports -/

/-- **Removals register nobody.** -/
theorem remove (rostered : r.Rostered) (names : List String) : (r.remove names).1.Rostered := by
  have steps : ∀ acc : Registry × List String × List Nat, acc.1.Rostered →
      (names.foldl removeQueue acc).1.Rostered := by
    induction names with
    | nil => exact fun acc rostered => rostered
    | cons name names ih =>
      intro acc rostered
      refine ih _ ?_
      unfold removeQueue
      dsimp only
      split
      next => exact (rostered.dropConsumers name).of_same rfl rfl
      next => exact rostered
  exact steps (r, [], []) rostered

theorem consumerFailed (rostered : r.Rostered) (queue : String) (id : Nat) (error : ClientError)
    (now : Instant) : (r.consumerFailed queue id error now).2.Rostered := by
  unfold Registry.consumerFailed
  dsimp only
  split
  next => exact (rostered.removeConsumer queue id).of_same rfl rfl
  next => exact rostered.removeConsumer queue id

theorem beginStop (rostered : r.Rostered) {ids : List Nat}
    (begun : r.beginStop = some (ids, r')) : r'.Rostered := by
  unfold Registry.beginStop at begun
  split at begun
  next =>
    cases begun
    exact rostered.fewer List.nodup_nil (Multiset.zero_le _) rfl
  next => cases begun

end Rostered

/-! ### Nobody -/

/-- Whoever is on the roster is one of the consumers of a queue. -/
theorem Rostered.employs (rostered : r.Rostered) {id : Nat} (registered : id ∈ r.allConsumers) :
    r.Employs id := by
  obtain ⟨ids, stored, among⟩ := List.mem_flatten.mp registered
  obtain ⟨entry, entered, rfl⟩ := List.mem_map.mp stored
  refine ⟨entry.1, ?_⟩
  unfold consumersOf
  rw [Table.get?_of_mem_entries rostered.keys entered]
  exact among

/-- A registry none of whose queues has a consumer has none. -/
theorem Rostered.empty (rostered : r.Rostered) (idle : ∀ queue, r.consumersOf queue = []) :
    r.allConsumers = [] := by
  refine List.eq_nil_iff_forall_not_mem.mpr fun id registered => ?_
  obtain ⟨queue, serves⟩ := rostered.employs registered
  rw [idle queue] at serves
  cases serves

/-! ### Names -/

/-- A registry whose consumers are on the roster once, and whose queues have names while it runs. -/
structure Kempt (r : Registry) : Prop extends Rostered r where
  named : r.state = .running → ∀ name ∈ r.queues, Text.isBlankText name = false

namespace Kempt

/-- The supervisor has no say in this. -/
theorem informed (kempt : r.Kempt) (supervisor : Supervisor) :
    ({ r with supervisor } : Registry).Kempt :=
  ⟨kempt.toRostered.of_same rfl rfl, kempt.named⟩

theorem of_steady (kempt : r.Kempt) (steady : r.Steady r') (rostered : r'.Rostered) : r'.Kempt where
  toRostered := rostered
  named := by
    rw [steady.state, steady.queues]
    exact kempt.named

theorem converge (kempt : r.Kempt) (now : Instant) : (r.converge now).1.Kempt := by
  obtain ⟨new, hands⟩ := r.converge_handsOver now
  exact kempt.of_steady hands.steady (kempt.toRostered.converge now)

theorem tick (kempt : r.Kempt) (sample : Nat → Sample) (now : Instant) :
    (r.tick sample now).1.Kempt := by
  obtain ⟨new, hands⟩ := r.tick_handsOver sample now
  exact kempt.of_steady hands.steady (kempt.toRostered.tick sample now)

theorem removeConsumer (kempt : r.Kempt) (queue : String) (id : Nat) :
    (r.removeConsumer queue id).Kempt :=
  ⟨kempt.toRostered.removeConsumer queue id, kempt.named⟩

theorem dropConsumers (kempt : r.Kempt) (queue : String) : (r.dropConsumers queue).Kempt :=
  ⟨kempt.toRostered.dropConsumers queue, kempt.named⟩

theorem consumerFailed (kempt : r.Kempt) (queue : String) (id : Nat) (error : ClientError)
    (now : Instant) : (r.consumerFailed queue id error now).2.Kempt := by
  refine ⟨kempt.toRostered.consumerFailed queue id error now, ?_⟩
  unfold Registry.consumerFailed
  dsimp only
  split <;> exact kempt.named

theorem remove_queues (r : Registry) (names : List String) :
    (r.remove names).1.queues ⊆ r.queues := by
  have steps : ∀ acc : Registry × List String × List Nat,
      (names.foldl removeQueue acc).1.queues ⊆ acc.1.queues := by
    induction names with
    | nil => exact fun acc => List.Subset.refl _
    | cons name names ih =>
      intro acc
      refine List.Subset.trans (ih _) ?_
      unfold removeQueue
      dsimp only
      split
      next => exact List.erase_subset
      next => exact List.Subset.refl _
  exact steps (r, [], [])

theorem remove (kempt : r.Kempt) (names : List String) : (r.remove names).1.Kempt where
  toRostered := kempt.toRostered.remove names
  named := by
    rw [remove_state]
    exact fun running name member => kempt.named running name (remove_queues r names member)

theorem add (kempt : r.Kempt) {names : List String} (added : r.add names = .ok r') : r'.Kempt := by
  unfold Registry.add at added
  split at added
  next => cases added
  next faultless =>
    cases added
    refine ⟨kempt.toRostered.of_same rfl rfl, fun running name member => ?_⟩
    obtain old | new := List.mem_append.mp member
    · exact kempt.named running name old
    · exact (Settings.nameFault?_eq_none_iff.mp faultless).named name new

theorem setBounds (kempt : r.Kempt) {bounds : Bounds} (accepted : r.setBounds bounds = .ok r') :
    r'.Kempt := by
  unfold Registry.setBounds at accepted
  split at accepted
  next => cases accepted
  next =>
    cases accepted
    exact ⟨kempt.toRostered.of_same rfl rfl, kempt.named⟩

/-- The names are checked at a start. -/
theorem start (kempt : r.Kempt) {hasManager : Bool} (starts : r.start hasManager = .ok (some r')) :
    r'.Kempt := by
  obtain ⟨-, -, -, fresh⟩ := Settings.fault?_eq_none_iff.mp (start_faultless starts)
  obtain ⟨-, rfl⟩ := start_begins starts
  exact ⟨kempt.toRostered.of_same rfl rfl, fun _ => fresh.named⟩

theorem beginStop (kempt : r.Kempt) {ids : List Nat} (begun : r.beginStop = some (ids, r')) :
    r'.Kempt where
  toRostered := kempt.toRostered.beginStop begun
  named running := by
    rw [(beginStop_stops begun).2.1] at running
    cases running

theorem finishStop (kempt : r.Kempt) (fatal : Bool) : (r.finishStop fatal).Kempt where
  toRostered := kempt.toRostered.of_same rfl rfl
  named := nofun

end Kempt

/-! ### Consistency -/

/-- A registry that contradicts itself nowhere: without a run there are no consumers, and during a run
the queues have distinct names, the bounds are a range, the supervisor tracks the queues and no
others, only they have consumers, and nobody is registered twice. -/
structure Consistent (r : Registry) : Prop where
  idle : r.state ≠ .running → r.allConsumers = []
  queues : r.state = .running → r.queues.Nodup
  names : r.state = .running → ∀ name ∈ r.queues, Text.isBlankText name = false
  bounds : r.state = .running → 1 ≤ r.bounds.least ∧ r.bounds.least ≤ r.bounds.most
  tracked : r.state = .running → ∀ queue, r.supervisor.state? queue ≠ none ↔ queue ∈ r.queues
  served : r.state = .running → ∀ queue, r.consumersOf queue ≠ [] → queue ∈ r.queues
  distinct : r.state = .running → r.allConsumers.Nodup

/-- **A registry that is sound and whose roster is in order is consistent.** -/
theorem Sound.consistent (sound : r.Sound) (kempt : r.Kempt) : r.Consistent where
  idle stopped := kempt.toRostered.empty (sound.idle stopped)
  queues running := (sound.running running).distinct
  names := kempt.named
  bounds running := Bounds.range_of_faultless (sound.running running).bounds
  tracked running queue := by
    have orderly := (sound.running running).toOrderly
    by_cases member : queue ∈ r.queues
    · obtain ⟨state, found, -⟩ := orderly.tracked queue member
      exact iff_of_true (found ▸ Option.some_ne_none state) member
    · exact iff_of_false (not_not.mpr (orderly.known queue member)) member
  served running queue := not_imp_comm.mp ((sound.running running).served queue)
  distinct _ := by
    rw [← Multiset.coe_nodup, ← roster_eq]
    exact kempt.distinct

/-! ### The beginning of a run -/

/-- A registry that begins a run remembers nothing: there is no round of recovery, all queues are
declared, and nobody was started or retired for the load. -/
structure Afresh (r : Registry) : Prop where
  running : r.state = .running
  round : r.supervisor.round = none
  declared : ∀ queue ∈ r.queues, r.supervisor.state? queue = some .declared
  lastStarted : r.scaling.lastStarted = .empty
  lastStopped : r.scaling.lastStopped = .empty

theorem launch_scaling (count : Nat) (queue : String) (acc : Registry × Changes) :
    (launch count queue acc).1.scaling = acc.1.scaling := by
  induction count generalizing acc with
  | zero => rfl
  | succ count ih => exact ih _

theorem trim_scaling (queue : String) (acc : Registry × Changes) :
    (trim queue acc).1.scaling = acc.1.scaling := by
  unfold trim
  dsimp only
  split <;> rfl

/-- A convergence does not look at the load. -/
theorem converge_scaling (r : Registry) (now : Instant) :
    (r.converge now).1.scaling = r.scaling := by
  have steps : ∀ (blocked : Bool) (queues : List String) (acc : Registry × Changes),
      (queues.foldl (convergeQueue blocked) acc).1.scaling = acc.1.scaling := by
    intro blocked queues
    induction queues with
    | nil => exact fun acc => rfl
    | cons queue queues ih =>
      intro acc
      refine (ih _).trans ?_
      unfold convergeQueue
      split
      next =>
        dsimp only
        split
        next => exact trim_scaling queue acc
        next => exact (launch_scaling _ queue _).trans (trim_scaling queue acc)
      next => rfl
  unfold converge
  split
  next =>
    dsimp only
    split
    next => exact steps _ _ _
    next => exact steps _ _ _
  next => rfl

/-- **A start begins afresh**, and so it is after the first convergence. -/
theorem start_afresh (sound : r.Sound) {hasManager : Bool}
    (starts : r.start hasManager = .ok (some r')) (now : Instant) :
    (r'.converge now).1.Afresh := by
  obtain ⟨running, orderly, round⟩ := start_orderly sound starts
  obtain ⟨-, rfl⟩ := start_begins starts
  have range := (Bounds.range_of_faultless orderly.bounds).2
  have steady := converge_steady running range orderly.distinct now
  have early : r.started.supervisor.attemptDue now = false := by
    unfold Supervisor.attemptDue
    rw [round]
  have same := converge_of_not_due running range orderly.distinct now early
  exact {
    running := steady.state
    round := by rw [same, round]
    declared := fun queue member => by
      rw [same]
      rw [steady.queues] at member
      exact (Supervisor.state?_foldl_track _ queue r.queues).trans (if_pos member)
    lastStarted := by
      rw [converge_scaling]
      rfl
    lastStopped := by
      rw [converge_scaling]
      rfl }

end Registry

end QueueListener
