import QueueListener.Proofs.Container.Moves
/-!
# Who has a turn coming

**A task that has a turn coming keeps it until it gets it**, whatever the others do: to wake somebody
else takes no turn away, and a task sets and stops only its own timers. A timer stays until it fires,
and then its task has a turn coming.

* `Agenda.Owes` — a task has a turn coming, or is at work;
* `Agenda.Spares` — a task keeps its turns and its timers;
* `spares_wake`, `spares_setTimer`, `spares_cancelTimer` — that is so for others;
* `give_awake`, `fire_owes`, `fire_timers` — turns that others are given, and timers that fire.
-/

namespace QueueListener.Agenda

variable {a a' a'' : Agenda} {task other : Task}

/-- A task has a turn coming, or is at work. -/
def Owes (a : Agenda) (task : Task) : Prop := a.current = some task ∨ a.isAwake task = true

/-- A task keeps its turns and its timers. -/
structure Spares (task : Task) (a a' : Agenda) : Prop where
  current : a'.current = a.current
  awake : a.isAwake task = true → a'.isAwake task = true
  timers : ∀ timer ∈ a.timers, timer.task = task → timer ∈ a'.timers

theorem Spares.refl (task : Task) (a : Agenda) : Spares task a a := ⟨rfl, id, fun _ set _ => set⟩

theorem Spares.trans (first : Spares task a a') (second : Spares task a' a'') :
    Spares task a a'' where
  current := second.current.trans first.current
  awake awake := second.awake (first.awake awake)
  timers timer set own := second.timers timer (first.timers timer set own) own

theorem Spares.owes (spares : Spares task a a') (owes : a.Owes task) : a'.Owes task :=
  owes.imp spares.current.trans spares.awake

/-! ### Turns -/

theorem isAwake_iff : a.isAwake task = true ↔ task ∈ a.first ∨ task ∈ a.queue ∨ task ∈ a.last := by
  unfold isAwake
  simp [or_assoc]

theorem wake_awakes (a : Agenda) (task : Task) : (a.wake task).isAwake task = true := by
  unfold wake
  split
  next awake => exact awake
  next =>
    split
    next => simp [isAwake_iff]
    next => simp [isAwake_iff]

/-- To wake somebody takes nothing away from anybody. -/
theorem spares_wake (a : Agenda) (task other : Task) : Spares task a (a.wake other) := by
  unfold wake
  split
  next => exact .refl task a
  next =>
    split
    next =>
      refine ⟨rfl, fun awake => ?_, fun _ set _ => set⟩
      rw [isAwake_iff] at awake ⊢
      exact awake.imp_right (Or.imp_right (List.mem_append_left _))
    next =>
      refine ⟨rfl, fun awake => ?_, fun _ set _ => set⟩
      rw [isAwake_iff] at awake ⊢
      exact awake.imp_right (Or.imp_left (List.mem_append_left _))

theorem spares_wakeAll (a : Agenda) (task : Task) (others : List Task) :
    Spares task a (a.wakeAll others) := by
  unfold wakeAll
  induction others generalizing a with
  | nil => exact .refl task a
  | cons other others ih => exact (spares_wake a task other).trans (ih (a.wake other))

/-- Whoever is woken with others has a turn coming. -/
theorem wakeAll_awakes {tasks : List Task} (among : task ∈ tasks) (a : Agenda) :
    (a.wakeAll tasks).isAwake task = true := by
  unfold wakeAll
  induction tasks generalizing a with
  | nil => exact absurd among List.not_mem_nil
  | cons first tasks ih =>
    obtain rfl | later := List.mem_cons.mp among
    · exact (spares_wakeAll (a.wake task) task tasks).awake (wake_awakes a task)
    · exact ih later (a.wake first)

/-! ### Timers -/

/-- Nobody stops the timers of others. -/
theorem spares_cancelTimer (a : Agenda) (differ : other ≠ task) (slot : TimerSlot) :
    Spares task a (a.cancelTimer other slot) := by
  refine ⟨rfl, id, fun timer set own => List.mem_filter.mpr ⟨set, ?_⟩⟩
  have differs : timer.task ≠ other := fun same => differ (same.symm.trans own)
  simp [differs]

theorem spares_setTimer (a : Agenda) (differ : other ≠ task) (slot : TimerSlot) (due : Nat) :
    Spares task a (a.setTimer other slot due) :=
  (spares_cancelTimer a differ slot).trans
    ⟨rfl, id, fun _ set _ => List.mem_append_left _ set⟩

/-! ### Turns that are given -/

theorem without_spares (a : Agenda) (differ : other ≠ task) : Spares task a (a.without other) := by
  have kept : ∀ tasks : List Task, task ∈ tasks → task ∈ tasks.erase other :=
    fun tasks among => (List.mem_erase_of_ne (Ne.symm differ)).mpr among
  unfold without
  split
  next =>
    refine ⟨rfl, fun awake => ?_, fun _ set _ => set⟩
    rw [isAwake_iff] at awake ⊢
    exact awake.imp_left (kept _)
  next =>
    split
    next =>
      refine ⟨rfl, fun awake => ?_, fun _ set _ => set⟩
      rw [isAwake_iff] at awake ⊢
      exact awake.imp_right (Or.imp_left (kept _))
    next =>
      refine ⟨rfl, fun awake => ?_, fun _ set _ => set⟩
      rw [isAwake_iff] at awake ⊢
      exact awake.imp_right (Or.imp_right (kept _))

theorem without_timers (a : Agenda) (task : Task) : (a.without task).timers = a.timers := by
  unfold without
  split
  next => rfl
  next => split <;> rfl

theorem wake_timers (a : Agenda) (task : Task) : (a.wake task).timers = a.timers := by
  unfold wake
  split
  next => rfl
  next => split <;> rfl

theorem give_current (a : Agenda) (task : Task) : (a.give task).current = some task := by
  unfold give
  split
  next => rfl
  next other current =>
    split
    next same => rw [current, same]
    next => rfl

theorem give_timers (a : Agenda) (task : Task) : (a.give task).timers = a.timers := by
  unfold give
  split
  next => exact without_timers a task
  next =>
    split
    next => rfl
    next => exact (wake_timers _ _).trans (without_timers a task)

/-- **A task that has a turn coming keeps it while another one has its turn.** -/
theorem give_awake (differ : other ≠ task) (owes : a.Owes task) :
    (a.give other).isAwake task = true := by
  unfold give
  split
  next idle =>
    obtain current | awake := owes
    · rw [idle] at current
      cases current
    · exact (without_spares a differ).awake awake
  next before current =>
    split
    next same =>
      obtain working | awake := owes
      · rw [current, same] at working
        exact absurd (Option.some.inj working) differ
      · exact awake
    next =>
      obtain working | awake := owes
      · rw [current] at working
        obtain rfl := Option.some.inj working
        exact wake_awakes (a.without other) before
      · exact (spares_wake _ task before).awake ((without_spares a differ).awake awake)

/-! ### Timers that fire -/

theorem spares_wakeByTimer (a : Agenda) (task other : Task) :
    Spares task a (a.wakeByTimer other) := by
  unfold wakeByTimer
  split
  next =>
    refine ⟨rfl, fun awake => ?_, fun _ set _ => set⟩
    rw [isAwake_iff] at awake ⊢
    exact awake.imp_left (List.mem_append_left _)
  next => exact spares_wake a task other

theorem wakeByTimer_awakes (a : Agenda) (task : Task) : (a.wakeByTimer task).isAwake task = true := by
  unfold wakeByTimer
  split
  next => simp [isAwake_iff]
  next => exact wake_awakes a task

theorem foldl_wakeByTimer (task : Task) (tasks : List Task) (a : Agenda) :
    Spares task a (tasks.foldl wakeByTimer a) ∧ (tasks.foldl wakeByTimer a).timers = a.timers ∧
      (task ∈ tasks → (tasks.foldl wakeByTimer a).isAwake task = true) := by
  induction tasks generalizing a with
  | nil => exact ⟨.refl task a, rfl, fun none => absurd none List.not_mem_nil⟩
  | cons first tasks ih =>
    obtain ⟨spares, timers, awakes⟩ := ih (a.wakeByTimer first)
    refine ⟨(spares_wakeByTimer a task first).trans spares, timers.trans ?_, fun among => ?_⟩
    · unfold wakeByTimer
      split
      next => rfl
      next => exact wake_timers a first
    · obtain rfl | later := List.mem_cons.mp among
      · exact spares.awake (wakeByTimer_awakes a task)
      · exact awakes later

/-- The clock takes no turn away. -/
theorem fire_owes (a : Agenda) (now : Nat) (owes : a.Owes task) : (a.fire now).Owes task :=
  (foldl_wakeByTimer task _ _).1.owes owes

/-- The timers that are left are due later. -/
theorem fire_left {timer : Timer} {now : Nat} (left : timer ∈ (a.fire now).timers) :
    timer ∈ a.timers ∧ now < timer.due := by
  have timers : (a.fire now).timers = a.timers.filter fun timer => now < timer.due :=
    (foldl_wakeByTimer timer.task _ _).2.1
  rw [timers, List.mem_filter] at left
  exact ⟨left.1, of_decide_eq_true left.2⟩

/-- **A timer that fires gives its task a turn.** -/
theorem fire_timers {timer : Timer} {now : Nat} (set : timer ∈ a.timers) :
    timer ∈ (a.fire now).timers ∨ timer.due ≤ now ∧ (a.fire now).Owes timer.task := by
  have fired := foldl_wakeByTimer timer.task
    ((a.timers.filter fun timer => timer.due ≤ now).map (·.task))
    { a with timers := a.timers.filter fun timer => now < timer.due }
  by_cases due : timer.due ≤ now
  · refine .inr ⟨due, .inr (fired.2.2 (List.mem_map_of_mem (List.mem_filter.mpr ⟨set, ?_⟩)))⟩
    exact decide_eq_true due
  · refine .inl ?_
    unfold fire
    rw [fired.2.1]
    exact List.mem_filter.mpr ⟨set, decide_eq_true (Nat.lt_of_not_le due)⟩

end QueueListener.Agenda
