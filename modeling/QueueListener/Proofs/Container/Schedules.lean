import Mathlib.Data.Nat.Find
import Mathlib.Data.Nat.Pairing
import QueueListener.Proofs.Container.Deadlines
/-!
# Fair schedules

**Under a fair schedule every errand that retires a consumer is done some time**: its timer fires, then
it has a turn coming, gets it, and ends.

* `course` — a world under a schedule, which says what happens next at any time;
* `Fair` — whoever has a turn coming gets it, and no point in time is never reached;
* `Orderly` — what holds of a container at any time, its errands included;
* `Fair.gets_turn`, `Fair.fires` — turns are given, and timers fire;
* `Fair.retire_ends`, `Fair.all_end` — errands that retire consumers end;
* `sweep`, `sweep_fair` — a schedule that is fair to all.
-/

namespace QueueListener.World

variable {w w' w'' : World} {task : Task} {moves : Nat → Move} {n number : Nat}

/-- The world after so many moves of a schedule. -/
def course (w : World) (moves : Nat → Move) : Nat → World
  | 0 => w
  | n + 1 => (w.course moves n).follow (moves n)

theorem course_eq_followAll (w : World) (moves : Nat → Move) (n : Nat) :
    w.course moves n = w.followAll ((List.range n).map moves) := by
  induction n with
  | zero => rfl
  | succ n ih =>
    rw [List.range_succ, List.map_append, followAll_append, ← ih]
    rfl

/-- A schedule is fair when whoever has a turn coming gets it, and the clock goes on and on. -/
structure Fair (w : World) (moves : Nat → Move) : Prop where
  turns : ∀ n task, (w.course moves n).agenda.Owes task → ∃ k ≥ n, moves k = .turn task
  clock : ∀ now, ∃ n, now ≤ (w.course moves n).now

/-- What holds of a container at any time, its errands included. -/
structure Orderly (w : World) : Prop extends Sound w where
  assigned : w.Assigned
  timely : ∀ number, w.TimelyAt number

theorem new_orderly (plan : Plan) (client : Client) : (World.new plan client).Orderly where
  toSound := new_sound plan client
  assigned := ⟨fun _ none => absurd none List.not_mem_nil,
    fun task _ none => by cases task <;> exact absurd none List.not_mem_nil⟩
  timely _ := timelyAt_of_none rfl

theorem Orderly.follow (orderly : w.Orderly) (move : Move) : (w.follow move).Orderly where
  toSound := orderly.toSound.follow move
  assigned := (follow_outcome orderly.records orderly.unopened move).assigned orderly.assigned
  timely number := orderly.toSound.follow_timelyAt move (orderly.timely number)

theorem Orderly.followAll (orderly : w.Orderly) (moves : List Move) :
    (w.followAll moves).Orderly := by
  induction moves generalizing w with
  | nil => exact orderly
  | cons move moves ih => exact ih (orderly.follow move)

theorem Orderly.course (orderly : w.Orderly) (moves : Nat → Move) (n : Nat) :
    (w.course moves n).Orderly := by
  rw [course_eq_followAll]
  exact orderly.followAll _

/-! ### Turns and timers -/

theorem Lingers.refl (task : Task) (w : World) : Lingers task w w := (LetsBe.refl task w).lingers

theorem Lingers.trans (first : Lingers task w w') (second : Lingers task w' w'') :
    Lingers task w w'' where
  errand number own errand found :=
    second.errand number own errand (first.errand number own errand found)
  monitor run own m found := by
    obtain ⟨m', found', same⟩ := first.monitor run own m found
    obtain ⟨m'', found'', same'⟩ := second.monitor run own m' found'
    exact ⟨m'', found'', same'.trans same⟩
  owes owed := second.owes (first.owes owed)
  timers timer set own := by
    obtain left | ⟨due, owes⟩ := first.timers timer set own
    · exact second.timers timer left own
    · exact .inr ⟨Nat.le_trans due second.now, second.owes owes⟩
  now := Nat.le_trans first.now second.now

/-- Until its next turn a task stays as far as it is. -/
theorem Orderly.course_lingers (orderly : w.Orderly) (office : task.IsOffice) {k : Nat}
    (later : n ≤ k) (turnless : ∀ j, n ≤ j → j < k → moves j ≠ .turn task) :
    Lingers task (w.course moves n) (w.course moves k) := by
  induction k, later using Nat.le_induction with
  | base => exact .refl task _
  | succ k later ih =>
    have before := ih fun j from_n below => turnless j from_n (Nat.lt_succ_of_lt below)
    have here := (orderly.course moves k)
    exact before.trans (follow_lingers here.records here.unopened
      (turnless k later (Nat.lt_succ_self k)) office)

theorem Orderly.clock_mono (orderly : w.Orderly) {k : Nat} (later : n ≤ k) :
    (w.course moves n).now ≤ (w.course moves k).now := by
  induction k, later using Nat.le_induction with
  | base => exact Nat.le_refl _
  | succ k later ih =>
    refine Nat.le_trans ih ?_
    have here := (orderly.course moves k)
    show (w.course moves k).now ≤ ((w.course moves k).follow (moves k)).now
    obtain same | ⟨now, passes⟩ := follow_now here.records here.unopened (moves k)
    · exact Nat.le_of_eq same.symm
    · rw [passes]
      exact Nat.le_max_left _ _

theorem errand_office (number : Nat) : (Task.errand number).IsOffice := trivial

namespace Fair

/-- **Whoever has a turn coming gets it**, and stays as far as it is until then. -/
theorem gets_turn (fair : w.Fair moves) (orderly : w.Orderly) (office : task.IsOffice)
    (owes : (w.course moves n).agenda.Owes task) :
    ∃ k ≥ n, moves k = .turn task ∧ Lingers task (w.course moves n) (w.course moves k) := by
  classical
  have some_turn := fair.turns n task owes
  obtain ⟨later, turn⟩ := Nat.find_spec some_turn
  refine ⟨Nat.find some_turn, later, turn, orderly.course_lingers office later ?_⟩
  exact fun j from_n below turn => Nat.find_min some_turn below ⟨from_n, turn⟩

/-- **Every timer fires**, or is stopped. -/
theorem fires (fair : w.Fair moves) (orderly : w.Orderly) (n : Nat) (timer : Timer) :
    ∃ k ≥ n, timer ∉ (w.course moves k).agenda.timers := by
  classical
  have late : ∃ k, max timer.due (w.course moves n).now < (w.course moves k).now :=
    fair.clock (max timer.due (w.course moves n).now + 1)
  have after := Nat.find_spec late
  have earlier := fun {j : Nat} => Nat.find_min late (m := j)
  generalize Nat.find late = k at after earlier
  have due : timer.due < (w.course moves k).now := Nat.lt_of_le_of_lt (Nat.le_max_left _ _) after
  have passed : (w.course moves n).now < (w.course moves k).now :=
    Nat.lt_of_le_of_lt (Nat.le_max_right _ _) after
  have later : n ≤ k := by
    by_contra before
    exact absurd (orderly.clock_mono (Nat.le_of_not_le before)) (Nat.not_le_of_lt passed)
  refine ⟨k, later, fun set => ?_⟩
  cases k with
  | zero =>
    obtain rfl := Nat.le_zero.mp later
    exact absurd passed (Nat.lt_irrefl _)
  | succ j =>
    have here := orderly.course moves j
    obtain same | ⟨now, passes⟩ := follow_now here.records here.unopened (moves j)
    · refine earlier (Nat.lt_succ_self j) ?_
      exact same ▸ after
    · have fired : (w.course moves (j + 1)) = (w.course moves j).pass now := by
        show (w.course moves j).follow (moves j) = _
        rw [passes]
        rfl
      rw [fired] at set due
      exact absurd due (Nat.not_lt_of_lt (Agenda.fire_left set).2)

/-! ### Errands that end -/

variable {id : Nat} {recorded : Bool}

/-- An errand that waits for the consumer that it retires ends. -/
theorem closing_ends (fair : w.Fair moves) (orderly : w.Orderly) {closing : Closing}
    (found : (w.course moves n).errands[number]? = some ⟨.retire id, .closing closing, recorded⟩) :
    ∃ k ≥ n, (w.course moves k).errandDone number = true := by
  by_contra never
  have waits : ∀ k ≥ n, ∃ closing' : Closing, closing'.deadline = closing.deadline ∧
      (w.course moves k).errands[number]? = some ⟨.retire id, .closing closing', recorded⟩ := by
    intro k later
    induction k, later using Nat.le_induction with
    | base => exact ⟨closing, rfl, found⟩
    | succ k later ih =>
      obtain ⟨closing', same, found'⟩ := ih
      have here := orderly.course moves k
      by_cases own : moves k = .turn (.errand number)
      · obtain ⟨phase, found'', proceeds, -⟩ :=
          take_retires here.records found' (here.timely number _ _ _ found')
        have after : (w.course moves (k + 1)).errands[number]? =
            some ⟨.retire id, phase, recorded⟩ := by
          show ((w.course moves k).follow (moves k)).errands[number]? = _
          rw [own]
          exact found''
        cases proceeds with
        | waits early same' => exact ⟨_, same'.trans same, after⟩
        | ends _ answer =>
          refine absurd ⟨k + 1, Nat.le_succ_of_le later, ?_⟩ never
          unfold errandDone
          rw [after]
          rfl
      · exact ⟨closing', same, (follow_lingers here.records here.unopened own trivial).errand
          number rfl _ found'⟩
  obtain ⟨k, later, unset⟩ :=
    fair.fires orderly n ⟨.errand number, .deadline, dueMillis closing.deadline⟩
  obtain ⟨closing₁, same₁, found₁⟩ := waits k later
  obtain ⟨-, rings⟩ := (orderly.course moves k).timely number _ _ _ found₁
  rw [same₁] at rings
  obtain ⟨due, owes⟩ := rings.resolve_left unset
  obtain ⟨k', later', turn, lingers⟩ := fair.gets_turn orderly (errand_office number) owes
  have found₂ := lingers.errand number rfl _ found₁
  have here := orderly.course moves k'
  have come : (w.course moves k').reached closing₁.deadline = true :=
    same₁ ▸ reached_of_due (Nat.le_trans due lingers.now)
  obtain ⟨phase, found₃, proceeds, -⟩ :=
    take_retires here.records found₂ (here.timely number _ _ _ found₂)
  cases proceeds with
  | waits early same =>
    rw [come] at early
    cases early
  | ends _ answer =>
    refine never ⟨k' + 1, Nat.le_succ_of_le (Nat.le_trans later later'), ?_⟩
    show ((w.course moves k').follow (moves k')).errandDone number = true
    rw [turn]
    unfold errandDone
    rw [show ((w.course moves k').follow (.turn (.errand number))).errands[number]? = _ from found₃]
    rfl

/-- **Every errand that retires a consumer is done some time.** -/
theorem retire_ends (fair : w.Fair moves) (orderly : w.Orderly)
    (retires : (w.course moves n).Retires number) :
    ∃ k ≥ n, (w.course moves k).errandDone number = true := by
  obtain ⟨id, about⟩ := retires
  obtain ⟨⟨kind, phase, recorded⟩, found, same⟩ := Option.map_eq_some_iff.mp about
  obtain rfl : kind = .retire id := same
  have timely := (orderly.course moves n).timely number _ _ _ found
  cases phase with
  | begin =>
    obtain ⟨k, later, turn, lingers⟩ := fair.gets_turn orderly (errand_office number) timely
    have here := orderly.course moves k
    have found₁ := lingers.errand number rfl _ found
    obtain ⟨phase, found₂, proceeds, -⟩ :=
      take_retires here.records found₁ (here.timely number _ _ _ found₁)
    cases proceeds with
    | begins closing =>
      have after : (w.course moves (k + 1)).errands[number]? =
          some ⟨.retire id, .closing closing, recorded⟩ := by
        show ((w.course moves k).follow (moves k)).errands[number]? = _
        rw [turn]
        exact found₂
      obtain ⟨k', later', done⟩ := fair.closing_ends orderly after
      exact ⟨k', Nat.le_trans (Nat.le_succ_of_le later) later', done⟩
  | closing closing => exact fair.closing_ends orderly found
  | joining | settling => exact timely.elim
  | done answer =>
    refine ⟨n, Nat.le_refl n, ?_⟩
    unfold errandDone
    rw [found]
    rfl

end Fair

/-- An errand that retires a consumer does not begin again. -/
theorem Orderly.done_stays (orderly : w.Orderly) (retires : w.Retires number)
    (done : w.errandDone number = true) (move : Move) :
    (w.follow move).errandDone number = true := by
  obtain ⟨id, about⟩ := retires
  obtain ⟨⟨kind, phase, recorded⟩, found, same⟩ := Option.map_eq_some_iff.mp about
  obtain rfl : kind = .retire id := same
  unfold errandDone at done ⊢
  rw [found] at done
  cases phase with
  | begin | closing | joining | settling => cases done
  | done answer =>
    by_cases own : move = .turn (.errand number)
    · subst own
      obtain ⟨phase, found', proceeds, -⟩ :=
        take_retires orderly.records found (orderly.timely number _ _ _ found)
      cases proceeds with
      | ended =>
        rw [show (w.follow (.turn (.errand number))).errands[number]? = _ from found']
        rfl
    · have lingers := follow_lingers orderly.records orderly.unopened own (errand_office number)
      rw [lingers.errand number rfl _ found]
      rfl

/-- What is so of an errand that retires a consumer is so later. -/
theorem Orderly.later_retires (orderly : w.Orderly) {k : Nat} (later : n ≤ k)
    (retires : (w.course moves n).Retires number) :
    (w.course moves k).Retires number ∧ ((w.course moves n).errandDone number = true →
      (w.course moves k).errandDone number = true) := by
  induction k, later using Nat.le_induction with
  | base => exact ⟨retires, id⟩
  | succ k later ih =>
    have here := orderly.course moves k
    refine ⟨ih.1.imp fun _ => ?_, fun done => here.done_stays ih.1 (ih.2 done) (moves k)⟩
    exact (follow_outcome here.records here.unopened (moves k)).keepsKind

/-- **Any number of errands that retire consumers are done some time.** -/
theorem Fair.all_end (fair : w.Fair moves) (orderly : w.Orderly) (numbers : List Nat)
    (retire : ∀ number ∈ numbers, (w.course moves n).Retires number) :
    ∃ k ≥ n, ∀ number ∈ numbers, (w.course moves k).errandDone number = true := by
  induction numbers with
  | nil => exact ⟨n, Nat.le_refl n, fun _ none => absurd none List.not_mem_nil⟩
  | cons first numbers ih =>
    obtain ⟨k, later, done⟩ := ih fun number among => retire number (List.mem_cons_of_mem _ among)
    have retires := retire first List.mem_cons_self
    obtain ⟨k', later', done'⟩ := fair.retire_ends orderly (orderly.later_retires later retires).1
    refine ⟨k', Nat.le_trans later later', fun number among => ?_⟩
    obtain rfl | others := List.mem_cons.mp among
    · exact done'
    · exact (orderly.later_retires later'
        (orderly.later_retires later (retire number among)).1).2 (done number others)

/-! ### A schedule that is fair to all -/

/-- The tasks, counted. -/
def taskAt (code : Nat) : Task :=
  match code.unpair with
  | (0, id) => .consumer id
  | (1, id) => .feed id
  | (2, run) => .monitor run
  | (_, number) => .errand number

theorem exists_taskAt (task : Task) : ∃ code, taskAt code = task := by
  cases task with
  | consumer id => exact ⟨Nat.pair 0 id, by simp only [taskAt, Nat.unpair_pair]⟩
  | feed id => exact ⟨Nat.pair 1 id, by simp only [taskAt, Nat.unpair_pair]⟩
  | monitor run => exact ⟨Nat.pair 2 run, by simp only [taskAt, Nat.unpair_pair]⟩
  | errand number => exact ⟨Nat.pair 3 number, by simp only [taskAt, Nat.unpair_pair]⟩

/-- The clock goes on and on, and between whiles every task has turns over and over. -/
def sweep (n : Nat) : Move :=
  if n % 2 = 0 then .pass n else .turn (taskAt (Nat.unpair (n / 2)).1)

/-- **There is a schedule that is fair to all**, whatever the world is like. -/
theorem sweep_fair (w : World) : w.Fair sweep where
  turns n task _ := by
    obtain ⟨code, rfl⟩ := exists_taskAt task
    have later : n ≤ Nat.pair code n := Nat.right_le_pair code n
    refine ⟨2 * Nat.pair code n + 1, by omega, ?_⟩
    unfold sweep
    rw [if_neg (by omega), show (2 * Nat.pair code n + 1) / 2 = Nat.pair code n by omega,
      Nat.unpair_pair]
  clock now := by
    refine ⟨2 * now + 1, ?_⟩
    have passes : sweep (2 * now) = .pass (2 * now) := by
      unfold sweep
      rw [if_pos (Nat.mul_mod_right 2 now)]
    show now ≤ ((w.course sweep (2 * now)).follow (sweep (2 * now))).now
    rw [passes]
    exact Nat.le_trans (Nat.le_mul_of_pos_left now (by decide)) (Nat.le_max_right _ _)

end QueueListener.World
