import QueueListener.Proofs.Container.Surrender
/-!
# After a fatal failure

**A fatal failure stops the container completely.** From the turn at which its monitor hears of it
nobody is started until the next start, whatever happens; and under a fair schedule the container
stops, has no consumers, gives all its queues up, and tells its end once.

* `Starts`, `HiresNobody`, `follow_hiresNobody` — until the next start nobody is started;
* `GivenUp`, `GivesUp.given_up`, `GivenUp.follow` — what is so in the end, and until the next start;
* `fatal_report_stops` — from the report on.
-/

namespace QueueListener.World

variable {w w' w'' : World} {move : Move} {moves : Nat → Move} {run n : Nat} {reason : String}
  {deadline : Instant} {errands : List Nat}

/-! ### Until the next start -/

/-- A start that is neither refused nor idle. -/
def Starts (w : World) (move : Move) : Prop :=
  move = .start ∧ ∃ registry, w.registry.start w.plan.hasManager = .ok (some registry)

/-- **While a container does not run nothing begins**, but for a start, and at most a stop has its
end, of which nothing else is told. -/
theorem follow_halts (orderly : w.Orderly) (halted : w.registry.state ≠ .running)
    (calm : ¬ w.Starts move) :
    (w.Rests (w.follow move) ∧ (w.follow move).chronicle.stops = w.chronicle.stops) ∨
      ∃ task fatal before after, w.Apart before ∧ EndsStop task fatal before after ∧
        after.Apart (w.follow move) := by
  by_cases asked : move = .start
  · subst asked
    have idle : w.follow .start = w := by
      show w.start.2 = w
      unfold start
      split
      next => rfl
      next => rfl
      next registry starts => exact absurd ⟨rfl, registry, starts⟩ calm
    rw [idle]
    exact .inl ⟨.refl w, rfl⟩
  · have outcome := follow_outcome orderly.records orderly.unopened move
    generalize w.follow move = w' at outcome
    cases outcome with
    | happens happens =>
      refine .inl ?_
      induction happens with
      | refl => exact ⟨.refl w, rfl⟩
      | tail _ happening ih =>
        obtain rests | ⟨starts, -⟩ := happening.rests_or_starts (ih.1.state ▸ halted)
        · obtain same | ⟨starts, -⟩ := happening.stops_or_starts
          · exact ⟨ih.1.trans rests, same.trans ih.2⟩
          · exact absurd starts asked
        · exact absurd starts asked
    | endsStop turn ends rest => exact .inr ⟨_, _, _, _, turn, ends, rest⟩

/-- Nobody is started: no number is given away, no queue has a consumer that it did not have, and
nobody becomes known. -/
structure HiresNobody (w w' : World) : Prop where
  startsNone : w.registry.StartsNone w'.registry
  unknown : ∀ id, w.consumers.get? id = none → w'.consumers.get? id = none

theorem HiresNobody.trans (first : HiresNobody w w') (second : HiresNobody w' w'') :
    HiresNobody w w'' where
  startsNone := first.startsNone.trans second.startsNone
  unknown id none := second.unknown id (first.unknown id none)

/-- The end of a stop starts nobody. -/
theorem EndsStop.hiresNobody {task : Task} {fatal : Option String}
    (ends : EndsStop task fatal w w') : HiresNobody w w' := by
  refine ⟨ends.registry ▸ .of_consumers rfl rfl, fun id none => ?_⟩
  obtain ⟨middle, after, before, -, later, reassigns⟩ := ends.ended
  have earlier : middle.consumers.get? id = .none := Effects.unknown before none
  rw [reassigns.consumers, publish_consumers]
  exact Effects.unknown later earlier

/-- **While a container does not run nobody is started**, and it does not run, but for a start. -/
theorem follow_hiresNobody (orderly : w.Orderly) (halted : w.registry.state ≠ .running)
    (calm : ¬ w.Starts move) :
    HiresNobody w (w.follow move) ∧ (w.follow move).registry.state ≠ .running := by
  obtain ⟨rests, -⟩ | ⟨task, fatal, before, after, turn, ends, rest⟩ :=
    follow_halts orderly halted calm
  · exact ⟨⟨rests.startsNone, rests.unknown⟩, rests.state ▸ halted⟩
  · refine ⟨⟨?_, fun id none => ?_⟩, ?_⟩
    · rw [rest.registry, ← turn.registry]
      exact ends.hiresNobody.startsNone
    · rw [rest.consumers]
      exact ends.hiresNobody.unknown id (by rw [turn.consumers, none])
    · rw [rest.registry, ends.registry]
      rintro ⟨⟩

/-- **Until the next start nobody is started.** -/
theorem course_hiresNobody (orderly : w.Orderly) (halted : w.registry.state ≠ .running)
    (calm : ∀ j < n, ¬ (w.course moves j).Starts (moves j)) :
    HiresNobody w (w.course moves n) ∧ (w.course moves n).registry.state ≠ .running := by
  induction n with
  | zero => exact ⟨⟨.refl _, fun _ none => none⟩, halted⟩
  | succ n ih =>
    obtain ⟨before, still⟩ := ih fun j below => calm j (Nat.lt_succ_of_lt below)
    obtain ⟨here, halted'⟩ :=
      follow_hiresNobody (orderly.course moves n) still (calm n (Nat.lt_succ_self n))
    exact ⟨before.trans here, halted'⟩

/-! ### The end -/

/-- A container that was given up for a reason: it is stopped, has no consumers, has given all queues
up, and has told its end once since it was started. -/
structure GivenUp (w : World) (reason : String) : Prop where
  stopped : w.registry.state = .stopped
  idle : w.registry.allConsumers = []
  fatal : w.registry.supervisor.AllFatal
  told : w.plan.hasSink = true → w.chronicle.stops = [(true, some reason)]

/-- Whatever does not run has no consumers. -/
theorem Standing.idle (standing : w.Standing) (halted : w.registry.state ≠ .running) :
    w.registry.allConsumers = [] :=
  (standing.sound.consistent standing.kempt).idle halted

/-- **The stop that a monitor has begun leaves the container given up.** -/
theorem GivesUp.given_up (givesUp : w.GivesUp run reason deadline errands) (orderly : w.Orderly)
    (standing : w.Standing) (untold : w.Untold)
    (stopped : (w.follow move).registry.state = .stopped) : (w.follow move).GivenUp reason := by
  obtain ⟨task, fatal, before, after, turn, ends, rest⟩ :=
    (follow_outcome orderly.records orderly.unopened move).ends_of_stopped
      (by rw [givesUp.stopping]; rintro ⟨⟩) stopped
  obtain ⟨m, closing, found, closes, -⟩ := givesUp.closes
  obtain ⟨-, rfl⟩ := EndsStop.by_monitor orderly.custody (stops_of_phase found closes) turn ends
  refine ⟨stopped, (standing.follow orderly.toSound move).idle ?_, ?_, fun sink => ?_⟩
  · rw [stopped]
    rintro ⟨⟩
  · rw [rest.registry, ends.registry]
    exact Supervisor.markAllFatal_allFatal _
  · have heard : after.plan.hasSink = true := by rw [← rest.plan, sink]
    have built : w.plan.hasSink = true := by rw [← turn.plan, ← ends.plan, heard]
    have none_told : before.chronicle.stops = [] := by
      rw [stops_of_events turn.events]
      exact untold built (by rw [givesUp.stopping]; rintro ⟨⟩)
    rw [stops_of_events rest.events, ends.tells, if_pos heard, none_told]
    rfl

/-- **A container that was given up stays so**, whatever happens but a start. -/
theorem GivenUp.follow (givenUp : w.GivenUp reason) (orderly : w.Orderly) (standing : w.Standing)
    (calm : ¬ w.Starts move) : (w.follow move).GivenUp reason := by
  have halted : w.registry.state ≠ .running := by
    rw [givenUp.stopped]
    rintro ⟨⟩
  obtain ⟨rests, same⟩ | ⟨task, fatal, before, after, turn, ends, -⟩ :=
    follow_halts orderly halted calm
  · refine ⟨rests.state.trans givenUp.stopped, ?_, rests.fatal givenUp.fatal, fun sink => ?_⟩
    · exact (standing.follow orderly.toSound move).idle (rests.state ▸ halted)
    · rw [same]
      refine givenUp.told ?_
      rw [← (follow_outcome orderly.records orderly.unopened move).plan, sink]
  · have stopping := (orderly.custody.of_apart turn).stopping task
      (by rw [ends.stops]; exact Option.some_ne_none _)
    rw [turn.registry, givenUp.stopped] at stopping
    cases stopping

/-! ### From the report on -/

/-- What is so at any time that concerns the end of a container. -/
structure Lawful (w : World) : Prop extends Orderly w where
  standing : w.Standing
  untold : w.Untold

theorem new_lawful (plan : Plan) (client : Client) : (World.new plan client).Lawful :=
  ⟨new_orderly plan client, new_standing plan client, new_untold plan client⟩

theorem Lawful.follow (lawful : w.Lawful) (move : Move) : (w.follow move).Lawful :=
  ⟨lawful.toOrderly.follow move, lawful.standing.follow lawful.toSound move,
    (follow_outcome lawful.records lawful.unopened move).untold lawful.untold⟩

theorem Lawful.followAll (lawful : w.Lawful) (moves : List Move) :
    (w.followAll moves).Lawful := by
  induction moves generalizing w with
  | nil => exact lawful
  | cons move moves ih => exact ih (lawful.follow move)

theorem Lawful.course (lawful : w.Lawful) (moves : Nat → Move) (n : Nat) :
    (w.course moves n).Lawful := by
  rw [course_eq_followAll]
  exact lawful.followAll _

/-- **A fatal failure stops the container completely.** From the turn at which its monitor hears of it
nobody is started until the next start; and under a fair schedule the container stops some time, and
until the next start it stays stopped, without consumers, with all queues given up, and its end told
once, as fatal and with the reason. -/
theorem fatal_report_stops (plan : Plan) (client : Client) (moves : List Move) {run id : Nat}
    {queue reason : String} {error : ClientError}
    (hears : ((World.new plan client).followAll moves).Hears run (.failed id queue error))
    (running : ((World.new plan client).followAll moves).registry.state = .running)
    (fatal : (((World.new plan client).followAll moves).registry.consumerFailed queue id error
      ((World.new plan client).followAll moves).instant).1 = some (.ok (.fatal reason)))
    (next : Nat → Move) :
    let w := (World.new plan client).followAll (moves ++ [.turn (.monitor run)])
    (∀ k, (∀ j < k, ¬ (w.course next j).Starts (next j)) → HiresNobody w (w.course next k)) ∧
      (w.Fair next → ∃ n, ∀ k ≥ n,
        (∀ j, n ≤ j → j < k → ¬ (w.course next j).Starts (next j)) →
          (w.course next k).GivenUp reason) := by
  have lawful := (new_lawful plan client).followAll moves
  have last : (World.new plan client).followAll (moves ++ [.turn (.monitor run)]) =
      ((World.new plan client).followAll moves).follow (.turn (.monitor run)) :=
    followAll_append _ moves [.turn (.monitor run)]
  rw [last]
  generalize (World.new plan client).followAll moves = w₀ at *
  obtain ⟨deadline, errands, givesUp, retire⟩ := hears.gives_up lawful.toOrderly running fatal
  have lawful' := lawful.follow (.turn (.monitor run))
  generalize w₀.follow (.turn (.monitor run)) = w at *
  have halted : w.registry.state ≠ .running := by
    rw [givesUp.stopping]
    rintro ⟨⟩
  refine ⟨fun k calm => (course_hiresNobody lawful'.toOrderly halted calm).1, fun fair => ?_⟩
  obtain ⟨n, -, givesUp', stopped⟩ := Fair.giveUp_ends (n := 0) fair lawful'.toOrderly givesUp retire
  refine ⟨n + 1, fun k later => ?_⟩
  induction k, later using Nat.le_induction with
  | base =>
    intro _
    have here := lawful'.course next n
    exact givesUp'.given_up here.toOrderly here.standing here.untold stopped
  | succ k later ih =>
    intro calm
    have here := lawful'.course next k
    have before := ih fun j from_n below => calm j from_n (Nat.lt_succ_of_lt below)
    exact before.follow here.toOrderly here.standing (calm k later (Nat.lt_succ_self k))

/-- A container that is given up when its queue is missing. -/
def strictQueue : Plan := { settings := { queues := ["orders"], missingFatal := true } }

/-- The queue is missing when its consumer is started, and the monitor has yet to hear of it. -/
def missed : List Move :=
  [.start, .turn (.consumer 1), .turn (.monitor 0), .turn (.monitor 0)]

/-- The only queue of the container is missing. -/
theorem fatal_report_stops_missing :
    ∃ n, (((World.new strictQueue {}).followAll (missed ++ [.turn (.monitor 0)])).course sweep
      n).GivenUp "queue 'orders' is missing and missing queues are fatal" := by
  have hears : ((World.new strictQueue {}).followAll missed).Hears 0
      (.failed 1 "orders" (.queueNotFound "orders")) :=
    ⟨⟨.waiting none false, 5000000000, false, [.failed 1 "orders" (.queueNotFound "orders")]⟩, none,
      false, [], by decide +kernel, rfl, rfl, rfl⟩
  have fatal : (((World.new strictQueue {}).followAll missed).registry.consumerFailed "orders" 1
      (.queueNotFound "orders") ((World.new strictQueue {}).followAll missed).instant).1 =
        some (.ok (.fatal "queue 'orders' is missing and missing queues are fatal")) := by
    decide +kernel
  obtain ⟨-, ends⟩ :=
    fatal_report_stops strictQueue {} missed hears (by decide +kernel) fatal sweep
  obtain ⟨n, given⟩ := ends (sweep_fair _)
  exact ⟨n, given n (Nat.le_refl n) fun j from_n below => absurd below (Nat.not_lt_of_le from_n)⟩

end QueueListener.World
