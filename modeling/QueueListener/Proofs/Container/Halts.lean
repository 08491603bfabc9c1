import QueueListener.Proofs.Container.Happenings
/-!
# A container that does not run

**While a container does not run nobody is started, and it runs again only after a start.** A monitor
or an errand can take consumers off their queues and let them end; queues that are all given up stay
given up, whatever is reported, added or removed.

* `Rests` — nothing begins, and nothing recovers;
* `Deed.rests`, `Happening.rests_or_starts` — that is so of whatever happens but a start;
* `Deed.runs`, `Happening.runs` — a container that runs goes on, or is about to be stopped;
* `Outcome.ends_of_stopped` — so only the end of a stop leaves it stopped.
-/

namespace QueueListener

/-- Queues that were given up stay so when others, or they themselves, are removed. -/
theorem Registry.remove_allFatal {r : Registry} (fatal : r.supervisor.AllFatal)
    (names : List String) : (r.remove names).1.supervisor.AllFatal := by
  have steps : ∀ acc : Registry × List String × List Nat, acc.1.supervisor.AllFatal →
      (names.foldl removeQueue acc).1.supervisor.AllFatal := by
    induction names with
    | nil => exact fun _ fatal => fatal
    | cons name names ih =>
      refine fun acc fatal => ih _ ?_
      unfold removeQueue
      dsimp only
      split
      next => exact fatal.serve (.forget name) (by rintro _ ⟨⟩) (by rintro _ _ _ ⟨⟩)
      next => exact fatal
  exact steps (r, [], []) fatal

namespace World

/-- Nothing begins, and nothing recovers: the container is in the state in which it was, nobody is
registered who was not, no queue that was given up is taken up, and nobody new is known. -/
structure Rests (w w' : World) : Prop where
  state : w'.registry.state = w.registry.state
  startsNone : w.registry.StartsNone w'.registry
  fatal : w.registry.supervisor.AllFatal → w'.registry.supervisor.AllFatal
  unknown : ∀ id, w.consumers.get? id = none → w'.consumers.get? id = none

variable {w w' w'' : World} {task : Task} {move : Move} {id : Nat}

namespace Rests

theorem of_registry (registry : w'.registry = w.registry)
    (unknown : ∀ id, w.consumers.get? id = none → w'.consumers.get? id = none) : w.Rests w' where
  state := congrArg _ registry
  startsNone := .of_consumers (congrArg _ registry) (congrArg _ registry)
  fatal := registry ▸ id
  unknown := unknown

theorem refl (w : World) : w.Rests w := of_registry rfl fun _ => id

theorem trans (first : w.Rests w') (second : w'.Rests w'') : w.Rests w'' where
  state := second.state.trans first.state
  startsNone := first.startsNone.trans second.startsNone
  fatal all := second.fatal (first.fatal all)
  unknown id none := second.unknown id (first.unknown id none)

end Rests

/-! ### Deeds -/

/-- No change makes anybody known. -/
theorem Effect.unknown (effect : Effect task w w') (none : w.consumers.get? id = none) :
    w'.consumers.get? id = .none := by
  have gone : ∀ other, (w.releaseChannel other).2.consumers.get? id = .none := by
    intro other
    rw [releaseChannel_modifies, Table.get?_modify, none]
    split <;> rfl
  cases effect with
  | aside aside => rw [aside.consumers, none]
  | timed | untimed | rested | dropped => exact none
  | @released other => exact gone other
  | touched =>
    rw [updateConsumer_get?, none]
    split <;> rfl
  | ended =>
    rw [ended_consumers, Table.get?_modify, Table.get?_modify, gone]
    split <;> rfl

theorem Effects.unknown (effects : Effects task w w') (none : w.consumers.get? id = none) :
    w'.consumers.get? id = .none := by
  induction effects with
  | refl => exact none
  | tail _ effect ih => exact effect.unknown ih

theorem Effects.rests (effects : Effects task w w') : w.Rests w' :=
  .of_registry effects.quiet.registry fun _ => Effects.unknown effects

theorem Reassigns.rests (reassigns : Reassigns task w w') : w.Rests w' :=
  .of_registry reassigns.registry fun _ none => by rw [reassigns.consumers, none]

/-- **A deed starts nobody while the container does not run.** -/
theorem Deed.rests (deed : Deed task w w') (halted : w.registry.state ≠ .running) : w.Rests w' := by
  cases deed with
  | affected effect => exact Effects.rests (.single effect)
  | informed consumers state last fatal =>
    exact ⟨state, .of_consumers last consumers, fatal halted, fun _ => id⟩
  | dismissed queue done =>
    exact ⟨rfl, Registry.removeConsumer_startsNone _ queue _, id, fun _ => id⟩
  | staffed running | paused queue running => exact absurd running halted
  | reassigned reassigns keeps => exact reassigns.rests
  | @removed names middle _ free after reassigns assigned =>
    have removed : w.Rests { w with registry := (w.registry.remove names).1 } :=
      ⟨Registry.remove_state _ names, Registry.remove_startsNone _ names,
        fun all => Registry.remove_allFatal all names, fun _ => id⟩
    exact (removed.trans (Effects.rests after)).trans reassigns.rests
  | stopBegun fatal free begun after reassigns assigned =>
    exact absurd (Registry.beginStop_stops begun).1 halted

/-- **A container that runs goes on, or is about to be stopped.** -/
theorem Deed.runs (deed : Deed task w w') (running : w.registry.state = .running) :
    w'.registry.state = .running ∨ w'.registry.state = .stopping := by
  cases deed with
  | affected effect => exact .inl (by rw [effect.quiet.registry, running])
  | informed consumers state last fatal => exact .inl (state.trans running)
  | dismissed => exact .inl running
  | @staffed registry changes new _ hands =>
    refine .inl ?_
    rw [(apply_still _ changes).registry]
    exact hands.steady.state.trans running
  | paused queue =>
    refine .inl ?_
    rw [(foldl_still retire_still _ _).registry]
    exact running
  | reassigned reassigns keeps => exact .inl (by rw [reassigns.registry, running])
  | removed free after reassigns assigned =>
    refine .inl ?_
    rw [reassigns.registry, after.quiet.registry]
    exact (Registry.remove_state _ _).trans running
  | stopBegun fatal free begun after reassigns assigned =>
    refine .inr ?_
    rw [reassigns.registry, after.quiet.registry]
    exact (Registry.beginStop_stops begun).2.1

/-! ### Moves -/

/-- **Whatever happens starts nobody while the container does not run**, but for a start. -/
theorem Happening.rests_or_starts (happening : Happening move w w')
    (halted : w.registry.state ≠ .running) : w.Rests w' ∨ move = .start ∧ ∃ registry,
      w.registry.start w.plan.hasManager = .ok (some registry) ∧ w' = w.begun registry := by
  cases happening with
  | apart apart =>
    exact .inl (.of_registry apart.registry fun _ none => by rw [apart.consumers, none])
  | used | sent => exact .inl (.of_registry rfl fun _ => id)
  | @turned own middle _ _ busy does ends begun =>
    refine .inl (.trans (.of_registry does.quiet.registry fun id none => ?_) (Effects.rests ends))
    rw [does.others, none]
    rintro rfl
    obtain ⟨c, found, -⟩ := isFinished_eq_false.mp busy
    rw [found] at none
    cases none
  | deed deed => exact .inl (deed.rests halted)
  | @started registry asked starts => exact .inr ⟨asked, registry, starts, rfl⟩

theorem begun_state (w : World) (registry : Registry) : (w.begun registry).registry = registry :=
  (publish_still _ _).registry

theorem Happening.runs (happening : Happening move w w') (running : w.registry.state = .running) :
    w'.registry.state = .running ∨ w'.registry.state = .stopping := by
  cases happening with
  | apart apart => exact .inl (by rw [apart.registry, running])
  | used | sent => exact .inl running
  | turned _ busy does ends begun =>
    exact .inl (by rw [ends.quiet.registry, does.quiet.registry, running])
  | deed deed => exact deed.runs running
  | started asked starts =>
    refine .inl ?_
    obtain ⟨-, rfl⟩ := Registry.start_begins starts
    rw [begun_state]
    rfl

/-- **Only the end of a stop leaves a container stopped.** -/
theorem Happening.of_stopped (happening : Happening move w w')
    (stopped : w'.registry.state = .stopped) : w.registry.state = .stopped := by
  by_cases running : w.registry.state = .running
  · obtain goesOn | stopping := happening.runs running
    · rw [goesOn] at stopped
      cases stopped
    · rw [stopping] at stopped
      cases stopped
  · obtain rests | ⟨-, registry, starts, rfl⟩ := happening.rests_or_starts running
    · exact rests.state.symm.trans stopped
    · obtain ⟨-, rfl⟩ := Registry.start_begins starts
      rw [begun_state] at stopped
      cases stopped

/-- So whatever has stopped a container in a move was the end of a stop. -/
theorem Outcome.ends_of_stopped (outcome : Outcome move w w') (before : w.registry.state ≠ .stopped)
    (after : w'.registry.state = .stopped) : ∃ task fatal turn rest, w.Apart turn ∧
      EndsStop task fatal turn rest ∧ rest.Apart w' := by
  cases outcome with
  | happens happens =>
    have stopped : w.registry.state = .stopped := by
      induction happens using Relation.ReflTransGen.head_induction_on with
      | refl => exact after
      | head happening _ ih =>
        exact happening.of_stopped (by_contra fun other => absurd (ih other) other)
    exact absurd stopped before
  | endsStop turn ends rest => exact ⟨_, _, _, _, turn, ends, rest⟩

end World

end QueueListener
