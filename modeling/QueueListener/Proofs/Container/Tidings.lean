import QueueListener.Proofs.Container.Halts
/-!
# What is told about the ends of stops

**Only a start and the end of a stop change what is told about the ends of stops**, and until a
container has stopped none was told since it was started.

* `Chronicle.stops` — the ends of stops that were told since the last start;
* `Deed.stops`, `Happening.stops_or_starts` — whatever happens but a start tells none;
* `EndsStop.tells` — the end of a stop tells one;
* `Untold`, `Outcome.untold` — until a container has stopped none was told.
-/

namespace QueueListener

/-- The ends of stops that were told since the last start, after one more event. -/
def Event.addStop (told : List (Bool × Option String)) : Event → List (Bool × Option String)
  | .containerStarted => []
  | .containerStopped fatal reason => told ++ [(fatal, reason)]
  | _ => told

/-- The ends of stops that were told since the last start: whether the container was given up, and for
which reason. -/
def Chronicle.stops (chronicle : Chronicle) : List (Bool × Option String) :=
  chronicle.events.toList.foldl (fun told entry => entry.2.addStop told) []

theorem Event.addStop_of_passing {event : Event} (passing : event.isPassing = true)
    (told : List (Bool × Option String)) : event.addStop told = told := by
  cases event with
  | containerStarted | consumerFailed | consumerTerminated | containerStopped => cases passing
  | consumeOk | idle | queueMissing | queueRecovered => rfl

theorem Event.addStop_of_ending {event : Event} {consumer : String × Option String}
    (ending : event.ending? = some consumer) (told : List (Bool × Option String)) :
    event.addStop told = told := by
  cases event with
  | consumerFailed | consumerTerminated => rfl
  | containerStarted | containerStopped | consumeOk | idle | queueMissing | queueRecovered =>
    cases ending

namespace World

variable {w w' : World} {task : Task} {move : Move} {id : Nat}

theorem stops_of_events (events : w'.chronicle.events = w.chronicle.events) :
    w'.chronicle.stops = w.chronicle.stops := by
  unfold Chronicle.stops
  rw [events]

theorem publish_stops (w : World) (event : Event) : (w.publish event).chronicle.stops =
    if w.plan.hasSink then event.addStop w.chronicle.stops else w.chronicle.stops := by
  unfold publish
  split
  next =>
    unfold Chronicle.stops
    rw [Array.toList_push, List.foldl_append]
    rfl
  next => rfl

/-- An event that adds nothing may be told or not. -/
theorem publish_stops_of_same {event : Event}
    (same : ∀ told, event.addStop told = told) (w : World) :
    (w.publish event).chronicle.stops = w.chronicle.stops := by
  rw [publish_stops, same, ite_self]

/-! ### Consumers -/

theorem deliverNotices_stops (w : World) :
    w.deliverNotices.chronicle.stops = w.chronicle.stops := by
  obtain ⟨handoffs, tasks, same⟩ := w.deliverNotices_shape
  rw [same]

theorem Aside.stops (aside : w.Aside w') : w'.chronicle.stops = w.chronicle.stops := by
  cases aside with
  | asked | fed | noted | woken => rfl
  | delivered => exact deliverNotices_stops w
  | told passing => exact publish_stops_of_same (Event.addStop_of_passing passing) w

theorem releaseChannel_stops (w : World) (id : Nat) :
    (w.releaseChannel id).2.chronicle.stops = w.chronicle.stops := by
  unfold releaseChannel
  split
  next => rfl
  next => exact deliverNotices_stops _

theorem Doing.stops (doing : Doing id w w') : w'.chronicle.stops = w.chronicle.stops := by
  cases doing with
  | aside aside => exact aside.stops
  | worked | subscribed | handed | timed | untimed | written | reported => rfl
  | opened => exact deliverNotices_stops _
  | released => exact releaseChannel_stops w id

theorem Does.stops (does : Does id w w') : w'.chronicle.stops = w.chronicle.stops := by
  induction does with
  | refl => rfl
  | tail _ doing ih => exact doing.stops.trans ih

theorem Effect.stops (effect : Effect task w w') : w'.chronicle.stops = w.chronicle.stops := by
  cases effect with
  | aside aside => exact aside.stops
  | timed | untimed | rested | dropped | touched => rfl
  | @released id => exact releaseChannel_stops w id
  | @ended id c found busy metrics state event told report about =>
    show ((World.reportAny _ c.run report).chronicle).stops = _
    rw [reportAny_chronicle]
    refine (publish_stops_of_same (Event.addStop_of_ending told) _).trans ?_
    exact releaseChannel_stops w id

theorem Effects.stops (effects : Effects task w w') :
    w'.chronicle.stops = w.chronicle.stops := by
  induction effects with
  | refl => rfl
  | tail _ effect ih => exact effect.stops.trans ih

/-! ### The administration -/

theorem spawnAll_chronicle (w : World) (new : List (Nat × String)) :
    (new.foldl spawn w).chronicle = w.chronicle := by
  induction new generalizing w with
  | nil => rfl
  | cons consumer new ih => exact ih (w.spawn consumer)

theorem retireAll_chronicle (w : World) (ids : List Nat) :
    (ids.foldl retire w).chronicle = w.chronicle := by
  induction ids generalizing w with
  | nil => rfl
  | cons id ids ih => exact ih (w.retire id)

/-- **No deed tells the end of a stop.** -/
theorem Deed.stops (deed : Deed task w w') : w'.chronicle.stops = w.chronicle.stops := by
  cases deed with
  | affected effect => exact effect.stops
  | informed | dismissed => rfl
  | @staffed registry changes =>
    unfold apply
    rw [retireAll_chronicle, spawnAll_chronicle]
  | paused => rw [retireAll_chronicle]
  | reassigned reassigns keeps => exact stops_of_events reassigns.events
  | removed free after reassigns assigned =>
    have told := Effects.stops after
    exact (stops_of_events reassigns.events).trans told
  | stopBegun fatal free begun after reassigns assigned =>
    have told := Effects.stops after
    exact (stops_of_events reassigns.events).trans told

/-- **The end of a stop is told**, with its reason. -/
theorem EndsStop.tells {fatal : Option String} (ends : EndsStop task fatal w w') :
    w'.chronicle.stops = if w'.plan.hasSink then w.chronicle.stops ++ [(fatal.isSome, fatal)]
      else w.chronicle.stops := by
  have plan := ends.plan
  obtain ⟨middle, after, before, -, later, reassigns⟩ := ends.ended
  have earlier : middle.chronicle.stops = w.chronicle.stops := Effects.stops before
  have same : after.chronicle.stops = w.chronicle.stops := (Effects.stops later).trans earlier
  have heard : after.plan = w.plan := later.quiet.plan.trans before.quiet.plan
  rw [stops_of_events reassigns.events, publish_stops, same, heard, plan]
  rfl

/-- A start forgets the ends of stops that were told. -/
theorem begun_stops (registry : Registry) (sink : w.plan.hasSink = true) :
    (w.begun registry).chronicle.stops = [] := by
  unfold begun
  rw [publish_stops]
  exact if_pos sink

/-- **Whatever happens but a start tells no end of a stop.** -/
theorem Happening.stops_or_starts (happening : Happening move w w') :
    w'.chronicle.stops = w.chronicle.stops ∨ move = .start ∧ ∃ registry,
      w.registry.start w.plan.hasManager = .ok (some registry) ∧ w' = w.begun registry := by
  cases happening with
  | apart apart => exact .inl (stops_of_events apart.events)
  | used | sent => exact .inl rfl
  | turned _ busy does ends begun => exact .inl ((Effects.stops ends).trans does.stops)
  | deed deed => exact .inl deed.stops
  | @started registry asked starts => exact .inr ⟨asked, registry, starts, rfl⟩

/-! ### Until a container has stopped -/

/-- No end of a stop was told since the last start, unless the container has stopped. -/
def Untold (w : World) : Prop :=
  w.plan.hasSink = true → w.registry.state ≠ .stopped → w.chronicle.stops = []

theorem new_untold (plan : Plan) (client : Client) : (World.new plan client).Untold :=
  fun _ _ => rfl

theorem Happening.untold (happening : Happening move w w') (untold : w.Untold) : w'.Untold := by
  intro sink goesOn
  have heard : w.plan.hasSink = true := happening.plan ▸ sink
  obtain same | ⟨-, registry, -, rfl⟩ := happening.stops_or_starts
  · by_cases stopped : w.registry.state = .stopped
    · obtain rests | ⟨-, registry, -, rfl⟩ :=
        happening.rests_or_starts (by rw [stopped]; rintro ⟨⟩)
      · exact absurd (rests.state.trans stopped) goesOn
      · exact begun_stops registry heard
    · exact same.trans (untold heard stopped)
  · exact begun_stops registry heard

/-- **Until a container has stopped no end of a stop was told**, since it was started. -/
theorem Outcome.untold (outcome : Outcome move w w') (untold : w.Untold) : w'.Untold := by
  cases outcome with
  | happens happens =>
    induction happens with
    | refl => exact untold
    | tail _ happening ih => exact happening.untold ih
  | endsStop turn ends rest =>
    intro _ goesOn
    rw [rest.registry, ends.registry] at goesOn
    exact absurd rfl goesOn

end World

end QueueListener
