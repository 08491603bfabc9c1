import QueueListener.Container.Calls
/-!
# What leaves the registry alone

**Only the monitor and the calls change the registry.** Telling, waking, counting, asking the broker
and starting or stopping a consumer leave it as it is, together with the plan and the clock.

* `World.Still` — the registry, the plan and the clock are left alone;
* `World.foldl_still`, `World.deliverNotices_still`, `World.apply_still`,
  `World.closeConnection_still`, … — the parts of a turn that are `Still`.
-/

namespace QueueListener.World

/-- The registry, the plan and the clock are left alone. -/
structure Still (w w' : World) : Prop where
  registry : w'.registry = w.registry
  plan : w'.plan = w.plan
  now : w'.now = w.now

variable {w w' w'' : World}

theorem Still.refl (w : World) : w.Still w := ⟨rfl, rfl, rfl⟩

theorem Still.trans (first : w.Still w') (second : w'.Still w'') : w.Still w'' where
  registry := second.registry.trans first.registry
  plan := second.plan.trans first.plan
  now := second.now.trans first.now

/-- What comes last is looked at first. -/
theorem Still.since (last : w'.Still w'') (first : w.Still w') : w.Still w'' := first.trans last

theorem Still.instant (still : w.Still w') : w'.instant = w.instant := by
  unfold World.instant
  rw [still.now]

/-- One step after the other. -/
theorem foldl_still {α : Type} {step : World → α → World}
    (each : ∀ (w : World) (item : α), w.Still (step w item)) (items : List α) (w : World) :
    w.Still (items.foldl step w) := by
  induction items generalizing w with
  | nil => exact .refl w
  | cons item items ih => exact (each w item).trans (ih (step w item))

/-! ### One change -/

section Primitives

variable (w : World) (id run : Nat)

theorem wake_still (task : Task) : w.Still (w.wake task) := ⟨rfl, rfl, rfl⟩

theorem cancelTimer_still (task : Task) (slot : TimerSlot) :
    w.Still (w.cancelTimer task slot) := ⟨rfl, rfl, rfl⟩

theorem updateConsumer_still (f : Consumer → Consumer) : w.Still (w.updateConsumer id f) :=
  ⟨rfl, rfl, rfl⟩

theorem updateMonitor_still (f : Monitor → Monitor) : w.Still (w.updateMonitor run f) :=
  ⟨rfl, rfl, rfl⟩

theorem setMonitorPhase_still (phase : MonitorPhase) : w.Still (w.setMonitorPhase run phase) :=
  updateMonitor_still w run _

theorem publish_still (event : Event) : w.Still (w.publish event) := by
  unfold publish
  split <;> exact ⟨rfl, rfl, rfl⟩

theorem report_still (report : Report) : w.Still (w.report run report) :=
  (wake_still _ _).since ⟨rfl, rfl, rfl⟩

theorem deliverNotice_still (notice : Nat × Notice) : w.Still (w.deliverNotice notice) := by
  unfold deliverNotice
  split
  next => exact (wake_still _ _).since ⟨rfl, rfl, rfl⟩
  next => exact .refl w

theorem deliverNotices_still : w.Still w.deliverNotices := by
  unfold deliverNotices
  dsimp only
  rw [← Array.foldl_toList]
  exact (foldl_still deliverNotice_still _ _).since ⟨rfl, rfl, rfl⟩

theorem send_still (kind : ErrandKind) (recorded : Bool) : w.Still (w.send kind recorded).2 :=
  (wake_still _ _).since ⟨rfl, rfl, rfl⟩

end Primitives

/-! ### Parts of a turn -/

theorem requestStop_still (w : World) (id : Nat) : w.Still (w.requestStop id) :=
  (updateConsumer_still w id _).trans (wake_still _ _)

theorem retire_still (w : World) (id : Nat) : w.Still (w.retire id) := by
  have sent := (requestStop_still w id).trans (send_still _ (.retire id) false)
  exact ⟨sent.registry, sent.plan, sent.now⟩

theorem spawn_still (w : World) (consumer : Nat × String) : w.Still (w.spawn consumer) :=
  (wake_still _ _).since ⟨rfl, rfl, rfl⟩

/-- Starting and retiring consumers is left to their tasks. -/
theorem apply_still (w : World) (changes : Changes) : w.Still (w.apply changes) :=
  (foldl_still spawn_still changes.started w).trans (foldl_still retire_still changes.retired _)

theorem beginClosing_still (w : World) (consumers errands : List Nat) :
    w.Still (w.beginClosing consumers errands).2 :=
  foldl_still requestStop_still consumers w

theorem closeConnection_still (w : World) : w.Still w.closeConnection := by
  unfold closeConnection
  split
  next => exact .refl w
  next => exact (deliverNotices_still _).since ⟨rfl, rfl, rfl⟩

theorem declare_still (w : World) (queue : String) : w.Still (w.declare queue).2 := by
  unfold declare
  split
  next =>
    dsimp only
    split
    next => exact ⟨rfl, rfl, rfl⟩
    next => exact (deliverNotices_still _).since ⟨rfl, rfl, rfl⟩
    next => exact ⟨rfl, rfl, rfl⟩
    next => exact ⟨rfl, rfl, rfl⟩
  next => exact .refl w

theorem endMonitor_still (w : World) (run : Nat) : w.Still (w.endMonitor run).2 := by
  have ended := ((setMonitorPhase_still w run .finished).trans (cancelTimer_still _ (.monitor run)
    .deadline)).trans (cancelTimer_still _ (.monitor run) .period)
  exact ⟨ended.registry, ended.plan, ended.now⟩

theorem loopAgain_still (w : World) (run : Nat) : w.Still (w.loopAgain run).2 := by
  unfold loopAgain
  split
  next => exact endMonitor_still w run
  next => exact setMonitorPhase_still w run .looping

end QueueListener.World
