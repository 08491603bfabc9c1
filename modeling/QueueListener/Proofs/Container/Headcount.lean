import QueueListener.Proofs.Container.Upkeep
/-!
# The number of consumers of a queue

**Whatever happens to a container and in whichever order, no queue has more consumers than the upper
bound, a missing queue has none, and a step that converges while restarts are not blocked leaves no
queue below the lower bound.** The upper bound comes from the soundness of the registry. For the
lower one each step that converges is followed to its last convergence: what was manned before stays
so, whether or not restarts have been blocked in the meantime by the attempt that began.

* `World.Manned`, `World.Mans` — a queue at the lower bound, and the steps that bring it there;
* `World.lookAround_manned`, `World.recover_manned` — the passes of the monitor;
* `World.Upholds`, `World.run_upholds` — what is true of the consumers after every step of a run.
-/

namespace QueueListener

/-- A convergence while restarts are not blocked leaves no queue that can be consumed below the lower
bound. -/
theorem Registry.converge_manned {r : Registry} (running : r.state = .running)
    (orderly : r.Orderly) {now : Instant} (free : r.supervisor.restartsBlocked now = false)
    {queue : String} (member : queue ∈ (r.converge now).1.queues)
    (consumable : (r.converge now).1.supervisor.isConsumable queue = true) :
    (r.converge now).1.bounds.least ≤ ((r.converge now).1.consumersOf queue).length := by
  have range := (Bounds.range_of_faultless orderly.bounds).2
  have steady := converge_steady running range orderly.distinct now
  rw [steady.queues] at member
  rw [steady.isConsumable] at consumable
  rw [steady.bounds]
  exact (converge_within running range orderly.distinct now member consumable).2 free

/-- Without a round restarts are not blocked, and no attempt is due. -/
theorem Supervisor.round_none_iff {s : Supervisor} {now : Instant} :
    s.round = none ↔ s.restartsBlocked now = false ∧ s.attemptDue now = false := by
  unfold restartsBlocked attemptDue
  cases s.round with
  | none => exact iff_of_true rfl ⟨rfl, rfl⟩
  | some round =>
    refine iff_of_false (Option.some_ne_none _) fun ⟨free, early⟩ => ?_
    simp only [Round.blocks, Round.isDue, Bool.or_eq_false_iff, Bool.and_eq_false_iff,
      Bool.not_eq_false', decide_eq_false_iff_not] at free early
    obtain flies | late := early
    · rw [free.1] at flies
      cases flies
    · exact late (Int.not_lt.mp free.2)

namespace World

variable {w w' : World}

/-! ### The lower bound -/

/-- Whether consumers must not be started now. -/
def blocked (w : World) : Bool := w.registry.supervisor.restartsBlocked w.instant

/-- The number of consumers of a queue reaches the lower bound. -/
def Manned (w : World) (queue : String) : Prop :=
  w.registry.bounds.least ≤ (w.registry.consumersOf queue).length

theorem Redeclares.blocked {acc : Bool × World} (redeclares : Redeclares w acc) :
    acc.2.blocked = w.blocked := by
  unfold World.blocked instant Supervisor.restartsBlocked
  rw [redeclares.round, redeclares.now]

theorem Redeclares.manned {acc : Bool × World} (redeclares : Redeclares w acc) {queue : String}
    (manned : w.Manned queue) : acc.2.Manned queue := by
  unfold Manned
  rw [redeclares.registry]
  exact manned

section Converge

variable (running : w.registry.state = .running) (orderly : w.registry.Orderly) {queue : String}

include running orderly

theorem converge_steady : w.registry.Steady w.converge.registry := by
  rw [converge_registry]
  exact Registry.converge_steady running (Bounds.range_of_faultless orderly.bounds).2
    orderly.distinct w.instant

/-- A convergence while restarts are not blocked mans every queue that can be consumed. -/
theorem converge_manned (free : w.blocked = false)
    (member : queue ∈ w.converge.registry.queues)
    (consumable : w.converge.registry.supervisor.isConsumable queue = true) :
    w.converge.Manned queue := by
  unfold Manned
  rw [converge_registry] at member consumable ⊢
  exact Registry.converge_manned running orderly free member consumable

/-- A queue that is manned stays so, whether or not restarts are blocked. -/
theorem converge_keeps_manned (manned : w.Manned queue) : w.converge.Manned queue := by
  have range := (Bounds.range_of_faultless orderly.bounds).2
  have keeps := Registry.converge_loses_none running range orderly.distinct w.instant queue
  unfold Manned at manned ⊢
  rw [(converge_steady running orderly).bounds, converge_registry]
  exact (le_min manned range).trans keeps

/-- Restarts that are not blocked after a convergence were not blocked before it. -/
theorem free_of_converge (free : w.converge.blocked = false) : w.blocked = false := by
  by_contra blocked
  have stays := Registry.converge_blocked running (Bounds.range_of_faultless orderly.bounds).2
    orderly.distinct w.instant (eq_true_of_ne_false blocked)
  unfold World.blocked instant at free
  rw [converge_registry, converge_now] at free
  exact Bool.false_ne_true (free.symm.trans stays)

/-- Without a round there is none after a convergence. -/
theorem converge_round (calm : w.registry.supervisor.round = none) :
    w.converge.registry.supervisor.round = none := by
  rw [converge_registry, Registry.converge_of_not_due running
    (Bounds.range_of_faultless orderly.bounds).2 orderly.distinct w.instant
    (Supervisor.round_none_iff.mp calm).2]
  exact calm

end Converge

section Passes

variable (sound : w.registry.Sound) (running : w.registry.state = .running)
  (free : w.blocked = false) {queue : String}

include sound running free

/-- A tick begins with a convergence: every queue that can be consumed is manned before missing
queues are looked for. -/
theorem ticked_manned (member : queue ∈ w.ticked.registry.queues)
    (consumable : w.ticked.registry.supervisor.isConsumable queue = true) :
    w.ticked.Manned queue := by
  have staffed := sound.running running
  have alike := (Registry.scaled_looks staffed.distinct w.sample w.instant).alike
  have scaled := Registry.scaled_staffed staffed w.sample w.instant
  unfold Manned
  rw [ticked_registry, Registry.tick_of_running running] at member consumable ⊢
  refine Registry.converge_manned (alike.state.trans running) scaled.toOrderly ?_ member consumable
  rw [alike.supervisor]
  exact free

/-- A tick at which no attempt is due begins none, and restarts are not blocked after it. -/
theorem lookAround_free (early : w.registry.supervisor.attemptDue w.instant = false)
    (looked : w.lookAround = .ok w') : w'.blocked = false := by
  rw [lookAround_of_running running] at looked
  have staffed := sound.running running
  have alike := (Registry.scaled_looks staffed.distinct w.sample w.instant).alike
  have scaled := Registry.scaled_staffed staffed w.sample w.instant
  have calm : w.ticked.registry.supervisor.round = none := by
    rw [ticked_registry, Registry.tick_of_running running]
    dsimp only
    rw [Registry.converge_of_not_due (alike.state.trans running)
      (Bounds.range_of_faultless scaled.bounds).2 scaled.distinct w.instant (by
        rw [alike.supervisor]
        exact early), alike.supervisor]
    exact Supervisor.round_none_iff.mpr ⟨free, early⟩
  obtain ⟨running₁, staffed₁⟩ := ticked_sound running staffed
  obtain ⟨found, w₁, redeclares, rfl⟩ := redeclare_outcome running₁ looked
  have calm₁ : w₁.registry.supervisor.round = none := redeclares.round.trans calm
  cases found with
  | false => exact (Supervisor.round_none_iff.mp calm₁).1
  | true =>
    exact (Supervisor.round_none_iff.mp (converge_round (redeclares.state.trans running₁)
      (redeclares.staffed staffed₁).toOrderly calm₁)).1

/-- **A look at all queues** mans those that could be consumed before it, and unless it makes an
attempt that blocks restarts also those that it has found again. -/
theorem lookAround_manned (looked : w.lookAround = .ok w')
    (member : queue ∈ w'.registry.queues)
    (consumable : w'.registry.supervisor.isConsumable queue = true)
    (either : w.registry.supervisor.isConsumable queue = true ∨
      w.registry.supervisor.attemptDue w.instant = false ∨ w'.blocked = false) :
    w'.Manned queue := by
  replace either : w.registry.supervisor.isConsumable queue = true ∨ w'.blocked = false :=
    either.imp_right fun free' => free'.elim
      (fun early => lookAround_free sound running free early looked) id
  rw [lookAround_of_running running] at looked
  have steady : w.registry.Steady w.ticked.registry := by
    rw [ticked_registry]
    exact Registry.tick_steady running (sound.running running) w.sample w.instant
  obtain ⟨running₁, staffed₁⟩ := ticked_sound running (sound.running running)
  obtain ⟨found, w₁, redeclares, rfl⟩ := redeclare_outcome running₁ looked
  have queues : w₁.registry.queues = w.ticked.registry.queues := by rw [redeclares.registry]
  have running₂ := redeclares.state.trans running₁
  have orderly₂ := (redeclares.staffed staffed₁).toOrderly
  cases found with
  | false =>
    have consumable' : w.ticked.registry.supervisor.isConsumable queue = true := by
      rw [Supervisor.isConsumable_eq, ← redeclares.unfound rfl, ← Supervisor.isConsumable_eq]
      exact consumable
    exact redeclares.manned (ticked_manned sound running free (queues ▸ member) consumable')
  | true =>
    rw [if_pos rfl] at member consumable either ⊢
    obtain consumable' | free' := either
    · rw [(converge_steady running₂ orderly₂).queues, queues] at member
      rw [← steady.isConsumable] at consumable'
      exact converge_keeps_manned running₂ orderly₂
        (redeclares.manned (ticked_manned sound running free member consumable'))
    · exact converge_manned running₂ orderly₂ (free_of_converge running₂ orderly₂ free')
        member consumable

/-- **A recovery** mans every queue that can be consumed after it. -/
theorem recover_manned (recovered : w.recover = .ok w')
    (member : queue ∈ w'.registry.queues)
    (consumable : w'.registry.supervisor.isConsumable queue = true) : w'.Manned queue := by
  obtain ⟨w₁, looked, rfl⟩ := recover_outcome recovered
  obtain ⟨running₁, staffed₁⟩ := redeclare_sound running (sound.running running) looked
  obtain ⟨found, w₂, redeclares, rfl⟩ := redeclare_outcome running looked
  have free₂ : w₂.blocked = false := redeclares.blocked.trans free
  have running₂ := redeclares.state.trans running
  have orderly₂ := (redeclares.staffed (sound.running running)).toOrderly
  cases found with
  | false => exact converge_manned running₂ orderly₂ free₂ member consumable
  | true =>
    -- the first convergence mans the queue; the attempt that it may begin takes nobody away
    have steady₁ := converge_steady running₁ staffed₁.toOrderly
    rw [steady₁.queues] at member
    rw [steady₁.isConsumable] at consumable
    exact converge_keeps_manned running₁ staffed₁.toOrderly
      (converge_manned running₂ orderly₂ free₂ member consumable)

end Passes

/-- The steps that bring a queue up to the lower bound: those that converge while restarts are not
blocked. A look at all queues converges when it begins, and again when it has found a queue; between
the two it blocks restarts itself if it makes the attempt of a round. -/
def Mans (w : World) (queue : String) : Upkeep → Prop
  | .start => w.registry.state ≠ .running ∧ w.start.1 = .ok ()
  | .setBounds bounds =>
    w.registry.state = .running ∧ w.blocked = false ∧ (w.setBounds bounds).1 = .ok ()
  | .addQueues names =>
    w.registry.state = .running ∧ w.blocked = false ∧ (w.addQueues names).1 = .ok ()
  | .lookAround _ => w.registry.state = .running ∧ w.blocked = false ∧
    ∃ w', w.lookAround = .ok w' ∧ (w.registry.supervisor.isConsumable queue = true ∨
      w.registry.supervisor.attemptDue w.instant = false ∨ w'.blocked = false)
  | .recover _ => w.registry.state = .running ∧ w.blocked = false ∧ ∃ w', w.recover = .ok w'
  | _ => False

/-- A call that is accepted while restarts are not blocked mans every queue that can be consumed. -/
theorem adopt_manned (sound : w.registry.Sound) (running : w.registry.state = .running)
    (free : w.blocked = false) {answer : Except Refusal Registry}
    (adopts : ∀ registry, answer = .ok registry → w.registry.Adopts registry)
    (accepted : (w.adopt answer).1 = .ok ()) {queue : String}
    (member : queue ∈ (w.adopt answer).2.registry.queues)
    (consumable : (w.adopt answer).2.registry.supervisor.isConsumable queue = true) :
    (w.adopt answer).2.Manned queue := by
  cases answer with
  | error refusal => cases accepted
  | ok registry =>
    have change := adopts registry rfl
    unfold Manned
    rw [adopt_registry] at member consumable ⊢
    refine Registry.converge_manned (change.state.trans running)
      (change.orderly running (sound.running running).toOrderly) ?_ member consumable
    unfold World.blocked Supervisor.restartsBlocked at free
    unfold Supervisor.restartsBlocked
    rw [change.round]
    exact free

/-- A container that starts mans all its queues. -/
theorem start_manned (sound : w.registry.Sound) (idle : w.registry.state ≠ .running)
    (accepted : w.start.1 = .ok ()) {queue : String}
    (member : queue ∈ w.start.2.registry.queues)
    (consumable : w.start.2.registry.supervisor.isConsumable queue = true) :
    w.start.2.Manned queue := by
  cases started : w.registry.start w.plan.hasManager with
  | error refusal =>
    unfold start at accepted
    rw [started] at accepted
    cases accepted
  | ok answer =>
    cases answer with
    | none => exact absurd (Registry.running_of_start_none started) idle
    | some registry =>
      obtain ⟨running, orderly, round⟩ := Registry.start_orderly sound started
      unfold Manned
      rw [start_registry started] at member consumable ⊢
      refine Registry.converge_manned running orderly ?_ member consumable
      unfold Supervisor.restartsBlocked
      rw [round]

/-! ### Every step of a run -/

/-- What is true of the consumers after a step. -/
structure Upholds (w : World) (act : Upkeep) : Prop where
  /-- No queue has more consumers than the upper bound. -/
  most : ∀ queue, ((w.undergo act).registry.consumersOf queue).length ≤
    (w.undergo act).registry.bounds.most
  /-- A missing queue has none. -/
  missing : ∀ queue, (w.undergo act).registry.supervisor.state? queue = some .missing →
    (w.undergo act).registry.consumersOf queue = []
  /-- A queue that can be consumed reaches the lower bound by a step that brings it there. -/
  least : ∀ queue ∈ (w.undergo act).registry.queues,
    (w.undergo act).registry.supervisor.isConsumable queue = true → w.Mans queue act →
      (w.undergo act).Manned queue
  /-- A look at all queues that comes next moves none by more than one consumer, nor across a
  bound. -/
  scaling : (w.undergo act).registry.state = .running → ∀ sample now queue,
    Registry.Nudges (w.undergo act).registry.bounds
      ((w.undergo act).registry.consumersOf queue).length
      (((w.undergo act).registry.scaled sample now).1.consumersOf queue).length
  /-- Convergences are exact, also the one that belongs to the step itself: it meets the queues and
  the bounds that there are after the step. -/
  exact : (w.undergo act).registry.state = .running → ∀ (r : Registry) (now : Instant),
    r.state = .running → r.queues = (w.undergo act).registry.queues →
      r.bounds = (w.undergo act).registry.bounds → r.ConvergesExactly now

theorem undergo_manned (sound : w.registry.Sound) (act : Upkeep) {queue : String}
    (member : queue ∈ (w.undergo act).registry.queues)
    (consumable : (w.undergo act).registry.supervisor.isConsumable queue = true)
    (mans : w.Mans queue act) : (w.undergo act).Manned queue := by
  cases act with
  | start => exact start_manned sound mans.1 mans.2 member consumable
  | setBounds bounds =>
    obtain ⟨running, free, accepted⟩ := mans
    exact adopt_manned sound running free (fun _ => Registry.setBounds_adopts) accepted member
      consumable
  | addQueues names =>
    obtain ⟨running, free, accepted⟩ := mans
    exact adopt_manned sound running free (fun _ => Registry.add_adopts) accepted member
      consumable
  | lookAround run =>
    obtain ⟨running, free, w', looked, either⟩ := mans
    have same := loopUnless_registry w run looked
    unfold Manned
    unfold undergo at member consumable ⊢
    rw [same] at member consumable ⊢
    exact lookAround_manned sound running free looked member consumable either
  | recover run =>
    obtain ⟨running, free, w', recovered⟩ := mans
    have same := loopUnless_registry w run recovered
    unfold Manned
    unfold undergo at member consumable ⊢
    rw [same] at member consumable ⊢
    exact recover_manned sound running free recovered member consumable
  | removeQueues | report | stop | stopped | meanwhile => exact mans.elim

/-- **The consumers of a queue stay within the bounds**, after every step of every run. -/
theorem run_upholds (plan : Plan) (client : Client) (acts : List Upkeep) (act : Upkeep) :
    ((World.new plan client).undergoAll acts).Upholds act := by
  have before := run_sound plan client acts
  have after := undergo_sound before act
  by_cases running : (((World.new plan client).undergoAll acts).undergo act).registry.state = .running
  · have staffed := after.running running
    exact {
      most := staffed.most
      missing := staffed.missing
      least := fun queue member consumable mans => undergo_manned before act member consumable mans
      scaling := fun _ sample now queue =>
        (Registry.scaled_looks staffed.distinct sample now).counts queue
      exact := fun _ r now runs queues bounds => Registry.converge_exact runs
        (bounds ▸ (Bounds.range_of_faultless staffed.bounds).2) (queues ▸ staffed.distinct) now }
  · have empty := after.idle running
    exact {
      most := fun queue => by
        rw [empty queue]
        exact Nat.zero_le _
      missing := fun queue _ => empty queue
      least := fun queue member consumable mans => undergo_manned before act member consumable mans
      scaling := fun runs => absurd runs running
      exact := fun runs => absurd runs running }

/-- Two queues, each with one to three consumers. -/
def twoQueues : Plan := { settings := { queues := ["orders", "mail"], bounds := ⟨1, 3⟩ } }

/-- The container starts, and a consumer finds out that its queue does not exist. -/
def mailIsMissing : List Upkeep := [.start, .report 0 (.failed 2 "mail" (.queueNotFound "mail"))]

/-- With new bounds the queue that is there gets a second consumer, and the missing one none. -/
theorem run_upholds_mailIsMissing :
    ((World.new twoQueues {}).undergoAll mailIsMissing).Mans "orders" (.setBounds ⟨2, 3⟩) ∧
      (((World.new twoQueues {}).undergoAll mailIsMissing).undergo (.setBounds ⟨2, 3⟩)).Manned
        "orders" ∧
      (((World.new twoQueues {}).undergoAll mailIsMissing).undergo
        (.setBounds ⟨2, 3⟩)).registry.consumersOf "mail" = [] := by
  have upholds := run_upholds twoQueues {} mailIsMissing (.setBounds ⟨2, 3⟩)
  have mans : ((World.new twoQueues {}).undergoAll mailIsMissing).Mans "orders"
      (.setBounds ⟨2, 3⟩) := ⟨by decide +kernel, by decide +kernel, by decide +kernel⟩
  exact ⟨mans, upholds.least "orders" (by decide +kernel) (by decide +kernel) mans,
    upholds.missing "mail" (by decide +kernel)⟩

end World

end QueueListener
