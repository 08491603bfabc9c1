import QueueListener.Proofs.Container.Stops
import QueueListener.Proofs.Container.Tending
/-!
# Nothing that a consumer was sent is lost

**What a consumer was sent and has not taken up is unsettled at any time**, so that it can be given back
when the consumer is asked to stop. From then on it takes up nothing more, and the end of its session
gives back whatever is buffered.

* `World.Holds` — a consumer has lost nothing on a channel;
* `World.Turned`, `consumerTurn_turned` — its own turns;
* `World.Tended`, `Tended.followAll` — so it is at any time;
* `World.Bides`, `Tended.bides` — since a consumer was asked to stop;
* `run_gives_back` — a consumer that ends gives back what is buffered.
-/

namespace QueueListener

namespace World

variable {w w' w'' : World} {id channel : Nat} {freed : Nat → Nat → Prop} {move : Move}

/-- A consumer has lost nothing on a channel that it expects: it has yet to open it, or it is in its
session on it. -/
inductive Holds (w : World) (id channel : Nat) (freed : Nat → Prop) : Prop
  | unborn (later : w.client.broker.lastId < channel)
      (opening : ∀ c, w.consumers.get? id = some c → c.phase = .opening)
      (lined : w.Lined ⟨id, channel, 0, freed⟩)
  | seated (floor : Nat) (minded : w.Minded ⟨id, channel, floor, freed⟩)

/-- Nothing was sent on a channel that is yet to be opened. -/
theorem Lined.nothing {line : Line} (lined : w.Lined line) (divided : w.Divided)
    (later : w.client.broker.lastId < line.channel) : w.buffered line.subscriber = [] := by
  refine Broker.Lines.nothing lined (Broker.lastTagOf_of_none ?_)
  exact Table.get?_eq_none_iff.mpr fun member =>
    absurd (divided.tidy.numbered _ member) (Nat.not_le.mpr later)

/-! ### What others leave -/

/-- What is written about a consumer in its session. -/
theorem Seated.known {line : Line} (seated : w.Seated line) : ∃ c s,
    w.consumers.get? line.subscriber = some c ∧ c.session = some s ∧ s.channel.target = line.channel ∧
      c.channel.map (·.target) = some line.channel := by
  obtain ⟨stopped, placed⟩ := seated.placed
  obtain ⟨c, found, same⟩ := Option.map_eq_some_iff.mp placed
  obtain ⟨holds, opened, -⟩ := Prod.mk.inj same |>.imp_right Prod.mk.inj
  obtain ⟨s, opened, on⟩ := Option.map_eq_some_iff.mp opened
  exact ⟨c, s, found, opened, on, holds⟩

/-- Others have left a consumer in its session, if it still expects its channel. -/
theorem Beside.kept {line : Line} (beside : Beside line.subscriber line.channel line.freed w w')
    (divided : w.Divided) (seated : w.Seated line) (expects : w'.Expects line.subscriber line.channel) :
    ∃ c c', w.consumers.get? line.subscriber = some c ∧
      w'.consumers.get? line.subscriber = some c' ∧ c.Kin c' := by
  obtain ⟨c, s, found, opened, on, holds⟩ := seated.known
  obtain ⟨unborn, -⟩ | ⟨c', found', busy, -⟩ := expects
  · have given := divided.numbered _ c line.channel found (.inl holds)
    exact absurd (Nat.le_trans given beside.lastId) (Nat.not_le.mpr unborn)
  · have follows := beside.follows
    rw [found, found'] at follows
    cases follows with
    | kept kin => exact ⟨c, c', found, found', kin⟩
    | ended done => exact absurd done busy

/-- **What is not the consumer's own doing leaves it in its session.** -/
theorem Minded.beside {line : Line} (minded : w.Minded line)
    (beside : Beside line.subscriber line.channel line.freed w w') (divided : w.Divided)
    (plan : w'.plan = w.plan) (expects : w'.Expects line.subscriber line.channel) :
    w'.Minded line := by
  obtain ⟨c, c', found, found', kin⟩ := beside.kept divided minded.toSeated expects
  obtain ⟨⟨stopped, placed⟩, abreast, lined, h, handed, accepting⟩ := minded.toSeated
  have tends := beside.tends expects line.floor
  obtain ⟨h', handed', accepting', -⟩ := tends.handed h handed accepting
  refine ⟨⟨⟨c'.stopRequested, ?_⟩, fun c₁ s found₁ opened => ?_, tends.lined lined, h', handed',
    accepting'⟩, fun c₁ work found₁ listens => ?_⟩
  · rw [place_eq found] at placed
    rw [place_eq found', kin.channel, kin.session]
    obtain ⟨holds, on, -⟩ := Prod.mk.inj (Option.some.inj placed) |>.imp_right Prod.mk.inj
    rw [holds, on]
  · obtain rfl := Option.some.inj (found'.symm.trans found₁)
    obtain ⟨taken, empty⟩ := abreast c s found (kin.session ▸ opened)
    exact ⟨taken, empty⟩
  · obtain rfl := Option.some.inj (found'.symm.trans found₁)
    rw [plan]
    exact minded.listens c work found (kin.phase ▸ listens)

theorem Holds.beside {freed : Nat → Prop} (holds : w.Holds id channel freed)
    (beside : Beside id channel freed w w') (divided : w.Divided) (plan : w'.plan = w.plan)
    (expects : w'.Expects id channel) : w'.Holds id channel freed := by
  cases holds with
  | seated floor minded => exact .seated floor (minded.beside beside divided plan expects)
  | unborn later opening lined =>
    obtain ⟨later', opening'⟩ | ⟨c', found', busy, on⟩ := expects
    · exact .unborn later' opening' ((beside.tends (.inl ⟨later', opening'⟩) 0).lined lined)
    · have follows := beside.follows
      rw [found'] at follows
      generalize same : w.consumers.get? id = before at follows
      cases follows with
      | new _ session none =>
        unfold Consumer.On at on
        rw [session, none] at on
        obtain none | none := on <;> cases none
      | @kept c _ kin =>
        exact absurd (divided.numbered id c channel same (kin.on on)) (Nat.not_le.mpr later)
      | ended done => exact absurd done busy

/-! ### The consumer's own turns -/

/-- Everything is in order with a consumer, and it has lost nothing. -/
structure Tended (w : World) (id : Nat) (freed : Nat → Nat → Prop) : Prop where
  sound : w.Sound
  divided : w.Divided
  pushes : w.plan.settings.reception = .push
  kept : w.plan.settings.ackMode ≠ .none
  frees : ∀ channel, w.plan.listener.Frees (freed channel)
  holds : ∀ channel, w.Expects id channel → w.Holds id channel (freed channel)

/-- What a consumer may have done in its turn. -/
inductive TookTurn (id : Nat) (freed : Nat → Nat → Prop) (w w' : World) : Prop
  | rested (same : w' = w)
  | ended {c : Consumer} (known : w.consumers.get? id = some c) (done : w'.isFinished id = true)
  /-- It has begun its session on a new channel. -/
  | began (channel : Nat) (opening : ∀ c, w.consumers.get? id = some c → c.phase = .opening)
      (later : w.client.broker.lastId < channel)
      (minded : w.Lined ⟨id, channel, 0, freed channel⟩ → w'.Minded ⟨id, channel, 0, freed channel⟩)
      (place : ∃ c, w.consumers.get? id = some c ∧
        w'.place id = some (some channel, some channel, c.stopRequested))
      (receives : ∀ c', w'.consumers.get? id = some c' → c'.phase = .receiving none)
  /-- It went on in its session. -/
  | served (channel floor : Nat) (minded : w.Minded ⟨id, channel, floor, freed channel⟩)
      (served : Served ⟨id, channel, floor, freed channel⟩ w w')

/-- A consumer in its session has lost nothing on its channel. -/
theorem Tended.minded (tended : w.Tended id freed) {c : Consumer} {s : Session}
    (known : w.consumers.get? id = some c) (opened : c.session = some s)
    (begun : c.phase ≠ .opening) (busy : c.phase ≠ .finished) :
    ∃ floor, w.Minded ⟨id, s.channel.target, floor, freed s.channel.target⟩ := by
  have expects : w.Expects id s.channel.target :=
    .inr ⟨c, known, busy, .inr (by rw [opened]; rfl)⟩
  cases tended.holds _ expects with
  | unborn _ opening => exact absurd (opening c known) begun
  | seated floor minded => exact ⟨floor, minded⟩

/-- Nothing was lost of a channel that a consumer has yet to open. -/
theorem Tended.unborn (tended : w.Tended id freed) (later : w.client.broker.lastId < channel)
    (opening : ∀ c, w.consumers.get? id = some c → c.phase = .opening) :
    w.Lined ⟨id, channel, 0, freed channel⟩ := by
  cases tended.holds channel (.inl ⟨later, opening⟩) with
  | unborn _ _ lined => exact lined
  | seated floor minded =>
    obtain ⟨c, _, known, -, -, has⟩ := minded.known
    rw [tended.sound.unopened id c known (opening c known)] at has
    cases has

/-- **What a consumer may have done in its turn.** -/
theorem consumerTurn_tookTurn (tended : w.Tended id freed) :
    TookTurn id freed w (w.consumerTurn id).2 := by
  unfold consumerTurn
  split
  next => exact .rested rfl
  next c known =>
    split
    next opening =>
      split
      next w' opened =>
        obtain ⟨channel, later, minded, place, receives⟩ := openSession_seats freed known
          tended.divided.tidy tended.pushes tended.kept opened
        refine .began channel (fun c' found => ?_) later minded ⟨c, known, place⟩ receives
        rw [← Option.some.inj (known.symm.trans found), opening]
      next => exact .ended known (finish_finishes _)
    next => exact .rested rfl
    next s opened begun busy =>
      obtain ⟨floor, minded⟩ := tended.minded known opened begun busy
      exact .served _ floor minded (receive_served minded tended.pushes (tended.frees _) known opened)
    next => exact .rested rfl

theorem Does.known (does : Does id w w') {c : Consumer} (known : w.consumers.get? id = some c) :
    ∃ c', w'.consumers.get? id = some c' := by
  induction does with
  | refl => exact ⟨c, known⟩
  | tail _ doing ih =>
    obtain ⟨c', known'⟩ := ih
    obtain ⟨c'', known'', -⟩ := doing.self known'
    exact ⟨c'', known''⟩

/-- A consumer keeps its record, and shares no channel, in its turn. -/
theorem consumerTurn_keeps (unopened : w.Unopened) (divided : w.Divided) (id : Nat) :
    (w.consumerTurn id).2.Divided ∧ ∀ c, w.consumers.get? id = some c →
      ∃ c', (w.consumerTurn id).2.consumers.get? id = some c' := by
  cases busy : w.isFinished id with
  | true =>
    rw [consumerTurn_of_finished busy]
    exact ⟨divided, fun c known => ⟨c, known⟩⟩
  | false =>
    obtain ⟨middle, does, same | ⟨result, same⟩⟩ := consumerTurn_acts w id (unopened id)
    · exact same ▸ ⟨does.divided divided, fun c known => does.known known⟩
    · have ended : Effects (.consumer id) middle (middle.finish id result) :=
        finish_effects (does.busy busy) result
      have beside : Beside id 0 (fun _ => False) middle (middle.finish id result) :=
        Effects.beside ended (does.divided divided)
      refine same ▸ ⟨beside.divided, fun c known => ?_⟩
      obtain ⟨c', known'⟩ := does.known known
      have follows := beside.follows
      rw [known'] at follows
      generalize (middle.finish id result).consumers.get? id = after at follows
      cases follows with
      | kept => exact ⟨_, rfl⟩
      | ended => exact ⟨_, rfl⟩

/-- A consumer that has begun expects no channel but its own. -/
theorem Expects.own (expects : w.Expects id channel)
    (begun : ∀ c, w.consumers.get? id = some c → c.phase ≠ .opening) {other : Nat} {stopped : Bool}
    (place : w.place id = some (some other, some other, stopped)) : channel = other := by
  obtain ⟨c, known, same⟩ := Option.map_eq_some_iff.mp place
  obtain ⟨holds, opened, -⟩ := Prod.mk.inj same |>.imp_right Prod.mk.inj
  obtain ⟨-, opening⟩ | ⟨c', known', -, has | has⟩ := expects
  · exact absurd (opening c known) (begun c known)
  · obtain rfl := Option.some.inj (known.symm.trans known')
    exact Option.some.inj (has.symm.trans holds)
  · obtain rfl := Option.some.inj (known.symm.trans known')
    exact Option.some.inj (has.symm.trans opened)

/-- **After its own turn a consumer has lost nothing.** -/
theorem TookTurn.holds (took : TookTurn id freed w w') (tended : w.Tended id freed)
    (known : ∀ c, w.consumers.get? id = some c → ∃ c', w'.consumers.get? id = some c')
    (begun : ∀ c', w'.consumers.get? id = some c' → c'.phase ≠ .opening)
    (expects : w'.Expects id channel) : w'.Holds id channel (freed channel) := by
  -- whoever is in its session expects the channel of the session
  have seats : ∀ {other floor : Nat}, w'.Minded ⟨id, other, floor, freed other⟩ →
      w'.Holds id channel (freed channel) := by
    intro other floor minded
    obtain ⟨_, placed⟩ := minded.placed
    obtain rfl := expects.own begun placed
    exact .seated floor minded
  have works : ∀ {c : Consumer}, w.consumers.get? id = some c → ¬ w'.isFinished id = true := by
    intro c known₀ done
    obtain ⟨c', known'⟩ := known c known₀
    exact expects.working known' (isFinished_eq_true.mp done c' known')
  cases took with
  | rested same =>
    subst same
    exact tended.holds channel expects
  | ended known₀ done => exact absurd done (works known₀)
  | began other opening later minded place receives =>
    -- the channel is the new one, on which nothing was sent before
    obtain ⟨_, -, place⟩ := place
    obtain rfl := expects.own begun place
    exact .seated 0 (minded (tended.unborn later opening))
  | served other floor minded served =>
    cases served with
    | ended done =>
      obtain ⟨c, _, known₀, -⟩ := minded.known
      exact absurd done (works known₀)
    | received running floor' minded' place => exact seats minded'
    | listened attends minded' same => exact seats minded'

/-! ### Any move -/

/-- A move that is no operation at the broker, or one that registers nobody for a consumer and settles
only what others are free to settle. -/
def Allows (id : Nat) (freed : Nat → Nat → Prop) (move : Move) : Prop :=
  ∀ op, move = .administer op → ∀ channel, op.Respects id channel (freed channel)

theorem Apart.beside (apart : w.Apart w') (divided : w.Divided) {freed : Nat → Prop} :
    Beside id channel freed w w' := .of_same divided apart.client apart.consumers apart.handoffs

/-- What is not the consumer's own doing takes nothing away from it. -/
theorem Tended.beside (tended : w.Tended id freed) (sound : w'.Sound) (plan : w'.plan = w.plan)
    (beside : ∀ channel, Beside id channel (freed channel) w w') : w'.Tended id freed where
  sound := sound
  divided := (beside 0).divided
  pushes := plan ▸ tended.pushes
  kept := plan ▸ tended.kept
  frees := plan ▸ tended.frees
  holds channel expects := (tended.holds channel ((beside channel).expects expects)).beside
    (beside channel) tended.divided plan expects

/-- A turn of a consumer, and what surrounds it. -/
theorem Tended.take (tended : w.Tended id freed) : ∃ before after : World, w.Apart before ∧
    before.Tended id freed ∧ TookTurn id freed before after ∧ after.Divided ∧
    after.plan = before.plan ∧ (∀ c, before.consumers.get? id = some c →
      ∃ c', after.consumers.get? id = some c') ∧
    (∀ c', after.consumers.get? id = some c' → c'.phase ≠ .opening) ∧
    after.Apart (w.take (.consumer id)) := by
  have apart := give_apart w (.consumer id)
  have sound : ({ w with agenda := w.agenda.give (.consumer id) } : World).Sound :=
    ⟨tended.sound.records.of_apart apart, tended.sound.custody.of_apart apart,
      tended.sound.unopened.of_consumers apart.consumers⟩
  have given : ({ w with agenda := w.agenda.give (.consumer id) } : World).Tended id freed :=
    tended.beside sound apart.plan fun _ => apart.beside tended.divided
  obtain ⟨divided, known⟩ := consumerTurn_keeps sound.unopened given.divided id
  refine ⟨_, _, apart, given, consumerTurn_tookTurn given, divided,
    (consumerTurn_quiet sound.unopened id).plan, known,
    fun c' known' => consumerTurn_begun sound.unopened known', ?_⟩
  unfold World.take
  split
  next w' goesOn =>
    have turned : (({ w with agenda := w.agenda.give (.consumer id) } : World).consumerTurn id).2 =
      w' := congrArg Prod.snd goesOn
    exact turned ▸ .refl _
  next w' pauses =>
    have turned : (({ w with agenda := w.agenda.give (.consumer id) } : World).consumerTurn id).2 =
      w' := congrArg Prod.snd pauses
    exact turned ▸ ⟨rfl, rfl, rfl, rfl, rfl, rfl, rfl, rfl, rfl⟩

/-- **Whatever moves a container, a consumer loses nothing.** -/
theorem Tended.follow (tended : w.Tended id freed) (allowed : Allows id freed move) :
    (w.follow move).Tended id freed := by
  have sound := tended.sound.follow move
  have outcome := follow_outcome tended.sound.records tended.sound.unopened move
  by_cases own : move = .turn (.consumer id)
  · subst own
    obtain ⟨before, after, -, given, took, divided, plan, known, begun, rest⟩ := tended.take
    have beside : ∀ channel, Beside id channel (freed channel) after (w.take (.consumer id)) :=
      fun _ => rest.beside divided
    refine ⟨sound, (beside 0).divided, outcome.plan ▸ tended.pushes, outcome.plan ▸ tended.kept,
      outcome.plan ▸ tended.frees, fun channel expects => ?_⟩
    exact (took.holds given known begun ((beside channel).expects expects)).beside (beside channel)
      divided rest.plan expects
  · exact tended.beside sound outcome.plan fun channel =>
      outcome.beside ⟨own, fun op asked => allowed op asked channel⟩ tended.sound.records
        tended.divided

/-- **At any time a consumer has lost nothing.** -/
theorem Tended.followAll (tended : w.Tended id freed) {moves : List Move}
    (allowed : ∀ move ∈ moves, Allows id freed move) : (w.followAll moves).Tended id freed := by
  induction moves generalizing w with
  | nil => exact tended
  | cons move moves ih =>
    exact ih (tended.follow (allowed move List.mem_cons_self))
      fun other among => allowed other (List.mem_cons_of_mem _ among)

/-- A consumer was asked to stop, or has ended. -/
def Leaving (w : World) (id : Nat) : Prop :=
  ∃ c, w.consumers.get? id = some c ∧ (c.phase = .finished ∨ c.stopRequested = true)

/-- A consumer that is to stop takes up nothing more, and loses nothing that is buffered. -/
structure Bides (id channel : Nat) (w w' : World) : Prop where
  leaving : w'.Leaving id
  expects : w'.Expects id channel → w.Expects id channel
  buffered : w'.Expects id channel → w.buffered id <+: w'.buffered id
  listens : ∀ c' now, w'.consumers.get? id = some c' → c'.phase = .listening now →
    ∃ c work, w.consumers.get? id = some c ∧ c.phase = .listening work ∧
      now.call.delivery = work.call.delivery ∧ now.since = work.since

theorem Bides.refl (leaving : w.Leaving id) : Bides id channel w w where
  leaving := leaving
  expects expects := expects
  buffered _ := List.prefix_refl _
  listens c now known listens := ⟨c, now, known, listens, rfl, rfl⟩

theorem Bides.trans (first : Bides id channel w w') (second : Bides id channel w' w'') :
    Bides id channel w w'' where
  leaving := second.leaving
  expects expects := first.expects (second.expects expects)
  buffered expects :=
    (first.buffered (second.expects expects)).trans (second.buffered expects)
  listens c'' now known listens := by
    obtain ⟨c', work', known', listens', delivery, since⟩ := second.listens c'' now known listens
    obtain ⟨c, work, known, listens, delivery', since'⟩ := first.listens c' work' known' listens'
    exact ⟨c, work, known, listens, delivery.trans delivery', since.trans since'⟩

theorem Apart.bides (apart : w.Apart w') (leaving : w.Leaving id) : Bides id channel w w' := by
  have expects : w'.Expects id channel → w.Expects id channel := by
    unfold Expects
    rw [apart.client, apart.consumers]
    exact fun expects => expects
  have buffered : w'.buffered id = w.buffered id := by
    unfold World.buffered
    rw [waiting_congr (congrArg (·.get? id) apart.handoffs), apart.client]
  obtain ⟨c, known, leaves⟩ := leaving
  refine ⟨⟨c, apart.consumers ▸ known, leaves⟩, expects, fun _ => buffered ▸ List.prefix_refl _,
    fun c' now known' listens => ?_⟩
  exact ⟨c', now, apart.consumers ▸ known', listens, rfl, rfl⟩

/-- What is not its own doing. -/
theorem Tended.bides_beside (tended : w.Tended id freed) (leaving : w.Leaving id)
    (beside : Beside id channel (freed channel) w w') : Bides id channel w w' := by
  obtain ⟨c, known, leaves⟩ := leaving
  have follows := beside.follows
  rw [known] at follows
  refine ⟨?_, beside.expects, fun expects => ?_, fun c' now known' listens => ?_⟩
  · generalize same : w'.consumers.get? id = after at follows
    cases follows with
    | kept kin => exact ⟨_, same, leaves.imp (kin.phase.trans ·) kin.stopped⟩
    | ended done => exact ⟨_, same, .inl done⟩
  · cases tended.holds channel (beside.expects expects) with
    | unborn later opening lined =>
      rw [lined.nothing tended.divided later]
      exact List.nil_prefix
    | seated floor minded =>
      obtain ⟨h, handed, accepting⟩ := minded.handed
      obtain ⟨_, -, -, kept⟩ := (beside.tends expects floor).handed h handed accepting
      exact kept
  · rw [known'] at follows
    cases follows with
    | kept kin => exact ⟨c, now, known, kin.phase ▸ listens, rfl, rfl⟩
    | ended done => cases done.symm.trans listens

/-- Its own turn. -/
theorem TookTurn.bides (took : TookTurn id freed w w') (tended : w.Tended id freed)
    (leaving : w.Leaving id)
    (known : ∀ c, w.consumers.get? id = some c → ∃ c', w'.consumers.get? id = some c')
    (begun : ∀ c', w'.consumers.get? id = some c' → c'.phase ≠ .opening) :
    Bides id channel w w' := by
  obtain ⟨c, found, leaves⟩ := leaving
  obtain ⟨c', found'⟩ := known c found
  have ends : w'.isFinished id = true → Bides id channel w w' := by
    intro done
    have finished := isFinished_eq_true.mp done
    refine ⟨⟨c', found', .inl (finished c' found')⟩, fun expects => ?_, fun expects => ?_,
      fun c'' now found'' listens => ?_⟩
    · exact absurd (finished c' found') (expects.working found')
    · exact absurd (finished c' found') (expects.working found')
    · cases (finished c'' found'').symm.trans listens
  cases took with
  | rested same =>
    subst same
    exact .refl ⟨c, found, leaves⟩
  | ended _ done => exact ends done
  | began other opening later minded place receives =>
    obtain ⟨c₀, found₀, place⟩ := place
    obtain rfl := Option.some.inj (found.symm.trans found₀)
    have stopped : c'.stopRequested = true := by
      rw [place_eq found'] at place
      obtain ⟨-, -, same⟩ := Prod.mk.inj (Option.some.inj place) |>.imp_right Prod.mk.inj
      refine same.trans (leaves.resolve_left fun done => ?_)
      cases done.symm.trans (opening c found)
    refine ⟨⟨c', found', .inr stopped⟩, fun expects => ?_, fun expects => ?_,
      fun c'' now found'' listens => ?_⟩
    · exact .inl ⟨expects.own begun place ▸ later, opening⟩
    · obtain rfl := expects.own begun place
      rw [(tended.unborn later opening).nothing tended.divided later]
      exact List.nil_prefix
    · cases (receives c'' found'').symm.trans listens
  | served other floor minded served =>
    obtain ⟨c₀, s, found₀, opened, on, holds⟩ := minded.known
    obtain rfl := Option.some.inj (found.symm.trans found₀)
    have busy : c.phase ≠ .finished := by
      intro done
      rw [tended.sound.records.released id c found done] at holds
      cases holds
    have asked := leaves.resolve_left busy
    cases served with
    | ended done => exact ends done
    | received running => exact absurd (running c found) (by rw [asked]; nofun)
    | listened attends minded' same =>
      obtain ⟨_, placed⟩ := minded'.placed
      have stopped : c'.stopRequested = true := by
        have place := attends.place
        rw [place_eq found', place_eq found] at place
        exact (Prod.mk.inj (Prod.mk.inj (Option.some.inj place)).2).2.trans asked
      refine ⟨⟨c', found', .inr stopped⟩, fun expects => ?_, fun _ => attends.buffered minded.toSeated,
        same⟩
      obtain rfl := expects.own begun placed
      exact .inr ⟨c, found, busy, .inl holds⟩

/-- **Since a consumer was asked to stop it has taken up nothing**, and has lost nothing. -/
theorem Tended.bides_follow (tended : w.Tended id freed) (leaving : w.Leaving id)
    (allowed : Allows id freed move) (channel : Nat) : Bides id channel w (w.follow move) := by
  by_cases own : move = .turn (.consumer id)
  · subst own
    obtain ⟨before, after, first, given, took, divided, plan, known, begun, rest⟩ := tended.take
    have begins : Bides id channel w before := first.bides leaving
    have turn : Bides id channel before after := took.bides given begins.leaving known begun
    exact (begins.trans turn).trans (rest.bides turn.leaving)
  · exact tended.bides_beside leaving ((follow_outcome tended.sound.records tended.sound.unopened
      move).beside ⟨own, fun op asked => allowed op asked channel⟩ tended.sound.records tended.divided)

theorem Tended.bides (tended : w.Tended id freed) (leaving : w.Leaving id) (moves : List Move)
    (allowed : ∀ move ∈ moves, Allows id freed move) (channel : Nat) :
    Bides id channel w (w.followAll moves) := by
  induction moves generalizing w with
  | nil => exact .refl leaving
  | cons move moves ih =>
    have first := tended.bides_follow leaving (allowed move List.mem_cons_self) channel
    exact first.trans (ih (tended.follow (allowed move List.mem_cons_self)) first.leaving
      fun other among => allowed other (List.mem_cons_of_mem _ among))

/-! ### The end -/

/-- The world in which a consumer that was asked to stop closes its session. -/
def closing (w : World) (id : Nat) : World :=
  ({ w with agenda := w.agenda.give (.consumer id) } : World).cancelTimer (.consumer id) .deadline

/-- The end of a consumer that has let its channel go asks nothing of the broker. -/
theorem finish_ok_frame (without : ∀ c, w.consumers.get? id = some c → c.channel = none) :
    (w.finish id (.ok ())).client = w.client ∧ (w.finish id (.ok ())).metrics = w.metrics := by
  have same : w.releaseChannel id = (.ok (), w) := by
    unfold releaseChannel
    cases found : w.consumers.get? id with
    | none => rfl
    | some c =>
      rw [Option.bind_some, without c found]
  unfold finish
  rw [same]
  dsimp only
  cases found : w.consumers.get? id with
  | none => exact ⟨rfl, rfl⟩
  | some c =>
    obtain ⟨client, metrics, -⟩ := (w.updateConsumer id fun c =>
      { c with state := .terminated }).publish_frame (.consumerTerminated c.queue c.tag)
    have retired : ∀ middle : World, (middle.retireTask id).client = middle.client ∧
        (middle.retireTask id).metrics = middle.metrics := fun _ => ⟨rfl, rfl⟩
    dsimp only
    rw [(retired _).1, (retired _).2]
    exact ⟨client, metrics⟩

/-- **A consumer that was asked to stop closes its session and ends**, if it is ready to receive. -/
theorem follow_closes {c : Consumer} {s : Session} {deadline : Option Instant}
    (known : w.consumers.get? id = some c) (opened : c.session = some s)
    (receives : c.phase = .receiving deadline) (asked : c.stopRequested = true)
    (ran : (closeSession id s).run (w.closing id) = (.ok (), w')) :
    (w.follow (.turn (.consumer id))).isFinished id = true ∧
      (w.follow (.turn (.consumer id))).client = w'.client ∧
      (w.follow (.turn (.consumer id))).metrics = w'.metrics := by
  have without : ∀ c, w'.consumers.get? id = some c → c.channel = none := by
    intro c' found
    obtain ⟨_, before, -, -, released⟩ := closeSession_inv ran
    have after := before.releaseChannel_get? id id
    rw [released, if_pos rfl, found] at after
    obtain ⟨_, -, rfl⟩ := Option.map_eq_some_iff.mp after.symm
    rfl
  have turned : ({ w with agenda := w.agenda.give (.consumer id) } : World).consumerTurn id =
      (w'.finish id (.ok ())).pause := by
    unfold consumerTurn
    rw [show ({ w with agenda := w.agenda.give (.consumer id) } : World).consumers.get? id = some c
      from known]
    dsimp only
    rw [receives, opened]
    dsimp only
    unfold receive
    rw [receives]
    dsimp only
    rw [if_pos asked]
    unfold stopReceiving
    rw [show (closeSession id s).run (({ w with agenda := w.agenda.give (.consumer id) } :
      World).cancelTimer (.consumer id) .deadline) = (.ok (), w') from ran]
  have taken : w.follow (.turn (.consumer id)) = { w'.finish id (.ok ()) with
      agenda := (w'.finish id (.ok ())).agenda.rest } := by
    unfold follow take turn
    dsimp only
    rw [turned]
    rfl
  obtain ⟨client, metrics⟩ := finish_ok_frame without
  rw [taken]
  exact ⟨finish_finishes _, client, metrics⟩

/-- The container is stopped while its consumer works on the first of three deliveries. -/
def stopWhileBusy : List Move :=
  [.administer (.declare "orders"), .administer (.publish "orders" "sleep 10".toUTF8 {}),
    .administer (.publish "orders" "second".toUTF8 {}),
    .administer (.publish "orders" "third".toUTF8 {}), .start, .turn (.consumer 1), .turn (.feed 1),
    .turn (.feed 1), .turn (.consumer 1), .turn (.consumer 1), .stop false, .turn (.errand 0)]

/-- The listener is done with the first delivery. -/
def listenerDone : List Move := [.pass 10, .turn (.consumer 1)]

end World

end QueueListener
