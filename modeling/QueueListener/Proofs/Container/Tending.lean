import QueueListener.Proofs.Container.GivingBack
import QueueListener.Proofs.Container.Neighbours
import QueueListener.Proofs.Container.Opening
/-!
# A consumer attends to what it was sent

**A consumer in its session takes up one delivery after the other, and settles nothing before.** So what
it was sent and has not taken up is there, unsettled, whatever the consumer does in its turn, as long as
its listener leaves alone what is behind the delivery that it works on.

* `World.place` — where a consumer works;
* `World.Attends` — work of a consumer that keeps its line;
* `atDesk_attends`, `settle_attends`, `putBench_attends` — the parts of a turn;
* `World.Seated`, `World.Minded` — a consumer in its session that has lost nothing;
* `World.Served`, `receive_served` — a whole turn in the session;
* `openSession_seats` — the beginning of the session.
-/

namespace QueueListener

namespace World

variable {w w' w'' : World} {line : Line} {id : Nat} {α : Type}

/-- Where a consumer works: the channel that it lets go in the end, the channel of its session, and
whether it was asked to stop. -/
def place (w : World) (id : Nat) : Option (Option Nat × Option Nat × Bool) :=
  (w.consumers.get? id).map fun c =>
    (c.channel.map (·.target), c.session.map (·.channel.target), c.stopRequested)

theorem place_eq {c : Consumer} (found : w.consumers.get? id = some c) : w.place id =
    some (c.channel.map (·.target), c.session.map (·.channel.target), c.stopRequested) := by
  unfold place
  rw [found]
  rfl

/-- The batch of a consumer was taken up before. -/
def Abreast (w : World) (line : Line) : Prop :=
  ∀ c s, w.consumers.get? line.subscriber = some c → c.session = some s →
    (w.desk c s).Abreast line.floor

/-- Work of a consumer that stays where it is and keeps its line. -/
structure Attends (line : Line) (w w' : World) : Prop where
  plan : w'.plan = w.plan
  place : w'.place line.subscriber = w.place line.subscriber
  tends : w.Abreast line → Tends line w w' ∧ w'.Abreast line

namespace Attends

theorem refl (line : Line) (w : World) : Attends line w w :=
  ⟨rfl, rfl, fun abreast => ⟨.refl line w, abreast⟩⟩

theorem trans (first : Attends line w w') (second : Attends line w' w'') : Attends line w w'' := by
  refine ⟨second.plan.trans first.plan, second.place.trans first.place, fun abreast => ?_⟩
  obtain ⟨tends, abreast'⟩ := first.tends abreast
  obtain ⟨tends', abreast''⟩ := second.tends abreast'
  exact ⟨tends.trans tends', abreast''⟩

/-- What comes last is looked at first. -/
theorem since (last : Attends line w' w'') (first : Attends line w w') : Attends line w w'' :=
  first.trans last

/-- Nothing is written about the consumer. -/
theorem of_tends (tends : Tends line w w') (plan : w'.plan = w.plan)
    (consumers : w'.consumers = w.consumers) : Attends line w w' := by
  refine ⟨plan, ?_, fun abreast => ⟨tends, fun c s found opened => ?_⟩⟩
  · unfold World.place
    rw [consumers]
  · have before := abreast c s (consumers ▸ found) opened
    exact ⟨before.taken, before.empty⟩

theorem of_same (plan : w'.plan = w.plan) (client : w'.client = w.client)
    (consumers : w'.consumers = w.consumers) (handoffs : w'.handoffs = w.handoffs) :
    Attends line w w' := of_tends (.of_same client (by rw [handoffs])) plan consumers

theorem of_passes (passes : w.Passes w') : Attends line w w' := by
  induction passes with
  | refl => exact .refl line w
  | tail _ aside ih =>
    exact ih.trans (.of_tends (aside.tends line) aside.quiet.plan aside.consumers)

/-- What is written about a consumer does not concern its place or its batch. -/
theorem of_written {f : Consumer → Consumer} (same : ∀ c,
    w.consumers.get? line.subscriber = some c → (f c).channel = c.channel ∧
      (f c).stopRequested = c.stopRequested ∧
      (f c).session.map (fun s => (s.channel.target, s.deferred, s.lastDeferred)) =
        c.session.map fun s => (s.channel.target, s.deferred, s.lastDeferred)) :
    Attends line w (w.updateConsumer line.subscriber f) := by
  have got : (w.updateConsumer line.subscriber f).consumers.get? line.subscriber =
      (w.consumers.get? line.subscriber).map f := by
    rw [updateConsumer_get?, if_pos rfl]
  refine ⟨rfl, ?_, fun abreast => ⟨.of_same rfl rfl, fun c' s' found opened => ?_⟩⟩
  · unfold World.place
    rw [got, Option.map_map]
    cases found : w.consumers.get? line.subscriber with
    | none => rfl
    | some c =>
      obtain ⟨channel, stopped, session⟩ := same c found
      have target := congrArg (Option.map (·.1)) session
      rw [Option.map_map, Option.map_map] at target
      show some (_, _, _) = some (_, _, _)
      rw [channel, stopped]
      exact congrArg (fun target => some (_, target, _)) target
  · rw [got] at found
    obtain ⟨c, before, rfl⟩ := Option.map_eq_some_iff.mp found
    obtain ⟨-, -, session⟩ := same c before
    rw [opened] at session
    obtain ⟨s, opened', batch⟩ := Option.map_eq_some_iff.mp session.symm
    obtain ⟨-, deferred, last⟩ := Prod.mk.inj batch |>.imp_right Prod.mk.inj
    obtain ⟨taken, empty⟩ := abreast c s before opened'
    exact ⟨fun tag latest => taken tag (last.trans latest),
      fun none => deferred.symm.trans (empty (last.trans none))⟩

end Attends

/-! ### At the desk -/

/-- **Work at the desk keeps the line**, if it settles nothing but what was taken up. -/
theorem atDesk_attends {work : Post → DeskWork Unit}
    (keeps : ∀ post, Moves (fun desk desk' : Desk => desk.Abreast line.floor →
      line.Keeps desk.client.broker desk'.client.broker ∧ desk'.Abreast line.floor) (work post)) :
    Moves (Attends line) (atDesk line.subscriber work) := by
  intro w
  cases known : w.consumers.get? line.subscriber with
  | none =>
    unfold atDesk
    rw [ExceptT.run_mk, known]
    exact .refl line w
  | some c =>
    cases opened : c.session with
    | none =>
      unfold atDesk
      rw [ExceptT.run_mk, known]
      dsimp only
      rw [opened]
      exact .refl line w
    | some s =>
      rw [atDesk_eq known opened]
      have kept := keeps (w.post c s) (w.desk c s)
      generalize (work (w.post c s)).run (w.desk c s) = answer at kept
      obtain ⟨result, desk⟩ := answer
      have after := putDesk_get? known opened desk
      refine ⟨(w.putDesk_frame line.subscriber desk).2.2.1, ?_, fun abreast => ?_⟩
      · rw [place_eq after, place_eq known, opened]
        rfl
      · obtain ⟨keeps, abreast'⟩ := kept (abreast c s known opened)
        have put : Tends line w (w.withDesk line.subscriber desk) := .of_keeps keeps rfl
        refine ⟨put.trans (deliverNotices_tends line _), fun c' s' found opened' => ?_⟩
        obtain rfl := Option.some.inj (after.symm.trans found)
        obtain rfl := Option.some.inj opened'
        exact ⟨abreast'.taken, abreast'.empty⟩

theorem bind_attends {β : Type} {first : WorldWork α} {next : α → WorldWork β}
    (begins : Moves (Attends line) first) (goesOn : ∀ a, Moves (Attends line) (next a)) :
    Moves (Attends line) (first >>= next) := Moves.bind (fun _ _ _ => .trans) begins goesOn

/-- **A delivery that was taken up is settled** as the policy says, or as its transaction ended. -/
theorem settle_attends (s : Session) {tag : Nat} (taken : tag ≤ line.floor)
    (outcome : QueueListener.Outcome) (transaction : Option TransactionHandle) :
    Moves (Attends line) (settle line.subscriber s tag outcome transaction) := by
  have concludes : ∀ handle ending requeue, Moves (Attends line)
      (concludeTransaction line.subscriber tag handle ending requeue) := fun handle ending requeue =>
    bind_attends (modifyGet_moves fun _ => .of_passes noted_passes) fun _ =>
      atDesk_attends fun _ => Desk.conclude_permitted (Desk.keeps_permits taken) _ _ _
  unfold settle
  split
  next => exact atDesk_attends fun _ => Desk.settle_permitted (Desk.keeps_permits taken) outcome
  next =>
    refine bind_attends (get_moves (.refl line)) fun w => ?_
    dsimp only
    split
    next => exact concludes _ _ _
    next => exact concludes _ _ _
    next => exact atDesk_attends fun _ => Desk.perform_permitted (Desk.keeps_permits taken) _

theorem flush_attends : Moves (Attends line) (atDesk line.subscriber Desk.flush) :=
  atDesk_attends fun _ => Desk.flush_permitted (Desk.keeps_permits (Nat.zero_le _))

theorem turnAway_attends {tag : Nat} (taken : tag ≤ line.floor) :
    Moves (Attends line) (atDesk line.subscriber fun post => Desk.turnAway post tag) :=
  atDesk_attends fun _ => Desk.turnAway_permitted (Desk.keeps_permits taken) fun _ abreast =>
    ⟨.refl line _, ⟨abreast.taken, abreast.empty⟩⟩

/-! ### The listener -/

theorem recordAnswer_attends (w : World) (c : Consumer) (work : Listening)
    (result : Except ListenerError Unit) : Attends line w (w.recordAnswer c work result) := by
  unfold recordAnswer
  dsimp only
  split
  next => exact .of_passes noted_passes
  next =>
    unfold tellError
    split
    next => exact .of_passes noted_passes
    next => exact .of_passes noted_passes

/-- **What the listener has done on its bench keeps the line**, if it spares it. -/
theorem putBench_attends {c : Consumer} {s : Session}
    (known : w.consumers.get? line.subscriber = some c) (opened : c.session = some s)
    (delivery : Delivery) {bench : Bench} (works : (w.bench s).Works line.Spares bench) :
    Attends line w (w.putBench line.subscriber delivery bench) := by
  have asked : Attends line w { w with client := bench.client } :=
    .of_tends (.of_keeps works.keeps rfl) rfl rfl
  refine Attends.since (.of_passes (deliverNotices_passes _)) (Attends.since (.of_written ?_)
    (asked.trans (.of_passes noted_passes)))
  refine fun c' found => ⟨rfl, rfl, ?_⟩
  obtain rfl := Option.some.inj (known.symm.trans found)
  dsimp only
  rw [opened]
  exact congrArg (fun target => some (target, s.deferred, s.lastDeferred)) works.target

theorem setPhase_attends (w : World) (phase : Phase) :
    Attends line w (w.setPhase line.subscriber phase) := .of_written fun _ _ => ⟨rfl, rfl, rfl⟩

theorem tellIdle_attends (w : World) (s : Session) (interval : Duration) :
    Attends line w (w.tellIdle line.subscriber s interval) := by
  unfold tellIdle
  split
  next => exact .refl line w
  next =>
    dsimp only
    split
    next =>
      exact Attends.since (.of_passes (.single (.told rfl))) (.of_written fun _ _ => ⟨rfl, rfl, rfl⟩)
    next => exact .refl line w

/-! ### A turn in the session -/

/-- A consumer has ended, or has kept its line and now lets its listener work, if at all, only as it
may. -/
def Carries (line : Line) (may : Listening → Prop) (w w' : World) : Prop :=
  w'.isFinished line.subscriber = true ∨ (Attends line w w' ∧ ∀ c work,
    w'.consumers.get? line.subscriber = some c → c.phase = .listening work → may work)

variable {may : Listening → Prop}

theorem Carries.since (last : Carries line may w' w'') (first : Attends line w w') :
    Carries line may w w'' := last.imp id fun kept => ⟨first.trans kept.1, kept.2⟩

/-- The consumer gets something to do. -/
theorem setPhase_carries (w : World) {phase : Phase} (only : ∀ work, phase = .listening work →
    may work) : Carries line may w (w.setPhase line.subscriber phase) := by
  refine .inr ⟨setPhase_attends w phase, fun c work found listens => only work ?_⟩
  have found' : (w.consumers.modify line.subscriber fun c => { c with phase }).get?
    line.subscriber = some c := found
  rw [Table.get?_modify_self] at found'
  obtain ⟨_, -, rfl⟩ := Option.map_eq_some_iff.mp found'
  exact listens

/-- The consumer gets something to do, and a timer. -/
theorem setPhase_setTimer_carries (w : World) {phase : Phase} (only : ∀ work,
    phase = .listening work → may work) (slot : TimerSlot) (t : Instant) : Carries line may w
      ((w.setPhase line.subscriber phase).setTimer (.consumer line.subscriber) slot t) :=
  (setPhase_carries w only).imp id fun kept => ⟨kept.1.trans (.of_same rfl rfl rfl rfl), kept.2⟩

theorem fail_carries (w' : World) (s : Session) (error : ClientError) :
    Carries line may w (w'.fail line.subscriber s error).2 := .inl (finish_finishes _)

/-- After work that keeps the line the consumer is ready to receive. -/
theorem proceed_carries (w : World) (s : Session) {work : WorldWork Unit}
    (attends : Moves (Attends line) work) :
    Carries line may w (w.proceed line.subscriber s work).2 := by
  have worked := attends w
  unfold proceed
  split
  next w' done =>
    rw [done] at worked
    exact (setPhase_carries w' fun _ => nofun).since worked
  next error w' failed => exact fail_carries w' s error

/-- **A delivery that was taken up goes to the listener**, or is settled without it. -/
theorem process_carries (line : Line) (w : World) (s : Session) {delivery : Delivery}
    (taken : delivery.tag ≤ line.floor) :
    Carries line (·.call = .start delivery) w (w.process line.subscriber s delivery).2 := by
  have calls : ∀ (w : World) (transaction : Option TransactionHandle),
      Carries line (·.call = .start delivery) w
        (w.call line.subscriber delivery transaction).2 := by
    refine fun w transaction => setPhase_carries w fun work listens => ?_
    cases listens
    rfl
  unfold process
  dsimp only
  split
  next =>
    exact (proceed_carries _ s (turnAway_attends taken)).since (.of_written fun _ _ => ⟨rfl, rfl, rfl⟩)
  next =>
    split
    next =>
      split
      next => exact (calls _ _).since (.since (.of_passes noted_passes)
        (.of_written fun _ _ => ⟨rfl, rfl, rfl⟩))
      next =>
        refine (proceed_carries _ s (atDesk_attends fun _ => Desk.settle_permitted
          (Desk.keeps_permits taken) _)).since (.since (.of_passes noted_passes)
            (.of_written fun _ _ => ⟨rfl, rfl, rfl⟩))
    next => exact (calls _ _).since (.of_written fun _ _ => ⟨rfl, rfl, rfl⟩)

/-- Nothing was received for a while. -/
theorem idle_carries (w : World) (s : Session) : Carries line may w (w.idle line.subscriber s).2 := by
  unfold idle
  dsimp only
  refine (proceed_carries _ s ?_).since (.of_written fun _ _ => ⟨rfl, rfl, rfl⟩)
  refine bind_attends flush_attends fun _ => bind_attends (get_moves (.refl line)) fun w => ?_
  split
  next interval _ => exact modify_moves fun w => tellIdle_attends w s interval
  next => exact pure_moves (.refl line) _

/-- **The listener goes on with its delivery**, or has answered. -/
theorem listen_carries {c : Consumer} {s : Session} {work : Listening}
    (known : w.consumers.get? line.subscriber = some c) (opened : c.session = some s)
    (listens : c.phase = .listening work) (taken : work.call.delivery.tag ≤ line.floor)
    (minds : work.call.Minds w.plan.listener line.Spares)
    (frees : w.plan.listener.Frees line.freed) :
    Carries line (fun now => now.call.delivery = work.call.delivery ∧ now.since = work.since ∧
      now.call.Minds w.plan.listener line.Spares) w (w.listen line.subscriber c s work).2 := by
  unfold listen
  split
  next =>
    obtain ⟨works, later⟩ := Call.resume_works (w.bench s) minds (frees.minds taken)
    have put := putBench_attends known opened work.call.delivery works
    dsimp only
    split
    next duration call sleeps =>
      obtain ⟨same, mindful⟩ := later duration call sleeps
      have goesOn : ∀ (resumeAt : Instant) (now : Listening),
          Phase.listening { work with call, resumeAt } = .listening now →
          now.call.delivery = work.call.delivery ∧ now.since = work.since ∧
            now.call.Minds w.plan.listener line.Spares := by
        rintro resumeAt _ ⟨⟩
        exact ⟨same, rfl, mindful⟩
      split
      next => exact (setPhase_carries _ (goesOn _)).since put
      next => exact (setPhase_setTimer_carries _ (goesOn _) _ _).since put
    next result _ =>
      exact (proceed_carries _ s (settle_attends s taken _ _)).since
        (put.trans (recordAnswer_attends _ c work result))
  next =>
    refine .inr ⟨.refl line w, fun c' now found phase => ?_⟩
    obtain rfl := Option.some.inj (known.symm.trans found)
    cases listens.symm.trans phase
    exact ⟨rfl, rfl, minds⟩

/-! ### A consumer that has lost nothing -/

/-- A consumer is in its session on the channel of its line, and what it was sent and has not taken up
is there. -/
structure Seated (w : World) (line : Line) : Prop where
  placed : ∃ stopped, w.place line.subscriber = some (some line.channel, some line.channel, stopped)
  abreast : w.Abreast line
  lined : w.Lined line
  handed : ∃ h, w.handoffs.get? line.subscriber = some h ∧ h.accepting = true

/-- Moreover its listener works on what was taken up, and settles nothing else. -/
structure Minded (w : World) (line : Line) : Prop extends Seated w line where
  listens : ∀ c work, w.consumers.get? line.subscriber = some c → c.phase = .listening work →
    work.call.delivery.tag ≤ line.floor ∧ work.call.Minds w.plan.listener line.Spares

theorem Attends.seated (attends : Attends line w w') (seated : w.Seated line) : w'.Seated line := by
  obtain ⟨tends, abreast⟩ := attends.tends seated.abreast
  obtain ⟨h, handed, accepting⟩ := seated.handed
  obtain ⟨h', handed', accepting', -⟩ := tends.handed h handed accepting
  exact ⟨attends.place ▸ seated.placed, abreast, tends.lined seated.lined, h', handed', accepting'⟩

/-- Nothing that is buffered is lost. -/
theorem Attends.buffered (attends : Attends line w w') (seated : w.Seated line) :
    w.buffered line.subscriber <+: w'.buffered line.subscriber := by
  obtain ⟨h, handed, accepting⟩ := seated.handed
  exact ((attends.tends seated.abreast).1.handed h handed accepting).elim fun _ kept => kept.2.2

/-- What has become of a consumer after its turn. -/
inductive Served (line : Line) (w w' : World) : Prop
  | ended (done : w'.isFinished line.subscriber = true)
  /-- It has received something, or nothing; it was not asked to stop. -/
  | received (running : ∀ c, w.consumers.get? line.subscriber = some c → c.stopRequested = false)
      (floor : Nat) (minded : w'.Minded { line with floor })
      (place : w'.place line.subscriber = w.place line.subscriber)
  /-- Its listener has gone on, and received nothing. -/
  | listened (attends : Attends line w w') (minded : w'.Minded line)
      (same : ∀ c' now, w'.consumers.get? line.subscriber = some c' → c'.phase = .listening now →
        ∃ c work, w.consumers.get? line.subscriber = some c ∧ c.phase = .listening work ∧
          now.call.delivery = work.call.delivery ∧ now.since = work.since)

/-- A consumer takes up a delivery, and has got as far as that. -/
theorem takeParcel_seated (seated : w.Seated line) {h : Handoff}
    (handed : w.handoffs.get? line.subscriber = some h) {delivery : Delivery} {rest : List Parcel}
    (inside : h.inside = .delivery delivery :: rest) :
    (w.takeParcel line.subscriber h rest).Seated { line with floor := delivery.tag } := by
  have handed' : (w.handoffs.set line.subscriber { h with inside := rest }).get? line.subscriber =
      some { h with inside := rest } := by rw [Table.get?_set, if_pos rfl]
  obtain ⟨h₀, handed₀, accepting⟩ := seated.handed
  obtain rfl := Option.some.inj (handed.symm.trans handed₀)
  have lined : w.client.broker.Lines line (delivery :: Handoff.deliveries { h with inside := rest }) := by
    have lined := seated.lined
    unfold Lined at lined
    rw [waiting_eq handed] at lined
    unfold Handoff.deliveries Handoff.drain at lined ⊢
    dsimp only at lined ⊢
    rw [inside] at lined
    exact lined
  refine ⟨seated.placed, fun c s found opened => ?_, ?_, _, handed', accepting⟩
  · obtain ⟨taken, empty⟩ := seated.abreast c s found opened
    have behind := (List.pairwise_cons.mp lined.ascending).1 delivery.tag List.mem_cons_self
    exact ⟨fun last latest => Nat.le_trans (taken last latest) (Nat.le_of_lt behind), empty⟩
  · unfold Lined
    rw [show (w.takeParcel line.subscriber h rest).waiting line.subscriber = _ from
      waiting_eq handed']
    exact lined.take

/-- Work after a consumer has received something, or nothing. -/
theorem Carries.received {floor : Nat} (carries : Carries { line with floor } may w' w'')
    (running : ∀ c, w.consumers.get? line.subscriber = some c → c.stopRequested = false)
    (seated : w'.Seated { line with floor })
    (place : w'.place line.subscriber = w.place line.subscriber)
    (only : ∀ work, may work → work.call.delivery.tag ≤ floor ∧
      work.call.Minds w''.plan.listener { line with floor }.Spares) : Served line w w'' := by
  obtain done | ⟨attends, listens⟩ := carries
  · exact .ended done
  · exact .received running floor ⟨attends.seated seated, fun c work found phase =>
      only work (listens c work found phase)⟩ (attends.place.trans place)

/-- **A consumer that is not asked to stop receives what was pushed**, one delivery at a time. -/
theorem receivePushed_served (minded : w.Minded line)
    (running : ∀ c, w.consumers.get? line.subscriber = some c → c.stopRequested = false) (s : Session)
    (deadline : Option Instant) : Served line w (w.receivePushed line.subscriber s deadline).2 := by
  have never : ∀ {w'' : World} (work : Listening), False → work.call.delivery.tag ≤ line.floor ∧
      work.call.Minds w''.plan.listener line.Spares := fun _ => False.elim
  unfold receivePushed
  split
  next => exact .ended (finish_finishes _)
  next h handed =>
    split
    next delivery rest inside =>
      have taken := takeParcel_seated minded.toSeated handed inside
      have untimed : Attends { line with floor := delivery.tag } (w.takeParcel line.subscriber h rest)
          ((w.takeParcel line.subscriber h rest).cancelTimer (.consumer line.subscriber)
            .deadline) := .of_same rfl rfl rfl rfl
      have carries := process_carries { line with floor := delivery.tag }
        ((w.takeParcel line.subscriber h rest).cancelTimer (.consumer line.subscriber) .deadline) s
        (Nat.le_refl delivery.tag)
      refine carries.received running (untimed.seated taken) rfl ?_
      intro work starts
      rw [starts]
      exact ⟨Nat.le_refl _, fun _ rest has => by cases has⟩
    next => exact .ended (finish_finishes _)
    next => exact .ended (finish_finishes _)
    next =>
      split
      next => exact .ended (finish_finishes _)
      next =>
        split
        next =>
          split
          next => exact (idle_carries w s).received running minded.toSeated rfl never
          next => exact .received running line.floor minded rfl
        next =>
          exact (setPhase_setTimer_carries w (fun _ => nofun) _ _).received running minded.toSeated
            rfl never

/-- **What becomes of a consumer in its session in its turn.** -/
theorem receive_served (minded : w.Minded line) (pushes : w.plan.settings.reception = .push)
    (frees : w.plan.listener.Frees line.freed) {c : Consumer} {s : Session}
    (known : w.consumers.get? line.subscriber = some c) (opened : c.session = some s) :
    Served line w (w.receive line.subscriber c s).2 := by
  have rests : Served line w w :=
    .listened (.refl line w) minded fun c work found phase => ⟨c, work, found, phase, rfl, rfl⟩
  unfold receive
  split
  next deadline _ =>
    split
    next => exact .ended (finish_finishes _)
    next running =>
      rw [pushes]
      refine receivePushed_served minded (fun c' found => ?_) s deadline
      obtain rfl := Option.some.inj (known.symm.trans found)
      exact eq_false_of_ne_true running
  next =>
    split
    next => exact .ended (finish_finishes _)
    next =>
      rw [pushes]
      exact rests
  next work listens =>
    obtain ⟨taken, minds⟩ := minded.listens c work known listens
    obtain done | ⟨attends, goesOn⟩ := listen_carries known opened listens taken minds frees
    · exact .ended done
    · refine .listened attends ⟨attends.seated minded.toSeated, fun c' now found phase => ?_⟩
        fun c' now found phase => ?_
      · obtain ⟨same, -, minds'⟩ := goesOn c' now found phase
        rw [same, attends.plan]
        exact ⟨taken, minds'⟩
      · obtain ⟨same, since, -⟩ := goesOn c' now found phase
        exact ⟨c, work, known, listens, same, since⟩
  next => exact rests
  next => exact rests

/-! ### The beginning of the session -/

/-- Somebody takes a step towards a session, and keeps the line. -/
structure Readies (line : Line) (w w' : World) : Prop where
  plan : w'.plan = w.plan
  consumers : w'.consumers = w.consumers
  lined : w.Lined line → w'.Lined line

theorem Readies.trans (first : Readies line w w') (second : Readies line w' w'') :
    Readies line w w'' where
  plan := second.plan.trans first.plan
  consumers := second.consumers.trans first.consumers
  lined lined := second.lined (first.lined lined)

theorem Readies.of_passes (line : Line) (passes : w.Passes w') : Readies line w w' where
  plan := passes.quiet.plan
  consumers := passes.consumers
  lined lined := by
    induction passes with
    | refl => exact lined
    | tail _ aside ih => exact (aside.tends line).lined ih

theorem Passes.ages (passes : w.Passes w') : w.client.broker.Ages w'.client.broker := by
  induction passes with
  | refl => exact .refl _
  | tail _ aside ih => exact ih.trans aside.ages

theorem requestedTag_passes (w : World) (queue : String) :
    w.Passes ((requestedTag queue).run w).2 := by
  unfold requestedTag
  rw [run_get_bind]
  split
  next => exact .refl
  next => exact .refl
  next =>
    rw [run_get_bind, run_modify_bind]
    exact noted_passes

/-- A request that keeps the line, and what becomes of a handoff. -/
theorem request_readies (f : Client → Except ClientError α × Client) (w : World)
    (keeps : line.Keeps w.client.broker (f w.client).2.broker) :
    Readies line w ((request f).run w).2 ∧ ∀ h, w.handoffs.get? line.subscriber = some h →
      ∃ more, ((request f).run w).2.handoffs.get? line.subscriber =
        some { h with outside := h.outside ++ more } := by
  rw [request_run]
  have asked : Tends line w { w with client := (f w.client).2 } := .of_keeps keeps rfl
  have answered : Readies line w { w with client := (f w.client).2 } := ⟨rfl, rfl, asked.lined⟩
  obtain ⟨-, -, -, -, handed⟩ := World.deliverNotices_frame { w with client := (f w.client).2 }
  exact ⟨answered.trans (.of_passes line (deliverNotices_passes _)),
    fun h found => ⟨_, handed line.subscriber h found⟩⟩

/-- The channel that a consumer opens has a number that was never given. -/
theorem openChannel_readies (line : Line) {connection : Nat} {channel : ManagedChannel}
    (tidy : w.client.broker.Tidy) (ran : (openChannel id connection).run w = (.ok channel, w')) :
    w.client.broker.lastId < channel.target ∧ w'.plan = w.plan ∧
      w'.consumers = (w.consumers.modify id fun c => { c with channel := some channel }) ∧
      (w.Lined line → w'.Lined line) := by
  unfold openChannel at ran
  rw [run_get_bind] at ran
  obtain ⟨target, middle, asked, ran⟩ := run_bind_inv ran
  have created : (w.client.call .createChannel
      (·.createChannel connection w.plan.settings.transacted)).1 = .ok target :=
    congrArg Prod.fst asked
  obtain ⟨number, -⟩ := Client.call_createChannel_numbers (Prod.ext created rfl)
  obtain ⟨readies, -⟩ := request_readies (fun client => client.call .createChannel
    (·.createChannel connection w.plan.settings.transacted)) w
      (w.client.call_createChannel_keeps line tidy connection _)
  rw [asked] at readies
  rw [run_get_bind, run_modify_bind] at ran
  cases ran
  refine ⟨number ▸ Nat.lt_succ_self _, readies.plan, ?_, readies.lined⟩
  have same : middle.consumers = w.consumers := readies.consumers
  unfold updateConsumer
  dsimp only
  rw [same]

/-- The consumer is registered on its channel, and has a handoff. -/
theorem subscribe_readies (line : Line) {queue requested tag : String} {channel : ManagedChannel}
    (kept : w.plan.settings.ackMode ≠ .none)
    (ran : (subscribe line.subscriber queue requested channel).run w = (.ok tag, w'))
    (on : channel.target = line.channel) : Readies line w w' ∧
      ∃ h, w'.handoffs.get? line.subscriber = some h ∧ h.accepting = true := by
  have acknowledges : w.plan.settings.ackMode.unacknowledged = false := by
    cases mode : w.plan.settings.ackMode with
    | none => exact absurd mode kept
    | auto | manual => rfl
  unfold subscribe at ran
  rw [run_get_bind, run_modify_bind] at ran
  obtain ⟨_, middle, asked, ran⟩ := run_bind_inv ran
  rw [run_modify_bind] at ran
  cases ran
  have registers : ∀ c : Client, line.Keeps c.broker (c.call .consume (·.consume channel.target queue
      requested w.plan.settings.ackMode.unacknowledged line.subscriber)).2.broker := by
    intro c
    unfold Client.call
    split
    next => exact .refl line _
    next => exact Line.consume_keeps _ queue requested fun _ => ⟨on, acknowledges⟩
  have empty : (w.handoffs.set line.subscriber { capacity := max w.plan.settings.prefetch 1 }).get?
      line.subscriber = some { capacity := max w.plan.settings.prefetch 1 } := by
    rw [Table.get?_set, if_pos rfl]
  have fresh : Readies line w { w with
      handoffs := w.handoffs.set line.subscriber { capacity := max w.plan.settings.prefetch 1 } } := by
    refine ⟨rfl, rfl, fun lined => ?_⟩
    unfold Lined
    rw [waiting_eq empty]
    exact Broker.Lines.fewer lined rfl rfl (List.sublist_append_right _ _)
  have readies := request_readies (fun client => client.call .consume (·.consume channel.target queue
      requested w.plan.settings.ackMode.unacknowledged line.subscriber)) { w with
        handoffs := w.handoffs.set line.subscriber { capacity := max w.plan.settings.prefetch 1 } }
    (registers w.client)

  rw [asked] at readies
  obtain ⟨registered, handed⟩ := readies
  obtain ⟨_, handed⟩ := handed _ empty
  exact ⟨(fresh.trans registered).trans (.of_passes line (.single (.woken _))), _, handed, rfl⟩

/-- The bounding of a channel keeps every line. -/
theorem setPrefetch_readies (line : Line) (w : World) (channel prefetch : Nat) : Readies line w
    ((request fun client => client.call .setPrefetch (·.setPrefetch channel prefetch)).run w).2 := by
  have works : w.client.Works (fun _ _ => False)
      (w.client.call .setPrefetch (·.setPrefetch channel prefetch)).2 :=
    w.client.call_works .setPrefetch (.setPrefetch channel prefetch) trivial
      fun _ => (Broker.Reply.ofDone_snd _).symm
  exact (request_readies _ w (works.keeps fun _ => False.elim)).1

/-- **A consumer that opens its session has lost nothing** of what it is sent on its channel, which
nobody had before. -/
theorem openSession_seats (freed : Nat → Nat → Prop) {c : Consumer}
    (known : w.consumers.get? id = some c) (tidy : w.client.broker.Tidy)
    (pushes : w.plan.settings.reception = .push) (kept : w.plan.settings.ackMode ≠ .none)
    (opened : (openSession id c).run w = (.ok (), w')) :
    ∃ target, w.client.broker.lastId < target ∧
      (w.Lined ⟨id, target, 0, freed target⟩ → w'.Minded ⟨id, target, 0, freed target⟩) ∧
      w'.place id = some (some target, some target, c.stopRequested) ∧
      ∀ c', w'.consumers.get? id = some c' → c'.phase = .receiving none := by
  unfold openSession at opened
  rw [run_get_bind] at opened
  obtain ⟨connection, w₁, connected, opened⟩ := run_bind_inv opened
  obtain ⟨channel, w₂, asked, opened⟩ := run_bind_inv opened
  obtain ⟨_, w₃, limited, opened⟩ := run_bind_inv opened
  obtain ⟨requested, w₄, chosen, opened⟩ := run_bind_inv opened
  rw [pushes] at opened
  obtain ⟨tag, w₅, subscribed, begun⟩ := run_bind_inv opened
  cases begun
  have passes := connection_passes w
  rw [connected] at passes
  obtain ⟨tidy₁, le⟩ := passes.ages tidy
  obtain ⟨number, plan₂, consumers₂, lined₂⟩ :=
    openChannel_readies ⟨id, channel.target, 0, freed channel.target⟩ tidy₁ asked
  have limits := setPrefetch_readies ⟨id, channel.target, 0, freed channel.target⟩ w₂ channel.target
    w.plan.settings.prefetch
  rw [limited] at limits
  have choice := requestedTag_passes w₃ c.queue
  rw [chosen] at choice
  have bounded := limits.trans (.of_passes _ choice)
  have plan₄ : w₄.plan = w.plan := bounded.plan.trans (plan₂.trans passes.quiet.plan)
  obtain ⟨subscribes, handed⟩ := subscribe_readies ⟨id, channel.target, 0, freed channel.target⟩
    (plan₄ ▸ kept) subscribed rfl
  obtain ⟨client, -, -, handoffs, consumers⟩ :=
    w₅.beginSession_frame id c.run c.queue { channel, connection, consumerTag := tag }
  have found := consumers ▸ Table.get?_modify_self _ _ _
  rw [subscribes.consumers, bounded.consumers, consumers₂, Table.get?_modify_self, passes.consumers,
    known] at found
  refine ⟨channel.target, Nat.lt_of_le_of_lt le number, fun lined => ?_, place_eq found,
    fun c' found' => by rw [← Option.some.inj (found.symm.trans found')]⟩
  refine ⟨⟨⟨_, place_eq found⟩, fun c' s' found' opened' => ?_, ?_, ?_⟩, fun c' work found' phase => ?_⟩
  · obtain rfl := Option.some.inj (found.symm.trans found')
    cases opened'
    exact ⟨nofun, fun _ => rfl⟩
  · have lined' := subscribes.lined (bounded.lined (lined₂ ((Readies.of_passes _ passes).lined lined)))
    unfold Lined at lined' ⊢
    rw [client, waiting_congr (congrArg (·.get? id) handoffs)]
    exact lined'
  · rw [handoffs]
    exact handed
  · obtain rfl := Option.some.inj (found.symm.trans found')
    cases phase

end World

end QueueListener
