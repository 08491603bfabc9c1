import QueueListener.Proofs.Broker.Hearing
import QueueListener.Proofs.Consumer.Conclusion
import QueueListener.Proofs.Consumer.DeskWork
import QueueListener.Proofs.Consumer.Engagement
import QueueListener.Proofs.Container.Shifts
/-!
# Acknowledgement by nobody, or by the listener

**A consumer keeps its hands off the channel unless it acknowledges itself.** When nobody
acknowledges it asks for nothing at all. When the listener does, it gives back what the listener's
channel failed for and what comes too late, commits and rolls back on a transactional channel, and
never acknowledges. Neither ever has a batch.

* `Settings.requests` — what it asks for, for a delivery with its outcome;
* `Desk.Bare` — a desk without a batch; `settle_bare`, `Bare.entries` — such a desk stays so, and its
  requests are these;
* `Shift.Abstains`, `step_abstains`, `run_abstains` — the invariant, a step and a run;
* `World.WorksAt`, `World.Issues` — the same for the consumers of a container;
* `Onlooker`, `Onlooker.run_keeps_hands_off` — all runs of such a consumer.
-/

namespace QueueListener

open Broker

/-! ### What is asked for -/

/-- The outcomes with which a delivery goes back although the listener acknowledges: its channel has
failed, or it never saw the delivery. -/
def Outcome.GivesBack : Outcome → Prop
  | .failure _ transport => transport = true
  | .stopping => True
  | .success => False

/-- What is asked for on the channel when the listener acknowledges. -/
def Outcome.requests (transacted : Bool) (tag : Nat) : Outcome → List ChannelAction
  | .success => if transacted then [.commit] else []
  | .failure _ false => if transacted then [.rollback] else []
  | .failure _ true => (Verdict.nack true).closing transacted tag
  | .stopping => (Verdict.nack true).closing transacted tag

/-- What a consumer that does not acknowledge itself asks for on its channel, for a delivery with its
outcome. -/
def Settings.requests (settings : Settings) (tag : Nat) (outcome : Outcome) : List ChannelAction :=
  if settings.ackMode.byListener then outcome.requests settings.transacted tag else []

/-- What it asks for, for several deliveries. -/
def Settings.requestsFor (settings : Settings) (processed : List (Nat × Outcome)) :
    List ChannelAction :=
  processed.flatMap fun entry => settings.requests entry.1 entry.2

variable {settings : Settings}

/-- When nobody acknowledges, nothing is asked for. -/
theorem Settings.requestsFor_of_nobody (nobody : settings.ackMode = .none)
    (processed : List (Nat × Outcome)) : settings.requestsFor processed = [] := by
  refine List.flatMap_eq_nil_iff.mpr fun entry _ => ?_
  rw [Settings.requests, nobody]
  rfl

theorem Settings.requestsFor_append (first second : List (Nat × Outcome)) :
    settings.requestsFor (first ++ second) =
      settings.requestsFor first ++ settings.requestsFor second := List.flatMap_append

/-- **The only settlement is that a delivery goes back to its queue**, and it is the delivery at
hand. -/
theorem Settings.settle_mem_requests {settlement : Settlement} {tag : Nat} {outcome : Outcome}
    (asked : .settle settlement ∈ settings.requests tag outcome) :
    settlement = ⟨tag, false, .nack true⟩ ∧ outcome.GivesBack := by
  unfold requests at asked
  split at asked
  next =>
    cases outcome with
    | success => cases transacted : settings.transacted <;> simp [Outcome.requests, transacted] at asked
    | failure requeue transport =>
      cases transport <;> cases transacted : settings.transacted <;>
        simp_all [Outcome.requests, Verdict.closing, Outcome.GivesBack]
    | stopping =>
      cases transacted : settings.transacted <;>
        simp_all [Outcome.requests, Verdict.closing, Outcome.GivesBack]
  next => exact absurd asked List.not_mem_nil

/-- The delivery that a request settles. -/
def ChannelAction.settled? : ChannelAction → Option Nat
  | .settle settlement => some settlement.tag
  | _ => none

/-- A delivery is settled at most once. -/
theorem Settings.settled_requests (tag : Nat) (outcome : Outcome) :
    ((settings.requests tag outcome).filterMap (·.settled?)).Sublist [tag] := by
  unfold requests
  split
  next =>
    cases outcome with
    | failure requeue transport =>
      cases transport <;> cases settings.transacted <;> simp [Outcome.requests, Verdict.closing, ChannelAction.settled?]
    | success | stopping =>
      cases settings.transacted <;> simp [Outcome.requests, Verdict.closing, ChannelAction.settled?]
  next => exact List.nil_sublist _

/-- **Different deliveries are settled at most once each.** -/
theorem Settings.settled_requestsFor (processed : List (Nat × Outcome)) :
    ((settings.requestsFor processed).filterMap (·.settled?)).Sublist (processed.map (·.1)) := by
  induction processed with
  | nil => exact List.nil_sublist _
  | cons entry rest ih =>
    unfold requestsFor
    rw [List.flatMap_cons, List.filterMap_append]
    exact (settled_requests entry.1 entry.2).append ih

namespace Desk

/-! ### A desk without a batch -/

/-- A desk without a batch, which is shown to others so. -/
structure Bare (desk : Desk) : Prop where
  deferred : desk.deferred = 0
  last : desk.lastDeferred = none
  shown : desk.shownDeferred = 0

variable {α : Type} {desk : Desk} {post : Post} {tag : Nat}

/-- Work after which there is still no batch, however it ends. -/
abbrev StaysBare (work : DeskWork α) : Prop :=
  Moves (fun desk desk' : Desk => desk.Bare → desk'.Bare) work

theorem StaysBare.bind {β : Type} {first : DeskWork α} {next : α → DeskWork β}
    (begins : StaysBare first) (goesOn : ∀ a, StaysBare (next a)) : StaysBare (first >>= next) :=
  Moves.bind (fun _ _ _ before after bare => after (before bare)) begins goesOn

theorem pure_bare (a : α) : StaysBare (pure a) := pure_moves (fun _ => id) a

theorem request_bare (f : Client → Except ClientError α × Client) : StaysBare (request f) :=
  fun _ bare => ⟨bare.deferred, bare.last, bare.shown⟩

theorem count_bare (counted : Counted) : StaysBare (count counted) :=
  modify_moves fun _ bare => ⟨bare.deferred, bare.last, bare.shown⟩

theorem resetBatch_bare : StaysBare resetBatch := modify_moves fun _ bare => ⟨rfl, rfl, bare.shown⟩

theorem ackBatch_bare (wanted : Bool) : StaysBare (ackBatch post wanted) := by
  intro desk bare
  unfold ackBatch
  rw [run_get_bind, bare.last]
  exact bare

/-- **Whatever does not begin a batch leaves the desk without one.** -/
theorem perform_bare {action : AckAction} (begins : action ≠ .defer) :
    StaysBare (perform post tag action) := by
  refine StaysBare.bind ?_ fun _ => modify_moves fun _ bare => ⟨bare.deferred, bare.last, bare.deferred⟩
  cases action with
  | defer => exact absurd rfl begins
  | nothing | joinTransaction | rollbackTransaction => exact pure_bare ()
  | commit | rollback => exact .bind (request_bare _) fun _ => count_bare _
  | ack => exact .bind (request_bare _) fun _ => .bind (count_bare _) fun _ => resetBatch_bare
  | ackAndCommit =>
    exact .bind (request_bare _) fun _ => .bind (request_bare _) fun _ =>
      .bind (count_bare _) fun _ => .bind (count_bare _) fun _ => resetBatch_bare
  | nack requeue ackDeferred =>
    exact .bind (ackBatch_bare ackDeferred) fun _ => .bind (request_bare _) fun _ =>
      .bind (count_bare _) fun _ => resetBatch_bare
  | rollbackAndNack =>
    exact .bind (request_bare _) fun _ => .bind (request_bare _) fun _ =>
      .bind (request_bare _) fun _ => .bind (count_bare _) fun _ => .bind (count_bare _)
        fun _ => resetBatch_bare

/-- Only a consumer that acknowledges itself begins a batch. -/
theorem action_ne_defer (leaves : post.settings.ackMode ≠ .auto) (outcome : Outcome) :
    (desk.situation post outcome false).action ≠ .defer := by
  unfold situation Situation.action Situation.reject
  cases mode : post.settings.ackMode with
  | auto => exact absurd mode leaves
  | none => exact nofun
  | manual =>
    cases outcome with
    | failure requeue transport =>
      cases transport <;> cases post.settings.transacted <;> exact nofun
    | success | stopping => cases post.settings.transacted <;> exact nofun

theorem settle_bare (leaves : post.settings.ackMode ≠ .auto) (outcome : Outcome) :
    StaysBare (settle post tag outcome) := by
  intro desk
  unfold settle
  rw [run_get_bind]
  exact perform_bare (action_ne_defer leaves outcome) desk

theorem turnAway_bare (leaves : post.settings.ackMode ≠ .auto) : StaysBare (turnAway post tag) :=
  .bind (count_bare _) fun _ => settle_bare leaves .stopping

/-- **Without a batch, the policy asks for no more than that.** -/
theorem Bare.entries (bare : desk.Bare) (leaves : post.settings.ackMode ≠ .auto)
    (tag : Nat) (outcome : Outcome) :
    (desk.situation post outcome false).action.entries tag desk.lastDeferred =
      post.settings.requests tag outcome := by
  unfold situation Situation.action Situation.reject Settings.requests
  rw [bare.deferred]
  cases mode : post.settings.ackMode with
  | auto => exact absurd mode leaves
  | none => rfl
  | manual =>
    cases outcome with
    | failure requeue transport =>
      cases transport <;> cases post.settings.transacted <;> rfl
    | success | stopping => cases post.settings.transacted <;> rfl

end Desk

/-! ### The invariant -/

theorem Broker.Op.SettlesOnly.admits {seat : Seat} {may : Nat → Settlement → Prop} {op : Op}
    (only : op.SettlesOnly may) : seat.Admits op := by
  cases op with
  | consume => exact absurd only id
  | _ => trivial

namespace Shift

/-- **The invariant of a shift in which others acknowledge.** The desk has no batch; what was
processed and what is in front of the desk has rising tags. -/
structure Abstains (seat : Seat) (s : Shift) : Prop where
  tidy : s.broker.Tidy
  hears : seat.Hears s.broker
  quiet : s.broker.deliveriesFor seat.subscriber = []
  rises : Rises 0 (s.processed.map (·.1) ++ s.inbox.map (·.tag)) (s.broker.lastTagOf seat.channel)
  bare : s.desk.Bare

variable {seat : Seat} {post : Post} {s s' : Shift} {work : DeskWork Unit}

/-- What comes in front of the desk has tags above all that came before. -/
theorem Abstains.observe (abstains : s.Abstains seat) (next : Shift) (tidy : next.broker.Tidy)
    (hears : seat.Hears next.broker) (bare : next.desk.Bare) {more : List Nat}
    (whole : next.processed.map (·.1) ++
        (next.inbox ++ next.broker.deliveriesFor seat.subscriber).map (·.tag) =
      (s.processed.map (·.1) ++ s.inbox.map (·.tag)) ++ more)
    (rises : Rises (s.broker.lastTagOf seat.channel) more (next.broker.lastTagOf seat.channel))
    (before : Broker) : (next.observe seat before).Abstains seat where
  tidy := tidy.collect
  hears := hears
  quiet := rfl
  rises := by
    show Rises 0 (next.processed.map (·.1) ++
      (next.inbox ++ next.broker.deliveriesFor seat.subscriber).map (·.tag)) _
    rw [whole]
    exact abstains.rises.append rises
  bare := ⟨bare.deferred, bare.last, bare.shown⟩

/-- An operation at the broker. -/
theorem Abstains.stepped (abstains : s.Abstains seat) {op : Op} (admitted : seat.Admits op)
    (extra : List Delivery) {b : Broker} (same : (s.broker.step op).2 = b)
    (taken : (extra.map (·.tag)).Sublist (numbersOn seat.channel (s.broker.taken op))) :
    ((({ s with inbox := s.inbox ++ extra } : Shift).withBroker b).observe seat s.broker).Abstains
      seat := by
  obtain ⟨new, told, rises⟩ := seat.step_rises abstains.tidy abstains.hears admitted
  subst same
  refine abstains.observe (({ s with inbox := s.inbox ++ extra } : Shift).withBroker _)
    (step_accounts abstains.tidy op).tidy
    (seat.step_hears abstains.tidy abstains.hears admitted)
    ⟨abstains.bare.deferred, abstains.bare.last, abstains.bare.shown⟩ ?_
    (rises.sublist (taken.append (List.Sublist.refl _))) s.broker
  show s.processed.map _ ++
    ((s.inbox ++ extra) ++ (s.broker.step op).2.deliveriesFor seat.subscriber).map _ = _
  rw [told, abstains.quiet, List.nil_append]
  simp only [List.map_append, List.append_assoc]

/-- An operation that brings the consumer nothing but what the broker pushes. -/
theorem Abstains.happened (abstains : s.Abstains seat) {op : Op} (admitted : seat.Admits op)
    {b : Broker} (same : (s.broker.step op).2 = b) :
    ((s.withBroker b).observe seat s.broker).Abstains seat := by
  have after := abstains.stepped admitted [] same (List.nil_sublist _)
  rwa [List.append_nil] at after

/-- Work at the desk on a delivery that was in front. -/
theorem Abstains.worked (abstains : s.Abstains seat) {inbox : List Delivery} {processed : List (Nat × Outcome)}
    (moved : processed.map (·.1) ++ inbox.map (·.tag) =
      s.processed.map (·.1) ++ s.inbox.map (·.tag))
    (asks : Desk.Asks post work) (still : (work.run s.desk).2.Bare)
    (worked : ({ s with inbox, processed } : Shift).work seat work = .ok s') :
    s'.Abstains seat := by
  unfold Shift.work at worked
  split at worked
  next after ran =>
    cases worked
    have works := asks s.desk
    rw [show work.run s.desk = _ from ran] at works still
    obtain ⟨ops, only, reached⟩ := works.ran
    obtain ⟨tidy, hears, new, told, rises⟩ := seat.run_rises abstains.tidy abstains.hears
      fun op member => (only op member).admits
    rw [show s.broker.run ops = after.client.broker from reached.symm] at tidy hears told rises
    refine abstains.observe { s with desk := after, inbox, processed } tidy hears still ?_ rises _
    show processed.map (·.1) ++
      (inbox ++ after.client.broker.deliveriesFor seat.subscriber).map (·.tag) = _
    rw [told, abstains.quiet, List.nil_append, List.map_append, ← List.append_assoc, moved]
  next => cases worked

/-! ### Steps and runs -/

/-- An event in a shift in which others acknowledge: what is processed is asked for, and nothing
else. -/
structure KeepsOff (seat : Seat) (post : Post) (s s' : Shift) (done : List (Nat × Outcome)) :
    Prop where
  abstains : s'.Abstains seat
  processed : s'.processed = s.processed ++ done
  ledger : s'.broker.ledger seat.channel =
    s.broker.ledger seat.channel ++ post.settings.requestsFor done

theorem KeepsOff.trans {middle last : Shift} {done done' : List (Nat × Outcome)}
    (first : KeepsOff seat post s middle done) (second : KeepsOff seat post middle last done') :
    KeepsOff seat post s last (done ++ done') where
  abstains := second.abstains
  processed := by rw [second.processed, first.processed, List.append_assoc]
  ledger := by
    rw [second.ledger, first.ledger, Settings.requestsFor_append, List.append_assoc]

/-- An event with which nothing is processed. -/
theorem Abstains.keepsOff (abstains : s'.Abstains seat) (processed : s'.processed = s.processed)
    (ledger : s'.broker.ledger seat.channel = s.broker.ledger seat.channel) :
    KeepsOff seat post s s' [] :=
  ⟨abstains, processed.trans (List.append_nil _).symm, ledger.trans (List.append_nil _).symm⟩

/-- Work at the desk processes nothing by itself. -/
theorem work_processed (worked : s.work seat work = .ok s') : s'.processed = s.processed := by
  unfold Shift.work at worked
  split at worked
  next =>
    cases worked
    rfl
  next => cases worked

variable (leaves : post.settings.ackMode ≠ .auto) (here : post.channel = seat.channel)
include leaves here

/-- An answer of the listener. -/
theorem receive_keepsOff (abstains : s.Abstains seat) {delivery : Delivery} {others : List Delivery}
    (waits : s.inbox = delivery :: others) {result : Except ListenerError Unit}
    (stepped : s.step seat post (.receive result) = .ok s') :
    KeepsOff seat post s s' [(delivery.tag, post.settings.outcomeOf result)] := by
  have entered := receive_ledger waits stepped
  rw [abstains.bare.entries leaves, here] at entered
  unfold step at stepped
  rw [waits] at stepped
  dsimp only at stepped
  refine ⟨abstains.worked ?_ (Desk.settle_asks post delivery.tag _)
    (Desk.settle_bare leaves _ s.desk abstains.bare) stepped, work_processed stepped, ?_⟩
  · rw [waits, List.map_append, List.append_assoc]
    rfl
  · rw [entered, Settings.requestsFor, List.flatMap_singleton]

/-- A delivery that comes too late. -/
theorem turnAway_keepsOff (abstains : s.Abstains seat) {delivery : Delivery}
    {others : List Delivery} (waits : s.inbox = delivery :: others)
    (stepped : s.step seat post .turnAway = .ok s') :
    KeepsOff seat post s s' [(delivery.tag, .stopping)] := by
  have entered := turnAway_ledger waits stepped
  rw [abstains.bare.entries leaves, here] at entered
  unfold step at stepped
  rw [waits] at stepped
  dsimp only at stepped
  refine ⟨abstains.worked ?_ (Desk.turnAway_asks post delivery.tag)
    (Desk.turnAway_bare leaves s.desk abstains.bare) stepped, work_processed stepped, ?_⟩
  · rw [waits, List.map_append, List.append_assoc]
    rfl
  · rw [entered, Settings.requestsFor, List.flatMap_singleton]

omit leaves

/-- **An idle cycle does nothing on the channel.** -/
theorem idle_keepsOff (abstains : s.Abstains seat) (stepped : s.step seat post .idle = .ok s') :
    KeepsOff seat post s s' [] := by
  have worked : s.work seat (Desk.flush post) = .ok s' := stepped
  have still : (Desk.flush post).run s.desk = (.ok (), s.desk) :=
    Desk.flush_of_empty abstains.bare.last
  refine Abstains.keepsOff (abstains.worked rfl (Desk.flush_asks post) ?_ worked)
    (work_processed worked) ?_
  · rw [still]
    exact abstains.bare
  · have entered := work_ledger worked (Desk.flush_enters_nil abstains.bare.last)
    rwa [List.append_nil, here] at entered

omit leaves here

/-- A poll may bring one delivery. -/
theorem poll_abstains (here : post.channel = seat.channel) (abstains : s.Abstains seat)
    (stepped : s.step seat post .poll = .ok s') : s'.Abstains seat ∧ s'.processed = s.processed := by
  unfold step at stepped
  dsimp only at stepped
  split at stepped
  next delivery? b got =>
    cases stepped
    have reply : s.broker.step
        (.get post.channel post.queue post.settings.ackMode.unacknowledged) =
        (.delivery delivery?, b) := by
      show Reply.ofResult Reply.delivery _ = _
      rw [got]
      rfl
    have admitted : seat.Admits
        (.get post.channel post.queue post.settings.ackMode.unacknowledged) := trivial
    refine ⟨abstains.stepped admitted _ (congrArg Prod.snd reply) ?_, rfl⟩
    unfold taken
    rw [reply, here]
    cases delivery? with
    | none => exact List.Sublist.refl _
    | some delivery => simp [numbersOn]
  next => cases stepped

/-- A cancellation leaves everything that was delivered. -/
theorem cancel_keepsOff (abstains : s.Abstains seat) {consumerTag : String}
    (stepped : s.step seat post (.cancel consumerTag) = .ok s') : KeepsOff seat post s s' [] := by
  have ledger := step_ledger abstains.tidy id (fun _ same => by cases same) stepped
  unfold step at stepped
  dsimp only at stepped
  split at stepped
  next b cancelled =>
    cases stepped
    have same : (s.broker.step (.cancel post.channel consumerTag)).2 = b :=
      (Reply.ofDone_snd _).trans (congrArg Prod.snd cancelled)
    have admitted : seat.Admits (.cancel post.channel consumerTag) := trivial
    exact (abstains.happened admitted same).keepsOff rfl ledger
  next => cases stepped

/-- **An event in a shift in which others acknowledge.** -/
theorem step_keepsOff (leaves : post.settings.ackMode ≠ .auto) (here : post.channel = seat.channel)
    (abstains : s.Abstains seat) {event : ShiftEvent}
    (apart : ∀ op, event = .elsewhere op → ¬ op.SettlesOn seat.channel ∧ seat.Admits op)
    (stepped : s.step seat post event = .ok s') :
    ∃ done, KeepsOff seat post s s' done := by
  have rests : s' = s → ∃ done, KeepsOff seat post s s' done := by
    rintro rfl
    exact ⟨[], abstains.keepsOff rfl rfl⟩
  cases event with
  | receive result =>
    cases waits : s.inbox with
    | nil =>
      unfold step at stepped
      rw [waits] at stepped
      exact rests (Except.ok.inj stepped).symm
    | cons delivery others => exact ⟨_, receive_keepsOff leaves here abstains waits stepped⟩
  | turnAway =>
    cases waits : s.inbox with
    | nil =>
      unfold step at stepped
      rw [waits] at stepped
      exact rests (Except.ok.inj stepped).symm
    | cons delivery others => exact ⟨_, turnAway_keepsOff leaves here abstains waits stepped⟩
  | idle => exact ⟨[], idle_keepsOff here abstains stepped⟩
  | poll =>
    obtain ⟨abstains', processed⟩ := poll_abstains here abstains stepped
    exact ⟨[], abstains'.keepsOff processed
      (step_ledger abstains.tidy id (fun _ same => by cases same) stepped)⟩
  | cancel => exact ⟨[], cancel_keepsOff abstains stepped⟩
  | elsewhere op =>
    obtain ⟨foreign, admitted⟩ := apart op rfl
    cases stepped
    exact ⟨[], (abstains.happened admitted rfl).keepsOff rfl
      (Broker.step_undisturbed abstains.tidy foreign).ledger⟩
  | counted metrics =>
    cases stepped
    exact ⟨[], Abstains.keepsOff ⟨abstains.tidy, abstains.hears, abstains.quiet, abstains.rises,
      ⟨abstains.bare.deferred, abstains.bare.last, abstains.bare.shown⟩⟩ rfl rfl⟩

/-- **A run in which others acknowledge.** -/
theorem run_keepsOff (leaves : post.settings.ackMode ≠ .auto) (here : post.channel = seat.channel)
    (abstains : s.Abstains seat) {events : List ShiftEvent}
    (apart : ∀ op, .elsewhere op ∈ events → ¬ op.SettlesOn seat.channel ∧ seat.Admits op)
    (ran : s.run seat post events = .ok s') : ∃ done, KeepsOff seat post s s' done := by
  induction events generalizing s with
  | nil =>
    obtain rfl := Except.ok.inj ran
    exact ⟨[], abstains.keepsOff rfl rfl⟩
  | cons event events ih =>
    obtain ⟨next, stepped, ran'⟩ := run_cons_inv ran
    obtain ⟨done, first⟩ := step_keepsOff leaves here abstains
      (fun op same => apart op (same ▸ List.mem_cons_self)) stepped
    obtain ⟨more, rest⟩ := ih first.abstains (fun op member => apart op (List.mem_cons_of_mem _ member))
      ran'
    exact ⟨done ++ more, first.trans rest⟩

/-- Deliveries that are turned away one after the other. -/
theorem turnAways_keepOff (leaves : post.settings.ackMode ≠ .auto)
    (here : post.channel = seat.channel) (abstains : s.Abstains seat) {count : Nat}
    (ran : s.run seat post (List.replicate count .turnAway) = .ok s') :
    ∃ late : List Nat, KeepsOff seat post s s' (late.map (·, .stopping)) := by
  induction count generalizing s with
  | zero =>
    cases ran
    exact ⟨[], abstains.keepsOff rfl rfl⟩
  | succ count ih =>
    obtain ⟨next, stepped, ran'⟩ := run_cons_inv ran
    cases waits : s.inbox with
    | nil =>
      unfold step at stepped
      rw [waits] at stepped
      cases stepped
      exact ih abstains ran'
    | cons delivery others =>
      have first := turnAway_keepsOff leaves here abstains waits stepped
      obtain ⟨late, rest⟩ := ih first.abstains ran'
      exact ⟨delivery.tag :: late, first.trans rest⟩

/-- **A stop**: the cancellation, a flush, and what is left is turned away. -/
theorem closing_keepsOff (leaves : post.settings.ackMode ≠ .auto)
    (here : post.channel = seat.channel) (abstains : s.Abstains seat) {consumerTag : String}
    {s₁ : Shift} {count : Nat} (flushed : s.run seat post [.cancel consumerTag, .idle] = .ok s₁)
    (turned : s₁.run seat post (List.replicate count .turnAway) = .ok s') :
    ∃ late : List Nat, KeepsOff seat post s s' (late.map (·, .stopping)) := by
  obtain ⟨middle, cancelled, rest⟩ := run_cons_inv flushed
  obtain ⟨_, idled, last⟩ := run_cons_inv rest
  cases last
  have first := cancel_keepsOff abstains cancelled
  have second := idle_keepsOff here first.abstains idled
  obtain ⟨late, third⟩ := turnAways_keepOff leaves here second.abstains turned
  exact ⟨late, (first.trans second).trans third⟩

end Shift

/-! ### The consumers of a container -/

namespace World

variable {w : World} {id : Nat} {post : Post} {desk : Desk} {channel : Nat}
  {requests : List ChannelAction}

/-- A consumer in its session works at that desk. -/
def WorksAt (w : World) (id : Nat) (post : Post) (desk : Desk) : Prop :=
  ∃ c now, w.consumers.get? id = some c ∧ c.session = some now ∧ w.post c now = post ∧
    w.desk c now = desk

/-- **Work of a container is these requests on a channel**: it ends as they do, and leaves the client
as they do, up to the notices, which are taken. -/
def Issues (work : WorldWork Unit) (w : World) (channel : Nat) (requests : List ChannelAction) :
    Prop :=
  ∃ client, w.client.issueAll channel requests = ((work.run w).1, client) ∧
    (work.run w).2.client = { client with broker := client.broker.collectNotices.2 }

/-- Work at the desk of a container is the requests of the desk. -/
theorem atDesk_issues (works : w.WorksAt id post desk) {f : Post → DeskWork Unit}
    (issues : Desk.Issues (f post) desk channel requests) :
    Issues (atDesk id f) w channel requests := by
  obtain ⟨c, now, known, opened, posted, same⟩ := works
  have asked : w.client.issueAll channel requests =
      (((f post).run desk).1, ((f post).run desk).2.client) := by
    have issued := issues
    unfold Desk.Issues at issued
    rw [show desk.client = w.client from same ▸ rfl] at issued
    rw [issued]
    cases ((f post).run desk).1 <;> rfl
  unfold Issues
  rw [atDesk_eq known opened, posted, same]
  exact ⟨_, asked, (w.withDesk id ((f post).run desk).2).deliverNotices_frame.1⟩

end World

/-! ### All runs -/

/-- An operation after which the notices are taken. -/
theorem Seat.asked {seat : Seat} {b b' : Broker} (tidy : b.Tidy) (hears : seat.Hears b) {op : Op}
    (reached : (b.step op).2 = b') (admitted : seat.Admits op) :
    b'.collectNotices.2.Tidy ∧ seat.Hears b'.collectNotices.2 := by
  subst reached
  exact ⟨(step_accounts tidy op).tidy.collect, seat.step_hears tidy hears admitted⟩

/-- A desk opens at a broker to which the subscriber is new: it hears of deliveries on its channel
only, and their tags rise. -/
theorem openDesk_hears {settings : Settings} {b b' : Broker} {connection : Nat}
    {queue requested : String} {subscriber channel : Nat} {inbox : List Delivery} (tidy : b.Tidy)
    (fresh : ∀ tag consumer, b.consumers.get? tag = some consumer →
      consumer.subscriber ≠ subscriber)
    (opened : openDesk settings b connection queue requested subscriber =
      (.ok (channel, inbox), b')) :
    let seat : Seat := ⟨connection, channel, subscriber⟩
    b'.Tidy ∧ seat.Hears b' ∧ b'.deliveriesFor subscriber = [] ∧
      Rises 0 (inbox.map (·.tag)) (b'.lastTagOf channel) := by
  unfold openDesk at opened
  split at opened
  next => cases opened
  next own b₁ created =>
    let seat : Seat := ⟨connection, own, subscriber⟩
    have hears : seat.Hears b := fun tag consumer found mine =>
      absurd mine (fresh tag consumer found)
    have reached₁ : (b.step (.createChannel connection settings.transacted)).2 = b₁ :=
      (Reply.ofResult_snd _ _).trans (congrArg Prod.snd created)
    obtain ⟨tidy₁, hears₁⟩ := seat.asked tidy hears reached₁ trivial
    split at opened
    next => cases opened
    next b₂ bounded =>
      have reached₂ : (b₁.collectNotices.2.step (.setPrefetch own settings.prefetch)).2 = b₂ :=
        (Reply.ofDone_snd _).trans (congrArg Prod.snd bounded)
      obtain ⟨tidy₂, hears₂⟩ := seat.asked tidy₁ hears₁ reached₂ trivial
      split at opened
      next =>
        cases opened
        exact ⟨tidy₂, hears₂, rfl, .nil (Nat.zero_le _)⟩
      next =>
        split at opened
        next => cases opened
        next b₃ subscribed =>
          cases opened
          have reached₃ : (b₂.collectNotices.2.step (.consume channel queue requested
              settings.ackMode.unacknowledged subscriber)).2 = b₃ :=
            (Reply.ofResult_snd _ _).trans (congrArg Prod.snd subscribed)
          have admitted : seat.Admits (.consume channel queue requested
            settings.ackMode.unacknowledged subscriber) := fun _ => rfl
          obtain ⟨tidy₃, hears₃⟩ := seat.asked tidy₂ hears₂ reached₃ admitted
          obtain ⟨new, told, rises⟩ := seat.step_rises tidy₂ hears₂ admitted
          rw [reached₃] at told rises
          have heard : b₃.deliveriesFor subscriber = new := told
          refine ⟨tidy₃, hears₃, rfl, ?_⟩
          rw [heard]
          exact (Rises.nil (Nat.zero_le _)).append
            (rises.sublist (List.sublist_append_right _ _))

/-- A client with other faults armed. -/
def Desk.rearmed (desk : Desk) (faults : List ArmedFault) : Desk :=
  { desk with client := { desk.client with faults } }

/-- A consumer that does not acknowledge itself, at a reachable broker to which its number as a
subscriber is new. -/
structure Onlooker where
  before : Broker
  reachable : before.Reachable
  settings : Settings
  connection : Nat
  queue : String
  requested : String
  subscriber : Nat
  metrics : Metrics
  faults : List ArmedFault
  channel : Nat
  /-- The first deliveries. -/
  inbox : List Delivery
  broker : Broker
  leaves : settings.ackMode ≠ .auto
  fresh : ∀ tag consumer, before.consumers.get? tag = some consumer →
    consumer.subscriber ≠ subscriber
  opened : openDesk settings before connection queue requested subscriber =
    (.ok (channel, inbox), broker)

namespace Onlooker

/-- Where the consumer sits. -/
def seat (o : Onlooker) : Seat := ⟨o.connection, o.channel, o.subscriber⟩

/-- What stays the same for the consumer. -/
def post (o : Onlooker) : Post := ⟨o.settings, o.queue, o.channel⟩

/-- The shift at its beginning. -/
def start (o : Onlooker) : Shift where
  desk := { client := { broker := o.broker, faults := o.faults }, metrics := o.metrics }
  inbox := o.inbox

/-- **The consumer keeps its hands off the channel.** -/
structure KeepsHandsOff (o : Onlooker) (s : Shift) : Prop where
  /-- The ledger has exactly what was asked for the processed deliveries, in their order. -/
  ledger : s.broker.ledger o.channel =
    o.broker.ledger o.channel ++ o.settings.requestsFor s.processed
  /-- When nobody acknowledges, that is nothing. -/
  nothing : o.settings.ackMode = .none → s.broker.ledger o.channel = o.broker.ledger o.channel
  /-- Nothing is acknowledged; what is rejected goes back, and it was not the application's
  failure. -/
  givesBack : ∀ settlement, .settle settlement ∈ o.settings.requestsFor s.processed →
    settlement = ⟨settlement.tag, false, .nack true⟩ ∧
      ∃ outcome, (settlement.tag, outcome) ∈ s.processed ∧ outcome.GivesBack
  once : ((o.settings.requestsFor s.processed).filterMap (·.settled?)).Nodup
  distinct : (s.processed.map (·.1) ++ s.inbox.map (·.tag)).Nodup
  bare : s.desk.Bare
  /-- In a container, whatever faults are armed, the next answer of the listener asks for no more, up
  to the first refusal. -/
  settles : ∀ (w : World) (session : Session) (faults : List ArmedFault) (tag : Nat)
    (outcome : Outcome), w.WorksAt o.subscriber o.post (s.desk.rearmed faults) →
      World.Issues (World.settle o.subscriber session tag outcome none) w o.channel
        (o.settings.requests tag outcome)
  turnsAway : ∀ (w : World) (faults : List ArmedFault) (tag : Nat),
    w.WorksAt o.subscriber o.post (s.desk.rearmed faults) →
      World.Issues (World.atDesk o.subscriber fun post => Desk.turnAway post tag) w o.channel
        (o.settings.requests tag .stopping)
  /-- A flush does nothing. -/
  flushes : ∀ faults, (Desk.flush o.post).run (s.desk.rearmed faults) =
    (.ok (), s.desk.rearmed faults)
  flushesHosted : ∀ (w : World) (faults : List ArmedFault),
    w.WorksAt o.subscriber o.post (s.desk.rearmed faults) →
      World.Issues (World.atDesk o.subscriber Desk.flush) w o.channel []
  /-- A stop of a container's consumer asks for what it turns away, and for nothing else. -/
  stops : ∀ (w : World) (session : Session), o.settings.reception = .push →
    s.desk.client.faults = [] → w.Hosts o.subscriber session o.post [] s →
      ∀ s₁, s.run o.seat o.post [.cancel session.consumerTag, .idle] = .ok s₁ →
        ∃ count, ∀ s', s₁.run o.seat o.post (List.replicate count .turnAway) = .ok s' →
          ∃ (w' : World) (late : List Nat),
            (World.closeSession o.subscriber session).run w = w'.releaseChannel o.subscriber ∧
              w'.Hosts o.subscriber session o.post [] s' ∧
                Shift.KeepsOff o.seat o.post s s' (late.map (·, .stopping))

variable (o : Onlooker)

theorem start_abstains : o.start.Abstains o.seat := by
  obtain ⟨tidy, hears, quiet, rises⟩ := openDesk_hears o.reachable.tidy.1 o.fresh o.opened
  exact ⟨tidy, hears, quiet, rises, ⟨rfl, rfl, rfl⟩⟩

/-- **A consumer that does not acknowledge itself keeps its hands off the channel**, whatever the
listener answers, and whatever else happens that does not settle on its channel. -/
theorem run_keeps_hands_off {events : List ShiftEvent}
    (apart : ∀ op, .elsewhere op ∈ events → ¬ op.SettlesOn o.channel ∧ o.seat.Admits op) {s : Shift}
    (ran : o.start.run o.seat o.post events = .ok s) : o.KeepsHandsOff s := by
  obtain ⟨done, keepsOff⟩ := Shift.run_keepsOff o.leaves rfl o.start_abstains apart ran
  have processed : s.processed = done := keepsOff.processed
  have entered : s.broker.ledger o.channel =
      o.broker.ledger o.channel ++ o.settings.requestsFor done := keepsOff.ledger
  have distinct := keepsOff.abstains.rises.nodup
  have bare : ∀ faults, (s.desk.rearmed faults).Bare := fun _ =>
    ⟨keepsOff.abstains.bare.deferred, keepsOff.abstains.bare.last, keepsOff.abstains.bare.shown⟩
  constructor
  case ledger =>
    rw [processed]
    exact entered
  case nothing =>
    intro nobody
    rw [entered, Settings.requestsFor_of_nobody nobody, List.append_nil]
  case givesBack =>
    intro settlement asked
    obtain ⟨⟨tag, outcome⟩, member, asked⟩ := List.mem_flatMap.mp asked
    obtain ⟨rfl, givesBack⟩ := Settings.settle_mem_requests asked
    exact ⟨rfl, outcome, member, givesBack⟩
  case once =>
    exact ((List.nodup_append.mp distinct).1).sublist (Settings.settled_requestsFor s.processed)
  case distinct => exact distinct
  case bare => exact keepsOff.abstains.bare
  case settles =>
    intro w session faults tag outcome works
    have issues := Desk.settle_issues (s.desk.rearmed faults) o.post tag outcome
    rw [(bare faults).entries o.leaves] at issues
    exact World.atDesk_issues works issues
  case turnsAway =>
    intro w faults tag works
    have issues := Desk.turnAway_issues (s.desk.rearmed faults) o.post tag
    rw [(bare faults).entries o.leaves] at issues
    exact World.atDesk_issues works issues
  case flushes => exact fun faults => Desk.flush_of_empty (bare faults).last
  case flushesHosted =>
    exact fun w faults works => World.atDesk_issues works (Desk.flush_issues_nil (bare faults).last)
  case stops =>
    intro w session pushed faultless hosts s₁ flushed
    obtain ⟨count, closes⟩ := World.closeSession_hosts hosts rfl pushed faultless flushed
    refine ⟨count, fun s' ran' => ?_⟩
    obtain ⟨w', hosts', closed⟩ := closes s' ran'
    obtain ⟨late, stopped⟩ :=
      Shift.closing_keepsOff o.leaves rfl keepsOff.abstains flushed ran'
    exact ⟨w', late, closed, hosts', stopped⟩

/-! ### A small run -/

/-- The settings of a consumer whose listener acknowledges on a transactional channel. -/
def byHand : Settings := { ackMode := .manual, transacted := true }

theorem byHand_opened : (openDesk byHand Engagement.threeWaiting 1 "orders" "worker" 0).1 =
    .ok (2, Engagement.threeDelivered) := by decide +kernel

/-- A consumer whose listener acknowledges, at a queue with three messages. -/
def atThree : Onlooker where
  before := Engagement.threeWaiting
  reachable := (Engagement.atThree true).reachable
  settings := byHand
  connection := 1
  queue := "orders"
  requested := "worker"
  subscriber := 0
  metrics := {}
  faults := []
  channel := 2
  inbox := Engagement.threeDelivered
  broker := (openDesk byHand Engagement.threeWaiting 1 "orders" "worker" 0).2
  leaves := by decide
  fresh := (Engagement.atThree true).fresh
  opened := Prod.fst_eq_iff.mp byHand_opened

/-- A success, a failure of the application and a failure of the channel, while somebody declares a
queue; the third delivery comes back, and then comes too late. -/
def mixed : List ShiftEvent :=
  [.receive (.ok ()), .receive (.error (.reject "no")), .elsewhere (.declare "other"),
    .receive (.error (.transport .channelClosed)), .turnAway]

/-- It commits the success, rolls the failure back, and gives the other two back, each between a
rollback and a commit. -/
theorem run_keeps_hands_off_atThree :
    ∃ s, atThree.start.run atThree.seat atThree.post mixed = .ok s ∧
      s.processed.map (·.1) = [1, 2, 3, 4] ∧ s.inbox.map (·.tag) = [5] ∧
      s.broker.ledger 2 = atThree.broker.ledger 2 ++
        [.commit, .rollback,
          .rollback, .settle ⟨3, false, .nack true⟩, .commit,
          .rollback, .settle ⟨4, false, .nack true⟩, .commit] ∧
      s.desk.Bare := by
  have apart : ∀ op, ShiftEvent.elsewhere op ∈ mixed →
      ¬ op.SettlesOn atThree.channel ∧ atThree.seat.Admits op := by
    intro op member
    obtain rfl : op = .declare "other" := by simpa [mixed] using member
    exact ⟨id, trivial⟩
  obtain ⟨s, ran, seen⟩ := Engagement.exists_of_seen
    (show (atThree.start.run atThree.seat atThree.post mixed).toOption.map
        (fun s => (s.processed, s.inbox.map (·.tag))) =
      some ([(1, .success), (2, .failure false false), (3, .failure true true), (4, .stopping)], [5])
      by decide +kernel)
  obtain ⟨processed, inbox⟩ := Prod.mk.inj seen
  have keeps := atThree.run_keeps_hands_off apart ran
  refine ⟨s, ran, congrArg (List.map (·.1)) processed, inbox, ?_, keeps.bare⟩
  have ledger := keeps.ledger
  rw [processed] at ledger
  exact ledger

end Onlooker

end QueueListener
