import QueueListener.Proofs.Container.Deeds
import QueueListener.Proofs.Registry.Standstill
import QueueListener.Proofs.Table
/-!
# What is written about the consumers

**Every consumer that has ended was told to have ended, once, and has let its channel go**; whoever
was reported to have ended has done so. That holds at any time: a consumer that does something writes
nothing else, and the administration ends consumers in no other way.

* `World.Records` — what is written about the consumers is in order;
* `Doing.records`, `Effect.records` — what consumers do, and what ends them, keeps it so;
* `spawnAll_records`, `retireAll_records` — so does the start of consumers, and their retirement;
* `Deed.records` — and every deed of a monitor or of an errand.
-/

namespace QueueListener

/-- What was told about a consumer that is finished. -/
def Consumer.ending (c : Consumer) : Multiset (String × Option String) :=
  if c.phase = .finished then {(c.queue, c.tag)} else 0

/-- The ends of consumers that were told. -/
def Chronicle.endings (chronicle : Chronicle) : Multiset (String × Option String) :=
  (chronicle.events.toList.filterMap (·.2.ending?) : List (String × Option String))

namespace World

/-- What is written about the consumers is in order. -/
structure Records (w : World) : Prop where
  distinct : w.consumers.keys.Nodup
  numbered : ∀ id ∈ w.consumers.keys, id ≤ w.registry.lastConsumer
  /-- Whoever goes on has not terminated. -/
  living : ∀ id c, w.consumers.get? id = some c → c.phase ≠ .finished → c.state ≠ .terminated
  /-- Whoever has ended has let its channel go. -/
  released : ∀ id c, w.consumers.get? id = some c → c.phase = .finished → c.channel = none
  /-- Whoever was reported to have ended has done so. -/
  reported : ∀ (run : Nat) (m : Monitor), w.monitors[run]? = some m → ∀ r ∈ m.reports, ∀ id,
    r.ended? = some id → ∃ c, w.consumers.get? id = some c ∧ c.phase = .finished
  /-- The ends that were told are those of the consumers that are finished. -/
  told : w.plan.hasSink = true → w.chronicle.endings = w.consumers.total Consumer.ending

variable {w w' w'' : World} {id : Nat} {task : Task}

theorem new_records (plan : Plan) (client : Client) : (World.new plan client).Records where
  distinct := List.nodup_nil
  numbered _ none := absurd none List.not_mem_nil
  living _ _ found := by cases found
  released _ _ found := by cases found
  reported run m found := by cases found
  told _ := rfl

/-- Whoever goes on can be ended by force. -/
theorem Records.closable (records : w.Records) (busy : w.isFinished id = false) :
    w.Closable id := by
  obtain ⟨c, found, working⟩ := isFinished_eq_false.mp busy
  intro c' found'
  rw [found] at found'
  cases found'
  exact ⟨fun finished => absurd finished working,
    fun terminated => absurd terminated (records.living id c found working)⟩

/-! ### Changes that leave the records alone -/

/-- Nothing is written about the consumers. -/
theorem Records.of_same (records : w.Records) (plan : w'.plan = w.plan)
    (consumers : w'.consumers = w.consumers)
    (last : w.registry.lastConsumer ≤ w'.registry.lastConsumer)
    (endings : w'.chronicle.endings = w.chronicle.endings)
    (reports : ∀ (run : Nat) (m' : Monitor), w'.monitors[run]? = some m' → ∀ r ∈ m'.reports,
      ∀ id, r.ended? = some id → ∃ m : Monitor, w.monitors[run]? = some m ∧ r ∈ m.reports) :
    w'.Records where
  distinct := consumers ▸ records.distinct
  numbered id among := Nat.le_trans (records.numbered id (consumers ▸ among)) last
  living id c found := records.living id c (consumers ▸ found)
  released id c found := records.released id c (consumers ▸ found)
  reported run m' found r among id ended := by
    obtain ⟨m, found₀, among₀⟩ := reports run m' found r among id ended
    rw [consumers]
    exact records.reported run m found₀ r among₀ id ended
  told sink := by
    rw [endings, consumers]
    exact records.told (plan ▸ sink)

/-- Something is written about a consumer, but not that it has ended. -/
theorem Records.modified (records : w.Records) (id : Nat) (f : Consumer → Consumer)
    (plan : w'.plan = w.plan) (consumers : w'.consumers = w.consumers.modify id f)
    (last : w'.registry.lastConsumer = w.registry.lastConsumer)
    (endings : w'.chronicle.endings = w.chronicle.endings) (monitors : w'.monitors = w.monitors)
    (living : ∀ c, w.consumers.get? id = some c → c.phase ≠ .finished →
      (f c).phase ≠ .finished ∧ (f c).state ≠ .terminated)
    (ended : ∀ c, w.consumers.get? id = some c → c.phase = .finished →
      (f c).phase = .finished ∧ (f c).channel = none ∧ (f c).ending = c.ending) :
    w'.Records := by
  have reads : ∀ other c', w'.consumers.get? other = some c' →
      w.consumers.get? other = some c' ∨
        ∃ c, other = id ∧ w.consumers.get? id = some c ∧ c' = f c := by
    intro other c' found
    rw [consumers, Table.get?_modify] at found
    split at found
    next here =>
      obtain ⟨c, found₀, rfl⟩ := Option.map_eq_some_iff.mp found
      exact .inr ⟨c, here, here ▸ found₀, rfl⟩
    next => exact .inl found
  refine ⟨?_, ?_, ?_, ?_, ?_, ?_⟩
  · rw [consumers, Table.keys_modify]
    exact records.distinct
  · rw [consumers, Table.keys_modify, last]
    exact records.numbered
  · intro other c' found working
    obtain before | ⟨c, rfl, found₀, rfl⟩ := reads other c' found
    · exact records.living other c' before working
    · refine (living c found₀ fun finished => ?_).2
      exact working (ended c found₀ finished).1
  · intro other c' found finished
    obtain before | ⟨c, rfl, found₀, rfl⟩ := reads other c' found
    · exact records.released other c' before finished
    · refine (ended c found₀ ?_).2.1
      by_contra working
      exact (living c found₀ working).1 finished
  · intro run m found r among other about
    obtain ⟨c, found₀, finished⟩ := records.reported run m (monitors ▸ found) r among other about
    rw [consumers, Table.get?_modify, found₀]
    split
    next here => exact ⟨f c, rfl, (ended c (here ▸ found₀) finished).1⟩
    next => exact ⟨c, rfl, finished⟩
  · intro sink
    rw [endings, consumers, records.told (plan ▸ sink)]
    refine (Table.total_modify_eq _ records.distinct id f fun c found => ?_).symm
    by_cases finished : c.phase = .finished
    · exact (ended c found finished).2.2
    · unfold Consumer.ending
      rw [if_neg finished, if_neg (living c found finished).1]

theorem publish_endings (w : World) {event : Event} (endless : event.ending? = none) :
    (w.publish event).chronicle.endings = w.chronicle.endings := by
  unfold publish
  split
  next =>
    unfold Chronicle.endings
    dsimp only
    rw [Array.toList_push, List.filterMap_append, List.filterMap_cons]
    dsimp only
    rw [endless, List.filterMap_nil, List.append_nil]
  next => rfl

/-- Nothing is written about the consumers, and nothing is reported. -/
theorem Records.unreported (records : w.Records) (plan : w'.plan = w.plan)
    (consumers : w'.consumers = w.consumers)
    (last : w'.registry.lastConsumer = w.registry.lastConsumer)
    (endings : w'.chronicle.endings = w.chronicle.endings) (monitors : w'.monitors = w.monitors) :
    w'.Records :=
  records.of_same plan consumers (Nat.le_of_eq last.symm) endings
    fun _ m' found _ among _ _ => ⟨m', monitors ▸ found, among⟩

theorem Records.publish (records : w.Records) {event : Event} (endless : event.ending? = none) :
    (w.publish event).Records := by
  have endings := publish_endings w endless
  unfold World.publish at endings ⊢
  split at endings
  next heard =>
    rw [if_pos heard]
    exact records.unreported rfl rfl rfl endings rfl
  next unheard =>
    rw [if_neg unheard]
    exact records

/-- A report is sent, about consumers that are finished. -/
theorem Records.report (records : w.Records) (run : Nat) {r : Report}
    (about : ∀ id, r.ended? = some id → ∃ c, w.consumers.get? id = some c ∧ c.phase = .finished) :
    (w.report run r).Records where
  distinct := records.distinct
  numbered := records.numbered
  living := records.living
  released := records.released
  reported other m found r' among id ended := by
    have found' : (w.monitors.modify run fun m => { m with reports := m.reports ++ [r] })[other]? =
      some m := found
    rw [Array.getElem?_modify] at found'
    split at found'
    next =>
      obtain ⟨m₀, found₀, rfl⟩ := Option.map_eq_some_iff.mp found'
      obtain earlier | new := List.mem_append.mp among
      · exact records.reported other m₀ found₀ r' earlier id ended
      · rw [List.mem_singleton.mp new] at ended
        exact about id ended
    next => exact records.reported other m found' r' among id ended
  told := records.told

theorem publish_monitors (w : World) (event : Event) :
    (w.publish event).monitors = w.monitors := by
  unfold World.publish
  split <;> rfl

theorem Aside.records (aside : w.Aside w') (records : w.Records) : w'.Records := by
  cases aside with
  | asked | fed | noted | woken => exact records.unreported rfl rfl rfl rfl rfl
  | delivered =>
    obtain ⟨handoffs, tasks, same⟩ := w.deliverNotices_shape
    rw [same]
    exact records.unreported rfl rfl rfl rfl rfl
  | @told event passing =>
    refine records.publish ?_
    cases event <;> first | rfl | cases passing

theorem Passes.records (passes : w.Passes w') (records : w.Records) : w'.Records := by
  induction passes with
  | refl => exact records
  | tail _ aside ih => exact aside.records ih

theorem releaseChannel_records (records : w.Records) (id : Nat) :
    (w.releaseChannel id).2.Records := by
  unfold releaseChannel
  split
  next => exact records
  next =>
    refine (deliverNotices_passes _).records ?_
    refine records.modified id (fun c => { c with channel := none }) rfl rfl rfl rfl rfl
      (fun c found working => ?_) fun c found finished => ?_
    · exact ⟨working, records.living id c found working⟩
    · exact ⟨finished, rfl, rfl⟩

/-- **What a consumer does that goes on keeps the records in order.** -/
theorem Doing.records (doing : Doing id w w') (busy : w.isFinished id = false)
    (records : w.Records) : w'.Records := by
  obtain ⟨c₀, found₀, working₀⟩ := isFinished_eq_false.mp busy
  cases doing with
  | aside aside => exact aside.records records
  | worked | subscribed | handed | timed | untimed => exact records.unreported rfl rfl rfl rfl rfl
  | @written f goesOn =>
    refine records.modified id f rfl rfl rfl rfl rfl (fun c found working => ?_)
      fun c found finished => ?_
    · exact ⟨(goesOn c found).working working,
        (goesOn c found).living (records.living id c found working)⟩
    · rw [found₀] at found
      cases found
      exact absurd finished working₀
  | reported run queue =>
    refine records.report run ?_
    rintro _ ⟨⟩
  | @opened _ _ _ client channel without ran of =>
    have asked : ({ w with client } : World).Records := records.unreported rfl rfl rfl rfl rfl
    have told := (deliverNotices_passes _).records asked
    refine told.modified id (fun c => { c with channel := some channel }) rfl rfl rfl rfl rfl
      (fun c found working => ?_) fun c found finished => ?_
    · exact ⟨working, told.living id c found working⟩
    · rw [deliverNotices_consumers, found₀] at found
      cases found
      exact absurd finished working₀
  | released => exact releaseChannel_records records id

theorem Does.records (does : Does id w w') (busy : w.isFinished id = false)
    (records : w.Records) : w'.Records := by
  induction does with
  | refl => exact records
  | tail before doing ih => exact doing.records (Does.busy before busy) ih

/-- An end that is told is one more. -/
theorem publish_ending (w : World) (sink : w.plan.hasSink = true) {event : Event}
    {end? : String × Option String} (ends : event.ending? = some end?) :
    (w.publish event).chronicle.endings = w.chronicle.endings + {end?} := by
  unfold publish
  rw [if_pos sink]
  unfold Chronicle.endings
  dsimp only
  rw [Array.toList_push, List.filterMap_append, List.filterMap_cons]
  dsimp only
  rw [ends, List.filterMap_nil]
  rfl

theorem reportAny_chronicle (w : World) (run : Nat) (report : Option Report) :
    (w.reportAny run report).chronicle = w.chronicle := by
  cases report with
  | none => rfl
  | some report => rfl

/-- A report that is there was there before, or was sent now. -/
theorem reportAny_reports (w : World) (run : Nat) (report : Option Report) {other : Nat}
    {m : Monitor} (found : (w.reportAny run report).monitors[other]? = some m) {r : Report}
    (among : r ∈ m.reports) :
    r ∈ report ∨ ∃ m₀ : Monitor, w.monitors[other]? = some m₀ ∧ r ∈ m₀.reports := by
  cases report with
  | none => exact .inr ⟨m, found, among⟩
  | some new =>
    have found' : (w.monitors.modify run fun m =>
        { m with reports := m.reports ++ [new] })[other]? = some m := found
    rw [Array.getElem?_modify] at found'
    split at found'
    next =>
      obtain ⟨m₀, found₀, rfl⟩ := Option.map_eq_some_iff.mp found'
      obtain earlier | now := List.mem_append.mp among
      · exact .inr ⟨m₀, found₀, earlier⟩
      · exact .inl (List.mem_singleton.mp now ▸ rfl)
    next => exact .inr ⟨m, found', among⟩

/-- **The end of a consumer that had let its channel go is told**, and once. -/
theorem ended_records (records : w.Records) {c : Consumer} (found : w.consumers.get? id = some c)
    (busy : c.phase ≠ .finished) (without : c.channel = none) (metrics : Metrics)
    (state : ConsumerState) {event : Event} (told : event.ending? = some (c.queue, c.tag))
    {report : Option Report} (about : ∀ r ∈ report, r.ended? = some id) :
    ((((({ w with metrics } : World).updateConsumer id fun c =>
      { c with state }).publish event).reportAny c.run report).retireTask id).Records := by
  have quiet := end_quiet w id c.run metrics state event report
  have consumers := ended_consumers w id c.run metrics state event report
  generalize written : ({ w with metrics } : World).updateConsumer id (fun c => { c with state }) =
    w₁ at quiet consumers ⊢
  have ended : (((w₁.publish event).reportAny c.run report).retireTask id).consumers.get? id =
      some { c with state, phase := .finished } := by
    rw [consumers, Table.get?_modify_self, Table.get?_modify_self, found]
    rfl
  have others : ∀ other, other ≠ id →
      (((w₁.publish event).reportAny c.run report).retireTask id).consumers.get? other =
        w.consumers.get? other := by
    intro other differ
    rw [consumers, Table.get?_modify_of_ne _ _ differ, Table.get?_modify_of_ne _ _ differ]
  refine ⟨?_, ?_, ?_, ?_, ?_, ?_⟩
  · rw [consumers, Table.keys_modify, Table.keys_modify]
    exact records.distinct
  · rw [consumers, Table.keys_modify, Table.keys_modify, quiet.registry]
    exact records.numbered
  · intro other c' found' working
    by_cases here : other = id
    · rw [here, ended] at found'
      cases found'
      exact absurd rfl working
    · exact records.living other c' (others other here ▸ found') working
  · intro other c' found' finished
    by_cases here : other = id
    · rw [here, ended] at found'
      cases found'
      exact without
    · exact records.released other c' (others other here ▸ found') finished
  · intro run m sent r among other ends
    have sent' : ((w₁.publish event).reportAny c.run report).monitors[run]? = some m := sent
    obtain now | ⟨m₀, sent₀, among₀⟩ := reportAny_reports _ _ _ sent' among
    · rw [about r now] at ends
      cases ends
      exact ⟨_, ended, rfl⟩
    · have before : w.monitors[run]? = some m₀ := by
        rw [publish_monitors, ← written] at sent₀
        exact sent₀
      obtain ⟨c', found', finished⟩ := records.reported run m₀ before r among₀ other ends
      refine ⟨c', ?_, finished⟩
      rw [others other ?_, found']
      rintro rfl
      rw [found] at found'
      cases found'
      exact busy finished
  · intro sink
    have sink₁ : w₁.plan.hasSink = true := by
      rw [← written]
      exact quiet.plan ▸ sink
    have heard : (((w₁.publish event).reportAny c.run report).retireTask id).chronicle.endings =
        w.chronicle.endings + {(c.queue, c.tag)} := by
      show ((w₁.publish event).reportAny c.run report).chronicle.endings = _
      rw [reportAny_chronicle, publish_ending w₁ sink₁ told, ← written]
      rfl
    have noted : (w.consumers.modify id fun c => { c with state }).get? id =
        some { c with state } := by
      rw [Table.get?_modify_self, found, Option.map_some]
    have distinct : (w.consumers.modify id fun c => { c with state }).keys.Nodup := by
      rw [Table.keys_modify]
      exact records.distinct
    rw [heard, consumers, records.told (quiet.plan ▸ sink),
      Table.total_modify Consumer.ending distinct noted, Table.erase_modify,
      Table.total_eq_add_erase Consumer.ending records.distinct found]
    have unended : c.ending = 0 := if_neg busy
    rw [unended, zero_add, add_comm]
    rfl

/-- **What ends consumers keeps the records in order.** -/
theorem Effect.records (effect : Effect task w w') (records : w.Records) : w'.Records := by
  cases effect with
  | aside aside => exact aside.records records
  | timed | untimed | rested | dropped => exact records.unreported rfl rfl rfl rfl rfl
  | @released id => exact releaseChannel_records records id
  | @touched id f same =>
    refine records.modified id f rfl rfl rfl rfl rfl (fun c found working => ?_)
      fun c found finished => ?_
    · obtain ⟨-, -, -, -, phase, state, -⟩ := same c found
      exact ⟨phase ▸ working, state working ▸ records.living id c found working⟩
    · obtain ⟨queue, -, tag, channel, phase, -⟩ := same c found
      refine ⟨phase ▸ finished, channel ▸ records.released id c found finished, ?_⟩
      unfold Consumer.ending
      rw [queue, tag, phase]
  | @ended id c found busy metrics state event told report about =>
    have released : (w.releaseChannel id).2.consumers.get? id = some { c with channel := none } := by
      rw [releaseChannel_get?, if_pos rfl, found]
      rfl
    exact ended_records (releaseChannel_records records id) released busy rfl metrics state told
      about

theorem Effects.records (effects : Effects task w w') (records : w.Records) : w'.Records := by
  induction effects with
  | refl => exact records
  | tail _ effect ih => exact effect.records ih

/-! ### Starting and retiring -/

/-- A consumer that is new is at its beginning. -/
theorem spawn_records (records : w.Records) {consumer : Nat × String}
    (fresh : consumer.1 ∉ w.consumers.keys) (numbered : consumer.1 ≤ w.registry.lastConsumer) :
    (w.spawn consumer).Records := by
  have reads : ∀ other c, (w.spawn consumer).consumers.get? other = some c →
      c = w.newConsumer consumer.2 ∨ w.consumers.get? other = some c := by
    intro other c found
    have found' : (w.consumers.set consumer.1 (w.newConsumer consumer.2)).get? other = some c :=
      found
    rw [Table.get?_set] at found'
    split at found'
    next => exact .inl (Option.some.inj found').symm
    next => exact .inr found'
  have keys : (w.spawn consumer).consumers.keys = w.consumers.keys ++ [consumer.1] :=
    Table.keys_set_of_fresh fresh _
  refine ⟨Table.keys_set_nodup records.distinct _ _, ?_, ?_, ?_, ?_, ?_⟩
  · intro other among
    rw [keys] at among
    obtain before | new := List.mem_append.mp among
    · exact records.numbered other before
    · exact List.mem_singleton.mp new ▸ numbered
  · intro other c found working
    obtain rfl | before := reads other c found
    · rintro ⟨⟩
    · exact records.living other c before working
  · intro other c found finished
    obtain rfl | before := reads other c found
    · cases finished
    · exact records.released other c before finished
  · intro run m sent r among other ends
    obtain ⟨c, found, finished⟩ := records.reported run m sent r among other ends
    refine ⟨c, (Table.get?_set _ _ _ _).trans ?_, finished⟩
    rw [if_neg, found]
    rintro rfl
    exact fresh (Table.mem_keys_of_get? found)
  · intro sink
    have total := Table.total_set_of_fresh Consumer.ending fresh (w.newConsumer consumer.2)
    have unended : (w.newConsumer consumer.2).ending = 0 := if_neg (by rintro ⟨⟩)
    rw [unended, add_zero] at total
    exact (records.told sink).trans total.symm

/-- **Consumers are started under numbers that were not in use.** -/
theorem spawnAll_records {new : List (Nat × String)} (records : w.Records)
    (distinct : (new.map (·.1)).Nodup)
    (fresh : ∀ id ∈ new.map (·.1), id ∉ w.consumers.keys ∧ id ≤ w.registry.lastConsumer) :
    (new.foldl spawn w).Records := by
  induction new generalizing w with
  | nil => exact records
  | cons consumer new ih =>
    obtain ⟨differs, distinct⟩ := List.nodup_cons.mp distinct
    obtain ⟨unused, numbered⟩ := fresh consumer.1 List.mem_cons_self
    refine ih (spawn_records records unused numbered) distinct fun id among => ?_
    obtain ⟨unused', numbered'⟩ := fresh id (List.mem_cons_of_mem _ among)
    refine ⟨?_, numbered'⟩
    show id ∉ (w.consumers.set consumer.1 _).keys
    rw [Table.keys_set_of_fresh unused, List.mem_append, List.mem_singleton]
    rintro (before | rfl)
    · exact unused' before
    · exact differs among

theorem retire_records (records : w.Records) (id : Nat) : (w.retire id).Records :=
  (Effects.records (requestStop_effects (.consumer id) w id) records).unreported
    rfl rfl rfl rfl rfl

theorem retireAll_records (records : w.Records) (ids : List Nat) :
    (ids.foldl retire w).Records := by
  induction ids generalizing w with
  | nil => exact records
  | cons id ids ih => exact ih (retire_records records id)

/-! ### Deeds -/

theorem Reassigns.records (reassigns : Reassigns task w w') (records : w.Records) : w'.Records := by
  refine records.of_same reassigns.plan reassigns.consumers
    (Nat.le_of_eq (congrArg _ reassigns.registry.symm)) ?_ fun run m' found r among _ _ => ?_
  · unfold Chronicle.endings
    rw [reassigns.events]
  · obtain ⟨m, found₀, fewer⟩ := reassigns.reports run m' found
    exact ⟨m, found₀, fewer among⟩

/-- Consumers that the registry decides to start get numbers that are not in use. -/
theorem Records.fresh (records : w.Records) {registry : Registry} {changes : Changes}
    {new : List (Nat × String)}
    (hands : Registry.HandsOver (w.registry, {}) (registry, changes) new) :
    (changes.started.map (·.1)).Nodup ∧ ∀ id ∈ changes.started.map (·.1),
      id ∉ w.consumers.keys ∧ id ≤ registry.lastConsumer := by
  have started : changes.started = new := hands.started
  rw [started, hands.numbers]
  refine ⟨List.nodup_range', fun id among => ?_⟩
  obtain ⟨above, below⟩ := List.mem_range'_1.mp among
  refine ⟨fun used => absurd (records.numbered id used) (Nat.not_le_of_lt above), ?_⟩
  have last := hands.last
  dsimp only at last below
  omega

/-- **A deed keeps the records in order.** -/
theorem Deed.records (deed : Deed task w w') (records : w.Records) : w'.Records := by
  cases deed with
  | affected effect => exact effect.records records
  | informed consumers state last fatal => exact records.unreported rfl rfl last rfl rfl
  | dismissed queue done => exact records.unreported rfl rfl rfl rfl rfl
  | @staffed registry changes new running hands =>
    have later : ({ w with registry } : World).Records :=
      records.of_same rfl rfl (by rw [hands.last]; exact Nat.le_add_right _ _) rfl
        fun _ m found _ among _ _ => ⟨m, found, among⟩
    obtain ⟨distinct, fresh⟩ := records.fresh hands
    exact retireAll_records (spawnAll_records later distinct fresh) changes.retired
  | paused queue running =>
    have dropped : ({ w with registry := w.registry.dropConsumers queue } : World).Records :=
      records.unreported rfl rfl rfl rfl rfl
    exact retireAll_records dropped _
  | reassigned reassigns keeps => exact reassigns.records records
  | @removed names _ _ free after reassigns assigned =>
    have removed : ({ w with registry := (w.registry.remove names).1 } : World).Records :=
      records.unreported rfl rfl (Registry.remove_startsNone _ _).last rfl rfl
    exact reassigns.records (Effects.records after removed)
  | stopBegun fatal free begun after reassigns assigned =>
    refine reassigns.records (Effects.records after (records.of_same rfl rfl
      (Nat.le_of_eq (Registry.beginStop_startsNone begun).last.symm) rfl
      fun run m' found r among _ _ => ?_))
    dsimp only at found
    rw [Array.getElem?_modify] at found
    split at found
    next =>
      obtain ⟨m, found₀, rfl⟩ := Option.map_eq_some_iff.mp found
      exact ⟨m, found₀, among⟩
    next => exact ⟨m', found, among⟩

/-- The end of a stop keeps the records in order. -/
theorem EndsStop.records {fatal : Option String} (ends : EndsStop task fatal w w')
    (records : w.Records) : w'.Records := by
  obtain ⟨middle, after, before, -, later, reassigns⟩ := ends.ended
  refine reassigns.records (Records.publish (Effects.records later ?_) rfl)
  exact (Effects.records before records).unreported rfl rfl rfl rfl rfl

end World

end QueueListener
