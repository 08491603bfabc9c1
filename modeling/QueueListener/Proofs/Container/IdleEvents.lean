import Mathlib.Data.List.Chain
import Mathlib.Data.List.Induction
import QueueListener.Proofs.Container.Hours
import QueueListener.Proofs.Container.Lives
/-!
# How far idle events are apart

**A consumer that receives nothing tells that it is idle exactly if its interval has passed since its
session began, since it received the last delivery, and since it told so last.** So its idle events are
at least the interval apart, and none comes sooner than that after a delivery; and while it receives
nothing, they are apart no further than the interval and the time between two receives.

* `Entry`, `diaryOf` — what a consumer does on the occasions of its life, and when;
* `Spaced` — how the idle events of a diary are spaced;
* `Kept`, `Kept.spaced` — each entry fits those before it, and what follows from that;
* `World.Recorded`, `Recorded.passed` — the hours of a consumer are those of its diary, and stay so in
  its turns;
* `World.Diaried`, `accompanies_diaried` — one scene, what happens besides, and so all of them;
* `run_spaces_idle_events` — the statement for every consumer of every run.
-/

namespace QueueListener

/-! ### Diaries -/

/-- What a consumer does with a turn. -/
inductive Occupation
  /-- Its session begins. -/
  | opens
  /-- It receives a delivery. -/
  | receives
  /-- It receives nothing, and tells for how long it has been idle. -/
  | rests (told : List Duration)
  deriving DecidableEq

/-- What a consumer does, and when. -/
structure Entry where
  time : Nat
  occupation : Occupation
  deriving DecidableEq

namespace Entry

/-- What is told of idleness. -/
def told (entry : Entry) : List Duration :=
  match entry.occupation with
  | .rests told => told
  | _ => []

/-- An idle event is told. -/
def tells (entry : Entry) : Bool := !entry.told.isEmpty

/-- The consumer is busy: its session begins, or it receives a delivery. -/
def busy (entry : Entry) : Bool :=
  match entry.occupation with
  | .rests _ => false
  | _ => true

/-- Nothing is received, and nothing is told. -/
def Silent (entry : Entry) : Prop := entry.occupation = .rests []

/-- Idleness is counted from here: the session begins, a delivery is received, or an idle event is
told. -/
def Marks (entry : Entry) : Prop := entry.busy = true ∨ entry.tells = true

/-- How long after another entry. -/
def since (entry earlier : Entry) : Duration := Duration.ofMillis (entry.time - earlier.time)

end Entry

/-- How the idle events of a diary are spaced. -/
structure Spaced (interval : Duration) (diary : List Entry) : Prop where
  /-- Time does not run back. -/
  ordered : diary.Pairwise fun earlier later => earlier.time ≤ later.time
  /-- The session begins with the first entry, and not again. -/
  opens : ∀ before entry after, diary = before ++ entry :: after →
    (entry.occupation = .opens ↔ before = [])
  /-- If nothing is received, an idle event is told exactly if the interval has passed since everything
  from which idleness is counted. -/
  tells_iff : ∀ before entry after, diary = before ++ entry :: after → entry.busy = false →
    (entry.tells = true ↔ ∀ earlier ∈ before, earlier.Marks → interval ≤ entry.since earlier)
  /-- One event is told, of the time since the last delivery, or since the session began. -/
  length : ∀ before entry after, diary = before ++ entry :: after → ∀ length ∈ entry.told,
    entry.told = [length] ∧ interval ≤ length ∧ ∃ last ∈ before, last.busy = true ∧
      length = entry.since last ∧ ∀ earlier ∈ before, earlier.busy = true → earlier.time ≤ last.time
  /-- An idle event comes no sooner than the interval after an idle event, a delivery, or the beginning
  of the session. -/
  apart : diary.Pairwise fun earlier later =>
    earlier.Marks → later.tells = true → interval ≤ later.since earlier
  /-- If nothing is received and nothing told between two entries, and no more than so much time passes
  from each entry to the next, the second one comes sooner than the interval and that time. -/
  soon : ∀ before first idles last after longest,
    diary = before ++ first :: (idles ++ last :: after) → (∀ entry ∈ idles, entry.Silent) →
    (first :: (idles ++ [last])).IsChain (fun earlier later => later.since earlier ≤ longest) →
    last.since first < interval + longest

/-- When such an entry was made last. -/
def lastOf (such : Entry → Bool) (diary : List Entry) : Option Nat :=
  (diary.filter such).getLast?.map (·.time)

/-- An entry fits those before it. -/
structure Entry.Fits (interval : Duration) (before : List Entry) (entry : Entry) : Prop where
  late : ∀ earlier ∈ before, earlier.time ≤ entry.time
  opens : entry.occupation = .opens ↔ before = []
  rests : ∀ told, entry.occupation = .rests told → ∃ delivery,
    lastOf Entry.busy before = some delivery ∧
      told = if interval ≤ Duration.ofMillis
          (entry.time - max delivery ((lastOf Entry.tells before).getD 0)) then
        [Duration.ofMillis (entry.time - delivery)] else []

/-- Each entry of a diary fits those before it. -/
def Kept (interval : Duration) (diary : List Entry) : Prop :=
  ∀ before entry after, diary = before ++ entry :: after → entry.Fits interval before

section Diaries

variable {interval : Duration} {diary before after : List Entry} {entry earlier : Entry}
  {such : Entry → Bool} {time delivery : Nat}

theorem lastOf_concat (such : Entry → Bool) (diary : List Entry) (entry : Entry) :
    lastOf such (diary ++ [entry]) = if such entry then some entry.time else lastOf such diary := by
  unfold lastOf
  rw [List.filter_append]
  cases holds : such entry with
  | true => simp [holds]
  | false => simp [holds]

/-- The last of its kind is among them. -/
theorem exists_lastOf (last : lastOf such diary = some time) :
    ∃ entry ∈ diary, such entry = true ∧ entry.time = time := by
  obtain ⟨entry, isLast, rfl⟩ := Option.map_eq_some_iff.mp last
  obtain ⟨among, holds⟩ := List.mem_filter.mp (List.mem_of_getLast? isLast)
  exact ⟨entry, among, holds, rfl⟩

/-- None of its kind comes after the last one. -/
theorem le_lastOf (ordered : diary.Pairwise fun earlier later => earlier.time ≤ later.time)
    (among : entry ∈ diary) (holds : such entry = true) :
    ∃ time, lastOf such diary = some time ∧ entry.time ≤ time := by
  induction diary using List.reverseRecOn with
  | nil => cases among
  | append_singleton diary last ih =>
    obtain ⟨ordered, -, late⟩ := List.pairwise_append.mp ordered
    rw [lastOf_concat]
    cases other : such last with
    | true =>
      refine ⟨last.time, rfl, ?_⟩
      obtain before | same := List.mem_append.mp among
      · exact late entry before last (List.mem_singleton.mpr rfl)
      · exact List.mem_singleton.mp same ▸ Nat.le_refl _
    | false =>
      obtain before | same := List.mem_append.mp among
      · exact ih ordered before
      · rw [List.mem_singleton.mp same, other] at holds
        cases holds

/-- What is so of each entry and those before it is so of any two. -/
theorem pairwise_of_splits {R : Entry → Entry → Prop}
    (each : ∀ before entry after, diary = before ++ entry :: after → ∀ earlier ∈ before,
      R earlier entry) : diary.Pairwise R := by
  induction diary using List.reverseRecOn with
  | nil => exact .nil
  | append_singleton diary last ih =>
    refine List.pairwise_append.mpr ⟨ih fun before entry after split => ?_,
      List.pairwise_singleton _ _, fun earlier among later same => ?_⟩
    · refine each before entry (after ++ [last]) ?_
      rw [split, List.append_assoc]
      rfl
    · rw [List.mem_singleton.mp same]
      exact each diary last [] rfl earlier among

theorem Kept.of_append (kept : Kept interval (before ++ after)) : Kept interval before := by
  rintro first entry rest rfl
  exact kept first entry (rest ++ after) (by rw [List.append_assoc]; rfl)

/-- An entry is added. -/
theorem Kept.concat (kept : Kept interval diary) (fits : entry.Fits interval diary) :
    Kept interval (diary ++ [entry]) := by
  intro before other after split
  obtain rfl | ⟨after, last, rfl⟩ := List.eq_nil_or_concat after
  · obtain ⟨rfl, same⟩ := List.append_inj' split rfl
    exact List.singleton_inj.mp same ▸ fits
  · rw [List.concat_eq_append, ← List.cons_append, ← List.append_assoc] at split
    obtain ⟨rfl, -⟩ := List.append_inj' split rfl
    exact kept before other after rfl

theorem Kept.ordered (kept : Kept interval diary) :
    diary.Pairwise fun earlier later => earlier.time ≤ later.time :=
  pairwise_of_splits fun before entry after split => (kept before entry after split).late

/-- The longer ago, the longer since. -/
theorem ofMillis_mono {short long : Nat} (le : short ≤ long) :
    Duration.ofMillis short ≤ Duration.ofMillis long := Nat.mul_le_mul_right _ le

/-- **The last delivery and the last idle event are long enough ago** exactly if everything is from which
idleness is counted. -/
theorem Kept.due_iff (kept : Kept interval before) (last : lastOf Entry.busy before = some delivery)
    (entry : Entry) :
    interval ≤ Duration.ofMillis
        (entry.time - max delivery ((lastOf Entry.tells before).getD 0)) ↔
      ∀ earlier ∈ before, earlier.Marks → interval ≤ entry.since earlier := by
  constructor
  · intro due earlier among marks
    have le : earlier.time ≤ max delivery ((lastOf Entry.tells before).getD 0) := by
      obtain busy | tells := marks
      · obtain ⟨time, same, le⟩ := le_lastOf kept.ordered among busy
        cases last.symm.trans same
        exact Nat.le_trans le (Nat.le_max_left _ _)
      · obtain ⟨time, same, le⟩ := le_lastOf kept.ordered among tells
        rw [same]
        exact Nat.le_trans le (Nat.le_max_right _ _)
    exact Nat.le_trans due (ofMillis_mono (Nat.sub_le_sub_left le _))
  · intro all
    obtain ⟨received, among, busy, rfl⟩ := exists_lastOf last
    have sinceDelivery : interval ≤ entry.since received := all received among (.inl busy)
    cases told : lastOf Entry.tells before with
    | none =>
      rw [Option.getD_none, Nat.max_eq_left (Nat.zero_le _)]
      exact sinceDelivery
    | some time =>
      obtain ⟨idle, among', tells, rfl⟩ := exists_lastOf told
      have sinceIdle : interval ≤ entry.since idle := all idle among' (.inr tells)
      rw [Option.getD_some]
      obtain le | le := Nat.le_total idle.time received.time
      · rw [Nat.max_eq_left le]
        exact sinceDelivery
      · rw [Nat.max_eq_right le]
        exact sinceIdle

theorem Entry.tells_of_told {told : List Duration} (same : entry.told = told) (some : told ≠ []) :
    entry.tells = true := by
  unfold Entry.tells
  rw [same]
  simpa using some

theorem Entry.silent_iff : entry.Silent ↔ entry.busy = false ∧ entry.tells = false := by
  obtain ⟨time, occupation⟩ := entry
  cases occupation with
  | opens => simp [Silent, busy]
  | receives => simp [Silent, busy]
  | rests told => simp [Silent, busy, tells, Entry.told]

/-- What is told when nothing is received. -/
theorem Kept.told (kept : Kept interval (before ++ entry :: after)) (idle : entry.busy = false) :
    ∃ last ∈ before, last.busy = true ∧
      (∀ earlier ∈ before, earlier.busy = true → earlier.time ≤ last.time) ∧
      ((∀ earlier ∈ before, earlier.Marks → interval ≤ entry.since earlier) →
        entry.told = [entry.since last] ∧ interval ≤ entry.since last) ∧
      ((¬ ∀ earlier ∈ before, earlier.Marks → interval ≤ entry.since earlier) →
        entry.told = []) := by
  obtain ⟨time, occupation⟩ := entry
  cases occupation with
  | opens => cases idle
  | receives => cases idle
  | rests told =>
    obtain ⟨delivery, last, rests⟩ := (kept before _ after rfl).rests told rfl
    obtain ⟨received, among, busy, rfl⟩ := exists_lastOf last
    refine ⟨received, among, busy, fun earlier among' busy' => ?_, fun due => ?_, fun early => ?_⟩
    · obtain ⟨time, same, le⟩ := le_lastOf kept.of_append.ordered among' busy'
      cases last.symm.trans same
      exact le
    · rw [if_pos ((kept.of_append.due_iff last ⟨time, .rests told⟩).mpr due)] at rests
      exact ⟨rests, due received among (.inl busy)⟩
    · rwa [if_neg ((kept.of_append.due_iff last ⟨time, .rests told⟩).not.mpr early)] at rests

/-- **An idle event is told exactly when it is due.** -/
theorem Kept.tells_iff (kept : Kept interval (before ++ entry :: after)) (idle : entry.busy = false) :
    entry.tells = true ↔ ∀ earlier ∈ before, earlier.Marks → interval ≤ entry.since earlier := by
  obtain ⟨last, -, -, -, due, early⟩ := kept.told idle
  constructor
  · intro tells
    by_contra not
    unfold Entry.tells at tells
    rw [early not] at tells
    cases tells
  · intro all
    exact Entry.tells_of_told (due all).1 (List.cons_ne_nil _ _)

theorem Entry.idle_of_tells (tells : entry.tells = true) : entry.busy = false := by
  obtain ⟨time, occupation⟩ := entry
  cases occupation with
  | opens => cases tells
  | receives => cases tells
  | rests => rfl

/-- How long after an entry another one comes, by way of one in between. -/
theorem Entry.since_add {first middle last : Entry} (early : first.time ≤ middle.time)
    (late : middle.time ≤ last.time) : last.since first = middle.since first + last.since middle := by
  unfold Entry.since Duration.ofMillis
  rw [← Nat.add_mul]
  congr 1
  omega

/-- **What is silent is not due**: the interval has not passed since an entry that is not silent, nor
since one before. -/
theorem Kept.early (kept : Kept interval diary) {first silent : Entry} {idles : List Entry}
    (split : diary = before ++ first :: (idles ++ silent :: after))
    (silents : ∀ entry ∈ idles, entry.Silent) (isSilent : silent.Silent) :
    silent.since first < interval := by
  obtain ⟨idle, tellsNot⟩ := Entry.silent_iff.mp isSilent
  have split' : diary = (before ++ first :: idles) ++ silent :: after := by
    rw [split, List.append_assoc]
    rfl
  subst split'
  have notDue := (kept.tells_iff idle).not.mp (by rw [tellsNot]; exact Bool.false_ne_true)
  push Not at notDue
  obtain ⟨earlier, among, marks, recent⟩ := notDue
  have le : earlier.time ≤ first.time := by
    obtain ⟨-, -, ordered⟩ := List.pairwise_append.mp kept.of_append.ordered
    obtain early | later := List.mem_append.mp among
    · exact ordered earlier early first List.mem_cons_self
    · obtain same | later := List.mem_cons.mp later
      · exact same ▸ Nat.le_refl _
      · obtain ⟨idle', tellsNot'⟩ := Entry.silent_iff.mp (silents earlier later)
        obtain busy | tells := marks
        · exact absurd (idle'.symm.trans busy) Bool.false_ne_true
        · exact absurd (tellsNot'.symm.trans tells) Bool.false_ne_true
  exact Nat.lt_of_le_of_lt (ofMillis_mono (Nat.sub_le_sub_left le _)) recent

/-- So the entry after those that are silent is not late. -/
theorem Kept.soon (kept : Kept interval diary) (positive : 0 < interval) {first last : Entry}
    {idles : List Entry} {longest : Duration}
    (split : diary = before ++ first :: (idles ++ last :: after))
    (silents : ∀ entry ∈ idles, entry.Silent)
    (chain : (first :: (idles ++ [last])).IsChain fun earlier later =>
      later.since earlier ≤ longest) : last.since first < interval + longest := by
  rw [List.isChain_iff_forall_rel_of_append_cons_cons] at chain
  obtain rfl | ⟨idles, silent, rfl⟩ := List.eq_nil_or_concat idles
  · have close : last.since first ≤ longest := chain (List.nil_append _).symm
    exact Nat.lt_of_le_of_lt close (Nat.lt_add_of_pos_left positive)
  · rw [List.concat_eq_append] at split silents chain
    rw [List.append_assoc] at split chain
    have among : silent ∈ idles ++ [silent] := List.mem_append_right _ (List.mem_singleton.mpr rfl)
    have early : silent.since first < interval := kept.early split
      (fun entry among => silents entry (List.mem_append_left _ among)) (silents silent among)
    have close : last.since silent ≤ longest := chain
      (show _ = (first :: idles) ++ silent :: last :: [] from rfl)
    have ordered := kept.ordered
    rw [split] at ordered
    obtain ⟨-, ordered, -⟩ := List.pairwise_append.mp ordered
    obtain ⟨afterFirst, ordered⟩ := List.pairwise_cons.mp ordered
    obtain ⟨-, ordered, -⟩ := List.pairwise_append.mp ordered
    obtain ⟨afterSilent, -⟩ := List.pairwise_cons.mp ordered
    rw [Entry.since_add (afterFirst silent (by simp)) (afterSilent last (by simp))]
    exact Nat.add_lt_add_of_lt_of_le early close

/-- **The idle events of a diary are spaced if each entry fits those before it.** -/
theorem Kept.spaced (kept : Kept interval diary) (positive : 0 < interval) :
    Spaced interval diary where
  ordered := kept.ordered
  opens before entry after split := (kept before entry after split).opens
  tells_iff before entry after split idle := by
    subst split
    exact kept.tells_iff idle
  length before entry after split length among := by
    subst split
    have tells : entry.tells = true :=
      Entry.tells_of_told rfl (List.ne_nil_of_mem among)
    have idle := Entry.idle_of_tells tells
    obtain ⟨last, among', busy, latest, due, -⟩ := kept.told idle
    obtain ⟨told, long⟩ := due ((kept.tells_iff idle).mp tells)
    rw [told, List.mem_singleton] at among
    subst among
    exact ⟨told, long, last, among', busy, rfl, latest⟩
  apart := pairwise_of_splits fun before entry after split earlier among marks tells => by
    subst split
    exact (kept.tells_iff (Entry.idle_of_tells tells)).mp tells earlier among marks
  soon before first idles last after longest split silent chain :=
    kept.soon positive split silent chain

end Diaries

/-! ### The diary of a run -/

/-- What a consumer's diary has to do with: how far it has got, and when it received and told
something. -/
def Consumer.standing (c : Consumer) : Stage × Nat × Option Nat :=
  (c.phase.stage, c.lastDelivery, c.lastIdleEvent)

/-- What the consumer of a scene does: its session begins, or it counts a delivery or an empty receive.
Whoever is over does nothing more. -/
def Scene.occupation? (scene : Scene) : Option Occupation :=
  match scene.before.consumers.get? scene.id, scene.after.consumers.get? scene.id with
  | some c, some c' =>
    if c'.phase = .finished then none
    else if c.phase = .opening then if c'.phase = .opening then none else some .opens
    else if c'.deliveries ≠ c.deliveries then some .receives
    else if c'.idleStreak ≠ c.idleStreak then
      some (.rests (scene.tells.filterMap Event.idleFor?))
    else none
  | _, _ => none

/-- What the consumer of a scene does, and when. -/
def Scene.record? (scene : Scene) : Option Entry :=
  scene.occupation?.map (Entry.mk scene.before.now)

/-- What a consumer does on all occasions, and when. -/
def diaryOf (scenes : List Scene) (id : Nat) : List Entry :=
  (scenes.filter fun scene => scene.id = id).filterMap Scene.record?

theorem diaryOf_append (scenes more : List Scene) (id : Nat) :
    diaryOf (scenes ++ more) id = diaryOf scenes id ++ diaryOf more id := by
  unfold diaryOf
  rw [List.filter_append, List.filterMap_append]

theorem diaryOf_own (scene : Scene) : diaryOf [scene] scene.id = scene.record?.toList := by
  unfold diaryOf
  rw [List.filter_eq_self.mpr (by simp)]
  cases entry : scene.record? with
  | none => exact List.filterMap_cons_none entry
  | some => exact List.filterMap_cons_some entry

theorem diaryOf_other (scene : Scene) {id : Nat} (differ : id ≠ scene.id) :
    diaryOf [scene] id = [] := by
  unfold diaryOf
  rw [List.filter_eq_nil_iff.mpr (by simpa using differ.symm), List.filterMap_nil]

namespace World

variable {w w' : World} {interval : Duration} {id : Nat} {diary : List Entry} {scenes : List Scene}

/-- The hours of a consumer are the last entries of its diary. -/
structure Recorded (interval : Duration) (w : World) (id : Nat) (diary : List Entry) : Prop where
  kept : Kept interval diary
  past : ∀ entry ∈ diary, entry.time ≤ w.now
  unbegun : (∀ c, w.consumers.get? id = some c → c.phase = .opening) → diary = []
  quiet : ∀ c, w.consumers.get? id = some c → c.phase = .opening → c.lastIdleEvent = none
  working : ∀ c, w.consumers.get? id = some c → c.phase.stage = .working →
    lastOf Entry.busy diary = some c.lastDelivery ∧ lastOf Entry.tells diary = c.lastIdleEvent

theorem Tells.scene {told : List Duration} (tells : Tells told w w') :
    (Scene.mk id w w').tells.filterMap Event.idleFor? = told := by
  obtain ⟨words, same, lengths⟩ := tells
  unfold Scene.tells
  dsimp only
  rw [same, List.drop_left, lengths]

/-- Whoever works has not just begun, and is not over. -/
theorem working_phase {c : Consumer} (working : c.phase.stage = .working) :
    c.phase ≠ .opening ∧ c.phase ≠ .finished := by
  constructor
  · intro opening
    rw [opening] at working
    cases working
  · intro finished
    rw [finished] at working
    cases working

/-- The entry of a consumer whose session begins. -/
theorem record?_of_opening {c c' : Consumer} (found : w.consumers.get? id = some c)
    (opening : c.phase = .opening) (found' : w'.consumers.get? id = some c')
    (working' : c'.phase.stage = .working) :
    (Scene.mk id w w').record? = some ⟨w.now, .opens⟩ := by
  unfold Scene.record? Scene.occupation?
  dsimp only
  rw [found, found']
  dsimp only
  rw [if_neg (working_phase working').2, if_pos opening, if_neg (working_phase working').1]
  rfl

/-- The entry of a consumer that goes on. -/
theorem record?_of_working {c c' : Consumer} (found : w.consumers.get? id = some c)
    (found' : w'.consumers.get? id = some c') (working : c.phase.stage = .working)
    (working' : c'.phase.stage = .working) : (Scene.mk id w w').record? =
      (if c'.deliveries ≠ c.deliveries then some .receives
        else if c'.idleStreak ≠ c.idleStreak then
          some (.rests ((Scene.mk id w w').tells.filterMap Event.idleFor?))
        else none).map (Entry.mk w.now) := by
  unfold Scene.record? Scene.occupation?
  dsimp only
  rw [found, found']
  dsimp only
  rw [if_neg (working_phase working').2, if_neg (working_phase working).1]

namespace Recorded

/-- A consumer that has not begun has nothing in its diary. -/
theorem empty (opening : ∀ c, w.consumers.get? id = some c → c.phase = .opening)
    (quiet : ∀ c, w.consumers.get? id = some c → c.lastIdleEvent = none) :
    Recorded interval w id [] where
  kept before _ _ split := by cases before <;> cases split
  past _ := nofun
  unbegun _ := rfl
  quiet c found _ := quiet c found
  working c found working := absurd (opening c found) (working_phase working).1

/-- Whoever is over leaves the diary as it is. -/
theorem ended (recorded : Recorded interval w id diary) (finished : w'.isFinished id = true)
    (now : w'.now = w.now)
    (begun : ∀ c, w.consumers.get? id = some c → c.phase ≠ .opening →
      ∃ c', w'.consumers.get? id = some c' ∧ c'.phase ≠ .opening) :
    Recorded interval w' id diary ∧ (Scene.mk id w w').record? = none := by
  have ended := isFinished_eq_true.mp finished
  refine ⟨⟨recorded.kept, now ▸ recorded.past, fun opening => recorded.unbegun fun c found => ?_,
    fun c' found' opening => ?_, fun c' found' working => ?_⟩, ?_⟩
  · by_contra busy
    obtain ⟨c', found', busy'⟩ := begun c found busy
    exact busy' (opening c' found')
  · cases (ended c' found').symm.trans opening
  · exact absurd (ended c' found') (working_phase working).2
  · unfold Scene.record? Scene.occupation?
    dsimp only
    split
    next c c' _ found' => rw [if_pos (ended c' found')]; rfl
    next => rfl

/-- Nothing that matters to the diary is written about the consumer, and time goes on. -/
theorem of_same (recorded : Recorded interval w id diary) (later : w.now ≤ w'.now)
    (same : (w'.consumers.get? id).map Consumer.standing =
      (w.consumers.get? id).map Consumer.standing) : Recorded interval w' id diary := by
  have before : ∀ c', w'.consumers.get? id = some c' →
      ∃ c, w.consumers.get? id = some c ∧ c.standing = c'.standing := fun c' found' =>
    Option.map_eq_some_iff.mp (same.symm.trans (congrArg _ found'))
  refine ⟨recorded.kept, fun entry among => Nat.le_trans (recorded.past entry among) later,
    fun opening => recorded.unbegun fun c found => ?_, fun c' found' opening => ?_,
    fun c' found' working => ?_⟩
  · obtain ⟨c', found', alike⟩ := Option.map_eq_some_iff.mp (same.trans (congrArg _ found))
    have stage : c'.phase.stage = c.phase.stage := congrArg Prod.fst alike
    exact Phase.stage_eq_opening.mp
      (stage.symm.trans (Phase.stage_eq_opening.mpr (opening c' found')))
  · obtain ⟨c, found, alike⟩ := before c' found'
    have stage : c.phase.stage = c'.phase.stage := congrArg Prod.fst alike
    have idle : c.lastIdleEvent = c'.lastIdleEvent := congrArg (·.2.2) alike
    rw [← idle]
    exact recorded.quiet c found
      (Phase.stage_eq_opening.mp (stage.trans (Phase.stage_eq_opening.mpr opening)))
  · obtain ⟨c, found, alike⟩ := before c' found'
    have stage : c.phase.stage = c'.phase.stage := congrArg Prod.fst alike
    have delivery : c.lastDelivery = c'.lastDelivery := congrArg (·.2.1) alike
    have idle : c.lastIdleEvent = c'.lastIdleEvent := congrArg (·.2.2) alike
    rw [← delivery, ← idle]
    exact recorded.working c found (stage.trans working)

/-- A consumer that works adds an entry. -/
theorem add (recorded : Recorded interval w id diary) {c' : Consumer} {occupation : Occupation}
    (now : w'.now = w.now) (found' : w'.consumers.get? id = some c')
    (working' : c'.phase.stage = .working) (opens : occupation = .opens ↔ diary = [])
    (rests : ∀ told, occupation = .rests told → ∃ delivery,
      lastOf Entry.busy diary = some delivery ∧
        told = if interval ≤ Duration.ofMillis
            (w.now - max delivery ((lastOf Entry.tells diary).getD 0)) then
          [Duration.ofMillis (w.now - delivery)] else [])
    (delivery : lastOf Entry.busy (diary ++ [⟨w.now, occupation⟩]) = some c'.lastDelivery)
    (idle : lastOf Entry.tells (diary ++ [⟨w.now, occupation⟩]) = c'.lastIdleEvent) :
    Recorded interval w' id (diary ++ [⟨w.now, occupation⟩]) where
  kept := recorded.kept.concat ⟨recorded.past, opens, rests⟩
  past entry among := by
    rw [now]
    obtain before | last := List.mem_append.mp among
    · exact recorded.past entry before
    · rw [List.mem_singleton.mp last]
  unbegun opening := absurd (opening c' found') (working_phase working').1
  quiet c found opening := by
    cases found'.symm.trans found
    exact absurd opening (working_phase working').1
  working c found _ := by
    cases found'.symm.trans found
    exact ⟨delivery, idle⟩

/-- Whoever works has begun its diary. -/
theorem begun (recorded : Recorded interval w id diary) {c : Consumer}
    (found : w.consumers.get? id = some c) (working : c.phase.stage = .working) : diary ≠ [] := by
  rintro rfl
  cases (recorded.working c found working).1

section Turns

variable {c c' : Consumer} (recorded : Recorded interval w id diary)
  (now : w'.now = w.now) (found : w.consumers.get? id = some c)
  (found' : w'.consumers.get? id = some c') (working' : c'.phase.stage = .working)
include recorded now found found' working'

/-- The diary begins with the session. -/
theorem opened (opening : c.phase = .opening)
    (hours : c'.hours = { c.hours with lastDelivery := w.now }) :
    Recorded interval w' id (diary ++ [⟨w.now, .opens⟩]) := by
  have empty : diary = [] := recorded.unbegun fun c₀ found₀ => by
    cases found.symm.trans found₀
    exact opening
  refine recorded.add now found' working' ⟨fun _ => empty, fun _ => rfl⟩ (fun _ => nofun) ?_ ?_
  · rw [lastOf_concat]
    exact congrArg some (congrArg Hours.lastDelivery hours).symm
  · rw [lastOf_concat, empty]
    exact (recorded.quiet c found opening).symm.trans (congrArg Hours.lastIdleEvent hours).symm

variable (working : c.phase.stage = .working)
include working

/-- A consumer neither receives a delivery nor finds that there is none. -/
theorem worked (hours : c'.hours = c.hours) : Recorded interval w' id diary := by
  refine recorded.of_same (Nat.le_of_eq now.symm) ?_
  rw [found, found', Option.map_some, Option.map_some]
  exact congrArg some (Prod.ext (working'.trans working.symm)
    (Prod.ext (congrArg Hours.lastDelivery hours) (congrArg Hours.lastIdleEvent hours)))

/-- A consumer receives a delivery. -/
theorem received (hours : c'.hours = c.hours.receive w.now) :
    Recorded interval w' id (diary ++ [⟨w.now, .receives⟩]) := by
  obtain ⟨-, lastIdle⟩ := recorded.working c found working
  have begun := recorded.begun found working
  refine recorded.add now found' working' ⟨nofun, fun empty => absurd empty begun⟩
    (fun _ => nofun) ?_ ?_
  · rw [lastOf_concat]
    exact congrArg some (congrArg Hours.lastDelivery hours).symm
  · rw [lastOf_concat]
    exact lastIdle.trans (congrArg Hours.lastIdleEvent hours).symm

/-- A consumer receives nothing, and tells of it if that is due. -/
theorem rested (hours : c'.hours = c.hours.rest interval w.now) :
    Recorded interval w' id (diary ++ [⟨w.now, .rests (c.hours.tells interval w.now)⟩]) := by
  obtain ⟨lastDelivery, lastIdle⟩ := recorded.working c found working
  have begun := recorded.begun found working
  refine recorded.add now found' working' ⟨nofun, fun empty => absurd empty begun⟩ ?_ ?_ ?_
  · rintro _ ⟨⟩
    refine ⟨c.lastDelivery, lastDelivery, ?_⟩
    rw [lastIdle]
    rfl
  · rw [lastOf_concat]
    exact lastDelivery.trans (congrArg some (congrArg Hours.lastDelivery hours).symm)
  · have idle : c'.lastIdleEvent =
        if c.hours.Due interval w.now then some w.now else c.lastIdleEvent :=
      congrArg Hours.lastIdleEvent hours
    rw [lastOf_concat, lastIdle, idle]
    unfold Hours.tells
    by_cases due : c.hours.Due interval w.now
    · rw [if_pos due, if_pos due]
      rfl
    · rw [if_neg due, if_neg due]
      rfl

end Turns

/-- **A turn of a consumer adds to its diary what it does**, and that fits what was there. -/
theorem passed (recorded : Recorded interval w id diary) (passed : Passed interval id w w')
    (now : w'.now = w.now)
    (begun : ∀ c, w.consumers.get? id = some c → c.phase ≠ .opening →
      ∃ c', w'.consumers.get? id = some c' ∧ c'.phase ≠ .opening) :
    Recorded interval w' id (diary ++ (Scene.mk id w w').record?.toList) ∧
      (Scene.mk id w w').tells.filterMap Event.idleFor? =
        (Scene.mk id w w').record?.toList.flatMap Entry.told := by
  cases passed with
  | ended finished tells =>
    obtain ⟨recorded, none⟩ := recorded.ended finished now begun
    rw [none, tells.scene]
    refine ⟨?_, rfl⟩
    rwa [Option.toList_none, List.append_nil]
  | @begun c c' found opening found' working hours tells =>
    rw [record?_of_opening found opening found' working, tells.scene]
    exact ⟨recorded.opened now found found' working opening hours, rfl⟩
  | @goesOn c c' told found working found' working' spent tells =>
    have entry := record?_of_working found found' working working'
    rw [tells.scene] at entry ⊢
    rw [entry]
    generalize same : c'.hours = hours at spent
    cases spent with
    | working =>
      have deliveries : c'.deliveries = c.deliveries := congrArg Hours.deliveries same
      have streak : c'.idleStreak = c.idleStreak := congrArg Hours.idleStreak same
      rw [if_neg (not_not_intro deliveries), if_neg (not_not_intro streak)]
      refine ⟨?_, rfl⟩
      rw [Option.map_none, Option.toList_none, List.append_nil]
      exact recorded.worked now found found' working' working same
    | receiving =>
      have deliveries : c'.deliveries = c.deliveries + 1 := congrArg Hours.deliveries same
      rw [deliveries, if_pos (Nat.succ_ne_self _)]
      exact ⟨recorded.received now found found' working' working same, rfl⟩
    | resting =>
      have deliveries : c'.deliveries = c.deliveries := congrArg Hours.deliveries same
      have streak : c'.idleStreak = c.idleStreak + 1 := congrArg Hours.idleStreak same
      have grows : c.idleStreak + 1 ≠ c.idleStreak := by simp
      rw [if_neg (not_not_intro deliveries), streak, if_pos grows]
      exact ⟨recorded.rested now found found' working' working same, (List.append_nil _).symm⟩

end Recorded

/-! ### Runs -/

/-- What is known of a consumer after a run: its hours are those of its diary, and its idle events are
those of its diary. -/
structure Diaried (interval : Duration) (w : World) (scenes : List Scene) (id : Nat) : Prop where
  recorded : Recorded interval w id (diaryOf scenes id)
  told : (lifeOf scenes id).filterMap Event.idleFor? = (diaryOf scenes id).flatMap Entry.told

theorem new_diaried (interval : Duration) (plan : Plan) (id : Nat) :
    Diaried interval (World.new plan {}) [] id where
  recorded := .empty (fun _ => nofun) fun _ => nofun
  told := rfl

/-- Whoever is ended by force is over, and says nothing of its idleness. -/
theorem forceClose_passed (w : World) (id : Nat) (sink : w.plan.hasSink = true) :
    Passed interval id w (w.forceClose id) := by
  have got := w.forceClose_get? id id
  rw [if_pos rfl] at got
  refine .ended (isFinished_eq_true.mpr fun c' found' => ?_) ?_
  · obtain ⟨c, -, rfl⟩ := Option.map_eq_some_iff.mp (got.symm.trans found')
    rfl
  · cases found : w.consumers.get? id with
    | none =>
      refine .of_same ?_
      unfold forceClose releaseChannel
      dsimp only
      rw [found]
      dsimp only [Option.bind_none]
      rw [found]
    | some c =>
      by_cases terminated : c.state = .terminated
      · exact .of_same (forceClose_silent found terminated).2
      · exact ⟨_, (forceClose_departs found terminated).told sink, rfl⟩

namespace Diaried

/-- A scene of the consumer. -/
theorem own (diaried : Diaried interval w scenes id) (passed : Passed interval id w w')
    (now : w'.now = w.now)
    (begun : ∀ c, w.consumers.get? id = some c → c.phase ≠ .opening →
      ∃ c', w'.consumers.get? id = some c' ∧ c'.phase ≠ .opening) :
    Diaried interval w' (scenes ++ [⟨id, w, w'⟩]) id := by
  obtain ⟨recorded, told⟩ := diaried.recorded.passed passed now begun
  constructor
  · rwa [diaryOf_append, diaryOf_own ⟨id, w, w'⟩]
  · rw [lifeOf_append, lifeOf_own ⟨id, w, w'⟩, diaryOf_append, diaryOf_own ⟨id, w, w'⟩,
      List.filterMap_append, List.flatMap_append, diaried.told, told]

/-- A scene of another consumer. -/
theorem other (diaried : Diaried interval w scenes id) {other : Nat} (differ : id ≠ other)
    (same : w'.consumers.get? id = w.consumers.get? id) (now : w'.now = w.now) :
    Diaried interval w' (scenes ++ [⟨other, w, w'⟩]) id := by
  have diary := diaryOf_other ⟨other, w, w'⟩ differ
  have life := lifeOf_other ⟨other, w, w'⟩ differ
  constructor
  · rw [diaryOf_append, diary, List.append_nil]
    exact diaried.recorded.of_same (Nat.le_of_eq now.symm) (by rw [same])
  · rw [lifeOf_append, life, diaryOf_append, diary, List.append_nil, List.append_nil]
    exact diaried.told

/-- Whatever happens besides is no matter of the diary. -/
theorem presides {starts : Bool} (diaried : Diaried interval w scenes id)
    (presides : Presides starts w w') (later : w.now ≤ w'.now)
    (fresh : starts = true → w.Unopened ∧ Lasts w w') : Diaried interval w' scenes id := by
  refine ⟨?_, diaried.told⟩
  obtain ⟨none, none'⟩ | ⟨c, stop, found, found'⟩ | ⟨c, found, opening, -, -, quiet, before⟩ :=
    presides.succeeds fresh id
  · exact diaried.recorded.of_same later (by rw [none, none'])
  · exact diaried.recorded.of_same later (by rw [found, found']; rfl)
  · rw [diaried.recorded.unbegun fun c₀ found₀ => (before c₀ found₀).1]
    refine .empty (fun c' found' => ?_) fun c' found' => ?_
    · cases found.symm.trans found'
      exact opening
    · cases found.symm.trans found'
      exact quiet

/-- One consumer is ended by force. -/
theorem force (diaried : Diaried interval w scenes id) (sink : w.plan.hasSink = true) {first : Nat}
    (closable : w.Closable first) :
    Diaried interval (w.forceClose first) (scenes ++ [⟨first, w, w.forceClose first⟩]) id := by
  obtain ⟨words, speaks⟩ := forceClose_speaks closable sink
  have effects : Effects (.errand 0) w (w.forceClose first) := forceClose_effects closable
  by_cases here : id = first
  · subst here
    refine diaried.own (forceClose_passed w id sink) effects.quiet.now fun c found _ => ?_
    refine ⟨{ c with channel := none, state := .terminated, phase := .finished }, ?_, nofun⟩
    rw [forceClose_get?, if_pos rfl, found]
    rfl
  · exact diaried.other here (speaks.others id here) effects.quiet.now

/-- **A consumer has its turn.** -/
theorem turn (diaried : Diaried interval w scenes id) (sound : w.Sound)
    (sink : w.plan.hasSink = true) (setting : w.plan.settings.idleEvent = some interval)
    (other : Nat) : Diaried interval (w.take (.consumer other))
      (scenes ++ [⟨other, w, w.take (.consumer other)⟩]) id := by
  have lasts : Lasts w (w.take (.consumer other)) := sound.follow_lasts (.turn (.consumer other))
  have now : (w.take (.consumer other)).now = w.now := take_now sound.records sound.unopened _
  by_cases here : id = other
  · subst here
    exact diaried.own (take_consumer_passed sound sink setting id) now (lasts.begun id)
  · obtain ⟨words, speaks⟩ := take_consumer_speaks sound sink other
    exact diaried.other here (speaks.others id here) now

end Diaried

/-- **The diary of a consumer goes along with the scenes of a run.** -/
theorem accompanies_diaried {plan : Plan} (sink : plan.hasSink = true)
    (setting : plan.settings.idleEvent = some interval) (id : Nat) :
    Accompanies plan fun w scenes => Diaried interval w scenes id where
  given _ diaried := ⟨diaried.recorded.of_same (Nat.le_refl _) rfl, diaried.told⟩
  turn sound same other diaried := diaried.turn sound (same ▸ sink) (same ▸ setting) other
  force closable same diaried := diaried.force (same ▸ sink) closable
  besides _ presides later fresh diaried := diaried.presides presides later fresh

/-- **Idle events are spaced by the interval.** Of every consumer of every run: its idle events are those
of its diary, and these are spaced. -/
theorem run_spaces_idle_events (plan : Plan) (sink : plan.hasSink = true) {interval : Duration}
    (setting : plan.settings.idleEvent = some interval) (positive : 0 < interval)
    (moves : List Move) (id : Nat) :
    (lifeOf ((World.new plan {}).scenesOf moves) id).filterMap Event.idleFor? =
        (diaryOf ((World.new plan {}).scenesOf moves) id).flatMap Entry.told ∧
      Spaced interval (diaryOf ((World.new plan {}).scenesOf moves) id) := by
  have diaried := (accompanies_diaried sink setting id).followAll (new_sound plan {}) rfl
    (new_diaried interval plan id) moves
  rw [List.nil_append] at diaried
  exact ⟨diaried.told, diaried.recorded.kept.spaced positive⟩

/-- A container with one queue whose consumer tells that it is idle. -/
def quietQueue : Plan :=
  { settings := {
      queues := ["orders"]
      receiveTimeout := Duration.ofMillis 60
      idleEvent := some (Duration.ofMillis 100)
      monitorInterval := Duration.ofMillis 100000 } }

/-- The consumer waits, and receives nothing until then. -/
def emptyReceive (now : Nat) : List Move :=
  [.turn (.consumer 1), .pass now, .turn (.consumer 1)]

/-- The consumer receives nothing, until it receives one delivery, and nothing again. -/
def oneDelivery : List Move :=
  [.administer (.declare "orders"), .start, .turn (.consumer 1)] ++ emptyReceive 60 ++
    emptyReceive 120 ++ emptyReceive 180 ++
    [.administer (.publish "orders" "good".toUTF8 {}), .turn (.feed 1), .turn (.consumer 1),
      .turn (.consumer 1)] ++ emptyReceive 240 ++ emptyReceive 300

/-- It tells that it is idle once before the delivery, and once after it. -/
theorem run_spaces_idle_events_oneDelivery :
    let scenes := (World.new quietQueue {}).scenesOf oneDelivery
    quietQueue.hasSink = true ∧
      quietQueue.settings.idleEvent = some (Duration.ofMillis 100) ∧ 0 < Duration.ofMillis 100 ∧
      diaryOf scenes 1 = [⟨0, .opens⟩, ⟨60, .rests []⟩, ⟨120, .rests [Duration.ofMillis 120]⟩,
        ⟨180, .rests []⟩, ⟨180, .receives⟩, ⟨240, .rests []⟩,
        ⟨300, .rests [Duration.ofMillis 120]⟩] ∧
      (lifeOf scenes 1).filterMap Event.idleFor? = (diaryOf scenes 1).flatMap Entry.told ∧
      Spaced (Duration.ofMillis 100) (diaryOf scenes 1) :=
  ⟨rfl, rfl, by decide, by decide +kernel,
    run_spaces_idle_events quietQueue rfl rfl (by decide) oneDelivery 1⟩

end World

end QueueListener
