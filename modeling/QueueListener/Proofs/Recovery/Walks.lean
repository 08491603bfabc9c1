import QueueListener.Proofs.Recovery.BackOff
/-!
# Walks along a policy

**The i-th call of a walk gives the delay before the i-th attempt, as long as its counter lasts.**
The counter has 32 bits. A policy with a limit below the largest count stops before the counter is
full, and the walk stays as it is from then on. A policy without such a limit hands out a delay at
every call; the call that finds the counter full lets the count begin again at zero.

* `BackOff.Walk.run` — so many calls, one after the other;
* `BackOff.Follows` — a walk that gives the delays of its policy and counts them;
* `BackOff.handed`, `BackOff.asked` — how many delays were handed out, and which one is next;
* `BackOff.exists_answers` — every call returns;
* `BackOff.begins_again` — the end of the counter;
* `BackOff.run_follows_iff` — how long a walk follows its policy.
-/

namespace QueueListener.BackOff

/-- Makes so many calls: the answers in their order, and the walk after them. -/
def Walk.run (walk : Walk) : Nat → Except TimeFault (List (Option Duration) × Walk)
  | 0 => .ok ([], walk)
  | calls + 1 => do
    let (answers, walk) ← walk.run calls
    let (answer, walk) ← walk.next
    return (answers ++ [answer], walk)

/-- Whether an attempt lies within the limit of the policy, if it has one. -/
def Within (policy : BackOff) (attempt : Nat) : Prop :=
  0 < attempt ∧ ∀ most, policy.limit = some most → attempt ≤ most

/-- Whether the policy has a limit that the counter can pass. -/
def Ends (policy : BackOff) : Prop := ∃ most, policy.limit = some most ∧ most < UInt32.size - 1

/-- **A walk that follows its policy** for so many calls, given the answers and the walk after
them. -/
structure Follows (policy : BackOff) (calls : Nat) (answers : List (Option Duration))
    (walk : Walk) : Prop where
  ran : policy.start.run calls = .ok (answers, walk)
  /-- The answers are the delays before attempt 1, 2, 3 and so on. -/
  answered : answers.map Except.ok = (List.range calls).map fun i => policy.delay? (i + 1)
  /-- Exactly the attempts within the limit have one. -/
  within : ∀ i answer, answers[i]? = some answer → (answer.isSome = true ↔ policy.Within (i + 1))
  /-- The count is the number of delays that were handed out. -/
  counted : walk.attempts.toNat = answers.countP Option.isSome
  /-- From the limit on there is no delay, and the walk stays as it is. -/
  exhausted : ∀ most, policy.limit = some most → most ≤ calls → ∃ before,
    policy.start.run most = .ok (before, walk) ∧
      answers = before ++ List.replicate (calls - most) none
  /-- Without a limit there is always a delay, and every call is counted. -/
  endless : policy.limit = none → none ∉ answers ∧ walk.attempts.toNat = calls
  /-- The count never falls. -/
  rises : ∀ earlier before walk', earlier ≤ calls →
    policy.start.run earlier = .ok (before, walk') → walk'.attempts ≤ walk.attempts

/-- The delays that so many calls hand out. -/
def handed (policy : BackOff) (calls : Nat) : Nat :=
  match policy.limit with
  | some most => if most < UInt32.size - 1 then min calls most else calls
  | none => calls

/-- The number of the attempt whose delay is asked for after so many calls. -/
def asked (policy : BackOff) (calls : Nat) : Nat :=
  min (policy.handed calls % UInt32.size + 1) (UInt32.size - 1)

/-- The walk after so many calls. -/
def walkAt (policy : BackOff) (calls : Nat) : Walk := ⟨policy, UInt32.ofNat (policy.handed calls)⟩

/-- What so many calls answer: each asks for the attempt after those that were counted. -/
structure Answers (policy : BackOff) (calls : Nat) (answers : List (Option Duration)) : Prop where
  ran : policy.start.run calls = .ok (answers, policy.walkAt calls)
  delays : answers.map Except.ok = (List.range calls).map fun i => policy.delay? (policy.asked i)
  given : answers.map Option.isSome = (List.range calls).map fun i => policy.allows (policy.asked i)
  counted : answers.countP Option.isSome = policy.handed calls

variable {policy : BackOff} {calls most : Nat} {answers : List (Option Duration)}

/-! ### The count -/

theorem size_eq : UInt32.size = 4294967296 := rfl

theorem allows_iff {attempt : Nat} : policy.allows attempt = true ↔ policy.Within attempt := by
  unfold allows Within
  cases policy.limit with
  | none => simp [Nat.pos_iff_ne_zero]
  | some most => simp [Nat.pos_iff_ne_zero]

theorem handed_of_limit (limited : policy.limit = some most)
    (small : most < UInt32.size - 1) (calls : Nat) : policy.handed calls = min calls most := by
  simp only [handed, limited, if_pos small]

theorem handed_of_not_ends (endless : ¬ policy.Ends) (calls : Nat) :
    policy.handed calls = calls := by
  unfold handed
  cases limited : policy.limit with
  | none => rfl
  | some most => exact if_neg fun small => endless ⟨most, limited, small⟩

theorem handed_mono (policy : BackOff) {earlier calls : Nat} (before : earlier ≤ calls) :
    policy.handed earlier ≤ policy.handed calls := by
  by_cases ends : policy.Ends
  · obtain ⟨most, limited, small⟩ := ends
    rw [handed_of_limit limited small, handed_of_limit limited small]
    omega
  · rw [handed_of_not_ends ends, handed_of_not_ends ends]
    exact before

/-- **The counter lasts** for a number of calls that it can show, and with a limit that it can
pass. -/
theorem handed_lt_iff :
    policy.handed calls < UInt32.size ↔ calls < UInt32.size ∨ policy.Ends := by
  by_cases ends : policy.Ends
  · refine iff_of_true ?_ (.inr ends)
    obtain ⟨most, limited, small⟩ := ends
    rw [handed_of_limit limited small]
    omega
  · rw [handed_of_not_ends ends, or_iff_left ends]

/-- Without a limit that the counter can pass, the attempt asked for is always allowed. -/
theorem allows_asked_of_not_ends (endless : ¬ policy.Ends) (calls : Nat) :
    policy.allows (policy.asked calls) = true := by
  refine allows_iff.mpr ⟨?_, fun most limited => ?_⟩
  · rw [asked, size_eq]
    omega
  · have large : ¬ most < UInt32.size - 1 := fun small => endless ⟨most, limited, small⟩
    rw [asked]
    omega

/-- With such a limit, the attempt asked for is allowed until the limit is reached. -/
theorem allows_asked_of_limit (limited : policy.limit = some most)
    (small : most < UInt32.size - 1) (calls : Nat) :
    policy.allows (policy.asked calls) = true ↔ calls < most := by
  rw [allows_iff, Within, limited, asked, handed_of_limit limited small]
  rw [size_eq] at small ⊢
  constructor
  · rintro ⟨-, within⟩
    have := within most rfl
    omega
  · intro more
    refine ⟨by omega, fun most' same => ?_⟩
    cases same
    omega

theorem handed_succ (policy : BackOff) (calls : Nat) : policy.handed (calls + 1) =
    policy.handed calls + if policy.allows (policy.asked calls) then 1 else 0 := by
  by_cases ends : policy.Ends
  · obtain ⟨most, limited, small⟩ := ends
    have allowed := allows_asked_of_limit limited small calls
    rw [handed_of_limit limited small, handed_of_limit limited small]
    by_cases more : calls < most
    · rw [if_pos (allowed.mpr more)]
      omega
    · rw [if_neg (fun allows => more (allowed.mp allows))]
      omega
  · rw [if_pos (allows_asked_of_not_ends ends calls), handed_of_not_ends ends,
      handed_of_not_ends ends]

/-- While the counter lasts, the attempt asked for has the delay of the next one. -/
theorem delay?_asked (lasts : calls + 1 < UInt32.size ∨ policy.Ends) :
    policy.delay? (policy.asked calls) = policy.delay? (calls + 1) := by
  by_cases ends : policy.Ends
  · obtain ⟨most, limited, small⟩ := ends
    have allowed := allows_asked_of_limit limited small calls
    by_cases more : calls < most
    · have next : policy.asked calls = calls + 1 := by
        rw [asked, handed_of_limit limited small]
        rw [size_eq] at small ⊢
        omega
      rw [next]
    · have late : policy.allows (calls + 1) = false := by
        rw [Bool.eq_false_iff]
        intro allows
        exact absurd ((allows_iff.mp allows).2 most limited) (by omega)
      rw [delay?_of_not_allows late, delay?_of_not_allows (Bool.eq_false_iff.mpr fun allows =>
        more (allowed.mp allows))]
  · have next : policy.asked calls = calls + 1 := by
      have short := lasts.resolve_right ends
      rw [asked, handed_of_not_ends ends]
      rw [size_eq] at short ⊢
      omega
    rw [next]

/-! ### Every walk -/

theorem walkAt_attempts (policy : BackOff) (calls : Nat) :
    (policy.walkAt calls).attempts.toNat = policy.handed calls % UInt32.size :=
  UInt32.toNat_ofNat'

theorem walkAt_upcoming (policy : BackOff) (calls : Nat) :
    (policy.walkAt calls).upcoming = policy.asked calls := by
  rw [Walk.upcoming, walkAt_attempts, asked]

/-- A call that hands out a delay is counted, and no other. -/
theorem walkAt_succ (policy : BackOff) (calls : Nat) : policy.walkAt (calls + 1) =
    if policy.allows (policy.asked calls) then
      { policy.walkAt calls with attempts := (policy.walkAt calls).attempts + 1 }
    else policy.walkAt calls := by
  unfold walkAt
  rw [handed_succ]
  split
  next => rw [UInt32.ofNat_add]; rfl
  next => rfl

/-- **One call of a usable policy**: it answers with the delay of the attempt asked for. -/
theorem next_walkAt (usable : policy.fault? = none) (calls : Nat) :
    ∃ answer, policy.delay? (policy.asked calls) = .ok answer ∧
      answer.isSome = policy.allows (policy.asked calls) ∧
      (policy.walkAt calls).next = .ok (answer, policy.walkAt (calls + 1)) := by
  have upcoming := policy.walkAt_upcoming calls
  have along : (policy.walkAt calls).policy = policy := rfl
  cases allowed : policy.allows (policy.asked calls) with
  | true =>
    obtain ⟨delay, delayed⟩ := delay?_of_allows usable allowed
    refine ⟨some delay, delayed, rfl, ?_⟩
    rw [Walk.next, along, upcoming, delayed, walkAt_succ, if_pos allowed]
    rfl
  | false =>
    have late := delay?_of_not_allows allowed
    refine ⟨none, late, rfl, ?_⟩
    rw [Walk.next, along, upcoming, late, walkAt_succ, allowed]
    rfl

/-- **Every call of a walk along a usable policy returns**, with the delay of the attempt that it
asks for. -/
theorem exists_answers (usable : policy.fault? = none) (calls : Nat) :
    ∃ answers, policy.Answers calls answers := by
  induction calls with
  | zero =>
    have nothing : policy.handed 0 = 0 := by
      unfold handed
      split
      next => split <;> simp
      next => rfl
    refine ⟨[], ?_, rfl, rfl, nothing.symm⟩
    rw [walkAt, nothing]
    rfl
  | succ calls ih =>
    obtain ⟨answers, soFar⟩ := ih
    obtain ⟨answer, delayed, allowed, next⟩ := next_walkAt usable calls
    refine ⟨answers ++ [answer], ?_, ?_, ?_, ?_⟩
    · rw [Walk.run, soFar.ran]
      simp only [Except.bind, bind, next]
      rfl
    · rw [List.range_succ, List.map_append, List.map_append, soFar.delays, List.map_singleton,
        List.map_singleton, delayed]
    · rw [List.range_succ, List.map_append, List.map_append, soFar.given, List.map_singleton,
        List.map_singleton, allowed]
    · rw [List.countP_append, soFar.counted, List.countP_singleton, allowed, handed_succ]

/-- A walk has one course only. -/
theorem Answers.unique (answered : policy.Answers calls answers) {others : List (Option Duration)}
    {walk : Walk} (ran : policy.start.run calls = .ok (others, walk)) :
    others = answers ∧ walk = policy.walkAt calls := by
  rw [answered.ran] at ran
  cases ran
  exact ⟨rfl, rfl⟩

/-- Without a limit that the counter can pass, every call hands out a delay. -/
theorem Answers.all_given (answered : policy.Answers calls answers) (endless : ¬ policy.Ends) :
    none ∉ answers := by
  intro silent
  have refused : false ∈ answers.map Option.isSome := List.mem_map.mpr ⟨none, silent, rfl⟩
  rw [answered.given] at refused
  obtain ⟨i, -, late⟩ := List.mem_map.mp refused
  rw [allows_asked_of_not_ends endless] at late
  cases late

/-! ### The limit -/

/-- Exactly the attempts within the limit of a usable policy have a delay. -/
theorem isSome_iff_within (usable : policy.fault? = none) {attempt : Nat}
    {answer : Option Duration} (delayed : policy.delay? attempt = .ok answer) :
    answer.isSome = true ↔ policy.Within attempt := by
  rw [← allows_iff]
  cases allowed : policy.allows attempt with
  | true =>
    obtain ⟨delay, found⟩ := delay?_of_allows usable allowed
    rw [found] at delayed
    cases delayed
    simp
  | false =>
    rw [delay?_of_not_allows allowed] at delayed
    cases delayed
    simp

/-- At its limit a walk is exhausted. -/
theorem next_of_exhausted (usable : policy.fault? = none) (limited : policy.limit = some most)
    (small : most < UInt32.size - 1) :
    (policy.walkAt most).next = .ok (none, policy.walkAt most) := by
  obtain ⟨answer, -, allowed, next⟩ := next_walkAt usable most
  have late : policy.allows (policy.asked most) = false := by
    rw [Bool.eq_false_iff]
    intro allows
    exact Nat.lt_irrefl most ((allows_asked_of_limit limited small most).mp allows)
  rw [late, Option.isSome_eq_false_iff, Option.isNone_iff_eq_none] at allowed
  rw [walkAt_succ, late, allowed] at next
  exact next

/-- Calls that find a walk exhausted leave it as it is. -/
theorem run_add {walk rest : Walk} {before : List (Option Duration)}
    (ran : walk.run calls = .ok (before, rest)) (exhausted : rest.next = .ok (none, rest))
    (more : Nat) : walk.run (calls + more) = .ok (before ++ List.replicate more none, rest) := by
  induction more with
  | zero =>
    rw [List.replicate_zero, List.append_nil]
    exact ran
  | succ more ih =>
    rw [← Nat.add_assoc, Walk.run, ih]
    simp only [Except.bind, bind, exhausted]
    rw [List.replicate_succ', ← List.append_assoc]
    rfl

/-! ### The walks that follow their policy -/

/-- As long as the counter lasts, the answers are the delays before attempt 1, 2, 3 and so on. -/
theorem Answers.in_order (answered : policy.Answers calls answers)
    (lasts : calls < UInt32.size ∨ policy.Ends) :
    answers.map Except.ok = (List.range calls).map fun i => policy.delay? (i + 1) := by
  rw [answered.delays]
  refine List.map_congr_left fun i early => delay?_asked ?_
  have early := List.mem_range.mp early
  exact lasts.imp_left (by omega)

/-- The limit is reached: what comes after it changes nothing. -/
theorem Answers.exhausted (answered : policy.Answers calls answers) (usable : policy.fault? = none)
    (lasts : calls < UInt32.size ∨ policy.Ends) (limited : policy.limit = some most)
    (reached : most ≤ calls) : ∃ before,
      policy.start.run most = .ok (before, policy.walkAt calls) ∧
        answers = before ++ List.replicate (calls - most) none := by
  by_cases small : most < UInt32.size - 1
  · obtain ⟨before, begun⟩ := exists_answers usable most
    have rest := run_add begun.ran (next_of_exhausted usable limited small) (calls - most)
    rw [Nat.add_sub_cancel' reached] at rest
    obtain ⟨same, stays⟩ := answered.unique rest
    exact ⟨before, stays ▸ begun.ran, same.symm⟩
  · -- The counter cannot pass the limit, so this is the last call that it can show.
    have last : most = calls := by
      have short := lasts.resolve_right fun ⟨most', limited', small'⟩ => by
        rw [limited] at limited'
        cases limited'
        exact small small'
      omega
    subst last
    refine ⟨answers, answered.ran, ?_⟩
    rw [Nat.sub_self, List.replicate_zero, List.append_nil]

/-- **As long as the counter lasts, a walk follows its policy.** -/
theorem Answers.follows (answered : policy.Answers calls answers) (usable : policy.fault? = none)
    (lasts : calls < UInt32.size ∨ policy.Ends) :
    policy.Follows calls answers (policy.walkAt calls) := by
  have fits : policy.handed calls % UInt32.size = policy.handed calls :=
    Nat.mod_eq_of_lt (handed_lt_iff.mpr lasts)
  have delays := answered.in_order lasts
  refine ⟨answered.ran, delays, ?_, ?_, ?_, ?_, ?_⟩
  · intro i answer found
    have early : i < calls := by
      have bound := (List.getElem?_eq_some_iff.mp found).1
      have size := congrArg List.length delays
      simp only [List.length_map, List.length_range] at size
      omega
    have delayed := congrArg (·[i]?) delays
    simp only [List.getElem?_map, found, List.getElem?_range early, Option.map_some,
      Option.some.injEq] at delayed
    exact isSome_iff_within usable delayed.symm
  · rw [walkAt_attempts, fits, answered.counted]
  · intro most limited reached
    exact answered.exhausted usable lasts limited reached
  · intro unlimited
    have endless : ¬ policy.Ends := by
      rintro ⟨most, limited, -⟩
      rw [unlimited] at limited
      cases limited
    refine ⟨answered.all_given endless, ?_⟩
    rw [walkAt_attempts, fits, handed_of_not_ends endless]
  · intro earlier before walk' early begun
    obtain ⟨before', begun'⟩ := exists_answers usable earlier
    obtain ⟨-, rfl⟩ := begun'.unique begun
    rw [UInt32.le_iff_toNat_le, walkAt_attempts, walkAt_attempts, fits]
    exact Nat.le_trans (Nat.mod_le _ _) (handed_mono policy early)

/-- Once the counter has begun again, it does not show how many delays were handed out. -/
theorem Answers.not_follows (answered : policy.Answers calls answers)
    (late : ¬ (calls < UInt32.size ∨ policy.Ends)) {others : List (Option Duration)} {walk : Walk} :
    ¬ policy.Follows calls others walk := by
  intro follows
  obtain ⟨rfl, rfl⟩ := answered.unique follows.ran
  have counted := follows.counted
  rw [answered.counted, walkAt_attempts] at counted
  refine late (handed_lt_iff.mp ?_)
  rw [← counted]
  exact Nat.mod_lt _ (by decide)

/-- What happens without a limit that the counter can pass: the call that finds the counter full
hands out a delay and sets the count to zero. The walk does not follow its policy so far. -/
structure BeginsAgain (policy : BackOff) : Prop where
  wrapped : ∃ answers walk, policy.start.run UInt32.size = .ok (answers, walk) ∧
    none ∉ answers ∧ walk.attempts = 0
  astray : ¬ ∃ answers walk, policy.Follows UInt32.size answers walk

theorem begins_again (usable : policy.fault? = none) (endless : ¬ policy.Ends) :
    policy.BeginsAgain := by
  obtain ⟨answers, answered⟩ := exists_answers usable UInt32.size
  refine ⟨⟨answers, _, answered.ran, answered.all_given endless, ?_⟩, ?_⟩
  · apply UInt32.toNat_inj.mp
    rw [walkAt_attempts, handed_of_not_ends endless]
    decide
  · rintro ⟨others, walk, follows⟩
    exact answered.not_follows (fun lasts => lasts.elim (Nat.lt_irrefl _) endless) follows

/-- **How long a walk follows its policy.** It does for every number of calls that the counter can
show, and for any number of calls when the policy has a limit that the counter can pass. Otherwise
every call still hands out a delay, but the count begins again with every call that finds the
counter full, and the delays with it. -/
theorem run_follows_iff (usable : policy.fault? = none) (calls : Nat) :
    ((∃ answers walk, policy.Follows calls answers walk) ↔ calls < UInt32.size ∨ policy.Ends) ∧
      (¬ policy.Ends → ∃ answers walk, policy.start.run calls = .ok (answers, walk) ∧
        none ∉ answers ∧ walk.attempts.toNat = calls % UInt32.size ∧
        answers.map Except.ok = (List.range calls).map fun i =>
          policy.delay? (min (i % UInt32.size + 1) (UInt32.size - 1))) := by
  obtain ⟨answers, answered⟩ := exists_answers usable calls
  refine ⟨⟨fun ⟨others, walk, follows⟩ => ?_, fun lasts => ?_⟩, fun endless => ?_⟩
  · by_contra late
    exact answered.not_follows late follows
  · exact ⟨answers, _, answered.follows usable lasts⟩
  · refine ⟨answers, _, answered.ran, answered.all_given endless, ?_, ?_⟩
    · rw [walkAt_attempts, handed_of_not_ends endless]
    · rw [answered.delays]
      refine List.map_congr_left fun i _ => ?_
      rw [asked, handed_of_not_ends endless]

/-- A limit of two attempts is exhausted by the third of five calls. -/
theorem run_follows_iff_twoAttempts :
    (fixed (Duration.ofMillis 100) (some 2)).fault? = none ∧
      ∃ walk, (fixed (Duration.ofMillis 100) (some 2)).Follows 5
        [some (Duration.ofMillis 100), some (Duration.ofMillis 100), none, none, none] walk := by
  have usable : (fixed (Duration.ofMillis 100) (some 2)).fault? = none := rfl
  obtain ⟨answers, walk, follows⟩ := (run_follows_iff usable 5).1.mpr (.inr ⟨2, rfl, by decide⟩)
  have ran := follows.ran
  refine ⟨usable, walk, ?_⟩
  cases ran
  exact follows

/-- **Without a limit the count does not last**, and the largest limit is never noticed. -/
theorem endless_walk_begins_again :
    standard.BeginsAgain ∧ (fixed (Duration.ofMillis 1) (some (UInt32.size - 1))).BeginsAgain := by
  constructor
  · apply begins_again rfl
    rintro ⟨most, limited, -⟩
    cases limited
  · apply begins_again rfl
    rintro ⟨most, limited, small⟩
    cases limited
    exact Nat.lt_irrefl _ small

end QueueListener.BackOff
