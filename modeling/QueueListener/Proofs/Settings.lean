import QueueListener.Settings
/-!
# Settings without a contradiction

**The first contradiction decides.** Bounds are checked first, then the single settings, and last
the names of the queues, one after the other: a name must not be blank, and it must be new beside
those that are taken and those before it.

* `Bounds.range_of_faultless`, `Bounds.fault?_eq_some_iff` — bounds;
* `Settings.Fresh` — names that can be added beside others;
* `Settings.nameFault?_eq_none_iff`, `Settings.nameFault?_eq_some_iff` — what is wrong with names;
* `Settings.fault?_eq_none_iff` — settings that can be used.
-/

namespace QueueListener

namespace Bounds

/-- Bounds without a fault are a range above zero. -/
theorem range_of_faultless {b : Bounds} (faultless : b.fault? = none) :
    0 < b.least ∧ b.least ≤ b.most := by
  unfold fault? at faultless
  split at faultless
  next => cases faultless
  next positive =>
    split at faultless
    next => cases faultless
    next ordered => exact ⟨Nat.pos_of_ne_zero positive, Nat.le_of_not_lt ordered⟩

/-- What is wrong with bounds: they begin at zero, or they are not a range. -/
theorem fault?_eq_some_iff {b : Bounds} {reason : String} : b.fault? = some reason ↔
    (b.least = 0 ∧ reason = "min consumers per queue must be at least 1") ∨
      (0 < b.least ∧ b.most < b.least ∧ reason = "min consumers per queue (" ++ toString b.least ++
        ") exceeds max (" ++ toString b.most ++ ")") := by
  unfold fault?
  split
  next zero => simp [zero, eq_comm]
  next positive =>
    have above := Nat.pos_of_ne_zero positive
    split
    next inverted => simp [positive, above, inverted, eq_comm]
    next ordered => simp [positive, ordered]

end Bounds

namespace Settings

/-- Names that can be added beside those that are taken. -/
structure Fresh (taken names : List String) : Prop where
  named : ∀ name ∈ names, Text.isBlankText name = false
  distinct : names.Nodup
  new : ∀ name ∈ names, name ∉ taken

variable {taken names : List String} {name : String}

theorem fresh_nil (taken : List String) : Fresh taken [] := ⟨nofun, .nil, nofun⟩

/-- The first name is taken for those after it. -/
theorem fresh_cons : Fresh taken (name :: names) ↔
    Text.isBlankText name = false ∧ name ∉ taken ∧ Fresh (name :: taken) names := by
  constructor
  · rintro ⟨named, distinct, new⟩
    obtain ⟨once, distinct⟩ := List.nodup_cons.mp distinct
    refine ⟨named name List.mem_cons_self, new name List.mem_cons_self,
      fun other later => named other (List.mem_cons_of_mem name later), distinct, ?_⟩
    intro other later known
    obtain rfl | known := List.mem_cons.mp known
    · exact once later
    · exact new other (List.mem_cons_of_mem name later) known
  · rintro ⟨filled, unknown, named, distinct, new⟩
    refine ⟨List.forall_mem_cons.mpr ⟨filled, named⟩,
      List.nodup_cons.mpr ⟨fun later => new name later List.mem_cons_self, distinct⟩,
      List.forall_mem_cons.mpr ⟨unknown, fun other later known => ?_⟩⟩
    exact new other later (List.mem_cons_of_mem name known)

/-- **Names have no fault exactly when they can be added.** -/
theorem nameFault?_eq_none_iff : nameFault? taken names = none ↔ Fresh taken names := by
  induction names generalizing taken with
  | nil => exact iff_of_true rfl (fresh_nil taken)
  | cons name rest ih =>
    rw [nameFault?, fresh_cons]
    split
    next blank => simp [blank]
    next filled =>
      split
      next known => simp [List.contains_iff_mem.mp known]
      next unknown =>
        have unknown' : name ∉ taken := fun known => unknown (List.contains_iff_mem.mpr known)
        simp [ih, filled, unknown']

/-- Why a name cannot be added beside those that are taken: it is blank, or it is one of them. -/
def Unfit (taken : List String) (name : String) (refusal : Refusal) : Prop :=
  (Text.isBlankText name = true ∧ refusal = blankName) ∨
    (Text.isBlankText name = false ∧ name ∈ taken ∧ refusal = .duplicateQueue name)

theorem unfit_congr {taken' : List String} {refusal : Refusal}
    (same : name ∈ taken ↔ name ∈ taken') : Unfit taken name refusal ↔ Unfit taken' name refusal := by
  unfold Unfit
  rw [same]

theorem nameFault?_cons {refusal : Refusal} : nameFault? taken (name :: names) = some refusal ↔
    Unfit taken name refusal ∨ (Text.isBlankText name = false ∧ name ∉ taken ∧
      nameFault? (name :: taken) names = some refusal) := by
  unfold Unfit
  rw [nameFault?]
  split
  next blank => simp [blank, eq_comm]
  next filled =>
    split
    next known => simp [filled, List.contains_iff_mem.mp known, eq_comm]
    next unknown =>
      have unknown' : name ∉ taken := fun known => unknown (List.contains_iff_mem.mpr known)
      simp [filled, unknown']

/-- **The first name that cannot be added decides**, beside those that are taken and those before
it. -/
theorem nameFault?_eq_some_iff {refusal : Refusal} : nameFault? taken names = some refusal ↔
    ∃ before name after, names = before ++ name :: after ∧ Fresh taken before ∧
      Unfit (before ++ taken) name refusal := by
  have moved : ∀ (before taken : List String) (head name : String),
      name ∈ before ++ head :: taken ↔ name ∈ head :: before ++ taken := by
    intro before taken head name
    simp [or_left_comm]
  induction names generalizing taken with
  | nil =>
    refine iff_of_false nofun ?_
    rintro ⟨before, name, after, none, -⟩
    cases before <;> cases none
  | cons head rest ih =>
    rw [nameFault?_cons]
    constructor
    · rintro (unfit | ⟨filled, unknown, later⟩)
      · exact ⟨[], head, rest, rfl, fresh_nil taken, unfit⟩
      · obtain ⟨before, name, after, rfl, fresh, unfit⟩ := ih.mp later
        exact ⟨head :: before, name, after, rfl, fresh_cons.mpr ⟨filled, unknown, fresh⟩,
          (unfit_congr (moved before taken head name)).mp unfit⟩
    · rintro ⟨before, name, after, split, fresh, unfit⟩
      cases before with
      | nil =>
        obtain ⟨rfl, rfl⟩ := List.cons.inj split
        exact .inl unfit
      | cons first before =>
        obtain ⟨rfl, rfl⟩ := List.cons.inj split
        obtain ⟨filled, unknown, fresh⟩ := fresh_cons.mp fresh
        exact .inr ⟨filled, unknown, ih.mpr ⟨before, name, after, rfl, fresh,
          (unfit_congr (moved before taken head name)).mpr unfit⟩⟩

/-- **Settings can be used when the bounds are a range, no single check finds anything, and the
queues have names of their own.** -/
theorem fault?_eq_none_iff {s : Settings} : s.fault? = none ↔
    s.bounds.fault? = none ∧ (∀ check ∈ s.checks, check.1 = false) ∧ s.recovery.fault? = none ∧
      Fresh [] s.queues := by
  have single : s.singleFault? = none ↔ s.bounds.fault? = none ∧
      (∀ check ∈ s.checks, check.1 = false) ∧ s.recovery.fault? = none := by
    have checks : s.checks.find? (·.1) = none ↔ ∀ check ∈ s.checks, check.1 = false := by
      simp [List.find?_eq_none]
    unfold singleFault?
    rw [← checks]
    cases s.bounds.fault? with
    | some reason => simp
    | none => cases s.checks.find? (·.1) <;> simp
  unfold fault?
  rw [← nameFault?_eq_none_iff]
  cases faulty : s.singleFault? with
  | some reason =>
    refine iff_of_false nofun fun ⟨bounds, checks, recovery, _⟩ => ?_
    rw [single.mpr ⟨bounds, checks, recovery⟩] at faulty
    cases faulty
  | none =>
    obtain ⟨bounds, checks, recovery⟩ := single.mp faulty
    exact ⟨fun names => ⟨bounds, checks, recovery, names⟩, fun ⟨_, _, _, names⟩ => names⟩

end Settings

end QueueListener
