import QueueListener.Table
import Mathlib.Algebra.BigOperators.Group.List.Basic
import Mathlib.Algebra.Order.BigOperators.Group.List
import Mathlib.Algebra.Order.Group.Nat
import Mathlib.Data.List.Basic
/-!
# Laws of tables

**What each change of a table does to what is read from it.**

* `get?_modify`, `get?_set`, `get?_erase` — the value at a key after a change;
* `keys_modify`, `keys_set_of_contains`, `keys_set_of_fresh`, `keys_erase` — the keys after a change;
* `total` — a measure of the values, added up; `total_modify`, `total_set_of_fresh` and
  `total_eq_add_erase` say how a change moves it, as long as no key occurs twice;
* `exists_key_of_total_eq_one` — what is counted once is at one key.
-/

namespace QueueListener.Table

variable {κ α M : Type} [DecidableEq κ]

/-! ### Reading -/

@[simp] theorem get?_empty (key : κ) : (empty : Table κ α).get? key = none := rfl

omit [DecidableEq κ] in
@[simp] theorem keys_empty : (empty : Table κ α).keys = [] := rfl

theorem get?_mk_nil (key : κ) : (⟨[]⟩ : Table κ α).get? key = none := rfl

theorem get?_mk_cons (entry : κ × α) (rest : List (κ × α)) (key : κ) :
    (⟨entry :: rest⟩ : Table κ α).get? key =
      if entry.1 = key then some entry.2 else (⟨rest⟩ : Table κ α).get? key := by
  unfold get?
  by_cases same : entry.1 = key <;> simp [same]

theorem mem_entries_of_get? {t : Table κ α} {key : κ} {value : α}
    (found : t.get? key = some value) : (key, value) ∈ t.entries := by
  obtain ⟨entry, first, rfl⟩ := Option.map_eq_some_iff.mp found
  have same : entry.1 = key := by simpa using List.find?_some first
  exact same ▸ List.mem_of_find?_eq_some first

theorem mem_keys_of_get? {t : Table κ α} {key : κ} {value : α}
    (found : t.get? key = some value) : key ∈ t.keys :=
  List.mem_map_of_mem (mem_entries_of_get? found)

theorem get?_eq_none_iff {t : Table κ α} {key : κ} : t.get? key = none ↔ key ∉ t.keys := by
  simp only [get?, keys, Option.map_eq_none_iff, List.find?_eq_none, decide_eq_true_eq,
    List.mem_map, not_exists, not_and]

theorem contains_iff {t : Table κ α} {key : κ} : t.contains key = true ↔ key ∈ t.keys := by
  rw [contains, Option.isSome_iff_ne_none, ne_eq, get?_eq_none_iff, not_not]

theorem contains_of_get? {t : Table κ α} {key : κ} {value : α}
    (found : t.get? key = some value) : t.contains key = true := by
  rw [contains, found, Option.isSome_some]

theorem exists_get?_of_contains {t : Table κ α} {key : κ} (present : t.contains key = true) :
    ∃ value, t.get? key = some value :=
  Option.isSome_iff_exists.mp present

/-- With distinct keys every entry is the one that is found. -/
theorem get?_of_mem_entries {t : Table κ α} (distinct : t.keys.Nodup) {key : κ} {value : α}
    (member : (key, value) ∈ t.entries) : t.get? key = some value := by
  obtain ⟨entries⟩ := t
  induction entries with
  | nil => cases member
  | cons entry rest ih =>
    have fresh : entry.1 ∉ rest.map (·.1) := (List.nodup_cons.mp distinct).1
    rw [get?_mk_cons]
    rcases List.mem_cons.mp member with rfl | later
    · rw [if_pos rfl]
    · have other : entry.1 ≠ key := fun same => fresh (same ▸ List.mem_map_of_mem later)
      rw [if_neg other]
      exact ih (List.nodup_cons.mp distinct).2 later

/-! ### Changing -/

/-- A change of one key leaves the others alone. -/
theorem get?_modify (t : Table κ α) (key other : κ) (f : α → α) :
    (t.modify key f).get? other =
      if other = key then (t.get? other).map f else t.get? other := by
  obtain ⟨entries⟩ := t
  induction entries with
  | nil => simp [modify, get?_mk_nil]
  | cons entry rest ih =>
    have tail : (⟨rest.map fun entry => if entry.1 = key then (entry.1, f entry.2) else entry⟩ :
        Table κ α).get? other = _ := ih
    rw [modify, List.map_cons, get?_mk_cons, get?_mk_cons, tail]
    by_cases found : entry.1 = other
    · subst found
      by_cases same : entry.1 = key <;> simp [same]
    · by_cases same : entry.1 = key
      · have differ : key ≠ other := fun equal => found (same.trans equal)
        simp only [same, if_true, if_neg differ]
      · simp only [same, if_false, if_neg found]

@[simp] theorem get?_modify_self (t : Table κ α) (key : κ) (f : α → α) :
    (t.modify key f).get? key = (t.get? key).map f := by
  rw [get?_modify, if_pos rfl]

theorem get?_modify_of_ne (t : Table κ α) {key other : κ} (f : α → α) (differ : other ≠ key) :
    (t.modify key f).get? other = t.get? other := by
  rw [get?_modify, if_neg differ]

/-- Changes of different keys may change places. -/
theorem modify_comm (t : Table κ α) {key other : κ} (differ : key ≠ other) (f g : α → α) :
    (t.modify key f).modify other g = (t.modify other g).modify key f := by
  simp only [modify, mk.injEq, List.map_map]
  refine List.map_congr_left fun entry _ => ?_
  by_cases first : entry.1 = key
  · simp [first, differ]
  · by_cases second : entry.1 = other <;> simp [first, second, differ.symm]

@[simp] theorem keys_modify (t : Table κ α) (key : κ) (f : α → α) :
    (t.modify key f).keys = t.keys := by
  simp only [modify, keys, List.map_map]
  refine List.map_congr_left fun entry _ => ?_
  by_cases same : entry.1 = key <;> simp [same]

/-- An entry that is erased is not found; the others are. -/
theorem get?_erase (t : Table κ α) (key other : κ) :
    (t.erase key).get? other = if other = key then none else t.get? other := by
  obtain ⟨entries⟩ := t
  induction entries with
  | nil => simp [erase, get?_mk_nil]
  | cons entry rest ih =>
    have tail : (⟨rest.filter (·.1 ≠ key)⟩ : Table κ α).get? other = _ := ih
    rw [erase, List.filter_cons, get?_mk_cons]
    by_cases same : entry.1 = key
    · rw [if_neg (by simp [same]), tail]
      by_cases asked : other = key
      · simp [asked]
      · rw [if_neg asked, if_neg asked, if_neg fun equal => asked (equal.symm.trans same)]
    · rw [if_pos (by simp [same]), get?_mk_cons, tail]
      by_cases found : entry.1 = other
      · rw [if_pos found, if_pos found, if_neg fun equal => same (found.trans equal)]
      · rw [if_neg found, if_neg found]

theorem get?_erase_of_ne (t : Table κ α) {key other : κ} (differ : other ≠ key) :
    (t.erase key).get? other = t.get? other := by
  rw [get?_erase, if_neg differ]

/-- What is found after an erasure was found before. -/
theorem get?_of_get?_erase {t : Table κ α} {key other : κ} {value : α}
    (found : (t.erase key).get? other = some value) : t.get? other = some value := by
  rw [get?_erase] at found
  split at found
  · cases found
  · exact found

theorem keys_erase (t : Table κ α) (key : κ) : (t.erase key).keys = t.keys.filter (· ≠ key) := by
  simp only [erase, keys, List.filter_map, Function.comp_def]

theorem keys_erase_nodup {t : Table κ α} (distinct : t.keys.Nodup) (key : κ) :
    (t.erase key).keys.Nodup := by
  rw [keys_erase]
  exact distinct.filter _

/-- Erasing a key forgets a change of its value. -/
theorem erase_modify (t : Table κ α) (key : κ) (f : α → α) :
    (t.modify key f).erase key = t.erase key := by
  obtain ⟨entries⟩ := t
  simp only [modify, erase, mk.injEq]
  induction entries with
  | nil => rfl
  | cons entry rest ih =>
    rw [List.map_cons, List.filter_cons, List.filter_cons, ih]
    by_cases same : entry.1 = key <;> simp [same]

theorem set_of_contains {t : Table κ α} {key : κ} (present : t.contains key = true) (value : α) :
    t.set key value = t.modify key fun _ => value := if_pos present

theorem set_of_fresh {t : Table κ α} {key : κ} (fresh : key ∉ t.keys) (value : α) :
    t.set key value = ⟨t.entries ++ [(key, value)]⟩ :=
  if_neg fun present => fresh (contains_iff.mp present)

theorem get?_set (t : Table κ α) (key other : κ) (value : α) :
    (t.set key value).get? other = if other = key then some value else t.get? other := by
  by_cases present : t.contains key = true
  · obtain ⟨old, found⟩ := exists_get?_of_contains present
    rw [set_of_contains present, get?_modify]
    by_cases asked : other = key
    · rw [if_pos asked, if_pos asked, asked, found, Option.map_some]
    · rw [if_neg asked, if_neg asked]
  · have fresh : key ∉ t.keys := fun member => present (contains_iff.mpr member)
    rw [set_of_fresh fresh]
    simp only [get?, List.find?_append, Option.map_or]
    by_cases asked : other = key
    · subst asked
      have missing : t.get? other = none := get?_eq_none_iff.mpr fresh
      rw [get?] at missing
      simp [missing]
    · have differ : key ≠ other := fun equal => asked equal.symm
      simp [asked, differ]

theorem keys_set_of_contains {t : Table κ α} {key : κ} (present : t.contains key = true)
    (value : α) : (t.set key value).keys = t.keys := by
  rw [set_of_contains present, keys_modify]

theorem keys_set_of_fresh {t : Table κ α} {key : κ} (fresh : key ∉ t.keys) (value : α) :
    (t.set key value).keys = t.keys ++ [key] := by
  rw [set_of_fresh fresh]
  simp [keys]

theorem keys_set_nodup {t : Table κ α} (distinct : t.keys.Nodup) (key : κ) (value : α) :
    (t.set key value).keys.Nodup := by
  by_cases present : t.contains key = true
  · rw [keys_set_of_contains present]
    exact distinct
  · have fresh : key ∉ t.keys := fun member => present (contains_iff.mpr member)
    rw [keys_set_of_fresh fresh]
    exact List.nodup_append.mpr
      ⟨distinct, List.pairwise_singleton _ key, fun a member b single equal =>
        fresh (List.mem_singleton.mp single ▸ equal ▸ member)⟩

/-! ### Measures of the values -/

section Total

variable [AddCommMonoid M] (measure : α → M)

/-- A measure of the values of a table, added up. -/
def total (t : Table κ α) : M := (t.values.map measure).sum

/-- The measure of the value at a key; nothing where there is none. -/
def amountAt (t : Table κ α) (key : κ) : M :=
  match t.get? key with
  | some value => measure value
  | none => 0

omit [DecidableEq κ] in
@[simp] theorem total_empty : (empty : Table κ α).total measure = 0 := rfl

/-- **The value at a key, and all others.** -/
theorem total_eq_add_erase {t : Table κ α} (distinct : t.keys.Nodup) {key : κ} {value : α}
    (found : t.get? key = some value) :
    t.total measure = measure value + (t.erase key).total measure := by
  obtain ⟨entries⟩ := t
  induction entries with
  | nil => cases found
  | cons entry rest ih =>
    obtain ⟨fresh, distinct⟩ := List.nodup_cons.mp distinct
    have split : (⟨entry :: rest⟩ : Table κ α).total measure =
        measure entry.2 + (⟨rest⟩ : Table κ α).total measure := by
      simp [total, values]
    rw [split]
    rw [get?_mk_cons] at found
    by_cases same : entry.1 = key
    · rw [if_pos same, Option.some.injEq] at found
      have untouched : rest.filter (·.1 ≠ key) = rest := by
        refine List.filter_eq_self.mpr fun other member => ?_
        have differ : other.1 ≠ key := fun equal =>
          fresh (List.mem_map.mpr ⟨other, member, equal.trans same.symm⟩)
        simp [differ]
      have erased : (⟨entry :: rest⟩ : Table κ α).erase key = ⟨rest⟩ := by
        rw [erase, List.filter_cons_of_neg (by simp [same]), untouched]
      rw [found, erased]
    · rw [if_neg same] at found
      have kept : (⟨entry :: rest⟩ : Table κ α).erase key =
          ⟨entry :: ((⟨rest⟩ : Table κ α).erase key).entries⟩ := by
        simp [erase, same]
      have rebuilt : (⟨entry :: ((⟨rest⟩ : Table κ α).erase key).entries⟩ : Table κ α).total measure
          = measure entry.2 + ((⟨rest⟩ : Table κ α).erase key).total measure := by
        simp [total, values]
      rw [kept, rebuilt, ih distinct found]
      exact add_left_comm _ _ _

/-- A change moves the measure by what it does to the one value. -/
theorem total_modify {t : Table κ α} (distinct : t.keys.Nodup) {key : κ} {value : α}
    (found : t.get? key = some value) (f : α → α) :
    (t.modify key f).total measure = measure (f value) + (t.erase key).total measure := by
  have changed : (t.modify key f).get? key = some (f value) := by
    rw [get?_modify_self, found, Option.map_some]
  rw [total_eq_add_erase measure (by rwa [keys_modify]) changed, erase_modify]

/-- A change that keeps the measure of the value keeps the whole measure. -/
theorem total_modify_eq {t : Table κ α} (distinct : t.keys.Nodup) (key : κ) (f : α → α)
    (same : ∀ value, t.get? key = some value → measure (f value) = measure value) :
    (t.modify key f).total measure = t.total measure := by
  cases found : t.get? key with
  | none =>
    have missing : key ∉ t.keys := get?_eq_none_iff.mp found
    have unchanged : t.modify key f = t := by
      obtain ⟨entries⟩ := t
      refine congrArg Table.mk ((List.map_congr_left fun entry member => ?_).trans
        (List.map_id entries))
      have differ : entry.1 ≠ key := fun equal => missing (equal ▸ List.mem_map_of_mem member)
      simp [differ]
    rw [unchanged]
  | some value =>
    rw [total_modify measure distinct found, same value found,
      total_eq_add_erase measure distinct found]

/-- A new key adds the measure of its value. -/
theorem total_set_of_fresh {t : Table κ α} {key : κ} (fresh : key ∉ t.keys) (value : α) :
    (t.set key value).total measure = t.total measure + measure value := by
  rw [set_of_fresh fresh]
  simp [total, values]

omit [DecidableEq κ] in
/-- A measure of the whole is the whole of the measure. -/
theorem map_total {N : Type} [AddCommMonoid N] (f : M →+ N) (t : Table κ α) :
    f (t.total measure) = t.total fun value => f (measure value) := by
  rw [total, total, map_list_sum, List.map_map]
  rfl

/-- A measure of the amount is the amount of the measure. -/
theorem map_amountAt {N : Type} [AddCommMonoid N] (f : M →+ N) (t : Table κ α) (key : κ) :
    f (t.amountAt measure key) = t.amountAt (fun value => f (measure value)) key := by
  unfold amountAt
  cases t.get? key with
  | some value => rfl
  | none => exact map_zero f

/-! ### Counts -/

variable {count : α → Nat} {t : Table κ α}

/-- What is nowhere in the table is not at any of its keys. -/
theorem amountAt_eq_zero (distinct : t.keys.Nodup) (nowhere : t.total count = 0) (key : κ) :
    t.amountAt count key = 0 := by
  unfold amountAt
  split
  next value found =>
    rw [total_eq_add_erase count distinct found] at nowhere
    exact Nat.eq_zero_of_add_eq_zero_right nowhere
  next => rfl

/-- **What is once in the table is at exactly one of its keys.** -/
theorem exists_key_of_total_eq_one (distinct : t.keys.Nodup) (once : t.total count = 1) :
    ∃ key, t.amountAt count key = 1 ∧ ∀ other, other ≠ key → t.amountAt count other = 0 := by
  have somewhere : ∃ entry ∈ t.entries, count entry.2 ≠ 0 := by
    by_contra nowhere
    have all : t.total count = 0 := by
      refine List.sum_eq_zero fun amount member => ?_
      obtain ⟨value, listed, rfl⟩ := List.mem_map.mp member
      obtain ⟨entry, stored, rfl⟩ := List.mem_map.mp listed
      by_contra positive
      exact nowhere ⟨entry, stored, positive⟩
    omega
  obtain ⟨⟨key, value⟩, stored, positive⟩ := somewhere
  have found := get?_of_mem_entries distinct stored
  have parts := total_eq_add_erase count distinct found
  have here : count value ≠ 0 := positive
  have others : (t.erase key).total count = 0 := by omega
  refine ⟨key, ?_, fun other differ => ?_⟩
  · rw [amountAt, found]
    show count value = 1
    omega
  · rw [← amountAt_eq_zero (keys_erase_nodup distinct key) others other, amountAt, amountAt,
      get?_erase_of_ne t differ]

end Total

end QueueListener.Table
