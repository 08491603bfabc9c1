import Mathlib.Tactic.ByContra
import QueueListener.BackOff
/-!
# Delays of usable policies

**A policy without a fault has a delay before every attempt that it allows**: the product of a
duration and a power of a factor that is at least one never is below zero.

* `Binary64.minus` — the sign of a number; sums, products and powers of numbers without a minus sign
  have none;
* `BackOff.grownDelay_ok` — a grown delay can be formed;
* `BackOff.delay?_of_allows` — every attempt that is allowed has a delay.
-/

namespace QueueListener

namespace Number.Binary64

/-! ### Signs -/

/-- Whether a number carries a minus sign; an undefined one carries none. -/
def minus : Binary64 → Bool
  | .notANumber => false
  | .infinite negative => negative
  | .finite negative _ => negative

/-- Rounding keeps the sign. -/
@[simp] theorem ofRatio_minus (negative : Bool) (num den : Nat) :
    (ofRatio negative num den).minus = negative := by
  unfold ofRatio
  generalize limit = bound
  dsimp only
  split
  next => rfl
  next => rfl

theorem mul_minus {a b : Binary64} (left : a.minus = false) (right : b.minus = false) :
    (mul a b).minus = false := by
  cases a with
  | notANumber => simp [mul, minus]
  | infinite s =>
    simp only [minus] at left
    cases b with
    | notANumber => simp [mul, minus]
    | infinite t =>
      simp only [minus] at right
      simp [mul, minus, left, right]
    | finite t units =>
      simp only [minus] at right
      by_cases zero : units = 0 <;> simp [mul, minus, left, right, zero]
  | finite s units =>
    simp only [minus] at left
    cases b with
    | notANumber => simp [mul, minus]
    | infinite t =>
      simp only [minus] at right
      by_cases zero : units = 0 <;> simp [mul, minus, left, right, zero]
    | finite t units' =>
      simp only [minus] at right
      simp [mul, left, right]

theorem add_minus {a b : Binary64} (left : a.minus = false) (right : b.minus = false) :
    (add a b).minus = false := by
  cases a with
  | notANumber => simp [add, minus]
  | infinite s =>
    simp only [minus] at left
    cases b with
    | notANumber => simp [add, minus]
    | infinite t =>
      simp only [minus] at right
      simp [add, minus, left, right]
    | finite t units => simp [add, minus, left]
  | finite s units =>
    simp only [minus] at left
    cases b with
    | notANumber => simp [add, minus]
    | infinite t =>
      simp only [minus] at right
      simp [add, minus, right]
    | finite t units' =>
      simp only [minus] at right
      have sum : ¬ ((units : Int) + units' < 0) := by omega
      simp [add, signed, left, right, sum]

/-- The squaring loop multiplies what it is given. -/
theorem powFrom_minus {base result : Binary64} (exponent : Nat) (left : base.minus = false)
    (right : result.minus = false) : (powFrom base result exponent).minus = false := by
  induction exponent using Nat.strongRecOn generalizing base result with
  | ind exponent ih =>
    have next : (if exponent % 2 = 1 then mul result base else result).minus = false := by
      by_cases odd : exponent % 2 = 1
      · rw [if_pos odd]
        exact mul_minus right left
      · rw [if_neg odd]
        exact right
    rw [powFrom]
    by_cases last : exponent / 2 = 0
    · rw [dif_pos last]
      exact next
    · rw [dif_neg last]
      exact ih (exponent / 2) (by omega) (mul_minus left left) next

theorem pow_minus {base : Binary64} (exponent : Nat) (plus : base.minus = false) :
    (pow base exponent).minus = false :=
  powFrom_minus exponent plus (ofRatio_minus false 1 1)

theorem ofSeconds_minus (seconds nanos : Nat) : (ofSeconds seconds nanos).minus = false :=
  add_minus (ofRatio_minus false seconds 1) (ofRatio_minus false nanos 1000000000)

/-- One is one, after rounding. -/
theorem ofNat_one : ofNat 1 = .finite false oneUnits := by decide +kernel

theorem ofNat_zero : ofNat 0 = .finite false 0 := by decide +kernel

/-- A finite number that is not below one carries no minus sign. -/
theorem minus_of_one_le {x : Binary64} (finite : x.isFinite = true)
    (large : x.lt (.ofNat 1) = false) : x.minus = false := by
  have positive : 0 < oneUnits := by decide +kernel
  rw [ofNat_one] at large
  generalize oneUnits = one at positive large
  cases x with
  | notANumber => rfl
  | infinite negative => cases finite
  | finite negative units =>
    by_contra negated
    rw [Bool.not_eq_false] at negated
    simp only [minus] at negated
    simp only [lt, signed, negated, if_true, Bool.false_eq_true, if_false, decide_eq_false_iff_not]
      at large
    omega

/-- A finite number without a minus sign is not below zero. -/
theorem zero_le_of_minus {x : Binary64} (finite : x.isFinite = true) (plus : x.minus = false) :
    x.lt (.ofNat 0) = false := by
  rw [ofNat_zero]
  cases x with
  | notANumber => cases finite
  | infinite negative => cases finite
  | finite negative units =>
    simp only [minus] at plus
    simp [lt, signed, plus]

end Number.Binary64

namespace BackOff

open Number

/-! ### Delays -/

/-- A delay that grows by a factor of at least one can be formed. -/
theorem grownDelay_ok {multiplier : Binary64} (finite : multiplier.isFinite = true)
    (large : multiplier.lt (.ofNat 1) = false) (initial longest : Duration) (attempt : Nat) :
    ∃ delay, grownDelay initial multiplier longest attempt = .ok delay := by
  have plus := Binary64.mul_minus
    (Binary64.ofSeconds_minus initial.seconds initial.subsecond)
    (Binary64.pow_minus (min (attempt - 1) greatestExponent)
      (Binary64.minus_of_one_le finite large))
  unfold grownDelay
  dsimp only
  generalize Binary64.mul _ _ = seconds at plus ⊢
  split
  next => exact ⟨_, rfl⟩
  next shorter =>
    have finite : seconds.isFinite = true := by
      rw [Bool.or_eq_true, not_or] at shorter
      simpa using shorter.1
    rw [Binary64.zero_le_of_minus finite plus]
    exact ⟨_, rfl⟩

/-- A policy whose delay grows is usable only if it grows by a finite factor of at least one. -/
theorem factor_of_usable {initial longest : Duration} {multiplier : Binary64} {limit : Option Nat}
    (usable : (exponential initial multiplier longest limit).fault? = none) :
    multiplier.isFinite = true ∧ multiplier.lt (.ofNat 1) = false := by
  unfold fault? at usable
  dsimp only at usable
  generalize multiplier.lt (.ofNat 1) = small at usable ⊢
  generalize multiplier.isFinite = finite at usable ⊢
  cases finite <;> cases small <;> simp_all

/-- **A usable policy has a delay before every attempt that it allows**: no fault of time keeps it
from being formed. -/
theorem delay?_of_allows {policy : BackOff} (usable : policy.fault? = none) {attempt : Nat}
    (allowed : policy.allows attempt = true) :
    ∃ delay, policy.delay? attempt = .ok (some delay) := by
  cases policy with
  | fixed interval limit =>
    refine ⟨interval, ?_⟩
    simp [delay?, allowed]
  | exponential initial multiplier longest limit =>
    obtain ⟨finite, large⟩ := factor_of_usable usable
    obtain ⟨delay, grown⟩ := grownDelay_ok finite large initial longest attempt
    refine ⟨delay, ?_⟩
    unfold delay?
    rw [allowed]
    dsimp only
    generalize grownDelay initial multiplier longest attempt = result at grown ⊢
    subst grown
    rfl

/-- Past its limit a policy has no delay. -/
theorem delay?_of_not_allows {policy : BackOff} {attempt : Nat}
    (late : policy.allows attempt = false) : policy.delay? attempt = .ok none := by
  simp [delay?, late]

/-- An attempt with a delay is one that the policy allows. -/
theorem allows_of_delay? {policy : BackOff} {attempt : Nat} {delay : Duration}
    (delayed : policy.delay? attempt = .ok (some delay)) : policy.allows attempt = true := by
  by_contra late
  rw [delay?_of_not_allows (Bool.eq_false_iff.mpr late)] at delayed
  cases delayed

end BackOff

end QueueListener
