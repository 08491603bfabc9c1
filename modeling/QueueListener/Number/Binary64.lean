/-!
# Numbers of the format binary64

**A finite number is a whole number of units of `2 ^ (-1074)`** with at most 53 significant bits.
Every operation takes the exact result and rounds it once, to the nearest number, ties to the even
one (`ofRatio`); so signs and special values can be read off the definitions.

* `ofRatio` — the number nearest to a fraction;
* `mul`, `add`, `pow` — arithmetic, the power by repeated squaring;
* `ofSeconds`, `toNanos` — from a duration to seconds and back.
-/

namespace QueueListener.Number

/-- A quotient rounded to the nearest whole number, ties to the even one. -/
def roundedQuotient (num den : Nat) : Nat :=
  let quotient := num / den
  let twice := 2 * (num % den)
  if twice < den then quotient
  else if den < twice then quotient + 1
  else quotient + quotient % 2

/-- A number of the format binary64; `units` counts multiples of `2 ^ (-1074)`. -/
inductive Binary64
  | notANumber
  | infinite (negative : Bool)
  | finite (negative : Bool) (units : Nat)
  deriving DecidableEq, Repr

namespace Binary64

/-- How many units make one. -/
def oneUnits : Nat := Nat.pow 2 1074

/-- The least number of units that is too large to be finite. -/
def limit : Nat := Nat.pow 2 2098

/-- The distance between neighbouring numbers at a magnitude. -/
def spacing (units : Nat) : Nat := Nat.pow 2 (units.log2 - 52)

/-- The number nearest to `num / den`, with a sign. -/
def ofRatio (negative : Bool) (num den : Nat) : Binary64 :=
  let step := spacing (num * oneUnits / den)
  let units := roundedQuotient (num * oneUnits) (den * step) * step
  if units < limit then .finite negative units else .infinite negative

/-- The number nearest to a natural number. -/
def ofNat (n : Nat) : Binary64 := ofRatio false n 1

/-- Whether the number is neither infinite nor undefined. -/
def isFinite : Binary64 → Bool
  | .finite .. => true
  | _ => false

/-- The product, rounded. -/
def mul : Binary64 → Binary64 → Binary64
  | .finite s a, .finite t b => ofRatio (s != t) (a * b) (oneUnits * oneUnits)
  | .infinite s, .finite t b => if b = 0 then .notANumber else .infinite (s != t)
  | .finite s a, .infinite t => if a = 0 then .notANumber else .infinite (s != t)
  | .infinite s, .infinite t => .infinite (s != t)
  | _, _ => .notANumber

/-- The signed number of units. -/
def signed (negative : Bool) (units : Nat) : Int := if negative then -(units : Int) else units

/-- The sum, rounded. A sum of zero is positive unless both terms are negative. -/
def add : Binary64 → Binary64 → Binary64
  | .finite s a, .finite t b =>
    let sum := signed s a + signed t b
    let negative := if sum = 0 then s && t else decide (sum < 0)
    ofRatio negative sum.natAbs oneUnits
  | .infinite s, .infinite t => if s = t then .infinite s else .notANumber
  | .infinite s, .finite .. => .infinite s
  | .finite .., .infinite t => .infinite t
  | _, _ => .notANumber

/-- The squaring loop of `pow`: `result * base ^ exponent`, low bits of the exponent first. -/
def powFrom (base result : Binary64) (exponent : Nat) : Binary64 :=
  let next := if exponent % 2 = 1 then mul result base else result
  if _h : exponent / 2 = 0 then next else powFrom (mul base base) next (exponent / 2)
termination_by exponent
decreasing_by omega

/-- The power by repeated squaring, rounded after every multiplication. -/
def pow (base : Binary64) (exponent : Nat) : Binary64 := powFrom base (ofNat 1) exponent

/-- Order of numbers; nothing is comparable with an undefined one. -/
def lt : Binary64 → Binary64 → Bool
  | .finite s a, .finite t b => decide (signed s a < signed t b)
  | .infinite s, .infinite t => s && !t
  | .infinite s, .finite .. => s
  | .finite .., .infinite t => !t
  | _, _ => false

/-- Order or equality of numbers; both zeros are equal. -/
def le : Binary64 → Binary64 → Bool
  | .finite s a, .finite t b => decide (signed s a ≤ signed t b)
  | .infinite s, .infinite t => s || !t
  | .infinite s, .finite .. => s
  | .finite .., .infinite t => !t
  | _, _ => false

/-- A duration of `seconds` and `nanos` in seconds: the rounded sum of two rounded terms. -/
def ofSeconds (seconds nanos : Nat) : Binary64 :=
  add (ofNat seconds) (ofRatio false nanos 1000000000)

/-- A finite number of seconds in nanoseconds, rounded; the sign is dropped. -/
def toNanos : Binary64 → Nat
  | .finite _ units => roundedQuotient (units * 1000000000) oneUnits
  | _ => 0

end Binary64

end QueueListener.Number
