import QueueListener.Number.Binary64
import QueueListener.Number.Integer
/-!
# Decimal notation of binary64 numbers

**Writing** takes the fewest significant digits that read back to the same number, and of those the
nearest; the notation is positional, whatever the magnitude (`text`).

**Reading** takes an optional sign and either a name (`inf`, `infinity`, `nan`, in any case) or
digits with an optional point and an optional exponent, and rounds once (`read?`).
-/

namespace QueueListener.Number

/-- A decimal numeral: the value is `digits * 10 ^ exponent`. -/
structure Decimal where
  digits : Nat
  exponent : Int
  deriving DecidableEq, Repr

namespace Decimal

/-- How many digits a number has in decimal notation; zero has one. -/
def width (n : Nat) : Nat := (toString n).length

/-- The number nearest to a decimal. Beyond the range of the format the magnitude decides before
any power of ten is formed. -/
def toBinary64 (negative : Bool) (d : Decimal) : Binary64 :=
  if d.digits = 0 then .finite negative 0
  else if d.exponent + width d.digits > 310 then .infinite negative
  else if d.exponent + width d.digits < -330 then .finite negative 0
  else if d.exponent < 0 then .ofRatio negative d.digits (Nat.pow 10 d.exponent.natAbs)
  else .ofRatio negative (d.digits * Nat.pow 10 d.exponent.natAbs) 1

/-- The exponent of ten of the leading digit of a positive number of units. -/
def leadingExponent (units : Nat) : Int :=
  (width (units * Nat.pow 10 340 / Binary64.oneUnits) : Int) - 1 - 340

/-- The greatest decimal with the last digit at `10 ^ exponent` that is not above the number. -/
def floorAt (units : Nat) (exponent : Int) : Decimal :=
  if exponent < 0 then ⟨units * Nat.pow 10 exponent.natAbs / Binary64.oneUnits, exponent⟩
  else ⟨units / (Binary64.oneUnits * Nat.pow 10 exponent.natAbs), exponent⟩

/-- Whether the decimal reads back to that number of units. -/
def readsBack (units : Nat) (d : Decimal) : Bool := d.toBinary64 false == .finite false units

/-- The number of units scaled so that one step of the grid at `exponent` is a whole number:
the pair of that number and the step. -/
def onGrid (units : Nat) (exponent : Int) : Nat × Nat :=
  if exponent < 0 then (units * Nat.pow 10 exponent.natAbs, Binary64.oneUnits)
  else (units, Binary64.oneUnits * Nat.pow 10 exponent.natAbs)

/-- The nearer of the two neighbours on the grid at `exponent` among those that read back. -/
def neighbour? (units : Nat) (exponent : Int) : Option Decimal :=
  let below := floorAt units exponent
  let above : Decimal := ⟨below.digits + 1, exponent⟩
  match readsBack units below, readsBack units above with
  | true, true =>
    let (value, step) := onGrid units exponent
    if 2 * (value - below.digits * step) ≤ step then some below else some above
  | true, false => some below
  | false, true => some above
  | false, false => none

/-- The first grid with a neighbour that reads back, from coarse to fine. -/
def firstNeighbour (units : Nat) : Nat → Int → Decimal
  | 0, exponent => floorAt units exponent
  | grids + 1, exponent =>
    match neighbour? units exponent with
    | some d => d
    | none => firstNeighbour units grids (exponent - 1)

/-- The shortest decimal that reads back: seventeen digits are always enough. -/
def shortest (units : Nat) : Decimal :=
  if units = 0 then ⟨0, 0⟩ else firstNeighbour units 17 (leadingExponent units)

/-- Digits after the point without zeros at the end; the exponent grows by as many. -/
def stripZeros : Nat → Decimal → Decimal
  | 0, d => d
  | steps + 1, d =>
    if d.digits % 10 = 0 ∧ d.digits ≠ 0 then stripZeros steps ⟨d.digits / 10, d.exponent + 1⟩ else d

/-- Positional notation, with a point only before a fraction. -/
def positional (d : Decimal) : String :=
  let digits := toString d.digits
  if d.exponent ≥ 0 then
    if d.digits = 0 then "0" else digits ++ String.ofList (List.replicate d.exponent.natAbs '0')
  else
    let places := d.exponent.natAbs
    let cs := List.replicate (places + 1 - digits.length) '0' ++ digits.toList
    String.ofList (cs.take (cs.length - places)) ++ "." ++
      String.ofList (cs.drop (cs.length - places))

/-- Splits the digits off the front. -/
def takeDigits (cs : List Char) : List Char × List Char :=
  (cs.takeWhile fun c => (digitValue? c).isSome, cs.dropWhile fun c => (digitValue? c).isSome)

/-- The value of a list of digits. -/
def digitsValue (cs : List Char) : Nat :=
  cs.foldl (fun value c => value * 10 + (digitValue? c).getD 0) 0

/-- Reads `e`, an optional sign and at least one digit, to the end of the text; without any of
these the exponent is zero. -/
def readExponent? : List Char → Option Int
  | [] => some 0
  | c :: rest =>
    if c = 'e' ∨ c = 'E' then
      let (negative, digits) := match rest with
        | '-' :: ds => (true, ds)
        | '+' :: ds => (false, ds)
        | ds => (false, ds)
      if digits.isEmpty ∨ digits.any fun d => (digitValue? d).isNone then none
      else some (if negative then -(digitsValue digits : Int) else digitsValue digits)
    else none

/-- Reads digits with an optional point and an optional exponent. -/
def read? (cs : List Char) : Option Decimal :=
  let (whole, rest) := takeDigits cs
  let (fraction, rest) := match rest with
    | '.' :: tail => takeDigits tail
    | tail => ([], tail)
  if whole.isEmpty ∧ fraction.isEmpty then none
  else (readExponent? rest).map fun exponent =>
    ⟨digitsValue (whole ++ fraction), exponent - fraction.length⟩

end Decimal

namespace Binary64

/-- The shortest positional text that reads back to the number. -/
def text : Binary64 → String
  | .notANumber => "NaN"
  | .infinite negative => if negative then "-inf" else "inf"
  | .finite negative units =>
    let digits := (Decimal.stripZeros 20 (Decimal.shortest units)).positional
    if negative then "-" ++ digits else digits

/-- Reads the part after the sign. -/
def readUnsigned? (negative : Bool) (cs : List Char) : Option Binary64 :=
  match (Decimal.read? cs) with
  | some d => some (d.toBinary64 negative)
  | none =>
    match String.ofList (cs.map Char.toLower) with
    | "inf" | "infinity" => some (.infinite negative)
    | "nan" => some .notANumber
    | _ => none

/-- Reads a number from text. -/
def read? (s : String) : Option Binary64 :=
  match s.toList with
  | '-' :: cs => readUnsigned? true cs
  | '+' :: cs => readUnsigned? false cs
  | cs => readUnsigned? false cs

end Binary64

end QueueListener.Number
