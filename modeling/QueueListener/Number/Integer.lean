/-!
# Whole numbers in text

Reading of decimal numerals within the bounds of a type of machine integers.

* `readNatural` — an optional plus sign and at least one digit, at most `most`;
* `readInteger` — also with a minus sign, and not below `least`.

The text is read from the left, and the first fault decides: a character that is no digit, or the
digit with which the value leaves the range.
-/

namespace QueueListener.Number

/-- What is wrong with a numeral. -/
inductive IntegerFault
  | invalidDigit
  | tooLarge
  | tooSmall
  deriving DecidableEq, Repr

/-- The wording of the fault. -/
def IntegerFault.message : IntegerFault → String
  | .invalidDigit => "invalid digit found in string"
  | .tooLarge => "number too large to fit in target type"
  | .tooSmall => "number too small to fit in target type"

/-- The value of an ASCII digit. -/
def digitValue? (c : Char) : Option Nat :=
  if '0' ≤ c ∧ c ≤ '9' then some (c.toNat - '0'.toNat) else none

/-- Reads digits onto `value`; a value beyond `most` is the fault `beyond`. -/
def readDigits (most : Nat) (beyond : IntegerFault) : Nat → List Char → Except IntegerFault Nat
  | value, [] => .ok value
  | value, c :: rest =>
    match digitValue? c with
    | none => .error .invalidDigit
    | some digit =>
      if value * 10 + digit ≤ most then readDigits most beyond (value * 10 + digit) rest
      else .error beyond

/-- At least one digit, with a value of at most `most`. -/
def readNumeral (most : Nat) (beyond : IntegerFault) (cs : List Char) : Except IntegerFault Nat :=
  if cs.isEmpty then .error .invalidDigit else readDigits most beyond 0 cs

/-- Reads a natural number of at most `most`. -/
def readNatural (most : Nat) (s : String) : Except IntegerFault Nat :=
  match s.toList with
  | '+' :: digits => readNumeral most .tooLarge digits
  | digits => readNumeral most .tooLarge digits

/-- Reads an integer of at most `most` and at least `-least`. -/
def readInteger (least most : Nat) (s : String) : Except IntegerFault Int :=
  match s.toList with
  | '-' :: digits => (readNumeral least .tooSmall digits).map fun n => -(n : Int)
  | '+' :: digits => (readNumeral most .tooLarge digits).map Int.ofNat
  | digits => (readNumeral most .tooLarge digits).map Int.ofNat

/-- The greatest number of `bits` bits. -/
def greatest (bits : Nat) : Nat := Nat.pow 2 bits - 1

end QueueListener.Number
