/-!
# Generated names

A generated name is a stem, a hyphen and 32 hexadecimal digits. The digits count the names that
were generated, so that no two are equal.
-/

namespace QueueListener.Text

/-- The hexadecimal digit of a number below 16. -/
def hexDigit (n : Nat) : Char := Nat.digitChar (n % 16)

/-- The last `width` hexadecimal digits of a number. -/
def hexDigits : Nat → Nat → List Char
  | 0, _ => []
  | width + 1, n => hexDigits width (n / 16) ++ [hexDigit n]

/-- The name with that number on a stem. -/
def generatedName (stem : String) (number : Nat) : String :=
  stem ++ "-" ++ String.ofList (hexDigits 32 number)

end QueueListener.Text
