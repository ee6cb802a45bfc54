/-!
# Digits

Natural numbers read from ASCII decimal digits.

- `decimalValue` — the number that digits stand for.
- `readDigits?` — a text of nothing but digits, if its number is below a bound.
- `readUnsigned?` — the same with a plus sign allowed before the digits.
-/

namespace FrameExchange

/-- The value of a digit. -/
def digitValue (c : Char) : Nat := c.toNat - 48

/-- The number that digits stand for, the first of them the most significant. -/
def decimalValue (digits : List Char) : Nat := digits.foldl (fun n c => 10 * n + digitValue c) 0

/-- The number below `bound` that a text of digits stands for; none where there is no digit,
another character, or a number too large. -/
def readDigits? (bound : Nat) (text : List Char) : Option Nat :=
  let value := decimalValue text
  if text ≠ [] ∧ text.all Char.isDigit ∧ value < bound then some value else none

/-- The number below `bound` that digits with an optional plus sign stand for. -/
def readUnsigned? (bound : Nat) : List Char → Option Nat
  | '+' :: digits => readDigits? bound digits
  | digits => readDigits? bound digits

end FrameExchange
