import FrameExchange.Number.Digits
import FrameExchange.Single

/-!
# Numbers in JSON text

Reading a number and deciding what it is: an integer that fits a word stays exact, everything
else becomes a floating-point number of 64 bits.

- `JsonNumber` — the three kinds of numbers.
- `Scanned` — the parts of a number in a text: digits before and after the point, exponent.
- `Scanned.value?` — the number that the parts stand for. Digits are taken into a word as long as
  it holds them, and the word is then scaled by a power of ten, so the result can be off by the
  two roundings.
-/

namespace FrameExchange

/-- A number that was read. -/
inductive JsonNumber where
  /-- A number that fits an unsigned word of 64 bits. -/
  | natural (value : Nat)
  /-- The negative of a number that fits a signed word of 64 bits. -/
  | negative (value : Nat)
  | float (isNegative : Bool) (magnitude : Dyadic)
  deriving DecidableEq, Repr

namespace JsonNumber

/-- The number as one of 32 bits. -/
def toSingle : JsonNumber → Single
  | natural value => .ofRounded false (BinaryFormat.single.round value 1)
  | negative value => .ofRounded true (BinaryFormat.single.round value 1)
  | float isNegative magnitude => .ofRounded isNegative (BinaryFormat.single.ofDyadic magnitude)

end JsonNumber

/-- The parts of a number. -/
structure Scanned where
  isNegative : Bool
  whole : List Char
  /-- The digits after the point, where there is a point. -/
  fraction : Option (List Char)
  /-- Whether the exponent is negative, and its digits. -/
  exponent : Option (Bool × List Char)
  deriving DecidableEq, Repr

/-- Take digits into a word as long as it holds them; how many were not taken. -/
def absorb (word : Nat) : List Char → Nat × Nat
  | [] => (word, 0)
  | c :: rest =>
    if UInt64.size ≤ word * 10 + digitValue c then (word, rest.length + 1)
    else absorb (word * 10 + digitValue c) rest

/-- The number of 64 bits nearest to a power of ten. -/
def powerOfTen (n : Nat) : Dyadic := (BinaryFormat.double.round (Nat.pow 10 n) 1).getD ⟨0, 0⟩

/-- The largest power of ten among the numbers of 64 bits. -/
def largestPower : Nat := 308

/-- The rounded quotient; no quotient here can be too large. -/
def divide (a b : Dyadic) : Dyadic :=
  (BinaryFormat.double.round (a.num * b.den) (a.den * b.num)).getD ⟨0, 0⟩

/-- A number divided by a power of ten, in steps of the largest one. -/
def divideByPower (d : Dyadic) (n : Nat) : Dyadic :=
  if n ≤ largestPower then divide d (powerOfTen n)
  else if d.mantissa = 0 then d
  else divideByPower (divide d (powerOfTen largestPower)) (n - largestPower)
termination_by n
decreasing_by simp only [largestPower] at *; omega

/-- A number times a power of ten; none where that is too large. -/
def multiplyByPower (d : Dyadic) (n : Nat) : Option Dyadic :=
  if n ≤ largestPower then BinaryFormat.double.ofDyadic (d.mul (powerOfTen n))
  else if d.mantissa = 0 then some d
  else none

/-- A word times a power of ten; none where that is too large. -/
def scale (word : Nat) (exponent : Int) : Option Dyadic :=
  let rounded := (BinaryFormat.double.round word 1).getD ⟨0, 0⟩
  if 0 ≤ exponent then multiplyByPower rounded exponent.toNat
  else some (divideByPower rounded (-exponent).toNat)

/-- Exponents past this one are not counted any more. -/
def largestExponent : Nat := 0x7fffffff

namespace Scanned

/-- The word that the digits go into, and the power of ten that it is to be scaled by before the
exponent is counted. -/
def significand (s : Scanned) : Nat × Int :=
  let (whole, dropped) := absorb 0 s.whole
  match s.fraction with
  | none => (whole, dropped)
  | some digits =>
    let (word, left) := absorb whole digits
    (word, dropped - (digits.length - left : Nat))

/-- The number as a floating-point one; none where it is too large. -/
def float? (s : Scanned) : Option JsonNumber :=
  let (word, shift) := s.significand
  match s.exponent with
  | none => (scale word shift).map (.float s.isNegative)
  | some (down, digits) =>
    let size := decimalValue digits
    if largestExponent < size then
      if word ≠ 0 ∧ !down then none else some (.float s.isNegative ⟨0, 0⟩)
    else (scale word (if down then shift - size else shift + size)).map (.float s.isNegative)

/-- The number that the parts stand for; none where it is too large. -/
def value? (s : Scanned) : Option JsonNumber :=
  let (word, dropped) := absorb 0 s.whole
  if dropped = 0 ∧ s.fraction = none ∧ s.exponent = none then
    if !s.isNegative then some (.natural word)
    else if word = 0 ∨ 0x8000000000000000 < word then
      some (.float true ((BinaryFormat.double.round word 1).getD ⟨0, 0⟩))
    else some (.negative word)
  else s.float?

end Scanned

end FrameExchange
