/-!
# Binary floating-point formats

Rounding an exact fraction to the nearest number of a binary format, in integer arithmetic.

- `roundDiv` — a quotient to the nearest integer, a tie to the even one.
- `Dyadic` — an integer times a power of two.
- `BinaryFormat.round` — the nearest number of a format, or none when it is too large.
-/

namespace FrameExchange

/-- `num / den` to the nearest integer; a tie goes to the even neighbour. -/
def roundDiv (num den : Nat) : Nat :=
  let quotient := num / den
  let twice := 2 * (num % den)
  if twice < den then quotient
  else if den < twice then quotient + 1
  else quotient + quotient % 2

/-- The number `mantissa * 2 ^ exponent`. -/
structure Dyadic where
  mantissa : Nat
  exponent : Int
  deriving DecidableEq, Repr

namespace Dyadic

/-- The numerator of the number as a fraction. -/
def num (d : Dyadic) : Nat := d.mantissa * Nat.pow 2 d.exponent.toNat

/-- The denominator of the number as a fraction. -/
def den (d : Dyadic) : Nat := Nat.pow 2 (-d.exponent).toNat

/-- The exact product. -/
def mul (a b : Dyadic) : Dyadic := ⟨a.mantissa * b.mantissa, a.exponent + b.exponent⟩

end Dyadic

/-- A binary format: how many bits a mantissa has, and the exponents of the unit in the last
place of its smallest and of its largest numbers. -/
structure BinaryFormat where
  precision : Nat
  least : Int
  greatest : Int

namespace BinaryFormat

/-- Numbers of 32 bits. -/
def single : BinaryFormat := ⟨24, -149, 104⟩

/-- Numbers of 64 bits. -/
def double : BinaryFormat := ⟨53, -1074, 971⟩

/-- The exponent of the greatest power of two that is at most `num / den`. -/
def floorLog2 (num den : Nat) : Int :=
  let guess : Int := (num.log2 : Int) - den.log2
  if den * Nat.pow 2 guess.toNat ≤ num * Nat.pow 2 (-guess).toNat then guess else guess - 1

/-- The number of the format nearest to `num / den`, a tie going to the even mantissa; none when
that number is past the largest of the format. -/
def round (f : BinaryFormat) (num den : Nat) : Option Dyadic :=
  if num = 0 then some ⟨0, f.least⟩
  else
    let exponent := max (floorLog2 num den - (f.precision - 1)) f.least
    let mantissa := roundDiv (num * Nat.pow 2 (-exponent).toNat) (den * Nat.pow 2 exponent.toNat)
    let rounded : Dyadic :=
      if mantissa = Nat.pow 2 f.precision then ⟨Nat.pow 2 (f.precision - 1), exponent + 1⟩
      else ⟨mantissa, exponent⟩
    if f.greatest < rounded.exponent then none else some rounded

/-- The number of the format nearest to a dyadic number. -/
def ofDyadic (f : BinaryFormat) (d : Dyadic) : Option Dyadic := f.round d.num d.den

end BinaryFormat

end FrameExchange
