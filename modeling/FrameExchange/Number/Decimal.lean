import FrameExchange.Number.Binary

/-!
# Decimal text

The decimal digits of binary numbers, and how they are laid out.

- `shortestDigits` — the fewest digits that read back as the same number of a binary format, and
  of those the nearest.
- `DecimalStyle.render` — digits in positional or in scientific notation.
- `fixedPlaces` — a fixed count of places after the point, rounded exactly.
-/

namespace FrameExchange

/-- The number `d.ddd * 10 ^ exponent` with these significant digits, the point after the first
of them. -/
structure Digits where
  digits : List Char
  exponent : Int
  deriving DecidableEq, Repr

/-! ## The fewest digits that read back -/

/-- The exponent of the greatest power of ten that is at most `num / den`. -/
def floorLog10 (num den : Nat) : Int :=
  if den ≤ num then ((Nat.toDigits 10 (num / den)).length : Int) - 1
  else
    let places := (Nat.toDigits 10 (den / num)).length
    if den ≤ num * Nat.pow 10 (places - 1) then -((places : Int) - 1) else -(places : Int)

/-- The numbers that round to a mantissa: the fractions over `scale` between `low` and `high`,
the ends included when `closed`. -/
structure Rounding where
  low : Nat
  value : Nat
  high : Nat
  scale : Nat
  closed : Bool

namespace Rounding

/-- What rounds to `d` in a format. Below a power of two the neighbours are twice as dense. -/
def ofDyadic (f : BinaryFormat) (d : Dyadic) : Rounding :=
  let unit := Nat.pow 2 (d.exponent - 2).toNat
  let scale := Nat.pow 2 (2 - d.exponent).toNat
  let below := if d.mantissa = Nat.pow 2 (f.precision - 1) ∧ f.least < d.exponent then 1 else 2
  { low := (4 * d.mantissa - below) * unit
    value := 4 * d.mantissa * unit
    high := (4 * d.mantissa + 2) * unit
    scale := scale
    closed := d.mantissa % 2 == 0 }

/-- Whether `num / den` rounds to the mantissa. -/
def holds (r : Rounding) (num den : Nat) : Bool :=
  let x := num * r.scale
  if r.closed then decide (r.low * den ≤ x ∧ x ≤ r.high * den)
  else decide (r.low * den < x ∧ x < r.high * den)

/-- The multiple of `10 ^ place` that rounds to the mantissa and is nearest to its value, if the
value has such a neighbour on that grid. -/
def onGrid (r : Rounding) (place : Int) : Option Nat :=
  let up := Nat.pow 10 place.toNat
  let down := Nat.pow 10 (-place).toNat
  let floor := r.value * down / (r.scale * up)
  let below := r.holds (floor * up) down
  let above := r.holds ((floor + 1) * up) down
  match below, above with
  | true, true => some (roundDiv (r.value * down) (r.scale * up))
  | true, false => some floor
  | false, true => some (floor + 1)
  | false, false => none

/-- The first grid with a hit, from the coarsest on; past the last the value's own digits. -/
def search (r : Rounding) (leading : Int) : Nat → Nat → Nat × Int
  | 0, count =>
    let place := leading - count
    (r.value * Nat.pow 10 (-place).toNat / (r.scale * Nat.pow 10 place.toNat), place)
  | tries + 1, count =>
    match r.onGrid (leading - count) with
    | some n => (n, leading - count)
    | none => search r leading tries (count + 1)

end Rounding

/-- The digits of `n * 10 ^ place`, without zeros at the end. -/
def Digits.ofNat (n : Nat) (place : Int) : Digits :=
  let all := Nat.toDigits 10 n
  let kept := (all.reverse.dropWhile (· == '0')).reverse
  { digits := if kept.isEmpty then ['0'] else kept
    exponent := place + (all.length - 1) }

/-- The fewest significant digits that read back as `d`, and of those the nearest. A number of a
format has at most `precision / 3 + 1` of them. -/
def shortestDigits (f : BinaryFormat) (d : Dyadic) : Digits :=
  if d.mantissa = 0 then ⟨['0'], 0⟩
  else
    let found := (Rounding.ofDyadic f d).search (floorLog10 d.num d.den) (f.precision / 3 + 1) 0
    Digits.ofNat found.1 found.2

/-! ## Notation -/

/-- Which exponents are written positionally, and the signs that mark the others. -/
structure DecimalStyle where
  leastPositional : Int
  greatestPositional : Int
  positiveMark : String
  negativeMark : String

/-- Digits in positional notation when their exponent allows it, with at least one place after
the point; else one digit, a point if more follow, and the exponent. -/
def DecimalStyle.render (style : DecimalStyle) (d : Digits) : String :=
  let count := d.digits.length
  if style.leastPositional ≤ d.exponent ∧ d.exponent ≤ style.greatestPositional then
    if d.exponent < 0 then
      "0." ++ String.ofList (List.replicate (-d.exponent - 1).toNat '0' ++ d.digits)
    else
      let whole := d.exponent.toNat + 1
      if count ≤ whole then
        String.ofList (d.digits ++ List.replicate (whole - count) '0') ++ ".0"
      else
        String.ofList (d.digits.take whole) ++ "." ++ String.ofList (d.digits.drop whole)
  else
    let mantissa :=
      match d.digits with
      | first :: next :: rest => String.ofList (first :: '.' :: next :: rest)
      | short => String.ofList short
    let mark := if d.exponent < 0 then style.negativeMark else style.positiveMark
    mantissa ++ mark ++ toString d.exponent.natAbs

/-- `num / den` with `places` digits after the point, to the nearest; a tie goes to the even
last digit. -/
def fixedPlaces (places num den : Nat) : String :=
  let scaled := roundDiv (num * Nat.pow 10 places) den
  let fraction := Nat.toDigits 10 (scaled % Nat.pow 10 places)
  toString (scaled / Nat.pow 10 places) ++ "." ++
    String.ofList (List.replicate (places - fraction.length) '0' ++ fraction)

end FrameExchange
