import FrameExchange.Number.Decimal
import FrameExchange.Bytes.Codec

/-!
# Numbers of 32 bits

A `Single` is a floating-point number kept as its bits, so that every bit pattern, NaN payloads
included, passes through unchanged.

- `Single.magnitude` — what the bits say, the sign apart.
- `Single.agrees` — equality of numbers: a NaN differs from itself, and the two zeros are equal.
- `Single.text`, `Single.fixed` — as JSON text, and with a fixed count of places.
-/

namespace FrameExchange

/-- A floating-point number of 32 bits, as its bits. -/
structure Single where
  bits : UInt32
  deriving DecidableEq, Repr, Inhabited

/-- What a number is, its sign apart. -/
inductive Magnitude where
  | finite (value : Dyadic)
  | infinite
  | nan
  deriving DecidableEq, Repr

namespace Single

/-- Four bytes, lowest first. -/
def codec : Codec Single :=
  Codec.uint32.transport Single.mk Single.bits (fun _ => rfl) (fun _ => rfl)

def zero : Single := ⟨0⟩

def one : Single := ⟨0x3f800000⟩

def two : Single := ⟨0x40000000⟩

/-- The bit of the sign, as a number. -/
def signUnit : Nat := 0x80000000

/-- The lowest bit of the exponent, as a number. -/
def exponentUnit : Nat := 0x800000

/-- Whether the sign bit is set. -/
def negative (s : Single) : Bool := decide (signUnit ≤ s.bits.toNat)

/-- What the bits below the sign say. -/
def magnitude (s : Single) : Magnitude :=
  let rest := s.bits.toNat % signUnit
  let fraction := rest % exponentUnit
  match rest / exponentUnit with
  | 0 => .finite ⟨fraction, -149⟩
  | 255 => if fraction = 0 then .infinite else .nan
  | field => .finite ⟨exponentUnit + fraction, field - 150⟩

/-- The number with this sign nearest to a dyadic one that was rounded to the format; infinity
where there is none. -/
def ofRounded (negative : Bool) (value : Option Dyadic) : Single :=
  let magnitude : Nat :=
    match value with
    | some d => (d.exponent + 149).toNat * exponentUnit + d.mantissa
    | none => 255 * exponentUnit
  ⟨UInt32.ofNat ((if negative then signUnit else 0) + magnitude)⟩

/-- Equality of numbers. A NaN differs from every number, and the two zeros are equal. -/
def agrees (a b : Single) : Bool :=
  match a.magnitude, b.magnitude with
  | .nan, _ => false
  | _, .nan => false
  | .finite x, .finite y =>
    if x.mantissa = 0 ∧ y.mantissa = 0 then true else a.bits == b.bits
  | _, _ => a.bits == b.bits

/-- Exponents from -6 to 12 are positional, and every other exponent carries its sign. -/
def style : DecimalStyle := ⟨-6, 12, "e+", "e-"⟩

/-- The shortest text that reads back as the number; none for infinities and NaNs. -/
def text (s : Single) : Option String :=
  match s.magnitude with
  | .finite value =>
    some ((if s.negative then "-" else "") ++ style.render (shortestDigits .single value))
  | .infinite => none
  | .nan => none

/-- The number with `places` digits after the point, rounded exactly. -/
def fixed (places : Nat) (s : Single) : String :=
  let sign := if s.negative then "-" else ""
  match s.magnitude with
  | .finite value => sign ++ fixedPlaces places value.num value.den
  | .infinite => sign ++ "inf"
  | .nan => "NaN"

end Single

end FrameExchange
