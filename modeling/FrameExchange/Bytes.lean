/-!
# Byte strings

Byte strings as lists, the little-endian words in them, and writing into the middle of one.

- `Bytes.littleEndian`, `Bytes.ofLittleEndian` — a number as a fixed count of bytes, lowest byte
  first, and back.
- `Bytes.patch` — replace the bytes from an offset on; the length never changes.
- `Bytes.hex` — two lowercase hexadecimal digits a byte.
-/

namespace FrameExchange

/-- A string of bytes. -/
abbrev Bytes := List UInt8

namespace Bytes

/-! ## Little-endian numbers -/

/-- The `count` lowest bytes of `value`, lowest first. -/
def littleEndian : Nat → Nat → Bytes
  | 0, _ => []
  | count + 1, value => UInt8.ofNat value :: littleEndian count (value / 256)

/-- The number whose bytes these are, lowest first. -/
def ofLittleEndian : Bytes → Nat
  | [] => 0
  | b :: rest => b.toNat + 256 * ofLittleEndian rest

/-- How many numbers fit into `count` bytes. -/
def capacity : Nat → Nat
  | 0 => 1
  | count + 1 => 256 * capacity count

@[simp] theorem length_littleEndian (count value : Nat) :
    (littleEndian count value).length = count := by
  induction count generalizing value with
  | zero => rfl
  | succ count ih => simp [littleEndian, ih]

/-- Each byte is the next eight bits of the number. -/
theorem getElem?_littleEndian {count k : Nat} (value : Nat) (h : k < count) :
    (littleEndian count value)[k]? = some (UInt8.ofNat (value >>> (8 * k))) := by
  induction count generalizing k value with
  | zero => omega
  | succ count ih =>
    cases k with
    | zero => simp [littleEndian]
    | succ k =>
      have hshift : value / 256 = value >>> 8 := (Nat.shiftRight_eq_div_pow value 8).symm
      rw [littleEndian, List.getElem?_cons_succ, ih _ (by omega), hshift, ← Nat.shiftRight_add,
        Nat.mul_succ, Nat.add_comm]

/-- Reading back what was written gives the number, less what its bytes cannot hold. -/
theorem ofLittleEndian_littleEndian (count value : Nat) :
    ofLittleEndian (littleEndian count value) = value % capacity count := by
  induction count generalizing value with
  | zero => simp [littleEndian, ofLittleEndian, capacity, Nat.mod_one]
  | succ count ih =>
    have low : (UInt8.ofNat value).toNat = value % 256 := UInt8.toNat_ofNat'
    rw [littleEndian, ofLittleEndian, ih, low, capacity, Nat.mod_mul]

/-- Every byte string of the right length is the encoding of the number it reads as. -/
theorem littleEndian_ofLittleEndian (bs : Bytes) :
    littleEndian bs.length (ofLittleEndian bs) = bs := by
  induction bs with
  | nil => rfl
  | cons b rest ih =>
    have hb : b.toNat < 256 := b.toNat_lt
    have hdiv : (b.toNat + 256 * ofLittleEndian rest) / 256 = ofLittleEndian rest := by omega
    have hmod : UInt8.ofNat (b.toNat + 256 * ofLittleEndian rest) = b := by
      have low : (UInt8.ofNat (b.toNat + 256 * ofLittleEndian rest)).toNat =
          (b.toNat + 256 * ofLittleEndian rest) % 256 := UInt8.toNat_ofNat'
      exact UInt8.toNat_inj.mp (by omega)
    simp only [List.length_cons, littleEndian, ofLittleEndian, hdiv, hmod, ih]

/-- A byte string reads as a number that fits into its length. -/
theorem ofLittleEndian_lt (bs : Bytes) : ofLittleEndian bs < capacity bs.length := by
  induction bs with
  | nil => simp [ofLittleEndian, capacity]
  | cons b rest ih =>
    have hb : b.toNat < 256 := b.toNat_lt
    simp only [ofLittleEndian, List.length_cons, capacity]
    omega

/-! ## Writing in place -/

/-- `bs` with the bytes from `offset` on replaced by `new`; what would run past the end is
dropped. -/
def patch (bs : Bytes) (offset : Nat) (new : Bytes) : Bytes :=
  bs.take offset ++ new.take (bs.length - offset) ++ bs.drop (offset + new.length)

@[simp] theorem length_patch (bs : Bytes) (offset : Nat) (new : Bytes) :
    (bs.patch offset new).length = bs.length := by
  simp only [patch, List.length_append, List.length_take, List.length_drop]
  omega

/-- `count` zero bytes. -/
def zeros (count : Nat) : Bytes := List.replicate count 0

/-- `bs`, with zero bytes added at the end until it is `size` long. -/
def extend (bs : Bytes) (size : Nat) : Bytes := bs ++ zeros (size - bs.length)

/-! ## Hexadecimal -/

/-- The lowercase hexadecimal digits of `value`, at least `width` of them. -/
def hexNumber (width value : Nat) : String :=
  let digits := Nat.toDigits 16 value
  String.ofList (List.replicate (width - digits.length) '0' ++ digits)

/-- Two lowercase hexadecimal digits for each byte. -/
def hex (bs : Bytes) : String :=
  String.join (bs.map fun b => hexNumber 2 b.toNat)

end Bytes

end FrameExchange
