import FrameExchange.Bytes

/-!
# Fixed-size codecs

A `Codec α` writes each `α` as the same count of bytes and reads any such byte string back. Its
laws say that the two directions are inverse to each other, so a codec is a bijection between
`α` and the byte strings of its size; building larger codecs out of smaller ones keeps the laws.

- `Codec.uint8`, `Codec.uint32`, `Codec.uint64` — little-endian words.
- `Codec.pair`, `Codec.vector` — one value after the other.
- `Codec.transport` — the same bytes, read as another type.
-/

namespace FrameExchange

/-- A bijection between `α` and the byte strings of length `size`. `decode` looks only at the
first `size` bytes of what it is given. -/
structure Codec (α : Type) where
  /-- How many bytes a value takes. -/
  size : Nat
  /-- The bytes of a value. -/
  encode : α → Bytes
  /-- The value at the front of a byte string. -/
  decode : Bytes → α
  length_encode : ∀ a, (encode a).length = size
  decode_append : ∀ a rest, decode (encode a ++ rest) = a
  encode_decode : ∀ bs, size ≤ bs.length → encode (decode bs) = bs.take size

namespace Codec

variable {α β : Type}

theorem decode_encode (c : Codec α) (a : α) : c.decode (c.encode a) = a := by
  simpa using c.decode_append a []

theorem encode_decode_of_length (c : Codec α) {bs : Bytes} (h : bs.length = c.size) :
    c.encode (c.decode bs) = bs := by
  rw [c.encode_decode bs (by omega), ← h, List.take_length]

/-! ## Words -/

/-- The words of `count` bytes, for a type that holds exactly those numbers. -/
def word (count : Nat) (toNat : α → Nat) (ofNat : Nat → α)
    (toNat_lt : ∀ a, toNat a < Bytes.capacity count) (ofNat_toNat : ∀ a, ofNat (toNat a) = a)
    (toNat_ofNat : ∀ n, n < Bytes.capacity count → toNat (ofNat n) = n) : Codec α where
  size := count
  encode a := Bytes.littleEndian count (toNat a)
  decode bs := ofNat (Bytes.ofLittleEndian (bs.take count))
  length_encode a := Bytes.length_littleEndian count (toNat a)
  decode_append a rest := by
    have hl : (Bytes.littleEndian count (toNat a)).length = count := by simp
    rw [List.take_append_of_le_length (by omega), List.take_of_length_le (by omega),
      Bytes.ofLittleEndian_littleEndian, Nat.mod_eq_of_lt (toNat_lt a), ofNat_toNat]
  encode_decode bs h := by
    have hl : (bs.take count).length = count := by rw [List.length_take]; omega
    have hlt := Bytes.ofLittleEndian_lt (bs.take count)
    rw [hl] at hlt
    rw [toNat_ofNat _ hlt]
    have := Bytes.littleEndian_ofLittleEndian (bs.take count)
    rwa [hl] at this

/-- One byte. -/
def uint8 : Codec UInt8 :=
  word 1 UInt8.toNat UInt8.ofNat (fun a => a.toNat_lt) (fun _ => UInt8.ofNat_toNat)
    (fun n h => UInt8.toNat_ofNat_of_lt' (by simpa [UInt8.size, Bytes.capacity] using h))

/-- Four bytes, lowest first. -/
def uint32 : Codec UInt32 :=
  word 4 UInt32.toNat UInt32.ofNat (fun a => a.toNat_lt) (fun _ => UInt32.ofNat_toNat)
    (fun n h => UInt32.toNat_ofNat_of_lt' (by simpa [UInt32.size, Bytes.capacity] using h))

/-- Eight bytes, lowest first. -/
def uint64 : Codec UInt64 :=
  word 8 UInt64.toNat UInt64.ofNat (fun a => a.toNat_lt) (fun _ => UInt64.ofNat_toNat)
    (fun n h => UInt64.toNat_ofNat_of_lt' (by simpa [UInt64.size, Bytes.capacity] using h))

/-! ## Composition -/

/-- One value, and then another. -/
def pair (c : Codec α) (d : Codec β) : Codec (α × β) where
  size := c.size + d.size
  encode p := c.encode p.1 ++ d.encode p.2
  decode bs := (c.decode bs, d.decode (bs.drop c.size))
  length_encode p := by simp [c.length_encode, d.length_encode]
  decode_append p rest := by
    have hdrop : ((c.encode p.1 ++ d.encode p.2) ++ rest).drop c.size = d.encode p.2 ++ rest := by
      rw [List.append_assoc, ← c.length_encode p.1, List.drop_left]
    rw [hdrop, d.decode_append, List.append_assoc, c.decode_append]
  encode_decode bs h := by
    rw [c.encode_decode bs (by omega), d.encode_decode (bs.drop c.size) (by simp; omega)]
    rw [List.take_add]

/-- The same bytes, with their values read as another type. -/
def transport (c : Codec α) (forth : α → β) (back : β → α) (forth_back : ∀ b, forth (back b) = b)
    (back_forth : ∀ a, back (forth a) = a) : Codec β where
  size := c.size
  encode b := c.encode (back b)
  decode bs := forth (c.decode bs)
  length_encode b := c.length_encode (back b)
  decode_append b rest := by rw [c.decode_append, forth_back]
  encode_decode bs h := by rw [back_forth, c.encode_decode bs h]

/-- The values at the front of a byte string, one after the other. -/
def decodeMany (c : Codec α) : Nat → Bytes → List α
  | 0, _ => []
  | n + 1, bs => c.decode bs :: decodeMany c n (bs.drop c.size)

@[simp] theorem length_decodeMany (c : Codec α) (n : Nat) (bs : Bytes) :
    (c.decodeMany n bs).length = n := by
  induction n generalizing bs with
  | zero => rfl
  | succ n ih => simp [decodeMany, ih]

theorem length_flatMap_encode (c : Codec α) (as : List α) :
    (as.flatMap c.encode).length = as.length * c.size := by
  induction as with
  | nil => simp
  | cons a rest ih =>
    simp only [List.flatMap_cons, List.length_append, ih, c.length_encode, List.length_cons,
      Nat.add_mul, Nat.one_mul]
    omega

theorem decodeMany_append (c : Codec α) (as : List α) (rest : Bytes) :
    c.decodeMany as.length (as.flatMap c.encode ++ rest) = as := by
  induction as with
  | nil => rfl
  | cons a tail ih =>
    have hdrop : (c.encode a ++ (tail.flatMap c.encode ++ rest)).drop c.size =
        tail.flatMap c.encode ++ rest := by
      rw [← c.length_encode a, List.drop_left]
    simp only [List.flatMap_cons, List.length_cons, decodeMany, List.append_assoc, hdrop, ih,
      c.decode_append]

theorem flatMap_decodeMany (c : Codec α) (n : Nat) (bs : Bytes) (h : n * c.size ≤ bs.length) :
    (c.decodeMany n bs).flatMap c.encode = bs.take (n * c.size) := by
  induction n generalizing bs with
  | zero => simp [decodeMany]
  | succ n ih =>
    have hmul : (n + 1) * c.size = c.size + n * c.size := by rw [Nat.add_mul]; omega
    have hrest : n * c.size ≤ (bs.drop c.size).length := by rw [List.length_drop]; omega
    rw [decodeMany, List.flatMap_cons, c.encode_decode bs (by omega), ih _ hrest, hmul,
      List.take_add]

/-- `n` values, one after the other. -/
def vector (c : Codec α) (n : Nat) : Codec (Vector α n) where
  size := n * c.size
  encode v := v.toList.flatMap c.encode
  decode bs := ⟨(c.decodeMany n bs).toArray, by simp⟩
  length_encode v := by rw [length_flatMap_encode, Vector.length_toList]
  decode_append v rest := by
    have := c.decodeMany_append v.toList rest
    rw [Vector.length_toList] at this
    apply Vector.toList_inj.mp
    simpa [Vector.toList] using this
  encode_decode bs h := by
    simpa [Vector.toList] using c.flatMap_decodeMany n bs h

end Codec

end FrameExchange
