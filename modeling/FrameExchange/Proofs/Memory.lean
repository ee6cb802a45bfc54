import FrameExchange.Header.Layout

/-!
# The header in memory, read back

Every access that is made to the header in place, said about the header itself. A mapping that is
long enough is the bytes of its header and then whatever lies behind it (`Memory.eq_encode_append`),
so each access is a change of one field.

- `Memory.load_store` — what was stored is read back, but for flags without a meaning; nothing of
  the old content is left.
- `Memory.load_raiseFence` — one more on one fence value, and nothing else.
- `Memory.peekKey_eq`, `Memory.peekAttached_eq` — the peeks say what the whole header says.
-/

namespace FrameExchange

namespace Bytes

/-- Patching replaces what stands at the offset by as many new bytes. -/
theorem patch_append (front old rest new : Bytes) (h : new.length = old.length) :
    patch (front ++ (old ++ rest)) front.length new = front ++ (new ++ rest) := by
  have htake : new.take ((front ++ (old ++ rest)).length - front.length) = new := by
    refine List.take_of_length_le ?_
    simp only [List.length_append]
    omega
  have hdrop : (front ++ (old ++ rest)).drop (front.length + new.length) = rest := by
    rw [h, ← List.drop_drop, List.drop_left, List.drop_left]
  rw [patch, htake, hdrop, List.take_left, List.append_assoc]

/-- `patch_append` for an offset that is written as a number. -/
theorem patch_at (front old rest new : Bytes) (offset : Nat) (hfront : front.length = offset)
    (hnew : new.length = old.length) :
    patch (front ++ (old ++ rest)) offset new = front ++ (new ++ rest) := by
  subst hfront
  exact patch_append front old rest new hnew

/-- Patching leaves the bytes that are not under the new ones. -/
theorem getElem?_patch_outside (bs : Bytes) {offset i : Nat} (new : Bytes)
    (houtside : i < offset ∨ offset + new.length ≤ i) : (bs.patch offset new)[i]? = bs[i]? := by
  by_cases hi : i < bs.length
  · rw [patch, List.append_assoc]
    rcases houtside with hbefore | hbehind
    · have hfront : i < (bs.take offset).length := by
        rw [List.length_take]
        omega
      rw [List.getElem?_append_left hfront, List.getElem?_take_of_lt hbefore]
    · have hlength : (bs.take offset ++ new.take (bs.length - offset)).length =
          offset + new.length := by
        simp only [List.length_append, List.length_take]
        omega
      rw [← List.append_assoc, List.getElem?_append_right (by omega), hlength, List.getElem?_drop]
      congr 1
      omega
  · have hend : bs.length ≤ i := Nat.not_lt.mp hi
    rw [List.getElem?_eq_none hend, List.getElem?_eq_none (by rw [length_patch]; exact hend)]

end Bytes

namespace Codec

@[simp] theorem length_encode_uint32 (v : UInt32) : (uint32.encode v).length = 4 :=
  uint32.length_encode v

@[simp] theorem length_encode_uint64 (v : UInt64) : (uint64.encode v).length = 8 :=
  uint64.length_encode v

end Codec

namespace Header

/-! ## The parts of a header -/

/-- The words that are peeked at, with whatever else is stored one by one. -/
def words (h : Header) : Bytes :=
  Codec.uint64.encode h.magic ++ (Codec.uint64.encode h.gpu ++ (Codec.uint64.encode h.frame ++
    (Codec.uint64.encode h.session ++ Codec.uint32.encode h.flags)))

/-- The bytes from the first reserved word to the handles of the frame. -/
def middle (h : Header) : Bytes :=
  Codec.uint32.encode h.reserved0 ++ (FrameConfig.codec.encode h.config ++
    (Codec.uint8.encode h.layerCount ++ ((Codec.uint8.vector 7).encode h.reserved1 ++
    ((Layer.codec.vector 16).encode h.layerTable ++ (Codec.uint32.encode h.feederPid ++
    (Codec.uint32.encode h.reserved2 ++ (Codec.uint64.encode h.texture ++
    Codec.uint64.encode h.fence)))))))

/-- The two fence values, one after the other. -/
def tail (h : Header) : Bytes :=
  Codec.uint64.encode (h.fenceValue 0) ++ Codec.uint64.encode (h.fenceValue 1)

theorem length_words (h : Header) : h.words.length = bodyOffset := by
  simp only [words, List.length_append, Codec.length_encode]
  rfl

theorem length_middle (h : Header) : h.middle.length = 1356 := by
  simp only [middle, List.length_append, Codec.length_encode]
  rfl

theorem length_tail (h : Header) : h.tail.length = 16 := by
  simp only [tail, List.length_append, Codec.length_encode]
  rfl

theorem encode_fenceValues (h : Header) :
    (Codec.uint64.vector 2).encode h.fenceValues = h.tail := by
  show h.fenceValues.toList.flatMap Codec.uint64.encode = _
  rw [tail, fenceValue, fenceValue]
  generalize h.fenceValues = values
  obtain ⟨⟨list⟩, hsize⟩ := values
  match list, hsize with
  | [a, b], _ => simp [Vector.toList]

/-- A header in memory is the words that are stored one by one, then the rest of the frame, then
the fence values. -/
theorem encode_eq (h : Header) : codec.encode h = h.words ++ (h.middle ++ h.tail) := by
  rw [← encode_fenceValues]
  simp only [words, middle, List.append_assoc]
  rfl

theorem drop_bodyOffset (h : Header) : (codec.encode h).drop bodyOffset = h.middle ++ h.tail := by
  rw [encode_eq, List.drop_left' h.length_words]

/-- The header with one more on the fence value of a slot. -/
def raise (h : Header) (slot : Slot) : Header :=
  { h with fenceValues := h.fenceValues.set slot (h.fenceValue slot + 1) slot.lt }

theorem fenceValue_raise (h : Header) (slot other : Slot) :
    (h.raise slot).fenceValue other =
      if slot = other then h.fenceValue slot + 1 else h.fenceValue other := by
  simp only [raise, fenceValue, Fin.getElem_fin, Vector.getElem_set, Fin.ext_iff]

theorem words_raise (h : Header) (slot : Slot) : (h.raise slot).words = h.words := rfl

theorem middle_raise (h : Header) (slot : Slot) : (h.raise slot).middle = h.middle := rfl

end Header

namespace Memory

/-! ## Words in place -/

theorem word64_at (front rest : Bytes) (offset : Nat) (v : UInt64)
    (hfront : front.length = offset) :
    word64 (front ++ (Codec.uint64.encode v ++ rest)) offset = v := by
  subst hfront
  rw [word64, List.drop_left, Codec.decode_append]

theorem setWord64_at (front old rest : Bytes) (offset : Nat) (v : UInt64)
    (hfront : front.length = offset) (hold : old.length = 8) :
    setWord64 (front ++ (old ++ rest)) offset v =
      front ++ (Codec.uint64.encode v ++ rest) :=
  Bytes.patch_at front old rest _ offset hfront (by rw [hold, Codec.length_encode_uint64])

theorem setWord32_at (front old rest : Bytes) (offset : Nat) (v : UInt32)
    (hfront : front.length = offset) (hold : old.length = 4) :
    setWord32 (front ++ (old ++ rest)) offset v =
      front ++ (Codec.uint32.encode v ++ rest) :=
  Bytes.patch_at front old rest _ offset hfront (by rw [hold, Codec.length_encode_uint32])

@[simp] theorem length_store (memory : Bytes) (h : Header) :
    (store memory h).length = memory.length := by
  simp only [store, setWord64, setWord32, Bytes.length_patch]

@[simp] theorem length_raiseFence (memory : Bytes) (slot : Slot) :
    (raiseFence memory slot).length = memory.length := by
  simp only [raiseFence, setWord64, Bytes.length_patch]

/-! ## The whole header -/

/-- A mapping is its header and what lies behind it. -/
theorem eq_encode_append {memory : Bytes} (hlen : Header.byteSize ≤ memory.length) :
    memory = Header.codec.encode (load memory) ++ memory.drop Header.byteSize := by
  have hsize : Header.codec.encode (load memory) = memory.take Header.byteSize := by
    rw [load]
    exact Header.codec.encode_decode memory hlen
  rw [hsize, List.take_append_drop]

/-- The header that the bytes of a header begin with. -/
theorem load_encode_append (h : Header) (rest : Bytes) :
    load (Header.codec.encode h ++ rest) = h := by
  rw [load]
  exact Header.codec.decode_append h rest

/-- The header as it is stored: flags without a meaning are cleared. -/
def stored (h : Header) : Header := { h with flags := h.flags &&& feederAttached }

/-- Storing a header over the five words that are peeked at, a body and what lies behind it. -/
theorem store_parts (magic gpu frame session flags body rest : Bytes) (h : Header)
    (hmagic : magic.length = 8) (hgpu : gpu.length = 8) (hframe : frame.length = 8)
    (hsession : session.length = 8) (hflags : flags.length = 4) (hbody : body.length = 1372) :
    store (magic ++ (gpu ++ (frame ++ (session ++ (flags ++ (body ++ rest)))))) h =
      Header.codec.encode (stored h) ++ rest := by
  -- the stores in their order, each with what stands before it at that time
  have hstore₀ := Bytes.patch_at (magic ++ gpu ++ frame ++ session ++ flags) body rest
    (h.middle ++ h.tail) Header.bodyOffset
    (by simp only [List.length_append, hmagic, hgpu, hframe, hsession, hflags]; rfl)
    (by simp only [List.length_append, Header.length_middle, Header.length_tail, hbody])
  have hstore₁ (r : Bytes) :
      setWord64 (magic ++ r) Header.magicOffset h.magic = Codec.uint64.encode h.magic ++ r :=
    setWord64_at [] magic r _ h.magic rfl hmagic
  have hstore₂ (r : Bytes) := setWord64_at (Codec.uint64.encode h.magic) gpu r
    Header.gpuOffset h.gpu (by simp only [Codec.length_encode_uint64]; rfl) hgpu
  have hstore₃ (r : Bytes) := setWord32_at
    (Codec.uint64.encode h.magic ++ Codec.uint64.encode h.gpu ++ frame ++ session) flags r
    Header.flagsOffset (h.flags &&& feederAttached)
    (by simp only [List.length_append, Codec.length_encode_uint64, hframe, hsession]; rfl) hflags
  have hstore₄ (r : Bytes) := setWord64_at
    (Codec.uint64.encode h.magic ++ Codec.uint64.encode h.gpu ++ frame) session r
    Header.sessionOffset h.session
    (by simp only [List.length_append, Codec.length_encode_uint64, hframe]; rfl) hsession
  have hstore₅ (r : Bytes) := setWord64_at
    (Codec.uint64.encode h.magic ++ Codec.uint64.encode h.gpu) frame r
    Header.frameOffset h.frame
    (by simp only [List.length_append, Codec.length_encode_uint64]; rfl) hframe
  rw [Header.encode_eq, Header.words]
  simp only [List.append_assoc] at hstore₀ hstore₃ hstore₄ hstore₅ ⊢
  rw [store, Header.drop_bodyOffset, hstore₀, hstore₁, hstore₂, hstore₃, hstore₄, hstore₅]
  rfl

/-- Storing a header leaves nothing of the old one. -/
theorem store_eq {memory : Bytes} (h : Header) (hlen : Header.byteSize ≤ memory.length) :
    store memory h = Header.codec.encode (stored h) ++ memory.drop Header.byteSize := by
  -- what is overwritten is some header, whatever the bytes mean
  have hparts := eq_encode_append hlen
  generalize load memory = old at hparts
  generalize memory.drop Header.byteSize = rest at hparts ⊢
  have hold : memory = Codec.uint64.encode old.magic ++ (Codec.uint64.encode old.gpu ++
      (Codec.uint64.encode old.frame ++ (Codec.uint64.encode old.session ++
      (Codec.uint32.encode old.flags ++ ((old.middle ++ old.tail) ++ rest))))) := by
    rw [hparts, Header.encode_eq, Header.words]
    simp only [List.append_assoc]
  rw [hold]
  exact store_parts _ _ _ _ _ _ rest h (Codec.length_encode_uint64 _)
    (Codec.length_encode_uint64 _) (Codec.length_encode_uint64 _) (Codec.length_encode_uint64 _)
    (Codec.length_encode_uint32 _)
    (by rw [List.length_append, Header.length_middle, Header.length_tail])

/-- What was stored is read back, its unknown flags cleared. -/
theorem load_store {memory : Bytes} (h : Header) (hlen : Header.byteSize ≤ memory.length) :
    load (store memory h) = stored h := by
  rw [store_eq h hlen, load_encode_append]

/-! ## Single fields -/

/-- The key that is peeked at is the key of the header, whatever the bytes are. -/
theorem peekKey_eq (memory : Bytes) : peekKey memory = (load memory).key := by
  rw [peekKey, load]
  -- the fields that come before are passed over one by one
  show FrameKey.mk (Codec.uint64.decode (memory.drop 24)) (Codec.uint64.decode (memory.drop 16)) =
    ⟨Codec.uint64.decode (((memory.drop 8).drop 8).drop 8),
      Codec.uint64.decode ((memory.drop 8).drop 8)⟩
  simp only [List.drop_drop]

/-- The peek at magic and flag says whether the header has a feeder, whatever the bytes are. -/
theorem peekAttached_eq (memory : Bytes) : peekAttached memory = (load memory).hasFeeder := by
  rw [peekAttached, load]
  show (Codec.uint64.decode memory == headerMagic &&
      Codec.uint32.decode (memory.drop 32) &&& feederAttached != 0) =
    (Codec.uint64.decode memory == headerMagic &&
      Codec.uint32.decode ((((memory.drop 8).drop 8).drop 8).drop 8) &&& feederAttached != 0)
  simp only [List.drop_drop]

/-- The fence values of a header lie one after the other at their offsets. -/
theorem encode_eq_fences (h : Header) (rest : Bytes) :
    Header.codec.encode h ++ rest = (h.words ++ h.middle) ++
      (Codec.uint64.encode (h.fenceValue 0) ++
        (Codec.uint64.encode (h.fenceValue 1) ++ rest)) := by
  rw [Header.encode_eq, Header.tail]
  simp only [List.append_assoc]

theorem length_words_middle (h : Header) :
    (h.words ++ h.middle).length = Header.fenceValuesOffset := by
  rw [List.length_append, Header.length_words, Header.length_middle]
  rfl

/-- Raising a fence value in memory raises it in the header, and changes nothing else. -/
theorem load_raiseFence {memory : Bytes} (slot : Slot) (hlen : Header.byteSize ≤ memory.length) :
    load (raiseFence memory slot) = (load memory).raise slot := by
  have hparts := eq_encode_append hlen
  generalize load memory = h at hparts ⊢
  generalize memory.drop Header.byteSize = rest at hparts
  rw [encode_eq_fences] at hparts
  rw [hparts, ← load_encode_append (h.raise slot) rest, encode_eq_fences (h.raise slot),
    Header.words_raise, Header.middle_raise, Header.fenceValue_raise, Header.fenceValue_raise]
  have hfront := length_words_middle h
  -- the word of the slot is the first or the second of the two at the end
  match slot with
  | 0 =>
    rw [raiseFence, word64_at _ _ (fenceOffset 0) _ hfront,
      setWord64_at _ _ _ (fenceOffset 0) _ hfront (Codec.length_encode_uint64 _), if_pos rfl,
      if_neg (by decide)]
  | 1 =>
    have hfirst : ((h.words ++ h.middle) ++ Codec.uint64.encode (h.fenceValue 0)).length =
        fenceOffset 1 := by
      rw [List.length_append, hfront, Codec.length_encode_uint64]
      rfl
    rw [← List.append_assoc (h.words ++ h.middle), raiseFence,
      word64_at _ _ (fenceOffset 1) _ hfirst,
      setWord64_at _ _ _ (fenceOffset 1) _ hfirst (Codec.length_encode_uint64 _),
      List.append_assoc (h.words ++ h.middle), if_pos rfl, if_neg (by decide)]

end Memory

end FrameExchange
