import FrameExchange.Header

/-!
# The header in memory

The bytes of a header, and the accesses that are made to them in place.

- `Header.codec` — the fields one after the other, 1408 bytes in all.
- `Memory.load`, `Memory.store` — the header at the front of a mapping, read and overwritten.
- `Memory.peekKey`, `Memory.peekAttached` — single fields, read without the rest.
- `Memory.raiseFence` — one more on the fence value of a slot.

The whole header is stored in two parts: first everything from the first reserved word on, then
one after the other the fields that are peeked at, the frame number last, so that whoever sees
the new frame number sees the rest of the frame too.
-/

namespace FrameExchange

namespace Header

/-- The fields in their order. -/
def codec : Codec Header :=
  (Codec.uint64.pair <| Codec.uint64.pair <| Codec.uint64.pair <| Codec.uint64.pair <|
    Codec.uint32.pair <| Codec.uint32.pair <| FrameConfig.codec.pair <| Codec.uint8.pair <|
    (Codec.uint8.vector 7).pair <| (Layer.codec.vector 16).pair <| Codec.uint32.pair <|
    Codec.uint32.pair <| Codec.uint64.pair <| Codec.uint64.pair <|
    Codec.uint64.vector 2).transport
    (fun (magic, gpu, frame, session, flags, reserved0, config, layerCount, reserved1, layerTable,
        feederPid, reserved2, texture, fence, fenceValues) =>
      { magic, gpu, frame, session, flags, reserved0, config, layerCount, reserved1, layerTable,
        feederPid, reserved2, texture, fence, fenceValues })
    (fun h => (h.magic, h.gpu, h.frame, h.session, h.flags, h.reserved0, h.config, h.layerCount,
      h.reserved1, h.layerTable, h.feederPid, h.reserved2, h.texture, h.fence, h.fenceValues))
    (fun _ => rfl) (fun _ => rfl)

/-- The length of a header in memory; it is part of a region's name. -/
def byteSize : Nat := 1408

theorem size_codec : codec.size = byteSize := rfl

/-! ## Offsets of the fields that are accessed in place -/

def magicOffset : Nat := 0x000

def gpuOffset : Nat := 0x008

def frameOffset : Nat := 0x010

def sessionOffset : Nat := 0x018

def flagsOffset : Nat := 0x020

/-- Everything from here on is only touched by whoever holds the lock. -/
def bodyOffset : Nat := 0x024

def feederPidOffset : Nat := 0x558

def fenceValuesOffset : Nat := 0x570

end Header

namespace Memory

/-- The word of eight bytes at an offset. -/
def word64 (memory : Bytes) (offset : Nat) : UInt64 := Codec.uint64.decode (memory.drop offset)

/-- The word of four bytes at an offset. -/
def word32 (memory : Bytes) (offset : Nat) : UInt32 := Codec.uint32.decode (memory.drop offset)

/-- Overwrite the word of eight bytes at an offset. -/
def setWord64 (memory : Bytes) (offset : Nat) (value : UInt64) : Bytes :=
  memory.patch offset (Codec.uint64.encode value)

/-- Overwrite the word of four bytes at an offset. -/
def setWord32 (memory : Bytes) (offset : Nat) (value : UInt32) : Bytes :=
  memory.patch offset (Codec.uint32.encode value)

/-- The header at the front of the memory. -/
@[irreducible] def load (memory : Bytes) : Header := Header.codec.decode memory

/-- Overwrite the header at the front of the memory: the body, and then one by one the fields
that are peeked at. Of the flags only the one with a meaning is stored. -/
@[irreducible] def store (memory : Bytes) (h : Header) : Bytes :=
  let body := memory.patch Header.bodyOffset ((Header.codec.encode h).drop Header.bodyOffset)
  let withMagic := setWord64 body Header.magicOffset h.magic
  let withGpu := setWord64 withMagic Header.gpuOffset h.gpu
  let withFlags := setWord32 withGpu Header.flagsOffset (h.flags &&& feederAttached)
  let withSession := setWord64 withFlags Header.sessionOffset h.session
  setWord64 withSession Header.frameOffset h.frame

/-- Session and frame number, read without the rest. -/
@[irreducible] def peekKey (memory : Bytes) : FrameKey :=
  ⟨word64 memory Header.sessionOffset, word64 memory Header.frameOffset⟩

/-- Whether the magic is right and the feeder flag set, read without the rest. -/
@[irreducible] def peekAttached (memory : Bytes) : Bool :=
  word64 memory Header.magicOffset == headerMagic &&
    word32 memory Header.flagsOffset &&& feederAttached != 0

/-- Where the fence value of `slot` lies. -/
def fenceOffset (slot : Slot) : Nat := Header.fenceValuesOffset + 8 * slot.val

/-- One more on the fence value of `slot`. -/
@[irreducible] def raiseFence (memory : Bytes) (slot : Slot) : Bytes :=
  setWord64 memory (fenceOffset slot) (word64 memory (fenceOffset slot) + 1)

end Memory

end FrameExchange
