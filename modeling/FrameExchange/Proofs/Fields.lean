import Mathlib.Logic.ExistsUnique
import Mathlib.Logic.Function.Basic
import FrameExchange.Proofs.Memory

/-!
# The fields of a header in its bytes

A header is 333 scalars, and each of them has its own place among the 1408 bytes. The places are
written down here as the numbers other processes are built with, apart from the codec that puts
the fields one after the other, and the two are proved to agree.

- `Codec.Holds` — the bytes of a value contain those of one of its parts, at an offset; one lemma
  for each way to build a codec.
- `Header.Field` — the scalars of a header, each with its offset and its value.
- `Header.Field.covers_unique` — every byte belongs to one field, because each field begins where
  the one before it ends (`Header.Field.Tiles`).
- `Header.Field.byte_encode` — the lowest bits of a field come first.
- `Header.wireFormat` — the bytes of a header are its fields, each in its own place.
-/

namespace FrameExchange

namespace Codec

variable {α β γ : Type}

/-! ## Parts of a value -/

/-- The bytes of `a` contain those of `b`, from `offset` on. -/
def Holds (c : Codec α) (a : α) (offset : Nat) (d : Codec β) (b : β) : Prop :=
  ∃ front rest, c.encode a = front ++ (d.encode b ++ rest) ∧ front.length = offset

namespace Holds

variable {c : Codec α} {d : Codec β} {e : Codec γ} {a : α} {b : β} {x : γ}
  {total offset inner : Nat}

theorem self : c.Holds a 0 c a :=
  ⟨[], [], by simp, rfl⟩

/-- What the first of two values holds stays where it is. -/
theorem front (h : c.Holds a offset d b) : (c.pair e).Holds (a, x) offset d b := by
  obtain ⟨before, rest, hbytes, hlength⟩ := h
  refine ⟨before, rest ++ e.encode x, ?_, hlength⟩
  show c.encode a ++ e.encode x = _
  rw [hbytes]
  simp only [List.append_assoc]

/-- What the second of two values holds moves by the size of the first. -/
theorem back (h : c.Holds a inner d b) (hoffset : offset = e.size + inner := by rfl) :
    (e.pair c).Holds (x, a) offset d b := by
  obtain ⟨before, rest, hbytes, hlength⟩ := h
  refine ⟨e.encode x ++ before, rest, ?_, ?_⟩
  · show e.encode x ++ c.encode a = _
    rw [hbytes, List.append_assoc]
  · rw [List.length_append, e.length_encode, hlength, hoffset]

theorem transport {forth : α → γ} {back : γ → α} {forth_back : ∀ y, forth (back y) = y}
    {back_forth : ∀ a, back (forth a) = a} (h : c.Holds (back x) offset d b) :
    (c.transport forth back forth_back back_forth).Holds x offset d b := h

/-- Each of several values lies as far in as the ones before it take. -/
theorem element {n : Nat} (v : Vector α n) (i : Fin n) (hoffset : offset = i * c.size := by rfl) :
    (c.vector n).Holds v offset c (v.get i) := by
  have hi : i.val < v.toList.length := by simp
  have hsplit : v.toList = v.toList.take i ++ v.get i :: v.toList.drop (i + 1) := by
    have hget : v.toList[i.val] = v.get i := Vector.getElem_toList _
    rw [← hget, List.getElem_cons_drop, List.take_append_drop]
  refine ⟨(v.toList.take i).flatMap c.encode, (v.toList.drop (i + 1)).flatMap c.encode, ?_, ?_⟩
  · show v.toList.flatMap c.encode = _
    conv => lhs; rw [hsplit]
    rw [List.flatMap_append, List.flatMap_cons]
  · rw [length_flatMap_encode, List.length_take, Nat.min_eq_left (by omega), hoffset]

/-- A part of a part. -/
theorem trans (h : c.Holds a offset d b) (hpart : d.Holds b inner e x)
    (htotal : total = offset + inner := by rfl) : c.Holds a total e x := by
  obtain ⟨before, rest, hbytes, hlength⟩ := h
  obtain ⟨before', rest', hbytes', hlength'⟩ := hpart
  refine ⟨before ++ before', rest' ++ rest, ?_, ?_⟩
  · rw [hbytes, hbytes']
    simp only [List.append_assoc]
  · rw [List.length_append, hlength, hlength', htotal]

/-! ### Reading a part -/

/-- Reading at the offset gives the part. -/
theorem decode (h : c.Holds a offset d b) : d.decode ((c.encode a).drop offset) = b := by
  obtain ⟨before, rest, hbytes, hlength⟩ := h
  rw [hbytes, List.drop_left' hlength, d.decode_append]

end Holds

/-- Only the bytes of a value count when it is read. -/
theorem decode_take (c : Codec α) {bs : Bytes} (h : c.size ≤ bs.length) :
    c.decode (bs.take c.size) = c.decode bs := by
  rw [← c.encode_decode bs h, c.decode_encode]

end Codec

/-! ## Scalars -/

/-- What a field is made of. -/
inductive Scalar where
  | byte
  | word32
  | word64
  | single
  deriving DecidableEq, Repr

namespace Scalar

/-- The values of a scalar; a number with a point is its bits. -/
def Value : Scalar → Type
  | byte => UInt8
  | word32 => UInt32
  | word64 => UInt64
  | single => Single

/-- The bytes of a scalar, lowest first. -/
def codec : (s : Scalar) → Codec s.Value
  | byte => Codec.uint8
  | word32 => Codec.uint32
  | word64 => Codec.uint64
  | single => Single.codec

/-- How many bytes a scalar takes. -/
def size : Scalar → Nat
  | byte => 1
  | word32 => 4
  | word64 => 8
  | single => 4

/-- The number whose bits are those of a scalar. -/
def toNat : (s : Scalar) → s.Value → Nat
  | byte, v => UInt8.toNat v
  | word32, v => UInt32.toNat v
  | word64, v => UInt64.toNat v
  | single, v => UInt32.toNat (Single.bits v)

theorem size_codec (s : Scalar) : s.codec.size = s.size := by
  cases s <;> rfl

theorem encode_codec (s : Scalar) (v : s.Value) :
    s.codec.encode v = Bytes.littleEndian s.size (s.toNat v) := by
  cases s <;> rfl

/-- The lowest eight bits of a scalar are its first byte, the next eight the second. -/
theorem byte_codec (s : Scalar) (v : s.Value) {k : Nat} (hk : k < s.size) :
    ∃ b, (s.codec.encode v)[k]? = some b ∧
      ∀ bit, bit < 8 → b.toNat.testBit bit = (s.toNat v).testBit (8 * k + bit) := by
  refine ⟨_, by rw [encode_codec, Bytes.getElem?_littleEndian _ hk], fun bit hbit => ?_⟩
  rw [UInt8.toNat_ofNat', Nat.testBit_mod_two_pow, Nat.testBit_shiftRight]
  simp [hbit]

theorem size_pos (s : Scalar) : 0 < s.size := by
  cases s <;> decide

end Scalar

/-! ## Layers -/

/-- The scalars of a layer. -/
inductive Layer.Field where
  | id
  | flags
  | opacity
  | left
  | top
  | width
  | height
  | poseX
  | poseY
  | poseZ
  | poseRx
  | poseRy
  | poseRz
  | vrWidth
  | vrHeight
  | zoomScale
  | gazeTargetScale
  | opacityNormal
  | opacityGaze
  deriving DecidableEq, Repr

namespace Layer.Field

def scalar : Layer.Field → Scalar
  | id => .word64
  | flags | left | top | width | height => .word32
  | _ => .single

/-- Where the field begins in a layer. -/
def offset : Layer.Field → Nat
  | id => 0
  | flags => 8
  | opacity => 12
  | left => 16
  | top => 20
  | width => 24
  | height => 28
  | poseX => 32
  | poseY => 36
  | poseZ => 40
  | poseRx => 44
  | poseRy => 48
  | poseRz => 52
  | vrWidth => 56
  | vrHeight => 60
  | zoomScale => 64
  | gazeTargetScale => 68
  | opacityNormal => 72
  | opacityGaze => 76

/-- The value of the field in a layer. -/
def get (l : Layer) : (f : Layer.Field) → f.scalar.Value
  | id => l.id
  | flags => l.flags
  | opacity => l.opacity
  | left => l.rect.origin.x
  | top => l.rect.origin.y
  | width => l.rect.size.width
  | height => l.rect.size.height
  | poseX => l.vr.pose.x
  | poseY => l.vr.pose.y
  | poseZ => l.vr.pose.z
  | poseRx => l.vr.pose.rx
  | poseRy => l.vr.pose.ry
  | poseRz => l.vr.pose.rz
  | vrWidth => l.vr.width
  | vrHeight => l.vr.height
  | zoomScale => l.vr.zoomScale
  | gazeTargetScale => l.vr.gazeTargetScale
  | opacityNormal => l.vr.opacity.normal
  | opacityGaze => l.vr.opacity.gaze

/-- The layer with these values. -/
def assemble (values : (f : Layer.Field) → f.scalar.Value) : Layer where
  id := values id
  flags := values flags
  opacity := values opacity
  rect := ⟨⟨values left, values top⟩, ⟨values width, values height⟩⟩
  vr :=
    { pose := ⟨values poseX, values poseY, values poseZ, values poseRx, values poseRy,
        values poseRz⟩
      width := values vrWidth
      height := values vrHeight
      zoomScale := values zoomScale
      gazeTargetScale := values gazeTargetScale
      opacity := ⟨values opacityNormal, values opacityGaze⟩ }

theorem get_assemble (values : (f : Layer.Field) → f.scalar.Value) (f : Layer.Field) :
    f.get (assemble values) = values f := by
  cases f <;> rfl

theorem assemble_get (l : Layer) : assemble (fun f => f.get l) = l := rfl

/-- The fields of a layer in the order of their bytes. -/
def all : List Layer.Field :=
  [id, flags, opacity, left, top, width, height, poseX, poseY, poseZ, poseRx, poseRy, poseRz,
    vrWidth, vrHeight, zoomScale, gazeTargetScale, opacityNormal, opacityGaze]

theorem mem_all (f : Layer.Field) : f ∈ all := by
  cases f <;> decide

/-- Every field of a layer is where its offset says. -/
theorem holds (l : Layer) (f : Layer.Field) :
    Layer.codec.Holds l f.offset f.scalar.codec (f.get l) := by
  have hrect : Layer.codec.Holds l 16 PixelRect.codec l.rect :=
    .transport (.back (.back (.back (.front .self))))
  have hvr : Layer.codec.Holds l 32 VrLayer.codec l.vr :=
    .transport (.back (.back (.back (.back .self))))
  have horigin : Layer.codec.Holds l 16 PixelPoint.codec l.rect.origin :=
    hrect.trans (.transport (.front .self))
  have hextent : Layer.codec.Holds l 24 PixelSize.codec l.rect.size :=
    hrect.trans (.transport (.back .self))
  have hpose : Layer.codec.Holds l 32 VrPose.codec l.vr.pose :=
    hvr.trans (.transport (.front .self))
  have hopacity : Layer.codec.Holds l 72 VrOpacity.codec l.vr.opacity :=
    hvr.trans (.transport (.back (.back (.back (.back (.back .self))))))
  cases f with
  | id => exact .transport (.front .self)
  | flags => exact .transport (.back (.front .self))
  | opacity => exact .transport (.back (.back (.front .self)))
  | left => exact horigin.trans (.transport (.front .self))
  | top => exact horigin.trans (.transport (.back .self))
  | width => exact hextent.trans (.transport (.front .self))
  | height => exact hextent.trans (.transport (.back .self))
  | poseX => exact hpose.trans (.transport (.front .self))
  | poseY => exact hpose.trans (.transport (.back (.front .self)))
  | poseZ => exact hpose.trans (.transport (.back (.back (.front .self))))
  | poseRx => exact hpose.trans (.transport (.back (.back (.back (.front .self)))))
  | poseRy => exact hpose.trans (.transport (.back (.back (.back (.back (.front .self))))))
  | poseRz => exact hpose.trans (.transport (.back (.back (.back (.back (.back .self))))))
  | vrWidth => exact hvr.trans (.transport (.back (.front .self)))
  | vrHeight => exact hvr.trans (.transport (.back (.back (.front .self))))
  | zoomScale => exact hvr.trans (.transport (.back (.back (.back (.front .self)))))
  | gazeTargetScale => exact hvr.trans (.transport (.back (.back (.back (.back (.front .self))))))
  | opacityNormal => exact hopacity.trans (.transport (.front .self))
  | opacityGaze => exact hopacity.trans (.transport (.back .self))

end Layer.Field

/-! ## Frame configuration -/

/-- The scalars of a frame configuration. -/
inductive FrameConfig.Field where
  | inputLayer
  | textureWidth
  | textureHeight
  | red
  | green
  | blue
  | alpha
  | flags
  | reserved
  deriving DecidableEq, Repr

namespace FrameConfig.Field

def scalar : FrameConfig.Field → Scalar
  | inputLayer => .word64
  | red | green | blue | alpha => .single
  | _ => .word32

/-- Where the field begins in a configuration. -/
def offset : FrameConfig.Field → Nat
  | inputLayer => 0
  | textureWidth => 8
  | textureHeight => 12
  | red => 16
  | green => 20
  | blue => 24
  | alpha => 28
  | flags => 32
  | reserved => 36

/-- The value of the field in a configuration. -/
def get (c : FrameConfig) : (f : FrameConfig.Field) → f.scalar.Value
  | inputLayer => c.inputLayer
  | textureWidth => c.textureSize.width
  | textureHeight => c.textureSize.height
  | red => c.tint.red
  | green => c.tint.green
  | blue => c.tint.blue
  | alpha => c.tint.alpha
  | flags => c.flags
  | reserved => c.reserved

/-- The configuration with these values. -/
def assemble (values : (f : FrameConfig.Field) → f.scalar.Value) : FrameConfig where
  inputLayer := values inputLayer
  textureSize := ⟨values textureWidth, values textureHeight⟩
  tint := ⟨values red, values green, values blue, values alpha⟩
  flags := values flags
  reserved := values reserved

@[simp] theorem get_assemble (values : (f : FrameConfig.Field) → f.scalar.Value)
    (f : FrameConfig.Field) : f.get (assemble values) = values f := by
  cases f <;> rfl

@[simp] theorem assemble_get (c : FrameConfig) : assemble (fun f => f.get c) = c := rfl

/-- The fields of a configuration in the order of their bytes. -/
def all : List FrameConfig.Field :=
  [inputLayer, textureWidth, textureHeight, red, green, blue, alpha, flags, reserved]

theorem mem_all (f : FrameConfig.Field) : f ∈ all := by
  cases f <;> decide

/-- Every field of a configuration is where its offset says. -/
theorem holds (c : FrameConfig) (f : FrameConfig.Field) :
    FrameConfig.codec.Holds c f.offset f.scalar.codec (f.get c) := by
  have hsize : FrameConfig.codec.Holds c 8 PixelSize.codec c.textureSize :=
    .transport (.back (.front .self))
  have htint : FrameConfig.codec.Holds c 16 Tint.codec c.tint :=
    .transport (.back (.back (.front .self)))
  cases f with
  | inputLayer => exact .transport (.front .self)
  | textureWidth => exact hsize.trans (.transport (.front .self))
  | textureHeight => exact hsize.trans (.transport (.back .self))
  | red => exact htint.trans (.transport (.front .self))
  | green => exact htint.trans (.transport (.back (.front .self)))
  | blue => exact htint.trans (.transport (.back (.back (.front .self))))
  | alpha => exact htint.trans (.transport (.back (.back (.back .self))))
  | flags => exact .transport (.back (.back (.back (.front .self))))
  | reserved => exact .transport (.back (.back (.back (.back .self))))

end FrameConfig.Field

namespace Header

/-! ## Headers -/

/-- The scalars of a header, the reserved ones included. -/
inductive Field where
  | magic
  | gpu
  | frame
  | session
  | flags
  | reserved0
  | config (field : FrameConfig.Field)
  | layerCount
  | reserved1 (i : Fin 7)
  | layer (place : Fin 16) (field : Layer.Field)
  | feederPid
  | reserved2
  | texture
  | fence
  | fenceValue (slot : Slot)
  deriving DecidableEq, Repr

namespace Field

def scalar : Field → Scalar
  | flags | reserved0 | feederPid | reserved2 => .word32
  | config field => field.scalar
  | layerCount | reserved1 _ => .byte
  | layer _ field => field.scalar
  | _ => .word64

/-- Where the field begins in a header. -/
def offset : Field → Nat
  | magic => 0x000
  | gpu => 0x008
  | frame => 0x010
  | session => 0x018
  | flags => 0x020
  | reserved0 => 0x024
  | config field => 0x028 + field.offset
  | layerCount => 0x050
  | reserved1 i => 0x051 + i
  | layer place field => 0x058 + 80 * place + field.offset
  | feederPid => 0x558
  | reserved2 => 0x55c
  | texture => 0x560
  | fence => 0x568
  | fenceValue slot => 0x570 + 8 * slot

/-- The value of the field in a header. -/
def get (h : Header) : (f : Field) → f.scalar.Value
  | magic => h.magic
  | gpu => h.gpu
  | frame => h.frame
  | session => h.session
  | flags => h.flags
  | reserved0 => h.reserved0
  | config field => field.get h.config
  | layerCount => h.layerCount
  | reserved1 i => h.reserved1.get i
  | layer place field => field.get (h.layerTable.get place)
  | feederPid => h.feederPid
  | reserved2 => h.reserved2
  | texture => h.texture
  | fence => h.fence
  | fenceValue slot => h.fenceValue slot

/-- The header with these values. -/
def assemble (values : (f : Field) → f.scalar.Value) : Header where
  magic := values magic
  gpu := values gpu
  frame := values frame
  session := values session
  flags := values flags
  reserved0 := values reserved0
  config := FrameConfig.Field.assemble fun field => values (config field)
  layerCount := values layerCount
  reserved1 := Vector.ofFn fun i : Fin 7 => values (reserved1 i)
  layerTable := Vector.ofFn fun place : Fin 16 =>
    Layer.Field.assemble fun field => values (layer place field)
  feederPid := values feederPid
  reserved2 := values reserved2
  texture := values texture
  fence := values fence
  fenceValues := Vector.ofFn fun slot : Slot => values (fenceValue slot)

theorem get_assemble (values : (f : Field) → f.scalar.Value) (f : Field) :
    f.get (assemble values) = values f := by
  cases f with
  | config field => exact FrameConfig.Field.get_assemble _ field
  | reserved1 i => exact Vector.getElem_ofFn i.isLt
  | layer place field =>
    have hplace : (assemble values).layerTable.get place =
        Layer.Field.assemble fun field => values (layer place field) :=
      Vector.getElem_ofFn place.isLt
    rw [get, hplace]
    exact Layer.Field.get_assemble _ field
  | fenceValue slot => exact Vector.getElem_ofFn slot.isLt
  | _ => rfl

theorem assemble_get (h : Header) : assemble (fun f => f.get h) = h := by
  have hreserved : (Vector.ofFn fun i : Fin 7 => h.reserved1.get i) = h.reserved1 := by
    ext i hi
    simp [Vector.get]
  have hlayers : (Vector.ofFn fun place : Fin 16 => h.layerTable.get place) = h.layerTable := by
    ext i hi
    simp [Vector.get]
  have hfences : (Vector.ofFn fun slot : Slot => h.fenceValue slot) = h.fenceValues := by
    ext i hi
    simp [Header.fenceValue]
  simp only [assemble, get, FrameConfig.Field.assemble_get, Layer.Field.assemble_get, hreserved,
    hlayers, hfences]

/-! ### Every byte -/

/-- The fields in the order of their bytes. -/
def all : List Field :=
  [magic, gpu, frame, session, flags, reserved0] ++ FrameConfig.Field.all.map config ++
    [layerCount] ++ (List.finRange 7).map reserved1 ++
    (List.finRange 16).flatMap (fun place => Layer.Field.all.map (layer place)) ++
    [feederPid, reserved2, texture, fence] ++ (List.finRange 2).map fenceValue

theorem mem_all (f : Field) : f ∈ all := by
  cases f <;> simp [all, FrameConfig.Field.mem_all, Layer.Field.mem_all]

/-- How many bytes the field takes. -/
def size (f : Field) : Nat := f.scalar.size

/-- Where the bytes of the field end. -/
def limit (f : Field) : Nat := f.offset + f.size

/-- Whether a byte is one of the field's. -/
def Covers (f : Field) (position : Nat) : Prop := f.offset ≤ position ∧ position < f.limit

/-- The fields lie one after the other, the first at `start` and the last up to `stop`. -/
def Tiles : List Field → Nat → Nat → Prop
  | [], start, stop => start = stop
  | f :: rest, start, stop => f.offset = start ∧ Tiles rest f.limit stop

instance decidableTiles : (fields : List Field) → (start stop : Nat) →
    Decidable (Tiles fields start stop)
  | [], start, stop => inferInstanceAs (Decidable (start = stop))
  | f :: rest, start, stop =>
    have := decidableTiles rest f.limit stop
    inferInstanceAs (Decidable (f.offset = start ∧ Tiles rest f.limit stop))

/-- Nothing lies before the first field or behind the last. -/
theorem Tiles.between {fields : List Field} {start stop : Nat} (h : Tiles fields start stop) :
    start ≤ stop ∧ ∀ f ∈ fields, start ≤ f.offset ∧ f.limit ≤ stop := by
  induction fields generalizing start with
  | nil => exact ⟨Nat.le_of_eq h, by simp⟩
  | cons f rest ih =>
    obtain ⟨hfirst, hrest⟩ := h
    obtain ⟨hle, hbetween⟩ := ih hrest
    have hsize : f.offset ≤ f.limit := Nat.le_add_right _ _
    refine ⟨by omega, fun g hg => ?_⟩
    rcases List.mem_cons.mp hg with rfl | hg
    · omega
    · have := hbetween g hg
      omega

/-- Each byte from the first field to the last is covered, and only once. -/
theorem Tiles.covers {fields : List Field} {start stop position : Nat}
    (h : Tiles fields start stop) (hstart : start ≤ position) (hstop : position < stop) :
    ∃ f ∈ fields, f.Covers position ∧ ∀ g ∈ fields, g.Covers position → g = f := by
  induction fields generalizing start with
  | nil =>
    have heq : start = stop := h
    omega
  | cons f rest ih =>
    obtain ⟨hfirst, hrest⟩ := h
    have hbehind := hrest.between.2
    by_cases hin : position < f.limit
    · refine ⟨f, List.mem_cons_self, ⟨by omega, hin⟩, fun g hg hcovers => ?_⟩
      rcases List.mem_cons.mp hg with rfl | hg
      · rfl
      · have := hbehind g hg
        have := hcovers.1
        omega
    · obtain ⟨g, hg, hcovers, honly⟩ := ih hrest (by omega)
      refine ⟨g, List.mem_cons_of_mem _ hg, hcovers, fun k hk hcovers' => ?_⟩
      rcases List.mem_cons.mp hk with rfl | hk
      · exact absurd hcovers'.2 hin
      · exact honly k hk hcovers'

theorem tiles_all : Tiles all 0 byteSize := by
  decide +kernel

/-- Every byte of a header belongs to one field. -/
theorem covers_unique {position : Nat} (h : position < byteSize) :
    ∃! f : Field, f.Covers position := by
  obtain ⟨f, -, hcovers, honly⟩ := tiles_all.covers (Nat.zero_le position) h
  exact ⟨f, hcovers, fun g hg => honly g g.mem_all hg⟩

theorem limit_le (f : Field) : f.limit ≤ byteSize :=
  (tiles_all.between.2 f f.mem_all).2

/-! ### Values -/

/-- Every field of a header is where its offset says. -/
theorem holds (h : Header) (f : Field) :
    Header.codec.Holds h f.offset f.scalar.codec (f.get h) := by
  have hconfig : Header.codec.Holds h 0x028 FrameConfig.codec h.config :=
    .transport (.back (.back (.back (.back (.back (.back (.front .self)))))))
  have hreserved : Header.codec.Holds h 0x051 (Codec.uint8.vector 7) h.reserved1 :=
    .transport (.back (.back (.back (.back (.back (.back (.back (.back (.front .self)))))))))
  have htable : Header.codec.Holds h 0x058 (Layer.codec.vector 16) h.layerTable :=
    .transport (.back (.back (.back (.back (.back (.back (.back (.back (.back
      (.front .self))))))))))
  -- the words behind the layers, as they follow each other
  have hbehind {α : Type} {d : Codec α} {v : α} {inner total : Nat}
      (hpart : (Codec.uint32.pair <| Codec.uint32.pair <| Codec.uint64.pair <| Codec.uint64.pair <|
        Codec.uint64.vector 2).Holds
          (h.feederPid, h.reserved2, h.texture, h.fence, h.fenceValues) inner d v)
      (htotal : total = 0x558 + inner := by rfl) : Header.codec.Holds h total d v :=
    .trans (.transport (.back (.back (.back (.back (.back (.back (.back (.back (.back (.back
      .self))))))))))) hpart htotal
  cases f with
  | magic => exact .transport (.front .self)
  | gpu => exact .transport (.back (.front .self))
  | frame => exact .transport (.back (.back (.front .self)))
  | session => exact .transport (.back (.back (.back (.front .self))))
  | flags => exact .transport (.back (.back (.back (.back (.front .self)))))
  | reserved0 => exact .transport (.back (.back (.back (.back (.back (.front .self))))))
  | config field => exact hconfig.trans (field.holds h.config)
  | layerCount =>
    exact .transport (.back (.back (.back (.back (.back (.back (.back (.front .self))))))))
  | reserved1 i =>
    have helement := hreserved.trans (.element h.reserved1 i)
    rwa [show Codec.uint8.size = 1 from rfl, Nat.mul_one] at helement
  | layer place field =>
    have hlayer : Header.codec.Holds h (0x058 + 80 * place) Layer.codec (h.layerTable.get place) :=
      htable.trans (.element h.layerTable place) (by rw [Nat.mul_comm]; rfl)
    exact hlayer.trans (field.holds (h.layerTable.get place))
  | feederPid => exact hbehind (.front .self)
  | reserved2 => exact hbehind (.back (.front .self))
  | texture => exact hbehind (.back (.back (.front .self)))
  | fence => exact hbehind (.back (.back (.back (.front .self))))
  | fenceValue slot =>
    have hfences : Header.codec.Holds h 0x570 (Codec.uint64.vector 2) h.fenceValues :=
      hbehind (.back (.back (.back (.back .self))))
    exact hfences.trans (.element h.fenceValues slot) (by rw [offset, Nat.mul_comm]; rfl)

theorem size_codec (f : Field) : f.scalar.codec.size = f.size := f.scalar.size_codec

/-- The bytes of a field, from those of a header. -/
def slice (f : Field) (bs : Bytes) : Bytes := (bs.drop f.offset).take f.size

/-- A field is read from its own bytes. -/
theorem get_decode (f : Field) {bs : Bytes} (hlen : bs.length = byteSize) :
    f.get (Header.codec.decode bs) = f.scalar.codec.decode (f.slice bs) := by
  have hread := (holds (Header.codec.decode bs) f).decode
  rw [Header.codec.encode_decode_of_length hlen] at hread
  have hlimit := f.limit_le
  rw [limit, ← size_codec] at hlimit
  have hrest : f.scalar.codec.size ≤ (bs.drop f.offset).length := by
    rw [List.length_drop]
    omega
  rw [← hread, slice, ← size_codec, Codec.decode_take _ hrest]

/-- A byte of a field is eight of the bits of its value. -/
theorem byte_encode (h : Header) (f : Field) {k : Nat} (hk : k < f.size) :
    ∃ b, (Header.codec.encode h)[f.offset + k]? = some b ∧
      ∀ bit, bit < 8 → b.toNat.testBit bit = (f.scalar.toNat (f.get h)).testBit (8 * k + bit) := by
  obtain ⟨front, rest, hbytes, hlength⟩ := holds h f
  obtain ⟨b, hbyte, hbits⟩ := f.scalar.byte_codec (f.get h) hk
  refine ⟨b, ?_, hbits⟩
  have hinside : k < (f.scalar.codec.encode (f.get h)).length := by
    rw [Codec.length_encode, size_codec]
    exact hk
  rw [hbytes, ← hlength, List.getElem?_append_right (Nat.le_add_right _ _), Nat.add_sub_cancel_left,
    List.getElem?_append_left hinside, hbyte]

/-- Bytes outside a field do not count for it. -/
theorem slice_congr {f : Field} {bs bs' : Bytes}
    (h : ∀ position, f.Covers position → bs'[position]? = bs[position]?) :
    f.slice bs' = f.slice bs := by
  refine List.ext_getElem? fun i => ?_
  rw [slice, slice, List.getElem?_take, List.getElem?_take]
  split
  · rename_i hi
    rw [List.getElem?_drop, List.getElem?_drop]
    exact h _ ⟨Nat.le_add_right _ _, Nat.add_lt_add_left hi _⟩
  · rfl

end Field

/-! ## The whole record -/

/-- A header with the right value in each field is that header. -/
theorem ext_fields {h h' : Header} (hsame : ∀ f : Field, f.get h' = f.get h) : h' = h := by
  rw [← Field.assemble_get h', ← Field.assemble_get h]
  exact congrArg Field.assemble (funext hsame)

/-- The bytes of a header are its fields, each in its own place. -/
structure WireFormat : Prop where
  /-- Reading the bytes of a header and writing it gives the same bytes. -/
  encode_decode : ∀ bs : Bytes, bs.length = byteSize → codec.encode (codec.decode bs) = bs
  /-- A header is written to as many bytes, whatever is in it. -/
  length_encode : ∀ h : Header, (codec.encode h).length = byteSize
  /-- Any values of the fields are the values of some bytes, and of no others. -/
  bijective : Function.Bijective
    fun (bs : { bs : Bytes // bs.length = byteSize }) (f : Field) => f.get (codec.decode bs)
  /-- Writing any values and reading them gives the same values. -/
  decode_encode : ∀ (values : (f : Field) → f.scalar.Value) (f : Field),
    f.get (codec.decode (codec.encode (Field.assemble values))) = values f
  /-- The bytes of the fields are all the bytes, and no byte is in two fields. -/
  tiled : (∀ f : Field, 0 < f.size ∧ f.limit ≤ byteSize) ∧
    ∀ position, position < byteSize → ∃! f : Field, f.Covers position
  /-- Byte `k` of a field is bits `8 k` to `8 k + 7` of its value. -/
  littleEndian : ∀ (h : Header) (f : Field) (k : Nat), k < f.size →
    ∃ b, (codec.encode h)[f.offset + k]? = some b ∧
      ∀ bit, bit < 8 → b.toNat.testBit bit = (f.scalar.toNat (f.get h)).testBit (8 * k + bit)
  /-- What a field says is in its own bytes. -/
  read : ∀ bs : Bytes, bs.length = byteSize → ∀ f : Field,
    f.get (codec.decode bs) = f.scalar.codec.decode (f.slice bs)
  /-- Other bytes inside one field's range are another value of this field, and of no other. -/
  changed : ∀ bs bs' : Bytes, bs.length = byteSize → bs'.length = byteSize → ∀ f : Field,
    (∀ position, ¬ f.Covers position → bs'[position]? = bs[position]?) →
      (f.get (codec.decode bs') = f.get (codec.decode bs) ↔ bs' = bs) ∧
      ∀ g, g ≠ f → g.get (codec.decode bs') = g.get (codec.decode bs)
  /-- The accesses that are made in place are made where the fields are. -/
  inPlace : magicOffset = Field.magic.offset ∧ gpuOffset = Field.gpu.offset ∧
    frameOffset = Field.frame.offset ∧ sessionOffset = Field.session.offset ∧
    flagsOffset = Field.flags.offset ∧ bodyOffset = Field.reserved0.offset ∧
    feederPidOffset = Field.feederPid.offset ∧
    ∀ slot, Memory.fenceOffset slot = (Field.fenceValue slot).offset

theorem wireFormat : WireFormat where
  encode_decode bs hlen := codec.encode_decode_of_length hlen
  length_encode h := codec.length_encode h
  bijective := by
    constructor
    · intro bs bs' hsame
      have hheader := ext_fields fun f => congrFun hsame f
      apply Subtype.ext
      rw [← codec.encode_decode_of_length bs.2, ← codec.encode_decode_of_length bs'.2, hheader]
    · intro values
      refine ⟨⟨codec.encode (Field.assemble values), codec.length_encode _⟩, funext fun f => ?_⟩
      show f.get (codec.decode (codec.encode (Field.assemble values))) = values f
      rw [codec.decode_encode, Field.get_assemble]
  decode_encode values f := by
    rw [codec.decode_encode, Field.get_assemble]
  tiled := ⟨fun f => ⟨f.scalar.size_pos, f.limit_le⟩, fun _ => Field.covers_unique⟩
  littleEndian h f k hk := f.byte_encode h hk
  read bs hlen f := f.get_decode hlen
  changed bs bs' hlen hlen' f hsame := by
    have hothers (g : Field) (hg : g ≠ f) :
        g.get (codec.decode bs') = g.get (codec.decode bs) := by
      rw [g.get_decode hlen, g.get_decode hlen']
      refine congrArg _ (Field.slice_congr fun position hcovers => ?_)
      refine hsame position fun hcovers' => hg ?_
      have hposition : position < byteSize := by
        have := hcovers.2
        have := g.limit_le
        omega
      exact (Field.covers_unique hposition).unique hcovers hcovers'
    refine ⟨⟨fun hvalue => ?_, fun hbytes => by rw [hbytes]⟩, hothers⟩
    have hheader : codec.decode bs' = codec.decode bs := ext_fields fun g => by
      by_cases hg : g = f
      · rw [hg, hvalue]
      · exact hothers g hg
    rw [← codec.encode_decode_of_length hlen, ← codec.encode_decode_of_length hlen', hheader]
  inPlace := ⟨rfl, rfl, rfl, rfl, rfl, rfl, rfl, fun _ => rfl⟩

/-- A header of zeros into which the two low bytes of a texture's handle were stored. -/
def stamped : Bytes := (Bytes.zeros byteSize).patch 0x560 [0x34, 0x12]

/-- The handle is read from the two bytes, the lower one first, and no other field is touched. -/
theorem wireFormat_stamped :
    stamped.length = byteSize ∧ (Bytes.zeros byteSize).length = byteSize ∧
      (∀ position, ¬ Field.texture.Covers position →
        stamped[position]? = (Bytes.zeros byteSize)[position]?) ∧
      (codec.decode stamped).texture = 0x1234 ∧
      (codec.decode stamped).texture ≠ (codec.decode (Bytes.zeros byteSize)).texture ∧
      (∀ g, g ≠ Field.texture →
        g.get (codec.decode stamped) = g.get (codec.decode (Bytes.zeros byteSize))) ∧
      (∃! f : Field, f.Covers 0x561) ∧ codec.encode (codec.decode stamped) = stamped ∧
      1 < Field.texture.size ∧ ∃ b, (codec.encode (codec.decode stamped))[0x561]? = some b ∧
        ∀ bit, bit < 8 → b.toNat.testBit bit = Nat.testBit 0x1234 (8 + bit) := by
  have hzeros : (Bytes.zeros byteSize).length = byteSize := List.length_replicate
  have hlen : stamped.length = byteSize := by rw [stamped, Bytes.length_patch, hzeros]
  have houtside (position : Nat) (hposition : ¬ Field.texture.Covers position) :
      stamped[position]? = (Bytes.zeros byteSize)[position]? := by
    have hrange : ¬ (0x560 ≤ position ∧ position < 0x568) := hposition
    refine Bytes.getElem?_patch_outside _ _ ?_
    simp only [List.length_cons, List.length_nil]
    omega
  have hslice : Field.texture.slice stamped = [0x34, 0x12, 0, 0, 0, 0, 0, 0] := by decide +kernel
  have htexture : (codec.decode stamped).texture = 0x1234 := by
    have hread := wireFormat.read stamped hlen .texture
    rw [hslice] at hread
    exact hread
  have hdiffer : stamped ≠ Bytes.zeros byteSize := by decide +kernel
  obtain ⟨hvalue, hothers⟩ := wireFormat.changed _ _ hzeros hlen .texture houtside
  obtain ⟨b, hbyte, hbits⟩ := wireFormat.littleEndian (codec.decode stamped) .texture 1 (by decide)
  refine ⟨hlen, hzeros, houtside, htexture, fun hsame => hdiffer (hvalue.mp hsame), hothers,
    wireFormat.tiled.2 0x561 (by decide), wireFormat.encode_decode stamped hlen, by decide, b,
    hbyte, fun bit hbit => ?_⟩
  rw [hbits bit hbit]
  show Nat.testBit (codec.decode stamped).texture.toNat _ = _
  rw [htexture]
  rfl

end Header

end FrameExchange
