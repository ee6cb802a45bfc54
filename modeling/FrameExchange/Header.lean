import FrameExchange.Layer

/-!
# The header

The record that a feeder publishes and every consumer reads.

- `Header` — its fields, the reserved ones included.
- `Header.ofSession` — a header of a new session, with no feeder.
- `Header.publish`, `Header.publishEmpty` — the header after a frame, and after an empty frame.
- `Header.validate` — the first reason not to trust a header, if there is one.
- `FrameKey` — session and frame number: what changes whenever a reader should look again.
-/

namespace FrameExchange

/-- How many layers a frame can have. -/
def maxLayers : Nat := 16

/-- How many texture slots a feeder rotates through. -/
def slotCount : Nat := 2

/-- A texture slot of the feeder. -/
abbrev Slot := Fin 2

theorem Slot.lt (slot : Slot) : slot.val < 2 := slot.isLt

/-- The eight bytes `FFShmHdr` as a word, which tell a header from fresh memory. -/
def headerMagic : UInt64 := 0x7264486d68534646

/-- The flag that says a writer has published since it attached. -/
def feederAttached : UInt32 := 1

/-! ## Keys -/

/-- The session and the frame number. Sessions are random, so the key changes even where a
restarted feeder counts from zero again. -/
structure FrameKey where
  session : UInt64
  frame : UInt64
  deriving DecidableEq, Repr, Inhabited

/-- Whether this is the key of a region nobody has written. -/
def FrameKey.isEmpty (k : FrameKey) : Bool := k.session == 0 && k.frame == 0

/-! ## The record -/

/-- The header of a region. -/
structure Header where
  magic : UInt64
  /-- The adapter that the feeder's textures live on. -/
  gpu : UInt64
  frame : UInt64
  session : UInt64
  flags : UInt32
  reserved0 : UInt32
  config : FrameConfig
  layerCount : UInt8
  reserved1 : Vector UInt8 7
  layerTable : Vector Layer 16
  feederPid : UInt32
  reserved2 : UInt32
  /-- The texture's handle in the feeder process. -/
  texture : UInt64
  /-- The fence's handle in the feeder process. -/
  fence : UInt64
  /-- For each slot the fence value at which its texture is ready. -/
  fenceValues : Vector UInt64 2
  deriving DecidableEq, Repr

/-- A reason not to trust a header. -/
inductive HeaderFault where
  | badMagic (magic : UInt64)
  | tooManyLayers (count : UInt8)
  | emptyTexture (count : UInt8)
  | layerOutOfBounds (index : Nat) (rect : PixelRect) (texture : PixelSize)
  deriving DecidableEq, Repr

namespace HeaderFault

/-- The eight bytes of the magic, each as two hexadecimal digits. -/
def magicText (magic : UInt64) : String :=
  let bytes := Codec.uint64.encode magic
  "[" ++ String.intercalate ", " (bytes.map fun b => Bytes.hexNumber 2 b.toNat) ++ "]"

/-- The fault in words. -/
def message : HeaderFault → String
  | badMagic magic => "bad magic " ++ magicText magic
  | tooManyLayers count =>
    "layer count " ++ toString count ++ " exceeds maximum " ++ toString maxLayers
  | emptyTexture count => "frame has " ++ toString count ++ " layers but an empty texture"
  | layerOutOfBounds index rect texture =>
    "layer " ++ toString index ++ " rect " ++ rect.describe ++ " exceeds texture " ++
      texture.describe

end HeaderFault

namespace Header

/-- A header of the session `session`: right magic, no feeder, no frame. -/
def ofSession (gpu session : UInt64) : Header where
  magic := headerMagic
  gpu := gpu
  frame := 0
  session := session
  flags := 0
  reserved0 := 0
  config := .default
  layerCount := 0
  reserved1 := Vector.replicate 7 0
  layerTable := Vector.replicate 16 .default
  feederPid := 0
  reserved2 := 0
  texture := 0
  fence := 0
  fenceValues := Vector.replicate 2 0

/-- Session and frame number. -/
def key (h : Header) : FrameKey := ⟨h.session, h.frame⟩

/-- The layers of the frame: as many places of the table as the stored count says, at most all
of them. -/
def layers (h : Header) : List Layer := h.layerTable.toList.take h.layerCount.toNat

/-- Whether the feeder flag is set; the other bits have no meaning. -/
def attachedFlag (h : Header) : Bool := h.flags &&& feederAttached != 0

/-- The flag name, or a zero where it is not set. -/
def describeFlags (h : Header) : String :=
  if h.attachedFlag then "HeaderFlags(FEEDER_ATTACHED)" else "HeaderFlags(0x0)"

/-- Whether a feeder has published: the magic is right and the feeder flag set. -/
def hasFeeder (h : Header) : Bool := h.magic == headerMagic && h.attachedFlag

/-- The slot that frame `n` uses. -/
def slotOf (n : UInt64) : Slot := ⟨n.toNat % 2, Nat.mod_lt _ (by decide)⟩

/-- The slot of the current frame. -/
def slot (h : Header) : Slot := slotOf h.frame

theorem slot_lt (h : Header) : h.slot.val < 2 := h.slot.lt

/-- The fence value at which the texture in `slot` is ready. -/
def fenceValue (h : Header) (slot : Slot) : UInt64 := h.fenceValues[slot]

/-! ## Checks -/

/-- The first layer that is not inside the texture, and its place. -/
def firstOutside (layers : List Layer) (texture : PixelSize) : Option (Layer × Nat) :=
  layers.zipIdx.find? fun entry => !entry.1.rect.fitsWithin texture

/-- The first of the reasons not to trust a header: the magic, the layer count, layers on an
empty texture, a layer outside the texture. A header without layers needs no texture. -/
def validate (h : Header) : Except HeaderFault Unit :=
  if h.magic ≠ headerMagic then .error (.badMagic h.magic)
  else if maxLayers < h.layerCount.toNat then .error (.tooManyLayers h.layerCount)
  else if h.layerCount = 0 then .ok ()
  else if h.config.textureSize.isEmpty then .error (.emptyTexture h.layerCount)
  else
    match firstOutside h.layers h.config.textureSize with
    | some (layer, index) =>
      .error (.layerOutOfBounds index layer.rect h.config.textureSize)
    | none => .ok ()

/-! ## Frames -/

/-- The places of the table for these layers: the layers, and default layers after them. -/
def tableOf (layers : List Layer) : Vector Layer 16 :=
  Vector.ofFn fun place : Fin 16 => (layers[place.val]?).getD .default

/-- The header after a frame: the frame number counts on, and all that belongs to the frame is
replaced. -/
def publish (h : Header) (gpu : UInt64) (pid : UInt32) (config : FrameConfig)
    (layers : List Layer) (texture fence : UInt64) : Header :=
  { h with
    gpu := gpu
    config := config
    frame := h.frame + 1
    flags := h.flags ||| feederAttached
    feederPid := pid
    texture := texture
    fence := fence
    layerCount := UInt8.ofNat layers.length
    layerTable := tableOf layers }

/-- The header after an empty frame: the feeder is alive and shows nothing. The settings of the
last frame stay. -/
def publishEmpty (h : Header) (gpu : UInt64) (pid : UInt32) : Header :=
  { h with
    gpu := gpu
    frame := h.frame + 1
    flags := h.flags ||| feederAttached
    feederPid := pid
    texture := 0
    fence := 0
    layerCount := 0
    layerTable := Vector.replicate 16 .default }

end Header

end FrameExchange
