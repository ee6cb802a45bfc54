import FrameExchange.Pixel
import FrameExchange.Single

/-!
# Layers and frame configuration

What a feeder says about a frame besides its pixels: where each layer lies in the shared texture
and in space, and the settings that hold for the whole frame.

- `Layer` — one layer; `Layer.flat` is a flat layer with default settings.
- `LayerFlags` — the two flags a layer can carry; unknown bits are kept in the word but have no
  meaning.
- `FrameConfig` — settings of a whole frame; `FrameConfig.ofSize` has defaults for the rest.
-/

namespace FrameExchange

/-! ## Placement in space -/

/-- Position and orientation, in metres and radians. -/
structure VrPose where
  x : Single
  y : Single
  z : Single
  rx : Single
  ry : Single
  rz : Single
  deriving DecidableEq, Repr, Inhabited

/-- Opacity while a layer is not looked at, and while it is. -/
structure VrOpacity where
  normal : Single
  gaze : Single
  deriving DecidableEq, Repr, Inhabited

/-- Placement of a layer in space. -/
structure VrLayer where
  pose : VrPose
  /-- Width and height in metres. -/
  width : Single
  height : Single
  /-- Magnification while the layer is looked at. -/
  zoomScale : Single
  /-- Size of the target that counts as looking at the layer, relative to the layer. -/
  gazeTargetScale : Single
  opacity : VrOpacity
  deriving DecidableEq, Repr, Inhabited

def VrPose.codec : Codec VrPose :=
  (Single.codec.pair <| Single.codec.pair <| Single.codec.pair <| Single.codec.pair <|
    Single.codec.pair Single.codec).transport
    (fun p => ⟨p.1, p.2.1, p.2.2.1, p.2.2.2.1, p.2.2.2.2.1, p.2.2.2.2.2⟩)
    (fun v => (v.x, v.y, v.z, v.rx, v.ry, v.rz)) (fun _ => rfl) (fun _ => rfl)

def VrOpacity.codec : Codec VrOpacity :=
  (Single.codec.pair Single.codec).transport (fun p => ⟨p.1, p.2⟩)
    (fun v => (v.normal, v.gaze)) (fun _ => rfl) (fun _ => rfl)

def VrLayer.codec : Codec VrLayer :=
  (VrPose.codec.pair <| Single.codec.pair <| Single.codec.pair <| Single.codec.pair <|
    Single.codec.pair VrOpacity.codec).transport
    (fun p => ⟨p.1, p.2.1, p.2.2.1, p.2.2.2.1, p.2.2.2.2.1, p.2.2.2.2.2⟩)
    (fun v => (v.pose, v.width, v.height, v.zoomScale, v.gazeTargetScale, v.opacity))
    (fun _ => rfl) (fun _ => rfl)

/-- At the origin, of no size, twice as large and fully opaque when looked at. -/
def VrLayer.default : VrLayer where
  pose := ⟨.zero, .zero, .zero, .zero, .zero, .zero⟩
  width := .zero
  height := .zero
  zoomScale := .two
  gazeTargetScale := .one
  opacity := ⟨.one, .one⟩

/-! ## Layers -/

/-- The flags with a meaning: the layer is placed in space, and it is zoomed while looked at. -/
structure LayerFlags where
  vrEnabled : Bool
  gazeZoom : Bool
  deriving DecidableEq, Repr

/-- The flags of a word; bits without a meaning are dropped. -/
def LayerFlags.ofWord (word : UInt32) : LayerFlags :=
  ⟨word &&& 1 != 0, word &&& 2 != 0⟩

/-- The flag names, or a zero where none is set. -/
def LayerFlags.describe (f : LayerFlags) : String :=
  let names := (if f.vrEnabled then ["VR_ENABLED"] else []) ++
    (if f.gazeZoom then ["GAZE_ZOOM"] else [])
  "LayerFlags(" ++ (if names.isEmpty then "0x0" else String.intercalate " | " names) ++ ")"

/-- One layer of a frame. -/
structure Layer where
  id : UInt64
  flags : UInt32
  /-- Opacity where the layer is shown flat. -/
  opacity : Single
  /-- Where the layer's pixels are in the shared texture. -/
  rect : PixelRect
  vr : VrLayer
  deriving DecidableEq, Repr, Inhabited

namespace Layer

/-- The layer that fills unused places: all zero but for the scales and opacities. -/
def default : Layer := ⟨0, 0, .one, .of 0 0 0 0, .default⟩

/-- An opaque flat layer at `rect`. -/
def flat (id : UInt64) (rect : PixelRect) : Layer := { default with id, rect }

/-- The flags that have a meaning. -/
def layerFlags (l : Layer) : LayerFlags := .ofWord l.flags

def codec : Codec Layer :=
  (Codec.uint64.pair <| Codec.uint32.pair <| Single.codec.pair <| PixelRect.codec.pair
    VrLayer.codec).transport
    (fun p => ⟨p.1, p.2.1, p.2.2.1, p.2.2.2.1, p.2.2.2.2⟩)
    (fun l => (l.id, l.flags, l.opacity, l.rect, l.vr)) (fun _ => rfl) (fun _ => rfl)

end Layer

/-! ## Frame configuration -/

/-- Red, green, blue and alpha multipliers. -/
structure Tint where
  red : Single
  green : Single
  blue : Single
  alpha : Single
  deriving DecidableEq, Repr, Inhabited

def Tint.codec : Codec Tint :=
  (Single.codec.pair <| Single.codec.pair <| Single.codec.pair Single.codec).transport
    (fun p => ⟨p.1, p.2.1, p.2.2.1, p.2.2.2⟩) (fun t => (t.red, t.green, t.blue, t.alpha))
    (fun _ => rfl) (fun _ => rfl)

/-- Settings of a whole frame. -/
structure FrameConfig where
  /-- The layer that receives input. -/
  inputLayer : UInt64
  /-- The size of the shared texture. -/
  textureSize : PixelSize
  tint : Tint
  flags : UInt32
  reserved : UInt32
  deriving DecidableEq, Repr, Inhabited

namespace FrameConfig

/-- An empty texture that is not tinted. -/
def default : FrameConfig := ⟨0, ⟨0, 0⟩, ⟨.one, .one, .one, .one⟩, 0, 0⟩

/-- Default settings for a texture of this size. -/
def ofSize (size : PixelSize) : FrameConfig := { default with textureSize := size }

/-- Equality of settings, the tints compared as numbers. -/
def agrees (a b : FrameConfig) : Bool :=
  a.inputLayer == b.inputLayer && a.textureSize == b.textureSize &&
    a.tint.red.agrees b.tint.red && a.tint.green.agrees b.tint.green &&
    a.tint.blue.agrees b.tint.blue && a.tint.alpha.agrees b.tint.alpha &&
    a.flags == b.flags && a.reserved == b.reserved

def codec : Codec FrameConfig :=
  (Codec.uint64.pair <| PixelSize.codec.pair <| Tint.codec.pair <| Codec.uint32.pair
    Codec.uint32).transport
    (fun p => ⟨p.1, p.2.1, p.2.2.1, p.2.2.2.1, p.2.2.2.2⟩)
    (fun c => (c.inputLayer, c.textureSize, c.tint, c.flags, c.reserved))
    (fun _ => rfl) (fun _ => rfl)

end FrameConfig

end FrameExchange
