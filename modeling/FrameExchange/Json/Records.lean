import FrameExchange.Json.Reading
import FrameExchange.Header
import FrameExchange.Consumer
import FrameExchange.Region.Config

/-!
# The records that are exchanged as JSON

For each type its JSON value, the reader of that value, and the way back. What a reader accepts
the way back always turns into a value of the type.
-/

namespace FrameExchange

open Reading (openRecord)

/-! ## Reading out of values -/

namespace Json

/-- The number, where there is one that fits. -/
def word32? : Json → Option UInt32
  | number n => if n < UInt32.size then some (UInt32.ofNat n) else none
  | _ => none

/-- The number, where there is one that fits. -/
def word64? : Json → Option UInt64
  | number n => if n < UInt64.size then some (UInt64.ofNat n) else none
  | _ => none

/-- The floating-point number. -/
def single? : Json → Option Single
  | single s => some s
  | _ => none

/-- The string. -/
def text? : Json → Option String
  | text s => some s
  | _ => none

/-- The values of the fields of an object, or of a list. -/
def parts : Json → List Json
  | object fields => fields.map (·.2)
  | array items => items
  | _ => []

end Json

namespace Reading

def word32 : Reading Json := number UInt32.size

def word64 : Reading Json := number UInt64.size

end Reading

open Reading (word32 word64)

/-! ## Pixels -/

namespace PixelSize

def toJson (s : PixelSize) : Json :=
  .object [("width", .number s.width.toNat), ("height", .number s.height.toNat)]

def reader : Reading Json := openRecord [("width", word32), ("height", word32)]

def ofJson? (j : Json) : Option PixelSize :=
  match j.parts with
  | [width, height] => return ⟨← width.word32?, ← height.word32?⟩
  | _ => none

end PixelSize

namespace PixelPoint

def toJson (p : PixelPoint) : Json :=
  .object [("x", .number p.x.toNat), ("y", .number p.y.toNat)]

def reader : Reading Json := openRecord [("x", word32), ("y", word32)]

def ofJson? (j : Json) : Option PixelPoint :=
  match j.parts with
  | [x, y] => return ⟨← x.word32?, ← y.word32?⟩
  | _ => none

end PixelPoint

namespace PixelRect

def toJson (r : PixelRect) : Json :=
  .object [("origin", r.origin.toJson), ("size", r.size.toJson)]

def reader : Reading Json := openRecord [("origin", PixelPoint.reader), ("size", PixelSize.reader)]

def ofJson? (j : Json) : Option PixelRect :=
  match j.parts with
  | [origin, size] => return ⟨← PixelPoint.ofJson? origin, ← PixelSize.ofJson? size⟩
  | _ => none

end PixelRect

/-! ## Layers -/

namespace VrPose

def toJson (p : VrPose) : Json :=
  .object [("x", .single p.x), ("y", .single p.y), ("z", .single p.z), ("rx", .single p.rx),
    ("ry", .single p.ry), ("rz", .single p.rz)]

def reader : Reading Json :=
  openRecord (["x", "y", "z", "rx", "ry", "rz"].map fun name => (name, Reading.single))

def ofJson? (j : Json) : Option VrPose :=
  match j.parts with
  | [x, y, z, rx, ry, rz] =>
    return ⟨← x.single?, ← y.single?, ← z.single?, ← rx.single?, ← ry.single?, ← rz.single?⟩
  | _ => none

end VrPose

namespace VrOpacity

def toJson (o : VrOpacity) : Json :=
  .object [("normal", .single o.normal), ("gaze", .single o.gaze)]

def reader : Reading Json := openRecord [("normal", Reading.single), ("gaze", Reading.single)]

def ofJson? (j : Json) : Option VrOpacity :=
  match j.parts with
  | [normal, gaze] => return ⟨← normal.single?, ← gaze.single?⟩
  | _ => none

end VrOpacity

namespace VrLayer

def toJson (v : VrLayer) : Json :=
  .object [("pose", v.pose.toJson), ("physical_size", .array [.single v.width, .single v.height]),
    ("zoom_scale", .single v.zoomScale), ("gaze_target_scale", .single v.gazeTargetScale),
    ("opacity", v.opacity.toJson)]

def reader : Reading Json :=
  openRecord [("pose", VrPose.reader), ("physical_size", Reading.tuple 2 Reading.single),
    ("zoom_scale", Reading.single), ("gaze_target_scale", Reading.single),
    ("opacity", VrOpacity.reader)]

def ofJson? (j : Json) : Option VrLayer :=
  match j.parts with
  | [pose, size, zoomScale, gazeTargetScale, opacity] =>
    match size.parts with
    | [width, height] =>
      return ⟨← VrPose.ofJson? pose, ← width.single?, ← height.single?, ← zoomScale.single?,
        ← gazeTargetScale.single?, ← VrOpacity.ofJson? opacity⟩
    | _ => none
  | _ => none

end VrLayer

namespace Layer

def toJson (l : Layer) : Json :=
  .object [("layer_id", .number l.id.toNat), ("flags", .number l.flags.toNat),
    ("opacity", .single l.opacity), ("location_on_texture", l.rect.toJson), ("vr", l.vr.toJson)]

def reader : Reading Json :=
  openRecord [("layer_id", word64), ("flags", word32), ("opacity", Reading.single),
    ("location_on_texture", PixelRect.reader), ("vr", VrLayer.reader)]

def ofJson? (j : Json) : Option Layer :=
  match j.parts with
  | [id, flags, opacity, rect, vr] =>
    return ⟨← id.word64?, ← flags.word32?, ← opacity.single?, ← PixelRect.ofJson? rect,
      ← VrLayer.ofJson? vr⟩
  | _ => none

end Layer

/-! ## Frame configuration -/

namespace Tint

def toJson (t : Tint) : Json :=
  .array [.single t.red, .single t.green, .single t.blue, .single t.alpha]

def reader : Reading Json := Reading.tuple 4 Reading.single

def ofJson? (j : Json) : Option Tint :=
  match j.parts with
  | [red, green, blue, alpha] =>
    return ⟨← red.single?, ← green.single?, ← blue.single?, ← alpha.single?⟩
  | _ => none

end Tint

namespace FrameConfig

/-- The reserved word is not written. -/
def toJson (c : FrameConfig) : Json :=
  .object [("global_input_layer_id", .number c.inputLayer.toNat),
    ("texture_size", c.textureSize.toJson), ("tint", c.tint.toJson),
    ("flags", .number c.flags.toNat)]

def reader : Reading Json :=
  openRecord [("global_input_layer_id", word64), ("texture_size", PixelSize.reader),
    ("tint", Tint.reader), ("flags", word32)]

def ofJson? (j : Json) : Option FrameConfig :=
  match j.parts with
  | [inputLayer, textureSize, tint, flags] =>
    return ⟨← inputLayer.word64?, ← PixelSize.ofJson? textureSize, ← Tint.ofJson? tint,
      ← flags.word32?, 0⟩
  | _ => none

end FrameConfig

/-! ## Keys and kinds -/

namespace FrameKey

def toJson (k : FrameKey) : Json :=
  .object [("session_id", .number k.session.toNat), ("frame_number", .number k.frame.toNat)]

def reader : Reading Json := openRecord [("session_id", word64), ("frame_number", word64)]

def ofJson? (j : Json) : Option FrameKey :=
  match j.parts with
  | [session, frame] => return ⟨← session.word64?, ← frame.word64?⟩
  | _ => none

end FrameKey

namespace ConsumerKind

def toJson (k : ConsumerKind) : Json := .text k.name

def reader : Reading Json := Reading.choice (all.map name)

def ofJson? (j : Json) : Option ConsumerKind := j.text?.bind ofName?

end ConsumerKind

namespace ConsumerPattern

def toJson (p : ConsumerPattern) : Json := .number p.mask.toNat

def reader : Reading Json := word32

def ofJson? (j : Json) : Option ConsumerPattern := j.word32?.map ConsumerPattern.mk

end ConsumerPattern

/-! ## Configuration -/

namespace SoftwareVersion

def toJson (v : SoftwareVersion) : Json :=
  .object [("major", .number v.major.toNat), ("minor", .number v.minor.toNat),
    ("patch", .number v.patch.toNat), ("build", .number v.build.toNat)]

def reader : Reading Json :=
  openRecord [("major", word32), ("minor", word32), ("patch", word32), ("build", word32)]

def ofJson? (j : Json) : Option SoftwareVersion :=
  match j.parts with
  | [major, minor, patch, build] =>
    return ⟨← major.word32?, ← minor.word32?, ← patch.word32?, ← build.word32?⟩
  | _ => none

end SoftwareVersion

namespace Duration

def toJson (d : Duration) : Json :=
  .object [("secs", .number d.seconds.toNat), ("nanos", .number d.nanoseconds.toNat)]

/-- The span of two numbers that were read. -/
def ofParts? : List Json → Option Duration
  | [seconds, nanoseconds] => do of? (← seconds.word64?) (← nanoseconds.word32?)
  | _ => none

/-- Other fields are refused, and so are nanoseconds that make the seconds overflow. -/
def reader : Reading Json :=
  Reading.record ⟨[("secs", word64), ("nanos", word32)], true, fun parts => (ofParts? parts).isSome⟩

def ofJson? (j : Json) : Option Duration := ofParts? j.parts

end Duration

namespace RegionConfig

def toJson (c : RegionConfig) : Json :=
  .object [("product_id", .text c.product), ("version", c.version.toJson),
    ("mutex_init_timeout", c.lockTimeout.toJson)]

def reader : Reading Json :=
  openRecord [("product_id", Reading.text), ("version", SoftwareVersion.reader),
    ("mutex_init_timeout", Duration.reader)]

def ofJson? (j : Json) : Option RegionConfig :=
  match j.parts with
  | [product, version, lockTimeout] =>
    return ⟨← product.text?, ← SoftwareVersion.ofJson? version, ← Duration.ofJson? lockTimeout⟩
  | _ => none

end RegionConfig

/-! ## Whole texts -/

/-- Read a whole text as a value of a type. -/
def JsonText.read {α : Type} (reader : Reading Json) (ofJson? : Json → Option α) (s : String) :
    Except JsonFault α :=
  match reader.all s with
  | .error fault => .error fault
  | .ok value =>
    match ofJson? value with
    | some a => .ok a
    | none => .error .data

end FrameExchange
