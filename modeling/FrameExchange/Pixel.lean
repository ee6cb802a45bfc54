import FrameExchange.Bytes.Codec

/-!
# Pixels

Sizes, points and rectangles in whole pixels, and when a rectangle lies inside a texture.

- `PixelRect.fitsWithin` — both far edges exist as 32-bit numbers and lie inside the bounds.
-/

namespace FrameExchange

/-- The sum of two words, if it is a word. -/
def checkedAdd (a b : UInt32) : Option UInt32 :=
  if a + b < a then none else some (a + b)

/-- A size in pixels. -/
structure PixelSize where
  width : UInt32
  height : UInt32
  deriving DecidableEq, Repr, Inhabited

/-- A position in pixels. -/
structure PixelPoint where
  x : UInt32
  y : UInt32
  deriving DecidableEq, Repr, Inhabited

/-- A rectangle in pixels: its top left corner and its extent. -/
structure PixelRect where
  origin : PixelPoint
  size : PixelSize
  deriving DecidableEq, Repr, Inhabited

namespace PixelSize

/-- Whether either dimension is zero. -/
def isEmpty (s : PixelSize) : Bool := s.width == 0 || s.height == 0

/-- The size as a record with its field names. -/
def describe (s : PixelSize) : String :=
  "PixelSize \x7b width: " ++ toString s.width ++ ", height: " ++ toString s.height ++ " \x7d"

def codec : Codec PixelSize :=
  (Codec.uint32.pair Codec.uint32).transport (fun p => ⟨p.1, p.2⟩) (fun s => (s.width, s.height))
    (fun _ => rfl) (fun _ => rfl)

end PixelSize

namespace PixelPoint

/-- The point as a record with its field names. -/
def describe (p : PixelPoint) : String :=
  "PixelPoint \x7b x: " ++ toString p.x ++ ", y: " ++ toString p.y ++ " \x7d"

def codec : Codec PixelPoint :=
  (Codec.uint32.pair Codec.uint32).transport (fun p => ⟨p.1, p.2⟩) (fun p => (p.x, p.y))
    (fun _ => rfl) (fun _ => rfl)

end PixelPoint

namespace PixelRect

/-- The rectangle at `(x, y)` with this width and height. -/
def of (x y width height : UInt32) : PixelRect := ⟨⟨x, y⟩, ⟨width, height⟩⟩

/-- Whether the rectangle lies inside `bounds`, whose own corner is `(0, 0)`. A far edge past the
largest word lies outside everything. -/
def fitsWithin (r : PixelRect) (bounds : PixelSize) : Bool :=
  match checkedAdd r.origin.x r.size.width, checkedAdd r.origin.y r.size.height with
  | some right, some bottom => decide (right ≤ bounds.width ∧ bottom ≤ bounds.height)
  | _, _ => false

/-- The rectangle as a record with its field names. -/
def describe (r : PixelRect) : String :=
  "PixelRect \x7b origin: " ++ r.origin.describe ++ ", size: " ++ r.size.describe ++ " \x7d"

def codec : Codec PixelRect :=
  (PixelPoint.codec.pair PixelSize.codec).transport (fun p => ⟨p.1, p.2⟩)
    (fun r => (r.origin, r.size)) (fun _ => rfl) (fun _ => rfl)

end PixelRect

end FrameExchange
