import FrameExchange.Header

/-!
# Snapshots

What a read gives back: nothing, a reason why there is no picture, or a frame with or without its
pixels. A snapshot never changes; only the texture it names can be written again.

- `Snapshot.header?` — the frame, of a snapshot that has one.
- `Snapshot.key`, `Snapshot.layers`, `Snapshot.config?` — parts of the frame.
-/

namespace FrameExchange

/-- The result of a read. -/
inductive Snapshot where
  /-- No feeder, no lock, or nothing usable. -/
  | empty
  /-- The feeder is on another adapter. -/
  | incorrectGpu
  /-- The feeder's handles could not be used. -/
  | ipcHandleError
  /-- A frame without layers, or one whose pixels were not asked for. -/
  | withoutTexture (header : Header)
  /-- A frame whose pixels are in the texture with this number. -/
  | withTexture (header : Header) (texture : Nat)
  deriving DecidableEq, Repr

namespace Snapshot

/-- The name of what a snapshot is. -/
def state : Snapshot → String
  | empty => "Empty"
  | incorrectGpu => "IncorrectGpu"
  | ipcHandleError => "IpcHandleError"
  | withoutTexture _ => "ValidWithoutTexture"
  | withTexture _ _ => "ValidWithTexture"

/-- The frame. -/
def header? : Snapshot → Option Header
  | withoutTexture header => some header
  | withTexture header _ => some header
  | _ => none

/-- Whether there is a frame. -/
def isValid (s : Snapshot) : Bool := s.header?.isSome

/-- The number of the texture with the frame's pixels. -/
def texture? : Snapshot → Option Nat
  | withTexture _ texture => some texture
  | _ => none

/-- Whether there are pixels. -/
def hasTexture (s : Snapshot) : Bool := s.texture?.isSome

/-- The key of the frame, or the empty key. -/
def key (s : Snapshot) : FrameKey := (s.header?.map Header.key).getD ⟨0, 0⟩

/-- The number of the frame, or zero. -/
def sequence (s : Snapshot) : UInt64 := (s.header?.map Header.frame).getD 0

/-- The settings of the frame. -/
def config? (s : Snapshot) : Option FrameConfig := s.header?.map Header.config

/-- The layers of the frame. -/
def layers (s : Snapshot) : List Layer := (s.header?.map Header.layers).getD []

end Snapshot

end FrameExchange
