/-!
# Kinds of consumers

Who reads frames, which frames are meant for whom, and who was seen reading lately.

- `ConsumerKind` — the kinds, each a set of bits.
- `ConsumerPattern.covers` — a pattern covers a kind when the kind has all bits of the pattern.
- `ActiveConsumers` — when each kind was last seen. Nothing on the way of a frame reads it back.
-/

namespace FrameExchange

/-- A kind of consumer. -/
inductive ConsumerKind where
  | openVr
  | openXrD3D11
  | openXrD3D12
  | openXrVulkan
  | nonVrD3D11
  /-- A viewer window, which every pattern covers. -/
  | viewer
  deriving DecidableEq, Repr

namespace ConsumerKind

/-- Every kind. -/
def all : List ConsumerKind :=
  [.openVr, .openXrD3D11, .openXrD3D12, .openXrVulkan, .nonVrD3D11, .viewer]

/-- The bits of a kind. -/
def bits : ConsumerKind → UInt32
  | openVr => 1
  | openXrD3D11 => 2
  | openXrD3D12 => 4
  | openXrVulkan => 8
  | nonVrD3D11 => 16
  | viewer => 0xffffffff

/-- The place of a kind in the record of active consumers. -/
def place : ConsumerKind → Fin 6
  | openVr => 0
  | openXrD3D11 => 1
  | openXrD3D12 => 2
  | openXrVulkan => 3
  | nonVrD3D11 => 4
  | viewer => 5

/-- The name of a kind. -/
def name : ConsumerKind → String
  | openVr => "OpenVr"
  | openXrD3D11 => "OpenXrD3D11"
  | openXrD3D12 => "OpenXrD3D12"
  | openXrVulkan => "OpenXrVulkan"
  | nonVrD3D11 => "NonVrD3D11"
  | viewer => "Viewer"

/-- The kind of this name. -/
def ofName? (name : String) : Option ConsumerKind := all.find? (·.name == name)

end ConsumerKind

/-- A set of kinds that a frame is meant for, as a mask. -/
structure ConsumerPattern where
  mask : UInt32
  deriving DecidableEq, Repr, Inhabited

namespace ConsumerPattern

/-- The pattern with the bits of one kind. -/
def ofKind (kind : ConsumerKind) : ConsumerPattern := ⟨kind.bits⟩

/-- Whether every bit of the pattern is a bit of the kind. -/
def covers (p : ConsumerPattern) (kind : ConsumerKind) : Bool := p.mask &&& kind.bits == p.mask

end ConsumerPattern

/-! ## Who was seen -/

/-- For each kind the time at which it was last seen reading, in nanoseconds. -/
structure ActiveConsumers where
  lastSeen : Vector (Option Nat) 6
  deriving DecidableEq, Repr

namespace ActiveConsumers

/-- Nobody has been seen. -/
def empty : ActiveConsumers := ⟨Vector.replicate 6 none⟩

/-- The record after `kind` was seen at `now`. -/
def see (a : ActiveConsumers) (kind : ConsumerKind) (now : Nat) : ActiveConsumers :=
  ⟨a.lastSeen.set kind.place (some now)⟩

/-- When `kind` was last seen. -/
def lastSeenOf (a : ActiveConsumers) (kind : ConsumerKind) : Option Nat := a.lastSeen[kind.place]

/-- The kinds that were ever seen. -/
def seen (a : ActiveConsumers) : List ConsumerKind :=
  ConsumerKind.all.filter fun kind => (a.lastSeenOf kind).isSome

/-- The kinds that were seen at most `window` before `now`. -/
def activeWithin (a : ActiveConsumers) (window now : Nat) : List ConsumerKind :=
  ConsumerKind.all.filter fun kind =>
    match a.lastSeenOf kind with
    | some time => decide (now - time ≤ window)
    | none => false

end ActiveConsumers

end FrameExchange
