import FrameExchange.Error

/-!
# Copiers

A consumer's access to its graphics interface: it makes textures, and copies a feeder's texture
into one of them once a fence has reached a value.

- `Copier.create`, `Copier.copy` — the two calls; every call is recorded, also one that fails.
- `Texture.last` — the last copy that was made into a texture.
-/

namespace FrameExchange

/-- A file that some process has open. Opening a file anew gives it another serial number. -/
structure OpenFile where
  serial : Nat
  name : String
  deriving DecidableEq, Repr

/-- A copy of a feeder's texture, made when `fence` has reached `value`. -/
structure CopyRequest where
  texture : OpenFile
  fence : OpenFile
  value : UInt64
  /-- The number of the texture that the pixels go to. -/
  target : Nat
  deriving DecidableEq, Repr

/-- A call of a copier. -/
inductive CopierCall where
  | create (index : Nat) (size : PixelSize)
  | copy (request : CopyRequest)
  deriving DecidableEq, Repr

/-- A texture of a consumer. Textures are numbered from one in the order they were made. -/
structure Texture where
  id : Nat
  /-- The place that it was made for. -/
  index : Nat
  size : PixelSize
  /-- The last copy into it. -/
  last : Option CopyRequest
  deriving DecidableEq, Repr

/-- A copier: how its next calls end, the textures it made, and the calls since they were last
looked at. -/
structure Copier where
  createFault : Option CopyFault
  copyFault : Option CopyFault
  textures : List Texture
  calls : List CopierCall
  deriving DecidableEq, Repr

namespace Copier

/-- A copier that has done nothing yet, and fails nothing. -/
def fresh : Copier := ⟨none, none, [], []⟩

/-- The texture with this number. -/
def texture? (c : Copier) (id : Nat) : Option Texture := c.textures.find? fun t => t.id == id

/-- Make a texture for the place `index`. -/
def create (c : Copier) (index : Nat) (size : PixelSize) : Except CopyFault Nat × Copier :=
  let called := { c with calls := c.calls ++ [.create index size] }
  match c.createFault with
  | some fault => (.error fault, called)
  | none =>
    let id := c.textures.length + 1
    (.ok id, { called with textures := c.textures ++ [⟨id, index, size, none⟩] })

/-- Whether the pixels arrive although the copy ended in this fault. -/
def copiesDespite : CopyFault → Bool
  | .fenceWait _ => true
  | _ => false

/-- The textures after a copy. -/
def written (textures : List Texture) (request : CopyRequest) : List Texture :=
  textures.map fun t => if t.id = request.target then { t with last := some request } else t

/-- Copy a feeder's texture. -/
def copy (c : Copier) (request : CopyRequest) : Except CopyFault Unit × Copier :=
  let called := { c with calls := c.calls ++ [.copy request] }
  match c.copyFault with
  | some fault =>
    (.error fault,
      if copiesDespite fault then { called with textures := written c.textures request }
      else called)
  | none => (.ok (), { called with textures := written c.textures request })

/-- The copier with nothing left to look at. -/
def looked (c : Copier) : Copier := { c with calls := [] }

end Copier

end FrameExchange
