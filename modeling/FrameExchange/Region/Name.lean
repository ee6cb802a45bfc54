import FrameExchange.Region.Config
import FrameExchange.Error
import FrameExchange.Header.Layout

/-!
# Names of regions

A region is two shared objects, the mapping that holds the header and the lock over it. Their
names hold product, version and header size, so that programs built differently never meet.

- `RegionNames.of` — the names for a product, a version and a header size.
- `osName` — a name as the system takes it: flat, and not too long.
-/

namespace FrameExchange

/-- What the name of a lock adds to the name of its mapping. -/
def lockSuffix : String := ".mutex"

/-- The names of the two objects of a region. -/
structure RegionNames where
  mapping : String
  lock : String
  deriving DecidableEq, Repr

namespace RegionNames

/-- The names for a product, a version and the length of a header. -/
def of (product : String) (version : SoftwareVersion) (headerSize : Nat) : RegionNames :=
  let mapping := product ++ "/" ++ version.text ++ "-s" ++ Bytes.hexNumber 1 headerSize
  ⟨mapping, mapping ++ lockSuffix⟩

/-- The names of the region that a configuration locates. -/
def ofConfig (c : RegionConfig) : RegionNames := of c.product c.version Header.byteSize

end RegionNames

/-- The separators, which the system's flat names cannot hold, become underlines. -/
def flatten (name : String) : String :=
  name.map fun c => if c = '/' ∨ c = '\\' then '_' else c

/-- The name of an object as the system takes it. A name that is too long is refused before one
that holds a zero character. -/
def osName (name : String) : Except RegionError String :=
  let flat := "/" ++ flatten name
  if longestName < flat.utf8ByteSize then .error (.nameTooLong flat)
  else
    let chars := flat.toList
    if chars.contains (Char.ofNat 0) then
      let before := chars.takeWhile (· ≠ Char.ofNat 0)
      .error (.nameHasZero name (String.ofList before).utf8ByteSize)
    else .ok flat

end FrameExchange
