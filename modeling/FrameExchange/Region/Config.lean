import FrameExchange.Bytes
import FrameExchange.Number.Digits

/-!
# Where a region is found

What a feeder and a consumer must agree on to meet, and how long to wait for each other.

- `SoftwareVersion` — the four numbers in a region's name.
- `Duration` — whole seconds and the nanoseconds past them.
- `RegionConfig` — product, version and waiting time; `RegionConfig.ofEnvironment` takes the
  product and the build number from the environment.
-/

namespace FrameExchange

/-! ## Versions -/

/-- The version in a region's name. Feeder and consumer meet only where all four parts agree. -/
structure SoftwareVersion where
  major : UInt32
  minor : UInt32
  patch : UInt32
  build : UInt32
  deriving DecidableEq, Repr, Inhabited

namespace SoftwareVersion

/-- The version of this library. -/
def current : SoftwareVersion := ⟨0, 2, 0, 0⟩

/-- The parts with a point between them. -/
def text (v : SoftwareVersion) : String :=
  toString v.major ++ "." ++ toString v.minor ++ "." ++ toString v.patch ++ "." ++
    toString v.build

end SoftwareVersion

/-- A number of 32 bits as it is written in the environment. -/
def parseWord32? (s : String) : Option UInt32 :=
  (readUnsigned? UInt32.size s.toList).map UInt32.ofNat

/-! ## Durations -/

/-- A span of time. -/
structure Duration where
  seconds : UInt64
  nanoseconds : UInt32
  /-- What is left over is less than a second. -/
  proper : nanoseconds.toNat < 1000000000 := by decide
  deriving DecidableEq, Repr

namespace Duration

instance : Inhabited Duration := ⟨{ seconds := 0, nanoseconds := 0 }⟩

/-- The nanoseconds that whole seconds leave over. -/
theorem mod_proper (nanoseconds : UInt32) : (nanoseconds % 1000000000).toNat < 1000000000 :=
  Nat.mod_lt _ (by decide)

/-- The span of these seconds and nanoseconds; none where the seconds overflow. -/
def of? (seconds : UInt64) (nanoseconds : UInt32) : Option Duration :=
  let total := seconds.toNat + nanoseconds.toNat / 1000000000
  if total < UInt64.size then
    some ⟨UInt64.ofNat total, nanoseconds % 1000000000, mod_proper nanoseconds⟩
  else none

/-- Milliseconds short of a second, in nanoseconds. -/
theorem milliseconds_proper (n : Nat) :
    (UInt32.ofNat (n % 1000 * 1000000)).toNat < 1000000000 := by
  have hrest := Nat.mod_lt n (y := 1000) (by decide)
  have hfits : n % 1000 * 1000000 < UInt32.size := by
    rw [UInt32.size]
    omega
  rw [UInt32.toNat_ofNat_of_lt' hfits]
  omega

/-- A span in whole milliseconds. -/
def ofMilliseconds (ms : UInt64) : Duration :=
  ⟨ms / 1000, UInt32.ofNat (ms.toNat % 1000 * 1000000), milliseconds_proper ms.toNat⟩

/-- The span in nanoseconds. -/
def toNanoseconds (d : Duration) : Nat := d.seconds.toNat * 1000000000 + d.nanoseconds.toNat

end Duration

/-! ## Configuration -/

/-- The product of a region when nothing else is said. -/
def defaultProduct : String := "com.framefeed.overlay"

/-- The environment variable that names the product. -/
def productVariable : String := "FRAMEFEED_SHM_PRODUCT_ID"

/-- The environment variable that gives the build number. -/
def buildVariable : String := "FRAMEFEED_SHM_BUILD"

/-- The values of the two environment variables, as raw bytes, where they are set. -/
structure Environment where
  product : Option ByteArray
  build : Option ByteArray

/-- What locates a region. -/
structure RegionConfig where
  /-- A product identifier, the first part of the region's name. -/
  product : String
  version : SoftwareVersion
  /-- How long to wait for whoever is creating the lock. -/
  lockTimeout : Duration
  deriving DecidableEq, Repr

namespace RegionConfig

/-- The default product in the current version. -/
def default : RegionConfig := ⟨defaultProduct, .current, { seconds := 1, nanoseconds := 0 }⟩

/-- Another product in the current version. -/
def ofProduct (product : String) : RegionConfig := { default with product }

/-- Product and build number from the environment. A value that is not text, is empty or is no
number counts as not set. -/
def ofEnvironment (env : Environment) : RegionConfig :=
  let product :=
    match env.product.bind String.fromUTF8? with
    | some text => if text.isEmpty then defaultProduct else text
    | none => defaultProduct
  let build := ((env.build.bind String.fromUTF8?).bind parseWord32?).getD
    SoftwareVersion.current.build
  { default with product, version := { SoftwareVersion.current with build } }

def withProduct (c : RegionConfig) (product : String) : RegionConfig := { c with product }

def withVersion (c : RegionConfig) (version : SoftwareVersion) : RegionConfig := { c with version }

def withBuild (c : RegionConfig) (build : UInt32) : RegionConfig :=
  { c with version := { c.version with build } }

def withLockTimeout (c : RegionConfig) (lockTimeout : Duration) : RegionConfig :=
  { c with lockTimeout }

end RegionConfig

end FrameExchange
