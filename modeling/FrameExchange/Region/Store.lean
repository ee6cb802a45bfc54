import FrameExchange.Region.Name
import FrameExchange.Lock.Mutex
import FrameExchange.Host

/-!
# Shared objects

The namespace in which regions are found. A name stands for a file, whose bytes and lock everyone
who opened it shares; a file lives on without its name. Directories and links only get in the
way.

- `SharedStore.openMapping` — the mapping of a region, made where it is missing and extended
  where it is too short.
- `System.openLock` — the lock of a region. A lock that its creator never finished is removed
  and made anew, once.
- `SharedStore.unlinkRegion` — take both names away.
-/

namespace FrameExchange

/-- The contents of a shared object. -/
structure SharedFile where
  bytes : Bytes
  mutex : Mutex
  deriving DecidableEq, Repr

/-- A file of bytes in which nobody has set up a lock. -/
def SharedFile.ofBytes (bytes : Bytes) : SharedFile := ⟨bytes, .fresh .plain⟩

/-- What a name stands for. -/
inductive SharedEntry where
  | file (id : Nat)
  | directory
  | link
  deriving DecidableEq, Repr

/-- All shared objects: what the names stand for, and all files that were ever made. -/
structure SharedStore where
  entries : Table String SharedEntry
  files : Table Nat SharedFile
  /-- The number of the next file. -/
  next : Nat

/-- The store and the host that it is on. -/
structure System where
  store : SharedStore
  host : Host

namespace SharedStore

/-- No names and no files. -/
def empty : SharedStore := ⟨∅, ∅, 0⟩

/-- The file with this number. -/
def file (s : SharedStore) (id : Nat) : SharedFile := (s.files.get? id).getD (.ofBytes [])

/-- The store with other contents of a file. -/
def setFile (s : SharedStore) (id : Nat) (file : SharedFile) : SharedStore :=
  { s with files := s.files.insert id file }

/-- The store with a new file of this name. -/
def createFile (s : SharedStore) (osName : String) (file : SharedFile) : Nat × SharedStore :=
  (s.next, ⟨s.entries.insert osName (.file s.next), s.files.insert s.next file, s.next + 1⟩)

/-- The name of each object, and its size where it is a file. -/
def listing (s : SharedStore) : List (String × Option Nat) :=
  s.entries.entries.map fun (name, entry) =>
    match entry with
    | .file id => (name, some (s.file id).bytes.length)
    | _ => (name, none)

/-! ## The mapping -/

/-- The mapping of a region, at least as long as a header. -/
def openMapping (s : SharedStore) (names : RegionNames) : Except RegionError (Nat × SharedStore) := do
  let name ← osName names.mapping
  match s.entries.get? name with
  | none => return s.createFile name (.ofBytes (Bytes.zeros Header.byteSize))
  | some (.file id) =>
    let file := s.file id
    return (id, s.setFile id { file with bytes := file.bytes.extend Header.byteSize })
  | some .directory => throw (.notOpened names.mapping .invalidArgument)
  | some .link => throw (.notOpened names.mapping .linkLoop)

/-! ## The lock -/

/-- The length of a lock in memory. -/
def lockSize : Nat := 48

/-- The first word of a lock that can be used. -/
def lockReady : UInt32 := 1

/-- A lock that is set up and that nobody holds. -/
def freshLock : SharedFile :=
  ⟨Codec.uint32.encode lockReady ++ Bytes.zeros (lockSize - 4), .fresh .checked⟩

/-- Whether the creator of a lock has finished it. -/
def isReady (bytes : Bytes) : Bool :=
  decide (lockSize ≤ bytes.length) && Memory.word32 bytes 0 == lockReady

/-! ## Unlinking -/

/-- Take a name away. A name that stands for nothing is no error. -/
def unlink (s : SharedStore) (name : String) : Except RegionError SharedStore := do
  let flat ← osName name
  match s.entries.get? flat with
  | some .directory => throw (.system .isDirectory)
  | _ => return { s with entries := s.entries.erase flat }

/-- Take away the names of a region, the mapping first. What was done before an error stays
done. -/
def unlinkRegion (s : SharedStore) (names : RegionNames) : Except RegionError Unit × SharedStore :=
  match s.unlink names.mapping with
  | .error error => (.error error, s)
  | .ok s =>
    match s.unlink names.lock with
    | .error error => (.error error, s)
    | .ok s => (.ok (), s)

end SharedStore

namespace System

/-- One attempt to open a lock. Where its creator has not finished it, the whole time is spent
waiting. -/
def openLockOnce (s : System) (names : RegionNames) (name : String) (timeout : Duration) :
    Except RegionError Nat × System :=
  match s.store.entries.get? name with
  | none =>
    let (id, store) := s.store.createFile name SharedStore.freshLock
    (.ok id, { s with store })
  | some (.file id) =>
    if SharedStore.isReady (s.store.file id).bytes then (.ok id, s)
    else (.error (.neverReady names.lock), { s with host := s.host.sleep timeout.toNanoseconds })
  | some .directory => (.error (.notOpened names.lock .invalidArgument), s)
  | some .link => (.error (.notOpened names.lock .linkLoop), s)

/-- Open the lock of a region, or make it. -/
def openLock (s : System) (names : RegionNames) (timeout : Duration) :
    Except RegionError Nat × System :=
  match osName names.lock with
  | .error error => (.error error, s)
  | .ok name =>
    match s.openLockOnce names name timeout with
    | (.error (.neverReady lock), s) =>
      let s := { s with host := s.host.report (.lockRecreated lock) }
      match s.store.unlink names.lock with
      | .error error => (.error error, s)
      | .ok store => { s with store }.openLockOnce names name timeout
    | outcome => outcome

/-- Open mapping and lock of a region, in this order. -/
def openRegion (s : System) (names : RegionNames) (timeout : Duration) :
    Except RegionError (Nat × Nat) × System :=
  match s.store.openMapping names with
  | .error error => (.error error, s)
  | .ok (mapping, store) =>
    match { s with store }.openLock names timeout with
    | (.error error, s) => (.error error, s)
    | (.ok lock, s) => (.ok (mapping, lock), s)

end System

end FrameExchange
