import FrameExchange.Header
import FrameExchange.Lock.Phase

/-!
# Errors

What can go wrong, each cause with the words for it.

- `OsError` — a call of the operating system failed.
- `HandleFault` — a feeder's handle could not be duplicated.
- `RegionError` — a region could not be set up or locked.
- `CopyFault` — a texture could not be copied.
- `Violation` — a caller broke a rule of the interface.
- `Failure` — how a call can end without an answer.
-/

namespace FrameExchange

/-! ## The operating system -/

/-- The failures of system calls that can reach a caller. -/
inductive OsError where
  | notPermitted
  | noSuchProcess
  | badDescriptor
  | isDirectory
  | invalidArgument
  | wouldDeadlock
  | linkLoop
  deriving DecidableEq, Repr

namespace OsError

/-- The number of the error. -/
def code : OsError → Nat
  | notPermitted => 1
  | noSuchProcess => 3
  | badDescriptor => 9
  | isDirectory => 21
  | invalidArgument => 22
  | wouldDeadlock => 35
  | linkLoop => 40

/-- What the system calls the error. -/
def description : OsError → String
  | notPermitted => "Operation not permitted"
  | noSuchProcess => "No such process"
  | badDescriptor => "Bad file descriptor"
  | isDirectory => "Is a directory"
  | invalidArgument => "Invalid argument"
  | wouldDeadlock => "Resource deadlock avoided"
  | linkLoop => "Too many levels of symbolic links"

/-- The error in words, and its number. -/
def message (e : OsError) : String :=
  e.description ++ " (os error " ++ toString e.code ++ ")"

end OsError

/-! ## Names of sessions and processes in messages -/

/-- How sessions and processes are shown: a label in place of the number, where there is one. -/
structure IdLabels where
  session : UInt64 → Option String
  process : UInt32 → Option String

namespace IdLabels

/-- Numbers only. -/
def none : IdLabels := ⟨fun _ => .none, fun _ => .none⟩

/-- The label of a session, or its sixteen hexadecimal digits. -/
def sessionText (l : IdLabels) (session : UInt64) : String :=
  (l.session session).getD ("0x" ++ Bytes.hexNumber 16 session.toNat)

/-- The label of a process, or its number. -/
def processText (l : IdLabels) (pid : UInt32) : String :=
  (l.process pid).getD (toString pid)

end IdLabels

/-! ## Handles -/

/-- A reason why a handle of the feeder could not be duplicated. -/
inductive HandleFault where
  /-- The process number is past the largest one there can be. -/
  | processOutOfRange (pid : UInt32)
  | processNotOpened (pid : UInt32) (reason : OsError)
  /-- The handle is past the largest descriptor there can be. -/
  | notDescriptor (raw : UInt64)
  | notDuplicated (descriptor : UInt64) (reason : OsError)
  deriving DecidableEq, Repr

/-- The fault in words. -/
def HandleFault.message (labels : IdLabels) : HandleFault → String
  | processOutOfRange pid => "pid " ++ labels.processText pid ++ " out of range"
  | processNotOpened pid reason =>
    "pidfd_open(" ++ labels.processText pid ++ ") failed: " ++ reason.message
  | notDescriptor raw => toString raw ++ " is not a descriptor"
  | notDuplicated descriptor reason =>
    "duplicating fd " ++ toString descriptor ++ ": " ++ reason.message

/-! ## Regions -/

/-- The kinds of errors that setting up or locking a region can end in. -/
inductive ErrorKind where
  | io
  | unavailable
  | invalidName
  | lock
  | timeout
  | handleDuplication
  deriving DecidableEq, Repr

/-- What a message of the kind begins with. -/
def ErrorKind.heading : ErrorKind → String
  | io => "I/O error"
  | unavailable => "Shared memory unavailable"
  | invalidName => "Invalid shared memory name"
  | lock => "Lock error"
  | timeout => "Operation timed out"
  | handleDuplication => "Handle duplication failed"

/-- The two ways to take a lock, as the system calls them. -/
inductive LockMode where
  /-- Wait until the lock is free. -/
  | blocking
  /-- Give up at once if it is held. -/
  | attempt
  deriving DecidableEq, Repr

/-- The system call that takes a lock. -/
def LockMode.call : LockMode → String
  | blocking => "pthread_mutex_lock"
  | attempt => "pthread_mutex_trylock"

/-- The longest name that the system accepts, its leading slash included. -/
def longestName : Nat := 255

/-- An error in setting up or locking a region. -/
inductive RegionError where
  /-- A shared object could not be opened. -/
  | notOpened (name : String) (reason : OsError)
  | nameTooLong (osName : String)
  /-- There is a zero character in the name, at this byte. -/
  | nameHasZero (name : String) (position : Nat)
  | notLocked (mode : LockMode) (lock : String) (reason : OsError)
  | notUnlocked (lock : String) (reason : OsError)
  /-- Whoever created the lock never finished. -/
  | neverReady (lock : String)
  | handle (fault : HandleFault)
  | system (reason : OsError)
  /-- Any other cause, in words. -/
  | described (kind : ErrorKind) (cause : String)
  deriving DecidableEq, Repr

namespace RegionError

/-- The kind of the error. -/
def kind : RegionError → ErrorKind
  | notOpened .. => .unavailable
  | nameTooLong .. => .invalidName
  | nameHasZero .. => .invalidName
  | notLocked .. => .lock
  | notUnlocked .. => .lock
  | neverReady .. => .timeout
  | handle .. => .handleDuplication
  | system .. => .io
  | described kind _ => kind

/-- The cause of the error in words. -/
def cause (labels : IdLabels) : RegionError → String
  | notOpened name reason => "shm_open failed for " ++ name ++ ": " ++ reason.message
  | nameTooLong osName =>
    osName ++ " is " ++ toString osName.utf8ByteSize ++ " bytes, limit is " ++ toString longestName
  | nameHasZero name position =>
    name ++ ": nul byte found in provided data at position: " ++ toString position
  | notLocked mode lock reason => mode.call ++ " on " ++ lock ++ ": " ++ reason.message
  | notUnlocked lock reason => "pthread_mutex_unlock on " ++ lock ++ ": " ++ reason.message
  | neverReady lock => lock ++ " was not initialized by its creator"
  | handle fault => fault.message labels
  | system reason => reason.message
  | described _ cause => cause

/-- The error in words. -/
def message (labels : IdLabels) (e : RegionError) : String :=
  e.kind.heading ++ ": " ++ e.cause labels

end RegionError

/-! ## Copies -/

/-- A failure that a copier reports. -/
inductive CopyFault where
  | notImported (cause : String)
  /-- The wait for the fence failed; the copy was made all the same. -/
  | fenceWait (cause : String)
  | notAllocated (cause : String)
  deriving DecidableEq, Repr

/-- The fault in words. -/
def CopyFault.message : CopyFault → String
  | notImported cause => "Import failed: " ++ cause
  | fenceWait cause => "Fence wait failed: " ++ cause
  | notAllocated cause => "Texture allocation failed: " ++ cause

/-! ## Broken rules -/

/-- A rule of the interface that a caller broke. -/
inductive Violation where
  | move (fault : MoveFault)
  | tooManyLayers (count : Nat)
  | layersOnEmptyTexture (count : Nat)
  | emptyLayer (id : UInt64)
  | layerOutside (id : UInt64) (rect : PixelRect) (texture : PixelSize)
  | frameNotSubmitted (slot : Slot)
  | durationOverflow
  deriving DecidableEq, Repr

/-- The broken rule in words. -/
def Violation.message : Violation → String
  | move fault => fault.message
  | tooManyLayers count =>
    "Asked to publish " ++ toString count ++ " layers, but max is " ++ toString maxLayers
  | layersOnEmptyTexture count =>
    "Asked to publish " ++ toString count ++ " layers on an empty texture"
  | emptyLayer id => "Layer " ++ toString id ++ " has an empty rectangle"
  | layerOutside id rect texture =>
    "Layer " ++ toString id ++ " rectangle " ++ rect.describe ++ " is outside the " ++
      toString texture.width ++ "x" ++ toString texture.height ++ " texture"
  | frameNotSubmitted slot =>
    "Frame for slot " ++ toString slot.val ++ " was begun but never submitted"
  | durationOverflow => "overflow in Duration::new"

/-- How a call can end without an answer. -/
inductive Failure where
  | error (error : RegionError)
  | violation (violation : Violation)
  /-- The call waits for a lock that nobody will release. -/
  | blocked
  deriving DecidableEq, Repr

end FrameExchange
