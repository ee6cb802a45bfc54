import FrameExchange.Inspect.Tool
import FrameExchange.Writer
import FrameExchange.Reader.Cached

/-!
# Commands

What the threads of a world can do, one command at a time, and what comes of it. Objects, guards,
frames, snapshots and textures are known by names that the commands choose.

- `Command` — everything that can be done.
- `Reply` — the answer to a command.
- `Outcome` — the answer, what was logged, and what can be seen of the object afterwards.
-/

namespace FrameExchange

/-- What another process writes into a region. -/
inductive Written where
  | bytes (bytes : Bytes)
  /-- The number of the process that the command is given in. -/
  | ownPid
  /-- The number of a child process. -/
  | childPid (name : String)
  deriving DecidableEq, Repr

/-- What somebody leaves under a name. -/
inductive Squatter where
  | file (bytes : Bytes)
  | directory
  | link
  deriving DecidableEq, Repr

/-- One of the two objects of a region. -/
inductive RegionPart where
  | mapping
  | lock
  deriving DecidableEq, Repr

/-- A command of a thread. -/
inductive Command where
  -- Objects
  | openWriter (id : String) (config : RegionConfig) (gpu : UInt64)
  | openReader (id : String) (config : RegionConfig)
  | openCached (id : String) (config : RegionConfig) (kind : ConsumerKind)
  | close (id : String)
  -- Guards and frames
  | lock (id guard : String) (mode : LockMode)
  | unlock (guard : String)
  | metadata (guard : String)
  | beginFrame (guard token : String)
  | nextFrame (token : String)
  | submit (token : String) (frame : Frame)
  | abandon (token : String)
  | submitEmpty (guard : String)
  | detach (guard : String)
  -- Writers
  | publish (id : String) (mode : LockMode) (frame : Frame)
  | publishEmpty (id : String) (mode : LockMode)
  | publishDetach (id : String) (mode : LockMode)
  | beginOnly (id : String) (mode : LockMode)
  -- Readers
  | describe (id : String)
  | key (id : String) (kind : ConsumerKind)
  | header (id : String) (mode : LockMode)
  | readMetadata (id : String) (kind : ConsumerKind)
  | makeDestination (name : String) (size : PixelSize)
  | read (id : String) (kind : ConsumerKind) (gpu : UInt64) (destination : String)
      (keep : Option String)
  | restartCache (id : String) (gpu : UInt64) (length : UInt8)
  | get (id : String) (keep : Option String)
  | getMetadata (id : String)
  | showAgain (snapshot : String)
  /-- How the copier of a cached reader, or the shared one, ends its calls. -/
  | setFaults (id : Option String) (create copy : Option CopyFault)
  -- The host
  | openFile (descriptor : Nat) (name : String)
  | closeFile (descriptor : Nat)
  | fork (child : String)
  | kill (child : String)
  | sleep (ns : Nat)
  | see (kind : ConsumerKind)
  | forgetConsumers
  | keepConsumers
  /-- Who was active, in the kept record or in the current one. -/
  | consumers (kept : Bool) (window : Nat)
  -- Shared objects
  | write (config : RegionConfig) (part : RegionPart) (offset : Nat) (what : Written)
  | memory (config : RegionConfig)
  | list
  | squat (config : RegionConfig) (part : RegionPart) (squatter : Squatter)
  | unlink (config : RegionConfig)
  | inspect (arguments : List String) (environment : Environment)

/-- What a snapshot shows: its frame, and its texture as it is now. -/
structure Shown where
  snapshot : Snapshot
  texture : Option Texture
  deriving DecidableEq, Repr

/-- The answer to a command. -/
inductive Reply where
  | done
  | closed
  | writerLocked
  | readerLocked (abandoned : Bool)
  | busy
  | unlocked
  | submitted
  | detached
  | header (header : Header)
  | next (next : NextFrame)
  | writer (gpu : UInt64) (names : RegionNames)
  | names (names : RegionNames)
  | key (key : FrameKey)
  | shown (shown : Shown)
  | texture (id : Nat)
  | memory (bytes : Bytes)
  | missing
  | listing (objects : List (String × Option Nat))
  | consumers (seen within : List ConsumerKind) (same : Bool)
  | inspected (result : InspectResult)
  | failed (failure : Failure)
  /-- A name in the command stands for nothing. -/
  | unknown
  deriving DecidableEq, Repr

/-- What can be seen of an object without its lock. -/
structure Status where
  key : FrameKey
  /-- Whether a feeder is attached; only readers tell. -/
  attached : Option Bool
  deriving DecidableEq, Repr

/-- What came of a command. -/
structure Outcome where
  reply : Reply
  events : List Event
  status : Option Status
  calls : List CopierCall
  deriving DecidableEq, Repr

end FrameExchange
