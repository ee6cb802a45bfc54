import FrameExchange.Error

/-!
# Events

What readers and writers report about the region while they work.

- `Event` — what happened; `Event.level` and `Event.message` are how it is logged.
- `Event.sessions` — the sessions that a message names, in the order it names them.
-/

namespace FrameExchange

/-- How much an event matters. -/
inductive Level where
  | info
  | warning
  | error
  deriving DecidableEq, Repr

/-- The name of a level in a log. -/
def Level.name : Level → String
  | info => "INFO"
  | warning => "WARN"
  | error => "ERROR"

/-- Something that happened on a region. A region is named by its mapping, a lock by its own
name. -/
inductive Event where
  | readerOpened (region : String)
  | writerAttached (region : String) (session : UInt64)
  | writerDetached (region : String)
  /-- A new writer found the feeder of another process attached. -/
  | takingOver (region : String) (pid : UInt32)
  | notDetached (region : String) (error : RegionError)
  /-- The lock's last owner died holding it. -/
  | ownerDied (lock : String)
  /-- A reader replaced the header that the dead owner left. -/
  | headerDropped (region : String) (key : FrameKey)
  /-- A writer replaced the header that the dead owner left. -/
  | headerReset (region : String) (session : UInt64)
  | notReleased (lock : String) (error : RegionError)
  /-- A lock whose creator never finished is made anew. -/
  | lockRecreated (lock : String)
  | sessionChanged (region : String) (old new : UInt64)
  | headerIgnored (region : String) (fault : HeaderFault)
  | notRead (region : String) (error : RegionError)
  | handlesNotDuplicated (error : RegionError)
  | noDestination (slot : Slot) (fault : CopyFault)
  | fenceNotReached (slot : Slot) (value : UInt64) (cause : String)
  | notCopied (slot : Slot) (fault : CopyFault)
  /-- A cached reader was asked for a frame before it had places for textures. -/
  | noRing
  | wentBackwards (previous current : UInt64)
  deriving DecidableEq, Repr

namespace Event

/-- How much an event matters. -/
def level : Event → Level
  | readerOpened .. | writerAttached .. | writerDetached .. | sessionChanged .. => .info
  | notReleased .. | noRing => .error
  | _ => .warning

/-- The sessions that the message names. -/
def sessions : Event → List UInt64
  | writerAttached _ session => [session]
  | headerDropped _ key => [key.session]
  | headerReset _ session => [session]
  | sessionChanged _ old new => [old, new]
  | _ => []

/-- The event in words. -/
def message (labels : IdLabels) : Event → String
  | readerOpened region => "Reader opened " ++ region
  | writerAttached region session =>
    "Writer attached to " ++ region ++ " (session " ++ labels.sessionText session ++ ")"
  | writerDetached region => "Writer detached from " ++ region
  | takingOver region pid =>
    "Feeder pid " ++ labels.processText pid ++ " is still attached to " ++ region ++
      "; taking over"
  | notDetached region error => "Failed to detach from " ++ region ++ ": " ++ error.message labels
  | ownerDied lock => "Previous owner of " ++ lock ++ " died holding it"
  | headerDropped region key =>
    "Lock on " ++ region ++ " was abandoned; dropped frame " ++ toString key.frame ++
      " of session " ++ labels.sessionText key.session
  | headerReset region session =>
    "Lock on " ++ region ++ " was abandoned; header reset (session " ++
      labels.sessionText session ++ ")"
  | notReleased lock error => "Failed to release " ++ lock ++ ": " ++ error.message labels
  | lockRecreated lock =>
    (RegionError.neverReady lock).cause labels ++ "; recreating " ++ lock
  | sessionChanged region old new =>
    "Feeder session changed on " ++ region ++ ": " ++ labels.sessionText old ++ " -> " ++
      labels.sessionText new
  | headerIgnored region fault => "Ignoring corrupt header in " ++ region ++ ": " ++ fault.message
  | notRead region error => "Failed to read " ++ region ++ ": " ++ error.message labels
  | handlesNotDuplicated error =>
    "Failed to duplicate feeder handles: " ++ error.message labels
  | noDestination slot fault =>
    "No destination texture for slot " ++ toString slot.val ++ ": " ++ fault.message
  | fenceNotReached slot value cause =>
    "Fence wait for slot " ++ toString slot.val ++ " (value " ++ toString value ++
      ") failed; using the texture as is: " ++ cause
  | notCopied slot fault =>
    "Texture copy from slot " ++ toString slot.val ++ " failed: " ++ fault.message
  | noRing => "CachedReader::maybe_get called before initialize_cache"
  | wentBackwards previous current =>
    "Frame number went backwards: " ++ toString previous ++ " -> " ++ toString current

end Event

end FrameExchange
