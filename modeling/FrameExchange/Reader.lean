import FrameExchange.Region.Lock
import FrameExchange.Snapshot

/-!
# Readers

The consumer's side of a region. A reader copies the header out under the lock; everything else
works on the copy. The feeder's handles are duplicated once for each slot and used again as long
as the feeder publishes the same ones; a new session drops them.

- `Reader.capture` — the header, if it is one of a feeder and can be trusted.
- `Reader.prepare`, `Reader.finish` — from a header to a snapshot: handles first, then the copy.
- `Reader.read`, `Reader.readMetadata` — a read with its pixels, and one without.
-/

namespace FrameExchange

/-- Texture and fence of one slot, with the handles they were duplicated from. -/
structure SlotHandles where
  rawTexture : UInt64
  rawFence : UInt64
  texture : OpenFile
  fence : OpenFile
  deriving DecidableEq, Repr

/-- Whether these are duplicates of the handles that the header publishes. -/
def SlotHandles.matches (s : SlotHandles) (h : Header) : Bool :=
  s.rawTexture == h.texture && s.rawFence == h.fence

/-- What a reader keeps of its own. -/
structure Reader where
  /-- The session of the last header it copied. -/
  session : UInt64
  /-- The process it has opened to duplicate handles. -/
  feeder : Option OpenedProcess
  slots : Vector (Option SlotHandles) 2
  deriving DecidableEq, Repr

/-- A reader that has read nothing yet. -/
def Reader.fresh : Reader := ⟨0, none, Vector.replicate 2 none⟩

/-- The outcome of copying the header. -/
inductive Capture where
  /-- The lock was held by another thread. -/
  | busy
  /-- There is no feeder, or its header cannot be trusted. -/
  | empty
  | frame (header : Header)
  deriving DecidableEq, Repr

namespace Reader

open Act

/-! ## The header -/

/-- Take the lock. A header whose owner died while it held the lock is replaced by one of a new
session on the same adapter. -/
def lock (mode : LockMode) : Act Acquired := do
  let acquired ← acquire mode
  if acquired = .held true then
    let dead ← load
    store (← newHeader dead.gpu)
    report (.headerDropped (← region) dead.key)
  return acquired

/-- The header, under the lock. -/
def metadata : Act Header := do
  move .locked .copyingHeader
  let header ← load
  move .copyingHeader .locked
  return header

/-- The header, under a guard of its own; nothing where the lock is busy. -/
def header (mode : LockMode) : Act (Option Header) := do
  match ← lock mode with
  | .busy => return none
  | .held _ => return some (← guarded metadata)

/-- The reader after it has seen a header: of another session it keeps no handles. -/
def follow (r : Reader) (h : Header) : Reader :=
  if h.session = r.session then r else { fresh with session := h.session }

/-- Copy the header, follow its session, and check it. -/
def capture (r : Reader) (mode : LockMode) : Act (Capture × Reader) := do
  match ← header mode with
  | none => return (.busy, r)
  | some h =>
    if h.session ≠ r.session then report (.sessionChanged (← region) r.session h.session)
    let r := r.follow h
    if !h.hasFeeder then return (.empty, r)
    match h.validate with
    | .error fault =>
      report (.headerIgnored (← region) fault)
      return (.empty, r)
    | .ok () => return (.frame h, r)

/-! ## Handles -/

/-- The feeder process of the header, which is opened unless one with its number already is. -/
def reach (r : Reader) (host : Host) (caller : UInt32) (h : Header) :
    Except HandleFault OpenedProcess :=
  match r.feeder with
  | some feeder =>
    if feeder.pid = h.feederPid then .ok feeder else host.openProcess caller h.feederPid
  | none => host.openProcess caller h.feederPid

/-- Duplicate the two handles of the header out of the feeder process. -/
def duplicateHandles (r : Reader) (host : Host) (caller : UInt32) (h : Header) :
    Except HandleFault (OpenedProcess × SlotHandles) := do
  let feeder ← r.reach host caller h
  let texture ← host.duplicate feeder h.texture
  let fence ← host.duplicate feeder h.fence
  return (feeder, ⟨h.texture, h.fence, texture, fence⟩)

/-- The handles of the header's slot: those at hand where they match, else fresh duplicates. -/
def handles (r : Reader) (host : Host) (caller : UInt32) (h : Header) :
    Except HandleFault (SlotHandles × Reader) :=
  match r.slots[h.slot] with
  | some known => if known.matches h then .ok (known, r) else fresh
  | none => fresh
where
  fresh : Except HandleFault (SlotHandles × Reader) :=
    (r.duplicateHandles host caller h).map fun (feeder, new) =>
      (new, { r with feeder := some feeder, slots := r.slots.set h.slot (some new) })

/-! ## Snapshots -/

/-- How far a header gets without a texture to copy into. -/
inductive Prepared where
  /-- The snapshot needs no copy. -/
  | settled (snapshot : Snapshot)
  /-- There are pixels to copy. -/
  | ready (handles : SlotHandles)
  deriving DecidableEq, Repr

/-- The adapter is checked, then whether there are layers, then the handles. -/
def prepare (r : Reader) (gpu : UInt64) (h : Header) : Act (Prepared × Reader) := do
  if h.gpu ≠ gpu then return (.settled .incorrectGpu, r)
  if h.layerCount = 0 then return (.settled (.withoutTexture h), r)
  let s ← get
  match r.handles s.host s.caller.pid h with
  | .ok (handles, r) => return (.ready handles, r)
  | .error fault =>
    report (.handlesNotDuplicated (.handle fault))
    return (.settled .ipcHandleError, { r with feeder := none })

/-- Copy the pixels. A fault other than a failed wait for the fence drops the slot's handles. -/
def finish (r : Reader) (h : Header) (handles : SlotHandles)
    (destination : Except CopyFault Nat) (copier : Copier) :
    Act (Snapshot × Reader × Copier) := do
  match destination with
  | .error fault =>
    report (.noDestination h.slot fault)
    return (.ipcHandleError, r, copier)
  | .ok target =>
    let value := h.fenceValue h.slot
    match copier.copy ⟨handles.texture, handles.fence, value, target⟩ with
    | (.ok (), copier) => return (.withTexture h target, r, copier)
    | (.error (.fenceWait cause), copier) =>
      report (.fenceNotReached h.slot value cause)
      return (.withTexture h target, r, copier)
    | (.error fault, copier) =>
      report (.notCopied h.slot fault)
      return (.ipcHandleError, { r with slots := r.slots.set h.slot none }, copier)

/-- The header of a read; a read that cannot lock is one of an empty region. -/
def captureOrEmpty (r : Reader) (mode : LockMode) : Act (Capture × Reader) := do
  match ← attempt (r.capture mode) with
  | .ok captured => return captured
  | .error (.error error) =>
    report (.notRead (← region) error)
    return (.empty, r)
  | .error failure => throw failure

/-- Read the frame, and copy its pixels into the texture `target`. -/
def read (r : Reader) (kind : ConsumerKind) (gpu : UInt64) (target : Nat) (copier : Copier) :
    Act (Snapshot × Reader × Copier) := do
  see kind
  match ← r.captureOrEmpty .blocking with
  | (.frame h, r) =>
    match ← r.prepare gpu h with
    | (.settled snapshot, r) => return (snapshot, r, copier)
    | (.ready handles, r) => r.finish h handles (.ok target) copier
  | (_, r) => return (.empty, r, copier)

/-- The frame without its pixels. -/
def metadataSnapshot (r : Reader) (mode : LockMode) : Act (Snapshot × Reader) := do
  match ← r.captureOrEmpty mode with
  | (.frame h, r) => return (.withoutTexture h, r)
  | (_, r) => return (.empty, r)

/-- Read the frame without its pixels. -/
def readMetadata (r : Reader) (kind : ConsumerKind) : Act (Snapshot × Reader) := do
  see kind
  r.metadataSnapshot .blocking

/-- The key that a read would find now, without the lock. -/
def key (kind : ConsumerKind) : Act FrameKey := do
  see kind
  peekKey

end Reader

end FrameExchange
