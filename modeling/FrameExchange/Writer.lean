import FrameExchange.Region.Lock

/-!
# Writers

The feeder's side of a region. A writer takes the lock, begins a frame, and submits it; the frame
number in the header counts the frames of a session.

- `Writer.attach` — a new session when a writer opens the region.
- `Writer.beginFrame`, `Writer.submit` — a frame: where to render it, and what was rendered.
- `Frame.check` — the frames that are refused.
- `Writer.submitEmpty`, `Writer.detach` — a frame without pixels, and the end of a session.
- `Writer.publish` and its like — all of it under one guard.
-/

namespace FrameExchange

/-- What a writer keeps of its own. -/
structure Writer where
  gpu : UInt64
  /-- The process that opened it. -/
  pid : UInt32
  deriving DecidableEq, Repr

/-- Where to render the next frame, and the fence value to signal when that is done. -/
structure NextFrame where
  slot : Slot
  fenceValue : UInt64
  deriving DecidableEq, Repr

/-- A rendered frame. -/
structure Frame where
  config : FrameConfig
  layers : List Layer
  /-- The texture's handle in the writer's process. -/
  texture : UInt64
  /-- The fence's handle in the writer's process. -/
  fence : UInt64
  deriving DecidableEq, Repr

namespace Frame

/-- What is wrong with one layer: an empty rectangle is reported before one that lies outside. -/
def checkLayer (texture : PixelSize) (layer : Layer) : Except Violation Unit :=
  if layer.rect.size.isEmpty then .error (.emptyLayer layer.id)
  else if layer.rect.fitsWithin texture then .ok ()
  else .error (.layerOutside layer.id layer.rect texture)

/-- The first of the reasons to refuse a frame: too many layers, layers on an empty texture, a
layer with an empty rectangle or outside the texture. -/
def check (f : Frame) : Except Violation Unit :=
  let texture := f.config.textureSize
  if maxLayers < f.layers.length then .error (.tooManyLayers f.layers.length)
  else if !f.layers.isEmpty && texture.isEmpty then
    .error (.layersOnEmptyTexture f.layers.length)
  else f.layers.forM (checkLayer texture)

end Frame

namespace Writer

open Act

/-- Take the lock. A header whose owner died while it held the lock is replaced by one of a new
session. -/
def lock (w : Writer) (mode : LockMode) : Act Acquired := do
  let acquired ← acquire mode
  if acquired = .held true then
    let header ← newHeader w.gpu
    store header
    report (.headerReset (← region) header.session)
  return acquired

/-- Choose the slot of the next frame, and raise its fence value. -/
def beginFrame : Act NextFrame := do
  move .locked .frameInProgress
  let slot := Header.slotOf ((← load).frame + 1)
  modify fun s => { s with memory := Memory.raiseFence s.memory slot }
  return ⟨slot, (← load).fenceValue slot⟩

/-- Publish the frame that was begun. -/
def submit (w : Writer) (frame : Frame) : Act Unit := do
  match frame.check with
  | .error violation => throw (.violation violation)
  | .ok () =>
    move .frameInProgress .submittingFrame
    update fun h => h.publish w.gpu w.pid frame.config frame.layers frame.texture frame.fence
    move .submittingFrame .locked

/-- Drop a frame that was begun. It must be submitted instead. -/
def abandon (next : NextFrame) : Act Unit := throw (.violation (.frameNotSubmitted next.slot))

/-- Publish that the feeder is alive and shows nothing. -/
def submitEmpty (w : Writer) : Act Unit := do
  move .locked .submittingEmptyFrame
  update fun h => h.publishEmpty w.gpu w.pid
  move .submittingEmptyFrame .locked

/-- Start a session without a feeder, so that readers let go of the last one. -/
def detach (w : Writer) : Act Unit := do
  move .locked .detaching
  store (← newHeader w.gpu)
  move .detaching .locked
  report (.writerDetached (← region))

/-- `body` under a guard of its own, or nothing where the lock is busy. -/
def locked {α : Type} (w : Writer) (mode : LockMode) (body : Act α) : Act (Option α) := do
  match ← w.lock mode with
  | .busy => return none
  | .held _ => return some (← guarded body)

/-- Replace whatever is in the header by a new session, the feeder of another process included. -/
def takeOver (w : Writer) : Act UInt64 := do
  let previous ← load
  if previous.hasFeeder && previous.feederPid ≠ w.pid then
    report (.takingOver (← region) previous.feederPid)
  let header ← newHeader w.gpu
  store header
  return header.session

/-- The end of a writer: it detaches, if it can take the lock. -/
def close (w : Writer) : Act Unit := do
  match ← attempt (w.locked .blocking w.detach) with
  | .ok _ => return ()
  | .error (.error error) => report (.notDetached (← region) error)
  | .error failure => throw failure

/-- The start of a writer on its region. Where that fails the writer ends at once. -/
def attach (w : Writer) : Act Unit := do
  match ← attempt (w.locked .blocking w.takeOver) with
  | .ok (some session) => report (.writerAttached (← region) session)
  | .ok none => return ()
  | .error failure =>
    let _ ← attempt w.close
    throw failure

/-- Begin and submit a frame under one guard. -/
def publish (w : Writer) (mode : LockMode) (frame : Frame) : Act (Option NextFrame) :=
  w.locked mode do
    let next ← beginFrame
    w.submit frame
    return next

/-- Submit an empty frame under one guard. -/
def publishEmpty (w : Writer) (mode : LockMode) : Act (Option Unit) := w.locked mode w.submitEmpty

/-- Detach under one guard. -/
def publishDetach (w : Writer) (mode : LockMode) : Act (Option Unit) := w.locked mode w.detach

/-- Begin a frame under one guard and drop it. -/
def beginOnly (w : Writer) (mode : LockMode) : Act (Option Unit) :=
  w.locked mode do abandon (← beginFrame)

end Writer

end FrameExchange
