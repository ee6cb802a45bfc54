import FrameExchange.Reader

/-!
# Cached readers

A reader for a render loop. As long as the key in the header is the one of the last snapshot it
gives that snapshot again, without lock or copy, and it never waits for the lock. Pixels go into
a ring of textures that moves on after every copy, so that a new frame is not copied over the
picture that is still being shown.

- `CachedReader.get` — the latest frame.
- `CachedReader.place` — the texture for the next copy, made anew where it is missing or of
  another size.
-/

namespace FrameExchange

/-- A texture in a ring. -/
structure RingTexture where
  size : PixelSize
  texture : Nat
  deriving DecidableEq, Repr

/-- A reader with a ring of textures and its last snapshot. -/
structure CachedReader where
  reader : Reader
  kind : ConsumerKind
  gpu : UInt64
  ring : List (Option RingTexture)
  /-- The place in the ring of the next copy. -/
  next : Nat
  cache : Snapshot
  deriving DecidableEq, Repr

namespace CachedReader

open Act

/-- A cached reader without a ring. -/
def fresh (kind : ConsumerKind) : CachedReader := ⟨.fresh, kind, 0, [], 0, .empty⟩

/-- Start over for another adapter, with a ring of `length` places. -/
def restart (c : CachedReader) (gpu : UInt64) (length : UInt8) : CachedReader :=
  { c with gpu, ring := List.replicate length.toNat none, next := 0, cache := .empty }

/-- The texture in the place `index` of a ring, for frames of this size. -/
def place (ring : List (Option RingTexture)) (index : Nat) (size : PixelSize) (copier : Copier) :
    Except CopyFault Nat × List (Option RingTexture) × Copier :=
  match ring[index]? with
  | none => (.error (.notAllocated ("no ring slot " ++ toString index)), ring, copier)
  | some held =>
    match held.filter (·.size = size) with
    | some same => (.ok same.texture, ring, copier)
    | none =>
      if 255 < index then
        (.error (.notAllocated ("ring slot " ++ toString index ++ " out of range")), ring, copier)
      else
        match copier.create index size with
        | (.ok texture, copier) => (.ok texture, ring.set index (some ⟨size, texture⟩), copier)
        | (.error fault, copier) => (.error fault, ring, copier)

/-- Whether the cache holds an older frame number than `snapshot` in the same session. -/
def wentBackwards (c : CachedReader) (snapshot : Snapshot) : Bool :=
  c.cache.isValid && c.cache.key.session == snapshot.key.session &&
    decide (snapshot.sequence < c.cache.sequence)

/-- The cached reader with a new frame. The ring moves on where pixels were copied. -/
def keep (c : CachedReader) (snapshot : Snapshot) : CachedReader :=
  { c with
    cache := snapshot
    next := if snapshot.hasTexture then (c.next + 1) % c.ring.length else c.next }

/-- A snapshot of a fresh header. A snapshot without a frame is given, but not kept. -/
def settle (c : CachedReader) (snapshot : Snapshot) : Act (Snapshot × CachedReader) := do
  if snapshot.isValid then
    if c.wentBackwards snapshot then
      report (.wentBackwards c.cache.sequence snapshot.sequence)
    see c.kind
    return (snapshot, c.keep snapshot)
  else return (if snapshot = .empty then c.cache else snapshot, c)

/-- The snapshot of a header, its pixels in the next place of the ring. -/
def resolve (c : CachedReader) (h : Header) (copier : Copier) :
    Act (Snapshot × CachedReader × Copier) := do
  match ← c.reader.prepare c.gpu h with
  | (.settled snapshot, reader) => return (snapshot, { c with reader }, copier)
  | (.ready handles, reader) =>
    let (destination, ring, copier) := place c.ring c.next h.config.textureSize copier
    let (snapshot, reader, copier) ← reader.finish h handles destination copier
    return (snapshot, { c with reader, ring }, copier)

/-- The header of a read that does not wait; none where there is nothing newer to show. -/
def captureFrame (c : CachedReader) : Act (Option Header × CachedReader) := do
  match ← c.reader.captureOrEmpty .attempt with
  | (.frame h, reader) => return (some h, { c with reader })
  | (_, reader) => return (none, { c with reader })

/-- The latest frame. Without a feeder there is none, and the last snapshot is forgotten; where
the lock is busy or the header of no use, the last snapshot is given again. -/
def get (c : CachedReader) (copier : Copier) : Act (Snapshot × CachedReader × Copier) := do
  if !(← peekAttached) then return (.empty, { c with cache := .empty }, copier)
  if c.ring.isEmpty then
    report .noRing
    return (.empty, c, copier)
  let key ← Reader.key c.kind
  if c.cache.isValid && c.cache.key == key then return (c.cache, c, copier)
  match ← c.captureFrame with
  | (none, c) => return (c.cache, c, copier)
  | (some h, c) =>
    let (snapshot, c, copier) ← c.resolve h copier
    let (snapshot, c) ← c.settle snapshot
    return (snapshot, c, copier)

/-- The latest frame without its pixels; neither ring nor cache changes. -/
def getMetadata (c : CachedReader) : Act (Snapshot × CachedReader) := do
  see c.kind
  let (snapshot, reader) ← c.reader.metadataSnapshot .attempt
  return (snapshot, { c with reader })

end CachedReader

end FrameExchange
