import FrameExchange.Region.Site
import FrameExchange.Region.Store

/-!
# Open regions

An object that has opened a region knows its names, the two files that it found under them, and
its own lock book. It keeps the files when the names are taken away.

- `System.attach` — open a region.
- `System.act` — run an operation of one object on its region.
-/

namespace FrameExchange

/-- A region that an object has open. -/
structure OpenRegion where
  names : RegionNames
  /-- The file of the mapping. -/
  mapping : Nat
  /-- The file of the lock. -/
  lock : Nat
  book : LockBook
  deriving DecidableEq, Repr

namespace System

/-- Open the region of a configuration. -/
def attach (s : System) (config : RegionConfig) (role : Role) :
    Except RegionError OpenRegion × System :=
  let names := RegionNames.ofConfig config
  match s.openRegion names config.lockTimeout with
  | (.error error, s) => (.error error, s)
  | (.ok (mapping, lock), s) => (.ok ⟨names, mapping, lock, .fresh role⟩, s)

/-- What an operation of `caller` on a region can reach. -/
def site (s : System) (caller : Thread) (r : OpenRegion) : Site where
  caller := caller
  names := r.names
  book := r.book
  memory := (s.store.file r.mapping).bytes
  mutex := (s.store.file r.lock).mutex
  host := s.host

/-- The system after an operation has left the site like this. -/
def leave (s : System) (r : OpenRegion) (site : Site) : System :=
  let mapped := s.store.setFile r.mapping { s.store.file r.mapping with bytes := site.memory }
  { store := mapped.setFile r.lock { mapped.file r.lock with mutex := site.mutex }
    host := site.host }

/-- Run an operation of `caller` on a region. -/
def act {α : Type} (s : System) (caller : Thread) (r : OpenRegion) (operation : Act α) :
    Except Failure α × OpenRegion × System :=
  match operation (s.site caller r) with
  | .ok a site => (.ok a, { r with book := site.book }, s.leave r site)
  | .error failure site => (.error failure, { r with book := site.book }, s.leave r site)

/-- The system after a thread has died: every lock that it held has lost its owner. -/
def threadDies (s : System) (thread : Thread) : System :=
  { s with
    store :=
      { s.store with
        files := ⟨s.store.files.entries.map fun (id, file) =>
          (id, { file with mutex := file.mutex.ownerDies thread })⟩ } }

end System

end FrameExchange
