import FrameExchange.World.Command

/-!
# Worlds

The state that commands work on: one computer, its shared objects, and the objects that the
threads of its processes have open.

- `World.initial` — one process, nothing shared, nothing open.
- `World.act` — an operation of one object.
- `World.status` — what can be seen of an object.
-/

namespace FrameExchange

/-- What an object is. -/
inductive Body where
  | writer (writer : Writer)
  | reader (reader : Reader)
  /-- A cached reader, and the number of its copier. -/
  | cached (cached : CachedReader) (copier : Nat)
  deriving DecidableEq, Repr

/-- An object on a region. -/
structure Object where
  /-- The thread that opened it. -/
  opener : Thread
  region : OpenRegion
  body : Body
  deriving DecidableEq, Repr

/-- A guard that is kept. -/
structure Guard where
  object : String
  thread : Thread
  deriving DecidableEq, Repr

/-- A frame that was begun under a guard and is kept. -/
structure FrameToken where
  guard : String
  next : NextFrame
  deriving DecidableEq, Repr

/-- A snapshot that is kept, and the number of the copier that made its texture. -/
structure KeptSnapshot where
  snapshot : Snapshot
  copier : Nat
  deriving DecidableEq, Repr

/-- The state of everything. -/
structure World where
  system : System
  /-- The number of the next process. -/
  nextPid : UInt32
  /-- The number of the next thread. -/
  nextThread : Nat
  /-- Child processes by name, oldest first. -/
  children : List (String × UInt32)
  objects : Table String Object
  guards : Table String Guard
  tokens : Table String FrameToken
  snapshots : Table String KeptSnapshot
  /-- Textures of the shared copier. -/
  destinations : Table String Nat
  /-- Copiers; the first one is shared. -/
  copiers : Table Nat Copier
  nextCopier : Nat
  keptConsumers : ActiveConsumers

/-- Something that changes a world. -/
abbrev Play := StateM World

namespace World

/-- The number of the copier that belongs to no cached reader. -/
def sharedCopier : Nat := 0

/-- The files that a process has open when it starts: its streams, from descriptor zero on. -/
def streamTable (streams : List String) : Table Nat OpenFile :=
  ⟨streams.zipIdx.map fun (name, place) => (place, ⟨place, name⟩)⟩

/-- A world with one process, whose number is `pid`. -/
def initial (pid : UInt32) (streams : List String) (draw : Nat → UInt32) : World where
  system :=
    { store := .empty
      host :=
        { processes := (∅ : Table UInt32 Process).insert pid (.started 0 (streamTable streams))
          entropy := ⟨draw, 0⟩
          clock := 0
          opened := streams.length
          events := [] } }
  nextPid := pid + 1
  nextThread := 1
  children := []
  objects := ∅
  guards := ∅
  tokens := ∅
  snapshots := ∅
  destinations := ∅
  copiers := (∅ : Table Nat Copier).insert sharedCopier .fresh
  nextCopier := sharedCopier + 1
  keptConsumers := .empty

/-- A copier. -/
def copier (w : World) (number : Nat) : Copier := (w.copiers.get? number).getD .fresh

/-- Change what the object of this name is. -/
def setBody (id : String) (body : Body) : Play Unit :=
  modify fun w => { w with objects := w.objects.adjust id fun o => { o with body } }

/-- Change a copier. -/
def setCopier (number : Nat) (copier : Copier) : Play Unit :=
  modify fun w => { w with copiers := w.copiers.insert number copier }

/-- Change the host. -/
def changeHost (f : Host → Host) : Play Unit :=
  modify fun w => { w with system := { w.system with host := f w.system.host } }

/-- Run an operation of an object of this name on its region. -/
def act {α : Type} (caller : Thread) (id : String) (o : Object) (operation : Act α) :
    Play (Except Failure α) := do
  let w ← get
  let (outcome, region, system) := w.system.act caller o.region operation
  set { w with system, objects := w.objects.adjust id fun o => { o with region } }
  return outcome

/-- The status of the object of this name. -/
def status (w : World) (id : String) : Option Status :=
  (w.objects.get? id).map fun o =>
    let memory := (w.system.store.file o.region.mapping).bytes
    { key := Memory.peekKey memory
      attached :=
        match o.body with
        | .writer _ => none
        | _ => some (Memory.peekAttached memory) }

/-- The copier whose calls belong to the object of this name. -/
def copierOf (w : World) (id : String) : Option Nat :=
  match (w.objects.get? id).map Object.body with
  | some (.reader _) => some sharedCopier
  | some (.cached _ copier) => some copier
  | _ => none

end World

end FrameExchange
