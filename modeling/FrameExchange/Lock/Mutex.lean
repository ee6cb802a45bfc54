import FrameExchange.Error

/-!
# Named locks

The lock over a region, shared by every process. It knows its owner: taking it twice in one
thread is an error, so is releasing what another thread holds, and when the owner dies the next
one to take it is told. A lock that somebody else left under the name need not do any of this.

- `Mutex.take` — taking the lock, whether or not the caller is ready to wait.
- `Mutex.release` — giving it back.
- `Mutex.ownerDies` — what the death of a thread does to it.
-/

namespace FrameExchange

/-- A thread of a process. -/
structure Thread where
  pid : UInt32
  index : Nat
  deriving DecidableEq, Repr

/-- What a lock does about its owner. -/
inductive MutexKind where
  /-- It checks who calls, and notices when its owner dies. Locks are set up like this. -/
  | checked
  /-- It only knows whether it is held. -/
  | plain
  deriving DecidableEq, Repr

/-- Whether a lock is held. -/
inductive Holding where
  | free
  | held (owner : Thread)
  /-- The owner died holding it. -/
  | orphaned
  deriving DecidableEq, Repr

/-- A lock. -/
structure Mutex where
  kind : MutexKind
  holding : Holding
  deriving DecidableEq, Repr

/-- What came of an attempt to take a lock. -/
inductive Taken where
  | acquired
  /-- The lock is held now, and its previous owner died holding it. -/
  | abandoned
  /-- It is held already. -/
  | busy
  deriving DecidableEq, Repr

namespace Mutex

/-- A lock of this kind that nobody holds. -/
def fresh (kind : MutexKind) : Mutex := ⟨kind, .free⟩

/-- Whether the lock knows that this thread owns it. -/
def knowsOwner (m : Mutex) (thread : Thread) : Bool :=
  m.kind = .checked && m.holding = .held thread

/-- The caller takes the lock, unless it is held. Taking again what one holds would never end; a
checked lock refuses it. -/
def take (m : Mutex) (caller : Thread) : Except OsError (Taken × Mutex) :=
  match m.holding with
  | .free => .ok (.acquired, { m with holding := .held caller })
  | .orphaned => .ok (.abandoned, { m with holding := .held caller })
  | .held _ => if m.knowsOwner caller then .error .wouldDeadlock else .ok (.busy, m)

/-- The caller gives the lock back. Only its owner can give back a checked lock. -/
def release (m : Mutex) (caller : Thread) : Except OsError Mutex :=
  if m.knowsOwner caller || m.kind = .plain then .ok { m with holding := .free }
  else .error .notPermitted

/-- The lock after a thread has died. A plain lock stays held for ever. -/
def ownerDies (m : Mutex) (thread : Thread) : Mutex :=
  if m.knowsOwner thread then { m with holding := .orphaned } else m

end Mutex

end FrameExchange
