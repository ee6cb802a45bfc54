import FrameExchange.Region.Site

/-!
# Holding the lock of a region

An object takes the shared lock with its first guard and gives it back with its last; the guards
in between only count. Every guard of an object belongs to one thread.

To take the lock is one step, made when the lock can be had. A thread that waits keeps its object in
the phase `tryLock` and other threads away from it; here it has not begun to take the lock yet, and
the operation fails with `blocked` and leaves everything as it was.

- `Act.acquire` — one more guard, or that the lock is busy.
- `Act.release` — one guard less. The last one must find its object in the phase `locked`,
  unless a broken rule is unwinding the thread: then the phase is forced back.
- `Act.guarded` — an operation with a guard around it.
-/

namespace FrameExchange

/-- What came of asking for a guard. -/
inductive Acquired where
  /-- The lock is held by another thread. -/
  | busy
  /-- A guard; whether the lock was taken over from an owner that died holding it. -/
  | held (abandoned : Bool)
  deriving DecidableEq, Repr

/-- Whether another thread has the object's guards. -/
def LockBook.heldElsewhere (b : LockBook) (caller : Thread) : Bool :=
  match b.holder with
  | some thread => decide (thread ≠ caller)
  | none => false

namespace Act

/-- What happens when another thread is in the way. -/
def wait (mode : LockMode) : Act Acquired :=
  match mode with
  | .attempt => return .busy
  | .blocking => throw .blocked

/-- The first guard of an object: take the shared lock. The move to `tryLock`, the attempt and the
move from there are one step, and a call that would wait is undone. -/
def acquireFirst (mode : LockMode) : Act Acquired := do
  let s ← get
  move .unlocked .tryLock
  match s.mutex.take s.caller with
  | .error reason =>
    move .tryLock .unlocked
    throw (.error (.notLocked mode s.names.lock reason))
  | .ok (.busy, _) =>
    set s
    wait mode
  | .ok (taken, mutex) =>
    modify fun s => { s with mutex }
    if taken = .abandoned then report (.ownerDied s.names.lock)
    move .tryLock .locked
    modify fun s => { s with book := { s.book with depth := 1, holder := some s.caller } }
    return .held (taken = .abandoned)

/-- One more guard for the calling thread. -/
def acquire (mode : LockMode) : Act Acquired := do
  let s ← get
  if s.book.heldElsewhere s.caller then wait mode
  else if 0 < s.book.depth then
    set { s with book := { s.book with depth := s.book.depth + 1 } }
    return .held false
  else acquireFirst mode

/-- The last guard of an object goes. -/
def releaseLast (unwinding : Bool) : Act Unit := do
  modify fun s => { s with book := { s.book with depth := 0, holder := none } }
  if unwinding then
    modify fun s =>
      { s with book := { s.book with machine := { s.book.machine with phase := .unlocked } } }
  else move .locked .unlocked
  let s ← get
  match s.mutex.release s.caller with
  | .ok mutex => set { s with mutex }
  | .error reason => report (.notReleased s.names.lock (.notUnlocked s.names.lock reason))

/-- One guard less. -/
def release (unwinding : Bool) : Act Unit := do
  let s ← get
  if 1 < s.book.depth then
    set { s with book := { s.book with depth := s.book.depth - 1 } }
  else releaseLast unwinding

/-- Whether a failure unwinds the thread. -/
def unwinds : Failure → Bool
  | .violation _ => true
  | _ => false

/-- `body` and then the release of the guard that was acquired for it. A failure of the body goes
before one of the release. -/
def guarded {α : Type} (body : Act α) : Act α := do
  match ← attempt body with
  | .ok a =>
    release false
    return a
  | .error failure =>
    let _ ← attempt (release (unwinds failure))
    throw failure

end Act

end FrameExchange
