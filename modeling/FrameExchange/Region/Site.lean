import FrameExchange.Region.Name
import FrameExchange.Lock.Mutex
import FrameExchange.Host

/-!
# Acting on a region

Everything that an operation of one object on its region can see and change, and the smallest
steps that operations are made of. A peek at the header reads two words, one after the other and
without the lock; here it is one step, so what it gives are the two words of one moment. A write by
somebody else between the two loads is not described.

- `Site` — the object's own lock book, the memory and the lock that it shares with every other
  object on the region, and the host around them.
- `Act` — an operation on a site. What it did before it failed stays done.
- `Act.move`, `Act.load`, `Act.store`, `Act.newHeader` — the steps.
-/

namespace FrameExchange

/-- What one object knows about its own hold on the lock. -/
structure LockBook where
  machine : PhaseMachine
  /-- How many of the object's guards are alive. -/
  depth : Nat
  /-- The thread that they belong to. -/
  holder : Option Thread
  deriving DecidableEq, Repr

/-- The book of an object that does not hold the lock. -/
def LockBook.fresh (role : Role) : LockBook := ⟨⟨role, .unlocked⟩, 0, none⟩

/-- What an operation of one object can reach. -/
structure Site where
  /-- The thread that calls. -/
  caller : Thread
  names : RegionNames
  book : LockBook
  /-- The bytes of the mapping. -/
  memory : Bytes
  mutex : Mutex
  host : Host

/-- An operation on a site. -/
abbrev Act := EStateM Failure Site

namespace Act

/-- Report an event. -/
def report (event : Event) : Act Unit :=
  modify fun s => { s with host := s.host.report event }

/-- The name of the region in events. -/
def region : Act String := return (← get).names.mapping

/-- Move the phase machine; a move that it refuses is a broken rule. -/
def move (source target : Phase) : Act Unit := do
  let s ← get
  match s.book.machine.move source target with
  | .ok machine => set { s with book := { s.book with machine } }
  | .error fault => throw (.violation (.move fault))

/-- The header, whole. -/
def load : Act Header := return Memory.load (← get).memory

/-- Overwrite the header. -/
def store (h : Header) : Act Unit := modify fun s => { s with memory := Memory.store s.memory h }

/-- Replace the header by what `f` makes of it. -/
def update (f : Header → Header) : Act Unit := do store (f (← load))

/-- Session and frame number, read without the lock. The two loads are one step. -/
def peekKey : Act FrameKey := return Memory.peekKey (← get).memory

/-- Whether a feeder is attached, read without the lock. The loads of the magic number and of the
flags are one step. -/
def peekAttached : Act Bool := return Memory.peekAttached (← get).memory

/-- A header of a new session of the caller's process. -/
def newHeader (gpu : UInt64) : Act Header := do
  let s ← get
  let (session, host) := s.host.newSession s.caller.pid
  set { s with host }
  return .ofSession gpu session

/-- Remember that a kind of consumer was active in the caller's process. -/
def see (kind : ConsumerKind) : Act Unit :=
  modify fun s => { s with host := s.host.see s.caller.pid kind }

/-- An operation, with its failure as a value. -/
def attempt {α : Type} (body : Act α) : Act (Except Failure α) := fun s =>
  match body s with
  | .ok a s' => .ok (.ok a) s'
  | .error failure s' => .ok (.error failure) s'

end Act

end FrameExchange
