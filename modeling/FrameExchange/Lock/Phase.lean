/-!
# Phases

Where a reader or a writer stands between taking its lock and releasing it. Which phase may
follow which is a table, one for each role, and every move names both of its ends.

- `Role.moves` — the table of a role.
- `PhaseMachine.move` — a move, or what is wrong with it: a pair that is not in the table is
  wrong in every phase, a pair of the table in every phase but its first.
-/

namespace FrameExchange

/-- Where a reader or a writer stands. -/
inductive Phase where
  /-- Not holding the lock. -/
  | unlocked
  /-- Taking the lock. -/
  | tryLock
  /-- Holding the lock, and nothing else going on. -/
  | locked
  /-- A frame was begun and must be submitted. -/
  | frameInProgress
  /-- Writing a frame into the header. -/
  | submittingFrame
  /-- Writing an empty frame into the header. -/
  | submittingEmptyFrame
  /-- Resetting the header. -/
  | detaching
  /-- Copying the header. -/
  | copyingHeader
  deriving DecidableEq, Repr

/-- The name of a phase in messages. -/
def Phase.name : Phase → String
  | unlocked => "Unlocked"
  | tryLock => "TryLock"
  | locked => "Locked"
  | frameInProgress => "FrameInProgress"
  | submittingFrame => "SubmittingFrame"
  | submittingEmptyFrame => "SubmittingEmptyFrame"
  | detaching => "Detaching"
  | copyingHeader => "CopyingHeader"

/-- Every phase. -/
def Phase.all : List Phase :=
  [.unlocked, .tryLock, .locked, .frameInProgress, .submittingFrame, .submittingEmptyFrame,
    .detaching, .copyingHeader]

/-- The phase of this name. -/
def Phase.ofName? (name : String) : Option Phase := Phase.all.find? (·.name == name)

/-- The two kinds of objects that take the lock of a region. -/
inductive Role where
  | writer
  | reader
  deriving DecidableEq, Repr

/-- The moves that both roles make to take the lock and to release it. -/
def lockMoves : List (Phase × Phase) :=
  [(.unlocked, .tryLock), (.tryLock, .locked), (.tryLock, .unlocked), (.locked, .unlocked)]

/-- The table of a role. -/
def Role.moves : Role → List (Phase × Phase)
  | writer => lockMoves ++
    [(.locked, .frameInProgress), (.frameInProgress, .submittingFrame),
      (.submittingFrame, .locked), (.locked, .submittingEmptyFrame),
      (.submittingEmptyFrame, .locked), (.locked, .detaching), (.detaching, .locked)]
  | reader => lockMoves ++ [(.locked, .copyingHeader), (.copyingHeader, .locked)]

/-- Whether the pair is in the table of the role. -/
def Role.allows (r : Role) (source target : Phase) : Bool := r.moves.contains (source, target)

/-- What is wrong with a move. -/
inductive MoveFault where
  /-- The pair is not in the table. -/
  | notInTable (source target : Phase)
  /-- The machine is not where the move begins. -/
  | elsewhere (actual source target : Phase)
  deriving DecidableEq, Repr

/-- The fault in words. -/
def MoveFault.message : MoveFault → String
  | notInTable source target => "Invalid transition " ++ source.name ++ " -> " ++ target.name
  | elsewhere actual source target =>
    "Unexpected state " ++ actual.name ++ "; expected " ++ source.name ++ " -> " ++ target.name

/-- The phase of an object of some role. -/
structure PhaseMachine where
  role : Role
  phase : Phase
  deriving DecidableEq, Repr

/-- The machine after a move between the two phases, or what is wrong with the move. -/
def PhaseMachine.move (m : PhaseMachine) (source target : Phase) :
    Except MoveFault PhaseMachine :=
  if !m.role.allows source target then .error (.notInTable source target)
  else if m.phase ≠ source then .error (.elsewhere m.phase source target)
  else .ok { m with phase := target }

end FrameExchange
