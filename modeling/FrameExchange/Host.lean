import FrameExchange.Table
import FrameExchange.Consumer
import FrameExchange.Copier
import FrameExchange.Event

/-!
# The host

What readers and writers find around them on one computer: processes and the files they have
open, random numbers, a clock and a log.

- `Host.newSession` — a session number, made of the caller's process and a random word.
- `Host.openProcess`, `Host.duplicate` — reaching into another process for a handle. A process that
  is open stays the same one, also when its number goes to a later process.
- `Host.see` — remember that a kind of consumer was active in a process.
-/

namespace FrameExchange

/-- A process. -/
structure Process where
  alive : Bool
  /-- How many processes had its number before. -/
  serial : Nat
  /-- The files it has open, by descriptor. -/
  descriptors : Table Nat OpenFile
  /-- The consumers that were active in it. -/
  consumers : ActiveConsumers
  deriving Repr

/-- A process that has just started, with these files. -/
def Process.started (serial : Nat) (descriptors : Table Nat OpenFile) : Process :=
  ⟨true, serial, descriptors, .empty⟩

/-- A process that was opened to reach its files. -/
structure OpenedProcess where
  pid : UInt32
  /-- Which one of those with its number it is. The caller's own process is not told by this. -/
  serial : Option Nat
  deriving DecidableEq, Repr

/-- A source of random words and how many of them are used up. -/
structure Entropy where
  draw : Nat → UInt32
  used : Nat

/-- One computer. -/
structure Host where
  processes : Table UInt32 Process
  entropy : Entropy
  /-- Nanoseconds since some moment in the past. -/
  clock : Nat
  /-- How many files were ever opened. -/
  opened : Nat
  /-- What was reported, oldest first. -/
  events : List Event

namespace Host

/-! ## Log and clock -/

/-- The host after an event was reported. -/
def report (h : Host) (event : Event) : Host := { h with events := h.events ++ [event] }

/-- The host after `ns` nanoseconds. -/
def sleep (h : Host) (ns : Nat) : Host := { h with clock := h.clock + ns }

/-! ## Sessions -/

/-- The session number of process `pid` with the random word `word`: the process in the high
half, so that two processes never share one. -/
def sessionOf (pid word : UInt32) : UInt64 := pid.toUInt64 <<< 32 ||| word.toUInt64

/-- A session number for process `pid`. -/
def newSession (h : Host) (pid : UInt32) : UInt64 × Host :=
  (sessionOf pid (h.entropy.draw h.entropy.used),
    { h with entropy := { h.entropy with used := h.entropy.used + 1 } })

/-! ## Processes -/

/-- The largest number that a process or a descriptor can have. -/
def largestDescriptor : Nat := 0x7fffffff

/-- The process, if it is still running. -/
def running? (h : Host) (pid : UInt32) : Option Process :=
  (h.processes.get? pid).filter (·.alive)

/-- The consumers that were active in a process. -/
def consumersOf (h : Host) (pid : UInt32) : ActiveConsumers :=
  ((h.processes.get? pid).map (·.consumers)).getD .empty

/-- The host with another record of the consumers that were active in a process. -/
def setConsumers (h : Host) (pid : UInt32) (consumers : ActiveConsumers) : Host :=
  { h with processes := h.processes.adjust pid fun p => { p with consumers } }

/-- The host after a consumer was active in a process. Time passes by it, so that no two moments
are the same. -/
def see (h : Host) (pid : UInt32) (kind : ConsumerKind) : Host :=
  (h.sleep 1).setConsumers pid ((h.consumersOf pid).see kind (h.clock + 1))

/-- Open process `pid` for `caller`, to duplicate its handles. The caller's own process need not be
opened. -/
def openProcess (h : Host) (caller pid : UInt32) : Except HandleFault OpenedProcess :=
  if pid = caller then .ok ⟨pid, none⟩
  else if largestDescriptor < pid.toNat then .error (.processOutOfRange pid)
  else if pid = 0 then .error (.processNotOpened pid .invalidArgument)
  else
    match h.running? pid with
    | some process => .ok ⟨pid, some process.serial⟩
    | none => .error (.processNotOpened pid .noSuchProcess)

/-- The process that was opened, if it is still running. -/
def opened? (h : Host) (opened : OpenedProcess) : Option Process :=
  (h.running? opened.pid).filter fun process => opened.serial.all (· == process.serial)

/-- The file that an opened process has under the handle `raw`. -/
def duplicate (h : Host) (opened : OpenedProcess) (raw : UInt64) : Except HandleFault OpenFile :=
  if largestDescriptor < raw.toNat then .error (.notDescriptor raw)
  else
    match h.opened? opened with
    | none => .error (.notDuplicated raw .noSuchProcess)
    | some process =>
      match process.descriptors.get? raw.toNat with
      | some file => .ok file
      | none => .error (.notDuplicated raw .badDescriptor)

/-- The host after process `pid` opened a fresh file under a descriptor. -/
def openFile (h : Host) (pid : UInt32) (descriptor : Nat) (name : String) : Host :=
  { h with
    processes := h.processes.adjust pid fun p =>
      { p with descriptors := p.descriptors.insert descriptor ⟨h.opened, name⟩ }
    opened := h.opened + 1 }

/-- The host after process `pid` closed a descriptor. -/
def closeFile (h : Host) (pid : UInt32) (descriptor : Nat) : Host :=
  { h with
    processes := h.processes.adjust pid fun p =>
      { p with descriptors := p.descriptors.erase descriptor } }

/-- The host after a process has started under the number `pid`, with these files. -/
def launch (h : Host) (pid : UInt32) (descriptors : Table Nat OpenFile) : Host :=
  let serial := ((h.processes.get? pid).map (·.serial + 1)).getD 0
  { h with processes := h.processes.insert pid (.started serial descriptors) }

/-- The host after process `parent` started process `child`, which has the same files open. -/
def fork (h : Host) (parent child : UInt32) : Host :=
  h.launch child (((h.processes.get? parent).map (·.descriptors)).getD ∅)

/-- The host after a process has ended. -/
def kill (h : Host) (pid : UInt32) : Host :=
  { h with processes := h.processes.adjust pid fun p => { p with alive := false } }

end Host

end FrameExchange
