import FrameExchange.Proofs.Writing
import FrameExchange.Proofs.Reading
import FrameExchange.World.State
import Mathlib.Data.List.Induction

/-!
# A region and everyone on it

The memory and the lock of one region, the host around them, and all the objects that are open on
it. Any thread can make the next step: open or close an object, use one, or die; between two steps
processes come and go, open files and close them.

- `Exchange`, `Client` — the whole, and one object on it.
- `Call`, `Client.operation` — what can be done with an object.
- `Exchange.step` — one step, with its answer; a call that would have to wait is no step.
- `Deed`, `Run`, `Reachable` — steps that were made, one after the other.
-/

namespace FrameExchange

/-! ## Objects -/

/-- An object that is open on the region. -/
structure Client where
  body : Body
  book : LockBook
  /-- The frame that was begun through it, until it is submitted or dropped. -/
  token : Option NextFrame
  deriving DecidableEq, Repr

/-- The role in which an object takes the lock. -/
def Body.role : Body → Role
  | .writer _ => .writer
  | .reader _ | .cached _ _ => .reader

/-- An object that was just opened. -/
def Client.opened (body : Body) : Client := ⟨body, .fresh body.role, none⟩

/-- What can be done with an object. -/
inductive Call where
  | lock (mode : LockMode)
  /-- A guard goes, maybe because a broken rule unwinds the thread. -/
  | release (unwinding : Bool)
  /-- The header, under a guard. -/
  | metadata
  | beginFrame
  | submit (frame : Frame)
  /-- The frame that was begun is dropped. -/
  | abandon
  | submitEmpty
  | detach
  | key (kind : ConsumerKind)
  /-- A read into a texture of a copier. -/
  | read (kind : ConsumerKind) (gpu : UInt64) (target : Nat) (copier : Copier)
  | readMetadata (kind : ConsumerKind)
  | restart (gpu : UInt64) (length : UInt8)
  /-- A read through the cache, with a copier. -/
  | get (copier : Copier)
  | getMetadata
  deriving DecidableEq, Repr

/-- What comes of a step. -/
inductive Answer where
  | done
  | busy
  | locked (abandoned : Bool)
  | next (next : NextFrame)
  | header (header : Header)
  | key (key : FrameKey)
  /-- A snapshot, and the calls of the copier that were made for it. -/
  | shown (snapshot : Snapshot) (calls : List CopierCall)
  | failed (failure : Failure)
  deriving DecidableEq, Repr

/-- What came of asking for a guard. -/
def Answer.ofAcquired : Acquired → Answer
  | .busy => .busy
  | .held abandoned => .locked abandoned

/-- Whether a call needs a guard of the calling thread. -/
def Call.underGuard : Call → Bool
  | .release _ | .metadata | .beginFrame | .submit _ | .abandon | .submitEmpty | .detach => true
  | _ => false

/-- Whether the thread has a guard of the object. -/
def Client.GuardOf (c : Client) (thread : Thread) : Prop :=
  0 < c.book.depth ∧ c.book.holder = some thread

instance (c : Client) (thread : Thread) : Decidable (c.GuardOf thread) :=
  inferInstanceAs (Decidable (_ ∧ _))

/-- An operation that leaves the object as it is. -/
def Act.answering {α : Type} (body : Body) (operation : Act α) (answer : α → Answer) :
    Act (Answer × Body) := do
  return (answer (← operation), body)

/-- A read with pixels: the snapshot with the calls of the copier, and the reader afterwards. -/
def Reader.answerRead (r : Reader) (kind : ConsumerKind) (gpu : UInt64) (target : Nat)
    (copier : Copier) : Act (Answer × Body) := do
  let (snapshot, r, copier) ← r.read kind gpu target copier.looked
  return (.shown snapshot copier.calls, .reader r)

/-- A read without pixels. -/
def Reader.answerMetadata (r : Reader) (kind : ConsumerKind) : Act (Answer × Body) := do
  let (snapshot, r) ← r.readMetadata kind
  return (.shown snapshot [], .reader r)

/-- A read through a cache. -/
def CachedReader.answerGet (c : CachedReader) (number : Nat) (copier : Copier) :
    Act (Answer × Body) := do
  let (snapshot, c, copier) ← c.get copier.looked
  return (.shown snapshot copier.calls, .cached c number)

/-- A read without pixels that leaves the cache alone. -/
def CachedReader.answerMetadata (c : CachedReader) (number : Nat) : Act (Answer × Body) := do
  let (snapshot, c) ← c.getMetadata
  return (.shown snapshot [], .cached c number)

/-- What a call does, if it is one for this kind of object: an answer, and the object after it. -/
def Client.operation (c : Client) : Call → Option (Act (Answer × Body))
  | .lock mode =>
    match c.body with
    | .writer w => some (.answering c.body (w.lock mode) .ofAcquired)
    | _ => some (.answering c.body (Reader.lock mode) .ofAcquired)
  | .release unwinding => some (.answering c.body (Act.release unwinding) fun _ => .done)
  | .metadata =>
    match c.body with
    | .writer _ => some (.answering c.body Act.load .header)
    | _ => some (.answering c.body Reader.metadata .header)
  | .beginFrame =>
    match c.body with
    | .writer _ => some (.answering c.body Writer.beginFrame .next)
    | _ => none
  | .submit frame =>
    match c.body, c.token with
    | .writer w, some _ => some (.answering c.body (w.submit frame) fun _ => .done)
    | _, _ => none
  | .abandon =>
    match c.body, c.token with
    | .writer _, some next => some (.answering c.body (Writer.abandon next) fun _ => .done)
    | _, _ => none
  | .submitEmpty =>
    match c.body with
    | .writer w => some (.answering c.body w.submitEmpty fun _ => .done)
    | _ => none
  | .detach =>
    match c.body with
    | .writer w => some (.answering c.body w.detach fun _ => .done)
    | _ => none
  | .key kind => some (.answering c.body (Reader.key kind) .key)
  | .read kind gpu target copier =>
    match c.body with
    | .reader r => some (r.answerRead kind gpu target copier)
    | _ => none
  | .readMetadata kind =>
    match c.body with
    | .reader r => some (r.answerMetadata kind)
    | _ => none
  | .restart gpu length =>
    match c.body with
    | .cached cached number => some (return (.done, .cached (cached.restart gpu length) number))
    | _ => none
  | .get copier =>
    match c.body with
    | .cached cached number => some (cached.answerGet number copier)
    | _ => none
  | .getMetadata =>
    match c.body with
    | .cached cached number => some (cached.answerMetadata number)
    | _ => none

/-- The frame that is begun after a call. It cannot outlive the last guard, and whoever submits or
drops it has it no longer. -/
def Client.tokenAfter (c : Client) (call : Call) (answer : Answer) (book : LockBook) :
    Option NextFrame :=
  if book.depth = 0 then none
  else
    match call, answer with
    | .beginFrame, .next next => some next
    | .submit _, _ | .abandon, _ => none
    | _, _ => c.token

/-! ## The region -/

/-- A region, and the objects that are open on it by their numbers. -/
structure Exchange where
  names : RegionNames
  memory : Bytes
  mutex : Mutex
  host : Host
  clients : Table Nat Client
  /-- The threads that have died. -/
  dead : List Thread

/-- A step that a thread can make. -/
inductive Move where
  | openWriter (id : Nat) (gpu : UInt64)
  | openReader (id : Nat)
  | openCached (id : Nat) (kind : ConsumerKind)
  /-- An object without guards ends. -/
  | close (id : Nat)
  | call (id : Nat) (call : Call)
  /-- The calling thread dies, with whatever it holds. -/
  | die
  /-- Time passes, and processes do something else: they begin and end, and open and close files. -/
  | elapse (processes : Table UInt32 Process) (clock opened : Nat) (events : List Event)

namespace Exchange

/-- A region that nobody has used: zeroed memory and a free lock. -/
def start (names : RegionNames) (host : Host) : Exchange :=
  ⟨names, Bytes.zeros Header.byteSize, .fresh .checked, host, ∅, []⟩

/-- A region over whatever bytes there are, with a free lock, that nobody has opened yet. -/
def unopened (names : RegionNames) (memory : Bytes) (host : Host) : Exchange :=
  ⟨names, memory, .fresh .checked, host, ∅, []⟩

/-- The header in the memory. -/
def header (x : Exchange) : Header := Memory.load x.memory

/-- What a thread that uses an object with this book can reach. -/
def site (x : Exchange) (caller : Thread) (book : LockBook) : Site :=
  ⟨caller, x.names, book, x.memory, x.mutex, x.host⟩

/-- The region after an operation has left the site like this. -/
def leave (x : Exchange) (s : Site) : Exchange :=
  { x with memory := s.memory, mutex := s.mutex, host := s.host }

/-- The region with an object under this number. -/
def put (x : Exchange) (id : Nat) (c : Client) : Exchange :=
  { x with clients := x.clients.insert id c }

/-- The end of an operation that may have had to wait; then it has not happened. -/
def settle {α : Type} (result : EStateM.Result Failure Site α)
    (ok : α → Site → Answer × Exchange) (failed : Failure → Site → Exchange) :
    Option (Answer × Exchange) :=
  match result with
  | .ok a s => some (ok a s)
  | .error .blocked _ => none
  | .error failure s => some (.failed failure, failed failure s)

/-- A new writer. One that cannot start its session is gone at once. -/
def openWriter (x : Exchange) (caller : Thread) (id : Nat) (gpu : UInt64) :
    Option (Answer × Exchange) :=
  let writer : Writer := ⟨gpu, caller.pid⟩
  if (x.clients.get? id).isSome then none
  else settle (writer.attach (x.site caller (.fresh .writer)))
    (fun _ s => (.done, (x.leave s).put id ⟨.writer writer, s.book, none⟩)) fun _ => x.leave

/-- A new reader of some kind. -/
def openReader (x : Exchange) (id : Nat) (body : Body) : Option (Answer × Exchange) :=
  if (x.clients.get? id).isSome then none
  else some (.done, { x with host := x.host.report (.readerOpened x.names.mapping) }.put id
    (.opened body))

/-- The end of an object. A writer detaches. -/
def close (x : Exchange) (caller : Thread) (id : Nat) : Option (Answer × Exchange) :=
  match x.clients.get? id with
  | none => none
  | some c =>
    let gone : Exchange := { x with clients := x.clients.erase id }
    if 0 < c.book.depth then none
    else
      match c.body with
      | .writer w => settle (w.close (x.site caller c.book)) (fun _ s => (.done, gone.leave s))
          fun _ => gone.leave
      | _ => some (.done, gone)

/-- A call of an object. -/
def call (x : Exchange) (caller : Thread) (id : Nat) (call : Call) : Option (Answer × Exchange) :=
  match x.clients.get? id with
  | none => none
  | some c =>
    if call.underGuard ∧ ¬c.GuardOf caller then none
    else
      match c.operation call with
      | none => none
      | some operation => settle (operation (x.site caller c.book))
          (fun (answer, body) s => (answer,
            (x.leave s).put id ⟨body, s.book, c.tokenAfter call answer s.book⟩))
          fun failure s => (x.leave s).put id
            ⟨c.body, s.book, c.tokenAfter call (.failed failure) s.book⟩

/-- One step of a living thread: its answer, and the region afterwards. -/
def step (x : Exchange) (caller : Thread) (move : Move) : Option (Answer × Exchange) :=
  if caller ∈ x.dead then none
  else
    match move with
    | .openWriter id gpu => x.openWriter caller id gpu
    | .openReader id => x.openReader id (.reader .fresh)
    | .openCached id kind => x.openReader id (.cached (.fresh kind) 0)
    | .close id => x.close caller id
    | .call id call => x.call caller id call
    | .die => some (.done,
        { x with mutex := x.mutex.ownerDies caller, dead := caller :: x.dead })
    | .elapse processes clock opened events => some (.done,
        { x with host := { x.host with processes, clock, opened, events } })

/-- What a call comes to is what its operation comes to. -/
theorem call_eq_settle {x : Exchange} {caller : Thread} {id : Nat} {c : Client} {call : Call}
    {operation : Act (Answer × Body)} (hclient : x.clients.get? id = some c)
    (hguard : call.underGuard = true → c.GuardOf caller)
    (hoperation : c.operation call = some operation) :
    x.call caller id call = settle (operation (x.site caller c.book))
      (fun (answer, body) s => (answer,
        (x.leave s).put id ⟨body, s.book, c.tokenAfter call answer s.book⟩))
      fun failure s => (x.leave s).put id
        ⟨c.body, s.book, c.tokenAfter call (.failed failure) s.book⟩ := by
  have hallowed : ¬(call.underGuard = true ∧ ¬c.GuardOf caller) := fun h => h.2 (hguard h.1)
  rw [Exchange.call, hclient]
  dsimp only
  rw [if_neg hallowed, hoperation]

end Exchange

/-! ## Runs -/

/-- A step that was made. -/
structure Deed where
  before : Exchange
  thread : Thread
  move : Move
  answer : Answer
  after : Exchange

/-- The step has this answer and this end. -/
def Deed.Valid (d : Deed) : Prop := d.before.step d.thread d.move = some (d.answer, d.after)

/-- Steps one after the other. -/
inductive Run (x : Exchange) : List Deed → Exchange → Prop where
  | nil : Run x [] x
  | snoc {deeds : List Deed} {d : Deed} : Run x deeds d.before → d.Valid →
      Run x (deeds ++ [d]) d.after

/-- The steps of a script, if each of them can be made. -/
def Exchange.play (x : Exchange) : List (Thread × Move) → Option (List Deed × Exchange)
  | [] => some ([], x)
  | (thread, move) :: rest =>
    match x.step thread move with
    | none => none
    | some (answer, y) =>
      match y.play rest with
      | none => none
      | some (deeds, z) => some (⟨x, thread, move, answer, y⟩ :: deeds, z)

/-- A region on a computer where process 7 has a texture open under 900 and a fence under 901. -/
def Exchange.sample : Exchange :=
  .start ⟨"region", "lock"⟩
    { processes := Table.empty.insert 7
        (.started 0 ((Table.empty.insert 900 ⟨0, "texture"⟩).insert 901 ⟨1, "fence"⟩))
      entropy := ⟨fun n => UInt32.ofNat (n + 1), 0⟩
      clock := 0
      opened := 2
      events := [] }

/-- A frame of one layer, with these two files. -/
def Exchange.sampleFrame : Frame := ⟨.ofSize ⟨64, 64⟩, [.flat 1 (.of 0 0 64 64)], 900, 901⟩

/-- The frame is published by a writer and read by a reader. -/
def Exchange.sampleScript : List (Thread × Move) :=
  [(⟨7, 0⟩, .openWriter 0 5), (⟨7, 0⟩, .openReader 1), (⟨7, 0⟩, .call 0 (.lock .blocking)),
    (⟨7, 0⟩, .call 0 .beginFrame), (⟨7, 0⟩, .call 0 (.submit sampleFrame)),
    (⟨7, 0⟩, .call 0 (.release false)), (⟨7, 0⟩, .call 1 (.read .viewer 5 1 .fresh))]

/-- The states of a region that nobody but its objects ever wrote to. -/
def Reachable (x : Exchange) : Prop := ∃ names host deeds, Run (.start names host) deeds x

namespace Run

/-- The last step of a run. -/
theorem snoc_iff {x z : Exchange} {deeds : List Deed} {d : Deed} :
    Run x (deeds ++ [d]) z ↔ Run x deeds d.before ∧ d.Valid ∧ z = d.after := by
  constructor
  · intro h
    generalize hall : deeds ++ [d] = all at h
    cases h with
    | nil => exact absurd hall (by simp)
    | snoc hrun hvalid =>
      obtain ⟨rfl, hlast⟩ := List.append_inj' hall rfl
      cases hlast
      exact ⟨hrun, hvalid, rfl⟩
  · rintro ⟨hrun, hvalid, rfl⟩
    exact .snoc hrun hvalid

/-- A run can be cut between any two steps. -/
theorem append_iff {x z : Exchange} {first second : List Deed} :
    Run x (first ++ second) z ↔ ∃ y, Run x first y ∧ Run y second z := by
  constructor
  · intro h
    induction second using List.reverseRecOn generalizing z with
    | nil => exact ⟨z, List.append_nil first ▸ h, .nil⟩
    | append_singleton rest d ih =>
      rw [← List.append_assoc] at h
      obtain ⟨hrun, hvalid, rfl⟩ := snoc_iff.mp h
      obtain ⟨y, hfirst, hrest⟩ := ih hrun
      exact ⟨y, hfirst, .snoc hrest hvalid⟩
  · rintro ⟨y, hfirst, hsecond⟩
    induction hsecond with
    | nil => exact (List.append_nil first).symm ▸ hfirst
    | snoc hrun hvalid ih => exact List.append_assoc .. ▸ Run.snoc ih hvalid

/-- A script that can be played to its end is a run. -/
theorem of_play {x z : Exchange} {script : List (Thread × Move)} {deeds : List Deed}
    (h : x.play script = some (deeds, z)) : Run x deeds z := by
  induction script generalizing x deeds with
  | nil =>
    cases h
    exact .nil
  | cons entry rest ih =>
    unfold Exchange.play at h
    split at h
    · cases h
    · next answer y hstep =>
      split at h
      · cases h
      · next deeds' z' hrest =>
        cases h
        have hfirst : Run x [⟨x, entry.1, entry.2, answer, y⟩] y :=
          .snoc (d := ⟨x, _, _, _, y⟩) .nil hstep
        exact append_iff.mpr ⟨y, hfirst, ih hrest⟩

/-- The steps that were played are those of the script. -/
theorem map_of_play {x z : Exchange} {script : List (Thread × Move)} {deeds : List Deed}
    (h : x.play script = some (deeds, z)) : deeds.map (fun d => (d.thread, d.move)) = script := by
  induction script generalizing x deeds with
  | nil =>
    cases h
    rfl
  | cons entry rest ih =>
    unfold Exchange.play at h
    split at h
    · cases h
    · split at h
      · cases h
      · next hrest =>
        cases h
        rw [List.map_cons, ih hrest]

end Run

end FrameExchange
