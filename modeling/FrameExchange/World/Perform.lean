import FrameExchange.World.State

/-!
# Performing commands

What each command does to a world, and what it answers.

- `World.perform` — one command of one thread.
- `World.endThread` — the end of a thread: it gives back its guards, or dies with them.
-/

namespace FrameExchange

namespace World

/-! ## Answers -/

/-- The answer of an operation. -/
def answer {α : Type} (ok : α → Reply) : Except Failure α → Reply
  | .ok a => ok a
  | .error failure => .failed failure

/-- The answer of an operation that does nothing where the lock is busy. -/
def answerUnlessBusy {α : Type} (ok : α → Reply) : Except Failure (Option α) → Reply
  | .ok (some a) => ok a
  | .ok none => .busy
  | .error failure => .failed failure

/-- Continue with the object of this name. -/
def withObject (id : String) (continue_ : Object → Play Reply) : Play Reply := do
  match (← get).objects.get? id with
  | some o => continue_ o
  | none => return .unknown

/-- Continue with the writer of this name. -/
def withWriter (id : String) (continue_ : Object → Writer → Play Reply) : Play Reply :=
  withObject id fun o =>
    match o.body with
    | .writer w => continue_ o w
    | _ => return .unknown

/-- Continue with the reader of this name. -/
def withReader (id : String) (continue_ : Object → Reader → Play Reply) : Play Reply :=
  withObject id fun o =>
    match o.body with
    | .reader r => continue_ o r
    | _ => return .unknown

/-- Continue with the cached reader of this name and the number of its copier. -/
def withCached (id : String) (continue_ : Object → CachedReader → Nat → Play Reply) :
    Play Reply :=
  withObject id fun o =>
    match o.body with
    | .cached c copier => continue_ o c copier
    | _ => return .unknown

/-- Continue with the object of a guard of the calling thread. -/
def withGuard (caller : Thread) (guard : String) (continue_ : String → Object → Play Reply) :
    Play Reply := do
  match (← get).guards.get? guard with
  | some g => if g.thread = caller then withObject g.object (continue_ g.object) else return .unknown
  | none => return .unknown

/-- Continue with the writer of a guard of the calling thread. -/
def withWriterGuard (caller : Thread) (guard : String)
    (continue_ : String → Object → Writer → Play Reply) : Play Reply :=
  withGuard caller guard fun id o =>
    match o.body with
    | .writer w => continue_ id o w
    | _ => return .unknown

/-! ## Objects -/

/-- Open a region for a new object. -/
def attach (config : RegionConfig) (role : Role) : Play (Except RegionError OpenRegion) := do
  let w ← get
  let (outcome, system) := w.system.attach config role
  set { w with system }
  return outcome

/-- Whatever an object does when it ends. A writer detaches. -/
def finish (caller : Thread) (id : String) (o : Object) : Play (Except Failure Unit) :=
  match o.body with
  | .writer writer => act caller id o writer.close
  | _ => return .ok ()

/-- Add an object. One that had the name before ends. -/
def addObject (caller : Thread) (id : String) (o : Object) : Play Unit := do
  if let some previous := (← get).objects.get? id then
    let _ ← finish caller id previous
  modify fun w => { w with objects := w.objects.insert id o }

/-- Take an object away. -/
def removeObject (id : String) : Play Unit :=
  modify fun w => { w with objects := w.objects.erase id }

/-- A new writer. One that cannot start its session is gone at once. -/
def openWriter (caller : Thread) (id : String) (config : RegionConfig) (gpu : UInt64) :
    Play Reply := do
  match ← attach config .writer with
  | .error error => return .failed (.error error)
  | .ok region =>
    let writer : Writer := ⟨gpu, caller.pid⟩
    let w ← get
    let (outcome, region, system) := w.system.act caller region writer.attach
    set { w with system }
    match outcome with
    | .ok () =>
      addObject caller id ⟨caller, region, .writer writer⟩
      return .done
    | .error failure => return .failed failure

/-- A new reader of some kind. -/
def openReader (caller : Thread) (id : String) (config : RegionConfig) (body : Body) :
    Play Reply := do
  match ← attach config .reader with
  | .error error => return .failed (.error error)
  | .ok region =>
    changeHost (·.report (.readerOpened region.names.mapping))
    addObject caller id ⟨caller, region, body⟩
    return .done

/-- A new cached reader with a copier of its own. -/
def openCached (caller : Thread) (id : String) (config : RegionConfig) (kind : ConsumerKind) :
    Play Reply := do
  let number := (← get).nextCopier
  let reply ← openReader caller id config (.cached (.fresh kind) number)
  if reply = .done then
    setCopier number .fresh
    modify fun w => { w with nextCopier := number + 1 }
  return reply

/-- The end of an object. -/
def close (caller : Thread) (id : String) : Play Reply :=
  withObject id fun o => do
    let outcome ← finish caller id o
    removeObject id
    return answer (fun _ => .closed) outcome

/-! ## Guards and frames -/

/-- Give back a guard that is no longer kept. -/
def dropGuard (caller : Thread) (g : Guard) : Play (Except Failure Unit) := do
  match (← get).objects.get? g.object with
  | some o => act caller g.object o (Act.release false)
  | none => return .ok ()

/-- Keep a guard. One that had the name before is given back. -/
def keepGuard (caller : Thread) (name : String) (g : Guard) : Play Unit := do
  let previous := (← get).guards.get? name
  modify fun w => { w with guards := w.guards.insert name g }
  if let some previous := previous then
    let _ ← dropGuard caller previous

/-- Take the lock through an object, and keep the guard. -/
def lock (caller : Thread) (id guard : String) (mode : LockMode) : Play Reply :=
  withObject id fun o => do
    let operation : Act Acquired :=
      match o.body with
      | .writer writer => writer.lock mode
      | _ => Reader.lock mode
    match ← act caller id o operation with
    | .error failure => return .failed failure
    | .ok .busy => return .busy
    | .ok (.held abandoned) =>
      keepGuard caller guard ⟨id, caller⟩
      match o.body with
      | .writer _ => return .writerLocked
      | _ => return .readerLocked abandoned

/-- Give a guard back. It is gone even where that breaks a rule. -/
def unlock (caller : Thread) (guard : String) : Play Reply :=
  withGuard caller guard fun id o => do
    modify fun w => { w with guards := w.guards.erase guard }
    return answer (fun _ => .unlocked) (← act caller id o (Act.release false))

/-- The header, under a guard. -/
def metadata (caller : Thread) (guard : String) : Play Reply :=
  withGuard caller guard fun id o => do
    let operation : Act Header :=
      match o.body with
      | .writer _ => Act.load
      | _ => Reader.metadata
    return answer .header (← act caller id o operation)

/-- Begin a frame under a guard, and keep it. -/
def beginFrame (caller : Thread) (guard token : String) : Play Reply :=
  withWriterGuard caller guard fun id o _ => do
    match ← act caller id o Writer.beginFrame with
    | .error failure => return .failed failure
    | .ok next =>
      modify fun w => { w with tokens := w.tokens.insert token ⟨guard, next⟩ }
      return .next next

/-- A frame that is kept. -/
def nextFrame (token : String) : Play Reply := do
  match (← get).tokens.get? token with
  | some t => return .next t.next
  | none => return .unknown

/-- Use up a frame that is kept. -/
def consume (caller : Thread) (token : String) (operation : Writer → NextFrame → Act Unit) :
    Play Reply := do
  match (← get).tokens.get? token with
  | none => return .unknown
  | some t =>
    withWriterGuard caller t.guard fun id o writer => do
      modify fun w => { w with tokens := w.tokens.erase token }
      return answer (fun _ => .submitted) (← act caller id o (operation writer t.next))

/-- An operation of a writer under a guard. -/
def underGuard (caller : Thread) (guard : String) (reply : Reply) (operation : Writer → Act Unit) :
    Play Reply :=
  withWriterGuard caller guard fun id o writer => do
    return answer (fun _ => reply) (← act caller id o (operation writer))

/-- An operation of a writer that takes the lock itself. -/
def onWriter {α : Type} (caller : Thread) (id : String) (reply : α → Reply)
    (operation : Writer → Act (Option α)) : Play Reply :=
  withWriter id fun o writer => do
    return answerUnlessBusy reply (← act caller id o (operation writer))

/-! ## Reading -/

/-- The answer that shows a snapshot whose texture a copier made. -/
def showing (w : World) (kept : KeptSnapshot) : Reply :=
  .shown
    { snapshot := kept.snapshot
      texture := kept.snapshot.texture?.bind (w.copier kept.copier).texture? }

/-- Show a snapshot, and keep it if there is a name for it. -/
def present (kept : KeptSnapshot) (name : Option String) : Play Reply := do
  match name with
  | some name => modify fun w => { w with snapshots := w.snapshots.insert name kept }
  | none => pure ()
  return (← get).showing kept

/-- Names and adapter of a writer, or the names of a reader. -/
def describe (id : String) : Play Reply :=
  withObject id fun o =>
    match o.body with
    | .writer writer => return .writer writer.gpu o.region.names
    | _ => return .names o.region.names

/-- The key of the region, without the lock. -/
def key (caller : Thread) (id : String) (kind : ConsumerKind) : Play Reply :=
  withObject id fun o => do
    return answer .key (← act caller id o (Reader.key kind))

/-- The header of the region, under a guard that is given back. -/
def header (caller : Thread) (id : String) (mode : LockMode) : Play Reply :=
  withObject id fun o => do
    return answerUnlessBusy .header (← act caller id o (Reader.header mode))

/-- A reader reads a frame without its pixels. -/
def readMetadata (caller : Thread) (id : String) (kind : ConsumerKind) : Play Reply :=
  withReader id fun o reader => do
    match ← act caller id o (reader.readMetadata kind) with
    | .error failure => return .failed failure
    | .ok (snapshot, reader) =>
      setBody id (.reader reader)
      present ⟨snapshot, sharedCopier⟩ none

/-- A texture of the shared copier. Making it is not a call that anyone looks at. -/
def makeDestination (name : String) (size : PixelSize) : Play Reply := do
  let copier := (← get).copier sharedCopier
  match copier.create 0 size with
  | (.ok id, after) =>
    setCopier sharedCopier { after with calls := copier.calls }
    modify fun w => { w with destinations := w.destinations.insert name id }
    return .texture id
  | (.error _, _) => return .unknown

/-- A reader reads a frame, its pixels into a texture of the shared copier. -/
def read (caller : Thread) (id : String) (kind : ConsumerKind) (gpu : UInt64)
    (destination : String) (keep : Option String) : Play Reply :=
  withReader id fun o reader => do
    let w ← get
    match w.destinations.get? destination with
    | none => return .unknown
    | some target =>
      match ← act caller id o (reader.read kind gpu target (w.copier sharedCopier)) with
      | .error failure => return .failed failure
      | .ok (snapshot, reader, copier) =>
        setBody id (.reader reader)
        setCopier sharedCopier copier
        present ⟨snapshot, sharedCopier⟩ keep

/-- Start the cache of a cached reader over. -/
def restartCache (id : String) (gpu : UInt64) (length : UInt8) : Play Reply :=
  withCached id fun _ cached copier => do
    setBody id (.cached (cached.restart gpu length) copier)
    return .done

/-- The latest frame of a cached reader. -/
def getFrame (caller : Thread) (id : String) (keep : Option String) : Play Reply :=
  withCached id fun o cached number => do
    match ← act caller id o (cached.get ((← get).copier number)) with
    | .error failure => return .failed failure
    | .ok (snapshot, cached, copier) =>
      setBody id (.cached cached number)
      setCopier number copier
      present ⟨snapshot, number⟩ keep

/-- The latest frame of a cached reader without its pixels. -/
def getMetadata (caller : Thread) (id : String) : Play Reply :=
  withCached id fun o cached number => do
    match ← act caller id o cached.getMetadata with
    | .error failure => return .failed failure
    | .ok (snapshot, cached) =>
      setBody id (.cached cached number)
      present ⟨snapshot, number⟩ none

/-- Show a snapshot again. -/
def showAgain (name : String) : Play Reply := do
  let w ← get
  match w.snapshots.get? name with
  | some kept => return w.showing kept
  | none => return .unknown

/-- Change how a copier ends its calls. -/
def setFaults (id : Option String) (create copy : Option CopyFault) : Play Reply := do
  let set (number : Nat) : Play Reply := do
    let copier := (← get).copier number
    setCopier number { copier with createFault := create, copyFault := copy }
    return .done
  match id with
  | none => set sharedCopier
  | some id => withCached id fun _ _ number => set number

/-! ## The host -/

/-- Start a child process with the files of the caller's process. -/
def fork (caller : Thread) (child : String) : Play Reply := do
  let w ← get
  set { w with nextPid := w.nextPid + 1, children := w.children ++ [(child, w.nextPid)] }
  changeHost (·.fork caller.pid w.nextPid)
  return .done

/-- The number of the newest child process of this name. -/
def childPid? (w : World) (name : String) : Option UInt32 := w.children.reverse.lookup name

/-- End a child process. -/
def kill (child : String) : Play Reply := do
  match (← get).childPid? child with
  | some pid =>
    changeHost (·.kill pid)
    return .done
  | none => return .unknown

/-- Who was active, and whether the current record is the kept one. Asking takes a moment, so
nobody was seen at the very instant of the question. -/
def consumers (caller : Thread) (kept : Bool) (window : Nat) : Play Reply := do
  changeHost (·.sleep 1)
  let w ← get
  let current := w.system.host.consumersOf caller.pid
  let asked := if kept then w.keptConsumers else current
  return .consumers asked.seen (asked.activeWithin window w.system.host.clock)
    (current = w.keptConsumers)

/-! ## Shared objects -/

/-- The file of one part of a region, if there is one. -/
def fileOf? (w : World) (config : RegionConfig) (part : RegionPart) : Option Nat := do
  let names := RegionNames.ofConfig config
  let name := match part with
    | .mapping => names.mapping
    | .lock => names.lock
  match w.system.store.entries.get? (← (osName name).toOption) with
  | some (.file id) => some id
  | _ => none

/-- The bytes that another process writes. -/
def writtenBytes? (w : World) (caller : Thread) : Written → Option Bytes
  | .bytes bytes => some bytes
  | .ownPid => some (Codec.uint32.encode caller.pid)
  | .childPid name => (w.childPid? name).map Codec.uint32.encode

/-- Write into one part of a region, which grows where that is needed. -/
def write (caller : Thread) (config : RegionConfig) (part : RegionPart) (offset : Nat)
    (what : Written) : Play Reply := do
  let w ← get
  match w.fileOf? config part, w.writtenBytes? caller what with
  | none, _ => return .missing
  | _, none => return .unknown
  | some id, some bytes =>
    let file := w.system.store.file id
    let bytes :=
      if bytes.isEmpty then file.bytes
      else (file.bytes.extend (offset + bytes.length)).patch offset bytes
    let store := w.system.store.setFile id { file with bytes }
    set { w with system := { w.system with store } }
    return .done

/-- The bytes of the mapping of a region. -/
def memory (config : RegionConfig) : Play Reply := do
  let w ← get
  match w.fileOf? config .mapping with
  | some id => return .memory (w.system.store.file id).bytes
  | none => return .missing

/-- Leave something under the name of one part of a region. -/
def squat (config : RegionConfig) (part : RegionPart) (squatter : Squatter) : Play Reply := do
  let w ← get
  let names := RegionNames.ofConfig config
  let name := match part with
    | .mapping => names.mapping
    | .lock => names.lock
  match osName name with
  | .error error => return .failed (.error error)
  | .ok name =>
    let store := w.system.store
    let entry (e : SharedEntry) : SharedStore := { store with entries := store.entries.insert name e }
    let store :=
      match squatter with
      | .file bytes =>
        match store.entries.get? name with
        | some (.file id) => store.setFile id (.ofBytes bytes)
        | _ => (store.createFile name (.ofBytes bytes)).2
      | .directory => entry .directory
      | .link => entry .link
    set { w with system := { w.system with store } }
    return .done

/-- Take the names of a region away. -/
def unlink (config : RegionConfig) : Play Reply := do
  let w ← get
  let (outcome, store) := w.system.store.unlinkRegion (.ofConfig config)
  set { w with system := { w.system with store } }
  match outcome with
  | .ok () => return .done
  | .error error => return .failed (.error error)

/-- A thread of a new process. -/
def newProcess : Play Thread := do
  let w ← get
  set { w with nextPid := w.nextPid + 1 }
  changeHost (·.launch w.nextPid ∅)
  return ⟨w.nextPid, 0⟩

/-- Run the inspection tool in a process of its own. -/
def inspect (arguments : List String) (environment : Environment) : Play Reply := do
  let tool ← newProcess
  let w ← get
  let (result, system) := InspectTool.run arguments environment w.system tool
  set { w with system := system.threadDies tool }
  changeHost (·.kill tool.pid)
  return .inspected result

/-! ## All commands -/

/-- What a command does, and what it answers. -/
def perform (caller : Thread) : Command → Play Reply
  | .openWriter id config gpu => openWriter caller id config gpu
  | .openReader id config => openReader caller id config (.reader .fresh)
  | .openCached id config kind => openCached caller id config kind
  | .close id => close caller id
  | .lock id guard mode => lock caller id guard mode
  | .unlock guard => unlock caller guard
  | .metadata guard => metadata caller guard
  | .beginFrame guard token => beginFrame caller guard token
  | .nextFrame token => nextFrame token
  | .submit token frame => consume caller token fun writer _ => writer.submit frame
  | .abandon token => consume caller token fun _ next => Writer.abandon next
  | .submitEmpty guard => underGuard caller guard .submitted Writer.submitEmpty
  | .detach guard => underGuard caller guard .detached Writer.detach
  | .publish id mode frame => onWriter caller id .next fun writer => writer.publish mode frame
  | .publishEmpty id mode =>
    onWriter caller id (fun _ => .submitted) fun writer => writer.publishEmpty mode
  | .publishDetach id mode =>
    onWriter caller id (fun _ => .detached) fun writer => writer.publishDetach mode
  | .beginOnly id mode =>
    onWriter caller id (fun _ => .submitted) fun writer => writer.beginOnly mode
  | .describe id => describe id
  | .key id kind => key caller id kind
  | .header id mode => header caller id mode
  | .readMetadata id kind => readMetadata caller id kind
  | .makeDestination name size => makeDestination name size
  | .read id kind gpu destination keep => read caller id kind gpu destination keep
  | .restartCache id gpu length => restartCache id gpu length
  | .get id keep => getFrame caller id keep
  | .getMetadata id => getMetadata caller id
  | .showAgain snapshot => showAgain snapshot
  | .setFaults id create copy => setFaults id create copy
  | .openFile descriptor name => do
    changeHost (·.openFile caller.pid descriptor name)
    return .done
  | .closeFile descriptor => do
    changeHost (·.closeFile caller.pid descriptor)
    return .done
  | .fork child => fork caller child
  | .kill child => kill child
  | .sleep ns => do
    changeHost (·.sleep ns)
    return .done
  | .see kind => do
    changeHost (·.see caller.pid kind)
    return .done
  | .forgetConsumers => do
    changeHost (·.setConsumers caller.pid .empty)
    return .done
  | .keepConsumers => do
    modify fun w => { w with keptConsumers := w.system.host.consumersOf caller.pid }
    return .done
  | .consumers kept window => consumers caller kept window
  | .write config part offset what => write caller config part offset what
  | .memory config => memory config
  | .list => return .listing (← get).system.store.listing
  | .squat config part squatter => squat config part squatter
  | .unlink config => unlink config
  | .inspect arguments environment => inspect arguments environment

/-! ## The end of a thread -/

/-- Drop the guards of a thread without giving them back. -/
def forgetGuards (thread : Thread) : Play Unit :=
  modify fun w =>
    let guards : Table String Guard := ⟨w.guards.entries.filter fun g => g.2.thread ≠ thread⟩
    let tokens := w.tokens.entries.filter fun t => (guards.get? t.2.guard).isSome
    { w with guards, tokens := ⟨tokens⟩ }

/-- Give a guard back, whatever comes of it. -/
def releaseGuard (thread : Thread) (guard : String) : Play Unit := do
  let _ ← unlock thread guard

/-- The end of a thread. One that dies leaves its locks to whoever takes them next, and the
objects that it opened are gone with it; any other gives its guards back. -/
def endThread (thread : Thread) (dies : Bool) : Play Unit := do
  if dies then
    forgetGuards thread
    modify fun w =>
      { w with objects := ⟨w.objects.entries.filter fun o => o.2.opener ≠ thread⟩ }
  else
    let mine := (← get).guards.entries.filter fun g => g.2.thread = thread
    mine.forM fun g => releaseGuard thread g.1
    forgetGuards thread
  modify fun w => { w with system := w.system.threadDies thread }

end World

end FrameExchange
