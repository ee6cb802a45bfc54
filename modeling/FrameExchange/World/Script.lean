import FrameExchange.World.Perform

/-!
# Scripts

Commands one after the other, some of them on a thread of their own, some of them while the
inspection tool is looking on.

- `Step` — one entry of a script.
- `World.playSteps` — what comes of a script.
-/

namespace FrameExchange

/-- One entry of a script. -/
inductive Step where
  | command (command : Command)
  /-- Steps on a new thread, while the current one waits. -/
  | thread (dies : Bool) (steps : List Step)
  /-- Steps with a look of the inspection tool before the first and after each. -/
  | watched (config : RegionConfig) (steps : List Step)

/-- What came of a step. -/
inductive StepOutcome where
  | command (outcome : Outcome)
  /-- The outcomes on the thread, and what was logged when it ended. -/
  | thread (outcomes : List StepOutcome) (events : List Event)
  /-- The first report of the tool, and each outcome with the report after it. -/
  | watched (first : Option Report) (outcomes : List (StepOutcome × Option Report))
    (events : List Event)

namespace World

/-- The object that a command is about. -/
def subject (w : World) : Command → Option String
  | .openWriter id _ _ | .openReader id _ | .openCached id _ _ | .close id | .lock id _ _
  | .publish id _ _ | .publishEmpty id _ | .publishDetach id _ | .beginOnly id _ | .describe id
  | .key id _ | .header id _ | .readMetadata id _ | .read id _ _ _ _ | .restartCache id _ _
  | .get id _ | .getMetadata id => some id
  | .setFaults id _ _ => id
  | .unlock guard | .metadata guard | .beginFrame guard _ | .submitEmpty guard | .detach guard =>
    ofGuard guard
  | .nextFrame token | .submit token _ | .abandon token =>
    (w.tokens.get? token).bind fun t => ofGuard t.guard
  | _ => none
where
  ofGuard (guard : String) : Option String := (w.guards.get? guard).map (·.object)

/-- What was logged since this was last asked. -/
def takeEvents : Play (List Event) := do
  let events := (← get).system.host.events
  changeHost fun h => { h with events := [] }
  return events

/-- The calls of the copier of an object since this was last asked. -/
def takeCalls (id : String) : Play (List CopierCall) := do
  let w ← get
  match w.copierOf id with
  | none => return []
  | some number =>
    let copier := w.copier number
    setCopier number copier.looked
    return copier.calls

/-- Status and copier calls of the object that a command was about, if it still exists. -/
def takeStatus (subject : Option String) : Play (Option Status × List CopierCall) := do
  match subject with
  | none => return (none, [])
  | some id =>
    match (← get).status id with
    | none => return (none, [])
    | some status => return (some status, ← takeCalls id)

/-- Perform a command, and look at what came of it. -/
def observe (caller : Thread) (command : Command) : Play Outcome := do
  let subject := (← get).subject command
  let reply ← perform caller command
  let events ← takeEvents
  let (status, calls) ← takeStatus subject
  return { reply, events, status, calls }

/-- A new thread of the caller's process. -/
def newThread (caller : Thread) : Play Thread := do
  let w ← get
  set { w with nextThread := w.nextThread + 1 }
  return ⟨caller.pid, w.nextThread⟩

/-- Start the inspection tool in a process of its own; none where that fails. -/
def startTool (config : RegionConfig) : Play (Thread × Option InspectTool) := do
  let thread ← newProcess
  let w ← get
  let (outcome, system) := InspectTool.start w.system config
  set { w with system }
  return (thread, outcome.toOption)

/-- Let the tool look; nothing is shown once it has failed. -/
def look (thread : Thread) (tool : Option InspectTool) : Play (Option Report × Option InspectTool) := do
  match tool with
  | none => return (none, none)
  | some tool =>
    let w ← get
    let (outcome, tool, system) := tool.poll w.system thread
    set { w with system }
    match outcome with
    | .ok report => return (report, some tool)
    | .error _ => return (none, none)

mutual

/-- What comes of one step. -/
def playStep (caller : Thread) : Step → Play StepOutcome
  | .command command => return .command (← observe caller command)
  | .thread dies steps => do
    let thread ← newThread caller
    let outcomes ← playSteps thread steps
    endThread thread dies
    return .thread outcomes (← takeEvents)
  | .watched config steps => do
    let (thread, tool) ← startTool config
    let (first, tool) ← look thread tool
    let outcomes ← playWatched caller thread tool steps
    endThread thread true
    return .watched first outcomes (← takeEvents)

/-- What comes of several steps. -/
def playSteps (caller : Thread) : List Step → Play (List StepOutcome)
  | [] => return []
  | step :: rest => do
    let outcome ← playStep caller step
    return outcome :: (← playSteps caller rest)

/-- What comes of several steps while the tool is looking on. -/
def playWatched (caller toolThread : Thread) (tool : Option InspectTool) :
    List Step → Play (List (StepOutcome × Option Report))
  | [] => return []
  | step :: rest => do
    let outcome ← playStep caller step
    let (report, tool) ← look toolThread tool
    return (outcome, report) :: (← playWatched caller toolThread tool rest)

end

/-- What comes of a script on the first thread of a world. -/
def play (w : World) (caller : Thread) (steps : List Step) : List StepOutcome × World :=
  (playSteps caller steps).run w

end World

end FrameExchange
