import FrameExchange.Inspect.Arguments
import FrameExchange.Inspect.Report
import FrameExchange.Reader
import FrameExchange.Region.Open

/-!
# The inspection tool

The tool opens a region as a reader does, which makes one where there is none, and shows what it
finds there.

- `InspectTool.run` — one run of the tool, from its arguments to its exit code.
- `InspectTool.poll` — one look of a tool that goes on looking.
-/

namespace FrameExchange

/-- A running tool: the region it has open, and what it has shown last. -/
structure InspectTool where
  region : OpenRegion
  watch : Watch
  deriving DecidableEq, Repr

/-- How a run of the tool ended. -/
structure InspectResult where
  code : Nat
  shown : Option Report
  json : Bool
  deriving DecidableEq, Repr

namespace InspectTool

/-- Run one part of the tool; nobody looks at what it logs. -/
def silently {α : Type} (s : System) (part : System → α × System) : α × System :=
  match part s with
  | (a, after) => (a, { after with host := { after.host with events := s.host.events } })

/-- Start the tool on a region. -/
def start (s : System) (config : RegionConfig) : Except RegionError InspectTool × System :=
  silently s fun s =>
    match s.attach config .reader with
    | (.error error, s) => (.error error, s)
    | (.ok region, s) => (.ok ⟨region, .start⟩, s)

/-- Look at the header; a report, if there is something new to show. -/
def poll (t : InspectTool) (s : System) (caller : Thread) :
    Except Failure (Option Report) × InspectTool × System :=
  let ((outcome, region), s) := silently s fun s =>
    match s.act caller t.region (Reader.header .blocking) with
    | (outcome, region, s) => ((outcome, region), s)
  let t := { t with region }
  match outcome with
  | .error failure => (.error failure, t, s)
  | .ok none => (.ok none, t, s)
  | .ok (some header) =>
    let (report, watch) := t.watch.poll region.names header
    (.ok report, { t with watch }, s)

/-- The exit code of a run that could not do what it was asked to do. -/
def failed : InspectResult := ⟨1, none, false⟩

/-- Show a region once. -/
def inspect (arguments : InspectArguments) (environment : Environment) (s : System)
    (caller : Thread) : InspectResult × System :=
  match start s (arguments.config environment) with
  | (.error _, s) => (failed, s)
  | (.ok tool, s) =>
    match tool.poll s caller with
    | (.error _, _, s) => (failed, s)
    | (.ok shown, _, s) => (⟨0, shown, arguments.json⟩, s)

/-- Remove the objects of a region. -/
def remove (arguments : InspectArguments) (environment : Environment) (s : System) :
    InspectResult × System :=
  match s.store.unlinkRegion (RegionNames.ofConfig (arguments.config environment)) with
  | (.error _, store) => (failed, { s with store })
  | (.ok (), store) => (⟨0, none, false⟩, { s with store })

/-- A run of the tool. Only its first look is shown here. -/
def run (arguments : List String) (environment : Environment) (s : System) (caller : Thread) :
    InspectResult × System :=
  match InspectArguments.parse arguments environment with
  | .refused => (⟨2, none, false⟩, s)
  | .information => (⟨0, none, false⟩, s)
  | .run arguments =>
    if arguments.remove then remove arguments environment s
    else inspect arguments environment s caller

end InspectTool

end FrameExchange
