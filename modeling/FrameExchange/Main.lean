import FrameExchange.Inspect.Tool

/-!
# The inspection tool as a program

Shows a region of this computer: its header is read from where the system keeps shared objects,
without taking the lock. Everything that is decided is decided by `InspectTool`; here are only the
reading, the printing and the waiting.
-/

namespace FrameExchange.Program

/-- Where the system keeps a shared object. -/
def objectPath (osName : String) : String := "/dev/shm" ++ osName

/-- The bytes of a shared object, if there is one. -/
def objectBytes? (osName : String) : IO (Option Bytes) := do
  try
    return some (← IO.FS.readBinFile (objectPath osName)).toList
  catch _ => return none

/-- A system that holds what is found under the name of a mapping. -/
def findMapping (config : RegionConfig) : IO System := do
  let host : Host := ⟨∅, ⟨fun n => UInt32.ofNat n, 0⟩, 0, 0, []⟩
  match osName (RegionNames.ofConfig config).mapping with
  | .error _ => return ⟨.empty, host⟩
  | .ok name =>
    match ← objectBytes? name with
    | none => return ⟨.empty, host⟩
    | some bytes => return ⟨(SharedStore.empty.createFile name (.ofBytes bytes)).2, host⟩

/-- Remove a shared object; one that is missing is no error. -/
def removeObject (name : String) : IO Bool := do
  match osName name with
  | .error error =>
    IO.eprintln (error.message .none)
    return false
  | .ok flat =>
    try
      IO.FS.removeFile (objectPath flat)
      return true
    catch
      | .noFileOrDirectory .. => return true
      | error =>
        IO.eprintln (toString error)
        return false

/-- Remove both objects of a region, the mapping first. -/
def removeRegion (config : RegionConfig) : IO UInt32 := do
  let names := RegionNames.ofConfig config
  if ← removeObject names.mapping then
    if ← removeObject names.lock then return 0
  return 1

/-- Look once; print what is new. -/
def look (config : RegionConfig) (json : Bool) (watch : Watch) : IO (Option Watch) := do
  match InspectTool.start (← findMapping config) config with
  | (.error error, _) =>
    IO.eprintln (error.message .none)
    return none
  | (.ok tool, system) =>
    match { tool with watch }.poll system ⟨0, 0⟩ with
    | (.ok shown, tool, _) =>
      match shown with
      | some report => IO.print (report.print .none json)
      | none => pure ()
      return some tool.watch
    | (.error _, _, _) => return none

/-- Look again and again, with a pause in between. -/
partial def lookOn (config : RegionConfig) (json : Bool) (pause : UInt64) (watch : Watch) :
    IO UInt32 := do
  IO.sleep (UInt32.ofNat (min pause.toNat (UInt32.size - 1)))
  match ← look config json watch with
  | some watch => lookOn config json pause watch
  | none => return 1

/-- How the tool is called. -/
def usage : String :=
  "options: --product-id ID, --build N, --json, --watch MS, --remove, --help, --version"

/-- Do what the arguments ask for. -/
def run (arguments : InspectArguments) (environment : Environment) : IO UInt32 := do
  let config := arguments.config environment
  if arguments.remove then removeRegion config
  else
    match ← look config arguments.json .start, arguments.watch with
    | none, _ => return 1
    | some _, none => return 0
    | some watch, some pause => lookOn config arguments.json pause watch

end FrameExchange.Program

open FrameExchange in
/-- Exit codes: 0, 1 for a region that cannot be shown or removed, 2 for refused arguments. -/
def main (arguments : List String) : IO UInt32 := do
  let product ← IO.getEnv productVariable
  let build ← IO.getEnv buildVariable
  let environment : Environment := ⟨product.map String.toUTF8, build.map String.toUTF8⟩
  match InspectArguments.parse arguments environment with
  | .refused =>
    IO.eprintln Program.usage
    return 2
  | .information =>
    IO.println Program.usage
    return 0
  | .run arguments => Program.run arguments environment
