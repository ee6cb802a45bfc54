import FrameExchange.Region.Config

/-!
# The arguments of the inspection tool

Which region to look at, and how to show it.

- `InspectArguments.parse` — the arguments, a wish for information about the tool instead, or a
  refusal. Every option may be given once; removing a region leaves nothing to show.
- `InspectArguments.config` — where the region is; what is not said is taken from the environment.
-/

namespace FrameExchange

/-- What the tool is asked to do. -/
structure InspectArguments where
  product : Option String
  build : Option UInt32
  /-- Show JSON instead of text. -/
  json : Bool
  /-- Go on looking after so many milliseconds each. -/
  watch : Option UInt64
  /-- Remove the region instead of showing it. -/
  remove : Bool
  deriving DecidableEq, Repr

/-- What came of the arguments. -/
inductive ParsedArguments where
  | run (arguments : InspectArguments)
  /-- Only information about the tool is asked for. -/
  | information
  | refused
  deriving DecidableEq, Repr

namespace InspectArguments

/-- Nothing was said. -/
def unset : InspectArguments := ⟨none, none, false, none, false⟩

/-- A waiting time in milliseconds. -/
def parseMilliseconds? (s : String) : Option UInt64 :=
  (readUnsigned? UInt64.size s.toList).map UInt64.ofNat

/-- A build number. The only one that a minus sign may stand before is zero. -/
def parseBuild? (s : String) : Option UInt32 :=
  match s.toList with
  | '-' :: digits => (readDigits? 1 digits).map UInt32.ofNat
  | text => (readUnsigned? UInt32.size text).map UInt32.ofNat

/-- Whether an argument can be the value of the option before it. -/
def isValue (s : String) : Bool := s == "-" || s.toList.head? != some '-'

/-- The arguments with the value of an option set, if there is such an option, the value suits it
and it was not given before. -/
def setValue (a : InspectArguments) (option value : String) : Option InspectArguments :=
  if option = "product-id" then
    if a.product.isSome then none else some { a with product := some value }
  else if option = "build" then
    if a.build.isSome then none else (parseBuild? value).map fun n => { a with build := some n }
  else if option = "watch" then
    if a.watch.isSome then none
    else (parseMilliseconds? value).map fun n => { a with watch := some n }
  else none

/-- The arguments with a switch set, if there is such a switch and it was not given before. -/
def setSwitch (a : InspectArguments) (switch : String) : Option InspectArguments :=
  if switch = "json" then if a.json then none else some { a with json := true }
  else if switch = "remove" then if a.remove then none else some { a with remove := true }
  else none

/-- The value of an option that was not given, where its variable is set. A variable that does not
hold a value of the option is refused. -/
def fromVariable {α : Type} (given : Option α) (setting : Option ByteArray)
    (value : String → Option α) : Option (Option α) :=
  match given, setting with
  | none, some bytes => ((String.fromUTF8? bytes).bind value).map some
  | given, _ => some given

/-- The arguments once all are read: product and build number may come from the environment, and
what contradicts removal is refused. -/
def complete (a : InspectArguments) (environment : Environment) : ParsedArguments :=
  match fromVariable a.product environment.product some,
    fromVariable a.build environment.build parseBuild? with
  | some product, some build =>
    if a.remove && (a.json || a.watch.isSome) then .refused else .run { a with product, build }
  | _, _ => .refused

/-- Read arguments one after the other. -/
def parseFrom (environment : Environment) (a : InspectArguments) :
    List String → ParsedArguments
  | [] => a.complete environment
  | argument :: rest =>
    match argument.toList with
    | ['-', '-'] => if rest.isEmpty then a.complete environment else .refused
    | '-' :: '-' :: option =>
      let name := String.ofList (option.takeWhile (· ≠ '='))
      match option.dropWhile (· ≠ '=') with
      | _ :: value =>
        match a.setValue name (String.ofList value) with
        | some a => parseFrom environment a rest
        | none => .refused
      | [] =>
        if name = "help" ∨ name = "version" then .information
        else
          match a.setSwitch name with
          | some a => parseFrom environment a rest
          | none =>
            match rest with
            | value :: rest =>
              if isValue value then
                match a.setValue name value with
                | some a => parseFrom environment a rest
                | none => .refused
              else .refused
            | [] => .refused
    | '-' :: 'h' :: _ => .information
    | '-' :: 'V' :: _ => .information
    | _ => .refused

/-- Read the arguments. -/
def parse (arguments : List String) (environment : Environment) : ParsedArguments :=
  parseFrom environment unset arguments

/-- Where the region is. -/
def config (a : InspectArguments) (environment : Environment) : RegionConfig :=
  let base := RegionConfig.ofEnvironment environment
  let named := match a.product with
    | some product => base.withProduct product
    | none => base
  match a.build with
  | some build => named.withBuild build
  | none => named

end InspectArguments

end FrameExchange
