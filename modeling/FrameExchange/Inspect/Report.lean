import FrameExchange.Error
import FrameExchange.Json.Records
import FrameExchange.Region.Name

/-!
# Reports

What the inspection tool shows of a region, as text or as JSON, and which reports a tool that goes
on looking leaves out.

- `Report.of` — the report on a header.
- `Report.text`, `Report.json` — its two forms.
- `Watch.poll` — a report is shown when the key has changed since the last one that was.
-/

namespace FrameExchange

/-- What is shown of a header. -/
structure Report where
  names : RegionNames
  attached : Bool
  key : FrameKey
  gpu : UInt64
  feederPid : UInt32
  config : FrameConfig
  layers : List Layer
  deriving DecidableEq, Repr

namespace Report

/-- The report on the header of a region. -/
def of (names : RegionNames) (h : Header) : Report :=
  ⟨names, h.hasFeeder, h.key, h.gpu, h.feederPid, h.config, h.layers⟩

/-- A number as it is written in the text: hexadecimal, without leading zeros. -/
def hexadecimal (n : Nat) : String := "0x" ++ Bytes.hexNumber 1 n

/-- The line of one layer. -/
def layerLine (l : Layer) : String :=
  "  layer " ++ hexadecimal l.id.toNat ++ ": " ++ toString l.rect.size.width ++ "x" ++
    toString l.rect.size.height ++ " at (" ++ toString l.rect.origin.x ++ ", " ++
    toString l.rect.origin.y ++ "), opacity " ++ l.opacity.fixed 2 ++ ", flags " ++
    l.layerFlags.describe

/-- The lines of the text. Without a feeder there is nothing to say about its frame. -/
def lines (labels : IdLabels) (r : Report) : List String :=
  let always :=
    ["mapping:  " ++ r.names.mapping,
      "mutex:    " ++ r.names.lock,
      "attached: " ++ (if r.attached then "true" else "false"),
      "session:  " ++ labels.sessionText r.key.session,
      "frame:    " ++ toString r.key.frame]
  let frame :=
    ["gpu luid: " ++ hexadecimal r.gpu.toNat,
      "feeder:   pid " ++ labels.processText r.feederPid,
      "texture:  " ++ toString r.config.textureSize.width ++ "x" ++
        toString r.config.textureSize.height] ++ r.layers.map layerLine
  if r.attached then always ++ frame else always

/-- The text, a line for each fact. -/
def text (labels : IdLabels) (r : Report) : String :=
  String.join ((r.lines labels).map (· ++ "\n"))

/-- A number, or the label that stands for it. -/
def labelled (label : Option String) (n : Nat) : Json :=
  match label with
  | some label => .text label
  | none => .number n

/-- The JSON form. -/
def toJson (labels : IdLabels) (r : Report) : Json :=
  .object [("mapping", .text r.names.mapping), ("mutex", .text r.names.lock),
    ("attached", .boolean r.attached),
    ("session_id", labelled (labels.session r.key.session) r.key.session.toNat),
    ("frame_number", .number r.key.frame.toNat), ("gpu_luid", .number r.gpu.toNat),
    ("feeder_process_id", labelled (labels.process r.feederPid) r.feederPid.toNat),
    ("config", r.config.toJson), ("layers", .array (r.layers.map Layer.toJson))]

/-- The report as it is printed. -/
def print (labels : IdLabels) (json : Bool) (r : Report) : String :=
  if json then (r.toJson labels).render ++ "\n" else r.text labels

end Report

/-- The key of the last report that was shown. -/
structure Watch where
  last : Option FrameKey
  deriving DecidableEq, Repr

namespace Watch

/-- Nothing was shown yet. -/
def start : Watch := ⟨none⟩

/-- The report on a header, unless one with its key was the last that was shown. -/
def poll (w : Watch) (names : RegionNames) (h : Header) : Option Report × Watch :=
  if w.last = some h.key then (none, w) else (some (.of names h), ⟨some h.key⟩)

end Watch

end FrameExchange
