import Stepwise.Record.Json
import Stepwise.Replay

/-!
# Graphs, snapshots and replays as JSON
-/

namespace Stepwise

/-- A heap value as an object tagged by its kind. -/
def HeapValue.toJson : HeapValue → Json
  | .table fields =>
    .object [("kind".toList, .string "table"),
      ("fields".toList, Json.ofList (fun (key, t) => .array [.string key, .string t]) fields)]
  | .plain t => .object [("kind".toList, .string "opaque"), ("text".toList, .string t)]

/-- A heap object as an object. -/
def HeapObject.toJson (o : HeapObject) : Json :=
  .object [("address".toList, .string o.address), ("type".toList, .string o.typeName),
    ("displayValue".toList, .string o.displayValue), ("value".toList, o.value.toJson)]

/-- A frame as an object. -/
def FrameGroup.toJson (f : FrameGroup) : Json :=
  .object [("label".toList, .string f.label),
    ("variables".toList, Json.ofList Record.toJson f.records)]

/-- The place of a pointer as an object tagged by its kind. -/
def EdgeSource.toJson : EdgeSource → Json
  | .variable frame name =>
    .object [("kind".toList, .string "variable"), ("frame".toList, .string frame),
      ("name".toList, .string name)]
  | .heap address => .object [("kind".toList, .string "heap"), ("address".toList, .string address)]

/-- A pointer as an object. -/
def Edge.toJson (e : Edge) : Json :=
  .object [("source".toList, e.source.toJson), ("target".toList, .string e.target)]

/-- A graph as an object. -/
def ObjectGraph.toJson (g : ObjectGraph) : Json :=
  .object [("frames".toList, Json.ofList FrameGroup.toJson g.frames),
    ("heap".toList, Json.ofList HeapObject.toJson g.heap),
    ("edges".toList, Json.ofList Edge.toJson g.edges)]

/-- A snapshot as an object. -/
def Snapshot.toJson (s : Snapshot) : Json :=
  .object [("graph".toList, s.graph.toJson), ("stack".toList, Json.ofList .string s.stack)]

/-- A replayed log as an object. -/
def Replay.toJson (r : Replay) : Json :=
  .object [("output".toList, .string r.output),
    ("snapshot".toList, Json.ofOption Snapshot.toJson r.snapshot),
    ("tests".toList, Json.ofList TestOutcome.toJson r.tests),
    ("dumps".toList, Json.ofNat r.dumps)]

end Stepwise
