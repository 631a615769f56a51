import Stepwise.Analysis.Basic
import Stepwise.Json.Decode

/-!
# Analyses as JSON

An analysis is written as an object and read back.  In reading, lines are 32-bit and offsets
64-bit numbers.
-/

namespace Stepwise

/-- A range of offsets as an object. -/
def Span.toJson (s : Span) : Json :=
  .object [("start".toList, Json.ofNat s.start), ("end".toList, Json.ofNat s.stop)]

/-- The names of the members of a range. -/
def Span.memberNames : List Text := ["start", "end"]

/-- The range that a value describes; it has no other members. -/
def Span.ofJson? (x : Json) : Option Span := do
  guard (x.knows Span.memberNames)
  match ← Json.fields? Span.memberNames 0 x with
  | [start, stop] =>
    return ⟨← Json.need (Json.nat? offsetBound) start, ← Json.need (Json.nat? offsetBound) stop⟩
  | _ => none

namespace Analysis

/-- A line number out of a value. -/
def line? : Json → Option Nat := Json.nat? LineSet.lineBound

/-- An offset out of a value. -/
def offset? : Json → Option Nat := Json.nat? offsetBound

/-- A function as an object. -/
def Function.toJson (f : Function) : Json :=
  .object [("name".toList, .string f.name), ("body_range".toList, f.body.toJson),
    ("parameter_names".toList, Json.ofList .string f.parameters),
    ("header_line".toList, Json.ofNat f.line)]

/-- The function that a value describes. -/
def Function.ofJson? (x : Json) : Option Function := do
  match ← Json.fields? ["name", "body_range", "parameter_names", "header_line"] 0 x with
  | [name, body, parameters, line] =>
    return {
      name := ← Json.need Json.text? name
      body := ← Json.need Span.ofJson? body
      parameters := ← Json.need (Json.list? Json.text?) parameters
      line := ← Json.need line? line }
  | _ => none

/-- The name of a loop shape. -/
def LoopKind.name : LoopKind → Text
  | .counted => "Counted"
  | .ranged => "RangeBased"
  | .conditional => "Conditional"

/-- The loop shape of a name. -/
def LoopKind.ofJson? (x : Json) : Option LoopKind :=
  x.variant?.bind fun name => [LoopKind.counted, .ranged, .conditional].find? (·.name == name)

/-- A loop as an object. -/
def Loop.toJson (l : Loop) : Json :=
  .object [("kind".toList, .string l.kind.name), ("range".toList, l.span.toJson),
    ("body_range".toList, l.body.toJson), ("body_is_block".toList, .bool l.isBlock),
    ("loop_variable".toList, Json.ofOption .string l.variableName),
    ("has_update_clause".toList, .bool l.hasUpdate),
    ("update_loc".toList, Json.ofOption Json.ofNat l.updateAt?),
    ("line".toList, Json.ofNat l.line)]

/-- The loop that a value describes. -/
def Loop.ofJson? (x : Json) : Option Loop := do
  match ← Json.fields? ["kind", "range", "body_range", "body_is_block", "loop_variable",
      "has_update_clause", "update_loc", "line"] 0 x with
  | [kind, span, body, isBlock, variableName, hasUpdate, updateAt?, line] =>
    return {
      kind := ← Json.need LoopKind.ofJson? kind
      span := ← Json.need Span.ofJson? span
      body := ← Json.need Span.ofJson? body
      isBlock := ← Json.need Json.flag? isBlock
      variableName := ← Json.allow Json.text? variableName
      hasUpdate := ← Json.need Json.flag? hasUpdate
      updateAt? := ← Json.allow offset? updateAt?
      line := ← Json.need line? line }
  | _ => none

/-- A member as an object. -/
def Member.toJson (m : Member) : Json :=
  .object [("name".toList, .string m.name), ("type_name".toList, .string m.typeName),
    ("is_pointer".toList, .bool m.isPointer),
    ("pointee_type".toList, Json.ofOption .string m.pointee?)]

/-- The member that a value describes. -/
def Member.ofJson? (x : Json) : Option Member := do
  match ← Json.fields? ["name", "type_name", "is_pointer", "pointee_type"] 0 x with
  | [name, typeName, isPointer, pointee?] =>
    return {
      name := ← Json.need Json.text? name
      typeName := ← Json.need Json.text? typeName
      isPointer := ← Json.need Json.flag? isPointer
      pointee? := ← Json.allow Json.text? pointee? }
  | _ => none

/-- An aggregate as an object. -/
def Aggregate.toJson (a : Aggregate) : Json :=
  .object [("name".toList, .string a.name), ("fields".toList, Json.ofList Member.toJson a.members),
    ("prototype_loc".toList, Json.ofOption Json.ofNat a.prototypeAt?)]

/-- The aggregate that a value describes. -/
def Aggregate.ofJson? (x : Json) : Option Aggregate := do
  match ← Json.fields? ["name", "fields", "prototype_loc"] 0 x with
  | [name, members, prototypeAt?] =>
    return {
      name := ← Json.need Json.text? name
      members := ← Json.need (Json.list? Member.ofJson?) members
      prototypeAt? := ← Json.allow offset? prototypeAt? }
  | _ => none

/-- The name of a kind of step. -/
def StepKind.name : StepKind → Text
  | .statement => "Statement"
  | .loopBack => "LoopBack"

/-- The kind of step of a name. -/
def StepKind.ofJson? (x : Json) : Option StepKind :=
  x.variant?.bind fun name => [StepKind.statement, .loopBack].find? (·.name == name)

/-- A step as an object. -/
def Step.toJson (s : Step) : Json :=
  .object [("kind".toList, .string s.kind.name), ("loc".toList, Json.ofNat s.offset),
    ("line".toList, Json.ofNat s.line)]

/-- The step that a value describes. -/
def Step.ofJson? (x : Json) : Option Step := do
  match ← Json.fields? ["kind", "loc", "line"] 0 x with
  | [kind, offset, line] =>
    return {
      kind := ← Json.need StepKind.ofJson? kind
      offset := ← Json.need offset? offset
      line := ← Json.need line? line }
  | _ => none

/-- A body without braces as an object. -/
def BareBody.toJson (b : BareBody) : Json :=
  .object [("range".toList, b.span.toJson),
    ("loop_back".toList, Json.ofOption Json.ofNat b.loopBack?)]

/-- The body that a value describes. -/
def BareBody.ofJson? (x : Json) : Option BareBody := do
  match ← Json.fields? ["range", "loop_back"] 1 x with
  | [span, loopBack?] =>
    return {
      span := ← Json.need Span.ofJson? span
      loopBack? := ← Json.allow line? loopBack? }
  | _ => none

/-- A declaration as an object. -/
def Declaration.toJson (d : Declaration) : Json :=
  .object [("names".toList, Json.ofList .string d.names), ("loc".toList, Json.ofNat d.offset),
    ("line".toList, Json.ofNat d.line)]

/-- The declaration that a value describes. -/
def Declaration.ofJson? (x : Json) : Option Declaration := do
  match ← Json.fields? ["names", "loc", "line"] 0 x with
  | [names, offset, line] =>
    return {
      names := ← Json.need (Json.list? Json.text?) names
      offset := ← Json.need offset? offset
      line := ← Json.need line? line }
  | _ => none

end Analysis

/-- An analysis as an object. -/
def Analysis.toJson (a : Analysis) : Json :=
  .object [("functions".toList, Json.ofList Analysis.Function.toJson a.functions),
    ("loops".toList, Json.ofList Analysis.Loop.toJson a.loops),
    ("structs".toList, Json.ofList Analysis.Aggregate.toJson a.aggregates),
    ("steps".toList, Json.ofList Analysis.Step.toJson a.steps),
    ("statement_bodies".toList, Json.ofList Analysis.BareBody.toJson a.bareBodies),
    ("declarations".toList, Json.ofList Analysis.Declaration.toJson a.declarations),
    ("skipped_functions".toList, Json.ofList .string a.skipped)]

/-- The analysis that a value describes. -/
def Analysis.ofJson? (x : Json) : Option Analysis := do
  match ← Json.fields? ["functions", "loops", "structs", "steps", "statement_bodies",
      "declarations", "skipped_functions"] 0 x with
  | [functions, loops, aggregates, steps, bareBodies, declarations, skipped] =>
    return {
      functions := ← Json.need (Json.list? Analysis.Function.ofJson?) functions
      loops := ← Json.need (Json.list? Analysis.Loop.ofJson?) loops
      aggregates := ← Json.need (Json.list? Analysis.Aggregate.ofJson?) aggregates
      steps := ← Json.need (Json.list? Analysis.Step.ofJson?) steps
      bareBodies := ← Json.need (Json.list? Analysis.BareBody.ofJson?) bareBodies
      declarations := ← Json.need (Json.list? Analysis.Declaration.ofJson?) declarations
      skipped := ← Json.need (Json.list? Json.text?) skipped }
  | _ => none

end Stepwise
