import Stepwise.Record.Basic
import Stepwise.TestOutcome
import Stepwise.Json.Decode
import Stepwise.Json.Reader

/-!
# Records and test outcomes as JSON
-/

namespace Stepwise

/-- The names of the members of a record, in order. -/
def Record.memberNames : List Text :=
  ["name", "type", "ownAddress", "displayValue", "pointeeAddress", "frameLabel",
   "pointeeDisplayValue"]

/-- A record as an object. -/
def Record.toJson (r : Record) : Json :=
  .object (Record.memberNames.zip
    [.string r.name, .string r.typeName, .string r.ownAddress, .string r.displayValue,
     Json.ofOption .string r.pointeeAddress, .string r.frameLabel,
     Json.ofOption .string r.pointeeValue])

/-- The record that a value describes; addresses and values of targets may be missing. -/
def Record.ofJson? (x : Json) : Option Record := do
  match ← Json.fields? Record.memberNames 0 x with
  | [name, typeName, own, value, target, frame, pointee] =>
    return {
      name := ← Json.need Json.text? name
      typeName := ← Json.need Json.text? typeName
      ownAddress := ← Json.need Json.text? own
      displayValue := ← Json.need Json.text? value
      pointeeAddress := ← Json.allow Json.text? target
      frameLabel := ← Json.need Json.text? frame
      pointeeValue := ← Json.allow Json.text? pointee }
  | _ => none

/-- Reads the JSON text of a record; members of other names do not matter. -/
def Record.ofJsonText? (t : Text) : Option Record :=
  (Json.readKnown? Record.memberNames t).bind Record.ofJson?

/-- A test outcome as an object. -/
def TestOutcome.toJson : TestOutcome → Json
  | .passed e => .object [("outcome".toList, .string "passed"), ("expression".toList, .string e)]
  | .failed e expected actual =>
    .object [("outcome".toList, .string "failed"), ("expression".toList, .string e),
      ("expected".toList, .string expected), ("actual".toList, .string actual)]

end Stepwise
