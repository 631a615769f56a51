import Stepwise.Wire.Field
import Stepwise.Wire.Marker

/-!
# Variable records

A record is one line of the variable block of a dump: a variable of some frame, or an allocation
of the heap.  Its written form is `name|type|own address|value|target|frame|value of the target`.
A line is read strictly (`ofLine`), where seven fields are wanted, six do, and bars in excess
belong to the value; or leniently (`ofLineLossy`), where a line of another form still becomes a
record that shows its text.

Main definitions: `Record.line`, `Record.ofLine`, `Record.degraded` and `Record.ofLineLossy`
(`VariableRecord`, `fmt`, `from_str`, `degraded` and `parse_lossy`).
-/

/-! ## 1. Records -/

namespace Stepwise

/-- One variable or heap allocation as dumped. -/
structure Record where
  /-- The variable's name, or `*` and the address of an allocation. -/
  name : Text
  /-- The name of the type. -/
  typeName : Text
  /-- The address of the storage itself. -/
  ownAddress : Text
  /-- The rendered value. -/
  displayValue : Text
  /-- The target of a pointer; plain values and null pointers have none. -/
  pointeeAddress : Option Text
  /-- The label of the frame that holds the variable. -/
  frameLabel : Text
  /-- The rendered value of the target. -/
  pointeeValue : Option Text
  deriving DecidableEq, Repr

/-- Whether the record describes an allocation and not a variable. -/
def Record.isHeap (r : Record) : Bool := r.frameLabel == heapFrame

end Stepwise

/-! ## 2. Lines -/

namespace Stepwise.Record

/-- Why a line is no record. -/
inductive LineError where
  /-- The line has too few fields. -/
  | fieldCount (count : Nat) (line : Text)
  /-- The first field is empty. -/
  | noName (line : Text)
  deriving DecidableEq, Repr

/-- The wording of a line error. -/
def LineError.message : LineError → Text
  | .fieldCount count line =>
    "expected 7 fields in variable record, got " ++ Text.ofNat count ++ ": " ++ line
  | .noName line => "variable record without a name: " ++ line

/-- A record from its raw fields: values are decoded, a target that spells no address is dropped,
and an empty value of the target counts as none. -/
def ofFields (line name typeName own value target frame pointee : Text) :
    Except LineError Record :=
  if name.isEmpty then .error (.noName line)
  else .ok
    { name, typeName, ownAddress := own
      displayValue := Field.decode value
      pointeeAddress := if (Address.read? target).isSome then some target else none
      frameLabel := frame
      pointeeValue := if pointee.isEmpty then none else some (Field.decode pointee) }

/-- Reads a record line. -/
def ofLine (line : Text) : Except LineError Record :=
  let parts := Text.fields '|' line
  match parts with
  | name :: typeName :: own :: rest =>
    match rest.reverse with
    | [frame, target, value] => ofFields line name typeName own value target frame []
    | pointee :: frame :: target :: value :: values =>
      let value := Text.join "|" (value :: values).reverse
      ofFields line name typeName own value target frame pointee
    | _ => .error (.fieldCount parts.length line)
  | _ => .error (.fieldCount parts.length line)

/-- The record shown for a line of another form: its name is what stands before the first bar,
and its value the rest. -/
def degraded (line : Text) : Record :=
  let (name, value) := (Text.cut? "|" line).getD (line, [])
  { name := name.trim, typeName := "unknown", ownAddress := []
    displayValue := value.trim, pointeeAddress := none
    frameLabel := "unknown", pointeeValue := none }

/-- Reads any line as a record. -/
def ofLineLossy (line : Text) : Record :=
  match ofLine line with
  | .ok r => r
  | .error _ => degraded line

/-- The fields of a record in written form. -/
def writtenFields (r : Record) : List Text :=
  [r.name, r.typeName, r.ownAddress, Field.encode .inner r.displayValue,
    r.pointeeAddress.getD nullTarget, r.frameLabel,
    (r.pointeeValue.map (Field.encode .last)).getD []]

/-- The line of a record. -/
def line (r : Record) : Text := Text.join "|" r.writtenFields

end Stepwise.Record
