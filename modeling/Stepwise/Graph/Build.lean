import Stepwise.Graph.Basic
import Stepwise.Json.Printer
import Stepwise.Json.Reader
import Stepwise.Record.Basic
import Stepwise.Text.Blank

/-!
# Building the graph

The graph of a dump: its records grouped by frame, the heap with every address once, an edge for
each variable with a target, and for each object an edge to every known object whose address is
mentioned in its value.

Main definitions: `ObjectGraph.ofRecords` (`build`), with `heapAddress?` (`heap_address`) and
`HeapValue.ofText` (`parse_value`).
-/

/-!
## 1. Heap values

The printer of an aggregate renders it as a JSON object.  Such a text becomes a table, in which
strings stand as they are and all else as JSON without spaces; every other text stays plain.
-/

namespace Stepwise.HeapValue

/-- The text shown for a field. -/
def fieldText : Json → Text
  | .string s => s
  | x => x.compact

/-- Reads the rendered value of an allocation. -/
def ofText (t : Text) : HeapValue :=
  match t.trimStart with
  | '{' :: _ =>
    match (Json.read? t).bind Json.settle? with
    | some (.object ms) => .table (ms.map fun (name, x) => (name, fieldText x))
    | _ => .plain t
  | _ => .plain t

end Stepwise.HeapValue

/-! ## 2. Graphs -/

namespace Stepwise

/-- The elements of a list whose key occurs for the first time. -/
def firstsBy {α κ : Type} [DecidableEq κ] (key : α → κ) : List α → List α
  | [] => []
  | x :: xs => x :: (firstsBy key xs).filter fun y => key y ≠ key x

namespace ObjectGraph

/-- The address of a heap record in canonical spelling: its own, or else the one in its name. -/
def heapAddress? (r : Record) : Option Text :=
  Address.canonical? r.ownAddress <|> (Text.after? "*" r.name).bind Address.canonical?

/-- The object that a heap record describes. -/
def heapObjectOf? (r : Record) : Option HeapObject :=
  (heapAddress? r).map fun address =>
    { address, typeName := r.typeName, displayValue := r.displayValue
      value := HeapValue.ofText r.displayValue }

/-- The pointer that a variable holds. -/
def variableEdge? (r : Record) : Option Edge :=
  (r.pointeeAddress.bind Address.canonical?).map fun target =>
    { source := .variable r.frameLabel r.name, target }

/-- Whether a character is a hexadecimal digit. -/
def isHexDigit (c : Char) : Bool := (Text.digit? 16 c).isSome

/-- The addresses mentioned in a text: `0x` and the hexadecimal digits behind it, from the left
and without overlap. -/
def addressTokens : Text → List Text
  | [] => []
  | '0' :: 'x' :: t =>
    if (t.takeWhile isHexDigit).isEmpty then addressTokens t
    else ('0' :: 'x' :: t.takeWhile isHexDigit) :: addressTokens (t.dropWhile isHexDigit)
  | _ :: t => addressTokens t
termination_by t => t.length
decreasing_by
  · simp only [List.length_cons]
    omega
  · have := (List.dropWhile_suffix isHexDigit (l := t)).length_le
    simp only [List.length_cons]
    omega
  · simp

/-- The pointers that an object holds to objects of the heap. -/
def heapEdges (heap : List HeapObject) (o : HeapObject) : List Edge :=
  let targets := (addressTokens o.displayValue).filterMap Address.canonical?
  let known := targets.filter fun target => heap.any (·.address == target)
  (firstsBy id known).map fun target => { source := .heap o.address, target }

/-- The graph of a list of records. -/
def ofRecords (records : List Record) : ObjectGraph :=
  let vars := records.filter fun r => !r.isHeap
  let labels := firstsBy id (vars.map Record.frameLabel)
  let heap := firstsBy HeapObject.address ((records.filter Record.isHeap).filterMap heapObjectOf?)
  { frames := labels.map fun label =>
      { label, records := vars.filter (·.frameLabel == label) }
    heap
    edges := vars.filterMap variableEdge? ++ heap.flatMap (heapEdges heap) }

end ObjectGraph

end Stepwise
