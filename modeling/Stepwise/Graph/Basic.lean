import Stepwise.Record.Basic

/-!
# Object graphs

The state of a paused program as a graph (`ObjectGraph`): the variables of every frame
(`FrameGroup`), the objects of the heap (`HeapObject`), and an edge for every pointer from a
variable or object to an address (`PointerEdge`).
-/

namespace Stepwise

/-- The variables of one frame. -/
structure FrameGroup where
  /-- The label of the frame. -/
  label : Text
  /-- Its variables as dumped. -/
  records : List Record
  deriving DecidableEq, Repr

/-- The rendered contents of a heap object. -/
inductive HeapValue where
  /-- An aggregate: names and rendered values of its fields. -/
  | table (fields : List (Text × Text))
  /-- Any other text. -/
  | plain (text : Text)
  deriving DecidableEq, Repr

namespace HeapValue

/-- The value of a field. -/
def field? (key : Text) : HeapValue → Option Text
  | .table fields => fields.lookup key
  | .plain _ => none

/-- The names of the fields. -/
def keys : HeapValue → List Text
  | .table fields => fields.map Prod.fst
  | .plain _ => []

end HeapValue

/-- An allocation of the heap. -/
structure HeapObject where
  /-- Its address in canonical spelling. -/
  address : Text
  /-- The name of its type. -/
  typeName : Text
  /-- The value as dumped. -/
  displayValue : Text
  /-- The value as read. -/
  value : HeapValue
  deriving DecidableEq, Repr

/-- Where a pointer is held. -/
inductive EdgeSource where
  /-- In a variable of a frame. -/
  | variable (frame name : Text)
  /-- In the object at an address. -/
  | heap (address : Text)
  deriving DecidableEq, Repr

/-- A pointer. -/
structure Edge where
  /-- Where it is held. -/
  source : EdgeSource
  /-- The address it points to, in canonical spelling. -/
  target : Text
  deriving DecidableEq, Repr

/-- The frames, the heap and the pointers of a paused program. -/
structure ObjectGraph where
  /-- The frames in the order in which they are first seen. -/
  frames : List FrameGroup := []
  /-- The heap, every address once. -/
  heap : List HeapObject := []
  /-- The pointers. -/
  edges : List Edge := []
  deriving DecidableEq, Repr

namespace ObjectGraph

/-- The frame of a label. -/
def frame? (g : ObjectGraph) (label : Text) : Option FrameGroup :=
  g.frames.find? (·.label == label)

/-- The frame in which the program stands. -/
def currentFrame? (g : ObjectGraph) : Option FrameGroup := g.frames.head?

/-- The object at an address. -/
def heapObject? (g : ObjectGraph) (address : Text) : Option HeapObject :=
  g.heap.find? (·.address == address)

/-- The pointers held at a place. -/
def edgesFrom (g : ObjectGraph) (source : EdgeSource) : List Edge :=
  g.edges.filter (·.source == source)

/-- Whether there is no frame and no object. -/
def isEmpty (g : ObjectGraph) : Bool := g.frames.isEmpty && g.heap.isEmpty

end ObjectGraph

end Stepwise
