import Stepwise.Wire.Marker
import Stepwise.Wire.Field

/-!
# The registries of a program

A program under the debugger keeps three registries: its traced variables, its call stack, and its
allocations.  This module says how the operations of the program change them and what a dump of
them looks like.

Main definitions, each with the function of `ShimState` that it stands for:

* `Registry.trace?`, `Registry.tracePointer?`: a variable is declared (`trace`, `trace_pointer`,
  both by `register`), and `Registry.untrace`: its scope ends (the drop of a `VariableTracer`);
* `Registry.enter`, `Registry.leave`: functions (`enter_function`, the drop of a `FunctionScope`);
* `Registry.allocate?`, `Registry.release`: the heap (`allocate`, `deallocate`);
* `Registry.canRender`, `Registry.beginRender`, `Registry.endRender`: what is done around the
  renderer of an allocation (`update_heap_info`);
* `Registry.dump`: the text that a program prints at a step (`dump`).
-/

namespace Stepwise

/-- What a variable holds. -/
inductive Content where
  /-- A value, by its text. -/
  | value (text : Text)
  /-- A pointer to an address; 0 is null. -/
  | pointer (address : Nat)
  deriving DecidableEq, Repr

/-- A traced variable. -/
structure Variable where
  /-- Tells variables apart, whatever their names. -/
  id : Nat
  /-- The declared name. -/
  name : Text
  /-- The name of its type. -/
  typeName : Text
  /-- The label of the frame in which it was declared. -/
  frame : Text
  /-- Its own address. -/
  address : Nat
  /-- What it holds now. -/
  content : Content
  deriving DecidableEq, Repr

/-- A registered allocation. -/
structure Allocation where
  /-- The number of bytes asked for. -/
  size : Nat
  /-- The name of its type, once it is known. -/
  typeName : Text
  /-- How it was rendered last. -/
  value : Text
  deriving DecidableEq, Repr

/-- The registries of a program. -/
structure Registry where
  /-- The traced variables, oldest first. -/
  traced : List Variable := []
  /-- The labels of the active functions, outermost first. -/
  stack : List Text := []
  /-- The registered allocations by ascending address. -/
  heap : List (Nat × Allocation) := []
  /-- Whether a renderer is running; what it allocates and releases is not registered. -/
  inHook : Bool := false
  /-- How many renderers are running. -/
  depth : Nat := 0
  /-- A renderer starts only if no more than this many are running. -/
  depthLimit : Nat := 50
  /-- The id of the next variable. -/
  nextVariable : Nat := 0
  /-- The address of the next allocation. -/
  nextHeap : Nat := 0x10000
  /-- The address of the next variable. -/
  nextSlot : Nat := 0xf000
  deriving DecidableEq, Repr

namespace Registry

/-! ## 1. Variables -/

/-- The label of the function that runs. -/
def currentFrame (r : Registry) : Text := r.stack.getLast?.getD globalFrame

/-- The bytes between the addresses of two variables. -/
def slotSize : Nat := 8

/-- Registers a variable and gives its id.  There is no room for a variable whose successor would
have no address. -/
def register? (r : Registry) (name typeName : Text) (content : Content) :
    Option (Registry × Nat) :=
  if r.nextSlot < slotSize then none
  else
    let added : Variable :=
      { id := r.nextVariable, name, typeName, frame := r.currentFrame, address := r.nextSlot
        content }
    some ({ r with
      traced := r.traced ++ [added]
      nextVariable := r.nextVariable + 1
      nextSlot := r.nextSlot - slotSize }, r.nextVariable)

/-- Traces a variable that holds a value. -/
def trace? (r : Registry) (name typeName value : Text) : Option (Registry × Nat) :=
  r.register? name typeName (.value value)

/-- The type of an allocation that no pointer has been seen for. -/
def rawType : Text := "raw"

/-- Gives an allocation without type a type. -/
def retype (r : Registry) (address : Nat) (typeName : Text) : Registry :=
  { r with
    heap := r.heap.map fun (a, allocation) =>
      if a = address ∧ allocation.typeName = rawType then (a, { allocation with typeName })
      else (a, allocation) }

/-- Traces a pointer; an allocation without type gets the type of what the pointer points to. -/
def tracePointer? (r : Registry) (name pointee : Text) (address : Nat) :
    Option (Registry × Nat) :=
  (r.retype address pointee).register? name (pointee ++ " *") (.pointer address)

/-- Assigns to a variable; one that is not traced any more is not seen. -/
def assign (r : Registry) (id : Nat) (content : Content) : Registry :=
  { r with traced := r.traced.map fun v => if v.id = id then { v with content } else v }

/-- Ends the tracing of a variable. -/
def untrace (r : Registry) (id : Nat) : Registry :=
  { r with traced := r.traced.filter (·.id ≠ id) }

/-! ## 2. Functions -/

/-- Whether a frame is an activation of a function. -/
def isActivationOf (name label : Text) : Bool :=
  label == name || (Text.after? (name ++ " (") label).isSome

/-- The label of the next activation of a function: its name, with a number from the second one
on. -/
def nextLabel (r : Registry) (name : Text) : Text :=
  match (r.stack.filter (isActivationOf name)).length with
  | 0 => name
  | n + 1 => name ++ " (" ++ Text.ofNat (n + 2) ++ ")"

/-- Enters a function. -/
def enter (r : Registry) (name : Text) : Registry :=
  { r with stack := r.stack ++ [r.nextLabel name] }

/-- Leaves the innermost function. -/
def leave (r : Registry) : Registry := { r with stack := r.stack.dropLast }

/-! ## 3. The heap -/

/-- The bytes that an allocation takes: its size, or one byte, rounded up to whole blocks of
16. -/
def roundedSize (size : Nat) : Nat := (max size 1 + 15) / 16 * 16

/-- Addresses are 64-bit numbers. -/
def addressBound : Nat := UInt64.size

/-- Allocates and gives the address.  There is no room for an allocation whose successor would have
no address. -/
def allocate? (r : Registry) (size : Nat) : Option (Registry × Nat) :=
  let next := r.nextHeap + roundedSize size
  if addressBound ≤ next then none
  else
    let allocation : Allocation :=
      { size, typeName := rawType, value := "Allocated (" ++ Text.ofNat size ++ " bytes)" }
    some ({ r with
      nextHeap := next
      heap := if r.inHook then r.heap else r.heap ++ [(r.nextHeap, allocation)] }, r.nextHeap)

/-- Releases an allocation. -/
def release (r : Registry) (address : Nat) : Registry :=
  if r.inHook then r else { r with heap := r.heap.filter (·.1 ≠ address) }

/-- Changes a registered allocation. -/
def modifyHeap (r : Registry) (address : Nat) (f : Allocation → Allocation) : Registry :=
  { r with heap := r.heap.map fun (a, allocation) =>
      (a, if a = address then f allocation else allocation) }

/-- Whether an allocation is registered and may be rendered now. -/
def canRender (r : Registry) (address : Nat) : Bool :=
  address ≠ 0 && r.depth ≤ r.depthLimit && r.heap.any (·.1 = address)

/-- The registries in which the renderer of an allocation runs. -/
def beginRender (r : Registry) (address : Nat) (typeName : Text) : Registry :=
  { r.modifyHeap address ({ · with typeName }) with depth := r.depth + 1, inHook := true }

/-- The registries when the renderer is done; `hook` tells whether another one goes on. -/
def endRender (r : Registry) (address : Nat) (value : Text) (hook : Bool) : Registry :=
  { r.modifyHeap address ({ · with value }) with depth := r.depth - 1, inHook := hook }

/-! ## 4. Dumps -/

/-- The fields of a record line, values encoded. -/
def recordLine (name typeName address value target frame pointee : Text) : Text :=
  Text.join "|" [name, typeName, address, Field.encode .inner value, target, frame,
    Field.encode .last pointee]

/-- The value of the allocation at an address. -/
def valueAt (r : Registry) (address : Nat) : Text :=
  ((r.heap.lookup address).map Allocation.value).getD []

/-- The line of a variable. -/
def variableLine (r : Registry) (v : Variable) : Text :=
  let line (value target pointee : Text) : Text :=
    recordLine v.name v.typeName (Address.text v.address) value target v.frame pointee
  match v.content with
  | .value text => line text nullTarget []
  | .pointer 0 => line "nullptr" nullTarget []
  | .pointer address => line (Address.text address) (Address.text address) (r.valueAt address)

/-- The line of an allocation. -/
def allocationLine (address : Nat) (a : Allocation) : Text :=
  recordLine ('*' :: Address.text address) a.typeName (Address.text address) a.value nullTarget
    heapFrame []

/-- The lines of a dump: the variables from the newest to the oldest and the allocations, then the
stack. -/
def dumpLines (r : Registry) : List Text :=
  [Sentinel.varsStart.text] ++ r.traced.reverse.map r.variableLine ++
    (r.heap.map fun (address, a) => allocationLine address a) ++
    [Sentinel.varsEnd.text, Sentinel.stackStart.text] ++ r.stack ++ [Sentinel.stackEnd.text]

/-- The text of a dump. -/
def dump (r : Registry) : Text := r.dumpLines.flatMap (· ++ ['\n'])

end Registry

end Stepwise
