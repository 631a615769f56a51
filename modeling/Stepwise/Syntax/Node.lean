import Stepwise.Syntax.Kind
import Stepwise.Text.Offset

/-!
# Syntax trees

A syntax tree is the value that a C++ parser hands over: nodes with kinds, roles and byte ranges
into the source.  The parser recovers from errors, so a tree may hold nodes marked as faulty.

Main definitions:

* `Node.child?`, `Node.childrenIn`, `Node.named`: the children by role and by being named
  (`children_by_field`, `named_children`);
* `Node.places`: every node of a tree in the order of the text, with its ancestors and the sibling
  behind it.
-/

namespace Stepwise

/-- A range of byte offsets, its end excluded. -/
structure Span where
  start : Nat
  stop : Nat
  deriving DecidableEq, Repr

namespace Syntax

/-- What is known of a node apart from its children. -/
structure Head where
  /-- The kind of the node. -/
  kind : Kind
  /-- The role it has for its parent. -/
  role : Role
  /-- Whether it stands for a grammar rule and not for a bare token. -/
  isNamed : Bool
  /-- Whether it or a node below it is faulty. -/
  hasError : Bool
  /-- The bytes it covers. -/
  span : Span
  /-- The line it starts on, counted from 0. -/
  row : Nat
  deriving DecidableEq, Repr

/-- A node of a syntax tree. -/
inductive Node where
  | mk (head : Head) (children : List Node)
  deriving Repr

namespace Node

/-- What is known of the node itself. -/
def head : Node → Head
  | mk h _ => h

/-- The children in order. -/
def children : Node → List Node
  | mk _ cs => cs

/-- The kind of the node. -/
def kind (n : Node) : Kind := n.head.kind

/-- The bytes the node covers. -/
def span (n : Node) : Span := n.head.span

/-- Where the node starts. -/
def start (n : Node) : Nat := n.span.start

/-- Where the node ends. -/
def stop (n : Node) : Nat := n.span.stop

/-- The 1-based line on which the node starts. -/
def line (n : Node) : Nat := n.head.row + 1

/-- The children that stand for grammar rules. -/
def named (n : Node) : List Node := n.children.filter (·.head.isNamed)

/-- The children of a role. -/
def childrenIn (n : Node) (role : Role) : List Node := n.children.filter (·.head.role = role)

/-- The first child of a role. -/
def child? (n : Node) (role : Role) : Option Node := n.children.find? (·.head.role = role)

/-- The text that the node covers. -/
def text (source : Text) (n : Node) : Text := (Text.slice? n.start n.stop source).getD []

theorem sizeOf_lt_of_mem_children {n c : Node} (h : c ∈ n.children) : sizeOf c < sizeOf n := by
  cases n with
  | mk head cs =>
    have := List.sizeOf_lt_of_mem (show c ∈ cs from h)
    simp only [mk.sizeOf_spec]
    omega

theorem mem_children_of_child? {n c : Node} {role : Role} (h : n.child? role = some c) :
    c ∈ n.children := List.mem_of_find?_eq_some h

theorem mem_children_of_named {n c : Node} (h : c ∈ n.named) : c ∈ n.children :=
  (List.mem_filter.1 h).1

end Node

/-- A node and its surroundings. -/
structure Place where
  /-- The node. -/
  node : Node
  /-- The nodes above it, its parent first. -/
  ancestors : List Node
  /-- The sibling behind it. -/
  next? : Option Node

mutual

/-- The nodes of a tree in the order of the text, parents before children. -/
def Node.placesUnder (ancestors : List Node) (next? : Option Node) : Node → List Place
  | .mk head children =>
    { node := .mk head children, ancestors, next? } ::
      placesAmong (.mk head children :: ancestors) children

/-- The nodes of several sibling trees. -/
def placesAmong (ancestors : List Node) : List Node → List Place
  | [] => []
  | n :: ns => n.placesUnder ancestors ns.head? ++ placesAmong ancestors ns

end

namespace Node

/-- Every node of a tree with its surroundings. -/
def places (root : Node) : List Place := root.placesUnder [] none

/-- Every node of a tree. -/
def descendants (root : Node) : List Node := root.places.map Place.node

end Node

end Syntax

end Stepwise
