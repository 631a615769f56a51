import Stepwise.Syntax.Node

/-!
# Declarators

A declarator says what a declaration names: an identifier, possibly behind pointers, references,
array bounds, parentheses or an initial value; or a function.

Main definitions: `declaredName?` (`declarator_name`), `declaresFunction` (`is_function_declarator`)
and `functionDeclarator?` (`function_declarator`).
-/

namespace Stepwise.Syntax

/-- Words that name no variable and no function. -/
def keywords : List Text :=
  List.map String.toList [
   "if", "while", "for", "switch", "catch", "else", "struct", "class", "return", "break",
   "continue", "case", "default", "true", "false", "nullptr", "this", "new", "delete", "sizeof",
   "operator", "do", "try", "throw", "auto", "const", "static", "void"]

/-- Whether a text is a reserved word. -/
def isKeyword (t : Text) : Bool := keywords.contains t

/-- Whether a declarator wraps another one. -/
def Kind.isWrapper : Kind → Bool
  | .initDeclarator | .pointerDeclarator | .referenceDeclarator | .arrayDeclarator
  | .parenthesizedDeclarator | .attributedDeclarator => true
  | _ => false

namespace Node

/-- The text of the node, unless it is a reserved word. -/
def identifier? (source : Text) (n : Node) : Option Text :=
  let t := n.text source
  if isKeyword t then none else some t

mutual

/-- The name that a declarator declares; functions, bindings and unnamed declarators declare
none.  A wrapper holds the inner declarator in that role, or else somewhere among its children. -/
def declaredName? (source : Text) : Node → Option Text
  | .mk head children =>
    match head.kind with
    | .identifier | .fieldIdentifier => identifier? source (.mk head children)
    | kind =>
      if kind.isWrapper then
        if children.any (·.head.role = .declarator) then declaredInRole? source children
        else declaredAmong? source children
      else none

/-- The name declared by the first child in the role of a declarator. -/
def declaredInRole? (source : Text) : List Node → Option Text
  | [] => none
  | n :: ns =>
    if n.head.role = .declarator then declaredName? source n else declaredInRole? source ns

/-- The first name declared by a named child. -/
def declaredAmong? (source : Text) : List Node → Option Text
  | [] => none
  | n :: ns =>
    if n.head.isNamed then
      match declaredName? source n with
      | some name => some name
      | none => declaredAmong? source ns
    else declaredAmong? source ns

end

mutual

/-- Whether a declarator declares a function and not an object. -/
def declaresFunction : Node → Bool
  | .mk head children =>
    match head.kind with
    | .functionDeclarator => true
    | .identifier | .fieldIdentifier | .initDeclarator => false
    | _ => innerDeclaresFunction children

/-- Whether the first child in the role of a declarator declares a function. -/
def innerDeclaresFunction : List Node → Bool
  | [] => false
  | n :: ns => if n.head.role = .declarator then declaresFunction n else innerDeclaresFunction ns

end

/-- The declarator directly inside another one: the child in that role, or else the first named
child that is one. -/
def innerDeclarator? (n : Node) : Option Node :=
  match n.child? .declarator with
  | some inner => some inner
  | none => n.named.find? (·.kind.isDeclarator)

/-- The inner declarator is smaller. -/
theorem sizeOf_innerDeclarator {n inner : Node} (h : n.innerDeclarator? = some inner) :
    sizeOf inner < sizeOf n := by
  unfold innerDeclarator? at h
  split at h
  · next hc =>
    obtain rfl := Option.some.inj h
    exact sizeOf_lt_of_mem_children (mem_children_of_child? hc)
  · exact sizeOf_lt_of_mem_children (mem_children_of_named (List.mem_of_find?_eq_some h))

/-- The function declarator at or inside a declarator, behind pointers and references of the
return type. -/
def functionDeclaratorIn? (n : Node) : Option Node :=
  if n.kind = .functionDeclarator then some n
  else
    match _h : n.innerDeclarator? with
    | none => none
    | some inner => functionDeclaratorIn? inner
termination_by sizeOf n
decreasing_by exact sizeOf_innerDeclarator _h

/-- The function declarator of a definition. -/
def functionDeclarator? (n : Node) : Option Node :=
  (n.child? .declarator).bind functionDeclaratorIn?

/-- The number of pointer declarators directly inside each other, from the inner one of a
pointer. -/
def pointerDepth (n : Node) : Nat :=
  match h : n.child? .declarator with
  | none => 0
  | some inner => if inner.kind = .pointerDeclarator then pointerDepth inner + 1 else 0
termination_by sizeOf n
decreasing_by exact sizeOf_lt_of_mem_children (mem_children_of_child? h)

end Node

end Stepwise.Syntax
