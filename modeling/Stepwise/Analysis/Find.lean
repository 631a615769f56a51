import Stepwise.Analysis.Statement
import Stepwise.Syntax.Declarator
import Stepwise.Text.Blank
import Stepwise.Text.Word

/-!
# What single nodes say

Each kind of place that an analysis lists is read off one node of the tree: functions from their
definitions, loops and declarations from their statements, aggregates from their specifiers.

Main definitions:

* `Function.ofNode?`, `Loop.ofNode?`, `Declaration.ofNode?`, `Aggregate.ofPlace?`: the place at a
  node (`from_node` of `FunctionDescriptor`, `LoopDescriptor`, `TrackedDeclaration`,
  `StructDescriptor`);
* `headerEnd?`, `initializedName?`: the head of a loop (`header_close_paren`, `initializer_name`);
* `Member.ofNode`: the data members that a declaration declares (`field_descriptors`);
* `hasOwnPrinter`: whether the program prints a type itself (`has_user_printer`).
-/

namespace Stepwise.Analysis

open Syntax

/-- The list without what it holds already further in front. -/
def withoutRepeats (names : List Text) : List Text :=
  names.foldl (fun seen name => if seen.contains name then seen else seen ++ [name]) []

/-! ## 1. Functions -/

/-- Whether a node of this kind declares a parameter. -/
def isParameter : Kind → Bool
  | .parameterDeclaration | .optionalParameterDeclaration | .variadicParameterDeclaration => true
  | _ => false

/-- The names that a declaration gives. -/
def declaredNames (source : Text) (n : Node) : List Text :=
  (n.childrenIn .declarator).filterMap (Node.declaredName? source)

/-- The named parameters of a function declarator. -/
def parametersOf (source : Text) (declarator : Node) : List Text :=
  withoutRepeats <| (declarator.child? .parameters).toList.flatMap fun list =>
    (list.named.filter (isParameter ·.kind)).flatMap (declaredNames source)

/-- The function that a definition defines, if its body is a block and it has a name. -/
def Function.ofNode? (source : Text) (n : Node) : Option Function := do
  let body ← n.child? .body
  guard (body.kind = .compoundStatement)
  let declarator ← n.functionDeclarator?
  let name := ((← declarator.child? .declarator).text source).trim
  guard (!name.isEmpty && !isKeyword name)
  return { name, body := body.span, parameters := parametersOf source declarator, line := n.line }

/-! ## 2. Loops -/

/-- The start of the last closing parenthesis of a loop header. -/
def headerEnd? (n body : Node) : Option Nat :=
  ((n.children.filter fun c => c.kind = .closeParen && c.stop ≤ body.start).getLast?).map Node.start

/-- The variable that the initializer of a counted loop declares or assigns; in a row of
expressions it is the first one that counts. -/
def initializedName? (source : Text) (n : Node) : Option Text :=
  match n.kind with
  | .declaration => ((n.childrenIn .declarator).head?).bind (Node.declaredName? source)
  | .assignmentExpression =>
    match n.child? .left with
    | some left => if left.kind = .identifier then left.identifier? source else none
    | none => none
  | .commaExpression =>
    match _h : n.child? .left with
    | some left => initializedName? source left
    | none => none
  | _ => none
termination_by sizeOf n
decreasing_by exact Node.sizeOf_lt_of_child? _h

/-- The loop that a statement is, if it has a body. -/
def Loop.ofNode? (source : Text) (n : Node) : Option Loop := do
  let kind ← n.kind.loopKind?
  let body ← n.child? .body
  let update? := if kind = .counted then n.child? .update else none
  return {
    kind
    span := n.span
    body := body.span
    isBlock := body.kind = .compoundStatement
    variableName := match kind with
      | .counted => (n.child? .initializer).bind (initializedName? source)
      | .ranged => (n.child? .declarator).bind (Node.declaredName? source)
      | .conditional => none
    hasUpdate := update?.isSome
    updateAt? := if kind = .counted then (update?.map Node.stop) <|> headerEnd? n body else none
    line := n.line }

/-! ## 3. Declarations -/

/-- The variables that a statement declares; functions and bindings do not count. -/
def Declaration.ofNode? (source : Text) (n : Node) : Option Declaration :=
  if n.kind = .declaration then
    let names := ((n.childrenIn .declarator).filter (!Node.declaresFunction ·)).filterMap
      (Node.declaredName? source)
    if names.isEmpty then none else some { names, offset := n.stop, line := n.line }
  else none

/-- The declaration without some of its names. -/
def Declaration.without? (d : Declaration) (names : List Text) : Option Declaration :=
  let rest := d.names.filter (!names.contains ·)
  if rest.isEmpty then none else some { d with names := rest }

/-! ## 4. Aggregates -/

/-- Whether a node of this kind keeps the aggregates below it from being printed. -/
def hidesAggregates : Kind → Bool
  | .templateDeclaration | .functionDefinition | .fieldDeclarationList | .namespaceDefinition
  | .compoundStatement => true
  | _ => false

/-- Whether a member declaration declares static members. -/
def isStatic (source : Text) (n : Node) : Bool :=
  n.children.any fun c => c.kind = .storageClassSpecifier && c.text source == "static".toList

/-- The data members that a member declaration declares. -/
def Member.ofNode (source : Text) (n : Node) : List Member :=
  match n.child? .type with
  | none => []
  | some type =>
    let typeName := (type.text source).trim
    ((n.childrenIn .declarator).filter (!Node.declaresFunction ·)).filterMap fun declarator =>
      (declarator.declaredName? source).map fun name =>
        let isPointer := declarator.kind = .pointerDeclarator
        { name, typeName, isPointer
          pointee? :=
            if isPointer then some (typeName ++ List.replicate declarator.pointerDepth '*')
            else none }

/-- Behind the semicolon of the declaration in which an aggregate is defined. -/
def declarationEnd? (p : Place) : Option Nat :=
  let parentEnd? := (p.ancestors.head?).bind fun parent =>
    if parent.kind = .declaration ∨ parent.kind = .typeDefinition then some parent.stop else none
  match p.next? with
  | some next => if next.kind = .semicolon then some next.stop else parentEnd?
  | none => parentEnd?

/-- The aggregate that a specifier defines, if it can be printed from outside. -/
def Aggregate.ofPlace? (source : Text) (p : Place) : Option Aggregate := do
  let name ← p.node.child? .name
  guard (name.kind = .typeIdentifier && !p.ancestors.any (hidesAggregates ·.kind))
  let body ← p.node.child? .body
  let fields := body.named.filter fun m => m.kind = .fieldDeclaration && !isStatic source m
  let members := fields.flatMap (Member.ofNode source)
  guard (!members.isEmpty)
  return { name := name.text source, members, prototypeAt? := declarationEnd? p }

/-- Whether a function declarator declares a stream printer for a type. -/
def printsType (source : Text) (name : Text) (declarator : Node) : Bool :=
  match declarator.child? .declarator with
  | none => false
  | some callee =>
    (callee.text source).filter (· ≠ ' ') == "operator<<".toList &&
      match declarator.child? .parameters with
      | none => false
      | some parameters => (parameters.text source).words.contains name

/-- Whether the program prints a type itself. -/
def hasOwnPrinter (source : Text) (root : Node) (name : Text) : Bool :=
  root.descendants.any fun n => n.kind = .functionDeclarator && printsType source name n

end Stepwise.Analysis
