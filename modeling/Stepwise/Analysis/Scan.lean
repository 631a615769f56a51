import Stepwise.Analysis.Find

/-!
# Analysing a source

The analysis of a whole tree, `Analysis.ofTree` (`analyze`; `analyze_function` for each definition,
and `add_step` for `distinctSteps`).  Functions whose tree holds an error are left alone and listed;
of all others the statements are looked through.  No two statement steps share an offset, while
steps at the ends of loop bodies may: nested loops can end at the same place.
-/

namespace Stepwise.Analysis

open Syntax

/-- A function definition that can be looked into. -/
structure Definition where
  /-- What is known of the function. -/
  function : Function
  /-- Its body. -/
  body : Node

/-- The definition at a node, if it is one. -/
def Definition.ofNode? (source : Text) (n : Node) : Option Definition :=
  if n.kind = .functionDefinition then
    (Function.ofNode? source n).bind fun function =>
      (n.child? .body).map fun body => { function, body }
  else none

/-- The statements of the function. -/
def Definition.spots (d : Definition) : List Spot := statementsOf d.body

/-- The loops of the function. -/
def Definition.loops (source : Text) (d : Definition) : List Loop :=
  d.spots.filterMap fun s => Loop.ofNode? source s.node

/-- The declarations of the function.  A loop tracks its variable inside of its body, so the
variables of loops are left out. -/
def Definition.declarations (source : Text) (d : Definition) : List Declaration :=
  let loopVariables := (d.loops source).filterMap Loop.variableName
  (d.spots.filterMap fun s => Declaration.ofNode? source s.node).filterMap
    fun declaration => declaration.without? loopVariables

/-- The step before a statement. -/
def statementStep? (n : Node) : Option Step :=
  if n.kind.isStep then some { kind := .statement, offset := n.start, line := n.line } else none

/-- The step at the end of a loop body. -/
def loopBackStep? (source : Text) (n : Node) : Option Step := do
  let loop ← Loop.ofNode? source n
  let line ← n.loopBack?
  let offset ← loop.bodyExit?
  return { kind := .loopBack, offset, line }

/-- The steps at a statement. -/
def stepsAt (source : Text) (s : Spot) : List Step :=
  (statementStep? s.node).toList ++ (loopBackStep? source s.node).toList

/-- The body without braces that a statement is. -/
def BareBody.ofSpot? (s : Spot) : Option BareBody :=
  match s.stand with
  | .plain => none
  | .bare loopBack? => some { span := s.node.span, loopBack? }

/-- The steps without the statement steps whose offset has one already. -/
def distinctSteps : List Step → List Step
  | [] => []
  | s :: ss =>
    s :: (distinctSteps ss).filter fun t =>
      !(s.kind = .statement && t.kind = .statement && s.offset = t.offset)

/-- Whether a node defines a struct or class. -/
def definesAggregate (n : Node) : Bool :=
  (n.kind = .structSpecifier || n.kind = .classSpecifier) && !n.head.hasError

end Analysis

/-- The analysis of a tree. -/
def Analysis.ofTree (source : Text) (root : Syntax.Node) : Analysis :=
  let nodes := root.descendants
  let defined := nodes.filterMap fun n =>
    (Analysis.Definition.ofNode? source n).map fun d => (n.head.hasError, d)
  let sound := (defined.filter (!·.1)).map Prod.snd
  let spots := sound.flatMap Analysis.Definition.spots
  let steps := Analysis.distinctSteps (spots.flatMap (Analysis.stepsAt source))
  let aggregates := (root.places.filter fun p => Analysis.definesAggregate p.node).filterMap
    (Analysis.Aggregate.ofPlace? source)
  { functions := sound.map Analysis.Definition.function
    loops := sound.flatMap (Analysis.Definition.loops source)
    aggregates := aggregates.filter fun a => !Analysis.hasOwnPrinter source root a.name
    steps := steps.mergeSort fun s t => s.offset ≤ t.offset
    bareBodies := spots.filterMap Analysis.BareBody.ofSpot?
    declarations := sound.flatMap (Analysis.Definition.declarations source)
    skipped := (defined.filter (·.1)).map fun (_, d) => d.function.name }

end Stepwise
