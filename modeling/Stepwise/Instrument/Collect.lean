import Stepwise.Edit.Basic
import Stepwise.Instrument.Snippet

/-!
# The edits of an analysis

Every place of an analysis becomes insertions.  At one offset their order is fixed by priority: an
opening brace comes first, then the entry of a function, the tracker of a loop variable, the
tracker of a declared variable, a closing brace, a step, and last the step at the end of a loop
block.  Bodies that end at the same offset are visited innermost first, so that their braces nest.

Main definition: `Analysis.edits?` (`SourceModifications`, `collect_modifications`), which has one
part for each kind of place (`braces`, `functionEdit`, `loopEdits?`, `stepEdit?`,
`declarationEdits`, `prototypeEdit?`).
-/

namespace Stepwise.Collect

open Analysis

/-- What is put in at an offset. -/
inductive Slot where
  | openingBrace
  | functionEntry
  | loopVariable
  | declared
  | closingBrace
  | beforeStep
  | loopBack
  deriving DecidableEq, Repr

/-- The priorities of the slots. -/
def Slot.priority : Slot → Nat
  | .openingBrace => 255
  | .functionEntry => 191
  | .loopVariable => 150
  | .declared => 127
  | .closingBrace => 95
  | .beforeStep => 63
  | .loopBack => 31

/-- Puts something in at an offset. -/
def put (slot : Slot) (offset : Nat) (content : EditContent) : Edit :=
  .insertion offset slot.priority content

/-- The text that closes a body without braces. -/
def closing (b : BareBody) : Text :=
  match b.loopBack? with
  | some line => " " ++ Snippet.step line ++ " \x7d"
  | none => " \x7d"

/-- The braces around a body without braces. -/
def braces (b : BareBody) : List Edit :=
  [put .openingBrace b.span.start (.plain "\x7b"),
   put .closingBrace b.span.stop (.plain (closing b))]

/-- The entry of a function. -/
def functionEdit (f : Function) : Edit :=
  put .functionEntry f.entry (.plain (Snippet.entry f))

/-- The step at the end of the block of a loop that is not counted.  Nothing comes of a block that
ends at offset 0. -/
def loopBackEdit? (l : Loop) : Option (List Edit) :=
  if l.kind ≠ .counted ∧ l.isBlock then
    l.bodyExit?.map fun offset => [put .loopBack offset (.plain (" " ++ Snippet.step l.line))]
  else some []

/-- The tracker of a loop variable and the step between two passes of a counted loop. -/
def loopHeaderEdits (l : Loop) : List Edit :=
  (l.variableName.toList.map fun name => put .loopVariable l.bodyEntry (.tracker name)) ++
  (if l.kind = .counted then
    l.updateAt?.toList.map fun offset => put .beforeStep offset (.plain (Snippet.iteration l))
  else [])

/-- All edits of a loop. -/
def loopEdits? (l : Loop) : Option (List Edit) :=
  (loopBackEdit? l).map (· ++ loopHeaderEdits l)

/-- The announcement of a statement; steps at the end of loop bodies come with their loops. -/
def stepEdit? (s : Step) : Option Edit :=
  if s.kind = .statement then some (put .beforeStep s.offset (.step s.line)) else none

/-- The trackers of declared variables. -/
def declarationEdits (d : Declaration) : List Edit :=
  d.names.map fun name => put .declared d.offset (.tracker name)

/-- The declaration of the printer of an aggregate. -/
def prototypeEdit? (a : Aggregate) : Option Edit :=
  a.prototypeAt?.map fun offset =>
    put .declared offset (.plain (Snippet.prototype a))

end Collect

/-- The edits of an analysis in the order in which they are added; none if a loop block ends at
offset 0. -/
def Analysis.edits? (a : Analysis) : Option (List Edit) :=
  (a.loops.mapM Collect.loopEdits?).map fun loops =>
    a.bareBodies.reverse.flatMap Collect.braces ++
    a.functions.map Collect.functionEdit ++
    loops.flatten ++
    a.steps.filterMap Collect.stepEdit? ++
    a.declarations.flatMap Collect.declarationEdits ++
    a.aggregates.filterMap Collect.prototypeEdit?

end Stepwise
