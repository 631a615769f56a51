import Stepwise.Breakpoints
import Stepwise.Graph.Basic
import Stepwise.TestOutcome

/-!
# Views of a paused program

Variables, call stack, source and tests as text for a terminal, line by line.
-/

namespace Stepwise.Console

/-- Lines, each finished. -/
def page (lines : List Text) : Text := lines.flatMap (· ++ ['\n'])

/-- A variable, and behind an arrow what it points to. -/
def variableLine (r : Record) : Text :=
  let target := match r.pointeeAddress with
    | none => []
    | some address => "  -> " ++ address ++
        match r.pointeeValue with
        | none => []
        | some value => ' ' :: value
  "  " ++ r.typeName ++ " " ++ r.name ++ " = " ++ r.displayValue ++ target

/-- An object of the heap. -/
def objectLine (o : HeapObject) : Text :=
  "  " ++ o.address ++ " " ++ o.typeName ++ " = " ++ o.displayValue

/-- The variables frame by frame, and then the heap. -/
def variablesPage (g : ObjectGraph) : Text :=
  let frames := g.frames.flatMap fun f => (f.label ++ [':']) :: f.records.map variableLine
  let heap := if g.heap.isEmpty then [] else "heap:".toList :: g.heap.map objectLine
  match frames ++ heap with
  | [] => page ["no variables"]
  | lines => page lines

/-- The call stack, innermost frame first and numbered from there. -/
def stackPage (stack : List Text) : Text :=
  page (stack.reverse.zipIdx.map fun (frame, depth) =>
    '#' :: Text.ofNat depth ++ " " ++ frame)

/-- One line of the source: a star for a breakpoint, an arrow for the current line, the number, and
the line. -/
def sourceLine (current : Option Nat) (breakpoints : LineSet) (text : Text) (line : Nat) : Text :=
  [if breakpoints.hits line then '*' else ' ', if current = some line then '>' else ' ']
    ++ (Text.ofNat line).padLeft 4 ++ " | " ++ text

/-- The lines of the source that are at most `context` lines away from the current one, or from the
first if the program is not halted. -/
def listingPage (source : Text) (current : Option Nat) (breakpoints : LineSet) (context : Nat) :
    Text :=
  let center := current.getD 1
  let numbered := source.lines.zipIdx 1
  let shown := numbered.filter fun (_, line) => center - context ≤ line && line ≤ center + context
  page (shown.map fun (text, line) => sourceLine current breakpoints text line)

/-- A failed test. -/
def failureLine? : TestOutcome → Option Text
  | .passed _ => none
  | .failed expression expected actual =>
    some ("  FAILED " ++ expression ++ ": expected " ++ expected ++ ", got " ++ actual)

/-- How many tests passed and failed, and the failed ones. -/
def testsPage (tests : List TestOutcome) : Text :=
  let passed := tests.countP TestOutcome.isPassed
  page (("tests: " ++ Text.ofNat passed ++ " passed, " ++ Text.ofNat (tests.length - passed)
    ++ " failed") :: tests.filterMap failureLine?)

end Stepwise.Console
