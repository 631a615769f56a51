import Stepwise.Syntax.Node
import Stepwise.Breakpoints

/-!
# What the instrumenter knows of a program

An analysis (`SourceAnalysis`) lists the places of a C++ source where code is added: functions
(`FunctionDescriptor`), loops (`LoopDescriptor`), statements (`Step`), bodies without braces
(`StatementBody`), declarations (`TrackedDeclaration`) and aggregates (`StructDescriptor`).  Offsets
are byte offsets into the source and lines are 1-based.
-/

namespace Stepwise

/-- Offsets are 64-bit numbers. -/
def offsetBound : Nat := UInt64.size

namespace Analysis

/-- A function definition with a block as its body. -/
structure Function where
  /-- The name as written, qualified or an operator. -/
  name : Text
  /-- The body with its braces. -/
  body : Span
  /-- The named parameters in order. -/
  parameters : List Text
  /-- The line on which the definition starts. -/
  line : Nat
  deriving DecidableEq, Repr

/-- Behind the brace that opens the body. -/
def Function.entry (f : Function) : Nat := f.body.start + 1

/-- The three shapes of loops. -/
inductive LoopKind where
  /-- `for` with initializer, condition and update. -/
  | counted
  /-- `for` over the elements of a range. -/
  | ranged
  /-- `while` and `do`. -/
  | conditional
  deriving DecidableEq, Repr

/-- The shape in words. -/
def LoopKind.text : LoopKind → Text
  | .counted => "counted"
  | .ranged => "range-based"
  | .conditional => "conditional"

/-- A loop of a function. -/
structure Loop where
  /-- Its shape. -/
  kind : LoopKind
  /-- The whole statement. -/
  span : Span
  /-- Its body. -/
  body : Span
  /-- Whether the body is a block. -/
  isBlock : Bool
  /-- The variable that the header declares or assigns. -/
  variableName : Option Text
  /-- Whether a counted loop has an update clause. -/
  hasUpdate : Bool
  /-- The end of the update clause of a counted loop, or the closing parenthesis if there is
  none. -/
  updateAt? : Option Nat
  /-- The line on which the loop starts. -/
  line : Nat
  deriving DecidableEq, Repr

namespace Loop

/-- Where code goes that runs at the top of every pass. -/
def bodyEntry (l : Loop) : Nat := if l.isBlock then l.body.start + 1 else l.body.start

/-- Where code goes that runs at the top of every pass, if that is an offset. -/
def bodyEntry? (l : Loop) : Option Nat :=
  if l.bodyEntry < offsetBound then some l.bodyEntry else none

/-- Where code goes that runs at the bottom of every pass: a block ends in a brace, so a block
that ends at offset 0 is none. -/
def bodyExit? (l : Loop) : Option Nat :=
  if l.isBlock then if l.body.stop = 0 then none else some (l.body.stop - 1) else some l.body.stop

end Loop

/-- A data member of an aggregate. -/
structure Member where
  /-- Its name. -/
  name : Text
  /-- The declared type, without the `*` of the declarator. -/
  typeName : Text
  /-- Whether it is a pointer. -/
  isPointer : Bool
  /-- The type that a pointer points to. -/
  pointee? : Option Text
  deriving DecidableEq, Repr

/-- A struct or class for which a stream printer is generated. -/
structure Aggregate where
  /-- Its name. -/
  name : Text
  /-- Its data members in order. -/
  members : List Member
  /-- Behind the declaration that defines it, where the printer can be declared. -/
  prototypeAt? : Option Nat
  deriving DecidableEq, Repr

/-- What a step announces. -/
inductive StepKind where
  /-- That a statement is about to run. -/
  | statement
  /-- That a loop goes on to its next pass. -/
  | loopBack
  deriving DecidableEq, Repr

/-- A point where the program tells its line and may stop. -/
structure Step where
  kind : StepKind
  /-- Where it is announced. -/
  offset : Nat
  /-- The line that is told. -/
  line : Nat
  deriving DecidableEq, Repr

/-- The body of a branch or loop that is a single statement without braces. -/
structure BareBody where
  /-- The statement with its semicolon. -/
  span : Span
  /-- The line of the loop that is announced again at the end of the body. -/
  loopBack? : Option Nat
  deriving DecidableEq, Repr

/-- A declaration of local variables. -/
structure Declaration where
  /-- The declared names in order. -/
  names : List Text
  /-- Behind the declaration. -/
  offset : Nat
  /-- The line on which it starts. -/
  line : Nat
  deriving DecidableEq, Repr

end Analysis

/-- All places of a source where code is added. -/
structure Analysis where
  /-- The functions, in order. -/
  functions : List Analysis.Function
  /-- The loops of these functions, in order. -/
  loops : List Analysis.Loop
  /-- The aggregates that get a printer. -/
  aggregates : List Analysis.Aggregate
  /-- The steps by offset. -/
  steps : List Analysis.Step
  /-- The bodies that need braces, in order. -/
  bareBodies : List Analysis.BareBody
  /-- The declarations whose variables are tracked. -/
  declarations : List Analysis.Declaration
  /-- The names of the functions that are left alone because of syntax errors. -/
  skipped : List Text
  deriving DecidableEq, Repr

/-- The lines on which the program can stop. -/
def Analysis.breakableLines (a : Analysis) : LineSet :=
  LineSet.ofList (a.functions.map (·.line) ++ a.steps.map (·.line))

end Stepwise
