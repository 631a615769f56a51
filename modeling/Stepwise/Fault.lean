import Stepwise.Text.Numeral

/-!
# Faults

What can go wrong between a source and its run (`EngineError`).  A fault of the program or its
toolchain is told to the user in the output of the run, in the words given here.
-/

namespace Stepwise

/-- A fault of the debugger or of what it works on. -/
inductive Fault where
  /-- The toolchain refuses the program. -/
  | compilation (report : Text)
  /-- The program broke down. -/
  | trap (reason : Text)
  /-- The program cannot be held at a step here. -/
  | unsupported (reason : Text)
  /-- Two edits of a source clash. -/
  | conflict (offset : Nat)
  deriving DecidableEq, Repr

namespace Fault

/-- The wording of a fault. -/
def message : Fault → Text
  | .compilation report => "compilation failed:\n" ++ report
  | .trap reason => "runtime error: " ++ reason
  | .unsupported reason => "environment unsupported: " ++ reason
  | .conflict offset => "conflicting instrumentation at offset " ++ Text.ofNat offset

/-- The trap told by a report: its root cause comes first and every further text sets the ones
before it into a context, so the message reads from the last text to the first. -/
def ofReport (report : List Text) : Fault := .trap (Text.join ": " report.reverse)

end Fault

end Stepwise
