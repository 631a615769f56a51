import Stepwise.Wire.Marker
import Stepwise.Text.Blank

/-!
# Test outcomes

A program tests itself by printing a line for every check (`TestOutcome.ofLine?`; `parse_line`).
The line carries the mark of a passed or failed test, possibly behind other output, then the checked
expression, and after a failure the expected and the actual value.
-/

namespace Stepwise

/-- What a check found. -/
inductive TestOutcome where
  /-- The expression held. -/
  | passed (expression : Text)
  /-- The expression did not hold. -/
  | failed (expression expected actual : Text)
  deriving DecidableEq, Repr

namespace TestOutcome

/-- Whether the check passed. -/
def isPassed : TestOutcome → Bool
  | .passed _ => true
  | .failed .. => false

/-- The checked expression. -/
def expression : TestOutcome → Text
  | .passed e => e
  | .failed e _ _ => e

/-- The failure told by the text behind its mark.  The values are looked for from the end, so the
expression may hold their marks too; values that are missing are empty. -/
def ofFailure (rest : Text) : TestOutcome :=
  match Text.cutLast? actualMark rest with
  | none => .failed rest.trim [] []
  | some (head, actual) =>
    match Text.cutLast? expectedMark head with
    | none => .failed head.trim [] actual
    | some (e, expected) => .failed e.trim expected actual

/-- The outcome reported by a line, if its first test mark makes it a report. -/
def ofLine? (line : Text) : Option TestOutcome :=
  let line := line.trimEnd
  match Text.cut? passMark line, Text.cut? failMark line with
  | none, none => none
  | some (_, rest), none => some (.passed rest.trim)
  | none, some (_, rest) => some (ofFailure rest)
  | some (beforePass, restPass), some (beforeFail, restFail) =>
    if beforePass.length < beforeFail.length then some (.passed restPass.trim)
    else some (ofFailure restFail)

end TestOutcome

end Stepwise
