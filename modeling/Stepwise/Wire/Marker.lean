import Stepwise.Text.Basic

/-!
# Markers

A program under the debugger writes its own output and the debugger's dumps to one stream.  Four
sentinels enclose the two blocks of a dump, the variables and the call stack, and two marks begin
the lines in which a test reports itself.

Main definition: `Sentinel.ofText?` (`is_sentinel`).  Main statement:
`Sentinel.ofText?_eq_some_iff`, a text is read as a sentinel exactly if it is that sentinel's
spelling.
-/

namespace Stepwise

/-- The lines that open and close the two blocks of a dump. -/
inductive Sentinel where
  /-- Opens the block of variables. -/
  | varsStart
  /-- Closes the block of variables. -/
  | varsEnd
  /-- Opens the block of stack frames. -/
  | stackStart
  /-- Closes the block of stack frames. -/
  | stackEnd
  deriving DecidableEq, Repr

/-- The spelling of a sentinel. -/
def Sentinel.text : Sentinel → Text
  | .varsStart => "[DEBUG:VARS:START]"
  | .varsEnd => "[DEBUG:VARS:END]"
  | .stackStart => "[DEBUG:STACK:START]"
  | .stackEnd => "[DEBUG:STACK:END]"

/-- All sentinels. -/
def Sentinel.all : List Sentinel := [.varsStart, .varsEnd, .stackStart, .stackEnd]

/-- The sentinel that the text spells. -/
def Sentinel.ofText? (t : Text) : Option Sentinel := Sentinel.all.find? fun s => s.text == t

/-- Reading a sentinel takes its spelling back, and nothing else is read. -/
theorem Sentinel.ofText?_eq_some_iff {t : Text} {s : Sentinel} :
    Sentinel.ofText? t = some s ↔ t = s.text := by
  constructor
  · intro h
    have := List.find?_some h
    simpa using (beq_iff_eq.1 this).symm
  · rintro rfl
    cases s <;> decide

/-- The mark of a line that reports a passed test. -/
def passMark : Text := "[TEST:PASS]"

/-- The mark of a line that reports a failed test. -/
def failMark : Text := "[TEST:FAIL]"

/-- What stands before the expected value of a failed test. -/
def expectedMark : Text := " Expected: "

/-- What stands before the actual value of a failed test. -/
def actualMark : Text := " Actual: "

/-- All texts that the reader of the stream looks for. -/
def markers : List Text := Sentinel.all.map Sentinel.text ++ [passMark, failMark]

/-- The frame label of heap objects. -/
def heapFrame : Text := "heap"

/-- The frame label of variables outside every function. -/
def globalFrame : Text := "global"

/-- The target written for a pointer that points nowhere. -/
def nullTarget : Text := "0"

end Stepwise
