import Stepwise.Breakpoints
import Stepwise.Debuggee.Action
import Stepwise.Fault
import Stepwise.Text.Utf8

/-!
# Compiled programs

A compiled module is bytes.  What it does, as far as its run can tell, is a script: it prints, it
announces that it has come to a line, and in the end it exits or breaks down.  At a gate it stands
still for a reason of its own until it is let on from outside.

Main definitions:

* `Script`: the acts of a program and how it ends (what a `ProgramHost` is called with);
* `Environment`: the toolchain and the runner that a run is made with (`Toolchain`,
  `ProgramRunner`);
* `Script.tour`: a script that visits every announcement of an instrumented text.
-/

namespace Stepwise

/-- A compiled program. -/
structure Module where
  /-- Its contents. -/
  bytes : Bytes
  deriving DecidableEq, Repr

/-- The module whose contents are a text. -/
def Module.ofText (t : Text) : Module := { bytes := Utf8.encode t }

/-- The contents of a module as text. -/
def Module.text (m : Module) : Text := Utf8.decode m.bytes

/-- Something a program does in view of its run. -/
inductive Act where
  | print (text : Text)
  /-- Announces a line, and goes on when it is let pass. -/
  | wait (line : Nat)
  /-- Stands still until it is let on. -/
  | gate
  deriving DecidableEq, Repr

/-- How a program ends. -/
inductive Outcome where
  | exited
  | trapped (reason : Text)
  | unsupported (reason : Text)
  | terminated
  deriving DecidableEq, Repr

/-- The acts of a program and its end. -/
structure Script where
  acts : List Act
  outcome : Outcome := .exited
  deriving DecidableEq, Repr

/-- A program to be compiled. -/
structure Job where
  source : Text
  /-- Further flags for the compiler. -/
  flags : List Text := []
  deriving DecidableEq, Repr

/-- Why there is no module. -/
inductive CompileError where
  /-- The compiler refuses the program. -/
  | diagnostics (report : Text)
  /-- There is no compiler. -/
  | unavailable (reason : Text)
  /-- A file could not be read or written. -/
  | files (reason : Text)
  deriving DecidableEq, Repr

/-- The wording of a compile error. -/
def CompileError.message : CompileError → Text
  | diagnostics report => report
  | unavailable reason => "toolchain unavailable: " ++ reason
  | files reason => reason

/-- A compile error as the user is told of it. -/
def CompileError.fault (e : CompileError) : Fault := .compilation e.message

/-- What runs are made with. -/
structure Environment where
  /-- The toolchain. -/
  compile : Job → Except CompileError Module
  /-- Whether the toolchain stands at a gate before it does its work. -/
  compileGate : Bool := false
  /-- Whether a program can be held at a step. -/
  canSuspend : Bool := true
  /-- What a module does when it is run. -/
  script : Module → Script

/-! ## A tour of the announcements -/

namespace Script

/-- The number between the parentheses of a call of the step hook, for the text behind the opening
one. -/
def announced? (t : Text) : Option Nat :=
  match Text.cut? ")" t with
  | none | some ([], _) => none
  | some (digits, _) => (Text.readDigits 10 LineSet.lineBound 0 digits).toOption

/-- The numbers that a text announces, in order. -/
def announcements : Text → List Nat
  | [] => []
  | c :: t =>
    ((Text.after? "DEBUG_STEP(" (c :: t)).bind announced?).toList ++ announcements t

/-- The state of a program that stands in `main` with one variable, which holds the line. -/
def tourDump (line : Nat) : Text :=
  let actions := [.enter [] "main", .trace [] "line" "u32" (Text.ofNat line)]
  match ({} : Debuggee).actAll? actions with
  | some (p, _) => p.registry.dump
  | none => []

/-- Goes through all announcements of a text in order, shows its state and waits at each of them,
and prints `done` at the end. -/
def tour (text : Text) : Script where
  acts := (announcements text).flatMap (fun n => [.print (tourDump n), .wait n])
    ++ [.print "done\n"]

end Script

end Stepwise
