import Stepwise.Analysis.Basic

/-!
# Snippets

The pieces of C++ that are added to a program: announcements of steps, trackers of variables and
frames, and printers of aggregates.  What they call is declared by the headers that are compiled
with the program.

Main definitions:

* `step`, `iteration`: announcements (`generate_step_hook`, `generate_iteration_hook`);
* `tracker`, `entry`: trackers (`generate_variable_tracker`, `generate_function_entry`);
* `prototype`, `printer`: printers (`generate_printer_prototype`, `generate_struct_printer`).
-/

namespace Stepwise.Snippet

open Analysis

/-- A text between the quotes of a string literal. -/
def escapeLiteral (t : Text) : Text :=
  t.flatMap fun c => if c = '\\' ∨ c = '"' then ['\\', c] else [c]

/-- The announcement of a step as a call. -/
def stepCall (line : Nat) : Text := "DEBUG_STEP(" ++ Text.ofNat line ++ ")"

/-- The announcement of a step as a statement. -/
def step (line : Nat) : Text := stepCall line ++ "; "

/-- The tracker of a local variable or parameter. -/
def tracker (name : Text) : Text :=
  " Tracer _dbg_" ++ name ++ "(\"" ++ name ++ "\", " ++ name ++ ");"

/-- What a function does first: it enters its frame, announces its line and tracks its
parameters. -/
def entry (f : Function) : Text :=
  " FuncTracker _dbgf_frame(\"" ++ escapeLiteral f.name ++ "\"); " ++ stepCall f.line ++ ";" ++
    f.parameters.flatMap tracker

/-- What a counted loop does between two passes. -/
def iteration (l : Loop) : Text :=
  let call := match l.variableName with
    | some name =>
      "_debug_loop_step(" ++ Text.ofNat l.line ++ ", \"" ++ name ++ "\", " ++ name ++ ")"
    | none => stepCall l.line
  if l.hasUpdate then ", " ++ call else call

/-- The head of the stream printer of a type. -/
def printerHead (name : Text) : Text :=
  "std::ostream& operator<<(std::ostream& os, const " ++ name ++ "& obj)"

/-- The declaration of the stream printer of an aggregate. -/
def prototype (a : Aggregate) : Text := "\n" ++ printerHead a.name ++ ";"

/-- The lines that print one member; the value behind a pointer is rendered anew first. -/
def memberLines (separator : Text) (m : Member) : List Text :=
  let label : Text := "    os << \"" ++ separator ++ "\\\"" ++ m.name ++ "\\\": \";"
  let renew (pointee : Text) : Text :=
    "    _debug_update_heap_info(obj." ++ m.name ++ ", \"" ++ escapeLiteral pointee ++ "\");"
  let value : Text := "    _debug_field(os, obj." ++ m.name ++ ");"
  [label] ++ m.pointee?.toList.map renew ++ [value]

/-- The lines that print all members. -/
def membersLines : List Member → List Text
  | [] => []
  | m :: ms => memberLines [] m ++ ms.flatMap (memberLines ", ")

/-- The lines in front of the members. -/
def printerOpening (name : Text) : List Text :=
  ["// stream printer for " ++ name, printerHead name ++ " \x7b", "    os << \"\x7b\";"]

/-- The lines behind the members. -/
def printerClosing : List Text := ["    os << \"\x7d\";", "    return os;", "\x7d"]

/-- The stream printer of an aggregate, which writes it as a JSON object of strings. -/
def printer (a : Aggregate) : Text :=
  '\n' :: (printerOpening a.name ++ membersLines a.members ++ printerClosing).flatMap (· ++ ['\n'])

end Stepwise.Snippet
