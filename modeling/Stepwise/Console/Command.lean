import Stepwise.Breakpoints

/-!
# Prompt commands

What may be typed at the prompt of the debugger: a word, and behind the word for breakpoints a list
of lines.  Whatever follows any other word is ignored.
-/

namespace Stepwise.Console

/-- A command. -/
inductive Request where
  /-- Go on to the next step. -/
  | step
  /-- Go on to the next breakpoint. -/
  | run
  /-- Halt at the next step. -/
  | pause
  /-- Turn round breakpoints; without lines, tell them. -/
  | toggle (lines : LineSet)
  /-- Show variables and heap. -/
  | vars
  /-- Show the call stack. -/
  | stack
  /-- Show the source around the current line. -/
  | listing
  /-- Show the state as JSON. -/
  | json
  /-- Show the commands. -/
  | help
  /-- Give up the program. -/
  | quit
  deriving DecidableEq

/-- Why a line is no command. -/
inductive RequestError where
  /-- The line is blank. -/
  | missing
  /-- There is no such word. -/
  | unknown (word : Text)
  /-- The breakpoints cannot be read. -/
  | badLines (error : LineSet.ParseError)
  deriving DecidableEq, Repr

/-- The advice given with a line that is no command. -/
def advice : Text := "type `help` for the list of commands"

/-- The wording of an error. -/
def RequestError.message : RequestError → Text
  | missing => advice
  | unknown word => "unknown command `" ++ word ++ "`, " ++ advice
  | badLines error => error.message

/-- What the words for commands without arguments mean. -/
def words : List (Text × Request) :=
  List.map (fun (word, request) => (String.toList word, request))
    [("step", .step), ("s", .step), ("run", .run), ("c", .run), ("continue", .run),
     ("pause", .pause), ("p", .pause), ("vars", .vars), ("v", .vars),
     ("stack", .stack), ("bt", .stack), ("list", .listing), ("l", .listing), ("json", .json),
     ("help", .help), ("h", .help), ("?", .help), ("quit", .quit), ("q", .quit), ("exit", .quit)]

/-- The words for breakpoints. -/
def toggleWords : List Text := ["break", "b"]

/-- Reads a line typed at the prompt. -/
def Request.parse (line : Text) : Except RequestError Request :=
  let line := line.trim
  let (word, rest) := (Text.cutBlank? line).getD (line, [])
  if toggleWords.contains word then
    match LineSet.parse rest with
    | .ok lines => .ok (.toggle lines)
    | .error e => .error (.badLines e)
  else
    match words.lookup word with
    | some request => .ok request
    | none => .error (if word.isEmpty then .missing else .unknown word)

/-- The text that explains the commands. -/
def helpText : Text :=
  Text.join "\n" <| List.map String.toList
    ["commands:",
     "  step, s            run to the next step",
     "  run, c             run to the next breakpoint",
     "  pause, p           stop a running program at its next step",
     "  break, b <lines>   toggle breakpoints, e.g. `b 4,9-11`; no argument lists them",
     "  vars, v            variables and heap objects",
     "  stack, bt          call stack",
     "  list, l            source around the current line",
     "  json               current state as JSON",
     "  quit, q            abandon the program and exit"]

end Stepwise.Console
