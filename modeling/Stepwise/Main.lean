import Stepwise.CommandLine.Execution
import Stepwise.Console.Transcript
import Stepwise.Json.Reader
import Stepwise.Syntax.Json
import Stepwise.Toolchain.Compile

/-!
# The program

The debugger as a program: commands work on the files of the machine, and a console talks to the
terminal.  The syntax tree of a source is read from the file next to it whose name ends in `.tree`.
Programs cannot be run here, so a console tells so and closes.
-/

namespace Stepwise.Terminal

/-- The bytes of a file of the machine. -/
def readFile (place : Text) : IO (Option Bytes) := do
  match ← (IO.FS.readBinFile (Text.toString place)).toBaseIO with
  | .ok bytes => return some bytes.toList
  | .error _ => return none

/-- Whether a place of the machine exists. -/
def isThere (place : Text) : IO Bool := do
  match ← (IO.FS.readBinFile (Text.toString place)).toBaseIO with
  | .error (.noFileOrDirectory ..) => return false
  | _ => return true

/-- Whether an action succeeds. -/
def succeeds (action : IO Unit) : IO Bool := do
  match ← action.toBaseIO with
  | .ok () => return true
  | .error _ => return false

/-- The tree next to a source file. -/
def readTree (place : Text) : IO (Option Syntax.Node) := do
  let bytes? ← readFile (place ++ ".tree")
  return ((bytes?.bind Utf8.decode?).bind Json.read?).bind Syntax.Node.ofJson?

/-- There are no programs to call and none can be run. -/
def environment (s : Settings) : Environment where
  compile := s.compile (fun _ _ => .error .notFound) {}
  canSuspend := false
  script := fun _ => { acts := [] }

/-- The machine. -/
def machine (home temporary : Text) : Host IO where
  home := home
  temporary := temporary
  contains := isThere
  read := readFile
  write := fun place contents =>
    succeeds (IO.FS.writeBinFile (Text.toString place) ⟨contents.toArray⟩)
  makeDirectories := fun place => succeeds (IO.FS.createDirAll (Text.toString place))
  parse := readTree
  environment := fun _ settings => return environment settings

/-- Prints text at once. -/
def say (t : Text) : IO Unit := do
  let output ← IO.getStdout
  output.putStr (Text.toString t)
  output.flush

/-- The next line of the terminal, without its end. -/
def typedLine : IO (Option Text) := do
  let line := (← (← IO.getStdin).getLine).toList
  match Text.before? ['\n'] line with
  | some line => return some (Text.dropReturn line)
  | none => return if line.isEmpty then none else some line

/-- Talks to the terminal until the session is over. -/
partial def talk (c : Console) : IO Unit := do
  let (c, text) := c.advance
  say text
  if c.mode = .prompting then
    let (c, text) := c.typed (← typedLine)
    say text
    talk c

/-- Tells of something that is wrong. -/
def complain (t : Text) : IO Unit := do
  (← IO.getStderr).putStrLn (Text.toString ("error: " ++ t))

/-- The value of an environment variable as text. -/
def lookUp (name : String) : IO (Option Text) := do
  return (← IO.getEnv name).map String.toList

/-- The variables that a command line or an environment file may ask for. -/
def variableNames : List String :=
  ["CPPSTEP_CONFIG", "HOME", "TMPDIR", "RUST_LOG", "NO_COLOR", "CLICOLOR_FORCE"]

/-- Those of them that are set. -/
def knownVariables : IO Variables :=
  variableNames.filterMapM fun name => do
    return (← lookUp name).map fun value => (name.toList, value)

end Stepwise.Terminal

open Stepwise in
/-- Takes a command line. -/
def main (arguments : List String) : IO UInt32 := do
  let home := (← Terminal.lookUp "HOME").getD []
  let temporary := (← Terminal.lookUp "TMPDIR").getD "/tmp"
  let response ← (Terminal.machine home temporary).call
    (← Terminal.knownVariables) (arguments.map String.toList)
  match response with
  | .badVariables => Terminal.complain "a variable of the environment file holds a NUL character"
  | .usage e => Terminal.complain e.message
  | .failed e => Terminal.complain e.message
  | .progress (.done output) => Terminal.say output
  | .progress (.console c) => Terminal.talk c
  return response.status.toUInt32
