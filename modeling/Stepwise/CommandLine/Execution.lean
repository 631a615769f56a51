import Stepwise.Analysis.Json
import Stepwise.CommandLine.EnvironmentFile
import Stepwise.CommandLine.Invocation
import Stepwise.Console.Basic
import Stepwise.Debuggee.Headers
import Stepwise.Files.Machine
import Stepwise.Instrument.Program
import Stepwise.Toolchain.Settings

/-!
# Carrying out commands

Commands read and write files through a `Host`, which may be a file tree as a value or the outside
world.  A command prints and is done, or it opens a console.

Main definitions:

* `Host`: what commands see of the world;
* `Host.ofTree`: a file tree as the world;
* `Invocation.execute`: carries out a command.
-/

namespace Stepwise

/-! ## 1. Hosts -/

/-- What commands see of the world. -/
structure Host (m : Type → Type) where
  /-- The home directory. -/
  home : Text
  /-- The directory for files that need not be kept. -/
  temporary : Text
  /-- Whether a place exists. -/
  contains : Text → m Bool
  /-- The contents of a file. -/
  read : Text → m (Option Bytes)
  /-- Writes a file; tells whether that was possible. -/
  write : Text → Bytes → m Bool
  /-- Makes a directory and those above it; tells whether that was possible. -/
  makeDirectories : Text → m Bool
  /-- The syntax tree of a source file. -/
  parse : Text → m (Option Syntax.Node)
  /-- The toolchain and the runner for programs, which are given variables. -/
  environment : Variables → Settings → m Environment

namespace Host

/-- Changes a tree; tells whether that was possible. -/
def attempt (change : FileTree → FileTree × Option FileError) : StateM FileTree Bool :=
  modifyGet fun tree =>
    let (tree, error?) := change tree
    (error?.isNone, tree)

/-- A file tree as the world, with a directory that is both home and temporary. -/
def ofTree (home : Text) (root? : Option Syntax.Node)
    (environment : FileTree → Variables → Settings → Environment) : Host (StateM FileTree) where
  home := home
  temporary := home
  contains := fun place => return (← get).contains place
  read := fun place => return ((← get).read place).toOption
  write := fun place contents => attempt fun tree =>
    match tree.write place contents with
    | .ok tree => (tree, none)
    | .error e => (tree, some e)
  makeDirectories := fun place => attempt (·.makeDirectories place)
  parse := fun _ => return root?
  environment := fun known settings => return environment (← get) known settings

end Host

/-! ## 2. Outcomes -/

/-- Why a command fails. -/
inductive TaskError where
  | unreadable (place : Text)
  | unwritable (place : Text)
  | noDirectory (place : Text)
  /-- The settings file is none. -/
  | badSettings (place : Text)
  /-- There is no syntax tree of the source. -/
  | noTree (place : Text)
  | instrument (error : InstrumentError)
  deriving DecidableEq, Repr

/-- The wording of an error of instrumenting. -/
def InstrumentError.message : InstrumentError → Text
  | .fault f => f.message
  | .outOfSource => "the analysis does not fit the source"

/-- The wording of a task error. -/
def TaskError.message : TaskError → Text
  | .unreadable place => "Failed to read " ++ place
  | .unwritable place => "Failed to write " ++ place
  | .noDirectory place => "failed to create " ++ place
  | .badSettings place => "Failed to parse " ++ place ++ " as TOML"
  | .noTree place => "No syntax tree of " ++ place
  | .instrument error => error.message

/-- How a command goes on. -/
inductive Progress where
  /-- It is done and has printed this. -/
  | done (output : Text)
  /-- A console is open. -/
  | console (console : Console)

/-- What `instrument` writes for a program. -/
def Presentation.text (i : Instrumented) : Presentation → Text
  | .plain => i.source
  | .wrapped => wrapSource i.source
  | .analysis => i.analysis.toJson.pretty

/-! ## 3. Tasks -/

namespace Host

variable {m : Type → Type} [Monad m] (h : Host m)

/-- Goes on if something was possible. -/
def demand (possible : m Bool) (error : TaskError) : ExceptT TaskError m Unit := do
  if !(← possible) then throw error

/-- The text in a file. -/
def readText (place : Text) : ExceptT TaskError m Text := do
  match (← h.read place).bind Utf8.decode? with
  | some t => return t
  | none => throw (.unreadable place)

/-- Writes text to a file. -/
def writeText (place t : Text) : ExceptT TaskError m Unit :=
  demand (h.write place (Utf8.encode t)) (.unwritable place)

/-- Makes a directory. -/
def makeDirectory (place : Text) : ExceptT TaskError m Unit :=
  demand (h.makeDirectories place) (.noDirectory place)

/-- The syntax tree of a source file. -/
def tree (place : Text) : ExceptT TaskError m Syntax.Node := do
  match ← h.parse place with
  | some root => return root
  | none => throw (.noTree place)

/-- The settings in a file, by default the one in the home directory.  Without a file everything is
as usual. -/
def settings (place? : Option Text) : ExceptT TaskError m Settings := do
  let place := place?.getD (Spelling.join h.home Settings.fileName)
  if ← h.contains place then
    match Settings.read? (← h.readText place) with
    | some s => return s
    | none => throw (.badSettings place)
  else return {}

/-- The directory for logs, below the temporary one. -/
def logPlace : Text := Spelling.join h.temporary "cppstep-logs/cppstep"

/-- Writes the headers to a directory; lists their places. -/
def writeHeaders (directory : Text) : ExceptT TaskError m (List Text) := do
  h.makeDirectory directory
  Header.all.mapM fun (name, contents) => do
    let place := Spelling.join directory name
    h.writeText place contents
    return place

end Host

variable {m : Type → Type} [Monad m]

/-- Carries out a task. -/
def Task.execute (h : Host m) (known : Variables) : Task → ExceptT TaskError m Progress
  | .instrument file output? presentation => do
    let source ← h.readText file
    let root ← h.tree file
    match Instrumented.ofSource source root with
    | .error e => throw (.instrument e)
    | .ok i =>
      let text := presentation.text i
      match output? with
      | some place => h.writeText place text; return .done []
      | none => return .done (text ++ ['\n'])
  | .debug file settings? breakpoints skipsFirst => do
    let settings ← h.settings settings?
    let source ← h.readText file
    let root ← h.tree file
    let environment ← h.environment known settings
    return .console (.start { environment } source root breakpoints skipsFirst)
  | .replay log => do
    return .done ((Replay.ofLog (← h.readText log)).toJson.pretty ++ ['\n'])
  | .headers directory => do
    return .done ((← h.writeHeaders directory).flatMap (· ++ ['\n']))

/-- Carries out what a command line asks for. -/
def Invocation.execute (h : Host m) (known : Variables) (i : Invocation) :
    ExceptT TaskError m Progress := do
  if i.logsToFile then h.makeDirectory h.logPlace
  i.task.execute h known

/-! ## 4. A whole run -/

/-- The environment file. -/
def environmentFile : Text := ".env"

/-- The variables of the environment with those of the environment file; none if a value cannot be
passed on. -/
def Host.knownVariables (h : Host m) (known : Variables) : m (Option Variables) := do
  match (← h.read environmentFile).bind Utf8.decode? with
  | some file => return some (known.extend file) |>.filter (·.arePassable)
  | none => return known

/-- How the debugger goes on. -/
inductive Response where
  /-- The environment file has a value that no variable can have. -/
  | badVariables
  /-- The command line is wrong. -/
  | usage (error : CommandLine.UsageError)
  /-- The command failed. -/
  | failed (error : TaskError)
  /-- It goes on like this. -/
  | progress (progress : Progress)

/-- The status with which the debugger exits. -/
def Response.status : Response → Nat
  | .badVariables => 101
  | .usage _ => 2
  | .failed _ => 1
  | .progress _ => 0

/-- Takes a command line. -/
def Host.call (h : Host m) (known : Variables) (words : List Text) : m Response := do
  let some env ← h.knownVariables known | return .badVariables
  match Invocation.read env words with
  | .error (.usage e) => return .usage e
  | .error (.shown page) => return .progress (.done (CommandLine.display env page))
  | .ok invocation =>
    match ← (invocation.execute h env).run with
    | .error e => return .failed e
    | .ok progress => return .progress progress

end Stepwise
