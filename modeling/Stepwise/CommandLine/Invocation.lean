import Stepwise.Breakpoints
import Stepwise.CommandLine.Reader

/-!
# The commands of the debugger

The debugger instruments a source, debugs it, reads the log of a run, or writes out the headers that
running programs need.
-/

namespace Stepwise

/-- What `instrument` writes. -/
inductive Presentation where
  /-- The instrumented source. -/
  | plain
  /-- The instrumented source as it is compiled. -/
  | wrapped
  /-- The analysis. -/
  | analysis
  deriving DecidableEq, Repr

/-- What the debugger is asked to do. -/
inductive Task where
  | instrument (file : Text) (output : Option Text) (presentation : Presentation)
  | debug (file : Text) (settings : Option Text) (breakpoints : LineSet) (skipsFirst : Bool)
  | replay (log : Text)
  | headers (directory : Text)
  deriving DecidableEq

/-- What a command line asks for. -/
structure Invocation where
  /-- Whether a log is kept in a file. -/
  logsToFile : Bool
  /-- The work. -/
  task : Task
  deriving DecidableEq

namespace CommandLine

/-! ## 1. Switches -/

/-- Paths are not empty. -/
def isPath (t : Text) : Bool := !t.isEmpty

/-- The settings file. -/
def settingsSwitch : Switch where
  name := "config"
  kind := .value "CONFIG"
  summary := "Configuration file (default: ~/.cppstep.toml)"
  accepts := isPath
  fallback := some "CPPSTEP_CONFIG"

/-- Whether a log is kept in a file. -/
def logSwitch : Switch where
  name := "log-file"
  summary := "Also write logs to a rolling file in the temp directory"

/-- Help. -/
def helpSwitch : Switch where
  name := "help"
  letter := some 'h'
  kind := .help
  summary := "Print help"

/-- The version. -/
def versionSwitch : Switch where
  name := "version"
  letter := some 'V'
  kind := .version
  summary := "Print version"

/-- Where to write. -/
def outputSwitch : Switch where
  name := "output"
  letter := some 'o'
  kind := .value "OUTPUT"
  summary := "Write the result here instead of stdout"
  accepts := isPath

/-- Whether the result is wrapped. -/
def wrapSwitch : Switch where
  name := "wrap"
  summary := "Prepend the shim include so the result compiles on its own"

/-- Whether the analysis is wanted. -/
def analysisSwitch : Switch where
  name := "analysis"
  summary := "Print the analysis as JSON instead of the rewritten source"
  excludes := [wrapSwitch.name]

/-- The first breakpoints. -/
def breakpointsSwitch : Switch where
  name := "breakpoints"
  letter := some 'b'
  kind := .value "BREAKPOINTS"
  summary := "Initial breakpoints, e.g. `4,9-11`"
  accepts := fun t => (LineSet.parse t).toOption.isSome

/-- Whether the first halt is passed over. -/
def runSwitch : Switch where
  name := "run"
  summary := "Run to the first breakpoint instead of pausing at the first step"

/-- The operand of a command. -/
def operand (placeholder summary : Text) : Switch where
  name := placeholder
  kind := .value placeholder
  summary := summary
  accepts := isPath

/-! ## 2. Commands -/

/-- Instruments a source. -/
def instrumentCommand : Command where
  name := "instrument"
  summary := "Instrument a C++ source file"
  operand := operand "FILE" "Source file to instrument"
  switches := [settingsSwitch, outputSwitch, logSwitch, wrapSwitch, analysisSwitch, helpSwitch]

/-- Debugs a program. -/
def debugCommand : Command where
  name := "debug"
  summary := "Debug a C++ program interactively"
  operand := operand "FILE" "Source file to debug"
  switches := [breakpointsSwitch, settingsSwitch, logSwitch, runSwitch, helpSwitch]

/-- Reads a log. -/
def replayCommand : Command where
  name := "replay"
  summary := "Demultiplex a captured output log and print the final state as JSON"
  operand := operand "LOG" "Output log of an instrumented program"
  switches := [settingsSwitch, logSwitch, helpSwitch]

/-- Writes out the headers. -/
def headersCommand : Command where
  name := "shim"
  summary := "Write the runtime shim headers to a directory"
  operand := operand "DIR" "Target directory, created if missing"
  switches := [settingsSwitch, logSwitch, helpSwitch]

/-- The debugger. -/
def debugger : Application where
  name := "cppstep"
  version := "0.0.2"
  summary := "CppStep - A step-by-step debugger for small C++ programs"
  switches := [settingsSwitch, logSwitch, helpSwitch, versionSwitch]
  commands := [instrumentCommand, debugCommand, replayCommand, headersCommand]

/-! ## 3. Tasks -/

/-- The work of a command line. -/
def Line.task (l : Line) (env : Variables) : Task :=
  let place := (l.behind.value? l.command.operand.name).getD []
  if l.command.name = instrumentCommand.name then
    .instrument place (l.behind.value? outputSwitch.name)
      (if l.behind.has analysisSwitch.name then .analysis
       else if l.behind.has wrapSwitch.name then .wrapped
       else .plain)
  else if l.command.name = debugCommand.name then
    .debug place (l.value? env settingsSwitch)
      (((l.behind.value? breakpointsSwitch.name).bind fun t => (LineSet.parse t).toOption).getD
        .empty)
      (l.behind.has runSwitch.name)
  else if l.command.name = replayCommand.name then .replay place
  else .headers place

end CommandLine

/-- Reads the command line of the debugger. -/
def Invocation.read (env : Variables) (words : List Text) :
    Except CommandLine.Halt Invocation := do
  let line ← CommandLine.debugger.read env words
  return { logsToFile := line.has CommandLine.logSwitch, task := line.task env }

end Stepwise
