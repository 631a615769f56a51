import Stepwise.Debuggee.Headers
import Stepwise.Files.Machine
import Stepwise.Run.Script
import Stepwise.Toolchain.Settings

/-!
# Compiling

A compiler is a program that is called in a directory of its own, which holds the headers and the
source (`CommandToolchain`, `compile`).  The call succeeds if the compiler says so and has left a
module behind.  What programs do is a parameter: nothing here, and no statement about the debugger,
depends on which compiler there is or on what it runs.

Main definitions:

* `Programs`: what calling a program does to the files around it;
* `Settings.compile`: one compilation.

Whatever the programs do, a module is what the compiler has left at its place (`compile_eq_ok`), and
a compiler that fails is never silent (`not_blank_diagnostics`).
-/

namespace Stepwise

/-- A call of a program. -/
structure Call where
  /-- The program. -/
  name : Text
  /-- Its arguments. -/
  arguments : List Text
  /-- What it can read from its standard input. -/
  input : Bytes := []
  /-- The environment variables that it is given. -/
  vars : List (Text × Text) := []
  deriving DecidableEq, Repr

/-- How a program ended. -/
inductive ExitStatus where
  /-- It exited; zero is success. -/
  | code (n : Nat)
  /-- A signal ended it. -/
  | signal (n : Nat)
  deriving DecidableEq, Repr

namespace ExitStatus

/-- Whether the program says that all went well. -/
def isSuccess (s : ExitStatus) : Bool := s = .code 0

/-- The names of signals. -/
def signalNames : List (Nat × Text) :=
  List.map (fun (n, name) => (n, String.toList name))
    [(1, "SIGHUP"), (2, "SIGINT"), (3, "SIGQUIT"), (4, "SIGILL"), (5, "SIGTRAP"), (6, "SIGABRT"),
     (7, "SIGBUS"), (8, "SIGFPE"), (9, "SIGKILL"), (10, "SIGUSR1"), (11, "SIGSEGV"),
     (12, "SIGUSR2"), (13, "SIGPIPE"), (14, "SIGALRM"), (15, "SIGTERM"), (16, "SIGSTKFLT"),
     (17, "SIGCHLD"), (18, "SIGCONT"), (19, "SIGSTOP"), (20, "SIGTSTP"), (21, "SIGTTIN"),
     (22, "SIGTTOU"), (23, "SIGURG"), (24, "SIGXCPU"), (25, "SIGXFSZ"), (26, "SIGVTALRM"),
     (27, "SIGPROF"), (28, "SIGWINCH"), (29, "SIGIO"), (30, "SIGPWR"), (31, "SIGSYS")]

/-- The wording of a status. -/
def text : ExitStatus → Text
  | code n => "exit status: " ++ Text.ofNat n
  | signal n =>
    "signal: " ++ Text.ofNat n
      ++ match signalNames.lookup n with
        | some name => " (" ++ name ++ ")"
        | none => []

end ExitStatus

/-- What a program leaves behind. -/
structure Finish where
  /-- How it ended. -/
  status : ExitStatus := .code 0
  /-- What it wrote, piece by piece, with the numbers of the channels. -/
  told : List (Nat × Bytes) := []
  /-- Whether it read its standard input. -/
  reads : Bool := false
  /-- The files around it. -/
  files : FileTree
  deriving DecidableEq, Repr

namespace Finish

/-- All that a program wrote to a channel. -/
def writtenTo (f : Finish) (channel : Nat) : Bytes :=
  (f.told.filter (·.1 == channel)).flatMap (·.2)

/-- All that a program wrote to its standard error. -/
def errors (f : Finish) : Bytes := f.writtenTo 2

/-- What a program leaves behind that also writes bytes to a channel. -/
def write (f : Finish) (channel : Nat) (bytes : Bytes) : Finish :=
  { f with told := f.told ++ [(channel, bytes)] }

/-- What a program leaves behind that also prints bytes. -/
def print (f : Finish) (bytes : Bytes) : Finish := f.write 1 bytes

/-- What is written comes behind what was written to the channel before. -/
theorem writtenTo_write (f : Finish) (channel : Nat) (bytes : Bytes) :
    (f.write channel bytes).writtenTo channel = f.writtenTo channel ++ bytes := by
  simp [writtenTo, write]

end Finish

/-- Why a program cannot be called. -/
inductive CallError where
  /-- There is none. -/
  | notFound
  /-- What has the name is no program, or the name is none. -/
  | refused (error : FileError)
  deriving DecidableEq, Repr

/-- The programs that can be called: what a call does to the files. -/
abbrev Programs := Call → FileTree → Except CallError Finish

namespace Toolchain

/-- What surrounds a compiler. -/
structure Surroundings where
  /-- The files of the machine. -/
  files : FileTree := .machine "/"
  /-- The directory in which the compiler gets one of its own. -/
  temporary : Text := "/tmp"
  /-- The variables that it is given. -/
  vars : List (Text × Text) := []

/-- The directory in which the compiler works. -/
def Surroundings.workplace (around : Surroundings) : Text :=
  Spelling.join around.temporary ".tmp000000"

/-- The name of the module. -/
def moduleName : Text := "main.wasm"

/-- The files before the compiler is called: its directory holds the headers and the source. -/
def Surroundings.prepare (around : Surroundings) (source : Text) : FileTree :=
  let workplace := around.workplace
  let files := (Header.all ++ [(Header.sourceName, wrapSource source)]).map fun (name, contents) =>
    (Spelling.join workplace name, Utf8.encode contents)
  { (around.files.makeDirectories workplace).1.addFiles files with
    current := FileTree.pathOf workplace }

/-- What a compiler that failed has to say; if it says nothing, its status. -/
def diagnostics (compiler : Text) (finish : Finish) : Text :=
  let told := Utf8.decode finish.errors
  if Text.blank told then
    compiler ++ " exited with " ++ finish.status.text
  else told

theorem not_blank_diagnostics (compiler : Text) (finish : Finish) :
    Text.blank (diagnostics compiler finish) = false := by
  unfold diagnostics
  dsimp only
  split
  · simp [Text.blank, show Text.isBlank 'x' = false by decide]
  · next h => simpa using h

/-- The module that a compiler has left behind at a place. -/
def collect (files : FileTree) (place : Text) : Except CompileError Module :=
  match files.read place with
  | .ok bytes => .ok { bytes }
  | .error e => .error (.files e.report)

/-- Whether a call can be passed on: no word of it holds the character that ends words. -/
def isPassable (words : List Text) : Bool := words.all fun word => !word.contains '\x00'

end Toolchain

/-- Compiles a program. -/
def Settings.compile (s : Settings) (programs : Programs) (around : Toolchain.Surroundings)
    (job : Job) : Except CompileError Module :=
  let place (name : Text) := Spelling.join around.workplace name
  let arguments := s.arguments around.workplace (place Header.sourceName)
    (place Toolchain.moduleName) job.flags
  if !Toolchain.isPassable (s.compiler :: arguments) then
    .error (.files "nul byte found in provided data")
  else
    let call : Call := { name := s.compiler, arguments, vars := around.vars }
    match programs call (around.prepare job.source) with
    | .error .notFound => .error (.unavailable ("\x60" ++ s.compiler ++ "\x60 not found"))
    | .error (.refused e) => .error (.files e.report)
    | .ok finish =>
      if finish.status.isSuccess then
        Toolchain.collect finish.files (place Toolchain.moduleName)
      else .error (.diagnostics (Toolchain.diagnostics s.compiler finish))

/-- A module is what the compiler leaves at its place when it is called next to the headers and the
source, and says that all went well. -/
theorem Settings.compile_eq_ok {s : Settings} {programs : Programs}
    {around : Toolchain.Surroundings} {job : Job} {m : Module}
    (h : s.compile programs around job = .ok m) :
    ∃ call finish, call.name = s.compiler ∧ call.vars = around.vars ∧
      programs call (around.prepare job.source) = .ok finish ∧
      finish.status.isSuccess = true ∧
      finish.files.read (Spelling.join around.workplace Toolchain.moduleName) = .ok m.bytes := by
  unfold compile at h
  dsimp only at h
  split at h
  · cases h
  · split at h
    · cases h
    · cases h
    · next finish hf =>
      split at h
      · next hs =>
        refine ⟨_, finish, rfl, rfl, hf, hs, ?_⟩
        unfold Toolchain.collect at h
        split at h
        · next bytes hb =>
          cases h
          exact hb
        · cases h
      · cases h

end Stepwise
