import Stepwise.Toolchain.Shell.Run

/-!
# The programs of a machine

One choice of the programs that a compilation calls: a small shell and a few tools, with which a
script can stand for a compiler.  The program is found by its name or its place, and runs with the
input and the variables of the call.

Programs are a parameter of `Settings.compile`, and no statement about the debugger depends on this
choice: it is here so that a whole run, from the settings up to the last event, has some programs to
run with.

Main definitions:

* `Programs.standard`: the shell and the tools as programs that can be called.
-/

namespace Stepwise.Programs

/-- The names of all programs. -/
def names : List Text := Shell.callers ++ Tool.table.map (·.1)

/-- The variables that programs are given if a call gives none. -/
def usualVariables : List (Text × Text) :=
  [("HOME".toList, "/root".toList), ("PATH".toList, Program.usualPath)]

/-- What the program of a name is, if there is one. -/
def find (files : FileTree) (name : Text) : Except CallError Program.Image :=
  let image (place : Text) : Except CallError Program.Image :=
    match Program.load files place with
    | .ok image => .ok image
    | .error .missing => .error .notFound
    | .error e => .error (.refused e)
  if name.contains '/' then image name
  else if name.isEmpty then .error .notFound
  else if Spelling.stays name || Spelling.goesUp name then .error (.refused .denied)
  else if Spelling.maxName < Spelling.size name then .error (.refused .nameTooLong)
  else
    match Program.search files Program.usualPath name with
    | .ok (image, _) => .ok image
    | .error .missing => .error .notFound
    | .error e => .error (.refused e)

/-- The shell in which a call begins. -/
def shellOf (call : Call) (files : FileTree) : Shell.State where
  name := call.name
  number := 1000
  lastJob := 1000
  vars :=
    let usual := usualVariables.filter fun v => !call.vars.any (·.1 == v.1)
    (usual ++ call.vars).map fun (name, value) =>
      (name, { value := some value, exported := true })
  files := files
  streams := [.source call.input, .sink [], .sink []]
  channels := [(0, 0), (1, 1), (2, 2)]

/-- How many steps a program may nest. -/
def fuel : Nat := 100000

/-- The shell and the tools. -/
def standard : Programs := fun call files => do
  let files := Program.install names files
  let image ← find files call.name
  let (result, s) :=
    (Shell.complete fuel (Shell.start fuel image call.name call.name call.arguments)).run
      (shellOf call files)
  let written (n : Nat) : Bytes := match s.streams[n]? with
    | some (.sink bytes) => bytes
    | _ => []
  return {
    status := match result with
      | .ok status => status
      | .error _ => .code 2
    told := [(1, written 1), (2, written 2)]
    reads := (s.unread 0).isEmpty
    files := { s.files with current := files.current } }

end Stepwise.Programs
