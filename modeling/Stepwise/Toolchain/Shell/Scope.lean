import Stepwise.Toolchain.Shell.State
import Stepwise.Toolchain.Tool.Basic

/-!
# Signals and scopes

A signal ends a program, does nothing to it, or has it do what it asked for.  Parts of a script run in
a scope: as a program of their own, with other channels, inside of a loop or in the name of a builtin
command.  When such a part ends, however it does, what belongs to its scope is as before.

Main definitions:

* `signal?`: the number of a signal, given by its number or its name;
* `receive`: the program that runs gets a signal;
* `forked`, `apart`: something, or a part of a script, is done by a program of its own;
* `collect`: what is written to the output is collected;
* `turn`: a turn of a loop.
-/

namespace Stepwise.Shell

/-! ## 1. Signals -/

/-- The signals that a shell knows by name: their numbers and names, without the letters that all of
them begin with. -/
def signalNames : List (Nat × Text) :=
  (ExitStatus.signalNames.filter (·.1 != 16)).map fun (n, name) => (n, name.drop 3)

/-- The name of a signal. -/
def signalName? (n : Nat) : Option Text := signalNames.lookup n

/-- The number of a signal, given by its number or its name. -/
def signal? (t : Text) : Option Nat :=
  match Tool.digits? t with
  | some n => if n ≤ 64 then some n else none
  | none =>
    if t.map Char.toUpper = "EXIT".toList then some 0
    else
      (signalNames.find? fun (_, name) => name == t.map Char.toUpper).map (·.1)

/-- The name under which what is done on a signal is kept. -/
def trapName (n : Nat) : Text := if n = 0 then "EXIT" else (signalName? n).getD (Text.ofNat n)

/-- How a shell tells of a signal that ended a program. -/
def signalText (n : Nat) : Text :=
  let texts : List (Nat × Text) := List.map (fun (n, t) => (n, String.toList t))
    [(1, "Hangup"), (3, "Quit"), (6, "Aborted"), (9, "Killed"), (10, "User defined signal 1"),
     (11, "Segmentation fault"), (12, "User defined signal 2"), (14, "Alarm clock"),
     (15, "Terminated"), (25, "File size limit exceeded")]
  (texts.lookup n).getD ("Real-time signal " ++ Text.ofNat (n - 34))

/-- Signals that do nothing to a program that does not ask for them. -/
def harmless : List Nat := [0, 17, 18, 19, 20, 21, 22, 23, 28]

/-- A signal comes to the program that runs. -/
def receive (n : Nat) : Act Unit := do
  let s ← get
  match if n = 9 ∨ n = 0 then none else s.traps.lookup (trapName n) with
  | some action =>
    if !action.isEmpty then set { s with pending := s.pending ++ [trapName n] }
  | none => if !harmless.contains n then throw (.killed n)

/-- The status that a shell gives for the end of a program, of which it tells if a signal was the
cause. -/
def statusOf : ExitStatus → Act Nat
  | .code n => return n % 256
  | .signal n => do
    if n ≠ 2 ∧ n ≠ 13 then writeText 2 (signalText n ++ ['\n'])
    return 128 + n

/-! ## 2. Programs of their own -/

/-- Does something and then, however it ends, restores what has to be as before. -/
def restoring {α : Type} (body : Act α) (restore : Act Unit) : Act α := do
  let a ← tryCatch body fun jump => do
    restore
    throw jump
  restore
  return a

/-- Does something up to its end or the end of the shell, and then what is to be done at the end;
gives the status. -/
def untilEnd (onExit : Text → Act Unit) (body : Act Unit) : Act Nat := do
  let ended (body : Act Unit) : Act Nat := do
    try
      body
      return (← get).status
    catch
      | .exit n => return n
      | .back n => return n
      | .failed => return 2
      | .leave _ | .again _ => return (← get).status
      | jump => throw jump
  let status ← ended body
  let s ← get
  match s.traps.lookup "EXIT".toList with
  | none => return status
  | some action =>
    set { s with status, traps := s.traps.filter (·.1 != "EXIT".toList) }
    ended do
      onExit action
      setStatus status

/-- The state of a program when another one has ended for which it waited: what that one knew by
itself does not stay. -/
def State.after (s t : State) : State :=
  { t with
    toScene := s.toScene
    files := { t.files with current := s.files.current, mask := s.files.mask } }

/-- How something ends that a program of its own does. -/
def endOf (body : Act ExitStatus) : Act ExitStatus :=
  tryCatch body fun
    | .killed n => return .signal n
    | .exit n => return .code n
    | .overtime => throw .overtime
    | _ => return .code 2

/-- Has something done by a program of its own. -/
def forked (body : Act ExitStatus) : Act ExitStatus := do
  let s ← get
  set { s with traps := s.traps.filter (·.2.isEmpty), loops := 0 }
  let status ← endOf body
  modify s.after
  return status

/-- Has a part of a script carried out by a program of its own; gives how that ends. -/
def part (onExit : Text → Act Unit) (body : Act Unit) : Act ExitStatus :=
  forked do return .code ((← untilEnd onExit body) % 256)

/-- Has a part of a script carried out by a program of its own; gives the status. -/
def apart (onExit : Text → Act Unit) (body : Act Unit) : Act Nat := do
  let status ← statusOf (← part onExit body)
  setStatus status
  return status

/-! ## 3. Channels -/

/-- Does something while channels may be changed, which are then as before. -/
def withChannels {α : Type} (body : Act α) : Act α := do
  let channels := (← get).channels
  restoring body (modify fun s => { s with channels })

/-- Collects what is written to the output. -/
def collect (body : Act Unit) : Act Bytes := do
  withChannels do
    let (n, s) := (← get).addStream (.sink [])
    set (s.setChannel 1 n)
    body
    match (← get).streams[n]? with
    | some (.sink written) => return written
    | _ => return []

/-! ## 4. Loops -/

/-- Does one turn of a loop; tells whether there is another one. -/
def turn (body : Act Bool) : Act Bool := do
  tryCatch body fun
    | .leave n => if n ≤ 1 then return false else throw (.leave (n - 1))
    | .again n => if n ≤ 1 then return true else throw (.again (n - 1))
    | jump => throw jump

/-- Does something inside of one more loop. -/
def inLoop (body : Act Unit) : Act Unit := do
  modify fun s => { s with loops := s.loops + 1 }
  restoring body (modify fun s => { s with loops := s.loops - 1 })

/-! ## 5. Builtin commands and variables -/

/-- Does something for a builtin command, in whose name it then speaks. -/
def inName {α : Type} (name : Text) (body : Act α) : Act α := do
  let old := (← get).within
  modify fun s => { s with within := some name }
  restoring body (modify fun s => { s with within := old })

/-- Does something while variables may be changed, which are then as before. -/
def keepingVariables {α : Type} (names : List Text) (body : Act α) : Act α := do
  let s ← get
  let before := names.map fun name => (name, s.var? name)
  restoring body (modify fun s => before.foldl (fun s (name, old) => s.resetVar name old) s)

/-- Has programs be given a variable. -/
def exportVariable (name : Text) : Act Unit :=
  modify fun s => s.setVar name { (s.var? name).getD {} with exported := true }

/-- Does something with variables assigned, which are then as before. -/
def withVariables {α : Type} (given : List (Text × Text)) (body : Act α) : Act α :=
  keepingVariables (given.map (·.1)) do
    for (name, value) in given do
      assign name value
      exportVariable name
    body

/-- Tells which command is carried out, if an option asks for that; `channels` are those before its
redirections. -/
def trace (channels : List (Nat × Nat)) (words : List Text) : Act Unit := do
  let s ← get
  if s.has 'x' then
    withChannels do
      set { s with channels }
      writeText 2 ((s.value? "PS4").getD [] ++ Text.join [' '] words ++ ['\n'])

/-- Does something that may come back early. -/
def returning (body : Act Nat) : Act Nat :=
  tryCatch body fun
    | .back n => return n
    | jump => throw jump

/-- The status of a builtin command that forgives what is wrong. -/
def forgiving (body : Act Nat) : Act Nat :=
  tryCatch body fun
    | .failed => return 2
    | jump => throw jump

end Stepwise.Shell
