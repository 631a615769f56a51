import Stepwise.Toolchain.Program
import Stepwise.Toolchain.Shell.Syntax

/-!
# The state of a shell

A shell has variables, arguments, functions and open channels, and works in the files of a machine.
A channel leads to a stream; several channels may lead to the same one, and then they share how far
it has been read or written.

Main definitions:

* `State`: what a shell knows;
* `Act`: something that a shell does, which may end with a jump;
* `write`, `readAll`: a channel is written to, or read up to its end.
-/

namespace Stepwise.Shell

/-! ## 1. States -/

/-- A variable. -/
structure Variable where
  /-- Its value, if it has one. -/
  value : Option Text := none
  /-- Whether programs are given it. -/
  exported : Bool := false
  /-- Whether it keeps its value for good. -/
  fixed : Bool := false
  deriving DecidableEq, Repr

/-- Where a channel leads. -/
inductive Stream where
  /-- Bytes that are read. -/
  | source (left : Bytes)
  /-- Bytes that are collected. -/
  | sink (written : Bytes)
  /-- A file that was opened in a way, from a place in it on. -/
  | file (path : Path) (offset : Nat) (kind : Redirecting)
  deriving DecidableEq, Repr

/-- What a shell knows by itself. -/
structure Scene where
  /-- The name of the script. -/
  name : Text
  arguments : List Text := []
  vars : List (Text × Variable) := []
  /-- The status of the last command. -/
  status : Nat := 0
  /-- The status of the last commands inside of a word. -/
  innerStatus : Nat := 0
  functions : List (Text × Command) := []
  /-- The options that are set, by their letters. -/
  options : Text := []
  /-- What is done on signals, by their names. -/
  traps : List (Text × Text) := []
  /-- The signals that have come and are to be dealt with. -/
  pending : List Text := []
  /-- The stream of every open channel. -/
  channels : List (Nat × Nat)
  /-- The directory as it was spelled on the way to it. -/
  place : Text := []
  /-- The line of the command that runs. -/
  line : Nat := 1
  /-- The builtin command inside of which others run. -/
  within : Option Text := none
  /-- The number of loops that are under way. -/
  loops : Nat := 0
  /-- The variables of the function that is under way, if one is, as they were before. -/
  locals : Option (List (Text × Option Variable)) := none
  /-- The names that stand for other words, with those. -/
  aliases : List (Text × Text) := []
  /-- The programs that were called by their names, with their places. -/
  hashed : List (Text × Text) := []
  /-- The number of bytes that a file may have, if there is a limit. -/
  fileLimit : Option Nat := none

/-- A command in the background.  It runs when it is waited for, or when the shell is at its end. -/
structure Job where
  /-- Its number. -/
  number : Nat
  body : Command
  /-- What it knows. -/
  scene : Scene
  /-- Its directory. -/
  current : Path

/-- What a shell knows, together with what it shares with other programs. -/
structure State extends Scene where
  /-- The number of the shell among the programs that run. -/
  number : Nat
  /-- The number of the last command in the background, or that of the shell. -/
  lastJob : Nat
  /-- The commands in the background that have not run yet. -/
  jobs : List Job := []
  /-- How others ended, by their numbers. -/
  ended : List (Nat × ExitStatus) := []
  files : FileTree
  streams : List Stream
  /-- The time that has passed, in nanoseconds. -/
  clock : Nat := 0
  /-- The time at which programs are ended. -/
  deadline : Option Nat := none

/-- How commands end before they are done. -/
inductive Jump where
  /-- Something is wrong, and the shell ends unless the builtin command that fails forgives it. -/
  | failed
  /-- The shell ends with a status. -/
  | exit (status : Nat)
  /-- A signal ends the shell. -/
  | killed (signal : Nat)
  /-- The time is over that a program and all that it calls were given. -/
  | overtime
  /-- Loops end. -/
  | leave (levels : Nat)
  /-- Loops go on with their next turn. -/
  | again (levels : Nat)
  /-- A function ends. -/
  | back (status : Nat)
  deriving DecidableEq, Repr

/-- Something that a shell does. -/
abbrev Act := ExceptT Jump (StateM State)

/-- Sets the status. -/
def setStatus (n : Nat) : Act Unit := modify fun s => { s with status := n }

/-! ## 2. Streams -/

/-- The stream of a channel. -/
def State.stream? (s : State) (channel : Nat) : Option (Nat × Stream) := do
  let n ← s.channels.lookup channel
  let stream ← s.streams[n]?
  return (n, stream)

/-- Puts a stream in the place of another one. -/
def State.setStream (s : State) (n : Nat) (stream : Stream) : State :=
  { s with streams := s.streams.set n stream }

/-- A state with one more stream, and its number. -/
def State.addStream (s : State) (stream : Stream) : Nat × State :=
  (s.streams.length, { s with streams := s.streams ++ [stream] })

/-- A state in which a channel leads to a stream. -/
def State.setChannel (s : State) (channel n : Nat) : State :=
  { s with channels := (channel, n) :: s.channels.filter (·.1 != channel) }

/-- A state in which a channel is closed. -/
def State.closeChannel (s : State) (channel : Nat) : State :=
  { s with channels := s.channels.filter (·.1 != channel) }

/-- The bytes of a file with others written over them from a place on. -/
def overwrite (old : Bytes) (offset : Nat) (new : Bytes) : Bytes :=
  old.take offset ++ List.replicate (offset - old.length) 0 ++ new
    ++ old.drop (offset + new.length)

/-- What is written at the end is put there. -/
theorem overwrite_length (old new : Bytes) : overwrite old old.length new = old ++ new := by
  simp [overwrite]

/-- A state after bytes were written to a stream. -/
def State.send (s : State) (n : Nat) (bytes : Bytes) : Except FileError State :=
  match s.streams[n]? with
  | none | some (.source _) | some (.file _ _ .read) => .error .noChannel
  | some (.sink written) => .ok (s.setStream n (.sink (written ++ bytes)))
  | some (.file path offset kind) =>
    match s.files.at? path with
    | some (.file old mode) =>
      let offset := if kind = .append then old.length else offset
      if s.fileLimit.any (· < offset + bytes.length) then .error .tooLarge
      else
        .ok { s.setStream n (.file path (offset + bytes.length) kind) with
          files := s.files.put path (.file (overwrite old offset bytes) mode) }
    | some (.channel input written) =>
      .ok { s with files := s.files.put path (.channel input (written ++ bytes)) }
    | some (.device .full) => .error .noSpace
    | _ => .ok s

/-- The number of the signal for a file that becomes too large. -/
def tooLargeSignal : Nat := 25

/-- Writes bytes to a channel, if they can be written.  A file that becomes too large ends the
program. -/
def write (channel : Nat) (bytes : Bytes) : Act Unit := do
  let s ← get
  if !bytes.isEmpty then
    match (s.channels.lookup channel).elim (.error .noChannel) (s.send · bytes) with
    | .ok s => set s
    | .error e => if e = .tooLarge then throw (.killed tooLargeSignal)

/-- Writes text to a channel. -/
def writeText (channel : Nat) (t : Text) : Act Unit := write channel (Utf8.encode t)

/-- What can still be read from a stream. -/
def State.left (s : State) : Stream → Bytes
  | .source left => left
  | .sink _ => []
  | .file path offset kind =>
    match (s.files.at? path).map FileTree.contents with
    | some (.ok bytes) => if kind = .read ∨ kind = .update then bytes.drop offset else []
    | _ => []

/-- What can still be read from a channel. -/
def State.unread (s : State) (channel : Nat) : Bytes :=
  match s.stream? channel with
  | some (_, stream) => s.left stream
  | none => []

/-- A stream after some bytes were read. -/
def Stream.advance (count : Nat) : Stream → Stream
  | source left => source (left.drop count)
  | sink written => sink written
  | file path offset kind => file path (offset + count) kind

/-- A state after some bytes were read from a channel. -/
def State.consume (s : State) (channel count : Nat) : State :=
  match s.stream? channel with
  | some (n, stream) => s.setStream n (stream.advance count)
  | none => s

/-- Reads a channel up to its end. -/
def readAll (channel : Nat) : Act Bytes :=
  modifyGet fun s =>
    let bytes := s.unread channel
    (bytes, s.consume channel bytes.length)

/-! ## 3. Messages -/

/-- The front of every message: the script, the line, and the builtin command that fails. -/
def State.heading (s : State) : Text :=
  s.name ++ ": " ++ Text.ofNat s.line ++ ": " ++ (s.within.map (· ++ [':', ' '])).getD []

/-- Tells that something is wrong. -/
def warn (message : Text) : Act Unit := do
  writeText 2 ((← get).heading ++ message ++ ['\n'])

/-- Tells what is wrong and ends the shell. -/
def fail {α : Type} (message : Text) : Act α := do
  warn message
  throw .failed

/-! ## 4. Variables -/

/-- A variable of a shell. -/
def State.var? (s : State) (name : Text) : Option Variable := s.vars.lookup name

/-- The value of a variable. -/
def State.value? (s : State) (name : Text) : Option Text := (s.var? name).bind (·.value)

/-- A state with another variable.  A variable that is there already keeps its place. -/
def State.setVar (s : State) (name : Text) (v : Variable) : State :=
  { s with vars :=
      if s.vars.any (·.1 == name) then
        s.vars.map fun old => if old.1 == name then (name, v) else old
      else s.vars ++ [(name, v)] }

/-- A state without a variable. -/
def State.dropVar (s : State) (name : Text) : State :=
  { s with vars := s.vars.filter (·.1 != name) }

/-- A state in which a variable is as it was before. -/
def State.resetVar (s : State) (name : Text) (old : Option Variable) : State :=
  old.elim (s.dropVar name) (s.setVar name)

/-- Whether an option is set. -/
def State.has (s : State) (option : Char) : Bool := s.options.contains option

/-- Assigns a variable. -/
def assign (name value : Text) : Act Unit := do
  let s ← get
  let old := (s.var? name).getD {}
  if old.fixed then fail (name ++ ": is read only")
  else
    set (s.setVar name { old with value := some value })

/-- The variables that programs are given. -/
def State.environment (s : State) : List (Text × Text) :=
  s.vars.filterMap fun (name, v) => if v.exported then v.value.map (name, ·) else none

/-- The characters at which unquoted values fall into fields. -/
def State.separators (s : State) : Text := (s.value? "IFS").getD [' ', '\t', '\n']

/-- The value of a parameter, if it has one; the arguments are joined. -/
def State.parameter? (s : State) (name : Text) : Option Text :=
  match String.ofList name with
  | "@" => some (Text.join [' '] s.arguments)
  | "*" => some (Text.join (s.separators.take 1) s.arguments)
  | "#" => some (Text.ofNat s.arguments.length)
  | "?" => some (Text.ofNat s.status)
  | "-" => some s.options
  | "$" => some (Text.ofNat s.number)
  | "!" => if s.lastJob = s.number then none else some (Text.ofNat s.lastJob)
  | "0" => some s.name
  | _ =>
    if name.all Char.isDigit then
      ((Text.readNat UInt32.size name).toOption).bind fun n => s.arguments[n - 1]?
    else s.value? name

/-! ## 5. Programs -/

/-- What a name of a program stands for, and its place. -/
def State.image (s : State) (name : Text) : Except FileError (Program.Image × Text) :=
  if name.contains '/' then (Program.load s.files name).map fun image => (image, name)
  else
    match s.value? "PATH" with
    | none => .error .missing
    | some path => Program.search s.files path name

/-- The same; if there is no such program, what a shell says and the status that it gives. -/
def State.located (s : State) (name : Text) : Except (Text × Nat) (Program.Image × Text) :=
  (if name.isEmpty then .error .denied else s.image name).mapError fun e =>
    if e = .missing ∨ e = .notDirectory then (name ++ ": not found", 127)
    else (name ++ ": " ++ e.message, 126)

/-- The text of a script that is to be carried out in the same shell. -/
def State.scriptAt (s : State) (name : Text) : Except Text Text :=
  let places : List Text := if name.contains '/' then [name]
    else Program.placesOf ((s.value? "PATH").getD Program.usualPath) name
  match places.find? fun place => (s.files.find place).toOption.isSome with
  | none => .error (if name.contains '/' then "cannot open " ++ name ++ ": No such file"
      else name ++ ": not found")
  | some place =>
    match s.files.read place with
    | .ok bytes => .ok (Utf8.decode bytes)
    | .error e => .error ("cannot open " ++ place ++ ": " ++ e.message)

/-- The place of a program that is called by a name. -/
def State.program? (s : State) (name : Text) : Option Text := (s.image name).toOption.map (·.2)

end Stepwise.Shell
