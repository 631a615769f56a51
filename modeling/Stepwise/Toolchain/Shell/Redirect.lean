import Stepwise.Toolchain.Shell.State
import Stepwise.Toolchain.Shell.Syntax
import Stepwise.Toolchain.Tool.Basic

/-!
# Redirections

A redirection lets a channel lead somewhere else: to a file, to where another channel leads, or to a
text of the script.  A place may also stand for a channel.

Main definitions:

* `redirectAll`: carries out redirections up to the first with which something is wrong.
-/

namespace Stepwise.Shell

/-- Lets a channel lead where another one does; gives what is wrong otherwise. -/
def copyChannel (channel other : Nat) : Act (Option Text) := do
  let s ← get
  match s.channels.lookup other with
  | some n =>
    set (s.setChannel channel n)
    return none
  | none => return some (Text.ofNat other ++ ": Bad file descriptor")

/-- Lets a channel lead to a new stream. -/
def openStream (channel : Nat) (stream : Stream) : Act (Option Text) := do
  modify fun s =>
    let (n, s) := s.addStream stream
    s.setChannel channel n
  return none

/-- What is wrong with a file that cannot be opened. -/
def openError (creates : Bool) (place : Text) (e : FileError) : Text :=
  let reason : Text :=
    if e = .missing ∨ e = .notDirectory then
      if creates then "Directory nonexistent" else "No such file"
    else e.message
  (if creates then "cannot create " else "cannot open ") ++ place ++ ": " ++ reason

/-- Opens a file for a channel; gives what is wrong otherwise. -/
def openFile (channel : Nat) (kind : Redirecting) (place : Text) : Act (Option Text) := do
  let s ← get
  let creates : Bool := kind != .read
  let copied? := (s.files.channelOf? place).bind fun other =>
    match s.stream? other with
    | some (_, .file ..) => none
    | _ => some other
  match copied? with
  | some other =>
    if (s.channels.lookup other).isSome then copyChannel channel other
    else return some (openError creates place .missing)
  | none =>
    let place' := match (s.files.channelOf? place).bind s.stream? with
      | some (_, .file path ..) => FileTree.spell path
      | _ => place
    let found := s.files.find place'
    match kind, found with
    | .read, .error e => return some (openError creates place e)
    | .read, .ok (path, _) => openStream channel (.file path 0 kind)
    | .write, _ | .replace, _ => replace place' [] 0
    | _, .ok (path, .file ..) => openStream channel (.file path 0 kind)
    | _, _ => replace place' [] 0
where
  /-- Opens a file that is emptied or made before. -/
  replace (place : Text) (contents : Bytes) (offset : Nat) : Act (Option Text) := do
    let s ← get
    match do
        let path ← s.files.resolve place
        return (path, ← s.files.writeAt path contents) with
    | .error e => return some (openError true place e)
    | .ok (path, files) =>
      set { s with files }
      openStream channel (.file path offset kind)

/-- A redirection of a channel whose target has been looked at. -/
inductive Target where
  | place (kind : Redirecting) (place : Text)
  /-- Another channel. -/
  | channel (other : Nat)
  | closed
  /-- A text of the script. -/
  | text (w : Word)

/-- Looks at the target of a redirection. -/
def targetOf (expanded : Word → Act Text) : Redirection → Act (Nat × Target)
  | .mk channel kind target => do
    match kind with
    | .here => return (channel, .text target)
    | .copy =>
      match ← expanded target with
      | [c] =>
        if c = '-' then return (channel, .closed)
        else if c.isDigit then return (channel, .channel (c.toNat - '0'.toNat))
        else fail "Syntax error: Bad fd number"
      | _ => fail "Syntax error: Bad fd number"
    | kind => return (channel, .place kind (← expanded target))

/-- Redirects a channel; gives what is wrong otherwise. -/
def redirect (expanded : Word → Act Text) (channel : Nat) : Target → Act (Option Text)
  | .place kind place => openFile channel kind place
  | .channel other => copyChannel channel other
  | .closed => do
    modify fun s => s.closeChannel channel
    return none
  | .text w => do openStream channel (.source (Utf8.encode (← expanded w)))

/-- Carries out redirections up to the first with which something is wrong.  All targets are looked
at before. -/
def redirectAll (expanded : Word → Act Text) (redirections : List Redirection) :
    Act (Option Text) := do
  let targets ← redirections.mapM (targetOf expanded)
  for (channel, target) in targets do
    if let some message ← redirect expanded channel target then return some message
  return none

end Stepwise.Shell
