import Stepwise.Toolchain.Tool.Character
import Stepwise.Toolchain.Tool.Condition
import Stepwise.Toolchain.Tool.Line
import Stepwise.Toolchain.Tool.Place
import Stepwise.Toolchain.Tool.Sed

/-!
# The table of tools

All tools by their names, and some small ones that fit nowhere else.

Main definitions:

* `Tool.named?`: the tool of a name.
-/

namespace Stepwise.Tool

/-- A tool that ends with a status and does nothing. -/
def always (status : Nat) : Action := fun _ files => { status := .code status, files }

/-- How many nanoseconds a text asks to wait. -/
def span? (t : Text) : Option Nat :=
  let units : List (Char × Nat) := [('s', 1), ('m', 60), ('h', 3600), ('d', 86400)]
  let (digits, unit) : Text × Nat := match t.getLast?.bind fun c => units.lookup c with
    | some unit => (t.dropLast, unit)
    | none => (t, 1)
  match Quantity.digitsOf digits with
  | some (n, places, []) => some (n * unit * 1000000000 / Nat.pow 10 places)
  | _ => none

/-- How long words ask to wait together. -/
def spanOf (words : List Text) : Nat := (words.filterMap span?).foldl (· + ·) 0

/-- `sleep`: fails if there is no time to wait. -/
def sleep : Action := withOptions { letters := "" } <| needing fun a call files =>
  match a.operands.find? fun t => (span? t).isNone with
  | some t => misused call files 1 ("invalid time interval " ++ quoted t)
  | none => { files }

/-- `printenv`: variables of the call. -/
def printenv : Action := fun call files =>
  match call.arguments with
  | [] => wrote files (unlines (call.vars.map fun (name, value) => name ++ '=' :: value))
  | names =>
    let values := names.map fun name => call.vars.lookup name
    { wrote files (unlines (values.filterMap id)) with
      status := .code (if values.all Option.isSome then 0 else 1) }

/-- All tools. -/
def table : List (Text × Action) :=
  List.map (fun (name, tool) => (String.toList name, tool))
    [("[", test), ("basename", basename), ("cat", cat), ("chmod", chmod), ("cp", cp), ("cut", cut),
     ("dd", dd), ("dirname", dirname), ("echo", Print.echo), ("false", always 1), ("grep", grep),
     ("head", head), ("ln", ln), ("ls", ls), ("mkdir", mkdir), ("mv", mv), ("nl", nl), ("od", od),
     ("printenv", printenv), ("printf", Print.printf), ("pwd", pwd), ("readlink", readlink),
     ("rm", rm), ("rmdir", rmdir), ("sed", sed), ("seq", seq), ("sleep", sleep), ("sort", sort),
     ("stat", stat), ("tail", tail), ("tee", tee), ("test", test), ("touch", touch), ("tr", tr),
     ("true", always 0), ("uniq", uniq), ("wc", wc)]

/-- The tool of a name. -/
def named? (name : Text) : Option Action := table.lookup name

end Stepwise.Tool
