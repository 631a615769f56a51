import Stepwise.CommandLine.Page
import Stepwise.CommandLine.Variables
import Stepwise.Text.Basic

/-!
# Help texts

A help text says what a command is for and how it is called, and lists what it takes in two columns.
Words that are typed as they stand, and titles, stand out.
-/

/-!
## 1. Switches

A command of the command line has one operand and switches.  A switch has a long name, which stands
behind two dashes, and perhaps a letter, which stands behind one.  An operand is read like the value
of a switch whose name is left out.
-/

namespace Stepwise.CommandLine

/-- What giving a switch means. -/
inductive SwitchKind where
  /-- It is noted. -/
  | flag
  /-- It takes a value, which has this name in help texts. -/
  | value (placeholder : Text)
  /-- The help of the command is shown, and nothing else happens. -/
  | help
  /-- The version is shown, and nothing else happens. -/
  | version
  deriving DecidableEq, Repr

/-- A switch, or an operand. -/
structure Switch where
  /-- Its long name. -/
  name : Text
  /-- Its letter. -/
  letter : Option Char := none
  /-- What giving it means. -/
  kind : SwitchKind := .flag
  /-- What help texts say about it. -/
  summary : Text
  /-- Whether a value is accepted. -/
  accepts : Text → Bool := fun _ => true
  /-- The environment variable that is used when it is not given. -/
  fallback : Option Text := none
  /-- The switches that must not be given along with it. -/
  excludes : List Text := []

/-- The name of the value in help texts. -/
def Switch.placeholder? (s : Switch) : Option Text :=
  match s.kind with
  | .value placeholder => some placeholder
  | _ => none

/-- A command. -/
structure Command where
  /-- The word that selects it. -/
  name : Text
  /-- What help texts say about it. -/
  summary : Text
  /-- Its operand. -/
  operand : Switch
  /-- Its switches in the order in which help texts show them. -/
  switches : List Switch

/-- A program with several commands. -/
structure Application where
  /-- The name of the program. -/
  name : Text
  /-- Its version. -/
  version : Text
  /-- What help texts say about it. -/
  summary : Text
  /-- The switches that may stand before the command. -/
  switches : List Switch
  /-- Its commands. -/
  commands : List Command

/-- The command of a name. -/
def Application.command? (a : Application) (name : Text) : Option Command :=
  a.commands.find? (·.name = name)

open Page (plain literal title table)

/-! ## 2. Rows -/

/-- How a switch is written. -/
def Switch.label (s : Switch) : Page :=
  (match s.letter with
    | some c => literal ['-', c] ++ plain ", "
    | none => plain "    ")
  ++ literal ("--" ++ s.name)
  ++ (match s.placeholder? with
    | some placeholder => plain (" <" ++ placeholder ++ ">")
    | none => [])

/-- The description of a switch, with the variable that stands in for it. -/
def Switch.description (env : Variables) (s : Switch) : Text :=
  match s.fallback with
  | none => s.summary
  | some name => s.summary ++ " [env: " ++ name ++ "=" ++ (env.value? name).getD [] ++ "]"

/-- How an operand is written. -/
def Switch.operandLabel (s : Switch) : Text := "<" ++ s.placeholder?.getD [] ++ ">"

/-- A table under its title. -/
def listing (name : Text) (rows : List (Page × Text)) : Page :=
  title (name ++ ":") ++ plain "\n" ++ table rows

/-- The list of switches. -/
def switchSection (env : Variables) (switches : List Switch) : Page :=
  listing "Options" (switches.map fun s => (s.label, s.description env))

/-- What a command is for, and how it is called: its words and what stands behind them. -/
def synopsis (summary words rest : Text) : Page :=
  plain (summary ++ "\n\n") ++ title "Usage:" ++ plain " " ++ literal words
    ++ plain (" " ++ rest ++ "\n\n")

/-! ## 3. Pages -/

/-- The help of a command. -/
def Application.commandHelp (a : Application) (env : Variables) (c : Command) : Page :=
  synopsis c.summary (a.name ++ " " ++ c.name) ("[OPTIONS] " ++ c.operand.operandLabel)
    ++ listing "Arguments" [(plain c.operand.operandLabel, c.operand.summary)] ++ plain "\n"
    ++ switchSection env c.switches

/-- The word that shows help. -/
def helpWord : Text := "help"

/-- What the help says about itself. -/
def helpSummary : Text := "Print this message or the help of the given subcommand(s)"

/-- The help of the help. -/
def Application.helpHelp (a : Application) : Page :=
  synopsis helpSummary (a.name ++ " " ++ helpWord) "[COMMAND]..."
    ++ listing "Arguments" [(plain "[COMMAND]...", "Print help for the subcommand(s)")]

/-- The help of the program. -/
def Application.help (a : Application) (env : Variables) : Page :=
  synopsis a.summary a.name "[OPTIONS] <COMMAND>"
    ++ listing "Commands"
      (a.commands.map (fun c => (literal c.name, c.summary)) ++ [(literal helpWord, helpSummary)])
    ++ plain "\n" ++ switchSection env a.switches

/-- The version of the program. -/
def Application.versionPage (a : Application) : Page := plain (a.name ++ " " ++ a.version ++ "\n")

/-! ## 4. Showing pages -/

/-- Whether control sequences are wanted even where there is no terminal.  A variable without a text
says nothing. -/
def wantsMarks (env : Variables) : Bool :=
  let isSet (name : Text) : Bool := (env.value? name).any fun value => !value.isEmpty
  !isSet "NO_COLOR" && isSet "CLICOLOR_FORCE"

/-- The text that is printed of a page. -/
def display (env : Variables) (p : Page) : Text := if wantsMarks env then p.marked else p.shown

end Stepwise.CommandLine
