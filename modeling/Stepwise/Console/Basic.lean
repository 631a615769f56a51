import Stepwise.Console.Command
import Stepwise.Console.Render
import Stepwise.Graph.Json
import Stepwise.Json.Printer
import Stepwise.Session.Basic

/-!
# The debugger at the terminal

A console shows the output of a program until the program halts, then a piece of its source and the
prompt.  Lines typed at the prompt look at the program or let it go on.  While the program runs
only halting it and quitting are heeded.

A console is a machine between two waits: `Console.proceed` follows the program as far as it goes
by itself, and `Console.typed` takes one line, or the end of the input.  Both tell what is printed
meanwhile.
-/

namespace Stepwise

namespace Console

/-- What a console waits for. -/
inductive Mode where
  /-- The program runs. -/
  | running
  /-- The program is halted, and a command is awaited. -/
  | prompting
  /-- Nothing: the session is over. -/
  | ended
  deriving DecidableEq, Repr

/-- Why a program stopped going on by itself. -/
inductive Stop where
  | paused (line : Nat)
  | finished
  /-- It still runs, and nothing can be seen of it. -/
  | pending
  deriving DecidableEq, Repr

/-- The prompt. -/
def promptText : Text := "(cppstep) "

/-- How many lines are shown on either side of the current one. -/
def listingContext : Nat := 2

end Console

/-- The debugger at a terminal. -/
structure Console where
  /-- The source of the program. -/
  source : Text
  /-- The session that runs it. -/
  session : Session
  /-- What the console waits for. -/
  mode : Console.Mode := .running
  /-- Whether the first halt is passed over, unless a breakpoint is there. -/
  skipsFirst : Bool := false

namespace Console

/-! ## 1. Following the program -/

/-- Prints the output of the program up to its next halt. -/
def follow (s : Session) : Text × Stop × Session :=
  match _h : s.next with
  | (.event e, s') =>
    match e with
    | .paused line => ([], .paused line, s')
    | .finished => ([], .finished, s')
    | .output text =>
      match follow s' with
      | (more, stop, last) => (text ++ more, stop, last)
    | _ => follow s'
  | (.ended, s') => ([], .finished, s')
  | (.pending, s') => ([], .pending, s')
termination_by (s.outstanding, s.queue.length)
decreasing_by
  all_goals
    rcases Session.next_event _h with h | h
    · exact .left _ _ h
    · exact h.1 ▸ .right _ h.2

/-- The source around the current line. -/
def listing (c : Console) (current : Option Nat) : Text :=
  listingPage c.source current c.session.breakpoints listingContext

/-- What is printed at the end of the program. -/
def farewell (s : Session) : Text :=
  "\nprogram finished\n" ++ if s.tests.isEmpty then [] else testsPage s.tests

/-- Shows why the program stopped. -/
def arrive (c : Console) : Stop → Console × Text
  | .paused line =>
    ({ c with mode := .prompting, skipsFirst := false }, c.listing (some line) ++ promptText)
  | .finished => ({ c with mode := .ended }, farewell c.session)
  | .pending => (c, [])

/-- Follows the program as far as it goes by itself. -/
def proceed (c : Console) : Console × Text :=
  match follow c.session.settle with
  | (text, stop, session) =>
    let c := { c with session }
    let passes := match stop with
      | .paused line => c.skipsFirst && !session.breakpoints.hits line
      | _ => false
    if passes then
      match follow session.resume.settle with
      | (more, stop, session) =>
        match arrive { c with session, skipsFirst := false } stop with
        | (c, last) => (c, text ++ more ++ last)
    else
      match c.arrive stop with
      | (c, last) => (c, text ++ last)

/-! ## 2. Typed lines -/

/-- Gives up the program. -/
def quit (c : Console) : Console := { c with session := c.session.stop, mode := .ended }

/-- Turns round the breakpoint of one line and tells what came of it. -/
def toggleLine (s : Session) (line : Nat) : Session × Text :=
  let s := s.toggleBreakpoint line
  let place := "at line " ++ Text.ofNat line
  let reachable := s.breakableLines?.all (·.hits line)
  let told :=
    if ¬ s.breakpoints.hits line then "breakpoint cleared " ++ place
    else if reachable then "breakpoint set " ++ place
    else "breakpoint set " ++ place ++ " (no step on that line)"
  (s, told ++ ['\n'])

/-- Turns round the breakpoints of several lines. -/
def toggleLines (s : Session) : List Nat → Session × Text
  | [] => (s, [])
  | line :: lines =>
    match toggleLine s line with
    | (s, text) =>
      match toggleLines s lines with
      | (s, more) => (s, text ++ more)

/-- What a view of the last snapshot shows. -/
def viewText (s : Session) (view : Snapshot → Text) : Text :=
  match s.snapshot with
  | some snapshot => view snapshot
  | none => "no state yet\n"

/-- A command given at the prompt that lets the program stand. -/
def look (c : Console) (request : Request) : Console × Text :=
  match request with
  | .toggle lines =>
    if lines.lines.isEmpty then
      (c, "breakpoints: " ++ c.session.breakpoints.text ++ ['\n'])
    else
      match toggleLines c.session lines.lines with
      | (session, text) => ({ c with session }, text)
  | .vars => (c, viewText c.session fun s => variablesPage s.graph)
  | .stack => (c, viewText c.session fun s => stackPage s.stack)
  | .listing => (c, c.listing c.session.currentLine)
  | .json => (c, (Json.ofOption Snapshot.toJson c.session.snapshot).pretty ++ ['\n'])
  | .help => (c, helpText ++ ['\n'])
  | _ => (c, "already paused\n")

/-- A line typed at the prompt. -/
def typedAtPrompt (c : Console) (line : Text) : Console × Text :=
  match Request.parse line with
  | .error e => (c, e.message ++ "\n" ++ promptText)
  | .ok .step => ({ c with session := c.session.step, mode := .running }, [])
  | .ok .run => ({ c with session := c.session.resume, mode := .running }, [])
  | .ok .quit => (c.quit, [])
  | .ok request =>
    match c.look request with
    | (c, text) => (c, text ++ promptText)

/-- A line typed while the program runs. -/
def typedWhileRunning (c : Console) (line : Text) : Console × Text :=
  match Request.parse line with
  | .error e => (c, e.message ++ ['\n'])
  | .ok .pause => ({ c with session := c.session.pause }, [])
  | .ok .quit => (c.quit, [])
  | .ok _ => (c, "program is running, `pause` to stop it\n")

/-- A typed line, or the end of the input. -/
def typed (c : Console) (line? : Option Text) : Console × Text :=
  match c.mode, line? with
  | .ended, _ => (c, [])
  | _, none => (c.quit, [])
  | .prompting, some line => c.typedAtPrompt line
  | .running, some line => c.typedWhileRunning line

/-! ## 3. Opening -/

/-- Starts a program under the debugger. -/
def start (coordinator : Coordinator) (source : Text) (root : Syntax.Node)
    (breakpoints : LineSet) (skipsFirst : Bool) : Console where
  source
  session := Session.start { coordinator := coordinator.setBreakpoints breakpoints } source root
  skipsFirst

end Console

end Stepwise
