import Stepwise.Breakpoints
import Stepwise.Json.Decode

/-!
# Messages between host and run

The host sends commands to a run (`HostCommand`) and observes it by the events it sends back, in
order (`WorkerEvent`).  Both are written as JSON objects tagged by their type.
-/

namespace Stepwise

/-- What the host asks for. -/
inductive Command where
  /-- Compile and start a program in place of the one that runs. -/
  | compile (code : Text)
  /-- Go on to the next step. -/
  | step
  /-- Go on to the next breakpoint. -/
  | run
  /-- Stop at the next step. -/
  | pause
  /-- Replace the breakpoints. -/
  | updateBreakpoints (lines : List Nat)
  /-- Give up the run. -/
  | terminate
  deriving DecidableEq, Repr

/-- What a run reports. -/
inductive Event where
  /-- Output of the program, or a diagnostic. -/
  | log (text : Text)
  /-- The program is compiled and about to start. -/
  | compiled
  /-- The program is blocked at a step. -/
  | paused (line : Nat)
  /-- The run is over. -/
  | finished
  deriving DecidableEq, Repr

/-- Whether no event can follow. -/
def Event.isTerminal : Event → Bool
  | .finished => true
  | _ => false

/-- A tag out of a message, and the fields called `names` behind it.  In the array form the tag
comes first and the fields follow. -/
def messageFields? (tag : Text) (names : List Text) : Json → Option (List Json)
  | .object ms =>
    match Json.valuesOf "type" ms with
    | [.string t] =>
      if t = tag then names.mapM fun name =>
        match Json.valuesOf name ms with
        | [x] => some x
        | _ => none
      else none
    | _ => none
  | .array (.string t :: xs) =>
    if t = tag ∧ xs.length = names.length then some xs else none
  | _ => none

/-- A message as an object. -/
def message (tag : Text) (fields : List (Text × Json)) : Json :=
  .object (("type".toList, .string tag) :: fields)

namespace Command

/-- The type of a command. -/
def tag : Command → Text
  | compile _ => "compile"
  | step => "step"
  | run => "run"
  | pause => "pause"
  | updateBreakpoints _ => "update-breakpoints"
  | terminate => "terminate"

/-- A command as a message. -/
def toJson (c : Command) : Json :=
  message c.tag <| match c with
    | compile code => [("code".toList, .string code)]
    | updateBreakpoints lines => [("lines".toList, Json.ofList Json.ofNat lines)]
    | _ => []

/-- The command without fields that a message gives. -/
def ofBareJson? (x : Json) : Option Command :=
  [step, run, pause, terminate].find? fun c => (messageFields? c.tag [] x).isSome

/-- The command that a message gives. -/
def ofJson? (x : Json) : Option Command :=
  match messageFields? "compile" ["code"] x with
  | some [.string code] => some (compile code)
  | _ =>
    match messageFields? "update-breakpoints" ["lines"] x with
    | some [lines] => (lines.list? (Json.nat? LineSet.lineBound)).map updateBreakpoints
    | _ => ofBareJson? x

end Command

namespace Event

/-- An event as a message. -/
def toJson : Event → Json
  | log text => message "log" [("text".toList, .string text)]
  | compiled => message "compiled" []
  | paused line => message "debug-paused" [("line".toList, Json.ofNat line)]
  | finished => message "finished" []

/-- The event that a message gives. -/
def ofJson? (x : Json) : Option Event :=
  match messageFields? "log" ["text"] x with
  | some [.string text] => some (log text)
  | _ =>
    match messageFields? "debug-paused" ["line"] x with
    | some [line] => (line.nat? LineSet.lineBound).map paused
    | _ =>
      if (messageFields? "compiled" [] x).isSome then some compiled
      else if (messageFields? "finished" [] x).isSome then some finished
      else none

end Event

end Stepwise
