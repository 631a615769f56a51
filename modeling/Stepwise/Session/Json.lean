import Stepwise.Graph.Json
import Stepwise.Record.Json
import Stepwise.Session.Basic

/-!
# Session events as JSON

An event is an object tagged by its type, with what it carries as data.
-/

namespace Stepwise.SessionEvent

/-- The type of an event. -/
def tag : SessionEvent → Text
  | compiled => "compiled"
  | output _ => "output"
  | snapshot _ => "snapshot"
  | paused _ => "paused"
  | test _ => "test"
  | finished => "finished"

/-- What an event carries. -/
def data? : SessionEvent → Option Json
  | compiled | finished => none
  | output text => some (.string text)
  | snapshot s => some s.toJson
  | paused line => some (.object [("line".toList, Json.ofNat line)])
  | test outcome => some outcome.toJson

/-- An event as an object. -/
def toJson (e : SessionEvent) : Json :=
  message e.tag (e.data?.map fun x => ("data".toList, x)).toList

end Stepwise.SessionEvent
