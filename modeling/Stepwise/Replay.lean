import Stepwise.Demux.Basic
import Stepwise.Graph.Build

/-!
# Replaying a log

A snapshot is the state of a program at one dump.  Dumps arrive as two blocks, and a `Tracker` pairs
them: the variables wait for the stack that follows (`Tracker.absorb`; `absorb_output`).  Replaying
(`Replay.ofLog`; `replay`) reads a whole log line by line, so that no dump of it is missed, and
keeps the last snapshot.
-/

namespace Stepwise

/-- The state of a program at one dump. -/
structure Snapshot where
  /-- Variables, heap and pointers. -/
  graph : ObjectGraph := {}
  /-- The labels of the stack frames, outermost first. -/
  stack : List Text := []
  deriving DecidableEq, Repr

/-- The variables of a dump whose stack has not arrived. -/
structure Tracker where
  /-- The waiting variables. -/
  waiting : Option (List Record) := none
  deriving DecidableEq, Repr

namespace Tracker

/-- Takes the blocks out of a piece of the stream, and the snapshot if one is complete. -/
def absorb (t : Tracker) (out : Output) : Tracker × Option Snapshot :=
  let waiting := out.records <|> t.waiting
  match out.stack with
  | none => ({ waiting }, none)
  | some stack =>
    ({ waiting := none }, some { graph := ObjectGraph.ofRecords (waiting.getD []), stack })

end Tracker

/-- What is recovered from a log. -/
structure Replay where
  /-- The program's own output. -/
  output : Text := []
  /-- The last snapshot. -/
  snapshot : Option Snapshot := none
  /-- All tests reported. -/
  tests : List TestOutcome := []
  /-- The number of snapshots. -/
  dumps : Nat := 0
  deriving DecidableEq, Repr

namespace Replay

/-- Adds a piece of the stream. -/
def add (r : Replay) (t : Tracker) (out : Output) : Replay × Tracker :=
  match t.absorb out with
  | (t, snapshot?) =>
    ({ output := r.output ++ out.text
       snapshot := snapshot? <|> r.snapshot
       tests := r.tests ++ out.tests
       dumps := if snapshot?.isSome then r.dumps + 1 else r.dumps }, t)

/-- Adds the pieces of a log, one by one, and its end. -/
def go (r : Replay) (t : Tracker) (d : Demux) : List Text → Replay
  | [] => (r.add t d.flush.2).1
  | chunk :: chunks =>
    match d.feed chunk with
    | (d, out) =>
      match r.add t out with
      | (r, t) => go r t d chunks

/-- The lines of a log with their newlines; the last one may have none. -/
def chunksOf (log : Text) : List Text :=
  match Text.breakLines log with
  | (lines, rest) => lines.map (· ++ ['\n']) ++ (if rest.isEmpty then [] else [rest])

/-- Replays a whole log. -/
def ofLog (log : Text) : Replay := go {} {} {} (chunksOf log)

end Replay

end Stepwise
