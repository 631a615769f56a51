import Stepwise.Instrument.Program
import Stepwise.Replay
import Stepwise.Run.Coordinator

/-!
# Debug sessions

A session instruments a program, runs it, and turns what its run reports into what the user sees:
output without dumps, snapshots, test results and pauses.  One event of the run may yield several
events of the session, which wait in a queue.

Main definitions:

* `Session.start`, `Session.stop`: a run begins and is given up (`DebugSession`, `start`, `reset`
  and `stop`);
* `Session.absorb`: what one event of the run does (`absorb`, and `absorb_output` for what the
  stream holds);
* `Session.next`: the next event for the user, if there is one yet (`next_event`);
* `Session.collect`: all events for the user that are there.
-/

namespace Stepwise

/-- What a session reports. -/
inductive SessionEvent where
  /-- The program is compiled and about to start. -/
  | compiled
  /-- Output of the program without dumps. -/
  | output (text : Text)
  /-- The state of the program was dumped. -/
  | snapshot (snapshot : Snapshot)
  /-- The program is blocked at a step. -/
  | paused (line : Nat)
  /-- A test was made. -/
  | test (outcome : TestOutcome)
  /-- The run is over. -/
  | finished
  deriving DecidableEq, Repr

/-- A session, which drives one program at a time. -/
structure Session where
  /-- What runs the program. -/
  coordinator : Coordinator
  /-- Whether the events of the run are still listened to. -/
  listening : Bool := false
  /-- The stream of the program between two chunks. -/
  demux : Demux := {}
  /-- The events that have not been delivered. -/
  queue : List SessionEvent := []
  /-- The program, if it could be instrumented. -/
  instrumented : Option Instrumented := none
  /-- The variables of a dump whose stack has not arrived. -/
  tracker : Tracker := {}
  /-- The last snapshot. -/
  snapshot : Option Snapshot := none
  /-- The line at which the program is blocked. -/
  currentLine : Option Nat := none
  /-- The tests of the run so far. -/
  tests : List TestOutcome := []

namespace Session

/-! ## 1. Events of the run -/

/-- The session with an event queued. -/
def enqueue (s : Session) (e : SessionEvent) : Session := { s with queue := s.queue ++ [e] }

/-- A piece of the stream: its output, its tests, and its snapshot are queued in this order. -/
def absorbOutput (s : Session) (out : Output) : Session :=
  match s.tracker.absorb out with
  | (tracker, snapshot?) =>
    { s with
      queue := s.queue
        ++ (if out.text.isEmpty then [] else [.output out.text])
        ++ out.tests.map .test
        ++ (snapshot?.map SessionEvent.snapshot).toList
      tests := s.tests ++ out.tests
      tracker
      snapshot := snapshot? <|> s.snapshot }

/-- The end of the stream. -/
def flush (s : Session) : Session :=
  match s.demux.flush with
  | (demux, out) => absorbOutput { s with demux } out

/-- One event of the run. -/
def absorb (s : Session) : Event → Session
  | .log text =>
    match s.demux.feed text with
    | (demux, out) => absorbOutput { s with demux } out
  | .compiled => s.enqueue .compiled
  | .paused line => enqueue { s with currentLine := some line } (.paused line)
  | .finished => enqueue { s.flush with currentLine := none } .finished

/-- The next event of the run, if there is one that is listened to. -/
def heard? (s : Session) : Option Event :=
  if s.listening then s.coordinator.run.bind Run.next? else none

/-- The session with the next event of the run received. -/
def hear (s : Session) (e : Event) : Session :=
  absorb { s with coordinator := { s.coordinator with
    run := s.coordinator.run.map fun r => { r with received := r.received + 1 } } } e

/-- The session once the events of its run have come to their end. -/
def endOfEvents (s : Session) : Session := flush { s with listening := false }

/-! ## 2. Commands -/

/-- Forgets the run and all that was learned from it; the breakpoints stay. -/
def reset (s : Session) : Session :=
  { s with
    coordinator := s.coordinator.stop
    listening := false
    demux := s.demux.reset
    queue := []
    instrumented := none
    tracker := {}
    snapshot := none
    currentLine := none
    tests := [] }

/-- Starts a program in place of the one that runs.  A program that cannot be instrumented is run
as it is. -/
def start (s : Session) (source : Text) (root : Syntax.Node) : Session :=
  let s := s.reset
  match Instrumented.ofSource source root with
  | .ok i =>
    { s with
      instrumented := some i
      coordinator := s.coordinator.start i.source
      listening := true }
  | .error _ => { s with coordinator := s.coordinator.start source, listening := true }

/-- Lets the program pass one step. -/
def step (s : Session) : Session := { s with coordinator := s.coordinator.step }

/-- Lets the program go on to the next breakpoint. -/
def resume (s : Session) : Session := { s with coordinator := s.coordinator.resume }

/-- Halts the program at its next step. -/
def pause (s : Session) : Session := { s with coordinator := s.coordinator.pause }

/-- Gives up the run. -/
def stop (s : Session) : Session :=
  { s with coordinator := s.coordinator.stop, listening := false, currentLine := none }

/-- Replaces the breakpoints. -/
def setBreakpoints (s : Session) (lines : LineSet) : Session :=
  { s with coordinator := s.coordinator.setBreakpoints lines }

/-- The lines at which running programs stop. -/
def breakpoints (s : Session) : LineSet := s.coordinator.breakpoints

/-- Turns round whether there is a breakpoint on a line. -/
def toggleBreakpoint (s : Session) (line : Nat) : Session :=
  s.setBreakpoints (s.breakpoints.toggle line)

/-- The lines at which the program can stop, if it was instrumented. -/
def breakableLines? (s : Session) : Option LineSet := s.instrumented.map (·.breakableLines)

/-- The phase of the run. -/
def phase (s : Session) : RunPhase := s.coordinator.phase

/-- Whether the run that is listened to stands at a gate. -/
def atGate (s : Session) : Bool := s.listening && s.coordinator.atGate

/-- Waits until the worker has come to rest. -/
def settle (s : Session) : Session := { s with coordinator := s.coordinator.settle }

/-- Lets the worker on if it stands at a gate. -/
def release (s : Session) : Session := { s with coordinator := s.coordinator.release }

/-! ## 3. Events for the user -/

/-- What asking for an event gives. -/
inductive Delivery where
  | event (event : SessionEvent)
  /-- The run may still report something. -/
  | pending
  /-- There is no run, or it has nothing more to report. -/
  | ended
  deriving DecidableEq, Repr

/-- How much may still happen before a session is over: the events that have not been received, and
the end of the events. -/
def outstanding (s : Session) : Nat :=
  s.coordinator.unread.length + if s.listening then 1 else 0

theorem outstanding_absorbOutput (s : Session) (out : Output) :
    (s.absorbOutput out).outstanding = s.outstanding := rfl

theorem outstanding_absorb (s : Session) (e : Event) :
    (s.absorb e).outstanding = s.outstanding := by
  cases e <;> rfl

theorem outstanding_hear {s : Session} {e : Event} (h : s.heard? = some e) :
    (s.hear e).outstanding < s.outstanding := by
  simp only [heard?, Option.ite_none_right_eq_some, Option.bind_eq_some_iff] at h
  obtain ⟨_, r, hr, he⟩ := h
  have hlt : r.received < r.sent.length := (List.getElem?_eq_some_iff.1 he).1
  rw [hear, outstanding_absorb]
  simp only [outstanding, Coordinator.unread, hr, Option.map_some, Option.getD_some, Run.unread,
    List.length_drop]
  omega

theorem outstanding_endOfEvents {s : Session} (h : s.listening) :
    s.endOfEvents.outstanding < s.outstanding := by
  rw [endOfEvents, flush, outstanding_absorbOutput]
  simp [outstanding, h]

/-- The next event for the user. -/
def next (s : Session) : Delivery × Session :=
  match s.queue with
  | e :: queue => (.event e, { s with queue })
  | [] =>
    match _h : s.heard? with
    | some e => next (s.hear e)
    | none =>
      if _h : s.listening then
        if s.coordinator.isClosed then next s.endOfEvents else (.pending, s)
      else (.ended, s)
termination_by s.outstanding
decreasing_by
  · exact outstanding_hear _h
  · exact outstanding_endOfEvents _h

/-- Delivering an event leaves less to come: fewer of the run, or fewer in the queue. -/
theorem next_event {s s' : Session} {e : SessionEvent} (h : s.next = (.event e, s')) :
    s'.outstanding < s.outstanding ∨
      s'.outstanding = s.outstanding ∧ s'.queue.length < s.queue.length := by
  fun_induction next s with
  | case1 s e' queue hq =>
    obtain ⟨_, rfl⟩ := by simpa using h
    exact .inr ⟨rfl, by simp [hq]⟩
  | case2 s hq e' he ih =>
    have := outstanding_hear he
    rcases ih h with h | h <;> omega
  | case3 s hq hn hl hc ih =>
    have := outstanding_endOfEvents hl
    rcases ih h with h | h <;> omega
  | case4 => simp at h
  | case5 => simp at h

/-- All events for the user that are there. -/
def collect (s : Session) : List SessionEvent × Session :=
  match _h : s.next with
  | (.event e, s') =>
    match collect s' with
    | (events, last) => (e :: events, last)
  | (_, s') => ([], s')
termination_by (s.outstanding, s.queue.length)
decreasing_by
  rcases next_event _h with h | h
  · exact .left _ _ h
  · exact h.1 ▸ .right _ h.2

end Session

end Stepwise
