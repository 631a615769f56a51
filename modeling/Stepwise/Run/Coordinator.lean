import Stepwise.Run.Settle

/-!
# The coordinator

A coordinator has at most one live run.  Starting a program gives up the run before it; only the
breakpoints are handed on.  A run that was given up stays with the coordinator until the next one
starts, because its worker may still be on its way, but commands do not reach it any more and its
phase cannot be seen.

Main definitions, each named as the function of `Coordinator` that it stands for:
`Coordinator.start`, `Coordinator.step`, `Coordinator.resume`, `Coordinator.pause`,
`Coordinator.stop`, `Coordinator.phase` and `Coordinator.handle`; `Coordinator.setBreakpoints` is
`update_breakpoints`.
-/

namespace Stepwise

/-- What starts runs and controls the live one. -/
structure Coordinator where
  /-- What its runs are made with. -/
  environment : Environment
  /-- Further flags for the compiler. -/
  flags : List Text := []
  /-- The lines at which running programs stop. -/
  breakpoints : LineSet := .empty
  /-- The last run; it is given up if its register says so. -/
  run : Option Run := none

namespace Coordinator

/-! ## 1. Looking -/

/-- The run that commands reach. -/
def live? (c : Coordinator) : Option Run := c.run.filter fun r => !r.register.terminated

/-- The phase of the live run. -/
def phase (c : Coordinator) : RunPhase :=
  match c.live? with
  | none => .idle
  | some r => r.phase

/-- Whether the worker of the last run stands at a gate. -/
def atGate (c : Coordinator) : Bool := c.run.any Run.atGate

/-- The events of the last run that have not been received. -/
def unread (c : Coordinator) : List Event := (c.run.map Run.unread).getD []

/-- Whether no event of the last run can follow. -/
def isClosed (c : Coordinator) : Bool := c.run.all Run.isClosed

/-! ## 2. Commands -/

/-- Does something to the live run. -/
def onLive (c : Coordinator) (f : Run → Run) : Coordinator :=
  { c with run := c.run.map fun r => if r.register.terminated then r else f r }

/-- Lets the program pass one step. -/
def step (c : Coordinator) : Coordinator := c.onLive Run.step

/-- Lets the program go on to the next breakpoint. -/
def resume (c : Coordinator) : Coordinator := c.onLive Run.resume

/-- Halts the program at its next step. -/
def pause (c : Coordinator) : Coordinator := c.onLive Run.pause

/-- Gives up the run. -/
def stop (c : Coordinator) : Coordinator := c.onLive Run.terminate

/-- Replaces the breakpoints. -/
def setBreakpoints (c : Coordinator) (lines : LineSet) : Coordinator :=
  { c with breakpoints := lines }

/-- Gives up the run and starts a program. -/
def start (c : Coordinator) (source : Text) : Coordinator :=
  { c.stop with run := some (Run.ofJob { source, flags := c.flags }) }

/-- Carries out a command. -/
def handle (c : Coordinator) : Command → Coordinator
  | .compile code => c.start code
  | .step => c.step
  | .run => c.resume
  | .pause => c.pause
  | .updateBreakpoints lines => c.setBreakpoints (.ofList lines)
  | .terminate => c.stop

/-! ## 3. The worker -/

/-- Waits until the worker of the last run has come to rest. -/
def settle (c : Coordinator) : Coordinator :=
  { c with run := c.run.map (Run.settle c.environment c.breakpoints) }

/-- Lets the worker of the last run on if it stands at a gate. -/
def release (c : Coordinator) : Coordinator := { c with run := c.run.map Run.release }

/-- Receives all events of the last run. -/
def receiveAll (c : Coordinator) : Coordinator := { c with run := c.run.map Run.receiveAll }

/-- What the last run would still report if it were given up and let through all its gates. -/
def leftover? (c : Coordinator) : Option (List Event) :=
  c.stop.run.map fun r => (r.drain c.environment c.breakpoints).unread

/-! ## 4. Stopping -/

theorem terminated_of_mem_stop {c : Coordinator} {r : Run} (h : r ∈ c.stop.run) :
    r.register.terminated := by
  simp only [stop, onLive, Option.mem_def, Option.map_eq_some_iff] at h
  obtain ⟨q, _, rfl⟩ := h
  split
  · assumption
  · exact q.terminated_terminate

theorem live?_stop (c : Coordinator) : c.stop.live? = none := by
  simp only [live?, Option.filter_eq_none_iff]
  intro r h
  simp [terminated_of_mem_stop h]

theorem phase_stop (c : Coordinator) : c.stop.phase = .idle := by
  simp [phase, live?_stop]

/-- Commands do not reach a run that was given up. -/
theorem onLive_stop (c : Coordinator) (f : Run → Run) : c.stop.onLive f = c.stop := by
  have h : c.stop.run.map (fun r => if r.register.terminated then r else f r) = c.stop.run := by
    cases hr : c.stop.run with
    | none => rfl
    | some r => simp [terminated_of_mem_stop (c := c) (r := r) (by simp [hr])]
  rw [onLive, h]

end Coordinator

end Stepwise
