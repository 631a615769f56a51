import Stepwise.Json.Basic
import Stepwise.Text.Basic

/-!
# What a run shares with its host

The host sees the phase of a run without reading its events, and it steers the run by a register.

Host and program share one register.  The host writes a signal into it; the program reads the
signal at every step, and takes it back to `paused` when it uses up a step or halts.  Besides the
signal the register holds a flag that gives up the run for good.

Every function here is one indivisible access.  Taking back is conditional on the signal that the
program read before, so a newer signal of the host is never lost
(`pauseFrom?_eq_none_iff`).

Main definitions, each with the function of `ControlRegister` that it stands for:

* `Register.step`, `Register.run`, `Register.pause`, `Register.terminate`: what the host writes
  (`step`, `run`, `pause`, `terminate`);
* `Register.pauseFrom?`, `Register.consumeStep?`: what the program takes back (`pause_from`,
  `consume_step`);
* `Register.release?`: whether a program that sleeps is let on (`block_while_paused`).
-/

/-!
## 1. The phase of a run

What the host can see of a run without reading its events.
-/

namespace Stepwise

/-- How far a run has come. -/
inductive RunPhase where
  /-- There is no run. -/
  | idle
  /-- The toolchain is at work. -/
  | compiling
  /-- The program runs, or is blocked at a step. -/
  | running (blocked : Bool)
  /-- The program came to its end. -/
  | finished
  /-- The program was not compiled, or broke down. -/
  | failed
  deriving DecidableEq, Repr

namespace RunPhase

/-- Whether nothing more can happen in the run. -/
def isOver : RunPhase → Bool
  | finished | failed => true
  | _ => false

/-- The name of a phase. -/
def name : RunPhase → Text
  | idle => "idle"
  | compiling => "compiling"
  | running _ => "running"
  | finished => "finished"
  | failed => "failed"

/-- A phase as an object tagged by its name. -/
def toJson (p : RunPhase) : Json :=
  .object (("phase".toList, .string p.name) :: match p with
    | running blocked => [("blocked".toList, .bool blocked)]
    | _ => [])

end RunPhase

/-! ## 2. The register -/

/-- What the host last asked of the program. -/
inductive Signal where
  /-- Halt at the next step. -/
  | paused
  /-- Pass one step. -/
  | step
  /-- Pass every step without a breakpoint. -/
  | running
  deriving DecidableEq, Repr

/-- The name of a signal. -/
def Signal.name : Signal → Text
  | .paused => "Paused"
  | .step => "Step"
  | .running => "Running"

/-- The register of one run. -/
structure Register where
  /-- The current signal. -/
  signal : Signal := .paused
  /-- Whether the run is given up. -/
  terminated : Bool := false
  deriving DecidableEq, Repr

namespace Register

/-! ## 3. The host -/

/-- Lets the program pass one step. -/
def step (r : Register) : Register := { r with signal := .step }

/-- Lets the program go on to the next breakpoint. -/
def run (r : Register) : Register := { r with signal := .running }

/-- Halts the program at its next step. -/
def pause (r : Register) : Register := { r with signal := .paused }

/-- Gives up the run. -/
def terminate (r : Register) : Register := { r with terminated := true }

/-! ## 4. The program -/

/-- Takes the signal back to `paused` if it is still the one that was seen. -/
def pauseFrom? (r : Register) (seen : Signal) : Option Register :=
  if r.signal = seen then some r.pause else none

/-- Uses up a step if one was asked for. -/
def consumeStep? (r : Register) : Option Register := r.pauseFrom? .step

/-- How a halted program goes on: whether it may run on, or `none` as long as it has to wait. -/
def release? (r : Register) : Option Bool :=
  if r.signal = .paused ∧ ¬ r.terminated then none else some (!r.terminated)

/-- A signal is taken back only if it is the one that was seen. -/
theorem pauseFrom?_eq_none_iff {r : Register} {seen : Signal} :
    r.pauseFrom? seen = none ↔ r.signal ≠ seen := by
  simp [pauseFrom?]

theorem eq_pause_of_pauseFrom? {r s : Register} {seen : Signal} (h : r.pauseFrom? seen = some s) :
    s = { r with signal := .paused } := by
  simp only [pauseFrom?, Option.ite_none_right_eq_some, Option.some.injEq] at h
  exact h.2.symm

/-- A step is used up exactly once. -/
theorem consumeStep?_pause (r : Register) : r.pause.consumeStep? = none := by
  simp [consumeStep?, pauseFrom?, pause]

/-- A program waits exactly as long as the register reads `paused` and the run is not given up. -/
theorem release?_eq_none_iff {r : Register} :
    r.release? = none ↔ r.signal = .paused ∧ r.terminated = false := by
  simp [release?]

end Register

end Stepwise
