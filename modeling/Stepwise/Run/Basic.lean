import Stepwise.Run.Message
import Stepwise.Run.Register
import Stepwise.Run.Script

/-!
# Runs

One run of a program: a worker compiles it, lets it act, and sends events to the host.  Host and
worker share the register, and either may act between any two accesses of the other.  So the worker
is a machine whose steps are single accesses: each reads or writes the register once, or the phase,
or the breakpoints, or sends one event.  A host command is one step as well, because it is carried
out under the lock of the register, and it is enabled unless the worker holds that lock.

Main definitions:

* `Run.step?`: the next access of the worker, if it can move (`run_worker`; `WorkerContext`, `emit`
  and `fail`; `WorkerHost`, `write_output`);
* `Run.stepWait?`: its next access at a step (`WorkerHost`, `wait`);
* `Run.step`, `Run.resume`, `Run.pause`, `Run.terminate`: the commands of the host
  (`ControlRegister`, `step`, `run`, `pause`, `terminate`, each under the lock that `store` takes);
* `Run.isLocked`: whether the host has to wait with its command.
-/

namespace Stepwise

/-! ## 1. Where a worker stands -/

/-- Where a worker stands while its program announces a line. -/
inductive WaitPoint where
  /-- Before it looks whether the run is given up. -/
  | enter
  /-- Before it reads the signal. -/
  | observe
  /-- It read `running`, and looks for a breakpoint next. -/
  | filter
  /-- It read `step`, and uses it up next. -/
  | consume
  /-- Before it takes the signal back to `paused`, if it is still the one that was seen. -/
  | halt (seen : Signal)
  /-- Before it makes known that the program is blocked. -/
  | mark
  /-- Before it sends the event. -/
  | announce
  /-- Before it takes the lock. -/
  | lock
  /-- It holds the lock, and reads the signal next. -/
  | look
  /-- It holds the lock and read `paused`, and looks whether the run is given up next. -/
  | lookFlag
  /-- It sleeps without the lock; `woken` once the host has notified it. -/
  | asleep (woken : Bool)
  /-- It holds the lock, and gives it back when it has looked whether the run is given up. -/
  | leave
  /-- Before it uses up a step. -/
  | drain
  /-- Before it makes known that the program goes on. -/
  | unmark
  deriving DecidableEq, Repr

/-- Whether the worker holds the lock there. -/
def WaitPoint.holdsLock : WaitPoint → Bool
  | look | lookFlag | leave => true
  | _ => false

/-- Where a worker stands in its run. -/
inductive Stage where
  /-- Nothing is done yet. -/
  | fresh (job : Job)
  /-- The toolchain works; `gated` while it stands at a gate. -/
  | compiling (job : Job) (gated : Bool)
  /-- The program is compiled, and it looks next whether the run is given up. -/
  | loaded (script : Script)
  /-- Before it makes known that the program runs. -/
  | launching (script : Script)
  /-- Before it sends that the program is compiled. -/
  | greeting (script : Script)
  /-- Before the next act of the program. -/
  | running (script : Script)
  /-- Before it sends a text that the program printed. -/
  | printing (text : Text) (script : Script)
  /-- The program announces a line; `script` is what it does afterwards. -/
  | waiting (line : Nat) (point : WaitPoint) (script : Script)
  /-- The program came to its end. -/
  | ended (outcome : Outcome)
  /-- Before it makes known that the run failed. -/
  | failing (fault : Fault)
  /-- Before it sends the fault. -/
  | complaining (fault : Fault)
  /-- Before it sends the last event. -/
  | closing
  /-- The worker is gone. -/
  | done
  deriving DecidableEq, Repr

/-! ## 2. A run and its worker -/

/-- A run. -/
structure Run where
  /-- The register that host and worker share. -/
  register : Register := {}
  /-- What the host sees of the run. -/
  phase : RunPhase := .compiling
  /-- Where the worker stands. -/
  stage : Stage
  /-- All events it has sent, in order. -/
  sent : List Event := []
  /-- How many of them the host has received. -/
  received : Nat := 0
  deriving DecidableEq, Repr

namespace Run

/-- A new run of a program. -/
def ofJob (job : Job) : Run := { stage := .fresh job }

/-- The run with an event sent. -/
def send (r : Run) (e : Event) : Run := { r with sent := r.sent ++ [e] }

/-- The run with the worker at another stage. -/
def goto (r : Run) (stage : Stage) : Run := { r with stage }

/-- The prefix of the line by which a fault is told. -/
def faultMark : Text := "[Worker Error]"

/-- The output by which a fault is told. -/
def faultText (f : Fault) : Text := "\n" ++ faultMark ++ " " ++ f.message ++ "\n"

/-- The reason given where programs cannot be held at a step. -/
def cannotSuspend : Text := "the program runner cannot suspend execution at a step"

/-- The next access of a worker whose program announces a line. -/
def stepWait? (breakpoints : LineSet) (r : Run) (line : Nat) (script : Script) :
    WaitPoint → Option Run
  | .enter =>
    some (if r.register.terminated then r.goto (.ended .terminated)
      else r.goto (.waiting line .observe script))
  | .observe =>
    some (r.goto (.waiting line
      (match r.register.signal with
        | .running => .filter
        | .step => .consume
        | .paused => .halt .paused) script))
  | .filter =>
    some (if breakpoints.hits line then r.goto (.waiting line (.halt .running) script)
      else r.goto (.running script))
  | .consume =>
    some (match r.register.consumeStep? with
      | some register => { r with register, stage := .running script }
      | none => r.goto (.waiting line .observe script))
  | .halt seen =>
    some (match r.register.pauseFrom? seen with
      | some register => { r with register, stage := .waiting line .mark script }
      | none => r.goto (.waiting line .observe script))
  | .mark => some { r with phase := .running true, stage := .waiting line .announce script }
  | .announce => some ((r.send (.paused line)).goto (.waiting line .lock script))
  | .lock => some (r.goto (.waiting line .look script))
  | .look =>
    some (r.goto (.waiting line (if r.register.signal = .paused then .lookFlag else .leave) script))
  | .lookFlag =>
    some (r.goto (.waiting line (if r.register.terminated then .leave else .asleep false) script))
  | .asleep false => none
  | .asleep true => some (r.goto (.waiting line .look script))
  | .leave =>
    some (if r.register.terminated then r.goto (.ended .terminated)
      else r.goto (.waiting line .drain script))
  | .drain =>
    some { r with
      register := r.register.consumeStep?.getD r.register
      stage := .waiting line .unmark script }
  | .unmark => some { r with phase := .running false, stage := .running script }

/-- The next access of the worker; nothing if it sleeps, stands at a gate or is gone. -/
def step? (env : Environment) (breakpoints : LineSet) (r : Run) : Option Run :=
  match r.stage with
  | .fresh job =>
    some (if env.canSuspend then
        { r with phase := .compiling, stage := .compiling job env.compileGate }
      else r.goto (.failing (.unsupported cannotSuspend)))
  | .compiling _ true => none
  | .compiling job false =>
    some (match env.compile job with
      | .ok m => r.goto (.loaded (env.script m))
      | .error e => r.goto (.failing e.fault))
  | .loaded script =>
    some (if r.register.terminated then r.goto .done else r.goto (.launching script))
  | .launching script => some { r with phase := .running false, stage := .greeting script }
  | .greeting script => some ((r.send .compiled).goto (.running script))
  | .running ⟨[], outcome⟩ => some (r.goto (.ended outcome))
  | .running ⟨.print text :: acts, outcome⟩ =>
    some (if text.isEmpty ∨ r.register.terminated then r.goto (.running ⟨acts, outcome⟩)
      else r.goto (.printing text ⟨acts, outcome⟩))
  | .running ⟨.wait line :: acts, outcome⟩ =>
    some (r.goto (.waiting line .enter ⟨acts, outcome⟩))
  | .running ⟨.gate :: _, _⟩ => none
  | .printing text script => some ((r.send (.log text)).goto (.running script))
  | .waiting line point script => r.stepWait? breakpoints line script point
  | .ended .exited => some { r with phase := .finished, stage := .closing }
  | .ended (.trapped reason) => some (r.goto (.failing (.trap reason)))
  | .ended (.unsupported reason) => some (r.goto (.failing (.unsupported reason)))
  | .ended .terminated => some (r.goto .done)
  | .failing fault => some { r with phase := .failed, stage := .complaining fault }
  | .complaining fault => some ((r.send (.log (faultText fault))).goto .closing)
  | .closing => some ((r.send .finished).goto .done)
  | .done => none

/-! ## 3. The host -/

/-- Wakes the worker if it sleeps. -/
def notify (r : Run) : Run :=
  match r.stage with
  | .waiting line (.asleep _) script => r.goto (.waiting line (.asleep true) script)
  | _ => r

/-- Lets the program pass one step. -/
def step (r : Run) : Run := notify { r with register := r.register.step }

/-- Lets the program go on to the next breakpoint. -/
def resume (r : Run) : Run := notify { r with register := r.register.run }

/-- Halts the program at its next step. -/
def pause (r : Run) : Run := { r with register := r.register.pause }

/-- Gives up the run. -/
def terminate (r : Run) : Run := notify { r with register := r.register.terminate }

@[simp] theorem register_notify (r : Run) : r.notify.register = r.register := by
  unfold notify
  split <;> rfl

theorem terminated_terminate (r : Run) : r.terminate.register.terminated := by
  simp [terminate, Register.terminate]

/-- Whether the worker holds the lock, so that the host has to wait for it. -/
def isLocked (r : Run) : Bool :=
  match r.stage with
  | .waiting _ point _ => point.holdsLock
  | _ => false

/-- Whether the worker stands at a gate. -/
def atGate (r : Run) : Bool :=
  match r.stage with
  | .compiling _ true | .running ⟨.gate :: _, _⟩ => true
  | _ => false

/-- Lets the worker on if it stands at a gate. -/
def release (r : Run) : Run :=
  match r.stage with
  | .compiling job true => r.goto (.compiling job false)
  | .running ⟨.gate :: acts, outcome⟩ => r.goto (.running ⟨acts, outcome⟩)
  | _ => r

/-- The next event that the host has not received. -/
def next? (r : Run) : Option Event := r.sent[r.received]?

/-- The events that the host has not received. -/
def unread (r : Run) : List Event := r.sent.drop r.received

/-- The run with all events received. -/
def receiveAll (r : Run) : Run := { r with received := r.sent.length }

/-- Whether no event can follow any more. -/
def isClosed (r : Run) : Bool := r.stage = .done && r.sent.length ≤ r.received

end Run

end Stepwise
