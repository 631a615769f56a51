import Stepwise.Run.Coordinator

/-!
# Host and worker side by side

Host and worker of a run move in any order.  A move of the worker is one access to what they share;
an order of the host is one move too, since the host carries it out under the lock of the register,
and it has to wait for the worker to give the lock back.  A sleeping worker may also wake up without
having been notified.

A history is the list of the turns that were taken.  What a worker can do in one move is said once,
by what it finds and what it does: inside a call that announces a line (`Run.Inside`) and elsewhere
(`Run.Outside`).  What a move of anybody else can do is `Run.Nudged`.  Every invariant of a run is
proved by cases on these three (`Interplay.moves_of_move?`).

Main definitions:

* `Interplay.move?`: one move of host or worker;
* `Interplay.Plays`: the histories, and what they lead to;
* `WaitCall`: the part of a history that belongs to one call that announces a line, with its
  induction over the turns of the call (`WaitCall.induction`).
-/

namespace Stepwise

/-! ## 1. Orders -/

/-- What the host orders under the lock of the register. -/
inductive Order where
  | step
  | run
  | pause
  | terminate
  deriving DecidableEq

namespace Order

/-- What an order writes into the register. -/
def write : Order → Register → Register
  | step => Register.step
  | run => Register.run
  | pause => Register.pause
  | terminate => Register.terminate

/-- Whether an order notifies a worker that sleeps; a pause does not. -/
def wakes : Order → Bool
  | pause => false
  | _ => true

theorem terminated_write {r : Register} (o : Order) (h : r.terminated) :
    (o.write r).terminated := by
  cases o <;> first | exact h | rfl

end Order

namespace Run

/-- The run with an order carried out. -/
def obey (r : Run) : Order → Run
  | .step => r.step
  | .run => r.resume
  | .pause => r.pause
  | .terminate => r.terminate

theorem obey_eq (r : Run) (o : Order) :
    r.obey o = if o.wakes then notify { r with register := o.write r.register }
      else { r with register := o.write r.register } := by
  cases o <;> rfl

end Run

/-- The order that a command of the host gives to the live run. -/
def Command.order? : Command → Option Order
  | step => some .step
  | run => some .run
  | pause => some .pause
  | terminate => some .terminate
  | compile _ | updateBreakpoints _ => none

theorem Coordinator.handle_of_order {command : Command} {o : Order} (c : Coordinator)
    (h : command.order? = some o) : c.handle command = c.onLive (·.obey o) := by
  cases command <;> cases h <;> rfl

/-! ## 2. Moves -/

/-- A run and the breakpoints that its worker shares with the host. -/
structure Interplay where
  breakpoints : LineSet := .empty
  run : Run
  deriving DecidableEq

/-- Who moves, and what for. -/
inductive Move where
  /-- The worker makes its next access. -/
  | worker
  /-- The host carries out an order. -/
  | order (o : Order)
  /-- The host replaces the breakpoints. -/
  | breakpoints (lines : LineSet)
  /-- A sleeping worker wakes up of its own accord. -/
  | wake
  /-- A worker at a gate is let on. -/
  | release
  /-- The host receives the next event. -/
  | receive
  deriving DecidableEq

/-- What a move writes into the register if it is not one of the worker. -/
def Move.write : Move → Register → Register
  | order o => o.write
  | _ => id

/-- One turn of host or worker. -/
structure Turn where
  before : Interplay
  move : Move
  after : Interplay
  deriving DecidableEq

namespace Interplay

/-- A new run of a program. -/
def ofJob (job : Job) (breakpoints : LineSet) : Interplay :=
  { breakpoints, run := Run.ofJob job }

/-- What a move leads to, if it can be made. -/
def move? (env : Environment) (s : Interplay) : Move → Option Interplay
  | .worker => (s.run.step? env s.breakpoints).map ({ s with run := · })
  | .order o => if s.run.isLocked then none else some { s with run := s.run.obey o }
  | .breakpoints breakpoints => some { s with breakpoints }
  | .wake => some { s with run := s.run.notify }
  | .release => some { s with run := s.run.release }
  | .receive =>
    if s.run.received < s.run.sent.length then
      some { s with run := { s.run with received := s.run.received + 1 } }
    else none

/-- The histories that begin at `s`, and what they lead to. -/
inductive Plays (env : Environment) (s : Interplay) : List Turn → Interplay → Prop
  | start : Plays env s [] s
  | next {turns : List Turn} {t u : Interplay} {m : Move} (h : Plays env s turns t)
      (hm : t.move? env m = some u) : Plays env s (turns ++ [⟨t, m, u⟩]) u

/-- The turns of the given moves, behind the turns before them, and what they lead to. -/
def play? (env : Environment) : List Turn → Interplay → List Move → Option (List Turn × Interplay)
  | turns, s, [] => some (turns, s)
  | turns, s, m :: moves =>
    match s.move? env m with
    | none => none
    | some t => play? env (turns ++ [⟨s, m, t⟩]) t moves

/-- Moves that can be made in turn are a history. -/
theorem Plays.of_play? {env : Environment} {s t u : Interplay} {turns turns' : List Turn}
    {moves : List Move} (h : Plays env s turns t)
    (hp : play? env turns t moves = some (turns', u)) : Plays env s turns' u := by
  induction moves generalizing turns t with
  | nil =>
    cases hp
    exact h
  | cons m moves ih =>
    rw [play?] at hp
    split at hp
    · cases hp
    · next hm => exact ih (h.next hm) hp

/-- The history of moves that can be made in turn. -/
theorem Plays.of_isSome {env : Environment} {s : Interplay} {moves : List Move}
    (h : (play? env [] s moves).isSome) :
    Plays env s ((play? env [] s moves).get h).1 ((play? env [] s moves).get h).2 :=
  Plays.start.of_play? (Option.some_get h).symm

end Interplay

/-! ## 3. What the worker can do -/

namespace Run

/-- One access inside a call that announces `line`, by the point of the call at which it is made. -/
inductive Inside (breakpoints : LineSet) (line : Nat) (script : Script) (r : Run) :
    WaitPoint → Run → Prop
  | refused (h : r.register.terminated) : Inside breakpoints line script r .enter
      (r.goto (.ended .terminated))
  | entered (h : r.register.terminated = false) : Inside breakpoints line script r .enter
      (r.goto (.waiting line .observe script))
  | sawRunning (h : r.register.signal = .running) : Inside breakpoints line script r .observe
      (r.goto (.waiting line .filter script))
  | sawStep (h : r.register.signal = .step) : Inside breakpoints line script r .observe
      (r.goto (.waiting line .consume script))
  | sawPaused (h : r.register.signal = .paused) : Inside breakpoints line script r .observe
      (r.goto (.waiting line (.halt .paused) script))
  | ranOn (h : breakpoints.hits line = false) : Inside breakpoints line script r .filter
      (r.goto (.running script))
  | hit (h : breakpoints.hits line) : Inside breakpoints line script r .filter
      (r.goto (.waiting line (.halt .running) script))
  | consumed (h : r.register.signal = .step) : Inside breakpoints line script r .consume
      { r with register := r.register.pause, stage := .running script }
  | missedStep (h : r.register.signal ≠ .step) : Inside breakpoints line script r .consume
      (r.goto (.waiting line .observe script))
  | halted : Inside breakpoints line script r (.halt r.register.signal)
      { r with register := r.register.pause, stage := .waiting line .mark script }
  | overtaken {seen : Signal} (h : r.register.signal ≠ seen) :
      Inside breakpoints line script r (.halt seen) (r.goto (.waiting line .observe script))
  | marked : Inside breakpoints line script r .mark
      { r with phase := .running true, stage := .waiting line .announce script }
  | announced : Inside breakpoints line script r .announce
      ((r.send (.paused line)).goto (.waiting line .lock script))
  | locked : Inside breakpoints line script r .lock (r.goto (.waiting line .look script))
  | sawOrder (h : r.register.signal ≠ .paused) : Inside breakpoints line script r .look
      (r.goto (.waiting line .leave script))
  | sawNone (h : r.register.signal = .paused) : Inside breakpoints line script r .look
      (r.goto (.waiting line .lookFlag script))
  | sawEnd (h : r.register.terminated) : Inside breakpoints line script r .lookFlag
      (r.goto (.waiting line .leave script))
  | slept (h : r.register.terminated = false) : Inside breakpoints line script r .lookFlag
      (r.goto (.waiting line (.asleep false) script))
  | woke : Inside breakpoints line script r (.asleep true) (r.goto (.waiting line .look script))
  | abandoned (h : r.register.terminated) : Inside breakpoints line script r .leave
      (r.goto (.ended .terminated))
  | left (h : r.register.terminated = false) : Inside breakpoints line script r .leave
      (r.goto (.waiting line .drain script))
  | drained (h : r.register.signal = .step) : Inside breakpoints line script r .drain
      { r with register := r.register.pause, stage := .waiting line .unmark script }
  | foundDrained (h : r.register.signal ≠ .step) : Inside breakpoints line script r .drain
      (r.goto (.waiting line .unmark script))
  | passed : Inside breakpoints line script r .unmark
      { r with phase := .running false, stage := .running script }

/-- One access of the worker between the calls that announce lines. -/
inductive Outside (env : Environment) (r : Run) : Run → Prop
  | accepted {job : Job} (hs : r.stage = .fresh job) (h : env.canSuspend) : Outside env r
      { r with phase := .compiling, stage := .compiling job env.compileGate }
  | unsuited {job : Job} (hs : r.stage = .fresh job) (h : env.canSuspend = false) : Outside env r
      (r.goto (.failing (.unsupported cannotSuspend)))
  | compiled {job : Job} {m : Module} (hs : r.stage = .compiling job false)
      (h : env.compile job = .ok m) : Outside env r (r.goto (.loaded (env.script m)))
  | rejected {job : Job} {e : CompileError} (hs : r.stage = .compiling job false)
      (h : env.compile job = .error e) : Outside env r (r.goto (.failing e.fault))
  | abandoned {script : Script} (hs : r.stage = .loaded script) (h : r.register.terminated) :
      Outside env r (r.goto .done)
  | loaded {script : Script} (hs : r.stage = .loaded script) (h : r.register.terminated = false) :
      Outside env r (r.goto (.launching script))
  | launched {script : Script} (hs : r.stage = .launching script) : Outside env r
      { r with phase := .running false, stage := .greeting script }
  | greeted {script : Script} (hs : r.stage = .greeting script) : Outside env r
      ((r.send .compiled).goto (.running script))
  | stopped {outcome : Outcome} (hs : r.stage = .running ⟨[], outcome⟩) : Outside env r
      (r.goto (.ended outcome))
  | muted {text : Text} {acts : List Act} {outcome : Outcome}
      (hs : r.stage = .running ⟨.print text :: acts, outcome⟩)
      (h : text.isEmpty ∨ r.register.terminated) : Outside env r (r.goto (.running ⟨acts, outcome⟩))
  | printed {text : Text} {acts : List Act} {outcome : Outcome}
      (hs : r.stage = .running ⟨.print text :: acts, outcome⟩)
      (h : r.register.terminated = false) : Outside env r
      (r.goto (.printing text ⟨acts, outcome⟩))
  | wrote {text : Text} {script : Script} (hs : r.stage = .printing text script) : Outside env r
      ((r.send (.log text)).goto (.running script))
  | began {line : Nat} {acts : List Act} {outcome : Outcome}
      (hs : r.stage = .running ⟨.wait line :: acts, outcome⟩) : Outside env r
      (r.goto (.waiting line .enter ⟨acts, outcome⟩))
  | exited (hs : r.stage = .ended .exited) : Outside env r
      { r with phase := .finished, stage := .closing }
  | trapped {reason : Text} (hs : r.stage = .ended (.trapped reason)) : Outside env r
      (r.goto (.failing (.trap reason)))
  | unsupported {reason : Text} (hs : r.stage = .ended (.unsupported reason)) : Outside env r
      (r.goto (.failing (.unsupported reason)))
  | vanished (hs : r.stage = .ended .terminated) : Outside env r (r.goto .done)
  | failed {fault : Fault} (hs : r.stage = .failing fault) : Outside env r
      { r with phase := .failed, stage := .complaining fault }
  | complained {fault : Fault} (hs : r.stage = .complaining fault) : Outside env r
      ((r.send (.log (faultText fault))).goto .closing)
  | closed (hs : r.stage = .closing) : Outside env r ((r.send .finished).goto .done)

variable {env : Environment} {breakpoints : LineSet} {r r' : Run}

/-- The accesses inside a call are those that are listed. -/
theorem inside_of_stepWait? {line : Nat} {script : Script} {point : WaitPoint}
    (h : r.stepWait? breakpoints line script point = some r') :
    Inside breakpoints line script r point r' := by
  cases point with
  | asleep woken =>
    cases woken with
    | false => cases h
    | true =>
      cases h
      exact .woke
  | enter =>
    simp only [stepWait?, Option.some.injEq] at h
    subst h
    split
    · next h => exact .refused h
    · next h => exact .entered (by simpa using h)
  | observe =>
    simp only [stepWait?, Option.some.injEq] at h
    subst h
    split
    · next h => exact .sawRunning h
    · next h => exact .sawStep h
    · next h => exact .sawPaused h
  | filter =>
    simp only [stepWait?, Option.some.injEq] at h
    subst h
    split
    · next h => exact .hit h
    · next h => exact .ranOn (by simpa using h)
  | consume =>
    simp only [stepWait?, Register.consumeStep?, Register.pauseFrom?, Option.some.injEq] at h
    subst h
    by_cases hs : r.register.signal = .step
    · simp only [hs, if_true]
      exact .consumed hs
    · simp only [hs, if_false]
      exact .missedStep hs
  | halt seen =>
    simp only [stepWait?, Register.pauseFrom?, Option.some.injEq] at h
    subst h
    by_cases hs : r.register.signal = seen
    · subst hs
      simp only [if_true]
      exact .halted
    · simp only [hs, if_false]
      exact .overtaken hs
  | mark =>
    cases h
    exact .marked
  | announce =>
    cases h
    exact .announced
  | lock =>
    cases h
    exact .locked
  | look =>
    simp only [stepWait?, Option.some.injEq] at h
    subst h
    split
    · next h => exact .sawNone h
    · next h => exact .sawOrder h
  | lookFlag =>
    simp only [stepWait?, Option.some.injEq] at h
    subst h
    split
    · next h => exact .sawEnd h
    · next h => exact .slept (by simpa using h)
  | leave =>
    simp only [stepWait?, Option.some.injEq] at h
    subst h
    split
    · next h => exact .abandoned h
    · next h => exact .left (by simpa using h)
  | drain =>
    simp only [stepWait?, Register.consumeStep?, Register.pauseFrom?, Option.some.injEq] at h
    subst h
    by_cases hs : r.register.signal = .step
    · simp only [hs, if_true, Option.getD_some]
      exact .drained hs
    · simp only [hs, if_false, Option.getD_none]
      exact .foundDrained hs
  | unmark =>
    cases h
    exact .passed

/-- The worker makes an access inside of a call or elsewhere. -/
theorem inside_or_outside_of_step? (h : r.step? env breakpoints = some r') :
    (∃ line point script, r.stage = .waiting line point script ∧
      Inside breakpoints line script r point r') ∨ Outside env r r' := by
  unfold step? at h
  split at h
  case h_12 line point script hs => exact .inl ⟨line, point, script, hs, inside_of_stepWait? h⟩
  all_goals
    rename_i hs
    right
  case h_1 =>
    simp only [Option.some.injEq] at h
    subst h
    split
    · next h => exact .accepted hs h
    · next h => exact .unsuited hs (by simpa using h)
  case h_2 => cases h
  case h_3 =>
    simp only [Option.some.injEq] at h
    subst h
    split
    · next h => exact .compiled hs h
    · next h => exact .rejected hs h
  case h_4 =>
    simp only [Option.some.injEq] at h
    subst h
    split
    · next h => exact .abandoned hs h
    · next h => exact .loaded hs (by simpa using h)
  case h_8 =>
    simp only [Option.some.injEq] at h
    subst h
    split
    · next h => exact .muted hs h
    · next h => exact .printed hs (by simpa using (not_or.1 h).2)
  case h_10 => cases h
  case h_20 => cases h
  all_goals cases h
  · exact .launched hs
  · exact .greeted hs
  · exact .stopped hs
  · exact .began hs
  · exact .wrote hs
  · exact .exited hs
  · exact .trapped hs
  · exact .unsupported hs
  · exact .vanished hs
  · exact .failed hs
  · exact .complained hs
  · exact .closed hs

/-- Inside a call the worker writes nothing into the register but `paused`. -/
theorem Inside.register_eq {line : Nat} {script : Script} {point : WaitPoint}
    (h : Inside breakpoints line script r point r') :
    r'.register = r.register ∨ r'.register = r.register.pause := by
  cases h with
  | consumed | halted | drained => exact .inr rfl
  | _ => exact .inl rfl

theorem Inside.sent_prefix {line : Nat} {script : Script} {point : WaitPoint}
    (h : Inside breakpoints line script r point r') : r.sent <+: r'.sent := by
  cases h with
  | announced => exact List.prefix_append _ _
  | _ => exact List.prefix_rfl

theorem Inside.received_eq {line : Nat} {script : Script} {point : WaitPoint}
    (h : Inside breakpoints line script r point r') : r'.received = r.received := by
  cases h <;> rfl

theorem Outside.not_waiting (h : Outside env r r') (line : Nat) (point : WaitPoint)
    (script : Script) : r.stage ≠ .waiting line point script := by
  intro hs
  cases h <;> simp_all

theorem Outside.eq_enter {line : Nat} {point : WaitPoint} {script : Script} (h : Outside env r r')
    (hs : r'.stage = .waiting line point script) : point = .enter := by
  cases h <;> cases hs
  rfl

theorem Outside.sent_prefix (h : Outside env r r') : r.sent <+: r'.sent := by
  cases h with
  | greeted | wrote | complained | closed => exact List.prefix_append _ _
  | _ => exact List.prefix_rfl

theorem Outside.received_eq (h : Outside env r r') : r'.received = r.received := by
  cases h <;> rfl

theorem Outside.register_eq (h : Outside env r r') : r'.register = r.register := by
  cases h <;> rfl

end Run

/-! ## 4. What everybody else can do -/

/-- What becomes of the stage of a worker that does not move itself. -/
inductive Stage.Nudged : Stage → Stage → Prop
  | same (s : Stage) : Nudged s s
  | woken (line : Nat) (woken : Bool) (script : Script) :
      Nudged (.waiting line (.asleep woken) script) (.waiting line (.asleep true) script)
  | letCompile (job : Job) : Nudged (.compiling job true) (.compiling job false)
  | letRun (acts : List Act) (outcome : Outcome) :
      Nudged (.running ⟨.gate :: acts, outcome⟩) (.running ⟨acts, outcome⟩)

/-- A worker inside a call stays where it is, or is woken up. -/
theorem Stage.Nudged.eq_or_woken {s : Stage} {line : Nat} {point : WaitPoint} {script : Script}
    (h : (waiting line point script).Nudged s) : s = .waiting line point script ∨
      (∃ woken, point = .asleep woken) ∧ s = .waiting line (.asleep true) script := by
  cases h with
  | same => exact .inl rfl
  | woken line woken script => exact .inr ⟨⟨woken, rfl⟩, rfl⟩

/-- A worker inside a call was there before, or has been woken up. -/
theorem Stage.Nudged.eq_or_asleep {s : Stage} {line : Nat} {point : WaitPoint} {script : Script}
    (h : s.Nudged (waiting line point script)) : s = .waiting line point script ∨
      point = .asleep true ∧ ∃ woken, s = .waiting line (.asleep woken) script := by
  cases h with
  | same => exact .inl rfl
  | woken line woken script => exact .inr ⟨rfl, woken, rfl⟩

namespace Run

theorem notify_nudged (r : Run) : r.stage.Nudged r.notify.stage := by
  unfold notify
  split
  · next line woken script hs =>
    rw [hs]
    exact .woken line woken script
  · exact .same _

/-- A worker that is let on stood at a gate. -/
theorem release_nudged (r : Run) : r.stage.Nudged r.release.stage := by
  unfold release
  split
  · next job hs =>
    rw [hs]
    exact .letCompile job
  · next acts outcome hs =>
    rw [hs]
    exact .letRun acts outcome
  · exact .same _

/-- What a move that is not the worker's does to a run: it may nudge the worker, write into the
register and receive an event. -/
structure Nudged (m : Move) (r r' : Run) : Prop where
  stage : r.stage.Nudged r'.stage
  register : r'.register = m.write r.register
  phase : r'.phase = r.phase
  sent : r'.sent = r.sent
  received : r.received ≤ r'.received

theorem Nudged.register_eq {m : Move} {r r' : Run} (h : Nudged m r r') (ho : ∀ o, m ≠ .order o) :
    r'.register = r.register := by
  rw [h.register]
  cases m with
  | order o => exact absurd rfl (ho o)
  | _ => rfl

theorem Nudged.terminated {m : Move} {r r' : Run} (h : Nudged m r r')
    (ht : r.register.terminated) : r'.register.terminated := by
  rw [h.register]
  cases m with
  | order o => exact o.terminated_write ht
  | _ => exact ht

theorem notify_eq (r : Run) : r.notify = { r with stage := r.notify.stage } := by
  unfold notify
  split <;> rfl

theorem obey_nudged (r : Run) (o : Order) : Nudged (.order o) r (r.obey o) := by
  rw [obey_eq]
  split
  · have hstage := notify_nudged { r with register := o.write r.register }
    rw [notify_eq]
    exact ⟨hstage, rfl, rfl, rfl, Nat.le_refl _⟩
  · exact ⟨.same _, rfl, rfl, rfl, Nat.le_refl _⟩

end Run

/-! ## 5. One move -/

/-- What a move is: an access of the worker, inside a call or elsewhere, or a nudge. -/
inductive Interplay.Moves (env : Environment) (s t : Interplay) : Move → Prop
  | inside {line : Nat} {point : WaitPoint} {script : Script}
      (hs : s.run.stage = .waiting line point script)
      (h : Run.Inside s.breakpoints line script s.run point t.run) : Moves env s t .worker
  | outside (h : Run.Outside env s.run t.run) : Moves env s t .worker
  | nudge {m : Move} (hm : m ≠ .worker) (h : Run.Nudged m s.run t.run) : Moves env s t m

/-- **One move** is an access of the worker that is listed above, or a nudge. -/
theorem Interplay.moves_of_move? {env : Environment} {s t : Interplay} {m : Move}
    (h : s.move? env m = some t) : Moves env s t m := by
  cases m with
  | worker =>
    simp only [move?, Option.map_eq_some_iff] at h
    obtain ⟨run, hrun, rfl⟩ := h
    rcases Run.inside_or_outside_of_step? hrun with ⟨line, point, script, hs, hin⟩ | hout
    · exact .inside hs hin
    · exact .outside hout
  | order o =>
    simp only [move?, Option.ite_none_left_eq_some, Option.some.injEq] at h
    obtain ⟨-, rfl⟩ := h
    exact .nudge (by simp) (s.run.obey_nudged o)
  | breakpoints lines =>
    cases h
    exact .nudge (by simp) ⟨.same _, rfl, rfl, rfl, Nat.le_refl _⟩
  | wake =>
    cases h
    have hstage := s.run.notify_nudged
    refine .nudge (by simp) ?_
    rw [Run.notify_eq]
    exact ⟨hstage, rfl, rfl, rfl, Nat.le_refl _⟩
  | release =>
    cases h
    refine .nudge (by simp) ⟨s.run.release_nudged, ?_, ?_, ?_, ?_⟩ <;>
      simp only [Run.release] <;> split <;> simp [Run.goto, Move.write]
  | receive =>
    simp only [move?, Option.ite_none_right_eq_some, Option.some.injEq] at h
    obtain ⟨-, rfl⟩ := h
    exact .nudge (by simp) ⟨.same _, rfl, rfl, rfl, Nat.le_succ _⟩

namespace Interplay.Moves

variable {env : Environment} {s t : Interplay} {m : Move}

theorem sent_prefix (h : s.Moves env t m) : s.run.sent <+: t.run.sent := by
  cases h with
  | inside _ h => exact h.sent_prefix
  | outside h => exact h.sent_prefix
  | nudge _ h => exact h.sent ▸ List.prefix_rfl

theorem terminated (h : s.Moves env t m) (ht : s.run.register.terminated) :
    t.run.register.terminated := by
  cases h with
  | inside _ h =>
    rcases h.register_eq with heq | heq <;>
      rw [heq] <;> exact ht
  | outside h => exact h.register_eq ▸ ht
  | nudge _ h => exact h.terminated ht

theorem received_le (h : s.Moves env t m) : s.run.received ≤ t.run.received := by
  cases h with
  | inside _ h => exact Nat.le_of_eq h.received_eq.symm
  | outside h => exact Nat.le_of_eq h.received_eq.symm
  | nudge _ h => exact h.received

end Interplay.Moves

/-! ## 6. Calls -/

/-- The line that the program announces, and what it does behind that call. -/
def Stage.call? : Stage → Option (Nat × Script)
  | waiting line _ script => some (line, script)
  | _ => none

theorem Stage.call?_eq_some_iff {s : Stage} {line : Nat} {script : Script} :
    s.call? = some (line, script) ↔ ∃ point, s = waiting line point script := by
  cases s <;> simp [call?]

/-- What was done from the beginning of a call that announces `line` up to `t`: all turns of it were
taken while the worker was inside the call, so `t` lies inside of it too or is its end.  `script` is
what the program does behind the call. -/
structure WaitCall (env : Environment) (line : Nat) (script : Script) (s : Interplay)
    (turns : List Turn) (t : Interplay) : Prop where
  starts : s.run.stage = .waiting line .enter script
  plays : s.Plays env turns t
  inside : ∀ x ∈ turns, x.before.run.stage.call? = some (line, script)

/-- **What every turn of a call keeps** holds at any time of it.  Such a turn is an access inside
the call, or a nudge while the worker stands at some point of it. -/
theorem WaitCall.induction {env : Environment} {line : Nat} {script : Script} {s t : Interplay}
    {turns : List Turn} {P : List Turn → Interplay → Prop}
    (h : WaitCall env line script s turns t) (start : P [] s)
    (access : ∀ turns t u point, P turns t → t.run.stage = .waiting line point script →
      Run.Inside t.breakpoints line script t.run point u.run → P (turns ++ [⟨t, .worker, u⟩]) u)
    (nudge : ∀ turns t u m point, P turns t → t.run.stage = .waiting line point script →
      Run.Nudged m t.run u.run → P (turns ++ [⟨t, m, u⟩]) u) : P turns t := by
  obtain ⟨-, hplays, hinside⟩ := h
  induction hplays with
  | start => exact start
  | @next turns t u m hplays hm ih =>
    have hold := ih fun x hx => hinside x (List.mem_append_left _ hx)
    obtain ⟨point, hs⟩ := Stage.call?_eq_some_iff.1
      (hinside _ (List.mem_append_right _ List.mem_cons_self))
    cases Interplay.moves_of_move? hm with
    | inside hs' hin =>
      obtain ⟨rfl, rfl, rfl⟩ := Stage.waiting.inj (hs.symm.trans hs')
      exact access turns t u point hold hs hin
    | outside hout => exact absurd hs (hout.not_waiting _ _ _)
    | nudge hw hn => exact nudge turns t u m point hold hs hn

end Stepwise
