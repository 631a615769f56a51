import Mathlib.Data.List.Infix
import Stepwise.Proofs.Interplay

/-!
# Steps and the lines they let pass

The host of a run orders steps and pauses only.  A step may arrive before the call that it lets
pass, inside of it, or while the worker sleeps, and a pause may take it back at any of these points.

What is counted is credit: the steps that are granted and not used up.  A step in the register is
one, and a call that has left its sleep holds one, which covers the step in the register as well,
because the call uses that up on its way out (`WaitPoint.credit`).  No access of the worker makes
credit (`Run.Inside.credit_le`), and an order makes at most one.

Main statement:

* `Interplay.passed_le_steps`: no more calls have let the program go on than steps were ordered; and
  if the host orders a step only upon a pause it has received, the program pauses at every line that
  it announces, once and in order.
-/

namespace Stepwise

/-! ## 1. Lines of calls -/

namespace WaitPoint

/-- Whether the event of a call has been sent at a point of it. -/
def isAnnounced : WaitPoint → Bool
  | lock | look | lookFlag | asleep _ | leave | drain | unmark => true
  | _ => false

end WaitPoint

namespace Stage

/-- The line of the call that the program is in. -/
def calling : Stage → List Nat
  | waiting line _ _ => [line]
  | _ => []

/-- The line of the call that the program is in, if its event has been sent. -/
def announcing : Stage → List Nat
  | waiting line point _ => if point.isAnnounced then [line] else []
  | _ => []

/-- The line of the call that the program is in, if its event has not been sent. -/
def unannounced : Stage → List Nat
  | waiting line point _ => if point.isAnnounced then [] else [line]
  | _ => []

theorem calling_eq (s : Stage) : s.calling = s.announcing ++ s.unannounced := by
  cases s with
  | waiting line point script =>
    simp only [calling, announcing, unannounced]
    split <;> rfl
  | _ => rfl

/-- The line of a call that is begun between two stages. -/
def begun : Stage → Stage → List Nat
  | running _, waiting line _ _ => [line]
  | _, _ => []

/-- The line of a call that returns between two stages and lets the program go on. -/
def passed : Stage → Stage → List Nat
  | waiting line _ _, running _ => [line]
  | _, _ => []

theorem Nudged.passed_eq {s s' : Stage} (h : s.Nudged s') : s.passed s' = [] := by
  cases h with
  | same => cases s <;> rfl
  | _ => rfl

theorem Nudged.begun_eq {s s' : Stage} (h : s.Nudged s') : s.begun s' = [] := by
  cases h with
  | same => cases s <;> rfl
  | _ => rfl

theorem Nudged.calling_eq {s s' : Stage} (h : s.Nudged s') : s'.calling = s.calling := by
  cases h <;> rfl

theorem Nudged.announcing_eq {s s' : Stage} (h : s.Nudged s') : s'.announcing = s.announcing := by
  cases h <;> rfl

end Stage

/-- The lines at which a run has paused, by its events. -/
def pauses (events : List Event) : List Nat :=
  events.filterMap fun
    | .paused line => some line
    | _ => none

/-- The lines of the pauses that the host has received. -/
def Run.heard (r : Run) : List Nat := pauses (r.sent.take r.received)

namespace Turn

/-- The lines of the calls that were begun. -/
def begun (turns : List Turn) : List Nat :=
  turns.flatMap fun x => x.before.run.stage.begun x.after.run.stage

/-- The lines of the calls that have let the program go on. -/
def passed (turns : List Turn) : List Nat :=
  turns.flatMap fun x => x.before.run.stage.passed x.after.run.stage

/-- How many steps were ordered. -/
def steps (turns : List Turn) : Nat := (turns.map move).count (.order .step)

/-- The host orders a step only upon a pause that it has received, and only one upon each. -/
def Prompted (turns : List Turn) : Prop :=
  ∀ i (hi : i < turns.length), turns[i].move = .order .step →
    steps (turns.take i) < turns[i].before.run.heard.length

instance (turns : List Turn) : Decidable (Prompted turns) :=
  inferInstanceAs (Decidable (∀ i (_ : i < _), _))

variable (turns : List Turn) (x : Turn)

@[simp] theorem begun_append : begun (turns ++ [x]) =
    begun turns ++ x.before.run.stage.begun x.after.run.stage := by
  simp [begun]

@[simp] theorem passed_append : passed (turns ++ [x]) =
    passed turns ++ x.before.run.stage.passed x.after.run.stage := by
  simp [passed]

@[simp] theorem steps_append : steps (turns ++ [x]) =
    steps turns + if x.move = .order .step then 1 else 0 := by
  simp only [steps, List.map_append, List.map_cons, List.map_nil, List.count_append,
    List.count_singleton, beq_iff_eq]

variable {turns x}

/-- What the host does before a turn and in it. -/
theorem Prompted.of_append (h : Prompted (turns ++ [x])) : Prompted turns ∧
    (x.move = .order .step → steps turns < x.before.run.heard.length) := by
  constructor
  · intro i hi hx
    have hi' : i < (turns ++ [x]).length := by simp; omega
    have hlt := h i hi'
    rw [List.getElem_append_left hi, List.take_append_of_le_length (Nat.le_of_lt hi)] at hlt
    exact hlt hx
  · intro hx
    have hlt := h turns.length (by simp)
    simp only [List.getElem_concat_length, List.take_left] at hlt
    exact hlt hx

end Turn

/-! ## 2. Credit -/

/-- How many steps a signal grants. -/
def Signal.granted : Signal → Nat
  | .step => 1
  | _ => 0

/-- The steps that are granted and not used up while a call stands at a point of it.  A call that
has left its sleep holds one, and uses up whatever step the register holds by then. -/
def WaitPoint.credit (signal : Signal) : WaitPoint → Nat
  | leave | drain => 1
  | unmark => 1 + signal.granted
  | _ => signal.granted

namespace Stage

/-- The steps that are granted and not used up. -/
def credit (signal : Signal) : Stage → Nat
  | waiting _ point _ => point.credit signal
  | _ => signal.granted

/-- A signal that grants more makes no more credit than that. -/
theorem credit_le {signal signal' : Signal} {n : Nat}
    (h : signal.granted ≤ signal'.granted + n) (s : Stage) :
    s.credit signal ≤ s.credit signal' + n := by
  cases s with
  | waiting line point script => cases point <;> simp only [credit, WaitPoint.credit] <;> omega
  | _ => exact h

theorem credit_step_pos (s : Stage) : 0 < s.credit .step := by
  cases s with
  | waiting line point script => cases point <;> simp [credit, WaitPoint.credit, Signal.granted]
  | _ => exact Nat.one_pos

theorem Nudged.credit_eq {s s' : Stage} (h : s.Nudged s') (signal : Signal) :
    s'.credit signal = s.credit signal := by
  cases h <;> rfl

end Stage

/-- The steps of a run that are granted and not used up. -/
def Run.credit (r : Run) : Nat := r.stage.credit r.register.signal

namespace Run

/-- A run whose host has ordered steps and pauses only: it was never told to run on or to end, and
no call of it looks for a breakpoint. -/
structure Held (r : Run) : Prop where
  signal : r.register.signal ≠ .running
  kept : r.register.terminated = false
  filter : ∀ line script, r.stage ≠ .waiting line .filter script

variable {env : Environment} {breakpoints : LineSet} {r r' : Run} {line : Nat} {point : WaitPoint}
  {script : Script} {m : Move}

/-- An access inside a call leaves a held run held. -/
theorem Inside.held (h : Inside breakpoints line script r point r') (hr : r.Held) : r'.Held := by
  have hregister := h.register_eq
  refine ⟨?_, ?_, ?_⟩
  · rcases hregister with heq | heq <;> rw [heq]
    · exact hr.signal
    · simp [Register.pause]
  · rcases hregister with heq | heq <;> rw [heq]
    · exact hr.kept
    · exact hr.kept
  · intro line' script' hs
    cases h with
    | sawRunning h => exact hr.signal h
    | _ => cases hs

/-- **No access inside a call makes credit**: a call that lets the program go on uses one up. -/
theorem Inside.credit_le (h : Inside breakpoints line script r point r') (hr : r.Held)
    (hs : r.stage = .waiting line point script) :
    (r.stage.passed r'.stage).length + r'.credit ≤ r.credit := by
  have hkept := hr.kept
  rw [credit, credit, hs]
  cases h with
  | refused h => simp [hkept] at h
  | sawRunning h => exact absurd h hr.signal
  | ranOn => exact absurd hs (hr.filter _ _)
  | hit => exact absurd hs (hr.filter _ _)
  | sawEnd h => simp [hkept] at h
  | abandoned h => simp [hkept] at h
  | consumed h =>
    -- the step in the register is used up
    simp [Stage.passed, Stage.credit, WaitPoint.credit, Register.pause, Signal.granted, h]
  | sawOrder h =>
    -- the call takes the step for which it woke up
    have hstep : r.register.signal = .step := by
      cases hsig : r.register.signal with
      | step => rfl
      | paused => exact absurd hsig h
      | running => exact absurd hsig hr.signal
    simp [goto, Stage.passed, Stage.credit, WaitPoint.credit, Signal.granted, hstep]
  | drained => simp [Stage.passed, Stage.credit, WaitPoint.credit, Register.pause, Signal.granted]
  | foundDrained h =>
    have hnone : r.register.signal.granted = 0 := by
      cases hsig : r.register.signal with
      | step => exact absurd hsig h
      | _ => rfl
    simp [goto, Stage.passed, Stage.credit, WaitPoint.credit, hnone]
  | halted => simp [Stage.passed, Stage.credit, WaitPoint.credit, Register.pause, Signal.granted]
  | marked => simp [Stage.passed, Stage.credit, WaitPoint.credit]
  | passed => simp [Stage.passed, Stage.credit, WaitPoint.credit]
  | _ => simp [goto, send, Stage.passed, Stage.credit, WaitPoint.credit]

theorem Outside.held (h : Outside env r r') (hr : r.Held) : r'.Held := by
  refine ⟨by rw [h.register_eq]; exact hr.signal, by rw [h.register_eq]; exact hr.kept, ?_⟩
  intro line script hs
  cases h.eq_enter hs

/-- No access between calls makes credit, and none lets a call pass. -/
theorem Outside.credit_le (h : Outside env r r') :
    (r.stage.passed r'.stage).length + r'.credit ≤ r.credit := by
  cases h <;> simp [credit, goto, send, Stage.passed, Stage.credit, WaitPoint.credit, *]

/-- An order that is a step or a pause leaves a held run held, and so does every other nudge. -/
theorem Nudged.held (h : Nudged m r r') (hm : m ≠ .order .run ∧ m ≠ .order .terminate)
    (hr : r.Held) : r'.Held := by
  have hregister : r'.register.signal ≠ .running ∧ r'.register.terminated = false := by
    rw [h.register]
    cases m with
    | order o =>
      cases o with
      | run => exact absurd rfl hm.1
      | terminate => exact absurd rfl hm.2
      | step => exact ⟨by simp [Move.write, Order.write, Register.step], hr.kept⟩
      | pause => exact ⟨by simp [Move.write, Order.write, Register.pause], hr.kept⟩
    | _ => exact ⟨hr.signal, hr.kept⟩
  refine ⟨hregister.1, hregister.2, ?_⟩
  intro line script hs
  exact hr.filter line script ((hs ▸ h.stage).eq_or_asleep.resolve_right (by simp))

/-- **A nudge makes credit only if it is a step**, and then at most one. -/
theorem Nudged.credit_le (h : Nudged m r r') (hm : m ≠ .order .run) :
    r'.credit ≤ r.credit + if m = .order .step then 1 else 0 := by
  have hsignal : (m.write r.register).signal.granted ≤
      r.register.signal.granted + if m = .order .step then 1 else 0 := by
    cases m with
    | order o =>
      cases o with
      | step => simp [Move.write, Order.write, Register.step, Signal.granted]
      | run => exact absurd rfl hm
      | pause => exact Nat.zero_le _
      | terminate => exact Nat.le_add_right _ _
    | _ => exact Nat.le_add_right _ _
  rw [credit, credit, h.stage.credit_eq, h.register]
  exact r.stage.credit_le hsignal

/-! ## 3. Calls and their events -/

/-- Inside a call of a held run either nothing is begun and nothing ends, or the call passes. -/
theorem Inside.calling_eq (h : Inside breakpoints line script r point r') (hr : r.Held)
    (hs : r.stage = .waiting line point script) :
    r.stage.calling ++ r.stage.begun r'.stage = r.stage.passed r'.stage ++ r'.stage.calling := by
  have hkept := hr.kept
  rw [hs]
  cases h with
  | refused h => simp [hkept] at h
  | abandoned h => simp [hkept] at h
  | _ => rfl

theorem Outside.calling_eq (h : Outside env r r') :
    r.stage.calling ++ r.stage.begun r'.stage = r.stage.passed r'.stage ++ r'.stage.calling := by
  cases h <;> simp [goto, send, Stage.calling, Stage.begun, Stage.passed, *]

theorem Outside.announced_eq (h : Outside env r r') : pauses r'.sent = pauses r.sent ∧
    r.stage.announcing = r.stage.passed r'.stage ++ r'.stage.announcing := by
  cases h <;> simp [goto, send, pauses, Stage.announcing, Stage.passed, WaitPoint.isAnnounced, *]

/-- **Inside a call that has no step to consume** the pause is sent once, before the call passes. -/
theorem Inside.announced_eq (h : Inside breakpoints line script r point r') (hr : r.Held)
    (hs : r.stage = .waiting line point script)
    (hc : r.stage.announcing = [] → r.register.signal ≠ .step) :
    ∃ lines, pauses r'.sent = pauses r.sent ++ lines ∧
      r.stage.announcing ++ lines = r.stage.passed r'.stage ++ r'.stage.announcing := by
  have hkept := hr.kept
  rw [hs] at hc ⊢
  cases h with
  | refused h => simp [hkept] at h
  | abandoned h => simp [hkept] at h
  | ranOn => exact absurd hs (hr.filter _ _)
  | consumed h => exact absurd h (hc rfl)
  | announced => exact ⟨[line], by simp [goto, send, pauses], rfl⟩
  | _ => exact ⟨[], (List.append_nil _).symm, rfl⟩

end Run

/-! ## 4. What the host has heard -/

theorem Run.length_heard_le (r : Run) : r.heard.length ≤ (pauses r.sent).length :=
  ((List.take_sublist _ _).filterMap _).length_le

theorem Interplay.Moves.heard_le {env : Environment} {s t : Interplay} {m : Move}
    (h : s.Moves env t m) : s.run.heard.length ≤ t.run.heard.length := by
  have hkept : s.run.sent.take s.run.received <+: t.run.sent.take t.run.received :=
    (List.take_prefix_take_left h.received_le).trans (List.IsPrefix.take h.sent_prefix _)
  exact (hkept.sublist.filterMap _).length_le

/-! ## 5. Histories -/

open Turn

variable {env : Environment} {turns : List Turn} {t u : Interplay} {m : Move}

/-- What holds of a history in which the host ordered steps and pauses only: every call that let the
program go on is paid for, and at most one call is not over. -/
structure Paid (turns : List Turn) (r : Run) : Prop where
  held : r.Held
  credit : (passed turns).length + r.credit ≤ steps turns
  calls : begun turns = passed turns ++ r.stage.calling

/-- One more turn is paid for. -/
theorem Paid.next (h : Paid turns t.run) (hm : t.move? env m = some u)
    (ho : m ≠ .order .run ∧ m ≠ .order .terminate) :
    Paid (turns ++ [⟨t, m, u⟩]) u.run := by
  obtain ⟨hheld, hcredit, hcalls⟩ := h
  have hlength : (passed (turns ++ [⟨t, m, u⟩])).length =
      (passed turns).length + (t.run.stage.passed u.run.stage).length := by simp
  have hsteps := steps_append turns ⟨t, m, u⟩
  cases Interplay.moves_of_move? hm with
  | inside hs hin =>
    have hle := hin.credit_le hheld hs
    refine ⟨hin.held hheld, ?_, ?_⟩
    · rw [hlength, hsteps]
      omega
    · rw [begun_append, passed_append, hcalls, List.append_assoc, hin.calling_eq hheld hs,
        List.append_assoc]
  | outside hout =>
    have hle := hout.credit_le
    refine ⟨hout.held hheld, ?_, ?_⟩
    · rw [hlength, hsteps]
      omega
    · rw [begun_append, passed_append, hcalls, List.append_assoc, hout.calling_eq,
        List.append_assoc]
  | nudge hw hn =>
    have hle := hn.credit_le ho.1
    refine ⟨hn.held ho hheld, ?_, ?_⟩
    · rw [hlength, hsteps, hn.stage.passed_eq, List.length_nil]
      dsimp only
      omega
    · rw [begun_append, passed_append, hcalls, hn.stage.begun_eq, hn.stage.passed_eq,
        hn.stage.calling_eq, List.append_nil, List.append_nil]

/-- What holds besides if the host orders a step only upon a pause: every call that let the program
go on has paused, and so has the one that is not over if it got that far. -/
structure Answered (turns : List Turn) (r : Run) : Prop where
  steps_le : steps turns ≤ r.heard.length
  pauses_eq : pauses r.sent = passed turns ++ r.stage.announcing

/-- **A call that has not paused finds no step**: every step answers a pause, and the calls that
have paused and passed have used these steps up. -/
theorem Answered.signal_ne_step {r : Run} (h : Answered turns r) (hp : Paid turns r)
    (hs : r.stage.announcing = []) : r.register.signal ≠ .step := by
  intro hsignal
  have hpauses : (pauses r.sent).length = (passed turns).length := by
    rw [h.pauses_eq, hs, List.append_nil]
  have hcredit := hp.credit
  have hsteps := h.steps_le
  have hheard := r.length_heard_le
  have hpos : 0 < r.credit := by
    rw [Run.credit, hsignal]
    exact Stage.credit_step_pos _
  omega

/-- One more turn of a host that orders a step only upon a pause. -/
theorem Answered.next (h : Answered turns t.run) (hp : Paid turns t.run)
    (hm : t.move? env m = some u)
    (hprompt : m = .order .step → steps turns < t.run.heard.length) :
    Answered (turns ++ [⟨t, m, u⟩]) u.run := by
  have hmoves := Interplay.moves_of_move? hm
  have hheard := hmoves.heard_le
  constructor
  · rw [steps_append]
    have hsteps := h.steps_le
    dsimp only
    split
    · next hstep =>
      have hlt := hprompt hstep
      omega
    · omega
  · rw [passed_append]
    cases hmoves with
    | inside hs hin =>
      obtain ⟨lines, hsent, hcall⟩ := hin.announced_eq hp.held hs (h.signal_ne_step hp)
      rw [hsent, h.pauses_eq, List.append_assoc, hcall, List.append_assoc]
    | outside hout =>
      obtain ⟨hsent, hcall⟩ := hout.announced_eq
      rw [hsent, h.pauses_eq, hcall, List.append_assoc]
    | nudge hw hn =>
      rw [hn.sent, h.pauses_eq, hn.stage.passed_eq, hn.stage.announcing_eq, List.append_nil]

/-- Every history of a host that orders steps and pauses only is paid for. -/
theorem Interplay.Plays.paid {job : Job} {breakpoints : LineSet}
    (h : (Interplay.ofJob job breakpoints).Plays env turns t)
    (ho : ∀ x ∈ turns, x.move ≠ .order .run ∧ x.move ≠ .order .terminate) : Paid turns t.run := by
  induction h with
  | start =>
    refine ⟨⟨?_, rfl, ?_⟩, Nat.le_refl _, rfl⟩
    · simp [ofJob, Run.ofJob]
    · simp [ofJob, Run.ofJob]
  | next h hm ih =>
    have hlast := ho _ (List.mem_append_right _ List.mem_cons_self)
    exact (ih fun x hx => ho x (List.mem_append_left _ hx)).next hm hlast

/-- Every history of a host that orders a step only upon a pause has paused at all its calls. -/
theorem Interplay.Plays.answered {job : Job} {breakpoints : LineSet}
    (h : (Interplay.ofJob job breakpoints).Plays env turns t)
    (ho : ∀ x ∈ turns, x.move ≠ .order .run ∧ x.move ≠ .order .terminate)
    (hp : Prompted turns) : Answered turns t.run := by
  induction h with
  | start => exact ⟨Nat.le_refl _, rfl⟩
  | next h hm ih =>
    have hinit : ∀ x ∈ _, _ := fun x hx => ho x (List.mem_append_left _ hx)
    obtain ⟨hbefore, hlast⟩ := hp.of_append
    exact (ih hinit hbefore).next (h.paid hinit) hm hlast

/-! ## 6. Steps and passes -/

/-- **A step lets at most one line pass.**  In every history of a new run whose host orders steps
and pauses only, no more calls have let the program go on than steps were ordered.  If the host
orders a step only upon a pause that it has received, and only one upon each, then the pauses are
the lines that the program announces, in order and each once, but for a call that has not come to
its pause. -/
theorem Interplay.passed_le_steps {job : Job} {breakpoints : LineSet}
    (h : (Interplay.ofJob job breakpoints).Plays env turns t)
    (ho : ∀ x ∈ turns, x.move ≠ .order .run ∧ x.move ≠ .order .terminate) :
    (passed turns).length ≤ steps turns ∧
      (Prompted turns → begun turns = pauses t.run.sent ++ t.run.stage.unannounced) := by
  have hpaid := h.paid ho
  constructor
  · have hcredit := hpaid.credit
    omega
  · intro hp
    rw [hpaid.calls, (h.answered ho hp).pauses_eq, Stage.calling_eq, List.append_assoc]

/-- A step that is ordered while the program sleeps at line 1, and taken back when it has woken up:
the program passes that line and pauses at line 2. -/
theorem Interplay.passed_le_steps_taken_back :
    let env : Environment :=
      { compile := fun job => .ok (Module.ofText job.source)
        script := fun _ => ⟨[.wait 1, .print "a", .wait 2], .exited⟩ }
    let s := Interplay.ofJob { source := [] } .empty
    let moves : List Move := List.replicate 14 .worker ++ [.receive, .receive, .order .step] ++
      List.replicate 3 .worker ++ [.order .pause] ++ List.replicate 10 .worker
    let p := (Interplay.play? env [] s moves).get (by decide)
    s.Plays env p.1 p.2 ∧ (∀ x ∈ p.1, x.move ≠ .order .run ∧ x.move ≠ .order .terminate) ∧
      Prompted p.1 ∧ (passed p.1).length ≤ steps p.1 ∧ begun p.1 = pauses p.2.run.sent ∧
      passed p.1 = [1] ∧ begun p.1 = [1, 2] := by
  intro env s moves p
  have hplays : s.Plays env p.1 p.2 := Plays.of_isSome _
  have ho : ∀ x ∈ p.1, x.move ≠ .order .run ∧ x.move ≠ .order .terminate := by decide +kernel
  have hprompted : Prompted p.1 := by decide +kernel
  obtain ⟨hle, hbegun⟩ := passed_le_steps hplays ho
  have hannounced : p.2.run.stage.unannounced = [] := by decide +kernel
  refine ⟨hplays, ho, hprompted, hle, ?_, by decide +kernel, by decide +kernel⟩
  rw [hbegun hprompted, hannounced, List.append_nil]

end Stepwise
