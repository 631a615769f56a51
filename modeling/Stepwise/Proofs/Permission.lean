import Stepwise.Proofs.Interplay

/-!
# Calls that let the program go on

A call that announces a line returns in one of three ways: it uses up a step, it runs on where no
breakpoint stops it, or it has paused and the host lets it go.  Between any two of its accesses the
host may write into the register and replace the breakpoints, and the worker reads the signal again
if it was overtaken.

What a call may do at a point depends on what it has done, so the invariant speaks of the turns of
the call (`Permitted`): what was read in front of the look for a breakpoint, that the worker took
the signal back before it made its pause known, and that whatever signal but `paused` is found after
that was ordered by the host (`Halted`).

Main statement:

* `Interplay.wait_permitted`: which turns every call has behind it that lets the program go on, and
  that the worker overwrites a step only to let it go on.
-/

namespace Stepwise

/-! ## 1. Turns of a call -/

namespace Turn

/-- In a call the worker reads the signal. -/
def Observes (signal : Signal) (x : Turn) : Prop :=
  x.move = .worker ∧ (∃ line script, x.before.run.stage = .waiting line .observe script) ∧
    x.before.run.register.signal = signal

/-- In a call the worker reads breakpoints that do not stop it at the line. -/
def Clears (line : Nat) (x : Turn) : Prop :=
  x.move = .worker ∧ (∃ script, x.before.run.stage = .waiting line .filter script) ∧
    x.before.breakpoints.hits line = false

/-- The worker turns a step into a pause. -/
def Consumes (x : Turn) : Prop :=
  x.move = .worker ∧ x.before.run.register.signal = .step ∧ x.after.run.register.signal = .paused

/-- In a call the worker takes the signal back to `paused`, since it is the one that it has seen. -/
def Halts (x : Turn) : Prop :=
  x.move = .worker ∧ (∃ line seen script,
    x.before.run.stage = .waiting line (.halt seen) script ∧ x.before.run.register.signal = seen) ∧
    x.after.run.register.signal = .paused

/-- The host orders a step, or to run on. -/
def Grants (x : Turn) : Prop := x.move = .order .step ∨ x.move = .order .run

/-- A turn of the first kind was taken, and one of the second kind after it. -/
def Follows (first second : Turn → Prop) (turns : List Turn) : Prop :=
  ∃ x y, [x, y].Sublist turns ∧ first x ∧ second y

variable {first second : Turn → Prop} {turns : List Turn} {y : Turn}

theorem Follows.append (h : Follows first second turns) (y : Turn) :
    Follows first second (turns ++ [y]) := by
  obtain ⟨x, x', hsub, hx, hx'⟩ := h
  exact ⟨x, x', hsub.trans (List.sublist_append_left _ _), hx, hx'⟩

/-- The last turn follows all others. -/
theorem Follows.of_last (h : ∃ x ∈ turns, first x) (hy : second y) :
    Follows first second (turns ++ [y]) := by
  obtain ⟨x, hmem, hx⟩ := h
  exact ⟨x, y, (List.singleton_sublist.2 hmem).append (List.Sublist.refl [y]), hx, hy⟩

theorem exists_append (h : ∃ x ∈ turns, first x) (y : Turn) : ∃ x ∈ turns ++ [y], first x := by
  obtain ⟨x, hmem, hx⟩ := h
  exact ⟨x, List.mem_append_left _ hmem, hx⟩

end Turn

open Turn

/-! ## 2. What a call has done at a point of it -/

/-- The call has taken the signal back, and if there is another signal by now, the host has ordered
a step or to run on since. -/
structure Halted (turns : List Turn) (r : Run) : Prop where
  halts : ∃ x ∈ turns, x.Halts
  granted : r.register.signal ≠ .paused → Follows Halts Grants turns

/-- What a call has done up to a point of it.  `sent` are the events that were sent before it. -/
def Permitted (line : Nat) (sent : List Event) (turns : List Turn) (r : Run) : WaitPoint → Prop
  | .enter | .observe | .consume => r.sent = sent
  | .filter => r.sent = sent ∧ ∃ x ∈ turns, x.Observes .running
  | .halt seen => r.sent = sent ∧ seen ≠ .step
  | .mark | .announce => r.sent = sent ∧ Halted turns r
  | .lock | .look | .lookFlag | .asleep _ => r.sent = sent ++ [.paused line] ∧ Halted turns r
  | .leave => r.sent = sent ++ [.paused line] ∧
      (Follows Halts Grants turns ∨ r.register.terminated)
  | .drain | .unmark => r.sent = sent ++ [.paused line] ∧ Follows Halts Grants turns

/-- What a call has done when it lets the program go on: without a pause it has consumed a step, or
has read `running` and found no breakpoint then; after a pause the host has granted it. -/
def Returned (line : Nat) (sent : List Event) (turns : List Turn) (r : Run) : Prop :=
  r.sent = sent ∧
      ((∃ x ∈ turns, x.Consumes) ∨ Follows (Observes .running) (Clears line) turns) ∨
    r.sent = sent ++ [.paused line] ∧ Follows Halts Grants turns

/-- A call sends its pause at most once. -/
theorem Permitted.sent {line : Nat} {sent : List Event} {turns : List Turn} {r : Run}
    {point : WaitPoint} (h : Permitted line sent turns r point) :
    r.sent = sent ∨ r.sent = sent ++ [.paused line] := by
  cases point with
  | enter | observe | consume => exact .inl h
  | filter | halt | mark | announce => exact .inl h.1
  | lock | look | lookFlag | asleep | leave | drain | unmark => exact .inr h.1

/-- Where a call has come to by the turns of it. -/
inductive CallState (line : Nat) (script : Script) (sent : List Event) (turns : List Turn)
    (r : Run) : Prop
  | inside {point : WaitPoint} (hs : r.stage = .waiting line point script)
      (h : Permitted line sent turns r point)
  | returned (hs : r.stage = .running script) (h : Returned line sent turns r)
  | failed (hs : r.stage = .ended .terminated)
      (h : r.sent = sent ∨ r.sent = sent ++ [.paused line])

variable {env : Environment} {line : Nat} {script : Script} {sent : List Event}
  {turns : List Turn} {s t : Interplay} {m : Move}

/-- A call that is not over has done what it may do at its point. -/
theorem CallState.permitted {r : Run} {point : WaitPoint} (h : CallState line script sent turns r)
    (hs : r.stage = .waiting line point script) : Permitted line sent turns r point := by
  cases h with
  | inside hs' hpermitted =>
    obtain ⟨-, rfl, -⟩ := Stage.waiting.inj (hs.symm.trans hs')
    exact hpermitted
  | returned hs' => cases hs.symm.trans hs'
  | failed hs' => cases hs.symm.trans hs'

theorem Halted.keep {r r' : Run} {x : Turn} (h : Halted turns r)
    (hr : r'.register = r.register) : Halted (turns ++ [x]) r' := by
  refine ⟨exists_append h.halts x, fun hsignal => ?_⟩
  rw [hr] at hsignal
  exact (h.granted hsignal).append x

/-- **Nobody but the host grants**: a signal that is found after the call has taken it back was
ordered. -/
theorem Halted.nudge (h : Halted turns s.run) (hn : Run.Nudged m s.run t.run) :
    Halted (turns ++ [⟨s, m, t⟩]) t.run := by
  refine ⟨exists_append h.halts _, fun hsignal => ?_⟩
  rw [hn.register] at hsignal
  have hkept : s.run.register.signal ≠ .paused → Follows Halts Grants (turns ++ [⟨s, m, t⟩]) :=
    fun hs => (h.granted hs).append _
  cases m with
  | order o =>
    cases o with
    | step => exact .of_last h.halts (.inl rfl)
    | run => exact .of_last h.halts (.inr rfl)
    | pause => exact absurd rfl hsignal
    | terminate => exact hkept hsignal
  | _ => exact hkept hsignal

/-- **One access of a call** does what is permitted.  The cases are the accesses; the interesting
ones are those by which the call returns, and those by which it takes the signal back and leaves its
sleep. -/
theorem Permitted.next {point : WaitPoint} (h : Permitted line sent turns s.run point)
    (hs : s.run.stage = .waiting line point script)
    (hin : Run.Inside s.breakpoints line script s.run point t.run) :
    CallState line script sent (turns ++ [⟨s, .worker, t⟩]) t.run := by
  generalize ht : t.run = r' at hin
  cases hin with
  | refused => exact .failed rfl (.inl h)
  | entered => exact .inside rfl h
  | sawRunning hsignal =>
    exact .inside rfl ⟨h, _, List.mem_append_right _ List.mem_cons_self, rfl,
      ⟨line, script, hs⟩, hsignal⟩
  | sawStep => exact .inside rfl h
  | sawPaused => exact .inside rfl ⟨h, by simp⟩
  | ranOn hclear =>
    exact .returned rfl (.inl ⟨h.1, .inr (.of_last h.2 ⟨rfl, ⟨script, hs⟩, hclear⟩)⟩)
  | hit => exact .inside rfl ⟨h.1, by simp⟩
  | consumed hsignal =>
    refine .returned rfl (.inl ⟨h, .inl ⟨_, List.mem_append_right _ List.mem_cons_self, ?_⟩⟩)
    exact ⟨rfl, hsignal, by simp only [ht]; rfl⟩
  | missedStep => exact .inside rfl h
  | halted =>
    refine .inside rfl ⟨h.1, ⟨_, List.mem_append_right _ List.mem_cons_self, ?_⟩, ?_⟩
    · exact ⟨rfl, ⟨line, _, script, hs, rfl⟩, by simp only [ht]; rfl⟩
    · exact fun hsignal => absurd rfl hsignal
  | overtaken => exact .inside rfl h.1
  | marked => exact .inside rfl ⟨h.1, h.2.keep rfl⟩
  | announced =>
    exact .inside rfl ⟨congrArg (· ++ [Event.paused line]) h.1, h.2.keep rfl⟩
  | locked => exact .inside rfl ⟨h.1, h.2.keep rfl⟩
  | sawOrder hsignal => exact .inside rfl ⟨h.1, .inl ((h.2.granted hsignal).append _)⟩
  | sawNone => exact .inside rfl ⟨h.1, h.2.keep rfl⟩
  | sawEnd hend => exact .inside rfl ⟨h.1, .inr hend⟩
  | slept => exact .inside rfl ⟨h.1, h.2.keep rfl⟩
  | woke => exact .inside rfl ⟨h.1, h.2.keep rfl⟩
  | abandoned => exact .failed rfl (.inr h.1)
  | left hkept =>
    have hgranted : Follows Halts Grants turns := h.2.resolve_right (by simp [hkept])
    exact .inside rfl ⟨h.1, hgranted.append _⟩
  | drained => exact .inside rfl ⟨h.1, h.2.append _⟩
  | foundDrained => exact .inside rfl ⟨h.1, h.2.append _⟩
  | passed => exact .returned rfl (.inr ⟨h.1, h.2.append _⟩)

/-- A nudge leaves a call where it is, and permitted. -/
theorem Permitted.nudge {point : WaitPoint} (h : Permitted line sent turns s.run point)
    (hs : s.run.stage = .waiting line point script) (hn : Run.Nudged m s.run t.run) :
    CallState line script sent (turns ++ [⟨s, m, t⟩]) t.run := by
  rcases (hs ▸ hn.stage).eq_or_woken with ht | ⟨⟨woken, rfl⟩, ht⟩
  · refine .inside ht ?_
    cases point with
    | enter | observe | consume => exact hn.sent.trans h
    | filter => exact ⟨hn.sent.trans h.1, exists_append h.2 _⟩
    | halt seen => exact ⟨hn.sent.trans h.1, h.2⟩
    | mark | announce | lock | look | lookFlag | asleep =>
      exact ⟨hn.sent.trans h.1, h.2.nudge hn⟩
    | leave =>
      refine ⟨hn.sent.trans h.1, ?_⟩
      rcases h.2 with hgranted | hend
      · exact .inl (hgranted.append _)
      · exact .inr (hn.terminated hend)
    | drain | unmark => exact ⟨hn.sent.trans h.1, h.2.append _⟩
  · exact .inside ht ⟨hn.sent.trans h.1, h.2.nudge hn⟩

/-- **Every call does what is permitted**, whatever the host does meanwhile. -/
theorem WaitCall.state (h : WaitCall env line script s turns t) :
    CallState line script s.run.sent turns t.run := by
  apply h.induction
  · exact .inside h.starts rfl
  · intro turns t u point hstate hs hin
    exact (hstate.permitted hs).next hs hin
  · intro turns t u m point hstate hs hn
    exact (hstate.permitted hs).nudge hs hn

/-! ## 3. Steps that are overwritten -/

/-- The call in front of `script` lets the program go on: it has done so, or the next access of the
worker does it, whatever everybody else does until then. -/
def LetsPass (env : Environment) (script : Script) (t : Interplay) : Prop :=
  t.run.stage = .running script ∨
    ∀ turns u, t.Plays env turns u → (∀ x ∈ turns, x.move ≠ .worker) →
      ∃ v, u.move? env .worker = some v ∧ v.run.stage = .running script

/-- A call that has used up its step lets the program go on. -/
theorem letsPass_of_unmark (hs : t.run.stage = .waiting line .unmark script) :
    LetsPass env script t := by
  right
  intro turns u hplays hothers
  have hstays : u.run.stage = .waiting line .unmark script := by
    induction hplays with
    | start => exact hs
    | @next turns u v m hplays hm ih =>
      have hu := ih fun x hx => hothers x (List.mem_append_left _ hx)
      have hlast : m ≠ .worker := hothers _ (List.mem_append_right _ List.mem_cons_self)
      cases Interplay.moves_of_move? hm with
      | inside => exact absurd rfl hlast
      | outside => exact absurd rfl hlast
      | nudge hw hn => exact (hu ▸ hn.stage).eq_or_woken.resolve_right (by simp)
  refine ⟨{ u with run := { u.run with phase := .running false, stage := .running script } },
    ?_, rfl⟩
  rw [Interplay.move?, Run.step?, hstays]
  rfl

/-- The worker never means to take a step back. -/
theorem Interplay.Plays.halt_ne_step {job : Job} {breakpoints : LineSet}
    (h : (Interplay.ofJob job breakpoints).Plays env turns t) (line : Nat) (script : Script) :
    t.run.stage ≠ .waiting line (.halt .step) script := by
  induction h with
  | start => simp [ofJob, Run.ofJob]
  | @next turns t u m _ hm ih =>
    intro hs
    cases Interplay.moves_of_move? hm with
    | inside _ hin =>
      generalize u.run = r' at hin hs
      cases hin <;> cases hs
    | outside hout => cases hout.eq_enter hs
    | nudge _ hn => exact ih ((hs ▸ hn.stage).eq_or_asleep.resolve_right (by simp))

/-- **The worker overwrites a step only to let the program go on.** -/
theorem Run.Inside.letsPass {point : WaitPoint}
    (hin : Run.Inside s.breakpoints line script s.run point t.run) (hp : point ≠ .halt .step)
    (hstep : s.run.register.signal = .step) (hover : t.run.register.signal ≠ .step) :
    t.run.register.signal = .paused ∧ LetsPass env script t := by
  generalize ht : t.run = r' at hin hover
  cases hin with
  | consumed => exact ⟨rfl, .inl (by rw [ht])⟩
  | drained =>
    have hs : t.run.stage = .waiting line .unmark script := by rw [ht]
    exact ⟨rfl, letsPass_of_unmark hs⟩
  | halted => exact absurd (congrArg WaitPoint.halt hstep) hp
  | _ => exact absurd hstep hover

/-! ## 4. Permission -/

/-- **No line is passed without permission.**  Of every call of a run, in every history: it sends
its pause at most once.  If it lets the program go on without a pause, it has turned a step into a
pause itself, or it has read `running` and after that breakpoints that do not hold the line.  If it
lets the program go on after a pause, the host has ordered a step or to run on after the call had
taken the signal back to `paused`.  And an access of the worker that overwrites a step leaves
`paused` behind and belongs to a call that lets the program go on. -/
theorem Interplay.wait_permitted {job : Job} {breakpoints : LineSet}
    (h : (Interplay.ofJob job breakpoints).Plays env turns s) :
    (∀ line script body t, WaitCall env line script s body t →
      (t.run.sent = s.run.sent ∨ t.run.sent = s.run.sent ++ [.paused line]) ∧
      (t.run.stage = .running script →
        (t.run.sent = s.run.sent →
          (∃ x ∈ body, x.Consumes) ∨ Follows (Observes .running) (Clears line) body) ∧
        (t.run.sent ≠ s.run.sent → Follows Halts Grants body))) ∧
    ∀ t, s.move? env .worker = some t → s.run.register.signal = .step →
      t.run.register.signal ≠ .step → t.run.register.signal = .paused ∧
        ∃ line point script, s.run.stage = .waiting line point script ∧ LetsPass env script t := by
  constructor
  · intro line script body t hcall
    cases hcall.state with
    | inside hs hpermitted =>
      refine ⟨hpermitted.sent, fun hpassed => ?_⟩
      rw [hs] at hpassed
      cases hpassed
    | failed hs hsent =>
      refine ⟨hsent, fun hpassed => ?_⟩
      rw [hs] at hpassed
      cases hpassed
    | returned hs hreturned =>
      rcases hreturned with ⟨hsent, hfree⟩ | ⟨hsent, hgranted⟩
      · exact ⟨.inl hsent, fun _ => ⟨fun _ => hfree, fun hne => absurd hsent hne⟩⟩
      · exact ⟨.inr hsent, fun _ => ⟨fun heq => by simp [hsent] at heq, fun _ => hgranted⟩⟩
  · intro t hm hstep hover
    cases moves_of_move? hm with
    | @inside line point script hs hin =>
      have hpoint : point ≠ .halt .step := fun heq => h.halt_ne_step line script (heq ▸ hs)
      obtain ⟨hpaused, hpass⟩ := hin.letsPass hpoint hstep hover
      exact ⟨hpaused, line, point, script, hs, hpass⟩
    | outside hout => exact absurd (hout.register_eq ▸ hstep) hover
    | nudge hw => exact absurd rfl hw

/-- A call that reads `running` and is stopped by a breakpoint that the host has just set, and then
overtaken by a step, which its last access uses up; and a call that pauses and finds a step before
it sleeps. -/
theorem Interplay.wait_permitted_overtaken :
    let env : Environment :=
      { compile := fun job => .ok (Module.ofText job.source)
        script := fun _ => ⟨[.wait 3, .wait 4], .exited⟩ }
    let s := Interplay.ofJob { source := [] } .empty
    let enter : List Move := .order .run :: List.replicate 6 .worker
    let consume : List Move := [.worker, .worker, .breakpoints (.singleton 3), .worker,
      .order .step, .worker, .worker, .worker]
    let pause : List Move := List.replicate 4 .worker ++ [.order .step] ++ List.replicate 6 .worker
    let p₃ := (Interplay.play? env [] s enter).get (by decide)
    let q₃ := (Interplay.play? env [] p₃.2 consume).get (by decide)
    let o₃ := (Interplay.play? env [] s (enter ++ consume.dropLast)).get (by decide)
    let p₄ := (Interplay.play? env [] s (enter ++ consume ++ [.worker])).get (by decide)
    let q₄ := (Interplay.play? env [] p₄.2 pause).get (by decide)
    s.Plays env p₃.1 p₃.2 ∧ WaitCall env 3 ⟨[.wait 4], .exited⟩ p₃.2 q₃.1 q₃.2 ∧
      q₃.2.run.stage = .running ⟨[.wait 4], .exited⟩ ∧ q₃.2.run.sent = p₃.2.run.sent ∧
      ((∃ x ∈ q₃.1, x.Consumes) ∨ Follows (Observes .running) (Clears 3) q₃.1) ∧
      s.Plays env o₃.1 o₃.2 ∧ o₃.2.move? env .worker = some q₃.2 ∧
      o₃.2.run.register.signal = .step ∧ q₃.2.run.register.signal = .paused ∧
      (∃ line point script, o₃.2.run.stage = .waiting line point script ∧
        LetsPass env script q₃.2) ∧
      s.Plays env p₄.1 p₄.2 ∧ WaitCall env 4 ⟨[], .exited⟩ p₄.2 q₄.1 q₄.2 ∧
      q₄.2.run.stage = .running ⟨[], .exited⟩ ∧ q₄.2.run.sent ≠ p₄.2.run.sent ∧
      Follows Halts Grants q₄.1 := by
  intro env s enter consume pause p₃ q₃ o₃ p₄ q₄
  have hp₃ : s.Plays env p₃.1 p₃.2 := Plays.of_isSome _
  have ho₃ : s.Plays env o₃.1 o₃.2 := Plays.of_isSome _
  have hp₄ : s.Plays env p₄.1 p₄.2 := Plays.of_isSome _
  have hq₃ : WaitCall env 3 ⟨[.wait 4], .exited⟩ p₃.2 q₃.1 q₃.2 :=
    ⟨by decide +kernel, Plays.of_isSome _, by decide +kernel⟩
  have hq₄ : WaitCall env 4 ⟨[], .exited⟩ p₄.2 q₄.1 q₄.2 :=
    ⟨by decide +kernel, Plays.of_isSome _, by decide +kernel⟩
  have hpass₃ : q₃.2.run.stage = .running ⟨[.wait 4], .exited⟩ := by decide +kernel
  have hpass₄ : q₄.2.run.stage = .running ⟨[], .exited⟩ := by decide +kernel
  have hsent₃ : q₃.2.run.sent = p₃.2.run.sent := by decide +kernel
  have hsent₄ : q₄.2.run.sent ≠ p₄.2.run.sent := by decide +kernel
  have hm₃ : o₃.2.move? env .worker = some q₃.2 := by decide +kernel
  have hstep₃ : o₃.2.run.register.signal = .step := by decide +kernel
  obtain ⟨hpaused₃, hpasses₃⟩ := (wait_permitted ho₃).2 _ hm₃ hstep₃ (by decide +kernel)
  obtain ⟨-, hfree⟩ := (wait_permitted hp₃).1 _ _ _ _ hq₃
  obtain ⟨-, hgranted⟩ := (wait_permitted hp₄).1 _ _ _ _ hq₄
  exact ⟨hp₃, hq₃, hpass₃, hsent₃, (hfree hpass₃).1 hsent₃, ho₃, hm₃, hstep₃, hpaused₃, hpasses₃,
    hp₄, hq₄, hpass₄, hsent₄, (hgranted hpass₄).2 hsent₄⟩

end Stepwise
