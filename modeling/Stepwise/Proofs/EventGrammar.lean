import Stepwise.Proofs.Interplay

/-!
# What a run reports

The events of a run are a sentence of a small grammar, whatever the toolchain makes of the program,
whatever the program does and whatever the host orders meanwhile (`Report`).  The runner that cannot
hold programs and the toolchain that refuses the program are told by a fault and the last event.  A
program that starts is told by `compiled`, by what it prints and where it pauses, and by how it
ends.  A run that is given up may fall silent before `compiled` or anywhere behind it.

What a run has said so far depends on where its worker stands: `Run.SaysAt` lists it stage by stage,
every move keeps it (`Interplay.Moves.saysAt`), and the statements about whole runs are read off it.

Main statement:

* `Interplay.report_of_plays`: the report of every run, the phases in which its events are sent, and
  the silence behind its end.
-/

namespace Stepwise

/-! ## 1. Reports -/

/-- How a fault is reported. -/
def Fault.report (f : Fault) : List Event := [.log (Run.faultText f), .finished]

/-- How the end of a program is reported. -/
def Outcome.report : Outcome → List Event
  | exited => [.finished]
  | trapped reason => (Fault.trap reason).report
  | unsupported reason => (Fault.unsupported reason).report
  | terminated => []

/-- Whether a program can cause an event on its way. -/
def Event.isMidway : Event → Bool
  | log _ | paused _ => true
  | compiled | finished => false

/-- The events that a program causes from its start on, as long as it has not come to its end. -/
def Underway (events : List Event) : Prop :=
  ∃ body : List Event, (∀ e ∈ body, e.isMidway) ∧ events = .compiled :: body

/-- Whether a program can be held, and is compiled to one that comes to that end. -/
def Environment.Makes (env : Environment) (job : Job) (outcome : Outcome) : Prop :=
  env.canSuspend ∧ ∃ m, env.compile job = .ok m ∧ (env.script m).outcome = outcome

/-- The reports of a run whose worker is gone, with what was the cause of each. -/
inductive Report (env : Environment) (job : Job) (givenUp : Bool) : List Event → Prop
  /-- The run was given up before the program started. -/
  | silent {outcome : Outcome} (hm : env.Makes job outcome) (h : givenUp) :
      Report env job givenUp []
  /-- Programs cannot be held at a step. -/
  | refused (h : env.canSuspend = false) :
      Report env job givenUp (Fault.unsupported Run.cannotSuspend).report
  /-- There is no compiled program. -/
  | uncompiled {e : CompileError} (hs : env.canSuspend) (h : env.compile job = .error e) :
      Report env job givenUp e.fault.report
  /-- The program came to its end. -/
  | ended {outcome : Outcome} {events : List Event} (hm : env.Makes job outcome)
      (h : Underway events) : Report env job givenUp (events ++ outcome.report)
  /-- The run was given up on the way. -/
  | stopped {outcome : Outcome} {events : List Event} (hm : env.Makes job outcome)
      (h : Underway events) (hg : givenUp) : Report env job givenUp events

/-- The phase that the host sees when an event is sent. -/
def Event.Suits (phase : RunPhase) : Event → Prop
  | compiled => phase = .running false
  | log _ => phase = .running false ∨ phase = .failed
  | paused _ => phase = .running true
  | finished => phase.isOver

theorem Underway.concat {events : List Event} {e : Event} (h : Underway events)
    (he : e.isMidway) : Underway (events ++ [e]) := by
  obtain ⟨body, hbody, rfl⟩ := h
  refine ⟨body ++ [e], fun e' he' => ?_, rfl⟩
  rcases List.mem_append.1 he' with hold | hnew
  · exact hbody e' hold
  · rw [List.mem_singleton.1 hnew]
    exact he

/-- On its way a program is told to be compiled once, and first. -/
theorem Underway.compiled_notMem_tail {events : List Event} (h : Underway events) :
    .compiled ∉ events.tail := by
  obtain ⟨body, hbody, rfl⟩ := h
  intro hmem
  cases hbody _ hmem

theorem Underway.finished_notMem {events : List Event} (h : Underway events) :
    .finished ∉ events := by
  obtain ⟨body, hbody, rfl⟩ := h
  intro hmem
  rcases List.mem_cons.1 hmem with heq | hmem
  · cases heq
  · cases hbody _ hmem

namespace Outcome

theorem compiled_notMem_report (o : Outcome) : .compiled ∉ o.report := by
  cases o <;> simp [report, Fault.report]

theorem finished_notMem_dropLast (o : Outcome) : .finished ∉ o.report.dropLast := by
  cases o <;> simp [report, Fault.report]

end Outcome

namespace Report

variable {env : Environment} {job : Job} {givenUp givenUp' : Bool} {events : List Event}

theorem mono (h : Report env job givenUp events) (hg : givenUp → givenUp') :
    Report env job givenUp' events := by
  cases h with
  | silent hm h => exact .silent hm (hg h)
  | refused h => exact .refused h
  | uncompiled hs h => exact .uncompiled hs h
  | ended hm h => exact .ended hm h
  | stopped hm h h' => exact .stopped hm h (hg h')

/-- **`compiled` comes at most once and first.** -/
theorem compiled_notMem_tail (h : Report env job givenUp events) : .compiled ∉ events.tail := by
  cases h with
  | silent => simp
  | refused => simp [Fault.report]
  | uncompiled => simp [Fault.report]
  | stopped _ h => exact h.compiled_notMem_tail
  | @ended outcome events _ h =>
    obtain ⟨body, hbody, rfl⟩ := h
    intro hmem
    rcases List.mem_append.1 hmem with hbegin | hend
    · exact absurd (hbody _ hbegin) (by simp [Event.isMidway])
    · exact outcome.compiled_notMem_report hend

/-- **Nothing follows `finished`.** -/
theorem finished_notMem_dropLast (h : Report env job givenUp events) :
    .finished ∉ events.dropLast := by
  cases h with
  | silent => simp
  | refused => simp [Fault.report]
  | uncompiled => simp [Fault.report]
  | stopped _ h => exact fun hmem => h.finished_notMem (List.dropLast_subset _ hmem)
  | @ended outcome events _ h =>
    intro hmem
    by_cases hend : outcome.report = []
    · rw [hend, List.append_nil] at hmem
      exact h.finished_notMem (List.dropLast_subset _ hmem)
    · rw [List.dropLast_append_of_ne_nil hend] at hmem
      rcases List.mem_append.1 hmem with hbegin | hlast
      · exact h.finished_notMem hbegin
      · exact outcome.finished_notMem_dropLast hlast

/-- In a report as in what is the beginning of one, `compiled` is the first event and `finished` the
last. -/
theorem ends_of_append {before after rest : List Event} {e : Event}
    (h : Report env job givenUp (before ++ e :: after ++ rest)) :
    (e = .compiled → before = []) ∧ (e = .finished → after = []) := by
  constructor
  · rintro rfl
    cases before with
    | nil => rfl
    | cons b before => exact absurd (by simp) h.compiled_notMem_tail
  · rintro rfl
    cases after with
    | nil => rfl
    | cons a after =>
      have hlast : before ++ .finished :: a :: after ++ rest =
          (before ++ [.finished]) ++ (a :: after ++ rest) := by simp
      rw [hlast] at h
      have hmem := h.finished_notMem_dropLast
      rw [List.dropLast_append_of_ne_nil (by simp)] at hmem
      exact absurd (by simp) hmem

end Report

/-! ## 2. What has been said where -/

/-- Whether the program is shown as blocked while the worker stands there. -/
def WaitPoint.showsBlocked : WaitPoint → Bool
  | enter | observe | filter | consume | halt _ | mark => false
  | announce | lock | look | lookFlag | asleep _ | leave | drain | unmark => true

namespace Run

/-- A run of a program that has started, and comes to that end if it is not given up. -/
structure Acts (env : Environment) (job : Job) (outcome : Outcome) (blocked : Bool) (r : Run) :
    Prop where
  made : env.Makes job outcome
  sent : Underway r.sent
  phase : r.phase = .running blocked

/-- What a run has said, and what the host sees of it, if its worker stands at that stage. -/
def SaysAt (env : Environment) (job : Job) (r : Run) : Stage → Prop
  | .fresh job' => job' = job ∧ r.sent = []
  | .compiling job' _ => job' = job ∧ env.canSuspend ∧ r.sent = []
  | .loaded script | .launching script => env.Makes job script.outcome ∧ r.sent = []
  | .greeting script => env.Makes job script.outcome ∧ r.sent = [] ∧ r.phase = .running false
  | .running script | .printing _ script => r.Acts env job script.outcome false
  | .waiting _ point script => r.Acts env job script.outcome point.showsBlocked
  | .ended outcome => Report env job r.register.terminated (r.sent ++ outcome.report)
  | .failing fault => Report env job r.register.terminated (r.sent ++ fault.report)
  | .complaining fault =>
    Report env job r.register.terminated (r.sent ++ fault.report) ∧ r.phase = .failed
  | .closing => Report env job r.register.terminated (r.sent ++ [.finished]) ∧ r.phase.isOver
  | .done => Report env job r.register.terminated r.sent

variable {env : Environment} {job : Job} {breakpoints : LineSet} {r r' : Run}

/-- An access inside a call says what belongs there.  It falls out of the call at its beginning or
behind its sleep, because the run was given up. -/
theorem Acts.inside {line : Nat} {script : Script} {point : WaitPoint}
    (h : r.Acts env job script.outcome point.showsBlocked)
    (hin : Inside breakpoints line script r point r') : r'.SaysAt env job r'.stage := by
  have hstopped : r.register.terminated → Report env job r.register.terminated (r.sent ++ []) := by
    intro hend
    rw [List.append_nil]
    exact .stopped h.made h.sent hend
  cases hin with
  | refused hend => exact hstopped hend
  | abandoned hend => exact hstopped hend
  | announced => exact ⟨h.made, h.sent.concat rfl, h.phase⟩
  | marked => exact ⟨h.made, h.sent, rfl⟩
  | passed => exact ⟨h.made, h.sent, rfl⟩
  | _ => exact ⟨h.made, h.sent, h.phase⟩

/-- An access between the calls says what belongs there. -/
theorem Outside.saysAt (h : Outside env r r') (hr : r.SaysAt env job r.stage) :
    r'.SaysAt env job r'.stage := by
  have hspoken : ∀ {stage}, r.stage = stage → r.SaysAt env job stage := fun hs => hs ▸ hr
  cases h with
  | accepted hs hc =>
    obtain ⟨heq, hsent⟩ := hspoken hs
    exact ⟨heq, hc, hsent⟩
  | unsuited hs hc =>
    obtain ⟨-, hsent⟩ := hspoken hs
    refine (?_ : Report env job _ (r.sent ++ _))
    rw [hsent]
    exact .refused hc
  | @compiled job' m hs hm =>
    obtain ⟨rfl, hc, hsent⟩ := hspoken hs
    exact ⟨⟨hc, m, hm, rfl⟩, hsent⟩
  | @rejected job' e hs he =>
    obtain ⟨rfl, hc, hsent⟩ := hspoken hs
    refine (?_ : Report env job' _ (r.sent ++ _))
    rw [hsent]
    exact .uncompiled hc he
  | abandoned hs hend =>
    obtain ⟨hmade, hsent⟩ := hspoken hs
    refine (?_ : Report env job _ r.sent)
    rw [hsent]
    exact .silent hmade hend
  | loaded hs => exact hspoken hs
  | launched hs =>
    obtain ⟨hmade, hsent⟩ := hspoken hs
    exact ⟨hmade, hsent, rfl⟩
  | greeted hs =>
    obtain ⟨hmade, hsent, hphase⟩ := hspoken hs
    exact ⟨hmade, ⟨[], by simp, by simp [send, goto, hsent]⟩, hphase⟩
  | stopped hs =>
    obtain ⟨hmade, hsent, -⟩ := hspoken hs
    exact .ended hmade hsent
  | wrote hs =>
    obtain ⟨hmade, hsent, hphase⟩ := hspoken hs
    exact ⟨hmade, hsent.concat rfl, hphase⟩
  | muted hs | printed hs | began hs =>
    obtain ⟨hmade, hsent, hphase⟩ := hspoken hs
    exact ⟨hmade, hsent, hphase⟩
  | exited hs | failed hs => exact ⟨hspoken hs, rfl⟩
  | trapped hs | unsupported hs => exact hspoken hs
  | vanished hs =>
    have hreport : Report env job r.register.terminated (r.sent ++ []) := hspoken hs
    rw [List.append_nil] at hreport
    exact hreport
  | @complained fault hs =>
    obtain ⟨hreport, hphase⟩ := hspoken hs
    refine ⟨?_, congrArg RunPhase.isOver hphase⟩
    refine (?_ : Report env job _ (r.sent ++ [.log (faultText fault)] ++ [.finished]))
    rw [List.append_assoc]
    exact hreport
  | closed hs => exact (hspoken hs).1

/-- A nudge leaves what a run has said in order. -/
theorem Nudged.saysAt {m : Move} (h : Nudged m r r') (hr : r.SaysAt env job r.stage) :
    r'.SaysAt env job r'.stage := by
  have hstage : r.SaysAt env job r'.stage := by
    have hnudged := h.stage
    generalize r.stage = stage, r'.stage = stage' at hnudged hr
    cases hnudged <;> exact hr
  generalize r'.stage = stage at hstage
  have hacts : ∀ outcome blocked, r.Acts env job outcome blocked →
      r'.Acts env job outcome blocked := fun _ _ ha =>
    ⟨ha.made, h.sent ▸ ha.sent, h.phase.trans ha.phase⟩
  have hreport : ∀ rest, Report env job r.register.terminated (r.sent ++ rest) →
      Report env job r'.register.terminated (r'.sent ++ rest) := fun rest hold =>
    h.sent ▸ hold.mono h.terminated
  cases stage with
  | fresh job' => exact ⟨hstage.1, h.sent.trans hstage.2⟩
  | compiling job' gated => exact ⟨hstage.1, hstage.2.1, h.sent.trans hstage.2.2⟩
  | loaded script | launching script => exact ⟨hstage.1, h.sent.trans hstage.2⟩
  | greeting script => exact ⟨hstage.1, h.sent.trans hstage.2.1, h.phase.trans hstage.2.2⟩
  | running script | printing text script | waiting line point script => exact hacts _ _ hstage
  | ended outcome | failing fault => exact hreport _ hstage
  | complaining fault => exact ⟨hreport _ hstage.1, h.phase.trans hstage.2⟩
  | closing => exact ⟨hreport _ hstage.1, (congrArg RunPhase.isOver h.phase).trans hstage.2⟩
  | done =>
    have hdone : Report env job r.register.terminated r.sent := hstage
    refine (?_ : Report env job r'.register.terminated r'.sent)
    rw [h.sent]
    exact hdone.mono h.terminated

/-- What a run has said can be completed to a report. -/
theorem SaysAt.exists_report {stage : Stage} (h : r.SaysAt env job stage) :
    ∃ rest, Report env job r.register.terminated (r.sent ++ rest) := by
  have hfresh : r.sent = [] → ∃ rest, Report env job r.register.terminated (r.sent ++ rest) := by
    intro hsent
    rw [hsent]
    cases hc : env.canSuspend with
    | false => exact ⟨_, .refused hc⟩
    | true =>
      cases hm : env.compile job with
      | error e => exact ⟨_, .uncompiled hc hm⟩
      | ok m => exact ⟨.compiled :: _, .ended ⟨hc, m, hm, rfl⟩ ⟨[], by simp, rfl⟩⟩
  cases stage with
  | fresh job' => exact hfresh h.2
  | compiling job' gated => exact hfresh h.2.2
  | loaded script | launching script => exact hfresh h.2
  | greeting script => exact hfresh h.2.1
  | running script | printing text script | waiting line point script =>
    exact ⟨_, .ended h.made h.sent⟩
  | ended outcome | failing fault => exact ⟨_, h⟩
  | complaining fault | closing => exact ⟨_, h.1⟩
  | done => exact ⟨[], (List.append_nil _).symm ▸ h⟩

/-- Inside a call nothing is sent but the pause, which suits the phase then. -/
theorem Acts.sends_inside {line : Nat} {script : Script} {point : WaitPoint}
    (h : r.Acts env job script.outcome point.showsBlocked)
    (hin : Inside breakpoints line script r point r') :
    r'.sent = r.sent ∨ ∃ e, r'.sent = r.sent ++ [e] ∧ e.Suits r'.phase := by
  cases hin with
  | announced => exact .inr ⟨_, rfl, h.phase⟩
  | _ => exact .inl rfl

theorem Outside.sends (h : Outside env r r') (hr : r.SaysAt env job r.stage) :
    r'.sent = r.sent ∨ ∃ e, r'.sent = r.sent ++ [e] ∧ e.Suits r'.phase := by
  have hspoken : ∀ {stage}, r.stage = stage → r.SaysAt env job stage := fun hs => hs ▸ hr
  cases h with
  | greeted hs => exact .inr ⟨_, rfl, (hspoken hs).2.2⟩
  | wrote hs => exact .inr ⟨_, rfl, .inl (hspoken hs).phase⟩
  | complained hs => exact .inr ⟨_, rfl, .inr (hspoken hs).2⟩
  | closed hs => exact .inr ⟨_, rfl, (hspoken hs).2⟩
  | _ => exact .inl rfl

end Run

/-! ## 3. Whole runs -/

namespace Interplay

variable {env : Environment} {job : Job} {breakpoints : LineSet} {s t u : Interplay}
  {turns : List Turn} {m : Move}

/-- **Every move** says what belongs to the stage that it leads to. -/
theorem Moves.saysAt (h : s.Moves env t m) (hs : s.run.SaysAt env job s.run.stage) :
    t.run.SaysAt env job t.run.stage := by
  cases h with
  | inside hstage hin =>
    rw [hstage] at hs
    exact Run.Acts.inside hs hin
  | outside hout => exact hout.saysAt hs
  | nudge _ hn => exact hn.saysAt hs

theorem Moves.sends (h : s.Moves env t m) (hs : s.run.SaysAt env job s.run.stage) :
    t.run.sent = s.run.sent ∨ ∃ e, t.run.sent = s.run.sent ++ [e] ∧ e.Suits t.run.phase := by
  cases h with
  | inside hstage hin =>
    rw [hstage] at hs
    exact Run.Acts.sends_inside hs hin
  | outside hout => exact hout.sends hs
  | nudge _ hn => exact .inl hn.sent

/-- What a run has said is in order at all times. -/
theorem Plays.saysAt (h : (ofJob job breakpoints).Plays env turns t) :
    t.run.SaysAt env job t.run.stage := by
  induction h with
  | start => exact ⟨rfl, rfl⟩
  | next _ hm ih => exact (moves_of_move? hm).saysAt ih

/-- Every turn of a run sends one event at most, and one that suits the phase. -/
theorem Plays.sends (h : (ofJob job breakpoints).Plays env turns t) :
    ∀ x ∈ turns, x.after.run.sent = x.before.run.sent ∨
      ∃ e, x.after.run.sent = x.before.run.sent ++ [e] ∧ e.Suits x.after.run.phase := by
  induction h with
  | start => simp
  | next hplays hm ih =>
    intro x hx
    rcases List.mem_append.1 hx with hold | hlast
    · exact ih x hold
    · rw [List.mem_singleton.1 hlast]
      exact (moves_of_move? hm).sends hplays.saysAt

/-- A run that was given up stays so. -/
theorem Plays.terminated_of_mem (h : s.Plays env turns t) {x : Turn} (hx : x ∈ turns)
    (hend : x.move = .order .terminate) : t.run.register.terminated := by
  induction h with
  | start => cases hx
  | next _ hm ih =>
    rcases List.mem_append.1 hx with hold | hlast
    · exact (moves_of_move? hm).terminated (ih hold)
    · rw [List.mem_singleton.1 hlast] at hend
      subst hend
      cases moves_of_move? hm with
      | nudge _ hn =>
        rw [hn.register]
        rfl

/-- A print that begins when the run has been given up is passed over. -/
theorem exists_move?_print {text : Text} {acts : List Act} {outcome : Outcome}
    (hs : t.run.stage = .running ⟨.print text :: acts, outcome⟩)
    (hend : t.run.register.terminated) :
    ∃ u, t.move? env .worker = some u ∧ u.run.stage = .running ⟨acts, outcome⟩ ∧
      u.run.sent = t.run.sent := by
  refine ⟨{ t with run := t.run.goto (.running ⟨acts, outcome⟩) }, ?_, rfl, rfl⟩
  simp [move?, Run.step?, hs, hend]

end Interplay

/-- **A call that begins when the run has been given up** goes no further than its first access,
and sends nothing. -/
theorem WaitCall.of_terminated {env : Environment} {line : Nat} {script : Script}
    {s t : Interplay} {turns : List Turn} (h : WaitCall env line script s turns t)
    (hend : s.run.register.terminated) : t.run.sent = s.run.sent ∧
      t.run.register.terminated ∧
      (t.run.stage = .waiting line .enter script ∨ t.run.stage = .ended .terminated) := by
  apply h.induction
  · exact ⟨rfl, hend, .inl h.starts⟩
  · rintro turns t u point ⟨hsent, hkept, hstage⟩ hs hin
    obtain rfl : point = .enter := by simpa [hs] using hstage
    generalize u.run = r' at hin
    cases hin with
    | refused => exact ⟨hsent, hkept, .inr rfl⟩
    | entered hnot => simp [hkept] at hnot
  · rintro turns t u m point ⟨hsent, hkept, hstage⟩ hs hn
    obtain rfl : point = .enter := by simpa [hs] using hstage
    have hstays := (hs ▸ hn.stage).eq_or_woken.resolve_right (by simp)
    exact ⟨hn.sent.trans hsent, hn.terminated hkept, .inl hstays⟩

/-! ## 4. The grammar -/

namespace Interplay

/-- **Every run speaks the grammar.**  When its worker is gone, a run has sent a report; before that
it has sent what can be completed to one.  `compiled` comes at most once and first, and nothing
follows `finished`.  Every turn sends one event at most, in the phase that belongs to it.  And as
soon as the host has given up the run, what the program prints is passed over, and a call that
announces a line sends nothing and does not let the program go on. -/
theorem report_of_plays {env : Environment} {job : Job} {breakpoints : LineSet}
    {turns : List Turn} {t : Interplay} (h : (ofJob job breakpoints).Plays env turns t) :
    (t.run.stage = .done → Report env job t.run.register.terminated t.run.sent) ∧
    (∃ rest, Report env job t.run.register.terminated (t.run.sent ++ rest)) ∧
    (∀ before e after, t.run.sent = before ++ e :: after →
      (e = .compiled → before = []) ∧ (e = .finished → after = [])) ∧
    (∀ x ∈ turns, x.after.run.sent = x.before.run.sent ∨
      ∃ e, x.after.run.sent = x.before.run.sent ++ [e] ∧ e.Suits x.after.run.phase) ∧
    ((∃ x ∈ turns, x.move = .order .terminate) →
      (∀ text acts outcome, t.run.stage = .running ⟨.print text :: acts, outcome⟩ →
        ∃ u, t.move? env .worker = some u ∧ u.run.stage = .running ⟨acts, outcome⟩ ∧
          u.run.sent = t.run.sent) ∧
      ∀ line script body u, WaitCall env line script t body u →
        u.run.sent = t.run.sent ∧ u.run.stage ≠ .running script) := by
  have hspoken := h.saysAt
  obtain ⟨rest, hreport⟩ := hspoken.exists_report
  refine ⟨fun hdone => ?_, ⟨rest, hreport⟩, fun before e after hsent => ?_, h.sends, ?_⟩
  · rw [hdone] at hspoken
    exact hspoken
  · rw [hsent] at hreport
    exact hreport.ends_of_append
  · rintro ⟨x, hx, hterminate⟩
    have hend := h.terminated_of_mem hx hterminate
    refine ⟨fun text acts outcome hs => exists_move?_print hs hend, ?_⟩
    intro line script body u hcall
    obtain ⟨hsent, -, hstage⟩ := hcall.of_terminated hend
    refine ⟨hsent, fun hpassed => ?_⟩
    rw [hpassed] at hstage
    simp at hstage

/-- A program that prints and pauses; it is let go on and given up then, before it prints again.  It
is in front of that print, in front of the next announcement, and gone in turn. -/
theorem report_of_plays_given_up :
    let env : Environment :=
      { compile := fun job => .ok (Module.ofText job.source)
        script := fun _ => ⟨[.print "a", .wait 3, .print "b", .wait 4], .exited⟩ }
    let s := Interplay.ofJob { source := [] } .empty
    let begin : List Move := List.replicate 16 .worker ++ [.order .run] ++
      List.replicate 5 .worker ++ [.order .terminate]
    let p := (Interplay.play? env [] s begin).get (by decide +kernel)
    let q := (Interplay.play? env [] s (begin ++ [.worker, .worker])).get (by decide +kernel)
    let b := (Interplay.play? env [] q.2 [.worker]).get (by decide +kernel)
    let d := (Interplay.play? env [] s (begin ++ List.replicate 4 .worker)).get (by decide +kernel)
    s.Plays env p.1 p.2 ∧ (∃ x ∈ p.1, x.move = .order .terminate) ∧
      p.2.run.stage = .running ⟨[.print "b", .wait 4], .exited⟩ ∧
      (∃ u, p.2.move? env .worker = some u ∧ u.run.stage = .running ⟨[.wait 4], .exited⟩ ∧
        u.run.sent = p.2.run.sent) ∧
      s.Plays env q.1 q.2 ∧ WaitCall env 4 ⟨[], .exited⟩ q.2 b.1 b.2 ∧
      b.2.run.sent = q.2.run.sent ∧ b.2.run.stage ≠ .running ⟨[], .exited⟩ ∧
      s.Plays env d.1 d.2 ∧ d.2.run.stage = .done ∧
      d.2.run.sent = [.compiled, .log "a", .paused 3] ∧
      Report env { source := [] } true d.2.run.sent := by
  intro env s begin p q b d
  have hp : s.Plays env p.1 p.2 := Plays.of_isSome _
  have hq : s.Plays env q.1 q.2 := Plays.of_isSome _
  have hd : s.Plays env d.1 d.2 := Plays.of_isSome _
  have hb : WaitCall env 4 ⟨[], .exited⟩ q.2 b.1 b.2 :=
    ⟨by decide +kernel, Plays.of_isSome _, by decide +kernel⟩
  have hendp : ∃ x ∈ p.1, x.move = .order .terminate := by decide +kernel
  have hendq : ∃ x ∈ q.1, x.move = .order .terminate := by decide +kernel
  have hprint : p.2.run.stage = .running ⟨[.print "b", .wait 4], .exited⟩ := by decide +kernel
  have hdone : d.2.run.stage = .done := by decide +kernel
  have hgone : d.2.run.register.terminated = true := by decide +kernel
  have hsent : d.2.run.sent = [.compiled, .log "a", .paused 3] := by decide +kernel
  obtain ⟨-, -, -, -, hsilent⟩ := report_of_plays hp
  obtain ⟨-, -, -, -, hrefused⟩ := report_of_plays hq
  obtain ⟨hkept, hheld⟩ := (hrefused hendq).2 _ _ _ _ hb
  have hreport := (report_of_plays hd).1 hdone
  rw [hgone] at hreport
  exact ⟨hp, hendp, hprint, (hsilent hendp).1 _ _ _ hprint, hq, hb, hkept, hheld, hd, hdone, hsent,
    hreport⟩

end Interplay

end Stepwise
