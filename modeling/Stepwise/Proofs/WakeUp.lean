import Stepwise.Proofs.Interplay

/-!
# Orders reach a sleeping worker

Here an order of the host is not one move.  The host takes the lock of the register, writes,
notifies and gives the lock back, and between any two of these the worker makes whatever access
needs no lock: it reads the signal, takes it back, uses up a step.  A worker that wants the lock,
at the beginning of its sleep or when it wakes up, waits until the host has given it back.

A worker that falls asleep has seen `paused` and no end under the lock.  What the host writes after
that it makes known before it gives the lock back, unless it is a pause (`Contest.Sound`).

Main statement:

* `Contest.paused_of_asleep`: a worker that sleeps while no notification is pending has nothing to
  do; and the call that an order has been written in does not fall asleep any more, unless a pause
  comes after the order.
-/

namespace Stepwise

/-! ## 1. Orders taken apart -/

/-- How far the host is with an order that it carries out under the lock of the register. -/
inductive Grip where
  /-- The host does not hold the lock. -/
  | free
  /-- It holds the lock, and writes next. -/
  | taken (o : Order)
  /-- It has written, and notifies next if the order does. -/
  | written (o : Order)
  /-- It gives the lock back next. -/
  | told
  deriving DecidableEq

/-- Whether the next access of a worker takes the lock. -/
def Stage.takesLock : Stage → Bool
  | waiting _ .lock _ | waiting _ (.asleep _) _ => true
  | _ => false

/-- Host and worker, who contend for the lock of the register. -/
structure Contest where
  interplay : Interplay
  grip : Grip := .free
  deriving DecidableEq

namespace Contest

/-- The moves of host and worker. -/
inductive Move where
  /-- A move that the host needs no lock for. -/
  | plain (m : Stepwise.Move)
  /-- The host takes the lock for an order. -/
  | take (o : Order)
  /-- It writes what it orders. -/
  | write
  /-- It notifies a sleeping worker, if the order does. -/
  | tell
  /-- It gives the lock back. -/
  | give
  deriving DecidableEq

/-- The run between host and worker. -/
def run (c : Contest) : Run := c.interplay.run

/-- The contest with something done to the run. -/
def onRun (c : Contest) (f : Run → Run) : Contest :=
  { c with interplay := { c.interplay with run := f c.interplay.run } }

/-- Whether a notification of the host is still to come. -/
def pending (c : Contest) : Bool :=
  match c.grip with
  | .written o => o.wakes
  | _ => false

/-- What a move leads to, if it can be made. -/
def move? (env : Environment) (c : Contest) : Move → Option Contest
  | .plain (.order _) => none
  | .plain m =>
    if m = .worker ∧ c.run.stage.takesLock ∧ c.grip ≠ .free then none
    else (c.interplay.move? env m).map ({ c with interplay := · })
  | .take o => if c.grip = .free ∧ ¬ c.run.isLocked then some { c with grip := .taken o } else none
  | .write =>
    match c.grip with
    | .taken o =>
      some { c.onRun fun r => { r with register := o.write r.register } with grip := .written o }
    | _ => none
  | .tell =>
    match c.grip with
    | .written o => some { (if o.wakes then c.onRun Run.notify else c) with grip := .told }
    | _ => none
  | .give => if c.grip = .told then some { c with grip := .free } else none

/-- What moves in turn lead to, if they can be made. -/
def after? (env : Environment) (c : Contest) : List Move → Option Contest
  | [] => some c
  | m :: moves => (c.move? env m).bind (after? env · moves)

/-- What a move is, with the lock that it needs. -/
inductive Moves (env : Environment) (c d : Contest) : Move → Prop
  | plain {m : Stepwise.Move} (h : c.interplay.Moves env d.interplay m) (ho : ∀ o, m ≠ .order o)
      (hgrip : d.grip = c.grip) (hlock : m = .worker → c.run.stage.takesLock → c.grip = .free) :
      Moves env c d (.plain m)
  | take (o : Order) (hgrip : c.grip = .free) (hlock : c.run.isLocked = false)
      (h : d = { c with grip := .taken o }) : Moves env c d (.take o)
  | write (o : Order) (hgrip : c.grip = .taken o)
      (h : d = { c.onRun fun r => { r with register := o.write r.register } with
        grip := .written o }) : Moves env c d .write
  | tell (o : Order) (hgrip : c.grip = .written o)
      (h : d = { (if o.wakes then c.onRun Run.notify else c) with grip := .told }) :
      Moves env c d .tell
  | give (hgrip : c.grip = .told) (h : d = { c with grip := .free }) : Moves env c d .give

variable {env : Environment} {c d : Contest}

/-- **One move** is one of these. -/
theorem moves_of_move? {m : Move} (h : c.move? env m = some d) : Moves env c d m := by
  cases m with
  | plain m =>
    have hplain : (∀ o, m ≠ .order o) ∧
        (if m = .worker ∧ c.run.stage.takesLock ∧ c.grip ≠ .free then none
          else (c.interplay.move? env m).map ({ c with interplay := · })) = some d := by
      cases m with
      | order o => cases h
      | _ => exact ⟨by simp, h⟩
    obtain ⟨ho, h⟩ := hplain
    simp only [Option.ite_none_left_eq_some, Option.map_eq_some_iff] at h
    obtain ⟨hlock, interplay, hm, rfl⟩ := h
    refine .plain (Interplay.moves_of_move? hm) ho rfl fun hw ht => ?_
    exact Decidable.byContradiction fun hfree => hlock ⟨hw, ht, hfree⟩
  | take o =>
    simp only [move?, Option.ite_none_right_eq_some, Option.some.injEq, Bool.not_eq_true] at h
    exact .take o h.1.1 h.1.2 h.2.symm
  | write =>
    simp only [move?] at h
    split at h
    · next o hgrip => exact .write o hgrip (Option.some.inj h).symm
    · cases h
  | tell =>
    simp only [move?] at h
    split at h
    · next o hgrip => exact .tell o hgrip (Option.some.inj h).symm
    · cases h
  | give =>
    simp only [move?, Option.ite_none_right_eq_some, Option.some.injEq] at h
    exact .give h.1 h.2.symm

/-- What every move keeps holds after all of them. -/
theorem after?_induction {P : Contest → Prop} {moves : List Move}
    (hstep : ∀ c m d, m ∈ moves → P c → c.move? env m = some d → P d) (hc : P c)
    (h : c.after? env moves = some d) : P d := by
  induction moves generalizing c with
  | nil =>
    cases h
    exact hc
  | cons m moves ih =>
    obtain ⟨e, hm, hmoves⟩ := Option.bind_eq_some_iff.1 h
    have he := hstep c m e List.mem_cons_self hc hm
    exact ih (fun c m d hmem => hstep c m d (List.mem_cons_of_mem _ hmem)) he hmoves

/-- An order whose parts are made in turn is the order as one move. -/
theorem after?_order (o : Order) (hgrip : c.grip = .free) (hlock : c.run.isLocked = false) :
    c.after? env [.take o, .write, .tell, .give] =
      (c.interplay.move? env (.order o)).map ({ c with interplay := · }) := by
  have hlock' : c.interplay.run.isLocked = false := hlock
  cases o <;> simp [after?, move?, Interplay.move?, onRun, run, hgrip, hlock', Run.obey_eq,
    Order.wakes]

end Contest

/-! ## 2. Falling asleep -/

namespace Run

variable {env : Environment} {breakpoints : LineSet} {r r' : Run} {line line' : Nat}
  {script script' : Script} {point point' : WaitPoint}

theorem Inside.signal_of_lookFlag (h : Inside breakpoints line script r point r')
    (hs : r'.stage = .waiting line' .lookFlag script') : r'.register.signal = .paused := by
  cases h with
  | sawNone h => exact h
  | _ => cases hs

/-- A worker falls asleep if it was about to and the run is not given up. -/
theorem Inside.lookFlag_of_asleep (h : Inside breakpoints line script r point r')
    (hs : r'.stage = .waiting line' (.asleep false) script') :
    point = .lookFlag ∧ r.register.terminated = false ∧ r'.register = r.register := by
  cases h with
  | slept h => exact ⟨rfl, h, rfl⟩
  | _ => cases hs

theorem Inside.isLocked_or_takesLock (h : Inside breakpoints line script r point r')
    (hs : r.stage = .waiting line point script) (hl : r'.isLocked) :
    r.isLocked ∨ r.stage.takesLock := by
  rw [isLocked, hs]
  cases h with
  | locked | woke => exact .inr rfl
  | sawOrder | sawNone | sawEnd => exact .inl rfl
  | _ => cases hl

theorem stage_notify_ne (r : Run) (line : Nat) (script : Script) :
    r.notify.stage ≠ .waiting line (.asleep false) script := by
  unfold notify
  split
  · simp [goto]
  · next h => exact h line false script

end Run

theorem Run.Nudged.isLocked_eq {m : Move} {r r' : Run} (h : Nudged m r r') :
    r'.isLocked = r.isLocked := by
  have hstage := h.stage
  unfold isLocked
  generalize r.stage = stage, r'.stage = stage' at hstage
  cases hstage <;> rfl

namespace Contest

/-- The invariant of the lock: host and worker do not hold it at once; a worker that is about to
sleep has seen `paused`; and of a worker that sleeps everything that it could wake up for has been
made known or will be. -/
structure Sound (c : Contest) : Prop where
  exclusive : c.grip ≠ .free → c.run.isLocked = false
  lookFlag : ∀ line script, c.run.stage = .waiting line .lookFlag script →
    c.run.register.signal = .paused
  asleep : ∀ line script, c.run.stage = .waiting line (.asleep false) script →
    c.pending ∨ c.run.register.signal = .paused ∧ c.run.register.terminated = false

variable {env : Environment} {c d : Contest}

theorem pending_eq_of_grip (h : d.grip = c.grip) : d.pending = c.pending := by
  rw [pending, pending, h]

theorem isLocked_of_lookFlag {line : Nat} {script : Script}
    (hs : c.run.stage = .waiting line .lookFlag script) : c.run.isLocked := by
  rw [Run.isLocked, hs]
  rfl

/-- A move without the host's lock keeps the lock sound. -/
theorem Sound.plain {m : Stepwise.Move} (h : c.Sound) (hm : c.interplay.Moves env d.interplay m)
    (ho : ∀ o, m ≠ .order o) (hgrip : d.grip = c.grip)
    (hlock : m = .worker → c.run.stage.takesLock → c.grip = .free) : d.Sound := by
  have hpending := pending_eq_of_grip hgrip
  cases hm with
  | @inside line point script hs hin =>
    refine ⟨fun hd => ?_, fun line' script' hs' => hin.signal_of_lookFlag hs',
      fun line' script' hs' => ?_⟩
    · rw [hgrip] at hd
      refine Bool.eq_false_iff.2 fun hl => ?_
      rcases hin.isLocked_or_takesLock hs hl with hheld | htakes
      · exact absurd hheld (by simpa [run] using h.exclusive hd)
      · exact hd (hlock rfl htakes)
    · obtain ⟨rfl, hkept, hregister⟩ := hin.lookFlag_of_asleep hs'
      right
      rw [run, hregister]
      exact ⟨h.lookFlag line script hs, hkept⟩
  | outside hout =>
    refine ⟨fun hd => ?_, fun line script hs => ?_, fun line script hs => ?_⟩
    · have hpoint : ∀ line point script, d.run.stage = .waiting line point script →
          point = .enter := fun _ _ _ => hout.eq_enter
      unfold Run.isLocked
      split
      · next line point script hs =>
        rw [hpoint line point script hs]
        rfl
      · rfl
    · cases hout.eq_enter hs
    · cases hout.eq_enter hs
  | nudge hw hn =>
    have hregister : d.run.register = c.run.register := hn.register_eq ho
    have hstage := hn.stage
    refine ⟨fun hd => ?_, fun line script hs => ?_, fun line script hs => ?_⟩
    · rw [hgrip] at hd
      exact hn.isLocked_eq.trans (h.exclusive hd)
    · have hold : c.run.stage.Nudged (.waiting line .lookFlag script) := hs ▸ hstage
      rcases hold.eq_or_asleep with heq | ⟨hpoint, -⟩
      · rw [hregister]
        exact h.lookFlag line script heq
      · cases hpoint
    · have hold : c.run.stage.Nudged (.waiting line (.asleep false) script) := hs ▸ hstage
      rcases hold.eq_or_asleep with heq | ⟨hpoint, -⟩
      · rw [hregister, hpending]
        exact h.asleep line script heq
      · cases hpoint

/-- **Every move keeps the lock sound.** -/
theorem Sound.next {m : Move} (h : c.Sound) (hm : c.move? env m = some d) : d.Sound := by
  cases moves_of_move? hm with
  | plain hmoves ho hgrip hlock => exact h.plain hmoves ho hgrip hlock
  | take o hgrip hlock heq =>
    subst heq
    have hnone : c.pending = false := by rw [pending, hgrip]
    refine ⟨fun _ => hlock, h.lookFlag, fun line script hs => .inr ?_⟩
    exact (h.asleep line script hs).resolve_left (by simp [hnone])
  | write o hgrip heq =>
    subst heq
    have hfree : c.run.isLocked = false := h.exclusive (by simp [hgrip])
    have hnone : c.pending = false := by rw [pending, hgrip]
    refine ⟨fun _ => hfree, fun line script hs => ?_, fun line script hs => ?_⟩
    · -- the worker would hold the lock as well
      have hheld := isLocked_of_lookFlag (c := c) hs
      simp [hfree] at hheld
    · have hold := (h.asleep line script hs).resolve_left (by simp [hnone])
      cases o with
      | pause => exact .inr ⟨rfl, hold.2⟩
      | step | run | terminate => exact .inl rfl
  | tell o hgrip heq =>
    subst heq
    have hheld : c.grip ≠ .free := by simp [hgrip]
    split
    · -- whoever slept has been woken up
      have hwake : c.interplay.Moves env (c.onRun Run.notify).interplay .wake :=
        Interplay.moves_of_move? rfl
      have hwoken : (c.onRun Run.notify).Sound := h.plain hwake (by simp) rfl (by simp)
      refine ⟨fun _ => hwoken.exclusive hheld, hwoken.lookFlag, fun line script hs => ?_⟩
      exact absurd hs (Run.stage_notify_ne _ _ _)
    · next hwakes =>
      have hnone : c.pending = false := by
        rw [pending, hgrip]
        simpa using hwakes
      refine ⟨fun _ => h.exclusive hheld, h.lookFlag, fun line script hs => .inr ?_⟩
      exact (h.asleep line script hs).resolve_left (by simp [hnone])
  | give hgrip heq =>
    subst heq
    have hnone : c.pending = false := by rw [pending, hgrip]
    refine ⟨fun hd => absurd rfl hd, h.lookFlag, fun line script hs => .inr ?_⟩
    exact (h.asleep line script hs).resolve_left (by simp [hnone])

end Contest

/-! ## 3. Orders that stand -/

namespace Order

/-- An order stands in the register as long as a worker would find it there: an end for good, a step
or to run on until a pause takes it back. -/
def Stands (o : Order) (r : Register) : Prop :=
  r.terminated ∨ o ≠ terminate ∧ r.signal ≠ .paused

theorem stands_write {o : Order} (h : o.wakes) (r : Register) : o.Stands (o.write r) := by
  cases o with
  | step => exact .inr ⟨by simp, by simp [write, Register.step]⟩
  | run => exact .inr ⟨by simp, by simp [write, Register.run]⟩
  | pause => cases h
  | terminate => exact .inl rfl

/-- An order stands until a pause, and an end stands for good. -/
theorem Stands.write {o o' : Order} {r : Register} (h : o.Stands r)
    (ho : o = terminate ∨ o' ≠ pause) : o.Stands (o'.write r) := by
  rcases h with hend | ⟨hne, hsignal⟩
  · exact .inl (o'.terminated_write hend)
  · have hpause := ho.resolve_left hne
    cases o' with
    | step => exact .inr ⟨hne, by simp [Order.write, Register.step]⟩
    | run => exact .inr ⟨hne, by simp [Order.write, Register.run]⟩
    | pause => exact absurd rfl hpause
    | terminate => exact .inl rfl

end Order

namespace WaitPoint

/-- Whether a call at a point of it has taken the signal back and not seen an order since. -/
def isHeld : WaitPoint → Bool
  | mark | announce | lock | look | lookFlag | asleep _ => true
  | _ => false

/-- Whether a call at a point of it has left its sleep. -/
def isLetGo : WaitPoint → Bool
  | leave | drain | unmark => true
  | _ => false

end WaitPoint

/-- A call with at most `left` acts of the program behind it has been reached by an order: it finds
the order where it would sleep, or has left its sleep, or is over. -/
def Reached (o : Order) (left : Nat) (r : Run) : Prop :=
  match r.stage with
  | .waiting _ point script => script.acts.length < left ∨
      script.acts.length ≤ left ∧ (point.isHeld ∧ o.Stands r.register ∨ point.isLetGo)
  | .running script | .printing _ script => script.acts.length ≤ left
  | .fresh _ | .compiling .. | .loaded _ | .launching _ | .greeting _ => False
  | .ended _ | .failing _ | .complaining _ | .closing | .done => True

namespace Reached

variable {env : Environment} {breakpoints : LineSet} {o : Order} {left : Nat} {r r' : Run}

/-- A nudge that lets the order stand does not undo it. -/
theorem nudge (h : Reached o left r) (hstage : r.stage.Nudged r'.stage)
    (hstands : o.Stands r.register → o.Stands r'.register) : Reached o left r' := by
  unfold Reached at h ⊢
  generalize r.stage = stage, r'.stage = stage' at hstage h
  cases hstage with
  | same =>
    cases stage with
    | waiting line point script =>
      rcases h with hlt | ⟨hle, ⟨hheld, hold⟩ | hgo⟩
      · exact .inl hlt
      · exact .inr ⟨hle, .inl ⟨hheld, hstands hold⟩⟩
      · exact .inr ⟨hle, .inr hgo⟩
    | _ => exact h
  | woken =>
    rcases h with hlt | ⟨hle, ⟨hheld, hold⟩ | hgo⟩
    · exact .inl hlt
    · exact .inr ⟨hle, .inl ⟨rfl, hstands hold⟩⟩
    · exact .inr ⟨hle, .inr hgo⟩
  | letCompile => exact h
  | letRun => exact Nat.le_trans (Nat.le_succ _) h

/-- Between calls the program has fewer and fewer acts left. -/
theorem outside (h : Reached o left r) (hout : Run.Outside env r r') : Reached o left r' := by
  unfold Reached at h
  cases hout with
  | accepted hs | unsuited hs | compiled hs | rejected hs | abandoned hs | loaded hs | launched hs
  | greeted hs => simp [hs] at h
  | muted hs | printed hs =>
    simp only [hs, List.length_cons] at h
    exact Nat.le_trans (Nat.le_succ _) h
  | wrote hs =>
    simp only [hs] at h
    exact h
  | began hs =>
    simp only [hs, List.length_cons] at h
    exact .inl h
  | stopped | exited | trapped | unsupported | vanished | failed | complained | closed => trivial

/-- **A call that an order has reached leaves its sleep.**  It would go to sleep only behind a look
at the flag, with nothing but `paused` in the register and the run not given up. -/
theorem inside {line : Nat} {point : WaitPoint} {script : Script} (h : Reached o left r)
    (hs : r.stage = .waiting line point script)
    (hl : point = .lookFlag → r.register.signal = .paused)
    (hin : Run.Inside breakpoints line script r point r') : Reached o left r' := by
  simp only [Reached, hs] at h
  have hle : script.acts.length ≤ left := by
    rcases h with hlt | ⟨hle, -⟩
    · exact Nat.le_of_lt hlt
    · exact hle
  cases hin with
  | refused | abandoned => trivial
  | ranOn | consumed | passed => exact hle
  | entered | sawRunning | sawStep | sawPaused | hit | missedStep | halted | overtaken =>
    simp only [WaitPoint.isHeld, WaitPoint.isLetGo, Bool.false_eq_true, false_and, or_false,
      and_false] at h
    exact .inl h
  | marked | announced | locked | sawNone | woke => exact h
  | sawOrder | sawEnd | left => exact .inr ⟨hle, .inr rfl⟩
  | drained | foundDrained => exact .inr ⟨hle, .inr rfl⟩
  | slept hkept =>
    rcases h with hlt | ⟨-, ⟨-, hold⟩ | hgo⟩
    · exact .inl hlt
    · rcases hold with hend | ⟨-, hsignal⟩
      · simp [hkept] at hend
      · exact absurd (hl rfl) hsignal
    · cases hgo

end Reached

namespace Contest

/-- A new run of a program. -/
def ofJob (job : Job) (breakpoints : LineSet) : Contest :=
  { interplay := Interplay.ofJob job breakpoints }

variable {env : Environment} {c d : Contest} {o : Order} {left : Nat}

/-- What is kept behind an order: the lock is sound, the call stays reached, and no pause is on its
way that could take the order back. -/
structure Answering (o : Order) (left : Nat) (c : Contest) : Prop where
  sound : c.Sound
  reached : Reached o left c.run
  grip : o = .terminate ∨ c.grip ≠ .taken .pause

/-- Every move but a pause keeps the call reached. -/
theorem Answering.next {m : Move} (h : c.Answering o left) (hm : c.move? env m = some d)
    (hpause : o = .terminate ∨ m ≠ .take .pause) : d.Answering o left := by
  refine ⟨h.sound.next hm, ?_, ?_⟩
  · cases moves_of_move? hm with
    | plain hmoves ho =>
      cases hmoves with
      | inside hs hin =>
        exact h.reached.inside hs (fun hp => h.sound.lookFlag _ _ (hp ▸ hs)) hin
      | outside hout => exact h.reached.outside hout
      | nudge _ hn =>
        have hregister : d.run.register = c.run.register := hn.register_eq ho
        exact h.reached.nudge hn.stage fun hold => hregister ▸ hold
    | take o' _ _ heq =>
      subst heq
      exact h.reached
    | write o' hgrip heq =>
      subst heq
      have hstands : o = .terminate ∨ o' ≠ .pause := by
        refine h.grip.imp_right fun hne heq => hne ?_
        rw [hgrip, heq]
      exact h.reached.nudge (.same _) fun hold => hold.write hstands
    | tell o' _ heq =>
      subst heq
      split
      · exact h.reached.nudge c.run.notify_nudged fun hold => by
          simpa [run, onRun] using hold
      · exact h.reached
    | give _ heq =>
      subst heq
      exact h.reached
  · cases moves_of_move? hm with
    | plain _ _ hgrip => exact hgrip ▸ h.grip
    | take o' _ _ heq =>
      subst heq
      refine hpause.imp_right fun hne heq => hne ?_
      simpa using heq
    | write o' _ heq | tell o' _ heq =>
      subst heq
      exact .inr (by simp)
    | give _ heq =>
      subst heq
      exact .inr (by simp)

/-- **An order that is written while a call is held reaches it.** -/
theorem Sound.answering_of_write {line : Nat} {point : WaitPoint} {script : Script} (h : c.Sound)
    (hgrip : c.grip = .taken o) (hwakes : o.wakes) (hs : c.run.stage = .waiting line point script)
    (hheld : point.isHeld) (hm : c.move? env .write = some d) :
    d.Answering o script.acts.length := by
  have hsound := h.next hm
  cases moves_of_move? hm with
  | write o' hgrip' heq =>
    obtain rfl : o = o' := by simpa [hgrip] using hgrip'
    subst heq
    refine ⟨hsound, ?_, .inr (by simp)⟩
    rw [run] at hs
    simp only [Reached, run, onRun, hs]
    exact .inr ⟨Nat.le_refl _, .inl ⟨hheld, Order.stands_write hwakes _⟩⟩

/-- The lock of every run is sound. -/
theorem sound_of_after? {job : Job} {breakpoints : LineSet} {moves : List Move}
    (h : (ofJob job breakpoints).after? env moves = some c) : c.Sound := by
  refine after?_induction (fun c m d _ hc hm => hc.next hm) ?_ h
  exact ⟨fun hgrip => absurd rfl hgrip, fun _ _ hs => (by cases hs), fun _ _ hs => (by cases hs)⟩

/-! ## 4. No lost wake-up -/

/-- **No wake-up is lost.**  Whenever the worker of a run sleeps and no notification is pending, the
register reads `paused` and the run is not given up.  And once the host has written a step, to run
on or an end while the worker is in a call that has taken the signal back, that call does not sleep
any more without a notification pending, unless a pause takes the order back first, and after an end
not even then: a worker that sleeps so is in a later call. -/
theorem paused_of_asleep {job : Job} {breakpoints : LineSet} {moves : List Move}
    (h : (ofJob job breakpoints).after? env moves = some c) :
    (∀ line script, c.run.stage = .waiting line (.asleep false) script → c.pending = false →
      c.run.register.signal = .paused ∧ c.run.register.terminated = false) ∧
    ∀ o line point script, c.grip = .taken o → o.wakes → c.run.stage = .waiting line point script →
      point.isHeld → ∀ rest d, c.after? env (.write :: rest) = some d →
      (o = .terminate ∨ .take .pause ∉ rest) →
      ∀ line' script', d.run.stage = .waiting line' (.asleep false) script' → d.pending = false →
        script'.acts.length < script.acts.length := by
  have hsound := sound_of_after? h
  constructor
  · intro line script hs hnone
    exact (hsound.asleep line script hs).resolve_left (by simp [hnone])
  · intro o line point script hgrip hwakes hs hheld rest d hd hpause line' script' hs' hnone
    obtain ⟨e, hwrite, hrest⟩ := Option.bind_eq_some_iff.1 hd
    have hwritten := hsound.answering_of_write hgrip hwakes hs hheld hwrite
    have hlast : d.Answering o script.acts.length := by
      refine after?_induction (fun c m d hmem hc hm => hc.next hm ?_) hwritten hrest
      exact hpause.imp_right fun hnot heq => hnot (heq ▸ hmem)
    have hawake := (hlast.sound.asleep line' script' hs').resolve_left (by simp [hnone])
    have hreached := hlast.reached
    simp only [Reached, hs', WaitPoint.isLetGo, Bool.false_eq_true, or_false] at hreached
    rcases hreached with hlt | ⟨-, -, hend | ⟨-, hsignal⟩⟩
    · exact hlt
    · simp [hawake.2] at hend
    · exact absurd hawake.1 hsignal

/-- A step whose order is written before the program sleeps at line 1, and that the host makes known
when the worker has sent its pause and waits for the lock: the program sleeps at line 2 next. -/
theorem paused_of_asleep_next_line :
    let env : Environment :=
      { compile := fun job => .ok (Module.ofText job.source)
        script := fun _ => ⟨[.wait 1, .wait 2], .exited⟩ }
    let s := ofJob { source := [] } .empty
    let worker (n : Nat) : List Move := List.replicate n (.plain .worker)
    let rest : List Move := worker 1 ++ [.tell, .give] ++ worker 14
    let c := (s.after? env (worker 10 ++ [.take .step])).get (by decide)
    let d := (c.after? env (.write :: rest)).get (by decide)
    s.after? env (worker 10 ++ [.take .step]) = some c ∧
      c.run.stage = .waiting 1 .announce ⟨[.wait 2], .exited⟩ ∧ c.grip = .taken .step ∧
      c.after? env (.write :: rest) = some d ∧ .take .pause ∉ rest ∧
      d.run.stage = .waiting 2 (.asleep false) ⟨[], .exited⟩ ∧ d.pending = false ∧
      ([] : List Act).length < [Act.wait 2].length ∧
      d.run.register.signal = .paused ∧ d.run.register.terminated = false := by
  intro env s worker rest c d
  have hc : s.after? env (worker 10 ++ [.take .step]) = some c := (Option.some_get _).symm
  have hd : c.after? env (.write :: rest) = some d := (Option.some_get _).symm
  have hall : s.after? env (worker 10 ++ [.take .step] ++ .write :: rest) = some d := by
    decide +kernel
  have hstage : c.run.stage = .waiting 1 .announce ⟨[.wait 2], .exited⟩ := by decide +kernel
  have hgrip : c.grip = .taken .step := by decide +kernel
  have hrest : .take .pause ∉ rest := by decide +kernel
  have hasleep : d.run.stage = .waiting 2 (.asleep false) ⟨[], .exited⟩ := by decide +kernel
  have hnone : d.pending = false := by decide +kernel
  have hlater := (paused_of_asleep hc).2 .step 1 .announce _ hgrip rfl hstage rfl rest d hd
    (.inr hrest) 2 _ hasleep hnone
  obtain ⟨hsignal, hkept⟩ := (paused_of_asleep hall).1 2 _ hasleep hnone
  exact ⟨hc, hstage, hgrip, hd, hrest, hasleep, hnone, hlater, hsignal, hkept⟩

end Contest

end Stepwise
