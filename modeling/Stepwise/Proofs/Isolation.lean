import Stepwise.Session.Basic
import Stepwise.Proofs.Interplay

/-!
# Runs do not reach each other

A session starts its programs one after the other.  The run before is given up, but its worker may
still be on its way: it compiles, writes, sends, and reads the breakpoints that all runs share.  So
a session is looked at together with the runs before its own, and the workers of all of them move in
any order with what the user does.

A run that is started behind others cannot be told from one that a new session starts with the same
breakpoints.  The argument is a projection: the moves of earlier workers leave everything else as it
is, and every other move does the same whether there are earlier runs or not.

Stopping a session gives up its run and stops listening to it, but the events that wait in the queue
stay there.  They are delivered one by one when they are asked for, and after them nothing more
until the next start.  One chunk of the stream may queue several events, so a host that stops
between two answers is still given events of the run that it has given up
(`Bench.exists_event_after_stop`).

Main definitions and statements:

* `Bench`, `Bench.move?`, `Bench.Plays`: a session with the runs before its own, and what can happen
  to them in what order;
* `Session.start_renewed`, `Session.breakpoints_start`: a started session is a new one that is
  started, with the same breakpoints;
* `Bench.move?_since`, `Bench.since_of_old`: moves without earlier runs, and moves of earlier runs;
* `Bench.start_isolated`: what can be observed behind a start does not depend on what was before;
* `Bench.Plays.answers_of_not_listening`, `Bench.silent_after_stop_iff`: what is answered behind a
  stop, and when it is nothing; `Session.queue_eq_nil_of_next`: when nothing is queued.
-/

namespace Stepwise

/-! ## 1. A session and its runs -/

/-- What a worker does without the host. -/
inductive WorkerMove where
  /-- It makes its next access. -/
  | access
  /-- It wakes up of its own accord. -/
  | wake
  /-- It is let on at a gate. -/
  | release
  deriving DecidableEq

/-- The move beside a host. -/
def WorkerMove.move : WorkerMove → Move
  | access => .worker
  | wake => .wake
  | release => .release

/-- What a move of its worker makes of a run, if it can be made. -/
def Run.moved? (environment : Environment) (breakpoints : LineSet) (r : Run) (m : WorkerMove) :
    Option Run :=
  (Interplay.move? environment ⟨breakpoints, r⟩ m.move).map Interplay.run

/-- What a user does with a session. -/
inductive Operation where
  | start (source : Text) (root : Syntax.Node)
  | step
  | resume
  | pause
  | stop
  | setBreakpoints (lines : LineSet)
  | toggleBreakpoint (line : Nat)
  /-- Asks for the next event. -/
  | next

/-- Whether the operation needs the lock of the live run. -/
def Operation.takesLock : Operation → Bool
  | start .. | step | resume | pause | stop => true
  | setBreakpoints _ | toggleBreakpoint _ | next => false

namespace Session

/-- Whether the worker of the live run holds the lock. -/
def isLocked (s : Session) : Bool := s.coordinator.live?.any Run.isLocked

/-- A new session with the toolchain, the flags and the breakpoints of another one. -/
def renewed (s : Session) : Session :=
  { coordinator :=
      { environment := s.coordinator.environment
        flags := s.coordinator.flags
        breakpoints := s.coordinator.breakpoints } }

/-- What the user sees of a session without asking for events. -/
structure Sight where
  snapshot : Option Snapshot
  currentLine : Option Nat
  tests : List TestOutcome
  instrumented : Option Instrumented
  breakableLines : Option LineSet
  breakpoints : LineSet
  phase : RunPhase
  /-- The register of the live run. -/
  register : Option Register
  /-- The variables that wait for their stack. -/
  tracker : Tracker

/-- What the user sees of the session. -/
def sight (s : Session) : Sight where
  snapshot := s.snapshot
  currentLine := s.currentLine
  tests := s.tests
  instrumented := s.instrumented
  breakableLines := s.breakableLines?
  breakpoints := s.breakpoints
  phase := s.phase
  register := s.coordinator.live?.map Run.register
  tracker := s.tracker

end Session

/-- A session and the runs before its own, oldest first. -/
structure Bench where
  session : Session
  former : List Run := []

/-- What happens on a bench. -/
inductive BenchMove where
  | operation (o : Operation)
  /-- The worker of a run moves; runs are numbered from the oldest one. -/
  | worker (number : Nat) (m : WorkerMove)

/-- What was observed of a move. -/
structure Observation where
  move : BenchMove
  /-- The answer, if an event was asked for. -/
  answer : Option Session.Delivery
  /-- What was seen behind it. -/
  sight : Session.Sight

namespace Bench

/-- What an operation answers, and what it leads to.  A start leaves the run before with the other
ones. -/
def operate (d : Bench) : Operation → Option Session.Delivery × Bench
  | .start source root =>
    (none, { session := d.session.start source root
             former := d.former ++ d.session.coordinator.stop.run.toList })
  | .step => (none, { d with session := d.session.step })
  | .resume => (none, { d with session := d.session.resume })
  | .pause => (none, { d with session := d.session.pause })
  | .stop => (none, { d with session := d.session.stop })
  | .setBreakpoints lines => (none, { d with session := d.session.setBreakpoints lines })
  | .toggleBreakpoint line => (none, { d with session := d.session.toggleBreakpoint line })
  | .next => (some d.session.next.1, { d with session := d.session.next.2 })

/-- The run of a number: one before the own run of the session, or that one. -/
def run? (d : Bench) (number : Nat) : Option Run :=
  if number = d.former.length then d.session.coordinator.run else d.former[number]?

/-- The bench with the run of a number replaced. -/
def putRun (d : Bench) (number : Nat) (r : Run) : Bench :=
  if number = d.former.length then
    { d with session := { d.session with
        coordinator := { d.session.coordinator with run := some r } } }
  else { d with former := d.former.set number r }

/-- What a move answers, and what it leads to, if it can be made. -/
def move? (d : Bench) : BenchMove → Option (Option Session.Delivery × Bench)
  | .operation o => if o.takesLock && d.session.isLocked then none else some (d.operate o)
  | .worker number m =>
    ((d.run? number).bind fun r =>
      r.moved? d.session.coordinator.environment d.session.breakpoints m).map
        fun r => (none, d.putRun number r)

/-- What can be observed from `d` on, and what it leads to. -/
inductive Plays (d : Bench) : List Observation → Bench → Prop
  | start : Plays d [] d
  | next {seen : List Observation} {t u : Bench} {m : BenchMove} {answer : Option Session.Delivery}
      (h : Plays d seen t) (hm : t.move? m = some (answer, u)) :
      Plays d (seen ++ [⟨m, answer, u.session.sight⟩]) u

/-- What is observed of the given moves, behind what was observed before, and what they lead to. -/
def play? : List Observation → Bench → List BenchMove → Option (List Observation × Bench)
  | seen, d, [] => some (seen, d)
  | seen, d, m :: moves =>
    match d.move? m with
    | none => none
    | some (answer, e) => play? (seen ++ [⟨m, answer, e.session.sight⟩]) e moves

/-- Moves that can be made in turn can be observed. -/
theorem Plays.of_play? {d e f : Bench} {seen seen' : List Observation} {moves : List BenchMove}
    (h : d.Plays seen e) (hp : play? seen e moves = some (seen', f)) : d.Plays seen' f := by
  induction moves generalizing seen e with
  | nil =>
    cases hp
    exact h
  | cons m moves ih =>
    rw [play?] at hp
    split at hp
    · cases hp
    · next hm => exact ih (h.next hm) hp

end Bench

/-! ## 2. Starting -/

/-- **Nothing but the breakpoints outlives a start.** -/
theorem Session.start_renewed (s : Session) (source : Text) (root : Syntax.Node) :
    s.renewed.start source root = s.start source root := by
  unfold start
  cases Instrumented.ofSource source root <;> rfl

/-- The breakpoints outlive a start, whether the source can be instrumented or not. -/
theorem Session.breakpoints_start (s : Session) (source : Text) (root : Syntax.Node) :
    (s.start source root).breakpoints = s.breakpoints := by
  unfold start
  cases Instrumented.ofSource source root <;> rfl

/-! ## 3. Without earlier runs -/

/-- The move with the oldest `k` runs not counted, if it is none of theirs. -/
def BenchMove.since? (k : Nat) : BenchMove → Option BenchMove
  | operation o => some (operation o)
  | worker number m => if number < k then none else some (worker (number - k) m)

/-- The move with `k` older runs counted as well. -/
def BenchMove.behind (k : Nat) : BenchMove → BenchMove
  | operation o => operation o
  | worker number m => worker (k + number) m

/-- The observation with the oldest `k` runs not counted, if it is none of theirs. -/
def Observation.since? (k : Nat) (o : Observation) : Option Observation :=
  (o.move.since? k).map ({ o with move := · })

/-- The observation with `k` older runs counted as well. -/
def Observation.behind (k : Nat) (o : Observation) : Observation :=
  { o with move := o.move.behind k }

theorem BenchMove.since?_behind (k : Nat) (m : BenchMove) : (m.behind k).since? k = some m := by
  cases m <;> simp [behind, since?]

/-- A move is either one of the oldest runs or one that counts them. -/
theorem BenchMove.since?_eq_some_iff {k : Nat} {m m' : BenchMove} :
    m.since? k = some m' ↔ m = m'.behind k := by
  refine ⟨fun h => ?_, fun h => h ▸ since?_behind k m'⟩
  cases m with
  | operation o =>
    cases h
    rfl
  | worker number m =>
    rw [since?, Option.ite_none_left_eq_some, Option.some.injEq] at h
    obtain ⟨hle, rfl⟩ := h
    rw [behind, Nat.add_sub_cancel' (Nat.le_of_not_lt hle)]

namespace Bench

/-- The bench without its oldest `k` runs. -/
def since (k : Nat) (d : Bench) : Bench := { d with former := d.former.drop k }

theorem session_since (k : Nat) (d : Bench) : (d.since k).session = d.session := rfl

variable {k : Nat} {d e : Bench} {m : BenchMove} {answer : Option Session.Delivery}

theorem operate_since (hk : k ≤ d.former.length) (o : Operation) :
    (d.since k).operate o = ((d.operate o).1, (d.operate o).2.since k) := by
  cases o with
  | start source root => simp [operate, since, List.drop_append_of_le_length hk]
  | _ => rfl

theorem run?_since (hk : k ≤ d.former.length) (number : Nat) :
    (d.since k).run? number = d.run? (k + number) := by
  unfold run? since
  simp only [List.length_drop, List.getElem?_drop]
  have hown : number = d.former.length - k ↔ k + number = d.former.length := by omega
  simp only [hown]

theorem putRun_since (hk : k ≤ d.former.length) (number : Nat) (r : Run) :
    (d.since k).putRun number r = (d.putRun (k + number) r).since k := by
  unfold putRun since
  simp only [List.length_drop]
  have hown : number = d.former.length - k ↔ k + number = d.former.length := by omega
  simp only [hown]
  split
  · rfl
  · rw [List.drop_set, if_neg (by omega), Nat.add_sub_cancel_left]

/-- **A move does the same without earlier runs**, if it is none of theirs: it can be made as
before, gives the same answer and leads to the same. -/
theorem move?_since (hk : k ≤ d.former.length) (m : BenchMove) :
    (d.since k).move? m = (d.move? (m.behind k)).map fun (answer, e) => (answer, e.since k) := by
  cases m with
  | operation o =>
    simp only [BenchMove.behind, move?, operate_since hk]
    change (if o.takesLock && d.session.isLocked then none else _) = _
    split <;> rfl
  | worker number m =>
    simp only [BenchMove.behind, move?, run?_since hk, putRun_since hk, Option.map_map]
    rfl

/-- **A move of an earlier run leaves everything else as it is.** -/
theorem since_of_old (hk : k ≤ d.former.length) (hm : m.since? k = none)
    (h : d.move? m = some (answer, e)) : e.since k = d.since k := by
  cases m with
  | operation o => cases hm
  | worker number m =>
    have hlt : number < k := by simpa [BenchMove.since?] using hm
    obtain ⟨r, -, h⟩ := Option.map_eq_some_iff.1 h
    obtain rfl := (Prod.mk.inj h).2
    rw [putRun, if_neg (by omega), since, since, List.drop_set, if_pos hlt]

/-- No run is lost. -/
theorem length_le_of_move? (h : d.move? m = some (answer, e)) :
    d.former.length ≤ e.former.length := by
  cases m with
  | operation o =>
    rw [move?] at h
    split at h
    · cases h
    · obtain rfl := (Prod.mk.inj (Option.some.inj h)).2
      cases o <;> simp
  | worker number m =>
    obtain ⟨r, -, h⟩ := Option.map_eq_some_iff.1 h
    obtain rfl := (Prod.mk.inj h).2
    rw [putRun]
    split <;> simp

/-- What is observed without the moves of the oldest `k` runs is observed without these runs. -/
theorem Plays.since {seen : List Observation} (h : d.Plays seen e) (hk : k ≤ d.former.length) :
    k ≤ e.former.length ∧
      (d.since k).Plays (seen.filterMap (Observation.since? k)) (e.since k) := by
  induction h with
  | start => exact ⟨hk, .start⟩
  | @next seen t u m answer _ hm ih =>
    obtain ⟨hlen, ih⟩ := ih
    refine ⟨Nat.le_trans hlen (length_le_of_move? hm), ?_⟩
    rw [List.filterMap_append]
    cases hown : m.since? k with
    | none => simpa [Observation.since?, hown, since_of_old hlen hown hm] using ih
    | some m' =>
      have hmove : (t.since k).move? m' = some (answer, u.since k) := by
        rw [move?_since hlen, ← BenchMove.since?_eq_some_iff.1 hown, hm]
        rfl
      have hnext := ih.next hmove
      rw [session_since] at hnext
      simpa [Observation.since?, hown] using hnext

/-- What is observed without the oldest `k` runs can be observed with them. -/
theorem Plays.exists_behind {seen : List Observation} {f : Bench} (h : (d.since k).Plays seen f)
    (hk : k ≤ d.former.length) :
    ∃ e, d.Plays (seen.map (Observation.behind k)) e ∧ k ≤ e.former.length ∧ e.since k = f := by
  induction h with
  | start => exact ⟨d, .start, hk, rfl⟩
  | @next seen t u m answer _ hm ih =>
    obtain ⟨e, he, hlen, rfl⟩ := ih
    rw [move?_since hlen] at hm
    obtain ⟨⟨answer', e'⟩, hmove, heq⟩ := Option.map_eq_some_iff.1 hm
    obtain ⟨rfl, rfl⟩ := Prod.mk.inj heq
    refine ⟨e', ?_, Nat.le_trans hlen (length_le_of_move? hmove), rfl⟩
    rw [List.map_append]
    exact he.next hmove

/-! ## 4. Isolation -/

theorem session_of_move?_start {d a : Bench} {source : Text} {root : Syntax.Node}
    {answer : Option Session.Delivery}
    (h : d.move? (.operation (.start source root)) = some (answer, a)) :
    answer = none ∧ a.session = d.session.start source root := by
  rw [move?] at h
  split at h
  · cases h
  · obtain ⟨rfl, rfl⟩ := Prod.mk.inj (Option.some.inj h)
    exact ⟨rfl, rfl⟩

/-- **What can be observed behind a start does not depend on what was before it.**  Whatever state
session and runs were in, it is observed what a new session with the same breakpoints shows that
starts the same program: whatever else the workers of the runs before do and when, what happens
besides is a history of that session, with the same answers and the same sights, and at any time
exactly the same can happen next; and every history of that session can happen here.  The
breakpoints of the session are kept. -/
theorem start_isolated {d a : Bench} {source : Text} {root : Syntax.Node}
    (h : d.move? (.operation (.start source root)) = some (answer, a)) :
    ∃ b : Bench,
      ({ session := d.session.renewed } : Bench).move? (.operation (.start source root)) =
        some (answer, b) ∧
      b.session = a.session ∧ a.session.breakpoints = d.session.breakpoints ∧
      (∀ seen e, a.Plays seen e → ∃ f : Bench,
        b.Plays (seen.filterMap (Observation.since? a.former.length)) f ∧ f.session = e.session ∧
        ∀ m, (f.move? m).map (fun (answer, t) => (answer, t.session)) =
          (e.move? (m.behind a.former.length)).map fun (answer, t) => (answer, t.session)) ∧
      ∀ seen f, b.Plays seen f → ∃ e : Bench,
        a.Plays (seen.map (Observation.behind a.former.length)) e ∧ e.session = f.session := by
  have hlen := Nat.le_refl a.former.length
  obtain ⟨rfl, hsession⟩ := session_of_move?_start h
  refine ⟨a.since a.former.length, ?_, rfl, ?_, fun seen e hplays => ?_, fun seen f hplays => ?_⟩
  · rw [since, List.drop_length, hsession, ← Session.start_renewed]
    rfl
  · rw [hsession]
    exact Session.breakpoints_start ..
  · obtain ⟨hk, hplays⟩ := hplays.since hlen
    refine ⟨e.since a.former.length, hplays, rfl, fun m => ?_⟩
    rw [move?_since hk, Option.map_map]
    rfl
  · obtain ⟨e, he, -, rfl⟩ := hplays.exists_behind hlen
    exact ⟨e, he, rfl⟩

end Bench

namespace TornRun

/-! A session whose run is held inside of a dump: half a line is buffered, a snapshot, a test and
variables are left from before, an event is queued, and others have not been received. -/

/-- What the session is made with. -/
def environment : Environment where
  compile := fun job => .ok (Module.ofText job.source)
  script := fun _ => ⟨[.print "[DEBUG:VARS:START]\nx|int", .wait 3, .print "late\n"], .exited⟩

/-- The run, whose worker sleeps at a step. -/
def run : Run where
  phase := .running true
  stage := .waiting 3 (.asleep false) ⟨[.print "late\n"], .exited⟩
  sent := [.compiled, .log "[DEBUG:VARS:START]\nx|int", .paused 3]
  received := 2

/-- The session. -/
def bench : Bench where
  session :=
    { coordinator := { environment, breakpoints := .singleton 3, run := some run }
      listening := true
      demux := { pending := "x|int", block := .vars [] }
      queue := [.output "late"]
      tracker := { waiting := some [] }
      snapshot := some {}
      currentLine := some 2
      tests := [.passed "a"] }

/-- A tree without nodes. -/
def root : Syntax.Node := .mk ⟨.other [], .none, true, false, ⟨0, 0⟩, 0⟩ []

/-- The worker of the new run sets out while that of the old one comes to its end. -/
def moves : List BenchMove :=
  [.worker 0 .access, .worker 1 .access, .worker 0 .access, .worker 0 .access, .operation .next,
    .worker 0 .access, .worker 0 .access, .operation .step]

end TornRun

namespace Bench

/-- Behind a start in place of that run the session shows what a new one shows, while the worker of
the old run comes to its end. -/
theorem start_isolated_tornRun :
    ∃ (answer : Option Session.Delivery) (a b : Bench) (seen : List Observation) (e f : Bench),
      TornRun.bench.move? (.operation (.start [] TornRun.root)) = some (answer, a) ∧
      ({ session := TornRun.bench.session.renewed } : Bench).move?
        (.operation (.start [] TornRun.root)) = some (answer, b) ∧
      a.session.breakpoints = .singleton 3 ∧
      a.Plays seen e ∧ seen.length = 8 ∧ e.former.map Run.stage = [.done] ∧
      b.Plays (seen.filterMap (Observation.since? 1)) f ∧ f.session = e.session := by
  have hmoves : (TornRun.bench.move? (.operation (.start [] TornRun.root))).any fun (_, a) =>
      (play? [] a TornRun.moves).any fun (seen, e) =>
        a.former.length = 1 ∧ seen.length = 8 ∧ e.former.map Run.stage = [.done] := by
    decide +kernel
  obtain ⟨⟨answer, a⟩, ha, hplay⟩ := (Option.any_eq_true _ _).1 hmoves
  obtain ⟨⟨seen, e⟩, hseen, hdone⟩ := (Option.any_eq_true _ _).1 hplay
  obtain ⟨hone, hlength, hdone⟩ := of_decide_eq_true hdone
  have hplays : a.Plays seen e := Plays.start.of_play? hseen
  obtain ⟨b, hb, -, hbreakpoints, hproject, -⟩ := start_isolated ha
  obtain ⟨f, hf, hsession, -⟩ := hproject seen e hplays
  exact ⟨answer, a, b, seen, e, f, ha, hb, hbreakpoints, hplays, hlength, hdone, hone ▸ hf,
    hsession⟩

end Bench

/-! ## 5. Answers of a session that does not listen -/

/-- The answer to the `k`th question, counted from 0, while nothing is added to the queue. -/
def Session.Delivery.nth (queue : List SessionEvent) (k : Nat) : Session.Delivery :=
  (queue[k]?.map Session.Delivery.event).getD .ended

namespace Session

open Delivery (nth)

theorem next_of_not_listening {s : Session} (h : s.listening = false) :
    s.next.1 = nth s.queue 0 ∧ s.next.2.queue = s.queue.tail ∧ s.next.2.listening = false := by
  have hheard : s.heard? = none := by simp [heard?, h]
  fun_cases next s with
  | case1 e queue hq => exact ⟨by simp [nth, hq], by simp [hq], h⟩
  | case2 hq e he => simp [hheard] at he
  | case3 hq he hl hc => simp [h] at hl
  | case4 hq he hl hc => simp [h] at hl
  | case5 hq he hl => exact ⟨by simp [nth, hq], by simp [hq], h⟩

/-- A session whose queue is empty answers with the first of what an event of its run brings. -/
theorem next_of_heard {s : Session} {event : Event} {e : SessionEvent} {queue : List SessionEvent}
    (hq : s.queue = []) (hheard : s.heard? = some event)
    (hevent : (s.hear event).queue = e :: queue) :
    s.next = (.event e, { s.hear event with queue }) := by
  have hhere : (s.hear event).next = (.event e, { s.hear event with queue }) := by
    generalize s.hear event = t at hevent
    fun_cases next t with
    | case1 e' queue' hq' =>
      obtain ⟨rfl, rfl⟩ := List.cons.inj (hq'.symm.trans hevent)
      rfl
    | _ => simp_all
  rw [← hhere]
  fun_cases next s with
  | case1 e' queue' hq' => simp [hq] at hq'
  | case2 _ event' hheard' =>
    obtain rfl := Option.some.inj (hheard'.symm.trans hheard)
    rfl
  | case3 _ hnone => simp [hheard] at hnone
  | case4 _ hnone => simp [hheard] at hnone
  | case5 _ hnone => simp [hheard] at hnone

/-- **Nothing is queued when there was no event to answer with.** -/
theorem queue_eq_nil_of_next {s t : Session} {answer : Delivery} (h : s.next = (answer, t))
    (hanswer : ∀ e, answer ≠ .event e) : t.queue = [] := by
  fun_induction next s with
  | case1 s e queue hq =>
    obtain ⟨rfl, -⟩ := Prod.mk.inj h
    exact absurd rfl (hanswer e)
  | case2 s hq e he ih => exact ih h
  | case3 s hq hn hl hc ih => exact ih h
  | case4 s hq =>
    obtain ⟨-, rfl⟩ := Prod.mk.inj h
    exact hq
  | case5 s hq =>
    obtain ⟨-, rfl⟩ := Prod.mk.inj h
    exact hq

end Session

/-! ## 6. Behind a stop -/

/-- Whether a move starts a program. -/
def BenchMove.isStart : BenchMove → Bool
  | .operation (.start ..) => true
  | _ => false

namespace Bench

open Session.Delivery (nth)

variable {d e a : Bench} {m : BenchMove} {answer : Option Session.Delivery}
  {seen : List Observation}

/-- **Every move but a start** leaves the session without a run to listen to, and takes an event
from the queue only if it asks for one. -/
theorem move?_of_not_listening (hm : m.isStart = false) (hd : d.session.listening = false)
    (h : d.move? m = some (answer, e)) :
    e.session.listening = false ∧
      (answer = none ∧ e.session.queue = d.session.queue ∨
        answer = some (nth d.session.queue 0) ∧ e.session.queue = d.session.queue.tail) := by
  cases m with
  | operation o =>
    rw [move?] at h
    split at h
    · cases h
    · obtain ⟨rfl, rfl⟩ := Prod.mk.inj (Option.some.inj h)
      cases o with
      | start source root => cases hm
      | next =>
        obtain ⟨hanswer, hqueue, hstill⟩ := Session.next_of_not_listening hd
        exact ⟨hstill, .inr ⟨congrArg some hanswer, hqueue⟩⟩
      | stop => exact ⟨rfl, .inl ⟨rfl, rfl⟩⟩
      | _ => exact ⟨hd, .inl ⟨rfl, rfl⟩⟩
  | worker number m =>
    obtain ⟨r, -, h⟩ := Option.map_eq_some_iff.1 h
    obtain ⟨rfl, rfl⟩ := Prod.mk.inj h
    rw [putRun]
    split <;> exact ⟨hd, .inl ⟨rfl, rfl⟩⟩

/-- **A session that does not listen answers with what is queued**, in order and once, and then that
there is nothing more, for as long as no program is started. -/
theorem Plays.answers_of_not_listening (h : d.Plays seen e) (hd : d.session.listening = false)
    (hseen : ∀ o ∈ seen, o.move.isStart = false) :
    ∃ n, seen.filterMap Observation.answer = (List.range n).map (nth d.session.queue) ∧
      e.session.queue = d.session.queue.drop n ∧ e.session.listening = false := by
  induction h with
  | start => exact ⟨0, rfl, rfl, hd⟩
  | @next seen t u m answer _ hm ih =>
    obtain ⟨n, hanswers, hqueue, hstill⟩ := ih fun o ho => hseen o (List.mem_append_left _ ho)
    have hmove : m.isStart = false := hseen _ (List.mem_append_right _ (List.mem_singleton.2 rfl))
    obtain ⟨hstill', hcase⟩ := move?_of_not_listening hmove hstill hm
    rw [List.filterMap_append, hanswers]
    rcases hcase with ⟨rfl, hqueue'⟩ | ⟨rfl, hqueue'⟩
    · exact ⟨n, List.append_nil _, hqueue'.trans hqueue, hstill'⟩
    · refine ⟨n + 1, ?_, ?_, hstill'⟩
      · rw [List.range_succ, List.map_append, hqueue]
        simp [nth]
      · rw [hqueue', hqueue, List.tail_drop]

theorem move?_stop (h : d.session.isLocked = false) :
    d.move? (.operation .stop) = some (none, { d with session := d.session.stop }) := by
  rw [move?, h, Bool.and_false]
  rfl

theorem session_of_stop (h : d.move? (.operation .stop) = some (answer, a)) :
    a.session.listening = false ∧ a.session.queue = d.session.queue := by
  rw [move?] at h
  split at h
  · cases h
  · obtain ⟨-, rfl⟩ := Prod.mk.inj (Option.some.inj h)
    exact ⟨rfl, rfl⟩

/-- **A session is silent behind a stop exactly if nothing was queued.** -/
theorem silent_after_stop_iff (h : d.move? (.operation .stop) = some (answer, a)) :
    (∀ seen e, a.Plays seen e → (∀ o ∈ seen, o.move.isStart = false) →
      ∀ x ∈ seen.filterMap Observation.answer, x = .ended) ↔ d.session.queue = [] := by
  obtain ⟨hstill, hqueue⟩ := session_of_stop h
  constructor
  · intro hsilent
    have hnext : a.move? (.operation .next) =
        some (some a.session.next.1, { a with session := a.session.next.2 }) := rfl
    have hended := hsilent _ _ (Plays.start.next hnext) (by simp [BenchMove.isStart])
      a.session.next.1 (by simp)
    rw [(Session.next_of_not_listening hstill).1, hqueue] at hended
    cases hq : d.session.queue with
    | nil => rfl
    | cons event queue => simp [hq, nth] at hended
  · intro hnil seen e hplays hseen x hx
    obtain ⟨n, hanswers, -⟩ := hplays.answers_of_not_listening hstill hseen
    rw [hanswers, hqueue, hnil] at hx
    obtain ⟨k, -, rfl⟩ := List.mem_map.1 hx
    rfl

/-- A question can be asked at any time. -/
theorem Plays.ask {t : Bench} {s : Session} {x : Session.Delivery} (h : d.Plays seen t)
    (hnext : t.session.next = (x, s)) :
    d.Plays (seen ++ [⟨.operation .next, some x, s.sight⟩]) { t with session := s } := by
  have hmove : t.move? (.operation .next) = some (some x, { t with session := s }) := by
    simp [move?, Operation.takesLock, operate, hnext]
  exact h.next hmove

/-- A program reports a test in a line, which is output as well.  Its host is given the output and
stops; when it asks again, it is given the test. -/
theorem exists_event_after_stop :
    let line : Text := "[TEST:PASS] b\n"
    let environment : Environment :=
      { compile := fun job => .ok (Module.ofText job.source)
        script := fun _ => ⟨[.print line], .exited⟩ }
    ∃ seen e answer a, ({ session := { coordinator := { environment } } } : Bench).Plays seen e ∧
      seen.filterMap Observation.answer = [.event .compiled, .event (.output line)] ∧
      e.move? (.operation .stop) = some (answer, a) ∧
      a.session.next.1 = .event (.test (.passed "b")) := by
  intro line environment
  let moves : List BenchMove :=
    .operation (.start [] TornRun.root) :: List.replicate 8 (.worker 0 .access)
  let told (s : Session) : Session := { s.hear .compiled with queue := [] }
  have hmoves : (play? [] { session := { coordinator := { environment } } } moves).any
      fun (seen, e) => seen.filterMap Observation.answer = [] ∧ e.session.queue = [] ∧
        e.session.heard? = some .compiled ∧ (e.session.hear .compiled).queue = [.compiled] ∧
        (told e.session).heard? = some (.log line) ∧
        ((told e.session).hear (.log line)).queue = [.output line, .test (.passed "b")] ∧
        ((told e.session).hear (.log line)).isLocked = false := by
    decide +kernel
  obtain ⟨⟨seen, e⟩, hseen, hfacts⟩ := (Option.any_eq_true _ _).1 hmoves
  obtain ⟨hsilent, hqueue, hcompiled, hfirst, hline, hsecond, hlock⟩ := of_decide_eq_true hfacts
  have hplays : ({ session := { coordinator := { environment } } } : Bench).Plays seen e :=
    Plays.start.of_play? hseen
  have hasked := (hplays.ask (Session.next_of_heard hqueue hcompiled hfirst)).ask
    (Session.next_of_heard rfl hline hsecond)
  refine ⟨_, _, none, _, hasked, ?_, move?_stop hlock, (Session.next_of_not_listening rfl).1⟩
  simp [hsilent]

end Bench

end Stepwise
