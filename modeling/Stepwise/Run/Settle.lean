import Stepwise.Run.Basic

/-!
# Coming to rest

Left alone by the host, a worker comes to rest: it sleeps at a step, stands at a gate or is gone.
Every step takes it nearer to the end of the current announcement, of the current act, of the
program, or of the run, in this order of weight (`Run.step?_nearer`).

Main definitions:

* `Run.settle`: the run when its worker can move no more;
* `Run.drain`: the run when its worker has been let through all gates as well.
-/

namespace Stepwise

/-! ## 1. The way that is left -/

/-- How far a worker is from the end of the current announcement, if the host does nothing. -/
def WaitPoint.rank (signal : Signal) : WaitPoint → Nat
  | .enter => 15
  | .observe => 14
  | .filter => if signal = .running then 13 else 18
  | .consume => if signal = .step then 13 else 18
  | .halt seen => if signal = seen then 12 else 17
  | .mark => 10
  | .announce => 9
  | .asleep true => 8
  | .lock => 7
  | .look => 6
  | .lookFlag => 5
  | .asleep false => 4
  | .leave => 3
  | .drain => 2
  | .unmark => 1

/-- The part of the way to the end that a stage belongs to. -/
def Stage.part : Stage → Nat
  | .fresh _ => 9
  | .compiling .. => 8
  | .loaded _ => 7
  | .launching _ => 6
  | .greeting _ => 5
  | .running _ | .printing .. | .waiting .. => 4
  | .ended _ => 3
  | .failing _ | .complaining _ => 2
  | .closing => 1
  | .done => 0

/-- The acts that the program has not begun. -/
def Stage.actsLeft : Stage → Nat
  | .running script | .printing _ script | .waiting _ _ script => script.acts.length
  | _ => 0

/-- How far a worker is from the end of what it is at. -/
def Stage.near (signal : Signal) : Stage → Nat
  | .compiling _ gated => if gated then 1 else 0
  | .printing .. | .failing _ => 1
  | .waiting _ point _ => point.rank signal
  | _ => 0

/-- The way that is left to a worker: the part of its run, the acts of its program, and the rest of
what it is at. -/
def Run.rank (r : Run) : Nat × Nat × Nat :=
  (r.stage.part, r.stage.actsLeft, r.stage.near r.register.signal)

/-- The order in which ways are compared. -/
abbrev Nearer : Nat × Nat × Nat → Nat × Nat × Nat → Prop :=
  Prod.Lex (· < ·) (Prod.Lex (· < ·) (· < ·))

/-- One way is nearer than another if it is in an earlier part, or has fewer acts in the same part,
or is nearer within the same act. -/
theorem nearer_iff {a b c a₁ b₁ c₁ : Nat} :
    Nearer (a, b, c) (a₁, b₁, c₁) ↔ a < a₁ ∨ a = a₁ ∧ (b < b₁ ∨ b = b₁ ∧ c < c₁) := by
  simp [Nearer, Prod.lex_def]

/-! ## 2. Every step is one nearer -/

namespace Run

/-- A step inside an announcement takes the worker nearer. -/
theorem stepWait?_nearer {breakpoints : LineSet} {r r' : Run} {line : Nat} {script : Script}
    {point : WaitPoint} (hs : r.stage = .waiting line point script)
    (h : r.stepWait? breakpoints line script point = some r') : Nearer r'.rank r.rank := by
  simp only [rank, hs, nearer_iff]
  cases point with
  | asleep woken =>
    cases woken with
    | false => cases h
    | true =>
      cases h
      simp [goto, Stage.part, Stage.actsLeft, Stage.near, WaitPoint.rank]
  | _ =>
    simp only [stepWait?, Option.some.injEq] at h
    subst h
    repeat' split
    all_goals
      simp_all [goto, send, Stage.part, Stage.actsLeft, Stage.near, WaitPoint.rank,
        Register.consumeStep?, Register.pauseFrom?] <;> grind

/-- Every step takes the worker nearer to the end of its run. -/
theorem step?_nearer {env : Environment} {breakpoints : LineSet} {r r' : Run}
    (h : r.step? env breakpoints = some r') : Nearer r'.rank r.rank := by
  unfold step? at h
  split at h
  case h_12 line point script hs => exact stepWait?_nearer hs h
  all_goals
    rename_i hs
    simp only [rank, hs, nearer_iff]
    cases h <;> repeat' split
    all_goals simp_all [goto, send, Stage.part, Stage.actsLeft, Stage.near]

/-- Letting the worker through a gate takes it nearer as well. -/
theorem release_nearer {r : Run} (h : r.atGate) : Nearer r.release.rank r.rank := by
  simp only [atGate] at h
  split at h
  · next hs => simp [release, hs, rank, goto, nearer_iff, Stage.part, Stage.actsLeft, Stage.near]
  · next hs => simp [release, hs, rank, goto, nearer_iff, Stage.part, Stage.actsLeft]
  · cases h

/-! ## 3. Resting -/

/-- The run when its worker can move no more. -/
def settle (env : Environment) (breakpoints : LineSet) (r : Run) : Run :=
  match _h : r.step? env breakpoints with
  | none => r
  | some r' =>
    settle env breakpoints r'
termination_by r.rank
decreasing_by exact step?_nearer _h

/-- The run when its worker has been let through all gates and can move no more. -/
def drain (env : Environment) (breakpoints : LineSet) (r : Run) : Run :=
  match _h : r.step? env breakpoints with
  | some r' =>
    drain env breakpoints r'
  | none =>
    if _hg : r.atGate then drain env breakpoints r.release else r
termination_by r.rank
decreasing_by
  · exact step?_nearer _h
  · exact release_nearer _hg

/-- A settled worker cannot move. -/
theorem step?_settle (env : Environment) (breakpoints : LineSet) (r : Run) :
    (r.settle env breakpoints).step? env breakpoints = none := by
  fun_induction settle env breakpoints r with
  | case1 r h => exact h
  | case2 r r' _ ih => exact ih

end Run

end Stepwise
