import Stepwise.Proofs.Tables

/-!
# Renderers that call renderers

A renderer may use the registries like any program: it may allocate and release, trace variables,
dump, and have allocations rendered by other renderers, by itself, even for the allocation that it
is running for.  Renderers are therefore known by name here, and what each of them does is a routine
that may mention every name (`Routine`).  How such routines run is a relation, so that nothing is
taken for granted about whether they end (`Routine.Runs`).

The call that renders an allocation does end, however the renderers call each other: each of them
raises the depth, nothing that it does lowers the depth again, and no renderer starts beyond the
limit.  When the call returns, both guards are as they were, the same allocations are registered,
and the allocation shows what its renderer gave, whatever was rendered for it meanwhile.

Main statements:

* `Routine.Runs.keepsGuards`, `Routine.Runs.heapAddresses_eq`: what routines leave as it was;
* `Routine.exists_runs`, `Routine.Runs.unique`: every routine comes to one end;
* `Routine.rerender_restores`: what a call that renders an allocation does;
* `Routine.exists_runs_cycle`: the bound on the nesting is reached;
* `Routine.Runs.actAll?_of_ofActions`: programs whose renderers are told in full run in the same
  way.
-/

namespace Stepwise

/-! ## 1. Routines -/

/-- Whether an action has an allocation rendered. -/
def Action.isRendering : Action → Bool
  | .rerender .. => true
  | _ => false

/-- A single call on the registries: an action that renders nothing and hands over addresses. -/
abbrev PlainAction : Type := { a : Action // a.isRendering = false ∧ a.InRange }

/-- What a renderer does, or a program that calls one: calls, each of which may depend on the
replies to those before, and having allocations rendered by the renderer of some name. -/
inductive Routine (ι α : Type) where
  /-- Done, with a result. -/
  | give (result : α)
  | act (call : PlainAction) (rest : Reply → Routine ι α)
  /-- Goes on with whether the allocation was rendered. -/
  | rerender (address : Nat) (typeName : Text) (renderer : ι) (rest : Bool → Routine ι α)

/-- A call for which there was no room, and the program at that point. -/
structure Breakdown where
  program : Debuggee
  call : PlainAction

namespace Debuggee

/-- The program inside of a renderer that has just begun. -/
def beginRender (p : Debuggee) (address : Nat) (typeName : Text) : Debuggee :=
  { p with registry := p.registry.beginRender address typeName }

/-- The program when a renderer is done. -/
def endRender (p : Debuggee) (address : Nat) (value : Text) (hook : Bool) : Debuggee :=
  { p with registry := p.registry.endRender address value hook }

end Debuggee

namespace Routine

variable {ι α : Type}

/-- How routines run, with the routine of every renderer in a table: how many renderers were running
inside of each other at most, and what it came to. -/
inductive Runs (table : ι → Routine ι Text) :
    {α : Type} → Debuggee → Routine ι α → Nat → Except Breakdown (Debuggee × α) → Prop
  | give {α : Type} (p : Debuggee) (result : α) : Runs table p (.give result) 0 (.ok (p, result))
  | breakDown {α : Type} {p : Debuggee} {call : PlainAction} (rest : Reply → Routine ι α)
      (h : p.act? call.1 = none) : Runs table p (.act call rest) 0 (.error ⟨p, call⟩)
  | act {α : Type} {p q : Debuggee} {call : PlainAction} {reply : Reply}
      {rest : Reply → Routine ι α} {n : Nat} {o : Except Breakdown (Debuggee × α)}
      (h : p.act? call.1 = some (q, reply))
      (hrest : Runs table q (rest reply) n o) : Runs table p (.act call rest) n o
  | refuse {α : Type} {p : Debuggee} {address : Nat} (typeName : Text) (i : ι)
      {rest : Bool → Routine ι α} {n : Nat} {o : Except Breakdown (Debuggee × α)}
      (h : ¬ p.registry.canRender address) (hrest : Runs table p (rest false) n o) :
      Runs table p (.rerender address typeName i rest) n o
  | renderFails {α : Type} {p : Debuggee} {address : Nat} {typeName : Text} {i : ι}
      (rest : Bool → Routine ι α) {n : Nat} {b : Breakdown} (h : p.registry.canRender address)
      (hinner : Runs table (p.beginRender address typeName) (table i) n (.error b)) :
      Runs table p (.rerender address typeName i rest) (n + 1) (.error b)
  | render {α : Type} {p q : Debuggee} {address : Nat} {typeName value : Text} {i : ι}
      {rest : Bool → Routine ι α} {m n : Nat} {o : Except Breakdown (Debuggee × α)}
      (h : p.registry.canRender address)
      (hinner : Runs table (p.beginRender address typeName) (table i) m (.ok (q, value)))
      (hrest : Runs table (q.endRender address value p.registry.inHook) (rest true) n o) :
      Runs table p (.rerender address typeName i rest) (max (m + 1) n) o

end Routine

/-! ## 2. Guards -/

/-- The guards of renderers stand as they stood. -/
structure Registry.KeepsGuards (r r' : Registry) : Prop where
  hook : r'.inHook = r.inHook
  depth : r'.depth = r.depth
  limit : r'.depthLimit = r.depthLimit

namespace Registry

variable {r r' r'' : Registry}

theorem KeepsGuards.trans (h : KeepsGuards r r') (h' : KeepsGuards r' r'') : KeepsGuards r r'' :=
  ⟨h'.hook.trans h.hook, h'.depth.trans h.depth, h'.limit.trans h.limit⟩

/-- A renderer that leaves the guards as it found them gives them back. -/
theorem KeepsGuards.endRender {address : Nat} {typeName : Text}
    (h : KeepsGuards (r.beginRender address typeName) r') (value : Text) :
    KeepsGuards r (r'.endRender address value r.inHook) where
  hook := rfl
  depth := by
    have hdepth : r'.depth = r.depth + 1 := h.depth
    simp [Registry.endRender, hdepth]
  limit := h.limit

/-- **No operation touches the guards**, and a renderer gives them back. -/
theorem composes_keepsGuards : Composes KeepsGuards where
  refl _ := ⟨rfl, rfl, rfl⟩
  trans := KeepsGuards.trans
  operation := by
    intro r r' h
    cases h with
    | allocate h =>
      obtain ⟨-, -, a, rfl⟩ := allocate?_eq_some h
      exact ⟨rfl, rfl, rfl⟩
    | release address =>
      rw [release_eq]
      exact ⟨rfl, rfl, rfl⟩
    | trace h =>
      obtain ⟨-, -, rfl⟩ := register?_eq_some h
      exact ⟨rfl, rfl, rfl⟩
    | tracePointer _ h =>
      obtain ⟨-, -, rfl⟩ := register?_eq_some h
      exact ⟨rfl, rfl, rfl⟩
    | assign id _ => exact ⟨rfl, rfl, rfl⟩
    | untrace id => exact ⟨rfl, rfl, rfl⟩
    | enter name => exact ⟨rfl, rfl, rfl⟩
    | leave => exact ⟨rfl, rfl, rfl⟩
  render _ value _ h := h.endRender value

theorem canRender_iff {address : Nat} :
    r.canRender address ↔ address ≠ 0 ∧ address ∈ r.heapAddresses ∧ r.depth ≤ r.depthLimit := by
  simp only [canRender, Bool.and_eq_true, List.any_eq_true, decide_eq_true_eq, heapAddresses,
    List.mem_map]
  constructor
  · rintro ⟨⟨hne, hdepth⟩, hmem⟩
    exact ⟨hne, hmem, hdepth⟩
  · rintro ⟨hne, hmem, hdepth⟩
    exact ⟨⟨hne, hdepth⟩, hmem⟩

end Registry

namespace Routine

open Registry (KeepsGuards composes_keepsGuards composes_keepsHeap)

variable {ι α : Type} {table : ι → Routine ι Text} {p : Debuggee} {c : Routine ι α} {n n' : Nat}
  {o o' : Except Breakdown (Debuggee × α)}

/-- **A routine leaves the guards as it found them.**  The induction is on the run. -/
theorem Runs.keepsGuards (h : Runs table p c n o) {q : Debuggee} {result : α}
    (ho : o = .ok (q, result)) : KeepsGuards p.registry q.registry := by
  induction h generalizing q with
  | give p result =>
    obtain ⟨rfl, -⟩ := by simpa using ho
    exact composes_keepsGuards.refl _
  | breakDown rest h => cases ho
  | @act _ p p' call reply rest n o h hrest ih =>
    exact (Debuggee.relates_of_act? composes_keepsGuards call.2.2 h).trans (ih ho)
  | refuse typeName i h hrest ih => exact ih ho
  | renderFails rest h hinner ih => cases ho
  | render h hinner hrest ihinner ihrest => exact ((ihinner rfl).endRender _).trans (ihrest ho)

/-- **Inside of a renderer no allocation is registered and none is released.** -/
theorem Runs.heapAddresses_eq (h : Runs table p c n o) (hook : p.registry.inHook) {q : Debuggee}
    {result : α} (ho : o = .ok (q, result)) :
    q.registry.heapAddresses = p.registry.heapAddresses := by
  induction h generalizing q with
  | give p result =>
    obtain ⟨rfl, -⟩ := by simpa using ho
    rfl
  | breakDown rest h => cases ho
  | @act _ p p' call reply rest n o h hrest ih =>
    have hkept := Debuggee.relates_of_act? composes_keepsHeap call.2.2 h hook
    exact (ih (hkept.hook.trans hook) ho).trans hkept.addresses
  | refuse typeName i h hrest ih => exact ih hook ho
  | renderFails rest h hinner ih => cases ho
  | @render _ p p' address typeName value i rest m n o h hinner hrest ihinner ihrest =>
    have hkept := ihinner rfl rfl
    calc q.registry.heapAddresses
        = (p'.registry.endRender address value p.registry.inHook).heapAddresses := ihrest hook ho
      _ = p'.registry.heapAddresses := Registry.heapAddresses_endRender ..
      _ = (p.registry.beginRender address typeName).heapAddresses := hkept
      _ = p.registry.heapAddresses := Registry.heapAddresses_beginRender ..

/-! ## 3. Ends -/

/-- **Renderers are nested no deeper than the limit allows.** -/
theorem Runs.nesting_le (h : Runs table p c n o) :
    n ≤ p.registry.depthLimit + 1 - p.registry.depth := by
  -- one level further in there is room for one renderer less
  have hroom : ∀ {p : Debuggee} {address : Nat} {typeName : Text} {m : Nat},
      p.registry.canRender address →
      m ≤ (p.beginRender address typeName).registry.depthLimit + 1 -
        (p.beginRender address typeName).registry.depth →
      m + 1 ≤ p.registry.depthLimit + 1 - p.registry.depth := by
    intro p address typeName m hcan hm
    have hdepth := (Registry.canRender_iff.1 hcan).2.2
    have hm : m ≤ p.registry.depthLimit + 1 - (p.registry.depth + 1) := hm
    omega
  induction h with
  | give p result => exact Nat.zero_le _
  | breakDown rest h => exact Nat.zero_le _
  | @act _ p p' call reply rest n o h hrest ih =>
    have hkept := Debuggee.relates_of_act? composes_keepsGuards call.2.2 h
    rwa [hkept.depth, hkept.limit] at ih
  | refuse typeName i h hrest ih => exact ih
  | renderFails rest h hinner ih => exact hroom h ih
  | @render _ p p' address typeName value i rest m n o h hinner hrest ihinner ihrest =>
    have hkept := (hinner.keepsGuards rfl).endRender value
    refine Nat.max_le.2 ⟨hroom h ihinner, ?_⟩
    calc n ≤ (p'.registry.endRender address value p.registry.inHook).depthLimit + 1 -
          (p'.registry.endRender address value p.registry.inHook).depth := ihrest
      _ = p.registry.depthLimit + 1 - p.registry.depth := by rw [hkept.depth, hkept.limit]

/-- **A routine breaks down only at a call for which there is no room.** -/
theorem Runs.act?_of_error (h : Runs table p c n o) {b : Breakdown} (ho : o = .error b) :
    b.program.act? b.call.1 = none := by
  induction h with
  | give p result => cases ho
  | breakDown rest h =>
    obtain rfl := by simpa using ho
    exact h
  | act h hrest ih => exact ih ho
  | refuse typeName i h hrest ih => exact ih ho
  | renderFails rest h hinner ih =>
    obtain rfl := by simpa using ho
    exact ih rfl
  | render h hinner hrest ihinner ihrest => exact ihrest ho

/-- **Every routine comes to an end**, whatever its renderers do.  The first induction is on how
many renderers may still be nested, the second one on the routine: a renderer that starts takes one
off the room, and the routine goes on behind it with the room that it had. -/
theorem exists_runs (table : ι → Routine ι Text) (c : Routine ι α) (p : Debuggee) :
    ∃ n o, Runs table p c n o := by
  induction hroom : p.registry.depthLimit + 1 - p.registry.depth using Nat.strongRecOn
    generalizing α c p with
  | ind room ihroom =>
    induction c generalizing p with
    | give result => exact ⟨0, _, .give p result⟩
    | act call rest ih =>
      cases h : p.act? call.1 with
      | none => exact ⟨0, _, .breakDown rest h⟩
      | some done =>
        have hkept := Debuggee.relates_of_act? composes_keepsGuards call.2.2 h
        obtain ⟨n, o, hrest⟩ := ih done.2 done.1 (by rw [hkept.depth, hkept.limit, hroom])
        exact ⟨n, o, .act h hrest⟩
    | rerender address typeName i rest ih =>
      by_cases hcan : p.registry.canRender address
      · have hless : p.registry.depthLimit + 1 - (p.registry.depth + 1) < room := by
          have := (Registry.canRender_iff.1 hcan).2.2
          omega
        obtain ⟨m, inner, hinner⟩ :=
          ihroom _ hless (table i) (p.beginRender address typeName) rfl
        cases inner with
        | error b => exact ⟨m + 1, .error b, .renderFails rest hcan hinner⟩
        | ok done =>
          have hkept := (hinner.keepsGuards rfl).endRender done.2
          have hsame : (done.1.endRender address done.2 p.registry.inHook).registry.depthLimit + 1 -
              (done.1.endRender address done.2 p.registry.inHook).registry.depth = room := by
            rw [← hroom]
            exact congrArg₂ (fun limit depth => limit + 1 - depth) hkept.limit hkept.depth
          obtain ⟨n, o, hrest⟩ := ih true _ hsame
          exact ⟨_, o, .render hcan hinner hrest⟩
      · obtain ⟨n, o, hrest⟩ := ih false p hroom
        exact ⟨n, o, .refuse typeName i hcan hrest⟩

/-- **A routine comes to one end only.** -/
theorem Runs.unique (h : Runs table p c n o) (h' : Runs table p c n' o') : n' = n ∧ o' = o := by
  induction h generalizing n' with
  | give p result =>
    cases h' with
    | give => exact ⟨rfl, rfl⟩
  | breakDown rest h =>
    cases h' with
    | breakDown => exact ⟨rfl, rfl⟩
    | act hdone hrest => simp [h] at hdone
  | act h hrest ih =>
    cases h' with
    | breakDown _ hnone => simp [h] at hnone
    | act hdone hrest' =>
      obtain ⟨rfl, rfl⟩ := by simpa using h.symm.trans hdone
      exact ih hrest'
  | refuse typeName i h hrest ih =>
    cases h' with
    | refuse _ _ _ hrest' => exact ih hrest'
    | renderFails _ hcan _ => exact absurd hcan h
    | render hcan _ _ => exact absurd hcan h
  | renderFails rest h hinner ih =>
    cases h' with
    | refuse _ _ hcan _ => exact absurd h hcan
    | renderFails _ _ hinner' =>
      obtain ⟨rfl, hb⟩ := ih hinner'
      exact ⟨rfl, by simpa using hb⟩
    | render _ hinner' _ => simpa using (ih hinner').2
  | render h hinner hrest ihinner ihrest =>
    cases h' with
    | refuse _ _ hcan _ => exact absurd h hcan
    | renderFails _ _ hinner' => simpa using (ihinner hinner').2
    | render _ hinner' hrest' =>
      obtain ⟨rfl, hdone⟩ := ihinner hinner'
      obtain ⟨rfl, rfl⟩ := by simpa using hdone
      obtain ⟨rfl, rfl⟩ := ihrest hrest'
      exact ⟨rfl, rfl⟩

end Routine

/-! ## 4. Room -/

/-- Whether there was no address for an allocation, or none for another variable. -/
def Breakdown.NoRoom (b : Breakdown) : Prop :=
  match b.call.1 with
  | .allocate size =>
    Registry.addressBound ≤ b.program.registry.nextHeap + Registry.roundedSize size
  | .trace .. | .tracePointer .. => b.program.registry.nextSlot < Registry.slotSize
  | _ => False

theorem Registry.nextSlot_lt_of_register? {r : Registry} {name typeName : Text} {content : Content}
    (h : r.register? name typeName content = none) : r.nextSlot < slotSize := by
  rw [register?] at h
  split at h
  · assumption
  · cases h

/-- **Calls fail only for want of room.** -/
theorem Breakdown.noRoom_of_act? {b : Breakdown} (h : b.program.act? b.call.1 = none) :
    b.NoRoom := by
  obtain ⟨p, ⟨a, hcall, hrange⟩⟩ := b
  dsimp only [NoRoom] at h ⊢
  cases a with
  | allocate size =>
    rw [Debuggee.act?, Option.map_eq_none_iff, Registry.allocate?] at h
    split at h
    · assumption
    · cases h
  | trace handle name typeName value =>
    rw [Debuggee.act?, Option.map_eq_none_iff] at h
    exact Registry.nextSlot_lt_of_register? h
  | tracePointer handle name pointee address =>
    rw [Debuggee.act?, Option.map_eq_none_iff] at h
    have hroom := Registry.nextSlot_lt_of_register? h
    exact hroom
  | rerender => cases hcall
  | assign =>
    rw [Debuggee.act?] at h
    split at h <;> cases h
  | point =>
    rw [Debuggee.act?] at h
    split at h <;> cases h
  | release => simp [Debuggee.act?] at h
  | untrace => simp [Debuggee.act?] at h
  | enter => simp [Debuggee.act?] at h
  | leave => simp [Debuggee.act?] at h
  | dump => simp [Debuggee.act?] at h
  | inspect => simp [Debuggee.act?] at h

namespace Routine

variable {ι : Type}

/-! ## 5. Rendering an allocation -/

/-- **A call that renders an allocation comes to one end and restores its guards.**  However its
renderers call each other, they are nested no deeper than the limit allows, and the call returns
unless there is no room for an allocation or a variable of theirs.  When it returns, the guards and
the registered addresses are as they were; it tells whether the renderer ran, which it did if the
address is one of a registered allocation and the limit was not passed; and if so, the allocation
shows what its own renderer gave. -/
theorem rerender_restores (table : ι → Routine ι Text) (p : Debuggee) (address : Nat)
    (typeName : Text) (i : ι) :
    ∃ nesting outcome,
      (∀ n o, Runs table p (.rerender address typeName i .give) n o ↔
        n = nesting ∧ o = outcome) ∧
      nesting ≤ p.registry.depthLimit + 1 - p.registry.depth ∧
      (∀ b, outcome = .error b → b.NoRoom) ∧
      ∀ q known, outcome = .ok (q, known) →
        q.registry.inHook = p.registry.inHook ∧ q.registry.depth = p.registry.depth ∧
        q.registry.heapAddresses = p.registry.heapAddresses ∧
        (known = true ↔ address ≠ 0 ∧ address ∈ p.registry.heapAddresses ∧
          p.registry.depth ≤ p.registry.depthLimit) ∧
        (known = true → ∃ n s value,
          Runs table (p.beginRender address typeName) (table i) n (.ok (s, value)) ∧
          q.registry.valueAt address = value) := by
  obtain ⟨nesting, outcome, hrun⟩ :=
    exists_runs table (.rerender address typeName i .give : Routine ι Bool) p
  refine ⟨nesting, outcome, fun n o => ⟨fun h => hrun.unique h, ?_⟩, hrun.nesting_le,
    fun b hb => Breakdown.noRoom_of_act? (hrun.act?_of_error hb), fun q known ho => ?_⟩
  · rintro ⟨rfl, rfl⟩
    exact hrun
  have hguards := hrun.keepsGuards ho
  rw [← Registry.canRender_iff]
  subst ho
  cases hrun with
  | refuse _ _ hcan hrest =>
    cases hrest
    exact ⟨rfl, rfl, rfl, by simpa using hcan, fun hknown => absurd hknown Bool.false_ne_true⟩
  | @render _ _ s _ _ value _ _ m n _ hcan hinner hrest =>
    cases hrest
    have hsame : s.registry.heapAddresses = p.registry.heapAddresses :=
      (hinner.heapAddresses_eq rfl rfl).trans (Registry.heapAddresses_beginRender ..)
    have hmem : address ∈ s.registry.heapAddresses := by
      rw [hsame]
      exact (Registry.canRender_iff.1 hcan).2.1
    refine ⟨hguards.hook, hguards.depth, ?_, by simpa using hcan, fun _ => ?_⟩
    · exact (Registry.heapAddresses_endRender ..).trans hsame
    · exact ⟨m, s, value, hinner, Registry.valueAt_endRender hmem value p.registry.inHook⟩

/-- **The bound on the nesting is reached** by a renderer that has its own allocation rendered
before it gives anything. -/
theorem exists_runs_cycle {p : Debuggee} {address : Nat} (h0 : address ≠ 0)
    (hmem : address ∈ p.registry.heapAddresses) (typeName value : Text) {α : Type}
    (result : Bool → α) :
    ∃ q known, Runs (fun _ : Unit => .rerender address typeName () fun _ => .give value) p
      (.rerender address typeName () fun known => .give (result known))
      (p.registry.depthLimit + 1 - p.registry.depth) (.ok (q, result known)) := by
  induction hroom : p.registry.depthLimit + 1 - p.registry.depth generalizing α p with
  | zero =>
    have hcan : ¬ p.registry.canRender address := by
      intro hcan
      have := (Registry.canRender_iff.1 hcan).2.2
      omega
    exact ⟨p, false, .refuse typeName () hcan (.give p _)⟩
  | succ room ih =>
    have hcan : p.registry.canRender address :=
      Registry.canRender_iff.2 ⟨h0, hmem, by omega⟩
    have hless : p.registry.depthLimit + 1 - (p.registry.depth + 1) = room := by omega
    have hmem' : address ∈ (p.beginRender address typeName).registry.heapAddresses := by
      rwa [← Registry.heapAddresses_beginRender p.registry address typeName] at hmem
    obtain ⟨q, known, hinner⟩ := ih hmem' (fun _ => value) hless
    have hrun : Runs (fun _ : Unit => .rerender address typeName () fun _ => .give value) p
        (.rerender address typeName () fun known => .give (result known)) (max (room + 1) 0)
        (.ok (q.endRender address value p.registry.inHook, result true)) :=
      .render hcan hinner (.give _ _)
    rw [Nat.max_zero] at hrun
    exact ⟨_, true, hrun⟩

/-! ## 6. Renderers that are told in full -/

/-- A renderer that is told in full: its actions, and what it gives. -/
abbrev Told : Type := { actions : List Action // Action.AllInRange actions } × Text

/-- The routine of an action that something follows. -/
def ofAction {α : Type} (a : Action) (ha : a.InRange) (rest : Routine Told α) : Routine Told α :=
  match a, ha with
  | .rerender address typeName value actions, ha =>
    .rerender address typeName (⟨actions, ha⟩, value) fun _ => rest
  | .allocate size, ha => .act ⟨.allocate size, rfl, ha⟩ fun _ => rest
  | .release address, ha => .act ⟨.release address, rfl, ha⟩ fun _ => rest
  | .trace handle name typeName value, ha =>
    .act ⟨.trace handle name typeName value, rfl, ha⟩ fun _ => rest
  | .assign handle value, ha => .act ⟨.assign handle value, rfl, ha⟩ fun _ => rest
  | .tracePointer handle name pointee address, ha =>
    .act ⟨.tracePointer handle name pointee address, rfl, ha⟩ fun _ => rest
  | .point handle address, ha => .act ⟨.point handle address, rfl, ha⟩ fun _ => rest
  | .untrace handle, ha => .act ⟨.untrace handle, rfl, ha⟩ fun _ => rest
  | .enter handle name, ha => .act ⟨.enter handle name, rfl, ha⟩ fun _ => rest
  | .leave handle, ha => .act ⟨.leave handle, rfl, ha⟩ fun _ => rest
  | .dump, ha => .act ⟨.dump, rfl, ha⟩ fun _ => rest
  | .inspect, ha => .act ⟨.inspect, rfl, ha⟩ fun _ => rest

/-- The routine of several actions with a result. -/
def ofActions {α : Type} : (as : List Action) → Action.AllInRange as → α → Routine Told α
  | [], _, result => .give result
  | a :: as, h, result => ofAction a h.1 (ofActions as h.2 result)

/-- What the renderers that are told in full do. -/
def told (t : Told) : Routine Told Text := ofActions t.1.1 t.1.2 t.2

mutual

/-- The routine of an action takes it and goes on, unless it breaks down. -/
theorem Runs.act?_of_ofAction {α : Type} {p : Debuggee} {a : Action} {ha : a.InRange}
    {rest : Routine Told α} {n : Nat} {o : Except Breakdown (Debuggee × α)}
    (h : Runs told p (ofAction a ha rest) n o) :
    (∃ q reply m, p.act? a = some (q, reply) ∧ Runs told q rest m o) ∨
      p.act? a = none ∧ ∃ b, o = .error b := by
  cases a with
  | rerender address typeName value actions =>
    rw [Debuggee.act?]
    cases h with
    | refuse _ _ hcan hrest => exact .inl ⟨p, _, n, if_neg hcan, hrest⟩
    | @renderFails _ _ _ _ _ _ _ b hcan hinner =>
      rcases Runs.actAll?_of_ofActions hinner with ⟨_, _, _, ho⟩ | ⟨hnone, -⟩
      · cases ho
      · refine .inr ⟨?_, b, rfl⟩
        rw [Debuggee.beginRender] at hnone
        rw [if_pos hcan, hnone]
    | render hcan hinner hrest =>
      rcases Runs.actAll?_of_ofActions hinner with ⟨q, replies, hdone, ho⟩ | ⟨-, b, ho⟩
      · obtain ⟨rfl, rfl⟩ := by simpa using ho
        refine .inl ⟨_, .rendered (some replies), _, ?_, hrest⟩
        rw [Debuggee.beginRender] at hdone
        rw [if_pos hcan, hdone]
        rfl
      · cases ho
  | _ =>
    cases h with
    | breakDown _ hnone => exact .inr ⟨hnone, _, rfl⟩
    | act hdone hrest => exact .inl ⟨_, _, _, hdone, hrest⟩

/-- **Programs whose renderers are told in full run as their routines do.** -/
theorem Runs.actAll?_of_ofActions {α : Type} {p : Debuggee} {as : List Action}
    {has : Action.AllInRange as} {result : α} {n : Nat} {o : Except Breakdown (Debuggee × α)}
    (h : Runs told p (ofActions as has result) n o) :
    (∃ q replies, p.actAll? as = some (q, replies) ∧ o = .ok (q, result)) ∨
      p.actAll? as = none ∧ ∃ b, o = .error b := by
  cases as with
  | nil =>
    rw [Debuggee.actAll?]
    cases h with
    | give => exact .inl ⟨p, [], rfl, rfl⟩
  | cons a as =>
    rw [Debuggee.actAll?]
    rcases Runs.act?_of_ofAction h with ⟨q, reply, m, hfirst, hrest⟩ | ⟨hnone, hb⟩
    · rw [hfirst]
      rcases Runs.actAll?_of_ofActions hrest with ⟨q', replies, hmore, ho⟩ | ⟨hnone, hb⟩
      · exact .inl ⟨q', reply :: replies, by simp only [hmore], ho⟩
      · exact .inr ⟨by simp only [hnone], hb⟩
    · exact .inr ⟨by rw [hnone], hb⟩

end

end Routine

end Stepwise
