import Mathlib.Logic.Relation
import Stepwise.Debuggee.Action

/-!
# What every program keeps of its registries

The registries of a program change by single operations (`Registry.Step`).  A renderer is taken
apart into its beginning and its end, so that the registries inside of it, nested to any depth, are
reached by operations as well.

The registries do not say how they came about: a released allocation leaves no trace, and a label on
the stack is a text.  A journal is kept beside them, of the functions that are active, of the
renderers that run, and of all that happened to the heap.  It is written by the rules of `Course`
alone and read by no operation, so what the registries hold can be compared with what went on.

Main statements:

* `Registry.Sound.step`: one operation keeps the invariant, and `Registry.Reachable.sound`: it holds
  of all registries that are ever reached;
* `Debuggee.relates_of_act?`: what holds of operations and is passed on by renderers holds of all that
  a program does; `Debuggee.steps_of_act?`: whatever it does is operations in turn;
* `Debuggee.exists_course_of_actAll?`: whatever a program does is a course, and its renderers are
  done when it is.
-/

namespace Stepwise

/-- Whether a content can be held: addresses are 64-bit numbers. -/
def Content.InRange : Content → Prop
  | .value _ => True
  | .pointer address => address < Address.bound

namespace Registry

/-! ## 1. Operations -/

/-- One operation of a program on its registries. -/
inductive Step : Registry → Registry → Prop
  | allocate {r r' : Registry} {size address : Nat} (h : r.allocate? size = some (r', address)) :
      Step r r'
  | release (r : Registry) (address : Nat) : Step r (r.release address)
  | beginRender {r : Registry} {address : Nat} (h : r.canRender address) (typeName : Text) :
      Step r (r.beginRender address typeName)
  | endRender (r : Registry) (address : Nat) (value : Text) (hook : Bool) :
      Step r (r.endRender address value hook)
  | trace {r r' : Registry} {name typeName value : Text} {id : Nat}
      (h : r.trace? name typeName value = some (r', id)) : Step r r'
  | tracePointer {r r' : Registry} {name pointee : Text} {address id : Nat}
      (ha : address < Address.bound) (h : r.tracePointer? name pointee address = some (r', id)) :
      Step r r'
  | assign (r : Registry) (id : Nat) {content : Content} (hc : content.InRange) :
      Step r (r.assign id content)
  | untrace (r : Registry) (id : Nat) : Step r (r.untrace id)
  | enter (r : Registry) (name : Text) : Step r (r.enter name)
  | leave (r : Registry) : Step r r.leave

/-- One operation other than those with which a renderer begins and ends. -/
inductive Operation : Registry → Registry → Prop
  | allocate {r r' : Registry} {size address : Nat} (h : r.allocate? size = some (r', address)) :
      Operation r r'
  | release (r : Registry) (address : Nat) : Operation r (r.release address)
  | trace {r r' : Registry} {name typeName value : Text} {id : Nat}
      (h : r.trace? name typeName value = some (r', id)) : Operation r r'
  | tracePointer {r r' : Registry} {name pointee : Text} {address id : Nat}
      (ha : address < Address.bound) (h : r.tracePointer? name pointee address = some (r', id)) :
      Operation r r'
  | assign (r : Registry) (id : Nat) {content : Content} (hc : content.InRange) :
      Operation r (r.assign id content)
  | untrace (r : Registry) (id : Nat) : Operation r (r.untrace id)
  | enter (r : Registry) (name : Text) : Operation r (r.enter name)
  | leave (r : Registry) : Operation r r.leave

theorem Operation.step {r r' : Registry} (h : Operation r r') : Step r r' := by
  cases h with
  | allocate h => exact .allocate h
  | release address => exact .release r address
  | trace h => exact .trace h
  | tracePointer ha h => exact .tracePointer ha h
  | assign id hc => exact .assign r id hc
  | untrace id => exact .untrace r id
  | enter name => exact .enter r name
  | leave => exact .leave r

/-- The registries that a program can reach, between two of its actions or inside of a renderer. -/
def Reachable (r : Registry) : Prop :=
  ∃ limit, Relation.ReflTransGen Step { depthLimit := limit } r

/-- The addresses of the registered allocations. -/
def heapAddresses (r : Registry) : List Nat := r.heap.map Prod.fst

/-- The ids of the traced variables. -/
def tracedIds (r : Registry) : List Nat := r.traced.map Variable.id

/-! ## 2. What single operations change -/

@[simp] theorem heapAddresses_modifyHeap (r : Registry) (address : Nat)
    (f : Allocation → Allocation) :
    (r.modifyHeap address f).heapAddresses = r.heapAddresses := by
  simp [heapAddresses, modifyHeap, Function.comp_def]

@[simp] theorem heapAddresses_retype (r : Registry) (address : Nat) (typeName : Text) :
    (r.retype address typeName).heapAddresses = r.heapAddresses := by
  simp only [heapAddresses, retype, List.map_map]
  refine List.map_congr_left fun entry _ => ?_
  simp only [Function.comp_apply]
  split <;> rfl

@[simp] theorem heapAddresses_beginRender (r : Registry) (address : Nat) (typeName : Text) :
    (r.beginRender address typeName).heapAddresses = r.heapAddresses :=
  heapAddresses_modifyHeap r address ({ · with typeName })

@[simp] theorem heapAddresses_endRender (r : Registry) (address : Nat) (value : Text)
    (hook : Bool) : (r.endRender address value hook).heapAddresses = r.heapAddresses :=
  heapAddresses_modifyHeap r address ({ · with value })

theorem heapAddresses_release (r : Registry) (address : Nat) :
    (r.release address).heapAddresses.Sublist r.heapAddresses := by
  unfold release
  split
  · exact List.Sublist.refl _
  · exact List.filter_sublist.map _

theorem release_eq (r : Registry) (address : Nat) :
    r.release address = { r with heap := (r.release address).heap } := by
  unfold release
  split <;> rfl

@[simp] theorem tracedIds_assign (r : Registry) (id : Nat) (content : Content) :
    (r.assign id content).tracedIds = r.tracedIds := by
  simp only [tracedIds, assign, List.map_map]
  refine List.map_congr_left fun v _ => ?_
  simp only [Function.comp_apply]
  split <;> rfl

theorem traced_untrace (r : Registry) (id : Nat) : (r.untrace id).traced.Sublist r.traced :=
  List.filter_sublist

theorem roundedSize_pos (size : Nat) : 0 < roundedSize size := by
  unfold roundedSize
  omega

/-- What an allocation does: it takes the next address, and the room behind it is there. -/
theorem allocate?_eq_some {r r' : Registry} {size address : Nat}
    (h : r.allocate? size = some (r', address)) :
    address = r.nextHeap ∧ r.nextHeap + roundedSize size < Address.bound ∧
      ∃ a : Allocation, r' = { r with
        nextHeap := r.nextHeap + roundedSize size
        heap := if r.inHook then r.heap else r.heap ++ [(r.nextHeap, a)] } := by
  simp only [allocate?] at h
  split at h
  · cases h
  · next hroom =>
    obtain ⟨rfl, rfl⟩ := Prod.mk.inj (Option.some.inj h)
    exact ⟨rfl, Nat.lt_of_not_le hroom, _, rfl⟩

/-- The variable that a registration adds. -/
def newVariable (r : Registry) (name typeName : Text) (content : Content) : Variable :=
  { id := r.nextVariable, name, typeName, frame := r.currentFrame, address := r.nextSlot, content }

/-- What a registration does: it adds one variable with the next id at the next address. -/
theorem register?_eq_some {r r' : Registry} {name typeName : Text} {content : Content} {id : Nat}
    (h : r.register? name typeName content = some (r', id)) :
    id = r.nextVariable ∧ slotSize ≤ r.nextSlot ∧
      r' = { r with
        traced := r.traced ++ [r.newVariable name typeName content]
        nextVariable := r.nextVariable + 1
        nextSlot := r.nextSlot - slotSize } := by
  simp only [register?] at h
  split at h
  · cases h
  · next hroom =>
    obtain ⟨rfl, rfl⟩ := Prod.mk.inj (Option.some.inj h)
    exact ⟨rfl, Nat.le_of_not_lt hroom, rfl⟩

/-! ## 3. The invariant -/

/-- What holds of the registries of every program: variables are in the order of their ids and hold
what can be held, and allocations are in the order of their addresses, which are addresses. -/
structure Sound (r : Registry) : Prop where
  ids : r.tracedIds.Pairwise (· < ·)
  fresh : ∀ id ∈ r.tracedIds, id < r.nextVariable
  contents : ∀ v ∈ r.traced, v.content.InRange
  addresses : r.heapAddresses.Pairwise (· < ·)
  bounds : ∀ address ∈ r.heapAddresses, 0 < address ∧ address < r.nextHeap
  room : 0 < r.nextHeap ∧ r.nextHeap < Address.bound

theorem sound_start (limit : Nat) : Sound { depthLimit := limit } where
  ids := List.Pairwise.nil
  fresh := by simp [tracedIds]
  contents := by simp
  addresses := List.Pairwise.nil
  bounds := by simp [heapAddresses]
  room := (by decide : 0 < 0x10000 ∧ 0x10000 < Address.bound)

namespace Sound

variable {r r' : Registry}

/-- An operation on variables alone keeps what is said of the heap. -/
theorem of_heap_eq (hr : Sound r) (hheap : r'.heapAddresses = r.heapAddresses)
    (hnext : r'.nextHeap = r.nextHeap) (ids : r'.tracedIds.Pairwise (· < ·))
    (fresh : ∀ id ∈ r'.tracedIds, id < r'.nextVariable)
    (contents : ∀ v ∈ r'.traced, v.content.InRange) : Sound r' where
  ids := ids
  fresh := fresh
  contents := contents
  addresses := hheap ▸ hr.addresses
  bounds := by
    rw [hheap, hnext]
    exact hr.bounds
  room := hnext ▸ hr.room

/-- An operation on the heap alone keeps what is said of the variables. -/
theorem of_traced_eq (hr : Sound r) (htraced : r'.traced = r.traced)
    (hnext : r'.nextVariable = r.nextVariable) (addresses : r'.heapAddresses.Pairwise (· < ·))
    (bounds : ∀ address ∈ r'.heapAddresses, 0 < address ∧ address < r'.nextHeap)
    (room : 0 < r'.nextHeap ∧ r'.nextHeap < Address.bound) : Sound r' where
  ids := by
    rw [tracedIds, htraced]
    exact hr.ids
  fresh := by
    rw [tracedIds, htraced, hnext]
    exact hr.fresh
  contents := htraced ▸ hr.contents
  addresses := addresses
  bounds := bounds
  room := room

/-- An allocation is registered behind all others. -/
theorem allocate (hr : Sound r) {size address : Nat}
    (h : r.allocate? size = some (r', address)) : Sound r' := by
  obtain ⟨-, hroom, a, rfl⟩ := allocate?_eq_some h
  have hpos := roundedSize_pos size
  have hlt : r.nextHeap < r.nextHeap + roundedSize size := by omega
  have hbounds : ∀ a ∈ r.heapAddresses, 0 < a ∧ a < r.nextHeap + roundedSize size := fun a ha =>
    ⟨(hr.bounds a ha).1, Nat.lt_trans (hr.bounds a ha).2 hlt⟩
  by_cases hook : r.inHook = true
  · rw [if_pos hook]
    exact hr.of_traced_eq rfl rfl hr.addresses hbounds ⟨Nat.zero_lt_of_lt hlt, hroom⟩
  · rw [if_neg hook]
    have hheap : (r.heap ++ [(r.nextHeap, a)]).map Prod.fst = r.heapAddresses ++ [r.nextHeap] := by
      rw [List.map_append]
      rfl
    refine hr.of_traced_eq rfl rfl ?_ ?_ ⟨Nat.zero_lt_of_lt hlt, hroom⟩
    · rw [heapAddresses, hheap, List.pairwise_append]
      refine ⟨hr.addresses, List.pairwise_singleton _ _, fun a ha b hb => ?_⟩
      obtain rfl := List.mem_singleton.1 hb
      exact (hr.bounds a ha).2
    · rw [heapAddresses, hheap]
      intro a ha
      rcases List.mem_append.1 ha with ha | ha
      · exact hbounds a ha
      · obtain rfl := List.mem_singleton.1 ha
        exact ⟨hr.room.1, hlt⟩

/-- A variable is registered behind all others. -/
theorem register (hr : Sound r) {name typeName : Text} {content : Content} {id : Nat}
    (hc : content.InRange) (h : r.register? name typeName content = some (r', id)) : Sound r' := by
  obtain ⟨-, -, rfl⟩ := register?_eq_some h
  have hids : (r.traced ++ [r.newVariable name typeName content]).map Variable.id =
      r.tracedIds ++ [r.nextVariable] := List.map_append
  refine hr.of_heap_eq rfl rfl ?_ ?_ ?_
  · rw [tracedIds, hids, List.pairwise_append]
    refine ⟨hr.ids, List.pairwise_singleton _ _, fun a ha b hb => ?_⟩
    obtain rfl := List.mem_singleton.1 hb
    exact hr.fresh a ha
  · rw [tracedIds, hids]
    intro a ha
    rcases List.mem_append.1 ha with ha | ha
    · exact Nat.lt_succ_of_lt (hr.fresh a ha)
    · obtain rfl := List.mem_singleton.1 ha
      exact Nat.lt_succ_self _
  · intro w hw
    rcases List.mem_append.1 hw with hw | hw
    · exact hr.contents w hw
    · obtain rfl := List.mem_singleton.1 hw
      exact hc

theorem retype (hr : Sound r) (address : Nat) (typeName : Text) :
    Sound (r.retype address typeName) :=
  hr.of_heap_eq (heapAddresses_retype ..) rfl hr.ids hr.fresh hr.contents

/-- **One operation keeps the registries sound.** -/
theorem step (hr : Sound r) (h : Step r r') : Sound r' := by
  cases h with
  | allocate h => exact hr.allocate h
  | release address =>
    have hsub := heapAddresses_release r address
    rw [release_eq] at hsub ⊢
    exact hr.of_traced_eq rfl rfl (hr.addresses.sublist hsub)
      (fun a ha => hr.bounds a (hsub.subset ha)) hr.room
  | beginRender h typeName =>
    exact hr.of_heap_eq (heapAddresses_beginRender ..) rfl hr.ids hr.fresh hr.contents
  | endRender address value hook =>
    exact hr.of_heap_eq (heapAddresses_endRender ..) rfl hr.ids hr.fresh hr.contents
  | @trace _ name typeName value id h =>
    have hc : (Content.value value).InRange := trivial
    exact hr.register hc h
  | @tracePointer _ name pointee address id ha h =>
    have hc : (Content.pointer address).InRange := ha
    exact (hr.retype address pointee).register hc h
  | assign id hc =>
    refine hr.of_heap_eq rfl rfl ?_ ?_ ?_
    · rw [tracedIds_assign]
      exact hr.ids
    · rw [tracedIds_assign]
      exact hr.fresh
    · intro w hw
      obtain ⟨v, hv, rfl⟩ := List.mem_map.1 hw
      split
      · exact hc
      · exact hr.contents v hv
  | untrace id =>
    have hsub := traced_untrace r id
    refine hr.of_heap_eq rfl rfl (hr.ids.sublist (hsub.map _)) ?_ ?_
    · exact fun i hi => hr.fresh i ((hsub.map _).subset hi)
    · exact fun v hv => hr.contents v (hsub.subset hv)
  | enter name => exact hr.of_heap_eq rfl rfl hr.ids hr.fresh hr.contents
  | leave => exact hr.of_heap_eq rfl rfl hr.ids hr.fresh hr.contents

theorem address_lt (hr : Sound r) {address : Nat} (h : address ∈ r.heapAddresses) :
    address < Address.bound :=
  Nat.lt_trans (hr.bounds address h).2 hr.room.2

end Sound

/-- **All registries that a program reaches are sound.** -/
theorem Reachable.sound {r : Registry} (h : Reachable r) : Sound r := by
  obtain ⟨limit, hsteps⟩ := h
  induction hsteps with
  | refl => exact sound_start limit
  | tail _ hstep ih => exact ih.step hstep

end Registry

/-! ## 4. Programs -/

mutual

/-- Whether all addresses that an action hands over are addresses. -/
def Action.InRange : Action → Prop
  | .rerender _ _ _ actions => Action.AllInRange actions
  | .tracePointer _ _ _ address => address < Address.bound
  | .point _ address => address < Address.bound
  | _ => True

/-- Whether all addresses that several actions hand over are addresses. -/
def Action.AllInRange : List Action → Prop
  | [] => True
  | a :: as => a.InRange ∧ Action.AllInRange as

end

/-- What holds between the registries before and after every piece of a program: it holds of single
operations and of pieces in turn, and of a renderer if it holds of what the renderer does. -/
structure Registry.Composes (R : Registry → Registry → Prop) : Prop where
  refl : ∀ r, R r r
  trans : ∀ {r s t}, R r s → R s t → R r t
  operation : ∀ {r s}, Operation r s → R r s
  render : ∀ {r s : Registry} {address : Nat} (typeName value : Text), r.canRender address →
    R (r.beginRender address typeName) s → R r (s.endRender address value r.inHook)

namespace Debuggee

open Registry (Step Composes)
open Relation (ReflTransGen)

/-- The first of several actions, and the others. -/
theorem actAll?_cons_eq_some {p q : Debuggee} {a : Action} {as : List Action} {replies : List Reply}
    (h : p.actAll? (a :: as) = some (q, replies)) :
    ∃ p' reply replies', p.act? a = some (p', reply) ∧ p'.actAll? as = some (q, replies') := by
  rw [actAll?] at h
  cases hfirst : p.act? a with
  | none => simp [hfirst] at h
  | some first =>
    cases hrest : first.1.actAll? as with
    | none => simp [hfirst, hrest] at h
    | some rest =>
      simp only [hfirst, hrest] at h
      obtain ⟨rfl, -⟩ := Prod.mk.inj (Option.some.inj h)
      exact ⟨first.1, first.2, rest.2, rfl, hrest⟩

section

variable {R : Registry → Registry → Prop}

theorem relates_dropTracer (hR : Composes R) (p : Debuggee) (handle : Text) :
    R p.registry (p.dropTracer handle).1.registry := by
  unfold dropTracer
  split
  · exact hR.refl _
  · exact hR.operation (.untrace _ _)

theorem relates_dropScope (hR : Composes R) (p : Debuggee) (handle : Text) :
    R p.registry (p.dropScope handle).1.registry := by
  unfold dropScope
  split
  · exact hR.operation (.leave _)
  · exact hR.refl _

theorem relates_holdTracer (hR : Composes R) (p : Debuggee) (handle : Text) (registry : Registry)
    (id : Nat) : R registry (p.holdTracer handle registry id).registry :=
  relates_dropTracer hR { p with registry } handle

mutual

/-- **What composes holds before and after every action.**  The cases are those of the actions; a
renderer is what its actions do, between its beginning and its end. -/
theorem relates_of_act? (hR : Composes R) {p p' : Debuggee} {a : Action} {reply : Reply}
    (ha : a.InRange) (h : p.act? a = some (p', reply)) : R p.registry p'.registry := by
  cases a with
  | allocate size =>
    rw [act?, Option.map_eq_some_iff] at h
    obtain ⟨⟨r, address⟩, hr, heq⟩ := h
    obtain ⟨rfl, -⟩ := Prod.mk.inj heq
    exact hR.operation (.allocate hr)
  | release address =>
    rw [act?] at h
    obtain ⟨rfl, -⟩ := Prod.mk.inj (Option.some.inj h)
    exact hR.operation (.release _ _)
  | rerender address typeName value actions =>
    rw [act?] at h
    by_cases hcan : p.registry.canRender address = true
    · rw [if_pos hcan] at h
      cases hq : actAll? { p with registry := p.registry.beginRender address typeName } actions with
      | none => simp [hq] at h
      | some result =>
        rw [hq] at h
        obtain ⟨rfl, -⟩ := Prod.mk.inj (Option.some.inj h)
        exact hR.render typeName value hcan (relates_of_actAll? hR ha hq)
    · rw [if_neg hcan] at h
      obtain ⟨rfl, -⟩ := Prod.mk.inj (Option.some.inj h)
      exact hR.refl _
  | trace handle name typeName value =>
    rw [act?, Option.map_eq_some_iff] at h
    obtain ⟨⟨r, id⟩, hr, heq⟩ := h
    obtain ⟨rfl, -⟩ := Prod.mk.inj heq
    exact hR.trans (hR.operation (.trace hr)) (relates_holdTracer hR p handle r id)
  | assign handle value =>
    rw [act?] at h
    split at h
    · obtain ⟨rfl, -⟩ := Prod.mk.inj (Option.some.inj h)
      exact hR.refl _
    · obtain ⟨rfl, -⟩ := Prod.mk.inj (Option.some.inj h)
      have hc : (Content.value value).InRange := trivial
      exact hR.operation (.assign _ _ hc)
  | tracePointer handle name pointee address =>
    rw [act?, Option.map_eq_some_iff] at h
    obtain ⟨⟨r, id⟩, hr, heq⟩ := h
    obtain ⟨rfl, -⟩ := Prod.mk.inj heq
    exact hR.trans (hR.operation (.tracePointer ha hr)) (relates_holdTracer hR p handle r id)
  | point handle address =>
    rw [act?] at h
    split at h
    · obtain ⟨rfl, -⟩ := Prod.mk.inj (Option.some.inj h)
      exact hR.refl _
    · obtain ⟨rfl, -⟩ := Prod.mk.inj (Option.some.inj h)
      have hc : (Content.pointer address).InRange := ha
      exact hR.operation (.assign _ _ hc)
  | untrace handle =>
    rw [act?] at h
    obtain ⟨rfl, -⟩ := Prod.mk.inj (Option.some.inj h)
    exact relates_dropTracer hR p handle
  | enter handle name =>
    rw [act?] at h
    obtain ⟨rfl, -⟩ := Prod.mk.inj (Option.some.inj h)
    exact hR.trans (hR.operation (.enter _ name))
      (relates_dropScope hR { p with registry := p.registry.enter name } handle)
  | leave handle =>
    rw [act?] at h
    obtain ⟨rfl, -⟩ := Prod.mk.inj (Option.some.inj h)
    exact relates_dropScope hR p handle
  | dump =>
    rw [act?] at h
    obtain ⟨rfl, -⟩ := Prod.mk.inj (Option.some.inj h)
    exact hR.refl _
  | inspect =>
    rw [act?] at h
    obtain ⟨rfl, -⟩ := Prod.mk.inj (Option.some.inj h)
    exact hR.refl _

/-- What composes holds before and after several actions. -/
theorem relates_of_actAll? (hR : Composes R) {p p' : Debuggee} {as : List Action}
    {replies : List Reply} (has : Action.AllInRange as) (h : p.actAll? as = some (p', replies)) :
    R p.registry p'.registry := by
  cases as with
  | nil =>
    rw [actAll?] at h
    obtain ⟨rfl, -⟩ := Prod.mk.inj (Option.some.inj h)
    exact hR.refl _
  | cons a as =>
    obtain ⟨_, _, _, hfirst, hrest⟩ := actAll?_cons_eq_some h
    exact hR.trans (relates_of_act? hR has.1 hfirst) (relates_of_actAll? hR has.2 hrest)

end

end

theorem composes_steps : Composes (ReflTransGen Step) where
  refl _ := .refl
  trans := ReflTransGen.trans
  operation h := .single h.step
  render typeName _ hcan hinner :=
    (ReflTransGen.head (.beginRender hcan typeName) hinner).tail (.endRender _ _ _ _)

/-- **What an action does to the registries is operations in turn.** -/
theorem steps_of_act? {p p' : Debuggee} {a : Action} {reply : Reply} (ha : a.InRange)
    (h : p.act? a = some (p', reply)) : ReflTransGen Step p.registry p'.registry :=
  relates_of_act? composes_steps ha h

/-- **A program keeps to the registries that can be reached.** -/
theorem reachable_of_actAll? {p : Debuggee} {as : List Action} {replies : List Reply} (limit : Nat)
    (has : Action.AllInRange as)
    (h : actAll? { registry := { depthLimit := limit } } as = some (p, replies)) :
    p.registry.Reachable :=
  ⟨limit, relates_of_actAll? composes_steps has h⟩

end Debuggee

/-! ## 5. Journals -/

/-- What happened to the heap.  Whether it happened inside of a renderer is noted by the renderers
that run, not by the flag of the registries. -/
inductive HeapEvent where
  /-- An address was given for so many bytes. -/
  | allocated (address size : Nat) (inside : Bool)
  /-- An address was released, whether or not anything was registered there. -/
  | released (address : Nat) (inside : Bool)
  deriving DecidableEq, Repr

/-- What went on in a program up to a moment. -/
structure Journal where
  /-- The functions that are active, outermost first. -/
  functions : List Text := []
  /-- The renderers that run, innermost first: the address each of them renders, and the flag it
  puts back when it is done. -/
  renderers : List (Nat × Bool) := []
  /-- What happened to the heap, oldest first. -/
  heap : List HeapEvent := []
  deriving DecidableEq, Repr

/-- Whether a renderer runs. -/
def Journal.isInside (j : Journal) : Bool := !j.renderers.isEmpty

namespace Registry

/-- One operation on traced variables. -/
inductive VariableStep : Registry → Registry → Prop
  | trace {r r' : Registry} {name typeName value : Text} {id : Nat}
      (h : r.trace? name typeName value = some (r', id)) : VariableStep r r'
  | tracePointer {r r' : Registry} {name pointee : Text} {address id : Nat}
      (ha : address < Address.bound) (h : r.tracePointer? name pointee address = some (r', id)) :
      VariableStep r r'
  | assign (r : Registry) (id : Nat) {content : Content} (hc : content.InRange) :
      VariableStep r (r.assign id content)
  | untrace (r : Registry) (id : Nat) : VariableStep r (r.untrace id)

theorem VariableStep.step {r r' : Registry} (h : VariableStep r r') : Step r r' := by
  cases h with
  | trace h => exact .trace h
  | tracePointer ha h => exact .tracePointer ha h
  | assign id hc => exact .assign r id hc
  | untrace id => exact .untrace r id

/-- The registered allocations by their addresses and sizes. -/
def heapEntries (r : Registry) : List (Nat × Nat) :=
  r.heap.map fun (address, a) => (address, a.size)

/-! ## 6. What operations leave alone -/

@[simp] theorem heapEntries_retype (r : Registry) (address : Nat) (typeName : Text) :
    (r.retype address typeName).heapEntries = r.heapEntries := by
  simp only [heapEntries, retype, List.map_map]
  refine List.map_congr_left fun entry _ => ?_
  simp only [Function.comp_apply]
  split <;> rfl

theorem heapEntries_modifyHeap (r : Registry) (address : Nat) (f : Allocation → Allocation)
    (hf : ∀ a, (f a).size = a.size) : (r.modifyHeap address f).heapEntries = r.heapEntries := by
  simp only [heapEntries, modifyHeap, List.map_map]
  refine List.map_congr_left fun entry _ => ?_
  simp only [Function.comp_apply]
  split
  · rw [hf]
  · rfl

@[simp] theorem heapEntries_beginRender (r : Registry) (address : Nat) (typeName : Text) :
    (r.beginRender address typeName).heapEntries = r.heapEntries :=
  heapEntries_modifyHeap r address ({ · with typeName }) fun _ => rfl

@[simp] theorem heapEntries_endRender (r : Registry) (address : Nat) (value : Text) (hook : Bool) :
    (r.endRender address value hook).heapEntries = r.heapEntries :=
  heapEntries_modifyHeap r address ({ · with value }) fun _ => rfl

/-- An operation on variables changes the types of allocations at most, but neither the stack nor
what is registered, nor the flag of renderers. -/
theorem VariableStep.others_eq {r r' : Registry} (h : VariableStep r r') :
    r'.stack = r.stack ∧ r'.inHook = r.inHook ∧ r'.nextHeap = r.nextHeap ∧
      r'.heapEntries = r.heapEntries := by
  cases h with
  | trace h =>
    obtain ⟨-, -, rfl⟩ := register?_eq_some h
    exact ⟨rfl, rfl, rfl, rfl⟩
  | @tracePointer _ _ pointee address _ _ h =>
    obtain ⟨-, -, rfl⟩ := register?_eq_some h
    exact ⟨rfl, rfl, rfl, heapEntries_retype r address pointee⟩
  | assign id _ => exact ⟨rfl, rfl, rfl, rfl⟩
  | untrace id => exact ⟨rfl, rfl, rfl, rfl⟩

/-! ## 7. Courses -/

/-- The journals and the registries that a program can have at one moment.  The scope that is left
is that of the innermost function. -/
inductive Course : Journal → Registry → Prop
  | start (limit : Nat) : Course {} { depthLimit := limit }
  | onVariable {j : Journal} {r r' : Registry} (h : Course j r) (hstep : VariableStep r r') :
      Course j r'
  | enter {j : Journal} {r : Registry} (h : Course j r) (name : Text) :
      Course { j with functions := j.functions ++ [name] } (r.enter name)
  | leave {j : Journal} {r : Registry} (h : Course j r) :
      Course { j with functions := j.functions.dropLast } r.leave
  | allocate {j : Journal} {r r' : Registry} {size address : Nat} (h : Course j r)
      (hr : r.allocate? size = some (r', address)) :
      Course { j with heap := j.heap ++ [.allocated address size j.isInside] } r'
  | release {j : Journal} {r : Registry} (h : Course j r) (address : Nat) :
      Course { j with heap := j.heap ++ [.released address j.isInside] } (r.release address)
  | beginRender {j : Journal} {r : Registry} {address : Nat} (h : Course j r)
      (hcan : r.canRender address) (typeName : Text) :
      Course { j with renderers := (address, r.inHook) :: j.renderers }
        (r.beginRender address typeName)
  | endRender {j : Journal} {r : Registry} {address : Nat} {hook : Bool}
      {renderers : List (Nat × Bool)} (h : Course j r)
      (hj : j.renderers = (address, hook) :: renderers) (value : Text) :
      Course { j with renderers } (r.endRender address value hook)

/-- **A course is taken by operations.** -/
theorem Course.reachable {j : Journal} {r : Registry} (h : Course j r) : r.Reachable := by
  suffices ∃ limit, Relation.ReflTransGen Step { depthLimit := limit } r from this
  induction h with
  | start limit => exact ⟨limit, .refl⟩
  | onVariable _ hstep ih => exact ih.imp fun _ hsteps => hsteps.tail hstep.step
  | enter _ name ih => exact ih.imp fun _ hsteps => hsteps.tail (.enter _ name)
  | leave _ ih => exact ih.imp fun _ hsteps => hsteps.tail (.leave _)
  | allocate _ hr ih => exact ih.imp fun _ hsteps => hsteps.tail (.allocate hr)
  | release _ address ih => exact ih.imp fun _ hsteps => hsteps.tail (.release _ address)
  | beginRender _ hcan typeName ih =>
    exact ih.imp fun _ hsteps => hsteps.tail (.beginRender hcan typeName)
  | endRender _ _ value ih => exact ih.imp fun _ hsteps => hsteps.tail (.endRender _ _ value _)

/-- Whatever operations do, with the renderers that they run done, goes on a course. -/
theorem composes_course :
    Composes fun r s => ∀ j, Course j r → ∃ j', Course j' s ∧ j'.renderers = j.renderers where
  refl _ j h := ⟨j, h, rfl⟩
  trans hrs hst j h := by
    obtain ⟨j', h', hj'⟩ := hrs j h
    obtain ⟨j'', h'', hj''⟩ := hst j' h'
    exact ⟨j'', h'', hj''.trans hj'⟩
  operation := by
    intro r s hop j h
    cases hop with
    | allocate hr => exact ⟨_, h.allocate hr, rfl⟩
    | release address => exact ⟨_, h.release address, rfl⟩
    | trace hr => exact ⟨j, h.onVariable (.trace hr), rfl⟩
    | tracePointer ha hr => exact ⟨j, h.onVariable (.tracePointer ha hr), rfl⟩
    | assign id hc => exact ⟨j, h.onVariable (.assign r id hc), rfl⟩
    | untrace id => exact ⟨j, h.onVariable (.untrace r id), rfl⟩
    | enter name => exact ⟨_, h.enter name, rfl⟩
    | leave => exact ⟨_, h.leave, rfl⟩
  render := by
    intro r s address typeName value hcan hinner j h
    obtain ⟨j', h', hj'⟩ := hinner _ (h.beginRender hcan typeName)
    exact ⟨_, h'.endRender hj' value, rfl⟩

end Registry

/-- **Whatever a program does is a course**, and no renderer runs when it is done. -/
theorem Debuggee.exists_course_of_actAll? {p : Debuggee} {as : List Action} {replies : List Reply}
    (limit : Nat) (has : Action.AllInRange as)
    (h : actAll? { registry := { depthLimit := limit } } as = some (p, replies)) :
    ∃ j, Registry.Course j p.registry ∧ j.renderers = [] :=
  relates_of_actAll? Registry.composes_course has h _ (.start limit)

end Stepwise
