import Stepwise.Proofs.Allocations
import Stepwise.Proofs.Renderers

/-!
# Tracers and the addresses of variables

Every variable that is registered gets the address below that of the one before it, and an address
is never given again, not even when the tracer of its variable has been dropped.  So the id of a
variable tells its address, whatever a program did meanwhile (`Registry.Slotted`), and the addresses
are used up by 7680 registrations.

What is traced follows from the actions of a program alone (`Tracers`): it is what the tracers that
have not been dropped were made for, in the order in which they were made.

Main statements:

* `Registry.Reachable.slotted`: the id of a variable tells its address, and
  `Registry.Reachable.nodup_addresses`, no two variables share one;
* `Debuggee.Tracks.act?`, `Debuggee.Tracks.actAll?`: what actions do to tracers;
* `Debuggee.isSome_actAll?_iff`: how long a program runs that leaves the heap alone;
* `Debuggee.Tracks.dropTracer_of_mem`: dropping a tracer takes its own variable away;
* `Debuggee.tracers_of_actions`: what a program traces, and where.
-/

namespace Stepwise

namespace Registry

variable {r r' : Registry}

/-! ## 1. Addresses of variables -/

/-- The address of the first variable. -/
def firstSlot : Nat := 0xf000

/-- How many variables there are addresses for. -/
def slotCount : Nat := firstSlot / slotSize

/-- The id of a variable, which is the number of those registered before it, tells its address. -/
structure Slotted (r : Registry) : Prop where
  next : r.nextSlot + slotSize * r.nextVariable = firstSlot
  traced : ∀ v ∈ r.traced, v.address + slotSize * v.id = firstSlot

theorem slotted_start (limit : Nat) : Slotted { depthLimit := limit } where
  next := rfl
  traced := by simp

namespace Slotted

/-- Only ids and addresses matter. -/
theorem of_traced (h : Slotted r) (hslot : r'.nextSlot = r.nextSlot)
    (hnext : r'.nextVariable = r.nextVariable)
    (htraced : ∀ v ∈ r'.traced, ∃ w ∈ r.traced, v.address = w.address ∧ v.id = w.id) :
    Slotted r' where
  next := by rw [hslot, hnext, h.next]
  traced := by
    intro v hv
    obtain ⟨w, hw, haddress, hid⟩ := htraced v hv
    rw [haddress, hid, h.traced w hw]

/-- A variable takes the next address. -/
theorem register (h : Slotted r) {name typeName : Text} {content : Content} {id : Nat}
    (hr : r.register? name typeName content = some (r', id)) : Slotted r' := by
  obtain ⟨-, hroom, rfl⟩ := register?_eq_some hr
  refine ⟨?_, fun w hw => ?_⟩
  · calc r.nextSlot - slotSize + slotSize * (r.nextVariable + 1)
        = r.nextSlot - slotSize + slotSize + slotSize * r.nextVariable := by
          rw [Nat.mul_succ, Nat.add_comm (slotSize * _), Nat.add_assoc]
      _ = firstSlot := by rw [Nat.sub_add_cancel hroom, h.next]
  · rcases List.mem_append.1 hw with hw | hw
    · exact h.traced w hw
    · obtain rfl := List.mem_singleton.1 hw
      exact h.next

theorem retype (h : Slotted r) (address : Nat) (typeName : Text) :
    Slotted (r.retype address typeName) := ⟨h.next, h.traced⟩

/-- **One operation keeps the order of addresses.** -/
theorem step (h : Slotted r) (hstep : Step r r') : Slotted r' := by
  have hself : ∀ v ∈ r.traced, ∃ w ∈ r.traced, v.address = w.address ∧ v.id = w.id :=
    fun v hv => ⟨v, hv, rfl, rfl⟩
  cases hstep with
  | allocate hr =>
    obtain ⟨-, -, a, rfl⟩ := allocate?_eq_some hr
    exact ⟨h.next, h.traced⟩
  | release address =>
    rw [release_eq]
    exact ⟨h.next, h.traced⟩
  | beginRender _ typeName => exact ⟨h.next, h.traced⟩
  | endRender address value hook => exact ⟨h.next, h.traced⟩
  | trace hr => exact h.register hr
  | @tracePointer _ _ pointee address _ _ hr => exact (h.retype address pointee).register hr
  | assign id _ =>
    refine h.of_traced rfl rfl fun v hv => ?_
    obtain ⟨w, hw, rfl⟩ := List.mem_map.1 hv
    refine ⟨w, hw, ?_⟩
    split <;> exact ⟨rfl, rfl⟩
  | untrace id =>
    exact h.of_traced rfl rfl fun v hv => ⟨v, (traced_untrace r id).subset hv, rfl, rfl⟩
  | enter name => exact ⟨h.next, h.traced⟩
  | leave => exact ⟨h.next, h.traced⟩

theorem steps (h : Slotted r) (hsteps : Relation.ReflTransGen Step r r') : Slotted r' := by
  induction hsteps with
  | refl => exact h
  | tail _ hstep ih => exact ih.step hstep

/-- **There is an address for another variable** as long as fewer than all of them were given. -/
theorem isSome_register?_iff (h : Slotted r) {name typeName : Text} {content : Content} :
    (r.register? name typeName content).isSome ↔ r.nextVariable < slotCount := by
  have hnext : r.nextSlot + 8 * r.nextVariable = 61440 := h.next
  have hsize : slotSize = 8 := rfl
  have hcount : slotCount = 7680 := rfl
  rw [register?]
  split
  · simp only [Option.isSome_none, Bool.false_eq_true, false_iff]
    omega
  · simp only [Option.isSome_some, true_iff]
    omega

theorem nextVariable_le (h : Slotted r) : r.nextVariable ≤ slotCount := by
  have hnext : r.nextSlot + 8 * r.nextVariable = 61440 := h.next
  have hcount : slotCount = 7680 := rfl
  omega

end Slotted

/-- **The id of a variable tells its address** in all registries that a program reaches. -/
theorem Reachable.slotted (h : Reachable r) : Slotted r := by
  obtain ⟨limit, hsteps⟩ := h
  exact (slotted_start limit).steps hsteps

/-- **No two variables share an address.** -/
theorem Reachable.nodup_addresses (h : Reachable r) : (r.traced.map Variable.address).Nodup := by
  have hids := List.pairwise_map.1 h.sound.ids
  refine List.pairwise_map.2 (hids.imp_of_mem fun {v w} hv hw hlt heq => ?_)
  have hv' : v.address + 8 * v.id = 61440 := h.slotted.traced v hv
  have hw' : w.address + 8 * w.id = 61440 := h.slotted.traced w hw
  omega

/-- **Variables have addresses of their own**: none is null, and no allocation that is registered or
will ever be made is at or below one. -/
theorem Reachable.address_lt (h : Reachable r) {v : Variable} (hv : v ∈ r.traced) :
    v.address ≠ 0 ∧ (∀ address ∈ r.heapAddresses, v.address < address) ∧
      ∀ s s' size address, Relation.ReflTransGen Step r s →
        s.allocate? size = some (s', address) → v.address < address := by
  obtain ⟨hpos, hlt⟩ := h.apart.traced v hv
  refine ⟨Nat.ne_of_gt hpos, fun address haddress => ?_, fun s s' size address hsteps hs => ?_⟩
  · exact Nat.lt_of_lt_of_le hlt (h.apart.allocations address haddress)
  · have hreach : Reachable s := by
      obtain ⟨limit, hbefore⟩ := h
      exact ⟨limit, hbefore.trans hsteps⟩
    obtain ⟨rfl, -⟩ := allocate?_eq_some hs
    exact Nat.lt_of_lt_of_le hlt hreach.apart.room

end Registry

/-! ## 2. Tracers that are held -/

/-- A tracer that a program holds. -/
structure Tracer where
  /-- The handle under which it is held. -/
  handle : Text
  /-- How many variables were registered before its own. -/
  number : Nat
  /-- The declared name of its variable. -/
  name : Text
  deriving DecidableEq, Repr

/-- What a program traces, from its actions alone. -/
structure Tracers where
  /-- How many variables were registered. -/
  registered : Nat := 0
  /-- The tracers that have not been dropped, in the order in which they were made. -/
  held : List Tracer := []
  deriving DecidableEq, Repr

namespace Tracers

/-- Drops the tracer that is held under a handle, if there is one. -/
def drop (t : Tracers) (handle : Text) : Tracers :=
  { t with held := t.held.filter (·.handle ≠ handle) }

/-- Makes a tracer and holds it in the place of the one that was held under the handle. -/
def make (t : Tracers) (handle name : Text) : Tracers where
  registered := t.registered + 1
  held := (t.drop handle).held ++ [{ handle, number := t.registered, name }]

/-- The tracers after an action. -/
def after (t : Tracers) : Action → Tracers
  | .trace handle name _ _ => t.make handle name
  | .tracePointer handle name _ _ => t.make handle name
  | .untrace handle => t.drop handle
  | _ => t

/-- The tracers of a program from its start. -/
def ofActions (as : List Action) : Tracers := as.foldl after {}

/-- Tracers are told apart by their handles, and by the numbers of their variables, which were given
before the next one. -/
structure Distinct (t : Tracers) : Prop where
  handles : (t.held.map Tracer.handle).Nodup
  numbers : (t.held.map Tracer.number).Nodup
  fresh : ∀ u ∈ t.held, u.number < t.registered

theorem Distinct.numbers_concat {t : Tracers} (h : t.Distinct) {u : Tracer}
    (hu : u.number = t.registered) : ((t.held ++ [u]).map Tracer.number).Nodup := by
  rw [List.map_append, List.nodup_append]
  refine ⟨h.numbers, List.nodup_singleton _, fun n hn m hm => ?_⟩
  obtain ⟨w, hw, rfl⟩ := List.mem_map.1 hn
  rw [List.mem_singleton.1 hm, hu]
  exact Nat.ne_of_lt (h.fresh w hw)

theorem Distinct.drop {t : Tracers} (h : t.Distinct) (handle : Text) : (t.drop handle).Distinct :=
  have hsub : (t.drop handle).held.Sublist t.held := List.filter_sublist
  { handles := h.handles.sublist (hsub.map _)
    numbers := h.numbers.sublist (hsub.map _)
    fresh := fun u hu => h.fresh u (hsub.subset hu) }

/-- A tracer that is made takes the place of the one under its handle. -/
theorem Distinct.make {t : Tracers} (h : t.Distinct) (handle name : Text) :
    (t.make handle name).Distinct where
  handles := by
    have hhandles : (t.make handle name).held.map Tracer.handle =
        (t.drop handle).held.map Tracer.handle ++ [handle] := List.map_append
    rw [hhandles, List.nodup_append]
    refine ⟨(h.drop handle).handles, List.nodup_singleton _, fun other hother _ heq => ?_⟩
    obtain ⟨u, hu, rfl⟩ := List.mem_map.1 hother
    rw [List.mem_singleton.1 heq]
    exact of_decide_eq_true (List.mem_filter.1 hu).2
  numbers := (h.drop handle).numbers_concat rfl
  fresh := by
    intro u hu
    rcases List.mem_append.1 hu with hu | hu
    · exact Nat.lt_succ_of_lt ((h.drop handle).fresh u hu)
    · rw [List.mem_singleton.1 hu]
      exact Nat.lt_succ_self _

end Tracers

/-- Whether an action registers a variable. -/
def Action.registers : Action → Bool
  | .trace .. | .tracePointer .. => true
  | _ => false

theorem Action.allInRange_iff {as : List Action} :
    Action.AllInRange as ↔ ∀ a ∈ as, a.InRange := by
  induction as with
  | nil => simp [Action.AllInRange]
  | cons a as ih => rw [Action.AllInRange, ih, List.forall_mem_cons]

theorem Tracers.registered_after (t : Tracers) (a : Action) :
    (t.after a).registered = t.registered + if a.registers then 1 else 0 := by
  cases a <;> rfl

/-! ## 3. What actions do to tracers -/

/-- What tells a variable apart, and its name. -/
def Variable.label (v : Variable) : Nat × Text := (v.id, v.name)

/-- What tells the variable of a tracer apart, and its name. -/
def Tracer.label (u : Tracer) : Nat × Text := (u.number, u.name)

/-- The entry of a tracer among those of a program. -/
def Tracer.entry (u : Tracer) : Text × Nat := (u.handle, u.number)

namespace Debuggee

/-- A program holds the tracers, and what is traced is their variables. -/
structure Tracks (t : Tracers) (p : Debuggee) : Prop where
  registered : p.registry.nextVariable = t.registered
  labels : p.registry.traced.map Variable.label = t.held.map Tracer.label
  entries : p.tracers = (t.held.map Tracer.entry).reverse
  distinct : t.Distinct
  slotted : p.registry.Slotted

theorem tracks_start (limit : Nat) : Tracks {} { registry := { depthLimit := limit } } where
  registered := rfl
  labels := rfl
  entries := rfl
  distinct := ⟨List.nodup_nil, List.nodup_nil, by simp⟩
  slotted := Registry.slotted_start limit

section

variable {p : Debuggee} {us : List Tracer}

/-- A tracer that is held is found under its handle. -/
theorem lookup_of_mem_held (hentries : p.tracers = (us.map Tracer.entry).reverse)
    (hhandles : (us.map Tracer.handle).Nodup) {u : Tracer} (hu : u ∈ us) :
    p.tracers.lookup u.handle = some u.number := by
  have hmem : ∀ {entry}, entry ∈ p.tracers ↔ ∃ w ∈ us, w.entry = entry := by
    simp [hentries]
  cases hlookup : p.tracers.lookup u.handle with
  | none =>
    have hne := List.lookup_eq_none_iff.1 hlookup _ (hmem.2 ⟨u, hu, rfl⟩)
    exact absurd rfl (bne_iff_ne.1 hne)
  | some id =>
    obtain ⟨before, behind, hsplit, -⟩ := List.lookup_eq_some_iff.1 hlookup
    obtain ⟨w, hw, hentry⟩ := hmem.1 (by rw [hsplit]; simp : (u.handle, id) ∈ p.tracers)
    obtain ⟨hhandle, rfl⟩ := Prod.mk.inj hentry
    rw [List.inj_on_of_nodup_map hhandles hw hu hhandle]

/-- Dropping a tracer leaves all but its own variable traced, and all other tracers held.  Variables
that are traced behind those of the tracers stay traced. -/
theorem dropTracer_of_held {ws : List Tracer}
    (hentries : p.tracers = (us.map Tracer.entry).reverse)
    (hlabels : p.registry.traced.map Variable.label = (us ++ ws).map Tracer.label)
    (hhandles : (us.map Tracer.handle).Nodup) (hnumbers : ((us ++ ws).map Tracer.number).Nodup)
    (handle : Text) :
    (p.dropTracer handle).1.tracers =
        ((us.filter (·.handle ≠ handle)).map Tracer.entry).reverse ∧
      (p.dropTracer handle).1.registry.traced.map Variable.label =
        (us.filter (·.handle ≠ handle) ++ ws).map Tracer.label := by
  rw [List.map_append, List.nodup_append] at hnumbers
  rw [dropTracer]
  by_cases hheld : ∃ u ∈ us, u.handle = handle
  · obtain ⟨u, hu, rfl⟩ := hheld
    rw [lookup_of_mem_held hentries hhandles hu]
    -- among those that are held, the handle and the number of a variable tell the same tracer
    have hus : ∀ w ∈ us, decide (w.number ≠ u.number) = decide (w.handle ≠ u.handle) := by
      intro w hw
      refine decide_eq_decide.2 (not_congr ⟨fun h => ?_, fun h => ?_⟩)
      · rw [List.inj_on_of_nodup_map hnumbers.1 hw hu h]
      · rw [List.inj_on_of_nodup_map hhandles hw hu h]
    have hws : ∀ w ∈ ws, decide (w.number ≠ u.number) = true := fun w hw =>
      decide_eq_true
        (hnumbers.2.2 _ (List.mem_map_of_mem hu) _ (List.mem_map_of_mem hw)).symm
    constructor
    · calc p.tracers.filter (·.1 ≠ u.handle)
          = ((us.map Tracer.entry).filter (·.1 ≠ u.handle)).reverse := by
            rw [hentries, List.filter_reverse]
        _ = ((us.filter (·.handle ≠ u.handle)).map Tracer.entry).reverse := by
            rw [List.filter_map]
            rfl
    · calc (p.registry.traced.filter (·.id ≠ u.number)).map Variable.label
          = (p.registry.traced.map Variable.label).filter (·.1 ≠ u.number) := by
            rw [List.filter_map]
            rfl
        _ = ((us ++ ws).filter (·.number ≠ u.number)).map Tracer.label := by
            rw [hlabels, List.filter_map]
            rfl
        _ = (us.filter (·.handle ≠ u.handle) ++ ws).map Tracer.label := by
            rw [List.filter_append, List.filter_congr hus, List.filter_eq_self.2 hws]
  · have hnone : p.tracers.lookup handle = none := by
      refine List.lookup_eq_none_iff.2 fun entry hentry => ?_
      rw [hentries, List.mem_reverse, List.mem_map] at hentry
      obtain ⟨u, hu, rfl⟩ := hentry
      exact bne_iff_ne.2 fun heq => hheld ⟨u, hu, heq.symm⟩
    have hall : us.filter (·.handle ≠ handle) = us :=
      List.filter_eq_self.2 fun u hu => decide_eq_true fun heq => hheld ⟨u, hu, heq⟩
    rw [hnone, hall]
    exact ⟨hentries, hlabels⟩

end

theorem registry_dropTracer (p : Debuggee) (handle : Text) :
    ∃ traced, (p.dropTracer handle).1.registry = { p.registry with traced } := by
  unfold dropTracer
  split
  · exact ⟨_, rfl⟩
  · exact ⟨_, rfl⟩

namespace Tracks

variable {t : Tracers} {p q : Debuggee}

/-- Only what is traced and who holds it matters. -/
theorem congr (h : Tracks t p) (htracers : q.tracers = p.tracers)
    (hnext : q.registry.nextVariable = p.registry.nextVariable)
    (hlabels : q.registry.traced.map Variable.label = p.registry.traced.map Variable.label)
    (hslotted : q.registry.Slotted) : Tracks t q where
  registered := hnext.trans h.registered
  labels := hlabels.trans h.labels
  entries := htracers.trans h.entries
  distinct := h.distinct
  slotted := hslotted

/-- **A tracer that is dropped is held no more**, and all others are. -/
theorem drop (h : Tracks t p) (handle : Text) :
    Tracks (t.drop handle) (p.dropTracer handle).1 := by
  have hnone : t.held = t.held ++ [] := (List.append_nil _).symm
  obtain ⟨hentries, hlabels⟩ := dropTracer_of_held h.entries (hnone ▸ h.labels) h.distinct.handles
    (hnone ▸ h.distinct.numbers) handle
  rw [List.append_nil] at hlabels
  obtain ⟨traced, hregistry⟩ := registry_dropTracer p handle
  refine ⟨?_, hlabels, hentries, h.distinct.drop handle, ?_⟩
  · rw [hregistry]
    exact h.registered
  · exact h.slotted.steps (relates_dropTracer composes_steps p handle)

/-- **A tracer that is made is held behind all others**, and the one that was held under its handle
is dropped. -/
theorem make (h : Tracks t p) {r r' : Registry} {name typeName : Text} {content : Content}
    {id : Nat} (htraced : r.traced = p.registry.traced)
    (hnext : r.nextVariable = p.registry.nextVariable) (hslotted : r.Slotted)
    (hr : r.register? name typeName content = some (r', id)) (handle : Text) :
    Tracks (t.make handle name) (p.holdTracer handle r' id) := by
  obtain ⟨hid, -, hregistered⟩ := Registry.register?_eq_some hr
  have hnumber : r.nextVariable = t.registered := hnext.trans h.registered
  obtain rfl : id = t.registered := hid.trans hnumber
  let new : Tracer := { handle, number := t.registered, name }
  have hlabels : r'.traced.map Variable.label = (t.held ++ [new]).map Tracer.label := by
    rw [hregistered, List.map_append, htraced, h.labels, List.map_append]
    exact congrArg (fun number => _ ++ [(number, name)]) hnumber
  -- the variable of the new tracer is registered first, and then the one before it is dropped
  obtain ⟨hentries, hlabels⟩ := dropTracer_of_held (p := { p with registry := r' }) h.entries hlabels
    h.distinct.handles (h.distinct.numbers_concat rfl) handle
  obtain ⟨traced, hregistry⟩ := registry_dropTracer { p with registry := r' } handle
  have hheld : (t.make handle name).held = t.held.filter (·.handle ≠ handle) ++ [new] := rfl
  refine ⟨?_, hlabels, ?_, h.distinct.make handle name, ?_⟩
  · rw [holdTracer, hregistry, hregistered]
    exact congrArg (· + 1) hnumber
  · rw [holdTracer, hentries, hheld, List.map_append, List.reverse_append]
    rfl
  · exact (hslotted.register hr).steps
      (relates_dropTracer composes_steps { p with registry := r' } handle)

theorem assign (h : Tracks t p) (id : Nat) {content : Content} (hc : content.InRange) :
    Tracks t { p with registry := p.registry.assign id content } := by
  refine h.congr rfl rfl ?_ (h.slotted.step (.assign _ id hc))
  simp only [Registry.assign, List.map_map]
  refine List.map_congr_left fun v _ => ?_
  simp only [Function.comp_apply]
  split <;> rfl

theorem dropScope (h : Tracks t p) (handle : Text) : Tracks t (p.dropScope handle).1 := by
  rw [Debuggee.dropScope]
  split
  · exact h.congr rfl rfl rfl (h.slotted.step (.leave _))
  · exact h

/-- **What an action does to tracers**, if it has nothing rendered. -/
theorem act? (h : Tracks t p) {a : Action} (ha : a.InRange) (hplain : a.isRendering = false)
    {reply : Reply} (hact : p.act? a = some (q, reply)) : Tracks (t.after a) q := by
  have hslotted : q.registry.Slotted := h.slotted.steps (steps_of_act? ha hact)
  cases a with
  | allocate size =>
    rw [Debuggee.act?, Option.map_eq_some_iff] at hact
    obtain ⟨⟨r, address⟩, hr, heq⟩ := hact
    obtain ⟨rfl, -⟩ := Prod.mk.inj heq
    obtain ⟨-, -, a, rfl⟩ := Registry.allocate?_eq_some hr
    exact h.congr rfl rfl rfl hslotted
  | release address =>
    rw [Debuggee.act?] at hact
    obtain ⟨rfl, -⟩ := Prod.mk.inj (Option.some.inj hact)
    dsimp only at hslotted
    rw [Registry.release_eq] at hslotted ⊢
    exact h.congr rfl rfl rfl hslotted
  | rerender => cases hplain
  | trace handle name typeName value =>
    rw [Debuggee.act?, Option.map_eq_some_iff] at hact
    obtain ⟨⟨r, id⟩, hr, heq⟩ := hact
    obtain ⟨rfl, -⟩ := Prod.mk.inj heq
    exact (h.make rfl rfl h.slotted hr handle).congr rfl rfl rfl hslotted
  | tracePointer handle name pointee address =>
    rw [Debuggee.act?, Option.map_eq_some_iff] at hact
    obtain ⟨⟨r, id⟩, hr, heq⟩ := hact
    obtain ⟨rfl, -⟩ := Prod.mk.inj heq
    have hretype := h.slotted.retype address pointee
    exact (h.make (r := p.registry.retype address pointee) rfl rfl hretype hr handle).congr
      rfl rfl rfl hslotted
  | assign handle value =>
    rw [Debuggee.act?] at hact
    split at hact
    · obtain ⟨rfl, -⟩ := Prod.mk.inj (Option.some.inj hact)
      exact h
    · obtain ⟨rfl, -⟩ := Prod.mk.inj (Option.some.inj hact)
      have hc : (Content.value value).InRange := trivial
      exact h.assign _ hc
  | point handle address =>
    rw [Debuggee.act?] at hact
    split at hact
    · obtain ⟨rfl, -⟩ := Prod.mk.inj (Option.some.inj hact)
      exact h
    · obtain ⟨rfl, -⟩ := Prod.mk.inj (Option.some.inj hact)
      have hc : (Content.pointer address).InRange := ha
      exact h.assign _ hc
  | untrace handle =>
    rw [Debuggee.act?] at hact
    obtain ⟨rfl, -⟩ := Prod.mk.inj (Option.some.inj hact)
    exact h.drop handle
  | enter handle name =>
    rw [Debuggee.act?] at hact
    obtain ⟨rfl, -⟩ := Prod.mk.inj (Option.some.inj hact)
    have henter : Tracks t { p with registry := p.registry.enter name } :=
      h.congr rfl rfl rfl (h.slotted.step (.enter _ name))
    exact (henter.dropScope handle).congr rfl rfl rfl hslotted
  | leave handle =>
    rw [Debuggee.act?] at hact
    obtain ⟨rfl, -⟩ := Prod.mk.inj (Option.some.inj hact)
    exact h.dropScope handle
  | dump =>
    rw [Debuggee.act?] at hact
    obtain ⟨rfl, -⟩ := Prod.mk.inj (Option.some.inj hact)
    exact h
  | inspect =>
    rw [Debuggee.act?] at hact
    obtain ⟨rfl, -⟩ := Prod.mk.inj (Option.some.inj hact)
    exact h

end Tracks

/-! ## 4. What programs trace -/

/-- **An action that neither allocates nor has anything rendered breaks a program down only if it
registers a variable and all addresses were given.** -/
theorem isSome_act?_iff {t : Tracers} {p : Debuggee} (h : Tracks t p) {a : Action}
    (ha : a.movesHeap = false) (hplain : a.isRendering = false) :
    (p.act? a).isSome ↔ (t.after a).registered ≤ Registry.slotCount := by
  have hle : t.registered ≤ Registry.slotCount := h.registered ▸ h.slotted.nextVariable_le
  have hregister : ∀ {r : Registry} {name typeName : Text} {content : Content}, r.Slotted →
      r.nextVariable = p.registry.nextVariable →
        ((r.register? name typeName content).isSome ↔ t.registered + 1 ≤ Registry.slotCount) := by
    intro r name typeName content hr hnext
    rw [hr.isSome_register?_iff, hnext, h.registered, Nat.succ_le_iff]
  cases a with
  | allocate => cases ha
  | release => cases ha
  | rerender => cases hplain
  | trace handle name typeName value =>
    rw [Debuggee.act?, Option.isSome_map]
    exact hregister h.slotted rfl
  | tracePointer handle name pointee address =>
    rw [Debuggee.act?, Option.isSome_map]
    exact hregister (h.slotted.retype address pointee) rfl
  | assign =>
    rw [Debuggee.act?]
    split <;> exact iff_of_true rfl hle
  | point =>
    rw [Debuggee.act?]
    split <;> exact iff_of_true rfl hle
  | untrace => exact iff_of_true rfl hle
  | enter => exact iff_of_true rfl hle
  | leave => exact iff_of_true rfl hle
  | dump => exact iff_of_true rfl hle
  | inspect => exact iff_of_true rfl hle

/-- **What the actions of a program do to tracers.**  The induction is on the actions. -/
theorem Tracks.actAll? {t : Tracers} {p q : Debuggee} (h : Tracks t p) {as : List Action}
    (has : ∀ a ∈ as, a.InRange) (hplain : ∀ a ∈ as, a.isRendering = false) {replies : List Reply}
    (hact : p.actAll? as = some (q, replies)) : Tracks (as.foldl Tracers.after t) q := by
  induction as generalizing t p replies with
  | nil =>
    rw [Debuggee.actAll?] at hact
    obtain ⟨rfl, -⟩ := Prod.mk.inj (Option.some.inj hact)
    exact h
  | cons a as ih =>
    rw [List.forall_mem_cons] at has hplain
    obtain ⟨p', reply, replies', hfirst, hrest⟩ := actAll?_cons_eq_some hact
    exact ih (h.act? has.1 hplain.1 hfirst) has.2 hplain.2 hrest

/-- **A program that neither allocates nor has anything rendered runs on until it registers more
variables than there are addresses.** -/
theorem isSome_actAll?_iff {t : Tracers} {p : Debuggee} (h : Tracks t p) {as : List Action}
    (has : ∀ a ∈ as, a.InRange) (hkind : ∀ a ∈ as, a.movesHeap = false ∧ a.isRendering = false) :
    (p.actAll? as).isSome ↔ t.registered + as.countP Action.registers ≤ Registry.slotCount := by
  induction as generalizing t p with
  | nil => exact iff_of_true rfl (h.registered ▸ h.slotted.nextVariable_le)
  | cons a as ih =>
    rw [List.forall_mem_cons] at has hkind
    have hcount : t.registered + (a :: as).countP Action.registers =
        (t.after a).registered + as.countP Action.registers := by
      rw [Tracers.registered_after, List.countP_cons]
      omega
    have hroom := isSome_act?_iff h hkind.1.1 hkind.1.2
    rw [Debuggee.actAll?, hcount]
    cases hfirst : p.act? a with
    | none =>
      rw [hfirst] at hroom
      have hfull : ¬ (t.after a).registered ≤ Registry.slotCount := by simpa using hroom
      refine iff_of_false (by simp) fun hle => hfull ?_
      exact Nat.le_trans (Nat.le_add_right _ _) hle
    | some first =>
      rw [← ih (h.act? has.1 hkind.1.2 hfirst) has.2 hkind.2]
      cases hrest : first.1.actAll? as <;> simp [hrest]

/-- **Dropping a tracer takes its own variable away** and leaves the others in place, whatever their
names are. -/
theorem Tracks.dropTracer_of_mem {t : Tracers} {p : Debuggee} (h : Tracks t p) {u : Tracer}
    (hu : u ∈ t.held) :
    ∃ before v behind, p.registry.traced = before ++ v :: behind ∧ v.label = u.label ∧
      (p.dropTracer u.handle).1.registry.traced = before ++ behind := by
  have hlabel : u.label ∈ p.registry.traced.map Variable.label := by
    rw [h.labels]
    exact List.mem_map_of_mem hu
  obtain ⟨v, hv, hvu⟩ := List.mem_map.1 hlabel
  obtain ⟨before, behind, hsplit⟩ := List.append_of_mem hv
  refine ⟨before, v, behind, hsplit, hvu, ?_⟩
  have hids : (p.registry.traced.map Variable.id).Nodup := by
    have hnumbers : p.registry.traced.map Variable.id = t.held.map Tracer.number := by
      have hfirsts := congrArg (List.map Prod.fst) h.labels
      rwa [List.map_map, List.map_map] at hfirsts
    rw [hnumbers]
    exact h.distinct.numbers
  obtain ⟨hid, -⟩ := Prod.mk.inj hvu
  rw [hsplit, List.map_append, List.map_cons, List.nodup_middle, ← List.map_append,
    List.nodup_cons] at hids
  have hothers : ∀ w ∈ before ++ behind, decide (w.id ≠ u.number) = true := fun w hw =>
    decide_eq_true fun heq => hids.1 (List.mem_map.2 ⟨w, hw, heq.trans hid.symm⟩)
  rw [dropTracer, lookup_of_mem_held h.entries h.distinct.handles hu]
  calc p.registry.traced.filter (·.id ≠ u.number)
      = (before ++ behind).filter (·.id ≠ u.number) := by
        rw [hsplit, List.filter_append, List.filter_cons_of_neg (by simp [hid]),
          ← List.filter_append]
    _ = before ++ behind := List.filter_eq_self.2 hothers

/-- **Variables have addresses of their own as long as there is one for each that was ever
registered.**  A program that traces variables and pointers, drops tracers in any order, assigns,
and enters and leaves functions runs on if and only if it registers no more than 7680 variables,
counted with those whose tracers were dropped.  As long as it does, what is traced is what the
tracers that have not been dropped were made for, in the order in which they were made; dropping one
of them takes its own variable away and leaves the others in place, whatever their names are; and
the addresses of variables are not null, differ, and are below those of all allocations, also of all
that will ever be made. -/
theorem tracers_of_actions (limit : Nat) {as : List Action} (has : ∀ a ∈ as, a.InRange)
    (hkind : ∀ a ∈ as, a.movesHeap = false ∧ a.isRendering = false) :
    ((actAll? { registry := { depthLimit := limit } } as).isSome ↔
      as.countP Action.registers ≤ 7680) ∧
    ∀ p replies, actAll? { registry := { depthLimit := limit } } as = some (p, replies) →
      p.registry.traced.map Variable.label = (Tracers.ofActions as).held.map Tracer.label ∧
      (∀ u ∈ (Tracers.ofActions as).held, ∃ before v behind,
        p.registry.traced = before ++ v :: behind ∧ v.label = u.label ∧
          (p.dropTracer u.handle).1.registry.traced = before ++ behind) ∧
      (p.registry.traced.map Variable.address).Nodup ∧
      ∀ v ∈ p.registry.traced, v.address ≠ 0 ∧
        (∀ address ∈ p.registry.heapAddresses, v.address < address) ∧
        ∀ r r' size address, Relation.ReflTransGen Registry.Step p.registry r →
          r.allocate? size = some (r', address) → v.address < address := by
  have hstart := tracks_start limit
  constructor
  · rw [isSome_actAll?_iff hstart has hkind]
    exact Nat.zero_add _ ▸ Iff.rfl
  · intro p replies hact
    have htracks := hstart.actAll? has (fun a ha => (hkind a ha).2) hact
    have hreach := reachable_of_actAll? limit (Action.allInRange_iff.2 has) hact
    exact ⟨htracks.labels, fun u hu => htracks.dropTracer_of_mem hu, hreach.nodup_addresses,
      fun v hv => hreach.address_lt hv⟩

/-- Three variables of one name, of which the oldest is dropped first, and a program that takes one
address too many, although it holds one tracer at a time. -/
theorem tracers_of_actions_of_one_name :
    (∃ p replies, actAll? { registry := { depthLimit := 50 } }
        [.trace "a" "x" "int" "1", .enter "s" "f", .trace "b" "x" "int" "2",
          .tracePointer "c" "x" "int" 0x10000, .untrace "a", .leave "s"] = some (p, replies) ∧
      p.registry.traced.map Variable.label = [(1, "x".toList), (2, "x".toList)] ∧
      (∃ before v behind, p.registry.traced = before ++ v :: behind ∧ v.label = (1, "x".toList) ∧
        (p.dropTracer "b").1.registry.traced = before ++ behind) ∧
      (p.registry.traced.map Variable.address).Nodup ∧ ∀ v ∈ p.registry.traced, v.address ≠ 0) ∧
    actAll? { registry := { depthLimit := 50 } }
      (List.replicate 7681 (.trace "x" "x" "String" "")) = none := by
  constructor
  · have hbound : 0x10000 < Address.bound := by decide
    have hrange : ∀ a ∈ ([.trace "a" "x" "int" "1", .enter "s" "f", .trace "b" "x" "int" "2",
        .tracePointer "c" "x" "int" 0x10000, .untrace "a", .leave "s"] : List Action), a.InRange :=
      Action.allInRange_iff.1 ⟨trivial, trivial, trivial, hbound, trivial, trivial, trivial⟩
    obtain ⟨hruns, htraced⟩ :=
      tracers_of_actions 50 hrange (by simp [Action.movesHeap, Action.isRendering])
    obtain ⟨⟨p, replies⟩, hact⟩ := Option.isSome_iff_exists.1 (hruns.2 (by decide))
    obtain ⟨hlabels, hdrop, hnodup, haddress⟩ := htraced p replies hact
    have hdrop := hdrop { handle := "b", number := 1, name := "x" } (by decide)
    exact ⟨p, replies, hact, hlabels, hdrop, hnodup, fun v hv => (haddress v hv).1⟩
  · have hsame : ∀ a ∈ List.replicate 7681 (Action.trace "x" "x" "String" ""),
        a = .trace "x" "x" "String" "" := fun a ha => List.eq_of_mem_replicate ha
    have hrange : ∀ a ∈ List.replicate 7681 (Action.trace "x" "x" "String" ""), a.InRange := by
      intro a ha
      rw [hsame a ha]
      trivial
    have hkind : ∀ a ∈ List.replicate 7681 (Action.trace "x" "x" "String" ""),
        a.movesHeap = false ∧ a.isRendering = false := by
      intro a ha
      rw [hsame a ha]
      exact ⟨rfl, rfl⟩
    have hruns := (tracers_of_actions 50 hrange hkind).1
    rw [List.countP_replicate] at hruns
    exact Option.not_isSome_iff_eq_none.1 (hruns.not.2 (by decide))

end Debuggee

end Stepwise
