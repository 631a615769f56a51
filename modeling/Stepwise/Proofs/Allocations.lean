import Stepwise.Proofs.Tables

/-!
# Allocations and what is registered of them

Addresses are given in ascending order, each behind the room of the one before, and none is given
twice.  So all blocks that were ever allocated lie apart, whether or not they are registered and
whether or not they have been released (`Registry.Laid`).

What is registered follows from the journal of the heap alone: an entry is there if it was allocated
outside of renderers and has not been released outside of renderers since (`IsLive`).  The flag that
decides this in the registries is put back by each renderer to what it was before, so that it is set
exactly while a renderer runs, however deep they are nested (`Registry.Guarded`).

Main statements:

* `Registry.Course.guarded`: the flag is set exactly while a renderer runs;
* `Registry.Course.laid`: blocks lie apart;
* `Registry.Course.mem_heapEntries_iff`: what is registered is what is live;
* `Debuggee.heapEntries_of_act?`: no action but an allocation or a release changes what is
  registered;
* `Registry.Course.heap_of_journal`: the registered allocations against the journal.
-/

namespace Stepwise

/-! ## 1. The journal of the heap -/

/-- The block of an allocation: its address and the number of bytes asked for. -/
def HeapEvent.block? : HeapEvent → Option (Nat × Nat)
  | .allocated address size _ => some (address, size)
  | .released _ _ => none

/-- The blocks that were ever allocated, oldest first. -/
def blocks (log : List HeapEvent) : List (Nat × Nat) := log.filterMap HeapEvent.block?

/-- Whether a byte is one of a block; a block of no bytes has one of its own all the same. -/
def InBlock (block : Nat × Nat) (byte : Nat) : Prop :=
  block.1 ≤ byte ∧ byte < block.1 + max block.2 1

/-- The room that all blocks take together. -/
def takenRoom (log : List HeapEvent) : Nat :=
  ((blocks log).map fun block => Registry.roundedSize block.2).sum

/-- Whether a block was allocated outside of renderers and has not been released outside of
renderers since. -/
def IsLive (log : List HeapEvent) (address size : Nat) : Prop :=
  ∃ before behind, log = before ++ .allocated address size false :: behind ∧
    .released address false ∉ behind

@[simp] theorem blocks_allocated (log : List HeapEvent) (address size : Nat) (inside : Bool) :
    blocks (log ++ [.allocated address size inside]) = blocks log ++ [(address, size)] := by
  rw [blocks, List.filterMap_append]
  rfl

@[simp] theorem blocks_released (log : List HeapEvent) (address : Nat) (inside : Bool) :
    blocks (log ++ [.released address inside]) = blocks log := by
  rw [blocks, List.filterMap_append]
  exact List.append_nil _

theorem not_isLive_nil (address size : Nat) : ¬ IsLive [] address size := by
  rintro ⟨before, behind, hlog, -⟩
  exact absurd hlog.symm (by simp)

/-- **One more event** makes its own block live, or ends the life of what it releases. -/
theorem isLive_concat_iff {log : List HeapEvent} {event : HeapEvent} {address size : Nat} :
    IsLive (log ++ [event]) address size ↔
      event = .allocated address size false ∨
        IsLive log address size ∧ event ≠ .released address false := by
  constructor
  · rintro ⟨before, behind, hlog, hkept⟩
    -- the event is that of the allocation, or the last one behind it
    rcases List.eq_nil_or_concat' behind with rfl | ⟨behind, last, rfl⟩
    · exact .inl (List.cons.inj (List.append_inj' hlog rfl).2).1
    · have hsplit : log ++ [event] =
          (before ++ .allocated address size false :: behind) ++ [last] := by
        simpa using hlog
      obtain ⟨hfront, hlast⟩ := List.append_inj' hsplit rfl
      obtain rfl := (List.cons.inj hlast).1
      rw [List.mem_append, not_or] at hkept
      exact .inr ⟨⟨before, behind, hfront, hkept.1⟩, fun heq => hkept.2 (by simp [heq])⟩
  · rintro (rfl | ⟨⟨before, behind, rfl, hkept⟩, hevent⟩)
    · exact ⟨log, [], rfl, List.not_mem_nil⟩
    · refine ⟨before, behind ++ [event], by simp, fun hmem => ?_⟩
      rcases List.mem_append.1 hmem with hmem | hmem
      · exact hkept hmem
      · exact hevent (List.mem_singleton.1 hmem).symm

/-- An allocation makes its block live outside of renderers. -/
theorem isLive_allocated_iff {log : List HeapEvent} {n m address size : Nat} {inside : Bool} :
    IsLive (log ++ [.allocated n m inside]) address size ↔
      IsLive log address size ∨ inside = false ∧ (address, size) = (n, m) := by
  rw [isLive_concat_iff, or_comm]
  refine or_congr (and_iff_left nofun) ?_
  constructor
  · intro h
    obtain ⟨rfl, rfl, rfl⟩ := HeapEvent.allocated.inj h
    exact ⟨rfl, rfl⟩
  · rintro ⟨rfl, h⟩
    obtain ⟨rfl, rfl⟩ := Prod.mk.inj h
    rfl

/-- A release ends the life of what is at its address outside of renderers. -/
theorem isLive_released_iff {log : List HeapEvent} {n address size : Nat} {inside : Bool} :
    IsLive (log ++ [.released n inside]) address size ↔
      IsLive log address size ∧ (inside = false → address ≠ n) := by
  rw [isLive_concat_iff, or_iff_right nofun]
  refine and_congr_right fun _ => ?_
  constructor
  · rintro h rfl rfl
    exact h rfl
  · intro h heq
    obtain ⟨rfl, rfl⟩ := HeapEvent.released.inj heq
    exact h rfl rfl

namespace Registry

/-! ## 2. The flag of renderers -/

/-- Whether each renderer puts back what the renderers around it need. -/
def Saved : List (Nat × Bool) → Prop
  | [] => True
  | (_, hook) :: renderers => hook = !renderers.isEmpty ∧ Saved renderers

/-- The flag is set exactly while a renderer runs, and will be. -/
structure Guarded (j : Journal) (r : Registry) : Prop where
  flag : r.inHook = j.isInside
  saved : Saved j.renderers

/-- **The flag is set exactly while a renderer runs.** -/
theorem Course.guarded {j : Journal} {r : Registry} (h : Course j r) : Guarded j r := by
  induction h with
  | start limit => exact ⟨rfl, trivial⟩
  | onVariable _ hstep ih => exact ⟨hstep.others_eq.2.1.trans ih.flag, ih.saved⟩
  | enter _ name ih => exact ⟨ih.flag, ih.saved⟩
  | leave _ ih => exact ⟨ih.flag, ih.saved⟩
  | allocate _ hr ih =>
    obtain ⟨-, -, a, rfl⟩ := allocate?_eq_some hr
    exact ⟨ih.flag, ih.saved⟩
  | release _ address ih =>
    rw [release_eq]
    exact ⟨ih.flag, ih.saved⟩
  | beginRender _ _ typeName ih => exact ⟨rfl, ih.flag, ih.saved⟩
  | endRender _ hj value ih =>
    have hsaved := ih.saved
    rw [hj] at hsaved
    exact ⟨hsaved.1, hsaved.2⟩

/-! ## 3. Blocks -/

theorem max_le_roundedSize (size : Nat) : max size 1 ≤ roundedSize size := by
  unfold roundedSize
  omega

theorem dvd_roundedSize (size : Nat) : 16 ∣ roundedSize size := Nat.dvd_mul_left _ _

/-- Where blocks lie: each behind the room of those before it, the next one behind them all. -/
structure Laid (log : List HeapEvent) (r : Registry) : Prop where
  next : r.nextHeap = heapStart + takenRoom log
  aligned : 16 ∣ r.nextHeap
  starts : ∀ block ∈ blocks log, heapStart ≤ block.1 ∧ 16 ∣ block.1
  ends : ∀ block ∈ blocks log, block.1 + roundedSize block.2 ≤ r.nextHeap
  apart : (blocks log).Pairwise fun b c => b.1 + roundedSize b.2 ≤ c.1

namespace Laid

variable {log : List HeapEvent} {r r' : Registry}

theorem start (limit : Nat) : Laid [] { depthLimit := limit } where
  next := rfl
  aligned := (by decide : 16 ∣ 0x10000)
  starts := by simp [blocks]
  ends := by simp [blocks]
  apart := List.Pairwise.nil

theorem of_nextHeap_eq (h : Laid log r) (hnext : r'.nextHeap = r.nextHeap) : Laid log r' where
  next := hnext.trans h.next
  aligned := hnext ▸ h.aligned
  starts := h.starts
  ends := hnext ▸ h.ends
  apart := h.apart

theorem release (h : Laid log r) (address : Nat) (inside : Bool) :
    Laid (log ++ [.released address inside]) (r.release address) := by
  have h' : Laid log (r.release address) := h.of_nextHeap_eq (by rw [release_eq])
  have hblocks := blocks_released log address inside
  refine ⟨?_, h'.aligned, hblocks ▸ h'.starts, hblocks ▸ h'.ends, hblocks ▸ h'.apart⟩
  rw [takenRoom, hblocks]
  exact h'.next

/-- **A block is laid behind all others.** -/
theorem allocate (h : Laid log r) {size address : Nat} (inside : Bool)
    (hr : r.allocate? size = some (r', address)) :
    Laid (log ++ [.allocated address size inside]) r' := by
  obtain ⟨rfl, -, a, rfl⟩ := allocate?_eq_some hr
  have hblocks := blocks_allocated log r.nextHeap size inside
  refine ⟨?_, Nat.dvd_add h.aligned (dvd_roundedSize size), ?_, ?_, ?_⟩
  · rw [takenRoom, hblocks, List.map_append, List.sum_append, List.map_singleton,
      List.sum_singleton, ← Nat.add_assoc]
    exact congrArg (· + roundedSize size) h.next
  · rw [hblocks]
    intro block hblock
    rcases List.mem_append.1 hblock with hblock | hblock
    · exact h.starts block hblock
    · obtain rfl := List.mem_singleton.1 hblock
      exact ⟨h.next ▸ Nat.le_add_right _ _, h.aligned⟩
  · rw [hblocks]
    intro block hblock
    rcases List.mem_append.1 hblock with hblock | hblock
    · exact Nat.le_trans (h.ends block hblock) (Nat.le_add_right _ _)
    · obtain rfl := List.mem_singleton.1 hblock
      exact Nat.le_refl _
  · rw [hblocks, List.pairwise_append]
    refine ⟨h.apart, List.pairwise_singleton _ _, fun b hb c hc => ?_⟩
    obtain rfl := List.mem_singleton.1 hc
    exact h.ends b hb

theorem disjoint (h : Laid log r) :
    (blocks log).Pairwise fun b c => ∀ byte, InBlock b byte → ¬ InBlock c byte := by
  refine h.apart.imp fun {b c} hbc byte hb hc => ?_
  have hroom := max_le_roundedSize b.2
  have hbefore : byte < c.1 := Nat.lt_of_lt_of_le hb.2 (by omega)
  exact Nat.not_lt.2 hc.1 hbefore

/-- **There is room for an allocation** as long as all of them together take less than half of the
addresses. -/
theorem exists_allocate? (h : Laid log r) {size : Nat}
    (hroom : takenRoom log + roundedSize size < 2 ^ 63) :
    ∃ r', r.allocate? size = some (r', r.nextHeap) := by
  have hbound : r.nextHeap + roundedSize size < addressBound := by
    calc r.nextHeap + roundedSize size = heapStart + (takenRoom log + roundedSize size) := by
          rw [h.next, Nat.add_assoc]
      _ < heapStart + 2 ^ 63 := Nat.add_lt_add_left hroom _
      _ < addressBound := by decide
  rw [allocate?]
  exact ⟨_, if_neg (Nat.not_le.2 hbound)⟩

end Laid

/-- **Blocks lie apart.** -/
theorem Course.laid {j : Journal} {r : Registry} (h : Course j r) : Laid j.heap r := by
  induction h with
  | start limit => exact .start limit
  | onVariable _ hstep ih => exact ih.of_nextHeap_eq hstep.others_eq.2.2.1
  | enter _ name ih => exact ih.of_nextHeap_eq rfl
  | leave _ ih => exact ih.of_nextHeap_eq rfl
  | allocate _ hr ih => exact ih.allocate _ hr
  | release _ address ih => exact ih.release address _
  | beginRender _ _ typeName ih => exact ih.of_nextHeap_eq rfl
  | endRender _ _ value ih => exact ih.of_nextHeap_eq rfl

/-! ## 4. What is registered -/

/-- An allocation is registered outside of renderers, with its size. -/
theorem mem_heapEntries_allocate? {r r' : Registry} {size address : Nat}
    (h : r.allocate? size = some (r', address)) {entry : Nat × Nat} :
    entry ∈ r'.heapEntries ↔
      entry ∈ r.heapEntries ∨ r.inHook = false ∧ entry = (address, size) := by
  rw [allocate?] at h
  split at h
  · cases h
  · obtain ⟨rfl, rfl⟩ := Prod.mk.inj (Option.some.inj h)
    cases hook : r.inHook with
    | true => simp [heapEntries]
    | false => simp [heapEntries]

/-- A release takes an allocation away outside of renderers. -/
theorem mem_heapEntries_release {r : Registry} {address : Nat} {entry : Nat × Nat} :
    entry ∈ (r.release address).heapEntries ↔
      entry ∈ r.heapEntries ∧ (r.inHook = false → entry.1 ≠ address) := by
  rw [release]
  cases hook : r.inHook with
  | true => simp
  | false =>
    simp only [heapEntries, List.mem_map]
    constructor
    · rintro ⟨⟨n, a⟩, hmem, rfl⟩
      obtain ⟨hmem, hne⟩ := List.mem_filter.1 hmem
      exact ⟨⟨⟨n, a⟩, hmem, rfl⟩, fun _ => of_decide_eq_true hne⟩
    · rintro ⟨⟨⟨n, a⟩, hmem, rfl⟩, hne⟩
      exact ⟨⟨n, a⟩, List.mem_filter.2 ⟨hmem, decide_eq_true (hne trivial)⟩, rfl⟩

/-- **What is registered is what is live.** -/
theorem Course.mem_heapEntries_iff {j : Journal} {r : Registry} (h : Course j r)
    {address size : Nat} : (address, size) ∈ r.heapEntries ↔ IsLive j.heap address size := by
  induction h with
  | start limit => simp [heapEntries, not_isLive_nil]
  | onVariable _ hstep ih => rw [hstep.others_eq.2.2.2, ih]
  | enter _ name ih => exact ih
  | leave _ ih => exact ih
  | allocate h hr ih =>
    rw [mem_heapEntries_allocate? hr, isLive_allocated_iff, ih, h.guarded.flag]
  | release h address ih =>
    rw [mem_heapEntries_release, isLive_released_iff, ih, h.guarded.flag]
  | beginRender _ _ typeName ih => rw [heapEntries_beginRender, ih]
  | endRender _ _ value ih => rw [heapEntries_endRender, ih]

/-- While a renderer runs nothing is registered and nothing is released. -/
theorem composes_keepsEntries :
    Composes fun r r' => r.inHook = true → r'.inHook = true ∧ r'.heapEntries = r.heapEntries where
  refl r hook := ⟨hook, rfl⟩
  trans h h' hook := ⟨(h' (h hook).1).1, (h' (h hook).1).2.trans (h hook).2⟩
  operation := by
    intro r r' h hook
    cases h with
    | allocate h =>
      obtain ⟨-, -, a, rfl⟩ := allocate?_eq_some h
      exact ⟨hook, by simp [heapEntries, hook]⟩
    | release address =>
      rw [release, if_pos hook]
      exact ⟨hook, rfl⟩
    | trace h =>
      obtain ⟨-, hflag, -, hentries⟩ := (VariableStep.trace h).others_eq
      exact ⟨hflag.trans hook, hentries⟩
    | tracePointer ha h =>
      obtain ⟨-, hflag, -, hentries⟩ := (VariableStep.tracePointer ha h).others_eq
      exact ⟨hflag.trans hook, hentries⟩
    | assign id _ => exact ⟨hook, rfl⟩
    | untrace id => exact ⟨hook, rfl⟩
    | enter name => exact ⟨hook, rfl⟩
    | leave => exact ⟨hook, rfl⟩
  render := by
    intro r s address typeName value _ hinner hook
    obtain ⟨-, hentries⟩ := hinner rfl
    exact ⟨hook, by simp [hentries]⟩

end Registry

/-! ## 5. Actions -/

/-- Whether an action allocates or releases itself. -/
def Action.movesHeap : Action → Bool
  | .allocate _ | .release _ => true
  | _ => false

namespace Debuggee

@[simp] theorem heapEntries_dropTracer (p : Debuggee) (handle : Text) :
    (p.dropTracer handle).1.registry.heapEntries = p.registry.heapEntries := by
  unfold dropTracer
  split <;> rfl

@[simp] theorem heapEntries_dropScope (p : Debuggee) (handle : Text) :
    (p.dropScope handle).1.registry.heapEntries = p.registry.heapEntries := by
  unfold dropScope
  split <;> rfl

/-- **No action but an allocation or a release changes what is registered**, whatever a renderer
does in it. -/
theorem heapEntries_of_act? {p p' : Debuggee} {a : Action} {reply : Reply} (ha : a.InRange)
    (hmoves : a.movesHeap = false) (h : p.act? a = some (p', reply)) :
    p'.registry.heapEntries = p.registry.heapEntries := by
  cases a with
  | allocate => cases hmoves
  | release => cases hmoves
  | rerender address typeName value actions =>
    rw [act?] at h
    by_cases hcan : p.registry.canRender address = true
    · rw [if_pos hcan] at h
      cases hq : actAll? { p with registry := p.registry.beginRender address typeName } actions with
      | none => simp [hq] at h
      | some result =>
        rw [hq] at h
        obtain ⟨rfl, -⟩ := Prod.mk.inj (Option.some.inj h)
        have hkept := (relates_of_actAll? Registry.composes_keepsEntries ha hq rfl).2
        exact (Registry.heapEntries_endRender ..).trans
          (hkept.trans (Registry.heapEntries_beginRender ..))
    · rw [if_neg hcan] at h
      obtain ⟨rfl, -⟩ := Prod.mk.inj (Option.some.inj h)
      rfl
  | trace handle name typeName value =>
    rw [act?, Option.map_eq_some_iff] at h
    obtain ⟨⟨r, id⟩, hr, heq⟩ := h
    obtain ⟨rfl, -⟩ := Prod.mk.inj heq
    exact (heapEntries_dropTracer { p with registry := r } handle).trans
      (Registry.VariableStep.trace hr).others_eq.2.2.2
  | tracePointer handle name pointee address =>
    rw [act?, Option.map_eq_some_iff] at h
    obtain ⟨⟨r, id⟩, hr, heq⟩ := h
    obtain ⟨rfl, -⟩ := Prod.mk.inj heq
    exact (heapEntries_dropTracer { p with registry := r } handle).trans
      (Registry.VariableStep.tracePointer ha hr).others_eq.2.2.2
  | assign handle value =>
    rw [act?] at h
    split at h
    · obtain ⟨rfl, -⟩ := Prod.mk.inj (Option.some.inj h)
      rfl
    · obtain ⟨rfl, -⟩ := Prod.mk.inj (Option.some.inj h)
      rfl
  | point handle address =>
    rw [act?] at h
    split at h
    · obtain ⟨rfl, -⟩ := Prod.mk.inj (Option.some.inj h)
      rfl
    · obtain ⟨rfl, -⟩ := Prod.mk.inj (Option.some.inj h)
      rfl
  | untrace handle =>
    rw [act?] at h
    obtain ⟨rfl, -⟩ := Prod.mk.inj (Option.some.inj h)
    exact heapEntries_dropTracer p handle
  | enter handle name =>
    rw [act?] at h
    obtain ⟨rfl, -⟩ := Prod.mk.inj (Option.some.inj h)
    exact heapEntries_dropScope { p with registry := p.registry.enter name } handle
  | leave handle =>
    rw [act?] at h
    obtain ⟨rfl, -⟩ := Prod.mk.inj (Option.some.inj h)
    exact heapEntries_dropScope p handle
  | dump =>
    rw [act?] at h
    obtain ⟨rfl, -⟩ := Prod.mk.inj (Option.some.inj h)
    rfl
  | inspect =>
    rw [act?] at h
    obtain ⟨rfl, -⟩ := Prod.mk.inj (Option.some.inj h)
    rfl

end Debuggee

namespace Registry

/-! ## 6. The registry of allocations -/

/-- **The registry of allocations tells the truth.**  At every moment of a program, the next
allocation gets an address of its own as long as all of them together take less than half of the
addresses, and the blocks of all allocations that were ever made have aligned addresses and lie
apart.  Registered is exactly what was allocated outside of renderers and has not been released
outside of renderers since, under its address once and with its size.  Whatever else a program does,
with all that its renderers do meanwhile, leaves the entries as they are. -/
theorem Course.heap_of_journal {j : Journal} {r : Registry} (h : Course j r) :
    (∀ size, takenRoom j.heap + roundedSize size < 2 ^ 63 →
      ∃ r' address, r.allocate? size = some (r', address) ∧ address ≠ 0 ∧ 16 ∣ address) ∧
      (∀ block ∈ blocks j.heap, block.1 ≠ 0 ∧ 16 ∣ block.1) ∧
      (blocks j.heap).Pairwise (fun b c => ∀ byte, InBlock b byte → ¬ InBlock c byte) ∧
      (∀ address size, (address, size) ∈ r.heapEntries ↔ IsLive j.heap address size) ∧
      r.heapAddresses.Nodup ∧
      ∀ (p p' : Debuggee) (a : Action) (reply : Reply), p.registry = r → a.InRange →
        a.movesHeap = false → p.act? a = some (p', reply) →
          p'.registry.heapEntries = r.heapEntries := by
  have hlaid := h.laid
  have hpos : ∀ {address}, heapStart ≤ address → address ≠ 0 := by
    intro address hle hzero
    exact absurd (hzero ▸ hle) (by decide)
  refine ⟨fun size hroom => ?_, fun block hblock => ?_, hlaid.disjoint,
    fun address size => h.mem_heapEntries_iff, ?_, ?_⟩
  · obtain ⟨r', hr⟩ := hlaid.exists_allocate? hroom
    exact ⟨r', r.nextHeap, hr, hpos (hlaid.next ▸ Nat.le_add_right _ _), hlaid.aligned⟩
  · obtain ⟨hle, haligned⟩ := hlaid.starts block hblock
    exact ⟨hpos hle, haligned⟩
  · exact h.reachable.sound.addresses.imp fun hlt => Nat.ne_of_lt hlt
  · rintro p p' a reply rfl ha hmoves hact
    exact Debuggee.heapEntries_of_act? ha hmoves hact

/-- A renderer that allocates, and releases an allocation that is not its own. -/
theorem Course.heap_of_journal_with_renderer :
    ∃ (j : Journal) (r : Registry), Course j r ∧
      j.heap = [.allocated 0x10000 0 false, .allocated 0x10010 16 false, .allocated 0x10020 17 true,
        .released 0x10010 true, .released 0x10000 false] ∧
      takenRoom j.heap + roundedSize 1 < 2 ^ 63 ∧
      (∃ r' address, r.allocate? 1 = some (r', address) ∧ address ≠ 0 ∧ 16 ∣ address) ∧
      (∀ block ∈ blocks j.heap, block.1 ≠ 0 ∧ 16 ∣ block.1) ∧
      (blocks j.heap).Pairwise (fun b c => ∀ byte, InBlock b byte → ¬ InBlock c byte) ∧
      IsLive j.heap 0x10010 16 ∧ ¬ IsLive j.heap 0x10020 17 ∧ ¬ IsLive j.heap 0x10000 0 := by
  have h := (Course.start 50).allocate (rfl : allocate? _ 0 = some (_, _))
  have h := h.allocate (rfl : allocate? _ 16 = some (_, _))
  have h := h.beginRender (rfl : canRender _ 0x10000 = true) "Node"
  have h := h.allocate (rfl : allocate? _ 17 = some (_, _))
  have h := ((h.release 0x10010).endRender rfl "x").release 0x10000
  obtain ⟨hroom, hblocks, hdisjoint, hlive, -⟩ := h.heap_of_journal
  refine ⟨_, _, h, rfl, by decide, hroom 1 (by decide), hblocks, hdisjoint, ?_, ?_, ?_⟩
  · exact (hlive 0x10010 16).1 (by decide)
  · exact (hlive 0x10020 17).not.1 (by decide)
  · exact (hlive 0x10000 0).not.1 (by decide)

end Registry

end Stepwise
