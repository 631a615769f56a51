import Stepwise.Proofs.GraphOfDump
import Stepwise.Proofs.Grouping
import Stepwise.Proofs.Rendering

/-!
# Aggregates in the graph of a dump

What the printer of an aggregate writes for an allocation passes through a dump, where its backslashes
are escaped once more, and comes out of the graph as the table that it was written for.

The object of an allocation is found by its address.  Nothing else in a dump stands at it: variables
have addresses below those of all allocations (`Registry.Apart`), so not even a variable of a function
named `heap` is taken for the object.  And a renderer, whatever it does to the registries while it
runs, neither adds nor releases an allocation (`Registry.composes_keepsHeap`), so what it wrote is
there when it is done.

Main statements:

* `Registry.Reachable.apart`: variables and allocations have addresses of their own;
* `Registry.heapObject?_of_mem_heap`: every allocation is an object of the graph of a dump;
* `Debuggee.table_of_rerender`: what a printer writes is a table in the graph.
-/

namespace Stepwise

namespace Registry

variable {r r' : Registry}

/-! ## 1. Addresses of variables and of allocations -/

/-- The address of the first allocation. -/
def heapStart : Nat := 0x10000

/-- Variables have addresses below those of allocations, but none is null. -/
structure Apart (r : Registry) : Prop where
  slots : r.nextSlot < heapStart
  traced : ∀ v ∈ r.traced, 0 < v.address ∧ v.address < heapStart
  room : heapStart ≤ r.nextHeap
  allocations : ∀ address ∈ r.heapAddresses, heapStart ≤ address

theorem apart_start (limit : Nat) : Apart { depthLimit := limit } where
  slots := (by decide : 0xf000 < heapStart)
  traced := by simp
  room := Nat.le_refl _
  allocations := by simp [heapAddresses]

namespace Apart

/-- Fewer variables and allocations are apart if all are. -/
theorem of_subset (h : Apart r) (hslot : r'.nextSlot = r.nextSlot)
    (htraced : ∀ v ∈ r'.traced, ∃ w ∈ r.traced, v.address = w.address)
    (hnext : r'.nextHeap = r.nextHeap) (hheap : r'.heapAddresses ⊆ r.heapAddresses) : Apart r' where
  slots := hslot ▸ h.slots
  traced := by
    intro v hv
    obtain ⟨w, hw, haddress⟩ := htraced v hv
    exact haddress ▸ h.traced w hw
  room := hnext ▸ h.room
  allocations := fun address haddress => h.allocations address (hheap haddress)

/-- A variable takes the next address below the others. -/
theorem register (h : Apart r) {name typeName : Text} {content : Content} {id : Nat}
    (hr : r.register? name typeName content = some (r', id)) : Apart r' := by
  obtain ⟨-, hroom, rfl⟩ := register?_eq_some hr
  have hpos : 0 < slotSize := by decide
  refine ⟨Nat.lt_of_le_of_lt (Nat.sub_le _ _) h.slots, ?_, h.room, h.allocations⟩
  intro w hw
  rcases List.mem_append.1 hw with hw | hw
  · exact h.traced w hw
  · obtain rfl := List.mem_singleton.1 hw
    exact ⟨Nat.lt_of_lt_of_le hpos hroom, h.slots⟩

/-- **One operation keeps addresses apart.** -/
theorem step (h : Apart r) (hstep : Step r r') : Apart r' := by
  have hself : ∀ v ∈ r.traced, ∃ w ∈ r.traced, v.address = w.address := fun v hv => ⟨v, hv, rfl⟩
  cases hstep with
  | allocate hr =>
    obtain ⟨-, -, a, rfl⟩ := allocate?_eq_some hr
    refine ⟨h.slots, h.traced, Nat.le_trans h.room (Nat.le_add_right _ _), ?_⟩
    intro address haddress
    by_cases hook : r.inHook = true
    · exact h.allocations address (by simpa [heapAddresses, hook] using haddress)
    · have hmem : address ∈ r.heapAddresses ∨ address = r.nextHeap := by
        simpa [heapAddresses, hook] using haddress
      rcases hmem with hmem | rfl
      · exact h.allocations address hmem
      · exact h.room
  | release address =>
    have hsub := heapAddresses_release r address
    rw [release_eq] at hsub ⊢
    exact h.of_subset rfl hself rfl hsub.subset
  | beginRender _ typeName =>
    exact h.of_subset rfl hself rfl (by simp)
  | endRender address value hook =>
    exact h.of_subset rfl hself rfl (by simp)
  | trace hr => exact h.register hr
  | @tracePointer _ _ pointee address _ _ hr =>
    have hretype : Apart (r.retype address pointee) :=
      h.of_subset rfl hself rfl (by simp)
    exact hretype.register hr
  | assign id _ =>
    refine h.of_subset rfl (fun v hv => ?_) rfl (List.Subset.refl _)
    obtain ⟨w, hw, rfl⟩ := List.mem_map.1 hv
    refine ⟨w, hw, ?_⟩
    split <;> rfl
  | untrace id =>
    exact h.of_subset rfl (fun v hv => ⟨v, (traced_untrace r id).subset hv, rfl⟩) rfl
      (List.Subset.refl _)
  | enter name => exact h.of_subset rfl hself rfl (List.Subset.refl _)
  | leave => exact h.of_subset rfl hself rfl (List.Subset.refl _)

end Apart

/-- **Variables and allocations have addresses of their own** in all registries that a program
reaches. -/
theorem Reachable.apart (h : Reachable r) : Apart r := by
  obtain ⟨limit, hsteps⟩ := h
  induction hsteps with
  | refl => exact apart_start limit
  | tail _ hstep ih => exact ih.step hstep

end Registry

/-! ## 2. The object of an allocation -/

theorem Record.resolves_iff_of_ownAddress {x : Record} {own : Nat} (h0 : 0 < own)
    (hb : own < Address.bound) (hx : x.ownAddress = Address.text own) {n : Nat} :
    x.Resolves n ↔ own = n := by
  rw [← address?_eq_some_iff, address?, hx, Address.read?_text h0 hb]
  exact Option.some_inj

/-- The object at an address is told by the record that describes it, if there is only one. -/
theorem ObjectGraph.heapObject?_of_describes {records : List Record} {x : Record} {n : Nat}
    (hx : x ∈ records) (hn : x.Describes n) (honly : ∀ y ∈ records, y.Describes n → y = x) :
    (ofRecords records).heapObject? (Address.text n) = some (objectAt n x) := by
  obtain ⟨o, ho, haddress⟩ := exists_object_of_describes hx hn
  have hsome : ((ofRecords records).heapObject? (Address.text n)).isSome :=
    List.find?_isSome.2 ⟨o, ho, beq_iff_eq.2 haddress⟩
  obtain ⟨found, hfound⟩ := Option.isSome_iff_exists.1 hsome
  have hmem := List.mem_of_find?_eq_some hfound
  have hspelled := List.find?_some hfound
  rw [heap_eq] at hmem
  obtain ⟨⟨m, y⟩, hentry, rfl⟩ := List.mem_map.1 hmem
  obtain ⟨hy, hm⟩ := mem_described_iff.1 ((firstsBy_sublist _ _).subset hentry)
  obtain rfl : m = n := (Address.text_inj hm.2.bounds hn.2.bounds).1 (beq_iff_eq.1 hspelled)
  rw [hfound, honly y hy hm]

namespace Registry

/-- The records that the lines of a dump are read as. -/
def readRecords (r : Registry) : List Record := r.recordLines.map Record.ofLineLossy

/-- **The line of an allocation is the only one that is read as a record at its address.**  A variable
has another address, whatever its frame is called. -/
theorem eq_of_describes {r : Registry} (hr : r.Reachable) (hf : r.Fits) {address : Nat}
    {a : Allocation} (h : (address, a) ∈ r.heap) {x : Record} (hx : x ∈ r.readRecords)
    (hdescribes : x.Describes address) : x = allocationRecord address a := by
  have hsound := hr.sound
  have hmem : ∀ {entry : Nat × Allocation}, entry ∈ r.heap → entry.1 ∈ r.heapAddresses :=
    fun hentry => List.mem_map_of_mem hentry
  obtain ⟨line, hline, rfl⟩ := List.mem_map.1 hx
  rcases List.mem_append.1 hline with hline | hline
  · obtain ⟨v, hv, rfl⟩ := List.mem_map.1 hline
    have hv := List.mem_reverse.1 hv
    obtain ⟨hname, htype, hframe⟩ := hf.traced v hv
    obtain ⟨h0, hlt⟩ := hr.apart.traced v hv
    by_cases hne : v.name = []
    · have hnone : (Record.ofLineLossy (Record.shownLine [] v.typeName v.address v.frame
          (r.view v.content))).isHeap = false :=
        Record.isHeap_shownLine_of_noName htype.1 hframe.1 v.address
      rw [variableLine_eq, hne, Record.Describes, hnone] at hdescribes
      exact absurd hdescribes.1 Bool.false_ne_true
    · rw [ofLineLossy_variableLine (hsound.contents v hv) hne hname htype hframe] at hdescribes
      have hbound : heapStart < Address.bound := by decide
      have hsame : v.address = address := (Record.resolves_iff_of_ownAddress h0
        (Nat.lt_trans hlt hbound) rfl).1 hdescribes.2
      exact absurd (hr.apart.allocations address (hmem h)) (Nat.not_le.2 (hsame ▸ hlt))
  · obtain ⟨⟨n, b⟩, hentry, rfl⟩ := List.mem_map.1 hline
    dsimp only at hdescribes ⊢
    rw [ofLineLossy_allocationLine n (hf.heap _ hentry)] at hdescribes ⊢
    obtain rfl : n = address := (Record.resolves_iff_of_ownAddress
      (hsound.bounds _ (hmem hentry)).1 (hsound.address_lt (hmem hentry)) rfl).1 hdescribes.2
    have hnodup : (r.heap.map Prod.fst).Nodup := hsound.addresses.imp fun hlt => Nat.ne_of_lt hlt
    obtain ⟨-, rfl⟩ := Prod.mk.inj (List.inj_on_of_nodup_map hnodup hentry h rfl)
    rfl

/-- **Every allocation is an object of the graph of a dump**, with what it was rendered as. -/
theorem heapObject?_of_mem_heap {r : Registry} (hr : r.Reachable) (hf : r.Fits) {address : Nat}
    {a : Allocation} (h : (address, a) ∈ r.heap) :
    (ObjectGraph.ofRecords r.readRecords).heapObject? (Address.text address) =
      some (heapObject address a) := by
  have hmem : address ∈ r.heapAddresses := List.mem_map_of_mem h
  have hrecord : allocationRecord address a ∈ r.readRecords := by
    rw [← ofLineLossy_allocationLine address (hf.heap _ h)]
    exact List.mem_map_of_mem (List.mem_append_right _ (List.mem_map.2 ⟨_, h, rfl⟩))
  have hresolves : (allocationRecord address a).Resolves address :=
    (Record.resolves_iff_of_ownAddress (hr.sound.bounds _ hmem).1 (hr.sound.address_lt hmem)
      rfl).2 rfl
  exact ObjectGraph.heapObject?_of_describes hrecord
    ⟨isHeap_allocationRecord address a, hresolves⟩ fun x hx hx' => eq_of_describes hr hf h hx hx'

end Registry

/-! ## 3. Renderers -/

/-- The same allocations are registered, and the same renderer goes on. -/
structure Registry.KeepsHeap (r r' : Registry) : Prop where
  hook : r'.inHook = r.inHook
  addresses : r'.heapAddresses = r.heapAddresses

namespace Registry.KeepsHeap

variable {r r' r'' : Registry}

theorem refl (r : Registry) : KeepsHeap r r := ⟨rfl, rfl⟩

theorem trans (h : KeepsHeap r r') (h' : KeepsHeap r' r'') : KeepsHeap r r'' :=
  ⟨h'.hook.trans h.hook, h'.addresses.trans h.addresses⟩

end Registry.KeepsHeap

/-- **While a renderer runs no allocation is registered and none is released.**  A renderer inside of
it is done before it goes on, and leaves it running. -/
theorem Registry.composes_keepsHeap :
    Composes fun r r' => r.inHook = true → KeepsHeap r r' where
  refl r _ := .refl r
  trans h h' hook := (h hook).trans (h' ((h hook).hook.trans hook))
  operation := by
    intro r r' h hook
    cases h with
    | allocate h =>
      obtain ⟨-, -, a, rfl⟩ := allocate?_eq_some h
      exact ⟨rfl, by simp [heapAddresses, hook]⟩
    | release address =>
      rw [release, if_pos hook]
      exact .refl r
    | trace h =>
      obtain ⟨-, -, rfl⟩ := register?_eq_some h
      exact ⟨rfl, rfl⟩
    | @tracePointer _ _ pointee address _ _ h =>
      obtain ⟨-, -, rfl⟩ := register?_eq_some h
      exact ⟨rfl, heapAddresses_retype r address pointee⟩
    | assign id _ => exact ⟨rfl, rfl⟩
    | untrace id => exact ⟨rfl, rfl⟩
    | enter name => exact ⟨rfl, rfl⟩
    | leave => exact ⟨rfl, rfl⟩
  render := by
    intro r s address typeName value _ hinner _
    have hkept := (hinner rfl).addresses
    rw [heapAddresses_beginRender] at hkept
    exact ⟨rfl, (heapAddresses_endRender s address value r.inHook).trans hkept⟩

/-! ## 4. What a renderer writes -/

/-- Whether the reply is that of a renderer that ran. -/
def Reply.isRendered : Reply → Bool
  | .rendered replies => replies.isSome
  | _ => false

theorem Reply.isRendered_iff {reply : Reply} :
    reply.isRendered ↔ ∃ replies, reply = .rendered (some replies) := by
  cases reply with
  | rendered replies => cases replies <;> simp [isRendered]
  | nothing => simp [isRendered]
  | address => simp [isRendered]
  | flag => simp [isRendered]
  | text => simp [isRendered]
  | contents => simp [isRendered]

namespace Registry

variable {r : Registry} {address : Nat}

theorem exists_of_valueAt_ne_nil (h : r.valueAt address ≠ []) :
    ∃ a : Allocation, (address, a) ∈ r.heap ∧ a.value = r.valueAt address := by
  rw [valueAt] at h ⊢
  cases hfound : r.heap.lookup address with
  | none => simp [hfound] at h
  | some a =>
    obtain ⟨before, behind, hheap, -⟩ := List.lookup_eq_some_iff.1 hfound
    exact ⟨a, by simp [hheap], rfl⟩

/-- A renderer that is done leaves its value. -/
theorem valueAt_endRender (h : address ∈ r.heapAddresses) (value : Text) (hook : Bool) :
    (r.endRender address value hook).valueAt address = value := by
  rw [valueAt]
  cases hfound : (r.endRender address value hook).heap.lookup address with
  | none =>
    rw [← heapAddresses_endRender r address value hook] at h
    obtain ⟨entry, hentry, haddress⟩ := List.mem_map.1 h
    exact absurd haddress.symm (bne_iff_ne.1 (List.lookup_eq_none_iff.1 hfound entry hentry))
  | some a =>
    obtain ⟨before, behind, hheap, -⟩ := List.lookup_eq_some_iff.1 hfound
    have hmem : (address, a) ∈ (r.endRender address value hook).heap := by simp [hheap]
    obtain ⟨⟨n, b⟩, -, hentry⟩ := List.mem_map.1 hmem
    obtain ⟨rfl, rfl⟩ := Prod.mk.inj hentry
    rw [if_pos rfl]
    rfl

end Registry

namespace Debuggee

/-- **An allocation shows what its renderer wrote**, whatever the renderer did before. -/
theorem valueAt_of_rerender {p p' : Debuggee} {address : Nat} {typeName value : Text}
    {actions : List Action} (hactions : Action.AllInRange actions) {replies : List Reply}
    (h : p.act? (.rerender address typeName value actions) = some (p', .rendered (some replies))) :
    p'.registry.valueAt address = value := by
  rw [act?] at h
  by_cases hcan : p.registry.canRender address = true
  · rw [if_pos hcan] at h
    cases hq : actAll? { p with registry := p.registry.beginRender address typeName } actions with
    | none => simp [hq] at h
    | some result =>
      rw [hq] at h
      obtain ⟨rfl, -⟩ := Prod.mk.inj (Option.some.inj h)
      have hkept := (relates_of_actAll? Registry.composes_keepsHeap hactions hq rfl).addresses
      rw [Registry.heapAddresses_beginRender] at hkept
      refine Registry.valueAt_endRender ?_ _ _
      rw [hkept]
      simp only [Registry.canRender, Bool.and_eq_true, List.any_eq_true, decide_eq_true_eq] at hcan
      obtain ⟨-, entry, hentry, rfl⟩ := hcan
      exact List.mem_map_of_mem hentry
  · rw [if_neg hcan] at h
    simp at h

end Debuggee

namespace Registry

/-- **What a printer wrote for an allocation is a table in the graph of a dump**, in whatever chunks
it arrives: names, types and frames have to fit on the lines of the dump, and the labels of the stack
must not spell another variable block. -/
theorem table_of_valueAt {r : Registry} (hr : r.Reachable) {address : Nat}
    {fields : List (Text × Text)} (hfields : Rendering.WellFormed fields)
    (hvalue : r.valueAt address = Rendering.text fields) (hf : r.Fits)
    (hstack : r.stackRecords = none) {chunks : List Text} (h : chunks.flatten = r.dump) :
    ∃ records o, (Demux.feedAll {} chunks).2.records = some records ∧
      (ObjectGraph.ofRecords records).heapObject? (Address.text address) = some o ∧
      o.value = .table fields := by
  have hne : r.valueAt address ≠ [] := by
    rw [hvalue]
    exact List.cons_ne_nil _ _
  obtain ⟨a, hmem, ha⟩ := exists_of_valueAt_ne_nil hne
  have hrecords := records_feedAll_lines hf h
  rw [hstack, Option.orElse_eq_orElse, Option.orElse_eq_or, Option.none_or] at hrecords
  refine ⟨_, _, hrecords, heapObject?_of_mem_heap hr hf hmem, ?_⟩
  have hplain : (Rendering.text fields).withoutReturns = Rendering.text fields := by
    refine List.filter_eq_self.2 fun c hc => decide_eq_true ?_
    rintro rfl
    exact Rendering.return_not_mem_text hfields hc
  rw [heapObject, ha, hvalue, hplain]
  exact HeapValue.ofText_rendering hfields

end Registry

/-- **Renderings of aggregates survive the way from the program to the graph.**  When the printer of
an aggregate has been run for an allocation, every dump from then on that shows what it wrote yields
a graph in which the object of the allocation is the table of its names and values. -/
theorem Debuggee.table_of_rerender {p p' : Debuggee} (hp : p.registry.Reachable) {address : Nat}
    {typeName : Text} {fields : List (Text × Text)} (hfields : Rendering.WellFormed fields)
    {actions : List Action} (hactions : Action.AllInRange actions) {replies : List Reply}
    (h : p.act? (.rerender address typeName (Rendering.text fields) actions) =
      some (p', .rendered (some replies))) :
    p'.registry.valueAt address = Rendering.text fields ∧
      ∀ r, Relation.ReflTransGen Registry.Step p'.registry r →
        r.valueAt address = Rendering.text fields → r.Fits → r.stackRecords = none →
        ∀ chunks : List Text, chunks.flatten = r.dump →
          ∃ records o, (Demux.feedAll {} chunks).2.records = some records ∧
            (ObjectGraph.ofRecords records).heapObject? (Address.text address) = some o ∧
            o.value = .table fields := by
  refine ⟨valueAt_of_rerender hactions h, fun r hsteps hvalue hf hstack chunks hchunks => ?_⟩
  obtain ⟨limit, hstart⟩ := hp
  have hrange : Action.InRange (.rerender address typeName (Rendering.text fields) actions) :=
    hactions
  have hreach : r.Reachable := ⟨limit, hstart.trans ((steps_of_act? hrange h).trans hsteps)⟩
  exact Registry.table_of_valueAt hreach hfields hvalue hf hstack hchunks

/-- A list of two nodes whose printer renders the second one anew, in a function named `heap`, and
with a value that looks like a piece of the object around it. -/
theorem Debuggee.table_of_rerender_list :
    let fields : List (Text × Text) :=
      [("text", "a\"\x7d, \\u007c|\\n\n[DEBUG:VARS:END]"), ("next", "0x10010")]
    let start : List Action :=
      [.enter "f" "heap", .allocate 16, .allocate 16, .trace "n" "n" "int" "1"]
    let inner : List Action := [.allocate 8, .rerender 0x10010 "Node" "last" [.release 0x10000]]
    let r : Registry :=
      { traced :=
          [{ id := 0, name := "n", typeName := "int", frame := "heap", address := 0xf000
             content := .value "1" }]
        stack := ["heap".toList]
        heap :=
          [(0x10000, { size := 16, typeName := "Node", value := Rendering.text fields }),
           (0x10010, { size := 16, typeName := "Node", value := "last" })]
        nextVariable := 1
        nextHeap := 0x10030
        nextSlot := 0xeff8 }
    Rendering.WellFormed fields ∧ r.Fits ∧ r.stackRecords = none ∧
      (∃ p p' : Debuggee, ∃ replies replies', actAll? {} start = some (p, replies) ∧
        p.act? (.rerender 0x10000 "Node" (Rendering.text fields) inner) =
          some (p', .rendered (some replies')) ∧ p'.registry = r) ∧
      ∃ records o, (Demux.feedAll {} (r.dump.map fun c => [c])).2.records = some records ∧
        (ObjectGraph.ofRecords records).heapObject? "0x10000" = some o ∧
        o.value = .table fields := by
  intro fields start inner r
  have hfields : Rendering.WellFormed fields := ⟨by decide, by decide, by decide, by decide⟩
  have hfits : r.Fits := ⟨by decide, by decide⟩
  have hstack : r.stackRecords = none := by decide +kernel
  have hsteps : ((actAll? {} start).bind fun begun =>
      begun.1.act? (.rerender 0x10000 "Node" (Rendering.text fields) inner)).map (fun done =>
        (done.1.registry, done.2.isRendered)) = some (r, true) := by
    decide +kernel
  have hrun : ∃ p p' : Debuggee, ∃ replies replies', actAll? {} start = some (p, replies) ∧
      p.act? (.rerender 0x10000 "Node" (Rendering.text fields) inner) =
        some (p', .rendered (some replies')) ∧ p'.registry = r := by
    obtain ⟨⟨p', reply⟩, hdone, hboth⟩ := Option.map_eq_some_iff.1 hsteps
    obtain ⟨⟨p, replies⟩, hstart, hrender⟩ := Option.bind_eq_some_iff.1 hdone
    obtain ⟨hr, hreply⟩ := Prod.mk.inj hboth
    obtain ⟨replies', rfl⟩ := Reply.isRendered_iff.1 hreply
    exact ⟨p, p', replies, replies', hstart, hrender, hr⟩
  refine ⟨hfields, hfits, hstack, hrun, ?_⟩
  obtain ⟨p, p', replies, replies', hstart, hrender, hr⟩ := hrun
  have hbegun : Action.AllInRange start := ⟨trivial, trivial, trivial, trivial, trivial⟩
  have hreach : p.registry.Reachable := reachable_of_actAll? 50 hbegun hstart
  have hinner : Action.AllInRange inner := ⟨trivial, ⟨trivial, trivial⟩, trivial⟩
  obtain ⟨hvalue, htable⟩ := table_of_rerender hreach hfields hinner hrender
  have hchunks : (r.dump.map fun c => [c]).flatten = r.dump := by
    rw [← List.flatMap_def, List.flatMap_singleton']
  have haddress : Address.text 0x10000 = "0x10000" := by decide +kernel
  rw [hr] at hvalue htable
  rw [haddress] at htable
  exact htable r .refl hvalue hfits hstack _ hchunks

/-! ## 5. Types with bars -/

/-- **Behind a type with a bar no rendering is a table.**  The bar ends the type, the rest of the type
is taken for the address, and the address for the beginning of the value. -/
theorem Registry.ofText_of_barred_type {address : Nat} {a : Allocation} {front back : Text}
    (hfront : '|' ∉ front) (hback : '|' ∉ back) (htype : a.typeName = front ++ '|' :: back) :
    let shown := (Record.ofLineLossy (allocationLine address a)).displayValue
    shown = Address.text address ++ '|' :: a.value.withoutReturns ∧
      HeapValue.ofText shown = .plain shown := by
  intro shown
  have hline : allocationLine address a = Text.join ['|'] ['*' :: Address.text address, front, back,
      Address.text address ++ '|' :: Field.encode .inner a.value, nullTarget, heapFrame,
      Field.encode .last []] := by
    simp [allocationLine, recordLine, Text.join, htype]
  have hread := Record.ofLine_join (plain_star_text address).1 hfront hback
    (by decide : '|' ∉ nullTarget) (by decide : '|' ∉ heapFrame) (Field.bar_not_mem_encode_last [])
    (Address.text address ++ '|' :: Field.encode .inner a.value)
  have hslash : '\\' ∉ Address.text address ++ ['|'] := by
    intro hm
    rcases List.mem_append.1 hm with hm | hm
    · exact Address.forall_mem_text (p := (· ≠ '\\')) (by decide) (by decide) address _ hm rfl
    · exact absurd hm (by decide)
  have hvalue : Field.decode (Address.text address ++ '|' :: Field.encode .inner a.value) =
      Address.text address ++ '|' :: a.value.withoutReturns := by
    have hkept := Field.decode_append hslash (Field.encode .inner a.value)
    rwa [Field.decode_encode, List.append_assoc, List.append_assoc] at hkept
  have hshown : shown = Address.text address ++ '|' :: a.value.withoutReturns := by
    rw [← hvalue]
    simp only [shown, Record.ofLineLossy, hline, hread]
    rfl
  refine ⟨hshown, ?_⟩
  rw [hshown]
  rfl

end Stepwise
