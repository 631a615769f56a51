import Mathlib.Data.List.Nodup
import Stepwise.Graph.Build
import Stepwise.Proofs.Address

/-!
# What becomes of each record

The frames of a graph are the labels of the variables, each once, and a frame holds the variables of
its label.

Records are taken one by one: a variable joins the frame of its label, an allocation is put on the
heap unless its address is on it already.  The graph that comes of it holds every record at its
place: a frame for each label and an object for each address, in the order in which they are first
seen, and only an allocation without an address is left out.

Main definitions and statements:

* `firstsBy_concat` and its neighbours on first occurrences, `ObjectGraph.mem_labels_iff`,
  `ObjectGraph.records_of_mem_frames`;
* `Record.Resolves`, `Record.Describes`: the address of an allocation, by its spelling;
* `ObjectGraph.join`, `ObjectGraph.ofRecords_eq_foldl`: the graph is built record by record;
* `ObjectGraph.ofRecords_places`: what becomes of each record.
-/

namespace Stepwise

/-! ## 1. First occurrences -/

section Firsts

variable {α κ : Type} [DecidableEq κ] (key : α → κ)

theorem firstsBy_sublist (xs : List α) : (firstsBy key xs).Sublist xs := by
  induction xs with
  | nil => exact List.Sublist.refl _
  | cons x xs ih => exact (List.filter_sublist.trans ih).cons_cons x

/-- Every key has a first occurrence. -/
theorem mem_map_firstsBy {k : κ} {xs : List α} :
    k ∈ (firstsBy key xs).map key ↔ k ∈ xs.map key := by
  constructor
  · exact fun h => ((firstsBy_sublist key xs).map key).subset h
  · intro h
    induction xs with
    | nil => exact h
    | cons x xs ih =>
      rw [firstsBy, List.map_cons, List.mem_cons]
      by_cases hk : k = key x
      · exact .inl hk
      · have hrest := ih ((List.mem_cons.1 h).resolve_left hk)
        obtain ⟨y, hy, rfl⟩ := List.mem_map.1 hrest
        exact .inr (List.mem_map.2 ⟨y, List.mem_filter.2 ⟨hy, by simpa using hk⟩, rfl⟩)

/-- No key occurs for the first time twice. -/
theorem nodup_map_firstsBy (xs : List α) : ((firstsBy key xs).map key).Nodup := by
  induction xs with
  | nil => exact List.nodup_nil
  | cons x xs ih =>
    rw [firstsBy, List.map_cons, List.nodup_cons]
    refine ⟨?_, ih.sublist (List.filter_sublist.map key)⟩
    intro h
    obtain ⟨y, hy, hk⟩ := List.mem_map.1 h
    exact absurd hk (by simpa using (List.mem_filter.1 hy).2)

/-- Nothing is left out of a list without repeated keys. -/
theorem firstsBy_eq_self {xs : List α} (h : (xs.map key).Nodup) : firstsBy key xs = xs := by
  induction xs with
  | nil => rfl
  | cons x xs ih =>
    obtain ⟨hx, hxs⟩ := List.nodup_cons.1 h
    rw [firstsBy, ih hxs, List.filter_eq_self.2]
    intro y hy
    have hne : key y ≠ key x := fun hk => hx (hk ▸ List.mem_map_of_mem hy)
    simpa using hne

/-- First occurrences stand in the order in which they occur. -/
theorem pairwise_firstsBy (xs : List α) :
    (firstsBy key xs).Pairwise fun x y =>
      xs.findIdx (fun z => key z = key x) < xs.findIdx (fun z => key z = key y) := by
  induction xs with
  | nil => exact List.Pairwise.nil
  | cons x xs ih =>
    rw [firstsBy, List.pairwise_cons]
    have hne : ∀ y ∈ (firstsBy key xs).filter (fun y => key y ≠ key x), ¬ key x = key y := by
      intro y hy hxy
      exact of_decide_eq_true (List.mem_filter.1 hy).2 hxy.symm
    constructor
    · intro y hy
      simp [List.findIdx_cons, hne y hy]
    · refine (ih.filter _).imp_of_mem fun {y z} hy hz hlt => ?_
      simpa [List.findIdx_cons, hne y hy, hne z hz] using hlt

/-- A first occurrence is the first element with its key. -/
theorem find?_of_mem_firstsBy {xs : List α} {x : α} (h : x ∈ firstsBy key xs) :
    xs.find? (fun z => key z = key x) = some x := by
  induction xs with
  | nil => cases h
  | cons y ys ih =>
    rw [firstsBy] at h
    rcases List.mem_cons.1 h with rfl | h
    · simp
    · obtain ⟨hmem, hne⟩ := List.mem_filter.1 h
      have hne : ¬ key y = key x := fun hyx => of_decide_eq_true hne hyx.symm
      simpa [List.find?_cons, hne] using ih hmem

/-- One more element is a first occurrence if its key is new. -/
theorem firstsBy_concat (xs : List α) (x : α) :
    firstsBy key (xs ++ [x]) =
      if ∃ y ∈ xs, key y = key x then firstsBy key xs else firstsBy key xs ++ [x] := by
  induction xs with
  | nil => simp [firstsBy]
  | cons y ys ih =>
    rw [List.cons_append, firstsBy, firstsBy, ih]
    by_cases hy : key y = key x
    · have hex : ∃ z ∈ y :: ys, key z = key x := ⟨y, List.mem_cons_self, hy⟩
      rw [if_pos hex]
      split
      · rfl
      · simp [List.filter_append, hy]
    · have hiff : (∃ z ∈ y :: ys, key z = key x) ↔ ∃ z ∈ ys, key z = key x := by
        simp [hy]
      have hne : ¬ key x = key y := fun h => hy h.symm
      simp only [hiff]
      split
      · rfl
      · simp [List.filter_append, hne]

/-- First occurrences of values are values of first occurrences, if keys agree. -/
theorem firstsBy_map {β ι : Type} [DecidableEq ι] {key : β → κ} {key' : α → ι} {f : α → β}
    {xs : List α} (h : ∀ x ∈ xs, ∀ y ∈ xs, key (f x) = key (f y) ↔ key' x = key' y) :
    firstsBy key (xs.map f) = (firstsBy key' xs).map f := by
  induction xs with
  | nil => rfl
  | cons x xs ih =>
    have hxs := ih fun y hy z hz => h y (List.mem_cons_of_mem _ hy) z (List.mem_cons_of_mem _ hz)
    rw [List.map_cons, firstsBy, firstsBy, List.map_cons, hxs, List.filter_map]
    congr 2
    refine List.filter_congr fun y hy => ?_
    have hmem := List.mem_cons_of_mem x ((firstsBy_sublist key' xs).subset hy)
    simp [h y hmem x List.mem_cons_self]

end Firsts

namespace ObjectGraph

/-! ## 2. Frames -/

theorem nodup_labels (records : List Record) :
    ((ofRecords records).frames.map FrameGroup.label).Nodup := by
  have h := nodup_map_firstsBy id ((records.filter fun r => !r.isHeap).map Record.frameLabel)
  rw [List.map_id] at h
  rw [ofRecords, List.map_map]
  exact (List.map_id _).symm ▸ h

/-- **There is a frame for the label of every variable**, and for no other label. -/
theorem mem_labels_iff {records : List Record} {label : Text} :
    label ∈ (ofRecords records).frames.map FrameGroup.label ↔
      ∃ r ∈ records, ¬ r.isHeap ∧ r.frameLabel = label := by
  have h : label ∈
        (firstsBy id ((records.filter fun r => !r.isHeap).map Record.frameLabel)).map id ↔
      label ∈ ((records.filter fun r => !r.isHeap).map Record.frameLabel).map id :=
    mem_map_firstsBy id
  have hlabels : (ofRecords records).frames.map FrameGroup.label =
      (firstsBy id ((records.filter fun r => !r.isHeap).map Record.frameLabel)).map id := by
    rw [ofRecords, List.map_map]
    rfl
  rw [hlabels, h, List.map_id, List.mem_map]
  simp only [List.mem_filter, Bool.not_eq_true', Bool.not_eq_true, and_assoc]

/-- **A frame holds the variables of its label** in the order of the records. -/
theorem records_of_mem_frames {records : List Record} {group : FrameGroup}
    (h : group ∈ (ofRecords records).frames) :
    group.records =
      (records.filter fun r => !r.isHeap).filter fun r => r.frameLabel == group.label := by
  obtain ⟨label, -, rfl⟩ := List.mem_map.1 h
  rfl

theorem exists_record_of_mem_heap {records : List Record} {o : HeapObject}
    (h : o ∈ (ofRecords records).heap) : ∃ r ∈ records, r.isHeap ∧ heapObjectOf? r = some o := by
  obtain ⟨r, hr, ho⟩ := List.mem_filterMap.1 ((firstsBy_sublist HeapObject.address _).subset h)
  exact ⟨r, (List.mem_filter.1 hr).1, (List.mem_filter.1 hr).2, ho⟩

end ObjectGraph

/-! ## 3. Values of elements in order -/

section Values

variable {α β : Type}

/-- What stands first among the values stands first among the elements that have them. -/
theorem findIdx_lt_of_filterMap {f : α → Option β} {p q : β → Bool} {xs : List α}
    (h : (xs.filterMap f).findIdx p < (xs.filterMap f).findIdx q) :
    xs.findIdx (fun x => (f x).any p) < xs.findIdx (fun x => (f x).any q) := by
  induction xs with
  | nil => exact h
  | cons x xs ih =>
    rw [List.findIdx_cons, List.findIdx_cons]
    cases hx : f x with
    | none =>
      rw [List.filterMap_cons_none hx] at h
      exact Nat.succ_lt_succ (ih h)
    | some y =>
      rw [List.filterMap_cons_some hx, List.findIdx_cons, List.findIdx_cons] at h
      simp only [Option.any_some]
      cases hp : p y <;> cases hq : q y <;> simp only [hp, hq, cond_true, cond_false] at h ⊢
      · exact Nat.succ_lt_succ (ih (Nat.lt_of_succ_lt_succ h))
      · exact absurd h (Nat.not_lt_zero _)
      · exact Nat.succ_pos _
      · exact absurd h (Nat.not_lt_zero _)

/-- The first value comes from the first element that has it. -/
theorem exists_find?_of_filterMap {f : α → Option β} {p : β → Bool} {xs : List α} {y : β}
    (h : (xs.filterMap f).find? p = some y) :
    ∃ x, xs.find? (fun x => (f x).any p) = some x ∧ f x = some y := by
  induction xs with
  | nil => cases h
  | cons x xs ih =>
    cases hx : f x with
    | none =>
      rw [List.filterMap_cons_none hx] at h
      simpa [hx] using ih h
    | some z =>
      rw [List.filterMap_cons_some hx, List.find?_cons] at h
      cases hp : p z with
      | true =>
        rw [hp] at h
        exact ⟨x, by simp [hx, hp], hx.trans h⟩
      | false =>
        rw [hp] at h
        simpa [List.find?_cons, hx, hp] using ih h

end Values

namespace Record

/-! ## 4. The address of an allocation -/

/-- The address that an allocation resolves to: the one that its own address spells, or else the one
that is spelled behind the star of its name. -/
def Resolves (r : Record) (n : Nat) : Prop :=
  Address.Spells r.ownAddress n ∨
    (∀ m, ¬ Address.Spells r.ownAddress m) ∧ ∃ t, r.name = '*' :: t ∧ Address.Spells t n

/-- The record is one of an allocation at an address. -/
def Describes (r : Record) (n : Nat) : Prop := r.isHeap ∧ r.Resolves n

/-- The address that an allocation resolves to, if there is one. -/
def address? (r : Record) : Option Nat :=
  Address.read? r.ownAddress <|> (Text.after? "*" r.name).bind Address.read?

theorem address?_eq_some_iff {r : Record} {n : Nat} : r.address? = some n ↔ r.Resolves n := by
  have hname : ∀ t, Text.after? "*" r.name = some t ↔ r.name = '*' :: t := fun t =>
    Text.after?_eq_some_iff
  rw [address?, Option.orElse_eq_orElse, Option.orElse_eq_or, Option.or_eq_some_iff,
    Option.bind_eq_some_iff, Option.eq_none_iff_forall_not_mem]
  simp only [Option.mem_def, Address.read?_eq_some_iff, hname]
  rfl

theorem heapAddress?_eq (r : Record) :
    ObjectGraph.heapAddress? r = r.address?.map Address.text := by
  have hbind : ((Text.after? "*" r.name).bind Address.read?).map Address.text =
      (Text.after? "*" r.name).bind Address.canonical? := by
    cases Text.after? "*" r.name <;> rfl
  rw [ObjectGraph.heapAddress?, address?, Address.canonical?]
  cases Address.read? r.ownAddress with
  | none => exact hbind.symm
  | some n => rfl

theorem Resolves.bounds {r : Record} {n : Nat} (h : r.Resolves n) : 0 < n ∧ n < 2 ^ 64 := by
  rcases h with h | ⟨-, t, -, h⟩
  · exact ⟨h.1, h.2.1⟩
  · exact ⟨h.1, h.2.1⟩

instance (r : Record) (n : Nat) : Decidable (r.Resolves n) :=
  decidable_of_iff (r.address? = some n) address?_eq_some_iff

instance (r : Record) (n : Nat) : Decidable (r.Describes n) :=
  inferInstanceAs (Decidable (_ ∧ _))

/-- An allocation with its address. -/
def described? (r : Record) : Option (Nat × Record) :=
  if r.isHeap then r.address?.map fun n => (n, r) else none

theorem described?_eq_some_iff {r q : Record} {n : Nat} :
    r.described? = some (n, q) ↔ r.Describes n ∧ q = r := by
  rw [described?, Describes]
  split
  · next hheap =>
    simp only [Option.map_eq_some_iff, address?_eq_some_iff, Prod.mk.injEq, hheap, true_and]
    constructor
    · rintro ⟨m, hm, rfl, rfl⟩
      exact ⟨hm, rfl⟩
    · rintro ⟨hn, rfl⟩
      exact ⟨n, hn, rfl, rfl⟩
  · next hheap => simp [hheap]

theorem any_described? (r : Record) (n : Nat) :
    (r.described?.any fun entry => entry.1 = n) = decide (r.Describes n) := by
  rw [Bool.eq_iff_iff, Option.any_eq_true, decide_eq_true_eq]
  constructor
  · rintro ⟨⟨m, q⟩, hentry, hm⟩
    obtain rfl : m = n := of_decide_eq_true hm
    exact (described?_eq_some_iff.1 hentry).1
  · intro h
    exact ⟨(n, r), described?_eq_some_iff.2 ⟨h, rfl⟩, decide_eq_true rfl⟩

end Record

namespace ObjectGraph

/-- The object at an address that a record describes. -/
def objectAt (n : Nat) (r : Record) : HeapObject :=
  { address := Address.text n, typeName := r.typeName, displayValue := r.displayValue
    value := HeapValue.ofText r.displayValue }

/-- The allocations of a list of records with their addresses. -/
def described (records : List Record) : List (Nat × Record) := records.filterMap Record.described?

theorem heapObjectOf?_eq {r : Record} (hr : r.isHeap) :
    heapObjectOf? r = r.described?.map fun (n, r) => objectAt n r := by
  rw [heapObjectOf?, Record.heapAddress?_eq, Record.described?, if_pos hr, Option.map_map,
    Option.map_map]
  rfl

/-- Entries with one address in canonical spelling have one address. -/
theorem address_objectAt_inj {records : List Record} {a b : Nat × Record}
    (ha : a ∈ described records) (hb : b ∈ described records) :
    (objectAt a.1 a.2).address = (objectAt b.1 b.2).address ↔ a.1 = b.1 := by
  have hbounds : ∀ c ∈ described records, 0 < c.1 ∧ c.1 < 2 ^ 64 := by
    intro c hc
    obtain ⟨r, -, hr⟩ := List.mem_filterMap.1 hc
    exact (Record.described?_eq_some_iff.1 hr).1.2.bounds
  exact Address.text_inj (hbounds a ha) (hbounds b hb)

/-- **The heap is what the first records of each address describe.** -/
theorem heap_eq (records : List Record) :
    (ofRecords records).heap =
      (firstsBy Prod.fst (described records)).map fun (n, r) => objectAt n r := by
  have hobjects : (records.filter Record.isHeap).filterMap heapObjectOf? =
      (described records).map fun (n, r) => objectAt n r := by
    rw [List.filterMap_filter, described, List.map_filterMap]
    refine List.filterMap_congr fun r _ => ?_
    by_cases hr : r.isHeap
    · rw [if_pos hr, heapObjectOf?_eq hr]
    · rw [if_neg hr, Record.described?, if_neg hr]
      rfl
  have hfirsts := firstsBy_map (f := fun entry : Nat × Record => objectAt entry.1 entry.2)
    fun a ha b hb => @address_objectAt_inj records a b ha hb
  rw [ofRecords, hobjects]
  exact hfirsts

/-- The label of the frame that a record belongs to. -/
def label? (r : Record) : Option Text := if r.isHeap then none else some r.frameLabel

/-- The frames are those of the first records of each label. -/
theorem frames_eq (records : List Record) :
    (ofRecords records).frames = (firstsBy id (records.filterMap label?)).map fun label =>
      ⟨label, records.filter fun r => !r.isHeap && r.frameLabel == label⟩ := by
  have hlabels : (records.filter fun r => !r.isHeap).map Record.frameLabel =
      records.filterMap label? := by
    rw [← List.filterMap_eq_map, List.filterMap_filter]
    refine List.filterMap_congr fun r _ => ?_
    rw [label?]
    cases r.isHeap <;> rfl
  rw [ofRecords, hlabels]
  refine List.map_congr_left fun label _ => ?_
  rw [List.filter_filter]
  simp only [Bool.and_comm]

/-! ## 5. Record by record -/

/-- What one more record does to a graph: a variable joins the frame of its label, which is opened
behind the other ones if there is none, and adds its pointer; an allocation is put behind the heap,
unless it has no address or there is an object at its address. -/
def join (g : ObjectGraph) (r : Record) : ObjectGraph :=
  if r.isHeap then
    match heapObjectOf? r with
    | none => g
    | some o => if g.heap.any (·.address == o.address) then g else { g with heap := g.heap ++ [o] }
  else
    { g with
      frames :=
        if g.frames.any (·.label == r.frameLabel) then
          g.frames.map fun f =>
            if f.label = r.frameLabel then { f with records := f.records ++ [r] } else f
        else g.frames ++ [⟨r.frameLabel, [r]⟩]
      edges := g.edges ++ (variableEdge? r).toList }

/-- The pointers of the heap are looked for when all records are taken. -/
def closeHeap (g : ObjectGraph) : ObjectGraph :=
  { g with edges := g.edges ++ g.heap.flatMap (heapEdges g.heap) }

/-- The graph before the pointers of the heap are looked for. -/
def beforeHeap (records : List Record) : ObjectGraph :=
  { ofRecords records with edges := (records.filter fun r => !r.isHeap).filterMap variableEdge? }

/-- There is an object at an address if a record describes one there. -/
theorem any_heap_iff (records : List Record) (address : Text) :
    (ofRecords records).heap.any (·.address == address) ↔
      ∃ entry ∈ described records, (objectAt entry.1 entry.2).address = address := by
  rw [heap_eq, List.any_map, List.any_eq_true]
  constructor
  · rintro ⟨entry, hentry, haddress⟩
    exact ⟨entry, (firstsBy_sublist _ _).subset hentry, beq_iff_eq.1 haddress⟩
  · rintro ⟨entry, hentry, haddress⟩
    obtain ⟨first, hfirst, hkey⟩ := List.mem_map.1
      ((mem_map_firstsBy Prod.fst).2 (List.mem_map_of_mem hentry))
    have hsame := (address_objectAt_inj ((firstsBy_sublist _ _).subset hfirst) hentry).2 hkey
    exact ⟨first, hfirst, beq_iff_eq.2 (hsame.trans haddress)⟩

/-- The frames of variables: one for each label, with the variables that have it. -/
def framesOf (vars : List Record) : List FrameGroup :=
  (firstsBy id (vars.map Record.frameLabel)).map fun label =>
    { label, records := vars.filter (·.frameLabel == label) }

/-- One variable more joins the frame of its label, or opens one. -/
theorem framesOf_concat (vars : List Record) (r : Record) :
    framesOf (vars ++ [r]) =
      if (framesOf vars).any (·.label == r.frameLabel) then
        (framesOf vars).map fun f =>
          if f.label = r.frameLabel then { f with records := f.records ++ [r] } else f
      else framesOf vars ++ [⟨r.frameLabel, [r]⟩] := by
  have hmem : ∀ label, label ∈ firstsBy id (vars.map Record.frameLabel) ↔
      ∃ y ∈ vars.map Record.frameLabel, y = label := by
    intro label
    have h := @mem_map_firstsBy _ _ _ id label (vars.map Record.frameLabel)
    rw [List.map_id, List.map_id] at h
    simp [h]
  have hany : (framesOf vars).any (·.label == r.frameLabel) ↔
      ∃ y ∈ vars.map Record.frameLabel, id y = id r.frameLabel := by
    simp only [framesOf, List.any_map, List.any_eq_true, Function.comp_apply, beq_iff_eq, id_eq,
      exists_eq_right, ← hmem]
  have hrecords : ∀ label, (vars ++ [r]).filter (·.frameLabel == label) =
      vars.filter (·.frameLabel == label) ++ if label = r.frameLabel then [r] else [] := by
    intro label
    rw [List.filter_append]
    by_cases h : label = r.frameLabel
    · simp [h]
    · have h' : ¬ r.frameLabel = label := fun hl => h hl.symm
      simp [h, h']
  simp only [hany]
  rw [framesOf, List.map_append, List.map_singleton, firstsBy_concat]
  simp only [hrecords]
  split
  · rw [framesOf, List.map_map]
    refine List.map_congr_left fun label _ => ?_
    rw [Function.comp_apply]
    split
    · rfl
    · rw [List.append_nil]
  · next hnew =>
    rw [List.map_append, List.map_singleton, framesOf]
    congr 1
    · refine List.map_congr_left fun label hlabel => ?_
      obtain ⟨y, hy, rfl⟩ := (hmem label).1 hlabel
      have hne : ¬ y = r.frameLabel := fun heq => hnew ⟨y, hy, heq⟩
      rw [if_neg hne, List.append_nil]
    · have hnone : vars.filter (·.frameLabel == r.frameLabel) = [] := by
        rw [List.filter_eq_nil_iff]
        intro v hv heq
        exact hnew ⟨v.frameLabel, List.mem_map_of_mem hv, beq_iff_eq.1 heq⟩
      rw [hnone, if_pos rfl, List.nil_append]

/-- An allocation more. -/
theorem beforeHeap_concat_heap (records : List Record) {r : Record} (hr : r.isHeap) :
    beforeHeap (records ++ [r]) = (beforeHeap records).join r := by
  have hvars : (records ++ [r]).filter (fun r => !r.isHeap) =
      records.filter fun r => !r.isHeap := by
    simp [List.filter_append, hr]
  have hframes : (ofRecords (records ++ [r])).frames = (ofRecords records).frames := by
    rw [ofRecords, ofRecords, hvars]
  have hheap : (ofRecords (records ++ [r])).heap =
      match heapObjectOf? r with
      | none => (ofRecords records).heap
      | some o => if (ofRecords records).heap.any (·.address == o.address) then
          (ofRecords records).heap else (ofRecords records).heap ++ [o] := by
    have happend : described (records ++ [r]) = described records ++ r.described?.toList := by
      rw [described, List.filterMap_append]
      cases hd : r.described? <;> simp [described, hd]
    rw [heap_eq, happend, heapObjectOf?_eq hr]
    cases hd : r.described? with
    | none => simp [heap_eq]
    | some entry =>
      have hentry : entry ∈ described (records ++ [r]) := by simp [happend, hd]
      have hiff : (∃ y ∈ described records, y.1 = entry.1) ↔
          ∃ y ∈ described records,
            (objectAt y.1 y.2).address = (objectAt entry.1 entry.2).address := by
        refine exists_congr fun y => and_congr_right fun hy => ?_
        have hy : y ∈ described (records ++ [r]) := happend ▸ List.mem_append_left _ hy
        exact (address_objectAt_inj hy hentry).symm
      simp only [Option.toList_some, Option.map_some, firstsBy_concat, hiff, any_heap_iff]
      rw [heap_eq]
      split
      · rfl
      · rw [List.map_append, List.map_singleton]
  rw [beforeHeap, beforeHeap, hvars, hframes, hheap, join, if_pos hr]
  cases heapObjectOf? r with
  | none => rfl
  | some o =>
    dsimp only
    split <;> rfl

/-- A variable more. -/
theorem beforeHeap_concat_variable (records : List Record) {r : Record} (hr : ¬ r.isHeap) :
    beforeHeap (records ++ [r]) = (beforeHeap records).join r := by
  have hr' : r.isHeap = false := by simpa using hr
  have hvars : (records ++ [r]).filter (fun r => !r.isHeap) =
      (records.filter fun r => !r.isHeap) ++ [r] := by
    simp [List.filter_append, hr']
  have hheap : (ofRecords (records ++ [r])).heap = (ofRecords records).heap := by
    rw [heap_eq, heap_eq, described, List.filterMap_append]
    simp [Record.described?, hr', described]
  have hframes : (ofRecords (records ++ [r])).frames =
      framesOf ((records.filter fun r => !r.isHeap) ++ [r]) := by
    rw [ofRecords, hvars]
    rfl
  have hedges : ((records.filter fun r => !r.isHeap) ++ [r]).filterMap variableEdge? =
      (records.filter fun r => !r.isHeap).filterMap variableEdge? ++ (variableEdge? r).toList := by
    rw [List.filterMap_append]
    cases hedge : variableEdge? r <;> simp [hedge]
  rw [beforeHeap, beforeHeap, hvars, hframes, hheap, hedges, framesOf_concat, join, if_neg hr]
  rfl

/-- **The graph is built record by record**, and then the pointers of the heap are added. -/
theorem ofRecords_eq_foldl (records : List Record) :
    ofRecords records = (records.foldl join {}).closeHeap := by
  have h : records.foldl join {} = beforeHeap records := by
    induction records using List.reverseRecOn with
    | nil => rfl
    | append_singleton records r ih =>
      rw [List.foldl_append, ih]
      by_cases hr : r.isHeap
      · exact (beforeHeap_concat_heap records hr).symm
      · exact (beforeHeap_concat_variable records hr).symm
  rw [h]
  rfl

/-! ## 6. What becomes of each record -/

/-- The first records of each address, with their addresses. -/
def heapEntries (records : List Record) : List (Nat × Record) := firstsBy Prod.fst (described records)

/-- Labels stand in the order in which they are first seen. -/
theorem pairwise_labels (records : List Record) :
    (firstsBy id (records.filterMap label?)).Pairwise fun label next =>
      label ≠ next ∧ records.findIdx (fun r => !r.isHeap && r.frameLabel == label) <
        records.findIdx fun r => !r.isHeap && r.frameLabel == next := by
  have hseen : ∀ label, (fun r : Record => (label? r).any fun l => decide (id l = id label)) =
      fun r => !r.isHeap && r.frameLabel == label := by
    intro label
    funext r
    rw [label?, Bool.eq_iff_iff]
    cases r.isHeap <;> simp
  refine (pairwise_firstsBy id (records.filterMap label?)).imp fun {label next} hlt => ?_
  have hlt := findIdx_lt_of_filterMap hlt
  rw [hseen, hseen] at hlt
  exact ⟨fun heq => absurd hlt (by simp [heq]), hlt⟩

theorem mem_firstsBy_label?_iff {records : List Record} {label : Text} :
    label ∈ firstsBy id (records.filterMap label?) ↔
      ∃ r ∈ records, ¬ r.isHeap ∧ r.frameLabel = label := by
  rw [← mem_labels_iff, frames_eq, List.map_map]
  exact iff_of_eq (congrArg (label ∈ ·) (List.map_id _).symm)

theorem mem_described_iff {records : List Record} {n : Nat} {r : Record} :
    (n, r) ∈ described records ↔ r ∈ records ∧ r.Describes n := by
  rw [described, List.mem_filterMap]
  constructor
  · rintro ⟨q, hq, hentry⟩
    obtain ⟨hn, rfl⟩ := Record.described?_eq_some_iff.1 hentry
    exact ⟨hq, hn⟩
  · rintro ⟨hr, hn⟩
    exact ⟨r, hr, Record.described?_eq_some_iff.2 ⟨hn, rfl⟩⟩

/-- There is an entry of an address exactly if a record describes an allocation there. -/
theorem mem_heapEntries_iff {records : List Record} {n : Nat} :
    n ∈ (heapEntries records).map Prod.fst ↔ ∃ r ∈ records, r.Describes n := by
  rw [heapEntries, mem_map_firstsBy, List.mem_map]
  constructor
  · rintro ⟨⟨m, r⟩, hentry, rfl⟩
    exact ⟨r, mem_described_iff.1 hentry⟩
  · rintro ⟨r, hr⟩
    exact ⟨(n, r), mem_described_iff.2 hr, rfl⟩

theorem find?_of_mem_heapEntries {records : List Record} {n : Nat} {r : Record}
    (h : (n, r) ∈ heapEntries records) :
    records.find? (fun q => q.Describes n) = some r := by
  obtain ⟨q, hfind, hentry⟩ := exists_find?_of_filterMap (find?_of_mem_firstsBy _ h)
  obtain ⟨-, rfl⟩ := Record.described?_eq_some_iff.1 hentry
  simpa only [Record.any_described?] using hfind

/-- Entries stand in the order in which their addresses are first seen. -/
theorem pairwise_heapEntries (records : List Record) :
    (heapEntries records).Pairwise fun entry next =>
      entry.1 ≠ next.1 ∧ records.findIdx (fun r => r.Describes entry.1) <
        records.findIdx fun r => r.Describes next.1 := by
  refine (pairwise_firstsBy Prod.fst (described records)).imp fun {entry next} hlt => ?_
  have hlt := findIdx_lt_of_filterMap hlt
  simp only [Record.any_described?] at hlt
  exact ⟨fun heq => absurd hlt (by simp [heq]), hlt⟩

theorem nodup_addresses (records : List Record) :
    ((ofRecords records).heap.map (·.address)).Nodup := by
  rw [heap_eq, List.map_map, List.nodup_iff_pairwise_ne, List.pairwise_map]
  refine (pairwise_heapEntries records).imp_of_mem fun {entry next} hentry hnext hlt heq => ?_
  exact hlt.1 ((address_objectAt_inj ((firstsBy_sublist _ _).subset hentry)
    ((firstsBy_sublist _ _).subset hnext)).1 heq)

theorem exists_frame_of_variable {records : List Record} {r : Record} (hr : r ∈ records)
    (hvar : ¬ r.isHeap) : ∃ f ∈ (ofRecords records).frames, r ∈ f.records := by
  rw [frames_eq]
  refine ⟨_, List.mem_map_of_mem (mem_firstsBy_label?_iff.2 ⟨r, hr, hvar, rfl⟩), ?_⟩
  simpa [hr] using hvar

theorem exists_object_of_describes {records : List Record} {r : Record} {n : Nat} (hr : r ∈ records)
    (hn : r.Describes n) : ∃ o ∈ (ofRecords records).heap, o.address = Address.text n := by
  obtain ⟨entry, hentry, rfl⟩ := List.mem_map.1 (mem_heapEntries_iff.2 ⟨r, hr, hn⟩)
  rw [heap_eq]
  exact ⟨_, List.mem_map_of_mem hentry, rfl⟩

/-- **What becomes of each record.** There is a frame for each label of a variable, in the order in
which labels are first seen, with the variables of that label as they were reported; there is an
object for each address that an allocation resolves to, in the order in which addresses are first
seen, as the first such allocation describes it; no two objects have one address; and what is in no
frame and has no object at its address is an allocation that resolves to none.  This is what the
records come to when they are taken one after the other. -/
theorem ofRecords_places (records : List Record) :
    (∃ labels : List Text,
      (ofRecords records).frames = labels.map (fun label =>
        ⟨label, records.filter fun r => !r.isHeap && r.frameLabel == label⟩) ∧
      (∀ label, label ∈ labels ↔ ∃ r ∈ records, ¬ r.isHeap ∧ r.frameLabel = label) ∧
      labels.Pairwise fun label next =>
        label ≠ next ∧ records.findIdx (fun r => !r.isHeap && r.frameLabel == label) <
          records.findIdx fun r => !r.isHeap && r.frameLabel == next) ∧
    (∃ entries : List (Nat × Record),
      (ofRecords records).heap = entries.map (fun (n, r) =>
        ⟨Address.text n, r.typeName, r.displayValue, HeapValue.ofText r.displayValue⟩) ∧
      (∀ n, n ∈ entries.map Prod.fst ↔ ∃ r ∈ records, r.Describes n) ∧
      (∀ n r, (n, r) ∈ entries → records.find? (fun q => q.Describes n) = some r) ∧
      entries.Pairwise fun entry next =>
        entry.1 ≠ next.1 ∧ records.findIdx (fun r => r.Describes entry.1) <
          records.findIdx fun r => r.Describes next.1) ∧
    ((ofRecords records).heap.map (·.address)).Nodup ∧
    (∀ r ∈ records,
      (∃ f ∈ (ofRecords records).frames, r ∈ f.records) ∨
      (∃ n, r.Describes n ∧ ∃ o ∈ (ofRecords records).heap, o.address = Address.text n) ∨
      r.isHeap ∧ ∀ n, ¬ r.Resolves n) ∧
    ofRecords records = (records.foldl join {}).closeHeap := by
  refine ⟨?frames, ?heap, nodup_addresses records, ?each, ofRecords_eq_foldl records⟩
  case frames =>
    exact ⟨_, frames_eq records, fun _ => mem_firstsBy_label?_iff, pairwise_labels records⟩
  case heap =>
    exact ⟨heapEntries records, heap_eq records, fun _ => mem_heapEntries_iff,
      fun _ _ => find?_of_mem_heapEntries, pairwise_heapEntries records⟩
  case each =>
    intro r hr
    by_cases hheap : r.isHeap
    · by_cases hn : ∃ n, r.Resolves n
      · obtain ⟨n, hn⟩ := hn
        exact .inr (.inl ⟨n, ⟨hheap, hn⟩, exists_object_of_describes hr ⟨hheap, hn⟩⟩)
      · exact .inr (.inr ⟨hheap, not_exists.1 hn⟩)
    · exact .inl (exists_frame_of_variable hr hheap)

end ObjectGraph

end Stepwise
