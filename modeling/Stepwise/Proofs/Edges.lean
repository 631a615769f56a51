import Stepwise.Proofs.Grouping

/-!
# The pointers of a graph

A graph has one pointer for each variable with a target, and for each object one pointer to every
object of the same heap that is mentioned in its value.  What is mentioned is told by the tokens of
the value: `0x` and hexadecimal digits, each taken as early and as long as it can be and none
beginning inside of another one.  A token may spell an address in many ways, and an object may be
mentioned before it is recorded; one that is mentioned more than once counts where it is mentioned
first.

Main definitions and statements:

* `ObjectGraph.Scan`, `ObjectGraph.scan_iff`: the tokens of a text are what is found in it;
* `HeapObject.NamedBy`, `ObjectGraph.heapEdges_eq`: the pointers of an object are to the objects
  that its tokens name;
* `ObjectGraph.ofRecords_edges`: which pointers there are.
-/

namespace Stepwise

namespace ObjectGraph

/-! ## 1. Tokens -/

/-- The text is `0x` with hexadecimal digits behind it. -/
def IsToken (t : Text) : Prop :=
  ∃ digits, digits ≠ [] ∧ (∀ c ∈ digits, isHexDigit c) ∧ t = '0' :: 'x' :: digits

/-- The tokens found in a text from the left: there is none, or the first one begins where no other
one begins before it, goes on as long as there are digits, and the others are found behind it. -/
inductive Scan : Text → List Text → Prop
  | done {t : Text} (hnone : ∀ a token b, t = a ++ token ++ b → ¬ IsToken token) : Scan t []
  | next {gap token rest : Text} {tokens : List Text} (htoken : IsToken token)
      (hlong : ∀ c ∈ rest.head?, ¬ isHexDigit c)
      (hearly : ∀ a other b, gap ++ token ++ rest = a ++ other ++ b → IsToken other →
        gap.length ≤ a.length)
      (hrest : Scan rest tokens) : Scan (gap ++ token ++ rest) (token :: tokens)

/-- Digits up to where there are none are all the digits at the front. -/
theorem takeWhile_digits {digits rest : Text} (hdigits : ∀ c ∈ digits, isHexDigit c)
    (hlong : ∀ c ∈ rest.head?, ¬ isHexDigit c) :
    (digits ++ rest).takeWhile isHexDigit = digits := by
  have hrest : rest.takeWhile isHexDigit = [] := by
    cases rest with
    | nil => rfl
    | cons c rest => exact List.takeWhile_cons_of_neg (hlong c rfl)
  rw [List.takeWhile_append_of_pos hdigits, hrest, List.append_nil]

/-- **What is found in a text is determined by it.**  The induction is on the first way of finding
tokens: both begin with the token that no other one begins before. -/
theorem Scan.unique {t : Text} {tokens tokens' : List Text} (h : Scan t tokens)
    (h' : Scan t tokens') : tokens = tokens' := by
  induction h generalizing tokens' with
  | done hnone =>
    cases h' with
    | done => rfl
    | next htoken => exact absurd htoken (hnone _ _ _ rfl)
  | @next gap token rest tokens htoken hlong hearly hrest ih =>
    generalize ht : gap ++ token ++ rest = u at h'
    cases h' with
    | done hnone => exact absurd htoken (hnone _ _ _ ht.symm)
    | @next gap' token' rest' tokens' htoken' hlong' hearly' hrest' =>
      have hgap : gap.length = gap'.length :=
        Nat.le_antisymm (hearly _ _ _ ht htoken') (hearly' _ _ _ ht.symm htoken)
      obtain ⟨digits, -, hdigits, rfl⟩ := htoken
      obtain ⟨digits', -, hdigits', rfl⟩ := htoken'
      rw [List.append_assoc, List.append_assoc] at ht
      obtain ⟨-, hbehind⟩ := List.append_inj ht hgap
      have hbehind : digits ++ rest = digits' ++ rest' := by simpa using hbehind
      have hsame : digits = digits' := by
        rw [← takeWhile_digits hdigits hlong, hbehind, takeWhile_digits hdigits' hlong']
      subst hsame
      obtain rfl := List.append_cancel_left hbehind
      rw [ih hrest']

/-- A character at which no token begins makes no difference. -/
theorem Scan.cons {c : Char} {t : Text} {tokens : List Text}
    (hc : ∀ token b, c :: t = token ++ b → ¬ IsToken token) (h : Scan t tokens) :
    Scan (c :: t) tokens := by
  cases h with
  | done hnone =>
    refine .done fun a token b hab => ?_
    cases a with
    | nil => exact hc token b hab
    | cons d a => exact hnone a token b (List.cons.inj hab).2
  | @next gap token rest tokens htoken hlong hearly hrest =>
    have hfirst : ∀ a other b, c :: gap ++ token ++ rest = a ++ other ++ b → IsToken other →
        (c :: gap).length ≤ a.length := by
      intro a other b hab hother
      cases a with
      | nil => exact absurd hother (hc other b hab)
      | cons d a => exact Nat.succ_le_succ (hearly a other b (List.cons.inj hab).2 hother)
    exact .next htoken hlong hfirst hrest

/-- The tokens that are read off a text are found in it. -/
theorem scan_addressTokens (t : Text) : Scan t (addressTokens t) := by
  fun_induction addressTokens t with
  | case1 =>
    refine .done fun a token b hab htoken => ?_
    obtain ⟨digits, -, -, rfl⟩ := htoken
    simp at hab
  | case2 t hnone ih =>
    refine Scan.cons ?_ (Scan.cons ?_ ih)
    · rintro token b hab ⟨digits, hne, hdigits, rfl⟩
      obtain ⟨c, digits, rfl⟩ := List.exists_cons_of_ne_nil hne
      obtain rfl : t = c :: (digits ++ b) := by simpa using hab
      have hc : isHexDigit c := hdigits c List.mem_cons_self
      simp [hc] at hnone
    · rintro token b hab ⟨digits, -, -, rfl⟩
      exact absurd (List.cons.inj hab).1 (by decide)
  | case3 t hsome ih =>
    have hsplit : '0' :: 'x' :: t =
        [] ++ '0' :: 'x' :: t.takeWhile isHexDigit ++ t.dropWhile isHexDigit := by
      simp
    have htoken : IsToken ('0' :: 'x' :: t.takeWhile isHexDigit) :=
      ⟨_, by simpa using hsome, fun c hc => List.mem_takeWhile_imp hc, rfl⟩
    rw [hsplit]
    refine .next htoken ?_ (fun a other b _ _ => Nat.zero_le _) ih
    intro c hc hdigit
    have hfirst := List.head?_dropWhile_not isHexDigit t
    rw [Option.mem_def.1 hc] at hfirst
    simp [hdigit] at hfirst
  | case4 c t hother ih =>
    refine Scan.cons ?_ ih
    rintro token b hab ⟨digits, -, -, rfl⟩
    obtain ⟨rfl, rfl⟩ := List.cons.inj hab
    exact hother _ rfl rfl

/-- **The tokens of a text are what is found in it.** -/
theorem scan_iff {t : Text} {tokens : List Text} : Scan t tokens ↔ tokens = addressTokens t :=
  ⟨fun h => h.unique (scan_addressTokens t), fun h => h ▸ scan_addressTokens t⟩

/-- No token begins inside of another one. -/
example : addressTokens "0x10x20x30" = ["0x10".toList, "0x30".toList] := by cbv

end ObjectGraph

namespace Address

/-! ## 2. Objects named by tokens -/

instance (t : Text) (n : Nat) : Decidable (Spells t n) :=
  decidable_of_iff (read? t = some n) read?_eq_some_iff

theorem canonical?_eq_some_iff {t address : Text} :
    canonical? t = some address ↔ ∃ n, Spells t n ∧ address = text n := by
  simp only [canonical?, Option.map_eq_some_iff, read?_eq_some_iff, eq_comm (a := address)]

end Address

/-- The token spells the address of the object. -/
def HeapObject.NamedBy (o : HeapObject) (token : Text) : Prop :=
  ∃ n, Address.Spells token n ∧ o.address = Address.text n

theorem HeapObject.namedBy_iff {o : HeapObject} {token : Text} :
    o.NamedBy token ↔ Address.canonical? token = some o.address :=
  Address.canonical?_eq_some_iff.symm

instance (o : HeapObject) (token : Text) : Decidable (o.NamedBy token) :=
  decidable_of_iff _ HeapObject.namedBy_iff.symm

namespace ObjectGraph

variable {heap : List HeapObject} {token : Text} {p : HeapObject}

/-- The object of a heap that a token names. -/
def named? (heap : List HeapObject) (token : Text) : Option HeapObject :=
  (Address.canonical? token).bind fun address => heap.find? (·.address == address)

/-- A token names the object at its address. -/
theorem named?_eq_some_iff (hheap : (heap.map (·.address)).Nodup) :
    named? heap token = some p ↔ p ∈ heap ∧ p.NamedBy token := by
  rw [named?, Option.bind_eq_some_iff, HeapObject.namedBy_iff]
  constructor
  · rintro ⟨address, htoken, hfind⟩
    obtain rfl : p.address = address := by simpa using List.find?_some hfind
    exact ⟨List.mem_of_find?_eq_some hfind, htoken⟩
  · rintro ⟨hp, htoken⟩
    refine ⟨_, htoken, ?_⟩
    obtain ⟨q, hq⟩ : ∃ q, heap.find? (·.address == p.address) = some q := by
      rw [← Option.isSome_iff_exists, List.find?_isSome]
      exact ⟨p, hp, by simp⟩
    have hsame : q.address = p.address := by simpa using List.find?_some hq
    rw [hq, List.inj_on_of_nodup_map hheap (List.mem_of_find?_eq_some hq) hp hsame]

/-- The objects that a value mentions, each where it is mentioned first. -/
def mentioned (heap : List HeapObject) (value : Text) : List HeapObject :=
  firstsBy HeapObject.address ((addressTokens value).filterMap (named? heap))

/-- **The pointers of an object are to the objects that its value mentions.** -/
theorem heapEdges_eq (heap : List HeapObject) (o : HeapObject) :
    heapEdges heap o = (mentioned heap o.displayValue).map fun p =>
      { source := .heap o.address, target := p.address } := by
  have hknown : ((addressTokens o.displayValue).filterMap Address.canonical?).filter
        (fun target => heap.any (·.address == target)) =
      ((addressTokens o.displayValue).filterMap (named? heap)).map HeapObject.address := by
    rw [List.filter_filterMap, List.map_filterMap]
    refine List.filterMap_congr fun token _ => ?_
    rw [named?]
    cases Address.canonical? token with
    | none => rfl
    | some address =>
      simp only [Option.bind_some]
      cases hfind : heap.find? (·.address == address) with
      | none =>
        have hany : heap.any (·.address == address) = false := by
          simpa using hfind
        simp [Option.filter, hany]
      | some q =>
        have haddress : q.address = address := by simpa using List.find?_some hfind
        have hany : heap.any (·.address == address) = true :=
          List.any_eq_true.2 ⟨q, List.mem_of_find?_eq_some hfind, by simpa using haddress⟩
        simp [Option.filter, hany, haddress]
  have hfirsts : firstsBy id
        (((addressTokens o.displayValue).filterMap (named? heap)).map HeapObject.address) =
      (mentioned heap o.displayValue).map HeapObject.address :=
    firstsBy_map fun _ _ _ _ => Iff.rfl
  rw [heapEdges, hknown, hfirsts, List.map_map]
  rfl

/-- What a value mentions is what its tokens name. -/
theorem mem_mentioned_iff (hheap : (heap.map (·.address)).Nodup) {value : Text} :
    p ∈ mentioned heap value ↔ p ∈ heap ∧ ∃ token ∈ addressTokens value, p.NamedBy token := by
  have hnamed : ∀ q, q ∈ (addressTokens value).filterMap (named? heap) ↔
      q ∈ heap ∧ ∃ token ∈ addressTokens value, q.NamedBy token := by
    intro q
    simp only [List.mem_filterMap, named?_eq_some_iff hheap]
    tauto
  constructor
  · exact fun hp => (hnamed p).1 ((firstsBy_sublist _ _).subset hp)
  · intro hp
    -- the first mention of the address is one of an object there, and there is no other object
    obtain ⟨q, hq, haddress⟩ := List.mem_map.1
      ((mem_map_firstsBy HeapObject.address).2 (List.mem_map_of_mem ((hnamed p).2 hp)))
    have hqheap := ((hnamed q).1 ((firstsBy_sublist _ _).subset hq)).1
    exact List.inj_on_of_nodup_map hheap hqheap hp.1 haddress ▸ hq

theorem nodup_mentioned (heap : List HeapObject) (value : Text) : (mentioned heap value).Nodup :=
  (nodup_map_firstsBy HeapObject.address _).of_map _

/-- Objects stand in the order in which they are first mentioned. -/
theorem pairwise_mentioned (hheap : (heap.map (·.address)).Nodup) (value : Text) :
    (mentioned heap value).Pairwise fun p q =>
      (addressTokens value).findIdx (fun token => p.NamedBy token) <
        (addressTokens value).findIdx fun token => q.NamedBy token := by
  have hnamed : ∀ p ∈ mentioned heap value,
      (fun token => (named? heap token).any fun q => q.address = p.address) =
        fun token => decide (p.NamedBy token) := by
    intro p hp
    have hpheap := ((mem_mentioned_iff hheap).1 hp).1
    funext token
    rw [Bool.eq_iff_iff, Option.any_eq_true, decide_eq_true_eq]
    simp only [named?_eq_some_iff hheap, decide_eq_true_eq]
    constructor
    · rintro ⟨q, ⟨hq, htoken⟩, haddress⟩
      exact List.inj_on_of_nodup_map hheap hq hpheap haddress ▸ htoken
    · exact fun htoken => ⟨p, ⟨hpheap, htoken⟩, rfl⟩
  refine (pairwise_firstsBy HeapObject.address _).imp_of_mem fun {p q} hp hq hlt => ?_
  have hlt := findIdx_lt_of_filterMap hlt
  rwa [hnamed p hp, hnamed q hq] at hlt

end ObjectGraph

namespace Record

/-! ## 3. Variables with a target -/

/-- The record is one of a variable whose target spells an address. -/
def PointsTo (r : Record) (n : Nat) : Prop :=
  ¬ r.isHeap ∧ ∃ t, r.pointeeAddress = some t ∧ Address.Spells t n

/-- The address that a variable points to. -/
def target? (r : Record) : Option Nat :=
  if r.isHeap then none else r.pointeeAddress.bind Address.read?

theorem target?_eq_some_iff {r : Record} {n : Nat} : r.target? = some n ↔ r.PointsTo n := by
  rw [target?, PointsTo]
  split
  · next hheap => simp [hheap]
  · next hheap =>
    simp only [Option.bind_eq_some_iff, Address.read?_eq_some_iff, hheap, Bool.false_eq_true,
      not_false_eq_true, true_and]

instance (r : Record) : Decidable (∃ n, r.PointsTo n) :=
  decidable_of_iff (r.target?.isSome = true) <| by
    rw [Option.isSome_iff_exists]
    exact exists_congr fun _ => target?_eq_some_iff

end Record

namespace ObjectGraph

/-- The variables with a target, and the address of the target. -/
def pointers (records : List Record) : List (Record × Nat) :=
  records.filterMap fun r => r.target?.map fun n => (r, n)

theorem mem_pointers {records : List Record} {r : Record} {n : Nat}
    (h : (r, n) ∈ pointers records) : r.PointsTo n := by
  obtain ⟨q, -, hq⟩ := List.mem_filterMap.1 h
  obtain ⟨m, hm, heq⟩ := Option.map_eq_some_iff.1 hq
  obtain ⟨rfl, rfl⟩ := Prod.mk.inj heq
  exact Record.target?_eq_some_iff.1 hm

/-- The variables with a target are those that point somewhere. -/
theorem map_fst_pointers (records : List Record) :
    (pointers records).map Prod.fst = records.filter fun r => ∃ n, r.PointsTo n := by
  rw [pointers, List.map_filterMap, ← List.filterMap_eq_filter]
  refine List.filterMap_congr fun r _ => ?_
  have hiff : (∃ n, r.PointsTo n) ↔ r.target?.isSome := by
    rw [Option.isSome_iff_exists]
    exact exists_congr fun _ => Record.target?_eq_some_iff.symm
  cases ht : r.target? with
  | none => simp [Option.guard, hiff, ht]
  | some n => simp [Option.guard, hiff, ht]

/-- The pointers of the variables. -/
theorem variableEdges_eq (records : List Record) :
    (records.filter fun r => !r.isHeap).filterMap variableEdge? =
      (pointers records).map fun (r, n) =>
        { source := .variable r.frameLabel r.name, target := Address.text n } := by
  rw [List.filterMap_filter, pointers, List.map_filterMap]
  refine List.filterMap_congr fun r _ => ?_
  rw [Record.target?]
  cases r.isHeap with
  | true => rfl
  | false =>
    rw [variableEdge?]
    cases r.pointeeAddress with
    | none => rfl
    | some t =>
      simp only [Address.canonical?, Option.bind_some]
      cases Address.read? t <;> rfl

/-! ## 4. All pointers -/

/-- The objects of the heap, each with those that its value mentions. -/
def links (heap : List HeapObject) : List (HeapObject × List HeapObject) :=
  heap.map fun o => (o, mentioned heap o.displayValue)

/-- The pointers of an object to others. -/
def linkEdges (link : HeapObject × List HeapObject) : List Edge :=
  link.2.map fun p => { source := .heap link.1.address, target := p.address }

theorem edges_eq (records : List Record) :
    (ofRecords records).edges =
      (pointers records).map (fun (r, n) =>
          { source := .variable r.frameLabel r.name, target := Address.text n }) ++
        (links (ofRecords records).heap).flatMap linkEdges := by
  have hheap : (links (ofRecords records).heap).flatMap linkEdges =
      (ofRecords records).heap.flatMap (heapEdges (ofRecords records).heap) := by
    rw [links, List.flatMap_map]
    exact List.flatMap_congr fun o _ => (heapEdges_eq _ o).symm
  rw [hheap, ← variableEdges_eq]
  rfl

/-- No two objects have a pointer in common, as they have addresses of their own. -/
theorem nodup_linkEdges {heap : List HeapObject} (hheap : (heap.map (·.address)).Nodup) :
    ((links heap).flatMap linkEdges).Nodup := by
  rw [links, List.flatMap_map, List.nodup_flatMap]
  constructor
  · intro o ho
    refine (nodup_mentioned heap o.displayValue).map_on fun p hp q hq heq => ?_
    have haddress : p.address = q.address := congrArg Edge.target heq
    exact List.inj_on_of_nodup_map hheap ((mem_mentioned_iff hheap).1 hp).1
      ((mem_mentioned_iff hheap).1 hq).1 haddress
  · refine (List.pairwise_map.1 hheap).imp fun {o o'} hne e he he' => ?_
    obtain ⟨p, -, rfl⟩ := List.mem_map.1 he
    obtain ⟨q, -, heq⟩ := List.mem_map.1 he'
    exact hne (EdgeSource.heap.inj (congrArg Edge.source heq)).symm

/-- A pointer of a graph is one of a variable or one of an object. -/
theorem mem_edges_iff {records : List Record} {e : Edge} :
    e ∈ (ofRecords records).edges ↔
      (∃ r n, (r, n) ∈ pointers records ∧
        e = { source := .variable r.frameLabel r.name, target := Address.text n }) ∨
      ∃ o ∈ (ofRecords records).heap,
        ∃ p ∈ mentioned (ofRecords records).heap o.displayValue,
          e = { source := .heap o.address, target := p.address } := by
  simp only [edges_eq, List.mem_append, List.mem_map, List.mem_flatMap, links, linkEdges,
    Prod.exists, Prod.mk.injEq, ↓existsAndEq, and_true, true_and, eq_comm (b := e)]

theorem exists_address_of_mem_heap {records : List Record} {o : HeapObject}
    (h : o ∈ (ofRecords records).heap) : ∃ n, 0 < n ∧ n < 2 ^ 64 ∧ o.address = Address.text n := by
  rw [heap_eq] at h
  obtain ⟨⟨n, r⟩, hentry, rfl⟩ := List.mem_map.1 h
  obtain ⟨h0, hb⟩ := (mem_described_iff.1 ((firstsBy_sublist _ _).subset hentry)).2.2.bounds
  exact ⟨n, h0, hb, rfl⟩

/-- **A pointer of an object occurs once**, from an object to an object. -/
theorem heapEdge_of_mem {records : List Record} {e : Edge} (he : e ∈ (ofRecords records).edges)
    {address : Text} (hsource : e.source = .heap address) :
    (∃ o ∈ (ofRecords records).heap, o.address = address) ∧
      (∃ p ∈ (ofRecords records).heap, p.address = e.target) ∧
        (ofRecords records).edges.count e = 1 := by
  have hheap := nodup_addresses records
  rcases mem_edges_iff.1 he with ⟨r, n, -, rfl⟩ | ⟨o, ho, p, hp, rfl⟩
  · cases hsource
  · refine ⟨⟨o, ho, EdgeSource.heap.inj hsource⟩, ⟨p, ((mem_mentioned_iff hheap).1 hp).1, rfl⟩, ?_⟩
    refine Nat.le_antisymm ?_ (List.count_pos_iff.2 he)
    rw [edges_eq, List.count_append, List.count_eq_zero_of_not_mem, Nat.zero_add]
    · exact List.nodup_iff_count_le_one.1 (nodup_linkEdges hheap) _
    · intro hvariable
      obtain ⟨entry, -, heq⟩ := List.mem_map.1 hvariable
      exact nomatch congrArg Edge.source heq

/-- **Which pointers there are.**  First there is one for each variable whose target spells an
address, in the order of the records; then, object by object in the order of the heap, one for each
object of the heap that a token of the value names, in the order in which they are first named.
Targets are in canonical spelling and never null, and a pointer of an object goes from an object to
an object and occurs once. -/
theorem ofRecords_edges (records : List Record) :
    ∃ (pointers : List (Record × Nat)) (links : List (HeapObject × List HeapObject)),
      (ofRecords records).edges =
        pointers.map (fun (r, n) =>
            { source := .variable r.frameLabel r.name, target := Address.text n }) ++
          links.flatMap (fun (o, targets) =>
            targets.map fun p => { source := .heap o.address, target := p.address }) ∧
      pointers.map Prod.fst = records.filter (fun r => ∃ n, r.PointsTo n) ∧
      (∀ r n, (r, n) ∈ pointers → r.PointsTo n) ∧
      links.map Prod.fst = (ofRecords records).heap ∧
      (∀ o targets, (o, targets) ∈ links →
        ∃ tokens, (∀ found, Scan o.displayValue found ↔ found = tokens) ∧ targets.Nodup ∧
          (∀ p, p ∈ targets ↔ p ∈ (ofRecords records).heap ∧ ∃ token ∈ tokens, p.NamedBy token) ∧
          targets.Pairwise fun p q => tokens.findIdx (fun token => p.NamedBy token) <
            tokens.findIdx fun token => q.NamedBy token) ∧
      ∀ e ∈ (ofRecords records).edges,
        (∃ n, 0 < n ∧ n < 2 ^ 64 ∧ e.target = Address.text n) ∧
        ∀ address, e.source = .heap address →
          (∃ o ∈ (ofRecords records).heap, o.address = address) ∧
            (∃ p ∈ (ofRecords records).heap, p.address = e.target) ∧
              (ofRecords records).edges.count e = 1 := by
  have hheap := nodup_addresses records
  refine ⟨pointers records, links (ofRecords records).heap, edges_eq records,
    map_fst_pointers records, fun _ _ => mem_pointers, ?heap, ?linked, fun e he => ⟨?target, ?once⟩⟩
  case heap =>
    rw [links, List.map_map]
    exact List.map_id _
  case linked =>
    intro o targets ho
    obtain ⟨o, -, heq⟩ := List.mem_map.1 ho
    obtain ⟨rfl, rfl⟩ := Prod.mk.inj heq
    exact ⟨addressTokens o.displayValue, fun _ => scan_iff, nodup_mentioned _ _,
      fun _ => mem_mentioned_iff hheap, pairwise_mentioned hheap _⟩
  case target =>
    rcases mem_edges_iff.1 he with ⟨r, n, hr, rfl⟩ | ⟨o, -, p, hp, rfl⟩
    · obtain ⟨-, t, -, h0, hb, -⟩ := mem_pointers hr
      exact ⟨n, h0, hb, rfl⟩
    · exact exists_address_of_mem_heap ((mem_mentioned_iff hheap).1 hp).1
  case once => exact fun _ => heapEdge_of_mem he

end ObjectGraph

end Stepwise
