import Stepwise.Analysis.Scan
import Stepwise.Proofs.Tree

/-!
# Statements of functions

The walk over the statements of a function goes down through children, and it does not enter the
definition of another function.

Main definitions and statements:

* `Node.Inner`, `Node.mem_inner_iff`: the statements directly below a node, place by place;
* `Node.Reaches`, `Spot.reaches_of_mem_all`: the way from a node to the statements below it;
* `definitions`: the functions without errors, which are the ones that are looked through
  (`ofTree_functions` and its siblings);
* `sound_of_mem_spots`: their statements are nodes of the tree without errors;
* `mem_stepsAt`, `exists_mem_distinctSteps`: the steps at their statements, and which are kept.
-/

namespace Stepwise

namespace Syntax.Node

open Analysis

/-! ## 1. The way to a statement -/

/-- Whether a node of this kind has a body whose own kind the walk does not look at. -/
def hasBlock (kind : Kind) : Prop :=
  kind = .switchStatement ∨ kind = .tryStatement ∨ kind = .catchClause

instance (kind : Kind) : Decidable (hasBlock kind) := inferInstanceAs (Decidable (_ ∨ _))

/-- A way down through children.  It leaves no function definition, except one that stands as the
body of a switch, of a try statement or of a handler. -/
inductive Reaches : Node → Node → Prop
  | refl (n : Node) : Reaches n n
  | child {n c m : Node} : n.kind ≠ .functionDefinition → c ∈ n.children → Reaches c m → Reaches n m
  | body {n b c m : Node} : hasBlock n.kind → n.child? .body = some b → c ∈ b.children →
      Reaches c m → Reaches n m

namespace Reaches

theorem trans {k m n : Node} (h : k.Reaches m) (h' : m.Reaches n) : k.Reaches n := by
  induction h with
  | refl => exact h'
  | child hkind hc _ ih => exact .child hkind hc (ih h')
  | body hkind hb hc _ ih => exact .body hkind hb hc (ih h')

theorem single {n c : Node} (hkind : n.kind ≠ .functionDefinition) (hc : c ∈ n.children) :
    n.Reaches c := .child hkind hc (.refl c)

theorem mem_descendants {m n : Node} (h : n.Reaches m) : m ∈ n.descendants := by
  induction h with
  | refl n => exact mem_descendants_self n
  | child _ hc _ ih => exact Node.mem_descendants.2 (.inr ⟨_, hc, ih⟩)
  | body _ hb hc _ ih =>
    exact Node.mem_descendants.2 (.inr ⟨_, mem_children_of_child? hb,
      Node.mem_descendants.2 (.inr ⟨_, hc, ih⟩)⟩)

end Reaches

theorem mem_children_of_mem_blockSpots {n : Node} {s : Spot} (h : s ∈ n.blockSpots) :
    s.node ∈ n.children := by
  obtain ⟨c, hc, rfl⟩ := List.mem_map.1 h
  exact mem_children_of_named hc

theorem mem_children_of_mem_caseSpots {n : Node} {s : Spot} (h : s ∈ n.caseSpots) :
    s.node ∈ n.children := by
  obtain ⟨c, hc, rfl⟩ := List.mem_map.1 h
  exact (List.dropWhile_suffix _).mem (List.mem_of_mem_drop (List.mem_filter.1 hc).1)

theorem reaches_of_mem_bodySpots {n : Node} {b : Option Nat} {s : Spot} (h : s ∈ n.bodySpots b) :
    n.Reaches s.node := by
  rw [bodySpots] at h
  split at h
  · next hkind => exact .single (by simp [hkind]) (mem_children_of_mem_blockSpots h)
  · obtain rfl := List.mem_singleton.1 h
    exact .refl _

theorem reaches_of_branch? {n b : Node} (h : n.branch? = some b) : n.Reaches b := by
  rw [branch?] at h
  split at h
  · next hkind => exact .single (by simp [hkind]) (mem_children_of_named (List.mem_of_getLast? h))
  · obtain rfl := Option.some.inj h
    exact .refl _

/-- How a statement stands directly below a node. -/
inductive Inner (n : Node) (s : Spot) : Prop
  /-- In a block. -/
  | row (hkind : n.kind = .compoundStatement) (hs : s ∈ n.blockSpots)
  /-- In what is done if a condition holds. -/
  | consequence {b : Node} (hkind : n.kind = .ifStatement) (hb : n.child? .consequence = some b)
      (hs : s ∈ b.bodySpots none)
  /-- In what is done if it does not. -/
  | alternative {a b : Node} (hkind : n.kind = .ifStatement) (ha : n.child? .alternative = some a)
      (hb : a.branch? = some b) (hs : s ∈ b.bodySpots none)
  /-- In what a loop repeats. -/
  | loop {b : Node} (hkind : n.kind ∈ [.forStatement, .forRangeLoop, .whileStatement, .doStatement])
      (hb : n.child? .body = some b) (hs : s ∈ b.bodySpots n.loopBack?)
  /-- Behind the label of a case. -/
  | case {b label : Node} (hkind : n.kind = .switchStatement) (hb : n.child? .body = some b)
      (hlabel : label ∈ b.named) (hcase : label.kind = .caseStatement) (hs : s ∈ label.caseSpots)
  /-- In what is tried. -/
  | tried {b : Node} (hkind : n.kind = .tryStatement) (hb : n.child? .body = some b)
      (hs : s ∈ b.blockSpots)
  /-- In what a handler does. -/
  | handler {handler b : Node} (hkind : n.kind = .tryStatement) (hhandler : handler ∈ n.named)
      (hcatch : handler.kind = .catchClause) (hb : handler.child? .body = some b)
      (hs : s ∈ b.blockSpots)
  /-- Behind a label. -/
  | labeled {m : Node} (hkind : n.kind = .labeledStatement) (hm : n.named.getLast? = some m)
      (hs : s = ⟨m, .plain⟩)

/-- The statements directly below a node, place by place. -/
theorem mem_inner_iff {n : Node} {s : Spot} : s ∈ n.inner ↔ n.Inner s := by
  constructor
  · intro h
    unfold inner at h
    split at h
    · next hkind => exact .row hkind h
    · next hkind =>
      rcases List.mem_append.1 h with h | h
      · obtain ⟨b, hb, hs⟩ := List.mem_flatMap.1 h
        exact .consequence hkind (Option.mem_toList.1 hb) hs
      · obtain ⟨b, hb, hs⟩ := List.mem_flatMap.1 h
        obtain ⟨a, ha, hb⟩ := Option.bind_eq_some_iff.1 (Option.mem_toList.1 hb)
        exact .alternative hkind ha hb hs
    iterate 4
      · next hkind =>
        obtain ⟨b, hb, hs⟩ := List.mem_flatMap.1 h
        exact .loop (by simp [hkind]) (Option.mem_toList.1 hb) hs
    · next hkind =>
      obtain ⟨b, hb, hs⟩ := List.mem_flatMap.1 h
      obtain ⟨label, hlabel, hs⟩ := List.mem_flatMap.1 hs
      obtain ⟨hmem, hcase⟩ := List.mem_filter.1 hlabel
      exact .case hkind (Option.mem_toList.1 hb) hmem (by simpa using hcase) hs
    · next hkind =>
      rcases List.mem_append.1 h with h | h
      · obtain ⟨b, hb, hs⟩ := List.mem_flatMap.1 h
        exact .tried hkind (Option.mem_toList.1 hb) hs
      · obtain ⟨handler, hhandler, hs⟩ := List.mem_flatMap.1 h
        obtain ⟨b, hb, hs⟩ := List.mem_flatMap.1 hs
        obtain ⟨hmem, hcatch⟩ := List.mem_filter.1 hhandler
        exact .handler hkind hmem (by simpa using hcatch) (Option.mem_toList.1 hb) hs
    · next hkind =>
      obtain ⟨m, hm, rfl⟩ := List.mem_map.1 h
      exact .labeled hkind (Option.mem_toList.1 hm) rfl
    · cases h
  · intro h
    cases h with
    | row hkind hs => simpa [inner, hkind] using hs
    | consequence hkind hb hs => simp [inner, hkind, hb, hs]
    | alternative hkind ha hb hs => simp [inner, hkind, ha, hb, hs]
    | loop hkind hb hs =>
      simp only [List.mem_cons, List.not_mem_nil, or_false] at hkind
      rcases hkind with hkind | hkind | hkind | hkind <;> simp [inner, hkind, hb, hs]
    | case hkind hb hlabel hcase hs =>
      simp only [inner, hkind, hb, Option.toList_some, List.flatMap_singleton, List.mem_flatMap]
      exact ⟨_, List.mem_filter.2 ⟨hlabel, by simpa using hcase⟩, hs⟩
    | tried hkind hb hs => simp [inner, hkind, hb, hs]
    | handler hkind hhandler hcatch hb hs =>
      simp only [inner, hkind, List.mem_append, List.mem_flatMap]
      exact .inr ⟨_, List.mem_filter.2 ⟨hhandler, by simpa using hcatch⟩, _,
        Option.mem_toList.2 hb, hs⟩
    | labeled hkind hm hs => simp [inner, hkind, hm, hs]

/-- The statements directly below a node are reached from it. -/
theorem reaches_of_mem_inner {n : Node} {s : Spot} (h : s ∈ n.inner) : n.Reaches s.node := by
  cases mem_inner_iff.1 h with
  | row hkind hs => exact .single (by simp [hkind]) (mem_children_of_mem_blockSpots hs)
  | consequence hkind hb hs =>
    exact .child (by simp [hkind]) (mem_children_of_child? hb) (reaches_of_mem_bodySpots hs)
  | alternative hkind ha hb hs =>
    exact .child (by simp [hkind]) (mem_children_of_child? ha)
      ((reaches_of_branch? hb).trans (reaches_of_mem_bodySpots hs))
  | loop hkind hb hs =>
    have hn : n.kind ≠ .functionDefinition := fun heq => by simp [heq] at hkind
    exact .child hn (mem_children_of_child? hb) (reaches_of_mem_bodySpots hs)
  | case hkind hb hlabel hcase hs =>
    refine .body (.inl hkind) hb (mem_children_of_named hlabel) ?_
    exact .single (by simp [hcase]) (mem_children_of_mem_caseSpots hs)
  | tried hkind hb hs =>
    exact .body (.inr (.inl hkind)) hb (mem_children_of_mem_blockSpots hs) (.refl _)
  | handler hkind hhandler hcatch hb hs =>
    refine .child (by simp [hkind]) (mem_children_of_named hhandler) ?_
    exact .body (.inr (.inr hcatch)) hb (mem_children_of_mem_blockSpots hs) (.refl _)
  | labeled hkind hm hs =>
    rw [hs]
    exact .single (by simp [hkind]) (mem_children_of_named (List.mem_of_getLast? hm))

end Syntax.Node

namespace Analysis

open Syntax

/-! ## 2. All statements below a statement -/

namespace Spot

theorem all_eq (s : Spot) : s.all = s :: s.node.inner.flatMap all := by
  rw [all]
  simp [List.flatMap_def]

theorem mem_all {s t : Spot} : t ∈ s.all ↔ t = s ∨ ∃ u ∈ s.node.inner, t ∈ u.all := by
  rw [all_eq, List.mem_cons, List.mem_flatMap]

theorem mem_all_self (s : Spot) : s ∈ s.all := mem_all.2 (.inl rfl)

/-- What holds of a statement if it holds of those directly below it holds of every statement. -/
theorem induction_on_inner {P : Spot → Prop} (h : ∀ s, (∀ t ∈ s.node.inner, P t) → P s)
    (s : Spot) : P s :=
  h s fun t ht =>
    have : sizeOf t.node < sizeOf s.node := Node.sizeOf_lt_of_mem_inner ht
    induction_on_inner h t
termination_by sizeOf s.node

theorem mem_all_of_mem_inner {s t u : Spot} (ht : t ∈ s.all) (hu : u ∈ t.node.inner) :
    u ∈ s.all := by
  induction s using induction_on_inner with
  | h s ih =>
    rcases mem_all.1 ht with rfl | ⟨v, hv, ht⟩
    · exact mem_all.2 (.inr ⟨u, hu, mem_all_self u⟩)
    · exact mem_all.2 (.inr ⟨v, hv, ih v hv ht⟩)

theorem mem_inner_of_mem_all {s t : Spot} (h : t ∈ s.all) :
    t = s ∨ ∃ u ∈ s.all, t ∈ u.node.inner := by
  induction s using induction_on_inner with
  | h s ih =>
    rcases mem_all.1 h with rfl | ⟨u, hu, ht⟩
    · exact .inl rfl
    · rcases ih u hu ht with rfl | ⟨v, hv, ht⟩
      · exact .inr ⟨s, mem_all_self s, hu⟩
      · exact .inr ⟨v, mem_all.2 (.inr ⟨u, hu, hv⟩), ht⟩

/-- All statements below a statement are reached from it. -/
theorem reaches_of_mem_all {s t : Spot} (h : t ∈ s.all) : s.node.Reaches t.node := by
  induction s using induction_on_inner with
  | h s ih =>
    rcases mem_all.1 h with rfl | ⟨u, hu, ht⟩
    · exact .refl _
    · exact (Node.reaches_of_mem_inner hu).trans (ih u hu ht)

/-- What holds of a node if it holds of the statements directly below it holds of every node. -/
theorem induction_on_node {P : Node → Prop} (h : ∀ n, (∀ s ∈ n.inner, P s.node) → P n) (n : Node) :
    P n :=
  induction_on_inner (P := fun s => P s.node) (fun s => h s.node) ⟨n, .plain⟩

end Spot

/-! ## 3. The functions that are looked through -/

/-- The function that is defined at a node without error. -/
def Definition.sound? (source : Text) (n : Node) : Option Definition :=
  if n.head.hasError then none else Definition.ofNode? source n

/-- The functions of a tree that are looked through, in order. -/
def definitions (source : Text) (root : Node) : List Definition :=
  root.descendants.filterMap (Definition.sound? source)

theorem definitions_eq (source : Text) (n : Node) :
    definitions source n =
      (Definition.sound? source n).toList ++ n.children.flatMap (definitions source) := by
  rw [definitions, Node.descendants_eq, List.filterMap_cons, List.filterMap_flatMap]
  cases Definition.sound? source n <;> rfl

/-- A function that is looked through is defined at a node without error, and its body is a
block. -/
theorem Definition.sound?_eq_some {source : Text} {n : Node} {d : Definition}
    (h : sound? source n = some d) :
    n.head.hasError = false ∧ n.kind = .functionDefinition ∧ n.child? .body = some d.body ∧
      d.body.kind = .compoundStatement ∧ d.function.body = d.body.span := by
  rw [sound?] at h
  split at h
  · cases h
  · next hsound =>
    rw [ofNode?] at h
    split at h
    · next hkind =>
      obtain ⟨f, hf, h⟩ := Option.bind_eq_some_iff.1 h
      obtain ⟨body, hbody, rfl⟩ := Option.map_eq_some_iff.1 h
      simp only [Function.ofNode?, hbody, Option.bind_eq_bind, Option.bind_some,
        Option.bind_eq_some_iff] at hf
      obtain ⟨_, hblock, _, -, _, -, _, -, hf⟩ := hf
      have hblock : body.kind = .compoundStatement := by
        unfold guard at hblock
        split at hblock
        · assumption
        · cases hblock
      exact ⟨by simpa using hsound, hkind, hbody, hblock, (Option.some.inj hf) ▸ rfl⟩
    · cases h

theorem exists_of_mem_definitions {source : Text} {root : Node} {d : Definition}
    (h : d ∈ definitions source root) :
    ∃ n ∈ root.descendants, Definition.sound? source n = some d :=
  List.mem_filterMap.1 h

section OfTree

variable (source : Text) (root : Node)

/-- The functions of an analysis without errors are those that are looked through. -/
theorem sound_eq_definitions :
    ((((root.descendants.filterMap fun n =>
      (Definition.ofNode? source n).map fun d => (n.head.hasError, d)).filter (!·.1)).map
        Prod.snd)) = definitions source root := by
  rw [definitions, List.filter_filterMap, List.map_filterMap]
  refine List.filterMap_congr fun n _ => ?_
  rw [Definition.sound?]
  cases Definition.ofNode? source n <;> cases n.head.hasError <;> rfl

theorem ofTree_functions :
    (ofTree source root).functions = (definitions source root).map Definition.function :=
  congrArg (List.map Definition.function) (sound_eq_definitions source root)

theorem ofTree_loops :
    (ofTree source root).loops = (definitions source root).flatMap (Definition.loops source) :=
  congrArg (List.flatMap (Definition.loops source)) (sound_eq_definitions source root)

theorem ofTree_bareBodies :
    (ofTree source root).bareBodies =
      ((definitions source root).flatMap Definition.spots).filterMap BareBody.ofSpot? :=
  congrArg (fun ds : List Definition => (ds.flatMap Definition.spots).filterMap BareBody.ofSpot?)
    (sound_eq_definitions source root)

theorem ofTree_declarations :
    (ofTree source root).declarations =
      (definitions source root).flatMap (Definition.declarations source) :=
  congrArg (List.flatMap (Definition.declarations source)) (sound_eq_definitions source root)

theorem ofTree_steps :
    (ofTree source root).steps =
      (distinctSteps (((definitions source root).flatMap Definition.spots).flatMap
        (stepsAt source))).mergeSort fun s t => s.offset ≤ t.offset :=
  congrArg (fun ds : List Definition => (distinctSteps ((ds.flatMap Definition.spots).flatMap
      (stepsAt source))).mergeSort fun s t => s.offset ≤ t.offset)
    (sound_eq_definitions source root)

end OfTree

/-- The statements of a function are nodes below its definition. -/
theorem mem_descendants_of_mem_spots {source : Text} {n : Node} {d : Definition}
    (h : Definition.sound? source n = some d) {s : Spot} (hs : s ∈ d.spots) :
    s.node ∈ n.descendants := by
  obtain ⟨-, -, hbody, -, -⟩ := Definition.sound?_eq_some h
  obtain ⟨t, ht, hs⟩ := List.mem_flatMap.1 hs
  exact Node.mem_descendants_trans
    (Node.mem_descendants_of_mem_children
      (Node.mem_descendants_of_mem_children (Node.mem_descendants_self n)
        (Node.mem_children_of_child? hbody))
      (Node.mem_children_of_mem_blockSpots ht))
    (Spot.reaches_of_mem_all hs).mem_descendants

/-- **The statements that are looked through** are nodes of the tree without errors. -/
theorem sound_of_mem_spots {source : Text} {root : Node} (h : root.Parsed source) {d : Definition}
    (hd : d ∈ definitions source root) {s : Spot} (hs : s ∈ d.spots) :
    s.node ∈ root.descendants ∧ s.node.head.hasError = false := by
  obtain ⟨n, hn, hdef⟩ := exists_of_mem_definitions hd
  have hsound := (Definition.sound?_eq_some hdef).1
  have hmem := mem_descendants_of_mem_spots hdef hs
  exact ⟨Node.mem_descendants_trans hn hmem, (h.of_mem hn).sound_of_mem hsound hmem⟩

/-! ## 4. Steps -/

/-- The steps at a statement: its own if it is of a kind that has one, and that of a loop which
announces its line behind its body. -/
theorem mem_stepsAt {source : Text} {s : Spot} {t : Step} :
    t ∈ stepsAt source s ↔
      (s.node.kind.isStep ∧ t = ⟨.statement, s.node.start, s.node.line⟩) ∨
      ∃ l line offset, Loop.ofNode? source s.node = some l ∧ s.node.loopBack? = some line ∧
        l.bodyExit? = some offset ∧ t = ⟨.loopBack, offset, line⟩ := by
  rw [stepsAt, List.mem_append, Option.mem_toList, Option.mem_toList]
  refine or_congr ?_ ?_
  · rw [statementStep?]
    split
    · next hkind => simp [hkind, eq_comm]
    · next hkind => simp [hkind]
  · simp only [loopBackStep?, Option.bind_eq_bind, Option.bind_eq_some_iff, pure,
      Option.some.injEq, eq_comm (a := t)]
    exact ⟨fun ⟨l, hl, line, hline, offset, hoffset, ht⟩ =>
        ⟨l, line, offset, hl, hline, hoffset, ht⟩,
      fun ⟨l, line, offset, hl, hline, hoffset, ht⟩ =>
        ⟨l, hl, line, hline, offset, hoffset, ht⟩⟩

theorem distinctSteps_sublist (ss : List Step) : (distinctSteps ss).Sublist ss := by
  induction ss with
  | nil => exact .slnil
  | cons s ss ih => exact (List.filter_sublist.trans ih).cons_cons s

/-- For a statement step that is left out another one at its offset is kept. -/
theorem exists_mem_distinctSteps {ss : List Step} {s : Step} (hs : s ∈ ss)
    (hkind : s.kind = .statement) :
    ∃ t ∈ distinctSteps ss, t.kind = .statement ∧ t.offset = s.offset := by
  induction ss with
  | nil => cases hs
  | cons u ss ih =>
    rw [distinctSteps]
    rcases List.mem_cons.1 hs with rfl | hs
    · exact ⟨s, List.mem_cons_self, hkind, rfl⟩
    · obtain ⟨t, ht, htkind, hoffset⟩ := ih hs
      by_cases hsame : u.kind = .statement ∧ u.offset = t.offset
      · exact ⟨u, List.mem_cons_self, hsame.1, hsame.2.trans hoffset⟩
      · refine ⟨t, List.mem_cons_of_mem _ (List.mem_filter.2 ⟨ht, ?_⟩), htkind, hoffset⟩
        rw [not_and_or] at hsame
        simpa [htkind] using hsame

theorem exists_spot_of_mem_steps {source : Text} {root : Node} {s : Step}
    (h : s ∈ (ofTree source root).steps) :
    ∃ d ∈ definitions source root, ∃ t ∈ d.spots, s ∈ stepsAt source t := by
  rw [ofTree_steps, List.mem_mergeSort] at h
  obtain ⟨t, ht, hs⟩ := List.mem_flatMap.1 ((distinctSteps_sublist _).subset h)
  obtain ⟨d, hd, ht⟩ := List.mem_flatMap.1 ht
  exact ⟨d, hd, t, ht, hs⟩

end Analysis

end Stepwise
