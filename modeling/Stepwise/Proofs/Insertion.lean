import Stepwise.Instrument.Program
import Stepwise.Proofs.Statements

/-!
# Instrumenting only inserts

Every edit of an analysis is an insertion.  On a tree of a parse the insertions stand between the
characters of the source, and so instrumenting never fails and keeps the whole source.

Main statements:

* `Analysis.mem_edits`, `Analysis.insertion_of_mem_edits`: the edits of an analysis, kind by kind,
  all of them insertions;
* `Analysis.inFunction_of_mem_edits`: they stand at nodes of functions without errors, or where a
  printer is declared, and so at offsets of the source (`Analysis.isOffset_of_mem_edits`);
* `Snippet.printerHead_isInfix_printer`: a printer defines `operator<<` for its aggregate;
* `Instrumented.ofSource_of_parsed`: the instrumented program is the source cut into pieces, with
  the texts of the edits between them and the printers behind it.
-/

namespace Stepwise

open Syntax

/-! ## 1. The edits of an analysis -/

theorem mapM_eq_some_iff {α β : Type} {f : α → Option β} {l : List α} {r : List β} :
    l.mapM f = some r ↔ l.map f = r.map some := by
  induction l generalizing r with
  | nil => cases r <;> simp
  | cons a l ih =>
    cases r with
    | nil => simp [Option.bind_eq_some_iff]
    | cons b r => simp [Option.bind_eq_some_iff, ih]

theorem exists_mapM {α β : Type} {f : α → Option β} {l : List α} (h : ∀ a ∈ l, (f a).isSome) :
    ∃ r, l.mapM f = some r := by
  induction l with
  | nil => exact ⟨[], rfl⟩
  | cons a l ih =>
    obtain ⟨b, hb⟩ := Option.isSome_iff_exists.1 (h a List.mem_cons_self)
    obtain ⟨r, hr⟩ := ih fun c hc => h c (List.mem_cons_of_mem _ hc)
    exact ⟨b :: r, by simp [hb, hr]⟩

namespace Analysis

/-- The edits of the loops of an analysis. -/
theorem mem_flatten_loops {loops : List Loop} {ess : List (List Edit)}
    (h : loops.mapM Collect.loopEdits? = some ess) {e : Edit} :
    e ∈ ess.flatten ↔ ∃ l ∈ loops, ∃ es, Collect.loopEdits? l = some es ∧ e ∈ es := by
  have hsome : ∀ es, es ∈ ess ↔ ∃ l ∈ loops, Collect.loopEdits? l = some es := fun es => by
    have := congrArg (some es ∈ ·) (mapM_eq_some_iff.1 h)
    simpa using this.symm
  simp only [List.mem_flatten, hsome]
  exact ⟨fun ⟨es, ⟨l, hl, hes⟩, he⟩ => ⟨l, hl, es, hes, he⟩,
    fun ⟨l, hl, es, hes, he⟩ => ⟨es, ⟨l, hl, hes⟩, he⟩⟩

/-- The edits of an analysis are the braces of its bodies, innermost first, and those that come from
its other places. -/
theorem exists_edits_eq {a : Analysis} {edits : List Edit} (h : a.edits? = some edits) :
    ∃ rest, edits = a.bareBodies.reverse.flatMap Collect.braces ++ rest ∧ ∀ e, e ∈ rest ↔
      (∃ f ∈ a.functions, Collect.functionEdit f = e) ∨
      (∃ l ∈ a.loops, ∃ es, Collect.loopEdits? l = some es ∧ e ∈ es) ∨
      (∃ s ∈ a.steps, Collect.stepEdit? s = some e) ∨
      (∃ d ∈ a.declarations, e ∈ Collect.declarationEdits d) ∨
      ∃ g ∈ a.aggregates, Collect.prototypeEdit? g = some e := by
  obtain ⟨loops, hloops, rfl⟩ := Option.map_eq_some_iff.1 h
  refine ⟨a.functions.map Collect.functionEdit ++ loops.flatten ++
    a.steps.filterMap Collect.stepEdit? ++ a.declarations.flatMap Collect.declarationEdits ++
    a.aggregates.filterMap Collect.prototypeEdit?, by simp only [List.append_assoc], fun e => ?_⟩
  simp only [List.mem_append, List.mem_flatMap, List.mem_map, List.mem_filterMap,
    mem_flatten_loops hloops, or_assoc]

/-- The edits of an analysis come from its places. -/
theorem mem_edits {a : Analysis} {edits : List Edit} (h : a.edits? = some edits) {e : Edit} :
    e ∈ edits ↔
      (∃ b ∈ a.bareBodies, e ∈ Collect.braces b) ∨
      (∃ f ∈ a.functions, Collect.functionEdit f = e) ∨
      (∃ l ∈ a.loops, ∃ es, Collect.loopEdits? l = some es ∧ e ∈ es) ∨
      (∃ s ∈ a.steps, Collect.stepEdit? s = some e) ∨
      (∃ d ∈ a.declarations, e ∈ Collect.declarationEdits d) ∨
      ∃ g ∈ a.aggregates, Collect.prototypeEdit? g = some e := by
  obtain ⟨rest, rfl, hrest⟩ := exists_edits_eq h
  simp only [List.mem_append, List.mem_flatMap, List.mem_reverse, hrest]

theorem exists_loopEdits {a : Analysis} {edits : List Edit} (h : a.edits? = some edits) {l : Loop}
    (hl : l ∈ a.loops) : ∃ es, Collect.loopEdits? l = some es := by
  obtain ⟨loops, hloops, -⟩ := Option.map_eq_some_iff.1 h
  have := congrArg (Collect.loopEdits? l ∈ ·) (mapM_eq_some_iff.1 hloops)
  simp only [List.mem_map, eq_iff_iff] at this
  obtain ⟨es, -, hes⟩ := this.1 ⟨l, hl, rfl⟩
  exact ⟨es, hes.symm⟩

end Analysis

namespace Collect

open Analysis

/-- What is put in for a loop. -/
theorem mem_loopEdits? {l : Loop} {es : List Edit} (h : loopEdits? l = some es) {e : Edit} :
    e ∈ es ↔
      (l.isBlock ∧ l.kind ≠ .counted ∧ l.body.stop ≠ 0 ∧
        e = put .loopBack (l.body.stop - 1) (.plain (" " ++ Snippet.step l.line))) ∨
      (∃ name, l.variableName = some name ∧ e = put .loopVariable l.bodyEntry (.tracker name)) ∨
      ∃ offset, l.kind = .counted ∧ l.updateAt? = some offset ∧
        e = put .beforeStep offset (.plain (Snippet.iteration l)) := by
  obtain ⟨back, hback, rfl⟩ := Option.map_eq_some_iff.1 h
  rw [List.mem_append, loopHeaderEdits, List.mem_append]
  refine or_congr ?_ (or_congr (by simp [eq_comm]) ?_)
  · rw [loopBackEdit?] at hback
    split at hback
    · next hloop =>
      obtain ⟨offset, hexit, rfl⟩ := Option.map_eq_some_iff.1 hback
      rw [Loop.bodyExit?, if_pos hloop.2] at hexit
      split at hexit
      · cases hexit
      · next hstop =>
        obtain rfl := Option.some.inj hexit
        rw [List.mem_singleton]
        exact ⟨fun he => ⟨hloop.2, hloop.1, hstop, he⟩, fun he => he.2.2.2⟩
    · next hloop =>
      obtain rfl := Option.some.inj hback
      exact ⟨fun he => absurd he List.not_mem_nil, fun he => absurd ⟨he.2.1, he.1⟩ hloop⟩
  · split
    · next hcounted => simp [hcounted, eq_comm]
    · next hcounted => simp [hcounted]

/-- A loop has its edits, unless its block ends at offset 0. -/
theorem isSome_loopEdits? {l : Loop} (h : l.isBlock → l.body.stop ≠ 0) :
    (loopEdits? l).isSome := by
  rw [loopEdits?, Option.isSome_map, loopBackEdit?]
  split
  · next hloop =>
    rw [Option.isSome_map, Loop.bodyExit?, if_pos hloop.2, if_neg (h hloop.2)]
    rfl
  · rfl

end Collect

namespace Analysis

/-- **Every edit of an analysis is an insertion.** -/
theorem insertion_of_mem_edits {a : Analysis} {edits : List Edit} (h : a.edits? = some edits) :
    ∀ e ∈ edits, e.stop = e.start := by
  intro e he
  rcases (mem_edits h).1 he with ⟨b, -, he⟩ | ⟨f, -, rfl⟩ | ⟨l, -, es, hes, he⟩ | ⟨s, -, he⟩ |
    ⟨d, -, he⟩ | ⟨g, -, he⟩
  · simp only [Collect.braces, List.mem_cons, List.not_mem_nil, or_false] at he
    rcases he with rfl | rfl <;> rfl
  · rfl
  · rcases (Collect.mem_loopEdits? hes).1 he with
      ⟨-, -, -, rfl⟩ | ⟨name, -, rfl⟩ | ⟨offset, -, -, rfl⟩ <;> rfl
  · rw [Collect.stepEdit?] at he
    split at he
    · exact Option.some.inj he ▸ rfl
    · cases he
  · obtain ⟨name, -, rfl⟩ := List.mem_map.1 he
    rfl
  · obtain ⟨offset, -, rfl⟩ := Option.map_eq_some_iff.1 he
    rfl

end Analysis

/-! ## 2. Where the edits stand -/

namespace Analysis

/-- What a loop statement says of its body and its header. -/
theorem Loop.ofNode?_eq_some {source : Text} {n : Node} {l : Loop} (h : ofNode? source n = some l) :
    ∃ body, n.child? .body = some body ∧ l.body = body.span ∧
      l.isBlock = decide (body.kind = .compoundStatement) ∧ n.kind.loopKind? = some l.kind ∧
      l.line = n.line ∧
      ∀ offset, l.updateAt? = some offset → ∃ c ∈ n.children, offset = c.start ∨ offset = c.stop := by
  simp only [ofNode?, Option.bind_eq_bind, Option.bind_eq_some_iff] at h
  obtain ⟨kind, hkind, body, hbody, h⟩ := h
  obtain rfl := Option.some.inj h
  refine ⟨body, hbody, rfl, rfl, hkind, rfl, fun offset hoffset => ?_⟩
  simp only at hoffset
  split at hoffset
  · rw [Option.orElse_eq_orElse, Option.orElse_eq_or, Option.or_eq_some_iff] at hoffset
    rcases hoffset with hoffset | ⟨-, hoffset⟩
    · obtain ⟨c, hc, rfl⟩ := Option.map_eq_some_iff.1 hoffset
      exact ⟨c, Node.mem_children_of_child? hc, .inr rfl⟩
    · obtain ⟨c, hc, rfl⟩ := Option.map_eq_some_iff.1 hoffset
      exact ⟨c, (List.mem_filter.1 (List.mem_of_getLast? hc)).1, .inl rfl⟩
  · cases hoffset

/-- The end of the declaration in which an aggregate is defined is the end of a node below the same
nodes, or of the one above. -/
theorem exists_of_declarationEnd? {root : Node} {p : Place} (hp : p ∈ root.places) {offset : Nat}
    (h : declarationEnd? p = some offset) :
    ∃ q ∈ root.places, q.node.stop = offset ∧ q.ancestors ⊆ p.ancestors := by
  have hparent : ∀ {k}, ((p.ancestors.head?).bind fun parent =>
      if parent.kind = .declaration ∨ parent.kind = .typeDefinition then some parent.stop
      else none) = some k → ∃ q ∈ root.places, q.node.stop = k ∧ q.ancestors ⊆ p.ancestors := by
    intro k hk
    obtain ⟨parent, hparent, hk⟩ := Option.bind_eq_some_iff.1 hk
    obtain ⟨above, habove⟩ := List.head?_eq_some_iff.1 hparent
    obtain ⟨q, hq, rfl, rfl⟩ := Place.exists_parent hp habove
    split at hk
    · exact ⟨q, hq, Option.some.inj hk, habove ▸ List.subset_cons_self _ _⟩
    · cases hk
  simp only [declarationEnd?] at h
  split at h
  · next next hn =>
    split at h
    · obtain ⟨q, hq, rfl, hsame⟩ := Place.exists_next hp hn
      exact ⟨q, hq, Option.some.inj h, hsame ▸ List.Subset.refl _⟩
    · exact hparent h
  · exact hparent h

/-- What an aggregate that can be printed says of its place. -/
theorem Aggregate.ofPlace?_eq_some {source : Text} {p : Place} {a : Aggregate}
    (h : ofPlace? source p = some a) :
    (∀ n ∈ p.ancestors, ¬ hidesAggregates n.kind) ∧ a.prototypeAt? = declarationEnd? p ∧
      ∃ body, p.node.child? .body = some body ∧
        a.members = (body.named.filter fun m =>
          m.kind = .fieldDeclaration && !isStatic source m).flatMap (Member.ofNode source) := by
  simp only [ofPlace?, Option.bind_eq_bind, Option.bind_eq_some_iff, Option.guard_eq_some',
    Bool.and_eq_true, Bool.not_eq_true', List.any_eq_false] at h
  obtain ⟨name, -, _, ⟨-, hplace⟩, body, hbody, _, -, ha⟩ := h
  obtain rfl := Option.some.inj ha
  exact ⟨hplace, rfl, body, hbody, rfl⟩

/-- The declarations of printers stand where nodes end that are in no function. -/
theorem exists_of_mem_aggregates {source : Text} {root : Node} {g : Aggregate}
    (hg : g ∈ (ofTree source root).aggregates) {offset : Nat}
    (hoffset : g.prototypeAt? = some offset) :
    ∃ q ∈ root.places, q.node.stop = offset ∧ ∀ a ∈ q.ancestors, ¬ hidesAggregates a.kind := by
  obtain ⟨p, hp, hg⟩ := List.mem_filterMap.1 (List.mem_filter.1 hg).1
  obtain ⟨hplace, hend, -⟩ := Aggregate.ofPlace?_eq_some hg
  obtain ⟨q, hq, hstop, hsub⟩ :=
    exists_of_declarationEnd? (List.mem_filter.1 hp).1 (hend ▸ hoffset)
  exact ⟨q, hq, hstop, fun a ha => hplace a (hsub ha)⟩

/-- The offsets that a node gives: its ends, and those between the braces of a sound block and what
is in it. -/
def Anchors (n : Node) (offset : Nat) : Prop :=
  offset = n.start ∨ offset = n.stop ∨
    n.kind = .compoundStatement ∧ n.head.hasError = false ∧
      (offset = n.start + 1 ∨ offset = n.stop - 1)

section Parsed

variable {source : Text} {root : Node} (h : root.Parsed source)
include h

/-- A sound block has room for its braces, and the places behind the one and in front of the other
are offsets. -/
theorem isOffset_block {n : Node} (hn : n ∈ root.descendants) (hkind : n.kind = .compoundStatement)
    (hsound : n.head.hasError = false) :
    source.IsOffset (n.start + 1) ∧ source.IsOffset (n.stop - 1) ∧ n.start + 1 < n.stop := by
  obtain ⟨opening, inner, closing, hchildren, ⟨-, -, hopening⟩, -, hclosing, -⟩ :=
    h.exists_braces hn hkind hsound
  have hopen := h.isOffset (Node.mem_descendants_of_mem_children hn (c := opening)
    (by simp [hchildren]))
  have hclose := h.isOffset (Node.mem_descendants_of_mem_children hn (c := closing)
    (by simp [hchildren]))
  have hordered : opening.stop ≤ closing.start := by
    have hpairwise := h.ordered n hn
    rw [hchildren] at hpairwise
    exact (List.pairwise_cons.1 hpairwise).1 closing (by simp)
  refine ⟨hopening ▸ hopen.2, ?_, by omega⟩
  rw [← hclosing, Nat.add_sub_cancel]
  exact hclose.1

/-- The offsets that a node gives are offsets of the source, and none lies outside of the node. -/
theorem isOffset_of_anchors {n : Node} (hn : n ∈ root.descendants) {offset : Nat}
    (hat : Anchors n offset) :
    source.IsOffset offset ∧ n.start ≤ offset ∧ offset ≤ n.stop := by
  have hends := h.isOffset hn
  have hle := h.start_le_stop hn
  rcases hat with rfl | rfl | ⟨hkind, hsound, rfl | rfl⟩
  · exact ⟨hends.1, Nat.le_refl _, hle⟩
  · exact ⟨hends.2, hle, Nat.le_refl _⟩
  · obtain ⟨hopen, -, hlt⟩ := isOffset_block h hn hkind hsound
    exact ⟨hopen, by omega, by omega⟩
  · obtain ⟨-, hclose, hlt⟩ := isOffset_block h hn hkind hsound
    exact ⟨hclose, by omega, by omega⟩

end Parsed

/-- The offset is given by a node of a function that is looked through. -/
def InFunction (source : Text) (root : Node) (offset : Nat) : Prop :=
  ∃ m ∈ root.descendants, (Definition.sound? source m).isSome ∧
    ∃ n ∈ m.descendants, Anchors n offset

section OfTree

variable {source : Text} {root : Node}

theorem mem_loops_iff {l : Loop} :
    l ∈ (ofTree source root).loops ↔
      ∃ d ∈ definitions source root, ∃ s ∈ d.spots, Loop.ofNode? source s.node = some l := by
  simp only [ofTree_loops, List.mem_flatMap, Definition.loops, List.mem_filterMap]

/-- The bodies without braces are statements of the functions that are looked through. -/
theorem exists_of_mem_bareBodies {b : BareBody} (hb : b ∈ (ofTree source root).bareBodies) :
    ∃ d ∈ definitions source root, ∃ s ∈ d.spots, b.span = s.node.span := by
  rw [ofTree_bareBodies] at hb
  obtain ⟨s, hs, hb⟩ := List.mem_filterMap.1 hb
  obtain ⟨d, hd, hs⟩ := List.mem_flatMap.1 hs
  refine ⟨d, hd, s, hs, ?_⟩
  rw [BareBody.ofSpot?] at hb
  split at hb
  · cases hb
  · exact Option.some.inj hb ▸ rfl

/-- The steps of statements stand where statements start. -/
theorem exists_of_mem_steps {t : Step} (ht : t ∈ (ofTree source root).steps)
    (hkind : t.kind = .statement) :
    ∃ d ∈ definitions source root, ∃ s ∈ d.spots, t.offset = s.node.start := by
  obtain ⟨d, hd, s, hs, hat⟩ := exists_spot_of_mem_steps ht
  refine ⟨d, hd, s, hs, ?_⟩
  rcases mem_stepsAt.1 hat with ⟨-, rfl⟩ | ⟨l, line, offset, -, -, -, rfl⟩
  · rfl
  · cases hkind

/-- The trackers of declarations stand where declarations end. -/
theorem exists_of_mem_declarations {t : Declaration}
    (ht : t ∈ (ofTree source root).declarations) :
    ∃ d ∈ definitions source root, ∃ s ∈ d.spots, t.offset = s.node.stop := by
  rw [ofTree_declarations] at ht
  obtain ⟨d, hd, ht⟩ := List.mem_flatMap.1 ht
  obtain ⟨whole, hwhole, ht⟩ := List.mem_filterMap.1 ht
  obtain ⟨s, hs, hwhole⟩ := List.mem_filterMap.1 hwhole
  refine ⟨d, hd, s, hs, ?_⟩
  have hoffset : t.offset = whole.offset := by
    rw [Declaration.without?] at ht
    split at ht
    · cases ht
    · exact Option.some.inj ht ▸ rfl
  rw [hoffset]
  simp only [Declaration.ofNode?] at hwhole
  split at hwhole
  · split at hwhole
    · cases hwhole
    · exact Option.some.inj hwhole ▸ rfl
  · cases hwhole

/-- What the statements of a function give is given by its nodes. -/
theorem inFunction_of_mem_spots {d : Definition} (hd : d ∈ definitions source root) {s : Spot}
    (hs : s ∈ d.spots) {n : Node} (hn : n = s.node ∨ n ∈ s.node.children) {offset : Nat}
    (hat : Anchors n offset) : InFunction source root offset := by
  obtain ⟨m, hm, hdef⟩ := exists_of_mem_definitions hd
  have hspot := mem_descendants_of_mem_spots hdef hs
  refine ⟨m, hm, Option.isSome_iff_exists.2 ⟨d, hdef⟩, n, ?_, hat⟩
  rcases hn with rfl | hn
  · exact hspot
  · exact Node.mem_descendants_of_mem_children hspot hn

end OfTree

section Parsed

variable {source : Text} {root : Node} (h : root.Parsed source)
include h

/-- A loop of a tree of a parse has its edits. -/
theorem isSome_edits? : (ofTree source root).edits?.isSome := by
  rw [edits?, Option.isSome_map]
  have hloops : ∀ l ∈ (ofTree source root).loops, (Collect.loopEdits? l).isSome := by
    intro l hl
    obtain ⟨d, hd, s, hs, hof⟩ := mem_loops_iff.1 hl
    obtain ⟨hmem, hsound⟩ := sound_of_mem_spots h hd hs
    obtain ⟨body, hbody, hspan, hblock, -⟩ := Loop.ofNode?_eq_some hof
    have hchild := Node.mem_children_of_child? hbody
    refine Collect.isSome_loopEdits? fun hkind => ?_
    have hlt := (isOffset_block h (Node.mem_descendants_of_mem_children hmem hchild)
      (by simpa [hblock] using hkind) (h.errors s.node hmem hsound body hchild)).2.2
    rw [hspan]
    exact (Nat.zero_lt_of_lt hlt).ne'
  obtain ⟨r, hr⟩ := exists_mapM hloops
  rw [hr]
  rfl

/-- The entry of a function stands behind the brace that opens its body. -/
theorem inFunction_entry {f : Function} (hf : f ∈ (ofTree source root).functions) :
    InFunction source root f.entry := by
  rw [ofTree_functions] at hf
  obtain ⟨d, hd, rfl⟩ := List.mem_map.1 hf
  obtain ⟨m, hm, hdef⟩ := exists_of_mem_definitions hd
  obtain ⟨hsound, -, hbody, hkind, hspan⟩ := Definition.sound?_eq_some hdef
  have hchild := Node.mem_children_of_child? hbody
  refine ⟨m, hm, Option.isSome_iff_exists.2 ⟨d, hdef⟩, d.body,
    Node.mem_descendants_of_mem_children (Node.mem_descendants_self m) hchild,
    .inr (.inr ⟨hkind, h.errors m hm hsound d.body hchild, .inl ?_⟩)⟩
  rw [Function.entry, hspan]
  rfl

/-- The edits of a loop stand at its body and in its header. -/
theorem inFunction_of_mem_loopEdits {l : Loop} (hl : l ∈ (ofTree source root).loops)
    {es : List Edit} (hes : Collect.loopEdits? l = some es) {e : Edit} (he : e ∈ es) :
    InFunction source root e.start := by
  obtain ⟨d, hd, s, hs, hof⟩ := mem_loops_iff.1 hl
  obtain ⟨hmem, hsound⟩ := sound_of_mem_spots h hd hs
  obtain ⟨body, hbody, hspan, hblock, -, -, hupdate⟩ := Loop.ofNode?_eq_some hof
  have hchild := Node.mem_children_of_child? hbody
  have hbodySound := h.errors s.node hmem hsound body hchild
  rcases (Collect.mem_loopEdits? hes).1 he with ⟨hkind, -, -, rfl⟩ | ⟨name, -, rfl⟩ |
    ⟨offset, -, hoffset, rfl⟩
  · rw [hblock, decide_eq_true_eq] at hkind
    refine inFunction_of_mem_spots hd hs (.inr hchild)
      (.inr (.inr ⟨hkind, hbodySound, .inr ?_⟩))
    exact hspan ▸ rfl
  · refine inFunction_of_mem_spots hd hs (.inr hchild) ?_
    change Anchors body l.bodyEntry
    rw [Loop.bodyEntry, hspan]
    split
    · next hkind =>
      rw [hblock, decide_eq_true_eq] at hkind
      exact .inr (.inr ⟨hkind, hbodySound, .inl rfl⟩)
    · exact .inl rfl
  · obtain ⟨c, hc, hat⟩ := hupdate offset hoffset
    exact inFunction_of_mem_spots hd hs (.inr hc)
      (hat.elim (fun hat => .inl hat) fun hat => .inr (.inl hat))

/-- **Where the edits stand**: at nodes of functions that are looked through, and where a printer is
declared. -/
theorem inFunction_of_mem_edits {edits : List Edit}
    (hedits : (ofTree source root).edits? = some edits) {e : Edit} (he : e ∈ edits) :
    InFunction source root e.start ∨
      ∃ g ∈ (ofTree source root).aggregates, g.prototypeAt? = some e.start := by
  rcases (mem_edits hedits).1 he with ⟨b, hb, he⟩ | ⟨f, hf, rfl⟩ | ⟨l, hl, es, hes, he⟩ |
    ⟨t, ht, he⟩ | ⟨t, ht, he⟩ | ⟨g, hg, he⟩
  · obtain ⟨d, hd, s, hs, hspan⟩ := exists_of_mem_bareBodies hb
    simp only [Collect.braces, List.mem_cons, List.not_mem_nil, or_false, hspan] at he
    rcases he with rfl | rfl
    · exact .inl (inFunction_of_mem_spots hd hs (.inl rfl) (.inl rfl))
    · exact .inl (inFunction_of_mem_spots hd hs (.inl rfl) (.inr (.inl rfl)))
  · exact .inl (inFunction_entry h hf)
  · exact .inl (inFunction_of_mem_loopEdits h hl hes he)
  · rw [Collect.stepEdit?] at he
    split at he
    · next hkind =>
      obtain ⟨d, hd, s, hs, hat⟩ := exists_of_mem_steps ht hkind
      obtain rfl := Option.some.inj he
      exact .inl (inFunction_of_mem_spots hd hs (.inl rfl) (.inl hat))
    · cases he
  · obtain ⟨d, hd, s, hs, hat⟩ := exists_of_mem_declarations ht
    obtain ⟨name, -, rfl⟩ := List.mem_map.1 he
    exact .inl (inFunction_of_mem_spots hd hs (.inl rfl) (.inr (.inl hat)))
  · obtain ⟨offset, hoffset, rfl⟩ := Option.map_eq_some_iff.1 he
    exact .inr ⟨g, hg, hoffset⟩

/-- **The edits stand at offsets of the source.** -/
theorem isOffset_of_mem_edits {edits : List Edit}
    (hedits : (ofTree source root).edits? = some edits) :
    ∀ e ∈ edits, source.IsOffset e.start := by
  intro e he
  rcases inFunction_of_mem_edits h hedits he with ⟨m, hm, -, n, hn, hat⟩ | ⟨g, hg, hoffset⟩
  · exact (isOffset_of_anchors h (Node.mem_descendants_trans hm hn) hat).1
  · obtain ⟨q, hq, hend, -⟩ := exists_of_mem_aggregates hg hoffset
    exact hend ▸ (h.isOffset (List.mem_map_of_mem hq)).2

end Parsed

end Analysis

/-! ## 3. The instrumented program -/

namespace Analysis

/-- The edits of an analysis never clash, and as a set they are sorted. -/
theorem exists_editSet {a : Analysis} {edits : List Edit} (h : a.edits? = some edits) :
    ∃ set, a.editSet = .ok set ∧ set.OnlyInserts ∧ set.edits = edits.mergeSort Edit.before := by
  obtain ⟨set, hall, hset, hsorted⟩ := EditSet.addAll_eq_mergeSort (insertion_of_mem_edits h)
  refine ⟨set, ?_, hset, hsorted⟩
  rw [editSet, h]
  simp only [hall]
  rfl

/-- The set of an analysis is the sorted set of its edits. -/
theorem onlyInserts_of_editSet {a : Analysis} {set : EditSet} (h : a.editSet = .ok set) :
    ∃ edits, a.edits? = some edits ∧ set.OnlyInserts ∧
      set.edits = edits.mergeSort Edit.before := by
  obtain ⟨edits, hedits⟩ : ∃ edits, a.edits? = some edits := by
    rw [editSet] at h
    split at h
    · cases h
    · next edits hedits => exact ⟨edits, hedits⟩
  obtain ⟨set', hset', honly, hsorted⟩ := exists_editSet hedits
  obtain rfl : set' = set := Except.ok.inj (hset'.symm.trans h)
  exact ⟨edits, hedits, honly, hsorted⟩

end Analysis

namespace Snippet

/-- **A printer is never empty**: it holds the definition of `operator<<` for the type of its
aggregate. -/
theorem printerHead_isInfix_printer (a : Analysis.Aggregate) :
    printerHead a.name ++ (" \x7b\n" : Text) <:+: printer a :=
  ⟨'\n' :: ("// stream printer for " ++ a.name ++ ['\n']),
    "    os << \"\x7b\";\n" ++ (membersLines a.members ++ printerClosing).flatMap (· ++ ['\n']),
    by simp [printer, printerOpening]⟩

theorem printerHead_isInfix_of_mem {aggregates : List Analysis.Aggregate} {a : Analysis.Aggregate}
    (ha : a ∈ aggregates) : printerHead a.name <:+: aggregates.flatMap printer := by
  obtain ⟨front, behind, rfl⟩ := List.append_of_mem ha
  have hhead : printerHead a.name <:+: printer a :=
    (List.prefix_append _ _).isInfix.trans (printerHead_isInfix_printer a)
  exact hhead.trans ⟨front.flatMap printer, behind.flatMap printer, by simp⟩

end Snippet

namespace Instrumented

/-- What an instrumented program is made of. -/
theorem ofSource_eq_ok {source : Text} {root : Node} {i : Instrumented} :
    ofSource source root = .ok i ↔ ∃ set text,
      (Analysis.ofTree source root).editSet = .ok set ∧ set.splice? source = some text ∧
      i = { source := text ++ (Analysis.ofTree source root).aggregates.flatMap Snippet.printer
            analysis := Analysis.ofTree source root } := by
  unfold ofSource Analysis.edit
  cases hset : (Analysis.ofTree source root).editSet with
  | error f => simp [bind, Except.bind, hset]
  | ok set =>
    cases hsplice : set.splice? source with
    | none => simp [bind, Except.bind, hset, hsplice]
    | some text => simp [bind, Except.bind, hset, hsplice, pure, Except.pure, eq_comm]

/-- On a tree of a parse the edits are a set of insertions, which can be applied. -/
theorem exists_patches_of_parsed {source : Text} {root : Node} (h : root.Parsed source) :
    ∃ edits set first ps,
      (Analysis.ofTree source root).edits? = some edits ∧
      (Analysis.ofTree source root).editSet = .ok set ∧ set.OnlyInserts ∧
      set.edits = edits.mergeSort Edit.before ∧ ps.map Patch.site = set.sites ∧
      Patch.Fits (Text.byteLength first) ps ∧ source = first ++ Patch.plain ps ∧
      set.splice? source = some (first ++ Patch.edited ps) := by
  obtain ⟨edits, hedits⟩ := Option.isSome_iff_exists.1 (Analysis.isSome_edits? h)
  obtain ⟨set, heditSet, hset, hsorted⟩ := Analysis.exists_editSet hedits
  have hoffset : ∀ e ∈ set.edits, source.IsOffset e.start := by
    intro e he
    rw [hsorted, List.mem_mergeSort] at he
    exact Analysis.isOffset_of_mem_edits h hedits e he
  obtain ⟨first, ps, hps, hfits, hsource, hsplice⟩ := hset.exists_patches hoffset
  exact ⟨edits, set, first, ps, hedits, heditSet, hset, hsorted, hps, hfits, hsource, hsplice⟩

/-- **Instrumenting a tree of a parse only inserts.**  It never fails: the source is cut into
pieces, the texts of the edits are put between them, and the printers stand behind the last one, so
that `operator<<` is there for every aggregate. -/
theorem ofSource_of_parsed {source : Text} {root : Node} (h : root.Parsed source) :
    ∃ i edits first ps,
      ofSource source root = .ok i ∧ i.analysis = Analysis.ofTree source root ∧
      i.analysis.edits? = some edits ∧
      ps.flatMap (·.site.edits) = edits.mergeSort Edit.before ∧
      Patch.Fits (Text.byteLength first) ps ∧ (∀ p ∈ ps, p.gone = []) ∧
      source = first ++ ps.flatMap Patch.kept ∧
      i.source = first ++ ps.flatMap (fun p => p.site.text ++ p.kept) ++
        i.analysis.aggregates.flatMap Snippet.printer ∧
      ∀ a ∈ i.analysis.aggregates, Snippet.printerHead a.name <:+: i.source := by
  obtain ⟨edits, set, first, ps, hedits, heditSet, hset, hsorted, hps, hfits, hsource, hsplice⟩ :=
    exists_patches_of_parsed h
  have hgone := hset.gone_eq_nil hps hfits
  refine ⟨_, edits, first, ps, ofSource_eq_ok.2 ⟨set, _, heditSet, hsplice, rfl⟩, rfl, hedits, ?_,
    hfits, hgone, ?_, rfl, fun a ha => ?_⟩
  · rw [← hsorted, EditSet.edits, ← hps, List.flatMap_map]
  · rw [hsource, Patch.plain_eq hgone]
  · exact (Snippet.printerHead_isInfix_of_mem ha).trans (List.suffix_append _ _).isInfix

end Instrumented

namespace NestedBodies

/-! A loop without braces around a branch without braces; both bodies end at the same offset. -/

/-- The function. -/
def source : Text := "void f()\x7bwhile(1)if(2)g();\x7d"

/-- A node for a grammar rule. -/
def rule (kind : Kind) (role : Role) (start stop : Nat) (children : List Node) : Node :=
  .mk ⟨kind, role, true, false, ⟨start, stop⟩, 0⟩ children

/-- A bare token. -/
def token (text : Text) (start : Nat) : Node :=
  .mk ⟨.ofName text, .none, false, false, ⟨start, start + Text.byteLength text⟩, 0⟩ []

/-- A condition that is a digit. -/
def condition (start : Nat) : Node :=
  rule (.other "condition_clause") (.other "condition") start (start + 3)
    [token "(" start, rule (.other "number_literal") (.other "value") (start + 1) (start + 2) [],
      token ")" (start + 2)]

/-- The call in the branch. -/
def call : Node :=
  rule .expressionStatement .consequence 22 26
    [rule (.other "call_expression") .none 22 25
      [rule .identifier (.other "function") 22 23 [],
        rule (.other "argument_list") (.other "arguments") 23 25 [token "(" 23, token ")" 24]],
      token ";" 25]

/-- The loop. -/
def loop : Node :=
  rule .whileStatement .none 9 26
    [token "while" 9, condition 14,
      rule .ifStatement .body 17 26 [token "if" 17, condition 19, call]]

/-- The tree of the function. -/
def root : Node :=
  rule (.other "translation_unit") .none 0 27
    [rule .functionDefinition .none 0 27
      [rule (.other "primitive_type") .type 0 4 [],
        rule .functionDeclarator .declarator 5 8
          [rule .identifier .declarator 5 6 [],
            rule (.other "parameter_list") .parameters 6 8 [token "(" 6, token ")" 7]],
        rule .compoundStatement .body 8 27 [token "\x7b" 8, loop, token "\x7d" 26]]]

end NestedBodies

namespace PrintedAggregate

/-! A structure, and a variable on the line below. -/

/-- The structure. -/
def first : Text := "struct P\x7bint x;\x7d;\n"

/-- The source. -/
def source : Text := first ++ ("int y;" : Text)

open NestedBodies in
/-- The tree of the source. -/
def root : Node :=
  rule (.other "translation_unit") .none 0 24
    [rule .structSpecifier .none 0 16
      [token "struct" 0, rule .typeIdentifier .name 7 8 [],
        rule .fieldDeclarationList .body 8 16
          [token "\x7b" 8,
            rule .fieldDeclaration .none 9 15
              [rule (.other "primitive_type") .type 9 12 [],
                rule .fieldIdentifier .declarator 13 14 [], token ";" 14],
            token "\x7d" 15]],
      token ";" 16,
      rule .declaration .none 18 24
        [rule (.other "primitive_type") .type 18 21 [],
          rule .identifier .declarator 22 23 [], token ";" 23]]

end PrintedAggregate

namespace Instrumented

/-- The function with two nested bodies is instrumented, and all of it is kept; so is the structure,
and its printer stands behind the variable. -/
theorem ofSource_of_parsed_nestedBodies :
    NestedBodies.root.Parsed NestedBodies.source ∧
    PrintedAggregate.root.Parsed PrintedAggregate.source ∧
    (∃ (i : Instrumented) (first : Text) (ps : List Patch),
      ofSource NestedBodies.source NestedBodies.root = .ok i ∧
      NestedBodies.source = first ++ ps.flatMap Patch.kept ∧
      i.source = first ++ ps.flatMap (fun p => p.site.text ++ p.kept) ++
        i.analysis.aggregates.flatMap Snippet.printer) ∧
    ∃ (i : Instrumented) (first : Text) (ps : List Patch) (a : Analysis.Aggregate),
      ofSource PrintedAggregate.source PrintedAggregate.root = .ok i ∧
      i.analysis.aggregates = [a] ∧ a.name = "P" ∧
      PrintedAggregate.source = first ++ ps.flatMap Patch.kept ∧
      i.source = first ++ ps.flatMap (fun p => p.site.text ++ p.kept) ++ Snippet.printer a ∧
      Snippet.printerHead "P" <:+: i.source := by
  have hbodies : NestedBodies.root.Parsed NestedBodies.source := by decide +kernel
  have haggregate : PrintedAggregate.root.Parsed PrintedAggregate.source := by decide +kernel
  refine ⟨hbodies, haggregate, ?_, ?_⟩
  · obtain ⟨i, -, first, ps, hi, -, -, -, -, -, hkept, htext, -⟩ := ofSource_of_parsed hbodies
    exact ⟨i, first, ps, hi, hkept, htext⟩
  · obtain ⟨i, -, first, ps, hi, hanalysis, -, -, -, -, hkept, htext, hheads⟩ :=
      ofSource_of_parsed haggregate
    obtain ⟨a, hone, hname⟩ : ∃ a : Analysis.Aggregate,
        (Analysis.ofTree PrintedAggregate.source PrintedAggregate.root).aggregates = [a] ∧
        a.name = "P" := ⟨⟨"P", [⟨"x", "int", false, none⟩], some 17⟩, by decide +kernel, rfl⟩
    rw [← hanalysis] at hone
    refine ⟨i, first, ps, a, hi, hone, hname, hkept, ?_, ?_⟩
    · rw [htext, hone, List.flatMap_singleton]
    · exact hname ▸ hheads a (hone ▸ List.mem_singleton_self a)

end Instrumented

end Stepwise
