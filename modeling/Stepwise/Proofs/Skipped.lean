import Stepwise.Proofs.Lines
import Stepwise.Proofs.StatementLevel

/-!
# Functions with syntax errors

A function whose tree holds an error is listed as left alone: its statements are not looked through.
But the functions of a tree are found wherever they are defined, and what a parser recovers from an
error may be the definition of a function inside of another one, such as the next function behind a
missing brace.  It is looked through for itself, and if there is no error in it, then code is added
to it.

So the text of a function that is left alone is unchanged in the instrumented program if and only if
no function without errors is defined inside of it, and every edit in its range belongs to one that
is.

Main definitions and statements:

* `Node.Parsed.above_or_below_or_apart`: how a node stands to a place of its tree;
* `Analysis.Skipped`: the functions that are listed;
* `Analysis.exists_definition_of_mem_edits`: the edits in the range of such a function;
* `Instrumented.text_of_skipped`: what becomes of its text.
-/

namespace Stepwise

open Syntax

/-! ## 1. Nodes around a place -/

/-- A node of a tree stands above a place, below it or apart from it. -/
theorem Syntax.Node.Parsed.above_or_below_or_apart {source : Text} {root n : Node} {p : Place}
    (h : root.Parsed source) (hp : p ∈ root.places) (hn : n ∈ root.descendants) :
    n ∈ p.ancestors ∨ n ∈ p.node.descendants ∨ n.Apart p.node := by
  refine (Place.places_induction (P := fun p => p.node ∈ root.descendants ∧
    (n ∈ p.ancestors ∨ n ∈ p.node.descendants ∨ n.Apart p.node))
    (fun p ⟨hmem, hp⟩ front c back hchildren => ?_)
    ⟨Node.mem_descendants_self root, .inr (.inl hn)⟩ p hp).2
  have hc : c ∈ p.node.children := by simp [hchildren]
  have hcmem := Node.mem_descendants_of_mem_children hmem hc
  refine ⟨hcmem, ?_⟩
  have hinside := h.inside p.node hmem c hc
  rcases hp with habove | hbelow | hapart
  · exact .inl (List.mem_cons_of_mem _ habove)
  · rcases Node.mem_descendants.1 hbelow with rfl | ⟨c', hc', hbelow⟩
    · exact .inl List.mem_cons_self
    · have hparsed := h.of_mem hmem
      rcases hparsed.eq_or_apart hc' hc with rfl | hapart
      · exact .inr (.inl hbelow)
      · have hc'mem := Node.mem_descendants_of_mem_children hmem hc'
        exact .inr (.inr (hapart.of_inside ((h.of_mem hc'mem).inside_of_mem hbelow)
          ⟨Nat.le_refl _, Nat.le_refl _⟩))
  · exact .inr (.inr (hapart.of_inside ⟨Nat.le_refl _, Nat.le_refl _⟩ hinside))

namespace Analysis

/-! ## 2. Functions that are left alone -/

/-- A function of this name is defined at the node, and there is an error in it. -/
def Skipped (source : Text) (n : Node) (name : Text) : Prop :=
  n.head.hasError = true ∧ ∃ d, Definition.ofNode? source n = some d ∧ d.function.name = name

theorem mem_skipped_iff {source name : Text} {root : Node} :
    name ∈ (ofTree source root).skipped ↔ ∃ n ∈ root.descendants, Skipped source n name := by
  simp only [ofTree, List.mem_map, List.mem_filter, List.mem_filterMap, Option.map_eq_some_iff]
  constructor
  · rintro ⟨⟨hasError, d⟩, ⟨⟨n, hn, d', hd, heq⟩, herror⟩, rfl⟩
    obtain ⟨rfl, rfl⟩ := Prod.mk.inj heq
    exact ⟨n, hn, herror, d', hd, rfl⟩
  · rintro ⟨n, hn, herror, d, hd, rfl⟩
    exact ⟨(n.head.hasError, d), ⟨⟨n, hn, d, hd, rfl⟩, herror⟩, rfl⟩

theorem Skipped.kind_eq {source name : Text} {n : Node} (h : Skipped source n name) :
    n.kind = .functionDefinition := by
  obtain ⟨-, d, hd, -⟩ := h
  rw [Definition.ofNode?] at hd
  split at hd
  · assumption
  · cases hd

theorem mem_definitions_of_mem {source : Text} {root n : Node} (hn : n ∈ root.descendants)
    {d : Definition} (hd : d ∈ definitions source n) : d ∈ definitions source root := by
  obtain ⟨m, hm, hdef⟩ := exists_of_mem_definitions hd
  exact List.mem_filterMap.2 ⟨m, Node.mem_descendants_trans hn hm, hdef⟩

/-! ## 3. The edits in the range of a function -/

section Parsed

variable {source : Text} {root n : Node} (h : root.Parsed source) (hn : n ∈ root.descendants)
  {edits : List Edit} (hedits : (ofTree source root).edits? = some edits)
include h hn hedits

/-- **The edits in the range of a function that is left alone** belong to functions without errors
that are defined inside of it: no function around it is without errors, and no printer is declared
inside of a function. -/
theorem exists_definition_of_mem_edits {name : Text} (hskipped : Skipped source n name) {e : Edit}
    (he : e ∈ edits) (hstart : n.start < e.start) (hstop : e.start < n.stop) :
    ∃ m ∈ n.descendants, (Definition.sound? source m).isSome ∧
      m.start ≤ e.start ∧ e.start ≤ m.stop := by
  rcases inFunction_of_mem_edits h hedits he with ⟨m, hm, hdef, k, hk, hat⟩ | ⟨g, hg, hoffset⟩
  · have hparsed := h.of_mem hm
    obtain ⟨-, hfrom, hto⟩ := isOffset_of_anchors hparsed hk hat
    have hinside := hparsed.inside_of_mem hk
    rcases h.nested_or_apart hm hn with hbelow | habove | hapart
    · exact ⟨m, hbelow, hdef, by omega, by omega⟩
    · obtain ⟨d, hd⟩ := Option.isSome_iff_exists.1 hdef
      have hsound := hparsed.sound_of_mem (Definition.sound?_eq_some hd).1 habove
      exact absurd (hskipped.1.symm.trans hsound) (by decide)
    · rw [Node.Apart] at hapart
      omega
  · obtain ⟨q, hq, hend, hvisible⟩ := exists_of_mem_aggregates hg hoffset
    have hmem := List.mem_map_of_mem (f := Place.node) hq
    rcases h.above_or_below_or_apart hq hn with habove | hbelow | hapart
    · exact absurd (by rw [hskipped.kind_eq]; rfl) (hvisible n habove)
    · have := (h.of_mem hmem).inside_of_mem hbelow
      omega
    · have := h.start_le_stop hmem
      rw [Node.Apart] at hapart
      omega

/-- The entry of a function without errors is put in inside of every node around it. -/
theorem exists_edit_of_mem_definitions {d : Definition} (hd : d ∈ definitions source n) :
    ∃ e ∈ edits, n.start < e.start ∧ e.start < n.stop := by
  obtain ⟨m, hm, hdef⟩ := exists_of_mem_definitions hd
  obtain ⟨hsound, -, hbody, hkind, hspan⟩ := Definition.sound?_eq_some hdef
  have hparsed := h.of_mem hn
  have hmem := Node.mem_descendants_of_mem_children hm (Node.mem_children_of_child? hbody)
  have hinside := hparsed.inside_of_mem hmem
  have hroom := (isOffset_block hparsed hmem hkind
    (hparsed.errors m hm hsound d.body (Node.mem_children_of_child? hbody))).2.2
  have hentry : (Collect.functionEdit d.function).start = d.body.start + 1 := by
    change d.function.entry = _
    rw [Function.entry, hspan]
    rfl
  refine ⟨Collect.functionEdit d.function, (mem_edits hedits).2 (.inr (.inl ⟨d.function, ?_, rfl⟩)),
    by omega, by omega⟩
  rw [ofTree_functions]
  exact List.mem_map_of_mem (mem_definitions_of_mem hn hd)

/-- There are edits in the range of a function that is left alone if and only if a function without
errors is defined inside of it. -/
theorem forall_not_within_iff {name : Text} (hskipped : Skipped source n name) :
    (∀ e ∈ edits, ¬ (n.start < e.start ∧ e.start < n.stop)) ↔ definitions source n = [] := by
  constructor
  · intro hnone
    refine List.eq_nil_iff_forall_not_mem.2 fun d hd => ?_
    obtain ⟨e, he, hwithin⟩ := exists_edit_of_mem_definitions h hn hedits hd
    exact hnone e he hwithin
  · rintro hnil e he ⟨hstart, hstop⟩
    obtain ⟨m, hm, hdef, -⟩ := exists_definition_of_mem_edits h hn hedits hskipped he hstart hstop
    obtain ⟨d, hd⟩ := Option.isSome_iff_exists.1 hdef
    have hmem : d ∈ definitions source n := List.mem_filterMap.2 ⟨m, hm, hd⟩
    rw [hnil] at hmem
    cases hmem

end Parsed

end Analysis

/-! ## 4. The text of a function -/

namespace Instrumented

/-- **What becomes of a function that is left alone.**  Every edit in its range belongs to a
function without errors that is defined inside of it; there is none in its range if and only if
there is no such function; and then its text stands in the instrumented program as in the source,
behind the source in front of it with the edits up to its start. -/
theorem text_of_skipped {source : Text} {root : Node} (h : root.Parsed source) :
    ∃ i edits set, ofSource source root = .ok i ∧ i.analysis.edits? = some edits ∧
      i.analysis.editSet = .ok set ∧
      (∀ name, name ∈ i.analysis.skipped ↔
        ∃ n ∈ root.descendants, Analysis.Skipped source n name) ∧
      ∀ n ∈ root.descendants, ∀ name, Analysis.Skipped source n name →
        (∀ e ∈ edits, n.start < e.start → e.start < n.stop →
          ∃ m ∈ n.descendants, (Analysis.Definition.sound? source m).isSome ∧
            m.start ≤ e.start ∧ e.start ≤ m.stop) ∧
        ((∀ e ∈ edits, ¬ (n.start < e.start ∧ e.start < n.stop)) ↔
          Analysis.definitions source n = []) ∧
        (Analysis.definitions source n = [] → ∃ before after before' after',
          source = before ++ n.text source ++ after ∧ Text.byteLength before = n.start ∧
            (set.upTo n.start).splice? before = some before' ∧
            i.source = before' ++ n.text source ++ after') := by
  obtain ⟨edits, set, first, ps, hedits, heditSet, hset, hsorted, -, -, -, hsplice⟩ :=
    exists_patches_of_parsed h
  refine ⟨_, edits, set, ofSource_eq_ok.2 ⟨set, _, heditSet, hsplice, rfl⟩, hedits, heditSet,
    fun name => Analysis.mem_skipped_iff, fun n hn name hskipped =>
    ⟨fun e he => Analysis.exists_definition_of_mem_edits h hn hedits hskipped he,
      Analysis.forall_not_within_iff h hn hedits hskipped, fun hnil => ?_⟩⟩
  have hfree := (Analysis.forall_not_within_iff h hn hedits hskipped).2 hnil
  obtain ⟨before, after, hsource, hbefore, hstop⟩ := h.exists_text hn
  have hsites : ∀ site ∈ set.sites, site.offset ≤ Text.byteLength before ∨
      Text.byteLength (before ++ n.text source) ≤ site.offset := by
    intro site hsite
    have hinserts := hset.inserts site hsite
    obtain ⟨e, he⟩ := List.exists_mem_of_ne_nil _ hinserts.nonempty
    have hmem : e ∈ edits := by
      have := EditSet.mem_edits.2 ⟨site, hsite, he⟩
      rwa [hsorted, List.mem_mergeSort] at this
    have hout := hfree e hmem
    have hat := (hinserts.inserts e he).1
    rw [Text.byteLength_append]
    omega
  obtain ⟨before', after', htext, hspliced, -⟩ := hset.exists_part hsplice hsites hsource
  refine ⟨before, after, before', after' ++ (Analysis.ofTree source root).aggregates.flatMap
    Snippet.printer, hsource, hbefore, hbefore ▸ hspliced, ?_⟩
  simp only [htext, List.append_assoc]

end Instrumented

namespace UnclosedFunction

/-! A function without closing brace, and the next one, which is taken for a part of it. -/

/-- The source. -/
def source : Text := "void f()\x7bvoid g()\x7b\x7d"

/-- A token of one character. -/
def mark (kind : Kind) (start : Nat) : Node :=
  .mk ⟨kind, .none, false, false, ⟨start, start + 1⟩, 0⟩ []

/-- A node with an error in it. -/
def faulty (kind : Kind) (role : Role) (start stop : Nat) (children : List Node) : Node :=
  .mk ⟨kind, role, true, true, ⟨start, stop⟩, 0⟩ children

open NestedBodies

/-- The head of a function that takes and returns nothing. -/
def declared (start : Nat) : List Node :=
  [rule (.other "primitive_type") .type start (start + 4) [],
    rule .functionDeclarator .declarator (start + 5) (start + 8)
      [rule .identifier .declarator (start + 5) (start + 6) [],
        rule (.other "parameter_list") .parameters (start + 6) (start + 8)
          [mark (.other "(") (start + 6), mark .closeParen (start + 7)]]]

/-- The second function. -/
def inner : Node :=
  rule .functionDefinition .none 9 19
    (declared 9 ++ [rule .compoundStatement .body 17 19 [mark .openBrace 17, mark .closeBrace 18]])

/-- The first function, with a closing brace that is missing. -/
def outer : Node :=
  faulty .functionDefinition .none 0 19
    (declared 0 ++ [faulty .compoundStatement .body 8 19
      [mark .openBrace 8, inner, .mk ⟨.closeBrace, .none, false, true, ⟨19, 19⟩, 0⟩ []]])

/-- The tree of the source. -/
def root : Node := faulty (.other "translation_unit") .none 0 19 [outer]

end UnclosedFunction

namespace Instrumented

/-- The first function is listed as left alone, and something is put in inside of it. -/
theorem text_of_skipped_unclosedFunction :
    ∃ i edits, ofSource UnclosedFunction.source UnclosedFunction.root = .ok i ∧
      i.analysis.edits? = some edits ∧ "f".toList ∈ i.analysis.skipped ∧
      ∃ e ∈ edits, UnclosedFunction.outer.start < e.start ∧
        e.start < UnclosedFunction.outer.stop := by
  have hparsed : UnclosedFunction.root.Parsed UnclosedFunction.source := by decide +kernel
  have houter : UnclosedFunction.outer ∈ UnclosedFunction.root.descendants :=
    Node.mem_descendants_of_mem_children (Node.mem_descendants_self _) List.mem_cons_self
  have hname : (Analysis.Definition.ofNode? UnclosedFunction.source UnclosedFunction.outer).map
      (·.function.name) = some "f".toList := by decide +kernel
  have hskipped : Analysis.Skipped UnclosedFunction.source UnclosedFunction.outer "f" :=
    ⟨rfl, Option.map_eq_some_iff.1 hname⟩
  have hdefinitions : Analysis.definitions UnclosedFunction.source UnclosedFunction.outer ≠ [] := by
    decide +kernel
  obtain ⟨i, edits, set, hi, hedits, -, hlisted, hall⟩ := text_of_skipped hparsed
  refine ⟨i, edits, hi, hedits, (hlisted _).2 ⟨_, houter, hskipped⟩, ?_⟩
  obtain ⟨-, hwithin, -⟩ := hall _ houter _ hskipped
  by_contra hnone
  exact hdefinitions (hwithin.1 fun e he hin => hnone ⟨e, he, hin⟩)

end Instrumented

end Stepwise
