import Mathlib.Data.List.Flatten
import Stepwise.Proofs.Bodies
import Stepwise.Proofs.Insertion

/-!
# Braces around bodies

The braces that are put in for bodies, read from left to right and matched like parentheses, are
the bodies without braces.

Bodies are visited innermost first, so when the braces of a body are put in, nothing between them is
a brace of a body visited later: its two braces are neighbours among those of the bodies from it on
(`mergeSort_braces`).  Taking two neighbours away from a word takes one pair away from its matching
(`Brace.pairs?_insert`), and the induction is on the bodies.

Main definitions and statements:

* `Brace.pairs?`: matching like parentheses;
* `Analysis.ownEdits`: the step and the trackers of a statement that is a body;
* `Instrumented.braces_of_parsed`: which braces match in the instrumented program, and what stands
  inside of them.
-/

namespace Stepwise

open Syntax

/-! ## 1. Matching -/

/-- A brace that is put in for a body. -/
inductive Brace where
  | opening (offset : Nat) (text : Text)
  | closing (offset : Nat) (text : Text)
  deriving DecidableEq, Repr

/-- Two braces that match. -/
structure BracePair where
  /-- From the offset of the opening to that of the closing brace. -/
  span : Span
  /-- The text of the opening brace. -/
  opening : Text
  /-- The text of the closing brace. -/
  closing : Text
  deriving DecidableEq, Repr

namespace Brace

/-- The brace that an edit puts in for a body. -/
def ofEdit? (e : Edit) : Option Brace :=
  if e.priority = Collect.Slot.openingBrace.priority then some (.opening e.start e.content.text)
  else if e.priority = Collect.Slot.closingBrace.priority then
    some (.closing e.start e.content.text)
  else none

/-- The pairs of a word of braces, matched like parentheses behind some opening braces, the last one
first; none if a brace is left over. -/
def pairs? : List (Nat × Text) → List Brace → Option (List BracePair)
  | [], [] => some []
  | _ :: _, [] => none
  | opened, .opening start text :: braces => pairs? ((start, text) :: opened) braces
  | [], .closing _ _ :: _ => none
  | (start, text) :: opened, .closing stop text' :: braces =>
    (pairs? opened braces).map (⟨⟨start, stop⟩, text, text'⟩ :: ·)

/-- Two neighbours that match are a pair more. -/
theorem pairs?_insert {front back : List Brace} {opened : List (Nat × Text)} {ps : List BracePair}
    (h : pairs? opened (front ++ back) = some ps) (start stop : Nat) (text text' : Text) :
    ∃ ps', pairs? opened (front ++ opening start text :: closing stop text' :: back) = some ps' ∧
      ps'.Perm (⟨⟨start, stop⟩, text, text'⟩ :: ps) := by
  induction front generalizing opened ps with
  | nil =>
    refine ⟨⟨⟨start, stop⟩, text, text'⟩ :: ps, ?_, .refl _⟩
    rw [List.nil_append] at h
    simp [pairs?, h]
  | cons brace front ih =>
    cases brace with
    | opening start' text'' =>
      simp only [List.cons_append, pairs?] at h ⊢
      exact ih h
    | closing stop' text'' =>
      cases opened with
      | nil => simp [pairs?] at h
      | cons o opened =>
        simp only [List.cons_append, pairs?, Option.map_eq_some_iff] at h ⊢
        obtain ⟨qs, hqs, rfl⟩ := h
        obtain ⟨qs', hqs', hperm⟩ := ih hqs
        exact ⟨_, ⟨qs', hqs', rfl⟩, (hperm.cons _).trans (.swap _ _ _)⟩

end Brace

/-! ## 2. The braces of bodies, innermost first -/

namespace Collect

open Analysis

/-- The edit that opens a body. -/
def openingEdit (b : BareBody) : Edit := put .openingBrace b.span.start (.plain "\x7b")

/-- The edit that closes a body. -/
def closingEdit (b : BareBody) : Edit := put .closingBrace b.span.stop (.plain (closing b))

theorem braces_eq (b : BareBody) : braces b = [openingEdit b, closingEdit b] := rfl

@[simp] theorem openingEdit_start (b : BareBody) : (openingEdit b).start = b.span.start := rfl

@[simp] theorem closingEdit_start (b : BareBody) : (closingEdit b).start = b.span.stop := rfl

@[simp] theorem openingEdit_priority (b : BareBody) : (openingEdit b).priority = 255 := rfl

@[simp] theorem closingEdit_priority (b : BareBody) : (closingEdit b).priority = 95 := rfl

/-- The braces of a body as a pair. -/
def bracePair (b : BareBody) : BracePair := ⟨b.span, "\x7b", closing b⟩

/-- A brace of another body that does not lie inside of a body, if it is not in front of the opening
brace, is not in front of the closing one either. -/
theorem closingEdit_before {b : BareBody} {e : Edit} {bodies : List BareBody}
    (hb : ∀ a ∈ bodies, a.span.Nests b.span) (hle : ∀ a ∈ bodies, a.span.start ≤ a.span.stop)
    (he : e ∈ bodies.flatMap braces) (hopen : (openingEdit b).before e = true) :
    (closingEdit b).before e = true := by
  obtain ⟨a, ha, he⟩ := List.mem_flatMap.1 he
  have hnests := hb a ha
  have hle := hle a ha
  rw [Span.Nests] at hnests
  rw [braces_eq, List.mem_cons, List.mem_singleton] at he
  rw [Edit.before_iff, openingEdit_start, openingEdit_priority] at hopen
  rw [Edit.before_iff, closingEdit_start, closingEdit_priority]
  rcases he with rfl | rfl
  · rw [openingEdit_start, openingEdit_priority] at hopen ⊢
    omega
  · rw [closingEdit_start, closingEdit_priority] at hopen ⊢
    omega

/-- **The braces of an innermost body are neighbours.** -/
theorem mergeSort_braces {b : BareBody} {bodies : List BareBody}
    (hb : ∀ a ∈ bodies, a.span.Nests b.span) (hle : ∀ a ∈ b :: bodies, a.span.start ≤ a.span.stop) :
    ∃ front back, ((b :: bodies).flatMap braces).mergeSort Edit.before =
        front ++ openingEdit b :: closingEdit b :: back ∧
      (bodies.flatMap braces).mergeSort Edit.before = front ++ back := by
  obtain ⟨front, back, hclosing, hrest, hfront⟩ := List.mergeSort_cons Edit.before_trans
    Edit.before_total (closingEdit b) (bodies.flatMap braces)
  obtain ⟨front', back', hopening, hsorted, hfront'⟩ := List.mergeSort_cons Edit.before_trans
    Edit.before_total (openingEdit b) (closingEdit b :: bodies.flatMap braces)
  have hbraces : (openingEdit b).before (closingEdit b) = true := by
    have := hle b List.mem_cons_self
    rw [Edit.before_iff, openingEdit_start, openingEdit_priority, closingEdit_start,
      closingEdit_priority]
    omega
  suffices hsame : front' = front ∧ back' = closingEdit b :: back by
    refine ⟨front, back, ?_, hrest⟩
    rw [hsame.1, hsame.2] at hopening
    exact hopening
  rw [hclosing] at hsorted
  rcases List.append_eq_append_iff.1 hsorted with ⟨more, rfl, hback⟩ | ⟨more, rfl, rfl⟩
  · cases more with
    | nil => exact ⟨List.append_nil _, hback.symm⟩
    | cons e more =>
      -- the closing brace would stand in front of the opening one
      obtain rfl : closingEdit b = e := (List.cons.inj hback).1
      simpa [hbraces] using hfront' (closingEdit b) (by simp)
  · cases more with
    | nil => exact ⟨(List.append_nil _).symm, rfl⟩
    | cons e more =>
      -- some other brace would stand between the two
      have he : e ∈ bodies.flatMap braces := by
        have hmem : e ∈ (bodies.flatMap braces).mergeSort Edit.before := by simp [hrest]
        exact List.mem_mergeSort.1 hmem
      have hall := List.pairwise_mergeSort Edit.before_trans Edit.before_total
        (openingEdit b :: closingEdit b :: bodies.flatMap braces)
      rw [hopening, List.pairwise_append, List.pairwise_cons] at hall
      have hopen := hall.2.1.1 e (by simp)
      have hclose := closingEdit_before hb (fun a ha => hle a (List.mem_cons_of_mem _ ha)) he hopen
      simpa [hclose] using hfront e (by simp)

/-- **The braces of bodies match as their bodies.**  The bodies are visited innermost first, and the
induction is on them. -/
theorem pairs?_mergeSort_braces {bodies : List BareBody}
    (hb : bodies.Pairwise fun b a => a.span.Nests b.span)
    (hle : ∀ a ∈ bodies, a.span.start ≤ a.span.stop) :
    ∃ ps, Brace.pairs? []
        (((bodies.flatMap braces).mergeSort Edit.before).filterMap Brace.ofEdit?) = some ps ∧
      ps.Perm (bodies.map bracePair) := by
  induction bodies with
  | nil => exact ⟨[], by simp [Brace.pairs?], .refl _⟩
  | cons b bodies ih =>
    obtain ⟨hhead, htail⟩ := List.pairwise_cons.1 hb
    obtain ⟨ps, hps, hperm⟩ := ih htail fun a ha => hle a (List.mem_cons_of_mem _ ha)
    obtain ⟨front, back, hall, hrest⟩ := mergeSort_braces hhead hle
    rw [hrest, List.filterMap_append] at hps
    obtain ⟨ps', hps', hperm'⟩ := Brace.pairs?_insert hps b.span.start b.span.stop "\x7b" (closing b)
    refine ⟨ps', ?_, hperm'.trans (hperm.cons _)⟩
    rw [hall, List.filterMap_append]
    exact hps'

end Collect

/-! ## 3. The braces among all edits -/

namespace Analysis

/-- Only bodies get braces. -/
theorem ofEdit?_eq_none {a : Analysis} {e : Edit}
    (h : (∃ f ∈ a.functions, Collect.functionEdit f = e) ∨
      (∃ l ∈ a.loops, ∃ es, Collect.loopEdits? l = some es ∧ e ∈ es) ∨
      (∃ s ∈ a.steps, Collect.stepEdit? s = some e) ∨
      (∃ d ∈ a.declarations, e ∈ Collect.declarationEdits d) ∨
      ∃ g ∈ a.aggregates, Collect.prototypeEdit? g = some e) : Brace.ofEdit? e = none := by
  rcases h with ⟨f, -, rfl⟩ | ⟨l, -, es, hes, he⟩ | ⟨s, -, he⟩ | ⟨d, -, he⟩ | ⟨g, -, he⟩
  · rfl
  · rcases (Collect.mem_loopEdits? hes).1 he with
      ⟨-, -, -, rfl⟩ | ⟨name, -, rfl⟩ | ⟨offset, -, -, rfl⟩ <;> rfl
  · rw [Collect.stepEdit?] at he
    split at he
    · exact Option.some.inj he ▸ rfl
    · cases he
  · obtain ⟨name, -, rfl⟩ := List.mem_map.1 he
    rfl
  · obtain ⟨offset, -, rfl⟩ := Option.map_eq_some_iff.1 he
    rfl

/-- The edits of an analysis that put in braces for bodies are those of its bodies. -/
theorem filterMap_ofEdit? {a : Analysis} {edits : List Edit} (h : a.edits? = some edits) :
    (edits.mergeSort Edit.before).filterMap Brace.ofEdit? =
      ((a.bareBodies.reverse.flatMap Collect.braces).mergeSort Edit.before).filterMap
        Brace.ofEdit? := by
  obtain ⟨rest, rfl, hrest⟩ := exists_edits_eq h
  have hfilter : ∀ l : List Edit, l.filterMap Brace.ofEdit? =
      (l.filter fun e => (Brace.ofEdit? e).isSome).filterMap Brace.ofEdit? := by
    intro l
    rw [List.filterMap_filter]
    refine List.filterMap_congr fun e _ => ?_
    cases Brace.ofEdit? e <;> rfl
  have hother : rest.filter (fun e => (Brace.ofEdit? e).isSome) = [] := by
    rw [List.filter_eq_nil_iff]
    intro e he
    simp [ofEdit?_eq_none ((hrest e).1 he)]
  rw [hfilter, hfilter ((a.bareBodies.reverse.flatMap Collect.braces).mergeSort Edit.before),
    filter_mergeSort Edit.before_trans Edit.before_total,
    filter_mergeSort Edit.before_trans Edit.before_total, List.filter_append, hother,
    List.append_nil]

/-- **The braces of an analysis match as its bodies**, if these are nested or apart. -/
theorem pairs?_edits {a : Analysis} {edits : List Edit} (h : a.edits? = some edits)
    (hnests : a.bareBodies.Pairwise fun b c => b.span.Nests c.span)
    (hle : ∀ b ∈ a.bareBodies, b.span.start ≤ b.span.stop) :
    ∃ ps, Brace.pairs? [] ((edits.mergeSort Edit.before).filterMap Brace.ofEdit?) = some ps ∧
      ps.Perm (a.bareBodies.map Collect.bracePair) := by
  obtain ⟨ps, hps, hperm⟩ := Collect.pairs?_mergeSort_braces (List.pairwise_reverse.2 hnests)
    fun b hb => hle b (List.mem_reverse.1 hb)
  rw [filterMap_ofEdit? h]
  exact ⟨ps, hps, hperm.trans ((List.reverse_perm _).map _)⟩

/-- Different bodies have different braces. -/
theorem nodup_bracePair {bodies : List BareBody}
    (hnests : bodies.Pairwise fun b c => b.span.Nests c.span)
    (hle : ∀ b ∈ bodies, b.span.start ≤ b.span.stop) : (bodies.map Collect.bracePair).Nodup := by
  refine List.pairwise_map.2 (hnests.imp_of_mem fun {b c} hb _ hbc heq => ?_)
  have hspan : b.span = c.span := congrArg BracePair.span heq
  have := hle b hb
  rw [Span.Nests, ← hspan] at hbc
  omega

theorem pair_sublist_of_mem {α : Type} {l : List α} {a b : α} (ha : a ∈ l) (hb : b ∈ l)
    (hne : a ≠ b) : [a, b].Sublist l ∨ [b, a].Sublist l := by
  obtain ⟨front, back, rfl⟩ := List.append_of_mem ha
  rcases List.mem_append.1 hb with hb | hb
  · exact .inr ((List.singleton_sublist.2 hb).append (List.singleton_sublist.2 List.mem_cons_self))
  · rcases List.mem_cons.1 hb with rfl | hb
    · exact absurd rfl hne
    · exact .inl (((List.singleton_sublist.2 hb).cons_cons a).trans (List.sublist_append_right _ _))

/-- **Of two bodies that end at one offset** the inner one is closed first. -/
theorem closing_sublist {a : Analysis} {edits : List Edit} (h : a.edits? = some edits)
    (hnests : a.bareBodies.Pairwise fun b c => b.span.Nests c.span)
    (hle : ∀ b ∈ a.bareBodies, b.span.start ≤ b.span.stop) {b c : BareBody}
    (hb : b ∈ a.bareBodies) (hc : c ∈ a.bareBodies) (hstart : b.span.start < c.span.start)
    (hstop : b.span.stop = c.span.stop) :
    [Collect.closingEdit c, Collect.closingEdit b].Sublist (edits.mergeSort Edit.before) := by
  have hpair : [b, c].Sublist a.bareBodies := by
    have hne : b ≠ c := by
      rintro rfl
      exact Nat.lt_irrefl _ hstart
    refine (pair_sublist_of_mem hb hc hne).resolve_right fun hsub => ?_
    have hcb : c.span.Nests b.span := by simpa using hnests.sublist hsub
    have := hle c hc
    rw [Span.Nests] at hcb
    omega
  obtain ⟨rest, rfl, -⟩ := exists_edits_eq h
  refine List.pair_sublist_mergeSort Edit.before_trans Edit.before_total ?_ ?_
  · simp [Edit.before_iff, hstop]
  · have hbraces := hpair.reverse.flatMap Collect.braces
    refine List.Sublist.trans ?_ (hbraces.trans (List.sublist_append_left _ _))
    exact .cons _ (.cons_cons _ (.cons _ (.refl _)))

/-! ## 4. What stands inside of the braces -/

/-- The step and the trackers of the statement that is a body. -/
def ownEdits (a : Analysis) (b : BareBody) : List Edit :=
  (a.steps.filter (·.offset = b.span.start)).filterMap Collect.stepEdit? ++
    (a.loops.filter fun l => l.body = b.span ∧ !l.isBlock).flatMap (fun l =>
      l.variableName.toList.map fun name => Collect.put .loopVariable l.bodyEntry (.tracker name)) ++
    (a.declarations.filter (·.offset = b.span.stop)).flatMap Collect.declarationEdits

/-- Three edits of a sorted list stand in it as they are sorted. -/
theorem triple_sublist {edits : List Edit} (h : edits.Pairwise fun e f => e.before f) {e f g : Edit}
    (he : e ∈ edits) (hf : f ∈ edits) (hg : g ∈ edits) (hef : ¬ f.before e) (hfg : ¬ g.before f) :
    [e, f, g].Sublist edits := by
  obtain ⟨front, back, rfl⟩ := List.append_of_mem hf
  obtain ⟨-, hback, hfront⟩ := List.pairwise_append.1 h
  have hself : f.before f = true := by simpa using Edit.before_total f f
  have he : e ∈ front := by
    rw [List.mem_append, List.mem_cons] at he
    rcases he with he | rfl | he
    · exact he
    · exact absurd hself hef
    · exact absurd (List.rel_of_pairwise_cons hback he) hef
  have hg : g ∈ back := by
    rw [List.mem_append, List.mem_cons] at hg
    rcases hg with hg | rfl | hg
    · exact absurd (hfront g hg f List.mem_cons_self) hfg
    · exact absurd hself hfg
    · exact hg
  exact (List.singleton_sublist.2 he).append ((List.singleton_sublist.2 hg).cons_cons f)

/-- **The step and the trackers of a body** stand inside of its braces. -/
theorem ownEdits_sublist {a : Analysis} {edits : List Edit} (h : a.edits? = some edits)
    {b : BareBody} (hb : b ∈ a.bareBodies) (hlt : b.span.start < b.span.stop) {e : Edit}
    (he : e ∈ a.ownEdits b) :
    [Collect.openingEdit b, e, Collect.closingEdit b].Sublist (edits.mergeSort Edit.before) := by
  have hmem : ∀ f ∈ Collect.braces b, f ∈ edits.mergeSort Edit.before := fun f hf =>
    List.mem_mergeSort.2 ((mem_edits h).2 (.inl ⟨b, hb, hf⟩))
  -- each of them is put in behind an opening brace, and in front of the end of the body or of a
  -- closing brace there
  have hput : e ∈ edits ∧ (e.start = b.span.start ∧ e.priority < 255 ∨
      e.start = b.span.stop ∧ 95 < e.priority) := by
    simp only [ownEdits, List.mem_append, List.mem_filterMap, List.mem_flatMap, List.mem_filter,
      decide_eq_true_eq] at he
    rcases he with (⟨s, ⟨hs, hat⟩, he⟩ | ⟨l, ⟨hl, hbody, hblock⟩, he⟩) | ⟨d, ⟨hd, hat⟩, he⟩
    · refine ⟨(mem_edits h).2 (.inr (.inr (.inr (.inl ⟨s, hs, he⟩)))), .inl ?_⟩
      rw [Collect.stepEdit?] at he
      split at he
      · obtain rfl := Option.some.inj he
        exact ⟨hat, (by decide : Collect.Slot.beforeStep.priority < 255)⟩
      · cases he
    · obtain ⟨es, hes⟩ := exists_loopEdits h hl
      have hheader : e ∈ es := by
        obtain ⟨back, -, rfl⟩ := Option.map_eq_some_iff.1 hes
        exact List.mem_append_right _ (List.mem_append_left _ he)
      refine ⟨(mem_edits h).2 (.inr (.inr (.inl ⟨l, hl, es, hes, hheader⟩))), .inl ?_⟩
      obtain ⟨name, -, rfl⟩ := List.mem_map.1 he
      refine ⟨?_, (by decide : Collect.Slot.loopVariable.priority < 255)⟩
      change l.bodyEntry = _
      rw [Loop.bodyEntry, if_neg (by simpa using hblock), hbody]
    · refine ⟨(mem_edits h).2 (.inr (.inr (.inr (.inr (.inl ⟨d, hd, he⟩))))), .inr ?_⟩
      obtain ⟨name, -, rfl⟩ := List.mem_map.1 he
      exact ⟨hat, (by decide : 95 < Collect.Slot.declared.priority)⟩
  refine triple_sublist (List.pairwise_mergeSort Edit.before_trans Edit.before_total edits)
    (hmem _ (by simp [Collect.braces_eq])) (List.mem_mergeSort.2 hput.1)
    (hmem _ (by simp [Collect.braces_eq])) ?_ ?_
  · rw [Edit.before_iff, Collect.openingEdit_start, Collect.openingEdit_priority]
    omega
  · rw [Edit.before_iff, Collect.closingEdit_start, Collect.closingEdit_priority]
    omega

end Analysis

/-! ## 5. The instrumented program -/

namespace Syntax.Node

/-- What closes a body without braces of a statement: the bodies of some loops end with the step
that announces the line of the loop again. -/
def closingText (n : Node) : Text :=
  match n.kind with
  | .forRangeLoop | .whileStatement | .doStatement => " " ++ Snippet.step n.line ++ " \x7d"
  | _ => " \x7d"

theorem closing_loopBack? (n : Node) (span : Span) :
    Collect.closing ⟨span, n.loopBack?⟩ = n.closingText := by
  cases hkind : n.kind <;> simp [Collect.closing, loopBack?, closingText, Kind.loopKind?, hkind]

end Syntax.Node

namespace Instrumented

open Analysis

/-- **The braces of an instrumented program match as its bodies.**  The edits of the program stand
in its text in their order.  Those that put in braces for bodies, matched like parentheses, are the
bodies of branches and loops without braces, each exactly once; of two bodies that end at one offset
the inner one is closed first; and between its braces a body, which is not empty, has its own step
and trackers. -/
theorem braces_of_parsed {source : Text} {root : Node} (hparsed : root.Parsed source)
    (hstructured : root.Structured) :
    ∃ (i : Instrumented) (set : EditSet) (first : Text) (ps : List Patch) (pairs : List BracePair),
      ofSource source root = .ok i ∧ i.analysis = ofTree source root ∧
      i.analysis.editSet = .ok set ∧ ps.flatMap (·.site.edits) = set.edits ∧
      i.source = first ++ ps.flatMap (fun p => p.site.text ++ p.kept) ++
        i.analysis.aggregates.flatMap Snippet.printer ∧
      Brace.pairs? [] (set.edits.filterMap Brace.ofEdit?) = some pairs ∧ pairs.Nodup ∧
      (∀ pair, pair ∈ pairs ↔ ∃ d ∈ definitions source root, ∃ s ∈ d.spots,
        ∃ body ∈ s.node.bodies, body.kind ≠ .compoundStatement ∧
          pair = ⟨body.span, "\x7b", s.node.closingText⟩) ∧
      (∀ b ∈ i.analysis.bareBodies, ∀ c ∈ i.analysis.bareBodies, b.span.start < c.span.start →
        b.span.stop = c.span.stop →
          [Collect.closingEdit c, Collect.closingEdit b].Sublist set.edits) ∧
      ∀ b ∈ i.analysis.bareBodies, b.span.start < b.span.stop → ∀ e ∈ i.analysis.ownEdits b,
        [Collect.openingEdit b, e, Collect.closingEdit b].Sublist set.edits := by
  obtain ⟨edits, set, first, ps, hedits, heditSet, -, hsorted, hps, -, -, hsplice⟩ :=
    exists_patches_of_parsed hparsed
  have hnests := pairwise_bareBodies hparsed hstructured
  have hle : ∀ b ∈ (ofTree source root).bareBodies, b.span.start ≤ b.span.stop := fun b hb =>
    bareBody_start_le_stop hparsed hstructured hb
  obtain ⟨pairs, hpairs, hperm⟩ := pairs?_edits hedits hnests hle
  refine ⟨_, set, first, ps, pairs, ofSource_eq_ok.2 ⟨set, _, heditSet, hsplice, rfl⟩, rfl, heditSet,
    ?_, rfl, hsorted ▸ hpairs, hperm.nodup_iff.2 (nodup_bracePair hnests hle), fun pair => ?_,
    fun b hb c hc hstart hstop => ?_, fun b hb hlt e he => ?_⟩
  · rw [EditSet.edits, ← hps, List.flatMap_map]
  · rw [hperm.mem_iff, List.mem_map]
    refine ⟨?_, ?_⟩
    · rintro ⟨b, hb, rfl⟩
      obtain ⟨d, hd, s, hs, body, hmem, hkind, rfl⟩ := mem_bareBodies.1 hb
      exact ⟨d, hd, s, hs, body, hmem, hkind, by rw [Collect.bracePair, Node.closing_loopBack?]⟩
    · rintro ⟨d, hd, s, hs, body, hmem, hkind, rfl⟩
      exact ⟨_, mem_bareBodies.2 ⟨d, hd, s, hs, body, hmem, hkind, rfl⟩,
        by rw [Collect.bracePair, Node.closing_loopBack?]⟩
  · exact hsorted ▸ closing_sublist hedits hnests hle hb hc hstart hstop
  · exact hsorted ▸ ownEdits_sublist hedits hb hlt he

/-- A loop around a branch, both without braces and ending at the same offset: both bodies are pairs,
and the loop announces its line at the end of its own. -/
theorem braces_of_parsed_nestedBodies :
    NestedBodies.root.Parsed NestedBodies.source ∧ NestedBodies.root.Structured ∧
      ∃ (i : Instrumented) (set : EditSet) (pairs : List BracePair),
        ofSource NestedBodies.source NestedBodies.root = .ok i ∧ i.analysis.editSet = .ok set ∧
        Brace.pairs? [] (set.edits.filterMap Brace.ofEdit?) = some pairs ∧ pairs.Nodup ∧
        ⟨⟨17, 26⟩, "\x7b", " DEBUG_STEP(1);  \x7d"⟩ ∈ pairs ∧
        ⟨⟨22, 26⟩, "\x7b", " \x7d"⟩ ∈ pairs := by
  have hparsed : NestedBodies.root.Parsed NestedBodies.source := by decide +kernel
  have hstructured : NestedBodies.root.Structured := by decide +kernel
  obtain ⟨i, set, -, -, pairs, hi, -, hset, -, -, hpairs, hnodup, hmem, -⟩ :=
    braces_of_parsed hparsed hstructured
  refine ⟨hparsed, hstructured, i, set, pairs, hi, hset, hpairs, hnodup, (hmem _).2 ?_,
    (hmem _).2 ?_⟩
  · decide +kernel
  · decide +kernel

end Instrumented

end Stepwise
