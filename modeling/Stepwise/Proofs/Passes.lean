import Mathlib.Data.List.Perm.Basic
import Stepwise.Proofs.StatementLevel

/-!
# Passes of loops

Every loop announces its line between two passes, by one edit of its own.  A counted loop does it in
its header, the other loops at the end of their bodies: in front of the closing brace of a block, or
within the brace that is put in behind a body without braces.

The edits of the third kind come from the bodies and not from the loops.  Below every statement,
bodies that announce a line and loops that leave their announcement to their body match one by one
(`Analysis.perm_bareBelow`), and so they do in the whole program, wherever loops end.

Main definitions and statements:

* `Edit.isPass`: the edits that announce a pass;
* `Node.PassAt`: where the loop at a node announces its passes;
* `Analysis.passes_of_parsed`: every loop has one edit that announces its passes, and there are no
  others.
-/

namespace Stepwise

open Syntax Collect

/-! ## 1. Edits that announce a pass -/

/-- Whether the edit announces a pass of a loop: a text before a statement or at the end of a block,
or one that closes a body with more than the brace.  Steps before statements are no such texts. -/
def Edit.isPass (e : Edit) : Bool :=
  match e.content with
  | .plain text =>
    e.priority = Slot.beforeStep.priority || e.priority = Slot.loopBack.priority ||
      e.priority = Slot.closingBrace.priority && text != " \x7d"
  | _ => false

namespace Collect

open Analysis

/-- The announcement in the header of a counted loop. -/
def headerPass (l : Loop) (offset : Nat) : Edit :=
  put .beforeStep offset (.plain (Snippet.iteration l))

/-- The announcement at the end of a block. -/
def blockPass (line offset : Nat) : Edit := put .loopBack offset (.plain (" " ++ Snippet.step line))

/-- The announcement within the brace that closes a body without braces. -/
def bodyPass (line offset : Nat) : Edit :=
  put .closingBrace offset (.plain (" " ++ Snippet.step line ++ " \x7d"))

end Collect

namespace Analysis

/-- The announcement of a loop. -/
def Loop.pass? (l : Loop) : Option Edit :=
  if l.kind = .counted then l.updateAt?.map (headerPass l)
  else if l.isBlock then some (blockPass l.line (l.body.stop - 1))
  else some (bodyPass l.line l.body.stop)

/-- Whether the announcement of a loop comes with its body. -/
def Loop.isBare (l : Loop) : Bool := l.kind ≠ .counted && !l.isBlock

/-- The announcement that comes with a body. -/
def BareBody.pass? (b : BareBody) : Option Edit :=
  b.loopBack?.map fun line => bodyPass line b.span.stop

end Analysis

namespace Collect

open Analysis

/-- Which texts that are put in announce a pass. -/
theorem isPass_put_plain (slot : Slot) (offset : Nat) (text : Text) :
    (put slot offset (.plain text)).isPass =
      match slot with
      | .beforeStep | .loopBack => true
      | .closingBrace => text != " \x7d"
      | _ => false := by
  cases slot <;> simp [Edit.isPass, put, Edit.insertion, Slot.priority]

theorem priority_put_ne {slot : Slot} {offset : Nat} {content : EditContent}
    (h : slot ≠ .functionEntry) :
    (put slot offset content).priority ≠ Slot.functionEntry.priority :=
  fun heq => h (Slot.eq_of_priority heq)

theorem isPass_headerPass (l : Loop) (offset : Nat) : (headerPass l offset).isPass :=
  isPass_put_plain .beforeStep offset _

theorem isPass_blockPass (line offset : Nat) : (blockPass line offset).isPass :=
  isPass_put_plain .loopBack offset _

theorem isPass_bodyPass (line offset : Nat) : (bodyPass line offset).isPass := by
  rw [bodyPass, isPass_put_plain, bne_iff_ne]
  intro heq
  exact absurd (List.cons.inj (List.cons.inj heq).2).1 (by decide)

theorem filter_isPass_braces (b : BareBody) : (braces b).filter Edit.isPass = b.pass?.toList := by
  have hopening : ¬ (put .openingBrace b.span.start (.plain "\x7b")).isPass := by
    rw [isPass_put_plain]
    exact Bool.false_ne_true
  rw [braces, List.filter_cons_of_neg hopening, BareBody.pass?, closing]
  cases b.loopBack? with
  | none => exact List.filter_cons_of_neg (by simp [isPass_put_plain])
  | some line => exact List.filter_cons_of_pos (isPass_bodyPass line b.span.stop)

/-- What a loop announces itself. -/
theorem filter_isPass_loopEdits? {l : Loop} {es : List Edit} (h : loopEdits? l = some es) :
    es.filter Edit.isPass = if l.isBare then [] else l.pass?.toList := by
  obtain ⟨back, hback, rfl⟩ := Option.map_eq_some_iff.1 h
  have htracker : ((l.variableName.toList.map fun name =>
      put .loopVariable l.bodyEntry (.tracker name)).filter Edit.isPass) = [] := by
    cases l.variableName <;> rfl
  rw [List.filter_append, loopHeaderEdits, List.filter_append, htracker, List.nil_append]
  by_cases hcounted : l.kind = .counted
  · have hnone : back = [] := by
      rw [loopBackEdit?, if_neg (by simp [hcounted])] at hback
      exact (Option.some.inj hback).symm
    have hbare : l.isBare = false := by simp [Loop.isBare, hcounted]
    rw [hnone, hbare, if_pos hcounted, if_neg Bool.false_ne_true, Loop.pass?, if_pos hcounted]
    cases l.updateAt? with
    | none => rfl
    | some offset => exact List.filter_cons_of_pos (isPass_headerPass l offset)
  · rw [if_neg hcounted, List.filter_nil, List.append_nil, Loop.pass?, if_neg hcounted]
    cases hblock : l.isBlock with
    | false =>
      rw [loopBackEdit?, if_neg (by simp [hblock])] at hback
      simp [Loop.isBare, hcounted, hblock, ← Option.some.inj hback]
    | true =>
      rw [loopBackEdit?, if_pos ⟨hcounted, hblock⟩, Loop.bodyExit?, if_pos hblock] at hback
      obtain ⟨offset, hoffset, rfl⟩ := Option.map_eq_some_iff.1 hback
      split at hoffset
      · cases hoffset
      · obtain rfl := Option.some.inj hoffset
        rw [Loop.isBare, hblock, Bool.not_true, Bool.and_false, if_neg Bool.false_ne_true,
          if_pos rfl]
        exact List.filter_cons_of_pos (isPass_blockPass l.line _)

end Collect

namespace Analysis

/-- The announcements of passes among the edits of an analysis: those of its bodies, innermost
first, and those of the loops that make them themselves. -/
theorem filter_isPass_edits {a : Analysis} {edits : List Edit} (h : a.edits? = some edits) :
    edits.filter Edit.isPass =
      a.bareBodies.reverse.filterMap BareBody.pass? ++
        (a.loops.filter (!·.isBare)).filterMap Loop.pass? := by
  obtain ⟨ess, hess, rfl⟩ := Option.map_eq_some_iff.1 h
  have hbodies : (a.bareBodies.reverse.flatMap braces).filter Edit.isPass =
      a.bareBodies.reverse.filterMap BareBody.pass? := by
    rw [List.filter_flatMap, List.filterMap_eq_flatMap_toList]
    exact List.flatMap_congr fun b _ => filter_isPass_braces b
  have hloops : ess.flatten.filter Edit.isPass =
      (a.loops.filter (!·.isBare)).filterMap Loop.pass? := by
    have hfilter : ess.map (List.filter Edit.isPass) =
        a.loops.map fun l => if l.isBare then [] else l.pass?.toList := by
      have hmap := congrArg (List.map fun es? : Option (List Edit) =>
        (es?.getD []).filter Edit.isPass) (mapM_eq_some_iff.1 hess)
      rw [List.map_map, List.map_map] at hmap
      refine (hmap.symm.trans (List.map_congr_left fun l hl => ?_))
      obtain ⟨es, hes⟩ := exists_loopEdits h hl
      rw [Function.comp_apply, hes]
      exact filter_isPass_loopEdits? hes
    rw [List.filter_flatten, hfilter, List.filterMap_filter, List.filterMap_eq_flatMap_toList,
      List.flatMap_def]
    congr 1
    refine List.map_congr_left fun l _ => ?_
    cases l.isBare <;> rfl
  -- what comes from the other places announces no pass
  have hnone : ∀ {es : List Edit}, (∀ e ∈ es, e.isPass = false) → es.filter Edit.isPass = [] := by
    intro es hes
    rw [List.filter_eq_nil_iff]
    exact fun e he => by simp [hes e he]
  have hfunctions : (a.functions.map functionEdit).filter Edit.isPass = [] := by
    refine hnone fun e he => ?_
    obtain ⟨f, -, rfl⟩ := List.mem_map.1 he
    exact isPass_put_plain ..
  have hsteps : (a.steps.filterMap stepEdit?).filter Edit.isPass = [] := by
    refine hnone fun e he => ?_
    obtain ⟨s, -, hs⟩ := List.mem_filterMap.1 he
    rw [stepEdit?] at hs
    split at hs
    · exact Option.some.inj hs ▸ rfl
    · cases hs
  have hdeclarations : (a.declarations.flatMap declarationEdits).filter Edit.isPass = [] := by
    refine hnone fun e he => ?_
    obtain ⟨d, -, hd⟩ := List.mem_flatMap.1 he
    obtain ⟨name, -, rfl⟩ := List.mem_map.1 hd
    rfl
  have haggregates : (a.aggregates.filterMap prototypeEdit?).filter Edit.isPass = [] := by
    refine hnone fun e he => ?_
    obtain ⟨g, -, hg⟩ := List.mem_filterMap.1 he
    obtain ⟨offset, -, rfl⟩ := Option.map_eq_some_iff.1 hg
    exact isPass_put_plain ..
  simp only [List.filter_append, hbodies, hfunctions, hloops, hsteps, hdeclarations, haggregates,
    List.append_nil]

/-- **The edits of an analysis that announce a pass** are those that announce a line, but neither
where a function is entered nor before a statement. -/
theorem isPass_iff_announces {a : Analysis} {edits : List Edit} (h : a.edits? = some edits)
    {e : Edit} (he : e ∈ edits) :
    e.isPass ↔ ∃ line, e.Announces line ∧ e.priority ≠ Slot.functionEntry.priority ∧
      e.content ≠ .step line := by
  constructor
  · intro hpass
    have hmem := List.mem_filter.2 ⟨he, hpass⟩
    rw [filter_isPass_edits h, List.mem_append, List.mem_filterMap, List.mem_filterMap] at hmem
    rcases hmem with ⟨b, -, hb⟩ | ⟨l, -, hl⟩
    · obtain ⟨line, -, rfl⟩ := Option.map_eq_some_iff.1 hb
      exact ⟨line, Edit.announces_bodyEnd _ line, priority_put_ne nofun, nofun⟩
    · unfold Loop.pass? at hl
      split at hl
      · obtain ⟨offset, -, rfl⟩ := Option.map_eq_some_iff.1 hl
        exact ⟨l.line, Edit.announces_iteration _ l, priority_put_ne nofun, nofun⟩
      · split at hl
        · obtain rfl := Option.some.inj hl
          exact ⟨l.line, Edit.announces_blockEnd _ l.line, priority_put_ne nofun, nofun⟩
        · obtain rfl := Option.some.inj hl
          exact ⟨l.line, Edit.announces_bodyEnd _ l.line, priority_put_ne nofun, nofun⟩
  · rintro ⟨line, hline, hslot, hcontent⟩
    rcases (mem_edits h).1 he with ⟨b, -, he⟩ | ⟨f, -, rfl⟩ | ⟨l, -, es, hes, he⟩ | ⟨s, -, hs⟩ |
      ⟨d, -, hd⟩ | ⟨g, -, hg⟩
    · have hback := announces_braces.1 ⟨e, he, hline⟩
      simp only [braces, closing, hback, List.mem_cons, List.not_mem_nil, or_false] at he
      rcases he with rfl | rfl
      · simpa using hline.slot
      · exact isPass_bodyPass line b.span.stop
    · exact absurd rfl hslot
    · rcases (mem_loopEdits? hes).1 he with ⟨-, -, -, rfl⟩ | ⟨name, -, rfl⟩ | ⟨offset, -, -, rfl⟩
      · exact isPass_blockPass l.line _
      · simpa using hline.slot
      · exact isPass_headerPass l offset
    · unfold stepEdit? at hs
      split at hs
      · obtain rfl := Option.some.inj hs
        exact absurd (congrArg EditContent.step
          ((Edit.announces_step s.offset s.line).unique hline)) hcontent
      · cases hs
    · obtain ⟨name, -, rfl⟩ := List.mem_map.1 hd
      simpa using hline.slot
    · obtain ⟨offset, -, rfl⟩ := Option.map_eq_some_iff.1 hg
      simpa using hline.slot

/-! ## 2. Bodies and the loops they belong to -/

open scoped List

/-- What the loop at a node leaves to its body to announce. -/
def barePass? (source : Text) (s : Spot) : Option Edit :=
  (Loop.ofNode? source s.node).bind fun l => if l.isBare then l.pass? else none

theorem inner_of_loopKind? {n : Node} {k : LoopKind} (h : n.kind.loopKind? = some k) :
    n.inner = (n.child? .body).toList.flatMap (Node.bodySpots n.loopBack?) := by
  unfold Kind.loopKind? at h
  split at h <;> simp_all [Node.inner]

/-- Directly below a statement a body announces a pass exactly if the statement is a loop that leaves
it to its body. -/
theorem filterMap_inner_pass? (source : Text) (s : Spot) :
    (s.node.inner.filterMap fun t => (BareBody.ofSpot? t).bind BareBody.pass?) =
      (barePass? source s).toList := by
  have hplain : ∀ block : Node,
      (block.blockSpots.filterMap fun t => (BareBody.ofSpot? t).bind BareBody.pass?) = [] := by
    intro block
    rw [Node.blockSpots, List.filterMap_map]
    exact List.filterMap_eq_nil_iff.2 fun _ _ => rfl
  cases hkind : s.node.kind.loopKind? with
  | none =>
    -- only loops give their bodies a line
    have hback : s.node.loopBack? = none := by simp [Node.loopBack?, hkind]
    have hloop : barePass? source s = none := by simp [barePass?, Loop.ofNode?, hkind]
    rw [hloop]
    refine List.filterMap_eq_nil_iff.2 fun t ht => ?_
    obtain ⟨node, stand | loopBack?⟩ := t
    · rfl
    · obtain ⟨-, -, rfl⟩ := Node.mem_inner_bare.1 ht
      simp [BareBody.ofSpot?, BareBody.pass?, hback]
  | some k =>
    rw [inner_of_loopKind? hkind]
    cases hbody : s.node.child? .body with
    | none => simp [barePass?, Loop.ofNode?, hkind, hbody]
    | some body =>
      rw [Option.toList_some, List.flatMap_singleton, Node.bodySpots]
      by_cases hblock : body.kind = .compoundStatement
      · rw [if_pos hblock, hplain]
        simp [barePass?, Loop.ofNode?, hkind, hbody, hblock, Loop.isBare]
      · rw [if_neg hblock]
        cases k <;>
          simp [barePass?, Loop.ofNode?, Node.loopBack?, hkind, hbody, hblock, Loop.isBare,
            BareBody.ofSpot?, BareBody.pass?, Loop.pass?]

/-- **The bodies below a statement and the loops among the statements match**: what the bodies
announce is what the loops leave to them.  The induction is on the statements below: a body stands
directly below the loop that it belongs to. -/
theorem perm_bareBelow (source : Text) (s : Spot) :
    (s.node.bareBelow.filterMap BareBody.pass?).Perm (s.all.filterMap (barePass? source)) := by
  induction s using Spot.induction_on_inner with
  | h s ih =>
    have hown : (s.node.bareBelow.filterMap BareBody.pass?) =
        s.node.inner.flatMap fun t => ((BareBody.ofSpot? t).bind BareBody.pass?).toList ++
          t.node.bareBelow.filterMap BareBody.pass? := by
      rw [Node.bareBelow_eq, List.filterMap_flatMap]
      refine List.flatMap_congr fun t _ => ?_
      rw [List.filterMap_append]
      cases BareBody.ofSpot? t with
      | none => rfl
      | some b => cases hb : b.pass? <;> simp [hb]
    calc s.node.bareBelow.filterMap BareBody.pass?
        = s.node.inner.flatMap fun t => ((BareBody.ofSpot? t).bind BareBody.pass?).toList ++
            t.node.bareBelow.filterMap BareBody.pass? := hown
      _ ~ s.node.inner.flatMap (fun t => ((BareBody.ofSpot? t).bind BareBody.pass?).toList) ++
            s.node.inner.flatMap fun t => t.node.bareBelow.filterMap BareBody.pass? :=
          (List.flatMap_append_perm _ _ _).symm
      _ ~ (barePass? source s).toList ++
            s.node.inner.flatMap fun t => t.all.filterMap (barePass? source) := by
          rw [← List.filterMap_eq_flatMap_toList, filterMap_inner_pass? source]
          exact (List.Perm.flatMap_left _ fun t ht => ih t ht).append_left _
      _ = s.all.filterMap (barePass? source) := by
          rw [Spot.all_eq, List.filterMap_cons, List.filterMap_flatMap]
          cases barePass? source s <;> rfl

/-- The bodies of a function and its loops match. -/
theorem Definition.perm_spots {source : Text} {n : Node} {d : Definition}
    (h : Definition.sound? source n = some d) :
    ((d.spots.filterMap BareBody.ofSpot?).filterMap BareBody.pass?).Perm
      (d.spots.filterMap (barePass? source)) := by
  obtain ⟨-, -, -, hkind, -⟩ := Definition.sound?_eq_some h
  have hblock : d.body.inner = d.body.blockSpots := by simp [Node.inner, hkind]
  have hnone : barePass? source ⟨d.body, .plain⟩ = none := by
    simp [barePass?, Loop.ofNode?, hkind, Kind.loopKind?]
  have hspots : (Spot.all ⟨d.body, .plain⟩).filterMap (barePass? source) =
      d.spots.filterMap (barePass? source) := by
    rw [Spot.all_eq, List.filterMap_cons_none hnone, hblock]
    rfl
  rw [Node.filterMap_spots h, ← hspots]
  exact perm_bareBelow source ⟨d.body, .plain⟩

/-- **The bodies of a program and its loops match.** -/
theorem perm_bareBodies (source : Text) (root : Node) :
    ((ofTree source root).bareBodies.filterMap BareBody.pass?).Perm
      (((ofTree source root).loops.filter Loop.isBare).filterMap Loop.pass?) := by
  have hloops : ((ofTree source root).loops.filter Loop.isBare).filterMap Loop.pass? =
      (definitions source root).flatMap fun d => d.spots.filterMap (barePass? source) := by
    rw [List.filterMap_filter, ofTree_loops, List.filterMap_flatMap]
    refine List.flatMap_congr fun d _ => ?_
    rw [Definition.loops, List.filterMap_filterMap]
    rfl
  rw [hloops, ofTree_bareBodies, List.filterMap_flatMap, List.filterMap_flatMap]
  refine List.Perm.flatMap_left _ fun d hd => ?_
  obtain ⟨n, -, hdef⟩ := exists_of_mem_definitions hd
  exact Definition.perm_spots hdef

/-- **The edits that announce passes are those of the loops.** -/
theorem perm_passes {source : Text} {root : Node} {edits : List Edit}
    (h : (ofTree source root).edits? = some edits) :
    (edits.filter Edit.isPass).Perm ((ofTree source root).loops.filterMap Loop.pass?) := by
  calc edits.filter Edit.isPass
      = (ofTree source root).bareBodies.reverse.filterMap BareBody.pass? ++
          ((ofTree source root).loops.filter (!·.isBare)).filterMap Loop.pass? :=
        filter_isPass_edits h
    _ ~ ((ofTree source root).loops.filter Loop.isBare).filterMap Loop.pass? ++
          ((ofTree source root).loops.filter (!·.isBare)).filterMap Loop.pass? :=
        (((List.reverse_perm _).filterMap _).trans (perm_bareBodies source root)).append_right _
    _ = ((ofTree source root).loops.filter Loop.isBare ++
          (ofTree source root).loops.filter (!·.isBare)).filterMap Loop.pass? :=
        List.filterMap_append.symm
    _ ~ (ofTree source root).loops.filterMap Loop.pass? :=
        (List.filter_append_perm _ _).filterMap _

end Analysis

/-! ## 3. Where loops announce their passes -/

namespace Syntax

open Analysis

/-- Every kind of loops but one is not counted. -/
theorem Kind.uncounted_of_loopKind? {kind : Kind} {k : LoopKind} (h : kind.loopKind? = some k)
    (hkind : kind ≠ .forStatement) :
    k ≠ .counted ∧ kind ∈ [.forRangeLoop, .whileStatement, .doStatement] := by
  unfold Kind.loopKind? at h
  split at h <;> cases h <;> simp_all

namespace Node

/-- What the grammar promises of counted loops: the header begins behind a token and ends with a
parenthesis in front of the body, and what is updated stands between the two. -/
def Headed (root : Node) : Prop :=
  ∀ n ∈ root.descendants, n.head.hasError = false → n.kind = .forStatement →
    ∀ body ∈ n.child? .body,
      (∀ c ∈ n.children, c.kind = .closeParen → c.start < c.stop) ∧
      ∃ c ∈ n.children, c.kind = .closeParen ∧ n.start < c.start ∧ c.stop ≤ body.start ∧
        ∀ u ∈ n.child? .update, n.start < u.stop ∧ u.stop ≤ c.start

instance (root : Node) : Decidable root.Headed :=
  inferInstanceAs (Decidable (∀ n ∈ root.descendants, _ → _ → ∀ body ∈ n.child? .body, _ ∧ _))

/-- Where and how the loop at a node announces its passes. -/
inductive PassAt (n body : Node) (l : Loop) : Edit → Prop
  /-- Behind what is updated. -/
  | update {u : Node} (hkind : n.kind = .forStatement) (hupdate : n.child? .update = some u)
      (hstart : n.start < u.stop) (hstop : u.stop < body.start) :
      PassAt n body l (headerPass l u.stop)
  /-- In front of the last closing parenthesis before the body, if nothing is updated. -/
  | headerEnd {front back : List Node} {c : Node} (hkind : n.kind = .forStatement)
      (hupdate : n.child? .update = none) (hchildren : n.children = front ++ c :: back)
      (hparen : c.kind = .closeParen) (hbefore : c.stop ≤ body.start)
      (hlast : ∀ t ∈ back, t.kind = .closeParen → body.start < t.stop)
      (hstart : n.start < c.start) (hstop : c.start < body.start) :
      PassAt n body l (headerPass l c.start)
  /-- In front of the brace that closes a block. -/
  | block {brace : Node} (hkind : n.kind ∈ [.forRangeLoop, .whileStatement, .doStatement])
      (hblock : body.kind = .compoundStatement) (hlast : body.children.getLast? = some brace)
      (hbrace : brace.kind = .closeBrace) (hstop : brace.start + 1 = body.stop) :
      PassAt n body l (blockPass l.line brace.start)
  /-- Within the brace that is put in behind a body without braces. -/
  | bare (hkind : n.kind ∈ [.forRangeLoop, .whileStatement, .doStatement])
      (hbare : body.kind ≠ .compoundStatement) :
      PassAt n body l (bodyPass l.line body.stop)

/-- The end of a header is at its last closing parenthesis. -/
theorem exists_of_headerEnd? {n body : Node} {offset : Nat} (h : headerEnd? n body = some offset) :
    ∃ front c back, n.children = front ++ c :: back ∧ c.kind = .closeParen ∧
      c.stop ≤ body.start ∧ (∀ t ∈ back, t.kind = .closeParen → body.start < t.stop) ∧
      offset = c.start := by
  obtain ⟨c, hc, rfl⟩ := Option.map_eq_some_iff.1 h
  obtain ⟨before, hbefore⟩ := List.getLast?_eq_some_iff.1 hc
  obtain ⟨front, rest, hchildren, -, hrest⟩ := List.filter_eq_append_iff.1 hbefore
  obtain ⟨mid, back, rfl, -, hparen, hback⟩ := List.filter_eq_cons_iff.1 hrest
  rw [Bool.and_eq_true, decide_eq_true_eq, decide_eq_true_eq] at hparen
  refine ⟨front ++ mid, c, back, by simp [hchildren], hparen.1, hparen.2, fun t ht htkind => ?_, rfl⟩
  simpa [htkind] using List.filter_eq_nil_iff.1 hback t ht

theorem PassAt.announces {n body : Node} {l : Loop} {e : Edit} (h : n.PassAt body l e) :
    e.Announces l.line := by
  cases h with
  | update | headerEnd => exact Edit.announces_iteration _ l
  | block => exact Edit.announces_blockEnd _ l.line
  | bare => exact Edit.announces_bodyEnd _ l.line

end Node

end Syntax

namespace Analysis

/-- Where a counted loop announces its passes. -/
theorem Loop.updateAt?_of_counted {source : Text} {n body : Node} {l : Loop}
    (h : ofNode? source n = some l) (hbody : n.child? .body = some body)
    (hkind : n.kind = .forStatement) :
    l.kind = .counted ∧
      l.updateAt? = ((n.child? .update).map Node.stop).or (headerEnd? n body) := by
  simp only [ofNode?, hkind, Kind.loopKind?, hbody, Option.bind_eq_bind, Option.bind_some] at h
  obtain rfl := Option.some.inj h
  simp

/-- A counted loop announces its passes in its header. -/
theorem exists_passAt_header {source : Text} {n body : Node} {l : Loop}
    (hparsed : n.Parsed source) (hheaded : n.Headed) (hsound : n.head.hasError = false)
    (hl : Loop.ofNode? source n = some l) (hbody : n.child? .body = some body)
    (hkind : n.kind = .forStatement) : ∃ e, l.pass? = some e ∧ n.PassAt body l e := by
  have hself := Node.mem_descendants_self n
  obtain ⟨hfilled, paren, hparen, hparenKind, hstart, hstop, hupdates⟩ :=
    hheaded n hself hsound hkind body hbody
  have hwidth := hfilled paren hparen hparenKind
  obtain ⟨hcounted, hupdateAt⟩ := Loop.updateAt?_of_counted hl hbody hkind
  rw [Loop.pass?, if_pos hcounted, hupdateAt]
  cases hupdate : n.child? .update with
  | some u =>
    obtain ⟨hustart, hustop⟩ := hupdates u hupdate
    exact ⟨_, rfl, .update hkind hupdate hustart (by omega)⟩
  | none =>
    -- the parenthesis that is promised is one of those before the body, so there is a last one
    obtain ⟨last, hlast⟩ : ∃ last, (n.children.filter fun c =>
        c.kind = .closeParen && c.stop ≤ body.start).getLast? = some last :=
      ⟨_, List.getLast?_eq_some_getLast (List.ne_nil_of_mem
        (List.mem_filter.2 ⟨hparen, by simp [hparenKind, hstop]⟩))⟩
    have hend : headerEnd? n body = some last.start := by rw [headerEnd?, hlast, Option.map_some]
    obtain ⟨front, c, back, hchildren, hckind, hbefore, hback, hoffset⟩ :=
      Node.exists_of_headerEnd? hend
    have hcwidth := hfilled c (by simp [hchildren]) hckind
    have hcstart : n.start < c.start := by
      have hordered := hparsed.ordered n hself
      rw [hchildren] at hparen hordered
      rcases List.mem_append.1 hparen with hfront | hrest
      · have := (List.pairwise_append.1 hordered).2.2 paren hfront c List.mem_cons_self
        omega
      rcases List.mem_cons.1 hrest with rfl | hparen
      · exact hstart
      · have := hback paren hparen hparenKind
        omega
    exact ⟨_, by rw [Option.map_none, Option.none_or, hend, Option.map_some, hoffset],
      .headerEnd hkind hupdate hchildren hckind hbefore hback hcstart (by omega)⟩

/-- The other loops announce their passes at the end of their bodies. -/
theorem exists_passAt_body {source : Text} {n body : Node} {l : Loop}
    (hparsed : n.Parsed source) (hsound : n.head.hasError = false)
    (hl : Loop.ofNode? source n = some l) (hbody : n.child? .body = some body)
    (hkind : n.kind ≠ .forStatement) : ∃ e, l.pass? = some e ∧ n.PassAt body l e := by
  obtain ⟨body', hbody', hspan, hblock, hloop, -⟩ := Loop.ofNode?_eq_some hl
  obtain rfl : body = body' := Option.some.inj (hbody.symm.trans hbody')
  have hchild := Node.mem_children_of_child? hbody
  obtain ⟨hcounted, hkind⟩ := Kind.uncounted_of_loopKind? hloop hkind
  rw [Loop.pass?, if_neg hcounted, hblock, hspan]
  by_cases hcompound : body.kind = .compoundStatement
  · obtain ⟨opening, inner, brace, hchildren, -, hbrace, hstop, -⟩ :=
      hparsed.exists_braces (Node.mem_descendants_of_mem_children (Node.mem_descendants_self n) hchild)
        hcompound (hparsed.errors n (Node.mem_descendants_self n) hsound body hchild)
    have hlast : body.children.getLast? = some brace := by
      rw [hchildren, ← List.cons_append, List.getLast?_concat]
    have hoffset : body.span.stop - 1 = brace.start := by
      change body.stop - 1 = _
      omega
    exact ⟨_, by rw [decide_eq_true hcompound, if_pos rfl, hoffset],
      .block hkind hcompound hlast hbrace hstop⟩
  · rw [decide_eq_false hcompound, if_neg Bool.false_ne_true]
    exact ⟨_, rfl, .bare hkind hcompound⟩

section OfTree

variable {source : Text} {root : Node} (hparsed : root.Parsed source) (hheaded : root.Headed)
include hparsed hheaded

/-- **Every loop announces its passes, and in the right place.** -/
theorem exists_passAt {d : Definition} (hd : d ∈ definitions source root) {s : Spot}
    (hs : s ∈ d.spots) {l : Loop} (hl : Loop.ofNode? source s.node = some l) :
    ∃ body e, s.node.child? .body = some body ∧ l.pass? = some e ∧ s.node.PassAt body l e := by
  obtain ⟨hmem, hsound⟩ := sound_of_mem_spots hparsed hd hs
  obtain ⟨body, hbody, -⟩ := Loop.ofNode?_eq_some hl
  have hn := hparsed.of_mem hmem
  by_cases hkind : s.node.kind = .forStatement
  · have hhead : s.node.Headed := fun m hm => hheaded m (Node.mem_descendants_trans hmem hm)
    obtain ⟨e, he, hat⟩ := exists_passAt_header hn hhead hsound hl hbody hkind
    exact ⟨body, e, hbody, he, hat⟩
  · obtain ⟨e, he, hat⟩ := exists_passAt_body hn hsound hl hbody hkind
    exact ⟨body, e, hbody, he, hat⟩

/-- **Passes of loops.**  The edits of a program that announce a line, but neither where a function
is entered nor before a statement, are one for each loop: in the header of a counted loop, and at the
end of the body of every other one.  The loops are those at statement level of the functions that
are looked through; they may stand in each other in any way and end at one offset. -/
theorem passes_of_parsed :
    ∃ set, (ofTree source root).editSet = .ok set ∧
      (∀ e ∈ set.edits, e.isPass ↔ ∃ line, e.Announces line ∧
        e.priority ≠ Slot.functionEntry.priority ∧ e.content ≠ .step line) ∧
      ∃ passes : List (Loop × Edit),
        passes.map Prod.fst = (ofTree source root).loops ∧
        (set.edits.filter Edit.isPass).Perm (passes.map Prod.snd) ∧
        (∀ l e, (l, e) ∈ passes → ∃ d ∈ definitions source root, ∃ n body,
          d.body.AtLevel .statement n ∧ Loop.ofNode? source n = some l ∧
          n.child? .body = some body ∧ n.PassAt body l e ∧ e.Announces n.line) ∧
        ∀ d ∈ definitions source root, ∀ n, d.body.AtLevel .statement n →
          n.kind.loopKind?.isSome → (n.child? .body).isSome →
          ∃ l ∈ (ofTree source root).loops, Loop.ofNode? source n = some l := by
  have hpass : ∀ l ∈ (ofTree source root).loops, ∃ d ∈ definitions source root, ∃ n body e,
      d.body.AtLevel .statement n ∧ Loop.ofNode? source n = some l ∧ n.child? .body = some body ∧
      l.pass? = some e ∧ n.PassAt body l e := by
    intro l hl
    rw [ofTree_loops] at hl
    obtain ⟨d, hd, hl⟩ := List.mem_flatMap.1 hl
    obtain ⟨s, hs, hl⟩ := List.mem_filterMap.1 hl
    obtain ⟨body, e, hbody, he, hat⟩ := exists_passAt hparsed hheaded hd hs hl
    exact ⟨d, hd, s.node, body, e, Definition.exists_mem_spots_iff.1 ⟨s, hs, rfl⟩, hl, hbody, he,
      hat⟩
  obtain ⟨edits, hedits⟩ := Option.isSome_iff_exists.1 (isSome_edits? hparsed)
  obtain ⟨set, hset, -, hsorted⟩ := exists_editSet hedits
  refine ⟨set, hset, fun e he => ?_,
    (ofTree source root).loops.filterMap fun l => l.pass?.map fun e => (l, e), ?loops, ?perm, ?place,
    ?every⟩
  · rw [hsorted, List.mem_mergeSort] at he
    exact isPass_iff_announces hedits he
  case loops =>
    rw [List.map_filterMap]
    refine (List.filterMap_congr fun l hl => ?_).trans List.filterMap_some
    obtain ⟨d, hd, n, body, e, -, -, -, he, -⟩ := hpass l hl
    rw [he]
    rfl
  case perm =>
    have hsnd : ((ofTree source root).loops.filterMap fun l => l.pass?.map fun e => (l, e)).map
        Prod.snd = (ofTree source root).loops.filterMap Loop.pass? := by
      rw [List.map_filterMap]
      refine List.filterMap_congr fun l _ => ?_
      cases l.pass? <;> rfl
    rw [hsorted, hsnd]
    exact ((List.mergeSort_perm _ _).filter _).trans (perm_passes hedits)
  case place =>
    intro l e hle
    obtain ⟨l', hl, hpair⟩ := List.mem_filterMap.1 hle
    obtain ⟨e', he', hpair⟩ := Option.map_eq_some_iff.1 hpair
    obtain ⟨rfl, rfl⟩ := Prod.mk.inj hpair
    obtain ⟨d, hd, n, body, e, hn, hof, hbody, he, hat⟩ := hpass l' hl
    obtain rfl : e = e' := Option.some.inj (he.symm.trans he')
    obtain ⟨-, -, -, -, -, hline, -⟩ := Loop.ofNode?_eq_some hof
    exact ⟨d, hd, n, body, hn, hof, hbody, hat, hline ▸ hat.announces⟩
  case every =>
    intro d hd n hn hkind hbody
    obtain ⟨s, hs, rfl⟩ := Definition.exists_mem_spots_iff.2 hn
    obtain ⟨k, hk⟩ := Option.isSome_iff_exists.1 hkind
    obtain ⟨body, hb⟩ := Option.isSome_iff_exists.1 hbody
    obtain ⟨l, hl⟩ : ∃ l, Loop.ofNode? source s.node = some l := by simp [Loop.ofNode?, hk, hb]
    refine ⟨l, ?_, hl⟩
    rw [ofTree_loops]
    exact List.mem_flatMap.2 ⟨d, hd, List.mem_filterMap.2 ⟨s, hs, hl⟩⟩

end OfTree

end Analysis

namespace NestedLoops

/-! A counted loop, a loop in it and a loop in that one, without braces, so that all three end at one
offset. -/

open ThreeLoops (rule token condition)

/-- The function. -/
def source : Text := "void f()\x7bfor(;;)while(1)while(2)g();\x7d"

/-- The call in the innermost loop. -/
def call : Node :=
  rule .expressionStatement .body 0 32 36
    [rule (.other "call_expression") .none 0 32 35
      [rule .identifier (.other "function") 0 32 33 [],
        rule (.other "argument_list") (.other "arguments") 0 33 35
          [token "(" 0 33, token ")" 0 34]],
      token ";" 0 35]

/-- The tree of the function. -/
def root : Node :=
  rule (.other "translation_unit") .none 0 0 37
    [rule .functionDefinition .none 0 0 37
      [rule (.other "primitive_type") .type 0 0 4 [],
        rule .functionDeclarator .declarator 0 5 8
          [rule .identifier .declarator 0 5 6 [],
            rule (.other "parameter_list") .parameters 0 6 8 [token "(" 0 6, token ")" 0 7]],
        rule .compoundStatement .body 0 8 37
          [token "\x7b" 0 8,
            rule .forStatement .none 0 9 36
              [token "for" 0 9, token "(" 0 12, token ";" 0 13, token ";" 0 14, token ")" 0 15,
                rule .whileStatement .body 0 16 36
                  [token "while" 0 16, condition 0 21,
                    rule .whileStatement .body 0 24 36
                      [token "while" 0 24, condition 0 29, call]]],
            token "\x7d" 0 36]]]

end NestedLoops

namespace Analysis

/-- Three loops that end at one offset announce their passes three times: the counted one before the
parenthesis, and the other ones each with a brace at that offset, alike as they are on one line. -/
theorem passes_of_parsed_nestedLoops :
    NestedLoops.root.Parsed NestedLoops.source ∧ NestedLoops.root.Headed ∧
      (ofTree NestedLoops.source NestedLoops.root).loops.map Loop.pass? =
        [some (put .beforeStep 15 (.plain "DEBUG_STEP(1)")),
          some (put .closingBrace 36 (.plain " DEBUG_STEP(1);  \x7d")),
          some (put .closingBrace 36 (.plain " DEBUG_STEP(1);  \x7d"))] ∧
      ∃ set, (ofTree NestedLoops.source NestedLoops.root).editSet = .ok set ∧
        (set.edits.filter Edit.isPass).length = 3 := by
  have hparsed : NestedLoops.root.Parsed NestedLoops.source := by decide +kernel
  have hheaded : NestedLoops.root.Headed := by decide +kernel
  have hloops : (ofTree NestedLoops.source NestedLoops.root).loops.map Loop.pass? =
      [some (put .beforeStep 15 (.plain "DEBUG_STEP(1)")),
        some (put .closingBrace 36 (.plain " DEBUG_STEP(1);  \x7d")),
        some (put .closingBrace 36 (.plain " DEBUG_STEP(1);  \x7d"))] := by decide +kernel
  obtain ⟨set, hset, -, passes, hfst, hperm, -⟩ := passes_of_parsed hparsed hheaded
  refine ⟨hparsed, hheaded, hloops, set, hset, ?_⟩
  calc (set.edits.filter Edit.isPass).length
      = (passes.map Prod.snd).length := hperm.length_eq
    _ = (passes.map Prod.fst).length := by rw [List.length_map, List.length_map]
    _ = ((ofTree NestedLoops.source NestedLoops.root).loops.map Loop.pass?).length := by
        rw [hfst, List.length_map]
    _ = 3 := by rw [hloops]; rfl

end Analysis

end Stepwise
