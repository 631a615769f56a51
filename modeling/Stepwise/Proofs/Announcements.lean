import Stepwise.Proofs.Bodies
import Stepwise.Proofs.Insertion
import Stepwise.Proofs.Record

/-!
# Announced lines

The lines on which a program can stop are collected from its functions and steps, and the hooks that
announce lines from its functions, statements, loops and bodies.  Both are the same lines: a step at
the end of a loop body is announced in the block of the loop or in front of the brace that closes
its body, and what a loop announces itself is the line of its own statement.

Main definitions and statements:

* `Edit.Announces`: the five kinds of edits that announce a line;
* `Edit.Announces.unique`: an edit announces one line at most;
* `Analysis.announced_iff`: what the edits of an analysis announce, place by place;
* `Instrumented.breakableLines_of_ofSource`: the lines on which an instrumented program can stop are
  those that are announced.
-/

namespace Stepwise

open Syntax Analysis

/-! ## 1. The line in the text of a hook -/

namespace Text

/-- A number is read off the digits behind which another character stands. -/
theorem ofNat_append_inj {m n : Nat} {c : Char} (hc : ∀ d < 16, c ≠ digitOf d) {t u : Text}
    (h : ofNat m ++ c :: t = ofNat n ++ c :: u) : m = n := by
  have hnot : ∀ k, c ∉ ofNat k := by
    intro k hmem
    obtain ⟨d, hd, rfl⟩ := mem_digits (by decide) (by decide) hmem
    exact hc d hd rfl
  have hfields := congrArg (fields c) h
  rw [fields_append, fields_append, fields_of_not_mem (hnot m), fields_of_not_mem (hnot n)]
    at hfields
  have hdigits : ofNat m = ofNat n := (List.cons.inj hfields).1
  have hread : ∀ k < m + n + 1, readDigits 10 (m + n + 1) 0 (ofNat k) = .ok k :=
    readDigits_digits (by decide) (by decide)
  have hm := hread m (by omega)
  rw [hdigits, hread n (by omega)] at hm
  exact (Except.ok.inj hm).symm

end Text

namespace Snippet

/-- Two string literals with anything behind them agree in what is behind them. -/
theorem escapeLiteral_append_inj {s t u v : Text}
    (h : escapeLiteral s ++ '"' :: u = escapeLiteral t ++ '"' :: v) : u = v := by
  have hcons : ∀ c (r : Text), escapeLiteral (c :: r) =
      (if c = '\\' ∨ c = '"' then ['\\', c] else [c]) ++ escapeLiteral r := fun _ _ => rfl
  have hquote : ∀ c (r w x : Text), escapeLiteral (c :: r) ++ w ≠ '"' :: x := by
    intro c r w x hx
    rw [hcons] at hx
    split at hx
    · cases (List.cons.inj hx).1
    · next hplain => exact hplain (.inr (List.cons.inj hx).1)
  induction s generalizing t with
  | nil =>
    cases t with
    | nil => exact (List.cons.inj h).2
    | cons d t => exact absurd h.symm (hquote d t _ _)
  | cons c s ih =>
    cases t with
    | nil => exact absurd h (hquote c s _ _)
    | cons d t =>
      rw [hcons, hcons] at h
      split at h <;> split at h
      · exact ih (List.cons.inj (List.cons.inj h).2).2
      · next hplain => exact absurd (.inl (List.cons.inj h).1.symm) hplain
      · next hplain _ => exact absurd (.inl (List.cons.inj h).1) hplain
      · exact ih (List.cons.inj h).2

end Snippet

/-! ## 2. Edits that announce a line -/

theorem Collect.Slot.eq_of_priority {s t : Slot} (h : s.priority = t.priority) : s = t := by
  cases s <;> cases t <;> first | rfl | exact absurd h (by decide)

namespace Edit

open Collect

/-- The edit announces the line: its text calls the hook of a step or of a pass with it.  The texts
are written out, up to the names in them. -/
inductive Announces (e : Edit) (line : Nat) : Prop
  /-- Where a function is entered, behind its frame. -/
  | entry (name rest : Text) (hslot : e.priority = Slot.functionEntry.priority)
      (htext : e.content.text = " FuncTracker _dbgf_frame(\"" ++ Snippet.escapeLiteral name ++
        "\"); DEBUG_STEP(" ++ Text.ofNat line ++ ");" ++ rest)
  /-- Before a statement. -/
  | statement (hslot : e.priority = Slot.beforeStep.priority)
      (htext : e.content.text = "DEBUG_STEP(" ++ Text.ofNat line ++ "); ")
  /-- At the end of the block of a loop. -/
  | blockEnd (hslot : e.priority = Slot.loopBack.priority)
      (htext : e.content.text = " DEBUG_STEP(" ++ Text.ofNat line ++ "); ")
  /-- In front of the brace that closes the body of a loop. -/
  | bodyEnd (hslot : e.priority = Slot.closingBrace.priority)
      (htext : e.content.text = " DEBUG_STEP(" ++ Text.ofNat line ++ ");  \x7d")
  /-- Between two passes of a loop, behind a comma if there is something to update. -/
  | pass (comma : Text) (hslot : e.priority = Slot.beforeStep.priority)
      (hcomma : comma = [] ∨ comma = ", ")
      (htext : e.content.text = comma ++ "DEBUG_STEP(" ++ Text.ofNat line ++ ")")
  /-- The same for a loop that counts with a variable. -/
  | countedPass (comma name : Text) (hslot : e.priority = Slot.beforeStep.priority)
      (hcomma : comma = [] ∨ comma = ", ")
      (htext : e.content.text = comma ++ "_debug_loop_step(" ++ Text.ofNat line ++ ", \"" ++
        name ++ "\", " ++ name ++ ")")

/-- What stands in front of the line and behind it in a text that begins with a call. -/
def callMarks : List (Text × Char) :=
  [(" DEBUG_STEP(", ')'), ("DEBUG_STEP(", ')'), (", DEBUG_STEP(", ')'), ("_debug_loop_step(", ','),
    (", _debug_loop_step(", ',')]

/-- A text that begins with a call tells one line. -/
theorem line_eq_of_callMarks {p q : Text × Char} (hp : p ∈ callMarks) (hq : q ∈ callMarks)
    {m n : Nat} {t u : Text}
    (h : p.1 ++ (Text.ofNat m ++ p.2 :: t) = q.1 ++ (Text.ofNat n ++ q.2 :: u)) : m = n := by
  -- no call begins like another one, so both are the same
  have hapart : ∀ p ∈ callMarks, ∀ q ∈ callMarks, p.1 <+: q.1 → p = q := by decide
  have hdigit : ∀ p ∈ callMarks, ∀ d < 16, p.2 ≠ Text.digitOf d := by decide
  have hsame : p = q := by
    have hleft : p.1 <+: p.1 ++ (Text.ofNat m ++ p.2 :: t) := ⟨_, rfl⟩
    have hright : q.1 <+: p.1 ++ (Text.ofNat m ++ p.2 :: t) := ⟨_, h.symm⟩
    rcases List.prefix_or_prefix_of_prefix hleft hright with hpq | hqp
    · exact hapart p hp q hq hpq
    · exact (hapart q hq p hp hqp).symm
  rw [hsame] at h
  exact Text.ofNat_append_inj (hdigit q hq) (List.append_cancel_left h)

/-- Everywhere but at the entry of a function the text begins with the call. -/
theorem Announces.exists_callMark {e : Edit} {line : Nat} (h : e.Announces line)
    (hslot : e.priority ≠ Slot.functionEntry.priority) :
    ∃ p ∈ callMarks, ∃ rest, e.content.text = p.1 ++ (Text.ofNat line ++ p.2 :: rest) := by
  cases h with
  | entry _ _ hentry => exact absurd hentry hslot
  | statement _ htext =>
    exact ⟨(_, ')'), .tail _ (.head _), "; ", htext.trans (List.append_assoc ..)⟩
  | blockEnd _ htext => exact ⟨(_, ')'), .head _, "; ", htext.trans (List.append_assoc ..)⟩
  | bodyEnd _ htext => exact ⟨(_, ')'), .head _, ";  \x7d", htext.trans (List.append_assoc ..)⟩
  | pass comma _ hcomma htext =>
    simp only [List.append_assoc] at htext
    rcases hcomma with rfl | rfl
    · exact ⟨(_, ')'), .tail _ (.head _), [], htext⟩
    · exact ⟨(_, ')'), .tail _ (.tail _ (.head _)), [], htext⟩
  | countedPass comma name _ hcomma htext =>
    simp only [List.append_assoc] at htext
    rcases hcomma with rfl | rfl
    · exact ⟨(_, ','), .tail _ (.tail _ (.tail _ (.head _))), _, htext⟩
    · exact ⟨(_, ','), .tail _ (.tail _ (.tail _ (.tail _ (.head _)))), _, htext⟩

/-- At the entry of a function it stands behind the frame. -/
theorem Announces.exists_entry {e : Edit} {line : Nat} (h : e.Announces line)
    (hslot : e.priority = Slot.functionEntry.priority) :
    ∃ name rest, e.content.text = " FuncTracker _dbgf_frame(\"" ++ Snippet.escapeLiteral name ++
      "\"); DEBUG_STEP(" ++ Text.ofNat line ++ ");" ++ rest := by
  cases h with
  | entry name rest _ htext => exact ⟨name, rest, htext⟩
  | statement h | blockEnd h | bodyEnd h | pass _ h | countedPass _ _ h =>
    exact absurd (h.symm.trans hslot) (by decide)

/-- **An edit announces one line at most.** -/
theorem Announces.unique {e : Edit} {m n : Nat} (hm : e.Announces m) (hn : e.Announces n) :
    m = n := by
  by_cases hslot : e.priority = Slot.functionEntry.priority
  · obtain ⟨name, rest, htext⟩ := hm.exists_entry hslot
    obtain ⟨name', rest', htext'⟩ := hn.exists_entry hslot
    rw [htext] at htext'
    simp only [List.append_assoc] at htext'
    have hbehind : ("); DEBUG_STEP(" : Text) ++ (Text.ofNat m ++ ')' :: _) =
        ("); DEBUG_STEP(" : Text) ++ (Text.ofNat n ++ ')' :: _) :=
      Snippet.escapeLiteral_append_inj (List.append_cancel_left htext')
    exact Text.ofNat_append_inj (by decide) (List.append_cancel_left hbehind)
  · obtain ⟨p, hp, t, htext⟩ := hm.exists_callMark hslot
    obtain ⟨q, hq, u, htext'⟩ := hn.exists_callMark hslot
    exact line_eq_of_callMarks hp hq (htext.symm.trans htext')

/-- Opening braces, trackers and declarations of printers stand in slots that announce nothing. -/
theorem Announces.slot {slot : Slot} {offset line : Nat} {content : EditContent}
    (h : (put slot offset content).Announces line) :
    slot = .functionEntry ∨ slot = .beforeStep ∨ slot = .loopBack ∨ slot = .closingBrace := by
  cases h with
  | entry _ _ hslot => exact .inl (Slot.eq_of_priority hslot)
  | statement hslot => exact .inr (.inl (Slot.eq_of_priority hslot))
  | pass _ hslot => exact .inr (.inl (Slot.eq_of_priority hslot))
  | countedPass _ _ hslot => exact .inr (.inl (Slot.eq_of_priority hslot))
  | blockEnd hslot => exact .inr (.inr (.inl (Slot.eq_of_priority hslot)))
  | bodyEnd hslot => exact .inr (.inr (.inr (Slot.eq_of_priority hslot)))

/-! Each of the five kinds of hooks announces its line. -/

theorem announces_functionEdit (f : Function) : (functionEdit f).Announces f.line := by
  refine .entry f.name (f.parameters.flatMap Snippet.tracker) rfl ?_
  change Snippet.entry f = _
  unfold Snippet.entry Snippet.stepCall
  simp only [List.append_assoc]
  rfl

theorem announces_step (offset line : Nat) :
    (put .beforeStep offset (.step line)).Announces line := by
  refine .statement rfl ?_
  change Snippet.step line = _
  unfold Snippet.step Snippet.stepCall
  simp only [List.append_assoc]
  rfl

theorem announces_blockEnd (offset line : Nat) :
    (put .loopBack offset (.plain (" " ++ Snippet.step line))).Announces line := by
  refine .blockEnd rfl ?_
  change " " ++ Snippet.step line = _
  unfold Snippet.step Snippet.stepCall
  simp only [List.append_assoc]
  rfl

theorem announces_bodyEnd (offset line : Nat) :
    (put .closingBrace offset (.plain (" " ++ Snippet.step line ++ " \x7d"))).Announces line := by
  refine .bodyEnd rfl ?_
  change " " ++ Snippet.step line ++ " \x7d" = _
  unfold Snippet.step Snippet.stepCall
  simp only [List.append_assoc]
  rfl

theorem announces_iteration (offset : Nat) (l : Loop) :
    (put .beforeStep offset (.plain (Snippet.iteration l))).Announces l.line := by
  generalize htext : Snippet.iteration l = text
  unfold Snippet.iteration Snippet.stepCall at htext
  cases hname : l.variableName <;> cases hupdate : l.hasUpdate <;>
    simp only [hname, hupdate, if_true, Bool.false_eq_true, if_false] at htext
  case none.false => exact .pass [] rfl (.inl rfl) htext.symm
  case none.true =>
    refine .pass ", " rfl (.inr rfl) (htext.symm.trans ?_)
    simp only [List.append_assoc]
  case some.false name => exact .countedPass [] name rfl (.inl rfl) htext.symm
  case some.true name =>
    refine .countedPass ", " name rfl (.inr rfl) (htext.symm.trans ?_)
    simp only [List.append_assoc]

/-- What closes a body and announces a line begins with the call. -/
theorem Announces.text_closingBrace {offset line : Nat} {text : Text}
    (h : (put .closingBrace offset (.plain text)).Announces line) :
    ∃ rest, text = " DEBUG_STEP(" ++ rest := by
  cases h with
  | bodyEnd _ htext => exact ⟨_, htext.trans (List.append_assoc ..)⟩
  | entry _ _ h | statement h | blockEnd h | pass _ h | countedPass _ _ h =>
    exact absurd (show Slot.closingBrace.priority = _ from h) (by decide)

end Edit

/-! ## 3. What the edits of an analysis announce -/

namespace Analysis

/-- The loop announces its line itself: at the end of its block, or between two passes. -/
def Loop.HasHook (l : Loop) : Prop :=
  (l.isBlock ∧ l.kind ≠ .counted ∧ l.body.stop ≠ 0) ∨ (l.kind = .counted ∧ l.updateAt?.isSome)

end Analysis

namespace Collect

/-- The braces of a body announce the line that the body repeats for its loop. -/
theorem announces_braces {b : BareBody} {line : Nat} :
    (∃ e ∈ braces b, e.Announces line) ↔ b.loopBack? = some line := by
  constructor
  · rintro ⟨e, he, hline⟩
    simp only [braces, List.mem_cons, List.not_mem_nil, or_false] at he
    rcases he with rfl | rfl
    · simpa using hline.slot
    · obtain ⟨rest, htext⟩ := hline.text_closingBrace
      unfold closing at htext
      split at htext
      · next repeated hb =>
        have hbody : (put .closingBrace b.span.stop (.plain (closing b))).Announces repeated := by
          simpa only [closing, hb] using Edit.announces_bodyEnd b.span.stop repeated
        rw [hb, hbody.unique hline]
      · exact absurd (List.cons.inj (List.cons.inj htext).2).1 (by decide)
  · intro hb
    refine ⟨_, .tail _ (.head _), ?_⟩
    simpa only [closing, hb] using Edit.announces_bodyEnd b.span.stop line

/-- The edits of a loop announce its own line if they announce one. -/
theorem announces_loopEdits {l : Loop} {es : List Edit} (h : loopEdits? l = some es)
    {line : Nat} : (∃ e ∈ es, e.Announces line) ↔ l.HasHook ∧ l.line = line := by
  constructor
  · rintro ⟨e, he, hline⟩
    rcases (mem_loopEdits? h).1 he with ⟨hblock, hkind, hstop, rfl⟩ | ⟨name, -, rfl⟩ |
      ⟨offset, hkind, hupdate, rfl⟩
    · exact ⟨.inl ⟨hblock, hkind, hstop⟩, (Edit.announces_blockEnd _ l.line).unique hline⟩
    · simpa using hline.slot
    · exact ⟨.inr ⟨hkind, hupdate ▸ rfl⟩, (Edit.announces_iteration offset l).unique hline⟩
  · rintro ⟨⟨hblock, hkind, hstop⟩ | ⟨hkind, hupdate⟩, rfl⟩
    · exact ⟨_, (mem_loopEdits? h).2 (.inl ⟨hblock, hkind, hstop, rfl⟩),
        Edit.announces_blockEnd _ l.line⟩
    · obtain ⟨offset, hoffset⟩ := Option.isSome_iff_exists.1 hupdate
      exact ⟨_, (mem_loopEdits? h).2 (.inr (.inr ⟨offset, hkind, hoffset, rfl⟩)),
        Edit.announces_iteration offset l⟩

end Collect

namespace Analysis

/-- **What the edits of an analysis announce**, place by place. -/
theorem announced_iff {a : Analysis} {edits : List Edit} (h : a.edits? = some edits) {line : Nat} :
    (∃ e ∈ edits, e.Announces line) ↔
      (∃ b ∈ a.bareBodies, b.loopBack? = some line) ∨ (∃ f ∈ a.functions, f.line = line) ∨
      (∃ l ∈ a.loops, l.HasHook ∧ l.line = line) ∨
      ∃ s ∈ a.steps, s.kind = .statement ∧ s.line = line := by
  constructor
  · rintro ⟨e, he, hline⟩
    rcases (mem_edits h).1 he with ⟨b, hb, he⟩ | ⟨f, hf, rfl⟩ | ⟨l, hl, es, hes, he⟩ |
      ⟨s, hs, he⟩ | ⟨d, -, he⟩ | ⟨g, -, he⟩
    · exact .inl ⟨b, hb, Collect.announces_braces.1 ⟨e, he, hline⟩⟩
    · exact .inr (.inl ⟨f, hf, (Edit.announces_functionEdit f).unique hline⟩)
    · exact .inr (.inr (.inl ⟨l, hl, (Collect.announces_loopEdits hes).1 ⟨e, he, hline⟩⟩))
    · unfold Collect.stepEdit? at he
      split at he
      · next hkind =>
        obtain rfl := Option.some.inj he
        exact .inr (.inr (.inr ⟨s, hs, hkind, (Edit.announces_step _ s.line).unique hline⟩))
      · cases he
    · obtain ⟨name, -, rfl⟩ := List.mem_map.1 he
      simpa using hline.slot
    · obtain ⟨offset, -, rfl⟩ := Option.map_eq_some_iff.1 he
      simpa using hline.slot
  · rintro (⟨b, hb, hback⟩ | ⟨f, hf, rfl⟩ | ⟨l, hl, hhook⟩ | ⟨s, hs, hkind, rfl⟩)
    · obtain ⟨e, he, hline⟩ := Collect.announces_braces.2 hback
      exact ⟨e, (mem_edits h).2 (.inl ⟨b, hb, he⟩), hline⟩
    · exact ⟨_, (mem_edits h).2 (.inr (.inl ⟨f, hf, rfl⟩)), Edit.announces_functionEdit f⟩
    · obtain ⟨es, hes⟩ := exists_loopEdits h hl
      obtain ⟨e, he, hline⟩ := (Collect.announces_loopEdits hes).2 hhook
      exact ⟨e, (mem_edits h).2 (.inr (.inr (.inl ⟨l, hl, es, hes, he⟩))), hline⟩
    · exact ⟨_, (mem_edits h).2 (.inr (.inr (.inr (.inl ⟨s, hs, if_pos hkind⟩)))),
        Edit.announces_step s.offset s.line⟩

end Analysis

/-! ## 4. What the statements of a program announce -/

namespace Syntax

theorem Kind.isStep_of_loopKind? {kind : Kind} {k : LoopKind} (h : kind.loopKind? = some k) :
    kind.isStep := by
  unfold loopKind? at h
  split at h <;> first | rfl | cases h

theorem Node.loopBack?_eq_some_iff {n : Node} {line : Nat} :
    n.loopBack? = some line ↔ (∃ k, n.kind.loopKind? = some k ∧ k ≠ .counted) ∧ n.line = line := by
  unfold loopBack?
  cases n.kind.loopKind? with
  | none => simp
  | some k => cases k <;> simp

theorem Node.mem_bodies_of_loopKind? {n body : Node} {k : LoopKind}
    (hkind : n.kind.loopKind? = some k) (hbody : n.child? .body = some body) : body ∈ n.bodies := by
  unfold Kind.loopKind? at hkind
  split at hkind <;> simp_all [bodies]

/-- Nodes that start at one offset start in one row. -/
def Node.SameRows (root : Node) : Prop :=
  ∀ m ∈ root.descendants, ∀ n ∈ root.descendants, m.start = n.start → m.head.row = n.head.row

instance (root : Node) : Decidable root.SameRows :=
  inferInstanceAs (Decidable (∀ m ∈ root.descendants, ∀ n ∈ root.descendants, _ → _))

end Syntax

namespace Analysis

section OfTree

variable {source : Text} {root : Node} {d : Definition} (hd : d ∈ definitions source root)
  {s : Spot} (hs : s ∈ d.spots)
include hd hs

/-- A statement of a kind that has a step has it in the analysis: its own, or an equal one of another
statement at its offset. -/
theorem mem_steps_of_isStep (hrows : root.SameRows) (hkind : s.node.kind.isStep) :
    ⟨.statement, s.node.start, s.node.line⟩ ∈ (ofTree source root).steps := by
  have hspot : s ∈ (definitions source root).flatMap Definition.spots :=
    List.mem_flatMap.2 ⟨d, hd, hs⟩
  have hown : (⟨.statement, s.node.start, s.node.line⟩ : Step) ∈ stepsAt source s :=
    mem_stepsAt.2 (.inl ⟨hkind, rfl⟩)
  obtain ⟨t, ht, htkind, hoffset⟩ :=
    exists_mem_distinctSteps (List.mem_flatMap.2 ⟨s, hspot, hown⟩) rfl
  have hmem : t ∈ (ofTree source root).steps := by
    rw [ofTree_steps, List.mem_mergeSort]
    exact ht
  obtain ⟨d', hd', u, hu, ht⟩ := exists_spot_of_mem_steps hmem
  rcases mem_stepsAt.1 ht with ⟨-, rfl⟩ | ⟨_, _, _, -, -, -, rfl⟩
  · obtain ⟨n, hn, hdef⟩ := exists_of_mem_definitions hd
    obtain ⟨n', hn', hdef'⟩ := exists_of_mem_definitions hd'
    have hrow := hrows _
      (Node.mem_descendants_trans hn' (mem_descendants_of_mem_spots hdef' hu)) _
      (Node.mem_descendants_trans hn (mem_descendants_of_mem_spots hdef hs)) hoffset
    have hline : u.node.line = s.node.line := congrArg (· + 1) hrow
    rwa [show u.node.start = s.node.start from hoffset, hline] at hmem
  · cases htkind

/-- The step of a loop at the end of its body is announced by the loop if the body is a block, and
otherwise by the body. -/
theorem exists_hook_of_loopBack {l : Loop} {line offset : Nat}
    (hl : Loop.ofNode? source s.node = some l) (hline : s.node.loopBack? = some line)
    (hexit : l.bodyExit? = some offset) :
    (∃ b ∈ (ofTree source root).bareBodies, b.loopBack? = some line) ∨
      ∃ k ∈ (ofTree source root).loops, k.HasHook ∧ k.line = line := by
  obtain ⟨body, hbody, hspan, hblock, hkind, hown, -⟩ := Loop.ofNode?_eq_some hl
  obtain ⟨⟨k, hk, hcounted⟩, hnode⟩ := Node.loopBack?_eq_some_iff.1 hline
  obtain rfl : l.kind = k := Option.some.inj (hkind.symm.trans hk)
  by_cases hcompound : body.kind = .compoundStatement
  · refine .inr ⟨l, ?_, .inl ⟨by simpa [hblock] using hcompound, hcounted, ?_⟩, hown.trans hnode⟩
    · exact mem_loops_iff.2 ⟨d, hd, s, hs, hl⟩
    · rintro hstop
      simp [Loop.bodyExit?, hblock, hcompound, hstop] at hexit
  · exact .inl ⟨_, mem_bareBodies.2 ⟨d, hd, s, hs, body,
      Node.mem_bodies_of_loopKind? hkind hbody, hcompound, rfl⟩, hline⟩

end OfTree

theorem mem_breakableLines {a : Analysis} {line : Nat} :
    line ∈ a.breakableLines.lines ↔
      (∃ f ∈ a.functions, f.line = line) ∨ ∃ s ∈ a.steps, s.line = line := by
  rw [breakableLines, LineSet.mem_ofList, List.mem_append, List.mem_map, List.mem_map]

/-- **The breakable lines of a tree are those that its edits announce.** -/
theorem mem_breakableLines_iff_announced {source : Text} {root : Node} (hrows : root.SameRows)
    {edits : List Edit} (h : (ofTree source root).edits? = some edits) {line : Nat} :
    line ∈ (ofTree source root).breakableLines.lines ↔ ∃ e ∈ edits, e.Announces line := by
  rw [mem_breakableLines, announced_iff h]
  constructor
  · rintro (hfunction | ⟨t, ht, rfl⟩)
    · exact .inr (.inl hfunction)
    · obtain ⟨d, hd, s, hs, hat⟩ := exists_spot_of_mem_steps ht
      rcases mem_stepsAt.1 hat with ⟨-, rfl⟩ | ⟨l, line, offset, hl, hline, hexit, rfl⟩
      · exact .inr (.inr (.inr ⟨_, ht, rfl, rfl⟩))
      · rcases exists_hook_of_loopBack hd hs hl hline hexit with hbody | hloop
        · exact .inl hbody
        · exact .inr (.inr (.inl hloop))
  · rintro (⟨b, hb, hline⟩ | hfunction | ⟨l, hl, -, rfl⟩ | ⟨t, ht, -, htline⟩)
    · -- a body repeats the line of the loop whose body it is
      obtain ⟨d, hd, s, hs, body, -, -, rfl⟩ := mem_bareBodies.1 hb
      obtain ⟨⟨k, hkind, -⟩, rfl⟩ := Node.loopBack?_eq_some_iff.1 hline
      exact .inr ⟨_, mem_steps_of_isStep hd hs hrows (Kind.isStep_of_loopKind? hkind), rfl⟩
    · exact .inl hfunction
    · obtain ⟨d, hd, s, hs, hl⟩ := mem_loops_iff.1 hl
      obtain ⟨-, -, -, -, hkind, hline, -⟩ := Loop.ofNode?_eq_some hl
      exact .inr ⟨_, mem_steps_of_isStep hd hs hrows (Kind.isStep_of_loopKind? hkind), hline.symm⟩
    · exact .inr ⟨t, ht, htline⟩

end Analysis

/-! ## 5. Instrumented programs -/

namespace Instrumented

/-- **The lines on which a program can stop are those that are announced**, if what starts at one
offset starts on one line.  So the program can stop on no other line than those that it announces,
and it announces all lines on which it can stop.  On a tree of a parse there is such a program. -/
theorem breakableLines_of_ofSource {source : Text} {root : Node} (hrows : root.SameRows) :
    (∀ i, ofSource source root = .ok i → ∃ edits, i.analysis.edits? = some edits ∧
      ∀ line, line ∈ i.breakableLines.lines ↔ ∃ e ∈ edits, e.Announces line) ∧
    (root.Parsed source → ∃ i, ofSource source root = .ok i) := by
  constructor
  · intro i hi
    obtain ⟨set, text, hset, -, rfl⟩ := ofSource_eq_ok.1 hi
    obtain ⟨edits, hedits, -⟩ := onlyInserts_of_editSet hset
    exact ⟨edits, hedits, fun line => mem_breakableLines_iff_announced hrows hedits⟩
  · intro hparsed
    obtain ⟨edits, set, first, ps, -, hset, -, -, -, -, -, htext⟩ :=
      exists_patches_of_parsed hparsed
    exact ⟨_, ofSource_eq_ok.2 ⟨set, _, hset, htext, rfl⟩⟩

end Instrumented

namespace ThreeLoops

/-! A loop whose body stands without braces, a loop whose body is a block and a counted loop, each
on a line of its own. -/

/-- The function. -/
def source : Text := "void f()\x7b\nwhile(1)\ng();\nwhile(2)\x7b\x7d\nfor(;;)\x7b\x7d\n\x7d"

/-- A node for a grammar rule. -/
def rule (kind : Kind) (role : Role) (row start stop : Nat) (children : List Node) : Node :=
  .mk ⟨kind, role, true, false, ⟨start, stop⟩, row⟩ children

/-- A bare token. -/
def token (text : Text) (row start : Nat) : Node :=
  .mk ⟨.ofName text, .none, false, false, ⟨start, start + Text.byteLength text⟩, row⟩ []

/-- A condition that is a digit. -/
def condition (row start : Nat) : Node :=
  rule (.other "condition_clause") (.other "condition") row start (start + 3)
    [token "(" row start,
      rule (.other "number_literal") (.other "value") row (start + 1) (start + 2) [],
      token ")" row (start + 2)]

/-- An empty block. -/
def block (row start : Nat) : Node :=
  rule .compoundStatement .body row start (start + 2)
    [token "\x7b" row start, token "\x7d" row (start + 1)]

/-- The call in the first loop. -/
def call : Node :=
  rule .expressionStatement .body 2 19 23
    [rule (.other "call_expression") .none 2 19 22
      [rule .identifier (.other "function") 2 19 20 [],
        rule (.other "argument_list") (.other "arguments") 2 20 22
          [token "(" 2 20, token ")" 2 21]],
      token ";" 2 22]

/-- The tree of the function. -/
def root : Node :=
  rule (.other "translation_unit") .none 0 0 46
    [rule .functionDefinition .none 0 0 46
      [rule (.other "primitive_type") .type 0 0 4 [],
        rule .functionDeclarator .declarator 0 5 8
          [rule .identifier .declarator 0 5 6 [],
            rule (.other "parameter_list") .parameters 0 6 8 [token "(" 0 6, token ")" 0 7]],
        rule .compoundStatement .body 0 8 46
          [token "\x7b" 0 8,
            rule .whileStatement .none 1 10 23 [token "while" 1 10, condition 1 15, call],
            rule .whileStatement .none 3 24 34 [token "while" 3 24, condition 3 29, block 3 32],
            rule .forStatement .none 4 35 44
              [token "for" 4 35, token "(" 4 38, token ";" 4 39, token ";" 4 40, token ")" 4 41,
                block 4 42],
            token "\x7d" 5 45]]]

end ThreeLoops

namespace Instrumented

/-- The function and its three loops announce the lines of the function, of the loops and of the
call. -/
theorem breakableLines_of_ofSource_threeLoops :
    ThreeLoops.root.SameRows ∧ ThreeLoops.root.Parsed ThreeLoops.source ∧
      ∃ (i : Instrumented) (edits : List Edit),
        ofSource ThreeLoops.source ThreeLoops.root = .ok i ∧ i.analysis.edits? = some edits ∧
        ∀ line, (line ∈ i.breakableLines.lines ↔ ∃ e ∈ edits, e.Announces line) ∧
          (line ∈ i.breakableLines.lines ↔ line ∈ [1, 2, 3, 4, 5]) := by
  have hrows : ThreeLoops.root.SameRows := by decide +kernel
  have hparsed : ThreeLoops.root.Parsed ThreeLoops.source := by decide +kernel
  obtain ⟨i, hi⟩ := (breakableLines_of_ofSource hrows).2 hparsed
  obtain ⟨edits, hedits, hannounced⟩ := (breakableLines_of_ofSource hrows).1 i hi
  refine ⟨hrows, hparsed, i, edits, hi, hedits, fun line => ⟨hannounced line, ?_⟩⟩
  obtain ⟨_, _, -, -, rfl⟩ := ofSource_eq_ok.1 hi
  have hfunctions : (definitions ThreeLoops.source ThreeLoops.root).map (·.function.line) =
      [1] := by decide +kernel
  have hsteps : (distinctSteps (((definitions ThreeLoops.source ThreeLoops.root).flatMap
      Definition.spots).flatMap (stepsAt ThreeLoops.source))).map (·.line) =
      [2, 2, 3, 4, 4, 5] := by decide +kernel
  rw [breakableLines, Analysis.breakableLines, LineSet.mem_ofList, ofTree_functions, ofTree_steps,
    List.mem_append, ((List.mergeSort_perm _ _).map _).mem_iff, hsteps, List.map_map]
  change line ∈ (definitions ThreeLoops.source ThreeLoops.root).map (·.function.line) ∨ _ ↔ _
  rw [hfunctions]
  simp only [List.mem_cons, List.not_mem_nil, or_false]
  omega

end Instrumented

end Stepwise
