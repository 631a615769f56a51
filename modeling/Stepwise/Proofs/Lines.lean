import Stepwise.Proofs.Insertion
import Stepwise.Proofs.Text

/-!
# Lines of instrumented programs

A program is compiled behind a line directive, so that a diagnostic tells the line on which a place
stands in the instrumented text, counted from its start.  This is the line of the source if no
newline is put in in front of that place.

What is put in holds a newline in two cases only.  The declaration of a printer begins with one, and
so every place behind the definition of a printed aggregate moves down by a line.  And names of
functions and variables are copied as they are written, which may be on several lines.

Main definitions and statements:

* `EditSet.OnlyInserts.exists_part`, `EditSet.OnlyInserts.exists_place`: where a part of the source
  stands in the edited text, and where a character of it does;
* `Analysis.KeepsLines`: no newline is put in at an offset up to the given one;
* `Instrumented.lines_of_ofSource`: how far every character of the source moves down, and when it
  stays on its line.
-/

namespace Stepwise

open Syntax

/-! ## 1. Newlines in what is put in -/

namespace Text

/-- A joined text holds a newline if a part does, for a separator without one. -/
theorem newline_mem_join_iff {mark : Text} (hmark : '\n' ∉ mark) {parts : List Text} :
    '\n' ∈ join mark parts ↔ ∃ part ∈ parts, '\n' ∈ part := by
  refine ⟨fun h => (mem_join h).resolve_left hmark, ?_⟩
  rintro ⟨part, hpart, h⟩
  induction parts with
  | nil => cases hpart
  | cons first parts ih =>
    cases parts with
    | nil =>
      obtain rfl := List.mem_singleton.1 hpart
      exact h
    | cons next parts =>
      have hjoin : join mark (first :: next :: parts) =
        first ++ mark ++ join mark (next :: parts) := rfl
      rw [hjoin, List.mem_append, List.mem_append]
      rcases List.mem_cons.1 hpart with rfl | hpart
      · exact .inl (.inl h)
      · exact .inr (ih hpart)

theorem append_eq_append_of_le {s t u v : Text} (h : s ++ t = u ++ v)
    (hle : byteLength s ≤ byteLength u) : ∃ w, u = s ++ w ∧ t = w ++ v := by
  rcases List.append_eq_append_iff.1 h with ⟨w, hu, ht⟩ | ⟨more, rfl, hmore⟩
  · exact ⟨w, hu, ht⟩
  · rw [byteLength_append] at hle
    obtain rfl := eq_nil_of_byteLength (t := more) (by omega)
    exact ⟨[], by simp, by simpa using hmore.symm⟩

/-- An offset of a text lies in front of a character of it or behind it. -/
theorem IsOffset.le_or_le {before after : Text} {c : Char} {n : Nat}
    (h : (before ++ [c] ++ after).IsOffset n) :
    n ≤ byteLength before ∨ byteLength (before ++ [c]) ≤ n := by
  obtain ⟨head, rest, heq, rfl⟩ := h
  by_cases hle : byteLength head ≤ byteLength before
  · exact .inl hle
  · rw [List.append_assoc] at heq
    obtain ⟨w, rfl, hw⟩ := append_eq_append_of_le heq (by omega)
    cases w with
    | nil => simp at hle
    | cons d w =>
      obtain rfl : c = d := (List.cons.inj hw).1
      refine .inr ?_
      simp only [byteLength_append, byteLength]
      omega

/-- A written number holds no newline. -/
theorem newline_not_mem_ofNat (n : Nat) : '\n' ∉ ofNat n := by
  have hdigit : ∀ d < 10, '\n' ≠ digitOf d := by decide
  rw [ofNat]
  induction n using Nat.strong_induction_on with
  | _ n ih =>
    rw [digits]
    split
    · next hn =>
      rw [List.mem_append, List.mem_singleton, not_or]
      exact ⟨ih (n / 10) (Nat.div_lt_self (by omega) (by omega)), hdigit _ (Nat.mod_lt _ (by decide))⟩
    · next hn =>
      rw [List.mem_singleton]
      exact hdigit n (by omega)

end Text

namespace Snippet

open Analysis

theorem newline_not_mem_stepCall (line : Nat) : '\n' ∉ stepCall line := by
  unfold stepCall
  rw [List.mem_append, List.mem_append, not_or, not_or]
  exact ⟨⟨by decide, Text.newline_not_mem_ofNat line⟩, by decide⟩

theorem newline_not_mem_step (line : Nat) : '\n' ∉ step line := by
  unfold step
  rw [List.mem_append, not_or]
  exact ⟨newline_not_mem_stepCall line, by decide⟩

/-- Escaping keeps the newlines of a text. -/
theorem newline_mem_escapeLiteral_iff (t : Text) : '\n' ∈ escapeLiteral t ↔ '\n' ∈ t := by
  rw [escapeLiteral, List.mem_flatMap]
  refine ⟨fun ⟨c, hc, h⟩ => ?_, fun h => ⟨'\n', h, by decide⟩⟩
  split at h
  · rw [List.mem_cons, List.mem_singleton] at h
    rcases h with h | rfl
    · cases h
    · exact hc
  · rw [List.mem_singleton] at h
    exact h ▸ hc

theorem newline_mem_tracker_iff (name : Text) : '\n' ∈ tracker name ↔ '\n' ∈ name := by
  have h₁ : '\n' ∉ (" Tracer _dbg_" : Text) := by decide
  have h₂ : '\n' ∉ ("(\"" : Text) := by decide
  have h₃ : '\n' ∉ ("\", " : Text) := by decide
  have h₄ : '\n' ∉ (");" : Text) := by decide
  unfold tracker
  simp only [List.mem_append, h₁, h₂, h₃, h₄, false_or, or_false, or_self]

theorem newline_mem_entry_iff (f : Function) :
    '\n' ∈ entry f ↔ '\n' ∈ f.name ∨ ∃ p ∈ f.parameters, '\n' ∈ p := by
  have h₁ : '\n' ∉ (" FuncTracker _dbgf_frame(\"" : Text) := by decide
  have h₂ : '\n' ∉ ("\"); " : Text) := by decide
  have h₃ : '\n' ∉ (";" : Text) := by decide
  have h₄ := newline_not_mem_stepCall f.line
  unfold entry
  simp only [List.mem_append, List.mem_flatMap, newline_mem_tracker_iff,
    newline_mem_escapeLiteral_iff, h₁, h₂, h₃, h₄, false_or, or_false]

theorem newline_mem_iteration_iff (l : Loop) :
    '\n' ∈ iteration l ↔ ∃ name, l.variableName = some name ∧ '\n' ∈ name := by
  have h₁ : '\n' ∉ ("_debug_loop_step(" : Text) := by decide
  have h₂ : '\n' ∉ (", \"" : Text) := by decide
  have h₃ : '\n' ∉ ("\", " : Text) := by decide
  have h₄ : '\n' ∉ (")" : Text) := by decide
  have h₅ : '\n' ∉ (", " : Text) := by decide
  have hline := Text.newline_not_mem_ofNat l.line
  have hcall := newline_not_mem_stepCall l.line
  unfold iteration
  cases l.variableName <;> cases l.hasUpdate <;>
    simp only [List.mem_append, h₁, h₂, h₃, h₄, h₅, hline, hcall, false_or, or_false, or_self,
      Bool.false_eq_true, if_false, if_true, Option.some.injEq, exists_eq_left', reduceCtorEq,
      false_and, exists_const]

theorem newline_mem_prototype (a : Aggregate) : '\n' ∈ prototype a :=
  List.mem_append_left _ (List.mem_append_left _ (by decide))

end Snippet

/-! ## 2. Where the characters of a source stand -/

namespace Patch

open Text

/-- No site is in front of the first offset. -/
theorem le_of_fits {n : Nat} {ps : List Patch} (h : Fits n ps) :
    ∀ t ∈ ps.map site, n ≤ t.offset := by
  induction ps generalizing n with
  | nil => simp
  | cons p ps ih =>
    obtain ⟨hoffset, -, hps⟩ := h
    intro t ht
    rcases List.mem_cons.1 ht with rfl | ht
    · exact hoffset.ge
    · exact Nat.le_trans (Nat.le_add_right _ _) (ih hps t ht)

/-- In front of a part of the source in which there is no site stand the sites up to its offset, and
nothing else. -/
theorem exists_front {m : Nat} {first : Text} {ps : List Patch} {before part after : Text}
    (hfits : Fits (m + byteLength first) ps) (hgone : ∀ p ∈ ps, p.gone = [])
    (hfree : ∀ t ∈ ps.map site, t.offset ≤ m + byteLength before ∨
      m + byteLength (before ++ part) ≤ t.offset)
    (h : first ++ plain ps = before ++ part ++ after) :
    ∃ first' front after', Fits (m + byteLength first') front ∧ (∀ p ∈ front, p.gone = []) ∧
      front.map site = (ps.map site).filter (·.offset ≤ m + byteLength before) ∧
      before = first' ++ plain front ∧
      first ++ edited ps = first' ++ edited front ++ part ++ after' := by
  induction ps generalizing m first before with
  | nil =>
    refine ⟨before, [], after, trivial, by simp, rfl, by simp, ?_⟩
    simpa using h
  | cons p ps ih =>
    have hle := le_of_fits hfits
    obtain ⟨hoffset, hstop, hps⟩ := hfits
    obtain ⟨hp, hgone⟩ := List.forall_mem_cons.1 hgone
    rw [plain_cons, hp, List.nil_append] at h
    rw [hp, List.nil_append] at hps
    by_cases hat : p.site.offset ≤ m + byteLength before
    · -- the part stands behind the first site
      rw [List.append_assoc before] at h
      obtain ⟨u, rfl, hrest⟩ := append_eq_append_of_le h (by omega)
      have hlen := byteLength_append first u
      have hlen' := byteLength_append first (u ++ part)
      obtain ⟨first', front, after', hfront, hgone', hsites, rfl, hedited⟩ :=
        @ih (m + byteLength first) p.kept u hps hgone
          (fun t ht => by
            have := hfree t (List.mem_cons_of_mem _ ht)
            rw [List.append_assoc first] at this
            omega)
          (by rw [hrest, List.append_assoc])
      refine ⟨first, ⟨p.site, [], first'⟩ :: front, after', ⟨hoffset, by rw [hstop, hp], hfront⟩,
        List.forall_mem_cons.2 ⟨rfl, hgone'⟩, ?_, by simp, ?_⟩
      · rw [List.map_cons, List.map_cons, List.filter_cons_of_pos (by simpa using hat), hsites,
          hlen, Nat.add_assoc]
      · rw [edited_cons, edited_cons, List.append_assoc p.site.text, hedited]
        simp only [List.append_assoc]
    · -- the part stands in front of the first site, and so of all others
      have hbehind := (hfree p.site List.mem_cons_self).resolve_left hat
      obtain ⟨more, rfl, -⟩ := append_eq_append_of_le h.symm (by omega)
      refine ⟨before, [], more ++ edited (p :: ps), trivial, by simp, ?_, by simp, by simp⟩
      rw [List.map_nil, eq_comm, List.filter_eq_nil_iff]
      intro t ht
      have := hle t ht
      rw [decide_eq_true_eq]
      omega

/-- How many more newlines the edited source has than the source. -/
theorem count_edited {ps : List Patch} (hgone : ∀ p ∈ ps, p.gone = []) :
    (edited ps).count '\n' =
      (plain ps).count '\n' + (ps.flatMap fun p => p.site.text).count '\n' := by
  induction ps with
  | nil => rfl
  | cons p ps ih =>
    obtain ⟨hp, hgone⟩ := List.forall_mem_cons.1 hgone
    rw [edited_cons, plain_cons, hp, List.nil_append, List.flatMap_cons]
    simp only [List.count_append, ih hgone]
    omega

end Patch

namespace EditSet

open Text

/-- The sites of a set up to an offset. -/
def upTo (s : EditSet) (n : Nat) : EditSet := ⟨s.sites.filter (·.offset ≤ n)⟩

/-- The newlines that a set puts in. -/
def newlines (s : EditSet) : Nat := (s.sites.flatMap EditSite.text).count '\n'

/-- **Where a part of the source stands in the edited text**, if there is no site in it: behind the
source in front of it, with the sites up to its offset applied. -/
theorem OnlyInserts.exists_part {s : EditSet} (h : s.OnlyInserts) {source text : Text}
    (hs : s.splice? source = some text) {before part after : Text}
    (hfree : ∀ site ∈ s.sites, site.offset ≤ byteLength before ∨
      byteLength (before ++ part) ≤ site.offset)
    (hsource : source = before ++ part ++ after) :
    ∃ before' after', text = before' ++ part ++ after' ∧
      (s.upTo (byteLength before)).splice? before = some before' ∧
      before'.count '\n' = before.count '\n' + (s.upTo (byteLength before)).newlines := by
  obtain ⟨first, ps, hps, hfits, rfl, rfl⟩ := (splice?_eq_some_iff h.pairwise).1 hs
  obtain ⟨first', front, after', hfront, hgone, hsites, rfl, hedited⟩ :=
    Patch.exists_front (m := 0) (by simpa using hfits) (h.gone_eq_nil hps hfits)
      (by simpa [hps] using hfree) hsource
  have hupTo : s.upTo (byteLength (first' ++ Patch.plain front)) = ⟨front.map Patch.site⟩ := by
    rw [upTo, ← hps, hsites, Nat.zero_add]
  rw [Nat.zero_add] at hfront
  refine ⟨_, after', hedited, ?_, ?_⟩
  · rw [hupTo, splice?_of_fits hfront]
  · rw [hupTo, newlines, List.flatMap_map, List.count_append, List.count_append,
      Patch.count_edited hgone, Nat.add_assoc]

/-- There is no site in a character of the source. -/
theorem OnlyInserts.exists_place {s : EditSet} (h : s.OnlyInserts) {source text : Text}
    (hs : s.splice? source = some text) {before after : Text} {c : Char}
    (hsource : source = before ++ c :: after) :
    ∃ before' after', text = before' ++ c :: after' ∧
      (s.upTo (byteLength before)).splice? before = some before' ∧
      before'.count '\n' = before.count '\n' + (s.upTo (byteLength before)).newlines := by
  have hpart : source = before ++ [c] ++ after := by simpa using hsource
  have hfree : ∀ site ∈ s.sites, site.offset ≤ byteLength before ∨
      byteLength (before ++ [c]) ≤ site.offset := fun site hsite =>
    (hpart ▸ (isOffset_of_splice? h.pairwise hs site hsite).2.1).le_or_le
  obtain ⟨before', after', rfl, hbefore, hcount⟩ := h.exists_part hs hfree hpart
  exact ⟨before', after', by simp, hbefore, hcount⟩

theorem OnlyInserts.mem_edits_upTo {s : EditSet} (h : s.OnlyInserts) {n : Nat} {e : Edit} :
    e ∈ (s.upTo n).edits ↔ e ∈ s.edits ∧ e.start ≤ n := by
  simp only [mem_edits, upTo, List.mem_filter, decide_eq_true_eq]
  refine ⟨?_, ?_⟩
  · rintro ⟨site, ⟨hsite, hle⟩, he⟩
    exact ⟨⟨site, hsite, he⟩, ((h.inserts site hsite).inserts e he).1 ▸ hle⟩
  · rintro ⟨⟨site, hsite, he⟩, hle⟩
    exact ⟨site, ⟨hsite, ((h.inserts site hsite).inserts e he).1 ▸ hle⟩, he⟩

/-- A set puts in no newline if none of its edits does. -/
theorem newlines_eq_zero_iff {s : EditSet} :
    s.newlines = 0 ↔ ∀ e ∈ s.edits, '\n' ∉ e.content.text := by
  have hsite : ∀ site : EditSite,
      '\n' ∉ site.text ↔ ∀ e ∈ site.edits, '\n' ∉ e.content.text := fun site => by
    have hblank : '\n' ∉ (" " : Text) := by decide
    rw [EditSite.text, newline_mem_join_iff hblank]
    simp
  rw [newlines, List.count_eq_zero, List.mem_flatMap, not_exists]
  simp only [not_and, hsite, mem_edits]
  refine ⟨?_, fun hs site hmem e he => hs e ⟨site, hmem, he⟩⟩
  rintro hs e ⟨site, hmem, he⟩
  exact hs site hmem e he

end EditSet

/-! ## 3. Which edits put in newlines -/

namespace Collect

open Analysis

/-- The braces of a body are put in on one line. -/
theorem newline_not_mem_braces {b : BareBody} {e : Edit} (he : e ∈ braces b) :
    '\n' ∉ e.content.text := by
  rw [braces, List.mem_cons, List.mem_singleton] at he
  rcases he with rfl | rfl
  · change '\n' ∉ ("\x7b" : Text)
    decide
  · change '\n' ∉ closing b
    unfold closing
    split
    · next line _ =>
      rw [List.mem_append, List.mem_append, not_or, not_or]
      exact ⟨⟨by decide, Snippet.newline_not_mem_step line⟩, by decide⟩
    · decide

theorem newline_not_mem_stepEdit {s : Step} {e : Edit} (he : stepEdit? s = some e) :
    '\n' ∉ e.content.text := by
  rw [stepEdit?] at he
  split at he
  · exact Option.some.inj he ▸ Snippet.newline_not_mem_step s.line
  · cases he

/-- A loop puts in a newline with the name of its variable only. -/
theorem newline_mem_loopEdits_iff {l : Loop} {es : List Edit} (h : loopEdits? l = some es)
    (n : Nat) :
    (∀ e ∈ es, '\n' ∈ e.content.text → n < e.start) ↔
      ∀ name, l.variableName = some name → '\n' ∈ name →
        n < l.bodyEntry ∧ (l.kind = .counted → ∀ offset, l.updateAt? = some offset → n < offset) := by
  refine ⟨fun hes name hname hn => ⟨?_, fun hcounted offset hoffset => ?_⟩, fun hl e he hn => ?_⟩
  · exact hes _ ((mem_loopEdits? h).2 (.inr (.inl ⟨name, hname, rfl⟩)))
      ((Snippet.newline_mem_tracker_iff name).2 hn)
  · exact hes _ ((mem_loopEdits? h).2 (.inr (.inr ⟨offset, hcounted, hoffset, rfl⟩)))
      ((Snippet.newline_mem_iteration_iff l).2 ⟨name, hname, hn⟩)
  · rcases (mem_loopEdits? h).1 he with ⟨-, -, -, rfl⟩ | ⟨name, hname, rfl⟩ |
      ⟨offset, hcounted, hoffset, rfl⟩
    · change '\n' ∈ (" " : Text) ++ Snippet.step l.line at hn
      rcases List.mem_append.1 hn with hn | hn
      · exact absurd hn (by decide)
      · exact absurd hn (Snippet.newline_not_mem_step l.line)
    · exact (hl name hname ((Snippet.newline_mem_tracker_iff name).1 hn)).1
    · obtain ⟨name, hname, hn⟩ := (Snippet.newline_mem_iteration_iff l).1 hn
      exact (hl name hname hn).2 hcounted offset hoffset

end Collect

namespace Analysis

/-- No newline is put in at an offset up to the given one: no printer is declared there, and no name
is copied there that is written on several lines. -/
structure KeepsLines (a : Analysis) (n : Nat) : Prop where
  /-- The printers of aggregates are declared behind the offset. -/
  prototypes : ∀ g ∈ a.aggregates, ∀ offset, g.prototypeAt? = some offset → n < offset
  /-- The names that the entry of a function copies are on one line, if it is not behind the
  offset. -/
  functions : ∀ f ∈ a.functions, ('\n' ∈ f.name ∨ ∃ p ∈ f.parameters, '\n' ∈ p) → n < f.entry
  /-- So is the variable of a loop, which is copied to the top of its body and behind its update
  clause. -/
  loops : ∀ l ∈ a.loops, ∀ name, l.variableName = some name → '\n' ∈ name →
    n < l.bodyEntry ∧ (l.kind = .counted → ∀ offset, l.updateAt? = some offset → n < offset)
  /-- So are the variables that are declared. -/
  declarations : ∀ d ∈ a.declarations, ∀ name ∈ d.names, '\n' ∈ name → n < d.offset

/-- **The edits that put in newlines.** -/
theorem keepsLines_iff {a : Analysis} {edits : List Edit} (h : a.edits? = some edits) {n : Nat} :
    a.KeepsLines n ↔ ∀ e ∈ edits, '\n' ∈ e.content.text → n < e.start := by
  refine ⟨fun ha e he hn => ?_, fun hedits => ⟨?_, ?_, ?_, ?_⟩⟩
  · rcases (mem_edits h).1 he with ⟨b, -, he⟩ | ⟨f, hf, rfl⟩ | ⟨l, hl, es, hes, he⟩ |
      ⟨s, -, he⟩ | ⟨d, hd, he⟩ | ⟨g, hg, he⟩
    · exact absurd hn (Collect.newline_not_mem_braces he)
    · exact ha.functions f hf ((Snippet.newline_mem_entry_iff f).1 hn)
    · exact (Collect.newline_mem_loopEdits_iff hes n).2 (ha.loops l hl) e he hn
    · exact absurd hn (Collect.newline_not_mem_stepEdit he)
    · obtain ⟨name, hname, rfl⟩ := List.mem_map.1 he
      exact ha.declarations d hd name hname ((Snippet.newline_mem_tracker_iff name).1 hn)
    · obtain ⟨offset, hoffset, rfl⟩ := Option.map_eq_some_iff.1 he
      exact ha.prototypes g hg offset hoffset
  · intro g hg offset hoffset
    refine hedits (Collect.put .declared offset (.plain (Snippet.prototype g))) ?_
      (Snippet.newline_mem_prototype g)
    refine (mem_edits h).2 (.inr (.inr (.inr (.inr (.inr ⟨g, hg, ?_⟩)))))
    rw [Collect.prototypeEdit?, hoffset, Option.map_some]
  · intro f hf hn
    exact hedits _ ((mem_edits h).2 (.inr (.inl ⟨f, hf, rfl⟩)))
      ((Snippet.newline_mem_entry_iff f).2 hn)
  · intro l hl
    obtain ⟨es, hes⟩ := exists_loopEdits h hl
    exact (Collect.newline_mem_loopEdits_iff hes n).1 fun e he =>
      hedits e ((mem_edits h).2 (.inr (.inr (.inl ⟨l, hl, es, hes, he⟩))))
  · intro d hd name hname hn
    exact hedits (Collect.put .declared d.offset (.tracker name))
      ((mem_edits h).2 (.inr (.inr (.inr (.inr (.inl ⟨d, hd, List.mem_map_of_mem hname⟩))))))
      ((Snippet.newline_mem_tracker_iff name).2 hn)

end Analysis

/-! ## 4. Lines of the instrumented program -/

namespace Instrumented

/-- **Where the characters of a source stand in the instrumented program.**  Every character keeps
its place among the others.  In front of it stand the source in front of it and the edits up to its
offset, so it moves down by the newlines of those edits; it stays on its line if none of them puts in
a newline. -/
theorem lines_of_ofSource {source : Text} {root : Node} {i : Instrumented}
    (h : ofSource source root = .ok i) :
    ∃ set, i.analysis.editSet = .ok set ∧
      ∀ before c after, source = before ++ c :: after →
        ∃ before' after', i.source = before' ++ c :: after' ∧
          (set.upTo (Text.byteLength before)).splice? before = some before' ∧
          before'.count '\n' =
            before.count '\n' + (set.upTo (Text.byteLength before)).newlines ∧
          (before'.count '\n' = before.count '\n' ↔
            i.analysis.KeepsLines (Text.byteLength before)) := by
  obtain ⟨set, text, heditSet, hsplice, rfl⟩ := ofSource_eq_ok.1 h
  obtain ⟨edits, hedits, hset, hsorted⟩ := Analysis.onlyInserts_of_editSet heditSet
  refine ⟨set, heditSet, fun before c after hsource => ?_⟩
  obtain ⟨before', after', rfl, hbefore, hcount⟩ := hset.exists_place hsplice hsource
  refine ⟨before', after' ++ (Analysis.ofTree source root).aggregates.flatMap Snippet.printer,
    by simp, hbefore, hcount, ?_⟩
  rw [hcount, Nat.add_eq_left, EditSet.newlines_eq_zero_iff, Analysis.keepsLines_iff hedits]
  simp only [hset.mem_edits_upTo, hsorted, List.mem_mergeSort]
  exact ⟨fun hnone e he hn => Nat.lt_of_not_le fun hle => hnone e ⟨he, hle⟩ hn,
    fun hlt e he hn => absurd (hlt e he.1 hn) (Nat.not_lt_of_le he.2)⟩

/-- The variable below the structure does not stay on its line. -/
theorem lines_of_ofSource_printedAggregate :
    ∃ (i : Instrumented) (set : EditSet) (before' after' : Text),
      ofSource PrintedAggregate.source PrintedAggregate.root = .ok i ∧
      i.analysis.editSet = .ok set ∧
      (set.upTo (Text.byteLength PrintedAggregate.first)).splice? PrintedAggregate.first =
        some before' ∧
      i.source = before' ++ 'i' :: after' ∧
      before'.count '\n' ≠ PrintedAggregate.first.count '\n' := by
  have hparsed : PrintedAggregate.root.Parsed PrintedAggregate.source := by decide +kernel
  obtain ⟨edits, set, first, ps, -, heditSet, -, -, -, -, -, hsplice⟩ :=
    exists_patches_of_parsed hparsed
  have hi := ofSource_eq_ok.2 ⟨set, _, heditSet, hsplice, rfl⟩
  obtain ⟨set', hset', hlines⟩ := lines_of_ofSource hi
  obtain ⟨before', after', htext, hbefore, -, hkeeps⟩ :=
    hlines PrintedAggregate.first 'i' "nt y;" rfl
  refine ⟨_, set', before', after', hi, hset', hbefore, htext, fun hcount => ?_⟩
  -- the printer is declared behind the semicolon of the structure
  have hat : ∃ g ∈ (Analysis.ofTree PrintedAggregate.source PrintedAggregate.root).aggregates,
      g.prototypeAt? = some 17 := by decide +kernel
  obtain ⟨g, hg, hoffset⟩ := hat
  have hlt := (hkeeps.1 hcount).prototypes g hg 17 hoffset
  exact absurd hlt (by decide)

end Instrumented

end Stepwise
