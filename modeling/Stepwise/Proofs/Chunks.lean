import Stepwise.Proofs.Reading

/-!
# Chunk boundaries

The stream of a program arrives in chunks that the program does not choose, so what is read off it
must not depend on where it was cut.  Lines are finished all the same, but outside of blocks the
beginning of a line may have been let through before its end is known, and the reader then decides
about the line without that beginning.

The argument has two halves.

* Where text is let through, no marker begins (`Clear`, `clear_splitHeld`), whatever comes behind.
  So neither a block nor a test can be missed or invented because of it.
* What is let through in two steps is what would have been let through at once
  (`splitHeld_append`), so the state between two chunks is a function of the text read so far:
  it is the state after that text as a single chunk (`feed_feed`).

The one thing that can be told is a line of blanks in front of a sentinel.  Unread blanks vanish
with their sentinel, but blanks that were let through are gone to the console
(`IndentedSentinel`).

Main statement: `feedAll_agree`, any two ways of cutting a stream agree.
-/

namespace Stepwise

/-! ## 1. Text in which no marker begins -/

theorem mayBeMarker_iff {t : Text} :
    mayBeMarker t ↔ ∃ mark ∈ markers, t <+: mark ∨ mark <+: t := by
  simp only [mayBeMarker, List.any_eq_true, Bool.or_eq_true, Text.isSome_after?_iff]

theorem mayBeMarker_of_append {s t : Text} (h : mayBeMarker (s ++ t)) : mayBeMarker s := by
  rw [mayBeMarker_iff] at h ⊢
  obtain ⟨mark, hm, h⟩ := h
  refine ⟨mark, hm, ?_⟩
  rcases h with h | h
  · exact Or.inl ((List.prefix_append s t).trans h)
  · exact List.prefix_or_prefix_of_prefix (List.prefix_append s t) h

theorem head?_of_mem_markers : ∀ mark ∈ markers, mark.head? = some '[' := by
  decide

/-- `Clear free tail`: no marker of the line `free ++ tail` begins inside of `free`. -/
def Clear (free tail : Text) : Prop :=
  ∀ mark ∈ markers, ∀ a b, free ++ tail = a ++ mark ++ b → free <+: a

/-- **Where text is let through, no marker begins**, whatever comes behind it. -/
theorem clear_splitHeld (t more : Text) : Clear (splitHeld t).1 ((splitHeld t).2 ++ more) := by
  intro mark hm
  induction t with
  | nil => exact fun a b _ => List.nil_prefix
  | cons c t ih =>
    rw [splitHeld]
    split
    · exact fun a b _ => List.nil_prefix
    · next hc =>
      rintro (_ | ⟨c', a⟩) b hab
      · -- the marker would begin at `c`, but then `c` would be held back
        exfalso
        have hline : c :: t ++ more = mark ++ b := by
          rw [← splitHeld_append_eq t]
          simpa using hab
        have hbracket : c = '[' := by
          have hhead := head?_of_mem_markers mark hm
          obtain ⟨d, rest, rfl⟩ : ∃ d rest, mark = d :: rest := by
            cases mark with
            | nil => cases hhead
            | cons d rest => exact ⟨d, rest, rfl⟩
          obtain rfl := Option.some.inj hhead
          exact (List.cons.inj hline).1
        have hmay : mayBeMarker (c :: t ++ more) :=
          mayBeMarker_iff.2 ⟨mark, hm, Or.inr ⟨b, hline.symm⟩⟩
        exact hc (by simp [hbracket, hbracket ▸ mayBeMarker_of_append hmay])
      · obtain ⟨rfl, hrest⟩ := List.cons.inj hab
        exact List.cons_prefix_cons.2 ⟨rfl, ih a b hrest⟩

/-- **Text that is let through in two steps is let through at once**, and the same is held back. -/
theorem splitHeld_append (s t : Text) :
    splitHeld (s ++ t) = ((splitHeld s).1 ++ (splitHeld ((splitHeld s).2 ++ t)).1,
      (splitHeld ((splitHeld s).2 ++ t)).2) := by
  induction s with
  | nil => rfl
  | cons c s ih =>
    by_cases hc : (c = '[' && mayBeMarker (c :: s)) = true
    · have hs : splitHeld (c :: s) = ([], c :: s) := by rw [splitHeld, if_pos hc]
      simp [hs]
    · have hs : splitHeld (c :: s) = (c :: (splitHeld s).1, (splitHeld s).2) := by
        rw [splitHeld, if_neg hc]
      have hc' : ¬ (c = '[' && mayBeMarker (c :: (s ++ t))) = true := by
        simp only [Bool.and_eq_true, not_and] at hc ⊢
        exact fun h hm => hc h (mayBeMarker_of_append (t := t) hm)
      rw [List.cons_append, splitHeld, if_neg hc', ih, hs]
      rfl

/-! ## 2. Tests behind text that was let through -/

/-- **Text that is clear of the marks of tests does not matter to the test of its line.** -/
theorem TestOutcome.ofLine?_of_clear {free tail : Text} (hpass : Text.ClearOf passMark free tail)
    (hfail : Text.ClearOf failMark free tail) : ofLine? (free ++ tail) = ofLine? tail := by
  unfold ofLine?
  by_cases hb : Text.blank tail = true
  · have htail : Text.trimEnd tail = [] := List.rdropWhile_eq_nil_iff.2 (List.all_eq_true.1 hb)
    have hnone : ∀ mark, ¬ mark <:+: free → Text.cut? mark (Text.trimEnd free) = none := by
      intro mark hm
      rw [Text.cut?_eq_none_iff]
      intro hi
      have hpre : Text.trimEnd free <+: free := List.rdropWhile_prefix Text.isBlank free
      exact hm (hi.trans hpre.isInfix)
    rw [Text.trimEnd_append_of_blank hb, htail]
    simp only [hnone _ (hpass.not_infix (by decide)), hnone _ (hfail.not_infix (by decide))]
    rfl
  · rw [Text.trimEnd_append_of_not_blank hb]
    simp only [Text.cut?_append_of_clear hpass.trimEnd, Text.cut?_append_of_clear hfail.trimEnd]
    cases Text.cut? passMark (Text.trimEnd tail) <;>
      cases Text.cut? failMark (Text.trimEnd tail) <;> simp

/-- **A test is found no matter how much of its line was let through.** -/
theorem Clear.ofLine? {free tail : Text} (h : Clear free tail) :
    TestOutcome.ofLine? (free ++ tail) = TestOutcome.ofLine? tail :=
  TestOutcome.ofLine?_of_clear (h passMark (by simp [markers])) (h failMark (by simp [markers]))

/-- A sentinel line reports no test: no sentinel holds the letters `P` and `F`. -/
theorem Sentinel.ofLine?_eq_none {line : Text} {s : Sentinel}
    (hs : Sentinel.ofText? line.trim = some s) : TestOutcome.ofLine? line = none := by
  obtain ⟨w, w', hw, hw', rfl⟩ := Sentinel.ofText?_trim_eq_some_iff.1 hs
  have hcut : ∀ mark c, c ∈ mark → c ∉ s.text → Text.isBlank c = false →
      Text.cut? mark (Text.trimEnd (w ++ s.text ++ w')) = none := by
    intro mark c hc hcs hcb
    rw [Text.cut?_eq_none_iff]
    intro hi
    have hpre : Text.trimEnd (w ++ s.text ++ w') <+: w ++ s.text ++ w' :=
      List.rdropWhile_prefix Text.isBlank _
    have hmem : c ∈ w ++ s.text ++ w' := hpre.subset (hi.subset hc)
    have hout : ∀ v, Text.blank v → c ∉ v := by
      intro v hv hcv
      rw [List.all_eq_true.1 hv c hcv] at hcb
      cases hcb
    simp only [List.mem_append, hcs, hout w hw, hout w' hw', or_self] at hmem
  have hpass := hcut passMark 'P' (by decide) (by cases s <;> decide) (by decide)
  have hfail := hcut failMark 'F' (by decide) (by cases s <;> decide) (by decide)
  simp only [TestOutcome.ofLine?, hpass, hfail]

/-! ## 3. Readings that agree -/

/-- Two readings agree: they end in the same state and yield the same tests and dumps, and where
nothing speaks against it, the same text. -/
structure Agree (quiet : Prop) (a b : Demux × Output) : Prop where
  state : a.1 = b.1
  tests : a.2.tests = b.2.tests
  records : a.2.records = b.2.records
  stack : a.2.stack = b.2.stack
  text : quiet → a.2.text = b.2.text

namespace Agree

variable {quiet : Prop} {a b c : Demux × Output}

/-- All that is not text, in one equation. -/
theorem of_withoutText (hs : a.1 = b.1) (ho : a.2.withoutText = b.2.withoutText)
    (ht : quiet → a.2.text = b.2.text) : Agree quiet a b := by
  have htests : a.2.withoutText.tests = b.2.withoutText.tests := by rw [ho]
  have hrecords : a.2.withoutText.records = b.2.withoutText.records := by rw [ho]
  have hstack : a.2.withoutText.stack = b.2.withoutText.stack := by rw [ho]
  exact ⟨hs, htests, hrecords, hstack, ht⟩

theorem refl (quiet : Prop) (a : Demux × Output) : Agree quiet a a :=
  ⟨rfl, rfl, rfl, rfl, fun _ => rfl⟩

theorem symm (h : Agree quiet a b) : Agree quiet b a :=
  ⟨h.state.symm, h.tests.symm, h.records.symm, h.stack.symm, fun hq => (h.text hq).symm⟩

theorem trans (h : Agree quiet a b) (h' : Agree quiet b c) : Agree quiet a c :=
  ⟨h.state.trans h'.state, h.tests.trans h'.tests, h.records.trans h'.records,
    h.stack.trans h'.stack, fun hq => (h.text hq).trans (h'.text hq)⟩

theorem mono {quiet' : Prop} (h : Agree quiet a b) (hq : quiet' → quiet) : Agree quiet' a b :=
  ⟨h.state, h.tests, h.records, h.stack, fun hq' => h.text (hq hq')⟩

/-- Readings that agree go on to agree. -/
theorem append {a b : Output} {d d' last last' : Demux} {more more' : Output}
    (h : Agree quiet (d, a) (d', b)) (h' : Agree quiet (last, more) (last', more')) :
    Agree quiet (last, a ++ more) (last', b ++ more') := by
  obtain ⟨-, ht, hr, hs, hx⟩ := h
  obtain ⟨hlast, ht', hr', hs', hx'⟩ := h'
  refine ⟨hlast, ?_, ?_, ?_, fun hq => ?_⟩
  · exact congrArg₂ (· ++ ·) ht ht'
  · exact congrArg₂ (fun x y => y <|> x) hr hr'
  · exact congrArg₂ (fun x y => y <|> x) hs hs'
  · exact congrArg₂ (· ++ ·) (hx hq) (hx' hq)

end Agree

/-! ## 4. A line part of which was let through -/

/-- Blanks in front of a sentinel: a line that is read as the sentinel if it is read at once. -/
def IndentedSentinel (line : Text) : Prop :=
  ∃ (w : Text) (s : Sentinel) (w' : Text),
    w ≠ [] ∧ Text.blank w ∧ Text.blank w' ∧ line = w ++ s.text ++ w'

/-- A line is an indented sentinel if it is one between blanks and begins with a blank. -/
theorem indentedSentinel_iff {line : Text} :
    IndentedSentinel line ↔
      (line.head?.any Text.isBlank && (Sentinel.ofText? line.trim).isSome) = true := by
  rw [Bool.and_eq_true, Option.isSome_iff_exists]
  constructor
  · rintro ⟨w, s, w', hne, hw, hw', rfl⟩
    refine ⟨?_, s, Sentinel.ofText?_trim_eq_some_iff.2 ⟨w, w', hw, hw', rfl⟩⟩
    cases w with
    | nil => exact absurd rfl hne
    | cons c w =>
      have hc : Text.isBlank c = true := List.all_eq_true.1 hw c List.mem_cons_self
      simpa using hc
  · rintro ⟨hhead, s, hs⟩
    obtain ⟨w, w', hw, hw', rfl⟩ := Sentinel.ofText?_trim_eq_some_iff.1 hs
    refine ⟨w, s, w', ?_, hw, hw', rfl⟩
    rintro rfl
    rw [List.nil_append, List.head?_append, s.head?_text, Option.some_or] at hhead
    exact absurd hhead (by decide)

instance (line : Text) : Decidable (IndentedSentinel line) :=
  decidable_of_iff _ indentedSentinel_iff.symm

namespace Block

variable {free tail : Text}

/-- A line opens a block exactly if its unread part does, and the output in front of the sentinel
is shorter by what was let through. -/
theorem opening?_of_clear (h : Clear free tail) :
    opening? (free ++ tail) = (opening? tail).map fun (head, block) => (free ++ head, block) := by
  cases ht : opening? tail with
  | some found =>
    obtain ⟨head, block⟩ := found
    obtain ⟨s, w, hs, hw, rfl⟩ := opening?_eq_some_iff.1 ht
    exact opening?_eq_some_iff.2 ⟨s, w, hs, hw, by simp⟩
  | none =>
    rw [Option.map_none, Option.eq_none_iff_forall_not_mem]
    rintro ⟨head, block⟩ hm
    obtain ⟨s, w, hs, hw, heq⟩ := opening?_eq_some_iff.1 hm
    have hmark : s.text ∈ markers := by cases s <;> decide
    obtain ⟨head, rfl⟩ := h _ hmark _ _ heq
    have htail : tail = head ++ s.text ++ w := by simpa using heq
    have hsome : opening? tail = some (head, block) :=
      opening?_eq_some_iff.2 ⟨s, w, hs, hw, htail⟩
    rw [ht] at hsome
    cases hsome

theorem ofText?_of_isStray {line : Text} (hs : isStray line) :
    ∃ s, Sentinel.ofText? line.trim = some s := by
  simp only [isStray, Bool.or_eq_true, decide_eq_true_eq] at hs
  rcases hs with hs | hs
  · exact ⟨_, hs⟩
  · exact ⟨_, hs⟩

theorem indented_of_isStray (hne : free ≠ []) (h : Clear free tail)
    (hs : isStray (free ++ tail)) : IndentedSentinel (free ++ tail) := by
  obtain ⟨s, hs⟩ := ofText?_of_isStray hs
  obtain ⟨w, w', hw, hw', heq⟩ := Sentinel.ofText?_trim_eq_some_iff.1 hs
  have hmark : s.text ∈ markers := by cases s <;> decide
  obtain ⟨v, rfl⟩ := h _ hmark _ _ heq
  exact ⟨free ++ v, s, w', by simp [hne], hw, hw', heq⟩

/-- **A line is read alike whether its beginning was let through or not**, but for the blanks in
front of a sentinel. -/
theorem readOutside_of_clear (hne : free ≠ []) (h : Clear free tail) :
    (readOutside true tail).1 = (readOutside false (free ++ tail)).1 ∧
      (readOutside true tail).2.withoutText = (readOutside false (free ++ tail)).2.withoutText ∧
      (¬ IndentedSentinel (free ++ tail) →
        free ++ (readOutside true tail).2.text = (readOutside false (free ++ tail)).2.text) := by
  rw [readOutside_eq, readOutside_eq, opening?_of_clear h]
  cases ht : opening? tail with
  | some found =>
    obtain ⟨head, block⟩ := found
    refine ⟨rfl, rfl, fun hquiet => ?_⟩
    have hb : Text.blank (free ++ head) = false := by
      rw [Bool.eq_false_iff]
      intro hb
      obtain ⟨s, w, -, hw, rfl⟩ := opening?_eq_some_iff.1 ht
      exact hquiet ⟨free ++ head, s, w, by simp [hne], hb, hw, by simp⟩
    simp [hb]
  | none =>
    by_cases hs : isStray (free ++ tail) = true
    · obtain ⟨s, htext⟩ := ofText?_of_isStray hs
      have hline := Sentinel.ofLine?_eq_none htext
      refine ⟨by simp [hs], ?_, fun hquiet => absurd (indented_of_isStray hne h hs) hquiet⟩
      simp [hs, Output.withoutText, ← h.ofLine?, hline]
    · rw [Bool.not_eq_true] at hs
      simp [hs, Output.withoutText, h.ofLine?]

end Block

namespace Demux

theorem eq_outside_of_not_isOpen {block : Block} (h : ¬ block.isOpen = true) :
    block = .outside := by
  cases block with
  | outside => rfl
  | vars records => exact absurd rfl h
  | stack frames => exact absurd rfl h

/-- **What was let through of a line does not matter to the block and to the dumps and tests that
it yields**, nor, but for an indented sentinel, to the text. -/
theorem finishLine_release (block : Block) (t line : Text) :
    Agree (block = .outside → ¬ IndentedSentinel (t ++ line))
      (((release { pending := t, block }).1.finishLine line).1,
        (release { pending := t, block }).2 ++
          ((release { pending := t, block }).1.finishLine line).2)
      (finishLine { block } (t ++ line)) := by
  by_cases hopen : block.isOpen = true
  · have hrel : release { pending := t, block } = ({ pending := t, block }, {}) :=
      release_of_isOpen hopen
    rw [hrel, Output.empty_append]
    exact Agree.refl _ _
  · obtain rfl := eq_outside_of_not_isOpen hopen
    have hsplit := splitHeld_append_eq t
    have hclear := clear_splitHeld t line
    rw [release_outside]
    generalize splitHeld t = p at hsplit hclear
    obtain ⟨free, held⟩ := p
    obtain rfl : free ++ held = t := hsplit
    dsimp only
    by_cases hne : free = []
    · subst hne
      rw [Output.empty_append]
      exact Agree.refl _ _
    · have hflag : (false || !free.isEmpty) = true := by simpa using hne
      obtain ⟨hblock, hrest, htext⟩ := Block.readOutside_of_clear hne hclear
      rw [← List.append_assoc] at hblock hrest htext
      rw [hflag]
      refine Agree.of_withoutText ?_ ?_ fun hquiet => htext (hquiet rfl)
      · exact congrArg (fun b => ({ block := b } : Demux)) hblock
      · rw [Output.withoutText_append, Output.withoutText_text, Output.empty_append]
        exact hrest

end Demux

namespace Block

/-! ## 5. The lines that are read outside of blocks -/

/-- The lines among the given ones that are read outside of blocks. -/
def linesOutside (block : Block) : List Text → List Text
  | [] => []
  | line :: lines =>
    if block.isOpen then (block.readLine false line).1.linesOutside lines
    else line :: (block.readLine false line).1.linesOutside lines

/-- Lines behind other ones are read from the block that those leave. -/
theorem linesOutside_append (block : Block) (lines more : List Text) :
    block.linesOutside (lines ++ more) =
      block.linesOutside lines ++ (block.readLines lines).1.linesOutside more := by
  induction lines generalizing block with
  | nil => rfl
  | cons line lines ih =>
    simp only [List.cons_append, linesOutside, ih, readLines_cons]
    split <;> rfl

end Block

/-- The finished lines of a stream that are read outside of blocks. -/
def linesOutside (stream : Text) : List Text :=
  Block.outside.linesOutside (Text.breakLines stream).1

/-- A finished line that is read outside of blocks is one of them. -/
theorem mem_linesOutside {lines : List Text} (h : ∀ line ∈ lines, '\n' ∉ line) {line : Text}
    (hline : '\n' ∉ line) (hblock : (Block.outside.readLines lines).1 = .outside) (more : Text) :
    line ∈ linesOutside (Text.unbreakLines lines (line ++ '\n' :: more)) := by
  rw [linesOutside, Text.breakLines_unbreakLines h, Text.breakLines_line_append hline,
    Block.linesOutside_append, hblock]
  exact List.mem_append_right _ List.mem_cons_self

/-- No line that a stream has outside of blocks is an indented sentinel. -/
def NoIndentedSentinel (stream : Text) : Prop :=
  ∀ line ∈ linesOutside stream, ¬ IndentedSentinel line

instance (stream : Text) : Decidable (NoIndentedSentinel stream) :=
  inferInstanceAs (Decidable (∀ line ∈ linesOutside stream, ¬ IndentedSentinel line))

/-- The lines of a stream are lines of every longer one. -/
theorem NoIndentedSentinel.of_append {s t : Text} (h : NoIndentedSentinel (s ++ t)) :
    NoIndentedSentinel s := by
  intro line hline
  refine h line ?_
  rw [linesOutside, Text.breakLines_append]
  cases (Text.breakLines t).1 with
  | nil => exact hline
  | cons m ms =>
    rw [Block.linesOutside_append]
    exact List.mem_append_left _ hline

/-! ## 6. Streams in chunks -/

namespace Demux

/-- Several chunks in turn. -/
def feedAll (d : Demux) : List Text → Demux × Output
  | [] => (d, {})
  | chunk :: chunks =>
    match d.feed chunk with
    | (d, out) =>
      match d.feedAll chunks with
      | (d, more) => (d, out ++ more)

/-- A reading that has come to the end of its stream. -/
def finish (a : Demux × Output) : Demux × Output := (a.1.flush.1, a.2 ++ a.1.flush.2)

/-- What is let through of a line in two steps is let through at once. -/
theorem release_release (block : Block) (t more : Text) :
    ((release { (release { pending := t, block }).1 with
        pending := (release { pending := t, block }).1.pending ++ more }).1,
      (release { pending := t, block }).2 ++
        (release { (release { pending := t, block }).1 with
          pending := (release { pending := t, block }).1.pending ++ more }).2) =
      release { pending := t ++ more, block } := by
  by_cases hopen : block.isOpen = true
  · have hrel : ∀ u, release { pending := u, block } = ({ pending := u, block }, {}) :=
      fun u => release_of_isOpen hopen
    rw [hrel]
    dsimp only
    rw [hrel, Output.empty_append]
  · obtain rfl := eq_outside_of_not_isOpen hopen
    rw [release_outside]
    dsimp only
    rw [release_outside, release_outside, splitHeld_append t more]
    refine Prod.ext ?_ (Output.eq_of_parts rfl rfl rfl rfl)
    cases (splitHeld t).1 <;> simp

/-- A chunk behind an unfinished line agrees with the line and the chunk fed at once. -/
theorem feed_release {t : Text} (ht : '\n' ∉ t) (block : Block) (chunk : Text) :
    Agree (∀ line rest, chunk = line ++ '\n' :: rest → '\n' ∉ line → block = .outside →
        ¬ IndentedSentinel (t ++ line))
      (((release { pending := t, block }).1.feed chunk).1,
        (release { pending := t, block }).2 ++ ((release { pending := t, block }).1.feed chunk).2)
      (feed { block } (t ++ chunk)) := by
  by_cases hc : '\n' ∈ chunk
  · -- the chunk finishes the line, and what follows is read alike
    obtain ⟨line, rest, rfl, hline⟩ := List.eq_append_cons_of_mem hc
    have hfirst := finishLine_release block t line
    have hwhole : '\n' ∉ t ++ line := by simp [ht, hline]
    rw [feed_line_append hline, ← List.append_assoc, feed_line_append hwhole,
      ← Output.append_assoc, hfirst.state]
    exact (hfirst.mono fun hq => hq line rest rfl hline).append (Agree.refl _ _)
  · -- the chunk does not finish the line
    have hwhole : '\n' ∉ t ++ chunk := by simp [ht, hc]
    rw [feed_of_newline_not_mem hc, feed_of_newline_not_mem hwhole, release_release,
      List.nil_append]
    exact Agree.refl _ _

/-- **The state between two chunks is a function of the text read so far.**  Feeding one chunk
behind the text `s` agrees with feeding both as a single chunk. -/
theorem feed_feed (s chunk : Text) :
    Agree (NoIndentedSentinel (s ++ chunk))
      (((feed {} s).1.feed chunk).1, (feed {} s).2 ++ ((feed {} s).1.feed chunk).2)
      (feed {} (s ++ chunk)) := by
  obtain ⟨hlines, hrest⟩ := Text.newline_not_mem_breakLines s
  have hs : Text.unbreakLines _ _ = s := Text.unbreakLines_breakLines s
  generalize Text.breakLines s = p at hlines hrest hs
  obtain ⟨lines, rest⟩ := p
  subst hs
  have happ : Text.unbreakLines lines rest ++ chunk = Text.unbreakLines lines (rest ++ chunk) := by
    simp [Text.unbreakLines]
  have hread := feed_unbreakLines hlines .outside
  rw [happ, hread, hread, feed_of_newline_not_mem hrest, List.nil_append, Output.append_assoc]
  refine (Agree.refl _ ({ block := .outside }, _)).append ((feed_release hrest _ chunk).mono ?_)
  rintro hquiet line more rfl hline hblock
  refine hquiet (rest ++ line) ?_
  have hwhole : '\n' ∉ rest ++ line := by simp [hrest, hline]
  rw [← List.append_assoc]
  exact mem_linesOutside hlines hwhole hblock more

/-- A chunk between others adds to what was read before it. -/
theorem feedAll_cons (d : Demux) (chunk : Text) (chunks : List Text) :
    d.feedAll (chunk :: chunks) =
      (((d.feed chunk).1.feedAll chunks).1,
        (d.feed chunk).2 ++ ((d.feed chunk).1.feedAll chunks).2) := rfl

/-- Feeding chunks behind the text `s` agrees with feeding all of it as a single chunk.  The
induction is on the chunks, and `feed_feed` turns each of them into a part of `s`. -/
theorem feedAll_feed (chunks : List Text) (s : Text) :
    Agree (NoIndentedSentinel (s ++ chunks.flatten))
      (((feed {} s).1.feedAll chunks).1, (feed {} s).2 ++ ((feed {} s).1.feedAll chunks).2)
      (feed {} (s ++ chunks.flatten)) := by
  induction chunks generalizing s with
  | nil =>
    rw [List.flatten_nil, List.append_nil, feedAll, Output.append_empty]
    exact Agree.refl _ _
  | cons chunk chunks ih =>
    have hchunk := feed_feed s chunk
    have hrest := ih (s ++ chunk)
    rw [List.flatten_cons, ← List.append_assoc]
    refine Agree.trans ?_ hrest
    rw [feedAll_cons, ← Output.append_assoc, ← hchunk.state]
    exact (hchunk.mono NoIndentedSentinel.of_append).append (Agree.refl _ _)

theorem feedAll_flatten (chunks : List Text) :
    Agree (NoIndentedSentinel chunks.flatten) (feedAll {} chunks) (feed {} chunks.flatten) := by
  have h := feedAll_feed chunks []
  have hnil : feed {} [] = ({}, {}) := rfl
  rwa [hnil, Output.empty_append, List.nil_append] at h

theorem finish_agree {quiet : Prop} {a b : Demux × Output} (h : Agree quiet a b) :
    Agree quiet (finish a) (finish b) := by
  rw [finish, finish, h.state]
  exact h.append (Agree.refl _ _)

end Demux

/-! ## 7. Any two ways of cutting a stream -/

/-- **Any two ways of cutting a stream agree**, before and after its end: the states, the tests and
the last blocks are the same, and the text is too if no line outside of blocks is an indented
sentinel. -/
theorem feedAll_agree {chunks chunks' : List Text} (h : chunks.flatten = chunks'.flatten) :
    Agree (NoIndentedSentinel chunks.flatten) (Demux.feedAll {} chunks) (Demux.feedAll {} chunks') ∧
      Agree (NoIndentedSentinel chunks.flatten) (Demux.finish (Demux.feedAll {} chunks))
        (Demux.finish (Demux.feedAll {} chunks')) := by
  have hchunks := Demux.feedAll_flatten chunks
  have hchunks' := Demux.feedAll_flatten chunks'
  rw [← h] at hchunks'
  have hagree := hchunks.trans hchunks'.symm
  exact ⟨hagree, Demux.finish_agree hagree⟩

/-- A dump behind a prompt, with one marker cut in the middle and a chunk that is empty, yields what
it yields at once. -/
theorem feedAll_agree_behind_prompt :
    let cut : List Text :=
      ["n: [DEB", "UG:VARS:START]\nx|int|0x1|5|0|main|\r\n[DEBUG:VARS:E", "", "ND]\n[TEST:PA",
        "SS] a"]
    let whole : List Text :=
      ["n: [DEBUG:VARS:START]\nx|int|0x1|5|0|main|\r\n[DEBUG:VARS:END]\n[TEST:PASS] a"]
    cut.flatten = whole.flatten ∧ NoIndentedSentinel cut.flatten ∧
      Agree True (Demux.feedAll {} cut) (Demux.feedAll {} whole) ∧
      Agree True (Demux.finish (Demux.feedAll {} cut)) (Demux.finish (Demux.feedAll {} whole)) := by
  intro cut whole
  have hflat : cut.flatten = whole.flatten := by decide
  have hquiet : NoIndentedSentinel cut.flatten := by decide
  have hagree := feedAll_agree hflat
  exact ⟨hflat, hquiet, hagree.1.mono fun _ => hquiet, hagree.2.mono fun _ => hquiet⟩

/-- **Blanks behind the sentinel count too.**  This line is not just blanks and a sentinel, and yet
its text depends on where it is cut. -/
theorem text_of_padded_sentinel_depends_on_cut :
    let cut : List Text := [" ", "[DEBUG:VARS:END] \n"]
    let whole : List Text := [" [DEBUG:VARS:END] \n"]
    cut.flatten = whole.flatten ∧
      (∀ line ∈ linesOutside cut.flatten, ∀ (w : Text) (s : Sentinel),
        w ≠ [] → Text.blank w → line ≠ w ++ s.text) ∧
      (Demux.feedAll {} cut).2.text ≠ (Demux.feedAll {} whole).2.text := by
  intro cut whole
  refine ⟨by decide, ?_, by decide⟩
  intro line hline w s _ _ heq
  have hlast : line.getLast? = some ' ' := by
    have hall : ∀ l ∈ linesOutside cut.flatten, l.getLast? = some ' ' := by decide
    exact hall line hline
  rw [heq] at hlast
  rw [List.getLast?_append, s.getLast?_text, Option.some_or] at hlast
  exact absurd hlast (by decide)

end Stepwise
