import Stepwise.Demux.Basic
import Stepwise.Proofs.Text

/-!
# Reading a stream line by line

A demultiplexer is fed chunks, but what a stream says is said by its lines.  This module gives the
plain reading of a list of lines, in which no part of a line has been let through before the line is
finished, and says what single lines do in it: which lines open a block, which are stray ends, and
which are ordinary output.

Main statements:

* `Block.opening?_eq_some_iff`: a line opens a block exactly if it ends in an opening sentinel,
  trailing blanks not counted;
* `Block.readOutside_of_quiet`: a line in which no sentinel begins is output as it stands;
* `Demux.feed_unbreakLines`: what is fed between two lines is read line by line.
-/

namespace Stepwise

/-! ## 1. Outputs in turn -/

namespace Output

@[simp] theorem text_append (a b : Output) : (a ++ b).text = a.text ++ b.text := rfl

@[simp] theorem records_append (a b : Output) : (a ++ b).records = (b.records <|> a.records) := rfl

@[simp] theorem stack_append (a b : Output) : (a ++ b).stack = (b.stack <|> a.stack) := rfl

@[simp] theorem tests_append (a b : Output) : (a ++ b).tests = a.tests ++ b.tests := rfl

theorem eq_of_parts {a b : Output} (ht : a.text = b.text) (hr : a.records = b.records)
    (hs : a.stack = b.stack) (ho : a.tests = b.tests) : a = b := by
  cases a
  cases b
  simp_all

@[simp] theorem empty_append (a : Output) : {} ++ a = a := by
  apply eq_of_parts <;> simp

@[simp] theorem append_empty (a : Output) : a ++ {} = a := by
  apply eq_of_parts <;> simp

theorem append_assoc (a b c : Output) : a ++ b ++ c = a ++ (b ++ c) := by
  apply eq_of_parts
  · exact List.append_assoc _ _ _
  · simp only [records_append]
    cases c.records <;> simp
  · simp only [stack_append]
    cases c.stack <;> simp
  · exact List.append_assoc _ _ _

/-- What a piece yields apart from the text for the console. -/
def withoutText (a : Output) : Output := { a with text := [] }

@[simp] theorem withoutText_append (a b : Output) :
    (a ++ b).withoutText = a.withoutText ++ b.withoutText := by
  apply eq_of_parts <;> simp [withoutText]

@[simp] theorem withoutText_text (t : Text) : ({ text := t } : Output).withoutText = {} := rfl

end Output

/-! ## 2. Sentinels -/

namespace Sentinel

/-- The block that a sentinel opens. -/
def opens? : Sentinel → Option Block
  | .varsStart => some (.vars [])
  | .stackStart => some (.stack [])
  | _ => none

theorem head?_text (s : Sentinel) : s.text.head? = some '[' := by
  cases s <;> rfl

theorem getLast?_text (s : Sentinel) : s.text.getLast? = some ']' := by
  cases s <;> rfl

theorem not_blank_text (s : Sentinel) : ¬ Text.blank s.text := by
  cases s <;> decide

theorem newline_not_mem_text (s : Sentinel) : '\n' ∉ s.text := by
  cases s <;> decide

/-- A sentinel is found again between blanks. -/
theorem trim_pad (s : Sentinel) {w w' : Text} (hw : Text.blank w) (hw' : Text.blank w') :
    Text.trim (w ++ s.text ++ w') = s.text := by
  refine Text.trim_pad hw hw' ?_ ?_
  · intro c hc
    rw [head?_text] at hc
    obtain rfl := Option.some.inj hc
    decide
  · intro c hc
    rw [getLast?_text] at hc
    obtain rfl := Option.some.inj hc
    decide

theorem trimEnd_pad (s : Sentinel) (head : Text) {w : Text} (hw : Text.blank w) :
    Text.trimEnd (head ++ s.text ++ w) = head ++ s.text := by
  have hself : Text.trimEnd s.text = s.text := by cases s <;> rfl
  rw [Text.trimEnd_append_of_blank hw, Text.trimEnd_append_of_not_blank s.not_blank_text, hself]

theorem ofText?_trim_eq_some_iff {line : Text} {s : Sentinel} :
    ofText? line.trim = some s ↔
      ∃ w w', Text.blank w ∧ Text.blank w' ∧ line = w ++ s.text ++ w' := by
  rw [ofText?_eq_some_iff]
  constructor
  · intro h
    obtain ⟨w, w', hw, hw', hline⟩ := Text.exists_eq_append_trim_append line
    exact ⟨w, w', hw, hw', h ▸ hline⟩
  · rintro ⟨w, w', hw, hw', rfl⟩
    exact s.trim_pad hw hw'

/-- What all sentinels begin with. -/
def stem : Text := "[DEBUG:"

theorem stem_prefix (s : Sentinel) : stem <+: s.text := by
  cases s
  · exact ⟨"VARS:START]".toList, rfl⟩
  · exact ⟨"VARS:END]".toList, rfl⟩
  · exact ⟨"STACK:START]".toList, rfl⟩
  · exact ⟨"STACK:END]".toList, rfl⟩

theorem mentions_stem (s : Sentinel) (a b : Text) : Text.mentions stem (a ++ s.text ++ b) := by
  rw [Text.mentions_iff]
  obtain ⟨t, ht⟩ := s.stem_prefix
  exact ⟨a, t ++ b, by rw [← ht]; simp⟩

theorem ofText?_trim_eq_none {line : Text} (h : ¬ Text.mentions stem line) :
    ofText? line.trim = none := by
  rw [Option.eq_none_iff_forall_not_mem]
  intro s hs
  obtain ⟨w, w', -, -, rfl⟩ := ofText?_trim_eq_some_iff.1 hs
  exact h (s.mentions_stem w w')

end Sentinel

namespace Block

/-- The spelling of the sentinel that opens the stack block does not end in that of the other. -/
theorem before?_varsStart_stackStart (head : Text) :
    Text.before? Sentinel.varsStart.text (head ++ Sentinel.stackStart.text) = none := by
  rw [Text.before?, List.reverse_append]
  rfl

/-- **A line opens a block exactly if it ends in an opening sentinel**, trailing blanks not
counted. -/
theorem opening?_eq_some_iff {content head : Text} {block : Block} :
    opening? content = some (head, block) ↔
      ∃ s w, Sentinel.opens? s = some block ∧ Text.blank w ∧ content = head ++ s.text ++ w := by
  constructor
  · intro h
    obtain ⟨w, hw, hc⟩ := Text.exists_eq_trimEnd_append content
    simp only [opening?] at h
    split at h
    · next head' hv =>
      obtain ⟨rfl, rfl⟩ := by simpa using h
      rw [Text.before?_eq_some_iff.1 hv] at hc
      exact ⟨.varsStart, w, rfl, hw, hc⟩
    · split at h
      · next head' hs =>
        obtain ⟨rfl, rfl⟩ := by simpa using h
        rw [Text.before?_eq_some_iff.1 hs] at hc
        exact ⟨.stackStart, w, rfl, hw, hc⟩
      · cases h
  · rintro ⟨s, w, hs, hw, rfl⟩
    have hbefore : Text.before? s.text (head ++ s.text) = some head :=
      Text.before?_eq_some_iff.2 rfl
    simp only [opening?, s.trimEnd_pad head hw]
    cases s with
    | varsStart =>
      obtain rfl := Option.some.inj hs
      rw [hbefore]
    | stackStart =>
      obtain rfl := Option.some.inj hs
      rw [before?_varsStart_stackStart, hbefore]
    | varsEnd => cases hs
    | stackEnd => cases hs

theorem opening?_dropReturn (line : Text) : opening? (Text.dropReturn line) = opening? line := by
  simp only [opening?, Text.trimEnd_dropReturn]

/-! ## 3. A line outside of blocks -/

/-- Whether a line is a closing sentinel between blanks. -/
def isStray (line : Text) : Bool :=
  Sentinel.ofText? line.trim = some .varsEnd || Sentinel.ofText? line.trim = some .stackEnd

theorem ofLine?_dropReturn (line : Text) :
    TestOutcome.ofLine? (Text.dropReturn line) = TestOutcome.ofLine? line := by
  simp only [TestOutcome.ofLine?, Text.trimEnd_dropReturn]

/-- A line outside of blocks opens one, is a stray end, or is output. -/
theorem readOutside_eq (released : Bool) (line : Text) :
    readOutside released line = match opening? line with
      | some (head, block) => (block, { text := if released || !Text.blank head then head else [] })
      | none =>
        if !released && isStray line then (.outside, {})
        else
          (.outside, { text := line ++ ['\n'], tests := (TestOutcome.ofLine? line).toList }) := by
  simp only [readOutside, opening?_dropReturn, ofLine?_dropReturn, Text.trim_dropReturn, isStray]
  cases opening? line <;> rfl

/-- A line that ends in an opening sentinel opens its block; what stands in front of the sentinel is
output unless it is blank. -/
theorem readOutside_of_opens {s : Sentinel} {block : Block} (hs : s.opens? = some block)
    (head : Text) :
    readOutside false (head ++ s.text) =
      (block, { text := if Text.blank head then [] else head }) := by
  have hopen : opening? (head ++ s.text) = some (head, block) :=
    opening?_eq_some_iff.2 ⟨s, [], hs, rfl, by simp⟩
  rw [readOutside_eq, hopen]
  cases hb : Text.blank head <;> simp [hb]

/-- **A line in which no sentinel begins is output as it stands.** -/
theorem readOutside_of_quiet {line : Text} (h : ¬ Text.mentions Sentinel.stem line)
    (released : Bool) :
    readOutside released line =
      (.outside, { text := line ++ ['\n'], tests := (TestOutcome.ofLine? line).toList }) := by
  have hopen : opening? line = none := by
    rw [Option.eq_none_iff_forall_not_mem]
    rintro ⟨head, block⟩ hm
    obtain ⟨s, w, -, -, rfl⟩ := opening?_eq_some_iff.1 hm
    exact h (s.mentions_stem head w)
  have hstray : isStray line = false := by
    simp [isStray, Sentinel.ofText?_trim_eq_none h]
  rw [readOutside_eq, hopen]
  simp [hstray]

/-! ## 4. Lines in turn -/

/-- Finished lines in turn, nothing of which has been let through before. -/
def readLines (block : Block) : List Text → Block × Output
  | [] => (block, {})
  | line :: lines =>
    match block.readLine false line with
    | (next, out) =>
      match next.readLines lines with
      | (last, more) => (last, out ++ more)

@[simp] theorem readLines_nil (block : Block) : block.readLines [] = (block, {}) := rfl

theorem readLines_cons (block : Block) (line : Text) (lines : List Text) :
    block.readLines (line :: lines) =
      (((block.readLine false line).1.readLines lines).1,
        (block.readLine false line).2 ++ ((block.readLine false line).1.readLines lines).2) := rfl

/-- Lines behind other ones are read from the block that those leave. -/
theorem readLines_append (block : Block) (lines more : List Text) :
    block.readLines (lines ++ more) =
      (((block.readLines lines).1.readLines more).1,
        (block.readLines lines).2 ++ ((block.readLines lines).1.readLines more).2) := by
  induction lines generalizing block with
  | nil => simp
  | cons line lines ih => simp only [List.cons_append, readLines_cons, ih, Output.append_assoc]

end Block

/-! ## 5. Chunks between two lines -/

theorem splitHeld_append_eq (t : Text) : (splitHeld t).1 ++ (splitHeld t).2 = t := by
  induction t with
  | nil => rfl
  | cons c t ih =>
    rw [splitHeld]
    split
    · rfl
    · simpa using ih

namespace Demux

theorem release_of_isOpen {d : Demux} (h : d.block.isOpen) : d.release = (d, {}) := by
  rw [release, inBlock, if_pos h]

/-- Outside of blocks the line is let through up to where a marker may begin. -/
theorem release_outside (t : Text) (released : Bool) :
    release { pending := t, released, block := .outside } =
      ({ pending := (splitHeld t).2, released := released || !(splitHeld t).1.isEmpty,
         block := .outside }, { text := (splitHeld t).1 }) := by
  have hsplit := splitHeld_append_eq t
  simp only [release, inBlock, Block.isOpen]
  rcases hs : splitHeld t with ⟨_ | ⟨c, free⟩, held⟩
  · obtain rfl : held = t := by simpa [hs] using hsplit
    simp
  · simp

theorem feed_of_newline_not_mem {chunk : Text} (h : '\n' ∉ chunk) (d : Demux) :
    d.feed chunk = release { d with pending := d.pending ++ chunk } := by
  simp only [feed, Text.breakLines_of_newline_not_mem h, finishLines, Output.empty_append]

/-- **A chunk that finishes the line** is that line, and then a chunk between two lines. -/
theorem feed_line_append {line : Text} (h : '\n' ∉ line) (d : Demux) (chunk : Text) :
    d.feed (line ++ '\n' :: chunk) =
      (((d.finishLine line).1.feed chunk).1,
        (d.finishLine line).2 ++ ((d.finishLine line).1.feed chunk).2) := by
  simp only [feed, Text.breakLines_line_append h, finishLines, Output.append_assoc]

/-- **Lines that are fed between two lines are read line by line.** -/
theorem feed_unbreakLines {lines : List Text} (h : ∀ line ∈ lines, '\n' ∉ line) (block : Block)
    (rest : Text) :
    feed { block } (Text.unbreakLines lines rest) =
      ((feed { block := (block.readLines lines).1 } rest).1,
        (block.readLines lines).2 ++ (feed { block := (block.readLines lines).1 } rest).2) := by
  induction lines generalizing block with
  | nil => simp [Text.unbreakLines]
  | cons line lines ih =>
    have hl : '\n' ∉ line := h line List.mem_cons_self
    have hls : ∀ l ∈ lines, '\n' ∉ l := fun l hm => h l (List.mem_cons_of_mem _ hm)
    have heq : Text.unbreakLines (line :: lines) rest
        = line ++ '\n' :: Text.unbreakLines lines rest := by
      simp [Text.unbreakLines]
    have hfinish : finishLine { block } line =
        ({ block := (block.readLine false line).1 }, (block.readLine false line).2) := rfl
    rw [heq, feed_line_append hl, hfinish, ih hls, Block.readLines_cons, Output.append_assoc]

theorem feed_nil (block : Block) : feed { block } [] = ({ block }, {}) := by
  cases block <;> rfl

/-- Nothing is left of lines that are all finished. -/
theorem feed_unbreakLines_nil {lines : List Text} (h : ∀ line ∈ lines, '\n' ∉ line)
    (block : Block) :
    feed { block } (Text.unbreakLines lines []) =
      ({ block := (block.readLines lines).1 }, (block.readLines lines).2) := by
  rw [feed_unbreakLines h, feed_nil, Output.append_empty]

end Demux

end Stepwise
