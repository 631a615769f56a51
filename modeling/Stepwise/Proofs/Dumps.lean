import Stepwise.Replay
import Stepwise.Proofs.Reading

/-!
# Dumps between program text

A dump is written as two blocks of lines, and the program does not end its own line before it.  Read
back from anywhere outside of blocks, a dump yields its records and its frames and nothing else, and
the program text around it comes out as it was written, so that dumps cannot be seen on the console.

The reading goes segment by segment: a segment is the text that the program prints up to a dump, and
that dump.  Its lines are the finished lines of the text, one line that the text began and the
opening sentinel ended, and the rest of the dump (`Block.readLines_segment`).  Replaying adds one
snapshot for each segment (`Replay.go_segment`).

Main statement: `Replay.ofLog_segments`, a log replays to its program text and its last dump.
-/

namespace Stepwise

/-! ## 1. Written dumps -/

/-- A dump as it is written: the lines of its two blocks. -/
structure WrittenDump where
  /-- The lines of the variable block. -/
  records : List Text
  /-- The lines of the stack block. -/
  frames : List Text

/-- What a line inside of a block must be: not blank, and no sentinel. -/
def IsInnerLine (line : Text) : Prop :=
  ¬ Text.blank line ∧ Sentinel.ofText? line.trim = none

instance (line : Text) : Decidable (IsInnerLine line) :=
  inferInstanceAs (Decidable (¬ Text.blank line ∧ Sentinel.ofText? line.trim = none))

namespace WrittenDump

/-- The lines between the first and the last sentinel of the dump. -/
def innerLines (d : WrittenDump) : List Text :=
  d.records ++ [Sentinel.varsEnd.text, Sentinel.stackStart.text] ++ d.frames

/-- The text of the dump: its sentinels and lines, each on its own line. -/
def text (d : WrittenDump) : Text :=
  Text.unbreakLines (Sentinel.varsStart.text :: d.innerLines ++ [Sentinel.stackEnd.text]) []

/-- The state that the dump tells. -/
def snapshot (d : WrittenDump) : Snapshot where
  graph := ObjectGraph.ofRecords (d.records.map Record.ofLineLossy)
  stack := d.frames.map Text.trim

/-- A dump is well-formed if its records and frames are inner lines of their own, and no record
ends in a carriage return, which would be taken for a part of the line break. -/
structure WellFormed (d : WrittenDump) : Prop where
  inner : ∀ line ∈ d.records ++ d.frames, IsInnerLine line
  noNewline : ∀ line ∈ d.records ++ d.frames, '\n' ∉ line
  noReturn : ∀ line ∈ d.records, line.getLast? ≠ some '\r'

theorem WellFormed.map_dropReturn {d : WrittenDump} (h : d.WellFormed) :
    d.records.map (fun line => Record.ofLineLossy (Text.dropReturn line)) =
      d.records.map Record.ofLineLossy := by
  refine List.map_congr_left fun line hm => ?_
  rw [Text.dropReturn_eq_self (h.noReturn line hm)]

end WrittenDump

namespace Block

/-! ## 2. Reading the lines of a dump -/

theorem readLine_varsStart : readLine .outside false Sentinel.varsStart.text = (.vars [], {}) := rfl

theorem readLine_varsEnd (records : List Record) :
    readLine (.vars records) false Sentinel.varsEnd.text =
      (.outside, { records := some records }) := rfl

theorem readLine_stackStart : readLine .outside false Sentinel.stackStart.text = (.stack [], {}) :=
  rfl

theorem readLine_stackEnd (frames : List Text) :
    readLine (.stack frames) false Sentinel.stackEnd.text = (.outside, { stack := some frames }) :=
  rfl

/-- Record lines are collected. -/
theorem readLines_records {lines : List Text} (h : ∀ line ∈ lines, IsInnerLine line)
    (records : List Record) :
    readLines (.vars records) lines =
      (.vars (records ++ lines.map fun line => Record.ofLineLossy (Text.dropReturn line)), {}) := by
  induction lines generalizing records with
  | nil => simp
  | cons line lines ih =>
    obtain ⟨hblank, hnone⟩ := h line List.mem_cons_self
    have hline : readLine (.vars records) false line =
        (.vars (records ++ [Record.ofLineLossy (Text.dropReturn line)]), {}) := by
      simp only [readLine, readVariable, Text.trim_dropReturn, hnone, Text.blank_dropReturn]
      exact if_neg hblank
    rw [readLines_cons, hline, ih fun l hm => h l (List.mem_cons_of_mem _ hm)]
    simp

/-- Frame lines are collected. -/
theorem readLines_frames {lines : List Text} (h : ∀ line ∈ lines, IsInnerLine line)
    (frames : List Text) :
    readLines (.stack frames) lines = (.stack (frames ++ lines.map Text.trim), {}) := by
  induction lines generalizing frames with
  | nil => simp
  | cons line lines ih =>
    obtain ⟨hblank, hnone⟩ := h line List.mem_cons_self
    have hline : readLine (.stack frames) false line =
        (.stack (frames ++ [Text.trim line]), {}) := by
      simp only [readLine, readFrame, Text.trim_dropReturn, hnone, Text.blank_dropReturn]
      exact if_neg hblank
    rw [readLines_cons, hline, ih fun l hm => h l (List.mem_cons_of_mem _ hm)]
    simp

/-- **The lines inside of a dump** close its variable block and fill its stack block. -/
theorem readLines_innerLines {d : WrittenDump} (hd : d.WellFormed) :
    readLines (.vars []) d.innerLines =
      (.stack (d.frames.map Text.trim),
        { records := some (d.records.map Record.ofLineLossy) }) := by
  have hrecords := readLines_records (fun line hm => hd.inner line (List.mem_append_left _ hm)) []
  have hframes := readLines_frames (fun line hm => hd.inner line (List.mem_append_right _ hm)) []
  simp only [WrittenDump.innerLines, readLines_append, readLines_cons, readLines_nil, hrecords,
    readLine_varsEnd, readLine_stackStart, hframes, hd.map_dropReturn]
  refine Prod.ext rfl (Output.eq_of_parts ?_ ?_ ?_ ?_) <;> simp

theorem readLine_opening {t : Text} (h : t ≠ [] → ¬ Text.blank t) :
    readLine .outside false (t ++ Sentinel.varsStart.text) = (.vars [], { text := t }) := by
  rw [readLine, readOutside_of_opens (s := .varsStart) rfl]
  cases t with
  | nil => rfl
  | cons c t => rw [if_neg (h (by simp))]

/-- Lines in which no sentinel begins are output as they stand. -/
theorem readLines_quiet {lines : List Text}
    (h : ∀ line ∈ lines, ¬ Text.mentions Sentinel.stem line) :
    readLines .outside lines =
      (.outside, { text := Text.unbreakLines lines []
                   tests := lines.flatMap fun line => (TestOutcome.ofLine? line).toList }) := by
  induction lines with
  | nil => rfl
  | cons line lines ih =>
    have hline : ¬ Text.mentions Sentinel.stem line := h line List.mem_cons_self
    rw [readLines_cons, readLine, readOutside_of_quiet hline,
      ih fun l hm => h l (List.mem_cons_of_mem _ hm)]
    refine Prod.ext rfl (Output.eq_of_parts ?_ rfl rfl ?_) <;> simp [Text.unbreakLines]

/-! ## 3. Segments: program text and the dump behind it -/

/-- The lines of a segment but its last one: those of the program text, the one that the dump ends,
and those inside of the dump. -/
def segmentLines (p : Text) (d : WrittenDump) : List Text :=
  (Text.breakLines p).1 ++ ((Text.breakLines p).2 ++ Sentinel.varsStart.text) :: d.innerLines

/-- **A segment yields its program text and its records**, and at its last line the stack block is
open with its frames. -/
theorem readLines_segment {p : Text} (hp : ¬ Text.mentions Sentinel.stem p)
    (hend : (Text.breakLines p).2 ≠ [] → ¬ Text.blank (Text.breakLines p).2) {d : WrittenDump}
    (hd : d.WellFormed) :
    ∃ tests, readLines .outside (segmentLines p d) =
      (.stack (d.frames.map Text.trim),
        { text := p, records := some (d.records.map Record.ofLineLossy), tests }) := by
  have hquiet := readLines_quiet (Text.not_mentions_breakLines hp).1
  refine ⟨(Text.breakLines p).1.flatMap fun line => (TestOutcome.ofLine? line).toList, ?_⟩
  simp only [segmentLines, readLines_append, readLines_cons, hquiet, readLine_opening hend,
    readLines_innerLines hd]
  refine Prod.ext rfl (Output.eq_of_parts ?_ rfl rfl ?_)
  · conv => rhs; rw [← Text.unbreakLines_breakLines p]
    simp [Text.unbreakLines]
  · simp

/-- The lines of a segment hold no newline. -/
theorem newline_not_mem_segmentLines (p : Text) {d : WrittenDump} (hd : d.WellFormed) :
    ∀ line ∈ segmentLines p d ++ [Sentinel.stackEnd.text], '\n' ∉ line := by
  obtain ⟨hlines, hrest⟩ := Text.newline_not_mem_breakLines p
  have hsentinel := Sentinel.newline_not_mem_text
  have hopening : '\n' ∉ (Text.breakLines p).2 ++ Sentinel.varsStart.text := by
    simp [hrest, hsentinel]
  have hinner := hd.noNewline
  simp only [List.mem_append] at hinner
  intro line hm
  simp only [segmentLines, WrittenDump.innerLines, List.mem_append, List.mem_cons,
    List.not_mem_nil, or_false] at hm
  rcases hm with (hm | rfl | (hm | rfl | rfl) | hm) | rfl
  · exact hlines line hm
  · exact hopening
  · exact hinner line (.inl hm)
  · exact hsentinel _
  · exact hsentinel _
  · exact hinner line (.inr hm)
  · exact hsentinel _

theorem segment_eq (p : Text) (d : WrittenDump) (t : Text) :
    p ++ d.text ++ t =
      Text.unbreakLines (segmentLines p d ++ [Sentinel.stackEnd.text]) t := by
  conv => lhs; rw [← Text.unbreakLines_breakLines p]
  simp [segmentLines, WrittenDump.text, Text.unbreakLines]

end Block

namespace Replay

/-! ## 4. Replaying lines -/

theorem add_empty (r : Replay) (t : Tracker) : r.add t {} = (r, t) := by
  simp [add, Tracker.absorb]

theorem add_append {a : Output} (h : a.stack = none) (r : Replay) (t : Tracker) (b : Output) :
    r.add t (a ++ b) = (r.add t a).1.add (r.add t a).2 b := by
  simp only [add, Tracker.absorb, Output.text_append, Output.records_append, Output.stack_append,
    Output.tests_append, h]
  cases b.stack <;> cases b.records <;> simp

/-- What a piece that closes a stack adds. -/
theorem add_of_stack {out : Output} {frames : List Text} (h : out.stack = some frames) (r : Replay)
    (t : Tracker) :
    r.add t out =
      ({ output := r.output ++ out.text
         snapshot := some { graph := ObjectGraph.ofRecords ((out.records <|> t.waiting).getD [])
                            stack := frames }
         tests := r.tests ++ out.tests
         dumps := r.dumps + 1 }, {}) := by
  simp [add, Tracker.absorb, h]

/-- What a piece adds that closes no stack. -/
theorem add_of_no_stack {out : Output} (h : out.stack = none) (r : Replay) (t : Tracker) :
    r.add t out =
      ({ r with output := r.output ++ out.text, tests := r.tests ++ out.tests },
        { waiting := out.records <|> t.waiting }) := by
  simp [add, Tracker.absorb, h]

/-- One finished line of a log. -/
theorem go_line {line : Text} (h : '\n' ∉ line) (r : Replay) (t : Tracker) (block : Block)
    (chunks : List Text) :
    go r t { block } ((line ++ ['\n']) :: chunks) =
      go (r.add t (block.readLine false line).2).1 (r.add t (block.readLine false line).2).2
        { block := (block.readLine false line).1 } chunks := by
  have hfeed := Demux.feed_unbreakLines_nil (show ∀ l ∈ [line], '\n' ∉ l by simpa using h) block
  have hline : Text.unbreakLines [line] [] = line ++ ['\n'] := by simp [Text.unbreakLines]
  rw [hline, Block.readLines_cons, Block.readLines_nil, Output.append_empty] at hfeed
  rw [go, hfeed]

/-- Finished lines of a log are one piece of it, as long as they close no stack. -/
theorem go_lines {lines : List Text} (h : ∀ line ∈ lines, '\n' ∉ line) (block : Block)
    (hs : (block.readLines lines).2.stack = none) (r : Replay) (t : Tracker) (chunks : List Text) :
    go r t { block } (lines.map (· ++ ['\n']) ++ chunks) =
      go (r.add t (block.readLines lines).2).1 (r.add t (block.readLines lines).2).2
        { block := (block.readLines lines).1 } chunks := by
  induction lines generalizing block r t with
  | nil => rw [Block.readLines_nil, add_empty]; rfl
  | cons line lines ih =>
    have hl : '\n' ∉ line := h line List.mem_cons_self
    rw [Block.readLines_cons] at hs ⊢
    simp only [Output.stack_append, Option.orElse_eq_orElse, Option.orElse_eq_or,
      Option.or_eq_none_iff] at hs
    rw [List.map_cons, List.cons_append, go_line hl,
      ih (fun l hm => h l (List.mem_cons_of_mem _ hm)) _ hs.1, add_append hs.2]

/-- The chunks of lines that are written out are these lines, and then the chunks of the text
behind them. -/
theorem chunksOf_unbreakLines {lines : List Text} (h : ∀ line ∈ lines, '\n' ∉ line) (t : Text) :
    chunksOf (Text.unbreakLines lines t) = lines.map (· ++ ['\n']) ++ chunksOf t := by
  simp only [chunksOf, Text.breakLines_unbreakLines h, List.map_append, List.append_assoc]

/-! ## 5. Replaying segments -/

/-- **Replaying a segment** outputs its program text and replaces the snapshot, whatever has been
replayed before. -/
theorem go_segment {p : Text} (hp : ¬ Text.mentions Sentinel.stem p)
    (hend : (Text.breakLines p).2 ≠ [] → ¬ Text.blank (Text.breakLines p).2) {d : WrittenDump}
    (hd : d.WellFormed) (r : Replay) (chunks : List Text) :
    ∃ tests,
      go r {} {}
          ((Block.segmentLines p d ++ [Sentinel.stackEnd.text]).map (· ++ ['\n']) ++ chunks) =
        go { output := r.output ++ p
             snapshot := some d.snapshot
             tests := r.tests ++ tests
             dumps := r.dumps + 1 } {} {} chunks := by
  have hlines := Block.newline_not_mem_segmentLines p hd
  obtain ⟨tests, hread⟩ := Block.readLines_segment hp hend hd
  refine ⟨tests, ?_⟩
  have hinit := go_lines (fun line hm => hlines line (List.mem_append_left _ hm)) .outside
    (by rw [hread]) r {} ((Sentinel.stackEnd.text ++ ['\n']) :: chunks)
  have hlast : '\n' ∉ Sentinel.stackEnd.text := hlines _ (by simp)
  rw [List.map_append, List.append_assoc, List.map_singleton, List.singleton_append, hinit,
    go_line hlast, hread, Block.readLine_stackEnd, add_of_stack rfl, add_of_no_stack rfl]
  simp [WrittenDump.snapshot]

/-- An unfinished line at the end of a log is output, what is held back of it at the very end. -/
theorem go_rest {rest : Text} (h : '\n' ∉ rest) (r : Replay) :
    ∃ tests, go r {} {} (if rest.isEmpty then [] else [rest]) =
      { r with output := r.output ++ rest, tests := r.tests ++ tests } := by
  refine ⟨(TestOutcome.ofLine? (splitHeld rest).2).toList, ?_⟩
  cases rest with
  | nil => simp [go, Demux.flush, add_of_no_stack, splitHeld]
  | cons c t =>
    have hfeed := Demux.feed_of_newline_not_mem h {}
    rw [List.nil_append, Demux.release_outside] at hfeed
    have hsplit := splitHeld_append_eq (c :: t)
    rw [List.isEmpty_cons, if_neg Bool.false_ne_true, go, hfeed]
    simp only [go, Demux.flush, add_of_no_stack, List.append_assoc, hsplit, List.nil_append]

/-- **What is behind the last dump is output to its end**, even if it stops in the middle of a
line or of a marker. -/
theorem go_last {t : Text} (ht : ¬ Text.mentions Sentinel.stem t) (r : Replay) :
    ∃ tests, go r {} {} (chunksOf t) =
      { r with output := r.output ++ t, tests := r.tests ++ tests } := by
  obtain ⟨hlines, hrest⟩ := Text.newline_not_mem_breakLines t
  have hquiet := Block.readLines_quiet (Text.not_mentions_breakLines ht).1
  have hfinished := go_lines hlines .outside (by rw [hquiet]) r {}
    (if (Text.breakLines t).2.isEmpty then [] else [(Text.breakLines t).2])
  rw [hquiet, add_of_no_stack rfl] at hfinished
  obtain ⟨tests, hlast⟩ := go_rest hrest { r with
    output := r.output ++ Text.unbreakLines (Text.breakLines t).1 []
    tests := r.tests ++
      (Text.breakLines t).1.flatMap fun line => (TestOutcome.ofLine? line).toList }
  have htext : Text.unbreakLines (Text.breakLines t).1 [] ++ (Text.breakLines t).2 = t := by
    conv => rhs; rw [← Text.unbreakLines_breakLines t]
    simp [Text.unbreakLines]
  refine ⟨((Text.breakLines t).1.flatMap fun line => (TestOutcome.ofLine? line).toList) ++ tests,
    ?_⟩
  rw [chunksOf]
  refine (hfinished.trans hlast).trans ?_
  simp only [List.append_assoc, htext]

/-- Replaying segments in turn: each adds its program text and one snapshot.  The induction is on
the segments, and `go_segment` leaves the reading where the next one begins. -/
theorem go_segments {segments : List (Text × WrittenDump)} {last : Text}
    (hquiet : ∀ s ∈ segments, ¬ Text.mentions Sentinel.stem s.1)
    (hend : ∀ s ∈ segments,
      (Text.breakLines s.1).2 ≠ [] → ¬ Text.blank (Text.breakLines s.1).2)
    (hdump : ∀ s ∈ segments, s.2.WellFormed)
    (hlast : ¬ Text.mentions Sentinel.stem last) (r : Replay) :
    ∃ tests, go r {} {} (chunksOf (segments.flatMap (fun s => s.1 ++ s.2.text) ++ last)) =
      { output := r.output ++ (segments.flatMap Prod.fst ++ last)
        snapshot := (segments.getLast?.map fun s => s.2.snapshot) <|> r.snapshot
        tests := r.tests ++ tests
        dumps := r.dumps + segments.length } := by
  induction segments generalizing r with
  | nil =>
    obtain ⟨tests, h⟩ := go_last hlast r
    exact ⟨tests, by simpa using h⟩
  | cons s segments ih =>
    simp only [List.forall_mem_cons] at hquiet hend hdump
    obtain ⟨tests, hfirst⟩ := go_segment hquiet.1 hend.1 hdump.1 r
      (chunksOf (segments.flatMap (fun s => s.1 ++ s.2.text) ++ last))
    obtain ⟨more, hrest⟩ := ih hquiet.2 hend.2 hdump.2
      { output := r.output ++ s.1
        snapshot := some s.2.snapshot
        tests := r.tests ++ tests
        dumps := r.dumps + 1 }
    have hlines := Block.newline_not_mem_segmentLines s.1 hdump.1
    refine ⟨tests ++ more, ?_⟩
    rw [List.flatMap_cons, List.append_assoc, Block.segment_eq, chunksOf_unbreakLines hlines,
      hfirst, hrest]
    have hsnapshot : ((segments.getLast?.map fun s => s.2.snapshot) <|> some s.2.snapshot)
        = (((s :: segments).getLast?.map fun s => s.2.snapshot) <|> r.snapshot) := by
      rw [List.getLast?_cons]
      cases segments.getLast? <;> rfl
    rw [hsnapshot]
    simp [Nat.add_assoc, Nat.add_comm 1]

/-! ## 6. Whole logs -/

/-- **Dumps cannot be seen in the output of the program.**  A log of segments and a last text
replays to its program text, with one snapshot for each dump, of which the last is kept. -/
theorem ofLog_segments {segments : List (Text × WrittenDump)} {last : Text}
    (hquiet : ∀ s ∈ segments, ¬ Text.mentions Sentinel.stem s.1)
    (hend : ∀ s ∈ segments,
      (Text.breakLines s.1).2 ≠ [] → ¬ Text.blank (Text.breakLines s.1).2)
    (hdump : ∀ s ∈ segments, s.2.WellFormed)
    (hlast : ¬ Text.mentions Sentinel.stem last) :
    (ofLog (segments.flatMap (fun s => s.1 ++ s.2.text) ++ last)).output
        = segments.flatMap Prod.fst ++ last ∧
      (ofLog (segments.flatMap (fun s => s.1 ++ s.2.text) ++ last)).dumps = segments.length ∧
      (ofLog (segments.flatMap (fun s => s.1 ++ s.2.text) ++ last)).snapshot
        = segments.getLast?.map fun s => s.2.snapshot := by
  obtain ⟨tests, h⟩ := go_segments hquiet hend hdump hlast {}
  rw [ofLog, h]
  refine ⟨rfl, Nat.zero_add _, ?_⟩
  cases segments.getLast? <;> rfl

/-- Two dumps: one behind a prompt, the other behind half a marker; the last text ends in half a
marker too. -/
theorem ofLog_behind_prompt :
    let first : WrittenDump :=
      { records := ["x|int|0x1|5|0|main|".toList], frames := ["main".toList] }
    let second : WrittenDump := { records := [], frames := ["main".toList, " f\t".toList] }
    let segments : List (Text × WrittenDump) :=
      [("a\r\nn: ".toList, first), ("5\n\n[DEB".toList, second)]
    let last : Text := "bye\r\n [DEBUG"
    let r := ofLog (segments.flatMap (fun s => s.1 ++ s.2.text) ++ last)
    (∀ s ∈ segments, ¬ Text.mentions Sentinel.stem s.1) ∧
      (∀ s ∈ segments, (Text.breakLines s.1).2 ≠ [] → ¬ Text.blank (Text.breakLines s.1).2) ∧
      (∀ s ∈ segments, s.2.WellFormed) ∧ ¬ Text.mentions Sentinel.stem last ∧
      r.output = "a\r\nn: 5\n\n[DEBbye\r\n [DEBUG".toList ∧ r.dumps = 2 ∧
      r.snapshot = some { stack := ["main".toList, "f".toList] } := by
  intro first second segments last r
  have hquiet : ∀ s ∈ segments, ¬ Text.mentions Sentinel.stem s.1 := by decide
  have hend : ∀ s ∈ segments,
      (Text.breakLines s.1).2 ≠ [] → ¬ Text.blank (Text.breakLines s.1).2 := by
    decide
  have hdump : ∀ s ∈ segments, s.2.WellFormed := by
    simp only [segments, List.forall_mem_cons]
    exact ⟨⟨by decide, by decide, by decide⟩, ⟨by decide, by decide, by decide⟩, by simp⟩
  have hlast : ¬ Text.mentions Sentinel.stem last := by decide
  obtain ⟨houtput, hdumps, hsnapshot⟩ := ofLog_segments hquiet hend hdump hlast
  exact ⟨hquiet, hend, hdump, hlast, houtput, hdumps, hsnapshot⟩

end Replay

end Stepwise
