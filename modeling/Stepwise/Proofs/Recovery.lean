import Stepwise.Proofs.Dumps
import Stepwise.Proofs.SentinelLines

/-!
# A dump behind garbage

Whatever a program or a torn dump has left behind, half a line, an open block, a block that was
closed by the wrong sentinel, a newline and a well-formed dump put the demultiplexer right again: it
yields the records and the frames of that dump and of nothing else, and is as good as new.

The newline finishes the line, whatever it was, and leaves a block (`exists_feedAll_line`).  In each
of the three blocks the first line of a dump opens the variable block anew
(`readLine_varsStart_anew`), so from there on the earlier contents cannot be told
(`readLines_dump`).

Main statements:

* `Demux.feedAll_unbreakLines`: chunks of finished lines agree with these lines in turn;
* `Demux.feedAll_newline_dump`: a newline and a dump, in any chunks, behind anything.
-/

namespace Stepwise

namespace Block

/-! ## 1. The lines of a dump, read in any block -/

/-- The first line of a dump opens its variable block, and what was open before is dropped. -/
theorem readLine_varsStart_anew (block : Block) :
    block.readLine false Sentinel.varsStart.text = (.vars [], {}) := by
  cases block <;> rfl

/-- **The lines of a dump yield its records and its frames**, in whatever block they are read. -/
theorem readLines_dump (block : Block) {d : WrittenDump} (hd : d.WellFormed) :
    block.readLines (Sentinel.varsStart.text :: d.innerLines ++ [Sentinel.stackEnd.text]) =
      (.outside, { records := some (d.records.map Record.ofLineLossy)
                   stack := some (d.frames.map Text.trim) }) := by
  simp only [List.cons_append, readLines_cons, readLines_append, readLines_nil,
    readLine_varsStart_anew, readLines_innerLines hd, readLine_stackEnd]
  refine Prod.ext rfl (Output.eq_of_parts ?_ ?_ ?_ ?_) <;> simp

theorem newline_not_mem_dumpLines {d : WrittenDump} (hd : d.WellFormed) :
    ∀ line ∈ Sentinel.varsStart.text :: d.innerLines ++ [Sentinel.stackEnd.text],
      '\n' ∉ line := by
  have hlines := newline_not_mem_segmentLines [] hd
  simpa [segmentLines, Text.breakLines] using hlines

end Block

namespace Demux

/-! ## 2. Finished lines in chunks -/

/-- Chunks are read as if they had been cut where their first line ends. -/
theorem exists_cut_line (d : Demux) {chunks : List Text} {line t : Text}
    (h : chunks.flatten = line ++ '\n' :: t) :
    ∃ own back, own.flatten = line ++ ['\n'] ∧ back.flatten = t ∧
      d.feedAll chunks = (((d.feedAll own).1.feedAll back).1,
        (d.feedAll own).2 ++ ((d.feedAll own).1.feedAll back).2) := by
  have hsplit : chunks.flatten = (line ++ ['\n']) ++ t := by simpa using h
  obtain ⟨hown, hback⟩ := Text.flatten_cutAt_append hsplit
  have hfinished : Text.Finished (chunks.flatten.take (line ++ ['\n']).length) := by
    rw [hsplit, List.take_left]
    simp [Text.Finished]
  exact ⟨_, _, hown, hback, by rw [← feedAll_cutAt _ hfinished, feedAll_append]⟩

/-- **Chunks of finished lines agree with these lines in turn.**  The induction is on the lines: the
chunks are cut where the first of them ends, and `finishLine_release` says that it does not
matter in how many pieces it came. -/
theorem feedAll_unbreakLines (block : Block) {lines : List Text}
    (hlines : ∀ line ∈ lines, '\n' ∉ line) {chunks : List Text}
    (h : chunks.flatten = Text.unbreakLines lines []) :
    Agree (∀ line ∈ block.linesOutside lines, ¬ IndentedSentinel line)
      (feedAll { block } chunks)
      ({ block := (block.readLines lines).1 }, (block.readLines lines).2) := by
  induction lines generalizing block chunks with
  | nil =>
    rw [feedAll_of_flatten_eq_nil block h]
    exact Agree.refl _ _
  | cons line lines ih =>
    obtain ⟨hline, hmore⟩ := List.forall_mem_cons.1 hlines
    have hsplit : chunks.flatten = line ++ '\n' :: Text.unbreakLines lines [] := by
      simpa [Text.unbreakLines] using h
    obtain ⟨own, back, hown, hback, hcut⟩ := exists_cut_line { block } hsplit
    rw [hcut]
    obtain ⟨begun, rest, rfl, -, hread⟩ := feedAll_line block hline hown
    have hfirst := finishLine_release block begun rest
    rw [← hread] at hfirst
    rw [Block.readLines_cons, hfirst.state]
    refine Agree.append (hfirst.mono ?_) ((ih _ hmore hback).mono ?_)
    · rintro hquiet rfl
      exact hquiet _ List.mem_cons_self
    · refine fun hquiet l hl => hquiet l ?_
      rw [Block.linesOutside]
      split
      · exact hl
      · exact List.mem_cons_of_mem _ hl

/-- The end of a line leaves nothing but a block, whatever the line was. -/
theorem exists_feedAll_line (d : Demux) {own : List Text} {line : Text} (hline : '\n' ∉ line)
    (hown : own.flatten = line ++ ['\n']) : ∃ block, (d.feedAll own).1 = { block } := by
  obtain ⟨pieces, last, empties, rfl, rfl, hempties⟩ := exists_last_piece hown
  rw [List.mem_append, not_or] at hline
  refine ⟨((d.feedAll pieces).1.finishLine last).1.block, ?_⟩
  rw [feedAll_append, feedAll_cons, feed_line_append hline.2, finishLine, feed_nil,
    feedAll_of_flatten_eq_nil _ hempties]

/-! ## 3. A newline and a dump -/

/-- **A newline and a dump put any demultiplexer right.**  In whatever chunks they come and whatever
has been read before, the last records and frames are those of the dump, and nothing is left
over. -/
theorem feedAll_newline_dump (d : Demux) {dump : WrittenDump} (hd : dump.WellFormed)
    {chunks : List Text} (h : chunks.flatten = '\n' :: dump.text) :
    (d.feedAll chunks).1 = {} ∧
      (d.feedAll chunks).2.records = some (dump.records.map Record.ofLineLossy) ∧
      (d.feedAll chunks).2.stack = some (dump.frames.map Text.trim) := by
  obtain ⟨own, back, hnewline, hdump, hcut⟩ :=
    d.exists_cut_line (show chunks.flatten = [] ++ '\n' :: dump.text from h)
  obtain ⟨block, hblock⟩ := d.exists_feedAll_line List.not_mem_nil hnewline
  obtain ⟨hstate, -, hrecords, hstack, -⟩ :=
    feedAll_unbreakLines block (Block.newline_not_mem_dumpLines hd) hdump
  rw [Block.readLines_dump block hd] at hstate hrecords hstack
  rw [hcut, hblock]
  refine ⟨hstate, ?_, ?_⟩
  · rw [Output.records_append, hrecords]
    rfl
  · rw [Output.stack_append, hstack]
    rfl

/-- Behind a stack block that is open and half of a sentinel, a dump in three chunks. -/
theorem feedAll_newline_dump_torn :
    let garbage : List Text := ["[DEBUG:STACK:START]\nold\n[DEBUG:VARS:ST"]
    let dump : WrittenDump :=
      { records := ["x|int|0x1|5|0|main|".toList], frames := [" main".toList] }
    let chunks : List Text :=
      ["\n[DEBUG:", "VARS:START]\nx|int|0x1|5|0|main|\n[DEBUG:VARS:END]\n[DEBUG:STACK:START",
        "]\n main\n[DEBUG:STACK:END]\n"]
    let d := (feedAll {} garbage).1
    d ≠ {} ∧ dump.WellFormed ∧ chunks.flatten = '\n' :: dump.text ∧
      (d.feedAll chunks).1 = {} ∧
      (d.feedAll chunks).2.records = some [Record.ofLineLossy "x|int|0x1|5|0|main|"] ∧
      (d.feedAll chunks).2.stack = some ["main".toList] := by
  intro garbage dump chunks d
  have hd : dump.WellFormed := ⟨by decide, by decide, by decide⟩
  have hchunks : chunks.flatten = '\n' :: dump.text := by decide
  obtain ⟨hstate, hrecords, hstack⟩ := feedAll_newline_dump d hd hchunks
  exact ⟨by decide, hd, hchunks, hstate, hrecords, hstack⟩

end Demux

end Stepwise
