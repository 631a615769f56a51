import Stepwise.Proofs.Chunks
import Stepwise.Proofs.Dumps
import Stepwise.Proofs.Record
import Stepwise.Proofs.Registry

/-!
# Dumps of registries are read back

A dump of the registries is a well-formed dump, whatever values it shows, as long as names, types
and frames fit on its lines (`Registry.Legible`).  Read back in chunks of any size it yields one
record for every traced variable, the newest first, one for every allocation in the order of the
addresses, and the stack.  Nothing of it is output.

Main statements:

* `Record.ofLine_shownLine`: one line of a dump is read as what it shows;
* `Demux.feedAll_text`: a well-formed dump is read back in any chunks;
* `Registry.feedAll_dump`: so is the dump of any registries that a program reaches.
-/

namespace Stepwise

/-! ## 1. Well-formed dumps in chunks -/

namespace Block

/-- A line that is no sentinel leaves an open block open. -/
theorem isOpen_readLine {block : Block} (h : block.isOpen) {line : Text}
    (hline : Sentinel.ofText? line.trim = none) : (block.readLine false line).1.isOpen := by
  cases block with
  | outside => exact absurd h Bool.false_ne_true
  | vars records =>
    simp only [readLine, readVariable, Text.trim_dropReturn, hline]
    split <;> rfl
  | stack frames =>
    simp only [readLine, readFrame, Text.trim_dropReturn, hline]
    split <;> rfl

/-- No line behind an opening one is read outside, until a sentinel comes. -/
theorem linesOutside_of_isOpen {block : Block} (h : block.isOpen) {lines : List Text}
    (hlines : ∀ line ∈ lines, Sentinel.ofText? line.trim = none) (more : List Text) :
    block.linesOutside (lines ++ more) = (block.readLines lines).1.linesOutside more := by
  induction lines generalizing block with
  | nil => rfl
  | cons line lines ih =>
    have hopen := isOpen_readLine h (hlines line List.mem_cons_self)
    rw [List.cons_append, linesOutside, if_pos h, readLines_cons,
      ih hopen fun l hm => hlines l (List.mem_cons_of_mem _ hm)]

/-- The lines of a well-formed dump that are read outside are its opening sentinels. -/
theorem linesOutside_dump {d : WrittenDump} (hd : d.WellFormed) :
    Block.outside.linesOutside
        (Sentinel.varsStart.text :: d.innerLines ++ [Sentinel.stackEnd.text]) =
      [Sentinel.varsStart.text, Sentinel.stackStart.text] := by
  have hrecords : ∀ line ∈ d.records, IsInnerLine line :=
    fun line hm => hd.inner line (List.mem_append_left _ hm)
  have hframes : ∀ line ∈ d.frames, IsInnerLine line :=
    fun line hm => hd.inner line (List.mem_append_right _ hm)
  have hlines : Sentinel.varsStart.text :: d.innerLines ++ [Sentinel.stackEnd.text] =
      Sentinel.varsStart.text :: (d.records ++
        Sentinel.varsEnd.text :: Sentinel.stackStart.text ::
          (d.frames ++ [Sentinel.stackEnd.text])) := by
    simp [WrittenDump.innerLines]
  have hvars : ∀ rs, linesOutside (.vars rs) (Sentinel.varsEnd.text :: Sentinel.stackStart.text ::
      (d.frames ++ [Sentinel.stackEnd.text])) =
      Sentinel.stackStart.text :: linesOutside (.stack []) (d.frames ++ [Sentinel.stackEnd.text]) :=
    fun rs => rfl
  have hstack : linesOutside (.stack []) (d.frames ++ [Sentinel.stackEnd.text]) = [] := by
    rw [linesOutside_of_isOpen rfl (fun line hm => (hframes line hm).2), readLines_frames hframes]
    rfl
  have hopening : linesOutside .outside (Sentinel.varsStart.text :: (d.records ++
        Sentinel.varsEnd.text :: Sentinel.stackStart.text ::
          (d.frames ++ [Sentinel.stackEnd.text]))) =
      Sentinel.varsStart.text :: linesOutside (.vars []) (d.records ++
        Sentinel.varsEnd.text :: Sentinel.stackStart.text ::
          (d.frames ++ [Sentinel.stackEnd.text])) := rfl
  rw [hlines, hopening, linesOutside_of_isOpen rfl (fun line hm => (hrecords line hm).2),
    readLines_records hrecords, hvars, hstack]

end Block

namespace Demux

/-- What is read of a well-formed dump. -/
theorem feed_text {d : WrittenDump} (hd : d.WellFormed) :
    feed {} d.text =
      ({}, { records := some (d.records.map Record.ofLineLossy)
             stack := some (d.frames.map Text.trim) }) := by
  have hlines := Block.newline_not_mem_segmentLines [] hd
  have htext : d.text =
      Text.unbreakLines (Block.segmentLines [] d ++ [Sentinel.stackEnd.text]) [] := by
    simpa using Block.segment_eq [] d []
  have hread : Block.outside.readLines (Block.segmentLines [] d) =
      (.stack (d.frames.map Text.trim),
        { records := some (d.records.map Record.ofLineLossy) }) := by
    have hsplit : Block.segmentLines [] d = Sentinel.varsStart.text :: d.innerLines := rfl
    rw [hsplit, Block.readLines_cons, Block.readLine_varsStart, Block.readLines_innerLines hd,
      Output.empty_append]
  rw [htext, feed_unbreakLines_nil hlines, Block.readLines_append, hread, Block.readLines_cons,
    Block.readLine_stackEnd]
  exact Prod.ext rfl (Output.eq_of_parts rfl rfl rfl rfl)

/-- The only lines of a well-formed dump outside of blocks open them. -/
theorem noIndentedSentinel_text {d : WrittenDump} (hd : d.WellFormed) :
    NoIndentedSentinel d.text := by
  have hlines := Block.newline_not_mem_segmentLines [] hd
  have hsplit : Block.segmentLines [] d = Sentinel.varsStart.text :: d.innerLines := rfl
  rw [hsplit] at hlines
  have hopening : ∀ line ∈ [Sentinel.varsStart.text, Sentinel.stackStart.text],
      ¬ IndentedSentinel line := by
    decide
  rw [NoIndentedSentinel, linesOutside, WrittenDump.text, Text.breakLines_unbreakLines hlines]
  simpa only [Text.breakLines, List.append_nil, Block.linesOutside_dump hd] using hopening

/-- **A well-formed dump is read back in chunks of any size**, and nothing of it is output. -/
theorem feedAll_text {d : WrittenDump} (hd : d.WellFormed) {chunks : List Text}
    (h : chunks.flatten = d.text) :
    feedAll {} chunks =
      ({}, { records := some (d.records.map Record.ofLineLossy)
             stack := some (d.frames.map Text.trim) }) := by
  have hagree := feedAll_flatten chunks
  rw [h, feed_text hd] at hagree
  exact Prod.ext hagree.state (Output.eq_of_parts (hagree.text (noIndentedSentinel_text hd))
    hagree.records hagree.stack hagree.tests)

end Demux

/-! ## 2. Lines of a dump -/

/-- What a dump shows of a content. -/
structure View where
  /-- The text of the content. -/
  value : Text
  /-- The address that a pointer holds, unless it is null. -/
  target? : Option Nat
  /-- The text of the allocation at that address. -/
  pointee : Text

namespace Record

/-- The record that a reader is told of a variable or an allocation. -/
def shown (name typeName : Text) (own : Nat) (frame : Text) (view : View) : Record where
  name := name
  typeName := typeName
  ownAddress := Address.text own
  displayValue := view.value.withoutReturns
  pointeeAddress := view.target?.map Address.text
  frameLabel := frame
  pointeeValue :=
    if view.pointee.withoutReturns = [] then none else some view.pointee.withoutReturns

/-- The line that shows a variable or an allocation. -/
def shownLine (name typeName : Text) (own : Nat) (frame : Text) (view : View) : Text :=
  Registry.recordLine name typeName (Address.text own) view.value
    ((view.target?.map Address.text).getD nullTarget) frame view.pointee

variable {name typeName frame : Text} {view : View}

/-- A line of a dump is read as its fields, if what stands between the bars fits there. -/
theorem ofLine_shownLine_eq (hname : '|' ∉ name) (htype : '|' ∉ typeName) (hframe : '|' ∉ frame)
    (own : Nat) :
    ofLine (shownLine name typeName own frame view) =
      ofFields (shownLine name typeName own frame view) name typeName (Address.text own)
        (Field.encode .inner view.value) ((view.target?.map Address.text).getD nullTarget) frame
        (Field.encode .last view.pointee) := by
  have hbar : '|' ∉ (view.target?.map Address.text).getD nullTarget := by
    cases view.target? with
    | none => decide
    | some a => exact Address.bar_not_mem_text a
  exact ofLine_join hname htype (Address.bar_not_mem_text own) hbar hframe
    (Field.bar_not_mem_encode_last view.pointee) (Field.encode .inner view.value)

/-- **One line of a dump is read as what it shows.** -/
theorem ofLine_shownLine (hne : name ≠ []) (hname : '|' ∉ name) (htype : '|' ∉ typeName)
    (hframe : '|' ∉ frame) (htarget : ∀ a ∈ view.target?, 0 < a ∧ a < Address.bound) (own : Nat) :
    ofLine (shownLine name typeName own frame view) = .ok (shown name typeName own frame view) := by
  have hread : (if (Address.read? ((view.target?.map Address.text).getD nullTarget)).isSome
      then some ((view.target?.map Address.text).getD nullTarget) else none) =
      view.target?.map Address.text := by
    cases hv : view.target? with
    | none => decide
    | some a =>
      obtain ⟨h0, hb⟩ := htarget a hv
      simp [Address.read?_text h0 hb]
  have hempty : (Field.encode .last view.pointee).isEmpty = true ↔
      view.pointee.withoutReturns = [] := by
    rw [List.isEmpty_iff, Field.encode_eq_nil_iff]
  rw [ofLine_shownLine_eq hname htype hframe, ofFields, if_neg (by simpa using hne), hread]
  simp only [Field.decode_encode, hempty, shown]

theorem isHeap_shownLine_of_noName (htype : '|' ∉ typeName) (hframe : '|' ∉ frame) (own : Nat) :
    (ofLineLossy (shownLine [] typeName own frame view)).isHeap = false := by
  rw [ofLineLossy, ofLine_shownLine_eq List.not_mem_nil htype hframe]
  rfl

/-- A line of a dump ends in a bar or in a value, and so in no carriage return. -/
theorem getLast?_shownLine (name typeName : Text) (own : Nat) (frame : Text) (view : View) :
    (shownLine name typeName own frame view).getLast? ≠ some '\r' := by
  have hsplit := Text.join_concat ['|'] (List.cons_ne_nil name [typeName, Address.text own,
    Field.encode .inner view.value, (view.target?.map Address.text).getD nullTarget, frame])
    (Field.encode .last view.pointee)
  rw [List.append_assoc] at hsplit
  obtain ⟨before, hline⟩ : ∃ before, shownLine name typeName own frame view =
      before ++ '|' :: Field.encode .last view.pointee := ⟨_, hsplit⟩
  rw [hline, List.getLast?_append_of_ne_nil _ (List.cons_ne_nil _ _)]
  intro hlast
  rcases List.mem_cons.1 (List.mem_of_getLast? hlast) with h | h
  · exact absurd h (by decide)
  · exact Field.not_mem_encode (.inr rfl) .last view.pointee h

/-- A line of a dump is a single line. -/
theorem newline_not_mem_shownLine (hname : '\n' ∉ name) (htype : '\n' ∉ typeName)
    (hframe : '\n' ∉ frame) (own : Nat) : '\n' ∉ shownLine name typeName own frame view := by
  have htarget : '\n' ∉ (view.target?.map Address.text).getD nullTarget := by
    cases view.target? with
    | none => decide
    | some a => exact Address.newline_not_mem_text a
  intro h
  rcases Text.mem_join h with hc | ⟨part, hpart, hc⟩
  · exact absurd hc (by decide)
  · simp only [List.mem_cons, List.not_mem_nil, or_false] at hpart
    rcases hpart with rfl | rfl | rfl | rfl | rfl | rfl | rfl
    · exact hname hc
    · exact htype hc
    · exact Address.newline_not_mem_text own hc
    · exact Field.not_mem_encode (.inl rfl) _ _ hc
    · exact htarget hc
    · exact hframe hc
    · exact Field.not_mem_encode (.inl rfl) _ _ hc

/-- Lines with a bar are inner lines: no sentinel has one. -/
theorem isInnerLine_of_bar {line : Text} (h : '|' ∈ line) : IsInnerLine line := by
  have hblank : ∀ {w : Text}, Text.blank w → '|' ∉ w := by
    intro w hw hm
    exact absurd (List.all_eq_true.1 hw _ hm) (by decide)
  refine ⟨fun hb => hblank hb h, Option.eq_none_iff_forall_not_mem.2 fun s hs => ?_⟩
  obtain ⟨w, w', hw, hw', rfl⟩ := Sentinel.ofText?_trim_eq_some_iff.1 hs
  have hbar : '|' ∉ s.text := by cases s <;> decide
  simp only [List.mem_append] at h
  rcases h with (h | h) | h
  · exact hblank hw h
  · exact hbar h
  · exact hblank hw' h

theorem isInnerLine_shownLine (name typeName : Text) (own : Nat) (frame : Text) (view : View) :
    IsInnerLine (shownLine name typeName own frame view) := by
  have hsplit : ∃ behind, shownLine name typeName own frame view = name ++ '|' :: behind :=
    ⟨_, by simp [shownLine, Registry.recordLine, Text.join]; rfl⟩
  obtain ⟨behind, hline⟩ := hsplit
  exact isInnerLine_of_bar (by simp [hline])

end Record

namespace Registry

/-! ## 3. Dumps of registries -/

/-- What a dump shows of the content of a variable. -/
def view (r : Registry) : Content → View
  | .value text => { value := text, target? := none, pointee := [] }
  | .pointer 0 => { value := "nullptr", target? := none, pointee := [] }
  | .pointer address =>
    { value := Address.text address, target? := some address, pointee := r.valueAt address }

/-- The record of a variable. -/
def variableRecord (r : Registry) (v : Variable) : Record :=
  Record.shown v.name v.typeName v.address v.frame (r.view v.content)

/-- The record of an allocation. -/
def allocationRecord (address : Nat) (a : Allocation) : Record :=
  Record.shown ('*' :: Address.text address) a.typeName address heapFrame
    { value := a.value, target? := none, pointee := [] }

/-- The records of a dump: the variables from the newest to the oldest, then the allocations. -/
def dumpRecords (r : Registry) : List Record :=
  r.traced.reverse.map r.variableRecord ++ r.heap.map fun (address, a) => allocationRecord address a

/-- The line of a variable shows it. -/
theorem variableLine_eq (r : Registry) (v : Variable) :
    r.variableLine v = Record.shownLine v.name v.typeName v.address v.frame (r.view v.content) := by
  unfold variableLine
  rcases v.content with text | _ | address <;> rfl

/-- A pointer that is shown points to an address. -/
theorem view_target {r : Registry} {content : Content} (h : content.InRange) :
    ∀ a ∈ (r.view content).target?, 0 < a ∧ a < Address.bound := by
  rcases content with text | _ | address
  · intro a ha
    cases ha
  · intro a ha
    cases ha
  · intro a ha
    obtain rfl : address + 1 = a := Option.some.inj ha
    exact ⟨Nat.succ_pos _, h⟩

/-- The names, types and frames that a dump shows fit between the bars of its lines. -/
structure LegibleRecords (r : Registry) : Prop where
  names : ∀ v ∈ r.traced, v.name ≠ [] ∧ v.name.Plain
  traced : ∀ v ∈ r.traced, v.typeName.Plain ∧ v.frame.Plain
  heap : ∀ entry ∈ r.heap, entry.2.typeName.Plain

/-- What a dump shows of variables and allocations leaves its lines whole. -/
structure Fits (r : Registry) : Prop where
  traced : ∀ v ∈ r.traced, v.name.Plain ∧ v.typeName.Plain ∧ v.frame.Plain
  heap : ∀ entry ∈ r.heap, entry.2.typeName.Plain

theorem LegibleRecords.fits {r : Registry} (h : r.LegibleRecords) : r.Fits :=
  ⟨fun v hv => ⟨(h.names v hv).2, h.traced v hv⟩, h.heap⟩

/-- What a dump shows fits on its lines: so do the labels of the stack, which are not trimmed and
not taken for sentinels. -/
structure Legible (r : Registry) : Prop extends LegibleRecords r where
  labels : ∀ label ∈ r.stack,
    label.trim = label ∧ label ≠ [] ∧ '\n' ∉ label ∧ Sentinel.ofText? label = none

/-- The lines of the variable block. -/
def recordLines (r : Registry) : List Text :=
  r.traced.reverse.map r.variableLine ++ r.heap.map fun (address, a) => allocationLine address a

/-- Every line of the variable block shows a variable or an allocation. -/
theorem mem_recordLines {r : Registry} {line : Text} (h : line ∈ r.recordLines) :
    (∃ v ∈ r.traced,
      line = Record.shownLine v.name v.typeName v.address v.frame (r.view v.content)) ∨
    ∃ entry ∈ r.heap, line = Record.shownLine ('*' :: Address.text entry.1) entry.2.typeName entry.1
      heapFrame { value := entry.2.value, target? := none, pointee := [] } := by
  rw [recordLines, List.mem_append, List.mem_map, List.mem_map] at h
  rcases h with ⟨v, hv, rfl⟩ | ⟨entry, hentry, rfl⟩
  · exact .inl ⟨v, List.mem_reverse.1 hv, r.variableLine_eq v⟩
  · exact .inr ⟨entry, hentry, rfl⟩

theorem isInnerLine_recordLines (r : Registry) :
    ∀ line ∈ r.recordLines, IsInnerLine line ∧ line.getLast? ≠ some '\r' := by
  intro line h
  rcases mem_recordLines h with ⟨v, -, rfl⟩ | ⟨entry, -, rfl⟩
  · exact ⟨Record.isInnerLine_shownLine .., Record.getLast?_shownLine _ _ _ _ _⟩
  · exact ⟨Record.isInnerLine_shownLine .., Record.getLast?_shownLine _ _ _ _ _⟩

theorem plain_star_text (address : Nat) : Text.Plain ('*' :: Address.text address) := by
  refine ⟨fun h => ?_, fun h => ?_⟩
  · exact (List.mem_cons.1 h).elim (by decide) (Address.bar_not_mem_text address)
  · exact (List.mem_cons.1 h).elim (by decide) (Address.newline_not_mem_text address)

theorem newline_not_mem_recordLines {r : Registry} (hf : r.Fits) :
    ∀ line ∈ r.recordLines, '\n' ∉ line := by
  intro line h
  rcases mem_recordLines h with ⟨v, hv, rfl⟩ | ⟨entry, hentry, rfl⟩
  · obtain ⟨hname, htype, hframe⟩ := hf.traced v hv
    exact Record.newline_not_mem_shownLine hname.2 htype.2 hframe.2 v.address
  · exact Record.newline_not_mem_shownLine (plain_star_text entry.1).2
      (hf.heap entry hentry).2 (by decide) entry.1

/-- The line of a variable is read as the variable that it shows. -/
theorem ofLineLossy_variableLine {r : Registry} {v : Variable} (hcontent : v.content.InRange)
    (hne : v.name ≠ []) (hname : v.name.Plain) (htype : v.typeName.Plain) (hframe : v.frame.Plain) :
    Record.ofLineLossy (r.variableLine v) = r.variableRecord v := by
  have hline := Record.ofLine_shownLine hne hname.1 htype.1 hframe.1
    (view_target (r := r) hcontent) v.address
  rw [variableLine_eq, Record.ofLineLossy, hline]
  rfl

/-- The line of an allocation is read as the allocation that it shows. -/
theorem ofLineLossy_allocationLine (address : Nat) {a : Allocation} (htype : a.typeName.Plain) :
    Record.ofLineLossy (allocationLine address a) = allocationRecord address a := by
  let view : View := { value := a.value, target? := none, pointee := [] }
  have htarget : ∀ a ∈ view.target?, 0 < a ∧ a < Address.bound := by simp [view]
  have hline := Record.ofLine_shownLine (List.cons_ne_nil _ _) (plain_star_text address).1
    htype.1 (by decide : '|' ∉ heapFrame) htarget address
  have heq : allocationLine address a = Record.shownLine ('*' :: Address.text address)
    a.typeName address heapFrame view := rfl
  rw [heq, Record.ofLineLossy, hline]
  rfl

/-- **The lines of the variable block are read as the variables and allocations that they show.** -/
theorem ofLineLossy_recordLines {r : Registry} (hr : r.Sound) (hl : r.LegibleRecords) :
    r.recordLines.map Record.ofLineLossy = r.dumpRecords := by
  rw [recordLines, dumpRecords, List.map_append, List.map_map, List.map_map]
  congr 1
  · refine List.map_congr_left fun v hv => ?_
    have hv := List.mem_reverse.1 hv
    obtain ⟨hne, hname⟩ := hl.names v hv
    obtain ⟨htype, hframe⟩ := hl.traced v hv
    exact ofLineLossy_variableLine (hr.contents v hv) hne hname htype hframe
  · refine List.map_congr_left ?_
    rintro ⟨address, a⟩ hentry
    exact ofLineLossy_allocationLine address (hl.heap (address, a) hentry)

/-- The dump of the registries as blocks of lines. -/
def written (r : Registry) : WrittenDump where
  records := r.recordLines
  frames := r.stack

theorem dump_eq (r : Registry) : r.dump = r.written.text := by
  simp [dump, dumpLines, WrittenDump.text, WrittenDump.innerLines, written, recordLines,
    Text.unbreakLines]

/-- What is legible is well-formed. -/
theorem wellFormed_written {r : Registry} (hl : r.Legible) : r.written.WellFormed where
  inner := by
    intro line h
    rcases List.mem_append.1 h with h | h
    · exact (isInnerLine_recordLines r line h).1
    · obtain ⟨htrim, hne, -, hsentinel⟩ := hl.labels line h
      refine ⟨fun hb => hne ?_, by rw [htrim]; exact hsentinel⟩
      rw [← htrim, Text.trim_eq_nil_iff]
      exact hb
  noNewline := by
    intro line h
    rcases List.mem_append.1 h with h | h
    · exact newline_not_mem_recordLines hl.fits line h
    · exact (hl.labels line h).2.2.1
  noReturn := fun line h => (isInnerLine_recordLines r line h).2

/-- **Dumps are read back without loss.**  Whatever a program has done to its registries and in
whatever chunks the dump of them arrives, nothing of it is output, no block stays open, and the
records are those of the traced variables and then of the registered allocations.  Ids count the
variables and addresses the allocations, so the former are told the newest first and the latter by
ascending address. -/
theorem feedAll_dump {r : Registry} (hr : r.Reachable) (hl : r.Legible) {chunks : List Text}
    (h : chunks.flatten = r.dump) :
    Demux.feedAll {} chunks =
        ({ pending := [], released := false, block := .outside },
          { text := [], records := some r.dumpRecords, stack := some r.stack, tests := [] }) ∧
      r.tracedIds.Pairwise (· < ·) ∧ r.heapAddresses.Pairwise (· < ·) := by
  have hsound := hr.sound
  have hrecords := ofLineLossy_recordLines hsound hl.toLegibleRecords
  have hstack : r.stack.map Text.trim = r.stack := by
    conv => rhs; rw [← List.map_id r.stack]
    exact List.map_congr_left fun label hm => (hl.labels label hm).1
  have hread := Demux.feedAll_text (wellFormed_written hl) (h.trans r.dump_eq)
  refine ⟨?_, hsound.ids, hsound.addresses⟩
  rw [hread]
  simp only [written, hrecords, hstack]

/-- A value that looks like more lines of a dump, a pointer, and an allocation rendered by a
renderer that allocates, in chunks of one character. -/
theorem feedAll_dump_singletons :
    let value : Text := "a|b\\n\r\n[DEBUG:VARS:END]"
    let actions : List Action :=
      [.enter "f" "main", .allocate 16, .rerender 0x10000 "Node" "up -> 0|\r" [.allocate 8],
        .trace "x" "x" "string" value, .tracePointer "p" "p" "Node" 0x10000]
    let r : Registry :=
      { traced :=
          [{ id := 0, name := "x", typeName := "string", frame := "main", address := 0xf000
             content := .value value },
           { id := 1, name := "p", typeName := "Node *", frame := "main", address := 0xeff8
             content := .pointer 0x10000 }]
        stack := ["main".toList]
        heap := [(0x10000, { size := 16, typeName := "Node", value := "up -> 0|\r" })]
        nextVariable := 2
        nextHeap := 0x10020
        nextSlot := 0xeff0 }
    (Debuggee.actAll? {} actions).map (·.1.registry) = some r ∧
      r.Legible ∧
      Demux.feedAll {} (r.dump.map fun c => [c]) =
        ({}, { stack := some ["main".toList]
               records := some
                [{ name := "p", typeName := "Node *", ownAddress := "0xeff8"
                   displayValue := "0x10000", pointeeAddress := some "0x10000".toList
                   frameLabel := "main", pointeeValue := some "up -> 0|".toList },
                 { name := "x", typeName := "string", ownAddress := "0xf000"
                   displayValue := "a|b\\n\n[DEBUG:VARS:END]", pointeeAddress := none
                   frameLabel := "main", pointeeValue := none },
                 { name := "*0x10000", typeName := "Node", ownAddress := "0x10000"
                   displayValue := "up -> 0|", pointeeAddress := none
                   frameLabel := "heap", pointeeValue := none }] }) := by
  intro value actions r
  have hrun : (Debuggee.actAll? {} actions).map (·.1.registry) = some r := by decide +kernel
  have hrange : Action.AllInRange actions :=
    ⟨trivial, trivial, ⟨trivial, trivial⟩, trivial, (by decide : 0x10000 < Address.bound), trivial⟩
  have hreach : r.Reachable := by
    obtain ⟨⟨p, replies⟩, h, hp⟩ := Option.map_eq_some_iff.1 hrun
    exact hp ▸ Debuggee.reachable_of_actAll? 50 hrange h
  have hl : r.Legible := ⟨⟨by decide, by decide, by decide⟩, by decide⟩
  have hchunks : (r.dump.map fun c => [c]).flatten = r.dump := by
    rw [← List.flatMap_def, List.flatMap_singleton']
  refine ⟨hrun, hl, (feedAll_dump hreach hl hchunks).1.trans ?_⟩
  decide +kernel

end Registry

end Stepwise
