import Stepwise.Proofs.Chunks
import Stepwise.Proofs.Dumps
import Stepwise.Session.Basic

/-!
# Live sessions and replayed logs

A session hears the stream of a program in chunks, a replay reads the same stream line by line.  Both
pair a variable block with the stack block that follows it, but of one piece of the stream they are
only told the last block of each kind.  A line closes at most one block, so a replay misses nothing.
A chunk may close several, and then the session pairs the last variables with the last stack, which
need not belong to one dump.

The argument compares three readings of a stream: the pieces that its chunks yield
(`Demux.pieces`), the outputs of the lines that each chunk finishes, and the outputs of all lines
(`Block.outputs`).  The first two agree for every cut (`Demux.feed_release_blocks`), the last two as
long as behind a stack block no chunk closes half a dump (`Output.KeepsPairs`,
`Tracker.see_concat`).

Main statements:

* `Session.absorb_run_eq_replay`: a session and a replay agree on the tests and on the last stack,
  and on the whole snapshot if no chunk tears a dump;
* `Session.snapshot_of_torn_dump`: if a chunk does, the session forgets the variables of that dump.
-/

namespace Stepwise

/-! ## 1. Pieces of a stream -/

namespace Output

/-- What several pieces yield in turn. -/
def concat (outs : List Output) : Output := outs.foldr (· ++ ·) {}

@[simp] theorem concat_nil : concat [] = {} := rfl

@[simp] theorem concat_cons (out : Output) (outs : List Output) :
    concat (out :: outs) = out ++ concat outs := rfl

/-- Whether a piece closes blocks of both kinds, or none at all. -/
def isPaired (out : Output) : Bool := out.records.isSome == out.stack.isSome

/-- Behind every closed stack block the pieces close blocks of both kinds, or none at all. -/
def KeepsPairs : List Output → Prop
  | [] => True
  | out :: outs => (out.stack.isSome → (concat outs).isPaired) ∧ KeepsPairs outs

instance decidableKeepsPairs : (outs : List Output) → Decidable (KeepsPairs outs)
  | [] => isTrue trivial
  | _ :: outs =>
    have := decidableKeepsPairs outs
    inferInstanceAs (Decidable (_ ∧ _))

end Output

namespace Tracker

/-- What a piece does to the waiting variables and to the last snapshot. -/
def see (a : Tracker × Option Snapshot) (out : Output) : Tracker × Option Snapshot :=
  ((a.1.absorb out).1, (a.1.absorb out).2 <|> a.2)

theorem see_congr {out out' : Output} (hr : out.records = out'.records)
    (hs : out.stack = out'.stack) (a : Tracker × Option Snapshot) : see a out = see a out' := by
  simp only [see, absorb, hr, hs]

theorem see_of_no_blocks {out : Output} (hr : out.records = none) (hs : out.stack = none)
    (a : Tracker × Option Snapshot) : see a out = a := by
  simp [see, absorb, hr, hs]

/-- Two pieces in turn are one piece, if a closed stack is followed by a whole pair or nothing. -/
theorem see_append {out more : Output} (h : out.stack.isSome → more.isPaired)
    (a : Tracker × Option Snapshot) : see a (out ++ more) = see (see a out) more := by
  obtain ⟨text, records, stack, tests⟩ := out
  obtain ⟨text', records', stack', tests'⟩ := more
  simp only [see, absorb, Output.records_append, Output.stack_append]
  cases stack with
  | none => cases stack' <;> cases records' <;> simp
  | some frames =>
    -- `more` either replaces the whole snapshot or leaves it
    have hpaired : records'.isSome = stack'.isSome := by simpa [Output.isPaired] using h rfl
    cases stack' with
    | none =>
      obtain rfl : records' = none := by simpa using hpaired
      simp
    | some frames' =>
      obtain ⟨vars, rfl⟩ := Option.isSome_iff_exists.1 hpaired
      simp

/-- **Pieces that keep their pairs** may be put together before they are looked at. -/
theorem see_concat {outs : List Output} (h : Output.KeepsPairs outs)
    (a : Tracker × Option Snapshot) : see a (Output.concat outs) = outs.foldl see a := by
  induction outs generalizing a with
  | nil => exact see_of_no_blocks rfl rfl a
  | cons out outs ih => rw [Output.concat_cons, see_append h.1, ih h.2, List.foldl_cons]

/-- The stack of the last snapshot is the last one closed, however the pieces are put together. -/
theorem stack_foldl_see (outs : List Output) (a : Tracker × Option Snapshot) :
    (outs.foldl see a).2.map Snapshot.stack =
      ((Output.concat outs).stack <|> a.2.map Snapshot.stack) := by
  induction outs generalizing a with
  | nil => simp
  | cons out outs ih =>
    have hsee : (see a out).2.map Snapshot.stack = (out.stack <|> a.2.map Snapshot.stack) := by
      rw [see, absorb]
      cases out.stack <;> simp
    rw [List.foldl_cons, ih, hsee, Output.concat_cons, Output.stack_append]
    cases (Output.concat outs).stack <;> simp

end Tracker

/-! ## 2. The lines of a chunk -/

namespace Block

/-- What finished lines yield, line by line. -/
def outputs (block : Block) : List Text → List Output
  | [] => []
  | line :: lines =>
    (block.readLine false line).2 :: (block.readLine false line).1.outputs lines

theorem concat_outputs (block : Block) (lines : List Text) :
    Output.concat (block.outputs lines) = (block.readLines lines).2 := by
  induction lines generalizing block with
  | nil => rfl
  | cons line lines ih => rw [outputs, Output.concat_cons, ih, readLines_cons]

theorem outputs_append (block : Block) (lines more : List Text) :
    block.outputs (lines ++ more) =
      block.outputs lines ++ (block.readLines lines).1.outputs more := by
  induction lines generalizing block with
  | nil => rfl
  | cons line lines ih => simp only [List.cons_append, outputs, ih, readLines_cons]

/-- No chunk tears a dump: of the lines that a chunk finishes, those behind a closed stack block
close a whole dump or nothing.  `rest` is the unfinished line in front of the chunks. -/
def KeepsPairs (block : Block) (rest : Text) : List Text → Prop
  | [] => True
  | chunk :: chunks =>
    Output.KeepsPairs (block.outputs (Text.breakLines (rest ++ chunk)).1) ∧
      (block.readLines (Text.breakLines (rest ++ chunk)).1).1.KeepsPairs
        (Text.breakLines (rest ++ chunk)).2 chunks

instance decidableKeepsPairs (block : Block) (rest : Text) :
    (chunks : List Text) → Decidable (block.KeepsPairs rest chunks)
  | [] => isTrue trivial
  | chunk :: chunks =>
    have := decidableKeepsPairs (block.readLines (Text.breakLines (rest ++ chunk)).1).1
      (Text.breakLines (rest ++ chunk)).2 chunks
    inferInstanceAs (Decidable (_ ∧ _))

end Block

/-- No chunk of a stream tears a dump. -/
def KeepsDumps (chunks : List Text) : Prop := Block.outside.KeepsPairs [] chunks

instance (chunks : List Text) : Decidable (KeepsDumps chunks) :=
  inferInstanceAs (Decidable (Block.outside.KeepsPairs [] chunks))

/-! ## 3. Chunks and the lines they finish -/

namespace Text

theorem breakLines_append_eq (s t : Text) :
    breakLines (s ++ t) = ((breakLines s).1 ++ (breakLines ((breakLines s).2 ++ t)).1,
      (breakLines ((breakLines s).2 ++ t)).2) := by
  have hs : s ++ t = unbreakLines (breakLines s).1 ((breakLines s).2 ++ t) := by
    conv => lhs; rw [← unbreakLines_breakLines s]
    simp [unbreakLines]
  rw [hs, breakLines_unbreakLines (newline_not_mem_breakLines s).1]

end Text

namespace Demux

/-- What each of several chunks yields. -/
def pieces (d : Demux) : List Text → List Output
  | [] => []
  | chunk :: chunks => (d.feed chunk).2 :: (d.feed chunk).1.pieces chunks

theorem concat_pieces (d : Demux) (chunks : List Text) :
    Output.concat (d.pieces chunks) = (d.feedAll chunks).2 := by
  induction chunks generalizing d with
  | nil => rfl
  | cons chunk chunks ih => rw [pieces, Output.concat_cons, ih, feedAll_cons]

theorem release_blocks (d : Demux) : d.release.2.records = none ∧ d.release.2.stack = none := by
  rw [release]
  split
  · exact ⟨rfl, rfl⟩
  · split <;> exact ⟨rfl, rfl⟩

/-- **A chunk yields the blocks of the lines that it finishes**, whatever was let through of the
first of them, and leaves its own unfinished line behind. -/
theorem feed_release_blocks {rest : Text} (h : '\n' ∉ rest) (block : Block) (chunk : Text) :
    ((release { pending := rest, block }).1.feed chunk).1 =
        (release { pending := (Text.breakLines (rest ++ chunk)).2
                   block := (block.readLines (Text.breakLines (rest ++ chunk)).1).1 }).1 ∧
      ((release { pending := rest, block }).1.feed chunk).2.records =
        (block.readLines (Text.breakLines (rest ++ chunk)).1).2.records ∧
      ((release { pending := rest, block }).1.feed chunk).2.stack =
        (block.readLines (Text.breakLines (rest ++ chunk)).1).2.stack := by
  obtain ⟨hlines, hrest⟩ := Text.newline_not_mem_breakLines (rest ++ chunk)
  have hwhole := feed_unbreakLines hlines block (Text.breakLines (rest ++ chunk)).2
  rw [Text.unbreakLines_breakLines, feed_of_newline_not_mem hrest, List.nil_append] at hwhole
  have hagree := feed_release h block chunk
  rw [hwhole] at hagree
  obtain ⟨hstate, -, hrecords, hstack, -⟩ := hagree
  simp only [Output.records_append, Output.stack_append, (release_blocks _).1, (release_blocks _).2,
    Option.orElse_eq_orElse, Option.orElse_eq_or, Option.or_none, Option.none_or]
    at hrecords hstack
  exact ⟨hstate, hrecords, hstack⟩

/-- **Chunks that tear no dump are read as their lines are**, one by one.  The induction is on the
chunks, with the unfinished line between two of them carried along. -/
theorem foldl_see_pieces {rest : Text} (h : '\n' ∉ rest) {block : Block} {chunks : List Text}
    (hk : block.KeepsPairs rest chunks) (a : Tracker × Option Snapshot) :
    ((release { pending := rest, block }).1.pieces chunks).foldl Tracker.see a =
      (block.outputs (Text.breakLines (rest ++ chunks.flatten)).1).foldl Tracker.see a := by
  induction chunks generalizing rest block a with
  | nil =>
    rw [List.flatten_nil, List.append_nil, Text.breakLines_of_newline_not_mem h]
    rfl
  | cons chunk chunks ih =>
    obtain ⟨hchunk, hchunks⟩ := hk
    obtain ⟨hstate, hrecords, hstack⟩ := feed_release_blocks h block chunk
    have hrest := (Text.newline_not_mem_breakLines (rest ++ chunk)).2
    rw [pieces, List.foldl_cons, hstate, ih hrest hchunks, Tracker.see_congr hrecords hstack,
      ← Block.concat_outputs, Tracker.see_concat hchunk, List.flatten_cons, ← List.append_assoc,
      Text.breakLines_append_eq (rest ++ chunk), Block.outputs_append, List.foldl_append]

end Demux

/-- **A stream that no chunk tears** leaves what its lines leave. -/
theorem foldl_see_pieces_eq {chunks : List Text} (h : KeepsDumps chunks)
    (a : Tracker × Option Snapshot) :
    (Demux.pieces {} chunks).foldl Tracker.see a =
      (Block.outside.outputs (Text.breakLines chunks.flatten).1).foldl Tracker.see a :=
  @Demux.foldl_see_pieces [] List.not_mem_nil .outside chunks h a

/-! ## 4. Replays -/

namespace Replay

theorem flatten_chunksOf (log : Text) : (chunksOf log).flatten = log := by
  have hlog := Text.unbreakLines_breakLines log
  rw [chunksOf]
  generalize Text.breakLines log = p at hlog ⊢
  obtain ⟨lines, rest⟩ := p
  rw [← hlog, Text.unbreakLines]
  cases rest <;> simp [List.flatMap]

/-- A single line tears no dump, since it closes at most one block. -/
theorem keepsPairs_lines {lines : List Text} (h : ∀ line ∈ lines, '\n' ∉ line) (block : Block)
    {rest : Text} (hrest : '\n' ∉ rest) :
    block.KeepsPairs [] (lines.map (· ++ ['\n']) ++ if rest.isEmpty then [] else [rest]) := by
  induction lines generalizing block with
  | nil =>
    cases rest with
    | nil => trivial
    | cons c rest =>
      rw [List.map_nil, List.nil_append, List.isEmpty_cons, if_neg Bool.false_ne_true,
        Block.KeepsPairs, List.nil_append, Text.breakLines_of_newline_not_mem hrest]
      exact ⟨trivial, trivial⟩
  | cons line lines ih =>
    have hline : Text.breakLines ([] ++ (line ++ ['\n'])) = ([line], []) := by
      rw [List.nil_append, Text.breakLines_line_append (h line List.mem_cons_self)]
      rfl
    rw [List.map_cons, List.cons_append, Block.KeepsPairs, hline]
    refine ⟨⟨fun _ => rfl, trivial⟩, ih (fun l hm => h l (List.mem_cons_of_mem _ hm)) _⟩

theorem keepsDumps_chunksOf (log : Text) : KeepsDumps (chunksOf log) :=
  keepsPairs_lines (Text.newline_not_mem_breakLines log).1 .outside
    (Text.newline_not_mem_breakLines log).2

theorem add_see (r : Replay) (t : Tracker) (out : Output) :
    ((r.add t out).2, (r.add t out).1.snapshot) = Tracker.see (t, r.snapshot) out := rfl

theorem flush_blocks (d : Demux) : d.flush.2.records = none ∧ d.flush.2.stack = none := by
  rw [Demux.flush]
  split <;> exact ⟨rfl, rfl⟩

/-- The tests and the snapshot that chunks add to a replay. -/
theorem go_eq (r : Replay) (t : Tracker) (d : Demux) (chunks : List Text) :
    (go r t d chunks).tests = r.tests ++ (Demux.finish (d.feedAll chunks)).2.tests ∧
      (go r t d chunks).snapshot = ((d.pieces chunks).foldl Tracker.see (t, r.snapshot)).2 := by
  induction chunks generalizing r t d with
  | nil =>
    have hsee := Tracker.see_of_no_blocks (flush_blocks d).1 (flush_blocks d).2 (t, r.snapshot)
    exact ⟨by simp [go, add, Demux.finish, Demux.feedAll], congrArg Prod.snd hsee⟩
  | cons chunk chunks ih =>
    obtain ⟨htests, hsnapshot⟩ := ih (r.add t (d.feed chunk).2).1 (r.add t (d.feed chunk).2).2
      (d.feed chunk).1
    refine ⟨htests.trans ?_, hsnapshot.trans ?_⟩
    · simp [add, Demux.finish, Demux.feedAll_cons]
    · rw [Demux.pieces, List.foldl_cons, ← add_see]

/-- A replay holds what the chunks of its log hold. -/
theorem ofLog_eq (log : Text) :
    (ofLog log).tests = (Demux.finish (Demux.feedAll {} (chunksOf log))).2.tests ∧
      (ofLog log).snapshot =
        ((Demux.pieces {} (chunksOf log)).foldl Tracker.see ({}, none)).2 := by
  obtain ⟨htests, hsnapshot⟩ := go_eq {} {} {} (chunksOf log)
  exact ⟨htests.trans (List.nil_append _), hsnapshot⟩

end Replay

/-! ## 5. Sessions -/

/-- The piece of the stream that an event brings. -/
def Event.text? : Event → Option Text
  | .log text => some text
  | _ => none

namespace Session

/-- **A session absorbs the chunks of its run.**  Other events of the run do not touch the stream,
the tests and the snapshot. -/
theorem foldl_absorb {events : List Event} (h : .finished ∉ events) (s : Session) :
    (events.foldl absorb s).demux = (s.demux.feedAll (events.filterMap Event.text?)).1 ∧
      (events.foldl absorb s).tests =
        s.tests ++ (s.demux.feedAll (events.filterMap Event.text?)).2.tests ∧
      ((events.foldl absorb s).tracker, (events.foldl absorb s).snapshot) =
        (s.demux.pieces (events.filterMap Event.text?)).foldl Tracker.see
          (s.tracker, s.snapshot) := by
  induction events generalizing s with
  | nil => exact ⟨rfl, by simp [Demux.feedAll], rfl⟩
  | cons e events ih =>
    rw [List.mem_cons, not_or] at h
    obtain ⟨hdemux, htests, hseen⟩ := ih h.2 (s.absorb e)
    cases e with
    | log text =>
      refine ⟨hdemux, htests.trans ?_, hseen.trans ?_⟩
      · simp [absorb, absorbOutput, Event.text?, Demux.feedAll_cons]
      · simp only [List.filterMap_cons, Event.text?, Demux.pieces, List.foldl_cons]
        rfl
    | compiled => exact ⟨hdemux, htests, hseen⟩
    | paused line => exact ⟨hdemux, htests, hseen⟩
    | finished => exact absurd rfl h.1

/-- A run that has just been started has told nothing yet. -/
theorem start_fresh (s : Session) (source : Text) (root : Syntax.Node) :
    (s.start source root).demux = {} ∧ (s.start source root).tests = [] ∧
      (s.start source root).tracker = {} ∧ (s.start source root).snapshot = none := by
  rw [start]
  split <;> exact ⟨rfl, rfl, rfl, rfl⟩

/-- The session once it has absorbed events of its run and the end of the run. -/
def absorbRun (s : Session) (events : List Event) : Session :=
  (events ++ [Event.finished]).foldl absorb s

/-- The tests and the snapshot of a session whose run is over. -/
theorem absorbRun_eq (s : Session) (source : Text) (root : Syntax.Node) {events : List Event}
    (h : .finished ∉ events) :
    ((s.start source root).absorbRun events).tests =
        (Demux.finish (Demux.feedAll {} (events.filterMap Event.text?))).2.tests ∧
      ((s.start source root).absorbRun events).snapshot =
        ((Demux.pieces {} (events.filterMap Event.text?)).foldl Tracker.see ({}, none)).2 := by
  obtain ⟨hdemux₀, htests₀, htracker₀, hsnapshot₀⟩ := s.start_fresh source root
  obtain ⟨hdemux, htests, hseen⟩ := foldl_absorb h (s.start source root)
  rw [hdemux₀] at hdemux
  rw [hdemux₀, htests₀, List.nil_append] at htests
  rw [hdemux₀, htracker₀, hsnapshot₀] at hseen
  rw [absorbRun, List.foldl_append, List.foldl_cons, List.foldl_nil]
  generalize events.foldl absorb (s.start source root) = last at hdemux htests hseen ⊢
  have hflush := Tracker.see_of_no_blocks (Replay.flush_blocks last.demux).1
    (Replay.flush_blocks last.demux).2 (last.tracker, last.snapshot)
  refine ⟨?_, ?_⟩
  · simp only [absorb, enqueue, flush, absorbOutput, Demux.finish, Output.tests_append, htests,
      hdemux]
  · rw [← hseen]
    exact congrArg Prod.snd hflush

/-! ## 6. A session and the replay of its log -/

/-- **A session and the replay of its log agree** on the tests and on the stack of the last
snapshot, wherever the log was cut and whatever other events came between its chunks; and they agree
on the whole snapshot if no chunk tears a dump. -/
theorem absorb_run_eq_replay (s : Session) (source : Text) (root : Syntax.Node)
    {events : List Event} (h : .finished ∉ events) :
    ((s.start source root).absorbRun events).tests =
        (Replay.ofLog (events.filterMap Event.text?).flatten).tests ∧
      ((s.start source root).absorbRun events).snapshot.map Snapshot.stack =
        (Replay.ofLog (events.filterMap Event.text?).flatten).snapshot.map Snapshot.stack ∧
      (KeepsDumps (events.filterMap Event.text?) →
        ((s.start source root).absorbRun events).snapshot =
          (Replay.ofLog (events.filterMap Event.text?).flatten).snapshot) := by
  obtain ⟨htests, hsnapshot⟩ := s.absorbRun_eq source root h
  generalize events.filterMap Event.text? = chunks at htests hsnapshot ⊢
  obtain ⟨htests', hsnapshot'⟩ := Replay.ofLog_eq chunks.flatten
  have hflat := Replay.flatten_chunksOf chunks.flatten
  have hlines := Demux.feedAll_flatten (Replay.chunksOf chunks.flatten)
  rw [hflat] at hlines
  have hagree := (Demux.feedAll_flatten chunks).trans hlines.symm
  rw [htests, hsnapshot, htests', hsnapshot']
  refine ⟨(Demux.finish_agree hagree).tests, ?_, fun hkeeps => ?_⟩
  · rw [Tracker.stack_foldl_see, Tracker.stack_foldl_see, Demux.concat_pieces,
      Demux.concat_pieces, hagree.stack]
  · have hlines := foldl_see_pieces_eq (Replay.keepsDumps_chunksOf chunks.flatten) ({}, none)
    rw [hflat] at hlines
    rw [foldl_see_pieces_eq hkeeps, hlines]

/-- Two dumps cut in the middle of a marker, in the middle of a record and between two lines, with
a pause between them: the session keeps the second one, as the replay does. -/
theorem absorb_run_eq_replay_two_dumps :
    let events : List Event :=
      [.compiled, .log "n: [DEBUG:VARS:START]\nx|int|0x1|5|0|main|\n[DEBUG:VA",
        .log "RS:END]\n[DEBUG:STACK:START]\nmain\n[DEBUG:STACK:END]\n", .paused 2,
        .log "[TEST:PASS] a\n[DEBUG:VARS:START]\nx|int|0x1|6|0|ma",
        .log "in|\n[DEBUG:VARS:END]\n", .log "[DEBUG:STACK:START]\nmain\n[DEBUG:STACK:END]\n"]
    let s : Session :=
      { coordinator := { environment :=
          { compile := fun job => .ok (Module.ofText job.source), script := fun _ => ⟨[], .exited⟩ } } }
    let root : Syntax.Node := .mk ⟨.other [], .none, true, false, ⟨0, 0⟩, 0⟩ []
    let last := (s.start [] root).absorbRun events
    let r := Replay.ofLog (events.filterMap Event.text?).flatten
    .finished ∉ events ∧ KeepsDumps (events.filterMap Event.text?) ∧
      last.tests = r.tests ∧ last.snapshot = r.snapshot := by
  intro events s root last r
  have hrun : .finished ∉ events := by decide
  have hkeeps : KeepsDumps (events.filterMap Event.text?) := by decide
  obtain ⟨htests, -, hsnapshot⟩ := absorb_run_eq_replay s [] root hrun
  exact ⟨hrun, hkeeps, htests, hsnapshot hkeeps⟩

end Session

/-! ## 7. Torn dumps -/

namespace WrittenDump

/-- The lines of the variable block with its sentinels. -/
def varsLines (d : WrittenDump) : List Text :=
  Sentinel.varsStart.text :: d.records ++ [Sentinel.varsEnd.text]

/-- The lines of the stack block with its sentinels. -/
def stackLines (d : WrittenDump) : List Text :=
  Sentinel.stackStart.text :: d.frames ++ [Sentinel.stackEnd.text]

theorem text_eq (d : WrittenDump) : d.text = Text.unbreakLines (d.varsLines ++ d.stackLines) [] := by
  simp [text, varsLines, stackLines, innerLines]

variable {d : WrittenDump}

/-- The lines of the blocks hold no newline. -/
theorem WellFormed.newline_not_mem (h : d.WellFormed) :
    ∀ line ∈ d.varsLines ++ d.stackLines, '\n' ∉ line := by
  intro line hm
  have hsentinel := Sentinel.newline_not_mem_text
  have hinner := h.noNewline
  simp only [varsLines, stackLines, List.mem_append, List.mem_cons, List.not_mem_nil, or_false]
    at hm hinner
  rcases hm with ((rfl | hm) | rfl) | (rfl | hm) | rfl
  · exact hsentinel _
  · exact hinner line (.inl hm)
  · exact hsentinel _
  · exact hsentinel _
  · exact hinner line (.inr hm)
  · exact hsentinel _

theorem WellFormed.readLines_varsLines (h : d.WellFormed) :
    Block.outside.readLines d.varsLines =
      (.outside, { records := some (d.records.map Record.ofLineLossy) }) := by
  have hrecords := Block.readLines_records
    (fun line hm => h.inner line (List.mem_append_left _ hm)) []
  simp only [varsLines, List.cons_append, Block.readLines_cons, Block.readLines_append,
    Block.readLine_varsStart, hrecords, h.map_dropReturn, Block.readLine_varsEnd, Block.readLines_nil,
    List.nil_append, Output.empty_append, Output.append_empty]

theorem WellFormed.readLines_stackLines (h : d.WellFormed) :
    Block.outside.readLines d.stackLines =
      (.outside, { stack := some (d.frames.map Text.trim) }) := by
  have hframes := Block.readLines_frames
    (fun line hm => h.inner line (List.mem_append_right _ hm)) []
  simp only [stackLines, List.cons_append, Block.readLines_cons, Block.readLines_append,
    Block.readLine_stackStart, hframes, Block.readLine_stackEnd, Block.readLines_nil,
    List.nil_append, Output.empty_append, Output.append_empty]

end WrittenDump

namespace Session

/-- **A torn dump loses its variables.**  If a chunk ends between the two blocks of a dump and holds
the dump before it too, the session shows the new stack without any variable, while the replay of
the same log shows the dump. -/
theorem snapshot_of_torn_dump (s : Session) (source : Text) (root : Syntax.Node)
    {first second : WrittenDump} (hfirst : first.WellFormed) (hsecond : second.WellFormed) :
    ((s.start source root).absorbRun
        [.log (first.text ++ Text.unbreakLines second.varsLines []),
          .log (Text.unbreakLines second.stackLines [])]).snapshot =
        some { graph := {}, stack := second.frames.map Text.trim } ∧
      (Replay.ofLog (first.text ++ second.text)).snapshot = some second.snapshot := by
  have hnewline := hsecond.newline_not_mem
  refine ⟨?_, ?_⟩
  · have hlines : ∀ line ∈ first.varsLines ++ first.stackLines ++ second.varsLines,
        '\n' ∉ line := by
      intro line hm
      rcases List.mem_append.1 hm with hm | hm
      · exact hfirst.newline_not_mem line hm
      · exact hnewline line (List.mem_append_left _ hm)
    have hchunk : first.text ++ Text.unbreakLines second.varsLines [] =
        Text.unbreakLines (first.varsLines ++ first.stackLines ++ second.varsLines) [] := by
      simp [WrittenDump.text_eq, Text.unbreakLines]
    -- the first chunk closes the stack of the first dump and the variables of the second
    have hread : Block.outside.readLines
        (first.varsLines ++ first.stackLines ++ second.varsLines) =
          (.outside, { records := some (second.records.map Record.ofLineLossy)
                       stack := some (first.frames.map Text.trim) }) := by
      simp only [Block.readLines_append, hfirst.readLines_varsLines, hfirst.readLines_stackLines,
        hsecond.readLines_varsLines]
      rfl
    have hfeed := Demux.feed_unbreakLines_nil hlines .outside
    have hfeed' := Demux.feed_unbreakLines_nil
      (fun line hm => hnewline line (List.mem_append_right _ hm)) .outside
    rw [hread] at hfeed
    rw [hsecond.readLines_stackLines] at hfeed'
    obtain ⟨-, hsnapshot⟩ := @absorbRun_eq s source root
      [.log (first.text ++ Text.unbreakLines second.varsLines []),
        .log (Text.unbreakLines second.stackLines [])] (by simp)
    rw [hsnapshot, hchunk]
    simp only [List.filterMap_cons, Event.text?, List.filterMap_nil, Demux.pieces, hfeed, hfeed']
    rfl
  · obtain ⟨tests, hgo⟩ := @Replay.go_segments [([], first), ([], second)] []
      (by simp; decide) (by simp [Text.breakLines]) (by simp [hfirst, hsecond]) (by decide) {}
    have hlog : first.text ++ second.text =
        [(([] : Text), first), ([], second)].flatMap (fun s => s.1 ++ s.2.text) ++ [] := by
      simp
    rw [Replay.ofLog, hlog, hgo]
    rfl

end Session

end Stepwise
