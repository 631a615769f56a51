import Stepwise.Analysis.Find
import Stepwise.Proofs.Grouping
import Stepwise.Proofs.RegistryDump

/-!
# Graphs of dumps

The graph that is built of a dump shows the registries as they are exactly if no variable lives in a
frame that is labelled like the heap, and no type and no frame holds a bar or a newline.  Labels are
the names of functions as they are written, so a function named `heap` and an `operator||` are the
ways in which a program without any fault gets a wrong graph.

One direction is that of `Registry.feedAll_dump`, with less said of the stack: its lines take the
variable block back only if they spell another one (`Registry.stackRecords_eq_none`).  For the other
direction, every record that is ever read off a stream has a type and a frame that fit between bars
(`Demux.plain_of_feedAll`), and no frame of a graph is labelled like the heap; so what is lost in
the dump cannot be in the graph.

Main statement: `Registry.reproduces_iff`.
-/

namespace Stepwise

/-! ## 1. Records that are read off a stream -/

/-- Records with types and frames that fit between bars. -/
def PlainRecords (records : List Record) : Prop := ∀ r ∈ records, r.Plain

theorem Text.newline_not_mem_dropReturn {line : Text} (h : '\n' ∉ line) :
    '\n' ∉ Text.dropReturn line := by
  obtain ⟨w, -, hline⟩ := Text.exists_eq_dropReturn_append line
  intro hm
  rw [hline] at h
  exact h (List.mem_append_left _ hm)

namespace Block

/-- Whether the variable block is open. -/
def isVars : Block → Bool
  | .vars _ => true
  | _ => false

/-- **What a line does to the variable block**: it closes the block and yields its records, or it
yields none and leaves the block closed, opens it, or goes on with it. -/
theorem readLine_vars_cases (block : Block) (line : Text) :
    (∃ records, block = .vars records ∧
      block.readLine false line = (.outside, { records := some records })) ∨
    (block.readLine false line).2.records = none ∧
      ((block.readLine false line).1.isVars = false ∨
        ((block.readLine false line).1 = .vars [] ∧
          ∃ a b, line = a ++ Sentinel.varsStart.text ++ b) ∨
        ∃ records, block = .vars records ∧
          ((block.readLine false line).1 = .vars records ∨
            (block.readLine false line).1 =
              .vars (records ++ [Record.ofLineLossy (Text.dropReturn line)]))) := by
  have hopened : Sentinel.ofText? line.trim = some .varsStart →
      ∃ a b, line = a ++ Sentinel.varsStart.text ++ b := by
    intro hs
    obtain ⟨w, w', -, -, hline⟩ := Sentinel.ofText?_trim_eq_some_iff.1 hs
    exact ⟨w, w', hline⟩
  cases block with
  | outside =>
    right
    rw [readLine, readOutside_eq]
    cases ho : opening? line with
    | none =>
      dsimp only
      split <;> exact ⟨rfl, .inl rfl⟩
    | some opened =>
      obtain ⟨head, next⟩ := opened
      obtain ⟨s, w, hs, -, hline⟩ := opening?_eq_some_iff.1 ho
      refine ⟨rfl, ?_⟩
      cases s with
      | varsStart =>
        obtain rfl := Option.some.inj hs
        exact .inr (.inl ⟨rfl, head, w, hline⟩)
      | stackStart =>
        obtain rfl := Option.some.inj hs
        exact .inl rfl
      | varsEnd => cases hs
      | stackEnd => cases hs
  | vars records =>
    simp only [readLine, readVariable, Text.trim_dropReturn]
    split
    · exact .inl ⟨records, rfl, rfl⟩
    · exact .inr ⟨rfl, .inl rfl⟩
    · next hs => exact .inr ⟨rfl, .inr (.inl ⟨rfl, hopened hs⟩)⟩
    · exact .inr ⟨rfl, .inl rfl⟩
    · split
      · exact .inr ⟨rfl, .inr (.inr ⟨records, rfl, .inl rfl⟩)⟩
      · exact .inr ⟨rfl, .inr (.inr ⟨records, rfl, .inr rfl⟩)⟩
  | stack frames =>
    right
    simp only [readLine, readFrame, Text.trim_dropReturn]
    split
    · exact ⟨rfl, .inl rfl⟩
    · exact ⟨rfl, .inl rfl⟩
    · next hs => exact ⟨rfl, .inr (.inl ⟨rfl, hopened hs⟩)⟩
    · exact ⟨rfl, .inl rfl⟩
    · split <;> exact ⟨rfl, .inl rfl⟩

/-- A block all of whose records are plain. -/
def Plain : Block → Prop
  | .vars records => PlainRecords records
  | _ => True

theorem plain_of_not_isVars {block : Block} (h : block.isVars = false) : block.Plain := by
  cases block with
  | outside => exact trivial
  | vars records => exact absurd h (by simp [isVars])
  | stack frames => exact trivial

/-- **A line keeps the records of a block plain**, and yields plain ones. -/
theorem plain_readLine {block : Block} (hb : block.Plain) {line : Text} (h : '\n' ∉ line) :
    (block.readLine false line).1.Plain ∧
      ∀ records ∈ (block.readLine false line).2.records, PlainRecords records := by
  have hline := Record.ofLineLossy_plain (Text.newline_not_mem_dropReturn h)
  rcases readLine_vars_cases block line with ⟨records, rfl, hread⟩ | ⟨hnone, hnext⟩
  · rw [hread]
    refine ⟨trivial, fun rs hrs => ?_⟩
    obtain rfl := Option.some.inj hrs
    exact hb
  · refine ⟨?_, by simp [hnone]⟩
    rcases hnext with hclosed | ⟨hnew, -⟩ | ⟨records, rfl, hsame | hmore⟩
    · exact plain_of_not_isVars hclosed
    · rw [hnew]
      exact fun r hr => absurd hr List.not_mem_nil
    · rw [hsame]
      exact hb
    · rw [hmore]
      intro r hr
      rcases List.mem_append.1 hr with hr | hr
      · exact hb r hr
      · exact List.mem_singleton.1 hr ▸ hline

/-- Lines yield plain records.  The induction is on the lines, and the records of the open block are
plain before each of them. -/
theorem plain_readLines {lines : List Text} (h : ∀ line ∈ lines, '\n' ∉ line) {block : Block}
    (hb : block.Plain) : ∀ records ∈ (block.readLines lines).2.records, PlainRecords records := by
  induction lines generalizing block with
  | nil => simp
  | cons line lines ih =>
    obtain ⟨hnext, hout⟩ := plain_readLine hb (h line List.mem_cons_self)
    have hrest := ih (fun l hm => h l (List.mem_cons_of_mem _ hm)) hnext
    intro records hr
    rw [readLines_cons, Output.records_append] at hr
    cases hmore : (((block.readLine false line).1.readLines lines).2).records with
    | none => exact hout records (by simpa [hmore] using hr)
    | some rs => exact hrest records (by simpa [hmore] using hr)

end Block

namespace Demux

/-- The records of a stream are those of its finished lines. -/
theorem records_feed (stream : Text) :
    (feed {} stream).2.records =
      (Block.outside.readLines (Text.breakLines stream).1).2.records := by
  obtain ⟨hlines, hrest⟩ := Text.newline_not_mem_breakLines stream
  have hnone : ∀ d : Demux, d.release.2.records = none := by
    intro d
    unfold release
    split
    · rfl
    · split <;> rfl
  conv => lhs; rw [← Text.unbreakLines_breakLines stream]
  rw [feed_unbreakLines hlines, feed_of_newline_not_mem hrest]
  simp [hnone]

theorem records_feedAll (chunks : List Text) :
    (feedAll {} chunks).2.records =
      (Block.outside.readLines (Text.breakLines chunks.flatten).1).2.records :=
  (feedAll_flatten chunks).records.trans (records_feed chunks.flatten)

/-- **Every record that is read off a stream has a type and a frame that fit between bars.** -/
theorem plain_of_feedAll {chunks : List Text} {records : List Record}
    (h : (feedAll {} chunks).2.records = some records) : PlainRecords records := by
  rw [records_feedAll] at h
  have houtside : Block.Plain .outside := trivial
  exact Block.plain_readLines (Text.newline_not_mem_breakLines _).1 houtside records h

end Demux

/-! ## 2. The records of a dump -/

namespace Block

/-- Where the variable block is closed, only the sentinel that opens it makes a difference to the
records. -/
theorem readLine_of_not_isVars {block : Block} (hb : block.isVars = false) {line : Text}
    (h : ¬ Text.mentions Sentinel.varsStart.text line) :
    (block.readLine false line).1.isVars = false ∧
      (block.readLine false line).2.records = none := by
  rcases readLine_vars_cases block line with ⟨records, rfl, -⟩ | ⟨hnone, hnext⟩
  · exact absurd hb (by simp [isVars])
  · refine ⟨?_, hnone⟩
    rcases hnext with hclosed | ⟨-, a, b, hline⟩ | ⟨records, rfl, -⟩
    · exact hclosed
    · exact absurd (Text.mentions_iff.2 ⟨a, b, hline.symm⟩) h
    · exact absurd hb (by simp [isVars])

/-- Lines behind the variable block do not change the records, as long as they do not open it. -/
theorem records_readLines_of_not_isVars {lines : List Text}
    (h : ∀ line ∈ lines, ¬ Text.mentions Sentinel.varsStart.text line) {block : Block}
    (hb : block.isVars = false) : (block.readLines lines).2.records = none := by
  induction lines generalizing block with
  | nil => rfl
  | cons line lines ih =>
    obtain ⟨hnext, hnone⟩ := readLine_of_not_isVars hb (h line List.mem_cons_self)
    rw [readLines_cons, Output.records_append, hnone,
      ih (fun l hm => h l (List.mem_cons_of_mem _ hm)) hnext]
    rfl

end Block

namespace Registry

/-- The text of the stack block behind its opening sentinel. -/
def stackText (r : Registry) : Text :=
  r.stack.flatMap (· ++ ['\n']) ++ (Sentinel.stackEnd.text ++ ['\n'])

/-- The lines of a dump, if its variables and allocations fit on theirs: the labels of the stack may
be of several lines. -/
theorem breakLines_dump {r : Registry} (hf : r.Fits) :
    (Text.breakLines r.dump).1 =
      Sentinel.varsStart.text :: r.recordLines ++
        Sentinel.varsEnd.text :: Sentinel.stackStart.text :: (Text.breakLines r.stackText).1 := by
  have hlines : ∀ line ∈ Sentinel.varsStart.text :: r.recordLines ++
      [Sentinel.varsEnd.text, Sentinel.stackStart.text], '\n' ∉ line := by
    intro line hm
    simp only [List.cons_append, List.mem_cons, List.mem_append, List.not_mem_nil, or_false] at hm
    rcases hm with rfl | hm | rfl | rfl
    · decide
    · exact newline_not_mem_recordLines hf line hm
    · decide
    · decide
  have hdump : r.dump = Text.unbreakLines (Sentinel.varsStart.text :: r.recordLines ++
      [Sentinel.varsEnd.text, Sentinel.stackStart.text]) r.stackText := by
    simp [dump, dumpLines, recordLines, stackText, Text.unbreakLines]
  rw [hdump, Text.breakLines_unbreakLines hlines]
  simp

/-- No line of the stack block mentions what no label of the stack mentions. -/
theorem not_mentions_stackText {r : Registry}
    (h : ∀ label ∈ r.stack, ¬ Text.mentions Sentinel.varsStart.text label) :
    ∀ line ∈ (Text.breakLines r.stackText).1,
      ¬ Text.mentions Sentinel.varsStart.text line := by
  have hend : Text.breakLines (Sentinel.stackEnd.text ++ ['\n']) =
      ([Sentinel.stackEnd.text], []) := by decide
  unfold stackText
  generalize r.stack = stack at h
  induction stack with
  | nil =>
    rw [List.flatMap_nil, List.nil_append, hend]
    decide
  | cons label labels ih =>
    obtain ⟨hlines, hrest⟩ := Text.not_mentions_breakLines (h label List.mem_cons_self)
    have hsplit : (label :: labels).flatMap (· ++ ['\n']) ++ (Sentinel.stackEnd.text ++ ['\n']) =
        label ++ '\n' :: (labels.flatMap (· ++ ['\n']) ++ (Sentinel.stackEnd.text ++ ['\n'])) := by
      simp
    intro line hm
    rw [hsplit, Text.breakLines_append_newline, List.mem_append, List.mem_cons] at hm
    rcases hm with hm | rfl | hm
    · exact hlines line hm
    · exact hrest
    · exact ih (fun l hl => h l (List.mem_cons_of_mem _ hl)) line hm

/-- The records that the stack block is read as, if its labels spell a whole variable block. -/
def stackRecords (r : Registry) : Option (List Record) :=
  (Block.readLines (.stack []) (Text.breakLines r.stackText).1).2.records

/-- **The stack block is not taken for records** unless a label opens the variable block anew. -/
theorem stackRecords_eq_none {r : Registry}
    (h : ∀ label ∈ r.stack, ¬ Text.mentions Sentinel.varsStart.text label) :
    r.stackRecords = none :=
  Block.records_readLines_of_not_isVars (not_mentions_stackText h) rfl

/-- **The lines of a dump are read one by one**, unless the stack block takes them back. -/
theorem records_feedAll_lines {r : Registry} (hf : r.Fits) {chunks : List Text}
    (h : chunks.flatten = r.dump) :
    (Demux.feedAll {} chunks).2.records =
      (r.stackRecords <|> some (r.recordLines.map Record.ofLineLossy)) := by
  have hrecords := Block.readLines_records (fun line hm => (isInnerLine_recordLines r line hm).1) []
  have hkeep : r.recordLines.map (fun line => Record.ofLineLossy (Text.dropReturn line)) =
      r.recordLines.map Record.ofLineLossy := by
    refine List.map_congr_left fun line hm => ?_
    rw [Text.dropReturn_eq_self (isInnerLine_recordLines r line hm).2]
  have hrest : ∀ records, (Block.readLines (.vars records) (Sentinel.varsEnd.text ::
      Sentinel.stackStart.text :: (Text.breakLines r.stackText).1)).2.records =
      (r.stackRecords <|> some records) := by
    intro records
    rw [Block.readLines_cons, Block.readLine_varsEnd, Block.readLines_cons,
      Block.readLine_stackStart, Output.empty_append]
    rfl
  rw [Demux.records_feedAll, h, breakLines_dump hf, List.cons_append, Block.readLines_cons,
    Block.readLine_varsStart, Block.readLines_append, hrecords, List.nil_append, hkeep]
  rw [Output.empty_append, Output.records_append, hrest]
  cases r.stackRecords <;> rfl

/-- **The records of a dump are read back**, unless the stack block takes them back. -/
theorem records_feedAll_dump {r : Registry} (hr : r.Sound) (hl : r.LegibleRecords)
    {chunks : List Text} (h : chunks.flatten = r.dump) :
    (Demux.feedAll {} chunks).2.records = (r.stackRecords <|> some r.dumpRecords) := by
  rw [records_feedAll_lines hl.fits h, ofLineLossy_recordLines hr hl]

end Registry

/-! ## 3. Graphs of registries -/

/-- The graph shows the registries as they are: one frame for each label that a traced variable has,
in each frame the variables of its label from the newest to the oldest, and all registered
allocations. -/
structure ObjectGraph.Reproduces (g : ObjectGraph) (r : Registry) : Prop where
  nodup : (g.frames.map FrameGroup.label).Nodup
  labels : ∀ label, label ∈ g.frames.map FrameGroup.label ↔ ∃ v ∈ r.traced, v.frame = label
  records : ∀ group ∈ g.frames,
    group.records = (r.traced.reverse.filter fun v => v.frame = group.label).map r.variableRecord
  heap : (g.heap.map fun o => (o.address, o.typeName, o.displayValue)) =
    r.heap.map fun (address, a) => (Address.text address, a.typeName, a.value.withoutReturns)

namespace Registry

variable {r : Registry}

/-- The registries can be told from a dump: no variable lives in a frame that is labelled like the
heap, and all types and frames fit between the bars of a line. -/
structure Tellable (r : Registry) : Prop where
  frames : ∀ v ∈ r.traced, v.frame ≠ heapFrame ∧ v.frame.Plain
  types : ∀ v ∈ r.traced, v.typeName.Plain
  heapTypes : ∀ entry ∈ r.heap, entry.2.typeName.Plain

theorem isHeap_variableRecord (r : Registry) (v : Variable) :
    (r.variableRecord v).isHeap = (v.frame == heapFrame) := rfl

theorem isHeap_allocationRecord (address : Nat) (a : Allocation) :
    (allocationRecord address a).isHeap = true := by
  simp [Record.isHeap, allocationRecord, Record.shown]

/-- The variables among the records of a dump, and the allocations. -/
theorem filter_dumpRecords (h : ∀ v ∈ r.traced, v.frame ≠ heapFrame) :
    (r.dumpRecords.filter fun x => !x.isHeap) = r.traced.reverse.map r.variableRecord ∧
      r.dumpRecords.filter Record.isHeap =
        r.heap.map fun (address, a) => allocationRecord address a := by
  have hvariable : ∀ x ∈ r.traced.reverse.map r.variableRecord, x.isHeap = false := by
    intro x hx
    obtain ⟨v, hv, rfl⟩ := List.mem_map.1 hx
    rw [isHeap_variableRecord]
    exact beq_false_of_ne (h v (List.mem_reverse.1 hv))
  have hallocation : ∀ x ∈ r.heap.map fun (address, a) => allocationRecord address a,
      x.isHeap = true := by
    intro x hx
    obtain ⟨⟨address, a⟩, -, rfl⟩ := List.mem_map.1 hx
    exact isHeap_allocationRecord address a
  constructor
  · rw [dumpRecords, List.filter_append, List.filter_eq_self.2, List.filter_eq_nil_iff.2,
      List.append_nil]
    · exact fun x hx => by simp [hallocation x hx]
    · exact fun x hx => by simp [hvariable x hx]
  · rw [dumpRecords, List.filter_append, List.filter_eq_nil_iff.2, List.nil_append,
      List.filter_eq_self.2]
    · exact hallocation
    · exact fun x hx => by simp [hvariable x hx]

/-- The object of an allocation. -/
def heapObject (address : Nat) (a : Allocation) : HeapObject where
  address := Address.text address
  typeName := a.typeName
  displayValue := a.value.withoutReturns
  value := HeapValue.ofText a.value.withoutReturns

/-- An allocation is found again by its address. -/
theorem heapObjectOf?_allocationRecord {address : Nat} (h0 : 0 < address)
    (hb : address < Address.bound) (a : Allocation) :
    ObjectGraph.heapObjectOf? (allocationRecord address a) = some (heapObject address a) := by
  have hown : (allocationRecord address a).ownAddress = Address.text address := rfl
  rw [ObjectGraph.heapObjectOf?, ObjectGraph.heapAddress?, hown, Address.canonical?_text h0 hb]
  rfl

/-- **The heap of the graph of a dump** is that of the registries: no address is told twice. -/
theorem heap_ofRecords (hr : r.Sound) (h : ∀ v ∈ r.traced, v.frame ≠ heapFrame) :
    (ObjectGraph.ofRecords r.dumpRecords).heap =
      r.heap.map fun (address, a) => heapObject address a := by
  have hbounds : ∀ entry ∈ r.heap, 0 < entry.1 ∧ entry.1 < Address.bound := by
    intro entry hentry
    have hmem : entry.1 ∈ r.heapAddresses := List.mem_map_of_mem hentry
    exact ⟨(hr.bounds _ hmem).1, hr.address_lt hmem⟩
  have hobjects : (r.dumpRecords.filter Record.isHeap).filterMap ObjectGraph.heapObjectOf? =
      r.heap.map fun (address, a) => heapObject address a := by
    rw [(filter_dumpRecords h).2, List.filterMap_map, ← List.filterMap_eq_map]
    refine List.filterMap_congr ?_
    rintro ⟨address, a⟩ hentry
    obtain ⟨h0, hb⟩ := hbounds _ hentry
    exact heapObjectOf?_allocationRecord h0 hb a
  have hnodup : ((r.heap.map fun (address, a) => heapObject address a).map
      HeapObject.address).Nodup := by
    have hinj : ∀ x ∈ r.heapAddresses, ∀ y ∈ r.heapAddresses,
        Address.text x = Address.text y → x = y := by
      intro x hx y hy hxy
      have hread := Address.read?_text (hr.bounds x hx).1 (hr.address_lt hx)
      rw [hxy, Address.read?_text (hr.bounds y hy).1 (hr.address_lt hy)] at hread
      exact (Option.some.inj hread).symm
    have haddresses : (r.heap.map fun (address, a) => heapObject address a).map HeapObject.address =
        r.heapAddresses.map Address.text := by
      rw [heapAddresses, List.map_map, List.map_map]
      rfl
    rw [haddresses]
    exact List.Nodup.map_on hinj (hr.addresses.imp fun hlt => Nat.ne_of_lt hlt)
  rw [ObjectGraph.ofRecords, hobjects, firstsBy_eq_self _ hnodup]

/-- A graph of the right records shows the registries as they are. -/
theorem reproduces_ofRecords (hr : r.Sound) (h : ∀ v ∈ r.traced, v.frame ≠ heapFrame) :
    (ObjectGraph.ofRecords r.dumpRecords).Reproduces r where
  nodup := ObjectGraph.nodup_labels _
  labels := by
    intro label
    have hvariables : (∃ x ∈ r.dumpRecords, ¬ x.isHeap ∧ x.frameLabel = label) ↔
        ∃ x ∈ r.dumpRecords.filter fun x => !x.isHeap, x.frameLabel = label := by
      simp [List.mem_filter, and_assoc]
    rw [ObjectGraph.mem_labels_iff, hvariables, (filter_dumpRecords h).1]
    simp [variableRecord, Record.shown]
  records := by
    intro group hgroup
    rw [ObjectGraph.records_of_mem_frames hgroup, (filter_dumpRecords h).1, List.filter_map]
    congr 1
    refine List.filter_congr fun v _ => Bool.eq_iff_iff.2 ?_
    simp [variableRecord, Record.shown]
  heap := by
    rw [heap_ofRecords hr h, List.map_map]
    rfl

/-- **What a graph shows as it is can be told from a dump.**  A frame of the graph is that of a
record, and so it is not labelled like the heap; and the records that the graph is built of are
plain. -/
theorem tellable_of_reproduces {records : List Record} (hplain : PlainRecords records)
    (h : (ObjectGraph.ofRecords records).Reproduces r) : r.Tellable := by
  have hvariable : ∀ v ∈ r.traced,
      r.variableRecord v ∈ records ∧ ¬ (r.variableRecord v).isHeap := by
    intro v hv
    obtain ⟨group, hgroup, hlabel⟩ := List.mem_map.1 ((h.labels v.frame).2 ⟨v, hv, rfl⟩)
    have hmem : r.variableRecord v ∈ group.records := by
      rw [h.records group hgroup]
      refine List.mem_map_of_mem (List.mem_filter.2 ⟨List.mem_reverse.2 hv, ?_⟩)
      exact decide_eq_true hlabel.symm
    rw [ObjectGraph.records_of_mem_frames hgroup] at hmem
    have hfilter := List.mem_filter.1 (List.mem_filter.1 hmem).1
    exact ⟨hfilter.1, by simpa using hfilter.2⟩
  refine ⟨fun v hv => ?_, fun v hv => ?_, fun entry hentry => ?_⟩
  · obtain ⟨hmem, hheap⟩ := hvariable v hv
    have hne : v.frame ≠ heapFrame := by simpa [isHeap_variableRecord] using hheap
    exact ⟨hne, (hplain _ hmem).frameLabel⟩
  · exact (hplain _ (hvariable v hv).1).typeName
  · have hmem : (Address.text entry.1, entry.2.typeName, entry.2.value.withoutReturns) ∈
        (ObjectGraph.ofRecords records).heap.map fun o =>
          (o.address, o.typeName, o.displayValue) := by
      rw [h.heap]
      exact List.mem_map_of_mem hentry
    obtain ⟨o, ho, heq⟩ := List.mem_map.1 hmem
    obtain ⟨x, hx, -, hobject⟩ := ObjectGraph.exists_record_of_mem_heap ho
    obtain ⟨address, -, rfl⟩ := Option.map_eq_some_iff.1 hobject
    have htype : x.typeName = entry.2.typeName := (Prod.mk.inj (Prod.mk.inj heq).2).1
    exact htype ▸ (hplain x hx).typeName

/-- **The graph of a dump shows the registries as they are exactly if they can be told from it**,
and if labels of the stack do not spell another variable block, which then counts instead.  Names of
variables fit on their lines; the chunks in which the dump arrives do not matter. -/
theorem reproduces_iff (hr : r.Reachable) (hnames : ∀ v ∈ r.traced, v.name ≠ [] ∧ v.name.Plain)
    {chunks : List Text} (h : chunks.flatten = r.dump) :
    (∃ g, (Demux.feedAll {} chunks).2.records.map ObjectGraph.ofRecords = some g ∧ g.Reproduces r) ↔
      r.Tellable ∧ ∀ records ∈ r.stackRecords, (ObjectGraph.ofRecords records).Reproduces r := by
  have hread : r.Tellable →
      (Demux.feedAll {} chunks).2.records = (r.stackRecords <|> some r.dumpRecords) := by
    intro ht
    have hl : r.LegibleRecords :=
      ⟨hnames, fun v hv => ⟨ht.types v hv, (ht.frames v hv).2⟩, ht.heapTypes⟩
    exact records_feedAll_dump hr.sound hl h
  constructor
  · rintro ⟨g, hg, hreproduces⟩
    obtain ⟨records, hrecords, rfl⟩ := Option.map_eq_some_iff.1 hg
    have ht := tellable_of_reproduces (Demux.plain_of_feedAll hrecords) hreproduces
    refine ⟨ht, fun rs hrs => ?_⟩
    rw [hread ht, Option.mem_def.1 hrs] at hrecords
    obtain rfl : rs = records := Option.some.inj hrecords
    exact hreproduces
  · rintro ⟨ht, hstack⟩
    rw [hread ht]
    cases hrecords : r.stackRecords with
    | none => exact ⟨_, rfl, reproduces_ofRecords hr.sound fun v hv => (ht.frames v hv).1⟩
    | some records => exact ⟨_, rfl, hstack records hrecords⟩

/-- A function with one variable: the analysis accepts it by either name, and the graph of its dump
is right for `main` and wrong for `heap`. -/
theorem reproduces_iff_heap_or_main :
    let leaf (kind : Syntax.Kind) (role : Syntax.Role) (start stop : Nat)
        (children : List Syntax.Node) : Syntax.Node :=
      .mk { kind, role, isNamed := true, hasError := false, span := ⟨start, stop⟩, row := 0 }
        children
    let definition : Syntax.Node :=
      leaf .functionDefinition .none 0 13
        [leaf .functionDeclarator .declarator 4 10 [leaf .identifier .declarator 4 8 []],
         leaf .compoundStatement .body 11 13 []]
    let r (name : Text) : Registry :=
      { traced := [{ id := 0, name := "x", typeName := "i32", frame := name, address := 0xf000
                     content := .value "5" }]
        stack := [name], nextVariable := 1, nextSlot := 0xeff8 }
    ∀ name ∈ ["heap".toList, "main".toList],
      (Analysis.Function.ofNode? ("int " ++ name ++ "() \x7b\x7d") definition).map (·.name) =
        some name ∧
      (Debuggee.actAll? {} [.enter "f" name, .trace "x" "x" "i32" "5"]).map (·.1.registry) =
        some (r name) ∧
      (∀ v ∈ (r name).traced, v.name ≠ [] ∧ v.name.Plain) ∧
      ((∃ g, (Demux.feedAll {} [(r name).dump]).2.records.map ObjectGraph.ofRecords = some g ∧
          g.Reproduces (r name)) ↔ name = "main".toList) := by
  intro leaf definition r name hname
  have haccepted : ∀ name ∈ ["heap".toList, "main".toList],
      (Analysis.Function.ofNode? ("int " ++ name ++ "() \x7b\x7d") definition).map (·.name) =
        some name := by
    decide +kernel
  have hrun : ∀ name ∈ ["heap".toList, "main".toList],
      (Debuggee.actAll? {} [.enter "f" name, .trace "x" "x" "i32" "5"]).map (·.1.registry) =
        some (r name) := by
    decide +kernel
  have hquiet : ∀ name ∈ ["heap".toList, "main".toList],
      ¬ Text.mentions Sentinel.varsStart.text name := by
    decide +kernel
  have hrange : Action.AllInRange [.enter "f" name, .trace "x" "x" "i32" "5"] :=
    ⟨trivial, trivial, trivial⟩
  have hreach : (r name).Reachable := by
    obtain ⟨⟨p, replies⟩, h, hp⟩ := Option.map_eq_some_iff.1 (hrun name hname)
    exact hp ▸ Debuggee.reachable_of_actAll? 50 hrange h
  have hnames : ∀ v ∈ (r name).traced, v.name ≠ [] ∧ v.name.Plain := by
    intro v hv
    obtain rfl := List.mem_singleton.1 hv
    exact ⟨List.cons_ne_nil _ _, (by decide : Text.Plain "x".toList)⟩
  have hstack : ∀ label ∈ (r name).stack, ¬ Text.mentions Sentinel.varsStart.text label := by
    intro label hlabel
    obtain rfl := List.mem_singleton.1 hlabel
    exact hquiet label hname
  refine ⟨haccepted name hname, hrun name hname, hnames, ?_⟩
  rw [reproduces_iff hreach hnames (List.append_nil _), stackRecords_eq_none hstack]
  constructor
  · rintro ⟨ht, -⟩
    have hne : name ≠ heapFrame := (ht.frames _ List.mem_cons_self).1
    exact (List.mem_cons.1 hname).elim (fun h => absurd h hne) List.mem_singleton.1
  · rintro rfl
    exact ⟨⟨by decide, by decide, by decide⟩, by simp⟩

end Registry

end Stepwise
