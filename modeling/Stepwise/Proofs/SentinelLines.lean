import Stepwise.Proofs.Chunks

/-!
# What a sentinel line leaves on the console

A finished line that is a sentinel between blanks is taken out of the output, in whatever block it
arrives.  Two things of it may be seen all the same.  Blanks in front of the sentinel that were let
through before the sentinel came are gone to the console.  And a closing sentinel outside of blocks
is dropped only if nothing of its line was let through: behind blanks that were, it is output with
the rest of the line.

To tell what one line contributes, the chunks of a stream are cut at the ends of the line, which
changes nothing in how they are read.

Main definitions and statements:

* `Text.cutAt`, `Demux.feedAll_cutAt`: chunks may be cut where a line ends;
* `Demux.feedAll_line`: a line that arrives in pieces is what was read of it, let through as far as
  it can be, and its end;
* `Demux.said_of_sentinelLine`: what a sentinel line contributes to the output.
-/

namespace Stepwise

namespace Text

/-! ## 1. Cutting chunks -/

/-- The chunks cut at a length: those that hold the text up to there, and those of the rest. -/
def cutAt : Nat → List Text → List Text × List Text
  | 0, chunks => ([], chunks)
  | _ + 1, [] => ([], [])
  | n + 1, chunk :: chunks =>
    if chunk.length ≤ n + 1 then
      (chunk :: (cutAt (n + 1 - chunk.length) chunks).1, (cutAt (n + 1 - chunk.length) chunks).2)
    else ([chunk.take (n + 1)], chunk.drop (n + 1) :: chunks)

/-- A text of finished lines only. -/
def Finished (t : Text) : Prop :=
  ∀ c ∈ t.getLast?, c = '\n'

instance (t : Text) : Decidable (Finished t) :=
  decidable_of_iff (t.getLast?.all (· == '\n') = true) <| by
    cases h : t.getLast? <;> simp [Finished, h]

theorem Finished.of_append {s t : Text} (h : Finished (s ++ t)) : Finished t := by
  intro c hc
  refine h c ?_
  rw [Option.mem_def] at hc ⊢
  rw [List.getLast?_append, hc, Option.some_or]

theorem Finished.breakLines_snd {t : Text} (h : Finished t) : (breakLines t).2 = [] := by
  have hrest := (newline_not_mem_breakLines t).2
  rw [← unbreakLines_breakLines t, unbreakLines] at h
  rcases List.eq_nil_or_concat (breakLines t).2 with hnil | ⟨init, c, hlast⟩
  · exact hnil
  · rw [hlast] at h hrest
    have hc : c = '\n' := h.of_append c (by simp)
    exact absurd (by simp [hc]) hrest

/-- Cutting chunks cuts their text. -/
theorem flatten_cutAt (n : Nat) (chunks : List Text) :
    (cutAt n chunks).1.flatten = chunks.flatten.take n ∧
      (cutAt n chunks).2.flatten = chunks.flatten.drop n := by
  induction chunks generalizing n with
  | nil => cases n <;> simp [cutAt]
  | cons chunk chunks ih =>
    cases n with
    | zero => simp [cutAt]
    | succ n =>
      rw [cutAt]
      split
      · next hle =>
        obtain ⟨htake, hdrop⟩ := ih (n + 1 - chunk.length)
        simp only [List.flatten_cons, htake, hdrop, List.take_append, List.drop_append,
          List.take_of_length_le hle, List.drop_of_length_le hle, List.nil_append, and_self]
      · next hlt =>
        have hshort : n + 1 - chunk.length = 0 := by omega
        simp [List.take_append, List.drop_append, hshort]

theorem flatten_cutAt_append {chunks : List Text} {s t : Text} (h : chunks.flatten = s ++ t) :
    (cutAt s.length chunks).1.flatten = s ∧ (cutAt s.length chunks).2.flatten = t := by
  simpa [h] using flatten_cutAt s.length chunks

/-- How many of the chunks hold text. -/
def filled (chunks : List Text) : Nat :=
  chunks.countP fun chunk => !chunk.isEmpty

theorem filled_eq_zero_iff {chunks : List Text} : filled chunks = 0 ↔ chunks.flatten = [] := by
  simp [filled, List.countP_eq_zero, List.flatten_eq_nil_iff]

end Text

namespace Demux

/-- Chunks behind others are read from the state that those leave. -/
theorem feedAll_append (d : Demux) (chunks more : List Text) :
    d.feedAll (chunks ++ more) =
      (((d.feedAll chunks).1.feedAll more).1,
        (d.feedAll chunks).2 ++ ((d.feedAll chunks).1.feedAll more).2) := by
  induction chunks generalizing d with
  | nil => simp [feedAll]
  | cons chunk chunks ih => simp only [List.cons_append, feedAll_cons, ih, Output.append_assoc]

/-- **Where a line ends, a chunk may be cut.** -/
theorem feed_append {t : Text} (ht : t ≠ []) (hfin : Text.Finished t) (d : Demux) (chunk : Text) :
    d.feed (t ++ chunk) =
      (((d.feed t).1.feed chunk).1, (d.feed t).2 ++ ((d.feed t).1.feed chunk).2) := by
  have hlines := (Text.newline_not_mem_breakLines t).1
  have hbroken := Text.unbreakLines_breakLines t
  rw [hfin.breakLines_snd] at hbroken
  generalize (Text.breakLines t).1 = lines at hlines hbroken
  subst hbroken
  cases lines with
  | nil => exact absurd rfl ht
  | cons line lines =>
    have hline : '\n' ∉ line := hlines line List.mem_cons_self
    have hmore : ∀ l ∈ lines, '\n' ∉ l := fun l hl => hlines l (List.mem_cons_of_mem _ hl)
    have hsplit : ∀ u, Text.unbreakLines (line :: lines) [] ++ u =
        line ++ '\n' :: Text.unbreakLines lines u := fun u => by simp [Text.unbreakLines]
    have hwhole := hsplit []
    rw [List.append_nil] at hwhole
    have hfinish : (d.finishLine line).1 =
        { block := (d.block.readLine d.released (d.pending ++ line)).1 } := rfl
    rw [hsplit, hwhole, feed_line_append hline, feed_line_append hline, hfinish,
      feed_unbreakLines hmore, feed_unbreakLines_nil hmore, Output.append_assoc]

/-- **Cutting chunks where a line ends changes nothing in how they are read.** -/
theorem feedAll_cutAt (d : Demux) {n : Nat} {chunks : List Text}
    (h : Text.Finished (chunks.flatten.take n)) :
    d.feedAll ((Text.cutAt n chunks).1 ++ (Text.cutAt n chunks).2) = d.feedAll chunks := by
  induction chunks generalizing d n with
  | nil => cases n <;> rfl
  | cons chunk chunks ih =>
    cases n with
    | zero => rfl
    | succ n =>
      rw [List.flatten_cons, List.take_append] at h
      rw [Text.cutAt]
      split
      · rw [List.cons_append, feedAll_cons, feedAll_cons, ih _ h.of_append]
      · next hlt =>
        have hshort : n + 1 - chunk.length = 0 := by omega
        rw [hshort, List.take_zero, List.append_nil] at h
        have hne : chunk.take (n + 1) ≠ [] := by
          rw [Ne, List.take_eq_nil_iff]
          rintro (h0 | rfl)
          · cases h0
          · simp at hlt
        have hfeed := feed_append hne h d (chunk.drop (n + 1))
        rw [List.take_append_drop] at hfeed
        rw [List.singleton_append, feedAll_cons, feedAll_cons, feedAll_cons, hfeed,
          Output.append_assoc]

/-! ## 2. A line in pieces -/

/-- Chunks that do not finish the line are let through as if they were one.  The induction is on the
chunks from behind, with `release_release` for the last one. -/
theorem feedAll_of_newline_not_mem (block : Block) {pieces : List Text}
    (h : '\n' ∉ pieces.flatten) :
    feedAll { block } pieces = release { pending := pieces.flatten, block } := by
  induction pieces using List.reverseRecOn with
  | nil => cases block <;> rfl
  | append_singleton pieces piece ih =>
    rw [List.flatten_append, List.flatten_singleton, List.mem_append, not_or] at h
    rw [feedAll_append, ih h.1, feedAll_cons, feedAll, Output.append_empty,
      feed_of_newline_not_mem h.2, release_release, List.flatten_append, List.flatten_singleton]

theorem feedAll_of_flatten_eq_nil (block : Block) {chunks : List Text} (h : chunks.flatten = []) :
    feedAll { block } chunks = ({ block }, {}) := by
  rw [feedAll_of_newline_not_mem block (by simp [h]), h]
  cases block <;> rfl

/-- The chunk that finishes a line, with those before it. -/
theorem exists_last_piece {own : List Text} {line : Text} (hown : own.flatten = line ++ ['\n']) :
    ∃ pieces last empties, own = pieces ++ (last ++ ['\n']) :: empties ∧
      line = pieces.flatten ++ last ∧ empties.flatten = [] := by
  induction own generalizing line with
  | nil => simp at hown
  | cons chunk own ih =>
    rcases List.eq_nil_or_concat own.flatten with hnil | ⟨init, c, hconcat⟩
    · rw [List.flatten_cons, hnil, List.append_nil] at hown
      exact ⟨[], line, own, by rw [hown]; rfl, rfl, hnil⟩
    · rw [List.flatten_cons, hconcat, List.concat_eq_append, ← List.append_assoc] at hown
      obtain ⟨rfl, hc⟩ := List.append_inj' hown rfl
      rw [List.concat_eq_append, hc] at hconcat
      obtain ⟨pieces, last, empties, rfl, rfl, hempties⟩ := ih hconcat
      exact ⟨chunk :: pieces, last, empties, rfl, by simp, hempties⟩

/-- **A line that arrives in pieces.**  What arrives of it in earlier chunks is let through as far as
it can be, and then the line is finished. -/
theorem feedAll_line (block : Block) {own : List Text} {line : Text} (hline : '\n' ∉ line)
    (hown : own.flatten = line ++ ['\n']) :
    ∃ begun rest, line = begun ++ rest ∧ (begun ≠ [] ↔ 1 < Text.filled own) ∧
      feedAll { block } own =
        (((release { pending := begun, block }).1.finishLine rest).1,
          (release { pending := begun, block }).2 ++
            ((release { pending := begun, block }).1.finishLine rest).2) := by
  obtain ⟨early, last, empties, rfl, rfl, hempties⟩ := exists_last_piece hown
  rw [List.mem_append, not_or] at hline
  refine ⟨early.flatten, last, rfl, ?_, ?_⟩
  · have hnone : Text.filled empties = 0 := Text.filled_eq_zero_iff.2 hempties
    have hcount : Text.filled (early ++ (last ++ ['\n']) :: empties) = Text.filled early + 1 := by
      simp only [Text.filled, List.countP_append, List.countP_cons] at hnone ⊢
      simp [hnone]
    rw [hcount, Ne, ← Text.filled_eq_zero_iff]
    omega
  · have hfeed := feed_line_append hline.2 (release { pending := early.flatten, block }).1 []
    rw [feedAll_append, feedAll_of_newline_not_mem block hline.1, feedAll_cons, hfeed, finishLine,
      feed_nil, feedAll_of_flatten_eq_nil _ hempties, Output.append_empty, Output.append_empty]

end Demux

/-! ## 3. Sentinel lines -/

/-- Blanks in front of a sentinel are let through at once, and of a line that begins with its
sentinel nothing is. -/
theorem splitHeld_ne_nil_iff {begun rest : Text} {s : Sentinel}
    (hs : Sentinel.ofText? (Text.trim (begun ++ rest)) = some s) :
    (splitHeld begun).1 ≠ [] ↔ begun ≠ [] ∧ (begun ++ rest).head?.any Text.isBlank := by
  obtain ⟨w, w', hw, hw', hline⟩ := Sentinel.ofText?_trim_eq_some_iff.1 hs
  cases begun with
  | nil => simp [splitHeld]
  | cons c begun =>
    cases w with
    | nil =>
      -- the sentinel stands at the very beginning, where nothing may be let through
      have hmark : s.text ∈ markers := by cases s <;> decide
      have hclear := clear_splitHeld (c :: begun) rest s.text hmark [] w' <| by
        rw [← List.append_assoc, splitHeld_append_eq, hline]
      have hnone : (splitHeld (c :: begun)).1 = [] := List.prefix_nil.1 hclear
      have hhead : (c :: begun ++ rest).head? = some '[' := by
        rw [hline, List.nil_append, List.head?_append, s.head?_text, Option.some_or]
      have hc : Text.isBlank c = false := by
        obtain rfl := Option.some.inj hhead
        decide
      simp [hnone, hc]
    | cons b w =>
      obtain ⟨rfl, -⟩ := List.cons.inj hline
      have hc : Text.isBlank c = true := List.all_eq_true.1 hw c List.mem_cons_self
      have hbracket : c ≠ '[' := by
        rintro rfl
        exact absurd hc (by decide)
      simp [splitHeld, hbracket, hc]

namespace Block

/-- Inside of a block a sentinel line says nothing. -/
theorem text_readLine_of_isOpen {block : Block} (hopen : block.isOpen) (released : Bool)
    {line : Text} {s : Sentinel} (hs : Sentinel.ofText? line.trim = some s) :
    (block.readLine released line).2.text = [] := by
  cases block with
  | outside => cases hopen
  | vars records => cases s <;> simp [readLine, readVariable, hs]
  | stack frames => cases s <;> simp [readLine, readFrame, hs]

/-- A closing sentinel opens no block. -/
theorem opening?_of_closes {s : Sentinel} (hs : s.opens? = none) (w : Text) {w' : Text}
    (hw' : Text.blank w') : opening? (w ++ s.text ++ w') = none := by
  rw [Option.eq_none_iff_forall_not_mem]
  rintro ⟨head, block⟩ hm
  obtain ⟨o, v, ho, hv, heq⟩ := opening?_eq_some_iff.1 hm
  have hend : w ++ s.text = head ++ o.text := by
    rw [← s.trimEnd_pad w hw', heq, o.trimEnd_pad head hv]
  -- the two sentinels would end in one another
  have hends : ¬ s.text <:+ o.text ∧ ¬ o.text <:+ s.text := by
    cases s <;> cases o <;> first | cases hs; done | cases ho; done | decide
  exact (List.suffix_or_suffix_of_suffix ⟨w, hend⟩ ⟨head, rfl⟩).elim hends.1 hends.2

variable {free tail : Text} {s : Sentinel}

/-- With an opening sentinel nothing is said but the blanks in front of it, in one part or in two. -/
theorem blank_readOutside_of_opens {block : Block} (hopens : s.opens? = some block)
    (h : Clear free tail) (hs : Sentinel.ofText? (Text.trim (free ++ tail)) = some s)
    (released : Bool) : Text.blank (free ++ (readOutside released tail).2.text) := by
  obtain ⟨w, w', hw, hw', hline⟩ := Sentinel.ofText?_trim_eq_some_iff.1 hs
  have hwhole : opening? (free ++ tail) = some (w, block) :=
    opening?_eq_some_iff.2 ⟨s, w', hopens, hw', hline⟩
  rw [opening?_of_clear h] at hwhole
  obtain ⟨⟨head, next⟩, hpart, hfound⟩ := Option.map_eq_some_iff.1 hwhole
  obtain ⟨hhead, -⟩ := Prod.mk.inj hfound
  rw [← hhead, Text.blank_append, Bool.and_eq_true] at hw
  rw [readOutside_eq, hpart, Text.blank_append, hw.1, Bool.true_and]
  dsimp only
  split
  · exact hw.2
  · rfl

/-- A closing sentinel is dropped if nothing of its line was let through, else it is output. -/
theorem text_readOutside_of_closes (hcloses : s.opens? = none) (h : Clear free tail)
    (hs : Sentinel.ofText? (Text.trim (free ++ tail)) = some s) :
    (readOutside (!free.isEmpty) tail).2.text = if free = [] then [] else tail ++ ['\n'] := by
  obtain ⟨w, w', -, hw', hline⟩ := Sentinel.ofText?_trim_eq_some_iff.1 hs
  have hwhole : opening? (free ++ tail) = none := by
    rw [hline, opening?_of_closes hcloses w hw']
  rw [opening?_of_clear h, Option.map_eq_none_iff] at hwhole
  rw [readOutside_eq, hwhole]
  by_cases hnone : free = []
  · subst hnone
    have hstray : isStray tail = true := by
      cases s <;> simp_all [isStray, Sentinel.opens?]
    rw [hstray]
    rfl
  · simp [hnone]

end Block

namespace Demux

/-- **What a sentinel line says that arrives in two parts**: the first of them is let through as far
as it can be, and then the line is finished. -/
theorem text_finishLine_of_sentinel (block : Block) {begun rest : Text} {s : Sentinel}
    (hs : Sentinel.ofText? (Text.trim (begun ++ rest)) = some s) :
    let d := (release { pending := begun, block }).1
    let said := (release { pending := begun, block }).2.text ++ (d.finishLine rest).2.text
    let escapes := block = .outside ∧ s.opens? = none ∧ begun ≠ [] ∧
      (begun ++ rest).head?.any Text.isBlank
    (escapes → said = begun ++ rest ++ ['\n']) ∧ (¬ escapes → Text.blank said) := by
  intro d said escapes
  by_cases hopen : block.isOpen = true
  · have hne : block ≠ .outside := by
      rintro rfl
      cases hopen
    have hsaid : said = [] := by
      simp only [said, d]
      rw [release_of_isOpen hopen]
      exact Block.text_readLine_of_isOpen hopen _ hs
    exact ⟨fun h => absurd h.1 hne, fun _ => by rw [hsaid]; rfl⟩
  obtain rfl := eq_outside_of_not_isOpen hopen
  have hfree := splitHeld_ne_nil_iff hs
  have hclear := clear_splitHeld begun rest
  have hsplit := splitHeld_append_eq begun
  have hsaid : said = (splitHeld begun).1 ++ (Block.readOutside (!(splitHeld begun).1.isEmpty)
      ((splitHeld begun).2 ++ rest)).2.text := by
    simp only [said, d]
    rw [release_outside, Bool.false_or]
    rfl
  generalize splitHeld begun = p at hfree hclear hsplit hsaid
  obtain ⟨free, held⟩ := p
  subst hsplit
  dsimp only at hfree hclear hsaid
  have hpart : Sentinel.ofText? (Text.trim (free ++ (held ++ rest))) = some s := by
    rwa [← List.append_assoc]
  cases hopens : s.opens? with
  | some block =>
    refine ⟨fun h => absurd h.2.1 (by simp [hopens]), fun _ => ?_⟩
    rw [hsaid]
    exact Block.blank_readOutside_of_opens hopens hclear hpart _
  | none =>
    rw [Block.text_readOutside_of_closes hopens hclear hpart] at hsaid
    by_cases hnone : free = []
    · refine ⟨fun h => absurd hnone (hfree.2 h.2.2), fun _ => ?_⟩
      rw [hsaid, if_pos hnone, hnone]
      rfl
    · refine ⟨fun _ => ?_, fun h => absurd ⟨rfl, hopens, hfree.1 hnone⟩ h⟩
      rw [hsaid, if_neg hnone]
      simp only [List.append_assoc]

theorem feed_of_finished {t : Text} (h : Text.Finished t) :
    (feed {} t).1 = { block := (feed {} t).1.block } := by
  have hbroken := Text.unbreakLines_breakLines t
  rw [h.breakLines_snd] at hbroken
  rw [← hbroken, feed_unbreakLines_nil (Text.newline_not_mem_breakLines t).1]

/-- **What a sentinel line contributes to the output**, wherever it stands in a stream and however
that was cut into chunks.  The chunks are read as if they had been cut at both ends of the line, and
in between nothing but blanks is said, with one exception: a closing sentinel outside of blocks is
output, and all of its line with it, if the line begins with a blank and arrives in pieces. -/
theorem said_of_sentinelLine {chunks : List Text} {before line after : Text} {s : Sentinel}
    (hstream : chunks.flatten = before ++ (line ++ '\n' :: after))
    (hbefore : Text.Finished before) (hline : '\n' ∉ line)
    (hs : Sentinel.ofText? line.trim = some s) :
    let front := (Text.cutAt before.length chunks).1
    let behind := (Text.cutAt before.length chunks).2
    let own := (Text.cutAt (line.length + 1) behind).1
    let back := (Text.cutAt (line.length + 1) behind).2
    let d := (feedAll {} front).1
    let said := (d.feedAll own).2.text
    let escapes := (feed {} before).1.block = .outside ∧ s.opens? = none ∧ 1 < Text.filled own ∧
      line.head?.any Text.isBlank
    front.flatten = before ∧ own.flatten = line ++ ['\n'] ∧ back.flatten = after ∧
      feedAll {} chunks =
        (((d.feedAll own).1.feedAll back).1,
          (feedAll {} front).2 ++ ((d.feedAll own).2 ++ ((d.feedAll own).1.feedAll back).2)) ∧
      (escapes → said = line ++ ['\n']) ∧ (¬ escapes → Text.blank said) := by
  intro front behind own back d said escapes
  obtain ⟨hfront, hbehind⟩ := Text.flatten_cutAt_append hstream
  have hsplit : behind.flatten = line ++ ['\n'] ++ after := by simpa using hbehind
  obtain ⟨hown, hback⟩ := Text.flatten_cutAt_append hsplit
  rw [List.length_append, List.length_singleton] at hown hback
  have hd : d = { block := (feed {} before).1.block } := by
    have hstate := (feedAll_flatten front).state
    rw [hfront] at hstate
    exact hstate.trans (feed_of_finished hbefore)
  have hread : feedAll {} chunks = feedAll {} (front ++ (own ++ back)) := by
    have hcut : Text.Finished (chunks.flatten.take before.length) := by
      rwa [hstream, List.take_left]
    have hcut' : Text.Finished (behind.flatten.take (line.length + 1)) := by
      have hlength : line.length + 1 = (line ++ ['\n']).length := by simp
      rw [hsplit, hlength, List.take_left]
      simp [Text.Finished]
    rw [← feedAll_cutAt {} hcut, feedAll_append, feedAll_append, feedAll_cutAt _ hcut']
  obtain ⟨begun, rest, rfl, hpieces, hfeed⟩ := feedAll_line (feed {} before).1.block hline hown
  have hsaid := text_finishLine_of_sentinel (feed {} before).1.block hs
  have hescapes : escapes ↔ (feed {} before).1.block = .outside ∧ s.opens? = none ∧ begun ≠ [] ∧
      (begun ++ rest).head?.any Text.isBlank := by rw [hpieces]
  have htext := congrArg (fun reading => reading.2.text) hfeed
  rw [← hd] at htext
  refine ⟨hfront, hown, hback, ?_, ?_⟩
  · rw [hread, feedAll_append, feedAll_append]
  · rw [hescapes, show said = _ from htext]
    exact hsaid

/-- A closing sentinel that was cut off the blank in front of it is seen on the console. -/
theorem said_of_sentinelLine_behind_blank :
    let chunks : List Text := ["a\n ", "[DEBUG:VARS:END]\nb"]
    let line : Text := " [DEBUG:VARS:END]"
    chunks.flatten = "a\n".toList ++ (line ++ '\n' :: "b".toList) ∧
      Text.Finished "a\n".toList ∧ '\n' ∉ line ∧ Sentinel.ofText? line.trim = some .varsEnd ∧
      ((feed {} "a\n").1.feedAll [" ", "[DEBUG:VARS:END]\n"]).2.text = line ++ ['\n'] := by
  intro chunks line
  have hstream : chunks.flatten = "a\n".toList ++ (line ++ '\n' :: "b".toList) := by decide
  have hbefore : Text.Finished "a\n".toList := by decide
  have hline : '\n' ∉ line := by decide
  have hs : Sentinel.ofText? line.trim = some .varsEnd := by decide
  obtain ⟨-, -, -, -, hsaid, -⟩ := said_of_sentinelLine hstream hbefore hline hs
  exact ⟨hstream, hbefore, hline, hs, hsaid ⟨by decide, rfl, by decide, by decide⟩⟩

end Demux

end Stepwise
