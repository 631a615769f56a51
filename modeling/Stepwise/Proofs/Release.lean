import Stepwise.Proofs.Dumps
import Stepwise.Proofs.Chunks

/-!
# What is let through

A stream in which no sentinel begins is let through as it arrives.  At any time all of it is output
that has been read, but for the end of the unfinished line from the first bracket on at which a
marker may have begun; and the end of the stream gives up what is held back.  So nothing is kept
back for longer than it has to be, and nothing is lost or said twice.

Main definitions and statements:

* `LooksLikeMarker`, `Parted`: what has to be held back of a stream;
* `parted_splitHeld`, `Parted.unique`: it is told in one way;
* `feedAll_releases`: what is output between two chunks, and at the end.
-/

namespace Stepwise

/-! ## 1. What has to be held back -/

/-- The text begins with a bracket, and it is the beginning of a marker or begins with one. -/
def LooksLikeMarker (t : Text) : Prop :=
  t.head? = some '[' ∧ ∃ mark ∈ markers, t <+: mark ∨ mark <+: t

theorem looksLikeMarker_cons_iff {c : Char} {t : Text} :
    LooksLikeMarker (c :: t) ↔ (c = '[' && mayBeMarker (c :: t)) = true := by
  rw [Bool.and_eq_true, decide_eq_true_eq, mayBeMarker_iff, LooksLikeMarker, List.head?_cons,
    Option.some.injEq]

/-- The stream is made of finished lines and an unfinished one, and the end `held` of that is all
that looks like a marker from its first bracket on at which anything does. -/
structure Parted (stream : Text) (lines : List Text) (free held : Text) : Prop where
  stream_eq : stream = Text.unbreakLines lines (free ++ held)
  finished : ∀ line ∈ lines, '\n' ∉ line
  unfinished : '\n' ∉ free ++ held
  looks : held = [] ∨ LooksLikeMarker held
  clear : ∀ a b, free ++ held = a ++ b → LooksLikeMarker b → free.length ≤ a.length

theorem looksLikeMarker_splitHeld (t : Text) :
    (splitHeld t).2 = [] ∨ LooksLikeMarker (splitHeld t).2 := by
  induction t with
  | nil => exact .inl rfl
  | cons c t ih =>
    rw [splitHeld]
    split
    · next hc => exact .inr (looksLikeMarker_cons_iff.2 hc)
    · exact ih

/-- Nothing that looks like a marker begins in what is let through of a line. -/
theorem length_splitHeld_le {t a b : Text} (ht : t = a ++ b) (hb : LooksLikeMarker b) :
    (splitHeld t).1.length ≤ a.length := by
  induction t generalizing a with
  | nil => exact Nat.zero_le _
  | cons c t ih =>
    rw [splitHeld]
    split
    · exact Nat.zero_le _
    · next hc =>
      cases a with
      | nil => exact absurd (looksLikeMarker_cons_iff.1 (ht ▸ hb)) hc
      | cons d a => exact Nat.succ_le_succ (ih (List.cons.inj ht).2)

/-- **Lines and an unfinished line are parted where the unfinished one is.** -/
theorem parted_splitHeld {lines : List Text} {rest : Text} (hlines : ∀ line ∈ lines, '\n' ∉ line)
    (hrest : '\n' ∉ rest) :
    Parted (Text.unbreakLines lines rest) lines (splitHeld rest).1 (splitHeld rest).2 where
  stream_eq := by rw [splitHeld_append_eq]
  finished := hlines
  unfinished := by rwa [splitHeld_append_eq]
  looks := looksLikeMarker_splitHeld rest
  clear := fun a b hab hb => length_splitHeld_le (splitHeld_append_eq rest ▸ hab) hb

/-- What is held back leaves the line as long as it can be. -/
theorem Parted.length_le {stream stream' : Text} {lines lines' : List Text}
    {free held free' held' : Text} (h : Parted stream lines free held)
    (h' : Parted stream' lines' free' held') (hline : free ++ held = free' ++ held') :
    free.length ≤ free'.length := by
  rcases h'.looks with rfl | hheld
  · rw [List.append_nil] at hline
    rw [← hline, List.length_append]
    exact Nat.le_add_right _ _
  · exact h.clear _ _ hline hheld

/-- **A stream is parted in one way.** -/
theorem Parted.unique {stream : Text} {lines lines' : List Text} {free held free' held' : Text}
    (h : Parted stream lines free held) (h' : Parted stream lines' free' held') :
    lines = lines' ∧ free = free' ∧ held = held' := by
  have hlines := Text.breakLines_unbreakLines h.finished (free ++ held)
  have hlines' := Text.breakLines_unbreakLines h'.finished (free' ++ held')
  rw [Text.breakLines_of_newline_not_mem h.unfinished, ← h.stream_eq] at hlines
  rw [Text.breakLines_of_newline_not_mem h'.unfinished, ← h'.stream_eq, hlines] at hlines'
  obtain ⟨hsame, hline⟩ := Prod.mk.inj hlines'
  have hlength : free.length = free'.length :=
    Nat.le_antisymm (h.length_le h' hline) (h'.length_le h hline.symm)
  obtain ⟨hfree, hheld⟩ := List.append_inj hline hlength
  exact ⟨by simpa using hsame, hfree, hheld⟩

/-! ## 2. Streams in which no sentinel begins -/

theorem Block.linesOutside_sublist (block : Block) (lines : List Text) :
    (block.linesOutside lines).Sublist lines := by
  induction lines generalizing block with
  | nil => exact List.Sublist.refl _
  | cons line lines ih =>
    rw [linesOutside]
    split
    · exact (ih _).cons line
    · exact (ih _).cons_cons line

theorem noIndentedSentinel_of_quiet {stream : Text} (h : ¬ Text.mentions Sentinel.stem stream) :
    NoIndentedSentinel stream := by
  rintro line hline ⟨w, s, w', -, -, -, rfl⟩
  have hmem := (Block.outside.linesOutside_sublist _).subset hline
  exact (Text.not_mentions_breakLines h).1 _ hmem (s.mentions_stem w w')

namespace Demux

/-- What is read of a stream in which no sentinel begins, as a single chunk. -/
theorem feed_of_quiet {lines : List Text} {rest : Text} (hlines : ∀ line ∈ lines, '\n' ∉ line)
    (hrest : '\n' ∉ rest) (h : ¬ Text.mentions Sentinel.stem (Text.unbreakLines lines rest)) :
    (feed {} (Text.unbreakLines lines rest)).1 =
        { pending := (splitHeld rest).2, released := !(splitHeld rest).1.isEmpty } ∧
      (feed {} (Text.unbreakLines lines rest)).2.text =
        Text.unbreakLines lines (splitHeld rest).1 := by
  have hquiet := (Text.not_mentions_breakLines h).1
  rw [Text.breakLines_unbreakLines hlines, Text.breakLines_of_newline_not_mem hrest,
    List.append_nil] at hquiet
  rw [feed_unbreakLines hlines, Block.readLines_quiet hquiet, feed_of_newline_not_mem hrest,
    List.nil_append, release_outside]
  exact ⟨rfl, by simp [Text.unbreakLines]⟩

end Demux

/-- **Output is let through promptly and completely.**  Between any two chunks of a stream in which
no sentinel begins, all of what has been read is output but for what has to be held back; the end of
the stream gives just that; and together they are the text. -/
theorem feedAll_releases {chunks fed rest : List Text}
    (h : ¬ Text.mentions Sentinel.stem chunks.flatten) (hfed : chunks = fed ++ rest) :
    ∃ lines free held, Parted fed.flatten lines free held ∧
      (Demux.feedAll {} fed).2.text = Text.unbreakLines lines free ∧
      (Demux.feedAll {} fed).1.flush.2.text = held ∧
      (Demux.finish (Demux.feedAll {} fed)).2.text = fed.flatten := by
  have hquiet : ¬ Text.mentions Sentinel.stem fed.flatten := by
    rw [Text.mentions_iff] at h ⊢
    rw [hfed, List.flatten_append] at h
    exact fun hm => h (hm.trans (List.prefix_append _ _).isInfix)
  have hagree := Demux.feedAll_flatten fed
  obtain ⟨hlines, hlast⟩ := Text.newline_not_mem_breakLines fed.flatten
  have hstream : Text.unbreakLines _ _ = fed.flatten := Text.unbreakLines_breakLines fed.flatten
  generalize Text.breakLines fed.flatten = p at hlines hlast hstream
  obtain ⟨lines, last⟩ := p
  obtain ⟨hstate, htext⟩ := Demux.feed_of_quiet hlines hlast (hstream ▸ hquiet)
  have hparted := parted_splitHeld hlines hlast
  rw [hstream] at hstate htext hparted
  have hflush : (Demux.feedAll {} fed).1.flush.2.text = (splitHeld last).2 := by
    rw [hagree.state, hstate]
    rfl
  have houtput : (Demux.feedAll {} fed).2.text = Text.unbreakLines lines (splitHeld last).1 :=
    (hagree.text (noIndentedSentinel_of_quiet hquiet)).trans htext
  refine ⟨lines, _, _, hparted, houtput, hflush, ?_⟩
  rw [Demux.finish, Output.text_append, houtput, hflush, hparted.stream_eq]
  simp [Text.unbreakLines]

/-- Behind two chunks the beginning of a sentinel is held back, which turns out to be none, and
behind a third one the beginning of a test mark. -/
theorem feedAll_releases_brackets :
    let chunks : List Text := ["? [", "x] [DEB", "UG]\n[[TEST:PA", "SS] a"]
    ¬ Text.mentions Sentinel.stem chunks.flatten ∧
      (∀ fed rest, chunks = fed ++ rest →
        (Demux.finish (Demux.feedAll {} fed)).2.text = fed.flatten) ∧
      (Demux.feedAll {} (chunks.take 2)).2.text = "? [x] ".toList ∧
      (Demux.feedAll {} (chunks.take 3)).2.text = "? [x] [DEBUG]\n[".toList := by
  intro chunks
  have hquiet : ¬ Text.mentions Sentinel.stem chunks.flatten := by decide
  refine ⟨hquiet, fun fed rest hfed => ?_, by decide, by decide⟩
  obtain ⟨-, -, -, -, -, -, hall⟩ := feedAll_releases hquiet hfed
  exact hall

end Stepwise
