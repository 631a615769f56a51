import Mathlib.Data.List.DropRight
import Stepwise.Text.Blank

/-!
# Marks, blanks and lines of a text

Facts on the operations that take texts apart, each in the form in which its user wants it: what a
reader finds is tied by one `↔` to how the text is put together, and trimming, breaking and
splitting are described by the texts that they are undone with.

Main statements:

* `after?_eq_some_iff`, `before?_eq_some_iff`, `mentions_iff`: marks at the ends of a text and
  inside of it;
* `cut?_append_of_clear`: text that is clear of a mark can be left out of the search for it, and
  `cutLast?_framed`, a word between blanks is found where it stands last;
* `trim_pad`: blanks around a text are all that trimming takes away;
* `breakLines_unbreakLines`: lines that are written out are read back, and `breakLines_append`,
  what more text does to the lines of a stream;
* `fields_join`: parts that are joined are split again into the fields of each;
* `mem_pieces_iff`: the pieces of a text are its longest stretches without separator.
-/

namespace Stepwise.Text

/-! ## 1. Marks -/

/-- A mark is found at the beginning of exactly the texts that begin with it. -/
theorem after?_eq_some_iff {mark t rest : Text} : after? mark t = some rest ↔ t = mark ++ rest :=
  ⟨eq_append_of_after?, fun h => h ▸ after?_append mark rest⟩

theorem isSome_after?_iff {mark t : Text} : (after? mark t).isSome ↔ mark <+: t := by
  rw [Option.isSome_iff_exists]
  constructor
  · rintro ⟨rest, h⟩
    exact ⟨rest, (after?_eq_some_iff.1 h).symm⟩
  · rintro ⟨rest, h⟩
    exact ⟨rest, after?_eq_some_iff.2 h.symm⟩

/-- A mark is found at the end of exactly the texts that end with it. -/
theorem before?_eq_some_iff {mark t head : Text} :
    before? mark t = some head ↔ t = head ++ mark := by
  simp only [before?, Option.map_eq_some_iff, after?_eq_some_iff]
  constructor
  · rintro ⟨rest, ht, rfl⟩
    have h := congrArg List.reverse ht
    rwa [List.reverse_append, List.reverse_reverse, List.reverse_reverse] at h
  · rintro rfl
    exact ⟨head.reverse, List.reverse_append, List.reverse_reverse head⟩

theorem before?_eq_none_iff {mark t : Text} : before? mark t = none ↔ ¬ mark <:+ t := by
  rw [Option.eq_none_iff_forall_not_mem]
  constructor
  · rintro h ⟨head, rfl⟩
    exact h head (before?_eq_some_iff.2 rfl)
  · intro h head hm
    exact h ⟨head, (before?_eq_some_iff.1 hm).symm⟩

/-- A mark is found somewhere in exactly the texts that contain it. -/
theorem mentions_iff {mark t : Text} : mentions mark t ↔ mark <:+: t := by
  unfold mentions
  induction t with
  | nil =>
    rw [cut?, Option.isSome_map, isSome_after?_iff, List.prefix_nil, List.infix_nil]
  | cons c t ih =>
    rw [List.infix_cons_iff, ← isSome_after?_iff, ← ih, cut?]
    cases after? mark (c :: t) with
    | none => simp
    | some rest => simp

theorem cut?_eq_none_iff {mark t : Text} : cut? mark t = none ↔ ¬ mark <:+: t := by
  rw [← mentions_iff, mentions, Bool.not_eq_true, Option.isSome_eq_false_iff,
    Option.isNone_iff_eq_none]

theorem cut?_append_self (mark t : Text) : cut? mark (mark ++ t) = some ([], t) := by
  have hafter := after?_append mark t
  generalize mark ++ t = s at hafter
  cases s with
  | nil => rw [cut?, hafter, Option.map_some]
  | cons c s => rw [cut?, hafter]

/-- No occurrence of the mark in the two texts begins inside of the first one. -/
def ClearOf (mark free t : Text) : Prop := ∀ a b, free ++ t = a ++ mark ++ b → free <+: a

theorem ClearOf.not_infix {mark free t : Text} (h : ClearOf mark free t) (hne : mark ≠ []) :
    ¬ mark <:+: free := by
  rintro ⟨a, b, rfl⟩
  have hlen := (h a (b ++ t) (by simp)).length_le
  have hpos := List.length_pos_iff.2 hne
  simp only [List.length_append] at hlen
  omega

/-- **Text that is clear of a mark does not matter to the search for it.**  If no occurrence of the
mark begins inside of `free`, the first one is that of the text behind. -/
theorem cut?_append_of_clear {mark free t : Text} (h : ClearOf mark free t) :
    cut? mark (free ++ t) = (cut? mark t).map fun (head, rest) => (free ++ head, rest) := by
  induction free with
  | nil => cases hc : cut? mark t <;> simp [hc]
  | cons c free ih =>
    have hnone : after? mark (c :: (free ++ t)) = none := by
      rw [← Option.not_isSome_iff_eq_none, isSome_after?_iff]
      rintro ⟨b, hb⟩
      have hp := h [] b (by simpa using hb.symm)
      exact absurd (List.prefix_nil.1 hp) (by simp)
    have hclear : ∀ a b, free ++ t = a ++ mark ++ b → free <+: a := by
      intro a b hab
      have hp := h (c :: a) b (by simp [hab])
      exact (List.cons_prefix_cons.1 hp).2
    rw [List.cons_append, cut?, hnone]
    simp only [ih hclear, Option.map_map]
    rfl

/-- A character is found where it stands first. -/
theorem cut?_singleton_append {m : Char} {head : Text} (h : m ∉ head) (t : Text) :
    cut? [m] (head ++ m :: t) = some (head, t) := by
  have hclear : ClearOf [m] head (m :: t) := by
    intro a b hab
    rw [List.append_assoc, List.singleton_append] at hab
    rcases List.append_eq_append_iff.1 hab with ⟨c, rfl, -⟩ | ⟨c, rfl, hrest⟩
    · exact List.prefix_append head c
    · cases c with
      | nil => simp
      | cons d c =>
        obtain rfl := (List.cons.inj hrest).1
        exact absurd (by simp) h
  have hself : cut? [m] (m :: t) = some ([], t) := cut?_append_self [m] t
  rw [cut?_append_of_clear hclear, hself]
  simp

/-- No mark is found last where there is none. -/
theorem cutLast?_eq_none_iff {mark t : Text} : cutLast? mark t = none ↔ ¬ mark <:+: t := by
  induction t with
  | nil =>
    rw [cutLast?, Option.map_eq_none_iff, List.infix_nil, ← List.prefix_nil, ← isSome_after?_iff,
      Option.not_isSome_iff_eq_none]
  | cons c t ih =>
    rw [List.infix_cons_iff, not_or, ← isSome_after?_iff, Option.not_isSome_iff_eq_none, ← ih,
      cutLast?]
    cases cutLast? mark t <;> simp

/-- A cut at the last occurrence loses nothing but the mark. -/
theorem eq_append_of_cutLast? {mark t head rest : Text}
    (h : cutLast? mark t = some (head, rest)) : t = head ++ mark ++ rest := by
  induction t generalizing head with
  | nil =>
    obtain ⟨r, hr, heq⟩ := Option.map_eq_some_iff.1 h
    obtain ⟨rfl, rfl⟩ := Prod.mk.inj heq
    exact eq_append_of_after? hr
  | cons c t ih =>
    rw [cutLast?] at h
    split at h
    · next found hfound =>
      obtain ⟨rfl, rfl⟩ := by simpa using h
      simp [ih hfound]
    · obtain ⟨r, hr, heq⟩ := Option.map_eq_some_iff.1 h
      obtain ⟨rfl, rfl⟩ := Prod.mk.inj heq
      exact eq_append_of_after? hr

/-- A mark behind whose first character none begins is the last one. -/
theorem cutLast?_append {m : Char} {mark t : Text} (h : ¬ (m :: mark) <:+: mark ++ t)
    (head : Text) : cutLast? (m :: mark) (head ++ (m :: mark) ++ t) = some (head, t) := by
  induction head with
  | nil =>
    have hafter := after?_append (m :: mark) t
    rw [List.cons_append] at hafter
    rw [List.nil_append, List.cons_append, cutLast?, cutLast?_eq_none_iff.2 h, hafter]
    rfl
  | cons c head ih => rw [List.cons_append, List.cons_append, cutLast?, ih]

/-- **A word between blanks is found where it stands last**: no later one shares a blank with it,
if the word stands nowhere behind it. -/
theorem cutLast?_framed {word t : Text} (hword : ' ' ∉ word) (ht : ¬ word <:+: t) (head : Text) :
    cutLast? (' ' :: (word ++ [' '])) (head ++ ' ' :: (word ++ [' ']) ++ t) = some (head, t) := by
  refine cutLast?_append ?_ head
  rintro ⟨a, b, h⟩
  have hnone : ∀ {c s : Text}, ' ' :: t ≠ c ++ ' ' :: (word ++ s) := by
    rintro (_ | ⟨d, c⟩) s hs
    · exact ht ⟨[], s, (List.cons.inj hs).2.symm⟩
    · exact ht ⟨c ++ [' '], s, by simpa using (List.cons.inj hs).2.symm⟩
  have heq : a ++ (' ' :: (word ++ ' ' :: b)) = word ++ ' ' :: t := by simpa using h
  rcases List.append_eq_append_iff.1 heq with ⟨c, hc, hrest⟩ | ⟨c, hc, hrest⟩
  · cases c with
    | nil => exact hnone (c := []) hrest.symm
    | cons d c =>
      -- the later one begins inside of the word, which holds no blank
      obtain rfl := (List.cons.inj hrest).1
      exact hword (by simp [hc])
  · exact hnone hrest

/-! ## 2. Blanks -/

@[simp] theorem blank_append (s t : Text) : blank (s ++ t) = (blank s && blank t) :=
  List.all_append

theorem trimEnd_append_of_blank {w : Text} (hw : blank w) (t : Text) :
    trimEnd (t ++ w) = trimEnd t := by
  induction w using List.reverseRecOn with
  | nil => rw [List.append_nil]
  | append_singleton w c ih =>
    rw [blank_append, Bool.and_eq_true] at hw
    have hc : isBlank c = true := by simpa [blank] using hw.2
    rw [← List.append_assoc]
    exact (List.rdropWhile_concat_pos isBlank _ c hc).trans (ih hw.1)

/-- Trimming the end stops at the last part that is not blank. -/
theorem trimEnd_append_of_not_blank {t : Text} (ht : ¬ blank t) (s : Text) :
    trimEnd (s ++ t) = s ++ trimEnd t := by
  induction t using List.reverseRecOn with
  | nil => exact absurd rfl ht
  | append_singleton t c ih =>
    by_cases hc : isBlank c = true
    · have hcw : blank [c] = true := by simp [blank, hc]
      have ht' : ¬ blank t := by simpa [hcw] using ht
      rw [← List.append_assoc, trimEnd_append_of_blank hcw, trimEnd_append_of_blank hcw, ih ht']
    · have hst : trimEnd (s ++ t ++ [c]) = s ++ t ++ [c] :=
        List.rdropWhile_concat_neg isBlank _ c hc
      have htc : trimEnd (t ++ [c]) = t ++ [c] := List.rdropWhile_concat_neg isBlank _ c hc
      rw [← List.append_assoc, hst, htc, List.append_assoc]

/-- What is trimmed off the end is blank. -/
theorem exists_eq_trimEnd_append (t : Text) : ∃ w, blank w ∧ t = trimEnd t ++ w := by
  induction t using List.reverseRecOn with
  | nil => exact ⟨[], rfl, rfl⟩
  | append_singleton t c ih =>
    by_cases hc : isBlank c = true
    · obtain ⟨w, hw, ht⟩ := ih
      have hcw : blank [c] = true := by simp [blank, hc]
      refine ⟨w ++ [c], by simp [hw, hcw], ?_⟩
      rw [trimEnd_append_of_blank hcw, ← List.append_assoc, ← ht]
    · refine ⟨[], rfl, ?_⟩
      rw [List.append_nil]
      exact (List.rdropWhile_concat_neg isBlank t c hc).symm

theorem exists_eq_append_trimStart (t : Text) : ∃ w, blank w ∧ t = w ++ trimStart t :=
  ⟨t.takeWhile isBlank, List.all_takeWhile, (List.takeWhile_append_dropWhile).symm⟩

/-- **Trimming takes away nothing but blanks.** -/
theorem exists_eq_append_trim_append (t : Text) :
    ∃ w w', blank w ∧ blank w' ∧ t = w ++ trim t ++ w' := by
  obtain ⟨w, hw, hs⟩ := exists_eq_append_trimStart t
  obtain ⟨w', hw', he⟩ := exists_eq_trimEnd_append (trimStart t)
  refine ⟨w, w', hw, hw', ?_⟩
  rw [List.append_assoc, trim, ← he, ← hs]

theorem trimStart_append_of_blank {w : Text} (hw : blank w) (t : Text) :
    trimStart (w ++ t) = trimStart t :=
  List.dropWhile_append_of_pos (List.all_eq_true.1 hw)

/-- Nothing is left of a blank text, and only of a blank one. -/
theorem trim_eq_nil_iff {t : Text} : trim t = [] ↔ blank t := by
  constructor
  · intro h
    obtain ⟨w, w', hw, hw', ht⟩ := exists_eq_append_trim_append t
    rw [ht, h]
    simp [hw, hw']
  · intro h
    have hs : trimStart t = [] := by
      have := trimStart_append_of_blank h []
      rwa [List.append_nil] at this
    rw [trim, hs]
    rfl

/-- **Blanks around a text are all that trimming takes away**, if it neither begins nor ends with
one. -/
theorem trim_pad {w t w' : Text} (hw : blank w) (hw' : blank w')
    (hfirst : ∀ c ∈ t.head?, ¬ isBlank c) (hlast : ∀ c ∈ t.getLast?, ¬ isBlank c) :
    trim (w ++ t ++ w') = t := by
  rw [List.append_assoc, trim, trimStart_append_of_blank hw]
  cases t with
  | nil =>
    have := trim_eq_nil_iff.2 hw'
    rwa [trim] at this
  | cons c t =>
    have hc : ¬ isBlank c := hfirst c rfl
    have hstart : trimStart (c :: t ++ w') = c :: t ++ w' :=
      List.dropWhile_cons_of_neg hc
    rw [hstart, trimEnd_append_of_blank hw']
    refine List.rdropWhile_eq_self_iff.2 fun hne => ?_
    exact hlast _ (List.getLast?_eq_some_getLast hne)

theorem trim_eq_self {t : Text} (hfirst : ∀ c ∈ t.head?, ¬ isBlank c)
    (hlast : ∀ c ∈ t.getLast?, ¬ isBlank c) : trim t = t := by
  have hnil : blank [] := rfl
  have h := trim_pad hnil hnil hfirst hlast
  rwa [List.nil_append, List.append_nil] at h

/-- Blanks at the end do not matter to trimming. -/
theorem trim_append_of_blank {w : Text} (hw : blank w) (t : Text) : trim (t ++ w) = trim t := by
  by_cases hb : blank t = true
  · have hboth : blank (t ++ w) = true := by simp [hb, hw]
    rw [trim_eq_nil_iff.2 hb, trim_eq_nil_iff.2 hboth]
  · obtain ⟨v, hv, hs⟩ := exists_eq_append_trimStart t
    have hne : trimStart t ≠ [] := by
      intro h0
      rw [h0, List.append_nil] at hs
      exact hb (hs ▸ hv)
    have hstart : trimStart (t ++ w) = trimStart t ++ w := by
      rw [trimStart, List.dropWhile_append]
      simp only [List.isEmpty_iff]
      exact if_neg hne
    rw [trim, trim, hstart, trimEnd_append_of_blank hw]

theorem trim_blank_append {w : Text} (hw : blank w) (t : Text) : trim (w ++ t) = trim t := by
  rw [trim, trim, trimStart_append_of_blank hw]

theorem trim_trimEnd (t : Text) : trim (trimEnd t) = trim t := by
  obtain ⟨w, hw, ht⟩ := exists_eq_trimEnd_append t
  conv => rhs; rw [ht]
  exact (trim_append_of_blank hw _).symm

/-- Trimming keeps every character that is no blank. -/
theorem count_trim {c : Char} (hc : isBlank c = false) (t : Text) :
    (trim t).count c = t.count c := by
  have hnone : ∀ w, blank w → w.count c = 0 := by
    intro w hw
    rw [List.count_eq_zero]
    intro hm
    rw [List.all_eq_true.1 hw c hm] at hc
    cases hc
  obtain ⟨w, w', hw, hw', ht⟩ := exists_eq_append_trim_append t
  conv => rhs; rw [ht]
  simp [hnone w hw, hnone w' hw']

theorem ClearOf.trimEnd {mark free t : Text} (h : ClearOf mark free t) :
    ClearOf mark free t.trimEnd := by
  intro a b hab
  obtain ⟨w, -, ht⟩ := exists_eq_trimEnd_append t
  refine h a (b ++ w) ?_
  rw [ht, ← List.append_assoc, hab]
  simp

/-! ## 3. Carriage returns -/

/-- A carriage return at the end is a blank, so it is all the same to trimming whether it is
dropped. -/
theorem exists_eq_dropReturn_append (t : Text) : ∃ w, blank w ∧ t = dropReturn t ++ w := by
  unfold dropReturn
  cases h : before? ['\r'] t with
  | none => exact ⟨[], rfl, by simp⟩
  | some head => exact ⟨['\r'], by decide, before?_eq_some_iff.1 h⟩

theorem dropReturn_eq_self {t : Text} (h : t.getLast? ≠ some '\r') : dropReturn t = t := by
  have hnone : before? ['\r'] t = none := by
    rw [before?_eq_none_iff]
    rintro ⟨head, rfl⟩
    exact h List.getLast?_concat
  rw [dropReturn, hnone, Option.getD_none]

/-- Trimming the end takes a carriage return anyway. -/
@[simp] theorem trimEnd_dropReturn (t : Text) : trimEnd (dropReturn t) = trimEnd t := by
  obtain ⟨w, hw, ht⟩ := exists_eq_dropReturn_append t
  conv => rhs; rw [ht]
  exact (trimEnd_append_of_blank hw _).symm

@[simp] theorem blank_dropReturn (t : Text) : blank (dropReturn t) = blank t := by
  obtain ⟨w, hw, ht⟩ := exists_eq_dropReturn_append t
  conv => rhs; rw [ht]
  rw [blank_append, hw, Bool.and_true]

@[simp] theorem trim_dropReturn (t : Text) : trim (dropReturn t) = trim t := by
  obtain ⟨w, hw, ht⟩ := exists_eq_dropReturn_append t
  conv => rhs; rw [ht]
  exact (trim_append_of_blank hw _).symm

/-! ## 4. Lines -/

/-- The lines and the rest of a text hold no newline. -/
theorem newline_not_mem_breakLines (t : Text) :
    (∀ line ∈ (breakLines t).1, '\n' ∉ line) ∧ '\n' ∉ (breakLines t).2 := by
  induction t with
  | nil => simp [breakLines]
  | cons c t ih =>
    obtain ⟨hlines, hrest⟩ := ih
    simp only [breakLines]
    split
    · refine ⟨?_, hrest⟩
      simpa using hlines
    · next hc =>
      split
      · next h0 =>
        exact ⟨by simp, by simp [hrest, Ne.symm hc]⟩
      · next line lines h1 =>
        rw [h1] at hlines
        simp only [List.mem_cons, forall_eq_or_imp] at hlines ⊢
        exact ⟨⟨by simp [hlines.1, Ne.symm hc], hlines.2⟩, hrest⟩

theorem breakLines_of_newline_not_mem {t : Text} (h : '\n' ∉ t) : breakLines t = ([], t) := by
  induction t with
  | nil => rfl
  | cons c t ih =>
    have hc : c ≠ '\n' := fun e => h (e ▸ List.mem_cons_self)
    simp [breakLines, ih fun hm => h (List.mem_cons_of_mem _ hm), hc]

theorem breakLines_line_append {line : Text} (h : '\n' ∉ line) (t : Text) :
    breakLines (line ++ '\n' :: t) = (line :: (breakLines t).1, (breakLines t).2) := by
  induction line with
  | nil => simp [breakLines]
  | cons c line ih =>
    have hc : c ≠ '\n' := fun e => h (e ▸ List.mem_cons_self)
    simp [breakLines, ih fun hm => h (List.mem_cons_of_mem _ hm), hc]

/-- **Lines that are written out are read back**, and then the lines of the text behind them. -/
theorem breakLines_unbreakLines {lines : List Text} (h : ∀ line ∈ lines, '\n' ∉ line) (t : Text) :
    breakLines (unbreakLines lines t) = (lines ++ (breakLines t).1, (breakLines t).2) := by
  induction lines with
  | nil => simp [unbreakLines]
  | cons line lines ih =>
    have hl : '\n' ∉ line := h line List.mem_cons_self
    have hls : ∀ l ∈ lines, '\n' ∉ l := fun l hm => h l (List.mem_cons_of_mem _ hm)
    have heq : unbreakLines (line :: lines) t = line ++ '\n' :: unbreakLines lines t := by
      simp [unbreakLines]
    rw [heq, breakLines_line_append hl, ih hls]
    rfl

/-- The lines and the rest of a text with more text behind it: the first new line finishes the
rest. -/
theorem breakLines_append (s t : Text) :
    breakLines (s ++ t) = match (breakLines t).1 with
      | [] => ((breakLines s).1, (breakLines s).2 ++ (breakLines t).2)
      | line :: lines =>
        ((breakLines s).1 ++ ((breakLines s).2 ++ line) :: lines, (breakLines t).2) := by
  obtain ⟨hlines, hrest⟩ := newline_not_mem_breakLines s
  have hs : unbreakLines (breakLines s).1 (breakLines s).2 ++ t
      = unbreakLines (breakLines s).1 ((breakLines s).2 ++ t) := by
    simp [unbreakLines]
  conv => lhs; rw [← unbreakLines_breakLines s, hs, breakLines_unbreakLines hlines]
  by_cases ht : '\n' ∈ t
  · obtain ⟨line, more, rfl, hline⟩ := List.eq_append_cons_of_mem ht
    have hwhole : '\n' ∉ (breakLines s).2 ++ line := by simp [hrest, hline]
    rw [breakLines_line_append hline, ← List.append_assoc, breakLines_line_append hwhole]
  · have hwhole : '\n' ∉ (breakLines s).2 ++ t := by simp [hrest, ht]
    rw [breakLines_of_newline_not_mem ht, breakLines_of_newline_not_mem hwhole]
    simp

theorem breakLines_append_newline (s t : Text) :
    breakLines (s ++ '\n' :: t) =
      ((breakLines s).1 ++ (breakLines s).2 :: (breakLines t).1, (breakLines t).2) := by
  have h : breakLines ('\n' :: t) = ([] :: (breakLines t).1, (breakLines t).2) := by
    simp [breakLines]
  simp only [breakLines_append, h, List.append_nil]

theorem not_mentions_breakLines {mark t : Text} (h : ¬ mentions mark t) :
    (∀ line ∈ (breakLines t).1, ¬ mentions mark line) ∧ ¬ mentions mark (breakLines t).2 := by
  simp only [mentions_iff] at h ⊢
  rw [← unbreakLines_breakLines t] at h
  refine ⟨fun line hm hi => h (hi.trans ?_), fun hi => h (hi.trans ?_)⟩
  · obtain ⟨before, behind, hsplit⟩ := List.append_of_mem hm
    refine ⟨unbreakLines before [], '\n' :: unbreakLines behind (breakLines t).2, ?_⟩
    simp [hsplit, unbreakLines]
  · exact (List.suffix_append _ _).isInfix

/-! ## 5. Fields -/

theorem splitBy_eq_splitOnP (isMark : Char → Bool) (t : Text) :
    splitBy isMark t = t.splitOnP isMark := by
  induction t with
  | nil => rfl
  | cons c t ih =>
    rw [splitBy, List.splitOnP_cons_eq_if_modifyHead, ← ih]
    rcases ht : splitBy isMark t with _ | ⟨part, parts⟩
    · exact absurd ht (splitBy_ne_nil _ t)
    · rfl

theorem splitBy_of_forall_not {isMark : Char → Bool} {t : Text} (h : ∀ c ∈ t, isMark c = false) :
    splitBy isMark t = [t] := by
  rw [splitBy_eq_splitOnP, List.splitOnP_eq_singleton h]

theorem splitBy_append {isMark : Char → Bool} {mark : Char} (h : isMark mark) (s t : Text) :
    splitBy isMark (s ++ mark :: t) = splitBy isMark s ++ splitBy isMark t := by
  simp only [splitBy_eq_splitOnP, List.splitOnP_append_cons s t h]

/-- A part holds no separator. -/
theorem not_of_mem_splitBy {isMark : Char → Bool} {t part : Text} (h : part ∈ splitBy isMark t) :
    ∀ c ∈ part, isMark c = false := by
  induction t generalizing part with
  | nil =>
    obtain rfl := List.mem_singleton.1 h
    exact fun c hc => nomatch hc
  | cons c t ih =>
    rw [splitBy] at h
    split at h
    · next h0 => exact absurd h0 (splitBy_ne_nil _ t)
    · next first rest hparts =>
      rw [hparts] at ih
      split at h
      · rcases List.mem_cons.1 h with rfl | h
        · exact fun c hc => nomatch hc
        · exact ih h
      · next hc =>
        rcases List.mem_cons.1 h with rfl | h
        · rw [List.forall_mem_cons]
          exact ⟨Bool.eq_false_iff.2 hc, ih List.mem_cons_self⟩
        · exact ih (List.mem_cons_of_mem _ h)

theorem fields_of_not_mem {mark : Char} {t : Text} (h : mark ∉ t) : fields mark t = [t] :=
  splitBy_of_forall_not fun _ hc => beq_false_of_ne fun heq => h (heq ▸ hc)

theorem fields_append (mark : Char) (s t : Text) :
    fields mark (s ++ mark :: t) = fields mark s ++ fields mark t :=
  @splitBy_append (· == mark) mark (beq_self_eq_true mark) s t

/-- **Parts that are joined are split again into the fields of each.** -/
theorem fields_join (mark : Char) {parts : List Text} (hne : parts ≠ []) :
    fields mark (join [mark] parts) = parts.flatMap (fields mark) := by
  induction parts with
  | nil => exact absurd rfl hne
  | cons part parts ih =>
    cases parts with
    | nil => simp [join]
    | cons next parts =>
      have hjoin : join [mark] (part :: next :: parts)
          = part ++ mark :: join [mark] (next :: parts) := by
        simp [join]
      rw [hjoin, fields_append, ih (List.cons_ne_nil _ _)]
      rfl

theorem join_cons (mark part : Text) (parts : List Text) :
    join mark (part :: parts) = part ++ parts.flatMap (mark ++ ·) := by
  induction parts generalizing part with
  | nil => simp [join]
  | cons next parts ih =>
    have hjoin : join mark (part :: next :: parts) = part ++ mark ++ join mark (next :: parts) :=
      rfl
    rw [hjoin, ih, List.flatMap_cons, List.append_assoc, List.append_assoc]

/-- The last part of a joined text stands behind its separator. -/
theorem join_concat (mark : Text) {parts : List Text} (hne : parts ≠ []) (last : Text) :
    join mark (parts ++ [last]) = join mark parts ++ mark ++ last := by
  induction parts with
  | nil => exact absurd rfl hne
  | cons part parts ih =>
    cases parts with
    | nil => rfl
    | cons next parts =>
      have hrest := ih (List.cons_ne_nil _ _)
      simp only [List.cons_append] at hrest ⊢
      simp only [join, hrest, List.append_assoc]

/-- The characters of a joined text are those of its parts and of the separator. -/
theorem mem_join {mark : Text} {parts : List Text} {c : Char} (hc : c ∈ join mark parts) :
    c ∈ mark ∨ ∃ part ∈ parts, c ∈ part := by
  induction parts with
  | nil => cases hc
  | cons part parts ih =>
    cases parts with
    | nil => exact .inr ⟨part, List.mem_cons_self, hc⟩
    | cons next parts =>
      have hjoin : join mark (part :: next :: parts)
          = part ++ mark ++ join mark (next :: parts) := rfl
      rw [hjoin, List.mem_append, List.mem_append] at hc
      rcases hc with (hc | hc) | hc
      · exact .inr ⟨part, List.mem_cons_self, hc⟩
      · exact .inl hc
      · exact (ih hc).imp_right fun ⟨p, hp, hcp⟩ => ⟨p, List.mem_cons_of_mem _ hp, hcp⟩

/-- A character of a text is a separator or stands in a field. -/
theorem mem_iff_mem_fields {mark c : Char} (hc : c ≠ mark) {t : Text} :
    c ∈ t ↔ ∃ part ∈ fields mark t, c ∈ part := by
  unfold fields
  induction t with
  | nil => simp [splitBy]
  | cons d t ih =>
    rw [splitBy]
    rcases ht : splitBy (· == mark) t with _ | ⟨part, parts⟩
    · exact absurd ht (splitBy_ne_nil _ t)
    · rw [List.mem_cons, ih, ht]
      by_cases hd : d = mark
      · have hcd : c ≠ d := fun e => hc (e.trans hd)
        simp [hd, hc]
      · simp [hd, or_assoc]

theorem not_mem_of_mem_fields {mark : Char} {t part : Text} (h : part ∈ fields mark t) :
    mark ∉ part := fun hmem => by
  simpa using not_of_mem_splitBy h mark hmem

/-! ## 6. Pieces -/

/-- The piece stands in the text, between separators or ends of it, and holds none. -/
def IsPiece (isMark : Char → Bool) (t piece : Text) : Prop :=
  piece ≠ [] ∧ (∀ c ∈ piece, isMark c = false) ∧
    ∃ before behind, t = before ++ piece ++ behind ∧
      (∀ c ∈ before.getLast?, isMark c) ∧ ∀ c ∈ behind.head?, isMark c

/-- Where the parts of a text stand: the first one at its beginning, each other one behind a
separator, and all of them in front of a separator or at the end. -/
theorem splitBy_places {isMark : Char → Bool} {t first : Text} {rest : List Text}
    (h : splitBy isMark t = first :: rest) :
    (∃ behind, t = first ++ behind ∧ ∀ c ∈ behind.head?, isMark c) ∧
      ∀ part ∈ rest, ∃ before mark behind, t = before ++ mark :: (part ++ behind) ∧ isMark mark ∧
        ∀ c ∈ behind.head?, isMark c := by
  induction t generalizing first rest with
  | nil =>
    obtain ⟨rfl, rfl⟩ := List.cons.inj h
    exact ⟨⟨[], rfl, by simp⟩, by simp⟩
  | cons c t ih =>
    rw [splitBy] at h
    split at h
    · next h0 => exact absurd h0 (splitBy_ne_nil _ t)
    · next first' rest' hparts =>
      obtain ⟨⟨behind, ht, hbehind⟩, hrest⟩ := ih hparts
      have hlater : ∀ part ∈ rest', ∃ before mark behind,
          c :: t = before ++ mark :: (part ++ behind) ∧ isMark mark ∧
            ∀ c ∈ behind.head?, isMark c := by
        intro part hpart
        obtain ⟨before, mark, behind, ht, hmark, hbehind⟩ := hrest part hpart
        exact ⟨c :: before, mark, behind, by rw [ht, List.cons_append], hmark, hbehind⟩
      split at h
      · next hc =>
        obtain ⟨rfl, rfl⟩ := List.cons.inj h
        refine ⟨⟨c :: t, rfl, by simpa using hc⟩, fun part hpart => ?_⟩
        rcases List.mem_cons.1 hpart with rfl | hpart
        · exact ⟨[], c, behind, by rw [ht, List.nil_append], hc, hbehind⟩
        · exact hlater part hpart
      · obtain ⟨rfl, rfl⟩ := List.cons.inj h
        exact ⟨⟨behind, by rw [ht, List.cons_append], hbehind⟩, hlater⟩

/-- **The pieces of a text are its longest stretches without separator.** -/
theorem mem_pieces_iff {isMark : Char → Bool} {t piece : Text} :
    piece ∈ pieces isMark t ↔ IsPiece isMark t piece := by
  rw [pieces, List.mem_filter, IsPiece]
  constructor
  · rintro ⟨hpart, hne⟩
    refine ⟨by simpa using hne, not_of_mem_splitBy hpart, ?_⟩
    obtain ⟨first, rest, hparts⟩ := List.exists_cons_of_ne_nil (splitBy_ne_nil isMark t)
    obtain ⟨⟨behind, ht, hbehind⟩, hrest⟩ := splitBy_places hparts
    rw [hparts] at hpart
    rcases List.mem_cons.1 hpart with rfl | hpart
    · exact ⟨[], behind, ht, by simp, hbehind⟩
    · obtain ⟨before, mark, behind, ht, hmark, hbehind⟩ := hrest piece hpart
      refine ⟨before ++ [mark], behind, by simp [ht], ?_, hbehind⟩
      simpa using hmark
  · rintro ⟨hne, hfree, before, behind, rfl, hbefore, hbehind⟩
    refine ⟨?_, by simpa using hne⟩
    -- first what stands behind the piece is split off, then what stands before it
    have hfront : piece ∈ splitBy isMark (piece ++ behind) := by
      cases behind with
      | nil => simp [splitBy_of_forall_not hfree]
      | cons mark behind =>
        have hmark : isMark mark = true := hbehind mark rfl
        simp [splitBy_append hmark, splitBy_of_forall_not hfree]
    rcases List.eq_nil_or_concat' before with rfl | ⟨before, mark, rfl⟩
    · exact hfront
    · have hmark : isMark mark = true := hbefore mark List.getLast?_concat
      have ht : before ++ [mark] ++ piece ++ behind = before ++ mark :: (piece ++ behind) := by
        simp
      rw [ht, splitBy_append hmark]
      exact List.mem_append_right _ hfront

/-- Pieces that are joined by a separator are found again. -/
theorem pieces_join {isMark : Char → Bool} {mark : Char} (hmark : isMark mark) {parts : List Text}
    (h : ∀ part ∈ parts, part ≠ [] ∧ ∀ c ∈ part, isMark c = false) :
    pieces isMark (join [mark] parts) = parts := by
  have hone : ∀ part ∈ parts, pieces isMark part = [part] := by
    intro part hpart
    simp [pieces, splitBy_of_forall_not (h part hpart).2, (h part hpart).1]
  have hmore : ∀ s t : Text,
      pieces isMark (s ++ mark :: t) = pieces isMark s ++ pieces isMark t := by
    intro s t
    rw [pieces, splitBy_append hmark, List.filter_append, pieces, pieces]
  induction parts with
  | nil => rfl
  | cons part parts ih =>
    have hparts := ih (fun p hp => h p (List.mem_cons_of_mem _ hp)) fun p hp =>
      hone p (List.mem_cons_of_mem _ hp)
    cases parts with
    | nil => exact hone part List.mem_cons_self
    | cons next parts =>
      have hjoin : join [mark] (part :: next :: parts)
          = part ++ mark :: join [mark] (next :: parts) := by
        simp [join]
      rw [hjoin, hmore, hone part List.mem_cons_self, hparts]
      rfl

end Stepwise.Text
