import Stepwise.Proofs.Chunks

/-!
# Reports of tests

A test prints one line: its mark, the checked expression, and after a failure what was expected and
what was found.  Read back, the first mark of the line decides, and the values are cut from the end,
so that other output may stand in front of the report and anything in the expression.

There is one exception.  The end of the line is trimmed before it is read, and the end of the line
is the value that was found.  Blanks at its end are lost; and if there is nothing else in it, the
trimming takes the blank behind `Actual:` too, so that no value is found at all.

Main definitions and statements:

* `TestOutcome.line`: the line that a test prints;
* `TestOutcome.ofLine?_line_passed`, `TestOutcome.ofLine?_line_failed`: what is read of it behind
  other output;
* `TestOutcome.ofLine?_line`: when it is read back as it was printed.
-/

namespace Stepwise

namespace TestOutcome

/-- The line that a test prints. -/
def line : TestOutcome → Text
  | .passed e => passMark ++ ' ' :: e
  | .failed e x a => failMark ++ (' ' :: e ++ expectedMark ++ x ++ actualMark ++ a)

/-! ## 1. The mark of the line -/

/-- The marks of tests. -/
def marks : List Text := [passMark, failMark]

/-- A mark begins with a bracket and holds no other one, so none begins in text without marks in
front of another mark. -/
theorem clearOf_of_mem_marks {mark mark' p : Text} (hmark : mark ∈ marks) (hmark' : mark' ∈ marks)
    (hp : ¬ mark <:+: p) (t : Text) : Text.ClearOf mark p (mark' ++ t) := by
  have hhead : ∀ m ∈ marks, m.head? = some '[' := by decide
  have htail : ∀ m ∈ marks, '[' ∉ m.tail := by decide
  intro a b h
  rw [List.append_assoc] at h
  rcases List.append_eq_append_iff.1 h with ⟨c, hc, -⟩ | ⟨c, rfl, hrest⟩
  · exact ⟨c, hc.symm⟩
  · rcases List.append_eq_append_iff.1 hrest with ⟨d, hd, -⟩ | ⟨d, hd, hbehind⟩
    · exact absurd ⟨a, d, by rw [hd, List.append_assoc]⟩ hp
    · cases d with
      | nil => exact absurd ⟨a, [], by simp [hd]⟩ hp
      | cons e d =>
        cases c with
        | nil => simp
        | cons f c =>
          -- the mark would go on with the bracket of the other one
          have he : e = '[' := by
            have hfirst := congrArg List.head? hbehind
            rw [List.head?_append, hhead mark' hmark'] at hfirst
            simpa using hfirst.symm
          exact absurd (by simp [hd, he]) (htail mark hmark)

/-- Output without marks in front of a mark does not matter. -/
theorem ofLine?_behind {p mark : Text} (hpass : ¬ passMark <:+: p) (hfail : ¬ failMark <:+: p)
    (hmark : mark ∈ marks) (t : Text) : ofLine? (p ++ (mark ++ t)) = ofLine? (mark ++ t) :=
  ofLine?_of_clear (clearOf_of_mem_marks (by decide) hmark hpass t)
    (clearOf_of_mem_marks (by decide) hmark hfail t)

theorem trimEnd_mark_append {mark : Text} (hmark : mark ∈ marks) (t : Text) :
    Text.trimEnd (mark ++ t) = mark ++ Text.trimEnd t := by
  by_cases hb : Text.blank t = true
  · have hself : ∀ m ∈ marks, Text.trimEnd m = m := by decide
    have hnil : Text.trimEnd t = [] := List.rdropWhile_eq_nil_iff.2 (List.all_eq_true.1 hb)
    rw [Text.trimEnd_append_of_blank hb, hself mark hmark, hnil, List.append_nil]
  · exact Text.trimEnd_append_of_not_blank hb _

/-- Behind one mark the other one is found later, if at all. -/
theorem length_pos_of_cut? {mark mark' t head rest : Text} (hmark : mark ∈ marks)
    (hmark' : mark' ∈ marks) (hne : mark ≠ mark')
    (h : Text.cut? mark (mark' ++ t) = some (head, rest)) : 0 < head.length := by
  have heq := Text.eq_append_of_cut? h
  have hlength : ∀ m ∈ marks, m.length = 11 := by decide
  refine List.length_pos_iff.2 fun hnil => hne ?_
  rw [hnil, List.nil_append] at heq
  exact (List.append_inj heq (by rw [hlength mark hmark, hlength mark' hmark'])).1.symm

/-- **What is read of a line that begins with the mark of a passed test.** -/
theorem ofLine?_passMark_append (t : Text) : ofLine? (passMark ++ t) = some (.passed t.trim) := by
  have hpass := Text.cut?_append_self passMark t.trimEnd
  rw [ofLine?, trimEnd_mark_append (by decide), hpass]
  cases hfail : Text.cut? failMark (passMark ++ t.trimEnd) with
  | none => simp only [Text.trim_trimEnd]
  | some found =>
    have hlater := length_pos_of_cut? (by decide) (by decide) (by decide) hfail
    simp only [List.length_nil, if_pos hlater, Text.trim_trimEnd]

/-- **What is read of a line that begins with the mark of a failed test.** -/
theorem ofLine?_failMark_append (t : Text) :
    ofLine? (failMark ++ t) = some (ofFailure t.trimEnd) := by
  have hfail := Text.cut?_append_self failMark t.trimEnd
  rw [ofLine?, trimEnd_mark_append (by decide), hfail]
  cases hpass : Text.cut? passMark (failMark ++ t.trimEnd) with
  | none => rfl
  | some found => simp only [List.length_nil, Nat.not_lt_zero, if_false]

/-! ## 2. The values behind a failure -/

/-- What stands before the expected value, without its blanks. -/
def expectedWord : Text := "Expected:"

/-- What stands before the actual value, without its blanks. -/
def actualWord : Text := "Actual:"

/-- **The values are found behind their last marks**, whatever the expression holds. -/
theorem ofFailure_append {e x a : Text} (hx : ¬ expectedWord <:+: x) (ha : ¬ actualWord <:+: a) :
    ofFailure (' ' :: e ++ expectedMark ++ x ++ actualMark ++ a) = .failed e.trim x a := by
  have hactual := Text.cutLast?_framed (by decide) ha (' ' :: e ++ expectedMark ++ x)
  have hexpected := Text.cutLast?_framed (by decide) hx (' ' :: e)
  have hblank : Text.blank [' '] = true := by decide
  rw [ofFailure, show actualMark = ' ' :: (actualWord ++ [' ']) from rfl, hactual]
  dsimp only
  rw [show expectedMark = ' ' :: (expectedWord ++ [' ']) from rfl, hexpected]
  exact congrArg (failed · x a) (Text.trim_blank_append hblank e)

theorem trimEnd_actualMark_append {a : Text} (ha : Text.blank a) (t : Text) :
    Text.trimEnd (t ++ actualMark ++ a) = t ++ ' ' :: actualWord := by
  rw [Text.trimEnd_append_of_blank ha, Text.trimEnd_append_of_not_blank (by decide)]
  rfl

/-- **A value that is blank is not found**: what is read of the trimmed line is not the report that
was printed. -/
theorem ofFailure_trimEnd_ne {e x a : Text} (ha : Text.blank a) :
    ofFailure (Text.trimEnd (' ' :: e ++ expectedMark ++ x ++ actualMark ++ a)) ≠
      .failed e.trim x a := by
  rw [trimEnd_actualMark_append ha]
  intro h
  rw [ofFailure] at h
  split at h
  · -- the expression would hold the colons of the two marks beside its own
    obtain ⟨he, -⟩ := failed.inj h
    have hcount := congrArg (List.count ':') he
    have hexpected : expectedMark.count ':' = 1 := by decide
    rw [Text.count_trim (by decide), Text.count_trim (by decide)] at hcount
    simp [hexpected] at hcount
  · -- the value that is found would end with the line, which does not end in a blank
    next head actual hactual =>
    have hsame : actual = a := by
      split at h
      · exact (failed.inj h).2.2
      · exact (failed.inj h).2.2
    subst hsame
    have heq := Text.eq_append_of_cutLast? hactual
    have htrim := congrArg Text.trimEnd heq
    rw [trimEnd_actualMark_append ha, Text.trimEnd_append_of_not_blank (by decide)] at htrim
    have hself : Text.trimEnd (' ' :: actualWord) = ' ' :: actualWord := by decide
    have hlength := congrArg List.length (heq.symm.trans (hself ▸ htrim))
    have hmark : actualMark.length = 9 := by decide
    have hword : actualWord.length = 7 := by decide
    simp only [List.length_append, List.length_cons, hmark, hword] at hlength
    omega

/-! ## 3. Reports read back -/

variable {p e x a : Text}

/-- A passed test is read back behind other output. -/
theorem ofLine?_line_passed (hpass : ¬ passMark <:+: p) (hfail : ¬ failMark <:+: p) (e : Text) :
    ofLine? (p ++ (passed e).line) = some (.passed e.trim) := by
  have hblank : Text.blank [' '] = true := by decide
  rw [line, ofLine?_behind hpass hfail (by decide), ofLine?_passMark_append]
  exact congrArg (some ∘ passed) (Text.trim_blank_append hblank e)

/-- Of a failed test all is read but the blanks behind the value that was found, if there is one. -/
theorem ofLine?_line_failed (hpass : ¬ passMark <:+: p) (hfail : ¬ failMark <:+: p)
    (hx : ¬ expectedWord <:+: x) (ha : ¬ actualWord <:+: a) (hblank : ¬ Text.blank a) (e : Text) :
    ofLine? (p ++ (failed e x a).line) = some (.failed e.trim x a.trimEnd) := by
  have hend : ¬ actualWord <:+: a.trimEnd := fun hi =>
    ha (hi.trans (List.rdropWhile_prefix Text.isBlank a).isInfix)
  rw [line, ofLine?_behind hpass hfail (by decide), ofLine?_failMark_append,
    Text.trimEnd_append_of_not_blank hblank, ofFailure_append hx hend]

/-- **Reports of tests are read back as they were printed**, behind any output without marks and
whatever the expression holds, as long as the value that was found is not empty and does not end in
a blank. -/
theorem ofLine?_line (hpass : ¬ Text.mentions passMark p) (hfail : ¬ Text.mentions failMark p)
    (he : e.trim = e) (hx : ¬ Text.mentions expectedWord x) (ha : ¬ Text.mentions actualWord a) :
    ofLine? (p ++ (passed e).line) = some (.passed e) ∧
      (¬ Text.blank a → ofLine? (p ++ (failed e x a).line) = some (.failed e x a.trimEnd)) ∧
      (ofLine? (p ++ (failed e x a).line) = some (.failed e x a) ↔ a ≠ [] ∧ a.trimEnd = a) := by
  rw [Text.mentions_iff] at hpass hfail hx ha
  have hread : ¬ Text.blank a → ofLine? (p ++ (failed e x a).line) =
      some (.failed e x a.trimEnd) := fun hblank => by
    rw [ofLine?_line_failed hpass hfail hx ha hblank, he]
  refine ⟨by rw [ofLine?_line_passed hpass hfail, he], hread, fun h => ?_, fun ⟨hne, hend⟩ => ?_⟩
  · have hblank : ¬ Text.blank a := fun hblank => by
      rw [line, ofLine?_behind hpass hfail (by decide), ofLine?_failMark_append] at h
      have hne := ofFailure_trimEnd_ne (e := e) (x := x) hblank
      rw [he] at hne
      exact hne (Option.some.inj h)
    rw [hread hblank] at h
    refine ⟨?_, (failed.inj (Option.some.inj h)).2.2⟩
    rintro rfl
    exact hblank rfl
  · have hblank : ¬ Text.blank a := fun hblank => by
      have hnil : Text.trimEnd a = [] := List.rdropWhile_eq_nil_iff.2 (List.all_eq_true.1 hblank)
      exact hne (hend ▸ hnil)
    rw [hread hblank, hend]

/-- A failure behind other output whose expression holds marks of all kinds. -/
theorem ofLine?_line_of_marks :
    ofLine? ("1 2 ".toList ++ (failed "s == \"[TEST:PASS] Expected: \"".toList "7".toList
      "6".toList).line) = some (.failed "s == \"[TEST:PASS] Expected: \"".toList "7".toList
        "6".toList) ∧
      ofLine? ("1 2 ".toList ++ (failed "s == \"[TEST:PASS] Expected: \"".toList "7".toList
        []).line) ≠ some (.failed "s == \"[TEST:PASS] Expected: \"".toList "7".toList []) :=
  ⟨(ofLine?_line (by decide) (by decide) (by decide) (by decide) (by decide)).2.2.2
      ⟨by decide, by decide⟩,
    fun h => ((ofLine?_line (by decide) (by decide) (by decide) (by decide) (by decide)).2.2.1
      h).1 rfl⟩

end TestOutcome

end Stepwise
