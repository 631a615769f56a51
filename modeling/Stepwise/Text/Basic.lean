/-!
# Texts

A text is a list of characters, so that every function on it is a recursion on its data.  This
module holds the operations the rest of the library reads and writes text with: looking for a
mark, cutting at one, splitting at a separator, joining, and taking a stream apart into lines.

Main definitions:

* `Text.cut?`, `Text.cutLast?`: the text around the first or last occurrence of a mark;
* `Text.fields`, `Text.pieces`: the parts between separators, and the non-empty ones of them;
* `Text.join`: parts with a separator between them, which undoes `fields` (`join_fields`);
* `Text.breakLines`: the finished lines of a stream and the unfinished rest, which lose no
  character (`unbreakLines_breakLines`).
-/

namespace Stepwise

/-- A text: its characters in order. -/
abbrev Text := List Char

/-- String literals may stand where a text is wanted. -/
scoped instance : Coe String Text := ⟨String.toList⟩

namespace Text

/-- The text as a string, for the outside. -/
def toString (t : Text) : String := String.ofList t

/-! ## 1. Marks inside a text -/

/-- The text behind `mark` if the text begins with it. -/
def after? (mark : Text) (t : Text) : Option Text :=
  match mark, t with
  | [], t => some t
  | _ :: _, [] => none
  | m :: mark, c :: t => if m = c then after? mark t else none

/-- The text before `mark` if the text ends with it. -/
def before? (mark : Text) (t : Text) : Option Text :=
  (after? mark.reverse t.reverse).map List.reverse

/-- The text before and behind the first occurrence of `mark`. -/
def cut? (mark : Text) : Text → Option (Text × Text)
  | [] => (after? mark []).map fun rest => ([], rest)
  | c :: t =>
    match after? mark (c :: t) with
    | some rest => some ([], rest)
    | none => (cut? mark t).map fun (head, rest) => (c :: head, rest)

/-- The text before and behind the last occurrence of `mark`. -/
def cutLast? (mark : Text) : Text → Option (Text × Text)
  | [] => (after? mark []).map fun rest => ([], rest)
  | c :: t =>
    match cutLast? mark t with
    | some (head, rest) => some (c :: head, rest)
    | none => (after? mark (c :: t)).map fun rest => ([], rest)

/-- Whether `mark` occurs in the text. -/
def mentions (mark : Text) (t : Text) : Bool := (cut? mark t).isSome

theorem after?_append (mark t : Text) : after? mark (mark ++ t) = some t := by
  induction mark with
  | nil => cases t <;> rfl
  | cons m mark ih => simp [after?, ih]

/-- What stands behind a mark is the text less the mark. -/
theorem eq_append_of_after? {mark t rest : Text} (h : after? mark t = some rest) :
    t = mark ++ rest := by
  induction mark generalizing t with
  | nil => cases t <;> simp_all [after?]
  | cons m mark ih =>
    cases t with
    | nil => simp [after?] at h
    | cons c t =>
      by_cases hc : m = c
      · simp [after?, hc] at h
        simp [hc, ih h]
      · simp [after?, hc] at h

/-- A cut loses nothing but the mark. -/
theorem eq_append_of_cut? {mark t head rest : Text} (h : cut? mark t = some (head, rest)) :
    t = head ++ mark ++ rest := by
  induction t generalizing head with
  | nil =>
    simp only [cut?, Option.map_eq_some_iff, Prod.mk.injEq] at h
    obtain ⟨r, hr, rfl, rfl⟩ := h
    simpa using eq_append_of_after? hr
  | cons c t ih =>
    simp only [cut?] at h
    split at h
    · next r hr =>
      obtain ⟨rfl, rfl⟩ := by simpa using h
      simpa using eq_append_of_after? hr
    · obtain ⟨⟨a, b⟩, hr, hab⟩ := Option.map_eq_some_iff.1 h
      obtain ⟨rfl, rfl⟩ := by simpa using hab
      simp [ih hr]

/-! ## 2. Separators -/

/-- The parts between the characters for which `isMark` holds: one more than there are such
characters. -/
def splitBy (isMark : Char → Bool) : Text → List Text
  | [] => [[]]
  | c :: t =>
    match splitBy isMark t with
    | [] => [[c]]
    | part :: parts => if isMark c then [] :: part :: parts else (c :: part) :: parts

/-- The parts between the occurrences of the character `mark`. -/
def fields (mark : Char) (t : Text) : List Text := splitBy (· == mark) t

/-- The non-empty parts between the characters for which `isMark` holds. -/
def pieces (isMark : Char → Bool) (t : Text) : List Text :=
  (splitBy isMark t).filter fun part => !part.isEmpty

/-- The texts in order with `mark` between them. -/
def join (mark : Text) : List Text → Text
  | [] => []
  | [t] => t
  | t :: ts => t ++ mark ++ join mark ts

theorem splitBy_ne_nil (isMark : Char → Bool) (t : Text) : splitBy isMark t ≠ [] := by
  cases t with
  | nil => simp [splitBy]
  | cons c t =>
    simp only [splitBy]
    split
    · simp
    · split <;> simp

/-- Joining takes a splitting back. -/
theorem join_fields (mark : Char) (t : Text) : join [mark] (fields mark t) = t := by
  unfold fields
  induction t with
  | nil => rfl
  | cons c t ih =>
    simp only [splitBy]
    split
    · next h => exact absurd h (splitBy_ne_nil _ t)
    · next part parts h =>
      rw [h] at ih
      by_cases hc : c = mark
      · simp [hc, join, ih]
      · simp only [beq_iff_eq, hc, if_false]
        rw [← ih]
        cases parts <;> simp [join]

/-! ## 3. Lines -/

/-- The finished lines of a stream, without their newlines, and the unfinished rest. -/
def breakLines : Text → List Text × Text
  | [] => ([], [])
  | c :: t =>
    match breakLines t with
    | (lines, rest) =>
      if c = '\n' then ([] :: lines, rest)
      else match lines with
        | [] => ([], c :: rest)
        | line :: lines => ((c :: line) :: lines, rest)

/-- Lines and rest written out again. -/
def unbreakLines (lines : List Text) (rest : Text) : Text :=
  lines.flatMap (· ++ ['\n']) ++ rest

/-- Breaking a stream into lines loses no character. -/
theorem unbreakLines_breakLines (t : Text) :
    unbreakLines (breakLines t).1 (breakLines t).2 = t := by
  induction t with
  | nil => rfl
  | cons c t ih =>
    simp only [breakLines]
    generalize breakLines t = p at ih
    obtain ⟨lines, rest⟩ := p
    simp only [unbreakLines] at ih ⊢
    by_cases hc : c = '\n'
    · simp [hc, ← ih]
    · cases lines with
      | nil => simp [hc, ← ih]
      | cons line lines => simp [hc, ← ih]

/-- The line without one carriage return at its end. -/
def dropReturn (line : Text) : Text := (before? ['\r'] line).getD line

/-- The lines of a whole text: a last line need not be finished, and a carriage return before a
newline belongs to it. -/
def lines (t : Text) : List Text :=
  match breakLines t with
  | (full, []) => full.map dropReturn
  | (full, rest) => full.map dropReturn ++ [rest]

/-- The text filled up with blanks on the left to `width` characters. -/
def padLeft (width : Nat) (t : Text) : Text := List.replicate (width - t.length) ' ' ++ t

end Text

end Stepwise
