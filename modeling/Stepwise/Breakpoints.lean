import Stepwise.Text.Blank
import Stepwise.Text.Numeral

/-!
# Breakpoints

A line set holds 1-based source lines in ascending order.  It is written as a list with commas and
read from a list of lines and inclusive ranges between commas or blanks, such as `3,7-9 12`.

Main definitions: `LineSet.text`, `LineSet.parse` and `LineSet.toggle` (`BreakpointSet`, `fmt`,
`from_str` with `parse_line`, and `toggle`).
-/

namespace Stepwise

/-- A finite set of source lines. -/
structure LineSet where
  /-- The lines of the set. -/
  lines : List Nat
  /-- The lines ascend, so no line is held twice. -/
  ascending : lines.Pairwise (· < ·) := by simp
  deriving DecidableEq

namespace LineSet

/-- The set without lines. -/
def empty : LineSet := { lines := [] }

/-- Whether the program stops at the line. -/
def hits (s : LineSet) (line : Nat) : Bool := s.lines.contains line

/-- Two ascending lists as one. -/
def merge : List Nat → List Nat → List Nat
  | [], ys => ys
  | x :: xs, [] => x :: xs
  | x :: xs, y :: ys =>
    if x < y then x :: merge xs (y :: ys)
    else if y < x then y :: merge (x :: xs) ys
    else x :: merge xs ys

/-- A merged list holds the members of both lists. -/
theorem mem_merge {n : Nat} (xs ys : List Nat) : n ∈ merge xs ys ↔ n ∈ xs ∨ n ∈ ys := by
  fun_induction merge xs ys with
  | case1 ys => simp
  | case2 x xs => simp
  | case3 x xs y ys _ ih =>
    simp only [List.mem_cons, ih]
    grind
  | case4 x xs y ys _ _ ih =>
    simp only [List.mem_cons, ih]
    grind
  | case5 x xs y ys _ _ ih =>
    simp only [List.mem_cons, ih]
    grind

/-- Merging keeps the ascending order. -/
theorem merge_ascending (xs ys : List Nat) (hx : xs.Pairwise (· < ·)) (hy : ys.Pairwise (· < ·)) :
    (merge xs ys).Pairwise (· < ·) := by
  fun_induction merge xs ys with
  | case1 ys => exact hy
  | case2 x xs => exact hx
  | case3 x xs y ys hxy ih =>
    rw [List.pairwise_cons] at hx ⊢
    refine ⟨fun n hn => ?_, ih hx.2 hy⟩
    rcases (mem_merge _ _).1 hn with h | h
    · exact hx.1 n h
    · rw [List.pairwise_cons] at hy
      rcases List.mem_cons.1 h with rfl | h
      · exact hxy
      · exact Nat.lt_trans hxy (hy.1 n h)
  | case4 x xs y ys hxy hyx ih =>
    rw [List.pairwise_cons] at hy ⊢
    refine ⟨fun n hn => ?_, ih hx hy.2⟩
    rcases (mem_merge _ _).1 hn with h | h
    · rw [List.pairwise_cons] at hx
      rcases List.mem_cons.1 h with rfl | h
      · exact hyx
      · exact Nat.lt_trans hyx (hx.1 n h)
    · exact hy.1 n h
  | case5 x xs y ys hxy hyx ih =>
    rw [List.pairwise_cons] at hx hy ⊢
    refine ⟨fun n hn => ?_, ih hx.2 hy.2⟩
    have heq : x = y := by omega
    rcases (mem_merge _ _).1 hn with h | h
    · exact hx.1 n h
    · exact heq ▸ hy.1 n h

/-- The lines of either set. -/
def union (s t : LineSet) : LineSet :=
  ⟨merge s.lines t.lines, merge_ascending _ _ s.ascending t.ascending⟩

/-- The set of one line. -/
def singleton (line : Nat) : LineSet := ⟨[line], by simp⟩

/-- The set with a line added. -/
def insert (s : LineSet) (line : Nat) : LineSet := s.union (singleton line)

/-- The set with a line taken out. -/
def erase (s : LineSet) (line : Nat) : LineSet :=
  ⟨s.lines.filter (· ≠ line), s.ascending.filter _⟩

/-- The set of the lines of a list. -/
def ofList (lines : List Nat) : LineSet := lines.foldl insert empty

/-- The set of a list holds the lines of the list. -/
theorem mem_ofList {n : Nat} (lines : List Nat) : n ∈ (ofList lines).lines ↔ n ∈ lines := by
  have hfold : ∀ s : LineSet, n ∈ (lines.foldl insert s).lines ↔ n ∈ s.lines ∨ n ∈ lines := by
    induction lines with
    | nil => simp
    | cons line lines ih =>
      intro s
      rw [List.foldl_cons, ih, List.mem_cons, ← or_assoc]
      exact or_congr_left ((mem_merge _ _).trans (or_congr_right List.mem_singleton))
  exact (hfold empty).trans (or_iff_right List.not_mem_nil)

/-- The lines from `first` to `last`, ends included. -/
def range (first last : Nat) : LineSet :=
  ⟨List.range' first (last + 1 - first), List.pairwise_lt_range'⟩

/-- The set with the membership of one line turned round. -/
def toggle (s : LineSet) (line : Nat) : LineSet :=
  if s.hits line then s.erase line else s.insert line

/-- The lines with commas between them. -/
def text (s : LineSet) : Text := Text.join "," (s.lines.map Text.ofNat)

/-- Why a text is no list of lines. -/
inductive ParseError where
  /-- A piece is no number. -/
  | badNumber (piece : Text) (error : Text.NumeralError)
  /-- A piece names line 0. -/
  | lineZero
  /-- A range ends before it starts. -/
  | badRange (piece : Text)
  deriving DecidableEq, Repr

/-- The wording of a parse error. -/
def ParseError.message : ParseError → Text
  | .badNumber piece error => "Invalid line number '" ++ piece ++ "': " ++ error.message
  | .lineZero => "Line numbers start at 1"
  | .badRange piece => "Invalid line range: " ++ piece

/-- Lines are 32-bit numbers. -/
def lineBound : Nat := UInt32.size

/-- Reads one line number. -/
def parseLine (t : Text) : Except ParseError Nat :=
  match Text.readNat lineBound t.trim with
  | .error e => .error (.badNumber t e)
  | .ok 0 => .error .lineZero
  | .ok line => .ok line

/-- Reads a line, or two lines with a dash between them. -/
def parsePiece (piece : Text) : Except ParseError LineSet := do
  match Text.cut? "-" piece with
  | none => return singleton (← parseLine piece)
  | some (first, last) =>
    let first ← parseLine first
    let last ← parseLine last
    if first ≤ last then return range first last else throw (.badRange piece)

/-- Whether a character separates the pieces of a list. -/
def isSeparator (c : Char) : Bool := c == ',' || Text.isBlank c

/-- Reads a list of lines and ranges. -/
def parse (t : Text) : Except ParseError LineSet :=
  (t.pieces isSeparator).foldlM (fun s piece => return s.union (← parsePiece piece)) empty

end LineSet

end Stepwise
