import Stepwise.Toolchain.Tool.Bracket

/-!
# Patterns

A pattern describes texts: a star stands for any text, a question mark for any character, and a
bracket expression for a character of a set.  A quoted character stands for itself.

Main definitions:

* `Glob.ofGlyphs`: reads a pattern;
* `Glob.holds`: whether a text is one of those that are described.

A pattern without marks describes its own text and no other (`holds_exactly`).
-/

namespace Stepwise.Glob

/-- A part of a pattern. -/
inductive Part where
  /-- Any text. -/
  | many
  /-- A character of a set. -/
  | one (set : Bracket)
  deriving DecidableEq, Repr

/-- Any character. -/
def Part.any : Part := .one { negated := true }

/-- A character. -/
def Part.exactly (c : Char) : Part := .one (.single c)

/-- Reads the parts of a pattern; an opening bracket that nothing closes stands for itself. -/
def partsOf : (fuel : Nat) → List Glyph → List Part
  | 0, _ | _, [] => []
  | fuel + 1, g :: t =>
    if g.isMark '*' then .many :: partsOf fuel t
    else if g.isMark '?' then .any :: partsOf fuel t
    else
      match if g.isMark '[' then Bracket.read? '!' t else none with
      | some (set, rest) => .one set :: partsOf fuel rest
      | none => .exactly g.char :: partsOf fuel t

/-- Reads a pattern. -/
def ofGlyphs (t : List Glyph) : List Part := partsOf t.length t

/-- The ends of a text, the longest first. -/
def ends : Text → List Text
  | [] => [[]]
  | c :: t => (c :: t) :: ends t

/-- Whether a text is one of those that a pattern describes. -/
def holds : List Part → Text → Bool
  | [], t => t.isEmpty
  | .many :: parts, t => (ends t).any (holds parts)
  | .one _ :: _, [] => false
  | .one set :: parts, c :: t => set.holds c && holds parts t

/-- The characters of a text describe that text and no other. -/
theorem holds_exactly (s t : Text) : holds (s.map .exactly) t = true ↔ t = s := by
  induction s generalizing t with
  | nil => cases t <;> simp [holds]
  | cons c s ih =>
    cases t with
    | nil => simp [holds, Part.exactly]
    | cons d t =>
      rw [List.map_cons, Part.exactly, holds, Bool.and_eq_true, ih, Bracket.holds_single,
        beq_iff_eq, List.cons.injEq]
      exact ⟨fun h => ⟨h.1.symm, h.2⟩, fun h => ⟨h.1.symm, h.2⟩⟩

/-- A star describes every text. -/
theorem holds_many (t : Text) : holds [.many] t = true := by
  rw [holds, List.any_eq_true]
  refine ⟨[], ?_, rfl⟩
  induction t with
  | nil => exact List.mem_singleton_self _
  | cons c t ih => exact List.mem_cons_of_mem _ ih

end Stepwise.Glob
