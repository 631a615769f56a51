import Stepwise.Text.Basic

/-!
# Bracket expressions

A bracket expression stands for one character out of a set: characters, ranges of them and named
classes between brackets, or all others if a mark stands in front.

Main definitions:

* `Bracket.read?`: reads an expression from behind its opening bracket;
* `Bracket.holds`: whether a character is in the set.

A character of an expression may be quoted, and then stands for itself only.
-/

namespace Stepwise

/-- Whether a character belongs to a named class of ASCII. -/
def inClass (name : Text) (c : Char) : Bool :=
  match String.ofList name with
  | "alpha" => c.isAlpha
  | "digit" => c.isDigit
  | "alnum" => c.isAlphanum
  | "upper" => c.isUpper
  | "lower" => c.isLower
  | "space" => c == ' ' || (9 ≤ c.toNat && c.toNat ≤ 13)
  | "blank" => c == ' ' || c == '\t'
  | "punct" => 33 ≤ c.toNat && c.toNat ≤ 126 && !c.isAlphanum
  | "cntrl" => c.toNat < 32 || c.toNat == 127
  | "print" => 32 ≤ c.toNat && c.toNat ≤ 126
  | "graph" => 33 ≤ c.toNat && c.toNat ≤ 126
  | "xdigit" => c.isDigit || ('a' ≤ c && c ≤ 'f') || ('A' ≤ c && c ≤ 'F')
  | _ => false

/-- A character of a text in which some characters have a meaning; a quoted one has none. -/
structure Glyph where
  char : Char
  quoted : Bool := false
  deriving DecidableEq, Repr

namespace Glyph

/-- Whether a character is there with its meaning. -/
def isMark (g : Glyph) (c : Char) : Bool := g.char == c && !g.quoted

/-- The characters of a text, with or without their meaning. -/
def ofText (quoted : Bool) (t : Text) : List Glyph := t.map fun char => { char, quoted }

/-- The text that is written. -/
def toText (glyphs : List Glyph) : Text := glyphs.map (·.char)

/-- Whether a character of a text has a meaning in patterns. -/
def isPattern (t : List Glyph) : Bool :=
  t.any fun g => g.isMark '*' || g.isMark '?' || g.isMark '['

/-- The name of a class at the front of a text, and what stands behind it. -/
def className? (t : List Glyph) : Option (Text × List Glyph) :=
  match t with
  | o :: c :: t =>
    let name := t.takeWhile (·.char.isAlpha)
    match t.drop name.length with
    | c' :: o' :: rest =>
      if o.isMark '[' && c.isMark ':' && c'.isMark ':' && o'.isMark ']' then
        some (toText name, rest)
      else none
    | _ => none
  | _ => none

/-- The characters of a text are its characters, whether they have a meaning or not. -/
theorem toText_ofText (quoted : Bool) (t : Text) : toText (ofText quoted t) = t := by
  simp [toText, ofText, Function.comp_def]

end Glyph

/-- A part of a bracket expression. -/
inductive BracketItem where
  /-- All characters from one to another. -/
  | range (first last : Char)
  | named (name : Text)
  deriving DecidableEq, Repr

/-- A bracket expression. -/
structure Bracket where
  /-- Whether it stands for all other characters. -/
  negated : Bool := false
  items : List BracketItem := []
  deriving DecidableEq, Repr

namespace Bracket

/-- Whether a part of an expression has a character. -/
def itemHolds (c : Char) : BracketItem → Bool
  | .range first last => first ≤ c && c ≤ last
  | .named name => inClass name c

/-- Whether a character is in the set. -/
def holds (b : Bracket) (c : Char) : Bool := b.items.any (itemHolds c) != b.negated

/-- The expression of one character. -/
def single (c : Char) : Bracket := { items := [.range c c] }

/-- Reads items up to the closing bracket, which is an item itself if it stands first. -/
def items? : (fuel : Nat) → (first : Bool) → List Glyph → Option (List BracketItem × List Glyph)
  | 0, _, _ | _, _, [] => none
  | fuel + 1, first, g :: t =>
    let go (item : BracketItem) (t : List Glyph) : Option (List BracketItem × List Glyph) :=
      (items? fuel false t).map fun (items, rest) => (item :: items, rest)
    if g.isMark ']' ∧ !first then some ([], t)
    else
      match Glyph.className? (g :: t) with
      | some (name, rest) => go (.named name) rest
      | none =>
        match t with
        | dash :: last :: rest =>
          if dash.isMark '-' ∧ !last.isMark ']' then go (.range g.char last.char) rest
          else go (.range g.char g.char) t
        | t => go (.range g.char g.char) t

/-- Reads an expression from behind its opening bracket; `mark` is the mark for all others. -/
def read? (mark : Char) (t : List Glyph) : Option (Bracket × List Glyph) :=
  let negated := t.head?.any (·.isMark mark)
  let t := if negated then t.tail else t
  (items? t.length true t).map fun (items, rest) => ({ negated, items }, rest)

/-- The expression of one character has that character and no other. -/
theorem holds_single (a c : Char) : (single a).holds c = (a == c) := by
  simp only [single, holds, List.any_cons, List.any_nil, itemHolds, Bool.or_false, Bool.bne_false]
  rw [Bool.eq_iff_iff, Bool.and_eq_true, decide_eq_true_eq, decide_eq_true_eq, beq_iff_eq]
  exact ⟨fun h => Char.le_antisymm h.1 h.2, fun h => h ▸ ⟨Char.le_refl a, Char.le_refl a⟩⟩

end Bracket

end Stepwise
