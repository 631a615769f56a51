import Stepwise.Text.Basic

/-!
# Blanks

Blank characters are the characters with the property White_Space, and trimming removes them from
the ends of a text.
-/

namespace Stepwise.Text

/-- Whether a character has the property White_Space. -/
def isBlank (c : Char) : Bool :=
  let n := c.toNat
  (9 ≤ n && n ≤ 13) || n == 0x20 || n == 0x85 || n == 0xA0 || n == 0x1680 ||
    (0x2000 ≤ n && n ≤ 0x200A) || n == 0x2028 || n == 0x2029 || n == 0x202F || n == 0x205F ||
    n == 0x3000

/-- The text from its first character that is not blank. -/
def trimStart (t : Text) : Text := t.dropWhile isBlank

/-- The text up to its last character that is not blank. -/
def trimEnd (t : Text) : Text := (t.reverse.dropWhile isBlank).reverse

/-- The text without the blanks at its ends. -/
def trim (t : Text) : Text := trimEnd (trimStart t)

/-- Whether the text holds nothing but blanks. -/
def blank (t : Text) : Bool := t.all isBlank

/-- The text before and behind its first blank. -/
def cutBlank? : Text → Option (Text × Text)
  | [] => none
  | c :: t =>
    if isBlank c then some ([], t)
    else (cutBlank? t).map fun (head, rest) => (c :: head, rest)

end Stepwise.Text
