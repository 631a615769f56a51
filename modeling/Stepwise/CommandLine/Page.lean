import Stepwise.Text.Control

/-!
# Pages

A page is text in which words stand out.  A terminal is told so by control sequences around the
words; where there is no terminal, what a page shows is all that is left of it.

Main definitions:

* `Page.table`: rows of two columns;
* `Page.marked`, `Page.shown`: the text of a page with and without control sequences.
-/

namespace Stepwise

/-- How words stand out. -/
inductive Emphasis where
  | none
  /-- Words that are typed as they stand. -/
  | literal
  /-- Titles. -/
  | title
  deriving DecidableEq, Repr

/-- Words with what makes them stand out. -/
structure Phrase where
  emphasis : Emphasis
  text : Text
  deriving DecidableEq, Repr

/-- A page. -/
abbrev Page := List Phrase

namespace Page

/-- Words that do not stand out. -/
def plain (t : Text) : Page := [⟨.none, t⟩]

/-- Words that are typed as they stand. -/
def literal (t : Text) : Page := [⟨.literal, t⟩]

/-- A title. -/
def title (t : Text) : Page := [⟨.title, t⟩]

/-- The number of characters, control sequences left out. -/
def width (p : Page) : Nat := (p.flatMap (·.text)).length

/-! ## 1. Columns -/

/-- A row of blanks. -/
def blanks (n : Nat) : Text := List.replicate n ' '

/-- A text whose lines after the first one begin with a margin. -/
def hang (margin : Nat) (t : Text) : Text :=
  t.flatMap fun c => if c = '\n' then c :: blanks margin else [c]

/-- Rows of a label and a description, the descriptions below each other. -/
def table (rows : List (Page × Text)) : Page :=
  let column := (rows.map (·.1.width)).foldl Nat.max 0 + 4
  rows.flatMap fun (label, description) =>
    plain "  " ++ label ++ plain (blanks (column - 2 - label.width) ++ hang column description)
      ++ plain "\n"

/-! ## 2. Writing -/

/-- The control sequence that sets attributes of what follows. -/
def attributes (t : Text) : Text := Control.escape :: '[' :: t ++ ['m']

/-- A phrase between the control sequences that make it stand out. -/
def mark (s : Phrase) : Text :=
  match s.emphasis with
  | .none => s.text
  | .literal => attributes "1" ++ s.text ++ attributes "0"
  | .title => attributes "1" ++ attributes "4" ++ s.text ++ attributes "0"

/-- The text of a page with its control sequences. -/
def marked (p : Page) : Text := p.flatMap mark

/-- What a page shows. -/
def shown (p : Page) : Text := p.marked.shown

end Page

end Stepwise
