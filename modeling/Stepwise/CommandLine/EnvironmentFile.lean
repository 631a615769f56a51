import Stepwise.CommandLine.Variables

/-!
# Environment files

An environment file holds one assignment a line.  A newline between quotes or behind a backslash
does not end a line, and neither does one behind a blank that is the last character of the file; so
lines are put together before they are read.  A line that cannot be read, or that does not end, ends
the file.

Main definitions:

* `EnvironmentFile.lines`: the lines of a file;
* `Variables.extend`: the variables with those of an environment file.

A variable that is known keeps its value (`value?_extend`).
-/

namespace Stepwise

namespace EnvironmentFile

/-! ## 1. Lines -/

/-- What a line is in the middle of. -/
inductive Quoting where
  /-- Of nothing: it may end here. -/
  | none
  /-- Behind a backslash outside of quotes. -/
  | escaped
  /-- Behind a blank, where a comment may begin. -/
  | spaced
  /-- Between quotes, perhaps behind a backslash. -/
  | quoted (mark : Char) (escaped : Bool)
  deriving DecidableEq, Repr

/-- What a character outside of quotes begins. -/
def Quoting.begin (c : Char) : Quoting :=
  if c = '\\' then .escaped
  else if c = '"' ∨ c = '\'' then .quoted c false
  else .none

/-- What a line is in the middle of behind one more character; nothing is the answer before a
comment. -/
def Quoting.next? (q : Quoting) (c : Char) : Option Quoting :=
  match q with
  | .none =>
    some (if Text.isBlank c && c != '\n' && c != '\r' then .spaced else .begin c)
  | .escaped => some .none
  | .spaced => if c = '#' then Option.none else some (.begin c)
  | .quoted mark true => some (.quoted mark false)
  | .quoted mark false =>
    some (if c = '\\' then .quoted mark true else if c = mark then .none else .quoted mark false)

/-- The text up to a comment, and what its end is in the middle of if there is no comment. -/
def Quoting.scan (q : Quoting) : Text → Text × Option Quoting
  | [] => ([], some q)
  | c :: t =>
    match q.next? c with
    | Option.none => ([], Option.none)
    | some q =>
      let (head, last?) := q.scan t
      (c :: head, last?)

/-- The parts of a text that end with newlines, and the rest if there is one. -/
def rows (t : Text) : List Text :=
  match Text.breakLines t with
  | (full, []) => full.map (· ++ ['\n'])
  | (full, rest) => full.map (· ++ ['\n']) ++ [rest]

/-- Puts rows together to lines, behind what is read of the first line.  What does not end is left
out. -/
def assemble (sofar : Text) (q : Quoting) : List Text → List Text
  | [] => []
  | row :: more =>
    if (Text.trimStart (sofar ++ row)).head? = some '#' then assemble [] .none more
    else
      match q.scan row with
      | (head, Option.none) => (sofar ++ head) :: assemble [] .none more
      | (_, some .none) => (sofar ++ row) :: assemble [] .none more
      | (_, some q) => assemble (sofar ++ row) q more

/-- The mark that may stand in front of a file. -/
def byteOrderMark : Char := '\ufeff'

/-- The lines of a file. -/
def lines (file : Text) : List Text :=
  assemble [] .none (rows (if file.head? = some byteOrderMark then file.tail else file))

end EnvironmentFile

/-! ## 2. Loading -/

namespace Variables

/-- The variables after lines, up to one that cannot be read. -/
def addLines (known : Variables) : List Text → Variables
  | [] => known
  | line :: lines =>
    match known.assign? line with
    | none => known
    | some known => addLines known lines

/-- The variables with those of an environment file. -/
def extend (known : Variables) (file : Text) : Variables :=
  known.addLines (EnvironmentFile.lines file)

theorem value?_addLines {known : Variables} {name value : Text} (lines : List Text)
    (h : known.value? name = some value) : (known.addLines lines).value? name = some value := by
  induction lines generalizing known with
  | nil => exact h
  | cons line lines ih =>
    unfold addLines
    split
    · exact h
    · next next hn => exact ih (value?_assign? h hn)

/-- A file changes no variable that is known. -/
theorem value?_extend {known : Variables} {name value : Text} (file : Text)
    (h : known.value? name = some value) : (known.extend file).value? name = some value :=
  value?_addLines _ h

end Variables

end Stepwise
