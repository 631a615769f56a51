import Stepwise.Text.Blank
import Stepwise.Text.Word

/-!
# Environment variables

A program is given variables, and more of them are assigned in its environment file.  A value may be
quoted, may hold escapes, and may mention other variables.

Main definitions:

* `Variables.readValue?`: reads the value behind an equals sign;
* `Variables.assign?`: the variables after a line with an assignment;
* `Variables.arePassable`: whether programs can be given them.

A variable that is known keeps its value (`value?_assign?`).
-/

namespace Stepwise

/-- Variables with their values; the first of a name counts. -/
abbrev Variables := List (Text × Text)

namespace Variables

/-- The value of a variable. -/
def value? (v : Variables) (name : Text) : Option Text := v.lookup name

/-- The value that stands for a variable: an unknown one is empty. -/
def substitute (v : Variables) (name : Text) : Text := (v.value? name).getD []

/-! ## 1. Values -/

/-- Where the reader of a value stands. -/
inductive ValueState where
  | plain
  | escaped (doubled : Bool)
  /-- Between single quotes, where every character stands for itself. -/
  | single
  /-- Between double quotes. -/
  | double
  /-- In a name behind a dollar sign, inside or outside of double quotes. -/
  | name (doubled : Bool) (sofar : Text)
  /-- In a name in braces. -/
  | braced (doubled : Bool) (sofar : Text)
  /-- Behind the value, where only a comment may follow. -/
  | closed
  deriving DecidableEq, Repr

/-- The state after a name, inside or outside of double quotes. -/
def ValueState.back (doubled : Bool) : ValueState := if doubled then .double else .plain

/-- What a backslash and a character stand for. -/
def escape? : Char → Option Char
  | 'n' => some '\n'
  | c => if "\\'\"$ ".toList.contains c then some c else none

/-- Reads the value behind an equals sign. -/
def readValue? (known : Variables) : ValueState → Text → Option Text
  | .plain, [] | .closed, [] | .escaped false, [] => some []
  | .name false sofar, [] => some (known.substitute sofar)
  | _, [] => none
  | state, c :: t =>
    let give (text : Text) (next : ValueState) := (readValue? known next t).map (text ++ ·)
    match state with
    | .closed =>
      if c = ' ' ∨ c = '\t' then readValue? known .closed t else if c = '#' then some [] else none
    | .escaped doubled =>
      match escape? c with
      | some e => give [e] (.back doubled)
      | none => none
    | .single => if c = '\'' then readValue? known .plain t else give [c] .single
    | .name doubled sofar =>
      if Text.isLetter c then readValue? known (.name doubled (sofar ++ [c])) t
      else if c = '\x7b' ∧ sofar = [] then readValue? known (.braced doubled []) t
      else if c = '$' then give (known.substitute sofar) (.name doubled [])
      else give (known.substitute sofar ++ [c]) (.back doubled)
    | .braced doubled sofar =>
      if c = '\x7d' then give (known.substitute sofar) (.back doubled)
      else readValue? known (.braced doubled (sofar ++ [c])) t
    | .double =>
      if c = '$' then readValue? known (.name true []) t
      else if c = '"' then readValue? known .plain t
      else if c = '\\' then readValue? known (.escaped true) t
      else give [c] .double
    | .plain =>
      if c = '$' then readValue? known (.name false []) t
      else if c = '\'' then readValue? known .single t
      else if c = '"' then readValue? known .double t
      else if c = '\\' then readValue? known (.escaped false) t
      else if c = ' ' ∨ c = '\t' then readValue? known .closed t
      else give [c] .plain

/-! ## 2. Assignments -/

/-- Whether a character may stand in a name. -/
def isNameChar (c : Char) : Bool := c.isAlphanum || c == '_' || c == '.'

/-- The name at the beginning of a line, and the rest without the blanks before it. -/
def name? (t : Text) : Option (Text × Text) :=
  match t with
  | c :: _ =>
    if c.isAlpha ∨ c = '_' then
      some (t.takeWhile isNameChar, Text.trimStart (t.dropWhile isNameChar))
    else none
  | [] => none

/-- The name and the text behind the equals sign; the word `export` may stand in front. -/
def assignment? (t : Text) : Option (Text × Text) := do
  let (name, rest) ← name? t
  match rest with
  | '=' :: rest => return (name, Text.trimStart rest)
  | _ =>
    guard (name = "export".toList)
    let (name, rest) ← name? (Text.trimStart rest)
    match rest with
    | '=' :: rest => return (name, Text.trimStart rest)
    | _ => none

/-- Whether nothing is left of a line but a comment. -/
def isBare (t : Text) : Bool := t.isEmpty || t.head? == some '#'

/-- The variables with one more, unless it is known already. -/
def define (known : Variables) (name value : Text) : Variables :=
  if (known.value? name).isSome then known else known ++ [(name, value)]

/-- The variables after a line. -/
def assign? (known : Variables) (line : Text) : Option Variables :=
  let line := Text.trim line
  if isBare line then some known
  else
    match assignment? line with
    | none => none
    | some (name, rest) =>
      (if isBare rest then some [] else readValue? known .plain rest).map (known.define name)

/-- Whether programs can be given the variables: no value holds the character that ends it. -/
def arePassable (v : Variables) : Bool := v.all fun (_, value) => !value.contains '\x00'

/-- A further variable changes none that is known. -/
theorem value?_define {known : Variables} {name value : Text} (h : known.value? name = some value)
    (name' value' : Text) : (known.define name' value').value? name = some value := by
  unfold define
  split
  · exact h
  · simp_all [value?, List.lookup_append]

/-- What is known already keeps its value. -/
theorem value?_assign? {known next : Variables} {line name value : Text}
    (h : known.value? name = some value) (ha : known.assign? line = some next) :
    next.value? name = some value := by
  unfold assign? at ha
  dsimp only at ha
  split at ha
  · cases ha
    exact h
  · split at ha
    · simp at ha
    · obtain ⟨v, _, rfl⟩ := Option.map_eq_some_iff.1 ha
      exact value?_define h _ _

end Variables

end Stepwise
