import Stepwise.Toolchain.Shell.Arithmetic
import Stepwise.Toolchain.Shell.State
import Stepwise.Toolchain.Tool.Basic
import Stepwise.Toolchain.Tool.Glob

/-!
# Expanding words

The pieces of a word are replaced by what they stand for.  Values that are not quoted fall into
fields, and a field that is a pattern is replaced by the places it describes.

Main definitions:

* `expand`: what the pieces of a word stand for;
* `split`: the fields of that;
* `places`: the places that a pattern describes;
* `fieldsOf`, `textOf`: a word as fields, and as one text.
-/

namespace Stepwise.Shell

/-! ## 1. Fields -/

/-- A part of what a word stands for. -/
inductive Part where
  /-- Characters that stay together. -/
  | whole (glyphs : List Glyph)
  /-- A value that falls into fields. -/
  | loose (t : Text)
  /-- A border between fields. -/
  | border
  deriving DecidableEq, Repr

/-- Fields that are complete, and the one under way. -/
structure Fields where
  complete : List (List Glyph) := []
  current : Option (List Glyph) := none
  /-- Whether a blank has just ended a field, so that a mark behind it ends no other one. -/
  blankBefore : Bool := false
  deriving DecidableEq, Repr

namespace Fields

/-- Adds characters to the field under way. -/
def add (f : Fields) (glyphs : List Glyph) : Fields :=
  { f with current := some (f.current.getD [] ++ glyphs), blankBefore := false }

/-- Ends the field under way, if there is one. -/
def close (f : Fields) : Fields :=
  { f with complete := f.complete ++ f.current.toList, current := none }

/-- Adds a character of a loose value. -/
def addLoose (separators : Text) (f : Fields) (c : Char) : Fields :=
  if !separators.contains c then f.add [{ char := c }]
  else if c = ' ' ∨ c = '\t' ∨ c = '\n' then
    { f.close with blankBefore := f.blankBefore || f.current.isSome }
  else if f.blankBefore then { f with blankBefore := false }
  else { f with complete := f.complete ++ [f.current.getD []], current := none }

/-- Adds a part. -/
def addPart (separators : Text) (f : Fields) : Part → Fields
  | .whole glyphs => f.add glyphs
  | .loose t => t.foldl (addLoose separators) f
  | .border => { f.close with blankBefore := false }

end Fields

/-- The fields of the parts of a word. -/
def split (separators : Text) (parts : List Part) : List (List Glyph) :=
  (parts.foldl (Fields.addPart separators) {}).close.complete

/-- The characters of the parts of a word as one field. -/
def unsplit (parts : List Part) : List Glyph :=
  parts.flatMap fun
    | .whole glyphs => glyphs
    | .loose t => Glyph.ofText false t
    | .border => [{ char := ' ', quoted := true }]

/-- The bytes of characters as characters of their own: patterns look at bytes. -/
def Glyph.bytewise (t : List Glyph) : List Glyph :=
  t.flatMap fun g => Glyph.ofText g.quoted (Tool.bytewise [g.char])

/-! ## 2. Places -/

/-- The components of a spelling: what stands between its slashes. -/
def components (t : List Glyph) : List (List Glyph) :=
  t.foldr (fun g parts =>
    match parts with
    | [] => [[g]]
    | first :: rest => if g.char = '/' then [] :: first :: rest else (g :: first) :: rest) [[]]

/-- The places that components describe behind a spelling that is fixed. -/
def placesFrom (files : FileTree) : (before : Text) → List (List Glyph) → List Text
  | before, [] => [before]
  | before, component :: rest =>
    let behind (name : Text) : Text := before ++ name ++ if rest.isEmpty then [] else ['/']
    if Glyph.isPattern component then
      let pattern := Glob.ofGlyphs (Glyph.bytewise component)
      let directory : Text := if before.isEmpty then ['.'] else before
      let hidden : Bool := component.head?.any (·.char == '.')
      let names := match files.find directory with
        | .ok (path, .directory _) => files.namesIn path
        | _ => []
      let names := names ++ if hidden then [['.'], ['.', '.']] else []
      let fits (name : Text) : Bool :=
        (hidden || name.head? != some '.') && Glob.holds pattern (Tool.bytewise name)
      (names.filter fits).flatMap
        fun name =>
          if rest.isEmpty || files.isDirectory (before ++ name) then
            placesFrom files (behind name) rest
          else []
    else
      let name := Glyph.toText component
      if rest.isEmpty && !(files.find (before ++ name) false).toOption.isSome then []
      else placesFrom files (behind name) rest

/-- The places that a field describes; a field that describes none stands for itself. -/
def places (files : FileTree) (field : List Glyph) : List Text :=
  if !Glyph.isPattern field then [Glyph.toText field]
  else
    match (placesFrom files [] (components field)).mergeSort Tool.textLe with
    | [] => [Glyph.toText field]
    | found => found

/-! ## 3. Parameters -/

/-- A text without the part at its front that a pattern describes. -/
def trimFront (longest : Bool) (pattern : List Glob.Part) (t : Text) : Text :=
  let fits := (List.range (t.length + 1)).filter fun n => Glob.holds pattern (t.take n)
  match if longest then fits.getLast? else fits.head? with
  | some n => t.drop n
  | none => t

/-- A text without the part at its end that a pattern describes. -/
def trimEnd (longest : Bool) (pattern : List Glob.Part) (t : Text) : Text :=
  let fits := (List.range (t.length + 1)).filter fun n => Glob.holds pattern (t.drop n)
  match if longest then fits.head? else fits.getLast? with
  | some n => t.take n
  | none => t

/-- The parts of a value. -/
def valueParts (quoted : Bool) (t : Text) : List Part :=
  if quoted then [.whole (Glyph.ofText true t)] else [.loose t]

/-- The parts of all arguments. -/
def argumentParts (quoted : Bool) (arguments : List Text) : List Part :=
  (arguments.map (valueParts quoted)).intersperse [.border] |>.flatten

/-- The value of a parameter that has to have one if the options ask for it. -/
def valueOf (name : Text) : Act Text := do
  let s ← get
  match s.parameter? name with
  | some t => return t
  | none =>
    if s.has 'u' then fail (name ++ ": parameter not set") else return []

/-- The parts of a parameter. -/
def parameterParts (name : Text) (quoted : Bool) : Act (List Part) := do
  let s ← get
  if name = ['@'] ∨ name = ['*'] ∧ !quoted then return argumentParts quoted s.arguments
  else return valueParts quoted (← valueOf name)

/-- The home of a user. -/
def homeOf? (s : State) (user : Text) : Option Text :=
  if user.isEmpty then s.value? "HOME"
  else if user = "root".toList then some "/root"
  else none

/-- A word in which a tilde at the front is replaced by a home. -/
def expandHome (s : State) (w : Word) : Word :=
  match w with
  | .text ('~' :: t) false :: rest =>
    let user := t.takeWhile (· != '/')
    if user.length = t.length ∧ !rest.isEmpty then w
    else
      match homeOf? s user with
      | some home => .text home true :: .text (t.drop user.length) false :: rest
      | none => w
  | w => w

/-! ## 4. Words -/

/-- What commands print, without the newlines at its end. -/
def printedText (bytes : Bytes) : Text :=
  ((Utf8.decode (bytes.filter (· != 0))).reverse.dropWhile (· == '\n')).reverse

mutual

/-- What pieces stand for.  `run` carries commands out and gives what they print; `loose` tells
whether plain text falls into fields, too. -/
def expand (run : Command → Act Bytes) : (fuel : Nat) → (loose : Bool) → Word → Act (List Part)
  | 0, _, _ | _, _, [] => return []
  | fuel + 1, loose, piece :: pieces => do
    let parts ← expandPiece run fuel loose piece
    return parts ++ (← expand run fuel loose pieces)

/-- What a piece stands for. -/
def expandPiece (run : Command → Act Bytes) : (fuel : Nat) → (loose : Bool) → Piece →
    Act (List Part)
  | 0, _, _ => return []
  | fuel + 1, loose, piece =>
    match piece with
    | .text t quoted =>
      return if loose && !quoted then [.loose t] else [.whole (Glyph.ofText quoted t)]
    | .output commands quoted => return valueParts quoted (printedText (← run commands))
    | .arithmetic body quoted => do
      let t := Glyph.toText (unsplit (← expand run fuel false body))
      let s ← get
      match (do Arithmetic.evaluate s.value? (← Arithmetic.read t) []) with
      | .error e => fail (e.message t)
      | .ok (n, assigned) =>
        for (name, value) in assigned.reverse do assign name value
        return valueParts quoted (Arithmetic.toText n)
    | .bad => fail "Bad substitution"
    | .parameter name use quoted => do
      let s ← get
      match use with
      | .value => parameterParts name quoted
      | .length => return valueParts quoted (Text.ofNat (Spelling.size (← valueOf name)))
      | .trim atEnd longest pattern =>
        let pattern := Glob.ofGlyphs (Glyph.bytewise (unsplit (← expand run fuel false pattern)))
        let value := Tool.bytewise (← valueOf name)
        return valueParts quoted (Tool.charwise
          (if atEnd then trimEnd longest pattern value else trimFront longest pattern value))
      | .fallback kind empty word =>
        let absent := match s.parameter? name with
          | some t => empty && t.isEmpty
          | none => true
        /- A quoted word is a field even if nothing is in it. -/
        let other : Act (List Part) := do
          let parts ← expand run fuel (!quoted) (expandHome s word)
          return if quoted && parts.isEmpty then [.whole []] else parts
        match kind with
        | .swap => if absent then return valueParts quoted [] else other
        | .useText => if absent then other else parameterParts name quoted
        | .assign =>
          if absent then
            let t := Glyph.toText (unsplit (← expand run fuel false (expandHome s word)))
            if isName name then
              assign name t
              return valueParts quoted t
            else fail (name ++ ": bad variable name")
          else parameterParts name quoted
        | .fail =>
          if absent then
            let t := Glyph.toText (unsplit (← expand run fuel false word))
            let usual : Text :=
              if empty then "parameter not set or null" else "parameter not set"
            fail (name ++ ": " ++ if t.isEmpty then usual else t)
          else parameterParts name quoted

end

/-- The parts of a word. -/
def partsOf (run : Command → Act Bytes) (fuel : Nat) (w : Word) : Act (List Part) := do
  expand run fuel false (expandHome (← get) w)

/-- The fields of a word. -/
def fieldsOf (run : Command → Act Bytes) (fuel : Nat) (w : Word) : Act (List Text) := do
  let parts ← partsOf run fuel w
  let s ← get
  let fields := split s.separators parts
  return if s.has 'f' then fields.map Glyph.toText else fields.flatMap (places s.files)

/-- A word as one text that may be a pattern. -/
def patternOf (run : Command → Act Bytes) (fuel : Nat) (w : Word) : Act (List Glyph) := do
  return unsplit (← partsOf run fuel w)

/-- A word as one text. -/
def textOf (run : Command → Act Bytes) (fuel : Nat) (w : Word) : Act Text := do
  return Glyph.toText (← patternOf run fuel w)

/-! ## 5. Commands -/

/-- The fields of words. -/
def fieldsOfAll (run : Command → Act Bytes) (fuel : Nat) : List Word → Act (List Text)
  | [] => return []
  | w :: ws => do
    let fields ← fieldsOf run fuel w
    return fields ++ (← fieldsOfAll run fuel ws)

/-- Whether arguments may assign variables, as far as the words before them tell: nothing is known
before the name of the command. -/
def declares? (declarations : List Text) (known : Option Bool) (fields : List Text) : Option Bool :=
  match known, fields with
  | none, name :: _ => if name = "command".toList then none else some (declarations.contains name)
  | known, _ => known

/-- The fields of the words of a command.  An argument that assigns a variable is one field if the
command is one of those for that. -/
def fieldsOfCommand (declarations : List Text) (run : Command → Act Bytes) (fuel : Nat) :
    (known : Option Bool) → List Word → Act (List Text)
  | _, [] => return []
  | known, w :: ws => do
    let fields ← match if known = some true then assignment? w else none with
      | some (name, value) => do pure [name ++ '=' :: (← textOf run fuel value)]
      | none => fieldsOf run fuel w
    return fields
      ++ (← fieldsOfCommand declarations run fuel (declares? declarations known fields) ws)

/-- Assigns variables one after the other; gives their values. -/
def assignAll (run : Command → Act Bytes) (fuel : Nat) :
    List (Text × Word) → Act (List (Text × Text))
  | [] => return []
  | (name, w) :: rest => do
    let t ← textOf run fuel w
    assign name t
    return (name, t) :: (← assignAll run fuel rest)

/-- Whether a text has one of some patterns. -/
def fits (run : Command → Act Bytes) (fuel : Nat) (t : Text) : List Word → Act Bool
  | [] => return false
  | w :: ws => do
    let pattern := Glob.ofGlyphs (Glyph.bytewise (← patternOf run fuel w))
    if Glob.holds pattern (Tool.bytewise t) then return true else fits run fuel t ws

end Stepwise.Shell
