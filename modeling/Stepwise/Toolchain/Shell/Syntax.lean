import Stepwise.Text.Basic

/-!
# Scripts

What a shell reads: commands, the words they are made of, and the redirections of their channels.
A word is made of pieces; a quoted piece is taken as it is, and any other one may fall into several
fields.
-/

namespace Stepwise.Shell

/-- What the value of a parameter is replaced by, if it has none. -/
inductive Fallback where
  /-- Another text. -/
  | useText
  /-- Another text, which becomes its value. -/
  | assign
  /-- Nothing: the script fails. -/
  | fail
  /-- Nothing; a parameter with a value is replaced by another text. -/
  | swap
  deriving DecidableEq, Repr

/-- What a redirection does. -/
inductive Redirecting where
  | read
  /-- Writes a file anew; an option may ask that none is lost in that way. -/
  | write
  /-- Writes a file anew in any case. -/
  | replace
  | append
  /-- Reads and writes. -/
  | update
  /-- Makes a channel the same as another one. -/
  | copy
  /-- Reads a text that the script holds. -/
  | here
  deriving DecidableEq, Repr

mutual

/-- A piece of a word. -/
inductive Piece where
  | text (t : Text) (quoted : Bool)
  | parameter (name : Text) (use : Use) (quoted : Bool)
  /-- What commands print. -/
  | output (commands : Command) (quoted : Bool)
  | arithmetic (body : List Piece) (quoted : Bool)
  /-- Something that looks like a parameter and is none. -/
  | bad

/-- How a parameter is used. -/
inductive Use where
  | value
  | length
  /-- `empty` tells whether an empty value counts as none. -/
  | fallback (kind : Fallback) (empty : Bool) (word : List Piece)
  /-- Without the part at its front or end that a pattern describes. -/
  | trim (atEnd longest : Bool) (pattern : List Piece)

/-- A redirection of a channel. -/
inductive Redirection where
  | mk (channel : Nat) (kind : Redirecting) (target : List Piece)

/-- A command. -/
inductive Command where
  | nothing
  | simple (line : Nat) (assignments : List (Text × List Piece)) (words : List (List Piece))
      (redirections : List Redirection)
  | define (name : Text) (body : Command)
  /-- Commands in a shell of their own. -/
  | subshell (body : Command)
  | choice (condition yes no : Command)
  /-- Commands again and again while a condition holds, or until it does. -/
  | loop (untilHolds : Bool) (condition body : Command)
  | each (name : Text) (words : List (List Piece)) (body : Command)
  | select (word : List Piece) (branches : List (List (List Piece) × Command))
  | redirected (body : Command) (redirections : List Redirection)
  | pipeline (commands : List Command)
  | negated (c : Command)
  | both (first second : Command)
  | either (first second : Command)
  | sequence (first second : Command)
  | background (c : Command)

end

/-- A word. -/
abbrev Word := List Piece

/-- Whether a character can stand in a name. -/
def isNameChar (c : Char) : Bool := c.isAlphanum || c == '_'

/-- Whether a text is a name. -/
def isName (t : Text) : Bool :=
  (t.head?.any fun c => isNameChar c && !c.isDigit) && t.all isNameChar

/-- The name at the front of a text. -/
def nameOf (t : Text) : Text :=
  if t.head?.any Char.isDigit then [] else t.takeWhile isNameChar

/-- The characters that name a parameter by themselves. -/
def specialNames : Text := "@*#?-$!".toList

/-- Builtin commands that no function may hide. -/
def specialBuiltins : List Text :=
  List.map String.toList
    [".", ":", "break", "continue", "eval", "exec", "exit", "export", "local", "readonly", "return",
     "set", "shift", "times", "trap", "unset"]

/-- The text of a word that has no quotes and nothing to expand. -/
def plainText? : Word → Option Text
  | [.text t false] => some t
  | _ => none

/-- A word in which neighbouring plain texts are one. -/
def mergeTexts : Word → Word
  | [] => []
  | .text s false :: pieces =>
    match mergeTexts pieces with
    | .text t false :: rest => .text (s ++ t) false :: rest
    | rest => .text s false :: rest
  | piece :: pieces => piece :: mergeTexts pieces

/-- The name and value of a word that assigns a variable. -/
def assignment? (w : Word) : Option (Text × Word) :=
  match w with
  | .text t false :: rest =>
    let name := nameOf t
    match t.drop name.length with
    | '=' :: value =>
      if name.isEmpty then none
      else some (name, if value.isEmpty then rest else .text value false :: rest)
    | _ => none
  | _ => none

/-- The text of a word as it is written, without its quotes, and whether it has any. -/
def literal (w : Word) : Text × Bool :=
  w.foldl (fun (t, quoted) piece =>
    match piece with
    | .text s q => (t ++ s, quoted || q)
    | .parameter name _ q => (t ++ '$' :: name, quoted || q)
    | _ => (t, quoted)) ([], false)

end Stepwise.Shell
