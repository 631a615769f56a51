import Stepwise.Toml.Quoted
import Stepwise.Toml.Scalar

/-!
# Reading TOML

`Toml.read?` reads a whole document, statement by statement.  Comments reach to the end of their
line; inside brackets and braces values may be spread over lines.
-/

namespace Stepwise.Toml

/-! ## 1. Between values -/

/-- The text without the blanks in front. -/
def skipSpace (t : Text) : Text := t.dropWhile fun c => c == ' ' || c == '\t'

/-- The text behind blanks, comments and newlines; `inComment` says that a comment is under way. -/
def skipGap? (inComment : Bool) : Text → Option Text
  | [] => some []
  | '\n' :: t => skipGap? false t
  | '\r' :: '\n' :: t => skipGap? false t
  | c :: t =>
    if inComment then if isPlain c then skipGap? true t else none
    else if c = ' ' ∨ c = '\t' then skipGap? false t
    else if c = '#' then skipGap? true t
    else some (c :: t)

/-- The text from the next line on, if nothing but a comment is left of this one. -/
def lineEnd? (t : Text) : Option Text :=
  let rest := skipSpace t
  let rest := if rest.head? = some '#' then rest.dropWhile isPlain else rest
  if rest.isEmpty || startsNewline rest then some rest else none

/-! ## 2. Keys -/

/-- Whether a character may stand in a key without quotes. -/
def isBare (c : Char) : Bool := c.isAlphanum || c == '_' || c == '-'

/-- One part of a key; quotes on several lines are none of a key. -/
def keyPart? (t : Text) : Option (Text × Text) :=
  match t with
  | '"' :: '"' :: '"' :: _ | '\'' :: '\'' :: '\'' :: _ => none
  | '"' :: _ | '\'' :: _ => string? t
  | _ =>
    match t.span isBare with
    | ([], _) => none
    | found => some found

/-- How many arrays and inline tables may stand in each other, and how many parts a dotted key may
have. -/
def maxDepth : Nat := 80

/-- At most `room` parts of a dotted key. -/
def keyParts? : (room : Nat) → Text → Option (List Text × Text)
  | 0, _ => none
  | room + 1, t => do
    let (part, rest) ← keyPart? (skipSpace t)
    match skipSpace rest with
    | '.' :: rest =>
      let (parts, rest) ← keyParts? room rest
      return (part :: parts, rest)
    | rest => return ([part], rest)

/-- The parts of a dotted key. -/
def key? (t : Text) : Option (List Text × Text) := keyParts? maxDepth t

/-- A key and the text behind its equals sign. -/
def assignee? (t : Text) : Option (List Text × Text) := do
  let (path, rest) ← key? t
  match rest with
  | '=' :: rest => return (path, skipSpace rest)
  | _ => none

/-! ## 3. Values -/

mutual

/-- Reads a value with room for `depth` more levels. -/
def value? : (fuel depth : Nat) → Text → Option (Toml × Text)
  | 0, _, _ => none
  | fuel + 1, depth, t =>
    match t with
    | '[' :: t =>
      match depth with
      | 0 => none
      | depth + 1 => (items? fuel depth t).map fun (items, rest) => (.array items, rest)
    | '{' :: t =>
      match depth with
      | 0 => none
      | depth + 1 =>
        (members? fuel depth [] t).map fun (entries, rest) => (.table .inline entries, rest)
    | '"' :: _ | '\'' :: _ => (string? t).map fun (s, rest) => (.string s, rest)
    | t => word? t

/-- Reads the items of an array up to its closing bracket. -/
def items? : (fuel depth : Nat) → Text → Option (List Toml × Text)
  | 0, _, _ => none
  | fuel + 1, depth, t => do
    match ← skipGap? false t with
    | ']' :: rest => return ([], rest)
    | t =>
      let (item, rest) ← value? fuel depth t
      match ← skipGap? false rest with
      | ']' :: rest => return ([item], rest)
      | ',' :: rest =>
        let (items, rest) ← items? fuel depth rest
        return (item :: items, rest)
      | _ => none

/-- Reads the members of an inline table up to its closing brace, behind those in `entries`. -/
def members? : (fuel depth : Nat) → Entries → Text → Option (Entries × Text)
  | 0, _, _, _ => none
  | fuel + 1, depth, entries, t => do
    match ← skipGap? false t with
    | '}' :: rest => return (entries, rest)
    | t =>
      let (path, t) ← key? t
      let t ← skipGap? false (← Text.after? "=" (← skipGap? false t))
      let (value, rest) ← value? fuel depth t
      let entries ← assign? value path entries
      match ← skipGap? false rest with
      | '}' :: rest => return (entries, rest)
      | ',' :: rest => members? fuel depth entries rest
      | _ => none

end

/-! ## 4. Statements -/

/-- Reads statements into the entries of a document; `path` is the header that stands over them. -/
def statements? : (fuel : Nat) → (path : List Text) → Entries → Text → Option Entries
  | 0, _, _, _ => none
  | fuel + 1, path, entries, t => do
    match ← skipGap? false t with
    | [] => return entries
    | '[' :: '[' :: t =>
      let (path, rest) ← key? t
      let rest ← lineEnd? (← Text.after? "]]" rest)
      statements? fuel path (← openItem? path entries) rest
    | '[' :: t =>
      let (path, rest) ← key? t
      let rest ← lineEnd? (← Text.after? "]" rest)
      statements? fuel path (← openTable? path entries) rest
    | t =>
      let (name, t) ← assignee? t
      let (value, rest) ← value? fuel maxDepth t
      let rest ← lineEnd? rest
      statements? fuel path (← inSection? path (assign? value name) entries) rest

/-- Reads a document.  A byte order mark may stand in front.  No call nests deeper than twice the
length of the text, which bounds the fuel. -/
def read? (t : Text) : Option Entries :=
  let t := match t with
    | '\uFEFF' :: t => t
    | t => t
  statements? (2 * t.length + 2) [] [] t

/-! ## 5. Writing -/

/-- An array of strings. -/
def quoteAll (ts : List Text) : Text := '[' :: Text.join ", " (ts.map quote) ++ [']']

/-- An assignment on a line of its own. -/
def assignment (key written : Text) : Text := key ++ " = " ++ written ++ ['\n']

end Stepwise.Toml
