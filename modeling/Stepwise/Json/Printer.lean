import Stepwise.Json.Basic

/-!
# Writing JSON

Two layouts: `Json.compact` without any space, and `Json.pretty` with two blanks a level and every
item on a line of its own.  Both escape in strings what must be escaped and nothing else.
-/

namespace Stepwise.Json

/-- What is written for a character of a string. -/
def escapeChar (c : Char) : Text :=
  match c with
  | '"' => "\\\""
  | '\\' => "\\\\"
  | '\x08' => "\\b"
  | '\x0c' => "\\f"
  | '\n' => "\\n"
  | '\r' => "\\r"
  | '\t' => "\\t"
  | c =>
    if c.toNat < 0x20 then
      "\\u00" ++ [Text.digitOf (c.toNat / 16), Text.digitOf (c.toNat % 16)]
    else [c]

/-- A string between quotes. -/
def quote (t : Text) : Text := '"' :: t.flatMap escapeChar ++ ['"']

mutual

/-- The value without spaces. -/
def compact : Json → Text
  | .null => "null"
  | .bool b => if b then "true" else "false"
  | .number literal => literal
  | .string s => quote s
  | .array xs => '[' :: Text.join "," (compactItems xs) ++ [']']
  | .object ms => '{' :: Text.join "," (compactMembers ms) ++ ['}']

/-- The items of an array, each without spaces. -/
def compactItems : List Json → List Text
  | [] => []
  | x :: xs => compact x :: compactItems xs

/-- The members of an object, each without spaces. -/
def compactMembers : List (Text × Json) → List Text
  | [] => []
  | (name, x) :: ms => (quote name ++ ':' :: compact x) :: compactMembers ms

end

/-- A new line indented by `level` levels. -/
def newline (level : Nat) : Text := '\n' :: List.replicate (2 * level) ' '

/-- Parts between two brackets, each on a line of its own. -/
def block (level : Nat) (opening closing : Char) (parts : List Text) : Text :=
  if parts.isEmpty then [opening, closing]
  else
    opening :: newline (level + 1) ++ Text.join (',' :: newline (level + 1)) parts
      ++ newline level ++ [closing]

mutual

/-- The value laid out over lines, its first line standing at `level`. -/
def layout (level : Nat) : Json → Text
  | .null => "null"
  | .bool b => if b then "true" else "false"
  | .number literal => literal
  | .string s => quote s
  | .array xs => block level '[' ']' (layoutItems (level + 1) xs)
  | .object ms => block level '{' '}' (layoutMembers (level + 1) ms)

/-- The items of an array, each laid out at `level`. -/
def layoutItems (level : Nat) : List Json → List Text
  | [] => []
  | x :: xs => layout level x :: layoutItems level xs

/-- The members of an object, each laid out at `level`. -/
def layoutMembers (level : Nat) : List (Text × Json) → List Text
  | [] => []
  | (name, x) :: ms => (quote name ++ ": " ++ layout level x) :: layoutMembers level ms

end

/-- The value laid out over lines. -/
def pretty (x : Json) : Text := layout 0 x

end Stepwise.Json
