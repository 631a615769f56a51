import Stepwise.Json.Basic

/-!
# Reading JSON

`Json.read?` reads a whole text.  It follows the grammar of JSON to the letter, with one limit: a
value nested `maxDepth` levels deep is the deepest one that is read.  Number literals are kept,
only an exponent is brought into the form `e`, sign, digits.

`Json.readKnown?` reads a text of which only some members matter.  The values of the others have to
follow the grammar too, but they are passed over: they may be nested to any depth, and in their
strings a surrogate may stand alone.

`Json.settle?` turns what was read into the value that it stands for.
-/

namespace Stepwise.Json

/-- The number of levels of arrays and objects that may stand in each other. -/
def maxDepth : Nat := 127

/-- Whether a character may stand between tokens. -/
def isSpace (c : Char) : Bool := c == ' ' || c == '\n' || c == '\t' || c == '\r'

/-- The text from its next token on. -/
def skip (t : Text) : Text := t.dropWhile isSpace

/-! ## 1. Strings -/

/-- The number that four hexadecimal digits spell. -/
def hex4? (a b c d : Char) : Option Nat :=
  (Text.readDigits 16 0x10000 0 [a, b, c, d]).toOption

/-- The character meant by a one-letter escape. -/
def shortEscape? : Char → Option Char
  | '"' => some '"'
  | '\\' => some '\\'
  | '/' => some '/'
  | 'b' => some '\x08'
  | 'f' => some '\x0c'
  | 'n' => some '\n'
  | 'r' => some '\r'
  | 't' => some '\t'
  | _ => none

/-- Puts a character in front of a string that was read. -/
def push (c : Char) (r : Option (Text × Text)) : Option (Text × Text) :=
  r.map fun (s, rest) => (c :: s, rest)

/-- The character that two surrogates spell together. -/
def surrogatePair? (high low : Nat) : Option Char :=
  if 0xDC00 ≤ low ∧ low < 0xE000 then
    some (Char.ofNat (0x10000 + (high - 0xD800) * 0x400 + (low - 0xDC00)))
  else none

/-- The character spelled by an escaped surrogate and the escape behind it. -/
def surrogate? (unit : Nat) : Text → Option Char
  | '\\' :: 'u' :: e :: f :: g :: h :: _ =>
    if unit < 0xDC00 then (hex4? e f g h).bind (surrogatePair? unit) else none
  | _ => none

/-- Reads a string from behind its opening quote.  `lone` is read for a surrogate without its
partner; without it such a string is refused. -/
def stringBody (lone : Option Char) : Text → Option (Text × Text)
  | [] => none
  | '"' :: t => some ([], t)
  | '\\' :: 'u' :: a :: b :: c :: d :: t =>
    match hex4? a b c d with
    | none => none
    | some unit =>
      if 0xD800 ≤ unit ∧ unit < 0xE000 then
        match surrogate? unit t, t with
        | some c, _ :: _ :: _ :: _ :: _ :: _ :: t => push c (stringBody lone t)
        | _, t =>
          match lone with
          | none => none
          | some c => push c (stringBody lone t)
      else push (Char.ofNat unit) (stringBody lone t)
  | '\\' :: e :: t =>
    match shortEscape? e with
    | none => none
    | some c => push c (stringBody lone t)
  | c :: t => if c.toNat < 0x20 then none else push c (stringBody lone t)

/-! ## 2. Numbers -/

/-- A row of at least one digit. -/
def digitRow? (t : Text) : Option (Text × Text) :=
  match t.takeWhile Char.isDigit with
  | [] => none
  | row => some (row, t.dropWhile Char.isDigit)

/-- The part of a number before point and exponent. -/
def integerPart? : Text → Option (Text × Text)
  | '0' :: t =>
    match t with
    | c :: _ => if c.isDigit then none else some (['0'], t)
    | [] => some (['0'], t)
  | t => digitRow? t

/-- The point of a number and the digits behind it, if there is one. -/
def fraction? : Text → Option (Text × Text)
  | '.' :: t => (digitRow? t).map fun (row, rest) => ('.' :: row, rest)
  | t => some ([], t)

/-- The exponent of a number in its normal form, if there is one. -/
def exponent? : Text → Option (Text × Text)
  | c :: t =>
    if c = 'e' ∨ c = 'E' then
      let (sign, digits) := match t with
        | '+' :: r => ('+', r)
        | '-' :: r => ('-', r)
        | r => ('+', r)
      (digitRow? digits).map fun (row, rest) => ('e' :: sign :: row, rest)
    else some ([], c :: t)
  | [] => some ([], [])

/-- Reads a number literal. -/
def numberLiteral? (t : Text) : Option (Text × Text) := do
  let (sign, t) := match t with
    | '-' :: r => (['-'], r)
    | r => ([], r)
  let (whole, t) ← integerPart? t
  let (fraction, t) ← fraction? t
  let (exponent, t) ← exponent? t
  return (sign ++ whole ++ fraction ++ exponent, t)

/-! ## 3. Values -/

mutual

/-- Reads a value with room for `depth` more levels. -/
def value (lone : Option Char) : (fuel depth : Nat) → Text → Option (Json × Text)
  | 0, _, _ => none
  | fuel + 1, depth, t =>
    match skip t with
    | 'n' :: 'u' :: 'l' :: 'l' :: rest => some (.null, rest)
    | 't' :: 'r' :: 'u' :: 'e' :: rest => some (.bool true, rest)
    | 'f' :: 'a' :: 'l' :: 's' :: 'e' :: rest => some (.bool false, rest)
    | '"' :: rest => (stringBody lone rest).map fun (s, rest) => (.string s, rest)
    | '[' :: rest =>
      match depth with
      | 0 => none
      | depth + 1 =>
        match skip rest with
        | ']' :: rest => some (.array [], rest)
        | rest => (items lone fuel depth rest).map fun (xs, rest) => (.array xs, rest)
    | '{' :: rest =>
      match depth with
      | 0 => none
      | depth + 1 =>
        match skip rest with
        | '}' :: rest => some (.object [], rest)
        | rest => (members lone fuel depth rest).map fun (ms, rest) => (.object ms, rest)
    | t => (numberLiteral? t).map fun (n, rest) => (.number n, rest)

/-- Reads the items of an array up to its closing bracket. -/
def items (lone : Option Char) : (fuel depth : Nat) → Text → Option (List Json × Text)
  | 0, _, _ => none
  | fuel + 1, depth, t =>
    match value lone fuel depth t with
    | none => none
    | some (x, rest) =>
      match skip rest with
      | ']' :: rest => some ([x], rest)
      | ',' :: rest => (items lone fuel depth rest).map fun (xs, rest) => (x :: xs, rest)
      | _ => none

/-- Reads the members of an object up to its closing brace. -/
def members (lone : Option Char) : (fuel depth : Nat) → Text → Option (List (Text × Json) × Text)
  | 0, _, _ => none
  | fuel + 1, depth, t =>
    match skip t with
    | '"' :: rest =>
      match stringBody lone rest with
      | none => none
      | some (name, rest) =>
        match skip rest with
        | ':' :: rest =>
          match value lone fuel depth rest with
          | none => none
          | some (x, rest) =>
            match skip rest with
            | '}' :: rest => some ([(name, x)], rest)
            | ',' :: rest =>
              (members lone fuel depth rest).map fun (ms, rest) => ((name, x) :: ms, rest)
            | _ => none
        | _ => none
    | _ => none

end

/-- Reads a value at the front of a text.  No call nests deeper than twice the length of the text,
which bounds the fuel. -/
def front? (lone : Option Char) (depth : Nat) (t : Text) : Option (Json × Text) :=
  value lone (2 * t.length + 2) depth t

/-- The value of a text that holds one value and nothing else. -/
def whole? : Option (Json × Text) → Option Json
  | some (x, rest) => if (skip rest).isEmpty then some x else none
  | none => none

/-- Reads a text that holds one value and nothing else. -/
def read? (t : Text) : Option Json := whole? (front? none maxDepth t)

/-! ## 4. Objects of which some members matter -/

/-- Reads the value of a member, which matters only under one of the names. -/
def knownValue? (names : List Text) (name t : Text) : Option (Json × Text) :=
  if names.contains name then front? none (maxDepth - 1) t
  else front? (some '\uFFFD') t.length t

/-- Reads the members of an object up to its closing brace. -/
def knownMembers (names : List Text) : (fuel : Nat) → Text → Option (List (Text × Json) × Text)
  | 0, _ => none
  | fuel + 1, t =>
    match skip t with
    | '"' :: rest =>
      match stringBody none rest with
      | none => none
      | some (name, rest) =>
        match skip rest with
        | ':' :: rest =>
          match knownValue? names name rest with
          | none => none
          | some (x, rest) =>
            match skip rest with
            | '}' :: rest => some ([(name, x)], rest)
            | ',' :: rest =>
              (knownMembers names fuel rest).map fun (ms, rest) => ((name, x) :: ms, rest)
            | _ => none
        | _ => none
    | _ => none

/-- Reads a text that holds one value and nothing else.  If it is an object, only the values of the
members called `names` matter. -/
def readKnown? (names : List Text) (t : Text) : Option Json :=
  match skip t with
  | '{' :: rest =>
    match skip rest with
    | '}' :: rest => whole? (some (.object [], rest))
    | rest =>
      whole? ((knownMembers names rest.length rest).map fun (ms, rest) => (.object ms, rest))
  | t => read? t

/-!
## 5. Settled values

The text of an object may repeat a name, and may spell a number out as a string: an object whose
first member has a certain name stands for the number in that member.  Settling a value takes both
away.  It fails if such an object holds anything but the literal of a number.
-/

/-- The members of an object as a table: a name keeps its first position and takes its last
value. -/
def table {α : Type} (members : List (Text × α)) : List (Text × α) :=
  members.foldl put []
where
  /-- Puts one member into a table. -/
  put (fields : List (Text × α)) (m : Text × α) : List (Text × α) :=
    if fields.any (·.1 == m.1) then fields.map fun f => if f.1 == m.1 then m else f
    else fields ++ [m]

/-- The name of the member in which a number is spelled out. -/
def numberName : Text := "$serde_json::private::Number"

/-- The number that a text consists of. -/
def numberOf? (t : Text) : Option Json :=
  match numberLiteral? t with
  | some (literal, []) => some (.number literal)
  | _ => none

/-- The value of an object with these members, once they are settled. -/
def ofMembers? : List (Text × Json) → Option Json
  | (name, x) :: more =>
    if name = numberName then
      match x, more with
      | .string t, [] => numberOf? t
      | _, _ => none
    else some (.object (table ((name, x) :: more)))
  | [] => some (.object [])

mutual

/-- The value in which no object repeats a name and no number is spelled out. -/
def settle? : Json → Option Json
  | .array xs => (settleItems? xs).map .array
  | .object ms => (settleMembers? ms).bind ofMembers?
  | x => some x

/-- The items of an array, each settled. -/
def settleItems? : List Json → Option (List Json)
  | [] => some []
  | x :: xs => do return (← settle? x) :: (← settleItems? xs)

/-- The members of an object, each settled. -/
def settleMembers? : List (Text × Json) → Option (List (Text × Json))
  | [] => some []
  | (name, x) :: ms => do return (name, ← settle? x) :: (← settleMembers? ms)

end

end Stepwise.Json
