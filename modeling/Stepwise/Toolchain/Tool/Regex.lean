import Stepwise.Text.Numeral
import Stepwise.Toolchain.Tool.Bracket

/-!
# Regular expressions

A regular expression in one of two spellings: the basic one, in which marks of repetition and
grouping have a backslash in front, and the extended one, in which they have none.  A match is found
at the first place where there is one, and is the longest there.

Main definitions:

* `Regex.read`: reads an expression, or says what is wrong with it;
* `Regex.search?`: the first match in a text, with what its groups matched.
-/

namespace Stepwise

/-- A place between characters that a regular expression may ask for. -/
inductive Border where
  /-- Where a word begins or ends, or where neither is the case. -/
  | word
  | noWord
  | wordStart
  | wordFinish
  /-- The very beginning and the very end of the text. -/
  | textStart
  | textFinish
  deriving DecidableEq, Repr

/-- A regular expression. -/
inductive Regex where
  /-- Nothing at all. -/
  | empty
  /-- One character of a set. -/
  | one (set : Bracket)
  /-- Any character. -/
  | any
  /-- The beginning and the end of the text. -/
  | start
  | finish
  | border (b : Border)
  | both (first second : Regex)
  | either (first second : Regex)
  /-- As many times as the bounds say, rather more often than less. -/
  | times (least : Nat) (most : Option Nat) (body : Regex)
  /-- What it matches can be referred to by a number. -/
  | group (number : Nat) (body : Regex)
  /-- What a group has matched. -/
  | again (number : Nat)
  deriving Repr, Inhabited

namespace Regex

/-! ## 1. Matching -/

/-- How far a text has been matched. -/
structure Progress where
  /-- The number of characters before this place. -/
  offset : Nat
  rest : Text
  /-- Characters before this place, the last one first. -/
  before : Text := []
  /-- What the groups have matched. -/
  groups : List (Nat × Text) := []
  deriving DecidableEq, Repr

/-- The character before a place. -/
def Progress.last (p : Progress) : Option Char := p.before.head?

/-- Whether a set has a character; case may be left out of account. -/
def inSet (fold : Bool) (set : Bracket) (c : Char) : Bool :=
  set.holds c || (fold && (set.holds c.toLower || set.holds c.toUpper))

/-- One character further. -/
def Progress.step (p : Progress) : Progress :=
  match p.rest with
  | c :: rest => { p with offset := p.offset + 1, rest, before := c :: p.before }
  | [] => { p with offset := p.offset + 1 }

/-- Whether a character belongs to a word. -/
def isWordChar (c : Char) : Bool := c.isAlphanum || c == '_'

/-- Whether a place is one that is asked for. -/
def Progress.isAt (p : Progress) (b : Border) : Bool :=
  let before := p.last.any isWordChar
  let behind := p.rest.head?.any isWordChar
  match b with
  | .word => before != behind
  | .noWord => before == behind && (p.last.isSome || !p.rest.isEmpty)
  | .wordStart => !before && behind
  | .wordFinish => before && !behind
  | .textStart => p.offset == 0
  | .textFinish => p.rest.isEmpty

/-- The places to which an expression leads, the preferred ones first. -/
def run (fold : Bool) : (fuel : Nat) → Regex → Progress → List Progress
  | 0, _, _ => []
  | fuel + 1, r, p =>
    match r with
    | .empty => [p]
    | .one set => if p.rest.head?.any (inSet fold set) then [p.step] else []
    | .any => if p.rest.isEmpty then [] else [p.step]
    | .start => if p.offset == 0 then [p] else []
    | .finish => if p.rest.isEmpty then [p] else []
    | .border b => if p.isAt b then [p] else []
    | .both first second => (run fold fuel first p).flatMap (run fold fuel second)
    | .either first second => run fold fuel first p ++ run fold fuel second p
    | .times least most body =>
      let more : List Progress :=
        if most = some 0 then []
        else
          (run fold fuel body p).flatMap fun q =>
            if q.offset = p.offset then if least = 0 then [] else [q]
            else run fold fuel (.times (least - 1) (most.map (· - 1)) body) q
      if least = 0 then more ++ [p] else more
    | .group number body =>
      (run fold fuel body p).map fun q =>
        { q with groups := (number, p.rest.take (q.offset - p.offset)) :: q.groups }
    | .again number =>
      let t := (p.groups.lookup number).getD []
      match Text.after? t p.rest with
      | some rest =>
        [{ p with offset := p.offset + t.length, rest, before := t.reverse ++ p.before }]
      | none => []

/-- The size of an expression. -/
def size : Regex → Nat
  | .both a b | .either a b => a.size + b.size + 1
  | .times least _ r => r.size + least + 2
  | .group _ r => r.size + 1
  | _ => 1

/-- A match: the text before it, itself and the text behind it, and what the groups matched. -/
structure Match where
  before : Text
  found : Text
  behind : Text
  groups : List (Nat × Text) := []
  deriving DecidableEq, Repr

/-- What a group matched; the group zero is the whole match. -/
def Match.group (m : Match) (n : Nat) : Text :=
  if n = 0 then m.found else (m.groups.lookup n).getD []

/-- The places to which an expression leads from one, the preferred ones first. -/
def ends (fold : Bool) (r : Regex) (p : Progress) : List Progress :=
  run fold (r.size * (p.before.length + p.rest.length + 2) + 2) r p

/-- The longer one of two matches that begin at the same place; the first one if they are equal. -/
def longer (best? : Option Progress) (q : Progress) : Option Progress :=
  match best? with
  | some best => if best.offset < q.offset then some q else some best
  | none => some q

/-- The first match in what is left of a text. -/
def searchFrom? (fold : Bool) (r : Regex) :
    (fuel : Nat) → (before : Text) → Progress → Option Match
  | 0, _, _ => none
  | fuel + 1, before, p =>
    match (ends fold r p).foldl longer none with
    | some q =>
      some { before, found := p.rest.take (q.offset - p.offset), behind := q.rest,
             groups := q.groups }
    | none =>
      match p.rest with
      | [] => none
      | c :: _ => searchFrom? fold r fuel (before ++ [c]) p.step

/-- The first match in a text; `offset` characters stand before it, of which the last one is
given. -/
def search? (fold : Bool) (r : Regex) (last : Option Char) (offset : Nat) (t : Text) :
    Option Match :=
  searchFrom? fold r (t.length + 1) [] { offset, rest := t, before := last.toList }

/-! ## 2. Reading -/

/-- A mark of an expression. -/
inductive Mark where
  | char (c : Char)
  | dot
  | set (b : Bracket)
  | start
  | finish
  | border (b : Border)
  | openGroup
  | closeGroup
  | bar
  | repeated (least : Nat) (most : Option Nat)
  | again (n : Nat)
  deriving DecidableEq, Repr

/-- What is wrong with an expression. -/
inductive Mistake where
  | openGroup
  | closedGroup
  | openBraces
  | bounds
  | openBracket
  | className
  | range
  | backslash
  | reference
  | nothingRepeated
  deriving DecidableEq, Repr

/-- The wording of what is wrong. -/
def Mistake.message : Mistake → Text
  | openGroup => "Unmatched ( or \\("
  | closedGroup => "Unmatched ) or \\)"
  | openBraces => "Unmatched \\\x7b"
  | bounds => "Invalid content of \\\x7b\\\x7d"
  | openBracket => "Unmatched [, [^, [:, [., or [="
  | className => "Invalid character class name"
  | range => "Invalid range end"
  | backslash => "Trailing backslash"
  | reference => "Invalid back reference"
  | nothingRepeated => "Invalid preceding regular expression"

/-- Bounds of a repetition behind the opening brace, up to the text that closes them. -/
def bounds (close t : Text) : Except Mistake (Mark × Text) := do
  let some (inner, rest) := Text.cut? close t | throw .openBraces
  let number (t : Text) : Except Mistake Nat := (Text.readNat 32768 t).mapError fun _ => .bounds
  match Text.cut? "," inner with
  | none =>
    let n ← number inner
    return (.repeated n (some n), rest)
  | some (a, b) =>
    let least ← if a.isEmpty then pure 0 else number a
    let most ← if b.isEmpty then pure none else (number b).map some
    if most.any (· < least) then throw .bounds
    return (.repeated least most, rest)

/-- What a letter behind a backslash stands for in both spellings. -/
def letterMark (c : Char) : Mark :=
  let wordSet (negated : Bool) : Mark :=
    .set { negated, items := [.named "alnum".toList, .range '_' '_'] }
  if c = 'w' then wordSet false
  else if c = 'W' then wordSet true
  else if c = 's' then .set { items := [.named "space".toList] }
  else if c = 'S' then .set { negated := true, items := [.named "space".toList] }
  else if c = 'b' then .border .word
  else if c = 'B' then .border .noWord
  else if c = '<' then .border .wordStart
  else if c = '>' then .border .wordFinish
  else if c = '\x60' then .border .textStart
  else if c = '\'' then .border .textFinish
  else if c = 'n' then .char '\n'
  else if c.isDigit && c != '0' then .again (c.toNat - '0'.toNat)
  else .char c

/-- The names of classes of characters. -/
def classNames : List Text :=
  List.map String.toList
    ["alpha", "digit", "alnum", "upper", "lower", "space", "blank", "punct", "cntrl", "print",
     "graph", "xdigit"]

/-- A bracket expression behind its opening bracket. -/
def bracket (t : Text) : Except Mistake (Mark × Text) :=
  match Bracket.read? '^' (Glyph.ofText false t) with
  | none => .error .openBracket
  | some (b, rest) =>
    let isWrong : BracketItem → Option Mistake
      | .named name => if classNames.contains name then none else some .className
      | .range first last => if last < first then some .range else none
    match b.items.findSome? isWrong with
    | some e => .error e
    | none => .ok (.set b, Glyph.toText rest)

/-- The mark at the front of a text that is not empty; `first` tells whether nothing stands before
it. -/
def mark (extended : Bool) (first : Bool) (c : Char) (t : Text) : Except Mistake (Mark × Text) :=
  let closes : Bool := t.isEmpty ||
    (if extended then t.head? == some ')' || t.head? == some '|'
      else (Text.after? "\\)" t).isSome || (Text.after? "\\|" t).isSome)
  if c = '[' then bracket t
  else if c = '\\' then
    match t with
    | [] => .error .backslash
    | c :: t =>
      if extended then .ok (letterMark c, t)
      else if c = '(' then .ok (.openGroup, t)
      else if c = ')' then .ok (.closeGroup, t)
      else if c = '|' then .ok (.bar, t)
      else if first ∧ (c = '+' ∨ c = '?') then .ok (.char c, t)
      else if c = '\x7b' then bounds "\\\x7d" t
      else if c = '+' then .ok (.repeated 1 none, t)
      else if c = '?' then .ok (.repeated 0 (some 1), t)
      else .ok (letterMark c, t)
  else if c = '.' then .ok (.dot, t)
  else if c = '*' then
    .ok (if first ∧ !extended then .char '*' else .repeated 0 none, t)
  else if c = '^' ∧ (first ∨ extended) then .ok (.start, t)
  else if c = '$' ∧ (closes ∨ extended) then .ok (.finish, t)
  else if extended then
    if c = '(' then .ok (.openGroup, t)
    else if c = ')' then .ok (.closeGroup, t)
    else if c = '|' then .ok (.bar, t)
    else if c = '+' then .ok (.repeated 1 none, t)
    else if c = '?' then .ok (.repeated 0 (some 1), t)
    else if c = '\x7b' then bounds "\x7d" t
    else .ok (.char c, t)
  else .ok (.char c, t)

/-- The marks of an expression. -/
def marks (extended : Bool) : (fuel : Nat) → (first : Bool) → Text → Except Mistake (List Mark)
  | 0, _, _ | _, _, [] => .ok []
  | fuel + 1, first, c :: t => do
    let (m, rest) ← mark extended first c t
    let opens := m = .openGroup ∨ m = .bar ∨ m = .start
    return m :: (← marks extended fuel opens rest)

/-- The expression of a mark that stands for itself. -/
def ofMark? : Mark → Option Regex
  | .char c => some (.one (.single c))
  | .dot => some .any
  | .set b => some (.one b)
  | .start => some .start
  | .finish => some .finish
  | .border b => some (.border b)
  | .again n => some (.again n)
  | _ => none

/-- What is read of an expression: finished branches, and the parts of the one under way. -/
structure Branches where
  done : List Regex := []
  parts : List Regex := []

/-- Parts one after the other. -/
def joinParts : List Regex → Regex
  | [] => .empty
  | [r] => r
  | r :: rs => .both r (joinParts rs)

/-- The branches as one expression. -/
def Branches.close (b : Branches) : Regex :=
  b.done.foldr .either (joinParts b.parts)

/-- Adds a part to the branch under way. -/
def Branches.add (b : Branches) (r : Regex) : Branches := { b with parts := b.parts ++ [r] }

/-- Puts marks together; `opened` is the number of groups so far, and `above` holds what stands
before those that are open, with their numbers. -/
def assemble (opened : Nat) (above : List (Nat × Branches)) (b : Branches) :
    List Mark → Except Mistake Regex
  | [] => if above.isEmpty then .ok b.close else .error .openGroup
  | m :: ms =>
    match m with
    | .openGroup => assemble (opened + 1) ((opened + 1, b) :: above) {} ms
    | .closeGroup =>
      match above with
      | [] => .error .closedGroup
      | (n, outer) :: above => assemble opened above (outer.add (.group n b.close)) ms
    | .bar => assemble opened above { done := b.done ++ [joinParts b.parts] } ms
    | .repeated least most =>
      match b.parts.getLast? with
      | none | some .start => .error .nothingRepeated
      | some r =>
        assemble opened above { b with parts := b.parts.dropLast ++ [.times least most r] } ms
    | .again n =>
      if opened < n then .error .reference else assemble opened above (b.add (.again n)) ms
    | m =>
      match ofMark? m with
      | none => assemble opened above b ms
      | some r => assemble opened above (b.add r) ms

/-- Reads an expression. -/
def read (extended : Bool) (t : Text) : Except Mistake Regex := do
  assemble 0 [] {} (← marks extended t.length true t)

/-- The expression of a text that stands for itself. -/
def ofText (t : Text) : Regex := joinParts (t.map fun c => .one (.single c))

end Regex

end Stepwise
