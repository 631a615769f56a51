import Stepwise.Toolchain.Tool.Basic
import Stepwise.Toolchain.Tool.Bracket

/-!
# Conditions

`test` says by its status whether a condition holds: of texts, of numbers or of places.

Main definitions:

* `Tool.Condition.decide`: whether a condition holds, or what is wrong with its words.
-/

namespace Stepwise.Tool

namespace Condition

/-- What a word of a condition is, in front of the words behind it. -/
inductive Mark where
  | finish
  | operand
  | unary
  | binary
  | both
  | either
  | negation
  | opening
  | closing
  deriving DecidableEq, Repr

/-- Whether a word asks something of one operand. -/
def isUnary : Text → Bool
  | ['-', c] => "rwxefdcpstznhL".toList.contains c
  | _ => false

/-- Words that compare two operands. -/
def comparisons : List Text :=
  ["=", "!=", "<", ">", "-eq", "-ne", "-ge", "-gt", "-le", "-lt", "-ef"]

/-- Whether a word compares two operands. -/
def isBinary (w : Text) : Bool := comparisons.contains w

/-- What the first of some words is.  A word that asks something of one operand is an operand itself
if none follows, or if it is compared with something. -/
def mark : List Text → Mark
  | [] => .finish
  | w :: rest =>
    if isUnary w then
      match rest with
      | [] => .operand
      | [_] => .unary
      | next :: _ => if isBinary next then .operand else .unary
    else if isBinary w then .binary
    else if w = "-a".toList then .both
    else if w = "-o".toList then .either
    else if w = ['!'] then .negation
    else if w = ['('] then if rest.isEmpty then .operand else .opening
    else if w = [')'] then .closing
    else .operand

/-- The number that an operand writes; blanks around it do not count. -/
def number (t : Text) : Except Text Int :=
  let bare (t : Text) : Text := t.dropWhile (inClass "space")
  match integer? (bare (bare t).reverse).reverse with
  | some n =>
    if n.natAbs < UInt64.size / 2 then .ok n else .error ("Illegal number: " ++ t)
  | none => .error ("Illegal number: " ++ t)

/-- Whether what is asked of one operand is true. -/
def ask (files : FileTree) (c : Char) (t : Text) : Bool :=
  let there (follow : Bool) (p : FileEntry → Bool) : Bool :=
    (files.find t follow).toOption.any fun e => p e.2
  if c = 'z' then t.isEmpty
  else if c = 'n' then !t.isEmpty
  else if c = 'e' ∨ c = 'r' ∨ c = 'w' then there true fun _ => true
  else if c = 'f' then there true fun e => e matches .file ..
  else if c = 'd' then there true (·.isDirectory)
  else if c = 'x' then there true fun e => e.isDirectory || e.runs
  else if c = 's' then
    there true fun e => e.isDirectory || (FileTree.contents e).toOption.any (!·.isEmpty)
  else if c = 'h' ∨ c = 'L' then there false fun e => e matches .link _
  else if c = 'c' then there true fun e => e matches .device _
  else if c = 'p' then there true fun e => e matches .channel ..
  else false

/-- Whether a comparison is true. -/
def compare (files : FileTree) (a word b : Text) : Except Text Bool :=
  let path (t : Text) : Option Path := (files.find t).toOption.map (·.1)
  let numbers (p : Int → Int → Bool) : Except Text Bool := do
    return p (← number a) (← number b)
  match String.ofList word with
  | "=" => .ok (a == b)
  | "!=" => .ok (a != b)
  | "<" => .ok (!textLe b a)
  | ">" => .ok (!textLe a b)
  | "-eq" => numbers (· == ·)
  | "-ne" => numbers (· != ·)
  | "-ge" => numbers fun m n => n ≤ m
  | "-gt" => numbers fun m n => n < m
  | "-le" => numbers fun m n => m ≤ n
  | "-lt" => numbers fun m n => m < n
  | "-ef" => .ok ((path a).isSome && path a == path b)
  | _ => .ok false

/-- An answer, and the words from the last one on that was used for it. -/
abbrev Answer := Bool × List Text

mutual

/-- Alternatives.  The mark is that of the first word. -/
def alternatives (files : FileTree) : (fuel : Nat) → Mark → List Text → Except Text Answer
  | 0, _, ws => .ok (false, ws)
  | fuel + 1, m, ws => do
    let (a, ws) ← conjunction files fuel m ws
    if mark ws.tail = .either then
      let ws := ws.drop 2
      let (b, ws) ← alternatives files fuel (mark ws) ws
      return (a || b, ws)
    else return (a, ws)

/-- Conditions that have to hold together. -/
def conjunction (files : FileTree) : (fuel : Nat) → Mark → List Text → Except Text Answer
  | 0, _, ws => .ok (false, ws)
  | fuel + 1, m, ws => do
    let (a, ws) ← negated files fuel m ws
    if mark ws.tail = .both then
      let ws := ws.drop 2
      let (b, ws) ← conjunction files fuel (mark ws) ws
      return (a && b, ws)
    else return (a, ws)

/-- A condition with marks of negation in front. -/
def negated (files : FileTree) : (fuel : Nat) → Mark → List Text → Except Text Answer
  | 0, _, ws => .ok (false, ws)
  | fuel + 1, m, ws =>
    if m = .negation then do
      let next := mark ws.tail
      let (a, ws) ← negated files fuel next (if next = .finish then ws else ws.tail)
      return (!a, ws)
    else simple files fuel m ws

/-- A condition between parentheses, a question, a comparison, or a text that is true unless it is
empty. -/
def simple (files : FileTree) : (fuel : Nat) → Mark → List Text → Except Text Answer
  | 0, _, ws => .ok (false, ws)
  | fuel + 1, m, ws =>
    match m, ws with
    | .finish, ws => .ok (false, ws)
    | _, [] => .ok (false, [])
    | .opening, _ :: rest => do
      if mark rest = .closing then return (false, rest)
      else
        let (a, ws) ← alternatives files fuel (mark rest) rest
        if mark ws.tail = .closing then return (a, ws.tail)
        else throw "closing paren expected".toList
    | .unary, w :: rest =>
      match rest with
      | [] => throw (w ++ ": argument expected")
      | t :: _ => return (ask files ((w.drop 1).headD '-') t, rest)
    | _, a :: rest =>
      if mark rest = .binary then
        match rest with
        | word :: b :: behind => return (← compare files a word b, b :: behind)
        | _ => throw (rest.headD [] ++ ": argument expected")
      else return (!a.isEmpty, a :: rest)

end

/-- Whether a condition holds.  The mark is that of the first word. -/
def whole (files : FileTree) (m : Mark) (ws : List Text) : Except Text Bool := do
  match ← alternatives files (4 * ws.length + 4) m ws with
  | (_, last :: _ :: _) => throw (last ++ ": unexpected operator")
  | (a, _) => return a

/-- Whether a condition holds; conditions of few words are read in the way that makes sense of
them. -/
def decide (files : FileTree) : List Text → Except Text Bool
  | [] => .ok false
  | [a, word, b] =>
    if isBinary word then whole files .operand [a, word, b]
    else if a = ['('] ∧ b = [')'] then whole files (mark [word]) [word]
    else if a = ['!'] then (decide files [word, b]).map (!·)
    else whole files (mark [a, word, b]) [a, word, b]
  | [a, b, c, d] =>
    if a = ['('] ∧ d = [')'] then whole files (mark [b, c]) [b, c]
    else if a = ['!'] then (decide files [b, c, d]).map (!·)
    else whole files (mark [a, b, c, d]) [a, b, c, d]
  | ws => whole files (mark ws) ws

end Condition

/-- `test`: whether a condition holds. -/
def test : Action := fun call files =>
  let complaint (t : Text) : Finish := refused files 2 (call.name ++ ": " ++ t)
  let words? : Option (List Text) :=
    if call.name.getLast? = some '[' then
      if (call.arguments.getLast?.bind List.head?) = some ']' then some call.arguments.dropLast
      else none
    else some call.arguments
  match words? with
  | none => complaint "missing ]"
  | some words =>
    match Condition.decide files words with
    | .ok holds => { status := .code (if holds then 0 else 1), files }
    | .error t => complaint t

end Stepwise.Tool
