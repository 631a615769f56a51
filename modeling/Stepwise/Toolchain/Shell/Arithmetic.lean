import Stepwise.Text.Numeral
import Stepwise.Toolchain.Shell.Syntax

/-!
# Arithmetic of scripts

A script may calculate with words of 64 bits and with variables, which it may also assign on the
way.

Main definitions:

* `Arithmetic.read`: reads an expression;
* `Arithmetic.evaluate`: its value, and the variables that were assigned.
-/

namespace Stepwise.Shell.Arithmetic

/-! ## 1. Expressions -/

/-- An expression. -/
inductive Expression where
  | number (n : Int64)
  | named (name : Text)
  | unary (mark : Text) (operand : Expression)
  | binary (mark : Text) (left right : Expression)
  | choice (condition yes no : Expression)
  /-- Assigns a variable; the mark, if there is one, first joins its old value to the new one. -/
  | assign (name : Text) (mark : Text) (value : Expression)
  deriving Repr

/-- What is wrong with an expression. -/
inductive Fault where
  | wants (what : Text)
  | byZero
  /-- The value of a variable is no number. -/
  | notNumber (t : Text)
  deriving DecidableEq, Repr

/-- The wording of a fault of an expression. -/
def Fault.message (expression : Text) : Fault → Text
  | wants what => "arithmetic expression: expecting " ++ what ++ ": \"" ++ expression ++ ['"']
  | byZero => "arithmetic expression: division by zero: \"" ++ expression ++ ['"']
  | notNumber t => "Illegal number: " ++ t

/-- A token of an expression. -/
inductive Token where
  | number (n : Int64)
  | name (t : Text)
  | mark (t : Text)
  deriving DecidableEq, Repr

/-- The greatest number. -/
def greatest : Nat := UInt64.size / 2 - 1

/-- The number at the front of a text, which begins with a digit, and what stands behind it.  A zero
in front makes it octal, and an `x` behind that hexadecimal. -/
def numberAt (t : Text) : Int64 × Text :=
  let (radix, body) : Nat × Text := match t with
    | '0' :: x :: d :: rest =>
      if (x = 'x' ∨ x = 'X') ∧ (Text.digit? 16 d).isSome then (16, d :: rest) else (8, t)
    | '0' :: _ => (8, t)
    | _ => (10, t)
  let digits := body.takeWhile fun c => (Text.digit? radix c).isSome
  let value := digits.foldl (fun n c => n * radix + (Text.digit? radix c).getD 0) 0
  (Int64.ofNat (min value greatest), body.drop digits.length)

/-- The marks, longer ones first. -/
def marks : List Text :=
  List.map String.toList
    ["<<=", ">>=", "<<", ">>", "<=", ">=", "==", "!=", "&&", "||", "+=", "-=", "*=", "/=", "%=",
     "&=", "|=", "^=", "+", "-", "*", "/", "%", "<", ">", "=", "&", "|", "^", "!", "~", "?", ":",
     "(", ")"]

/-- The tokens of an expression. -/
def tokens : (fuel : Nat) → Text → List Token
  | 0, _ | _, [] => []
  | fuel + 1, c :: t =>
    if c = ' ' ∨ c = '\t' ∨ c = '\n' then tokens fuel t
    else if c.isDigit then
      let (n, rest) := numberAt (c :: t)
      .number n :: tokens fuel rest
    else if isNameChar c then
      let name := (c :: t).takeWhile isNameChar
      .name name :: tokens fuel (t.drop (name.length - 1))
    else
      match marks.find? fun m => (Text.after? m (c :: t)).isSome with
      | some m => .mark m :: tokens fuel (t.drop (m.length - 1))
      | none => [.mark [c]]

/-- The operators of two operands, the weakest first. -/
def levels : List (List Text) :=
  [["||"], ["&&"], ["|"], ["^"], ["&"], ["==", "!="], ["<", "<=", ">", ">="], ["<<", ">>"],
   ["+", "-"], ["*", "/", "%"]]

/-- The mark by which an assignment joins the old value to the new one. -/
def assigning? : Token → Option Text
  | .mark m =>
    if m = ['='] then some []
    else if m.getLast? = some '=' ∧ !List.any ["==", "!=", "<=", ">="] (·.toList == m) then
      some m.dropLast
    else none
  | _ => none

/-- Something that is read from tokens. -/
abbrev Parsed := Except Fault (Expression × List Token)

mutual

/-- Reads an assignment, or a choice. -/
def assignment : (fuel : Nat) → List Token → Parsed
  | 0, _ => .error (.wants "primary")
  | fuel + 1, ts =>
    match ts with
    | .name x :: t :: rest =>
      match assigning? t with
      | some mark => do
        let (e, rest) ← assignment fuel rest
        return (.assign x mark e, rest)
      | none => choice fuel ts
    | ts => choice fuel ts

/-- Reads a choice. -/
def choice : (fuel : Nat) → List Token → Parsed
  | 0, _ => .error (.wants "primary")
  | fuel + 1, ts => do
    let (c, rest) ← level fuel levels ts
    match rest with
    | .mark ['?'] :: rest =>
      let (a, rest) ← assignment fuel rest
      match rest with
      | .mark [':'] :: rest =>
        let (b, rest) ← choice fuel rest
        return (.choice c a b, rest)
      | _ => throw (.wants "':'")
    | rest => return (c, rest)

/-- Reads operands between operators of the levels that are left. -/
def level : (fuel : Nat) → List (List Text) → List Token → Parsed
  | 0, _, _ => .error (.wants "primary")
  | fuel + 1, [], ts => primary fuel ts
  | fuel + 1, words :: stronger, ts => do
    let (a, rest) ← level fuel stronger ts
    chain fuel words stronger a rest

/-- Reads operators of one level, one after the other. -/
def chain : (fuel : Nat) → List Text → List (List Text) → Expression → List Token → Parsed
  | 0, _, _, _, _ => .error (.wants "primary")
  | fuel + 1, words, stronger, a, ts =>
    match ts with
    | .mark m :: rest =>
      if words.contains m then do
        let (b, rest) ← level fuel stronger rest
        chain fuel words stronger (.binary m a b) rest
      else .ok (a, ts)
    | ts => .ok (a, ts)

/-- Reads a number, a variable, an operator with one operand, or parentheses. -/
def primary : (fuel : Nat) → List Token → Parsed
  | 0, _ => .error (.wants "primary")
  | fuel + 1, ts =>
    match ts with
    | .number n :: rest => .ok (.number n, rest)
    | .name x :: rest => .ok (.named x, rest)
    | .mark ['('] :: rest => do
      let (e, rest) ← assignment fuel rest
      match rest with
      | .mark [')'] :: rest => return (e, rest)
      | _ => throw (.wants "')'")
    | .mark m :: rest =>
      if ["+", "-", "!", "~"].any (·.toList == m) then do
        let (e, rest) ← primary fuel rest
        return (.unary m e, rest)
      else .error (.wants "primary")
    | [] => .error (.wants "primary")

end

/-- Reads an expression. -/
def read (t : Text) : Except Fault Expression := do
  let ts := tokens t.length t
  match ← assignment (14 * ts.length + 14) ts with
  | (e, []) => return e
  | _ => throw (.wants "EOF")

/-! ## 2. Values -/

/-- The number of a truth. -/
def ofBool (b : Bool) : Int64 := if b then 1 else 0

/-- The value of an operator with one operand. -/
def unary (mark : Text) (n : Int64) : Int64 :=
  match String.ofList mark with
  | "-" => -n
  | "!" => ofBool (n == 0)
  | "~" => ~~~n
  | _ => n

/-- The value of an operator with two operands. -/
def binary (mark : Text) (m n : Int64) : Except Fault Int64 :=
  match String.ofList mark with
  | "+" => .ok (m + n)
  | "-" => .ok (m - n)
  | "*" => .ok (m * n)
  | "/" => if n = 0 then .error .byZero else .ok (m / n)
  | "%" => if n = 0 then .error .byZero else .ok (m % n)
  | "<<" => .ok (m <<< n)
  | ">>" => .ok (m >>> n)
  | "&" => .ok (m &&& n)
  | "|" => .ok (m ||| n)
  | "^" => .ok (m ^^^ n)
  | "==" => .ok (ofBool (m == n))
  | "!=" => .ok (ofBool (m != n))
  | "<" => .ok (ofBool (m < n))
  | "<=" => .ok (ofBool (m ≤ n))
  | ">" => .ok (ofBool (n < m))
  | ">=" => .ok (ofBool (n ≤ m))
  | "&&" => .ok (ofBool (m != 0 && n != 0))
  | _ => .ok (ofBool (m != 0 || n != 0))

/-- The number of the value of a variable; no text is zero. -/
def valueOf (t : Text) : Except Fault Int64 :=
  let isSpace (c : Char) : Bool := c == ' ' || (9 ≤ c.toNat && c.toNat ≤ 13)
  let bare := t.dropWhile isSpace
  let (negative, body) : Bool × Text := match bare with
    | '-' :: rest => (true, rest)
    | '+' :: rest => (false, rest)
    | rest => (false, rest)
  if t.isEmpty then .ok 0
  else if !body.head?.any Char.isDigit then .error (.notNumber t)
  else
    let (n, rest) := numberAt body
    if rest.all isSpace then .ok (if negative then -n else n) else .error (.notNumber t)

/-- The text of a number. -/
def toText (n : Int64) : Text :=
  let n := n.toInt
  if n < 0 then '-' :: Text.ofNat n.natAbs else Text.ofNat n.natAbs

/-- Variables that are assigned on the way, the last ones first. -/
abbrev Assigned := List (Text × Text)

/-- The value of an expression. -/
def evaluate (lookup : Text → Option Text) : Expression → Assigned →
    Except Fault (Int64 × Assigned)
  | .number n, as => .ok (n, as)
  | .named x, as => do
    let t := ((as.lookup x).or (lookup x)).getD []
    return (← valueOf t, as)
  | .unary mark e, as => do
    let (n, as) ← evaluate lookup e as
    return (unary mark n, as)
  | .binary mark a b, as => do
    let (m, as) ← evaluate lookup a as
    if mark = "&&".toList ∧ m = 0 then return (0, as)
    else if mark = "||".toList ∧ m ≠ 0 then return (1, as)
    else
      let (n, as) ← evaluate lookup b as
      return (← binary mark m n, as)
  | .choice c a b, as => do
    let (n, as) ← evaluate lookup c as
    if n ≠ 0 then evaluate lookup a as else evaluate lookup b as
  | .assign x mark e, as => do
    let (n, as) ← evaluate lookup e as
    let n ←
      if mark.isEmpty then pure n
      else do
        let old ← valueOf (((as.lookup x).or (lookup x)).getD [])
        binary mark old n
    return (n, (x, toText n) :: as)

end Stepwise.Shell.Arithmetic
