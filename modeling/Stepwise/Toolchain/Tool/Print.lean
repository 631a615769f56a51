import Stepwise.Toolchain.Tool.Basic
import Stepwise.Toolchain.Tool.Quantity

/-!
# Printing

`echo` prints its arguments, in which backslashes have a meaning.  `printf` prints a format again
and again until its arguments are used up; a directive of the format says how one argument is
printed.

Main definitions:

* `Print.escapes`: a text with what its backslashes stand for;
* `Print.formatted`: what a format prints for arguments, and what is wrong with them.
-/

namespace Stepwise.Tool.Print

/-! ## 1. Backslashes -/

/-- The byte meant by a letter behind a backslash. -/
def letterByte? : Char → Option UInt8
  | 'a' => some 7
  | 'b' => some 8
  | 't' => some 9
  | 'n' => some 10
  | 'v' => some 11
  | 'f' => some 12
  | 'e' => some 27
  | 'r' => some 13
  | '\\' => some 92
  | _ => none

/-- The value of octal digits. -/
def octalValue (digits : Text) : Nat :=
  digits.foldl (fun n c => n * 8 + (Text.digit? 8 c).getD 0) 0

/-- Octal digits at the front of a text, at most `n` of them. -/
def octalDigits (n : Nat) (t : Text) : Text :=
  (t.take n).takeWhile fun c => (Text.digit? 8 c).isSome

/-- What a backslash stands for with the text behind it, and what is left of that text. -/
def escape (t : Text) : Bytes × Text :=
  match t with
  | [] => ([92], [])
  | c :: rest =>
    match letterByte? c, octalDigits 3 t with
    | some b, _ => ([b], rest)
    | none, [] => ([92], t)
    | none, digits => ([UInt8.ofNat (octalValue digits)], t.drop digits.length)

/-- A text with what its backslashes stand for, and whether it asks for printing to stop. -/
def escapes : (fuel : Nat) → Text → Bytes × Bool
  | 0, _ | _, [] => ([], false)
  | fuel + 1, c :: t =>
    let go (bytes : Bytes) (t : Text) : Bytes × Bool :=
      let (more, stop) := escapes fuel t
      (bytes ++ more, stop)
    if c ≠ '\\' then go (widen [c]) t
    else
      match t with
      | 'c' :: _ => ([], true)
      | '0' :: t =>
        let digits := octalDigits 3 t
        go [UInt8.ofNat (octalValue digits)] (t.drop digits.length)
      | t =>
        let (bytes, t) := escape t
        go bytes t

/-- `echo`: the arguments with blanks between them. -/
def echo : Action := fun call files =>
  let (arguments, newline) : List Text × Bytes := match call.arguments with
    | ['-', 'n'] :: rest => (rest, [])
    | all => (all, [10])
  let t := bytewise (Text.join " " arguments)
  let (bytes, stop) := escapes t.length t
  said files (bytes ++ if stop then [] else newline)

/-! ## 2. Arguments -/

/-- How a text begins as a number: its value, and the text behind it if there are digits. -/
def leadingNumber (t : Text) : Int × Option Text :=
  let t := t.dropWhile Text.isBlank
  let (negative, t) := match t with
    | '-' :: t => (true, t)
    | '+' :: t => (false, t)
    | t => (false, t)
  let (radix, body) : Nat × Text := match t with
    | '0' :: x :: d :: rest =>
      if (x = 'x' ∨ x = 'X') ∧ (Text.digit? 16 d).isSome then (16, d :: rest) else (8, t)
    | '0' :: _ => (8, t)
    | _ => (10, t)
  let digits := body.takeWhile fun c => (Text.digit? radix c).isSome
  let value := digits.foldl (fun n c => n * radix + (Text.digit? radix c).getD 0) 0
  (if negative then -Int.ofNat value else Int.ofNat value,
    if digits.isEmpty then none else some (body.drop digits.length))

/-- Bounds of a word of 64 bits. -/
def clamp (signed : Bool) (n : Int) : Int :=
  if signed then max (-Int.ofNat (UInt64.size / 2)) (min n (UInt64.size / 2 - 1 : Nat))
  else min n (UInt64.size - 1 : Nat)

/-- The number that an argument gives, and what is wrong with it. -/
def number (signed : Bool) (t : Text) : Int × Option Text :=
  match t with
  | [] => (0, none)
  | ['\''] | ['"'] => (0, none)
  | '\'' :: c :: _ | '"' :: c :: _ => (c.toNat, none)
  | _ =>
    match leadingNumber t with
    | (_, none) => (0, some (t ++ ": expected numeric value"))
    | (n, some rest) =>
      if clamp signed n ≠ n then
        (clamp signed n, some (t ++ ": Numerical result out of range"))
      else (n, if rest.isEmpty then none else some (t ++ ": not completely converted"))

/-- The quantity that an argument gives, and what is wrong with it. -/
def quantity (t : Text) : Quantity × Option Text :=
  let zero : Quantity := .finite false { num := 0, den := 1 }
  match t with
  | [] | ['\''] | ['"'] => (zero, none)
  | '\'' :: c :: _ | '"' :: c :: _ => (.finite false { num := c.toNat, den := 1 }, none)
  | _ =>
    match Quantity.read? (t.dropWhile Text.isBlank) with
    | none => (zero, some (t ++ ": expected numeric value"))
    | some (x, rest) =>
      (x.rounded, if rest.isEmpty then none else some (t ++ ": not completely converted"))

/-! ## 3. Directives -/

/-- A directive of a format. -/
structure Directive where
  flags : Text := []
  width : Nat := 0
  precision : Option Nat := none
  deriving DecidableEq, Repr

/-- Fills a text up to the width of a directive. -/
def Directive.pad (d : Directive) (t : Text) : Text :=
  let room := List.replicate (d.width - t.length) ' '
  if d.flags.contains '-' then t ++ room else room ++ t

/-- A number in the form of a directive: a sign or mark, and digits. -/
def Directive.padNumber (d : Directive) (mark digits : Text) : Text :=
  let digits := match d.precision with
    | some p => List.replicate (p - digits.length) '0' ++ digits
    | none => digits
  if d.flags.contains '0' ∧ !d.flags.contains '-' ∧ d.precision = none then
    mark ++ List.replicate (d.width - mark.length - digits.length) '0' ++ digits
  else d.pad (mark ++ digits)

/-- The digits of a number as an unsigned word. -/
def unsignedDigits (radix : Nat) (n : Int) : Text :=
  Text.digits radix (n % (UInt64.size : Int)).toNat

/-- A number as a letter of a directive asks for it. -/
def Directive.number (d : Directive) (c : Char) (n : Int) : Text :=
  if c = 'd' ∨ c = 'i' then
    let mark : Text := if n < 0 then ['-'] else if d.flags.contains '+' then ['+']
      else if d.flags.contains ' ' then [' '] else []
    d.padNumber mark (Text.ofNat n.natAbs)
  else
    let sharp := d.flags.contains '#' && n != 0
    if c = 'o' then d.padNumber (if sharp then ['0'] else []) (unsignedDigits 8 n)
    else if c = 'x' then d.padNumber (if sharp then ['0', 'x'] else []) (unsignedDigits 16 n)
    else if c = 'X' then
      d.padNumber (if sharp then ['0', 'X'] else []) ((unsignedDigits 16 n).map Char.toUpper)
    else d.padNumber [] (unsignedDigits 10 n)

/-- A quantity as a letter of a directive asks for it. -/
def Directive.quantity (d : Directive) (c : Char) (x : Quantity) : Text :=
  let (size, isNumber) := Quantity.Style.size
    { letter := c.toLower, precision := d.precision, keepsPoint := d.flags.contains '#' } x
  let mark : Text := if x.isNegative then ['-'] else if d.flags.contains '+' then ['+']
    else if d.flags.contains ' ' then [' '] else []
  let t := if d.flags.contains '0' ∧ !d.flags.contains '-' ∧ isNumber then
      /- Zeros stand behind the mark of hexadecimal digits. -/
      let front : Text := if size.take 2 = "0x".toList then "0x" else []
      mark ++ front ++ List.replicate (d.width - mark.length - size.length) '0'
        ++ size.drop front.length
    else d.pad (mark ++ size)
  if c.isUpper then t.map Char.toUpper else t

/-! ## 4. Formats -/

/-- What has been printed, and what is left to print. -/
structure Printing where
  output : Bytes := []
  /-- The arguments that are left. -/
  left : List Text
  complaints : List Text := []
  status : Nat := 0
  /-- Whether printing is over. -/
  ended : Bool := false
  deriving DecidableEq, Repr

namespace Printing

/-- Prints bytes. -/
def add (p : Printing) (bytes : Bytes) : Printing := { p with output := p.output ++ bytes }

/-- The next argument; a missing one is empty. -/
def next (p : Printing) : Text × Printing := (p.left.headD [], { p with left := p.left.tail })

/-- Notes what is wrong with an argument. -/
def note (p : Printing) (complaint : Option Text) : Printing :=
  match complaint with
  | some t => { p with complaints := p.complaints ++ [t], status := 1 }
  | none => p

/-- Ends printing because the format is none. -/
def fail (p : Printing) (t : Text) : Printing :=
  { p with complaints := p.complaints ++ [t], status := 2, ended := true }

/-- The next argument as a number. -/
def nextNumber (p : Printing) (signed : Bool) : Int × Printing :=
  let (t, p) := p.next
  let (n, complaint) := Print.number signed t
  (n, p.note complaint)

/-- The next argument as a quantity. -/
def nextQuantity (p : Printing) : Quantity × Printing :=
  let (t, p) := p.next
  let (x, complaint) := Print.quantity t
  (x, p.note complaint)

/-- A width or precision: digits, or a star for the next argument. -/
def amount (p : Printing) (t : Text) : Option Int × Text × Printing :=
  match t with
  | '*' :: t =>
    let (n, p) := p.nextNumber true
    (some n, t, p)
  | t =>
    let digits := t.takeWhile Char.isDigit
    ((digits? digits).map Int.ofNat, t.drop digits.length, p)

/-- Prints the next argument as a letter asks for it. -/
def convert (p : Printing) (d : Directive) (c : Char) (word : Text) : Printing :=
  let cut (t : Text) : Text := match d.precision with
    | some n => t.take n
    | none => t
  if c = 's' then
    let (t, p) := p.next
    p.add (widen (d.pad (cut t)))
  else if c = 'c' then
    let (t, p) := p.next
    p.add (widen (d.pad (if t.isEmpty then ['\x00'] else t.take 1)))
  else if c = 'b' then
    let (t, p) := p.next
    let (bytes, stop) := escapes t.length t
    { p.add (widen (d.pad (cut (narrow bytes)))) with ended := stop }
  else if "diouxX".toList.contains c then
    let (n, p) := p.nextNumber (c = 'd' || c = 'i')
    p.add (widen (d.number c n))
  else if "efgEFG".toList.contains c then
    let (x, p) := p.nextQuantity
    p.add (widen (d.quantity c x))
  else p.fail (word ++ ": invalid directive")

/-- Prints what the text behind a percent sign asks for; gives what is left of it. -/
def directive (p : Printing) (t : Text) : Printing × Text :=
  match t with
  | '%' :: t => (p.add [37], t)
  | _ =>
    let flags := t.takeWhile fun c => "-+ #0".toList.contains c
    let (width?, behind, p) := p.amount (t.drop flags.length)
    let (precision, behind, p) : Option Nat × Text × Printing := match behind with
      | '.' :: t =>
        let (n?, t, p) := p.amount t
        /- A precision below zero is none. -/
        let n := n?.getD 0
        (if n < 0 then none else some n.toNat, t, p)
      | t => (none, t, p)
    match behind with
    | [] => (p.fail "missing format character", [])
    | c :: rest =>
      let word : Text := '%' :: (t.take (t.length - rest.length))
      /- A width below zero fills the other side. -/
      let width := width?.getD 0
      let flags := if width < 0 then '-' :: flags else flags
      (p.convert { flags, width := width.natAbs, precision } c word, rest)

/-- Prints a format once. -/
def once : (fuel : Nat) → Printing → Text → Printing
  | 0, p, _ | _, p, [] => p
  | fuel + 1, p, c :: t =>
    if p.ended then p
    else if c = '\\' then
      let (bytes, t) := escape t
      once fuel (p.add bytes) t
    else if c = '%' then
      let (p, t) := p.directive t
      once fuel p t
    else once fuel (p.add (widen [c])) t

/-- Prints a format as long as it takes arguments. -/
def again (template : Text) : (fuel : Nat) → Printing → Printing
  | 0, p => p
  | fuel + 1, p =>
    let q := once template.length p template
    if q.ended || q.left.isEmpty || q.left.length == p.left.length then q
    else again template fuel q

end Printing

/-- What a format prints for arguments. -/
def formatted (template : Text) (arguments : List Text) : Printing :=
  Printing.again template (arguments.length + 1) { left := arguments }

/-- `printf`: a format and its arguments. -/
def printf : Action := fun call files =>
  let arguments := match call.arguments with
    | ['-', '-'] :: rest => rest
    | all => all
  match arguments with
  | [] => refused files 2 (call.name ++ ": usage: printf format [arg ...]")
  | template :: arguments =>
    let p := formatted (bytewise template) (arguments.map bytewise)
    let complaints := unlines (p.complaints.map fun t => call.name ++ ": " ++ charwise t)
    { told := [(2, Utf8.encode complaints), (1, p.output)]
      status := .code p.status
      files }

end Stepwise.Tool.Print
