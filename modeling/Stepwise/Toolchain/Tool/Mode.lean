import Stepwise.Files.Change
import Stepwise.Text.Numeral

/-!
# Modes

The mode of a file says in its bits who may read, write and run it: its owner, its group, and all
others.  A mode is given as an octal number, or as clauses that change the mode that there is.

Main definitions:

* `Mode.read?`: the change that a text asks for;
* `Mode.octal`, `Mode.letters`: a mode as a text.
-/

namespace Stepwise.Tool.Mode

/-! ## 1. Changes -/

/-- How a clause changes the bits that it is about. -/
inductive Operation where
  | add
  | remove
  | assign
  deriving DecidableEq, Repr

/-- What a clause asks for. -/
structure Clause where
  /-- The bits of those whom it is about; all of them without those of a mask, if it names none. -/
  who : Option Nat
  operation : Operation
  /-- The letters of the rights. -/
  rights : Text
  deriving DecidableEq, Repr

/-- All bits of a mode. -/
def allBits : Nat := 0o7777

/-- The bits of one of those whom a clause may be about. -/
def whoBits? : Char → Option Nat
  | 'u' => some 0o4700
  | 'g' => some 0o2070
  | 'o' => some 0o1007
  | 'a' => some allBits
  | _ => none

/-- The rights of one of them as the rights of all. -/
def spread (digit : Nat) : Nat := digit % 8 * 0o111

/-- The bits of a right. -/
def rightBits (isDirectory : Bool) (mode : Nat) : Char → Nat
  | 'r' => 0o444
  | 'w' => 0o222
  | 'x' => 0o111
  | 'X' => if isDirectory || mode &&& 0o111 != 0 then 0o111 else 0
  | 's' => 0o6000
  | 't' => 0o1000
  | 'u' => spread (mode / 64)
  | 'g' => spread (mode / 8)
  | _ => spread mode

/-- A mode after a clause. -/
def Clause.apply (c : Clause) (isDirectory : Bool) (mask mode : Nat) : Nat :=
  let asked := c.rights.foldl (fun bits letter => bits ||| rightBits isDirectory mode letter) 0
  let who := c.who.getD allBits
  let bits := asked &&& who
  let bits := if c.who.isNone then FileTree.unmasked bits mask else bits
  match c.operation with
  | .add => mode ||| bits
  | .remove => FileTree.unmasked mode bits
  | .assign => FileTree.unmasked mode who ||| bits

/-- The operation of a sign. -/
def operation? : Char → Option Operation
  | '+' => some .add
  | '-' => some .remove
  | '=' => some .assign
  | _ => none

/-- Whether a letter is one of a right. -/
def isRight (c : Char) : Bool := "rwxXstugo".toList.contains c

/-- The clauses of signs with their rights. -/
def clausesFrom (who : Option Nat) : (fuel : Nat) → Text → Option (List Clause)
  | _, [] => some []
  | 0, _ => none
  | fuel + 1, sign :: t => do
    let operation ← operation? sign
    let rights := t.takeWhile isRight
    let rest ← clausesFrom who fuel (t.drop rights.length)
    return { who, operation, rights } :: rest

/-- The clauses of a text between commas. -/
def clauses? (t : Text) : Option (List Clause) :=
  let names := t.takeWhile fun c => (whoBits? c).isSome
  let who := names.foldl (fun bits c => bits ||| (whoBits? c).getD 0) 0
  match t.drop names.length with
  | [] => none
  | rest => clausesFrom (if names.isEmpty then none else some who) rest.length rest

/-- A change of modes: of directories or files, with a mask. -/
abbrev Change := (isDirectory : Bool) → (mask mode : Nat) → Nat

/-- The number that octal digits write. -/
def octal? (t : Text) : Option Nat :=
  if t.isEmpty then none
  else
    t.foldl (fun n? c => do
      let n ← n?
      let d ← Text.digit? 8 c
      return 8 * n + d) (some 0)

/-- The change that clauses ask for. -/
def change (clauses : List Clause) : Change := fun isDirectory mask mode =>
  clauses.foldl (fun mode c => c.apply isDirectory mask mode) mode

/-- The clauses of a whole text. -/
def allClauses? (t : Text) : Option (List Clause) :=
  ((Text.fields ',' t).mapM clauses?).map List.flatten

/-- The change that a text asks for by clauses. -/
def symbolic? (t : Text) : Option Change := (allClauses? t).map change

/-- The change of what a mask leaves that a text asks for by clauses: they are about all if they
name none, and a comma may stand at the end. -/
def maskChange? (t : Text) : Option Change :=
  let t := if t.getLast? = some ',' ∧ t.length ≠ 1 then t.dropLast else t
  if t.isEmpty then some fun _ _ mode => mode
  else if t.contains 't' then none
  else
    (allClauses? t).map fun clauses =>
      change (clauses.map fun c => { c with who := some (c.who.getD allBits) })

/-- The change that a text asks for. -/
def read? (t : Text) : Option Change :=
  if (t.head?.any Char.isDigit) then
    match octal? t with
    | some n => if n ≤ allBits then some fun _ _ _ => n else none
    | none => none
  else symbolic? t

/-! ## 2. Texts -/

/-- A mode in octal digits. -/
def octal (mode : Nat) : Text := Nat.toDigits 8 mode

/-- Three rights in letters; a further bit stands for another letter in the place of the last. -/
def rightLetters (digit : Nat) (special : Bool) (letter : Char) : Text :=
  [if digit / 4 % 2 = 1 then 'r' else '-', if digit / 2 % 2 = 1 then 'w' else '-',
   if special then if digit % 2 = 1 then letter else letter.toUpper
   else if digit % 2 = 1 then 'x' else '-']

/-- A mode in letters. -/
def letters (mode : Nat) : Text :=
  rightLetters (mode / 64) (mode / 2048 % 2 == 1) 's'
    ++ rightLetters (mode / 8) (mode / 1024 % 2 == 1) 's'
    ++ rightLetters mode (mode / 512 % 2 == 1) 't'

end Stepwise.Tool.Mode
