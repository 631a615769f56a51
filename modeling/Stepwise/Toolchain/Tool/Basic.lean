import Stepwise.Files.Machine
import Stepwise.Text.Blank
import Stepwise.Text.Numeral
import Stepwise.Toolchain.Compile

/-!
# Tools

A tool is a program that a script may call besides the shell itself.  It takes a call and the files
around it, and says what it leaves behind.  This module holds what tools have in common: how they
read their options and the files named to them, and how they tell that something went wrong.
-/

namespace Stepwise.Tool

/-- What a tool does. -/
abbrev Action := Call → FileTree → Finish

/-- A tool that printed something and did nothing else. -/
def said (files : FileTree) (output : Bytes) : Finish := { told := [(1, output)], files }

/-- A tool that printed text and did nothing else. -/
def wrote (files : FileTree) (t : Text) : Finish := said files (Utf8.encode t)

/-- A tool that failed with a line to tell why. -/
def refused (files : FileTree) (status : Nat) (line : Text) : Finish :=
  { status := .code status, told := [(2, Utf8.encode (line ++ ['\n']))], files }

/-- Adds a line of complaint to what a tool leaves behind. -/
def complain (f : Finish) (status : Nat) (line : Text) : Finish :=
  { f with status := .code status }.write 2 (Utf8.encode (line ++ ['\n']))

/-! ## 1. Bytes as characters -/

/-- Bytes as characters of their own. -/
def narrow (bytes : Bytes) : Text := bytes.map fun b => Char.ofNat b.toNat

/-- The bytes of such characters. -/
def widen (t : Text) : Bytes := t.map fun c => UInt8.ofNat c.toNat

/-- The bytes of a text as characters of their own: tools that look at characters look at bytes. -/
def bytewise (t : Text) : Text := narrow (Utf8.encode t)

/-- The text of such characters. -/
def charwise (t : Text) : Text := Utf8.decode (widen t)

/-! ## 2. Names in messages -/

/-- Whether a character of a name can be shown as it is. -/
def isShowable (c : Char) : Bool := 32 ≤ c.toNat && c.toNat < 127

/-- Whether a shell would take a name for what it is not if it had no quotes. -/
def needsQuotes (t : Text) : Bool :=
  let marks : Text := " !\"$&'()*:;<=>?[\\^\x60|"
  t.isEmpty || t.any (fun c => !isShowable c || marks.contains c)
    || t.head? == some '#' || t.head? == some '~' || t = ['\x7b'] || t = ['\x7d']

/-- A character that cannot be shown, in letters. -/
def escapedChar (c : Char) : Text :=
  let letters : List (Nat × Char) :=
    [(7, 'a'), (8, 'b'), (9, 't'), (10, 'n'), (11, 'v'), (12, 'f'), (13, 'r')]
  '\\' :: match letters.lookup c.toNat with
    | some letter => [letter]
    | none => [c.toNat / 64, c.toNat / 8 % 8, c.toNat % 8].map fun d => Char.ofNat (48 + d)

/-- The characters of a name between quotes, with the quote at the end.  Characters that cannot be
shown stand between quotes of their own. -/
def quotedFrom : (escaping : Bool) → Text → Text
  | _, [] => ['\'']
  | escaping, c :: t =>
    if isShowable c then
      (if escaping then "''".toList else []) ++ (if c = '\'' then "'\\''".toList else [c])
        ++ quotedFrom false t
    else (if escaping then [] else "'$'".toList) ++ escapedChar c ++ quotedFrom true t

/-- A name between quotes.  Double quotes are used around a single one if nothing in the name would
have a meaning there. -/
def quoted (t : Text) : Text :=
  let t := bytewise t
  let plain (c : Char) : Bool := c.isAlphanum || " '%+,-./:]_".toList.contains c
  if t.contains '\'' && t.all plain then '"' :: t ++ ['"'] else '\'' :: quotedFrom false t

/-- A name as it is shown: between quotes only if it needs them. -/
def shown (t : Text) : Text := if needsQuotes (bytewise t) then quoted t else t

/-! ## 3. Options -/

/-- The number that a text writes with digits only. -/
def digits? (t : Text) : Option Nat :=
  if t.isEmpty || !t.all Char.isDigit then none
  else (Text.readDigits 10 (Nat.pow 10 t.length) 0 t).toOption

/-- The options and operands of a call. -/
structure Arguments where
  /-- The options in order, with their values; a flag has an empty one. -/
  options : List (Char × Text) := []
  operands : List Text := []
  deriving DecidableEq, Repr

namespace Arguments

/-- Whether an option was given. -/
def has (a : Arguments) (c : Char) : Bool := a.options.any (·.1 == c)

/-- The last value of an option. -/
def value? (a : Arguments) (c : Char) : Option Text :=
  (a.options.reverse.find? (·.1 == c)).map (·.2)

/-- All values of an option. -/
def values (a : Arguments) (c : Char) : List Text :=
  (a.options.filter (·.1 == c)).map (·.2)

/-- The value of an option that is a number. -/
def number? (a : Arguments) (c : Char) : Option Nat := (a.value? c).bind digits?

end Arguments

/-- What is wrong with options. -/
inductive OptionError where
  | unknown (letter : Char)
  | noValue (letter : Char)
  | unknownWord (word : Text)
  /-- A value makes no sense. -/
  | wrongValue (told : Text)
  deriving DecidableEq, Repr

/-- The wording of an option error. -/
def OptionError.message : OptionError → Text
  | unknown c => "invalid option -- '" ++ [c, '\'']
  | noValue c => "option requires an argument -- '" ++ [c, '\'']
  | unknownWord w => "unrecognized option '" ++ w ++ ['\'']
  | wrongValue told => told

/-- The options that a tool takes. -/
structure Grammar where
  /-- The letters; those that take a value have a colon behind them. -/
  letters : Text
  /-- Whether options may stand behind operands. -/
  mixed : Bool := true
  /-- The status of a call with wrong options. -/
  status : Nat := 1

namespace Grammar

/-- Whether a letter takes a value, if it is an option at all. -/
def takes? (g : Grammar) (c : Char) : Option Bool :=
  match g.letters.dropWhile (· != c) with
  | [] => none
  | _ :: rest => if c = ':' then none else some (rest.head? == some ':')

/-- The options behind one dash, and the one whose value is the next word. -/
def cluster (g : Grammar) : Text → Except OptionError (List (Char × Text) × Option Char)
  | [] => .ok ([], none)
  | c :: t =>
    match g.takes? c with
    | none => .error (.unknown c)
    | some true => .ok (if t.isEmpty then ([], some c) else ([(c, t)], none))
    | some false => (cluster g t).map fun (given, waiting) => ((c, []) :: given, waiting)

/-- Reads words behind an option that waits for its value. -/
def readFrom (g : Grammar) : (waiting : Option Char) → List Text → Except OptionError Arguments
  | none, [] => .ok {}
  | some c, [] => .error (.noValue c)
  | some c, w :: ws => do
    let a ← g.readFrom none ws
    return { a with options := (c, w) :: a.options }
  | none, w :: ws =>
    match w with
    | ['-', '-'] => .ok { operands := ws }
    | '-' :: '-' :: _ => .error (.unknownWord w)
    | '-' :: c :: t => do
      let (given, waiting) ← g.cluster (c :: t)
      let a ← g.readFrom waiting ws
      return { a with options := given ++ a.options }
    | _ =>
      if g.mixed then do
        let a ← g.readFrom none ws
        return { a with operands := w :: a.operands }
      else .ok { operands := w :: ws }

/-- Reads the words of a call. -/
def read (g : Grammar) (words : List Text) : Except OptionError Arguments := g.readFrom none words

/-- Words behind two dashes are operands, whatever they look like. -/
theorem read_dashes (g : Grammar) (words : List Text) :
    g.read (['-', '-'] :: words) = .ok { operands := words } := rfl

end Grammar

/-- What a tool says when it is called in a wrong way. -/
def misused (call : Call) (files : FileTree) (status : Nat) (message : Text) : Finish :=
  refused files status (call.name ++ ": " ++ message ++ "\nTry '" ++ call.name
    ++ " --help' for more information.")

/-- What a tool says to wrong options. -/
def rejected (call : Call) (files : FileTree) (status : Nat) : OptionError → Finish
  | .wrongValue told => refused files status (call.name ++ ": " ++ told)
  | e => misused call files status e.message

/-- A tool that reads its options first. -/
def withOptions (g : Grammar) (body : Arguments → Action) : Action := fun call files =>
  match g.read call.arguments with
  | .ok arguments => body arguments call files
  | .error e => rejected call files g.status e

/-- A tool that needs an operand. -/
def needing (body : Arguments → Action) : Arguments → Action := fun a call files =>
  if a.operands.isEmpty then misused call files 1 "missing operand" else body a call files

/-! ## 4. Files -/

/-- Goes through operands, or the input if there are none; a dash is the input.  Of each that can be
read something is printed, and something is known behind it; of the others it is told what is
wrong. -/
def through {σ : Type} (complaint : Text → FileError → Text) (call : Call) (files : FileTree)
    (operands : List Text) (step : σ → Text → Bytes → σ × Bytes) (begun : σ) : σ × Finish :=
  let operands := if operands.isEmpty then [['-']] else operands
  operands.foldl
    (fun (known, f) place =>
      let isInput := place = ['-'] || files.channelOf? place == some 0
      let contents : Except FileError Bytes :=
        if !isInput then files.read place else .ok (if f.reads then [] else call.input)
      match contents with
      | .ok bytes =>
        let (known, shown) := step known place bytes
        (known, { f.print shown with reads := f.reads || isInput })
      | .error e => (known, complain f 1 (call.name ++ ": " ++ complaint place e)))
    (begun, { files })

/-- The usual complaint about a place. -/
def usualComplaint (place : Text) (e : FileError) : Text := shown place ++ ": " ++ e.message

/-- A tool that makes something else of the contents of every operand. -/
def filter (change : Bytes → Bytes) (operands : List Text) : Action := fun call files =>
  (through usualComplaint call files operands (fun _ _ bytes => ((), change bytes)) ()).2

/-- A tool that makes something else of the contents of all its operands together. -/
def whole (change : Bytes → Bytes) (operands : List Text) : Action := fun call files =>
  let (bytes, f) := through usualComplaint call files operands
    (fun known _ bytes => (known ++ bytes, [])) []
  f.print (change bytes)

/-- The rows of bytes, each with its mark at the end; the last one may have none. -/
def rowsOf (mark : UInt8) : Bytes → List Bytes
  | [] => []
  | b :: bs =>
    if b = mark then [b] :: rowsOf mark bs
    else
      match rowsOf mark bs with
      | [] => [[b]]
      | row :: rows => (b :: row) :: rows

/-- No byte gets lost between rows. -/
theorem flatten_rowsOf (mark : UInt8) (bytes : Bytes) : (rowsOf mark bytes).flatten = bytes := by
  induction bytes with
  | nil => rfl
  | cons b bs ih =>
    unfold rowsOf
    split
    · next h => simp [ih, h]
    · cases hb : rowsOf mark bs with
      | nil => simp_all
      | cons row rows =>
        simp only [hb, List.flatten_cons] at ih
        simp [← ih]

/-- The lines of a text without their newlines. -/
def textLines (t : Text) : List Text :=
  match Text.breakLines t with
  | (lines, []) => lines
  | (lines, rest) => lines ++ [rest]

/-- Lines with their newlines. -/
def unlines (lines : List Text) : Text := lines.flatMap (· ++ ['\n'])

/-- The lines of bytes. -/
def linesOf (bytes : Bytes) : List Text := textLines (narrow bytes)

/-- The bytes of lines. -/
def bytesOf (lines : List Text) : Bytes := widen (unlines lines)

/-- A tool that makes other lines of the lines of its operands. -/
def lineFilter (change : List Text → List Text) : List Text → Action :=
  whole fun bytes => bytesOf (change (linesOf bytes))

/-! ## 5. Numbers and order -/

/-- The number that a text writes, with a sign allowed in front. -/
def integer? : Text → Option Int
  | '-' :: t => (digits? t).map fun n => -Int.ofNat n
  | '+' :: t => (digits? t).map Int.ofNat
  | t => (digits? t).map Int.ofNat

/-- Whether a row of numbers does not come behind another one in the order of a dictionary. -/
def dictionaryLe : List Nat → List Nat → Bool
  | [], _ => true
  | _ :: _, [] => false
  | a :: as, b :: bs => a < b || (a == b && dictionaryLe as bs)

/-- Whether one text does not come behind another. -/
def textLe (a b : Text) : Bool := dictionaryLe (a.map Char.toNat) (b.map Char.toNat)

end Stepwise.Tool
