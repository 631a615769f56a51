import Stepwise.Toolchain.Tool.Basic
import Stepwise.Toolchain.Tool.Bracket
import Stepwise.Toolchain.Tool.Quantity

/-!
# Lines

Tools that print files as they are, in part, with numbers, in order, or counted, and the one that
prints a row of numbers.
-/

namespace Stepwise.Tool

/-! ## 1. Files as they are -/

/-- A byte in characters that can be shown: a caret stands for a control character, and `M-` for a
byte that is not of ASCII. -/
def visible (c : Char) : Text :=
  let low (n : Nat) : Text :=
    if n < 32 then ['^', Char.ofNat (n + 64)] else if n = 127 then "^?" else [Char.ofNat n]
  if c.toNat < 128 then low c.toNat else "M-" ++ low (c.toNat - 128)

/-- A line as `cat` prints it, with its number. -/
def catLine (a : Arguments) (number : Nat) (line : Bytes) : Bytes :=
  let isEnded := line.getLast? == some 10
  let letter (c : Char) : Text :=
    if c = '\t' then if a.has 'A' || a.has 'T' then ['^', 'I'] else [c]
    else if a.has 'A' || a.has 'v' then visible c else [c]
  let mark : Text := if isEnded then if a.has 'A' || a.has 'E' then ['$', '\n'] else ['\n'] else []
  let front : Text := if a.has 'n' then Text.padLeft 6 (Text.ofNat number) ++ ['\t'] else []
  widen (front ++ (narrow (if isEnded then line.dropLast else line)).flatMap letter ++ mark)

/-- `cat`: files one after the other. -/
def cat : Action := withOptions { letters := "nuvAET" } fun a call files =>
  (through usualComplaint call files a.operands (fun number _ bytes =>
    if a.options.isEmpty then (number, bytes)
    else
      let rows := rowsOf 10 bytes
      (number + rows.length, (rows.zipIdx number).flatMap fun (row, n) => catLine a n row)) 1).2

/-- `tee`: the input, also written to files. -/
def tee : Action := withOptions { letters := "a" } fun a call files =>
  let f : Finish := a.operands.foldl (fun f place =>
    let old := if a.has 'a' then ((f.files.read place).toOption).getD [] else []
    match f.files.write place (old ++ call.input) with
    | .ok files => { f with files }
    | .error e => complain f 1 (call.name ++ ": " ++ usualComplaint place e))
    { reads := true, files }
  f.print call.input

/-- `dd`: blocks of a file, perhaps to another file. -/
def dd : Action := fun call files =>
  let value? (name : Text) : Option Text := call.arguments.findSome? fun w => Text.after? name w
  let size (t : Text) : Nat :=
    let unit := if t.getLast? = some 'k' ∨ t.getLast? = some 'K' then 1024
      else if t.getLast? = some 'M' then 1048576 else 1
    (digits? (t.takeWhile Char.isDigit)).getD 0 * unit
  let bs := ((value? "bs=").map size).getD 512
  let contents : Except Text Bytes := match value? "if=" with
    | none => .ok call.input
    | some place => (files.read place).mapError fun e =>
      call.name ++ ": failed to open " ++ quoted place ++ ": " ++ e.message
  match contents with
  | .error told => refused files 1 told
  | .ok bytes =>
    let bytes := bytes.drop (((value? "skip=").map size).getD 0 * bs)
    let bytes := (((value? "count=").map size).map fun n => bytes.take (n * bs)).getD bytes
    let parts := if bytes.length % bs = 0 then "+0" else "+1"
    let records : Text := Text.ofNat (bytes.length / bs) ++ parts
    let told : Text :=
      if value? "status=" = some "none".toList then []
      else unlines [records ++ " records in", records ++ " records out"]
    let f : Finish := { reads := (value? "if=").isNone, files }
    match value? "of=" with
    | none => (f.print bytes).write 2 (Utf8.encode told)
    | some place =>
      match files.write place bytes with
      | .ok files => { f with files }.write 2 (Utf8.encode told)
      | .error e => refused files 1 (call.name ++ ": failed to open " ++ quoted place ++ ": "
          ++ e.message)

/-! ## 2. Parts of files -/

/-- How much of a file is kept. -/
structure Amount where
  /-- Whether bytes are counted and not lines. -/
  countsBytes : Bool := false
  count : Nat := 10
  /-- The sign in front of the number. -/
  sign : Option Char := none
  deriving DecidableEq, Repr

namespace Amount

/-- The units of which a file is made. -/
def units (n : Amount) (bytes : Bytes) : List Bytes :=
  if n.countsBytes then bytes.map ([·]) else rowsOf 10 bytes

/-- The first units, or all but the last. -/
def first (n : Amount) (bytes : Bytes) : Bytes :=
  let units := n.units bytes
  (units.take (if n.sign = some '-' then units.length - n.count else n.count)).flatten

/-- The last units, or all from one on. -/
def last (n : Amount) (bytes : Bytes) : Bytes :=
  let units := n.units bytes
  (units.drop (if n.sign = some '+' then n.count - 1 else units.length - n.count)).flatten

/-- No unit is lost between so many first ones and all behind them. -/
theorem first_append_last (bytes : Bytes) (n : Nat) :
    first { count := n } bytes ++ last { count := n + 1, sign := some '+' } bytes = bytes := by
  simp [first, last, units, ← List.flatten_append, flatten_rowsOf]

/-- The amount that an option asks for. -/
def read? (countsBytes : Bool) (t : Text) : Option Amount :=
  let (sign, t) : Option Char × Text := match t with
    | '-' :: t => (some '-', t)
    | '+' :: t => (some '+', t)
    | t => (none, t)
  (digits? t).map fun count => { countsBytes, count, sign }

end Amount

/-- Prints a part of every file, with titles if there are several. -/
def part (cut : Amount → Bytes → Bytes) : Action := fun call files =>
  /- A number behind a dash is a number of lines. -/
  let words := match call.arguments with
    | ('-' :: d :: t) :: rest => if d.isDigit then "-n".toList :: (d :: t) :: rest else call.arguments
    | words => words
  withOptions { letters := "c:n:q" } (fun a call files =>
    let chosen? := a.options.reverse.find? fun o => o.1 = 'n' ∨ o.1 = 'c'
    match chosen?.elim (some {}) fun (c, t) => Amount.read? (c = 'c') t with
    | none =>
      refused files 1 (call.name ++ ": invalid number of "
        ++ (if chosen?.any (·.1 == 'c') then "bytes: " else "lines: ")
        ++ quoted ((chosen?.map (·.2)).getD []))
    | some amount =>
      let title (isFirst : Bool) (place : Text) : Text :=
        if a.operands.length ≤ 1 || a.has 'q' then []
        else (if isFirst then [] else ['\n']) ++ "==> "
          ++ (if place = ['-'] then "standard input".toList else place) ++ " <==\n"
      let complaint (place : Text) (e : FileError) : Text :=
        "cannot open " ++ quoted place ++ " for reading: " ++ e.message
      (through complaint call files a.operands (fun isFirst place bytes =>
        (false, Utf8.encode (title isFirst place) ++ cut amount bytes)) true).2)
    { call with arguments := words } files

/-- `head`: the first lines or bytes. -/
def head : Action := part Amount.first

/-- `tail`: the last lines or bytes. -/
def tail : Action := part Amount.last

/-! ## 3. Numbers -/

/-- What `wc` can count: lines, words and bytes. -/
def counts (bytes : Bytes) : List (Char × Nat) :=
  [('l', bytes.count 10), ('w', (Text.pieces (inClass "space") (narrow bytes)).length),
   ('m', bytes.length), ('c', bytes.length)]

/-- `wc`: counts lines, words and bytes. -/
def wc : Action := withOptions { letters := "clmw" } fun a call files =>
  let letters : Text := if a.options.isEmpty then "lwc" else a.options.map (·.1)
  let chosen (bytes : Bytes) : List Nat :=
    ((counts bytes).filter fun c => letters.contains c.1).map (·.2)
  let sizes := a.operands.map fun place => ((files.read place).toOption.map List.length).getD 0
  let width := if a.operands.length ≤ 1 ∧ (chosen []).length = 1 then 1
    else if a.operands.all (· != ['-']) && !a.operands.isEmpty then
      (Text.ofNat (sizes.foldl (· + ·) 0)).length
    else 7
  let row (numbers : List Nat) (name : Text) : Bytes :=
    Utf8.encode (Text.join " " (numbers.map fun n => Text.padLeft width (Text.ofNat n))
      ++ (if name.isEmpty then [] else ' ' :: name) ++ ['\n'])
  let (sums, f) := through usualComplaint call files a.operands (fun sums place bytes =>
    (List.zipWith (· + ·) sums (chosen bytes),
      row (chosen bytes) (if a.operands.isEmpty then [] else place)))
    (List.replicate (chosen []).length 0)
  if 1 < a.operands.length then f.print (row sums "total") else f

/-- `nl`: numbered lines. -/
def nl : Action := withOptions { letters := "b:s:v:w:" } fun a call files =>
  let width := (a.number? 'w').getD 6
  let between := bytewise ((a.value? 's').getD ['\t'])
  let style := (a.value? 'b').getD ['t']
  (through usualComplaint call files a.operands (fun number _ bytes =>
    (linesOf bytes).foldl (fun (number, rows) line =>
      if style = ['a'] ∨ style = ['t'] ∧ !line.isEmpty then
        (number + 1, rows ++ bytesOf [Text.padLeft width (Text.ofNat number) ++ between ++ line])
      else (number, rows ++ bytesOf [List.replicate (width + between.length) ' ' ++ line]))
      (number, [])) ((a.number? 'v').getD 1)).2

/-- A number of a row, times a power of ten. -/
structure RowNumber where
  value : Int
  /-- How many digits it has behind the point. -/
  places : Nat
  deriving DecidableEq, Repr

namespace RowNumber

/-- The number that a text writes. -/
def read? (t : Text) : Option RowNumber :=
  let (sign, body) : Int × Text := match t with
    | '-' :: t => (-1, t)
    | t => (1, t)
  match Quantity.digitsOf body with
  | some (n, places, []) => some { value := sign * Int.ofNat n, places }
  | _ => none

/-- The number times a power of ten that gives it so many places. -/
def scaled (x : RowNumber) (places : Nat) : Int :=
  x.value * Int.ofNat (Nat.pow 10 (places - x.places))

/-- The numbers from one to another in steps. -/
def row (step last : Int) : (fuel : Nat) → Int → List Int
  | 0, _ => []
  | fuel + 1, n =>
    if 0 < step ∧ last < n ∨ step < 0 ∧ n < last then [] else n :: row step last fuel (n + step)

/-- No number of a row that goes up is behind the last one. -/
theorem le_of_mem_row {step last : Int} (hs : 0 < step) {fuel : Nat} {n m : Int}
    (h : m ∈ row step last fuel n) : m ≤ last := by
  induction fuel generalizing n with
  | zero => cases h
  | succ fuel ih =>
    unfold row at h
    split at h
    · cases h
    · next hn =>
      rcases List.mem_cons.mp h with rfl | h
      · omega
      · exact ih h

end RowNumber

/-- `seq`: the numbers from one to another in steps. -/
def seq : Action := fun call files =>
  let isNumber (t : Text) : Bool := (RowNumber.read? t).isSome
  let front := call.arguments.takeWhile (!isNumber ·)
  let front := if front.getLast? = some "-s".toList then call.arguments.take (front.length + 1)
    else front
  let operands := call.arguments.drop front.length
  match ({ letters := "s:w", mixed := false } : Grammar).read front,
      operands.find? (!isNumber ·), operands.filterMap RowNumber.read? with
  | .error e, _, _ => rejected call files 1 e
  | .ok _, some t, _ => misused call files 1 ("invalid floating point argument: " ++ quoted t)
  | .ok a, none, numbers =>
    let one : RowNumber := { value := 1, places := 0 }
    let range? := match a.operands, numbers with
      | [], [last] => some (one, one, last)
      | [], [first, last] => some (first, one, last)
      | [], [first, step, last] => some (first, step, last)
      | _, _ => none
    match range? with
    | none => misused call files 1 "missing operand"
    | some (first, step, last) =>
      if step.value = 0 then
        misused call files 1 ("invalid Zero increment value: " ++ quoted (operands.getD 1 []))
      else
        let places := max (max first.places step.places) last.places
        let shown := max first.places step.places
        let (begin, stride, stop) := (first.scaled places, step.scaled places, last.scaled places)
        let text (n : Int) : Text :=
          (if n < 0 then ['-'] else [])
            ++ Quantity.pointed shown false (n.natAbs / Nat.pow 10 (places - shown))
        let row := RowNumber.row stride stop ((stop - begin).natAbs / stride.natAbs + 1) begin
        let width := max (text begin).length (text stop).length
        let zeros (t : Text) : Text :=
          let sign := t.takeWhile (· == '-')
          sign ++ List.replicate (width - t.length) '0' ++ t.drop sign.length
        let texts := row.map fun n => if a.has 'w' then zeros (text n) else text n
        if texts.isEmpty then { files }
        else wrote files (Text.join ((a.value? 's').getD ['\n']) texts ++ ['\n'])

/-! ## 4. Order -/

/-- The number at the front of a line, which counts in an order of numbers. -/
def leadingInt (t : Text) : Int :=
  let (sign, t) : Int × Text := match t.dropWhile (inClass "blank") with
    | '-' :: t => (-1, t)
    | t => (1, t)
  sign * Int.ofNat ((digits? (t.takeWhile Char.isDigit)).getD 0)

/-- `sort`: lines in order. -/
def sort : Action := withOptions { letters := "nru", status := 2 } fun a =>
  let le (s t : Text) : Bool :=
    if a.has 'n' && leadingInt s != leadingInt t then leadingInt s < leadingInt t else textLe s t
  lineFilter (fun lines =>
    let sorted := lines.mergeSort fun s t => if a.has 'r' then le t s else le s t
    if a.has 'u' then sorted.eraseReps else sorted) a.operands

/-- Lines that are alike and stand together, with how many they are. -/
def runsOf : List Text → List (Text × Nat)
  | [] => []
  | t :: ts =>
    match runsOf ts with
    | (u, n) :: rest => if t = u then (u, n + 1) :: rest else (t, 1) :: (u, n) :: rest
    | [] => [(t, 1)]

/-- No line is lost in runs. -/
theorem flatMap_runsOf (lines : List Text) :
    (runsOf lines).flatMap (fun (t, n) => List.replicate n t) = lines := by
  induction lines with
  | nil => rfl
  | cons t ts ih =>
    unfold runsOf
    split
    · next u n rest h =>
      rw [h] at ih
      split
      · next ht =>
        subst ht
        simpa [List.replicate_succ] using ih
      · simpa using ih
    · next h =>
      rw [h] at ih
      simpa using ih

/-- `uniq`: one of the lines that are alike and stand together. -/
def uniq : Action := withOptions { letters := "cdu" } fun a =>
  lineFilter (fun lines =>
    let kept := (runsOf lines).filter fun (_, n) => !(a.has 'd' && n == 1 || a.has 'u' && 1 < n)
    kept.map fun (t, n) => if a.has 'c' then Text.padLeft 7 (Text.ofNat n) ++ ' ' :: t else t)
    (a.operands.take 1)

/-! ## 5. Columns -/

/-- The ranges of a list between commas; a range may be open at either end. -/
def ranges? (t : Text) : Option (List (Nat × Option Nat)) :=
  (Text.fields ',' t).mapM fun part =>
    match Text.cut? "-" part with
    | none => (digits? part).map fun n => (n, some n)
    | some (low, high) => do
      let low ← if low.isEmpty then some 1 else digits? low
      if high.isEmpty then return (low, none) else return (low, some (← digits? high))

/-- `cut`: columns of lines. -/
def cut : Action := withOptions { letters := "b:c:d:f:s" } fun a call files =>
  let asked? := a.options.find? fun o => "bcf".toList.contains o.1
  match asked?.map fun (c, t) => (c, ranges? t) with
  | none =>
    misused call files 1 "you must specify a list of bytes, characters, or fields"
  | some (_, none) => misused call files 1 "invalid field value"
  | some (c, some ranges) =>
    let isMeant (n : Nat) : Bool := ranges.any fun r => r.1 ≤ n && r.2.all (n ≤ ·)
    let kept {α : Type} (xs : List α) : List α :=
      (xs.zipIdx 1).filterMap fun (x, n) => if isMeant n then some x else none
    let mark := ((a.value? 'd').bind List.head?).getD '\t'
    let row (line : Text) : Option Text :=
      if c ≠ 'f' then some (kept line)
      else if line.contains mark then some (Text.join [mark] (kept (Text.fields mark line)))
      else if a.has 's' then none else some line
    filter (fun bytes => bytesOf ((linesOf bytes).filterMap row)) a.operands call files

end Stepwise.Tool
