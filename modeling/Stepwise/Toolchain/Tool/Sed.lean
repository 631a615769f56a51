import Stepwise.Toolchain.Tool.Basic
import Stepwise.Toolchain.Tool.Regex

/-!
# Editing and searching lines

`sed` carries out commands on every line; a command may have addresses, which say on which lines it
is carried out.  `grep` prints the lines in which an expression is found.

Main definitions:

* `Sed.read`: reads commands, which are kept in a row;
* `Sed.carryOut`: carries them out on a line;
* `Tool.sed`, `Tool.grep`.
-/

namespace Stepwise

namespace Sed

/-! ## 1. Commands -/

/-- A line of the input. -/
inductive Address where
  | line (n : Nat)
  /-- The first of some lines, and from there on every so many. -/
  | every (first step : Nat)
  | last
  | holding (pattern : Regex) (fold : Bool)
  deriving Repr

/-- The lines on which a command is carried out. -/
inductive Range where
  | all
  | at (address : Address)
  /-- From one address to another. -/
  | between (first stop : Address)
  /-- From an address on for so many lines. -/
  | more (first : Address) (lines : Nat)
  deriving Repr

/-- How letters are changed. -/
inductive Casing where
  | asIs
  | upper
  | lower
  deriving DecidableEq, Repr

/-- What is put in the place of a match. -/
inductive Piece where
  | text (t : Text)
  | group (n : Nat)
  /-- From here on letters are changed, or only the next one is. -/
  | casing (c : Casing) (once : Bool)
  deriving DecidableEq, Repr

/-- A substitution. -/
structure Substitution where
  pattern : Regex
  replacement : List Piece
  all : Bool := false
  /-- Which match is the first to be replaced. -/
  nth : Nat := 1
  prints : Bool := false
  fold : Bool := false
  deriving Repr

/-- What a command does. -/
inductive Effect where
  /-- Opens a block of so many commands. -/
  | block (size : Nat)
  | substitute (s : Substitution)
  | exchange (old new : Text)
  | append (t : Text)
  | insert (t : Text)
  | change (t : Text)
  | quit (status : Nat)
  | label (name : Text)
  /-- Goes on at a label or at the end, perhaps only if a substitution has been made since the line
  was read. -/
  | jump (ifChanged : Bool) (name : Text)
  /-- A command that is a letter and nothing else. -/
  | letter (c : Char)
  deriving Repr

/-- A command with the lines it is for. -/
structure Command where
  range : Range
  negated : Bool
  effect : Effect
  deriving Repr

/-! ## 2. Editing -/

/-- How lines are edited. -/
structure Editing where
  space : Text := []
  hold : Text := []
  number : Nat := 0
  /-- The lines that come next. -/
  left : List Text
  output : Text := []
  /-- Text that is printed behind the line. -/
  trailer : Text := []
  /-- The ranges that have begun, by the places of their commands, with the lines at which they end
  if that is known. -/
  opened : List (Nat × Option Nat) := []
  /-- Whether lines are printed only when a command says so. -/
  quiet : Bool := false
  /-- Whether a substitution has been made since the line was read. -/
  changed : Bool := false
  /-- Whether nothing more is done with the line, and then whether it is printed. -/
  finished : Option Bool := none
  /-- Whether the script is over, and then its status. -/
  ended : Option Nat := none
  /-- Whether the last line has no newline. -/
  isOpen : Bool := false

namespace Editing

/-- Prints a line. -/
def print (e : Editing) (t : Text) : Editing :=
  { e with output := e.output ++ t ++ if e.isOpen && e.left.isEmpty then [] else ['\n'] }

/-- Prints text behind which there is always a newline. -/
def printText (e : Editing) (t : Text) : Editing := { e with output := e.output ++ t ++ ['\n'] }

/-- Prints the line if that is usual, and what is to stand behind it. -/
def finishLine (e : Editing) (shown : Bool) : Editing :=
  let e := if shown && !e.quiet then e.print e.space else e
  { e with output := e.output ++ e.trailer, trailer := [] }

/-- Whether the line is at an address. -/
def isAt (e : Editing) : Address → Bool
  | .line n => e.number = n
  | .every first step =>
    if step = 0 then e.number = first else first ≤ e.number && (e.number - first) % step = 0
  | .last => e.left.isEmpty
  | .holding r fold => (r.search? fold none 0 e.space).isSome

/-- Closes the range of the command at a place. -/
def closeRange (e : Editing) (place : Nat) : Editing :=
  { e with opened := e.opened.filter (·.1 != place) }

/-- Whether the range of the command at a place has the line, with the ranges that are open then. -/
def covers (e : Editing) (place : Nat) (range : Range) : Bool × Editing :=
  let opening (first : Address) (stop : Option Nat) : Bool × Editing :=
    if e.isAt first then
      (true, if stop.any (· ≤ e.number) then e
        else { e with opened := (place, stop) :: e.opened })
    else (false, e)
  match range, e.opened.lookup place with
  | .all, _ => (true, e)
  | .at a, _ => (e.isAt a, e)
  | .between first (.line m), none => opening first (some m)
  | .between first _, none => opening first none
  | .more first lines, none => opening first (some (e.number + lines))
  | .between _ _, some (some stop) | .more _ _, some (some stop) =>
    (e.number ≤ stop, if stop ≤ e.number then e.closeRange place else e)
  | .between _ stop, some none => (true, if e.isAt stop then e.closeRange place else e)
  | .more _ _, some none => (true, e)

end Editing

/-- A text in which letters are changed; the first one may be changed in its own way. -/
def Casing.change (all : Casing) (first : Option Casing) : Text → Text
  | [] => []
  | c :: t => apply (first.getD all) c :: t.map (apply all)
where
  /-- A character as it is to be. -/
  apply : Casing → Char → Char
    | .asIs, c => c
    | .upper, c => c.toUpper
    | .lower, c => c.toLower

/-- The text of a replacement for a match. -/
def Substitution.fill (s : Substitution) (m : Regex.Match) : Text :=
  (s.replacement.foldl step ([], .asIs, none)).1
where
  /-- Adds a piece; the state tells how letters are changed. -/
  step (state : Text × Casing × Option Casing) (p : Piece) : Text × Casing × Option Casing :=
    let (done, all, first) := state
    let add (t : Text) : Text × Casing × Option Casing :=
      (done ++ all.change first t, all, if t.isEmpty then first else none)
    match p with
    | .text t => add t
    | .group n => add (m.group n)
    | .casing c true => (done, all, some c)
    | .casing c false => (done, c, none)

/-- Replaces matches in what is left of a line; `n` tells which match comes next, and `fresh`
whether no match has just ended here, so that an empty one counts.  Tells whether something was
replaced. -/
def Substitution.apply (s : Substitution) : (fuel : Nat) → (n offset : Nat) →
    (last : Option Char) → (fresh : Bool) → Text → Text × Bool
  | 0, _, _, _, _, t => (t, false)
  | fuel + 1, n, offset, last, fresh, t =>
    /- One character is left as it is. -/
    let pass (n offset : Nat) : Text → Text × Bool
      | [] => ([], false)
      | c :: t =>
        let (rest, more) := s.apply fuel n (offset + 1) (some c) true t
        (c :: rest, more)
    match s.pattern.search? s.fold last offset t with
    | none => (t, false)
    | some m =>
      if m.before.isEmpty && m.found.isEmpty && !fresh then pass n offset t
      else
        let replaces := s.nth ≤ n
        let used := offset + m.before.length + m.found.length
        let (tail, more) : Text × Bool :=
          if replaces && !s.all then (m.behind, false)
          else if m.found.isEmpty then pass (n + 1) used m.behind
          else s.apply fuel (n + 1) used m.found.getLast? false m.behind
        (m.before ++ (if replaces then s.fill m else m.found) ++ tail, replaces || more)

/-- A character of a line as it is shown. -/
def shownChar (c : Char) : Text :=
  if c = '\\' then ['\\', '\\'] else if Tool.isShowable c then [c] else Tool.escapedChar c

/-- What a line is made of, with its end, in lines of at most seventy characters. -/
def shownLine (t : Text) : Text :=
  (t.foldl (fun (done, column) c =>
    let piece := shownChar c
    if 69 < column + piece.length then (done ++ "\\\n".toList ++ piece, piece.length)
    else (done ++ piece, column + piece.length)) (([], 0) : Text × Nat)).1 ++ ['$']

/-- Carries out a command that is a letter. -/
def letter (c : Char) (e : Editing) : Editing :=
  match c, e.left with
  | 'd', _ => { e with finished := some false }
  | 'p', _ => e.print e.space
  | 'P', _ => e.printText (e.space.takeWhile (· != '\n'))
  | 'h', _ => { e with hold := e.space }
  | 'H', _ => { e with hold := e.hold ++ '\n' :: e.space }
  | 'g', _ => { e with space := e.hold }
  | 'G', _ => { e with space := e.space ++ '\n' :: e.hold }
  | 'x', _ => { e with space := e.hold, hold := e.space }
  | 'l', _ => e.printText (shownLine e.space)
  | '=', _ => e.printText (Text.ofNat e.number)
  | 'n', line :: left => { (e.finishLine true) with space := line, left, number := e.number + 1 }
  | 'N', line :: left => { e with space := e.space ++ '\n' :: line, left, number := e.number + 1 }
  | 'n', [] | 'N', [] => { e with finished := some true, ended := some 0 }
  | _, _ => e

/-- Carries out one command, and gives the place of the next one. -/
def step (commands : List Command) (place : Nat) (c : Command) (e : Editing) : Nat × Editing :=
  let (covered, e) := e.covers place c.range
  let next (e : Editing) : Nat × Editing := (place + 1, e)
  let target (name : Text) : Nat :=
    (commands.findIdx? fun c => match c.effect with
      | .label l => l == name && !name.isEmpty
      | _ => false).getD commands.length
  match covered == c.negated, c.effect with
  | true, .block size => (place + 1 + size, e)
  | true, _ | false, .block _ | false, .label _ => next e
  | false, .jump ifChanged name =>
    if ifChanged && !e.changed then next e else (target name, { e with changed := false })
  | false, .substitute s =>
    let (t, changed) := s.apply (2 * e.space.length + 3) 1 0 none true e.space
    let e := { e with space := t, changed := e.changed || changed }
    next (if changed && s.prints then e.print t else e)
  | false, .exchange a b => next { e with space := e.space.map fun c => ((a.zip b).lookup c).getD c }
  | false, .append t => next { e with trailer := e.trailer ++ t ++ ['\n'] }
  | false, .insert t => next (e.printText t)
  | false, .change t =>
    let isLast := (e.opened.lookup place).isNone
    next { (if isLast || c.negated then e.printText t else e) with finished := some false }
  | false, .quit status => next { e with finished := some true, ended := some status }
  | false, .letter c => next (letter c e)

/-- Carries out commands on a line, from a place on. -/
def carryOut (commands : List Command) : (fuel place : Nat) → Editing → Editing
  | 0, _, e => e
  | fuel + 1, place, e =>
    match if e.finished.isSome then none else commands[place]? with
    | none => e
    | some c =>
      let (next, e) := step commands place c e
      carryOut commands fuel next e

/-- Edits all lines. -/
def editAll (commands : List Command) : (fuel : Nat) → Editing → Editing
  | 0, e => e
  | fuel + 1, e =>
    match if e.ended.isSome then [] else e.left with
    | [] => e
    | line :: left =>
      let e := carryOut commands 100000 0
        { e with space := line, left, number := e.number + 1, finished := none, changed := false }
      editAll commands fuel (e.finishLine (e.finished.getD true))

/-! ## 3. Reading commands -/

/-- What is wrong with commands, and how many characters are left behind it. -/
structure Mistake where
  left : Nat
  message : Text
  deriving DecidableEq, Repr

/-- Fails in front of a text. -/
def mistaken {α : Type} (rest : Text) (message : Text) : Except Mistake α :=
  .error { left := rest.length, message }

/-- Text up to a mark that has no backslash in front, and what stands behind it.  A backslash in
front of the mark is left out. -/
def upTo? (mark : Char) : Text → Option (Text × Text)
  | [] => none
  | '\\' :: c :: t =>
    (upTo? mark t).map fun (head, rest) =>
      (if c = mark then c :: head else '\\' :: c :: head, rest)
  | c :: t =>
    if c = mark then some ([], t) else (upTo? mark t).map fun (head, rest) => (c :: head, rest)

/-- The character that a letter behind a backslash stands for. -/
def coded? (letter : Char) : Option Char :=
  [('a', '\x07'), ('f', '\x0c'), ('n', '\n'), ('r', '\r'), ('t', '\t'), ('v', '\x0b')].lookup letter

/-- The pieces of a replacement. -/
def pieces : (fuel : Nat) → Text → List Piece
  | 0, _ | _, [] => []
  | fuel + 1, '&' :: t => .group 0 :: pieces fuel t
  | fuel + 1, '\\' :: c :: t =>
    let casings : List (Char × Piece) :=
      [('U', .casing .upper false), ('L', .casing .lower false), ('E', .casing .asIs false),
       ('u', .casing .upper true), ('l', .casing .lower true)]
    let piece := if c.isDigit then .group (c.toNat - '0'.toNat)
      else (casings.lookup c).getD (.text [(coded? c).getD c])
    piece :: pieces fuel t
  | fuel + 1, c :: t => .text [c] :: pieces fuel t

/-- A number at the front of a text. -/
def number? (t : Text) : Option (Nat × Text) :=
  let digits := t.takeWhile Char.isDigit
  (Tool.digits? digits).map fun n => (n, t.drop digits.length)

/-- The expression that a pattern writes. -/
def regex (extended : Bool) (pattern rest : Text) : Except Mistake Regex :=
  match Regex.read extended pattern with
  | .ok r => .ok r
  | .error e => mistaken rest e.message

/-- An address, if there is one. -/
def address (extended : Bool) (t : Text) : Except Mistake (Option Address × Text) := do
  match t with
  | '$' :: rest => return (some .last, rest)
  | '/' :: rest =>
    let some (pattern, rest) := upTo? '/' rest | mistaken [] "unterminated address regex"
    let letters := rest.takeWhile (· == 'I')
    return (some (.holding (← regex extended pattern rest) !letters.isEmpty),
      rest.drop letters.length)
  | t =>
    match number? t with
    | none => return (none, t)
    | some (n, '~' :: rest) =>
      let (step, rest) := (number? rest).getD (0, rest)
      return (some (.every n step), rest)
    | some (n, rest) => return (some (.line n), rest)

/-- Whether a character is a blank. -/
def isBlank (c : Char) : Bool := c == ' ' || c == '\t'

/-- The lines of a command. -/
def range (extended : Bool) (t : Text) : Except Mistake (Range × Text) := do
  let (some first, rest) ← address extended t | return (.all, t)
  match rest.dropWhile isBlank with
  | ',' :: '+' :: rest =>
    let (lines, rest) := (number? rest).getD (0, rest)
    return (.more first lines, rest)
  | ',' :: rest =>
    match ← address extended (rest.dropWhile isBlank) with
    | (some stop, rest) => return (.between first stop, rest)
    | (none, rest) => mistaken rest.tail "unexpected \x60,'"
  | rest => return (.at first, rest)

/-- The flags of a substitution. -/
def flags : (fuel : Nat) → Substitution → Text → Except Mistake (Substitution × Text)
  | 0, s, t => .ok (s, t)
  | _, s, [] => .ok (s, [])
  | fuel + 1, s, c :: t =>
    if c = 'g' then flags fuel { s with all := true } t
    else if c = 'p' then flags fuel { s with prints := true } t
    else if c = 'i' ∨ c = 'I' then flags fuel { s with fold := true } t
    else if c.isDigit then
      let (n, rest) := (number? (c :: t)).getD (1, t)
      if n = 0 then mistaken rest "number option to \x60s' command may not be zero"
      else flags fuel { s with nth := n } rest
    else if "\n;\x7d# \t".toList.contains c then .ok (s, c :: t)
    else mistaken t "unknown option to \x60s'"

/-- The text of a command that adds text, up to the end of the line. -/
def addition (t : Text) : Except Mistake (Text × Text) :=
  let t := match t.dropWhile isBlank with
    | '\\' :: '\n' :: rest | '\\' :: rest | rest => rest
  if t.isEmpty then mistaken [] "expected \\ after \x60a', \x60c' or \x60i'"
  else
    let line := t.takeWhile (· != '\n')
    .ok (line, t.drop (line.length + 1))

/-- The name of a label. -/
def labelName (t : Text) : Text × Text :=
  let t := t.dropWhile isBlank
  let name := t.takeWhile fun c => !"\n;\x7d \t".toList.contains c
  (name, t.drop name.length)

/-- What a command does. -/
def effect (extended : Bool) : Text → Except Mistake (Effect × Text)
  | [] => mistaken [] "missing command"
  | 's' :: t => do
    let unterminated : Except Mistake (Text × Text) := mistaken [] "unterminated \x60s' command"
    let mark := t.headD '/'
    let (pattern, rest) ← (upTo? mark t.tail).elim unterminated .ok
    let (replacement, rest) ← (upTo? mark rest).elim unterminated .ok
    let (s, rest) ← flags (rest.length + 1)
      { pattern := .empty, replacement := pieces replacement.length replacement } rest
    return (.substitute { s with pattern := ← regex extended pattern rest }, rest)
  | 'y' :: t => do
    let unterminated : Except Mistake (Text × Text) := mistaken [] "unterminated \x60y' command"
    let mark := t.headD '/'
    let (old, rest) ← (upTo? mark t.tail).elim unterminated .ok
    let (new, rest) ← (upTo? mark rest).elim unterminated .ok
    if old.length = new.length then return (.exchange old new, rest)
    else mistaken rest "strings for \x60y' command are different lengths"
  | 'a' :: t => (addition t).map fun (t, rest) => (.append t, rest)
  | 'i' :: t => (addition t).map fun (t, rest) => (.insert t, rest)
  | 'c' :: t => (addition t).map fun (t, rest) => (.change t, rest)
  | 'q' :: t =>
    let (status, rest) := (number? (t.dropWhile isBlank)).getD (0, t)
    .ok (.quit status, rest)
  | ':' :: t =>
    let (name, rest) := labelName t
    if name.isEmpty then mistaken rest "\":\" lacks a label" else .ok (.label name, rest)
  | 'b' :: t =>
    let (name, rest) := labelName t
    .ok (.jump false name, rest)
  | 't' :: t =>
    let (name, rest) := labelName t
    .ok (.jump true name, rest)
  | c :: t =>
    if "dpPhHgGxl=nN".toList.contains c then .ok (.letter c, t)
    else mistaken t ("unknown command: \x60" ++ [c, '\''])

/-- What stands behind a command. -/
def behind (t : Text) : Except Mistake Text :=
  match t.dropWhile isBlank with
  | [] => .ok []
  | c :: rest =>
    if c = ';' ∨ c = '\n' then .ok rest
    else if c = '\x7d' ∨ c = '#' then .ok (c :: rest)
    else mistaken rest "extra characters after command"

/-- Reads commands up to a closing brace or the end. -/
def commands (extended : Bool) : (fuel : Nat) → (inBlock : Bool) → Text →
    Except Mistake (List Command × Text)
  | 0, _, t => .ok ([], t)
  | fuel + 1, inBlock, t =>
    match t.dropWhile fun c => c == ';' || c == '\n' || isBlank c with
    | [] => if inBlock then .error { left := t.length, message := "unmatched \x60\x7b'" }
      else .ok ([], [])
    | '#' :: rest => commands extended fuel inBlock (rest.dropWhile (· != '\n'))
    | '\x7d' :: rest => if inBlock then .ok ([], rest) else mistaken rest "unexpected \x60\x7d'"
    | t => do
      let (range, rest) ← range extended t
      let rest := rest.dropWhile isBlank
      let negated := rest.head? == some '!'
      let rest := if negated then rest.tail.dropWhile isBlank else rest
      match rest with
      | '\x7b' :: rest =>
        let (body, rest) ← commands extended fuel true rest
        let (more, rest) ← commands extended fuel inBlock (← behind rest)
        return ({ range, negated, effect := .block body.length } :: body ++ more, rest)
      | rest =>
        let (effect, rest) ← effect extended rest
        let rest ← match effect with
          | .append _ | .insert _ | .change _ => pure rest
          | _ => behind rest
        let (more, rest) ← commands extended fuel inBlock rest
        return ({ range, negated, effect } :: more, rest)

/-- Reads the commands of a script. -/
def read (extended : Bool) (t : Text) : Except Mistake (List Command) :=
  (commands extended (t.length + 1) false t).map (·.1)

end Sed

namespace Tool

/-! ## 4. The tools -/

/-- `sed`: commands on every line. -/
def sed : Action := withOptions { letters := "nEre:i" } fun a call files =>
  let (script?, operands) : Option Text × List Text := match a.values 'e', a.operands with
    | [], s :: rest => (some s, rest)
    | [], [] => (none, [])
    | given, operands => (some (Text.join ['\n'] given), operands)
  match script?.map bytewise with
  | none => misused call files 1 "no script"
  | some script =>
    match Sed.read (a.has 'E' || a.has 'r') script with
    | .error m =>
      refused files 1 (call.name ++ ": -e expression #1, char "
        ++ Text.ofNat (script.length - m.left) ++ ": " ++ m.message)
    | .ok commands =>
      let edit (bytes : Bytes) : Sed.Editing :=
        Sed.editAll commands (bytes.length + 1)
          { left := linesOf bytes, quiet := a.has 'n', isOpen := bytes.getLast?.any (· != 10) }
      let complaint (place : Text) (e : FileError) : Text :=
        "can't read " ++ place ++ ": " ++ e.message
      let (pieces, f) := through complaint call files operands
        (fun known place bytes => (known ++ [(place, bytes)], [])) []
      let f := if f.status.isSuccess then f else { f with status := .code 2 }
      if a.has 'i' then
        pieces.foldl (fun f (place, bytes) =>
          { f with files := (f.files.write place (widen (edit bytes).output)).toOption.getD f.files })
          f
      else
        let e := edit (pieces.flatMap (·.2))
        { f.print (widen e.output) with
          status := if (e.ended.getD 0) = 0 then f.status else .code (e.ended.getD 0) }

/-- `grep`: the lines in which an expression is found, or how many they are, or where they are. -/
def grep : Action := withOptions { letters := "EFchilnoqsvwxe:", status := 2 } fun a call files =>
  let (pattern?, operands) : Option Text × List Text := match a.value? 'e', a.operands with
    | none, p :: rest => (some p, rest)
    | p?, operands => (p?, operands)
  let read (t : Text) : Except Regex.Mistake Regex :=
    if a.has 'F' then .ok (Regex.ofText t) else Regex.read (a.has 'E') t
  match pattern?.map fun p => read (bytewise p) with
  | none => refused files 2 ("Usage: " ++ call.name ++ " [OPTION]... PATTERNS [FILE]...")
  | some (.error e) => refused files 2 (call.name ++ ": " ++ e.message)
  | some (.ok r) =>
    let r : Regex := if a.has 'x' then .both .start (.both r .finish)
      else if a.has 'w' then .both (.border .word) (.both r (.border .word)) else r
    let isMeant (line : Text) : Bool := (r.search? (a.has 'i') none 0 line).isSome != a.has 'v'
    let shown (place : Text) (bytes : Bytes) : Bool × Bytes :=
      let found := ((linesOf bytes).zipIdx 1).filter fun line => isMeant line.1
      let front : Text := if operands.length ≤ 1 || a.has 'h' then [] else place ++ [':']
      let rows : List Text :=
        if a.has 'q' then []
        else if a.has 'l' then if found.isEmpty then [] else [place]
        else if a.has 'c' then [front ++ Text.ofNat found.length]
        else found.map fun (line, n) =>
          front ++ (if a.has 'n' then Text.ofNat n ++ [':'] else [])
            ++ if a.has 'o' then ((r.search? (a.has 'i') none 0 line).map (·.found)).getD []
              else line
      (!found.isEmpty, bytesOf rows)
    let (any, f) := through usualComplaint call files operands (fun any place bytes =>
      let (found, bytes) := shown place bytes
      (any || found, bytes)) false
    if f.status.isSuccess then { f with status := .code (if any then 0 else 1) }
    else { f with status := .code 2 }

end Tool

end Stepwise
