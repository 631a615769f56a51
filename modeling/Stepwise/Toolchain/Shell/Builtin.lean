import Stepwise.Toolchain.Shell.Expansion
import Stepwise.Toolchain.Shell.Reader
import Stepwise.Toolchain.Shell.Scope
import Stepwise.Toolchain.Tool.Mode

/-!
# Builtin commands

Commands that a shell carries out itself because they change what it knows: where it is, its
variables, arguments and options, and how it ends.

Main definitions:

* `Builtin.named?`: the builtin command of a name.
-/

namespace Stepwise.Shell

/-- A builtin command: what it does with its arguments, and its status. -/
abbrev Builtin := List Text → Act Nat

namespace Builtin

/-! ## 1. Arguments -/

/-- A number that is given as an argument. -/
def number (t : Text) : Act Nat :=
  match Tool.digits? t with
  | some n => if n < UInt32.size / 2 then return n else fail ("Illegal number: " ++ t)
  | none => fail ("Illegal number: " ++ t)

/-- The options of a builtin command, and its operands.  The letters are those that are allowed. -/
def options (letters : Text) : List Text → Act (Text × List Text)
  | [] => return ([], [])
  | w :: ws =>
    match w with
    | ['-', '-'] => return ([], ws)
    | '-' :: c :: rest =>
      match (c :: rest).find? (!letters.contains ·) with
      | some c => fail ("Illegal option -" ++ [c])
      | none => do
        let (given, operands) ← options letters ws
        return (c :: rest ++ given, operands)
    | _ => return ([], w :: ws)

/-- The parts of a text in quotes: single ones, and double ones around those that the text has. -/
def quotedParts : (fuel : Nat) → Text → Text
  | 0, _ => []
  | fuel + 1, t =>
    let plain := t.takeWhile (· != '\'')
    let behind := t.drop plain.length
    let quotes := behind.takeWhile (· == '\'')
    let rest := behind.drop quotes.length
    '\'' :: plain ++ '\'' :: (if quotes.isEmpty then [] else '"' :: quotes ++ ['"'])
      ++ if rest.isEmpty then [] else quotedParts fuel rest

/-- A text in quotes, as a shell reads it back. -/
def quote (t : Text) : Text := quotedParts (t.length + 1) t

/-! ## 2. Ends -/

/-- `exit` -/
def exit : Builtin
  | [] => do throw (.exit (← get).status)
  | t :: _ => do throw (.exit (← number t))

/-- `return` -/
def back : Builtin
  | [] => do throw (.back (← get).status)
  | t :: _ => do throw (.back (← number t))

/-- `break` and `continue`: so many loops end, or go on. -/
def loops (jump : Nat → Jump) (arguments : List Text) : Act Nat := do
  let n ← match arguments with
    | [] => pure 1
    | t :: _ => number t
  if n = 0 then fail ("Illegal number: " ++ arguments.headD [])
  else
    let s ← get
    if s.loops = 0 then return 0
    else
      setStatus 0
      throw (jump (min n s.loops))

/-! ## 3. Places -/

/-- A rooted spelling in which no name stays where it is or goes up: such a name takes away the one
before it. -/
def settled (spelling : Text) : Text :=
  let names := (Spelling.names spelling).foldl (fun names name =>
    if Spelling.stays name then names
    else if Spelling.goesUp name then names.dropLast
    else names ++ [name]) []
  Spelling.ofParts true names

/-- The spelling of a place from a directory on. -/
def spelledFrom (here target : Text) : Text :=
  settled (if Spelling.isRooted target then target else Spelling.join here target)

/-- Goes to a place; gives how it is spelled.  A name that goes up takes away the name before it,
unless the place is looked for as it is. -/
def enter (bodily : Bool) (target : Text) : Act (Option Text) := do
  let s ← get
  let goal := if bodily then target else spelledFrom s.place target
  match s.files.find goal with
  | .ok (path, .directory _) =>
    let place := if bodily then FileTree.spell path else goal
    let mark (name : Text) (value : Text) : Act Unit := do
      assign name value
      exportVariable name
    set { s with files := { s.files with current := path }, place }
    mark "OLDPWD" s.place
    mark "PWD" place
    return place
  | _ => return none

/-- Whether a place is looked for as it is and not as it is spelled: the last of some letters
says so. -/
def isBodily (letters : Text) : Bool := letters.getLast? == some 'P'

/-- `cd`: goes to a place, which may also be below one of the directories in a variable. -/
def changeDirectory (arguments : List Text) : Act Nat := do
  let (given, operands) ← options "LP" arguments
  let s ← get
  let goesBack := operands.head? == some ['-']
  let target := match operands with
    | [] => (s.value? "HOME").getD []
    | t :: _ => if goesBack then (s.value? "OLDPWD").getD [] else t
  let first := (Spelling.names target).headD []
  let isFixed := Spelling.isRooted target || Spelling.goesUp first || first == ['.']
  let above : List Text := if isFixed then [] else
    ((s.value? "CDPATH").map (Text.fields ':')).getD []
  let found? := above.find? fun d => !d.isEmpty && s.files.isDirectory (Spelling.join d target)
  let earlier := above.takeWhile fun d => some d != found?
  let found? := if earlier.any (·.isEmpty) && s.files.isDirectory target then none else found?
  let place := match found? with
    | some d => Spelling.join d target
    | none => if target.isEmpty then ['.'] else target
  match ← enter (isBodily given) place with
  | some place =>
    if goesBack || found?.isSome then writeText 1 (place ++ ['\n'])
    return 0
  | none => fail ("can't cd to " ++ target)

/-- `pwd` -/
def printDirectory (arguments : List Text) : Act Nat := do
  let (given, _) ← options "LP" arguments
  let s ← get
  writeText 1 ((if isBodily given then FileTree.spell s.files.current else s.place) ++ ['\n'])
  return 0

/-- The rights that a mask leaves, in letters. -/
def rightsOf (mask : Nat) : Text :=
  let letters (digit : Nat) : Text :=
    (Tool.Mode.rightLetters (7 - digit % 8) false 's').filter (· != '-')
  "u=" ++ letters (mask / 64) ++ ",g=" ++ letters (mask / 8) ++ ",o=" ++ letters mask

/-- `umask` -/
def umask (arguments : List Text) : Act Nat := do
  let (given, operands) ← options "S" arguments
  let s ← get
  let mask := s.files.mask
  let become (n : Nat) : Act Nat := do
    set { s with files := { s.files with mask := n &&& 0o777 } }
    return 0
  match operands with
  | [] =>
    let digits := Tool.Mode.octal mask
    writeText 1 (if given.isEmpty then List.replicate (4 - digits.length) '0' ++ digits ++ ['\n']
      else rightsOf mask ++ ['\n'])
    return 0
  | t :: _ =>
    if t.head?.any Char.isDigit then
      match Tool.Mode.octal? t with
      | some n => become n
      | none => fail ("Illegal number: " ++ t)
    else
      match Tool.Mode.maskChange? t with
      | some change => become (0o777 - change false mask (0o777 - mask) &&& 0o777)
      | none => fail ("Illegal mode: " ++ t)

/-! ## 4. Variables -/

/-- The variables in order, as a shell reads them back. -/
def listing (front : Text) (vars : List (Text × Variable)) : Text :=
  let rows := vars.mergeSort fun a b => Tool.textLe a.1 b.1
  rows.flatMap fun (name, v) =>
    front ++ name ++ (v.value.elim [] fun t => '=' :: quote t) ++ ['\n']

/-- The name of a variable in an argument, and the value that it is given, if there is one. -/
def given (t : Text) : Text × Option Text :=
  match Text.cut? "=" t with
  | some (name, value) => (name, some value)
  | none => (t, none)

/-- `export` and `readonly`: marks variables, perhaps with a value. -/
def markVariables (front : Text) (has : Variable → Bool) (mark : Variable → Variable)
    (arguments : List Text) : Act Nat := do
  let (_, operands) ← options "p" arguments
  if operands.isEmpty then
    writeText 1 (listing front ((← get).vars.filter fun v => has v.2))
  for t in operands do
    let (name, value?) := given t
    if !isName name then fail (name ++ ": bad variable name")
    else
      if let some value := value? then assign name value
      modify fun s => s.setVar name (mark ((s.var? name).getD {}))
  return 0

/-- `unset` -/
def unset (arguments : List Text) : Act Nat := do
  let (given, operands) ← options "fv" arguments
  for name in operands do
    let s ← get
    if given.contains 'f' then
      set { s with functions := s.functions.filter (·.1 != name) }
    else if !isName name then fail (name ++ ": bad variable name")
    else if ((s.var? name).getD {}).fixed then fail (name ++ ": is read only")
    else set (s.dropVar name)
  return 0

/-- `local`: variables of a function, which are as before when it ends. -/
def localVariables (arguments : List Text) : Act Nat := do
  if (← get).locals.isNone then fail "not in a function"
  for t in arguments do
    let (name, value?) := given t
    if !isName name then fail (name ++ ": bad variable name")
    else
      modify fun s => { s with locals := s.locals.map ((name, s.var? name) :: ·) }
      if let some value := value? then assign name value
  return 0

/-- `shift` -/
def shift (arguments : List Text) : Act Nat := do
  let n ← match arguments with
    | [] => pure 1
    | t :: _ => number t
  let s ← get
  if s.arguments.length < n then fail "can't shift that many"
  else
    set { s with arguments := s.arguments.drop n }
    return 0

/-- The options with their letters and names. -/
def optionNames : List (Char × Text) :=
  List.map (fun (c, t) => (c, String.toList t))
    [('e', "errexit"), ('f', "noglob"), ('n', "noexec"), ('s', "stdin"), ('x', "xtrace"),
     ('v', "verbose"), ('C', "noclobber"), ('a', "allexport"), ('u', "nounset"), ('m', "monitor")]

/-- Sets an option, or not. -/
def setOption (on : Bool) (c : Char) : Act Unit :=
  modify fun s =>
    let others := s.options.filter (· != c)
    { s with options := if on then c :: others else others }

/-- `set`: options and arguments. -/
def setAll : (fuel : Nat) → List Text → Act Nat
  | 0, _ | _, [] => return 0
  | fuel + 1, w :: ws =>
    let arguments (ws : List Text) : Act Nat := do
      modify fun s => { s with arguments := ws }
      return 0
    match w with
    | ['-', '-'] => arguments ws
    | ['-'] => do
      setOption false 'x'
      if ws.isEmpty then return 0 else arguments ws
    | sign :: c :: rest =>
      if sign = '-' ∨ sign = '+' then do
        let letters := (c :: rest).filter (· != 'o')
        for c in letters do
          if optionNames.any (·.1 == c) then setOption (sign = '-') c
          else fail ("Illegal option -" ++ [c])
        if (c :: rest).contains 'o' then
          match ws with
          | [] => return 0
          | name :: ws =>
            match optionNames.find? (·.2 == name) with
            | some (c, _) => setOption (sign = '-') c
            | none => fail ("Illegal option -o " ++ name)
            setAll fuel ws
        else setAll fuel ws
      else arguments (w :: ws)
    | _ => arguments (w :: ws)

/-- `set` -/
def setWords (arguments : List Text) : Act Nat := do
  if arguments.isEmpty then
    writeText 1 (listing [] ((← get).vars.filter fun v => v.2.value.isSome))
  setAll (arguments.length + 1) arguments

/-! ## 5. Reading -/

/-- A line of the input: its characters, of which those behind a backslash are quoted, how many
bytes it has, and whether it is complete. -/
def lineOf (raw : Bool) : (fuel : Nat) → Bytes → List Glyph → Nat → List Glyph × Nat × Bool
  | 0, _, line, count | _, [], line, count => (line, count, false)
  | fuel + 1, b :: bytes, line, count =>
    let glyph (b : UInt8) (quoted : Bool) : Glyph := { char := Char.ofNat b.toNat, quoted }
    if b = 10 then (line, count + 1, true)
    else
      match b, bytes with
      | 92, c :: rest =>
        if raw then lineOf raw fuel bytes (line ++ [glyph b false]) (count + 1)
        else if c = 10 then lineOf raw fuel rest line (count + 2)
        else lineOf raw fuel rest (line ++ [glyph c true]) (count + 2)
      | b, bytes => lineOf raw fuel bytes (line ++ [glyph b false]) (count + 1)

/-- Whether a character is a blank that separates. -/
def isBlankMark (separators : Text) (g : Glyph) : Bool :=
  !g.quoted && separators.contains g.char && (g.char == ' ' || g.char == '\t' || g.char == '\n')

/-- How many characters the last variable takes of what is left of a line.  It takes one field
without what separates it, if that is all that is left, and otherwise everything but the blanks at
the end. -/
def lastLength (separators : Text) (line : List Glyph) : Nat :=
  let isMark (g : Glyph) : Bool := !g.quoted && separators.contains g.char
  let field := line.takeWhile (!isMark ·)
  match line.drop field.length with
  | [] => line.length
  | mark :: rest =>
    let step (state : Option Nat × Bool × Nat) (g : Glyph) : Option Nat × Bool × Nat :=
      let (cut?, blanks, n) := state
      if isBlankMark separators g then (cut?.or (some n), blanks, n + 1)
      else (if isMark g && blanks then cut? else none, false, n + 1)
    let (cut?, _, _) := rest.foldl step
      (some field.length, isBlankMark separators mark, field.length + 1)
    cut?.getD line.length

/-- The values of variables that take the fields of a line, the last one all that is left. -/
def distribute (separators : Text) : List Text → List Glyph → List (Text × List Glyph)
  | [], _ => []
  | [name], line =>
    let line := line.dropWhile (isBlankMark separators)
    [(name, line.take (lastLength separators line))]
  | name :: names, line =>
    let isMark (g : Glyph) : Bool := !g.quoted && separators.contains g.char
    let line := line.dropWhile (isBlankMark separators)
    let field := line.takeWhile (!isMark ·)
    let rest := (line.drop field.length).dropWhile (isBlankMark separators)
    let rest := if rest.head?.any fun g => isMark g && !isBlankMark separators g
      then rest.tail else rest
    (name, field) :: distribute separators names rest

/-- `read`: takes a line of the input apart. -/
def readLine (arguments : List Text) : Act Nat := do
  let (given, operands) ← options "rp" arguments
  let names := if given.contains 'p' then operands.tail else operands
  if names.isEmpty then fail "arg count"
  match names.find? (!isName ·) with
  | some name => fail (name ++ ": bad variable name")
  | none =>
    let s ← get
    let bytes := s.unread 0
    let (line, count, complete) := lineOf (given.contains 'r') bytes.length bytes [] 0
    set (s.consume 0 count)
    for (name, glyphs) in distribute s.separators names line do
      /- The characters were bytes so far. -/
      assign name (Utf8.decode (glyphs.map fun g => UInt8.ofNat g.char.toNat))
    return if complete then 0 else 1

/-! ## 6. Signals -/

/-- `trap`: says what is done on signals. -/
def trap : Builtin
  | [] => do
    for (name, action) in (← get).traps do
      writeText 1 ("trap -- " ++ quote action ++ ' ' :: name ++ ['\n'])
    return 0
  | action :: names => do
    let (action, names) : Text × List Text :=
      if names.isEmpty || (Tool.digits? action).isSome then (['-'], action :: names)
      else (action, names)
    for t in names do
      match signal? t with
      | none =>
        writeText 2 ("trap: " ++ t ++ ": bad trap\n")
        return 1
      | some n =>
        let name := trapName n
        modify fun s =>
          let others := s.traps.filter (·.1 != name)
          { s with traps := if action = ['-'] then others else others ++ [(name, action)] }
    return 0

/-- A signal goes to a program; gives the status.  A command in the background that has not run yet
ends. -/
def send (n : Nat) (t : Text) : Act Nat := do
  let number ← number t
  let s ← get
  if number = s.number then
    receive n
    return 0
  else if s.jobs.any (·.number == number) then
    if !harmless.contains n then
      set { s with
        jobs := s.jobs.filter (·.number != number), ended := (number, .signal n) :: s.ended }
    return 0
  else
    warn "No such process\n"
    return 1

/-- Signals go to programs. -/
def sendAll (n : Nat) (targets : List Text) : Act Nat := do
  let mut status := 0
  for t in targets do status := max status (← send n t)
  return status

/-- How `kill` is used. -/
def killUsage : Text :=
  "Usage: kill [-s sigspec | -signum | -sigspec] [pid | job]... or\nkill -l [exitstatus]"

/-- `kill`: sends a signal. -/
def kill : Builtin
  | [] => fail killUsage
  | w :: ws =>
    match w with
    | ['-', 's'] =>
      match ws with
      | [] => fail "No arg for -s option"
      | t :: targets =>
        match signal? t with
        | some n => sendAll n targets
        | none => fail ("invalid signal number or name: " ++ t)
    | ['-', '-'] => sendAll 15 ws
    | '-' :: c :: rest =>
      match signal? (c :: rest) with
      | some n => if ws.isEmpty then fail killUsage else sendAll n ws
      | none => fail ("Illegal option -" ++ [c])
    | _ => sendAll 15 (w :: ws)

/-! ## 7. Names of commands -/

/-- The builtin commands that a function may hide. -/
def ordinary : List Text :=
  List.map String.toList
    ["[", "alias", "cd", "command", "echo", "false", "kill", "printf", "pwd", "read", "test", "true",
     "type", "ulimit", "umask", "unalias", "wait"]

/-- The place that a name stands for; a place need not hold a program. -/
def placeOf? (s : State) (name : Text) : Option Text :=
  if name.contains '/' then if (s.files.find name).toOption.isSome then some name else none
  else s.program? name

/-- A program that was called by its name is looked for only once. -/
def remember (name : Text) : Act Unit :=
  modify fun s =>
    if name.contains '/' || (s.hashed.lookup name).isSome then s
    else
      match s.program? name with
      | some place => { s with hashed := s.hashed ++ [(name, place)] }
      | none => s

/-- What a name of a command means, in words. -/
def meaning (s : State) (name : Text) : Option Text :=
  if keywords.contains name then some (name ++ " is a shell keyword")
  else if let some t := s.aliases.lookup name then some (name ++ " is an alias for " ++ t)
  else if specialBuiltins.contains name then some (name ++ " is a special shell builtin")
  else if s.functions.any (·.1 == name) then some (name ++ " is a shell function")
  else if ordinary.contains name then some (name ++ " is a shell builtin")
  else if let some place := s.hashed.lookup name then
    some (name ++ " is a tracked alias for " ++ place)
  else (placeOf? s name).map fun place => name ++ " is " ++ place

/-- What a name of a command means, as it may be called. -/
def shortMeaning (s : State) (name : Text) : Option Text :=
  if let some t := s.aliases.lookup name then some ("alias " ++ name ++ '=' :: quote t)
  else if keywords.contains name || specialBuiltins.contains name || ordinary.contains name
      || s.functions.any (·.1 == name) then some name
  else placeOf? s name

/-- `type`: what names mean. -/
def type (names : List Text) : Act Nat := do
  let mut status := 0
  for name in names do
    match meaning (← get) name with
    | some t =>
      writeText 1 (t ++ ['\n'])
      remember name
    | none =>
      writeText 1 (name ++ ": not found\n")
      status := 127
  return status

/-- `command -v`: what a name means, as it may be called. -/
def describe : Builtin
  | [] => return 0
  | name :: _ => do
    match shortMeaning (← get) name with
    | some t =>
      writeText 1 (t ++ ['\n'])
      return 0
    | none => return 127

/-- `alias`: a name stands for other words. -/
def nickname (arguments : List Text) : Act Nat := do
  let row (name t : Text) : Text := name ++ '=' :: quote t ++ ['\n']
  let mut status := 0
  for t in arguments do
    match Text.cut? "=" t with
    | some (name, value) =>
      modify fun s => { s with aliases := (name, value) :: s.aliases.filter (·.1 != name) }
    | none =>
      match (← get).aliases.lookup t with
      | some value => writeText 1 (row t value)
      | none =>
        writeText 2 ("alias: " ++ t ++ " not found\n")
        status := 1
  if arguments.isEmpty then
    for (name, value) in (← get).aliases.reverse do writeText 1 (row name value)
  return status

/-- `unalias`: names stand for themselves again. -/
def forgetNickname (arguments : List Text) : Act Nat := do
  let (given, names) ← options "a" arguments
  if !given.isEmpty then modify fun s => { s with aliases := [] }
  let mut status := 0
  for name in names do
    if ((← get).aliases.lookup name).isSome then
      modify fun s => { s with aliases := s.aliases.filter (·.1 != name) }
    else
      writeText 2 ("unalias: " ++ name ++ " not found\n")
      status := 1
  return status

/-- The number of bytes of a block. -/
def blockSize : Nat := 512

/-- `ulimit`: how large files may become; other limits have no effect. -/
def limits (arguments : List Text) : Act Nat := do
  let (given, operands) ← options "HSatfdscmlpnvwr" arguments
  let s ← get
  match operands with
  | [] =>
    writeText 1 (s.fileLimit.elim "unlimited\n" fun n => Text.ofNat (n / blockSize) ++ ['\n'])
    return 0
  | t :: _ =>
    match Tool.digits? t with
    | some n =>
      if given.all "HSf".toList.contains then set { s with fileLimit := some (n * blockSize) }
      return 0
    | none => if t = "unlimited".toList then return 0 else fail "bad number"

/-- A builtin command that ends with a status and does nothing. -/
def ends (status : Nat) : Builtin := fun _ => return status

/-- The builtin command of a name.  Those that carry out other commands are not among them. -/
def named? (name : Text) : Option Builtin :=
  match String.ofList name with
  | ":" | "true" => some (ends 0)
  | "false" => some (ends 1)
  | "exit" => some exit
  | "return" => some back
  | "break" => some (loops .leave)
  | "continue" => some (loops .again)
  | "cd" => some changeDirectory
  | "pwd" => some printDirectory
  | "umask" => some umask
  | "export" =>
    some (markVariables "export " (·.exported) fun v => { v with exported := true })
  | "readonly" => some (markVariables "readonly " (·.fixed) fun v => { v with fixed := true })
  | "unset" => some unset
  | "local" => some localVariables
  | "shift" => some shift
  | "set" => some setWords
  | "read" => some readLine
  | "trap" => some trap
  | "kill" => some kill
  | "type" => some type
  | "alias" => some nickname
  | "unalias" => some forgetNickname
  | "ulimit" => some limits
  | _ => none

end Builtin

end Stepwise.Shell
