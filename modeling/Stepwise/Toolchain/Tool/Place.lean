import Stepwise.Toolchain.Tool.Basic
import Stepwise.Toolchain.Tool.Mode

/-!
# Places

Tools that make, copy, move and take away files, directories and links, and those that tell what
stands at a place.

Main definitions:

* `eachOf`: does something to every operand;
* `copyOne`, `moveOne`, `linkOne`, `removeOne`: does it to one thing.
-/

namespace Stepwise.Tool

/-! ## 1. One by one -/

/-- Does something to every operand; those that fail are told of. -/
def eachOf (call : Call) (files : FileTree) (operands : List Text)
    (step : FileTree → Text → Except Text FileTree) : Finish :=
  operands.foldl (fun f operand =>
    match step f.files operand with
    | .ok files => { f with files }
    | .error line => complain f 1 (call.name ++ ": " ++ line)) { files }

/-- The outcome of something, with what is said if it fails. -/
def outcome {α : Type} (what : Text) (x : Except FileError α) : Except Text α :=
  x.mapError fun e => what ++ ": " ++ e.message

/-- Takes things from places to the place that is the last operand, or into it if it is a directory,
as it has to be for several things. -/
def towards (a : Arguments) (call : Call) (files : FileTree)
    (step : (place : Text) → FileTree → Text → Except Text FileTree) : Finish :=
  match a.operands.dropLast, a.operands.getLast? with
  | _, none => misused call files 1 "missing file operand"
  | [], some only => misused call files 1 ("missing destination file operand after " ++ quoted only)
  | sources, some target =>
    if sources.length ≠ 1 ∧ !files.isDirectory target then
      let e := if files.contains target then FileError.notDirectory else .missing
      refused files 1 (call.name ++ ": target " ++ quoted target ++ ": " ++ e.message)
    else
      eachOf call files sources fun files source =>
        let place := if files.isDirectory target && !a.has 'T' then
          Spelling.join target (Spelling.lastName source) else target
        step place files source

/-! ## 2. Copies, moves and links -/

/-- Copies one thing. -/
def copyOne (a : Arguments) (place : Text) (files : FileTree) (source : Text) :
    Except Text FileTree := do
  let wholes := a.has 'r' || a.has 'R' || a.has 'a'
  let (path, entry) ← outcome ("cannot stat " ++ quoted source)
    (files.find source !(a.has 'P' || a.has 'd' || a.has 'a'))
  let goal ← outcome ("cannot create regular file " ++ quoted place) (files.resolve place)
  if goal = path then throw (quoted source ++ " and " ++ quoted place ++ " are the same file")
  match entry, files.at? goal with
  | .directory _, before =>
    if !wholes then throw ("-r not specified; omitting directory " ++ quoted source)
    else if before.any (!·.isDirectory) then
      throw ("cannot overwrite non-directory " ++ quoted place ++ " with directory "
        ++ quoted source)
    else if FileTree.below goal path then
      throw ("cannot copy a directory, " ++ quoted source ++ ", into itself, " ++ quoted place)
    else
      return (files.entries.filter fun e => FileTree.below e.1 path).foldl
        (fun files e => files.put (goal ++ e.1.drop path.length) e.2) files
  | _, some (.directory _) =>
    throw ("cannot overwrite directory " ++ quoted place ++ " with non-directory")
  | .link target, none => return files.put goal (.link target)
  | entry, before =>
    if before.isSome && a.has 'n' then return files
    let bytes ← outcome ("cannot open " ++ quoted source ++ " for reading")
      (FileTree.contents entry)
    let written ← outcome ("cannot create regular file " ++ quoted place)
      (files.writeAt goal bytes)
    let keeps := a.has 'p' || a.has 'a'
    match entry with
    | .file _ mode =>
      if before.isSome && !keeps then return written
      else
        return written.put goal
          (.file bytes (if keeps then mode else FileTree.unmasked mode files.mask))
    | _ => return written

/-- `cp`: copies. -/
def cp : Action := withOptions { letters := "afnpPrRdT" } fun a call files =>
  towards a call files (copyOne a)

/-- Moves one thing. -/
def moveOne (a : Arguments) (place : Text) (files : FileTree) (source : Text) :
    Except Text FileTree := do
  let cannot : Text := "cannot move " ++ quoted source ++ " to " ++ quoted place
  let (path, entry) ← outcome ("cannot stat " ++ quoted source) (files.find source false)
  let goal ← outcome cannot (files.resolve place false)
  if goal.dropLast ≠ [] ∧ !((files.at? goal.dropLast).any (·.isDirectory)) then
    outcome cannot (.error .missing)
  if goal = path then throw (quoted source ++ " and " ++ quoted place ++ " are the same file")
  else if entry.isDirectory && FileTree.below goal path then
    throw ("cannot move " ++ quoted source ++ " to a subdirectory of itself, " ++ quoted place)
  else
    match files.at? goal, entry.isDirectory with
    | some (.directory _), true =>
      if (files.namesIn goal).isEmpty then return files.move path goal
      else outcome cannot (.error .notEmpty)
    | some (.directory _), false =>
      throw ("cannot overwrite directory " ++ quoted place ++ " with non-directory")
    | some _, true =>
      throw ("cannot overwrite non-directory " ++ quoted place ++ " with directory "
        ++ quoted source)
    | some _, false => return if a.has 'n' then files else files.move path goal
    | none, _ => return files.move path goal

/-- `mv`: moves. -/
def mv : Action := withOptions { letters := "fnT" } fun a call files =>
  towards a call files (moveOne a)

/-- Makes one link. -/
def linkOne (a : Arguments) (place : Text) (files : FileTree) (source : Text) :
    Except Text FileTree := do
  let cannot : Text := "failed to create " ++ (if a.has 's' then "symbolic" else "hard") ++ " link "
    ++ quoted place
  let cleared := match files.find place false with
    | .ok (path, entry) =>
      if a.has 'f' && !entry.isDirectory then files.remove path else files
    | .error _ => files
  if a.has 's' then outcome cannot (cleared.makeLink place source)
  else
    match ← outcome ("failed to access " ++ quoted source) (files.find source false) with
    | (_, .directory _) => throw (source ++ ": hard link not allowed for directory")
    | (_, entry) =>
      let path ← outcome cannot (cleared.resolve place false)
      discard <| outcome cannot (cleared.makeLink place source)
      return cleared.put path entry

/-- `ln`: makes links. -/
def ln : Action := withOptions { letters := "fnsT" } fun a call files =>
  let a := match a.operands with
    | [source] => { a with operands := [source, Spelling.lastName source] }
    | _ => a
  towards a call files (linkOne a)

/-! ## 3. Making and taking away -/

/-- Takes one thing away. -/
def removeOne (a : Arguments) (files : FileTree) (place : Text) : Except Text FileTree := do
  let wholes := a.has 'r' || a.has 'R'
  let cannot : Text := "cannot remove " ++ quoted place
  match files.find place false with
  | .error e =>
    if a.has 'f' ∧ (e = .missing ∨ e = .notDirectory) then return files
    else outcome cannot (.error e)
  | .ok (path, .directory _) =>
    let name := Spelling.lastName place
    if Spelling.stays name || Spelling.goesUp name then
      throw ("refusing to remove '.' or '..' directory: skipping " ++ quoted place)
    else if wholes then return files.remove path
    else if !a.has 'd' then outcome cannot (.error .isDirectory)
    else if (files.namesIn path).isEmpty then return files.remove path
    else outcome cannot (.error .notEmpty)
  | .ok (path, _) => return files.remove path

/-- `rm`: takes files away. -/
def rm : Action := withOptions { letters := "dfirR" } fun a call files =>
  if a.operands.isEmpty ∧ !a.has 'f' then misused call files 1 "missing operand"
  else eachOf call files a.operands (removeOne a)

/-- `rmdir`: takes empty directories away. -/
def rmdir : Action := withOptions { letters := "" } <| needing fun a call files =>
  eachOf call files a.operands fun files place =>
    outcome ("failed to remove " ++ quoted place) do
      match ← files.find place false with
      | (path, .directory _) =>
        if (files.namesIn path).isEmpty then return files.remove path else throw .notEmpty
      | _ => throw .notDirectory

/-- `mkdir`: makes directories. -/
def mkdir : Action := withOptions { letters := "m:p" } <| needing fun a call files =>
  match (a.value? 'm').mapM fun t => (Mode.read? t).elim (Except.error t) .ok with
  | .error t => refused files 1 (call.name ++ ": invalid mode " ++ quoted t)
  | .ok change? =>
    eachOf call files a.operands fun files place => do
      let isThere := files.isDirectory place
      let made ← outcome ("cannot create directory " ++ quoted place)
        (if !a.has 'p' then files.makeDirectory place
          else match files.makeDirectories place with
            | (files, none) => .ok files
            | (_, some e) => .error e)
      match change?, (made.resolve place).toOption with
      | some change, some path =>
        return if isThere then made else made.put path (.directory (change true files.mask 0o777))
      | _, _ => return made

/-- `touch`: makes files that are missing. -/
def touch : Action := withOptions { letters := "acm" } <| needing fun a call files =>
  eachOf call files a.operands fun files place =>
    match files.find place with
    | .ok _ => .ok files
    | .error .missing =>
      if a.has 'c' then .ok files
      else outcome ("cannot touch " ++ quoted place) (files.write place [])
    | .error e => outcome ("cannot touch " ++ quoted place) (.error e)

/-! ## 4. Modes -/

/-- What stands at a place with another mode. -/
def withMode (change : Mode.Change) (mask : Nat) : FileEntry → FileEntry
  | .file contents mode => .file contents (change false mask mode)
  | .directory mode => .directory (change true mask mode)
  | entry => entry

/-- `chmod`: changes the modes of files and directories.  A mode may begin with a dash. -/
def chmod : Action := fun call files =>
  let isMode : Text → Bool
    | '-' :: c :: _ => Mode.isRight c
    | _ => false
  let (modes, words) := call.arguments.partition isMode
  withOptions { letters := "R" } (fun a call files =>
    match modes ++ a.operands with
    | [] => misused call files 1 "missing operand"
    | [m] => misused call files 1 ("missing operand after " ++ quoted m)
    | m :: places =>
      match Mode.read? m with
      | none => misused call files 1 ("invalid mode: " ++ quoted m)
      | some change =>
        eachOf call files places fun files place => do
          let (path, _) ← outcome ("cannot access " ++ quoted place) (files.find place)
          let isMeant (p : Path) : Bool := p = path || a.has 'R' && FileTree.below p path
          return { files with entries := files.entries.map fun (p, entry) =>
            (p, if isMeant p then withMode change files.mask entry else entry) })
    { call with arguments := words } files

/-! ## 5. What stands there -/

/-- `ls`: names, line by line; the names in a directory come behind those of other places. -/
def ls : Action := withOptions { letters := "1aAdr", status := 2 } fun a call files =>
  let ordered (names : List Text) : List Text :=
    let names := names.mergeSort textLe
    if a.has 'r' then names.reverse else names
  let inside (path : Path) : Text :=
    let names := (files.namesIn path).filter fun name =>
      a.has 'a' || a.has 'A' || name.head? != some '.'
    unlines (ordered (if a.has 'a' then ['.'] :: ['.', '.'] :: names else names))
  let operands := if a.operands.isEmpty then [['.']] else ordered a.operands
  let found := operands.map fun place => (place, files.find place !(a.has 'd'))
  let wrong := found.filterMap fun (place, x) => match x with
    | .error e => some (place, e)
    | .ok _ => none
  let plain := found.filterMap fun (place, x) => match x with
    | .ok (_, entry) => if a.has 'd' || !entry.isDirectory then some place else none
    | .error _ => none
  let rows := found.filterMap fun (place, x) => match x with
    | .ok (path, .directory _) =>
      if a.has 'd' then none
      else some ((if operands.length = 1 then [] else place ++ [':', '\n']) ++ inside path)
    | _ => none
  let begun : Finish := wrong.foldl (fun f (place, e) =>
    complain f 2 (call.name ++ ": cannot access " ++ quoted place ++ ": " ++ e.message)) { files }
  let blocks := (if plain.isEmpty then [] else [unlines plain]) ++ rows
  begun.print (Utf8.encode (Text.join ['\n'] blocks))

/-- What a letter of a format stands for. -/
def statusOf (place : Text) (entry : FileEntry) (letter : Char) : Text :=
  let (mode, size, kind) : Nat × Nat × Text := match entry with
    | .file [] mode => (mode, 0, "regular empty file")
    | .file bytes mode => (mode, bytes.length, "regular file")
    | .directory mode => (mode, 4096, "directory")
    | .link target => (0o777, Spelling.size target, "symbolic link")
    | .device _ => (0o666, 0, "character special file")
    | .channel .. => (0o600, 0, "fifo")
  match letter with
  | 'a' => Mode.octal mode
  | 'n' => place
  | 's' => Text.ofNat size
  | 'F' => kind
  | '%' => ['%']
  | c => ['%', c]

/-- A format with what its letters stand for. -/
def filled (meaning : Char → Text) : Text → Text
  | '%' :: c :: t => meaning c ++ filled meaning t
  | c :: t => c :: filled meaning t
  | [] => []

/-- `stat`: tells about places in a format. -/
def stat : Action := withOptions { letters := "c:L" } <| needing fun a call files =>
  a.operands.foldl (fun f place =>
    match files.find place (a.has 'L') with
    | .error e =>
      complain f 1 (call.name ++ ": cannot statx " ++ quoted place ++ ": " ++ e.message)
    | .ok (_, entry) =>
      let t := filled (statusOf place entry) ((a.value? 'c').getD "%n")
      f.print (Utf8.encode (t ++ ['\n']))) { files }

/-! ## 6. Names -/

/-- `basename`: the last name of a spelling, perhaps without its ending. -/
def basename : Action := withOptions { letters := "" } <| needing fun a _ files =>
  let name := Spelling.lastName (a.operands.headD [])
  let ending := a.operands.getD 1 []
  let cut := name.take (name.length - ending.length)
  wrote files ((if cut ++ ending = name ∧ !cut.isEmpty then cut else name) ++ ['\n'])

/-- `dirname`: the spellings of the places that hold others. -/
def dirname : Action := withOptions { letters := "" } <| needing fun a _ files =>
  wrote files (unlines (a.operands.map Spelling.directory))

/-- `pwd`: the current directory. -/
def pwd : Action := withOptions { letters := "LP" } fun _ _ files =>
  wrote files (FileTree.spell files.current ++ ['\n'])

/-- `readlink`: where links lead; on demand, where the way ends. -/
def readlink : Action := withOptions { letters := "f" } <| needing fun a _ files =>
  let found := a.operands.map fun place =>
    match files.find place false with
    | .ok (_, .link target) =>
      if a.has 'f' then (files.resolve place).toOption.map FileTree.spell else some target
    | _ => if a.has 'f' then (files.resolve place).toOption.map FileTree.spell else none
  { wrote files (unlines (found.filterMap id)) with
    status := .code (if found.all Option.isSome then 0 else 1) }

end Stepwise.Tool
