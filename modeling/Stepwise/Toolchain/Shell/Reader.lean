import Stepwise.Toolchain.Shell.Token

/-!
# Reading commands

How tokens make commands.  A script is read command line by command line, so that the first ones can
run before anything is known about the others.

Main definitions:

* `Parse.list`: reads commands up to a token that ends them;
* `nextLine`: reads the next command line of a script.
-/

namespace Stepwise.Shell

/-! ## 1. Redirections -/

/-- One command behind another. -/
def Command.followedBy : Command → Command → Command
  | .nothing, c => c
  | c, .nothing => c
  | a, b => .sequence a b

namespace Parse

/-- Splits lines at the first one that is a certain text; `strip` drops the tabs at their fronts. -/
def splitHere (stop : Text) (strip : Bool) : List Text → List Text × List Text
  | [] => ([], [])
  | line :: lines =>
    let line := if strip then line.dropWhile (· == '\t') else line
    if line = stop then ([], lines)
    else
      let (body, rest) := splitHere stop strip lines
      (line :: body, rest)

/-- Takes the text of a redirection out of a script: it stands on the lines behind this one. -/
def takeHere (stop : Text) (strip : Bool) : Parse Text :=
  modifyGet fun r =>
    let here := r.rest.takeWhile (· != '\n')
    match r.rest.drop here.length with
    | [] => ([], r)
    | _ :: behind =>
      let lines := Text.fields '\n' behind
      let (body, rest) := splitHere stop strip lines
      let ended := body.length < lines.length
      let t := Text.join ['\n'] body ++ if ended && !body.isEmpty then ['\n'] else []
      (t, { r with
        rest := here ++ '\n' :: Text.join ['\n'] rest
        owed := r.owed + if ended then body.length + 1 else body.length - 1 })

/-- Reads the target of a redirection. -/
def redirection (inner : Inner) (fuel : Nat) (channel : Option Nat) (m : Text) :
    Parse Redirection := do
  match ← token inner fuel with
  | .word w =>
    let place (usual : Nat) (kind : Redirecting) : Redirection := .mk (channel.getD usual) kind w
    match String.ofList m with
    | "<" => return place 0 .read
    | ">" => return place 1 .write
    | ">|" => return place 1 .replace
    | ">>" => return place 1 .append
    | "<>" => return place 0 .update
    | "<&" => return place 0 .copy
    | ">&" => return place 1 .copy
    | _ =>
      let (stop, quoted) := literal w
      let before ← get
      let t ← takeHere stop (m = "<<-".toList)
      let body ← if quoted then pure [Piece.text t true]
        else do
          let r : Reading := { rest := t, line := before.line + before.owed + 1 }
          let (body, _) ← (pieces inner fuel .whole).run r
          pure body
      return .mk (channel.getD 0) .here body
  | t => unexpected t false none

/-! ## 2. Commands -/

/-- What is read of a simple command. -/
structure Simple where
  assignments : List (Text × Word) := []
  words : List Word := []
  redirections : List Redirection := []

/-- Whether a simple command is one word so far. -/
def Simple.name? (s : Simple) : Option Word :=
  match s.words, s.assignments, s.redirections with
  | [w], [], [] => some w
  | _, _, _ => none

/-- Reads newlines away. -/
def skipNewlines (inner : Inner) : (fuel : Nat) → Parse Unit
  | 0 => pure ()
  | fuel + 1 => do
    match ← token inner fuel with
    | .newline => skipNewlines inner fuel
    | t => putBack t

/-- Reads a keyword or operator that has to be there. -/
def expect (inner : Inner) (fuel : Nat) (wanted : Text) : Parse Unit := do
  let t ← token inner fuel
  if t.isKeyword wanted || t.isMark wanted then return ()
  else unexpected t true (some ('"' :: wanted ++ ['"']))

/-- Reads redirections behind a command. -/
def redirections (inner : Inner) : (fuel : Nat) → Parse (List Redirection)
  | 0 => return []
  | fuel + 1 => do
    match ← token inner fuel with
    | .redirection channel m =>
      let r ← redirection inner fuel channel m
      return r :: (← redirections inner fuel)
    | t =>
      putBack t
      return []

/-- A command with the redirections behind it. -/
def withRedirections (inner : Inner) (fuel : Nat) (c : Command) : Parse Command := do
  match ← redirections inner fuel with
  | [] => return c
  | rs => return .redirected c rs

/-- Reads words up to a token that is none, which is left. -/
def wordsUntil (inner : Inner) : (fuel : Nat) → Parse (List Word)
  | 0 => return []
  | fuel + 1 => do
    match ← token inner fuel with
    | .word w => return w :: (← wordsUntil inner fuel)
    | t =>
      putBack t
      return []

/-- Reads the words that a variable of a loop goes through; without any, the arguments. -/
def loopWords (inner : Inner) (fuel : Nat) : Parse (List Word) := do
  skipNewlines inner fuel
  let t ← token inner fuel
  if t.isKeyword "in" then
    let words ← wordsUntil inner fuel
    match ← token inner fuel with
    | .newline => return words
    | t => if t.isMark ";" then return words else unexpected t false none
  else
    if !t.isMark ";" then putBack t
    return [[.parameter ['@'] .value true]]

/-- Reads the patterns of a branch up to the closing parenthesis. -/
def branchPatterns (inner : Inner) : (fuel : Nat) → Token → Parse (List Word)
  | 0, _ => return []
  | fuel + 1, t => do
    let w : Word := match t with
      | .word w => w
      | _ => []
    let next ← token inner fuel
    if next.isMark "|" then return w :: (← branchPatterns inner fuel (← token inner fuel))
    else if next.isMark ")" then return [w]
    else unexpected next false (some "\")\"")

mutual

/-- Reads commands up to a token that ends them, which is left.  `lineOnly` tells whether a newline
ends them, and `mayEnd` whether they may end at once. -/
def list : (fuel : Nat) → (lineOnly mayEnd : Bool) → Command → Parse Command
  | 0, _, _, _ => mistaken "Syntax error: script too long"
  | fuel + 1, lineOnly, mayEnd, done => do
    let inner := innerOf fuel
    if !lineOnly then skipNewlines inner fuel
    match ← token inner fuel with
    | .newline => return done
    | .finish =>
      putBack .finish
      return done
    | t =>
      putBack t
      if mayEnd && !lineOnly && t.endsList then return done
      else
        let c ← alternatives fuel
        let next ← token inner fuel
        if next.isMark "&" then list fuel lineOnly true (done.followedBy (.background c))
        else if next.isMark ";" then list fuel lineOnly true (done.followedBy c)
        else
          putBack next
          match next with
          | .newline => list fuel lineOnly true (done.followedBy c)
          | .finish => return done.followedBy c
          | next => if lineOnly then unexpected next true none else return done.followedBy c

/-- How commands inside of words are read. -/
def innerOf : (fuel : Nat) → Inner
  | 0 =>
    { closed := mistaken "Syntax error: script too long"
      whole := mistaken "Syntax error: script too long" }
  | fuel + 1 =>
    let commands : Parse Command := list fuel false true .nothing
    { closed := do
        let c ← commands
        let t ← token (innerOf fuel) fuel
        if t.isMark ")" then return c else unexpected t true (some "\")\"")
      /- What stands behind the commands is left out. -/
      whole := commands }

/-- Reads pipelines that depend on one another. -/
def alternatives : (fuel : Nat) → Parse Command
  | 0 => mistaken "Syntax error: script too long"
  | fuel + 1 => do
    let c ← pipeline fuel
    moreAlternatives fuel c

/-- Reads pipelines that depend on what is read. -/
def moreAlternatives : (fuel : Nat) → Command → Parse Command
  | 0, c => return c
  | fuel + 1, c => do
    let inner := innerOf fuel
    let t ← token inner fuel
    if t.isMark "&&" then
      skipNewlines inner fuel
      moreAlternatives fuel (.both c (← pipeline fuel))
    else if t.isMark "||" then
      skipNewlines inner fuel
      moreAlternatives fuel (.either c (← pipeline fuel))
    else
      putBack t
      return c

/-- Reads a pipeline. -/
def pipeline : (fuel : Nat) → Parse Command
  | 0 => mistaken "Syntax error: script too long"
  | fuel + 1 => do
    let t ← token (innerOf fuel) fuel
    if t.isKeyword "!" then return .negated (← piped fuel)
    else
      putBack t
      piped fuel

/-- Reads the commands of a pipeline. -/
def piped : (fuel : Nat) → Parse Command
  | 0 => mistaken "Syntax error: script too long"
  | fuel + 1 => do
    let first ← command fuel
    match ← morePiped fuel with
    | [] => return first
    | more => return .pipeline (first :: more)

/-- Reads the commands that read what the one before them prints. -/
def morePiped : (fuel : Nat) → Parse (List Command)
  | 0 => return []
  | fuel + 1 => do
    let inner := innerOf fuel
    let t ← token inner fuel
    if t.isMark "|" then
      skipNewlines inner fuel
      let c ← command fuel
      return c :: (← morePiped fuel)
    else
      putBack t
      return []

/-- Reads a command. -/
def command : (fuel : Nat) → Parse Command
  | 0 => mistaken "Syntax error: script too long"
  | fuel + 1 => do
    let inner := innerOf fuel
    let t ← token inner fuel
    let body : Parse Command := list fuel false false .nothing
    let endingWith (wanted : Text) (c : Command) : Parse Command := do
      expect inner fuel wanted
      withRedirections inner fuel c
    match t.keyword?.map String.ofList with
    | some "if" => do withRedirections inner fuel (← choice fuel)
    | some "while" => do
      let condition ← body
      expect inner fuel "do"
      endingWith "done" (.loop false condition (← body))
    | some "until" => do
      let condition ← body
      expect inner fuel "do"
      endingWith "done" (.loop true condition (← body))
    | some "for" => do
      match ← token inner fuel with
      | .word w =>
        let name := (plainText? w).getD []
        if !isName name then mistaken "Syntax error: Bad for loop variable"
        else
          let words ← loopWords inner fuel
          skipNewlines inner fuel
          expect inner fuel "do"
          endingWith "done" (.each name words (← body))
      | _ => mistaken "Syntax error: Bad for loop variable"
    | some "case" => do
      match ← token inner fuel with
      | .word w =>
        skipNewlines inner fuel
        expect inner fuel "in"
        withRedirections inner fuel (.select w (← branches fuel))
      | t => unexpected t false (some "word")
    | some "\x7b" => do endingWith "\x7d" (← body)
    | some _ => unexpected t true none
    | none =>
      match t with
      | .mark m =>
        if m = ['('] then do endingWith ")" (.subshell (← body)) else unexpected t true none
      | .word _ | .redirection .. =>
        if ← unfoldAlias t then
          let t ← token inner fuel
          putBack t
          match t with
          | .newline | .finish | .mark _ =>
            if t.isMark "(" then command fuel else return .simple (← get).line [] [] []
          | _ => command fuel
        else
          putBack t
          simple fuel (← get).line {}
      | t => unexpected t true none

/-- Reads a choice from behind its first keyword. -/
def choice : (fuel : Nat) → Parse Command
  | 0 => mistaken "Syntax error: script too long"
  | fuel + 1 => do
    let inner := innerOf fuel
    let condition ← list fuel false false .nothing
    expect inner fuel "then"
    let yes ← list fuel false false .nothing
    let t ← token inner fuel
    if t.isKeyword "elif" then return .choice condition yes (← choice fuel)
    else if t.isKeyword "else" then
      let no ← list fuel false false .nothing
      expect inner fuel "fi"
      return .choice condition yes no
    else
      putBack t
      expect inner fuel "fi"
      return .choice condition yes .nothing

/-- Reads the branches of a selection, and the keyword behind them. -/
def branches : (fuel : Nat) → Parse (List (List Word × Command))
  | 0 => mistaken "Syntax error: script too long"
  | fuel + 1 => do
    let inner := innerOf fuel
    skipNewlines inner fuel
    let t ← token inner fuel
    if t.isKeyword "esac" then return []
    else
      let t ← if t.isMark "(" then token inner fuel else pure t
      let patterns ← branchPatterns inner fuel t
      let body ← list fuel false true .nothing
      skipNewlines inner fuel
      let t ← token inner fuel
      if t.isKeyword "esac" then return [(patterns, body)]
      else if t.isMark ";;" then return (patterns, body) :: (← branches fuel)
      else unexpected t true (some "\";;\"")

/-- Reads the rest of a simple command, or of the definition of a function. -/
def simple : (fuel line : Nat) → Simple → Parse Command
  | 0, _, _ => mistaken "Syntax error: script too long"
  | fuel + 1, line, s => do
    let inner := innerOf fuel
    let offered ← isOffered
    let t ← token inner fuel
    /- The first word was looked at already if nothing stands in front of it. -/
    let isLate := s.words.isEmpty && !(s.assignments.isEmpty && s.redirections.isEmpty)
    if (isLate || offered && !s.words.isEmpty) && (← unfoldAlias t) then simple fuel line s
    else
    match t with
    | .word w =>
      match if s.words.isEmpty then assignment? w else none with
      | some a => simple fuel line { s with assignments := s.assignments ++ [a] }
      | none => simple fuel line { s with words := s.words ++ [w] }
    | .redirection channel m =>
      let r ← redirection inner fuel channel m
      simple fuel line { s with redirections := s.redirections ++ [r] }
    | t =>
      match if t.isMark "(" then s.name? else none with
      | some w =>
        let next ← token inner fuel
        if !next.isMark ")" then unexpected next false (some "\")\"")
        else
          let name := (plainText? w).getD []
          if !isName name || specialBuiltins.contains name then
            mistaken "Syntax error: Bad function name"
          else
            skipNewlines inner fuel
            return .define name (← command fuel)
      | none =>
        putBack t
        return .simple line s.assignments s.words s.redirections

end

end Parse

/-! ## 3. Scripts -/

/-- The fuel with which what is left of a script is read. -/
def fuelFor (r : Reading) : Nat :=
  (12 * r.rest.length + 100)
    * (r.aliases.foldl (fun n (_, text) => n + text.length + 1) 1)

/-- Reads the next command line; nothing if the script is at its end. -/
def nextLine (r : Reading) : Except Mistake (Option Command × Reading) :=
  let fuel := fuelFor r
  (do
    match ← token (Parse.innerOf fuel) fuel with
    | .finish => return none
    | .newline => return some .nothing
    | t =>
      putBack t
      return some (← Parse.list fuel true false .nothing) : Parse (Option Command)).run r

end Stepwise.Shell
