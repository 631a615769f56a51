import Stepwise.Text.Numeral
import Stepwise.Toolchain.Shell.Syntax

/-!
# Tokens of scripts

How the characters of a script make words, operators and redirections.  A word may hold commands
again; the reader of those is a parameter here.

Main definitions:

* `pieces`: reads the pieces of a word, or of what stands between two marks in one;
* `token`: reads the next token.
-/

namespace Stepwise.Shell

/-! ## 1. Reading -/

/-- A token. -/
inductive Token where
  | finish
  | newline
  | mark (t : Text)
  | word (w : Word)
  | redirection (channel : Option Nat) (mark : Text)

/-- The text of an alias that is being read. -/
structure OpenAlias where
  name : Text
  /-- How much of the script is left behind the text. -/
  behind : Nat
  /-- Whether the text ends with a blank, so that the word behind it may be an alias as well. -/
  goesOn : Bool
  deriving DecidableEq, Repr

/-- How far a script has been read. -/
structure Reading where
  rest : Text
  line : Nat := 1
  /-- Lines that texts for redirections took away behind this one. -/
  owed : Nat := 0
  /-- A token that was read too early. -/
  early : Option Token := none
  /-- The names that stand for other words, with those. -/
  aliases : List (Text × Text) := []
  /-- The aliases that are being read. -/
  opened : List OpenAlias := []

/-- What is wrong with a script, and in which line. -/
structure Mistake where
  line : Nat
  message : Text
  deriving DecidableEq, Repr

/-- Something that is read from a script. -/
abbrev Parse := StateT Reading (Except Mistake)

/-- Fails with a message. -/
def mistaken {α : Type} (message : Text) : Parse α := fun r => .error { line := r.line, message }

/-- A text without the backslashes and newlines at its front, and how many of them were dropped. -/
def joinLines (dropped : Nat) : Text → Text × Nat
  | '\\' :: '\n' :: t => joinLines (dropped + 1) t
  | t => (t, dropped)

/-- The next character.  A backslash in front of a newline joins two lines. -/
def peek : Parse (Option Char) :=
  modifyGet fun r =>
    let (rest, dropped) := joinLines 0 r.rest
    (rest.head?, { r with rest, line := r.line + dropped })

/-- Takes characters away. -/
def take (n : Nat) : Parse Text :=
  modifyGet fun r =>
    let t := r.rest.take n
    (t, { r with rest := r.rest.drop n, line := r.line + t.count '\n' })

/-- Takes the characters of a kind away. -/
def takeRun (p : Char → Bool) : Parse Text := do take ((← get).rest.takeWhile p).length

/-! ## 2. Words -/

/-- How commands inside of words are read. -/
structure Inner where
  /-- Up to the closing parenthesis. -/
  closed : Parse Command
  /-- All that is left. -/
  whole : Parse Command

/-- Between which marks pieces stand. -/
inductive Mode where
  | plain
  /-- Between double quotes. -/
  | double
  /-- Up to a closing brace. -/
  | brace (quoted : Bool)
  /-- Up to two closing parentheses; others are open. -/
  | arithmetic (opened : Nat)
  /-- A whole text. -/
  | whole
  deriving DecidableEq, Repr

namespace Mode

/-- Whether pieces are taken as they are. -/
def quotes : Mode → Bool
  | plain | brace false => false
  | _ => true

/-- Whether a character ends a plain word. -/
def isBreak (c : Char) : Bool := " \t\n;&|()<>".toList.contains c

/-- Whether what is left begins with what ends the pieces. -/
def isDone (m : Mode) (rest : Text) : Bool :=
  match m, rest with
  | plain, c :: _ => isBreak c
  | double, c :: _ => c == '"'
  | brace _, c :: _ => c == '\x7d'
  | arithmetic 0, ')' :: c :: _ => c == ')'
  | _, _ => false

/-- What is wrong if nothing is left. -/
def missing? : Mode → Option Text
  | plain | whole => none
  | double | brace true => some "Syntax error: Unterminated quoted string"
  | brace false => some "Syntax error: Missing '\x7d'"
  | arithmetic _ => some "Syntax error: Missing '))'"

/-- Whether a backslash takes the meaning of a character away; otherwise it stands for itself. -/
def isEscaped (m : Mode) (c : Char) : Bool :=
  !m.quotes || "$\x60\\".toList.contains c || (c == '"' && m != whole)
    || (c == '\x7d' && m == brace true)

/-- Where pieces stand behind a character. -/
def after (m : Mode) (c : Char) : Mode :=
  match m with
  | arithmetic n =>
    if c = '(' then arithmetic (n + 1) else if c = ')' then arithmetic (n - 1) else m
  | m => m

end Mode

/-- Characters that stand for themselves everywhere inside of pieces. -/
def isPlainChar (c : Char) : Bool := !Mode.isBreak c && !"\\$\x60\"'\x7d".toList.contains c

/-- The piece behind a backslash. -/
def escaped (m : Mode) : Parse Piece := do
  match (← get).rest with
  | [] => return .text ['\\'] true
  | c :: _ => return .text ((if m.isEscaped c then [] else ['\\']) ++ (← take 1)) true

/-- The text up to a single quote. -/
def singleQuoted : Parse Piece := do
  let t ← takeRun (· != '\'')
  match ← take 1 with
  | [] => mistaken "Syntax error: Unterminated quoted string"
  | _ => return .text t true

/-- The text between back quotes, in which backslashes may take the meaning of characters away. -/
def backQuoted (quoted : Bool) : Text → Option (Text × Text)
  | [] => none
  | '\\' :: c :: t =>
    (backQuoted quoted t).map fun (head, rest) =>
      (if c = '\n' then head
        else if "\\$\x60".toList.contains c || (quoted && c == '"') then c :: head
        else '\\' :: c :: head, rest)
  | c :: t =>
    if c = '\x60' then some ([], t)
    else (backQuoted quoted t).map fun (head, rest) => (c :: head, rest)

/-- Commands between back quotes. -/
def backQuotedCommands (inner : Inner) (quoted : Bool) : Parse Piece := do
  let r ← get
  match backQuoted quoted r.rest with
  | none =>
    let _ ← take r.rest.length
    mistaken "Syntax error: EOF in backquote substitution"
  | some (t, rest) =>
    let (commands, _) ← inner.whole.run { rest := t, aliases := r.aliases }
    let _ ← take (r.rest.length - rest.length)
    return .output commands quoted

/-- The name of a parameter between braces. -/
def parameterName (t : Text) : Text :=
  match t with
  | [] => []
  | c :: _ =>
    if c.isDigit then t.takeWhile Char.isDigit
    else if specialNames.contains c then [c]
    else nameOf t

/-- The name of a parameter between braces, and whether its length is asked for. -/
def parameterHead (t : Text) : Text × Bool :=
  match t with
  | '#' :: rest =>
    let name := parameterName rest
    if !name.isEmpty && (rest.drop name.length).head? == some '\x7d' then (name, true)
    else (['#'], false)
  | t => (parameterName t, false)

/-- What a mark between braces does. -/
def fallback? (c : Char) : Option Fallback :=
  [('-', Fallback.useText), ('=', .assign), ('?', .fail), ('+', .swap)].lookup c

mutual

/-- Reads pieces up to what ends them, which is left. -/
def pieces (inner : Inner) : (fuel : Nat) → Mode → Parse Word
  | 0, _ => mistaken "Syntax error: word too long"
  | fuel + 1, m => do
    match ← peek with
    | none =>
      match m.missing? with
      | some message => mistaken message
      | none => return []
    | some c =>
      if m.isDone (← get).rest then return []
      else
        let read ← special inner fuel m c
        return read ++ (← pieces inner fuel (m.after c))

/-- Reads what stands behind a character, with the character. -/
def special (inner : Inner) : (fuel : Nat) → Mode → Char → Parse Word
  | 0, _, _ => mistaken "Syntax error: word too long"
  | fuel + 1, m, c => do
    let first ← take 1
    if c = '\\' then return [← escaped m]
    else if c = '$' then dollar inner fuel m.quotes
    else if c = '\x60' then return [← backQuotedCommands inner m.quotes]
    else if c = '"' ∧ !m.quotes then
      let inside ← pieces inner fuel .double
      let _ ← take 1
      return if inside.isEmpty then [.text [] true] else inside
    else if c = '"' ∧ m ≠ .whole then return [.text [] true]
    else if c = '\'' ∧ !m.quotes then return [← singleQuoted]
    else return [.text (first ++ (← takeRun isPlainChar)) m.quotes]

/-- Reads what stands behind a dollar sign. -/
def dollar (inner : Inner) : (fuel : Nat) → (quoted : Bool) → Parse Word
  | 0, _ => mistaken "Syntax error: word too long"
  | fuel + 1, quoted => do
    match ← peek with
    | none => return [.text ['$'] quoted]
    | some c =>
      if c = '(' then
        let _ ← take 1
        if (← peek) = some '(' then
          let _ ← take 1
          let body ← pieces inner fuel (.arithmetic 0)
          let _ ← take 2
          return [.arithmetic body quoted]
        else return [.output (← inner.closed) quoted]
      else if c = '\x7b' then
        let _ ← take 1
        return [← braced inner fuel quoted]
      else if c.isDigit ∨ specialNames.contains c then
        return [.parameter (← take 1) .value quoted]
      else if isNameChar c then return [.parameter (← takeRun isNameChar) .value quoted]
      else return [.text ['$'] quoted]

/-- Reads a parameter between braces, from behind the opening one. -/
def braced (inner : Inner) : (fuel : Nat) → (quoted : Bool) → Parse Piece
  | 0, _ => mistaken "Syntax error: word too long"
  | fuel + 1, quoted => do
    let _ ← peek
    let (name, length) := parameterHead (← get).rest
    let _ ← take (name.length + if length then 1 else 0)
    let behind (skipped : Nat) (m : Mode) (use : Word → Use) : Parse Piece := do
      let _ ← take skipped
      let word ← pieces inner fuel m
      let _ ← take 1
      return .parameter name (use (mergeTexts word)) quoted
    let trimmed (skipped : Nat) (atEnd longest : Bool) : Parse Piece :=
      behind skipped (.brace false) (.trim atEnd longest)
    let bad (skipped : Nat) : Parse Piece := do
      let _ ← take skipped
      let _ ← pieces inner fuel (.brace quoted)
      let _ ← take 1
      return .bad
    let _ ← peek
    match name, (← get).rest with
    | [], rest => bad (if rest.head? = some '\x7d' then 0 else 1)
    | _, [] => mistaken ((Mode.missing? (.brace quoted)).getD [])
    | _, c :: rest =>
      if c = '\x7d' then
        let _ ← take 1
        return .parameter name (if length then .length else .value) quoted
      else if c = ':' then
        match rest.head?.bind fallback? with
        | some kind => behind 2 (.brace quoted) (.fallback kind true)
        | none => bad 2
      else if c = '%' ∨ c = '#' then
        if rest.head? = some c then trimmed 2 (c = '%') true else trimmed 1 (c = '%') false
      else
        match fallback? c with
        | some kind => behind 1 (.brace quoted) (.fallback kind false)
        | none => bad 1

end

/-! ## 3. Tokens -/

/-- The operators that are no redirections, longer ones first. -/
def operators : List Text := [";;", "&&", "||", ";", "&", "|", "(", ")"]

/-- The marks of redirections, longer ones first. -/
def redirectionMarks : List Text := ["<<-", "<<", "<&", "<>", "<", ">>", ">&", ">|", ">"]

/-- Takes the first of some marks with which what is left begins. -/
def takeMark? (marks : List Text) : Parse (Option Text) := do
  let rest := (← get).rest
  match marks.find? fun m => (Text.after? m rest).isSome with
  | some m => return some (← take m.length)
  | none => return none

/-- Takes blanks and comments away. -/
def skipBlanks : (fuel : Nat) → Parse Unit
  | 0 => pure ()
  | fuel + 1 => do
    match ← peek with
    | some c =>
      if c = ' ' ∨ c = '\t' then
        let _ ← take 1
        skipBlanks fuel
      else if c = '#' then
        let _ ← takeRun (· != '\n')
      else pure ()
    | none => pure ()

/-- The channel in front of the mark of a redirection. -/
def channel? : Text → Option Nat
  | d :: c :: _ => if d.isDigit ∧ (c = '<' ∨ c = '>') then Text.digit? 10 d else none
  | _ => none

/-- Reads a token. -/
def freshToken (inner : Inner) (fuel : Nat) : Parse Token := do
  skipBlanks ((← get).rest.length + 1)
  match ← peek with
  | none => return .finish
  | some c =>
    if c = '\n' then
      let _ ← take 1
      modify fun r => { r with line := r.line + r.owed, owed := 0 }
      return .newline
    else
      match ← takeMark? operators with
      | some m => return .mark m
      | none =>
        let number? := channel? (← get).rest
        if number?.isSome then discard <| take 1
        match ← takeMark? redirectionMarks with
        | some m => return .redirection number? m
        | none => return .word (mergeTexts (← pieces inner fuel .plain))

/-- The next token. -/
def token (inner : Inner) (fuel : Nat) : Parse Token := do
  match (← get).early with
  | some t =>
    modify fun r => { r with early := none }
    return t
  | none => freshToken inner fuel

/-- Leaves a token to be read once more. -/
def putBack (t : Token) : Parse Unit := modify fun r => { r with early := some t }

/-- Words that have a meaning where a command begins. -/
def keywords : List Text :=
  ["!", "case", "do", "done", "elif", "else", "esac", "fi", "for", "if", "in", "then", "until",
   "while", "\x7b", "\x7d"]

/-- Whether a text ends with a blank. -/
def endsWithBlank (t : Text) : Bool := t.getLast?.any fun c => c == ' ' || c == '\t'

/-- Whether nothing but blanks is left of an alias that lets the next word be one. -/
def isOffered : Parse Bool := do
  let r ← get
  return r.opened.any fun o =>
    o.goesOn && o.behind < r.rest.length
      && (r.rest.take (r.rest.length - o.behind)).all fun c => c == ' ' || c == '\t'

/-- Puts the text for which a token stands in its place; tells whether there is such a text. -/
def unfoldAlias (t : Token) : Parse Bool := do
  let r ← get
  let opened := r.opened.filter (·.behind < r.rest.length)
  let name? : Option Text := match t with
    | .word w => plainText? w
    | _ => none
  match name?.bind fun name => (r.aliases.lookup name).map (name, ·) with
  | none => return false
  | some (name, text) =>
    if opened.any (·.name == name) then return false
    else
      let entry : OpenAlias :=
        { name, behind := r.rest.length, goesOn := endsWithBlank text }
      set { r with rest := text ++ r.rest, opened := entry :: opened }
      return true

namespace Token

/-- The keyword that a token is. -/
def keyword? : Token → Option Text
  | word w => (plainText? w).bind fun t => if keywords.contains t then some t else none
  | _ => none

/-- Whether a token is a certain keyword. -/
def isKeyword (t : Token) (k : Text) : Bool := t.keyword? == some k

/-- Whether a token is a certain operator. -/
def isMark (t : Token) (m : Text) : Bool :=
  match t with
  | mark n => n == m
  | _ => false

/-- Whether no command can begin with a token, so that it ends commands. -/
def endsList (t : Token) : Bool :=
  match t with
  | finish => true
  | mark m => m == ";;".toList || m == [')']
  | t =>
    ["do", "done", "elif", "else", "esac", "fi", "then", "\x7d"].any fun k =>
      t.isKeyword k.toList

/-- How a token is named when it is not expected; keywords only where they have their meaning. -/
def name (keywordsCount : Bool) : Token → Text
  | finish => "end of file"
  | newline => "newline"
  | redirection .. => "redirection"
  | mark m => '"' :: m ++ ['"']
  | word w =>
    match if keywordsCount then keyword? (word w) else none with
    | some k => '"' :: k ++ ['"']
    | none => "word"

end Token

/-- Fails because of a token. -/
def unexpected {α : Type} (t : Token) (keywordsCount : Bool) (wanted : Option Text) : Parse α :=
  mistaken ("Syntax error: " ++ t.name keywordsCount ++ " unexpected"
    ++ match wanted with
      | some w => " (expecting " ++ w ++ ")"
      | none => [])

end Stepwise.Shell
