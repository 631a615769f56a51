import Stepwise.CommandLine.Help

/-!
# Reading command lines

The words of a command line are read from left to right, and the first thing that is wrong or that
asks for a text decides.  A value is looked at when the next switch or operand begins, so a wrong
one goes before whatever stands behind it.

Main definitions:

* `Form.read`: reads the words of one level, up to a word that selects a command;
* `Form.finish`: looks at what is left when all words are read;
* `Application.read`: a whole command line.
-/

namespace Stepwise.CommandLine

/-! ## 1. What can come of it -/

/-- What is wrong with a command line. -/
inductive UsageError where
  /-- There is no such switch or command, or one word too many. -/
  | unknown (word : Text)
  /-- A switch stands without its value. -/
  | missingValue (name : Text)
  /-- A flag has a value. -/
  | unexpectedValue (name : Text)
  /-- A value is not accepted. -/
  | badValue (name value : Text)
  /-- A switch is given again. -/
  | repeated (name : Text)
  /-- Two switches exclude each other. -/
  | conflict (name other : Text)
  /-- The operand is missing. -/
  | missingOperand (name : Text)
  /-- There is no command. -/
  | missingCommand
  deriving DecidableEq, Repr

/-- The wording of a usage error. -/
def UsageError.message : UsageError → Text
  | unknown word => "unexpected argument '" ++ word ++ "' found"
  | missingValue name => "a value is required for '--" ++ name ++ "' but none was supplied"
  | unexpectedValue name => "unexpected value for '--" ++ name ++ "' found; no more were expected"
  | badValue name value => "invalid value '" ++ value ++ "' for '" ++ name ++ "'"
  | repeated name => "the argument '--" ++ name ++ "' cannot be used multiple times"
  | conflict name other =>
    "the argument '--" ++ name ++ "' cannot be used with '--" ++ other ++ "'"
  | missingOperand name => "the required argument '" ++ name ++ "' was not provided"
  | missingCommand => "a subcommand is required but one was not provided"

/-- Why a command line is not carried out. -/
inductive Halt where
  | usage (error : UsageError)
  /-- A page was asked for. -/
  | shown (page : Page)
  deriving DecidableEq, Repr

/-- What has been read of one level. -/
structure Reading where
  /-- What was given, with the values; a flag has an empty one. -/
  given : List (Text × Text) := []
  /-- What begins last and has not been looked at, with its value if that is there. -/
  pending : Option (Switch × Option Text) := none

namespace Reading

/-- The value of what was given under a name. -/
def value? (r : Reading) (name : Text) : Option Text := r.given.lookup name

/-- Whether something was given under a name. -/
def has (r : Reading) (name : Text) : Bool := (r.value? name).isSome

/-- Notes something with its value. -/
def note (r : Reading) (s : Switch) (value : Text) : Except UsageError Reading :=
  if r.has s.name then .error (.repeated s.name)
  else if !s.accepts value then .error (.badValue s.name value)
  else .ok { r with given := r.given ++ [(s.name, value)] }

/-- Looks at what has not been looked at. -/
def settle (r : Reading) : Except UsageError Reading :=
  match r.pending with
  | none => .ok r
  | some (s, none) => .error (.missingValue s.name)
  | some (s, some value) => note { r with pending := none } s value

/-- The switch that waits for its value. -/
def awaiting? (r : Reading) : Option Switch :=
  match r.pending with
  | some (s, none) => some s
  | _ => none

/-- What is noted is there. -/
theorem value?_note {r q : Reading} {s : Switch} {value : Text}
    (h : r.note s value = .ok q) : q.value? s.name = some value := by
  unfold note at h
  split at h
  · simp at h
  · next hnone =>
    split at h
    · simp at h
    · cases h
      rw [Bool.not_eq_true, has, Option.isSome_eq_false_iff, Option.isNone_iff_eq_none] at hnone
      simp only [value?] at hnone ⊢
      simp [List.lookup_append, hnone]

end Reading

/-! ## 2. One level -/

/-- What one level of a command line takes. -/
structure Form where
  /-- The switches. -/
  switches : List Switch
  /-- The operand, if there is one. -/
  operand : Option Switch := none
  /-- The words that begin the next level. -/
  commands : List Text := []
  /-- The help. -/
  help : Page
  /-- The version. -/
  version : Page

/-- A word of a command line. -/
inductive Token where
  /-- A long name, with the value behind an equals sign. -/
  | long (name : Text) (value : Option Text)
  /-- Letters. -/
  | letters (letters : Text)
  /-- Two dashes: only operands follow. -/
  | separator
  /-- An operand or a value. -/
  | plain
  deriving DecidableEq, Repr

/-- What a word is. -/
def Token.ofWord : Text → Token
  | ['-', '-'] => .separator
  | '-' :: '-' :: t =>
    match Text.cut? "=" t with
    | some (name, value) => .long name (some value)
    | none => .long t none
  | '-' :: c :: t => .letters (c :: t)
  | _ => .plain

/-- The value that stands right behind a letter, perhaps with an equals sign between. -/
def attached? : Text → Option Text
  | [] => none
  | '=' :: t => some t
  | t => some t

namespace Form

/-- A usage error as a reason to halt. -/
def check {α : Type} (result : Except UsageError α) : Except Halt α := result.mapError .usage

/-- A switch begins. -/
def begin (f : Form) (r : Reading) (s : Switch) (value? : Option Text) : Except Halt Reading := do
  let r ← check r.settle
  match s.kind, value? with
  | .value _, some value => check (r.note s value)
  | .value _, none => return { r with pending := some (s, none) }
  | _, some _ => throw (.usage (.unexpectedValue s.name))
  | .flag, none => check (r.note s [])
  | .help, none => throw (.shown f.help)
  | .version, none => throw (.shown f.version)

/-- Switches by their letters; a switch that takes a value takes the rest for it. -/
def letters (f : Form) (r : Reading) : Text → Except Halt Reading
  | [] => return r
  | c :: rest =>
    match f.switches.find? (·.letter = some c) with
    | none => throw (.usage (.unknown ['-', c]))
    | some s =>
      if s.placeholder?.isSome then f.begin r s (attached? rest)
      else do f.letters (← f.begin r s none) rest

/-- An operand. -/
def word (f : Form) (r : Reading) (t : Text) : Except Halt Reading := do
  match f.operand with
  | none => throw (.usage (.unknown t))
  | some s =>
    let r ← check r.settle
    if r.has s.name then throw (.usage (.unknown t))
    return { r with pending := some (s, some t) }

/-- Reads words up to one that begins the next level; gives that word and those behind it. -/
def read (f : Form) (r : Reading) : List Text → Except Halt (Reading × Option (Text × List Text))
  | [] => return (r, none)
  | t :: ts =>
    match r.awaiting?, Token.ofWord t with
    | some s, .plain => f.read { r with pending := some (s, some t) } ts
    | none, .plain =>
      if f.commands.contains t then return (r, some (t, ts))
      else do f.read (← f.word r t) ts
    | _, .separator => do return (← ts.foldlM f.word r, none)
    | _, .long name value? =>
      match f.switches.find? (·.name = name) with
      | none => throw (.usage (.unknown t))
      | some s => do f.read (← f.begin r s value?) ts
    | _, .letters letters => do f.read (← f.letters r letters) ts

/-- Looks at what is left when all words are read. -/
def finish (f : Form) (env : Variables) (r : Reading) : Except Halt Reading := do
  let r ← check r.settle
  for s in f.switches do
    if !r.has s.name then
      if let some value := s.fallback.bind env.value? then
        if !s.accepts value then throw (.usage (.badValue s.name value))
    else if let some other := s.excludes.find? r.has then
      throw (.usage (.conflict s.name other))
  match f.operand with
  | some s => if !r.has s.name then throw (.usage (.missingOperand s.name))
  | none => pure ()
  return r

end Form

/-! ## 3. Both levels -/

/-- What stands before the command. -/
def Application.form (a : Application) (env : Variables) : Form where
  switches := a.switches
  commands := a.commands.map (·.name) ++ [helpWord]
  help := a.help env
  version := a.versionPage

/-- What stands behind the word that selects a command. -/
def Application.commandForm (a : Application) (env : Variables) (c : Command) : Form where
  switches := c.switches
  operand := some c.operand
  help := a.commandHelp env c
  version := a.versionPage

/-- The help that words ask for. -/
def Application.helpFor (a : Application) (env : Variables) :
    List Text → Except UsageError Page
  | [] => .ok (a.help env)
  | name :: more =>
    let page? : Option Page := if name = helpWord then some a.helpHelp
      else (a.command? name).map (a.commandHelp env)
    match page?, more with
    | some page, [] => .ok page
    | some _, word :: _ => .error (.unknown word)
    | none, _ => .error (.unknown name)

/-- A command line that was read. -/
structure Line where
  /-- The command. -/
  command : Command
  /-- What was given before the command. -/
  before : Reading
  /-- What was given behind it. -/
  behind : Reading

/-- Reads a command line.  The last value before the command is looked at only after everything
behind it. -/
def Application.read (a : Application) (env : Variables) (words : List Text) :
    Except Halt Line := do
  let form := a.form env
  let (before, rest?) ← form.read {} words
  match rest? with
  | none =>
    discard <| form.finish env before
    throw (.usage .missingCommand)
  | some (name, rest) =>
    match a.command? name with
    | none =>
      let page ← Form.check (a.helpFor env rest)
      throw (.shown page)
    | some command =>
      let form' := a.commandForm env command
      let (behind, _) ← form'.read {} rest
      let behind ← form'.finish env behind
      return { command, before := ← form.finish env before, behind }

/-- The value of a switch that may stand on both levels: the deeper one wins, then the other one,
then the environment. -/
def Line.value? (l : Line) (env : Variables) (s : Switch) : Option Text :=
  l.behind.value? s.name <|> l.before.value? s.name <|> s.fallback.bind env.value?

/-- Whether a flag stands on either level. -/
def Line.has (l : Line) (s : Switch) : Bool := l.behind.has s.name || l.before.has s.name

end Stepwise.CommandLine
