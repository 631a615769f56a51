import Stepwise.Toolchain.Shell.Builtin
import Stepwise.Toolchain.Shell.Feeding
import Stepwise.Toolchain.Shell.Redirect
import Stepwise.Toolchain.Tool.Table

/-!
# Running scripts

A shell carries out one command line after the other.  Commands of a pipeline run one behind the
other, each with what the one before it has written; commands in the background run when they are
waited for, or at the end.

Main definitions:

* `run`: carries out a command;
* `script`: carries out a script;
* `start`: runs a program;
* `complete`: runs a program and all that it has begun in the background.
-/

namespace Stepwise.Shell

/-! ## 1. Around commands -/

/-- Variables that every shell has, with the values that they have if none are given. -/
def usualValues : List (Text × Text) :=
  [("IFS".toList, " \t\n".toList), ("OPTIND".toList, "1".toList),
   ("PATH".toList, Program.usualPath),
   ("PS1".toList, "# ".toList), ("PS2".toList, "> ".toList), ("PS4".toList, "+ ".toList)]

/-- Variables whose values are never taken from others. -/
def ownNames : List Text := ["IFS".toList, "OPTIND".toList]

/-- Programs that run other programs. -/
def callers : List Text :=
  List.map String.toList ["sh", "dash", "bash", "env", "xargs", "timeout"]

/-- Ends the shell if a command has failed and an option asks for that. -/
def check (tested : Bool) : Act Unit := do
  let s ← get
  if s.has 'e' && !tested && s.status != 0 then throw (.exit s.status)

/-- The builtin commands whose arguments may assign variables, and then do not fall into fields. -/
def declarations : List Text :=
  ["alias".toList, "export".toList, "local".toList, "readonly".toList]

/-- What stands in the tree for the channels of a program leads to the channels of the shell. -/
def flushPlaces : Act Unit := do
  for n in FileTree.standardChannels do
    let s ← get
    let bytes := s.files.writtenTo n
    set { s with files := s.files.put (FileTree.channelPath n) (.channel [] []) }
    if n != 0 then write n bytes

/-- Calls a tool with what the shell knows.  What it prints goes to the channels of the shell. -/
def callTool (tool : Tool.Action) (name : Text) (arguments : List Text) : Act ExitStatus := do
  let s ← get
  let input := s.unread 0
  let files := s.files.put (FileTree.channelPath 0) (.channel input [])
  let f := tool { name, arguments, input, vars := s.environment } files
  set { s with files := f.files }
  if f.reads then modify fun t => t.consume 0 input.length
  for (channel, bytes) in f.told do write channel bytes
  flushPlaces
  return f.status

/-- Time passes. -/
def passTime (span : Nat) : Act Unit := do
  let s ← get
  match s.deadline.filter (· < s.clock + span) with
  | none => set { s with clock := s.clock + span }
  | some deadline =>
    set { s with clock := deadline }
    throw .overtime

/-- The state in which a script begins that knows only the variables that programs are given. -/
def State.fresh (s : State) (name : Text) (arguments : List Text) (options : Text) : State :=
  let place := FileTree.spell s.files.current
  let scene : Scene :=
    { name, arguments, options, place, channels := s.channels, fileLimit := s.fileLimit
      vars := usualValues.map fun v => (v.1, { value := some v.2 })
      traps := s.traps.filter (·.2.isEmpty) }
  let given := s.vars.filter fun v => v.2.exported && isName v.1 && !ownNames.contains v.1
  let begun := given.foldl (fun t v => t.setVar v.1 v.2) { s with toScene := scene }
  begun.setVar "PWD" { value := some place, exported := true }

/-! ## 2. Commands -/

mutual

/-- Carries out a command.  `tested` tells whether something depends on its status. -/
def run : (fuel : Nat) → (tested : Bool) → Command → Act Unit
  | 0, _, _ => throw .failed
  | fuel + 1, tested, c => do
    match c with
    | .nothing => setStatus 0
    | .simple line assignments words redirections => do
      modify fun s => { s with line, innerStatus := 0 }
      simple fuel tested assignments words redirections
      signals fuel
      check tested
    | .define name body =>
      modify fun s =>
        { s with functions := (name, body) :: s.functions.filter (·.1 != name), status := 0 }
    | .subshell body => do
      discard <| apart (action fuel) (run fuel tested body)
      check tested
    | .choice condition yes no => do
      run fuel true condition
      run fuel tested (if (← get).status = 0 then yes else no)
    | .loop untilHolds condition body => inLoop (loop fuel tested untilHolds condition body 0)
    | .each name words body => do
      let fields ← fieldsOfAll (printed fuel) fuel words
      inLoop (each fuel tested name body fields 0)
    | .select w branches => do
      select fuel tested (← textOf (printed fuel) fuel w) branches
    | .redirected body redirections => do
      withChannels do
        match ← redirectAll (textOf (printed fuel) fuel) redirections with
        | some message =>
          warn message
          setStatus 2
        | none => run fuel tested body
      check tested
    | .pipeline commands => do
      setStatus (← pipe fuel commands none)
      check tested
    | .negated c => do
      run fuel true c
      setStatus (if (← get).status = 0 then 1 else 0)
    | .both a b => do
      run fuel true a
      if (← get).status = 0 then run fuel tested b
    | .either a b => do
      run fuel true a
      if (← get).status ≠ 0 then run fuel tested b
    | .sequence a b => do
      run fuel tested a
      run fuel tested b
    | .background body =>
      modify fun s =>
        let number := s.lastJob + 1
        let (n, t) := s.addStream (.source [])
        let job : Job :=
          { number, body, scene := (t.setChannel 0 n).toScene, current := s.files.current }
        { t with jobs := s.jobs ++ [job], lastJob := number, status := 0 }

/-- Does what is to be done on signals that have come. -/
def signals : (fuel : Nat) → Act Unit
  | 0 => return ()
  | fuel + 1 => do
    let s ← get
    match s.pending with
    | [] => return ()
    | name :: pending =>
      set { s with pending }
      if let some t := s.traps.lookup name then action fuel t
      setStatus s.status
      signals fuel

/-- Carries out a text of commands. -/
def action : (fuel : Nat) → Text → Act Unit
  | 0, _ => throw .failed
  | fuel + 1, t => script fuel false { rest := t }

/-- Carries out a script, line by line. -/
def script : (fuel : Nat) → (tested : Bool) → Reading → Act Unit
  | 0, _, _ => throw .failed
  | fuel + 1, tested, r => do
    match nextLine { r with aliases := (← get).aliases } with
    | .error m =>
      modify fun s => { s with line := m.line }
      fail m.message
    | .ok (none, _) => return ()
    | .ok (some .nothing, r) => script fuel tested r
    | .ok (some c, r) => do
      run fuel tested c
      script fuel tested r

/-- What a command prints. -/
def printed : (fuel : Nat) → Command → Act Bytes
  | 0, _ => throw .failed
  | fuel + 1, c => do
    let before := (← get).status
    collect do
      let status ← apart (action fuel) (run fuel false c)
      finishJobs fuel
      modify fun s => { s with innerStatus := status, status := before }

/-- Runs the commands in the background that have not run yet. -/
def finishJobs : (fuel : Nat) → Act Unit
  | 0 => throw .failed
  | fuel + 1 => do
    let s ← get
    match s.jobs with
    | [] => return ()
    | job :: jobs =>
      set { s with jobs, toScene := job.scene, files := { s.files with current := job.current } }
      let status ← part (action fuel) (run fuel false job.body)
      modify fun t => { s.after t with ended := (job.number, status) :: t.ended }
      finishJobs fuel

/-- Carries out a loop. -/
def loop : (fuel : Nat) → (tested untilHolds : Bool) → (condition body : Command) →
    (status : Nat) → Act Unit
  | 0, _, _, _, _, _ => throw .failed
  | fuel + 1, tested, untilHolds, condition, body, status => do
    setStatus status
    let more ← turn do
      run fuel true condition
      if ((← get).status == 0) == untilHolds then
        setStatus status
        return false
      else
        run fuel tested body
        return true
    if more then loop fuel tested untilHolds condition body (← get).status

/-- Carries out a command for every one of some fields. -/
def each : (fuel : Nat) → (tested : Bool) → (name : Text) → (body : Command) → List Text →
    (status : Nat) → Act Unit
  | 0, _, _, _, _, _ => throw .failed
  | _, _, _, _, [], status => setStatus status
  | fuel + 1, tested, name, body, t :: ts, _ => do
    assign name t
    let more ← turn do
      run fuel tested body
      return true
    if more then each fuel tested name body ts (← get).status

/-- Carries out the branch that has a pattern for a text. -/
def select : (fuel : Nat) → (tested : Bool) → Text → List (List Word × Command) → Act Unit
  | 0, _, _, _ => throw .failed
  | _, _, _, [] => setStatus 0
  | fuel + 1, tested, t, (patterns, body) :: branches => do
    if ← fits (printed fuel) fuel t patterns then run fuel tested body
    else select fuel tested t branches

/-- Carries out the commands of a pipeline, of which the first reads the input if there is one. -/
def pipe : (fuel : Nat) → List Command → (input : Option Bytes) → Act Nat
  | 0, _, _ => throw .failed
  | _, [], _ => return 0
  | fuel + 1, c :: cs, input => do
    let reading : Act Nat := do
      if let some bytes := input then discard <| openStream 0 (.source bytes)
      apart (action fuel) (run fuel false c)
    match cs with
    | [] => withChannels reading
    | cs =>
      let bytes ← collect do
        discard reading
        finishJobs fuel
      pipe fuel cs (some bytes)

/-- Carries out a simple command. -/
def simple : (fuel : Nat) → (tested : Bool) → List (Text × Word) → List Word →
    List Redirection → Act Unit
  | 0, _, _, _, _ => throw .failed
  | fuel + 1, tested, assignments, words, redirections => do
    let fields ← fieldsOfCommand declarations (printed fuel) fuel none words
    let s ← get
    let name := fields.headD []
    let isSpecial := fields.isEmpty || specialBuiltins.contains name
    let body : Act Unit := do
      match ← redirectAll (textOf (printed fuel) fuel) redirections with
      | some message =>
        warn message
        if isSpecial && !fields.isEmpty then throw .failed else setStatus 2
      | none =>
        let carried : Act Unit := do
          let given ← assignAll (printed fuel) fuel assignments
          if !isSpecial then for (x, _) in given do exportVariable x
          trace s.channels (given.map (fun (x, t) => x ++ '=' :: t) ++ fields)
          if fields.isEmpty then setStatus (← get).innerStatus
          else setStatus (← call fuel tested name fields.tail)
        if isSpecial then carried else keepingVariables (assignments.map (·.1)) carried
    /- The redirections of `exec` stay. -/
    if name = "exec".toList then body else withChannels body

/-- Calls a function, a builtin command or a program; gives the status. -/
def call : (fuel : Nat) → (tested : Bool) → (name : Text) → List Text → Act Nat
  | 0, _, _, _ => throw .failed
  | fuel + 1, tested, name, arguments => do
    let s ← get
    if specialBuiltins.contains name then builtin fuel tested name arguments
    else
      match s.functions.lookup name with
      | some body => function fuel tested body arguments
      | none => bare fuel tested name arguments

/-- Calls a builtin command or a program, but no function. -/
def bare : (fuel : Nat) → (tested : Bool) → (name : Text) → List Text → Act Nat
  | 0, _, _, _ => throw .failed
  | fuel + 1, tested, name, arguments =>
    if specialBuiltins.contains name || Builtin.ordinary.contains name then
      forgiving (builtin fuel tested name arguments)
    else program fuel name arguments

/-- Calls a function. -/
def function : (fuel : Nat) → (tested : Bool) → Command → List Text → Act Nat
  | 0, _, _, _ => throw .failed
  | fuel + 1, tested, body, arguments => do
    let s ← get
    set { s with arguments, locals := some [], loops := 0 }
    let restore : Act Unit := modify fun t =>
      { (t.locals.getD []).foldl (fun t (name, old) => t.resetVar name old) t with
        arguments := s.arguments, locals := s.locals, loops := s.loops }
    let called : Act Nat := do
      run fuel tested body
      return (← get).status
    restoring (returning called) restore

/-- Calls a builtin command. -/
def builtin : (fuel : Nat) → (tested : Bool) → (name : Text) → List Text → Act Nat
  | 0, _, _, _ => throw .failed
  | fuel + 1, tested, name, arguments => do
    /- A tool speaks in the name of the shell. -/
    let asTool (tool : Tool.Action) : Act Nat := do
      statusOf (← callTool tool ((← get).heading ++ name) arguments)
    let carried (t : Text) : Act Nat := do
      setStatus 0
      script fuel tested { rest := t }
      return (← get).status
    match String.ofList name, arguments with
    | "echo", _ => asTool Tool.Print.echo
    | "printf", _ => asTool Tool.Print.printf
    | "test", _ | "[", _ => asTool Tool.test
    | "eval", _ => inName name (carried (Text.join [' '] arguments))
    | "wait", _ => inName name do
      finishJobs fuel
      match arguments.getLast? with
      | none => return 0
      | some t =>
        match (← get).ended.lookup (← Builtin.number t) with
        | some status => statusOf status
        | none => return 127
    | ".", [] | "exec", [] => return 0
    | ".", place :: _ => inName name do
      match (← get).scriptAt place with
      | .error message => fail message
      | .ok t => returning (inName place (carried t))
    | "exec", program :: arguments => inName name do
      match (← get).located program with
      | .error (reason, status) =>
        warn reason
        throw (.exit status)
      | .ok (image, place) =>
        match ← start fuel image program place arguments with
        | .code n => throw (.exit n)
        | .signal n => throw (.killed n)
    | "command", _ => do
      let (given, operands) ← inName name (Builtin.options "pv" arguments)
      match operands with
      | [] => return 0
      | w :: ws =>
        if given.contains 'v' then Builtin.describe [w] else bare fuel tested w ws
    | _, _ =>
      match Builtin.named? name with
      | some b => inName name (b arguments)
      | none => program fuel name arguments

/-- Runs a program; gives the status. -/
def program : (fuel : Nat) → (name : Text) → List Text → Act Nat
  | 0, _, _ => throw .failed
  | fuel + 1, name, arguments => do
    match (← get).located name with
    | .error (reason, status) =>
      warn reason
      return if name.contains '/' then status else 127
    | .ok (image, place) =>
      Builtin.remember name
      statusOf (← forked (start fuel image name place arguments))

/-- Starts what a file means.  A script may name the program that carries it out. -/
def start : (fuel : Nat) → Program.Image → (name place : Text) → List Text → Act ExitStatus
  | 0, _, _, _, _ => throw .failed
  | fuel + 1, image, name, place, arguments =>
    match image with
    | .tool tool =>
      match Tool.named? tool with
      | none => caller fuel tool name arguments
      | some t => do
        let status ← callTool t name arguments
        if tool = "sleep".toList ∧ status = .code 0 then passTime (Tool.spanOf arguments)
        return status
    | .script [] t => shell fuel name arguments [] t
    | .script (interpreter :: options) _ => do
      match Program.load (← get).files interpreter with
      | .ok (.tool tool) => start fuel (.tool tool) interpreter place (options ++ place :: arguments)
      | _ =>
        warn (name ++ ": not found")
        return .code 127

/-- Runs a script in a shell that knows only the variables that programs are given. -/
def shell : (fuel : Nat) → (name : Text) → (arguments : List Text) → (options : Text) → Text →
    Act ExitStatus
  | 0, _, _, _, _ => throw .failed
  | fuel + 1, name, arguments, options, t => do
    let s ← get
    set (s.fresh name arguments options)
    let status ← endOf do
      return .code ((← untilEnd (action fuel) (script fuel false { rest := t })) % 256)
    modify s.after
    return status

/-- Runs a program that runs other programs. -/
def caller : (fuel : Nat) → (tool name : Text) → List Text → Act ExitStatus
  | 0, _, _, _ => throw .failed
  | fuel + 1, tool, name, arguments => do
    let s ← get
    match String.ofList tool with
    | "env" => do
      let around := Surroundings.read arguments
      if around.words.isEmpty then
        callTool (fun _ files => Tool.wrote files (around.listing s.environment)) name []
      else
        modify around.hide
        withVariables around.given (other fuel tool name around.words)
    | "xargs" =>
      match Feeding.read arguments with
      | .error e => callTool (fun call files => Tool.rejected call files 1 e) name arguments
      | .ok feeding => all fuel name (feeding.calls (Utf8.decode (← readAll 0))) (.code 0)
    | "timeout" =>
      match arguments with
      | t :: words =>
        match Tool.span? t with
        | none =>
          callTool (fun call files =>
            Tool.misused call files 125 ("invalid time interval " ++ Tool.quoted t)) name arguments
        | some span =>
          if span = 0 then other fuel tool name words
          else
            let mine := s.clock + span
            set { s with deadline := some (s.deadline.elim mine (min mine)) }
            let status ← tryCatch (forked (other fuel tool name words)) fun
              | .overtime => do
                if (← get).clock < mine then throw .overtime else return .code 124
              | jump => throw jump
            modify fun t => { s.after t with deadline := s.deadline }
            return status
      | [] => callTool (fun call files => Tool.misused call files 125 "missing operand") name []
    | _ => interpret fuel name arguments []

/-- Runs programs one after the other; gives the status of all of them. -/
def all : (fuel : Nat) → (name : Text) → List (List Text) → ExitStatus → Act ExitStatus
  | 0, _, _, _ => throw .failed
  | _, _, [], status => return status
  | fuel + 1, name, words :: calls, status => do
    match ← forked (other fuel "xargs" name words) with
    | .code 0 => all fuel name calls status
    | .code n => if n = 126 ∨ n = 127 then return .code n else all fuel name calls (.code 123)
    | .signal _ => return .code 125

/-- Runs a program for another one, which tells if there is none. -/
def other : (fuel : Nat) → (tool caller : Text) → List Text → Act ExitStatus
  | 0, _, _, _ => throw .failed
  | _, _, _, [] => return .code 0
  | fuel + 1, tool, caller, name :: arguments => do
    match (← get).image name with
    | .ok (image, place) => start fuel image name place arguments
    | .error e =>
      let shown := match String.ofList tool with
        | "xargs" => name
        | "timeout" => "failed to run command " ++ Tool.quoted name
        | _ => Tool.quoted name
      writeText 2 (caller ++ ": " ++ shown ++ ": " ++ e.message ++ ['\n'])
      return .code (if e = .missing then 127 else 126)

/-- Runs a shell as its options ask for it: a text, a file or the input is the script. -/
def interpret : (fuel : Nat) → (name : Text) → List Text → (letters : Text) → Act ExitStatus
  | 0, _, _, _ => throw .failed
  | fuel + 1, name, arguments, letters => do
    let failing (t : Text) : Act ExitStatus := do
      writeText 2 (name ++ ": 0: " ++ t ++ ['\n'])
      return .code 2
    let options := letters.filter (· != 'c')
    let begin (words : List Text) : Act ExitStatus := do
      match letters.contains 'c', words with
      | true, [] => failing "-c requires an argument"
      | true, [t] => shell fuel name [] options t
      | true, t :: name :: arguments => shell fuel name arguments options t
      | false, [] => do shell fuel name [] options (Utf8.decode (← readAll 0))
      | false, place :: arguments =>
        match (← get).files.read place with
        | .ok bytes => shell fuel place arguments options (Utf8.decode bytes)
        | .error e => failing (openError false place e)
    match arguments with
    | ['-', '-'] :: ws => begin ws
    | ('-' :: c :: rest) :: ws =>
      match (c :: rest).find? fun c => c != 'c' && !Builtin.optionNames.any (·.1 == c) with
      | some c => failing ("Illegal option -" ++ [c])
      | none => interpret fuel name ws (letters ++ c :: rest)
    | ws => begin ws

end

/-- Carries out a program and all that it has begun in the background; gives how it ended. -/
def complete (fuel : Nat) (body : Act ExitStatus) : Act ExitStatus := do
  let status ← endOf body
  finishJobs fuel
  return status

end Stepwise.Shell
