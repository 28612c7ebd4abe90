import ExportSurface.Shell.Builtin

/-!
# Running scripts

A command is run by what it consists of. What is run apart from the rest of the script, as the parts of
a pipeline and the programs that are called, works on a copy of the state of the shell; of what it did
only the world remembers.

* `Shell.runText` runs the commands of a script, each one as soon as it was read.
* `Shell.finish` runs a shell to its end.
* `Shell.main` runs the shell from its start to its end.
-/

namespace ExportSurface.Shell

/-- Runs a command. The flag says that its status is looked at, so that a failure is none of the
script. -/
abbrev Runner := Bool → Command → Action Unit

/-- The exit status of the last command. -/
def status : Action Nat := do return (← Action.shell).status

/-! ## Scripts -/

/-- The lines of a script that were read with some of its tokens: from the given one on, up to the one
where the tokens end. Gives them with the number of the next line. -/
def linesRead (script : Text) (start : Nat) (read : List Lexeme) : Text × Nat :=
  let lines := (pieces '\n' script).drop (start - 1)
  match read.getLast? with
  | some ⟨line, .newline⟩ => ((lines.take (line - start)).flatMap (· ++ ['\n']), line)
  | _ => (join '\n' lines, start + lines.length)

section

variable (run : Runner)

/-- Runs the commands of a script. The numbers are that of the tokens that may be read and that of the
line to be shown next, if lines are shown. -/
def runTokens (script : Text) : Nat → Nat → List Lexeme → Action Unit
  | 0, _, _ => return ()
  | n + 1, start, ts => do
    match nextCommand?.run ts with
    | .error refusal => do
      Action.change fun s => { s with line := refusal.line }
      Action.fault ("Syntax error: ".toList ++ refusal.complaint)
    | .ok (c?, rest) => do
      let (shown, next) := linesRead script start (ts.take (ts.length - rest.length))
      if ← Action.isOn 'v' then
        let _ ← Action.print Process.standardError shown
      match c? with
      | none => return ()
      | some c => do
        run false c
        runTokens script n next rest

/-- Runs the commands of a text. Zero bytes in it do not count. -/
def runText (t : Text) : Action Unit := do
  let script := t.filter (· ≠ '\x00')
  let ts := tokens script
  runTokens run script (ts.length + 1) 1 ts

/-! ## Processes -/

/-- How a step ended the process, if it did so at once. -/
def attempt (a : Action Unit) : Action (Option ExitStatus) :=
  tryCatch (do a; pure none) fun
    | .ended status => pure (some status)
    | _ => pure none

/-- Runs a step to its end as a whole process, with what is to be done at the end. -/
def finish (body : Action Unit) : Action ExitStatus := do
  match ← attempt body with
  | some status => return status
  | none => do
    let s ← Action.shell
    match s.traps.lookup 0 with
    | none => return .exited (s.status % 256)
    | some t => do
      Action.change fun s => { s with traps := s.traps.filter (·.1 ≠ 0) }
      match ← attempt (do runText run t; Action.setStatus s.status) with
      | some status => return status
      | none => return .exited ((← status) % 256)

/-- Runs a step to its end in a process of its own, which starts with some descriptors led
elsewhere. -/
def apart (leads : List (Nat × Nat)) (body : Action Unit) : Action ExitStatus := do
  let s ← Action.shell
  Action.change fun s =>
    { s with
      descriptors := leads ++ s.descriptors.filter fun d => (leads.lookup d.1).isNone
      traps := s.traps.filter (·.2.isEmpty), pending := [], isApart := true, sent := [] }
  let status ← finish run body
  let sent := (← Action.shell).sent
  Action.change fun _ => s
  sent.forM Action.send
  return status

/-- The exit status that a process left, as commands see it. Most signals that end one are told of. -/
def statusOf (e : ExitStatus) : Action Nat := do
  if let .signaled n := e then
    if n ≠ 2 ∧ n ≠ 13 then
      let _ ← Action.print Process.standardError (Signal.meaning n ++ ['\n'])
  return e.number

/-- Takes the output of a script, without the line ends at its end. -/
def takeOutput : Taker := fun script => do
  let (k, _, writer) ← Action.addBuffer []
  let e ← apart run [(Process.standardOutput, writer)] (runText run script)
  let n ← statusOf e
  Action.change fun s => { s with outputStatus := n }
  let t := Bytes.characters ((← get).world.buffers.getD k [])
  return dropTrailing (· = '\n') (t.filter (· ≠ '\x00'))

/-! ## Programs -/

/-- Where a program may be: a bare name is searched for along `PATH`. -/
def candidates (s : State) (name : Text) : List Text :=
  if '/' ∈ name then [name]
  else (pieces ':' (((s.bindings.lookup "PATH".toList).map Variable.value).getD [])).map fun d =>
    if d.isEmpty then name else d ++ '/' :: name

/-- The path of the shell as a program. -/
def shellProgram : Text := "/bin/sh".toList

/-- The exit status of a program that was not started. -/
def searchStatus : SystemError → Nat
  | .notFound | .notADirectory | .tooManyLinks | .nameTooLong => 127
  | _ => 126

/-- Starts the first of some programs that can be started in the place of the shell. What is no program is
taken for a script. Gives why none of them was started. -/
def startFirst (execute : Executor) (words : List Text) :
    SystemError → List Text → Action SystemError
  | fault, [] => return fault
  | fault, path :: paths => do
    let s ← Action.shell
    let start (path : Text) (words : List Text) : Action (Except SystemError ExitStatus) :=
      Action.ask fun w =>
        execute (.ofBytes path) ⟨words, s.descriptors, s.environment⟩ w
    let result ← start path words
    let result ← match result with
      | .error .notAProgram => start shellProgram (shellProgram :: path :: words.tail)
      | result => pure result
    match result with
    | .ok status => throw (.ended status)
    | .error e =>
      startFirst execute words (if e = .notFound ∨ e = .notADirectory then fault else e) paths

/-- Starts a program in the place of the shell, at the request of a command. -/
def replaceBy (command : String) (execute : Executor) (words : List Text) : Action Unit := do
  let name := words.headD []
  let e ← startFirst execute words .notFound (candidates (← Action.shell) name)
  Action.setStatus (searchStatus e)
  Action.warn (command.toList ++ name ++ ": ".toList ++ Action.pathFault "not found" e)
  throw .leave

/-! ## Simple commands -/

/-- Stops after a failure that nobody looks at, if that is asked for. -/
def check (isTested : Bool) : Action Unit := do
  let s ← Action.shell
  if 'e' ∈ s.options ∧ !isTested ∧ s.status ≠ 0 then throw .leave

/-- Runs what was set for the signals that came. The exit status stays as it is. -/
def runTraps : Action Unit := do
  let s ← Action.shell
  Action.change fun s => { s with pending := [] }
  s.pending.forM fun n => do
    runText run ((s.traps.lookup n).getD [])
    Action.setStatus s.status

/-- Runs a function with parameters. -/
def call (isTested : Bool) (body : Command) (parameters : List Text) : Action Unit := do
  let s ← Action.shell
  Action.change fun s => { s with parameters }
  try run isTested body
  catch e => if e ≠ .return then throw e
  Action.change fun t => { t with parameters := s.parameters, descriptors := s.descriptors }

/-- Runs a command of the shell. A fault stops the script only if the command is a special one. -/
def perform (isSpecial : Bool) (command : Action Nat) : Action Unit := do
  try Action.setStatus (← command)
  catch e => if isSpecial ∨ e ≠ .fault then throw e

/-- Runs the words of a command. -/
def invoke (execute : Executor) (isTested : Bool) (ws : List Text) : Action Unit := do
  let s ← Action.shell
  match ws with
  | [] => Action.setStatus s.outputStatus
  | name :: arguments =>
    match s.functions.lookup name, Builtin.all.lookup name with
    | some body, _ => call run isTested body arguments
    | none, some command => perform (name ∈ Builtin.special) (command arguments)
    | none, none =>
      if name = "exec".toList then
        if arguments.isEmpty then Action.setStatus 0 else replaceBy "exec: " execute arguments
      else Action.setStatus (← statusOf (← apart run [] (replaceBy "" execute ws)))

/-- The name and the value that a word gives to a variable, if it does that. -/
def assignment? (w : Word) : Option (Text × Word) :=
  let name := w.takeWhile (· ≠ .char '=' false)
  match w.drop name.length, plainText? name with
  | _ :: value, some name => if isName name then some (name, value) else none
  | _, _ => none

/-- The assignments in front of a command, and its other words. -/
def splitAssignments : List Word → List (Text × Word) × List Word
  | [] => ([], [])
  | w :: ws =>
    match assignment? w with
    | none => ([], w :: ws)
    | some a =>
      let (others, ws) := splitAssignments ws
      (a :: others, ws)

/-- A simple command whose words were expanded. -/
structure Prepared where
  assignments : List (Text × Text) := []
  words : List Text
  targets : List Action.Target := []

/-- The word that names the command. -/
def Prepared.name (p : Prepared) : Text := p.words.headD []

/-- Expands the words of a simple command. -/
def prepare (words : List Word) (redirections : List Redirection) : Action Prepared := do
  let (assignments, words) := splitAssignments words
  let fields ← words.mapM (Expansion.fields (takeOutput run))
  let assignments ← assignments.mapM fun (name, w) => do
    return (name, ← Expansion.single (takeOutput run) w)
  let targets ← redirections.mapM (Expansion.target (takeOutput run))
  return { assignments, words := fields.flatten, targets }

/-- Shows a command before it is run, if that is asked for. -/
def trace (p : Prepared) : Action Unit := do
  if ← Action.isOn 'x' then
    let shown := p.assignments.map (fun (name, t) => name ++ '=' :: t) ++ p.words
    let _ ← Action.print Process.standardError ("+ ".toList ++ join ' ' shown ++ ['\n'])

/-- Variables with those that were assigned put back to what they were. -/
def restored (old : List (Text × Variable)) (assigned : List (Text × Text))
    (vs : List (Text × Variable)) : List (Text × Variable) :=
  vs.filter (fun v => (assigned.lookup v.1).isNone) ++
    old.filter fun v => (assigned.lookup v.1).isSome

/-- Carries out a simple command. What is assigned in front of one that is no special command is
forgotten after it. -/
def carryOut (execute : Executor) (isTested : Bool) (p : Prepared) : Action Unit := do
  let s ← Action.shell
  let isSpecial := (s.functions.lookup p.name).isNone && p.name ∈ Builtin.special
  if ← Action.follow p.targets then
    p.assignments.forM fun (name, t) => Action.assign name t
    trace p
    invoke run execute isTested p.words
    let lasts := isSpecial || p.words.isEmpty
    Action.change fun t =>
      { t with
        bindings := if lasts then t.bindings else restored s.bindings p.assignments t.bindings
        descriptors := if p.name = "exec".toList then t.descriptors else s.descriptors }
  else
    Action.change fun t => { t with descriptors := s.descriptors }
    if isSpecial then throw .fault

/-- Runs a simple command. -/
def simple (execute : Executor) (isTested : Bool) (line : Nat) (words : List Word)
    (redirections : List Redirection) : Action Unit := do
  Action.change fun s => { s with line, outputStatus := 0 }
  carryOut run execute isTested (← prepare run words redirections)
  runTraps run
  check isTested

/-! ## Commands -/

/-- The number of times that a loop is run before it is given up. -/
def patience : Nat := 1000000000

/-- Runs a command, of which nothing may be there. -/
def runOrSucceed (isTested : Bool) : Command → Action Unit
  | .nothing => Action.setStatus 0
  | c => run isTested c

/-- Runs the rounds of a loop. The numbers are that of the rounds to go and the status of the last
one. -/
def rounds (isTested isUntil : Bool) (test body : Command) : Nat → Nat → Action Unit
  | 0, _ => throw .leave
  | n + 1, last => do
    run true test
    if ((← status) = 0) = !isUntil then
      run isTested body
      rounds isTested isUntil test body n (← status)
    else Action.setStatus last

/-- Runs the first branch with a pattern that a text fits. -/
def branches (isTested : Bool) (t : Text) : List (List Word × Command) → Action Unit
  | [] => Action.setStatus 0
  | (patterns, c) :: others => do
    if ← patterns.anyM fun w => do return Pattern.fits (← Expansion.items (takeOutput run) w) t then
      runOrSucceed run isTested c
    else branches isTested t others

/-- Runs a command whose parts are run by `run`. -/
def step (execute : Executor) (isTested : Bool) : Command → Action Unit
  | .nothing => return ()
  | .simple line words redirections => simple run execute isTested line words redirections
  | .redirected line c redirections => do
    Action.change fun s => { s with line }
    let s ← Action.shell
    let targets ← redirections.mapM (Expansion.target (takeOutput run))
    if ← Action.follow targets then run isTested c
    Action.change fun t => { t with descriptors := s.descriptors }
    check isTested
  | .apart c => do
    Action.setStatus (← statusOf (← apart run [] (run isTested c)))
    check isTested
  | .pipe first second => do
    let (_, reader, writer) ← Action.addBuffer []
    let _ ← apart run [(Process.standardOutput, writer)] (run isTested first)
    let e ← apart run [(Process.standardInput, reader)] (run isTested second)
    Action.setStatus (← statusOf e)
    check isTested
  | .negation c => do
    run true c
    Action.setStatus (if (← status) = 0 then 1 else 0)
  | .sequence first second => do
    run isTested first
    run isTested second
  | .both first second => do
    run true first
    if (← status) = 0 then run isTested second
  | .either first second => do
    run true first
    if (← status) ≠ 0 then run isTested second
  | .choice test yes no => do
    run true test
    if (← status) = 0 then run isTested yes else runOrSucceed run isTested no
  | .loop isUntil test body => rounds run isTested isUntil test body patience 0
  | .cases subject others => do
    branches run isTested (← Expansion.single (takeOutput run) subject) others
  | .function name body => do
    Action.change fun s => { s with functions := (name, body) :: s.functions, status := 0 }

end

/-- Runs commands that are nested up to a number of levels, unless they are only to be read. -/
def runner (execute : Executor) : Nat → Runner
  | 0 => fun _ _ => throw .leave
  | n + 1 => fun isTested c => do
    if !(← Action.isOn 'n') then step (runner execute n) execute isTested c

/-! ## The shell as a program -/

/-- The path along which programs are searched for if the environment gives none. -/
def standardPath : Text := "/usr/local/sbin:/usr/local/bin:/usr/sbin:/usr/bin:/sbin:/bin".toList

/-- The state at first. -/
def startingState (p : Process) : State :=
  { name := p.name, descriptors := p.descriptors
    bindings :=
      (p.environment.filter (isName ·.1)).map (fun (name, t) => (name, ⟨t, true⟩)) ++
        [("PATH".toList, ⟨standardPath, false⟩)] }

/-- What a file holds that is read as a script. The shell keeps it open no longer than that. -/
def scriptContent (name : Text) (w : World) : Except SystemError (Bytes × World) := do
  let (k, opened) ← w.openReading (.ofBytes name)
  return ((opened.available k).toOption.getD [], w)

/-- Runs the script that the words name, with the options in front of it. -/
def runWords (run : Runner) (ws : List Text) : Action Unit := do
  match ← Builtin.readOptions "" ws with
  | [] => return ()
  | name :: parameters => do
    match ← Action.ask (scriptContent name) with
    | .error e =>
      Action.fault ("cannot open ".toList ++ name ++ ": ".toList ++
        Action.pathFault "No such file" e)
    | .ok b => do
      Action.change fun s => { s with name, parameters }
      runText run (Bytes.characters b)

/-- Runs the shell from its start to its end. -/
def main (execute : Executor) (p : Process) (w : World) : ExitStatus × World :=
  let run := runner execute patience
  let (status, m) := (finish run (runWords run p.arguments)).run.run ⟨startingState p, w⟩
  (status.toOption.getD (.exited (m.shell.status % 256)), m.world)

end ExportSurface.Shell
