import ExportSurface.Process.Program
import ExportSurface.Shell.Command
import ExportSurface.Tool.Signal

/-!
# What the shell does

An action of the shell changes its state and the world around it, and may stop the run. The actions here
are those that commands are made of: printing, complaining, using variables, following redirections and
taking in signals.

* `Action.fault` stops the run with a complaint.
* `Action.follow` follows redirections whose names were expanded.
* `Action.receive` takes in a signal.
-/

namespace ExportSurface.Shell

/-! ## State -/

/-- A variable. -/
structure Variable where
  value : Text
  isExported : Bool := false

/-- The state of the shell. -/
structure State where
  /-- The name of the script. -/
  name : Text
  parameters : List Text := []
  bindings : List (Text × Variable)
  functions : List (Text × Command) := []
  /-- The letters of the options that are on. -/
  options : List Char := []
  /-- The exit status of the last command. -/
  status : Nat := 0
  /-- The exit status of the last command whose output was taken. -/
  outputStatus : Nat := 0
  /-- The line of the command that is run. -/
  line : Nat := 0
  descriptors : Descriptors
  /-- What is done when a signal comes, or for number 0 at the end. -/
  traps : List (Nat × Text) := []
  /-- The signals that came and wait for what is done then. -/
  pending : List Nat := []
  /-- This is a process that the shell of the script split off. -/
  isApart : Bool := false
  /-- The signals for the shell of the script. -/
  sent : List Nat := []

namespace State

variable (s : State)

/-- The number of the process of a script. Scripts that run in each other do not tell it apart. -/
def processNumber : Text := "1001".toList

/-- The value of a parameter. -/
def value? (name : Text) : Option Text :=
  if name.all Char.isDigit then
    match Nat.ofDigitChars 10 name 0 with
    | 0 => some s.name
    | n + 1 => s.parameters[n]?
  else if name = ['#'] then some (Nat.toDigits 10 s.parameters.length)
  else if name = ['?'] then some (Nat.toDigits 10 s.status)
  else if name = ['$'] then some processNumber
  else if name = ['-'] then some s.options
  else if name = ['*'] ∨ name = ['@'] then some (join ' ' s.parameters)
  else (s.bindings.lookup name).map Variable.value

/-- The environment that programs are started with. -/
def environment : List (Text × Text) :=
  s.bindings.filterMap fun (name, v) => if v.isExported then some (name, v.value) else none

end State

/-- The shell and the world around it. -/
structure Machine where
  shell : State
  world : World

/-- Why a run stops. -/
inductive Stop where
  /-- A fault in a command. -/
  | fault
  /-- The end of a function. -/
  | return
  /-- The end of the shell, with its last exit status. -/
  | leave
  /-- The process ended at once: by a signal, or as the program that took the place of the shell. -/
  | ended (status : ExitStatus)
  deriving DecidableEq, Repr

/-- A step of the shell. -/
abbrev Action (α : Type) := ExceptT Stop (StateM Machine) α

namespace Action

/-- The state of the shell. -/
def shell : Action State := do return (← get).shell

/-- Changes the state of the shell. -/
def change (f : State → State) : Action Unit := modify fun m => { m with shell := f m.shell }

/-- Asks the world for something. -/
def ask {α : Type} (f : World → Except SystemError (α × World)) : Action (Except SystemError α) := do
  let m ← get
  match f m.world with
  | .ok (a, world) => do
    set { m with world }
    return .ok a
  | .error e => return .error e

/-- Adds a buffer that holds something. Gives its number and the open files that read it and write
it. -/
def addBuffer (content : Bytes) : Action (Nat × Nat × Nat) := do
  let m ← get
  let (k, world) := m.world.addBuffer content
  set { m with world }
  return k

/-- Sets the exit status. -/
def setStatus (n : Nat) : Action Unit := change fun s => { s with status := n }

/-- Whether an option is on. -/
def isOn (letter : Char) : Action Bool := do return letter ∈ (← shell).options

/-! ## Printing -/

/-- Prints through a descriptor. Gives whether that was possible. -/
def print (descriptor : Nat) (t : Text) : Action Bool := do
  let ds := (← shell).descriptors
  if t.isEmpty then return true
  match ← ask fun w => (w.writeTo ds descriptor t.bytes).map fun w => ((), w) with
  | .ok () => return true
  | .error _ => return false

/-- Complains. The complaint names the script and the line. -/
def warn (complaint : Text) : Action Unit := do
  let s ← shell
  let _ ← print Process.standardError (s.name ++ ": ".toList ++ Nat.toDigits 10 s.line ++
    ": ".toList ++ complaint ++ ['\n'])

/-- The exit status of a command that was used in a wrong way. -/
def misuse : Nat := 2

/-- Complains and stops the command. -/
def fault {α : Type} (complaint : Text) : Action α := do
  setStatus misuse
  warn complaint
  throw .fault

/-- The greatest number that a word may write. -/
def greatestNumber : Nat := 0x7FFFFFFF

/-- The number that a word writes. -/
def number (command w : Text) : Action Nat :=
  if w.isEmpty ∨ !w.all Char.isDigit ∨ greatestNumber < Nat.ofDigitChars 10 w 0 then
    fault (command ++ ": Illegal number: ".toList ++ w)
  else return Nat.ofDigitChars 10 w 0

/-! ## Variables -/

/-- Gives a variable a value. -/
def assign (name value : Text) : Action Unit := change fun s =>
  let isExported := (s.bindings.lookup name).any Variable.isExported
  { s with bindings := (name, ⟨value, isExported⟩) :: s.bindings.filter (·.1 ≠ name) }

/-! ## Redirections -/

/-- A redirection whose word was expanded. -/
inductive Target where
  | file (descriptor : Nat) (use : FileUse) (name : Text)
  | copy (descriptor : Nat) (source : Text)
  | document (descriptor : Nat) (content : Text)

/-- Lets a descriptor lead to an open file, or to none. -/
def lead (d : Nat) (k? : Option Nat) : Action Unit := change fun s =>
  { s with
    descriptors := (k?.map fun k => (d, k)).toList ++ s.descriptors.filter (·.1 ≠ d) }

/-- What went wrong with a path, where the shell has words of its own for a missing step. -/
def pathFault (missing : String) : SystemError → Text
  | .notFound | .notADirectory => missing.toList
  | e => e.description

/-- The open file that a word names by a descriptor, or none if the word is `-`. -/
def source (ds : Descriptors) : Text → Except Text (Option Nat)
  | ['-'] => .ok none
  | [c] =>
    if c.isDigit then
      match ds.lookup (c.toNat - 48) with
      | some k => .ok (some k)
      | none => .error (c :: ": ".toList ++ SystemError.badDescriptor.description)
    else .error "Syntax error: Bad fd number".toList
  | _ => .error "Syntax error: Bad fd number".toList

/-- Follows a redirection. -/
def followOne : Target → Action Unit
  | .file d use name => do
    match ← ask fun w => w.openFile (.ofBytes name) use with
    | .ok k => lead d (some k)
    | .error e =>
      if use = .reading then
        fault ("cannot open ".toList ++ name ++ ": ".toList ++ pathFault "No such file" e)
      else fault ("cannot create ".toList ++ name ++ ": ".toList ++
        pathFault "Directory nonexistent" e)
  | .copy d w => do
    match source (← shell).descriptors w with
    | .ok k? => lead d k?
    | .error complaint => fault complaint
  | .document d content => do
    let (_, reader, _) ← addBuffer content.bytes
    lead d (some reader)

/-- Follows redirections in order. Gives whether that was possible. -/
def follow (ts : List Target) : Action Bool :=
  tryCatch (do ts.forM followOne; pure true) fun e => if e = .fault then pure false else throw e

/-! ## Signals -/

/-- The signals for which nothing can be set. -/
def untrappable : List Nat := [9, 19]

/-- Takes in a signal. What is set for it waits until the command ended. -/
def receive (n : Nat) : Action Unit := do
  let s ← shell
  if n ∉ untrappable ∧ (s.traps.lookup n).isSome then
    change fun s => { s with pending := s.pending ++ [n] }
  else if Signal.isFatal n then throw (.ended (.signaled n))

/-- Sends a signal to the shell of the script. -/
def send (n : Nat) : Action Unit := do
  if (← shell).isApart then change fun s => { s with sent := s.sent ++ [n] } else receive n

end Action

end ExportSurface.Shell
