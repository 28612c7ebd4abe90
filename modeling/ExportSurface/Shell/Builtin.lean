import ExportSurface.FileTree.Reading
import ExportSurface.Shell.Expansion
import ExportSurface.Shell.Printing

/-!
# Commands of the shell

The commands that the shell runs itself, but for `exec`. Each takes its words and gives an exit status.

* `Builtin.all` lists them by their names.
-/

namespace ExportSurface.Shell.Builtin

variable (ws : List Text)

/-! ## Printing -/

/-- Prints on the standard output. -/
def printed (command : String) (t : Text) : Action Nat := do
  if ← Action.print Process.standardOutput t then return 0
  else
    Action.warn (command.toList ++ ": ".toList ++ command.toList ++ ": I/O error".toList)
    return 1

/-- Prints words with blanks between them. -/
def echo : Action Nat := printed "echo" (Printing.echoText ws)

/-- Prints words as a format says. -/
def printf : Action Nat := do
  match ws with
  | [] => Action.fault "printf: usage: printf format [arg ...]".toList
  | format :: ws =>
    match Printing.formatted format ws with
    | .ok t => printed "printf" t
    | .error complaint => Action.fault ("printf: ".toList ++ complaint)

/-! ## Tests -/

/-- What a letter says of a word, if it says anything. -/
def property? (t : FileTree) (letter : Char) (w : Text) : Option Bool :=
  let hasMode (p : Mode → Bool) : Bool := (t.mode? (.ofBytes w)).any p
  match letter with
  | 'n' => some (w ≠ [])
  | 'z' => some (w = [])
  | 'e' => some (t.find (.ofBytes w)).toOption.isSome
  | 'f' => some ((t.find (.ofBytes w)).toOption.any fun | (_, .file _ _) => true | _ => false)
  | 'd' => some (t.isDirectory (.ofBytes w))
  | 'r' => some (hasMode Mode.isReadable)
  | 'w' => some (hasMode Mode.isWritable)
  | 'x' => some (hasMode Mode.isExecutable)
  | _ => none

/-- The comparisons of numbers by their signs. -/
def comparisons : List (Text × (Nat → Nat → Bool)) :=
  [("-eq".toList, fun a b => a = b), ("-ne".toList, fun a b => a ≠ b),
    ("-lt".toList, fun a b => a < b), ("-le".toList, fun a b => a ≤ b),
    ("-gt".toList, fun a b => b < a), ("-ge".toList, fun a b => b ≤ a)]

/-- Whether words state something true. -/
def holds (command : Text) : List Text → Action Bool
  | [] => return false
  | [a] => return a ≠ []
  | ['!'] :: r => do return !(← holds command r)
  | [['-', letter], a] => do
    match property? (← get).world.files letter a with
    | some b => return b
    | none => unexpected ['-', letter]
  | [a, sign, b] => do
    if sign = ['='] then return a = b
    else if sign = ['!', '='] then return a ≠ b
    else match comparisons.lookup sign with
      | some compare => return compare (← Action.number command a) (← Action.number command b)
      | none => unexpected a
  | a :: _ => unexpected a
where
  unexpected (w : Text) : Action Bool :=
    Action.fault (command ++ ": ".toList ++ w ++ ": unexpected operator".toList)

/-- Tells whether words state something true. -/
def test (command : Text) (ws : List Text) : Action Nat := do
  return if ← holds command ws then 0 else 1

/-- Tells whether words before a closing bracket state something true. -/
def bracket : Action Nat := do
  if ws.getLast? ≠ some [']'] then Action.fault "[: missing ]".toList
  test ['['] ws.dropLast

/-! ## Leaving -/

/-- Sets the exit status that the first word writes, if there is one, and stops. -/
def stop (command : String) (how : Stop) : Action Nat := do
  if let w :: _ := ws then Action.setStatus (← Action.number command.toList w)
  throw how

/-! ## Options and parameters -/

/-- Switches an option on or off. -/
def switch (command : String) (on : Bool) (letter : Char) : Action Unit := do
  if letter ∉ "efnuvx".toList then
    Action.fault (command.toList ++ "Illegal option -".toList ++ [letter])
  Action.change fun s =>
    { s with options := (if on then [letter] else []) ++ s.options.filter (· ≠ letter) }

/-- Reads the options at the start of the words and gives the words after them. A `-` or `--` may end the
options. -/
def readOptions (command : String) : List Text → Action (List Text)
  | ['-'] :: ws | ['-', '-'] :: ws => return ws
  | ('-' :: letters) :: ws => do
    letters.forM (switch command true)
    readOptions command ws
  | ('+' :: letters) :: ws => do
    letters.forM (switch command false)
    readOptions command ws
  | ws => return ws

/-- Switches options, and sets the parameters if words follow. -/
def set : Action Nat := do
  let rest ← readOptions "set: " ws
  if !rest.isEmpty ∨ ['-', '-'] ∈ ws then Action.change fun s => { s with parameters := rest }
  return 0

/-! ## Reading -/

/-- A line of a text without its end, the number of characters that it takes, and whether it has an end.
If it is not raw, a backslash takes the meaning of the character after it away. -/
def lineOf (isRaw : Bool) : Text → Text × Nat × Bool
  | [] => ([], 0, false)
  | '\\' :: c :: r =>
    if isRaw then
      let (t, n, isWhole) := lineOf isRaw (c :: r)
      ('\\' :: t, n + 1, isWhole)
    else
      let (t, n, isWhole) := lineOf isRaw r
      (if c = '\n' then t else c :: t, n + 2, isWhole)
  | c :: r =>
    if c = '\n' then ([], 1, true)
    else
      let (t, n, isWhole) := lineOf isRaw r
      (c :: t, n + 1, isWhole)

/-- Gives variables the fields of a line. The last one gets all that is left. -/
def share : List Text → Text → Action Unit
  | [], _ => return ()
  | name :: names, t => do
    if !isName name then Action.fault ("read: ".toList ++ name ++ ": bad variable name".toList)
    let t := t.dropWhile (· ∈ blanks)
    let field := t.takeWhile (· ∉ blanks)
    Action.assign name (if names.isEmpty then dropTrailing (· ∈ blanks) t else field)
    share names (t.drop field.length)

/-- Reads a line into variables. -/
def read : Action Nat := do
  let (isRaw, names) := match ws with
    | ['-', 'r'] :: names => (true, names)
    | names => (false, names)
  if names.isEmpty then Action.fault "read: arg count".toList
  let ds := (← Action.shell).descriptors
  let line ← Action.ask fun w =>
    match ds.lookup Process.standardInput with
    | none => .error .badDescriptor
    | some k => do
      let (t, n, isWhole) := lineOf isRaw (Bytes.characters (← w.available k))
      return ((t, isWhole), w.consume k n)
  let (t, isWhole) := line.toOption.getD ([], false)
  share names t
  return if isWhole then 0 else 1

/-! ## Signals -/

/-- How sending signals is to be asked for. -/
def killUsage : Text :=
  ("kill: Usage: kill [-s sigspec | -signum | -sigspec] [pid | job]... or\n" ++
    "kill -l [exitstatus]").toList

/-- The signal that `kill` is asked for by a name after `-s`. -/
def namedSignal (name : Text) : Action Nat := do
  match Signal.ofWord? (Text.bytes name) with
  | some n => return n
  | none => Action.fault ("kill: invalid signal number or name: ".toList ++ name)

/-- The signal that `kill` is asked for, and the words after it. -/
def signalOf : List Text → Action (Nat × List Text)
  | ('-' :: name) :: ws =>
    match Signal.ofWord? (Text.bytes name), name, ws with
    | some n, _, ws => return (n, ws)
    | none, ['-'], ws => return (15, ws)
    | none, ['s'], [] => Action.fault "kill: No arg for -s option".toList
    | none, ['s'], name :: ws => do return (← namedSignal name, afterOptions ws)
    | none, 's' :: name, ws => do return (← namedSignal name, afterOptions ws)
    | none, name, _ => Action.fault ("kill: Illegal option -".toList ++ name.take 1)
  | ws => return (15, ws)
where
  afterOptions : List Text → List Text
    | ['-', '-'] :: ws => ws
    | ws => ws

/-- Sends a signal to processes, of which only that of the script is known. -/
def kill : Action Nat := do
  if ws.isEmpty then Action.fault killUsage
  let (n, processes) ← signalOf ws
  if processes.isEmpty then Action.fault killUsage
  processes.foldlM (fun status w => do
    let w := if w.head? = some '-' then w.tail else w
    let _ ← Action.number "kill".toList w
    if w = State.processNumber then
      Action.send n
      return status
    else
      Action.warn ("kill: ".toList ++ SystemError.noProcess.description ++ ['\n'])
      return 1) 0

/-- Sets what is done when signals come, or for `EXIT` at the end, or takes it away. -/
def setTraps (script? : Option Text) : List Text → Action Nat
  | [] => return 0
  | w :: ws => do
    match if w.map Char.toUpper = "EXIT".toList then some 0 else Signal.ofWord? (Text.bytes w) with
    | some n => do
      Action.change fun s =>
        { s with traps := (script?.map fun t => (n, t)).toList ++ s.traps.filter (·.1 ≠ n) }
      setTraps script? ws
    | none => do
      let _ ← Action.print Process.standardError ("trap: ".toList ++ w ++ ": bad trap\n".toList)
      return 1

/-- Says what is done when signals come. -/
def trap : Action Nat :=
  match ws with
  | [w] => setTraps none [w]
  | ['-'] :: ws => setTraps none ws
  | w :: ws => if w ≠ [] ∧ w.all Char.isDigit then setTraps none (w :: ws) else setTraps (some w) ws
  | [] => return 0

/-! ## All of them -/

/-- The commands by their names. -/
def all : List (Text × (List Text → Action Nat)) :=
  [(":".toList, fun _ => return 0), ("true".toList, fun _ => return 0),
    ("false".toList, fun _ => return 1), ("echo".toList, echo), ("printf".toList, printf),
    ("test".toList, test "test".toList), ("[".toList, bracket),
    ("exit".toList, fun ws => stop ws "exit" .leave),
    ("return".toList, fun ws => stop ws "return" .return), ("set".toList, set),
    ("read".toList, read), ("kill".toList, kill), ("trap".toList, trap)]

/-- The commands in which a fault ends the script. -/
def special : List Text := [":", "exec", "exit", "return", "set", "trap"].map String.toList

end ExportSurface.Shell.Builtin
