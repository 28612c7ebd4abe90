import ExportSurface.CommandLine.Key
import ExportSurface.CommandLine.Options

/-!
# Reading a command line

A command line is read argument by argument.

* `--name value` and `--name=value` give the key a value, and `--name` alone turns a switch on.
* `--` ends the names: everything behind it stands for itself.
* Any other argument is the library.

A key with its value in an argument of its own waits for the next argument, and takes effect only when
something else follows or the line ends. So a name that is not known is reported before a bad value
that stands right in front of it.

`CommandLine.read` gives the options, or a `Halt` that says why there are none.
-/

namespace ExportSurface.CommandLine

/-- Why a command line gives no options. -/
inductive Halt where
  /-- It asks for help. -/
  | help
  /-- It asks for the version. -/
  | version
  /-- An argument is no key, no value and no library. -/
  | unknownArgument (argument : Bytes)
  /-- A key has no value, or one that is not among its values. -/
  | invalidValue (key : Key)
  /-- A value is not a text. -/
  | valueNotText (key : Key)
  /-- A key that may be given once is given again. -/
  | repeated (key : Key)
  /-- A switch is given a value. -/
  | unneededValue (key : Key)
  /-- Keys are missing that every command line needs. -/
  | missing (keys : List Key)
  deriving DecidableEq, Repr

/-! ## Drafts -/

/-- What has taken effect so far. -/
structure Draft where
  task : Option Task := none
  reference : Option Path := none
  output : Option Path := none
  toolDirectory : Option Text := none
  ignoreFiles : List Path := []
  skipsToolchain : Bool := false
  format : Option ReportFormat := none
  debug : Bool := false
  target : Option Path := none
  deriving DecidableEq, Repr

/-- Whether the key is set and may not be set again. Ignore files add up. -/
def Draft.isTaken (d : Draft) : Key → Bool
  | .task => d.task.isSome
  | .reference => d.reference.isSome
  | .output => d.output.isSome
  | .toolDirectory => d.toolDirectory.isSome
  | .skipsToolchain => d.skipsToolchain
  | .format => d.format.isSome
  | .debug => d.debug
  | .target => d.target.isSome
  | .ignoreFile | .help | .version => false

/-- A path that a value writes; it may not be empty. -/
def pathValue (k : Key) (v : Bytes) : Except Halt Path :=
  if v.isEmpty then .error (.invalidValue k) else .ok ⟨v⟩

/-- The one of some values that a word names. -/
def choice {α : Type} (k : Key) (all : List α) (name : α → Text) (v : Bytes) : Except Halt α :=
  match all.find? fun a => Utf8.encode (name a) = v with
  | some a => .ok a
  | none => .error (.invalidValue k)

/-- A text that a value writes; it may be empty. -/
def textValue (k : Key) (v : Bytes) : Except Halt Text :=
  match Utf8.decode? v with
  | some t => .ok t
  | none => .error (.valueNotText k)

/-- Sets a key that is not taken to a value. -/
def Draft.set (d : Draft) (k : Key) (v : Bytes) : Except Halt Draft :=
  match k with
  | .task => do return { d with task := some (← choice k [.check, .dump] Task.name v) }
  | .reference => do return { d with reference := some (← pathValue k v) }
  | .output => do return { d with output := some (← pathValue k v) }
  | .toolDirectory => do return { d with toolDirectory := some (← textValue k v) }
  | .ignoreFile => do return { d with ignoreFiles := d.ignoreFiles ++ [← pathValue k v] }
  | .format => do
    return { d with format := some (← choice k [.text, .json] ReportFormat.name v) }
  | .target => do return { d with target := some (← pathValue k v) }
  | .skipsToolchain => .ok { d with skipsToolchain := true }
  | .debug => .ok { d with debug := true }
  | .help => .error .help
  | .version => .error .version

/-- Lets a key take effect, with the value that it was given, if it was given one. -/
def Draft.apply (d : Draft) (k : Key) (v : Option Bytes) : Except Halt Draft :=
  if k.takesValue && v.isNone then .error (.invalidValue k)
  else if d.isTaken k then .error (.repeated k)
  else d.set k (v.getD [])

/-! ## Arguments -/

/-- Where the reading of a command line stands. -/
structure Reader where
  draft : Draft := {}
  /-- The key that takes effect next, and its value if that has been read. -/
  waiting : Option (Key × Option Bytes) := none
  /-- The library has been read. -/
  hasTarget : Bool := false
  /-- The names have ended. -/
  onlyValues : Bool := false

namespace Reader

/-- Lets the waiting key take effect. -/
def settle (r : Reader) : Except Halt Draft :=
  match r.waiting with
  | none => .ok r.draft
  | some (k, v) => r.draft.apply k v

/-- Lets the waiting key take effect, and then another one. -/
def apply (r : Reader) (k : Key) (v : Option Bytes) : Except Halt Reader := do
  return { r with draft := ← (← r.settle).apply k v, waiting := none }

/-- Lets the waiting key take effect and another one wait. -/
def wait (r : Reader) (k : Key) (v : Option Bytes) : Except Halt Reader := do
  return { r with draft := ← r.settle, waiting := some (k, v) }

/-- The byte that starts a name. -/
def dash : UInt8 := '-'.toUInt8

/-- The byte between a name and its value. -/
def equals : UInt8 := '='.toUInt8

/-- Reads a long name, with the value that follows its first `=`. -/
def readLong (r : Reader) (argument : Bytes) : Except Halt Reader :=
  let name := argument.takeWhile (· ≠ equals)
  let value := (argument.dropWhile (· ≠ equals)).tail?
  match Key.ofLongName? name, value with
  | none, _ => .error (.unknownArgument (dash :: dash :: argument))
  | some k, none => if k.takesValue then r.wait k none else r.apply k none
  | some k, some v => if k.takesValue then r.apply k (some v) else .error (.unneededValue k)

/-- Reads a short name. What follows it is looked at only after it took effect; no short name lets
the reading go on. -/
def readShort (r : Reader) (argument : Bytes) : Except Halt Reader :=
  match (Utf8.decodeLossy argument).head?.bind Key.ofShortName? with
  | none => .error (.unknownArgument (dash :: argument))
  | some k => r.apply k none

/-- Reads an argument that is no name: the value that a key waits for, or the library. -/
def readValue (r : Reader) (argument : Bytes) : Except Halt Reader :=
  match r.onlyValues, r.waiting with
  | false, some (k, none) => .ok { r with waiting := some (k, some argument) }
  | _, _ =>
    if r.hasTarget then .error (.unknownArgument argument)
    else do return { ← r.wait .target (some argument) with hasTarget := true }

/-- Reads an argument. A dash alone is a value. -/
def read (r : Reader) (argument : Bytes) : Except Halt Reader :=
  if r.onlyValues then r.readValue argument
  else
    match dropPrefix? [dash, dash] argument, dropPrefix? [dash] argument with
    | some [], _ => .ok { r with onlyValues := true }
    | some rest, _ => r.readLong rest
    | none, some (b :: rest) => r.readShort (b :: rest)
    | none, _ => r.readValue argument

/-- Reads arguments one after the other. -/
def readAll (r : Reader) : List Bytes → Except Halt Reader
  | [] => .ok r
  | argument :: arguments => do readAll (← r.read argument) arguments

end Reader

/-! ## Options -/

/-- The options of a draft. The environment may name the directory of the listing tool; the command
line comes first. -/
def Draft.options (d : Draft) (environment : Option Bytes) : Except Halt Options := do
  let toolDirectory ←
    match d.toolDirectory, environment with
    | some t, _ => pure t
    | none, some v => textValue .toolDirectory v
    | none, none => pure []
  match d.task, d.target with
  | some task, some target =>
    return { task, target, toolDirectory, reference := d.reference, output := d.output
             ignoreFiles := d.ignoreFiles, skipsToolchain := d.skipsToolchain
             format := d.format.getD .text, debug := d.debug }
  | task, target =>
    .error (.missing ((if task.isNone then [.task] else []) ++
      if target.isNone then [.target] else []))

/-- The options that the arguments ask for. -/
def read (arguments : List Bytes) (environment : Option Bytes) : Except Halt Options := do
  (← (← ({} : Reader).readAll arguments).settle).options environment

end ExportSurface.CommandLine
