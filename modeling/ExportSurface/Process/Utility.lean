import ExportSurface.Process.Program
import ExportSurface.Tool.Quoting

/-!
# Small programs

The compiled programs that the scripts of a tool call besides the shell: `cat`, which prints files one
after the other, `echo`, `true` and `false`.

* `Utility.all` lists them by their names.
-/

namespace ExportSurface.Utility

variable (p : Process) (w : World)

/-- Prints through a descriptor. What cannot be printed is lost. -/
def print (descriptor : Nat) (t : Text) : World :=
  (w.writeTo p.descriptors descriptor t.bytes).toOption.getD w

/-! ## cat -/

/-- What can be read under the name that a word gives: a single `-` names the standard input. -/
def contents (file : Text) : Except SystemError (Bytes × World) := do
  if file = ['-'] then
    match p.descriptors.lookup Process.standardInput with
    | some k =>
      let b ← w.available k
      return (b, w.consume k b.length)
    | none => throw .badDescriptor
  else
    let (k, opened) ← w.openReading (.ofBytes file)
    return (← opened.available k, w)

/-- Prints a file, or complains. Gives whether the file was printed. -/
def catFile (file : Text) : Bool × World :=
  match contents p w file with
  | .ok (b, w) => (true, (w.writeTo p.descriptors Process.standardOutput b).toOption.getD w)
  | .error e =>
    (false, print p w Process.standardError
      (p.name ++ ": ".toList ++ Bytes.characters (Quoting.quote file.bytes) ++ ": ".toList ++
        e.description ++ ['\n']))

/-- Prints files in order. Gives whether all of them were printed. -/
def catFiles : World → List Text → Bool × World
  | w, [] => (true, w)
  | w, file :: files =>
    let (isPrinted, w) := catFile p w file
    let (arePrinted, w) := catFiles w files
    (isPrinted && arePrinted, w)

/-- Prints the files that the words name, or the standard input. A `--` may stand before the names. -/
def cat : ExitStatus × World :=
  let files := match p.arguments with
    | ['-', '-'] :: files => files
    | files => files
  let (arePrinted, w) := catFiles p w (if files.isEmpty then [['-']] else files)
  (.exited (if arePrinted then 0 else 1), w)

/-! ## The others -/

/-- Prints the words with blanks between them. -/
def echo : ExitStatus × World :=
  (.exited 0, print p w Process.standardOutput (join ' ' p.arguments ++ ['\n']))

/-- The programs by their names. -/
def all : List (Text × (Process → World → ExitStatus × World)) :=
  [("cat".toList, cat), ("echo".toList, echo), ("true".toList, fun _ w => (.exited 0, w)),
    ("false".toList, fun _ w => (.exited 1, w))]

end ExportSurface.Utility
