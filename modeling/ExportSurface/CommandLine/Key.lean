import ExportSurface.Text.Utf8

/-!
# Keys

The things that a command line can set. All but the library have a long name, which follows two
dashes; some take a value, the others are switches.
-/

namespace ExportSurface.CommandLine

/-- A thing that a command line can set. -/
inductive Key where
  | task
  | reference
  | output
  | toolDirectory
  | ignoreFile
  | skipsToolchain
  | format
  | debug
  | help
  | version
  /-- The library, which is given without a name. -/
  | target
  deriving DecidableEq, Repr

namespace Key

/-- The long name of a key. -/
def longName? : Key → Option Text
  | task => some "mode".toList
  | reference => some "reference".toList
  | output => some "output".toList
  | toolDirectory => some "llvm-bin-path".toList
  | ignoreFile => some "ignore-file".toList
  | skipsToolchain => some "no-default-ignores".toList
  | format => some "format".toList
  | debug => some "debug".toList
  | help => some "help".toList
  | version => some "version".toList
  | target => none

/-- The keys with a long name. -/
def named : List Key :=
  [task, reference, output, toolDirectory, ignoreFile, skipsToolchain, format, debug, help, version]

/-- The key that has a long name. Names are not abbreviated. -/
def ofLongName? (name : Bytes) : Option Key :=
  (Utf8.decode? name).bind fun name => named.find? (·.longName? = some name)

/-- The key that has a short name. -/
def ofShortName? : Char → Option Key
  | 'h' => some help
  | 'V' => some version
  | _ => none

/-- Whether the key takes a value. -/
def takesValue : Key → Bool
  | skipsToolchain | debug | help | version => false
  | _ => true

/-- What stands for the key in a message. -/
def display (k : Key) : Text :=
  match k.longName? with
  | some name => "--".toList ++ name
  | none => "<TARGET_LIBRARY>".toList

end Key

end ExportSurface.CommandLine
