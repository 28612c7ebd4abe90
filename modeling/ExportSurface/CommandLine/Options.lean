import ExportSurface.IgnoreList.Load
import ExportSurface.IgnoreList.Toolchain
import ExportSurface.Task

/-!
# Options

What a command line asks for, once it has been read: the task and the library, the snapshot to read
or to write, where the listing tool lies, what to ignore and how to report.
-/

namespace ExportSurface

/-- How a check reports. -/
inductive ReportFormat where
  /-- For people; nothing is said of a library that agrees with its reference. -/
  | text
  /-- One JSON document, whatever the verdict. -/
  | json
  deriving DecidableEq, Repr, Inhabited

/-- The word that asks for the format. -/
def ReportFormat.name : ReportFormat → Text
  | text => "text".toList
  | json => "json".toList

/-- What a command line asks for. -/
structure Options where
  task : Task
  reference : Option Path
  output : Option Path
  /-- The directory of the listing tool; empty if the system is to search for it. -/
  toolDirectory : Text
  ignoreFiles : List Path
  /-- The toolchain artifacts are not ignored. -/
  skipsToolchain : Bool
  format : ReportFormat
  /-- A log is written to the standard error stream. -/
  debug : Bool
  target : Path
  deriving DecidableEq, Repr

namespace Options

/-- Whether the option that the task needs is there. -/
def validate (o : Options) : Except Failure Unit :=
  match o.task, o.reference, o.output with
  | .check, none, _ => .error (.optionMissing .check)
  | .dump, _, none => .error (.optionMissing .dump)
  | _, _, _ => .ok ()

/-- The ignore list that the options ask for: the toolchain artifacts first, unless they are skipped,
and then the entries of the ignore files in order. -/
def ignoreList (o : Options) (t : FileTree) : Except Failure IgnoreList :=
  IgnoreList.loadAll t (if o.skipsToolchain then ∅ else .toolchain) o.ignoreFiles

end Options

end ExportSurface
