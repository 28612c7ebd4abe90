import ExportSurface.Text.Basic

/-!
# Tasks

A run does one of two things with a library: it compares the exported names with a reference
snapshot, or it writes them to a snapshot of their own.
-/

namespace ExportSurface

/-- What a run does with a library. -/
inductive Task where
  | check
  | dump
  deriving DecidableEq, Repr, Inhabited

namespace Task

/-- The word that asks for the task. -/
def name : Task → Text
  | check => "check_symbols".toList
  | dump => "dump_symbols".toList

/-- The option that the task cannot do without: it names the snapshot to read or to write. -/
def requiredOption : Task → Text
  | check => "--reference".toList
  | dump => "--output".toList

end Task

end ExportSurface
