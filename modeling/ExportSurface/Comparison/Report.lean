import ExportSurface.Comparison.Basic

/-!
# The report of a comparison

The report for people lists the missing names first and then the new ones, each group under its
heading, with an empty line between the groups. Sets that agree have an empty report.
-/

namespace ExportSurface.Comparison

/-- What stands above the missing names. -/
def missingHeading : Text :=
  "There are missing symbols in the new library. It is a breaking change. ".toList ++
    "Do not forget to update the ABI version according to the ABI policy.\n".toList ++
    "The following symbols are missing from the new object file:\n\n".toList

/-- What stands above the new names. -/
def addedHeading : Text :=
  "There are new symbols in the new library. It is a non-breaking change. ".toList ++
    "Regenerate the snapshot with --mode dump_symbols.\n".toList ++
    "The following symbols are new to the object file:\n\n".toList

/-- A heading and the names under it, or nothing if there are none. -/
def group (heading : Text) (names : SymbolSet) : Text :=
  if names.isEmpty then [] else heading ++ names.render

/-- The report of a comparison. -/
def report (c : Comparison) : Text :=
  let missing := group missingHeading c.missing
  let added := group addedHeading c.added
  missing ++ (if missing.isEmpty || added.isEmpty then [] else ['\n']) ++ added

end ExportSurface.Comparison
