import ExportSurface.IgnoreList.Basic
import ExportSurface.Platform
import ExportSurface.Symbol
import ExportSurface.SymbolSet

/-!
# The export filter

A record of a symbol table counts if it is a function with exported binding in the code section;
an export table lists callable entry points only, so all its records count. The ignore list is
taken away last. A field that was not read keeps its record out: a missed export shows up in the
next check, while a spurious one would spoil the snapshot.
-/

namespace ExportSurface

/-- The section that holds executable code. -/
def codeSection : Text := ".text".toList

/-- Which records of a listing count as exported functions. -/
structure ExportFilter where
  platform : Platform
  ignored : IgnoreList

namespace ExportFilter

/-- Whether a record is an exported function, ignored or not. -/
def admits (f : ExportFilter) (r : SymbolRecord) : Bool :=
  match f.platform with
  | .coff => true
  | .elf => r.kind = .function && r.binding.isExported && r.sectionName = codeSection

/-- The names of the exported functions that are not ignored. -/
def apply (f : ExportFilter) (rs : List SymbolRecord) : SymbolSet :=
  .ofList ((rs.filter fun r => f.admits r && r.name ∉ f.ignored).map SymbolRecord.name)

end ExportFilter

end ExportSurface
