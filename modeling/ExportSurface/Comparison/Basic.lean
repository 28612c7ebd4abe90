import ExportSurface.SymbolSet

/-!
# Comparisons

A reference set and a current set differ by the names that are missing from the current one, which
breaks its users, and by the names that are new in it, which does not.
-/

namespace ExportSurface

/-- How a current set of names differs from a reference set. -/
structure Comparison where
  /-- The names of the reference that are gone. -/
  missing : SymbolSet
  /-- The names that the reference does not have. -/
  added : SymbolSet
  deriving DecidableEq, Inhabited

namespace Comparison

/-- Compares a reference set with a current one. -/
def between (reference current : SymbolSet) : Comparison :=
  ⟨reference \ current, current \ reference⟩

/-- No name is missing and none is new. -/
def isCompatible (c : Comparison) : Bool := c.missing.isEmpty && c.added.isEmpty

/-- Some name is missing. -/
def isBreaking (c : Comparison) : Bool := !c.missing.isEmpty

end Comparison

end ExportSurface
