import ExportSurface.Snapshot.Header
import ExportSurface.SymbolSet
import ExportSurface.Text.Blank

/-!
# Snapshots as text

A snapshot is a header and then the names of a set, one to a line, in increasing order. Reading
takes every line that is neither blank nor a comment, so a header may change without spoiling old
snapshots.
-/

namespace ExportSurface.Snapshot

/-- The snapshot of a set of names. -/
def encode (symbols : SymbolSet) (header : SnapshotHeader) : Text :=
  header.render ++ symbols.render

/-- The name on a line, if it has one. -/
def nameOfLine? (line : Text) : Option Text :=
  match Text.trim line with
  | [] => none
  | c :: name => if c = commentMark then none else some (c :: name)

/-- The names that a snapshot lists. -/
def decode (t : Text) : SymbolSet := .ofList ((pieces '\n' t).filterMap nameOfLine?)

end ExportSurface.Snapshot
