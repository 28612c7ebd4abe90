import ExportSurface.Failure
import ExportSurface.FileTree.Replacement
import ExportSurface.Snapshot.Codec

/-!
# Snapshots in files

A snapshot is read as a text, and written by replacing the entry that the path names in one step.
-/

namespace ExportSurface.Snapshot

/-- The names that the snapshot at a path lists. -/
def read (t : FileTree) (p : Path) : Except Failure SymbolSet :=
  match t.readText p with
  | .ok text => .ok (decode text)
  | .error cause => .error (.referenceUnreadable p cause)

/-- Puts the text of a snapshot at a path. -/
def write (t : FileTree) (p : Path) (text : Text) (refusals : FileTree.Refusals := {}) :
    Except Failure Unit × FileTree :=
  match t.replace p (Utf8.encode text) refusals with
  | (.ok (), t) => (.ok (), t)
  | (.error cause, t) => (.error (.snapshotUnwritable p cause), t)

end ExportSurface.Snapshot
