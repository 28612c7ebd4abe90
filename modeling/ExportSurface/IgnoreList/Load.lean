import ExportSurface.Failure
import ExportSurface.FileTree.Reading
import ExportSurface.IgnoreList.File

/-!
# Loading ignore files

Ignore files are loaded one after the other behind a list that is there already. The first file that
cannot be loaded decides, and then there is no list at all.
-/

namespace ExportSurface.IgnoreList

/-- The ignore list in the file at a path. -/
def load (t : FileTree) (p : Path) : Except Failure IgnoreList :=
  match t.readText p with
  | .error cause => .error (.ignoreFileUnreadable p cause)
  | .ok text =>
    match parse? text with
    | some l => .ok l
    | none => .error (.ignoreFileMalformed p)

/-- A list with the entries of the files at some paths behind it. -/
def loadAll (t : FileTree) (l : IgnoreList) : List Path → Except Failure IgnoreList
  | [] => .ok l
  | p :: ps =>
    match load t p with
    | .ok m => loadAll t (l ++ m) ps
    | .error e => .error e

end ExportSurface.IgnoreList
