import ExportSurface.FileTree.Walk

/-!
# Reading from a file tree

What can be learnt from a file tree without changing it: the bytes or the text of a file, the mode
that a path leads to, the names in a directory, and what kind of entry a path names.
-/

namespace ExportSurface

/-- The mode of a file or directory; links have none of their own. A void lets everybody read and write. -/
def Node.mode? : Node → Option Mode
  | .file m _ => some m
  | .directory m => some m
  | .void => some .newFile
  | .link _ => none

namespace FileTree

/-- The bytes of the file at the end of a path. -/
def readBytes (t : FileTree) (p : Path) : Except SystemError Bytes := do
  match ← t.find p with
  | (_, .file m content) => if m.isReadable then return content else throw .permissionDenied
  | (_, .directory m) => throw (if m.isReadable then .isADirectory else .permissionDenied)
  | (_, .void) => return []
  | (_, .link _) => throw .tooManyLinks

/-- The text of the file at the end of a path. -/
def readText (t : FileTree) (p : Path) : Except SystemError Text := do
  match Utf8.decode? (← t.readBytes p) with
  | some text => return text
  | none => throw .notText

/-- The mode of what a path leads to. -/
def mode? (t : FileTree) (p : Path) : Option Mode :=
  match t.find p with
  | .ok (_, n) => n.mode?
  | .error _ => none

/-- Whether a path leads to a directory. -/
def isDirectory (t : FileTree) (p : Path) : Bool :=
  match t.find p with
  | .ok (_, .directory _) => true
  | _ => false

/-- The names in the directory at the end of a path as they are shown, in increasing order. -/
def list (t : FileTree) (p : Path) : Except SystemError (List Text) := do
  match ← t.find p with
  | (l, .directory m) =>
    if m.isReadable then
      return ((t.namesIn l).map Utf8.decodeLossy).mergeSort fun a b => !decide (b < a)
    else throw .permissionDenied
  | _ => throw .notADirectory

/-- The entry that a path names, which may be a link. A path that can only name a directory, or that
ends in no name, is walked to its end. -/
def entry (t : FileTree) (p : Path) : Except SystemError Node := do
  match ← t.slot p with
  | (d, some name) =>
    if p.endsInSlash then return (← t.find p).2
    else if nameLimit < name.length then throw .nameTooLong
    else match t.lookup (name :: d) with
      | some n => return n
      | none => throw .notFound
  | (_, none) => return (← t.find p).2

end FileTree

end ExportSurface
