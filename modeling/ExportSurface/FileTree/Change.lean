import ExportSurface.FileTree.Reading

/-!
# Changing a file tree

The usual ways to change a file tree one entry at a time. Each of them gives the changed tree, or
the reason why nothing was changed.
-/

namespace ExportSurface

/-- A file or directory with another mode. -/
def Node.withMode (m : Mode) : Node → Node
  | .file _ content => .file m content
  | .directory _ => .directory m
  | .link target => .link target
  | .void => .void

namespace FileTree

/-! ## Directories -/

/-- The mode of a directory that is made in another one. -/
def newDirectoryMode (t : FileTree) (holder : Location) : Mode :=
  match t.lookup holder with
  | some (.directory m) => (Mode.newDirectory.without t.withheld).inheriting m
  | _ => Mode.newDirectory.without t.withheld

/-- Makes the directory that a path names. -/
def makeDirectory (t : FileTree) (p : Path) : Except SystemError FileTree := do
  match ← t.slot p with
  | (_, none) => throw .alreadyExists
  | (d, some name) =>
    if nameLimit < name.length then throw .nameTooLong
    else if (t.lookup (name :: d)).isSome then throw .alreadyExists
    else do
      t.changeable d
      return t.put (name :: d) (.directory (t.newDirectoryMode d))

/-- Makes the directory that a path names and those that hold it, given as paths from the inside
out. Directories made before a failure stay. -/
def makeAll (t : FileTree) : List Path → Except SystemError Unit × FileTree
  | [] => (.ok (), t)
  | p :: enclosing =>
    match t.makeDirectory p with
    | .ok t => (.ok (), t)
    | .error .notFound =>
      match makeAll t enclosing with
      | (.error e, t) => (.error e, t)
      | (.ok (), t) =>
        match t.makeDirectory p with
        | .ok t => (.ok (), t)
        | .error e => (if t.isDirectory p then .ok () else .error e, t)
    | .error e => (if t.isDirectory p then .ok () else .error e, t)

/-- Makes the directory that a path names, with the directories that hold it. -/
def makeDirectories (t : FileTree) (p : Path) : Except SystemError Unit × FileTree :=
  if p.bytes.isEmpty then (.ok (), t) else t.makeAll (p :: p.enclosing)

/-! ## Files and links -/

/-- Writes a file. A file that is there keeps its mode, but for what writing takes away; a missing one
is made at the end of all links. -/
def write (t : FileTree) (p : Path) (content : Bytes) : Except SystemError FileTree := do
  let l ← t.resolveFile p
  match t.lookup l with
  | none => do
    t.changeable l.tail
    return t.put l (.file (Mode.newFile.without t.withheld) content)
  | some (.file m _) =>
    if m.isWritable then return t.put l (.file m.afterWriting content)
    else throw .permissionDenied
  | some (.directory _) => throw .isADirectory
  | some .void => return t
  | some (.link _) => throw .tooManyLinks

/-- Removes the file or link that a path names. -/
def remove (t : FileTree) (p : Path) : Except SystemError FileTree := do
  match ← t.slot p with
  | (_, none) => throw .isADirectory
  | (d, some name) =>
    if nameLimit < name.length then throw .nameTooLong
    else match t.lookup (name :: d) with
      | none => throw .notFound
      | some n =>
        match n, p.endsInSlash with
        | .directory _, true => throw .isADirectory
        | _, true => throw .notADirectory
        | .directory _, false => do
          t.changeable d
          throw .isADirectory
        | _, false => do
          t.changeable d
          return t.erase (name :: d)

/-- Makes a symbolic link that points to `target`. -/
def makeLink (t : FileTree) (p target : Path) : Except SystemError FileTree := do
  if 0 ∈ target.bytes ∨ 0 ∈ p.bytes then throw .zeroInPath
  else if target.bytes.isEmpty then throw .notFound
  else if pathLimit ≤ target.bytes.length then throw .nameTooLong
  else match ← t.slot p with
    | (_, none) => throw .alreadyExists
    | (d, some name) =>
      if nameLimit < name.length then throw .nameTooLong
      else if (t.lookup (name :: d)).isSome then throw .alreadyExists
      else if p.endsInSlash then throw .notFound
      else do
        t.changeable d
        return t.put (name :: d) (.link target)

/-! ## Modes -/

/-- Gives what a path leads to another mode. Only what belongs to the one who asks may be changed
so. -/
def setMode (t : FileTree) (p : Path) (m : Mode) : Except SystemError FileTree := do
  let (l, n) ← t.find p
  if t.property.isSuffixOf l then return t.put l (n.withMode m)
  else throw .permissionDenied

end FileTree

end ExportSurface
