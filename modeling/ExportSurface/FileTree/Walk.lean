import ExportSurface.FileTree.Basic
import ExportSurface.SystemError

/-!
# Walking a path

A path is walked step by step from the root or from the working directory. Each step leaves from a
directory that the owner may walk through. A step that names a symbolic link goes on where the link
points; a walk follows at most `linkLimit` links. The last name of a path may stand for an entry
that does not exist yet.

* `FileTree.resolve` walks the whole path and gives the location where it ends.
* `FileTree.resolveFile` does the same for a file that is to be written. A path or link that ends in a
  slash names no file, whatever is there.
* `FileTree.slot` walks up to the last step and keeps that step, so that the entry itself can be
  removed or replaced even if it is a link.
-/

namespace ExportSurface

namespace FileTree

/-- The number of symbolic links that one walk may follow. -/
def linkLimit : Nat := 40

/-- The greatest length of the name of an entry. -/
def nameLimit : Nat := 255

/-- The length from which on paths are refused. -/
def pathLimit : Nat := 4096

/-- Requires a directory that the owner may walk through. -/
def checkPassage (t : FileTree) (l : Location) : Except SystemError Unit :=
  match t.lookup l with
  | none => .error .notFound
  | some (.directory m) => if m.isExecutable then .ok () else .error .permissionDenied
  | some _ => .error .notADirectory

/-- Requires a directory, if one is asked for. -/
def checkEnd (t : FileTree) (l : Location) (asDirectory : Bool) : Except SystemError Unit :=
  match asDirectory, t.lookup l with
  | false, _ => .ok ()
  | true, none => .error .notFound
  | true, some (.directory _) => .ok ()
  | true, some _ => .error .notADirectory

/-- Takes steps from a location. At a link, `follow` takes over; it gets the directory that holds
the link, where the link points and the steps that are left. A walk to a file refuses a last name
that can only name a directory. -/
def advance (t : FileTree) (toFile : Bool)
    (follow : Location → Path → List Name → Bool → Except SystemError Location) :
    Location → List Name → Bool → Except SystemError Location
  | l, [], asDirectory => do
    t.checkEnd l asDirectory
    return l
  | l, step :: rest, asDirectory => do
    t.checkPassage l
    if step = Path.here then advance t toFile follow l rest asDirectory
    else if step = Path.above then advance t toFile follow l.tail rest asDirectory
    else if toFile ∧ asDirectory ∧ rest = [] then throw .isADirectory
    else if nameLimit < step.length then throw .nameTooLong
    else match t.lookup (step :: l) with
      | some (.link target) => follow l target rest asDirectory
      | _ => advance t toFile follow (step :: l) rest asDirectory

/-- Where a path starts that is met in a directory. -/
def startFrom (l : Location) (p : Path) : Location := if p.isAbsolute then [] else l

/-- Takes steps from a location and follows up to the given number of links. -/
def walk (t : FileTree) (toFile : Bool) :
    Nat → Location → List Name → Bool → Except SystemError Location
  | 0 => t.advance toFile fun _ _ _ _ => throw .tooManyLinks
  | links + 1 => t.advance toFile fun l target rest asDirectory =>
    walk t toFile links (startFrom l target) (target.steps ++ rest)
      (asDirectory || rest.isEmpty && target.endsInSlash)

/-- Where a path starts, if it is one that the system takes. -/
def start (t : FileTree) (p : Path) : Except SystemError Location :=
  if 0 ∈ p.bytes then throw .zeroInPath
  else if p.bytes.isEmpty then throw .notFound
  else if pathLimit ≤ p.bytes.length then throw .nameTooLong
  else return startFrom t.workingDirectory p

/-- The location where a path ends when all links are followed. -/
def resolve (t : FileTree) (p : Path) : Except SystemError Location := do
  t.walk false linkLimit (← t.start p) p.steps p.endsInSlash

/-- The location of the file that a path names when all links are followed. It may be free. -/
def resolveFile (t : FileTree) (p : Path) : Except SystemError Location := do
  t.walk true linkLimit (← t.start p) p.steps p.endsInSlash

/-- The location where a path ends and what stands there. -/
def find (t : FileTree) (p : Path) : Except SystemError (Location × Node) := do
  let l ← t.resolve p
  match t.lookup l with
  | some n => return (l, n)
  | none => throw .notFound

/-- The directory that holds the entry that a path names, and the name of the entry if the path ends
in one. -/
def slot (t : FileTree) (p : Path) : Except SystemError (Location × Option Name) := do
  let l ← t.start p
  match p.steps.getLast? with
  | none => return (l, none)
  | some last =>
    let d ← t.walk false linkLimit l p.steps.dropLast false
    t.checkPassage d
    return (d, if last = Path.here ∨ last = Path.above then none else some last)

/-- A directory whose entries the owner may change. -/
def changeable (t : FileTree) (l : Location) : Except SystemError Unit := do
  t.checkPassage l
  match t.lookup l with
  | some (.directory m) => if m.isWritable then return () else throw .permissionDenied
  | _ => throw .notADirectory

end FileTree

end ExportSurface
