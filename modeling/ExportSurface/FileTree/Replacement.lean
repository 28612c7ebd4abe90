import ExportSurface.FileTree.Change

/-!
# Replacing a file in one step

New contents go to a scratch file beside the entry that they replace, and the scratch file then takes
its place, so nobody ever reads half of them. The entry itself is replaced: where a link stood, the
file that it pointed to stays as it was. The new file takes over the mode that the path led to before.
If anything fails, the scratch file is removed.

What can fail is not only what the entries of the tree forbid: `Refusals` are the reasons that a system
has besides.
-/

namespace ExportSurface

namespace FileTree

/-- The names that scratch files get, in the order in which they are tried. The number has at least
six digits. -/
def scratchName (k : Nat) : Name :=
  Utf8.encode (".abi-snapshot".toList ++ (Nat.toDigits 10 k).leftpad 6 '0')

/-- The path of a scratch file in a directory. It starts at the root, so that it holds wherever it is
used from. -/
def scratchPath (t : FileTree) (directory : Path) : Path :=
  let start : Path :=
    if directory.isAbsolute then directory
    else Path.child ⟨Path.slash :: join Path.slash t.workingDirectory.reverse⟩ directory.bytes
  start.child (scratchName 0)

/-- A name for a scratch file that nothing in a directory has. There are more candidates than entries,
so one of them is free. -/
def freshName? (t : FileTree) (d : Location) : Option Name :=
  ((List.range (t.entries.length + 1)).map scratchName).find? fun n => t.lookup (n :: d) = none

/-- Why the system refuses steps of a replacement that the entries allow, if it does: the disk is full
or fails, or keeps no modes. -/
structure Refusals where
  /-- The scratch file is not made. -/
  making : Option SystemError := none
  /-- The contents are not written to it. -/
  writing : Option SystemError := none
  /-- It does not get another mode. -/
  changingMode : Option SystemError := none
  /-- It does not take the place of what is there. -/
  moving : Option SystemError := none
  deriving DecidableEq, Repr

/-- Makes an empty scratch file in a directory. Gives its location and the tree that has it. -/
def makeScratch (t : FileTree) (directory : Path) (refusal : Option SystemError) :
    Except SystemError (Location × FileTree) := do
  let _ ← t.start (t.scratchPath directory)
  let d ← t.resolve directory
  t.changeable d
  match refusal, t.freshName? d with
  | some e, _ => throw e
  | none, none => throw .alreadyExists
  | none, some n => return (n :: d, t.put (n :: d) (.file (Mode.newFile.without t.withheld) []))

/-- The location that a file takes when it is moved to a path. -/
def destination (t : FileTree) (p : Path) : Except SystemError Location := do
  match ← t.slot p with
  | (_, none) => throw .busy
  | (d, some name) =>
    if nameLimit < name.length then throw .nameTooLong
    else if p.endsInSlash then throw .notADirectory
    else match t.lookup (name :: d) with
      | some (.directory _) => throw .isADirectory
      | _ => return name :: d

/-- Gives the file at a location other contents. -/
def setContentAt (t : FileTree) (l : Location) (content : Bytes) : FileTree :=
  match t.lookup l with
  | some (.file m _) => t.put l (.file m content)
  | _ => t

/-- Gives what stands at a location another mode, if there is one to give. -/
def setModeAt (t : FileTree) (l : Location) : Option Mode → FileTree
  | none => t
  | some m =>
    match t.lookup l with
    | some n => t.put l (n.withMode m)
    | none => t

/-- Moves the entry at a location to another one, in the place of what stood there. -/
def move (t : FileTree) (source target : Location) : FileTree :=
  match t.lookup source with
  | some n => (t.erase source).put target n
  | none => t

/-- Writes a scratch file, gives it the mode that it takes over, if there is one, and moves it to its
place. A step that fails leaves the tree as the steps before it made it. -/
def settleScratch (t : FileTree) (scratch : Location) (content : Bytes) (mode : Option Mode)
    (place : Except SystemError Location) (refusals : Refusals) : Except SystemError Unit × FileTree :=
  match refusals.writing with
  | some e => (.error e, t)
  | none =>
    let t := t.setContentAt scratch content
    match mode, refusals.changingMode with
    | some _, some e => (.error e, t)
    | mode, _ =>
      let t := t.setModeAt scratch mode
      match refusals.moving, place with
      | some e, _ => (.error e, t)
      | none, .error e => (.error e, t)
      | none, .ok l => (.ok (), t.move scratch l)

/-- Replaces the entry that a path names by a file. -/
def replace (t : FileTree) (p : Path) (content : Bytes) (refusals : Refusals := {}) :
    Except SystemError Unit × FileTree :=
  match t.makeScratch p.directory refusals.making with
  | .error e => (.error e, t)
  | .ok (scratch, t₁) =>
    match t₁.settleScratch scratch content (t.mode? p) (t.destination p) refusals with
    | (.ok (), t₂) => (.ok (), t₂)
    | (.error e, t₂) => (.error e, t₂.erase scratch)

end FileTree

end ExportSurface
