import ExportSurface.Text.Utf8

/-!
# Paths

A path is a list of bytes that slashes divide into steps. The step `.` stays where it is and `..`
goes up; every other step names an entry of a directory. Empty steps do not count.
-/

namespace ExportSurface

/-- The name of an entry of a directory. -/
abbrev Name := Bytes

/-- A path, as it is written. -/
structure Path where
  bytes : Bytes
  deriving DecidableEq, Repr, Inhabited

namespace Path

/-- The byte that divides steps. -/
def slash : UInt8 := '/'.toUInt8

/-- The step that stays. -/
def here : Name := ['.'.toUInt8]

/-- The step that goes up. -/
def above : Name := ['.'.toUInt8, '.'.toUInt8]

/-- The path that a text writes. -/
def ofText (t : Text) : Path := ⟨Utf8.encode t⟩

/-- The text that shows a path. -/
def display (p : Path) : Text := Utf8.decodeLossy p.bytes

/-- The steps of the path, in order. -/
def steps (p : Path) : List Name := (pieces slash p.bytes).filter (!·.isEmpty)

/-- Whether the path starts at the root. -/
def isAbsolute (p : Path) : Bool := p.bytes.head? = some slash

/-- Whether the path ends in a slash, and so can only name a directory. -/
def endsInSlash (p : Path) : Bool := p.bytes.getLast? = some slash

/-- The steps that are not `.`. -/
def moves (p : Path) : List Name := p.steps.filter (· ≠ here)

/-- The name of the entry that the path names, unless it ends by going up or names nothing. -/
def fileName? (p : Path) : Option Name := p.moves.getLast?.filter (· ≠ above)

/-- A path without the slashes and the steps `.` at its end. Both are read backwards. -/
def dropIdleEnd : Bytes → Bytes
  | [] => []
  | b :: r =>
    if b = slash ∨ b = '.'.toUInt8 ∧ r.head? = some slash then dropIdleEnd r else b :: r

/-- The directory that holds the entry that the path names, written as the path writes it. -/
def directory (p : Path) : Path :=
  match dropIdleEnd ((dropIdleEnd p.bytes.reverse).dropWhile (· ≠ slash)) with
  | [] => if p.isAbsolute ∧ p.moves ≠ [] then ⟨[slash]⟩ else ⟨here⟩
  | held => ⟨held.reverse⟩

/-- The path of the first `k` steps that are not `.`. -/
def leading (p : Path) (k : Nat) : Path :=
  if p.isAbsolute then ⟨slash :: join slash (p.moves.take k)⟩ else ⟨join slash (p.moves.take k)⟩

/-- The paths of the directories on the way to the entry that the path names, from the inside out. -/
def enclosing (p : Path) : List Path :=
  (List.range' 1 (p.moves.length - 1)).reverse.map p.leading

/-- The path of an entry in the directory that `p` names. -/
def child (p : Path) (n : Name) : Path :=
  if p.bytes.isEmpty then ⟨n⟩
  else if p.endsInSlash then ⟨p.bytes ++ n⟩
  else ⟨p.bytes ++ slash :: n⟩

end Path

end ExportSurface
