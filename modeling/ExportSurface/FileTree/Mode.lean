/-!
# Modes

The mode of a file or directory is twelve bits: three special ones, and then reading, writing and
executing for the owner, the group and everybody else. Whoever uses this library owns what it
touches, and is not the superuser, whom no bit holds back; so the bits of the owner decide what is
allowed.
-/

namespace ExportSurface

/-- What may be done with a file or directory. -/
structure Mode where
  bits : BitVec 12
  deriving DecidableEq, Repr, Inhabited

namespace Mode

/-- The owner may read. -/
def isReadable (m : Mode) : Bool := m.bits.getLsbD 8

/-- The owner may write; in a directory, add and remove entries. -/
def isWritable (m : Mode) : Bool := m.bits.getLsbD 7

/-- The owner may execute; in a directory, walk through it. -/
def isExecutable (m : Mode) : Bool := m.bits.getLsbD 6

/-- The mode without the bits of another one. -/
def without (m withheld : Mode) : Mode := ⟨m.bits &&& ~~~withheld.bits⟩

/-- The mode that a new entry asks for, as a new directory gets it in a directory that has the mode
`holder`. The bit that keeps the group of the directory is handed down. -/
def inheriting (m holder : Mode) : Mode := ⟨m.bits ||| holder.bits &&& 0o2000⟩

/-- The mode of a file whose contents were changed. Whoever runs a changed file shall not act in the
name of its owner, nor of its group if the group may run it. -/
def afterWriting (m : Mode) : Mode :=
  ⟨m.bits &&& if m.bits.getLsbD 3 then 0o1777 else 0o3777⟩

/-- What a new file asks for: reading and writing for all. -/
def newFile : Mode := ⟨0o666⟩

/-- What a new directory asks for: everything for all. -/
def newDirectory : Mode := ⟨0o777⟩

/-- The mode of programs: all for the owner, reading and executing for the others. -/
def program : Mode := ⟨0o755⟩

end Mode

end ExportSurface
