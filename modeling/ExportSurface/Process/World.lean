import ExportSurface.FileTree.Change
import ExportSurface.Text.Narrow

/-!
# Open files

Programs read and write through open files. Besides files there are buffers, which keep what is written
until it is read; they tie one program to the next one and collect what is printed. Several descriptors
may lead to one open file and then share the place where they read and write.

* `World.openFile` opens the file that a path names.
* `World.available` and `World.consume` read, and `World.write` writes, at the place where an open file
  stands.
-/

namespace ExportSurface

/-- What an open file leads to. -/
inductive Channel where
  | void
  | buffer (number : Nat)
  | file (l : Location)
  | directory
  deriving DecidableEq, Repr

/-- An open file. -/
structure OpenFile where
  channel : Channel
  /-- How many bytes of the file come before the place where it is read and written. -/
  offset : Nat := 0
  isReadable : Bool := false
  isWritable : Bool := false
  /-- Everything is written at the end. -/
  appends : Bool := false
  deriving DecidableEq, Repr

/-- The descriptors of a program, with the open files that they lead to. -/
abbrev Descriptors := List (Nat × Nat)

/-- What a file is opened for. -/
inductive FileUse where
  | reading
  | writing
  | appending
  deriving DecidableEq, Repr

/-- Everything that programs share. -/
structure World where
  files : FileTree
  opened : List OpenFile
  buffers : List Bytes
  deriving DecidableEq, Repr

namespace World

/-! ## Opening -/

/-- Adds an open file. -/
def add (w : World) (f : OpenFile) : Nat × World :=
  (w.opened.length, { w with opened := w.opened ++ [f] })

/-- Adds a buffer that holds something, with an open file that reads it and one that writes it. -/
def addBuffer (w : World) (content : Bytes) : (Nat × Nat × Nat) × World :=
  let k := w.buffers.length
  let (reader, w) := w.add { channel := .buffer k, isReadable := true }
  let (writer, w) := w.add { channel := .buffer k, isWritable := true }
  ((k, reader, writer), { w with buffers := w.buffers ++ [content] })

/-- Opens the file that a path names for reading. -/
def openReading (w : World) (p : Path) : Except SystemError (Nat × World) := do
  let (l, node) ← w.files.find p
  let access (m : Mode) (channel : Channel) : Except SystemError (Nat × World) :=
    if m.isReadable then .ok (w.add { channel, isReadable := true }) else .error .permissionDenied
  match node with
  | .file m _ => access m (.file l)
  | .directory m => access m .directory
  | .void => .ok (w.add { channel := .void, isReadable := true })
  | .link _ => .error .tooManyLinks

/-- Opens the file that a path names for writing. It is made if it is missing, and keeps what is in it
only if more is to be appended. -/
def openWriting (w : World) (p : Path) (appends : Bool) : Except SystemError (Nat × World) := do
  let l ← w.files.resolveFile p
  let kept := match w.files.lookup l with
    | some (.file _ content) => if appends then content else []
    | _ => []
  let files ← w.files.write p kept
  let channel := if files.lookup l = some .void then .void else .file l
  return { w with files }.add { channel, isWritable := true, appends }

/-- Opens the file that a path names. -/
def openFile (w : World) (p : Path) : FileUse → Except SystemError (Nat × World)
  | .reading => w.openReading p
  | .writing => w.openWriting p false
  | .appending => w.openWriting p true

/-! ## Reading and writing -/

/-- Everything that can be read through an open file, from where it stands. -/
def available (w : World) (k : Nat) : Except SystemError Bytes :=
  match w.opened[k]? with
  | none => .error .badDescriptor
  | some f =>
    if !f.isReadable then .error .badDescriptor
    else match f.channel with
      | .void => .ok []
      | .buffer b => .ok (w.buffers.getD b [])
      | .directory => .error .isADirectory
      | .file l =>
        match w.files.lookup l with
        | some (.file _ content) => .ok (content.drop f.offset)
        | _ => .ok []

/-- The world after a number of bytes were read through an open file. -/
def consume (w : World) (k n : Nat) : World :=
  match (w.opened[k]?).map OpenFile.channel with
  | some (.buffer b) => { w with buffers := w.buffers.modify b (·.drop n) }
  | _ => { w with opened := w.opened.modify k fun f => { f with offset := f.offset + n } }

/-- Contents with bytes written over them from a place on. -/
def overwrite (content : Bytes) (offset : Nat) (b : Bytes) : Bytes :=
  content.take offset ++ List.replicate (offset - content.length) 0 ++ b ++
    content.drop (offset + b.length)

/-- Writes bytes through an open file. -/
def write (w : World) (k : Nat) (b : Bytes) : Except SystemError World :=
  match w.opened[k]? with
  | none => .error .badDescriptor
  | some f =>
    if !f.isWritable then .error .badDescriptor
    else match f.channel with
      | .void | .directory => .ok w
      | .buffer n => .ok { w with buffers := w.buffers.modify n (· ++ b) }
      | .file l =>
        match w.files.lookup l with
        | some (.file m content) =>
          let start := if f.appends then content.length else f.offset
          .ok { w with
            files := w.files.put l (.file m.afterWriting (overwrite content start b))
            opened := w.opened.modify k fun f => { f with offset := start + b.length } }
        | _ => .ok w

/-- Writes bytes through a descriptor. -/
def writeTo (w : World) (descriptors : Descriptors) (d : Nat) (b : Bytes) :
    Except SystemError World :=
  match descriptors.lookup d with
  | some k => w.write k b
  | none => .error .badDescriptor

end World

end ExportSurface
