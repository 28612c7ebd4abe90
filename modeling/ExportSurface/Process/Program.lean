import ExportSurface.FileTree.Walk
import ExportSurface.Process.World
import ExportSurface.Tool.ExitStatus

/-!
# Programs

A program is a file that may be run. A compiled program starts with a mark; what follows the mark is the
name of what the program does, so that a copy of a program does the same under any name. A script starts
with `#!` and the name of the interpreter that reads the rest. An interpreter may be a script itself,
and so on for a few steps; the one at the end of all is a compiled program.

* `InterpreterLine.of?` reads the first line of a script.
* `FileTree.load` finds the compiled program that runs in the end, and its words.
-/

namespace ExportSurface

/-! ## Processes -/

/-- What a program is started with. -/
structure Process where
  /-- The words of the command, of which the first one names the program. -/
  words : List Text
  descriptors : Descriptors
  environment : List (Text × Text)

/-- Runs the program at the end of a path to its end, if it can be started. -/
abbrev Executor := Path → Process → World → Except SystemError (ExitStatus × World)

namespace Process

/-- The word that names the program. -/
def name (p : Process) : Text := p.words.headD []

/-- The words after the first one. -/
def arguments (p : Process) : List Text := p.words.tail

/-- The standard input. -/
def standardInput : Nat := 0

/-- The standard output. -/
def standardOutput : Nat := 1

/-- The standard error stream. -/
def standardError : Nat := 2

end Process

/-- The path that a text of bytes writes. -/
def Path.ofBytes (t : Text) : Path := ⟨t.bytes⟩

/-! ## Compiled programs -/

namespace Binary

/-- The bytes that compiled programs start with. -/
def mark : Bytes := 0x7F :: Utf8.encode "ELF".toList

/-- The contents of the program that does what a name says. -/
def content (name : Text) : Bytes := mark ++ name.bytes

/-- What the program in a file does, if it is a compiled one. -/
def name? (content : Bytes) : Option Text := (dropPrefix? mark content).map Bytes.characters

end Binary

/-! ## Scripts -/

/-- What the first line of a script says: the interpreter, and one more argument for it. -/
structure InterpreterLine where
  program : Path
  argument? : Option Bytes
  deriving DecidableEq, Repr

namespace InterpreterLine

/-- The number of bytes at the start of a program that the system looks at. -/
def headLength : Nat := 256

/-- Blanks and tabs. -/
def isBlank (b : UInt8) : Bool := b = ' '.toUInt8 || b = '\t'.toUInt8

/-- The first line of a script after `#!`, as far as the system looks at it. A line that goes on beyond
that is taken only if it does not end in the middle of the interpreter's name. -/
def text? (content : Bytes) : Option Bytes := do
  let rest ← dropPrefix? (Utf8.encode "#!".toList) (content.take headLength)
  let line := rest.takeWhile fun b => b ≠ 0 && b ≠ '\n'.toUInt8
  match rest[line.length]? with
  | some b =>
    if b = 0 then return line
    else if line.all isBlank then none
    else return dropTrailing isBlank line
  | none =>
    if content.length < headLength then return line
    else if (line.dropWhile isBlank).any isBlank then return dropTrailing isBlank line.dropLast
    else none

/-- Reads the first line of a script. -/
def of? (content : Bytes) : Option InterpreterLine := do
  let line := (← text? content).dropWhile isBlank
  let name := line.takeWhile (!isBlank ·)
  let rest := line.drop name.length
  return ⟨⟨name⟩, if rest.isEmpty then none else some (rest.dropWhile isBlank)⟩

end InterpreterLine

/-! ## Loading -/

namespace FileTree

/-- What is in the program at the end of a path, if the program may be run. -/
def programContent (t : FileTree) (p : Path) : Except SystemError Bytes :=
  if p.bytes.isEmpty then .error .permissionDenied
  else do
    match ← t.find p with
    | (_, .file m content) => if m.isExecutable then return content else throw .permissionDenied
    | _ => throw .permissionDenied

/-- The number of scripts that may be on the way to a compiled program. -/
def scriptLimit : Nat := 6

/-- The compiled program that runs in the end if the program at a path is started with some words, and
the words that it gets. The number is that of the scripts that may still be on the way. -/
def load (t : FileTree) : Nat → Path → List Text → Except SystemError (Text × List Text)
  | 0, p, _ => do
    let _ ← t.programContent p
    throw .tooManyLinks
  | scripts + 1, p, words => do
    let content ← t.programContent p
    match Binary.name? content, InterpreterLine.of? content with
    | some name, _ => return (name, words)
    | none, none => throw .notAProgram
    | none, some i =>
      load t scripts i.program ((i.program.bytes :: i.argument?.toList ++ [p.bytes]).map
        Bytes.characters ++ words.tail)

end FileTree

end ExportSurface
