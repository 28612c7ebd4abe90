import ExportSurface.Process.Utility
import ExportSurface.Shell.Execution

/-!
# Running programs

A path leads to a program, the program may be a script, and the compiled program at the end of it all
does what its name says.

* `Process.execute` runs the program at the end of a path.
* `Host.furnish` puts the usual programs in their usual places.
-/

namespace ExportSurface

namespace Process

/-- The length from which on a word is refused. -/
def wordLimit : Nat := 131072

/-- The name of the shell among the compiled programs. -/
def shellName : Text := "dash".toList

/-- Runs what a compiled program does. -/
def perform (execute : Executor) (name : Text) (p : Process) (w : World) :
    Except SystemError (ExitStatus × World) :=
  if name = shellName then .ok (Shell.main execute p w)
  else match Utility.all.lookup name with
    | some run => .ok (run p w)
    | none => .error .notAProgram

/-- Runs the program at the end of a path. The number is that of the programs that may run in or in the
place of each other. -/
def executeIn : Nat → Executor
  | 0 => fun _ _ _ => .error .notAProgram
  | n + 1 => fun path p w => do
    let _ ← w.files.programContent path
    if p.words.any (wordLimit ≤ ·.length) then throw .argumentTooLong
    let (name, words) ← w.files.load FileTree.scriptLimit path p.words
    perform (executeIn n) name { p with words } w

/-- The number of programs that may run in or in the place of each other. -/
def executionDepth : Nat := 1000000

/-- Runs the program at the end of a path. -/
def execute : Executor := executeIn executionDepth

end Process

namespace Host

/-- The location that a path written in plain letters leads to. -/
def location (p : String) : Location := (Path.ofText p.toList).steps.reverse

/-- Puts the usual programs in their usual places. -/
def furnish (t : FileTree) : FileTree :=
  let directory (mode : Mode) (t : FileTree) (p : String) : FileTree :=
    t.put (location p) (.directory mode)
  let link (p target : String) (t : FileTree) : FileTree :=
    t.put (location p) (.link (.ofText target.toList))
  let program (t : FileTree) (name : Text) : FileTree :=
    t.put (Utf8.encode name :: location "/usr/bin") (.file ⟨0o555⟩ (Binary.content name))
  let t := ["/", "/usr", "/usr/bin", "/dev"].foldl (directory ⟨0o555⟩) t
  let t := directory ⟨0o1777⟩ t "/tmp"
  let t := (Process.shellName :: Utility.all.map (·.1)).foldl program t
  link "/bin" "usr/bin" (link "/usr/bin/sh" "dash" (t.put (location "/dev/null") .void))

end Host

end ExportSurface
