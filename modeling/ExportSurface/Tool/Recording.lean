import ExportSurface.FileTree.Change
import ExportSurface.Tool.Source

/-!
# Recorded tools

A recorded tool stands in for the listing tool where no toolchain is installed. It is a script that
writes its arguments down, prints what was recorded and ends as it was recorded. The recorded output
lies beside the script, in files of the same name with an ending.
-/

namespace ExportSurface

/-- The path of the file beside a script that has the given ending. -/
def Path.beside (script : Path) (ending : String) : Path :=
  ⟨script.bytes ++ Utf8.encode ending.toList⟩

/-- The ending of a recorded run. -/
inductive RecordedEnd where
  | exit (code : Int)
  | kill (signal : Text)
  deriving DecidableEq, Repr

/-- The command of the script that ends it. -/
def RecordedEnd.text : RecordedEnd → Text
  | exit code =>
    "exit ".toList ++ (if code < 0 then ['-'] else []) ++ Nat.toDigits 10 code.natAbs
  | kill signal => "kill -".toList ++ signal ++ " $$".toList

/-- A run of a tool, recorded. -/
structure Recording where
  output : Bytes
  complaint : Bytes
  ending : RecordedEnd
  deriving DecidableEq, Repr

namespace Recording

/-- The lines of a recorded tool that write its arguments down and print what was recorded. -/
def playback : List Text :=
  ["#!/bin/sh", "printf '%s\\n' \"$@\" > \"$0.args\"", "/bin/cat \"$0.out\"",
    "/bin/cat \"$0.err\" >&2"].map String.toList

/-- The script of a recorded tool. -/
def script (r : Recording) : Text := (playback ++ [r.ending.text]).flatMap (· ++ ['\n'])

/-- Goes on with a change if all went well so far. What was changed before a failure stays. -/
def proceed (change : FileTree → Except SystemError FileTree) :
    Except SystemError Unit × FileTree → Except SystemError Unit × FileTree
  | (.error e, t) => (.error e, t)
  | (.ok (), t) =>
    match change t with
    | .error e => (.error e, t)
    | .ok t => (.ok (), t)

/-- Puts a recorded tool into a directory, which is made if it is missing. -/
def install (t : FileTree) (directory : Path) (r : Recording) :
    Except SystemError Unit × FileTree :=
  let tool := directory.child (Utf8.encode toolName)
  [fun t : FileTree => t.write (tool.beside ".out") r.output,
    fun t => t.write (tool.beside ".err") r.complaint,
    fun t => t.write tool (Utf8.encode r.script),
    fun t => t.setMode tool .program].foldl (fun done change => proceed change done)
      (t.makeDirectories directory)

end Recording

end ExportSurface
