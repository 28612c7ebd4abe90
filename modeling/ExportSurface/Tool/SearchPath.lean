import ExportSurface.Process.Execution
import ExportSurface.Tool.Source

/-!
# Search paths

A program without a slash in its name is searched for in the directories of a search path, as the
system does it. A program that was found and may not be run is passed over like a missing one, but it
is the fault to report in the end.

* `SearchPath.launch` runs the program that was found and collects what it prints.
-/

namespace ExportSurface.SearchPath

/-! ## Searching -/

/-- The greatest length of an entry of a search path that is looked at. -/
def entryLimit (searchPath : Bytes) : Nat := min searchPath.length (FileTree.pathLimit - 1)

/-- The places that the entries of a search path stand for. An empty entry stands for the working
directory, and so does one that is too long, unless it is the last one: that one ends the search. -/
def places (limit : Nat) (tool : Path) : List Bytes → List Path
  | [] => []
  | d :: ds =>
    if d.isEmpty then tool :: places limit tool ds
    else if d.length ≤ limit then ⟨d ++ Path.slash :: tool.bytes⟩ :: places limit tool ds
    else if ds.isEmpty then []
    else tool :: places limit tool ds

/-- Where a program may be: a bare name is searched for along the search path. -/
def candidates (searchPath : Bytes) (tool : Path) : List Path :=
  if Path.slash ∈ tool.bytes then [tool]
  else places (entryLimit searchPath) tool (pieces ':'.toUInt8 searchPath)

/-- Starts the first of the candidates that can be started. A candidate that is missing or may not be
run is passed over, but of these two faults the second is the one to report. -/
def firstStart {α : Type} (start : Path → Except SystemError α) :
    SystemError → List Path → Except SystemError α
  | fault, [] => .error fault
  | fault, p :: ps =>
    match start p with
    | .ok a => .ok a
    | .error e =>
      if e = .notFound ∨ e = .notADirectory ∨ e = .permissionDenied then
        firstStart start (if fault = .permissionDenied then fault else e) ps
      else .error e

/-! ## Launching -/

/-- The open files of a program that is launched: nothing to read, and a buffer for each of its
outputs. -/
def startingWorld (t : FileTree) : World × Descriptors :=
  let w : World := { files := t, opened := [], buffers := [] }
  let (input, w) := w.add { channel := .void, isReadable := true }
  let ((_, _, output), w) := w.addBuffer []
  let ((_, _, complaint), w) := w.addBuffer []
  (w, [(Process.standardInput, input), (Process.standardOutput, output),
    (Process.standardError, complaint)])

/-- Runs programs that are searched for along the search path of an environment. -/
def launch (environment : List (Text × Text)) : Launcher := fun t tool arguments =>
  let searchPath := ((environment.lookup "PATH".toList).getD []).bytes
  let (w, descriptors) := startingWorld t
  let start (p : Path) : Except SystemError (ExitStatus × World) :=
    Process.execute p ⟨(tool.bytes :: arguments).map Bytes.characters, descriptors, environment⟩ w
  match firstStart start .noProgram (candidates searchPath tool) with
  | .error e => (.error e, t)
  | .ok (status, w) => (.ok ⟨status, w.buffers.getD 0 [], w.buffers.getD 1 []⟩, w.files)

end ExportSurface.SearchPath
