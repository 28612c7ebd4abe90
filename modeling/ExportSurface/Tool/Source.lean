import ExportSurface.Failure
import ExportSurface.FileTree.Basic
import ExportSurface.Platform
import ExportSurface.Text.Blank

/-!
# Listings from a tool

A source gives the raw listing of a library. The one that matters runs the listing tool, and takes
its output only if the tool ended in success and the output is a text; what a failed run printed is
never read.
-/

namespace ExportSurface

/-- What a program left behind: how it ended, what it printed and what it complained of. -/
structure ToolRun where
  status : ExitStatus
  output : Bytes
  complaint : Bytes
  deriving DecidableEq, Repr

/-- The listing that a run of the tool gives. -/
def ToolRun.listing (tool : Path) (r : ToolRun) : Except Failure Text :=
  if r.status.isSuccess then
    match Utf8.decode? r.output with
    | some listing => .ok listing
    | none => .error (.listingNotText tool)
  else .error (.toolFailed tool r.status (Text.trim (Utf8.decodeLossy r.complaint)))

/-! ## The tool -/

/-- The name of the listing tool. -/
def toolName : Text := "llvm-readobj".toList

/-- The tool in a directory. Without a directory the system searches for it. -/
def toolPath (directory : Text) : Path :=
  if directory.isEmpty then .ofText toolName
  else (Path.ofText directory).child (Utf8.encode toolName)

/-- A way to run programs: from the files, the program and its arguments to what the run left behind,
and the files after it. -/
abbrev Launcher := FileTree → Path → List Bytes → Except SystemError ToolRun × FileTree

/-! ## Sources -/

/-- Where the listing of a library comes from. Asking for it may change files. -/
abbrev Source := FileTree → Path → Except Failure Text × FileTree

namespace Source

/-- The source that gives one answer, whatever the library. -/
def fixed (answer : Except Failure Text) : Source := fun t _ => (answer, t)

/-- The source that runs the listing tool. -/
def ofTool (launch : Launcher) (tool : Path) (platform : Platform) : Source := fun t target =>
  if 0 ∈ tool.bytes ∨ 0 ∈ target.bytes then (.error (.toolNotStarted tool .zeroInCommand), t)
  else
    match launch t tool [Utf8.encode platform.listingOption, target.bytes] with
    | (.error cause, t) => (.error (.toolNotStarted tool cause), t)
    | (.ok r, t) => (r.listing tool, t)

end Source

end ExportSurface
