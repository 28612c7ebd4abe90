import ExportSurface.Path
import ExportSurface.SystemError
import ExportSurface.Task
import ExportSurface.Tool.ExitStatus

/-!
# Failures

Each reason why a check or a dump has no result, and the one text that describes it. That a library
differs from its reference is a result and not a failure.
-/

namespace ExportSurface

/-- Why a task has no result. -/
inductive Failure where
  /-- The listing tool could not be started. -/
  | toolNotStarted (tool : Path) (cause : SystemError)
  /-- The listing tool did not end in success. -/
  | toolFailed (tool : Path) (status : ExitStatus) (complaint : Text)
  /-- The listing is not the encoding of a text. -/
  | listingNotText (tool : Path)
  /-- The reference snapshot could not be read. -/
  | referenceUnreadable (path : Path) (cause : SystemError)
  /-- The option that the task needs was not given. -/
  | optionMissing (task : Task)
  /-- An ignore file could not be read. -/
  | ignoreFileUnreadable (path : Path) (cause : SystemError)
  /-- An ignore file holds something else than entries. -/
  | ignoreFileMalformed (path : Path)
  /-- The snapshot could not be written. -/
  | snapshotUnwritable (path : Path) (cause : SystemError)
  deriving DecidableEq, Repr

namespace Failure

/-- The text that describes a failure. -/
def message : Failure → Text
  | toolNotStarted tool cause =>
    "failed to run ".toList ++ tool.display ++ ": ".toList ++ cause.message
  | toolFailed tool status complaint =>
    tool.display ++ " exited with ".toList ++ status.describe ++ ": ".toList ++ complaint
  | listingNotText tool => tool.display ++ " produced output that is not valid UTF-8".toList
  | referenceUnreadable path cause =>
    "cannot read reference snapshot ".toList ++ path.display ++ ": ".toList ++ cause.message
  | optionMissing task =>
    "Please specify ".toList ++ task.requiredOption ++ " option. Quitting.".toList
  | ignoreFileUnreadable path cause =>
    "invalid ignore list ".toList ++ path.display ++ ": ".toList ++ cause.message
  | ignoreFileMalformed path =>
    "invalid ignore list ".toList ++ path.display ++ ": not a list of entries".toList
  | snapshotUnwritable path cause =>
    "failed to write snapshot ".toList ++ path.display ++ ": ".toList ++ cause.message

/-- The cause behind a failure, where it is worth a line of its own. -/
def cause? : Failure → Option SystemError
  | toolNotStarted _ cause => some cause
  | referenceUnreadable _ cause => some cause
  | snapshotUnwritable _ cause => some cause
  | _ => none

/-- Whether the task was asked for in a way that cannot work, so that nothing was attempted. -/
def isConfiguration : Failure → Bool
  | optionMissing _ => true
  | _ => false

end Failure

end ExportSurface
