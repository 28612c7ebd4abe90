import ExportSurface.Text.Basic

/-!
# Why a request to the system failed

Each cause that a request for a file or a program can fail with, and the one text that describes it:
what happened in words, and the number of the cause where the system has one.
-/

namespace ExportSurface

/-- Why a request to the system failed. -/
inductive SystemError where
  /-- Nothing is there. -/
  | notFound
  /-- A mode forbids it. -/
  | permissionDenied
  /-- Something is there already. -/
  | alreadyExists
  /-- The path ends in `.`, `..` or the root, which cannot be replaced. -/
  | busy
  /-- A step of the path goes through something that is not a directory. -/
  | notADirectory
  /-- A directory is there. -/
  | isADirectory
  /-- The name of an entry, or the path, is too long. -/
  | nameTooLong
  /-- Too many symbolic links were followed. -/
  | tooManyLinks
  /-- A program is in no format that the system can run. -/
  | notAProgram
  /-- An argument is longer than programs can be given. -/
  | argumentTooLong
  /-- There is no program to wait for. -/
  | noProgram
  /-- No process has this number. -/
  | noProcess
  /-- A descriptor leads to no open file, or to one that is open for something else. -/
  | badDescriptor
  /-- Something is in the directory. -/
  | notEmpty
  /-- The request makes no sense for what is there. -/
  | invalidRequest
  /-- Only the owner may do this. -/
  | notPermitted
  /-- The path has a zero byte in it. -/
  | zeroInPath
  /-- The name of a program or one of its arguments has a zero byte in it. -/
  | zeroInCommand
  /-- The contents are not the encoding of a text. -/
  | notText
  /-- A listing could not be had, for a reason that its source words itself. -/
  | unavailable (reason : Text)
  deriving DecidableEq, Repr

namespace SystemError

/-- What happened, in words. -/
def description : SystemError → Text
  | notFound => "No such file or directory".toList
  | permissionDenied => "Permission denied".toList
  | alreadyExists => "File exists".toList
  | busy => "Device or resource busy".toList
  | notADirectory => "Not a directory".toList
  | isADirectory => "Is a directory".toList
  | nameTooLong => "File name too long".toList
  | tooManyLinks => "Too many levels of symbolic links".toList
  | notAProgram => "Exec format error".toList
  | argumentTooLong => "Argument list too long".toList
  | noProgram => "No child processes".toList
  | noProcess => "No such process".toList
  | badDescriptor => "Bad file descriptor".toList
  | notEmpty => "Directory not empty".toList
  | invalidRequest => "Invalid argument".toList
  | notPermitted => "Operation not permitted".toList
  | zeroInPath => "file name contained an unexpected NUL byte".toList
  | zeroInCommand => "nul byte found in provided data".toList
  | notText => "stream did not contain valid UTF-8".toList
  | unavailable reason => reason

/-- The number that the system has for a cause, if the system was asked at all. -/
def number? : SystemError → Option Nat
  | notPermitted => some 1
  | notFound => some 2
  | argumentTooLong => some 7
  | notAProgram => some 8
  | noProcess => some 3
  | badDescriptor => some 9
  | noProgram => some 10
  | permissionDenied => some 13
  | busy => some 16
  | alreadyExists => some 17
  | notADirectory => some 20
  | isADirectory => some 21
  | invalidRequest => some 22
  | nameTooLong => some 36
  | notEmpty => some 39
  | tooManyLinks => some 40
  | zeroInPath | zeroInCommand | notText | unavailable _ => none

/-- The text that describes a cause. -/
def message (e : SystemError) : Text :=
  e.description ++
    match e.number? with
    | some n => " (os error ".toList ++ Nat.toDigits 10 n ++ ")".toList
    | none => []

end SystemError

end ExportSurface
