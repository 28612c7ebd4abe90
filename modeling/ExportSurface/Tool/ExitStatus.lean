import ExportSurface.Tool.Signal

/-!
# How a program ended

A program ends by itself with an exit code, or a signal ends it. Only exit code 0 is a success.
-/

namespace ExportSurface

/-- How a program ended. -/
inductive ExitStatus where
  | exited (code : Nat)
  | signaled (number : Nat)
  deriving DecidableEq, Repr

namespace ExitStatus

/-- Whether the program did what it was asked to do. -/
def isSuccess (s : ExitStatus) : Bool := s = exited 0

/-- The status as one number, as the shell shows it. -/
def number : ExitStatus → Nat
  | exited code => code
  | signaled n => 128 + n

/-- The text that describes the status. -/
def describe : ExitStatus → Text
  | exited code => "exit status: ".toList ++ Nat.toDigits 10 code
  | signaled number =>
    "signal: ".toList ++ Nat.toDigits 10 number ++
      match Signal.name? number with
      | some name => " (SIG".toList ++ name ++ ")".toList
      | none => []

end ExitStatus

end ExportSurface
