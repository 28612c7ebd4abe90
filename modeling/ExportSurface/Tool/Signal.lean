import ExportSurface.Text.Utf8

/-!
# Signals

A signal is a number from 1 to 64. The lower ones have names, and a command that sends signals takes
names or numbers. Most signals end a program that makes no provision for them; a few do not.

* `Signal.name?` is the name by which a status names a signal.
* `Signal.ofWord?` reads the word by which a command names one.
-/

namespace ExportSurface.Signal

/-! ## Names -/

/-- The names of the signals, from number 1 on. -/
def names : List Text :=
  ["HUP", "INT", "QUIT", "ILL", "TRAP", "ABRT", "BUS", "FPE", "KILL", "USR1", "SEGV", "USR2", "PIPE",
    "ALRM", "TERM", "STKFLT", "CHLD", "CONT", "STOP", "TSTP", "TTIN", "TTOU", "URG", "XCPU", "XFSZ",
    "VTALRM", "PROF", "WINCH", "IO", "PWR", "SYS"].map String.toList

/-- The name of a signal, if it has one. -/
def name? : Nat → Option Text
  | 0 => none
  | n + 1 => names[n]?

/-- The greatest number of a signal. -/
def greatest : Nat := 64

/-- The word that stands for a signal in a command. The numbers from 34 on are counted from both ends;
a number without a word stands for itself. -/
def word (n : Nat) : Text :=
  if n = 34 then "RTMIN".toList
  else if n = greatest then "RTMAX".toList
  else if 34 < n ∧ n < 50 then "RTMIN+".toList ++ Nat.toDigits 10 (n - 34)
  else if 50 ≤ n ∧ n < greatest then "RTMAX-".toList ++ Nat.toDigits 10 (greatest - n)
  else if n = 16 then Nat.toDigits 10 n
  else (name? n).getD (Nat.toDigits 10 n)

/-! ## Reading -/

/-- The value of a list of digits, if it is one. -/
def digits? (w : Bytes) : Option Nat :=
  if w ≠ [] ∧ w.all fun b => '0'.toUInt8 ≤ b && b ≤ '9'.toUInt8 then
    some (w.foldl (fun n b => n * 10 + (b.toNat - 48)) 0)
  else none

/-- A number as a word of 32 bits holds it. What does not fit into a signed word of 64 bits counts as
all ones. -/
def wrap (n : Nat) : Nat := if n < 0x8000000000000000 then n % 0x100000000 else 0xFFFFFFFF

/-- A byte with the case of letters taken away. -/
def lower (b : UInt8) : UInt8 := if 'A'.toUInt8 ≤ b ∧ b ≤ 'Z'.toUInt8 then b + 32 else b

/-- The signal that a word names: by its number, or by its name in any case. Number 0 is a signal
that does nothing. -/
def ofWord? (w : Bytes) : Option Nat :=
  match (digits? w).map wrap with
  | some n => if n ≤ greatest then some n else none
  | none =>
    (List.range' 1 greatest).find? fun n => (Utf8.encode (word n)).map lower = w.map lower

/-! ## What a signal does -/

/-- The signals that a program outlives: those that do nothing by themselves, those that would stop it
if there were a terminal to start it again, and the two that are ignored in every program that is
started. -/
def harmless : List Nat := [0, 17, 18, 20, 21, 22, 23, 28, 32, 33]

/-- Whether a signal ends a program. -/
def isFatal (n : Nat) : Bool := n ∉ harmless

/-- What the signals mean, from number 1 on. -/
def meanings : List Text :=
  ["Hangup", "Interrupt", "Quit", "Illegal instruction", "Trace/breakpoint trap", "Aborted",
    "Bus error", "Floating point exception", "Killed", "User defined signal 1", "Segmentation fault",
    "User defined signal 2", "Broken pipe", "Alarm clock", "Terminated", "Stack fault",
    "Child exited", "Continued", "Stopped (signal)", "Stopped", "Stopped (tty input)",
    "Stopped (tty output)", "Urgent I/O condition", "CPU time limit exceeded",
    "File size limit exceeded", "Virtual timer expired", "Profiling timer expired", "Window changed",
    "I/O possible", "Power failure", "Bad system call"].map String.toList

/-- What a signal means, in words. -/
def meaning (n : Nat) : Text :=
  match meanings[n - 1]? with
  | some t => t
  | none => "Real-time signal ".toList ++ Nat.toDigits 10 (n - 34)

end ExportSurface.Signal
