import ExportSurface.CommandLine.Reader
import ExportSurface.Comparison.Document
import ExportSurface.Comparison.Report
import ExportSurface.Inspection

/-!
# The program

A run of the program reads its command line, assembles the ignore list, inspects the library and says
what it found: by an exit code, on the standard output and on the standard error stream.

The exit code tells five endings apart: success, a failure, a command line that cannot be read, an
option that the task needs and does not have, and a library that differs from its reference.
-/

namespace ExportSurface

/-! ## Exit codes -/

/-- All went well, and a checked library agrees with its reference. -/
def successCode : Nat := 0

/-- The task has no result. -/
def failureCode : Nat := 1

/-- The command line cannot be read. -/
def usageCode : Nat := 2

/-- The option that the task needs was not given. -/
def configurationCode : Nat := 254

/-- A checked library differs from its reference. -/
def divergenceCode : Nat := 255

/-! ## What is said -/

/-- How a run ended. -/
structure Ending where
  code : Nat
  /-- What was printed on the standard output. -/
  output : Text
  /-- What was printed on the standard error stream. The lines of the log, which `--debug` asks for and
  which carry times, are left out. -/
  complaint : Text
  files : FileTree
  /-- The libraries whose listings the source was asked for, in order. -/
  asked : List Path

/-- What a failure prints: its message, and the cause behind it in lines of their own. -/
def Failure.complaint (e : Failure) : Text :=
  "Error: ".toList ++ e.message ++
    (match e.cause? with
    | none => []
    | some cause =>
      "\n\nCaused by:\n".toList ++
        join '\n' ((pieces '\n' cause.message).map fun line => "    ".toList ++ line)) ++
    ['\n']

/-- What a check prints. The report for people says nothing of a library that agrees with its
reference. -/
def Verdict.render (v : Verdict) : ReportFormat → Text
  | .json => (ComparisonDocument.ofComparison v.comparison).render ++ ['\n']
  | .text =>
    match v with
    | .compatible => []
    | .diverged c => c.report

/-- The exit code of a check. -/
def Verdict.code (v : Verdict) : Nat := if v.isCompatible then successCode else divergenceCode

namespace Program

/-- The name and the version of the program. -/
def versionLine : Text := "abi-check 0.3.0\n".toList

/-- How to call the program. -/
def usage : Text :=
  "Usage: abi-check [OPTIONS] --mode <MODE> <TARGET_LIBRARY>\n".toList

/-- What the keys of the command line mean. -/
def help : Text :=
  "ABI checker: compare exported library symbols against a snapshot\n\n".toList ++ usage ++
  "\nOptions:\n".toList ++
  "      --mode <MODE>            check_symbols or dump_symbols\n".toList ++
  "      --reference <PATH>       Reference ABI dump (required for check_symbols)\n".toList ++
  "      --output <PATH>          Output for dump mode (required for dump_symbols)\n".toList ++
  "      --llvm-bin-path <DIR>    Directory containing llvm-readobj (empty: search PATH)\n".toList ++
  "      --ignore-file <PATH>     Additional TOML file of symbols to ignore (repeatable)\n".toList ++
  "      --no-default-ignores     Do not apply the built-in toolchain ignore-list\n".toList ++
  "      --format <FORMAT>        text or json\n".toList ++
  "      --debug                  Enable debug logging to stderr\n".toList ++
  "  -h, --help                   Print help\n".toList ++
  "  -V, --version                Print version\n".toList

/-- What is wrong with a command line. -/
def fault : CommandLine.Halt → Text
  | .help | .version => []
  | .unknownArgument argument =>
    "unexpected argument '".toList ++ Utf8.decodeLossy argument ++ "' found".toList
  | .invalidValue k => "invalid value for '".toList ++ k.display ++ "'".toList
  | .valueNotText k => "invalid UTF-8 in the value for '".toList ++ k.display ++ "'".toList
  | .repeated k =>
    "the argument '".toList ++ k.display ++ "' cannot be used multiple times".toList
  | .unneededValue k => "unexpected value for '".toList ++ k.display ++ "'".toList
  | .missing ks =>
    "the following required arguments were not provided:".toList ++
      ks.flatMap fun k => ' ' :: k.display

/-- The ending of a run whose command line gives no options. -/
def halted (t : FileTree) : CommandLine.Halt → Ending
  | .help => ⟨successCode, help, [], t, []⟩
  | .version => ⟨successCode, versionLine, [], t, []⟩
  | h => ⟨usageCode, [], "error: ".toList ++ fault h ++ "\n\n".toList ++ usage, t, []⟩

/-- The ending of a run whose task has no result. -/
def failed (e : Failure) (t : FileTree) (asked : List Path) : Ending :=
  ⟨failureCode, [], e.complaint, t, asked⟩

/-- Inspects the library that the options name. -/
def inspect (i : Inspector) (o : Options) (t : FileTree) (refusals : FileTree.Refusals := {}) :
    Ending :=
  match o.task with
  | .dump =>
    match i.dump t o.target o.output refusals with
    | ⟨.ok _, t, asked⟩ => ⟨successCode, [], [], t, asked⟩
    | ⟨.error e, t, asked⟩ => failed e t asked
  | .check =>
    match i.check t o.reference o.target with
    | ⟨.ok v, t, asked⟩ => ⟨v.code, v.render o.format, [], t, asked⟩
    | ⟨.error e, t, asked⟩ => failed e t asked

/-- Does what the options ask for. An option that the task needs and does not have is reported before
anything is read or run. -/
def perform (launch : Launcher) (t : FileTree) (o : Options) (refusals : FileTree.Refusals := {}) :
    Ending :=
  match o.validate with
  | .error e => ⟨configurationCode, e.message ++ ['\n'], [], t, []⟩
  | .ok () =>
    match o.ignoreList t with
    | .error e => failed e t []
    | .ok ignored =>
      inspect
        { source := .ofTool launch (toolPath o.toolDirectory) .host, filter := ⟨.host, ignored⟩ } o t
        refusals

/-- Runs the program with the given arguments. The environment may name the directory of the listing
tool. -/
def run (launch : Launcher) (t : FileTree) (arguments : List Bytes) (environment : Option Bytes)
    (refusals : FileTree.Refusals := {}) : Ending :=
  match CommandLine.read arguments environment with
  | .ok o => perform launch t o refusals
  | .error h => halted t h

end Program

end ExportSurface
