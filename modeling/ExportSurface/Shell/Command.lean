import ExportSurface.Process.World
import ExportSurface.Shell.Token

/-!
# Commands of scripts

The parser makes commands of the tokens of a script, one line with all that belongs to it at a time. It
refuses what is no command, in the words of the shell.

* `nextCommand?` reads the next command.
-/

namespace ExportSurface.Shell

/-! ## Commands -/

/-- Where a command reads or writes. -/
inductive Redirection where
  | file (descriptor : Nat) (use : FileUse) (name : Word)
  /-- The descriptor that a word names is used for this one. -/
  | copy (descriptor : Nat) (source : Word)
  /-- The text is read. -/
  | document (descriptor : Nat) (content : Word)
  deriving DecidableEq, Repr

/-- A command. The number is that of the line where it starts. -/
inductive Command where
  | nothing
  | simple (line : Nat) (words : List Word) (redirections : List Redirection)
  | redirected (line : Nat) (c : Command) (redirections : List Redirection)
  /-- Runs a command in a process of its own. -/
  | apart (c : Command)
  | pipe (first second : Command)
  | negation (c : Command)
  | sequence (first second : Command)
  | both (first second : Command)
  | either (first second : Command)
  | choice (test yes no : Command)
  /-- Runs the body while the test succeeds, or until it does. -/
  | loop (isUntil : Bool) (test body : Command)
  | cases (subject : Word) (branches : List (List Word × Command))
  | function (name : Text) (body : Command)

/-- The redirection that a sign and the word after it stand for. -/
def Redirection.ofSign (descriptor : Nat) (sign : Text) (w : Word) : Redirection :=
  if sign = "<".toList then .file descriptor .reading w
  else if sign = ">".toList then .file descriptor .writing w
  else if sign = ">>".toList then .file descriptor .appending w
  else if sign.take 2 = "<<".toList then .document descriptor w
  else .copy descriptor w

/-! ## Parsers -/

/-- Why a script was refused, and in which line. -/
structure Refusal where
  line : Nat
  complaint : Text
  deriving DecidableEq, Repr

/-- A parser takes tokens from the front of a list. -/
abbrev Parser (α : Type) := StateT (List Lexeme) (Except Refusal) α

/-- The words that mean something at the start of a command. -/
def keywords : List Text :=
  ["!", "case", "do", "done", "elif", "else", "esac", "fi", "if", "in", "then", "until", "while",
    "\x7b", "\x7d"].map String.toList

/-- The text of an operator or a keyword. -/
def Token.sign? : Token → Option Text
  | .operator t => some t
  | .word w => (plainText? w).filter (· ∈ keywords)
  | _ => none

/-- A sign as complaints show it. -/
def inQuotes (sign : Text) : Text := '"' :: sign ++ ['"']

/-- A token as complaints show it. -/
def Token.shown (t : Token) : Text :=
  match t.sign?, t with
  | some sign, _ => inQuotes sign
  | none, .word _ => "word".toList
  | none, .redirection _ _ => "redirection".toList
  | none, .endOfScript => "end of file".toList
  | none, _ => "newline".toList

namespace Parser

variable {α : Type}

/-- The next token. -/
def peek : Parser Lexeme := do return (← get).headD ⟨0, .endOfScript⟩

/-- Passes over a token. -/
def skip : Parser Unit := modify List.tail

/-- Refuses the next token, perhaps for want of another one. -/
def refuse (expected? : Option Text) : Parser α := do
  let next ← peek
  throw ⟨next.line,
    match next.token with
    | .unfinished complaint => complaint
    | t => t.shown ++ " unexpected".toList ++
      match expected? with
      | some sign => " (expecting ".toList ++ sign ++ ")".toList
      | none => []⟩

/-- Takes a sign if it is the next token. -/
def takes (sign : String) : Parser Bool := do
  if (← peek).token.sign? = some sign.toList then
    skip
    return true
  else return false

/-- Takes a sign, which must be the next token. -/
def expect (sign : String) : Parser Unit := do
  if !(← takes sign) then refuse (some (inQuotes sign.toList))

/-- Passes over line ends. -/
def skipLines : Parser Unit := modify fun ts => ts.dropWhile fun t => t.token = .newline

/-- Reads things as long as there are some, but no more of them than a number. -/
def upTo (p : Parser (Option α)) : Nat → Parser (List α)
  | 0 => return []
  | n + 1 => do
    match ← p with
    | none => return []
    | some a => return a :: (← upTo p n)

/-- Reads things as long as there are some. -/
def many (p : Parser (Option α)) : Parser (List α) := do upTo p (← get).length

/-! ## Simple commands -/

/-- Reads a word. -/
def word : Parser Word := do
  match (← peek).token with
  | .word w => do
    skip
    return w
  | _ => refuse (some "word".toList)

/-- Reads a redirection, if there is one. -/
def redirection? : Parser (Option Redirection) := do
  match (← peek).token with
  | .redirection descriptor sign => do
    skip
    match (← peek).token with
    | .word w => do
      skip
      return some (.ofSign descriptor sign w)
    | _ => refuse none
  | _ => return none

/-- Reads a word or a redirection, if there is one. -/
def item? : Parser (Option (Word ⊕ Redirection)) := do
  match (← peek).token with
  | .word w => do
    skip
    return some (.inl w)
  | _ => return (← redirection?).map .inr

/-! ## Compound commands

What stands inside other commands is read by `inner`, which reads a list of commands. -/

section

variable (inner : Parser Command)

/-- Reads what follows `if`. -/
def choice : Parser Command := do
  let branch : Parser (Command × Command) := do
    let test ← inner
    expect "then"
    return (test, ← inner)
  let first ← branch
  let others ← many do if ← takes "elif" then return some (← branch) else return none
  let last ← if ← takes "else" then inner else pure .nothing
  expect "fi"
  return (first :: others).foldr (fun (test, yes) no => .choice test yes no) last

/-- Reads what follows `while` or `until`. -/
def loop (isUntil : Bool) : Parser Command := do
  let test ← inner
  expect "do"
  let body ← inner
  expect "done"
  return .loop isUntil test body

/-- Reads a branch of a `case`, if there is one more. -/
def branch? : Parser (Option (List Word × Command)) := do
  if (← peek).token.sign? = some "esac".toList then return none
  let _ ← takes "("
  let pattern ← word
  let patterns ← many do if ← takes "|" then return some (← word) else return none
  expect ")"
  skipLines
  let sign? := (← peek).token.sign?
  let body ←
    if sign? = some ";;".toList ∨ sign? = some "esac".toList then pure .nothing else inner
  if ← takes ";;" then skipLines
  else if (← peek).token.sign? ≠ some "esac".toList then refuse (some (inQuotes ";;".toList))
  return some (pattern :: patterns, body)

/-- Reads what follows `case`. -/
def cases : Parser Command := do
  let subject ← word
  skipLines
  expect "in"
  skipLines
  let branches ← many (branch? inner)
  expect "esac"
  return .cases subject branches

/-- Reads a command that starts with a sign, if there is one. -/
def compound? : Parser (Option Command) := do
  if ← takes "if" then return some (← choice inner)
  if ← takes "while" then return some (← loop inner false)
  if ← takes "until" then return some (← loop inner true)
  if ← takes "case" then return some (← cases inner)
  if ← takes "\x7b" then
    let c ← inner
    expect "\x7d"
    return some c
  if ← takes "(" then
    let c ← inner
    expect ")"
    return some (.apart c)
  return none

/-- Reads a compound command with its redirections, if there is one. -/
def group? : Parser (Option Command) := do
  let line := (← peek).line
  match ← compound? inner with
  | none => return none
  | some c => do
    let rs ← many redirection?
    return some (if rs.isEmpty then c else .redirected line c rs)

/-- Reads what follows the opening parenthesis in a function. -/
def function (name : Word) : Parser Command := do
  expect ")"
  match (plainText? name).filter isName with
  | none => throw ⟨(← peek).line, "Bad function name".toList⟩
  | some name => do
    skipLines
    match ← group? inner with
    | some body => return .function name body
    | none => refuse none

/-- Reads a simple command, or a function. -/
def simple : Parser Command := do
  let line := (← peek).line
  let items ← many item?
  match items with
  | [] => refuse none
  | [.inl name] =>
    if ← takes "(" then function inner name else return .simple line [name] []
  | _ => return .simple line (items.filterMap Sum.getLeft?) (items.filterMap Sum.getRight?)

/-- Reads a command. -/
def command : Parser Command := do
  match ← group? inner with
  | some c => return c
  | none => if (← peek).token.sign?.isSome then refuse none else simple inner

/-! ## Rows of commands -/

/-- Reads commands that are tied by pipes. -/
def pipeline : Parser Command := do
  let isNegated ← takes "!"
  let first ← command inner
  let others ← many do
    if ← takes "|" then
      skipLines
      return some (← command inner)
    else return none
  let c := (first :: others).dropLast.foldr Command.pipe (others.getLastD first)
  return if isNegated then .negation c else c

/-- Reads commands of which each one depends on how those before it ended. -/
def andOr : Parser Command := do
  let first ← pipeline inner
  let others ← many do
    let tie? ←
      if ← takes "&&" then pure (some Command.both)
      else if ← takes "||" then pure (some Command.either)
      else pure none
    match tie? with
    | none => return none
    | some tie => do
      skipLines
      return some (tie, ← pipeline inner)
  return others.foldl (fun c (tie, d) => tie c d) first

/-- The signs that end a list of commands. -/
def enders : List Text :=
  ["then", "do", "done", "elif", "else", "fi", "esac", ";;", ")", "\x7d"].map String.toList

/-- Reads a list of commands. -/
def list : Parser Command := do
  skipLines
  let first ← andOr inner
  let others ← many do
    let isDivided ← takes ";"
    let next ← peek
    skipLines
    let t := (← peek).token
    if (isDivided ∨ next.token = .newline) ∧ t ≠ .endOfScript ∧ t.sign?.all (· ∉ enders) then
      return some (← andOr inner)
    else return none
  return others.foldl Command.sequence first

/-- Reads the commands of a line. -/
def line : Parser Command := do
  let first ← andOr inner
  let others ← many do
    if ← takes ";" then
      let t := (← peek).token
      if t = .newline ∨ t = .endOfScript then return none else return some (← andOr inner)
    else return none
  let t := (← peek).token
  if t = .newline then skip else if t ≠ .endOfScript then refuse none
  return others.foldl Command.sequence first

end

/-- Reads a list of commands that are nested up to a number of levels. -/
def nested : Nat → Parser Command
  | 0 => refuse none
  | n + 1 => list (nested n)

end Parser

/-- Reads the next command, if there is one. -/
def nextCommand? : Parser (Option Command) := do
  match (← Parser.peek).token with
  | .endOfScript => return none
  | .newline => do
    Parser.skip
    return some .nothing
  | _ => do return some (← Parser.line (Parser.nested (← get).length))

end ExportSurface.Shell
