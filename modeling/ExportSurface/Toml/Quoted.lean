import ExportSurface.Text.Blank

/-!
# Quoted strings of TOML

Basic strings stand between quotes and have escapes; literal strings stand between apostrophes and
have none. Both come in a form of one line and in a form of several lines between three marks. A
string holds no control characters but the tab, and the ends of its lines are read as line feeds.
-/

namespace ExportSurface.Toml

/-! ## Characters -/

/-- The characters that may stand as themselves in strings and comments. -/
def isPlain (c : Char) : Bool := c = '\t' || (0x20 ≤ c.toNat && c.toNat ≠ 0x7F)

/-- The value of hexadecimal digits in either case. -/
def hexNumber? (ds : Text) : Option Nat :=
  ds.foldlM (fun n c =>
    if c.isDigit then some (n * 16 + (c.toNat - 0x30))
    else if 'a' ≤ c && c ≤ 'f' then some (n * 16 + (c.toNat - 0x57))
    else if 'A' ≤ c && c ≤ 'F' then some (n * 16 + (c.toNat - 0x37))
    else none) 0

/-- The character whose number hexadecimal digits write, unless they name a surrogate or lie beyond
the last character. -/
def charOfHex? (ds : Text) : Option Char :=
  (hexNumber? ds).bind fun n => if n.isValidChar then some (Char.ofNat n) else none

/-- The character that an escape of one letter names. -/
def escaped? (c : Char) : Option Char :=
  if c = '"' || c = '\\' then some c
  else if c = 'b' then some '\x08'
  else if c = 'f' then some '\x0c'
  else if c = 'n' then some '\n'
  else if c = 'r' then some '\r'
  else if c = 't' then some '\t'
  else none

/-- Puts a character before what a reader found. -/
def prepend? (c : Option Char) (found : Option (Text × Text)) : Option (Text × Text) :=
  c.bind fun c => found.map fun (s, rest) => (c :: s, rest)

/-! ## Strings of one line -/

/-- Reads a basic string whose opening quote was read. -/
def basic : Text → Option (Text × Text)
  | [] => none
  | '"' :: r => some ([], r)
  | '\\' :: 'u' :: a :: b :: c :: d :: r => prepend? (charOfHex? [a, b, c, d]) (basic r)
  | '\\' :: 'U' :: a :: b :: c :: d :: e :: f :: g :: h :: r =>
    prepend? (charOfHex? [a, b, c, d, e, f, g, h]) (basic r)
  | '\\' :: c :: r => prepend? (escaped? c) (basic r)
  | c :: r => if isPlain c then prepend? (some c) (basic r) else none

/-- Reads a literal string whose opening apostrophe was read. -/
def literal : Text → Option (Text × Text)
  | [] => none
  | '\'' :: r => some ([], r)
  | c :: r => if isPlain c then prepend? (some c) (literal r) else none

/-! ## Strings of several lines -/

/-- What follows a line end at the start of a text. -/
def dropNewline? : Text → Option Text
  | '\n' :: r => some r
  | '\r' :: '\n' :: r => some r
  | _ => none

/-- The text without the line end at its start, if there is one. -/
def dropNewline (s : Text) : Text := (dropNewline? s).getD s

/-- What ends a string of several lines once three marks were read: up to two marks that follow still
belong to the string. -/
def closing (mark : Char) : Text → Text × Text
  | a :: b :: r =>
    if a = mark then if b = mark then ([mark, mark], r) else ([mark], b :: r) else ([], a :: b :: r)
  | [a] => if a = mark then ([mark], []) else ([], [a])
  | [] => ([], [])

/-- Whether only blanks stand between the start of a text and the end of its first line. -/
def isBlankLine (s : Text) : Bool := (dropNewline? (s.dropWhile isLineBlank)).isSome

/-- Reads a basic string of several lines whose opening was read. A backslash at the end of a line
takes away the line end and all blanks and line ends after it; `folding` says that these are being
passed. -/
def multilineBasic : (folding : Bool) → Text → Option (Text × Text)
  | _, [] => none
  | _, '"' :: '"' :: '"' :: r => some (closing '"' r)
  | true, '\n' :: r => multilineBasic true r
  | false, '\n' :: r => prepend? (some '\n') (multilineBasic false r)
  | true, '\r' :: '\n' :: r => multilineBasic true r
  | false, '\r' :: '\n' :: r => prepend? (some '\n') (multilineBasic false r)
  | _, '\\' :: 'u' :: a :: b :: c :: d :: r =>
    prepend? (charOfHex? [a, b, c, d]) (multilineBasic false r)
  | _, '\\' :: 'U' :: a :: b :: c :: d :: e :: f :: g :: h :: r =>
    prepend? (charOfHex? [a, b, c, d, e, f, g, h]) (multilineBasic false r)
  | _, '\\' :: c :: r =>
    if isBlankLine (c :: r) then multilineBasic true (c :: r)
    else prepend? (escaped? c) (multilineBasic false r)
  | folding, c :: r =>
    if folding && isLineBlank c then multilineBasic true r
    else if isPlain c then prepend? (some c) (multilineBasic false r)
    else none

/-- Reads a literal string of several lines whose opening was read. -/
def multilineLiteral : Text → Option (Text × Text)
  | [] => none
  | '\'' :: '\'' :: '\'' :: r => some (closing '\'' r)
  | '\n' :: r => prepend? (some '\n') (multilineLiteral r)
  | '\r' :: '\n' :: r => prepend? (some '\n') (multilineLiteral r)
  | c :: r => if isPlain c then prepend? (some c) (multilineLiteral r) else none

/-- Reads a string. -/
def string? : Text → Option (Text × Text)
  | '"' :: '"' :: '"' :: r => multilineBasic false (dropNewline r)
  | '"' :: r => basic r
  | '\'' :: '\'' :: '\'' :: r => multilineLiteral (dropNewline r)
  | '\'' :: r => literal r
  | _ => none

end ExportSurface.Toml
