import ExportSurface.Json.Value

/-!
# Printing JSON

The compact form has no blanks. The pretty form puts every item and every member on a line of its
own, indented by two spaces a level, and writes empty arrays and objects without a line break inside. In strings
the quote, the backslash and the control characters below U+0020 are escaped, nothing else.
-/

namespace ExportSurface.Json

/-! ## Strings -/

/-- A hexadecimal digit in lower case. -/
def hexDigit (n : Nat) : Char :=
  if n < 10 then Char.ofNat (0x30 + n) else Char.ofNat (0x57 + n)

/-- A character as it stands in a string literal. -/
def escape (c : Char) : Text :=
  if c = '"' then ['\\', '"']
  else if c = '\\' then ['\\', '\\']
  else if c = '\x08' then ['\\', 'b']
  else if c = '\x0c' then ['\\', 'f']
  else if c = '\n' then ['\\', 'n']
  else if c = '\r' then ['\\', 'r']
  else if c = '\t' then ['\\', 't']
  else if c.toNat < 0x20 then
    ['\\', 'u', '0', '0', hexDigit (c.toNat / 16), hexDigit (c.toNat % 16)]
  else [c]

/-- The literal of a string. -/
def quote : JsonString → Text
  | some t => '"' :: t.flatMap escape ++ ['"']
  | none => "\"\\ud800\"".toList

/-! ## Values -/

/-- The name of a truth value. -/
def boolWord : Bool → Text
  | true => "true".toList
  | false => "false".toList

mutual

/-- The compact form of a value. -/
def compact : Json → Text
  | null => "null".toList
  | bool b => boolWord b
  | number literal => literal
  | string s => quote s
  | array items => '[' :: join ',' (compactItems items) ++ [']']
  | object members => '{' :: join ',' (compactMembers members) ++ ['}']

/-- The compact forms of items. -/
def compactItems : List Json → List Text
  | [] => []
  | v :: vs => compact v :: compactItems vs

/-- The compact forms of members. -/
def compactMembers : List (JsonString × Json) → List Text
  | [] => []
  | (k, v) :: ms => (quote k ++ ':' :: compact v) :: compactMembers ms

end

/-- A line feed and the indentation of a level. -/
def newLine (level : Nat) : Text := '\n' :: List.replicate (2 * level) ' '

/-- Lines between brackets, one level further in than `level`; nothing is put between the brackets
if there are none. -/
def bracketed (level : Nat) (opening closing : Char) : List Text → Text
  | [] => [opening, closing]
  | lines => opening :: join ',' (lines.map (newLine (level + 1) ++ ·)) ++ newLine level ++ [closing]

mutual

/-- The pretty form of a value that stands on a line of the given level. -/
def prettyAt (level : Nat) : Json → Text
  | null => "null".toList
  | bool b => boolWord b
  | number literal => literal
  | string s => quote s
  | array items => bracketed level '[' ']' (prettyItems (level + 1) items)
  | object members => bracketed level '{' '}' (prettyMembers (level + 1) members)

/-- The pretty forms of items. -/
def prettyItems (level : Nat) : List Json → List Text
  | [] => []
  | v :: vs => prettyAt level v :: prettyItems level vs

/-- The pretty forms of members. -/
def prettyMembers (level : Nat) : List (JsonString × Json) → List Text
  | [] => []
  | (k, v) :: ms => (quote k ++ ':' :: ' ' :: prettyAt level v) :: prettyMembers level ms

end

/-- The pretty form of a document. -/
def pretty (v : Json) : Text := prettyAt 0 v

end ExportSurface.Json
