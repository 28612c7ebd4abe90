import ExportSurface.Text.Blank

/-!
# Fields of a block

A field is a line of a block: indentation, a label of ASCII letters, a colon and a value. Spaces
and tabs around the value do not belong to it, and neither does a carriage return at its end. The
first field of a label is the one that counts.
-/

namespace ExportSurface.Listing

/-- The characters that do not belong to a value when they end its line. -/
def isLineEnd (c : Char) : Bool := isLineBlank c || c = '\r'

/-- The label and the value of a line, if it is a field. -/
def fieldOfLine? (line : Text) : Option (Text × Text) :=
  let s := line.dropWhile isLineBlank
  match s.takeWhile Char.isAlpha, s.dropWhile Char.isAlpha with
  | c :: label, ':' :: value => some (c :: label, dropTrailing isLineEnd (value.dropWhile isLineBlank))
  | _, _ => none

/-- The fields of a block, in order. -/
def fields (body : Text) : List (Text × Text) := (pieces '\n' body).filterMap fieldOfLine?

/-- The value of the first field of a label. -/
def field? (label body : Text) : Option Text := (fields body).lookup label

/-- The first word of the first field of a label. -/
def fieldWord? (label body : Text) : Option Text := (field? label body).bind Text.firstWord?

end ExportSurface.Listing
