import ExportSurface.Text.Basic

/-!
# JSON values

A JSON document is a tree. A string literal may name half of a surrogate pair on its own, and then
it stands for no text; numbers are kept as they are written.
-/

namespace ExportSurface

/-- The text of a string literal, or `none` if the literal names half of a surrogate pair. -/
abbrev JsonString := Option Text

/-- A JSON value. -/
inductive Json where
  | null
  | bool (b : Bool)
  | number (literal : Text)
  | string (s : JsonString)
  | array (items : List Json)
  | object (members : List (JsonString × Json))
  deriving Inhabited

namespace Json

/-- The string value of a text. -/
def ofText (t : Text) : Json := string (some t)

/-- The array of texts. -/
def ofTexts (l : List Text) : Json := array (l.map ofText)

/-- The text of a string value. -/
def text? : Json → Option Text
  | string s => s
  | _ => none

/-- The texts of an array of strings. -/
def texts? : Json → Option (List Text)
  | array items => items.mapM text?
  | _ => none

/-- The truth value of a Boolean. -/
def bool? : Json → Option Bool
  | bool b => some b
  | _ => none

end Json

end ExportSurface
