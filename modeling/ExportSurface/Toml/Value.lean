import ExportSurface.Text.Basic

/-!
# TOML values

A TOML document is a tree of tables. Arrays and inline tables are closed once they are written;
tables and arrays of tables grow as later lines add to them, within limits that depend on what made
them.
-/

namespace ExportSurface

/-- What made a table. -/
inductive TableOrigin where
  /-- Its own header, or being the root, an element of an array of tables or an inline table. -/
  | declared
  /-- A longer header that passes through it. -/
  | implied
  /-- A dotted key. -/
  | dotted
  deriving DecidableEq, Repr

/-- A TOML value. Nothing reads the value of a float, a date or a time, so it is not kept. -/
inductive Toml where
  | string (s : Text)
  | integer (n : Int)
  | float
  | boolean (b : Bool)
  | moment
  /-- An array between brackets. -/
  | array (items : List Toml)
  /-- A table between braces. -/
  | inline (entries : List (Text × Toml))
  /-- A table that headers and dotted keys make. -/
  | table (origin : TableOrigin) (entries : List (Text × Toml))
  /-- The elements of an array of tables. -/
  | tables (elements : List (List (Text × Toml)))
  deriving Inhabited

namespace Toml

/-- The entries of a table, in the order in which they were made. -/
abbrev Entries := List (Text × Toml)

end Toml

end ExportSurface
