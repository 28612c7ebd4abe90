import ExportSurface.Comparison.Basic
import ExportSurface.Json.Printer
import ExportSurface.Json.Reader

/-!
# Comparisons as JSON

Build pipelines read a comparison as one JSON object with three members: whether the sets agree, the
missing names and the new ones. A set of names is an array of strings, written in increasing order
and read in any order. Reading also takes the three values as an array, skips members with other
keys, and refuses a member that is absent or given twice.
-/

namespace ExportSurface

/-! ## Sets of names -/

namespace SymbolSet

/-- The JSON form of a set of names. -/
def toJson (s : SymbolSet) : Json := .ofTexts s.toList

/-- The set of names that a JSON value holds. -/
def ofJson? (v : Json) : Option SymbolSet := v.texts?.map ofList

/-- The set of names that a JSON document holds. -/
def parseJson? (t : Text) : Option SymbolSet := (Json.parse? t).bind ofJson?

end SymbolSet

/-! ## Documents -/

/-- What a JSON document says of a comparison. The verdict is read and written as it stands, whether
or not it fits the names. -/
structure ComparisonDocument where
  compatible : Bool
  missing : SymbolSet
  added : SymbolSet
  deriving DecidableEq

namespace ComparisonDocument

/-- The document of a comparison. -/
def ofComparison (c : Comparison) : ComparisonDocument := ⟨c.isCompatible, c.missing, c.added⟩

/-- The key of the verdict. -/
def compatibleKey : Text := "compatible".toList

/-- The key of the missing names. -/
def missingKey : Text := "missing".toList

/-- The key of the new names. -/
def addedKey : Text := "new".toList

/-- The JSON object of a document. -/
def toJson (d : ComparisonDocument) : Json :=
  .object [(some compatibleKey, .bool d.compatible), (some missingKey, d.missing.toJson),
    (some addedKey, d.added.toJson)]

/-- The text of a document, in the pretty form. -/
def render (d : ComparisonDocument) : Text := d.toJson.pretty

/-- The document of three values. -/
def ofValues? (compatible missing added : Json) : Option ComparisonDocument := do
  some ⟨← compatible.bool?, ← SymbolSet.ofJson? missing, ← SymbolSet.ofJson? added⟩

/-- The value of a key that exactly one member has. -/
def member? (k : Text) (ms : List (JsonString × Json)) : Option Json :=
  match ms.filter (·.1 = some k) with
  | [(_, v)] => some v
  | _ => none

/-- The document that a JSON value holds. -/
def ofJson? : Json → Option ComparisonDocument
  | .object ms => do
    if ms.any (·.1.isNone) then none
    else ofValues? (← member? compatibleKey ms) (← member? missingKey ms) (← member? addedKey ms)
  | .array [compatible, missing, added] => ofValues? compatible missing added
  | _ => none

/-- The document that a text holds. -/
def parse? (t : Text) : Option ComparisonDocument := (Json.parse? t).bind ofJson?

end ComparisonDocument

end ExportSurface
