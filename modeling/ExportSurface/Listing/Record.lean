import ExportSurface.Listing.Block
import ExportSurface.Listing.Field
import ExportSurface.Platform
import ExportSurface.Symbol
import ExportSurface.Text.Digit

/-!
# Records of a listing

Each block with a name gives one record, in the order of the blocks. A symbol table writes behind
each name its place in the string table, in parentheses, and the name is the first word of what
stands before it. An export table gives names only.
-/

namespace ExportSurface.Listing

/-- Leaves out a run of decimal digits in parentheses that ends the text. -/
def dropPlace (s : Text) : Text :=
  match s.reverse with
  | ')' :: r =>
    match r.takeWhile isDecimalDigit, r.dropWhile isDecimalDigit with
    | _ :: _, '(' :: before => before.reverse
    | _, _ => s
  | _ => s

/-- The record of a block of a symbol table. -/
def symbolTableRecord? (body : Text) : Option SymbolRecord :=
  ((field? "Name".toList body).bind fun value => (dropPlace value).firstWord?).map fun name =>
    { name
      binding := ((fieldWord? "Binding".toList body).map Binding.ofWord).getD .unknown
      kind := ((fieldWord? "Type".toList body).map SymbolKind.ofWord).getD .unknown
      sectionName := (fieldWord? "Section".toList body).getD [] }

/-- The record of a block of an export table. -/
def exportTableRecord? (body : Text) : Option SymbolRecord :=
  (fieldWord? "Name".toList body).map SymbolRecord.ofName

/-- The record of a block, by platform. -/
def record? : Platform → Text → Option SymbolRecord
  | .elf => symbolTableRecord?
  | .coff => exportTableRecord?

/-- The records of a listing, in the order of their blocks. -/
def records (p : Platform) (raw : Text) : List SymbolRecord :=
  (bodies p.marker raw).filterMap (record? p)

end ExportSurface.Listing
