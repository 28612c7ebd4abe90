import ExportSurface.IgnoreList.Basic
import ExportSurface.Toml.Reader

/-!
# Ignore files

An ignore file is a TOML document whose array `ignore` holds the entries, most often one element of
an array of tables each. An entry is a table with a symbol and maybe a reason, or an array that
starts with them; a reason that is not given is empty. Other keys are passed over.
-/

namespace ExportSurface.IgnoreList

/-- The reason in a value, if the value is there. -/
def reasonOf? : Option Toml → Option Text
  | none => some []
  | some (.string r) => some r
  | some _ => none

/-- The entry that a symbol and maybe a reason make. -/
def entryOf? (symbol reason : Option Toml) : Option IgnoreEntry :=
  match symbol with
  | some (.string s) => (reasonOf? reason).map fun r => ⟨s, r⟩
  | _ => none

/-- The entry that a table describes. -/
def entryOfTable? (es : Toml.Entries) : Option IgnoreEntry :=
  entryOf? (es.lookup "symbol".toList) (es.lookup "reason".toList)

/-- The entry that a value describes. -/
def entryOfValue? : Toml → Option IgnoreEntry
  | .inline es => entryOfTable? es
  | .array items => entryOf? items[0]? items[1]?
  | _ => none

/-- The entries that a document describes. -/
def entriesOfDocument? (root : Toml.Entries) : Option (List IgnoreEntry) :=
  match root.lookup "ignore".toList with
  | none => some []
  | some (.array items) => items.mapM entryOfValue?
  | some (.tables elements) => elements.mapM entryOfTable?
  | some _ => none

/-- The ignore list of an ignore file. -/
def parse? (t : Text) : Option IgnoreList :=
  ((Toml.parse? t).bind entriesOfDocument?).map ofList

end ExportSurface.IgnoreList
