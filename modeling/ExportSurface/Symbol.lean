import ExportSurface.Text.Basic

/-!
# Symbols

A listing of a library's symbols gives each one a name and, where the format has them, a binding, a
kind and a section. A field that was not read is unknown, and an unknown field never makes a symbol
an exported one (`Binding.isExported`).
-/

namespace ExportSurface

/-- How far a symbol is visible to the linker. -/
inductive Binding where
  /-- Visible to every object. -/
  | global
  /-- Visible to every object, and replaced by a global symbol of the same name. -/
  | weak
  /-- Visible in its own object only. -/
  | localOnly
  | unknown
  deriving DecidableEq, Repr, Inhabited

namespace Binding

/-- The binding that a listing calls `word`. -/
def ofWord (word : Text) : Binding :=
  if word = "Global".toList then global
  else if word = "Weak".toList then weak
  else if word = "Local".toList then localOnly
  else unknown

/-- Global and weak symbols are visible to the dynamic linker. -/
def isExported : Binding → Bool
  | global | weak => true
  | localOnly | unknown => false

end Binding

/-- What a symbol names. -/
inductive SymbolKind where
  | function
  | object
  | unknown
  deriving DecidableEq, Repr, Inhabited

/-- The kind that a listing calls `word`. -/
def SymbolKind.ofWord (word : Text) : SymbolKind :=
  if word = "Function".toList then function
  else if word = "Object".toList then object
  else unknown

/-- One entry of a listing. The section is empty where none was read. -/
structure SymbolRecord where
  name : Text
  binding : Binding
  kind : SymbolKind
  sectionName : Text
  deriving DecidableEq, Repr, Inhabited

/-- An entry of an export table, which gives names and nothing else. -/
def SymbolRecord.ofName (name : Text) : SymbolRecord := ⟨name, .unknown, .unknown, []⟩

end ExportSurface
