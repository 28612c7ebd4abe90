import ExportSurface.Toml.Reader
import Mathlib.Data.List.Basic

/-!
# Growing an array of tables

A document whose only key is that of an array of tables grows by the headers of its elements, and each
element by the assignments behind its header.

* `Toml.arrayRoot` is the root table of such a document.
* `Toml.Document.add?_element` and `Toml.Document.add?_assignment` say what the two kinds of lines add.
-/

namespace ExportSurface.Toml

variable {k key : Text} {v : Toml} {es : Entries} {elements : List Entries}

/-- The root table with an array of tables at a key. The key comes with the first element. -/
def arrayRoot (k : Text) : List Entries → Entries
  | [] => []
  | es :: rest => [(k, tables (es :: rest))]

theorem arrayRoot_concat (k : Text) (elements : List Entries) (es : Entries) :
    arrayRoot k (elements ++ [es]) = [(k, tables (elements ++ [es]))] := by
  cases elements <;> rfl

theorem lookup_arrayRoot_concat (k : Text) (elements : List Entries) (es : Entries) :
    (arrayRoot k (elements ++ [es])).lookup k = some (tables (elements ++ [es])) := by
  rw [arrayRoot_concat, List.lookup_cons_self]

theorem changeLast?_concat (change : Entries → Option Entries) (elements : List Entries)
    (es : Entries) :
    changeLast? change (elements ++ [es]) = (change es).map fun es' => elements ++ [es'] := by
  induction elements with
  | nil => rfl
  | cons e elements ih =>
    rw [List.cons_append, changeLast?, ih]
    · cases change es <;> rfl
    · simp

namespace Document

/-- A header opens one more element, which is empty. -/
theorem add?_element (k : Text) (elements : List Entries) (header : List Text) :
    (⟨arrayRoot k elements, header⟩ : Document).add? (.element [k]) =
      some ⟨arrayRoot k (elements ++ [[]]), [k]⟩ := by
  cases elements with
  | nil => rfl
  | cons es rest =>
    rw [add?, declareElement?]
    simp [change?, arrayRoot, replace]

/-- An assignment of a key that the last element does not have goes behind its other entries. -/
theorem add?_assignment (hfree : es.lookup key = none) :
    (⟨arrayRoot k (elements ++ [es]), [k]⟩ : Document).add? (.assignment [key] v) =
      some ⟨arrayRoot k (elements ++ [es ++ [(key, v)]]), [k]⟩ := by
  have hassign : change? false (fun _ es => assign? [key] v es) [] .declared es =
      some (es ++ [(key, v)]) := by
    simp [change?, assign?, Toml.add?, hfree]
  rw [add?, assignIn?, change?, lookup_arrayRoot_concat]
  dsimp only
  rw [changeLast?_concat, hassign, arrayRoot_concat, arrayRoot_concat]
  simp [replace]

end Document

end ExportSurface.Toml
