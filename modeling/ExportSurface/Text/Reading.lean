import ExportSurface.Text.Basic

/-!
# Readings

A reader takes a value from the start of a text and leaves the rest. A `Reading` also says that the
rest is shorter than the text, which is what ends the loops of readers that call each other.
-/

namespace ExportSurface

/-- What was read from the start of `s`, and what follows it. -/
structure Reading (α : Type) (s : Text) where
  value : α
  rest : Text
  shorter : rest.length < s.length

namespace Reading

variable {α β : Type} {s t : Text}

/-- The reading that a reader answers with. Readers take at least one character, so the rest that
they leave is shorter. -/
def of? (s : Text) : Option (α × Text) → Option (Reading α s)
  | some (v, rest) => if h : rest.length < s.length then some ⟨v, rest, h⟩ else none
  | none => none

theorem of?_some {v : α} {r : Text} (h : r.length < s.length) :
    of? s (some (v, r)) = some ⟨v, r, h⟩ := by
  simp [of?, h]

/-- A reading of a text is one of every longer text. -/
def widen (h : s.length ≤ t.length) (r : Reading α s) : Reading α t :=
  ⟨r.value, r.rest, Nat.lt_of_lt_of_le r.shorter h⟩

/-- Changes what was read. -/
def map (f : α → β) (r : Reading α s) : Reading β s := ⟨f r.value, r.rest, r.shorter⟩

end Reading

theorem length_dropWhile_le {α : Type} (p : α → Bool) (s : List α) :
    (s.dropWhile p).length ≤ s.length :=
  (List.dropWhile_sublist p).length_le

/-- What follows the first character that is left after a start was dropped is shorter. -/
theorem length_lt_of_dropWhile_eq {p : Char → Bool} {s r : Text} {c : Char}
    (h : s.dropWhile p = c :: r) : r.length < s.length := by
  have := length_dropWhile_le p s
  rw [h, List.length_cons] at this
  omega

end ExportSurface
