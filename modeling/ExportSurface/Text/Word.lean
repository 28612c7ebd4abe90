import ExportSurface.Text.WordTable

/-!
# Word characters

A marker of a listing counts only where no word character stands before it. Among the ASCII
characters the letters, the digits and the low line are word characters; beyond them the table
decides.
-/

namespace ExportSurface

/-- The characters that belong to words: letters, marks, decimal digits, connector punctuation and
join controls. -/
def isWordChar (c : Char) : Bool :=
  if c.toNat < 0x80 then c.isAlphanum || c = '_'
  else wordRanges.any fun r => r.1 ≤ c.toNat && c.toNat ≤ r.2

end ExportSurface
