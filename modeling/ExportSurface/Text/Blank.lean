import ExportSurface.Text.Basic

/-!
# Blank characters and words

The blanks are the twenty-five characters with the Unicode property `White_Space`. They bound
words, and they are what trimming takes away.
-/

namespace ExportSurface

/-- The characters with the Unicode property `White_Space`. The zero-width space, the byte order
mark and the information separators do not have it. -/
def isBlank (c : Char) : Bool :=
  let n := c.toNat
  (0x09 ≤ n && n ≤ 0x0D) || n == 0x20 || n == 0x85 || n == 0xA0 || n == 0x1680 ||
    (0x2000 ≤ n && n ≤ 0x200A) || n == 0x2028 || n == 0x2029 || n == 0x202F || n == 0x205F ||
    n == 0x3000

/-- The blanks that indent a line: spaces and tabs. -/
def isLineBlank (c : Char) : Bool := c = ' ' || c = '\t'

namespace Text

/-- The text without the blanks at both its ends. -/
def trim (s : Text) : Text := dropTrailing isBlank (s.dropWhile isBlank)

/-- The first word of a text: its first longest stretch without blanks. A blank text has none. -/
def firstWord? (s : Text) : Option Text :=
  match (s.dropWhile isBlank).takeWhile (!isBlank ·) with
  | [] => none
  | w => some w

end Text

end ExportSurface
