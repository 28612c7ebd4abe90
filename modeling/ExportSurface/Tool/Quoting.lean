import ExportSurface.Path

/-!
# Quoted names in complaints

A complaint about a file shows its name so that a shell would read it back. A name of ordinary
characters stands as it is. Any other is quoted, and characters that cannot be shown are written as
escapes between quotes of their own.
-/

namespace ExportSurface.Quoting

/-- Whether a byte is one of the characters of a text. -/
def isAmong (chars : String) (b : UInt8) : Bool := chars.toList.any fun c => c.toUInt8 = b

/-- The characters that can be shown. -/
def isShown (b : UInt8) : Bool := 0x20 ≤ b && b ≤ 0x7E

/-- The characters that mean something to a shell, wherever they stand. -/
def isSpecial (b : UInt8) : Bool := isAmong " !\"$&'()*:;<=>?[\\^`|" b

/-- The characters that mean something to a shell at the start of a word. -/
def isSpecialAtStart (b : UInt8) : Bool := isAmong "#~" b

/-- Whether a name has to be quoted. -/
def needsQuotes (name : Bytes) : Bool :=
  name.isEmpty || name.any (fun b => isSpecial b || !isShown b) ||
    name.head?.any isSpecialAtStart

/-- The characters that double quotes take away every meaning from. -/
def isTame (b : UInt8) : Bool :=
  'a'.toUInt8 ≤ b && b ≤ 'z'.toUInt8 || 'A'.toUInt8 ≤ b && b ≤ 'Z'.toUInt8 ||
    '0'.toUInt8 ≤ b && b ≤ '9'.toUInt8 || isAmong " '%+,-./:]_" b

/-- The escape of a character that cannot be shown. -/
def escape (b : UInt8) : Bytes :=
  let c : Text :=
    if b = 7 then ['a']
    else if b = 8 then ['b']
    else if b = 9 then ['t']
    else if b = 10 then ['n']
    else if b = 11 then ['v']
    else if b = 12 then ['f']
    else if b = 13 then ['r']
    else (Nat.toDigits 8 b.toNat).leftpad 3 '0'
  Utf8.encode ('\\' :: c)

/-- What stands between single quotes. The flag says whether escapes are being written, whose quotes
have to be closed before anything else follows. -/
def body : Bool → Bytes → Bytes
  | _, [] => []
  | escaping, b :: r =>
    if !isShown b then
      (if escaping then [] else Utf8.encode "'$'".toList) ++ escape b ++ body true r
    else if b = '\''.toUInt8 then Utf8.encode "'\\''".toList ++ body false r
    else (if escaping then Utf8.encode "''".toList else []) ++ b :: body false r

/-- A name as a complaint shows it. -/
def quote (name : Bytes) : Bytes :=
  if !needsQuotes name then name
  else if '\''.toUInt8 ∈ name ∧ (name.all isTame ∨
      name.head?.any isSpecialAtStart ∧ name.tail.all isTame) then
    '"'.toUInt8 :: name ++ ['"'.toUInt8]
  else '\''.toUInt8 :: body false name ++ ['\''.toUInt8]

end ExportSurface.Quoting
