import ExportSurface.Toml.Value

/-!
# Numbers of TOML

Integers are decimal with an optional sign, or hexadecimal, octal or binary behind a prefix, and fit
into 64 bits with sign. Floats have a fraction or an exponent, or are the words `inf` and `nan`. A
low line may stand between two digits, and a decimal number has no leading zeros.

A float is refused when it is positive and rounds to infinity in the format of 64 bits.
-/

namespace ExportSurface.Toml

/-! ## Digits -/

/-- The digits after the first one, without the low lines between them, and what follows. -/
def moreDigits (ok : Char → Bool) : Text → Text × Text
  | [] => ([], [])
  | '_' :: c :: r =>
    if ok c then (c :: (moreDigits ok r).1, (moreDigits ok r).2) else ([], '_' :: c :: r)
  | c :: r => if ok c then (c :: (moreDigits ok r).1, (moreDigits ok r).2) else ([], c :: r)

/-- Reads one digit or more. -/
def digits? (ok : Char → Bool) : Text → Option (Text × Text)
  | [] => none
  | c :: r => if ok c then some (c :: (moreDigits ok r).1, (moreDigits ok r).2) else none

/-- The value of a digit in a base up to sixteen. -/
def digitValue (c : Char) : Nat :=
  if c.isDigit then c.toNat - 0x30
  else if c.toNat < 0x61 then c.toNat - 0x37
  else c.toNat - 0x57

/-- The number that digits write in a base. -/
def ofDigits (base : Nat) (ds : Text) : Nat := ds.foldl (fun n c => n * base + digitValue c) 0

/-- Reads a sign, if there is one; says whether it is a minus. -/
def sign : Text → Bool × Text
  | '+' :: r => (false, r)
  | '-' :: r => (true, r)
  | s => (false, s)

/-- Reads the digits of a decimal number: a zero, or digits that start with another one. -/
def decimalDigits? : Text → Option (Text × Text)
  | '0' :: r => some (['0'], r)
  | s => digits? Char.isDigit s

/-! ## Integers -/

/-- Whether an integer fits into 64 bits with sign. -/
def fits (n : Int) : Bool := (Int64.ofInt n).toInt = n

/-- Reads the digits of a number in another base, behind its prefix. -/
def based? (base : Nat) (ok : Char → Bool) (s : Text) : Option (Toml × Text) :=
  (digits? ok s).bind fun (ds, rest) =>
    let n : Int := ofDigits base ds
    if fits n then some (integer n, rest) else none

/-- Reads an integer. -/
def integer? : Text → Option (Toml × Text)
  | '0' :: 'x' :: r =>
    based? 16 (fun c => c.isDigit || ('a' ≤ c && c ≤ 'f') || ('A' ≤ c && c ≤ 'F')) r
  | '0' :: 'o' :: r => based? 8 (fun c => '0' ≤ c && c ≤ '7') r
  | '0' :: 'b' :: r => based? 2 (fun c => c = '0' || c = '1') r
  | s =>
    let (negative, t) := sign s
    (decimalDigits? t).bind fun (ds, rest) =>
      let n : Int := if negative then -(ofDigits 10 ds : Int) else ofDigits 10 ds
      if fits n then some (integer n, rest) else none

/-! ## Floats -/

/-- Whether a number with decimal digits `ds` and a power of ten rounds to infinity. The bound lies
halfway between the greatest finite float and the next power of two. Far from the bound the number
of digits decides. -/
def overflows (ds : Text) (power : Int) : Bool :=
  let ds := ds.dropWhile (· = '0')
  let n := ofDigits 10 ds
  let bound := Nat.pow 2 1024 - Nat.pow 2 970
  let size := (ds.length : Int) + power
  if n = 0 || size < 308 then false
  else if size > 310 then true
  else if 0 ≤ power then bound ≤ n * Nat.pow 10 power.toNat
  else bound * Nat.pow 10 (-power).toNat ≤ n

/-- Reads a fraction. -/
def fraction? : Text → Option (Text × Text)
  | '.' :: r => digits? Char.isDigit r
  | _ => none

/-- Reads an exponent. -/
def exponent? : Text → Option (Int × Text)
  | c :: r =>
    if c = 'e' || c = 'E' then
      let (negative, t) := sign r
      (digits? Char.isDigit t).map fun (ds, rest) =>
        (if negative then -(ofDigits 10 ds : Int) else ofDigits 10 ds, rest)
    else none
  | [] => none

/-- Reads what makes a float of a whole part: an exponent, or a fraction and maybe an exponent. -/
def floatTail? (s : Text) : Option ((Text × Int) × Text) :=
  match exponent? s with
  | some (e, rest) => some (([], e), rest)
  | none =>
    (fraction? s).map fun (ds, t) =>
      match exponent? t with
      | some (e, rest) => ((ds, e), rest)
      | none => ((ds, 0), t)

/-- Reads a float written with digits. -/
def digitFloat? (s : Text) : Option (Toml × Text) := do
  let (negative, t) := sign s
  let (whole, t) ← decimalDigits? t
  let ((fraction, e), rest) ← floatTail? t
  if !negative && overflows (whole ++ fraction) (e - fraction.length) then none
  else some (float, rest)

/-- Reads one of the words for special floats. -/
def wordFloat? (s : Text) : Option (Toml × Text) :=
  let t := (sign s).2
  ((dropPrefix? "inf".toList t).orElse fun _ => dropPrefix? "nan".toList t).map (float, ·)

/-- Reads a float. -/
def float? (s : Text) : Option (Toml × Text) := (digitFloat? s).orElse fun _ => wordFloat? s

end ExportSurface.Toml
