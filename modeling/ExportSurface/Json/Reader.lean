import ExportSurface.Json.Value
import ExportSurface.Text.Reading

/-!
# Reading JSON

A document is one value with blanks around it. The reader keeps to the grammar: no comments, no
trailing commas, no leading zeros, no raw control characters in strings. Nesting may be as deep as
the text is long.
-/

namespace ExportSurface.Json

/-- The blanks between the tokens of a document. -/
def isSpace (c : Char) : Bool := c = ' ' || c = '\n' || c = '\t' || c = '\r'

/-- Drops the blanks at the start of a text. -/
abbrev skip (s : Text) : Text := s.dropWhile isSpace

/-! ## Strings -/

/-- A part of a string literal: a character, or half of a surrogate pair. -/
inductive Unit16 where
  | scalar (c : Char)
  | half (n : Nat)

/-- The value of a hexadecimal digit in either case. -/
def hexValue? (c : Char) : Option Nat :=
  let n := c.toNat
  if 0x30 ≤ n && n ≤ 0x39 then some (n - 0x30)
  else if 0x61 ≤ n && n ≤ 0x66 then some (n - 0x57)
  else if 0x41 ≤ n && n ≤ 0x46 then some (n - 0x37)
  else none

/-- The part that four hexadecimal digits name. -/
def unitOfHex? (a b c d : Char) : Option Unit16 := do
  let n := (((← hexValue? a) * 16 + (← hexValue? b)) * 16 + (← hexValue? c)) * 16 + (← hexValue? d)
  if 0xD800 ≤ n && n ≤ 0xDFFF then some (.half n) else some (.scalar (Char.ofNat n))

/-- The character that an escape of one letter names. -/
def escaped? (c : Char) : Option Char :=
  if c = '"' || c = '\\' || c = '/' then some c
  else if c = 'b' then some '\x08'
  else if c = 'f' then some '\x0c'
  else if c = 'n' then some '\n'
  else if c = 'r' then some '\r'
  else if c = 't' then some '\t'
  else none

/-- The parts of a string literal whose opening quote was read, and what follows the literal. -/
def stringUnits : Text → Option (List Unit16 × Text)
  | [] => none
  | '"' :: r => some ([], r)
  | '\\' :: 'u' :: a :: b :: c :: d :: r => do
    let u ← unitOfHex? a b c d
    let (us, rest) ← stringUnits r
    some (u :: us, rest)
  | '\\' :: e :: r => do
    let c ← escaped? e
    let (us, rest) ← stringUnits r
    some (.scalar c :: us, rest)
  | c :: r =>
    if c.toNat < 0x20 then none
    else do
      let (us, rest) ← stringUnits r
      some (.scalar c :: us, rest)

/-- Joins the halves of surrogate pairs. A half on its own stands for no text. -/
def joinHalves : List Unit16 → JsonString
  | [] => some []
  | .scalar c :: us => (joinHalves us).map (c :: ·)
  | .half high :: .half low :: us =>
    if high < 0xDC00 && 0xDC00 ≤ low then
      (joinHalves us).map (Char.ofNat (0x10000 + (high - 0xD800) * 0x400 + (low - 0xDC00)) :: ·)
    else none
  | .half _ :: _ => none

/-- Reads a string literal whose opening quote was read. -/
def stringRest (s : Text) : Option (JsonString × Text) :=
  (stringUnits s).map fun (us, rest) => (joinHalves us, rest)

/-! ## Numbers -/

/-- Reads one digit or more. -/
def digits? (s : Text) : Option (Text × Text) :=
  match s.takeWhile Char.isDigit with
  | [] => none
  | ds => some (ds, s.dropWhile Char.isDigit)

/-- Reads the whole part of a number: a zero, or digits that start with another one. -/
def whole? : Text → Option (Text × Text)
  | '0' :: r => some (['0'], r)
  | s => digits? s

/-- Reads a fraction, if one follows. -/
def fraction? : Text → Option (Text × Text)
  | '.' :: r => (digits? r).map fun (ds, rest) => ('.' :: ds, rest)
  | s => some ([], s)

/-- Reads the sign of an exponent, if there is one. -/
def exponentSign : Text → Text × Text
  | '+' :: r => (['+'], r)
  | '-' :: r => (['-'], r)
  | s => ([], s)

/-- Reads an exponent, if one follows. -/
def exponent? : Text → Option (Text × Text)
  | [] => some ([], [])
  | c :: r =>
    if c = 'e' || c = 'E' then
      let (sign, t) := exponentSign r
      (digits? t).map fun (ds, rest) => (c :: sign ++ ds, rest)
    else some ([], c :: r)

/-- Reads a number without its sign. -/
def magnitude? (s : Text) : Option (Text × Text) := do
  let (w, s) ← whole? s
  let (f, s) ← fraction? s
  let (e, s) ← exponent? s
  some (w ++ f ++ e, s)

/-- Reads a number. -/
def number? : Text → Option (Text × Text)
  | '-' :: r => (magnitude? r).map fun (l, rest) => ('-' :: l, rest)
  | s => magnitude? s

/-! ## Values -/

/-- Reads a value that has no parts: a word, a number or a string. -/
def scalar? (s : Text) : Option (Json × Text) :=
  match s with
  | '"' :: r => (stringRest r).map fun (t, rest) => (string t, rest)
  | 'n' :: r => (dropPrefix? "ull".toList r).map fun rest => (null, rest)
  | 't' :: r => (dropPrefix? "rue".toList r).map fun rest => (bool true, rest)
  | 'f' :: r => (dropPrefix? "alse".toList r).map fun rest => (bool false, rest)
  | _ => (number? s).map fun (l, rest) => (number l, rest)

/-- Reads the key of a member and the colon behind it. -/
def key? (s : Text) : Option (JsonString × Text) :=
  match skip s with
  | '"' :: r =>
    match stringRest r with
    | some (k, rest) =>
      match skip rest with
      | ':' :: rest => some (k, rest)
      | _ => none
    | none => none
  | _ => none

mutual

/-- Reads a value and the blanks before it. -/
def value (s : Text) : Option (Reading Json s) :=
  match hs : skip s with
  | [] => none
  | '[' :: r =>
    have hrs := length_lt_of_dropWhile_eq hs
    match hr : skip r with
    | ']' :: rest => some ⟨array [], rest, Nat.lt_trans (length_lt_of_dropWhile_eq hr) hrs⟩
    | _ => (items r).map fun x => (x.map array).widen (Nat.le_of_lt hrs)
  | '{' :: r =>
    have hrs := length_lt_of_dropWhile_eq hs
    match hr : skip r with
    | '}' :: rest => some ⟨object [], rest, Nat.lt_trans (length_lt_of_dropWhile_eq hr) hrs⟩
    | _ => (members r).map fun x => (x.map object).widen (Nat.le_of_lt hrs)
  | c :: r => Reading.of? s (scalar? (c :: r))
  termination_by 2 * s.length

/-- Reads the items of an array that has some, and its closing bracket. -/
def items (s : Text) : Option (Reading (List Json) s) :=
  match value s with
  | none => none
  | some ⟨v, r, h⟩ =>
    match hr : skip r with
    | ']' :: rest => some ⟨[v], rest, Nat.lt_trans (length_lt_of_dropWhile_eq hr) h⟩
    | ',' :: rest =>
      have hrest := Nat.lt_trans (length_lt_of_dropWhile_eq hr) h
      (items rest).map fun x => (x.map (v :: ·)).widen (Nat.le_of_lt hrest)
    | _ => none
  termination_by 2 * s.length + 1

/-- Reads the members of an object that has some, and its closing brace. -/
def members (s : Text) : Option (Reading (List (JsonString × Json)) s) :=
  match Reading.of? s (key? s) with
  | none => none
  | some ⟨k, t, ht⟩ =>
    match value t with
    | none => none
    | some ⟨v, r, h⟩ =>
      have hrs := Nat.lt_trans h ht
      match hr : skip r with
      | '}' :: rest => some ⟨[(k, v)], rest, Nat.lt_trans (length_lt_of_dropWhile_eq hr) hrs⟩
      | ',' :: rest =>
        have hrest := Nat.lt_trans (length_lt_of_dropWhile_eq hr) hrs
        (members rest).map fun x => (x.map ((k, v) :: ·)).widen (Nat.le_of_lt hrest)
      | _ => none
  termination_by 2 * s.length + 1

end

/-- The value of a document. -/
def parse? (s : Text) : Option Json :=
  match value s with
  | some ⟨v, rest, _⟩ => if (skip rest).isEmpty then some v else none
  | none => none

end ExportSurface.Json
