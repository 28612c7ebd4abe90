import ExportSurface.Text.Basic

/-!
# Texts that commands print

`echo` and `printf` read escapes: a backslash writes characters that are hard to write otherwise, by a
letter or by up to three digits in base 8. A backslash before anything else stands for itself.

* `Printing.echoText` is what `echo` makes of its text.
* `Printing.formatted` is what `printf` makes of a format and arguments.
-/

namespace ExportSurface.Shell.Printing

/-! ## Escapes -/

/-- The characters that letters stand for. -/
def letters : List (Char × Char) :=
  [('\\', '\\'), ('a', '\x07'), ('b', '\x08'), ('f', '\x0c'), ('n', '\n'), ('r', '\x0d'), ('t', '\t'),
    ('v', '\x0b')]

/-- Whether a character is a digit in base 8. -/
def isOctal (c : Char) : Bool := '0' ≤ c && c ≤ '7'

/-- The character that is written after a backslash, and the text after it. -/
def escape (t : Text) : Char × Text :=
  let digits := (t.take 3).takeWhile isOctal
  if digits.isEmpty then
    match t with
    | c :: r =>
      match letters.lookup c with
      | some d => (d, r)
      | none => ('\\', t)
    | [] => ('\\', [])
  else (Char.ofNat (Nat.ofDigitChars 8 digits 0 % 256), t.drop digits.length)

/-! ## echo -/

/-- Reads escapes. A zero may stand before the digits of one, and `\c` ends everything. The flag says
whether the text ends everything. The number is that of the characters that may be read. -/
def unescape : Nat → Text → Text × Bool
  | 0, _ => ([], false)
  | _ + 1, [] => ([], false)
  | n + 1, c :: r =>
    if c ≠ '\\' then
      let (t, stops) := unescape n r
      (c :: t, stops)
    else if r.head? = some 'c' then ([], true)
    else
      let digits := match r with
        | '0' :: d :: _ => if isOctal d then r.tail else r
        | _ => r
      let (d, rest) := escape digits
      let (t, stops) := unescape n rest
      (d :: t, stops)

/-- What `echo` prints. -/
def echoText (words : List Text) : Text :=
  let (omitsEnd, words) := match words with
    | ['-', 'n'] :: words => (true, words)
    | words => (false, words)
  let t := join ' ' words
  let (t, stops) := unescape t.length t
  if omitsEnd || stops then t else t ++ ['\n']

/-! ## printf -/

/-- Follows a format once. Gives the text and the arguments that are left, or why the format is wrong. The
number is that of the characters that may be read. -/
def follow : Nat → Text → List Text → Except Text (Text × List Text)
  | 0, _, words => .ok ([], words)
  | _ + 1, [], words => .ok ([], words)
  | n + 1, c :: r, words => do
    let (start, r, words) ←
      if c = '\\' then
        let (c, r) := escape r
        pure ([c], r, words)
      else if c = '%' then
        match r with
        | [] => throw "missing format character".toList
        | d :: r =>
          if d = '%' then pure (['%'], r, words)
          else if d = 's' then pure (words.headD [], r, words.tail)
          else throw ('%' :: d :: ": invalid directive".toList)
      else pure ([c], r, words)
    let (t, words) ← follow n r words
    return (start ++ t, words)

/-- Follows a format until no argument is left. The number is that of the rounds. -/
def rounds (format : Text) : Nat → List Text → Except Text Text
  | 0, _ => .ok []
  | n + 1, words => do
    let (t, rest) ← follow format.length format words
    if rest.isEmpty ∨ rest.length = words.length then return t
    else return t ++ (← rounds format n rest)

/-- What `printf` prints. -/
def formatted (format : Text) (words : List Text) : Except Text Text :=
  rounds format (words.length + 1) words

end ExportSurface.Shell.Printing
