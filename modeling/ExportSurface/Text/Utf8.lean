import ExportSurface.Text.Basic

/-!
# UTF-8

Encoding writes each character as one to four bytes. Reading cuts bytes into well-formed sequences
and broken stretches (`Utf8.scan`). A broken stretch is the longest start of a well-formed sequence
that the next byte does not continue, or a single byte that starts none.

* `Utf8.decode?` accepts bytes without broken stretches.
* `Utf8.decodeLossy` puts U+FFFD in the place of each of them.
-/

namespace ExportSurface.Utf8

/-! ## Writing -/

/-- The bytes of one character. -/
def encodeChar (c : Char) : Bytes :=
  let n := c.toNat
  if n < 0x80 then [n.toUInt8]
  else if n < 0x800 then [(0xC0 + n / 64).toUInt8, (0x80 + n % 64).toUInt8]
  else if n < 0x10000 then
    [(0xE0 + n / 4096).toUInt8, (0x80 + n / 64 % 64).toUInt8, (0x80 + n % 64).toUInt8]
  else
    [(0xF0 + n / 262144).toUInt8, (0x80 + n / 4096 % 64).toUInt8, (0x80 + n / 64 % 64).toUInt8,
      (0x80 + n % 64).toUInt8]

/-- The bytes of a text. -/
def encode (t : Text) : Bytes := t.flatMap encodeChar

/-! ## Reading -/

/-- A stretch of bytes, read: a character, or bytes that are none. -/
inductive Piece where
  | scalar (c : Char)
  | broken
  deriving DecidableEq, Repr

/-- The bytes that may stand behind the first one of a sequence. -/
def isContinuation (b : UInt8) : Bool := 0x80 ≤ b && b ≤ 0xBF

/-- Whether `b` starts a sequence of several bytes that goes on with `b₁`. The narrower bounds keep
out overlong forms, surrogates and values above U+10FFFF. -/
def continues (b b₁ : UInt8) : Bool :=
  if b < 0xC2 then false
  else if b < 0xE0 then isContinuation b₁
  else if b = 0xE0 then 0xA0 ≤ b₁ && b₁ ≤ 0xBF
  else if b = 0xED then 0x80 ≤ b₁ && b₁ ≤ 0x9F
  else if b < 0xF0 then isContinuation b₁
  else if b = 0xF0 then 0x90 ≤ b₁ && b₁ ≤ 0xBF
  else if b < 0xF4 then isContinuation b₁
  else if b = 0xF4 then 0x80 ≤ b₁ && b₁ ≤ 0x8F
  else false

/-- The character of a sequence, from the value of its first byte and the continuation bytes. -/
def assemble (start : Nat) (more : List UInt8) : Char :=
  Char.ofNat (more.foldl (fun n b => n * 64 + (b.toNat - 0x80)) start)

/-- Cuts bytes into characters and broken stretches. -/
def scan : Bytes → List Piece
  | [] => []
  | b :: r =>
    if b < 0x80 then .scalar (assemble b.toNat []) :: scan r
    else match r with
      | [] => [.broken]
      | b₁ :: r₁ =>
        if !continues b b₁ then .broken :: scan (b₁ :: r₁)
        else if b < 0xE0 then .scalar (assemble (b.toNat - 0xC0) [b₁]) :: scan r₁
        else match r₁ with
          | [] => [.broken]
          | b₂ :: r₂ =>
            if !isContinuation b₂ then .broken :: scan (b₂ :: r₂)
            else if b < 0xF0 then .scalar (assemble (b.toNat - 0xE0) [b₁, b₂]) :: scan r₂
            else match r₂ with
              | [] => [.broken]
              | b₃ :: r₃ =>
                if !isContinuation b₃ then .broken :: scan (b₃ :: r₃)
                else .scalar (assemble (b.toNat - 0xF0) [b₁, b₂, b₃]) :: scan r₃

/-- The character of a piece, if it is one. -/
def Piece.scalar? : Piece → Option Char
  | .scalar c => some c
  | .broken => none

/-- The character shown for a piece: U+FFFD for a broken one. -/
def Piece.shown : Piece → Char
  | .scalar c => c
  | .broken => '\uFFFD'

/-- The text that the bytes encode, if they encode one. -/
def decode? (bs : Bytes) : Option Text := (scan bs).mapM Piece.scalar?

/-- The text of the bytes, with U+FFFD for each broken stretch. -/
def decodeLossy (bs : Bytes) : Text := (scan bs).map Piece.shown

end ExportSurface.Utf8
