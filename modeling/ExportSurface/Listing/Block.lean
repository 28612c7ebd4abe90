import ExportSurface.Text.Blank
import ExportSurface.Text.Word

/-!
# Blocks of a listing

A block is a marker, blanks, an opening brace, a body without closing braces, and a closing brace.
The marker counts only where no word character stands before it. A body never reaches over a
closing brace, so each stretch that a closing brace ends holds at most one block, which opens at
the first marker of the stretch that an opening brace follows.

* `Listing.stretches` are the stretches, `Listing.body?` is the block of one, `Listing.bodies`
  are the bodies of a whole listing in order.
-/

namespace ExportSurface.Listing

/-- The stretches of a text that a closing brace ends, in order. What follows the last closing
brace is none. -/
def stretches (raw : Text) : List Text := (pieces '}' raw).dropLast

/-- What follows a marker, blanks and an opening brace at the start of a text. -/
def opened? (marker s : Text) : Option Text :=
  (dropPrefix? marker s).bind fun r => dropPrefix? ['{'] (r.dropWhile isBlank)

/-- The body of the first block that opens in a text. `afterWord` says whether a word character
stands before the text. -/
def body? (marker : Text) : (afterWord : Bool) → Text → Option Text
  | _, [] => none
  | true, c :: r => body? marker (isWordChar c) r
  | false, c :: r =>
    match opened? marker (c :: r) with
    | some body => some body
    | none => body? marker (isWordChar c) r

/-- The bodies of the blocks of a listing, in order. -/
def bodies (marker raw : Text) : List Text := (stretches raw).filterMap (body? marker false)

end ExportSurface.Listing
