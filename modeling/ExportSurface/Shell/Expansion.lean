import ExportSurface.Shell.Action

/-!
# Expanding words

An expanded word is a row of characters, of which those that come from a bare part may divide it into
fields. A word that is nothing but the parameters between quotes gives a field for each of them.

* `Expansion.single` expands a word to one text.
* `Expansion.fields` expands a word to the words of a command.
* `Pattern.fits` compares a text with a pattern.
-/

namespace ExportSurface.Shell

/-- A character of an expanded word, or the start of a quotation. -/
inductive Item where
  | char (c : Char) (isQuoted divides : Bool)
  | quotation
  deriving DecidableEq, Repr

/-- The characters that divide fields. -/
def blanks : Text := " \t\n".toList

/-- Runs a script and gives its output. -/
abbrev Taker := Text → Action Text

namespace Expansion

/-! ## Sums -/

/-- The number that stands in an arithmetic expression, perhaps as the value of a variable. -/
def operand (expression t : Text) : Action Nat := do
  let t := dropTrailing (· ∈ blanks) (t.dropWhile fun c => c ∈ blanks || c = '$')
  let s ← Action.shell
  let t := if isName t then (s.value? t).getD ['0'] else t
  if t.isEmpty ∨ !t.all Char.isDigit then
    Action.fault ("arithmetic expression: expecting primary: ".toList ++ inQuotes expression)
  return Nat.ofDigitChars 10 t 0

/-- The value of a sum of products. -/
def sum (expression : Text) : Action Text := do
  let n ← (pieces '+' expression).foldlM (fun n t => do
    return n + (← (pieces '*' t).foldlM (fun m f => do return m * (← operand expression f)) 1)) 0
  return Nat.toDigits 10 n

/-! ## Words -/

/-- Whether a text can name a parameter. -/
def isParameter (name : Text) : Bool :=
  match name with
  | [c] => isParameterChar c || isNameStart c
  | _ => isName name || name ≠ [] && name.all Char.isDigit

section

variable (output : Taker)

/-- The text that a part of a word stands for. -/
def value : Part → Action Text
  | .char c _ => return [c]
  | .quotation => return []
  | .output script _ => output script
  | .sum expression _ => sum expression
  | .parameter name _ => do
    if !isParameter name then Action.fault "Bad substitution".toList
    match (← Action.shell).value? name with
    | some t => return t
    | none => do
      if ← Action.isOn 'u' then Action.fault (name ++ ": parameter not set".toList)
      return []

/-- Expands a word to one text. -/
def single (w : Word) : Action Text := do return (← w.mapM (value output)).flatten

/-- Expands a part of a word. -/
def part : Part → Action (List Item)
  | .char c q => return [.char c q false]
  | .quotation => return [.quotation]
  | p => do return (← value output p).map fun c => .char c p.isQuoted (!p.isQuoted)

/-- Expands a word. -/
def items (w : Word) : Action (List Item) := do return (← w.mapM (part output)).flatten

/-- Divides an expanded word, of which a field may have been begun, into fields. -/
def divide : Option Text → List Item → List Text
  | field?, [] => field?.toList
  | field?, .quotation :: is => divide (some (field?.getD [])) is
  | field?, .char c _ divides :: is =>
    if divides && c ∈ blanks then field?.toList ++ divide none is
    else divide (some (field?.getD [] ++ [c])) is

/-- Expands a word to the words of a command. -/
def fields (w : Word) : Action (List Text) := do
  if w = [.quotation, .parameter ['@'] true] then return (← Action.shell).parameters
  else return divide none (← items output w)

/-- Expands the word of a redirection. -/
def target : Redirection → Action Action.Target
  | .file d use w => do return .file d use (← single output w)
  | .copy d w => do return .copy d (← single output w)
  | .document d w => do return .document d (← single output w)

end

end Expansion

/-! ## Patterns -/

/-- Whether a text fits a pattern, in which `?` stands for a character and `*` for any text. -/
def Pattern.fits : List Item → Text → Bool
  | [], t => t.isEmpty
  | .quotation :: is, t => Pattern.fits is t
  | .char c isQuoted _ :: is, t =>
    if c = '*' && !isQuoted then
      (List.range (t.length + 1)).any fun n => Pattern.fits is (t.drop n)
    else match t with
      | [] => false
      | d :: t => (c = d || c = '?' && !isQuoted) && Pattern.fits is t

end ExportSurface.Shell
