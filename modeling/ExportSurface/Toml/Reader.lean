import ExportSurface.Text.Reading
import ExportSurface.Toml.Moment
import ExportSurface.Toml.Number
import ExportSurface.Toml.Quoted
import ExportSurface.Toml.Table

/-!
# Reading TOML

A document is a sequence of lines: an assignment, the header of a table, the header of an element of
an array of tables, or nothing, each maybe with a comment. A value starts on the line of its key;
arrays and strings of several lines may end on a later one.

Arrays and inline tables nest up to seventy-nine deep and keys have up to seventy-nine parts.
-/

namespace ExportSurface.Toml

/-- The number of levels of nesting, and of parts of a key, that is too many. -/
def limit : Nat := 80

/-! ## Between values -/

/-- Drops the blanks at the start of a line. -/
abbrev skip (s : Text) : Text := s.dropWhile isLineBlank

/-- Drops a comment, if one follows. -/
def dropComment : Text → Text
  | '#' :: r => r.dropWhile isPlain
  | s => s

/-- What follows the end of a line that has nothing but blanks and a comment left. -/
def lineEnd? (s : Text) : Option Text :=
  match dropComment (skip s) with
  | [] => some []
  | t => dropNewline? t

/-- Drops blanks, line ends and comments, which may stand anywhere between the items of an array. -/
def gap : (inComment : Bool) → Text → Text
  | _, [] => []
  | _, '\n' :: r => gap false r
  | _, '\r' :: '\n' :: r => gap false r
  | true, c :: r => if isPlain c then gap true r else c :: r
  | false, c :: r =>
    if isLineBlank c then gap false r
    else if c = '#' then gap true r
    else c :: r

theorem length_gap_le (b : Bool) (s : Text) : (gap b s).length ≤ s.length := by
  fun_induction gap b s <;> simp only [List.length_cons, List.length_nil] at * <;> omega

theorem length_lt_of_gap_eq {s r : Text} {c : Char} (h : gap false s = c :: r) :
    r.length < s.length := by
  have := length_gap_le false s
  rw [h, List.length_cons] at this
  omega

/-! ## Keys -/

/-- The characters of keys without quotes. -/
def isBare (c : Char) : Bool := c.isAlphanum || c = '_' || c = '-'

/-- Reads one part of a key. -/
def keyPart? (s : Text) : Option (Text × Text) :=
  match s with
  | '"' :: r => basic r
  | '\'' :: r => literal r
  | _ =>
    match s.takeWhile isBare with
    | [] => none
    | k => some (k, s.dropWhile isBare)

/-- Reads the parts of a key with the blanks around them. -/
def keyParts (s : Text) : Option (Reading (List Text) s) :=
  match Reading.of? s (keyPart? (skip s)) with
  | none => none
  | some ⟨k, r, h⟩ =>
    match hr : skip r with
    | '.' :: rest =>
      have := length_lt_of_dropWhile_eq hr
      (keyParts rest).map fun x => (x.map (k :: ·)).widen (Nat.le_of_lt (Nat.lt_trans this h))
    | _ => some ⟨[k], skip r, Nat.lt_of_le_of_lt (length_dropWhile_le _ r) h⟩
  termination_by s.length
  decreasing_by omega

/-- Reads a key that is not too long. -/
def key? (s : Text) : Option (List Text × Text) :=
  match keyParts s with
  | some ⟨k, rest, _⟩ => if k.length < limit then some (k, rest) else none
  | none => none

/-- Reads a key, the equals sign and the blanks behind it. -/
def keyEquals? (s : Text) : Option (List Text × Text) :=
  (key? s).bind fun (k, rest) => (dropPrefix? ['='] rest).map fun rest => (k, skip rest)

/-! ## Values -/

/-- Reads a value that has no parts. -/
def scalar? (s : Text) : Option (Toml × Text) :=
  match s with
  | [] => none
  | c :: r =>
    if c = '"' || c = '\'' then (string? s).map fun (t, rest) => (string t, rest)
    else if c = '+' || c = '-' || c.isDigit then
      (moment? s).orElse fun _ => (float? s).orElse fun _ => integer? s
    else if c = 't' then (dropPrefix? "rue".toList r).map (boolean true, ·)
    else if c = 'f' then (dropPrefix? "alse".toList r).map (boolean false, ·)
    else if c = 'i' || c = 'n' then wordFloat? s
    else none

/-- The inline table of assignments in order. -/
def ofAssignments? (l : List (List Text × Toml)) : Option Toml :=
  (l.foldlM (fun es a => assign? a.1 a.2 es) []).map inline

mutual

/-- Reads a value, `depth` levels inside arrays and inline tables. -/
def value (depth : Nat) (s : Text) : Option (Reading Toml s) :=
  match s with
  | [] => none
  | '[' :: r =>
    if limit ≤ depth + 1 then none
    else
      match hr : gap false r with
      | ']' :: rest =>
        have := length_lt_of_gap_eq hr
        some ⟨array [], rest, Nat.lt_succ_of_lt this⟩
      | _ => (items (depth + 1) r).map fun x => (x.map array).widen (Nat.le_succ _)
  | '{' :: r =>
    if limit ≤ depth + 1 then none
    else
      match hr : skip r with
      | '}' :: rest =>
        have := length_lt_of_dropWhile_eq hr
        some ⟨inline [], rest, Nat.lt_succ_of_lt this⟩
      | _ =>
        match assignments (depth + 1) r with
        | none => none
        | some ⟨l, rest, h⟩ =>
          (ofAssignments? l).map fun v => ⟨v, rest, Nat.lt_succ_of_lt h⟩
  | c :: r => Reading.of? (c :: r) (scalar? (c :: r))
  termination_by 2 * s.length
  decreasing_by all_goals simp only [List.length_cons]; omega

/-- Reads the items of an array that has some, and its closing bracket. -/
def items (depth : Nat) (s : Text) : Option (Reading (List Toml) s) :=
  have hs := length_gap_le false s
  match value depth (gap false s) with
  | none => none
  | some ⟨v, r, h⟩ =>
    have hrs := Nat.lt_of_lt_of_le h hs
    match hr : gap false r with
    | ']' :: rest => some ⟨[v], rest, Nat.lt_trans (length_lt_of_gap_eq hr) hrs⟩
    | ',' :: rest =>
      have hrest := Nat.lt_trans (length_lt_of_gap_eq hr) hrs
      match he : gap false rest with
      | ']' :: rest' => some ⟨[v], rest', Nat.lt_trans (length_lt_of_gap_eq he) hrest⟩
      | _ => (items depth rest).map fun x => (x.map (v :: ·)).widen (Nat.le_of_lt hrest)
    | _ => none
  termination_by 2 * s.length + 1
  decreasing_by all_goals omega

/-- Reads the assignments of an inline table that has some, and its closing brace. -/
def assignments (depth : Nat) (s : Text) : Option (Reading (List (List Text × Toml)) s) :=
  match Reading.of? s (keyEquals? s) with
  | none => none
  | some ⟨k, t, ht⟩ =>
    match value depth t with
    | none => none
    | some ⟨v, r, h⟩ =>
      have hrs := Nat.lt_trans h ht
      match hr : skip r with
      | '}' :: rest => some ⟨[(k, v)], rest, Nat.lt_trans (length_lt_of_dropWhile_eq hr) hrs⟩
      | ',' :: rest =>
        have hrest := Nat.lt_trans (length_lt_of_dropWhile_eq hr) hrs
        (assignments depth rest).map fun x => (x.map ((k, v) :: ·)).widen (Nat.le_of_lt hrest)
      | _ => none
  termination_by 2 * s.length + 1
  decreasing_by all_goals omega

end

/-! ## Lines -/

/-- What a line of a document says. -/
inductive Line where
  /-- Nothing, or a comment. -/
  | empty
  /-- The header of a table. -/
  | table (path : List Text)
  /-- The header of an element of an array of tables. -/
  | element (path : List Text)
  | assignment (path : List Text) (v : Toml)

/-- Reads the rest of a header and its line, up to the mark that closes it. -/
def header? (mark s : Text) : Option (List Text × Text) := do
  let (path, s) ← key? s
  let s ← dropPrefix? mark s
  some (path, ← lineEnd? s)

/-- Reads an assignment and its line. -/
def assignment? (s : Text) : Option (Line × Text) := do
  let (path, s) ← keyEquals? s
  let ⟨v, s, _⟩ ← value 0 s
  some (.assignment path v, ← lineEnd? s)

/-- Reads a line. -/
def line? (s : Text) : Option (Line × Text) :=
  match lineEnd? s with
  | some rest => some (.empty, rest)
  | none =>
    match skip s with
    | '[' :: '[' :: r => (header? "]]".toList r).map fun (path, rest) => (.element path, rest)
    | '[' :: r => (header? "]".toList r).map fun (path, rest) => (.table path, rest)
    | t => assignment? t

/-- Reads lines up to the end of the text. -/
def lines? (s : Text) : Option (List Line) :=
  match s with
  | [] => some []
  | c :: r =>
    match Reading.of? (c :: r) (line? (c :: r)) with
    | none => none
    | some ⟨l, rest, shorter⟩ =>
      have : rest.length < (c :: r).length := shorter
      (lines? rest).map (l :: ·)
  termination_by s.length
  decreasing_by assumption

/-! ## Documents -/

/-- What the lines read so far made: the root table, and the header under which assignments stand. -/
structure Document where
  root : Entries
  header : List Text

/-- Adds a line to a document. -/
def Document.add? (d : Document) : Line → Option Document
  | .empty => some d
  | .table path => (declareTable? path d.root).map (⟨·, path⟩)
  | .element path => (declareElement? path d.root).map (⟨·, path⟩)
  | .assignment path v => (assignIn? d.header path v d.root).map (⟨·, d.header⟩)

/-- The root table of lines. -/
def ofLines? (l : List Line) : Option Entries :=
  (l.foldlM Document.add? ⟨[], []⟩).map Document.root

/-- The text without a byte order mark at its start. -/
def dropByteOrderMark : Text → Text
  | '\uFEFF' :: r => r
  | s => s

/-- The root table of a document. -/
def parse? (s : Text) : Option Entries := (lines? (dropByteOrderMark s)).bind ofLines?

end ExportSurface.Toml
