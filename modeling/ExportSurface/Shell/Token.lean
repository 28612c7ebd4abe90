import ExportSurface.Text.Basic

/-!
# Tokens of scripts

The shell takes a script apart into tokens: words, operators, redirections and line ends. A word is a row
of parts, each of which says whether it is quoted. The tokenizer is a machine that takes one character
at a time, so what it makes of a text depends only on the state in which it meets the text
(`Tokenizer.run_append`).

* `Tokenizer.step` takes a character.
* `tokens` are the tokens of a whole script.
-/

namespace ExportSurface.Shell

/-! ## Words -/

/-- A part of a word. -/
inductive Part where
  | char (c : Char) (isQuoted : Bool)
  /-- The start of a quotation, which makes a word even if nothing is in it. -/
  | quotation
  /-- The value of a parameter. -/
  | parameter (name : Text) (isQuoted : Bool)
  /-- The output of a script. -/
  | output (script : Text) (isQuoted : Bool)
  /-- The value of an arithmetic expression. -/
  | sum (expression : Text) (isQuoted : Bool)
  deriving DecidableEq, Repr

/-- A word, as it is written. -/
abbrev Word := List Part

/-- The text of a word that holds bare characters only. -/
def plainText? : Word → Option Text
  | [] => some []
  | .char c false :: r => (plainText? r).map (c :: ·)
  | _ :: _ => none

/-- The characters of a word. -/
def bareText (w : Word) : Text :=
  w.filterMap fun
    | .char c _ => some c
    | _ => none

/-- Whether a part is quoted. -/
def Part.isQuoted : Part → Bool
  | .quotation => true
  | .char _ q | .parameter _ q | .output _ q | .sum _ q => q

/-- The characters that a name may start with. -/
def isNameStart (c : Char) : Bool := c.isAlpha || c = '_'

/-- The characters that a name is made of. -/
def isNameChar (c : Char) : Bool := c.isAlphanum || c = '_'

/-- Whether a text can name a variable. -/
def isName : Text → Bool
  | [] => false
  | c :: r => isNameStart c && r.all isNameChar

/-- The characters that name a parameter on their own. -/
def isParameterChar (c : Char) : Bool := c.isDigit || c ∈ "@*#?$!-".toList

/-! ## Tokens -/

/-- A token of a script. -/
inductive Token where
  | word (w : Word)
  | operator (t : Text)
  /-- The sign of a redirection, with the descriptor that it is about. -/
  | redirection (descriptor : Nat) (sign : Text)
  | newline
  /-- A text that follows the line of the command that reads it. In a quoted one nothing has a meaning of
  its own. -/
  | document (t : Text) (isQuoted : Bool)
  /-- The script ends in the middle of a token. -/
  | unfinished (complaint : Text)
  | endOfScript
  deriving DecidableEq, Repr

/-- A token and the line where it ends. -/
structure Lexeme where
  line : Nat
  token : Token
  deriving DecidableEq, Repr

/-- What is written with characters that are no part of bare words. -/
def operators : List Text :=
  ["&&", "||", ";;", "<<", ">>", "<&", ">&", "<<-"].map String.toList

/-- The characters that operators and redirections start with. -/
def isOperatorChar (c : Char) : Bool := c ∈ "&|;()<>".toList

/-- The descriptor that a redirection is about if none is given. -/
def defaultDescriptor (sign : Text) : Nat := if sign.head? = some '<' then 0 else 1

/-! ## The machine -/

/-- Where in a word the tokenizer is. -/
inductive Context where
  | bare
  | quotes
  | document
  deriving DecidableEq, Repr

/-- Whether the characters of a context are quoted. -/
def Context.isQuoted (c : Context) : Bool := c ≠ bare

/-- What the tokenizer is in the middle of. -/
inductive Stage where
  | blank
  | comment
  | operator (descriptor? : Option Nat) (t : Text)
  | within (c : Context)
  /-- Between single quotes. -/
  | literal
  | backslash (c : Context)
  | dollar (c : Context)
  | name (c : Context) (t : Text)
  /-- Between the braces around the name of a parameter. -/
  | braces (c : Context) (t : Text)
  /-- Between parentheses, some of which are nested, and perhaps between quotes inside them. -/
  | parentheses (c : Context) (depth : Nat) (quote? : Option Char) (t : Text)
  /-- In a text that follows a line, with its lines so far and the one that was begun. -/
  | document (lines line : Text)
  deriving DecidableEq, Repr

/-- The mark at the end of a text that follows a line. -/
structure Mark where
  text : Text
  /-- Nothing in the text has a meaning of its own. -/
  isQuoted : Bool
  /-- Tabs at the start of a line do not count. -/
  dropsTabs : Bool
  deriving DecidableEq, Repr

/-- The state of the tokenizer. -/
structure Tokenizer where
  stage : Stage := .blank
  line : Nat := 1
  /-- The parts of the word that was begun. -/
  word : Word := []
  /-- The next word is the mark of a text, without the tabs if there is such a sign. -/
  dropsTabs? : Option Bool := none
  /-- The marks of the texts that follow the line. -/
  due : List Mark := []
  deriving DecidableEq, Repr

namespace Tokenizer

variable (s : Tokenizer)

/-- Adds parts to the word. -/
def add (ps : Word) (stage : Stage) : Tokenizer := { s with word := s.word ++ ps, stage }

/-- Goes on with the next line. -/
def nextLine : Tokenizer := { s with line := s.line + 1 }

/-! ## Ends of tokens -/

/-- The end of an operator. -/
def endOperator (descriptor? : Option Nat) (t : Text) : List Lexeme × Tokenizer :=
  let s' := { s with stage := .blank }
  if t.head? = some '<' ∨ t.head? = some '>' then
    ([⟨s.line, .redirection (descriptor?.getD (defaultDescriptor t)) t⟩],
      { s' with
        dropsTabs? :=
          if t = "<<".toList then some false else if t = "<<-".toList then some true else none })
  else ([⟨s.line, .operator t⟩], s')

/-- The end of a word. -/
def endWord : List Lexeme × Tokenizer :=
  let s' := { s with stage := .blank, word := [], dropsTabs? := none }
  ([⟨s.line, .word s.word⟩],
    match s.dropsTabs? with
    | none => s'
    | some dropsTabs =>
      { s' with due := s.due ++ [⟨bareText s.word, s.word.any Part.isQuoted, dropsTabs⟩] })

/-- The end of a line. If texts are due, they follow. -/
def endLine : List Lexeme × Tokenizer :=
  ([⟨s.line + 1, .newline⟩],
    { s.nextLine with stage := if s.due.isEmpty then .blank else .document [] [] })

/-! ## Characters -/

/-- Takes a bare character of a word. -/
def bareChar (c : Char) : Tokenizer :=
  if c = '\'' then s.add [.quotation] .literal
  else if c = '"' then s.add [.quotation] (.within .quotes)
  else if c = '\\' then s.add [] (.backslash .bare)
  else if c = '$' then s.add [] (.dollar .bare)
  else s.add [.char c false] (.within .bare)

/-- Takes a character between tokens. -/
def blankChar (c : Char) : List Lexeme × Tokenizer :=
  if c = ' ' ∨ c = '\t' then ([], s)
  else if c = '\n' then s.endLine
  else if c = '#' then ([], { s with stage := .comment })
  else if isOperatorChar c then ([], { s with stage := .operator none [c] })
  else ([], s.bareChar c)

/-- The descriptor that the word names if a redirection follows it at once. -/
def descriptor? : Option Nat :=
  match s.word with
  | [.char d false] => if d.isDigit then some (d.toNat - 48) else none
  | _ => none

/-- Takes a bare character after the start of a word. -/
def wordChar (c : Char) : List Lexeme × Tokenizer :=
  if (c = '<' ∨ c = '>') ∧ s.descriptor?.isSome then
    ([], { s with stage := .operator s.descriptor? [c], word := [] })
  else if c = ' ' ∨ c = '\t' ∨ c = '\n' ∨ isOperatorChar c then
    let (ts, s) := s.endWord
    let (ts', s) := s.blankChar c
    (ts ++ ts', s)
  else ([], s.bareChar c)

/-- Takes a character between double quotes, or one in a text that is read like what stands there. -/
def quotedChar (context : Context) (c : Char) : Tokenizer :=
  if c = '"' ∧ context = .quotes then s.add [] (.within .bare)
  else if c = '\\' then s.add [] (.backslash context)
  else if c = '$' then s.add [] (.dollar context)
  else
    let s := s.add [.char c true] (.within context)
    if c = '\n' then s.nextLine else s

/-- Takes a character of a word in a context. -/
def charWithin (context : Context) (c : Char) : List Lexeme × Tokenizer :=
  match context with
  | .bare => s.wordChar c
  | _ => ([], s.quotedChar context c)

/-- Takes the character after a backslash. A line end there joins two lines. -/
def escapedChar (context : Context) (c : Char) : Tokenizer :=
  if c = '\n' then
    s.nextLine.add [] (if context = .bare ∧ s.word.isEmpty then .blank else .within context)
  else if context = .bare ∨ c ∈ "$\\`".toList ∨ c = '"' ∧ context = .quotes then
    s.add [.char c true] (.within context)
  else s.add [.char '\\' true, .char c true] (.within context)

/-- Takes the character after a `$`. -/
def dollarChar (context : Context) (c : Char) : List Lexeme × Tokenizer :=
  if c = '\x7b' then ([], s.add [] (.braces context []))
  else if c = '(' then ([], s.add [] (.parentheses context 0 none []))
  else if isNameStart c then ([], s.add [] (.name context [c]))
  else if isParameterChar c then
    ([], s.add [.parameter [c] context.isQuoted] (.within context))
  else (s.add [.char '$' context.isQuoted] (.within context)).charWithin context c

/-- The part that stands between parentheses: an arithmetic expression if these are doubled. -/
def parenthesized (context : Context) (t : Text) : Part :=
  if t.head? = some '(' ∧ t.getLast? = some ')' then .sum t.tail.dropLast context.isQuoted
  else .output t context.isQuoted

/-- Takes a character between parentheses. -/
def nestedChar (context : Context) (depth : Nat) (quote? : Option Char) (t : Text) (c : Char) :
    Tokenizer :=
  let s := if c = '\n' then s.nextLine else s
  let inside (depth : Nat) (quote? : Option Char) : Tokenizer :=
    s.add [] (.parentheses context depth quote? (t ++ [c]))
  if quote? = some c then inside depth none
  else if quote?.isSome then inside depth quote?
  else if c = '\'' ∨ c = '"' then inside depth (some c)
  else if c = '(' then inside (depth + 1) none
  else if c ≠ ')' then inside depth none
  else match depth with
    | 0 => s.add [parenthesized context t] (.within context)
    | depth + 1 => inside depth none

/-- Takes a character of a text that follows a line. -/
def documentChar (lines line : Text) (c : Char) : List Lexeme × Tokenizer :=
  match s.due with
  | [] => ([], { s with stage := .blank })
  | mark :: due =>
    if c ≠ '\n' then ([], { s with stage := .document lines (line ++ [c]) })
    else
      let s := s.nextLine
      let line := if mark.dropsTabs then line.dropWhile (· = '\t') else line
      if line = mark.text then
        ([⟨s.line, .document lines mark.isQuoted⟩],
          { s with due, stage := if due.isEmpty then .blank else .document [] [] })
      else ([], { s with stage := .document (lines ++ line ++ ['\n']) [] })

/-- Takes a character. -/
def step (c : Char) : List Lexeme × Tokenizer :=
  match s.stage with
  | .blank => s.blankChar c
  | .comment => if c = '\n' then s.endLine else ([], s)
  | .operator descriptor? t =>
    if t ++ [c] ∈ operators then ([], { s with stage := .operator descriptor? (t ++ [c]) })
    else
      let (ts, s) := s.endOperator descriptor? t
      let (ts', s) := s.blankChar c
      (ts ++ ts', s)
  | .within context => s.charWithin context c
  | .literal =>
    if c = '\'' then ([], s.add [] (.within .bare))
    else
      let s := s.add [.char c true] .literal
      ([], if c = '\n' then s.nextLine else s)
  | .backslash context => ([], s.escapedChar context c)
  | .dollar context => s.dollarChar context c
  | .name context t =>
    if isNameChar c then ([], s.add [] (.name context (t ++ [c])))
    else (s.add [.parameter t context.isQuoted] (.within context)).charWithin context c
  | .braces context t =>
    ([], if c = '\x7d' then s.add [.parameter t context.isQuoted] (.within context)
      else s.add [] (.braces context (t ++ [c])))
  | .parentheses context depth quote? t => ([], s.nestedChar context depth quote? t c)
  | .document lines line => s.documentChar lines line c

/-- Takes characters in order. -/
def run : Tokenizer → Text → List Lexeme × Tokenizer
  | s, [] => ([], s)
  | s, c :: r =>
    let (ts, s) := s.step c
    let (ts', s) := run s r
    (ts ++ ts', s)

theorem run_append (s : Tokenizer) (t u : Text) :
    s.run (t ++ u) = ((s.run t).1 ++ ((s.run t).2.run u).1, ((s.run t).2.run u).2) := by
  induction t generalizing s with
  | nil => simp [run]
  | cons c r ih => simp [run, ih]

/-! ## The end of the script -/

/-- The word with what was begun last taken for what it is. -/
def settledWord : Word :=
  match s.stage with
  | .backslash c => s.word ++ [.char '\\' c.isQuoted]
  | .dollar c => s.word ++ [.char '$' c.isQuoted]
  | .name c t => s.word ++ [.parameter t c.isQuoted]
  | _ => s.word

/-- The tokens that the end of the script ends. -/
def finish : List Lexeme :=
  let unfinished (complaint : String) : List Lexeme := [⟨s.line, .unfinished complaint.toList⟩]
  let last : List Lexeme := match s.stage with
    | .blank | .comment => []
    | .operator descriptor? t => (s.endOperator descriptor? t).1
    | .within .bare | .backslash .bare | .dollar .bare | .name .bare _ =>
      ({ s with word := s.settledWord }.endWord).1
    | .document lines line =>
      match (s.documentChar lines line '\n').1 with
      | [] => [⟨s.line, .document (lines ++ line) (s.due.head?.any Mark.isQuoted)⟩]
      | ts => ts
    | .braces _ _ => unfinished "Missing \x27\x7d\x27"
    | .parentheses _ _ _ _ => unfinished "end of file unexpected (expecting \")\")"
    | _ => unfinished "Unterminated quoted string"
  last ++ [⟨s.line, .endOfScript⟩]

end Tokenizer

/-! ## Scripts -/

/-- A text as a word that is quoted but for the parts that stand for something else. -/
def documentWord (t : Text) : Word :=
  (Tokenizer.run { stage := .within .document } t).2.settledWord

/-- The texts that follow lines, in order. -/
def documents (ts : List Lexeme) : List Word :=
  ts.filterMap fun
    | ⟨_, .document t isQuoted⟩ =>
      some (if isQuoted then t.map (Part.char · true) else documentWord t)
    | _ => none

/-- Puts the texts that follow lines in the places of their marks. -/
def placeDocuments : List Word → List Lexeme → List Lexeme
  | d :: ds, ⟨n, .redirection k sign⟩ :: ⟨m, .word w⟩ :: ts =>
    if sign.take 2 = "<<".toList then
      ⟨n, .redirection k sign⟩ :: ⟨m, .word d⟩ :: placeDocuments ds ts
    else ⟨n, .redirection k sign⟩ :: ⟨m, .word w⟩ :: placeDocuments (d :: ds) ts
  | ds, ⟨n, .document _ _⟩ :: ts => ⟨n, .newline⟩ :: placeDocuments ds ts
  | ds, t :: ts => t :: placeDocuments ds ts
  | _, [] => []

/-- The tokens of a script. -/
def tokens (script : Text) : List Lexeme :=
  let (ts, s) := Tokenizer.run {} script
  let ts := ts ++ s.finish
  placeDocuments (documents ts) ts

end ExportSurface.Shell
