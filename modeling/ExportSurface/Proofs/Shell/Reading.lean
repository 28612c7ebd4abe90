import ExportSurface.Shell.Command

/-!
# Reading plain lines of scripts

A plain line holds words and redirections only, and its first word is no keyword. The parser makes one
simple command of it, whatever follows (`nextCommand?_lineOf`).

Characters that mean nothing to the tokenizer make words, and blanks divide them
(`Tokenizer.run_words`).
-/

namespace ExportSurface.Shell

/-! ## Words -/

/-- The characters that mean nothing to the tokenizer, wherever they stand in a bare word. -/
def isOrdinary (c : Char) : Bool := c ∉ " \t\n'\"\\$#\x00".toList && !isOperatorChar c

/-- A word that is written without quotes. -/
def bareWord (t : Text) : Word := t.map (Part.char · false)

/-- A text that is a word on its own. -/
def IsOrdinaryWord (t : Text) : Prop := t ≠ [] ∧ ∀ c ∈ t, isOrdinary c

namespace Tokenizer

variable {c : Char} {t : Text}

theorem run_cons (s : Tokenizer) (c : Char) (r : Text) :
    s.run (c :: r) = ((s.step c).1 ++ ((s.step c).2.run r).1, ((s.step c).2.run r).2) := rfl

theorem bareChar_of_ordinary (s : Tokenizer) (h : isOrdinary c) :
    s.bareChar c = s.add [.char c false] (.within .bare) := by
  simp only [isOrdinary, Bool.and_eq_true, decide_eq_true_eq] at h
  have := h.1
  simp_all [bareChar]

theorem step_of_ordinary (s : Tokenizer) (hs : s.stage = .within .bare) (h : isOrdinary c) :
    s.step c = ([], s.add [.char c false] (.within .bare)) := by
  have hb := bareChar_of_ordinary s h
  simp only [isOrdinary, Bool.and_eq_true, decide_eq_true_eq] at h
  obtain ⟨h₁, h₂⟩ := h
  have : c ≠ '<' ∧ c ≠ '>' := by
    constructor <;> rintro rfl <;> simp [isOperatorChar] at h₂
  simp_all [step, charWithin, wordChar]

theorem run_within (s : Tokenizer) (hs : s.stage = .within .bare) (ht : ∀ c ∈ t, isOrdinary c) :
    s.run t = ([], { s with word := s.word ++ bareWord t }) := by
  induction t generalizing s with
  | nil => simp [run, bareWord]
  | cons c r ih =>
    have hstep := step_of_ordinary s hs (ht c (by simp))
    have hrest := ih (s.add [.char c false] (.within .bare)) rfl fun c hc => ht c (by simp [hc])
    rw [run_cons, hstep, hrest]
    simp [add, bareWord, hs]

/-- A word ends where a blank or a line end follows. -/
theorem run_word (ht : IsOrdinaryWord t) (n : Nat) (hc : c = ' ' ∨ c = '\n') (r : Text) :
    run { line := n } (t ++ c :: r) =
      (⟨n, .word (bareWord t)⟩ :: (run { line := n } (c :: r)).1,
        (run { line := n } (c :: r)).2) := by
  obtain ⟨hne, ht⟩ := ht
  obtain ⟨d, t, rfl⟩ := List.exists_cons_of_ne_nil hne
  have hd := ht d (by simp)
  have hfirst : step { line := n } d =
      ([], { stage := .within .bare, line := n, word := [.char d false] }) := by
    have hb := bareChar_of_ordinary { line := n } hd
    simp only [isOrdinary, Bool.and_eq_true, decide_eq_true_eq] at hd
    obtain ⟨h₁, h₂⟩ := hd
    simp_all [step, blankChar, add]
  have hrest := run_within { stage := .within .bare, line := n, word := [.char d false] } rfl
    fun c hc => ht c (List.mem_cons_of_mem d hc)
  have hend : (step { stage := .within .bare, line := n, word := bareWord (d :: t) } c) =
      (⟨n, .word (bareWord (d :: t))⟩ :: (step { line := n } c).1, (step { line := n } c).2) := by
    rcases hc with rfl | rfl <;> simp [step, charWithin, wordChar, endWord]
  have hword : run { line := n } (d :: t) =
      ([], { stage := .within .bare, line := n, word := bareWord (d :: t) }) := by
    rw [run_cons, hfirst, hrest]
    simp [bareWord]
  rw [run_append, hword, run_cons, run_cons, hend]
  simp

/-- Blanks divide words. -/
theorem run_words (n : Nat) {ws : List Text} (hws : ∀ t ∈ ws, IsOrdinaryWord t) (r : Text) :
    run { line := n } (ws.flatMap (· ++ [' ']) ++ r) =
      (ws.map (fun t => ⟨n, .word (bareWord t)⟩) ++ (run { line := n } r).1,
        (run { line := n } r).2) := by
  induction ws with
  | nil => simp
  | cons t ws ih =>
    have hblank : ∀ u, run { line := n } (' ' :: u) = run { line := n } u := fun u => rfl
    have := ih fun u hu => hws u (by simp [hu])
    have hword := run_word (hws t (by simp)) n (.inl rfl) (ws.flatMap (· ++ [' ']) ++ r)
    simp_all

end Tokenizer

/-- No text follows the line of these tokens. -/
def HasNoDocument (ts : List Lexeme) : Prop :=
  ∀ l ∈ ts, ∀ t isQuoted, l.token ≠ .document t isQuoted

theorem HasNoDocument.append {ts us : List Lexeme} (ht : HasNoDocument ts) (hu : HasNoDocument us) :
    HasNoDocument (ts ++ us) :=
  List.forall_mem_append.2 ⟨ht, hu⟩

theorem documents_eq_nil {ts : List Lexeme} (h : HasNoDocument ts) : documents ts = [] := by
  refine List.filterMap_eq_nil_iff.2 fun l hl => ?_
  have := h l hl
  obtain ⟨n, token⟩ := l
  cases token <;> simp_all

theorem placeDocuments_nil {ts : List Lexeme} (h : HasNoDocument ts) :
    placeDocuments [] ts = ts := by
  induction ts with
  | nil => simp [placeDocuments]
  | cons l ts ih =>
    have hts := ih fun l hl => h l (by simp [hl])
    have hl := h l (by simp)
    obtain ⟨n, token⟩ := l
    cases token <;> simp_all [placeDocuments]

/-! ## Parsers -/

namespace Parser

variable {α β : Type} {ts : List Lexeme}

@[simp]
theorem bind_apply (p : Parser α) (f : α → Parser β) :
    (p >>= f) ts = (p ts).bind fun r => f r.1 r.2 := rfl

@[simp]
theorem pure_apply (a : α) : (pure a : Parser α) ts = .ok (a, ts) := rfl

@[simp]
theorem map_apply (f : α → β) (p : Parser α) :
    (f <$> p) ts = (p ts).map fun r => (f r.1, r.2) := by
  cases h : p ts <;>
    simp [Functor.map, StateT.map, h, Except.map, bind, Except.bind, pure, Except.pure]

@[simp]
theorem map_ok {ε : Type} (a : α) (f : α → β) : (Except.ok a : Except ε α).map f = .ok (f a) := rfl

@[simp]
theorem bind_ok {ε : Type} (a : α) (f : α → Except ε β) : (Except.ok a).bind f = f a := rfl

@[simp]
theorem get_apply : (get : Parser (List Lexeme)) ts = .ok (ts, ts) := rfl

@[simp]
theorem peek_cons (l : Lexeme) : peek (l :: ts) = .ok (l, l :: ts) := rfl

@[simp]
theorem skip_cons (l : Lexeme) : skip (l :: ts) = .ok ((), ts) := rfl

theorem takes_of_ne {l : Lexeme} {s : String} (h : l.token.sign? ≠ some s.toList) :
    takes s (l :: ts) = .ok (false, l :: ts) := by
  simp [takes, h]

theorem many_of_none {p : Parser (Option α)} {l : Lexeme} (h : p (l :: ts) = .ok (none, l :: ts)) :
    many p (l :: ts) = .ok ([], l :: ts) := by
  simp [many, upTo, h]

/-! ## Simple commands -/

/-- A word of a line, or the sign of a redirection with its descriptor and its word. -/
abbrev Written := Word ⊕ (Nat × Text × Word)

/-- The tokens of what is written. -/
def Written.lexemes (n : Nat) : Written → List Lexeme
  | .inl w => [⟨n, .word w⟩]
  | .inr (d, sign, w) => [⟨n, .redirection d sign⟩, ⟨n, .word w⟩]

/-- What is read of what is written. -/
def Written.item : Written → Word ⊕ Redirection
  | .inl w => .inl w
  | .inr (d, sign, w) => .inr (.ofSign d sign w)

theorem item?_written (n : Nat) (i : Written) :
    item? (i.lexemes n ++ ts) = .ok (some i.item, ts) := by
  rcases i with w | ⟨d, sign, w⟩
  · simp [Written.lexemes, Written.item, item?]
  · simp [Written.lexemes, Written.item, item?, redirection?]

theorem item?_newline (n : Nat) :
    item? (⟨n, .newline⟩ :: ts) = .ok (none, ⟨n, .newline⟩ :: ts) := by
  simp [item?, redirection?]

theorem length_le_flatMap_lexemes (n : Nat) (is : List Written) :
    is.length ≤ (is.flatMap (Written.lexemes n)).length := by
  induction is with
  | nil => simp
  | cons i is ih =>
    rcases i with w | ⟨d, sign, w⟩ <;> simp [Written.lexemes] at ih ⊢ <;> omega

theorem upTo_item? (n m : Nat) (is : List Written) (k : Nat) (h : is.length < k) :
    upTo item? k (is.flatMap (Written.lexemes n) ++ ⟨m, .newline⟩ :: ts) =
      .ok (is.map Written.item, ⟨m, .newline⟩ :: ts) := by
  induction is generalizing k with
  | nil =>
    obtain ⟨k, rfl⟩ : ∃ j, k = j + 1 := ⟨k - 1, by simp at h; omega⟩
    simp [upTo, item?_newline]
  | cons i is ih =>
    obtain ⟨k, rfl⟩ : ∃ j, k = j + 1 := ⟨k - 1, by simp at h; omega⟩
    have := ih k (by simpa using h)
    simp [upTo, item?_written, this]

theorem many_item? (n m : Nat) (is : List Written) :
    many item? (is.flatMap (Written.lexemes n) ++ ⟨m, .newline⟩ :: ts) =
      .ok (is.map Written.item, ⟨m, .newline⟩ :: ts) := by
  have h := length_le_flatMap_lexemes n is
  simp only [many, bind_apply, get_apply, bind_ok]
  exact upTo_item? n m is _ (by simp only [List.length_append, List.length_cons]; omega)

/-- The command of a line in which only words and redirections are written. -/
def commandOf (n : Nat) (is : List Written) : Command :=
  .simple n ((is.map Written.item).filterMap Sum.getLeft?)
    ((is.map Written.item).filterMap Sum.getRight?)

theorem simple_written (ts : List Lexeme) (inner : Parser Command) (n m : Nat) (w : Word)
    (is : List Written) :
    simple inner (⟨n, .word w⟩ :: (is.flatMap (Written.lexemes n) ++ ⟨m, .newline⟩ :: ts)) =
      .ok (commandOf n (.inl w :: is), ⟨m, .newline⟩ :: ts) := by
  have h : many item? (⟨n, .word w⟩ :: (is.flatMap (Written.lexemes n) ++ ⟨m, .newline⟩ :: ts)) =
      .ok (.inl w :: is.map Written.item, ⟨m, .newline⟩ :: ts) := many_item? n m (.inl w :: is)
  have hn : Token.newline.sign? = none := rfl
  cases is with
  | nil => simp_all [simple, commandOf, takes_of_ne, Written.item]
  | cons i is => simp_all [simple, commandOf, Written.item]

theorem compound?_of_none (inner : Parser Command) {l : Lexeme} (h : l.token.sign? = none) :
    compound? inner (l :: ts) = .ok (none, l :: ts) := by
  simp [compound?, takes_of_ne, h]

section

variable (ts) (inner : Parser Command) (n m : Nat) {w : Word} (hw : (Token.word w).sign? = none)
  (is : List Written)

include hw

theorem command_written :
    command inner (⟨n, .word w⟩ :: (is.flatMap (Written.lexemes n) ++ ⟨m, .newline⟩ :: ts)) =
      .ok (commandOf n (.inl w :: is), ⟨m, .newline⟩ :: ts) := by
  have h := simple_written ts inner n m w is
  simp [command, group?, compound?_of_none, hw, h]

theorem pipeline_written :
    pipeline inner (⟨n, .word w⟩ :: (is.flatMap (Written.lexemes n) ++ ⟨m, .newline⟩ :: ts)) =
      .ok (commandOf n (.inl w :: is), ⟨m, .newline⟩ :: ts) := by
  have h := command_written ts inner n m hw is
  have hn : Token.newline.sign? = none := rfl
  simp [pipeline, takes_of_ne, hw, hn, h, many_of_none]

theorem andOr_written :
    andOr inner (⟨n, .word w⟩ :: (is.flatMap (Written.lexemes n) ++ ⟨m, .newline⟩ :: ts)) =
      .ok (commandOf n (.inl w :: is), ⟨m, .newline⟩ :: ts) := by
  have h := pipeline_written ts inner n m hw is
  have hn : Token.newline.sign? = none := rfl
  simp [andOr, takes_of_ne, hn, h, many_of_none]

theorem line_written :
    line inner (⟨n, .word w⟩ :: (is.flatMap (Written.lexemes n) ++ ⟨m, .newline⟩ :: ts)) =
      .ok (commandOf n (.inl w :: is), ts) := by
  have h := andOr_written ts inner n m hw is
  have hn : Token.newline.sign? = none := rfl
  simp [line, takes_of_ne, hn, h, many_of_none]

end

end Parser

/-- The tokens of a line. -/
def lineOf (n : Nat) (is : List Parser.Written) : List Lexeme :=
  is.flatMap (Parser.Written.lexemes n) ++ [⟨n + 1, .newline⟩]

theorem hasNoDocument_lineOf (n : Nat) (is : List Parser.Written) :
    HasNoDocument (lineOf n is) := by
  intro l hl t isQuoted
  rcases List.mem_append.1 hl with hl | hl
  · obtain ⟨i, -, hl⟩ := List.mem_flatMap.1 hl
    rcases i with w | ⟨d, sign, w⟩ <;>
      simp only [Parser.Written.lexemes, List.mem_cons, List.not_mem_nil, or_false] at hl
    · simp [hl]
    · rcases hl with rfl | rfl <;> simp
  · simp [List.mem_singleton.1 hl]

/-- **A plain line is a simple command**, whatever follows. -/
theorem nextCommand?_lineOf (n : Nat) {w : Word} (hw : (Token.word w).sign? = none)
    (is : List Parser.Written) (ts : List Lexeme) :
    nextCommand? (lineOf n (.inl w :: is) ++ ts) =
      .ok (some (Parser.commandOf n (.inl w :: is)), ts) := by
  simp [nextCommand?, lineOf, Parser.Written.lexemes, Parser.line_written, hw]

end ExportSurface.Shell
