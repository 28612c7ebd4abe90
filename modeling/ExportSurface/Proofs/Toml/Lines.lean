import ExportSurface.Proofs.Toml.Strings
import ExportSurface.Toml.Reader
import Mathlib.Data.List.TakeWhile

/-!
# Lines of TOML

What is read of the lines that the entries of an array of tables are written in: headers of elements,
assignments of basic strings to bare keys, and lines that say nothing.

* `Toml.line?_of_isSilent`, `Toml.line?_element` and `Toml.line?_assignment` say so for each kind.
* `Toml.Document.extend?` is what the lines of a text make of a document, and
  `Toml.Document.extend?_of_line` takes the first line off.
-/

namespace ExportSurface.Toml

variable {c : Char} {k line w t : Text}

/-! ## Ends of lines -/

/-- The line says nothing: it is blank, or a comment stands on it, indented or not. -/
inductive IsSilent : Text → Prop
  | blank {line : Text} (h : ∀ c ∈ line, isLineBlank c) : IsSilent line
  | comment {indent rest : Text} (h : ∀ c ∈ indent, isLineBlank c) (hrest : ∀ c ∈ rest, isPlain c) :
      IsSilent (indent ++ '#' :: rest)

theorem skip_cons (hc : isLineBlank c = false) (s : Text) : skip (c :: s) = c :: s :=
  List.dropWhile_cons_of_neg (by simp [hc])

theorem skip_append_cons {b : Text} (hb : ∀ c ∈ b, isLineBlank c) (hc : isLineBlank c = false)
    (s : Text) : skip (b ++ c :: s) = c :: s :=
  (List.dropWhile_append_of_pos hb).trans (skip_cons hc s)

theorem lineEnd?_of_isSilent (h : IsSilent line) (r : Text) :
    lineEnd? (line ++ '\n' :: r) = some r := by
  cases h with
  | blank h =>
    rw [lineEnd?, skip_append_cons (c := '\n') h rfl]
    rfl
  | @comment indent rest h hrest =>
    have hcomment : dropComment ('#' :: (rest ++ '\n' :: r)) = '\n' :: r := by
      rw [dropComment, List.dropWhile_append_of_pos hrest]
      rfl
    rw [lineEnd?, List.append_assoc, List.cons_append, skip_append_cons (c := '#') h rfl, hcomment]
    rfl

theorem dropNewline?_eq_none (hfeed : c ≠ '\n') (hreturn : c ≠ '\r') (s : Text) :
    dropNewline? (c :: s) = none := by
  unfold dropNewline?
  split
  · next h => exact absurd (List.cons.inj h).1 hfeed
  · next h => exact absurd (List.cons.inj h).1 hreturn
  · rfl

/-- A line that starts with something else than a blank or a comment does not end there. -/
theorem lineEnd?_eq_none (hblank : isLineBlank c = false) (hcomment : c ≠ '#') (hfeed : c ≠ '\n')
    (hreturn : c ≠ '\r') (s : Text) : lineEnd? (c :: s) = none := by
  have hkept : dropComment (c :: s) = c :: s := by
    rw [dropComment]
    exact fun r hr => hcomment (List.cons.inj hr).1
  rw [lineEnd?, skip_cons hblank, hkept]
  exact dropNewline?_eq_none hfeed hreturn s

/-! ## Keys -/

/-- The text can stand as a key without quotes. -/
def IsBareKey (k : Text) : Prop := k ≠ [] ∧ ∀ c ∈ k, isBare c

instance (k : Text) : Decidable (IsBareKey k) :=
  decidable_of_iff (k ≠ [] ∧ k.all isBare) (and_congr_right' (by rw [List.all_eq_true]))

theorem isBare_ne {d : Char} (hc : isBare c) (hd : isBare d = false) : c ≠ d :=
  fun h => by simp [← h, hc] at hd

theorem isLineBlank_of_isBare (hc : isBare c) : isLineBlank c = false := by
  simp [isLineBlank, isBare_ne hc (d := ' ') rfl, isBare_ne hc (d := '\t') rfl]

theorem keyPart?_bare (hk : IsBareKey k) (hc : isBare c = false) (r : Text) :
    keyPart? (k ++ c :: r) = some (k, c :: r) := by
  have htake : (k ++ c :: r).takeWhile isBare = k := by
    rw [List.takeWhile_append_of_pos hk.2, List.takeWhile_cons_of_neg (by simp [hc]),
      List.append_nil]
  have hdrop : (k ++ c :: r).dropWhile isBare = c :: r := by
    rw [List.dropWhile_append_of_pos hk.2, List.dropWhile_cons_of_neg (by simp [hc])]
  obtain ⟨d, k, rfl⟩ := List.exists_cons_of_ne_nil hk.1
  have hd : isBare d := hk.2 d List.mem_cons_self
  rw [keyPart?, htake, hdrop]
  · exact fun s hs => isBare_ne hd rfl (List.cons.inj hs).1
  · exact fun s hs => isBare_ne hd rfl (List.cons.inj hs).1

/-- A bare key with blanks behind it, up to what cannot belong to a key. -/
theorem key?_bare {b : Text} (hk : IsBareKey k) (hb : ∀ c ∈ b, isLineBlank c) (hc : isBare c = false)
    (hblank : isLineBlank c = false) (hdot : c ≠ '.') (r : Text) :
    key? (k ++ (b ++ c :: r)) = some ([k], c :: r) := by
  have hpart : keyPart? (skip (k ++ (b ++ c :: r))) = some (k, b ++ c :: r) := by
    obtain ⟨d, k', rfl⟩ := List.exists_cons_of_ne_nil hk.1
    rw [List.cons_append, skip_cons (isLineBlank_of_isBare (hk.2 d List.mem_cons_self)),
      ← List.cons_append]
    cases b with
    | nil => exact keyPart?_bare hk hc r
    | cons e b =>
      have he : isBare e = false := by
        rw [← Bool.not_eq_true]
        exact fun h => by simp [isLineBlank_of_isBare h] at hb
      exact keyPart?_bare hk he (b ++ c :: r)
  have hskip : skip (b ++ c :: r) = c :: r := skip_append_cons hb hblank r
  have hlt : (b ++ c :: r).length < (k ++ (b ++ c :: r)).length := by
    have := List.length_pos_iff.2 hk.1
    simp only [List.length_append]
    omega
  have hlt' : (c :: r).length < (k ++ (b ++ c :: r)).length := by
    simp only [List.length_append] at hlt ⊢
    omega
  have hparts : keyParts (k ++ (b ++ c :: r)) = some ⟨[k], c :: r, hlt'⟩ := by
    rw [keyParts, hpart, Reading.of?_some hlt]
    dsimp only
    split
    · next h => exact absurd (List.cons.inj (hskip.symm.trans h)).1 hdot
    · simp only [hskip]
  rw [key?, hparts]
  rfl

/-! ## Lines of a document -/

theorem line?_of_isSilent (h : IsSilent line) (r : Text) :
    line? (line ++ '\n' :: r) = some (.empty, r) := by
  rw [line?, lineEnd?_of_isSilent h]

/-- The header of an element of an array of tables. -/
def elementLine (k : Text) : Text := "[[".toList ++ k ++ "]]\n".toList

theorem line?_element (hk : IsBareKey k) (r : Text) :
    line? (elementLine k ++ r) = some (.element [k], r) := by
  have hkey : key? (k ++ ([] ++ ']' :: (']' :: '\n' :: r))) = some ([k], ']' :: ']' :: '\n' :: r) :=
    key?_bare hk (List.forall_mem_nil _) rfl rfl (by decide) _
  have hline : elementLine k ++ r = '[' :: '[' :: (k ++ ([] ++ ']' :: (']' :: '\n' :: r))) := by
    simp [elementLine]
  rw [hline, line?, lineEnd?_eq_none rfl (by decide) (by decide) (by decide), skip_cons rfl]
  simp only [header?, hkey]
  rfl

/-- The line that assigns a basic string to a bare key. -/
def stringLine (k w : Text) : Text := k ++ " = \"".toList ++ w ++ "\"\n".toList

/-- A basic string is a value. -/
theorem value_of_writesText (h : WritesText w t) (r : Text) :
    ∃ h, value 0 ('"' :: (w ++ '"' :: '\n' :: r)) = some ⟨string t, '\n' :: r, h⟩ := by
  have hscalar : scalar? ('"' :: (w ++ '"' :: '\n' :: r)) = some (string t, '\n' :: r) := by
    rw [scalar?, if_pos (by decide), string?_of_writesText h (by decide)]
    rfl
  have hlt : ('\n' :: r).length < ('"' :: (w ++ '"' :: '\n' :: r)).length := by
    simp only [List.length_cons, List.length_append]
    omega
  refine ⟨hlt, ?_⟩
  rw [value, hscalar, Reading.of?_some hlt]
  · decide
  · decide

theorem line?_assignment (hk : IsBareKey k) (h : WritesText w t) (r : Text) :
    line? (stringLine k w ++ r) = some (.assignment [k] (string t), r) := by
  have hline : stringLine k w ++ r = k ++ ([' '] ++ '=' :: (' ' :: '"' :: (w ++ '"' :: '\n' :: r))) := by
    simp [stringLine]
  have hequals : keyEquals? (stringLine k w ++ r) = some ([k], '"' :: (w ++ '"' :: '\n' :: r)) := by
    rw [hline, keyEquals?, key?_bare hk (List.forall_mem_singleton.2 rfl) rfl rfl (by decide)]
    rfl
  have hassignment : assignment? (stringLine k w ++ r) = some (.assignment [k] (string t), r) := by
    obtain ⟨hlt, hvalue⟩ := value_of_writesText h r
    rw [assignment?, hequals]
    simp only [bind, Option.bind_some, hvalue]
    rfl
  obtain ⟨d, k', hcons⟩ := List.exists_cons_of_ne_nil hk.1
  have hd : isBare d := hk.2 d (hcons ▸ List.mem_cons_self)
  obtain ⟨s, hs⟩ : ∃ s, stringLine k w ++ r = d :: s := by
    rw [hcons, stringLine]
    exact ⟨_, rfl⟩
  rw [hs] at hassignment ⊢
  rw [line?, lineEnd?_eq_none (isLineBlank_of_isBare hd) (isBare_ne hd rfl) (isBare_ne hd rfl)
    (isBare_ne hd rfl), skip_cons (isLineBlank_of_isBare hd)]
  have hbracket : d ≠ '[' := isBare_ne hd rfl
  dsimp only
  split
  · next h => exact absurd (List.cons.inj h).1 hbracket
  · next h => exact absurd (List.cons.inj h).1 hbracket
  · exact hassignment

/-! ## Documents -/

namespace Document

/-- What the lines of a text make of a document. -/
def extend? (d : Document) (s : Text) : Option Document := (lines? s).bind (·.foldlM Document.add? d)

theorem extend?_nil (d : Document) : d.extend? [] = some d := by
  rw [extend?, lines?]
  rfl

/-- The first line is added first. -/
theorem extend?_of_line {d : Document} {l : Line} {s r : Text} (h : line? s = some (l, r))
    (hlt : r.length < s.length) : d.extend? s = (d.add? l).bind (·.extend? r) := by
  have hlines : lines? s = (lines? r).map (l :: ·) := by
    cases s with
    | nil => exact absurd hlt (Nat.not_lt_zero _)
    | cons c s =>
      rw [lines?, h, Reading.of?_some hlt]
  rw [extend?, hlines]
  cases hr : lines? r with
  | none => cases d.add? l <;> simp [extend?, hr]
  | some ls => cases hd : d.add? l <;> simp [extend?, hr, hd]

variable {d : Document}

theorem extend?_of_isSilent (h : IsSilent line) (r : Text) :
    d.extend? (line ++ '\n' :: r) = d.extend? r := by
  rw [extend?_of_line (line?_of_isSilent h r) (by simp; omega)]
  rfl

theorem extend?_element (hk : IsBareKey k) (r : Text) :
    d.extend? (elementLine k ++ r) = (d.add? (.element [k])).bind (·.extend? r) :=
  extend?_of_line (line?_element hk r) (by simp [elementLine]; omega)

theorem extend?_assignment (hk : IsBareKey k) (h : WritesText w t) (r : Text) :
    d.extend? (stringLine k w ++ r) =
      (d.add? (.assignment [k] (string t))).bind (·.extend? r) :=
  extend?_of_line (line?_assignment hk h r) (by simp [stringLine]; omega)

end Document

/-! ## Byte order marks -/

theorem dropByteOrderMark_cons (hc : c ≠ '\uFEFF') (s : Text) :
    dropByteOrderMark (c :: s) = c :: s := by
  rw [dropByteOrderMark]
  exact fun r hr => hc (List.cons.inj hr).1

/-- A line that says nothing does not start with a byte order mark, which is no blank. -/
theorem dropByteOrderMark_of_isSilent (h : IsSilent line) (r : Text) :
    dropByteOrderMark (line ++ '\n' :: r) = line ++ '\n' :: r := by
  have hblank : ∀ {c : Char}, isLineBlank c → c ≠ '\uFEFF' := by
    rintro c hc rfl
    exact absurd hc (by decide)
  cases h with
  | blank h =>
    cases line with
    | nil => exact dropByteOrderMark_cons (by decide) r
    | cons c line => exact dropByteOrderMark_cons (hblank (h c List.mem_cons_self)) _
  | @comment indent rest h hrest =>
    cases indent with
    | nil => exact dropByteOrderMark_cons (by decide) _
    | cons c indent => exact dropByteOrderMark_cons (hblank (h c List.mem_cons_self)) _

theorem parse?_eq (s : Text) :
    parse? s = ((⟨[], []⟩ : Document).extend? (dropByteOrderMark s)).map Document.root := by
  rw [parse?, Document.extend?]
  cases lines? (dropByteOrderMark s) <;> rfl

end ExportSurface.Toml
