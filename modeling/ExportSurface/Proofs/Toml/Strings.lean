import ExportSurface.Proofs.Json.Literals
import ExportSurface.Toml.Quoted

/-!
# Basic strings of TOML

A basic string stands for a text, and a text has many of them: a character is written as it is, by a
letter behind a backslash, or by its number in four or eight digits.

* `Toml.WritesText w t` says that `w`, between quotes, stands for the text `t`.
* `Toml.basic_of_writesText`: what is read of a basic string is the text that it stands for.
* `Toml.exists_writesText`: every text has a basic string that stands for it.
-/

namespace ExportSurface.Toml

/-! ## What a basic string stands for -/

/-- The letters behind a backslash, and the characters that they stand for. -/
def letters : List (Char × Char) :=
  [('"', '"'), ('\\', '\\'), ('b', '\x08'), ('f', '\x0c'), ('n', '\n'), ('r', '\r'), ('t', '\t')]

/-- The hexadecimal digits, in either case, write the number. -/
inductive WritesHex : Text → Nat → Prop
  | nil : WritesHex [] 0
  | concat {ds : Text} {d : Char} {n v : Nat} (h : WritesHex ds n) (hd : Json.IsHexDigit d v) :
      WritesHex (ds ++ [d]) (n * 16 + v)

/-- What stands between the quotes of a basic string, and the text that it stands for. -/
inductive WritesText : Text → Text → Prop
  | nil : WritesText [] []
  /-- Control characters but the tab, the quote and the backslash do not stand for themselves. -/
  | plain {c : Char} {w t : Text} (hquote : c ≠ '"') (hslash : c ≠ '\\') (hplain : isPlain c)
      (h : WritesText w t) : WritesText (c :: w) (c :: t)
  | letter {e c : Char} {w t : Text} (he : (e, c) ∈ letters) (h : WritesText w t) :
      WritesText ('\\' :: e :: w) (c :: t)
  | number {c : Char} {ds w t : Text} (hds : WritesHex ds c.toNat) (hlength : ds.length = 4)
      (h : WritesText w t) : WritesText ('\\' :: 'u' :: (ds ++ w)) (c :: t)
  | longNumber {c : Char} {ds w t : Text} (hds : WritesHex ds c.toNat) (hlength : ds.length = 8)
      (h : WritesText w t) : WritesText ('\\' :: 'U' :: (ds ++ w)) (c :: t)

/-! ## Reading a basic string -/

variable {ds w t : Text} {c : Char}

theorem hexNumber?_of_isHexDigit {d : Char} {v : Nat} (hd : Json.IsHexDigit d v) :
    hexNumber? [d] = some v := by
  have hlower : ∀ v < 16, hexNumber? [Json.hexDigit v] = some v := by decide
  have hupper : ∀ v < 16, hexNumber? [(Json.hexDigit v).toUpper] = some v := by decide
  obtain ⟨hv, rfl | rfl⟩ := hd
  · exact hlower v hv
  · exact hupper v hv

/-- A character behind others. -/
theorem hexNumber?_concat (ds : Text) (d : Char) :
    hexNumber? (ds ++ [d]) =
      (hexNumber? ds).bind fun n => (hexNumber? [d]).map fun v => n * 16 + v := by
  rw [hexNumber?, List.foldlM_append, ← hexNumber?]
  cases hexNumber? ds with
  | none => rfl
  | some n =>
    simp only [hexNumber?, bind, Option.bind_some, List.foldlM_cons, List.foldlM_nil]
    split_ifs <;> simp

theorem hexNumber?_of_writesHex {n : Nat} (h : WritesHex ds n) : hexNumber? ds = some n := by
  induction h with
  | nil => rfl
  | concat h hd ih =>
    rw [hexNumber?_concat, ih, hexNumber?_of_isHexDigit hd]
    rfl

theorem charOfHex?_of_writesHex (h : WritesHex ds c.toNat) : charOfHex? ds = some c := by
  have hvalid : c.toNat.isValidChar := c.valid
  rw [charOfHex?, hexNumber?_of_writesHex h, Option.bind_some, if_pos hvalid, Char.ofNat_toNat]

theorem basic_plain (hquote : c ≠ '"') (hslash : c ≠ '\\') (hplain : isPlain c) (s : Text) :
    basic (c :: s) = prepend? (some c) (basic s) := by
  rw [basic, if_pos hplain]
  · exact hquote
  · exact fun _ _ _ _ _ h => absurd h hslash
  · exact fun _ _ _ _ _ _ _ _ _ h => absurd h hslash
  · exact fun _ _ h => absurd h hslash

theorem basic_letter {e : Char} (he : (e, c) ∈ letters) (s : Text) :
    basic ('\\' :: e :: s) = prepend? (some c) (basic s) := by
  have hletters : ∀ p ∈ letters, p.1 ≠ 'u' ∧ p.1 ≠ 'U' ∧ escaped? p.1 = some p.2 := by decide
  obtain ⟨hu, hU, hescaped⟩ := hletters _ he
  rw [basic, hescaped]
  · rintro _ _ _ _ _ rfl
    exact absurd rfl hu
  · rintro _ _ _ _ _ _ _ _ _ rfl
    exact absurd rfl hU

theorem basic_number (hds : WritesHex ds c.toNat) (hlength : ds.length = 4) (s : Text) :
    basic ('\\' :: 'u' :: (ds ++ s)) = prepend? (some c) (basic s) := by
  obtain ⟨a, b, d, e, rfl⟩ : ∃ a b d e, ds = [a, b, d, e] := by
    match ds, hlength with
    | [a, b, d, e], _ => exact ⟨a, b, d, e, rfl⟩
  simp only [List.cons_append, List.nil_append]
  rw [basic, charOfHex?_of_writesHex hds]

theorem basic_longNumber (hds : WritesHex ds c.toNat) (hlength : ds.length = 8) (s : Text) :
    basic ('\\' :: 'U' :: (ds ++ s)) = prepend? (some c) (basic s) := by
  obtain ⟨a, b, d, e, f, g, i, j, rfl⟩ : ∃ a b d e f g i j, ds = [a, b, d, e, f, g, i, j] := by
    match ds, hlength with
    | [a, b, d, e, f, g, i, j], _ => exact ⟨a, b, d, e, f, g, i, j, rfl⟩
  simp only [List.cons_append, List.nil_append]
  rw [basic, charOfHex?_of_writesHex hds]

/-- **A basic string is read as the text that it stands for**, whatever stands behind it. -/
theorem basic_of_writesText (h : WritesText w t) (r : Text) :
    basic (w ++ '"' :: r) = some (t, r) := by
  induction h with
  | nil => rfl
  | plain hquote hslash hplain h ih =>
    rw [List.cons_append, basic_plain hquote hslash hplain, ih]
    rfl
  | letter he h ih =>
    rw [List.cons_append, List.cons_append, basic_letter he, ih]
    rfl
  | number hds hlength h ih =>
    rw [List.cons_append, List.cons_append, List.append_assoc, basic_number hds hlength, ih]
    rfl
  | longNumber hds hlength h ih =>
    rw [List.cons_append, List.cons_append, List.append_assoc, basic_longNumber hds hlength, ih]
    rfl

/-- A basic string is no start of a string of several lines, if no quote stands behind it. -/
theorem string?_of_writesText (h : WritesText w t) (hquote : c ≠ '"') (r : Text) :
    string? ('"' :: (w ++ '"' :: c :: r)) = some (t, c :: r) := by
  rw [string?, basic_of_writesText h]
  intro s hs
  cases h with
  | nil => exact hquote (List.cons.inj (List.cons.inj hs).2).1
  | plain hne => exact hne (List.cons.inj hs).1
  | letter | number | longNumber => exact absurd (List.cons.inj hs).1 (by decide)

/-! ## Writing a basic string -/

/-- A control character can be written by its number. -/
theorem writesHex_of_lt {n : Nat} (h : n < 0x80) :
    WritesHex ['0', '0', Json.hexDigit (n / 16), Json.hexDigit (n % 16)] n := by
  have hzero : Json.IsHexDigit '0' 0 := ⟨by decide, .inl rfl⟩
  have hhigh : Json.IsHexDigit (Json.hexDigit (n / 16)) (n / 16) := ⟨by omega, .inl rfl⟩
  have hlow : Json.IsHexDigit (Json.hexDigit (n % 16)) (n % 16) := ⟨by omega, .inl rfl⟩
  have hn : ((0 * 16 + 0) * 16 + n / 16) * 16 + n % 16 = n := by omega
  have hdigits := (((WritesHex.nil.concat hzero).concat hzero).concat hhigh).concat hlow
  rwa [hn] at hdigits

theorem WritesText.append {w' t' : Text} (h : WritesText w t) (h' : WritesText w' t') :
    WritesText (w ++ w') (t ++ t') := by
  induction h with
  | nil => exact h'
  | plain hquote hslash hplain h ih => exact .plain hquote hslash hplain ih
  | letter he h ih => exact .letter he ih
  | number hds hlength h ih =>
    rw [List.cons_append, List.cons_append, List.append_assoc]
    exact .number hds hlength ih
  | longNumber hds hlength h ih =>
    rw [List.cons_append, List.cons_append, List.append_assoc]
    exact .longNumber hds hlength ih

/-- A text of characters that stand for themselves is written as it is. -/
theorem writesText_self (h : ∀ c ∈ t, c ≠ '"' ∧ c ≠ '\\' ∧ isPlain c) : WritesText t t := by
  induction t with
  | nil => exact .nil
  | cons c t ih =>
    obtain ⟨hquote, hslash, hplain⟩ := h c List.mem_cons_self
    exact .plain hquote hslash hplain (ih fun d hd => h d (List.mem_cons_of_mem c hd))

/-- **Every text can be written.** -/
theorem exists_writesText (t : Text) : ∃ w, WritesText w t := by
  induction t with
  | nil => exact ⟨[], .nil⟩
  | cons c t ih =>
    obtain ⟨w, hw⟩ := ih
    by_cases hplain : isPlain c
    · by_cases hquote : c = '"'
      · subst hquote
        exact ⟨'\\' :: '"' :: w, .letter (by decide) hw⟩
      · by_cases hslash : c = '\\'
        · subst hslash
          exact ⟨'\\' :: '\\' :: w, .letter (by decide) hw⟩
        · exact ⟨_, .plain hquote hslash hplain hw⟩
    · have hcontrol : c.toNat < 0x80 := by
        refine Nat.lt_of_not_le fun hlarge => hplain ?_
        have hsize : 0x20 ≤ c.toNat ∧ c.toNat ≠ 0x7F := by omega
        simp [isPlain, hsize]
      exact ⟨_, .number (writesHex_of_lt hcontrol) rfl hw⟩

end ExportSurface.Toml
