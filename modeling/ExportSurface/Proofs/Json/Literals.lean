import ExportSurface.Json.Printer
import ExportSurface.Json.Reader
import Mathlib.Tactic.SplitIfs

/-!
# String literals

A literal stands for a text, and a text has many literals: a character is written as it is, by a
letter behind a backslash, or by its number, or by two numbers if it is a large one.

* `Json.WritesText w t` says that `w`, between quotes, stands for the text `t`, and
  `Json.WritesLiteral q t` that the literal `q` does.
* `Json.stringRest_of_writesText`: what is read of a literal is the text that it stands for.
* `Json.writesLiteral_quote`: the literal that is printed for a text stands for it.
-/

namespace ExportSurface.Json

/-! ## What a literal stands for -/

/-- The letters behind a backslash, and the characters that they stand for. -/
def letters : List (Char × Char) :=
  [('"', '"'), ('\\', '\\'), ('/', '/'), ('b', '\x08'), ('f', '\x0c'), ('n', '\n'), ('r', '\r'),
    ('t', '\t')]

/-- The character is the hexadecimal digit of the value, in either case. -/
def IsHexDigit (c : Char) (n : Nat) : Prop := n < 16 ∧ (c = hexDigit n ∨ c = (hexDigit n).toUpper)

instance (c : Char) (n : Nat) : Decidable (IsHexDigit c n) := inferInstanceAs (Decidable (_ ∧ _))

/-- The text writes the number in four hexadecimal digits. -/
inductive WritesNumber : Text → Nat → Prop
  | digits {a b c d : Char} {x y z v : Nat} (ha : IsHexDigit a x) (hb : IsHexDigit b y)
      (hc : IsHexDigit c z) (hd : IsHexDigit d v) :
      WritesNumber [a, b, c, d] (((x * 16 + y) * 16 + z) * 16 + v)

/-- What stands between the quotes of a literal, and the text that it stands for. -/
inductive WritesText : Text → Text → Prop
  | nil : WritesText [] []
  | plain {c : Char} {w t : Text} (hquote : c ≠ '"') (hslash : c ≠ '\\')
      (hcontrol : 0x20 ≤ c.toNat) (h : WritesText w t) : WritesText (c :: w) (c :: t)
  | letter {e c : Char} {w t : Text} (he : (e, c) ∈ letters) (h : WritesText w t) :
      WritesText ('\\' :: e :: w) (c :: t)
  | number {c : Char} {ds w t : Text} (hc : WritesNumber ds c.toNat) (h : WritesText w t) :
      WritesText ('\\' :: 'u' :: (ds ++ w)) (c :: t)
  /-- A character beyond four digits is written as two halves of a surrogate pair. -/
  | pair {c : Char} {high low : Nat} {ds ds' w t : Text} (hds : WritesNumber ds high)
      (hds' : WritesNumber ds' low) (hhigh : 0xD800 ≤ high ∧ high < 0xDC00)
      (hlow : 0xDC00 ≤ low ∧ low < 0xE000)
      (hc : c.toNat = 0x10000 + (high - 0xD800) * 0x400 + (low - 0xDC00)) (h : WritesText w t) :
      WritesText ('\\' :: 'u' :: (ds ++ '\\' :: 'u' :: (ds' ++ w))) (c :: t)

/-- The literal, with its quotes, stands for the text. -/
def WritesLiteral (q t : Text) : Prop := ∃ w, q = '"' :: (w ++ ['"']) ∧ WritesText w t

/-! ## Steps of the reader -/

/-- The part of a literal that a number stands for. -/
def unitOf (n : Nat) : Unit16 :=
  if 0xD800 ≤ n ∧ n ≤ 0xDFFF then .half n else .scalar (Char.ofNat n)

/-- Puts a part in front of the parts that were read of a literal. -/
def withUnit (u : Unit16) (x : List Unit16 × Text) : List Unit16 × Text := (u :: x.1, x.2)

theorem unitOf_toNat (c : Char) : unitOf c.toNat = .scalar c := by
  have hvalid : c.toNat < 0xD800 ∨ 0xDFFF < c.toNat ∧ c.toNat < 0x110000 := c.valid
  rw [unitOf, if_neg (by omega), Char.ofNat_toNat]

theorem hexValue?_of_isHexDigit {c : Char} {n : Nat} (h : IsHexDigit c n) :
    hexValue? c = some n := by
  have hlower : ∀ n < 16, hexValue? (hexDigit n) = some n := by decide
  have hupper : ∀ n < 16, hexValue? (hexDigit n).toUpper = some n := by decide
  obtain ⟨hn, rfl | rfl⟩ := h
  · exact hlower n hn
  · exact hupper n hn

theorem stringUnits_number {ds : Text} {n : Nat} (h : WritesNumber ds n) (s : Text) :
    stringUnits ('\\' :: 'u' :: (ds ++ s)) = (stringUnits s).map (withUnit (unitOf n)) := by
  obtain @⟨a, b, c, d, x, y, z, v, ha, hb, hc, hd⟩ := h
  have hunit : unitOfHex? a b c d = some (unitOf (((x * 16 + y) * 16 + z) * 16 + v)) := by
    simp only [unitOfHex?, hexValue?_of_isHexDigit ha, hexValue?_of_isHexDigit hb,
      hexValue?_of_isHexDigit hc, hexValue?_of_isHexDigit hd, bind, Option.bind, unitOf,
      Bool.and_eq_true, decide_eq_true_eq, apply_ite some]
  simp only [List.cons_append, List.nil_append]
  rw [stringUnits, hunit]
  cases stringUnits s <;> rfl

theorem stringUnits_letter {e c : Char} (h : (e, c) ∈ letters) (s : Text) :
    stringUnits ('\\' :: e :: s) = (stringUnits s).map (withUnit (.scalar c)) := by
  have hletters : ∀ p ∈ letters, p.1 ≠ 'u' ∧ escaped? p.1 = some p.2 := by decide
  obtain ⟨hu, hescaped⟩ := hletters _ h
  rw [stringUnits]
  · rw [hescaped]
    cases stringUnits s <;> rfl
  · rintro _ _ _ _ _ rfl
    exact absurd rfl hu

theorem stringUnits_plain {c : Char} (hquote : c ≠ '"') (hslash : c ≠ '\\')
    (hcontrol : 0x20 ≤ c.toNat) (s : Text) :
    stringUnits (c :: s) = (stringUnits s).map (withUnit (.scalar c)) := by
  rw [stringUnits, if_neg (Nat.not_lt.2 hcontrol)]
  · cases stringUnits s <;> rfl
  · exact hquote
  · intros; simp_all
  · intros; simp_all

theorem joinHalves_pair {c : Char} {high low : Nat} (hhigh : 0xD800 ≤ high ∧ high < 0xDC00)
    (hlow : 0xDC00 ≤ low ∧ low < 0xE000)
    (hc : c.toNat = 0x10000 + (high - 0xD800) * 0x400 + (low - 0xDC00)) (us : List Unit16) :
    joinHalves (unitOf high :: unitOf low :: us) = (joinHalves us).map (c :: ·) := by
  have hunits : unitOf high = .half high ∧ unitOf low = .half low :=
    ⟨if_pos (by omega), if_pos (by omega)⟩
  rw [hunits.1, hunits.2, joinHalves, if_pos (by simp [hhigh.2, hlow.1]), ← hc, Char.ofNat_toNat]

/-! ## Reading a literal -/

theorem stringRest_eq_some_iff {s t r : Text} :
    stringRest s = some (some t, r) ↔
      ∃ us, stringUnits s = some (us, r) ∧ joinHalves us = some t := by
  simp [stringRest]

/-- Reading goes on behind a part that stands for one character. -/
theorem stringRest_of_scalar {c : Char} {s s' t r : Text}
    (hs : stringUnits s' = (stringUnits s).map (withUnit (.scalar c)))
    (h : stringRest s = some (some t, r)) : stringRest s' = some (some (c :: t), r) := by
  obtain ⟨us, hus, hjoin⟩ := stringRest_eq_some_iff.1 h
  refine stringRest_eq_some_iff.2 ⟨.scalar c :: us, ?_, ?_⟩
  · rw [hs, hus, Option.map_some, withUnit]
  · rw [joinHalves, hjoin, Option.map_some]

/-- **A literal is read as the text that it stands for.** -/
theorem stringRest_of_writesText {w t : Text} (h : WritesText w t) (r : Text) :
    stringRest (w ++ '"' :: r) = some (some t, r) := by
  induction h with
  | nil => rfl
  | plain hquote hslash hcontrol h ih =>
    exact stringRest_of_scalar (stringUnits_plain hquote hslash hcontrol _) ih
  | letter he h ih => exact stringRest_of_scalar (stringUnits_letter he _) ih
  | number hc h ih =>
    refine stringRest_of_scalar ?_ ih
    rw [List.cons_append, List.cons_append, List.append_assoc, stringUnits_number hc, unitOf_toNat]
  | @pair c high low ds ds' w t hds hds' hhigh hlow hc h ih =>
    obtain ⟨us, hus, hjoin⟩ := stringRest_eq_some_iff.1 ih
    refine stringRest_eq_some_iff.2 ⟨unitOf high :: unitOf low :: us, ?_, ?_⟩
    · simp only [List.cons_append, List.append_assoc]
      rw [stringUnits_number hds, stringUnits_number hds', hus]
      rfl
    · rw [joinHalves_pair hhigh hlow hc, hjoin, Option.map_some]

theorem WritesLiteral.exists_append {q t : Text} (h : WritesLiteral q t) (r : Text) :
    ∃ s, q ++ r = '"' :: s ∧ stringRest s = some (some t, r) := by
  obtain ⟨w, rfl, hw⟩ := h
  exact ⟨w ++ '"' :: r, by simp, stringRest_of_writesText hw r⟩

/-! ## Printed literals -/

/-- An escaped control character is written by its number. -/
theorem writesNumber_control {n : Nat} (h : n < 0x20) :
    WritesNumber ['0', '0', hexDigit (n / 16), hexDigit (n % 16)] n := by
  have hzero : IsHexDigit '0' 0 := ⟨by decide, .inl rfl⟩
  have hhigh : IsHexDigit (hexDigit (n / 16)) (n / 16) := ⟨by omega, .inl rfl⟩
  have hlow : IsHexDigit (hexDigit (n % 16)) (n % 16) := ⟨by omega, .inl rfl⟩
  have hn : ((0 * 16 + 0) * 16 + n / 16) * 16 + n % 16 = n := by omega
  have hdigits := WritesNumber.digits hzero hzero hhigh hlow
  rwa [hn] at hdigits

theorem writesText_escape_append (c : Char) {w t : Text} (h : WritesText w t) :
    WritesText (escape c ++ w) (c :: t) := by
  have hletter {e : Char} (he : (e, c) ∈ letters) : WritesText (['\\', e] ++ w) (c :: t) :=
    .letter he h
  unfold escape
  split_ifs with hquote hslash hb hf hn hr ht hcontrol
  · subst hquote
    exact hletter (by decide)
  · subst hslash
    exact hletter (by decide)
  · subst hb
    exact hletter (by decide)
  · subst hf
    exact hletter (by decide)
  · subst hn
    exact hletter (by decide)
  · subst hr
    exact hletter (by decide)
  · subst ht
    exact hletter (by decide)
  · exact .number (writesNumber_control hcontrol) h
  · exact .plain hquote hslash (Nat.not_lt.1 hcontrol) h

/-- **The printed literal of a text stands for the text.** -/
theorem writesLiteral_quote (t : Text) : WritesLiteral (quote (some t)) t := by
  refine ⟨t.flatMap escape, rfl, ?_⟩
  induction t with
  | nil => exact .nil
  | cons c t ih => exact writesText_escape_append c ih

end ExportSurface.Json
