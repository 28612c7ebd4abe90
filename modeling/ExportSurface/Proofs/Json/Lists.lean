import ExportSurface.Proofs.Json.RoundTrip
import ExportSurface.Proofs.Text.Utf8

/-!
# Documents that list texts

A document that is read as an array of strings is written as one: the reader accepts nothing that the
grammar does not allow.

* `Json.exists_of_stringRest`: what is read as a text is between the quotes of a literal that stands
  for the text.
* `Json.Lists s l` says that the document `s` is an array of literals of the texts `l`, and
  `Json.parse?_eq_ofTexts_iff` that the reader accepts such documents, and no others, as that array.
-/

namespace ExportSurface.Json

variable {s w r t : Text} {l : List Text} {c : Char} {n : Nat} {u : Unit16} {us : List Unit16}

/-! ## Literals -/

/-- The text writes one part of a literal. -/
inductive WritesUnit : Text → Unit16 → Prop
  | plain {c : Char} (hquote : c ≠ '"') (hslash : c ≠ '\\') (hcontrol : 0x20 ≤ c.toNat) :
      WritesUnit [c] (.scalar c)
  | letter {e c : Char} (he : (e, c) ∈ letters) : WritesUnit ['\\', e] (.scalar c)
  | number {ds : Text} {n : Nat} (hds : WritesNumber ds n) :
      WritesUnit ('\\' :: 'u' :: ds) (unitOf n)

/-- The text writes the parts of a literal. -/
inductive WritesUnits : Text → List Unit16 → Prop
  | nil : WritesUnits [] []
  | cons {w w' : Text} {u : Unit16} {us : List Unit16} (hu : WritesUnit w u)
      (hus : WritesUnits w' us) : WritesUnits (w ++ w') (u :: us)

theorem isHexDigit_of_hexValue? (h : hexValue? c = some n) : IsHexDigit c n := by
  have hdigit : ∀ n < 10, hexDigit n = Char.ofNat (0x30 + n) := by decide
  have hlower : ∀ n < 16, 10 ≤ n → hexDigit n = Char.ofNat (0x57 + n) := by decide
  have hupper : ∀ n < 16, 10 ≤ n → (hexDigit n).toUpper = Char.ofNat (0x37 + n) := by decide
  have hc (k : Nat) (hk : k ≤ c.toNat) : Char.ofNat (k + (c.toNat - k)) = c := by
    rw [Nat.add_sub_cancel' hk, Char.ofNat_toNat]
  unfold hexValue? at h
  dsimp only at h
  split_ifs at h with h₁ h₂ h₃ <;> simp only [Bool.and_eq_true, decide_eq_true_eq] at * <;>
    obtain rfl := Option.some.inj h
  · exact ⟨by omega, .inl ((hdigit _ (by omega)).trans (hc _ h₁.1)).symm⟩
  · exact ⟨by omega, .inl ((hlower _ (by omega) (by omega)).trans (hc _ (by omega))).symm⟩
  · exact ⟨by omega, .inr ((hupper _ (by omega) (by omega)).trans (hc _ (by omega))).symm⟩

theorem exists_of_unitOfHex? {a b c d : Char} (h : unitOfHex? a b c d = some u) :
    ∃ n, WritesNumber [a, b, c, d] n ∧ u = unitOf n := by
  simp only [unitOfHex?, Option.bind_eq_bind, Option.bind_eq_some_iff] at h
  obtain ⟨x, hx, y, hy, z, hz, v, hv, hu⟩ := h
  refine ⟨_, .digits (isHexDigit_of_hexValue? hx) (isHexDigit_of_hexValue? hy)
    (isHexDigit_of_hexValue? hz) (isHexDigit_of_hexValue? hv), ?_⟩
  simp only [Bool.and_eq_true, decide_eq_true_eq, ← apply_ite some, Option.some.injEq] at hu
  exact hu.symm

theorem mem_letters_of_escaped? {e : Char} (h : escaped? e = some c) : (e, c) ∈ letters := by
  unfold escaped? at h
  split_ifs at h with hsame <;> obtain rfl := Option.some.inj h
  · simp only [Bool.or_eq_true, decide_eq_true_eq] at hsame
    rcases hsame with (rfl | rfl) | rfl <;> decide
  all_goals
    subst e
    decide

/-- The parts that are read of a literal are written up to its closing quote. -/
theorem exists_of_stringUnits (h : stringUnits s = some (us, r)) :
    ∃ w, s = w ++ '"' :: r ∧ WritesUnits w us := by
  fun_induction stringUnits s generalizing us with
  | case1 => cases h
  | case2 =>
    cases h
    exact ⟨[], rfl, .nil⟩
  | case3 a b c d s ih =>
    simp only [Option.bind_eq_bind, Option.bind_eq_some_iff] at h
    obtain ⟨u, hu, ⟨us, r'⟩, hus, heq⟩ := h
    cases heq
    obtain ⟨n, hn, rfl⟩ := exists_of_unitOfHex? hu
    obtain ⟨w, rfl, hw⟩ := ih hus
    exact ⟨_, rfl, .cons (.number hn) hw⟩
  | case4 e s _ ih =>
    simp only [Option.bind_eq_bind, Option.bind_eq_some_iff] at h
    obtain ⟨c, hc, ⟨us, r'⟩, hus, heq⟩ := h
    cases heq
    obtain ⟨w, rfl, hw⟩ := ih hus
    exact ⟨_, rfl, .cons (.letter (mem_letters_of_escaped? hc)) hw⟩
  | case5 => cases h
  | case6 c s hquote _ hletter hcontrol ih =>
    simp only [Option.bind_eq_bind, Option.bind_eq_some_iff] at h
    obtain ⟨⟨us, r'⟩, hus, heq⟩ := h
    cases heq
    -- A backslash gets here only as the last character, and then the closing quote is missing.
    have hslash : c ≠ '\\' := by
      rintro rfl
      cases s with
      | nil => cases hus
      | cons e s => exact hletter e s rfl rfl
    obtain ⟨w, rfl, hw⟩ := ih hus
    exact ⟨_, rfl, .cons (.plain hquote hslash (Nat.not_lt.1 hcontrol)) hw⟩

theorem WritesNumber.lt (h : WritesNumber w n) : n < 0x10000 := by
  obtain ⟨⟨ha, -⟩, ⟨hb, -⟩, ⟨hc, -⟩, ⟨hd, -⟩⟩ := h
  omega

/-- A number that stands for a character is the number of the character. -/
theorem WritesUnit.append_scalar (h : WritesUnit w (.scalar c)) {w' : Text} (ht : WritesText w' t) :
    WritesText (w ++ w') (c :: t) := by
  generalize hu : Unit16.scalar c = u at h
  cases h with
  | plain hquote hslash hcontrol =>
    obtain rfl := Unit16.scalar.inj hu
    exact .plain hquote hslash hcontrol ht
  | letter he =>
    obtain rfl := Unit16.scalar.inj hu
    exact .letter he ht
  | @number ds n hds =>
    unfold unitOf at hu
    split_ifs at hu with hhalf
    obtain rfl := Unit16.scalar.inj hu
    have hlt := hds.lt
    have hn : (Char.ofNat n).toNat = n := Utf8.toNat_ofNat (by omega)
    rw [← hn] at hds
    exact .number hds ht

theorem WritesUnit.exists_half (h : WritesUnit w (.half n)) :
    ∃ ds, w = '\\' :: 'u' :: ds ∧ WritesNumber ds n ∧ 0xD800 ≤ n ∧ n ≤ 0xDFFF := by
  generalize hu : Unit16.half n = u at h
  cases h with
  | plain => cases hu
  | letter => cases hu
  | @number ds m hds =>
    unfold unitOf at hu
    split_ifs at hu with hhalf
    obtain rfl := Unit16.half.inj hu
    exact ⟨ds, rfl, hds, hhalf⟩

theorem WritesUnits.writesText (h : WritesUnits w us) (ht : joinHalves us = some t) :
    WritesText w t := by
  fun_induction joinHalves us generalizing w t with
  | case1 =>
    cases ht
    cases h
    exact .nil
  | case2 c us ih =>
    obtain ⟨t', ht', rfl⟩ := Option.map_eq_some_iff.1 ht
    cases h with
    | cons hu hus => exact hu.append_scalar (ih hus ht')
  | case3 high low us hrange ih =>
    obtain ⟨t', ht', rfl⟩ := Option.map_eq_some_iff.1 ht
    simp only [Bool.and_eq_true, decide_eq_true_eq] at hrange
    cases h with
    | cons hu hus =>
      cases hus with
      | cons hu' hus =>
        obtain ⟨ds, rfl, hds, hhigh⟩ := hu.exists_half
        obtain ⟨ds', rfl, hds', hlow⟩ := hu'.exists_half
        have hc : (Char.ofNat (0x10000 + (high - 0xD800) * 0x400 + (low - 0xDC00))).toNat =
            0x10000 + (high - 0xD800) * 0x400 + (low - 0xDC00) :=
          Utf8.toNat_ofNat (by omega)
        have hpair := WritesText.pair hds hds' (by omega) (by omega) hc (ih hus ht')
        simpa using hpair
  | case4 high low us hrange => cases ht
  | case5 => cases ht

/-- **What is read as a text stands between the quotes of a literal of the text.** -/
theorem exists_of_stringRest (h : stringRest s = some (some t, r)) :
    ∃ w, s = w ++ '"' :: r ∧ WritesText w t := by
  obtain ⟨us, hus, ht⟩ := stringRest_eq_some_iff.1 h
  obtain ⟨w, rfl, hw⟩ := exists_of_stringUnits hus
  exact ⟨w, rfl, hw.writesText ht⟩

/-! ## Values -/

theorem exists_of_skip_eq_cons (h : skip s = c :: r) : ∃ b, s = b ++ c :: r ∧ Space b := by
  refine ⟨s.takeWhile isSpace, ?_, fun d hd => List.mem_takeWhile_imp hd⟩
  rw [← h, List.takeWhile_append_dropWhile]

theorem eq_some_of_taken_of? {α : Type} {read : Text → Option (α × Text)} {x : α × Text}
    (h : taken (fun s => Reading.of? s (read s)) s = some x) : read s = some x := by
  have h : (Reading.of? s (read s)).map (fun r => (r.value, r.rest)) = some x := h
  cases hread : read s with
  | none =>
    rw [hread] at h
    cases h
  | some y =>
    rw [hread, Reading.of?] at h
    split_ifs at h
    · exact h
    · cases h

/-- What is read as a text is a literal of the text. -/
theorem exists_of_taken_value_text (h : taken value s = some (ofText t, r)) :
    ∃ b q, s = b ++ (q ++ r) ∧ Space b ∧ WritesLiteral q t := by
  rw [taken_value] at h
  split at h
  · cases h
  · split at h
    · cases h
    · simp [ofText] at h
  · split at h
    · cases h
    · simp [ofText] at h
  · have hread := eq_some_of_taken_of? h
    unfold scalar? at hread
    split at hread
    · next rest hquote =>
      obtain ⟨⟨k, r'⟩, hrest, heq⟩ := Option.map_eq_some_iff.1 hread
      cases heq
      obtain ⟨b, rfl, hb⟩ := exists_of_skip_eq_cons hquote
      obtain ⟨w, rfl, hw⟩ := exists_of_stringRest hrest
      exact ⟨b, '"' :: (w ++ ['"']), by simp, hb, w, rfl, hw⟩
    all_goals simp [ofText] at hread

/-- What is read as the items of an array, all of them texts, writes those items. -/
theorem exists_of_taken_items (h : taken items s = some (l.map ofText, r)) :
    ∃ w, s = w ++ ']' :: r ∧ WritesItems w (l.map ofText) := by
  induction l generalizing s with
  | nil =>
    rw [taken_items] at h
    split at h
    · cases h
    · split at h <;> simp at h
  | cons t l ih =>
    rw [taken_items] at h
    split at h
    · cases h
    · next v r' hvalue =>
      split at h
      · next rest hclosing =>
        obtain ⟨⟨rfl, hl⟩, rfl⟩ : (v = ofText t ∧ [] = l.map ofText) ∧ rest = r := by simpa using h
        obtain ⟨b, q, rfl, hb, hq⟩ := exists_of_taken_value_text hvalue
        obtain ⟨b', rfl, hb'⟩ := exists_of_skip_eq_cons hclosing
        rw [List.map_cons, ← hl]
        exact ⟨b ++ (q ++ b'), by simp, .last hb (.text hq) hb'⟩
      · next rest hcomma =>
        obtain ⟨⟨vs, r''⟩, hitems, heq⟩ := Option.map_eq_some_iff.1 h
        obtain ⟨⟨rfl, rfl⟩, rfl⟩ : (v = ofText t ∧ vs = l.map ofText) ∧ r'' = r := by
          simpa using heq
        obtain ⟨b, q, rfl, hb, hq⟩ := exists_of_taken_value_text hvalue
        obtain ⟨b', rfl, hb'⟩ := exists_of_skip_eq_cons hcomma
        obtain ⟨w, rfl, hw⟩ := ih hitems
        exact ⟨b ++ (q ++ (b' ++ ',' :: w)), by simp, .cons hb (.text hq) hb' hw⟩
      · cases h

theorem exists_of_taken_value_texts (h : taken value s = some (ofTexts l, r)) :
    ∃ b w, s = b ++ (w ++ r) ∧ Space b ∧ Writes w (ofTexts l) := by
  rw [taken_value] at h
  split at h
  · cases h
  · next r' hopening =>
    obtain ⟨b, rfl, hb⟩ := exists_of_skip_eq_cons hopening
    split at h
    · next hclosing =>
      obtain ⟨b', rfl, hb'⟩ := exists_of_skip_eq_cons hclosing
      obtain ⟨hl, rfl⟩ : l = [] ∧ _ = r := by simpa [ofTexts] using h
      rw [hl]
      exact ⟨b, '[' :: (b' ++ [']']), by simp, hb, .emptyArray hb'⟩
    · obtain ⟨⟨items, r'⟩, hitems, heq⟩ := Option.map_eq_some_iff.1 h
      cases heq
      obtain ⟨w, rfl, hw⟩ := exists_of_taken_items hitems
      exact ⟨b, '[' :: (w ++ [']']), by simp, hb, .array hw⟩
  · split at h
    · cases h
    · simp [ofTexts] at h
  · have hread := eq_some_of_taken_of? h
    unfold scalar? at hread
    split at hread <;> simp [ofTexts] at hread

theorem text?_eq_some_iff {v : Json} : v.text? = some t ↔ v = ofText t := by
  cases v <;> simp [text?, ofText]

theorem mapM_text?_eq_some_iff {vs : List Json} : vs.mapM text? = some l ↔ vs = l.map ofText := by
  induction vs generalizing l with
  | nil => cases l <;> simp
  | cons v vs ih =>
    cases l <;> simp [List.mapM_cons, Option.bind_eq_some_iff, text?_eq_some_iff, ih]

theorem texts?_eq_some_iff {v : Json} : v.texts? = some l ↔ v = ofTexts l := by
  cases v with
  | array vs => rw [texts?, ofTexts, array.injEq, mapM_text?_eq_some_iff]
  | _ => simp [texts?, ofTexts]

/-! ## Documents -/

/-- The document is an array of literals of the texts, with any blanks between its tokens. -/
def Lists (s : Text) (l : List Text) : Prop :=
  ∃ b w b', s = b ++ (w ++ b') ∧ Space b ∧ Writes w (ofTexts l) ∧ Space b'

/-- **A document that lists texts is read as the array of them, and no other document is.** -/
theorem parse?_eq_ofTexts_iff : parse? s = some (ofTexts l) ↔ Lists s l := by
  constructor
  · intro h
    rw [parse?_eq] at h
    split at h
    · next v rest hvalue =>
      split_ifs at h with hrest
      obtain rfl := Option.some.inj h
      obtain ⟨b, w, rfl, hb, hw⟩ := exists_of_taken_value_texts hvalue
      exact ⟨b, w, rest, rfl, hb, hw, List.dropWhile_eq_nil_iff.1 (List.isEmpty_iff.1 hrest)⟩
    · cases h
  · rintro ⟨b, w, b', rfl, hb, hw, hb'⟩
    exact parse?_of_writes hb hw hb'

end ExportSurface.Json
