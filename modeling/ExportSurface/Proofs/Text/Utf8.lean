import ExportSurface.Text.Utf8
import Mathlib.Data.List.Basic

/-!
# Reading back what was encoded

`Utf8.decode?_eq_some_iff`: the bytes of a text decode to the text, and no other bytes do. The four
lengths of a sequence are taken one by one.

* `scan_one` to `scan_four` say what reading makes of a sequence of each length, and
  `scan_encodeChar_append` that the bytes of a character are such a sequence.
* `encodeChar_assemble_one` to `encodeChar_assemble_four` say that the character of a sequence has the
  bytes of the sequence.
-/

namespace ExportSurface.Utf8

/-! ## Bytes as numbers -/

theorem isContinuation_iff {b : UInt8} : isContinuation b ↔ 0x80 ≤ b.toNat ∧ b.toNat ≤ 0xBF := by
  simp [isContinuation, UInt8.le_iff_toNat_le]

/-- The byte behind the first one has narrower bounds after four first bytes. -/
theorem continues_iff {b b₁ : UInt8} :
    continues b b₁ ↔ 0xC2 ≤ b.toNat ∧ b.toNat ≤ 0xF4 ∧ 0x80 ≤ b₁.toNat ∧ b₁.toNat ≤ 0xBF ∧
      (b.toNat = 0xE0 → 0xA0 ≤ b₁.toNat) ∧ (b.toNat = 0xED → b₁.toNat ≤ 0x9F) ∧
      (b.toNat = 0xF0 → 0x90 ≤ b₁.toNat) ∧ (b.toNat = 0xF4 → b₁.toNat ≤ 0x8F) := by
  simp only [continues, UInt8.lt_iff_toNat_lt, UInt8.le_iff_toNat_le, ← UInt8.toNat_inj,
    UInt8.reduceToNat]
  split_ifs <;> simp only [isContinuation_iff, Bool.and_eq_true, decide_eq_true_eq,
    false_iff] <;> omega

/-! ## Sequences of each length -/

variable {b b₁ b₂ b₃ : UInt8} {r : Bytes}

theorem scan_one (h : b.toNat < 0x80) :
    scan (b :: r) = .scalar (assemble b.toNat []) :: scan r := by
  have hb : b < 0x80 := h
  rw [scan.eq_def]
  simp [hb]

theorem scan_two (h₁ : continues b b₁) (h : b.toNat < 0xE0) :
    scan (b :: b₁ :: r) = .scalar (assemble (b.toNat - 0xC0) [b₁]) :: scan r := by
  have hb : ¬b < 0x80 := by
    have := continues_iff.1 h₁
    simp only [UInt8.lt_iff_toNat_lt, UInt8.reduceToNat]
    omega
  have hlt : b < 0xE0 := h
  rw [scan.eq_def]
  simp [hb, h₁, hlt]

theorem scan_three (h₁ : continues b b₁) (hb : 0xE0 ≤ b.toNat) (h : b.toNat < 0xF0)
    (h₂ : isContinuation b₂) :
    scan (b :: b₁ :: b₂ :: r) = .scalar (assemble (b.toNat - 0xE0) [b₁, b₂]) :: scan r := by
  have hlt₁ : ¬b < 0x80 := by
    simp only [UInt8.lt_iff_toNat_lt, UInt8.reduceToNat]
    omega
  have hlt₂ : ¬b < 0xE0 := by
    simp only [UInt8.lt_iff_toNat_lt, UInt8.reduceToNat]
    omega
  have hlt₃ : b < 0xF0 := h
  rw [scan.eq_def]
  simp [hlt₁, hlt₂, hlt₃, h₁, h₂]

theorem scan_four (h₁ : continues b b₁) (hb : 0xF0 ≤ b.toNat) (h₂ : isContinuation b₂)
    (h₃ : isContinuation b₃) :
    scan (b :: b₁ :: b₂ :: b₃ :: r) =
      .scalar (assemble (b.toNat - 0xF0) [b₁, b₂, b₃]) :: scan r := by
  have hlt {k : UInt8} (hk : k.toNat ≤ 0xF0) : ¬b < k := by
    simp only [UInt8.lt_iff_toNat_lt]
    omega
  rw [scan.eq_def]
  simp [hlt (k := 0x80) (by decide), hlt (k := 0xE0) (by decide), hlt (k := 0xF0) (by decide),
    h₁, h₂, h₃]

/-! ## Characters -/

theorem toNat_toUInt8 {n : Nat} (h : n < 256) : n.toUInt8.toNat = n :=
  UInt8.toNat_ofNat_of_lt' h

/-- The numbers of characters: below the surrogates or above them, and below 0x110000. -/
theorem toNat_bounds (c : Char) :
    c.toNat < 0xD800 ∨ 0xDFFF < c.toNat ∧ c.toNat < 0x110000 := c.valid

/-- **The bytes of a character read as the character**, whatever follows them. -/
theorem scan_encodeChar_append (c : Char) (r : Bytes) :
    scan (encodeChar c ++ r) = .scalar c :: scan r := by
  have hc := toNat_bounds c
  have hchar {n : Nat} (h : n = c.toNat) : Char.ofNat n = c := h ▸ Char.ofNat_toNat c
  unfold encodeChar
  dsimp only
  split_ifs with h₁ h₂ h₃
  · have e := toNat_toUInt8 (n := c.toNat) (by omega)
    rw [List.singleton_append, scan_one (by omega), assemble, List.foldl_nil, hchar e]
  · have e := toNat_toUInt8 (n := 0xC0 + c.toNat / 64) (by omega)
    have e₁ := toNat_toUInt8 (n := 0x80 + c.toNat % 64) (by omega)
    rw [List.cons_append, List.singleton_append, scan_two (continues_iff.2 (by omega)) (by omega),
      assemble, List.foldl_cons, List.foldl_nil, hchar (by omega)]
  · have e := toNat_toUInt8 (n := 0xE0 + c.toNat / 4096) (by omega)
    have e₁ := toNat_toUInt8 (n := 0x80 + c.toNat / 64 % 64) (by omega)
    have e₂ := toNat_toUInt8 (n := 0x80 + c.toNat % 64) (by omega)
    rw [List.cons_append, List.cons_append, List.singleton_append,
      scan_three (continues_iff.2 (by omega)) (by omega) (by omega)
        (isContinuation_iff.2 (by omega)),
      assemble, List.foldl_cons, List.foldl_cons, List.foldl_nil, hchar (by omega)]
  · have e := toNat_toUInt8 (n := 0xF0 + c.toNat / 262144) (by omega)
    have e₁ := toNat_toUInt8 (n := 0x80 + c.toNat / 4096 % 64) (by omega)
    have e₂ := toNat_toUInt8 (n := 0x80 + c.toNat / 64 % 64) (by omega)
    have e₃ := toNat_toUInt8 (n := 0x80 + c.toNat % 64) (by omega)
    rw [List.cons_append, List.cons_append, List.cons_append, List.singleton_append,
      scan_four (continues_iff.2 (by omega)) (by omega) (isContinuation_iff.2 (by omega))
        (isContinuation_iff.2 (by omega)),
      assemble, List.foldl_cons, List.foldl_cons, List.foldl_cons, List.foldl_nil,
      hchar (by omega)]

theorem encodeChar_ne_nil (c : Char) : encodeChar c ≠ [] := by
  intro h
  have hscan := scan_encodeChar_append c []
  rw [h] at hscan
  cases hscan

theorem scan_encode (t : Text) : scan (encode t) = t.map .scalar := by
  induction t with
  | nil => rfl
  | cons c t ih =>
    rw [encode, List.flatMap_cons, scan_encodeChar_append, List.map_cons, ← ih, encode]

/-- **The bytes of a text decode to the text.** -/
theorem decode?_encode (t : Text) : decode? (encode t) = some t := by
  rw [decode?, scan_encode]
  induction t with
  | nil => rfl
  | cons c t ih => simp [Piece.scalar?, ih]

theorem encode_inj {s t : Text} : encode s = encode t ↔ s = t := by
  refine ⟨fun h => ?_, congrArg encode⟩
  have hdecode := congrArg decode? h
  rw [decode?_encode, decode?_encode] at hdecode
  exact Option.some.inj hdecode

/-! ## Only the bytes of texts decode -/

theorem toUInt8_of_eq {n : Nat} (h : n = b.toNat) : n.toUInt8 = b := by
  subst h
  exact UInt8.ofNat_toNat

theorem toNat_ofNat {n : Nat} (h : n < 0xD800 ∨ 0xDFFF < n ∧ n < 0x110000) :
    (Char.ofNat n).toNat = n := by
  have v : n.isValidChar := h
  rw [Char.ofNat, dif_pos v]
  rfl

theorem encodeChar_assemble_one (h : b.toNat < 0x80) : encodeChar (assemble b.toNat []) = [b] := by
  have hc : (assemble b.toNat []).toNat = b.toNat := toNat_ofNat (n := b.toNat) (by omega)
  simp only [encodeChar, hc]
  rw [if_pos h, toUInt8_of_eq rfl]

theorem encodeChar_assemble_two (h₁ : continues b b₁) (h : b.toNat < 0xE0) :
    encodeChar (assemble (b.toNat - 0xC0) [b₁]) = [b, b₁] := by
  have hb := continues_iff.1 h₁
  have hc : (assemble (b.toNat - 0xC0) [b₁]).toNat = (b.toNat - 0xC0) * 64 + (b₁.toNat - 0x80) :=
    toNat_ofNat (n := (b.toNat - 0xC0) * 64 + (b₁.toNat - 0x80)) (by omega)
  simp only [encodeChar, hc]
  rw [if_neg (by omega), if_pos (by omega), toUInt8_of_eq (b := b) (by omega),
    toUInt8_of_eq (b := b₁) (by omega)]

theorem encodeChar_assemble_three (h₁ : continues b b₁) (hb : 0xE0 ≤ b.toNat) (h : b.toNat < 0xF0)
    (h₂ : isContinuation b₂) :
    encodeChar (assemble (b.toNat - 0xE0) [b₁, b₂]) = [b, b₁, b₂] := by
  have hb₁ := continues_iff.1 h₁
  have hb₂ := isContinuation_iff.1 h₂
  have hc : (assemble (b.toNat - 0xE0) [b₁, b₂]).toNat =
      ((b.toNat - 0xE0) * 64 + (b₁.toNat - 0x80)) * 64 + (b₂.toNat - 0x80) :=
    toNat_ofNat (n := ((b.toNat - 0xE0) * 64 + (b₁.toNat - 0x80)) * 64 + (b₂.toNat - 0x80))
      (by omega)
  simp only [encodeChar, hc]
  rw [if_neg (by omega), if_neg (by omega), if_pos (by omega), toUInt8_of_eq (b := b) (by omega),
    toUInt8_of_eq (b := b₁) (by omega), toUInt8_of_eq (b := b₂) (by omega)]

theorem encodeChar_assemble_four (h₁ : continues b b₁) (hb : 0xF0 ≤ b.toNat)
    (h₂ : isContinuation b₂) (h₃ : isContinuation b₃) :
    encodeChar (assemble (b.toNat - 0xF0) [b₁, b₂, b₃]) = [b, b₁, b₂, b₃] := by
  have hb₁ := continues_iff.1 h₁
  have hb₂ := isContinuation_iff.1 h₂
  have hb₃ := isContinuation_iff.1 h₃
  have hc : (assemble (b.toNat - 0xF0) [b₁, b₂, b₃]).toNat =
      (((b.toNat - 0xF0) * 64 + (b₁.toNat - 0x80)) * 64 + (b₂.toNat - 0x80)) * 64 +
        (b₃.toNat - 0x80) :=
    toNat_ofNat (n := (((b.toNat - 0xF0) * 64 + (b₁.toNat - 0x80)) * 64 + (b₂.toNat - 0x80)) * 64 +
      (b₃.toNat - 0x80)) (by omega)
  simp only [encodeChar, hc]
  rw [if_neg (by omega), if_neg (by omega), if_neg (by omega), toUInt8_of_eq (b := b) (by omega),
    toUInt8_of_eq (b := b₁) (by omega), toUInt8_of_eq (b := b₂) (by omega),
    toUInt8_of_eq (b := b₃) (by omega)]

/-- A first character whose bytes are known, and the rest. -/
theorem encode_of_scalar_cons {c : Char} {lead : Bytes} {t : Text} (hc : encodeChar c = lead)
    (h : Piece.scalar c :: scan r = t.map .scalar)
    (hr : ∀ {t : Text}, scan r = t.map .scalar → encode t = r) : encode t = lead ++ r := by
  cases t with
  | nil => cases h
  | cons d t =>
    obtain ⟨hd, ht⟩ := List.cons.inj h
    obtain rfl := Piece.scalar.inj hd
    rw [encode, List.flatMap_cons, hc, ← encode, hr ht]

theorem broken_cons_ne {ps : List Piece} (t : Text) : Piece.broken :: ps ≠ t.map .scalar := by
  cases t <;> simp

/-- Bytes that are cut into characters alone are the bytes of these characters. -/
theorem encode_of_scan {bs : Bytes} {t : Text} (h : scan bs = t.map .scalar) : encode t = bs := by
  fun_induction scan bs generalizing t with
  | case1 =>
    obtain rfl := List.map_eq_nil_iff.1 h.symm
    rfl
  | case2 b r hlt ih => exact encode_of_scalar_cons (encodeChar_assemble_one hlt) h ih
  | case5 b hlow b₁ r h₁ hlt ih =>
    exact encode_of_scalar_cons (encodeChar_assemble_two (by simpa using h₁) hlt) h ih
  | case8 b hlow b₁ h₁ hge b₂ r h₂ hlt ih =>
    refine encode_of_scalar_cons (encodeChar_assemble_three (by simpa using h₁) ?_ hlt
      (by simpa using h₂)) h ih
    exact Nat.not_lt.1 hge
  | case11 b hlow b₁ h₁ hlong b₂ h₂ hge b₃ r h₃ ih =>
    refine encode_of_scalar_cons (encodeChar_assemble_four (by simpa using h₁) ?_
      (by simpa using h₂) (by simpa using h₃)) h ih
    exact Nat.not_lt.1 hge
  | case3 | case4 | case6 | case7 | case9 | case10 => exact absurd h (broken_cons_ne t)

theorem map_scalar_of_mapM {ps : List Piece} {t : Text} (h : ps.mapM Piece.scalar? = some t) :
    ps = t.map .scalar := by
  induction ps generalizing t with
  | nil =>
    obtain rfl : [] = t := by simpa using h
    rfl
  | cons p ps ih =>
    rw [List.mapM_cons] at h
    simp only [bind, Option.bind_eq_some_iff] at h
    obtain ⟨c, hc, u, hu, ht⟩ := h
    obtain rfl := Option.some.inj ht
    cases p with
    | broken => cases hc
    | scalar d =>
      obtain rfl := Option.some.inj hc
      rw [ih hu, List.map_cons]

/-- **The bytes that decode to a text are the bytes of the text.** -/
theorem decode?_eq_some_iff {bs : Bytes} {t : Text} : decode? bs = some t ↔ bs = encode t := by
  constructor
  · exact fun h => (encode_of_scan (map_scalar_of_mapM h)).symm
  · rintro rfl
    exact decode?_encode t

theorem decode?_eq_none_iff {bs : Bytes} : decode? bs = none ↔ ∀ t, bs ≠ encode t := by
  simp only [Option.eq_none_iff_forall_ne_some, ne_eq, decode?_eq_some_iff]

end ExportSurface.Utf8
