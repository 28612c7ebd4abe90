import ExportSurface.Proofs.Text.Utf8

/-!
# Reading broken bytes as text

What the text of arbitrary bytes is, said without the reader that cuts them. Where no character
stands, the bytes are broken, and the broken part is the longest start of a character that stands
there, or one byte if none does.

* `IsBroken part rest`: the part is that of the broken bytes `part ++ rest`. `isBroken_of_scan` proves
  it of what the reader cuts off.
* `Shows bs t`: the text has the characters of the bytes, and U+FFFD for each broken part.
  `shows_iff` is `Utf8.decodeLossy` against this.
-/

namespace ExportSurface.Utf8

variable {b b₁ b₂ : UInt8} {bs part rest r : Bytes} {t u : Text}

/-! ## Broken parts -/

/-- The bytes start the bytes of some character. -/
def IsStart (s : Bytes) : Prop := ∃ c, s <+: encodeChar c

/-- In front of `rest`, the bytes `part` are broken: no character stands there, and `part` is the
longest start of a character that does, or a single byte. -/
structure IsBroken (part rest : Bytes) : Prop where
  not_character : ∀ c, ¬encodeChar c <+: part ++ rest
  start_or_single : part ≠ [] ∧ IsStart part ∨ part.length = 1
  longest : ∀ s, s <+: part ++ rest → IsStart s → s.length ≤ part.length

theorem IsBroken.ne_nil (h : IsBroken part rest) : part ≠ [] := by
  rcases h.start_or_single with ⟨hne, -⟩ | hone
  · exact hne
  · exact List.ne_nil_of_length_eq_add_one hone

/-- The same bytes have one broken part. -/
theorem IsBroken.length_le {part' rest' : Bytes} (h : IsBroken part rest)
    (h' : IsBroken part' rest') (heq : part ++ rest = part' ++ rest') :
    part.length ≤ part'.length := by
  rcases h.start_or_single with ⟨-, hstart⟩ | hone
  · exact h'.longest part (heq ▸ List.prefix_append part rest) hstart
  · have hpos := List.length_pos_iff.2 h'.ne_nil
    omega

/-! ## What the reader cuts off -/

theorem scan_ne_broken_cons (c : Char) (more : Bytes) (ps : List Piece) :
    scan (encodeChar c ++ more) ≠ .broken :: ps := by
  rw [scan_encodeChar_append]
  exact fun h => Piece.noConfusion (List.cons.inj h).1

/-- The reader looks at one byte behind a broken part. If it cuts the part off whatever stands behind
that byte, then no longer start of a character can stand there. -/
theorem isBroken_of_scan (hpart : part ≠ [] ∧ IsStart part ∨ part.length = 1)
    (hscan : ∀ more, more.head? = rest.head? → ∃ ps, scan (part ++ more) = .broken :: ps) :
    IsBroken part rest where
  not_character := by
    rintro c ⟨more, hmore⟩
    obtain ⟨ps, hps⟩ := hscan rest rfl
    exact scan_ne_broken_cons c more ps (hmore ▸ hps)
  start_or_single := hpart
  longest := by
    rintro s hs ⟨c, more, hmore⟩
    by_contra hlen
    obtain ⟨ext, rfl⟩ := List.prefix_of_prefix_length_le (List.prefix_append part rest) hs (by omega)
    obtain ⟨tail, rfl⟩ := (List.prefix_append_right_inj part).1 hs
    cases ext with
    | nil => simp at hlen
    | cons b ext =>
      obtain ⟨ps, hps⟩ := hscan (b :: ext ++ more) rfl
      rw [← List.append_assoc, hmore, ← List.append_nil (encodeChar c)] at hps
      exact scan_ne_broken_cons c [] ps hps

theorem scan_broken_one (hb : ¬b < 0x80) (h₁ : ∀ b₁ ∈ r.head?, ¬continues b b₁) :
    scan (b :: r) = .broken :: scan r := by
  rw [scan.eq_def]
  cases r with
  | nil => simp [hb, scan]
  | cons b₁ r => simp [hb, h₁ b₁ rfl]

theorem scan_broken_two (hb : ¬b < 0x80) (h₁ : continues b b₁) (hb₁ : ¬b < 0xE0)
    (h₂ : ∀ b₂ ∈ r.head?, ¬isContinuation b₂) : scan (b :: b₁ :: r) = .broken :: scan r := by
  rw [scan.eq_def]
  cases r with
  | nil => simp [hb, h₁, hb₁, scan]
  | cons b₂ r => simp [hb, h₁, hb₁, h₂ b₂ rfl]

theorem scan_broken_three (hb : ¬b < 0x80) (h₁ : continues b b₁) (hb₁ : ¬b < 0xE0)
    (h₂ : isContinuation b₂) (hb₂ : ¬b < 0xF0) (h₃ : ∀ b₃ ∈ r.head?, ¬isContinuation b₃) :
    scan (b :: b₁ :: b₂ :: r) = .broken :: scan r := by
  rw [scan.eq_def]
  cases r with
  | nil => simp [hb, h₁, hb₁, h₂, hb₂, scan]
  | cons b₃ r => simp [hb, h₁, hb₁, h₂, hb₂, h₃ b₃ rfl]

/-- Two bytes that go together start a character, whether it has three bytes or four. -/
theorem isStart_two (h₁ : continues b b₁) (hb : ¬b < 0xE0) : IsStart [b, b₁] := by
  have hlow : 0xE0 ≤ b.toNat := Nat.not_lt.1 hb
  have hmore : isContinuation 0x80 := by decide
  by_cases hlt : b.toNat < 0xF0
  · exact ⟨_, [0x80], (encodeChar_assemble_three h₁ hlow hlt hmore).symm⟩
  · exact ⟨_, [0x80, 0x80], (encodeChar_assemble_four h₁ (by omega) hmore hmore).symm⟩

theorem isStart_three (h₁ : continues b b₁) (h₂ : isContinuation b₂) (hb : ¬b < 0xF0) :
    IsStart [b, b₁, b₂] := by
  have hmore : isContinuation 0x80 := by decide
  exact ⟨_, [0x80], (encodeChar_assemble_four h₁ (Nat.not_lt.1 hb) h₂ hmore).symm⟩

theorem isBroken_one (hb : ¬b < 0x80) (h₁ : ∀ b₁ ∈ r.head?, ¬continues b b₁) : IsBroken [b] r :=
  isBroken_of_scan (.inr rfl) fun _ hmore => ⟨_, scan_broken_one hb (hmore ▸ h₁)⟩

theorem isBroken_two (hb : ¬b < 0x80) (h₁ : continues b b₁) (hb₁ : ¬b < 0xE0)
    (h₂ : ∀ b₂ ∈ r.head?, ¬isContinuation b₂) : IsBroken [b, b₁] r :=
  isBroken_of_scan (.inl ⟨List.cons_ne_nil _ _, isStart_two h₁ hb₁⟩) fun _ hmore =>
    ⟨_, scan_broken_two hb h₁ hb₁ (hmore ▸ h₂)⟩

theorem isBroken_three (hb : ¬b < 0x80) (h₁ : continues b b₁) (hb₁ : ¬b < 0xE0)
    (h₂ : isContinuation b₂) (hb₂ : ¬b < 0xF0) (h₃ : ∀ b₃ ∈ r.head?, ¬isContinuation b₃) :
    IsBroken [b, b₁, b₂] r :=
  isBroken_of_scan (.inl ⟨List.cons_ne_nil _ _, isStart_three h₁ h₂ hb₂⟩) fun _ hmore =>
    ⟨_, scan_broken_three hb h₁ hb₁ h₂ hb₂ (hmore ▸ h₃)⟩

/-! ## Texts of bytes -/

/-- The text has the characters of the bytes, and U+FFFD for each broken part. -/
inductive Shows : Bytes → Text → Prop
  | nil : Shows [] []
  | character (c : Char) {rest : Bytes} {t : Text} (h : Shows rest t) :
      Shows (encodeChar c ++ rest) (c :: t)
  | broken {part rest : Bytes} {t : Text} (hpart : IsBroken part rest) (h : Shows rest t) :
      Shows (part ++ rest) ('\uFFFD' :: t)

theorem Shows.of_encodeChar {c : Char} {lead : Bytes} (hc : encodeChar c = lead) (h : Shows rest t) :
    Shows (lead ++ rest) (c :: t) := hc ▸ .character c h

/-- Bytes that a character starts show that character first. -/
theorem Shows.exists_of_encodeChar_append {c : Char} (h : Shows bs u)
    (hbs : bs = encodeChar c ++ rest) : ∃ t, u = c :: t ∧ Shows rest t := by
  cases h with
  | nil => exact absurd (List.append_eq_nil_iff.1 hbs.symm).1 (encodeChar_ne_nil c)
  | character d h =>
    have hscan := congrArg scan hbs
    rw [scan_encodeChar_append, scan_encodeChar_append] at hscan
    obtain rfl := Piece.scalar.inj (List.cons.inj hscan).1
    obtain rfl := List.append_cancel_left hbs
    exact ⟨_, rfl, h⟩
  | broken hpart h => exact absurd ⟨rest, hbs.symm⟩ (hpart.not_character c)

/-- Bytes that are broken at their start show U+FFFD first. -/
theorem Shows.exists_of_broken_append (h : Shows bs u) (hpart : IsBroken part rest)
    (hbs : bs = part ++ rest) : ∃ t, u = '\uFFFD' :: t ∧ Shows rest t := by
  cases h with
  | nil => exact absurd (List.append_eq_nil_iff.1 hbs.symm).1 hpart.ne_nil
  | character c h => exact absurd ⟨_, hbs⟩ (hpart.not_character c)
  | broken hpart' h =>
    have hlen := Nat.le_antisymm (hpart'.length_le hpart hbs) (hpart.length_le hpart' hbs.symm)
    obtain ⟨-, rfl⟩ := List.append_inj hbs hlen
    exact ⟨_, rfl, h⟩

theorem Shows.eq_nil (h : Shows bs u) (hbs : bs = []) : u = [] := by
  cases h with
  | nil => rfl
  | character c _ => exact absurd (List.append_eq_nil_iff.1 hbs).1 (encodeChar_ne_nil c)
  | broken hpart _ => exact absurd (List.append_eq_nil_iff.1 hbs).1 hpart.ne_nil

/-- Bytes show one text only. -/
theorem Shows.unique (h : Shows bs t) (h' : Shows bs u) : t = u := by
  induction h generalizing u with
  | nil => exact (h'.eq_nil rfl).symm
  | character c _ ih =>
    obtain ⟨t', rfl, ht'⟩ := h'.exists_of_encodeChar_append rfl
    rw [ih ht']
  | broken hpart _ ih =>
    obtain ⟨t', rfl, ht'⟩ := h'.exists_of_broken_append hpart rfl
    rw [ih ht']

theorem shows_decodeLossy (bs : Bytes) : Shows bs (decodeLossy bs) := by
  unfold decodeLossy
  fun_induction scan bs with
  | case1 => exact .nil
  | case2 b r hlt ih => exact .of_encodeChar (encodeChar_assemble_one hlt) ih
  | case3 b hb => exact .broken (isBroken_one hb (by simp)) .nil
  | case4 b hb b₁ r h₁ ih => exact .broken (isBroken_one hb (by simpa using h₁)) ih
  | case5 b hb b₁ r h₁ hlt ih =>
    exact .of_encodeChar (encodeChar_assemble_two (by simpa using h₁) hlt) ih
  | case6 b hb b₁ h₁ hge => exact .broken (isBroken_two hb (by simpa using h₁) hge (by simp)) .nil
  | case7 b hb b₁ h₁ hge b₂ r h₂ ih =>
    exact .broken (isBroken_two hb (by simpa using h₁) hge (by simpa using h₂)) ih
  | case8 b hb b₁ h₁ hge b₂ r h₂ hlt ih =>
    exact .of_encodeChar (encodeChar_assemble_three (by simpa using h₁) (Nat.not_lt.1 hge) hlt
      (by simpa using h₂)) ih
  | case9 b hb b₁ h₁ hge b₂ h₂ hge' =>
    exact .broken (isBroken_three hb (by simpa using h₁) hge (by simpa using h₂) hge' (by simp)) .nil
  | case10 b hb b₁ h₁ hge b₂ h₂ hge' b₃ r h₃ ih =>
    exact .broken (isBroken_three hb (by simpa using h₁) hge (by simpa using h₂) hge'
      (by simpa using h₃)) ih
  | case11 b hb b₁ h₁ hge b₂ h₂ hge' b₃ r h₃ ih =>
    exact .of_encodeChar (encodeChar_assemble_four (by simpa using h₁) (Nat.not_lt.1 hge')
      (by simpa using h₂) (by simpa using h₃)) ih

/-- **Lossy reading shows the bytes**: it gives the characters of the bytes, and U+FFFD for each of
their broken parts. -/
theorem shows_iff : Shows bs t ↔ decodeLossy bs = t := by
  constructor
  · exact fun h => (shows_decodeLossy bs).unique h
  · rintro rfl
    exact shows_decodeLossy bs

end ExportSurface.Utf8
