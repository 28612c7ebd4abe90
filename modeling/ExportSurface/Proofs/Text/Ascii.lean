import ExportSurface.Proofs.Text.Utf8
import ExportSurface.Text.Narrow

/-!
# Texts of the first 128 characters

Encoding such a text and taking each character as a byte come to the same.

* `Text.bytes_eq_encode` and `Bytes.characters_encode`: the two ways between texts and bytes agree.
* `Text.isAscii_of_encode`: bytes below 128 encode such texts only.
-/

namespace ExportSurface

/-- What holds of the bytes of all numbers below 256 holds of every byte. -/
theorem forall_byte {P : UInt8 → Prop} (h : ∀ n < 256, P n.toUInt8) (b : UInt8) : P b := by
  simpa using h b.toNat b.toNat_lt

/-- All characters of a text are among the first 128. -/
def Text.IsAscii (t : Text) : Prop := ∀ c ∈ t, c.toNat < 0x80

instance (t : Text) : Decidable t.IsAscii := List.decidableBAll _ t

namespace Text

variable {t u : Text}

theorem isAscii_append : IsAscii (t ++ u) ↔ IsAscii t ∧ IsAscii u := List.forall_mem_append

@[simp]
theorem bytes_append : Text.bytes (t ++ u) = t.bytes ++ u.bytes := List.map_append

theorem bytes_eq_encode (h : IsAscii t) : t.bytes = Utf8.encode t := by
  induction t with
  | nil => rfl
  | cons c r ih =>
    have hc : Utf8.encodeChar c = [c.toNat.toUInt8] := if_pos (h c (by simp))
    have hr := ih fun d hd => h d (by simp [hd])
    simp only [bytes, Utf8.encode, List.map_cons, List.flatMap_cons, hc] at hr ⊢
    simp [hr]

/-- Every character above the first 128 has a byte that says so. -/
theorem isAscii_of_encode (h : ∀ b ∈ Utf8.encode t, b.toNat < 0x80) : IsAscii t := by
  intro c hc
  by_contra hlarge
  obtain ⟨b, hb, hbig⟩ : ∃ b ∈ Utf8.encodeChar c, 0x80 ≤ b.toNat := by
    have := Utf8.toNat_bounds c
    simp only [Utf8.encodeChar, if_neg hlarge]
    split_ifs
    · exact ⟨_, List.mem_cons_self, by rw [Utf8.toNat_toUInt8 (by omega)]; omega⟩
    · exact ⟨_, List.mem_cons_self, by rw [Utf8.toNat_toUInt8 (by omega)]; omega⟩
    · exact ⟨_, List.mem_cons_self, by rw [Utf8.toNat_toUInt8 (by omega)]; omega⟩
  exact absurd (h b (List.mem_flatMap.2 ⟨c, hc, hb⟩)) (by omega)

end Text

theorem Bytes.characters_bytes {t : Text} (h : t.IsAscii) : Bytes.characters t.bytes = t := by
  induction t with
  | nil => rfl
  | cons c r ih =>
    have hc : Char.ofNat c.toNat.toUInt8.toNat = c := by
      have := h c (by simp)
      rw [Utf8.toNat_toUInt8 (by omega), Char.ofNat_toNat]
    have hr := ih fun d hd => h d (by simp [hd])
    simp only [Bytes.characters, Text.bytes, List.map_cons, hc] at hr ⊢
    rw [hr]

theorem Bytes.characters_encode {t : Text} (h : t.IsAscii) :
    Bytes.characters (Utf8.encode t) = t := by
  rw [← Text.bytes_eq_encode h, Bytes.characters_bytes h]

end ExportSurface
