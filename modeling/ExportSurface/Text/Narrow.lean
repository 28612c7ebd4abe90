import ExportSurface.Text.Basic

/-!
# Bytes as characters

Programs that work on bytes are described more plainly on characters. Each byte is one of the first
256 characters, and going there and back changes nothing (`bytes_characters`).
-/

namespace ExportSurface

/-- Each byte as the character of its number. -/
def Bytes.characters (b : Bytes) : Text := b.map fun x => Char.ofNat x.toNat

/-- Each character as the byte of its number, as far as a byte reaches. -/
def Text.bytes (t : Text) : Bytes := t.map fun c => c.toNat.toUInt8

theorem Text.toNat_ofNat_byte (x : UInt8) : (Char.ofNat x.toNat).toNat = x.toNat := by
  have h : x.toNat < 256 := x.toNat_lt
  have v : x.toNat.isValidChar := Or.inl (Nat.lt_trans h (by decide))
  rw [Char.ofNat, dif_pos v]
  rfl

@[simp]
theorem Text.bytes_characters (b : Bytes) : (Bytes.characters b).bytes = b := by
  induction b with
  | nil => rfl
  | cons x r ih =>
    simp only [Bytes.characters, Text.bytes, List.map_cons, List.map_map] at ih ⊢
    rw [Text.toNat_ofNat_byte, ih]
    simp

end ExportSurface
