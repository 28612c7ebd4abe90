import ExportSurface.Proofs.Text.Utf8

/-!
# The order of texts

Texts are ordered by their code points, and their bytes are ordered in the same way.

* `Text.codePoints_lt_codePoints` and `Utf8.encode_lt_encode`: of two texts in order, the code points
  and the bytes are in order.
* `Utf8.encodeChar_lt_encodeChar` is the case of one character. The bytes of a character do not start
  those of another one (`Utf8.eq_of_encodeChar_isPrefix`), so what follows them does not matter.
-/

namespace ExportSurface

/-- A list that comes before another one and does not start it comes before it whatever follows the
two. -/
theorem append_lt_append_of_not_isPrefix {α : Type} [LT α] {a b : List α} (h : a < b)
    (hstart : ¬a <+: b) (r s : List α) : a ++ r < b ++ s := by
  induction h with
  | nil => exact absurd List.nil_prefix hstart
  | rel h => exact .rel h
  | cons h ih => exact .cons (ih fun hp => hstart (List.cons_prefix_cons.2 ⟨rfl, hp⟩))

/-- The code points of a text. -/
def Text.codePoints (t : Text) : List Nat := t.map Char.toNat

theorem Text.codePoints_lt_codePoints {a b : Text} (h : a < b) : a.codePoints < b.codePoints :=
  List.map_lt (fun _ _ hc => hc) h

namespace Utf8

theorem cons_lt_cons_iff_toNat {b b' : UInt8} {r r' : Bytes} :
    b :: r < b' :: r' ↔ b.toNat < b'.toNat ∨ b.toNat = b'.toNat ∧ r < r' := by
  rw [List.cons_lt_cons_iff, UInt8.lt_iff_toNat_lt, UInt8.toNat_inj]

/-- The first byte tells the length of a sequence, and longer sequences start with greater bytes. -/
theorem encodeChar_lt_encodeChar {c d : Char} (h : c < d) : encodeChar c < encodeChar d := by
  have hlt : c.toNat < d.toNat := h
  have hd := toNat_bounds d
  unfold encodeChar
  dsimp only
  split_ifs <;> simp (disch := omega) only [cons_lt_cons_iff_toNat, toNat_toUInt8,
    List.lt_irrefl, List.not_lt_nil, List.nil_lt_cons, and_false, and_true, or_false] <;> omega

theorem eq_of_encodeChar_isPrefix {c d : Char} (h : encodeChar c <+: encodeChar d) : c = d := by
  obtain ⟨r, hr⟩ := h
  have hscan := congrArg scan hr
  rw [scan_encodeChar_append, ← List.append_nil (encodeChar d), scan_encodeChar_append] at hscan
  exact Piece.scalar.inj (List.cons.inj hscan).1

/-- **The bytes of texts are ordered like the texts.** -/
theorem encode_lt_encode {a b : Text} (h : a < b) : encode a < encode b := by
  induction h with
  | @nil c t =>
    obtain ⟨b, r, hb⟩ := List.exists_cons_of_ne_nil (encodeChar_ne_nil c)
    rw [encode, encode, List.flatMap_cons, hb]
    exact .nil
  | rel h =>
    refine append_lt_append_of_not_isPrefix (encodeChar_lt_encodeChar h) (fun hstart => ?_) _ _
    rw [eq_of_encodeChar_isPrefix hstart] at h
    exact Char.lt_irrefl _ h
  | cons h ih => exact List.append_left_lt ih

end Utf8

end ExportSurface
