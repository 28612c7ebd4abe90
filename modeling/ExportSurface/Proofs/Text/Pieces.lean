import ExportSurface.Text.Basic
import Mathlib.Data.List.TakeWhile

/-!
# Cutting at a separator

How `pieces` meets concatenation, which is what every reader of lines and stretches rests on.

* `pieces_append_cons`: cutting a text that is put together at a separator cuts the two parts.
* `pieces_flatMap_concat`: a text of ended lines is cut into the pieces of the lines and an empty
  end.
* `pieces_join`: stretches without separators that are joined are cut apart again. The pieces are
  contiguous parts of what is cut (`isInfix_of_mem_pieces`), one more than there are separators
  (`length_pieces`).
* `cutInduction`: what holds without separators, and in front of a separator, holds everywhere.
-/

namespace ExportSurface

/-- A list is cut at its first separator in one way only. -/
theorem append_cons_inj_of_not_mem {α : Type} {sep : α} {a a' b b' : List α} (ha : sep ∉ a)
    (ha' : sep ∉ a') (h : a ++ sep :: b = a' ++ sep :: b') : a = a' ∧ b = b' := by
  induction a generalizing a' with
  | nil =>
    cases a' with
    | nil => exact ⟨rfl, (List.cons.inj h).2⟩
    | cons c a' => exact absurd ((List.cons.inj h).1 ▸ List.mem_cons_self) ha'
  | cons c a ih =>
    cases a' with
    | nil => exact absurd ((List.cons.inj h).1 ▸ List.mem_cons_self) ha
    | cons c' a' =>
      simp only [List.cons_append, List.cons.injEq] at h
      obtain ⟨rfl, h⟩ := h
      obtain ⟨rfl, rfl⟩ := ih (fun hm => ha (List.mem_cons_of_mem c hm))
        (fun hm => ha' (List.mem_cons_of_mem c hm)) h
      exact ⟨rfl, rfl⟩

theorem mem_join {α : Type} {sep c : α} {ls : List (List α)} (h : c ∈ join sep ls) :
    c = sep ∨ ∃ l ∈ ls, c ∈ l := by
  induction ls with
  | nil => exact absurd h List.not_mem_nil
  | cons l ls ih =>
    cases ls with
    | nil => exact .inr ⟨l, List.mem_cons_self, h⟩
    | cons m ls =>
      rcases List.mem_append.1 h with h | h
      · exact .inr ⟨l, List.mem_cons_self, h⟩
      · rcases List.mem_cons.1 h with rfl | h
        · exact .inl rfl
        · exact (ih h).imp_right fun ⟨k, hk, hc⟩ => ⟨k, List.mem_cons_of_mem l hk, hc⟩

variable {α : Type} [DecidableEq α] {sep : α}

/-! ## One stretch -/

theorem pieces_of_not_mem {s : List α} (h : sep ∉ s) : pieces sep s = [s] := by
  induction s with
  | nil => rfl
  | cons c r ih =>
    have hc : ¬c = sep := fun hc => h (by simp [hc])
    have hr : sep ∉ r := fun hr => h (List.mem_cons_of_mem c hr)
    simp [pieces, hc, ih hr]

theorem not_mem_of_mem_pieces {s p : List α} (hp : p ∈ pieces sep s) : sep ∉ p := by
  induction s generalizing p with
  | nil =>
    obtain rfl : p = [] := by simpa [pieces] using hp
    exact List.not_mem_nil
  | cons c r ih =>
    obtain ⟨q, qs, h⟩ := List.exists_cons_of_ne_nil (pieces_ne_nil sep r)
    by_cases hc : c = sep
    · rcases List.mem_cons.1 (by simpa [pieces, hc] using hp) with rfl | hp
      · exact List.not_mem_nil
      · exact ih hp
    · rcases List.mem_cons.1 (by simpa [pieces, hc, h] using hp) with rfl | hp
      · have hq : sep ∉ q := ih (h ▸ List.mem_cons_self)
        exact fun hm => (List.mem_cons.1 hm).elim (fun e => hc e.symm) hq
      · exact ih (h ▸ List.mem_cons_of_mem q hp)

theorem isInfix_join_of_mem {α : Type} {sep : α} {p : List α} {ls : List (List α)} (h : p ∈ ls) :
    p <:+: join sep ls := by
  induction ls with
  | nil => exact absurd h List.not_mem_nil
  | cons l ls ih =>
    cases ls with
    | nil => exact List.mem_singleton.1 h ▸ List.infix_rfl
    | cons m ls =>
      rcases List.mem_cons.1 h with rfl | h
      · exact (List.prefix_append p _).isInfix
      · exact (ih h).trans ((List.suffix_cons sep _).isInfix.trans (List.suffix_append l _).isInfix)

theorem isInfix_of_mem_pieces {s p : List α} (hp : p ∈ pieces sep s) : p <:+: s := by
  have hjoin : p <:+: join sep (pieces sep s) := isInfix_join_of_mem hp
  rwa [join_pieces] at hjoin

/-- There is one piece more than there are separators. -/
theorem length_pieces (sep : α) (s : List α) : (pieces sep s).length = s.count sep + 1 := by
  induction s with
  | nil => rfl
  | cons c r ih =>
    obtain ⟨p, ps, h⟩ := List.exists_cons_of_ne_nil (pieces_ne_nil sep r)
    by_cases hc : c = sep
    · simp [pieces, hc, ih]
    · simpa [pieces, hc, h] using ih

/-! ## Concatenation -/

/-- **Cutting is compositional at separators.** -/
theorem pieces_append_cons (a b : List α) :
    pieces sep (a ++ sep :: b) = pieces sep a ++ pieces sep b := by
  induction a with
  | nil => simp [pieces]
  | cons c a ih =>
    obtain ⟨p, ps, h⟩ := List.exists_cons_of_ne_nil (pieces_ne_nil sep a)
    by_cases hc : c = sep
    · simp [pieces, hc, ih]
    · simp [pieces, hc, ih, h]

theorem pieces_flatMap_concat (ls : List (List α)) (rest : List α) :
    pieces sep (ls.flatMap (· ++ [sep]) ++ rest) = ls.flatMap (pieces sep) ++ pieces sep rest := by
  induction ls with
  | nil => rfl
  | cons l ls ih =>
    rw [List.flatMap_cons, List.flatMap_cons, List.append_assoc, List.append_assoc,
      List.append_assoc, ← ih]
    exact pieces_append_cons l _

theorem pieces_join {ls : List (List α)} (hne : ls ≠ []) (h : ∀ l ∈ ls, sep ∉ l) :
    pieces sep (join sep ls) = ls := by
  induction ls with
  | nil => exact absurd rfl hne
  | cons l ls ih =>
    have hl : sep ∉ l := h l List.mem_cons_self
    cases ls with
    | nil => exact pieces_of_not_mem hl
    | cons m ls =>
      have hrest := ih (List.cons_ne_nil m ls) fun x hx => h x (List.mem_cons_of_mem l hx)
      rw [join, pieces_append_cons, pieces_of_not_mem hl, hrest]
      rfl

/-! ## The first separator -/

theorem dropWhile_ne_of_not_mem {s : List α} (h : sep ∉ s) : s.dropWhile (· ≠ sep) = [] :=
  List.dropWhile_eq_nil_iff.2 fun _ hc => decide_eq_true (ne_of_mem_of_not_mem hc h)

theorem dropWhile_ne_append_cons {a : List α} (h : sep ∉ a) (b : List α) :
    (a ++ sep :: b).dropWhile (· ≠ sep) = sep :: b := by
  rw [List.dropWhile_append_of_pos fun _ hc => decide_eq_true (ne_of_mem_of_not_mem hc h)]
  exact List.dropWhile_cons_of_neg (by simp)

/-! ## Induction on the cuts -/

theorem not_mem_or_eq_append_cons (sep : α) (s : List α) :
    sep ∉ s ∨ ∃ a b, sep ∉ a ∧ s = a ++ sep :: b := by
  induction s with
  | nil => exact .inl List.not_mem_nil
  | cons c r ih =>
    by_cases hc : c = sep
    · exact .inr ⟨[], r, List.not_mem_nil, by simp [hc]⟩
    · rcases ih with hr | ⟨a, b, ha, rfl⟩
      · exact .inl fun hm => (List.mem_cons.1 hm).elim (fun e => hc e.symm) hr
      · refine .inr ⟨c :: a, b, fun hm => ?_, rfl⟩
        exact (List.mem_cons.1 hm).elim (fun e => hc e.symm) ha

/-- Induction on the number of separators. -/
theorem cutInduction (sep : α) {P : List α → Prop} (whole : ∀ s, sep ∉ s → P s)
    (cut : ∀ a b, sep ∉ a → P b → P (a ++ sep :: b)) (s : List α) : P s := by
  induction hn : s.length using Nat.strongRecOn generalizing s with
  | ind n ih =>
    rcases not_mem_or_eq_append_cons sep s with h | ⟨a, b, ha, rfl⟩
    · exact whole s h
    · refine cut a b ha (ih b.length ?_ b rfl)
      rw [← hn, List.length_append, List.length_cons]
      omega

end ExportSurface
