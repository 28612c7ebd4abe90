/-!
# Texts

A text is the list of its characters and raw data is a list of bytes. This module holds the cuts
that the readers of this library make.

* `pieces sep s` are the stretches of `s` between occurrences of `sep`; joining them with `sep`
  gives `s` back (`join_pieces`).
* `dropPrefix? p s` is what follows `p` in `s` (`dropPrefix?_eq_some_iff`).
* `dropTrailing p s` leaves out the longest end of `s` on which `p` holds.
-/

namespace ExportSurface

/-- A text, as the list of its Unicode scalar values. -/
abbrev Text := List Char

/-- The contents of a file, the output of a process, a path: bytes in order. -/
abbrev Bytes := List UInt8

/-- Whether a text is one of a list. -/
instance Text.decidableMem (t : Text) (l : List Text) : Decidable (t ∈ l) := inferInstance

variable {α : Type} [DecidableEq α]

/-! ## Pieces -/

/-- The stretches of a list between the occurrences of a separator, in order. There is one more of
them than there are separators, so the empty list has one, which is empty. -/
def pieces (sep : α) : List α → List (List α)
  | [] => [[]]
  | c :: r =>
    if c = sep then [] :: pieces sep r
    else match pieces sep r with
      | [] => [[c]]
      | p :: ps => (c :: p) :: ps

/-- Puts a separator between neighbours. -/
def join (sep : α) : List (List α) → List α
  | [] => []
  | [p] => p
  | p :: q :: ps => p ++ sep :: join sep (q :: ps)

theorem pieces_ne_nil (sep : α) (s : List α) : pieces sep s ≠ [] := by
  cases s with
  | nil => simp [pieces]
  | cons c r =>
    unfold pieces
    split
    · simp
    · split <;> simp

theorem join_pieces (sep : α) (s : List α) : join sep (pieces sep s) = s := by
  induction s with
  | nil => rfl
  | cons c r ih =>
    obtain ⟨p, ps, h⟩ := List.exists_cons_of_ne_nil (pieces_ne_nil sep r)
    rw [h] at ih
    by_cases hc : c = sep
    · simp [pieces, hc, h, join, ih]
    · cases ps with
      | nil => simpa [pieces, hc, h, join] using ih
      | cons q qs => simpa [pieces, hc, h, join] using ih

/-! ## Both ends -/

/-- What follows `p`, when the list starts with it. -/
def dropPrefix? : (p s : List α) → Option (List α)
  | [], s => some s
  | _ :: _, [] => none
  | a :: p, b :: s => if a = b then dropPrefix? p s else none

theorem dropPrefix?_eq_some_iff {p s r : List α} : dropPrefix? p s = some r ↔ s = p ++ r := by
  induction p generalizing s with
  | nil => simp [dropPrefix?]
  | cons a p ih =>
    cases s with
    | nil => simp [dropPrefix?]
    | cons b s =>
      by_cases h : a = b
      · simp [dropPrefix?, h, ih]
      · simp [dropPrefix?, h, Ne.symm h]

/-- The list without the longest end on which `p` holds. -/
def dropTrailing {α : Type} (p : α → Bool) (s : List α) : List α :=
  (s.reverse.dropWhile p).reverse

end ExportSurface
