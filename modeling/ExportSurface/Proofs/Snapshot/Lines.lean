import ExportSurface.Proofs.Text.Pieces
import ExportSurface.SymbolSet
import Mathlib.Data.List.Basic

/-!
# Names, one to a line

The text of a set of names has a line for each member, and its lines say which set it is.

* `SymbolSet.IsLinesOf` is a text with the members of a set on its lines, in order.
* `SymbolSet.isLinesOf_render`: the text form of a set is such a text, if its members have no line
  feeds.
* `SymbolSet.IsLinesOf.eq_iff`: such texts are the same exactly if the sets are.
* `SymbolSet.render_append_inj`: the lines of a set say which set it is even if other text follows,
  as long as that starts with an empty line.
-/

namespace ExportSurface

/-- The text can stand on a line of its own, and be seen there. -/
structure Text.IsLine (n : Text) : Prop where
  ne_nil : n ≠ []
  not_mem_line_feed : '\n' ∉ n

instance : DecidablePred Text.IsLine := fun n =>
  decidable_of_iff (n ≠ [] ∧ '\n' ∉ n) ⟨fun h => ⟨h.1, h.2⟩, fun h => ⟨h.1, h.2⟩⟩

namespace SymbolSet

/-- The lines of the text are the members of the set in increasing order, and each ends with a line
feed. -/
def IsLinesOf (s : SymbolSet) (text : Text) : Prop :=
  ∃ names : List Text, pieces '\n' text = names ++ [[]] ∧ names.Pairwise (· < ·) ∧
    ∀ n, n ∈ names ↔ n ∈ s

variable {s s' : SymbolSet} {text text' : Text}

theorem pieces_render_append (h : ∀ n ∈ s, '\n' ∉ n) (rest : Text) :
    pieces '\n' (s.render ++ rest) = s.toList ++ pieces '\n' rest := by
  rw [render, pieces_flatMap_concat, List.flatMap_congr fun n hn => pieces_of_not_mem (h n hn),
    List.flatMap_singleton']

theorem isLinesOf_render (h : ∀ n ∈ s, '\n' ∉ n) : s.IsLinesOf s.render := by
  refine ⟨s.toList, ?_, s.increasing, fun _ => mem_toList⟩
  rw [← List.append_nil s.render, pieces_render_append h]
  rfl

theorem IsLinesOf.eq_iff (h : s.IsLinesOf text) (h' : s'.IsLinesOf text') :
    text = text' ↔ s = s' := by
  obtain ⟨names, hlines, hincreasing, hmem⟩ := h
  obtain ⟨names', hlines', hincreasing', hmem'⟩ := h'
  constructor
  · rintro rfl
    obtain rfl : names = names' := List.append_cancel_right (hlines.symm.trans hlines')
    exact ext fun n => (hmem n).symm.trans (hmem' n)
  · rintro rfl
    obtain rfl : names = names' :=
      eq_of_increasing hincreasing hincreasing' fun n => (hmem n).trans (hmem' n).symm
    rw [← join_pieces '\n' text, hlines, ← hlines', join_pieces]

/-! ## Lines with other text behind them -/

/-- The names are the lines in front of the first empty one. -/
theorem takeWhile_pieces_render_append (h : ∀ n ∈ s, n.IsLine) {rest : Text}
    (hrest : ∀ c ∈ rest.head?, c = '\n') :
    (pieces '\n' (s.render ++ rest)).takeWhile (· ≠ []) = s.toList := by
  have hfirst : ∃ lines, pieces '\n' rest = [] :: lines := by
    cases rest with
    | nil => exact ⟨[], rfl⟩
    | cons c rest =>
      obtain rfl : c = '\n' := hrest c rfl
      exact ⟨_, if_pos rfl⟩
  obtain ⟨lines, hlines⟩ := hfirst
  have hnames : ∀ n ∈ s.toList, decide (n ≠ []) = true :=
    fun n hn => decide_eq_true (h n hn).ne_nil
  rw [pieces_render_append fun n hn => (h n hn).not_mem_line_feed, hlines,
    List.takeWhile_append_of_pos hnames, List.takeWhile_cons_of_neg (by simp), List.append_nil]

/-- **The lines of a set say which set it is**, and where they end. -/
theorem render_append_inj (h : ∀ n ∈ s, n.IsLine) (h' : ∀ n ∈ s', n.IsLine) {rest rest' : Text}
    (hrest : ∀ c ∈ rest.head?, c = '\n') (hrest' : ∀ c ∈ rest'.head?, c = '\n')
    (heq : s.render ++ rest = s'.render ++ rest') : s = s' ∧ rest = rest' := by
  have hnames : s.toList = s'.toList := by
    rw [← takeWhile_pieces_render_append h hrest, heq, takeWhile_pieces_render_append h' hrest']
  obtain rfl : s = s' := ext fun n => by rw [← mem_toList, hnames, mem_toList]
  exact ⟨rfl, List.append_cancel_left heq⟩

end SymbolSet

end ExportSurface
